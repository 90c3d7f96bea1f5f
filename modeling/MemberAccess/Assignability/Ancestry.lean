import MemberAccess.TypeForm.Normal
import MemberAccess.Hierarchy.Membership

/-!
# Ancestry of annotations

Whether one annotation stands somewhere in the hierarchy of another: a class above a class, a class
applied to arguments above the classes that were declared over it, or an applied class above one applied
to the same arguments.

The question is asked often, so its answers are kept in a `Memo`.  A memo looks its keys up by equality
of annotations, which is coarser than identity; a key that has no hash cannot be looked up at all.
`derivesBelow` is the plain answer and `Memo.derives` the kept one.
-/

namespace MemberAccess

namespace Origin

/-- Whether what one annotation applies is below what another applies. -/
def descends (st : Store) : Origin → Origin → Bool
  | .cls c, .cls d => st.isSubclass c d
  | .form .annotated, .form .annotated => true
  | _, _ => false

end Origin

/-- Whether arguments agree place by place with arguments of an ancestor, which may let everything
through. -/
def Argument.allBelow : List Argument → List Argument → Bool
  | [], [] => true
  | a :: as, b :: bs => (a.equal b || b.isAny) && allBelow as bs
  | _, _ => false

namespace Store

/-- The generic bases that a class was declared with. -/
def genericBases (st : Store) : ClassRef → List TypeForm
  | .builtin _ => []
  | .user i => (st.classInfo i).genericBases

/-- Whether some class of the lineage was declared over the annotation. -/
def declaredOver (st : Store) (c : ClassRef) (parent : TypeForm) : Bool :=
  (st.lineage c).any fun k => (st.genericBases k).any (·.equal parent)

/-- Whether `parent` stands somewhere in the hierarchy of `t`. -/
def derivesBelow (st : Store) (t parent : TypeForm) : Bool :=
  if t.equal parent || parent == .builtin .object then true
  else
    match parent.origin?, parent.arguments with
    | some above, wanted@(_ :: _) =>
        match t.origin? with
        | some own => own.descends st above && Argument.allBelow t.arguments wanted
        | none =>
            match t with
            | .cls c => st.declaredOver c parent
            | _ => false
    | _, _ =>
        match t.runtimeClass?, parent.runtimeClass? with
        | some c, some d => st.isSubclass c d
        | _, _ => false

end Store

/-! ## Answers kept -/

/-- The answers given so far; whatever else they say, an annotation stands in the hierarchy of its
equals. -/
structure Memo where
  answers : List ((TypeForm × TypeForm) × Bool)
  reflexive : ∀ e ∈ answers, e.1.1.equal e.1.2 = true → e.2 = true

/-- A question about annotations, asked with a memo at hand. -/
abbrev Ask (α : Type) := ExceptT Failure (StateM Memo) α

namespace Memo

/-- The memo before any question. -/
def empty : Memo := ⟨[], by simp⟩

instance : Inhabited Memo := ⟨empty⟩

/-- The answer kept for an equal question. -/
def find? (m : Memo) (t parent : TypeForm) : Option Bool :=
  (m.answers.find? fun e => e.1.1.equal t && e.1.2.equal parent).map (·.2)

/-- Finds out and keeps an answer. -/
def insert (m : Memo) (st : Store) (t parent : TypeForm) : Memo where
  answers := ((t, parent), st.derivesBelow t parent) :: m.answers
  reflexive := by
    simp only [List.mem_cons, forall_eq_or_imp]
    exact ⟨fun h => by simp [Store.derivesBelow, h], m.reflexive⟩

/-- Whether `parent` stands in the hierarchy of `t`, answered from the memo where it can be. -/
def derives (st : Store) (t parent : TypeForm) : Ask Bool := do
  if t.hashable && parent.hashable then
    let m ← get
    match m.find? t parent with
    | some b => return b
    | none =>
        set (m.insert st t parent)
        return st.derivesBelow t parent
  else throw (.fault .typeError)

end Memo
end MemberAccess
