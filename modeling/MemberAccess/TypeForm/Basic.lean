import MemberAccess.Value.Atom

/-!
# Annotations

What a program writes where a type is wanted: a class, a class applied to arguments, a union, a type
variable, a name still to be looked up, or any other object.

Two questions about annotations have different answers.  Whether two annotations are *one object* decides
some shortcuts; it is plain equality here, because every annotation object that is formed anew carries a
`Mark` of its own, and objects that are shared carry the mark they share.  Whether two annotations are
*equal* ignores marks and the order of union members; that is `TypeForm.equal`, in
`TypeForm.Equality`.
-/

namespace MemberAccess

/-- The identity of an annotation object. -/
abbrev Mark := Nat

/-- How a union was written. -/
inductive UnionSpelling
  /-- by the union form applied to its members -/
  | subscript
  /-- with bars between its members -/
  | bar
  deriving DecidableEq, Repr, Inhabited

/-- How a class applied to arguments was written. -/
inductive AliasSpelling
  /-- the built-in class applied directly -/
  | direct
  /-- through a generic class, or the capitalised name of a built-in one -/
  | generic
  deriving DecidableEq, Repr, Inhabited

/-- A form of annotation standing alone, without arguments. -/
inductive BareForm
  | list | dict | tuple | type | callable
  | classVar | final | union | optional | literal | annotated
  deriving DecidableEq, Repr, Inhabited

/-- The class that a bare form stands for. -/
def BareForm.origin? : BareForm → Option Builtin
  | .list => some .list
  | .dict => some .dict
  | .tuple => some .tuple
  | .type => some .type
  | .callable => some .callable
  | _ => none

/-- The name of a bare form. -/
def BareForm.name : BareForm → String
  | .list => "List" | .dict => "Dict" | .tuple => "Tuple" | .type => "Type" | .callable => "Callable"
  | .classVar => "ClassVar" | .final => "Final" | .union => "Union" | .optional => "Optional"
  | .literal => "Literal" | .annotated => "Annotated"

/-- The bare form of a name. -/
def BareForm.named? (name : String) : Option BareForm :=
  [.list, .dict, .tuple, .type, .callable, .classVar, .final, .union, .optional, .literal,
    .annotated].find? fun f => f.name == name

/-- Any other object in the place of a type, with its printed form. -/
structure Foreign where
  value : Atom
  printed : String
  hashable : Bool
  deriving DecidableEq, Repr, Inhabited

/-- An annotation. -/
inductive TypeForm
  /-- the absent value, which also stands for its class -/
  | none
  | cls (c : ClassRef)
  | bare (form : BareForm)
  | ellipsis
  /-- a text that was never looked up -/
  | text (s : String)
  /-- a name to be looked up later, as an object -/
  | forward (s : String)
  | variable (name : String)
  | bounded (name : String) (bound : TypeForm)
  /-- a variable with a choice of types, kept as the union of them -/
  | choice (name : String) (options : TypeForm)
  | union (mark : Mark) (spelling : UnionSpelling) (members : List TypeForm)
  | alias (mark : Mark) (spelling : AliasSpelling) (origin : ClassRef) (arguments : List TypeForm)
  | callable (mark : Mark) (parameters : List TypeForm) (result : TypeForm)
  | annotated (mark : Mark) (inner : TypeForm) (notes : List String)
  | classVar (mark : Mark) (inner : TypeForm)
  | final (mark : Mark) (inner : TypeForm)
  | literal (mark : Mark) (values : List Foreign)
  | foreign (object : Foreign)
  deriving Repr, Inhabited

namespace TypeForm

/-- A built-in class as an annotation. -/
@[match_pattern] abbrev builtin (b : Builtin) : TypeForm := .cls (.builtin b)

/-! ## §1 One and the same object -/

mutual
/-- Whether two annotations are one object. -/
def same : TypeForm → TypeForm → Bool
  | .none, .none => true
  | .cls c, .cls d => c == d
  | .bare f, .bare g => f == g
  | .ellipsis, .ellipsis => true
  | .text s, .text t => s == t
  | .forward s, .forward t => s == t
  | .variable n, .variable m => n == m
  | .bounded n a, .bounded m b => n == m && same a b
  | .choice n a, .choice m b => n == m && same a b
  | .union i s xs, .union j t ys => i == j && s == t && sameList xs ys
  | .alias i s o xs, .alias j t p ys => i == j && s == t && o == p && sameList xs ys
  | .callable i xs a, .callable j ys b => i == j && sameList xs ys && same a b
  | .annotated i a ns, .annotated j b ms => i == j && same a b && ns == ms
  | .classVar i a, .classVar j b => i == j && same a b
  | .final i a, .final j b => i == j && same a b
  | .literal i vs, .literal j ws => i == j && vs == ws
  | .foreign a, .foreign b => a == b
  | _, _ => false

/-- Whether two lists hold the same objects in the same order. -/
def sameList : List TypeForm → List TypeForm → Bool
  | [], [] => true
  | a :: as, b :: bs => same a b && sameList as bs
  | _, _ => false
end

mutual
theorem eq_of_same {a b : TypeForm} (h : same a b = true) : a = b := by
  cases a <;> cases b <;> simp only [same, Bool.and_eq_true, beq_iff_eq, Bool.false_eq_true] at h <;>
    try rfl
  case cls.cls => rw [h]
  case bare.bare => rw [h]
  case text.text => rw [h]
  case forward.forward => rw [h]
  case variable.variable => rw [h]
  case bounded.bounded => rw [h.1, eq_of_same h.2]
  case choice.choice => rw [h.1, eq_of_same h.2]
  case union.union => rw [h.1.1, h.1.2, eq_of_sameList h.2]
  case alias.alias => rw [h.1.1.1, h.1.1.2, h.1.2, eq_of_sameList h.2]
  case callable.callable => rw [h.1.1, eq_of_sameList h.1.2, eq_of_same h.2]
  case annotated.annotated => rw [h.1.1, eq_of_same h.1.2, h.2]
  case classVar.classVar => rw [h.1, eq_of_same h.2]
  case final.final => rw [h.1, eq_of_same h.2]
  case literal.literal => rw [h.1, h.2]
  case foreign.foreign => rw [h]

theorem eq_of_sameList {as bs : List TypeForm} (h : sameList as bs = true) : as = bs := by
  cases as <;> cases bs <;> simp only [sameList, Bool.and_eq_true, Bool.false_eq_true] at h <;>
    try rfl
  case cons.cons => rw [eq_of_same h.1, eq_of_sameList h.2]
end

mutual
theorem same_self : (a : TypeForm) → same a a = true
  | .none | .ellipsis => by simp [same]
  | .cls _ | .bare _ | .text _ | .forward _ | .variable _ | .literal .. | .foreign _ => by simp [same]
  | .bounded _ a | .choice _ a | .classVar _ a | .final _ a => by simp [same, same_self a]
  | .annotated _ a _ => by simp [same, same_self a]
  | .union _ _ xs => by simp [same, sameList_self xs]
  | .alias _ _ _ xs => by simp [same, sameList_self xs]
  | .callable _ xs a => by simp [same, sameList_self xs, same_self a]

theorem sameList_self : (as : List TypeForm) → sameList as as = true
  | [] => by simp [sameList]
  | a :: as => by simp [sameList, same_self a, sameList_self as]
end

theorem same_iff (a b : TypeForm) : same a b = true ↔ a = b :=
  ⟨eq_of_same, fun h => h ▸ same_self a⟩

instance : DecidableEq TypeForm := fun a b => decidable_of_iff (same a b = true) (same_iff a b)

end TypeForm
end MemberAccess
