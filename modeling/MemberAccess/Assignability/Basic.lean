import MemberAccess.Assignability.Ancestry

/-!
# Assignability

Whether a value of one type may flow into a place of another.  Anything flows into a place that takes
anything, and a value of unknown type flows everywhere; into a union a value flows through some member,
and a union flows where all its members do; numbers widen; and what stands below a type flows into it.

The test is written once, over any way of answering questions of ancestry (`assignableVia`).
`Store.isAssignable` answers them plainly, `Memo.isAssignable` with answers kept.
-/

namespace MemberAccess
namespace TypeForm

/-! ## §1 The size of what is looked through -/

mutual
/-- How many unions, variables and wrappers an annotation nests. -/
def weight : TypeForm → Nat
  | .union _ _ ts => 1 + weights ts
  | .bounded _ t | .choice _ t | .annotated _ t _ | .classVar _ t => 1 + weight t
  | _ => 1

/-- The weights of several annotations together. -/
def weights : List TypeForm → Nat
  | [] => 0
  | t :: ts => 1 + weight t + weights ts
end

/-- A normal annotation nests no deeper. -/
theorem weight_normalize_le (t : TypeForm) : t.normalize.weight ≤ t.weight := by
  induction t using normalize.induct <;> simp_all [normalize, weight] <;> omega

/-- A union nests more than its members. -/
theorem weights_lt_of_normalize {t : TypeForm} {m s ts} (h : t.normalize = .union m s ts) :
    weights ts < t.weight := by
  have := weight_normalize_le t
  rw [h, weight] at this
  omega

end TypeForm

/-! ## §2 The test -/

section
variable {m : Type → Type} [Monad m] [MonadExceptOf Failure m]

mutual
/-- Whether a value of type `source` may flow into a place of type `target`, given a way to answer
questions of ancestry. -/
def assignableVia (derives : TypeForm → TypeForm → m Bool) (source target : TypeForm) : m Bool :=
  let own := source.normalize
  let wanted := target.normalize
  if own = wanted ∨ wanted.isAny ∨ own = .builtin .any then pure true
  else
    match _hw : target.normalize, _ho : source.normalize with
    | .union _ _ ts, s => assignableToSome derives s ts
    | t, .union _ _ ss => allAssignable derives ss t
    | t, s =>
        if s = .builtin .object then pure false
        else if !(s.hashable && t.hashable) then throw (Failure.fault .typeError)
        else if s.promotes t then pure true
        else derives s t
termination_by source.weight + target.weight
decreasing_by
  · have := TypeForm.weights_lt_of_normalize _hw
    have := TypeForm.weight_normalize_le source
    simp_all only
    omega
  · have := TypeForm.weights_lt_of_normalize _ho
    have := TypeForm.weight_normalize_le target
    simp_all only
    omega

/-- Whether a value of type `source` may flow into a place of one of the types. -/
def assignableToSome (derives : TypeForm → TypeForm → m Bool) (source : TypeForm)
    (targets : List TypeForm) : m Bool :=
  match targets with
  | [] => pure false
  | t :: ts => do
      if ← assignableVia derives source t then return true
      else assignableToSome derives source ts
termination_by source.weight + TypeForm.weights targets
decreasing_by all_goals simp only [TypeForm.weights]; omega

/-- Whether values of all the types may flow into a place of type `target`. -/
def allAssignable (derives : TypeForm → TypeForm → m Bool) (sources : List TypeForm)
    (target : TypeForm) : m Bool :=
  match sources with
  | [] => pure true
  | s :: ss => do
      if ← assignableVia derives s target then allAssignable derives ss target
      else return false
termination_by TypeForm.weights sources + target.weight
decreasing_by all_goals simp only [TypeForm.weights]; omega
end

end

/-- Whether a value of type `source` may flow into a place of type `target`; two types that no table can
hold cannot be compared. -/
def Store.isAssignable (st : Store) (source target : TypeForm) : Outcome Bool :=
  assignableVia (fun t parent => pure (st.derivesBelow t parent)) source target

/-- Assignability with the answers about ancestry kept. -/
def Memo.isAssignable (st : Store) (source target : TypeForm) : Ask Bool :=
  assignableVia (Memo.derives st) source target

end MemberAccess
