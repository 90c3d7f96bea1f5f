import MemberAccess.Value.Store

/-!
# The order of ancestors

A class has one order in which it and its ancestors are searched: the class first, every class before
its own bases, and bases in the order in which they were written.  The order is merged from the orders
of the bases; when the wishes contradict one another there is none, and the class cannot be declared.
-/

namespace MemberAccess.Hierarchy

variable {α : Type} [DecidableEq α]

/-- The first head of a list that stands in no other list behind its head. -/
def nextHead? (lists : List (List α)) : Option α :=
  lists.findSome? fun
    | [] => none
    | h :: _ => if lists.any fun l => l.tail.contains h then none else some h

/-- Merges lists so that the order within each of them is kept; fuel is the count of elements. -/
def merge? : Nat → List (List α) → Option (List α)
  | 0, lists => if lists.all (·.isEmpty) then some [] else none
  | fuel + 1, lists =>
      if lists.all (·.isEmpty) then some []
      else
        match nextHead? lists with
        | none => none
        | some h =>
            (merge? fuel (lists.map fun l => if l.head? = some h then l.tail else l)).map (h :: ·)

/-- The order of a class over the orders of its bases. -/
def linearize? (c : α) (bases : List α) (orders : List (List α)) : Option (List α) :=
  let lists := orders ++ [bases]
  (merge? lists.flatten.length lists).map (c :: ·)

/-- The class stands first in its order. -/
theorem head_linearize? {c : α} {bases : List α} {orders : List (List α)} {order : List α}
    (h : linearize? c bases orders = some order) : order.head? = some c := by
  simp only [linearize?, Option.map_eq_some_iff] at h
  obtain ⟨_, _, rfl⟩ := h
  rfl

end MemberAccess.Hierarchy
