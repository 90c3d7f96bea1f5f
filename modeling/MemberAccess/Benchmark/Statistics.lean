import MemberAccess.Benchmark.Amount

/-!
# Statistics

The mean, the standard deviation of a sample and the percentiles of a list of amounts.  Sums go from left
to right, and every intermediate result is rounded, so the order of the list is part of what is computed.

Percentiles put the list in order first.  The order is found by inserting each amount behind all that are
not above it, in the part that is in order already, by halving.  Of a list of numbers this is the stable
ascending order; something that is not a number is below nothing and above nothing, and then the halving
decides where it stays.
-/

namespace MemberAccess.Benchmark

open Number

/-! ## §1 Means and deviations -/

/-- The sum of amounts, from left to right. -/
def total (values : List Amount) : Checked Amount := values.foldlM Amount.add (.whole 0)

/-- The mean of amounts. -/
def mean (values : List Amount) : Checked Double := do
  let sum ← total values
  sum.share values.length

/-- The square of how far an amount is from a centre. -/
def squaredDistance (centre : Double) (a : Amount) : Checked Amount := do
  let x ← a.toReal
  match (x.sub centre).square? with
  | some y => return .real y
  | none => throw .squareTooLarge

/-- The standard deviation of a sample; zero for fewer than two amounts. -/
def deviation (values : List Amount) : Checked Double := do
  if values.length < 2 then return Double.zero false
  let centre ← mean values
  let sum ← total (← values.mapM (squaredDistance centre))
  let variance ← sum.share (values.length - 1 : Nat)
  return variance.sqrt

/-! ## §2 Order -/

/-- The place behind all amounts that `x` is not below, found by halving between two places. -/
def placeFor (x : Amount) (ordered : Array Amount) (low high : Nat) : Nat :=
  if low < high then
    let middle := low + (high - low) / 2
    if x.isBelow (ordered.getD middle default) then placeFor x ordered low middle
    else placeFor x ordered (middle + 1) high
  else low
termination_by high - low

/-- Inserts an amount into amounts that are in order. -/
def insertOrdered (ordered : Array Amount) (x : Amount) : Array Amount :=
  ordered.insertIdxIfInBounds (placeFor x ordered 0 ordered.size) x

/-- The amounts at the start of a list, after a first one, for as long as `follows` holds between
neighbours, and the rest. -/
def leadingRun (follows : Amount → Amount → Bool) (first : Amount) : List Amount → List Amount × List Amount
  | [] => ([first], [])
  | x :: rest =>
      if follows first x then
        let (run, rest) := leadingRun follows x rest
        (first :: run, rest)
      else ([first], x :: rest)

/-- The amounts in ascending order: the ascending or strictly descending start of the list is taken over
as a whole, and each further amount is inserted. -/
def ascending : List Amount → List Amount
  | [] => []
  | [x] => [x]
  | x :: y :: rest =>
      let (run, rest) :=
        if y.isBelow x then
          let (run, rest) := leadingRun (fun a b => b.isBelow a) x (y :: rest)
          (run.reverse, rest)
        else leadingRun (fun a b => !b.isBelow a) x (y :: rest)
      (rest.foldl insertOrdered run.toArray).toList

/-! ## §3 Percentiles -/

/-- The item at a place, counted from the end when the place is negative. -/
def itemAt (items : List Amount) (place : Int) : Checked Amount :=
  let i := if place < 0 then place + items.length else place
  if i < 0 then .error .placeOutOfRange
  else
    match items[i.toNat]? with
    | some a => .ok a
    | none => .error .placeOutOfRange

/-- The amount below which the share `q` of the amounts lies: the item at that share of the way from the
first to the last, or, between two items, the mixture of both in proportion to the distances. -/
def percentile (values : List Amount) (q : Amount) : Checked Amount := do
  match ascending values with
  | [a] => return a
  | ordered =>
      let place ← Amount.mul (.whole (ordered.length - 1)) q
      let low ← place.floor
      let high ← place.ceil
      if low = high then itemAt ordered low
      else
        let part := (← place.toReal).sub (← realOfInt low)
        let rest := (← realOfInt 1).sub part
        let a ← (← itemAt ordered low).mul (.real rest)
        let b ← (← itemAt ordered high).mul (.real part)
        a.add b

/-- The least of amounts that start with `first`; of equal ones the earliest. -/
def least (first : Double) (values : List Double) : Double :=
  values.foldl (fun low x => if x.compare? low == some .lt then x else low) first

end MemberAccess.Benchmark
