import MemberAccess.Benchmark.Amount
import MemberAccess.Text.Split

/-!
# Processors to run on

Which processors a benchmark may use is written as a list of numbers and of ranges, such as `0,4-7`: parts
between commas, blanks around them, blank parts left out, and the two bounds of a range in either order.
What is written stands for a set, so it is kept in ascending order and without repetitions.
-/

namespace MemberAccess.Benchmark

/-! ## §1 What is written -/

/-- The whole numbers from one bound to the other, both included. -/
def wholesBetween (a b : Int) : List Int :=
  (List.range (max a b - min a b + 1).toNat).map fun (i : Nat) => min a b + i

/-- A whole number as it is written. -/
def wholeOf (cs : List Char) : Checked Int :=
  let number := Text.trimChars cs
  match Text.integer? (String.ofList number) with
  | some n => .ok n
  | none =>
      match Text.tooManyDigits? (Text.unsigned number).2 with
      | some count => .error (.tooManyDigits count)
      | none => .error (.notWhole (String.ofList number))

/-- The processors that one part names: a number, or two bounds with a dash between them. -/
def processorsOfPart (part : List Char) : Checked (List Int) :=
  match part.span (· ≠ '-') with
  | (low, _ :: high) => do
      let a ← wholeOf low
      let b ← wholeOf high
      return wholesBetween a b
  | (number, []) => do return [← wholeOf number]

/-- Leaves out each number that stands in front of an equal one. -/
def dropRepeated : List Int → List Int
  | a :: b :: r => if a = b then dropRepeated (b :: r) else a :: dropRepeated (b :: r)
  | r => r

/-- Numbers in ascending order, each once. -/
def ascendingSet (ns : List Int) : List Int := dropRepeated (ns.mergeSort (· ≤ ·))

/-- The processors that a text names. -/
def processors (spec : String) : Checked (List Int) := do
  let parts ← (Text.listed spec).mapM processorsOfPart
  return ascendingSet parts.flatten

/-! ## §2 What comes of it -/

/-- What was asked for and what came of it. -/
structure Affinity where
  /-- what was written, if anything -/
  requested : Option String
  applied : Bool
  /-- the processors in use, if they were chosen -/
  active : Option (List Int)
  deriving DecidableEq, Repr, Inhabited

/-- Nothing was asked for. -/
def Affinity.unset : Affinity := ⟨none, false, none⟩

/-- Chooses processors as a text asks for them, out of those that there are, or leaves the choice alone
where processors cannot be chosen, the text names none, or none of the named ones is there. -/
def Affinity.configure (written : Option String) (available : Option (List Int)) : Checked Affinity :=
  let spec := Text.trim (written.getD "")
  if spec = "" then .ok .unset
  else
    let asked : Affinity := ⟨some spec, false, none⟩
    match available with
    | none => .ok asked
    | some there => do
        let named ← processors spec
        match ascendingSet (there.filter named.contains) with
        | [] => return asked
        | active => return ⟨some spec, true, some active⟩

end MemberAccess.Benchmark
