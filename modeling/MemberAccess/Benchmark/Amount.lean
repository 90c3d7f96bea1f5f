import MemberAccess.Failure
import MemberAccess.Number.Decimal

/-!
# Amounts

The counts, durations and limits of a benchmark are whole numbers or floating-point ones.  Whole numbers
stay whole as long as they are only added and multiplied with whole numbers; a quotient is always
floating-point, and it is the exact quotient rounded once, however large its two parts are.

Everything that can go wrong while a benchmark runs is a `Fault`, named by its cause.
-/

namespace MemberAccess.Benchmark

open Number

/-! ## §1 Faults -/

/-- What went wrong in a benchmark. -/
inductive Fault
  | divisionByZero
  /-- a place behind the end of a list, or before its start -/
  | placeOutOfRange
  /-- a square beyond the greatest floating-point number -/
  | squareTooLarge
  /-- a whole number beyond the greatest floating-point number -/
  | numberTooLarge
  /-- a quotient of whole numbers beyond the greatest floating-point number -/
  | quotientTooLarge
  /-- something that is not a number where a whole number is wanted -/
  | notANumber
  /-- infinity where a whole number is wanted -/
  | infinite
  /-- a text that is no whole number where one is wanted -/
  | notWhole (written : String)
  /-- a whole number with more digits than are read -/
  | tooManyDigits (count : Nat)
  /-- raised by the function under measurement -/
  | raised (message : String)
  /-- a failure of the library under measurement -/
  | failed (f : Failure)
  deriving DecidableEq, Repr, Inhabited

namespace Fault

/-- The kind of a fault. -/
def kind : Fault → ErrorKind
  | divisionByZero => .zeroDivisionError
  | placeOutOfRange => .indexError
  | squareTooLarge | numberTooLarge | quotientTooLarge | infinite => .overflowError
  | notANumber | notWhole _ | tooManyDigits _ => .valueError
  | raised _ => .runtimeError
  | failed f => f.kind

/-- The wording of a fault. -/
def message : Fault → String
  | divisionByZero => "division by zero"
  | placeOutOfRange => "list index out of range"
  | squareTooLarge => "(34, 'Numerical result out of range')"
  | numberTooLarge => "int too large to convert to float"
  | quotientTooLarge => "integer division result too large for a float"
  | notANumber => "cannot convert float NaN to integer"
  | infinite => "cannot convert float infinity to integer"
  | notWhole s => "invalid literal for int() with base 10: " ++ Text.quoted s
  | tooManyDigits n =>
      "Exceeds the limit (" ++ toString Text.maxDigits ++
        " digits) for integer string conversion: value has " ++ toString n ++
        " digits; use sys.set_int_max_str_digits() to increase the limit"
  | raised m => m
  | failed f => f.message.getD f.kind.name

end Fault

/-- A computation that may meet a fault. -/
abbrev Checked (α : Type) := Except Fault α

/-! ## §2 Amounts -/

/-- A whole or a floating-point number. -/
inductive Amount
  | whole (n : Int)
  | real (x : Double)
  deriving DecidableEq, Repr, Inhabited

/-- The floating-point number nearest to a whole one. -/
def realOfInt (n : Int) : Checked Double :=
  match Double.ofInt n with
  | some x => .ok x
  | none => .error .numberTooLarge

/-- The quotient of two whole numbers; a zero is negative when exactly one of them is. -/
def quotientOfInts (n d : Int) : Checked Double :=
  if d = 0 then .error .divisionByZero
  else if n = 0 then .ok (Double.zero (d < 0))
  else
    match Double.ofRatio ((n < 0) != (d < 0)) n.natAbs d.natAbs with
    | some x => .ok x
    | none => .error .quotientTooLarge

namespace Amount

/-- The amount as a floating-point number. -/
def toReal : Amount → Checked Double
  | whole n => realOfInt n
  | real x => .ok x

/-- The sum of two amounts. -/
def add : Amount → Amount → Checked Amount
  | whole a, whole b => .ok (whole (a + b))
  | a, b => do
      let x ← a.toReal
      let y ← b.toReal
      return real (x.add y)

/-- The product of two amounts. -/
def mul : Amount → Amount → Checked Amount
  | whole a, whole b => .ok (whole (a * b))
  | a, b => do
      let x ← a.toReal
      let y ← b.toReal
      return real (x.mul y)

/-- An amount shared out evenly among a count. -/
def share (a : Amount) (count : Int) : Checked Double :=
  match a with
  | whole n => quotientOfInts n count
  | real x => do
      let y ← realOfInt count
      if y.isZero then throw .divisionByZero else return x.div y

/-- The order of two amounts, compared exactly; nothing when one is not a number. -/
def compare? : Amount → Amount → Option Ordering
  | whole a, whole b => some (compare a b)
  | real x, whole b => x.compareInt? b
  | whole a, real y => (y.compareInt? a).map Ordering.swap
  | real x, real y => x.compare? y

/-- Whether an amount is below another. -/
def isBelow (a b : Amount) : Bool := a.compare? b == some .lt

/-- Whether an amount is not above another, both being numbers. -/
def isAtMost (a b : Amount) : Bool := a.isBelow b || a.compare? b == some .eq

/-- The greater of two amounts; the first one, unless the second is above it. -/
def larger (a b : Amount) : Amount := if a.isBelow b then b else a

/-- The whole number that a rounding gives for an amount. -/
def rounded (round : Double → Option Int) : Amount → Checked Int
  | whole n => .ok n
  | real x =>
      match round x with
      | some n => .ok n
      | none => .error (if x.isNaN then .notANumber else .infinite)

/-- The greatest whole number not above an amount. -/
def floor : Amount → Checked Int := rounded Double.floor?

/-- The least whole number not below an amount. -/
def ceil : Amount → Checked Int := rounded Double.ceil?

end Amount
end MemberAccess.Benchmark
