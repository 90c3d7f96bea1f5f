import MemberAccess.Text.Blank

/-!
# Decimal digits of every script, and integers written with them

A decimal digit has a value in every script that writes one; the ten digits of a script are consecutive
code points, so the zeros are enough.  An integer may have blanks around it, one sign, and single
underscores between digits.  Reading takes time that grows faster than the count of the digits, so there is
a limit to it.
-/

namespace MemberAccess.Text

/-- The zeros of the scripts that have decimal digits (Unicode 14). -/
def digitZeros : List Nat := [
  0x30, 0x660, 0x6f0, 0x7c0, 0x966, 0x9e6, 0xa66, 0xae6, 0xb66, 0xbe6, 0xc66, 0xce6,
  0xd66, 0xde6, 0xe50, 0xed0, 0xf20, 0x1040, 0x1090, 0x17e0, 0x1810, 0x1946, 0x19d0, 0x1a80,
  0x1a90, 0x1b50, 0x1bb0, 0x1c40, 0x1c50, 0xa620, 0xa8d0, 0xa900, 0xa9d0, 0xa9f0, 0xaa50, 0xabf0,
  0xff10, 0x104a0, 0x10d30, 0x11066, 0x110f0, 0x11136, 0x111d0, 0x112f0, 0x11450, 0x114d0, 0x11650, 0x116c0,
  0x11730, 0x118e0, 0x11950, 0x11c50, 0x11d50, 0x11da0, 0x16a60, 0x16ac0, 0x16b50, 0x1d7ce, 0x1d7d8, 0x1d7e2,
  0x1d7ec, 0x1d7f6, 0x1e140, 0x1e2f0, 0x1e950, 0x1fbf0]

/-- The value of a decimal digit. -/
def digitValue? (c : Char) : Option Nat :=
  (digitZeros.find? fun z => z ≤ c.toNat && c.toNat < z + 10).map (c.toNat - ·)

/-- Reads the digits after the first one; an underscore must stand between two digits. -/
def readDigits (acc : Nat) : List Char → Option Nat
  | [] => some acc
  | '_' :: c :: r => (digitValue? c).bind fun d => readDigits (10 * acc + d) r
  | c :: r => (digitValue? c).bind fun d => readDigits (10 * acc + d) r

/-- The most digits that an integer is read from. -/
def maxDigits : Nat := 4300

/-- Counts the digits that a text begins with; an underscore must stand between two digits. -/
def countDigits? (afterDigit : Bool) (count : Nat) : List Char → Option Nat
  | [] => if afterDigit then some count else none
  | c :: r =>
      if c = '_' then if afterDigit then countDigits? false count r else none
      else if (digitValue? c).isSome then countDigits? true (count + 1) r
      else if afterDigit then some count else none

/-- How many digits a text begins with, if they are too many. -/
def tooManyDigits? (cs : List Char) : Option Nat := (countDigits? false 0 cs).filter (maxDigits < ·)

/-- Reads a natural number without sign. -/
def natural? (cs : List Char) : Option Nat :=
  if (tooManyDigits? cs).isSome then none
  else
    match cs with
    | [] => none
    | c :: r => (digitValue? c).bind fun d => readDigits d r

/-- Whether a minus sign stands in front, and what follows the sign. -/
def unsigned : List Char → Bool × List Char
  | '-' :: r => (true, r)
  | '+' :: r => (false, r)
  | r => (false, r)

/-- The blanks that may stand around a number: all but the information separators. -/
def isNumberBlank (c : Char) : Bool := isBlank c && !(0x1c ≤ c.toNat && c.toNat ≤ 0x1f)

/-- Reads an integer: blanks around it, one sign, digits with single underscores between them. -/
def integer? (s : String) : Option Int :=
  let (negative, digits) := unsigned (trimBy isNumberBlank s.toList)
  (natural? digits).map fun (n : Nat) => if negative then -(n : Int) else (n : Int)

end MemberAccess.Text
