/-!
# Digits in groups of three

Counts in messages are written in decimal with a comma between groups of three digits.
-/

namespace MemberAccess.Text

/-- Puts a comma before every third digit from the right; the digits come least significant first. -/
def groupReversed : List Char → List Char
  | a :: b :: c :: d :: r => a :: b :: c :: ',' :: groupReversed (d :: r)
  | r => r

/-- The decimal digits of `n` with commas between groups of three. -/
def groupedNat (n : Nat) : List Char := (groupReversed (Nat.toDigits 10 n).reverse).reverse

/-- An integer with commas between groups of three digits. -/
def grouped (n : Int) : String :=
  String.ofList (if n < 0 then '-' :: groupedNat n.natAbs else groupedNat n.natAbs)

end MemberAccess.Text
