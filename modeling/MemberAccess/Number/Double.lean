import MemberAccess.Number.Rounding

/-!
# Doubles

A double is kept as its 64 bits, with one bit pattern for "not a number".  Two doubles are then the same
value to a program exactly when they are equal here, which the machine comparison does not give: that
one makes zero equal to minus zero and a NaN different from itself.  Conversions, order, printing and
arithmetic are done on the decoded value in integers: every operation takes the exact result and rounds it
once.  Only powers are left to the machine, because their last digit is the machine's own.
-/

namespace MemberAccess.Number

/-- A 64-bit floating-point value. -/
structure Double where
  bits : UInt64
  deriving DecidableEq, Repr, Inhabited

namespace Double

/-! ## §1 Bits and parts -/

/-- The one pattern used for "not a number". -/
def nan : Double := ⟨0x7ff8000000000000⟩

/-- Reads a bit pattern; every NaN pattern becomes `nan`. -/
def ofBits (w : UInt64) : Double :=
  if 0x7ff0000000000000 < (w &&& 0x7fffffffffffffff) then nan else ⟨w⟩

/-- What a bit pattern stands for. -/
inductive Parts
  | nan
  | infinite (negative : Bool)
  | finite (negative : Bool) (value : Scaled)
  deriving DecidableEq, Repr

/-- The sign bit. -/
def isNegative (x : Double) : Bool := 0x8000000000000000 ≤ x.bits

/-- Splits a double into sign, significand and exponent. -/
def parts (x : Double) : Parts :=
  let e := ((x.bits >>> 52) &&& 0x7ff).toNat
  let m := (x.bits &&& 0xfffffffffffff).toNat
  if e = 0x7ff then
    if m = 0 then .infinite x.isNegative else .nan
  else if e = 0 then .finite x.isNegative ⟨m, -1074⟩
  else .finite x.isNegative ⟨m + 0x10000000000000, (e : Int) - 1075⟩

/-- The bits of a sign and a value on the grid of the format. -/
def pack (negative : Bool) (s : Scaled) : Double :=
  let sign : Nat := if negative then 0x8000000000000000 else 0
  if s.significand < 0x10000000000000 then ⟨UInt64.ofNat (sign + s.significand)⟩
  else ⟨UInt64.ofNat
    (sign + (s.exponent + 1075).toNat <<< 52 + (s.significand - 0x10000000000000))⟩

/-- Plus or minus infinity. -/
def infinity (negative : Bool) : Double :=
  ⟨if negative then 0xfff0000000000000 else 0x7ff0000000000000⟩

/-- Plus or minus zero. -/
def zero (negative : Bool) : Double := pack negative ⟨0, -1074⟩

def isNaN (x : Double) : Bool := x.parts matches .nan
def isInfinite (x : Double) : Bool := x.parts matches .infinite _
def isFinite (x : Double) : Bool := x.parts matches .finite ..

/-- Whether the value is plus or minus zero. -/
def isZero (x : Double) : Bool := (x.bits &&& 0x7fffffffffffffff) == 0

/-! ## §2 Exact conversions -/

/-- The double nearest to plus or minus `n / d`, or nothing beyond the greatest finite one. -/
def ofRatio (negative : Bool) (n d : Nat) : Option Double :=
  (Format.double.nearest n d).map (pack negative)

/-- The double nearest to an integer, or nothing beyond the greatest finite one. -/
def ofInt (n : Int) : Option Double := ofRatio (n < 0) n.natAbs 1

/-- A finite double as a signed numerator over a positive denominator. -/
def ratio? (x : Double) : Option (Int × Nat) :=
  match x.parts with
  | .finite neg s =>
      let (n, d) := s.ratio
      some (if neg then -n else n, d)
  | _ => none

/-- The nearest value of the 32-bit format, as a double; beyond its greatest value, infinity. -/
def toSingle (x : Double) : Double :=
  match x.parts with
  | .finite neg s =>
      let (n, d) := s.ratio
      match Format.single.nearest n d with
      | some r =>
          let (a, b) := r.ratio
          (ofRatio neg a b).getD (infinity neg)
      | none => infinity neg
  | _ => x

/-! ## §3 Order -/

/-- The order of two ratios with positive denominators. -/
def compareRatios (a b : Int × Nat) : Ordering :=
  compare (a.1 * b.2) (b.1 * a.2)

/-- The numeric order; nothing when one side is not a number.  The two zeros are equal. -/
def compare? (x y : Double) : Option Ordering :=
  match x.parts, y.parts with
  | .nan, _ | _, .nan => none
  | .infinite a, .infinite b =>
      some (if a = b then .eq else if a then .lt else .gt)
  | .infinite a, .finite .. => some (if a then .lt else .gt)
  | .finite .., .infinite b => some (if b then .gt else .lt)
  | .finite a s, .finite b t =>
      let (n, d) := s.ratio
      let (m, e) := t.ratio
      some (compareRatios (if a then -n else n, d) (if b then -m else m, e))

/-- The order of a double and an integer, compared exactly. -/
def compareInt? (x : Double) (k : Int) : Option Ordering :=
  match x.parts with
  | .nan => none
  | .infinite a => some (if a then .lt else .gt)
  | .finite a s =>
      let (n, d) := s.ratio
      some (compareRatios (if a then -n else n, d) (k, 1))

/-! ## §4 Arithmetic -/

/-- The double nearest to a ratio, infinity beyond the greatest finite one; the sign is that of a result
that is zero. -/
def ofSignedRatio (zeroNegative : Bool) (n : Int) (d : Nat) : Double :=
  if n = 0 then zero zeroNegative
  else (ofRatio (n < 0) n.natAbs d).getD (infinity (n < 0))

/-- The value with the other sign. -/
def neg (x : Double) : Double := ofBits (x.bits ^^^ 0x8000000000000000)

/-- The exact sum, rounded; a sum of zero is negative only when both terms are. -/
def add (x y : Double) : Double :=
  match x.parts, y.parts with
  | .nan, _ | _, .nan => nan
  | .infinite a, .infinite b => if a = b then x else nan
  | .infinite _, .finite .. => x
  | .finite .., .infinite _ => y
  | .finite a s, .finite b t =>
      let (n, d) := s.ratio
      let (m, e) := t.ratio
      let signed (negative : Bool) (k : Nat) : Int := if negative then -k else k
      ofSignedRatio (a && b) (signed a (n * e) + signed b (m * d)) (d * e)

/-- The exact difference, rounded. -/
def sub (x y : Double) : Double := x.add y.neg

/-- The exact product, rounded. -/
def mul (x y : Double) : Double :=
  match x.parts, y.parts with
  | .nan, _ | _, .nan => nan
  | .infinite a, .infinite b => infinity (a != b)
  | .infinite a, .finite b _ => if y.isZero then nan else infinity (a != b)
  | .finite a _, .infinite b => if x.isZero then nan else infinity (a != b)
  | .finite a s, .finite b t =>
      let (n, d) := s.ratio
      let (m, e) := t.ratio
      let k : Int := n * m
      ofSignedRatio (a != b) (if a != b then -k else k) (d * e)

/-- The exact quotient, rounded. -/
def div (x y : Double) : Double :=
  match x.parts, y.parts with
  | .nan, _ | _, .nan => nan
  | .infinite _, .infinite _ => nan
  | .infinite a, .finite b _ => infinity (a != b)
  | .finite a _, .infinite b => zero (a != b)
  | .finite a s, .finite b t =>
      let (n, d) := s.ratio
      let (m, e) := t.ratio
      if m = 0 then (if n = 0 then nan else infinity (a != b))
      else
        let k : Int := n * e
        ofSignedRatio (a != b) (if a != b then -k else k) (d * m)

/-- The exact square root, rounded. -/
def sqrt (x : Double) : Double :=
  match x.parts with
  | .nan => nan
  | .infinite negative => if negative then nan else x
  | .finite negative s =>
      if s.significand = 0 then x
      else if negative then nan
      else
        let (n, d) := sqrtRatio s
        ofSignedRatio false n d

/-- Two, as a double. -/
def two : Double := ⟨0x4000000000000000⟩

/-- A power, its last digit as the machine gives it. -/
@[noinline] def power (x y : Double) : Double := ofBits (Float.pow (.ofBits x.bits) (.ofBits y.bits)).toBits

/-- The square of a value, or nothing when a finite value has one beyond the greatest finite double. -/
def square? (x : Double) : Option Double :=
  if x.isFinite && (x.mul x).isInfinite then none else some (x.power two)

/-! ## §5 Integers near a double -/

/-- The greatest integer not above a finite double. -/
def floor? (x : Double) : Option Int := x.ratio?.map fun (n, d) => n.fdiv d

/-- The least integer not below a finite double. -/
def ceil? (x : Double) : Option Int := x.ratio?.map fun (n, d) => -((-n).fdiv d)

end Double
end MemberAccess.Number
