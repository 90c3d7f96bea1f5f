/-!
# Rounding a ratio to a binary floating-point format

Every number this library turns into floating point comes to it as an exact ratio: an integer, a
fraction, a decimal number, or another floating-point value.  One rule then serves all of them.  The
ratio is placed on the grid of the format whose step keeps the wanted count of binary digits, and the
nearest grid point is taken, a tie going to the even one.

The result is a significand and the exponent of its unit, so it stays in integer arithmetic and can be
reasoned about; packing it into bits is the business of `Number.Double`.
-/

namespace MemberAccess.Number

/-! ## §1 Quotients -/

/-- The integer nearest to `n / d`, a tie going to the even one. -/
def divNearestEven (n d : Nat) : Nat :=
  let q := n / d
  let r := n % d
  if 2 * r < d then q
  else if d < 2 * r then q + 1
  else q + q % 2

/-- The rounded quotient is never below the truncated one and exceeds it by at most one. -/
theorem div_le_divNearestEven (n d : Nat) :
    n / d ≤ divNearestEven n d ∧ divNearestEven n d ≤ n / d + 1 := by
  unfold divNearestEven
  simp only
  split
  · omega
  · split <;> omega

/-- `2 ^ e * n` over `d`, kept as a ratio of naturals whatever the sign of `e`. -/
def scaleRatio (n d : Nat) (e : Int) : Nat × Nat :=
  if 0 ≤ e then (n <<< e.toNat, d) else (n, d <<< (-e).toNat)

/-! ## §2 Formats -/

/-- A binary format: the count of significand digits and the range of the exponent of its unit. -/
structure Format where
  precision : Nat
  minExponent : Int
  maxExponent : Int
  deriving DecidableEq, Repr

/-- The 64-bit format. -/
def Format.double : Format := ⟨53, -1074, 971⟩

/-- The 32-bit format. -/
def Format.single : Format := ⟨24, -149, 104⟩

/-- The greatest `k` with `2 ^ k ≤ n / d`, for positive `n` and `d`. -/
def floorLog2 (n d : Nat) : Int :=
  let guess : Int := n.log2 - d.log2
  let (a, b) := scaleRatio n d (-guess)
  if a < b then guess - 1 else guess

/-- A non-negative value `significand * 2 ^ exponent`. -/
structure Scaled where
  significand : Nat
  exponent : Int
  deriving DecidableEq, Repr

/-- The value of the format nearest to `n / d`, or nothing when that lies beyond the greatest one. -/
def Format.nearest (f : Format) (n d : Nat) : Option Scaled :=
  if n = 0 then some ⟨0, f.minExponent⟩
  else
    let e := max (floorLog2 n d - (f.precision - 1)) f.minExponent
    let (a, b) := scaleRatio n d (-e)
    let m := divNearestEven a b
    let s : Scaled := if m = 1 <<< f.precision then ⟨1 <<< (f.precision - 1), e + 1⟩ else ⟨m, e⟩
    if f.maxExponent < s.exponent then none else some s

/-- The exact ratio that a scaled value stands for. -/
def Scaled.ratio (s : Scaled) : Nat × Nat := scaleRatio s.significand 1 s.exponent

/-! ## §3 Square roots -/

/-- The greatest natural number whose square is not above `n`, found two binary digits at a time. -/
def floorSqrt (n : Nat) : Nat :=
  if h : n = 0 then 0
  else
    have : n / 4 < n := Nat.div_lt_self (Nat.pos_of_ne_zero h) (by decide)
    let r := 2 * floorSqrt (n / 4)
    if (r + 1) * (r + 1) ≤ n then r + 1 else r
termination_by n

/-- A ratio that rounds to the same value of any format of up to 60 digits as the square root of a
positive scaled value: the root cut off after at least 63 digits, and then one more digit, which is set when
something was cut off. -/
def sqrtRatio (s : Scaled) : Nat × Nat :=
  let odd := (s.exponent % 2).toNat
  let m := s.significand <<< (odd + 128)
  let r := floorSqrt m
  let more := if r * r = m then 0 else 1
  scaleRatio (2 * r + more) 1 ((s.exponent - odd - 128) / 2 - 1)

/-- The square of the root is not above the number, and that of the next number is. -/
theorem floorSqrt_spec (n : Nat) :
    floorSqrt n * floorSqrt n ≤ n ∧ n < (floorSqrt n + 1) * (floorSqrt n + 1) := by
  fun_induction floorSqrt n with
  | case1 => simp
  | case2 n h hlt r hle ih =>
    have hr : r = 2 * floorSqrt (n / 4) := rfl
    grind
  | case3 n h hlt r hle ih =>
    have hr : r = 2 * floorSqrt (n / 4) := rfl
    grind

end MemberAccess.Number
