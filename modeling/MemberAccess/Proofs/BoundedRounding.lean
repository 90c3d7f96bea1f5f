import Mathlib.Algebra.Order.Field.Power
import Mathlib.Algebra.Order.Field.Rat
import Mathlib.Tactic.FieldSimp
import Mathlib.Tactic.Linarith
import Mathlib.Tactic.Positivity
import Mathlib.Tactic.Ring
import MemberAccess.Number.Double

/-!
# Bounded rounding

Every operation on floating-point numbers takes the exact result and rounds it once.  What is said of rounding
here is little, and it is what bounds need: a power of two of the format is not left behind by rounding, from
neither side.  A sum, a product or a quotient is then within a power of two when the exact one is.

There is one more digit to be had.  What is above a power of two by less than half a unit is rounded down to
it, so a bound on a running sum can be kept for ever when what is added is small enough.

The exact values are rational numbers; bits are read as numbers once, in the lemma on the parts of a double.
-/

namespace MemberAccess.Number

/-! ## §1  Exact values -/

/-- The number that a scaled value stands for. -/
def Scaled.value (s : Scaled) : ℚ := s.significand * 2 ^ s.exponent

/-- A power of two is a multiple of any smaller one. -/
theorem exists_zpow_eq {e p : Int} (h : e ≤ p) :
    ∃ j : Nat, p = e + j ∧ (2 : ℚ) ^ p = (2 ^ j : Nat) * 2 ^ e := by
  obtain ⟨j, hj⟩ := Int.eq_ofNat_of_zero_le (sub_nonneg.mpr h)
  obtain rfl : p = e + j := by omega
  refine ⟨j, rfl, ?_⟩
  rw [zpow_add₀ two_ne_zero, zpow_natCast, mul_comm, Nat.cast_pow, Nat.cast_ofNat]

/-- What is at most a power of two is not above it by half a unit. -/
theorem le_zpow_add {x : ℚ} {p : Int} (h : x ≤ 2 ^ p) : x ≤ 2 ^ p + 2 ^ (p - 54) :=
  h.trans (le_add_of_nonneg_right (by positivity))

theorem Scaled.value_nonneg (s : Scaled) : 0 ≤ s.value := by
  unfold Scaled.value
  positivity

/-- Scaling a ratio is multiplying it by a power of two. -/
theorem scaleRatio_value {n d : Nat} (hd : 0 < d) (e : Int) :
    0 < (scaleRatio n d e).2 ∧ ((scaleRatio n d e).1 : ℚ) / (scaleRatio n d e).2 = n / d * 2 ^ e := by
  unfold scaleRatio
  split
  case isTrue he =>
    obtain ⟨k, rfl⟩ := Int.eq_ofNat_of_zero_le he
    refine ⟨hd, ?_⟩
    simp only [Int.toNat_natCast, Nat.shiftLeft_eq, Nat.cast_mul, Nat.cast_pow, Nat.cast_ofNat,
      zpow_natCast]
    ring
  case isFalse he =>
    obtain ⟨k, hk⟩ := Int.eq_ofNat_of_zero_le (show 0 ≤ -e by omega)
    obtain rfl : e = -(k : Int) := by omega
    have hpow : (0 : Nat) < 2 ^ k := by positivity
    simp only [neg_neg, Int.toNat_natCast, Nat.shiftLeft_eq, Nat.cast_mul, Nat.cast_pow, Nat.cast_ofNat,
      zpow_neg, zpow_natCast]
    exact ⟨Nat.mul_pos hd hpow, by rw [div_mul_eq_div_div, div_eq_mul_inv (_ / _)]⟩

/-- Scaling a ratio down is dividing it. -/
theorem scaleRatio_neg_value {n d : Nat} (hd : 0 < d) (e : Int) :
    0 < (scaleRatio n d (-e)).2 ∧
      ((scaleRatio n d (-e)).1 : ℚ) / (scaleRatio n d (-e)).2 = (n : ℚ) / d / 2 ^ e := by
  obtain ⟨hb, hscaled⟩ := scaleRatio_value (n := n) hd (-e)
  exact ⟨hb, by rw [hscaled, zpow_neg, ← div_eq_mul_inv]⟩

theorem Scaled.ratio_value (s : Scaled) : 0 < s.ratio.2 ∧ (s.ratio.1 : ℚ) / s.ratio.2 = s.value := by
  have h := scaleRatio_value (n := s.significand) Nat.one_pos s.exponent
  exact ⟨h.1, h.2.trans (by simp [Scaled.value])⟩

/-! ## §2  Rounding to the grid -/

/-- A quotient that is less than half a unit above a number is not rounded beyond it. -/
theorem divNearestEven_le {n d k : Nat} (h : 2 * n < (2 * k + 1) * d) : divNearestEven n d ≤ k := by
  have hsplit := Nat.div_add_mod n d
  have hd : 0 < d := Nat.pos_of_ne_zero fun h0 => by simp [h0] at h
  have hlt := Nat.mod_lt n hd
  have hk : n / d ≤ k := by
    rw [← Nat.lt_succ_iff, Nat.div_lt_iff_lt_mul hd]
    nlinarith
  unfold divNearestEven
  dsimp only
  rcases hk.lt_or_eq with hlow | heq
  · split
    · omega
    · split <;> omega
  · -- at the number itself the remainder is below one half
    have hrem : 2 * (n % d) < d := by
      subst heq
      nlinarith
    rw [if_pos hrem, heq]

/-- A quotient that is not below a number is not rounded below it. -/
theorem le_divNearestEven {n d k : Nat} (hd : 0 < d) (h : k * d ≤ n) : k ≤ divNearestEven n d :=
  ((Nat.le_div_iff_mul_le hd).mpr h).trans (div_le_divNearestEven n d).1

/-- A positive number lies between the powers of two that its length gives. -/
theorem log2_bounds {n : Nat} (hn : 0 < n) :
    (2 : ℚ) ^ (n.log2 : Int) ≤ n ∧ (n : ℚ) < 2 ^ ((n.log2 : Int) + 1) := by
  constructor
  · exact_mod_cast Nat.log2_self_le hn.ne'
  · exact_mod_cast Nat.lt_log2_self (n := n)

/-- Dividing by a power of two tells whether a ratio reaches it. -/
theorem scaleRatio_neg_lt_iff {n d : Nat} (hd : 0 < d) (e : Int) :
    (scaleRatio n d (-e)).1 < (scaleRatio n d (-e)).2 ↔ (n : ℚ) / d < 2 ^ e := by
  obtain ⟨hb, hscaled⟩ := scaleRatio_neg_value (n := n) hd e
  rw [← div_lt_one (by positivity : (0 : ℚ) < 2 ^ e), ← hscaled, div_lt_one (by exact_mod_cast hb),
    Nat.cast_lt]

/-- The exponent of the leading digit of a ratio. -/
theorem floorLog2_spec {n d : Nat} (hn : 0 < n) (hd : 0 < d) :
    (2 : ℚ) ^ floorLog2 n d ≤ n / d ∧ (n : ℚ) / d < 2 ^ (floorLog2 n d + 1) := by
  have hd' : (0 : ℚ) < d := by exact_mod_cast hd
  obtain ⟨hnlow, hnhigh⟩ := log2_bounds hn
  obtain ⟨hdlow, hdhigh⟩ := log2_bounds hd
  -- the guess is the right exponent or one above it
  have hlow : (2 : ℚ) ^ ((n.log2 : Int) - d.log2 - 1) ≤ n / d := by
    rw [le_div_iff₀ hd']
    calc (2 : ℚ) ^ ((n.log2 : Int) - d.log2 - 1) * d
        ≤ 2 ^ ((n.log2 : Int) - d.log2 - 1) * 2 ^ ((d.log2 : Int) + 1) := by gcongr
      _ = 2 ^ (n.log2 : Int) := by rw [← zpow_add₀ two_ne_zero]; congr 1; ring
      _ ≤ n := hnlow
  have hhigh : (n : ℚ) / d < 2 ^ ((n.log2 : Int) - d.log2 + 1) := by
    rw [div_lt_iff₀ hd']
    calc (n : ℚ) < 2 ^ ((n.log2 : Int) + 1) := hnhigh
      _ = 2 ^ ((n.log2 : Int) - d.log2 + 1) * 2 ^ (d.log2 : Int) := by
          rw [← zpow_add₀ two_ne_zero]; congr 1; ring
      _ ≤ 2 ^ ((n.log2 : Int) - d.log2 + 1) * d := by gcongr
  unfold floorLog2
  dsimp only
  split
  case isTrue hbelow =>
    rw [sub_add_cancel]
    exact ⟨hlow, (scaleRatio_neg_lt_iff hd _).mp hbelow⟩
  case isFalse hbelow => exact ⟨not_lt.mp (mt (scaleRatio_neg_lt_iff hd _).mpr hbelow), hhigh⟩

/-- What every value of the 64-bit format is: its significand has at most 53 digits, its exponent is in the
range of the format, and no digit is given away unless the exponent is the least one. -/
structure Scaled.OnGrid (s : Scaled) : Prop where
  small : s.significand < 2 ^ 53
  low : -1074 ≤ s.exponent
  high : s.exponent ≤ 971
  full : 2 ^ 52 ≤ s.significand ∨ s.exponent = -1074

theorem Scaled.onGrid_zero : (⟨0, -1074⟩ : Scaled).OnGrid := ⟨by norm_num, le_rfl, by norm_num, .inr rfl⟩

theorem Scaled.value_zero {e : Int} : (⟨0, e⟩ : Scaled).value = 0 := by
  rw [Scaled.value, Nat.cast_zero, zero_mul]

/-- The exponent of the unit that a ratio is rounded to. -/
def unitExponent (n d : Nat) : Int := max (floorLog2 n d - 52) (-1074)

/-- The multiple of the unit that a ratio is rounded to. -/
def unitCount (n d : Nat) : Nat :=
  divNearestEven (scaleRatio n d (-unitExponent n d)).1 (scaleRatio n d (-unitExponent n d)).2

section
variable {n d k : Nat}

/-- A ratio that is less than half a unit above a multiple of the unit is not rounded beyond it. -/
theorem unitCount_le (hd : 0 < d) (h : (n : ℚ) / d < (k + 1 / 2) * 2 ^ unitExponent n d) :
    unitCount n d ≤ k := by
  obtain ⟨hb, hscaled⟩ := scaleRatio_neg_value (n := n) hd (unitExponent n d)
  rw [← div_lt_iff₀ (by positivity), ← hscaled, div_lt_iff₀ (by exact_mod_cast hb)] at h
  refine divNearestEven_le ?_
  have hcast : (2 : ℚ) * (scaleRatio n d (-unitExponent n d)).1 <
      (2 * k + 1) * (scaleRatio n d (-unitExponent n d)).2 := by linarith
  exact_mod_cast hcast

/-- A ratio that is not below a multiple of the unit is not rounded below it. -/
theorem le_unitCount (hd : 0 < d) (h : (k : ℚ) * 2 ^ unitExponent n d ≤ n / d) : k ≤ unitCount n d := by
  obtain ⟨hb, hscaled⟩ := scaleRatio_neg_value (n := n) hd (unitExponent n d)
  rw [← le_div_iff₀ (by positivity), ← hscaled, le_div_iff₀ (by exact_mod_cast hb)] at h
  exact le_divNearestEven hb (by exact_mod_cast h)

/-- The unit is chosen so that at most 53 digits are left, or a fifty-fourth by carrying. -/
theorem unitCount_le_full (hn : 0 < n) (hd : 0 < d) : unitCount n d ≤ 2 ^ 53 := by
  refine unitCount_le hd ?_
  calc (n : ℚ) / d < 2 ^ (floorLog2 n d + 1) := (floorLog2_spec hn hd).2
    _ ≤ 2 ^ (53 + unitExponent n d) := zpow_le_zpow_right₀ one_le_two (by unfold unitExponent; omega)
    _ = 2 ^ 53 * 2 ^ unitExponent n d := by rw [zpow_add₀ two_ne_zero]; norm_num
    _ ≤ ((2 ^ 53 : Nat) + 1 / 2) * 2 ^ unitExponent n d := by
      gcongr
      norm_num

/-- Above the least unit no digit is given away. -/
theorem full_le_unitCount (hn : 0 < n) (hd : 0 < d) :
    2 ^ 52 ≤ unitCount n d ∨ unitExponent n d = -1074 := by
  rcases max_choice (floorLog2 n d - 52) (-1074) with hmax | hmax
  · refine .inl (le_unitCount hd ?_)
    have hunit : unitExponent n d = floorLog2 n d - 52 := hmax
    calc ((2 ^ 52 : Nat) : ℚ) * 2 ^ unitExponent n d = 2 ^ floorLog2 n d := by
          rw [hunit, zpow_sub₀ two_ne_zero]; norm_num; ring
      _ ≤ n / d := (floorLog2_spec hn hd).1
  · exact .inr hmax

/-- The multiple of the unit that a ratio is rounded to, as a scaled value: a fifty-fourth digit is carried
over. -/
def roundedToUnit (n d : Nat) : Scaled :=
  if unitCount n d = 2 ^ 53 then ⟨2 ^ 52, unitExponent n d + 1⟩ else ⟨unitCount n d, unitExponent n d⟩

/-- Carrying changes the parts and not the value. -/
theorem roundedToUnit_value : (roundedToUnit n d).value = unitCount n d * 2 ^ unitExponent n d := by
  unfold roundedToUnit
  split
  case isTrue hcarry =>
    rw [hcarry, Scaled.value, zpow_add₀ two_ne_zero]
    norm_num
    ring
  case isFalse => rfl

theorem roundedToUnit_onGrid (hn : 0 < n) (hd : 0 < d) (h : (roundedToUnit n d).exponent ≤ 971) :
    (roundedToUnit n d).OnGrid := by
  have hcount := unitCount_le_full hn hd
  have hlow : -1074 ≤ unitExponent n d := le_max_right ..
  unfold roundedToUnit at h ⊢
  split at h
  case isTrue hcarry =>
    rw [if_pos hcarry]
    exact ⟨by norm_num, by dsimp only; omega, h, .inl le_rfl⟩
  case isFalse hcarry =>
    rw [if_neg hcarry]
    exact ⟨lt_of_le_of_ne hcount hcarry, hlow, h, full_le_unitCount hn hd⟩

theorem nearest_of_pos (hn : 0 < n) : Format.double.nearest n d =
    if 971 < (roundedToUnit n d).exponent then none else some (roundedToUnit n d) := by
  unfold Format.nearest
  rw [if_neg hn.ne']
  rfl

/-- The leading digit of a ratio that is at most a power of two, or just above it, is not above it. -/
theorem floorLog2_le {p : Int} (hn : 0 < n) (hd : 0 < d) (h : (n : ℚ) / d ≤ 2 ^ p + 2 ^ (p - 54)) :
    floorLog2 n d ≤ p := by
  have hhalf : (2 : ℚ) ^ (p - 54) < 2 ^ p := zpow_lt_zpow_right₀ one_lt_two (by omega)
  have hbelow : (2 : ℚ) ^ floorLog2 n d < 2 ^ (p + 1) :=
    calc (2 : ℚ) ^ floorLog2 n d ≤ n / d := (floorLog2_spec hn hd).1
      _ ≤ 2 ^ p + 2 ^ (p - 54) := h
      _ < 2 ^ p + 2 ^ p := by linarith
      _ = 2 ^ (p + 1) := by rw [zpow_add₀ two_ne_zero]; ring
  exact Int.lt_add_one_iff.mp ((zpow_lt_zpow_iff_right₀ one_lt_two).mp hbelow)

/-- A power of two of the format is a multiple of the unit of what is at most just above it, which is rounded
to it at most. -/
theorem exists_unitCount_le {p : Int} (hn : 0 < n) (hd : 0 < d) (hlow : -1074 ≤ p)
    (h : (n : ℚ) / d ≤ 2 ^ p + 2 ^ (p - 54)) :
    ∃ j : Nat, p = unitExponent n d + j ∧ (2 : ℚ) ^ p = (2 ^ j : Nat) * 2 ^ unitExponent n d ∧
      unitCount n d ≤ 2 ^ j := by
  have hlog := floorLog2_le hn hd h
  have hunit : unitExponent n d ≤ p := max_le (by omega) hlow
  obtain ⟨j, hj, hpow⟩ := exists_zpow_eq hunit
  refine ⟨j, hj, hpow, unitCount_le hd ?_⟩
  rw [add_mul, ← hpow]
  rcases hlog.lt_or_eq with hlt | heq
  · -- the ratio is below the power of two itself
    have hbelow : (n : ℚ) / d < 2 ^ p :=
      (floorLog2_spec hn hd).2.trans_le (zpow_le_zpow_right₀ one_le_two (by omega))
    have hhalf : (0 : ℚ) ≤ 1 / 2 * 2 ^ unitExponent n d := by positivity
    linarith
  · -- the power of two is the one below the ratio, so the unit is large enough
    have hhalf : (2 : ℚ) ^ (p - 54) < 1 / 2 * 2 ^ unitExponent n d := by
      have hunit : floorLog2 n d - 52 ≤ unitExponent n d := le_max_left ..
      rw [show (1 / 2 : ℚ) = 2 ^ (-1 : Int) by norm_num, ← zpow_add₀ two_ne_zero]
      exact zpow_lt_zpow_right₀ one_lt_two (by omega)
    linarith

/-- **A ratio that is not above a power of two by half a unit is rounded to it at most**, and such a power of
two is no end of the format. -/
theorem nearest_le {p : Int} (hd : 0 < d) (hlow : -1074 ≤ p) (hhigh : p ≤ 1023)
    (h : (n : ℚ) / d ≤ 2 ^ p + 2 ^ (p - 54)) :
    ∃ s, Format.double.nearest n d = some s ∧ s.OnGrid ∧ s.value ≤ 2 ^ p := by
  rcases Nat.eq_zero_or_pos n with rfl | hn
  · exact ⟨⟨0, -1074⟩, rfl, Scaled.onGrid_zero, by rw [Scaled.value_zero]; positivity⟩
  obtain ⟨j, hj, hpow, hcount⟩ := exists_unitCount_le hn hd hlow h
  have hlog := floorLog2_le hn hd h
  have hexponent : (roundedToUnit n d).exponent ≤ 971 := by
    unfold roundedToUnit
    split
    case isTrue hcarry =>
      have hj53 : 53 ≤ j := (Nat.pow_le_pow_iff_right Nat.one_lt_two).mp (hcarry ▸ hcount)
      show unitExponent n d + 1 ≤ 971
      omega
    case isFalse =>
      show unitExponent n d ≤ 971
      exact max_le (by omega) (by norm_num)
  refine ⟨_, (nearest_of_pos hn).trans (if_neg (not_lt.mpr hexponent)),
    roundedToUnit_onGrid hn hd hexponent, ?_⟩
  rw [roundedToUnit_value, hpow]
  gcongr

/-- **A ratio that is not below a power of two is not rounded below it.** -/
theorem le_nearest {q : Int} {s : Scaled} (hd : 0 < d) (hlow : -1074 ≤ q) (h : (2 : ℚ) ^ q ≤ n / d)
    (hs : Format.double.nearest n d = some s) : 2 ^ q ≤ s.value := by
  have hn : 0 < n := Nat.pos_of_ne_zero fun h0 => by
    rw [h0, Nat.cast_zero, zero_div] at h
    exact absurd h (not_le.mpr (by positivity))
  rw [nearest_of_pos hn] at hs
  split at hs
  case isTrue => cases hs
  case isFalse =>
    obtain rfl := Option.some.inj hs
    rw [roundedToUnit_value]
    rcases le_or_gt (unitExponent n d) q with hunit | hunit
    · obtain ⟨j, -, hpow⟩ := exists_zpow_eq hunit
      rw [hpow] at h ⊢
      have := le_unitCount hd h
      gcongr
    · have hfull : 2 ^ 52 ≤ unitCount n d := (full_le_unitCount hn hd).resolve_right (by omega)
      have hone : (1 : ℚ) ≤ unitCount n d := by exact_mod_cast (by omega : 1 ≤ unitCount n d)
      calc (2 : ℚ) ^ q ≤ 2 ^ unitExponent n d := zpow_le_zpow_right₀ one_le_two hunit.le
        _ ≤ unitCount n d * 2 ^ unitExponent n d := le_mul_of_one_le_left (by positivity) hone

theorem onGrid_of_nearest {s : Scaled} (hd : 0 < d) (hs : Format.double.nearest n d = some s) :
    s.OnGrid := by
  rcases Nat.eq_zero_or_pos n with rfl | hn
  · obtain rfl : (⟨0, -1074⟩ : Scaled) = s := Option.some.inj hs
    exact Scaled.onGrid_zero
  · rw [nearest_of_pos hn] at hs
    split at hs
    case isTrue => cases hs
    case isFalse h =>
      obtain rfl := Option.some.inj hs
      exact roundedToUnit_onGrid hn hd (not_lt.mp h)

end

/-! ## §3  Bits -/

namespace Double

/-- The parts of a double, read off its bits as a number. -/
theorem parts_eq (x : Double) : x.parts =
    if x.bits.toNat / 2 ^ 52 % 2 ^ 11 = 2047 then
      if x.bits.toNat % 2 ^ 52 = 0 then .infinite (decide (2 ^ 63 ≤ x.bits.toNat)) else .nan
    else if x.bits.toNat / 2 ^ 52 % 2 ^ 11 = 0 then
      .finite (decide (2 ^ 63 ≤ x.bits.toNat)) ⟨x.bits.toNat % 2 ^ 52, -1074⟩
    else .finite (decide (2 ^ 63 ≤ x.bits.toNat))
      ⟨x.bits.toNat % 2 ^ 52 + 2 ^ 52, (x.bits.toNat / 2 ^ 52 % 2 ^ 11 : Nat) - 1075⟩ := by
  have hexponent : ((x.bits >>> 52) &&& 0x7ff).toNat = x.bits.toNat / 2 ^ 52 % 2 ^ 11 := by
    rw [UInt64.toNat_and, UInt64.toNat_shiftRight, Nat.shiftRight_eq_div_pow]
    exact Nat.and_two_pow_sub_one_eq_mod _ 11
  have hsignificand : (x.bits &&& 0xfffffffffffff).toNat = x.bits.toNat % 2 ^ 52 := by
    rw [UInt64.toNat_and]
    exact Nat.and_two_pow_sub_one_eq_mod _ 52
  have hnegative : x.isNegative = decide (2 ^ 63 ≤ x.bits.toNat) := by
    unfold isNegative
    rw [decide_eq_decide, UInt64.le_iff_toNat_le]
    rfl
  unfold parts
  dsimp only
  rw [hexponent, hsignificand, hnegative]
  norm_num

/-- The three fields of a double, read off its bits as a number. -/
theorem fields_of_toNat {x : Double} (negative : Bool) {e m : Nat} (he : e < 2 ^ 11) (hm : m < 2 ^ 52)
    (h : x.bits.toNat = (if negative then 0x8000000000000000 else 0) + e * 2 ^ 52 + m) :
    x.bits.toNat / 2 ^ 52 % 2 ^ 11 = e ∧ x.bits.toNat % 2 ^ 52 = m ∧
      decide (2 ^ 63 ≤ x.bits.toNat) = negative := by
  rw [h]
  cases negative
  · rw [if_neg Bool.false_ne_true]
    exact ⟨by omega, by omega, decide_eq_false (by omega)⟩
  · rw [if_pos rfl]
    exact ⟨by omega, by omega, decide_eq_true (by omega)⟩

/-- What is packed is read again. -/
theorem parts_pack {s : Scaled} (h : s.OnGrid) (negative : Bool) :
    (pack negative s).parts = .finite negative s := by
  obtain ⟨m, e⟩ := s
  obtain ⟨hsmall, hlow, hhigh, hfull⟩ := h
  dsimp only at hsmall hlow hhigh hfull
  have hsign : (if negative = true then 0x8000000000000000 else 0 : Nat) ≤ 2 ^ 63 := by
    split <;> norm_num
  unfold pack
  dsimp only
  split
  case isTrue hm =>
    obtain rfl : e = -1074 := hfull.resolve_left (by omega)
    obtain ⟨hexponent, hsignificand, hnegative⟩ :=
      fields_of_toNat (x := ⟨UInt64.ofNat ((if negative then 0x8000000000000000 else 0) + m)⟩) negative
        (e := 0) (m := m) (by norm_num) hm (by
          rw [UInt64.toNat_ofNat', Nat.mod_eq_of_lt (by omega)]
          omega)
    rw [parts_eq, hexponent, hsignificand, hnegative, if_neg (by norm_num), if_pos rfl]
  case isFalse hm =>
    obtain ⟨k, hk⟩ := Int.eq_ofNat_of_zero_le (show 0 ≤ e + 1075 by omega)
    obtain ⟨hexponent, hsignificand, hnegative⟩ :=
      fields_of_toNat (x := ⟨UInt64.ofNat ((if negative then 0x8000000000000000 else 0) +
          (e + 1075).toNat <<< 52 + (m - 0x10000000000000))⟩) negative
        (e := k) (m := m - 2 ^ 52) (by omega) (by omega) (by
          rw [UInt64.toNat_ofNat', hk, Int.toNat_natCast, Nat.shiftLeft_eq, Nat.mod_eq_of_lt (by omega)]
          omega)
    rw [parts_eq, hexponent, hsignificand, hnegative, if_neg (by omega), if_neg (by omega)]
    rw [show m - 2 ^ 52 + 2 ^ 52 = m by omega, show (k : Int) - 1075 = e by omega]

/-- Flipping the topmost bit adds or takes away its worth. -/
theorem toNat_flip (w : UInt64) : (w ^^^ 0x8000000000000000).toNat = (w.toNat + 2 ^ 63) % 2 ^ 64 := by
  have hw := w.toNat_lt
  rw [UInt64.toNat_xor, show (0x8000000000000000 : UInt64).toNat = 2 ^ 63 from rfl]
  refine Nat.eq_of_testBit_eq fun i => ?_
  rw [Nat.testBit_xor, Nat.testBit_mod_two_pow, Nat.testBit_two_pow, Nat.add_comm w.toNat]
  rcases lt_trichotomy i 63 with hi | rfl | hi
  · rw [Nat.testBit_two_pow_add_gt hi]
    simp [hi.ne', show i < 64 by omega]
  · rw [Nat.testBit_two_pow_add_eq]
    simp
  · have hbit : w.toNat.testBit i = false :=
      Nat.testBit_lt_two_pow (hw.trans_le (Nat.pow_le_pow_right Nat.two_pos hi))
    simp [hbit, hi.ne, show ¬ i < 64 by omega]

/-- The other sign changes the sign of a finite number and nothing else. -/
theorem parts_neg {x : Double} {negative : Bool} {s : Scaled} (h : x.parts = .finite negative s) :
    x.neg.parts = .finite (!negative) s := by
  have hw := x.bits.toNat_lt
  have hflip := toNat_flip x.bits
  rw [parts_eq] at h
  have hexponent : x.bits.toNat / 2 ^ 52 % 2 ^ 11 ≠ 2047 := by
    intro heq
    rw [if_pos heq] at h
    split at h <;> cases h
  rw [if_neg hexponent] at h
  have hneg : x.neg = ⟨x.bits ^^^ 0x8000000000000000⟩ := by
    unfold neg ofBits
    refine if_neg ?_
    rw [UInt64.lt_iff_toNat_lt, UInt64.toNat_and, hflip]
    rw [show (0x7fffffffffffffff : UInt64).toNat = 2 ^ 63 - 1 from rfl, Nat.and_two_pow_sub_one_eq_mod]
    rw [show (0x7ff0000000000000 : UInt64).toNat = 2047 * 2 ^ 52 from rfl]
    omega
  rw [hneg, parts_eq]
  dsimp only
  rw [hflip]
  rw [show (x.bits.toNat + 2 ^ 63) % 2 ^ 64 / 2 ^ 52 % 2 ^ 11 = x.bits.toNat / 2 ^ 52 % 2 ^ 11 by omega,
    show (x.bits.toNat + 2 ^ 63) % 2 ^ 64 % 2 ^ 52 = x.bits.toNat % 2 ^ 52 by omega, if_neg hexponent]
  have hsign : decide (2 ^ 63 ≤ (x.bits.toNat + 2 ^ 63) % 2 ^ 64) = !decide (2 ^ 63 ≤ x.bits.toNat) := by
    rw [← decide_not, decide_eq_decide]
    omega
  rw [hsign]
  split at h
  case isTrue hzero =>
    rw [if_pos hzero]
    cases h
    rfl
  case isFalse hzero =>
    rw [if_neg hzero]
    cases h
    rfl

/-! ## §4  Bounded arithmetic -/

theorem natAbs_signed (c : Bool) (k : Int) : (if c then -k else k).natAbs = k.natAbs := by
  cases c
  · rfl
  · exact Int.natAbs_neg k

/-- A finite number whose distance from zero is at most a power of two. -/
def Within (x : Double) (p : Int) : Prop :=
  ∃ negative s, x.parts = .finite negative s ∧ s.value ≤ 2 ^ p

/-- A finite number whose distance from zero is at least a power of two. -/
def Reaches (x : Double) (q : Int) : Prop :=
  ∃ negative s, x.parts = .finite negative s ∧ 2 ^ q ≤ s.value

section
variable {x y : Double} {n d : Nat} {p q r : Int} {negative : Bool}

/-- A ratio that is at most a power of two, or just above it, has a nearest number, which is within it. -/
theorem exists_ofRatio_within (negative : Bool) (hd : 0 < d) (hlow : -1074 ≤ p) (hhigh : p ≤ 1023)
    (h : (n : ℚ) / d ≤ 2 ^ p + 2 ^ (p - 54)) : ∃ x, ofRatio negative n d = some x ∧ x.Within p := by
  obtain ⟨s, hs, hgrid, hle⟩ := nearest_le hd hlow hhigh h
  refine ⟨pack negative s, ?_, negative, s, parts_pack hgrid negative, hle⟩
  rw [ofRatio, hs]
  rfl

/-- A number that is nearest to a ratio reaches the powers of two that the ratio reaches. -/
theorem reaches_of_ofRatio (hd : 0 < d) (hlow : -1074 ≤ q) (h : (2 : ℚ) ^ q ≤ n / d)
    (hx : ofRatio negative n d = some x) : x.Reaches q := by
  unfold ofRatio at hx
  rw [Option.map_eq_some_iff] at hx
  obtain ⟨s, hs, rfl⟩ := hx
  exact ⟨negative, s, parts_pack (onGrid_of_nearest hd hs) negative, le_nearest hd hlow h hs⟩

theorem zero_within : (zero negative).Within p :=
  ⟨negative, ⟨0, -1074⟩, parts_pack Scaled.onGrid_zero negative, by rw [Scaled.value_zero]; positivity⟩

theorem ofSignedRatio_within {k : Int} (hd : 0 < d) (hlow : -1074 ≤ p) (hhigh : p ≤ 1023)
    (h : (k.natAbs : ℚ) / d ≤ 2 ^ p + 2 ^ (p - 54)) : (ofSignedRatio negative k d).Within p := by
  unfold ofSignedRatio
  split
  case isTrue => exact zero_within
  case isFalse =>
    obtain ⟨x, hx, hwithin⟩ := exists_ofRatio_within (decide (k < 0)) hd hlow hhigh h
    rw [hx]
    exact hwithin

theorem Within.neg (h : x.Within p) : x.neg.Within p := by
  obtain ⟨negative, s, hx, hs⟩ := h
  exact ⟨_, s, parts_neg hx, hs⟩

/-- **Adding within bounds**: a bound may even be kept when what is added is below half a unit at it. -/
theorem Within.add (hx : x.Within p) (hy : y.Within q) (hlow : -1074 ≤ r) (hhigh : r ≤ 1023)
    (h : (2 : ℚ) ^ p + 2 ^ q ≤ 2 ^ r + 2 ^ (r - 54)) : (x.add y).Within r := by
  obtain ⟨a, s, hx, hs⟩ := hx
  obtain ⟨b, t, hy, ht⟩ := hy
  obtain ⟨hsd, hsv⟩ := s.ratio_value
  obtain ⟨htd, htv⟩ := t.ratio_value
  have hsd' : (0 : ℚ) < s.ratio.2 := by exact_mod_cast hsd
  have htd' : (0 : ℚ) < t.ratio.2 := by exact_mod_cast htd
  unfold Double.add
  rw [hx, hy]
  dsimp only
  refine ofSignedRatio_within (Nat.mul_pos hsd htd) hlow hhigh (le_trans ?_ h)
  -- the terms, brought to the common denominator
  generalize hk : s.ratio.1 * t.ratio.2 = k
  generalize hl : t.ratio.1 * s.ratio.2 = l
  have habs := Int.natAbs_add_le (if a then -(k : Int) else k) (if b then -(l : Int) else l)
  rw [natAbs_signed, natAbs_signed, Int.natAbs_natCast, Int.natAbs_natCast] at habs
  calc _ ≤ ((k + l : Nat) : ℚ) / (s.ratio.2 * t.ratio.2 : Nat) := by gcongr
    _ = s.value + t.value := by
        rw [← hsv, ← htv, ← hk, ← hl]
        push_cast
        field_simp
    _ ≤ 2 ^ p + 2 ^ q := add_le_add hs ht

theorem Within.sub (hx : x.Within p) (hy : y.Within q) (hlow : -1074 ≤ r) (hhigh : r ≤ 1023)
    (h : (2 : ℚ) ^ p + 2 ^ q ≤ 2 ^ r + 2 ^ (r - 54)) : (x.sub y).Within r :=
  hx.add hy.neg hlow hhigh h

/-- **Multiplying within bounds.** -/
theorem Within.mul (hx : x.Within p) (hy : y.Within q) (hlow : -1074 ≤ p + q) (hhigh : p + q ≤ 1023) :
    (x.mul y).Within (p + q) := by
  obtain ⟨a, s, hx, hs⟩ := hx
  obtain ⟨b, t, hy, ht⟩ := hy
  obtain ⟨hsd, hsv⟩ := s.ratio_value
  obtain ⟨htd, htv⟩ := t.ratio_value
  unfold Double.mul
  rw [hx, hy]
  dsimp only
  refine ofSignedRatio_within (Nat.mul_pos hsd htd) hlow hhigh (le_zpow_add ?_)
  rw [natAbs_signed, Int.natAbs_mul, Int.natAbs_natCast, Int.natAbs_natCast, Nat.cast_mul, Nat.cast_mul,
    mul_div_mul_comm, hsv, htv]
  calc s.value * t.value ≤ 2 ^ p * 2 ^ q := mul_le_mul hs ht t.value_nonneg (by positivity)
    _ = 2 ^ (p + q) := (zpow_add₀ two_ne_zero p q).symm

/-- **Dividing within bounds.** -/
theorem Within.div (hx : x.Within p) (hy : y.Reaches q) (hlow : -1074 ≤ p - q) (hhigh : p - q ≤ 1023) :
    (x.div y).Within (p - q) := by
  obtain ⟨a, s, hx, hs⟩ := hx
  obtain ⟨b, t, hy, ht⟩ := hy
  obtain ⟨hsd, hsv⟩ := s.ratio_value
  obtain ⟨htd, htv⟩ := t.ratio_value
  have hvalue : 0 < t.value := lt_of_lt_of_le (by positivity) ht
  have htn : 0 < t.ratio.1 := Nat.pos_of_ne_zero fun h0 => by
    rw [h0, Nat.cast_zero, zero_div] at htv
    exact hvalue.ne htv
  unfold Double.div
  rw [hx, hy]
  dsimp only
  rw [if_neg htn.ne']
  refine ofSignedRatio_within (Nat.mul_pos hsd htn) hlow hhigh (le_zpow_add ?_)
  rw [natAbs_signed, Int.natAbs_mul, Int.natAbs_natCast, Int.natAbs_natCast, Nat.cast_mul, Nat.cast_mul,
    mul_div_mul_comm, hsv, ← inv_div (t.ratio.1 : ℚ), htv, ← div_eq_mul_inv]
  calc s.value / t.value ≤ 2 ^ p / 2 ^ q := div_le_div₀ (by positivity) hs (by positivity) ht
    _ = 2 ^ (p - q) := (zpow_sub₀ two_ne_zero p q).symm

/-- What reaches a power of two is not zero. -/
theorem Reaches.isZero (h : x.Reaches q) : x.isZero = false := by
  obtain ⟨negative, s, hx, hs⟩ := h
  rw [Double.isZero, beq_eq_false_iff_ne]
  intro hzero
  have hbits : x.bits.toNat % 2 ^ 63 = 0 := by
    rw [← Nat.and_two_pow_sub_one_eq_mod]
    exact (UInt64.toNat_and ..).symm.trans (congrArg UInt64.toNat hzero)
  rw [parts_eq, if_neg (by omega), if_pos (by omega)] at hx
  cases hx
  rw [show x.bits.toNat % 2 ^ 52 = 0 by omega, Scaled.value_zero] at hs
  exact absurd hs (not_le.mpr (by positivity))

/-- A number whose square is within the format has a square. -/
theorem Within.exists_square? (h : x.Within p) (hlow : -537 ≤ p) (hhigh : p ≤ 511) :
    ∃ y, x.square? = some y := by
  refine ⟨x.power two, ?_⟩
  unfold Double.square?
  obtain ⟨negative, s, hparts, -⟩ := h.mul h (by omega) (by omega)
  have hinfinite : (x.mul x).isInfinite = false := by
    rw [isInfinite, hparts]
  rw [hinfinite, Bool.and_false, if_neg Bool.false_ne_true]

/-- A finite number has a least integer that is not below it. -/
theorem Within.exists_ceil? (h : x.Within p) : ∃ k, x.ceil? = some k := by
  obtain ⟨negative, s, hx, -⟩ := h
  unfold ceil? ratio?
  rw [hx]
  exact ⟨_, rfl⟩

end

/-! ## §5  Order -/

/-- A finite number, as the number that it stands for. -/
def Is (x : Double) (v : ℚ) : Prop :=
  ∃ negative s, x.parts = .finite negative s ∧ v = if negative then -s.value else s.value

section
variable {x y : Double} {u v : ℚ} {p q : Int}

theorem Within.exists_is (h : x.Within p) : ∃ v, x.Is v := by
  obtain ⟨negative, s, hx, -⟩ := h
  exact ⟨_, negative, s, hx, rfl⟩

theorem abs_signed (negative : Bool) (s : Scaled) : |if negative then -s.value else s.value| = s.value := by
  cases negative
  · exact abs_of_nonneg s.value_nonneg
  · exact (abs_neg _).trans (abs_of_nonneg s.value_nonneg)

theorem Is.within (h : x.Is v) (hv : |v| ≤ 2 ^ p) : x.Within p := by
  obtain ⟨negative, s, hx, rfl⟩ := h
  exact ⟨negative, s, hx, abs_signed negative s ▸ hv⟩

theorem Is.reaches (h : x.Is v) (hv : 2 ^ q ≤ |v|) : x.Reaches q := by
  obtain ⟨negative, s, hx, rfl⟩ := h
  exact ⟨negative, s, hx, abs_signed negative s ▸ hv⟩

/-- Comparing ratios is comparing what they stand for. -/
theorem compareRatios_eq {n m : Int} {d e : Nat} (hd : 0 < d) (he : 0 < e) :
    compareRatios (n, d) (m, e) = compare ((n : ℚ) / d) (m / e) := by
  have hd' : (0 : ℚ) < d := by exact_mod_cast hd
  have he' : (0 : ℚ) < e := by exact_mod_cast he
  unfold compareRatios
  rcases lt_trichotomy (n * e : Int) (m * d) with h | h | h
  · rw [compare_lt_iff_lt.mpr h, eq_comm, compare_lt_iff_lt, div_lt_div_iff₀ hd' he']
    exact_mod_cast h
  · rw [compare_eq_iff_eq.mpr h, eq_comm, compare_eq_iff_eq, div_eq_div_iff hd'.ne' he'.ne']
    exact_mod_cast h
  · rw [compare_gt_iff_gt.mpr h, eq_comm, compare_gt_iff_gt, div_lt_div_iff₀ he' hd']
    exact_mod_cast h

theorem signed_ratio (negative : Bool) (s : Scaled) :
    ((if negative then -(s.ratio.1 : Int) else s.ratio.1 : Int) : ℚ) / s.ratio.2 =
      if negative then -s.value else s.value := by
  rw [← s.ratio_value.2]
  cases negative
  · simp
  · simp [neg_div]

theorem Is.compare? (hx : x.Is u) (hy : y.Is v) : x.compare? y = some (compare u v) := by
  obtain ⟨a, s, hx, rfl⟩ := hx
  obtain ⟨b, t, hy, rfl⟩ := hy
  unfold Double.compare?
  rw [hx, hy, ← signed_ratio, ← signed_ratio, ← compareRatios_eq s.ratio_value.1 t.ratio_value.1]

theorem Is.compareInt? (hx : x.Is u) (k : Int) : x.compareInt? k = some (compare u k) := by
  obtain ⟨a, s, hx, rfl⟩ := hx
  have hratios := compareRatios_eq (n := if a then -(s.ratio.1 : Int) else s.ratio.1) (m := k)
    s.ratio_value.1 Nat.one_pos
  rw [signed_ratio, Nat.cast_one, div_one] at hratios
  unfold Double.compareInt?
  rw [hx, ← hratios]

end

end Double

end MemberAccess.Number
