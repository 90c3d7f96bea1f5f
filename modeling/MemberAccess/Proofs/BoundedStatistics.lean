import MemberAccess.Benchmark.Sampling
import MemberAccess.Proofs.BoundedRounding

/-!
# Bounded statistics

The statistics of samples compute with whole and with floating-point numbers, and any step of theirs may fail:
a sum, a square or a quotient may be beyond the format, and what one divides by may be zero.  For samples that
a clock has timed none of it happens.  A reading of a clock has at most 64 binary digits and a difference of
two of them one more, so samples are within the power of two of exponent 65.  Their running sum stays within
that of exponent 119, where a sample is no more than half a unit; the mean, and the distance of a sample from
it, follow.  The squares of the distances may be any numbers, since what is made of them cannot fail.

One thing is left.  The samples are counted by a floating-point number, and there is none for a count beyond
the format.  No machine holds so many samples; each result below says what becomes of them all the same.
-/

namespace MemberAccess.Benchmark

open Number

/-! ## §1  Results up to a count -/

/-- Any count up to this one has a floating-point number nearest to it. -/
def maxCountable : Nat := 2 ^ 1023

theorem pow_le_maxCountable {k : Nat} (h : k ≤ 1023) : 2 ^ k ≤ maxCountable := by
  unfold maxCountable
  gcongr
  exact one_le_two

/-- A computation on so many samples gives a result with a property, unless there are too many of them. -/
def Gives {α : Type} (count : Nat) (P : α → Prop) (r : Checked α) : Prop :=
  (∃ a, r = .ok a ∧ P a) ∨ r = .error .numberTooLarge ∧ maxCountable < count

section
variable {α β : Type} {count : Nat} {P : α → Prop} {Q : β → Prop} {r : Checked α} {f : α → Checked β}

theorem gives_ok {a : α} (h : P a) : Gives count P (.ok a) := .inl ⟨a, rfl, h⟩

/-- After a first part that gives a result the rest is what is left. -/
theorem checked_bind {a : α} (h : r = .ok a) : r >>= f = f a := by
  rw [h]
  rfl

theorem gives_bind (hr : Gives count P r) (hf : ∀ a, P a → Gives count Q (f a)) :
    Gives count Q (r >>= f) := by
  rcases hr with ⟨a, rfl, ha⟩ | ⟨rfl, hcount⟩
  · exact hf a ha
  · exact .inr ⟨rfl, hcount⟩

end

/-! ## §2  Whole numbers and their quotients -/

section
variable {n d : Int} {p : Nat}

/-- A whole number that is not above a power of two of the format has a nearest floating-point number. -/
theorem exists_realOfInt_within (h : n.natAbs ≤ 2 ^ p) (hp : p ≤ 1023) :
    ∃ y, realOfInt n = .ok y ∧ y.Within p := by
  have hcast : (n.natAbs : ℚ) / (1 : Nat) ≤ 2 ^ (p : Int) := by
    rw [Nat.cast_one, div_one]
    exact_mod_cast h
  obtain ⟨y, hy, hwithin⟩ := Double.exists_ofRatio_within (decide (n < 0)) Nat.one_pos
    (by omega) (by omega) (le_zpow_add hcast)
  refine ⟨y, ?_, hwithin⟩
  rw [realOfInt, Double.ofInt, hy]

/-- A positive count has a nearest floating-point number, which reaches one, unless it is too great. -/
theorem gives_realOfInt {count : Nat} (hn : 1 ≤ n) (hcount : n ≤ count) :
    Gives count (Double.Reaches · 0) (realOfInt n) := by
  have hcast : (1 : ℚ) ≤ n.natAbs := by exact_mod_cast (by omega : 1 ≤ n.natAbs)
  cases hy : Double.ofInt n with
  | some y =>
    refine .inl ⟨y, by rw [realOfInt, hy], ?_⟩
    exact Double.reaches_of_ofRatio Nat.one_pos (by norm_num) (by simpa using hcast) hy
  | none =>
    refine .inr ⟨by rw [realOfInt, hy], ?_⟩
    by_contra hle
    have hsmall : n.natAbs ≤ 2 ^ 1023 := by
      unfold maxCountable at hle
      omega
    obtain ⟨y, hreal, -⟩ := exists_realOfInt_within hsmall le_rfl
    rw [realOfInt, hy] at hreal
    cases hreal

/-- A quotient of whole numbers is within a power of two that its dividend is within. -/
theorem exists_quotientOfInts_within (hd : 1 ≤ d) (h : n.natAbs ≤ 2 ^ p) (hp : p ≤ 1023) :
    ∃ x, quotientOfInts n d = .ok x ∧ x.Within p := by
  unfold quotientOfInts
  rw [if_neg (by omega)]
  split
  case isTrue => exact ⟨_, rfl, Double.zero_within⟩
  case isFalse =>
    have hone : (1 : ℚ) ≤ d.natAbs := by exact_mod_cast (by omega : 1 ≤ d.natAbs)
    have hdiv : (n.natAbs : ℚ) / d.natAbs ≤ 2 ^ (p : Int) :=
      (div_le_self (Nat.cast_nonneg _) hone).trans (by exact_mod_cast h)
    obtain ⟨x, hx, hwithin⟩ := Double.exists_ofRatio_within ((n < 0) != (d < 0))
      (by omega : 0 < d.natAbs) (by omega) (by omega) (le_zpow_add hdiv)
    rw [hx]
    exact ⟨x, rfl, hwithin⟩

end

/-! ## §3  Means and deviations -/

/-- Samples that are within what a difference of two readings of a clock can be. -/
def Timed (rows : List Double) : Prop := ∀ x ∈ rows, x.Within 65

theorem foldlM_add_real (s : Double) (xs : List Double) :
    (xs.map Amount.real).foldlM Amount.add (.real s) =
      (.ok (.real (xs.foldl Double.add s)) : Checked Amount) := by
  induction xs generalizing s with
  | nil => rfl
  | cons x xs ih => exact ih (s.add x)

/-- The sum of floating-point numbers is always had, whatever they are. -/
theorem total_real (x : Double) (xs : List Double) :
    total ((x :: xs).map .real) = .ok (.real ((x :: xs).foldl Double.add (Double.zero false))) :=
  foldlM_add_real ((Double.zero false).add x) xs

/-- **Running sums stay within a bound, however many there are**: at the bound, a sample is below half a
unit. -/
theorem foldl_add_within {rows : List Double} (hrows : Timed rows) {s : Double} (hs : s.Within 119) :
    (rows.foldl Double.add s).Within 119 := by
  induction rows generalizing s with
  | nil => exact hs
  | cons x xs ih =>
    refine ih (fun y hy => hrows y (.tail _ hy)) ?_
    exact hs.add (hrows x (.head _)) (by norm_num) (by norm_num) (by norm_num)

/-- An amount can be shared out among a positive count that is not too great. -/
theorem gives_share {s : Double} {P : Double → Prop} {count : Nat} {n : Int} (hn : 1 ≤ n)
    (hcount : n ≤ count) (h : ∀ y : Double, y.Reaches 0 → P (s.div y)) :
    Gives count P ((Amount.real s).share n) := by
  refine gives_bind (gives_realOfInt hn hcount) fun y hy => ?_
  rw [hy.isZero]
  exact gives_ok (h y hy)

/-- **Samples have a mean**, unless there are too many of them, and it is bounded as their sum is. -/
theorem gives_mean {rows : List Double} (hrows : Timed rows) (hne : rows ≠ []) :
    Gives rows.length (Double.Within · 119) (mean (rows.map .real)) := by
  obtain ⟨x, xs, rfl⟩ := List.exists_cons_of_ne_nil hne
  unfold mean
  rw [total_real, List.length_map]
  refine gives_share (by rw [List.length_cons]; omega) le_rfl fun y hy => ?_
  exact (foldl_add_within hrows Double.zero_within).div hy (by norm_num) (by norm_num)

/-- The distance of a sample from a mean has a square. -/
theorem exists_squaredDistance {x centre : Double} (hx : x.Within 65) (hcentre : centre.Within 119) :
    ∃ y, squaredDistance centre (.real x) = .ok (.real y) := by
  have hdistance : (x.sub centre).Within 120 := hx.sub hcentre (by norm_num) (by norm_num) (by norm_num)
  obtain ⟨y, hy⟩ := hdistance.exists_square? (by norm_num) (by norm_num)
  refine ⟨y, ?_⟩
  rw [squaredDistance, checked_bind (show (Amount.real x).toReal = .ok x from rfl), hy]
  rfl

theorem exists_squaredDistances {rows : List Double} (hrows : Timed rows) {centre : Double}
    (hcentre : centre.Within 119) :
    ∃ ys : List Double, ys.length = rows.length ∧
      (rows.map Amount.real).mapM (squaredDistance centre) = .ok (ys.map .real) := by
  induction rows with
  | nil => exact ⟨[], rfl, rfl⟩
  | cons x xs ih =>
    obtain ⟨y, hy⟩ := exists_squaredDistance (hrows x (.head _)) hcentre
    obtain ⟨ys, hlength, hys⟩ := ih fun z hz => hrows z (.tail _ hz)
    refine ⟨y :: ys, by simp [hlength], ?_⟩
    rw [List.map_cons, List.mapM_cons, hy, hys]
    rfl

/-- **Samples have a deviation**, unless there are too many of them. -/
theorem gives_deviation {rows : List Double} (hrows : Timed rows) (hne : rows ≠ []) :
    Gives rows.length (fun _ => True) (deviation (rows.map .real)) := by
  unfold deviation
  rw [List.length_map]
  split
  case isTrue => exact gives_ok trivial
  case isFalse hmany =>
    refine gives_bind (gives_mean hrows hne) fun centre hcentre => ?_
    obtain ⟨ys, hlength, hys⟩ := exists_squaredDistances hrows hcentre
    obtain ⟨z, zs, rfl⟩ := List.exists_cons_of_ne_nil (l := ys) (by
      rintro rfl
      exact hne (List.eq_nil_of_length_eq_zero hlength.symm))
    rw [hys]
    change Gives _ _ (total ((z :: zs).map .real) >>= fun sum =>
      sum.share (rows.length - 1 : Nat) >>= fun variance => pure variance.sqrt)
    rw [total_real]
    refine gives_bind (gives_ok (P := fun sum => ∃ s, sum = .real s) ⟨_, rfl⟩) ?_
    rintro _ ⟨s, rfl⟩
    exact gives_bind (P := fun _ => True) (gives_share (by omega) (by omega) fun _ _ => trivial)
      fun _ _ => gives_ok trivial

/-! ## §4  The greater of two amounts -/

namespace Amount

/-- An amount that is a number, as the number that it is. -/
def Is : Amount → ℚ → Prop
  | whole n, v => v = n
  | real x, v => x.Is v

section
variable {a b : Amount} {u v : ℚ} {p : Nat}

theorem Is.compare? (ha : a.Is u) (hb : b.Is v) : a.compare? b = some (compare u v) := by
  cases a with
  | whole n =>
    obtain rfl : u = n := ha
    cases b with
    | whole m =>
      obtain rfl : v = m := hb
      have hratios := Double.compareRatios_eq (n := n) (m := m) Nat.one_pos Nat.one_pos
      rw [Nat.cast_one, div_one, div_one, Double.compareRatios, Nat.cast_one, mul_one, mul_one] at hratios
      rw [← hratios]
      rfl
    | real y =>
      have hy : y.Is v := hb
      change (y.compareInt? n).map Ordering.swap = _
      rw [hy.compareInt?, Option.map_some, ← Std.OrientedCmp.eq_swap]
  | real x =>
    have hx : x.Is u := ha
    cases b with
    | whole m =>
      obtain rfl : v = m := hb
      exact hx.compareInt? m
    | real y => exact hx.compare? hb

theorem Is.isBelow_iff (ha : a.Is u) (hb : b.Is v) : a.isBelow b = true ↔ u < v := by
  rw [isBelow, ha.compare? hb, beq_iff_eq, Option.some_inj, compare_lt_iff_lt]

/-- The greater of two amounts is the greater of the two numbers. -/
theorem Is.larger (ha : a.Is u) (hb : b.Is v) : (a.larger b).Is (max u v) := by
  unfold Amount.larger
  split
  case isTrue h => rwa [max_eq_right ((ha.isBelow_iff hb).mp h).le]
  case isFalse h => rwa [max_eq_left (not_lt.mp (mt (ha.isBelow_iff hb).mpr h))]

/-- An amount that is within a power of two of the format is so as a floating-point number, too. -/
theorem Is.exists_toReal (ha : a.Is v) (hv : |v| ≤ 2 ^ p) (hp : p ≤ 1023) :
    ∃ x, a.toReal = .ok x ∧ x.Within p := by
  cases a with
  | whole n =>
    obtain rfl : v = n := ha
    have habs : (n.natAbs : ℚ) ≤ 2 ^ p := by rwa [Nat.cast_natAbs, Int.cast_abs]
    exact exists_realOfInt_within (by exact_mod_cast habs) hp
  | real x => exact ⟨x, rfl, Double.Is.within ha (by exact_mod_cast hv)⟩

/-- What is below a whole number is a number, or it is below all floating-point numbers. -/
theorem is_or_below_of_isBelow {k : Int} (h : a.isBelow (.whole k) = true) :
    (∃ u, a.Is u ∧ u < k) ∨ ∀ {y : Double} {w : ℚ}, y.Is w → a.isBelow (.real y) = true := by
  have hnumber {u : ℚ} (ha : a.Is u) : ∃ u, a.Is u ∧ u < k :=
    ⟨u, ha, (ha.isBelow_iff (b := .whole k) rfl).mp h⟩
  cases a with
  | whole n => exact .inl (hnumber rfl)
  | real x =>
    cases hx : x.parts with
    | finite negative s => exact .inl (hnumber ⟨negative, s, hx, rfl⟩)
    | infinite negative =>
      cases negative with
      | true =>
        refine .inr ?_
        rintro y w ⟨negative, s, hy, -⟩
        change (x.compare? y == some .lt) = true
        rw [Double.compare?, hx, hy]
        rfl
      | false =>
        change (x.compareInt? k == some .lt) = true at h
        rw [Double.compareInt?, hx] at h
        cases h
    | nan =>
      change (x.compareInt? k == some .lt) = true at h
      rw [Double.compareInt?, hx] at h
      cases h

end

end Amount

/-! ## §5  Counts of calls -/

theorem exists_realOfInt_one : ∃ x, realOfInt 1 = .ok x ∧ x.Is 1 :=
  ⟨⟨0x3ff0000000000000⟩, by decide +kernel, false, ⟨2 ^ 52, -52⟩, by decide +kernel, by
    norm_num [Scaled.value]⟩

theorem exists_realOfInt_ten : ∃ x, realOfInt 10 = .ok x ∧ x.Is 10 :=
  ⟨⟨0x4024000000000000⟩, by decide +kernel, false, ⟨10 * 2 ^ 49, -49⟩, by decide +kernel, by
    norm_num [Scaled.value]⟩

/-- The time of a call, taken to be ten at least, is far from zero. -/
theorem exists_perCall {trial elapsed : Int} (htrial : 1 ≤ trial) (helapsed : elapsed.natAbs ≤ 2 ^ 65) :
    ∃ q ten y, quotientOfInts elapsed trial = .ok q ∧ realOfInt 10 = .ok ten ∧
      ((Amount.real q).larger (.real ten)).toReal = .ok y ∧ y.Reaches 3 := by
  obtain ⟨q, hq, hwithin⟩ := exists_quotientOfInts_within htrial helapsed (by norm_num)
  obtain ⟨ten, hten, htenIs⟩ := exists_realOfInt_ten
  obtain ⟨u, hu⟩ := hwithin.exists_is
  have hlarger : ((Amount.real q).larger (.real ten)).Is (max u 10) := Amount.Is.larger hu htenIs
  have hten10 : (10 : ℚ) ≤ max u 10 := le_max_right ..
  have hreal : ∃ y, (Amount.real q).larger (.real ten) = .real y := by
    unfold Amount.larger
    split <;> exact ⟨_, rfl⟩
  obtain ⟨y, hy⟩ := hreal
  rw [hy] at hlarger
  refine ⟨q, ten, y, hq, hten, by rw [hy]; rfl, Double.Is.reaches hlarger ?_⟩
  rw [abs_of_nonneg (by linarith)]
  norm_num

/-- The wanted time, taken to be one at least, is bounded. -/
theorem exists_target {targetMs : Amount} (h : targetMs.isBelow (.whole 1000000000000) = true) :
    ∃ one y, realOfInt 1 = .ok one ∧ (targetMs.larger (.real one)).toReal = .ok y ∧ y.Within 40 := by
  obtain ⟨one, hone, honeIs⟩ := exists_realOfInt_one
  rcases Amount.is_or_below_of_isBelow h with ⟨u, hu, hbelow⟩ | hbelow
  · have hlarger : (targetMs.larger (.real one)).Is (max u 1) := hu.larger honeIs
    obtain ⟨y, hy, hwithin⟩ := hlarger.exists_toReal (p := 40) (by
      rw [abs_of_nonneg (zero_le_one.trans (le_max_right ..))]
      refine max_le (hbelow.le.trans ?_) ?_ <;> norm_num) (by norm_num)
    exact ⟨one, y, hone, hy, hwithin⟩
  · refine ⟨one, one, hone, ?_, honeIs.within (by norm_num)⟩
    rw [Amount.larger, if_pos (hbelow honeIs)]
    rfl

/-- **A calibration finds a count of calls whatever the clock shows**: the time of a call is far enough from
zero, and the wanted time far enough from the end of the format. -/
theorem exists_repeatsFor {trial elapsed : Int} {targetMs : Amount} (htrial : 1 ≤ trial)
    (helapsed : elapsed.natAbs ≤ 2 ^ 65) (htarget : targetMs.isBelow (.whole 1000000000000) = true)
    (minRepeats maxRepeats : Int) :
    ∃ wanted, Probe.repeatsFor trial elapsed targetMs minRepeats maxRepeats =
      .ok (max minRepeats (min wanted maxRepeats)) := by
  obtain ⟨q, ten, perCall, hq, hten, hperCall, hreaches⟩ := exists_perCall htrial helapsed
  obtain ⟨one, target, hone, htargetReal, hwithin⟩ := exists_target htarget
  obtain ⟨million, hmillion, hmillionWithin⟩ :=
    exists_realOfInt_within (n := 1000000) (p := 20) (by norm_num) (by norm_num)
  have hquotient := (hwithin.mul hmillionWithin (by norm_num) (by norm_num)).div hreaches (by norm_num)
    (by norm_num)
  obtain ⟨wanted, hwanted⟩ := hquotient.exists_ceil?
  have hceil : (Amount.real ((target.mul million).div perCall)).ceil = .ok wanted := by
    rw [Amount.ceil, Amount.rounded, hwanted]
  refine ⟨wanted, ?_⟩
  unfold Probe.repeatsFor
  rw [checked_bind hq, checked_bind hten, checked_bind hperCall, checked_bind hone,
    checked_bind htargetReal, checked_bind hmillion, checked_bind hceil]
  rfl

/-! ## §6  Settled samples -/

namespace Probe

/-- Samples vary by a coefficient: there is their deviation in hundredths of their mean, or none of it. -/
def VariesBy (rows : List Double) (v : Double) : Prop :=
  ∃ centre spread hundred, mean (rows.map .real) = .ok centre ∧ deviation (rows.map .real) = .ok spread ∧
    realOfInt 100 = .ok hundred ∧
    v = if Amount.isBelow (.whole 0) (.real spread) then (spread.div centre).mul hundred else Double.zero false

theorem VariesBy.unique {rows : List Double} {v w : Double} (h : VariesBy rows v) (h' : VariesBy rows w) :
    v = w := by
  obtain ⟨centre, spread, hundred, hcentre, hspread, hhundred, rfl⟩ := h
  obtain ⟨centre', spread', hundred', hcentre', hspread', hhundred', rfl⟩ := h'
  obtain rfl : centre = centre' := Except.ok.inj (hcentre.symm.trans hcentre')
  obtain rfl : spread = spread' := Except.ok.inj (hspread.symm.trans hspread')
  obtain rfl : hundred = hundred' := Except.ok.inj (hhundred.symm.trans hhundred')
  rfl

/-- **The coefficient of variation of samples can be told**, unless there are too many of them. -/
theorem gives_variation {rows : List Double} (hrows : Timed rows) (hne : rows ≠ []) :
    Gives rows.length (VariesBy rows) (variation rows) := by
  obtain ⟨hundred, hhundred, -⟩ := exists_realOfInt_within (n := 100) (p := 7) (by norm_num) (by norm_num)
  unfold variation
  dsimp only
  rcases gives_mean hrows hne with ⟨centre, hmean, -⟩ | ⟨hmean, hcount⟩
  case inr => exact .inr ⟨by rw [hmean]; rfl, hcount⟩
  rw [checked_bind hmean]
  rcases gives_deviation hrows hne with ⟨spread, hspread, -⟩ | ⟨hspread, hcount⟩
  case inr => exact .inr ⟨by rw [hspread]; rfl, hcount⟩
  rw [checked_bind hspread, hhundred]
  have hvaries : VariesBy rows
      (if Amount.isBelow (.whole 0) (.real spread) then (spread.div centre).mul hundred
        else Double.zero false) := ⟨centre, spread, hundred, hmean, hspread, hhundred, rfl⟩
  split at hvaries
  case isTrue hspreads =>
    rw [if_pos hspreads]
    exact gives_ok hvaries
  case isFalse hspreads =>
    rw [if_neg hspreads]
    exact gives_ok hvaries

/-- Samples that need no further ones: their mean is not above zero, or their coefficient of variation is
within the target. -/
def Settled (target : Amount) (rows : List Double) : Prop :=
  ∃ centre, mean (rows.map .real) = .ok centre ∧
    ((Amount.real centre).isAtMost (.whole 0) = true ∨
      ∃ v, VariesBy rows v ∧ (Amount.real v).isAtMost target = true)

/-- **Whether samples are settled can be told**, unless there are too many of them. -/
theorem gives_isSettled {rows : List Double} (hrows : Timed rows) (hne : rows ≠ []) (target : Amount) :
    Gives rows.length (fun b => b = true ↔ Settled target rows) (isSettled target rows) := by
  unfold isSettled
  rcases gives_mean hrows hne with ⟨centre, hmean, -⟩ | ⟨hmean, hcount⟩
  case inr => exact .inr ⟨by rw [hmean]; rfl, hcount⟩
  rw [hmean]
  change Gives _ _ (if (Amount.real centre).isAtMost (.whole 0) then (.ok true : Checked Bool)
    else variation rows >>= fun v => .ok ((Amount.real v).isAtMost target))
  split
  case isTrue hlow => exact gives_ok ⟨fun _ => ⟨centre, hmean, .inl hlow⟩, fun _ => rfl⟩
  case isFalse hlow =>
    rcases gives_variation hrows hne with ⟨v, hv, hvaries⟩ | ⟨hv, hcount⟩
    case inr => exact .inr ⟨by rw [hv]; rfl, hcount⟩
    rw [hv]
    refine gives_ok ⟨fun h => ⟨centre, hmean, .inr ⟨v, hvaries, h⟩⟩, ?_⟩
    rintro ⟨c, hc, hsettled⟩
    obtain rfl : centre = c := Except.ok.inj (hmean.symm.trans hc)
    obtain ⟨w, hw, hle⟩ := hsettled.resolve_left hlow
    obtain rfl := hvaries.unique hw
    exact hle

end Probe
end MemberAccess.Benchmark
