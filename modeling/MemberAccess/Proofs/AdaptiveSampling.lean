import MemberAccess.Benchmark.Report
import MemberAccess.Proofs.BoundedStatistics
import MemberAccess.Proofs.Runs

/-!
# Adaptive sampling

A measurement takes a fixed count of samples and then further ones, until they agree well enough or there are
enough of them.  Nothing is known of the clock but the size of its readings: it may stand still, jump and run
backwards.  Sampling ends all the same, at the first count of samples that is good enough.

The loop that takes further samples is followed by induction on how many are allowed.  What each round keeps
is that the samples are timed, and that is all that the statistics need in order to give a result.  What the
loop does from some samples on is put together with those samples at the end.
-/

namespace MemberAccess.Benchmark

open Number

variable {σ : Type} {calls : σ → Nat}

namespace Probe

/-- A function that never fails and whose calls are counted, with a clock whose readings have at most 64
binary digits and a sign.  Nothing else is known of the readings. -/
structure Counted (p : Probe (StateM σ)) (calls : σ → Nat) : Prop where
  call : ∀ s, ∃ s', p.call.run.run s = (.ok (), s') ∧ calls s' = calls s + 1
  now : ∀ s, ∃ t s', p.now.run s = (t, s') ∧ |t| ≤ 2 ^ 64 ∧ calls s' = calls s

variable {p : Probe (StateM σ)} {plan : SamplePlan} {repeats : Int}

/-! ## §1  Timed calls -/

theorem Counted.exists_callTimes (hp : p.Counted calls) (n : Nat) (s : σ) :
    ∃ s', (p.callTimes n).run.run s = (.ok (), s') ∧ calls s' = calls s + n := by
  induction n generalizing s with
  | zero => exact ⟨s, rfl, rfl⟩
  | succ n ih =>
    obtain ⟨s₁, hcall, hcalls₁⟩ := hp.call s
    obtain ⟨s₂, hrest, hcalls₂⟩ := ih s₁
    exact ⟨s₂, (run_bind_ok hcall).trans hrest, by omega⟩

theorem Counted.exists_now (hp : p.Counted calls) (s : σ) :
    ∃ t s', (ExceptT.lift p.now : ExceptT Fault (StateM σ) Int).run.run s = (.ok t, s') ∧ |t| ≤ 2 ^ 64 ∧
      calls s' = calls s := by
  obtain ⟨t, s', hnow, ht, hcalls⟩ := hp.now s
  refine ⟨t, s', ?_, ht, hcalls⟩
  rw [ExceptT.run_lift, StateT.run_map, hnow]
  rfl

/-- The time of calls is had whatever the clock shows, and is within what two readings can differ by. -/
theorem Counted.exists_elapsed (hp : p.Counted calls) (count : Int) (s : σ) :
    ∃ time s', (p.elapsed count).run.run s = (.ok time, s') ∧ time.natAbs ≤ 2 ^ 65 ∧
      calls s' = calls s + count.toNat := by
  obtain ⟨start, s₁, hstart, hstartBound, hcalls₁⟩ := hp.exists_now s
  obtain ⟨s₂, htimes, hcalls₂⟩ := hp.exists_callTimes count.toNat s₁
  obtain ⟨stop, s₃, hstop, hstopBound, hcalls₃⟩ := hp.exists_now s₂
  refine ⟨stop - start, s₃, ?_, ?_, by omega⟩
  · exact (run_bind_ok hstart).trans ((run_bind_ok htimes).trans (run_bind_ok hstop))
  · rw [abs_le] at hstartBound hstopBound
    omega

/-- **A calibration gives a count between the least and the greatest one**, whatever the clock shows. -/
theorem Counted.exists_calibrate (hp : p.Counted calls) {targetMs : Amount}
    (htarget : targetMs.isBelow (.whole 1000000000000) = true) (minRepeats maxRepeats : Int) (s : σ) :
    ∃ r s', (p.calibrate targetMs minRepeats maxRepeats).run.run s = (.ok r, s') ∧ minRepeats ≤ r ∧
      r ≤ max minRepeats maxRepeats := by
  obtain ⟨time, s', helapsed, htime, -⟩ := hp.exists_elapsed (trialCalls minRepeats) s
  have htrial : 1 ≤ trialCalls minRepeats := le_trans (by norm_num) (le_max_left 16 _)
  obtain ⟨wanted, hwanted⟩ := exists_repeatsFor htrial htime htarget minRepeats maxRepeats
  refine ⟨max minRepeats (min wanted maxRepeats), s', (run_bind_ok helapsed).trans ?_, le_max_left ..,
    max_le_max le_rfl (min_le_right ..)⟩
  rw [run_liftExcept, hwanted]

/-! ## §2  Samples -/

theorem Counted.exists_sample (hp : p.Counted calls) (hrepeats : 1 ≤ repeats) (s : σ) :
    ∃ row s', (p.sample repeats).run.run s = (.ok row, s') ∧ row.Within 65 ∧
      (calls s' : Int) = calls s + repeats := by
  obtain ⟨time, s', helapsed, htime, hcalls⟩ := hp.exists_elapsed repeats s
  obtain ⟨row, hrow, hwithin⟩ := exists_quotientOfInts_within hrepeats htime (by norm_num)
  refine ⟨row, s', (run_bind_ok helapsed).trans ?_, hwithin, by omega⟩
  rw [run_liftExcept, hrow]

theorem Counted.exists_sampleTimes (hp : p.Counted calls) (hrepeats : 1 ≤ repeats) (n : Nat) (s : σ) :
    ∃ rows s', (p.sampleTimes repeats n).run.run s = (.ok rows, s') ∧ rows.length = n ∧ Timed rows ∧
      (calls s' : Int) = calls s + n * repeats := by
  induction n generalizing s with
  | zero => exact ⟨[], s, rfl, rfl, by simp [Timed], by simp⟩
  | succ n ih =>
    obtain ⟨row, s₁, hsample, hrow, hcalls₁⟩ := hp.exists_sample hrepeats s
    obtain ⟨rows, s₂, hrest, hlength, hrows, hcalls₂⟩ := ih s₁
    refine ⟨row :: rows, s₂, (run_bind_ok hsample).trans (run_bind_ok hrest), ?_, ?_, ?_⟩
    · rw [List.length_cons, hlength]
    · exact List.forall_mem_cons.mpr ⟨hrow, hrows⟩
    · rw [hcalls₂, hcalls₁, Nat.cast_succ]
      ring

/-- How sampling ends: with samples, which are settled when more were allowed, or with too many to count. -/
def Ends (outcome : Checked (List Double) × σ) (target : Amount) (allowed : Prop) (rows : List Double)
    (s' : σ) : Prop :=
  outcome = (.ok rows, s') ∧ (allowed → Settled target rows) ∨
    outcome = (.error .numberTooLarge, s') ∧ maxCountable < rows.length

/-- **Further samples are taken until all are settled for the first time**, or as many as allowed. -/
theorem Counted.exists_sampleMore (hp : p.Counted calls) (hrepeats : 1 ≤ plan.repeats) (n : Nat)
    {rows : List Double} (hrows : Timed rows) (hne : rows ≠ []) (s : σ) :
    ∃ more s', more.length ≤ n ∧
      (∀ j < more.length, ¬ Settled plan.variationTarget (rows ++ more.take j)) ∧
      (calls s' : Int) = calls s + more.length * plan.repeats ∧
      Ends ((p.sampleMore plan n rows).run.run s) plan.variationTarget (more.length < n) (rows ++ more)
        s' := by
  induction n generalizing rows s with
  | zero => exact ⟨[], s, le_rfl, by simp, by simp, .inl ⟨by rw [List.append_nil]; rfl, by simp⟩⟩
  | succ n ih =>
    rcases gives_isSettled hrows hne plan.variationTarget with ⟨b, hsettled, hb⟩ | ⟨hfault, hcount⟩
    case inr =>
      refine ⟨[], s, Nat.zero_le _, by simp, by simp, .inr ⟨?_, by rwa [List.append_nil]⟩⟩
      exact run_bind_error (by rw [run_liftExcept, hfault])
    have hrun : (liftExcept (isSettled plan.variationTarget rows) :
        ExceptT Fault (StateM σ) Bool).run.run s = (.ok b, s) := by
      rw [run_liftExcept, hsettled]
    cases b with
    | true =>
      refine ⟨[], s, Nat.zero_le _, by simp, by simp, .inl ⟨?_, fun _ => ?_⟩⟩
      · rw [List.append_nil]
        exact run_bind_ok hrun
      · rw [List.append_nil]
        exact hb.mp rfl
    | false =>
      obtain ⟨row, s₁, hsample, hrow, hcalls₁⟩ := hp.exists_sample hrepeats s
      have hrows' : Timed (rows ++ [row]) :=
        List.forall_mem_append.mpr ⟨hrows, List.forall_mem_singleton.mpr hrow⟩
      obtain ⟨more, s', hlength, hfirst, hcalls, hends⟩ := ih hrows' (by simp) s₁
      refine ⟨row :: more, s', Nat.succ_le_succ hlength, ?_, ?_, ?_⟩
      · intro j hj
        cases j with
        | zero =>
          rw [List.take_zero, List.append_nil]
          exact fun h => Bool.false_ne_true (hb.mpr h)
        | succ j =>
          rw [List.take_succ_cons, List.append_cons]
          exact hfirst j (Nat.lt_of_succ_lt_succ hj)
      · rw [hcalls, hcalls₁, List.length_cons, Nat.cast_succ]
        ring
      · have hstep : (p.sampleMore plan (n + 1) rows).run.run s =
            (p.sampleMore plan n (rows ++ [row])).run.run s₁ :=
          (run_bind_ok hrun).trans (run_bind_ok hsample)
        rw [hstep, List.append_cons rows row more, List.length_cons, Nat.succ_lt_succ_iff]
        exact hends

/-- What sampling with a plan does from a state on: it takes `rows` and leaves `s'`.  The samples are as many
as asked for at least, no more than allowed, and not settled at any earlier count from the least one on.  They
are given, unless there are too many of them to count, and are settled then if more were allowed. -/
structure Samples (p : Probe (StateM σ)) (calls : σ → Nat) (plan : SamplePlan) (s : σ) (rows : List Double)
    (s' : σ) : Prop where
  enough : plan.samples ≤ rows.length
  bounded : rows.length ≤ max plan.samples plan.maxSamples
  first : ∀ j : Nat, plan.samples ≤ j → j < rows.length → ¬ Settled plan.variationTarget (rows.take j)
  called : (calls s' : Int) = calls s + (max 0 plan.warmup + rows.length) * plan.repeats
  given : rows.length ≤ maxCountable → (p.sampleAll plan).run.run s = (.ok rows, s')
  settled : (p.sampleAll plan).run.run s = (.ok rows, s') → rows.length < plan.maxSamples →
    Settled plan.variationTarget rows
  otherwise : (p.sampleAll plan).run.run s = (.ok rows, s') ∨
    (p.sampleAll plan).run.run s = (.error .numberTooLarge, s')

/-- **Sampling ends, with the first samples that are settled.** -/
theorem Counted.exists_samples (hp : p.Counted calls) (plan : SamplePlan) (hrepeats : 1 ≤ plan.repeats)
    (hsamples : 1 ≤ plan.samples) (s : σ) : ∃ rows s', Samples p calls plan s rows s' := by
  obtain ⟨s₁, hwarm, hcalls₁⟩ := hp.exists_callTimes (max 0 plan.warmup * plan.repeats).toNat s
  obtain ⟨start, s₂, hstart, hlength, htimed, hcalls₂⟩ :=
    hp.exists_sampleTimes hrepeats plan.samples.toNat s₁
  have hne : start ≠ [] := by
    rintro rfl
    rw [List.length_nil] at hlength
    omega
  obtain ⟨more, s₃, hmore, hfirst, hcalls₃, hends⟩ :=
    hp.exists_sampleMore hrepeats (plan.maxSamples - start.length).toNat htimed hne s₂
  have hstep : (p.sampleAll plan).run.run s =
      (p.sampleMore plan (plan.maxSamples - start.length).toNat start).run.run s₂ :=
    (run_bind_ok hwarm).trans (run_bind_ok hstart)
  have htotal : (start ++ more).length = start.length + more.length := List.length_append
  have hallowed : (start ++ more).length < plan.maxSamples →
      more.length < (plan.maxSamples - start.length).toNat := by omega
  rw [← hstep] at hends
  refine ⟨start ++ more, s₃, by omega, by omega, ?_, ?_, ?_, ?_, ?_⟩
  · intro j hj hlt
    obtain ⟨i, rfl⟩ : ∃ i, j = start.length + i := ⟨j - start.length, by omega⟩
    rw [List.take_length_add_append]
    exact hfirst i (by omega)
  · have hwarmNonneg : 0 ≤ max 0 plan.warmup * plan.repeats := Int.mul_nonneg (le_max_left ..) (by omega)
    rw [hcalls₃, hcalls₂, hcalls₁, htotal, hlength, Nat.cast_add, Nat.cast_add,
      Int.toNat_of_nonneg hwarmNonneg]
    ring
  · intro hcount
    exact (hends.resolve_right fun h => absurd h.2 (not_lt.mpr hcount)).1
  · intro hgiven hmoreAllowed
    rcases hends with ⟨-, hsettled⟩ | ⟨hfault, -⟩
    · exact hsettled (hallowed hmoreAllowed)
    · rw [hfault] at hgiven
      cases hgiven
  · exact hends.imp (·.1) (·.1)

end Probe

/-! ## §3  Cases -/

namespace Case

variable {c : Case (StateM σ)} {now : StateM σ Int} {e : Effort} {s s' : σ} {row : Row}

theorem row_of_error {f : Fault} : (c.row e (.error f)).status = "error" := rfl

theorem row_of_figures {r : Int} {rows : List Double} {f : Figures} (h : Figures.ofSamples rows = .ok f) :
    c.row e (.ok (r, rows)) = ⟨c.group, c.name, .ok f, r, rows.length⟩ := by
  simp only [Case.row, bind, Except.bind, h]
  rfl

theorem row_of_fault {r : Int} {rows : List Double} {f : Fault} (h : Figures.ofSamples rows = .error f) :
    (c.row e (.ok (r, rows))).status = "error" := by
  simp only [Case.row, bind, Except.bind, h]
  rfl

/-- A row that is well says how its case was measured. -/
theorem exists_measure_of_ok (h : (c.run now e).run s = (row, s')) (hok : row.status = "ok") :
    ∃ rows, (c.measure now e).run.run s = (.ok (row.repeats, rows), s') ∧ row.samples = rows.length := by
  rcases hmeasure : (c.measure now e).run.run s with ⟨outcome, s₁⟩
  have hrow : (c.row e outcome, s₁) = (row, s') := by
    rw [← h]
    unfold Case.run
    rw [StateT.run_bind, hmeasure]
    rfl
  obtain ⟨rfl, rfl⟩ := Prod.mk.inj hrow
  have herror : "error" ≠ "ok" := by decide
  cases outcome with
  | error f => exact absurd (row_of_error.symm.trans hok) herror
  | ok measured =>
    obtain ⟨repeats, rows⟩ := measured
    cases hfigures : Figures.ofSamples rows with
    | error f => exact absurd ((row_of_fault hfigures).symm.trans hok) herror
    | ok f => exact ⟨rows, by rw [row_of_figures hfigures], by rw [row_of_figures hfigures]⟩

end Case

/-- The plan for the samples of a case, once it is known how many calls each of them makes. -/
def Effort.plan (e : Effort) (repeats : Int) : SamplePlan :=
  ⟨repeats, e.warmup, e.samples, e.variationTarget, e.maxSamples⟩

section
variable {now : StateM σ Int} {call : ExceptT Fault (StateM σ) Unit}

/-- A case that is well was calibrated and sampled after its first call, and its row says with which count of
calls and how many samples. -/
theorem exists_samples_of_run (hp : (Probe.mk now call).Counted calls) {c : Case (StateM σ)} {e : Effort}
    {s s₀ s' : σ} {row : Row} (hrepeats : 1 ≤ row.repeats) (hsamples : 1 ≤ e.samples)
    (htarget : e.targetMs.isBelow (.whole 1000000000000) = true)
    (hbuild : c.build.run.run s = (.ok call, s₀)) (hrun : (c.run now e).run s = (row, s'))
    (hok : row.status = "ok") :
    ∃ s₁ s₂ rows, call.run.run s₀ = (.ok (), s₁) ∧
      ((Probe.mk now call).calibrate e.targetMs e.minRepeats Probe.defaultMaxRepeats).run.run s₁ =
        (.ok row.repeats, s₂) ∧
      ((Probe.mk now call).sampleAll (e.plan row.repeats)).run.run s₂ = (.ok rows, s') ∧
      Probe.Samples ⟨now, call⟩ calls (e.plan row.repeats) s₂ rows s' ∧
      row.samples = rows.length ∧ e.minRepeats ≤ row.repeats ∧
      row.repeats ≤ max e.minRepeats Probe.defaultMaxRepeats := by
  obtain ⟨measured, hmeasure, hcount⟩ := Case.exists_measure_of_ok hrun hok
  obtain ⟨s₁, hcall, -⟩ := hp.call s₀
  obtain ⟨r, s₂, hcalibrate, hleast, hmost⟩ :=
    hp.exists_calibrate htarget e.minRepeats Probe.defaultMaxRepeats s₁
  have hstep : (c.measure now e).run.run s =
      ((Probe.mk now call).sampleAll (e.plan r) >>= fun rows => pure (r, rows)).run.run s₂ :=
    (run_bind_ok hbuild).trans ((run_bind_ok hcall).trans (run_bind_ok hcalibrate))
  rw [hstep] at hmeasure
  rcases hall : ((Probe.mk now call).sampleAll (e.plan r)).run.run s₂ with ⟨outcome, s₃⟩
  cases outcome with
  | error f =>
    rw [run_bind_error hall] at hmeasure
    cases hmeasure
  | ok rows =>
    rw [run_bind_ok hall, run_pure, Prod.mk.injEq, Except.ok.injEq, Prod.mk.injEq] at hmeasure
    obtain ⟨⟨rfl, rfl⟩, rfl⟩ := hmeasure
    -- only now is it known that the calibrated count is the one of the row
    obtain ⟨rows', s₄, hrows⟩ := hp.exists_samples (e.plan row.repeats) hrepeats hsamples s₂
    rcases hrows.otherwise with hall' | hall'
    · obtain ⟨⟨⟩, rfl⟩ := Prod.mk.inj (hall.symm.trans hall')
      exact ⟨s₁, s₂, rows, hcall, hcalibrate, hall, hrows, hcount, hleast, hmost⟩
    · cases (Prod.mk.inj (hall.symm.trans hall')).1

/-- **Adaptive sampling is bounded and ends with the first samples that are settled**, whatever the clock
shows; a calibration keeps to its bounds; and a case that is well says how many samples were taken and how
many calls each of them made. -/
theorem adaptive_sampling (hp : (Probe.mk now call).Counted calls) :
    (∀ (plan : SamplePlan) (s : σ), 1 ≤ plan.repeats → 1 ≤ plan.samples →
      ∃ rows s', Probe.Samples ⟨now, call⟩ calls plan s rows s') ∧
    (∀ (targetMs : Amount) (minRepeats maxRepeats : Int) (s : σ),
      targetMs.isBelow (.whole 1000000000000) = true →
      ∃ r s', ((Probe.mk now call).calibrate targetMs minRepeats maxRepeats).run.run s = (.ok r, s') ∧
        minRepeats ≤ r ∧ r ≤ max minRepeats maxRepeats) ∧
    (∀ (c : Case (StateM σ)) (e : Effort) (s s₀ s' : σ) (row : Row), 1 ≤ row.repeats → 1 ≤ e.samples →
      e.targetMs.isBelow (.whole 1000000000000) = true → c.build.run.run s = (.ok call, s₀) →
      (c.run now e).run s = (row, s') → row.status = "ok" →
      ∃ s₁ s₂ rows, call.run.run s₀ = (.ok (), s₁) ∧
        ((Probe.mk now call).calibrate e.targetMs e.minRepeats Probe.defaultMaxRepeats).run.run s₁ =
          (.ok row.repeats, s₂) ∧
        ((Probe.mk now call).sampleAll (e.plan row.repeats)).run.run s₂ = (.ok rows, s') ∧
        Probe.Samples ⟨now, call⟩ calls (e.plan row.repeats) s₂ rows s' ∧
        row.samples = rows.length ∧ e.minRepeats ≤ row.repeats ∧
        row.repeats ≤ max e.minRepeats Probe.defaultMaxRepeats) :=
  ⟨fun plan s hrepeats hsamples => hp.exists_samples plan hrepeats hsamples s,
    fun _ minRepeats maxRepeats s htarget => hp.exists_calibrate htarget minRepeats maxRepeats s,
    fun _ _ _ _ _ _ hrepeats hsamples htarget hbuild hrun hok =>
      exists_samples_of_run hp hrepeats hsamples htarget hbuild hrun hok⟩

end

/-! ## §4  A clock with known readings -/

/-- How often a clock was read and a function called. -/
structure Dial where
  reads : Nat
  calls : Nat
  deriving DecidableEq, Repr

namespace Dial

/-- A clock that shows one reading after another, and a function that does nothing. -/
def probe (readings : Nat → Int) : Probe (StateM Dial) :=
  ⟨fun d => (readings d.reads, { d with reads := d.reads + 1 }),
    ExceptT.mk fun d => (.ok (), { d with calls := d.calls + 1 })⟩

/-- Any readings will do, in any order. -/
theorem counted {readings : Nat → Int} (h : ∀ i, |readings i| ≤ 2 ^ 64) :
    (probe readings).Counted Dial.calls where
  call _ := ⟨_, rfl, rfl⟩
  now d := ⟨_, _, rfl, h d.reads, rfl⟩

/-- A clock that runs forth and back, and stands still in the end. -/
def swinging (i : Nat) : Int := [0, 32000000, 10, 40, 100, 10].getD i 0

theorem abs_swinging_le (i : Nat) : |swinging i| ≤ 2 ^ 64 := by
  have hknown : ∀ i < 6, |swinging i| ≤ 2 ^ 64 := by decide
  rcases lt_or_ge i 6 with hi | hi
  · exact hknown i hi
  · rw [swinging, List.getD_eq_getElem?_getD, List.getElem?_eq_none hi]
    norm_num

/-- A case that counts its calls. -/
def counting : Case (StateM Dial) := ⟨"dial", "count", pure (probe swinging).call⟩

def effort : Effort := ⟨2, 1, .whole 1, 3, .whole 5, 9⟩

/-- Two samples are taken when their mean is below zero, though seven more are allowed, and the function is
called nine times for them; a case that counts its calls says so. -/
theorem adaptive_sampling_swinging :
    (∃ rows s', (probe swinging).Samples Dial.calls (effort.plan 3) ⟨2, 17⟩ rows s' ∧ rows.length = 2 ∧
      Probe.Settled (.whole 5) rows ∧ s'.calls = 26) ∧
    (∃ r s', ((probe swinging).calibrate (.whole 1) 3 5000000).run.run ⟨0, 1⟩ = (.ok r, s') ∧ 3 ≤ r ∧
      r ≤ 5000000) ∧
    ∃ row s₁ s₂ s' rows, (counting.run (probe swinging).now effort).run ⟨0, 0⟩ = (row, s') ∧
      row.status = "ok" ∧ row.repeats = 3 ∧ row.samples = 2 ∧
      ((probe swinging).calibrate (.whole 1) 3 Probe.defaultMaxRepeats).run.run s₁ =
        (.ok row.repeats, s₂) ∧
      ((probe swinging).sampleAll (effort.plan row.repeats)).run.run s₂ = (.ok rows, s') ∧
      row.samples = rows.length := by
  obtain ⟨hsamples, hcalibrate, hcase⟩ := adaptive_sampling (counted abs_swinging_le)
  refine ⟨?_, hcalibrate (.whole 1) 3 5000000 ⟨0, 1⟩ (by decide), ?_⟩
  · obtain ⟨rows, s', h⟩ := hsamples (effort.plan 3) ⟨2, 17⟩ (by decide) (by decide)
    have hbounded : (rows.length : Int) ≤ 9 := h.bounded
    have hcountable : 16 ≤ maxCountable := pow_le_maxCountable (k := 4) (by norm_num)
    have hgiven : ((probe swinging).sampleAll (effort.plan 3)).run.run ⟨2, 17⟩ = (.ok rows, s') :=
      h.given (by omega)
    have hcount : (((probe swinging).sampleAll (effort.plan 3)).run.run ⟨2, 17⟩).1.toOption.map
        List.length = some 2 := by decide +kernel
    rw [hgiven] at hcount
    have hlength : rows.length = 2 := Option.some.inj hcount
    have hmore : (rows.length : Int) < 9 := by omega
    have hcalled : (s'.calls : Int) = 17 + (1 + rows.length) * 3 := h.called
    exact ⟨rows, s', h, hlength, h.settled hgiven hmore, by omega⟩
  · obtain ⟨s₁, s₂, rows, -, hcalibrated, hall, -, hcount, -⟩ :=
      hcase counting effort ⟨0, 0⟩ ⟨0, 0⟩ _ _ (by decide +kernel) (by decide) (by decide) rfl rfl
        (by decide +kernel)
    exact ⟨_, s₁, s₂, _, rows, rfl, by decide +kernel, by decide +kernel, by decide +kernel, hcalibrated,
      hall, hcount⟩

end Dial

end MemberAccess.Benchmark
