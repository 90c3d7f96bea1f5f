import Mathlib.Data.List.Forall2
import Mathlib.Tactic.Push
import MemberAccess.Accessor.Basic
import MemberAccess.Proofs.Runs

/-!
# Conversions up to the wording of a refusal

A refusal says what type was expected, in the spelling of the type that the converter was chosen for.
Converters for equal types may differ in that text, and in nothing else when they were chosen for the
same members in the same order.  `Failure.wordless` drops the text; two runs are *alike* when they end in
the same store, with the same value or with failures that agree without it, and two converters when all
their runs are.

Where the members stand in another order, more is needed.  A union takes a value by the first member that
does not refuse it, so the order counts as soon as two members would take the value differently.
`OneWay` says that this is not so for a value.
-/

namespace MemberAccess

open MemberAccess.Action

/-! ## §1  Runs that are alike -/

/-- A failure without the text that names the type expected. -/
def Failure.wordless : Failure → Failure
  | .argumentMismatch place _ actual => .argumentMismatch place "" actual
  | .producedMismatch place actual _ => .producedMismatch place actual ""
  | f => f

theorem Failure.kind_wordless (f : Failure) : f.wordless.kind = f.kind := by
  cases f <;> rfl

/-- Failures that agree without the text are caught in the same places. -/
theorem Failure.isA_congr {f g : Failure} (h : f.wordless = g.wordless) (k : ErrorKind) :
    f.isA k = g.isA k := by
  rw [isA, isA, ← f.kind_wordless, ← g.kind_wordless, h]

/-- Two runs end alike: in one store, with one value or with failures that agree without the text. -/
inductive AlikeRuns {α : Type} : Outcome α × Store → Outcome α × Store → Prop
  | ok (a : α) (st : Store) : AlikeRuns (.ok a, st) (.ok a, st)
  | error {f g : Failure} (st : Store) : f.wordless = g.wordless → AlikeRuns (.error f, st) (.error g, st)

namespace AlikeRuns

variable {α β : Type} {r s t : Outcome α × Store}

theorem refl (r : Outcome α × Store) : AlikeRuns r r := by
  obtain ⟨f | a, st⟩ := r
  · exact .error st rfl
  · exact .ok a st

theorem symm (h : AlikeRuns r s) : AlikeRuns s r := by
  cases h with
  | ok a st => exact .ok a st
  | error st h => exact .error st h.symm

theorem trans (h : AlikeRuns r s) (h' : AlikeRuns s t) : AlikeRuns r t := by
  cases h with
  | ok a st => exact h'
  | error st h =>
    cases h' with
    | error _ h' => exact .error st (h.trans h')

/-- What runs after two runs that are alike ends alike. -/
theorem bind {x y : Action α} {k l : α → Action β} {run : Runner} {st : Store}
    (h : AlikeRuns (x.perform run st) (y.perform run st))
    (hk : ∀ a st', AlikeRuns ((k a).perform run st') ((l a).perform run st')) :
    AlikeRuns ((x >>= k).perform run st) ((y >>= l).perform run st) := by
  rw [perform_bind, perform_bind]
  -- the two runs get names, so that what is alike in them can be taken apart
  revert h
  generalize x.perform run st = r
  generalize y.perform run st = s
  intro h
  cases h with
  | ok a st' => exact hk a st'
  | error st' h => exact .error st' h

/-- Failures that agree without the text are handled alike. -/
theorem tryCatch {x y : Action α} {h k : Failure → Action α} {run : Runner} {st : Store}
    (hxy : AlikeRuns (x.perform run st) (y.perform run st))
    (hk : ∀ f g st', f.wordless = g.wordless →
      AlikeRuns ((h f).perform run st') ((k g).perform run st')) :
    AlikeRuns ((tryCatchThe Failure x h).perform run st)
      ((tryCatchThe Failure y k).perform run st) := by
  rw [perform_tryCatch, perform_tryCatch]
  revert hxy
  generalize x.perform run st = r
  generalize y.perform run st = s
  intro hxy
  cases hxy with
  | ok a st' => exact .ok a st'
  | error st' h => exact hk _ _ st' h

end AlikeRuns

/-! ## §2  Converters that are alike -/

namespace Converter

variable {run : Runner} {st : Store} {v : Value} {place : String} {c c' : Converter}

/-- Two converters differ in no more than the texts of their refusals. -/
def Alike (c c' : Converter) : Prop :=
  ∀ v place run st, AlikeRuns ((c.apply v place).perform run st) ((c'.apply v place).perform run st)

theorem Alike.refl (c : Converter) : Alike c c := fun _ _ _ _ => .refl _

theorem Alike.symm (h : Alike c c') : Alike c' c := fun v place run st => (h v place run st).symm

/-- A refusal is the same but for its text. -/
theorem alike_refuse {α : Type} (e e' : String) :
    AlikeRuns ((v.refuse place e : Action α).perform run st) ((v.refuse place e').perform run st) :=
  .error st rfl

theorem alike_instance (k : ClassRef) (e e' : String) : Alike (.instance k e) (.instance k e') := by
  intro v place run st
  refine AlikeRuns.bind (.refl _) ?_
  intro b st'
  cases b with
  | true => exact .refl _
  | false => exact alike_refuse _ _

/-- Converters that are alike place by place take a value alike, one after the other. -/
theorem alike_applyFirst {cs cs' : List Converter} (h : List.Forall₂ Alike cs cs') (v : Value)
    (place : String) (run : Runner) (st : Store) (e e' : String) :
    AlikeRuns ((applyFirst cs v place e).perform run st) ((applyFirst cs' v place e').perform run st) := by
  induction h generalizing st with
  | nil => exact alike_refuse _ _
  | cons hc _ ih =>
    refine AlikeRuns.tryCatch (hc v place run st) ?_
    intro f g st' hfg
    rw [Failure.isA_congr hfg]
    split
    · exact ih st'
    · exact .error st' hfg

/-- **Unions of converters that are alike are alike.** -/
theorem alike_union {cs cs' : List Converter} (h : List.Forall₂ Alike cs cs') (ks : List ClassRef)
    (e e' : String) : Alike (.union cs ks e) (.union cs' ks e') := by
  intro v place run st
  refine AlikeRuns.bind (.refl _) ?_
  intro b st'
  cases b with
  | true => exact .refl _
  | false => exact alike_applyFirst h v place run st' e e'

/-! ## §3  Unions whose members stand in another order -/

/-- A converter refuses a value and leaves the objects alone. -/
def Declines (c : Converter) (v : Value) (place : String) (run : Runner) (st : Store) : Prop :=
  ∃ f : Failure, (c.apply v place).perform run st = (.error f, st) ∧
    f.isA .argumentTypeMismatch = true

/-- A run ends with a refusal. -/
def IsRefusal (r : Outcome Value × Store) : Prop :=
  ∃ f : Failure, r.1 = .error f ∧ f.isA .argumentTypeMismatch = true

/-- There is one way for a union to take a value: asking for the classes of its members changes nothing,
and the value is an instance of one of them, or every member either declines it or ends as every other
one that does not. -/
def OneWay (members : List Converter) (classes : List ClassRef) (v : Value) (place : String)
    (run : Runner) (st : Store) : Prop :=
  (∀ k ∈ classes, ∃ b, (v.isInstance k).perform run st = (.ok b, st)) ∧
  ((∃ k ∈ classes, (v.isInstance k).perform run st = (.ok true, st)) ∨
    ∃ r, ¬ IsRefusal r ∧
      ∀ c ∈ members, c.Declines v place run st ∨ (c.apply v place).perform run st = r)

theorem declines_of_alike (h : Alike c c')
    (hd : c.Declines v place run st) : c'.Declines v place run st := by
  obtain ⟨f, hf, hk⟩ := hd
  have ha := h v place run st
  rw [hf] at ha
  revert ha
  generalize hr : (c'.apply v place).perform run st = r
  intro ha
  cases ha with
  | error _ hg => exact ⟨_, hr, by rwa [← Failure.isA_congr hg]⟩

/-- Whether a value is an instance of one of several classes, where asking changes nothing. -/
theorem perform_isInstanceOfSome {ks : List ClassRef}
    (h : ∀ k ∈ ks, ∃ b, (v.isInstance k).perform run st = (.ok b, st)) :
    ∃ b, (v.isInstanceOfSome ks).perform run st = (.ok b, st) ∧
      (b = true ↔ ∃ k ∈ ks, (v.isInstance k).perform run st = (.ok true, st)) := by
  induction ks with
  | nil => exact ⟨false, rfl, by simp⟩
  | cons k ks ih =>
    obtain ⟨b, hb⟩ := h k (by simp)
    obtain ⟨b', hb', hiff⟩ := ih fun k' hk' => h k' (by simp [hk'])
    rw [Value.isInstanceOfSome, perform_bind_ok hb]
    cases b with
    | true => exact ⟨true, rfl, by simp [hb]⟩
    | false =>
      refine ⟨b', hb', ?_⟩
      simp [hb, hiff]

/-- A list of converters that all decline refuses. -/
theorem applyFirst_of_declines {cs : List Converter} (e : String)
    (h : ∀ c ∈ cs, c.Declines v place run st) :
    (applyFirst cs v place e).perform run st = ((v.refuse place e : Action Value).perform run st) := by
  induction cs with
  | nil => rfl
  | cons c cs ih =>
    obtain ⟨f, hf, hk⟩ := h c (by simp)
    rw [applyFirst, perform_tryCatch, hf]
    simp only [hk, if_true]
    exact ih fun c' hc' => h c' (by simp [hc'])

/-- A list of converters of which one takes the value ends as that one does, where there is one way. -/
theorem applyFirst_of_oneWay {cs : List Converter} {r : Outcome Value × Store} (e : String)
    (hr : ¬ IsRefusal r)
    (h : ∀ c ∈ cs, c.Declines v place run st ∨ AlikeRuns ((c.apply v place).perform run st) r)
    (hex : ∃ c ∈ cs, ¬ c.Declines v place run st) :
    AlikeRuns ((applyFirst cs v place e).perform run st) r := by
  induction cs with
  | nil => simp at hex
  | cons c cs ih =>
    rw [applyFirst, perform_tryCatch]
    rcases h c (by simp) with hd | ha
    · -- the first one declines, and the others are left
      obtain ⟨f, hf, hk⟩ := hd
      rw [hf]
      simp only [hk, if_true]
      refine ih (fun c' hc' => h c' (by simp [hc'])) ?_
      obtain ⟨c', hc', hnd⟩ := hex
      rcases List.mem_cons.mp hc' with rfl | hc'
      · exact absurd ⟨f, hf, hk⟩ hnd
      · exact ⟨c', hc', hnd⟩
    · -- the first one ends as `r` does, which is no refusal, so that no other one is tried
      revert ha
      generalize (c.apply v place).perform run st = q
      intro ha
      cases ha with
      | ok a st' => exact .ok a st'
      | @error f g st' hfg =>
        have hna : f.isA .argumentTypeMismatch = false := by
          rw [Failure.isA_congr hfg]
          exact Bool.eq_false_iff.mpr fun hk => hr ⟨g, rfl, hk⟩
        simp only [hna, Bool.false_eq_true, if_false]
        exact .error st' hfg

/-- **The order of a union's members does not matter where there is one way to take a value**: two
unions of the same converters and the same classes convert it alike. -/
theorem alike_rearranged {cs cs' : List Converter} {ks ks' : List ClassRef} {e e' : String}
    (hk : ∀ k, k ∈ ks ↔ k ∈ ks') (hc : ∀ c ∈ cs, ∃ c' ∈ cs', Alike c c')
    (hc' : ∀ c' ∈ cs', ∃ c ∈ cs, Alike c c') (h : OneWay cs ks v place run st) :
    AlikeRuns (((union cs ks e).apply v place).perform run st)
      (((union cs' ks' e').apply v place).perform run st) := by
  obtain ⟨hks, htaken⟩ := h
  obtain ⟨b, hb, hiff⟩ := perform_isInstanceOfSome hks
  obtain ⟨b', hb', hiff'⟩ :=
    perform_isInstanceOfSome (v := v) fun k hk' => hks k ((hk k).mpr hk')
  have hbb : b = b' := by
    rw [Bool.eq_iff_iff, hiff, hiff']
    simp only [hk]
  rw [apply, apply, perform_bind_ok hb, perform_bind_ok hb', ← hbb]
  cases b with
  | true => exact .refl _
  | false =>
    have hnone : ¬ ∃ k ∈ ks, (v.isInstance k).perform run st = (.ok true, st) :=
      fun hk' => Bool.false_ne_true (hiff.mpr hk')
    obtain ⟨r, hr, hone⟩ := htaken.resolve_left hnone
    by_cases hall : ∀ c ∈ cs, c.Declines v place run st
    · have hall' : ∀ c' ∈ cs', c'.Declines v place run st := by
        intro c' hm
        obtain ⟨c, hcm, hw⟩ := hc' c' hm
        exact declines_of_alike hw (hall c hcm)
      simp only [Bool.false_eq_true, if_false]
      rw [applyFirst_of_declines e hall, applyFirst_of_declines e' hall']
      exact alike_refuse _ _
    · push Not at hall
      obtain ⟨c, hcm, hnd⟩ := hall
      obtain ⟨c', hcm', hw⟩ := hc c hcm
      simp only [Bool.false_eq_true, if_false]
      -- both lists end as the one way does
      have hone₁ : ∀ c₁ ∈ cs, c₁.Declines v place run st ∨
          AlikeRuns ((c₁.apply v place).perform run st) r := by
        intro c₁ h₁
        rcases hone c₁ h₁ with hd | heq
        · exact .inl hd
        · rw [heq]
          exact .inr (.refl r)
      have hone₂ : ∀ c₂ ∈ cs', c₂.Declines v place run st ∨
          AlikeRuns ((c₂.apply v place).perform run st) r := by
        intro c₂ h₂
        obtain ⟨c₁, h₁, hw₁⟩ := hc' c₂ h₂
        rcases hone c₁ h₁ with hd | heq
        · exact .inl (declines_of_alike hw₁ hd)
        · rw [← heq]
          exact .inr (hw₁ v place run st).symm
      have hnd' : ¬ c'.Declines v place run st := by
        intro hd
        exact hnd (declines_of_alike hw.symm hd)
      exact (applyFirst_of_oneWay e hr hone₁ ⟨c, hcm, hnd⟩).trans
        (applyFirst_of_oneWay e' hr hone₂ ⟨c', hcm', hnd'⟩).symm

end Converter

/-! ## §4  Results -/

namespace Accessor

/-- A refused result is reported in the same words but for the type expected. -/
theorem alike_convertResult {d : MemberDescriptor} {c c' : Converter} {v : Value} {run : Runner}
    {st : Store}
    (h : AlikeRuns ((c.apply v ("result of the " ++ d.text st)).perform run st)
      ((c'.apply v ("result of the " ++ d.text st)).perform run st)) :
    AlikeRuns ((convertResult d c v).perform run st) ((convertResult d c' v).perform run st) := by
  unfold convertResult
  rw [perform_bind_get, perform_bind_get]
  refine AlikeRuns.tryCatch h ?_
  intro f g st' hfg
  rw [Failure.isA_congr hfg]
  split
  · exact .error st' rfl
  · exact .error st' hfg

/-- A result that is taken is given as it was converted. -/
theorem convertResult_ok {d : MemberDescriptor} {c : Converter} {v w : Value} {run : Runner}
    {st st' : Store} (h : (c.apply v ("result of the " ++ d.text st)).perform run st = (.ok w, st')) :
    (convertResult d c v).perform run st = (.ok w, st') := by
  rw [convertResult, perform_bind_get, perform_tryCatch, h]

end Accessor
end MemberAccess
