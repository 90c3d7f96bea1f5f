import MemberAccess.Proofs.ConversionFaults

/-!
# Verdicts of unions

A conversion takes a value, refuses it, or fails in another way: its *verdict*.  A union is meant to take
what one of its members takes, whatever the order in which they are written.  It looks at the classes of
its members first, and then tries the members in turn until one does not refuse.  So the verdict of a union
is the first among the verdicts of its members that is no refusal, unless the look finds the value
(`Value.verdict_union`).

Only a refusal sends the value on to the next member.  Where no member fails in another way, the union takes
exactly what some member takes (`Value.union_takes_what_a_member_takes`).  A member that is defied stands in
the way of those after it: an integer of more than 32 bits is taken for floats, and for floats or arrays,
but not for arrays or floats (`WideInteger.order_decides_what_is_taken`).
-/

namespace MemberAccess

open MemberAccess.Action

/-! ## §1  Verdicts -/

/-- What a conversion makes of a value. -/
inductive Verdict
  | taken | refused | failed
  deriving DecidableEq, Repr

namespace Verdict

/-- The verdict of an outcome. -/
def of : Outcome Value → Verdict
  | .ok _ => taken
  | .error f => if f.isA .argumentTypeMismatch then refused else failed

/-- The first verdict that is no refusal; without one it is a refusal. -/
def first : List Verdict → Verdict
  | [] => refused
  | refused :: ws => first ws
  | w :: _ => w

variable {ws : List Verdict}

/-- What comes first is among the verdicts. -/
theorem mem_of_first_eq_taken (h : first ws = taken) : taken ∈ ws := by
  induction ws with
  | nil => cases h
  | cons w ws ih =>
    cases w with
    | taken => exact List.mem_cons_self
    | refused => exact List.mem_cons_of_mem _ (ih h)
    | failed => cases h

/-- Where nothing fails, a value is taken as soon as it is taken anywhere. -/
theorem first_eq_taken_of_mem (hno : failed ∉ ws) (h : taken ∈ ws) : first ws = taken := by
  induction ws with
  | nil => cases h
  | cons w ws ih =>
    cases w with
    | taken => rfl
    | refused =>
      refine ih (fun hw => hno (List.mem_cons_of_mem _ hw)) ?_
      exact (List.mem_cons.mp h).resolve_left nofun
    | failed => exact absurd List.mem_cons_self hno

theorem of_eq_taken {r : Outcome Value} : of r = taken ↔ ∃ w, r = .ok w := by
  cases r with
  | ok w => exact ⟨fun _ => ⟨w, rfl⟩, fun _ => rfl⟩
  | error f =>
    refine ⟨?_, nofun⟩
    intro h
    rw [of] at h
    split at h <;> cases h

theorem of_error (f : Failure) :
    of (.error f) = if f.isA .argumentTypeMismatch then refused else failed := rfl

end Verdict

/-- The verdict of the conversion of a value for a type. -/
def Value.verdict (v : Value) (rules : List Rule) (t : TypeForm) (place : String) (run : Runner)
    (st : Store) : Verdict :=
  .of ((v.coerce rules t place).perform run st).1

/-- The conversion of a value for a type takes it. -/
def Value.IsTaken (v : Value) (rules : List Rule) (t : TypeForm) (place : String) (run : Runner)
    (st : Store) : Prop :=
  ∃ w st', (v.coerce rules t place).perform run st = (.ok w, st')

/-- In stores that keep to an invariant an action comes to one verdict, and a refusal leaves a store that
keeps to it. -/
def Action.Settled (run : Runner) (I : Store → Prop) (x : Action Value) (w : Verdict) : Prop :=
  ∀ st, I st → Verdict.of (x.perform run st).1 = w ∧ (w = .refused → I (x.perform run st).2)

section
variable {run : Runner} {I : Store → Prop} {st st₁ : Store} {v : Value} {place e : String}
  {c : Converter} {cs : List Converter} {ks : List ClassRef} {rules : List Rule} {t u : TypeForm}
  {w : Verdict}

theorem Value.isTaken_iff : v.IsTaken rules t place run st ↔ v.verdict rules t place run st = .taken := by
  rw [verdict, Verdict.of_eq_taken, IsTaken]
  constructor
  · rintro ⟨w, st', h⟩
    exact ⟨w, by rw [h]⟩
  · rintro ⟨w, h⟩
    exact ⟨w, _, Prod.ext h rfl⟩

/-! ## §2  Members in turn -/

/-- A refusal is settled. -/
theorem settled_refuse : Settled run I (v.refuse place e) .refused := fun _ h => ⟨rfl, fun _ => h⟩

/-- **The verdict of several converters is the first of theirs that is no refusal.** -/
theorem Converter.settled_applyFirst {verdict : Converter → Verdict}
    (h : ∀ c ∈ cs, Settled run I (c.apply v place) (verdict c)) :
    Settled run I (applyFirst cs v place e) (.first (cs.map verdict)) := by
  induction cs with
  | nil =>
    rw [applyFirst]
    exact settled_refuse
  | cons c cs ih =>
    intro st₁ h₁
    obtain ⟨hverdict, hkept⟩ := h c List.mem_cons_self st₁ h₁
    rw [applyFirst, perform_tryCatch, List.map_cons]
    rcases hrun : (c.apply v place).perform run st₁ with ⟨f | w, st₂⟩
    · rw [hrun] at hverdict hkept
      rw [Verdict.of_error] at hverdict
      simp only
      cases hf : f.isA .argumentTypeMismatch with
      | true =>
        rw [hf, if_pos rfl] at hverdict
        rw [← hverdict]
        exact ih (fun c' hc' => h c' (List.mem_cons_of_mem _ hc')) st₂ (hkept hverdict.symm)
      | false =>
        rw [hf, if_neg (by decide)] at hverdict
        rw [← hverdict]
        refine ⟨?_, nofun⟩
        change Verdict.of (.error f) = _
        rw [Verdict.of_error, hf]
        rfl
    · rw [hrun] at hverdict
      rw [← hverdict]
      exact ⟨rfl, nofun⟩

/-- A union takes the instances of its classes. -/
theorem Converter.settled_union_of_class (htests : ∀ k ∈ ks, v.TestsSteadily run st I k)
    (hk : ∃ k ∈ ks, v.IsOf run st k) : Settled run I ((union cs ks e).apply v place) .taken := by
  intro st₁ h₁
  obtain ⟨b, st₂, hb, h₂, hiff⟩ := Value.perform_isInstanceOfSome_steady htests h₁
  rw [apply, perform_bind_ok hb, if_pos (hiff.mpr hk)]
  exact ⟨rfl, nofun⟩

/-- A union goes by its members with what is no instance of its classes. -/
theorem Converter.settled_union_of_members {verdict : Converter → Verdict}
    (htests : ∀ k ∈ ks, v.TestsSteadily run st I k) (hk : ¬ ∃ k ∈ ks, v.IsOf run st k)
    (h : ∀ c ∈ cs, Settled run I (c.apply v place) (verdict c)) :
    Settled run I ((union cs ks e).apply v place) (.first (cs.map verdict)) := by
  intro st₁ h₁
  obtain ⟨b, st₂, hb, h₂, hiff⟩ := Value.perform_isInstanceOfSome_steady htests h₁
  rw [apply, perform_bind_ok hb, if_neg fun htrue => hk (hiff.mp htrue)]
  exact settled_applyFirst h st₂ h₂

/-! ## §3  Unions -/

/-- The verdict of the conversion for a type, if that has a converter, is settled. -/
def Value.SettledFor (v : Value) (rules : List Rule) (t : TypeForm) (place : String) (run : Runner)
    (st : Store) (I : Store → Prop) : Prop :=
  ∀ c, st.converter? rules t = some c →
    Settled run I (c.apply v place) (v.verdict rules t place run st)

/-- **The look of a union finds a value**: a member takes everything, or the value is an instance of the
class of a member. -/
def Value.FoundAmong (v : Value) (rules : List Rule) (ts : List TypeForm) (run : Runner) (st : Store) :
    Prop :=
  (∃ u ∈ ts, st.converter? rules u = none) ∨
    ∃ u ∈ ts, ∃ k, u.runtimeClass? = some k ∧ v.IsOf run st k

/-- Where a type has no converter every value is taken. -/
theorem Value.verdict_of_no_converter (h : st.converter? rules t = none) :
    v.verdict rules t place run st = .taken := by
  unfold verdict coerce
  rw [perform_bind_get, h]
  rfl

theorem Value.verdict_of_converter (h : st.converter? rules t = some c) :
    v.verdict rules t place run st = .of ((c.apply v place).perform run st).1 := by
  unfold verdict coerce
  rw [perform_bind_get, h]

/-- The verdicts of types are those of their converters. -/
theorem Value.map_verdict {ts : List TypeForm} (h : st.converters? rules ts = some cs) :
    ts.map (v.verdict rules · place run st) =
      cs.map fun c => .of ((c.apply v place).perform run st).1 := by
  induction ts generalizing cs with
  | nil =>
    rw [Store.converters?, Option.some.injEq] at h
    subst h
    rfl
  | cons u ts ih =>
    rw [Store.converters?] at h
    split at h
    case h_1 c cs' hc hcs =>
      cases h
      rw [List.map_cons, List.map_cons, verdict_of_converter hc, ih hcs]
    case h_2 => cases h

/-- **The members of a union meet a value steadily**: while an invariant is kept to, the value is what it
was, the answers of the tests for the classes of the members are what they were, and so are the verdicts of
the members.  A member whose class the value is an instance of is no union itself, and no added rule is for
it. -/
structure Value.MeetsMembers (v : Value) (rules : List Rule) (ts : List TypeForm) (place : String)
    (run : Runner) (st : Store) (I : Store → Prop) : Prop where
  start : I st
  retains {st₁ : Store} : I st₁ → st.Retains v st₁
  looks : (∀ u ∈ ts, st.converter? rules u ≠ none) → ∀ u ∈ ts, ∀ k, u.runtimeClass? = some k →
    v.TestsSteadily run st I k
  members : ∀ u ∈ ts, v.SettledFor rules u place run st I
  direct : ∀ u ∈ ts, ∀ k, u.runtimeClass? = some k → v.IsOf run st k →
    u.normalize.isUnion = false ∧ rules.find? (·.isFor u.normalize) = none

/-- It does not count in which order the members stand. -/
theorem Value.MeetsMembers.congr {ts ts' : List TypeForm} (h : v.MeetsMembers rules ts place run st I)
    (hmem : ∀ u, u ∈ ts' ↔ u ∈ ts) : v.MeetsMembers rules ts' place run st I where
  start := h.start
  retains := h.retains
  looks := fun hall u hu => h.looks (fun u' hu' => hall u' ((hmem u').mpr hu')) u ((hmem u).mp hu)
  members := fun u hu => h.members u ((hmem u).mp hu)
  direct := fun u hu => h.direct u ((hmem u).mp hu)

section
variable {i : Mark} {s : UnionSpelling} {ts : List TypeForm}

/-- **The verdict of a union**: it takes what its look finds, and comes to the first verdict of its members
that is no refusal with anything else. -/
theorem Value.verdict_union (h : v.MeetsMembers rules ts place run st I)
    (htn : t.normalize = .union i s ts) (hrule : rules.find? (·.isFor t.normalize) = none) :
    (v.FoundAmong rules ts run st → v.verdict rules t place run st = .taken) ∧
    (¬ v.FoundAmong rules ts run st →
      v.verdict rules t place run st = .first (ts.map (v.verdict rules · place run st))) := by
  have hchosen : st.converter? rules t = _ := Store.converter?_of_union (by rw [htn]; rfl) hrule htn
  cases hcs : st.converters? rules ts with
  | none =>
    rw [hcs] at hchosen
    refine ⟨fun _ => verdict_of_no_converter hchosen, fun hno => absurd (.inl ?_) hno⟩
    exact Store.exists_of_converters?_none hcs
  | some cs =>
    rw [hcs] at hchosen
    have hall : ∀ u ∈ ts, st.converter? rules u ≠ none := by
      intro u hu hnone
      obtain ⟨c, -, hc⟩ := (Store.mem_converters? hcs).2 u hu
      rw [hnone] at hc
      cases hc
    have htests : ∀ k ∈ ts.filterMap TypeForm.runtimeClass?, v.TestsSteadily run st I k := by
      intro k hk
      obtain ⟨u, hu, hclass⟩ := List.mem_filterMap.mp hk
      exact h.looks hall u hu k hclass
    have hmembers : ∀ c ∈ cs, Settled run I (c.apply v place) (.of ((c.apply v place).perform run st).1) := by
      intro c hc
      obtain ⟨u, hu, hconverter⟩ := (Store.mem_converters? hcs).1 c hc
      have hsettled := h.members u hu c hconverter
      rwa [verdict_of_converter hconverter] at hsettled
    have hlooked : v.FoundAmong rules ts run st ↔
        ∃ k ∈ ts.filterMap TypeForm.runtimeClass?, v.IsOf run st k := by
      constructor
      · rintro (⟨u, hu, hnone⟩ | ⟨u, hu, k, hk, hof⟩)
        · exact absurd hnone (hall u hu)
        · exact ⟨k, List.mem_filterMap.mpr ⟨u, hu, hk⟩, hof⟩
      · rintro ⟨k, hk, hof⟩
        obtain ⟨u, hu, hclass⟩ := List.mem_filterMap.mp hk
        exact .inr ⟨u, hu, k, hclass, hof⟩
    rw [verdict_of_converter hchosen, hlooked, map_verdict hcs]
    refine ⟨fun hk => ?_, fun hk => ?_⟩
    · exact (Converter.settled_union_of_class htests hk st h.start).1
    · exact (Converter.settled_union_of_members htests hk hmembers st h.start).1

/-- A member takes what the look finds. -/
theorem Value.FoundAmong.exists_taken (hfound : v.FoundAmong rules ts run st) (ho : st.Ordered)
    (hv : v.Ordinary st) (h : v.MeetsMembers rules ts place run st I) :
    ∃ u ∈ ts, v.IsTaken rules u place run st := by
  by_cases hnone : ∃ u ∈ ts, st.converter? rules u = none
  · obtain ⟨u, hu, hc⟩ := hnone
    exact ⟨u, hu, isTaken_iff.mpr (verdict_of_no_converter hc)⟩
  have hall : ∀ u ∈ ts, st.converter? rules u ≠ none := fun u hu hc => hnone ⟨u, hu, hc⟩
  obtain ⟨u, hu, k, hk, hof⟩ := hfound.resolve_left hnone
  refine ⟨u, hu, ?_⟩
  obtain ⟨huu, hrule⟩ := h.direct u hu k hk hof
  obtain ⟨c, hc⟩ := Option.ne_none_iff_exists'.mp (hall u hu)
  have hany : u.normalize.isAny = false := by
    rw [Bool.eq_false_iff]
    exact fun hany => hall u hu (Store.converter?_of_isAny hany)
  have hplain := Store.plainConverter?_cases st u.normalize
  rw [← Store.converter?_of_plain hany hrule huu, hc] at hplain
  have hclass := TypeForm.runtimeClass?_normalize_of_some hk
  have htests : ∀ k' ∈ c.tested, v.TestsSteadily run st I k' := by
    intro k' hk'
    cases hplain with
    | «instance» hclass' =>
      obtain rfl := List.mem_singleton.mp hk'
      obtain rfl := Option.some.inj (hclass.symm.trans hclass')
      exact h.looks hall u hu k hk
    | _ => cases hk'
  have hgives : Gives run I v (c.apply v place) :=
    hplain.gives ho hv hany (fun _ => h.retains) htests (.instance hclass hof)
  obtain ⟨st', hgiven, -⟩ := hgives st h.start
  refine ⟨v, st', ?_⟩
  unfold coerce
  rw [perform_bind_get, hc]
  exact hgiven

/-- What a union takes is taken by a member. -/
theorem Value.MeetsMembers.exists_taken (h : v.MeetsMembers rules ts place run st I) (ho : st.Ordered)
    (hv : v.Ordinary st) (htn : t.normalize = .union i s ts)
    (hrule : rules.find? (·.isFor t.normalize) = none) (htaken : v.IsTaken rules t place run st) :
    ∃ u ∈ ts, v.IsTaken rules u place run st := by
  by_cases hfound : v.FoundAmong rules ts run st
  · exact hfound.exists_taken ho hv h
  · rw [isTaken_iff, (verdict_union h htn hrule).2 hfound] at htaken
    obtain ⟨u, hu, hverdict⟩ := List.mem_map.mp (Verdict.mem_of_first_eq_taken htaken)
    exact ⟨u, hu, isTaken_iff.mpr hverdict⟩

/-- What a member takes is taken by the union, if no member fails. -/
theorem Value.MeetsMembers.isTaken_of_member (h : v.MeetsMembers rules ts place run st I)
    (htn : t.normalize = .union i s ts) (hrule : rules.find? (·.isFor t.normalize) = none)
    (hno : ∀ u ∈ ts, v.verdict rules u place run st ≠ .failed) (hu : u ∈ ts)
    (htaken : v.IsTaken rules u place run st) : v.IsTaken rules t place run st := by
  rw [isTaken_iff] at htaken ⊢
  by_cases hfound : v.FoundAmong rules ts run st
  · exact (verdict_union h htn hrule).1 hfound
  · rw [(verdict_union h htn hrule).2 hfound]
    refine Verdict.first_eq_taken_of_mem ?_ (List.mem_map.mpr ⟨u, hu, htaken⟩)
    intro hfailed
    obtain ⟨u', hu', hverdict⟩ := List.mem_map.mp hfailed
    exact hno u' hu' hverdict

end

/-! ## §4  Values that bring no code along -/

/-- **A value that brings no code along meets the members of a union**, where classes are tested by ancestry
and registration, and if it is no union object. -/
theorem Value.meetsMembers_of_plain {i : Mark} {s : UnionSpelling} {ts : List TypeForm} (ho : st.Ordered)
    (hknown : st.Knows v) (hv : st.HasNoNumberMethods v) (hplain : t.TestedPlainly st)
    (htn : t.normalize = .union i s ts) (hbar : ¬ v.IsOf run st (.builtin .barUnion)) :
    v.MeetsMembers [] ts place run st (· = st) := by
  have hretains : ∀ st₁, st₁ = st → st.Retains v st₁ := Store.retains_of_eq hknown
  have hmember {u : TypeForm} (hu : u ∈ ts) : u.TestedPlainly st :=
    fun u' hu' => hplain u' (TypeForm.mem_leaves_of_member htn hu hu')
  refine ⟨rfl, fun h => hretains _ h, ?_, ?_, ?_⟩
  · intro _ u hu k hk
    cases huu : u.normalize.isUnion with
    | true =>
      obtain ⟨rfl, -⟩ := TypeForm.exists_bar_of_runtimeClass? huu hk
      exact testsSteadily_of_plain hretains rfl (by decide)
    | false =>
      obtain ⟨hk', hany⟩ := hmember hu _ (TypeForm.normalize_mem_leaves huu) k
        (TypeForm.runtimeClass?_normalize_of_some hk)
      exact testsSteadily_of_plain hretains hk' hany
  · rintro u hu c hc _ rfl
    rw [verdict_of_converter hc]
    refine ⟨rfl, fun hrefused => ?_⟩
    rcases hrun : (c.apply v place).perform run _ with ⟨f | w, st'⟩
    · exact (Store.failsOn_of_converter? ho hretains hv
        (looksKeep_of_plain hretains (hmember hu)) hc rfl hrun).1
    · rw [hrun] at hrefused
      cases hrefused
  · intro u hu k hk hof
    refine ⟨?_, rfl⟩
    rw [Bool.eq_false_iff]
    intro huu
    obtain ⟨rfl, -⟩ := TypeForm.exists_bar_of_runtimeClass? huu hk
    exact hbar hof

/-- Such a value is taken or refused by a type of which it defies no leaf. -/
theorem Value.verdict_ne_failed_of_plain (ho : st.Ordered) (hknown : st.Knows v)
    (hv : st.HasNoNumberMethods v) (hplain : u.TestedPlainly st)
    (hspares : ∀ u' ∈ u.leaves, ∀ f, ¬ st.Defies run v u' f) :
    v.verdict [] u place run st ≠ .failed := by
  have hretains : ∀ st₁, st₁ = st → st.Retains v st₁ := Store.retains_of_eq hknown
  intro hfailed
  rw [verdict] at hfailed
  rcases hrun : (v.coerce [] u place).perform run st with ⟨f | w, st'⟩
  · rw [hrun] at hfailed
    have hlooks : v.LooksKeep run st (· = st) u := looksKeep_of_plain hretains hplain
    obtain ⟨-, hf⟩ := failsOn_of_coerce (I := (· = st)) ho rfl hretains hv hlooks hrun
    cases hf with
    | refused => cases hfailed
    | defied h₁ hu' hk =>
      subst h₁
      exact hspares _ hu' _ hk
    | look h₁ hu' hk htest hf =>
      obtain ⟨hk', hany⟩ := hplain _ hu' _ hk
      subst h₁
      rw [perform_isInstance_eq_names hk' hany] at hf
      cases hf
  · rw [hrun] at hfailed
    cases hfailed

end

namespace WideInteger

/-- Floats and arrays, the floats first. -/
def floatOrArray : TypeForm := .union 0 .subscript [.builtin .float, .builtin .array]

theorem meetsMembers {n : Int} :
    (Value.int n).MeetsMembers [] [.builtin .array, .builtin .float] "value" runner .empty (· = .empty) :=
  Value.meetsMembers_of_plain Store.ordered_empty nofun (Store.hasNoNumberMethods_of_builtin rfl)
    testedPlainly_arrayOrFloat rfl nofun

/-- No look finds an integer among arrays and floats. -/
theorem not_foundAmong {n : Int} {ts : List TypeForm}
    (hts : ∀ u ∈ ts, u = .builtin .array ∨ u = .builtin .float) :
    ¬ (Value.int n).FoundAmong [] ts runner .empty := by
  rintro (⟨u, hu, hnone⟩ | ⟨u, hu, k, hk, hof⟩)
  · rcases hts u hu with rfl | rfl
    · rw [Store.converter?_of_plain rfl rfl rfl] at hnone
      cases hnone
    · rw [Store.converter?_of_plain rfl rfl rfl] at hnone
      cases hnone
  · rcases hts u hu with rfl | rfl
    · cases hk
      cases hof
    · cases hk
      cases hof

/-- An integer that has a float nearest to it is taken for floats. -/
theorem verdict_float {n : Int} {x : Number.Double} (hx : Number.Double.ofInt n = some x) :
    (Value.int n).verdict [] (.builtin .float) "value" runner .empty = .taken := by
  rw [Value.verdict_of_converter (Store.converter?_of_plain rfl rfl rfl), Converter.apply,
    Value.convertFloat_int hx]
  rfl

end WideInteger

end MemberAccess
