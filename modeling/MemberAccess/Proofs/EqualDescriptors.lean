import MemberAccess.Proofs.DescribedAlike
import MemberAccess.Proofs.SettledQuestions

/-!
# Equal descriptors

Descriptors are equal when they mean the same member of the same class, and a cache gives what it made
for one of them to all of them.  So whatever else a descriptor says has to follow from the member, not
from the class that the resolver was asked about, nor from the time when it was asked.

It does, with one exception.  A field is writable unless the records of the class that was *asked about*
are frozen, and that class may be a frozen record below the plain class that declares the field.  Two
such descriptors differ in nothing but that; which of them a cache sees first decides whether the other
can have a setter (`equal_descriptors_agree`).

What a cache does with two descriptors of one key is proved of `Twins`, in two cases: descriptors that differ
in nothing but the setter, for every shape, and descriptors whose types are equal without being the same
object, for shapes whose types can be compared with theirs.
-/

namespace MemberAccess

open Engine

/-! ## §1  Making accessors for them -/

namespace Contract

variable {st : Store} {d : MemberDescriptor} {s : Shape} {w : Bool}

theorem run_check {m m' : Memo} {q : Outcome Unit}
    (h : (checkBeforeSide st d s).run.run m = (q, m')) :
    (check st d s).run.run m = (q >>= fun _ => checkSide st d s, m') := by
  rw [check_eq]
  cases q with
  | error f => exact run_bind_error h
  | ok u => exact (run_bind_ok h).trans (run_liftExcept _)

/-- Whether a member can be set is asked for setters only. -/
theorem checkSide_writable (h : s.family ≠ .set ∨ w = d.writable) :
    checkSide st { d with writable := w } s = checkSide st d s := by
  rcases h with h | rfl
  · unfold checkSide
    cases hf : s.family <;> first | rfl | exact absurd hf h
  · rfl

theorem checkSide_of_not_writable (hs : s.family = .set) (hw : d.writable = false) :
    ∃ f, checkSide st d s = .error f := by
  unfold checkSide
  rw [hs]
  exact ⟨_, if_pos (by simp [MemberDescriptor.has, hw])⟩

end Contract

namespace Engine

variable {σ σ₁ : Session} {d d₁ d₂ : MemberDescriptor} {s : Shape} {w : Bool} {i : Nat} {r : Outcome Nat}

/-- A use of the library that does not fail in a session. -/
def Succeeds {α : Type} (x : Engine α) (σ : Session) : Prop :=
  ∃ a σ', x.run.run σ = (.ok a, σ')

theorem succeeds_of_run {α : Type} {x : Engine α} {q : Outcome α} (h : x.run.run σ = (q, σ₁)) :
    Succeeds x σ ↔ ∃ a, q = .ok a := by
  constructor
  · rintro ⟨a, σ', ha⟩
    rw [h] at ha
    cases ha
    exact ⟨a, rfl⟩
  · rintro ⟨a, rfl⟩
    exact ⟨a, σ₁, h⟩

theorem exists_ofPlan_iff {st : Store} {listed : Bool} {p : Plan} :
    (∃ a, Accessor.ofPlan st listed p = .ok a) ↔ p.defect? st = none := by
  constructor
  · rintro ⟨a, ha⟩
    exact Accessor.defect?_of_ofPlan ha
  · intro h
    obtain ⟨a, ha, -⟩ := Accessor.ofPlan_of_defect? listed h
    exact ⟨a, ha⟩

/-- The plan for a member says whether the member can be set and makes nothing of it. -/
theorem synthesize_writable {st : Store} {rules : List Rule} :
    Plan.synthesize st rules { d with writable := w } s =
      (fun p : Plan => { p with descriptor := { d with writable := w } }) <$>
        Plan.synthesize st rules d s := by
  have harguments : Plan.argumentSteps st rules { d with writable := w } s =
      Plan.argumentSteps st rules d s := rfl
  have hresult : Plan.resultStep st rules { d with writable := w } s =
      Plan.resultStep st rules d s := rfl
  unfold Plan.synthesize
  rw [harguments, hresult]
  cases Plan.argumentSteps st rules d s with
  | error f => rfl
  | ok arguments =>
    cases s.isValueProducing with
    | false => rfl
    | true => cases Plan.resultStep st rules d s <;> rfl

/-- Whether there is an accessor does not depend on whether the member can be set. -/
theorem exists_madeIn_writable :
    (∃ a, madeIn σ { d with writable := w } s = .ok a) ↔ ∃ a, madeIn σ d s = .ok a := by
  unfold madeIn made
  rw [synthesize_writable]
  cases hp : Plan.synthesize σ.store σ.rules d s with
  | error f => exact Iff.rfl
  | ok p =>
    have hdefect : Plan.defect? σ.store { p with descriptor := { d with writable := w } } =
        Plan.defect? σ.store p := by
      obtain ⟨arguments, result, -, -, rfl⟩ := exists_of_synthesize hp
      rfl
    refine (exists_ofPlan_iff (p := { p with descriptor := { d with writable := w } })).trans ?_
    rw [hdefect]
    exact (exists_ofPlan_iff (p := p)).symm

/-- Building succeeds for what passes the checks and can be made. -/
theorem succeeds_build_iff {m : Memo} {q : Outcome Unit}
    (h : (Contract.checkBeforeSide σ.store d s).run.run σ.memo = (q, m)) :
    Succeeds (build (.proper d) (.proper s)) σ ↔
      q = .ok () ∧ Contract.checkSide σ.store d s = .ok () ∧ ∃ a, madeIn σ d s = .ok a := by
  have hcheck := Contract.run_check h
  cases q with
  | error f =>
    rw [succeeds_of_run (run_build_refused hcheck)]
    simp
  | ok u =>
    cases hside : Contract.checkSide σ.store d s with
    | error f =>
      rw [hside] at hcheck
      rw [succeeds_of_run (run_build_refused hcheck)]
      simp
    | ok v =>
      rw [hside] at hcheck
      cases hmade : madeIn σ d s with
      | error f =>
        rw [succeeds_of_run (run_build_unmade hcheck hmade)]
        simp
      | ok a =>
        obtain ⟨log, hrun⟩ := run_build_made hcheck hmade
        rw [succeeds_of_run hrun]
        simp

/-- Building for a descriptor that differs only in whether the member can be set succeeds likewise, unless
a setter is wanted. -/
theorem succeeds_build_writable (hw : s.family ≠ .set ∨ w = d.writable) :
    Succeeds (build (.proper { d with writable := w }) (.proper s)) σ ↔
      Succeeds (build (.proper d) (.proper s)) σ := by
  rcases hq : (Contract.checkBeforeSide σ.store d s).run.run σ.memo with ⟨q, m⟩
  rw [succeeds_build_iff hq, succeeds_build_iff (d := { d with writable := w }) hq,
    Contract.checkSide_writable hw, exists_madeIn_writable]

/-- No setter is built for a member that cannot be set. -/
theorem not_succeeds_build (hs : s.family = .set) (hw : d.writable = false) :
    ¬ Succeeds (build (.proper d) (.proper s)) σ := by
  rcases hq : (Contract.checkBeforeSide σ.store d s).run.run σ.memo with ⟨q, m⟩
  rw [succeeds_build_iff hq]
  rintro ⟨-, hside, -⟩
  have hrefused : ∃ f, Contract.checkSide σ.store d s = .error f :=
    Contract.checkSide_of_not_writable hs hw
  obtain ⟨f, hf⟩ := hrefused
  rw [hf] at hside
  cases hside

/-- Building depends on the world, the rules, the settings and the memo of a session, and on nothing else. -/
theorem succeeds_build_congr (hstore : σ₁.store = σ.store) (hrules : σ₁.rules = σ.rules)
    (hsettings : σ₁.settings = σ.settings) (hmemo : σ₁.memo = σ.memo) :
    Succeeds (build (.proper d) (.proper s)) σ₁ ↔ Succeeds (build (.proper d) (.proper s)) σ := by
  rcases hq : (Contract.checkBeforeSide σ.store d s).run.run σ.memo with ⟨q, m⟩
  have hq₁ : (Contract.checkBeforeSide σ₁.store d s).run.run σ₁.memo = (q, m) := by rw [hstore, hmemo, hq]
  rw [succeeds_build_iff hq, succeeds_build_iff hq₁, madeIn, madeIn, hstore, hrules, hsettings]

/-- **Building succeeds after it was asked for as it would have before**, by way of whatever descriptor that
differs only in whether the member can be set. -/
theorem succeeds_build_again (h : (build (.proper d) (.proper s)).run.run σ = (r, σ₁)) :
    Succeeds (build (.proper { d with writable := w }) (.proper s)) σ₁ ↔
      Succeeds (build (.proper { d with writable := w }) (.proper s)) σ := by
  obtain ⟨accessors, log, rfl⟩ := exists_of_build h
  rcases hq : (Contract.checkBeforeSide σ.store d s).run.run σ.memo with ⟨q, m⟩
  rw [Contract.run_check hq]
  -- the memo has gained what the checks asked, so that they have the same result again
  have hagain : (Contract.checkBeforeSide σ.store d s).run.run m = (q, m) :=
    (Contract.settles_checkBeforeSide _ _ _ hq).2 m (.refl m)
  rw [succeeds_build_iff (d := { d with writable := w }) hq,
    succeeds_build_iff (σ := { σ with memo := m, accessors := accessors, log := log })
      (d := { d with writable := w }) hagain]
  rfl

/-! ## §2  Twins -/

/-- **Twins**: two descriptors with one key, for which building succeeds alike, but for a setter that the
second one lacks, and for the second one as well after the first one was built for as before. -/
structure Twins (d₁ d₂ : MemberDescriptor) (s : Shape) : Prop where
  keys : (CacheKey.mk d₁ s).equal ⟨d₂, s⟩ = true
  succeeds {σ : Session} : Succeeds (build (.proper d₁) (.proper s)) σ →
    Succeeds (build (.proper d₂) (.proper s)) σ ∨
      s.family = .set ∧ d₁.writable = true ∧ d₂.writable = false
  again {σ σ₁ : Session} {r : Outcome Nat} : (build (.proper d₁) (.proper s)).run.run σ = (r, σ₁) →
    (Succeeds (build (.proper d₂) (.proper s)) σ₁ ↔ Succeeds (build (.proper d₂) (.proper s)) σ)

/-- Either the one has the setter that is wanted and the other has not, or it makes no difference. -/
theorem lacks_or (h : Succeeds (build (.proper d₁) (.proper s)) σ) :
    (s.family ≠ .set ∨ d₁.writable = d₂.writable) ∨
      s.family = .set ∧ d₁.writable = true ∧ d₂.writable = false := by
  by_cases hw : s.family ≠ .set ∨ d₁.writable = d₂.writable
  · exact .inl hw
  · push Not at hw
    cases hw₁ : d₁.writable with
    | false => exact absurd h (not_succeeds_build hw.1 hw₁)
    | true =>
      rw [hw₁] at hw
      exact .inr ⟨hw.1, rfl, by simpa using hw.2.symm⟩

/-- Descriptors that differ only in whether the member can be set are twins for every shape. -/
theorem twins_of_writable (hd : d₁ = { d₂ with writable := d₁.writable }) : Twins d₁ d₂ s where
  keys := by
    rw [hd]
    exact CacheKey.equal_refl ⟨d₂, s⟩
  succeeds h := by
    refine (lacks_or h).imp (fun hw => ?_) id
    rw [hd] at h
    exact (succeeds_build_writable hw).mp h
  again {σ σ₁ r} h := by
    have hd₂ : { d₁ with writable := d₂.writable } = d₂ := by rw [hd]
    have hagain := succeeds_build_again (w := d₂.writable) h
    rwa [hd₂] at hagain

/-- Descriptors that are alike are twins for a shape whose types can be compared with theirs. -/
theorem twins_of_alike (hd : d₁.Alike d₂) (hc : Comparable d₁ s) : Twins d₁ d₂ s where
  keys := hd.keys s
  succeeds {σ} h := by
    have hbuilt {d : MemberDescriptor} (hc : Comparable d s) :
        Succeeds (build (.proper d) (.proper s)) σ ↔ ∃ a, verdictIn σ d s = .ok a := by
      rcases run_build σ hc with ⟨f, σ', hverdict, hrun, -⟩ | ⟨a, σ', hverdict, hrun, -⟩
      · rw [succeeds_of_run hrun, hverdict]
        simp
      · rw [succeeds_of_run hrun, hverdict]
        simp
    refine (lacks_or h).imp (fun hw => ?_) id
    rw [hbuilt (hd.comparable hc), ← exists_verdict_congr hd hc hw, ← hbuilt hc]
    exact h
  again {σ σ₁ r} h := by
    have hgrounds : SameGrounds σ σ₁ := by
      rcases run_build σ hc with ⟨f, σ', -, hrun, hg, -⟩ | ⟨a, σ', -, hrun, hg, -⟩ <;>
      · rw [h] at hrun
        cases hrun
        exact hg
    have hbuilt (σ : Session) :
        Succeeds (build (.proper d₂) (.proper s)) σ ↔ ∃ a, verdictIn σ d₂ s = .ok a := by
      rcases run_build σ (hd.comparable hc) with ⟨f, σ', hverdict, hrun, -⟩ | ⟨a, σ', hverdict, hrun, -⟩
      · rw [succeeds_of_run hrun, hverdict]
        simp
      · rw [succeeds_of_run hrun, hverdict]
        simp
    rw [hbuilt, hbuilt, verdictIn_congr hgrounds]

/-! ## §3  Presenting them to a cache -/

/-- A request for a key that is kept succeeds. -/
theorem succeeds_request_kept {n : Nat} (hk : (CacheKey.mk d s).isHashable = true)
    (hf : (σ.cacheAt i).find? ⟨d, s⟩ = some n) : Succeeds (request i (.proper d) (.proper s)) σ :=
  ⟨_, _, run_requestBy_kept hk hf⟩

/-- A request for a key that is not kept succeeds if building does. -/
theorem succeeds_request_missing (hi : i < σ.caches.size) (hb : Builds σ i)
    (hk : (CacheKey.mk d s).isHashable = true) (hp : s.isPrintable = true)
    (hf : (σ.cacheAt i).find? ⟨d, s⟩ = none) :
    Succeeds (request i (.proper d) (.proper s)) σ ↔ Succeeds (build (.proper d) (.proper s)) σ := by
  rcases hrun : (build (.proper d) (.proper s)).run.run (missed σ i ⟨d, s⟩) with ⟨r, σ'⟩
  have hmissed : Succeeds (build (.proper d) (.proper s)) (missed σ i ⟨d, s⟩) ↔
      Succeeds (build (.proper d) (.proper s)) σ := succeeds_build_congr rfl rfl rfl rfl
  rw [← hmissed, succeeds_of_run hrun, succeeds_of_run (run_request_missing hi hb hk hp hf hrun)]

/-- A request whose key cannot be looked up, or is not kept and has a shape that cannot be described, fails. -/
theorem not_succeeds_request
    (h : (CacheKey.mk d s).isHashable = false ∨
      (σ.cacheAt i).find? ⟨d, s⟩ = none ∧ s.isPrintable = false) :
    ¬ Succeeds (request i (.proper d) (.proper s)) σ := by
  rintro ⟨n, σ', hn⟩
  cases hk : (CacheKey.mk d s).isHashable with
  | false =>
    rw [request, run_requestBy_unhashable hk] at hn
    cases hn
  | true =>
    obtain ⟨hf, hp⟩ := h.resolve_left (by simp [hk])
    rw [request, run_requestBy_undescribed hk hp hf] at hn
    cases hn

section
variable (hd : Twins d₁ d₂ s)
include hd

/-- After a request that failed by way of one twin, the request by way of the other succeeds if building
would have succeeded before. -/
theorem succeeds_request_of_failed {f : Failure} {σ' : Session} (hi : i < σ.caches.size)
    (hb : Builds σ i) (hk : (CacheKey.mk d₂ s).isHashable = true) (hp : s.isPrintable = true)
    (hf : (σ.cacheAt i).find? ⟨d₂, s⟩ = none)
    (hrun : (build (.proper d₁) (.proper s)).run.run (missed σ i ⟨d₁, s⟩) = (.error f, σ')) :
    Succeeds (request i (.proper d₂) (.proper s)) (σ'.putCache i (σ.cacheAt i).miss.fail) ↔
      Succeeds (build (.proper d₂) (.proper s)) σ := by
  obtain ⟨accessors, log, heq⟩ := exists_of_build hrun
  have hcaches : σ'.caches = (missed σ i ⟨d₁, s⟩).caches := by rw [heq]
  have hsize : i < σ'.caches.size := by simpa [hcaches, missed] using hi
  have hbuilds : Builds (σ'.putCache i (σ.cacheAt i).miss.fail) i := by
    refine builds_putCache ?_
    unfold Builds
    rw [hcaches]
    exact builds_missed hb
  have hfind : ((σ'.putCache i (σ.cacheAt i).miss.fail).cacheAt i).find? ⟨d₂, s⟩ = none := by
    rw [Session.cacheAt_putCache_self hsize]
    exact hf
  rw [succeeds_request_missing (by simpa using hsize) hbuilds hk hp hfind]
  -- neither what is put into the cache nor the note of the miss has a part in building
  calc Succeeds (build (.proper d₂) (.proper s)) (σ'.putCache i (σ.cacheAt i).miss.fail)
    _ ↔ Succeeds (build (.proper d₂) (.proper s)) σ' := succeeds_build_congr rfl rfl rfl rfl
    _ ↔ Succeeds (build (.proper d₂) (.proper s)) (missed σ i ⟨d₁, s⟩) := hd.again hrun
    _ ↔ Succeeds (build (.proper d₂) (.proper s)) σ := succeeds_build_congr rfl rfl rfl rfl

/-- **A request for a member that was presented by a twin before** succeeds if it would have succeeded at
first, and otherwise only for a setter that the twin has and the own descriptor has not. -/
theorem succeeds_request_iff (hi : i < σ.caches.size) (hb : Builds σ i)
    (hr : (request i (.proper d₁) (.proper s)).run.run σ = (r, σ₁)) :
    Succeeds (request i (.proper d₂) (.proper s)) σ₁ ↔
      Succeeds (request i (.proper d₂) (.proper s)) σ ∨
        s.family = .set ∧ d₁.writable = true ∧ d₂.writable = false ∧
          Succeeds (request i (.proper d₁) (.proper s)) σ := by
  have hkeys : (CacheKey.mk d₁ s).equal ⟨d₂, s⟩ = true := hd.keys
  have hhash : (CacheKey.mk d₁ s).isHashable = (CacheKey.mk d₂ s).isHashable :=
    CacheKey.isHashable_congr hkeys
  have hfinds (σ : Session) : (σ.cacheAt i).find? ⟨d₁, s⟩ = (σ.cacheAt i).find? ⟨d₂, s⟩ :=
    AccessorCache.find?_congr hkeys
  cases hk : (CacheKey.mk d₁ s).isHashable with
  | false =>
    have hk₂ := hhash.symm.trans hk
    simp [not_succeeds_request (.inl hk), not_succeeds_request (.inl hk₂)]
  | true =>
    have hk₂ := hhash.symm.trans hk
    cases hf : (σ.cacheAt i).find? ⟨d₁, s⟩ with
    | some n =>
      -- found by way of the one, and so by way of the other, before and after
      have hf₂ := (hfinds σ).symm.trans hf
      rw [request, run_requestBy_kept hk hf] at hr
      cases hr
      have hfind : ((σ.putCache i (σ.cacheAt i).hit).cacheAt i).find? ⟨d₂, s⟩ = some n := by
        rw [Session.cacheAt_putCache_self hi]
        exact hf₂
      simp [succeeds_request_kept hk₂ hfind, succeeds_request_kept hk₂ hf₂]
    | none =>
      have hf₂ := (hfinds σ).symm.trans hf
      cases hp : s.isPrintable with
      | false =>
        rw [request, run_requestBy_undescribed hk hp hf] at hr
        cases hr
        have hfind : ((σ.putCache i (σ.cacheAt i).miss).cacheAt i).find? ⟨d₂, s⟩ = none := by
          rw [Session.cacheAt_putCache_self hi]
          exact hf₂
        simp [not_succeeds_request (.inr ⟨hf, hp⟩), not_succeeds_request (.inr ⟨hf₂, hp⟩),
          not_succeeds_request (.inr ⟨hfind, hp⟩)]
      | true =>
        rcases hrun : (build (.proper d₁) (.proper s)).run.run (missed σ i ⟨d₁, s⟩) with ⟨q, σ'⟩
        have hrequest := run_request_missing hi hb hk hp hf hrun
        rw [hrequest] at hr
        cases hr
        have hbuild : Succeeds (build (.proper d₁) (.proper s)) σ ↔ ∃ n, r = .ok n := by
          rw [← succeeds_request_missing hi hb hk hp hf, succeeds_of_run hrequest]
        rw [succeeds_request_missing hi hb hk hp hf, succeeds_request_missing hi hb hk₂ hp hf₂, hbuild]
        cases r with
        | ok n =>
          obtain ⟨accessors, log, heq⟩ := exists_of_build hrun
          have hsize : i < σ'.caches.size := by rw [heq]; simpa [missed] using hi
          have hfind : ((σ'.putCache i ((σ.cacheAt i).miss.keep ⟨d₁, s⟩ n)).cacheAt i).find? ⟨d₂, s⟩ =
              some n := by
            rw [← hfinds, Session.cacheAt_putCache_self hsize]
            exact AccessorCache.find?_keep hf
          constructor
          · intro _
            rcases hd.succeeds (hbuild.mpr ⟨n, rfl⟩) with h₂ | ⟨hset, hw₁, hw₂⟩
            · exact .inl h₂
            · exact .inr ⟨hset, hw₁, hw₂, n, rfl⟩
          · intro _
            exact succeeds_request_kept hk₂ hfind
        | error f =>
          refine (succeeds_request_of_failed hd hi hb hk₂ hp hf₂ hrun).trans ?_
          simp

end

end Engine

/-! ## §4  Descriptors that the resolvers give -/

/-- **Equal descriptors agree on everything but whether a field can be set**, at whatever times and by way of
whatever classes they were found, where the annotations mean the same; and on that too exactly if the records
of the classes that were asked about are frozen alike.  What was found at one time has the very same types.

Presented to a cache first, one of them decides whether a request for the other succeeds in one case only: it
has the setter that is asked for, and the other has not.  For types that are equal but not the same this is
said of the shapes whose types can be compared with them. -/
theorem Member.equal_descriptors_agree {run : Runner} {st₁ st₂ : Store} {c₁ c₂ : ClassRef}
    {d₁ d₂ : MemberDescriptor} (ha : AnnotationsAgree run st₁ st₂) (h₁ : Asked run st₁ c₁ d₁)
    (h₂ : Asked run st₂ c₂ d₂) (h : d₁.sameMember d₂ = true) :
    d₁.Alike d₂ ∧
    (st₁ = st₂ → d₁ = { d₂ with writable := d₁.writable }) ∧
    (d₁.writable = d₂.writable ↔ (d₁.kind = .field → isFrozen st₁ c₁ = isFrozen st₁ c₂)) ∧
    (d₁.kind = .field → d₁.writable = !isFrozen st₁ c₁) ∧
    ∀ (σ : Session) (i : Nat) (s : Shape) (r : Outcome Nat) (σ₁ : Session),
      d₁ = { d₂ with writable := d₁.writable } ∨ Comparable d₁ s →
      i < σ.caches.size → Builds σ i → (request i (.proper d₁) (.proper s)).run.run σ = (r, σ₁) →
      (Succeeds (request i (.proper d₂) (.proper s)) σ₁ ↔
        Succeeds (request i (.proper d₂) (.proper s)) σ ∨
          s.family = .set ∧ d₁.writable = true ∧ d₂.writable = false ∧
            Succeeds (request i (.proper d₁) (.proper s)) σ) := by
  have hd₁ := describes_of_asked h₁
  have hd₂ := describes_of_asked h₂
  obtain ⟨hkind, hdeclaring, hname⟩ := MemberDescriptor.sameMember_iff.mp h
  obtain ⟨k, hk⟩ := hd₂.exists_declaring
  have hsame : d₁.declaring = d₂.declaring := by
    rw [hk] at hdeclaring ⊢
    exact TypeForm.eq_cls_of_equal (TypeForm.equal_symm hdeclaring)
  obtain ⟨halike, hwritable⟩ := hd₁.alike ha hd₂ hkind hsame hname
  refine ⟨halike, ?_, ⟨?_, ?_⟩, hd₁.writable_of_field, ?_⟩
  · rintro rfl
    exact hd₁.agree hd₂ hkind hsame hname
  · intro hw hfield
    rw [hd₁.writable_of_field hfield, hd₂.writable_of_field (hkind ▸ hfield), isFrozen_congr ha.classes] at hw
    exact Bool.not_inj hw
  · intro hfrozen
    rcases hwritable with hfield | hw
    · rw [hd₁.writable_of_field hfield, hd₂.writable_of_field (hkind ▸ hfield),
        isFrozen_congr ha.classes, hfrozen hfield]
    · exact hw
  · intro σ i s r σ₁ hs hi hb hr
    have htwins : Twins d₁ d₂ s := hs.elim twins_of_writable (twins_of_alike halike)
    exact succeeds_request_iff htwins hi hb hr

/-! ## §5  A frozen record below a plain class -/

namespace FrozenBelow

open MemberAccess.Action

/-- A class with a field of a type, and below it one whose records are frozen; `m` annotation objects were
made already. -/
def worldAt (m : Mark) (t : TypeForm) : Store :=
  { Store.empty with
    classes := #[
      { (default : ClassInfo) with
        name := "Point"
        qualifiedName := "Point"
        bases := [.builtin .object]
        lineage := [.user 0, .builtin .object]
        annotations := [("x", t)]
        hasFields := true },
      { (default : ClassInfo) with
        name := "Fixed"
        qualifiedName := "Fixed"
        bases := [.user 0]
        lineage := [.user 1, .user 0, .builtin .object]
        record := some ⟨true, []⟩
        ownRecord := some true
        hasFields := true }]
    nextMark := m }

/-- The field, as it is found with or without a setter. -/
def xOf (t : TypeForm) (writable : Bool) : MemberDescriptor :=
  Member.fieldDescriptor (.user 0) "x" t writable

/-- What the runner of a world is for a resolver. -/
abbrev runner : Runner := runFunction callDepth

/-- Lists of integers, as the annotation object of a number. -/
def ints (m : Mark) : TypeForm := .alias m .direct (.builtin .list) [.builtin .int]

/-- All of them say the same. -/
theorem equal_ints (m m' : Mark) : (ints m).equal (ints m') = true := by
  have hlists : TypeForm.equalList [.builtin .int] [.builtin .int] = true := by decide +kernel
  simp [ints, TypeForm.equal, hlists]

/-- There are no notes to drop. -/
theorem perform_strip (m : Mark) (st : Store) :
    (Hints.strip Hints.depth (ints m)).perform runner st = (.ok (ints m), st) := by
  have hall : (Hints.stripAll 199 [.builtin .int]).perform runner st = (.ok [.builtin .int], st) := rfl
  have hequal : TypeForm.equalList [.builtin .int] [.builtin .int] = true := by decide +kernel
  rw [ints, Hints.depth, Hints.strip, perform_bind_ok hall, if_pos hequal]
  rfl

/-- Looking up the annotations of one of the two classes makes one more annotation object. -/
theorem perform_ofClass (m : Mark) {i : Nat} (hi : i = 0 ∨ i = 1) :
    (Hints.ofClass (.user i)).perform runner (worldAt m (ints 1)) =
      (.ok [("x", ints m)], worldAt (m + 1) (ints 1)) := by
  have hstripped : (Hints.stripNamed [("x", ints m)]).perform runner (worldAt (m + 1) (ints 1)) =
      (.ok [("x", ints m)], worldAt (m + 1) (ints 1)) := by
    rw [Hints.stripNamed, List.mapM_cons, bind_assoc, perform_bind_ok (perform_strip m _)]
    rfl
  rw [Hints.ofClass, perform_bind_get]
  refine Eq.trans (perform_bind_ok ?_) hstripped
  rcases hi with rfl | rfl <;> rfl

theorem perform_knownOfClass_user (m : Mark) {i : Nat} (hi : i = 0 ∨ i = 1) :
    (Hints.knownOfClass (.user i)).perform runner (worldAt m (ints 1)) =
      (.ok [("x", ints m)], worldAt (m + 1) (ints 1)) := by
  rw [Hints.knownOfClass, perform_bind_get, Hints.orWritten, perform_tryCatch, perform_ofClass m hi]

/-- What is known of a class is the field of the type, each time as one more annotation object, or nothing. -/
theorem perform_knownOfClass (k : ClassRef) :
    (∀ m, (Hints.knownOfClass k).perform runner (worldAt m (ints 1)) =
      (.ok [("x", ints m)], worldAt (m + 1) (ints 1))) ∨
    ∀ m, (Hints.knownOfClass k).perform runner (worldAt m (ints 1)) = (.ok [], worldAt m (ints 1)) := by
  match k with
  | .user 0 => exact .inl fun m => perform_knownOfClass_user m (.inl rfl)
  | .user 1 => exact .inl fun m => perform_knownOfClass_user m (.inr rfl)
  | .user (_ + 2) => exact .inr fun _ => rfl
  | .builtin b =>
    refine .inr fun m => ?_
    cases b <;> rfl

/-- Nothing is known of the functions, since none is declared. -/
theorem perform_known (m : Mark) (t : TypeForm) (g : Nat) (st : Store) :
    (Hints.known ((worldAt m t).function g)).perform runner st = (.ok [], st) := by
  have hnone : (worldAt m t).function g = default := by simp [Store.function, worldAt, Store.empty]
  rw [hnone]
  rfl

/-- **The annotations of the world mean the same** however many annotation objects were made. -/
theorem annotationsAgree (m m' : Mark) :
    Member.AnnotationsAgree runner (worldAt m (ints 1)) (worldAt m' (ints 1)) where
  classes := rfl
  functions := rfl
  properties := rfl
  meaning := by
    refine ⟨fun s s' => ∃ n n', s = worldAt n (ints 1) ∧ s' = worldAt n' (ints 1),
      ⟨?_, ?_⟩, m, m', rfl, rfl⟩
    · intro g s s' t t' hs hs' hR h h'
      rw [perform_known] at h h'
      cases h
      cases h'
      exact ⟨.refl _, hR⟩
    · rintro k _ _ t t' hs hs' ⟨n, n', rfl, rfl⟩ h h'
      rcases perform_knownOfClass k with hk | hk
      · rw [hk] at h h'
        cases h
        cases h'
        exact .cons ⟨rfl, equal_ints n n'⟩ .nil
      · rw [hk] at h h'
        cases h
        cases h'
        exact .refl _

/-- Resolving the field makes one more annotation object. -/
theorem resolve_point (m : Mark) :
    (Member.resolve (.field "x") (.cls (.user 0))).perform runner (worldAt m (ints 1)) =
      (.ok (xOf (ints m) true), worldAt (m + 1) (ints 1)) :=
  perform_bind_ok (perform_knownOfClass_user m (.inl rfl))

theorem resolve_fixed (m : Mark) :
    (Member.resolve (.field "x") (.cls (.user 1))).perform runner (worldAt m (ints 1)) =
      (.ok (xOf (ints m) false), worldAt (m + 1) (ints 1)) :=
  perform_bind_ok (perform_knownOfClass_user m (.inl rfl))

/-- Equal descriptors of the field, found one after the other, and what is true of them: their types say the
same as two objects, and one of them has a setter. -/
theorem agree_point_fixed :
    (Member.resolve (.field "x") (.cls (.user 0))).perform runner (worldAt 2 (ints 1)) =
      (.ok (xOf (ints 2) true), worldAt 3 (ints 1)) ∧
    (Member.resolve (.field "x") (.cls (.user 1))).perform runner (worldAt 3 (ints 1)) =
      (.ok (xOf (ints 3) false), worldAt 4 (ints 1)) ∧
    (xOf (ints 2) true).sameMember (xOf (ints 3) false) = true ∧
    (xOf (ints 2) true).Alike (xOf (ints 3) false) ∧
    (xOf (ints 2) true).writable ≠ (xOf (ints 3) false).writable := by
  have hsame : (xOf (ints 2) true).sameMember (xOf (ints 3) false) = true := by decide +kernel
  have hagree := Member.equal_descriptors_agree (annotationsAgree 2 3) (.resolve (resolve_point 2))
    (.resolve (resolve_fixed 3)) hsame
  refine ⟨resolve_point 2, resolve_fixed 3, hsame, hagree.1, ?_⟩
  intro hwritable
  exact absurd (hagree.2.2.1.mp hwritable rfl) (by decide +kernel)

/-- The world in which the field holds an integer, and its field. -/
abbrev world : Store := worldAt 1 (.builtin .int)

abbrev x (writable : Bool) : MemberDescriptor := xOf (.builtin .int) writable

theorem asked_point : Member.Asked runner world (.user 0) (x true) := by
  have hrun : (Member.resolve (.field "x") (.cls (.user 0))).perform runner world =
      (.ok (x true), world) := rfl
  exact .resolve hrun

theorem asked_fixed : Member.Asked runner world (.user 1) (x false) := by
  have hrun : (Member.resolve (.field "x") (.cls (.user 1))).perform runner world =
      (.ok (x false), world) := rfl
  exact .resolve hrun

/-- The shape of its setter. -/
def setter : Shape := Shape.setter none none true

/-- The plan for its setter. -/
def plan : Plan :=
  { descriptor := x true
    shape := setter
    operation := .set
    receiver := some ⟨.cls (.user 0), some (.user 0)⟩
    arguments := [⟨0, "value", .builtin .int, some .int⟩]
    result := none
    arrayArity := none }

theorem defect?_plan : plan.defect? world = none := by
  have hname : plan.functionName world = "Point_x_set0" := by decide +kernel
  have hidentifier : Text.isIdentifier "Point_x_set0" = true := by decide +kernel
  have hform : Text.normalForm "Point_x_set0" = "Point_x_set0" :=
    Text.normalForm_of_plain (by decide)
  have hfile : (x true).namesFile world = true := by decide +kernel
  exact Plan.defect?_eq_none hname hfile rfl hidentifier hform (.inr (by decide))

/-- The setter is built by way of the class that is not frozen. -/
theorem succeeds_build_point :
    Succeeds (build (.proper (x true)) (.proper setter)) (.start world) := by
  have hasked : (Contract.checkBeforeSide world (x true) setter).run.run .empty = (.ok (), .empty) := rfl
  have hside : Contract.checkSide world (x true) setter = .ok () := rfl
  have hconverter : world.converter? [] (.builtin .int) = some .int := by
    rw [Store.converter?_of_plain rfl rfl rfl]
    rfl
  have hplan : Plan.synthesize world [] (x true) setter = .ok plan := by
    rw [plan, ← hconverter]
    rfl
  refine (succeeds_build_iff (σ := .start world) hasked).mpr ⟨rfl, hside, ?_⟩
  rw [madeIn, made]
  change ∃ a, (Plan.synthesize world [] (x true) setter >>= Accessor.ofPlan world true) = .ok a
  rw [hplan]
  exact exists_ofPlan_iff.mpr defect?_plan

/-- **The order of two requests decides** whether the setter is refused by way of the class that is
frozen: it is in a new session, and it is not once the setter was asked for by way of the other class,
although both descriptors are equal. -/
theorem order_of_requests_shows :
    Member.Asked runner world (.user 0) (x true) ∧ Member.Asked runner world (.user 1) (x false) ∧
    (x true).sameMember (x false) = true ∧ (x true).writable ≠ (x false).writable ∧
    ¬ Succeeds (request 0 (.proper (x false)) (.proper setter)) (.start world) ∧
    ∃ n σ, (request 0 (.proper (x true)) (.proper setter)).run.run (.start world) = (.ok n, σ) ∧
      Succeeds (request 0 (.proper (x false)) (.proper setter)) σ := by
  have hbuilds : Builds (.start world) 0 := rfl
  have hhash : ∀ w, (CacheKey.mk (x w) setter).isHashable = true := fun _ => rfl
  have hmissing : ∀ w, ((Session.start world).cacheAt 0).find? ⟨x w, setter⟩ = none := fun _ => rfl
  have hi : 0 < (Session.start world).caches.size := by decide +kernel
  have hsucceeds := (succeeds_request_missing hi hbuilds (hhash true) rfl (hmissing true)).mpr
    succeeds_build_point
  have hrefused : ¬ Succeeds (request 0 (.proper (x false)) (.proper setter)) (.start world) := by
    rw [succeeds_request_missing hi hbuilds (hhash false) rfl (hmissing false)]
    exact not_succeeds_build rfl rfl
  obtain ⟨n, σ, hrun⟩ := hsucceeds
  refine ⟨asked_point, asked_fixed, by decide +kernel, by decide +kernel, hrefused, n, σ, hrun, ?_⟩
  have hwritable : x true = { x false with writable := (x true).writable } := rfl
  exact (succeeds_request_iff (twins_of_writable hwritable) hi hbuilds hrun).mpr
    (.inr ⟨rfl, rfl, rfl, n, σ, hrun⟩)

end FrozenBelow
end MemberAccess
