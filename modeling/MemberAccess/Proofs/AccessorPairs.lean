import MemberAccess.Proofs.CacheRuns
import MemberAccess.Proofs.ClosedAccessors
import MemberAccess.Proofs.ValidatedPairs

/-!
# Pairs of accessors

A getter and a setter that are asked for together are two requests for one member, the second in the session
that the first has left.  Each of them was built for the member, at once or at an earlier time
(`Engine.MadeFor`), if that is so of what the cache keeps for it (`Engine.KeepsFor`): caches compare members
by their kind, class and name, and so might keep what was built for one of another value type.
-/

namespace MemberAccess.Engine

variable {σ σ₀ σ₁ : Session} {d : MemberDescriptor} {s s' : Shape} {a : Accessor} {i n : Nat}
  {cache : Option Nat} {useCache : Bool}

/-! ## §1  What an accessor was made for -/

/-- An accessor of a session was built for a member, and for a shape or an equal one, in some session. -/
structure MadeFor (σ : Session) (n : Nat) (d : MemberDescriptor) (s : Shape) (σ₀ : Session) (a : Accessor) :
    Prop where
  accessor : σ.accessors[n]? = some a
  built : ∃ s', s'.equal s = true ∧ Built σ₀ d s' a

theorem MadeFor.prolongs (h : MadeFor σ n d s σ₀ a) (hσ : Prolongs σ σ₁) : MadeFor σ₁ n d s σ₀ a :=
  ⟨hσ.accessor h.accessor, h.built⟩

/-- What a cache keeps for a member and a shape, if it keeps anything, was built for that member. -/
def KeepsFor (σ : Session) (i : Nat) (d : MemberDescriptor) (s : Shape) : Prop :=
  ∀ n, (σ.cacheAt i).find? ⟨d, s⟩ = some n → ∃ σ₀ a, MadeFor σ n d s σ₀ a

/-- In two sessions the same converters are chosen. -/
structure ChoosesAlike (σ σ₁ : Session) : Prop where
  store : σ₁.store = σ.store
  rules : σ₁.rules = σ.rules

theorem ChoosesAlike.trans {σ₂ : Session} (h : ChoosesAlike σ σ₁) (h' : ChoosesAlike σ₁ σ₂) :
    ChoosesAlike σ σ₂ where
  store := h'.store.trans h.store
  rules := h'.rules.trans h.rules

/-- **A request was answered for a member**: by an accessor that was built for it, at once unless the request
could be answered by what a cache keeps. -/
structure AnsweredFor (kept : Prop) (σ σ₁ : Session) (n : Nat) (d : MemberDescriptor) (s : Shape) : Prop where
  made : ∃ σ₀ a, MadeFor σ₁ n d s σ₀ a ∧ (¬ kept → ChoosesAlike σ σ₀)
  alike : ChoosesAlike σ σ₁

/-- It matters of the session before the request only which converters are chosen in it. -/
theorem AnsweredFor.of_alike {kept : Prop} {σ' : Session} (h : AnsweredFor kept σ' σ₁ n d s)
    (hσ : ChoosesAlike σ σ') : AnsweredFor kept σ σ₁ n d s := by
  obtain ⟨⟨σ₀, a, hmade, halike⟩, hσ₁⟩ := h
  exact ⟨⟨σ₀, a, hmade, fun hno => hσ.trans (halike hno)⟩, hσ.trans hσ₁⟩

/-- The accessor stays what it is afterwards. -/
theorem AnsweredFor.prolongs {kept : Prop} {σ₂ : Session} (h : AnsweredFor kept σ σ₁ n d s)
    (hσ : Prolongs σ₁ σ₂) (halike : ChoosesAlike σ₁ σ₂) : AnsweredFor kept σ σ₂ n d s := by
  obtain ⟨⟨σ₀, a, hmade, hat⟩, hσ₁⟩ := h
  exact ⟨⟨σ₀, a, hmade.prolongs hσ, hat⟩, hσ₁.trans halike⟩

/-! ## §2  One request -/

/-- What is built is built at once. -/
theorem answeredFor_of_build (kept : Prop) (h : (build (.proper d) (.proper s)).run.run σ = (.ok n, σ₁)) :
    AnsweredFor kept σ σ₁ n d s := by
  obtain ⟨accessors, log, hσ₁⟩ := exists_of_build h
  obtain ⟨-, a, -, -, ha⟩ := made_of_build h
  refine ⟨⟨σ, a, ⟨ha, s, Shape.equal_refl s, built_of_run h ha⟩, fun _ => ⟨rfl, rfl⟩⟩, ?_⟩
  rw [hσ₁]
  exact ⟨rfl, rfl⟩

/-- So is what a cache makes, by whatever scheme. -/
theorem answeredFor_of_compileFor (kept : Prop) (h : (compileFor i ⟨d, s⟩).run.run σ = (.ok n, σ₁)) :
    AnsweredFor kept σ σ₁ n d s := by
  unfold compileFor at h
  rw [run_bind_ok run_cacheSlot] at h
  cases hscheme : (σ.caches[i]?.getD default).scheme with
  | build =>
    rw [hscheme] at h
    exact answeredFor_of_build kept h
  | failing first names =>
    rw [hscheme] at h
    dsimp only at h
    rw [run_bind_ok run_cacheSlot, run_bind_ok (run_modifyCache _)] at h
    split at h
    case isTrue => cases h
    case isFalse => exact (answeredFor_of_build kept h).of_alike ⟨rfl, rfl⟩

/-- **What a cache answers was built for the member**, if that is so of what it keeps. -/
theorem answeredFor_of_request (hi : i < σ.caches.size) (hkeeps : KeepsFor σ i d s)
    (h : (request i (.proper d) (.proper s)).run.run σ = (.ok n, σ₁)) :
    AnsweredFor (((σ.cacheAt i).find? ⟨d, s⟩).isSome = true) σ σ₁ n d s := by
  unfold request at h
  cases hk : (CacheKey.mk d s).isHashable with
  | false =>
    rw [run_requestBy_unhashable hk] at h
    cases h
  | true =>
    cases hf : (σ.cacheAt i).find? ⟨d, s⟩ with
    | some m =>
      rw [run_requestBy_kept hk hf] at h
      cases h
      obtain ⟨σ₀, a, hmade⟩ := hkeeps _ hf
      exact ⟨⟨σ₀, a, hmade.prolongs (prolongs_of_eq rfl rfl), fun hno => absurd rfl hno⟩, ⟨rfl, rfl⟩⟩
    | none =>
      cases hp : s.isPrintable with
      | false =>
        rw [run_requestBy_undescribed hk hp hf] at h
        cases h
      | true =>
        rcases hc : (compileFor i ⟨d, s⟩).run.run (missed σ i ⟨d, s⟩) with ⟨r, σ'⟩
        rw [run_requestBy_of_sameCaches hi hk hp hf hc (spares_compileFor.sameCaches hc)] at h
        cases h
        have hanswered : AnsweredFor ((none : Option Nat).isSome = true) σ σ' n d s :=
          (answeredFor_of_compileFor _ hc).of_alike ⟨rfl, rfl⟩
        exact hanswered.prolongs (prolongs_of_eq rfl rfl) ⟨rfl, rfl⟩

/-- Whether a request is answered through a cache that keeps something for it. -/
def IsKept (σ : Session) (cache : Option Nat) (useCache : Bool) (d : MemberDescriptor) (s : Shape) : Prop :=
  useCache = true ∧ ((σ.cacheAt (cache.getD Session.defaultCache)).find? ⟨d, s⟩).isSome = true

/-- A request goes to a cache, unless none is used. -/
theorem run_getOrCompile {d : Supplied MemberDescriptor} {s : Supplied Shape} :
    (getOrCompile d s cache useCache).run.run σ =
      if (!useCache || (cache.isNone && σ.settings.cacheDisabled)) = true then (build d s).run.run σ
      else (request (cache.getD Session.defaultCache) d s).run.run σ := by
  have hget : (get : Engine Session).run.run σ = (.ok σ, σ) := rfl
  unfold getOrCompile
  rw [run_bind_ok hget]
  split <;> rfl

theorem answeredFor_of_getOrCompile (hi : cache.getD Session.defaultCache < σ.caches.size)
    (hkeeps : KeepsFor σ (cache.getD Session.defaultCache) d s)
    (h : (getOrCompile (.proper d) (.proper s) cache useCache).run.run σ = (.ok n, σ₁)) :
    AnsweredFor (IsKept σ cache useCache d s) σ σ₁ n d s := by
  rw [run_getOrCompile] at h
  split at h
  case isTrue => exact answeredFor_of_build _ h
  case isFalse hcache =>
    have huse : useCache = true := by
      cases useCache with
      | true => rfl
      | false => exact absurd rfl hcache
    obtain ⟨⟨σ₀, a, hmade, halike⟩, hσ⟩ := answeredFor_of_request hi hkeeps h
    exact ⟨⟨σ₀, a, hmade, fun hno => halike fun hsome => hno ⟨huse, hsome⟩⟩, hσ⟩

/-! ## §3  Two requests -/

/-- A request is one of the operations on caches, and asks for no other key. -/
theorem exists_operation_of_getOrCompile
    (h : (getOrCompile (.proper d) (.proper s) cache useCache).run.run σ = (.ok n, σ₁)) :
    ∃ op : CacheOperation, op.after σ = σ₁ ∧ op.Spares ∧ ∀ k, op.asked? i = some k → k = ⟨d, s⟩ := by
  rw [run_getOrCompile] at h
  split at h
  case isTrue =>
    have hrun : (getOrCompile (.proper d) (.proper s) cache false).run.run σ = (.ok n, σ₁) := by
      rw [run_getOrCompile]
      exact h
    refine ⟨.uncached (.proper d) (.proper s) cache, ?_, trivial, ?_⟩
    · exact congrArg Prod.snd (CacheOperation.run_map hrun)
    · intro k hk
      cases (show none = some k from hk)
  case isFalse =>
    refine ⟨.ask (cache.getD Session.defaultCache) (compileFor (cache.getD Session.defaultCache)) ⟨d, s⟩,
      ?_, fun _ => spares_compileFor, ?_⟩
    · exact congrArg Prod.snd (CacheOperation.run_map h)
    · intro k hk
      by_cases hmine : cache.getD Session.defaultCache = i ∧ (CacheKey.mk d s).isHashable = true
      · rw [CacheOperation.ask, CacheOperation.asked?, if_pos hmine] at hk
        exact (Option.some.inj hk).symm
      · rw [CacheOperation.ask, CacheOperation.asked?, if_neg hmine] at hk
        cases hk

/-- **A request leaves what a cache keeps for other keys.** -/
theorem find?_after_getOrCompile
    (h : (getOrCompile (.proper d) (.proper s) cache useCache).run.run σ = (.ok n, σ₁))
    (hi : i < σ.caches.size) (hother : s.equal s' = false) :
    (σ₁.cacheAt i).find? ⟨d, s'⟩ = (σ.cacheAt i).find? ⟨d, s'⟩ := by
  obtain ⟨op, hafter, hspares, hasked⟩ := exists_operation_of_getOrCompile (i := i) h
  have heffect := CacheOperation.effect_perform hspares hi
  rw [hafter] at heffect
  cases hf : (σ.cacheAt i).find? ⟨d, s'⟩ with
  | some m => exact heffect.find?_of_some hf
  | none =>
    refine heffect.find?_of_none hf ?_
    intro k hk
    rw [hasked k hk, CacheKey.equal, hother, Bool.and_false]

/-- A descriptor that has to be there is the one that is handed in. -/
theorem proper_of_requireDescriptor {kind : Option MemberKind} {d' : MemberDescriptor}
    (h : (requireDescriptor (.proper d) kind).run.run σ = (.ok d', σ₁)) : d' = d ∧ σ₁ = σ := by
  unfold requireDescriptor at h
  obtain ⟨e, σ₂, he, h⟩ := exists_of_run_bind h
  cases he
  cases kind with
  | none =>
    cases h
    exact ⟨rfl, rfl⟩
  | some k =>
    dsimp only at h
    split at h
    · cases h
      exact ⟨rfl, rfl⟩
    · obtain ⟨_, _, _, h⟩ := exists_of_run_bind h
      cases h

theorem run_of_some {α : Type} {x : Engine α} {y : α} (h : (some <$> x).run.run σ = (.ok (some y), σ₁)) :
    x.run.run σ = (.ok y, σ₁) := by
  rw [← bind_pure_comp] at h
  obtain ⟨z, σ₂, hx, hrest⟩ := exists_of_run_bind h
  cases hrest
  exact hx

/-- A pair is asked for by two requests, one after the other. -/
theorem exists_of_compilePair {kind : MemberKind} {base value : Option TypeForm} {nonPublic : Bool} {g k : Nat}
    (h : (compilePair kind (.proper d) base value nonPublic cache useCache).run.run σ =
      (.ok ⟨some g, some k⟩, σ₁)) :
    ∃ σ', (getOrCompile (.proper d) (.proper (Shape.getter base value nonPublic)) cache useCache).run.run σ =
        (.ok g, σ') ∧
      (getOrCompile (.proper d) (.proper (Shape.setter base value nonPublic)) cache useCache).run.run σ' =
        (.ok k, σ₁) := by
  unfold compilePair at h
  obtain ⟨d', σ₂, hd, hsides⟩ := exists_of_run_bind h
  obtain ⟨rfl, rfl⟩ := proper_of_requireDescriptor hd
  dsimp only at hsides
  generalize d'.readable = readable at hsides
  generalize d'.writable = writable at hsides
  cases readable with
  | false =>
    -- without a getter there is no pair of both
    cases writable with
    | false =>
      obtain ⟨_, _, _, hsides⟩ := exists_of_run_bind hsides
      cases hsides
    | true =>
      obtain ⟨getter, σ₃, hgetter, hsides⟩ := exists_of_run_bind hsides
      cases hgetter
      obtain ⟨setter, σ₄, _, hsides⟩ := exists_of_run_bind hsides
      cases hsides
  | true =>
    obtain ⟨getter, σ₃, hgetter, hsides⟩ := exists_of_run_bind hsides
    cases writable with
    | false =>
      obtain ⟨setter, σ₄, hsetter, hsides⟩ := exists_of_run_bind hsides
      cases hsetter
      cases hsides
    | true =>
      obtain ⟨setter, σ₄, hsetter, hsides⟩ := exists_of_run_bind hsides
      cases hsides
      exact ⟨σ₃, run_of_some hgetter, run_of_some hsetter⟩

/-- **A getter and a setter that were asked for together were built for the member**, the setter in the session
of the request unless a cache kept it. -/
theorem made_of_compilePair {kind : MemberKind} {base value : Option TypeForm} {nonPublic : Bool} {g k : Nat}
    (hi : cache.getD Session.defaultCache < σ.caches.size)
    (hgetter : KeepsFor σ (cache.getD Session.defaultCache) d (Shape.getter base value nonPublic))
    (hsetter : KeepsFor σ (cache.getD Session.defaultCache) d (Shape.setter base value nonPublic))
    (h : (compilePair kind (.proper d) base value nonPublic cache useCache).run.run σ =
      (.ok ⟨some g, some k⟩, σ₁)) :
    ∃ σ₂ a σ₃ b, MadeFor σ₁ g d (Shape.getter base value nonPublic) σ₂ a ∧
      MadeFor σ₁ k d (Shape.setter base value nonPublic) σ₃ b ∧
      (¬ IsKept σ cache useCache d (Shape.setter base value nonPublic) → ChoosesAlike σ σ₃) := by
  obtain ⟨σ', hget, hset⟩ := exists_of_compilePair h
  obtain ⟨⟨σ₂, a, ha, -⟩, hσ'⟩ := answeredFor_of_getOrCompile hi hgetter hget
  have hsame := find?_after_getOrCompile hget hi
    (show (Shape.getter base value nonPublic).equal (Shape.setter base value nonPublic) = false from rfl)
  have hadds : Prolongs σ ((getOrCompile (.proper d) (.proper (Shape.getter base value nonPublic)) cache
    useCache).run.run σ).2 := adds_getOrCompile σ
  have hadds' : Prolongs σ' ((getOrCompile (.proper d) (.proper (Shape.setter base value nonPublic)) cache
    useCache).run.run σ').2 := adds_getOrCompile σ'
  rw [hget] at hadds
  rw [hset] at hadds'
  have hsetter' : KeepsFor σ' (cache.getD Session.defaultCache) d (Shape.setter base value nonPublic) := by
    intro n hn
    rw [hsame] at hn
    obtain ⟨σ₀, b, hb⟩ := hsetter n hn
    exact ⟨σ₀, b, hb.prolongs hadds⟩
  have hsize : σ.caches.size ≤ σ'.caches.size := by
    obtain ⟨op, hafter, hspares, -⟩ := exists_operation_of_getOrCompile (i := cache.getD Session.defaultCache) hget
    exact hafter ▸ CacheOperation.size_le_after hspares
  obtain ⟨⟨σ₃, b, hb, halike⟩, -⟩ := answeredFor_of_getOrCompile (Nat.lt_of_lt_of_le hi hsize) hsetter' hset
  refine ⟨σ₂, a, σ₃, b, ha.prolongs hadds', hb, ?_⟩
  intro hno
  refine hσ'.trans (halike ?_)
  rw [IsKept, hsame]
  exact hno

/-- Two requests that are answered give a pair. -/
theorem run_compilePair {kind : MemberKind} {base value : Option TypeForm} {nonPublic : Bool} {σ' : Session}
    {g k : Nat} (hkind : d.kind = kind) (hreadable : d.readable = true) (hwritable : d.writable = true)
    (hget : (getOrCompile (.proper d) (.proper (Shape.getter base value nonPublic)) cache useCache).run.run σ =
      (.ok g, σ'))
    (hset : (getOrCompile (.proper d) (.proper (Shape.setter base value nonPublic)) cache useCache).run.run σ' =
      (.ok k, σ₁)) :
    (compilePair kind (.proper d) base value nonPublic cache useCache).run.run σ =
      (.ok ⟨some g, some k⟩, σ₁) := by
  have hd : (requireDescriptor (.proper d) (some kind)).run.run σ = (.ok d, σ) := by
    unfold requireDescriptor
    have hthere : (liftExcept ((Supplied.proper d).require "descriptor") : Engine MemberDescriptor).run.run σ =
        (.ok d, σ) := rfl
    rw [run_bind_ok hthere]
    dsimp only
    rw [if_pos hkind]
    rfl
  unfold compilePair
  rw [run_bind_ok hd]
  dsimp only
  rw [hreadable, hwritable]
  refine (run_bind_ok (CacheOperation.run_map hget)).trans ?_
  exact run_bind_ok (CacheOperation.run_map hset)

/-- **A pair is built without a cache** where the contract holds for both sides and nothing is in the way of
either. -/
theorem exists_pair_of_clear {kind : MemberKind} {base value : Option TypeForm} {nonPublic : Bool} {m m' : Memo}
    (hkind : d.kind = kind) (hreadable : d.readable = true) (hwritable : d.writable = true)
    (hget : (Contract.check σ.store d (Shape.getter base value nonPublic)).run.run σ.memo = (.ok (), m))
    (hclear : Plan.obstacle? σ.store d (Shape.getter base value nonPublic) = none)
    (hset : (Contract.check σ.store d (Shape.setter base value nonPublic)).run.run m = (.ok (), m'))
    (hclear' : Plan.obstacle? σ.store d (Shape.setter base value nonPublic) = none) :
    ∃ g k σ₁, (compilePair kind (.proper d) base value nonPublic cache false).run.run σ =
      (.ok ⟨some g, some k⟩, σ₁) := by
  obtain ⟨a, log, hrun⟩ := run_build_clear hget hclear
  obtain ⟨b, log', hrun'⟩ := run_build_clear
    (σ := { σ with memo := m, accessors := σ.accessors.push a, log := log }) hset hclear'
  exact ⟨_, _, _, run_compilePair hkind hreadable hwritable (run_getOrCompile.trans hrun)
    (run_getOrCompile.trans hrun')⟩

/-- A session in which nothing was done keeps nothing. -/
theorem keepsFor_start {st : Store} (hi : i = Session.defaultCache) : KeepsFor (.start st) i d s := by
  subst hi
  exact nofun

end MemberAccess.Engine
