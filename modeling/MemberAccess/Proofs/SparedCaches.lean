import MemberAccess.Proofs.Building
import MemberAccess.Proofs.CacheRequests

/-!
# Uses of the library that leave the caches alone

A use of the library *spares* the caches of a session when each of them keeps and has counted afterwards
what it did before; there may be new caches.  Sparing is closed under doing one thing after another, so
that it is checked part by part: looking something up spares the caches, and so does all that is done to
build an accessor, by whatever scheme a cache builds.
-/

namespace MemberAccess.Engine

variable {α β : Type} {σ σ' : Session} {x : Engine α} {k : α → Engine β}

/-! ## §1  Sparing -/

/-- Every cache of the first session is in the second what it was. -/
structure SameCaches (σ σ' : Session) : Prop where
  size_le : σ.caches.size ≤ σ'.caches.size
  cacheAt {i : Nat} : i < σ.caches.size → σ'.cacheAt i = σ.cacheAt i

theorem SameCaches.trans {σ'' : Session} (h : SameCaches σ σ') (h' : SameCaches σ' σ'') :
    SameCaches σ σ'' where
  size_le := Nat.le_trans h.size_le h'.size_le
  cacheAt hi := (h'.cacheAt (Nat.lt_of_lt_of_le hi h.size_le)).trans (h.cacheAt hi)

theorem sameCaches_of_eq (h : σ'.caches = σ.caches) : SameCaches σ σ' where
  size_le := Nat.le_of_eq (by rw [h])
  cacheAt _ := by rw [Session.cacheAt, h, Session.cacheAt]

/-- A use of the library that leaves the caches alone, whatever comes of it. -/
def Spares (x : Engine α) : Prop := ∀ σ, SameCaches σ (x.run.run σ).2

theorem Spares.sameCaches {r : Outcome α} (h : Spares x) (hx : x.run.run σ = (r, σ')) :
    SameCaches σ σ' := by
  have hσ := h σ
  rwa [hx] at hσ

theorem spares_of_caches (h : ∀ σ, (x.run.run σ).2.caches = σ.caches) : Spares x :=
  fun σ => sameCaches_of_eq (h σ)

theorem spares_bind (hx : Spares x) (hk : ∀ a, Spares (k a)) : Spares (x >>= k) :=
  rel_run_bind SameCaches.trans hx hk

theorem spares_pure {a : α} : Spares (pure a) := spares_of_caches fun _ => rfl

theorem spares_throw {f : Failure} : Spares (throw f : Engine α) := spares_of_caches fun _ => rfl

theorem spares_get : Spares get := spares_of_caches fun _ => rfl

theorem spares_liftExcept (r : Outcome α) : Spares (liftExcept r) :=
  spares_of_caches fun _ => by rw [run_liftExcept]

theorem spares_map {f : α → β} (hx : Spares x) : Spares (f <$> x) := by
  rw [← bind_pure_comp]
  exact spares_bind hx fun _ => spares_pure

/-! ## §2  Looking something up -/

theorem spares_ask {q : Store → Ask α} : Spares (ask q) := spares_of_caches fun _ => rfl

theorem spares_cacheSlot {i : Nat} : Spares (cacheSlot i) := spares_of_caches fun _ => rfl

theorem spares_isHashable {v : Value} : Spares (isHashable v) := by
  refine spares_bind spares_get ?_
  intro s
  split <;> exact spares_pure

theorem spares_isKeyPart {f : α → Bool} {a : Supplied α} : Spares (isKeyPart f a) := by
  cases a with
  | missing | proper => exact spares_pure
  | foreign v => exact spares_isHashable

theorem spares_peek {i : Nat} {d : Supplied MemberDescriptor} {x : Supplied Shape} :
    Spares (peek i d x) := by
  refine spares_bind spares_isKeyPart fun b => spares_bind spares_isKeyPart ?_
  intro b'
  split
  · split
    · exact spares_bind spares_cacheSlot fun _ => spares_pure
    · exact spares_pure
  · exact spares_throw

/-! ## §3  Building -/

/-- Making a plan ready adds an accessor and lines to the log. -/
theorem spares_compilePlan {p : Plan} : Spares (compilePlan p) := by
  intro σ
  cases h : Accessor.ofPlan σ.store σ.settings.listsSource p with
  | error f =>
    rw [run_compilePlan_error h]
    exact sameCaches_of_eq rfl
  | ok a =>
    obtain ⟨log, hrun⟩ := run_compilePlan_ok h
    rw [hrun]
    exact sameCaches_of_eq rfl

theorem spares_build {d : Supplied MemberDescriptor} {x : Supplied Shape} : Spares (build d x) := by
  refine spares_bind spares_ask fun ⟨d, x⟩ => spares_bind ?_ fun p => spares_compilePlan
  exact spares_bind spares_get fun s => spares_liftExcept _

/-- Noting a call of a compile function leaves what the cache keeps and has counted. -/
theorem spares_noteCall {i : Nat} {calls : CacheSlot → List MemberDescriptor} :
    Spares (modifyCache i fun c => { c with calls := calls c }) := by
  intro σ
  rw [run_modifyCache]
  refine ⟨by simp, ?_⟩
  intro j hj
  by_cases h : j = i
  · subst h
    simp [Session.cacheAt, Array.getElem_modify, hj]
  · simp [Session.cacheAt, Array.getElem?_modify, Ne.symm h]

/-- **Whatever a cache does to make an accessor, it spares the caches.** -/
theorem spares_compileFor {i : Nat} {k : CacheKey} : Spares (compileFor i k) := by
  refine spares_bind spares_cacheSlot ?_
  intro slot
  cases slot.scheme with
  | build => exact spares_build
  | failing first names =>
    refine spares_bind spares_cacheSlot fun c => spares_bind spares_noteCall ?_
    intro _
    split
    · exact spares_throw
    · exact spares_build

/-- **A key that is not kept is compiled**, and nothing but what comes of it is kept, where the compile
function leaves the caches alone. -/
theorem run_requestBy_of_sameCaches {i : Nat} {compile : CacheKey → Engine Nat} {d : MemberDescriptor}
    {s : Shape} {r : Outcome Nat} (hi : i < σ.caches.size) (hk : (CacheKey.mk d s).isHashable = true)
    (hp : s.isPrintable = true) (hf : (σ.cacheAt i).find? ⟨d, s⟩ = none)
    (hc : (compile ⟨d, s⟩).run.run (missed σ i ⟨d, s⟩) = (r, σ'))
    (hsame : SameCaches (missed σ i ⟨d, s⟩) σ') :
    (requestBy compile i (.proper d) (.proper s)).run.run σ =
      (r, σ'.putCache i ((σ.cacheAt i).miss.settle ⟨d, s⟩ r)) := by
  have hmissed : (missed σ i ⟨d, s⟩).cacheAt i = (σ.cacheAt i).miss := Session.cacheAt_putCache_self hi
  have hcache : σ'.cacheAt i = (σ.cacheAt i).miss :=
    (hsame.cacheAt (by simpa [missed] using hi)).trans hmissed
  rw [run_requestBy_missing hk hp hf hc, hcache]
  -- nothing is kept for the key by now, so what was made is given
  have hgiven (n : Nat) : (σ.cacheAt i).miss.given ⟨d, s⟩ n = n := by
    change ((σ.cacheAt i).find? _).getD n = n
    rw [hf, Option.getD_none]
  cases r with
  | ok n => exact congrArg (fun m => (Except.ok m, _)) (hgiven n)
  | error f => rfl

/-- What a cache that builds does for a key that it does not keep. -/
theorem run_request_missing {i : Nat} {d : MemberDescriptor} {s : Shape} {r : Outcome Nat}
    (hi : i < σ.caches.size) (hscheme : Builds σ i) (hk : (CacheKey.mk d s).isHashable = true)
    (hp : s.isPrintable = true) (hf : (σ.cacheAt i).find? ⟨d, s⟩ = none)
    (hb : (build (.proper d) (.proper s)).run.run (missed σ i ⟨d, s⟩) = (r, σ')) :
    (request i (.proper d) (.proper s)).run.run σ =
      (r, σ'.putCache i ((σ.cacheAt i).miss.settle ⟨d, s⟩ r)) := by
  refine run_requestBy_of_sameCaches hi hk hp hf ?_ (spares_build.sameCaches hb)
  unfold compileFor
  rw [run_bind_ok run_cacheSlot, builds_missed hscheme]
  exact hb

theorem spares_addCache {scheme : CompileScheme} : Spares (addCache scheme) := by
  intro σ
  change SameCaches σ { σ with caches := σ.caches.push ⟨.empty, scheme, []⟩ }
  refine ⟨by simp, ?_⟩
  intro i hi
  simp [Session.cacheAt, Array.getElem?_push_lt, hi]

end MemberAccess.Engine
