import MemberAccess.Engine.Compile
import MemberAccess.Proofs.Runs

/-!
# Requests through a cache, run by run

What one request does to a session, case by case: a key that cannot be looked up, a key that the cache
keeps, and a key that it does not keep, for which a miss is counted, a line logged, and the compile
function called.  That function may do anything to the session, to its caches too, so what becomes of a
miss is said of the session that it leaves.  Everything proved about caches goes through these cases; how
an accessor is made plays no part in them.
-/

namespace MemberAccess

open Engine

/-! ## §1  Caches of a session -/

namespace Session

variable {σ : Session} {i j : Nat} {c : AccessorCache Nat}

/-- The cache of a number. -/
def cacheAt (σ : Session) (i : Nat) : AccessorCache Nat := (σ.caches[i]?.getD default).cache

/-- A session in which the cache of a number was put in the place of the one that was there. -/
def putCache (σ : Session) (i : Nat) (c : AccessorCache Nat) : Session :=
  { σ with caches := σ.caches.modify i fun slot => { slot with cache := c } }

/-- A session with one more line in its log. -/
def logged (σ : Session) (source : LogSource) (message : String) : Session :=
  { σ with log := σ.log.push (source.name ++ " DEBUG " ++ message) }

@[simp] theorem cacheAt_putCache_self (h : i < σ.caches.size) : (σ.putCache i c).cacheAt i = c := by
  simp [putCache, cacheAt, h, Array.getElem_modify]

@[simp] theorem cacheAt_putCache_ne (h : j ≠ i) : (σ.putCache i c).cacheAt j = σ.cacheAt j := by
  simp [putCache, cacheAt, Array.getElem?_modify, h.symm]

@[simp] theorem size_putCache : (σ.putCache i c).caches.size = σ.caches.size := by simp [putCache]

@[simp] theorem caches_logged {s m} : (σ.logged s m).caches = σ.caches := rfl

end Session

/-- A cache after a compile function was run for a key that it did not keep. -/
def AccessorCache.settle {α : Type} (c : AccessorCache α) (k : CacheKey) (r : Outcome α) :
    AccessorCache α :=
  match r with
  | .ok a => c.keep k a
  | .error _ => c.fail

namespace Engine

variable {σ σ' : Session} {i n : Nat} {compile : CacheKey → Engine Nat}
  {d : MemberDescriptor} {x : Shape} {r : Outcome Nat}

/-- The session in which a key that a cache does not keep is compiled: the miss was counted and logged. -/
def missed (σ : Session) (i : Nat) (k : CacheKey) : Session :=
  (σ.putCache i (σ.cacheAt i).miss).logged .cache
    ("accessor cache miss: " ++ k.descriptor.text σ.store ++ " / " ++ k.shape.words σ.store)

theorem run_cacheSlot : (cacheSlot i).run.run σ = (.ok (σ.caches[i]?.getD default), σ) := rfl

theorem run_modifyCache (g : CacheSlot → CacheSlot) :
    (modifyCache i g).run.run σ = (.ok ⟨⟩, { σ with caches := σ.caches.modify i g }) := rfl

/-! ## §2  The cases of a request -/

/-- A key without a hash is refused, and nothing happens. -/
theorem run_requestBy_unhashable (h : (CacheKey.mk d x).isHashable = false) :
    (requestBy compile i (.proper d) (.proper x)).run.run σ = (.error (.fault .typeError), σ) := by
  rw [requestBy]
  refine run_bind_error ?_
  rw [checkKey, h]
  rfl

theorem run_checkKey (h : (CacheKey.mk d x).isHashable = true) :
    (checkKey ⟨d, x⟩).run.run σ = (.ok ⟨d, x⟩, σ) := by
  rw [checkKey, h]
  rfl

theorem run_updateCache (f : AccessorCache Nat → AccessorCache Nat) :
    (updateCache i f).run.run σ = (.ok ⟨⟩, σ.putCache i (f (σ.cacheAt i))) := by
  rw [updateCache, run_modifyCache, Session.putCache]
  congr 2
  refine Array.ext (by simp) ?_
  intro j hj _
  simp only [Array.size_modify] at hj
  have hcache : σ.cacheAt j = σ.caches[j].cache := by
    rw [Session.cacheAt, Array.getElem?_eq_getElem hj, Option.getD_some]
  simp only [Array.getElem_modify]
  split
  · subst_vars
    exact congrArg (fun c => { σ.caches[j] with cache := f c }) hcache.symm
  · rfl

/-- A key that is kept is answered by what is kept for it, whatever the compile function. -/
theorem run_requestBy_kept (h : (CacheKey.mk d x).isHashable = true)
    (hf : (σ.cacheAt i).find? ⟨d, x⟩ = some n) :
    (requestBy compile i (.proper d) (.proper x)).run.run σ =
      (.ok n, σ.putCache i (σ.cacheAt i).hit) := by
  rw [requestBy, run_bind_ok (run_checkKey h), run_bind_ok run_cacheSlot]
  rw [Session.cacheAt] at hf
  rw [hf]
  exact run_bind_ok (run_updateCache _)

theorem run_logMiss {k : CacheKey} (h : k.shape.isPrintable = true) :
    (logMiss k).run.run σ = (.ok ⟨⟩, σ.logged .cache
      ("accessor cache miss: " ++ k.descriptor.text σ.store ++ " / " ++ k.shape.words σ.store)) := by
  have hwords : k.shape.describe σ.store = .ok (k.shape.words σ.store) := if_pos h
  rw [logMiss, run_bind_ok run_get]
  exact run_bind_ok ((run_liftExcept _).trans (congrArg (·, σ) hwords))

/-- A key that is not kept and whose shape cannot be described is refused after the miss was counted. -/
theorem run_requestBy_undescribed (h : (CacheKey.mk d x).isHashable = true)
    (hp : x.isPrintable = false) (hf : (σ.cacheAt i).find? ⟨d, x⟩ = none) :
    (requestBy compile i (.proper d) (.proper x)).run.run σ =
      (.error (.fault .valueError), σ.putCache i (σ.cacheAt i).miss) := by
  rw [requestBy, run_bind_ok (run_checkKey h), run_bind_ok run_cacheSlot]
  rw [Session.cacheAt] at hf
  rw [hf]
  refine (run_bind_ok (run_updateCache _)).trans (run_bind_error ?_)
  have hwords : x.describe σ.store = .error (.fault .valueError) := if_neg (by simp [hp])
  rw [logMiss, run_bind_ok run_get]
  exact run_bind_error ((run_liftExcept _).trans (congrArg (·, σ.putCache i (σ.cacheAt i).miss) hwords))

/-- What is made of what a compile function gives. -/
theorem run_compileInto {k : CacheKey} (hc : (compile k).run.run σ = (r, σ')) :
    (compileInto compile i k).run.run σ =
      ((σ'.cacheAt i).given k <$> r, σ'.putCache i ((σ'.cacheAt i).settle k r)) := by
  unfold compileInto
  cases r with
  | ok n =>
    rw [run_bind_ok (run_tryCatch.trans (by rw [hc])), run_bind_ok run_cacheSlot,
      run_bind_ok (run_updateCache _)]
    rfl
  | error f =>
    refine run_bind_error (run_tryCatch.trans ?_)
    rw [hc]
    exact run_bind_ok (run_updateCache _)

/-- **A key that is not kept is compiled.**  What is made is kept, unless the compile function has left
something in the cache for the key, which is given in its place. -/
theorem run_requestBy_missing (h : (CacheKey.mk d x).isHashable = true) (hp : x.isPrintable = true)
    (hf : (σ.cacheAt i).find? ⟨d, x⟩ = none)
    (hc : (compile ⟨d, x⟩).run.run (missed σ i ⟨d, x⟩) = (r, σ')) :
    (requestBy compile i (.proper d) (.proper x)).run.run σ =
      ((σ'.cacheAt i).given ⟨d, x⟩ <$> r, σ'.putCache i ((σ'.cacheAt i).settle ⟨d, x⟩ r)) := by
  rw [requestBy, run_bind_ok (run_checkKey h), run_bind_ok run_cacheSlot]
  rw [Session.cacheAt] at hf
  rw [hf]
  refine (run_bind_ok (run_updateCache _)).trans ?_
  rw [run_bind_ok (run_logMiss hp)]
  exact run_compileInto hc

/-- A cache that builds what it does not keep. -/
def Builds (σ : Session) (i : Nat) : Prop := (σ.caches[i]?.getD default).scheme = .build

/-- What is put into caches does not change how they make what they do not keep. -/
theorem builds_putCache {j : Nat} {c : AccessorCache Nat} (h : Builds σ i) : Builds (σ.putCache j c) i := by
  unfold Builds Session.putCache at *
  rw [Array.getElem?_modify]
  split
  · cases hs : σ.caches[i]? with
    | none => rfl
    | some slot =>
      rw [hs] at h
      exact h
  · exact h

theorem builds_missed {k : CacheKey} {j : Nat} (h : Builds σ i) : Builds (missed σ j k) i :=
  builds_putCache h

/-- What is no descriptor or no shape is refused, and nothing happens. -/
theorem run_requestBy_improper {d : Supplied MemberDescriptor} {x : Supplied Shape}
    (h : ¬ ∃ d' x', d = .proper d' ∧ x = .proper x') :
    ∃ f, (requestBy compile i d x).run.run σ = (.error f, σ) := by
  cases d <;> cases x <;> first | exact absurd ⟨_, _, rfl, rfl⟩ h | exact ⟨_, rfl⟩

end Engine
end MemberAccess
