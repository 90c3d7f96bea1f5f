import MemberAccess.Proofs.CacheKeys
import MemberAccess.Proofs.SparedCaches

/-!
# Runs of cache operations

Any number of caches, and any sequence of operations on them: requests with good and bad keys, looks at
what is kept and at the counts, resets, new caches, and accessors built without a cache.  An onlooker of
one cache writes down what is asked of it and what its compile function gives.  After every sequence the
cache says what the onlooker has written down, and it answers what it has answered before.

Whatever an operation does to a cache is one of five things (`Effect`): it finds an entry, it has one
compiled, it cannot even say what is to be compiled, it resets the counts, or it does nothing.  All that is
proved of sequences goes by these.

The law asks of compile functions that they leave the caches alone, and where misses are balanced against
compile calls, that shapes can be described; §6 shows that neither can be left out.
-/

namespace MemberAccess

open Engine

/-! ## §1  Operations -/

/-- The counts of a cache, how much it keeps, and the part of its requests that were hits. -/
structure CacheReport where
  tally : Tally
  size : Nat
  hitRate : Number.Double
  deriving DecidableEq, Repr, Inhabited

/-- What a cache tells of itself. -/
def AccessorCache.report (c : AccessorCache Nat) : CacheReport := ⟨c.tally, c.size, c.tally.hitRate⟩

/-- An operation on the caches of a session; a request comes with the compile function of its cache. -/
inductive CacheOperation
  | request (i : Nat) (compile : CacheKey → Engine Nat) (d : Supplied MemberDescriptor)
      (x : Supplied Shape)
  | get (i : Nat) (d : Supplied MemberDescriptor) (x : Supplied Shape)
  | contains (i : Nat) (d : Supplied MemberDescriptor) (x : Supplied Shape)
  | size (i : Nat)
  | stats (i : Nat) (reset : Bool)
  | create (scheme : CompileScheme)
  /-- an accessor that is built without a cache, also where one is named -/
  | uncached (d : Supplied MemberDescriptor) (x : Supplied Shape) (cache : Option Nat)

/-- What an operation gives. -/
inductive CacheReply
  | accessor (n : Nat)
  | kept (n? : Option Nat)
  | held (b : Bool)
  | count (n : Nat)
  | report (r : CacheReport)
  | created (i : Nat)
  deriving DecidableEq, Repr, Inhabited

namespace CacheOperation

/-- Carries an operation out. -/
def perform : CacheOperation → Engine CacheReply
  | request i compile d x => .accessor <$> requestBy compile i d x
  | get i d x => .kept <$> peek i d x
  | contains i d x => do return .held (← peek i d x).isSome
  | size i => do return .count (← cacheSlot i).cache.size
  | stats i reset => do
      let slot ← cacheSlot i
      if reset then modifyCache i fun c => { c with cache := c.cache.reset }
      return .report slot.cache.report
  | create scheme => .created <$> addCache scheme
  | uncached d x cache => .accessor <$> getOrCompile d x cache false

/-- A request for a key. -/
def ask (i : Nat) (compile : CacheKey → Engine Nat) (k : CacheKey) : CacheOperation :=
  request i compile (.proper k.descriptor) (.proper k.shape)

/-- The session after an operation. -/
def after (σ : Session) (op : CacheOperation) : Session := (op.perform.run.run σ).2

/-- The session after a sequence of operations. -/
def afterAll (σ : Session) (ops : List CacheOperation) : Session := ops.foldl after σ

/-- The cache that an operation is on. -/
def cache? : CacheOperation → Option Nat
  | request i .. | get i .. | contains i .. | size i | stats i _ => some i
  | create _ | uncached .. => none

/-- An operation whose compile function, if it has one, either gives an accessor or fails, and does nothing
to the caches by itself. -/
def Spares : CacheOperation → Prop
  | request _ compile _ _ => ∀ k, Engine.Spares (compile k)
  | _ => True

/-- An operation whose shape, if it has one, can be described. -/
def Describes : CacheOperation → Prop
  | request _ _ _ (.proper x) => x.isPrintable = true
  | _ => True

/-! ## §2  What an onlooker sees -/

variable (i : Nat)

/-- The key that a cache is asked for; keys of improper parts and keys without a hash are turned away. -/
def asked? : CacheOperation → Option CacheKey
  | request j _ (.proper d) (.proper x) =>
      if j = i ∧ (CacheKey.mk d x).isHashable = true then some ⟨d, x⟩ else none
  | _ => none

/-- Whether an operation resets the counts of a cache. -/
def resets : CacheOperation → Bool
  | stats j true => j == i
  | _ => false

/-- What the compile function of a cache gives, where an operation has the cache call it. -/
def compiled? (σ : Session) : CacheOperation → Option (Outcome Nat)
  | request j compile (.proper d) (.proper x) =>
      if j = i ∧ (CacheKey.mk d x).isHashable = true ∧ (σ.cacheAt i).find? ⟨d, x⟩ = none ∧
          x.isPrintable = true then
        some ((compile ⟨d, x⟩).run.run (missed σ i ⟨d, x⟩)).1
      else none
  | _ => none

/-- Whether a cache is asked for a key that it does not keep and whose shape cannot be described. -/
def stumbles (σ : Session) : CacheOperation → Bool
  | request j _ (.proper d) (.proper x) =>
      j == i && (CacheKey.mk d x).isHashable && ((σ.cacheAt i).find? ⟨d, x⟩).isNone && !x.isPrintable
  | _ => false

end CacheOperation

open CacheOperation

/-- What an onlooker of a cache has written down: the requests, the compile calls that gave an accessor, those
that failed and the requests that stumbled before one since the counts were reset, and the compile calls
that ever gave an accessor. -/
structure Ledger where
  asked : Nat
  made : Nat
  failed : Nat
  stumbled : Nat
  everMade : Nat
  deriving DecidableEq, Repr, Inhabited

namespace Ledger

/-- Nothing was written down yet. -/
def blank : Ledger := ⟨0, 0, 0, 0, 0⟩

/-- Writes down what an operation is about to do to a cache. -/
def note (i : Nat) (σ : Session) (l : Ledger) (op : CacheOperation) : Ledger :=
  if op.resets i then { l with asked := 0, made := 0, failed := 0, stumbled := 0 }
  else
    let l := if (op.asked? i).isSome then { l with asked := l.asked + 1 } else l
    match op.compiled? i σ with
    | some (.ok _) => { l with made := l.made + 1, everMade := l.everMade + 1 }
    | some (.error _) => { l with failed := l.failed + 1 }
    | none => if op.stumbles i σ then { l with stumbled := l.stumbled + 1 } else l

/-- What is written down in the course of a sequence of operations. -/
def noteAll (i : Nat) : Session → Ledger → List CacheOperation → Ledger
  | _, l, [] => l
  | σ, l, op :: ops => noteAll i (after σ op) (l.note i σ op) ops

end Ledger

/-! ## §3  What one operation does -/

namespace CacheOperation

variable {σ : Session} {i : Nat} {op : CacheOperation}

/-- **What an operation can do to a cache.** -/
inductive Effect (σ : Session) (i : Nat) : CacheOperation → AccessorCache Nat → Prop
  | found {compile : CacheKey → Engine Nat} {k : CacheKey} {n : Nat} :
      k.isHashable = true → (σ.cacheAt i).find? k = some n →
      Effect σ i (ask i compile k) (σ.cacheAt i).hit
  | compiled {compile : CacheKey → Engine Nat} {k : CacheKey} {r : Outcome Nat} :
      k.isHashable = true → k.shape.isPrintable = true → (σ.cacheAt i).find? k = none →
      ((compile k).run.run (missed σ i k)).1 = r →
      Effect σ i (ask i compile k) ((σ.cacheAt i).miss.settle k r)
  | stumbled {compile : CacheKey → Engine Nat} {k : CacheKey} :
      k.isHashable = true → k.shape.isPrintable = false → (σ.cacheAt i).find? k = none →
      Effect σ i (ask i compile k) (σ.cacheAt i).miss
  | reset : Effect σ i (.stats i true) (σ.cacheAt i).reset
  | idle {op : CacheOperation} : op.asked? i = none → op.resets i = false →
      Effect σ i op (σ.cacheAt i)

theorem run_map {α β : Type} {f : α → β} {x : Engine α} {r : Outcome α} {σ' : Session}
    (h : x.run.run σ = (r, σ')) : (f <$> x).run.run σ = (f <$> r, σ') := by
  rw [← bind_pure_comp]
  cases r with
  | error f => exact run_bind_error h
  | ok a => exact run_bind_ok h

/-- A request is one for a key that can be looked up, or it does nothing and asks no cache for anything. -/
theorem ask_or_refused (j : Nat) (compile : CacheKey → Engine Nat) (d : Supplied MemberDescriptor)
    (x : Supplied Shape) :
    (∃ k : CacheKey, k.isHashable = true ∧ request j compile d x = ask j compile k) ∨
      after σ (.request j compile d x) = σ ∧ ∀ i, (request j compile d x).asked? i = none := by
  by_cases hproper : ∃ d' x', d = .proper d' ∧ x = .proper x'
  · obtain ⟨d', x', rfl, rfl⟩ := hproper
    cases hk : (CacheKey.mk d' x').isHashable with
    | true => exact .inl ⟨⟨d', x'⟩, hk, rfl⟩
    | false =>
      refine .inr ⟨?_, fun i => if_neg fun h => by simp [hk] at h⟩
      rw [after, perform, run_map (run_requestBy_unhashable hk)]
  · refine .inr ⟨?_, fun i => ?_⟩
    · obtain ⟨f, hf⟩ := run_requestBy_improper hproper
      rw [after, perform, run_map hf]
    · cases d with
      | missing | foreign => rfl
      | proper d' =>
        cases x with
        | missing | foreign => rfl
        | proper x' => exact absurd ⟨d', x', rfl, rfl⟩ hproper

theorem run_ask_kept {j n : Nat} {compile : CacheKey → Engine Nat} {k : CacheKey}
    (hk : k.isHashable = true) (hf : (σ.cacheAt j).find? k = some n) :
    (ask j compile k).perform.run.run σ = (.ok (.accessor n), σ.putCache j (σ.cacheAt j).hit) :=
  run_map (run_requestBy_kept hk hf)

theorem run_ask_missing {j : Nat} {compile : CacheKey → Engine Nat} {k : CacheKey} {r : Outcome Nat}
    {σ' : Session} (hj : j < σ.caches.size) (hk : k.isHashable = true)
    (hp : k.shape.isPrintable = true) (hf : (σ.cacheAt j).find? k = none)
    (hcompile : ∀ k, Engine.Spares (compile k)) (hc : (compile k).run.run (missed σ j k) = (r, σ')) :
    (ask j compile k).perform.run.run σ =
      (.accessor <$> r, σ'.putCache j ((σ.cacheAt j).miss.settle k r)) :=
  run_map (run_requestBy_of_sameCaches hj hk hp hf hc ((hcompile k).sameCaches hc))

theorem run_ask_stumbled {j : Nat} {compile : CacheKey → Engine Nat} {k : CacheKey}
    (hk : k.isHashable = true) (hp : k.shape.isPrintable = false) (hf : (σ.cacheAt j).find? k = none) :
    (ask j compile k).perform.run.run σ =
      (.error (.fault .valueError), σ.putCache j (σ.cacheAt j).miss) :=
  run_map (run_requestBy_undescribed hk hp hf)

/-- A request on another cache has no effect. -/
theorem effect_ask_of_ne {j : Nat} {compile : CacheKey → Engine Nat} {k : CacheKey}
    (hcompile : ∀ k, Engine.Spares (compile k)) (hk : k.isHashable = true) (hi : i < σ.caches.size)
    (hj : j ≠ i) : (after σ (ask j compile k)).cacheAt i = σ.cacheAt i := by
  cases hf : (σ.cacheAt j).find? k with
  | some n => rw [after, run_ask_kept hk hf, Session.cacheAt_putCache_ne hj.symm]
  | none =>
    cases hp : k.shape.isPrintable with
    | false => rw [after, run_ask_stumbled hk hp hf, Session.cacheAt_putCache_ne hj.symm]
    | true =>
      rcases hc : (compile k).run.run (missed σ j k) with ⟨r, σ'⟩
      have hsame : SameCaches (missed σ j k) σ' := (hcompile k).sameCaches hc
      have hmissed : (missed σ j k).cacheAt i = σ.cacheAt i := Session.cacheAt_putCache_ne hj.symm
      have hrun : (ask j compile k).perform.run.run σ = (_, σ'.putCache j _) :=
        run_map (run_requestBy_missing hk hp hf hc)
      rw [after, hrun, Session.cacheAt_putCache_ne hj.symm,
        hsame.cacheAt (by simpa [missed] using hi), hmissed]

/-- The cache after a request for a key that it does not keep. -/
theorem cacheAt_after_ask {compile : CacheKey → Engine Nat} {k : CacheKey} {r : Outcome Nat}
    {σ' : Session} (hi : i < σ.caches.size) (hk : k.isHashable = true)
    (hp : k.shape.isPrintable = true) (hf : (σ.cacheAt i).find? k = none)
    (hcompile : ∀ k, Engine.Spares (compile k)) (hc : (compile k).run.run (missed σ i k) = (r, σ')) :
    (after σ (ask i compile k)).cacheAt i = (σ.cacheAt i).miss.settle k r := by
  have hsize : i < σ'.caches.size :=
    Nat.lt_of_lt_of_le (by simpa [missed] using hi) ((hcompile k).sameCaches hc).size_le
  rw [after, run_ask_missing hi hk hp hf hcompile hc, Session.cacheAt_putCache_self hsize]

/-- A request for a key, on the cache or on another one. -/
theorem effect_ask {j : Nat} {compile : CacheKey → Engine Nat} {k : CacheKey}
    (hcompile : ∀ k, Engine.Spares (compile k)) (hk : k.isHashable = true) (hi : i < σ.caches.size) :
    Effect σ i (ask j compile k) ((after σ (ask j compile k)).cacheAt i) := by
  by_cases hj : j = i
  case neg =>
    rw [effect_ask_of_ne hcompile hk hi hj]
    exact .idle (if_neg fun h => hj h.1) rfl
  subst hj
  cases hf : (σ.cacheAt j).find? k with
  | some n =>
    rw [after, run_ask_kept hk hf, Session.cacheAt_putCache_self hi]
    exact .found hk hf
  | none =>
    cases hp : k.shape.isPrintable with
    | false =>
      rw [after, run_ask_stumbled hk hp hf, Session.cacheAt_putCache_self hi]
      exact .stumbled hk hp hf
    | true =>
      rcases hc : (compile k).run.run (missed σ j k) with ⟨r, σ'⟩
      rw [cacheAt_after_ask hi hk hp hf hcompile hc]
      exact .compiled hk hp hf (by rw [hc])

/-- An operation that leaves the caches alone, whatever it is on. -/
theorem effect_of_spares (h : Engine.Spares op.perform) (hasked : op.asked? i = none)
    (hreset : op.resets i = false) (hi : i < σ.caches.size) :
    Effect σ i op ((after σ op).cacheAt i) := by
  have hsame : (after σ op).cacheAt i = σ.cacheAt i := (h σ).cacheAt hi
  rw [hsame]
  exact .idle hasked hreset

theorem effect_stats {j : Nat} {reset : Bool} (hi : i < σ.caches.size) :
    Effect σ i (.stats j reset) ((after σ (.stats j reset)).cacheAt i) := by
  cases reset with
  | false => exact .idle rfl rfl
  | true =>
    have hafter : after σ (.stats j true) =
        { σ with caches := σ.caches.modify j fun c => { c with cache := c.cache.reset } } := rfl
    by_cases hj : j = i
    · subst hj
      have hreset : (after σ (.stats j true)).cacheAt j = (σ.cacheAt j).reset := by
        rw [hafter]
        simp [Session.cacheAt, Array.getElem_modify, hi]
      rw [hreset]
      exact .reset
    · have hsame : (after σ (.stats j true)).cacheAt i = σ.cacheAt i := by
        rw [hafter]
        simp [Session.cacheAt, Array.getElem?_modify, hj]
      rw [hsame]
      exact .idle rfl (beq_false_of_ne hj)

/-- **Every operation has one of the effects on a cache.** -/
theorem effect_perform (hop : op.Spares) (hi : i < σ.caches.size) :
    Effect σ i op ((after σ op).cacheAt i) := by
  cases op with
  | request j compile d x =>
    rcases ask_or_refused (σ := σ) j compile d x with ⟨k, hk, heq⟩ | ⟨hsame, hasked⟩
    · rw [heq]
      exact effect_ask hop hk hi
    · rw [hsame]
      exact .idle (hasked i) rfl
  | get j d x => exact effect_of_spares (spares_map spares_peek) rfl rfl hi
  | contains j d x =>
    exact effect_of_spares (spares_bind spares_peek fun _ => spares_pure) rfl rfl hi
  | size j => exact effect_of_spares (spares_bind spares_cacheSlot fun _ => spares_pure) rfl rfl hi
  | stats j reset => exact effect_stats hi
  | create scheme => exact effect_of_spares (spares_map spares_addCache) rfl rfl hi
  | uncached d x cache => exact effect_of_spares (spares_map (spares_build (d := d) (x := x))) rfl rfl hi

/-- No operation loses a cache. -/
theorem size_le_after (hop : op.Spares) : σ.caches.size ≤ (after σ op).caches.size := by
  cases op with
  | request j compile d x =>
    rcases ask_or_refused (σ := σ) j compile d x with ⟨k, hk, heq⟩ | ⟨hsame, -⟩
    · rw [heq]
      cases hf : (σ.cacheAt j).find? k with
      | some n =>
        simp only [after, run_ask_kept hk hf, Session.size_putCache, Nat.le_refl]
      | none =>
        cases hp : k.shape.isPrintable with
        | false => simp only [after, run_ask_stumbled hk hp hf, Session.size_putCache, Nat.le_refl]
        | true =>
          rcases hc : (compile k).run.run (missed σ j k) with ⟨r, σ'⟩
          have hrun : (ask j compile k).perform.run.run σ = (_, σ'.putCache j _) :=
            run_map (run_requestBy_missing hk hp hf hc)
          rw [after, hrun, Session.size_putCache]
          simpa [missed] using ((hop k).sameCaches hc).size_le
    · simp only [hsame, Nat.le_refl]
  | get j d x => exact (spares_map spares_peek σ).size_le
  | contains j d x => exact (spares_bind spares_peek (fun _ => spares_pure) σ).size_le
  | size j => exact Nat.le_refl _
  | stats j reset =>
    cases reset with
    | false => exact Nat.le_refl _
    | true => exact Nat.le_of_eq Array.size_modify.symm
  | create scheme => exact (spares_map spares_addCache σ).size_le
  | uncached d x cache => exact (spares_map (spares_build (d := d) (x := x)) σ).size_le

/-- An operation that is not on a cache has no effect on it. -/
theorem Effect.eq_of_cache?_ne {c : AccessorCache Nat} (h : Effect σ i op c) (hop : op.cache? ≠ some i) :
    c = σ.cacheAt i := by
  cases h with
  | found | compiled | stumbled | reset => exact absurd rfl hop
  | idle => rfl

/-- What is found stays. -/
theorem Effect.find?_of_some {c : AccessorCache Nat} {k : CacheKey} {n : Nat} (h : Effect σ i op c)
    (hf : (σ.cacheAt i).find? k = some n) : c.find? k = some n := by
  cases h with
  | found | stumbled | reset | idle => exact hf
  | @compiled _ l r =>
    cases r with
    | ok m => exact AccessorCache.find?_keep_of_some hf
    | error f => exact hf

/-- What is not found is found only after a request for it. -/
theorem Effect.find?_of_none {c : AccessorCache Nat} {k : CacheKey} (h : Effect σ i op c)
    (hf : (σ.cacheAt i).find? k = none) (hop : ∀ l, op.asked? i = some l → l.equal k = false) :
    c.find? k = none := by
  cases h with
  | found | stumbled | reset | idle => exact hf
  | @compiled _ l r hl =>
    cases r with
    | ok m => exact AccessorCache.find?_keep_of_ne hf (hop l (if_pos ⟨rfl, hl⟩))
    | error f => exact hf

end CacheOperation

/-! ## §4  The onlooker -/

/-- A cache says what its onlooker has written down. -/
structure Agrees (l : Ledger) (c : AccessorCache Nat) : Prop where
  asked : c.tally.hits + c.tally.misses = l.asked
  misses : c.tally.misses = c.tally.compiles + c.tally.failures + l.stumbled
  made : c.tally.compiles = l.made
  failed : c.tally.failures = l.failed
  size : c.size = l.everMade

theorem agrees_empty : Agrees .blank .empty := ⟨rfl, rfl, rfl, rfl, rfl⟩

namespace Ledger

variable {σ : Session} {i n : Nat} {l : Ledger} {compile : CacheKey → Engine Nat} {k : CacheKey}

theorem note_reset : l.note i σ (.stats i true) = { l with asked := 0, made := 0, failed := 0, stumbled := 0 } :=
  if_pos (beq_self_eq_true i)

theorem note_idle {op : CacheOperation} (hasked : op.asked? i = none) (hreset : op.resets i = false) :
    l.note i σ op = l := by
  have hquiet : op.compiled? i σ = none ∧ op.stumbles i σ = false := by
    cases op with
    | request j compile d x =>
      cases d with
      | missing | foreign => exact ⟨rfl, rfl⟩
      | proper d =>
        cases x with
        | missing | foreign => exact ⟨rfl, rfl⟩
        | proper x =>
          have hnot : ¬(j = i ∧ (CacheKey.mk d x).isHashable = true) := by
            intro h
            rw [asked?, if_pos h] at hasked
            cases hasked
          refine ⟨if_neg fun h => hnot ⟨h.1, h.2.1⟩, ?_⟩
          rw [stumbles, Bool.eq_false_iff]
          simp only [ne_eq, Bool.and_eq_true, beq_iff_eq]
          exact fun h => hnot h.1.1
    | get | contains | size | stats | create | uncached => exact ⟨rfl, rfl⟩
  simp [note, hasked, hreset, hquiet]

theorem stumbles_ask : (ask i compile k).stumbles i σ =
    (k.isHashable && ((σ.cacheAt i).find? k).isNone && !k.shape.isPrintable) := by
  change (i == i && k.isHashable && _ && _) = _
  rw [beq_self_eq_true, Bool.true_and]

variable (hk : k.isHashable = true)
include hk

theorem asked?_ask : (ask i compile k).asked? i = some k := if_pos ⟨rfl, hk⟩

theorem note_found (hf : (σ.cacheAt i).find? k = some n) :
    l.note i σ (ask i compile k) = { l with asked := l.asked + 1 } := by
  have hcompiled : (ask i compile k).compiled? i σ = none := if_neg fun h => by simp [hf] at h
  have hstumbles : (ask i compile k).stumbles i σ = false := by simp [stumbles_ask, hf]
  have hreset : (ask i compile k).resets i = false := rfl
  simp [note, asked?_ask hk, hcompiled, hstumbles, hreset]

theorem note_stumbled (hp : k.shape.isPrintable = false) (hf : (σ.cacheAt i).find? k = none) :
    l.note i σ (ask i compile k) = { l with asked := l.asked + 1, stumbled := l.stumbled + 1 } := by
  have hcompiled : (ask i compile k).compiled? i σ = none := if_neg fun h => by simp [hp] at h
  have hstumbles : (ask i compile k).stumbles i σ = true := by simp [stumbles_ask, hf, hp, hk]
  have hreset : (ask i compile k).resets i = false := rfl
  simp [note, asked?_ask hk, hcompiled, hstumbles, hreset]

theorem compiled?_ask (hp : k.shape.isPrintable = true) (hf : (σ.cacheAt i).find? k = none) :
    (ask i compile k).compiled? i σ = some ((compile k).run.run (missed σ i k)).1 :=
  if_pos ⟨rfl, hk, hf, hp⟩

theorem note_compiled {r : Outcome Nat} (hp : k.shape.isPrintable = true)
    (hf : (σ.cacheAt i).find? k = none) (hr : ((compile k).run.run (missed σ i k)).1 = r) :
    l.note i σ (ask i compile k) =
      match r with
      | .ok _ => { l with asked := l.asked + 1, made := l.made + 1, everMade := l.everMade + 1 }
      | .error _ => { l with asked := l.asked + 1, failed := l.failed + 1 } := by
  have hcompiled : (ask i compile k).compiled? i σ = _ := compiled?_ask hk hp hf
  have hreset : (ask i compile k).resets i = false := rfl
  rw [hr] at hcompiled
  cases r <;> simp [note, asked?_ask hk, hcompiled, hreset]

omit hk

/-- Where shapes can be described, no request stumbles. -/
theorem stumbled_note {op : CacheOperation} (h : l.stumbled = 0) (hop : op.Describes) :
    (l.note i σ op).stumbled = 0 := by
  have hstumbles : op.stumbles i σ = false := by
    cases op with
    | request j compile d x =>
      cases d with
      | missing | foreign => rfl
      | proper d =>
        cases x with
        | missing | foreign => rfl
        | proper x =>
          have hx : x.isPrintable = true := hop
          simp [stumbles, hx]
    | get | contains | size | stats | create | uncached => rfl
  unfold note
  split
  · rfl
  · rw [hstumbles]
    split <;> split <;> exact h

theorem stumbled_noteAll {ops : List CacheOperation} (h : l.stumbled = 0) (hops : ∀ op ∈ ops, op.Describes) :
    (noteAll i σ l ops).stumbled = 0 := by
  induction ops generalizing σ l with
  | nil => exact h
  | cons op ops ih =>
    exact ih (stumbled_note h (hops op List.mem_cons_self)) fun op h => hops op (List.mem_cons_of_mem _ h)

end Ledger

namespace Agrees

variable {σ : Session} {i : Nat} {l : Ledger} {op : CacheOperation} {c : AccessorCache Nat}

/-- **One operation**: the onlooker goes on writing down what the cache says. -/
theorem note (h : Agrees l (σ.cacheAt i)) (heffect : Effect σ i op c) : Agrees (l.note i σ op) c := by
  obtain ⟨hasked, hmisses, hmade, hfailed, hsize⟩ := h
  cases heffect with
  | found hk hf =>
    rw [Ledger.note_found hk hf]
    exact ⟨by simp only [AccessorCache.hit]; omega, hmisses, hmade, hfailed, hsize⟩
  | @compiled _ k r hk hp hf hr =>
    rw [Ledger.note_compiled hk hp hf hr]
    cases r with
    | ok n =>
      have hentries : ((σ.cacheAt i).miss.keep k n).entries = (σ.cacheAt i).entries ++ [(k, n)] :=
        AccessorCache.entries_keep hf
      refine ⟨?_, ?_, congrArg (· + 1) hmade, hfailed, ?_⟩
      · simp only [AccessorCache.settle, AccessorCache.keep, AccessorCache.miss]
        omega
      · simp only [AccessorCache.settle, AccessorCache.keep, AccessorCache.miss]
        omega
      · rw [AccessorCache.settle, AccessorCache.size, hentries, List.length_append, ← hsize]
        rfl
    | error f =>
      refine ⟨?_, ?_, hmade, congrArg (· + 1) hfailed, hsize⟩
      · simp only [AccessorCache.settle, AccessorCache.fail, AccessorCache.miss]
        omega
      · simp only [AccessorCache.settle, AccessorCache.fail, AccessorCache.miss]
        omega
  | stumbled hk hp hf =>
    rw [Ledger.note_stumbled hk hp hf]
    refine ⟨?_, ?_, hmade, hfailed, hsize⟩
    · simp only [AccessorCache.miss]
      omega
    · simp only [AccessorCache.miss]
      omega
  | reset =>
    rw [Ledger.note_reset]
    exact ⟨rfl, rfl, rfl, rfl, hsize⟩
  | idle hnone hreset =>
    rw [Ledger.note_idle hnone hreset]
    exact ⟨hasked, hmisses, hmade, hfailed, hsize⟩

/-- **A sequence of operations**: so it does all the time. -/
theorem noteAll {ops : List CacheOperation} (h : Agrees l (σ.cacheAt i)) (hi : i < σ.caches.size)
    (hops : ∀ op ∈ ops, op.Spares) :
    Agrees (Ledger.noteAll i σ l ops) ((afterAll σ ops).cacheAt i) := by
  induction ops generalizing σ l with
  | nil => exact h
  | cons op ops ih =>
    have hop : op.Spares := hops op List.mem_cons_self
    have hsize : i < (after σ op).caches.size := Nat.lt_of_lt_of_le hi (size_le_after hop)
    exact ih (h.note (effect_perform hop hi)) hsize fun op h => hops op (List.mem_cons_of_mem _ h)

end Agrees

/-! ## §5  Sequences of operations -/

namespace CacheOperation

variable {σ : Session} {i n : Nat} {ops : List CacheOperation} {compile : CacheKey → Engine Nat}
  {k k' : CacheKey} {f : Failure}

/-- What an operation gives in a session. -/
def reply (σ : Session) (op : CacheOperation) : Outcome CacheReply := (op.perform.run.run σ).1

theorem afterAll_append {more : List CacheOperation} :
    afterAll σ (ops ++ more) = afterAll (afterAll σ ops) more := List.foldl_append

/-- What every operation of a sequence keeps, the sequence keeps. -/
theorem afterAll_keeps {P : Session → Prop} (h : P σ) (hstep : ∀ τ, P τ → ∀ op ∈ ops, P (after τ op)) :
    P (afterAll σ ops) :=
  List.foldlRecOn ops after h hstep

theorem size_le_afterAll (hops : ∀ op ∈ ops, op.Spares) :
    σ.caches.size ≤ (afterAll σ ops).caches.size :=
  afterAll_keeps (P := fun τ => σ.caches.size ≤ τ.caches.size) (Nat.le_refl _)
    fun _ h op hop => Nat.le_trans h (size_le_after (hops op hop))

/-- What the effect of every operation keeps of a cache, a sequence of operations keeps of it. -/
theorem cacheAt_afterAll_keeps {P : AccessorCache Nat → Prop} (hi : i < σ.caches.size)
    (hops : ∀ op ∈ ops, op.Spares) (h : P (σ.cacheAt i))
    (hstep : ∀ τ, P (τ.cacheAt i) → ∀ op ∈ ops, ∀ c, Effect τ i op c → P c) :
    P ((afterAll σ ops).cacheAt i) := by
  refine (afterAll_keeps (P := fun τ => i < τ.caches.size ∧ P (τ.cacheAt i)) ⟨hi, h⟩ ?_).2
  intro τ hτ op hop
  have hspares : op.Spares := hops op hop
  exact ⟨Nat.lt_of_lt_of_le hτ.1 (size_le_after hspares),
    hstep τ hτ.2 op hop _ (effect_perform hspares hτ.1)⟩

/-- Operations that are not on a cache have no effect on it. -/
theorem cacheAt_afterAll (hi : i < σ.caches.size) (hops : ∀ op ∈ ops, op.Spares)
    (hne : ∀ op ∈ ops, op.cache? ≠ some i) : (afterAll σ ops).cacheAt i = σ.cacheAt i :=
  cacheAt_afterAll_keeps (P := (· = σ.cacheAt i)) hi hops rfl
    fun _ h op hop _ heffect => (heffect.eq_of_cache?_ne (hne op hop)).trans h

/-- What is found is found ever after. -/
theorem find?_afterAll_of_some (hi : i < σ.caches.size) (hops : ∀ op ∈ ops, op.Spares)
    (hf : (σ.cacheAt i).find? k = some n) : ((afterAll σ ops).cacheAt i).find? k = some n :=
  cacheAt_afterAll_keeps (P := fun c => c.find? k = some n) hi hops hf
    fun _ h _ _ _ heffect => heffect.find?_of_some h

/-- What is not found is not found until it is asked for. -/
theorem find?_afterAll_of_none (hi : i < σ.caches.size) (hops : ∀ op ∈ ops, op.Spares)
    (hne : ∀ op ∈ ops, ∀ l, op.asked? i = some l → l.equal k = false)
    (hf : (σ.cacheAt i).find? k = none) : ((afterAll σ ops).cacheAt i).find? k = none :=
  cacheAt_afterAll_keeps (P := fun c => c.find? k = none) hi hops hf
    fun _ h op hop _ heffect => heffect.find?_of_none h (hne op hop)

/-- A request that is answered leaves the answer in the cache. -/
theorem find?_after_answer (hi : i < σ.caches.size) (hcompile : ∀ k, Engine.Spares (compile k))
    (h : reply σ (ask i compile k) = .ok (.accessor n)) :
    k.isHashable = true ∧ ((after σ (ask i compile k)).cacheAt i).find? k = some n := by
  cases hk : k.isHashable with
  | false =>
    have hrun : (ask i compile k).perform.run.run σ = (.error (.fault .typeError), σ) :=
      run_map (run_requestBy_unhashable hk)
    rw [reply, hrun] at h
    cases h
  | true =>
    refine ⟨rfl, ?_⟩
    cases hf : (σ.cacheAt i).find? k with
    | some m =>
      rw [reply, run_ask_kept hk hf] at h
      cases h
      exact (effect_ask hcompile hk hi).find?_of_some hf
    | none =>
      cases hp : k.shape.isPrintable with
      | false =>
        rw [reply, run_ask_stumbled hk hp hf] at h
        cases h
      | true =>
        rcases hc : (compile k).run.run (missed σ i k) with ⟨r, σ'⟩
        rw [reply, run_ask_missing hi hk hp hf hcompile hc] at h
        cases r with
        | error f => cases h
        | ok m =>
          cases h
          rw [cacheAt_after_ask hi hk hp hf hcompile hc]
          exact AccessorCache.find?_keep hf

/-- A request for which the compile function fails fails with it, and leaves nothing in the cache. -/
theorem failed_ask (hi : i < σ.caches.size) (hcompile : ∀ k, Engine.Spares (compile k))
    (h : (ask i compile k).compiled? i σ = some (.error f)) :
    k.isHashable = true ∧ k.shape.isPrintable = true ∧ reply σ (ask i compile k) = .error f ∧
      ((after σ (ask i compile k)).cacheAt i).entries = (σ.cacheAt i).entries ∧
      ((after σ (ask i compile k)).cacheAt i).find? k = none := by
  by_cases hcond : i = i ∧ k.isHashable = true ∧ (σ.cacheAt i).find? k = none ∧
      k.shape.isPrintable = true
  · obtain ⟨-, hk, hf, hp⟩ := hcond
    rw [Ledger.compiled?_ask hk hp hf] at h
    rcases hc : (compile k).run.run (missed σ i k) with ⟨r, σ'⟩
    rw [hc] at h
    cases h
    rw [cacheAt_after_ask hi hk hp hf hcompile hc]
    exact ⟨hk, hp, by rw [reply, run_ask_missing hi hk hp hf hcompile hc]; rfl, rfl, hf⟩
  · have hnone : (ask i compile k).compiled? i σ = none := if_neg hcond
    rw [hnone] at h
    cases h

/-- A sequence of operations, taken apart at one of them. -/
theorem afterAll_split {before later : List CacheOperation} {op : CacheOperation}
    (h : ops = before ++ op :: later) (hi : i < σ.caches.size) (hops : ∀ op ∈ ops, op.Spares) :
    i < (afterAll σ before).caches.size ∧ op.Spares ∧ i < (after (afterAll σ before) op).caches.size ∧
      (∀ op ∈ later, op.Spares) ∧
      afterAll σ ops = afterAll (after (afterAll σ before) op) later := by
  subst h
  have hbefore : ∀ op ∈ before, op.Spares := fun op h => hops op (by simp [h])
  have hop : op.Spares := hops op (by simp)
  have hlater : ∀ op ∈ later, op.Spares := fun op h => hops op (by simp [h])
  have hi₁ : i < (afterAll σ before).caches.size := Nat.lt_of_lt_of_le hi (size_le_afterAll hbefore)
  exact ⟨hi₁, hop, Nat.lt_of_lt_of_le hi₁ (size_le_after hop), hlater, afterAll_append⟩

end CacheOperation

/-- **The law of a cache** over a sequence of operations from the moment that the cache was new. -/
structure CacheLaw (σ : Session) (i : Nat) (ops : List CacheOperation) : Prop where
  /-- Once a request for a key was answered, requests for equal keys are answered by the same accessor.
  Whatever their compile function would do, nothing happens but that one more hit is counted. -/
  answered {before later : List CacheOperation} {compile compile' : CacheKey → Engine Nat}
    {k k' : CacheKey} {n : Nat} :
    ops = before ++ ask i compile k :: later →
    reply (afterAll σ before) (ask i compile k) = .ok (.accessor n) → k.equal k' = true →
    (ask i compile' k').perform.run.run (afterAll σ ops) =
      (.ok (.accessor n), (afterAll σ ops).putCache i ((afterAll σ ops).cacheAt i).hit)
  /-- A request whose compile function fails fails with it and leaves the entries as they are, and the next
  request for an equal key is again given what its compile function gives. -/
  failed {before later : List CacheOperation} {compile : CacheKey → Engine Nat} {k : CacheKey}
    {f : Failure} :
    ops = before ++ ask i compile k :: later →
    (ask i compile k).compiled? i (afterAll σ before) = some (.error f) →
    reply (afterAll σ before) (ask i compile k) = .error f ∧
    ((after (afterAll σ before) (ask i compile k)).cacheAt i).entries =
      ((afterAll σ before).cacheAt i).entries ∧
    ((∀ op ∈ later, ∀ l, op.asked? i = some l → l.equal k = false) →
      ∀ (compile' : CacheKey → Engine Nat) (k' : CacheKey) (r : Outcome Nat) (σ' : Session),
        (∀ k, Engine.Spares (compile' k)) → k.equal k' = true →
        (compile' k').run.run (missed (afterAll σ ops) i k') = (r, σ') →
        (ask i compile' k').perform.run.run (afterAll σ ops) =
          (.accessor <$> r, σ'.putCache i (((afterAll σ ops).cacheAt i).miss.settle k' r)))
  /-- The counts since the last reset are those of the onlooker: each request for a key that can be looked
  up is a hit or a miss, and, where shapes can be described, each miss is a compile call that gave an
  accessor or failed.  The size is the number of compile calls that ever gave an accessor. -/
  counts (reset : Bool) : ∃ r, reply (afterAll σ ops) (.stats i reset) = .ok (.report r) ∧
    r.tally.hits + r.tally.misses = (Ledger.noteAll i σ .blank ops).asked ∧
    ((∀ op ∈ ops, op.Describes) → r.tally.misses = r.tally.compiles + r.tally.failures) ∧
    r.tally.compiles = (Ledger.noteAll i σ .blank ops).made ∧
    r.tally.failures = (Ledger.noteAll i σ .blank ops).failed ∧
    r.size = (Ledger.noteAll i σ .blank ops).everMade ∧
    reply (afterAll σ ops) (.size i) = .ok (.count r.size)
  /-- What is done to other caches, and without a cache, leaves entries and counts as they are. -/
  others {more : List CacheOperation} : (∀ op ∈ more, op.Spares ∧ op.cache? ≠ some i) →
    (afterAll (afterAll σ ops) more).cacheAt i = (afterAll σ ops).cacheAt i

/-- **Every sequence of operations obeys the law of each cache**, from any session in which the cache is
new, as long as compile functions leave the caches alone. -/
theorem cache_law {σ : Session} {i : Nat} {ops : List CacheOperation} (hi : i < σ.caches.size)
    (hnew : σ.cacheAt i = .empty) (hops : ∀ op ∈ ops, op.Spares) : CacheLaw σ i ops where
  answered {before later compile compile' k k' n} h hreply hkeys := by
    obtain ⟨hi₁, hask, hi₂, hlater, hall⟩ := afterAll_split h hi hops
    obtain ⟨hk, hf⟩ := find?_after_answer hi₁ hask hreply
    have hfind := find?_afterAll_of_some hi₂ hlater hf
    rw [AccessorCache.find?_congr hkeys] at hfind
    rw [CacheKey.isHashable_congr hkeys] at hk
    rw [hall]
    exact run_ask_kept hk hfind
  failed {before later compile k f} h hcompiled := by
    obtain ⟨hi₁, hask, hi₂, hlater, hall⟩ := afterAll_split h hi hops
    obtain ⟨hk, hp, hreply, hentries, hf⟩ := failed_ask hi₁ hask hcompiled
    refine ⟨hreply, hentries, ?_⟩
    intro hne compile' k' r σ' hcompile hkeys hc
    have hfind := find?_afterAll_of_none hi₂ hlater hne hf
    rw [AccessorCache.find?_congr hkeys] at hfind
    rw [CacheKey.isHashable_congr hkeys] at hk
    rw [Shape.isPrintable_congr (CacheKey.equal_iff.mp hkeys).2] at hp
    have hi₃ : i < (afterAll σ ops).caches.size := Nat.lt_of_lt_of_le hi (size_le_afterAll hops)
    rw [hall] at hc hi₃ ⊢
    exact run_ask_missing hi₃ hk hp hfind hcompile hc
  counts reset := by
    have hagrees : Agrees .blank (σ.cacheAt i) := by
      rw [hnew]
      exact agrees_empty
    obtain ⟨hasked, hmisses, hmade, hfailed, hsize⟩ := hagrees.noteAll hi hops
    refine ⟨((afterAll σ ops).cacheAt i).report, ?_, hasked, ?_, hmade, hfailed, hsize, rfl⟩
    · cases reset <;> rfl
    · intro hdescribes
      rw [Ledger.stumbled_noteAll rfl hdescribes] at hmisses
      exact hmisses
  others {more} h := by
    have hi' : i < (afterAll σ ops).caches.size := Nat.lt_of_lt_of_le hi (size_le_afterAll hops)
    exact cacheAt_afterAll hi' (fun op hop => (h op hop).1) fun op hop => (h op hop).2

/-! ## §6  A run, and what the law does not cover -/

namespace CacheRuns

/-- The key of a getter of a field of which only the name is known. -/
def key (name : String) (pinned : Option TypeForm) : CacheKey :=
  ⟨.bare .field (.builtin .object) name, .getter none pinned true⟩

/-- A compile function that gives an accessor. -/
def gives (n : Nat) : CacheKey → Engine Nat := fun _ => pure n

/-- What a compile function fails with. -/
def trouble : Failure := .raised .runtimeError "no accessor" []

/-- A compile function that fails. -/
def fails : CacheKey → Engine Nat := fun _ => throw trouble

/-- A compile function that asks the first cache for another accessor, and then fails. -/
def meddles : CacheKey → Engine Nat := fun _ => do
  discard <| requestBy (gives 0) 0 (.proper (key "y" none).descriptor) (.proper (key "y" none).shape)
  throw trouble

/-- An integer of five thousand digits in the place of a type. -/
def vast : TypeForm :=
  .foreign { (default : Foreign) with value := .int (.ofNat (Nat.pow 10 5000)), hashable := true }

/-- A run in which a first compile call fails, a second one gives an accessor, which is found after that
whatever the compile function would do, the counts are reset, and the other key is compiled, while
another cache is used and something is built without a cache. -/
def run : List CacheOperation :=
  [ask 0 fails (key "x" none), ask 0 (gives 3) (key "x" none), ask 0 fails (key "x" none), .stats 0 true,
    ask 1 (gives 5) (key "x" none), .uncached .missing .missing none, ask 0 (gives 4) (key "y" none),
    ask 0 fails (key "y" none), .contains 0 .missing .missing]

/-- The law of a cache in the course of that run. -/
theorem cache_law_of_run :
    let σ := after (.start .empty) (.create .build)
    0 < σ.caches.size ∧ σ.cacheAt 0 = .empty ∧ (∀ op ∈ run, op.Spares) ∧ CacheLaw σ 0 run ∧
      (ask 0 fails (key "x" none)).perform.run.run (afterAll σ run) =
        (.ok (.accessor 3), (afterAll σ run).putCache 0 ((afterAll σ run).cacheAt 0).hit) ∧
      ((after σ (ask 0 fails (key "x" none))).cacheAt 0).entries = [] ∧
      ∃ r, reply (afterAll σ run) (.stats 0 false) = .ok (.report r) ∧
        r.tally.hits + r.tally.misses = 2 ∧ r.tally.misses = 1 ∧ r.tally.compiles = 1 ∧ r.size = 2 := by
  intro σ
  have hgives (n : Nat) (k : CacheKey) : Engine.Spares (gives n k) := spares_pure
  have hfails (k : CacheKey) : Engine.Spares (fails k) := spares_throw
  have hrun : ∀ op ∈ run, op.Spares := by
    simp only [run, List.forall_mem_cons, List.not_mem_nil, false_implies, implies_true, and_true]
    exact ⟨hfails, hgives 3, hfails, trivial, hgives 5, trivial, hgives 4, hfails, trivial⟩
  have hlaw : CacheLaw σ 0 run := cache_law (by decide) rfl hrun
  have hledger : Ledger.noteAll 0 (after (.start .empty) (.create .build)) .blank run = ⟨2, 1, 0, 0, 2⟩ := by
    decide +kernel
  have hdescribes : ∀ op ∈ run, op.Describes := by
    simp only [run, List.forall_mem_cons, List.not_mem_nil, false_implies, implies_true, and_true]
    exact ⟨rfl, rfl, rfl, trivial, rfl, trivial, rfl, rfl, trivial⟩
  refine ⟨by decide, rfl, hrun, hlaw, ?_, ?_, ?_⟩
  · have hsplit : run = [ask 0 fails (key "x" none)] ++ ask 0 (gives 3) (key "x" none) :: run.drop 2 := rfl
    exact hlaw.answered hsplit rfl (CacheKey.equal_refl _)
  · have hsplit : run = [] ++ ask 0 fails (key "x" none) :: run.drop 1 := rfl
    have hfailed : (ask 0 fails (key "x" none)).compiled? 0 (afterAll σ []) = some (.error trouble) := rfl
    exact (hlaw.failed hsplit hfailed).2.1
  · obtain ⟨r, hr, hasked, hmisses, hmade, hfailed, hsize, -⟩ := hlaw.counts false
    have hbalance := hmisses hdescribes
    rw [hledger] at hasked hmade hfailed hsize
    rw [hmade, hfailed] at hbalance
    exact ⟨r, hr, hasked, hbalance, hmade, hsize⟩

/-- **What the law asks for cannot be left out.**  A compile function that turns to the cache itself leaves an
entry there though it fails, and a request whose shape cannot be described counts a miss without any
compile call. -/
theorem law_needs_its_conditions :
    (reply (.start .empty) (ask 0 meddles (key "x" none)) = .error trouble ∧
      ((after (.start .empty) (ask 0 meddles (key "x" none))).cacheAt 0).entries ≠
        ((Session.start .empty).cacheAt 0).entries) ∧
    ∃ r, reply (after (.start .empty) (ask 0 (compileFor 0) (key "x" (some vast)))) (.stats 0 false) =
      .ok (.report r) ∧ r.tally.misses ≠ r.tally.compiles + r.tally.failures := by
  refine ⟨⟨rfl, ?_⟩, ?_⟩
  · have hentries : ((after (.start .empty) (ask 0 meddles (key "x" none))).cacheAt 0).entries =
        [(key "y" none, 0)] := rfl
    rw [hentries]
    exact List.cons_ne_nil _ _
  · have hp : (key "x" (some vast)).shape.isPrintable = false := by decide +kernel
    have hafter : after (.start .empty) (ask 0 (compileFor 0) (key "x" (some vast))) =
        (Session.start .empty).putCache 0 AccessorCache.empty.miss := by
      rw [after, run_ask_stumbled rfl hp rfl]
      rfl
    rw [hafter]
    exact ⟨_, rfl, by decide⟩

end CacheRuns
end MemberAccess
