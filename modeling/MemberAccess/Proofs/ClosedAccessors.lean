import MemberAccess.Member.Resolve
import MemberAccess.Proofs.CallsAlike
import MemberAccess.Proofs.ConvertedValues
import MemberAccess.Proofs.KeptAnswers
import MemberAccess.Proofs.SparedCaches

/-!
# Accessors that are closed

An accessor holds all that its calls need.  Whatever is done with the library after it was made, rules
added, members found, other accessors made or asked for again, compilations that fail, counts reset, a call
of it with given arguments in a given state of the objects comes to the same, as long as the rules that it
holds keep to themselves (`Engine.accessors_are_closed`).  A rule is code of a program, and one that turns to
the library finds what the library has by then (`Desks.rule_that_defers_is_not_closed`).

What is built afterwards does see the new rules: the latest rule for a type goes before all others, and a
type without one has the converter of its kind, whose members, where it is a union, have got their
converters in just this way (`Store.Chooses`).  Where a value is known to fit, no rule is asked
(`Plan.ChosenBy`).

That sessions keep their accessors is checked part by part, as for the caches in `Proofs.SparedCaches`: a use
of the library *adds* when every accessor keeps its number and the rules stay, and adding is closed under
doing one thing after another.
-/

namespace MemberAccess

namespace Engine

variable {α β : Type} {σ σ' : Session} {x : Engine α} {k : α → Engine β}

/-! ## §1  Adding -/

/-- Every accessor of the first session has its number in the second, and the rules are the same. -/
structure Prolongs (σ σ' : Session) : Prop where
  accessor {i : Nat} {a : Accessor} : σ.accessors[i]? = some a → σ'.accessors[i]? = some a
  rules : σ'.rules = σ.rules

theorem Prolongs.trans {σ'' : Session} (h : Prolongs σ σ') (h' : Prolongs σ' σ'') : Prolongs σ σ'' where
  accessor ha := h'.accessor (h.accessor ha)
  rules := h'.rules.trans h.rules

theorem prolongs_of_eq (ha : σ'.accessors = σ.accessors) (hr : σ'.rules = σ.rules) : Prolongs σ σ' where
  accessor h := by rwa [ha]
  rules := hr

/-- A use of the library that takes no accessor away and leaves the rules, whatever comes of it. -/
def Adds (x : Engine α) : Prop := ∀ σ, Prolongs σ (x.run.run σ).2

/-- What touches neither accessors nor rules adds. -/
theorem adds_of_eq (h : ∀ σ, (x.run.run σ).2.accessors = σ.accessors ∧ (x.run.run σ).2.rules = σ.rules) :
    Adds x :=
  fun σ => prolongs_of_eq (h σ).1 (h σ).2

theorem adds_bind (hx : Adds x) (hk : ∀ a, Adds (k a)) : Adds (x >>= k) :=
  rel_run_bind Prolongs.trans hx hk

theorem adds_pure {a : α} : Adds (pure a) := adds_of_eq fun _ => ⟨rfl, rfl⟩

theorem adds_throw {f : Failure} : Adds (throw f : Engine α) := adds_of_eq fun _ => ⟨rfl, rfl⟩

theorem adds_get : Adds get := adds_of_eq fun _ => ⟨rfl, rfl⟩

theorem adds_liftExcept (r : Outcome α) : Adds (liftExcept r) :=
  adds_of_eq fun _ => by rw [run_liftExcept]; exact ⟨rfl, rfl⟩

theorem adds_map {f : α → β} (hx : Adds x) : Adds (f <$> x) := by
  rw [← bind_pure_comp]
  exact adds_bind hx fun _ => adds_pure

theorem adds_mapM {f : α → Engine β} (h : ∀ a, Adds (f a)) (as : List α) : Adds (as.mapM f) := by
  induction as with
  | nil => exact adds_pure
  | cons a as ih =>
    rw [List.mapM_cons]
    exact adds_bind (h a) fun _ => adds_bind ih fun _ => adds_pure

/-- A failure that is handed on as a value has added as well. -/
theorem adds_lift (hx : Adds x) : Adds (ExceptT.lift x.run) := by
  intro σ
  rw [ExceptT.run_lift, StateT.run_map]
  exact hx σ

/-! ## §2  Building, and asking a cache -/

theorem adds_act {y : Action α} : Adds (act y) := adds_of_eq fun _ => ⟨rfl, rfl⟩

theorem adds_ask {q : Store → Ask α} : Adds (ask q) := adds_of_eq fun _ => ⟨rfl, rfl⟩

theorem adds_look {f : Store → Outcome α} : Adds (look f) :=
  adds_bind adds_get fun _ => adds_liftExcept _

theorem adds_cacheSlot {i : Nat} : Adds (cacheSlot i) := adds_of_eq fun _ => ⟨rfl, rfl⟩

theorem adds_modifyCache {i : Nat} {f : CacheSlot → CacheSlot} : Adds (modifyCache i f) :=
  adds_of_eq fun _ => ⟨rfl, rfl⟩

theorem adds_addCache {scheme : CompileScheme} : Adds (addCache scheme) := adds_of_eq fun _ => ⟨rfl, rfl⟩

theorem adds_isKeyPart {f : α → Bool} {a : Supplied α} : Adds (isKeyPart f a) := by
  cases a with
  | missing | proper => exact adds_pure
  | foreign v =>
    refine adds_bind adds_get ?_
    intro s
    split <;> exact adds_pure

theorem adds_peek {i : Nat} {d : Supplied MemberDescriptor} {s : Supplied Shape} : Adds (peek i d s) := by
  refine adds_bind adds_isKeyPart fun b => adds_bind adds_isKeyPart ?_
  intro b'
  split
  · split
    · exact adds_bind adds_cacheSlot fun _ => adds_pure
    · exact adds_pure
  · exact adds_throw

/-- Making a plan ready puts one accessor after the others. -/
theorem adds_compilePlan {p : Plan} : Adds (compilePlan p) := by
  intro σ
  cases h : Accessor.ofPlan σ.store σ.settings.listsSource p with
  | error f =>
    rw [run_compilePlan_error h]
    exact prolongs_of_eq rfl rfl
  | ok a =>
    obtain ⟨log, hrun⟩ := run_compilePlan_ok h
    rw [hrun]
    refine ⟨?_, rfl⟩
    intro i b hb
    have hi : i < σ.accessors.size := (Array.getElem?_eq_some_iff.mp hb).1
    change (σ.accessors.push a)[i]? = some b
    rw [Array.getElem?_push_lt hi, ← hb, Array.getElem?_eq_getElem hi]

theorem adds_synthesize {d : MemberDescriptor} {s : Shape} : Adds (synthesize d s) :=
  adds_bind adds_get fun _ => adds_liftExcept _

theorem adds_build {d : Supplied MemberDescriptor} {s : Supplied Shape} : Adds (build d s) :=
  adds_bind adds_ask fun _ => adds_bind adds_synthesize fun _ => adds_compilePlan

theorem rules_of_build {σ' : Session} {n : Nat} {d : Supplied MemberDescriptor} {s : Supplied Shape}
    (h : (build d s).run.run σ = (.ok n, σ')) : σ'.rules = σ.rules := by
  have hadds := (adds_build (d := d) (s := s) σ).rules
  rwa [h] at hadds

theorem adds_compileFor {i : Nat} {key : CacheKey} : Adds (compileFor i key) := by
  refine adds_bind adds_cacheSlot ?_
  intro slot
  cases slot.scheme with
  | build => exact adds_build
  | failing first names =>
    refine adds_bind adds_cacheSlot fun c => adds_bind adds_modifyCache ?_
    intro _
    split
    · exact adds_throw
    · exact adds_build

/-- A request finds what a cache keeps, or has it made. -/
theorem adds_request {i : Nat} {d : Supplied MemberDescriptor} {s : Supplied Shape} :
    Adds (request i d s) := by
  intro σ
  by_cases hproper : ∃ d' s', d = .proper d' ∧ s = .proper s'
  · obtain ⟨d', s', rfl, rfl⟩ := hproper
    unfold request
    cases hk : (CacheKey.mk d' s').isHashable with
    | false =>
      rw [run_requestBy_unhashable hk]
      exact prolongs_of_eq rfl rfl
    | true =>
      cases hf : (σ.cacheAt i).find? ⟨d', s'⟩ with
      | some n =>
        rw [run_requestBy_kept hk hf]
        exact prolongs_of_eq rfl rfl
      | none =>
        have hmissed : Prolongs σ (missed σ i ⟨d', s'⟩) := prolongs_of_eq rfl rfl
        cases hp : s'.isPrintable with
        | false =>
          rw [run_requestBy_undescribed hk hp hf]
          exact prolongs_of_eq rfl rfl
        | true =>
          rw [run_requestBy_missing hk hp hf rfl]
          exact (hmissed.trans (adds_compileFor _)).trans (prolongs_of_eq rfl rfl)
  · have hrefused : ∃ f, (request i d s).run.run σ = (.error f, σ) := run_requestBy_improper hproper
    obtain ⟨f, hrun⟩ := hrefused
    rw [hrun]
    exact prolongs_of_eq rfl rfl

theorem adds_getOrCompile {d : Supplied MemberDescriptor} {s : Supplied Shape} {cache : Option Nat}
    {useCache : Bool} : Adds (getOrCompile d s cache useCache) := by
  refine adds_bind adds_get ?_
  intro σ
  split
  · exact adds_build
  · exact adds_request

/-! ## §3  Requests by kind of member, and at once -/

theorem adds_requireDescriptor {d : Supplied MemberDescriptor} {kind : Option MemberKind} :
    Adds (requireDescriptor d kind) := by
  refine adds_bind (adds_liftExcept _) ?_
  intro d'
  cases kind with
  | none => exact adds_pure
  | some k =>
    dsimp only
    split
    · exact adds_pure
    · exact adds_bind adds_get fun _ => adds_throw

theorem adds_defaultShape {f : DefaultShape} {d : Supplied MemberDescriptor} :
    Adds (defaultShape f d) := by
  cases f with
  | getter | setter => exact adds_pure
  | constructor | func | action => exact adds_bind adds_requireDescriptor fun _ => adds_look

theorem adds_chosenShape {f : DefaultShape} {s : Supplied Shape} : Adds (chosenShape f s) := by
  cases s with
  | missing | proper => exact adds_pure
  | foreign v =>
    refine adds_bind adds_get ?_
    intro σ
    split <;> exact adds_pure

theorem adds_compile {f : DefaultShape} {d : Supplied MemberDescriptor} {s : Supplied Shape}
    {cache : Option Nat} {useCache : Bool} : Adds (compile f d s cache useCache) := by
  refine adds_bind adds_chosenShape ?_
  intro chosen
  cases chosen with
  | some s' => exact adds_getOrCompile
  | none => exact adds_bind adds_defaultShape fun _ => adds_getOrCompile

theorem adds_compilePair {kind : MemberKind} {d : Supplied MemberDescriptor} {base value : Option TypeForm}
    {nonPublic : Bool} {cache : Option Nat} {useCache : Bool} :
    Adds (compilePair kind d base value nonPublic cache useCache) := by
  refine adds_bind adds_requireDescriptor ?_
  intro d'
  have hside {s : Shape} : Adds (some <$> getOrCompile (.proper d') (.proper s) cache useCache) :=
    adds_map adds_getOrCompile
  dsimp only
  cases d'.readable with
  | false =>
    cases d'.writable with
    | false => exact adds_bind adds_get fun _ => adds_bind adds_throw fun _ => adds_bind adds_pure fun _ =>
        adds_bind adds_pure fun _ => adds_pure
    | true => exact adds_bind adds_pure fun _ => adds_bind hside fun _ => adds_pure
  | true =>
    cases d'.writable with
    | false => exact adds_bind hside fun _ => adds_bind adds_pure fun _ => adds_pure
    | true => exact adds_bind hside fun _ => adds_bind hside fun _ => adds_pure

theorem adds_requestAll {i : Nat} {d : Supplied MemberDescriptor} {s : Supplied Shape} (n : Nat) :
    Adds (requestAll i d s n) := by
  induction n with
  | zero => exact adds_pure
  | succ n ih => exact adds_bind (adds_lift adds_request) fun _ => adds_bind ih fun _ => adds_pure

theorem adds_crowd {callers : Nat} {keys : List (Supplied MemberDescriptor × Supplied Shape)}
    {failFirst : Int} : Adds (crowd callers keys failFirst) :=
  adds_bind adds_addCache fun _ =>
  adds_bind (adds_mapM (fun _ => adds_requestAll callers) keys) fun _ => adds_pure

theorem adds_race {d : Supplied MemberDescriptor} {s : Supplied Shape} : Adds (race d s) :=
  adds_bind adds_addCache fun _ =>
  adds_bind adds_request fun _ => adds_bind adds_request fun _ => adds_pure

/-- Calls the accessor of a number. -/
def callAccessor (i : Nat) (arguments : List Value) : Engine Value := do
  act ((← accessor i).call arguments)

theorem adds_callAccessor {i : Nat} {arguments : List Value} : Adds (callAccessor i arguments) :=
  adds_bind (adds_of_eq fun _ => ⟨rfl, rfl⟩) fun _ => adds_act

end Engine

open Engine

/-! ## §4  Sequences of uses -/

/-- A use of the library, or anything that the program does with its own objects. -/
inductive LibraryUse
  | register (r : Rule)
  | configure (f : Settings → Settings)
  | readLog
  | ask (q : Question)
  | coerce (v : Value) (t : TypeForm) (place : String)
  | resolve (q : Member.Query) (cls : Value)
  | describe (object : Value) (owner : Option TypeForm)
  | shape (make : Store → Outcome Shape)
  | validate (d : Supplied MemberDescriptor) (s : Supplied Shape)
  | plan (d : MemberDescriptor) (s : Shape)
  | compilePlan (p : Plan)
  | build (d : Supplied MemberDescriptor) (s : Supplied Shape)
  | getOrCompile (d : Supplied MemberDescriptor) (s : Supplied Shape) (cache : Option Nat) (useCache : Bool)
  | compile (f : DefaultShape) (d : Supplied MemberDescriptor) (s : Supplied Shape) (cache : Option Nat)
      (useCache : Bool)
  | compilePair (kind : MemberKind) (d : Supplied MemberDescriptor) (base value : Option TypeForm)
      (nonPublic : Bool) (cache : Option Nat) (useCache : Bool)
  | createCache (scheme : CompileScheme)
  | request (i : Nat) (d : Supplied MemberDescriptor) (s : Supplied Shape)
  | peek (i : Nat) (d : Supplied MemberDescriptor) (s : Supplied Shape)
  | stats (i : Nat) (reset : Bool)
  | crowd (callers : Nat) (keys : List (Supplied MemberDescriptor × Supplied Shape)) (failFirst : Int)
  | race (d : Supplied MemberDescriptor) (s : Supplied Shape)
  | call (i : Nat) (arguments : List Value)
  | act (y : Action Value)

namespace LibraryUse

/-- Carries a use out, for what it does to the session. -/
def perform : LibraryUse → Engine Unit
  | register r => Engine.register r
  | configure f => Engine.configure f
  | readLog => discard Engine.readLog
  | ask q => discard <| Engine.ask fun st => q.ask st
  | coerce v t place => do discard <| Engine.act (v.coerce (← get).rules t place)
  | resolve q cls => do discard <| addDescriptor (← Engine.act (Member.resolve q cls))
  | describe object owner => do discard <| addDescriptor (← Engine.act (Member.describe object owner))
  | shape make => do discard <| addShape (← look make)
  | validate d s => discard <| Engine.ask fun st => MemberAccess.validate st d s
  | plan d s => do discard <| addPlan (← synthesize d s)
  | compilePlan p => discard <| Engine.compilePlan p
  | build d s => discard <| Engine.build d s
  | getOrCompile d s cache useCache => discard <| Engine.getOrCompile d s cache useCache
  | compile f d s cache useCache => discard <| Engine.compile f d s cache useCache
  | compilePair kind d base value nonPublic cache useCache => do
      discard <| addPair (← Engine.compilePair kind d base value nonPublic cache useCache)
  | createCache scheme => discard <| addCache scheme
  | request i d s => discard <| Engine.request i d s
  | peek i d s => discard <| Engine.peek i d s
  | stats i reset => do
      discard <| cacheSlot i
      if reset then modifyCache i fun c => { c with cache := c.cache.reset }
  | crowd callers keys failFirst => discard <| Engine.crowd callers keys failFirst
  | race d s => discard <| Engine.race d s
  | call i arguments => discard <| callAccessor i arguments
  | act y => discard <| Engine.act y

/-- The session after a use. -/
def after (σ : Session) (u : LibraryUse) : Session := (u.perform.run.run σ).2

/-- The session after a sequence of uses. -/
def afterAll (σ : Session) (us : List LibraryUse) : Session := us.foldl after σ

/-- The rule that a use registers. -/
def registered? : LibraryUse → Option Rule
  | register r => some r
  | _ => none

/-- The rules that a sequence of uses registers, the latest first. -/
def registered (us : List LibraryUse) : List Rule := (us.filterMap registered?).reverse

variable {σ : Session} {u : LibraryUse}

/-- All but registering a rule adds. -/
theorem adds_perform (h : u.registered? = none) : Adds u.perform := by
  have hadd {α : Type} {x : Engine α} {keep : α → Engine Value} (hx : Adds x)
      (hkeep : ∀ a, Adds (keep a)) : Adds (x >>= fun a => discard (keep a)) :=
    adds_bind hx fun a => adds_map (hkeep a)
  cases u with
  | register r => cases h
  | configure f => exact adds_of_eq fun _ => ⟨rfl, rfl⟩
  | readLog => exact adds_map (adds_of_eq fun _ => ⟨rfl, rfl⟩)
  | ask q => exact adds_map adds_ask
  | coerce v t place => exact adds_bind adds_get fun _ => adds_map adds_act
  | resolve q cls => exact hadd adds_act fun _ => adds_of_eq fun _ => ⟨rfl, rfl⟩
  | describe object owner => exact hadd adds_act fun _ => adds_of_eq fun _ => ⟨rfl, rfl⟩
  | shape make => exact hadd adds_look fun _ => adds_of_eq fun _ => ⟨rfl, rfl⟩
  | validate d s => exact adds_map adds_ask
  | plan d s => exact hadd adds_synthesize fun _ => adds_of_eq fun _ => ⟨rfl, rfl⟩
  | compilePlan p => exact adds_map adds_compilePlan
  | build d s => exact adds_map adds_build
  | getOrCompile d s cache useCache => exact adds_map adds_getOrCompile
  | compile f d s cache useCache => exact adds_map adds_compile
  | compilePair kind d base value nonPublic cache useCache =>
    exact hadd adds_compilePair fun _ => adds_of_eq fun _ => ⟨rfl, rfl⟩
  | createCache scheme => exact adds_map adds_addCache
  | request i d s => exact adds_map adds_request
  | peek i d s => exact adds_map adds_peek
  | stats i reset =>
    refine adds_bind (adds_map adds_cacheSlot) ?_
    intro _
    split
    · exact adds_modifyCache
    · exact adds_pure
  | crowd callers keys failFirst => exact adds_map adds_crowd
  | race d s => exact adds_map adds_race
  | call i arguments => exact adds_map adds_callAccessor
  | act y => exact adds_map adds_act

/-- **After a use** every accessor has the number it had, and a rule that was registered stands in front of
the others. -/
theorem after_keeps (σ : Session) (u : LibraryUse) :
    (∀ (i : Nat) (a : Accessor), σ.accessors[i]? = some a → (after σ u).accessors[i]? = some a) ∧
      (after σ u).rules = u.registered?.toList ++ σ.rules := by
  cases h : u.registered? with
  | none =>
    have hadds := adds_perform h σ
    exact ⟨fun _ _ => hadds.accessor, hadds.rules⟩
  | some r =>
    cases u <;> first | (cases h; exact ⟨fun _ _ ha => ha, rfl⟩) | cases h

/-- **After any sequence of uses** every accessor has the number it had, and the rules that were registered
stand in front of the others, the latest first. -/
theorem afterAll_keeps (us : List LibraryUse) :
    (∀ (i : Nat) (a : Accessor), σ.accessors[i]? = some a → (afterAll σ us).accessors[i]? = some a) ∧
      (afterAll σ us).rules = registered us ++ σ.rules := by
  induction us generalizing σ with
  | nil => exact ⟨fun _ _ ha => ha, rfl⟩
  | cons u us ih =>
    obtain ⟨haccessor, hrules⟩ := after_keeps σ u
    obtain ⟨ihaccessor, ihrules⟩ := @ih (after σ u)
    refine ⟨fun i a ha => ihaccessor i a (haccessor i a ha), ?_⟩
    change (afterAll (after σ u) us).rules = _
    rw [ihrules, hrules]
    cases hr : u.registered? <;> simp [registered, hr]

end LibraryUse

/-! ## §5  The choice of a converter -/

namespace Store

/-- **How the converter of a type is chosen.**  What takes anything has none.  Else the latest rule that is
for the normal type goes before all others.  Where no rule is for it, a union has the converters of its
members, each chosen in this way, and none if one of them has none; any other type has the converter of its
kind. -/
inductive Chooses (st : Store) (rules : List Rule) : TypeForm → Option Converter → Prop
  | anything {t : TypeForm} : t.normalize.isAny = true → Chooses st rules t none
  | registered {t : TypeForm} {later earlier : List Rule} {r : Rule} : t.normalize.isAny = false →
      rules = later ++ r :: earlier → (∀ q ∈ later, q.isFor t.normalize = false) →
      r.isFor t.normalize = true → Chooses st rules t (some (.rule r t.normalize))
  | union {t : TypeForm} {i : Mark} {w : UnionSpelling} {ts : List TypeForm}
      {choice : TypeForm → Option Converter} : (∀ r ∈ rules, r.isFor t.normalize = false) →
      t.normalize = .union i w ts → (∀ u ∈ ts, Chooses st rules u (choice u)) →
      Chooses st rules t ((ts.mapM choice).map fun cs =>
        .union cs (ts.filterMap TypeForm.runtimeClass?) (t.normalize.typeName st))
  | plain {t : TypeForm} : t.normalize.isAny = false → (∀ r ∈ rules, r.isFor t.normalize = false) →
      t.normalize.isUnion = false → Chooses st rules t (st.plainConverter? t.normalize)

variable {st : Store} {rules : List Rule} {t : TypeForm} {c : Option Converter}

/-- Several types have the converters that each of them has. -/
theorem mapM_choice {choice : TypeForm → Option Converter} {ts : List TypeForm}
    (h : ∀ u ∈ ts, choice u = st.converter? rules u) : ts.mapM choice = st.converters? rules ts := by
  induction ts with
  | nil => rw [converters?, List.mapM_nil, Option.pure_def]
  | cons u us ih =>
    rw [List.mapM_cons, h u (by simp), ih fun u' hu' => h u' (by simp [hu']), converters?]
    cases st.converter? rules u <;> cases st.converters? rules us <;> rfl

theorem find?_eq_none_of_isFor (h : ∀ r ∈ rules, r.isFor t = false) :
    rules.find? (·.isFor t) = none :=
  List.find?_eq_none.mpr fun r hr => by rw [h r hr]; exact Bool.false_ne_true

theorem chooses_converter? (st : Store) (rules : List Rule) (t : TypeForm) :
    st.Chooses rules t (st.converter? rules t) := by
  induction hn : t.weight using Nat.strong_induction_on generalizing t with
  | _ n ih =>
    subst hn
    cases hany : t.normalize.isAny with
    | true =>
      rw [converter?_of_isAny hany]
      exact .anything hany
    | false =>
      cases hf : rules.find? (·.isFor t.normalize) with
      | some r =>
        rw [converter?_of_rule hany hf]
        obtain ⟨hr, later, earlier, hrules, hlater⟩ := List.find?_eq_some_iff_append.mp hf
        exact .registered hany hrules (by simpa using hlater) hr
      | none =>
        have hno : ∀ r ∈ rules, r.isFor t.normalize = false := by simpa using List.find?_eq_none.mp hf
        cases hu : t.normalize.isUnion with
        | false =>
          rw [converter?_of_plain hany hf hu]
          exact .plain hany hno hu
        | true =>
          obtain ⟨i, w, ts, htn⟩ := TypeForm.exists_of_isUnion hu
          rw [converter?_of_union hany hf htn, ← mapM_choice fun _ _ => rfl]
          refine .union hno htn ?_
          intro u hu
          refine ih _ ?_ u rfl
          have hmem := TypeForm.weight_lt_of_mem hu
          have hlt := TypeForm.weights_lt_of_normalize htn
          omega

/-- **A type has the converter that is chosen for it**, and no other is. -/
theorem converter?_eq_iff : st.converter? rules t = c ↔ st.Chooses rules t c := by
  constructor
  · rintro rfl
    exact chooses_converter? st rules t
  · intro h
    induction h with
    | anything hany => exact converter?_of_isAny hany
    | registered hany hrules hlater hr =>
      refine converter?_of_rule hany (List.find?_eq_some_iff_append.mpr ⟨hr, _, _, hrules, ?_⟩)
      intro q hq
      rw [hlater q hq]
      rfl
    | @union t i w ts choice hno htn _ ih =>
      have hany : t.normalize.isAny = false := by rw [htn]; rfl
      rw [converter?_of_union hany (find?_eq_none_of_isFor hno) htn,
        mapM_choice fun u hu => (ih u hu).symm]
    | plain hany hno hu => exact converter?_of_plain hany (find?_eq_none_of_isFor hno) hu

end Store

/-! ## §6  What was made is closed, what is made sees the rules -/

namespace Plan

/-- Whether the value to be set is converted: it is unless its type is pinned, and a pinned number is where it
still has to be widened. -/
def ConvertsValue (p : Plan) : Prop :=
  (pinnedForm p.shape).isAny = true ∨ widening (pinnedForm p.shape) p.descriptor.valueType.normalize = true

/-- Whether the result is converted: for a pinned type that says something, it is where nothing is known of the
member's own type, and a number is where it still has to be widened. -/
def ConvertsResult (p : Plan) : Prop :=
  ∃ t, p.shape.result? = some t ∧ t.normalize.isAny = false ∧
    (p.descriptor.valueType.normalize = .builtin .any ∨
      widening p.descriptor.valueType.normalize t.normalize = true)

/-- **How the conversions of a plan are chosen**: for the types of the arguments, and for the normal form of the
type of the result.  Only a value to be set and a result are ever left as they come. -/
structure ChosenBy (p : Plan) (st : Store) (rules : List Rule) : Prop where
  argument {r : ArgumentStep} : r ∈ p.arguments → (p.operation = .set → p.ConvertsValue) →
    st.Chooses rules r.type r.converter
  argument_kept {r : ArgumentStep} : r ∈ p.arguments → p.operation = .set → ¬ p.ConvertsValue →
    r.converter = none
  result {r : ResultStep} : p.result = some r → p.ConvertsResult →
    st.Chooses rules r.type.normalize r.converter
  result_kept {r : ResultStep} : p.result = some r → ¬ p.ConvertsResult → r.converter = none

variable {st : Store} {rules : List Rule} {p : Plan}

theorem valueConverter?_chosen (h : p.ConvertsValue) :
    st.Chooses rules p.descriptor.valueType (valueConverter? st rules p.descriptor p.shape) := by
  unfold valueConverter?
  split
  · exact Store.chooses_converter? st rules _
  case isFalse hany =>
    have hwidens := h.resolve_left hany
    -- what is widened is one of the numbers, whose normal form it is itself
    have hnormal : p.descriptor.valueType.normalize.normalize = p.descriptor.valueType.normalize :=
      normalize_of_isPromoting (by
        rw [widening, Bool.and_eq_true] at hwidens
        exact hwidens.2)
    rw [if_pos hwidens, converter?_normalize hnormal]
    exact Store.chooses_converter? st rules _

theorem valueConverter?_kept (h : ¬ p.ConvertsValue) :
    valueConverter? st rules p.descriptor p.shape = none := by
  rw [valueConverter?, if_neg fun hany => h (.inl hany), if_neg fun hwidens => h (.inr hwidens)]

theorem resultConverter?_chosen (h : p.ConvertsResult) :
    st.Chooses rules (p.shape.result?.getD (.builtin .any)).normalize
      (resultConverter? st rules p.descriptor p.shape) := by
  obtain ⟨t, ht, hany, hconverts⟩ := h
  rw [resultConverter?, ht]
  dsimp only
  rw [if_neg (by simp [hany]), if_pos hconverts]
  exact Store.chooses_converter? st rules _

theorem resultConverter?_kept (h : ¬ p.ConvertsResult) :
    resultConverter? st rules p.descriptor p.shape = none := by
  unfold resultConverter?
  cases ht : p.shape.result? with
  | none => rfl
  | some t =>
    dsimp only
    split
    · rfl
    case isFalse hany =>
      rw [if_neg fun hconverts => h ⟨t, ht, by simpa using hany, hconverts⟩]

end Plan

/-- What was built has the conversions that are chosen by the rules of the session. -/
theorem Engine.Built.chosenBy {σ : Session} {d : MemberDescriptor} {s : Shape} {a : Accessor}
    (h : Built σ d s a) : a.plan.ChosenBy σ.store σ.rules := by
  obtain ⟨arguments, result, harguments, hresult, hplan⟩ := exists_of_synthesize h.plan
  have hset : a.plan.operation = .set ↔ s.family = .set := by
    rw [h.operation]
    cases s.family <;> decide
  have hd : a.plan.descriptor = d := by rw [hplan]
  have hs : a.plan.shape = s := by rw [hplan]
  have hr : a.plan.arguments = arguments := by rw [hplan]
  have hparameters {r : ArgumentStep} {name : Nat → String}
      (hr : r ∈ Plan.parameterSteps σ.store σ.rules d name) :
      σ.store.Chooses σ.rules r.type r.converter := by
    obtain ⟨⟨t, i⟩, -, rfl⟩ := List.mem_map.mp hr
    exact Store.chooses_converter? _ _ t
  have hstep {r : ResultStep} (hr : a.plan.result = some r) :
      r = ⟨s.result?.getD (.builtin .any), Plan.resultConverter? σ.store σ.rules d s⟩ := by
    rw [hplan] at hr
    obtain rfl : result = some r := hr
    split at hresult
    case isTrue =>
      cases hstep : Plan.resultStep σ.store σ.rules d s with
      | error f =>
        rw [hstep] at hresult
        cases hresult
      | ok step =>
        rw [hstep] at hresult
        obtain rfl := Option.some.inj (Except.ok.inj hresult)
        exact Plan.resultStep_eq hstep
    case isFalse => cases hresult
  refine ⟨fun {r} hmem hconverts => ?_, fun {r} hmem hop hkept => ?_, fun {r} hres hconverts => ?_,
    fun {r} hres hkept => ?_⟩
  · rw [hr] at hmem
    cases Plan.argumentSteps_cases harguments with
    | sequence | parameters => exact hparameters hmem
    | value hfamily =>
      obtain rfl := List.mem_singleton.mp hmem
      have hchosen : σ.store.Chooses σ.rules _ _ := Plan.valueConverter?_chosen (hconverts (hset.mpr hfamily))
      rwa [hd, hs] at hchosen
  · rw [hr] at hmem
    cases Plan.argumentSteps_cases harguments with
    | sequence hfamily =>
      rw [hset.mp hop] at hfamily
      cases hfamily
    | parameters _ hfamily => exact absurd (hset.mp hop) hfamily
    | value hfamily =>
      obtain rfl := List.mem_singleton.mp hmem
      have hnone : Plan.valueConverter? σ.store σ.rules _ _ = none := Plan.valueConverter?_kept hkept
      rwa [hd, hs] at hnone
  · have hchosen : σ.store.Chooses σ.rules _ _ := Plan.resultConverter?_chosen hconverts
    rw [hstep hres]
    rwa [hd, hs] at hchosen
  · have hnone : Plan.resultConverter? σ.store σ.rules _ _ = none := Plan.resultConverter?_kept hkept
    rw [hstep hres]
    rwa [hd, hs] at hnone

namespace Engine

variable {σ : Session} {i : Nat} {a : Accessor}

/-- What a call of the accessor of a number comes to in a session, and the objects afterwards, where the
objects were in a given state. -/
def callIn (σ : Session) (st : Store) (i : Nat) (arguments : List Value) : Outcome Value × Store :=
  let (r, σ') := (callAccessor i arguments).run.run { σ with store := st }
  (r, σ'.store)

theorem run_accessor (ha : σ.accessors[i]? = some a) : (accessor i).run.run σ = (.ok a, σ) := by
  change (Except.ok (σ.accessors[i]?.getD default), σ) = _
  rw [ha]
  rfl

/-- A call depends on the accessor, on the objects and on the rules that code can find in the library, and on
nothing else of the session. -/
theorem callIn_eq (ha : σ.accessors[i]? = some a) (st : Store) (arguments : List Value) :
    callIn σ st i arguments = (a.call arguments).perform σ.runner st := by
  have haccessor : (accessor i).run.run { σ with store := st } = (.ok a, { σ with store := st }) :=
    run_accessor ha
  have hact : (act (a.call arguments)).run.run { σ with store := st } =
      (((a.call arguments).perform σ.runner st).1,
        { σ with store := ((a.call arguments).perform σ.runner st).2 }) := rfl
  rw [callIn, callAccessor, run_bind_ok haccessor, hact]

/-- **Accessors are closed, unless a rule that they hold turns to the library.**  After any sequence of uses
of the library a call of an accessor that there was before comes to what it came to then, with the same
arguments and objects.  The rules that were registered stand in front of those that there were, the latest
first; every type has the converter that is chosen by these rules, for unions at every depth; and whatever
is built then has the conversions that are chosen by them. -/
theorem accessors_are_closed (ha : σ.accessors[i]? = some a)
    (hrules : ∀ q, a.plan.Holds q → q.1.KeepsToItself) (us : List LibraryUse) :
    (∀ st arguments, callIn (LibraryUse.afterAll σ us) st i arguments = callIn σ st i arguments) ∧
    (LibraryUse.afterAll σ us).rules = LibraryUse.registered us ++ σ.rules ∧
    (∀ t c, (LibraryUse.afterAll σ us).store.converter? (LibraryUse.afterAll σ us).rules t = c ↔
      (LibraryUse.afterAll σ us).store.Chooses (LibraryUse.registered us ++ σ.rules) t c) ∧
    ∀ d s n σ', (build (.proper d) (.proper s)).run.run (LibraryUse.afterAll σ us) = (.ok n, σ') →
      ∃ b, σ'.accessors[n]? = some b ∧
        b.plan.ChosenBy (LibraryUse.afterAll σ us).store (LibraryUse.registered us ++ σ.rules) := by
  obtain ⟨hkept, hregistered⟩ := @LibraryUse.afterAll_keeps σ us
  refine ⟨?_, hregistered, ?_, ?_⟩
  · intro st arguments
    have hagrees : (LibraryUse.afterAll σ us).runner.Agrees σ.runner :=
      Runner.agrees_serving.trans Runner.agrees_serving.symm
    have halike : Action.RunsAlike (LibraryUse.afterAll σ us).runner σ.runner (a.call arguments) :=
      Accessor.keeps_call hagrees fun q hq v place => hrules q hq _ _ hagrees q.2 v place
    rw [callIn_eq ha, callIn_eq (hkept i _ ha)]
    exact (halike st trivial).1
  · intro t c
    rw [← hregistered]
    exact Store.converter?_eq_iff
  · intro d s n σ' hrun
    obtain ⟨_, b, -, -, hb⟩ := made_of_build hrun
    rw [← hregistered]
    exact ⟨b, hb, (built_of_run hrun hb).chosenBy⟩

end Engine

/-! ## §7  Floats that have to be desks -/

namespace Desks

open MemberAccess.Engine MemberAccess.Action

/-- Desks have a static method that gives back its argument, which is declared a float, and are put into a field
of their own. There is one desk. -/
def world : Store :=
  { Store.empty with
    classes := #[
      { (default : ClassInfo) with
        name := "Desk"
        qualifiedName := "Desk"
        bases := [.builtin .object]
        lineage := [.user 0, .builtin .object]
        hasFields := true }]
    functions := #[
      { (default : Function) with
        name := "take"
        qualifiedName := "Desk.take"
        parameters := [⟨"x", .positional, some (.builtin .float), none⟩]
        body := .statements [.result (.variable "x")] }]
    objects := #[⟨.user 0, .plain, [], []⟩] }

/-- The static method. -/
def take : MemberDescriptor :=
  { MemberDescriptor.bare .method (.cls (.user 0)) "take" with
    parameters := [.builtin .float]
    isStatic := true
    target := .routine (.user 0) }

/-- The shape of a static method of one argument. -/
def shape : Shape :=
  { family := .func
    arity := 1
    receiver := .none
    result? := none
    nonPublic := true
    arity_le := Meters.one_le_maxArity }

/-- The plan of an accessor of the method where a rule is for floats. -/
def plan (r : Rule) : Plan :=
  { descriptor := take
    shape := shape
    operation := .call
    receiver := none
    arguments := [⟨0, "arg0", .builtin .float, some (.rule r (.builtin .float))⟩]
    result := some ⟨.builtin .any, none⟩
    arrayArity := none }

/-- The method gets an accessor that holds the rule. -/
theorem built_take {r : Rule} (hr : r.isFor (.builtin .float) = true) : ∃ n σ a,
    (build (.proper take) (.proper shape)).run.run { Session.start world with rules := [r] } = (.ok n, σ) ∧
      σ.accessors[n]? = some a ∧ σ.rules = [r] ∧ a.plan = plan r ∧ a.subject = .target (.routine (.user 0)) := by
  have hcheck : (Contract.check world take shape).run.run .empty = (.ok (), .empty) := rfl
  have hfloat : world.converter? [r] (.builtin .float) = some (.rule r (.builtin .float)) :=
    Store.converter?_of_rule rfl (List.find?_cons_of_pos hr)
  have hparameters : Plan.parameterSteps world [r] take Plan.argumentName =
      [⟨0, "arg0", .builtin .float, world.converter? [r] (.builtin .float)⟩] := rfl
  have hunpinned : Plan.unpinned world [r] take shape = plan r := by
    change { plan r with arguments := Plan.parameterSteps world [r] take Plan.argumentName } = plan r
    rw [hparameters, hfloat]
    rfl
  have hdefect : (plan r).defect? world = none := by
    have hname : (plan r).functionName world = "Desk_take_func1" := by
      change (plan default).functionName world = _
      decide +kernel
    have hfile : take.namesFile world = true := by decide +kernel
    exact Plan.defect?_eq_none hname hfile rfl (by decide +kernel) (Text.normalForm_of_plain (by decide +kernel))
      (.inl nofun)
  have hplan : Plan.synthesize world [r] take shape = .ok (plan r) := by
    rw [← hunpinned]
    exact Plan.synthesize_of_unpinned rfl
  obtain ⟨n, σ, a, hrun, ha, hplan, hsubject⟩ :=
    exists_build (σ := { Session.start world with rules := [r] }) hcheck hplan hdefect
  refine ⟨n, σ, a, hrun, ha, rules_of_build hrun, hplan, ?_⟩
  rw [hsubject]
  rfl

/-- A call converts the argument by the rule and hands it to the method. -/
theorem call_take {a : Accessor} {r : Rule} (ho : a.Orderly) (hplan : a.plan = plan r)
    (hsubject : a.subject = .target (.routine (.user 0))) {v : Value} {run : Runner} {st : Store} :
    (a.call [v]).perform run st =
      (r.convert (.builtin .float) v "arg0" >>= fun x => (Value.routine (.user 0)).call [x]).perform run st := by
  have hinspect : (a.inspect [v]).perform run st = (.ok (), st) := by
    rw [Accessor.inspect, hplan]
    rfl
  have happroach : (a.approach [v]).perform run st = (.ok (.routine (.user 0)), st) := by
    rw [Accessor.approach, Accessor.holder, hsubject]
    rfl
  have hconversions : a.conversions [v] = r.convert (.builtin .float) v "arg0" >>= fun x => return [x] := by
    have hconverted : a.converted = [⟨0, "arg0", .builtin .float, some (.rule r (.builtin .float))⟩] := by
      rw [Accessor.converted, hsubject, hplan]
      rfl
    have hstep : a.convertStep [v] ⟨0, "arg0", .builtin .float, some (.rule r (.builtin .float))⟩ =
        r.convert (.builtin .float) v "arg0" := by
      rw [Accessor.convertStep, Accessor.supplied, hplan]
      rfl
    rw [Accessor.conversions, hconverted, List.mapM_cons, hstep]
    rfl
  rw [ho.perform_call_eq_phases (by rw [hplan]; rfl), perform_bind_ok hinspect, perform_bind_ok happroach,
    hconversions, bind_assoc]
  refine perform_bind_congr ?_
  intro x st' _
  have hfinish : Accessor.finish a.plan = pure := by
    funext y
    rw [Accessor.finish, hplan]
    rfl
  have hcomplete : a.complete (.routine (.user 0)) [x] = (Value.routine (.user 0)).call [x] := by
    unfold Accessor.complete
    rw [hsubject]
  rw [pure_bind, hcomplete, hfinish, bind_pure]

/-- The method gives back what it is handed, whatever the library. -/
theorem call_function {x : Value} {rules : List Rule} :
    ((Value.routine (.user 0)).call [x]).perform ((runFunction callDepth).serving rules callDepth) world =
      (.ok x, world) := by
  have hagrees : ((runFunction callDepth).serving rules callDepth).Agrees (runFunction callDepth) :=
    Runner.agrees_serving
  have halike : Action.RunsAlike ((runFunction callDepth).serving rules callDepth) (runFunction callDepth)
      ((Value.routine (.user 0)).call [x]) := Value.keeps_call hagrees.upholdsAlike
  refine (halike world trivial).1.trans ?_
  rfl

/-- Floats have to be desks. -/
def demanding : Rule := .wrapping [.builtin .float] [] (.cls (.user 0)) "Desk"

/-- Floats are left to what the library has for integers, when they come. -/
def deferring : Rule := .deferring [.builtin .float] (.builtin .int)

/-- Integers have to be desks. -/
def later : Rule := .wrapping [.builtin .int] [] (.cls (.user 0)) "Desk"

/-- A rule for integers is registered, the accessor is asked for again, a compilation fails, and the counts are
reset. -/
def laterUses : List LibraryUse :=
  [.register later, .request 0 (.proper take) (.proper shape), .build .missing .missing, .stats 0 true]

theorem holds_plan {r : Rule} {q : Rule × TypeForm} (h : (plan r).Holds q) : q = (r, .builtin .float) := by
  cases h with
  | argument ha hc hq =>
    obtain rfl := List.mem_singleton.mp ha
    cases hc
    simpa [Converter.held] using hq
  | result hr hc _ =>
    cases hr
    cases hc

theorem convert_demanding {place : String} {t : TypeForm} {run : Runner} :
    (demanding.convert t (.object 0) place).perform run world = (.ok (.object 0), world) := rfl

/-- An accessor that was made when floats had to be desks takes a desk as before, and integers have to be desks in
what is built from now on. -/
theorem desk_is_taken_as_before :
    ∃ n σ, (build (.proper take) (.proper shape)).run.run { Session.start world with rules := [demanding] } =
        (.ok n, σ) ∧
      (callIn (LibraryUse.afterAll σ laterUses) world n [.object 0]) = (.ok (.object 0), world) ∧
      (LibraryUse.afterAll σ laterUses).store.converter? (LibraryUse.afterAll σ laterUses).rules
        (.builtin .int) = some (.rule later (.builtin .int)) := by
  obtain ⟨n, σ, a, hrun, ha, hrules, hplan, hsubject⟩ := built_take (r := demanding) rfl
  have hown : ∀ q, a.plan.Holds q → q.1.KeepsToItself := by
    intro q hq
    rw [hplan] at hq
    rw [holds_plan hq]
    exact (Rule.keepsToItself_wrapping : demanding.KeepsToItself)
  obtain ⟨hcalls, -, hchoice, -⟩ := accessors_are_closed ha hown laterUses
  refine ⟨n, σ, hrun, ?_, ?_⟩
  · rw [hcalls, callIn_eq ha, call_take (built_of_run hrun ha).orderly hplan hsubject,
      perform_bind_ok convert_demanding]
    exact call_function
  · have hregistered : LibraryUse.registered laterUses ++ σ.rules = [] ++ later :: σ.rules := rfl
    exact (hchoice _ _).mpr (.registered rfl hregistered nofun (by decide))

/-- The field that desks are put into. -/
def top : MemberDescriptor :=
  { MemberDescriptor.bare .field (.cls (.user 0)) "top" with
    valueType := .cls (.user 0)
    writable := true }

/-- The shape of a setter for desks. -/
def pinned : Shape := .setter none (some (.cls (.user 0))) true

/-- Desks have to be integers. -/
def refusing : Rule := .wrapping [.cls (.user 0)] [] (.cls (.builtin .int)) "int"

/-- The contract lets desks be set. -/
theorem check_top : (Contract.check world top pinned).run.run .empty = (.ok (), .empty) := by
  have hassignable : Memo.isAssignable world (.cls (.user 0)) top.valueType = pure true :=
    assignableVia_of_passes (.inl rfl)
  have hpinned : (Contract.checkPinned world top pinned).run.run .empty = (.ok (), .empty) := by
    unfold Contract.checkPinned
    simp only [pinned]
    change ((Memo.isAssignable world (.cls (.user 0)) top.valueType >>= _ : Ask Unit).run.run .empty) = _
    rw [hassignable]
    rfl
  exact (Contract.Passed.mk rfl rfl rfl rfl rfl hpinned rfl).check

/-- The setter gets an accessor that takes desks as they come. -/
theorem built_top : ∃ n σ a,
    (build (.proper top) (.proper pinned)).run.run { Session.start world with rules := [refusing] } = (.ok n, σ) ∧
      σ.accessors[n]? = some a ∧ a.plan.arguments = [⟨0, "value", .cls (.user 0), none⟩] := by
  have hcomparable : Comparable top pinned := by
    refine ⟨rfl, rfl, nofun, ?_⟩
    rintro t ⟨⟩
    exact ⟨rfl, .inl rfl⟩
  have hname : (Plan.ofComparable world [refusing] top pinned).functionName world = "Desk_top_set0" := by
    change (Plan.ofComparable world [] top pinned).functionName world = _
    decide +kernel
  have hattribute : top.attributeName = "top" := by decide
  have hdefect : (Plan.ofComparable world [refusing] top pinned).defect? world = none := by
    have hfile : top.namesFile world = true := by decide +kernel
    refine Plan.defect?_eq_none hname hfile rfl (by decide +kernel)
      (Text.normalForm_of_plain (by decide +kernel)) (.inr ?_)
    change top.attributeName ≠ _
    rw [hattribute]
    decide
  obtain ⟨n, σ, a, hrun, ha, hplan, -⟩ := exists_build (σ := { Session.start world with rules := [refusing] })
    check_top (Plan.synthesize_ok hcomparable) hdefect
  exact ⟨n, σ, a, hrun, ha, by rw [hplan]; rfl⟩

theorem convert_deferring {v : Value} {t : TypeForm} {place : String} {rules : List Rule} {st : Store} {n : Nat}
    {run : Runner} :
    (deferring.convert t v place).perform (run.serving rules (n + 1)) st =
      (v.coerce rules (.builtin .int) place).perform (run.serving rules n) st := rfl

/-- **An accessor whose rule turns to the library changes with it**, and a setter for a pinned type takes no
notice of a rule for that type. -/
theorem rule_that_defers_is_not_closed :
    (∃ n σ, (build (.proper take) (.proper shape)).run.run { Session.start world with rules := [deferring] } =
        (.ok n, σ) ∧
      callIn σ world n [.int 3] = (.ok (.int 3), world) ∧
      callIn (LibraryUse.after σ (.register later)) world n [.int 3] =
        (.error (.argumentMismatch "arg0" "Desk" "int"), world)) ∧
    ∃ n σ a, (build (.proper top) (.proper pinned)).run.run { Session.start world with rules := [refusing] } =
        (.ok n, σ) ∧
      σ.accessors[n]? = some a ∧ a.plan.arguments = [⟨0, "value", .cls (.user 0), none⟩] ∧
      world.converter? [refusing] (.cls (.user 0)) = some (.rule refusing (.cls (.user 0))) := by
  constructor
  · obtain ⟨n, σ, a, hrun, ha, hrules, hplan, hsubject⟩ := built_take (r := deferring) rfl
    have ha' : (LibraryUse.after σ (.register later)).accessors[n]? = some a := ha
    have ho := (built_of_run hrun ha).orderly
    refine ⟨n, σ, hrun, ?_, ?_⟩
    · have hint : world.converter? [deferring] (.builtin .int) = some .int := by
        rw [Store.converter?_of_plain rfl (by rfl) rfl]
        rfl
      have hconvert : (deferring.convert (.builtin .float) (.int 3) "arg0").perform σ.runner world =
          (.ok (.int 3), world) := by
        rw [Session.runner, hrules]
        refine convert_deferring.trans ?_
        rw [Value.coerce, perform_bind_get, hint]
        rfl
      rw [callIn_eq ha, call_take ho hplan hsubject, perform_bind_ok hconvert]
      exact call_function
    · have hint : world.converter? [later, deferring] (.builtin .int) = some (.rule later (.builtin .int)) :=
        Store.converter?_of_rule rfl (List.find?_cons_of_pos (by decide))
      have hconvert : (deferring.convert (.builtin .float) (.int 3) "arg0").perform
          (LibraryUse.after σ (.register later)).runner world =
            (.error (.argumentMismatch "arg0" "Desk" "int"), world) := by
        have hregistered : (LibraryUse.after σ (.register later)).rules = [later, deferring] :=
          congrArg (later :: ·) hrules
        rw [Session.runner, hregistered]
        refine convert_deferring.trans ?_
        rw [Value.coerce, perform_bind_get, hint]
        rfl
      rw [callIn_eq ha', call_take ho hplan hsubject]
      exact perform_bind_error hconvert
  · obtain ⟨n, σ, a, hrun, ha, harguments⟩ := built_top
    have hdesk : world.converter? [refusing] (.cls (.user 0)) = some (.rule refusing (.cls (.user 0))) :=
      Store.converter?_of_rule rfl (List.find?_cons_of_pos (by decide))
    exact ⟨n, σ, a, hrun, ha, harguments, hdesk⟩

end Desks
end MemberAccess
