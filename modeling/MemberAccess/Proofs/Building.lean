import MemberAccess.Engine.Compile
import MemberAccess.Proofs.EqualAssignability

/-!
# What building an accessor depends on

Building goes through the contract, the plan and the text of the accessor, and each may fail.  What comes
of it depends on the object world, the added rules, the setup and on what the memo says about ancestry,
not on anything else of the session: not on the accessors made before, the caches or the log.
`Engine.verdict` is that outcome, and `run_build` says that building gives it and changes nothing but the
memo, which goes on saying the same, the log, and the accessors, of which there is one more if it
succeeds.
-/

namespace MemberAccess

open Engine

/-! ## §1  Types that can be brought together -/

/-- All types that a member and a shape bring together can be compared, and of two that are compared with
each other at most one stands for a union. -/
structure Comparable (d : MemberDescriptor) (s : Shape) : Prop where
  declaring : d.declaring.comparable = true
  valueType : d.valueType.comparable = true
  base : ∀ t, s.receiver = .typed t →
    t.comparable = true ∧ (t.standsForUnion = false ∨ d.declaring.standsForUnion = false)
  pinned : ∀ t, s.result? = some t →
    t.comparable = true ∧ (t.standsForUnion = false ∨ d.valueType.standsForUnion = false)

/-! ## §2  The contract, with the answers about ancestry at hand -/

namespace Contract

variable {st : Store} {answer : TypeForm → TypeForm → Bool} {d : MemberDescriptor} {s : Shape}

/-- `checkReceiver` with the answers at hand. -/
def receiverFits (answer : TypeForm → TypeForm → Bool) (st : Store) (d : MemberDescriptor) (s : Shape) :
    Outcome Unit := do
  match s.receiver with
  | .typed base =>
      if ← assigns answer base d.declaring then return ()
      else throw (.receiverMismatch (base.typeName st) (d.declaring.typeName st))
  | _ => return ()

/-- `checkPinned` with the answers at hand. -/
def pinnedFits (answer : TypeForm → TypeForm → Bool) (st : Store) (d : MemberDescriptor) (s : Shape) :
    Outcome Unit := do
  match s.result? with
  | none => return ()
  | some t =>
      let fits ← if s.family = .set then assigns answer t d.valueType
        else assigns answer d.valueType t
      if fits then return ()
      else throw (.pinnedMismatch (t.typeName st) d.kind.name (d.valueType.typeName st))

/-- All the checks, in order, with the answers at hand. -/
def holds (answer : TypeForm → TypeForm → Bool) (st : Store) (d : MemberDescriptor) (s : Shape) :
    Outcome Unit := do
  checkFamily st d s
  checkArity st d s
  checkValueKind st d s
  checkStatic d s
  receiverFits answer st d s
  pinnedFits answer st d s
  checkSide st d s

theorem says_liftExcept {α : Type} (r : Outcome α) :
    Ask.Says st answer (liftExcept r : Ask α) r :=
  fun m hm => ⟨m, run_liftExcept r, hm⟩

theorem says_checkReceiver (h : Comparable d s) :
    Ask.Says st answer (checkReceiver st d s) (receiverFits answer st d s) := by
  unfold checkReceiver receiverFits
  cases hr : s.receiver with
  | typed t =>
    refine Ask.says_bind (Memo.says_isAssignable (h.base t hr).1 h.declaring) ?_
    intro b _
    cases b with
    | true => exact Ask.says_pure ()
    | false => exact Ask.says_throw _
  | none | checked => exact Ask.says_pure ()

theorem says_checkPinned (h : Comparable d s) :
    Ask.Says st answer (checkPinned st d s) (pinnedFits answer st d s) := by
  unfold checkPinned pinnedFits
  cases hr : s.result? with
  | none => exact Ask.says_pure ()
  | some t =>
    have ht := (h.pinned t hr).1
    have hfits {q : Ask Bool} {r : Outcome Bool} (hq : Ask.Says st answer q r) :
        Ask.Says st answer (q >>= fun fits => if fits then pure ()
          else throw (.pinnedMismatch (t.typeName st) d.kind.name (d.valueType.typeName st)))
        (r >>= fun fits => if fits then pure ()
          else throw (.pinnedMismatch (t.typeName st) d.kind.name (d.valueType.typeName st))) := by
      refine Ask.says_bind hq ?_
      intro b _
      cases b with
      | true => exact Ask.says_pure ()
      | false => exact Ask.says_throw _
    simp only
    split
    · exact hfits (Memo.says_isAssignable ht h.valueType)
    · exact hfits (Memo.says_isAssignable h.valueType ht)

/-- **The contract is checked as with the answers at hand**, and checking it changes none of them. -/
theorem says_check (h : Comparable d s) :
    Ask.Says st answer (check st d s) (holds answer st d s) :=
  Ask.says_bind (says_liftExcept _) fun _ _ =>
  Ask.says_bind (says_liftExcept _) fun _ _ =>
  Ask.says_bind (says_liftExcept _) fun _ _ =>
  Ask.says_bind (says_liftExcept _) fun _ _ =>
  Ask.says_bind (says_checkReceiver h) fun _ _ =>
  Ask.says_bind (says_checkPinned h) fun _ _ => says_liftExcept _

end Contract

/-! ## §3  The outcome of building -/

/-- A plan whose text has no defect is made ready. -/
theorem Accessor.ofPlan_of_defect? {st : Store} {p : Plan} (listed : Bool) (h : p.defect? st = none) :
    ∃ a, ofPlan st listed p = .ok a ∧ a.plan = p ∧ a.subject = p.subject st := by
  rw [ofPlan, h]
  exact ⟨_, rfl, rfl, rfl⟩

/-- The function of a plan can be made when its file can be named, its text is a function that is kept under
its name, and its shape can be named. -/
theorem Plan.defect?_eq_none_iff {st : Store} {p : Plan} :
    p.defect? st = none ↔ p.descriptor.namesFile st = true ∧ p.isWellFormed st = true ∧
      Text.normalForm (p.functionName st) = p.functionName st ∧ p.shape.isPrintable = true := by
  unfold defect?
  split_ifs <;> simp_all

/-- The text has no defect when its file and its shape can be named, the name of its function is an
identifier in normal form, and nothing is assigned to the one name that nothing is assigned to. -/
theorem Plan.defect?_eq_none {st : Store} {p : Plan} {n : String} (hn : p.functionName st = n)
    (hfile : p.descriptor.namesFile st = true) (hshape : p.shape.isPrintable = true)
    (hid : Text.isIdentifier n = true) (hform : Text.normalForm n = n)
    (hset : p.operation ≠ .set ∨ p.descriptor.attributeName ≠ "__debug__") : p.defect? st = none := by
  have hwell : p.isWellFormed st = true := by
    rw [isWellFormed, hn, hid]
    rcases hset with h | h
    · simp [h]
    · simp [h]
  exact defect?_eq_none_iff.mpr ⟨hfile, hwell, by rw [hn, hform], hshape⟩

/-- An accessor carries out the plan that was made ready. -/
theorem Accessor.of_ofPlan {st : Store} {listed : Bool} {p : Plan} {a : Accessor}
    (h : ofPlan st listed p = .ok a) : a.plan = p ∧ a.subject = p.subject st := by
  unfold ofPlan at h
  split at h
  · cases h
  · cases h
    exact ⟨rfl, rfl⟩

/-- A plan that was made ready has no defect. -/
theorem Accessor.defect?_of_ofPlan {st : Store} {listed : Bool} {p : Plan} {a : Accessor}
    (h : ofPlan st listed p = .ok a) : p.defect? st = none := by
  cases hdefect : p.defect? st with
  | none => rfl
  | some k =>
    rw [ofPlan, hdefect] at h
    cases h

namespace Engine

variable {d : MemberDescriptor} {s : Shape} {σ : Session}

/-- The accessor for a member and a shape that belong together. -/
def made (st : Store) (rules : List Rule) (listsSource : Bool) (d : MemberDescriptor) (s : Shape) :
    Outcome Accessor := do
  Accessor.ofPlan st listsSource (← Plan.synthesize st rules d s)

/-- The accessor for a member and a shape in a session, if they belong together. -/
def madeIn (σ : Session) (d : MemberDescriptor) (s : Shape) : Outcome Accessor :=
  made σ.store σ.rules σ.settings.listsSource d s

/-- What building comes to. -/
def verdict (answer : TypeForm → TypeForm → Bool) (st : Store) (rules : List Rule) (listsSource : Bool)
    (d : MemberDescriptor) (s : Shape) : Outcome Accessor := do
  Contract.holds answer st d s
  made st rules listsSource d s

/-- What building comes to in a session. -/
def verdictIn (σ : Session) (d : MemberDescriptor) (s : Shape) : Outcome Accessor :=
  verdict (σ.memo.answer σ.store) σ.store σ.rules σ.settings.listsSource d s

/-- A session in which what has been built up to now can be asked for, and nothing else that building
depends on has changed. -/
structure SameGrounds (σ σ' : Session) : Prop where
  store : σ'.store = σ.store
  rules : σ'.rules = σ.rules
  settings : σ'.settings = σ.settings
  answer : σ'.memo.answer σ.store = σ.memo.answer σ.store

/-- Where the grounds are the same, building comes to the same. -/
theorem verdictIn_congr {σ σ' : Session} (h : SameGrounds σ σ') (d : MemberDescriptor) (s : Shape) :
    verdictIn σ' d s = verdictIn σ d s := by
  rw [verdictIn, verdictIn, h.store, h.rules, h.settings, h.answer]

theorem run_ask {α : Type} {q : Store → Ask α} {r : Outcome α} {m : Memo}
    (h : (q σ.store).run.run σ.memo = (r, m)) :
    (ask q).run.run σ = (r, { σ with memo := m }) := by
  change (((q σ.store).run.run σ.memo).1, { σ with memo := ((q σ.store).run.run σ.memo).2 }) = _
  rw [h]

/-- A plan that can be made ready becomes one more accessor. -/
theorem run_compilePlan_ok {p : Plan} {a : Accessor}
    (h : Accessor.ofPlan σ.store σ.settings.listsSource p = .ok a) :
    ∃ log, (compilePlan p).run.run σ =
      (.ok σ.accessors.size, { σ with accessors := σ.accessors.push a, log := log }) := by
  unfold compilePlan
  rw [run_bind_ok run_get, h, run_bind_ok (run_liftExcept _), run_bind_ok run_set]
  split
  · exact ⟨_, rfl⟩
  · exact ⟨_, rfl⟩

theorem run_compilePlan_error {p : Plan} {f : Failure}
    (h : Accessor.ofPlan σ.store σ.settings.listsSource p = .error f) :
    (compilePlan p).run.run σ = (.error f, σ) := by
  unfold compilePlan
  rw [run_bind_ok run_get, h, run_bind_error (run_liftExcept _)]

/-- What a plan is made of. -/
theorem exists_of_synthesize {st : Store} {rules : List Rule} {p : Plan}
    (h : Plan.synthesize st rules d s = .ok p) :
    ∃ arguments result, Plan.argumentSteps st rules d s = .ok arguments ∧
      (if s.isValueProducing then some <$> Plan.resultStep st rules d s else pure none) = .ok result ∧
      p = {
        descriptor := d
        shape := s
        operation := s.family.operation
        receiver := Plan.receiverStep d s
        arguments := arguments
        result := result
        arrayArity := if s.family = .constructArray then some d.arity else none } := by
  unfold Plan.synthesize at h
  cases ha : Plan.argumentSteps st rules d s with
  | error f =>
    rw [ha] at h
    cases h
  | ok arguments =>
    rw [ha] at h
    cases hv : s.isValueProducing with
    | false =>
      rw [hv] at h
      cases h
      exact ⟨arguments, none, rfl, rfl, rfl⟩
    | true =>
      rw [hv] at h
      cases hr : Plan.resultStep st rules d s with
      | error f =>
        rw [hr] at h
        cases h
      | ok result =>
        rw [hr] at h
        cases h
        exact ⟨arguments, some result, rfl, rfl, rfl⟩

/-- A plan is made of the steps for the arguments and for the result. -/
theorem synthesize_of_steps {st : Store} {rules : List Rule} {arguments : List ArgumentStep}
    {result : Option ResultStep} (ha : Plan.argumentSteps st rules d s = .ok arguments)
    (hr : (if s.isValueProducing then some <$> Plan.resultStep st rules d s else pure none) = .ok result) :
    Plan.synthesize st rules d s = .ok {
      descriptor := d
      shape := s
      operation := s.family.operation
      receiver := Plan.receiverStep d s
      arguments := arguments
      result := result
      arrayArity := if s.family = .constructArray then some d.arity else none } := by
  unfold Plan.synthesize
  rw [ha]
  cases hv : s.isValueProducing with
  | false =>
    rw [hv] at hr
    cases hr
    rfl
  | true =>
    rw [hv, if_pos rfl] at hr
    cases hstep : Plan.resultStep st rules d s with
    | error f =>
      rw [hstep] at hr
      cases hr
    | ok step =>
      rw [hstep] at hr
      cases hr
      rfl

theorem run_synthesize : (synthesize d s).run.run σ = (Plan.synthesize σ.store σ.rules d s, σ) := by
  unfold synthesize
  rw [run_bind_ok run_get, run_liftExcept]

theorem run_validate {m : Memo} {r : Outcome Unit}
    (h : (Contract.check σ.store d s).run.run σ.memo = (r, m)) :
    (ask fun st => validate st (.proper d) (.proper s)).run.run σ =
      ((fun _ => (d, s)) <$> r, { σ with memo := m }) := by
  refine run_ask ?_
  change (Contract.check σ.store d s >>= fun _ => pure (d, s) : Ask _).run.run σ.memo = _
  cases r with
  | error f => exact run_bind_error h
  | ok u => exact run_bind_ok h

/-- What does not belong together is refused. -/
theorem run_build_refused {m : Memo} {f : Failure}
    (h : (Contract.check σ.store d s).run.run σ.memo = (.error f, m)) :
    (build (.proper d) (.proper s)).run.run σ = (.error f, { σ with memo := m }) := by
  unfold build
  exact run_bind_error (run_validate h)

/-- What belongs together can still have no accessor. -/
theorem run_build_unmade {m : Memo} {f : Failure}
    (h : (Contract.check σ.store d s).run.run σ.memo = (.ok (), m)) (hm : madeIn σ d s = .error f) :
    (build (.proper d) (.proper s)).run.run σ = (.error f, { σ with memo := m }) := by
  unfold build
  rw [run_bind_ok (run_validate h)]
  unfold madeIn made at hm
  cases hp : Plan.synthesize σ.store σ.rules d s with
  | error g =>
    rw [hp] at hm
    cases hm
    exact run_bind_error (run_synthesize.trans (by rw [hp]))
  | ok p =>
    rw [hp] at hm
    rw [run_bind_ok (run_synthesize.trans (by rw [hp]))]
    exact run_compilePlan_error hm

/-- What belongs together and has an accessor gets it as one more of the session. -/
theorem run_build_made {m : Memo} {a : Accessor}
    (h : (Contract.check σ.store d s).run.run σ.memo = (.ok (), m)) (hm : madeIn σ d s = .ok a) :
    ∃ log, (build (.proper d) (.proper s)).run.run σ =
      (.ok σ.accessors.size,
        { σ with memo := m, accessors := σ.accessors.push a, log := log }) := by
  unfold build
  rw [run_bind_ok (run_validate h)]
  unfold madeIn made at hm
  cases hp : Plan.synthesize σ.store σ.rules d s with
  | error g =>
    rw [hp] at hm
    cases hm
  | ok p =>
    rw [hp] at hm
    rw [run_bind_ok (run_synthesize.trans (by rw [hp]))]
    exact run_compilePlan_ok hm

/-- **What is built** has passed the contract, could be made, and stands in the session under the number that
is given. -/
theorem made_of_build {σ₁ : Session} {n : Nat}
    (hrun : (build (.proper d) (.proper s)).run.run σ = (.ok n, σ₁)) :
    ∃ m a, (Contract.check σ.store d s).run.run σ.memo = (.ok (), m) ∧ madeIn σ d s = .ok a ∧
      σ₁.accessors[n]? = some a := by
  rcases hc : (Contract.check σ.store d s).run.run σ.memo with ⟨f | u, m⟩
  · rw [run_build_refused hc] at hrun
    cases hrun
  · cases hm : madeIn σ d s with
    | error f =>
      rw [run_build_unmade hc hm] at hrun
      cases hrun
    | ok a =>
      obtain ⟨log, hmade⟩ := run_build_made hc hm
      rw [hmade] at hrun
      cases hrun
      exact ⟨m, a, rfl, rfl, by simp⟩

/-- What is made is a plan made ready. -/
theorem exists_plan_of_madeIn {a : Accessor} (h : madeIn σ d s = .ok a) :
    ∃ p, Plan.synthesize σ.store σ.rules d s = .ok p ∧
      Accessor.ofPlan σ.store σ.settings.listsSource p = .ok a := by
  unfold madeIn made at h
  cases hp : Plan.synthesize σ.store σ.rules d s with
  | error f =>
    rw [hp] at h
    cases h
  | ok p =>
    rw [hp] at h
    exact ⟨p, rfl, h⟩

/-- An accessor is built where the checks pass and the plan has no defect. -/
theorem exists_build {m : Memo} {p : Plan}
    (hc : (Contract.check σ.store d s).run.run σ.memo = (.ok (), m))
    (hp : Plan.synthesize σ.store σ.rules d s = .ok p) (hdefect : p.defect? σ.store = none) :
    ∃ n σ' a, (build (.proper d) (.proper s)).run.run σ = (.ok n, σ') ∧ σ'.accessors[n]? = some a ∧
      a.plan = p ∧ a.subject = p.subject σ.store := by
  obtain ⟨a, ha, hplan, hsubject⟩ := Accessor.ofPlan_of_defect? σ.settings.listsSource hdefect
  have hmade : madeIn σ d s = .ok a := by
    rw [madeIn, made, hp]
    exact ha
  obtain ⟨log, hrun⟩ := run_build_made hc hmade
  exact ⟨_, _, a, hrun, by simp, hplan, hsubject⟩

/-- What was built had passed the contract, and its plan has no defect. -/
theorem passed_of_build {σ₁ : Session} {a : Accessor} {n : Nat}
    (hrun : (build (.proper d) (.proper s)).run.run σ = (.ok n, σ₁))
    (ha : σ₁.accessors[n]? = some a) :
    (∃ m, (Contract.check σ.store d s).run.run σ.memo = (.ok (), m)) ∧
      a.plan.defect? σ.store = none := by
  obtain ⟨m, b, hc, hm, hb⟩ := made_of_build hrun
  obtain rfl : b = a := Option.some.inj (hb.symm.trans ha)
  obtain ⟨p, -, hofPlan⟩ := exists_plan_of_madeIn hm
  refine ⟨⟨m, hc⟩, ?_⟩
  rw [(Accessor.of_ofPlan hofPlan).1]
  exact Accessor.defect?_of_ofPlan hofPlan

/-- **What building leaves alone**: everything but the memo, the accessors and the log. -/
theorem exists_of_build {r : Outcome Nat} {σ' : Session}
    (h : (build (.proper d) (.proper s)).run.run σ = (r, σ')) :
    ∃ accessors log, σ' = { σ with
      memo := ((Contract.check σ.store d s).run.run σ.memo).2
      accessors := accessors
      log := log } := by
  rcases hc : (Contract.check σ.store d s).run.run σ.memo with ⟨f | u, m⟩
  · rw [run_build_refused hc] at h
    cases h
    exact ⟨_, _, rfl⟩
  · cases hm : madeIn σ d s with
    | error f =>
      rw [run_build_unmade hc hm] at h
      cases h
      exact ⟨_, _, rfl⟩
    | ok a =>
      obtain ⟨log, hrun⟩ := run_build_made hc hm
      rw [hrun] at h
      cases h
      exact ⟨_, _, rfl⟩

/-- **Building gives its verdict**: a failure, or the number of a new accessor.  The grounds of further
verdicts and the caches stay what they are. -/
theorem run_build (σ : Session) (h : Comparable d s) :
    (∃ f σ', verdictIn σ d s = .error f ∧
      (build (.proper d) (.proper s)).run.run σ = (.error f, σ') ∧ SameGrounds σ σ' ∧
      σ'.caches = σ.caches ∧ σ'.accessors = σ.accessors) ∨
    ∃ a σ', verdictIn σ d s = .ok a ∧
      (build (.proper d) (.proper s)).run.run σ = (.ok σ.accessors.size, σ') ∧ SameGrounds σ σ' ∧
      σ'.caches = σ.caches ∧ σ'.accessors = σ.accessors.push a := by
  have hsays : Ask.Says σ.store (σ.memo.answer σ.store) (Contract.check σ.store d s)
      (Contract.holds (σ.memo.answer σ.store) σ.store d s) := Contract.says_check h
  obtain ⟨m, hask, hm⟩ := hsays σ.memo rfl
  have hverdict : verdictIn σ d s =
      (Contract.holds (σ.memo.answer σ.store) σ.store d s >>= fun _ => madeIn σ d s) := rfl
  cases hc : Contract.holds (σ.memo.answer σ.store) σ.store d s with
  | error f =>
    rw [hc] at hask hverdict
    exact .inl ⟨f, _, hverdict, run_build_refused hask, ⟨rfl, rfl, rfl, hm⟩, rfl, rfl⟩
  | ok u =>
    rw [hc] at hask hverdict
    cases hmade : madeIn σ d s with
    | error f =>
      rw [hmade] at hverdict
      exact .inl ⟨f, _, hverdict, run_build_unmade hask hmade, ⟨rfl, rfl, rfl, hm⟩, rfl, rfl⟩
    | ok a =>
      rw [hmade] at hverdict
      obtain ⟨log, hrun⟩ := run_build_made hask hmade
      exact .inr ⟨a, _, hverdict, hrun, ⟨rfl, rfl, rfl, hm⟩, rfl, rfl⟩

end Engine
end MemberAccess
