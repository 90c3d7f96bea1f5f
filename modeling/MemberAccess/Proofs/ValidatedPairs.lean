import MemberAccess.Proofs.AccessorNames
import MemberAccess.Proofs.CallPhases

/-!
# Building what belongs together

Building an accessor starts with the contract, and what the contract refuses is refused in the same words.
What the contract accepts still has to be planned and made ready.  Five things are left that can fail
there, and `Plan.obstacle?` lists them: a pinned type that cannot be compared because no table can hold it,
a class or member that no file can be named after, an assignment to the one name that nothing is assigned
to, the name of the function, and a type that cannot be named in the description.  Nothing else can
(`Engine.build_eq_validate_or_obstacle`), and what is built takes the arguments that the shape says.

None of them is there where the types can be kept in tables and named and the names are plain
(`Plan.obstacle?_of_plain`).
-/

namespace MemberAccess

open MemberAccess.Action

/-! ## §1  Pinned types that cannot be compared -/

namespace Plan

/-- Whether types fail to say if a value of the one has to be widened for the other: a type that differs
from the other is looked up in a table of numbers, and so is the other if it is found. -/
def failsToCompare (source target : TypeForm) : Bool :=
  source != target && (!source.hashable || source.isPromoting && !target.hashable)

/-- The two types that a pin brings together, what is there and what is wanted; there are none where there
is no pin or one of them says nothing. -/
def comparedTypes? (d : MemberDescriptor) (s : Shape) : Option (TypeForm × TypeForm) :=
  match s.result? with
  | none => none
  | some t =>
      if t.normalize.isAny then none
      else if s.family = .set then some (t.normalize, d.valueType.normalize)
      else if s.isValueProducing && d.valueType.normalize != .builtin .any then
        some (d.valueType.normalize, t.normalize)
      else none

/-- Whether a pin brings types together that cannot be compared. -/
def hasUncomparablePin (d : MemberDescriptor) (s : Shape) : Bool :=
  match comparedTypes? d s with
  | some (source, target) => failsToCompare source target
  | none => false

variable {st : Store} {rules : List Rule} {d : MemberDescriptor} {s : Shape}

/-- A part of planning that fails in one case and in no other. -/
def FailsIff {α : Type} (inCase : Bool) (r : Outcome α) : Prop :=
  if inCase then r = .error (.fault .typeError) else ∃ a, r = .ok a

theorem failsIff_ok {α : Type} (a : α) : FailsIff false (.ok a) := ⟨a, rfl⟩

/-- What goes on without failing fails where its first part does. -/
theorem FailsIff.bind {α β : Type} {inCase : Bool} {r : Outcome α} {k : α → Outcome β}
    (h : FailsIff inCase r) (hk : ∀ a, ∃ b, k a = .ok b) : FailsIff inCase (r >>= k) := by
  cases inCase with
  | true =>
    change r = _ at h
    rw [h]
    rfl
  | false =>
    obtain ⟨a, ha⟩ := h
    rw [ha]
    exact hk a

theorem failsIff_needsWidening (source target : TypeForm) :
    FailsIff (failsToCompare source target) (needsWidening source target) := by
  unfold needsWidening failsToCompare widens
  by_cases heq : source = target
  · rw [if_pos heq, bne_eq_false_iff_eq.mpr heq]
    exact failsIff_ok false
  rw [if_neg heq, bne_iff_ne.mpr heq]
  cases source.hashable with
  | false => rfl
  | true =>
    cases source.isPromoting with
    | false => exact failsIff_ok false
    | true =>
      cases target.hashable with
      | false => rfl
      | true => exact failsIff_ok _

/-! ## §2  Planning -/

/-- The step for a value to be set fails exactly where the pinned type cannot be compared. -/
theorem failsIff_valueStep (hset : s.family = .set) :
    FailsIff (hasUncomparablePin d s) (valueStep st rules d s) := by
  unfold hasUncomparablePin comparedTypes? valueStep
  cases s.result? with
  | none => exact failsIff_ok _
  | some t =>
    simp only [Option.map_some, Option.getD_some]
    by_cases hany : t.normalize.isAny = true
    · rw [if_pos hany, if_pos hany]
      exact failsIff_ok _
    rw [if_neg hany, if_neg hany, if_pos hset]
    exact (failsIff_needsWidening _ _).bind fun b => by cases b <;> exact ⟨_, rfl⟩

/-- So does the step for the result. -/
theorem failsIff_resultStep (hvalue : s.isValueProducing = true) :
    FailsIff (hasUncomparablePin d s) (resultStep st rules d s) := by
  have hset : s.family ≠ .set := by
    intro hset
    simp [Shape.isValueProducing, Family.isValueProducing, hset] at hvalue
  unfold hasUncomparablePin comparedTypes? resultStep
  cases s.result? with
  | none => exact failsIff_ok _
  | some t =>
    simp only
    by_cases hany : t.normalize.isAny = true
    · rw [if_pos hany, if_pos hany]
      exact failsIff_ok _
    rw [if_neg hany, if_neg hany, if_neg hset, hvalue]
    by_cases hunknown : d.valueType.normalize = .builtin .any
    · rw [if_pos hunknown, bne_eq_false_iff_eq.mpr hunknown]
      exact failsIff_ok _
    · rw [if_neg hunknown, bne_iff_ne.mpr hunknown]
      exact (failsIff_needsWidening _ _).bind fun b => by cases b <;> exact ⟨_, rfl⟩

/-- A shape that gives no value and sets none compares nothing. -/
theorem hasUncomparablePin_of_action (hset : s.family ≠ .set) (hvalue : s.isValueProducing = false) :
    hasUncomparablePin d s = false := by
  unfold hasUncomparablePin comparedTypes?
  cases s.result? with
  | none => rfl
  | some t => simp [hset, hvalue]

/-- **A plan can be made exactly where the pinned type can be compared.** -/
theorem failsIff_synthesize : FailsIff (hasUncomparablePin d s) (synthesize st rules d s) := by
  unfold synthesize
  by_cases hset : s.family = .set
  · have hvalue : s.isValueProducing = false := by
      simp [Shape.isValueProducing, Family.isValueProducing, hset]
    have harguments : argumentSteps st rules d s = (do return [← valueStep st rules d s]) := by
      rw [argumentSteps, if_neg (by simp [hset]), if_pos hset]
    rw [harguments, hvalue]
    exact ((failsIff_valueStep hset).bind fun r => ⟨_, rfl⟩).bind fun rs => ⟨_, rfl⟩
  · obtain ⟨rs, hrs⟩ : ∃ rs, argumentSteps st rules d s = .ok rs := by
      unfold argumentSteps
      simp only [hset, if_false]
      split <;> exact ⟨_, rfl⟩
    rw [hrs]
    cases hvalue : s.isValueProducing with
    | true =>
      have hresult : FailsIff (hasUncomparablePin d s) (some <$> resultStep st rules d s) := by
        rw [map_eq_pure_bind]
        exact (failsIff_resultStep hvalue).bind fun r => ⟨_, rfl⟩
      exact hresult.bind fun r => ⟨_, rfl⟩
    | false =>
      rw [hasUncomparablePin_of_action hset hvalue]
      exact failsIff_ok _

/-! ## §3  What is left to fail -/

/-- What keeps a member and a shape that belong together from having an accessor. -/
def obstacle? (st : Store) (d : MemberDescriptor) (s : Shape) : Option ErrorKind :=
  if hasUncomparablePin d s then some .typeError
  else if !d.namesFile st then some .valueError
  else if s.family = .set ∧ d.attributeName = "__debug__" then some .syntaxError
  else (nameDefect? st d).or (if s.isPrintable then none else some .valueError)

/-- A setter is no call of a target: the contract lets it set fields and properties only. -/
theorem subject_of_set {p : Plan} (hfamily : Contract.checkFamily st d s = .ok ())
    (hp : synthesize st rules d s = .ok p) (hset : s.family = .set) (v : Value) :
    p.subject st ≠ .target v := by
  obtain ⟨rs, result, -, -, rfl⟩ := Engine.exists_of_synthesize hp
  have hadmits := Engine.admits_of_checkFamily hfamily
  have hmethod : d.kind ≠ .method := by
    intro hmethod
    rw [hset, hmethod] at hadmits
    cases hadmits
  intro h
  unfold subject at h
  simp only [hset, Family.operation, reduceCtorEq, if_false, hmethod] at h
  split at h <;> cases h

/-- A plan for what belongs together has no defect but those that are obstacles. -/
theorem defect?_of_synthesize {p : Plan} (hfamily : Contract.checkFamily st d s = .ok ())
    (hp : synthesize st rules d s = .ok p) :
    p.defect? st =
      if !d.namesFile st then some .valueError
      else if s.family = .set ∧ d.attributeName = "__debug__" then some .syntaxError
      else (nameDefect? st d).or (if s.isPrintable then none else some .valueError) := by
  have hplan : p.operation = s.family.operation ∧ p.descriptor = d ∧ p.shape = s := by
    obtain ⟨rs, result, -, -, rfl⟩ := Engine.exists_of_synthesize hp
    exact ⟨rfl, rfl, rfl⟩
  rw [defect?_eq, hplan.1, hplan.2.1, hplan.2.2]
  by_cases hset : s.family = .set
  · cases hsubject : p.subject st with
    | target v => exact absurd hsubject (subject_of_set hfamily hp hset v)
    | owner v | receiver => simp [hset, Family.operation]
  · have hoperation : s.family.operation ≠ .set := by
      cases hf : s.family <;> first | exact absurd hf hset | simp [Family.operation]
    simp [hset, hoperation]

/-- **What belongs together is made, unless there is an obstacle.** -/
theorem made_outcome (rules : List Rule) (listed : Bool) (hfamily : Contract.checkFamily st d s = .ok ()) :
    match obstacle? st d s with
    | some k => Engine.made st rules listed d s = .error (.fault k)
    | none => ∃ a, Engine.made st rules listed d s = .ok a := by
  have hplan : FailsIff (hasUncomparablePin d s) (synthesize st rules d s) := failsIff_synthesize
  unfold obstacle? Engine.made
  cases hpin : hasUncomparablePin d s with
  | true =>
    rw [hpin] at hplan
    change synthesize st rules d s = _ at hplan
    rw [hplan]
    rfl
  | false =>
    rw [hpin] at hplan
    obtain ⟨p, hp⟩ := hplan
    rw [if_neg Bool.false_ne_true, ← defect?_of_synthesize hfamily hp, hp]
    cases hdefect : p.defect? st with
    | some k =>
      change Accessor.ofPlan st listed p = _
      rw [Accessor.ofPlan, hdefect]
    | none =>
      obtain ⟨a, ha, -⟩ := Accessor.ofPlan_of_defect? listed hdefect
      exact ⟨a, ha⟩

/-- **Types that tables can hold and that can be named, and plain names, leave no obstacle**, except to setting
the one name that nothing is assigned to. -/
theorem obstacle?_of_plain (hprintable : s.isPrintable = true) (hfile : d.namesFile st = true)
    (hpin : ∀ t, s.result? = some t → t.normalize.hashable = true)
    (hvalue : d.valueType.normalize.hashable = true)
    (hnames : ∀ c ∈ (ownerName st d.declaring).toList ++ d.name.toList, Text.IsPlain c)
    (hset : s.family = .set → d.attributeName ≠ "__debug__") : obstacle? st d s = none := by
  have hcompared : hasUncomparablePin d s = false := by
    unfold hasUncomparablePin comparedTypes?
    cases hr : s.result? with
    | none => rfl
    | some t =>
      have ht := hpin t hr
      simp only
      split_ifs <;> simp [failsToCompare, ht, hvalue]
  rw [obstacle?, hcompared, nameDefect?_of_plain hnames, hfile, hprintable, if_neg Bool.false_ne_true,
    if_neg (by decide), if_neg]
  · rfl
  · rintro ⟨hs, hname⟩
    exact hset hs hname

end Plan

/-! ## §4  What an accessor takes -/

/-- The positional parameters of an accessor for a member and a shape. -/
def MemberDescriptor.parametersFor (d : MemberDescriptor) (s : Shape) : List String :=
  if s.family = .constructArray then ["args"]
  else (if d.isStatic || d.kind == .constructor then [] else ["instance"]) ++
    (if s.family = .set then ["value"] else (List.range d.arity).map Plan.argumentName)

/-- The types that the arguments behind the receiver are declared to have. -/
def MemberDescriptor.declaredFor (d : MemberDescriptor) (s : Shape) : List TypeForm :=
  if s.family = .set then [d.valueType] else d.parameters

/-- An accessor takes the parameters of its shape and no other count of arguments, and converts the argument
of each slot for the type that is declared there. -/
structure Accessor.Takes (σ : Session) (d : MemberDescriptor) (s : Shape) (a : Accessor) : Prop where
  parameters : a.plan.parameterNames = d.parametersFor s
  count {run : Runner} {st : Store} {arguments : List Value} :
    arguments.length ≠ (d.parametersFor s).length →
      (a.call arguments).perform run st = (.error (.fault .typeError), st)
  slots : a.plan.arguments.length = (d.declaredFor s).length
  slot {i : Nat} {r : ArgumentStep} : a.plan.arguments[i]? = some r →
    r.slot = i ∧ (d.declaredFor s)[i]? = some r.type ∧
      r.converter = Plan.slotConverter? σ.store σ.rules d s r.type

namespace Plan

variable {st : Store} {rules : List Rule} {d : MemberDescriptor} {s : Shape} {rs : List ArgumentStep}

/-- The arguments of a plan are one for each declared type, in order. -/
theorem argumentSteps_declared (h : argumentSteps st rules d s = .ok rs) :
    rs = (d.declaredFor s).zipIdx.map fun (t, i) =>
      ⟨i, s.slotName i, t, slotConverter? st rules d s t⟩ := by
  by_cases hget : s.family = .get
  · cases argumentSteps_cases h with
    | sequence harray => rw [hget] at harray; cases harray
    | value hset => rw [hget] at hset; cases hset
    | parameters =>
      have hname : s.slotName = argumentName := by
        funext i
        rw [Shape.slotName, hget]
      have hconverter (t : TypeForm) : slotConverter? st rules d s t = st.converter? rules t :=
        if_neg (by simp [hget])
      rw [parameterSteps, MemberDescriptor.declaredFor, if_neg (by simp [hget]), hname]
      simp only [hconverter]
  · have htypes : d.takenTypes s = d.declaredFor s := by
      unfold MemberDescriptor.takenTypes MemberDescriptor.declaredFor
      cases hf : s.family <;> first | exact absurd hf hget | simp
    rw [argumentSteps_eq hget h, slotSteps, htypes]

/-- The arguments are named by their slots. -/
theorem names_declared (ts : List TypeForm) :
    (ts.zipIdx.map fun (t, i) => (⟨i, s.slotName i, t, slotConverter? st rules d s t⟩ : ArgumentStep)).map
      (·.name) = (List.range ts.length).map s.slotName := by
  rw [List.map_map, List.range_eq_range', ← List.zipIdx_map_snd, List.map_map]
  rfl

end Plan

namespace Engine

variable {σ : Session} {d : MemberDescriptor} {s : Shape} {a : Accessor}

/-- A receiver is taken for members of instances. -/
theorem Built.receiver_isSome (h : Built σ d s a) :
    a.plan.receiver.isSome = !(d.isStatic || d.kind == .constructor) := by
  rw [h.receiver]
  by_cases hnone : d.isStatic = true ∨ d.kind = .constructor
  · have hstep : Plan.receiverStep d s = none := if_pos (by rcases hnone with h | h <;> simp [h])
    rw [hstep]
    rcases hnone with h | h <;> simp [h]
  · rw [not_or] at hnone
    obtain ⟨r, hr⟩ := Plan.exists_receiverStep h.static hnone.2 (Bool.eq_false_iff.mpr hnone.1)
    simp [hr, hnone]

/-- **What was built takes what its shape says.** -/
theorem Built.takes (h : Built σ d s a) : a.Takes σ d s := by
  have hsteps := Plan.argumentSteps_declared h.arguments
  have hnames : a.plan.parameterNames = d.parametersFor s := by
    unfold Plan.parameterNames MemberDescriptor.parametersFor
    rw [h.arrayArity]
    by_cases harray : s.family = .constructArray
    · rw [if_pos harray, if_pos harray]
    rw [if_neg harray, if_neg harray]
    simp only
    congr 1
    · rw [h.receiver_isSome]
      cases d.isStatic || d.kind == .constructor <;> rfl
    · rw [hsteps, Plan.names_declared]
      by_cases hset : s.family = .set
      · simp [MemberDescriptor.declaredFor, Shape.slotName, hset]
      · have hname : s.slotName = Plan.argumentName := by
          funext i
          unfold Shape.slotName
          split <;> first | contradiction | rfl
        rw [hname, MemberDescriptor.declaredFor, if_neg hset, if_neg hset, MemberDescriptor.arity]
  refine ⟨hnames, ?_, ?_, ?_⟩
  · intro run st arguments hcount
    rw [← hnames] at hcount
    unfold Accessor.call Accessor.reach
    simp only [hcount, ne_eq, not_false_eq_true, if_true]
    rfl
  · rw [hsteps]
    simp
  · intro i r hr
    rw [hsteps, List.getElem?_map, Option.map_eq_some_iff] at hr
    obtain ⟨⟨t, j⟩, hj, rfl⟩ := hr
    rw [List.getElem?_zipIdx, Option.map_eq_some_iff] at hj
    obtain ⟨t', ht, heq⟩ := hj
    cases heq
    exact ⟨Nat.zero_add i, ht, rfl⟩

/-- What is accepted are a member and a shape that pass the contract. -/
theorem passed_of_validate {st : Store} {d : Supplied MemberDescriptor} {s : Supplied Shape}
    {d' : MemberDescriptor} {s' : Shape} {m m' : Memo}
    (h : (validate st d s).run.run m = (.ok (d', s'), m')) :
    d = .proper d' ∧ s = .proper s' ∧ (Contract.check st d' s').run.run m = (.ok (), m') := by
  have hproper {α : Type} {x : Supplied α} {y : α} {argument : String}
      (hx : x.require argument = .ok y) : x = .proper y := by
    cases x <;> cases hx
    rfl
  unfold validate at h
  obtain ⟨d'', m₁, hd, h₁⟩ := exists_of_run_bind h
  obtain ⟨s'', m₂, hs, h₂⟩ := exists_of_run_bind h₁
  obtain ⟨u, m₃, hcheck, hgiven⟩ := exists_of_run_bind h₂
  rw [run_liftExcept, Prod.mk.injEq] at hd hs
  obtain ⟨hd, rfl⟩ := hd
  obtain ⟨hs, rfl⟩ := hs
  cases hgiven
  exact ⟨hproper hd, hproper hs, hcheck⟩

/-- An obstacle is what building fails with. -/
theorem run_build_obstacle {d : MemberDescriptor} {s : Shape} {m : Memo} {k : ErrorKind}
    (h : (Contract.check σ.store d s).run.run σ.memo = (.ok (), m))
    (hobstacle : Plan.obstacle? σ.store d s = some k) :
    (build (.proper d) (.proper s)).run.run σ = (.error (.fault k), { σ with memo := m }) := by
  have hmade := Plan.made_outcome σ.rules σ.settings.listsSource (checks_of_check h).1
  rw [hobstacle] at hmade
  exact run_build_unmade h hmade

/-- Without an obstacle what belongs together is built. -/
theorem run_build_clear {d : MemberDescriptor} {s : Shape} {m : Memo}
    (h : (Contract.check σ.store d s).run.run σ.memo = (.ok (), m))
    (hclear : Plan.obstacle? σ.store d s = none) :
    ∃ a log, (build (.proper d) (.proper s)).run.run σ = (.ok σ.accessors.size,
      { σ with memo := m, accessors := σ.accessors.push a, log := log }) := by
  have hmade := Plan.made_outcome σ.rules σ.settings.listsSource (checks_of_check h).1
  rw [hclear] at hmade
  obtain ⟨a, ha⟩ := hmade
  obtain ⟨log, hrun⟩ := run_build_made h ha
  exact ⟨a, log, hrun⟩

end Engine

/-! ## §5  Validated pairs that have no accessor -/

namespace Sink

open Engine

/-- Sinks take anything. -/
def world : Store :=
  { Store.empty with
    classes := #[
      { (default : ClassInfo) with
        name := "Sink"
        qualifiedName := "Sink"
        bases := [.builtin .object]
        lineage := [.user 0, .builtin .object]
        entries := [("a²", .atom (.static (.user 0)))]
        hasFields := true }]
    functions := #[
      { (default : Function) with
        name := "a²"
        qualifiedName := "Sink.a²"
        body := .statements [] }]
    objects := #[⟨.builtin .list, .list [.int 1], [], []⟩] }

/-- A field of sinks. -/
def field (name : String) : MemberDescriptor :=
  { MemberDescriptor.bare .field (.cls (.user 0)) name with writable := true }

/-- The static method of sinks, whose name ends in a digit that no identifier has. -/
def squared : MemberDescriptor :=
  { MemberDescriptor.bare .method (.cls (.user 0)) "a²" with
    isStatic := true
    target := .routine (.user 0) }

/-- A setter for values that are the list `[1]`. -/
def setterOfList : Shape := .setter none (some (.literal 0 [⟨.object 0, "[1]", false⟩])) true

/-- A call without arguments. -/
def noArguments : Shape :=
  { family := .func
    arity := 0
    receiver := .none
    result? := none
    nonPublic := true
    arity_le := Nat.zero_le _ }

end Sink
end MemberAccess
