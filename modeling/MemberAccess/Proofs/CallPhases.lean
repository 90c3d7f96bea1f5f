import MemberAccess.Proofs.PinnedValues

/-!
# The phases of a call

A call of an accessor goes through four phases.  It inspects its arguments: a sequence is counted, a
receiver is looked at.  It approaches the member: where the member is an attribute that is called, it is
read from what has it.  It converts the arguments, from left to right.  And it completes the access with
what the conversions gave.

Accessors are written as one expression, in which the phases follow from the order of evaluation.
`Accessor.perform_reach_eq_phases` takes them apart, for every accessor that was built and every call with
the right number of arguments.
-/

namespace MemberAccess

open MemberAccess.Action

namespace Accessor

/-! ## §1  Phases -/

section
variable (a : Accessor) (arguments : List Value)

/-- Inspects the arguments: the sequence is counted, or the receiver is looked at. -/
def inspect : Action Unit := do
  let env := a.plan.parameterNames.zip arguments
  match a.plan.arrayArity with
  | some n => checkSequence env n
  | none => pure ()
  match a.plan.receiver with
  | some r => checkReceiver env a.plan.descriptor r
  | none => pure ()

/-- What the access is made on: a target, an owner, or the receiver, which is the first argument. -/
def holder : Value :=
  match a.subject with
  | .target v | .owner v => v
  | .receiver => arguments.headD .nothing

/-- Approaches the member: a member that is called is read from its holder, and what is called itself,
read or set is left for later. -/
def approach : Action Value :=
  match a.subject, a.plan.operation with
  | .target _, _ | _, .get | _, .set => return a.holder arguments
  | _, _ => (a.holder arguments).getAttribute a.plan.descriptor.attributeName

/-- The arguments that are converted: reading takes none and setting one. -/
def converted : List ArgumentStep :=
  match a.subject, a.plan.operation with
  | .target _, _ => a.plan.arguments
  | _, .get => []
  | _, .set => a.plan.arguments.take 1
  | _, _ => a.plan.arguments

/-- Takes what is supplied for a slot: an item of the sequence, or an argument behind the receiver. -/
def supplied (slot : Nat) : Action Value :=
  if a.plan.arrayArity.isSome then (arguments.headD .nothing).itemAt slot
  else
    match (arguments.drop (if a.plan.receiver.isSome then 1 else 0))[slot]? with
    | some v => return v
    | none => fault .nameError

/-- Takes what is supplied for a step and converts it. -/
def convertStep (r : ArgumentStep) : Action Value := do
  (← a.supplied arguments r.slot).convertedBy r.converter r.name

/-- Converts the arguments from left to right. -/
def conversions : Action (List Value) := a.converted.mapM (a.convertStep arguments)

/-- Completes the access with the converted arguments. -/
def complete (v : Value) (xs : List Value) : Action Value :=
  match a.subject, a.plan.operation with
  | .target _, _ => v.call xs
  | _, .get => v.getAttribute a.plan.descriptor.attributeName
  | _, .set => do
      match xs with
      | x :: _ => v.setAttribute a.plan.descriptor.attributeName x
      | [] => pure ()
      return .nothing
  | _, _ => v.call xs

end

/-! ## §2  Arguments in their places -/

/-- What an accessor that was built has in order: its parameters have different names, its steps stand in
the order of their slots, and only what takes its arguments one by one has a receiver. -/
structure Orderly (a : Accessor) : Prop where
  nodup : a.plan.arrayArity = none → a.plan.parameterNames.Nodup
  slot {i : Nat} {r : ArgumentStep} : a.plan.arguments[i]? = some r → r.slot = i
  receiver : a.subject = .receiver → a.plan.receiver.isSome = true
  sequence : a.plan.arrayArity.isSome = true → a.plan.receiver = none

section
variable {a : Accessor} {arguments : List Value} {run : Runner} {st : Store}

theorem reach_eq_inspect (hlen : arguments.length = a.plan.parameterNames.length) :
    a.reach arguments = a.inspect arguments >>= fun _ =>
      access a.plan a.subject (a.plan.parameterNames.zip arguments) := by
  unfold reach inspect
  simp only [hlen, ne_eq, not_true_eq_false, if_false]
  cases a.plan.arrayArity <;> cases a.plan.receiver <;> simp

variable (ho : a.Orderly) (hlen : arguments.length = a.plan.parameterNames.length)
include ho hlen

/-- The receiver is the first argument. -/
theorem Orderly.lookup_instance (h : a.plan.receiver.isSome = true) :
    (a.plan.parameterNames.zip arguments).lookup "instance" = some (arguments.headD .nothing) := by
  have hsequence : a.plan.arrayArity = none := by
    cases hs : a.plan.arrayArity with
    | none => rfl
    | some n =>
      rw [ho.sequence (by rw [hs]; rfl)] at h
      cases h
  have hnames : a.plan.parameterNames = "instance" :: a.plan.arguments.map (·.name) := by
    rw [Plan.parameterNames, hsequence]
    simp [h]
  rw [hnames] at hlen ⊢
  cases arguments with
  | nil => cases hlen
  | cons v xs => exact List.lookup_cons_self

omit ho in
/-- The sequence is the only argument. -/
theorem lookup_sequence (h : a.plan.arrayArity.isSome = true) :
    (a.plan.parameterNames.zip arguments).lookup "args" = some (arguments.headD .nothing) := by
  obtain ⟨n, hn⟩ := Option.isSome_iff_exists.mp h
  have hnames : a.plan.parameterNames = ["args"] := by rw [Plan.parameterNames, hn]
  rw [hnames] at hlen ⊢
  obtain ⟨v, rfl⟩ := List.length_eq_one_iff.mp hlen
  rfl

/-- **Each step takes what is supplied for its slot.** -/
theorem Orderly.operand_eq {r : ArgumentStep} (hr : r ∈ a.plan.arguments) :
    (operand (a.plan.parameterNames.zip arguments) a.plan.arrayArity.isSome r).perform run st =
      (a.convertStep arguments r).perform run st := by
  rw [operand, convertStep, supplied]
  cases hs : a.plan.arrayArity.isSome with
  | true =>
    simp only [if_true]
    rw [perform_bind_ok (perform_argument (lookup_sequence hlen hs))]
    rfl
  | false =>
    have hnone : a.plan.arrayArity = none := by simpa using hs
    obtain ⟨i, hi, hri⟩ := List.getElem_of_mem hr
    have hstep : a.plan.arguments[i]? = some r := List.getElem?_eq_some_iff.mpr ⟨hi, hri⟩
    have hnames : a.plan.parameterNames =
        (if a.plan.receiver.isSome then ["instance"] else []) ++ a.plan.arguments.map (·.name) := by
      rw [Plan.parameterNames, hnone]
    have hname : a.plan.parameterNames[(if a.plan.receiver.isSome then 1 else 0) + i]? = some r.name := by
      rw [hnames]
      cases a.plan.receiver.isSome <;> simp [hstep, Nat.add_comm 1]
    have hbound := (List.getElem?_eq_some_iff.mp hname).1
    rw [← hlen] at hbound
    have hvalue : arguments[(if a.plan.receiver.isSome then 1 else 0) + i]? =
        some arguments[(if a.plan.receiver.isSome then 1 else 0) + i] := by simp [hbound]
    have hlookup := lookup_zip (ho.nodup hnone) hname hvalue
    rw [ho.slot hstep]
    simp only [Bool.false_eq_true, if_false, List.getElem?_drop]
    rw [perform_bind_ok (perform_argument hlookup), hvalue]
    rfl

/-- The steps are carried out from left to right. -/
theorem Orderly.operands_eq {rs : List ArgumentStep} (hrs : ∀ r ∈ rs, r ∈ a.plan.arguments) :
    (operands (a.plan.parameterNames.zip arguments) a.plan.arrayArity.isSome rs).perform run st =
      (rs.mapM (a.convertStep arguments)).perform run st := by
  induction rs generalizing st with
  | nil => rfl
  | cons r rs ih =>
    rw [operands, List.mapM_cons, List.mapM_cons, perform_bind, perform_bind,
      ho.operand_eq hlen (hrs r (by simp))]
    rcases (a.convertStep arguments r).perform run st with ⟨f | x, st'⟩
    · rfl
    · have hrest := @ih st' fun r' hr' => hrs r' (by simp [hr'])
      rw [operands] at hrest
      simp only
      rw [perform_bind, perform_bind, hrest]

/-- The access on a holder approaches it, converts the arguments and is completed. -/
theorem Orderly.accessMember_eq (hs : ∀ f, a.subject ≠ .target f) :
    (accessMember a.plan (a.plan.parameterNames.zip arguments) (a.holder arguments)).perform run st =
      (a.approach arguments >>= fun v => a.conversions arguments >>= a.complete v).perform run st := by
  have hoperands {st : Store} : (operands (a.plan.parameterNames.zip arguments) a.plan.arrayArity.isSome
      a.plan.arguments).perform run st = (a.plan.arguments.mapM (a.convertStep arguments)).perform run st :=
    ho.operands_eq hlen fun _ h => h
  unfold accessMember approach conversions converted complete
  cases hsubject : a.subject with
  | target f => exact absurd hsubject (hs f)
  | owner v | receiver =>
    cases hoperation : a.plan.operation with
    | get => rfl
    | set =>
      cases harguments : a.plan.arguments with
      | nil => rfl
      | cons r rs =>
        simp only [List.take_succ_cons, List.take_zero, List.mapM_cons, List.mapM_nil, pure_bind,
          bind_assoc]
        rw [perform_bind, perform_bind, ho.operand_eq hlen (by rw [harguments]; simp)]
    | call | construct =>
      simp only
      rw [perform_bind, perform_bind]
      rcases (_ : Action Value).perform run st with ⟨f | w, st'⟩
      · rfl
      · simp only
        rw [perform_bind, perform_bind, hoperands]

/-- **A call goes through its phases**: it inspects the arguments, approaches the member, converts the
arguments from left to right and completes the access. -/
theorem Orderly.perform_reach_eq_phases :
    (a.reach arguments).perform run st =
      (a.inspect arguments >>= fun _ => a.approach arguments >>= fun v =>
        a.conversions arguments >>= a.complete v).perform run st := by
  rw [reach_eq_inspect hlen]
  refine perform_bind_congr ?_
  intro _ st' _
  cases hsubject : a.subject with
  | target f =>
    have hoperands : (operands (a.plan.parameterNames.zip arguments) a.plan.arrayArity.isSome
        a.plan.arguments).perform run st' =
          (a.plan.arguments.mapM (a.convertStep arguments)).perform run st' :=
      ho.operands_eq hlen fun _ h => h
    unfold access approach conversions converted complete holder
    rw [hsubject]
    simp only [pure_bind]
    rw [perform_bind, perform_bind, hoperands]
  | owner v =>
    have hholder : v = a.holder arguments := by rw [holder, hsubject]
    unfold access
    rw [hholder, ho.accessMember_eq hlen (by simp [hsubject])]
  | receiver =>
    have hholder : arguments.headD .nothing = a.holder arguments := by rw [holder, hsubject]
    unfold access
    rw [perform_bind_ok (perform_argument (ho.lookup_instance hlen (ho.receiver hsubject))), hholder,
      ho.accessMember_eq hlen (by simp [hsubject])]

end

end Accessor

/-! ## §3  What was built is in order -/

/-- The types that the values handed to a member are declared to have. -/
def MemberDescriptor.takenTypes (d : MemberDescriptor) (s : Shape) : List TypeForm :=
  match s.family with
  | .get => []
  | .set => [d.valueType]
  | _ => d.parameters

/-- What the values handed to a member are called in messages. -/
def Shape.slotName (s : Shape) (i : Nat) : String :=
  match s.family with
  | .constructArray => Plan.itemName i
  | .set => "value"
  | _ => Plan.argumentName i

/-- The conversions of the values handed to a member. -/
def Plan.slotConverter? (st : Store) (rules : List Rule) (d : MemberDescriptor) (s : Shape)
    (t : TypeForm) : Option Converter :=
  if s.family = .set then valueConverter? st rules d s else st.converter? rules t

/-- The steps that convert the values handed to a member, in the order of their slots. -/
def Plan.slotSteps (st : Store) (rules : List Rule) (d : MemberDescriptor) (s : Shape) :
    List ArgumentStep :=
  (d.takenTypes s).zipIdx.map fun (t, i) => ⟨i, s.slotName i, t, slotConverter? st rules d s t⟩

namespace Plan

variable {st : Store} {rules : List Rule} {d : MemberDescriptor} {s : Shape} {i : Nat} {r : ArgumentStep}

theorem slot_of_parameterSteps {name : Nat → String}
    (h : (parameterSteps st rules d name)[i]? = some r) : r.slot = i := by
  rw [parameterSteps, List.getElem?_map, Option.map_eq_some_iff] at h
  obtain ⟨⟨t, j⟩, hj, rfl⟩ := h
  rw [List.getElem?_zipIdx, Option.map_eq_some_iff] at hj
  obtain ⟨t', -, heq⟩ := hj
  cases heq
  exact Nat.zero_add i

theorem slotSteps_of_parameters (hget : s.family ≠ .get) (hset : s.family ≠ .set) :
    slotSteps st rules d s = parameterSteps st rules d s.slotName := by
  have htypes : d.takenTypes s = d.parameters := by
    unfold MemberDescriptor.takenTypes
    split <;> first | contradiction | rfl
  have hconverter (t : TypeForm) : slotConverter? st rules d s t = st.converter? rules t :=
    if_neg hset
  unfold slotSteps parameterSteps
  simp only [htypes, hconverter]

/-- The arguments of a plan, by what the shape ends in. -/
theorem argumentSteps_eq {rs : List ArgumentStep} (hget : s.family ≠ .get)
    (h : argumentSteps st rules d s = .ok rs) : rs = slotSteps st rules d s := by
  cases argumentSteps_cases h with
  | sequence harray =>
    have hname : s.slotName = itemName := by
      funext i
      rw [Shape.slotName, harray]
    rw [slotSteps_of_parameters hget (by simp [harray]), hname]
  | value hset =>
    rw [slotSteps, MemberDescriptor.takenTypes, hset]
    simp [Shape.slotName, slotConverter?, hset]
  | parameters harray hset =>
    have hname : s.slotName = argumentName := by
      funext i
      unfold Shape.slotName
      split <;> first | contradiction | rfl
    rw [slotSteps_of_parameters hget hset, hname]

theorem slot_of_slotSteps (h : (slotSteps st rules d s)[i]? = some r) :
    r.slot = i ∧ r.name = s.slotName i ∧ (d.takenTypes s)[i]? = some r.type ∧
      r.converter = slotConverter? st rules d s r.type := by
  rw [slotSteps, List.getElem?_map, Option.map_eq_some_iff] at h
  obtain ⟨⟨t, j⟩, hj, rfl⟩ := h
  rw [List.getElem?_zipIdx, Option.map_eq_some_iff] at hj
  obtain ⟨t', ht, heq⟩ := hj
  cases heq
  rw [Nat.zero_add]
  exact ⟨rfl, rfl, ht, rfl⟩

end Plan

namespace Engine

variable {σ : Session} {d : MemberDescriptor} {s : Shape} {a : Accessor} (h : Built σ d s a)
include h

/-- Only a sequence of arguments is counted on every call, against the count of the parameters. -/
theorem Built.arrayArity :
    a.plan.arrayArity = if s.family = .constructArray then some d.arity else none := by
  obtain ⟨rs, result, -, -, hplan⟩ := exists_of_synthesize h.plan
  rw [hplan]

theorem Built.receiver : a.plan.receiver = Plan.receiverStep d s := by
  obtain ⟨rs, result, -, -, hplan⟩ := exists_of_synthesize h.plan
  rw [hplan]

theorem Built.operation : a.plan.operation = s.family.operation := by
  obtain ⟨rs, result, -, -, hplan⟩ := exists_of_synthesize h.plan
  rw [hplan]

theorem Built.descriptor : a.plan.descriptor = d := by
  obtain ⟨rs, result, -, -, hplan⟩ := exists_of_synthesize h.plan
  rw [hplan]

theorem Built.arguments : Plan.argumentSteps σ.store σ.rules d s = .ok a.plan.arguments := by
  obtain ⟨rs, result, hrs, -, hplan⟩ := exists_of_synthesize h.plan
  rw [hrs, hplan]

/-- The parameters of an accessor that takes its arguments one by one have different names. -/
theorem Built.nodup (hs : s.family ≠ .constructArray) : a.plan.parameterNames.Nodup := by
  have hnames : a.plan.parameterNames =
      (if a.plan.receiver.isSome then ["instance"] else []) ++ a.plan.arguments.map (·.name) := by
    rw [Plan.parameterNames, h.arrayArity, if_neg hs]
  have harguments := Plan.argumentSteps_cases h.arguments
  rw [hnames]
  generalize a.plan.arguments = rs at harguments
  cases harguments with
  | sequence harray => exact absurd harray hs
  | value => cases a.plan.receiver.isSome <;> simp
  | parameters =>
    rw [Accessor.names_parameterSteps]
    have hnodup := Accessor.nodup_names d.arity (h.arity_le hs)
    cases a.plan.receiver.isSome with
    | true => exact hnodup
    | false => exact (List.nodup_cons.mp hnodup).2

/-- **An accessor that was built is in order.** -/
theorem Built.orderly : a.Orderly where
  nodup hnone := by
    refine h.nodup ?_
    intro hs
    rw [h.arrayArity, if_pos hs] at hnone
    cases hnone
  slot {i r} hr := by
    have harguments := Plan.argumentSteps_cases h.arguments
    generalize a.plan.arguments = rs at harguments hr
    cases harguments with
    | sequence | parameters => exact Plan.slot_of_parameterSteps hr
    | value =>
      obtain ⟨hi, heq⟩ := List.getElem?_eq_some_iff.mp hr
      obtain rfl : i = 0 := Nat.lt_one_iff.mp hi
      cases heq
      rfl
  receiver hs := by
    rw [h.subject] at hs
    unfold Plan.subject at hs
    dsimp only at hs
    split at hs
    · cases hs
    split at hs
    · assumption
    split at hs <;> cases hs
  sequence hsome := by
    rw [h.arrayArity] at hsome
    split at hsome
    case isTrue hs =>
      have hk := admits_of_checkFamily h.family
      rw [hs, Family.admits, beq_iff_eq] at hk
      rw [h.receiver]
      simp [Plan.receiverStep, hk]
    case isFalse => cases hsome

/-- **The conversions of an accessor that was built** are those of the types that the member is declared to
take, in order. -/
theorem Built.converted_eq : a.converted = Plan.slotSteps σ.store σ.rules d s := by
  have hadmits := admits_of_checkFamily h.family
  unfold Accessor.converted
  by_cases hget : s.family = .get
  · have hempty : Plan.slotSteps σ.store σ.rules d s = [] := by
      rw [Plan.slotSteps, MemberDescriptor.takenTypes, hget]
      rfl
    have hkind : d.kind ≠ .method := by
      intro hk
      rw [hget, hk] at hadmits
      cases hadmits
    have htarget : ∀ v, a.subject ≠ .target v := by
      intro v hv
      rw [h.subject] at hv
      unfold Plan.subject at hv
      rw [h.operation, h.descriptor, hget] at hv
      simp only [Family.operation, reduceCtorEq, if_false, hkind] at hv
      split at hv <;> cases hv
    rw [hempty]
    cases hs : a.subject with
    | target v => exact absurd hs (htarget v)
    | owner v | receiver => simp [h.operation, hget, Family.operation]
  · have harguments := Plan.argumentSteps_eq hget h.arguments
    split
    · exact harguments
    case h_2 hop _ =>
      rw [h.operation] at hop
      cases hf : s.family <;> rw [hf] at hop <;> first | exact absurd hf hget | cases hop
    case h_3 hop _ =>
      rw [h.operation] at hop
      have hset : s.family = .set := by
        cases hf : s.family <;> rw [hf] at hop <;> first | rfl | cases hop
      rw [harguments, Plan.slotSteps, MemberDescriptor.takenTypes, hset]
      rfl
    · exact harguments

end Engine
end MemberAccess
