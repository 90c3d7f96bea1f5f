import MemberAccess.Proofs.DirectUse
import MemberAccess.Proofs.InstanceTests

/-!
# Looking at receivers

An accessor may look at its receiver on every call, or be told once and for all that receivers are of the
declaring type.  The two accessors of a member differ in nothing but the look, so they do the same wherever
the look lets a receiver pass and leaves no trace.

A look is an instance test.  For most classes it passes what has the class among its ancestors and touches
nothing.  A protocol that asks for data has its data read from the receiver first, and that is the one
trace a passing look can leave.  A protocol that may not be tested for lets nothing pass but its direct
instances, not even the instances of its own subclasses: `PlainProtocol.square_is_refused`.
-/

namespace MemberAccess

open MemberAccess.Action

/-! ## §1  The accessor that looks and the one that does not -/

/-- The shape that takes receivers of the declaring type without a look. -/
def Shape.trusting (s : Shape) (d : MemberDescriptor) : Shape := { s with receiver := .typed d.declaring }

/-- The plan without the look at the receiver. -/
def Plan.trusting (p : Plan) : Plan :=
  { p with shape := p.shape.trusting p.descriptor, receiver := some ⟨p.descriptor.declaring, none⟩ }

/-- The class that a look for a type tests for. -/
def TypeForm.lookedFor? (t : TypeForm) : Option ClassRef :=
  t.runtimeClass?.filter fun c => c != .builtin .object

section
variable {st : Store} {rules : List Rule} {d : MemberDescriptor} {s : Shape}

theorem Shape.hasReceiver_trusting : (s.trusting d).hasReceiver = true := rfl

theorem Shape.hasReceiver_of_checked (hs : s.receiver = .checked) : s.hasReceiver = true := by
  rw [hasReceiver, hs]
  rfl

/-- **The contract says the same of both**: a receiver that is looked at is taken for granted, and the
declaring type is assignable to itself. -/
theorem Contract.check_trusting (hs : s.receiver = .checked) :
    Contract.check st d (s.trusting d) = Contract.check st d s := by
  have hreceiver : Contract.checkReceiver st d (s.trusting d) = Contract.checkReceiver st d s := by
    have hself : Memo.isAssignable st d.declaring d.declaring = pure true :=
      assignableVia_of_passes (.inl rfl)
    unfold checkReceiver Shape.trusting
    simp only [hs, hself, pure_bind, if_true]
  have hstatic : Contract.checkStatic d (s.trusting d) = Contract.checkStatic d s := by
    unfold checkStatic
    rw [Shape.hasReceiver_trusting, Shape.hasReceiver_of_checked hs]
  unfold check
  rw [hreceiver, hstatic]
  rfl

/-- The look of a member of instances, if the declaring type is a class to look for. -/
theorem Plan.receiverStep_of_checked (hs : s.receiver = .checked) (hk : d.kind ≠ .constructor)
    (hstatic : d.isStatic = false) :
    receiverStep d s = some ⟨d.declaring, d.declaring.lookedFor?⟩ := by
  unfold receiverStep
  simp [hk, hstatic, hs, Shape.hasReceiver_of_checked hs, TypeForm.lookedFor?]

/-- Receivers of a type that was accepted are not looked at. -/
theorem Plan.receiverStep_typed {base : TypeForm} (hk : d.kind ≠ .constructor)
    (hstatic : d.isStatic = false) :
    receiverStep d { s with receiver := .typed base } = some ⟨d.declaring, none⟩ := by
  simp [receiverStep, Shape.hasReceiver, hk, hstatic]

/-- **The plans differ in the look alone.** -/
theorem Plan.synthesize_trusting {p : Plan} (hk : d.kind ≠ .constructor) (hstatic : d.isStatic = false)
    (hp : synthesize st rules d s = .ok p) : synthesize st rules d (s.trusting d) = .ok p.trusting := by
  obtain ⟨arguments, result, harguments, hresult, rfl⟩ := Engine.exists_of_synthesize hp
  -- neither the arguments nor the result depend on the receiver
  rw [Engine.synthesize_of_steps (s := s.trusting d) harguments hresult, Shape.trusting,
    receiverStep_typed hk hstatic]
  rfl

variable {p : Plan}

theorem Plan.subject_trusting (hr : p.receiver.isSome = true) : p.trusting.subject st = p.subject st := by
  unfold subject trusting
  simp only [hr, Option.isSome_some]

/-- The texts of both have the same defects: where the file can be named after the declaring type, so can
the shape that names it as the type of receivers. -/
theorem Plan.defect?_trusting (hr : p.receiver.isSome = true) (hs : p.shape.receiver = .checked) :
    p.trusting.defect? st = p.defect? st := by
  have hname : p.trusting.functionName st = p.functionName st := rfl
  have hwell : p.trusting.isWellFormed st = p.isWellFormed st := by
    unfold isWellFormed
    rw [subject_trusting hr]
    rfl
  have hdescriptor : p.trusting.descriptor = p.descriptor := rfl
  unfold defect?
  rw [hname, hwell, hdescriptor]
  cases hfile : p.descriptor.namesFile st with
  | false => rfl
  | true =>
    have hdeclaring : p.descriptor.declaring.isPrintable = true := by
      rw [MemberDescriptor.namesFile, Bool.and_eq_true] at hfile
      exact hfile.1
    have hshape : p.trusting.shape.isPrintable = p.shape.isPrintable := by
      unfold Shape.isPrintable
      rw [hs]
      simp [trusting, Shape.trusting, Receiver.base?, hdeclaring]
    rw [hshape]

theorem Plan.parameterNames_trusting (hr : p.receiver.isSome = true) :
    p.trusting.parameterNames = p.parameterNames := by
  unfold parameterNames trusting
  rw [hr]
  rfl

end

/-! ## §2  Calls behind the look -/

namespace Accessor

variable {a b : Accessor} {d : MemberDescriptor} {run : Runner} {st : Store} {env : Arguments}
  {v : Value} {xs arguments : List Value} {c : ClassRef}

/-- Two accessors of one member: the first looks for a class, if there is one to look for, and the second
takes receivers for granted, of the declaring type or of another that was accepted for it. -/
structure LooksFor (a b : Accessor) (d : MemberDescriptor) (check : Option ClassRef) : Prop where
  plan : ∃ s, b.plan = { a.plan.trusting with shape := s }
  subject : b.subject = a.subject
  descriptor : a.plan.descriptor = d
  receiver : a.plan.receiver = some ⟨d.declaring, check⟩
  sequence : a.plan.arrayArity = none

theorem perform_argument {name : String} (h : env.lookup name = some v) :
    (argument env name).perform run st = (.ok v, st) := by
  rw [argument, h]
  rfl

/-- An absent receiver is refused before any look. -/
theorem perform_checkReceiver_nothing {r : ReceiverStep} (h : env.lookup "instance" = some .nothing) :
    (checkReceiver env d r).perform run st = (.error (.nullReceiver (d.text st)), st) := by
  unfold checkReceiver
  rw [perform_bind_get, perform_bind_ok (perform_argument h), if_pos rfl]
  rfl

/-- Where nothing is looked for, every receiver that is there passes. -/
theorem perform_checkReceiver_none {t : TypeForm} (h : env.lookup "instance" = some v)
    (hv : v ≠ .nothing) : (checkReceiver env d ⟨t, none⟩).perform run st = (.ok (), st) := by
  unfold checkReceiver
  rw [perform_bind_get, perform_bind_ok (perform_argument h), if_neg hv]
  rfl

/-- What a look makes of a receiver that is there. -/
theorem perform_checkReceiver_some {t : TypeForm} (h : env.lookup "instance" = some v)
    (hv : v ≠ .nothing) :
    (checkReceiver env d ⟨t, some c⟩).perform run st =
      match (v.isInstance c).perform run st with
      | (.ok true, st') => (.ok (), st')
      | (.ok false, st') =>
          (.error (.argumentMismatch "instance" (t.typeName st) (st'.valueTypeName v)), st')
      | (.error f, st') => (.error f, st') := by
  unfold checkReceiver
  rw [perform_bind_get, perform_bind_ok (perform_argument h), if_neg hv]
  change ((v.isInstance c) >>= fun ok =>
    if ok then pure () else v.refuse "instance" (t.typeName st) : Action Unit).perform run st = _
  rw [perform_bind]
  rcases (v.isInstance c).perform run st with ⟨f | ok, st'⟩
  · rfl
  · cases ok <;> rfl

/-- A call counts its arguments, looks at the receiver and makes the access. -/
theorem reach_of_receiver {r : ReceiverStep} (hr : a.plan.receiver = some r)
    (hs : a.plan.arrayArity = none) (hlen : arguments.length = a.plan.parameterNames.length) :
    a.reach arguments =
      (checkReceiver (a.plan.parameterNames.zip arguments) a.plan.descriptor r >>= fun _ =>
        access a.plan a.subject (a.plan.parameterNames.zip arguments)) := by
  unfold reach
  simp only [hlen, ne_eq, not_true_eq_false, if_false, hs, hr]

theorem reach_of_length (hlen : arguments.length ≠ a.plan.parameterNames.length) :
    (a.reach arguments).perform run st = (.error (.fault .typeError), st) := by
  unfold reach
  simp only [ne_eq, hlen, not_false_eq_true, if_true]
  rfl

section
variable {check : Option ClassRef} (h : LooksFor a b d check)
include h

theorem LooksFor.isSome : a.plan.receiver.isSome = true := by
  rw [h.receiver]
  rfl

theorem LooksFor.names : b.plan.parameterNames = a.plan.parameterNames := by
  obtain ⟨s, hplan⟩ := h.plan
  rw [hplan]
  exact Plan.parameterNames_trusting h.isSome

/-- The receiver is the first argument. -/
theorem LooksFor.lookup : (a.plan.parameterNames.zip (v :: xs)).lookup "instance" = some v := by
  have hnames : a.plan.parameterNames = "instance" :: a.plan.arguments.map (·.name) := by
    rw [Plan.parameterNames, h.sequence, h.receiver]
    rfl
  rw [hnames, List.zip_cons_cons]
  exact List.lookup_cons_self

/-- What the second accessor does with as many arguments as there are parameters. -/
theorem LooksFor.reach_trusting (hlen : arguments.length = a.plan.parameterNames.length) :
    b.reach arguments =
      (checkReceiver (a.plan.parameterNames.zip arguments) d ⟨d.declaring, none⟩ >>= fun _ =>
        access a.plan a.subject (a.plan.parameterNames.zip arguments)) := by
  obtain ⟨s, hplan⟩ := h.plan
  have hr : b.plan.receiver = some ⟨d.declaring, none⟩ := by
    rw [hplan, ← h.descriptor]
    rfl
  have hs : b.plan.arrayArity = none := by
    rw [hplan]
    exact h.sequence
  rw [reach_of_receiver hr hs (by rw [hlen, h.names]), h.names, h.subject, hplan, ← h.descriptor]
  rfl

theorem LooksFor.reach_checked (hlen : arguments.length = a.plan.parameterNames.length) :
    a.reach arguments =
      (checkReceiver (a.plan.parameterNames.zip arguments) d ⟨d.declaring, check⟩ >>= fun _ =>
        access a.plan a.subject (a.plan.parameterNames.zip arguments)) := by
  rw [reach_of_receiver h.receiver h.sequence hlen, h.descriptor]

/-- Accessors that reach the same give the same. -/
theorem LooksFor.call_of_reach {st' : Store}
    (hr : (a.reach arguments).perform run st = (b.reach arguments).perform run st') :
    (a.call arguments).perform run st = (b.call arguments).perform run st' := by
  obtain ⟨s, hplan⟩ := h.plan
  have hfinish : finish b.plan = finish a.plan := by
    rw [hplan]
    rfl
  unfold call
  rw [perform_bind, perform_bind, hr, hfinish]

/-- A wrong count of arguments, and an absent receiver, come before the look. -/
theorem LooksFor.call_unlooked
    (hout : arguments.length ≠ a.plan.parameterNames.length ∨ ∃ xs, arguments = .nothing :: xs) :
    (a.call arguments).perform run st = (b.call arguments).perform run st := by
  refine h.call_of_reach ?_
  by_cases hlen : arguments.length = a.plan.parameterNames.length
  · obtain ⟨xs, rfl⟩ := hout.resolve_left (not_not_intro hlen)
    rw [h.reach_checked hlen, h.reach_trusting hlen,
      perform_bind_error (perform_checkReceiver_nothing h.lookup),
      perform_bind_error (perform_checkReceiver_nothing h.lookup)]
  · rw [reach_of_length hlen, reach_of_length (by rwa [h.names])]

end

/-- Where there is nothing to look for, the accessors do the same. -/
theorem LooksFor.call_of_none (h : LooksFor a b d none) :
    (a.call arguments).perform run st = (b.call arguments).perform run st := by
  refine h.call_of_reach ?_
  by_cases hlen : arguments.length = a.plan.parameterNames.length
  · rw [h.reach_checked hlen, h.reach_trusting hlen]
  · rw [reach_of_length hlen, reach_of_length (by rwa [h.names])]

/-- **The accessor that looks is the other one behind an instance test.** -/
theorem LooksFor.perform_call (h : LooksFor a b d (some c)) (hv : v ≠ .nothing)
    (hlen : xs.length + 1 = a.plan.parameterNames.length) :
    (a.call (v :: xs)).perform run st =
      match (v.isInstance c).perform run st with
      | (.ok true, st') => (b.call (v :: xs)).perform run st'
      | (.ok false, st') =>
          (.error (.argumentMismatch "instance" (d.declaring.typeName st) (st'.valueTypeName v)), st')
      | (.error f, st') => (.error f, st') := by
  have hlen : (v :: xs).length = a.plan.parameterNames.length := hlen
  have henv : (a.plan.parameterNames.zip (v :: xs)).lookup "instance" = some v := h.lookup
  have hcheck : (checkReceiver _ d ⟨d.declaring, some c⟩).perform run st = _ :=
    perform_checkReceiver_some henv hv
  rcases ht : (v.isInstance c).perform run st with ⟨f | ok, st'⟩
  · rw [ht] at hcheck
    rw [call, h.reach_checked hlen, perform_bind_error (perform_bind_error hcheck)]
  · cases ok with
    | false =>
      rw [ht] at hcheck
      rw [call, h.reach_checked hlen, perform_bind_error (perform_bind_error hcheck)]
    | true =>
      rw [ht] at hcheck
      refine h.call_of_reach ?_
      rw [h.reach_checked hlen, h.reach_trusting hlen, perform_bind_ok hcheck,
        perform_bind_ok (perform_checkReceiver_none henv hv)]

/-- What the two accessors of a member of instances of a class have to do with each other in a store. -/
structure LookAgreement (run : Runner) (st : Store) (d : MemberDescriptor) (c : ClassRef)
    (a b : Accessor) : Prop where
  /-- Unless the class is a protocol that asks for data or that may not be tested for, they do the same on
  every list of arguments whose receiver has the class among its ancestors. -/
  admits {arguments : List Value} :
    (∀ v, arguments.head? = some v → st.descends (st.classOf v) c = true) →
    st.isUntestable c = false → st.testsQuietly c = true →
    (a.call arguments).perform run st = (b.call arguments).perform run st
  /-- A protocol that asks for data has its members read from such a receiver; unless that fails, what
  comes after the reading is what the accessor without a look does. -/
  reads {v : Value} {xs : List Value} :
    v ≠ .nothing → xs.length + 1 = a.plan.parameterNames.length →
    st.descends (st.classOf v) c = true → st.isUntestable c = false → st.isProtocol c = true →
    (∃ st', (v.isInstance c).perform run st = (.ok true, st') ∧
      (a.call (v :: xs)).perform run st = (b.call (v :: xs)).perform run st') ∨
    ∃ f st', (v.hasMembers c (st.protocolMembers c)).perform run st = (.error f, st') ∧
      (a.call (v :: xs)).perform run st = (.error f, st')
  /-- What is there and no instance of the class is refused as the receiver, and nothing is run but the
  instance test, which touches nothing unless the class is a protocol. -/
  refuses {v : Value} {xs : List Value} {st' : Store} :
    v ≠ .nothing → xs.length + 1 = a.plan.parameterNames.length → c ≠ .builtin .object →
    (v.isInstance c).perform run st = (.ok false, st') →
    (a.call (v :: xs)).perform run st =
        (.error (.argumentMismatch "instance" (d.declaring.typeName st) (st'.valueTypeName v)), st') ∧
      (st.isProtocol c = false → st' = st)
  /-- A direct instance of a protocol is admitted without being touched, whatever the protocol asks for. -/
  exact {v : Value} {xs : List Value} :
    v ≠ .nothing → xs.length + 1 = a.plan.parameterNames.length → st.isProtocol c = true →
    c ≠ .builtin .protocol → st.classOf v = c →
    (a.call (v :: xs)).perform run st = (b.call (v :: xs)).perform run st
  /-- A protocol that may not be tested for lets no other receiver pass. -/
  fails {v : Value} {xs : List Value} :
    v ≠ .nothing → xs.length + 1 = a.plan.parameterNames.length → st.isUntestable c = true →
    st.classOf v ≠ c → (a.call (v :: xs)).perform run st = (.error (.fault .typeError), st)

/-- There is no class to look for where everything is an instance. -/
theorem lookedFor?_cls :
    (TypeForm.cls c).lookedFor? = if c = .builtin .any ∨ c = .builtin .object then none else some c := by
  unfold TypeForm.lookedFor?
  by_cases hany : c = .builtin .any
  · subst hany
    rfl
  by_cases hobject : c = .builtin .object
  · subst hobject
    rfl
  · simp [TypeForm.runtimeClass?_cls hany, hany, hobject]

/-- Where nothing is looked for, everything is taken for granted by both. -/
theorem LooksFor.agreement_of_none (h : LooksFor a b d none)
    (hc : c = .builtin .any ∨ c = .builtin .object) : LookAgreement run st d c a b where
  admits _ _ _ := h.call_of_none
  reads _ _ _ _ hp := by
    rcases hc with rfl | rfl <;> simp [Store.isProtocol] at hp
  refuses _ _ hobject htest := by
    rcases hc with rfl | rfl
    · cases htest
    · exact absurd rfl hobject
  exact _ _ hp := by
    rcases hc with rfl | rfl <;> simp [Store.isProtocol] at hp
  fails _ _ ht := by
    rcases hc with rfl | rfl <;> simp [Store.isUntestable, Store.isProtocol] at ht

/-- The look for a class does no more than the instance test does. -/
theorem LooksFor.agreement_of_some (h : LooksFor a b d (some c)) (hany : c ≠ .builtin .any) :
    LookAgreement run st d c a b where
  admits {arguments} hinstance ht hq := by
    by_cases hout : arguments.length ≠ a.plan.parameterNames.length ∨ ∃ xs, arguments = .nothing :: xs
    · exact h.call_unlooked hout
    obtain ⟨hlen, hthere⟩ := not_or.mp hout
    rw [not_not] at hlen
    cases arguments with
    | nil =>
      -- without any argument the receiver is missing, which is a wrong count
      rw [Plan.parameterNames, h.sequence, h.isSome] at hlen
      simp at hlen
    | cons v xs =>
      have hv : v ≠ .nothing := by
        rintro rfl
        exact hthere ⟨xs, rfl⟩
      have htest : (v.isInstance c).perform run st = (.ok true, st) :=
        Value.perform_isInstance_of_names (Store.names_of_descends (hinstance v rfl)) ht hq hany
      rw [h.perform_call hv hlen, htest]
  reads {v xs} hv hlen hinstance ht hp := by
    rcases @Value.perform_isInstance_of_protocol run st v c hinstance ht hp with
      ⟨st', htest⟩ | ⟨f, st', hread, htest⟩
    · refine .inl ⟨st', htest, ?_⟩
      rw [h.perform_call hv hlen, htest]
    · refine .inr ⟨f, st', hread, ?_⟩
      rw [h.perform_call hv hlen, htest]
  refuses {v xs st'} hv hlen _ htest := by
    refine ⟨?_, ?_⟩
    · rw [h.perform_call hv hlen, htest]
    · intro hp
      have huntouched : ((v.isInstance c).perform run st).2 = st := Value.perform_isInstance_of_plain hp
      rwa [htest] at huntouched
  exact hv hlen hp hc hexact := by
    rw [h.perform_call hv hlen, Value.perform_isInstance_of_exact hexact hp hc]
  fails hv hlen ht hother := by
    rw [h.perform_call hv hlen, Value.perform_isInstance_of_untestable ht hother]

end Accessor

/-! ## §3  Both accessors are built -/

namespace Engine

variable {σ σ₁ : Session} {d : MemberDescriptor} {s : Shape} {a : Accessor} {n : Nat}

/-- A member that takes a receiver, and is no constructor, is one of instances. -/
theorem isStatic_of_checkStatic (h : Contract.checkStatic d s = .ok ()) (hk : d.kind ≠ .constructor)
    (hs : s.hasReceiver = true) : d.isStatic = false := by
  by_contra hno
  rw [Contract.checkStatic, if_neg hk, if_pos (by simp [hno, hs])] at h
  cases h

/-- The accessor that looks at its receiver and one for receivers of a type that was accepted. -/
theorem looksFor_of_built {s' : Shape} {base : TypeForm} {b : Accessor} (hk : d.kind ≠ .constructor)
    (hs : s.receiver = .checked) (hs' : s' = { s with receiver := .typed base })
    (ha : Built σ d s a) (hb : Built σ d s' b) :
    Accessor.LooksFor a b d d.declaring.lookedFor? := by
  have hstatic := isStatic_of_checkStatic ha.static hk (Shape.hasReceiver_of_checked hs)
  obtain ⟨arguments, result, harguments, hresult, hp⟩ := exists_of_synthesize ha.plan
  obtain ⟨arguments', result', harguments', hresult', hp'⟩ := exists_of_synthesize hb.plan
  -- neither the arguments nor the result depend on the receiver
  subst hs'
  obtain rfl : arguments = arguments' := Except.ok.inj (harguments.symm.trans harguments')
  obtain rfl : result = result' := Except.ok.inj (hresult.symm.trans hresult')
  have hreceiver : a.plan.receiver = some ⟨d.declaring, d.declaring.lookedFor?⟩ := by
    rw [hp]
    exact Plan.receiverStep_of_checked hs hk hstatic
  have hplan : b.plan =
      { a.plan.trusting with shape := { s with receiver := .typed base } } := by
    rw [hp, hp', Plan.receiverStep_typed hk hstatic]
    rfl
  exact
    { plan := ⟨_, hplan⟩
      subject := by
        rw [ha.subject, hb.subject, hplan]
        exact Plan.subject_trusting (by rw [hreceiver]; rfl)
      descriptor := by rw [hp]
      receiver := hreceiver
      sequence := by
        rw [hp]
        refine if_neg ?_
        intro hf
        have hadmits := admits_of_checkFamily ha.family
        simp [hf, Family.admits, hk] at hadmits }

/-- **A look at the receiver admits every instance.**  Where an accessor that looks at its receiver is
built for a member of instances of a class, one for receivers of that very class is built, too.  On
receivers that have the class among their ancestors the two do the same, and any other receiver is refused
by the first before anything of the member is run, with two reservations for protocols: one that may not
be tested for admits nothing but its direct instances, and one that asks for data has its data read by the
look. -/
theorem look_admits_instances {c : ClassRef} (hd : d.declaring = .cls c) (hk : d.kind ≠ .constructor)
    (hs : s.receiver = .checked)
    (hrun : (build (.proper d) (.proper s)).run.run σ = (.ok n, σ₁))
    (ha : σ₁.accessors[n]? = some a) :
    ∃ n' σ₂ b, (build (.proper d) (.proper (s.trusting d))).run.run σ = (.ok n', σ₂) ∧
      σ₂.accessors[n']? = some b ∧
      ∀ (run : Runner) (st : Store), Accessor.LookAgreement run st d c a b := by
  have hbuilt := built_of_run hrun ha
  obtain ⟨⟨m, hcheck⟩, hdefect⟩ := passed_of_build hrun ha
  have hstatic := isStatic_of_checkStatic hbuilt.static hk (Shape.hasReceiver_of_checked hs)
  have hsome : a.plan.receiver.isSome = true := by
    obtain ⟨arguments, result, -, -, hp⟩ := exists_of_synthesize hbuilt.plan
    rw [hp, Plan.receiverStep_of_checked hs hk hstatic]
    rfl
  have hshape : a.plan.shape = s := by
    obtain ⟨arguments, result, -, -, hp⟩ := exists_of_synthesize hbuilt.plan
    rw [hp]
  obtain ⟨n', σ₂, b, hrun', hb, -, -⟩ := exists_build (σ := σ)
    (by rw [Contract.check_trusting hs]; exact hcheck)
    (Plan.synthesize_trusting hk hstatic hbuilt.plan)
    (by rw [Plan.defect?_trusting hsome (by rw [hshape, hs])]; exact hdefect)
  refine ⟨n', σ₂, b, hrun', hb, ?_⟩
  intro run st
  have hlooks := looksFor_of_built hk hs rfl hbuilt (built_of_run hrun' hb)
  rw [hd, Accessor.lookedFor?_cls] at hlooks
  by_cases hnone : c = .builtin .any ∨ c = .builtin .object
  · rw [if_pos hnone] at hlooks
    exact hlooks.agreement_of_none hnone
  · rw [if_neg hnone] at hlooks
    exact hlooks.agreement_of_some (not_or.mp hnone).1

end Engine
/-! ## §4  A protocol that may not be tested for -/

namespace PlainProtocol

open Engine

/-- A protocol that may not be tested for, squares, which are declared below it, figures, and discs, which
are declared below those.  Shapes and figures have an area.  There is a square and a disc. -/
def world : Store :=
  { Store.empty with
    classes := #[
      { (default : ClassInfo) with
        name := "Shape"
        qualifiedName := "Shape"
        bases := [.builtin .protocol]
        lineage := [.user 0, .builtin .protocol, .builtin .generic, .builtin .object]
        entries := [("area", .routine (.user 0))]
        isProtocol := true
        hasFields := true },
      { (default : ClassInfo) with
        name := "Square"
        qualifiedName := "Square"
        bases := [.user 0]
        lineage := [.user 1, .user 0, .builtin .protocol, .builtin .generic, .builtin .object]
        hasFields := true },
      { (default : ClassInfo) with
        name := "Figure"
        qualifiedName := "Figure"
        bases := [.builtin .object]
        lineage := [.user 2, .builtin .object]
        entries := [("area", .routine (.user 1))]
        hasFields := true },
      { (default : ClassInfo) with
        name := "Disc"
        qualifiedName := "Disc"
        bases := [.user 2]
        lineage := [.user 3, .user 2, .builtin .object]
        hasFields := true }]
    functions := #[
      { (default : Function) with
        name := "area"
        qualifiedName := "Shape.area"
        parameters := [⟨"self", .positional, none, none⟩]
        body := .statements [.result (.constant (.int 1))] },
      { (default : Function) with
        name := "area"
        qualifiedName := "Figure.area"
        parameters := [⟨"self", .positional, none, none⟩]
        body := .statements [.result (.constant (.int 3))] }]
    objects := #[⟨.user 1, .plain, [], []⟩, ⟨.user 3, .plain, [], []⟩] }

/-- What the runner of a world is for a call. -/
abbrev runner : Runner := runFunction callDepth

/-- The area of shapes. -/
def shapeArea : MemberDescriptor :=
  { MemberDescriptor.bare .method (.cls (.user 0)) "area" with target := .routine (.user 0) }

/-- The area of figures. -/
def figureArea : MemberDescriptor :=
  { MemberDescriptor.bare .method (.cls (.user 2)) "area" with target := .routine (.user 1) }

/-- The shape of a method without arguments whose receiver is looked at. -/
def looking : Shape :=
  { family := .func
    arity := 0
    receiver := .checked
    result? := none
    nonPublic := true
    arity_le := Nat.zero_le _ }

/-- The area of squares is found with the shapes. -/
theorem asked_shapeArea : Member.Asked runner world (.user 1) shapeArea := by
  have hfound : Member.find? world (.user 1) "area" = some (.user 0, "area", .routine (.user 0)) := by
    decide +kernel
  have hfind : (Member.find (.user 1) "area").perform runner world =
      (.ok (.user 0, "area", .routine (.user 0)), world) := by
    unfold Member.find
    rw [perform_bind_get, hfound]
    rfl
  have hrun : (Member.resolve (.method "area") (.cls (.user 1))).perform runner world =
      (.ok shapeArea, world) := by
    change (Member.methodOf (.user 1) "area").perform runner world = _
    unfold Member.methodOf
    exact (perform_bind_ok hfind).trans rfl
  exact .resolve hrun

/-- The contract lets both areas be used with a look at their receivers and without one. -/
theorem check_looking {d : MemberDescriptor} (hd : d = shapeArea ∨ d = figureArea) :
    (Contract.check world d looking).run.run .empty = (.ok (), .empty) ∧
      (Contract.check world d (looking.trusting d)).run.run .empty = (.ok (), .empty) := by
  have hlooking : (Contract.check world d looking).run.run .empty = (.ok (), .empty) := by
    rcases hd with rfl | rfl <;> rfl
  refine ⟨hlooking, ?_⟩
  rw [Contract.check_trusting rfl]
  exact hlooking

/-- Both areas get accessors for the receivers that the contract lets them have. -/
theorem built_area {d : MemberDescriptor} (hd : d = shapeArea ∨ d = figureArea) {r : Receiver} {m : Memo}
    (hprintable : { looking with receiver := r }.isPrintable = true)
    (hcheck : (Contract.check world d { looking with receiver := r }).run.run .empty = (.ok (), m)) :
    ∃ n σ a, (build (.proper d) (.proper { looking with receiver := r })).run.run (.start world) =
        (.ok n, σ) ∧
      σ.accessors[n]? = some a ∧
      Accessor.Carries a world (Plan.unpinned world [] d { looking with receiver := r }) := by
  have hdefect : (Plan.unpinned world [] d { looking with receiver := r }).defect? world = none := by
    -- the receiver is no part of the name
    have hname : (Plan.unpinned world [] d looking).functionName world = "Shape_area_func0" ∨
        (Plan.unpinned world [] d looking).functionName world = "Figure_area_func0" := by
      rcases hd with rfl | rfl <;> decide +kernel
    have hoperation : (Plan.unpinned world [] d looking).operation ≠ .set := by
      rcases hd with rfl | rfl <;> decide
    have hfile : d.namesFile world = true := by rcases hd with rfl | rfl <;> decide +kernel
    rcases hname with hname | hname <;>
      exact Plan.defect?_eq_none hname hfile hprintable (by decide +kernel)
        (Text.normalForm_of_plain (by decide +kernel)) (.inl hoperation)
  obtain ⟨n, σ, a, hrun, ha, hplan, hsubject⟩ := exists_build (σ := .start world) hcheck
    (Plan.synthesize_of_unpinned rfl) hdefect
  exact ⟨n, σ, a, hrun, ha, hplan, hsubject⟩

/-- No class of the world takes part when attributes are read. -/
theorem readsPlainly (v : Value) : world.ReadsPlainly v := by
  constructor <;>
  · refine Store.specialMethod?_of_entries fun i _ => ?_
    match i with
    | 0 | 1 | 2 | 3 => rfl
    | _ + 4 => rfl

/-- Without a look a square has the area of shapes. -/
theorem use_shapeArea {s : Shape} (hf : s.family = .func) :
    (shapeArea.use s [.object 0]).perform runner world = (.ok (.int 1), world) := by
  have hread : ((Value.object 0).getAttribute "area").perform runner world =
      (.ok (.bound (.user 0) (.object 0)), world) := by
    rw [Value.perform_getAttribute (readsPlainly _)]
    exact Value.perform_readInstance_of_entry (k := .user 0) (e := .routine (.user 0)) rfl rfl
      (Store.specialMethod?_of_builtin rfl _) rfl
  rw [shapeArea.use_method (.inl hf) rfl]
  exact perform_bind_ok hread

/-- **A square is refused as the receiver of the area of shapes**, though squares are declared below
shapes: the look fails, because the protocol may not be tested for.  Without the look its area is given. -/
theorem square_is_refused :
    Member.Asked runner world (.user 1) shapeArea ∧
    world.descends (world.classOf (.object 0)) (.user 0) = true ∧
    ∃ n σ a n' σ' b, (build (.proper shapeArea) (.proper looking)).run.run (.start world) = (.ok n, σ) ∧
      σ.accessors[n]? = some a ∧
      (build (.proper shapeArea) (.proper (looking.trusting shapeArea))).run.run (.start world) =
        (.ok n', σ') ∧
      σ'.accessors[n']? = some b ∧
      (a.call [.object 0]).perform runner world = (.error (.fault .typeError), world) ∧
      (b.call [.object 0]).perform runner world = (.ok (.int 1), world) := by
  refine ⟨asked_shapeArea, by decide +kernel, ?_⟩
  obtain ⟨hcheck, hcheck'⟩ := check_looking (.inl rfl)
  obtain ⟨n, σ, a, hrun, ha, hcarries⟩ := built_area (.inl rfl) rfl hcheck
  obtain ⟨n', σ', b, hrun', hb, hcarries'⟩ := built_area (.inl rfl) rfl hcheck'
  refine ⟨n, σ, a, n', σ', b, hrun, ha, hrun', hb, ?_, ?_⟩
  · obtain ⟨p, subject, name, qualified, doc, source, listed⟩ := a
    obtain ⟨hplan, hsubject⟩ := hcarries
    subst hplan
    subst hsubject
    rfl
  · have hadmits : Admits runner world shapeArea (looking.trusting shapeArea) (.object 0) :=
      ⟨by decide, fun hchecked => absurd hchecked (by decide)⟩
    have hreach : (b.reach [.object 0]).perform runner world =
        (shapeArea.use (looking.trusting shapeArea) [.object 0]).perform runner world :=
      Accessor.reach_method hcarries' (.inl rfl) rfl (by decide) rfl hadmits (by decide) rfl
        fun _ _ _ => ⟨rfl, fun ht => by cases ht⟩
    rw [Accessor.call, perform_bind_ok (hreach.trans (use_shapeArea rfl)), hcarries'.plan,
      Accessor.finish_of_unpinned]
    rfl

/-- A disc is admitted to the area of figures, with a look and without one, and a square is refused. -/
theorem disc_is_admitted :
    ∃ n σ a n' σ' b, (build (.proper figureArea) (.proper looking)).run.run (.start world) = (.ok n, σ) ∧
      σ.accessors[n]? = some a ∧
      (build (.proper figureArea) (.proper (looking.trusting figureArea))).run.run (.start world) =
        (.ok n', σ') ∧
      σ'.accessors[n']? = some b ∧
      (a.call [.object 1]).perform runner world = (b.call [.object 1]).perform runner world ∧
      (a.call [.object 0]).perform runner world =
        (.error (.argumentMismatch "instance" "Figure" "Square"), world) := by
  obtain ⟨n, σ, a, hrun, ha, hcarries⟩ := built_area (.inr rfl) rfl (check_looking (.inr rfl)).1
  obtain ⟨n', σ', b, hrun', hb, hagree⟩ :=
    look_admits_instances (c := .user 2) rfl (by decide) rfl hrun ha
  have hlen : ([] : List Value).length + 1 = a.plan.parameterNames.length := by
    rw [hcarries.plan]
    rfl
  refine ⟨n, σ, a, n', σ', b, hrun, ha, hrun', hb, ?_, ?_⟩
  · refine (hagree runner world).admits ?_ rfl rfl
    intro v hv
    cases hv
    decide +kernel
  · have htest : ((Value.object 0).isInstance (.user 2)).perform runner world = (.ok false, world) := rfl
    exact ((hagree runner world).refuses (by decide) hlen (by decide) htest).1

end PlainProtocol
end MemberAccess
