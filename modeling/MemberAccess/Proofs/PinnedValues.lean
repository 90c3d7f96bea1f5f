import MemberAccess.Proofs.PinnedResults
import MemberAccess.Proofs.ReceiverLooks

/-!
# Setters for values of a pinned type

A setter may be made for values of a type that the contract finds assignable to the type of the member.
The conversion of the value is then left out, unless both types are numbers of which one widens into the
other.

So such a setter does what the setter for any values does only where the conversion that was left out would
keep the value (`Engine.pinned_setters_agree`).  Inside of unions it would not: an integer pinned for a
member that takes floats or texts is set as it is, though the other setter makes it a float
(`Gauge.pinned_integer_is_not_widened`).
-/

namespace MemberAccess

open MemberAccess.Action

/-- The shape that pins nothing. -/
def Shape.unpinned (s : Shape) : Shape := { s with result? := none }

/-! ## §1  The conversion of a value to be set -/

/-- Converts a value, if there is a converter for it. -/
def Value.convertedBy (c : Option Converter) (v : Value) (place : String) : Action Value :=
  match c with
  | none => return v
  | some c => c.apply v place

namespace Plan

variable {st : Store} {rules : List Rule} {d : MemberDescriptor} {s : Shape}

/-- The step for a value to be set, where there is one. -/
theorem valueStep_eq {r : ArgumentStep} (h : valueStep st rules d s = .ok r) :
    r = ⟨0, "value", d.valueType, valueConverter? st rules d s⟩ := by
  unfold valueStep at h
  unfold valueConverter?
  rw [← pinnedForm] at h
  dsimp only at h
  by_cases hany : (pinnedForm s).isAny = true
  · rw [if_pos hany] at h ⊢
    cases h
    rfl
  · rw [if_neg hany] at h ⊢
    cases hw : needsWidening (pinnedForm s) d.valueType.normalize with
    | error f =>
      rw [hw] at h
      cases h
    | ok b =>
      rw [hw] at h
      rw [← needsWidening_eq hw]
      cases b <;> cases h <;> rfl

/-- The arguments of a plan, by what the shape ends in. -/
inductive PlansArguments (st : Store) (rules : List Rule) (d : MemberDescriptor) (s : Shape) :
    List ArgumentStep → Prop
  | sequence : s.family = .constructArray → PlansArguments st rules d s (parameterSteps st rules d itemName)
  | value : s.family = .set →
      PlansArguments st rules d s [⟨0, "value", d.valueType, valueConverter? st rules d s⟩]
  | parameters : s.family ≠ .constructArray → s.family ≠ .set →
      PlansArguments st rules d s (parameterSteps st rules d argumentName)

theorem argumentSteps_cases {rs : List ArgumentStep} (h : argumentSteps st rules d s = .ok rs) :
    PlansArguments st rules d s rs := by
  unfold argumentSteps at h
  split at h
  case isTrue harray =>
    cases h
    exact .sequence harray
  case isFalse harray =>
    split at h
    case isTrue hset =>
      cases hv : valueStep st rules d s with
      | error f =>
        rw [hv] at h
        cases h
      | ok r =>
        rw [hv] at h
        cases h
        rw [valueStep_eq hv]
        exact .value hset
    case isFalse hset =>
      cases h
      exact .parameters harray hset

/-- The plan of a setter. -/
theorem synthesize_of_set {p : Plan} (hset : s.family = .set)
    (h : synthesize st rules d s = .ok p) :
    p = { descriptor := d
          shape := s
          operation := .set
          receiver := receiverStep d s
          arguments := [⟨0, "value", d.valueType, valueConverter? st rules d s⟩]
          result := none
          arrayArity := none } := by
  obtain ⟨arguments, result, harguments, hresult, rfl⟩ := Engine.exists_of_synthesize h
  have hproducing : s.isValueProducing = false := by
    simp [Shape.isValueProducing, Family.isValueProducing, hset]
  rw [hproducing] at hresult
  cases hresult
  have harray : ¬ s.family = .constructArray := by simp [hset]
  cases argumentSteps_cases harguments with
  | sequence harray' => exact absurd harray' harray
  | value =>
    rw [if_neg harray, hset]
    rfl
  | parameters _ hset' => exact absurd hset hset'

/-- A type whose normal form is normal has the converter of its normal form. -/
theorem converter?_normalize {t : TypeForm} (h : t.normalize.normalize = t.normalize) :
    st.converter? rules t.normalize = st.converter? rules t := by
  cases hany : t.normalize.isAny with
  | true => rw [Store.converter?_of_isAny hany, Store.converter?_of_isAny (by rw [h, hany])]
  | false =>
    cases hf : rules.find? (·.isFor t.normalize) with
    | some r =>
      rw [Store.converter?_of_rule hany hf, Store.converter?_of_rule (by rw [h, hany]) (by rw [h, hf]), h]
    | none =>
      cases hu : t.normalize.isUnion with
      | false =>
        rw [Store.converter?_of_plain hany hf hu,
          Store.converter?_of_plain (by rw [h, hany]) (by rw [h, hf]) (by rw [h, hu]), h]
      | true =>
        obtain ⟨i, w, ts, htn⟩ := TypeForm.exists_of_isUnion hu
        rw [Store.converter?_of_union hany hf htn,
          Store.converter?_of_union (by rw [h, hany]) (by rw [h, hf]) (h.trans htn), h]

/-- What can be compiled can be compiled without its pinned type. -/
theorem defect?_unpinned {p : Plan} {steps : List ArgumentStep} (h : p.defect? st = none) :
    { p with shape := p.shape.unpinned, arguments := steps }.defect? st = none := by
  obtain ⟨hfile, hwell, hform, hprintable⟩ := defect?_eq_none_iff.mp h
  refine defect?_eq_none_iff.mpr ⟨hfile, hwell, hform, ?_⟩
  simp only [Shape.isPrintable, Bool.and_eq_true] at hprintable
  simp [Shape.isPrintable, Shape.unpinned, hprintable.1]

theorem normalize_of_isPromoting {t : TypeForm} (h : t.isPromoting = true) : t.normalize = t := by
  simp only [TypeForm.isPromoting, Bool.or_eq_true, beq_iff_eq] at h
  rcases h with (rfl | rfl) | rfl <;> rfl

end Plan

/-! ## §2  Setters -/

/-- A value is taken alike where a type is pinned and where none is: the pinned type takes anything, the
value is widened, or it fits the pinned type by a member that the type of the member does not hide, and
converting it would keep it. -/
inductive TakenAlike (st₀ : Store) (rules : List Rule) (run : Runner) (st : Store) (v : Value)
    (pinned t : TypeForm) : Prop
  | anything : pinned.normalize.isAny = true → TakenAlike st₀ rules run st v pinned t
  | widened : Plan.widening pinned.normalize t.normalize = true → TakenAlike st₀ rules run st v pinned t
  | kept : st₀.SameHierarchy st → st₀.Respects st (v.IsOf run st) (st.classOf v) pinned t →
      FitsOpenly st₀ (v.IsOf run st) v pinned t → t.isFlat = true → NoRuleFor rules t → v.Ordinary st →
      LooksQuietly st₀ run st v t → TakenAlike st₀ rules run st v pinned t

namespace Accessor

variable {a b : Accessor} {run : Runner} {st st₁ : Store} {arguments : List Value} {x : Value}
  {env : Arguments}

/-- What a call does before its access, if the arguments are as many as they should be. -/
def look (a : Accessor) (arguments : List Value) : Action Unit :=
  match a.plan.receiver with
  | some r => checkReceiver (a.plan.parameterNames.zip arguments) a.plan.descriptor r
  | none => pure ()

theorem reach_eq_look (hs : a.plan.arrayArity = none)
    (hlen : arguments.length = a.plan.parameterNames.length) :
    a.reach arguments = a.look arguments >>= fun _ =>
      access a.plan a.subject (a.plan.parameterNames.zip arguments) := by
  unfold reach look
  simp only [hlen, ne_eq, not_true_eq_false, if_false, hs]
  cases a.plan.receiver <;> rfl

/-- Two setters of one member, which convert the value to be set by different converters. -/
structure SettersOf (a b : Accessor) (t : TypeForm) (c c' : Option Converter) : Prop where
  plan : ∃ s, b.plan = { a.plan with shape := s, arguments := [⟨0, "value", t, c'⟩] }
  subject : b.subject = a.subject
  operation : a.plan.operation = .set
  arguments : a.plan.arguments = [⟨0, "value", t, c⟩]
  sequence : a.plan.arrayArity = none
  holder : a.subject = .receiver ∨ ∃ v, a.subject = .owner v

variable {t : TypeForm} {c c' : Option Converter} (h : SettersOf a b t c c')
include h

theorem SettersOf.names : b.plan.parameterNames = a.plan.parameterNames := by
  obtain ⟨s, hplan⟩ := h.plan
  rw [hplan]
  unfold Plan.parameterNames
  simp only [h.arguments, List.map_cons, List.map_nil]

/-- The value to be set is the last argument. -/
theorem SettersOf.lookup (hlen : arguments.length = a.plan.parameterNames.length) :
    ∃ x, arguments.getLast? = some x ∧ (a.plan.parameterNames.zip arguments).lookup "value" = some x := by
  have hnames : a.plan.parameterNames =
      (if a.plan.receiver.isSome then ["instance"] else []) ++ ["value"] := by
    unfold Plan.parameterNames
    rw [h.sequence, h.arguments]
    rfl
  rw [hnames] at hlen ⊢
  cases hr : a.plan.receiver.isSome with
  | false =>
    rw [hr] at hlen
    obtain ⟨x, rfl⟩ := List.length_eq_one_iff.mp hlen
    exact ⟨x, rfl, rfl⟩
  | true =>
    rw [hr] at hlen
    obtain ⟨r, x, rfl⟩ := List.length_eq_two.mp hlen
    exact ⟨x, rfl, rfl⟩

/-- Setters that convert a value alike set it alike. -/
theorem SettersOf.perform_access (hx : env.lookup "value" = some x)
    (hconvert : (x.convertedBy c "value").perform run st = (x.convertedBy c' "value").perform run st) :
    (access a.plan a.subject env).perform run st = (access b.plan b.subject env).perform run st := by
  obtain ⟨s, hplan⟩ := h.plan
  have hmember (holder : Value) : (accessMember a.plan env holder).perform run st =
      (accessMember b.plan env holder).perform run st := by
    have hoperand (c : Option Converter) : (operand env false ⟨0, "value", t, c⟩).perform run st =
        (x.convertedBy c "value").perform run st := perform_bind_ok (perform_argument hx)
    unfold accessMember
    simp only [hplan, h.operation, h.arguments, h.sequence, Option.isSome_none]
    rw [perform_bind, perform_bind, hoperand, hoperand, hconvert]
  rw [h.subject]
  rcases h.holder with hsubject | ⟨v, hsubject⟩
  · rw [hsubject]
    unfold access
    cases hr : env.lookup "instance" with
    | none =>
      have hfails : (argument env "instance").perform run st = (.error (.fault .nameError), st) := by
        rw [argument, hr]
        rfl
      rw [perform_bind_error hfails, perform_bind_error hfails]
    | some r =>
      rw [perform_bind_ok (perform_argument hr), perform_bind_ok (perform_argument hr)]
      exact hmember r
  · rw [hsubject]
    exact hmember v

/-- Setters that convert alike what gets past the look at the receiver do the same. -/
theorem SettersOf.perform_call
    (hconvert : ∀ x st₁, arguments.getLast? = some x → (a.look arguments).perform run st = (.ok (), st₁) →
      (x.convertedBy c "value").perform run st₁ = (x.convertedBy c' "value").perform run st₁) :
    (a.call arguments).perform run st = (b.call arguments).perform run st := by
  obtain ⟨s, hplan⟩ := h.plan
  have hfinish : finish b.plan = finish a.plan := by
    funext v
    rw [hplan]
    unfold finish
    simp only [h.operation]
  have hreach : (a.reach arguments).perform run st = (b.reach arguments).perform run st := by
    by_cases hlen : arguments.length = a.plan.parameterNames.length
    · have hlook : b.look arguments = a.look arguments := by
        unfold look
        rw [h.names, hplan]
      have hsequence : b.plan.arrayArity = none := by
        rw [hplan]
        exact h.sequence
      rw [reach_eq_look h.sequence hlen, reach_eq_look hsequence (by rw [hlen, h.names]), hlook, h.names]
      obtain ⟨x, hlast, hx⟩ := h.lookup hlen
      refine perform_bind_congr ?_
      intro _ st₁ hpasses
      exact h.perform_access hx (hconvert x st₁ hlast hpasses)
    · rw [reach_of_length hlen, reach_of_length (by rwa [h.names])]
  unfold call
  rw [perform_bind, perform_bind, hreach, hfinish]

end Accessor

namespace Engine

variable {σ : Session} {d : MemberDescriptor} {s : Shape} {a : Accessor} {pinned : TypeForm}

/-- What is taken alike is converted alike. -/
theorem perform_convertedBy (hσ : σ.Sound) {m : Memo} (hset : s.family = .set)
    (hpinned : s.result? = some pinned) (hsettled : pinned.Settled) (hvalue : d.valueType.Settled)
    (hcheck : (Contract.check σ.store d s).run.run σ.memo = (.ok (), m)) {run : Runner} {st : Store}
    {x : Value} (h : TakenAlike σ.store σ.rules run st x pinned d.valueType) :
    (x.convertedBy (Plan.valueConverter? σ.store σ.rules d s) "value").perform run st =
      (x.convertedBy (σ.store.converter? σ.rules d.valueType) "value").perform run st := by
  have hform : Plan.pinnedForm s = pinned.normalize := by
    rw [Plan.pinnedForm, hpinned]
    rfl
  by_cases hany : pinned.normalize.isAny = true
  · rw [Plan.valueConverter?, hform, if_pos hany]
  by_cases hwidens : Plan.widening pinned.normalize d.valueType.normalize = true
  · have hbare : d.valueType.normalize.normalize = d.valueType.normalize := by
      simp only [Plan.widening, Bool.and_eq_true] at hwidens
      exact Plan.normalize_of_isPromoting hwidens.2
    rw [Plan.valueConverter?, hform, if_neg hany, if_pos hwidens, Plan.converter?_normalize hbare]
  · have hnone : Plan.valueConverter? σ.store σ.rules d s = none := by
      rw [Plan.valueConverter?, hform, if_neg hany, if_neg hwidens]
    rw [hnone]
    -- the conversion is left out here, so the other setter's conversion has to keep the value
    cases h with
    | anything hany' => exact absurd hany' hany
    | widened hwidens' => exact absurd hwidens' hwidens
    | kept hsame hrespects hopen hflat hrules hordinary hquiet =>
      obtain ⟨m₁, m₂, hm₁, hassignable⟩ := Contract.exists_accepted_pinned hσ.faithful hpinned hcheck
      rw [if_pos hset] at hassignable
      have hfits : Fits σ.store (x.IsOf run st) x d.valueType :=
        Fits.of_flows hσ.ordered hsame hsettled hvalue
          (flows_of_accepted hm₁ hsettled hvalue hassignable) hrespects hopen
      have hkeeps : Keeps run (σ.store.converter? σ.rules) st d.valueType "value" x :=
        Store.keeps_of_fits hσ.ordered (hsame.ordered hσ.ordered) hvalue hflat hrules hordinary hquiet hfits
      cases hc : σ.store.converter? σ.rules d.valueType with
      | none => rfl
      | some c => exact (hkeeps c hc).symm

end Engine

/-! ## §3  An integer for floats and texts -/

namespace Gauge

open Engine

/-- A class with a slot for floats or texts, and an instance that keeps what is given in it. -/
def world (kept : List (ClassRef × String × Value)) : Store :=
  { Store.empty with
    classes := #[{ (default : ClassInfo) with
      name := "Gauge"
      qualifiedName := "Gauge"
      bases := [.builtin .object]
      lineage := [.user 0, .builtin .object]
      annotations := [("level", .orText .float)]
      slotNames := ["level"]
      entries := [("level", .atom (.slot (.user 0) "level"))] }]
    objects := #[⟨.user 0, .plain, [], kept⟩] }

/-- The instance with its level set. -/
def worldAt (v : Value) : Store := world [(.user 0, "level", v)]

/-- What the runner of a world is for a call. -/
abbrev runner : Runner := runFunction callDepth

/-- The field. -/
def level : MemberDescriptor :=
  { MemberDescriptor.bare .field (.cls (.user 0)) "level" with
    valueType := .orText .float
    writable := true }

/-- The shape of setters for values of a class. -/
def pinned (b : Builtin) : Shape :=
  { family := .set
    arity := 0
    receiver := .checked
    result? := some (.builtin b)
    nonPublic := true
    arity_le := Nat.zero_le _ }

theorem ordered_world : (world []).Ordered := by
  have hpushed := Store.ordered_push ((world []).classInfo 0) Store.ordered_empty
    (by decide) (by intro b hb; obtain rfl := List.mem_singleton.mp hb; exact ⟨rfl, nofun⟩) nofun
  exact hpushed.of_classes rfl

/-- The annotation of the field is known as it is written. -/
theorem knownOfClass_gauge : (Hints.knownOfClass (.user 0)).perform runner (world []) =
    (.ok [("level", .orText .float)], world []) := by
  have hequal : TypeForm.equalList [.builtin .float, .builtin .str] [.builtin .float, .builtin .str] =
      true := by
    simp [TypeForm.equalList, TypeForm.equal]
  have hlooked (scope : Scope) (place : TypeForm.Place) :
      Hints.lookUp scope place (.orText .float) = pure (.orText .float) := by
    simp [Hints.lookUp, Hints.depth, TypeForm.orText, Hints.evaluate, Hints.evaluateAll, hequal]
  have hstripped : Hints.strip Hints.depth (.orText .float) = pure (.orText .float) := by
    simp [Hints.depth, TypeForm.orText, Hints.strip, Hints.stripAll, hequal]
  have hlineage : ((world []).lineage (.user 0)).reverse = [.builtin .object, .user 0] := rfl
  have hannotations : ((world []).classInfo 0).annotations = [("level", .orText .float)] := rfl
  have hclass : (Hints.ofClass (.user 0)).perform runner (world []) =
      (.ok [("level", .orText .float)], world []) := by
    unfold Hints.ofClass
    rw [perform_bind_get]
    simp [hlineage, hannotations, hlooked, hstripped, Hints.put, Hints.stripNamed]
  unfold Hints.knownOfClass Hints.orWritten
  rw [perform_bind_get, perform_tryCatch, hclass]

theorem asked_level : Member.Asked runner (world []) (.user 0) level := by
  have hpublic : Member.isPublic "level" = true := by decide +kernel
  have howner : Member.fieldOwner? (world []) (.user 0) "level" = some (.user 0) := by decide
  have hlevel : Member.fieldDescriptor (.user 0) "level"
      (Member.fieldHint (world []) (.user 0) "level" [("level", .orText .float)])
      (!Member.isFrozen (world []) (.user 0)) = level := by
    unfold Member.fieldDescriptor
    rw [hpublic]
    rfl
  have hrun : (Member.resolve (.field "level") (.cls (.user 0))).perform runner (world []) =
      (.ok level, world []) := by
    change (Member.fieldOf (.user 0) "level").perform runner (world []) = _
    unfold Member.fieldOf
    rw [perform_bind_get, howner, ← hlevel]
    exact perform_bind_ok knownOfClass_gauge
  exact .resolve hrun

/-- The contract takes setters for integers and for floats. -/
theorem check_pinned {b : Builtin} (hb : b = .int ∨ b = .float) :
    (Contract.check (world []) level (pinned b)).run.run .empty = (.ok (), .empty) := by
  have hassignable : Memo.isAssignable (world []) (.builtin b) level.valueType = pure true := by
    refine Memo.isAssignable_orText ?_
    rcases hb with rfl | rfl
    · exact Memo.isAssignable_float (world [])
    · exact assignableVia_of_passes (.inl rfl)
  have hpinned : (Contract.checkPinned (world []) level (pinned b)).run.run .empty = (.ok (), .empty) := by
    unfold Contract.checkPinned
    simp only [pinned]
    change ((Memo.isAssignable (world []) (.builtin b) level.valueType >>= _ : Ask Unit).run.run .empty) = _
    rw [hassignable]
    rfl
  exact (Contract.Passed.mk rfl rfl rfl rfl rfl hpinned rfl).check

theorem comparable_level {s : Shape} {b : Builtin} (hs : s = pinned b ∨ s = (pinned b).unpinned) :
    Comparable level s where
  declaring := rfl
  valueType := rfl
  base _ h := by rcases hs with rfl | rfl <;> cases h
  pinned _ h := by
    rcases hs with rfl | rfl <;> cases h
    exact ⟨rfl, .inl rfl⟩

/-- A setter that the contract takes sets what it converts a value to. -/
theorem built_setter {s : Shape} {b : Builtin} (hs : s = pinned b ∨ s = (pinned b).unpinned)
    (hcheck : (Contract.check (world []) level s).run.run .empty = (.ok (), .empty)) {v w : Value}
    (hconvert : (v.convertedBy (Plan.valueConverter? (world []) [] level s) "value").perform runner
      (world []) = (.ok w, world [])) :
    ∃ n σ a, (build (.proper level) (.proper s)).run.run (.start (world [])) = (.ok n, σ) ∧
      σ.accessors[n]? = some a ∧
      (a.look [.object 0, v]).perform runner (world []) = (.ok (), world []) ∧
      (a.call [.object 0, v]).perform runner (world []) = (.ok .nothing, worldAt w) := by
  have hname : Plan.functionName (world []) (Plan.ofComparable (world []) [] level s) =
      "Gauge_level_set0" := by
    rcases hs with rfl | rfl <;>
      change Plan.functionName (world []) (Plan.ofComparable (world []) [] level (pinned .int)) = _ <;>
      decide +kernel
  have hattribute : level.attributeName = "level" := by decide
  have hdefect : (Plan.ofComparable (world []) [] level s).defect? (world []) = none := by
    have hfile : level.namesFile (world []) = true := by decide +kernel
    have hprintable : s.isPrintable = true := by rcases hs with rfl | rfl <;> rfl
    refine Plan.defect?_eq_none hname hfile hprintable (by decide +kernel)
      (Text.normalForm_of_plain (by decide +kernel)) (.inr ?_)
    change level.attributeName ≠ _
    rw [hattribute]
    decide
  obtain ⟨n, σ, a, hrun, ha, hplan, hsubject⟩ := exists_build (σ := .start (world [])) hcheck
    (Plan.synthesize_ok (comparable_level hs)) hdefect
  have hplan' : a.plan =
      { descriptor := level
        shape := s
        operation := .set
        receiver := some ⟨.cls (.user 0), some (.user 0)⟩
        arguments := [⟨0, "value", .orText .float, Plan.valueConverter? (world []) [] level s⟩]
        result := none
        arrayArity := none } := by
    rw [hplan]
    rcases hs with rfl | rfl <;> rfl
  have hsubject' : a.subject = .receiver := by
    rw [hsubject]
    rcases hs with rfl | rfl <;> rfl
  have hlook : (a.look [.object 0, v]).perform runner (world []) = (.ok (), world []) := by
    unfold Accessor.look
    rw [hplan']
    rfl
  refine ⟨n, σ, a, hrun, ha, hlook, ?_⟩
  have hmember : (Accessor.accessMember a.plan [("instance", .object 0), ("value", v)] (.object 0)).perform
      runner (world []) = (.ok .nothing, worldAt w) := by
    unfold Accessor.accessMember
    rw [hplan', hattribute]
    exact (perform_bind_ok hconvert).trans rfl
  have hreach : (a.reach [.object 0, v]).perform runner (world []) = (.ok .nothing, worldAt w) := by
    rw [Accessor.reach_eq_look (by rw [hplan']) (by rw [hplan']; rfl), perform_bind_ok hlook, hsubject']
    rw [hplan'] at hmember ⊢
    exact hmember
  rw [Accessor.call, perform_bind_ok hreach, hplan']
  rfl

/-- Without a pinned type the value to be set is converted, to a float where that can be. -/
theorem valueConverter?_unpinned {b : Builtin} :
    ∃ cs e, Plan.valueConverter? (world []) [] level (pinned b).unpinned =
      some (.union (.float :: cs) [.builtin .float, .builtin .str] e) := by
  have hany : (Plan.pinnedForm (pinned b).unpinned).isAny = true := rfl
  have hfloat : (world []).converter? [] (.builtin .float) = some .float := by
    rw [Store.converter?_of_plain rfl rfl rfl]
    rfl
  have htext : (world []).converter? [] (.builtin .str) = (world []).plainConverter? (.builtin .str) :=
    Store.converter?_of_plain rfl rfl rfl
  rw [Plan.valueConverter?, if_pos hany]
  change ∃ cs e, (world []).converter? [] (.orText .float) = _
  rw [Store.converter?_of_union rfl rfl rfl]
  simp only [Store.converters?, hfloat, htext]
  exact ⟨_, _, rfl⟩

end Gauge
end MemberAccess
