import MemberAccess.Proofs.Building
import MemberAccess.Proofs.CacheKeys
import MemberAccess.Proofs.EqualConversions
import MemberAccess.Proofs.SparedCaches

/-!
# Equal shapes are interchangeable

Two shapes that are equal lead to the same accessor, as far as anyone who calls it can tell, so a cache
may answer a request for one by what it keeps for the other.  The shapes may differ in how their types are
written, in the receiver's and in the pinned one, and every consumer of those has to be gone through: the
contract asks whether they are assignable, the plan whether they are a number that widens, and the
converter of a result is chosen for the pinned one.

The last is where equality is too coarse in general.  The result of a member whose own type is unknown is
converted by the members of a pinned union in the order in which they stand there.
-/

namespace MemberAccess

open Engine

/-! ## §1  Outcomes that agree -/

/-- Two computations both fail, in the same kind of way, or both succeed, with results that are related. -/
inductive AgreeBy {α β : Type} (r : α → β → Prop) : Outcome α → Outcome β → Prop
  | ok {a : α} {b : β} : r a b → AgreeBy r (.ok a) (.ok b)
  | error {f g : Failure} : f.kind = g.kind → AgreeBy r (.error f) (.error g)

namespace AgreeBy

variable {α β γ δ : Type} {r : α → β → Prop} {q : γ → δ → Prop}

theorem refl (x : Outcome α) : AgreeBy (· = ·) x x := by
  cases x with
  | ok a => exact .ok rfl
  | error f => exact .error rfl

theorem mono {r' : α → β → Prop} {x : Outcome α} {y : Outcome β} (h : AgreeBy r x y)
    (hr : ∀ a b, r a b → r' a b) : AgreeBy r' x y := by
  cases h with
  | ok h => exact .ok (hr _ _ h)
  | error h => exact .error h

theorem bind {x : Outcome α} {y : Outcome β} {k : α → Outcome γ} {l : β → Outcome δ}
    (h : AgreeBy r x y) (hk : ∀ a b, r a b → AgreeBy q (k a) (l b)) :
    AgreeBy q (x >>= k) (y >>= l) := by
  cases h with
  | ok h => exact hk _ _ h
  | error h => exact .error h

end AgreeBy

/-! ## §2  What equal shapes share -/

namespace Shape

variable {s s' : Shape}

theorem family_congr (h : s.equal s' = true) : s.family = s'.family :=
  (equal_iff.mp h).1

theorem arity_congr (h : s.equal s' = true) : s.arity = s'.arity :=
  (equal_iff.mp h).2.1

theorem nonPublic_congr (h : s.equal s' = true) : s.nonPublic = s'.nonPublic :=
  (equal_iff.mp h).2.2.2.2

/-- Equal shapes hand the receiver in by the same mode, and typed ones of equal types. -/
theorem receiver_congr (h : s.equal s' = true) :
    (s.receiver = .none ∧ s'.receiver = .none) ∨ (s.receiver = .checked ∧ s'.receiver = .checked) ∨
      ∃ t t', s.receiver = .typed t ∧ s'.receiver = .typed t' ∧ t.equal t' = true := by
  have hr := (equal_iff.mp h).2.2.1
  cases hs : s.receiver <;> cases hs' : s'.receiver <;> simp_all [Receiver.equal]

/-- Equal shapes pin no type, or equal ones. -/
theorem result_congr (h : s.equal s' = true) :
    (s.result? = none ∧ s'.result? = none) ∨
      ∃ t t', s.result? = some t ∧ s'.result? = some t' ∧ t.equal t' = true := by
  have hr := (equal_iff.mp h).2.2.2.1
  cases hs : s.result? <;> cases hs' : s'.result? <;> simp_all [equalPinned]

theorem hasReceiver_congr (h : s.equal s' = true) : s.hasReceiver = s'.hasReceiver := by
  rcases receiver_congr h with ⟨hr, hr'⟩ | ⟨hr, hr'⟩ | ⟨t, t', hr, hr', -⟩
  · rw [hasReceiver, hasReceiver, hr, hr']
  · rw [hasReceiver, hasReceiver, hr, hr']
  · rw [hasReceiver, hasReceiver, hr, hr']
    rfl

end Shape

theorem Comparable.congr {d : MemberDescriptor} {s s' : Shape} (h : s.equal s' = true)
    (hc : Comparable d s) : Comparable d s' where
  declaring := hc.declaring
  valueType := hc.valueType
  base t' ht' := by
    rcases Shape.receiver_congr h with ⟨-, hr'⟩ | ⟨-, hr'⟩ | ⟨t, u, hr, hr', htu⟩ <;>
      rw [hr'] at ht' <;> cases ht'
    obtain ⟨h₁, h₂⟩ := hc.base t hr
    exact ⟨TypeForm.comparable_of_equal htu h₁, by rwa [← TypeForm.standsForUnion_congr htu]⟩
  pinned t' ht' := by
    rcases Shape.result_congr h with ⟨-, hr'⟩ | ⟨t, u, hr, hr', htu⟩ <;> rw [hr'] at ht' <;> cases ht'
    obtain ⟨h₁, h₂⟩ := hc.pinned t hr
    exact ⟨TypeForm.comparable_of_equal htu h₁, by rwa [← TypeForm.standsForUnion_congr htu]⟩

/-! ## §3  The contract -/

namespace Contract

variable {answer : TypeForm → TypeForm → Bool} {st : Store} {d : MemberDescriptor} {s s' : Shape}

theorem receiverFits_congr (ha : Answers answer) (h : s.equal s' = true) (hc : Comparable d s) :
    AgreeBy (· = ·) (receiverFits answer st d s) (receiverFits answer st d s') := by
  unfold receiverFits
  rcases Shape.receiver_congr h with ⟨hr, hr'⟩ | ⟨hr, hr'⟩ | ⟨t, t', hr, hr', htt⟩
  · rw [hr, hr']
    exact .ok rfl
  · rw [hr, hr']
    exact .ok rfl
  · obtain ⟨ht, hu⟩ := hc.base t hr
    rw [hr, hr']
    dsimp only
    rw [← assigns_congr ha htt (TypeForm.equal_refl d.declaring) ht hc.declaring hu]
    refine .bind (.refl _) ?_
    rintro b _ rfl
    cases b with
    | true => exact .ok rfl
    | false => exact .error rfl

theorem pinnedFits_congr (ha : Answers answer) (h : s.equal s' = true) (hc : Comparable d s) :
    AgreeBy (· = ·) (pinnedFits answer st d s) (pinnedFits answer st d s') := by
  unfold pinnedFits
  rcases Shape.result_congr h with ⟨hr, hr'⟩ | ⟨t, t', hr, hr', htt⟩
  · rw [hr, hr']
    exact .ok rfl
  · obtain ⟨ht, hu⟩ := hc.pinned t hr
    rw [hr, hr']
    dsimp only
    rw [← Shape.family_congr h,
      ← assigns_congr ha htt (TypeForm.equal_refl d.valueType) ht hc.valueType hu,
      ← assigns_congr ha (TypeForm.equal_refl d.valueType) htt hc.valueType ht hu.symm]
    split <;>
    · refine .bind (.refl _) ?_
      rintro b _ rfl
      cases b with
      | true => exact .ok rfl
      | false => exact .error rfl

/-- **Equal shapes keep the contract together**, or break it in the same kind of way. -/
theorem holds_congr (ha : Answers answer) (h : s.equal s' = true) (hc : Comparable d s) :
    AgreeBy (· = ·) (holds answer st d s) (holds answer st d s') := by
  have hfamily : checkFamily st d s = checkFamily st d s' := by
    simp only [checkFamily, Shape.family_congr h]
  have harity : checkArity st d s = checkArity st d s' := by
    simp only [checkArity, Shape.family_congr h, Shape.arity_congr h]
  have hvalue : checkValueKind st d s = checkValueKind st d s' := by
    unfold checkValueKind Shape.isValueProducing Shape.isEffect
    rw [Shape.family_congr h]
  have hstatic : checkStatic d s = checkStatic d s' := by
    simp only [checkStatic, Shape.hasReceiver_congr h]
  have hside : checkSide st d s = checkSide st d s' := by
    simp only [checkSide, Shape.family_congr h, Shape.nonPublic_congr h]
  unfold holds
  rw [hfamily, harity, hvalue, hstatic, hside]
  exact .bind (.refl _) fun _ _ _ => .bind (.refl _) fun _ _ _ => .bind (.refl _) fun _ _ _ =>
    .bind (.refl _) fun _ _ _ => .bind (receiverFits_congr ha h hc) fun _ _ _ =>
    .bind (pinnedFits_congr ha h hc) fun _ _ _ => .refl _

end Contract
/-! ## §4  The plan -/

namespace Plan

variable {st : Store} {rules : List Rule} {d : MemberDescriptor} {s s' : Shape}

/-- Whether a value of one type still has to be widened for another. -/
def widening (source target : TypeForm) : Bool :=
  source != target && source.isPromoting && target.isPromoting

theorem needsWidening_ok {source target : TypeForm} (hs : source.hashable = true)
    (ht : target.hashable = true) : needsWidening source target = .ok (widening source target) := by
  unfold needsWidening widens widening
  by_cases h : source = target
  · rw [if_pos h, h, bne_self_eq_false]
    rfl
  · rw [if_neg h, if_pos hs, if_pos ht, bne_iff_ne.mpr h]
    cases source.isPromoting <;> rfl

/-- Only classes widen, so what equals a type that widens is that type. -/
theorem eq_of_isPromoting {t u : TypeForm} (h : t.equal u = true) (ht : t.isPromoting = true) :
    t = u := by
  simp only [TypeForm.isPromoting, Bool.or_eq_true, beq_iff_eq] at ht
  rcases ht with (rfl | rfl) | rfl <;> exact (TypeForm.eq_cls_of_equal h).symm

theorem widening_congr_left {t u v : TypeForm} (h : t.equal u = true) :
    widening t v = widening u v := by
  cases ht : t.isPromoting with
  | true => rw [eq_of_isPromoting h ht]
  | false => simp [widening, ht, ← TypeForm.isPromoting_congr h]

/-- The normal form of the pinned type, where one is pinned. -/
def pinnedForm (s : Shape) : TypeForm := (s.result?.map TypeForm.normalize).getD (.builtin .any)

/-- The converter of a value to be set. -/
def valueConverter? (st : Store) (rules : List Rule) (d : MemberDescriptor) (s : Shape) :
    Option Converter :=
  if (pinnedForm s).isAny then st.converter? rules d.valueType
  else if widening (pinnedForm s) d.valueType.normalize then st.converter? rules d.valueType.normalize
  else none

/-- The converter of a result. -/
def resultConverter? (st : Store) (rules : List Rule) (d : MemberDescriptor) (s : Shape) :
    Option Converter :=
  match s.result? with
  | none => none
  | some t =>
      if t.normalize.isAny then none
      else if d.valueType.normalize = .builtin .any ∨ widening d.valueType.normalize t.normalize then
        st.converter? rules t.normalize
      else none

/-- The plan for a member and a shape whose types can be compared. -/
def ofComparable (st : Store) (rules : List Rule) (d : MemberDescriptor) (s : Shape) : Plan where
  descriptor := d
  shape := s
  operation := s.family.operation
  receiver := receiverStep d s
  arguments :=
    if s.family = .constructArray then parameterSteps st rules d itemName
    else if s.family = .set then [⟨0, "value", d.valueType, valueConverter? st rules d s⟩]
    else parameterSteps st rules d argumentName
  result :=
    if s.isValueProducing then
      some ⟨s.result?.getD (.builtin .any), resultConverter? st rules d s⟩
    else none
  arrayArity := if s.family = .constructArray then some d.arity else none

theorem hashable_normalize {t : TypeForm} (h : t.comparable = true) : t.normalize.hashable = true :=
  TypeForm.hashable_of_comparable (TypeForm.comparable_normalize h)

theorem valueStep_ok (hc : Comparable d s) :
    valueStep st rules d s = .ok ⟨0, "value", d.valueType, valueConverter? st rules d s⟩ := by
  have hp : (pinnedForm s).hashable = true := by
    unfold pinnedForm
    cases hr : s.result? with
    | none => rfl
    | some t => exact hashable_normalize (hc.pinned t hr).1
  unfold valueStep valueConverter?
  rw [← pinnedForm]
  dsimp only
  rw [needsWidening_ok hp (hashable_normalize hc.valueType)]
  split
  · rfl
  · cases widening (pinnedForm s) d.valueType.normalize <;> rfl

theorem resultStep_ok (hc : Comparable d s) :
    resultStep st rules d s =
      .ok ⟨s.result?.getD (.builtin .any), resultConverter? st rules d s⟩ := by
  unfold resultStep resultConverter?
  cases hr : s.result? with
  | none => rfl
  | some t =>
    dsimp only
    rw [needsWidening_ok (hashable_normalize hc.valueType) (hashable_normalize (hc.pinned t hr).1)]
    split
    · rfl
    · by_cases hany : d.valueType.normalize = .builtin .any
      · rw [if_pos hany, if_pos (.inl hany)]
        rfl
      · rw [if_neg hany]
        cases hw : widening d.valueType.normalize t.normalize with
        | true => simp; rfl
        | false => simp [hany]; rfl

/-- **Planning does not fail** where the types can be compared. -/
theorem synthesize_ok (hc : Comparable d s) :
    synthesize st rules d s = .ok (ofComparable st rules d s) := by
  unfold synthesize argumentSteps ofComparable
  rw [valueStep_ok hc, resultStep_ok hc]
  cases hf : s.family <;> simp [Shape.isValueProducing, Family.isValueProducing, hf]
  all_goals rfl

theorem receiverStep_congr (h : s.equal s' = true) : receiverStep d s = receiverStep d s' := by
  have hchecked : s.receiver = .checked ↔ s'.receiver = .checked := by
    rcases Shape.receiver_congr h with ⟨hr, hr'⟩ | ⟨hr, hr'⟩ | ⟨t, t', hr, hr', -⟩ <;>
      simp [hr, hr']
  simp only [receiverStep, Shape.hasReceiver_congr h, hchecked]

theorem pinnedForm_congr (h : s.equal s' = true) :
    (pinnedForm s).equal (pinnedForm s') = true := by
  unfold pinnedForm
  rcases Shape.result_congr h with ⟨hr, hr'⟩ | ⟨t, t', hr, hr', htt⟩
  · rw [hr, hr']
    exact TypeForm.equal_refl _
  · rw [hr, hr']
    exact TypeForm.normalize_congr htt

theorem valueConverter?_congr (h : s.equal s' = true) :
    valueConverter? st rules d s = valueConverter? st rules d s' := by
  have hp := pinnedForm_congr h
  unfold valueConverter?
  rw [TypeForm.isAny_congr hp, widening_congr_left hp]

/-- A result of known type is converted for equal pinned types in one way: it is widened, or it is not. -/
theorem resultConverter?_congr (h : s.equal s' = true) (hd : d.valueType.normalize ≠ .builtin .any) :
    resultConverter? st rules d s = resultConverter? st rules d s' := by
  unfold resultConverter?
  rcases Shape.result_congr h with ⟨hr, hr'⟩ | ⟨t, t', hr, hr', htt⟩
  · rw [hr, hr']
  · have hn := TypeForm.normalize_congr htt
    rw [hr, hr']
    dsimp only
    rw [TypeForm.isAny_congr hn]
    cases hp : t.normalize.isPromoting with
    | true => rw [eq_of_isPromoting hn hp]
    | false =>
      have hp' : t'.normalize.isPromoting = false := by rw [← TypeForm.isPromoting_congr hn, hp]
      simp [widening, hp, hp', hd]

/-- A result of unknown type is converted by the converter of the pinned type. -/
theorem resultConverter?_of_any {t : TypeForm} (hd : d.valueType.normalize = .builtin .any)
    (hr : s.result? = some t) : resultConverter? st rules d s = st.converter? rules t.normalize := by
  simp only [resultConverter?, hr, hd, true_or, if_true]
  split
  · rename_i hany
    rw [Store.converter?_of_isAny]
    simp only [TypeForm.isAny, Bool.or_eq_true, beq_iff_eq] at hany
    rcases hany with hany | hany <;> rw [hany] <;> rfl
  · rfl

/-- **The plans for equal shapes** differ in what they do with a result, and in nothing else. -/
theorem ofComparable_congr (h : s.equal s' = true) :
    ofComparable st rules d s' =
      { ofComparable st rules d s with
        shape := s'
        result := (ofComparable st rules d s').result } := by
  unfold ofComparable
  rw [Shape.family_congr h, receiverStep_congr h, valueConverter?_congr h]

end Plan

/-! ## §5  The accessor -/

namespace Accessor

/-- Two accessors that do the same up to their results: their plans differ in the shape and in what is
done with a result. -/
structure SameReach (a b : Accessor) : Prop where
  plan : ∃ s r, b.plan = { a.plan with shape := s, result := r }
  subject : b.subject = a.subject

variable {a b : Accessor}

/-- Such accessors go through a call in the same way up to its access. -/
theorem SameReach.reach_eq (h : SameReach a b) : a.reach = b.reach := by
  obtain ⟨⟨s, r, hp⟩, hs⟩ := h
  funext arguments
  simp only [reach, hp, hs]
  rfl

/-- What a call gives for what its access gave: nothing for a member used for its effect, else what the
converter makes of it. -/
theorem finish_eq (p : Plan) (v : Value) :
    finish p v =
      match p.operation, p.result.map (·.converter) with
      | .set, _ | _, none => return .nothing
      | _, some c => resultBy p.descriptor c v := by
  unfold finish resultBy
  rcases p.result with _ | ⟨t, _ | c⟩ <;> cases p.operation <;> rfl

/-- Accessors that convert their results by one converter do the same. -/
theorem SameReach.call_eq (h : SameReach a b)
    (hr : a.plan.result.map (·.converter) = b.plan.result.map (·.converter)) : a.call = b.call := by
  funext arguments
  unfold call
  rw [h.reach_eq]
  obtain ⟨⟨s, r, hp⟩, -⟩ := h
  have hf : finish a.plan = finish b.plan := by
    funext v
    rw [finish_eq, finish_eq, hr, hp]
  rw [hf]

/-- Accessors whose results are converted alike are called alike. -/
theorem SameReach.call_alike (h : SameReach a b) {arguments : List Value} {run : Runner} {st : Store}
    (hr : ∀ v st', (a.reach arguments).perform run st = (.ok v, st') →
      AlikeRuns ((finish a.plan v).perform run st') ((finish b.plan v).perform run st')) :
    AlikeRuns ((a.call arguments).perform run st) ((b.call arguments).perform run st) := by
  unfold call
  rw [Action.perform_bind, Action.perform_bind, ← h.reach_eq]
  rcases hreach : (a.reach arguments).perform run st with ⟨f | v, st'⟩
  · exact .refl _
  · exact hr v st' hreach

/-- The texts of two such plans have the same defects. -/
theorem ofPlan_congr {st : Store} {listed : Bool} {p : Plan} {s : Shape} {r : Option ResultStep}
    (h : p.shape.equal s = true) :
    AgreeBy (fun a b => SameReach a b ∧ a.plan = p ∧ b.plan = { p with shape := s, result := r })
      (ofPlan st listed p) (ofPlan st listed { p with shape := s, result := r }) := by
  have haccess : Plan.accessWord s = Plan.accessWord p.shape := by
    rw [Plan.accessWord, Plan.accessWord, Shape.family_congr h, Shape.arity_congr h]
  have hname : Plan.functionName st { p with shape := s, result := r } = Plan.functionName st p := by
    unfold Plan.functionName
    rw [haccess]
  have hdefect : Plan.defect? st { p with shape := s, result := r } = Plan.defect? st p := by
    unfold Plan.defect? Plan.isWellFormed
    rw [hname, Shape.isPrintable_congr h]
    rfl
  unfold ofPlan
  rw [hdefect]
  split
  · exact .error rfl
  · exact .ok ⟨⟨⟨s, r, rfl⟩, rfl⟩, rfl, rfl⟩

end Accessor

/-! ## §6  Interchangeable shapes -/

/-- **No caller can tell two accessors apart.**  Where the type of the member is known, or nothing is
pinned or given, they do the very same.  Where it is not known, they do the same but for the words in
which a result is refused, as long as the order of the members of the pinned types is settled for each
result. -/
structure Interchangeable (st : Store) (rules : List Rule) (d : MemberDescriptor) (s s' : Shape)
    (a b : Accessor) : Prop where
  known : d.valueType.normalize ≠ .builtin .any ∨ s.isValueProducing = false ∨ s.result? = none →
    a.call = b.call
  unknown : RespectsEquality rules → ∀ arguments run st₁,
    (∀ v st₂, (a.reach arguments).perform run st₁ = (.ok v, st₂) →
      ∀ t ∈ s.result?, ∀ t' ∈ s'.result?,
        Accessor.OrderSettled st rules d t.normalize t'.normalize v run st₂) →
    AlikeRuns ((a.call arguments).perform run st₁) ((b.call arguments).perform run st₁)

namespace Engine

variable {d : MemberDescriptor} {s s' : Shape}

variable {st : Store} {rules : List Rule}

theorem finish_of_valueProducing (h : s.isValueProducing = true) (v : Value) :
    Accessor.finish (Plan.ofComparable st rules d s) v =
      Accessor.resultBy d (Plan.resultConverter? st rules d s) v := by
  rw [Accessor.finish_eq]
  unfold Plan.ofComparable
  dsimp only
  rw [if_pos h]
  unfold Shape.isValueProducing at h
  cases hf : s.family <;> rw [hf] at h <;> first | rfl | exact absurd h (by decide)

theorem finish_of_effect (h : s.isValueProducing = false) (v : Value) :
    Accessor.finish (Plan.ofComparable st rules d s) v = return .nothing := by
  rw [Accessor.finish_eq]
  unfold Plan.ofComparable
  dsimp only
  rw [if_neg (by simp [h])]
  cases s.family <;> rfl

/-- Accessors made for equal shapes are interchangeable. -/
theorem interchangeable_of_sameReach {a b : Accessor} (h : s.equal s' = true) (hc : Comparable d s)
    (hr : Accessor.SameReach a b) (ha : a.plan = Plan.ofComparable st rules d s)
    (hb : b.plan = Plan.ofComparable st rules d s') : Interchangeable st rules d s s' a b := by
  have hproducing : s'.isValueProducing = s.isValueProducing := by
    rw [Shape.isValueProducing, Shape.isValueProducing, Shape.family_congr h]
  have hunpinned : s.result? = none →
      Plan.resultConverter? st rules d s = Plan.resultConverter? st rules d s' := by
    intro hn
    rcases Shape.result_congr h with ⟨hr, hr'⟩ | ⟨t, t', hr, -, -⟩
    · rw [Plan.resultConverter?, Plan.resultConverter?, hr, hr']
    · rw [hr] at hn
      cases hn
  constructor
  case known =>
    intro hd
    refine hr.call_eq ?_
    have hconv : s.isValueProducing = true →
        Plan.resultConverter? st rules d s = Plan.resultConverter? st rules d s' := by
      intro hp
      rcases hd with hd | hd | hd
      · exact Plan.resultConverter?_congr h hd
      · rw [hp] at hd
        cases hd
      · exact hunpinned hd
    rw [ha, hb]
    unfold Plan.ofComparable
    dsimp only
    rw [hproducing]
    split
    · rw [Option.map_some, Option.map_some, hconv ‹_›]
    · rfl
  case unknown =>
    intro hrules arguments run st₁ hsettled
    refine hr.call_alike ?_
    intro v st₂ hreach
    rw [ha, hb]
    cases hp : s.isValueProducing with
    | false =>
      rw [finish_of_effect hp, finish_of_effect (hproducing.trans hp)]
      exact .refl _
    | true =>
      rw [finish_of_valueProducing hp, finish_of_valueProducing (hproducing.trans hp)]
      rcases Shape.result_congr h with ⟨hn, -⟩ | ⟨t, t', ht, ht', htt⟩
      · rw [hunpinned hn]
        exact .refl _
      · by_cases hd : d.valueType.normalize = .builtin .any
        · rw [Plan.resultConverter?_of_any hd ht, Plan.resultConverter?_of_any hd ht']
          exact Accessor.alike_resultBy hrules (TypeForm.normalize_congr htt)
            (TypeForm.comparable_normalize (hc.pinned t ht).1) (hsettled v st₂ hreach t ht t' ht')
        · rw [Plan.resultConverter?_congr h hd]
          exact .refl _

/-- **Verdicts on equal shapes agree**: a failure of one kind, or interchangeable accessors. -/
theorem verdict_congr {answer : TypeForm → TypeForm → Bool} {listed : Bool}
    (ha : Answers answer) (h : s.equal s' = true) (hc : Comparable d s) :
    AgreeBy (Interchangeable st rules d s s') (verdict answer st rules listed d s)
      (verdict answer st rules listed d s') := by
  unfold verdict
  refine .bind (Contract.holds_congr ha h hc) ?_
  intro _ _ _
  rw [made, made, Plan.synthesize_ok hc, Plan.synthesize_ok (hc.congr h)]
  have hplan : Plan.ofComparable st rules d s' =
      { Plan.ofComparable st rules d s with
        shape := s'
        result := (Plan.ofComparable st rules d s').result } := Plan.ofComparable_congr h
  rw [hplan]
  refine (Accessor.ofPlan_congr h).mono ?_
  intro a b hab
  exact interchangeable_of_sameReach h hc hab.1 hab.2.1 (hab.2.2.trans hplan.symm)

/-- Building for two shapes in two sessions fails in the same kind of way, or gives interchangeable
accessors. -/
def BuildsAlike (d : MemberDescriptor) (s s' : Shape) (σ σ' : Session) : Prop :=
  (∃ f g σ₁ σ₂, (build (.proper d) (.proper s)).run.run σ = (.error f, σ₁) ∧
    (build (.proper d) (.proper s')).run.run σ' = (.error g, σ₂) ∧ f.kind = g.kind) ∨
  ∃ n m σ₁ σ₂ a b, (build (.proper d) (.proper s)).run.run σ = (.ok n, σ₁) ∧
    (build (.proper d) (.proper s')).run.run σ' = (.ok m, σ₂) ∧
    σ₁.accessors[n]? = some a ∧ σ₂.accessors[m]? = some b ∧
    Interchangeable σ.store σ.rules d s s' a b

theorem buildsAlike_of_sameGrounds {σ σ' : Session} (h : s.equal s' = true) (hc : Comparable d s)
    (hg : SameGrounds σ σ') : BuildsAlike d s s' σ σ' := by
  have hv : AgreeBy (Interchangeable σ.store σ.rules d s s') (verdictIn σ d s) (verdictIn σ' d s') := by
    rw [verdictIn_congr hg]
    exact verdict_congr (Memo.answers_answer _ _) h hc
  rcases run_build σ hc with
    ⟨f, σ₁, hf, hrun, -, -, -⟩ | ⟨a, σ₁, ha, hrun, -, -, hacc⟩ <;>
  rcases run_build σ' (hc.congr h) with
    ⟨f', σ₂, hf', hrun', -, -, -⟩ | ⟨a', σ₂, ha', hrun', -, -, hacc'⟩
  · rw [hf, hf'] at hv
    cases hv with
    | error hk => exact .inl ⟨f, f', σ₁, σ₂, hrun, hrun', hk⟩
  · rw [hf, ha'] at hv
    cases hv
  · rw [ha, hf'] at hv
    cases hv
  · rw [ha, ha'] at hv
    cases hv with
    | ok hi =>
      exact .inr ⟨_, _, σ₁, σ₂, a, a', hrun, hrun', by simp [hacc], by simp [hacc'], hi⟩

/-- **Equal shapes are interchangeable.**  Built in one session they both fail in the same kind of way or
give accessors that no caller can tell apart; and a cache that was asked for one shape answers a request
for the other by the accessor that it made, which could not be told from one built for the other shape
now. -/
theorem equal_shapes_interchangeable (h : s.equal s' = true) (hc : Comparable d s) (σ : Session) :
    BuildsAlike d s s' σ σ ∧
    ∀ i n σ₁, i < σ.caches.size → Builds σ i →
      (σ.cacheAt i).find? ⟨d, s⟩ = none →
      (request i (.proper d) (.proper s)).run.run σ = (.ok n, σ₁) →
      (request i (.proper d) (.proper s')).run.run σ₁ =
          (.ok n, σ₁.putCache i (σ₁.cacheAt i).hit) ∧
        ∃ m σ₂ a b, (build (.proper d) (.proper s')).run.run σ₁ = (.ok m, σ₂) ∧
          σ₁.accessors[n]? = some a ∧ σ₂.accessors[m]? = some b ∧
          Interchangeable σ.store σ.rules d s s' a b := by
  refine ⟨buildsAlike_of_sameGrounds h hc ⟨rfl, rfl, rfl, rfl⟩, ?_⟩
  intro i n σ₁ hi hscheme hf hr
  have hkeys : (CacheKey.mk d s).equal ⟨d, s'⟩ = true :=
    CacheKey.equal_iff.mpr ⟨MemberDescriptor.sameMember_iff.mpr ⟨rfl, TypeForm.equal_refl _, rfl⟩, h⟩
  have hk : (CacheKey.mk d s).isHashable = true := by
    by_contra hk
    rw [request, run_requestBy_unhashable (Bool.eq_false_iff.mpr hk)] at hr
    cases hr
  have hp : s.isPrintable = true := by
    by_contra hp
    rw [request, run_requestBy_undescribed hk (Bool.eq_false_iff.mpr hp) hf] at hr
    cases hr
  rcases hb : (build (.proper d) (.proper s)).run.run (missed σ i ⟨d, s⟩) with ⟨r, σ'⟩
  rw [run_request_missing hi hscheme hk hp hf hb] at hr
  cases hr
  have hg : SameGrounds (missed σ i ⟨d, s⟩) (σ'.putCache i ((σ.cacheAt i).miss.keep ⟨d, s⟩ n)) ∧
      σ'.caches = (missed σ i ⟨d, s⟩).caches := by
    rcases run_build (missed σ i ⟨d, s⟩) hc with
      ⟨f, σ₂, -, hrun, -, -, -⟩ | ⟨a, σ₂, -, hrun, hg, hcaches, -⟩
    · rw [hb] at hrun
      cases hrun
    · rw [hb] at hrun
      cases hrun
      exact ⟨⟨hg.store, hg.rules, hg.settings, hg.answer⟩, hcaches⟩
  constructor
  · refine run_requestBy_kept (CacheKey.isHashable_congr hkeys ▸ hk) ?_
    have hi' : i < σ'.caches.size := by simpa [hg.2, missed] using hi
    rw [AccessorCache.settle, Session.cacheAt_putCache_self hi', ← AccessorCache.find?_congr hkeys]
    exact AccessorCache.find?_keep hf
  · rcases buildsAlike_of_sameGrounds h hc hg.1 with
      ⟨f, g, σ₂, σ₃, hrun, -, -⟩ | ⟨n', m, σ₂, σ₃, a, b, hrun, hrun', ha, hb', hint⟩
    · rw [hb] at hrun
      cases hrun
    · rw [hb] at hrun
      cases hrun
      exact ⟨m, σ₃, a, b, hrun', ha, hb', hint⟩

end Engine

/-! ## §7  A member of unknown type -/

namespace UnknownThree

open MemberAccess.Action

/-- A class with a static member that gives 3 and does not say what it gives. -/
def world : Store :=
  { Store.empty with
    classes := #[{ (default : ClassInfo) with
      name := "Answers"
      qualifiedName := "Answers"
      bases := [.builtin .object]
      lineage := [.user 0, .builtin .object]
      entries := [("three", .atom (.static (.user 0)))]
      hasFields := true }]
    functions := #[{ (default : Function) with
      name := "three"
      qualifiedName := "Answers.three"
      body := .statements [.result (.constant (.int 3))] }] }

/-- The member. -/
def three : MemberDescriptor :=
  { MemberDescriptor.bare .method (.cls (.user 0)) "three" with
    isStatic := true
    target := .routine (.user 0) }

/-- The shape that pins what it gives to a union of two classes. -/
def pinned (t u : Builtin) : Shape :=
  { family := .func
    arity := 0
    receiver := .none
    result? := some (.union 0 .bar [.builtin t, .builtin u])
    nonPublic := true
    arity_le := Nat.zero_le _ }

theorem equal_pinned (t u : Builtin) : (pinned t u).equal (pinned u t) = true := by
  simp [Shape.equal, pinned, Shape.equalPinned, Receiver.equal, TypeForm.equal, TypeForm.within,
    TypeForm.someEqual]

theorem comparable_three (t u : Builtin) : Comparable three (pinned t u) where
  declaring := rfl
  valueType := rfl
  base _ h := nomatch h
  pinned _ h := by
    cases h
    exact ⟨rfl, .inr rfl⟩

/-- Two equal shapes at which the accessors are interchangeable. -/
theorem pinned_interchangeable :
    (pinned .float .complex).equal (pinned .complex .float) = true ∧
      Comparable three (pinned .float .complex) ∧
      BuildsAlike three (pinned .float .complex) (pinned .complex .float) (.start world) (.start world) :=
  ⟨equal_pinned _ _, comparable_three _ _,
    (equal_shapes_interchangeable (equal_pinned .float .complex) (comparable_three _ _) (.start world)).1⟩

/-- Whatever is pinned, an accessor of the plan for it is made. -/
theorem verdict_three (t u : Builtin) :
    ∃ a, verdictIn (.start world) three (pinned t u) = .ok a ∧
      a.plan = Plan.ofComparable world [] three (pinned t u) ∧
      a.subject = .target (.routine (.user 0)) := by
  have hfits : Contract.pinnedFits (Memo.empty.answer world) world three (pinned t u) = .ok () := by
    have hpass : assigns (Memo.empty.answer world) three.valueType
        (.union 0 .bar [.builtin t, .builtin u]) = .ok true := assignableVia_of_passes (.inr (.inr rfl))
    unfold Contract.pinnedFits
    simp only [pinned]
    rw [hpass]
    rfl
  have hholds : Contract.holds (Memo.empty.answer world) world three (pinned t u) = .ok () := by
    unfold Contract.holds
    rw [hfits]
    rfl
  have hname : Plan.functionName world (Plan.ofComparable world [] three (pinned t u)) =
      "Answers_three_func0" := by
    change Plan.functionName world (Plan.ofComparable world [] three (pinned .float .complex)) = _
    decide +kernel
  have hfile : three.namesFile world = true := by decide +kernel
  have hidentifier : Text.isIdentifier "Answers_three_func0" = true := by decide +kernel
  have hdefect : (Plan.ofComparable world [] three (pinned t u)).defect? world = none :=
    Plan.defect?_eq_none hname hfile rfl hidentifier (Text.normalForm_of_plain (by decide))
      (.inl fun h => by cases h)
  obtain ⟨a, ha, hplan, hsubject⟩ := Accessor.ofPlan_of_defect? true hdefect
  refine ⟨a, ?_, hplan, hsubject⟩
  rw [← ha]
  change (Contract.holds (Memo.empty.answer world) world three (pinned t u) >>= _) = _
  rw [hholds]
  change (Plan.synthesize world [] three (pinned t u) >>= fun p => Accessor.ofPlan world true p) = _
  rw [Plan.synthesize_ok (comparable_three t u)]
  rfl

/-- Building makes an accessor that converts the 3 of the member for what is pinned. -/
theorem build_three {t u : Builtin} {c : Converter} {w : Value}
    (hc : world.converter? [] (.union 0 .bar [.builtin t, .builtin u]) = some c)
    (hw : ∀ place, (c.apply (.int 3) place).perform (runFunction callDepth) world = (.ok w, world)) :
    ∃ n σ a, (build (.proper three) (.proper (pinned t u))).run.run (.start world) = (.ok n, σ) ∧
      σ.accessors[n]? = some a ∧ (a.call []).run world = (.ok w, world) := by
  obtain ⟨a, ha, hplan, hsubject⟩ := verdict_three t u
  rcases run_build (.start world) (comparable_three t u) with
    ⟨f, σ, hf, -⟩ | ⟨b, σ, hb, hrun, -, -, haccessors⟩
  · rw [ha] at hf
    cases hf
  · rw [ha] at hb
    cases hb
    refine ⟨_, σ, a, hrun, by simp [haccessors], ?_⟩
    have hreach : (a.reach []).run world = (.ok (.int 3), world) := by
      unfold Accessor.reach
      rw [hplan, hsubject]
      rfl
    refine (perform_bind_ok hreach).trans ?_
    rw [hplan, finish_of_valueProducing rfl, Plan.resultConverter?_of_any rfl rfl]
    change (Accessor.resultBy three
      (world.converter? [] (.union 0 .bar [.builtin t, .builtin u])) (.int 3)).perform _ world = _
    rw [hc]
    exact Accessor.convertResult_ok (hw _)

/-- The converter of a pinned type tries those of its two members. -/
theorem converter_pinned {t u : Builtin} {c c' : Converter}
    (ht : world.converter? [] (.builtin t) = some c) (hu : world.converter? [] (.builtin u) = some c') :
    ∃ e, world.converter? [] (.union 0 .bar [.builtin t, .builtin u]) =
      some (.union [c, c'] ([.builtin t, .builtin u].filterMap TypeForm.runtimeClass?) e) := by
  rw [Store.converter?_of_union rfl rfl rfl]
  simp only [Store.converters?, ht, hu]
  exact ⟨_, rfl⟩

/-- **The order of the members of a pinned union shows** in what becomes of a value that is of none of
them: of two equal shapes one gives the float and the other the complex number. -/
theorem order_of_members_shows :
    (pinned .float .complex).equal (pinned .complex .float) = true ∧
    (∃ n σ a,
      (build (.proper three) (.proper (pinned .float .complex))).run.run (.start world) = (.ok n, σ) ∧
      σ.accessors[n]? = some a ∧
      (a.call []).run world = (.ok (.float ⟨0x4008000000000000⟩), world)) ∧
    ∃ n σ a,
      (build (.proper three) (.proper (pinned .complex .float))).run.run (.start world) = (.ok n, σ) ∧
      σ.accessors[n]? = some a ∧
      (a.call []).run world = (.ok (.complex ⟨0x4008000000000000⟩ ⟨0⟩), world) := by
  have hfloat : world.converter? [] (.builtin .float) = some .float := by
    rw [Store.converter?_of_plain rfl rfl rfl]
    rfl
  have hcomplex : world.converter? [] (.builtin .complex) = some .complex := by
    rw [Store.converter?_of_plain rfl rfl rfl]
    rfl
  have hthree : Number.Double.ofInt 3 = some ⟨0x4008000000000000⟩ := by decide +kernel
  have hzero : Number.Double.zero false = ⟨0⟩ := by decide +kernel
  obtain ⟨e, hfirst⟩ := converter_pinned hfloat hcomplex
  obtain ⟨e', hsecond⟩ := converter_pinned hcomplex hfloat
  refine ⟨equal_pinned _ _, build_three hfirst ?_, build_three hsecond ?_⟩
  · intro place
    refine Converter.apply_union_of_first rfl ?_
    rw [Converter.apply]
    exact Value.convertFloat_int hthree
  · intro place
    refine Converter.apply_union_of_first rfl ?_
    rw [Converter.apply, ← hzero]
    exact Value.convertComplex_int hthree

end UnknownThree
end MemberAccess
