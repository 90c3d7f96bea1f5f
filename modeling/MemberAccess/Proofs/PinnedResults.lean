import MemberAccess.Proofs.EqualShapes
import MemberAccess.Proofs.FittingConversions

/-!
# Results of a pinned type

An accessor may promise results of a type.  The contract finds the type of the member assignable to it, and
from then on the plan leaves the conversion of the result out, unless the type of the member is unknown or
both types are numbers of which one widens into the other.

What the member gives then fits the pinned type as far as it fits its own by a member that the pinned type
does not hide (`Engine.pinned_results_fit`).  Inside of unions the plan forgets that assignability lets
numbers through unwidened and values of unknown type through unlooked at: a member that gives integers,
pinned to a union of floats and texts, gives integers (`KnownThree.pinned_union_gives_integer`).
-/

namespace MemberAccess

open MemberAccess.Action

/-! ## §1  The conversion of a result -/

namespace Plan

variable {st : Store} {rules : List Rule} {d : MemberDescriptor} {s : Shape}

/-- Where it can be asked whether a value has to be widened, the answer is whether the types are two
different numbers. -/
theorem needsWidening_eq {source target : TypeForm} {b : Bool}
    (h : needsWidening source target = .ok b) : b = widening source target := by
  unfold needsWidening widens at h
  unfold widening
  by_cases heq : source = target
  · rw [if_pos heq] at h
    cases h
    simp [heq]
  · rw [if_neg heq] at h
    cases hs : source.hashable with
    | false =>
      rw [hs] at h
      cases h
    | true =>
      cases hp : source.isPromoting with
      | false =>
        rw [hs, hp] at h
        cases h
        simp
      | true =>
        cases ht : target.hashable with
        | false =>
          rw [hs, hp, ht] at h
          cases h
        | true =>
          rw [hs, hp, ht] at h
          cases h
          simp [heq]

/-- The step for a result, where there is one. -/
theorem resultStep_eq {r : ResultStep} (h : resultStep st rules d s = .ok r) :
    r = ⟨s.result?.getD (.builtin .any), resultConverter? st rules d s⟩ := by
  unfold resultStep at h
  unfold resultConverter?
  cases hr : s.result? with
  | none =>
    rw [hr] at h
    cases h
    rfl
  | some t =>
    rw [hr] at h
    dsimp only at h ⊢
    by_cases hany : t.normalize.isAny = true
    · rw [if_pos hany] at h ⊢
      cases h
      rfl
    · rw [if_neg hany] at h ⊢
      by_cases hunknown : d.valueType.normalize = .builtin .any
      · rw [if_pos hunknown] at h
        rw [if_pos (.inl hunknown)]
        cases h
        rfl
      · rw [if_neg hunknown] at h
        cases hw : needsWidening d.valueType.normalize t.normalize with
        | error f =>
          rw [hw] at h
          cases h
        | ok b =>
          rw [hw] at h
          rw [← needsWidening_eq hw]
          cases b <;> cases h <;> simp [hunknown]

end Plan

namespace Accessor

/-- A converted result was given by its converter. -/
theorem perform_of_convertResult {d : MemberDescriptor} {c : Converter} {v w : Value} {run : Runner}
    {st st' : Store} (h : (convertResult d c v).perform run st = (.ok w, st')) :
    (c.apply v ("result of the " ++ d.text st)).perform run st = (.ok w, st') := by
  rw [convertResult, perform_bind_get, perform_tryCatch] at h
  rcases happly : (c.apply v ("result of the " ++ d.text st)).perform run st with ⟨f | w', st''⟩
  · rw [happly] at h
    simp only at h
    split at h <;> cases h
  · rw [happly] at h
    exact h

end Accessor

namespace Engine

variable {σ : Session} {d : MemberDescriptor} {s : Shape} {a : Accessor}

/-- An accessor that gives a value converts what its access gave. -/
theorem finish_of_built (hb : Built σ d s a) (hs : s.isValueProducing = true) (v : Value) :
    Accessor.finish a.plan v =
      Accessor.resultBy d (Plan.resultConverter? σ.store σ.rules d s) v := by
  obtain ⟨arguments, result, -, hresult, hp⟩ := exists_of_synthesize hb.plan
  rw [hs, if_pos rfl] at hresult
  cases hstep : Plan.resultStep σ.store σ.rules d s with
  | error f =>
    rw [hstep] at hresult
    cases hresult
  | ok r =>
    rw [hstep] at hresult
    cases hresult
    rw [Accessor.finish_eq, hp, Plan.resultStep_eq hstep]
    cases hf : s.family <;> first | rfl | simp [Shape.isValueProducing, Family.isValueProducing, hf] at hs

/-! ## §2  Pinned results -/

/-- **A pinned type is honoured** where the type of the member is unknown, where the result is widened, and
where the result fits the type of the member by a member of it that the pinned type does not hide: what the
accessor gives fits the pinned type. -/
theorem pinned_results_fit {n : Nat} {σ₁ : Session} {pinned : TypeForm} (hσ : σ.Sound)
    (hs : s.isValueProducing = true) (hpinned : s.result? = some pinned) (hvalue : d.valueType.Settled)
    (hsettled : pinned.Settled) (hrules : RulesFit σ.store σ.rules)
    (hrun : (build (.proper d) (.proper s)).run.run σ = (.ok n, σ₁)) (ha : σ₁.accessors[n]? = some a)
    {run : Runner} {st st₁ st₂ : Store} {arguments : List Value} {v w : Value}
    (hreach : (a.reach arguments).perform run st = (.ok v, st₁))
    (hcall : (a.call arguments).perform run st = (.ok w, st₂))
    (hsame : σ.store.SameHierarchy st₁)
    (hrespects : σ.store.Respects st₁ (v.IsOf run st₁) (st₁.classOf v) d.valueType pinned)
    (hfits : d.valueType.normalize = .builtin .any ∨
      Plan.widening d.valueType.normalize pinned.normalize = true ∨
      FitsOpenly σ.store (v.IsOf run st₁) v d.valueType pinned)
    (hbar : ¬ w.SeenAs run st₂ (.builtin .barUnion)) :
    Fits σ.store (w.SeenAs run st₂) w pinned := by
  have hbuilt := built_of_run hrun ha
  have hfinish : (Accessor.resultBy d (Plan.resultConverter? σ.store σ.rules d s) v).perform run st₁ =
      (.ok w, st₂) := by
    rw [Accessor.call, perform_bind_ok hreach, finish_of_built hbuilt hs] at hcall
    exact hcall
  -- a converter of the pinned type gives what fits, and is missing where everything fits
  have hconverted : Plan.resultConverter? σ.store σ.rules d s =
      σ.store.converter? σ.rules pinned.normalize → Fits σ.store (w.SeenAs run st₂) w pinned := by
    intro heq
    rw [← fits_normalize hsettled]
    cases hc : σ.store.converter? σ.rules pinned.normalize with
    | none => exact Store.fits_of_no_converter hsettled.normalize hc
    | some c =>
      rw [heq, hc] at hfinish
      exact Store.fits_of_convert hσ.ordered hrules hsettled.normalize hc
        (Accessor.perform_of_convertResult hfinish) hbar
  by_cases hany : pinned.normalize.isAny = true
  · exact .plain (TypeForm.isUnion_of_isAny hany) (.anything hany)
  by_cases hconverts : d.valueType.normalize = .builtin .any ∨
      Plan.widening d.valueType.normalize pinned.normalize = true
  · refine hconverted ?_
    simp only [Plan.resultConverter?, hpinned, hany, hconverts, if_true]
    rfl
  · have hkept : Plan.resultConverter? σ.store σ.rules d s = none := by
      simp only [Plan.resultConverter?, hpinned, hconverts, if_false]
      split <;> rfl
    rw [hkept] at hfinish
    cases hfinish
    obtain ⟨⟨m, hcheck⟩, -⟩ := passed_of_build hrun ha
    obtain ⟨m₁, m₂, hm₁, hassignable⟩ := Contract.exists_accepted_pinned hσ.faithful hpinned hcheck
    have hset : s.family ≠ .set := by
      intro hset
      simp [Shape.isValueProducing, Family.isValueProducing, hset] at hs
    rw [if_neg hset] at hassignable
    have hopen := (hfits.resolve_left (not_or.mp hconverts).1).resolve_left (not_or.mp hconverts).2
    exact (Fits.of_flows hσ.ordered hsame hvalue hsettled
      (flows_of_accepted hm₁ hvalue hsettled hassignable) hrespects hopen).mono fun _ h => .now h

end Engine

/-! ## §3  A class or texts -/

/-- A class or texts. -/
def TypeForm.orText (b : Builtin) : TypeForm := .union 0 .bar [.builtin b, .builtin .str]

section
variable {a b : Builtin}

theorem TypeForm.leaves_orText : (orText b).leaves = [.builtin b, .builtin .str] := by
  rw [leaves_of_union (t := orText b) rfl]
  simp

theorem TypeForm.settled_orText : (orText b).Settled := by
  intro u hu
  simp only [leaves_orText, List.mem_cons, List.not_mem_nil, or_false] at hu
  rcases hu with rfl | rfl <;> exact TypeForm.isLeaf_cls

theorem TypeForm.testedPlainly_orText {st : Store} (hplain : st.testsMembers (.builtin b) = false)
    (hany : b ≠ .any) : (orText b).TestedPlainly st := by
  intro u hu
  simp only [leaves_orText, List.mem_cons, List.not_mem_nil, or_false] at hu
  rcases hu with rfl | rfl
  · exact testedPlainly_cls hplain (by simpa using hany) (.builtin b) (by simp)
  · exact testedPlainly_cls (c := .builtin .str) rfl (by decide) (.builtin .str) (by simp)

/-- What flows into the class flows into the class or texts, whatever is remembered. -/
theorem Memo.isAssignable_orText {st : Store}
    (h : Memo.isAssignable st (.builtin a) (.builtin b) = pure true) :
    Memo.isAssignable st (.builtin a) (.orText b) = pure true := by
  by_cases hpasses : (TypeForm.builtin a).passes (.orText b)
  · exact assignableVia_of_passes hpasses
  · rw [Memo.isAssignable, assignableVia_to_union hpasses rfl, List.anyM_cons]
    change Memo.isAssignable st (.builtin a) (.builtin b) >>= _ = _
    rw [h]
    rfl

/-- What is of the class fits openly among what is of the class or a text. -/
theorem fitsOpenly_orText {st : Store} {isOf : ClassRef → Prop} {v : Value} (hany : b ≠ .any)
    (h : isOf (.builtin b)) : FitsOpenly st isOf v (.builtin b) (.orText b) :=
  .of_takes (by simp) (.instance (TypeForm.runtimeClass?_cls (by simpa using hany)) h)
    (by simp [TypeForm.leaves_orText]) (.same rfl)

end

/-! ## §4  An integer for floats and texts -/

namespace KnownThree

open Engine

/-- A class with a static member that gives 3 and says that it gives integers. -/
def world : Store :=
  { Store.empty with
    classes := #[{ (default : ClassInfo) with
      name := "Box"
      qualifiedName := "Box"
      bases := [.builtin .object]
      lineage := [.user 0, .builtin .object]
      entries := [("three", .atom (.static (.user 0)))]
      hasFields := true }]
    functions := #[{ (default : Function) with
      name := "three"
      qualifiedName := "Box.three"
      result := some (.builtin .int)
      body := .statements [.result (.constant (.int 3))] }] }

/-- What the runner of a world is for a call. -/
abbrev runner : Runner := runFunction callDepth

/-- The member. -/
def three : MemberDescriptor :=
  { MemberDescriptor.bare .method (.cls (.user 0)) "three" with
    valueType := .builtin .int
    isStatic := true
    target := .routine (.user 0) }

/-- The shape that pins what the member gives. -/
def pinned (b : Builtin) : Shape :=
  { family := .func
    arity := 0
    receiver := .none
    result? := some (.orText b)
    nonPublic := true
    arity_le := Nat.zero_le _ }

theorem ordered_world : world.Ordered := by
  have hpushed := Store.ordered_push (world.classInfo 0) Store.ordered_empty (by decide)
    (by intro b hb; obtain rfl := List.mem_singleton.mp hb; exact ⟨rfl, nofun⟩) nofun
  exact hpushed.of_classes rfl

theorem asked_three : Member.Asked runner world (.user 0) three := by
  have hfound : Member.find? world (.user 0) "three" =
      some (.user 0, "three", .atom (.static (.user 0))) := by
    decide +kernel
  have hfind : (Member.find (.user 0) "three").perform runner world =
      (.ok (.user 0, "three", .atom (.static (.user 0))), world) := by
    unfold Member.find
    rw [perform_bind_get, hfound]
    rfl
  have hrun : (Member.resolve (.method "three") (.cls (.user 0))).perform runner world =
      (.ok three, world) := by
    change (Member.methodOf (.user 0) "three").perform runner world = _
    unfold Member.methodOf
    exact (perform_bind_ok hfind).trans rfl
  exact .resolve hrun

/-- The contract takes a member of integers where floats or texts are pinned, or integers or texts. -/
theorem check_pinned {b : Builtin} (hb : b = .float ∨ b = .int) :
    (Contract.check world three (pinned b)).run.run .empty = (.ok (), .empty) := by
  have hassignable : Memo.isAssignable world three.valueType (.orText b) = pure true := by
    refine Memo.isAssignable_orText ?_
    rcases hb with rfl | rfl
    · exact Memo.isAssignable_float world
    · exact assignableVia_of_passes (.inl rfl)
  have hpinned : (Contract.checkPinned world three (pinned b)).run.run .empty = (.ok (), .empty) := by
    unfold Contract.checkPinned
    simp only [pinned]
    rw [hassignable]
    rfl
  exact (Contract.Passed.mk rfl rfl rfl rfl rfl hpinned rfl).check

theorem comparable_three {b : Builtin} : Comparable three (pinned b) where
  declaring := rfl
  valueType := rfl
  base _ h := nomatch h
  pinned _ h := by
    cases h
    exact ⟨rfl, .inr rfl⟩

/-- The accessor gives the 3 of the member as it is. -/
theorem built_three {b : Builtin} (hb : b = .float ∨ b = .int) :
    ∃ n σ a, (build (.proper three) (.proper (pinned b))).run.run (.start world) = (.ok n, σ) ∧
      σ.accessors[n]? = some a ∧
      (a.reach []).perform runner world = (.ok (.int 3), world) ∧
      (a.call []).perform runner world = (.ok (.int 3), world) := by
  have hname : Plan.functionName world (Plan.ofComparable world [] three (pinned b)) =
      "Box_three_func0" := by
    change Plan.functionName world (Plan.ofComparable world [] three (pinned .int)) = _
    decide +kernel
  have hfile : three.namesFile world = true := by decide +kernel
  have hprintable : (pinned b).isPrintable = true := by rcases hb with rfl | rfl <;> decide +kernel
  have hdefect : (Plan.ofComparable world [] three (pinned b)).defect? world = none :=
    Plan.defect?_eq_none hname hfile hprintable (by decide +kernel)
      (Text.normalForm_of_plain (by decide +kernel)) (.inl nofun)
  obtain ⟨n, σ, a, hrun, ha, hplan, hsubject⟩ := exists_build (σ := .start world) (check_pinned hb)
    (Plan.synthesize_ok comparable_three) hdefect
  have hreach : (a.reach []).perform runner world = (.ok (.int 3), world) := by
    unfold Accessor.reach
    rw [hplan, hsubject]
    rfl
  have hkept : Plan.resultConverter? world [] three (pinned b) = none := by
    simp [Plan.resultConverter?, pinned, TypeForm.orText, three, TypeForm.normalize, Plan.widening,
      TypeForm.isPromoting]
  refine ⟨n, σ, a, hrun, ha, hreach, ?_⟩
  rw [Accessor.call, perform_bind_ok hreach, finish_of_built (built_of_run hrun ha) rfl]
  change (Accessor.resultBy three (Plan.resultConverter? world [] three (pinned b)) (.int 3)).perform runner
    world = _
  rw [hkept]
  rfl

/-- **A pinned union gives an integer for a float or a text**: the member gives an integer, as it says,
which is accepted because integers widen to floats, and is given as it is. -/
theorem pinned_union_gives_integer :
    Member.Asked runner world (.user 0) three ∧
    Fits world ((Value.int 3).IsOf runner world) (.int 3) three.valueType ∧
    ¬ Fits world ((Value.int 3).SeenAs runner world) (.int 3) (.orText .float) ∧
    ∃ n σ a, (build (.proper three) (.proper (pinned .float))).run.run (.start world) = (.ok n, σ) ∧
      σ.accessors[n]? = some a ∧
      (a.reach []).perform runner world = (.ok (.int 3), world) ∧
      (a.call []).perform runner world = (.ok (.int 3), world) := by
  refine ⟨asked_three, .plain rfl (.instance rfl rfl), ?_, built_three (.inl rfl)⟩
  intro hfits
  obtain ⟨u, hu, hfits⟩ := fits_iff_leaf.mp hfits
  simp only [TypeForm.leaves_orText, List.mem_cons, List.not_mem_nil, or_false] at hu
  rcases hu with rfl | rfl
  · cases (hfits.isOf_of_cls rfl (by decide) rfl).isOf_of_builtin (by decide)
  · cases (hfits.isOf_of_cls rfl (by decide) rfl).isOf_of_builtin (by decide)

/-- Where integers are pinned themselves, what the member gives fits. -/
theorem pinned_integer_fits :
    ∃ n σ a, (build (.proper three) (.proper (pinned .int))).run.run (.start world) = (.ok n, σ) ∧
      σ.accessors[n]? = some a ∧
      (a.call []).perform runner world = (.ok (.int 3), world) ∧
      Fits world ((Value.int 3).SeenAs runner world) (.int 3) (.orText .int) := by
  obtain ⟨n, σ, a, hrun, ha, hreach, hcall⟩ := built_three (.inr rfl)
  have hsame : world.SameHierarchy world := .of_classes rfl
  have hrespects : world.Respects world ((Value.int 3).IsOf runner world) (world.classOf (.int 3))
      three.valueType (.orText .int) :=
    Store.respects_of_plain hsame (TypeForm.testedPlainly_cls rfl (by decide))
      (TypeForm.testedPlainly_orText rfl (by decide))
  have hbar : ¬ (Value.int 3).SeenAs runner world (.builtin .barUnion) := by
    intro h
    cases h.isOf_of_builtin (by decide)
  exact ⟨n, σ, a, hrun, ha, hcall,
    pinned_results_fit (Session.sound_start ordered_world) rfl rfl TypeForm.settled_cls
      TypeForm.settled_orText nofun hrun ha hreach hcall hsame hrespects
      (.inr (.inr (fitsOpenly_orText (by decide) rfl))) hbar⟩

end KnownThree
end MemberAccess
