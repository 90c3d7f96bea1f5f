import MemberAccess.Proofs.FittingValues
import MemberAccess.Proofs.ReceiverLooks

/-!
# Typed receivers

An accessor for receivers of a type looks at none of them: the contract has found the type assignable to
the declaring one, so an instance of the one should be an instance of the other, and the look that other
accessors take should let it pass.

Assignability was made for values, however, which may still be widened and may be of unknown type, and
receivers are neither looked at nor widened.  So the contract takes integers for the receivers of a member
of floats (`FloatReceivers.integer_is_taken_for_float`).  Apart from what is hidden in this way, accepted
types do have only instances of the declaring type (`Engine.accepted_receivers_fit`).
-/

namespace MemberAccess

open MemberAccess.Action

/-! ## §1  Looks at receivers that fit -/

/-- A look for a class lets a value pass, and leaves a store. -/
inductive Value.PassesLook (v : Value) (run : Runner) (st : Store) : Option ClassRef → Store → Prop
  | unlooked : PassesLook v run st none st
  | looked {c : ClassRef} {st' : Store} : (v.isInstance c).perform run st = (.ok true, st') →
      PassesLook v run st (some c) st'

section
variable {st₀ st : Store} {run : Runner} {v : Value} {t : TypeForm}

/-- **What fits a type passes the look for it**, unless the type is a protocol that may not be tested
for. -/
theorem Fits.passesLook (ht : t.Settled) (hu : t.normalize.isUnion = false) (hv : v ≠ .nothing)
    (h : Fits st₀ (v.IsOf run st) v t) :
    (∃ st', v.PassesLook run st t.lookedFor? st') ∨
      ∃ c, t.lookedFor? = some c ∧ st₀.isUntestable c = true := by
  cases hc : t.lookedFor? with
  | none => exact .inl ⟨st, .unlooked⟩
  | some c =>
    obtain ⟨hclass, hobject⟩ := Option.filter_eq_some_iff.mp hc
    have hn : t.normalize.normalize = t.normalize := (ht _ (TypeForm.normalize_mem_leaves hu)).normal
    rw [← TypeForm.runtimeClass?_normalize hn] at hclass
    cases h with
    | member htn =>
      rw [htn] at hu
      cases hu
    | plain _ hfits =>
      cases hfits with
      | anything hany =>
        simp only [TypeForm.isAny, Bool.or_eq_true, beq_iff_eq] at hany
        rcases hany with hany | hany <;> rw [hany] at hclass <;> cases hclass
        cases hobject
      | absent _ hnothing => exact absurd hnothing hv
      | untested hno => exact .inr ⟨c, rfl, hno c hclass⟩
      | «instance» hclass' hof =>
        obtain rfl := Option.some.inj (hclass.symm.trans hclass')
        exact .inl ⟨_, .looked (Prod.ext hof rfl)⟩

end

namespace Accessor

variable {a b : Accessor} {d : MemberDescriptor} {run : Runner} {st st' : Store} {v : Value}
  {xs : List Value} {check : Option ClassRef}

/-- An accessor that looks does what the one that does not look does, on what passes the look. -/
theorem LooksFor.call_of_passesLook (h : LooksFor a b d check) (hv : v ≠ .nothing)
    (hlen : xs.length + 1 = a.plan.parameterNames.length) (hpasses : v.PassesLook run st check st') :
    (a.call (v :: xs)).perform run st = (b.call (v :: xs)).perform run st' := by
  cases hpasses with
  | unlooked => exact h.call_of_none
  | looked htest => rw [h.perform_call hv hlen, htest]

end Accessor

/-! ## §2  Accepted receivers -/

namespace Engine

variable {σ : Session} {d : MemberDescriptor} {s : Shape} {base : TypeForm} {m : Memo}

/-- A member and a shape are given back as they are where they pass the contract. -/
theorem check_of_validate {st : Store} {m' : Memo}
    (h : (validate st (.proper d) (.proper s)).run.run m = (.ok (d, s), m')) :
    (Contract.check st d s).run.run m = (.ok (), m') := by
  change (Contract.check st d s >>= fun _ => pure (d, s) : Ask _).run.run m = _ at h
  obtain ⟨_, m₁, hcheck, h⟩ := exists_of_run_bind h
  rw [hcheck]
  exact congrArg (Prod.mk _) (congrArg Prod.snd h)

/-- **An instance of an accepted receiver type is an instance of the declaring type**, if it is one by a
member of the type that the declaring type does not hide.  So no accessor that was built for receivers of
the type runs its member on an instance that is there and that the accessor with a look would refuse: that
one does the same after its look, or its look fails because the declaring type is a protocol that may not
be tested for. -/
theorem accepted_receivers_fit (hσ : σ.Sound) (hs : s.receiver = .typed base) (hbase : base.Settled)
    (hdeclaring : d.declaring.Settled)
    (haccepted : (validate σ.store (.proper d) (.proper s)).run.run σ.memo = (.ok (d, s), m))
    {run : Runner} {st : Store} {v : Value} (hsame : σ.store.SameHierarchy st)
    (hrespects : σ.store.Respects st (v.IsOf run st) (st.classOf v) base d.declaring)
    (hfits : FitsOpenly σ.store (v.IsOf run st) v base d.declaring) :
    Fits σ.store (v.IsOf run st) v d.declaring ∧
    ∀ {n n' : Nat} {σ₁ σ₂ : Session} {a b : Accessor},
      (build (.proper d) (.proper s)).run.run σ = (.ok n, σ₁) → σ₁.accessors[n]? = some a →
      (build (.proper d) (.proper { s with receiver := .checked })).run.run σ = (.ok n', σ₂) →
      σ₂.accessors[n']? = some b →
      d.kind ≠ .constructor → d.declaring.normalize.isUnion = false → v ≠ .nothing →
      (∃ st', v.PassesLook run st d.declaring.lookedFor? st' ∧
        ∀ xs, xs.length + 1 = b.plan.parameterNames.length →
          (b.call (v :: xs)).perform run st = (a.call (v :: xs)).perform run st') ∨
      ∃ c, d.declaring.lookedFor? = some c ∧ σ.store.isUntestable c = true ∧
        ∀ xs, xs.length + 1 = b.plan.parameterNames.length →
          (b.call (v :: xs)).perform run st = (.error (.fault .typeError), st) := by
  -- the memo is faithful when the question is asked, so its answers are those of the hierarchy
  obtain ⟨m₁, m₂, hm₁, hassignable⟩ :=
    Contract.exists_accepted_receiver hσ.faithful hs (check_of_validate haccepted)
  have hfitting : Fits σ.store (v.IsOf run st) v d.declaring :=
    Fits.of_flows hσ.ordered hsame hbase hdeclaring
      (flows_of_accepted hm₁ hbase hdeclaring hassignable) hrespects hfits
  refine ⟨hfitting, ?_⟩
  intro n n' σ₁ σ₂ a b hrun ha hrun' hb hk hu hv
  have hshape : s = { { s with receiver := .checked } with receiver := .typed base } := by rw [← hs]
  have hlooks : Accessor.LooksFor b a d d.declaring.lookedFor? :=
    looksFor_of_built hk rfl hshape (built_of_run hrun' hb) (built_of_run hrun ha)
  rcases hfitting.passesLook hdeclaring hu hv with ⟨st', hpasses⟩ | ⟨c, hc, huntestable⟩
  · exact .inl ⟨st', hpasses, fun xs hlen => hlooks.call_of_passesLook hv hlen hpasses⟩
  · rw [hc] at hlooks
    rcases @Value.perform_isInstance_untestable run st v c
      ((hsame.isUntestable c).trans huntestable) with hpassed | hfault
    · -- a direct instance passes the test for any protocol
      have hpasses : v.PassesLook run st (some c) st := .looked hpassed
      exact .inl ⟨st, hc ▸ hpasses, fun xs hlen => hlooks.call_of_passesLook hv hlen hpasses⟩
    · refine .inr ⟨c, hc, huntestable, ?_⟩
      intro xs hlen
      rw [hlooks.perform_call hv hlen, hfault]

end Engine

/-! ## §3  Discs as figures -/

namespace PlainProtocol

open Engine

/-- The hierarchy of shapes and figures is ordered. -/
theorem ordered_world : world.Ordered := by
  have h₀ := Store.ordered_push (world.classInfo 0) Store.ordered_empty (by decide)
    (Store.canBeBases_singleton rfl nofun) nofun
  have h₁ := Store.ordered_push (world.classInfo 1) h₀ (by decide)
    (Store.canBeBases_singleton rfl (by rintro j ⟨⟩; decide)) nofun
  have h₂ := Store.ordered_push (world.classInfo 2) h₁ (by decide)
    (Store.canBeBases_singleton rfl nofun) nofun
  have h₃ := Store.ordered_push (world.classInfo 3) h₂ (by decide)
    (Store.canBeBases_singleton rfl (by rintro j ⟨⟩; decide)) nofun
  exact h₃.of_classes rfl

/-- The shape of a method without arguments for receivers that are discs. -/
def forDiscs : Shape := { looking with receiver := .typed (.cls (.user 3)) }

theorem derivesBelow_disc : world.derivesBelow (.cls (.user 3)) (.cls (.user 2)) = true := by decide +kernel

/-- Discs are accepted as receivers of the area of figures. -/
theorem check_forDiscs : ∃ m, (Contract.check world figureArea forDiscs).run.run .empty = (.ok (), m) := by
  have hassignable : Memo.isAssignable world (.cls (.user 3)) (.cls (.user 2)) =
      Memo.derives world (.cls (.user 3)) (.cls (.user 2)) := by
    rw [Memo.isAssignable, assignableVia_plain (by decide) rfl rfl]
    rfl
  have hreceiver : (Contract.checkReceiver world figureArea forDiscs).run.run .empty =
      (.ok (), Memo.empty.insert world (.cls (.user 3)) (.cls (.user 2))) := by
    have hrun : (Memo.isAssignable world (.cls (.user 3)) (.cls (.user 2))).run.run .empty =
        (.ok true, Memo.empty.insert world (.cls (.user 3)) (.cls (.user 2))) := by
      rw [hassignable, ← derivesBelow_disc]
      rfl
    exact run_bind_ok hrun
  exact ⟨_, (Contract.Passed.mk rfl rfl rfl rfl hreceiver rfl rfl).check⟩

/-- A disc is taken as a disc where a figure is declared. -/
theorem disc_fits_figure :
    Fits world ((Value.object 1).IsOf runner world) (.object 1) figureArea.declaring ∧
    ∃ n σ a n' σ' b,
      (build (.proper figureArea) (.proper forDiscs)).run.run (.start world) = (.ok n, σ) ∧
      σ.accessors[n]? = some a ∧
      (build (.proper figureArea) (.proper looking)).run.run (.start world) = (.ok n', σ') ∧
      σ'.accessors[n']? = some b ∧
      ∃ st', (Value.object 1).PassesLook runner world figureArea.declaring.lookedFor? st' ∧
        (b.call [.object 1]).perform runner world = (a.call [.object 1]).perform runner st' := by
  obtain ⟨m, hcheck⟩ := check_forDiscs
  have haccepted : (validate world (.proper figureArea) (.proper forDiscs)).run.run .empty =
      (.ok (figureArea, forDiscs), m) := run_bind_ok hcheck
  have hsame : world.SameHierarchy world := .of_classes rfl
  have hopen : FitsOpenly world ((Value.object 1).IsOf runner world) (.object 1) (.cls (.user 3))
      figureArea.declaring :=
    .of_takes (u := .cls (.user 3)) (by simp) (.instance rfl rfl)
      (by simp [figureArea, MemberDescriptor.bare])
      (.below (by decide) derivesBelow_disc)
  have hrespects : world.Respects world ((Value.object 1).IsOf runner world) (world.classOf (.object 1))
      (.cls (.user 3)) figureArea.declaring :=
    Store.respects_of_plain hsame (TypeForm.testedPlainly_cls rfl (by decide))
      (TypeForm.testedPlainly_cls rfl (by decide))
  obtain ⟨hfits, hlooks⟩ := accepted_receivers_fit (Session.sound_start ordered_world) rfl
    TypeForm.settled_cls TypeForm.settled_cls haccepted hsame hrespects hopen
  obtain ⟨n, σ, a, hrun, ha, -⟩ := built_area (.inr rfl) rfl hcheck
  obtain ⟨n', σ', b, hrun', hb, hcarries⟩ :=
    built_area (r := .checked) (.inr rfl) rfl (check_looking (.inr rfl)).1
  refine ⟨hfits, n, σ, a, n', σ', b, hrun, ha, hrun', hb, ?_⟩
  rcases hlooks hrun ha hrun' hb (by decide) rfl (by decide) with ⟨st', hpasses, hcall⟩ | ⟨c, hc, hno, -⟩
  · refine ⟨st', hpasses, hcall [] ?_⟩
    rw [hcarries.plan]
    rfl
  · cases hc
    cases hno

end PlainProtocol

/-! ## §4  Integers as floats -/

namespace FloatReceivers

open Engine

/-- What the runner of a world is for a call. -/
abbrev runner : Runner := runFunction callDepth

/-- The conjugate of floats. -/
def conjugate : MemberDescriptor :=
  { MemberDescriptor.bare .method (.builtin .float) "conjugate" with
    target := .routine (.builtin .float "conjugate") }

/-- The shape of a method without arguments for the given receivers. -/
def shape (r : Receiver) : Shape :=
  { family := .func
    arity := 0
    receiver := r
    result? := none
    nonPublic := true
    arity_le := Nat.zero_le _ }

/-- Integers are accepted as receivers, because they widen to floats where they are values. -/
theorem check_integers :
    (Contract.check .empty conjugate (shape (.typed (.builtin .int)))).run.run .empty =
      (.ok (), .empty) := by
  have hassignable : Memo.isAssignable .empty (.builtin .int) conjugate.declaring = pure true :=
    Memo.isAssignable_float .empty
  have hreceiver : (Contract.checkReceiver .empty conjugate (shape (.typed (.builtin .int)))).run.run
      .empty = (.ok (), .empty) := by
    unfold Contract.checkReceiver
    simp only [shape]
    rw [hassignable]
    rfl
  exact (Contract.Passed.mk rfl rfl rfl rfl hreceiver rfl rfl).check

/-- The conjugate gets accessors for the receivers that the contract lets it have. -/
theorem built_conjugate {r : Receiver} {m : Memo} (hprintable : (shape r).isPrintable = true)
    (hcheck : (Contract.check .empty conjugate (shape r)).run.run .empty = (.ok (), m)) :
    ∃ n σ a, (build (.proper conjugate) (.proper (shape r))).run.run (.start .empty) = (.ok n, σ) ∧
      σ.accessors[n]? = some a ∧
      Accessor.Carries a .empty (Plan.unpinned .empty [] conjugate (shape r)) := by
  have hname : (Plan.unpinned .empty [] conjugate (shape .none)).functionName .empty =
      "float_conjugate_func0" := by
    decide +kernel
  have hfile : conjugate.namesFile .empty = true := by decide +kernel
  have hdefect : (Plan.unpinned .empty [] conjugate (shape r)).defect? .empty = none :=
    Plan.defect?_eq_none hname hfile hprintable (by decide +kernel)
      (Text.normalForm_of_plain (by decide +kernel)) (.inl nofun)
  obtain ⟨n, σ, a, hrun, ha, hplan, hsubject⟩ := exists_build (σ := .start .empty) hcheck
    (Plan.synthesize_of_unpinned rfl) hdefect
  exact ⟨n, σ, a, hrun, ha, hplan, hsubject⟩

/-- **An integer is taken for a float as a receiver.**  It is an instance of the accepted receiver type and
none of the declaring type; the accessor that looks refuses it, and the other one calls its method. -/
theorem integer_is_taken_for_float :
    (validate .empty (.proper conjugate) (.proper (shape (.typed (.builtin .int))))).run.run .empty =
      (.ok (conjugate, shape (.typed (.builtin .int))), .empty) ∧
    (Value.int 3).IsOf runner .empty (.builtin .int) ∧
    ¬ (Value.int 3).IsOf runner .empty (.builtin .float) ∧
    ∃ n σ a n' σ' b,
      (build (.proper conjugate) (.proper (shape (.typed (.builtin .int))))).run.run (.start .empty) =
        (.ok n, σ) ∧
      σ.accessors[n]? = some a ∧
      (build (.proper conjugate) (.proper (shape .checked))).run.run (.start .empty) = (.ok n', σ') ∧
      σ'.accessors[n']? = some b ∧
      (b.call [.int 3]).perform runner .empty =
        (.error (.argumentMismatch "instance" "float" "int"), .empty) ∧
      (a.call [.int 3]).perform runner .empty =
        ((Value.int 3).getAttribute "conjugate" >>= fun f => f.call []).perform runner .empty := by
  refine ⟨run_bind_ok check_integers, rfl, nofun, ?_⟩
  obtain ⟨n, σ, a, hrun, ha, hcarries⟩ := built_conjugate rfl check_integers
  obtain ⟨n', σ', b, hrun', hb, hcarries'⟩ := built_conjugate (r := .checked) rfl rfl
  refine ⟨n, σ, a, n', σ', b, hrun, ha, hrun', hb, ?_, ?_⟩
  · obtain ⟨p, subject, name, qualified, doc, source, listed⟩ := b
    obtain ⟨hplan, hsubject⟩ := hcarries'
    subst hplan
    subst hsubject
    rfl
  · have hadmits : Admits runner .empty conjugate (shape (.typed (.builtin .int))) (.int 3) :=
      ⟨by decide, fun hchecked => absurd hchecked (by decide)⟩
    have hreach : (a.reach [.int 3]).perform runner .empty =
        (conjugate.use (shape (.typed (.builtin .int))) [.int 3]).perform runner .empty :=
      Accessor.reach_method hcarries (.inl rfl) rfl (by decide +kernel) rfl hadmits (by decide) rfl
        fun _ _ _ => ⟨rfl, fun ht => by cases ht⟩
    rw [conjugate.use_method (.inl rfl) rfl] at hreach
    -- nothing is pinned, so the call ends with what the method gives
    have hfinish : Accessor.finish a.plan = pure := by
      funext v
      rw [hcarries.plan, Accessor.finish_of_unpinned]
      rfl
    rw [Accessor.call, hfinish, bind_pure, hreach]
    rfl

end FloatReceivers
end MemberAccess
