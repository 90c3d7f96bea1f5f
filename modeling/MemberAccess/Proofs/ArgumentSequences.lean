import MemberAccess.Proofs.CallsAlike
import MemberAccess.Proofs.PinnedResults
import MemberAccess.Proofs.RejectedCalls
import MemberAccess.Proofs.ValidatedPairs

/-!
# Arguments in a sequence

A constructor can be asked to take its arguments one by one or as the items of one sequence.  The two
accessors are made of the same plan but for where the arguments come from and what they are called, so they
are built alike, refuse alike but for the names, and construct the same
(`Engine.array_constructor_agrees`).

The items are read one by one, each when its turn comes.  So it has to be that the items which are still to
be read are what they were: a conversion of one item can replace the ones after it
(`SlyNumber.replaced_item_is_constructed`).  It does not where no code comes with the items
(`Accessor.leavesItems_of_bringsNoCode`).
-/

namespace MemberAccess

open MemberAccess.Action

/-! ## §1  Runs that differ in the place of a refusal -/

/-- Two runs end the same, but that a value may be refused at different places. -/
inductive AgreeButPlace {α : Type} (R : String → String → Prop) :
    Outcome α × Store → Outcome α × Store → Prop
  | same (r : Outcome α × Store) : AgreeButPlace R r r
  | refused {p q e t : String} (st : Store) : R p q →
      AgreeButPlace R (.error (.argumentMismatch p e t), st) (.error (.argumentMismatch q e t), st)

namespace AgreeButPlace

variable {α β : Type} {R S : String → String → Prop} {p q : String} {x y : Action α}
  {k l : α → Action β} {run : Runner} {st : Store}

theorem mono {r s : Outcome α × Store} (h : AgreeButPlace R r s) (hRS : ∀ {p q}, R p q → S p q) :
    AgreeButPlace S r s := by
  cases h with
  | same r => exact .same r
  | refused st h => exact .refused st (hRS h)

/-- What runs after two such runs ends as they do, or alike. -/
theorem bind (h : AgreeButPlace R (x.perform run st) (y.perform run st))
    (hk : ∀ a st', x.perform run st = (.ok a, st') →
      AgreeButPlace R ((k a).perform run st') ((l a).perform run st')) :
    AgreeButPlace R ((x >>= k).perform run st) ((y >>= l).perform run st) := by
  rw [perform_bind, perform_bind]
  revert h hk
  generalize x.perform run st = r
  generalize y.perform run st = s
  intro h hk
  cases h with
  | same r =>
    obtain ⟨f | a, st'⟩ := r
    · exact .same _
    · exact hk a st' rfl
  | refused st' h => exact .refused st' h

/-- What runs after one and the same run ends alike. -/
theorem after (hk : ∀ a st', AgreeButPlace R ((k a).perform run st') ((l a).perform run st')) :
    AgreeButPlace R ((x >>= k).perform run st) ((x >>= l).perform run st) :=
  bind (.same _) fun a st' _ => hk a st'

theorem refuse (v : Value) (e : String) (h : R p q) :
    AgreeButPlace R ((v.refuse p e : Action α).perform run st) ((v.refuse q e : Action α).perform run st) :=
  .refused st h

/-- Rows of runs end alike if each one does after those before it in the one row. -/
theorem mapM {γ δ : Type} {g : γ → Action α} {h : δ → Action α} {l : List γ} {m : List δ}
    (hlen : l.length = m.length)
    (hstep : ∀ i c d as st', l[i]? = some c → m[i]? = some d →
      ((l.take i).mapM g).perform run st = (.ok as, st') →
        AgreeButPlace R ((g c).perform run st') ((h d).perform run st')) :
    AgreeButPlace R ((l.mapM g).perform run st) ((m.mapM h).perform run st) := by
  induction l generalizing m st with
  | nil =>
    obtain rfl := List.length_eq_zero_iff.mp hlen.symm
    exact .same _
  | cons c l ih =>
    cases m with
    | nil => cases hlen
    | cons d m =>
      rw [List.mapM_cons, List.mapM_cons]
      refine bind (hstep 0 c d [] st rfl rfl rfl) ?_
      intro a st₁ ha
      refine bind (ih (Nat.succ.inj hlen) ?_) fun as st₂ _ => .same _
      intro i c' d' as st' hc hd htaken
      refine hstep (i + 1) c' d' (a :: as) st' hc hd ?_
      rw [List.take_succ_cons, List.mapM_cons, perform_bind_ok ha, perform_bind_ok htaken]
      rfl

end AgreeButPlace

/-! ## §2  Conversions at two places -/

/-- The one place and the other. -/
def Places (p q : String) : String → String → Prop := fun p' q' => p' = p ∧ q' = q

namespace Converter

variable {p q : String} {run : Runner} {st : Store} {v : Value}

theorem agree_refuse {α : Type} (v : Value) (e : String) :
    AgreeButPlace (Places p q) ((v.refuse p e : Action α).perform run st)
      ((v.refuse q e : Action α).perform run st) :=
  .refuse v e ⟨rfl, rfl⟩

/-- An action whose failures of some kinds become refusals. -/
theorem agree_orRefuse {α : Type} (v : Value) (e : String) (kinds : List ErrorKind) (x : Action α) :
    AgreeButPlace (Places p q) ((v.orRefuse p e kinds x).perform run st)
      ((v.orRefuse q e kinds x).perform run st) := by
  unfold Value.orRefuse
  rw [perform_tryCatch, perform_tryCatch]
  rcases x.perform run st with ⟨f | a, st'⟩
  · dsimp only
    split
    · exact agree_refuse v e
    · exact .same _
  · exact .same _

end Converter

/-- The place counts for a rule only where it names it in a refusal. -/
def Rule.NamesPlace (r : Rule) (run : Runner) : Prop :=
  ∀ t v p q st, AgreeButPlace (Places p q) ((r.convert t v p).perform run st) ((r.convert t v q).perform run st)

/-- Wrapping values in instances of a class names the place in its refusals. -/
theorem Rule.namesPlace_wrapping {targets accepts : List TypeForm} {wrap : Value} {expected : String}
    {run : Runner} : (Rule.wrapping targets accepts wrap expected).NamesPlace run := by
  intro t v p q st
  have hrest (isWrapped : Bool) (st' : Store) : AgreeButPlace (Places p q)
      ((if isWrapped then pure v else do
        if ← v.isInstanceOfNamed accepts then wrap.call [v]
        else v.refuse p expected : Action Value).perform run st')
      ((if isWrapped then pure v else do
        if ← v.isInstanceOfNamed accepts then wrap.call [v]
        else v.refuse q expected : Action Value).perform run st') := by
    cases isWrapped with
    | true => exact .same _
    | false =>
      refine .after fun b st'' => ?_
      cases b with
      | true => exact .same _
      | false => exact Converter.agree_refuse v _
  unfold Rule.wrapping
  dsimp only
  split <;> exact .after hrest

namespace Converter

variable {v : Value} {p q : String} {run : Runner} {st : Store}

mutual
/-- **A value is converted alike at two places**, but for the place at which it is refused. -/
theorem agree_apply (c : Converter) (hrules : ∀ h ∈ c.held, h.1.NamesPlace run) (v : Value) (p q : String)
    (st : Store) : AgreeButPlace (Places p q) ((c.apply v p).perform run st) ((c.apply v q).perform run st) := by
  cases c with
  | absent =>
    rw [apply, apply]
    split
    · exact .same _
    · exact agree_refuse v _
  | float =>
    refine .after fun st₁ st' => ?_
    split
    · exact .same _
    · split
      · exact .same _
      · exact agree_refuse v _
  | complex =>
    refine .after fun st₁ st' => ?_
    split
    · exact .same _
    · split
      · exact agree_orRefuse ..
      · exact agree_refuse v _
  | int =>
    refine .after fun st₁ st' => ?_
    split
    · exact .same _
    · split
      · exact .same _
      · exact agree_refuse v _
  | array =>
    refine .after fun st₁ st' => ?_
    split
    · exact .same _
    · split
      · exact agree_refuse v _
      · exact agree_orRefuse ..
  | «instance» k e =>
    refine .after fun b st' => ?_
    cases b with
    | true => exact .same _
    | false => exact agree_refuse v _
  | rule r t =>
    rw [apply, apply]
    exact hrules (r, t) (by simp [held]) t v p q st
  | union cs ks e =>
    refine .after fun b st' => ?_
    cases b with
    | true => exact .same _
    | false => exact agree_applyFirst cs (fun h hh => hrules h (by simpa [held] using hh)) v p q e st'

theorem agree_applyFirst (cs : List Converter) (hrules : ∀ h ∈ heldBySome cs, h.1.NamesPlace run) (v : Value)
    (p q e : String) (st : Store) :
    AgreeButPlace (Places p q) ((applyFirst cs v p e).perform run st)
      ((applyFirst cs v q e).perform run st) := by
  cases cs with
  | nil => exact agree_refuse v _
  | cons c cs =>
    have hfirst := agree_apply c (fun h hh => hrules h (by simp [heldBySome, hh])) v p q st
    have hrest := agree_applyFirst cs (fun h hh => hrules h (by simp [heldBySome, hh])) v p q e
    rw [applyFirst, applyFirst, perform_tryCatch, perform_tryCatch]
    revert hfirst
    generalize (c.apply v p).perform run st = r
    generalize (c.apply v q).perform run st = s
    intro hfirst
    cases hfirst with
    | same r =>
      obtain ⟨f | w, st'⟩ := r
      · dsimp only
        split
        · exact hrest st'
        · exact .same _
      · exact .same _
    | refused st' h => exact hrest st'
end

end Converter

/-! ## §3  Items when their turn comes -/

namespace Accessor

variable {a b : Accessor} {run : Runner} {st : Store} {v : Value} {xs : List Value}

/-- **The conversions leave the items of a sequence that are still to be read**: after the arguments before a
slot were converted, the item of the slot is what it was. -/
def LeavesItems (a : Accessor) (run : Runner) (st : Store) (v : Value) (xs : List Value) : Prop :=
  ∀ i x ys st', xs[i]? = some x →
    ((a.converted.take i).mapM (a.convertStep xs)).perform run st = (.ok ys, st') →
      (v.itemAt i).perform run st' = (.ok x, st')

/-- A list or tuple of given items whose class has no way of its own to count, give or walk through them. -/
structure ListsPlainly (st : Store) (v : Value) (xs : List Value) : Prop where
  holds : Holds st v xs
  method {n : String} : n ∈ ["__len__", "__getitem__", "__iter__"] → st.specialMethod? v n = none

/-- Such a list or tuple passes where that count is wanted. -/
theorem ListsPlainly.perform_checkSequence (h : ListsPlainly st v xs) :
    (checkSequence [("args", v)] xs.length).perform run st = (.ok (), st) := by
  have hv : v ≠ .nothing := by
    obtain ⟨i, rfl, -⟩ := h.holds
    nofun
  rw [Accessor.perform_checkSequence rfl hv, h.holds.perform_itemCount (h.method (by simp))]
  simp

/-- What is converted is an argument of the plan. -/
theorem mem_arguments_of_converted {r : ArgumentStep} (h : r ∈ a.converted) : r ∈ a.plan.arguments := by
  unfold converted at h
  split at h
  · exact h
  · cases h
  · exact List.mem_of_mem_take h
  · exact h

/-- Where no code comes with the items, the conversions leave them. -/
theorem leavesItems_of_bringsNoCode (hcode : a.BringsNoCode st xs) (hv : st.Knows v)
    (h : ListsPlainly st v xs) : a.LeavesItems run st v xs := by
  intro i x ys st' hx htaken
  have hgrows : st.Grows st' := by
    have htame : Tame run run st.Grows (fun _ => True) ((a.converted.take i).mapM (a.convertStep xs)) st :=
      hcode.tame_conversions rfl (.refl st) fun _ hr => List.mem_of_mem_take hr
    have hkeeps := htame.keeps
    rwa [htaken] at hkeeps
  have hget : st'.specialMethod? v "__getitem__" = none :=
    (hgrows.specialMethod? hv).trans (h.method (by simp))
  refine Holds.perform_itemAt ?_ hget hx
  obtain ⟨o, rfl, hpayload⟩ := h.holds
  refine ⟨o, rfl, ?_⟩
  rwa [hgrows.object (hv o rfl)]

end Accessor

/-! ## §4  Accessors that are built alike -/

/-- The shape of a constructor that takes `n` arguments one by one. -/
def Shape.ofArguments (n : Nat) (hn : n ≤ maxArity) (R : Option TypeForm) : Shape :=
  { family := .construct, arity := n, receiver := .none, result? := R, nonPublic := true, arity_le := hn }

section
variable {st : Store} {d : MemberDescriptor} {R : Option TypeForm} {hn : d.arity ≤ maxArity}

theorem Shape.constructor_eq_ofArguments {n : Nat} (hn : n ≤ maxArity) :
    Shape.constructor st (.int n) R = .ok (.ofArguments n hn R) := by
  have harity : Shape.checkArity st (.int n) = .ok ⟨n, hn⟩ := by
    change (if h : (n : Int).toNat ≤ maxArity then if (n : Int) < 0 then _ else .ok ⟨(n : Int).toNat, h⟩
      else _ : Outcome { n : Nat // n ≤ maxArity }) = _
    simp [hn]
  unfold Shape.constructor Shape.make
  rw [harity]
  rfl

/-- The same stands in the way of both accessors. -/
theorem Plan.obstacle?_array :
    obstacle? st d (.constructorArray R) = obstacle? st d (.ofArguments d.arity hn R) := rfl

/-- A constructor belongs together with the one shape as with the other. -/
theorem Contract.check_array (hk : d.kind = .constructor) :
    check st d (.constructorArray R) = check st d (.ofArguments d.arity hn R) := by
  have hfamily : checkFamily st d (.constructorArray R) = checkFamily st d (.ofArguments d.arity hn R) := by
    unfold checkFamily
    rw [hk]
    rfl
  have harity : checkArity st d (.constructorArray R) = checkArity st d (.ofArguments d.arity hn R) := by
    unfold checkArity
    rw [if_pos (.inl rfl), if_pos (.inr rfl)]
  have hstatic : checkStatic d (.constructorArray R) = checkStatic d (.ofArguments d.arity hn R) := by
    unfold checkStatic
    rw [if_pos hk, if_pos hk]
  unfold check
  rw [hfamily, harity, hstatic]
  rfl

end

/-! ## §5  Calls that agree -/

/-- What a slot is called among separate arguments, and in a sequence. -/
def SlotNames (n : Nat) (p q : String) : Prop := ∃ i < n, p = Plan.argumentName i ∧ q = Plan.itemName i

namespace Engine

variable {σ : Session} {d : MemberDescriptor} {R : Option TypeForm} {hn : d.arity ≤ maxArity} {s : Shape}
  {a b : Accessor} {run : Runner} {st : Store} {v : Value} {xs : List Value}

/-- A constructor that was built calls its target, or the class itself. -/
theorem Built.subject_of_construct (h : Built σ d s a) (hs : s.family.operation = .construct) :
    a.subject = .target (if σ.store.isCallable d.target then d.target else d.declaring.toValue) := by
  rw [h.subject, Plan.subject, h.operation, hs, h.descriptor]
  rfl

section
variable (ha : Built σ d (.ofArguments d.arity hn R) a) (hb : Built σ d (.constructorArray R) b)
include ha hb

/-- **The items of a sequence are converted as the arguments of their slots are**, if they are left what they
are until their turn comes. -/
theorem Built.conversions_agree (hlen : xs.length = d.arity)
    (hrules : ∀ h, a.plan.Holds h → h.1.NamesPlace run) (hleaves : a.LeavesItems run st v xs) :
    AgreeButPlace (SlotNames d.arity) ((a.conversions xs).perform run st)
      ((b.conversions [v]).perform run st) := by
  have hlength {s : Shape} (hs : d.takenTypes s = d.parameters) :
      (Plan.slotSteps σ.store σ.rules d s).length = d.arity := by
    rw [Plan.slotSteps, hs, List.length_map, List.length_zipIdx]
    rfl
  unfold Accessor.conversions
  refine .mapM (by rw [ha.converted_eq, hb.converted_eq, hlength rfl, hlength rfl]) ?_
  intro i r r' ys st' hr hr' htaken
  have hi : i < d.arity := by
    have hbound := (List.getElem?_eq_some_iff.mp hr).1
    rwa [ha.converted_eq, hlength rfl] at hbound
  have hmem : r ∈ a.plan.arguments := Accessor.mem_arguments_of_converted (List.mem_of_getElem? hr)
  rw [ha.converted_eq] at hr
  rw [hb.converted_eq] at hr'
  obtain ⟨hslot, hname, htype, hconverter⟩ := Plan.slot_of_slotSteps hr
  obtain ⟨hslot', hname', htype', hconverter'⟩ := Plan.slot_of_slotSteps hr'
  have htypes : r'.type = r.type := Option.some.inj (htype'.symm.trans htype)
  have hconverters : r'.converter = r.converter := by
    rw [hconverter, hconverter', htypes]
    rfl
  have hx : xs[i]? = some xs[i] := List.getElem?_eq_getElem (hlen ▸ hi)
  -- both take the same value, the one as an argument and the other as an item
  have hargument : (a.supplied xs r.slot).perform run st' = (.ok xs[i], st') := by
    have hreceiver : a.plan.receiver = none := by
      rw [ha.receiver]
      exact if_pos (by simp [Shape.ofArguments, Shape.hasReceiver])
    have hdrop : (xs.drop 0)[i]? = some xs[i] := by rw [List.drop_zero, hx]
    unfold Accessor.supplied
    rw [ha.arrayArity, hreceiver, hslot]
    simp only [Option.isSome_none, Bool.false_eq_true, if_false, hdrop]
    rfl
  have hitem : (b.supplied [v] r'.slot).perform run st' = (.ok xs[i], st') := by
    unfold Accessor.supplied
    rw [hb.arrayArity, hslot']
    exact hleaves i _ ys st' hx htaken
  unfold Accessor.convertStep
  rw [perform_bind_ok hargument, perform_bind_ok hitem, hconverters, hname, hname']
  cases hc : r.converter with
  | none => exact .same _
  | some c =>
    refine (c.agree_apply (fun h hh => hrules h (.argument hmem hc hh)) xs[i] _ _ st').mono ?_
    rintro p q ⟨rfl, rfl⟩
    exact ⟨i, hi, rfl, rfl⟩

/-- **A sequence of arguments constructs what the arguments do**: the calls end the same, but that a value is
refused at the slot of an item. -/
theorem Built.calls_agree (hk : d.kind = .constructor) (h : Accessor.ListsPlainly st v xs)
    (hlen : xs.length = d.arity) (hrules : ∀ h, a.plan.Holds h → h.1.NamesPlace run)
    (hleaves : a.LeavesItems run st v xs) :
    AgreeButPlace (SlotNames d.arity) ((a.call xs).perform run st) ((b.call [v]).perform run st) := by
  have hreceiver {s : Shape} : Plan.receiverStep d s = none := by simp [Plan.receiverStep, hk]
  have hsubject := ha.subject_of_construct rfl
  have hsubject' := hb.subject_of_construct rfl
  have hnames : a.plan.parameterNames.length = d.arity := by
    rw [ha.takes.parameters, MemberDescriptor.parametersFor]
    simp [Shape.ofArguments, hk]
  have hnames' : b.plan.parameterNames = ["args"] := by
    rw [Plan.parameterNames, hb.arrayArity]
    rfl
  rw [ha.orderly.perform_call_eq_phases (hlen.trans hnames.symm),
    hb.orderly.perform_call_eq_phases (by rw [hnames']; rfl)]
  -- the arguments are counted when the accessor is called, the items when it looks at the sequence
  have hinspect : a.inspect xs = pure () :=
    Accessor.inspect_eq_pure ha.arrayArity (ha.receiver.trans hreceiver)
  have hinspect' : (b.inspect [v]).perform run st = (.ok (), st) := by
    rw [Accessor.inspect_eq_checkSequence hb.arrayArity (hb.receiver.trans hreceiver), hnames', ← hlen]
    exact h.perform_checkSequence
  have happroach {a : Accessor} {arguments : List Value} {f : Value} (hf : a.subject = .target f) :
      a.approach arguments = pure f := by
    unfold Accessor.approach Accessor.holder
    rw [hf]
  have hcomplete {a : Accessor} {f f' : Value} {ys : List Value} (hf : a.subject = .target f') :
      a.complete f ys = f.call ys := by
    unfold Accessor.complete
    rw [hf]
  rw [perform_bind_ok hinspect', hinspect, pure_bind, happroach hsubject, happroach hsubject', pure_bind,
    pure_bind]
  refine (ha.conversions_agree hb hlen hrules hleaves).bind ?_
  intro ys st' _
  rw [hcomplete hsubject, hcomplete hsubject']
  refine .after fun w st'' => ?_
  rw [finish_of_built ha rfl, finish_of_built hb rfl]
  exact .same _

end

/-- **A constructor takes its arguments as the items of one sequence as it takes them one by one**: for every
constructor of at most the greatest count of parameters and every pinned type, both accessors fail to be
built alike or both are built, and then a call with a list or tuple of as many items as there are parameters
ends as the call with its items does, in the same store, but that a value is refused at the slot of an item.
That is so where the items that are still to be read are left what they are, and where the rules that are used
make nothing of the place but to name it. -/
theorem array_constructor_agrees (hk : d.kind = .constructor) (hn : d.arity ≤ maxArity)
    (R : Option TypeForm) (σ : Session) :
    ∃ s, Shape.constructor σ.store (.int d.arity) R = .ok s ∧
      ((∃ f σ', (build (.proper d) (.proper s)).run.run σ = (.error f, σ') ∧
          (build (.proper d) (.proper (.constructorArray R))).run.run σ = (.error f, σ')) ∨
        ∃ n a σ₁ b σ₂, (build (.proper d) (.proper s)).run.run σ = (.ok n, σ₁) ∧
          σ₁.accessors[n]? = some a ∧
          (build (.proper d) (.proper (.constructorArray R))).run.run σ = (.ok n, σ₂) ∧
          σ₂.accessors[n]? = some b ∧
          ∀ run st v xs, Accessor.ListsPlainly st v xs → xs.length = d.arity →
            (∀ h, a.plan.Holds h → h.1.NamesPlace run) → a.LeavesItems run st v xs →
            AgreeButPlace (SlotNames d.arity) ((a.call xs).perform run st)
              ((b.call [v]).perform run st)) := by
  refine ⟨_, Shape.constructor_eq_ofArguments hn, ?_⟩
  have hsame : Contract.check σ.store d (.constructorArray R) =
      Contract.check σ.store d (.ofArguments d.arity hn R) := Contract.check_array hk
  rcases hc : (Contract.check σ.store d (.ofArguments d.arity hn R)).run.run σ.memo with ⟨f | u, m⟩
  · exact .inl ⟨f, _, run_build_refused hc, run_build_refused (hsame ▸ hc)⟩
  · have hc' : (Contract.check σ.store d (.constructorArray R)).run.run σ.memo = (.ok (), m) := by
      rw [hsame, hc]
    cases hobstacle : Plan.obstacle? σ.store d (.ofArguments d.arity hn R) with
    | some k =>
      have hobstacle' := Plan.obstacle?_array.trans hobstacle
      exact .inl ⟨_, _, run_build_obstacle hc hobstacle, run_build_obstacle hc' hobstacle'⟩
    | none =>
      have hobstacle' := Plan.obstacle?_array.trans hobstacle
      obtain ⟨a, log, hrun⟩ := run_build_clear hc hobstacle
      obtain ⟨b, log', hrun'⟩ := run_build_clear hc' hobstacle'
      have ha := built_of_run hrun (a := a) (by simp)
      have hb := built_of_run hrun' (a := b) (by simp)
      exact .inr ⟨_, a, _, b, _, hrun, by simp, hrun', by simp, fun run st v xs h hlen hrules hleaves =>
        ha.calls_agree hb hk h hlen hrules hleaves⟩

end Engine

/-! ## §6  A conversion that replaces an item -/

namespace SlyNumber

open Engine

/-- Pairs are made of two integers, and put the second one into a list of all seconds.  A sly number counts as
`1`; asked for it, it has a list take `[7, 8]` for its items.  That list holds the sly number and `5`, and
another one plain numbers. -/
def world : Store :=
  { Store.empty with
    classes := #[
      { (default : ClassInfo) with
        name := "Sly"
        qualifiedName := "Sly"
        bases := [.builtin .object]
        lineage := [.user 0, .builtin .object]
        entries := [("__index__", .routine (.user 0))]
        hasFields := true },
      { (default : ClassInfo) with
        name := "Pair"
        qualifiedName := "Pair"
        bases := [.builtin .object]
        lineage := [.user 1, .builtin .object]
        entries := [("__init__", .routine (.user 1))]
        hasFields := true }]
    functions := #[
      { (default : Function) with
        name := "__index__"
        qualifiedName := "Sly.__index__"
        parameters := [⟨"self", .positional, none, none⟩]
        body := .statements [.result (.call (.constant (.routine (.user 2)))
          [.call (.constant (.bound (.builtin .list "__init__") (.object 0)))
            [.list [.constant (.int 7), .constant (.int 8)]]])] },
      { (default : Function) with
        name := "__init__"
        qualifiedName := "Pair.__init__"
        parameters := [⟨"self", .positional, none, none⟩, ⟨"a", .positional, some (.builtin .int), none⟩,
          ⟨"b", .positional, some (.builtin .int), none⟩]
        body := .statements [.result
          (.call (.constant (.bound (.builtin .list "append") (.object 2))) [.variable "b"])] },
      { (default : Function) with
        name := "one"
        qualifiedName := "one"
        parameters := [⟨"done", .positional, none, none⟩]
        body := .statements [.result (.constant (.int 1))] }]
    objects := #[
      ⟨.builtin .list, .list [.object 1, .int 5], [], []⟩,
      ⟨.user 0, .plain, [], []⟩,
      ⟨.builtin .list, .list [], [], []⟩,
      ⟨.builtin .list, .list [.int 1, .int 5], [], []⟩] }

/-- The world after the sly number was asked. -/
def asked : Store :=
  { world with objects := #[
      ⟨.builtin .list, .list [.int 7, .int 8], [], []⟩,
      ⟨.user 0, .plain, [], []⟩,
      ⟨.builtin .list, .list [], [], []⟩,
      ⟨.builtin .list, .list [.int 1, .int 5], [], []⟩,
      ⟨.builtin .list, .list [.int 7, .int 8], [], []⟩] }

/-- The world after a pair was made of which a number is the second. -/
def paired (st : Store) (b : Int) : Store :=
  let pushed := st.objects.push ⟨.user 1, .plain, [], []⟩
  { st with objects := pushed.modify 2 fun o => { o with payload := .list [.int b] } }

/-- What the runner of the world is for a call. -/
abbrev runner : Runner := runFunction callDepth

/-- The constructor of pairs. -/
def pair : MemberDescriptor :=
  { MemberDescriptor.bare .constructor (.cls (.user 1)) "__init__" with
    parameters := [.builtin .int, .builtin .int]
    valueType := .cls (.user 1)
    target := .cls (.user 1) }

theorem arity_pair_le : pair.arity ≤ maxArity := by decide

/-- Pairs have no way of their own of being made. -/
theorem lookup?_new : world.lookup? (.user 1) "__new__" = none ∨
    ∃ e, world.lookup? (.user 1) "__new__" = some (.builtin .object, e) := by
  have hown : world.entry? (.user 1) "__new__" = none := rfl
  cases h : world.lookup? (.user 1) "__new__" with
  | none => exact .inl rfl
  | some found =>
    obtain ⟨k, hk, he⟩ := List.exists_of_findSome?_eq_some h
    change k ∈ [.user 1, .builtin .object] at hk
    obtain rfl | rfl := by simpa using hk
    · rw [hown] at he
      cases he
    · obtain ⟨e, -, rfl⟩ := Option.map_eq_some_iff.mp he
      exact .inr ⟨e, rfl⟩

theorem asked_pair : Member.Asked runner world (.user 1) pair := by
  have hsignature : world.classSignature? (.user 1) =
      some ⟨[⟨"a", some (.builtin .int)⟩, ⟨"b", some (.builtin .int)⟩], none⟩ := by
    unfold Store.classSignature?
    dsimp only
    rcases lookup?_new with h | ⟨e, h⟩ <;> simp only [h] <;> rfl
  have hhints : (Member.constructorHints (.user 1)).perform runner world =
      (.ok [("a", .builtin .int), ("b", .builtin .int)], world) := rfl
  have hrun : (Member.resolve .constructor (.cls (.user 1))).perform runner world = (.ok pair, world) := by
    change (Member.constructorOf (.user 1)).perform runner world = _
    unfold Member.constructorOf
    rw [perform_bind_get, hsignature]
    exact (perform_bind_ok hhints).trans rfl
  exact .resolve hrun

/-- A pair of two numbers is one more object, before the sly number was asked and after. -/
theorem call_pair {st : Store} (hst : st = world ∨ st = asked) (a b : Int) :
    ((Value.cls (.user 1)).call [.int a, .int b]).perform runner st =
      (.ok (.object st.objects.size), paired st b) := by
  have hmade : (Value.makeObject (.user 1) [.int a, .int b]).perform runner st =
      (.ok (.object st.objects.size), { st with objects := st.objects.push ⟨.user 1, .plain, [], []⟩ }) := by
    have hsame : st.lookup? = world.lookup? := by rcases hst with rfl | rfl <;> rfl
    unfold Value.makeObject
    rw [perform_bind_get, hsame]
    rcases lookup?_new with h | ⟨e, h⟩ <;> rw [h] <;> rcases hst with rfl | rfl <;> rfl
  refine (perform_bind_ok hmade).trans ?_
  rcases hst with rfl | rfl <;> rfl

/-- The plan of an accessor that takes two arguments. -/
def plan (s : Shape) (name : Nat → String) (count : Option Nat) : Plan :=
  { descriptor := pair
    shape := s
    operation := .construct
    receiver := none
    arguments := [⟨0, name 0, .builtin .int, some .int⟩, ⟨1, name 1, .builtin .int, some .int⟩]
    result := some ⟨.builtin .any, none⟩
    arrayArity := count }

theorem parameterSteps_pair (name : Nat → String) : Plan.parameterSteps world [] pair name =
    [⟨0, name 0, .builtin .int, some .int⟩, ⟨1, name 1, .builtin .int, some .int⟩] := by
  have hint : world.converter? [] (.builtin .int) = some .int := by
    rw [Store.converter?_of_plain rfl rfl rfl]
    rfl
  have hsteps : Plan.parameterSteps world [] pair name =
      [⟨0, name 0, .builtin .int, world.converter? [] (.builtin .int)⟩,
        ⟨1, name 1, .builtin .int, world.converter? [] (.builtin .int)⟩] := rfl
  rw [hsteps, hint]

/-- What was built for separate arguments. -/
theorem plan_of_arguments {a : Accessor}
    (h : Built (.start world) pair (.ofArguments 2 arity_pair_le none) a) :
    a.plan = plan (.ofArguments 2 arity_pair_le none) Plan.argumentName none := by
  rw [Except.ok.inj (h.plan.symm.trans (Plan.synthesize_of_unpinned rfl))]
  change { plan (.ofArguments 2 arity_pair_le none) Plan.argumentName none with
    arguments := Plan.parameterSteps world [] pair Plan.argumentName } = _
  rw [parameterSteps_pair]
  rfl

/-- What was built for a sequence. -/
theorem plan_of_sequence {b : Accessor} (h : Built (.start world) pair (.constructorArray none) b) :
    b.plan = plan (.constructorArray none) Plan.itemName (some 2) := by
  rw [Except.ok.inj (h.plan.symm.trans (Plan.synthesize_of_unpinned rfl))]
  change { plan (.constructorArray none) Plan.itemName (some 2) with
    arguments := Plan.parameterSteps world [] pair Plan.itemName } = _
  rw [parameterSteps_pair]
  rfl

theorem obstacle?_pair : Plan.obstacle? world pair (.constructorArray none) = none := by decide +kernel

/-- The list with the sly number has no way of its own to give its items, before that is asked and after. -/
theorem listsPlainly_first : Accessor.ListsPlainly world (.object 0) [.object 1, .int 5] :=
  ⟨⟨0, rfl, .inl rfl⟩, fun _ => Store.specialMethod?_of_builtin (b := .list) rfl _⟩

theorem listsPlainly_asked : Accessor.ListsPlainly asked (.object 0) [.int 7, .int 8] :=
  ⟨⟨0, rfl, .inl rfl⟩, fun _ => Store.specialMethod?_of_builtin (b := .list) rfl _⟩

/-- The first item is taken from the list as it is, and the second one from what the first has made of it. -/
theorem operands_first :
    (Accessor.operands [("args", .object 0)] true
      (plan (.constructorArray none) Plan.itemName (some 2)).arguments).perform runner world =
        (.ok [.int 1, .int 8], asked) := by
  have hitem : ((Value.object 0).itemAt 0).perform runner world = (.ok (.object 1), world) :=
    listsPlainly_first.holds.perform_itemAt (listsPlainly_first.method (by simp)) rfl
  have hitem' : ((Value.object 0).itemAt 1).perform runner asked = (.ok (.int 8), asked) :=
    listsPlainly_asked.holds.perform_itemAt (listsPlainly_asked.method (by simp)) rfl
  have hfirst : (Accessor.operand [("args", .object 0)] true ⟨0, Plan.itemName 0, .builtin .int, some .int⟩
      ).perform runner world = (.ok (.int 1), asked) := (perform_bind_ok hitem).trans rfl
  have hsecond : (Accessor.operand [("args", .object 0)] true ⟨1, Plan.itemName 1, .builtin .int, some .int⟩
      ).perform runner asked = (.ok (.int 8), asked) := (perform_bind_ok hitem').trans rfl
  change (List.mapM _ [_, _] : Action (List Value)).perform runner world = _
  rw [List.mapM_cons, perform_bind_ok hfirst, List.mapM_cons, bind_assoc, perform_bind_ok hsecond]
  rfl

/-- **A conversion replaces the item after it**: as separate arguments the sly number and `5` make the pair of
`1` and `5`, and as the items of the list the pair of `1` and `8`; so the list of all seconds tells. -/
theorem replaced_item_is_constructed :
    Member.Asked runner world (.user 1) pair ∧
    Accessor.ListsPlainly world (.object 0) [.object 1, .int 5] ∧
    Shape.constructor world (.int 2) none = .ok (.ofArguments 2 arity_pair_le none) ∧
    ∃ n a σ₁ b σ₂,
      (build (.proper pair) (.proper (.ofArguments 2 arity_pair_le none))).run.run (.start world) =
        (.ok n, σ₁) ∧ σ₁.accessors[n]? = some a ∧
      (build (.proper pair) (.proper (.constructorArray none))).run.run (.start world) = (.ok n, σ₂) ∧
      σ₂.accessors[n]? = some b ∧
      (a.call [.object 1, .int 5]).perform runner world = (.ok (.object 5), paired asked 5) ∧
      (b.call [.object 0]).perform runner world = (.ok (.object 5), paired asked 8) := by
  refine ⟨asked_pair, listsPlainly_first, rfl, ?_⟩
  obtain ⟨a, log, hrun⟩ := run_build_clear (σ := .start world) (d := pair)
    (s := .ofArguments 2 arity_pair_le none) (m := .empty) rfl obstacle?_pair
  obtain ⟨b, log', hrun'⟩ := run_build_clear (σ := .start world) (d := pair)
    (s := .constructorArray none) (m := .empty) rfl obstacle?_pair
  have ha := built_of_run hrun (a := a) (by simp)
  have hb := built_of_run hrun' (a := b) (by simp)
  refine ⟨_, a, _, b, _, hrun, by simp, hrun', by simp, ?_, ?_⟩
  · have hreach : (a.reach [.object 1, .int 5]).perform runner world =
        (.ok (.object 5), paired asked 5) := by
      unfold Accessor.reach
      rw [plan_of_arguments ha, ha.subject_of_construct rfl]
      exact call_pair (.inr rfl) 1 5
    rw [Accessor.call, perform_bind_ok hreach, plan_of_arguments ha]
    rfl
  · have hnames : b.plan.parameterNames.zip [Value.object 0] = [("args", .object 0)] := by
      rw [plan_of_sequence hb]
      rfl
    have hcheck : (Accessor.checkSequence (b.plan.parameterNames.zip [.object 0]) 2).perform runner world =
        (.ok (), world) := by
      rw [hnames]
      exact listsPlainly_first.perform_checkSequence
    have hreach : (b.reach [.object 0]).perform runner world = (.ok (.object 5), paired asked 8) := by
      rw [Accessor.perform_reach_sequence (by rw [plan_of_sequence hb]; rfl)
        (by rw [plan_of_sequence hb]; rfl) (by rw [plan_of_sequence hb]; rfl) hcheck, hnames,
        plan_of_sequence hb, hb.subject_of_construct rfl]
      exact (perform_bind_ok operands_first).trans (call_pair (.inr rfl) 1 8)
    rw [Accessor.call, perform_bind_ok hreach, plan_of_sequence hb]
    rfl

theorem listsPlainly_numbers : Accessor.ListsPlainly world (.object 3) [.int 1, .int 5] :=
  ⟨⟨3, rfl, .inl rfl⟩, fun _ => Store.specialMethod?_of_builtin (b := .list) rfl _⟩

theorem convertsFreely_int (n : Int) : world.ConvertsFreely (.int n) .int where
  knows := nofun
  answer _ := Store.overrides_of_builtin (b := .int) rfl _
  hook i := by
    match i with
    | 0 | 1 => rfl
    | _ + 2 => rfl
  isBuiltIn := rfl
  method _ := Store.overrides_of_builtin (b := .int) rfl _
  array := nofun
  tests := nofun

/-- No code comes with plain numbers. -/
theorem leavesItems_of_numbers {a : Accessor}
    (ha : Built (.start world) pair (.ofArguments 2 arity_pair_le none) a) :
    a.LeavesItems runner world (.object 3) [.int 1, .int 5] := by
  have hplan := plan_of_arguments ha
  have hsubject := ha.subject_of_construct rfl
  have hconverted : a.converted =
      (plan (.ofArguments 2 arity_pair_le none) Plan.argumentName none).arguments := by
    rw [Accessor.converted, hsubject, hplan]
  refine Accessor.leavesItems_of_bringsNoCode ?_ (by rintro i ⟨⟩; decide) listsPlainly_numbers
  constructor
  case sequence =>
    intro hs
    rw [hplan] at hs
    cases hs
  case receiver =>
    intro t c hr
    rw [hplan] at hr
    cases hr
  case member => exact fun htarget => absurd hsubject (htarget _)
  case values =>
    intro r c hr hc run st₁ v st₂ h₁ hsupplied
    -- both slots are supplied with a number and converted to one
    have hnumber : ∃ n : Int, v = .int n ∧ st₂ = st₁ ∧ c = .int := by
      rw [Accessor.supplied, hplan] at hsupplied
      rw [hconverted] at hr
      obtain rfl | rfl := by simpa [plan] using hr
      · cases hc
        cases hsupplied
        exact ⟨1, rfl, rfl, rfl⟩
      · cases hc
        cases hsupplied
        exact ⟨5, rfl, rfl, rfl⟩
    obtain ⟨n, rfl, rfl, rfl⟩ := hnumber
    exact (convertsFreely_int n).of_grows h₁

/-- The plan of the pairs holds no rule. -/
theorem not_holds_rule {a : Accessor} (ha : Built (.start world) pair (.ofArguments 2 arity_pair_le none) a)
    {q : Rule × TypeForm} : ¬a.plan.Holds q := by
  rw [plan_of_arguments ha]
  have hplain {c : Converter} (hc : c = .int) : q ∉ c.held := by
    subst hc
    exact List.not_mem_nil
  rintro (⟨hr, hc, hq⟩ | ⟨hr, hc, hq⟩)
  · obtain rfl | rfl := by simpa [plan] using hr
    all_goals exact hplain (Option.some.inj hc).symm hq
  · cases hr
    cases hc

/-- The list of the plain numbers makes the pair that they make. -/
theorem numbers_are_constructed : ∃ s, Shape.constructor world (.int 2) none = .ok s ∧
    ∃ n a σ₁ b σ₂, (build (.proper pair) (.proper s)).run.run (.start world) = (.ok n, σ₁) ∧
      σ₁.accessors[n]? = some a ∧
      (build (.proper pair) (.proper (.constructorArray none))).run.run (.start world) = (.ok n, σ₂) ∧
      σ₂.accessors[n]? = some b ∧
      (a.call [.int 1, .int 5]).perform runner world = (.ok (.object 4), paired world 5) ∧
      (b.call [.object 3]).perform runner world = (.ok (.object 4), paired world 5) := by
  obtain ⟨s, hs, hbuilt⟩ := array_constructor_agrees (d := pair) rfl arity_pair_le none (.start world)
  refine ⟨s, hs, ?_⟩
  obtain rfl : Shape.ofArguments 2 arity_pair_le none = s := Except.ok.inj hs
  rcases hbuilt with ⟨f, σ', hfails, -⟩ | ⟨n, a, σ₁, b, σ₂, hrun, ha, hrun', hb, hcalls⟩
  · obtain ⟨a, log, hrun⟩ := run_build_clear (σ := .start world) (d := pair)
      (s := .ofArguments 2 arity_pair_le none) (m := .empty) rfl obstacle?_pair
    rw [hrun] at hfails
    cases hfails
  refine ⟨n, a, σ₁, b, σ₂, hrun, ha, hrun', hb, ?_⟩
  have hbuilt := built_of_run hrun ha
  have hcall : (a.call [.int 1, .int 5]).perform runner world = (.ok (.object 4), paired world 5) := by
    have hreach : (a.reach [.int 1, .int 5]).perform runner world =
        (.ok (.object 4), paired world 5) := by
      unfold Accessor.reach
      rw [plan_of_arguments hbuilt, hbuilt.subject_of_construct rfl]
      exact call_pair (.inl rfl) 1 5
    rw [Accessor.call, perform_bind_ok hreach, plan_of_arguments hbuilt]
    rfl
  have hagrees := hcalls runner world (.object 3) [.int 1, .int 5] listsPlainly_numbers rfl
    (fun _ h => absurd h (not_holds_rule hbuilt))
    (leavesItems_of_numbers hbuilt)
  rw [hcall] at hagrees
  refine ⟨hcall, ?_⟩
  generalize (b.call [.object 3]).perform runner world = r at hagrees
  cases hagrees
  rfl

end SlyNumber

end MemberAccess
