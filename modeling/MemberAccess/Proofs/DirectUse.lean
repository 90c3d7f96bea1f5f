import MemberAccess.Proofs.Building
import MemberAccess.Proofs.EqualConversions
import MemberAccess.Proofs.FoundMembers
import MemberAccess.Proofs.InstanceTests
import MemberAccess.Proofs.SpecialMethods

/-!
# Accessors and the direct use of members

An accessor that pins no type stands for a direct use of its member: the class is called, a captured
static function is called, the attribute of its name is called, read, or set.  What the accessor adds
are looks at the receiver and at the arguments.  Where these let everything pass and change nothing, a
call of the accessor *is* the direct use: it gives the same, fails the same and leaves the same objects.

It is not enough that they let everything pass.  Testing for a protocol reads the attributes that the
protocol asks for, and a property can do anything when it is read (`look_at_argument_shows`).

The direct use takes the member's name as it is, and the items of a sequence as walking through it gives
them.  The text of an accessor means the normal form of a name and takes items by their places, so that
both have to be the same.
-/

namespace MemberAccess

open MemberAccess.Action

/-! ## §1  Direct use -/

/-- What holds a member, and the other arguments: the declaring class holds its own members, and the
first argument those of instances. -/
def MemberDescriptor.split (d : MemberDescriptor) (arguments : List Value) :
    Option (Value × List Value) :=
  if d.isStatic then some (d.declaring.toValue, arguments)
  else
    match arguments with
    | v :: xs => some (v, xs)
    | [] => none

/-- The use of a member by its name, without an accessor, on the arguments that an accessor of the shape would
take. -/
def MemberDescriptor.use (d : MemberDescriptor) (s : Shape) (arguments : List Value) : Action Value :=
  match s.family with
  | .construct => d.declaring.toValue.call arguments
  | .constructArray =>
      match arguments with
      | [sequence] => do d.declaring.toValue.call (← sequence.items)
      | _ => fault .typeError
  | .func | .action =>
      if d.isStatic then d.target.call arguments
      else
        match d.split arguments with
        | some (v, xs) => do (← v.getAttribute d.name).call xs
        | none => fault .typeError
  | .get =>
      match d.split arguments with
      | some (v, []) => v.getAttribute d.name
      | _ => fault .typeError
  | .set =>
      match d.split arguments with
      | some (v, [x]) => do
          v.setAttribute d.name x
          return .nothing
      | _ => fault .typeError

/-- Whether a use goes by the name of the member: classes and captured functions are called themselves. -/
def MemberDescriptor.goesByName (d : MemberDescriptor) : Bool :=
  d.kind != .constructor && !(d.kind == .method && d.isStatic)

namespace MemberDescriptor

variable {d : MemberDescriptor} {s : Shape} {v x : Value} {xs : List Value}

theorem use_construct (hf : s.family = .construct) : d.use s xs = d.declaring.toValue.call xs := by
  unfold use
  rw [hf]

theorem use_constructArray (hf : s.family = .constructArray) :
    d.use s [v] = (v.items >>= fun xs => d.declaring.toValue.call xs) := by
  unfold use
  rw [hf]

theorem use_static (hf : s.family = .func ∨ s.family = .action) (hstatic : d.isStatic = true) :
    d.use s xs = d.target.call xs := by
  unfold use
  rcases hf with hf | hf <;> rw [hf] <;> exact if_pos hstatic

theorem use_method (hf : s.family = .func ∨ s.family = .action) (hstatic : d.isStatic = false) :
    d.use s (v :: xs) = (v.getAttribute d.name >>= fun f => f.call xs) := by
  unfold use split
  rcases hf with hf | hf <;> rw [hf] <;> simp [hstatic]

theorem use_get (hf : s.family = .get) (h : d.split xs = some (v, [])) :
    d.use s xs = v.getAttribute d.name := by
  unfold use
  rw [hf]
  simp [h]

theorem use_set (hf : s.family = .set) (h : d.split xs = some (v, [x])) :
    d.use s xs = (v.setAttribute d.name x >>= fun _ => pure .nothing) := by
  unfold use
  rw [hf]
  simp [h]

end MemberDescriptor

/-! ## §2  Looks that let everything pass and change nothing -/

section
variable (run : Runner) (conv : TypeForm → Option Converter)

/-- The conversion of a value to a type gives the value and changes nothing. -/
def Keeps (st : Store) (t : TypeForm) (place : String) (x : Value) : Prop :=
  ∀ c, conv t = some c → (c.apply x place).perform run st = (.ok x, st)

/-- There are as many arguments as parameters, and each is kept by the conversion to the type of its
parameter. -/
structure KeepsAll (st : Store) (d : MemberDescriptor) (xs : List Value) : Prop where
  length : xs.length = d.arity
  keeps {i : Nat} {t : TypeForm} {x : Value} : d.parameters[i]? = some t → xs[i]? = some x →
    Keeps run conv st t (Plan.argumentName i) x

/-- The items of a sequence from a place on, each taken after the ones before it, are kept by the
conversions to the types. -/
def KeepsItems (sequence : Value) : Nat → List TypeForm → Store → Prop
  | _, [], _ => True
  | i, t :: ts, st => ∀ x st', (sequence.itemAt i).perform run st = (.ok x, st') →
      Keeps run conv st' t (Plan.itemName i) x ∧ KeepsItems sequence (i + 1) ts st'

/-- Walking through a sequence gives the items at its first `n` places, each taken after the ones before
it; its class has no way of its own to be walked through. -/
structure WalksInOrder (st : Store) (n : Nat) (sequence : Value) : Prop where
  own : st.specialMethod? sequence "__iter__" = none
  items : sequence.items.perform run st = ((List.range n).mapM sequence.itemAt).perform run st

/-- A receiver is there, and of the class that is looked for, and looking changes nothing. -/
structure Admits (st : Store) (d : MemberDescriptor) (s : Shape) (v : Value) : Prop where
  present : v ≠ .nothing
  isInstance {k : ClassRef} : s.receiver = .checked → d.declaring.runtimeClass? = some k →
    k ≠ .builtin .object → (v.isInstance k).perform run st = (.ok true, st)

/-- **The arguments of a call pass all looks**, and these change nothing.  The arguments of a method are
looked at after the method was read from the receiver. -/
inductive Undisturbed (st : Store) (d : MemberDescriptor) (s : Shape) : List Value → Prop
  | construct {xs : List Value} : s.family = .construct → KeepsAll run conv st d xs →
      Undisturbed st d s xs
  | constructArray {sequence : Value} : s.family = .constructArray → sequence ≠ .nothing →
      sequence.itemCount.perform run st = (.ok d.arity, st) → WalksInOrder run st d.arity sequence →
      KeepsItems run conv sequence 0 d.parameters st → Undisturbed st d s [sequence]
  | static {xs : List Value} : s.family = .func ∨ s.family = .action → d.isStatic = true →
      KeepsAll run conv st d xs → Undisturbed st d s xs
  | method {v : Value} {xs : List Value} : s.family = .func ∨ s.family = .action →
      d.isStatic = false → Admits run st d s v → xs.length = d.arity →
      (∀ f st', (v.getAttribute d.name).perform run st = (.ok f, st') →
        KeepsAll run conv st' d xs) → Undisturbed st d s (v :: xs)
  | staticGet : s.family = .get → d.isStatic = true → Undisturbed st d s []
  | get {v : Value} : s.family = .get → d.isStatic = false → Admits run st d s v →
      Undisturbed st d s [v]
  | staticSet {x : Value} : s.family = .set → d.isStatic = true →
      Keeps run conv st d.valueType "value" x → Undisturbed st d s [x]
  | set {v x : Value} : s.family = .set → d.isStatic = false → Admits run st d s v →
      Keeps run conv st d.valueType "value" x → Undisturbed st d s [v, x]

end

namespace Accessor

variable {run : Runner} {st : Store} {v : Value} {xs : List Value}

/-- The items of lists and tuples. -/
def Holds (st : Store) (v : Value) (xs : List Value) : Prop :=
  ∃ i, v = .object i ∧ ((st.object i).payload = .list xs ∨ (st.object i).payload = .tuple xs)

/-- A list or tuple gives its items at their places, unless its class has a way of its own to give items. -/
theorem Holds.perform_itemAt (h : Holds st v xs) (hget : st.specialMethod? v "__getitem__" = none) {i : Nat}
    {x : Value} (hx : xs[i]? = some x) : (v.itemAt i).perform run st = (.ok x, st) := by
  obtain ⟨a, rfl, hpayload⟩ := h
  unfold Value.itemAt Value.builtinItemAt
  rw [perform_bind_get, hget]
  dsimp only
  rw [perform_bind_get]
  rcases hpayload with hp | hp <;> simp only [hp, hx, perform_pure]

theorem Holds.perform_items (h : Holds st v xs) : v.items.perform run st = (.ok xs, st) := by
  obtain ⟨a, rfl, hpayload⟩ := h
  have hatom : st.atomOf? (.object a) = none := by
    unfold Store.atomOf?
    rcases hpayload with hp | hp <;> simp [hp]
  unfold Value.items
  rw [perform_bind_get, hatom]
  rcases hpayload with hp | hp <;> simp only [hp, perform_pure]

/-- A list or tuple is counted by its items, unless its class has a count of its own. -/
theorem Holds.perform_itemCount (h : Holds st v xs) (hlen : st.specialMethod? v "__len__" = none) :
    v.itemCount.perform run st = (.ok xs.length, st) := by
  have harray : st.arrayOf? v = none := by
    obtain ⟨a, rfl, hpayload⟩ := h
    unfold Store.arrayOf?
    rcases hpayload with hp | hp <;> simp [hp]
  unfold Value.itemCount
  rw [perform_bind_get, hlen, harray]
  exact perform_bind_ok h.perform_items

/-- The items of a list or tuple from a place on, taken one by one. -/
theorem Holds.perform_itemsFrom (h : Holds st v xs) (hget : st.specialMethod? v "__getitem__" = none)
    {k n : Nat} (hn : k + n = xs.length) :
    ((List.range' k n).mapM v.itemAt).perform run st = (.ok (xs.drop k), st) := by
  induction n generalizing k with
  | zero =>
    rw [List.drop_eq_nil_of_le (by omega)]
    rfl
  | succ n ih =>
    have hk : k < xs.length := by omega
    rw [List.range'_succ, List.mapM_cons, perform_bind_ok (h.perform_itemAt hget (List.getElem?_eq_getElem hk)),
      perform_bind_ok (ih (by omega)), List.drop_eq_getElem_cons hk]
    rfl

/-- **Lists and tuples are walked through in order**, unless their class has ways of its own. -/
theorem Holds.walksInOrder (h : Holds st v xs) (hget : st.specialMethod? v "__getitem__" = none)
    (hiter : st.specialMethod? v "__iter__" = none) : WalksInOrder run st xs.length v := by
  refine ⟨hiter, ?_⟩
  rw [h.perform_items, List.range_eq_range', h.perform_itemsFrom hget (by omega), List.drop_zero]

end Accessor

/-! ## §3  Arguments by name -/

namespace Accessor

variable {a : Accessor} {run : Runner} {conv : TypeForm → Option Converter} {st : Store}
  {env : Arguments} {arguments : List Value}

/-- Names that are all different find the arguments in their places. -/
theorem lookup_zip {names : List String} {xs : List Value} {i : Nat} {n : String} {x : Value}
    (hnames : names.Nodup) (hn : names[i]? = some n) (hx : xs[i]? = some x) :
    (names.zip xs).lookup n = some x := by
  induction names generalizing xs i with
  | nil => simp at hn
  | cons m names ih =>
    cases xs with
    | nil => simp at hx
    | cons y xs =>
      rw [List.zip_cons_cons, List.lookup_cons]
      cases i with
      | zero =>
        cases hn
        cases hx
        simp
      | succ i =>
        rw [List.getElem?_cons_succ] at hn hx
        have hne : (n == m) = false := by
          refine beq_false_of_ne ?_
          rintro rfl
          exact (List.nodup_cons.mp hnames).1 (List.mem_of_getElem? hn)
        rw [hne]
        exact ih (List.nodup_cons.mp hnames).2 hn hx

/-- The names of a receiver and of up to nine arguments are all different. -/
theorem nodup_names : ∀ n ≤ maxArity, ("instance" :: (List.range n).map Plan.argumentName).Nodup := by
  decide

/-- An argument that is kept is what is used. -/
theorem perform_operand {step : ArgumentStep} {x : Value} (henv : env.lookup step.name = some x)
    (hkeeps : ∀ c, step.converter = some c → (c.apply x step.name).perform run st = (.ok x, st)) :
    (operand env false step).perform run st = (.ok x, st) := by
  have hargument : (argument env step.name).perform run st = (.ok x, st) := by
    rw [argument, henv]
    rfl
  rw [operand]
  refine (perform_bind_ok hargument).trans ?_
  cases hc : step.converter with
  | none => rfl
  | some c => exact hkeeps c hc

theorem perform_operands {steps : List ArgumentStep} {xs : List Value}
    (h : List.Forall₂ (fun (step : ArgumentStep) x => env.lookup step.name = some x ∧
      ∀ c, step.converter = some c → (c.apply x step.name).perform run st = (.ok x, st)) steps xs) :
    (operands env false steps).perform run st = (.ok xs, st) := by
  induction h with
  | nil => rfl
  | cons hx _ ih =>
    rw [operands, List.mapM_cons, perform_bind_ok (perform_operand hx.1 hx.2)]
    exact perform_bind_ok ih

theorem names_parameterSteps {st₀ : Store} {rules : List Rule} {d : MemberDescriptor}
    {name : Nat → String} :
    (Plan.parameterSteps st₀ rules d name).map (·.name) = (List.range d.arity).map name := by
  refine List.ext_getElem (by simp [Plan.parameterSteps, MemberDescriptor.arity]) ?_
  intro i h h'
  simp [Plan.parameterSteps]

/-- The arguments of a member are found by their names and are kept. -/
theorem perform_parameters {st₀ : Store} {rules : List Rule} {d : MemberDescriptor} {xs : List Value}
    (h : KeepsAll run (st₀.converter? rules) st d xs)
    (hfound : ∀ i x, xs[i]? = some x → env.lookup (Plan.argumentName i) = some x) :
    (operands env false (Plan.parameterSteps st₀ rules d Plan.argumentName)).perform run st =
      (.ok xs, st) := by
  refine perform_operands (List.forall₂_iff_get.mpr ⟨?_, ?_⟩)
  · simp [Plan.parameterSteps, h.length, MemberDescriptor.arity]
  · intro i hi hi'
    have hparameter : i < d.parameters.length := by
      rw [← MemberDescriptor.arity, ← h.length]
      exact hi'
    have hx : xs[i]? = some (xs.get ⟨i, hi'⟩) := by simp
    have ht : d.parameters[i]? = some d.parameters[i] := by simp
    simp only [Plan.parameterSteps, List.get_eq_getElem, List.getElem_map, List.getElem_zipIdx]
    refine ⟨by simpa using hfound i _ hx, ?_⟩
    intro c hc
    have hkeeps := h.keeps ht hx c hc
    simpa using hkeeps

/-- The items of a sequence are taken in order, and are kept. -/
theorem perform_items {st₀ : Store} {rules : List Rule} {sequence : Value} {ts : List TypeForm} {i : Nat}
    (henv : env.lookup "args" = some sequence)
    (h : KeepsItems run (st₀.converter? rules) sequence i ts st) :
    (operands env true ((ts.zipIdx i).map fun (t, i) =>
      ⟨i, Plan.itemName i, t, st₀.converter? rules t⟩)).perform run st =
      ((List.range' i ts.length).mapM sequence.itemAt).perform run st := by
  induction ts generalizing i st with
  | nil => rfl
  | cons t ts ih =>
    rw [List.zipIdx_cons, List.map_cons, List.length_cons, List.range'_succ, operands, List.mapM_cons,
      List.mapM_cons, perform_bind, perform_bind]
    have hoperand : (operand env true ⟨i, Plan.itemName i, t, st₀.converter? rules t⟩).perform run st =
        (sequence.itemAt i).perform run st := by
      have hargument : (argument env "args").perform run st = (.ok sequence, st) := by
        rw [argument, henv]
        rfl
      rw [operand, if_pos rfl, perform_bind_ok hargument, perform_bind]
      rcases hitem : (sequence.itemAt i).perform run st with ⟨f | x, st'⟩
      · rfl
      · cases hc : st₀.converter? rules t with
        | none => rfl
        | some c => exact (h x st' hitem).1 c hc
    rw [hoperand]
    rcases hitem : (sequence.itemAt i).perform run st with ⟨f | x, st'⟩
    · rfl
    · have hrest := ih (h x st' hitem).2
      simp only
      rw [perform_bind, perform_bind]
      rw [operands] at hrest
      rw [hrest]

section
variable {n : Nat} {xs : List Value}

/-- Arguments are found by the names of their places. -/
theorem lookup_argument (hn : n ≤ maxArity) (hlen : xs.length = n) {i : Nat} {x : Value}
    (hx : xs[i]? = some x) :
    (((List.range n).map Plan.argumentName).zip xs).lookup (Plan.argumentName i) = some x := by
  have hi : i < n := by
    rw [← hlen]
    exact (List.getElem?_eq_some_iff.mp hx).1
  exact lookup_zip (List.nodup_cons.mp (nodup_names n hn)).2 (by simp [hi]) hx

/-- So are they behind a receiver. -/
theorem lookup_argument_receiver (hn : n ≤ maxArity) (hlen : xs.length = n) {v : Value} {i : Nat}
    {x : Value} (hx : xs[i]? = some x) :
    ((("instance" :: (List.range n).map Plan.argumentName)).zip (v :: xs)).lookup
      (Plan.argumentName i) = some x := by
  have hi : i < n := by
    rw [← hlen]
    exact (List.getElem?_eq_some_iff.mp hx).1
  refine lookup_zip (i := i + 1) (nodup_names n hn) (by simp [hi]) ?_
  rwa [List.getElem?_cons_succ]

end

/-! ## §4  Calls up to their access -/

/-- A call that looks at no receiver goes straight to its access. -/
theorem perform_reach (hlen : arguments.length = a.plan.parameterNames.length)
    (hsequence : a.plan.arrayArity = none) (hreceiver : a.plan.receiver = none) :
    (a.reach arguments).perform run st =
      (access a.plan a.subject (a.plan.parameterNames.zip arguments)).perform run st := by
  unfold reach
  simp only [hlen, ne_eq, not_true_eq_false, if_false, hsequence, hreceiver]

/-- A call whose receiver passes goes on to its access. -/
theorem perform_reach_receiver {r : ReceiverStep} {st' : Store}
    (hlen : arguments.length = a.plan.parameterNames.length)
    (hsequence : a.plan.arrayArity = none) (hreceiver : a.plan.receiver = some r)
    (hcheck : (checkReceiver (a.plan.parameterNames.zip arguments) a.plan.descriptor r).perform run st =
      (.ok (), st')) :
    (a.reach arguments).perform run st =
      (access a.plan a.subject (a.plan.parameterNames.zip arguments)).perform run st' := by
  unfold reach
  simp only [hlen, ne_eq, not_true_eq_false, if_false, hsequence, hreceiver]
  exact perform_bind_ok hcheck

/-- A call whose sequence of arguments has the wanted count goes on to its access. -/
theorem perform_reach_sequence {n : Nat} {st' : Store}
    (hlen : arguments.length = a.plan.parameterNames.length)
    (hsequence : a.plan.arrayArity = some n) (hreceiver : a.plan.receiver = none)
    (hcheck : (checkSequence (a.plan.parameterNames.zip arguments) n).perform run st = (.ok (), st')) :
    (a.reach arguments).perform run st =
      (access a.plan a.subject (a.plan.parameterNames.zip arguments)).perform run st' := by
  unfold reach
  simp only [hlen, ne_eq, not_true_eq_false, if_false, hsequence, hreceiver]
  exact perform_bind_ok hcheck

/-- A receiver that is admitted passes, whether it is looked at on every call or not. -/
theorem perform_checkReceiver {d : MemberDescriptor} {s : Shape} {v : Value} {r : ReceiverStep}
    (henv : env.lookup "instance" = some v) (hv : Admits run st d s v)
    (hr : Plan.receiverStep d s = some r) :
    (checkReceiver env d r).perform run st = (.ok (), st) := by
  have hargument : (argument env "instance").perform run st = (.ok v, st) := by
    rw [argument, henv]
    rfl
  have hcheck : r.check = none ∨ ∃ k, r.check = some k ∧ s.receiver = .checked ∧
      d.declaring.runtimeClass? = some k ∧ k ≠ .builtin .object := by
    unfold Plan.receiverStep at hr
    split at hr
    · cases hr
    · cases hr
      by_cases hchecked : s.receiver = .checked
      · cases hk : d.declaring.runtimeClass? with
        | none => exact .inl (by simp [hchecked])
        | some k =>
          by_cases hobject : k = .builtin .object
          · exact .inl (by simp [hchecked, hobject])
          · exact .inr ⟨k, by simp [hchecked, hobject], hchecked, rfl, hobject⟩
      · exact .inl (if_neg hchecked)
  unfold checkReceiver
  rw [perform_bind_get, perform_bind_ok hargument, if_neg hv.present]
  rcases hcheck with hnone | ⟨k, hsome, hchecked, hk, hobject⟩
  · rw [hnone]
    rfl
  · rw [hsome]
    exact perform_bind_ok (hv.isInstance hchecked hk hobject)

end Accessor

/-! ## §5  What was built -/

namespace Engine

/-- What is known of an accessor that was built. -/
structure Built (σ : Session) (d : MemberDescriptor) (s : Shape) (a : Accessor) : Prop where
  plan : Plan.synthesize σ.store σ.rules d s = .ok a.plan
  subject : a.subject = a.plan.subject σ.store
  family : Contract.checkFamily σ.store d s = .ok ()
  arity : Contract.checkArity σ.store d s = .ok ()
  static : Contract.checkStatic d s = .ok ()

theorem admits_of_checkFamily {st : Store} {d : MemberDescriptor} {s : Shape}
    (h : Contract.checkFamily st d s = .ok ()) :
    s.family.admits d.kind = true := by
  unfold Contract.checkFamily at h
  split at h
  · assumption
  · cases h

/-- The counts of parameters agree where they are not counted on every call. -/
theorem arity_of_checkArity {st : Store} {d : MemberDescriptor} {s : Shape}
    (h : Contract.checkArity st d s = .ok ()) : s.family = .constructArray ∨ d.arity = s.arity := by
  unfold Contract.checkArity at h
  split at h
  · assumption
  · cases h

theorem checks_of_check {st : Store} {d : MemberDescriptor} {s : Shape} {m m' : Memo}
    (h : (Contract.check st d s).run.run m = (.ok (), m')) :
    Contract.checkFamily st d s = .ok () ∧ Contract.checkArity st d s = .ok () ∧
      Contract.checkStatic d s = .ok () := by
  unfold Contract.check at h
  obtain ⟨u, m₁, hfamily, h⟩ := exists_of_run_bind h
  obtain ⟨u₁, m₂, harity, h⟩ := exists_of_run_bind h
  obtain ⟨u₂, m₃, -, h⟩ := exists_of_run_bind h
  obtain ⟨u₃, m₄, hstatic, -⟩ := exists_of_run_bind h
  rw [run_liftExcept] at hfamily harity hstatic
  exact ⟨congrArg Prod.fst hfamily, congrArg Prod.fst harity, congrArg Prod.fst hstatic⟩

theorem Built.arity_le {σ : Session} {d : MemberDescriptor} {s : Shape} {a : Accessor} (h : Built σ d s a)
    (hs : s.family ≠ .constructArray) : d.arity ≤ maxArity :=
  Nat.le_trans (Nat.le_of_eq ((arity_of_checkArity h.arity).resolve_left hs)) s.arity_le

theorem built_of_run {σ σ' : Session} {d : MemberDescriptor} {s : Shape} {n : Nat} {a : Accessor}
    (h : (build (.proper d) (.proper s)).run.run σ = (.ok n, σ')) (ha : σ'.accessors[n]? = some a) :
    Built σ d s a := by
  obtain ⟨m, b, hc, hm, hb⟩ := made_of_build h
  obtain rfl : b = a := Option.some.inj (hb.symm.trans ha)
  obtain ⟨hfamily, harity, hstatic⟩ := checks_of_check hc
  obtain ⟨p, hp, hofPlan⟩ := exists_plan_of_madeIn hm
  obtain ⟨hplan, hsubject⟩ := Accessor.of_ofPlan hofPlan
  exact ⟨hp.trans (by rw [hplan]), by rw [hsubject, hplan], hfamily, harity, hstatic⟩

end Engine

namespace Plan

variable {st : Store} {rules : List Rule} {d : MemberDescriptor} {s : Shape}

/-- The plan for a shape that pins no type. -/
def unpinned (st : Store) (rules : List Rule) (d : MemberDescriptor) (s : Shape) : Plan :=
  { descriptor := d
    shape := s
    operation := s.family.operation
    receiver := receiverStep d s
    arguments := match s.family with
      | .constructArray => parameterSteps st rules d itemName
      | .set => [⟨0, "value", d.valueType, st.converter? rules d.valueType⟩]
      | _ => parameterSteps st rules d argumentName
    result := if s.isValueProducing then some ⟨.builtin .any, none⟩ else none
    arrayArity := if s.family = .constructArray then some d.arity else none }

theorem synthesize_of_unpinned (hs : s.result? = none) :
    synthesize st rules d s = .ok (unpinned st rules d s) := by
  have hresult : resultStep st rules d s = .ok ⟨.builtin .any, none⟩ := by
    rw [resultStep, hs]
    rfl
  have hvalue : valueStep st rules d s =
      .ok ⟨0, "value", d.valueType, st.converter? rules d.valueType⟩ := by
    rw [valueStep, hs]
    rfl
  unfold synthesize argumentSteps unpinned Shape.isValueProducing
  rw [hresult, hvalue]
  cases s.family <;> rfl

/-- A member of instances is used on a receiver. -/
theorem exists_receiverStep (h : Contract.checkStatic d s = .ok ()) (hk : d.kind ≠ .constructor)
    (hstatic : d.isStatic = false) : ∃ r, receiverStep d s = some r := by
  have hreceiver : s.hasReceiver = true := by
    by_contra hno
    rw [Contract.checkStatic, if_neg hk, if_neg (by simp [hstatic]), if_pos (by simp [hno, hstatic])] at h
    cases h
  refine ⟨_, if_neg ?_⟩
  simp [hk, hstatic, hreceiver]

variable (st rules d)

theorem unpinned_call (hf : s.family = .func ∨ s.family = .action) :
    (unpinned st rules d s).operation = .call ∧ (unpinned st rules d s).arrayArity = none ∧
      (unpinned st rules d s).arguments = parameterSteps st rules d argumentName := by
  rcases hf with hf | hf <;> simp [unpinned, hf, Family.operation]

omit d in
theorem unpinned_get {d : MemberDescriptor} (hf : s.family = .get) (hparameters : d.parameters = []) :
    (unpinned st rules d s).operation = .get ∧ (unpinned st rules d s).arguments = [] := by
  simp [unpinned, hf, Family.operation, parameterSteps, hparameters]

theorem unpinned_set (hf : s.family = .set) :
    (unpinned st rules d s).operation = .set ∧ (unpinned st rules d s).arrayArity = none ∧
      (unpinned st rules d s).arguments =
        [⟨0, "value", d.valueType, st.converter? rules d.valueType⟩] := by
  simp [unpinned, hf, Family.operation]

end Plan

/-! ## §6  Calls are direct uses -/

namespace Accessor

variable {a : Accessor} {run : Runner} {st st₀ : Store} {rules : List Rule} {arguments : List Value}
  {d : MemberDescriptor} {s : Shape}

/-- What an unpinned accessor gives for what its access gives. -/
theorem finish_of_unpinned {v : Value} :
    finish (Plan.unpinned st₀ rules d s) v =
      (pure (if s.isValueProducing then v else .nothing) : Action Value) := by
  unfold finish Plan.unpinned Shape.isValueProducing
  cases s.family <;> rfl

/-- The accessor of a plan, on the subject that is settled when it is made. -/
structure Carries (a : Accessor) (st₀ : Store) (p : Plan) : Prop where
  plan : a.plan = p
  subject : a.subject = p.subject st₀

variable (ha : Carries a st₀ (Plan.unpinned st₀ rules d s))
include ha

/-- A target is called with arguments that are kept. -/
theorem reach_target {f : Value} (hf : s.family ≠ .constructArray) (hset : s.family ≠ .set)
    (hreceiver : Plan.receiverStep d s = none) (hsubject : a.subject = .target f)
    (harity : d.arity ≤ maxArity) (hkeeps : KeepsAll run (st₀.converter? rules) st d arguments) :
    (a.reach arguments).perform run st = (f.call arguments).perform run st := by
  have harguments : (Plan.unpinned st₀ rules d s).arguments =
      Plan.parameterSteps st₀ rules d Plan.argumentName := by
    unfold Plan.unpinned
    cases h : s.family <;> first | rfl | exact absurd h hf | exact absurd h hset
  have hnames : a.plan.parameterNames = (List.range d.arity).map Plan.argumentName := by
    rw [ha.plan, Plan.parameterNames, harguments]
    simp [Plan.unpinned, hf, hreceiver, names_parameterSteps]
  have hlen : arguments.length = a.plan.parameterNames.length := by simp [hnames, hkeeps.length]
  have hsequence : a.plan.arrayArity = none := by simp [ha.plan, Plan.unpinned, hf]
  rw [perform_reach hlen hsequence (by rw [ha.plan]; exact hreceiver), access.eq_def, hsubject,
    hsequence, hnames, ha.plan, harguments]
  exact perform_bind_ok (perform_parameters hkeeps fun i x hx =>
    lookup_argument harity hkeeps.length hx)

/-- **A constructor calls its class.** -/
theorem reach_construct (hf : s.family = .construct) (hk : d.kind = .constructor)
    (hclass : d.target = d.declaring.toValue) (hcallable : st₀.isCallable d.target = true)
    (harity : d.arity ≤ maxArity) (hkeeps : KeepsAll run (st₀.converter? rules) st d arguments) :
    (a.reach arguments).perform run st = (d.use s arguments).perform run st := by
  have hreceiver : Plan.receiverStep d s = none := by simp [Plan.receiverStep, hk]
  have hsubject : a.subject = .target d.declaring.toValue := by
    rw [ha.subject]
    simp [Plan.subject, Plan.unpinned, hf, Family.operation, hcallable, ← hclass]
  rw [d.use_construct hf]
  exact reach_target ha (by simp [hf]) (by simp [hf]) hreceiver hsubject harity hkeeps

/-- **The array form takes the items of the sequence and calls the class with them.** -/
theorem reach_constructArray {v : Value} (hf : s.family = .constructArray) (hk : d.kind = .constructor)
    (hclass : d.target = d.declaring.toValue) (hcallable : st₀.isCallable d.target = true)
    (hpresent : v ≠ .nothing) (hcount : v.itemCount.perform run st = (.ok d.arity, st))
    (hwalks : WalksInOrder run st d.arity v)
    (hkeeps : KeepsItems run (st₀.converter? rules) v 0 d.parameters st) :
    (a.reach [v]).perform run st = (d.use s [v]).perform run st := by
  have hreceiver : a.plan.receiver = none := by
    rw [ha.plan]
    simp [Plan.unpinned, Plan.receiverStep, hk]
  have hsequence : a.plan.arrayArity = some d.arity := by simp [ha.plan, Plan.unpinned, hf]
  have hnames : a.plan.parameterNames = ["args"] := by
    rw [Plan.parameterNames, hsequence]
  have hsubject : a.subject = .target d.declaring.toValue := by
    rw [ha.subject]
    simp [Plan.subject, Plan.unpinned, hf, Family.operation, hcallable, ← hclass]
  have hargument : (argument [("args", v)] "args").perform run st = (.ok v, st) := rfl
  have hcheck : (checkSequence (a.plan.parameterNames.zip [v]) d.arity).perform run st = (.ok (), st) := by
    rw [hnames]
    change (checkSequence [("args", v)] d.arity).perform run st = _
    unfold checkSequence
    rw [perform_bind_ok hargument, if_neg hpresent, perform_bind_ok hcount, if_pos rfl]
    rfl
  have harguments : (Plan.unpinned st₀ rules d s).arguments =
      Plan.parameterSteps st₀ rules d Plan.itemName := by simp [Plan.unpinned, hf]
  have hitems : (operands [("args", v)] true (Plan.parameterSteps st₀ rules d Plan.itemName)).perform
      run st = v.items.perform run st := by
    rw [hwalks.items, List.range_eq_range']
    exact perform_items rfl hkeeps
  rw [perform_reach_sequence (by simp [hnames]) hsequence hreceiver hcheck, access.eq_def, hsubject,
    hsequence, hnames, ha.plan, harguments, d.use_constructArray hf]
  change (operands [("args", v)] true _ >>= fun xs => d.declaring.toValue.call xs).perform run st = _
  rw [perform_bind, hitems, ← perform_bind]

/-- **A captured function of a class is called.** -/
theorem reach_static (hf : s.family = .func ∨ s.family = .action) (hk : d.kind = .method)
    (hstatic : d.isStatic = true) (harity : d.arity ≤ maxArity)
    (hkeeps : KeepsAll run (st₀.converter? rules) st d arguments) :
    (a.reach arguments).perform run st = (d.use s arguments).perform run st := by
  have hreceiver : Plan.receiverStep d s = none := by simp [Plan.receiverStep, hstatic]
  have hsubject : a.subject = .target d.target := by
    rw [ha.subject]
    rcases hf with hf | hf <;>
      simp [Plan.subject, Plan.unpinned, hf, Family.operation, hreceiver, hk]
  have hfamily : s.family ≠ .constructArray ∧ s.family ≠ .set := by
    rcases hf with hf | hf <;> simp [hf]
  rw [d.use_static hf hstatic]
  exact reach_target ha hfamily.1 hfamily.2 hreceiver hsubject harity hkeeps

/-- A call whose receiver is admitted makes its access on the receiver. -/
theorem reach_receiver {v : Value} {xs : List Value} {r : ReceiverStep}
    (hr : Plan.receiverStep d s = some r) (hv : Admits run st d s v)
    (hf : s.family ≠ .construct ∧ s.family ≠ .constructArray)
    (hlength : xs.length = (Plan.unpinned st₀ rules d s).arguments.length) :
    (a.reach (v :: xs)).perform run st =
      (accessMember (Plan.unpinned st₀ rules d s)
        (("instance" :: (Plan.unpinned st₀ rules d s).arguments.map (·.name)).zip (v :: xs))
        v).perform run st := by
  have hreceiver : a.plan.receiver = some r := by
    rw [ha.plan]
    exact hr
  have hsequence : a.plan.arrayArity = none := by simp [ha.plan, Plan.unpinned, hf.2]
  have hnames : a.plan.parameterNames =
      "instance" :: (Plan.unpinned st₀ rules d s).arguments.map (·.name) := by
    rw [Plan.parameterNames, hsequence, hreceiver, ha.plan]
    rfl
  have hsubject : a.subject = .receiver := by
    rw [ha.subject]
    have hoperation : s.family.operation ≠ .construct := by
      cases h : s.family <;> first | exact absurd h hf.1 | exact absurd h hf.2 | decide
    simp [Plan.subject, Plan.unpinned, hr, hoperation]
  have henv : (a.plan.parameterNames.zip (v :: xs)).lookup "instance" = some v := by
    rw [hnames, List.zip_cons_cons]
    exact List.lookup_cons_self
  have hargument : (argument (a.plan.parameterNames.zip (v :: xs)) "instance").perform run st =
      (.ok v, st) := by
    rw [argument, henv]
    rfl
  have hcheck := perform_checkReceiver henv hv hr
  have hdescriptor : a.plan.descriptor = d := by
    rw [ha.plan]
    rfl
  rw [perform_reach_receiver (by simp [hnames, hlength]) hsequence hreceiver
    (by rw [hdescriptor]; exact hcheck), access.eq_def, hsubject]
  refine (perform_bind_ok hargument).trans ?_
  rw [hnames, ha.plan]

/-- **A method is read from the receiver, by the receiver's own class, and called.** -/
theorem reach_method {v : Value} {xs : List Value} {r : ReceiverStep}
    (hf : s.family = .func ∨ s.family = .action) (hstatic : d.isStatic = false)
    (hname : d.attributeName = d.name)
    (hr : Plan.receiverStep d s = some r) (hv : Admits run st d s v) (harity : d.arity ≤ maxArity)
    (hlength : xs.length = d.arity)
    (hkeeps : ∀ f st', (v.getAttribute d.name).perform run st = (.ok f, st') →
      KeepsAll run (st₀.converter? rules) st' d xs) :
    (a.reach (v :: xs)).perform run st = (d.use s (v :: xs)).perform run st := by
  obtain ⟨hoperation, hsequence, harguments⟩ := Plan.unpinned_call st₀ rules d hf
  have hfamily : s.family ≠ .construct ∧ s.family ≠ .constructArray := by
    rcases hf with hf | hf <;> simp [hf]
  rw [reach_receiver ha hr hv hfamily (by simp [harguments, Plan.parameterSteps, hlength,
    MemberDescriptor.arity]), d.use_method hf hstatic]
  unfold accessMember
  rw [hoperation, hsequence, harguments, names_parameterSteps]
  change (v.getAttribute d.attributeName >>= _).perform run st = _
  rw [hname]
  refine perform_bind_congr ?_
  intro f st' hread
  exact perform_bind_ok (perform_parameters (hkeeps f st' hread) fun i x hx =>
    lookup_argument_receiver harity hlength hx)

/-- **A getter reads the attribute.** -/
theorem reach_get {v : Value} {r : ReceiverStep} (hf : s.family = .get) (hstatic : d.isStatic = false)
    (hname : d.attributeName = d.name)
    (hr : Plan.receiverStep d s = some r) (hv : Admits run st d s v) (hparameters : d.parameters = []) :
    (a.reach [v]).perform run st = (d.use s [v]).perform run st := by
  have hsplit : d.split [v] = some (v, []) := by simp [MemberDescriptor.split, hstatic]
  obtain ⟨hoperation, harguments⟩ := Plan.unpinned_get st₀ rules hf hparameters
  rw [reach_receiver ha hr hv (by simp [hf]) (by simp [harguments]), d.use_get hf hsplit, ← hname]
  unfold accessMember
  rw [hoperation]
  rfl

/-- **A setter sets the attribute.** -/
theorem reach_set {v x : Value} {r : ReceiverStep} (hf : s.family = .set) (hstatic : d.isStatic = false)
    (hname : d.attributeName = d.name)
    (hr : Plan.receiverStep d s = some r) (hv : Admits run st d s v)
    (hkeeps : Keeps run (st₀.converter? rules) st d.valueType "value" x) :
    (a.reach [v, x]).perform run st = (d.use s [v, x]).perform run st := by
  have hsplit : d.split [v, x] = some (v, [x]) := by simp [MemberDescriptor.split, hstatic]
  have harguments : (Plan.unpinned st₀ rules d s).arguments =
      [⟨0, "value", d.valueType, st₀.converter? rules d.valueType⟩] := by simp [Plan.unpinned, hf]
  have hoperation : (Plan.unpinned st₀ rules d s).operation = .set := by
    simp [Plan.unpinned, hf, Family.operation]
  rw [reach_receiver ha hr hv (by simp [hf]) (by simp [harguments]), d.use_set hf hsplit, ← hname]
  have hsequence : (Plan.unpinned st₀ rules d s).arrayArity = none := by simp [Plan.unpinned, hf]
  unfold accessMember
  rw [hoperation, harguments, hsequence]
  exact perform_bind_ok (perform_operand rfl hkeeps)

/-- A call without a receiver makes its access on the declaring class. -/
theorem reach_owner (hr : Plan.receiverStep d s = none) (hk : d.kind ≠ .method)
    (hf : s.family ≠ .construct ∧ s.family ≠ .constructArray)
    (hlength : arguments.length = (Plan.unpinned st₀ rules d s).arguments.length) :
    (a.reach arguments).perform run st =
      (accessMember (Plan.unpinned st₀ rules d s)
        (((Plan.unpinned st₀ rules d s).arguments.map (·.name)).zip arguments)
        d.declaring.toValue).perform run st := by
  have hreceiver : a.plan.receiver = none := by
    rw [ha.plan]
    exact hr
  have hsequence : a.plan.arrayArity = none := by simp [ha.plan, Plan.unpinned, hf.2]
  have hnames : a.plan.parameterNames = (Plan.unpinned st₀ rules d s).arguments.map (·.name) := by
    rw [Plan.parameterNames, hsequence, hreceiver, ha.plan]
    rfl
  have hsubject : a.subject = .owner d.declaring.toValue := by
    rw [ha.subject]
    have hoperation : s.family.operation ≠ .construct := by
      cases h : s.family <;> first | exact absurd h hf.1 | exact absurd h hf.2 | decide
    simp [Plan.subject, Plan.unpinned, hr, hoperation, hk]
  rw [perform_reach (by simp [hnames, hlength]) hsequence hreceiver, access.eq_def, hsubject]
  rw [hnames, ha.plan]

/-- **The getter of a member of the class itself reads the attribute of the declaring class.** -/
theorem reach_staticGet (hf : s.family = .get) (hstatic : d.isStatic = true)
    (hname : d.attributeName = d.name) (hk : d.kind ≠ .method) (hparameters : d.parameters = []) :
    (a.reach []).perform run st = (d.use s []).perform run st := by
  have hr : Plan.receiverStep d s = none := by simp [Plan.receiverStep, hstatic]
  have hsplit : d.split [] = some (d.declaring.toValue, []) := by
    simp [MemberDescriptor.split, hstatic]
  obtain ⟨hoperation, harguments⟩ := Plan.unpinned_get st₀ rules hf hparameters
  rw [reach_owner ha hr hk (by simp [hf]) (by simp [harguments]), d.use_get hf hsplit, ← hname]
  unfold accessMember
  rw [hoperation]
  rfl

/-- **The setter of a member of the class itself sets the attribute of the declaring class.** -/
theorem reach_staticSet {x : Value} (hf : s.family = .set) (hstatic : d.isStatic = true)
    (hname : d.attributeName = d.name) (hk : d.kind ≠ .method)
    (hkeeps : Keeps run (st₀.converter? rules) st d.valueType "value" x) :
    (a.reach [x]).perform run st = (d.use s [x]).perform run st := by
  have hr : Plan.receiverStep d s = none := by simp [Plan.receiverStep, hstatic]
  have hsplit : d.split [x] = some (d.declaring.toValue, [x]) := by
    simp [MemberDescriptor.split, hstatic]
  obtain ⟨hoperation, hsequence, harguments⟩ := Plan.unpinned_set st₀ rules d hf
  rw [reach_owner ha hr hk (by simp [hf]) (by simp [harguments]), d.use_set hf hsplit, ← hname]
  unfold accessMember
  rw [hoperation, harguments, hsequence]
  exact perform_bind_ok (perform_operand rfl hkeeps)

omit ha

/-- Methods are what actions and functions are for. -/
theorem kind_of_called (h : s.family.admits d.kind = true) (hf : s.family = .func ∨ s.family = .action) :
    d.kind = .method := by
  rcases hf with hf | hf <;> simpa [hf, Family.admits] using h

/-- What is got or set goes by its name. -/
theorem goesByName_of_accessed (h : s.family.admits d.kind = true) (hf : s.family = .get ∨ s.family = .set) :
    d.kind ≠ .constructor ∧ d.kind ≠ .method ∧ d.goesByName = true := by
  have hk : d.kind ≠ .constructor ∧ d.kind ≠ .method := by
    rcases hf with hf | hf <;> constructor <;> intro hno <;> simp [hf, hno, Family.admits] at h
  exact ⟨hk.1, hk.2, by simp [MemberDescriptor.goesByName, hk]⟩

/-- Up to what is made of it, a call of an accessor is the direct use of the member. -/
theorem reach_eq_use {run₀ : Runner} {st₁ : Store} {c : ClassRef} {σ : Session}
    (hd : Member.Describes run₀ st₁ c d) (hs : s.result? = none)
    (hname : d.goesByName = true → d.attributeName = d.name) (hb : Engine.Built σ d s a)
    (h : Undisturbed run (σ.store.converter? σ.rules) st d s arguments) :
    (a.reach arguments).perform run st = (d.use s arguments).perform run st := by
  have hplan : a.plan = Plan.unpinned σ.store σ.rules d s := by
    have hp := hb.plan
    rw [Plan.synthesize_of_unpinned hs] at hp
    exact (Except.ok.inj hp).symm
  have ha : Carries a σ.store (Plan.unpinned σ.store σ.rules d s) :=
    ⟨hplan, by rw [hb.subject, hplan]⟩
  have hadmits : s.family.admits d.kind = true := Engine.admits_of_checkFamily hb.family
  cases h with
  | construct hf hkeeps =>
    have hk : d.kind = .constructor := by simpa [hf, Family.admits] using hadmits
    obtain ⟨k, hdeclaring, htarget⟩ := hd.target_of_constructor hk
    exact reach_construct ha hf hk (by rw [htarget, hdeclaring]; rfl) (by rw [htarget]; rfl)
      (hb.arity_le (by simp [hf])) hkeeps
  | constructArray hf hpresent hcount hwalks hkeeps =>
    have hk : d.kind = .constructor := by simpa [hf, Family.admits] using hadmits
    obtain ⟨k, hdeclaring, htarget⟩ := hd.target_of_constructor hk
    exact reach_constructArray ha hf hk (by rw [htarget, hdeclaring]; rfl) (by rw [htarget]; rfl)
      hpresent hcount hwalks hkeeps
  | static hf hstatic hkeeps =>
    have hn : s.family ≠ .constructArray := by rcases hf with hf | hf <;> simp [hf]
    exact reach_static ha hf (kind_of_called hadmits hf) hstatic (hb.arity_le hn) hkeeps
  | method hf hstatic hv hlength hkeeps =>
    have hk := kind_of_called hadmits hf
    have hn : s.family ≠ .constructArray := by rcases hf with hf | hf <;> simp [hf]
    obtain ⟨r, hr⟩ := Plan.exists_receiverStep hb.static (by simp [hk]) hstatic
    have hbyName := hname (by simp [MemberDescriptor.goesByName, hk, hstatic])
    exact reach_method ha hf hstatic hbyName hr hv (hb.arity_le hn) hlength hkeeps
  | staticGet hf hstatic =>
    obtain ⟨hc, hm, hgoes⟩ := goesByName_of_accessed hadmits (.inl hf)
    exact reach_staticGet ha hf hstatic (hname hgoes) hm (hd.parameters_of_value ⟨hc, hm⟩)
  | get hf hstatic hv =>
    obtain ⟨hc, hm, hgoes⟩ := goesByName_of_accessed hadmits (.inl hf)
    obtain ⟨r, hr⟩ := Plan.exists_receiverStep hb.static hc hstatic
    exact reach_get ha hf hstatic (hname hgoes) hr hv (hd.parameters_of_value ⟨hc, hm⟩)
  | staticSet hf hstatic hkeeps =>
    obtain ⟨-, hm, hgoes⟩ := goesByName_of_accessed hadmits (.inr hf)
    exact reach_staticSet ha hf hstatic (hname hgoes) hm hkeeps
  | set hf hstatic hv hkeeps =>
    obtain ⟨hc, -, hgoes⟩ := goesByName_of_accessed hadmits (.inr hf)
    obtain ⟨r, hr⟩ := Plan.exists_receiverStep hb.static hc hstatic
    exact reach_set ha hf hstatic (hname hgoes) hr hv hkeeps

end Accessor

/-! ## §7  A look that leaves a trace -/

namespace TestedFor

open Engine

/-- A protocol that asks for a size; boxes, which note that their size was read; crates, which just have
one; and a shelf that takes what has a size and gives it back.  There is a box and a crate. -/
def world : Store :=
  { Store.empty with
    classes := #[
      { (default : ClassInfo) with
        name := "HasSize"
        qualifiedName := "HasSize"
        bases := [.builtin .protocol]
        lineage := [.user 0, .builtin .protocol, .builtin .generic, .builtin .object]
        entries := [("size", .atom (.property 1))]
        isProtocol := true
        isRuntimeProtocol := true
        hasFields := true },
      { (default : ClassInfo) with
        name := "Box"
        qualifiedName := "Box"
        bases := [.builtin .object]
        lineage := [.user 1, .builtin .object]
        entries := [("size", .atom (.property 0)), ("seen", .atom (.slot (.user 1) "seen"))]
        slotNames := ["seen"] },
      { (default : ClassInfo) with
        name := "Crate"
        qualifiedName := "Crate"
        bases := [.builtin .object]
        lineage := [.user 2, .builtin .object]
        entries := [("size", .atom (.property 1))]
        hasFields := true },
      { (default : ClassInfo) with
        name := "Shelf"
        qualifiedName := "Shelf"
        bases := [.builtin .object]
        lineage := [.user 3, .builtin .object]
        entries := [("take", .atom (.static (.user 1)))]
        hasFields := true }]
    functions := #[
      { (default : Function) with
        name := "size"
        qualifiedName := "Box.size"
        parameters := [⟨"self", .positional, none, none⟩]
        body := .statements [.set "seen" (.constant (.int 1)), .result (.constant (.int 1))] },
      { (default : Function) with
        name := "take"
        qualifiedName := "Shelf.take"
        parameters := [⟨"x", .positional, some (.cls (.user 0)), none⟩]
        body := .statements [.result (.variable "x")] },
      { (default : Function) with
        name := "size"
        qualifiedName := "Crate.size"
        parameters := [⟨"self", .positional, none, none⟩]
        body := .statements [.result (.constant (.int 1))] }]
    properties := #[⟨some 0, none⟩, ⟨some 2, none⟩]
    objects := #[⟨.user 1, .plain, [], []⟩, ⟨.user 2, .plain, [], []⟩] }

/-- The world after the size of the box was read once. -/
def traced : Store :=
  { world with objects := #[⟨.user 1, .plain, [], [(.user 1, "seen", .int 1)]⟩, ⟨.user 2, .plain, [], []⟩] }

/-- What the runner of a world is for a call. -/
abbrev runner : Runner := runFunction callDepth

/-- The method of the shelf. -/
def take : MemberDescriptor :=
  { MemberDescriptor.bare .method (.cls (.user 3)) "take" with
    parameters := [.cls (.user 0)]
    isStatic := true
    target := .routine (.user 1) }

/-- The shape of a static method of one argument. -/
def shape : Shape :=
  { family := .func, arity := 1, receiver := .none, result? := none, nonPublic := true }

theorem find_take : Member.find? world (.user 3) "take" =
    some (.user 3, "take", .atom (.static (.user 1))) := by
  decide +kernel

theorem asked_take : Member.Asked runner world (.user 3) take := by
  have hfind : (Member.find (.user 3) "take").perform runner world =
      (.ok (.user 3, "take", .atom (.static (.user 1))), world) := by
    unfold Member.find
    rw [perform_bind_get, find_take]
    rfl
  have hrun : (Member.resolve (.method "take") (.cls (.user 3))).perform runner world =
      (.ok take, world) := by
    change (Member.methodOf (.user 3) "take").perform runner world = _
    unfold Member.methodOf
    exact (perform_bind_ok hfind).trans rfl
  exact .resolve hrun

theorem converter_take : world.converter? [] (.cls (.user 0)) =
    some (.instance (.user 0) "HasSize") := by
  rw [Store.converter?_of_plain rfl rfl rfl]
  rfl

/-- The plan of an accessor of the method. -/
def plan : Plan :=
  { descriptor := take
    shape := shape
    operation := .call
    receiver := none
    arguments := [⟨0, "arg0", .cls (.user 0), some (.instance (.user 0) "HasSize")⟩]
    result := some ⟨.builtin .any, none⟩
    arrayArity := none }

theorem unpinned_take : Plan.unpinned world [] take shape = plan := by
  have hparameters : Plan.parameterSteps world [] take Plan.argumentName =
      [⟨0, "arg0", .cls (.user 0), world.converter? [] (.cls (.user 0))⟩] := rfl
  change { plan with arguments := Plan.parameterSteps world [] take Plan.argumentName } = plan
  rw [hparameters, converter_take]
  rfl

theorem defect?_take : (Plan.unpinned world [] take shape).defect? world = none := by
  rw [unpinned_take]
  have hname : plan.functionName world = "Shelf_take_func1" := by decide +kernel
  have hidentifier : Text.isIdentifier "Shelf_take_func1" = true := by decide +kernel
  have hform : Text.normalForm "Shelf_take_func1" = "Shelf_take_func1" :=
    Text.normalForm_of_plain (by decide)
  have hfile : take.namesFile world = true := by decide +kernel
  exact Plan.defect?_eq_none hname hfile rfl hidentifier hform (.inl (by decide))

/-- No class of the world takes part when attributes are read. -/
theorem readsPlainly (v : Value) : world.ReadsPlainly v := by
  constructor <;>
  · refine Store.specialMethod?_of_entries fun i _ => ?_
    match i with
    | 0 | 1 | 2 | 3 => rfl
    | _ + 4 => rfl

/-- What has a size that can be read is given back by the conversion to what has a size, and the world is as
reading has left it. -/
theorem apply_of_read {v : Value} {st : Store} (hv : world.classOf v ≠ .user 0)
    (h : (v.readAttribute "size").perform runner world = (.ok (.int 1), st)) :
    ((Converter.instance (.user 0) "HasSize").apply v "arg0").perform runner world = (.ok v, st) := by
  have hread : (v.getAttribute "size").perform runner world = (.ok (.int 1), st) := by
    rw [Value.perform_getAttribute (readsPlainly v), h]
  have hmembers : (v.hasMembers (.user 0) (world.protocolMembers (.user 0))).perform runner world =
      (.ok true, st) := by
    change (v.hasMembers (.user 0) ["size"]).perform runner world = _
    rw [Value.hasMembers, perform_bind_get]
    exact perform_bind_ok (Value.perform_hasMember_of_read hread)
  have htest : (v.isInstance (.user 0)).perform runner world = (.ok true, st) := by
    rw [Value.perform_isInstance_by_members rfl rfl rfl hv, hmembers]
    rfl
  exact perform_bind_ok htest

theorem check_take : (Contract.check world take shape).run.run .empty = (.ok (), .empty) := rfl

end TestedFor
end MemberAccess
