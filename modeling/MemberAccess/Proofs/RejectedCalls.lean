import MemberAccess.Proofs.CallPhases
import MemberAccess.Proofs.OwnCode

/-!
# Rejected calls

A call is rejected when it does not get to the completion of its access: the sequence of arguments is
absent or has the wrong count, the receiver is absent or of another class, or an argument cannot be
converted.  `Accessor.RejectedAt` lists these in the order in which they are looked for, with the failure
that each gives and what it blames.

A rejected call has run no member, and so it should have no effect.  That is so where no code comes with
the arguments (`Engine.rejected_calls_have_no_effect`): then a rejection calls no function at all, and
leaves every object and every class as it is.  Code does come with a value whose class has special methods
for numbers, for items or for its attributes, or answers itself which class it is; with one that a protocol
finds a property in; and with a receiver that has a property where the member is a method: the method is
read from the receiver before the arguments are converted (`Meters.rejected_call_leaves_a_trace`).
-/

namespace MemberAccess

open MemberAccess.Action

/-! ## §1  Values without code of their own -/

mutual
/-- Whether a converter may turn to the array library. -/
def Converter.makesArrays : Converter → Bool
  | .array => true
  | .union members _ _ => Converter.someMakesArrays members
  | _ => false

/-- Whether one of several converters may turn to the array library. -/
def Converter.someMakesArrays : List Converter → Bool
  | [] => false
  | c :: cs => c.makesArrays || Converter.someMakesArrays cs
end

namespace Store

/-- No code comes with a value that is tested for a class: none comes with its own class, nor, where the other
one is a protocol, with what that asks for. -/
structure TestsFreely (st : Store) (v : Value) (k : ClassRef) : Prop extends st.ShowsClass v where
  member {n : String} : st.isProtocol k = true → n ∈ st.protocolMembers k → st.ReadsFreely v n

/-- No code comes with a value that a converter converts: the converter is built in, the value's class has
no special methods for numbers, no array is made of an object but of one that is an array, and testing the value
runs nothing. -/
structure ConvertsFreely (st : Store) (v : Value) (c : Converter) : Prop extends st.ShowsClass v where
  isBuiltIn : c.isBuiltIn = true
  method {n : String} : n ∈ ["__index__", "__float__", "__complex__"] → st.overrides v n = false
  array {a : Address} : c.makesArrays = true → v = .object a → (st.arrayOf? v).isSome = true
  tests {k : ClassRef} : k ∈ c.tested → st.TestsFreely v k

section
variable {st st' : Store} {v : Value}

theorem TestsFreely.of_keeps {k : ClassRef} (h : st.TestsFreely v k) (hkeeps : st.KeepsClasses st') :
    st'.TestsFreely v k where
  toShowsClass := h.toShowsClass.of_keeps hkeeps
  member hp hn := by
    rw [isProtocol_congr hkeeps.classes] at hp
    rw [protocolMembers_congr hkeeps.classes] at hn
    exact (h.member hp hn).of_keeps hkeeps

theorem ConvertsFreely.of_grows {c : Converter} (h : st.ConvertsFreely v c) (hg : st.Grows st') :
    st'.ConvertsFreely v c where
  toShowsClass := h.toShowsClass.of_keeps hg.keepsClasses
  isBuiltIn := h.isBuiltIn
  method hn := (hg.keepsClasses.overrides h.knows).trans (h.method hn)
  array := by
    rintro a hc rfl
    rw [arrayOf?, hg.object (h.knows a rfl)]
    exact h.array hc rfl
  tests hk := (h.tests hk).of_keeps hg.keepsClasses

end

end Store

section
variable {run run' : Runner} {F : Failure → Prop} {st st' : Store} {v : Value}

theorem Store.TestsFreely.looksTamely {k : ClassRef} (h : st.TestsFreely v k) :
    v.LooksTamely run run' st.Grows F k := by
  intro st₁ h₁ hk n hn st₂ st₃ h₂ _ id args hcall
  have hfree : st.ReadsFreely v n := 
    h.member (by rwa [← isProtocol_congr h₁.classes]) (by rwa [← protocolMembers_congr h₁.classes])
  exact absurd hcall (hfree.of_keeps h₂.keepsClasses).not_readCall

theorem Store.ConvertsFreely.convertsTamely {c : Converter} (h : st.ConvertsFreely v c) :
    v.ConvertsTamely run run' st.Grows F := by
  intro st₁ h₁ n hn id hid
  rw [h₁.specialMethod? h.knows, specialMethod?_of_overrides (h.method hn)] at hid
  cases hid

/-- The failures that refuse a value refuse it at a place. -/
def BlamesOnly (place : String) (f : Failure) : Prop :=
  f.isA .argumentTypeMismatch = true → ∃ e t, f = .argumentMismatch place e t

theorem sparesFaults_blamesOnly {place : String} : SparesFaults (BlamesOnly place) := by
  intro f hf hno
  rw [hf] at hno
  cases hno

/-- **A conversion of a value without code of its own calls nothing**, adds at most new objects to the
store, and blames the place where it stands. -/
theorem Converter.tame_of_convertsFreely {c : Converter} {place : String}
    (harray : run.arrayOf = run'.arrayOf) (h : st.ConvertsFreely v c) :
    Tame run run' st.Grows (BlamesOnly place) (c.apply v place) st :=
  tame_apply harray sparesFaults_blamesOnly Store.sparesNew_grows (fun e t _ => ⟨e, t, rfl⟩)
    h.convertsTamely c (fun q hq => absurd hq (Converter.isBuiltIn_iff.mp h.isBuiltIn q))
    (fun _ hk => (h.tests hk).looksTamely.tests sparesFaults_blamesOnly Store.sparesNew_grows) (.refl st)

end

/-! ## §2  Rejections -/

namespace Accessor

variable {a : Accessor} {run run' : Runner} {st st₁ st₂ st' : Store} {arguments : List Value}
  {env : Arguments} {v : Value} {f : Failure} {place : String}

/-- **The ways in which a call is rejected**, in the order in which they are looked for: with what is
blamed, the failure, and the store that is left.  The sequence is absent, cannot be counted, or has the
wrong count; the receiver is absent, of another class, or cannot be tested for it; the member cannot be
read; an argument cannot be converted after all those before it were. -/
inductive RejectedAt (a : Accessor) (run : Runner) (st : Store) (arguments : List Value) :
    String → Failure → Store → Prop
  | absentSequence {n : Nat} : a.plan.arrayArity = some n → arguments = [.nothing] →
      RejectedAt a run st arguments "args" (.invalidArgument "args" none) st
  | uncounted {n : Nat} {v : Value} {f : Failure} {st' : Store} : a.plan.arrayArity = some n →
      arguments = [v] → v ≠ .nothing → v.itemCount.perform run st = (.error f, st') →
      RejectedAt a run st arguments "args" f st'
  | miscounted {n k : Nat} {v : Value} {st' : Store} : a.plan.arrayArity = some n → arguments = [v] →
      v ≠ .nothing → v.itemCount.perform run st = (.ok k, st') → k ≠ n →
      RejectedAt a run st arguments "args" (.arityMismatch n k "'args' argument" "items") st'
  | absentReceiver {r : ReceiverStep} {xs : List Value} : a.plan.receiver = some r →
      arguments = .nothing :: xs →
      RejectedAt a run st arguments "instance" (.nullReceiver (a.plan.descriptor.text st)) st
  | otherReceiver {t : TypeForm} {c : ClassRef} {v : Value} {xs : List Value} {st' : Store} :
      a.plan.receiver = some ⟨t, some c⟩ → arguments = v :: xs → v ≠ .nothing →
      (v.isInstance c).perform run st = (.ok false, st') →
      RejectedAt a run st arguments "instance"
        (.argumentMismatch "instance" (t.typeName st) (st'.valueTypeName v)) st'
  | untestedReceiver {t : TypeForm} {c : ClassRef} {v : Value} {xs : List Value} {f : Failure}
      {st' : Store} : a.plan.receiver = some ⟨t, some c⟩ → arguments = v :: xs → v ≠ .nothing →
      (v.isInstance c).perform run st = (.error f, st') →
      RejectedAt a run st arguments "instance" f st'
  | unread {f : Failure} {st₁ st' : Store} : (a.inspect arguments).perform run st = (.ok (), st₁) →
      (a.approach arguments).perform run st₁ = (.error f, st') →
      RejectedAt a run st arguments a.plan.descriptor.attributeName f st'
  | argument {i : Nat} {r : ArgumentStep} {v : Value} {xs : List Value} {f : Failure}
      {st₁ st₂ st₃ st' : Store} : (a.inspect arguments).perform run st = (.ok (), st₁) →
      (a.approach arguments).perform run st₁ = (.ok v, st₂) → a.converted[i]? = some r →
      ((a.converted.take i).mapM (a.convertStep arguments)).perform run st₂ = (.ok xs, st₃) →
      (a.convertStep arguments r).perform run st₃ = (.error f, st') →
      RejectedAt a run st arguments r.name f st'

theorem perform_checkSequence_nothing {n : Nat} (h : env.lookup "args" = some .nothing) :
    (checkSequence env n).perform run st = (.error (.invalidArgument "args" none), st) := by
  unfold checkSequence
  rw [perform_bind_ok (perform_argument h), if_pos rfl]
  rfl

/-- What becomes of a sequence that is there. -/
theorem perform_checkSequence {n : Nat} (h : env.lookup "args" = some v) (hv : v ≠ .nothing) :
    (checkSequence env n).perform run st =
      match v.itemCount.perform run st with
      | (.ok k, st') =>
          (if k = n then .ok () else .error (.arityMismatch n k "'args' argument" "items"), st')
      | (.error f, st') => (.error f, st') := by
  unfold checkSequence
  rw [perform_bind_ok (perform_argument h), if_neg hv]
  change (v.itemCount >>= fun count => if count = n then pure ()
    else throw (.arityMismatch n count "'args' argument" "items") : Action Unit).perform run st = _
  rw [perform_bind]
  rcases v.itemCount.perform run st with ⟨f | k, st'⟩
  · rfl
  · by_cases hk : k = n <;> simp [hk]

theorem inspect_eq_checkSequence {n : Nat} (hs : a.plan.arrayArity = some n)
    (hr : a.plan.receiver = none) :
    a.inspect arguments = checkSequence (a.plan.parameterNames.zip arguments) n := by
  simp [inspect, hs, hr]

theorem inspect_eq_checkReceiver {r : ReceiverStep} (hs : a.plan.arrayArity = none)
    (hr : a.plan.receiver = some r) : a.inspect arguments =
      checkReceiver (a.plan.parameterNames.zip arguments) a.plan.descriptor r := by
  simp [inspect, hs, hr]

theorem inspect_eq_pure (hs : a.plan.arrayArity = none) (hr : a.plan.receiver = none) :
    a.inspect arguments = pure () := by
  simp [inspect, hs, hr]

/-- Several actions in a row fail exactly where one of them does after those before it. -/
theorem perform_mapM_error_iff {α β : Type} {g : α → Action β} {l : List α} :
    (l.mapM g).perform run st = (.error f, st') ↔
      ∃ i x ys st₁, l[i]? = some x ∧ ((l.take i).mapM g).perform run st = (.ok ys, st₁) ∧
        (g x).perform run st₁ = (.error f, st') := by
  induction l generalizing st with
  | nil =>
    constructor
    · intro h
      cases h
    · rintro ⟨i, x, ys, st₁, hx, -⟩
      simp at hx
  | cons y l ih =>
    rw [List.mapM_cons, perform_bind]
    constructor
    · intro h
      rcases hy : (g y).perform run st with ⟨f' | z, st₁⟩
      · rw [hy] at h
        cases h
        exact ⟨0, y, [], st, rfl, rfl, hy⟩
      · rw [hy] at h
        simp only at h
        rw [perform_bind] at h
        rcases hl : (l.mapM g).perform run st₁ with ⟨f' | zs, st₂⟩
        · rw [hl] at h
          cases h
          obtain ⟨i, x, ys, st₃, hx, htake, hfails⟩ := ih.mp hl
          refine ⟨i + 1, x, z :: ys, st₃, hx, ?_, hfails⟩
          rw [List.take_succ_cons, List.mapM_cons, perform_bind_ok hy]
          exact perform_bind_ok htake
        · rw [hl] at h
          cases h
    · rintro ⟨i, x, ys, st₁, hx, htake, hfails⟩
      cases i with
      | zero =>
        cases hx
        cases htake
        rw [hfails]
      | succ i =>
        rw [List.take_succ_cons, List.mapM_cons] at htake
        obtain ⟨z, st₂, hy, htake⟩ := exists_of_perform_bind htake
        obtain ⟨zs, st₃, htake, hrest⟩ := exists_of_perform_bind htake
        cases hrest
        rw [hy]
        exact perform_bind_error (ih.mpr ⟨i, x, zs, st₁, hx, htake, hfails⟩)

section
variable (ho : a.Orderly) (hlen : arguments.length = a.plan.parameterNames.length)
include ho hlen

/-- What inspection comes to on a sequence. -/
theorem Orderly.lookup_of_singleton {n : Nat} (hs : a.plan.arrayArity = some n)
    (hv : arguments = [v]) :
    a.plan.receiver = none ∧ (a.plan.parameterNames.zip arguments).lookup "args" = some v := by
  have hsome : a.plan.arrayArity.isSome = true := by rw [hs]; rfl
  refine ⟨ho.sequence hsome, ?_⟩
  rw [lookup_sequence hlen hsome, hv]
  rfl

/-- What inspection comes to on a receiver. -/
theorem Orderly.lookup_of_cons {r : ReceiverStep} {xs : List Value} (hr : a.plan.receiver = some r)
    (hv : arguments = v :: xs) :
    a.plan.arrayArity = none ∧ (a.plan.parameterNames.zip arguments).lookup "instance" = some v := by
  have hsome : a.plan.receiver.isSome = true := by rw [hr]; rfl
  have hnone : a.plan.arrayArity = none := by
    cases hs : a.plan.arrayArity with
    | none => rfl
    | some n =>
      rw [ho.sequence (by rw [hs]; rfl)] at hr
      cases hr
  refine ⟨hnone, ?_⟩
  rw [ho.lookup_instance hlen hsome, hv]
  rfl

/-- A call begins with a look at its sequence of arguments, at its receiver, or at nothing. -/
theorem Orderly.inspect_cases :
    (∃ env n v, a.plan.arrayArity = some n ∧ arguments = [v] ∧ env.lookup "args" = some v ∧
      a.inspect arguments = checkSequence env n) ∨
    a.inspect arguments = pure () ∨
    ∃ env r v xs, a.plan.receiver = some r ∧ arguments = v :: xs ∧ env.lookup "instance" = some v ∧
      a.inspect arguments = checkReceiver env a.plan.descriptor r := by
  cases hs : a.plan.arrayArity with
  | some n =>
    have hnames : a.plan.parameterNames = ["args"] := by rw [Plan.parameterNames, hs]
    obtain ⟨v, hv⟩ : ∃ v, arguments = [v] := List.length_eq_one_iff.mp (by rw [hlen, hnames]; rfl)
    obtain ⟨hr, henv⟩ := ho.lookup_of_singleton hlen hs hv
    exact .inl ⟨_, n, v, rfl, hv, henv, inspect_eq_checkSequence hs hr⟩
  | none =>
    cases hr : a.plan.receiver with
    | none => exact .inr (.inl (inspect_eq_pure hs hr))
    | some r =>
      have hnames : a.plan.parameterNames = "instance" :: a.plan.arguments.map (·.name) := by
        rw [Plan.parameterNames, hs, hr]
        rfl
      obtain ⟨v, xs, hv⟩ : ∃ v xs, arguments = v :: xs :=
        List.exists_cons_of_length_pos (by rw [hlen, hnames]; simp)
      obtain ⟨-, henv⟩ := ho.lookup_of_cons hlen hr hv
      exact .inr (.inr ⟨_, r, v, xs, rfl, hv, henv, inspect_eq_checkReceiver hs hr⟩)

/-- A call goes through its phases and converts its result. -/
theorem Orderly.perform_call_eq_phases :
    (a.call arguments).perform run st =
      (a.inspect arguments >>= fun _ => a.approach arguments >>= fun v =>
        a.conversions arguments >>= fun xs => a.complete v xs >>= finish a.plan).perform run st := by
  rw [call, perform_bind, ho.perform_reach_eq_phases hlen, ← perform_bind]
  simp only [bind_assoc]

/-- **A rejected call fails with its rejection.** -/
theorem RejectedAt.perform_call (h : a.RejectedAt run st arguments place f st') :
    (a.call arguments).perform run st = (.error f, st') := by
  rw [ho.perform_call_eq_phases hlen]
  cases h with
  | absentSequence hs hv =>
    obtain ⟨hr, henv⟩ := ho.lookup_of_singleton hlen hs hv
    rw [inspect_eq_checkSequence hs hr]
    exact perform_bind_error (perform_checkSequence_nothing henv)
  | uncounted hs hv hpresent hcount =>
    obtain ⟨hr, henv⟩ := ho.lookup_of_singleton hlen hs hv
    rw [inspect_eq_checkSequence hs hr]
    exact perform_bind_error (by rw [perform_checkSequence henv hpresent, hcount])
  | miscounted hs hv hpresent hcount hk =>
    obtain ⟨hr, henv⟩ := ho.lookup_of_singleton hlen hs hv
    rw [inspect_eq_checkSequence hs hr]
    refine perform_bind_error ?_
    rw [perform_checkSequence henv hpresent, hcount]
    simp only [hk, if_false]
  | absentReceiver hr hv =>
    obtain ⟨hs, henv⟩ := ho.lookup_of_cons hlen hr hv
    rw [inspect_eq_checkReceiver hs hr]
    exact perform_bind_error (perform_checkReceiver_nothing henv)
  | otherReceiver hr hv hpresent htest =>
    obtain ⟨hs, henv⟩ := ho.lookup_of_cons hlen hr hv
    rw [inspect_eq_checkReceiver hs hr]
    exact perform_bind_error (by rw [perform_checkReceiver_some henv hpresent, htest])
  | untestedReceiver hr hv hpresent htest =>
    obtain ⟨hs, henv⟩ := ho.lookup_of_cons hlen hr hv
    rw [inspect_eq_checkReceiver hs hr]
    exact perform_bind_error (by rw [perform_checkReceiver_some henv hpresent, htest])
  | unread hinspect happroach =>
    rw [perform_bind_ok hinspect]
    exact perform_bind_error happroach
  | argument hinspect happroach hr htake hfails =>
    rw [perform_bind_ok hinspect, perform_bind_ok happroach]
    exact perform_bind_error (perform_mapM_error_iff.mpr ⟨_, _, _, _, hr, htake, hfails⟩)

/-- A call whose inspection fails is rejected. -/
theorem Orderly.rejectedAt_of_inspect (h : (a.inspect arguments).perform run st = (.error f, st')) :
    ∃ place, a.RejectedAt run st arguments place f st' := by
  rcases ho.inspect_cases hlen with
    ⟨env, n, v, hs, hv, henv, heq⟩ | heq | ⟨env, ⟨t, check⟩, v, xs, hr, hv, henv, heq⟩
  · rw [heq] at h
    by_cases hpresent : v = .nothing
    · subst hpresent
      rw [perform_checkSequence_nothing henv] at h
      cases h
      exact ⟨_, .absentSequence hs hv⟩
    · rw [perform_checkSequence henv hpresent] at h
      rcases hcount : v.itemCount.perform run st with ⟨f' | k, st₁⟩
      · rw [hcount] at h
        cases h
        exact ⟨_, .uncounted hs hv hpresent hcount⟩
      · rw [hcount] at h
        by_cases hk : k = n
        · simp [hk] at h
        · simp only [hk, if_false] at h
          cases h
          exact ⟨_, .miscounted hs hv hpresent hcount hk⟩
  · rw [heq] at h
    cases h
  · rw [heq] at h
    by_cases hpresent : v = .nothing
    · subst hpresent
      rw [perform_checkReceiver_nothing henv] at h
      cases h
      exact ⟨_, .absentReceiver hr hv⟩
    · cases check with
      | none =>
        rw [perform_checkReceiver_none henv hpresent] at h
        cases h
      | some c =>
        rw [perform_checkReceiver_some henv hpresent] at h
        rcases htest : (v.isInstance c).perform run st with ⟨f' | ok, st₁⟩
        · rw [htest] at h
          cases h
          exact ⟨_, .untestedReceiver hr hv hpresent htest⟩
        · rw [htest] at h
          cases ok with
          | true => cases h
          | false =>
            cases h
            exact ⟨_, .otherReceiver hr hv hpresent htest⟩

/-- **A call is rejected, or goes on to complete its access with the converted arguments.** -/
theorem Orderly.rejected_or_completed (run : Runner) (st : Store) :
    (∃ place f st', a.RejectedAt run st arguments place f st') ∨
      ∃ v xs st₁ st₂ st₃, (a.inspect arguments).perform run st = (.ok (), st₁) ∧
        (a.approach arguments).perform run st₁ = (.ok v, st₂) ∧
        (a.conversions arguments).perform run st₂ = (.ok xs, st₃) ∧
        (a.call arguments).perform run st = (a.complete v xs >>= finish a.plan).perform run st₃ := by
  rcases hinspect : (a.inspect arguments).perform run st with ⟨f | u, st₁⟩
  · obtain ⟨place, h⟩ := ho.rejectedAt_of_inspect hlen hinspect
    exact .inl ⟨place, f, st₁, h⟩
  rcases happroach : (a.approach arguments).perform run st₁ with ⟨f | v, st₂⟩
  · exact .inl ⟨_, f, st₂, .unread hinspect happroach⟩
  rcases hconversions : (a.conversions arguments).perform run st₂ with ⟨f | xs, st₃⟩
  · obtain ⟨i, r, ys, st₄, hr, htake, hfails⟩ := perform_mapM_error_iff.mp hconversions
    exact .inl ⟨_, f, st₃, .argument hinspect happroach hr htake hfails⟩
  · refine .inr ⟨v, xs, st₁, st₂, st₃, rfl, happroach, hconversions, ?_⟩
    rw [ho.perform_call_eq_phases hlen, perform_bind_ok hinspect, perform_bind_ok happroach,
      perform_bind_ok hconversions]

end

/-! ## §3  Rejections without effect -/

/-- No code comes with a value whose items are taken: its class does not count or pick them, and it is no
dictionary, which compares its keys. -/
structure GivesItemsFreely (st : Store) (v : Value) : Prop where
  knows : st.Knows v
  method {n : String} : n ∈ ["__len__", "__getitem__", "__missing__"] → st.overrides v n = false
  listed {a : Address} {kvs : List (Value × Value)} : v = .object a → (st.object a).payload ≠ .dict kvs

/-- **No code comes with the arguments of a call**: the sequence is counted and taken apart, the receiver is
looked at, the member is read and the arguments are converted without calling a function. -/
structure BringsNoCode (a : Accessor) (st : Store) (arguments : List Value) : Prop where
  sequence : a.plan.arrayArity.isSome = true → GivesItemsFreely st (arguments.headD .nothing)
  receiver {t : TypeForm} {c : ClassRef} : a.plan.receiver = some ⟨t, some c⟩ →
    st.TestsFreely (arguments.headD .nothing) c
  member : (∀ v, a.subject ≠ .target v) → a.plan.operation ≠ .get → a.plan.operation ≠ .set →
    st.ReadsFreely (a.holder arguments) a.plan.descriptor.attributeName
  values {r : ArgumentStep} {c : Converter} : r ∈ a.converted → r.converter = some c →
    ∀ run st₁ v st₂, st.Grows st₁ → (a.supplied arguments r.slot).perform run st₁ = (.ok v, st₂) →
      st₂.ConvertsFreely v c

section
variable {F : Failure → Prop} (hF : SparesFaults F) (hcode : a.BringsNoCode st arguments)
include hF hcode

theorem BringsNoCode.tame_count (hs : a.plan.arrayArity.isSome = true) (hv : arguments = [v]) :
    Tame run run' st.Grows F v.itemCount st := by
  have hitems := hcode.sequence hs
  rw [hv] at hitems
  exact Value.tame_itemCount hF (.refl st) (Store.specialMethod?_of_overrides (hitems.method (by simp)))

theorem BringsNoCode.tame_look {t : TypeForm} {c : ClassRef} {xs : List Value}
    (hr : a.plan.receiver = some ⟨t, some c⟩) (hv : arguments = v :: xs) :
    Tame run run' st.Grows F (v.isInstance c) st := by
  have hfree := hcode.receiver hr
  rw [hv] at hfree
  exact Value.tame_isInstance hF Store.sparesNew_grows (.refl st) hfree.looksTamely

theorem BringsNoCode.tame_approach (h₁ : st.Grows st₁) :
    Tame run run' st.Grows F (a.approach arguments) st₁ := by
  unfold approach
  split
  · exact tame_pure h₁
  · exact tame_pure h₁
  · exact tame_pure h₁
  case h_4 htarget hget hset =>
    refine Value.tame_getAttribute hF Store.sparesNew_grows h₁ ?_
    intro st₂ _ h₂ _ id args hcall
    exact absurd hcall ((hcode.member htarget hget hset).of_keeps h₂.keepsClasses).not_readCall

theorem BringsNoCode.tame_supplied (h₁ : st.Grows st₁) {i : Nat} :
    Tame run run' st.Grows F (a.supplied arguments i) st₁ := by
  unfold supplied
  split
  case isTrue hs =>
    have hitems := hcode.sequence hs
    have hnone {n : String} (hn : n ∈ ["__len__", "__getitem__", "__missing__"]) :
        st₁.specialMethod? (arguments.headD .nothing) n = none := by
      rw [h₁.specialMethod? hitems.knows, Store.specialMethod?_of_overrides (hitems.method hn)]
    exact Value.tame_itemAt hF h₁ Store.sparesNew_grows (hnone (by simp)) (hnone (by simp))
  case isFalse =>
    split
    · exact tame_pure h₁
    · exact tame_fault hF h₁ rfl

omit hF

variable (harray : run.arrayOf = run'.arrayOf)
include harray

/-- An argument is converted without a call, and blamed where it is refused. -/
theorem BringsNoCode.tame_convertStep (h₁ : st.Grows st₁) {r : ArgumentStep} (hr : r ∈ a.converted) :
    Tame run run' st.Grows (BlamesOnly r.name) (a.convertStep arguments r) st₁ := by
  unfold convertStep
  refine (hcode.tame_supplied sparesFaults_blamesOnly h₁).bind_of_perform ?_
  intro v st₂ hsupplied h₂
  unfold Value.convertedBy
  cases hc : r.converter with
  | none => exact tame_pure h₂
  | some c =>
    have hfree := hcode.values hr hc run st₁ v st₂ h₁ hsupplied
    exact (Converter.tame_of_convertsFreely harray hfree).weaken fun _ h => h₂.trans h

theorem BringsNoCode.tame_conversions (h₁ : st.Grows st₁) {rs : List ArgumentStep}
    (hrs : ∀ r ∈ rs, r ∈ a.converted) :
    Tame run run' st.Grows (fun _ => True) (rs.mapM (a.convertStep arguments)) st₁ := by
  induction rs generalizing st₁ with
  | nil => exact tame_pure h₁
  | cons r rs ih =>
    rw [List.mapM_cons]
    refine ((hcode.tame_convertStep harray h₁ (hrs r (by simp))).mono fun _ _ => trivial).bind ?_
    intro x st₂ h₂
    refine (ih h₂ fun r' hr' => hrs r' (by simp [hr'])).bind ?_
    intro xs st₃ h₃
    exact tame_pure h₃

end

section
variable (ho : a.Orderly) (hlen : arguments.length = a.plan.parameterNames.length)
include ho hlen

theorem BringsNoCode.tame_inspect (hcode : a.BringsNoCode st arguments) :
    Tame run run' st.Grows (fun _ => True) (a.inspect arguments) st := by
  have htrue : SparesFaults fun _ => True := fun _ _ => trivial
  rcases ho.inspect_cases hlen with
    ⟨env, n, v, hs, hv, henv, heq⟩ | heq | ⟨env, r, v, xs, hr, hv, henv, heq⟩
  · rw [heq]
    unfold checkSequence argument
    rw [henv]
    simp only [pure_bind]
    split
    · exact tame_throw (.refl st) trivial
    · refine (hcode.tame_count htrue (by rw [hs]; rfl) hv).bind ?_
      intro k st' h'
      split
      · exact tame_pure h'
      · exact tame_throw h' trivial
  · rw [heq]
    exact tame_pure (.refl st)
  · rw [heq]
    unfold checkReceiver argument
    refine tame_get_bind ?_
    rw [henv]
    simp only [pure_bind]
    split
    · exact tame_throw (.refl st) trivial
    · split
      · exact tame_pure (.refl st)
      case h_2 c hc =>
        refine (hcode.tame_look (t := r.declaring) htrue (by rw [hr, ← hc]) hv).bind ?_
        intro b st' h'
        split
        · exact tame_pure h'
        · exact Value.tame_refuse (fun _ _ => trivial) h'

/-- **A rejected call that brings no code with it has no effect**: it calls no function, so that it is
rejected alike whatever functions do, it leaves every object and every class as it is, and it refuses no
value but at the place that it blames. -/
theorem RejectedAt.without_effect (hcode : a.BringsNoCode st arguments)
    (h : a.RejectedAt run st arguments place f st') :
    st.Grows st' ∧ BlamesOnly place f ∧
      ∀ run' : Runner, run.arrayOf = run'.arrayOf → a.RejectedAt run' st arguments place f st' := by
  have htrue : SparesFaults fun _ => True := fun _ _ => trivial
  -- each step of the call that was made tells what it would have been with other functions
  cases h with
  | absentSequence hs hv => exact ⟨.refl st, nofun, fun _ _ => .absentSequence hs hv⟩
  | uncounted hs hv hpresent hcount =>
    obtain ⟨hgrows, hblames, hcounts⟩ := Tame.of_perform
      (fun _ _ => hcode.tame_count sparesFaults_blamesOnly (by rw [hs]; rfl) hv) hcount
    exact ⟨hgrows, hblames f rfl, fun run' harray => .uncounted hs hv hpresent (hcounts run' harray)⟩
  | miscounted hs hv hpresent hcount hk =>
    obtain ⟨hgrows, -, hcounts⟩ := Tame.of_perform
      (fun _ _ => hcode.tame_count htrue (by rw [hs]; rfl) hv) hcount
    exact ⟨hgrows, nofun, fun run' harray => .miscounted hs hv hpresent (hcounts run' harray) hk⟩
  | absentReceiver hr hv => exact ⟨.refl st, nofun, fun _ _ => .absentReceiver hr hv⟩
  | otherReceiver hr hv hpresent htest =>
    obtain ⟨hgrows, -, htests⟩ := Tame.of_perform (fun _ _ => hcode.tame_look htrue hr hv) htest
    exact ⟨hgrows, fun _ => ⟨_, _, rfl⟩, fun run' harray => .otherReceiver hr hv hpresent (htests run' harray)⟩
  | untestedReceiver hr hv hpresent htest =>
    obtain ⟨hgrows, hblames, htests⟩ := Tame.of_perform
      (fun _ _ => hcode.tame_look sparesFaults_blamesOnly hr hv) htest
    exact ⟨hgrows, hblames f rfl, fun run' harray => .untestedReceiver hr hv hpresent (htests run' harray)⟩
  | unread hinspect happroach =>
    obtain ⟨h₁, -, hinspects⟩ := Tame.of_perform (fun _ _ => hcode.tame_inspect ho hlen) hinspect
    obtain ⟨hgrows, hblames, happroaches⟩ := Tame.of_perform
      (fun _ _ => hcode.tame_approach sparesFaults_blamesOnly h₁) happroach
    exact ⟨hgrows, hblames f rfl, fun run' harray => .unread (hinspects run' harray) (happroaches run' harray)⟩
  | argument hinspect happroach hr htake hfails =>
    obtain ⟨h₁, -, hinspects⟩ := Tame.of_perform (fun _ _ => hcode.tame_inspect ho hlen) hinspect
    obtain ⟨h₂, -, happroaches⟩ := Tame.of_perform (fun _ _ => hcode.tame_approach htrue h₁) happroach
    obtain ⟨h₃, -, htakes⟩ := Tame.of_perform
      (fun _ harray => hcode.tame_conversions harray h₂ fun _ h => List.mem_of_mem_take h) htake
    obtain ⟨hgrows, hblames, hconverts⟩ := Tame.of_perform
      (fun _ harray => hcode.tame_convertStep harray h₃ (List.mem_of_getElem? hr)) hfails
    exact ⟨hgrows, hblames f rfl, fun run' harray =>
      .argument (hinspects run' harray) (happroaches run' harray) hr (htakes run' harray) (hconverts run' harray)⟩

end

end Accessor

/-! ## §4  Accessors that were built -/

namespace Engine

end Engine

/-! ## §5  A meter that notes its use -/

namespace Meters

open Engine

/-- Tools have a method; meters are tools and have a property under its name, which notes that it was
read.  There is a meter and a plain tool. -/
def world : Store :=
  { Store.empty with
    classes := #[
      { (default : ClassInfo) with
        name := "Tool"
        qualifiedName := "Tool"
        bases := [.builtin .object]
        lineage := [.user 0, .builtin .object]
        entries := [("use", .routine (.user 0))]
        hasFields := true },
      { (default : ClassInfo) with
        name := "Meter"
        qualifiedName := "Meter"
        bases := [.user 0]
        lineage := [.user 1, .user 0, .builtin .object]
        entries := [("seen", .atom (.slot (.user 1) "seen")), ("use", .atom (.property 0))]
        hasFields := true }]
    functions := #[
      { (default : Function) with
        name := "use"
        qualifiedName := "Tool.use"
        parameters := [⟨"self", .positional, none, none⟩, ⟨"x", .positional, some (.builtin .float), none⟩]
        body := .statements [.result (.variable "x")] },
      { (default : Function) with
        name := "use"
        qualifiedName := "Meter.use"
        parameters := [⟨"self", .positional, none, none⟩]
        body := .statements [.set "seen" (.constant (.int 1)), .result (.constant (.int 1))] }]
    properties := #[⟨some 1, none⟩]
    objects := #[⟨.user 1, .plain, [], []⟩, ⟨.user 0, .plain, [], []⟩] }

/-- The world after the use of the meter was read. -/
def traced : Store :=
  { world with
    objects := #[⟨.user 1, .plain, [], [(.user 1, "seen", .int 1)]⟩, ⟨.user 0, .plain, [], []⟩] }

/-- What the runner of a world is for a call. -/
abbrev runner : Runner := runFunction callDepth

/-- The method of tools. -/
def useTool : MemberDescriptor :=
  { MemberDescriptor.bare .method (.cls (.user 0)) "use" with
    parameters := [.builtin .float]
    target := .routine (.user 0) }

theorem one_le_maxArity : 1 ≤ maxArity := by decide

/-- The shape of a method of one argument. -/
def shape : Shape :=
  { family := .func
    arity := 1
    receiver := .checked
    result? := none
    nonPublic := true
    arity_le := one_le_maxArity }

theorem asked_useTool : Member.Asked runner world (.user 0) useTool := by
  have hlookup : Member.find? world (.user 0) "use" = some (.user 0, "use", .routine (.user 0)) := by
    decide +kernel
  have hfind : (Member.find (.user 0) "use").perform runner world =
      (.ok (.user 0, "use", .routine (.user 0)), world) := by
    unfold Member.find
    rw [perform_bind_get, hlookup]
    rfl
  have hrun : (Member.resolve (.method "use") (.cls (.user 0))).perform runner world =
      (.ok useTool, world) := by
    change (Member.methodOf (.user 0) "use").perform runner world = _
    unfold Member.methodOf
    exact (perform_bind_ok hfind).trans rfl
  exact .resolve hrun

/-- The plan of an accessor of the method. -/
def plan : Plan :=
  { descriptor := useTool
    shape := shape
    operation := .call
    receiver := some ⟨.cls (.user 0), some (.user 0)⟩
    arguments := [⟨0, "arg0", .builtin .float, some .float⟩]
    result := some ⟨.builtin .any, none⟩
    arrayArity := none }

theorem unpinned_useTool : Plan.unpinned world [] useTool shape = plan := by
  have hfloat : world.converter? [] (.builtin .float) = some .float := by
    rw [Store.converter?_of_plain rfl rfl rfl]
    rfl
  have hparameters : Plan.parameterSteps world [] useTool Plan.argumentName =
      [⟨0, "arg0", .builtin .float, world.converter? [] (.builtin .float)⟩] := rfl
  change { plan with arguments := Plan.parameterSteps world [] useTool Plan.argumentName } = plan
  rw [hparameters, hfloat]
  rfl

theorem check_useTool : (Contract.check world useTool shape).run.run .empty = (.ok (), .empty) := rfl

/-- No class takes part in what is done with its instances by special methods. -/
theorem overrides_world (v : Value) {n : String}
    (hn : n ∈ ["__index__", "__float__", "__complex__", "__class__", "__getattribute__", "__getattr__",
      "__get__"]) : world.overrides v n = false := by
  refine Store.overrides_of_entries ?_
  intro i _
  have hnames : ∀ j : Fin 2, ∀ n ∈ ["__index__", "__float__", "__complex__", "__class__",
      "__getattribute__", "__getattr__", "__get__"], (world.classInfo j).entries.lookup n = none := by
    decide
  match i with
  | 0 => exact hnames 0 n hn
  | 1 => exact hnames 1 n hn
  | _ + 2 => rfl

theorem readsPlainly (v : Value) : world.ReadsPlainly v where
  getAttribute := Store.specialMethod?_of_overrides (overrides_world v (by simp))
  getMissing := Store.specialMethod?_of_overrides (overrides_world v (by simp))

/-- No class says by a method what is below it. -/
theorem hook_world (i : Nat) : (world.classInfo i).entries.lookup "__subclasshook__" = none := by
  match i with
  | 0 | 1 => rfl
  | _ + 2 => rfl

theorem showsClass {v : Value} (hv : world.Knows v) : world.ShowsClass v where
  knows := hv
  answer {n} hn := overrides_world v (by
    simp only [List.mem_cons, List.not_mem_nil, or_false] at hn
    rcases hn with rfl | rfl <;> simp)
  hook := hook_world

/-- The method gets an accessor. -/
theorem built_useTool : ∃ n σ a,
    (build (.proper useTool) (.proper shape)).run.run (.start world) = (.ok n, σ) ∧
    σ.accessors[n]? = some a ∧ a.plan = plan ∧ a.subject = .receiver := by
  have hdefect : (Plan.unpinned world [] useTool shape).defect? world = none := by
    rw [unpinned_useTool]
    have hname : plan.functionName world = "Tool_use_func1" := by decide +kernel
    exact Plan.defect?_eq_none hname (by decide +kernel) rfl (by decide +kernel)
      (Text.normalForm_of_plain (by decide)) (.inl (by decide))
  obtain ⟨n, σ, a, hrun, ha, hplan, hsubject⟩ := exists_build (σ := .start world) check_useTool
    (Plan.synthesize_of_unpinned rfl) hdefect
  change a.plan = Plan.unpinned world [] useTool shape at hplan
  change a.subject = (Plan.unpinned world [] useTool shape).subject world at hsubject
  rw [unpinned_useTool] at hplan hsubject
  exact ⟨n, σ, a, hrun, ha, hplan, hsubject⟩

/-- A text is no float. -/
theorem convertFloat_text {st : Store} : ((Value.text "x").convertFloat "arg0").perform runner st =
    (.error (.argumentMismatch "arg0" "float" "str"), st) := rfl

/-- The text is refused after the method was read from the tool. -/
theorem rejectedAt_text {a : Accessor} (hplan : a.plan = plan) (hsubject : a.subject = .receiver)
    {o : Address} {w : Value} {st : Store}
    (hlook : ((Value.object o).isInstance (.user 0)).perform runner world = (.ok true, world))
    (hread : ((Value.object o).getAttribute "use").perform runner world = (.ok w, st)) :
    a.RejectedAt runner world [.object o, .text "x"] "arg0" (.argumentMismatch "arg0" "float" "str") st := by
  have hname : useTool.attributeName = "use" := by decide
  refine @Accessor.RejectedAt.argument a runner world [.object o, .text "x"] 0
    ⟨0, "arg0", .builtin .float, some .float⟩ w [] _ world st st st ?_ ?_ ?_ rfl ?_
  · rw [Accessor.inspect_eq_checkReceiver (by rw [hplan]; rfl) (by rw [hplan]; rfl), hplan,
      Accessor.perform_checkReceiver_some (v := .object o) rfl nofun, hlook]
  · unfold Accessor.approach Accessor.holder
    rw [hsubject, hplan]
    change ((Value.object o).getAttribute useTool.attributeName).perform runner world = _
    rw [hname, hread]
  · unfold Accessor.converted
    rw [hsubject, hplan]
    rfl
  · unfold Accessor.convertStep Accessor.supplied
    rw [hplan]
    exact convertFloat_text

theorem knows_tool : world.Knows (.object 1) := by
  rintro b ⟨⟩
  decide

/-- No code comes with the method of a plain tool. -/
theorem readsFreely_use : world.ReadsFreely (.object 1) "use" where
  knows := knows_tool
  getAttribute := overrides_world _ (by simp)
  getMissing := overrides_world _ (by simp)
  getter := rfl
  shown {e} hshows := by
    have hlookup : world.lookup? (world.classOf (.object 1)) "use" = some (.user 0, .routine (.user 0)) := rfl
    obtain ⟨k, hk | ⟨c, hc, -⟩⟩ := hshows
    · rw [hlookup] at hk
      cases hk
      exact ⟨nofun, overrides_world _ (by simp)⟩
    · cases hc

/-- No code comes with a plain tool and a text. -/
theorem bringsNoCode_plain_tool {a : Accessor} (hplan : a.plan = plan) (hsubject : a.subject = .receiver) :
    a.BringsNoCode world [.object 1, .text "x"] where
  sequence h := by
    rw [hplan] at h
    cases h
  receiver h := by
    rw [hplan] at h
    cases h
    refine ⟨showsClass knows_tool, ?_⟩
    intro n hp
    cases hp
  member := by
    have hname : useTool.attributeName = "use" := by decide
    intro _ _ _
    rw [Accessor.holder, hsubject, hplan]
    change world.ReadsFreely (.object 1) useTool.attributeName
    rw [hname]
    exact readsFreely_use
  values {r c} hr hc := by
    have hconverted : a.converted = [⟨0, "arg0", .builtin .float, some .float⟩] := by
      rw [Accessor.converted, hsubject, hplan]
      rfl
    rw [hconverted] at hr
    obtain rfl := List.mem_singleton.mp hr
    cases hc
    intro run st₁ v st₂ h₁ hsupplied
    rw [Accessor.supplied, hplan] at hsupplied
    cases hsupplied
    have hknows : world.Knows (.text "x") := by
      intro a ha
      cases ha
    have hfree : world.ConvertsFreely (.text "x") .float :=
      { toShowsClass := showsClass hknows
        isBuiltIn := rfl
        method := by
          intro n hn
          refine overrides_world _ ?_
          simp only [List.mem_cons, List.not_mem_nil, or_false] at hn ⊢
          tauto
        array := by
          intro a _ ha
          cases ha
        tests := by
          intro k hk
          cases hk }
    exact hfree.of_grows h₁

/-- The method is read from a plain tool. -/
theorem read_use : ((Value.object 1).getAttribute "use").perform runner world =
    (.ok (.bound (.user 0) (.object 1)), world) := by
  have hasks : world.specialMethod? (.routine (.user 0)) "__get__" = none :=
    Store.specialMethod?_of_overrides (overrides_world _ (by simp))
  rw [Value.perform_getAttribute (readsPlainly _)]
  change ((Value.object 1).readInstance "use").perform runner world = _
  exact Value.perform_readInstance_of_entry (k := .user 0) (e := .routine (.user 0)) rfl rfl hasks rfl

end Meters
end MemberAccess
