import MemberAccess.Member.Resolve
import MemberAccess.Proofs.Runs

/-!
# What the resolvers find

A resolver is asked about a class, and the descriptor that it gives speaks of the class that keeps the
member, which may be any ancestor of it.  `Asked` collects the ways of asking, descriptions of objects
included; `Describes` says, kind by kind, what the descriptor is then.

Everything in `Describes` but the class that was asked belongs to the class that keeps the member, except
in one place: whether a field can be set is asked of the class that was asked.
-/

namespace MemberAccess.Member

open MemberAccess.Action

variable {run : Runner} {st st' : Store} {c k : ClassRef} {d : MemberDescriptor}

/-! ## §1  Ways of asking -/

/-- The class that a bound method is looked up in. -/
def receiverClass (st : Store) : Value → ClassRef
  | .cls c => c
  | v => st.classOf v

/-- **A resolver was asked about a class** in an object world, and gave a descriptor.  A function without
a given owner is looked up in the world in which its name has led to one. -/
inductive Asked (run : Runner) (st : Store) : ClassRef → MemberDescriptor → Prop
  | resolve {q : Query} {c : ClassRef} {d : MemberDescriptor} {st' : Store} :
      (resolve q (.cls c)).perform run st = (.ok d, st') → Asked run st c d
  | describeClass {c : ClassRef} {owner : Option TypeForm} {d : MemberDescriptor} {st' : Store} :
      (describe (.cls c) owner).perform run st = (.ok d, st') → Asked run st c d
  | describeProperty {p : Nat} {c : ClassRef} {d : MemberDescriptor} {st' : Store} :
      (describe (.atom (.property p)) (some (.cls c))).perform run st = (.ok d, st') → Asked run st c d
  | describeBound {i : Nat} {v : Value} {owner : Option TypeForm} {d : MemberDescriptor} {st' : Store} :
      (describe (.bound (.user i) v) owner).perform run st = (.ok d, st') →
      Asked run st (receiverClass st v) d
  | describeFunction {i : Nat} {c : ClassRef} {d : MemberDescriptor} {st' : Store} :
      (describe (.routine (.user i)) (some (.cls c))).perform run st = (.ok d, st') → Asked run st c d
  | describeAlone {i : Nat} {c : ClassRef} {d : MemberDescriptor} {st₀ st' : Store} :
      (ownerFromName (st₀.function i)).perform run st₀ = (.ok c, st) →
      (describe (.routine (.user i)) none).perform run st₀ = (.ok d, st') → Asked run st c d

/-- No other description succeeds. -/
theorem asked_of_describe {v : Value} {owner : Option TypeForm}
    (h : (describe v owner).perform run st = (.ok d, st')) : ∃ st₀ c, Asked run st₀ c d := by
  have hrun := h
  unfold describe at hrun
  rw [perform_bind_get] at hrun
  split at hrun
  case h_1 => cases hrun
  case h_2 => exact ⟨st, _, .describeClass h⟩
  case h_3 p =>
    split at hrun
    case h_1 => cases hrun
    case h_2 c => exact ⟨st, c, .describeProperty h⟩
    case h_3 => cases hrun
  case h_4 i self => exact ⟨st, _, .describeBound h⟩
  case h_5 i =>
    dsimp only at hrun
    split at hrun
    case h_1 c => exact ⟨st, c, .describeFunction h⟩
    case h_2 => cases hrun
    case h_3 =>
      obtain ⟨c, st₀, hc, -⟩ := exists_of_perform_bind hrun
      exact ⟨st₀, c, .describeAlone hc h⟩
  case h_6 => cases hrun

/-! ## §2  What is found -/

/-- **What a descriptor says** that was found by asking about the class `c`. -/
inductive Describes (run : Runner) (st : Store) (c : ClassRef) : MemberDescriptor → Prop
  | constructor {s : Signature} {hints : List (String × TypeForm)} {st' : Store} :
      st.classSignature? c = some s → (constructorHints c).perform run st = (.ok hints, st') →
      Describes run st c (constructorDescriptor c s hints)
  | method {name kept : String} {k : ClassRef} {e : Value} {m : MethodEntry} {s : Signature}
      {hints : List (String × TypeForm)} {st' : Store} :
      find? st c name = some (k, kept, e) → methodEntry? k e = some m →
      st.signature? m.routine = some s →
      (Hints.knownOfRoutine m.routine).perform run st = (.ok hints, st') →
      Describes run st c (methodDescriptor k kept m s hints)
  | property {name kept : String} {k : ClassRef} {p : Nat} {t : TypeForm} {st' : Store} :
      find? st c name = some (k, kept, .atom (.property p)) →
      (propertyType (property st p)).perform run st = (.ok t, st') →
      Describes run st c (propertyDescriptor st k kept p t)
  | field {name : String} {k : ClassRef} {hints : List (String × TypeForm)} {st' : Store} :
      fieldOwner? st c name = some k →
      (Hints.knownOfClass k).perform run st = (.ok hints, st') →
      Describes run st c (fieldDescriptor k name (fieldHint st k name hints) (!isFrozen st c))

theorem constructorOf_ok (h : (constructorOf c).perform run st = (.ok d, st')) :
    Describes run st c d := by
  unfold constructorOf at h
  rw [perform_bind_get] at h
  cases hs : st.classSignature? c with
  | none =>
    rw [hs] at h
    cases h
  | some s =>
    rw [hs] at h
    obtain ⟨hints, st₁, hhints, hd⟩ := exists_of_perform_bind h
    cases hd
    exact .constructor hs hhints

theorem find_ok {name : String} {r : ClassRef × String × Value}
    (h : (find c name).perform run st = (.ok r, st')) : find? st c name = some r ∧ st' = st := by
  unfold find at h
  rw [perform_bind_get] at h
  cases hr : find? st c name with
  | none =>
    rw [hr] at h
    cases h
  | some r' =>
    rw [hr] at h
    cases h
    exact ⟨rfl, rfl⟩

/-- What a method that is given was made of. -/
theorem exists_of_methodOf {name : String} (h : (methodOf c name).perform run st = (.ok d, st')) :
    ∃ k kept e m s hints st₁, find? st c name = some (k, kept, e) ∧ methodEntry? k e = some m ∧
      st.signature? m.routine = some s ∧
      (Hints.knownOfRoutine m.routine).perform run st = (.ok hints, st₁) ∧
      d = methodDescriptor k kept m s hints := by
  unfold methodOf at h
  obtain ⟨⟨k, kept, e⟩, st₁, hfind, hrest⟩ := exists_of_perform_bind h
  obtain ⟨hfind, rfl⟩ := find_ok hfind
  dsimp only at hrest
  rw [perform_bind_get] at hrest
  cases hm : methodEntry? k e with
  | none =>
    rw [hm] at hrest
    cases hrest
  | some m =>
    rw [hm] at hrest
    dsimp only at hrest
    cases hs : st₁.signature? m.routine with
    | none =>
      rw [hs] at hrest
      cases hrest
    | some s =>
      rw [hs] at hrest
      obtain ⟨hints, st₂, hhints, hd⟩ := exists_of_perform_bind hrest
      cases hd
      exact ⟨k, kept, e, m, s, hints, _, hfind, hm, hs, hhints, rfl⟩

theorem methodOf_ok {name : String} (h : (methodOf c name).perform run st = (.ok d, st')) :
    Describes run st c d := by
  obtain ⟨k, kept, e, m, s, hints, st₁, hfind, hm, hs, hhints, rfl⟩ := exists_of_methodOf h
  exact .method hfind hm hs hhints

/-- What a property that is given was made of. -/
theorem exists_of_propertyOf {name : String} (h : (propertyOf c name).perform run st = (.ok d, st')) :
    ∃ k kept p t st₁, find? st c name = some (k, kept, .atom (.property p)) ∧
      (propertyType (property st p)).perform run st = (.ok t, st₁) ∧
      d = propertyDescriptor st k kept p t := by
  unfold propertyOf at h
  obtain ⟨⟨k, kept, e⟩, st₁, hfind, hrest⟩ := exists_of_perform_bind h
  obtain ⟨hfind, rfl⟩ := find_ok hfind
  dsimp only at hrest
  rw [perform_bind_get] at hrest
  split at hrest
  case h_1 =>
    obtain ⟨t, st₂, ht, hd⟩ := exists_of_perform_bind hrest
    cases hd
    exact ⟨k, kept, _, t, _, hfind, ht, rfl⟩
  case h_2 => cases hrest

theorem propertyOf_ok {name : String} (h : (propertyOf c name).perform run st = (.ok d, st')) :
    Describes run st c d := by
  obtain ⟨k, kept, p, t, st₁, hfind, ht, rfl⟩ := exists_of_propertyOf h
  exact .property hfind ht

/-- What a field that is given was made of. -/
theorem exists_of_fieldOf {name : String} (h : (fieldOf c name).perform run st = (.ok d, st')) :
    ∃ k hints st₁, fieldOwner? st c name = some k ∧
      (Hints.knownOfClass k).perform run st = (.ok hints, st₁) ∧
      d = fieldDescriptor k name (fieldHint st k name hints) (!isFrozen st c) := by
  unfold fieldOf at h
  rw [perform_bind_get] at h
  dsimp only at h
  cases hk : fieldOwner? st c name with
  | none =>
    rw [hk] at h
    cases h
  | some k =>
    rw [hk] at h
    dsimp only at h
    split at h
    case h_1 => cases h
    case h_2 =>
      obtain ⟨hints, st₁, hhints, hd⟩ := exists_of_perform_bind h
      cases hd
      exact ⟨k, hints, _, rfl, hhints, rfl⟩

theorem fieldOf_ok {name : String} (h : (fieldOf c name).perform run st = (.ok d, st')) :
    Describes run st c d := by
  obtain ⟨k, hints, st₁, hk, hhints, rfl⟩ := exists_of_fieldOf h
  exact .field hk hhints

theorem memberOf_ok {name : String} (h : (memberOf c name).perform run st = (.ok d, st')) :
    Describes run st c d := by
  unfold memberOf at h
  rw [perform_bind_get] at h
  split at h
  · exact propertyOf_ok h
  · exact fieldOf_ok h

theorem resolve_ok {q : Query} (h : (resolve q (.cls c)).perform run st = (.ok d, st')) :
    Describes run st c d := by
  unfold resolve at h
  obtain ⟨c', st₁, hc, hrest⟩ := exists_of_perform_bind h
  cases hc
  cases q with
  | constructor => exact constructorOf_ok hrest
  | method n => exact methodOf_ok hrest
  | property n => exact propertyOf_ok hrest
  | field n => exact fieldOf_ok hrest
  | member n => exact memberOf_ok hrest

/-- **Whoever asks about a class gets what its member is.** -/
theorem describes_of_asked (h : Asked run st c d) : Describes run st c d := by
  cases h with
  | resolve h => exact resolve_ok h
  | describeClass h => exact constructorOf_ok h
  | describeProperty h =>
    unfold describe at h
    rw [perform_bind_get] at h
    dsimp only at h
    split at h
    case h_1 => exact propertyOf_ok h
    case h_2 => cases h
  | describeBound h =>
    unfold describe at h
    rw [perform_bind_get] at h
    exact methodOf_ok h
  | describeFunction h =>
    unfold describe at h
    rw [perform_bind_get] at h
    exact methodOf_ok h
  | describeAlone ho h =>
    unfold describe at h
    rw [perform_bind_get] at h
    obtain ⟨c', st₁, hc, hrest⟩ := exists_of_perform_bind h
    rw [ho] at hc
    cases hc
    exact methodOf_ok hrest

/-! ## §3  What every descriptor of a kind says -/

/-- The constructor of a class is the class. -/
theorem Describes.target_of_constructor (h : Describes run st c d) (hk : d.kind = .constructor) :
    ∃ k, d.declaring = .cls k ∧ d.target = .cls k := by
  cases h with
  | constructor => exact ⟨c, rfl, rfl⟩
  | method | property | field => cases hk

/-- Fields and properties have no parameters. -/
theorem Describes.parameters_of_value (h : Describes run st c d)
    (hk : d.kind ≠ .constructor ∧ d.kind ≠ .method) : d.parameters = [] := by
  cases h with
  | constructor => exact absurd rfl hk.1
  | method => exact absurd rfl hk.2
  | property | field => rfl

end MemberAccess.Member
