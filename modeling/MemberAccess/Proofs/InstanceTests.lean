import MemberAccess.Proofs.OrderedHierarchy

/-!
# Instance tests

What testing a value for a class comes to.  Most classes are tested by ancestry and registration alone
(`perform_isInstance_eq_names`), which touches nothing.  Protocols and a few abstract classes are tested by
members: by those of the value's class where only methods are asked for, and by reading attributes from
the value otherwise.

An instance of a class should be an instance of everything above it.  By ancestry it is.  By members it
need not be: a class may pass a test that one of its subclasses fails, because the subclass blocks a
method.  `Store.Settles` lists the ways in which classes settle that it is.
-/

namespace MemberAccess

open MemberAccess.Action

/-! ## §1  Kinds of tests -/

/-- The class that a class describes the instances of is the class itself. -/
theorem TypeForm.runtimeClass?_cls {c : ClassRef} (hany : c ≠ .builtin .any) :
    (TypeForm.cls c).runtimeClass? = some c := by
  by_cases hgeneric : c = .builtin .generic
  · subst hgeneric
    rfl
  · have horigin : (TypeForm.cls c).origin? = Option.none := by
      unfold origin?
      split <;> simp_all
    simp [runtimeClass?, normalize, horigin, hany]

namespace Store

/-- Whether a class is tested by members, not by ancestry and registration alone. -/
def testsMembers (st : Store) : ClassRef → Bool
  | .builtin b => b == .protocol || b.requiredMethods.isSome
  | .user i => (st.classInfo i).isProtocol

/-- Whether the instance test for a class is settled by the class of the value, where that class names it
as an ancestor. -/
def testsQuietly (st : Store) (c : ClassRef) : Bool := !st.isProtocol c || st.hasMethodsOnly c

/-- The members that a class is tested by. -/
def askedMembers (st : Store) : ClassRef → List String
  | .builtin b => b.requiredMethods.getD []
  | .user i => st.protocolMembers (.user i)

variable {st : Store} {k c d : ClassRef}

theorem isRuntimeProtocol_of_testable (h : st.isUntestable c = false) (hp : st.isProtocol c = true) :
    st.isRuntimeProtocol c = true := by
  simpa [isUntestable, hp] using h

theorem hasMethodsOnly_of_testsQuietly (h : st.testsQuietly c = true) (hp : st.isProtocol c = true) :
    st.hasMethodsOnly c = true := by
  simpa [testsQuietly, hp] using h

theorem isProtocol_of_plain (h : st.testsMembers c = false) : st.isProtocol c = false := by
  cases c with
  | builtin b =>
    simp only [testsMembers, Bool.or_eq_false_iff] at h
    exact h.1
  | user i => exact h

theorem isUntestable_of_plain (h : st.testsMembers c = false) : st.isUntestable c = false := by
  rw [isUntestable, isProtocol_of_plain h, Bool.false_and]

theorem testsQuietly_of_plain (h : st.testsMembers c = false) : st.testsQuietly c = true := by
  rw [testsQuietly, isProtocol_of_plain h, Bool.not_false, Bool.true_or]

/-! ## §2  Subclasses -/

/-- Where members do not count, the test is ancestry or registration. -/
theorem subclassTest_of_plain (h : st.testsMembers d = false) :
    st.subclassTest c d = .ok (st.names c d) := by
  unfold subclassTest
  split
  case h_1 i =>
    have hp : (st.classInfo i).isProtocol = false := h
    simp [hp, names]
  case h_2 => simp [testsMembers] at h
  case h_3 b _ =>
    simp only [testsMembers, Bool.or_eq_false_iff, Option.isSome_eq_false_iff,
      Option.isNone_iff_eq_none] at h
    rw [h.2]
    rfl

/-- Where members count and the question may be asked, the test is having the members, ancestry or
registration. -/
theorem subclassTest_of_members (h : st.testsMembers d = true) (ht : st.isUntestable d = false)
    (hq : st.testsQuietly d = true) :
    st.subclassTest c d = .ok (st.providesAll c (st.askedMembers d) || st.names c d) := by
  unfold subclassTest
  split
  case h_1 i =>
    have hp : (st.classInfo i).isProtocol = true := h
    have hr : (st.classInfo i).isRuntimeProtocol = true := isRuntimeProtocol_of_testable ht hp
    have hm : st.hasMethodsOnly (.user i) = true := hasMethodsOnly_of_testsQuietly hq hp
    simp [hp, hr, hm, names, followsProtocol, askedMembers]
  case h_2 => simp [isUntestable, isProtocol, isRuntimeProtocol] at ht
  case h_3 b hb =>
    have hne : b ≠ .protocol := by
      rintro rfl
      exact hb rfl
    obtain ⟨ns, hns⟩ : ∃ ns, b.requiredMethods = some ns := by
      simpa [testsMembers, hne, Option.isSome_iff_exists] using h
    simp [hns, askedMembers, names, Bool.or_assoc]

/-- Where the question may be asked, what names a class is a subclass of it. -/
theorem subclassTest_of_names (h : st.names c d = true) (ht : st.isUntestable d = false)
    (hq : st.testsQuietly d = true) : st.subclassTest c d = .ok true := by
  cases hm : st.testsMembers d with
  | false => rw [subclassTest_of_plain hm, h]
  | true => rw [subclassTest_of_members hm ht hq, h, Bool.or_true]

/-- The question may be asked where it was answered with yes. -/
theorem testsQuietly_of_isSubclass (h : st.isSubclass c d = true) (ht : st.isUntestable d = false) :
    st.testsQuietly d = true := by
  cases hp : st.isProtocol d with
  | false => rw [testsQuietly, hp, Bool.not_false, Bool.true_or]
  | true =>
    cases d with
    | builtin b =>
      have hr := isRuntimeProtocol_of_testable ht hp
      cases hr
    | user i =>
      have hp' : (st.classInfo i).isProtocol = true := hp
      have hr' : (st.classInfo i).isRuntimeProtocol = true := isRuntimeProtocol_of_testable ht hp
      cases hm : st.hasMethodsOnly (.user i) with
      | true => rw [testsQuietly, hm, Bool.or_true]
      | false => simp [isSubclass, subclassTest, hp', hr', hm] at h

theorem isSubclass_of_plain (h : st.testsMembers d = false) : st.isSubclass c d = st.names c d := by
  rw [isSubclass, subclassTest_of_plain h]

end Store

/-! ## §3  Instances -/

namespace Value

variable {run : Runner} {st : Store} {v : Value} {c : ClassRef}

/-- A value whose class is a subclass passes, where the question may be asked. -/
theorem perform_isInstance_of_isSubclass (h : st.isSubclass (st.classOf v) c = true)
    (ht : st.isUntestable c = false) (hany : c ≠ .builtin .any) :
    (v.isInstance c).perform run st = (.ok true, st) := by
  have hsub : st.subclassTest (st.classOf v) c = .ok true := by
    unfold Store.isSubclass at h
    split at h
    case h_1 b hb => rw [hb, h]
    case h_2 => cases h
  unfold isInstance
  rw [perform_bind_get]
  split
  case h_1 i =>
    unfold Store.subclassTest at hsub
    by_cases hp : (st.classInfo i).isProtocol = true
    · have hr : (st.classInfo i).isRuntimeProtocol = true := Store.isRuntimeProtocol_of_testable ht hp
      by_cases hm : st.hasMethodsOnly (.user i) = true
      · simp [hp, hr, hm, h]
      · simp [hp, hr, hm] at hsub
    · have hd : st.descends (st.classOf v) (.user i) = true := by simpa [hp] using hsub
      simp [hp, hd]
  case h_2 => exact absurd rfl hany
  case h_3 => simp [Store.isUntestable, Store.isProtocol, Store.isRuntimeProtocol] at ht
  case h_4 => rw [perform_ofOutcome, hsub]

/-- **What names a class passes its instance test** and is not touched by it. -/
theorem perform_isInstance_of_names (h : st.names (st.classOf v) c = true)
    (ht : st.isUntestable c = false) (hq : st.testsQuietly c = true) (hany : c ≠ .builtin .any) :
    (v.isInstance c).perform run st = (.ok true, st) := by
  refine perform_isInstance_of_isSubclass ?_ ht hany
  rw [Store.isSubclass, Store.subclassTest_of_names h ht hq]

/-- **Where members do not count, the instance test is ancestry or registration.** -/
theorem perform_isInstance_eq_names (h : st.testsMembers c = false) (hany : c ≠ .builtin .any) :
    (v.isInstance c).perform run st = (.ok (st.names (st.classOf v) c), st) := by
  have hsub := Store.subclassTest_of_plain (c := st.classOf v) h
  unfold isInstance
  rw [perform_bind_get]
  split
  case h_1 i =>
    have hp : (st.classInfo i).isProtocol = false := h
    simp [hp, Store.names]
  case h_2 => exact absurd rfl hany
  case h_3 => simp [Store.testsMembers] at h
  case h_4 => rw [perform_ofOutcome, hsub]

/-- The test for a protocol that may be tested for passes an instance of a subclass, or ends with what
reading a member from it ended with. -/
theorem perform_isInstance_of_protocol (h : st.descends (st.classOf v) c = true)
    (ht : st.isUntestable c = false) (hp : st.isProtocol c = true) :
    (∃ st', (v.isInstance c).perform run st = (.ok true, st')) ∨
      ∃ f st', (v.hasMembers c (st.protocolMembers c)).perform run st = (.error f, st') ∧
        (v.isInstance c).perform run st = (.error f, st') := by
  have hr := Store.isRuntimeProtocol_of_testable ht hp
  cases c with
  | builtin b => simp [Store.isRuntimeProtocol] at hr
  | user i =>
    have hp' : (st.classInfo i).isProtocol = true := hp
    have hr' : (st.classInfo i).isRuntimeProtocol = true := hr
    unfold isInstance
    rw [perform_bind_get]
    simp only [hp', hr', Bool.not_true, Bool.false_eq_true, if_false]
    split
    · exact .inl ⟨st, rfl⟩
    split
    · exact .inl ⟨st, rfl⟩
    · rw [perform_bind]
      rcases hm : (v.hasMembers (.user i) (st.protocolMembers (.user i))).perform run st with ⟨f | b, st'⟩
      · exact .inr ⟨f, st', rfl, rfl⟩
      · refine .inl ⟨st', ?_⟩
        cases b with
        | true => rfl
        | false => simp [h]

/-- The test for a protocol that does not ask for methods alone reads its members from the value. -/
theorem perform_isInstance_by_members {i : Nat}
    (hp : (st.classInfo i).isProtocol = true) (hr : (st.classInfo i).isRuntimeProtocol = true)
    (hm : st.hasMethodsOnly (.user i) = false) (hv : st.classOf v ≠ .user i) :
    (v.isInstance (.user i)).perform run st =
      match (v.hasMembers (.user i) (st.protocolMembers (.user i))).perform run st with
      | (.ok b, st') => (.ok (b || st.descends (st.classOf v) (.user i)), st')
      | (.error f, st') => (.error f, st') := by
  unfold isInstance
  rw [perform_bind_get]
  simp only [hp, hr, hm, hv, Bool.not_true, Bool.false_eq_true, if_false, Bool.false_and]
  rw [perform_bind]
  rcases (v.hasMembers (.user i) (st.protocolMembers (.user i))).perform run st with ⟨f | b, st'⟩
  · rfl
  · cases b <;> rfl

/-- A direct instance of a protocol passes the test for it, and is not touched by it. -/
theorem perform_isInstance_of_exact (h : st.classOf v = c) (hp : st.isProtocol c = true)
    (hc : c ≠ .builtin .protocol) : (v.isInstance c).perform run st = (.ok true, st) := by
  cases c with
  | builtin b => simp_all [Store.isProtocol]
  | user i =>
    have hp' : (st.classInfo i).isProtocol = true := hp
    unfold isInstance
    rw [perform_bind_get]
    simp [hp', h]

/-- A protocol that may not be tested for cannot be asked for, unless of a direct instance. -/
theorem perform_isInstance_of_untestable (h : st.isUntestable c = true) (hv : st.classOf v ≠ c) :
    (v.isInstance c).perform run st = (.error (.fault .typeError), st) := by
  simp only [Store.isUntestable, Bool.and_eq_true, Bool.not_eq_true'] at h
  obtain ⟨hp, hr⟩ := h
  cases c with
  | builtin b =>
    have hb : b = .protocol := by simpa [Store.isProtocol] using hp
    rw [hb]
    rfl
  | user i =>
    have hp' : (st.classInfo i).isProtocol = true := hp
    have hr' : (st.classInfo i).isRuntimeProtocol = false := hr
    unfold isInstance
    rw [perform_bind_get]
    simp [hp', hr', hv]

/-- A protocol that may not be tested for passes its direct instances, and nothing else comes through. -/
theorem perform_isInstance_untestable (h : st.isUntestable c = true) :
    (v.isInstance c).perform run st = (.ok true, st) ∨
      (v.isInstance c).perform run st = (.error (.fault .typeError), st) := by
  by_cases hv : st.classOf v = c
  · have hp : st.isProtocol c = true := by
      simp only [Store.isUntestable, Bool.and_eq_true] at h
      exact h.1
    by_cases hc : c = .builtin .protocol
    · subst hc
      exact .inr rfl
    · exact .inl (perform_isInstance_of_exact hv hp hc)
  · exact .inr (perform_isInstance_of_untestable h hv)

/-- The test for a class that is no protocol touches nothing. -/
theorem perform_isInstance_of_plain (hp : st.isProtocol c = false) :
    ((v.isInstance c).perform run st).2 = st := by
  unfold isInstance
  rw [perform_bind_get]
  split
  case h_1 i =>
    have hp' : (st.classInfo i).isProtocol = false := hp
    simp [hp']
  case h_2 | h_3 => rfl
  case h_4 => rw [perform_ofOutcome]

end Value

/-! ## §4  Members -/

namespace Store

variable {st : Store} {k c d : ClassRef} {n : String}

/-- Whether no ancestor of a class blocks a member that another class is tested by. -/
def BlocksNothing (st : Store) (k d : ClassRef) : Prop :=
  ∀ n ∈ st.askedMembers d, ∀ e, st.descends k e = true → st.entry? e n ≠ some .nothing

/-- What a class provides, unless by an annotation alone, stands in the namespace of an ancestor. -/
theorem exists_entry_of_providesMember (h : st.providesMember c n = true) (hp : st.isProtocol c = false) :
    ∃ e v, st.descends c e = true ∧ st.entry? e n = some v := by
  unfold providesMember at h
  cases hf : (st.lineage c).findSome? _ with
  | none =>
    rw [hf] at h
    cases h
  | some b =>
    obtain ⟨e, he, hb⟩ := List.exists_of_findSome?_eq_some hf
    cases hentry : st.entry? e n with
    | some v => exact ⟨e, v, descends_iff.mpr he, hentry⟩
    | none =>
      rw [hentry] at hb
      cases e with
      | builtin a => cases hb
      | user i => simp [hp] at hb

/-- What stands in the namespace of an ancestor, and is blocked by none, is provided. -/
theorem providesMember_of_entry {e : ClassRef} {v : Value} (he : st.descends c e = true)
    (hentry : st.entry? e n = some v)
    (hblocks : ∀ e, st.descends c e = true → st.entry? e n ≠ some .nothing) :
    st.providesMember c n = true := by
  unfold providesMember
  cases hf : (st.lineage c).findSome? _ with
  | none =>
    have hnone := List.findSome?_eq_none_iff.mp hf e (descends_iff.mp he)
    rw [hentry] at hnone
    cases hnone
  | some b =>
    obtain ⟨e', he', hb⟩ := List.exists_of_findSome?_eq_some hf
    cases hentry' : st.entry? e' n with
    | some v' =>
      rw [hentry'] at hb
      cases hb
      have hne : v' ≠ .nothing := by
        rintro rfl
        exact hblocks e' (descends_iff.mpr he') hentry'
      simpa using hne
    | none =>
      rw [hentry'] at hb
      cases e' with
      | builtin a => cases hb
      | user i =>
        simp only [Option.ite_none_right_eq_some] at hb
        rw [Option.getD_some]
        exact (Option.some.inj hb.2).symm

/-- Below a class that provides members stand classes that provide them, unless they block one. -/
theorem providesAll_of_descends (ho : st.Ordered) (hk : st.descends k c = true)
    (hp : st.isProtocol c = false) {ns : List String}
    (hblocks : ∀ n ∈ ns, ∀ e, st.descends k e = true → st.entry? e n ≠ some .nothing)
    (h : st.providesAll c ns = true) : st.providesAll k ns = true := by
  rw [providesAll, List.all_eq_true] at h ⊢
  intro n hn
  obtain ⟨e, v, he, hentry⟩ := exists_entry_of_providesMember (h n hn) hp
  exact providesMember_of_entry (ho.trans hk he) hentry (hblocks n hn)

/-- A class below one that passes a test by members passes it, unless it blocks one of them. -/
theorem isSubclass_of_descends (ho : st.Ordered) (hk : st.descends k c = true)
    (hp : st.isProtocol c = false) (hblocks : st.BlocksNothing k d) (h : st.isSubclass c d = true)
    (ht : st.isUntestable d = false) : st.isSubclass k d = true := by
  have hnames : st.names c d = true → st.names k d = true := ho.names_trans (names_of_descends hk)
  cases hm : st.testsMembers d with
  | false =>
    rw [isSubclass_of_plain hm] at h ⊢
    exact hnames h
  | true =>
    have hq := testsQuietly_of_isSubclass h ht
    rw [isSubclass, subclassTest_of_members hm ht hq] at h ⊢
    rcases Bool.or_eq_true_iff.mp h with h | h
    · exact Bool.or_eq_true_iff.mpr (.inl (providesAll_of_descends ho hk hp hblocks h))
    · exact Bool.or_eq_true_iff.mpr (.inr (hnames h))

/-- The ways in which classes settle that an instance of `c` whose class is `k` is an instance of `d`. -/
inductive Settles (st : Store) (k c d : ClassRef) : Prop
  /-- by names: the value's class names `c`, which names `d` -/
  | byNames : (st.testsMembers c = true → st.names k c = true) → st.names c d = true →
      st.testsQuietly d = true → Settles st k c d
  /-- by being itself the class that is a subclass -/
  | itself : k = c → st.isSubclass c d = true → Settles st k c d
  /-- by having the members that the subclass has -/
  | byMembers : st.descends k c = true → st.isProtocol c = false → st.BlocksNothing k d →
      st.isSubclass c d = true → Settles st k c d

/-- Between classes that are tested by ancestry and registration everything is settled. -/
theorem settles_of_plain (hc : st.testsMembers c = false) (hd : st.testsMembers d = false)
    (h : st.isSubclass c d = true) : st.Settles k c d := by
  rw [isSubclass_of_plain hd] at h
  refine .byNames ?_ h (testsQuietly_of_plain hd)
  intro hno
  rw [hc] at hno
  cases hno

end Store

namespace Value

variable {run : Runner} {st : Store} {v : Value} {c d : ClassRef}

/-- Being an instance of a class, by the instance test. -/
def IsOf (v : Value) (run : Runner) (st : Store) (c : ClassRef) : Prop :=
  ((v.isInstance c).perform run st).1 = .ok true

/-- Nothing is an instance of the class that may not be tested for. -/
theorem not_isOf_any : ¬ v.IsOf run st (.builtin .any) := by
  intro h
  cases h

/-- **An instance of a class is an instance of what stands above it**, where the classes settle it; what
merely follows a protocol need not be asked for it. -/
theorem perform_isInstance_of_settles (ho : st.Ordered) (hc : st.testsMembers c = false → v.IsOf run st c)
    (hs : st.Settles (st.classOf v) c d) (ht : st.isUntestable d = false) (hany : d ≠ .builtin .any) :
    (v.isInstance d).perform run st = (.ok true, st) := by
  cases hs with
  | byNames hnames hd hq =>
    have hk : st.names (st.classOf v) c = true := by
      cases hm : st.testsMembers c with
      | true => exact hnames hm
      | false =>
        have hof := hc hm
        have hany' : c ≠ .builtin .any := by
          rintro rfl
          exact not_isOf_any hof
        rw [IsOf, perform_isInstance_eq_names hm hany'] at hof
        exact Except.ok.inj hof
    exact perform_isInstance_of_names (ho.names_trans hk hd) ht hq hany
  | itself hk hd =>
    rw [← hk] at hd
    exact perform_isInstance_of_isSubclass hd ht hany
  | byMembers hk hp hblocks hd =>
    exact perform_isInstance_of_isSubclass (Store.isSubclass_of_descends ho hk hp hblocks hd ht) ht hany

end Value
end MemberAccess
