import Mathlib.Algebra.Group.Int.Defs
import MemberAccess.Proofs.KeptValues

/-!
# Conversions that end otherwise

A conversion is meant to have two ends: it gives a value, or it refuses the one that it was given, and says
where.  The built-in conversions keep to this as far as their tests of classes go.  Behind the tests they
take a float, an index or an array out of the value, and what that may fail with is caught only here and
there.  So some values get through the test for a type and then defy the conversion (`Store.Defies`): an
integer beyond the greatest float, the text of no number, an array of several numbers where an index is
wanted.  Such a conversion ends with a fault that no one expects (`WideInteger.faults_come_through`).

Besides, testing a value for a protocol runs code of the value.  There is no third way in which a
conversion can fail (`Value.failures_of_conversion`).
-/

namespace MemberAccess

open MemberAccess.Action Number

/-! ## §1  Numbers that values are read as -/

/-- Atoms that are read as floats and come to none: too large a number, or a text that spells none. -/
inductive Atom.Unreadable : Atom → ErrorKind → Prop
  | integer {n : Int} : Double.ofInt n = Option.none → Unreadable (.int n) .overflowError
  | fixed {n : Int} : Double.ofInt n = Option.none → Unreadable (.fixed (.int64 n)) .overflowError
  | fraction {n : Int} {d : Nat} : Double.ofRatio (n < 0) n.natAbs d = Option.none →
      Unreadable (.fraction n d) .overflowError
  | decimal {d : Decimal} : d.toDouble? = Option.none → Unreadable (.decimal d) .valueError
  | text {s : String} : Double.parse? s = Option.none → Unreadable (.text s) .valueError

/-- The integer that an atom is. -/
def Atom.whole? : Atom → Option Int
  | .int n | .fixed (.int64 n) => some n
  | _ => Option.none

namespace Store

/-- The atom that a value is read as a number by: its own, or the only element of the array that it is. -/
def numeral? (st : Store) (v : Value) : Option Atom :=
  (st.atomOf? v).or ((st.arrayOf? v).bind Value.singleElement?)

/-- The integer that a value stands for as an index, if no method of its class says so. -/
def index? (st : Store) (v : Value) : Option Int :=
  match st.atomOf? v with
  | some (.bool b) => some (if b then 1 else 0)
  | some a => a.whole?
  | none => ((st.arrayOf? v).bind Value.soleElement?).bind Atom.whole?

/-- The class of a value has no method of its own for numbers. -/
def HasNoNumberMethods (st : Store) (v : Value) : Prop :=
  ∀ n ∈ ["__index__", "__float__", "__complex__"], st.specialMethod? v n = none

/-- Values of built-in classes bring no method along. -/
theorem hasNoNumberMethods_of_builtin {st : Store} {v : Value} {b : Builtin}
    (h : st.classOf v = .builtin b) : st.HasNoNumberMethods v :=
  fun n _ => specialMethod?_of_builtin h n

/-- A value is an atom or an array. -/
theorem arrayOf?_of_atomOf? {st : Store} {v : Value} {a : Atom} (h : st.atomOf? v = some a) :
    st.arrayOf? v = none := by
  unfold atomOf? at h
  unfold arrayOf?
  split
  case h_1 i =>
    split
    case h_1 hp =>
      simp only [hp] at h
      cases h
    case h_2 => rfl
  case h_2 => rfl

end Store

namespace Value

variable {run : Runner} {st : Store} {v : Value} {a : Atom} {k : ErrorKind}

theorem exists_floatOfInt_of_small (b : Bool) : ∃ x, Double.ofInt (if b then 1 else 0) = some x := by
  cases b with
  | true => exact ⟨⟨0x3ff0000000000000⟩, by decide +kernel⟩
  | false => exact ⟨Double.zero false, by decide +kernel⟩

/-- **An atom that is read as a float comes to one, or is unreadable.** -/
theorem perform_floatOfAtom {x : Action Double} (hx : floatOfAtom? a = some x) :
    (∃ y, x.perform run st = (.ok y, st)) ∨
      ∃ k, a.Unreadable k ∧ x.perform run st = (.error (.fault k), st) := by
  have hint {n : Int} {a : Atom} (hbad : Double.ofInt n = none → a.Unreadable .overflowError) :
      (∃ y, (floatOfInt n).perform run st = (.ok y, st)) ∨
        ∃ k, a.Unreadable k ∧ (floatOfInt n).perform run st = (.error (.fault k), st) := by
    unfold floatOfInt
    cases hn : Double.ofInt n with
    | some y => exact .inl ⟨y, rfl⟩
    | none => exact .inr ⟨_, hbad hn, rfl⟩
  have hsmall (b : Bool) :
      ∃ y, (floatOfInt (if b then 1 else 0)).perform run st = (.ok y, st) := by
    obtain ⟨y, hy⟩ := exists_floatOfInt_of_small b
    unfold floatOfInt
    rw [hy]
    exact ⟨y, rfl⟩
  unfold floatOfAtom? at hx
  split at hx <;> cases hx
  case h_1 b | h_9 b => exact .inl (hsmall b)
  case h_2 n => exact hint .integer
  case h_8 n => exact hint .fixed
  case h_3 | h_6 | h_7 | h_10 => exact .inl ⟨_, rfl⟩
  case h_4 =>
    split
    · exact .inl ⟨_, rfl⟩
    · exact .inr ⟨_, .fraction ‹_›, rfl⟩
  case h_5 =>
    split
    · exact .inl ⟨_, rfl⟩
    · exact .inr ⟨_, .decimal ‹_›, rfl⟩
  case h_11 =>
    split
    · exact .inl ⟨_, rfl⟩
    · exact .inr ⟨_, .text ‹_›, rfl⟩

/-- An unreadable atom is read as a float, in vain. -/
theorem perform_floatOfAtom_of_unreadable (h : a.Unreadable k) :
    ∃ x, floatOfAtom? a = some x ∧ x.perform run st = (.error (.fault k), st) := by
  cases h with
  | integer h | fixed h => exact ⟨_, rfl, by rw [floatOfInt, h]; rfl⟩
  | fraction h | decimal h | text h => exact ⟨_, rfl, by simp only [h]; rfl⟩

end Value

namespace Store

/-- What keeps a value from having a float: it is no number at all, or an unreadable one. -/
inductive LacksFloat (st : Store) (v : Value) : ErrorKind → Prop
  | numberless : (st.numeral? v).bind Value.floatOfAtom? = none → LacksFloat st v .typeError
  | unreadable {a : Atom} {k : ErrorKind} : st.numeral? v = some a → a.Unreadable k → LacksFloat st v k

variable {run : Runner} {st : Store} {v : Value} {k : ErrorKind}

/-- A value that brings no method for it is read as a float by its atom. -/
theorem perform_toFloat (hv : st.HasNoNumberMethods v) :
    v.toFloat.perform run st =
      match (st.numeral? v).bind Value.floatOfAtom? with
      | some x => x.perform run st
      | none => (.error (.fault .typeError), st) := by
  unfold Value.toFloat
  rw [perform_bind_get, hv "__float__" (by simp), hv "__index__" (by simp)]
  unfold numeral?
  cases hatom : st.atomOf? v with
  | some a =>
    rw [arrayOf?_of_atomOf? hatom, Option.some_or, Option.bind_some]
    cases Value.floatOfAtom? a <;> rfl
  | none =>
    rw [Option.none_or, Option.bind_none]
    cases ((st.arrayOf? v).bind Value.singleElement?).bind Value.floatOfAtom? <;> rfl

/-- **A value without methods of its own has a float, or lacks one.** -/
theorem perform_toFloat_cases (hv : st.HasNoNumberMethods v) :
    (∃ x, v.toFloat.perform run st = (.ok x, st)) ∨
      ∃ k, st.LacksFloat v k ∧ v.toFloat.perform run st = (.error (.fault k), st) := by
  rw [perform_toFloat hv]
  cases hx : (st.numeral? v).bind Value.floatOfAtom? with
  | none => exact .inr ⟨_, .numberless hx, rfl⟩
  | some x =>
    obtain ⟨a, ha, hread⟩ := Option.bind_eq_some_iff.mp hx
    rcases @Value.perform_floatOfAtom run st a x hread with hok | ⟨k, hk, hfault⟩
    · exact .inl hok
    · exact .inr ⟨k, .unreadable ha hk, hfault⟩

/-- Taking the float of a value that lacks one is a fault. -/
theorem LacksFloat.perform_toFloat (h : st.LacksFloat v k) (hv : st.HasNoNumberMethods v) :
    v.toFloat.perform run st = (.error (.fault k), st) := by
  rw [Store.perform_toFloat hv]
  cases h with
  | numberless hnone => rw [hnone]
  | unreadable ha hk =>
    obtain ⟨x, hx, hfault⟩ := @Value.perform_floatOfAtom_of_unreadable run st _ _ hk
    rw [ha, Option.bind_some, hx]
    exact hfault

/-- A value without methods of its own is an index, or none. -/
theorem perform_toIndex (hv : st.HasNoNumberMethods v) :
    v.toIndex.perform run st =
      match st.index? v with
      | some n => (.ok n, st)
      | none => (.error (.fault .typeError), st) := by
  unfold Value.toIndex
  rw [perform_bind_get, hv "__index__" (by simp)]
  unfold index?
  cases hatom : st.atomOf? v with
  | some a =>
    rw [arrayOf?_of_atomOf? hatom]
    rcases a <;> first | rfl | (rename_i n; cases n <;> rfl)
  | none =>
    rcases (st.arrayOf? v).bind Value.soleElement? with _ | a
    · rfl
    · rcases a <;> first | rfl | (rename_i n; cases n <;> rfl)

/-- A value without methods of its own has a complex number, is no number, or is unreadable. -/
theorem perform_toComplex_cases (hv : st.HasNoNumberMethods v) :
    (∃ z, v.toComplex.perform run st = (.ok z, st)) ∨
      v.toComplex.perform run st = (.error (.fault .typeError), st) ∨
      ∃ a k, st.numeral? v = some a ∧ a.Unreadable k ∧
        v.toComplex.perform run st = (.error (.fault k), st) := by
  unfold Value.toComplex
  rw [perform_bind_get, hv "__complex__" (by simp)]
  dsimp only
  split
  · exact .inl ⟨_, rfl⟩
  · exact .inl ⟨_, rfl⟩
  · rcases @perform_toFloat_cases run st v hv with ⟨x, hx⟩ | ⟨k, hk, hfault⟩
    · exact .inl ⟨_, perform_bind_ok hx⟩
    · cases hk with
      | numberless => exact .inr (.inl (perform_bind_error hfault))
      | unreadable ha hk => exact .inr (.inr ⟨_, k, ha, hk, perform_bind_error hfault⟩)

/-- Taking the complex number of an unreadable value is a fault. -/
theorem perform_toComplex_of_unreadable {a : Atom} (hv : st.HasNoNumberMethods v)
    (ha : st.numeral? v = some a) (hk : a.Unreadable k) :
    v.toComplex.perform run st = (.error (.fault k), st) := by
  have hfault : v.toFloat.perform run st = (.error (.fault k), st) :=
    (LacksFloat.unreadable ha hk).perform_toFloat hv
  have hcomplex : ∀ b, st.atomOf? v = some b → b = a := by
    intro b hb
    rw [numeral?, hb, Option.some_or] at ha
    exact Option.some.inj ha
  unfold Value.toComplex
  rw [perform_bind_get, hv "__complex__" (by simp)]
  dsimp only
  split
  case h_1 hb | h_2 hb =>
    obtain rfl := hcomplex _ hb
    cases hk
  case h_3 => exact perform_bind_error hfault

end Store

/-! ## §2  Values that defy a leaf -/

/-- **A value defies a leaf**: the leaf would make something else of it, and it has no float, spells no
number, stands for no index, or has the array library fail otherwise than over a wrong type or value. -/
inductive Store.Defies (st : Store) (run : Runner) (v : Value) (u : TypeForm) : Failure → Prop
  | float {k : ErrorKind} : u = .builtin .float → st.Adapts v u → st.LacksFloat v k →
      Defies st run v u (.fault k)
  | complex {a : Atom} {k : ErrorKind} : u = .builtin .complex → st.Adapts v u →
      st.numeral? v = some a → a.Unreadable k → Defies st run v u (.fault k)
  | int : u = .builtin .int → st.Adapts v u → st.index? v = none → Defies st run v u (.fault .typeError)
  | array {f : Failure} : st.isArrayType u = true → st.Adapts v u → run.arrayOf st v = .error f →
      f.isA .typeError = false → f.isA .valueError = false → Defies st run v u f

/-- The class of a value takes no part in what is made of it: it has no methods for numbers, and does not
answer which class it is. -/
structure Store.TakesNoPart (st : Store) (v : Value) : Prop extends st.ShowsClass v where
  methods : st.HasNoNumberMethods v

/-! ## §3  How conversions fail -/

/-- **The ways in which a conversion fails**: it refuses the value, a leaf is defied, or testing the value
for the class of a leaf fails. -/
inductive Value.FailsOn (v : Value) (run : Runner) (st : Store) (I : Store → Prop) (place : String)
    (leaves : List TypeForm) : Failure → Prop
  | refused {e : String} : FailsOn v run st I place leaves (.argumentMismatch place e (st.valueTypeName v))
  | defied {st₁ : Store} {u : TypeForm} {f : Failure} : I st₁ → u ∈ leaves → st₁.Defies run v u f →
      FailsOn v run st I place leaves f
  | look {st₁ : Store} {u : TypeForm} {k : ClassRef} {f : Failure} : I st₁ → u ∈ leaves →
      u.runtimeClass? = some k → st.isUntestable k = false →
      ((v.isInstance k).perform run st₁).1 = .error f → FailsOn v run st I place leaves f

/-- Testing a value for a class leaves stores that keep to an invariant. -/
def Value.TestKeeps (v : Value) (run : Runner) (I : Store → Prop) (k : ClassRef) : Prop :=
  ∀ st, I st → I ((v.isInstance k).perform run st).2

/-- Testing a value for the classes of a type leaves stores that keep to an invariant. -/
def Value.LooksKeep (v : Value) (run : Runner) (st : Store) (I : Store → Prop) (t : TypeForm) : Prop :=
  ∀ u ∈ t.leaves, ∀ k, u.runtimeClass? = some k → st.isUntestable k = false → v.TestKeeps run I k

section
variable {run : Runner} {I : Store → Prop} {st st₁ st' : Store} {v : Value} {t u : TypeForm}
  {c : Converter} {place : String} {f : Failure} {k : ErrorKind}

theorem Value.FailsOn.mono {us us' : List TypeForm} (h : v.FailsOn run st I place us f)
    (hsub : ∀ u ∈ us, u ∈ us') : v.FailsOn run st I place us' f := by
  cases h with
  | refused => exact .refused
  | defied h₁ hu hk => exact .defied h₁ (hsub _ hu) hk
  | look h₁ hu hk htest hf => exact .look h₁ (hsub _ hu) hk htest hf

theorem Store.Retains.valueTypeName (h : st.Retains v st₁) :
    st₁.valueTypeName v = st.valueTypeName v := by
  unfold Store.valueTypeName
  rw [h.classOf]
  cases st.classOf v with
  | builtin b => cases b <;> rfl
  | user i => exact congrArg ClassInfo.qualifiedName (congrFun (classInfo_congr h.classes) i)

theorem Store.Retains.isArrayType (h : st.Retains v st₁) : st₁.isArrayType u = st.isArrayType u := by
  unfold Store.isArrayType
  rw [descends_congr h.classes]

theorem Store.Retains.hasNoNumberMethods (h : st.Retains v st₁) (hv : st.HasNoNumberMethods v) :
    st₁.HasNoNumberMethods v :=
  fun n hn => (h.specialMethod? n).trans (hv n hn)

/-- A refusal is worded by the class that the value is of. -/
theorem Value.failsOn_refuse {us : List TypeForm} {e : String} (hst₁ : st.Retains v st₁)
    (h : (v.refuse place e : Action Value).perform run st₁ = (.error f, st')) :
    st' = st₁ ∧ v.FailsOn run st I place us f := by
  cases h
  refine ⟨rfl, ?_⟩
  rw [hst₁.valueTypeName]
  exact .refused

/-- What a handler that refuses lets through is no failure of the kinds that it refuses. -/
theorem Value.perform_orRefuse_error {α : Type} {e : String} {kinds : List ErrorKind} {y : Action α}
    (h : (v.orRefuse place e kinds y).perform run st₁ = (.error f, st')) :
    (∃ g st₂, y.perform run st₁ = (.error g, st₂) ∧ kinds.any g.isA = true ∧
        (v.refuse place e : Action α).perform run st₂ = (.error f, st')) ∨
      y.perform run st₁ = (.error f, st') ∧ kinds.any f.isA = false := by
  rw [orRefuse, perform_tryCatch] at h
  rcases hy : y.perform run st₁ with ⟨g | a, st₂⟩
  · rw [hy] at h
    simp only at h
    split at h
    case isTrue hg => exact .inl ⟨g, st₂, rfl, hg, h⟩
    case isFalse hg =>
      cases h
      exact .inr ⟨rfl, Bool.eq_false_iff.mpr hg⟩
  · rw [hy] at h
    cases h

/-- A failure of a conversion in place: the value is refused, or defies a leaf. -/
inductive Value.FailsInPlace (v : Value) (run : Runner) (st : Store) (place : String) (u : TypeForm) :
    Failure × Store → Prop
  | refused {e : String} {f : Failure} {st' : Store} :
      (v.refuse place e : Action Value).perform run st = (.error f, st') →
      FailsInPlace v run st place u (f, st')
  | defied {f : Failure} : st.Defies run v u f → FailsInPlace v run st place u (f, st)

theorem Value.failsInPlace_convertFloat (hv : st.HasNoNumberMethods v)
    (h : (v.convertFloat place).perform run st = (.error f, st')) :
    v.FailsInPlace run st place (.builtin .float) (f, st') := by
  rw [convertFloat, perform_bind_get] at h
  split at h
  · cases h
  case isFalse hfloat =>
    split at h
    case isTrue hreal =>
      rcases @Store.perform_toFloat_cases run st v hv with ⟨x, hx⟩ | ⟨k, hk, hfault⟩
      · rw [perform_bind_ok hx] at h
        cases h
      · rw [perform_bind_error hfault] at h
        cases h
        exact .defied (.float rfl (.float rfl (Bool.eq_false_iff.mpr hfloat) hreal) hk)
    · exact .refused h

theorem Value.failsInPlace_convertComplex (hv : st.HasNoNumberMethods v)
    (h : (v.convertComplex place).perform run st = (.error f, st')) :
    v.FailsInPlace run st place (.builtin .complex) (f, st') := by
  rw [convertComplex, perform_bind_get] at h
  split at h
  · cases h
  case isFalse hcomplex =>
    split at h
    case isTrue hnumber =>
      rcases @Store.perform_toComplex_cases run st v hv with ⟨z, hz⟩ | hfault | ⟨a, k, ha, hk, hfault⟩
      · rw [orRefuse_ok (perform_bind_ok hz)] at h
        cases h
      · rcases perform_orRefuse_error h with ⟨g, st₂, hg, -, hr⟩ | ⟨hfails, hkind⟩
        · rw [perform_bind_error hfault] at hg
          cases hg
          exact .refused hr
        · rw [perform_bind_error hfault] at hfails
          cases hfails
          cases hkind
      · rcases perform_orRefuse_error h with ⟨g, st₂, hg, -, hr⟩ | ⟨hfails, hkind⟩
        · rw [perform_bind_error hfault] at hg
          cases hg
          exact .refused hr
        · rw [perform_bind_error hfault] at hfails
          cases hfails
          exact .defied (.complex rfl (.complex rfl (Bool.eq_false_iff.mpr hcomplex) hnumber) ha hk)
    · exact .refused h

theorem Value.failsInPlace_convertInt (hv : st.HasNoNumberMethods v)
    (h : (v.convertInt place).perform run st = (.error f, st')) :
    v.FailsInPlace run st place (.builtin .int) (f, st') := by
  rw [convertInt, perform_bind_get] at h
  split at h
  · cases h
  case isFalse hint =>
    split at h
    case isTrue hindex =>
      have hrun := @Store.perform_toIndex run st v hv
      cases hn : st.index? v with
      | some n =>
        rw [hn] at hrun
        rw [perform_bind_ok hrun] at h
        cases h
      | none =>
        rw [hn] at hrun
        rw [perform_bind_error hrun] at h
        cases h
        exact .defied (.int rfl (.int rfl (Bool.eq_false_iff.mpr hint) hindex) hn)
    · exact .refused h

/-- A value that is no array is made one by the array library. -/
theorem Value.perform_asArray (h : st.classOf v ≠ .builtin .arrayValue) :
    v.asArray.perform run st = match run.arrayOf st v with
      | .ok c => (allocateBuiltin .arrayValue (.array c)).perform run st
      | .error f => (.error f, st) := by
  have hcontent : (arrayContent v).perform run st = (run.arrayOf st v, st) := rfl
  unfold asArray
  rw [perform_bind_get, if_neg h, perform_bind, hcontent]
  cases run.arrayOf st v <;> rfl

theorem Value.failsInPlace_convertArray (hu : st.isArrayType u = true)
    (h : (v.convertArray place).perform run st = (.error f, st')) :
    v.FailsInPlace run st place u (f, st') := by
  rw [convertArray, perform_bind_get] at h
  split at h
  · cases h
  case isFalse hclass =>
    split at h
    · exact .refused h
    case isFalse hother =>
      simp only [Bool.or_eq_true, decide_eq_true_eq, not_or, Bool.not_eq_true] at hother
      have hmade := @perform_asArray run st v hclass
      cases hcontent : run.arrayOf st v with
      | ok content =>
        rw [hcontent] at hmade
        rw [orRefuse_ok hmade] at h
        cases h
      | error g =>
        rw [hcontent] at hmade
        rcases perform_orRefuse_error h with ⟨g', st₂, hg, -, hr⟩ | ⟨hfails, hkind⟩
        · rw [hmade] at hg
          cases hg
          exact .refused hr
        · rw [hmade] at hfails
          cases hfails
          -- what is over a wrong type or value is refused
          simp only [List.any_cons, List.any_nil, Bool.or_false, Bool.or_eq_false_iff] at hkind
          exact .defied (.array hu (.array hu hclass hother.1.1 hother.1.2 hother.2) hcontent hkind.1 hkind.2)

/-- **How the converter of a leaf fails**, and that it leaves what the test for the class leaves. -/
theorem Store.PlainConverter.failsOn (hc : st.PlainConverter u (some c))
    (hretains : ∀ st₁, I st₁ → st.Retains v st₁) (hv : st.HasNoNumberMethods v)
    (htests : ∀ k ∈ c.tested, v.TestKeeps run I k) (h₁ : I st₁)
    (h : (c.apply v place).perform run st₁ = (.error f, st')) :
    I st' ∧ v.FailsOn run st I place [u] f := by
  have hst₁ := hretains st₁ h₁
  have hv₁ := hst₁.hasNoNumberMethods hv
  have hinPlace (hfails : v.FailsInPlace run st₁ place u (f, st')) :
      I st' ∧ v.FailsOn run st I place [u] f := by
    cases hfails with
    | refused hr =>
      obtain ⟨rfl, hfails⟩ : st' = st₁ ∧ v.FailsOn run st I place [u] f := Value.failsOn_refuse hst₁ hr
      exact ⟨h₁, hfails⟩
    | defied hk => exact ⟨h₁, .defied h₁ (List.mem_singleton_self _) hk⟩
  cases hc with
  | absent =>
    rw [Converter.apply] at h
    split at h
    · cases h
    · exact hinPlace (.refused h)
  | float ht =>
    subst ht
    rw [Converter.apply] at h
    exact hinPlace (Value.failsInPlace_convertFloat hv₁ h)
  | complex ht =>
    subst ht
    rw [Converter.apply] at h
    exact hinPlace (Value.failsInPlace_convertComplex hv₁ h)
  | int ht =>
    subst ht
    rw [Converter.apply] at h
    exact hinPlace (Value.failsInPlace_convertInt hv₁ h)
  | array harray =>
    rw [Converter.apply] at h
    exact hinPlace (Value.failsInPlace_convertArray (hst₁.isArrayType.trans harray) h)
  | «instance» hclass htest =>
    rw [Converter.apply, Value.convertInstance, perform_bind] at h
    have hkept := htests _ (List.mem_singleton_self _) st₁ h₁
    rcases hrun : (v.isInstance _).perform run st₁ with ⟨g | b, st₂⟩
    · rw [hrun] at h hkept
      cases h
      exact ⟨hkept, .look h₁ (List.mem_singleton_self _) hclass htest (by rw [hrun])⟩
    · rw [hrun] at h hkept
      cases b with
      | true => cases h
      | false =>
        obtain ⟨rfl, hfails⟩ : st' = st₂ ∧ v.FailsOn run st I place [u] f :=
          Value.failsOn_refuse (hretains st₂ hkept) h
        exact ⟨hkept, hfails⟩

/-- Several tests fail as one of them does, and leave what it leaves. -/
theorem Value.tame_tests {ks : List ClassRef} (htests : ∀ k ∈ ks, v.TestKeeps run I k) (h₁ : I st₁) :
    Tame run run I (fun f => ∃ k ∈ ks, ∃ st₂, I st₂ ∧ ((v.isInstance k).perform run st₂).1 = .error f)
      (v.isInstanceOfSome ks) st₁ :=
  tame_isInstanceOfSome h₁ fun k hk st₂ h₂ => ⟨rfl, htests k hk st₂ h₂, fun _ hf => ⟨k, hk, st₂, h₂, hf⟩⟩

/-- Several converters fail as one of them does, or refuse. -/
theorem Converter.failsOn_applyFirst {us : List TypeForm} {cs : List Converter} {e : String}
    (hretains : ∀ st₁, I st₁ → st.Retains v st₁)
    (h : ∀ c ∈ cs, ∀ st₁, I st₁ → ∀ f st', (c.apply v place).perform run st₁ = (.error f, st') →
      I st' ∧ v.FailsOn run st I place us f)
    (h₁ : I st₁) (hfirst : (applyFirst cs v place e).perform run st₁ = (.error f, st')) :
    I st' ∧ v.FailsOn run st I place us f := by
  induction cs generalizing st₁ with
  | nil =>
    rw [applyFirst] at hfirst
    obtain ⟨rfl, hfails⟩ : st' = st₁ ∧ v.FailsOn run st I place us f :=
      Value.failsOn_refuse (hretains st₁ h₁) hfirst
    exact ⟨h₁, hfails⟩
  | cons c cs ih =>
    rw [applyFirst, perform_tryCatch] at hfirst
    rcases hc : (c.apply v place).perform run st₁ with ⟨g | w, st₂⟩
    · obtain ⟨h₂, hfails⟩ := h c (by simp) st₁ h₁ g st₂ hc
      rw [hc] at hfirst
      simp only at hfirst
      split at hfirst
      · exact ih (fun c' hc' => h c' (by simp [hc'])) h₂ hfirst
      · cases hfirst
        exact ⟨h₂, hfails⟩
    · rw [hc] at hfirst
      cases hfirst

/-- What keeps to the invariant for a union does so for its members. -/
theorem Value.LooksKeep.of_mem {i : Mark} {w : UnionSpelling} {ts : List TypeForm}
    (h : v.LooksKeep run st I t) (htn : t.normalize = .union i w ts) (hu : u ∈ ts) :
    v.LooksKeep run st I u :=
  fun u' hu' => h u' (TypeForm.mem_leaves_of_member htn hu hu')

/-- The tests of the converter of a type are those for the classes of the type, and one that touches
nothing. -/
theorem Value.LooksKeep.tested (h : v.LooksKeep run st I t) (ho : st.Ordered)
    (hc : st.converter? [] t = some c) : ∀ k ∈ c.tested, v.TestKeeps run I k := by
  intro k hk st₁ h₁
  rcases Store.class_of_tested ho hc hk with rfl | ⟨u, hu, hclass, htest⟩
  · rw [perform_isInstance_eq_names rfl (by decide)]
    exact h₁
  · exact h u hu k hclass htest st₁ h₁

/-- A test that fails is one for the class of a leaf. -/
theorem Value.failsOn_of_tested {k : ClassRef} (ho : st.Ordered) (hc : st.converter? [] t = some c)
    (hk : k ∈ c.tested) (h₁ : I st₁) (hf : ((v.isInstance k).perform run st₁).1 = .error f) :
    v.FailsOn run st I place t.leaves f := by
  rcases Store.class_of_tested ho hc hk with rfl | ⟨u, hu, hclass, htest⟩
  · rw [perform_isInstance_eq_names rfl (by decide)] at hf
    cases hf
  · exact .look h₁ hu hclass htest hf

/-- **How the converter of a type fails**, by induction over its unions. -/
theorem Store.failsOn_of_converter? (ho : st.Ordered) (hretains : ∀ st₁, I st₁ → st.Retains v st₁)
    (hv : st.HasNoNumberMethods v) (hlooks : v.LooksKeep run st I t) (hc : st.converter? [] t = some c)
    (h₁ : I st₁) (h : (c.apply v place).perform run st₁ = (.error f, st')) :
    I st' ∧ v.FailsOn run st I place t.leaves f := by
  induction t using TypeForm.induction_leaves generalizing c st₁ f st' with
  | plain t ht =>
    obtain ⟨-, hplain⟩ := plainConverter_of_converter? ht hc
    rw [TypeForm.leaves_of_plain ht]
    exact hplain.failsOn hretains hv (hlooks.tested ho hc) h₁ h
  | union t i w ts htn ih =>
    obtain ⟨cs, e, hcs, rfl⟩ := exists_of_converter?_union htn hc
    have hlook := Value.tame_tests (fun k hk => hlooks.tested ho hc k (List.mem_append_left _ hk)) h₁
    have hkept := hlook.keeps
    have hfailed := hlook.fails
    rw [Converter.apply, perform_bind] at h
    rcases hrun : (v.isInstanceOfSome (ts.filterMap TypeForm.runtimeClass?)).perform run st₁ with
      ⟨g | b, st₂⟩
    · rw [hrun] at h hkept hfailed
      cases h
      obtain ⟨k, hk, st₃, h₃, hf⟩ := hfailed f rfl
      exact ⟨hkept, Value.failsOn_of_tested ho hc (List.mem_append_left _ hk) h₃ hf⟩
    · rw [hrun] at h hkept
      cases b with
      | true => cases h
      | false =>
        refine Converter.failsOn_applyFirst hretains ?_ hkept h
        intro c' hc' st₃ h₃ g st₄ hg
        obtain ⟨u, hu, hconverter⟩ := (mem_converters? hcs).1 c' hc'
        obtain ⟨h₄, hfails⟩ := ih u hu (hlooks.of_mem htn hu) hconverter h₃ hg
        exact ⟨h₄, hfails.mono fun u' hu' => TypeForm.mem_leaves_of_member htn hu hu'⟩

theorem Value.failsOn_of_coerce (ho : st.Ordered) (hstart : I st)
    (hretains : ∀ st₁, I st₁ → st.Retains v st₁) (hv : st.HasNoNumberMethods v)
    (hlooks : v.LooksKeep run st I t) (h : (v.coerce [] t place).perform run st = (.error f, st')) :
    I st' ∧ v.FailsOn run st I place t.leaves f := by
  unfold coerce at h
  rw [perform_bind_get] at h
  cases hc : st.converter? [] t with
  | none =>
    rw [hc] at h
    cases h
  | some c =>
    rw [hc] at h
    exact Store.failsOn_of_converter? ho hretains hv hlooks hc hstart h

/-! ## §4  What defies a type -/

theorem Store.adapts_float : st.Adapts v (.builtin .float) ↔
    st.isBuiltinInstance v .float = false ∧ st.isBuiltinInstance v .realNumber = true := by
  constructor
  · rintro (⟨-, hno, hreal⟩ | ⟨h, -⟩ | ⟨h, -⟩ | ⟨h, -⟩)
    · exact ⟨hno, hreal⟩
    all_goals cases h
  · exact fun h => .float rfl h.1 h.2

theorem Store.adapts_complex : st.Adapts v (.builtin .complex) ↔
    st.isBuiltinInstance v .complex = false ∧ st.isBuiltinInstance v .number = true := by
  constructor
  · rintro (⟨h, -⟩ | ⟨-, hno, hnumber⟩ | ⟨h, -⟩ | ⟨h, -⟩)
    · cases h
    · exact ⟨hno, hnumber⟩
    all_goals cases h
  · exact fun h => .complex rfl h.1 h.2

theorem Store.adapts_int : st.Adapts v (.builtin .int) ↔
    st.isBuiltinInstance v .int = false ∧ st.classHas v "__index__" = true := by
  constructor
  · rintro (⟨h, -⟩ | ⟨h, -⟩ | ⟨-, hno, hindex⟩ | ⟨h, -⟩)
    · cases h
    · cases h
    · exact ⟨hno, hindex⟩
    · cases h
  · exact fun h => .int rfl h.1 h.2

theorem Store.adapts_array (hu : st.isArrayType u = true) : st.Adapts v u ↔
    st.classOf v ≠ .builtin .arrayValue ∧ v ≠ .nothing ∧ st.isBuiltinInstance v .str = false ∧
      st.isBuiltinInstance v .bytes = false := by
  constructor
  · rintro (⟨rfl, -⟩ | ⟨rfl, -⟩ | ⟨rfl, -⟩ | ⟨-, hclass, hnothing, hstr, hbytes⟩)
    · cases hu
    · cases hu
    · cases hu
    · exact ⟨hclass, hnothing, hstr, hbytes⟩
  · exact fun h => .array hu h.1 h.2.1 h.2.2.1 h.2.2.2

/-- A class of arrays is no class of numbers, and takes not anything. -/
theorem Store.plainConverter?_of_isArrayType (ho : st.Ordered) (hu : st.isArrayType u = true) :
    u.isAny = false ∧ st.plainConverter? u = some .array := by
  refine ⟨?_, by rw [plainConverter?, if_pos hu]⟩
  rcases exists_of_isArrayType ho hu with rfl | rfl <;> rfl

/-- **A value that defies a leaf has the conversion for it end with that fault.** -/
theorem Store.Defies.perform_coerce (hk : st.Defies run v t.normalize f) (ho : st.Ordered)
    (hv : st.HasNoNumberMethods v) (ht : t.normalize.isUnion = false) :
    (v.coerce [] t place).perform run st = (.error f, st) := by
  have hchosen {c : Converter} (hany : t.normalize.isAny = false)
      (hc : st.plainConverter? t.normalize = some c) :
      (v.coerce [] t place).perform run st = (c.apply v place).perform run st := by
    unfold Value.coerce
    rw [perform_bind_get, Store.converter?_of_plain hany rfl ht, hc]
  cases hk with
  | float hu hadapts hlacks =>
    rw [hu] at hadapts
    obtain ⟨hno, hreal⟩ := adapts_float.mp hadapts
    rw [hchosen (by rw [hu]; rfl) (by rw [hu]; rfl), Converter.apply, Value.convertFloat, perform_bind_get,
      hno, hreal]
    exact perform_bind_error (hlacks.perform_toFloat hv)
  | complex hu hadapts ha hread =>
    rw [hu] at hadapts
    obtain ⟨hno, hnumber⟩ := adapts_complex.mp hadapts
    rw [hchosen (by rw [hu]; rfl) (by rw [hu]; rfl), Converter.apply, Value.convertComplex,
      perform_bind_get, hno, hnumber]
    refine Value.orRefuse_error (perform_bind_error (perform_toComplex_of_unreadable hv ha hread)) ?_
    cases hread <;> rfl
  | int hu hadapts hnone =>
    rw [hu] at hadapts
    obtain ⟨hno, hindex⟩ := adapts_int.mp hadapts
    rw [hchosen (by rw [hu]; rfl) (by rw [hu]; rfl), Converter.apply, Value.convertInt, perform_bind_get,
      hno, hindex]
    refine perform_bind_error ?_
    rw [perform_toIndex hv, hnone]
  | array hu hadapts hcontent htype hvalue =>
    obtain ⟨hany, hc⟩ := plainConverter?_of_isArrayType ho hu
    obtain ⟨hclass, hnothing, hstr, hbytes⟩ := (adapts_array hu).mp hadapts
    rw [hchosen hany hc, Converter.apply, Value.convertArray, perform_bind_get, if_neg hclass]
    simp only [hnothing, decide_false, hstr, hbytes, Bool.or_self, Bool.false_eq_true, if_false]
    refine Value.orRefuse_error ?_ (by simp [htype, hvalue])
    rw [Value.perform_asArray hclass, hcontent]

/-- **The integers that defy a leaf** are those beyond the greatest float, where a float or a complex number
is wanted, and those of more than 32 bits, where an array of such numbers is made. -/
theorem Store.defies_integer {n : Int} (hrun : run.arrayOf = ArrayContent.ofValue) :
    st.Defies run (.int n) u f ↔ f = .fault .overflowError ∧
      ((u = .builtin .float ∨ u = .builtin .complex) ∧ Double.ofInt n = none ∨
        st.isArrayType u = true ∧ ¬ (-0x80000000 ≤ n ∧ n < 0x80000000)) := by
  have hcontent : run.arrayOf st (.int n) =
      if -0x80000000 ≤ n && n < 0x80000000 then .ok ⟨.int32, [], [.int n]⟩
      else .error (.fault .overflowError) := by
    rw [hrun]
    change (ArrayContent.element32 .integer (.int n) >>= fun a => pure [a] : Outcome (List Atom)) >>= _ = _
    simp only [ArrayContent.element32]
    split <;> rfl
  constructor
  · rintro (⟨hu, -, hread⟩ | ⟨hu, -, ha, hread⟩ | ⟨hu, hadapts, -⟩ | ⟨hu, -, hfault, -, -⟩)
    · cases hread with
      | numberless hnone => cases hnone
      | unreadable ha hread =>
        cases ha
        cases hread with
        | integer hn => exact ⟨rfl, .inl ⟨.inl hu, hn⟩⟩
    · cases ha
      cases hread with
      | integer hn => exact ⟨rfl, .inl ⟨.inr hu, hn⟩⟩
    · rw [hu] at hadapts
      cases (adapts_int.mp hadapts).1
    · rw [hcontent] at hfault
      split at hfault
      case isTrue => cases hfault
      case isFalse hwide =>
        cases hfault
        exact ⟨rfl, .inr ⟨hu, by simpa using hwide⟩⟩
  · rintro ⟨rfl, ⟨rfl | rfl, hn⟩ | ⟨hu, hn⟩⟩
    · exact .float rfl (adapts_float.mpr ⟨rfl, rfl⟩) (.unreadable rfl (.integer hn))
    · exact .complex rfl (adapts_complex.mpr ⟨rfl, rfl⟩) rfl (.integer hn)
    · refine .array hu ((adapts_array hu).mpr ⟨nofun, nofun, rfl, rfl⟩) ?_ rfl rfl
      rw [hcontent, if_neg (by simpa using hn)]

/-! ## §5  The two ends that are meant -/

/-- A conversion ends as it is meant to: it gives a value, or refuses the one that it was given. -/
def Value.GivesOrIsRefused (v : Value) (t : TypeForm) (place : String) (run : Runner) (st : Store) :
    Prop :=
  (∃ w st', (v.coerce [] t place).perform run st = (.ok w, st')) ∨
    ∃ e st', (v.coerce [] t place).perform run st =
      (.error (.argumentMismatch place e (st.valueTypeName v)), st')

/-- What is no refusal is none of the ends that are meant. -/
theorem Value.not_givesOrIsRefused (h : (v.coerce [] t place).perform run st = (.error f, st'))
    (hf : f.isA .argumentTypeMismatch = false) : ¬ v.GivesOrIsRefused t place run st := by
  rintro (⟨w, st₁, hrun⟩ | ⟨e, st₁, hrun⟩)
  · rw [h] at hrun
    cases hrun
  · rw [h] at hrun
    cases hrun
    cases hf

/-- A value that defies a leaf is not refused. -/
theorem Store.Defies.isA_argumentTypeMismatch (h : st.Defies run v u f) :
    f.isA .argumentTypeMismatch = false := by
  cases h with
  | float _ _ hlacks => cases hlacks with
    | numberless _ => rfl
    | unreadable _ hread => cases hread <;> rfl
  | complex _ _ _ hread => cases hread <;> rfl
  | int => rfl
  | array _ _ _ htype _ =>
    rw [Bool.eq_false_iff] at htype ⊢
    exact fun hrefused => htype (Failure.isA_typeError hrefused)

/-- A store retains what it knows. -/
theorem Store.retains_of_eq (hknown : st.Knows v) : ∀ st₁, st₁ = st → st.Retains v st₁ := by
  rintro _ rfl
  exact ⟨rfl, rfl, rfl, rfl, hknown⟩

/-- Where classes are tested by ancestry and registration the tests keep everything. -/
theorem Value.looksKeep_of_plain (hretains : ∀ st₁, I st₁ → st.Retains v st₁) (ht : t.TestedPlainly st) :
    v.LooksKeep run st I t := by
  intro u hu k hk _ st₁ h₁
  obtain ⟨hplain, hany⟩ := ht u hu k hk
  rw [perform_isInstance_eq_names ((hretains st₁ h₁).testsMembers.trans hplain) hany]
  exact h₁

end

namespace WideInteger

/-- What the runner is for a call. -/
abbrev runner : Runner := runFunction callDepth

/-- Arrays and floats. -/
def arrayOrFloat : TypeForm := .union 0 .subscript [.builtin .array, .builtin .float]

theorem leaves_arrayOrFloat : arrayOrFloat.leaves = [.builtin .array, .builtin .float] := by
  rw [TypeForm.leaves_of_union rfl]
  simp

theorem testedPlainly_arrayOrFloat : arrayOrFloat.TestedPlainly .empty := by
  intro u hu c hc
  rw [leaves_arrayOrFloat, List.mem_cons, List.mem_singleton] at hu
  rcases hu with rfl | rfl <;> cases hc <;> exact ⟨rfl, by decide⟩

/-- The integers that need more than 32 bits defy arrays. -/
theorem defies_array : Store.empty.Defies runner (.int (2 ^ 31)) (.builtin .array) (.fault .overflowError) :=
  (Store.defies_integer rfl).mpr ⟨rfl, .inr ⟨rfl, by decide⟩⟩

/-- No class is declared, so that none takes part in anything. -/
theorem takesNoPart_integer {n : Int} : Store.empty.TakesNoPart (.int n) where
  knows := nofun
  answer _ := Store.overrides_of_entries nofun
  hook _ := rfl
  methods := Store.hasNoNumberMethods_of_builtin rfl

end WideInteger

end MemberAccess
