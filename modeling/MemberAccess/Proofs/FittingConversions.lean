import MemberAccess.Proofs.DirectUse
import MemberAccess.Proofs.FittingValues

/-!
# Conversions and values that fit

What the converter of a type gives fits the type (`Store.fits_of_convert`), and where a type has no
converter everything fits it (`Store.fits_of_no_converter`).  The tests that converters make are instance
tests, and the test for a protocol may run code of the value.  So what a converter gives is an instance of
a class as far as the last test says, which is all that can be known: `Value.SeenAs`.

Of a type that need not be formed properly a little less can be said (`Store.givenFor_of_convert`).  A union
inside a union may have the class of union objects, and then lets these pass.

Conversely a value that fits a type is kept by the converter as it is (`Store.keeps_of_fits`), where the
members of the type are no unions themselves.

What added rules do is up to whoever adds them.  `RulesFit` says that what they give fits the types that
they are for.
-/

namespace MemberAccess

open MemberAccess.Action

/-! ## §1  Instances as far as tests say -/

/-- A value is an instance of a class as far as tests say: the test for the class passes, or the class is
a protocol and the test has just passed, leaving the store as it is. -/
inductive Value.SeenAs (v : Value) (run : Runner) (st : Store) (c : ClassRef) : Prop
  | now : v.IsOf run st c → SeenAs v run st c
  | just {st' : Store} : st'.isProtocol c = true →
      (v.isInstance c).perform run st' = (.ok true, st) → SeenAs v run st c

section
variable {run : Runner} {st st' : Store} {v w : Value} {c : ClassRef} {b : Builtin} {place : String}

/-- What has just passed the test for a class is an instance of it as far as tests say. -/
theorem Value.seenAs_of_perform (h : (v.isInstance c).perform run st = (.ok true, st')) :
    v.SeenAs run st' c := by
  cases hp : st.isProtocol c with
  | true => exact .just hp h
  | false =>
    have hsame : ((v.isInstance c).perform run st).2 = st := perform_isInstance_of_plain hp
    rw [h] at hsame
    subst hsame
    exact .now (congrArg Prod.fst h)

/-- What the tests for a built-in class that is no protocol say goes on being true. -/
theorem Value.SeenAs.isOf_of_builtin (h : v.SeenAs run st (.builtin b)) (hb : b ≠ .protocol) :
    v.IsOf run st (.builtin b) := by
  cases h with
  | now h => exact h
  | just hp => simp [Store.isProtocol, hb] at hp

/-- Where members do not count, an instance of a class is what names it. -/
theorem Value.isOf_iff_names (h : st.testsMembers c = false) (hany : c ≠ .builtin .any) :
    v.IsOf run st c ↔ st.names (st.classOf v) c = true := by
  rw [IsOf, perform_isInstance_eq_names h hany]
  exact ⟨Except.ok.inj, congrArg _⟩

theorem Store.isBuiltinInstance_eq_names (h : st.testsMembers (.builtin b) = false) :
    st.isBuiltinInstance v b = st.names (st.classOf v) (.builtin b) := by
  rw [isBuiltinInstance, subclassTest_of_plain h]

/-- An instance of a built-in class that is tested by ancestry and registration. -/
theorem Value.isOf_iff_isBuiltinInstance (h : st.testsMembers (.builtin b) = false) (hany : b ≠ .any) :
    v.IsOf run st (.builtin b) ↔ st.isBuiltinInstance v b = true := by
  rw [isOf_iff_names h (by simpa using hany), Store.isBuiltinInstance_eq_names h]

/-! ## §2  What the built-in conversions give -/

namespace Value

theorem not_perform_refuse {α : Type} {e : String} {a : α} :
    (v.refuse place e : Action α).perform run st ≠ (.ok a, st') := nofun

/-- What is given in spite of a handler that refuses was given by the action itself. -/
theorem perform_of_orRefuse {α : Type} {e : String} {kinds : List ErrorKind} {y : Action α} {a : α}
    (h : (v.orRefuse place e kinds y).perform run st = (.ok a, st')) : y.perform run st = (.ok a, st') := by
  rw [orRefuse, perform_tryCatch] at h
  rcases hy : y.perform run st with ⟨f | a', st''⟩
  · rw [hy] at h
    simp only at h
    split at h
    · exact absurd h not_perform_refuse
    · cases h
  · rw [hy] at h
    exact h

theorem isOf_of_convertFloat (h : (v.convertFloat place).perform run st = (.ok w, st')) :
    w.IsOf run st' (.builtin .float) := by
  unfold convertFloat at h
  rw [perform_bind_get] at h
  split at h
  case isTrue hv =>
    cases h
    exact (isOf_iff_isBuiltinInstance rfl (by decide)).mpr hv
  case isFalse =>
    split at h
    case isTrue =>
      obtain ⟨x, st'', -, h⟩ := exists_of_perform_bind h
      cases h
      rfl
    case isFalse => cases h

theorem isOf_of_convertComplex (h : (v.convertComplex place).perform run st = (.ok w, st')) :
    w.IsOf run st' (.builtin .complex) := by
  unfold convertComplex at h
  rw [perform_bind_get] at h
  split at h
  case isTrue hv =>
    cases h
    exact (isOf_iff_isBuiltinInstance rfl (by decide)).mpr hv
  case isFalse =>
    split at h
    case isTrue =>
      obtain ⟨x, st'', -, h⟩ := exists_of_perform_bind (perform_of_orRefuse h)
      cases h
      rfl
    case isFalse => cases h

theorem isOf_of_convertInt (h : (v.convertInt place).perform run st = (.ok w, st')) :
    w.IsOf run st' (.builtin .int) := by
  unfold convertInt at h
  rw [perform_bind_get] at h
  split at h
  case isTrue hv =>
    cases h
    exact (isOf_iff_isBuiltinInstance rfl (by decide)).mpr hv
  case isFalse =>
    split at h
    case isTrue =>
      obtain ⟨x, st'', -, h⟩ := exists_of_perform_bind h
      cases h
      rfl
    case isFalse => cases h

/-- What is made an array is of the class of arrays. -/
theorem classOf_of_asArray (h : v.asArray.perform run st = (.ok w, st')) :
    st'.classOf w = .builtin .arrayValue := by
  unfold asArray at h
  rw [perform_bind_get] at h
  split at h
  case isTrue hv =>
    cases h
    exact hv
  case isFalse =>
    obtain ⟨c, st'', -, h⟩ := exists_of_perform_bind h
    cases h
    simp [Store.classOf, Store.object]

theorem classOf_of_convertArray (h : (v.convertArray place).perform run st = (.ok w, st')) :
    st'.classOf w = .builtin .arrayValue := by
  unfold convertArray at h
  rw [perform_bind_get] at h
  split at h
  case isTrue hv =>
    cases h
    exact hv
  case isFalse =>
    split at h
    case isTrue => cases h
    case isFalse => exact classOf_of_asArray (perform_of_orRefuse h)

end Value

/-- A value that some class of several is tested for successfully has passed the test for one of them. -/
theorem Value.exists_of_isInstanceOfSome {cs : List ClassRef}
    (h : (v.isInstanceOfSome cs).perform run st = (.ok true, st')) :
    ∃ c ∈ cs, v.SeenAs run st' c := by
  induction cs generalizing st with
  | nil => cases h
  | cons c cs ih =>
    rw [isInstanceOfSome] at h
    obtain ⟨b, st'', htest, h⟩ := exists_of_perform_bind h
    cases b with
    | true =>
      cases h
      exact ⟨c, by simp, seenAs_of_perform htest⟩
    | false =>
      obtain ⟨c', hc', hseen⟩ := ih h
      exact ⟨c', by simp [hc'], hseen⟩

/-- What the first of several converters gives that does not refuse is given by one of them, in a store
that those before it leave. -/
theorem Converter.exists_of_applyFirst {I : Store → Prop} {cs : List Converter} {e : String}
    (hkeeps : ∀ c ∈ cs, ∀ st, I st → I ((c.apply v place).perform run st).2) (hst : I st)
    (h : (applyFirst cs v place e).perform run st = (.ok w, st')) :
    ∃ c ∈ cs, ∃ st'', I st'' ∧ (c.apply v place).perform run st'' = (.ok w, st') := by
  induction cs generalizing st with
  | nil =>
    rw [applyFirst] at h
    exact absurd h Value.not_perform_refuse
  | cons c cs ih =>
    rw [applyFirst, perform_tryCatch] at h
    have hkept := hkeeps c (by simp) st hst
    rcases hc : (c.apply v place).perform run st with ⟨f | w', st''⟩
    · rw [hc] at h hkept
      simp only at h
      split at h
      · obtain ⟨c', hc', happly⟩ := ih (fun c' hc' => hkeeps c' (by simp [hc'])) hkept h
        exact ⟨c', by simp [hc'], happly⟩
      · cases h
    · rw [hc] at h
      cases h
      exact ⟨c, by simp, st, hst, hc⟩

end

/-! ## §3  What converters give fits -/

/-- Everything is an instance of the class of everything. -/
def OrObject (isOf : ClassRef → Prop) (c : ClassRef) : Prop := c = .builtin .object ∨ isOf c

namespace TypeForm

/-- Whether a union inside a type, itself inside a union, is written with a bar. -/
inductive HoldsBar : TypeForm → Prop
  | here {t u : TypeForm} {i j : Mark} {w : UnionSpelling} {ts us : List TypeForm} :
      t.normalize = .union i w ts → u ∈ ts → u.normalize = .union j .bar us → HoldsBar t
  | deeper {t u : TypeForm} {i : Mark} {w : UnionSpelling} {ts : List TypeForm} :
      t.normalize = .union i w ts → u ∈ ts → HoldsBar u → HoldsBar t

/-- A type that describes the instances of a class goes by it in its normal form. -/
theorem runtimeClass?_normalize_of_some {t : TypeForm} {c : ClassRef} (h : t.runtimeClass? = some c) :
    t.normalize.runtimeClass? = some c := by
  rw [runtimeClass?_normalize, h]
  unfold runtimeClass? at h
  cases hn : t.normalize <;> first | rfl | (rw [hn] at h; cases h)

end TypeForm

/-- The class of a union is that of union objects, if it is written with a bar; else it has none. -/
theorem TypeForm.exists_bar_of_runtimeClass? {t : TypeForm} {c : ClassRef}
    (ht : t.normalize.isUnion = true) (h : t.runtimeClass? = some c) :
    c = .builtin .barUnion ∧ ∃ i ts, t.normalize = .union i .bar ts := by
  obtain ⟨i, spelling, ts, htn⟩ := exists_of_isUnion ht
  unfold runtimeClass? at h
  rw [htn] at h
  cases spelling with
  | subscript => cases h
  | bar =>
    cases h
    exact ⟨rfl, i, ts, htn⟩

/-- **What a conversion for a type may give**: what fits the type as far as tests say, or the union object
that it was given, if the type has a union written with a bar inside a union. -/
def Value.GivenFor (w v : Value) (st₀ : Store) (run : Runner) (st : Store) (t : TypeForm) : Prop :=
  Fits st₀ (OrObject (w.SeenAs run st)) w t ∨
    t.HoldsBar ∧ w = v ∧ w.IsOf run st (.builtin .barUnion)

/-- Of a type that was formed properly, what describes the instances of the class of everything takes
anything. -/
theorem Fits.of_orObject {st₀ : Store} {isOf : ClassRef → Prop} {v : Value} {t : TypeForm}
    (h : Fits st₀ (OrObject isOf) v t) (ht : t.Settled) : Fits st₀ isOf v t := by
  refine h.imp ?_
  rintro u hu c hc (rfl | hof)
  · rw [(ht u hu).bare hc]
    exact .anything rfl
  · exact .instance hc hof

/-- What added rules give fits the types that they are for. -/
def RulesFit (st₀ : Store) (rules : List Rule) : Prop :=
  ∀ r ∈ rules, ∀ t : TypeForm, r.isFor t.normalize = true → ∀ v place run st w st',
    (r.convert t.normalize v place).perform run st = (.ok w, st') → Fits st₀ (w.SeenAs run st') w t

namespace Store

variable {st₀ : Store} {rules : List Rule} {t : TypeForm} {c : Converter} {run : Runner} {st st' : Store}
  {v w : Value} {place : String}

/-- A list of types that has no converters has one without a converter. -/
theorem exists_of_converters?_none {ts : List TypeForm} (h : st₀.converters? rules ts = none) :
    ∃ t ∈ ts, st₀.converter? rules t = none := by
  by_contra hno
  push Not at hno
  obtain ⟨cs, hcs⟩ : ∃ cs, st₀.converters? rules ts = some cs :=
    exists_converters? fun t ht => Option.ne_none_iff_exists'.mp (hno t ht)
  rw [h] at hcs
  cases hcs

/-- The converters of types that are no unions. -/
inductive PlainConverter (st : Store) (t : TypeForm) : Option Converter → Prop
  | array : st.isArrayType t = true → PlainConverter st t (some .array)
  | absent : t = .builtin .noneType → PlainConverter st t (some .absent)
  | float : t = .builtin .float → PlainConverter st t (some .float)
  | complex : t = .builtin .complex → PlainConverter st t (some .complex)
  | int : t = .builtin .int → PlainConverter st t (some .int)
  | instance {c : ClassRef} : t.runtimeClass? = some c → st.isUntestable c = false →
      PlainConverter st t (some (.instance c (t.typeName st)))
  | free : (∀ c, t.runtimeClass? = some c → c = .builtin .object ∨ st.isUntestable c = true) →
      PlainConverter st t none

theorem plainConverter?_cases (st : Store) (t : TypeForm) :
    st.PlainConverter t (st.plainConverter? t) := by
  unfold plainConverter?
  split
  · exact .array ‹_›
  split
  · exact .absent ‹_›
  split
  · exact .float ‹_›
  split
  · exact .complex ‹_›
  split
  · exact .int ‹_›
  cases hc : t.runtimeClass? with
  | none =>
    refine .free ?_
    intro c hc'
    rw [hc] at hc'
    cases hc'
  | some c =>
    simp only
    split
    case isTrue hfree =>
      refine .free ?_
      intro c' hc'
      obtain rfl := Option.some.inj (hc.symm.trans hc')
      simpa using hfree
    case isFalse htest =>
      simp only [Bool.or_eq_true, decide_eq_true_eq, not_or, Bool.not_eq_true] at htest
      exact .instance hc htest.2

/-- The converters of types. -/
inductive TypeConverter (st : Store) (rules : List Rule) (t : TypeForm) : Option Converter → Prop
  | anything : t.normalize.isAny = true → TypeConverter st rules t none
  | rule {r : Rule} : r ∈ rules → r.isFor t.normalize = true →
      TypeConverter st rules t (some (.rule r t.normalize))
  | unionNone {i : Mark} {w : UnionSpelling} {ts : List TypeForm} : t.normalize = .union i w ts →
      st.converters? rules ts = none → TypeConverter st rules t none
  | union {i : Mark} {w : UnionSpelling} {ts : List TypeForm} {cs : List Converter} :
      t.normalize = .union i w ts → st.converters? rules ts = some cs →
      TypeConverter st rules t
        (some (.union cs (ts.filterMap TypeForm.runtimeClass?) (t.normalize.typeName st)))
  | plain {o : Option Converter} : t.normalize.isUnion = false → t.normalize.isAny = false →
      PlainConverter st t.normalize o → TypeConverter st rules t o

theorem converter?_cases (st : Store) (rules : List Rule) (t : TypeForm) :
    st.TypeConverter rules t (st.converter? rules t) := by
  cases hany : t.normalize.isAny with
  | true =>
    rw [converter?_of_isAny hany]
    exact .anything hany
  | false =>
    cases hf : rules.find? (·.isFor t.normalize) with
    | some r =>
      rw [converter?_of_rule hany hf]
      exact .rule (List.mem_of_find?_eq_some hf) (by simpa using List.find?_some hf)
    | none =>
      cases htu : t.normalize.isUnion with
      | false =>
        rw [converter?_of_plain hany hf htu]
        exact .plain htu hany (plainConverter?_cases st t.normalize)
      | true =>
        obtain ⟨i, w, ts, htn⟩ := TypeForm.exists_of_isUnion htu
        rw [converter?_of_union hany hf htn]
        cases hcs : st.converters? rules ts with
        | none => exact .unionNone htn hcs
        | some cs => exact .union htn hcs

/-- Without added rules a type that is no union has the converter of its class. -/
theorem plainConverter_of_converter? (ht : t.normalize.isUnion = false)
    (hc : st₀.converter? [] t = some c) :
    t.normalize.isAny = false ∧ st₀.PlainConverter t.normalize (some c) := by
  have hcases := converter?_cases st₀ [] t
  rw [hc] at hcases
  cases hcases with
  | rule hr => cases hr
  | union htn =>
    rw [htn] at ht
    cases ht
  | plain _ hany hplain => exact ⟨hany, hplain⟩

/-- Without added rules a union has the converter that tries those of its members. -/
theorem exists_of_converter?_union {i : Mark} {w : UnionSpelling} {ts : List TypeForm}
    (htn : t.normalize = .union i w ts) (hc : st₀.converter? [] t = some c) :
    ∃ cs e, st₀.converters? [] ts = some cs ∧ c = .union cs (ts.filterMap TypeForm.runtimeClass?) e := by
  have hcases := converter?_cases st₀ [] t
  rw [hc] at hcases
  cases hcases with
  | rule hr => cases hr
  | plain ht =>
    rw [htn] at ht
    cases ht
  | union htn' hcs =>
    rw [htn] at htn'
    cases htn'
    exact ⟨_, _, hcs, rfl⟩

/-- The only classes of arrays are built in. -/
theorem exists_of_isArrayType (ho : st₀.Ordered) (h : st₀.isArrayType t = true) :
    t = .builtin .array ∨ t = .builtin .arrayValue := by
  unfold isArrayType at h
  split at h
  case h_1 k =>
    cases k with
    | user i =>
      have hbase := ho.mayBeBase h
      cases hbase
    | builtin b =>
      obtain ⟨b', hb', heq⟩ := descends_builtin_iff.mp h
      cases heq
      have harray : Builtin.array ∈ b.lineage → b = .array ∨ b = .arrayValue := by
        cases b <;> decide
      rcases harray hb' with rfl | rfl
      · exact .inl rfl
      · exact .inr rfl
  case h_2 => cases h

/-- What the converter of a type that is no union gives fits it. -/
theorem fitsAt_of_plainConverter (ho : st₀.Ordered) (hc : st₀.PlainConverter t (some c))
    (h : (c.apply v place).perform run st = (.ok w, st')) : FitsAt st₀ (w.SeenAs run st') w t := by
  cases hc with
  | array harray =>
    rw [Converter.apply] at h
    have hw := Value.classOf_of_convertArray h
    rcases exists_of_isArrayType ho harray with rfl | rfl
    · refine .instance rfl (.now ((Value.isOf_iff_names rfl (by decide)).mpr ?_))
      rw [hw]
      rfl
    · refine .instance rfl (.now ((Value.isOf_iff_names rfl (by decide)).mpr ?_))
      rw [hw]
      rfl
  | absent ht =>
    rw [Converter.apply] at h
    split at h
    case isTrue hv =>
      cases h
      exact .absent ht hv
    case isFalse => exact absurd h Value.not_perform_refuse
  | float ht =>
    subst ht
    rw [Converter.apply] at h
    exact .instance rfl (.now (Value.isOf_of_convertFloat h))
  | complex ht =>
    subst ht
    rw [Converter.apply] at h
    exact .instance rfl (.now (Value.isOf_of_convertComplex h))
  | int ht =>
    subst ht
    rw [Converter.apply] at h
    exact .instance rfl (.now (Value.isOf_of_convertInt h))
  | «instance» hclass =>
    rw [Converter.apply] at h
    obtain ⟨b, st'', htest, h⟩ := exists_of_perform_bind h
    cases b with
    | true =>
      cases h
      exact .instance hclass (Value.seenAs_of_perform htest)
    | false => exact absurd h Value.not_perform_refuse

/-- **Everything fits a type that has no converter.**  A type that describes the instances of the class of
everything, though it is not that class, has none either. -/
theorem fits_orObject_of_no_converter {t : TypeForm} {isOf : ClassRef → Prop}
    (h : st₀.converter? rules t = none) : Fits st₀ (OrObject isOf) v t := by
  induction t using TypeForm.induction_leaves with
  | plain t ht =>
    have hcases := converter?_cases st₀ rules t
    rw [h] at hcases
    cases hcases with
    | anything hany => exact .plain ht (.anything hany)
    | unionNone htn =>
      rw [htn] at ht
      cases ht
    | plain _ _ hplain =>
      cases hplain with
      | free hfree =>
        refine .plain ht ?_
        cases hclass : t.normalize.runtimeClass? with
        | none =>
          refine .untested ?_
          intro c hc
          rw [hclass] at hc
          cases hc
        | some c =>
          rcases hfree c hclass with hobject | huntestable
          · exact .instance hclass (.inl hobject)
          · refine .untested ?_
            intro d hd
            obtain rfl := Option.some.inj (hclass.symm.trans hd)
            exact huntestable
  | union t i w ts htn ih =>
    have hcases := converter?_cases st₀ rules t
    rw [h] at hcases
    cases hcases with
    | anything hany =>
      rw [htn] at hany
      cases hany
    | plain ht =>
      rw [htn] at ht
      cases ht
    | unionNone htn' hcs =>
      rw [htn] at htn'
      cases htn'
      obtain ⟨u, hu, hnone⟩ := exists_of_converters?_none hcs
      exact .member htn hu (ih u hu hnone)

/-- **What the converter of a type gives fits the type**, or it is a union object that is kept because of a
union inside the type. -/
theorem givenFor_of_convert {t : TypeForm} {c : Converter} {st : Store} (ho : st₀.Ordered)
    (hrules : RulesFit st₀ rules) (hc : st₀.converter? rules t = some c)
    (h : (c.apply v place).perform run st = (.ok w, st')) : w.GivenFor v st₀ run st' t := by
  induction t using TypeForm.induction_leaves generalizing c st with
  | plain t ht =>
    have hcases := converter?_cases st₀ rules t
    rw [hc] at hcases
    cases hcases with
    | rule hr hfor =>
      rw [Converter.apply] at h
      exact .inl ((hrules _ hr t hfor _ _ _ _ _ _ h).mono fun _ => .inr)
    | plain _ _ hplain =>
      exact .inl ((Fits.plain ht (fitsAt_of_plainConverter ho hplain h)).mono fun _ => .inr)
    | union htn =>
      rw [htn] at ht
      cases ht
  | union t i u ts htn ih =>
    have hcases := converter?_cases st₀ rules t
    rw [hc] at hcases
    cases hcases with
    | rule hr hfor =>
      rw [Converter.apply] at h
      exact .inl ((hrules _ hr t hfor _ _ _ _ _ _ h).mono fun _ => .inr)
    | plain ht =>
      rw [htn] at ht
      cases ht
    | union htn' hcs =>
      rw [htn] at htn'
      cases htn'
      rw [Converter.apply] at h
      obtain ⟨b, st'', htest, h⟩ := exists_of_perform_bind h
      cases b with
      | true =>
        cases h
        obtain ⟨k, hk, hseen⟩ := Value.exists_of_isInstanceOfSome htest
        obtain ⟨t', ht', hclass⟩ := List.mem_filterMap.mp hk
        cases htu : t'.normalize.isUnion with
        | false =>
          have hclass' := TypeForm.runtimeClass?_normalize_of_some hclass
          exact .inl (.member htn ht' (.plain htu (.instance hclass' (.inr hseen))))
        | true =>
          obtain ⟨rfl, j, us, hun⟩ := TypeForm.exists_bar_of_runtimeClass? htu hclass
          exact .inr ⟨.here htn ht' hun, rfl, hseen.isOf_of_builtin (by decide)⟩
      | false =>
        obtain ⟨c', hc', st₃, -, happly⟩ :=
          Converter.exists_of_applyFirst (I := fun _ => True) (fun _ _ _ _ => trivial) trivial h
        obtain ⟨t', ht', hconv⟩ := (mem_converters? hcs).1 c' hc'
        rcases ih t' ht' hconv happly with hfits | ⟨hbar, hsame, hobject⟩
        · exact .inl (.member htn ht' hfits)
        · exact .inr ⟨.deeper htn ht' hbar, hsame, hobject⟩

/-- What the converter of a type that was formed properly gives fits the type, unless it is a union object
that is kept because of a union inside the type. -/
theorem fits_of_convert {t : TypeForm} {c : Converter} {st : Store} (ho : st₀.Ordered)
    (hrules : RulesFit st₀ rules) (ht : t.Settled) (hc : st₀.converter? rules t = some c)
    (h : (c.apply v place).perform run st = (.ok w, st'))
    (hbar : ¬ w.SeenAs run st' (.builtin .barUnion)) : Fits st₀ (w.SeenAs run st') w t := by
  rcases givenFor_of_convert ho hrules hc h with hfits | ⟨-, -, hobject⟩
  · exact hfits.of_orObject ht
  · exact absurd (.now hobject) hbar

/-- Everything fits a type that was formed properly and has no converter. -/
theorem fits_of_no_converter {t : TypeForm} {isOf : ClassRef → Prop} (ht : t.Settled)
    (h : st₀.converter? rules t = none) : Fits st₀ isOf v t :=
  (fits_orObject_of_no_converter h).of_orObject ht

end Store

/-! ## §4  What fits is kept -/

/-- A value as worlds have them: only the absent value is of its class, and nothing is of the abstract class
of arrays itself. -/
structure Value.Ordinary (v : Value) (st : Store) : Prop where
  absent : st.classOf v = .builtin .noneType → v = .nothing
  concrete : st.classOf v ≠ .builtin .array

/-- No added rule is for a type or a member of it. -/
def NoRuleFor (rules : List Rule) (t : TypeForm) : Prop :=
  ∀ r ∈ rules, ∀ u : TypeForm, u = t ∨ u ∈ t.normalize.members → r.isFor u.normalize = false

/-- A value can be tested for the classes of a type, and the tests leave everything as it is. -/
def LooksQuietly (st₀ : Store) (run : Runner) (st : Store) (v : Value) (t : TypeForm) : Prop :=
  ∀ u ∈ t.leaves, ∀ c, u.runtimeClass? = some c → st₀.isUntestable c = false →
    ∃ b, (v.isInstance c).perform run st = (.ok b, st)

/-- A test that leaves everything as it is says of an instance that it is one. -/
theorem Value.IsOf.perform {run : Runner} {st : Store} {v : Value} {c : ClassRef} {b : Bool}
    (h : v.IsOf run st c) (hb : (v.isInstance c).perform run st = (.ok b, st)) :
    (v.isInstance c).perform run st = (.ok true, st) := by
  rw [Value.IsOf, hb] at h
  cases h
  exact hb

/-- Classes that are tested by ancestry and registration are looked for quietly. -/
theorem looksQuietly_of_plain {st₀ st : Store} {run : Runner} {v : Value} {t : TypeForm}
    (h : t.TestedPlainly st) : LooksQuietly st₀ run st v t := by
  intro u hu c hc _
  obtain ⟨hplain, hany⟩ := h u hu c hc
  exact ⟨_, Value.perform_isInstance_eq_names hplain hany⟩

namespace Store

variable {st₀ st : Store} {rules : List Rule} {t : TypeForm} {c : Converter} {k : ClassRef} {b : Builtin}
  {run : Runner} {v : Value} {place : String}

/-- What names a built-in class that may be no base, and that nothing is registered with, is built in. -/
theorem exists_of_names_final (ho : st.Ordered) (hb : Declaration.mayBeBase (.builtin b) = false)
    (hregistered : ∀ a : Builtin, b ∉ a.registered) (h : st.names k (.builtin b) = true) :
    ∃ a : Builtin, k = .builtin a ∧ b ∈ a.lineage := by
  rcases names_iff.mp h with h | ⟨a, b', heq, -, hb'⟩
  · cases k with
    | builtin a =>
      obtain ⟨b', hb', heq⟩ := descends_builtin_iff.mp h
      cases heq
      exact ⟨a, rfl, hb'⟩
    | user i =>
      rw [ho.mayBeBase h] at hb
      cases hb
  · cases heq
    exact absurd hb' (hregistered a)

/-- An instance of a class of arrays is of the class that arrays are of. -/
theorem classOf_of_isOf_array (ho : st.Ordered) (hv : v.Ordinary st) (hb : b = .array ∨ b = .arrayValue)
    (h : v.IsOf run st (.builtin b)) : st.classOf v = .builtin .arrayValue := by
  have hbase : Declaration.mayBeBase (.builtin b) = false := by rcases hb with rfl | rfl <;> rfl
  have hregistered : ∀ a : Builtin, b ∉ a.registered := by
    rcases hb with rfl | rfl <;> intro a <;> cases a <;> decide
  have hplain : st.testsMembers (.builtin b) = false := by rcases hb with rfl | rfl <;> rfl
  have hnames := (Value.isOf_iff_names hplain (by rcases hb with rfl | rfl <;> decide)).mp h
  obtain ⟨a, ha, hlineage⟩ := exists_of_names_final ho hbase hregistered hnames
  have harray : b ∈ a.lineage → a = .array ∨ a = .arrayValue := by
    rcases hb with rfl | rfl <;> cases a <;> decide
  rcases harray hlineage with rfl | rfl
  · exact absurd ha hv.concrete
  · exact ha

/-- An instance of the class of the absent value is the absent value. -/
theorem eq_nothing_of_isOf (ho : st.Ordered) (hv : v.Ordinary st)
    (h : v.IsOf run st (.builtin .noneType)) : v = .nothing := by
  have hnames := (Value.isOf_iff_names rfl (by decide)).mp h
  obtain ⟨a, ha, hlineage⟩ :=
    exists_of_names_final ho rfl (by intro a; cases a <;> decide) hnames
  have hnone : Builtin.noneType ∈ a.lineage → a = .noneType := by cases a <;> decide
  rw [hnone hlineage] at ha
  exact hv.absent ha

/-- A type that is no union and has a converter has no class that may not be tested for. -/
theorem PlainConverter.isUntestable (ho : st₀.Ordered) (hc : st₀.PlainConverter t (some c))
    (hk : t.runtimeClass? = some k) : st₀.isUntestable k = false := by
  cases hc with
  | array harray => rcases exists_of_isArrayType ho harray with rfl | rfl <;> cases hk <;> rfl
  | absent ht | float ht | complex ht | int ht =>
    subst ht
    cases hk
    rfl
  | «instance» hclass htest =>
    obtain rfl := Option.some.inj (hclass.symm.trans hk)
    exact htest

/-- The converter of a type that is no union tests for the class that the type describes, or is for a class
that is tested by ancestry and registration. -/
theorem PlainConverter.instance_or_plain (ho : st₀.Ordered) (hc : st₀.PlainConverter t (some c))
    (hk : t.runtimeClass? = some k) :
    c = .instance k (t.typeName st₀) ∨ (∀ st : Store, st.testsMembers k = false) ∧ k ≠ .builtin .any := by
  cases hc with
  | array harray =>
    rcases exists_of_isArrayType ho harray with rfl | rfl <;> cases hk <;>
      exact .inr ⟨fun _ => rfl, by decide⟩
  | absent ht | float ht | complex ht | int ht =>
    subst ht
    cases hk
    exact .inr ⟨fun _ => rfl, by decide⟩
  | «instance» hclass =>
    obtain rfl := Option.some.inj (hclass.symm.trans hk)
    exact .inl rfl

/-- A type that is no union and has a converter describes a class. -/
theorem PlainConverter.exists_class (ho : st₀.Ordered) (hc : st₀.PlainConverter t (some c)) :
    ∃ k, t.runtimeClass? = some k := by
  cases hc with
  | array harray => rcases exists_of_isArrayType ho harray with rfl | rfl <;> exact ⟨_, rfl⟩
  | absent ht | float ht | complex ht | int ht => exact ⟨_, by rw [ht]; rfl⟩
  | «instance» hclass => exact ⟨_, hclass⟩

/-- What fits a type that has a converter is an instance of the class whose instances it describes. -/
theorem PlainConverter.isOf {isOf : ClassRef → Prop} (ho : st₀.Ordered)
    (hc : st₀.PlainConverter t (some c)) (hany : t.isAny = false)
    (hnothing : v = .nothing → isOf (.builtin .noneType)) (h : FitsAt st₀ isOf v t) :
    ∃ k, t.runtimeClass? = some k ∧ isOf k := by
  obtain ⟨k, hk⟩ := hc.exists_class ho
  refine ⟨k, hk, ?_⟩
  cases h with
  | anything hany' =>
    rw [hany] at hany'
    cases hany'
  | absent ht hv =>
    subst ht
    cases hk
    exact hnothing hv
  | untested hno =>
    have htest := hc.isUntestable ho hk
    rw [hno k hk] at htest
    cases htest
  | «instance» hk' hof =>
    obtain rfl := Option.some.inj (hk.symm.trans hk')
    exact hof

/-- The converter of a type that is no union keeps an instance of its class. -/
theorem PlainConverter.keeps (ho : st₀.Ordered) (ho' : st.Ordered) (hv : v.Ordinary st)
    (hc : st₀.PlainConverter t (some c)) (hk : t.runtimeClass? = some k)
    (h : (v.isInstance k).perform run st = (.ok true, st)) :
    (c.apply v place).perform run st = (.ok v, st) := by
  have hof : v.IsOf run st k := congrArg Prod.fst h
  cases hc with
  | array harray =>
    have harray' : st.classOf v = .builtin .arrayValue := by
      rcases exists_of_isArrayType ho harray with rfl | rfl <;> cases hk
      · exact classOf_of_isOf_array ho' hv (.inl rfl) hof
      · exact classOf_of_isOf_array ho' hv (.inr rfl) hof
    rw [Converter.apply, Value.convertArray, perform_bind_get, if_pos harray']
    rfl
  | absent ht =>
    subst ht
    cases hk
    rw [Converter.apply, if_pos (eq_nothing_of_isOf ho' hv hof)]
    rfl
  | float ht =>
    subst ht
    cases hk
    rw [Converter.apply, Value.convertFloat, perform_bind_get,
      if_pos ((Value.isOf_iff_isBuiltinInstance rfl (by decide)).mp hof)]
    rfl
  | complex ht =>
    subst ht
    cases hk
    rw [Converter.apply, Value.convertComplex, perform_bind_get,
      if_pos ((Value.isOf_iff_isBuiltinInstance rfl (by decide)).mp hof)]
    rfl
  | int ht =>
    subst ht
    cases hk
    rw [Converter.apply, Value.convertInt, perform_bind_get,
      if_pos ((Value.isOf_iff_isBuiltinInstance rfl (by decide)).mp hof)]
    rfl
  | «instance» hclass =>
    obtain rfl := Option.some.inj (hclass.symm.trans hk)
    rw [Converter.apply, Value.convertInstance, perform_bind_ok h]
    rfl

/-- A member of a union that is no union itself and has a converter of its own. -/
structure PlainMember (st₀ : Store) (t u : TypeForm) : Prop where
  converter : ∃ c, st₀.PlainConverter u.normalize (some c)
  plain : u.normalize.isUnion = false
  known : u.normalize.isAny = false
  leaf : u.normalize ∈ t.leaves
  class_eq : u.normalize.runtimeClass? = u.runtimeClass?

section
variable {i : Mark} {w : UnionSpelling} {ts : List TypeForm}

/-- The members of a flat union that has a converter have converters of their own. -/
theorem plainMember_of_converters? {cs : List Converter} (ht : t.Settled)
    (htn : t.normalize = .union i w ts) (hflat : t.isFlat = true) (hrules : NoRuleFor rules t)
    (hcs : st₀.converters? rules ts = some cs) : ∀ u ∈ ts, PlainMember st₀ t u := by
  intro u hu
  obtain ⟨c, -, hc⟩ := (mem_converters? hcs).2 u hu
  have hmember : u ∈ t.normalize.members := by
    rw [htn]
    exact hu
  have huu : u.normalize.isUnion = false := by
    have hstands := List.all_eq_true.mp hflat u hmember
    rw [Bool.not_eq_true'] at hstands
    exact TypeForm.isUnion_normalize hstands
  have hleaf := TypeForm.mem_leaves_of_member htn hu (TypeForm.normalize_mem_leaves huu)
  have hcases := converter?_cases st₀ rules u
  rw [hc] at hcases
  cases hcases with
  | rule hr hfor =>
    rw [hrules _ hr u (.inr hmember)] at hfor
    cases hfor
  | union hun =>
    rw [hun] at huu
    cases huu
  | plain _ hany hconverter =>
    exact ⟨⟨c, hconverter⟩, huu, hany, hleaf, TypeForm.runtimeClass?_normalize (ht _ hleaf).normal⟩

/-- What fits a member is an instance of its class. -/
theorem PlainMember.isOf {u : TypeForm} (ho : st₀.Ordered) (hm : PlainMember st₀ t u)
    (h : Fits st₀ (v.IsOf run st) v u) : ∃ k, u.runtimeClass? = some k ∧ v.IsOf run st k := by
  obtain ⟨c, hconverter⟩ := hm.converter
  cases h with
  | member hun =>
    have huu := hm.plain
    rw [hun] at huu
    cases huu
  | plain _ hfits =>
    obtain ⟨k, hk, hof⟩ := hconverter.isOf ho hm.known (fun h => h ▸ Value.isOf_nothing) hfits
    exact ⟨k, hm.class_eq ▸ hk, hof⟩

/-- What fits a union whose members have converters of their own is an instance of one of their classes. -/
theorem isInstanceOfSome_of_fits (ho : st₀.Ordered) (htn : t.normalize = .union i w ts)
    (hmembers : ∀ u ∈ ts, PlainMember st₀ t u) (hquiet : LooksQuietly st₀ run st v t)
    (h : Fits st₀ (v.IsOf run st) v t) :
    (v.isInstanceOfSome (ts.filterMap TypeForm.runtimeClass?)).perform run st = (.ok true, st) := by
  have htests : ∀ k ∈ ts.filterMap TypeForm.runtimeClass?,
      ∃ b, (v.isInstance k).perform run st = (.ok b, st) := by
    intro k hk
    obtain ⟨u, hu, hclass⟩ := List.mem_filterMap.mp hk
    obtain ⟨c, hconverter⟩ := (hmembers u hu).converter
    rw [← (hmembers u hu).class_eq] at hclass
    exact hquiet _ (hmembers u hu).leaf k hclass (hconverter.isUntestable ho hclass)
  obtain ⟨b, hb, hiff⟩ := Converter.perform_isInstanceOfSome htests
  rw [hb, hiff.mpr]
  -- the member that the value fits has a class among those that were tested for
  cases h with
  | plain htn' =>
    rw [htn] at htn'
    cases htn'
  | member htn' hu hfits =>
    rw [htn] at htn'
    cases htn'
    obtain ⟨k, hk, hof⟩ := (hmembers _ hu).isOf ho hfits
    have hmem := List.mem_filterMap.mpr ⟨_, hu, hk⟩
    obtain ⟨b', hb'⟩ := htests k hmem
    exact ⟨k, hmem, hof.perform hb'⟩

end

/-- **What fits a type is kept by its converter**, where no added rule is for the type and its members are
no unions themselves. -/
theorem keeps_of_fits (ho : st₀.Ordered) (ho' : st.Ordered) (ht : t.Settled) (hflat : t.isFlat = true)
    (hrules : NoRuleFor rules t) (hv : v.Ordinary st) (hquiet : LooksQuietly st₀ run st v t)
    (h : Fits st₀ (v.IsOf run st) v t) : Keeps run (st₀.converter? rules) st t place v := by
  intro c hc
  have hcases := converter?_cases st₀ rules t
  rw [hc] at hcases
  cases hcases with
  | rule hr hfor =>
    rw [hrules _ hr t (.inl rfl)] at hfor
    cases hfor
  | plain htn hany hplain =>
    have hleaf := TypeForm.normalize_mem_leaves htn
    cases h with
    | member htn' =>
      rw [htn'] at htn
      cases htn
    | plain _ hfits =>
      obtain ⟨k, hk, hof⟩ := hplain.isOf ho hany (fun h => h ▸ Value.isOf_nothing) hfits
      obtain ⟨b, hb⟩ := hquiet _ hleaf k hk (hplain.isUntestable ho hk)
      exact hplain.keeps ho ho' hv hk (hof.perform hb)
  | union htn hcs =>
    have hmembers := plainMember_of_converters? ht htn hflat hrules hcs
    rw [Converter.apply, perform_bind_ok (isInstanceOfSome_of_fits ho htn hmembers hquiet h)]
    rfl

end Store
end MemberAccess
