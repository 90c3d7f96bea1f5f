import MemberAccess.Proofs.OwnCode

/-!
# Values of accepted classes

Assignability and conversion are two ways of asking about a type.  The one asks about classes, before
there is a value; the other looks at a value.  They should agree: a value whose class is assignable to a
type should not be refused by the conversion for it.

They walk a type alike, so the agreement is found leaf by leaf.  A class enters a leaf in one of a few ways
(`Store.Enters`), and by each of them its values pass the test that the leaf is converted by, or are
widened.  In a union the conversion may come to other members before the one that the class enters; these
may refuse the value, which only leads to the next.

What a look at a value cannot promise is that the value lets itself be looked at.  A getter that a protocol
asks for may fail with the very failure that a refusal is, and the conversion for a union that holds the
value's own class fails with it (`HasSize.getter_refuses_accepted_value`).  Where no getter does that, and
the code that the value brings with it leaves the classes alone, no accepted value is refused
(`Value.accepted_is_not_refused`).
-/

namespace MemberAccess

open MemberAccess.Action

/-! ## §1  Memos that keep what was found out -/

namespace Memo

variable {st : Store} {m m' : Memo} {t p : TypeForm}

/-- What a memo keeps is what was found out for the very question that it is kept for. -/
def Honest (m : Memo) (st : Store) : Prop := ∀ e ∈ m.answers, e.2 = st.derivesBelow e.1.1 e.1.2

theorem honest_empty (st : Store) : empty.Honest st := nofun

theorem keeps_derives_honest (st : Store) (t p : TypeForm) : Ask.Keeps (Honest · st) (derives st t p) := by
  intro m hm
  unfold derives
  split
  · rw [run_bind_ok run_get]
    split
    · exact hm
    · rw [run_bind_ok run_set]
      intro e he
      rcases List.mem_cons.mp he with rfl | he
      · rfl
      · exact hm e he
  · exact hm

/-- An honest memo says yes only to what equals a question whose plain answer is yes. -/
theorem Honest.exists_of_derives (hm : m.Honest st)
    (h : (derives st t p).run.run m = (.ok true, m')) :
    ∃ a b, a.equal t = true ∧ b.equal p = true ∧ st.derivesBelow a b = true := by
  unfold derives at h
  split at h
  case isFalse => cases h
  case isTrue =>
    rw [run_bind_ok run_get] at h
    cases hf : m.find? t p with
    | none =>
      rw [hf, run_bind_ok run_set, run_pure] at h
      exact ⟨t, p, TypeForm.equal_refl t, TypeForm.equal_refl p,
        Except.ok.inj (congrArg Prod.fst h)⟩
    | some b =>
      rw [hf, run_pure] at h
      obtain rfl : b = true := Except.ok.inj (congrArg Prod.fst h)
      obtain ⟨e, he, htrue⟩ := Option.map_eq_some_iff.mp hf
      have hequal := List.find?_some he
      rw [Bool.and_eq_true] at hequal
      exact ⟨e.1.1, e.1.2, hequal.1, hequal.2, by
        rw [← hm e (List.mem_of_find?_eq_some he), htrue]⟩

end Memo

/-! ## §2  How a class enters a leaf -/

namespace Store

/-- No class was declared over a union. -/
def DeclaredOverClasses (st : Store) : Prop :=
  ∀ i, ∀ t ∈ (st.classInfo i).genericBases, t.standsForUnion = false

/-- **The ways in which a class enters a leaf**: the leaf is the class itself, takes anything, or describes
no class; numbers of the class widen; or the class is a subclass of the one that the leaf describes, or
stands below it. -/
inductive Enters (st : Store) (k : ClassRef) (w : TypeForm) : Prop
  | itself : w = .cls k → Enters st k w
  | anything : w.isAny = true → Enters st k w
  | undescribed : w.runtimeClass? = none → Enters st k w
  | widened : (TypeForm.cls k).promotes w = true → Enters st k w
  | below {d : ClassRef} : w.runtimeClass? = some d →
      st.isSubclass k d = true ∨ st.descends k d = true → Enters st k w

end Store

/-- What equals an annotation that is no union describes instances of the same class, if it is not applied
to arguments.  What is applied to arguments may wrap the two spellings of a union. -/
theorem TypeForm.runtimeClass?_of_equal {a w : TypeForm} (h : a.equal w = true) (hw : w.isUnion = false)
    (hplain : a.origin? = Option.none ∨ a.arguments = []) : a.runtimeClass? = w.runtimeClass? := by
  cases hu : a.standsForUnion with
  | false => exact runtimeClass?_congr h hu
  | true =>
    -- a variable equals only itself
    cases equals_of_equal h with
    | bounded | choice => rfl
    | union => cases hw
    | annotated | classVar => rcases hplain with hplain | hplain <;> cases hplain
    | _ => cases hu

namespace Store

variable {st : Store} {k : ClassRef} {w b : TypeForm}

/-- **A class that stands below a leaf in the plain sense enters it.** -/
theorem enters_of_derivesBelow (ho : st.Ordered) (hdeclared : st.DeclaredOverClasses)
    (hequal : b.equal w = true) (hw : w.isUnion = false)
    (h : st.derivesBelow (.cls k) b = true) : st.Enters k w := by
  by_cases hshort : ((TypeForm.cls k).equal b || b == .builtin .object) = true
  · rcases Bool.or_eq_true_iff.mp hshort with hself | hobject
    · obtain rfl := TypeForm.eq_cls_of_equal hself
      exact .itself (TypeForm.eq_cls_of_equal hequal)
    · rw [beq_iff_eq] at hobject
      subst hobject
      exact .anything (by rw [TypeForm.eq_cls_of_equal hequal]; rfl)
  by_cases hplain : b.origin? = none ∨ b.arguments = []
  · rw [derivesBelow_of_plain hplain, if_neg hshort] at h
    have hclass := TypeForm.runtimeClass?_of_equal hequal hw hplain
    cases hd : b.runtimeClass? with
    | none => exact .undescribed (by rw [← hclass, hd])
    | some d =>
      by_cases hany : k = .builtin .any
      · subst hany
        cases h
      · rw [TypeForm.runtimeClass?_cls hany, hd] at h
        exact .below (by rw [← hclass, hd]) (.inl h)
  · obtain ⟨hsome, harguments⟩ := not_or.mp hplain
    obtain ⟨above, habove⟩ := Option.ne_none_iff_exists'.mp hsome
    rw [derivesBelow_of_applied habove harguments, if_neg hshort] at h
    cases hown : (TypeForm.cls k).origin? with
    | some own =>
      -- a class is applied to no arguments
      rw [hown] at h
      simp only [Bool.and_eq_true] at h
      obtain ⟨a, as, hargs⟩ := List.exists_cons_of_ne_nil harguments
      rw [hargs] at h
      cases h.2
    | none =>
      -- some ancestor was declared over what the leaf says
      rw [hown] at h
      simp only [declaredOver, List.any_eq_true] at h
      obtain ⟨c, hc, t, ht, hover⟩ := h
      cases c with
      | builtin a => cases ht
      | user i =>
        have hclass : t.runtimeClass? = w.runtimeClass? :=
          TypeForm.runtimeClass?_congr (TypeForm.equal_trans hover hequal) (hdeclared i t ht)
        cases hd : t.runtimeClass? with
        | none => exact .undescribed (by rw [← hclass, hd])
        | some d =>
          exact .below (by rw [← hclass, hd])
            (.inr (ho.trans (descends_iff.mpr hc) (ho.declared ht hd)))

/-- **A class that is assignable to a type that is no union enters it.** -/
theorem enters_of_accepted {t : TypeForm} {m m' : Memo} (ho : st.Ordered)
    (hdeclared : st.DeclaredOverClasses) (hm : m.Honest st) (hany : k ≠ .builtin .any)
    (ht : t.normalize.isUnion = false)
    (h : (Memo.isAssignable st (.cls k) t).run.run m = (.ok true, m')) : st.Enters k t.normalize := by
  by_cases hpasses : (TypeForm.cls k).passes t
  · rcases hpasses with hself | htakes | hunknown
    · exact .itself hself.symm
    · exact .anything htakes
    · cases hunknown
      exact absurd rfl hany
  rw [Memo.isAssignable, assignableVia_plain hpasses ht rfl] at h
  split at h
  case isTrue => cases h
  split at h
  case isTrue => cases h
  split at h
  case isTrue hpromotes => exact .widened hpromotes
  case isFalse =>
    obtain ⟨a, b, ha, hb, hbelow⟩ := hm.exists_of_derives h
    obtain rfl := TypeForm.eq_cls_of_equal (TypeForm.equal_symm ha)
    exact enters_of_derivesBelow ho hdeclared hb ht hbelow

end Store

/-! ## §3  Values of a class that enters -/

/-- A value as worlds have them, under the class that it is of: the class is in its own lineage and is not
the class of everything, and only integers and floats are of their classes. -/
structure Value.Genuine (v : Value) (st : Store) : Prop extends v.Ordinary st where
  known : st.Knows v
  own : st.descends (st.classOf v) (st.classOf v) = true
  concreteClass : st.classOf v ≠ .builtin .any
  integer : st.classOf v = .builtin .int → ∃ n, v = .int n
  float : st.classOf v = .builtin .float → ∃ x, v = .float x

/-- Classes, functions and properties are what they were, and the value is of the class that it was of. -/
structure Store.Retains (st : Store) (v : Value) (st' : Store) : Prop where
  classes : st'.classes = st.classes
  functions : st'.functions = st.functions
  properties : st'.properties = st.properties
  classOf : st'.classOf v = st.classOf v
  knows : st'.Knows v

/-- A failure that does not refuse a value. -/
def NoRefusal (f : Failure) : Prop := f.isA .argumentTypeMismatch = false

section
variable {st₀ st st' : Store} {run : Runner} {v : Value} {d : ClassRef} {w : TypeForm} {c : Converter}
  {place : String} {f : Failure}

theorem Value.Genuine.retains (hv : v.Genuine st) : st.Retains v st := ⟨rfl, rfl, rfl, rfl, hv.known⟩

theorem Store.Retains.ordered (h : st.Retains v st') (ho : st.Ordered) : st'.Ordered :=
  (Store.SameHierarchy.of_classes h.classes).ordered ho

theorem Store.Retains.ordinary (h : st.Retains v st') (hv : v.Ordinary st) : v.Ordinary st' := by
  constructor
  · rw [h.classOf]
    exact hv.absent
  · rw [h.classOf]
    exact hv.concrete

theorem Store.Retains.specialMethod? (h : st.Retains v st') (n : String) :
    st'.specialMethod? v n = st.specialMethod? v n := by
  rw [Store.specialMethod?, Store.specialMethod?, h.classOf, lookup?_congr h.classes]

theorem Store.Retains.getter? (h : st.Retains v st') (n : String) :
    st'.getter? v n = st.getter? v n := by
  rw [Store.getter?, Store.getter?, h.classOf, lookup?_congr h.classes, h.properties]

theorem Store.sparesNew_retains : Store.SparesNew (st.Retains v) := by
  intro st' o h
  have hgrows : st'.Grows (st'.allocate o).1 := Store.sparesNew_grows st' o (.refl st')
  exact ⟨hgrows.classes.trans h.classes, h.functions, h.properties,
    (hgrows.classOf h.knows).trans h.classOf, hgrows.knows h.knows⟩

theorem sparesFaults_noRefusal : SparesFaults NoRefusal := fun _ h => h

/-- The test for a class never says no to a value whose class is a subclass or stands below it. -/
theorem Value.isInstance_ne_false
    (h : st.isSubclass (st.classOf v) d = true ∨ st.descends (st.classOf v) d = true) :
    ((v.isInstance d).perform run st).1 ≠ .ok false := by
  by_cases hany : d = .builtin .any
  · subst hany
    nofun
  cases ht : st.isUntestable d with
  | true =>
    rcases @perform_isInstance_untestable run st v d ht with htest | htest <;>
    · rw [htest]
      nofun
  | false =>
    rcases h with hsub | hdescends
    · rw [perform_isInstance_of_isSubclass hsub ht hany]
      nofun
    · cases hp : st.isProtocol d with
      | true =>
        rcases @perform_isInstance_of_protocol run st v d hdescends ht hp with
          ⟨st', htest⟩ | ⟨f, st', -, htest⟩
        · rw [htest]
          nofun
        · rw [htest]
          nofun
      | false =>
        have hq : st.testsQuietly d = true := by rw [Store.testsQuietly, hp]; rfl
        rw [perform_isInstance_of_names (Store.names_of_descends hdescends) ht hq hany]
        nofun

/-- What a handler does not take comes through. -/
theorem Value.orRefuse_error {α : Type} {e : String} {kinds : List ErrorKind} {y : Action α}
    (h : y.perform run st = (.error f, st')) (hf : kinds.any f.isA = false) :
    (v.orRefuse place e kinds y).perform run st = (.error f, st') := by
  rw [orRefuse, perform_tryCatch, h]
  simp only [hf]
  rfl

/-- An integer has a float nearest to it, or is too large. -/
theorem Value.perform_toFloat_int (n : Int) : (∃ x, (toFloat (.int n)).perform run st = (.ok x, st)) ∨
    (toFloat (.int n)).perform run st = (.error (.fault .overflowError), st) := by
  cases hx : Number.Double.ofInt n with
  | some x => exact .inl ⟨x, toFloat_int hx⟩
  | none =>
    have hs : st.specialMethod? (.int n) "__float__" = none :=
      Store.specialMethod?_of_builtin (b := .int) rfl _
    refine .inr ?_
    unfold toFloat
    rw [perform_bind_get, hs]
    simp only [Store.atomOf?, Option.bind, floatOfAtom?, floatOfInt, hx]
    rfl

theorem Value.perform_toComplex_int (n : Int) :
    (∃ z, (toComplex (.int n)).perform run st = (.ok z, st)) ∨
      (toComplex (.int n)).perform run st = (.error (.fault .overflowError), st) := by
  have hs : st.specialMethod? (.int n) "__complex__" = none :=
    Store.specialMethod?_of_builtin (b := .int) rfl _
  unfold toComplex
  rw [perform_bind_get, hs]
  rcases @perform_toFloat_int st run n with ⟨x, hx⟩ | hx
  · exact .inl ⟨_, perform_bind_ok hx⟩
  · exact .inr (perform_bind_error hx)

theorem Value.perform_toComplex_float (x : Number.Double) :
    (toComplex (.float x)).perform run st = (.ok (x, Number.Double.zero false), st) := by
  have hs (name : String) : st.specialMethod? (.float x) name = none :=
    Store.specialMethod?_of_builtin (b := .float) rfl name
  have hfloat : (toFloat (.float x)).perform run st = (.ok x, st) := by
    unfold toFloat
    rw [perform_bind_get, hs]
    rfl
  unfold toComplex
  rw [perform_bind_get, hs]
  exact perform_bind_ok hfloat

/-- An integer is not refused where floats are wanted: it has a float, or is too large. -/
theorem Value.spares_convertFloat_int {n : Int}
    (h : ((Value.int n).convertFloat place).perform run st = (.error f, st')) : NoRefusal f := by
  change ((Value.int n).toFloat >>= fun x => pure (.float x) : Action Value).perform run st = _ at h
  rcases @perform_toFloat_int st run n with ⟨x, hx⟩ | hx
  · rw [perform_bind_ok hx] at h
    cases h
  · rw [perform_bind_error hx] at h
    cases h
    rfl

/-- Nor where complex numbers are wanted. -/
theorem Value.spares_convertComplex_int {n : Int}
    (h : ((Value.int n).convertComplex place).perform run st = (.error f, st')) : NoRefusal f := by
  rcases @perform_toComplex_int st run n with ⟨z, hz⟩ | hz
  · have hok : ((Value.int n).convertComplex place).perform run st = (.ok (.complex z.1 z.2), st) :=
      orRefuse_ok (perform_bind_ok hz)
    rw [hok] at h
    cases h
  · have herror : ((Value.int n).convertComplex place).perform run st =
        (.error (.fault .overflowError), st) := orRefuse_error (perform_bind_error hz) rfl
    rw [herror] at h
    cases h
    rfl

/-- Every float is made a complex number. -/
theorem Value.convertComplex_float {x : Number.Double} :
    ((Value.float x).convertComplex place).perform run st =
      (.ok (.complex x (Number.Double.zero false)), st) :=
  orRefuse_ok (perform_bind_ok (perform_toComplex_float x))

/-- **A number that widens is not refused**: it is converted, or too large for that. -/
theorem Value.Genuine.spares_of_widened (hv : v.Genuine st₀)
    (hpromotes : (TypeForm.cls (st₀.classOf v)).promotes w = true) (hc : st₀.plainConverter? w = some c)
    (h : (c.apply v place).perform run st = (.error f, st')) : NoRefusal f := by
  simp only [TypeForm.promotes, Bool.or_eq_true, Bool.and_eq_true, beq_iff_eq, TypeForm.cls.injEq]
    at hpromotes
  rcases hpromotes with ⟨hclass, rfl | rfl⟩ | ⟨hclass, rfl⟩
  · obtain ⟨n, rfl⟩ := hv.integer hclass
    cases hc
    rw [Converter.apply] at h
    exact spares_convertFloat_int h
  · obtain ⟨n, rfl⟩ := hv.integer hclass
    cases hc
    rw [Converter.apply] at h
    exact spares_convertComplex_int h
  · obtain ⟨x, rfl⟩ := hv.float hclass
    cases hc
    rw [Converter.apply, convertComplex_float] at h
    cases h

/-- The converter of a type that is no union refuses no value whose class is below the class that the type
describes. -/
theorem Store.PlainConverter.spares_of_below (ho : st₀.Ordered) (ho' : st.Ordered) (hv : v.Ordinary st)
    (hc : st₀.PlainConverter w (some c)) (hd : w.runtimeClass? = some d)
    (hbelow : st.isSubclass (st.classOf v) d = true ∨ st.descends (st.classOf v) d = true)
    (hlook : d ∈ c.tested → ∀ g, ((v.isInstance d).perform run st).1 = .error g → NoRefusal g)
    (h : (c.apply v place).perform run st = (.error f, st')) : NoRefusal f := by
  have hno : ((v.isInstance d).perform run st).1 ≠ .ok false := Value.isInstance_ne_false hbelow
  have hkept (hplain : st.testsMembers d = false) (hany : d ≠ .builtin .any) :
      (c.apply v place).perform run st = (.ok v, st) := by
    have htest : (v.isInstance d).perform run st = (.ok (st.names (st.classOf v) d), st) :=
      Value.perform_isInstance_eq_names hplain hany
    rw [htest] at hno
    have hnames : st.names (st.classOf v) d = true := by
      cases hn : st.names (st.classOf v) d with
      | true => rfl
      | false =>
        rw [hn] at hno
        exact absurd rfl hno
    rw [hnames] at htest
    exact hc.keeps ho ho' hv hd htest
  rcases hc.instance_or_plain ho hd with rfl | ⟨hplain, hany⟩
  · rw [Converter.apply, Value.convertInstance, perform_bind] at h
    rcases htest : (v.isInstance d).perform run st with ⟨g | b, st₁⟩
    · rw [htest] at h
      cases h
      exact hlook (by simp [Converter.tested]) f (by rw [htest])
    · rw [htest] at h hno
      cases b with
      | true => cases h
      | false => exact absurd rfl hno
  · rw [hkept (hplain st) hany] at h
    cases h

/-- **A type that is no union refuses no value whose class enters it.** -/
theorem Value.Genuine.spares_of_enters (hv : v.Genuine st₀) (ho : st₀.Ordered)
    (henters : st₀.Enters (st₀.classOf v) w) (hany : w.isAny = false)
    (hc : st₀.plainConverter? w = some c)
    (hlooks : ∀ k ∈ c.tested, v.LooksTamely run run (st₀.Retains v) NoRefusal k)
    (hst : st₀.Retains v st) (h : (c.apply v place).perform run st = (.error f, st')) : NoRefusal f := by
  have hplain := Store.plainConverter?_cases st₀ w
  rw [hc] at hplain
  have hbelow {d : ClassRef} (hd : w.runtimeClass? = some d)
      (hsub : st₀.isSubclass (st₀.classOf v) d = true ∨ st₀.descends (st₀.classOf v) d = true) :
      NoRefusal f := by
    refine hplain.spares_of_below ho (hst.ordered ho) (hst.ordinary hv.toOrdinary) hd ?_ ?_ h
    · rwa [hst.classOf, Store.isSubclass_congr hst.classes, Store.descends_congr hst.classes]
    · intro hk
      exact (tame_isInstance sparesFaults_noRefusal Store.sparesNew_retains hst (hlooks d hk)).fails
  cases henters with
  | itself hw =>
    refine hbelow (d := st₀.classOf v) ?_ (.inr hv.own)
    rw [hw]
    exact TypeForm.runtimeClass?_cls hv.concreteClass
  | anything htakes =>
    rw [hany] at htakes
    cases htakes
  | undescribed hnone =>
    obtain ⟨k, hk⟩ := hplain.exists_class ho
    rw [hnone] at hk
    cases hk
  | widened hpromotes => exact hv.spares_of_widened hpromotes hc h
  | below hd hsub => exact hbelow hd hsub

end

/-! ## §4  Unions -/

section
variable {st₀ st st' : Store} {run : Runner} {v : Value} {c : Converter} {cs : List Converter}
  {place e : String} {f : Failure}

/-- Several converters refuse no value that one of them does not refuse, wherever the others lead. -/
theorem Converter.spares_of_applyFirst {I : Store → Prop} (hc : c ∈ cs)
    (hkeeps : ∀ c' ∈ cs, ∀ st, I st → I ((c'.apply v place).perform run st).2)
    (hspares : ∀ st, I st → ∀ f st', (c.apply v place).perform run st = (.error f, st') → NoRefusal f)
    (hst : I st) (h : (applyFirst cs v place e).perform run st = (.error f, st')) : NoRefusal f := by
  induction cs generalizing st with
  | nil => cases hc
  | cons c' cs ih =>
    rw [applyFirst, perform_tryCatch] at h
    have hkept := hkeeps c' (by simp) st hst
    rcases hrun : (c'.apply v place).perform run st with ⟨g | w, st₁⟩
    · rw [hrun] at h hkept
      cases hg : g.isA .argumentTypeMismatch with
      | false =>
        simp only [hg, Bool.false_eq_true, if_false] at h
        cases h
        exact hg
      | true =>
        simp only [hg, if_true] at h
        refine ih ?_ (fun c'' hc'' => hkeeps c'' (by simp [hc''])) hkept h
        -- a converter that refused is not the one that refuses nothing
        rcases List.mem_cons.mp hc with rfl | hc
        · have hno := hspares st hst g st₁ hrun
          rw [NoRefusal, hg] at hno
          cases hno
        · exact hc
    · rw [hrun] at h
      cases h

/-- **A union refuses no value that a member of it does not refuse**: the members before that one may call
code of the value, but come to it with the classes as they were. -/
theorem Converter.spares_of_union {ks : List ClassRef}
    (hmethods : v.ConvertsTamely run run (st₀.Retains v) fun _ => True)
    (hbuiltin : (Converter.union cs ks e).isBuiltIn = true)
    (hlooks : ∀ k ∈ (Converter.union cs ks e).tested,
      v.LooksTamely run run (st₀.Retains v) NoRefusal k) (hc : c ∈ cs)
    (hspares : ∀ st, st₀.Retains v st → ∀ f st', (c.apply v place).perform run st = (.error f, st') →
      NoRefusal f)
    (hst : st₀.Retains v st)
    (h : ((Converter.union cs ks e).apply v place).perform run st = (.error f, st')) : NoRefusal f := by
  have htests : Tame run run (st₀.Retains v) NoRefusal (v.isInstanceOfSome ks) st :=
    Value.tame_isInstanceOfSome hst fun k hk =>
      (hlooks k (List.mem_append_left _ hk)).tests sparesFaults_noRefusal Store.sparesNew_retains
  have hkept := htests.keeps
  have hfails := htests.fails
  have hkeeps : ∀ c' ∈ cs, ∀ st, st₀.Retains v st →
      st₀.Retains v ((c'.apply v place).perform run st).2 := by
    intro c' hc' st hst
    refine Converter.keeps_apply Store.sparesNew_retains hmethods
      (Converter.isBuiltIn_union.mp hbuiltin c' hc') ?_ hst
    intro k hk
    exact ((hlooks k (List.mem_append_right _ (Converter.mem_testedBySome.mpr ⟨_, hc', hk⟩))).mono
      fun _ _ => trivial).tests (fun _ _ => trivial) Store.sparesNew_retains
  rw [Converter.apply, perform_bind] at h
  rcases hrun : (v.isInstanceOfSome ks).perform run st with ⟨g | b, st₁⟩
  · rw [hrun] at h hfails
    cases h
    exact hfails f rfl
  · rw [hrun] at h hkept
    cases b with
    | true => cases h
    | false => exact Converter.spares_of_applyFirst hc hkeeps hspares hkept h

/-- **What is accepted by its class is not refused**, by induction over the unions in the type. -/
theorem Value.Genuine.spares_of_accepted {m m' : Memo} {t : TypeForm} (hv : v.Genuine st₀)
    (ho : st₀.Ordered) (hdeclared : st₀.DeclaredOverClasses)
    (hmethods : v.ConvertsTamely run run (st₀.Retains v) fun _ => True) (hm : m.Honest st₀)
    (haccepted : (Memo.isAssignable st₀ (.cls (st₀.classOf v)) t).run.run m = (.ok true, m'))
    (hc : st₀.converter? [] t = some c)
    (hlooks : ∀ k ∈ c.tested, v.LooksTamely run run (st₀.Retains v) NoRefusal k)
    (hst : st₀.Retains v st) (h : (c.apply v place).perform run st = (.error f, st')) : NoRefusal f := by
  induction t using TypeForm.induction_leaves generalizing m m' c st f st' with
  | plain t ht =>
    cases hany : t.normalize.isAny with
    | true =>
      rw [Store.converter?_of_isAny hany] at hc
      cases hc
    | false =>
      rw [Store.converter?_of_plain hany rfl ht] at hc
      exact hv.spares_of_enters ho
        (Store.enters_of_accepted ho hdeclared hm hv.concreteClass ht haccepted) hany hc hlooks hst h
  | union t i w ts htn ih =>
    obtain ⟨cs, e, hcs, rfl⟩ := Store.exists_of_converter?_union htn hc
    have hpasses : ¬ (TypeForm.cls (st₀.classOf v)).passes t := by
      rintro (hself | htakes | hunknown)
      · rw [htn] at hself
        cases hself
      · rw [htn] at htakes
        cases htakes
      · exact hv.concreteClass (TypeForm.cls.inj hunknown)
    rw [Memo.isAssignable, assignableVia_to_union hpasses htn] at haccepted
    -- the memo stays honest up to the member that is accepted
    obtain ⟨u, hu, m₁, m₂, hm₁, hmember⟩ := Ask.exists_of_run_anyM
      (fun u _ => Memo.keeps_isAssignable_of_derives (Memo.keeps_derives_honest st₀) _ u) hm haccepted
    obtain ⟨c', hc', hconverter⟩ := (Store.mem_converters? hcs).2 u hu
    have hlooks' : ∀ k ∈ c'.tested, v.LooksTamely run run (st₀.Retains v) NoRefusal k := by
      intro k hk
      exact hlooks k (List.mem_append_right _ (Converter.mem_testedBySome.mpr ⟨_, hc', hk⟩))
    refine Converter.spares_of_union hmethods (Converter.isBuiltIn_of_converter? hc) hlooks hc' ?_ hst h
    intro st₁ hst₁ f st₂
    exact ih u hu hm₁ hmember hconverter hlooks' hst₁

end

/-! ## §5  Accepted values -/

/-- The code that a value brings with it behaves in a conversion for a type: none answers for which class the
value has, what there is leaves the classes and the class of the value as they are, and nothing that a test reads
fails with a refusal. -/
structure Value.Behaves (v : Value) (run : Runner) (st : Store) (t : TypeForm) : Prop where
  shows : st.ShowsClass v
  methods : v.ConvertsTamely run run (st.Retains v) fun _ => True
  getters {c : Converter} {k : ClassRef} : st.converter? [] t = some c → k ∈ c.tested →
    v.LooksTamely run run (st.Retains v) NoRefusal k

/-- **A value whose class is assignable to a type is not refused by the conversion for it**, if the code
that the value brings with it behaves. -/
theorem Value.accepted_is_not_refused {st : Store} {m m' : Memo} {v : Value} {t : TypeForm} {run : Runner}
    (ho : st.Ordered) (hdeclared : st.DeclaredOverClasses) (hm : m.Honest st) (hv : v.Genuine st)
    (hcode : v.Behaves run st t)
    (haccepted : (Memo.isAssignable st (.cls (st.classOf v)) t).run.run m = (.ok true, m'))
    {place : String} {f : Failure} {st' : Store}
    (h : (v.coerce [] t place).perform run st = (.error f, st')) :
    f.isA .argumentTypeMismatch = false := by
  unfold coerce at h
  rw [perform_bind_get] at h
  cases hc : st.converter? [] t with
  | none =>
    rw [hc] at h
    cases h
  | some c =>
    rw [hc] at h
    exact hv.spares_of_accepted ho hdeclared hcode.methods hm haccepted hc
      (fun k hk => hcode.getters hc hk) hv.retains h

/-! ## §6  A getter that refuses -/

namespace HasSize

/-- A protocol that asks for a size, and two classes with sizes of their own: reading the size of a box is
refused, and a crate has one.  There is a box and a crate. -/
def world : Store :=
  { Store.empty with
    classes := #[
      { (default : ClassInfo) with
        name := "HasSize"
        qualifiedName := "HasSize"
        bases := [.builtin .protocol]
        lineage := [.user 0, .builtin .protocol, .builtin .generic, .builtin .object]
        entries := [("size", .atom (.property 1))]
        isProtocol := true
        isRuntimeProtocol := true
        hasFields := true },
      { (default : ClassInfo) with
        name := "Box"
        qualifiedName := "Box"
        bases := [.builtin .object]
        lineage := [.user 1, .builtin .object]
        entries := [("size", .atom (.property 0))]
        hasFields := true },
      { (default : ClassInfo) with
        name := "Crate"
        qualifiedName := "Crate"
        bases := [.builtin .object]
        lineage := [.user 2, .builtin .object]
        entries := [("size", .atom (.property 1))]
        hasFields := true }]
    functions := #[
      { (default : Function) with
        name := "size"
        qualifiedName := "Box.size"
        parameters := [⟨"self", .positional, none, none⟩]
        body := .statements [.throw .argumentTypeMismatch
          [.constant (.text "size"), .constant (.text "a"), .constant (.text "b")]] },
      { (default : Function) with
        name := "size"
        qualifiedName := "Crate.size"
        parameters := [⟨"self", .positional, none, none⟩]
        body := .statements [.result (.constant (.int 1))] }]
    properties := #[⟨some 0, none⟩, ⟨some 1, none⟩]
    objects := #[⟨.user 1, .plain, [], []⟩, ⟨.user 2, .plain, [], []⟩] }

/-- What the runner of a world is for a call. -/
abbrev runner : Runner := runFunction callDepth

/-- What has a size, or is of a class. -/
def orSized (i : Nat) : TypeForm := .union 0 .subscript [.cls (.user 0), .cls (.user i)]

theorem converter?_orSized {i : Nat} (hi : i = 1 ∨ i = 2) : ∃ e e',
    world.converter? [] (orSized i) = some (.union [.instance (.user 0) "HasSize", .instance (.user i) e]
      [.user 0, .user i] e') := by
  have hsized : world.converter? [] (.cls (.user 0)) = some (.instance (.user 0) "HasSize") := by
    rw [Store.converter?_of_plain rfl rfl rfl]
    rfl
  have hown : ∃ e, world.converter? [] (.cls (.user i)) = some (.instance (.user i) e) := by
    rw [Store.converter?_of_plain rfl rfl rfl]
    rcases hi with rfl | rfl <;> exact ⟨_, rfl⟩
  obtain ⟨e, hown⟩ := hown
  rw [orSized, Store.converter?_of_union rfl rfl rfl]
  simp only [Store.converters?, hsized, hown]
  exact ⟨e, _, rfl⟩

/-- Both classes are assignable to what has a size or is of the class. -/
theorem accepted_orSized {i : Nat} (hi : i = 1 ∨ i = 2) : ∃ m,
    (Memo.isAssignable world (.cls (.user i)) (orSized i)).run.run .empty = (.ok true, m) := by
  have hunion : ¬ (TypeForm.cls (.user i)).passes (orSized i) := by rintro (h | h | h) <;> cases h
  have hsized : ¬ (TypeForm.cls (.user i)).passes (.cls (.user 0)) := by
    rcases hi with rfl | rfl <;> decide
  have hbelow : world.derivesBelow (.cls (.user i)) (.cls (.user 0)) = false := by
    rcases hi with rfl | rfl <;> decide +kernel
  have hfirst : (Memo.isAssignable world (.cls (.user i)) (.cls (.user 0))).run.run .empty =
      (.ok false, Memo.empty.insert world (.cls (.user i)) (.cls (.user 0))) := by
    rw [Memo.isAssignable, assignableVia_plain hsized rfl rfl, ← hbelow]
    rfl
  have hsecond : Memo.isAssignable world (.cls (.user i)) (.cls (.user i)) = pure true :=
    assignableVia_of_passes (.inl rfl)
  refine ⟨Memo.empty.insert world (.cls (.user i)) (.cls (.user 0)), ?_⟩
  rw [Memo.isAssignable, assignableVia_to_union hunion rfl, List.anyM_cons]
  refine (run_bind_ok hfirst).trans ?_
  change ([TypeForm.cls (.user i)].anyM (Memo.isAssignable world (.cls (.user i)))).run.run _ = _
  rw [List.anyM_cons, hsecond]
  rfl

/-- No class of the world has special methods. -/
theorem lookup_special {n : String} (hn : n ∈ ["__index__", "__float__", "__complex__", "__class__",
    "__getattribute__", "__getattr__", "__subclasshook__"]) (i : Nat) :
    (world.classInfo i).entries.lookup n = none := by
  have hnames : ∀ j : Fin 3, ∀ n ∈ ["__index__", "__float__", "__complex__", "__class__",
      "__getattribute__", "__getattr__", "__subclasshook__"],
      (world.classInfo j).entries.lookup n = none := by decide
  match i with
  | 0 => exact hnames 0 n hn
  | 1 => exact hnames 1 n hn
  | 2 => exact hnames 2 n hn
  | _ + 3 => rfl

theorem readsPlainly (v : Value) : world.ReadsPlainly v where
  getAttribute := Store.specialMethod?_of_entries fun i _ => lookup_special (by simp) i
  getMissing := Store.specialMethod?_of_entries fun i _ => lookup_special (by simp) i

/-- **A value of an accepted class is refused by its own getter**: boxes are assignable to what has a size
or is a box, and the conversion for that fails with the refusal of the getter. -/
theorem getter_refuses_accepted_value :
    world.classOf (.object 0) = .user 1 ∧
    (∃ m, (Memo.isAssignable world (.cls (.user 1)) (orSized 1)).run.run .empty = (.ok true, m)) ∧
    ∃ f, ((Value.object 0).coerce [] (orSized 1) "value").perform runner world = (.error f, world) ∧
      f.isA .argumentTypeMismatch = true := by
  refine ⟨rfl, accepted_orSized (.inl rfl), ?_⟩
  obtain ⟨e, e', hc⟩ := converter?_orSized (.inl rfl)
  refine ⟨.raised .argumentTypeMismatch (Failure.argumentText "size" "a" "b")
    [("where", .text "size"), ("expected", .text "a"), ("actual", .text "b")], ?_, rfl⟩
  have hmember {mayBeAbsent : Bool} : ((Value.object 0).hasMember mayBeAbsent "size").perform runner world =
      (.error (.raised .argumentTypeMismatch (Failure.argumentText "size" "a" "b")
        [("where", .text "size"), ("expected", .text "a"), ("actual", .text "b")]), world) := by
    rw [Value.perform_hasMember, Value.perform_getAttribute (readsPlainly _)]
    rfl
  have hmembers : ((Value.object 0).hasMembers (.user 0) (world.protocolMembers (.user 0))).perform runner
      world = (.error (.raised .argumentTypeMismatch (Failure.argumentText "size" "a" "b")
        [("where", .text "size"), ("expected", .text "a"), ("actual", .text "b")]), world) := by
    change ((Value.object 0).hasMembers (.user 0) ["size"]).perform runner world = _
    rw [Value.hasMembers, perform_bind_get]
    exact perform_bind_error hmember
  have htest := @Value.perform_isInstance_by_members runner world (.object 0) 0 rfl rfl rfl (by decide)
  rw [hmembers] at htest
  unfold Value.coerce
  rw [perform_bind_get, hc]
  exact perform_bind_error (perform_bind_error htest)

theorem ordered_world : world.Ordered := by
  have h₀ := Store.ordered_push (world.classInfo 0) Store.ordered_empty (by decide)
    (Store.canBeBases_singleton rfl nofun) nofun
  have h₁ := Store.ordered_push (world.classInfo 1) h₀ (by decide)
    (Store.canBeBases_singleton rfl nofun) nofun
  have h₂ := Store.ordered_push (world.classInfo 2) h₁ (by decide)
    (Store.canBeBases_singleton rfl nofun) nofun
  exact h₂.of_classes rfl

theorem declaredOverClasses_world : world.DeclaredOverClasses := by
  intro i t ht
  rcases i with _ | _ | _ | i <;> cases ht

theorem genuine_crate : (Value.object 1).Genuine world where
  absent := nofun
  concrete := nofun
  known := by rintro a ⟨⟩; decide
  own := rfl
  concreteClass := nofun
  integer := nofun
  float := nofun

/-- Reading the size of a crate gives it and does nothing else. -/
theorem perform_size {st : Store} (h : st.functions = world.functions) (depth : Nat) :
    (callFunction 1 [.object 1]).perform (runFunction (depth + 1)) st = (.ok (.int 1), st) := by
  change ((st.functions[1]?.getD default).run [.object 1]).perform (runFunction depth) st = _
  rw [h]
  rfl

/-- The only call that reading the size of a crate makes is that of its getter. -/
theorem readCall_size {st : Store} (h : world.Retains (.object 1) st) {id : Nat} {args : List Value}
    (hcall : st.ReadCall (.object 1) "size" id args) : id = 1 ∧ args = [.object 1] := by
  have hlookup : st.lookup? (st.classOf (.object 1)) "size" = some (.user 2, .atom (.property 1)) := by
    rw [h.classOf, Store.lookup?_congr h.classes]
    rfl
  have hget {e : Value} (hshows : st.Shows (.object 1) "size" e) : st.specialMethod? e "__get__" = none := by
    obtain ⟨k, hk | ⟨c, hc, -⟩⟩ := hshows
    · rw [hlookup] at hk
      cases hk
      exact Store.specialMethod?_of_builtin (b := .property) rfl _
    · cases hc
  cases hcall with
  | whole hid =>
    rw [h.specialMethod?, (readsPlainly _).getAttribute] at hid
    cases hid
  | missing hid =>
    rw [h.specialMethod?, (readsPlainly _).getMissing] at hid
    cases hid
  | getter hid =>
    have hgetter : world.getter? (.object 1) "size" = some 1 := by decide
    rw [h.getter?, hgetter] at hid
    cases hid
    exact ⟨rfl, rfl⟩
  | ofInstance hshows hid | ofClass hshows hid =>
    rw [hget hshows] at hid
    cases hid

/-- No getter of a crate refuses anything. -/
theorem behaves_crate : (Value.object 1).Behaves runner world (orSized 2) where
  shows := {
    knows := genuine_crate.known
    answer := fun hn => Store.overrides_of_entries fun i _ => lookup_special (by
      simp only [List.mem_cons, List.not_mem_nil, or_false] at hn ⊢
      tauto) i
    hook := lookup_special (by simp) }
  methods := by
    intro st h n hn id hid
    have hnone : world.specialMethod? (.object 1) n = none :=
      Store.specialMethod?_of_entries fun i _ => lookup_special (by
        simp only [List.mem_cons, List.not_mem_nil, or_false] at hn ⊢
        tauto) i
    rw [h.specialMethod?, hnone] at hid
    cases hid
  getters := by
    obtain ⟨e, e', hc⟩ := converter?_orSized (.inr rfl)
    intro c k hc' hk st h hp n hn st₁ st₂ h₁ h₂ id args hcall
    obtain rfl := Option.some.inj (hc.symm.trans hc')
    have hcases : k = .user 0 ∨ k = .user 2 := by
      simp only [Converter.tested, Converter.testedBySome, List.append_nil, List.mem_append,
        List.mem_cons, List.not_mem_nil, or_false] at hk
      tauto
    rw [Store.isProtocol_congr h.classes] at hp
    rw [Store.protocolMembers_congr h.classes] at hn
    obtain rfl : k = .user 0 := by
      refine hcases.resolve_right ?_
      rintro rfl
      cases hp
    obtain rfl : n = "size" := by
      have hmembers : world.protocolMembers (.user 0) = ["size"] := by decide
      rw [hmembers] at hn
      exact List.mem_singleton.mp hn
    obtain ⟨rfl, rfl⟩ := readCall_size h₁ hcall
    have hrun : (callFunction 1 [.object 1]).perform runner st₂ = (.ok (.int 1), st₂) :=
      perform_size h₂.functions 899
    refine ⟨rfl, ?_, ?_⟩
    · rw [hrun]
      exact h₂
    · rw [hrun]
      intro f hf
      cases hf

/-- A crate is taken where what has a size or is a crate is wanted. -/
theorem crate_is_not_refused :
    (∃ m, (Memo.isAssignable world (.cls (.user 2)) (orSized 2)).run.run .empty = (.ok true, m)) ∧
    (Value.object 1).Behaves runner world (orSized 2) ∧
    ∀ place f st', ((Value.object 1).coerce [] (orSized 2) place).perform runner world = (.error f, st') →
      f.isA .argumentTypeMismatch = false := by
  obtain ⟨m, haccepted⟩ := accepted_orSized (.inr rfl)
  refine ⟨⟨m, haccepted⟩, behaves_crate, ?_⟩
  intro place f st' h
  exact Value.accepted_is_not_refused ordered_world declaredOverClasses_world (Memo.honest_empty world)
    genuine_crate behaves_crate haccepted h

end HasSize
end MemberAccess
