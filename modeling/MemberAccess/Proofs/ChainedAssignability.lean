import MemberAccess.Proofs.AnsweredQuestions

/-!
# Assignability in steps

What flows into a type should flow wherever that type flows.  It mostly does (`Memo.accepted_steps_chain`):
equality chains, argument by argument too, and so do ancestry and registration.  But assignability is put
together from rules that do not all compose, and the places where they do not are listed (`Store.Gap`).  Numbers
widen, and what stands below a number does not.  A class is looked for among what its ancestors were declared
over, and what these stand below in turn is not.  And a class that stands below another by its members alone
need not stand below what that one names, nor have all the members that it has.

Without unions and unknown types in between there are no other gaps.  A shape that was accepted with a pinned
result stays accepted with a wider one, except across a gap.
-/

namespace MemberAccess

/-! ## §1  Arguments -/

namespace Argument

/-- An annotation, or the parameters of a callable. -/
inductive IsTyped : Argument → Prop
  | single (t : TypeForm) : IsTyped (.single t)
  | group (ts : List TypeForm) : IsTyped (.group ts)

variable {a b c : Argument}

theorem IsTyped.alike_self (ha : a.IsTyped) : a.Alike a := by
  cases ha with
  | single t => exact .single (TypeForm.equal_refl t)
  | group ts =>
    refine .group (TypeForm.equalList_iff.mpr ?_)
    exact List.forall₂_same.mpr fun t _ => TypeForm.equal_refl t

theorem IsTyped.alike_of_equal (ha : a.IsTyped) (hb : b.IsTyped) (h : a.equal b = true) : a.Alike b := by
  cases ha with
  | single s =>
    cases hb with
    | single t => exact .single h
    | group ts => simp [Argument.equal] at h
  | group ss =>
    cases hb with
    | single t => simp [Argument.equal] at h
    | group ts => exact .group h

/-- What agrees place by place with arguments agrees with what these agree with. -/
theorem allBelow_trans {as bs cs : List Argument} (ha : ∀ a ∈ as, a.IsTyped) (hb : ∀ b ∈ bs, b.IsTyped)
    (hc : ∀ c ∈ cs, c.IsTyped) (h : allBelow as bs = true) (h' : allBelow bs cs = true) :
    allBelow as cs = true := by
  induction as generalizing bs cs with
  | nil =>
    cases bs with
    | nil => exact h'
    | cons b bs => cases h
  | cons a as ih =>
    cases bs with
    | nil => cases h
    | cons b bs =>
      cases cs with
      | nil => cases h'
      | cons c cs =>
        simp only [List.forall_mem_cons] at ha hb hc
        simp only [allBelow, Bool.and_eq_true, Bool.or_eq_true] at h h' ⊢
        refine ⟨?_, ih ha.2 hb.2 hc.2 h.2 h'.2⟩
        rcases h'.1 with hbc | hany
        · have halike := hb.1.alike_of_equal hc.1 hbc
          rcases h.1 with hab | hany
          · rw [← equal_congr ha.1.alike_self halike]
            exact .inl hab
          · rw [← isAny_congr halike]
            exact .inr hany
        · exact .inr hany

end Argument

namespace TypeForm

variable {t : TypeForm}

/-- What applies a class applies it to annotations and parameters. -/
theorem isTyped_of_origin {c : ClassRef} (h : t.origin? = some (.cls c)) :
    ∀ a ∈ t.arguments, a.IsTyped := by
  have hsingle (ts : List TypeForm) : ∀ a ∈ ts.map Argument.single, a.IsTyped := by
    simp only [List.forall_mem_map]
    exact fun t _ => .single t
  cases t with
  | union | «alias» => exact hsingle _
  | callable i ps r =>
    by_cases hps : ps = [.ellipsis]
    · subst hps
      exact hsingle [.ellipsis, r]
    · rw [arguments_callable hps]
      simp only [List.forall_mem_cons]
      exact ⟨.group ps, .single r, by simp⟩
  | annotated | classVar | final | literal => cases h
  | _ => simp [arguments]

theorem eq_annotated_of_origin? (h : t.origin? = some (.form .annotated)) :
    ∃ i u ns, t = .annotated i u ns := by
  unfold origin? at h
  split at h <;> simp_all

/-- What is normal has no notes. -/
theorem origin?_ne_annotated (hn : t.normalize = t) : t.origin? ≠ some (.form .annotated) := by
  intro h
  obtain ⟨i, u, ns, rfl⟩ := eq_annotated_of_origin? h
  have hu := weight_normalize_le u
  simp only [normalize] at hn
  rw [hn, weight] at hu
  omega

/-- What describes instances of a class and applies nothing is the class. -/
theorem eq_cls_of_runtimeClass? {c : ClassRef} (hn : t.normalize = t) (ho : t.origin? = Option.none)
    (h : t.runtimeClass? = some c) : t = .cls c ∧ c ≠ .builtin .any := by
  have hany : t ≠ .builtin .any := by
    rintro rfl
    cases h
  simp only [runtimeClass?, hn, hany, if_false, ho] at h
  split at h
  case h_1 d =>
    obtain rfl := Option.some.inj h
    refine ⟨rfl, ?_⟩
    rintro rfl
    exact hany rfl
  case h_2 => cases h

end TypeForm

/-! ## §2  Gaps -/

namespace Store

/-- The lists of members by which a class is tested: it has every class that has all of one list. -/
def memberTests (st : Store) : ClassRef → List (List String)
  | .builtin .protocol =>
      builtinProtocols ++ ((List.range st.classes.size).filter fun i =>
        (st.classInfo i).isProtocol && (st.classInfo i).isRuntimeProtocol && st.hasMethodsOnly (.user i)).map
          fun i => st.protocolMembers (.user i)
  | .builtin b => b.requiredMethods.toList
  | .user i => if (st.classInfo i).isProtocol then [st.protocolMembers (.user i)] else []

/-- **Where two steps do not make one**: `a` flows into `b`, and `b` into `c`. -/
inductive Gap (st : Store) (a b c : TypeForm) : Prop
  /-- a number widens, and what stands below it does not -/
  | narrower : a ≠ b → st.derivesBelow a b = true → b.promotes c = true → Gap st a b c
  /-- a number is widened into one that is written in another way -/
  | rewritten {k : ClassRef} : a.promotes b = true → b = .cls k → c.runtimeClass? = some k → c ≠ b →
      Gap st a b c
  /-- a class was declared over what is applied, and only what was declared is looked through, not what it
  stands below in turn -/
  | declaredBelow {k : ClassRef} {own above : Origin} : a = .cls k → st.declaredOver k b = true →
      b.origin? = some own → c.origin? = some above → own.descends st above = true →
      Argument.allBelow b.arguments c.arguments = true → st.declaredOver k c = false → Gap st a b c
  /-- what applies a class is not looked up among what its ancestors were declared over -/
  | appliedBelow {k : ClassRef} : a.origin? ≠ none → b = .cls k → st.declaredOver k c = true →
      Gap st a b c
  /-- a class stands below another by its members alone, and what this was declared over is not looked for -/
  | structural {k l : ClassRef} : a = .cls k → b = .cls l → st.isSubclass k l = true →
      st.descends k l = false → st.declaredOver l c = true → Gap st a b c
  /-- a class stands below another by its members alone, and does not name what this names -/
  | unnamed {x y z : ClassRef} : a.runtimeClass? = some x → b.runtimeClass? = some y →
      c.runtimeClass? = some z → st.isSubclass x y = true → st.names x y = false → y ≠ z →
      st.names y z = true → Gap st a b c
  /-- a class lacks one of the members that what it flows into has, and by which the last one is tested -/
  | lacking {x y z : ClassRef} {ns : List String} {n : String} : a.runtimeClass? = some x →
      b.runtimeClass? = some y → c.runtimeClass? = some z → ns ∈ st.memberTests z →
      st.providesAll y ns = true → n ∈ ns → st.providesMember x n = false → Gap st a b c

/-! ## §3  Steps of ancestry -/

variable {st : Store} {a b c : TypeForm} {x y z : ClassRef}

/-- Nothing is registered with the class of all protocols. -/
theorem isRegistered_protocol : st.isRegistered x .protocol = false := by
  have hno : ∀ b : Builtin, .protocol ∉ b.registered := by
    intro b
    cases b <;> decide
  rw [Bool.eq_false_iff]
  intro h
  obtain ⟨a, -, ha⟩ := isRegistered_iff.mp h
  exact hno a ha

/-- What has a subclass may be tested for, but for the class of all protocols. -/
theorem isUntestable_of_isSubclass (h : st.isSubclass y z = true) (hz : z ≠ .builtin .protocol) :
    st.isUntestable z = false := by
  rw [Bool.eq_false_iff]
  intro ht
  cases z with
  | builtin b => simp_all [isUntestable, isProtocol]
  | user i => simp_all [isUntestable, isProtocol, isRuntimeProtocol, isSubclass, subclassTest]

/-- What names a class that has subclasses is one. -/
theorem isSubclass_of_names (h : st.isSubclass y z = true) (hx : st.names x z = true) :
    st.isSubclass x z = true := by
  by_cases hz : z = .builtin .protocol
  · subst hz
    rw [names, isRegistered_protocol, Bool.or_false] at hx
    simp [isSubclass, subclassTest, hx]
  · have ht := isUntestable_of_isSubclass h hz
    rw [isSubclass, subclassTest_of_names hx ht (testsQuietly_of_isSubclass h ht)]

/-- **What is a subclass without naming the class has the members of one of its lists**, and whatever has these
is a subclass, too. -/
theorem exists_memberTest (h : st.isSubclass y z = true) (hno : st.names y z = false) :
    ∃ ns ∈ st.memberTests z, st.providesAll y ns = true ∧
      ∀ x, st.providesAll x ns = true → st.isSubclass x z = true := by
  by_cases hz : z = .builtin .protocol
  · subst hz
    have hdescends : st.descends y (.builtin .protocol) = false := by
      rw [Bool.eq_false_iff] at hno ⊢
      exact fun hd => hno (names_of_descends hd)
    have htest := h
    simp only [isSubclass, subclassTest, hdescends, Bool.false_or, Bool.or_eq_true, List.any_eq_true,
      Bool.and_eq_true] at htest
    rcases htest with ⟨ns, hns, hy⟩ | ⟨i, hi, hruntime, hy⟩
    · refine ⟨ns, by simp [memberTests, hns], hy, fun x hx => ?_⟩
      simp only [isSubclass, subclassTest, Bool.or_eq_true, List.any_eq_true]
      exact .inl (.inr ⟨ns, hns, hx⟩)
    · refine ⟨st.protocolMembers (.user i), ?_, hy, fun x hx => ?_⟩
      · simp only [memberTests, List.mem_append, List.mem_map, List.mem_filter, Bool.and_eq_true]
        exact .inr ⟨i, ⟨hi, hruntime⟩, rfl⟩
      · simp only [isSubclass, subclassTest, Bool.or_eq_true, List.any_eq_true, Bool.and_eq_true]
        exact .inr ⟨i, hi, hruntime, hx⟩
  cases hm : st.testsMembers z with
  | false =>
    rw [isSubclass_of_plain hm, hno] at h
    cases h
  | true =>
    have ht := isUntestable_of_isSubclass h hz
    have htest (x : ClassRef) := subclassTest_of_members (c := x) hm ht (testsQuietly_of_isSubclass h ht)
    rw [isSubclass, htest, hno, Bool.or_false] at h
    refine ⟨st.askedMembers z, ?_, h, fun x hx => by rw [isSubclass, htest, hx, Bool.true_or]⟩
    cases z with
    | builtin b =>
      have hb : b ≠ .protocol := fun hb => hz (by rw [hb])
      obtain ⟨ns, hns⟩ : ∃ ns, b.requiredMethods = some ns := by
        simpa [testsMembers, hb, Option.isSome_iff_exists] using hm
      simp [memberTests, askedMembers, hns]
    | user i =>
      have hp : (st.classInfo i).isProtocol = true := hm
      simp [memberTests, askedMembers, hp]

/-- A class is a subclass of what another has the members for, or lacks one of them. -/
theorem isSubclass_or_lacking (ha : a.runtimeClass? = some x) (hb : b.runtimeClass? = some y)
    (hc : c.runtimeClass? = some z) (h : st.isSubclass y z = true) (hno : st.names y z = false) :
    st.isSubclass x z = true ∨ st.Gap a b c := by
  obtain ⟨ns, hns, hy, hall⟩ := exists_memberTest h hno
  cases hx : st.providesAll x ns with
  | true => exact .inl (hall x hx)
  | false =>
    obtain ⟨n, hn, hlacks⟩ := List.all_eq_false.mp hx
    exact .inr (.lacking ha hb hc hns hy hn (Bool.eq_false_iff.mpr hlacks))

/-- **Three classes in a row chain, or there is a gap.** -/
theorem Ordered.isSubclass_or_gap (ho : st.Ordered) (ha : a.runtimeClass? = some x)
    (hb : b.runtimeClass? = some y) (hc : c.runtimeClass? = some z)
    (h : st.isSubclass x y = true ∨ st.descends x y = true) (h' : st.isSubclass y z = true) :
    st.isSubclass x z = true ∨ st.Gap a b c := by
  cases hyz : st.names y z with
  | false => exact isSubclass_or_lacking ha hb hc h' hyz
  | true =>
    cases hxy : st.names x y with
    | true => exact .inl (isSubclass_of_names h' (ho.names_trans hxy hyz))
    | false =>
      have hsub : st.isSubclass x y = true := by
        refine h.resolve_right fun hd => ?_
        rw [names_of_descends hd] at hxy
        cases hxy
      by_cases heq : y = z
      · exact .inl (heq ▸ hsub)
      · exact .inr (.unnamed ha hb hc hsub hxy heq hyz)

/-- What a class descends from was declared over is found for the class, too. -/
theorem Ordered.declaredOver_of_descends (ho : st.Ordered) (h : st.descends x y = true)
    (hy : st.declaredOver y c = true) : st.declaredOver x c = true := by
  simp only [declaredOver, List.any_eq_true] at hy ⊢
  obtain ⟨k, hk, hover⟩ := hy
  exact ⟨k, descends_iff.mp (ho.trans h (descends_iff.mpr hk)), hover⟩

/-- Only classes apply below what is applied, and only to annotations and parameters. -/
theorem exists_classes_of_descends {own above : Origin} (hn : a.normalize = a)
    (h : a.origin? = some own) (hdescends : own.descends st above = true) :
    ∃ x y, own = .cls x ∧ above = .cls y ∧ st.isSubclass x y = true := by
  cases own with
  | cls x =>
    cases above with
    | cls y => exact ⟨x, y, rfl, rfl, hdescends⟩
    | form f => simp [Origin.descends] at hdescends
  | form f =>
    cases f <;> first | (simp [Origin.descends] at hdescends; done) | skip
    case annotated => exact absurd h (TypeForm.origin?_ne_annotated hn)

/-- A step of ancestry before one to what is applied. -/
theorem Ordered.below_applied_or_gap {own above : Origin} (ho : st.Ordered) (ha : a.normalize = a)
    (hb : b.normalize = b) (hc : c.normalize = c) (hobject : b ≠ .builtin .object)
    (hequal : a.equal b ≠ true) (hab : st.Below a b) (hbo : b.origin? = some own)
    (hco : c.origin? = some above) (hargs : c.arguments ≠ []) (hdescends : own.descends st above = true)
    (hbelow : Argument.allBelow b.arguments c.arguments = true) :
    st.derivesBelow a c = true ∨ st.Gap a b c := by
  obtain ⟨y, z, rfl, rfl, hyz⟩ := exists_classes_of_descends hb hbo hdescends
  cases hab with
  | equal h => exact absurd h hequal
  | top htop => exact absurd htop hobject
  | @applied own' above' hao hbo' _ hdescends' hbelow' =>
    rw [hbo, Option.some.injEq] at hbo'
    subst hbo'
    obtain ⟨x, y', rfl, heq, hxy⟩ := exists_classes_of_descends ha hao hdescends'
    cases heq
    have hxyz := ho.isSubclass_or_gap (TypeForm.runtimeClass?_of_origin ha hao)
      (TypeForm.runtimeClass?_of_origin hb hbo) (TypeForm.runtimeClass?_of_origin hc hco) (.inl hxy) hyz
    refine hxyz.imp_left fun hxz => derivesBelow_iff.mpr (.applied hao hco hargs hxz ?_)
    exact Argument.allBelow_trans (TypeForm.isTyped_of_origin hao) (TypeForm.isTyped_of_origin hbo)
      (TypeForm.isTyped_of_origin hco) hbelow' hbelow
  | @declared k _ hcls hao _ _ hover =>
    cases hover' : st.declaredOver k c with
    | true => exact .inl (derivesBelow_iff.mpr (.declared hcls hao hco hargs hover'))
    | false => exact .inr (.declaredBelow hcls hover hbo hco hdescends hbelow hover')
  | classes hplain =>
    -- nothing that is applied is above what is applied to nothing
    rcases hplain with hplain | hplain
    · rw [hbo] at hplain
      cases hplain
    · rw [hplain] at hbelow
      cases hca : c.arguments with
      | nil => exact absurd hca hargs
      | cons w ws =>
        rw [hca] at hbelow
        cases hbelow

/-- A step of ancestry before one to what a class was declared over. -/
theorem Ordered.below_declared_or_gap {l : ClassRef} {above : Origin} (ho : st.Ordered)
    (ha : a.normalize = a) (hb : b.normalize = b) (hobject : b ≠ .builtin .object)
    (hequal : a.equal b ≠ true) (hab : st.Below a b) (hcls : b = .cls l) (hbo : b.origin? = none)
    (hco : c.origin? = some above) (hargs : c.arguments ≠ []) (hover : st.declaredOver l c = true) :
    st.derivesBelow a c = true ∨ st.Gap a b c := by
  cases hab with
  | equal h => exact absurd h hequal
  | top htop => exact absurd htop hobject
  | applied _ hbo' | declared _ _ hbo' =>
    rw [hbo] at hbo'
    cases hbo'
  | @classes x y _ hx hy hxy =>
    obtain ⟨hcls', -⟩ := TypeForm.eq_cls_of_runtimeClass? hb hbo hy
    rw [hcls, TypeForm.cls.injEq] at hcls'
    subst hcls'
    cases hao : a.origin? with
    | some own => exact .inr (.appliedBelow (by simp [hao]) hcls hover)
    | none =>
      obtain ⟨hacls, -⟩ := TypeForm.eq_cls_of_runtimeClass? ha hao hx
      cases hxl : st.descends x l with
      | true =>
        have hoverx := ho.declaredOver_of_descends hxl hover
        exact .inl (derivesBelow_iff.mpr (.declared hacls hao hco hargs hoverx))
      | false => exact .inr (.structural hacls hcls hxy hxl hover)

/-- A step of ancestry before one to what is applied to nothing, which stands above the classes below its
own. -/
theorem Ordered.below_classes_or_gap (ho : st.Ordered) (ha : a.normalize = a) (hb : b.normalize = b)
    (hbs : b.standsForUnion = false) (hobject : b ≠ .builtin .object) (hequal : a.equal b ≠ true)
    (hab : st.Below a b) (hplain : c.origin? = none ∨ c.arguments = []) (hy : b.runtimeClass? = some y)
    (hz : c.runtimeClass? = some z) (hyz : st.isSubclass y z = true) :
    st.derivesBelow a c = true ∨ st.Gap a b c := by
  have hdone {x : ClassRef} (hx : a.runtimeClass? = some x)
      (hxy : st.isSubclass x y = true ∨ st.descends x y = true) :
      st.derivesBelow a c = true ∨ st.Gap a b c :=
    (ho.isSubclass_or_gap hx hy hz hxy hyz).imp_left fun hxz =>
      derivesBelow_iff.mpr (.classes hplain hx hz hxz)
  cases hab with
  | equal h => exact absurd h hequal
  | top htop => exact absurd htop hobject
  | applied hao hbo _ hdescends _ =>
    obtain ⟨x, y', rfl, rfl, hxy⟩ := exists_classes_of_descends ha hao hdescends
    obtain rfl := Option.some.inj ((TypeForm.runtimeClass?_of_origin hb hbo).symm.trans hy)
    exact hdone (TypeForm.runtimeClass?_of_origin ha hao) (.inl hxy)
  | declared hcls _ _ _ hover =>
    obtain ⟨hany, hdescends⟩ := ho.descends_of_declaredOver hbs hover hy
    subst hcls
    exact hdone (TypeForm.runtimeClass?_cls hany) (.inr hdescends)
  | classes _ hx hy' hxy =>
    obtain rfl := Option.some.inj (hy.symm.trans hy')
    exact hdone hx (.inl hxy)

/-- **Two steps of ancestry make one, or there is a gap**, by cases on both steps. -/
theorem Ordered.below_or_gap (ho : st.Ordered) (ha : a.normalize = a) (hau : a.isUnion = false)
    (hb : b.normalize = b) (hbu : b.isUnion = false) (hc : c.normalize = c) (hcu : c.isUnion = false)
    (hobject : b ≠ .builtin .object) (hab : st.Below a b) (hbc : st.Below b c) :
    st.derivesBelow a c = true ∨ st.Gap a b c := by
  have has := TypeForm.standsForUnion_of_normal ha hau
  have hbs := TypeForm.standsForUnion_of_normal hb hbu
  have hcs := TypeForm.standsForUnion_of_normal hc hcu
  by_cases hequal : a.equal b = true
  · rw [derivesBelow_congr hequal (TypeForm.equal_refl c) has hcs]
    exact .inl (derivesBelow_iff.mpr hbc)
  by_cases hequal' : b.equal c = true
  · rw [← derivesBelow_congr (TypeForm.equal_refl a) hequal' has hbs]
    exact .inl (derivesBelow_iff.mpr hab)
  cases hbc with
  | equal h => exact absurd h hequal'
  | top htop => exact .inl (derivesBelow_iff.mpr (.top htop))
  | applied hbo hco hargs hdescends hbelow =>
    exact ho.below_applied_or_gap ha hb hc hobject hequal hab hbo hco hargs hdescends hbelow
  | declared hcls hbo hco hargs hover =>
    exact ho.below_declared_or_gap ha hb hobject hequal hab hcls hbo hco hargs hover
  | classes hplain hy hz hyz =>
    exact ho.below_classes_or_gap ha hb hbs hobject hequal hab hplain hy hz hyz

end Store

/-! ## §4  Steps of assignability -/

namespace TypeForm

variable {a b c : TypeForm}

theorem promotes_iff : a.promotes b = true ↔
    a = .builtin .int ∧ (b = .builtin .float ∨ b = .builtin .complex) ∨
      a = .builtin .float ∧ b = .builtin .complex := by
  simp only [promotes, Bool.or_eq_true, Bool.and_eq_true, beq_iff_eq]

theorem promotes_trans (h : a.promotes b = true) (h' : b.promotes c = true) : a.promotes c = true := by
  rw [promotes_iff] at h h' ⊢
  rcases h with ⟨rfl, rfl | rfl⟩ | ⟨rfl, rfl⟩
  · exact .inl ⟨rfl, .inr (by simpa using h')⟩
  · simp at h'
  · simp at h'

/-- No union, and normal: what is compared as it is. -/
structure ComparedAsIs (t : TypeForm) : Prop where
  normal : t.normalize.normalize = t.normalize
  noUnion : t.normalize.isUnion = false

theorem comparedAsIs_cls (c : ClassRef) : (TypeForm.cls c).ComparedAsIs := ⟨rfl, rfl⟩

theorem ComparedAsIs.unwrapped (h : a.ComparedAsIs) : a.Unwrapped := by
  intro u hu
  rw [leaves_of_plain h.noUnion, List.mem_singleton] at hu
  rw [hu, h.normal]

end TypeForm

namespace Store

variable {st : Store} {a b c : TypeForm}

/-- The ancestors of a number and what it is registered with are also those of the numbers that widen to it,
apart from itself. -/
theorem names_of_wider {n w : Builtin} (hlineage : ∀ b ∈ w.lineage, b = w ∨ b = .object)
    (hregistered : ∀ b ∈ w.registered, b ∈ n.registered) {e : ClassRef}
    (h : st.names (.builtin w) e = true) : e = .builtin w ∨ st.names (.builtin n) e = true := by
  rcases names_iff.mp h with h | ⟨a, b, rfl, ha, hb⟩
  · obtain ⟨b, hb, rfl⟩ := descends_builtin_iff.mp h
    rcases hlineage b hb with rfl | rfl
    · exact .inl rfl
    · exact .inr (names_of_descends (descends_builtin_iff.mpr ⟨.object, n.object_mem_lineage, rfl⟩))
  · obtain ⟨a', ha', heq⟩ := descends_builtin_iff.mp ha
    cases heq
    rcases hlineage a ha' with rfl | rfl
    · have hself : st.descends (.builtin n) (.builtin n) = true :=
        descends_builtin_iff.mpr ⟨n, n.mem_lineage_self, rfl⟩
      exact .inr (names_iff.mpr (.inr ⟨n, b, rfl, hself, hregistered b hb⟩))
    · cases hb

/-- What widens is a class of numbers, and so is what it widens to. -/
theorem exists_of_promotes (st : Store) (h : a.promotes b = true) : ∃ n w : Builtin,
    b = .builtin w ∧ a.runtimeClass? = some (.builtin n) ∧ b.runtimeClass? = some (.builtin w) ∧
      b.origin? = none ∧
      ∀ e, st.names (.builtin w) e = true → e = .builtin w ∨ st.names (.builtin n) e = true := by
  rcases TypeForm.promotes_iff.mp h with ⟨rfl, rfl | rfl⟩ | ⟨rfl, rfl⟩
  · exact ⟨.int, .float, rfl, rfl, rfl, rfl, fun e => names_of_wider (by decide) (by decide)⟩
  · exact ⟨.int, .complex, rfl, rfl, rfl, rfl, fun e => names_of_wider (by decide) (by decide)⟩
  · exact ⟨.float, .complex, rfl, rfl, rfl, rfl, fun e => names_of_wider (by decide) (by decide)⟩

/-- **What a number widens to stands below nothing that the number does not**, or there is a gap. -/
theorem below_of_promotes (h : a.promotes b = true) (hbc : st.Below b c) :
    a.promotes c = true ∨ st.derivesBelow a c = true ∨ st.Gap a b c := by
  obtain ⟨n, w, hw, hna, hwb, hbo, hnames⟩ := exists_of_promotes st h
  cases hbc with
  | equal hequal =>
    rw [hw] at hequal
    rw [TypeForm.eq_cls_of_equal hequal]
    rw [hw] at h
    exact .inl h
  | top htop => exact .inr (.inl (derivesBelow_iff.mpr (.top htop)))
  | applied hbo' =>
    rw [hbo] at hbo'
    cases hbo'
  | declared hcls _ _ _ hover =>
    rw [hw, TypeForm.cls.injEq] at hcls
    subst hcls
    simp only [declaredOver, List.any_eq_true] at hover
    obtain ⟨k, hk, t, ht, -⟩ := hover
    obtain ⟨k, -, rfl⟩ := mem_lineage_builtin.mp hk
    cases ht
  | @classes k e hplain hk he hsub =>
    obtain rfl := Option.some.inj (hwb.symm.trans hk)
    have hbelow (hne : st.isSubclass (.builtin n) e = true) : st.derivesBelow a c = true :=
      derivesBelow_iff.mpr (.classes hplain hna he hne)
    cases hwe : st.names (.builtin w) e with
    | false => exact .inr ((isSubclass_or_lacking hna hwb he hsub hwe).imp_left hbelow)
    | true =>
      rcases hnames e hwe with rfl | hne
      · by_cases hcb : c = b
        · rw [hcb]
          exact .inl h
        · exact .inr (.inr (.rewritten h hw he hcb))
      · exact .inr (.inl (hbelow (isSubclass_of_names hsub hne)))

/-- What is compared as it is flows by being let through, widened, or below the target. -/
theorem isAssignable_asIs_iff (ha : a.ComparedAsIs) (hb : b.ComparedAsIs) :
    st.isAssignable a b = .ok true ↔ a.passes b ∨
      a.normalize ≠ .builtin .object ∧ (a.normalize.hashable = true ∧ b.normalize.hashable = true) ∧
        (a.normalize.promotes b.normalize = true ∨ st.derivesBelow a.normalize b.normalize = true) := by
  by_cases hp : a.passes b
  · rw [isAssignable, assignableVia_of_passes hp]
    exact iff_of_true rfl (.inl hp)
  · rw [isAssignable, assignableVia_plain hp hb.noUnion ha.noUnion, or_iff_right hp]
    split
    case isTrue hobject => exact iff_of_false (fun h => Bool.false_ne_true (Except.ok.inj h)) fun h => h.1 hobject
    split
    case isTrue hhash =>
      rw [Bool.not_eq_true', ← Bool.not_eq_true, Bool.and_eq_true] at hhash
      exact iff_of_false (fun h => by cases h) fun h => hhash h.2.1
    case isFalse hobject hhash =>
      rw [Bool.not_eq_true', Bool.not_eq_false, Bool.and_eq_true] at hhash
      split
      case isTrue hpromotes => exact iff_of_true rfl ⟨hobject, hhash, .inl hpromotes⟩
      case isFalse hpromotes =>
        constructor
        · intro h
          exact ⟨hobject, hhash, .inr (Except.ok.inj h)⟩
        · rintro ⟨-, -, h | h⟩
          · exact absurd h hpromotes
          · exact congrArg Except.ok h

/-- Two steps, each of ancestry or a widening, make one or the other, or there is a gap. -/
theorem Ordered.step_or_gap (ho : st.Ordered) (ha : a.normalize = a) (hau : a.isUnion = false)
    (hb : b.normalize = b) (hbu : b.isUnion = false) (hc : c.normalize = c) (hcu : c.isUnion = false)
    (hobject : b ≠ .builtin .object) (hab : a.promotes b = true ∨ st.derivesBelow a b = true)
    (hbc : b.promotes c = true ∨ st.derivesBelow b c = true) :
    (a.promotes c = true ∨ st.derivesBelow a c = true) ∨ st.Gap a b c := by
  rw [or_assoc]
  rcases hab with hab | hab
  · rcases hbc with hbc | hbc
    · exact .inl (TypeForm.promotes_trans hab hbc)
    · exact below_of_promotes hab (derivesBelow_iff.mp hbc)
  · rcases hbc with hbc | hbc
    · by_cases heq : a = b
      · rw [heq]
        exact .inl hbc
      · exact .inr (.inr (.narrower heq hab hbc))
    · exact .inr (ho.below_or_gap ha hau hb hbu hc hcu hobject (derivesBelow_iff.mp hab)
        (derivesBelow_iff.mp hbc))

/-- **Two steps of assignability make one, or there is a gap.** -/
theorem Ordered.isAssignable_or_gap (ho : st.Ordered) (ha : a.ComparedAsIs) (hb : b.ComparedAsIs)
    (hc : c.ComparedAsIs) (hany : b.normalize ≠ .builtin .any) (hab : st.isAssignable a b = .ok true)
    (hbc : st.isAssignable b c = .ok true) :
    st.isAssignable a c = .ok true ∨ st.Gap a.normalize b.normalize c.normalize := by
  have hpass (hp : a.passes c) : st.isAssignable a c = .ok true :=
    (isAssignable_asIs_iff ha hc).mpr (.inl hp)
  rcases (isAssignable_asIs_iff hb hc).mp hbc with (heq | hcany | hbany) | ⟨hobject, hhash, hstep'⟩
  · rw [← show st.isAssignable a b = st.isAssignable a c from assignableVia_congr rfl heq]
    exact .inl hab
  · exact .inl (hpass (.inr (.inl hcany)))
  · exact absurd hbany hany
  rcases (isAssignable_asIs_iff ha hb).mp hab with (heq | hbany | haany) | ⟨hobject', hhash', hstep⟩
  · rw [show st.isAssignable a c = st.isAssignable b c from assignableVia_congr heq rfl]
    exact .inl hbc
  · rw [TypeForm.isAny, Bool.or_eq_true, beq_iff_eq, beq_iff_eq] at hbany
    exact absurd hbany (not_or.mpr ⟨hany, hobject⟩)
  · exact .inl (hpass (.inr (.inr haany)))
  have hsteps := ho.step_or_gap ha.normal ha.noUnion hb.normal hb.noUnion hc.normal hc.noUnion hobject
    hstep hstep'
  refine hsteps.imp_left fun hstep => (isAssignable_asIs_iff ha hc).mpr (.inr ?_)
  exact ⟨hobject', ⟨hhash'.1, hhash.2⟩, hstep⟩

end Store

/-! ## §5  Answers after any history, and pinned results -/

namespace Contract

variable {st : Store} {d : MemberDescriptor} {s : Shape} {a b c : TypeForm} {qs : List Question}
  {m m₁ m' : Memo}

/-- Looking at a receiver asks at most one question. -/
theorem exists_after_checkReceiver (hm : Memo.After st qs m)
    (h : (checkReceiver st d s).run.run m = (.ok (), m₁)) : ∃ qs', Memo.After st qs' m₁ := by
  unfold checkReceiver at h
  split at h
  case h_1 base _ =>
    obtain ⟨b, m₂, hasked, h⟩ := exists_of_run_bind h
    cases b with
    | true =>
      obtain rfl : m₂ = m₁ := congrArg Prod.snd h
      have hafter := Memo.After.ask (.assigns base d.declaring) hm
      rw [Question.ask, hasked] at hafter
      exact ⟨_, hafter⟩
    | false => cases h
  case h_2 =>
    cases h
    exact ⟨qs, hm⟩

/-- A pinned result passes exactly if the type of the member is accepted for it. -/
theorem exists_checkPinned_iff (hset : s.family ≠ .set) (hs : s.result? = some b) :
    (∃ m', (checkPinned st d s).run.run m = (.ok (), m')) ↔ m.Accepts st d.valueType b := by
  unfold checkPinned Memo.Accepts
  rw [hs]
  simp only [if_neg hset]
  rcases hasked : (Memo.isAssignable st d.valueType b).run.run m with ⟨f | fits, m₂⟩
  · rw [run_bind_error hasked]
    exact iff_of_false (fun ⟨m', h⟩ => nomatch h) nofun
  · rw [run_bind_ok hasked]
    cases fits with
    | true => exact iff_of_true ⟨m₂, rfl⟩ rfl
    | false => exact iff_of_false (fun ⟨m', h⟩ => nomatch h) nofun

end Contract

namespace Memo

variable {st : Store} {a b c : TypeForm} {qs : List Question} {m : Memo}

theorem Accepts.or_gap (ho : st.Ordered) (hm : After st qs m) (ha : a.ComparedAsIs)
    (hb : b.ComparedAsIs) (hc : c.ComparedAsIs) (hany : b.normalize ≠ .builtin .any)
    (hab : m.Accepts st a b) (hbc : m.Accepts st b c) :
    m.Accepts st a c ∨ st.Gap a.normalize b.normalize c.normalize := by
  rw [accepts_iff hm ha.unwrapped hb.unwrapped] at hab
  rw [accepts_iff hm hb.unwrapped hc.unwrapped] at hbc
  rw [accepts_iff hm ha.unwrapped hc.unwrapped]
  exact ho.isAssignable_or_gap ha hb hc hany hab hbc

/-- **Accepted steps chain**, after every history, or there is a gap: what is accepted for a type is
accepted where that type is.  So a member that was accepted with a pinned result is accepted with a wider
one. -/
theorem accepted_steps_chain (ho : st.Ordered) (hm : After st qs m) (ha : a.ComparedAsIs)
    (hb : b.ComparedAsIs) (hc : c.ComparedAsIs) (hany : b.normalize ≠ .builtin .any)
    (hbc : m.Accepts st b c) :
    (m.Accepts st a b → m.Accepts st a c ∨ st.Gap a.normalize b.normalize c.normalize) ∧
    ∀ (d : MemberDescriptor) (s : Shape) (m' : Memo), d.valueType = a → s.isValueProducing = true →
      s.result? = some b → (Contract.check st d s).run.run m = (.ok (), m') →
      (∃ m'', (Contract.check st d { s with result? := some c }).run.run m = (.ok (), m'')) ∨
        st.Gap a.normalize b.normalize c.normalize := by
  refine ⟨fun hab => hab.or_gap ho hm ha hb hc hany hbc, ?_⟩
  rintro d s m' rfl hvalue hs hcheck
  have hset : s.family ≠ .set := by
    intro hset
    rw [Shape.isValueProducing, hset] at hvalue
    cases hvalue
  obtain ⟨m₁, hpassed⟩ := Contract.passed_of_check hcheck
  obtain ⟨qs', hm₁⟩ := Contract.exists_after_checkReceiver hm hpassed.receiver
  have hab : m₁.Accepts st d.valueType b :=
    (Contract.exists_checkPinned_iff hset hs).mp ⟨m', hpassed.pinned⟩
  -- the wider type is compared after the receiver was looked at, which makes no difference
  have hbc' : m₁.Accepts st b c := by
    rw [accepts_iff hm hb.unwrapped hc.unwrapped] at hbc
    rwa [accepts_iff hm₁ hb.unwrapped hc.unwrapped]
  refine (hab.or_gap ho hm₁ ha hb hc hany hbc').imp_left fun hac => ?_
  have hwider : ∃ m'', (Contract.checkPinned st d { s with result? := some c }).run.run m₁ =
      (.ok (), m'') :=
    (Contract.exists_checkPinned_iff (s := { s with result? := some c }) hset rfl).mpr hac
  obtain ⟨m'', hwider⟩ := hwider
  have hpassed' : Contract.Passed st d { s with result? := some c } m m₁ m'' :=
    ⟨hpassed.family, hpassed.arity, hpassed.value, hpassed.static, hpassed.receiver, hwider, hpassed.side⟩
  exact ⟨m'', hpassed'.check⟩

end Memo
/-! ## §6  Numbers and boxes -/

namespace Boxes

/-- Boxes of anything, boxes of integers, and boxes of integers with a tag of any type. -/
def world : Store :=
  { Store.empty with
    classes := #[
      { (default : ClassInfo) with
        name := "Box"
        qualifiedName := "Box"
        bases := [.builtin .generic]
        genericBases := [.alias 0 .generic (.builtin .generic) [.variable "T"]]
        lineage := [.user 0, .builtin .generic, .builtin .object]
        parameters := ["T"]
        hasFields := true },
      { (default : ClassInfo) with
        name := "IntBox"
        qualifiedName := "IntBox"
        bases := [.user 0]
        genericBases := [.alias 1 .generic (.user 0) [.builtin .int]]
        lineage := [.user 1, .user 0, .builtin .generic, .builtin .object]
        hasFields := true },
      { (default : ClassInfo) with
        name := "Tagged"
        qualifiedName := "Tagged"
        bases := [.user 0, .builtin .generic]
        genericBases := [.alias 1 .generic (.user 0) [.builtin .int],
          .alias 0 .generic (.builtin .generic) [.variable "T"]]
        lineage := [.user 2, .user 0, .builtin .generic, .builtin .object]
        parameters := ["T"]
        hasFields := true }] }

/-- The boxes of a type. -/
def boxOf (t : TypeForm) : TypeForm := .alias 0 .generic (.user 0) [t]

/-- Whether something is set. -/
def isSet : MemberDescriptor :=
  { MemberDescriptor.bare .field (.cls (.user 0)) "is_set" with valueType := .builtin .bool }

/-- Reading a field, with the type of its value pinned. -/
def reading (t : TypeForm) : Shape := .getter none (some t) true

/-- What is remembered after it was asked whether integers are truth values. -/
def asked : Memo := ((Memo.derives .empty (.builtin .int) (.builtin .bool)).run.run .empty).2

theorem no_gap_bool_int_integral :
    ¬ Store.empty.Gap (.builtin .bool) (.builtin .int) (.builtin .integralNumber) := by
  rintro (⟨-, -, h⟩ | ⟨h⟩ | ⟨-, -, h⟩ | ⟨h⟩ | ⟨-, hl, -, -, h⟩ | ⟨hx, hy, -, -, h⟩ | ⟨-, -, hz, h, -⟩)
  · exact absurd h (by decide)
  · exact absurd h (by decide)
  · cases h
  · exact h rfl
  · cases hl
    exact absurd h (by decide)
  · cases hx
    cases hy
    exact absurd h (by decide)
  · cases hz
    cases h

/-- Truth values are integers, and integers are integral numbers; so truth values are too, and a field that
was accepted with its value pinned to integers is accepted with integral numbers. -/
theorem bool_flows_into_integral_number :
    ∃ qs m m', Store.empty.Ordered ∧ Memo.After .empty qs m ∧
      m.Accepts .empty (.builtin .bool) (.builtin .int) ∧
      m.Accepts .empty (.builtin .int) (.builtin .integralNumber) ∧
      (Contract.check .empty isSet (reading (.builtin .int))).run.run m = (.ok (), m') ∧
      m.Accepts .empty (.builtin .bool) (.builtin .integralNumber) ∧
      ∃ m'', (Contract.check .empty isSet (reading (.builtin .integralNumber))).run.run m =
        (.ok (), m'') := by
  have hafter : Memo.After .empty [.derives (.builtin .int) (.builtin .bool)] asked :=
    .ask (.derives _ _) .start
  have hab : asked.Accepts .empty (.builtin .bool) (.builtin .int) := by decide +kernel
  have hbc : asked.Accepts .empty (.builtin .int) (.builtin .integralNumber) := by decide +kernel
  have hcheck : ((Contract.check .empty isSet (reading (.builtin .int))).run.run asked).1 = .ok () := by
    decide +kernel
  obtain ⟨hstep, hpinned⟩ := Memo.accepted_steps_chain Store.ordered_empty hafter
    (TypeForm.comparedAsIs_cls (.builtin .bool)) (TypeForm.comparedAsIs_cls (.builtin .int))
    (TypeForm.comparedAsIs_cls (.builtin .integralNumber)) (by decide) hbc
  have hac := (hstep hab).resolve_right no_gap_bool_int_integral
  have hwider := (hpinned isSet (reading (.builtin .int)) _ rfl rfl rfl (Prod.ext hcheck rfl)).resolve_right
    no_gap_bool_int_integral
  exact ⟨_, _, _, Store.ordered_empty, hafter, hab, hbc, Prod.ext hcheck rfl, hac, hwider⟩

/-- **Steps that do not chain.**  Truth values are integers, and integers widen to floats; truth values do
not, so a field that was accepted with its value pinned to integers is refused with floats.  Boxes of integers
by name are boxes of integers, which are boxes of objects; and what is tagged with a text is tagged, which is
a box of integers. -/
theorem steps_that_do_not_chain :
    (Memo.empty.Accepts .empty (.builtin .bool) (.builtin .int) ∧
      Memo.empty.Accepts .empty (.builtin .int) (.builtin .float) ∧
      ¬ Memo.empty.Accepts .empty (.builtin .bool) (.builtin .float)) ∧
    (((Contract.check .empty isSet (reading (.builtin .int))).run.run .empty).1 = .ok () ∧
      ((Contract.check .empty isSet (reading (.builtin .float))).run.run .empty).1 ≠ .ok ()) ∧
    (Memo.empty.Accepts world (.cls (.user 1)) (boxOf (.builtin .int)) ∧
      Memo.empty.Accepts world (boxOf (.builtin .int)) (boxOf (.builtin .object)) ∧
      ¬ Memo.empty.Accepts world (.cls (.user 1)) (boxOf (.builtin .object))) ∧
    (Memo.empty.Accepts world (.alias 0 .generic (.user 2) [.builtin .str]) (.cls (.user 2)) ∧
      Memo.empty.Accepts world (.cls (.user 2)) (boxOf (.builtin .int)) ∧
      ¬ Memo.empty.Accepts world (.alias 0 .generic (.user 2) [.builtin .str]) (boxOf (.builtin .int))) := by
  decide +kernel

end Boxes
end MemberAccess
