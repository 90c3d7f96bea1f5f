import MemberAccess.Proofs.EqualAssignability
import MemberAccess.Proofs.RefusalWording
import MemberAccess.Proofs.SpecialMethods

/-!
# The converters of equal types

Which converter a type gets respects equality up to the texts of its refusals, except that the converter
of a union takes its members in the order in which they stand.  Two relations between equal types say
what is known about that order: `InOrder` when the members stand in the same one, and a common `flat` set
of members when they do not.

Added rules may be for one type and not for an equal one; that is up to whoever adds them, and
`RespectsEquality` says that it does not happen.

The last section shows on integers why the order counts: they are of no numeric class but their own, so
the first member of a union that takes numbers decides what becomes of them.
-/

namespace MemberAccess

open MemberAccess.Action

/-- The rules treat a type and its equals alike. -/
def RespectsEquality (rules : List Rule) : Prop :=
  ∀ r ∈ rules, ∀ t u : TypeForm, t.equal u = true →
    r.isFor t = r.isFor u ∧ (r.isFor t = true → Converter.Alike (.rule r t) (.rule r u))

/-- Rules that are for classes alone treat a type and its equals alike. -/
theorem respectsEquality_of_classes {rules : List Rule}
    (h : ∀ r ∈ rules, ∀ t, r.isFor t = true → ∃ c, t = .cls c) : RespectsEquality rules := by
  intro r hr t u htu
  refine ⟨?_, ?_⟩
  · rw [Bool.eq_iff_iff]
    constructor
    · intro ht
      obtain ⟨c, rfl⟩ := h r hr t ht
      rwa [TypeForm.eq_cls_of_equal htu]
    · intro hu
      obtain ⟨c, rfl⟩ := h r hr u hu
      rwa [TypeForm.eq_cls_of_equal (TypeForm.equal_symm htu)]
  · intro ht
    obtain ⟨c, rfl⟩ := h r hr t ht
    rw [TypeForm.eq_cls_of_equal htu]
    exact .refl _

namespace Store

variable {st : Store} {rules : List Rule} {t u : TypeForm}

/-! ## §1  The cases of the choice -/

theorem converter?_of_isAny (h : t.normalize.isAny = true) : st.converter? rules t = none := by
  rw [converter?, if_pos h]

theorem converter?_of_rule {r : Rule} (h : t.normalize.isAny = false)
    (hr : rules.find? (·.isFor t.normalize) = some r) :
    st.converter? rules t = some (.rule r t.normalize) := by
  rw [converter?, if_neg (by simp [h]), hr]

theorem converter?_of_union {i : Mark} {s : UnionSpelling} {ts : List TypeForm}
    (h : t.normalize.isAny = false) (hr : rules.find? (·.isFor t.normalize) = none)
    (ht : t.normalize = .union i s ts) :
    st.converter? rules t = (st.converters? rules ts).map fun cs =>
      .union cs (ts.filterMap TypeForm.runtimeClass?) (t.normalize.typeName st) := by
  rw [converter?, if_neg (by simp [h]), hr]
  simp only
  split
  case h_1 hn =>
    rw [ht, TypeForm.union.injEq] at hn
    obtain ⟨rfl, rfl, rfl⟩ := hn
    rw [ht]
  case h_2 hn => exact absurd ht (hn _ _ _)

theorem converter?_of_plain (h : t.normalize.isAny = false)
    (hr : rules.find? (·.isFor t.normalize) = none) (ht : t.normalize.isUnion = false) :
    st.converter? rules t = st.plainConverter? t.normalize := by
  rw [converter?, if_neg (by simp [h]), hr]
  simp only
  split
  case h_1 hn =>
    rw [hn] at ht
    exact absurd ht (by simp [TypeForm.isUnion])
  case h_2 => rfl

/-- The rule for a type is the rule for its equals. -/
theorem find?_isFor_congr (hr : RespectsEquality rules) (h : t.equal u = true) :
    rules.find? (·.isFor t) = rules.find? (·.isFor u) := by
  induction rules with
  | nil => rfl
  | cons r rs ih =>
    rw [List.find?_cons, List.find?_cons, (hr r (by simp) t u h).1,
      ih fun r' hr' => hr r' (by simp [hr'])]

/-- The rule that is found for a type converts for its equals alike. -/
theorem alike_rule (hr : RespectsEquality rules) (h : t.equal u = true) {r : Rule}
    (hf : rules.find? (·.isFor t) = some r) : Converter.Alike (.rule r t) (.rule r u) :=
  (hr r (List.mem_of_find?_eq_some hf) t u h).2
    (List.find?_some (p := fun q : Rule => q.isFor t) hf)

theorem isArrayType_congr (h : t.equal u = true) : st.isArrayType t = st.isArrayType u := by
  cases TypeForm.equals_of_equal h <;> rfl

/-- Equal types that come to no union have one converter, but for its text. -/
theorem plainConverter?_congr (h : t.equal u = true) (ht : t.standsForUnion = false) :
    Option.Rel Converter.Alike (st.plainConverter? t) (st.plainConverter? u) := by
  have hcls : ∀ b, t = .builtin b ↔ u = .builtin b := fun b => by
    have := TypeForm.beq_cls_congr h (.builtin b)
    rwa [Bool.eq_iff_iff, beq_iff_eq, beq_iff_eq] at this
  simp only [plainConverter?, isArrayType_congr h, hcls, TypeForm.runtimeClass?_congr h ht]
  repeat' split
  all_goals first
    | exact .none
    | exact .some (.refl _)
    | exact .some (Converter.alike_instance _ _ _)

/-! ## §2  Members in the same order -/

end Store

mutual
/-- Two equal types list the members of their unions in the same order, and a union inside a union is
tested for in the same way. -/
inductive InOrder : TypeForm → TypeForm → Prop
  | plain {t u : TypeForm} : t.equal u = true → t.normalize.isUnion = false → InOrder t u
  | union {t u : TypeForm} {i j : Mark} {s s' : UnionSpelling} {ts us : List TypeForm} :
      t.equal u = true → t.normalize = .union i s ts → u.normalize = .union j s' us →
      MembersInOrder ts us → InOrder t u

/-- Two lists of members agree place by place. -/
inductive MembersInOrder : List TypeForm → List TypeForm → Prop
  | nil : MembersInOrder [] []
  | cons {t u : TypeForm} {ts us : List TypeForm} : InOrder t u → t.runtimeClass? = u.runtimeClass? →
      MembersInOrder ts us → MembersInOrder (t :: ts) (u :: us)
end

namespace Store

variable {st : Store} {rules : List Rule}

theorem classes_of_membersInOrder {ts us : List TypeForm} (h : MembersInOrder ts us) :
    ts.filterMap TypeForm.runtimeClass? = us.filterMap TypeForm.runtimeClass? := by
  induction ts generalizing us with
  | nil =>
    cases h
    rfl
  | cons t ts ih =>
    cases h with
    | cons _ hc hs => rw [List.filterMap_cons, List.filterMap_cons, hc, ih hs]

mutual
/-- **Types whose members stand in one order have one converter**, but for its texts. -/
theorem converter?_inOrder (hr : RespectsEquality rules) {t u : TypeForm} (h : InOrder t u)
    (hc : t.comparable = true) :
    Option.Rel Converter.Alike (st.converter? rules t) (st.converter? rules u) := by
  have htu : t.equal u = true := by cases h <;> assumption
  have hn := TypeForm.normalize_congr htu
  have hany := TypeForm.isAny_congr hn
  have hfind := find?_isFor_congr hr hn
  cases hta : t.normalize.isAny with
  | true =>
    rw [converter?_of_isAny hta, converter?_of_isAny (hany ▸ hta)]
    exact .none
  | false =>
    cases hf : rules.find? (·.isFor t.normalize) with
    | some r =>
      rw [converter?_of_rule hta hf, converter?_of_rule (hany ▸ hta) (hfind ▸ hf)]
      exact .some (alike_rule hr hn hf)
    | none =>
      cases h with
      | plain _ htn =>
        rw [converter?_of_plain hta hf htn, converter?_of_plain (hany ▸ hta) (hfind ▸ hf)
          (TypeForm.isUnion_congr hn ▸ htn)]
        exact plainConverter?_congr hn (TypeForm.standsForUnion_of_comparable hc htn)
      | @union _ _ i j s s' ts us _ htn hun hs =>
        have hcs := TypeForm.comparable_normalize hc
        rw [htn, TypeForm.comparable] at hcs
        rw [converter?_of_union hta hf htn, converter?_of_union (hany ▸ hta) (hfind ▸ hf) hun,
          classes_of_membersInOrder hs]
        have ih := converters?_inOrder hr hs hcs
        revert ih
        generalize st.converters? rules ts = cs
        generalize st.converters? rules us = cs'
        intro ih
        cases ih with
        | none => exact .none
        | some hcs => exact .some (Converter.alike_union hcs _ _ _)
termination_by t.weight
decreasing_by exact TypeForm.weights_lt_of_normalize htn

theorem converters?_inOrder (hr : RespectsEquality rules) : {ts us : List TypeForm} →
    MembersInOrder ts us → TypeForm.comparableList ts = true →
    Option.Rel (List.Forall₂ Converter.Alike) (st.converters? rules ts) (st.converters? rules us)
  | [], [], .nil, _ => by
    rw [converters?]
    exact .some .nil
  | t :: ts, u :: us, .cons ht _ hs, hc => by
    rw [TypeForm.comparableList, Bool.and_eq_true] at hc
    have iht := converter?_inOrder hr ht hc.1
    have ihs := converters?_inOrder hr hs hc.2
    rw [converters?, converters?]
    revert iht ihs
    generalize st.converter? rules t = c
    generalize st.converter? rules u = c'
    generalize st.converters? rules ts = cs
    generalize st.converters? rules us = cs'
    intro iht ihs
    cases iht with
    | none => exact .none
    | some hc =>
      cases ihs with
      | none => exact .none
      | some hcs => exact .some (.cons hc hcs)
termination_by ts => TypeForm.weights ts
decreasing_by all_goals simp only [TypeForm.weights]; omega
end

end Store

/-! ## §3  The same members in any order -/

/-- No member of a union stands for a union itself. -/
def TypeForm.isFlat (t : TypeForm) : Bool := t.normalize.members.all fun u => !u.standsForUnion

theorem inOrder_of_not_standsForUnion {t u : TypeForm} (h : t.equal u = true)
    (ht : t.standsForUnion = false) : InOrder t u :=
  .plain h (TypeForm.isUnion_normalize ht)

namespace Store

variable {st : Store} {rules : List Rule}

theorem mem_converters? {ts : List TypeForm} {cs : List Converter}
    (h : st.converters? rules ts = some cs) :
    (∀ c ∈ cs, ∃ t ∈ ts, st.converter? rules t = some c) ∧
      ∀ t ∈ ts, ∃ c ∈ cs, st.converter? rules t = some c := by
  induction ts generalizing cs with
  | nil =>
    rw [converters?, Option.some.injEq] at h
    subst h
    exact ⟨by simp, by simp⟩
  | cons t ts ih =>
    rw [converters?] at h
    cases hc : st.converter? rules t with
    | none => simp [hc] at h
    | some c =>
      cases hcs : st.converters? rules ts with
      | none => simp [hcs] at h
      | some cs' =>
        simp only [hc, hcs, Option.some.injEq] at h
        subst h
        obtain ⟨ih₁, ih₂⟩ := ih hcs
        constructor
        · rintro c' (_ | ⟨_, hc'⟩)
          · exact ⟨t, by simp, hc⟩
          · obtain ⟨u, hu, he⟩ := ih₁ c' hc'
            exact ⟨u, by simp [hu], he⟩
        · rintro u (_ | ⟨_, hu⟩)
          · exact ⟨c, by simp, hc⟩
          · obtain ⟨c', hc', he⟩ := ih₂ u hu
            exact ⟨c', by simp [hc'], he⟩

/-- A list of types has converters as soon as each of them has one. -/
theorem exists_converters? {ts : List TypeForm}
    (h : ∀ t ∈ ts, ∃ c, st.converter? rules t = some c) :
    ∃ cs, st.converters? rules ts = some cs := by
  induction ts with
  | nil => exact ⟨[], by rw [converters?]⟩
  | cons t ts ih =>
    obtain ⟨c, hc⟩ := h t (by simp)
    obtain ⟨cs, hcs⟩ := ih fun u hu => h u (by simp [hu])
    exact ⟨c :: cs, by rw [converters?, hc, hcs]⟩

/-- A member of one flat union has, but for its text, the converter of its equal in the other. -/
theorem alike_of_flat (hr : RespectsEquality rules) {t u : TypeForm} {c : Converter}
    (h : t.equal u = true) (ht : t.standsForUnion = false) (hc : t.comparable = true)
    (hconv : st.converter? rules t = some c) :
    ∃ c', st.converter? rules u = some c' ∧ Converter.Alike c c' := by
  have hrel : Option.Rel Converter.Alike (st.converter? rules t) (st.converter? rules u) :=
    converter?_inOrder hr (inOrder_of_not_standsForUnion h ht) hc
  rw [hconv] at hrel
  generalize st.converter? rules u = c' at hrel
  cases hrel with
  | some hw => exact ⟨_, rfl, hw⟩

/-- The members of two flat unions with the same members: each has its equal on the other side. -/
structure SameMembers (ts us : List TypeForm) : Prop where
  forth : ∀ x ∈ ts, ∃ y ∈ us, x.equal y = true
  back : ∀ y ∈ us, ∃ x ∈ ts, x.equal y = true
  flat : ∀ x ∈ ts, x.standsForUnion = false
  comparable : ∀ x ∈ ts, x.comparable = true

namespace SameMembers

variable {ts us : List TypeForm} {cs cs' : List Converter}

theorem symm (h : SameMembers ts us) : SameMembers us ts := by
  refine ⟨?_, ?_, ?_, ?_⟩
  · intro y hy
    obtain ⟨x, hx, hxy⟩ := h.back y hy
    exact ⟨x, hx, TypeForm.equal_symm hxy⟩
  · intro x hx
    obtain ⟨y, hy, hxy⟩ := h.forth x hx
    exact ⟨y, hy, TypeForm.equal_symm hxy⟩
  · intro y hy
    obtain ⟨x, hx, hxy⟩ := h.back y hy
    exact (TypeForm.standsForUnion_congr hxy).symm.trans (h.flat x hx)
  · intro y hy
    obtain ⟨x, hx, hxy⟩ := h.back y hy
    exact TypeForm.comparable_of_equal hxy (h.comparable x hx)

/-- A member that has a converter has its equal, with the same converter but for its text. -/
theorem exists_counterpart (h : SameMembers ts us) (hr : RespectsEquality rules) {x : TypeForm}
    {c : Converter} (hx : x ∈ ts) (hc : st.converter? rules x = some c) :
    ∃ y ∈ us, ∃ c', st.converter? rules y = some c' ∧ Converter.Alike c c' := by
  obtain ⟨y, hy, hxy⟩ := h.forth x hx
  obtain ⟨c', hyc, hw⟩ := alike_of_flat hr hxy (h.flat x hx) (h.comparable x hx) hc
  exact ⟨y, hy, c', hyc, hw⟩

/-- If all members of one side have converters, so have those of the other. -/
theorem converters?_ne_none (h : SameMembers ts us) (hr : RespectsEquality rules)
    (hts : st.converters? rules ts = some cs) : st.converters? rules us ≠ none := by
  have hall : ∀ y ∈ us, ∃ c', st.converter? rules y = some c' := by
    intro y hy
    obtain ⟨x, hx, hxy⟩ := h.back y hy
    obtain ⟨c, -, hxc⟩ := (mem_converters? hts).2 x hx
    obtain ⟨c', hyc, -⟩ := alike_of_flat hr hxy (h.flat x hx) (h.comparable x hx) hxc
    exact ⟨c', hyc⟩
  obtain ⟨cs', hus⟩ := exists_converters? hall
  simp [hus]

/-- Each converter of one side is found on the other. -/
theorem exists_mem_alike (h : SameMembers ts us) (hr : RespectsEquality rules)
    (hts : st.converters? rules ts = some cs) (hus : st.converters? rules us = some cs') :
    ∀ c ∈ cs, ∃ c' ∈ cs', Converter.Alike c c' := by
  intro c hc
  obtain ⟨x, hx, hxc⟩ := (mem_converters? hts).1 c hc
  obtain ⟨y, hy, c₁, hyc, hw⟩ := h.exists_counterpart hr hx hxc
  obtain ⟨c', hc', hyc'⟩ := (mem_converters? hus).2 y hy
  rw [hyc, Option.some.injEq] at hyc'
  exact ⟨c', hc', hyc' ▸ hw⟩

/-- Each class of one side is found on the other. -/
theorem mem_classes (h : SameMembers ts us) {k : ClassRef} (hk : k ∈ ts.filterMap TypeForm.runtimeClass?) :
    k ∈ us.filterMap TypeForm.runtimeClass? := by
  obtain ⟨x, hx, hxk⟩ := List.mem_filterMap.mp hk
  obtain ⟨y, hy, hxy⟩ := h.forth x hx
  exact List.mem_filterMap.mpr ⟨y, hy, by rw [← TypeForm.runtimeClass?_congr hxy (h.flat x hx), hxk]⟩

end SameMembers

/-- Equal flat unions have the same members. -/
theorem exists_sameMembers {t u : TypeForm} {i : Mark} {s : UnionSpelling} {ts : List TypeForm}
    (h : t.equal u = true) (hc : t.comparable = true) (htn : t.normalize = .union i s ts)
    (hflat : ∀ x ∈ ts, x.standsForUnion = false) :
    ∃ j s' us, u.normalize = .union j s' us ∧ SameMembers ts us := by
  obtain ⟨j, s', us, hun, hforth, hback⟩ := TypeForm.exists_union_of_equal h htn
  refine ⟨j, s', us, hun, hforth, hback, hflat, ?_⟩
  intro x hx
  exact TypeForm.comparable_of_mem_normalize hc htn hx

/-- **The converters of two flat unions are made of the same ones**, where there are any: they are alike, or
unions of the same classes and of converters that are alike. -/
theorem converter?_flat (hr : RespectsEquality rules) {t u : TypeForm} {i : Mark} {s : UnionSpelling}
    {ts : List TypeForm} (h : t.equal u = true) (hc : t.comparable = true)
    (htn : t.normalize = .union i s ts) (hflat : ∀ x ∈ ts, x.standsForUnion = false) :
    (st.converter? rules t = none ∧ st.converter? rules u = none) ∨
      (∃ c c', st.converter? rules t = some c ∧ st.converter? rules u = some c' ∧
        Converter.Alike c c') ∨
      ∃ cs ks e cs' ks' e', st.converter? rules t = some (.union cs ks e) ∧
        st.converter? rules u = some (.union cs' ks' e') ∧ (∀ k, k ∈ ks ↔ k ∈ ks') ∧
        (∀ c ∈ cs, ∃ c' ∈ cs', Converter.Alike c c') ∧
        ∀ c' ∈ cs', ∃ c ∈ cs, Converter.Alike c c' := by
  obtain ⟨j, s', us, hun, hsame⟩ := exists_sameMembers h hc htn hflat
  have hfind := find?_isFor_congr hr (TypeForm.normalize_congr h)
  have hta : t.normalize.isAny = false := by rw [htn]; rfl
  have hua : u.normalize.isAny = false := by rw [hun]; rfl
  cases hf : rules.find? (·.isFor t.normalize) with
  | some r =>
    exact .inr (.inl ⟨_, _, converter?_of_rule hta hf, converter?_of_rule hua (hfind ▸ hf),
      alike_rule hr (TypeForm.normalize_congr h) hf⟩)
  | none =>
    rw [converter?_of_union hta hf htn, converter?_of_union hua (hfind ▸ hf) hun]
    cases hts : st.converters? rules ts with
    | none =>
      cases hus : st.converters? rules us with
      | none => exact .inl ⟨rfl, rfl⟩
      | some cs' => exact absurd hts (hsame.symm.converters?_ne_none hr hus)
    | some cs =>
      cases hus : st.converters? rules us with
      | none => exact absurd hus (hsame.converters?_ne_none hr hts)
      | some cs' =>
        refine .inr (.inr ⟨cs, _, _, cs', _, _, rfl, rfl, ?_, ?_, ?_⟩)
        · intro k
          exact ⟨hsame.mem_classes, hsame.symm.mem_classes⟩
        · exact hsame.exists_mem_alike hr hts hus
        · intro c' hc'
          obtain ⟨c, hc, hw⟩ := hsame.symm.exists_mem_alike hr hus hts c' hc'
          exact ⟨c, hc, hw.symm⟩

end Store

/-! ## §4  Results -/

namespace Accessor

variable {st₀ : Store} {rules : List Rule}

/-- What a result is turned into by the converter of a type, if that has one. -/
def resultBy (d : MemberDescriptor) (c : Option Converter) (v : Value) : Action Value :=
  match c with
  | none => return v
  | some c => convertResult d c v

/-- Where the order of members is the same, or does not matter for the result at hand. -/
def OrderSettled (st₀ : Store) (rules : List Rule) (d : MemberDescriptor) (t u : TypeForm) (v : Value)
    (run : Runner) (st : Store) : Prop :=
  InOrder t u ∨ t.isFlat = true ∧ ∀ ms ks e, st₀.converter? rules t = some (.union ms ks e) →
    Converter.OneWay ms ks v ("result of the " ++ d.text st) run st

/-- **Equal pinned types turn a result into the same value**, where the order of their members is
settled. -/
theorem alike_resultBy (hr : RespectsEquality rules) {d : MemberDescriptor} {t u : TypeForm} {v : Value}
    {run : Runner} {st : Store} (h : t.equal u = true) (hc : t.comparable = true)
    (ho : OrderSettled st₀ rules d t u v run st) :
    AlikeRuns ((resultBy d (st₀.converter? rules t) v).perform run st)
      ((resultBy d (st₀.converter? rules u) v).perform run st) := by
  have hin : InOrder t u → AlikeRuns ((resultBy d (st₀.converter? rules t) v).perform run st)
      ((resultBy d (st₀.converter? rules u) v).perform run st) := by
    intro hin
    have hrel : Option.Rel Converter.Alike (st₀.converter? rules t) (st₀.converter? rules u) :=
      Store.converter?_inOrder hr hin hc
    revert hrel
    generalize st₀.converter? rules t = c
    generalize st₀.converter? rules u = c'
    intro hrel
    cases hrel with
    | none => exact .refl _
    | some hw => exact alike_convertResult (hw _ _ _ _)
  rcases ho with ho | ⟨hflat, hone⟩
  · exact hin ho
  · cases htu : t.normalize.isUnion with
    | false => exact hin (.plain h htu)
    | true =>
      obtain ⟨i, s, ts, htn⟩ := TypeForm.exists_of_isUnion htu
      have hflat' : ∀ x ∈ ts, x.standsForUnion = false := by
        simpa [TypeForm.isFlat, htn, TypeForm.members] using hflat
      rcases Store.converter?_flat hr h hc htn hflat' with
        ⟨ht, hu⟩ | ⟨c, c', ht, hu, hw⟩ | ⟨cs, ks, e, cs', ks', e', ht, hu, hk, hcs, hcs'⟩
      · rw [ht, hu]
        exact .refl _
      · rw [ht, hu]
        exact alike_convertResult (hw _ _ _ _)
      · rw [ht, hu]
        exact alike_convertResult (Converter.alike_rearranged hk hcs hcs' (hone _ _ _ ht))

end Accessor

/-! ## §5  Integers -/

section

variable {st st' : Store} {run : Runner} {place e : String} {n : Int} {x : Number.Double}

namespace Value

theorem toFloat_int (hx : Number.Double.ofInt n = some x) :
    (toFloat (.int n)).perform run st = (.ok x, st) := by
  have hs : st.specialMethod? (.int n) "__float__" = none :=
    Store.specialMethod?_of_builtin (b := .int) rfl _
  unfold toFloat
  rw [perform_bind_get, hs]
  simp only [Store.atomOf?, Option.bind, floatOfAtom?, floatOfInt, hx]
  rfl

theorem toComplex_int (hx : Number.Double.ofInt n = some x) :
    (toComplex (.int n)).perform run st = (.ok (x, Number.Double.zero false), st) := by
  have hs : st.specialMethod? (.int n) "__complex__" = none :=
    Store.specialMethod?_of_builtin (b := .int) rfl _
  unfold toComplex
  rw [perform_bind_get, hs]
  exact perform_bind_ok (toFloat_int hx)

theorem orRefuse_ok {α : Type} {v : Value} {kinds : List ErrorKind} {y : Action α} {a : α}
    (h : y.perform run st = (.ok a, st')) : (orRefuse v place e kinds y).perform run st = (.ok a, st') := by
  rw [orRefuse, perform_tryCatch, h]

/-- An integer becomes the float nearest to it. -/
theorem convertFloat_int (hx : Number.Double.ofInt n = some x) :
    (convertFloat (.int n) place).perform run st = (.ok (.float x), st) :=
  perform_bind_ok (toFloat_int hx)

/-- An integer becomes the complex number nearest to it. -/
theorem convertComplex_int (hx : Number.Double.ofInt n = some x) :
    (convertComplex (.int n) place).perform run st = (.ok (.complex x (Number.Double.zero false)), st) :=
  orRefuse_ok (perform_bind_ok (toComplex_int hx))

end Value

/-- A union gives what its first member gives, if that takes a value that is of none of the classes. -/
theorem Converter.apply_union_of_first {c : Converter} {cs : List Converter} {ks : List ClassRef}
    {v w : Value} (hk : (v.isInstanceOfSome ks).perform run st = (.ok false, st))
    (hc : (c.apply v place).perform run st = (.ok w, st')) :
    ((Converter.union (c :: cs) ks e).apply v place).perform run st = (.ok w, st') := by
  rw [apply, perform_bind_ok hk, if_neg (by simp), applyFirst, perform_tryCatch, hc]

end
end MemberAccess
