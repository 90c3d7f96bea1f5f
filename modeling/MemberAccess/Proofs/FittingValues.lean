import MemberAccess.Proofs.FaithfulMemos
import MemberAccess.Proofs.InstanceTests

/-!
# Values that fit a type

A value *fits* a type when the type takes anything, when it is an instance of the class whose instances
the type describes, when there is no such class to test for, or, for a union, when it fits a member.

Assignability is meant to carry this over: what fits the source should fit the target.  It does so member
by leaf of the two types (`flows_of_accepted`), and fails to in two ways that are meant.  A value of
unknown type flows everywhere, and a number flows into a wider type before it was widened.  A member of the
source that flows into the target in no other way is *hidden* by it.  Whatever fits a member that is not
hidden fits the target (`Fits.of_flows`), provided that the hierarchy is ordered and the classes settle
that instances of one are instances of the other.
-/

namespace MemberAccess

open MemberAccess.Action

namespace TypeForm

/-! ## §1  Leaves -/

/-- What a type comes to when all its unions are unfolded. -/
def leaves (t : TypeForm) : List TypeForm :=
  match _h : t.normalize with
  | .union _ _ ts => ts.attach.flatMap fun ⟨u, _⟩ => leaves u
  | u => [u]
termination_by t.weight
decreasing_by
  have := weight_lt_of_mem ‹_ ∈ ts›
  have := weights_lt_of_normalize _h
  omega

variable {t u : TypeForm} {i : Mark} {w : UnionSpelling} {ts : List TypeForm}

theorem leaves_of_union (h : t.normalize = .union i w ts) : t.leaves = ts.flatMap leaves := by
  rw [leaves]
  split
  case h_1 i' w' ts' h' =>
    rw [h, TypeForm.union.injEq] at h'
    obtain ⟨-, -, rfl⟩ := h'
    simp
  case h_2 => exact absurd h (‹∀ _ _ _, t.normalize = _ → False› _ _ _)

theorem leaves_of_plain (h : t.normalize.isUnion = false) : t.leaves = [t.normalize] := by
  rw [leaves]
  split
  case h_1 h' =>
    rw [h'] at h
    cases h
  case h_2 => rfl

theorem normalize_mem_leaves (h : t.normalize.isUnion = false) : t.normalize ∈ t.leaves := by
  rw [leaves_of_plain h]
  exact List.mem_singleton_self _

/-- The leaves of a member are leaves of the union. -/
theorem mem_leaves_of_member {u' : TypeForm} (h : t.normalize = .union i w ts) (hu : u ∈ ts)
    (hu' : u' ∈ u.leaves) : u' ∈ t.leaves := by
  rw [leaves_of_union h, List.mem_flatMap]
  exact ⟨u, hu, hu'⟩

theorem leaves_congr (h : t.normalize = u.normalize) : t.leaves = u.leaves := by
  rw [leaves, leaves, h]

@[simp] theorem leaves_cls {c : ClassRef} : (TypeForm.cls c).leaves = [.cls c] := leaves_of_plain rfl

theorem isUnion_of_isAny (h : t.isAny = true) : t.isUnion = false := by
  cases t <;> first | rfl | simp [isAny] at h

/-- A type is a union of smaller ones or has itself as its only leaf. -/
theorem induction_leaves {P : TypeForm → Prop}
    (plain : ∀ t, t.normalize.isUnion = false → P t)
    (union : ∀ t i w ts, t.normalize = .union i w ts → (∀ u ∈ ts, P u) → P t) (t : TypeForm) : P t := by
  induction hn : t.weight using Nat.strong_induction_on generalizing t with
  | _ n ih =>
    subst hn
    cases ht : t.normalize.isUnion with
    | false => exact plain t ht
    | true =>
      obtain ⟨i, w, ts, htn⟩ := exists_of_isUnion ht
      refine union t i w ts htn ?_
      intro u hu
      refine ih _ ?_ u rfl
      have h₁ := weights_lt_of_normalize htn
      have h₂ := weight_lt_of_mem hu
      omega

/-- What a type that was formed properly may come to: normalizing it once more changes nothing, and the
class of everything has everything as instances by itself, without arguments. -/
structure IsLeaf (u : TypeForm) : Prop where
  normal : u.normalize = u
  bare : u.runtimeClass? = some (.builtin .object) → u = .builtin .object

/-- Whether a type was formed properly. -/
def Settled (t : TypeForm) : Prop := ∀ u ∈ t.leaves, u.IsLeaf

theorem isLeaf_cls {c : ClassRef} : (TypeForm.cls c).IsLeaf := by
  refine ⟨rfl, ?_⟩
  intro hobject
  by_cases hany : c = .builtin .any
  · subst hany
    cases hobject
  · rw [runtimeClass?_cls hany] at hobject
    rw [Option.some.inj hobject]

theorem settled_cls {c : ClassRef} : (TypeForm.cls c).Settled := by
  intro u hu
  rw [leaves_cls, List.mem_singleton] at hu
  exact hu ▸ isLeaf_cls

/-- The classes of a type are tested for by ancestry and registration alone. -/
def TestedPlainly (t : TypeForm) (st : Store) : Prop :=
  ∀ u ∈ t.leaves, ∀ c, u.runtimeClass? = some c → st.testsMembers c = false ∧ c ≠ .builtin .any

theorem testedPlainly_cls {st : Store} {c : ClassRef} (hplain : st.testsMembers c = false)
    (hany : c ≠ .builtin .any) : (TypeForm.cls c).TestedPlainly st := by
  intro u hu d hd
  rw [leaves_cls, List.mem_singleton] at hu
  subst hu
  obtain rfl := Option.some.inj ((runtimeClass?_cls hany).symm.trans hd)
  exact ⟨hplain, hany⟩

theorem isUnion_of_mem_leaves (h : u ∈ t.leaves) : u.isUnion = false := by
  induction t using induction_leaves with
  | plain t ht =>
    rw [leaves_of_plain ht, List.mem_singleton] at h
    rw [h]
    exact ht
  | union t i w ts ht ih =>
    rw [leaves_of_union ht, List.mem_flatMap] at h
    obtain ⟨t', ht', hu⟩ := h
    exact ih t' ht' hu

/-- Whether no variable and no wrapper is left in what a type comes to: normalizing that once more changes
nothing. -/
def Unwrapped (t : TypeForm) : Prop := ∀ u ∈ t.leaves, u.normalize = u

theorem Unwrapped.of_mem (h : t.Unwrapped) (ht : t.normalize = .union i w ts) (hu : u ∈ ts) :
    u.Unwrapped := by
  intro u' hu'
  exact h u' (mem_leaves_of_member ht hu hu')

theorem unwrapped_of_union (ht : t.normalize = .union i w ts) (h : ∀ u ∈ ts, u.Unwrapped) :
    t.Unwrapped := by
  intro u' hu'
  rw [leaves_of_union ht, List.mem_flatMap] at hu'
  obtain ⟨u, hu, hu'⟩ := hu'
  exact h u hu u' hu'

theorem Unwrapped.normalize_normalize (h : t.Unwrapped) : t.normalize.normalize = t.normalize := by
  cases ht : t.normalize.isUnion with
  | false => exact h _ (normalize_mem_leaves ht)
  | true =>
    obtain ⟨i, w, ts, htn⟩ := exists_of_isUnion ht
    rw [htn]
    rfl

/-- An unwrapped type and its normal form have the same leaves. -/
theorem Unwrapped.leaves_normalize (h : t.Unwrapped) : t.normalize.leaves = t.leaves :=
  leaves_congr h.normalize_normalize

theorem Unwrapped.normalize (h : t.Unwrapped) : t.normalize.Unwrapped := by
  intro u hu
  rw [h.leaves_normalize] at hu
  exact h u hu

theorem Settled.unwrapped (h : t.Settled) : t.Unwrapped := fun u hu => (h u hu).normal

theorem unwrapped_cls {c : ClassRef} : (TypeForm.cls c).Unwrapped := settled_cls.unwrapped

theorem Settled.of_mem (h : t.Settled) (ht : t.normalize = .union i w ts) (hu : u ∈ ts) : u.Settled := by
  intro u' hu'
  exact h u' (mem_leaves_of_member ht hu hu')

/-- A settled type and its normal form have the same leaves. -/
theorem Settled.leaves_normalize (h : t.Settled) : t.normalize.leaves = t.leaves :=
  h.unwrapped.leaves_normalize

theorem Settled.normalize (h : t.Settled) : t.normalize.Settled := by
  intro u hu
  rw [h.leaves_normalize] at hu
  exact h u hu

/-- A normal form that is no union stands for none. -/
theorem standsForUnion_of_normal (hn : t.normalize = t) (hu : t.isUnion = false) :
    t.standsForUnion = false := by
  have hweight := weight_normalize_le
  cases t with
  | union => cases hu
  | bounded n b | annotated n b | classVar n b =>
    have hb := hweight b
    simp only [TypeForm.normalize] at hn
    rw [hn, weight] at hb
    omega
  | choice n b =>
    simp only [TypeForm.normalize] at hn
    have hb := congrArg weight hn
    rw [weight] at hb
    omega
  | _ => rfl

end TypeForm

/-! ## §2  Fitting -/

section
variable {st₀ : Store} {isOf : ClassRef → Prop} {v : Value}

/-- A value fits what is no union.  The store says which classes may not be tested for, and `isOf` what the
value is an instance of. -/
inductive FitsAt (st₀ : Store) (isOf : ClassRef → Prop) (v : Value) (u : TypeForm) : Prop
  | anything : u.isAny = true → FitsAt st₀ isOf v u
  | absent : u = .builtin .noneType → v = .nothing → FitsAt st₀ isOf v u
  | untested : (∀ c, u.runtimeClass? = some c → st₀.isUntestable c = true) → FitsAt st₀ isOf v u
  | instance {c : ClassRef} : u.runtimeClass? = some c → isOf c → FitsAt st₀ isOf v u

/-- **A value fits a type.** -/
inductive Fits (st₀ : Store) (isOf : ClassRef → Prop) (v : Value) : TypeForm → Prop
  | plain {t : TypeForm} : t.normalize.isUnion = false → FitsAt st₀ isOf v t.normalize →
      Fits st₀ isOf v t
  | member {t u : TypeForm} {i : Mark} {w : UnionSpelling} {ts : List TypeForm} :
      t.normalize = .union i w ts → u ∈ ts → Fits st₀ isOf v u → Fits st₀ isOf v t

/-- A value fits a type exactly when it fits a leaf of it. -/
theorem fits_iff_leaf {t : TypeForm} :
    Fits st₀ isOf v t ↔ ∃ u ∈ t.leaves, FitsAt st₀ isOf v u := by
  constructor
  · intro h
    induction h with
    | plain ht hu => exact ⟨_, TypeForm.normalize_mem_leaves ht, hu⟩
    | member ht hu _ ih =>
      obtain ⟨u', hu', hfits⟩ := ih
      exact ⟨u', TypeForm.mem_leaves_of_member ht hu hu', hfits⟩
  · rintro ⟨u, hu, hfits⟩
    induction t using TypeForm.induction_leaves with
    | plain t ht =>
      rw [TypeForm.leaves_of_plain ht, List.mem_singleton] at hu
      rw [hu] at hfits
      exact .plain ht hfits
    | union t i w ts ht ih =>
      rw [TypeForm.leaves_of_union ht, List.mem_flatMap] at hu
      obtain ⟨t', ht', hu⟩ := hu
      exact .member ht ht' (ih t' ht' hu)

/-- What fits a class that may be tested for is an instance of it. -/
theorem FitsAt.isOf_of_cls {c : ClassRef} (h : FitsAt st₀ isOf v (.cls c))
    (hany : (TypeForm.cls c).isAny = false) (hnone : c ≠ .builtin .noneType)
    (ht : st₀.isUntestable c = false) : isOf c := by
  have hclass : (TypeForm.cls c).runtimeClass? = some c := by
    refine TypeForm.runtimeClass?_cls ?_
    rintro rfl
    cases hany
  cases h with
  | anything hany' =>
    rw [hany] at hany'
    cases hany'
  | absent hnone' =>
    cases hnone'
    exact absurd rfl hnone
  | untested hno =>
    rw [hno c hclass] at ht
    cases ht
  | «instance» hc hof =>
    obtain rfl := Option.some.inj (hclass.symm.trans hc)
    exact hof

/-- What fits a type fits it for another notion of instances too, if what describes an instance at a leaf
does so for the other notion. -/
theorem Fits.imp {isOf' : ClassRef → Prop} {t : TypeForm} (h : Fits st₀ isOf v t)
    (himp : ∀ u ∈ t.leaves, ∀ c, u.runtimeClass? = some c → isOf c → FitsAt st₀ isOf' v u) :
    Fits st₀ isOf' v t := by
  obtain ⟨u, hu, hfits⟩ := fits_iff_leaf.mp h
  refine fits_iff_leaf.mpr ⟨u, hu, ?_⟩
  cases hfits with
  | anything hany => exact .anything hany
  | absent hnone hv => exact .absent hnone hv
  | untested hno => exact .untested hno
  | «instance» hc hof => exact himp u hu _ hc hof

theorem Fits.mono {isOf' : ClassRef → Prop} {t : TypeForm} (h : Fits st₀ isOf v t)
    (himp : ∀ c, isOf c → isOf' c) : Fits st₀ isOf' v t :=
  h.imp fun _ _ c hc hof => .instance hc (himp c hof)

/-- The same values fit a type and its normal form. -/
theorem fits_normalize {t : TypeForm} (ht : t.Settled) :
    Fits st₀ isOf v t.normalize ↔ Fits st₀ isOf v t := by
  rw [fits_iff_leaf, fits_iff_leaf, ht.leaves_normalize]

end

/-! ## §3  What assignability says of leaves -/

/-- A leaf takes values of another leaf as they are. -/
inductive Store.Takes (st : Store) (u w : TypeForm) : Prop
  | same : u = w → Takes st u w
  | anything : w.isAny = true → Takes st u w
  | below : u ≠ .builtin .object → st.derivesBelow u w = true → Takes st u w

/-- A leaf flows into a type: it is of unknown type, or a leaf of the type takes its values as they are or
widened. -/
def Store.Flows (st : Store) (u t : TypeForm) : Prop :=
  u = .builtin .any ∨ ∃ w ∈ t.leaves, st.Takes u w ∨ u.promotes w = true

/-- **A type that is accepted for another flows into it leaf by leaf.** -/
theorem flows_of_accepted {st : Store} {s t : TypeForm} {m m' : Memo} (hm : m.Faithful st)
    (hs : s.Settled) (ht : t.Settled)
    (h : (Memo.isAssignable st s t).run.run m = (.ok true, m')) : ∀ u ∈ s.leaves, st.Flows u t := by
  induction s, t using TypeForm.induction_compared generalizing m m' with
  | pass s t hp =>
    intro u hu
    rcases hp with heq | hany | hany
    · rw [TypeForm.leaves_congr heq] at hu
      exact .inr ⟨u, hu, .inl (.same rfl)⟩
    · exact .inr ⟨t.normalize, TypeForm.normalize_mem_leaves (TypeForm.isUnion_of_isAny hany),
        .inl (.anything hany)⟩
    · rw [TypeForm.leaves_of_plain (by rw [hany]; rfl), hany, List.mem_singleton] at hu
      exact .inl hu
  | toUnion s t i w ts hp htn ih =>
    rw [Memo.isAssignable, assignableVia_to_union hp htn] at h
    obtain ⟨t', ht', m₁, m₂, hm₁, hrun⟩ :=
      Ask.exists_of_run_anyM (fun t' _ => Memo.keeps_isAssignable st s.normalize t') hm h
    intro u hu
    rw [← hs.leaves_normalize] at hu
    rcases ih t' ht' hm₁ hs.normalize (ht.of_mem htn ht') hrun u hu with hany | ⟨w, hw, hflow⟩
    · exact .inl hany
    · exact .inr ⟨w, TypeForm.mem_leaves_of_member htn ht' hw, hflow⟩
  | fromUnion s t i w ss hp htu hsn ih =>
    rw [Memo.isAssignable, assignableVia_from_union hp htu hsn] at h
    intro u hu
    rw [TypeForm.leaves_of_union hsn, List.mem_flatMap] at hu
    obtain ⟨s', hs', hu⟩ := hu
    obtain ⟨m₁, m₂, hm₁, hrun⟩ :=
      Ask.forall_of_run_allM (fun s' _ => Memo.keeps_isAssignable st s' t.normalize) hm h s' hs'
    have hflow := ih s' hs' hm₁ (hs.of_mem hsn hs') ht.normalize hrun u hu
    rw [Store.Flows, ht.leaves_normalize] at hflow
    exact hflow
  | plain s t hp htu hsu =>
    rw [Memo.isAssignable, assignableVia_plain hp htu hsu] at h
    have hsl := TypeForm.normalize_mem_leaves hsu
    have htl := TypeForm.normalize_mem_leaves htu
    intro u hu
    rw [TypeForm.leaves_of_plain hsu, List.mem_singleton] at hu
    subst hu
    refine .inr ⟨t.normalize, htl, ?_⟩
    split at h
    case isTrue => cases h
    case isFalse hobject =>
      split at h
      case isTrue => cases h
      case isFalse hhash =>
        simp only [Bool.not_eq_true, Bool.not_eq_false', Bool.and_eq_true] at hhash
        split at h
        case isTrue hpromotes => exact .inr hpromotes
        case isFalse =>
          have hsn := TypeForm.standsForUnion_of_normal (hs _ hsl).normal hsu
          have htn := TypeForm.standsForUnion_of_normal (ht _ htl).normal htu
          obtain ⟨m₁, hrun, -⟩ := @Memo.says_derives st _ _ _ hhash.1 hhash.2 hsn htn m rfl
          rw [hrun] at h
          refine .inl (.below hobject ?_)
          rw [← hm _ _ hsn htn]
          exact Except.ok.inj (congrArg Prod.fst h)

/-! ## §4  What ancestry says of classes -/

namespace TypeForm

variable {u : TypeForm} {c : ClassRef}

theorem runtimeClass?_normalize {t : TypeForm} (h : t.normalize.normalize = t.normalize) :
    t.normalize.runtimeClass? = t.runtimeClass? := by
  unfold runtimeClass?
  rw [h]

theorem runtimeClass?_of_origin (hn : u.normalize = u) (h : u.origin? = some (.cls c)) :
    u.runtimeClass? = some c := by
  have hany : u ≠ .builtin .any := by
    rintro rfl
    cases h
  simp [runtimeClass?, hn, hany, h]

theorem runtimeClass?_of_form (hn : u.normalize = u) {f : BareForm} (h : u.origin? = some (.form f)) :
    u.runtimeClass? = Option.none := by
  have hany : u ≠ .builtin .any := by
    rintro rfl
    cases h
  simp [runtimeClass?, hn, hany, h]

end TypeForm

/-- A class stands below the class of what it or an ancestor was declared over. -/
theorem Store.Ordered.descends_of_declaredOver {st : Store} {w : TypeForm} {c d : ClassRef}
    (ho : st.Ordered) (hw : w.standsForUnion = false) (h : st.declaredOver c w = true)
    (hd : w.runtimeClass? = some d) : c ≠ .builtin .any ∧ st.descends c d = true := by
  simp only [declaredOver, List.any_eq_true] at h
  obtain ⟨k, hk, t, ht, hequal⟩ := h
  have hck : st.descends c k = true := descends_iff.mpr hk
  cases k with
  | builtin b => cases ht
  | user i =>
    have htd : t.runtimeClass? = some d := by
      rw [TypeForm.runtimeClass?_congr hequal (by rwa [TypeForm.standsForUnion_congr hequal])]
      exact hd
    refine ⟨?_, ho.trans hck (ho.declared ht htd)⟩
    rintro rfl
    obtain ⟨b, -, hb⟩ := descends_builtin_iff.mp hck
    cases hb

/-- **Ancestry of leaves is ancestry of the classes that they describe**, where the upper one describes
any and is not just the lower one in another spelling. -/
theorem Store.classes_of_derivesBelow {st : Store} {u w : TypeForm} (ho : st.Ordered)
    (hu : u.normalize = u) (hw : w.normalize = w) (hwu : w.isUnion = false)
    (h : st.derivesBelow u w = true) :
    w.isAny = true ∨ w.runtimeClass? = none ∨ u.equal w = true ∨
      ∃ c d, u.runtimeClass? = some c ∧ w.runtimeClass? = some d ∧
        (st.isSubclass c d = true ∨ st.descends c d = true) := by
  cases derivesBelow_iff.mp h with
  | equal hequal => exact .inr (.inr (.inl hequal))
  | top hobject => exact .inl (by rw [hobject]; rfl)
  | classes _ hc hd hsub => exact .inr (.inr (.inr ⟨_, _, hc, hd, .inl hsub⟩))
  | @applied own above hown hwo _ hdescends _ =>
    cases above with
    | form f => exact .inr (.inl (TypeForm.runtimeClass?_of_form hw hwo))
    | cls d =>
      have hd := TypeForm.runtimeClass?_of_origin hw hwo
      cases own with
      | form f => cases f <;> cases hdescends
      | cls c =>
        exact .inr (.inr (.inr ⟨c, d, TypeForm.runtimeClass?_of_origin hu hown, hd, .inl hdescends⟩))
  | @declared c above hcls _ hwo _ hover =>
    cases above with
    | form f => exact .inr (.inl (TypeForm.runtimeClass?_of_form hw hwo))
    | cls d =>
      have hd := TypeForm.runtimeClass?_of_origin hw hwo
      obtain ⟨hany, hcd⟩ := ho.descends_of_declaredOver (TypeForm.standsForUnion_of_normal hw hwu) hover hd
      subst hcls
      exact .inr (.inr (.inr ⟨c, d, TypeForm.runtimeClass?_cls hany, hd, .inr hcd⟩))

/-! ## §5  Fitting is carried over -/

namespace Store

/-- The classes have the ancestors that they had, and are protocols as they were. -/
structure SameHierarchy (st₀ st : Store) : Prop where
  size : st.classes.size = st₀.classes.size
  lineage : ∀ i, (st.classInfo i).lineage = (st₀.classInfo i).lineage
  genericBases : ∀ i, (st.classInfo i).genericBases = (st₀.classInfo i).genericBases
  isProtocol : ∀ i, (st.classInfo i).isProtocol = (st₀.classInfo i).isProtocol
  isRuntimeProtocol : ∀ i, (st.classInfo i).isRuntimeProtocol = (st₀.classInfo i).isRuntimeProtocol

/-- Whether a leaf flows into a type only because it is of unknown type, or only widened. -/
def Hides (st : Store) (t u : TypeForm) : Prop :=
  (u = .builtin .any ∨ ∃ w ∈ t.leaves, u.promotes w = true) ∧ ¬ ∃ w ∈ t.leaves, st.Takes u w

/-- Where the classes of two types do not settle that instances of the one are instances of the other, a
value respects their order: when it is an instance, or the class may not be tested for, it is an instance
of the upper class, or that may not be tested for. -/
def Respects (st₀ st : Store) (isOf : ClassRef → Prop) (k : ClassRef) (s t : TypeForm) : Prop :=
  ∀ u ∈ s.leaves, ∀ w ∈ t.leaves, ∀ c d, u.runtimeClass? = some c → w.runtimeClass? = some d →
    (st₀.isSubclass c d = true ∨ st₀.descends c d = true) → d = .builtin .any ∨ ¬ st.Settles k c d →
    st₀.isUntestable c = true ∨ isOf c → st₀.isUntestable d = true ∨ isOf d

namespace SameHierarchy

variable {st₀ st : Store} (h : SameHierarchy st₀ st)

theorem of_classes (h : st.classes = st₀.classes) : SameHierarchy st₀ st := by
  have hinfo : st.classInfo = st₀.classInfo := by
    funext i
    rw [classInfo, classInfo, h]
  exact ⟨by rw [h], by simp [hinfo], by simp [hinfo], by simp [hinfo], by simp [hinfo]⟩

include h

theorem ordered (ho : st₀.Ordered) : st.Ordered :=
  ho.of_agree (Nat.le_of_eq h.size.symm) h.lineage h.genericBases

theorem isUntestable (c : ClassRef) : st.isUntestable c = st₀.isUntestable c := by
  cases c with
  | builtin b => rfl
  | user i => simp only [Store.isUntestable, Store.isProtocol, Store.isRuntimeProtocol, h.isProtocol,
      h.isRuntimeProtocol]

theorem testsMembers (c : ClassRef) : st.testsMembers c = st₀.testsMembers c := by
  cases c with
  | builtin b => rfl
  | user i => simp only [Store.testsMembers, h.isProtocol]

theorem descends (c d : ClassRef) : st.descends c d = st₀.descends c d := by
  cases c with
  | builtin b => rfl
  | user i => simp only [Store.descends, Store.lineage, h.lineage]

theorem names (c d : ClassRef) : st.names c d = st₀.names c d := by
  rw [Bool.eq_iff_iff, names_iff, names_iff]
  simp only [h.descends]

end SameHierarchy

/-- Between types that are tested plainly every value respects the order. -/
theorem respects_of_plain {st₀ st : Store} {isOf : ClassRef → Prop} {k : ClassRef} {s t : TypeForm}
    (h : SameHierarchy st₀ st) (hs : s.TestedPlainly st₀) (ht : t.TestedPlainly st₀) :
    Respects st₀ st isOf k s t := by
  intro u hu w hw c d hc hd habove hno
  obtain ⟨hplain, hany⟩ := ht w hw d hd
  refine absurd ?_ (hno.resolve_left hany)
  refine settles_of_plain (by rw [h.testsMembers]; exact (hs u hu c hc).1)
    (by rw [h.testsMembers]; exact hplain) ?_
  rw [isSubclass_of_plain (by rw [h.testsMembers]; exact hplain), h.names]
  rcases habove with hsub | hdescends
  · rwa [isSubclass_of_plain hplain] at hsub
  · exact names_of_descends hdescends

end Store

section
variable {st₀ st : Store} {run : Runner} {v : Value} {u w s t : TypeForm}

/-- The absent value is an instance of its class. -/
theorem Value.isOf_nothing : Value.nothing.IsOf run st (.builtin .noneType) := rfl

/-- What fits a leaf that describes the instances of a class is one, if the class may be tested for. -/
theorem FitsAt.untestable_or_isOf {c : ClassRef} (h : FitsAt st₀ (v.IsOf run st) v u)
    (hobject : u ≠ .builtin .object) (hc : u.runtimeClass? = some c) :
    st₀.isUntestable c = true ∨ v.IsOf run st c := by
  cases h with
  | anything hany =>
    exfalso
    simp only [TypeForm.isAny, Bool.or_eq_true, beq_iff_eq] at hany
    rcases hany with rfl | rfl
    · cases hc
    · exact hobject rfl
  | absent hnone hv =>
    subst hnone hv
    cases hc
    exact .inr Value.isOf_nothing
  | untested hno => exact .inl (hno c hc)
  | «instance» hc' hv =>
    obtain rfl := Option.some.inj (hc.symm.trans hc')
    exact .inr hv

/-- What fits a leaf fits one that is equal to it. -/
theorem FitsAt.of_equal {isOf : ClassRef → Prop} (hequal : u.equal w = true)
    (hu : u.standsForUnion = false) (h : FitsAt st₀ isOf v u) : FitsAt st₀ isOf v w := by
  have hclass := TypeForm.runtimeClass?_congr hequal hu
  cases h with
  | anything hany => exact .anything (by rwa [← TypeForm.isAny_congr hequal])
  | absent hnone hv =>
    rw [hnone] at hequal
    exact .absent (TypeForm.eq_cls_of_equal hequal) hv
  | untested hno => exact .untested fun c hc => hno c (hclass.trans hc)
  | «instance» hc hv => exact .instance (hclass.symm.trans hc) hv

/-- An instance of a class is one of a class above it, if both may be tested for: the classes settle it, or
the value respects their order. -/
theorem Value.untestable_or_isOf_of_above {c d : ClassRef} (ho : st₀.Ordered)
    (hsame : st₀.SameHierarchy st) (hmem : u ∈ s.leaves) (hmem' : w ∈ t.leaves)
    (hresp : Store.Respects st₀ st (v.IsOf run st) (st.classOf v) s t)
    (hc : u.runtimeClass? = some c) (hd : w.runtimeClass? = some d)
    (habove : st₀.isSubclass c d = true ∨ st₀.descends c d = true)
    (hv : st₀.isUntestable c = true ∨ v.IsOf run st c) :
    st₀.isUntestable d = true ∨ v.IsOf run st d := by
  by_cases ht : st₀.isUntestable d = true
  · exact .inl ht
  by_cases hsettled : d ≠ .builtin .any ∧ st.Settles (st.classOf v) c d
  · have hplain : st.testsMembers c = false → v.IsOf run st c := by
      intro hplain
      refine hv.resolve_left ?_
      rw [← hsame.isUntestable, Store.isUntestable_of_plain hplain]
      exact Bool.false_ne_true
    have ht' : st.isUntestable d = false := by
      rw [hsame.isUntestable]
      exact Bool.eq_false_iff.mpr ht
    refine .inr ?_
    rw [Value.IsOf, Value.perform_isInstance_of_settles (hsame.ordered ho) hplain hsettled.2 ht'
      hsettled.1]
  · refine hresp u hmem w hmem' c d hc hd habove ?_ hv
    by_cases hany : d = .builtin .any
    · exact .inl hany
    · exact .inr fun hs => hsettled ⟨hany, hs⟩

/-- **What fits a leaf fits a leaf that takes its values as they are.** -/
theorem FitsAt.of_takes (ho : st₀.Ordered) (hsame : st₀.SameHierarchy st) (hu : u.normalize = u)
    (hw : w.normalize = w) (huu : u.isUnion = false) (hwu : w.isUnion = false)
    (hmem : u ∈ s.leaves) (hmem' : w ∈ t.leaves)
    (hresp : Store.Respects st₀ st (v.IsOf run st) (st.classOf v) s t) (htakes : st₀.Takes u w)
    (h : FitsAt st₀ (v.IsOf run st) v u) : FitsAt st₀ (v.IsOf run st) v w := by
  cases htakes with
  | same heq => exact heq ▸ h
  | anything hany => exact .anything hany
  | below hobject hbelow =>
    rcases Store.classes_of_derivesBelow ho hu hw hwu hbelow with hany | hnone | hequal | hclasses
    · exact .anything hany
    · refine .untested ?_
      intro c hc
      rw [hnone] at hc
      cases hc
    · exact h.of_equal hequal (TypeForm.standsForUnion_of_normal hu huu)
    · obtain ⟨c, d, hc, hd, habove⟩ := hclasses
      have hv := h.untestable_or_isOf hobject hc
      rcases Value.untestable_or_isOf_of_above ho hsame hmem hmem' hresp hc hd habove hv with ht | hv
      · refine .untested ?_
        intro d' hd'
        rw [hd] at hd'
        cases hd'
        exact ht
      · exact .instance hd hv

/-- A value fits a type by a leaf that another type does not hide. -/
def FitsOpenly (st₀ : Store) (isOf : ClassRef → Prop) (v : Value) (s t : TypeForm) : Prop :=
  ∃ u ∈ s.leaves, FitsAt st₀ isOf v u ∧ ¬ st₀.Hides t u

/-- What fits by a leaf that the other type takes as it is fits openly. -/
theorem FitsOpenly.of_takes {isOf : ClassRef → Prop} (hu : u ∈ s.leaves) (hfits : FitsAt st₀ isOf v u)
    (hw : w ∈ t.leaves) (htakes : st₀.Takes u w) : FitsOpenly st₀ isOf v s t :=
  ⟨u, hu, hfits, fun hhides => hhides.2 ⟨w, hw, htakes⟩⟩

/-- **What fits a type fits a type that it flows into**, if it fits by a leaf that is not hidden. -/
theorem Fits.of_flows (ho : st₀.Ordered) (hsame : st₀.SameHierarchy st) (hs : s.Settled) (ht : t.Settled)
    (hflows : ∀ u ∈ s.leaves, st₀.Flows u t)
    (hresp : Store.Respects st₀ st (v.IsOf run st) (st.classOf v) s t)
    (h : FitsOpenly st₀ (v.IsOf run st) v s t) : Fits st₀ (v.IsOf run st) v t := by
  obtain ⟨u, hu, hfits, hopen⟩ := h
  have htakes : ∃ w ∈ t.leaves, st₀.Takes u w := by
    by_contra hno
    refine hopen ⟨?_, hno⟩
    rcases hflows u hu with hany | ⟨w, hw, htakes | hpromotes⟩
    · exact .inl hany
    · exact absurd ⟨w, hw, htakes⟩ hno
    · exact .inr ⟨w, hw, hpromotes⟩
  obtain ⟨w, hw, htakes⟩ := htakes
  exact fits_iff_leaf.mpr ⟨w, hw, hfits.of_takes ho hsame (hs u hu).normal (ht w hw).normal
    (TypeForm.isUnion_of_mem_leaves hu) (TypeForm.isUnion_of_mem_leaves hw) hu hw hresp htakes⟩

end

end MemberAccess
