import MemberAccess.Proofs.AnsweredQuestions

/-!
# Unions that flow into something

A union flows where all its members do.  So it should make no difference whether a union is asked about, or
each of its members.  It makes one if the target is a union too: the target is taken apart first, and the
source is offered as a whole to each alternative of it (`Memo.union_flows_into_one_alternative`).  A union is
then accepted only if one single alternative takes all its members, or if the target contains this very
union; its members may flow into different alternatives, and the union flows into none
(`TwoUnions.members_flow_and_union_does_not`).

What is accepted is right all the same: where a union is accepted so is each of its members.
-/

namespace MemberAccess

namespace TypeForm

/-! ## §1  Unfolding -/

/-- What a type comes to when unions are taken apart, the unions on the way included. -/
inductive Unfolds : TypeForm → TypeForm → Prop
  | itself {t : TypeForm} : Unfolds t t
  | member {t t' u : TypeForm} {i : Mark} {w : UnionSpelling} {ts : List TypeForm} :
      t.normalize = .union i w ts → t' ∈ ts → Unfolds t' u → Unfolds t u

variable {t u u' : TypeForm} {i : Mark} {w : UnionSpelling} {ts : List TypeForm}

theorem Unfolds.step (h : t.Unfolds u) (hu : u.normalize = .union i w ts) (hu' : u' ∈ ts) :
    t.Unfolds u' := by
  induction h with
  | itself => exact .member hu hu' .itself
  | member htn ht' _ ih => exact .member htn ht' (ih hu)

theorem Unwrapped.of_unfolds (h : t.Unwrapped) (hu : t.Unfolds u) : u.Unwrapped := by
  induction hu with
  | itself => exact h
  | member htn ht' _ ih => exact ih (h.of_mem htn ht')

end TypeForm

/-! ## §2  Plain answers -/

namespace Store

variable {st : Store} {s t u x : TypeForm} {i : Mark} {w : UnionSpelling} {ss : List TypeForm}

theorem isAssignable_normalize_left (hs : s.Unwrapped) :
    st.isAssignable s.normalize t = st.isAssignable s t :=
  assignableVia_congr hs.normalize_normalize rfl

theorem isAssignable_normalize_right (ht : t.Unwrapped) :
    st.isAssignable s t.normalize = st.isAssignable s t :=
  assignableVia_congr rfl ht.normalize_normalize

/-- What flows into an alternative flows into the whole, if that is answered at all. -/
theorem isAssignable_of_unfolds (hs : s.Unwrapped) (hu : t.Unfolds u)
    (h : st.isAssignable s u = .ok true) (hno : ¬ st.Stumbles s t) : st.isAssignable s t = .ok true := by
  induction hu with
  | itself => exact h
  | @member t t' u i w ts htn ht' _ ih =>
    by_cases hp : s.passes t
    · rw [isAssignable, assignableVia_of_passes hp]
      rfl
    obtain ⟨b, hb⟩ := not_stumbles_iff.mp hno
    cases b with
    | true => exact hb
    | false =>
      -- a no is a no for every alternative, also for the one that takes the source
      rw [isAssignable, assignableVia_to_union hp htn, anyM_eq_false_iff] at hb
      have hfalse : st.isAssignable s t' = .ok false := by
        rw [← isAssignable_normalize_left hs]
        exact hb t' ht'
      have htrue := ih h (not_stumbles_iff.mpr ⟨false, hfalse⟩)
      rw [hfalse] at htrue
      cases htrue

/-- A union is taken by what is no union where all its members are. -/
theorem isAssignable_to_plain (hsn : s.normalize = .union i w ss) (ht : t.Unwrapped)
    (htu : t.normalize.isUnion = false) :
    st.isAssignable s t = .ok true ↔ ∀ x ∈ ss, st.isAssignable x t = .ok true := by
  by_cases hp : s.passes t
  · have hany : t.normalize.isAny = true := by
      rcases hp with heq | hany | hany
      · rw [← heq, hsn] at htu
        cases htu
      · exact hany
      · rw [hsn] at hany
        cases hany
    have hall (x : TypeForm) : st.isAssignable x t = .ok true := by
      rw [isAssignable, assignableVia_of_passes (.inr (.inl hany))]
      rfl
    simp only [hall, implies_true]
  · rw [isAssignable, assignableVia_from_union hp htu hsn, allM_eq_true_iff]
    simp only [← isAssignable_normalize_right ht]
    rfl

/-- A union that is accepted is so by one alternative, which is this union or takes all its members. -/
theorem exists_of_isAssignable (hsn : s.normalize = .union i w ss) (ht : t.Unwrapped)
    (h : st.isAssignable s t = .ok true) :
    ∃ u, t.Unfolds u ∧ (u.normalize = s.normalize ∨
      u.normalize.isUnion = false ∧ ∀ x ∈ ss, st.isAssignable x u = .ok true) := by
  induction t using TypeForm.induction_leaves generalizing s with
  | plain t htu => exact ⟨t, .itself, .inr ⟨htu, (isAssignable_to_plain hsn ht htu).mp h⟩⟩
  | union t j v ts htn ih =>
    by_cases hp : s.passes t
    · rcases hp with heq | hany | hany
      · exact ⟨t, .itself, .inl heq.symm⟩
      · rw [htn] at hany
        cases hany
      · rw [hsn] at hany
        cases hany
    · rw [isAssignable, assignableVia_to_union hp htn] at h
      obtain ⟨t', ht', h⟩ := exists_of_anyM h
      have hnn : s.normalize.normalize = s.normalize := by
        rw [hsn]
        rfl
      obtain ⟨u, hu, htakes⟩ := ih t' ht' (hnn.trans hsn) (ht.of_mem htn ht') h
      rw [hnn] at htakes
      exact ⟨u, .member htn ht' hu, htakes⟩

/-- What flows into a union's alternative as a whole flows in member by member. -/
theorem isAssignable_member (hsn : s.normalize = .union i w ss) (hs : s.Unwrapped) (ht : t.Unwrapped)
    (h : st.isAssignable s t = .ok true) (hx : x ∈ ss) (hno : ¬ st.Stumbles x t) :
    st.isAssignable x t = .ok true := by
  obtain ⟨u, hu, heq | ⟨-, hall⟩⟩ := exists_of_isAssignable hsn ht h
  · -- the union itself is an alternative, and so is its member
    have hxx : st.isAssignable x x = .ok true := by
      rw [isAssignable, assignableVia_of_passes (.inl rfl)]
      rfl
    exact isAssignable_of_unfolds (hs.of_mem hsn hx) (hu.step (heq.trans hsn) hx) hxx hno
  · exact isAssignable_of_unfolds (hs.of_mem hsn hx) hu (hall x hx) hno

end Store

/-! ## §3  Answers after any history -/

namespace Memo

variable {st : Store} {s t : TypeForm} {i : Mark} {w : UnionSpelling} {ss : List TypeForm}
  {qs : List Question} {m : Memo}

/-- **A union flows into one alternative**, after every history: where it is answered it is accepted exactly
if the target unfolds to this very union, or to something that is no union and takes each of its members.
Then each of the members is accepted for the target too.  The converse holds for targets that are no unions:
they accept a union exactly if they accept all its members. -/
theorem union_flows_into_one_alternative (hm : After st qs m) (hs : s.Unwrapped) (ht : t.Unwrapped)
    (hsn : s.normalize = .union i w ss) :
    (¬ st.Stumbles s t → (m.Accepts st s t ↔
      ∃ u, t.Unfolds u ∧ (u.normalize = s.normalize ∨
        u.normalize.isUnion = false ∧ ∀ x ∈ ss, m.Accepts st x u))) ∧
    (m.Accepts st s t → ∀ x ∈ ss, ¬ st.Stumbles x t → m.Accepts st x t) ∧
    (t.normalize.isUnion = false → (m.Accepts st s t ↔ ∀ x ∈ ss, m.Accepts st x t)) := by
  have hplain : m.Accepts st s t ↔ st.isAssignable s t = .ok true := accepts_iff hm hs ht
  have hmember {x u : TypeForm} (hx : x ∈ ss) (hu : t.Unfolds u) :
      m.Accepts st x u ↔ st.isAssignable x u = .ok true :=
    accepts_iff hm (hs.of_mem hsn hx) (ht.of_unfolds hu)
  refine ⟨?_, ?_, ?_⟩
  · intro hno
    rw [hplain]
    constructor
    · intro h
      obtain ⟨u, hu, heq | ⟨huu, hall⟩⟩ := Store.exists_of_isAssignable hsn ht h
      · exact ⟨u, hu, .inl heq⟩
      · exact ⟨u, hu, .inr ⟨huu, fun x hx => (hmember hx hu).mpr (hall x hx)⟩⟩
    · rintro ⟨u, hu, htakes⟩
      refine Store.isAssignable_of_unfolds hs hu ?_ hno
      rcases htakes with heq | ⟨huu, hall⟩
      · rw [Store.isAssignable, assignableVia_of_passes (.inl heq.symm)]
        rfl
      · rw [Store.isAssignable_to_plain hsn (ht.of_unfolds hu) huu]
        exact fun x hx => (hmember hx hu).mp (hall x hx)
  · intro h x hx hno
    exact (hmember hx .itself).mpr (Store.isAssignable_member hsn hs ht (hplain.mp h) hx hno)
  · intro htu
    rw [hplain, Store.isAssignable_to_plain hsn ht htu]
    exact forall₂_congr fun x hx => (hmember hx .itself).symm

end Memo

/-! ## §4  Two unions of the same members -/

namespace TwoUnions

/-- An integer or a text. -/
def intOrStr : TypeForm := .union 0 .subscript [.builtin .int, .builtin .str]

/-- A text or an integer. -/
def strOrInt : TypeForm := .union 1 .subscript [.builtin .str, .builtin .int]

/-- An integer, a text or nothing. -/
def intOrStrOrNone : TypeForm := .union 2 .subscript [.builtin .int, .builtin .str, .builtin .noneType]

/-- A truth value or an integer. -/
def boolOrInt : TypeForm := .union 3 .subscript [.builtin .bool, .builtin .int]

theorem unwrapped_boolOrInt : boolOrInt.Unwrapped :=
  TypeForm.unwrapped_of_union rfl (by simp [TypeForm.unwrapped_cls])

theorem unwrapped_strOrInt : strOrInt.Unwrapped :=
  TypeForm.unwrapped_of_union rfl (by simp [TypeForm.unwrapped_cls])

/-- Truth values or integers are accepted for texts or integers, since integers take both. -/
theorem bool_or_int_flows_into_int :
    ∃ qs m, Memo.After .empty qs m ∧ boolOrInt.Unwrapped ∧ strOrInt.Unwrapped ∧
      boolOrInt.normalize = .union 3 .subscript [.builtin .bool, .builtin .int] ∧
      ¬ Store.empty.Stumbles boolOrInt strOrInt ∧ m.Accepts .empty boolOrInt strOrInt := by
  have hafter : Memo.After .empty [.derives (.builtin .bool) (.builtin .str)] _ := .ask (.derives _ _) .start
  have hno : ¬ Store.empty.Stumbles boolOrInt strOrInt :=
    Store.not_stumbles_iff.mpr ⟨true, by decide +kernel⟩
  obtain ⟨hiff, -, -⟩ :=
    Memo.union_flows_into_one_alternative hafter unwrapped_boolOrInt unwrapped_strOrInt rfl
  refine ⟨_, _, hafter, unwrapped_boolOrInt, unwrapped_strOrInt, rfl, hno, (hiff hno).mpr ?_⟩
  refine ⟨.builtin .int, .member rfl (by simp) .itself, .inr ⟨rfl, ?_⟩⟩
  simp only [List.forall_mem_cons]
  decide +kernel

/-- **The members flow and the union does not**: integers and texts are each accepted for a union of both,
and a union of the two in another order is not; nor is it accepted for a union with a further member. -/
theorem members_flow_and_union_does_not :
    Memo.empty.Accepts .empty (.builtin .int) strOrInt ∧
    Memo.empty.Accepts .empty (.builtin .str) strOrInt ∧
    ¬ Memo.empty.Accepts .empty intOrStr strOrInt ∧
    Memo.empty.Accepts .empty (.builtin .int) intOrStrOrNone ∧
    Memo.empty.Accepts .empty (.builtin .str) intOrStrOrNone ∧
    ¬ Memo.empty.Accepts .empty intOrStr intOrStrOrNone := by
  decide +kernel

end TwoUnions
end MemberAccess
