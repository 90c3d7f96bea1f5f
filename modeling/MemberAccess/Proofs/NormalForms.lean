import MemberAccess.Proofs.EqualAncestry
import MemberAccess.Proofs.FormedAnnotations

/-!
# Normal forms

The normal form of an annotation should stand for no other annotation, so that taking it once more changes
nothing.  It never is the absent value, a text or a class variable.  But behind a variable with a choice of
types stands the union of these types as it was formed, and a union of types that are all equal is that one
type: where it is a variable or an annotation with notes, the normal form of the variable stands for another
one in turn.  These are the only annotations whose normal form is not final (`normalize_is_final_iff`).
-/

namespace MemberAccess.TypeForm

open MemberAccess.Action

variable {t u x o : TypeForm} {ts us : List TypeForm} {place : Place}

/-! ## §1  Layers -/

/-- An annotation that stands for no other. -/
def isNormal : TypeForm → Bool
  | .none | .text _ | .variable _ | .bounded .. | .choice .. | .annotated .. | .classVar .. => false
  | _ => true

/-- A variable, or an annotation with notes: what may be a member of a union and stands for another. -/
def isWrapper : TypeForm → Bool
  | .variable _ | .bounded .. | .choice .. | .annotated .. => true
  | _ => false

/-- How many annotations one behind the other an annotation stands for. -/
def layers : TypeForm → Nat
  | .none | .text _ | .variable _ => 1
  | .bounded _ t | .choice _ t | .annotated _ t _ | .classVar _ t => t.layers + 1
  | _ => 0

theorem isWrapper_congr (h : t.equal u = true) : t.isWrapper = u.isWrapper := by
  cases equals_of_equal h <;> rfl

theorem layers_congr (h : t.equal u = true) : t.layers = u.layers := by
  induction t using induction_parts generalizing u with
  | _ t ih =>
    replace h := equals_of_equal h
    cases h with
    | annotated h | classVar h =>
      simp only [layers, Nat.add_right_cancel_iff]
      exact ih _ (by simp [parts]) h
    | _ => rfl

theorem layers_normalize_le (t : TypeForm) : t.normalize.layers ≤ t.layers := by
  induction t using normalize.induct <;> simp only [normalize, layers, builtin] <;> omega

theorem layers_normalize_lt (h : t.isNormal = false) : t.normalize.layers < t.layers := by
  cases t with
  | bounded _ t | annotated _ t | classVar _ t => exact Nat.lt_succ_of_le (layers_normalize_le t)
  | none | text | «variable» | choice => exact Nat.lt_succ_self _
  | _ => cases h

theorem normalize_of_isNormal (h : t.isNormal = true) : t.normalize = t := by
  cases t <;> first | rfl | cases h

/-- **An annotation equals its normal form exactly if it stands for no other.** -/
theorem normalize_equal_iff : t.normalize.equal t = true ↔ t.isNormal = true := by
  constructor
  · intro hequal
    rw [← Bool.not_eq_false]
    intro hnormal
    exact absurd (layers_congr hequal) (Nat.ne_of_lt (layers_normalize_lt hnormal))
  · intro hnormal
    rw [normalize_of_isNormal hnormal]
    exact equal_refl t

theorem normalize_eq_self_iff : t.normalize = t ↔ t.isNormal = true := by
  refine ⟨fun h => ?_, normalize_of_isNormal⟩
  rw [← normalize_equal_iff, h]
  exact equal_refl t

/-! ## §2  Unions of one wrapper -/

/-- All operands come to one variable or annotation with notes, each by itself or as the member of a union. -/
def AllOneWrapper (ts : List TypeForm) : Prop :=
  ∃ x ∈ flatten ts, x.isWrapper = true ∧ ∀ u ∈ flatten ts, u.equal x = true

/-- What an operand is converted to is the operand, unless neither of them is a wrapper or holds one. -/
theorem eq_or_of_convertOperand (h : convertOperand t = .ok u) :
    u = t ∨ (t ∈ flatten [t] ∧ t.isWrapper = false) ∧ u ∈ flatten [u] ∧ u.isWrapper = false := by
  unfold convertOperand forwardOf at h
  split at h
  case h_1 =>
    cases h
    exact .inr ⟨⟨List.mem_singleton_self _, rfl⟩, List.mem_singleton_self _, rfl⟩
  case h_2 =>
    split at h
    · cases h
      exact .inr ⟨⟨List.mem_singleton_self _, rfl⟩, List.mem_singleton_self _, rfl⟩
    · cases h
  case h_3 =>
    cases h
    exact .inl rfl

theorem mem_flatten_union {m : Mark} {w : UnionSpelling} : u ∈ flatten [.union m w ts] ↔ u ∈ ts := by
  simp only [flatten, List.flatMap_singleton]

theorem mem_flatten_iff : u ∈ flatten ts ↔ ∃ t ∈ ts, u ∈ flatten [t] := by
  simp only [flatten, List.mem_flatMap, List.mem_singleton, exists_eq_left]

/-- Operands that all come to one wrapper, before they are checked or after it, pass the check as they are. -/
theorem eq_of_checkOperands (hus : checkOperands place ts = .ok us) (hx : x.isWrapper = true)
    (h : (∀ v ∈ flatten ts, v.equal x = true) ∨ ∀ v ∈ flatten us, v.equal x = true) : us = ts := by
  have hlone {t : TypeForm} (ht : t.isWrapper = false) : t.equal x = false := by
    rw [← Bool.not_eq_true]
    intro hequal
    rw [isWrapper_congr hequal, hx] at ht
    cases ht
  have hchecked := forall₂_of_checkOperands hus
  clear hus
  induction hchecked with
  | nil => rfl
  | @cons t u ts us htu hrest ih =>
    have hhead : u = t := by
      rcases eq_or_of_convertOperand (convertOperand_of_checkOperand htu) with
        heq | ⟨⟨htmem, ht⟩, humem, hu⟩
      · exact heq
      · rcases h with h | h
        · have hequal := h t (mem_flatten_iff.mpr ⟨t, List.mem_cons_self, htmem⟩)
          rw [hlone ht] at hequal
          cases hequal
        · have hequal := h u (mem_flatten_iff.mpr ⟨u, List.mem_cons_self, humem⟩)
          rw [hlone hu] at hequal
          cases hequal
    have htail {t : TypeForm} {ts : List TypeForm} (h : ∀ v ∈ flatten (t :: ts), v.equal x = true) :
        ∀ v ∈ flatten ts, v.equal x = true := fun v hv => h v (List.mem_append_right _ hv)
    rw [hhead, ih (h.imp htail htail)]

theorem allOneWrapper_checked (hus : checkOperands place ts = .ok us) :
    AllOneWrapper us ↔ AllOneWrapper ts := by
  constructor
  · rintro ⟨x, hmem, hx, hall⟩
    rw [← eq_of_checkOperands hus hx (.inr hall)]
    exact ⟨x, hmem, hx, hall⟩
  · rintro ⟨x, hmem, hx, hall⟩
    rw [eq_of_checkOperands hus hx (.inl hall)]
    exact ⟨x, hmem, hx, hall⟩

/-- **A union collapses to a wrapper exactly if all its operands come to it.** -/
theorem IsUnionOf.isWrapper_iff (ho : IsUnionOf ts o) : o.isWrapper = true ↔ AllOneWrapper ts := by
  obtain ⟨us, hus, ho⟩ := ho
  rw [← allOneWrapper_checked hus]
  constructor
  · intro hwrapper
    split at ho
    case h_1 u hdistinct =>
      subst ho
      refine ⟨o, mem_of_mem_distinct ?_, hwrapper, fun v hv => equal_of_distinct_eq hdistinct hv⟩
      rw [hdistinct]
      exact List.mem_singleton_self o
    case h_2 =>
      obtain ⟨m, rfl⟩ := ho
      cases hwrapper
  · rintro ⟨x, hmem, hx, hall⟩
    obtain ⟨v, hv, hdistinct⟩ := distinct_eq_singleton hmem hall
    rw [hdistinct] at ho
    subst ho
    rw [isWrapper_congr (hall o hv), hx]

theorem exists_mem_flatten_of_equal (h : u.equal t = true) {v : TypeForm} (hv : v ∈ flatten [t]) :
    ∃ w ∈ flatten [u], v.equal w = true := by
  have hequals := equals_of_equal h
  cases hequals with
  | @union _ _ _ _ xs ys _ hback =>
    obtain ⟨x, hx, hxv⟩ := hback v (mem_flatten_union.mp hv)
    exact ⟨x, mem_flatten_union.mpr hx, equal_symm hxv⟩
  | _ =>
    obtain rfl := List.mem_singleton.mp hv
    exact ⟨_, List.mem_singleton_self _, equal_symm h⟩

theorem exists_mem_flatten_of_equalList (h : equalList us ts = true) {v : TypeForm} (hv : v ∈ flatten ts) :
    ∃ w ∈ flatten us, v.equal w = true := by
  obtain ⟨t, ht, hv⟩ := mem_flatten_iff.mp hv
  obtain ⟨u, hu, hut⟩ := exists_of_forall₂ (equalList_iff.mp h) ht
  obtain ⟨w, hw, hvw⟩ := exists_mem_flatten_of_equal hut hv
  exact ⟨w, mem_flatten_iff.mpr ⟨u, hu, hw⟩, hvw⟩

theorem allOneWrapper_congr (h : equalList us ts = true) : AllOneWrapper us ↔ AllOneWrapper ts := by
  have himp {us ts : List TypeForm} (h : equalList us ts = true) (hus : AllOneWrapper us) :
      AllOneWrapper ts := by
    obtain ⟨x, hmem, hx, hall⟩ := hus
    obtain ⟨y, hy, hxy⟩ := exists_mem_flatten_of_equalList (equalList_symm h) hmem
    refine ⟨y, hy, (isWrapper_congr hxy).symm.trans hx, fun v hv => ?_⟩
    obtain ⟨w, hw, hvw⟩ := exists_mem_flatten_of_equalList h hv
    exact equal_trans hvw (equal_trans (hall w hw) hxy)
  exact ⟨himp h, himp (equalList_symm h)⟩

/-! ## §3  Normal forms -/

/-- Behind bounds, notes and class variables stands a variable whose types all come to one wrapper. -/
inductive Collapses : TypeForm → Prop
  | bounded {n : String} {b : TypeForm} : Collapses b → Collapses (.bounded n b)
  | annotated {m : Mark} {i : TypeForm} {ns : List String} : Collapses i → Collapses (.annotated m i ns)
  | classVar {m : Mark} {i : TypeForm} : Collapses i → Collapses (.classVar m i)
  | choice {n : String} {ts : List TypeForm} {o : TypeForm} :
      IsUnionOf ts o → AllOneWrapper ts → Collapses (.choice n o)

/-- The normal form of a formed annotation is a union or may be a member of one. -/
theorem Formed.isMember_normalize (h : t.Formed) (hunion : t.normalize.isUnion = false) :
    t.normalize.isMember = true := by
  induction h with
  | bounded _ ih | annotated _ ih | classVar _ ih => exact ih hunion
  | choice hts ho => exact ho.isMember hts hunion
  | union => cases hunion
  | _ => rfl

/-- It is a wrapper exactly if the annotation collapses. -/
theorem Formed.isWrapper_normalize_iff (h : t.Formed) : t.normalize.isWrapper = true ↔ t.Collapses := by
  -- Normalizing looks behind the first three kinds, ends behind a choice, and leaves most of the rest.
  induction h with
  | bounded _ ih | annotated _ ih | classVar _ ih =>
    rw [normalize, ih]
    constructor
    · intro h
      constructor
      exact h
    · rintro ⟨⟩
      assumption
  | choice hts ho =>
    rw [normalize]
    constructor
    · intro hwrapper
      exact .choice ho (ho.isWrapper_iff.mp hwrapper)
    · intro hcollapses
      cases hcollapses with
      | choice hvs hall => exact hvs.isWrapper_iff.mpr hall
  | _ =>
    constructor
    · intro hwrapper
      cases hwrapper
    · intro hcollapses
      cases hcollapses

theorem Formed.isNormal_normalize_iff (h : t.Formed) : t.normalize.isNormal = true ↔ ¬ t.Collapses := by
  have hmember := h.isMember_normalize
  rw [← h.isWrapper_normalize_iff]
  cases hn : t.normalize <;> simp_all [isNormal, isWrapper, isMember, isUnion]

/-- **A normal form is final unless the annotation collapses.**  It never is the absent value, a text or a class
variable.  It is a variable or an annotation with notes exactly if looking behind bounds, notes and class
variables ends at a variable whose types all come to one of these; and then alone is its own normal form
another annotation. -/
theorem normalize_is_final_iff (h : t.Formed) :
    (t.normalize ≠ .none ∧ (∀ s, t.normalize ≠ .text s) ∧ ∀ m i, t.normalize ≠ .classVar m i) ∧
    (t.normalize.isWrapper = true ↔ t.Collapses) ∧
    (t.normalize.normalize.equal t.normalize = true ↔ ¬ t.Collapses) ∧
    (t.normalize.normalize = t.normalize ↔ ¬ t.Collapses) := by
  have hmember := h.isMember_normalize
  refine ⟨?_, h.isWrapper_normalize_iff, ?_, ?_⟩
  · cases hn : t.normalize <;> rw [hn] at hmember
    case none | text | classVar => exact absurd (hmember rfl) Bool.false_ne_true
    all_goals exact ⟨nofun, nofun, nofun⟩
  · rw [normalize_equal_iff, h.isNormal_normalize_iff]
  · rw [normalize_eq_self_iff, h.isNormal_normalize_iff]

/-- **A variable that is made has a final normal form** unless the types that it is given all come to one
wrapper. -/
theorem forms_final_variable {name : String} (hts : ∀ t ∈ ts, t.Formed) :
    Forms (fun t => t.normalize.normalize = t.normalize ↔ ¬ AllOneWrapper ts)
      (variableOf name Option.none ts) := by
  unfold variableOf
  refine forms_bind (P := (· = Option.none)) (forms_pure rfl) fun b hb => ?_
  subst hb
  match ts, hts with
  | [], _ =>
    refine forms_pure ⟨fun _ => ?_, fun _ => rfl⟩
    rintro ⟨x, hmem, -⟩
    cases hmem
  | [_], _ => exact forms_fault
  | t :: t' :: ts, hts =>
    refine forms_bind (forms_ofOutcome fun us hus => hus) fun us hus => ?_
    refine forms_bind (forms_unionOf (formed_of_checkOperands hts hus)) fun o ho => forms_pure ?_
    obtain ⟨-, vs, hequal, hvs, hunion⟩ := ho
    have hformed : (choice name o).Formed := .choice hvs hunion
    rw [normalize_eq_self_iff, hformed.isNormal_normalize_iff, ← hformed.isWrapper_normalize_iff, normalize,
      hunion.isWrapper_iff, allOneWrapper_congr hequal, allOneWrapper_checked hus]

/-! ## §4  A variable that collapses -/

section

variable {former : Former} {make : Action TypeForm} {run : Runner} {st : Store}

/-- What was formed before is given again. -/
theorem perform_shared_kept (us : List TypeForm) (hts : hashableList ts = true)
    (hkept : st.shared.find? (fun (f, us, _) => f == former && equalList us ts) = some (former, us, t)) :
    (shared former ts make).perform run st = (.ok t, st) := by
  unfold shared
  rw [hts]
  change (get >>= _ : Action TypeForm).perform run st = _
  rw [perform_bind_get, hkept]
  rfl

/-- What is formed for the first time is kept. -/
theorem perform_shared_new (st' : Store) (hts : hashableList ts = true)
    (hnew : st.shared.find? (fun (f, us, _) => f == former && equalList us ts) = Option.none)
    (hmake : make.perform run st = (.ok t, st')) :
    (shared former ts make).perform run st =
      (.ok t, { st' with shared := (former, ts, t) :: st'.shared }) := by
  unfold shared
  rw [hts]
  change (get >>= _ : Action TypeForm).perform run st = _
  rw [perform_bind_get, hnew]
  change (make >>= _).perform run st = _
  rw [perform_bind_ok hmake]
  rfl

end

namespace Collapsing

/-- Integers with a note. -/
def noted : TypeForm := .annotated 1 (.builtin .int) ["m"]

/-- A variable that is either of two annotations, which are the same. -/
def chosen : TypeForm := .choice "T" noted

/-- A class variable with a note, whose type is a variable that is an integer or a text. -/
def layered : TypeForm :=
  .classVar 3 (.annotated 2 (.choice "S" (.union 1 .subscript [.builtin .int, .builtin .str])) ["m"])

theorem formed_noted : noted.Formed := .annotated (.cls _)

theorem distinct_noted : distinct (flatten [noted, noted]) = [noted] := by
  simp [distinct, flatten, noted, equal_refl]

theorem isUnionOf_noted : IsUnionOf [noted, noted] noted := by
  refine ⟨[noted, noted], rfl, ?_⟩
  rw [distinct_noted]

theorem formed_chosen : chosen.Formed :=
  .choice (List.forall_mem_cons.mpr ⟨formed_noted, List.forall_mem_singleton.mpr formed_noted⟩)
    isUnionOf_noted

theorem collapses_chosen : chosen.Collapses :=
  .choice isUnionOf_noted ⟨noted, List.mem_cons_self, rfl, fun _ => equal_of_distinct_eq distinct_noted⟩

theorem formed_layered : layered.Formed := by
  have hint : Formed (.builtin .int) := .cls _
  have hstr : Formed (.builtin .str) := .cls _
  have hboth : ∀ t ∈ [.builtin .int, .builtin .str], Formed t :=
    List.forall_mem_cons.mpr ⟨hint, List.forall_mem_singleton.mpr hstr⟩
  have hunion : IsUnionOf [.builtin .int, .builtin .str]
      (.union 1 .subscript [.builtin .int, .builtin .str]) := by
    refine ⟨_, rfl, ?_⟩
    have htwo : distinct (flatten [.builtin .int, .builtin .str]) = [.builtin .int, .builtin .str] := by
      simp [distinct, flatten, equal, builtin]
    rw [htwo]
    exact ⟨1, rfl⟩
  exact .classVar (.annotated (.choice hboth hunion))

/-- The normal form of the one is final and that of the other is not. -/
theorem normalize_is_final_layered :
    layered.Formed ∧ layered.normalize.normalize = layered.normalize ∧
    chosen.Formed ∧ chosen.normalize.isWrapper = true ∧ chosen.normalize.normalize ≠ chosen.normalize := by
  have hlayered := normalize_is_final_iff formed_layered
  have hchosen := normalize_is_final_iff formed_chosen
  have hfinal : ¬ layered.Collapses := fun h => absurd (hlayered.2.1.mpr h) (by decide)
  exact ⟨formed_layered, hlayered.2.2.2.mpr hfinal, formed_chosen,
    hchosen.2.1.mpr collapses_chosen, fun h => hchosen.2.2.2.mp h collapses_chosen⟩

/-- The store in which the annotation was formed. -/
def made : Store :=
  { Store.empty with nextMark := 2, shared := [(.annotated ["m"], [.builtin .int], noted)] }

theorem perform_noted (run : Runner) :
    (annotatedOf (.builtin .int) ["m"]).perform run Store.empty = (.ok noted, made) :=
  perform_shared_new { Store.empty with nextMark := 2 } (by simp [hashableList, hashable]) rfl rfl

theorem perform_noted_again (run : Runner) :
    (annotatedOf (.builtin .int) ["m"]).perform run made = (.ok noted, made) :=
  perform_shared_kept [.builtin .int] (by simp [hashableList, hashable])
    (by simp [made, equalList, equal_refl])

theorem perform_union (run : Runner) :
    (unionOf [noted, noted]).perform run made =
      (.ok noted, { made with shared := (.union, [noted, noted], noted) :: made.shared }) := by
  have hhashable : hashableList [noted, noted] = true := by simp [hashableList, hashable, noted, builtin]
  have hmembers : (unionOfMembers [noted, noted]).perform run made = (.ok noted, made) := by
    unfold unionOfMembers
    rw [distinct_noted]
    rfl
  exact perform_shared_new made hhashable rfl hmembers

/-- **A normal form is an annotation with notes**, and its own normal form is another one: that of a variable made
for two annotations that are written alike. -/
theorem chosen_is_not_final :
    (∀ run : Runner, ((do
      let t ← annotatedOf (.builtin .int) ["m"]
      let u ← annotatedOf (.builtin .int) ["m"]
      variableOf "T" Option.none [t, u]).perform run Store.empty).1 = .ok chosen) ∧
    chosen.normalize = noted ∧ noted.normalize = .builtin .int ∧ noted.normalize.equal noted = false := by
  refine ⟨fun run => ?_, rfl, rfl, ?_⟩
  · rw [perform_bind_ok (perform_noted run), perform_bind_ok (perform_noted_again run)]
    change ((unionOf [noted, noted] >>= fun o => pure (choice "T" o)).perform run made).1 = _
    rw [perform_bind_ok (perform_union run)]
    rfl
  · rw [← Bool.not_eq_true, normalize_equal_iff]
    decide

end Collapsing
end MemberAccess.TypeForm
