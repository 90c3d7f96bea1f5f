import MemberAccess.Assignability.Basic
import MemberAccess.Proofs.EqualAnnotations

/-!
# Ancestry respects equality

Whether one annotation stands in the hierarchy of another is found out once and then kept under the pair
of them.  The key is compared by equality, so an answer given for one pair is later given for every equal
pair: that is right only if the plain answer is the same for both.  It is, as long as neither annotation
stands for a union; the two spellings of a union apply different things, and the test of assignability
looks through unions before it asks.

`Memo.answer` is what a memo says to a question, whether it has to find out or not.  Asking changes the
memo and never what it says.
-/

namespace MemberAccess

/-! ## §1  Unions behind other annotations -/

namespace TypeForm

/-- Whether an annotation is a union, or stands for one. -/
def standsForUnion : TypeForm → Bool
  | .union .. => true
  | .bounded _ t | .choice _ t | .annotated _ t _ | .classVar _ t => t.standsForUnion
  | _ => false

@[simp] theorem standsForUnion_normalize (t : TypeForm) :
    t.normalize.standsForUnion = t.standsForUnion := by
  induction t using normalize.induct <;> simp_all [normalize, standsForUnion]

/-- What stands for no union has no union as its normal form. -/
theorem normalize_ne_union {t : TypeForm} (h : t.standsForUnion = false) (i s ts) :
    t.normalize ≠ .union i s ts := by
  intro hn
  rw [← standsForUnion_normalize, hn, standsForUnion] at h
  exact absurd h (by simp)

theorem isUnion_normalize {t : TypeForm} (h : t.standsForUnion = false) :
    t.normalize.isUnion = false := by
  cases hn : t.normalize <;> first | rfl | exact absurd hn (normalize_ne_union h _ _ _)

theorem isUnion_of_standsForUnion {t : TypeForm} (h : t.standsForUnion = false) :
    t.isUnion = false := by
  cases t <;> first | rfl | exact absurd h (by simp [standsForUnion])

theorem standsForUnion_congr {a b : TypeForm} (h : a.equal b = true) :
    a.standsForUnion = b.standsForUnion := by
  induction a using induction_parts generalizing b with
  | _ a ih =>
    replace h := equals_of_equal h
    cases h with
    | annotated h | classVar h =>
      simp only [standsForUnion]
      exact ih _ (by simp [parts]) h
    | _ => rfl

end TypeForm

/-! ## §2  Origins, arguments and classes -/

/-- Arguments that come from equal annotations at one place. -/
inductive Argument.Alike : Argument → Argument → Prop
  | single {s t : TypeForm} : s.equal t = true → Alike (.single s) (.single t)
  | group {ss ts : List TypeForm} : TypeForm.equalList ss ts = true → Alike (.group ss) (.group ts)
  | note (s : String) : Alike (.note s) (.note s)

namespace Argument

/-- A text is equal to no annotation but itself, so an argument that is one is recognised. -/
theorem equal_note_single {n : String} {s t : TypeForm} (h : s.equal t = true) :
    (Argument.note n).equal (.single s) = (Argument.note n).equal (.single t) := by
  cases TypeForm.equals_of_equal h <;> rfl

theorem equal_single_note {n : String} {s t : TypeForm} (h : s.equal t = true) :
    (Argument.single s).equal (.note n) = (Argument.single t).equal (.note n) := by
  cases TypeForm.equals_of_equal h <;> rfl

theorem equalList_congr {as bs cs ds : List TypeForm} (h : TypeForm.equalList as bs = true)
    (h' : TypeForm.equalList cs ds = true) :
    TypeForm.equalList as cs = TypeForm.equalList bs ds := by
  induction as generalizing bs cs ds with
  | nil =>
    cases bs <;> cases cs <;> cases ds <;> simp_all [TypeForm.equalList]
  | cons a as ih =>
    cases bs <;> cases cs <;> cases ds <;>
      simp only [TypeForm.equalList, Bool.and_eq_true, Bool.false_eq_true] at h h' ⊢
    rw [TypeForm.equal_congr h.1 h'.1, ih h.2 h'.2]

/-- Alike arguments are interchangeable in a comparison. -/
theorem equal_congr {a b c d : Argument} (h : a.Alike b) (h' : c.Alike d) :
    a.equal c = b.equal d := by
  cases h with
  | single h =>
    cases h' with
    | single h' => exact TypeForm.equal_congr h h'
    | group h' => simp [Argument.equal]
    | note n => exact equal_single_note h
  | group h =>
    cases h' with
    | single h' => simp [Argument.equal]
    | group h' => exact equalList_congr h h'
    | note n => rfl
  | note n =>
    cases h' with
    | single h' => exact equal_note_single h'
    | group h' => rfl
    | note m => rfl

theorem isAny_congr {a b : Argument} (h : a.Alike b) : a.isAny = b.isAny := by
  cases h with
  | single h => exact TypeForm.isAny_congr (TypeForm.normalize_congr h)
  | group _ => rfl
  | note _ => rfl

/-- **Alike lists of arguments are below alike lists together.** -/
theorem allBelow_congr {as bs cs ds : List Argument} (h : List.Forall₂ Alike as bs)
    (h' : List.Forall₂ Alike cs ds) : allBelow as cs = allBelow bs ds := by
  induction h generalizing cs ds with
  | nil =>
    cases h' with
    | nil => rfl
    | cons _ _ => rfl
  | cons hab _ ih =>
    cases h' with
    | nil => rfl
    | cons hcd hs =>
      simp only [allBelow, equal_congr hab hcd, isAny_congr hcd, ih hs]

end Argument

namespace TypeForm

/-- Lists that agree place by place give arguments that are alike. -/
theorem forall₂_single {ss ts : List TypeForm} (h : equalList ss ts = true) :
    List.Forall₂ Argument.Alike (ss.map .single) (ts.map .single) := by
  rw [equalList_iff] at h
  induction h with
  | nil => exact .nil
  | cons hab _ ih => exact .cons (.single hab) ih

theorem equalList_symm {ss ts : List TypeForm} (h : equalList ss ts = true) :
    equalList ts ss = true := by
  rw [equalList_iff] at h ⊢
  exact forall₂_symm (fun _ _ _ hab => equal_symm hab) h

/-- A callable that takes anything equals only those that do so, too. -/
theorem eq_ellipsis_of_equalList {ts : List TypeForm} (h : equalList [.ellipsis] ts = true) :
    ts = [.ellipsis] := by
  match ts, h with
  | [], h | _ :: _ :: _, h => simp [equalList] at h
  | [t], h => cases t <;> simp_all [equalList, equal]

theorem arguments_callable {i : Mark} {ps : List TypeForm} {r : TypeForm} (h : ps ≠ [.ellipsis]) :
    (TypeForm.callable i ps r).arguments = [.group ps, .single r] := by
  simp only [arguments]

/-- Equal annotations have alike arguments, place by place; unions and literals, which are compared as
sets, do not. -/
theorem arguments_congr {a b : TypeForm} (h : a.equal b = true) (hu : a.isUnion = false)
    (hl : a.origin? ≠ some (.form .literal)) :
    List.Forall₂ Argument.Alike a.arguments b.arguments := by
  replace h := equals_of_equal h
  cases h with
  | union => exact absurd hu (by simp [isUnion])
  | literal => exact absurd rfl hl
  | «alias» h => exact forall₂_single (equalList_iff.mpr h)
  | @callable i j xs ys r q h hr =>
    replace h := equalList_iff.mpr h
    -- an ellipsis in place of the parameters is an argument by itself, other parameters are a group
    by_cases hx : xs = [.ellipsis]
    · subst hx
      rw [eq_ellipsis_of_equalList h]
      exact .cons (.single (equal_refl _)) (.cons (.single hr) .nil)
    · have hy : ys ≠ [.ellipsis] := by
        rintro rfl
        exact hx (eq_ellipsis_of_equalList (equalList_symm h))
      rw [arguments_callable hx, arguments_callable hy]
      exact .cons (.group h) (.cons (.single hr) .nil)
  | annotated h =>
    refine .cons (.single h) ?_
    exact List.forall₂_same.mpr fun a ha => by
      obtain ⟨n, -, rfl⟩ := List.mem_map.mp ha
      exact .note n
  | classVar h | final h => exact .cons (.single h) .nil
  | _ => exact .nil

theorem eq_literal_of_origin? {a : TypeForm} (h : a.origin? = some (.form .literal)) :
    ∃ i vs, a = .literal i vs := by
  unfold origin? at h
  split at h <;> simp_all

theorem arguments_eq_nil_congr {a b : TypeForm} (h : a.equal b = true) (hu : a.isUnion = false) :
    a.arguments = [] ↔ b.arguments = [] := by
  by_cases hl : a.origin? = some (.form .literal)
  · obtain ⟨i, vs, rfl⟩ := eq_literal_of_origin? hl
    replace h := equals_of_equal h
    cases h with
    | literal h h' =>
      simp only [arguments, List.map_eq_nil_iff]
      constructor
      · rintro rfl
        simpa [List.eq_nil_iff_forall_not_mem] using h'
      · rintro rfl
        simpa [List.eq_nil_iff_forall_not_mem] using h
  · have hs := (arguments_congr h hu hl).length_eq
    rw [← List.length_eq_zero_iff, hs, List.length_eq_zero_iff]

/-- Equal annotations apply the same thing; only unions are spelled in two ways. -/
theorem origin?_congr {a b : TypeForm} (h : a.equal b = true) (hu : a.isUnion = false) :
    a.origin? = b.origin? := by
  cases equals_of_equal h with
  | union => exact absurd hu (by simp [isUnion])
  | _ => rfl

/-- **Equal annotations that stand for no union describe instances of one class.** -/
theorem runtimeClass?_congr {a b : TypeForm} (h : a.equal b = true) (hu : a.standsForUnion = false) :
    a.runtimeClass? = b.runtimeClass? := by
  have hn := normalize_congr h
  have hun := isUnion_normalize hu
  have hany : a.normalize = .builtin .any ↔ b.normalize = .builtin .any := by
    have hbeq := beq_cls_congr hn (.builtin .any)
    rwa [Bool.eq_iff_iff, beq_iff_eq, beq_iff_eq] at hbeq
  simp only [runtimeClass?, origin?_congr hn hun, hany]
  split
  · rfl
  · split
    · rfl
    · rfl
    · generalize a.normalize = u, b.normalize = v at hn ⊢
      cases equals_of_equal hn <;> rfl

end TypeForm

/-! ## §3  The plain answer -/

namespace Store

variable {st : Store}

theorem declaredOver_congr {c : ClassRef} {p q : TypeForm} (h : p.equal q = true) :
    st.declaredOver c p = st.declaredOver c q := by
  have hb : ∀ b : TypeForm, b.equal p = b.equal q :=
    fun b => TypeForm.equal_congr (TypeForm.equal_refl b) h
  simp only [declaredOver, hb]

/-- Literals are no classes, so nothing is below them by what they apply. -/
theorem ne_literal_of_descends {own above : Origin} (h : own.descends st above = true) :
    own ≠ .form .literal ∧ above ≠ .form .literal := by
  constructor
  · rintro rfl
    cases above <;> simp [Origin.descends] at h
  · rintro rfl
    rcases own with c | f
    · simp [Origin.descends] at h
    · cases f <;> simp [Origin.descends] at h

/-- What is applied to arguments is above what applies something below it to arguments below, and above
the classes declared over it. -/
theorem derivesBelow_of_applied {t p : TypeForm} {above : Origin} (ho : p.origin? = some above)
    (ha : p.arguments ≠ []) :
    st.derivesBelow t p =
      if t.equal p || p == .builtin .object then true
      else
        match t.origin? with
        | some own => own.descends st above && Argument.allBelow t.arguments p.arguments
        | none =>
            match t with
            | .cls c => st.declaredOver c p
            | _ => false := by
  unfold derivesBelow
  rw [ho]
  cases hp : p.arguments with
  | nil => exact absurd hp ha
  | cons _ _ => rfl

/-- What is applied to nothing is above what its class is above. -/
theorem derivesBelow_of_plain {t p : TypeForm} (h : p.origin? = none ∨ p.arguments = []) :
    st.derivesBelow t p =
      if t.equal p || p == .builtin .object then true
      else
        match t.runtimeClass?, p.runtimeClass? with
        | some c, some d => st.isSubclass c d
        | _, _ => false := by
  unfold derivesBelow
  rcases h with ho | ha
  · cases hp : p.origin? with
    | none => rfl
    | some o =>
      rw [ho] at hp
      cases hp
  · cases hp : p.arguments with
    | nil => cases p.origin? <;> rfl
    | cons a as =>
      rw [ha] at hp
      cases hp

/-- The ways in which one annotation stands below another. -/
inductive Below (st : Store) (t p : TypeForm) : Prop
  | equal : t.equal p = true → Below st t p
  | top : p = .builtin .object → Below st t p
  /-- both are applied, and what the one applies and to what is below what the other does -/
  | applied {own above : Origin} : t.origin? = some own → p.origin? = some above → p.arguments ≠ [] →
      own.descends st above = true → Argument.allBelow t.arguments p.arguments = true → Below st t p
  /-- a class of which some ancestor was declared over what is applied -/
  | declared {c : ClassRef} {above : Origin} : t = .cls c → t.origin? = none → p.origin? = some above →
      p.arguments ≠ [] → st.declaredOver c p = true → Below st t p
  /-- the upper one is applied to nothing, and only classes count -/
  | classes {c d : ClassRef} : p.origin? = none ∨ p.arguments = [] → t.runtimeClass? = some c →
      p.runtimeClass? = some d → st.isSubclass c d = true → Below st t p

theorem derivesBelow_iff {t p : TypeForm} : st.derivesBelow t p = true ↔ st.Below t p := by
  by_cases hshort : (t.equal p || p == .builtin .object) = true
  · have hbelow : st.Below t p := by
      rcases Bool.or_eq_true_iff.mp hshort with hequal | hobject
      · exact .equal hequal
      · exact .top (beq_iff_eq.mp hobject)
    refine iff_of_true ?_ hbelow
    unfold derivesBelow
    exact if_pos hshort
  have hno : t.equal p ≠ true ∧ p ≠ .builtin .object := by simpa [not_or] using hshort
  by_cases happlied : p.origin? = none ∨ p.arguments = []
  · rw [derivesBelow_of_plain happlied, if_neg hshort]
    constructor
    · intro h
      split at h
      case h_1 c d hc hd => exact .classes happlied hc hd h
      case h_2 => cases h
    · intro h
      cases h with
      | equal hequal => exact absurd hequal hno.1
      | top hobject => exact absurd hobject hno.2
      | applied _ hp ha => simp [hp, ha] at happlied
      | declared _ _ hp ha => simp [hp, ha] at happlied
      | classes _ hc hd hsub =>
        rw [hc, hd]
        exact hsub
  · obtain ⟨hsome, hargs⟩ := not_or.mp happlied
    obtain ⟨above, hsome⟩ := Option.ne_none_iff_exists'.mp hsome
    rw [derivesBelow_of_applied hsome hargs, if_neg hshort]
    constructor
    · intro h
      split at h
      case h_1 own hown =>
        rw [Bool.and_eq_true] at h
        exact .applied hown hsome hargs h.1 h.2
      case h_2 hown =>
        split at h
        case h_1 c => exact .declared rfl hown hsome hargs h
        case h_2 => cases h
    · intro h
      cases h with
      | equal hequal => exact absurd hequal hno.1
      | top hobject => exact absurd hobject hno.2
      | applied hown hp _ hdescends hbelow =>
        rw [hsome, Option.some.injEq] at hp
        subst hp
        rw [hown]
        exact Bool.and_eq_true_iff.mpr ⟨hdescends, hbelow⟩
      | declared hcls hown _ _ hover =>
        subst hcls
        rw [hown]
        exact hover
      | classes hplain => exact absurd hplain happlied

/-- **The plain answer respects equality** of what stands for no union. -/
theorem derivesBelow_congr {a b p q : TypeForm} (h : a.equal b = true) (h' : p.equal q = true)
    (ha : a.standsForUnion = false) (hp : p.standsForUnion = false) :
    st.derivesBelow a p = st.derivesBelow b q := by
  have hau := TypeForm.isUnion_of_standsForUnion ha
  have hpu := TypeForm.isUnion_of_standsForUnion hp
  have hao := TypeForm.origin?_congr h hau
  have hpo := TypeForm.origin?_congr h' hpu
  have hpa := TypeForm.arguments_eq_nil_congr h' hpu
  have hshort : (a.equal p || p == .builtin .object) = (b.equal q || q == .builtin .object) := by
    rw [TypeForm.equal_congr h h', TypeForm.builtin, TypeForm.beq_cls_congr h']
  by_cases happlied : p.origin? = none ∨ p.arguments = []
  · rw [derivesBelow_of_plain happlied, derivesBelow_of_plain (by rwa [← hpo, ← hpa]), hshort,
      TypeForm.runtimeClass?_congr h ha, TypeForm.runtimeClass?_congr h' hp]
  · obtain ⟨hsome, hargs⟩ := not_or.mp happlied
    obtain ⟨above, hsome⟩ := Option.ne_none_iff_exists'.mp hsome
    rw [derivesBelow_of_applied hsome hargs,
      derivesBelow_of_applied (hpo ▸ hsome) (fun hn => hargs (hpa.mpr hn)), hshort, ← hao]
    split
    · rfl
    · cases hown : a.origin? with
      | some own =>
        -- arguments count only where the origins descend, which rules out literals and their sets
        cases hd : own.descends st above with
        | false => simp only [Bool.false_and, hd]
        | true =>
          obtain ⟨hl, hl'⟩ := ne_literal_of_descends hd
          have hbelow := Argument.allBelow_congr
            (TypeForm.arguments_congr h hau (by rw [hown]; simpa using hl))
            (TypeForm.arguments_congr h' hpu (by rw [hsome]; simpa using hl'))
          simp only [hbelow]
      | none =>
        -- of what applies nothing, only a class is declared over anything
        cases TypeForm.equals_of_equal h with
        | cls => simp only [declaredOver_congr h']
        | _ => rfl

end Store

/-! ## §4  Kept answers -/

namespace Memo

variable {st : Store}

/-- What a memo says to a question: the answer it keeps, or else the plain one. -/
def answer (m : Memo) (st : Store) (t parent : TypeForm) : Bool :=
  (m.find? t parent).getD (st.derivesBelow t parent)

/-- Equal questions find the same kept answer. -/
theorem find?_congr {m : Memo} {a b p q : TypeForm} (h : a.equal b = true) (h' : p.equal q = true) :
    m.find? a p = m.find? b q := by
  have hk : ∀ e : (TypeForm × TypeForm) × Bool,
      (e.1.1.equal a && e.1.2.equal p) = (e.1.1.equal b && e.1.2.equal q) := fun e => by
    rw [TypeForm.equal_congr (TypeForm.equal_refl _) h, TypeForm.equal_congr (TypeForm.equal_refl _) h']
  simp only [find?, hk]

/-- **What a memo says respects equality** of what stands for no union. -/
theorem answer_congr {m : Memo} {a b p q : TypeForm} (h : a.equal b = true) (h' : p.equal q = true)
    (ha : a.standsForUnion = false) (hp : p.standsForUnion = false) :
    m.answer st a p = m.answer st b q := by
  rw [answer, answer, find?_congr h h', Store.derivesBelow_congr h h' ha hp]

/-- **Every memo says that an annotation stands in the hierarchy of its equals.** -/
theorem answer_of_equal {m : Memo} {a b : TypeForm} (h : a.equal b = true) :
    m.answer st a b = true := by
  cases hf : m.find? a b with
  | none => simp [answer, hf, Store.derivesBelow, h]
  | some r =>
    simp only [find?, Option.map_eq_some_iff] at hf
    obtain ⟨e, hfind, rfl⟩ := hf
    -- the kept answer is one for a pair of equals, and for those a memo keeps nothing but `true`
    have hkey := List.find?_some hfind
    simp only [Bool.and_eq_true] at hkey
    have he := TypeForm.equal_trans hkey.1 (TypeForm.equal_trans h (TypeForm.equal_symm hkey.2))
    simp [answer, find?, hfind, m.reflexive e (List.mem_of_find?_eq_some hfind) he]

end Memo
end MemberAccess
