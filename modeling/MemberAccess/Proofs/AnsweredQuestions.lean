import MemberAccess.Proofs.KeptAnswers

/-!
# Questions that get an answer

Assignability looks through the unions of two types and compares what it comes to, pair by pair
(`TypeForm.Compares`).  Ancestry answers for every pair there is, and where a type has no hash the answer is
simply not kept.  But before ancestry is asked the pair is looked for among the widenings of numbers, and a
pair that has no hash cannot be looked for anywhere: that is a fault, and nothing catches it
(`Unhashed.list_literal_is_not_answered`).

So a question gets an answer exactly if it does not stumble on such a pair on its way (`Store.Stumbles`); it
may be answered before it comes to one.  The answer it gets is the plain one, whatever was asked before
(`Memo.isAssignable_is_answered_plainly`), as long as the pairs compared have one plain answer in all
spellings.
-/

namespace MemberAccess

/-! ## §1  Searches that fail -/

/-- A search for a yes fails exactly where it comes to a failure through nothing but noes. -/
theorem anyM_eq_error_iff {α : Type} {q : α → Outcome Bool} {as : List α} {f : Failure} :
    as.anyM q = .error f ↔
      ∃ before a after, as = before ++ a :: after ∧ (∀ b ∈ before, q b = .ok false) ∧ q a = .error f := by
  induction as with
  | nil =>
    constructor
    · intro h
      cases h
    · rintro ⟨before, a, after, h, -⟩
      simp at h
  | cons a as ih =>
    rw [List.anyM_cons]
    constructor
    · intro h
      rcases hq : q a with g | b
      · rw [hq] at h
        cases h
        exact ⟨[], a, as, rfl, by simp, hq⟩
      · rw [hq] at h
        cases b with
        | true => cases h
        | false =>
          obtain ⟨before, x, after, rfl, hno, hx⟩ := ih.mp h
          refine ⟨a :: before, x, after, rfl, ?_, hx⟩
          simp only [List.mem_cons, forall_eq_or_imp]
          exact ⟨hq, hno⟩
    · rintro ⟨before, x, after, h, hno, hx⟩
      cases before with
      | nil =>
        obtain ⟨rfl, rfl⟩ := List.cons.inj h
        rw [hx]
        rfl
      | cons b before =>
        obtain ⟨rfl, rfl⟩ := List.cons.inj h
        rw [hno a (by simp)]
        exact ih.mpr ⟨before, x, after, rfl, fun b hb => hno b (by simp [hb]), hx⟩

/-- A search for a yes ends with a no exactly if every answer is no. -/
theorem anyM_eq_false_iff {α : Type} {q : α → Outcome Bool} {as : List α} :
    as.anyM q = .ok false ↔ ∀ a ∈ as, q a = .ok false := by
  induction as with
  | nil => exact ⟨fun _ => by simp, fun _ => rfl⟩
  | cons a as ih =>
    rw [List.anyM_cons, List.forall_mem_cons, ← ih]
    rcases q a with f | b
    · exact ⟨nofun, fun h => nomatch h.1⟩
    · cases b with
      | true => exact ⟨nofun, fun h => nomatch h.1⟩
      | false => exact ⟨fun h => ⟨rfl, h⟩, fun h => h.2⟩

/-- Asking whether all answers are yes is asking whether some answer is no. -/
theorem allM_eq_not_anyM {α : Type} {q : α → Outcome Bool} {as : List α} :
    as.allM q = (as.anyM fun a => (q a).map (!·)).map (!·) := by
  induction as with
  | nil => rfl
  | cons a as ih =>
    rw [List.allM_cons, List.anyM_cons, ih]
    rcases q a with f | b
    · rfl
    · cases b with
      | true => rfl
      | false => rfl

/-- A search for a no fails exactly where it comes to a failure through nothing but yeses. -/
theorem allM_eq_error_iff {α : Type} {q : α → Outcome Bool} {as : List α} {f : Failure} :
    as.allM q = .error f ↔
      ∃ before a after, as = before ++ a :: after ∧ (∀ b ∈ before, q b = .ok true) ∧ q a = .error f := by
  have herror {r : Outcome Bool} : r.map (!·) = .error f ↔ r = .error f := by
    rcases r with g | b <;> simp [Except.map]
  have hok {r : Outcome Bool} : r.map (!·) = .ok false ↔ r = .ok true := by
    rcases r with g | b <;> simp [Except.map]
  rw [allM_eq_not_anyM, herror, anyM_eq_error_iff]
  simp only [herror, hok]

/-! ## §2  What a comparison comes to -/

/-- Comparing `s` with `t` may come to comparing `a` with `b` as they are. -/
inductive TypeForm.Compares : TypeForm → TypeForm → TypeForm → TypeForm → Prop
  | plain {s t : TypeForm} : ¬ s.passes t → t.normalize.isUnion = false → s.normalize.isUnion = false →
      Compares s t s.normalize t.normalize
  | toUnion {s t t' a b : TypeForm} {i : Mark} {w : UnionSpelling} {ts : List TypeForm} :
      ¬ s.passes t → t.normalize = .union i w ts → t' ∈ ts → Compares s.normalize t' a b →
      Compares s t a b
  | fromUnion {s t s' a b : TypeForm} {i : Mark} {w : UnionSpelling} {ss : List TypeForm} :
      ¬ s.passes t → t.normalize.isUnion = false → s.normalize = .union i w ss → s' ∈ ss →
      Compares s' t.normalize a b → Compares s t a b

namespace Store

/-- Comparing two types stumbles on a pair that has no hash: it comes to the pair before it has an answer,
and the class of everything, which is below nothing, is not the lower one. -/
inductive Stumbles (st : Store) : TypeForm → TypeForm → Prop
  | plain {s t : TypeForm} : ¬ s.passes t → t.normalize.isUnion = false → s.normalize.isUnion = false →
      s.normalize ≠ .builtin .object → (s.normalize.hashable && t.normalize.hashable) = false →
      Stumbles st s t
  | toUnion {s t t' : TypeForm} {i : Mark} {w : UnionSpelling} {before after : List TypeForm} :
      ¬ s.passes t → t.normalize = .union i w (before ++ t' :: after) →
      (∀ u ∈ before, st.isAssignable s.normalize u = .ok false) → Stumbles st s.normalize t' →
      Stumbles st s t
  | fromUnion {s t s' : TypeForm} {i : Mark} {w : UnionSpelling} {before after : List TypeForm} :
      ¬ s.passes t → t.normalize.isUnion = false → s.normalize = .union i w (before ++ s' :: after) →
      (∀ u ∈ before, st.isAssignable u t.normalize = .ok true) → Stumbles st s' t.normalize →
      Stumbles st s t

variable {st : Store} {s t : TypeForm}

/-- **Assignability fails exactly by stumbling**, and a pair without hash is all that it fails for. -/
theorem isAssignable_eq_error_iff {f : Failure} :
    st.isAssignable s t = .error f ↔ f = .fault .typeError ∧ st.Stumbles s t := by
  induction s, t using TypeForm.induction_compared with
  | pass s t h =>
    rw [isAssignable, assignableVia_of_passes h]
    constructor
    · nofun
    · rintro ⟨-, hstumbles⟩
      cases hstumbles <;> contradiction
  | toUnion s t i w ts h htn ih =>
    rw [isAssignable, assignableVia_to_union h htn, anyM_eq_error_iff]
    constructor
    · rintro ⟨before, t', after, rfl, hno, ht'⟩
      obtain ⟨hf, hstumbles⟩ := (ih t' (by simp)).mp ht'
      exact ⟨hf, .toUnion h htn hno hstumbles⟩
    · rintro ⟨hf, hstumbles⟩
      cases hstumbles with
      | plain _ htu => simp [htn, TypeForm.isUnion] at htu
      | fromUnion _ htu => simp [htn, TypeForm.isUnion] at htu
      | @toUnion _ _ t' i' w' before after _ htn' hno hstumbles =>
        rw [htn, TypeForm.union.injEq] at htn'
        obtain ⟨-, -, rfl⟩ := htn'
        exact ⟨before, t', after, rfl, hno, (ih t' (by simp)).mpr ⟨hf, hstumbles⟩⟩
  | fromUnion s t i w ss h htu hsn ih =>
    rw [isAssignable, assignableVia_from_union h htu hsn, allM_eq_error_iff]
    constructor
    · rintro ⟨before, s', after, rfl, hyes, hs'⟩
      obtain ⟨hf, hstumbles⟩ := (ih s' (by simp)).mp hs'
      exact ⟨hf, .fromUnion h htu hsn hyes hstumbles⟩
    · rintro ⟨hf, hstumbles⟩
      cases hstumbles with
      | plain _ _ hsu => simp [hsn, TypeForm.isUnion] at hsu
      | toUnion _ htn => simp [htn, TypeForm.isUnion] at htu
      | @fromUnion _ _ s' i' w' before after _ _ hsn' hyes hstumbles =>
        rw [hsn, TypeForm.union.injEq] at hsn'
        obtain ⟨-, -, rfl⟩ := hsn'
        exact ⟨before, s', after, rfl, hyes, (ih s' (by simp)).mpr ⟨hf, hstumbles⟩⟩
  | plain s t h htu hsu =>
    rw [isAssignable, assignableVia_plain h htu hsu]
    constructor
    · intro herror
      split at herror
      case isTrue => cases herror
      case isFalse hobject =>
        split at herror
        case isTrue hhash =>
          cases herror
          exact ⟨rfl, .plain h htu hsu hobject (by rwa [Bool.not_eq_true'] at hhash)⟩
        case isFalse =>
          split at herror <;> cases herror
    · rintro ⟨rfl, hstumbles⟩
      cases hstumbles with
      | plain _ _ _ hobject hhash =>
        rw [if_neg hobject, hhash]
        rfl
      | toUnion _ htn => simp [htn, TypeForm.isUnion] at htu
      | fromUnion _ _ hsn => simp [hsn, TypeForm.isUnion] at hsu

/-- Assignability is answered exactly where it does not stumble. -/
theorem not_stumbles_iff : ¬ st.Stumbles s t ↔ ∃ b, st.isAssignable s t = .ok b := by
  rcases hr : st.isAssignable s t with f | b
  · have hstumbles := (isAssignable_eq_error_iff.mp hr).2
    exact ⟨fun hno => absurd hstumbles hno, nofun⟩
  · refine ⟨fun _ => ⟨b, rfl⟩, fun _ hstumbles => ?_⟩
    rw [isAssignable_eq_error_iff.mpr ⟨rfl, hstumbles⟩] at hr
    cases hr

/-- What compares only pairs that have a hash does not stumble. -/
theorem not_stumbles_of_hashable
    (h : ∀ a b, s.Compares t a b → a.hashable = true ∧ b.hashable = true) : ¬ st.Stumbles s t := by
  intro hstumbles
  induction hstumbles with
  | plain hpass htu hsu _ hhash =>
    obtain ⟨hs, ht⟩ := h _ _ (.plain hpass htu hsu)
    simp [hs, ht] at hhash
  | toUnion hpass htn _ _ ih => exact ih fun a b hab => h a b (.toUnion hpass htn (by simp) hab)
  | fromUnion hpass htu hsn _ _ ih => exact ih fun a b hab => h a b (.fromUnion hpass htu hsn (by simp) hab)

end Store

/-! ## §3  Answers after any history -/

/-- Without unions in disguise every pair compared has one plain answer in all spellings. -/
theorem Store.answersEqualsAlike_of_undisguised {st : Store} {s t a b : TypeForm}
    (hs : s.undisguised = true) (ht : t.undisguised = true) (hab : s.Compares t a b) :
    st.AnswersEqualsAlike a b := by
  induction hab with
  | plain _ htu hsu =>
    exact answersEqualsAlike_of_no_union (TypeForm.standsForUnion_of_undisguised hs hsu)
      (TypeForm.standsForUnion_of_undisguised ht htu)
  | toUnion _ htn ht' _ ih =>
    exact ih (TypeForm.undisguised_normalize hs) (TypeForm.undisguised_of_mem ht htn ht')
  | fromUnion _ _ hsn hs' _ ih =>
    exact ih (TypeForm.undisguised_of_mem hs hsn hs') (TypeForm.undisguised_normalize ht)

/-- What unwrapped types come to stands for no union, and has one plain answer in all spellings. -/
theorem Store.answersEqualsAlike_of_unwrapped {st : Store} {s t a b : TypeForm} (hs : s.Unwrapped)
    (ht : t.Unwrapped) (hab : s.Compares t a b) : st.AnswersEqualsAlike a b := by
  induction hab with
  | plain _ htu hsu =>
    exact answersEqualsAlike_of_no_union (TypeForm.standsForUnion_of_normal hs.normalize_normalize hsu)
      (TypeForm.standsForUnion_of_normal ht.normalize_normalize htu)
  | toUnion _ htn ht' _ ih => exact ih hs.normalize (ht.of_mem htn ht')
  | fromUnion _ _ hsn hs' _ ih => exact ih (hs.of_mem hsn hs') ht.normalize

namespace Memo

variable {st : Store} {s t : TypeForm} {qs : List Question} {m : Memo}

/-- Asked now, a type may flow into another. -/
def Accepts (m : Memo) (st : Store) (s t : TypeForm) : Prop :=
  ((isAssignable st s t).run.run m).1 = .ok true

instance : Decidable (m.Accepts st s t) := inferInstanceAs (Decidable (_ = _))

/-- A question that has one answer in all spellings is answered plainly by a memo that is honest. -/
theorem gives_derives (hs : s.hashable = true) (ht : t.hashable = true)
    (halike : st.AnswersEqualsAlike s t) :
    Ask.Gives (Honest · st) (derives st s t) (.ok (st.derivesBelow s t)) := by
  intro m hm
  refine ⟨_, Prod.ext ?_ rfl, keeps_derives_honest st s t m hm⟩
  rw [run_derives hs ht]
  cases hf : m.find? s t with
  | none => rfl
  | some kept =>
    obtain ⟨a, b, ha, hb, rfl⟩ := hm.exists_of_find? hf
    rw [Option.getD_some, halike a b ha hb]

/-- **Assignability asked of an honest memo comes to what it comes to plainly**, a fault included, where the
pairs that it compares have one answer in all spellings. -/
theorem gives_isAssignable (halike : ∀ a b, s.Compares t a b → st.AnswersEqualsAlike a b) :
    Ask.Gives (Honest · st) (isAssignable st s t) (st.isAssignable s t) := by
  induction s, t using TypeForm.induction_compared with
  | pass s t h =>
    rw [isAssignable, Store.isAssignable, assignableVia_of_passes h, assignableVia_of_passes h]
    exact Ask.gives_pure true
  | toUnion s t i w ts h htn ih =>
    rw [isAssignable, Store.isAssignable, assignableVia_to_union h htn, assignableVia_to_union h htn]
    refine Ask.gives_anyM ?_
    intro t' ht'
    exact ih t' ht' fun a b hab => halike a b (.toUnion h htn ht' hab)
  | fromUnion s t i w ss h htu hsn ih =>
    rw [isAssignable, Store.isAssignable, assignableVia_from_union h htu hsn,
      assignableVia_from_union h htu hsn]
    refine Ask.gives_allM ?_
    intro s' hs'
    exact ih s' hs' fun a b hab => halike a b (.fromUnion h htu hsn hs' hab)
  | plain s t h htu hsu =>
    rw [isAssignable, Store.isAssignable, assignableVia_plain h htu hsu, assignableVia_plain h htu hsu]
    split
    · exact Ask.gives_pure false
    split
    · exact Ask.gives_throw _
    split
    · exact Ask.gives_pure true
    case isFalse hhash _ =>
      simp only [Bool.not_eq_true, Bool.not_eq_false', Bool.and_eq_true] at hhash
      exact gives_derives hhash.1 hhash.2 (halike _ _ (.plain h htu hsu))

/-- **Assignability is plain after every history**, also of unions. -/
theorem run_isAssignable_after (hm : After st qs m)
    (halike : ∀ a b, s.Compares t a b → st.AnswersEqualsAlike a b) :
    ((isAssignable st s t).run.run m).1 = st.isAssignable s t := by
  obtain ⟨m', hrun, -⟩ := gives_isAssignable halike m hm.honest
  rw [hrun]

theorem accepts_iff (hm : After st qs m) (hs : s.Unwrapped) (ht : t.Unwrapped) :
    m.Accepts st s t ↔ st.isAssignable s t = .ok true := by
  have halike (a b : TypeForm) (hab : s.Compares t a b) : st.AnswersEqualsAlike a b :=
    Store.answersEqualsAlike_of_unwrapped hs ht hab
  rw [Accepts, run_isAssignable_after hm halike]

/-- **Assignability is answered, and answered plainly, after every history**, unless it stumbles on a pair
that has no hash: then it is a fault.  Where all pairs compared have a hash it does not stumble. -/
theorem isAssignable_is_answered_plainly (hm : After st qs m)
    (halike : ∀ a b, s.Compares t a b → st.AnswersEqualsAlike a b) :
    ((isAssignable st s t).run.run m).1 = st.isAssignable s t ∧
    (st.Stumbles s t → ((isAssignable st s t).run.run m).1 = .error (.fault .typeError)) ∧
    (¬ st.Stumbles s t → ∃ b, ((isAssignable st s t).run.run m).1 = .ok b) ∧
    ((∀ a b, s.Compares t a b → a.hashable = true ∧ b.hashable = true) → ¬ st.Stumbles s t) := by
  rw [run_isAssignable_after hm halike]
  refine ⟨rfl, ?_, ?_, Store.not_stumbles_of_hashable⟩
  · intro hstumbles
    exact Store.isAssignable_eq_error_iff.mpr ⟨rfl, hstumbles⟩
  · exact Store.not_stumbles_iff.mp

end Memo

/-! ## §4  A literal without hash -/

namespace Unhashed

/-- The literal whose one value is a list, which has no hash. -/
def listLiteral : TypeForm := .literal 0 [⟨.object 0, "[0]", false⟩]

/-- An integer, or that literal. -/
def intOrListLiteral : TypeForm := .union 1 .subscript [.builtin .int, listLiteral]

/-- A question may be answered before it comes to the literal: truth values are integers, also right after
the literal was asked about. -/
theorem truth_is_answered_before_list_literal :
    ∃ qs m, Memo.After .empty qs m ∧
      (∀ a b, (TypeForm.builtin .bool).Compares intOrListLiteral a b →
        Store.empty.AnswersEqualsAlike a b) ∧
      ((Memo.isAssignable .empty (.builtin .bool) intOrListLiteral).run.run m).1 = .ok true := by
  have hafter : Memo.After .empty [.assigns listLiteral (.builtin .int)] _ := .ask (.assigns _ _) .start
  have halike (a b : TypeForm) (hab : (TypeForm.builtin .bool).Compares intOrListLiteral a b) :
      Store.empty.AnswersEqualsAlike a b :=
    Store.answersEqualsAlike_of_undisguised rfl rfl hab
  have hplain := (Memo.isAssignable_is_answered_plainly hafter halike).1
  exact ⟨_, _, hafter, halike, hplain.trans (by decide +kernel)⟩

/-- **A literal without hash gets no answer**: asking whether it may flow into an integer is a fault, with
answers kept and without, though ancestry has an answer. -/
theorem list_literal_is_not_answered :
    ((Memo.isAssignable .empty listLiteral (.builtin .int)).run.run .empty).1 = .error (.fault .typeError) ∧
    Store.empty.isAssignable listLiteral (.builtin .int) = .error (.fault .typeError) ∧
    Store.empty.derivesBelow listLiteral (.builtin .int) = false := by
  decide +kernel

end Unhashed
end MemberAccess
