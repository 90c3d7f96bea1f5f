import MemberAccess.Proofs.AcceptedValues
import MemberAccess.Proofs.SettledQuestions

/-!
# Answers that are kept

Answers about ancestry are kept, and what is kept is used for every equal question.  Equal annotations need
not be written alike: unions are equal when they have the same members.  So an answer may be that to another
question than the one that was asked, asked at some earlier time.

This does no harm exactly where equal questions have the same plain answer
(`Memo.kept_answers_are_plain_iff`), and they have it where nothing stands for a union.  Assignability takes
unions apart before it asks about ancestry, so its answers do not depend on what was asked before.  But the
ancestry of two unions goes by their arguments place by place, and there the first order that is asked about
decides for all of them (`UnionArguments.order_of_questions_shows`).
-/

namespace MemberAccess

/-! ## §1  Histories -/

/-- A question about annotations. -/
inductive Question
  | derives (t parent : TypeForm)
  | assigns (source target : TypeForm)

/-- A question, asked with the answers at hand. -/
def Question.ask (st : Store) : Question → Ask Bool
  | .derives t p => Memo.derives st t p
  | .assigns s t => Memo.isAssignable st s t

/-- **The memos that a history of questions leads to**, from the empty one: questions are asked, and a memo
may drop answers at any time. -/
inductive Memo.After (st : Store) : List Question → Memo → Prop
  | start : After st [] .empty
  | ask {qs : List Question} {m : Memo} (q : Question) : After st qs m →
      After st (qs ++ [q]) ((q.ask st).run.run m).2
  | drop {qs : List Question} {m m' : Memo} : After st qs m → m'.answers.Sublist m.answers →
      After st qs m'

namespace Memo

variable {st : Store} {m m' : Memo} {qs : List Question} {t p : TypeForm}

theorem Honest.of_sublist (h : m.Honest st) (hsub : m'.answers.Sublist m.answers) : m'.Honest st :=
  fun e he => h e (hsub.subset he)

theorem keeps_ask_honest (q : Question) : Ask.Keeps (Honest · st) (q.ask st) := by
  cases q with
  | derives t p => exact keeps_derives_honest st t p
  | assigns s t => exact keeps_isAssignable_of_derives (keeps_derives_honest st) s t

/-- **Whatever was asked before, a memo keeps what was found out**, by induction over the history. -/
theorem After.honest (h : After st qs m) : m.Honest st := by
  induction h with
  | start => exact honest_empty st
  | ask q _ ih => exact keeps_ask_honest q _ ih
  | drop _ hsub ih => exact ih.of_sublist hsub

/-- What is kept for an equal question is the plain answer to one. -/
theorem Honest.exists_of_find? {b : Bool} (h : m.Honest st) (hf : m.find? t p = some b) :
    ∃ a c, a.equal t = true ∧ c.equal p = true ∧ b = st.derivesBelow a c := by
  obtain ⟨e, he, rfl⟩ := Option.map_eq_some_iff.mp hf
  have hequal := List.find?_some he
  rw [Bool.and_eq_true] at hequal
  exact ⟨e.1.1, e.1.2, hequal.1, hequal.2, h e (List.mem_of_find?_eq_some he)⟩

/-- A question of ancestry is answered by what is kept, or plainly. -/
theorem run_derives (ht : t.hashable = true) (hp : p.hashable = true) :
    ((derives st t p).run.run m).1 = .ok ((m.find? t p).getD (st.derivesBelow t p)) := by
  unfold derives
  rw [ht, hp]
  simp only [Bool.and_self, if_true]
  rw [run_bind_ok run_get]
  cases m.find? t p with
  | some b => rfl
  | none => rfl

end Memo

/-! ## §2  Plain answers -/

/-- Equal questions have the same plain answer. -/
def Store.AnswersEqualsAlike (st : Store) (t p : TypeForm) : Prop :=
  ∀ a b : TypeForm, a.equal t = true → b.equal p = true → st.derivesBelow a b = st.derivesBelow t p

/-- Where nothing stands for a union equal questions have the same plain answer. -/
theorem Store.answersEqualsAlike_of_no_union {st : Store} {t p : TypeForm}
    (ht : t.standsForUnion = false) (hp : p.standsForUnion = false) : st.AnswersEqualsAlike t p := by
  intro a b ha hb
  refine derivesBelow_congr ha hb ?_ ?_
  · rw [TypeForm.standsForUnion_congr ha, ht]
  · rw [TypeForm.standsForUnion_congr hb, hp]

/-! ## §3  The answers that histories lead to -/

namespace Memo

variable {st : Store} {t p : TypeForm}

/-- **What a question may be answered**: after some history or other, exactly the plain answers to the
questions equal to it. -/
theorem exists_after_iff (ht : t.hashable = true) (hp : p.hashable = true) {r : Bool} :
    (∃ qs m, After st qs m ∧ ((derives st t p).run.run m).1 = .ok r) ↔
      ∃ a b : TypeForm, a.equal t = true ∧ b.equal p = true ∧ r = st.derivesBelow a b := by
  constructor
  · rintro ⟨qs, m, hm, hr⟩
    rw [run_derives ht hp] at hr
    cases hf : m.find? t p with
    | none =>
      rw [hf] at hr
      cases hr
      exact ⟨t, p, TypeForm.equal_refl t, TypeForm.equal_refl p, rfl⟩
    | some kept =>
      rw [hf] at hr
      cases hr
      exact hm.honest.exists_of_find? hf
  · rintro ⟨a, b, ha, hb, rfl⟩
    -- the equal question is asked first, and its answer is kept for the one that is asked next
    have hhash : (a.hashable && b.hashable) = true := by
      rw [TypeForm.hashable_congr ha, TypeForm.hashable_congr hb, ht, hp]
      rfl
    have hfirst : ((derives st a b).run.run empty).2 = empty.insert st a b := by
      unfold derives
      rw [if_pos hhash]
      rfl
    refine ⟨[.derives a b], _, .ask (.derives a b) .start, ?_⟩
    rw [run_derives ht hp, Question.ask, hfirst, find?_insert, ha, hb]
    rfl

/-- **Answers that are kept are plain**, after every history, exactly for the questions whose equals all
have the same plain answer; among these are all where nothing stands for a union. -/
theorem kept_answers_are_plain_iff (ht : t.hashable = true) (hp : p.hashable = true) :
    ((∀ qs m, After st qs m → ((derives st t p).run.run m).1 = .ok (st.derivesBelow t p)) ↔
      st.AnswersEqualsAlike t p) ∧
    (t.standsForUnion = false → p.standsForUnion = false → st.AnswersEqualsAlike t p) := by
  refine ⟨⟨?_, ?_⟩, Store.answersEqualsAlike_of_no_union⟩
  · intro hplain a b ha hb
    obtain ⟨qs, m, hm, hr⟩ := (exists_after_iff ht hp).mpr ⟨a, b, ha, hb, rfl⟩
    rw [hplain qs m hm] at hr
    exact (Except.ok.inj hr).symm
  · intro halike qs m hm
    rw [run_derives ht hp]
    obtain ⟨a, b, ha, hb, hr⟩ :=
      (exists_after_iff ht hp).mp ⟨qs, m, hm, run_derives ht hp⟩
    rw [hr, halike a b ha hb]

end Memo

/-! ## §4  Unions under a class, and unions alone -/

namespace UnionArguments

/-- Two annotations with a bar between them. -/
def either (a b : TypeForm) : TypeForm := .union 0 .bar [a, b]

/-- Lists of one of two. -/
def listsOf (a b : TypeForm) : TypeForm := .alias 0 .direct (.builtin .list) [either a b]

/-- Under a class the order of a union does not show: lists of integers or texts are below lists of texts or
integers, also when the question was asked the other way round before. -/
theorem lists_of_unions_are_plain :
    let intsOrTexts := listsOf (.builtin .int) (.builtin .str)
    let textsOrInts := listsOf (.builtin .str) (.builtin .int)
    intsOrTexts.hashable = true ∧ textsOrInts.hashable = true ∧
      Memo.After .empty [.derives textsOrInts intsOrTexts]
        ((Memo.derives .empty textsOrInts intsOrTexts).run.run .empty).2 ∧
      ((Memo.derives .empty intsOrTexts textsOrInts).run.run
        ((Memo.derives .empty textsOrInts intsOrTexts).run.run .empty).2).1 = .ok true := by
  intro intsOrTexts textsOrInts
  have hafter : Memo.After .empty [.derives textsOrInts intsOrTexts] _ := .ask (.derives _ _) .start
  have ht : intsOrTexts.hashable = true := by decide
  have hp : textsOrInts.hashable = true := by decide
  obtain ⟨hplain, halike⟩ := Memo.kept_answers_are_plain_iff ht hp
  have hanswer := hplain.mpr (halike rfl rfl) _ _ hafter
  exact ⟨ht, hp, hafter, hanswer.trans (by decide +kernel)⟩

/-- **The order of questions shows**: integers or texts are below integers or objects, and once that was
asked, so are texts or integers, which plainly are not. -/
theorem order_of_questions_shows :
    ∃ m, Memo.After .empty [.derives (either (.builtin .int) (.builtin .str))
        (either (.builtin .int) (.builtin .object))] m ∧
      ((Memo.derives .empty (either (.builtin .str) (.builtin .int))
        (either (.builtin .int) (.builtin .object))).run.run m).1 = .ok true ∧
      Store.empty.derivesBelow (either (.builtin .str) (.builtin .int))
        (either (.builtin .int) (.builtin .object)) = false :=
  ⟨_, .ask (.derives _ _) .start, by decide +kernel, by decide +kernel⟩

end UnionArguments
end MemberAccess
