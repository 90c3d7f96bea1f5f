import Mathlib.Data.Nat.Init
import MemberAccess.Proofs.EqualAncestry
import MemberAccess.Proofs.Runs

/-!
# Assignability respects equality

The test of assignability has two ways of telling annotations apart that are equal: it lets the very same
object through before it looks at anything, and it refuses types without a hash only when it comes to
them, in the order in which members of unions stand.  Where all types involved have a hash and at most
one of the two sides stands for a union, neither matters: `assigns_congr`.

With unions on both sides it does matter.  A union is looked for among the members of the other one, not
member by member, so a union flows into itself and not into an equal one written in another order.
-/

namespace MemberAccess

/-! ## §1  The cases of the test -/

theorem TypeForm.exists_of_isUnion {t : TypeForm} (h : t.isUnion = true) :
    ∃ i u ts, t = .union i u ts := by
  cases t <;> first | exact ⟨_, _, _, rfl⟩ | exact absurd h (by simp [TypeForm.isUnion])

section
variable {m : Type → Type} [Monad m] [MonadExceptOf Failure m]
  {derives : TypeForm → TypeForm → m Bool} {s t : TypeForm}

/-- What is let through before anything is looked at. -/
def TypeForm.passes (s t : TypeForm) : Prop :=
  s.normalize = t.normalize ∨ t.normalize.isAny ∨ s.normalize = .builtin .any

instance {s t : TypeForm} : Decidable (s.passes t) := inferInstanceAs (Decidable (_ ∨ _ ∨ _))

theorem assignableToSome_eq (s : TypeForm) (ts : List TypeForm) :
    assignableToSome derives s ts = ts.anyM (assignableVia derives s) := by
  induction ts with
  | nil => rw [assignableToSome]; rfl
  | cons t ts ih =>
    rw [assignableToSome, List.anyM_cons, ih]

theorem allAssignable_eq (ss : List TypeForm) (t : TypeForm) :
    allAssignable derives ss t = ss.allM fun s => assignableVia derives s t := by
  induction ss with
  | nil => rw [allAssignable]; rfl
  | cons s ss ih =>
    rw [allAssignable, List.allM_cons, ih]

theorem assignableVia_of_passes (h : s.passes t) : assignableVia derives s t = pure true := by
  rw [assignableVia]
  exact if_pos h

theorem assignableVia_to_union {i : Mark} {u : UnionSpelling} {ts : List TypeForm}
    (h : ¬ s.passes t) (ht : t.normalize = .union i u ts) :
    assignableVia derives s t = ts.anyM (assignableVia derives s.normalize) := by
  unfold TypeForm.passes at h
  rw [assignableVia, if_neg h]
  split
  case h_1 hw =>
    rw [ht, TypeForm.union.injEq] at hw
    rw [assignableToSome_eq, hw.2.2]
  all_goals exact absurd ht (‹∀ _ _ _, t.normalize = _ → False› _ _ _)

theorem assignableVia_from_union {i : Mark} {u : UnionSpelling} {ss : List TypeForm}
    (h : ¬ s.passes t) (ht : t.normalize.isUnion = false) (hs : s.normalize = .union i u ss) :
    assignableVia derives s t = ss.allM fun s => assignableVia derives s t.normalize := by
  unfold TypeForm.passes at h
  rw [assignableVia, if_neg h]
  split
  case h_1 hw =>
    rw [hw] at ht
    exact absurd ht (by simp [TypeForm.isUnion])
  case h_2 ho _ =>
    rw [hs, TypeForm.union.injEq] at ho
    rw [allAssignable_eq, ho.2.2]
  case h_3 => exact absurd hs (‹∀ _ _ _, s.normalize = _ → False› _ _ _)

theorem assignableVia_plain (h : ¬ s.passes t) (ht : t.normalize.isUnion = false)
    (hs : s.normalize.isUnion = false) :
    assignableVia derives s t =
      if s.normalize = .builtin .object then pure false
      else if !(s.normalize.hashable && t.normalize.hashable) then throw (Failure.fault .typeError)
      else if s.normalize.promotes t.normalize then pure true
      else derives s.normalize t.normalize := by
  unfold TypeForm.passes at h
  rw [assignableVia, if_neg h]
  split
  case h_1 hw =>
    rw [hw] at ht
    exact absurd ht (by simp [TypeForm.isUnion])
  case h_2 ho _ =>
    rw [ho] at hs
    exact absurd hs (by simp [TypeForm.isUnion])
  case h_3 => rfl

/-- Two types are compared as their normal forms are. -/
theorem assignableVia_congr {s' t' : TypeForm} (hs : s.normalize = s'.normalize)
    (ht : t.normalize = t'.normalize) : assignableVia derives s t = assignableVia derives s' t' := by
  by_cases hp : s.passes t
  · have hp' : s'.passes t' := by rwa [TypeForm.passes, ← hs, ← ht]
    rw [assignableVia_of_passes hp, assignableVia_of_passes hp']
  · have hp' : ¬ s'.passes t' := by rwa [TypeForm.passes, ← hs, ← ht]
    cases htu : t.normalize.isUnion with
    | true =>
      obtain ⟨i, w, ts, htn⟩ := TypeForm.exists_of_isUnion htu
      rw [assignableVia_to_union hp htn, assignableVia_to_union hp' (ht ▸ htn), hs]
    | false =>
      cases hsu : s.normalize.isUnion with
      | true =>
        obtain ⟨i, w, ss, hsn⟩ := TypeForm.exists_of_isUnion hsu
        rw [assignableVia_from_union hp htu hsn, assignableVia_from_union hp' (ht ▸ htu) (hs ▸ hsn), ht]
      | false =>
        rw [assignableVia_plain hp htu hsu, assignableVia_plain hp' (ht ▸ htu) (hs ▸ hsu), hs, ht]

end

namespace TypeForm

theorem weight_lt_of_mem {t : TypeForm} {ts : List TypeForm} (h : t ∈ ts) : t.weight < weights ts := by
  induction ts with
  | nil => simp at h
  | cons u us ih =>
    simp only [weights]
    rcases List.mem_cons.mp h with rfl | h
    · omega
    · have := ih h
      omega

/-- Two annotations are compared by comparing what is nearer to classes: a source with the members of
the target's union, the members of the source's union with a target that is none, or the two as they
are. -/
theorem induction_compared {P : TypeForm → TypeForm → Prop}
    (pass : ∀ s t, s.passes t → P s t)
    (toUnion : ∀ s t i u ts, ¬ s.passes t → t.normalize = .union i u ts →
      (∀ t' ∈ ts, P s.normalize t') → P s t)
    (fromUnion : ∀ s t i u ss, ¬ s.passes t → t.normalize.isUnion = false →
      s.normalize = .union i u ss → (∀ s' ∈ ss, P s' t.normalize) → P s t)
    (plain : ∀ s t, ¬ s.passes t → t.normalize.isUnion = false → s.normalize.isUnion = false → P s t)
    (s t : TypeForm) : P s t := by
  induction hn : s.weight + t.weight using Nat.strong_induction_on generalizing s t with
  | _ n ih =>
    subst hn
    by_cases hp : s.passes t
    · exact pass s t hp
    · cases ht : t.normalize.isUnion with
      | true =>
        obtain ⟨i, u, ts, htn⟩ := exists_of_isUnion ht
        refine toUnion s t i u ts hp htn ?_
        intro t' ht'
        refine ih _ ?_ _ _ rfl
        have h₁ := weights_lt_of_normalize htn
        have h₂ := weight_lt_of_mem ht'
        have h₃ := weight_normalize_le s
        omega
      | false =>
        cases hs : s.normalize.isUnion with
        | true =>
          obtain ⟨i, u, ss, hsn⟩ := exists_of_isUnion hs
          refine fromUnion s t i u ss hp ht hsn ?_
          intro s' hs'
          refine ih _ ?_ _ _ rfl
          have h₁ := weights_lt_of_normalize hsn
          have h₂ := weight_lt_of_mem hs'
          have h₃ := weight_normalize_le t
          omega
        | false => exact plain s t hp ht hs

end TypeForm

/-! ## §2  Annotations that can be compared -/

namespace TypeForm

mutual
/-- Whether no union is compared in disguise: the choice of a variable, wherever a comparison looks for one,
is a union or stands for none. -/
def undisguised : TypeForm → Bool
  | .union _ _ ts => undisguisedList ts
  | .choice _ t => t.undisguised && (t.isUnion || !t.standsForUnion)
  | .bounded _ t | .annotated _ t _ | .classVar _ t => t.undisguised
  | _ => true

/-- Whether no union is compared in disguise for any of several annotations. -/
def undisguisedList : List TypeForm → Bool
  | [] => true
  | t :: ts => t.undisguised && undisguisedList ts
end

theorem undisguisedList_iff {ts : List TypeForm} :
    undisguisedList ts = true ↔ ∀ t ∈ ts, t.undisguised = true := by
  induction ts with
  | nil => simp [undisguisedList]
  | cons t ts ih => simp [undisguisedList, ih]

theorem undisguised_normalize {t : TypeForm} (h : t.undisguised = true) :
    t.normalize.undisguised = true := by
  induction t using normalize.induct <;> simp_all [normalize, undisguised]

theorem undisguised_of_mem {t u : TypeForm} {i : Mark} {w : UnionSpelling} {ts : List TypeForm}
    (h : t.undisguised = true) (htn : t.normalize = .union i w ts) (hu : u ∈ ts) :
    u.undisguised = true := by
  have hn := undisguised_normalize h
  rw [htn, undisguised, undisguisedList_iff] at hn
  exact hn u hu

/-- What is no union once it is normal stands for none. -/
theorem standsForUnion_of_undisguised {t : TypeForm} (h : t.undisguised = true)
    (hu : t.normalize.isUnion = false) : t.normalize.standsForUnion = false := by
  induction t using normalize.induct with
  | case1 | case2 | case3 => rfl
  | case5 n t =>
    simp only [undisguised, Bool.and_eq_true, Bool.or_eq_true, Bool.not_eq_true'] at h
    simp only [normalize] at hu ⊢
    rcases h.2 with hu' | hs
    · rw [hu] at hu'
      cases hu'
    · exact hs
  | case4 _ t ih | case6 _ t _ ih | case7 _ t ih =>
    simp only [undisguised, normalize] at h hu ⊢
    exact ih h hu
  | case8 t => cases t <;> simp_all [normalize, isUnion, standsForUnion]

mutual
/-- Whether an annotation can be compared in any order of its members: all that it comes to in a
comparison has a hash, and the choice of a variable is a union or stands for none. -/
def comparable : TypeForm → Bool
  | .union _ _ ts => comparableList ts
  | .choice _ t => t.comparable && (t.isUnion || !t.standsForUnion)
  | .bounded _ t | .annotated _ t _ | .classVar _ t => t.comparable
  | t => t.hashable

/-- Whether all of several annotations can be compared. -/
def comparableList : List TypeForm → Bool
  | [] => true
  | t :: ts => t.comparable && comparableList ts
end

theorem comparableList_iff {ts : List TypeForm} :
    comparableList ts = true ↔ ∀ t ∈ ts, t.comparable = true := by
  induction ts with
  | nil => simp [comparableList]
  | cons t ts ih => simp [comparableList, ih]

theorem comparable_of_mem {i : Mark} {u : UnionSpelling} {ts : List TypeForm} {t : TypeForm}
    (h : (TypeForm.union i u ts).comparable = true) (ht : t ∈ ts) : t.comparable = true := by
  rw [comparable, comparableList_iff] at h
  exact h t ht

theorem hashable_of_comparable {t : TypeForm} (h : t.comparable = true) : t.hashable = true := by
  induction t using induction_parts with
  | _ t ih =>
    cases t
    case union i u ts =>
      rw [hashable, hashableList_iff]
      exact fun t' ht' => ih t' ht' (comparable_of_mem h ht')
    case annotated i t ns =>
      simp only [comparable, hashable] at h ⊢
      exact ih t (by simp [parts]) h
    case classVar i t =>
      simp only [comparable, hashable] at h ⊢
      exact ih t (by simp [parts]) h
    all_goals first | exact h | rfl

theorem comparable_normalize {t : TypeForm} (h : t.comparable = true) :
    t.normalize.comparable = true := by
  induction t using normalize.induct <;>
    simp_all [normalize, comparable, hashable]

mutual
theorem undisguised_of_comparable : (t : TypeForm) → t.comparable = true → t.undisguised = true
  | .union _ _ ts, h => by
      rw [comparable] at h
      exact undisguisedList_of_comparableList ts h
  | .choice _ t, h => by
      simp only [comparable, undisguised, Bool.and_eq_true] at h ⊢
      exact ⟨undisguised_of_comparable t h.1, h.2⟩
  | .bounded _ t, h | .annotated _ t _, h | .classVar _ t, h => undisguised_of_comparable t h
  | .none, _ | .cls _, _ | .bare _, _ | .ellipsis, _ | .text _, _ | .forward _, _ | .variable _, _
  | .alias .., _ | .callable .., _ | .final .., _ | .literal .., _ | .foreign _, _ => rfl

theorem undisguisedList_of_comparableList :
    (ts : List TypeForm) → comparableList ts = true → undisguisedList ts = true
  | [], _ => rfl
  | t :: ts, h => by
      simp only [comparableList, undisguisedList, Bool.and_eq_true] at h ⊢
      exact ⟨undisguised_of_comparable t h.1, undisguisedList_of_comparableList ts h.2⟩
end

/-- What can be compared and is no union comes to none. -/
theorem standsForUnion_of_comparable {t : TypeForm} (h : t.comparable = true)
    (hu : t.normalize.isUnion = false) : t.normalize.standsForUnion = false :=
  standsForUnion_of_undisguised (undisguised_of_comparable t h) hu

theorem comparable_of_equal {a b : TypeForm} (h : a.equal b = true) (ha : a.comparable = true) :
    b.comparable = true := by
  induction a using induction_parts generalizing b with
  | _ a ih =>
    have hequals := equals_of_equal h
    cases hequals with
    | union _ hys =>
      rw [comparable, comparableList_iff]
      intro y hy
      obtain ⟨x, hx, hxy⟩ := hys y hy
      exact ih x hx hxy (comparable_of_mem ha hx)
    | bounded | choice => exact ha
    | annotated hab | classVar hab =>
      simp only [comparable] at ha ⊢
      exact ih _ (by simp [parts]) hab ha
    | _ =>
      simp only [comparable] at ha ⊢
      exact hashable_of_equal h ha

section
variable {t u : TypeForm} {i : Mark} {w : UnionSpelling} {ts : List TypeForm}

/-- The members of a union that can be compared can be compared. -/
theorem comparable_of_mem_normalize (hc : t.comparable = true) (htn : t.normalize = .union i w ts)
    {x : TypeForm} (hx : x ∈ ts) : x.comparable = true := by
  have hcs : t.normalize.comparable = true := comparable_normalize hc
  rw [htn] at hcs
  exact comparable_of_mem hcs hx

/-- What is equal to a union is one of the same members, in some order. -/
theorem exists_union_of_equal (h : t.equal u = true) (htn : t.normalize = .union i w ts) :
    ∃ j v us, u.normalize = .union j v us ∧ (∀ x ∈ ts, ∃ y ∈ us, x.equal y = true) ∧
      ∀ y ∈ us, ∃ x ∈ ts, x.equal y = true := by
  have hn : t.normalize.equal u.normalize = true := normalize_congr h
  have hu : u.normalize.isUnion = true := by
    rw [← isUnion_congr hn, htn]
    rfl
  obtain ⟨j, v, us, hun⟩ := exists_of_isUnion hu
  rw [htn, hun, equal_union_iff] at hn
  exact ⟨j, v, us, hun, hn⟩

end

end TypeForm

/-! ## §3  Answers kept and answers found out -/

/-- Assignability where every question of ancestry has an answer at hand. -/
def assigns (answer : TypeForm → TypeForm → Bool) (source target : TypeForm) : Outcome Bool :=
  assignableVia (fun t parent => pure (answer t parent)) source target

section
variable {st : Store} {answer : TypeForm → TypeForm → Bool}

/-- Asked with any memo of a property, the question has the result `r` and leaves a memo of that
property. -/
def Ask.Gives {α : Type} (P : Memo → Prop) (q : Ask α) (r : Outcome α) : Prop :=
  ∀ m : Memo, P m → ∃ m' : Memo, q.run.run m = (r, m') ∧ P m'

/-- Asked with any memo that says `answer`, the question has the result `r` and leaves a memo that says
`answer`. -/
def Ask.Says {α : Type} (st : Store) (answer : TypeForm → TypeForm → Bool) (q : Ask α)
    (r : Outcome α) : Prop :=
  ∀ m : Memo, m.answer st = answer → ∃ m' : Memo, q.run.run m = (r, m') ∧ m'.answer st = answer

namespace Ask

variable {α β : Type} {P : Memo → Prop}

theorem gives_pure (a : α) : Gives P (pure a) (.ok a) := fun m hm => ⟨m, rfl, hm⟩

theorem gives_throw (f : Failure) : Gives P (throw f : Ask α) (.error f) := fun m hm => ⟨m, rfl, hm⟩

theorem gives_bind {q : Ask α} {k : α → Ask β} {r : Outcome α} {k' : α → Outcome β} (hq : Gives P q r)
    (hk : ∀ a, r = .ok a → Gives P (k a) (k' a)) : Gives P (q >>= k) (r >>= k') := by
  intro m hm
  obtain ⟨m', hrun, hm'⟩ := hq m hm
  cases r with
  | error f => exact ⟨m', run_bind_error hrun, hm'⟩
  | ok a =>
    obtain ⟨m'', hrun', hm''⟩ := hk a rfl m' hm'
    exact ⟨m'', (run_bind_ok hrun).trans hrun', hm''⟩

theorem gives_anyM {q : α → Ask Bool} {r : α → Outcome Bool} {as : List α}
    (h : ∀ a ∈ as, Gives P (q a) (r a)) : Gives P (as.anyM q) (as.anyM r) := by
  induction as with
  | nil => exact gives_pure false
  | cons a as ih =>
    rw [List.anyM_cons, List.anyM_cons]
    refine gives_bind (h a (by simp)) ?_
    intro b _
    cases b with
    | true => exact gives_pure true
    | false => exact ih fun a' ha' => h a' (by simp [ha'])

theorem gives_allM {q : α → Ask Bool} {r : α → Outcome Bool} {as : List α}
    (h : ∀ a ∈ as, Gives P (q a) (r a)) : Gives P (as.allM q) (as.allM r) := by
  induction as with
  | nil => exact gives_pure true
  | cons a as ih =>
    rw [List.allM_cons, List.allM_cons]
    refine gives_bind (h a (by simp)) ?_
    intro b _
    cases b with
    | false => exact gives_pure false
    | true => exact ih fun a' ha' => h a' (by simp [ha'])

theorem says_pure (a : α) : Says st answer (pure a) (.ok a) := gives_pure a

theorem says_throw (f : Failure) : Says st answer (throw f : Ask α) (.error f) := gives_throw f

theorem says_bind {q : Ask α} {k : α → Ask β} {r : Outcome α} {k' : α → Outcome β}
    (hq : Says st answer q r) (hk : ∀ a, r = .ok a → Says st answer (k a) (k' a)) :
    Says st answer (q >>= k) (r >>= k') :=
  gives_bind hq hk

theorem says_anyM {q : α → Ask Bool} {r : α → Outcome Bool} {as : List α}
    (h : ∀ a ∈ as, Says st answer (q a) (r a)) : Says st answer (as.anyM q) (as.anyM r) :=
  gives_anyM h

theorem says_allM {q : α → Ask Bool} {r : α → Outcome Bool} {as : List α}
    (h : ∀ a ∈ as, Says st answer (q a) (r a)) : Says st answer (as.allM q) (as.allM r) :=
  gives_allM h

end Ask

namespace Memo

/-- An answer that is kept from now on is the one that was given already. -/
theorem answer_insert {m : Memo} {t p : TypeForm} (ht : t.standsForUnion = false)
    (hp : p.standsForUnion = false) (hf : m.find? t p = none) :
    (m.insert st t p).answer st = m.answer st := by
  funext a b
  by_cases hk : t.equal a && p.equal b
  · simp only [Bool.and_eq_true] at hk
    have hfind : m.find? a b = none := by rw [← find?_congr hk.1 hk.2, hf]
    simp only [answer, hfind, Option.getD_none]
    simp [find?, insert, hk, Store.derivesBelow_congr hk.1 hk.2 ht hp]
  · simp [answer, find?, insert, hk]

/-- Asking a memo gives what it says and changes nothing that it says. -/
theorem says_derives {t p : TypeForm} (ht : t.hashable = true) (hp : p.hashable = true)
    (htu : t.standsForUnion = false) (hpu : p.standsForUnion = false) :
    Ask.Says st answer (derives st t p) (.ok (answer t p)) := by
  rintro m rfl
  unfold derives
  simp only [ht, hp, Bool.and_self, if_true]
  rw [run_bind_ok run_get]
  cases hf : m.find? t p with
  | some b =>
    refine ⟨m, ?_, rfl⟩
    rw [run_pure, Memo.answer, hf, Option.getD_some]
  | none =>
    refine ⟨m.insert st t p, ?_, answer_insert htu hpu hf⟩
    rw [run_bind_ok run_set, run_pure, Memo.answer, hf, Option.getD_none]

end Memo

/-- **Assignability asked of a memo** is assignability with the answers that the memo gives, and asking
changes none of them. -/
theorem Memo.says_isAssignable {s t : TypeForm} (hs : s.comparable = true)
    (ht : t.comparable = true) :
    Ask.Says st answer (Memo.isAssignable st s t) (assigns answer s t) := by
  induction s, t using TypeForm.induction_compared with
  | pass s t h =>
    rw [Memo.isAssignable, assigns, assignableVia_of_passes h, assignableVia_of_passes h]
    exact Ask.says_pure true
  | toUnion s t i u ts h htn ih =>
    rw [Memo.isAssignable, assigns, assignableVia_to_union h htn, assignableVia_to_union h htn]
    refine Ask.says_anyM ?_
    intro t' ht'
    exact ih t' ht' (TypeForm.comparable_normalize hs) (TypeForm.comparable_of_mem_normalize ht htn ht')
  | fromUnion s t i u ss h htu hsn ih =>
    rw [Memo.isAssignable, assigns, assignableVia_from_union h htu hsn,
      assignableVia_from_union h htu hsn]
    refine Ask.says_allM ?_
    intro s' hs'
    exact ih s' hs' (TypeForm.comparable_of_mem_normalize hs hsn hs') (TypeForm.comparable_normalize ht)
  | plain s t h htu hsu =>
    rw [Memo.isAssignable, assigns, assignableVia_plain h htu hsu, assignableVia_plain h htu hsu]
    split
    · exact Ask.says_pure false
    split
    · exact Ask.says_throw _
    split
    · exact Ask.says_pure true
    · exact Memo.says_derives
        (TypeForm.hashable_of_comparable (TypeForm.comparable_normalize hs))
        (TypeForm.hashable_of_comparable (TypeForm.comparable_normalize ht))
        (TypeForm.standsForUnion_of_comparable hs hsu) (TypeForm.standsForUnion_of_comparable ht htu)

end

/-! ## §4  Equal types are assignable together -/

/-- Answers about ancestry that may stand for those of a hierarchy: they respect equality where no
unions are involved, and put an annotation into the hierarchy of its equals. -/
structure Answers (answer : TypeForm → TypeForm → Bool) : Prop where
  congr : ∀ {a b p q : TypeForm}, a.equal b = true → p.equal q = true →
    a.standsForUnion = false → p.standsForUnion = false → answer a p = answer b q
  reflexive : ∀ {a b : TypeForm}, a.equal b = true → answer a b = true

theorem Memo.answers_answer (m : Memo) (st : Store) : Answers (m.answer st) :=
  ⟨answer_congr, answer_of_equal⟩

section
variable {answer : TypeForm → TypeForm → Bool}

theorem exists_of_anyM {α : Type} {q : α → Outcome Bool} {as : List α} (h : as.anyM q = .ok true) :
    ∃ a ∈ as, q a = .ok true := by
  induction as with
  | nil => cases h
  | cons a as ih =>
    rw [List.anyM_cons] at h
    rcases hq : q a with f | b
    · rw [hq] at h
      cases h
    · cases b with
      | true => exact ⟨a, by simp, hq⟩
      | false =>
        rw [hq] at h
        obtain ⟨a', ha', h'⟩ := ih h
        exact ⟨a', by simp [ha'], h'⟩

theorem anyM_of_exists {α : Type} {q : α → Outcome Bool} {as : List α}
    (hok : ∀ a ∈ as, ∃ b, q a = .ok b) (h : ∃ a ∈ as, q a = .ok true) : as.anyM q = .ok true := by
  induction as with
  | nil => simp at h
  | cons a as ih =>
    rw [List.anyM_cons]
    obtain ⟨b, hb⟩ := hok a (by simp)
    rw [hb]
    cases b with
    | true => rfl
    | false =>
      obtain ⟨a', ha', h'⟩ := h
      rcases List.mem_cons.mp ha' with rfl | ha'
      · rw [hb] at h'
        cases h'
      · exact ih (fun x hx => hok x (by simp [hx])) ⟨a', ha', h'⟩

theorem anyM_ok {α : Type} {q : α → Outcome Bool} {as : List α}
    (hok : ∀ a ∈ as, ∃ b, q a = .ok b) : ∃ b, as.anyM q = .ok b := by
  induction as with
  | nil => exact ⟨false, rfl⟩
  | cons a as ih =>
    rw [List.anyM_cons]
    obtain ⟨b, hb⟩ := hok a (by simp)
    rw [hb]
    cases b with
    | true => exact ⟨true, rfl⟩
    | false => exact ih fun x hx => hok x (by simp [hx])

theorem allM_eq_true_iff {α : Type} {q : α → Outcome Bool} {as : List α} :
    as.allM q = .ok true ↔ ∀ a ∈ as, q a = .ok true := by
  induction as with
  | nil => simp; rfl
  | cons a as ih =>
    rw [List.allM_cons]
    simp only [List.mem_cons, forall_eq_or_imp, ← ih]
    rcases q a with f | b
    · constructor
      · intro h
        cases h
      · rintro ⟨h, -⟩
        cases h
    · cases b with
      | false =>
        constructor
        · intro h
          cases h
        · rintro ⟨h, -⟩
          cases h
      | true => exact ⟨fun h => ⟨rfl, h⟩, fun h => h.2⟩

theorem allM_ok {α : Type} {q : α → Outcome Bool} {as : List α}
    (hok : ∀ a ∈ as, ∃ b, q a = .ok b) : ∃ b, as.allM q = .ok b := by
  induction as with
  | nil => exact ⟨true, rfl⟩
  | cons a as ih =>
    rw [List.allM_cons]
    obtain ⟨b, hb⟩ := hok a (by simp)
    rw [hb]
    cases b with
    | false => exact ⟨false, rfl⟩
    | true => exact ih fun x hx => hok x (by simp [hx])

/-- What is let through is assignable. -/
theorem assigns_of_passes {s t : TypeForm} (h : s.passes t) : assigns answer s t = .ok true := by
  rw [assigns, assignableVia_of_passes h]
  rfl

/-- What can be compared gets an answer. -/
theorem assigns_ok {s t : TypeForm} (hs : s.comparable = true) (ht : t.comparable = true) :
    ∃ b, assigns answer s t = .ok b := by
  induction s, t using TypeForm.induction_compared with
  | pass s t h => exact ⟨true, assigns_of_passes h⟩
  | toUnion s t i u ts h htn ih =>
    rw [assigns, assignableVia_to_union h htn]
    refine anyM_ok ?_
    intro t' ht'
    exact ih t' ht' (TypeForm.comparable_normalize hs) (TypeForm.comparable_of_mem_normalize ht htn ht')
  | fromUnion s t i u ss h htu hsn ih =>
    rw [assigns, assignableVia_from_union h htu hsn]
    refine allM_ok ?_
    intro s' hs'
    exact ih s' hs' (TypeForm.comparable_of_mem_normalize hs hsn hs') (TypeForm.comparable_normalize ht)
  | plain s t h htu hsu =>
    have hsh := TypeForm.hashable_of_comparable (TypeForm.comparable_normalize hs)
    have hth := TypeForm.hashable_of_comparable (TypeForm.comparable_normalize ht)
    rw [assigns, assignableVia_plain h htu hsu, hsh, hth]
    split
    · exact ⟨false, rfl⟩
    · simp only [Bool.and_self, Bool.not_true, Bool.false_eq_true, if_false]
      split
      · exact ⟨true, rfl⟩
      · exact ⟨_, rfl⟩

theorem TypeForm.passes_congr_right {s t t' : TypeForm} (htt : t.equal t' = true)
    (h : t.normalize.isAny = true) : s.passes t' :=
  .inr (.inl (by rwa [← isAny_congr (normalize_congr htt)]))

/-- Equal types that are no unions flow into one another, be they one object or not. -/
theorem assigns_of_normal_equal (ha : Answers answer) {s t : TypeForm} (hs : s.comparable = true)
    (ht : t.comparable = true) (h : s.normalize.equal t.normalize = true)
    (hu : t.normalize.isUnion = false) : assigns answer s t = .ok true := by
  by_cases hp : s.passes t
  · exact assigns_of_passes hp
  · have hsu : s.normalize.isUnion = false := by rwa [TypeForm.isUnion_congr h]
    have hobj : s.normalize ≠ .builtin .object := by
      intro hso
      rw [hso] at h
      refine hp (.inr (.inl ?_))
      rw [TypeForm.eq_cls_of_equal h]
      rfl
    rw [assigns, assignableVia_plain hp hu hsu, if_neg hobj,
      TypeForm.hashable_of_comparable (TypeForm.comparable_normalize hs),
      TypeForm.hashable_of_comparable (TypeForm.comparable_normalize ht), ha.reflexive h]
    simp only [Bool.and_self, Bool.not_true, Bool.false_eq_true, if_false, ite_self]
    rfl

/-- What is let through without a look is assignable in all spellings, though it may no longer be let
through: one object and an equal one are not the same object. -/
theorem assigns_of_passes_equal (ha : Answers answer) {s s' t t' : TypeForm} (hss : s.equal s' = true)
    (htt : t.equal t' = true) (hs : s.comparable = true) (ht : t.comparable = true)
    (hu : s.standsForUnion = false ∨ t.standsForUnion = false) (hp : s.passes t) :
    assigns answer s' t' = .ok true := by
  have hsn : s.normalize.equal s'.normalize = true := TypeForm.normalize_congr hss
  have htn : t.normalize.equal t'.normalize = true := TypeForm.normalize_congr htt
  rcases hp with heq | hany | hany
  · have hun : t'.normalize.isUnion = false := by
      rw [← TypeForm.isUnion_congr htn]
      rcases hu with hu | hu
      · rw [← heq]
        exact TypeForm.isUnion_normalize hu
      · exact TypeForm.isUnion_normalize hu
    rw [heq] at hsn
    exact assigns_of_normal_equal ha (TypeForm.comparable_of_equal hss hs)
      (TypeForm.comparable_of_equal htt ht) (TypeForm.equal_trans (TypeForm.equal_symm hsn) htn) hun
  · exact assigns_of_passes (TypeForm.passes_congr_right htt hany)
  · rw [hany] at hsn
    exact assigns_of_passes (.inr (.inr (TypeForm.eq_cls_of_equal hsn)))

/-- A type that flows into another flows into its equals, and so do its equals. -/
theorem assigns_of_equal (ha : Answers answer) {s s' t t' : TypeForm} (hss : s.equal s' = true)
    (htt : t.equal t' = true) (hs : s.comparable = true) (ht : t.comparable = true)
    (hu : s.standsForUnion = false ∨ t.standsForUnion = false)
    (h : assigns answer s t = .ok true) : assigns answer s' t' = .ok true := by
  -- the other pair may be let through where this one was not
  by_cases hp' : s'.passes t'
  · exact assigns_of_passes hp'
  induction s, t using TypeForm.induction_compared generalizing s' t' with
  | pass s t hp => exact assigns_of_passes_equal ha hss htt hs ht hu hp
  | toUnion s t i u ts hp htn ih =>
    obtain ⟨j, v, ts', htn', hforth, -⟩ := TypeForm.exists_union_of_equal htt htn
    have hsn : s.normalize.equal s'.normalize = true := TypeForm.normalize_congr hss
    have hsc : s.normalize.comparable = true := TypeForm.comparable_normalize hs
    have ht' : t'.comparable = true := TypeForm.comparable_of_equal htt ht
    have hsu : s.normalize.standsForUnion = false := by
      rw [TypeForm.standsForUnion_normalize]
      refine hu.resolve_right ?_
      intro htu
      exact TypeForm.normalize_ne_union htu _ _ _ htn
    rw [assigns, assignableVia_to_union hp htn] at h
    rw [assigns, assignableVia_to_union hp' htn']
    obtain ⟨t₁, ht₁, hflow⟩ := exists_of_anyM h
    obtain ⟨t₂, ht₂, heq⟩ := hforth t₁ ht₁
    refine anyM_of_exists ?_ ⟨t₂, ht₂, ?_⟩
    · intro t₃ ht₃
      exact assigns_ok (TypeForm.comparable_of_equal hsn hsc)
        (TypeForm.comparable_of_mem_normalize ht' htn' ht₃)
    · by_cases hp₂ : s'.normalize.passes t₂
      · exact assigns_of_passes hp₂
      · exact ih t₁ ht₁ hsn heq hsc (TypeForm.comparable_of_mem_normalize ht htn ht₁) (.inl hsu) hflow hp₂
  | fromUnion s t i u ss hp htu hsn ih =>
    obtain ⟨j, v, ss', hsn', -, hback⟩ := TypeForm.exists_union_of_equal hss hsn
    have htn : t.normalize.equal t'.normalize = true := TypeForm.normalize_congr htt
    have htu' : t'.normalize.isUnion = false := by rwa [← TypeForm.isUnion_congr htn]
    rw [assigns, assignableVia_from_union hp htu hsn, allM_eq_true_iff] at h
    rw [assigns, assignableVia_from_union hp' htu' hsn', allM_eq_true_iff]
    intro s₂ hs₂
    obtain ⟨s₁, hs₁, heq⟩ := hback s₂ hs₂
    by_cases hp₂ : s₂.passes t'.normalize
    · exact assigns_of_passes hp₂
    · exact ih s₁ hs₁ heq htn (TypeForm.comparable_of_mem_normalize hs hsn hs₁)
        (TypeForm.comparable_normalize ht) (.inr (TypeForm.standsForUnion_of_comparable ht htu))
        (h s₁ hs₁) hp₂
  | plain s t hp htu hsu =>
    have hsn : s.normalize.equal s'.normalize = true := TypeForm.normalize_congr hss
    have htn : t.normalize.equal t'.normalize = true := TypeForm.normalize_congr htt
    have hobj : s.normalize = .builtin .object ↔ s'.normalize = .builtin .object := by
      have hbeq := TypeForm.beq_cls_congr hsn (.builtin .object)
      rwa [Bool.eq_iff_iff, beq_iff_eq, beq_iff_eq] at hbeq
    rw [assigns, assignableVia_plain hp htu hsu] at h
    rw [assigns, assignableVia_plain hp' (by rwa [← TypeForm.isUnion_congr htn])
      (by rwa [← TypeForm.isUnion_congr hsn])]
    rwa [← TypeForm.hashable_congr hsn, ← TypeForm.hashable_congr htn,
      ← TypeForm.promotes_congr hsn htn, ← if_congr hobj rfl rfl,
      ← ha.congr hsn htn (TypeForm.standsForUnion_of_comparable hs hsu)
        (TypeForm.standsForUnion_of_comparable ht htu)]

/-- **Equal types are assignable together**, when a memo has the answers and at most one of the sides
stands for a union. -/
theorem assigns_congr (ha : Answers answer) {s s' t t' : TypeForm} (hss : s.equal s' = true)
    (htt : t.equal t' = true) (hs : s.comparable = true) (ht : t.comparable = true)
    (hu : s.standsForUnion = false ∨ t.standsForUnion = false) :
    assigns answer s t = assigns answer s' t' := by
  have hs' := TypeForm.comparable_of_equal hss hs
  have ht' := TypeForm.comparable_of_equal htt ht
  have hu' : s'.standsForUnion = false ∨ t'.standsForUnion = false := by
    rwa [← TypeForm.standsForUnion_congr hss, ← TypeForm.standsForUnion_congr htt]
  obtain ⟨b, hb⟩ : ∃ b, assigns answer s t = .ok b := assigns_ok hs ht
  obtain ⟨b', hb'⟩ : ∃ b, assigns answer s' t' = .ok b := assigns_ok hs' ht'
  have hforth := assigns_of_equal ha hss htt hs ht hu
  have hback := assigns_of_equal ha (TypeForm.equal_symm hss) (TypeForm.equal_symm htt) hs' ht' hu'
  rw [hb, hb'] at *
  cases b <;> cases b' <;> simp_all

end
end MemberAccess
