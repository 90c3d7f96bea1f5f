import MemberAccess.Proofs.Building
import MemberAccess.Proofs.OrderedHierarchy

/-!
# Memos that tell the truth

A memo answers from what it keeps, so what it says is worth something only if what it keeps is true:
`Memo.Faithful`.  The empty memo is faithful, and no question makes a memo unfaithful, because what is put
into it was just found out, and is true of every equal question (`Memo.keeps_isAssignable`).  So when a
contract holds, its questions about the receiver and about the pinned type were asked with faithful memos,
and their answers can be relied on.
-/

namespace MemberAccess

/-! ## §1  Questions that keep a property of the memo -/

namespace Ask

/-- Asked with a memo of a property, the question leaves one of that property, whatever it comes to. -/
def Keeps {α : Type} (P : Memo → Prop) (q : Ask α) : Prop := ∀ m, P m → P (q.run.run m).2

section
variable {α β : Type} {P : Memo → Prop}

theorem keeps_pure (a : α) : Keeps P (pure a) := fun _ hm => hm

theorem keeps_throw (f : Failure) : Keeps P (throw f : Ask α) := fun _ hm => hm

theorem keeps_bind {q : Ask α} {k : α → Ask β} (hq : Keeps P q) (hk : ∀ a, Keeps P (k a)) :
    Keeps P (q >>= k) :=
  rel_run_bind (R := fun m m' => P m → P m') (fun h h' hm => h' (h hm)) hq hk

end

variable {α : Type} {P : Memo → Prop} {q : α → Ask Bool} {as : List α} {m m' : Memo}

theorem keeps_anyM (hq : ∀ a ∈ as, Keeps P (q a)) : Keeps P (as.anyM q) := by
  induction as with
  | nil => exact keeps_pure false
  | cons a as ih =>
    rw [List.anyM_cons]
    refine keeps_bind (hq a (by simp)) ?_
    intro b
    cases b with
    | true => exact keeps_pure true
    | false => exact ih fun a' ha' => hq a' (by simp [ha'])

theorem keeps_allM (hq : ∀ a ∈ as, Keeps P (q a)) : Keeps P (as.allM q) := by
  induction as with
  | nil => exact keeps_pure true
  | cons a as ih =>
    rw [List.allM_cons]
    refine keeps_bind (hq a (by simp)) ?_
    intro b
    cases b with
    | false => exact keeps_pure false
    | true => exact ih fun a' ha' => hq a' (by simp [ha'])

/-- When one of several questions was answered with yes, it was asked with a memo of the property. -/
theorem exists_of_run_anyM (hq : ∀ a ∈ as, Keeps P (q a)) (hm : P m)
    (h : (as.anyM q).run.run m = (.ok true, m')) :
    ∃ a ∈ as, ∃ m₁ m₂, P m₁ ∧ (q a).run.run m₁ = (.ok true, m₂) := by
  induction as generalizing m with
  | nil => cases h
  | cons a as ih =>
    rw [List.anyM_cons] at h
    obtain ⟨b, m₁, hrun, h⟩ := exists_of_run_bind h
    cases b with
    | true => exact ⟨a, by simp, m, m₁, hm, hrun⟩
    | false =>
      have hm₁ := hq a (by simp) m hm
      rw [hrun] at hm₁
      obtain ⟨a', ha', hasked⟩ := ih (fun a' ha' => hq a' (by simp [ha'])) hm₁ h
      exact ⟨a', by simp [ha'], hasked⟩

/-- When all of several questions were answered with yes, each was asked with a memo of the property. -/
theorem forall_of_run_allM (hq : ∀ a ∈ as, Keeps P (q a)) (hm : P m)
    (h : (as.allM q).run.run m = (.ok true, m')) :
    ∀ a ∈ as, ∃ m₁ m₂, P m₁ ∧ (q a).run.run m₁ = (.ok true, m₂) := by
  induction as generalizing m with
  | nil =>
    intro a ha
    cases ha
  | cons a as ih =>
    rw [List.allM_cons] at h
    obtain ⟨b, m₁, hrun, h⟩ := exists_of_run_bind h
    cases b with
    | false => cases h
    | true =>
      have hm₁ := hq a (by simp) m hm
      rw [hrun] at hm₁
      intro a' ha'
      rcases List.mem_cons.mp ha' with rfl | ha'
      · exact ⟨m, m₁, hm, hrun⟩
      · exact ih (fun a' ha' => hq a' (by simp [ha'])) hm₁ h a' ha'

end Ask

/-! ## §2  Faithful memos -/

namespace Memo

variable {st : Store} {m : Memo}

/-- What a memo says about ancestry is true. -/
def Faithful (m : Memo) (st : Store) : Prop :=
  ∀ t p : TypeForm, t.standsForUnion = false → p.standsForUnion = false →
    m.answer st t p = st.derivesBelow t p

theorem faithful_empty (st : Store) : empty.Faithful st := fun _ _ _ _ => rfl

/-- What is put into a faithful memo is true of every equal question. -/
theorem Faithful.insert (hm : m.Faithful st) (t p : TypeForm) : (m.insert st t p).Faithful st := by
  intro a b ha hb
  by_cases hk : (t.equal a && p.equal b) = true
  · have hkept : (m.insert st t p).answer st a b = st.derivesBelow t p := by
      simp [answer, find?, Memo.insert, hk]
    rw [Bool.and_eq_true] at hk
    rw [hkept]
    exact Store.derivesBelow_congr hk.1 hk.2 (by rw [TypeForm.standsForUnion_congr hk.1, ha])
      (by rw [TypeForm.standsForUnion_congr hk.2, hb])
  · have hkept : (m.insert st t p).answer st a b = m.answer st a b := by
      simp [answer, find?, Memo.insert, hk]
    rw [hkept]
    exact hm a b ha hb

theorem keeps_derives (st : Store) (t p : TypeForm) : Ask.Keeps (Faithful · st) (derives st t p) := by
  intro m hm
  unfold derives
  split
  · rw [run_bind_ok run_get]
    split
    · exact hm
    · rw [run_bind_ok run_set]
      exact hm.insert t p
  · exact hm

/-- What asking about ancestry keeps, asking about assignability keeps. -/
theorem keeps_isAssignable_of_derives {P : Memo → Prop}
    (hderives : ∀ t p, Ask.Keeps P (derives st t p)) (s t : TypeForm) :
    Ask.Keeps P (isAssignable st s t) := by
  induction s, t using TypeForm.induction_compared with
  | pass s t h =>
    rw [isAssignable, assignableVia_of_passes h]
    exact Ask.keeps_pure true
  | toUnion s t i u ts h htn ih =>
    rw [isAssignable, assignableVia_to_union h htn]
    exact Ask.keeps_anyM ih
  | fromUnion s t i u ss h htu hsn ih =>
    rw [isAssignable, assignableVia_from_union h htu hsn]
    exact Ask.keeps_allM ih
  | plain s t h htu hsu =>
    rw [isAssignable, assignableVia_plain h htu hsu]
    split
    · exact Ask.keeps_pure false
    split
    · exact Ask.keeps_throw _
    split
    · exact Ask.keeps_pure true
    · exact hderives _ _

/-- **Asking about assignability leaves a faithful memo faithful.** -/
theorem keeps_isAssignable (st : Store) (s t : TypeForm) :
    Ask.Keeps (Faithful · st) (isAssignable st s t) :=
  keeps_isAssignable_of_derives (keeps_derives st) s t

/-- Integers flow into floats, whatever is remembered. -/
theorem isAssignable_float (st : Store) :
    isAssignable st (.builtin .int) (.builtin .float) = pure true := by
  rw [isAssignable, assignableVia_plain (by decide) rfl rfl]
  rfl

end Memo

/-! ## §3  Contracts and sessions -/

namespace Contract

variable (st : Store) (d : MemberDescriptor) (s : Shape)

theorem keeps_checkReceiver : Ask.Keeps (Memo.Faithful · st) (checkReceiver st d s) := by
  unfold checkReceiver
  split
  · refine Ask.keeps_bind (Memo.keeps_isAssignable st _ _) ?_
    intro b
    split
    · exact Ask.keeps_pure ()
    · exact Ask.keeps_throw _
  · exact Ask.keeps_pure ()

variable {st d s} {m m' : Memo}

/-- The checks that a member and a shape passed, one by one; the two questions of assignability were asked
with the memos in between. -/
structure Passed (st : Store) (d : MemberDescriptor) (s : Shape) (m m₁ m' : Memo) : Prop where
  family : checkFamily st d s = .ok ()
  arity : checkArity st d s = .ok ()
  value : checkValueKind st d s = .ok ()
  static : checkStatic d s = .ok ()
  receiver : (checkReceiver st d s).run.run m = (.ok (), m₁)
  pinned : (checkPinned st d s).run.run m₁ = (.ok (), m')
  side : checkSide st d s = .ok ()

/-- What passes each check passes the contract. -/
theorem Passed.check {m₁ : Memo} (h : Passed st d s m m₁ m') :
    (Contract.check st d s).run.run m = (.ok (), m') := by
  unfold Contract.check
  rw [h.family, h.arity, h.value, h.static, h.side]
  exact (run_bind_ok h.receiver).trans (run_bind_ok h.pinned)

/-- What passes the contract has passed each check. -/
theorem passed_of_check (h : (check st d s).run.run m = (.ok (), m')) : ∃ m₁, Passed st d s m m₁ m' := by
  -- the checks around the two questions touch no memo
  have hlift {r : Outcome Unit} {q : Ask Unit} {m₁ m₂ : Memo}
      (h : (liftExcept r >>= fun _ => q : Ask Unit).run.run m₁ = (.ok (), m₂)) :
      r = .ok () ∧ q.run.run m₁ = (.ok (), m₂) := by
    obtain ⟨_, m₃, hr, h⟩ := exists_of_run_bind h
    rw [run_liftExcept] at hr
    cases hr
    exact ⟨rfl, h⟩
  obtain ⟨hfamily, h⟩ := hlift h
  obtain ⟨harity, h⟩ := hlift h
  obtain ⟨hvalue, h⟩ := hlift h
  obtain ⟨hstatic, h⟩ := hlift h
  obtain ⟨_, m₁, hreceiver, h⟩ := exists_of_run_bind h
  obtain ⟨_, m₂, hpinned, h⟩ := exists_of_run_bind h
  rw [run_liftExcept] at h
  obtain rfl : m₂ = m' := congrArg Prod.snd h
  exact ⟨m₁, hfamily, harity, hvalue, hstatic, hreceiver, hpinned, congrArg Prod.fst h⟩

/-- The type of a typed receiver was found to be assignable to the declaring type. -/
theorem exists_accepted_receiver {base : TypeForm} (hm : m.Faithful st) (hs : s.receiver = .typed base)
    (h : (check st d s).run.run m = (.ok (), m')) :
    ∃ m₁ m₂, m₁.Faithful st ∧ (Memo.isAssignable st base d.declaring).run.run m₁ = (.ok true, m₂) := by
  obtain ⟨m₁, hpassed⟩ := passed_of_check h
  have hasked := hpassed.receiver
  unfold checkReceiver at hasked
  rw [hs] at hasked
  obtain ⟨b, m₂, hassignable, hasked⟩ := exists_of_run_bind hasked
  cases b with
  | true => exact ⟨m, m₂, hm, hassignable⟩
  | false => cases hasked

/-- The type that is pinned was found to be assignable to the member's, or that one to it. -/
theorem exists_accepted_pinned {t : TypeForm} (hm : m.Faithful st) (hs : s.result? = some t)
    (h : (check st d s).run.run m = (.ok (), m')) :
    ∃ m₁ m₂, m₁.Faithful st ∧
      (if s.family = .set then Memo.isAssignable st t d.valueType
        else Memo.isAssignable st d.valueType t).run.run m₁ = (.ok true, m₂) := by
  obtain ⟨m₁, hpassed⟩ := passed_of_check h
  have hm₁ := keeps_checkReceiver st d s m hm
  rw [hpassed.receiver] at hm₁
  have hasked := hpassed.pinned
  unfold checkPinned at hasked
  rw [hs] at hasked
  simp only at hasked
  have hdecided {q : Ask Bool} {f : Failure}
      (h : (q >>= fun fits => if fits then pure () else throw f).run.run m₁ = (.ok (), m')) :
      ∃ m₃, q.run.run m₁ = (.ok true, m₃) := by
    obtain ⟨b, m₃, hq, h⟩ := exists_of_run_bind h
    cases b with
    | true => exact ⟨m₃, hq⟩
    | false => cases h
  by_cases hset : s.family = .set
  · rw [if_pos hset] at hasked
    obtain ⟨m₃, hassignable⟩ := hdecided hasked
    refine ⟨m₁, m₃, hm₁, ?_⟩
    rw [if_pos hset]
    exact hassignable
  · rw [if_neg hset] at hasked
    obtain ⟨m₃, hassignable⟩ := hdecided hasked
    refine ⟨m₁, m₃, hm₁, ?_⟩
    rw [if_neg hset]
    exact hassignable

end Contract

/-- The grounds on which a session decides are right: its hierarchy is ordered and its memo faithful. -/
structure Session.Sound (σ : Session) : Prop where
  ordered : σ.store.Ordered
  faithful : σ.memo.Faithful σ.store

/-- A session over an ordered hierarchy starts on right grounds. -/
theorem Session.sound_start {st : Store} (h : st.Ordered) : (Session.start st).Sound :=
  ⟨h, Memo.faithful_empty st⟩

end MemberAccess
