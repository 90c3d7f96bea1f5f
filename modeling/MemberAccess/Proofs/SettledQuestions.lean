import MemberAccess.Contract.Validation
import MemberAccess.Proofs.EqualAssignability

/-!
# Questions settled once asked

A memo only ever gains answers, and what it gains are answers to questions that it had none for.  So a
question that was asked has its answer from then on: asked again, of the same memo or of one that has
gained more, it is answered as before, and nothing new is kept (`Ask.Settles`).

Nothing is said about which answer that is.  Equal annotations share their answers, so it may depend on
which of them was asked about first.
-/

namespace MemberAccess

/-! ## §1  Memos that gain answers -/

/-- A memo has gained answers. -/
def Memo.Gains (m m' : Memo) : Prop :=
  ∀ t p b, m.find? t p = some b → m'.find? t p = some b

namespace Memo

variable {m m' m'' : Memo} {st : Store} {t p : TypeForm}

theorem Gains.refl (m : Memo) : m.Gains m := fun _ _ _ h => h

theorem Gains.trans (h : m.Gains m') (h' : m'.Gains m'') : m.Gains m'' :=
  fun t p b hb => h' t p b (h t p b hb)

theorem find?_insert (m : Memo) (st : Store) (t p a b : TypeForm) :
    (m.insert st t p).find? a b =
      if t.equal a && p.equal b then some (st.derivesBelow t p) else m.find? a b := by
  unfold find? insert
  rw [List.find?_cons]
  cases t.equal a && p.equal b <;> simp

/-- A new answer is kept beside all the others. -/
theorem gains_insert (h : m.find? t p = none) : m.Gains (m.insert st t p) := by
  intro a b r hr
  rw [find?_insert]
  split
  case isTrue hk =>
    rw [Bool.and_eq_true] at hk
    rw [find?_congr hk.1 hk.2, hr] at h
    cases h
  case isFalse => exact hr

theorem find?_insert_self : (m.insert st t p).find? t p = some (st.derivesBelow t p) := by
  rw [find?_insert, TypeForm.equal_refl, TypeForm.equal_refl]
  rfl

end Memo

/-! ## §2  Settled questions -/

/-- **A question is settled by asking it**: the memo gains answers, and from then on the question has the
same result and leaves the memo alone. -/
def Ask.Settles {α : Type} (q : Ask α) : Prop :=
  ∀ m r m', q.run.run m = (r, m') →
    m.Gains m' ∧ ∀ m'', m'.Gains m'' → q.run.run m'' = (r, m'')

namespace Ask

variable {α β : Type} {st : Store}

/-- A result that needs no memo is settled. -/
theorem settles_liftExcept (r : Outcome α) : Settles (liftExcept r : Ask α) := by
  intro m r' m' h
  rw [run_liftExcept] at h
  cases h
  exact ⟨.refl m, fun m'' _ => run_liftExcept r⟩

theorem settles_pure (a : α) : Settles (pure a : Ask α) := settles_liftExcept (.ok a)

theorem settles_throw (f : Failure) : Settles (throw f : Ask α) := settles_liftExcept (.error f)

theorem settles_bind {q : Ask α} {k : α → Ask β} (hq : Settles q) (hk : ∀ a, Settles (k a)) :
    Settles (q >>= k) := by
  intro m r m'' h
  rcases hrun : q.run.run m with ⟨f | a, m'⟩
  · rw [run_bind_error hrun] at h
    cases h
    obtain ⟨hgain, hagain⟩ := hq m _ _ hrun
    exact ⟨hgain, fun m₁ hm₁ => run_bind_error (hagain m₁ hm₁)⟩
  · rw [run_bind_ok hrun] at h
    obtain ⟨hgain, hagain⟩ := hq m _ _ hrun
    obtain ⟨hgain', hagain'⟩ := hk a m' _ _ h
    refine ⟨hgain.trans hgain', ?_⟩
    -- what has gained all that both questions left has gained what the first one left
    intro m₁ hm₁
    rw [run_bind_ok (hagain m₁ (hgain'.trans hm₁)), hagain' m₁ hm₁]

theorem settles_anyM {q : α → Ask Bool} {as : List α} (h : ∀ a ∈ as, Settles (q a)) :
    Settles (as.anyM q) := by
  induction as with
  | nil => exact settles_pure false
  | cons a as ih =>
    rw [List.anyM_cons]
    refine settles_bind (h a (by simp)) ?_
    intro b
    cases b with
    | true => exact settles_pure true
    | false => exact ih fun a' ha' => h a' (by simp [ha'])

theorem settles_allM {q : α → Ask Bool} {as : List α} (h : ∀ a ∈ as, Settles (q a)) :
    Settles (as.allM q) := by
  induction as with
  | nil => exact settles_pure true
  | cons a as ih =>
    rw [List.allM_cons]
    refine settles_bind (h a (by simp)) ?_
    intro b
    cases b with
    | false => exact settles_pure false
    | true => exact ih fun a' ha' => h a' (by simp [ha'])

/-- Ancestry is settled by asking about it. -/
theorem settles_derives (t p : TypeForm) : Settles (Memo.derives st t p) := by
  unfold Memo.derives
  split
  case isFalse => exact settles_throw _
  case isTrue =>
    intro m r m' h
    rw [run_bind_ok run_get] at h
    cases hf : m.find? t p with
    | some b =>
      rw [hf, run_pure] at h
      cases h
      refine ⟨.refl m, ?_⟩
      intro m'' hm''
      rw [run_bind_ok run_get, hm'' t p b hf, run_pure]
    | none =>
      rw [hf, run_bind_ok run_set, run_pure] at h
      cases h
      refine ⟨Memo.gains_insert hf, ?_⟩
      intro m'' hm''
      rw [run_bind_ok run_get, hm'' t p _ Memo.find?_insert_self, run_pure]

/-- **Assignability is settled by asking about it.** -/
theorem settles_isAssignable (s t : TypeForm) : Settles (Memo.isAssignable st s t) := by
  induction s, t using TypeForm.induction_compared with
  | pass s t h =>
    rw [Memo.isAssignable, assignableVia_of_passes h]
    exact settles_pure true
  | toUnion s t i u ts h htn ih =>
    rw [Memo.isAssignable, assignableVia_to_union h htn]
    exact settles_anyM ih
  | fromUnion s t i u ss h htu hsn ih =>
    rw [Memo.isAssignable, assignableVia_from_union h htu hsn]
    exact settles_allM ih
  | plain s t h htu hsu =>
    rw [Memo.isAssignable, assignableVia_plain h htu hsu]
    split
    · exact settles_pure false
    split
    · exact settles_throw _
    split
    · exact settles_pure true
    · exact settles_derives _ _

end Ask

/-! ## §3  The contract -/

namespace Contract

open Ask

variable {st : Store} {d : MemberDescriptor} {s : Shape}

theorem settles_checkReceiver : Settles (checkReceiver st d s) := by
  unfold checkReceiver
  cases s.receiver with
  | typed base =>
    refine settles_bind (settles_isAssignable _ _) ?_
    intro b
    cases b with
    | true => exact settles_pure ()
    | false => exact settles_throw _
  | none | checked => exact settles_pure ()

theorem settles_checkPinned : Settles (checkPinned st d s) := by
  unfold checkPinned
  cases s.result? with
  | none => exact settles_pure ()
  | some t =>
    have hfits {q : Ask Bool} (hq : Settles q) :
        Settles (q >>= fun fits => if fits then pure ()
          else throw (.pinnedMismatch (t.typeName st) d.kind.name (d.valueType.typeName st))) := by
      refine settles_bind hq ?_
      intro b
      cases b with
      | true => exact settles_pure ()
      | false => exact settles_throw _
    simp only
    split
    · exact hfits (settles_isAssignable _ _)
    · exact hfits (settles_isAssignable _ _)

/-- The checks before the last one. -/
def checkBeforeSide (st : Store) (d : MemberDescriptor) (s : Shape) : Ask Unit := do
  liftExcept (checkFamily st d s)
  liftExcept (checkArity st d s)
  liftExcept (checkValueKind st d s)
  liftExcept (checkStatic d s)
  checkReceiver st d s
  checkPinned st d s

theorem check_eq (st : Store) (d : MemberDescriptor) (s : Shape) :
    check st d s = checkBeforeSide st d s >>= fun _ => liftExcept (checkSide st d s) := by
  simp only [check, checkBeforeSide, bind_assoc]

/-- **Whether a member and a shape belong together is settled by asking**, up to the last check, which
asks nothing. -/
theorem settles_checkBeforeSide : Settles (checkBeforeSide st d s) :=
  settles_bind (settles_liftExcept _) fun _ =>
  settles_bind (settles_liftExcept _) fun _ =>
  settles_bind (settles_liftExcept _) fun _ =>
  settles_bind (settles_liftExcept _) fun _ =>
  settles_bind settles_checkReceiver fun _ => settles_checkPinned

end Contract
end MemberAccess
