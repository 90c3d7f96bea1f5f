import MemberAccess.Member.Hints
import MemberAccess.Proofs.Runs
import Mathlib.Data.List.Forall2

/-!
# What is known of annotations

The annotations of a function or of a class are known either all looked up or all as they were written,
and whoever asks for one of them by its name cannot tell which.  Both ways they are known under the names
under which they were written.
-/

namespace MemberAccess.Hints

open MemberAccess.Action

variable {run : Runner} {st st' : Store} {f : Function} {hints raw : List (String × TypeForm)}

/-! ## §1  Passes over lists -/

/-- What a pass over a list gives was given for the items in their places. -/
theorem forall₂_of_perform_mapM {α β : Type} {g : α → Action β} {l : List α} {ys : List β}
    (h : (l.mapM g).perform run st = (.ok ys, st')) :
    List.Forall₂ (fun x y => ∃ st₁ st₂, (g x).perform run st₁ = (.ok y, st₂)) l ys := by
  induction l generalizing st ys with
  | nil =>
    cases h
    exact .nil
  | cons x l ih =>
    rw [List.mapM_cons] at h
    obtain ⟨y, st₁, hx, h⟩ := exists_of_perform_bind h
    obtain ⟨ys, st₂, hl, h⟩ := exists_of_perform_bind h
    cases h
    exact .cons ⟨st, st₁, hx⟩ (ih hl)

/-- Named items keep their names where each of them does. -/
theorem map_fst_of_perform_mapM {α β : Type} {g : String × α → Action (String × β)}
    {l : List (String × α)} {ys : List (String × β)}
    (hg : ∀ x y st₁ st₂, (g x).perform run st₁ = (.ok y, st₂) → y.1 = x.1)
    (h : (l.mapM g).perform run st = (.ok ys, st')) : ys.map (·.1) = l.map (·.1) := by
  have hall := forall₂_of_perform_mapM h
  clear h
  induction hall with
  | nil => rfl
  | cons hxy _ ih =>
    obtain ⟨st₁, st₂, hxy⟩ := hxy
    rw [List.map_cons, List.map_cons, ih, hg _ _ _ _ hxy]

/-- Dropping notes keeps the names. -/
theorem map_fst_of_stripNamed {ts : List (String × TypeForm)}
    (h : (stripNamed ts).perform run st = (.ok hints, st')) : hints.map (·.1) = ts.map (·.1) := by
  refine map_fst_of_perform_mapM ?_ h
  rintro x y st₁ st₂ hxy
  obtain ⟨u, st₃, -, hy⟩ := exists_of_perform_bind hxy
  cases hy
  rfl

/-- Where no two items share a name, an item is what its name leads to. -/
theorem lookup_of_mem {α : Type} {l : List (String × α)} {n : String} {a : α}
    (hnames : (l.map (·.1)).Nodup) (h : (n, a) ∈ l) : l.lookup n = some a := by
  obtain ⟨before, after, rfl⟩ := List.append_of_mem h
  refine List.lookup_eq_some_iff.mpr ⟨before, after, rfl, fun e he => ?_⟩
  rw [List.map_append, List.map_cons, List.nodup_append] at hnames
  exact bne_iff_ne.mpr (hnames.2.2 _ (List.mem_map_of_mem he) _ List.mem_cons_self).symm

/-! ## §2  Looked up or as written -/

/-- What is known is what was looked up, or what was written where that failed in a way that is forgiven. -/
theorem orWritten_ok {x : Action (List (String × TypeForm))}
    (h : (orWritten raw x).perform run st = (.ok hints, st')) :
    x.perform run st = (.ok hints, st') ∨
      ∃ failure, x.perform run st = (.error failure, st') ∧ isForgiven failure = true ∧ hints = raw := by
  unfold orWritten at h
  rw [perform_tryCatch] at h
  rcases hx : x.perform run st with ⟨failure | found, st₁⟩
  · rw [hx] at h
    dsimp only at h
    cases hforgiven : isForgiven failure with
    | false =>
      rw [hforgiven] at h
      cases h
    | true =>
      rw [hforgiven] at h
      cases h
      exact .inr ⟨failure, rfl, hforgiven, rfl⟩
  · rw [hx] at h
    cases h
    exact .inl rfl

/-- **The annotations of a function are known under the names under which they were written**, whether they
can be looked up or not. -/
theorem map_fst_known (h : (known f).perform run st = (.ok hints, st')) :
    hints.map (·.1) = (written f).map (·.1) := by
  rcases orWritten_ok h with hlooked | ⟨failure, -, -, rfl⟩
  · obtain ⟨ts, st₁, hts, hstrip⟩ := exists_of_perform_bind hlooked
    rw [map_fst_of_stripNamed hstrip]
    refine map_fst_of_perform_mapM ?_ hts
    rintro x y st₂ st₃ hxy
    obtain ⟨u, st₄, -, hy⟩ := exists_of_perform_bind hxy
    cases hy
    rfl
  · rfl

end MemberAccess.Hints
