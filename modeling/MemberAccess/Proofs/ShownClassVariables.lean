import MemberAccess.Member.Resolve
import MemberAccess.Proofs.DeclaredWorlds
import MemberAccess.Proofs.EqualAnnotations

/-!
# Annotations that show a class variable

An annotation shows a class variable when one is left of it once its notes are dropped, or stands among
its alternatives.  Forming a union shows none that no operand shows, although the union may be one that was
kept for other operands, as those are equal ones.
-/

namespace MemberAccess

open MemberAccess.Action

namespace TypeForm

/-! ## §1  Notes and alternatives -/

/-- An annotation that shows a class variable once its notes are dropped: it is one, or a text that is read
as one, or has one under its notes or among its alternatives. -/
inductive ShowsClassVar : TypeForm → Prop
  | classVar {m : Mark} {i : TypeForm} : ShowsClassVar (.classVar m i)
  | text {s : String} : Member.isStaticField (.text s) = true → ShowsClassVar (.text s)
  | annotated {m : Mark} {i : TypeForm} {ns : List String} :
      ShowsClassVar i → ShowsClassVar (.annotated m i ns)
  | union {m : Mark} {w : UnionSpelling} {ts : List TypeForm} {t : TypeForm} :
      t ∈ ts → ShowsClassVar t → ShowsClassVar (.union m w ts)

variable {t u a b : TypeForm} {ts us : List TypeForm} {run : Runner} {st st' : Store}

theorem showsClassVar_of_isStaticField (h : Member.isStaticField t = true) : t.ShowsClassVar := by
  cases t <;> first | exact .classVar | exact .text h | cases h

theorem ShowsClassVar.of_equal (h : a.ShowsClassVar) (hequal : a.equal b = true) : b.ShowsClassVar := by
  induction h generalizing b with
  | classVar =>
    cases equals_of_equal hequal
    exact .classVar
  | text hs =>
    cases equals_of_equal hequal
    exact .text hs
  | annotated _ ih =>
    cases equals_of_equal hequal with
    | annotated hi => exact .annotated (ih hi)
  | union ht _ ih =>
    cases equals_of_equal hequal with
    | union hxs _ =>
      obtain ⟨y, hy, hequal⟩ := hxs _ ht
      exact .union hy (ih hequal)

/-! ## §2  Operands -/

/-- Checking an operand only puts a class for the absent value and a name for a text. -/
theorem convertOperand_of_checkOperand {place : Place} (h : checkOperand place t = .ok u) :
    convertOperand t = .ok u := by
  unfold checkOperand at h
  cases hv : convertOperand t with
  | error f =>
    rw [hv] at h
    cases h
  | ok v =>
    rw [hv] at h
    dsimp only [bind, Except.bind, pure, Except.pure] at h
    grind

/-- An operand that shows a class variable once it is checked did so before. -/
theorem ShowsClassVar.of_checkOperand {place : Place} (h : u.ShowsClassVar)
    (ht : checkOperand place t = .ok u) : t.ShowsClassVar := by
  have ht := convertOperand_of_checkOperand ht
  unfold convertOperand forwardOf at ht
  split at ht
  case h_1 =>
    cases ht
    cases h
  case h_2 =>
    split at ht
    · cases ht
      cases h
    · cases ht
  case h_3 =>
    cases ht
    exact h

theorem forall₂_of_checkOperands {place : Place} (h : checkOperands place ts = .ok us) :
    List.Forall₂ (fun t u => checkOperand place t = .ok u) ts us := by
  induction ts generalizing us with
  | nil =>
    cases h
    exact .nil
  | cons t ts ih =>
    unfold checkOperands at h
    cases ht : checkOperand place t with
    | error f =>
      rw [ht] at h
      cases h
    | ok u =>
      cases hts : checkOperands place ts with
      | error f =>
        rw [ht, hts] at h
        cases h
      | ok us' =>
        rw [ht, hts] at h
        cases h
        exact .cons ht (ih hts)

/-- What shows a class variable among the members of checked operands did so in an operand. -/
theorem exists_showsClassVar_of_checkOperands (h : checkOperands .operand ts = .ok us)
    (ht : t ∈ flatten us) (hshows : t.ShowsClassVar) : ∃ u ∈ ts, u.ShowsClassVar := by
  obtain ⟨u, hu, ht⟩ := List.mem_flatMap.mp ht
  have hu' : u.ShowsClassVar := by
    cases u with
    | union m w vs => exact .union ht hshows
    | _ =>
      obtain rfl := List.mem_singleton.mp ht
      exact hshows
  obtain ⟨v, hv, hvu⟩ := exists_of_forall₂ (forall₂_of_checkOperands h) hu
  exact ⟨v, hv, hu'.of_checkOperand hvu⟩

theorem exists_showsClassVar_of_gives (h : Former.union.Gives ts t) (hshows : t.ShowsClassVar) :
    ∃ u ∈ ts, u.ShowsClassVar := by
  obtain ⟨us, hus, ht | ⟨m, vs, rfl, hvs⟩⟩ := h
  · exact exists_showsClassVar_of_checkOperands hus ht hshows
  · cases hshows with
    | union hmem hshows => exact exists_showsClassVar_of_checkOperands hus (hvs _ hmem) hshows

/-! ## §3  Unions -/

/-- What is given for operands was made for them, or was made for equal ones before. -/
theorem exists_of_shared {former : Former} {make : Action TypeForm}
    (h : (shared former ts make).perform run st = (.ok t, st')) :
    (∃ st₁ st₂, make.perform run st₁ = (.ok t, st₂)) ∨
      ∃ us, (former, us, t) ∈ st.shared ∧ equalList us ts = true := by
  unfold shared at h
  split at h
  · exact .inl ⟨_, _, h⟩
  rw [perform_bind_get] at h
  split at h
  case h_1 us t' hfind =>
    cases h
    have hkey := List.find?_some hfind
    rw [Bool.and_eq_true, beq_iff_eq] at hkey
    obtain ⟨rfl, hequal⟩ := hkey
    exact .inr ⟨us, List.mem_of_find?_eq_some hfind, hequal⟩
  case h_2 =>
    obtain ⟨t', st₁, hmake, h⟩ := exists_of_perform_bind h
    obtain ⟨_, st₂, -, h⟩ := exists_of_perform_bind h
    cases h
    exact .inl ⟨_, _, hmake⟩

/-- A union that shows a class variable has an operand that did. -/
theorem exists_showsClassVar_of_unionOf (hst : st.WellDeclared)
    (h : (unionOf ts).perform run st = (.ok t, st')) (hshows : t.ShowsClassVar) :
    ∃ u ∈ ts, u.ShowsClassVar := by
  rcases exists_of_shared h with ⟨st₁, st₂, hmake⟩ | ⟨us, hmem, hequal⟩
  · exact exists_showsClassVar_of_gives (union_gives hmake) hshows
  · obtain ⟨u, hu, hshows⟩ := exists_showsClassVar_of_gives (hst.shares hmem) hshows
    obtain ⟨v, hv, huv⟩ := exists_of_forall₂ (equalList_iff.mp hequal).flip hu
    exact ⟨v, hv, hshows.of_equal huv⟩

/-- What stands in a union of plain alternatives shows a class variable only if one of them does. -/
theorem exists_showsClassVar_of_plainMembers (h : t ∈ plainMembers ts) (hshows : t.ShowsClassVar) :
    ∃ u ∈ ts, u.ShowsClassVar := by
  obtain ⟨u, hu, ht⟩ := List.mem_flatMap.mp ((mem_of_mem_kept h).resolve_left List.not_mem_nil)
  refine ⟨u, hu, ?_⟩
  split at ht
  case h_1 => exact .union ht hshows
  case h_2 =>
    obtain rfl := List.mem_singleton.mp ht
    cases hshows
  case h_3 =>
    obtain rfl := List.mem_singleton.mp ht
    exact hshows

theorem exists_showsClassVar_of_barOf (hst : st.WellDeclared)
    (h : (barOf a b).perform run st = (.ok t, st')) (hshows : t.ShowsClassVar) :
    ∃ u ∈ [a, b], u.ShowsClassVar := by
  unfold barOf at h
  split at h
  · extract_lets rest at h
    have hrest (x : PUnit) (h : (rest x).perform run st = (.ok t, st')) :
        ∃ u ∈ [a, b], u.ShowsClassVar := by
      unfold rest at h
      split at h
      case h_1 t' hts =>
        cases h
        refine exists_showsClassVar_of_plainMembers ?_ hshows
        rw [hts]
        exact List.mem_singleton_self _
      case h_2 =>
        obtain ⟨m, st₁, -, h⟩ := exists_of_perform_bind h
        cases h
        cases hshows with
        | union hmem hshows => exact exists_showsClassVar_of_plainMembers hmem hshows
    split at h
    · obtain ⟨x, st₁, h₁, -⟩ := exists_of_perform_bind h
      cases h₁
    · exact hrest () h
  · split at h
    · exact exists_showsClassVar_of_unionOf hst h hshows
    · cases h

section
variable {I : Store → Prop} (hI : run.Upholds I) (hshare : ∀ {st}, I st → st.WellDeclared)
include hI hshare

theorem exists_showsClassVar_of_barsOf (hst : I st) (h : (barsOf ts).perform run st = (.ok t, st'))
    (hshows : t.ShowsClassVar) : ∃ u ∈ ts, u.ShowsClassVar := by
  cases ts with
  | nil => cases h
  | cons a ts =>
    change (ts.foldlM barOf a).perform run st = _ at h
    induction ts generalizing a st with
    | nil =>
      cases h
      exact ⟨_, List.mem_cons_self, hshows⟩
    | cons b ts ih =>
      rw [List.foldlM_cons] at h
      obtain ⟨c, st₁, hc, h⟩ := exists_of_perform_bind h
      obtain ⟨u, hu, hu'⟩ := ih ((keeps_barOf hI).of_perform hst hc) c h
      rcases List.mem_cons.mp hu with rfl | hu
      · obtain ⟨v, hv, hv'⟩ := exists_showsClassVar_of_barOf (hshare hst) hc hu'
        exact ⟨v, List.mem_append_left ts hv, hv'⟩
      · exact ⟨u, List.mem_cons_of_mem _ (List.mem_cons_of_mem _ hu), hu'⟩

end

end TypeForm

end MemberAccess
