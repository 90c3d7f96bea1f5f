import Mathlib.Logic.Relation
import MemberAccess.Declaration.Declare
import MemberAccess.Proofs.AnsweredQuestions

/-!
# Ancestors of applied classes

A generic class is declared over other classes, applied to its own parameters in any way: renamed, reordered,
fixed or left out.  Where a class is applied to arguments these replace the parameters in its bases, and in
theirs, and so on; what is reached in this way are the ancestors (`Store.HasAncestor`).

For a class, ancestry finds only ancestors: it looks for the applied class among the bases as they were
written, and closed bases are the same wherever they are reached from.  An applied class is compared with
another place by place, though, whatever becomes of its arguments on the way.  That is right where a class
hands its parameters on as they are (`Store.HandsOn`), and then ancestry finds only ancestors here, too
(`Memo.found_ancestors_are_ancestors`).  Where parameters are swapped on the way it finds what is none
(`Swaps.swapped_pair_is_found`).
-/

namespace MemberAccess

open Declaration

/-! ## §1  Arguments for parameters -/

namespace TypeForm

mutual
/-- An annotation with its variables replaced. -/
def substitute (σ : String → TypeForm) : TypeForm → TypeForm
  | .variable n | .bounded n _ | .choice n _ => σ n
  | .union i w ts => .union i w (substituteAll σ ts)
  | .alias i w o ts => .alias i w o (substituteAll σ ts)
  | .callable i ps r => .callable i (substituteAll σ ps) (substitute σ r)
  | .annotated i t ns => .annotated i (substitute σ t) ns
  | .classVar i t => .classVar i (substitute σ t)
  | .final i t => .final i (substitute σ t)
  | t => t

/-- Several annotations with their variables replaced. -/
def substituteAll (σ : String → TypeForm) : List TypeForm → List TypeForm
  | [] => []
  | t :: ts => substitute σ t :: substituteAll σ ts
end

variable {σ τ : String → TypeForm} {s t u : TypeForm} {ts : List TypeForm}

theorem substituteAll_eq_map : substituteAll σ ts = ts.map (substitute σ) := by
  induction ts with
  | nil => rw [substituteAll, List.map_nil]
  | cons t ts ih => rw [substituteAll, ih, List.map_cons]

theorem variableNamesOf_eq_nil_iff : variableNamesOf ts = [] ↔ ∀ t ∈ ts, variableNames t = [] := by
  induction ts with
  | nil => simp [variableNamesOf]
  | cons t ts ih => simp [variableNamesOf, ih]

/-- Nothing is replaced in what has no variables. -/
theorem substitute_of_closed (h : variableNames t = []) : t.substitute σ = t := by
  induction t using induction_parts with
  | _ t ih =>
    have hall {ts : List TypeForm} (hts : variableNamesOf ts = []) (hsub : ∀ u ∈ ts, u ∈ t.parts) :
        substituteAll σ ts = ts := by
      rw [substituteAll_eq_map, List.map_congr_left (g := id)]
      · exact List.map_id ts
      · exact fun u hu => ih u (hsub u hu) (variableNamesOf_eq_nil_iff.mp hts u hu)
    cases t with
    | union i w ts | «alias» i w o ts =>
      rw [variableNames] at h
      rw [substitute, hall h fun u hu => hu]
    | callable i ps r =>
      rw [variableNames, List.append_eq_nil_iff] at h
      rw [substitute, hall h.1 fun u hu => List.mem_cons_of_mem r hu, ih r (List.mem_cons_self ..) h.2]
    | annotated i t ns | classVar i t | final i t =>
      rw [variableNames] at h
      rw [substitute, ih t (List.mem_cons_self ..) h]
    | «variable» | bounded | choice => simp [variableNames] at h
    | _ => rw [substitute] <;> nofun

/-- Replacing twice is replacing once by what was replaced again. -/
theorem substitute_substitute :
    (t.substitute σ).substitute τ = t.substitute fun n => (σ n).substitute τ := by
  induction t using induction_parts with
  | _ t ih =>
    have hall (us : List TypeForm) (hsub : ∀ u ∈ us, u ∈ t.parts) :
        substituteAll τ (substituteAll σ us) = substituteAll (fun n => (σ n).substitute τ) us := by
      simp only [substituteAll_eq_map, List.map_map]
      exact List.map_congr_left fun u hu => ih u (hsub u hu)
    cases t with
    | union i w ts | «alias» i w o ts =>
      simp only [substitute]
      rw [hall ts fun u hu => hu]
    | callable i ps r =>
      simp only [substitute]
      rw [hall ps fun u hu => List.mem_cons_of_mem r hu, ih r (List.mem_cons_self ..)]
    | annotated i t ns | classVar i t | final i t =>
      simp only [substitute]
      rw [ih t (List.mem_cons_self ..)]
    | «variable» | bounded | choice => simp only [substitute]
    | _ => simp only [substitute]

/-- What is equal to something without variables has none. -/
theorem closed_of_equal (h : s.equal t = true) (hs : variableNames s = []) : variableNames t = [] := by
  refine of_equal (P := fun t => variableNames t = [])
    (Q := fun t => ∀ n a, t ≠ .variable n ∧ t ≠ .bounded n a ∧ t ≠ .choice n a) ?_ ?_ h hs
  · intro t
    cases t <;> simp [variableNames, variableNamesOf_eq_nil_iff, parts, and_comm]
  · intro a b hab hown n r
    refine ⟨?_, ?_, ?_⟩ <;> rintro rfl <;> cases hab <;> simp at hown

/-- The class that a class or an applied class is about. -/
def head? : TypeForm → Option ClassRef
  | .cls c => some c
  | .alias _ _ o _ => some o
  | _ => Option.none

theorem head?_substitute {c : ClassRef} (h : t.head? = some c) : (t.substitute σ).head? = some c := by
  cases t <;> first | exact h | cases h

end TypeForm

/-! ## §2  Ancestors -/

/-- The bases of a class as they were written. -/
def ClassInfo.writtenBases (info : ClassInfo) : List TypeForm :=
  if info.genericBases.isEmpty then info.bases.map .cls else info.genericBases

theorem ClassInfo.mem_writtenBases {info : ClassInfo} {b : TypeForm} (h : b ∈ info.genericBases) :
    b ∈ info.writtenBases := by
  rw [writtenBases, if_neg]
  · exact h
  · rw [List.isEmpty_iff]
    exact List.ne_nil_of_mem h

/-- Whether every declared base of a class stands among the written ones, applied or not. -/
def ClassInfo.writesBases (info : ClassInfo) : Bool :=
  info.bases.all fun
    | .builtin _ => true
    | .user j => info.writtenBases.any fun t => t.head? == some (.user j)

theorem ClassInfo.exists_written {info : ClassInfo} {j : Nat} (h : info.writesBases = true)
    (hj : .user j ∈ info.bases) : ∃ t ∈ info.writtenBases, t.head? = some (.user j) := by
  rw [writesBases, List.all_eq_true] at h
  simpa only [List.any_eq_true, beq_iff_eq] using h _ hj

namespace Store

/-- What a parameter of a class stands for where the class is applied: an argument, or anything where there
is none. -/
def argumentFor (st : Store) (i : Nat) (ts : List TypeForm) (name : String) : TypeForm :=
  (((st.classInfo i).parameters.zip ts).lookup name).getD (.builtin .any)

/-- The bases of a class or an applied class. -/
def basesOf (st : Store) : TypeForm → List TypeForm
  | .cls (.user i) => (st.classInfo i).writtenBases.map (TypeForm.substitute (st.argumentFor i []))
  | .alias _ _ (.user i) ts => (st.classInfo i).writtenBases.map (TypeForm.substitute (st.argumentFor i ts))
  | _ => []

/-- **What is reached by following the bases**, with the arguments in the place of the parameters. -/
def HasAncestor (st : Store) : TypeForm → TypeForm → Prop :=
  Relation.ReflTransGen fun t u => u ∈ st.basesOf t

/-- Two arguments at one place of an applied class: they are equal, or the second lets everything through. -/
def Meets (a b : TypeForm) : Prop := a.equal b = true ∨ b.normalize.isAny = true

/-- Some ancestor applies the class to the arguments. -/
def HasApplied (st : Store) (t : TypeForm) (g : ClassRef) (bs : List TypeForm) : Prop :=
  ∃ i w as, st.HasAncestor t (.alias i w g as) ∧ List.Forall₂ Meets as bs

/-- A class hands its parameters on: applied to its own parameters it has the other class, applied to the
same, among its ancestors. -/
def HandsOn (st : Store) (k : Nat) (g : ClassRef) : Prop :=
  ∀ i w, ∃ j v, st.HasAncestor (.alias i w (.user k) ((st.classInfo k).parameters.map .variable))
    (.alias j v g ((st.classInfo k).parameters.map .variable))

variable {st : Store} {t u : TypeForm} {σ : String → TypeForm} {as : List TypeForm} {i k : Nat}

theorem handsOn_self : st.HandsOn k (.user k) := fun i w => ⟨i, w, .refl⟩

/-- What is left of a parameter after replacing is the replaced argument. -/
theorem substitute_argumentFor {n : String} :
    (st.argumentFor i as n).substitute σ = st.argumentFor i (TypeForm.substituteAll σ as) n := by
  rw [argumentFor, argumentFor, TypeForm.substituteAll_eq_map]
  induction (st.classInfo i).parameters generalizing as with
  | nil => rfl
  | cons p ps ih =>
    cases as with
    | nil => rfl
    | cons a as =>
      simp only [List.map_cons, List.zip_cons_cons, List.lookup_cons]
      cases n == p with
      | true => rfl
      | false => exact ih

/-- The bases of what arguments were replaced in are the bases with the arguments replaced. -/
theorem substitute_mem_basesOf (h : u ∈ st.basesOf t) : u.substitute σ ∈ st.basesOf (t.substitute σ) := by
  have hstep {k : Nat} {ts : List TypeForm}
      (hu : u ∈ (st.classInfo k).writtenBases.map (TypeForm.substitute (st.argumentFor k ts))) :
      u.substitute σ ∈ (st.classInfo k).writtenBases.map
        (TypeForm.substitute (st.argumentFor k (TypeForm.substituteAll σ ts))) := by
    obtain ⟨b, hb, rfl⟩ := List.mem_map.mp hu
    rw [TypeForm.substitute_substitute]
    simp only [substitute_argumentFor]
    exact List.mem_map_of_mem hb
  cases t with
  | cls c =>
    cases c with
    | builtin b => cases h
    | user k => exact hstep h
  | «alias» i w o ts =>
    cases o with
    | builtin b => cases h
    | user k => exact hstep h
  | _ => cases h

/-- Ancestors are found in any list that has the bases of what it has. -/
theorem HasAncestor.mem (h : st.HasAncestor t u) (ts : List TypeForm) (ht : t ∈ ts)
    (hbases : ∀ a ∈ ts, ∀ b ∈ st.basesOf a, b ∈ ts) : u ∈ ts := by
  induction h with
  | refl => exact ht
  | tail _ hstep ih => exact hbases _ ih _ hstep

theorem HasAncestor.substitute (h : st.HasAncestor t u) :
    st.HasAncestor (t.substitute σ) (u.substitute σ) :=
  Relation.ReflTransGen.lift (TypeForm.substitute σ) (fun _ _ => substitute_mem_basesOf) _ _ h

/-- The parameters of a class stand for the arguments, one for one. -/
theorem map_argumentFor (hdistinct : (st.classInfo k).parameters.Nodup)
    (hlength : as.length = (st.classInfo k).parameters.length) :
    (st.classInfo k).parameters.map (st.argumentFor k as) = as := by
  unfold argumentFor
  generalize (st.classInfo k).parameters = names at hdistinct hlength ⊢
  induction names generalizing as with
  | nil => exact (List.length_eq_zero_iff.mp hlength).symm
  | cons p ps ih =>
    cases as with
    | nil => cases hlength
    | cons a as =>
      obtain ⟨hp, hps⟩ := List.nodup_cons.mp hdistinct
      have hrest : ∀ q ∈ ps, (((p :: ps).zip (a :: as)).lookup q).getD (.builtin .any) =
          ((ps.zip as).lookup q).getD (.builtin .any) := by
        intro q hq
        have hne : (q == p) = false := by
          rw [beq_eq_false_iff_ne]
          rintro rfl
          exact hp hq
        simp only [List.zip_cons_cons, List.lookup_cons, hne]
      rw [List.map_cons, List.map_congr_left hrest, ih hps (Nat.succ.inj hlength)]
      simp

/-- A class that hands its parameters on hands its arguments on. -/
theorem HandsOn.apply {g : ClassRef} {w : AliasSpelling} (h : st.HandsOn k g)
    (hdistinct : (st.classInfo k).parameters.Nodup)
    (hlength : as.length = (st.classInfo k).parameters.length) :
    ∃ j v, st.HasAncestor (.alias i w (.user k) as) (.alias j v g as) := by
  obtain ⟨j, v, hancestor⟩ := h i w
  have hargs : TypeForm.substituteAll (st.argumentFor k as)
      ((st.classInfo k).parameters.map .variable) = as := by
    rw [TypeForm.substituteAll_eq_map, List.map_map]
    exact map_argumentFor hdistinct hlength
  have happlied := hancestor.substitute (σ := st.argumentFor k as)
  simp only [TypeForm.substitute, hargs] at happlied
  exact ⟨j, v, happlied⟩

end Store

/-! ## §3  Hierarchies that are recorded -/

namespace Store

variable {st : Store} {info : ClassInfo} {t p : TypeForm} {c d g : ClassRef} {i j k : Nat}

/-- The bases of the classes say where their ancestors come from: every ancestor comes through a base, bases
were declared before, and declared ones are written down; and no parameter has two places. -/
structure Recorded (st : Store) : Prop where
  through {i : Nat} {d : ClassRef} : st.descends (.user i) d = true →
    d = .user i ∨ d ∈ (st.classInfo i).bases ∨ ∃ b ∈ (st.classInfo i).bases, st.descends b d = true
  older {i j : Nat} : .user j ∈ (st.classInfo i).bases → j < i
  written {i j : Nat} : .user j ∈ (st.classInfo i).bases →
    ∃ t ∈ (st.classInfo i).writtenBases, t.head? = some (.user j)
  distinct (i : Nat) : (st.classInfo i).parameters.Nodup

theorem recorded_empty : Store.empty.Recorded := by
  have hbases (i : Nat) : (Store.empty.classInfo i).bases = [] := rfl
  refine ⟨?_, ?_, ?_, fun i => List.nodup_nil⟩
  · intro i d h
    rw [descends_iff] at h
    cases h
  · intro i j h
    rw [hbases] at h
    cases h
  · intro i j h
    rw [hbases] at h
    cases h

theorem classInfo_of_size_le (h : st.classes.size ≤ i) : st.classInfo i = default := by
  rw [classInfo, Array.getElem?_eq_none h, Option.getD_none]

/-- What holds of a new class and of each old one holds of every class. -/
theorem forall_classInfo_withClass {P : Nat → ClassInfo → Prop} (hnew : P st.classes.size info)
    (hold : ∀ i, P i (st.classInfo i)) (i : Nat) : P i ((st.withClass info).classInfo i) := by
  by_cases hi : i = st.classes.size
  · subst hi
    rw [classInfo_withClass_new]
    exact hnew
  · rw [classInfo_withClass_old hi]
    exact hold i

/-- **A hierarchy stays recorded when a class is put over bases that are written down.** -/
theorem recorded_push (info : ClassInfo) (hr : st.Recorded)
    (hl : Hierarchy.linearize? (.user st.classes.size) info.bases (info.bases.map st.lineage) =
      some info.lineage)
    (hbases : st.CanBeBases info.bases) (hwritten : info.writesBases = true)
    (hdistinct : info.parameters.Nodup) : (st.withClass info).Recorded := by
  have hnew {b : ClassRef} (hb : ∀ j, b = .user j → j < st.classes.size) : b ≠ .user st.classes.size := by
    intro heq
    exact Nat.lt_irrefl _ (hb _ heq)
  refine ⟨?_, ?_, ?_, ?_⟩
  · intro i d h
    by_cases hi : i = st.classes.size
    · subst hi
      rw [classInfo_withClass_new]
      refine ((descends_withClass_new hl).mp h).imp_right (Or.imp_right ?_)
      rintro ⟨b, hb, hbd⟩
      rw [← descends_withClass_old (hnew fun j hj => (hbases _ hb).2 j hj)] at hbd
      exact ⟨b, hb, hbd⟩
    · rw [descends_withClass_old (by simpa using hi)] at h
      rw [classInfo_withClass_old hi]
      refine (hr.through h).imp_right (Or.imp_right ?_)
      rintro ⟨b, hb, hbd⟩
      have hsize : i < st.classes.size := by
        by_contra hsize
        rw [classInfo_of_size_le (Nat.le_of_not_lt hsize)] at hb
        cases hb
      have hb' (j : Nat) (hj : b = .user j) : j < st.classes.size :=
        Nat.lt_trans (hr.older (hj ▸ hb)) hsize
      rw [← descends_withClass_old (hnew hb')] at hbd
      exact ⟨b, hb, hbd⟩
  · intro i j
    exact forall_classInfo_withClass (P := fun i k => .user j ∈ k.bases → j < i)
      (fun h => (hbases _ h).2 j rfl) (fun i h => hr.older h) i
  · intro i j
    exact forall_classInfo_withClass
      (P := fun _ k => .user j ∈ k.bases → ∃ t ∈ k.writtenBases, t.head? = some (.user j))
      (ClassInfo.exists_written hwritten) (fun i h => hr.written h) i
  · exact forall_classInfo_withClass (P := fun _ k => k.parameters.Nodup) hdistinct hr.distinct

end Store

/-- A base stands for the declared class that it is about, if for any. -/
theorem Declaration.head?_of_baseClasses {st : Store} {all after : List TypeForm} {t : TypeForm}
    {cs : List ClassRef} {j : Nat} (h : baseClasses st all after t = .ok cs) (hj : .user j ∈ cs) :
    t.head? = some (.user j) := by
  have hgeneric {b : Builtin} : .user j ∉ baseClasses.withGeneric st all after (.builtin b) := by
    intro hmem
    dsimp only [baseClasses.withGeneric] at hmem
    split_ifs at hmem <;> simp at hmem
  unfold baseClasses at h
  split at h
  case h_1 | h_2 =>
    cases h
    obtain rfl := List.mem_singleton.mp hj
    rfl
  case h_3 => split at h <;> cases h <;> simp at hj
  case h_4 =>
    cases h
    obtain heq := List.mem_singleton.mp hj
    rw [heq]
    rfl
  case h_5 =>
    cases h
    simp at hj
  case h_6 o _ _ huser _ =>
    cases h
    cases o with
    | builtin b => exact absurd hj hgeneric
    | user k => exact absurd rfl (huser k)
  case h_7 =>
    split at h
    · cases h
      exact absurd hj hgeneric
    · cases h
  case h_8 => cases h

/-- The declared classes among the bases are what written bases are about. -/
theorem Declaration.exists_of_allBaseClasses {st : Store} {all ts : List TypeForm} {cs : List ClassRef}
    {j : Nat} (h : allBaseClasses st all ts = .ok cs) (hj : .user j ∈ cs) :
    ∃ t ∈ ts, t.head? = some (.user j) := by
  induction ts generalizing cs with
  | nil =>
    cases h
    cases hj
  | cons t ts ih =>
    rw [allBaseClasses] at h
    cases hown : baseClasses st all ts t with
    | error f =>
      rw [hown] at h
      cases h
    | ok own =>
      cases hrest : allBaseClasses st all ts with
      | error f =>
        rw [hown, hrest] at h
        cases h
      | ok rest =>
        rw [hown, hrest] at h
        cases h
        rcases List.mem_append.mp hj with hj | hj
        · exact ⟨t, List.mem_cons_self .., head?_of_baseClasses hown hj⟩
        · obtain ⟨u, hu, hhead⟩ := ih hrest hj
          exact ⟨u, List.mem_cons_of_mem _ hu, hhead⟩

/-- **A class that is declared writes its bases down.** -/
theorem Declaration.writesBases_of_declared {st : Store} {written : List TypeForm} {cs : List ClassRef}
    {info : ClassInfo} (h : allBaseClasses st written written = .ok cs)
    (hbases : info.bases = if cs.isEmpty then [.builtin .object] else cs)
    (hgeneric : info.genericBases = if written.any fun t => !(t matches .cls _) then written else []) :
    info.writesBases = true := by
  rw [ClassInfo.writesBases, List.all_eq_true]
  intro b hb
  cases b with
  | builtin b => rfl
  | user j =>
    simp only [List.any_eq_true, beq_iff_eq]
    by_cases happlied : (written.any fun t => !(t matches .cls _)) = true
    · rw [if_pos happlied] at hgeneric
      have hj : .user j ∈ cs := by
        rw [hbases] at hb
        split at hb
        · simp at hb
        · exact hb
      obtain ⟨t, ht, hhead⟩ := exists_of_allBaseClasses h hj
      exact ⟨t, ClassInfo.mem_writtenBases (hgeneric ▸ ht), hhead⟩
    · rw [if_neg happlied] at hgeneric
      refine ⟨.cls (.user j), ?_, rfl⟩
      rw [ClassInfo.writtenBases, hgeneric]
      exact List.mem_map_of_mem hb

namespace Store

variable {st : Store} {info : ClassInfo} {t p : TypeForm} {c d g : ClassRef} {i j k : Nat}

/-- A base that was written down is one step away, with something in the place of the parameters. -/
theorem exists_mem_basesOf {b : TypeForm} (ht : t.head? = some (.user i))
    (hb : b ∈ (st.classInfo i).writtenBases) : ∃ σ, b.substitute σ ∈ st.basesOf t := by
  cases t with
  | cls c =>
    cases ht
    exact ⟨_, List.mem_map_of_mem hb⟩
  | «alias» m w o ts =>
    cases ht
    exact ⟨_, List.mem_map_of_mem hb⟩
  | _ => cases ht

/-- **Every declared ancestor of a class is reached**, applied in some way, by induction over the order of
declaration. -/
theorem Recorded.exists_ancestor (hr : st.Recorded) (ht : t.head? = some (.user i))
    (hd : st.descends (.user i) (.user k) = true) :
    ∃ u, st.HasAncestor t u ∧ u.head? = some (.user k) := by
  induction i using Nat.strong_induction_on generalizing t with
  | _ i ih =>
    rcases hr.through hd with heq | hbase | ⟨b, hbase, hbd⟩
    · cases heq
      exact ⟨t, .refl, ht⟩
    · obtain ⟨b, hb, hhead⟩ := hr.written hbase
      obtain ⟨σ, hmem⟩ := exists_mem_basesOf ht hb
      exact ⟨_, .single hmem, TypeForm.head?_substitute hhead⟩
    · cases b with
      | builtin b =>
        obtain ⟨b', -, heq⟩ := descends_builtin_iff.mp hbd
        cases heq
      | user j =>
        obtain ⟨b, hb, hhead⟩ := hr.written hbase
        obtain ⟨σ, hmem⟩ := exists_mem_basesOf ht hb
        obtain ⟨u, hu, hhead'⟩ := ih j (hr.older hbase) (TypeForm.head?_substitute hhead) hbd
        exact ⟨u, .head hmem hu, hhead'⟩

/-- What a class was declared over is an ancestor of the classes below it, where it has no variables. -/
theorem Recorded.exists_declared_ancestor (hr : st.Recorded) (hclosed : variableNames p = [])
    (h : st.declaredOver c p = true) : ∃ b, st.HasAncestor (.cls c) b ∧ b.equal p = true := by
  simp only [declaredOver, List.any_eq_true] at h
  obtain ⟨k, hk, b, hb, hequal⟩ := h
  cases k with
  | builtin k => cases hb
  | user k =>
    cases c with
    | builtin c =>
      obtain ⟨c', -, heq⟩ := mem_lineage_builtin.mp hk
      cases heq
    | user i =>
      obtain ⟨u, hu, hhead⟩ := hr.exists_ancestor (t := .cls (.user i)) rfl (descends_iff.mpr hk)
      obtain ⟨σ, hmem⟩ := exists_mem_basesOf hhead (ClassInfo.mem_writtenBases hb)
      rw [TypeForm.substitute_of_closed (TypeForm.closed_of_equal (TypeForm.equal_symm hequal) hclosed)]
        at hmem
      exact ⟨b, .tail hu hmem, hequal⟩

/-! ## §4  Plain answers -/

/-- Arguments that agree place by place meet. -/
theorem forall₂_meets {as bs : List TypeForm}
    (h : Argument.allBelow (as.map .single) (bs.map .single) = true) : List.Forall₂ Meets as bs := by
  induction as generalizing bs with
  | nil =>
    cases bs with
    | nil => exact .nil
    | cons b bs => cases h
  | cons a as ih =>
    cases bs with
    | nil => cases h
    | cons b bs =>
      simp only [List.map_cons, Argument.allBelow, Bool.and_eq_true, Bool.or_eq_true] at h
      exact .cons h.1 (ih h.2)

variable {i : Mark} {w : AliasSpelling} {bs : List TypeForm}

/-- What is equal to an applied class applies it to arguments that meet its own. -/
theorem exists_alias_of_equal {b : TypeForm} (h : b.equal (.alias i w g bs) = true) :
    ∃ j as, b = .alias j w g as ∧ List.Forall₂ Meets as bs := by
  cases TypeForm.equals_of_equal h with
  | «alias» h => exact ⟨_, _, rfl, h.imp fun a b hab => .inl hab⟩

/-- **What is found above a class is an ancestor of it.** -/
theorem Recorded.hasApplied_of_cls (hr : st.Recorded) (hbs : bs ≠ []) (hclosed : variableNamesOf bs = [])
    (h : st.derivesBelow (.cls c) (.alias i w g bs) = true) : st.HasApplied (.cls c) g bs := by
  cases derivesBelow_iff.mp h with
  | equal hequal => simp [TypeForm.equal] at hequal
  | top htop => cases htop
  | applied _ _ hargs _ hbelow =>
    cases bs with
    | nil => exact absurd rfl hbs
    | cons b bs => cases hbelow
  | declared hcls _ _ _ hover =>
    cases hcls
    have hparent : variableNames (.alias i w g bs) = [] := by rwa [variableNames]
    obtain ⟨b, hancestor, hequal⟩ := hr.exists_declared_ancestor hparent hover
    obtain ⟨j, as, rfl, hmeets⟩ := exists_alias_of_equal hequal
    exact ⟨j, w, as, hancestor, hmeets⟩
  | classes hplain =>
    rcases hplain with horigin | hargs
    · cases horigin
    · exact absurd (List.map_eq_nil_iff.mp hargs) hbs

variable {j : Mark} {v : AliasSpelling} {o : ClassRef} {as : List TypeForm}

/-- An applied class is looked for by what it applies and to what. -/
theorem meets_of_alias (hbs : bs ≠ [])
    (h : st.derivesBelow (.alias j v o as) (.alias i w g bs) = true) :
    (o = g ∨ st.isSubclass o g = true) ∧ List.Forall₂ Meets as bs := by
  cases derivesBelow_iff.mp h with
  | equal hequal =>
    obtain ⟨j', as', heq, hmeets⟩ := exists_alias_of_equal hequal
    cases heq
    exact ⟨.inl rfl, hmeets⟩
  | top htop => cases htop
  | applied hown habove _ hdescends hbelow =>
    cases hown
    cases habove
    exact ⟨.inr hdescends, forall₂_meets hbelow⟩
  | declared hcls => cases hcls
  | classes hplain =>
    rcases hplain with horigin | hargs
    · cases horigin
    · exact absurd (List.map_eq_nil_iff.mp hargs) hbs

/-- **What is found above an applied class is an ancestor of it**, where its parameters are handed on. -/
theorem Recorded.hasApplied_of_alias (hr : st.Recorded) (hbs : bs ≠ [])
    (hlength : as.length = (st.classInfo k).parameters.length) (hhands : st.HandsOn k g)
    (h : st.derivesBelow (.alias j v (.user k) as) (.alias i w g bs) = true) :
    st.HasApplied (.alias j v (.user k) as) g bs := by
  obtain ⟨-, hmeets⟩ := meets_of_alias hbs h
  obtain ⟨j', v', hancestor⟩ := hhands.apply (hr.distinct k) hlength
  exact ⟨j', v', as, hancestor, hmeets⟩

/-- **What is found above a class, applied or not, is reached**, with some arguments or other. -/
theorem Recorded.reaches_of_derivesBelow (hr : st.Recorded) (ht : t.head?.isSome) (hbs : bs ≠ [])
    (hclosed : variableNamesOf bs = []) (hplain : st.testsMembers (.user k) = false)
    (h : st.derivesBelow t (.alias i w (.user k) bs) = true) :
    ∃ u, st.HasAncestor t u ∧ u.head? = some (.user k) := by
  cases t with
  | cls c =>
    obtain ⟨j, v, as, hancestor, -⟩ := hr.hasApplied_of_cls hbs hclosed h
    exact ⟨_, hancestor, rfl⟩
  | «alias» j v o as =>
    rcases (meets_of_alias hbs h).1 with rfl | hsub
    · exact ⟨_, .refl, rfl⟩
    · rw [isSubclass_of_plain hplain, names_iff] at hsub
      rcases hsub with hdescends | ⟨a, b, heq, -⟩
      · cases o with
        | builtin o =>
          obtain ⟨o', -, heq⟩ := descends_builtin_iff.mp hdescends
          cases heq
        | user i' => exact hr.exists_ancestor rfl hdescends
      · cases heq
  | _ => cases ht

end Store

/-! ## §5  Answers after any history -/

namespace Memo

variable {st : Store} {qs : List Question} {m : Memo} {t p : TypeForm} {g : ClassRef} {bs : List TypeForm}
  {i : Mark} {w : AliasSpelling}

/-- What is found after any history is plainly found, where nothing stands for a union. -/
theorem derivesBelow_of_answer (hm : After st qs m) (ht : t.standsForUnion = false)
    (hp : p.standsForUnion = false) (h : ((derives st t p).run.run m).1 = .ok true) :
    st.derivesBelow t p = true := by
  by_cases hhash : t.hashable = true ∧ p.hashable = true
  · obtain ⟨m', hrun, -⟩ :=
      gives_derives hhash.1 hhash.2 (Store.answersEqualsAlike_of_no_union ht hp) m hm.honest
    rw [hrun] at h
    exact Except.ok.inj h
  · unfold derives at h
    rw [if_neg (by rwa [Bool.and_eq_true])] at h
    cases h

/-- **Ancestors that are found are ancestors**, after every history.  Found above a class, an applied class is
an ancestor of it, with the arguments that were asked for.  Found above an applied class it is, if the
parameters are handed on to it.  In any case what it applies is reached, with some arguments, unless it is
tested by members. -/
theorem found_ancestors_are_ancestors (hr : st.Recorded) (hm : After st qs m) (hbs : bs ≠ [])
    (hclosed : variableNamesOf bs = [])
    (h : ((derives st t (.alias i w g bs)).run.run m).1 = .ok true) :
    (∀ c, t = .cls c → st.HasApplied t g bs) ∧
    (∀ j v k as, t = .alias j v (.user k) as → as.length = (st.classInfo k).parameters.length →
      st.HandsOn k g → st.HasApplied t g bs) ∧
    (∀ k, g = .user k → st.testsMembers g = false → t.head?.isSome →
      ∃ u, st.HasAncestor t u ∧ u.head? = some g) := by
  refine ⟨?_, ?_, ?_⟩
  · rintro c rfl
    exact hr.hasApplied_of_cls hbs hclosed (derivesBelow_of_answer hm rfl rfl h)
  · rintro j v k as rfl hlength hhands
    exact hr.hasApplied_of_alias hbs hlength hhands (derivesBelow_of_answer hm rfl rfl h)
  · rintro k rfl hplain ht
    have htu : t.standsForUnion = false := by
      cases t <;> first | rfl | cases ht
    exact hr.reaches_of_derivesBelow ht hbs hclosed hplain (derivesBelow_of_answer hm htu rfl h)

end Memo

/-! ## §6  Pairs that are swapped -/

namespace Swaps

/-- Pairs of two types, pairs that are written the other way round, and pairs with a name. -/
def world : Store :=
  { Store.empty with
    classes := #[
      { (default : ClassInfo) with
        name := "Pair"
        qualifiedName := "Pair"
        bases := [.builtin .generic]
        genericBases := [.alias 0 .generic (.builtin .generic) [.variable "T", .variable "U"]]
        lineage := [.user 0, .builtin .generic, .builtin .object]
        parameters := ["T", "U"]
        hasFields := true },
      { (default : ClassInfo) with
        name := "Swap"
        qualifiedName := "Swap"
        bases := [.user 0, .builtin .generic]
        genericBases := [.alias 1 .generic (.user 0) [.variable "U", .variable "T"],
          .alias 0 .generic (.builtin .generic) [.variable "T", .variable "U"]]
        lineage := [.user 1, .user 0, .builtin .generic, .builtin .object]
        parameters := ["T", "U"]
        hasFields := true },
      { (default : ClassInfo) with
        name := "Named"
        qualifiedName := "Named"
        bases := [.user 0]
        genericBases := [.alias 2 .generic (.user 0) [.variable "T", .variable "U"]]
        lineage := [.user 2, .user 0, .builtin .generic, .builtin .object]
        parameters := ["T", "U"]
        hasFields := true }] }

/-- A class of pairs, applied to two types. -/
def applied (k : Nat) (a b : TypeForm) : TypeForm := .alias 3 .generic (.user k) [a, b]

theorem recorded_world : world.Recorded := by
  have hpair := Store.recorded_push (world.classInfo 0) Store.recorded_empty (by decide)
    (Store.canBeBases_singleton rfl nofun) (by decide) (by decide)
  have hbases : (Store.empty.withClass (world.classInfo 0)).CanBeBases [.user 0, .builtin .generic] := by
    intro b hb
    simp only [List.mem_cons, List.not_mem_nil, or_false] at hb
    rcases hb with rfl | rfl
    · exact ⟨rfl, by rintro j ⟨⟩; decide⟩
    · exact ⟨rfl, nofun⟩
  have hswap := Store.recorded_push (world.classInfo 1) hpair (by decide) hbases (by decide)
    (by decide)
  have hnamed := Store.recorded_push (world.classInfo 2) hswap (by decide)
    (Store.canBeBases_singleton rfl (by rintro j ⟨⟩; decide)) (by decide) (by decide)
  exact hnamed

/-- Pairs with a name hand their parameters on to pairs. -/
theorem handsOn_named : world.HandsOn 2 (.user 0) := by
  intro i w
  refine ⟨2, .generic, .single ?_⟩
  change _ ∈ (world.classInfo 2).writtenBases.map _
  decide

/-- Named pairs of an integer and a text are pairs of an integer and of what takes anything. -/
theorem named_pair_is_found :
    ∃ qs m, world.Recorded ∧ Memo.After world qs m ∧
      ((Memo.derives world (applied 2 (.builtin .int) (.builtin .str))
        (applied 0 (.builtin .int) (.builtin .object))).run.run m).1 = .ok true ∧
      world.HasApplied (applied 2 (.builtin .int) (.builtin .str)) (.user 0)
        [.builtin .int, .builtin .object] := by
  have hafter : Memo.After world [.derives (.cls (.user 2)) (.cls (.user 0))]
      ((Memo.derives world (.cls (.user 2)) (.cls (.user 0))).run.run .empty).2 := .ask (.derives _ _) .start
  have hfound : ((Memo.derives world (applied 2 (.builtin .int) (.builtin .str))
      (applied 0 (.builtin .int) (.builtin .object))).run.run
        ((Memo.derives world (.cls (.user 2)) (.cls (.user 0))).run.run .empty).2).1 = .ok true := by
    decide +kernel
  obtain ⟨-, happlied, -⟩ :=
    Memo.found_ancestors_are_ancestors recorded_world hafter (List.cons_ne_nil _ _) rfl hfound
  exact ⟨_, _, recorded_world, hafter, hfound, happlied 3 .generic 2 _ rfl rfl handsOn_named⟩

/-- **A swapped pair is found**: swapped pairs of an integer and a text are found to be pairs of an integer
and a text.  They are pairs of a text and an integer, and none of their ancestors is what was found. -/
theorem swapped_pair_is_found :
    ((Memo.derives world (applied 1 (.builtin .int) (.builtin .str))
      (applied 0 (.builtin .int) (.builtin .str))).run.run .empty).1 = .ok true ∧
    world.HasApplied (applied 1 (.builtin .int) (.builtin .str)) (.user 0) [.builtin .str, .builtin .int] ∧
    ¬ world.HasApplied (applied 1 (.builtin .int) (.builtin .str)) (.user 0)
      [.builtin .int, .builtin .str] := by
  refine ⟨by decide +kernel, ?_, ?_⟩
  · refine ⟨1, .generic, [.builtin .str, .builtin .int], .single (by decide +kernel), ?_⟩
    exact .cons (.inl (TypeForm.equal_refl _)) (.cons (.inl (TypeForm.equal_refl _)) .nil)
  · rintro ⟨i, w, as, hancestor, hmeets⟩
    have hmem := hancestor.mem [applied 1 (.builtin .int) (.builtin .str),
      .alias 1 .generic (.user 0) [.builtin .str, .builtin .int],
      .alias 0 .generic (.builtin .generic) [.builtin .int, .builtin .str],
      .alias 0 .generic (.builtin .generic) [.builtin .str, .builtin .int]] (by simp) (by decide +kernel)
    simp only [List.mem_cons, List.not_mem_nil, or_false] at hmem
    rcases hmem with heq | heq | heq | heq <;> cases heq
    cases hmeets with
    | cons h _ =>
      rcases h with hequal | hany
      · exact absurd hequal (by decide +kernel)
      · cases hany

end Swaps
end MemberAccess
