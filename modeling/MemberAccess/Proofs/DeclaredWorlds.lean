import MemberAccess.Declaration.Declare
import MemberAccess.Proofs.LastingInvariants

/-!
# Declared worlds

What is true of every store that the declarations of a program make, and stays true whatever the program
does: annotations that are kept for whoever asks again are what their forms give, every class comes first
among its ancestors, and it annotates a name once.
-/

namespace MemberAccess

open MemberAccess.Action

/-! ## §1  What is true of them -/

namespace Store

/-- A store as the declarations of a program make it. -/
structure WellDeclared (st : Store) : Prop where
  shares {former : Former} {ts : List TypeForm} {t : TypeForm} :
    (former, ts, t) ∈ st.shared → former.Gives ts t
  head {i : Nat} : i < st.classes.size → (st.classInfo i).lineage.head? = some (.user i)
  nodup (i : Nat) : ((st.classInfo i).annotations.map (·.1)).Nodup

variable {st : Store} {i : Nat}

theorem wellDeclared_empty : Store.empty.WellDeclared where
  shares h := by cases h
  head h := absurd h (Nat.not_lt_zero _)
  nodup _ := List.nodup_nil

/-- A change of a class does not touch other classes, and not what it leaves as it is in that class. -/
theorem classInfo_modify {α : Type} (st : Store) (i : Nat) (g : ClassInfo → ClassInfo) (f : ClassInfo → α)
    (hg : ∀ k, f (g k) = f k) (j : Nat) :
    f ({ st with classes := st.classes.modify i g }.classInfo j) = f (st.classInfo j) := by
  unfold classInfo
  rw [Array.getElem?_modify]
  split
  · cases st.classes[j]? with
    | none => rfl
    | some k => exact hg k
  · rfl

/-- A class may be changed in all but its ancestors and its annotations. -/
theorem WellDeclared.modify (h : st.WellDeclared) {g : ClassInfo → ClassInfo}
    (hlineage : ∀ k, (g k).lineage = k.lineage) (hannotations : ∀ k, (g k).annotations = k.annotations) :
    { st with classes := st.classes.modify i g }.WellDeclared where
  shares := h.shares
  head {j} hj := by
    rw [Array.size_modify] at hj
    rw [classInfo_modify st i g (·.lineage) hlineage]
    exact h.head hj
  nodup j := by
    rw [classInfo_modify st i g (·.annotations) hannotations]
    exact h.nodup j

theorem lasting_wellDeclared : Lasting WellDeclared where
  objects h := ⟨h.shares, h.head, h.nodup⟩
  nextMark h := ⟨h.shares, h.head, h.nodup⟩
  entries h := h.modify (fun _ => rfl) fun _ => rfl
  shared h hgives := by
    refine ⟨fun hmem => ?_, h.head, h.nodup⟩
    rcases List.mem_cons.mp hmem with heq | hmem
    · cases heq
      exact hgives
    · exact h.shares hmem

/-- A new class comes first among its ancestors and annotates a name once. -/
theorem WellDeclared.push (h : st.WellDeclared) {info : ClassInfo}
    (hhead : info.lineage.head? = some (.user st.classes.size))
    (hnodup : (info.annotations.map (·.1)).Nodup) :
    { st with classes := st.classes.push info }.WellDeclared where
  shares := h.shares
  head {j} hj := by
    rw [Array.size_push] at hj
    unfold classInfo
    rw [Array.getElem?_push]
    split
    case isTrue hlast =>
      subst hlast
      exact hhead
    case isFalse hlast => exact h.head (by omega)
  nodup j := by
    unfold classInfo
    rw [Array.getElem?_push]
    split
    · exact hnodup
    · exact h.nodup j

/-- The same with a known count of classes, which only declaring one changes. -/
def WellDeclaredTo (n : Nat) (st : Store) : Prop := st.WellDeclared ∧ st.classes.size = n

theorem lasting_wellDeclaredTo (n : Nat) : Lasting (WellDeclaredTo n) where
  objects h := ⟨lasting_wellDeclared.objects h.1, h.2⟩
  nextMark h := ⟨lasting_wellDeclared.nextMark h.1, h.2⟩
  entries h := ⟨lasting_wellDeclared.entries h.1, Array.size_modify.trans h.2⟩
  shared h hgives := ⟨lasting_wellDeclared.shared h.1 hgives, h.2⟩

end Store

/-! ## §2  Declaring -/

namespace Declaration

variable {run : Runner}

/-- A list of named annotations in which a later one of a name replaces the one before. -/
theorem nodup_foldl_annotations {annotations found : List (String × TypeForm)}
    (h : (found.map (·.1)).Nodup) :
    ((annotations.foldl (fun ts (n, t) =>
      if (ts.lookup n).isSome then ts.map fun e => if e.1 == n then (n, t) else e
      else ts ++ [(n, t)]) found).map (·.1)).Nodup := by
  induction annotations generalizing found with
  | nil => exact h
  | cons p annotations ih =>
    rw [List.foldl_cons]
    obtain ⟨n, t⟩ := p
    refine ih ?_
    dsimp only
    split
    · have hnames : (found.map fun e => if e.1 == n then (n, t) else e).map (·.1) = found.map (·.1) := by
        rw [List.map_map]
        refine List.map_congr_left fun e _ => ?_
        dsimp only [Function.comp_apply]
        split
        case isTrue heq => exact (eq_of_beq heq).symm
        case isFalse => rfl
      rw [hnames]
      exact h
    · rename_i hnone
      rw [List.map_append, List.map_singleton]
      have hsingle : [n].Nodup := List.nodup_cons.mpr ⟨List.not_mem_nil, List.nodup_nil⟩
      refine List.nodup_append.mpr ⟨h, hsingle, fun m hm m' hm' => ?_⟩
      obtain rfl := List.mem_singleton.mp hm'
      rintro rfl
      obtain ⟨e, he, rfl⟩ := List.mem_map.mp hm
      rw [Option.not_isSome_iff_eq_none, List.lookup_eq_none_iff] at hnone
      simpa using hnone e he

end Declaration

/-- A way of calling functions, and an invariant that no change to a store breaks but a new class. -/
structure Runner.UpholdsDeclared (run : Runner) (I : Store → Prop) : Prop extends run.UpholdsAlike run I where
  functions {st : Store} {fs : Array Function} : I st → I { st with functions := fs }
  properties {st : Store} {ps : Array Property} : I st → I { st with properties := ps }

namespace Declaration

section
variable {run : Runner} {I : Store → Prop}

/-- Refusing something first keeps what the rest keeps. -/
theorem keeps_refusing {β : Type} {p : Prop} [Decidable p] {e : ErrorKind} {k : PUnit → Action β}
    (hk : ∀ x, Keeps I run (k x)) : Keeps I run (if p then fault e >>= k else k ⟨⟩) := by
  split
  · exact keeps_bind keeps_fault hk
  · exact hk _

@[grind ←] theorem keeps_optionMapM {α β : Type} {o : Option α} {g : α → Action β}
    (h : ∀ a, Keeps I run (g a)) : Keeps I run (o.mapM g) := by
  cases o with
  | none => exact keeps_pure
  | some a => exact keeps_map (h a)

variable (h : run.UpholdsDeclared I)
include h

@[grind ←] theorem keeps_typeForm {e : Expr} : Keeps I run (typeForm e) := by
  have heval := Expr.keeps_eval h.toUpholdsAlike scope e
  unfold typeForm
  grind

@[grind ←] theorem keeps_addFunction {f : Function} : Keeps I run (addFunction f) :=
  keeps_of_forall fun _ hst => h.functions hst

@[grind ←] theorem keeps_parameter {p : ParameterDecl} : Keeps I run (parameter p) := by
  have heval e := Expr.keeps_eval h.toUpholdsAlike scope e
  unfold parameter
  grind

@[grind ←] theorem keeps_function {name : String} {f : FunctionDecl} : Keeps I run (function name f) := by
  unfold function
  grind

@[grind ←] theorem keeps_member {name : String} {m : MemberDecl} : Keeps I run (member name m) := by
  have heval e := Expr.keeps_eval h.toUpholdsAlike scope e
  unfold member
  cases m with
  | function role name f =>
    dsimp only
    grind
  | property name getter setter =>
    refine keeps_bind (keeps_optionMapM fun f => keeps_function h) fun g => ?_
    refine keeps_bind (keeps_optionMapM fun f => keeps_function h) fun s => ?_
    exact keeps_of_forall fun st hst => h.properties hst
  | value name e =>
    dsimp only
    grind

@[grind ←] theorem keeps_fieldDefault {c : ClassRef} {name : String} : Keeps I run (fieldDefault c name) := by
  refine keeps_of_forall fun st hst => ?_
  have hst' : I ((Value.getAttribute (.cls c) name).perform run st).2 :=
    (Value.keeps_getAttribute h.toUpholdsAlike st hst).2
  rw [Action.perform, fieldDefault, ExceptT.run_mk, StateT.run]
  split
  case h_3 => exact hst
  all_goals
    rename_i heq
    rw [heq] at hst'
    exact hst'

@[grind ←] theorem keeps_ownFields {c : ClassRef} {info : ClassInfo} {keywordOnly : Bool} :
    Keeps I run (ownFields c info keywordOnly) := by
  unfold ownFields
  grind

end

/-! ## §3  Classes -/

/-- An action after whose success one invariant is true, if another was before. -/
def Yields {α : Type} (I J : Store → Prop) (run : Runner) (x : Action α) : Prop :=
  ∀ st a st', I st → x.perform run st = (.ok a, st') → J st'

section
variable {α β : Type} {I J : Store → Prop} {run : Runner} {x : Action α} {k : α → Action β}

theorem yields_bind (hx : Keeps I run x) (hk : ∀ a, Yields I J run (k a)) : Yields I J run (x >>= k) := by
  intro st b st' hst h
  obtain ⟨a, st₁, h₁, h⟩ := exists_of_perform_bind h
  exact hk a _ _ _ (hx.of_perform hst h₁) h

theorem yields_bind_get {K : Store → Store → Prop} {k : Store → Action β} (hK : ∀ st, I st → K st st)
    (hk : ∀ st, Yields (K st) J run (k st)) : Yields I J run (get >>= k) :=
  fun st _ _ hst h => hk st _ _ _ (hK st hst) h

theorem yields_fault {e : ErrorKind} : Yields I J run (fault e : Action α) := fun _ _ _ _ h => by cases h

theorem yields_refusing {p : Prop} [Decidable p] {e : ErrorKind} {k : PUnit → Action β}
    (hk : ∀ x, Yields I J run (k x)) : Yields I J run (if p then fault e >>= k else k ⟨⟩) := by
  split
  · exact yields_bind keeps_fault hk
  · exact hk _

end

section
variable {depth : Nat} {st st' : Store} {table : List (Nat × List Field)}

theorem upholds_wellDeclared : (runFunction depth).UpholdsDeclared Store.WellDeclared where
  toUpholdsAlike := Store.lasting_wellDeclared.upholds depth
  functions h := ⟨h.shares, h.head, h.nodup⟩
  properties h := ⟨h.shares, h.head, h.nodup⟩

theorem upholds_wellDeclaredTo (n : Nat) :
    (runFunction depth).UpholdsDeclared (Store.WellDeclaredTo n) where
  toUpholdsAlike := (Store.lasting_wellDeclaredTo n).upholds depth
  functions h := ⟨⟨h.1.shares, h.1.head, h.1.nodup⟩, h.2⟩
  properties h := ⟨⟨h.1.shares, h.1.head, h.1.nodup⟩, h.2⟩

@[grind ←] theorem keeps_changeClass {i : Nat} {g : ClassInfo → ClassInfo}
    (hlineage : ∀ k, (g k).lineage = k.lineage) (hannotations : ∀ k, (g k).annotations = k.annotations) :
    Keeps Store.WellDeclared (runFunction depth) (modifyClass i g) :=
  keeps_of_forall fun _ hst => hst.modify hlineage hannotations

theorem keeps_applyProtocol {i : Nat} :
    Keeps Store.WellDeclared (runFunction depth) (applyProtocol i) := by
  unfold applyProtocol
  refine keeps_bind keeps_get fun st => ?_
  extract_lets info c isProtocol init
  have hinit (x : PUnit) : Keeps Store.WellDeclared (runFunction depth) (init x) := by
    unfold init
    split
    · exact keeps_pure
    · refine keeps_bind (keeps_addFunction upholds_wellDeclared) fun id => ?_
      exact keeps_changeClass (fun _ => rfl) fun _ => rfl
  split
  · exact keeps_pure
  refine keeps_bind (keeps_changeClass (fun _ => rfl) fun _ => rfl) fun _ => ?_
  split
  · exact keeps_pure
  · exact keeps_refusing hinit

theorem keeps_applyRecord {i : Nat} {r : RecordDecl} :
    Keeps Store.WellDeclared (runFunction depth) (applyRecord table i r) := by
  unfold applyRecord
  refine keeps_bind keeps_get fun st => ?_
  extract_lets c routine
  split
  rename_i inherited anyFrozen _
  refine keeps_bind (keeps_ownFields upholds_wellDeclared) fun own => ?_
  extract_lets fields write checkEntries checkDefaults
  have hwrite (id : Option Nat) : Keeps Store.WellDeclared (runFunction depth) (write id) :=
    keeps_bind (keeps_changeClass (fun _ => rfl) fun _ => rfl) fun _ => keeps_pure
  have hentries (x : PUnit) : Keeps Store.WellDeclared (runFunction depth) (checkEntries x) := by
    unfold checkEntries
    refine keeps_bind keeps_get fun st => ?_
    extract_lets info addInit
    refine keeps_refusing fun x => ?_
    unfold addInit
    split
    · exact keeps_bind (keeps_map (keeps_addFunction upholds_wellDeclared)) hwrite
    · exact keeps_bind keeps_pure hwrite
  have hdefaults (x : PUnit) : Keeps Store.WellDeclared (runFunction depth) (checkDefaults x) :=
    keeps_refusing hentries
  split
  · exact keeps_refusing hdefaults
  · exact hdefaults ()

/-- A class whose number is the count of classes is put behind them. -/
theorem yields_push {β : Type} {n : Nat} {info : ClassInfo} {k : PUnit → Action β}
    (hhead : info.lineage.head? = some (.user n)) (hnodup : (info.annotations.map (·.1)).Nodup)
    (hk : ∀ x, Keeps Store.WellDeclared (runFunction depth) (k x)) :
    Yields (Store.WellDeclaredTo n) Store.WellDeclared (runFunction depth)
      ((modify fun st => { st with classes := st.classes.push info }) >>= k) := by
  rintro st b st' ⟨hst, rfl⟩ h
  exact (hk ⟨⟩).of_perform (hst.push hhead hnodup) h

/-- **A class that is declared leaves the world well declared.** -/
theorem yields_declareClass {d : ClassDecl} :
    Yields Store.WellDeclared Store.WellDeclared (runFunction depth) (declareClass table d) := by
  have htypes {e : Expr} : Keeps Store.WellDeclared (runFunction depth) (typeForm e) :=
    keeps_typeForm upholds_wellDeclared
  unfold declareClass
  refine yields_bind (keeps_mapM fun _ _ => htypes) fun written => ?_
  refine yields_bind (keeps_mapM fun _ _ => keeps_bind htypes fun _ => keeps_pure) fun annotations => ?_
  refine yields_bind (keeps_mapM fun _ _ => keeps_member upholds_wellDeclared) fun members => ?_
  -- from here to the new class nothing changes the count of classes, which is the number of the new one
  refine yields_bind_get (K := fun st => Store.WellDeclaredTo st.classes.size) (fun _ h => ⟨h, rfl⟩) fun st => ?_
  refine yields_bind keeps_ofOutcome fun bases => ?_
  extract_lets bases' isApplied c slots entries inheritsFields hasFields i finish build checkLayouts
  have hfinish (table : List (Nat × List Field)) :
      Keeps Store.WellDeclared (runFunction depth) (finish table) := by
    unfold finish
    extract_lets give
    split
    · refine keeps_bind keeps_get fun st => ?_
      split
      · exact keeps_bind (keeps_changeClass (fun _ => rfl) fun _ => rfl) fun _ => keeps_pure
      · exact keeps_bind keeps_fault fun _ => keeps_pure
    · exact keeps_pure
  have hbuild (x : PUnit) :
      Yields (Store.WellDeclaredTo st.classes.size) Store.WellDeclared (runFunction depth) (build x) := by
    unfold build
    split
    case h_2 => exact yields_fault
    case h_1 metaclass hmeta =>
    split
    case h_2 => exact yields_fault
    case h_1 lineage hlineage =>
    extract_lets inheritedRecord inheritedRuntime push checkGeneric
    have hpush (parameters : List String) : Yields (Store.WellDeclaredTo st.classes.size)
        Store.WellDeclared (runFunction depth) (push parameters) := by
      unfold push
      extract_lets putClass makeSlots
      have hput (slotsValue : List (String × Value)) : Yields (Store.WellDeclaredTo st.classes.size)
          Store.WellDeclared (runFunction depth) (putClass slotsValue) := by
        refine yields_push (Hierarchy.head_linearize? hlineage) (nodup_foldl_annotations List.nodup_nil)
          fun _ => keeps_bind keeps_applyProtocol fun _ => ?_
        split
        · exact keeps_bind keeps_applyRecord hfinish
        · exact keeps_bind keeps_pure hfinish
      have hslots (x : PUnit) : Yields (Store.WellDeclaredTo st.classes.size)
          Store.WellDeclared (runFunction depth) (makeSlots x) := by
        unfold makeSlots
        split
        · exact yields_bind keeps_pure hput
        · refine yields_bind (keeps_allocateBuiltin (upholds_wellDeclaredTo _).toUpholdsAlike) fun _ => ?_
          exact yields_bind keeps_pure hput
        · exact yields_bind keeps_pure hput
      split
      · exact yields_bind keeps_ofOutcome hslots
      · exact hslots ()
    refine yields_refusing fun x => ?_
    unfold checkGeneric
    split
    · exact yields_bind keeps_ofOutcome hpush
    · exact yields_bind keeps_pure hpush
  exact yields_refusing fun _ => yields_refusing hbuild

/-- What succeeds without its result has succeeded with one. -/
theorem exists_of_perform_discard {α : Type} {x : Action α} {run : Runner}
    (h : (discard x).perform run st = (.ok (), st')) : ∃ a, x.perform run st = (.ok a, st') := by
  have hbind : (discard x : Action PUnit) = x >>= fun _ => pure ⟨⟩ := rfl
  rw [hbind] at h
  obtain ⟨a, st₁, ha, h⟩ := exists_of_perform_bind h
  cases h
  exact ⟨a, ha⟩

/-- Classes that are declared one after another leave the world well declared, by induction on them. -/
theorem wellDeclared_of_foldlM {ds : List ClassDecl} {table' : List (Nat × List Field)} (hst : st.WellDeclared)
    (h : (ds.foldlM declareClass table).perform (runFunction depth) st = (.ok table', st')) :
    st'.WellDeclared := by
  induction ds generalizing table st with
  | nil =>
    cases h
    exact hst
  | cons d ds ih =>
    rw [List.foldlM_cons] at h
    obtain ⟨table₁, st₁, h₁, h⟩ := exists_of_perform_bind h
    exact ih (yields_declareClass _ _ _ hst h₁) h

/-- **The classes of a program make a well declared world**, and it stays one whatever the program does. -/
theorem wellDeclared_of_declareAll {ds : List ClassDecl}
    (h : (declareAll ds).perform (runFunction depth) .empty = (.ok (), st)) : st.WellDeclared := by
  unfold declareAll at h
  obtain ⟨table', h₁⟩ := exists_of_perform_discard h
  exact wellDeclared_of_foldlM Store.wellDeclared_empty h₁

end

end Declaration
end MemberAccess
