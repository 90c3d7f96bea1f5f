import MemberAccess.Member.Hints
import MemberAccess.Proofs.Runs

/-!
# Invariants of runs

What stays true of a store whatever a program does to it.  A program changes its store in few ways: it
makes and changes objects, changes what a class has in its namespace, takes a mark that no annotation
carries yet, and keeps an annotation that it has formed for whoever asks for the same again.  An invariant
that each of these leaves true is *lasting*, and a lasting invariant is true after every run of every
program, also of one that fails.
-/

namespace MemberAccess

open MemberAccess.Action

/-! ## §1  Ways of changing a store -/

/-- What is known of an annotation that was formed of operands, where it is more than that it was formed:
a union is one of its members or holds nothing but members, and a class variable is one. -/
def Former.Gives : Former → List TypeForm → TypeForm → Prop
  | .union, ts, t => ∃ us, TypeForm.checkOperands .operand ts = .ok us ∧
      (t ∈ TypeForm.flatten us ∨
        ∃ m vs, t = .union m .subscript vs ∧ ∀ v ∈ vs, v ∈ TypeForm.flatten us)
  | .classVar, _, t => ∃ m u, t = .classVar m u
  | _, _, _ => True

/-- An invariant that no single change to a store breaks. -/
structure Store.Lasting (I : Store → Prop) : Prop where
  objects {st : Store} {os : Array Object} : I st → I { st with objects := os }
  entries {st : Store} {i : Nat} {es : ClassInfo → List (String × Value)} :
    I st → I { st with classes := st.classes.modify i fun k => { k with entries := es k } }
  nextMark {st : Store} {m : Mark} : I st → I { st with nextMark := m }
  shared {st : Store} {former : Former} {operands : List TypeForm} {t : TypeForm} :
    I st → former.Gives operands t → I { st with shared := (former, operands, t) :: st.shared }

/-- Two ways of calling functions under which a lasting invariant lasts, and which are one way as long as it
does.  What they differ in is how code finds the library. -/
structure Runner.UpholdsAlike (run run' : Runner) (I : Store → Prop) : Prop extends Store.Lasting I where
  call {id : Nat} {vs : List Value} {st : Store} : I st → I (run.call id vs st).2
  same {id : Nat} {vs : List Value} {st : Store} : I st → run.call id vs st = run'.call id vs st
  arrayOf : run.arrayOf = run'.arrayOf

/-- A way of calling functions under which a lasting invariant lasts. -/
abbrev Runner.Upholds (run : Runner) (I : Store → Prop) : Prop := run.UpholdsAlike run I

namespace Action

/-- An action does the same with two ways of calling functions, and leaves an invariant true, whether it
succeeds or fails. -/
def KeepsAlike {α : Type} (I : Store → Prop) (run run' : Runner) (x : Action α) : Prop :=
  ∀ st, I st → x.perform run st = x.perform run' st ∧ I (x.perform run st).2

/-- An action leaves an invariant true, whether it succeeds or fails. -/
abbrev Keeps {α : Type} (I : Store → Prop) (run : Runner) (x : Action α) : Prop := KeepsAlike I run run x

variable {α β : Type} {I : Store → Prop} {run run' : Runner} {x : Action α} {k : α → Action β}
  {f : Failure}

/-- With one way of calling functions there is only the invariant to look after. -/
theorem keeps_of_forall (h : ∀ st, I st → I (x.perform run st).2) : Keeps I run x :=
  fun st hst => ⟨rfl, h st hst⟩

section
variable {r : Outcome α} {st st' : Store} (h : KeepsAlike I run run' x) (hst : I st)
  (hx : x.perform run st = (r, st'))
include h hst hx

theorem KeepsAlike.of_perform : I st' := by
  have hkeeps := (h st hst).2
  rwa [hx] at hkeeps

theorem KeepsAlike.perform_eq : x.perform run' st = (r, st') := (h st hst).1.symm.trans hx

end

theorem Keeps.of_perform {r : Outcome α} {st st' : Store} (h : Keeps I run x) (hst : I st)
    (hx : x.perform run st = (r, st')) : I st' :=
  KeepsAlike.of_perform h hst hx

@[grind ←] theorem keeps_pure {a : α} : KeepsAlike I run run' (pure a : Action α) := fun _ h => ⟨rfl, h⟩

@[grind ←] theorem keeps_throw : KeepsAlike I run run' (throw f : Action α) := fun _ h => ⟨rfl, h⟩

@[grind ←] theorem keeps_throwThe : KeepsAlike I run run' (throwThe Failure f : Action α) :=
  fun _ h => ⟨rfl, h⟩

@[grind ←] theorem keeps_fault {e : ErrorKind} : KeepsAlike I run run' (fault e : Action α) :=
  fun _ h => ⟨rfl, h⟩

@[grind ←] theorem keeps_get : KeepsAlike I run run' (get : Action Store) := fun _ h => ⟨rfl, h⟩

@[grind ←] theorem keeps_ofOutcome {r : Outcome α} : KeepsAlike I run run' (ofOutcome r) := by
  cases r <;> exact fun _ h => ⟨rfl, h⟩

@[grind ←] theorem keeps_bind (hx : KeepsAlike I run run' x) (hk : ∀ a, KeepsAlike I run run' (k a)) :
    KeepsAlike I run run' (x >>= k) := by
  intro st h
  rw [perform_bind, perform_bind]
  rcases hrun : x.perform run st with ⟨f | a, st'⟩
  · rw [hx.perform_eq h hrun]
    exact ⟨rfl, hx.of_perform h hrun⟩
  · rw [hx.perform_eq h hrun]
    exact hk a st' (hx.of_perform h hrun)

@[grind ←] theorem keeps_map {g : α → β} (hx : KeepsAlike I run run' x) : KeepsAlike I run run' (g <$> x) := by
  rw [← bind_pure_comp]
  exact keeps_bind hx fun _ => keeps_pure

@[grind ←] theorem keeps_discard (hx : KeepsAlike I run run' x) : KeepsAlike I run run' (discard x) := by
  unfold discard
  exact keeps_map hx

@[grind ←] theorem keeps_mapM {as : List α} {g : α → Action β} (h : ∀ a ∈ as, KeepsAlike I run run' (g a)) :
    KeepsAlike I run run' (as.mapM g) := by
  induction as with
  | nil => exact keeps_pure
  | cons a as ih =>
    rw [List.mapM_cons]
    refine keeps_bind (h a List.mem_cons_self) fun b => ?_
    exact keeps_bind (ih fun a ha => h a (List.mem_cons_of_mem _ ha)) fun _ => keeps_pure

@[grind ←] theorem keeps_foldlM {as : List α} {g : β → α → Action β} {b : β}
    (h : ∀ b, ∀ a ∈ as, KeepsAlike I run run' (g b a)) : KeepsAlike I run run' (as.foldlM g b) := by
  induction as generalizing b with
  | nil => exact keeps_pure
  | cons a as ih =>
    rw [List.foldlM_cons]
    refine keeps_bind (h b a List.mem_cons_self) fun b' => ?_
    exact ih fun b a ha => h b a (List.mem_cons_of_mem _ ha)

@[grind ←] theorem keeps_forIn {as : List α} {g : α → β → Action (ForInStep β)} {b : β}
    (h : ∀ a b, KeepsAlike I run run' (g a b)) : KeepsAlike I run run' (forIn as b g) := by
  induction as generalizing b with
  | nil => exact keeps_pure
  | cons a as ih =>
    rw [List.forIn_cons]
    refine keeps_bind (h a b) fun s => ?_
    cases s with
    | done b => exact keeps_pure
    | yield b => exact ih

@[grind ←] theorem keeps_tryCatch {g : Failure → Action α} (hx : KeepsAlike I run run' x)
    (hg : ∀ f, KeepsAlike I run run' (g f)) : KeepsAlike I run run' (tryCatchThe Failure x g) := by
  intro st h
  rw [perform_tryCatch, perform_tryCatch]
  rcases hrun : x.perform run st with ⟨f | a, st'⟩
  · rw [hx.perform_eq h hrun]
    exact hg f st' (hx.of_perform h hrun)
  · rw [hx.perform_eq h hrun]
    exact ⟨rfl, hx.of_perform h hrun⟩

/-! The ways of changing a store are these, and calls. -/

variable (h : run.UpholdsAlike run' I)
include h

@[grind ←] theorem keeps_arrayContent {v : Value} : KeepsAlike I run run' (arrayContent v) := by
  intro st hst
  refine ⟨?_, hst⟩
  change (run.arrayOf st v, st) = (run'.arrayOf st v, st)
  rw [h.arrayOf]

@[grind ←] theorem keeps_callFunction {id : Nat} {vs : List Value} :
    KeepsAlike I run run' (callFunction id vs) := fun _ hst => ⟨h.same hst, h.call hst⟩

@[grind ←] theorem keeps_allocate {o : Object} : KeepsAlike I run run' (allocate o) :=
  fun _ hst => ⟨rfl, h.objects hst⟩

@[grind ←] theorem keeps_allocateBuiltin {b : Builtin} {p : Payload} :
    KeepsAlike I run run' (allocateBuiltin b p) := keeps_allocate h

@[grind ←] theorem keeps_modifyObject {a : Address} {g : Object → Object} :
    KeepsAlike I run run' (modifyObject a g) := fun _ hst => ⟨rfl, h.objects hst⟩

@[grind ←] theorem keeps_modifyClass {i : Nat} {g : ClassInfo → ClassInfo}
    (hg : ∀ k, g k = { k with entries := (g k).entries }) : KeepsAlike I run run' (modifyClass i g) := by
  rw [funext hg]
  exact fun _ hst => ⟨rfl, h.entries hst⟩

@[grind ←] theorem keeps_freshMark : KeepsAlike I run run' freshMark := fun _ hst => ⟨rfl, h.nextMark hst⟩

end Action

/-! ## §2  Attributes -/

namespace Value

variable {I : Store → Prop} {run run' : Runner} {v e : Value} {name : String}

@[grind ←] theorem keeps_readRoutine {r : Routine} : KeepsAlike I run run' (readRoutine r name) := by
  unfold readRoutine
  grind

variable (h : run.UpholdsAlike run' I)
include h

@[grind ←] theorem keeps_readField : KeepsAlike I run run' (readField v name) := by
  unfold readField
  grind

@[grind ←] theorem keeps_readAuthoritative : KeepsAlike I run run' (readAuthoritative v e) := by
  unfold readAuthoritative
  grind

@[grind ←] theorem keeps_readEntry {c : ClassRef} : KeepsAlike I run run' (readEntry v c e) := by
  unfold readEntry
  grind

@[grind ←] theorem keeps_readClass {c : ClassRef} : KeepsAlike I run run' (readClass c name) := by
  unfold readClass
  grind

@[grind ←] theorem keeps_readInstance : KeepsAlike I run run' (readInstance v name) := by
  unfold readInstance
  grind

@[grind ←] theorem keeps_readAttribute : KeepsAlike I run run' (readAttribute v name) := by
  unfold readAttribute
  grind

@[grind ←] theorem keeps_getAttribute : KeepsAlike I run run' (getAttribute v name) := by
  have hread : KeepsAlike I run run' (readAttribute v name) := keeps_readAttribute h
  unfold getAttribute
  refine keeps_bind keeps_get fun st => ?_
  grind

@[grind ←] theorem keeps_keepField {a : Address} {x : Value} : KeepsAlike I run run' (keepField v a name x) := by
  unfold keepField
  grind

@[grind ←] theorem keeps_storeField {a : Address} {x : Value} :
    KeepsAlike I run run' (storeField v a name x) := by
  unfold storeField
  grind

@[grind ←] theorem keeps_setInstance {a : Address} {x : Value} :
    KeepsAlike I run run' (setInstance v a name x) := by
  unfold setInstance
  grind

@[grind ←] theorem keeps_setAttribute {x : Value} : KeepsAlike I run run' (setAttribute v name x) := by
  unfold setAttribute
  grind

end Value

/-! ## §3  Numbers, arrays and items -/

namespace Value

variable {I : Store → Prop} {run run' : Runner} {v w : Value} {vs ws : List Value}

@[grind ←] theorem keeps_floatOfInt {n : Int} : KeepsAlike I run run' (floatOfInt n) := by
  unfold floatOfInt
  grind

theorem keeps_of_floatOfAtom? {a : Atom} {x : Action Number.Double} (hx : floatOfAtom? a = some x) :
    KeepsAlike I run run' x := by
  unfold floatOfAtom? at hx
  grind

theorem keeps_of_bind_floatOfAtom? {a : Option Atom} {x : Action Number.Double}
    (hx : a.bind floatOfAtom? = some x) : KeepsAlike I run run' x := by
  obtain ⟨a, -, hx⟩ := Option.bind_eq_some_iff.mp hx
  exact keeps_of_floatOfAtom? hx

@[grind ←] theorem keeps_exactInt : KeepsAlike I run run' (exactInt v) := by
  unfold exactInt
  grind

@[grind ←] theorem keeps_exactFloat : KeepsAlike I run run' (exactFloat v) := by
  unfold exactFloat
  grind

@[grind ←] theorem keeps_items : KeepsAlike I run run' (items v) := by
  unfold items
  grind

@[grind ←] theorem keeps_distinctItems : KeepsAlike I run run' (distinctItems vs) := by
  unfold distinctItems
  grind

@[grind ←] theorem keeps_entriesOf : KeepsAlike I run run' (entriesOf vs ws) := by
  unfold entriesOf
  grind

variable (h : run.UpholdsAlike run' I)
include h

@[grind ←] theorem keeps_toIndex : KeepsAlike I run run' (toIndex v) := by
  unfold toIndex
  grind

@[grind ←] theorem keeps_toFloat : KeepsAlike I run run' (toFloat v) := by
  unfold toFloat
  refine keeps_bind keeps_get fun st => ?_
  split
  case h_1 => grind
  case h_2 =>
    split
    case h_1 x hx => exact keeps_of_bind_floatOfAtom? hx
    case h_2 =>
      split
      case h_1 x hx => exact keeps_of_bind_floatOfAtom? hx
      case h_2 => grind

@[grind ←] theorem keeps_toComplex : KeepsAlike I run run' (toComplex v) := by
  unfold toComplex
  grind

@[grind ←] theorem keeps_asArray : KeepsAlike I run run' (asArray v) := by
  unfold asArray
  grind

@[grind ←] theorem keeps_asHostArray : KeepsAlike I run run' (asHostArray v) := by
  unfold asHostArray
  grind

@[grind ←] theorem keeps_asFixed {k : FixedKind} : KeepsAlike I run run' (asFixed k v) := by
  unfold asFixed
  grind

@[grind ←] theorem keeps_itemCount : KeepsAlike I run run' (itemCount v) := by
  unfold itemCount
  grind

@[grind ←] theorem keeps_builtinItemAt {i : Nat} : KeepsAlike I run run' (builtinItemAt v i) := by
  unfold builtinItemAt
  refine keeps_bind keeps_get fun st => ?_
  split <;> grind

@[grind ←] theorem keeps_itemAt {i : Nat} : KeepsAlike I run run' (itemAt v i) := by
  unfold itemAt
  grind

@[grind ←] theorem keeps_wholeOf : KeepsAlike I run run' (wholeOf v) := by
  unfold wholeOf
  grind

end Value

/-! ## §4  Calls -/

namespace Value

variable {I : Store → Prop} {run run' : Runner} {v f : Value} {vs : List Value} {b : Builtin} {c : ClassRef}
  (h : run.UpholdsAlike run' I)
include h

@[grind ←] theorem keeps_atomFor : KeepsAlike I run run' (atomFor b vs) := by
  unfold atomFor
  grind

@[grind ←] theorem keeps_payloadFor : KeepsAlike I run run' (payloadFor b vs) := by
  unfold payloadFor
  grind

@[grind ←] theorem keeps_fillContainer {a : Address} : KeepsAlike I run run' (fillContainer b a vs) := by
  unfold fillContainer
  grind

@[grind ←] theorem keeps_makeObject : KeepsAlike I run run' (makeObject c vs) := by
  unfold makeObject
  grind

@[grind ←] theorem keeps_initialise : KeepsAlike I run run' (initialise v vs) := by
  unfold initialise
  grind

@[grind ←] theorem keeps_construct : KeepsAlike I run run' (construct c vs) := by
  unfold construct
  grind

@[grind ←] theorem keeps_callBuiltin {name : String} : KeepsAlike I run run' (callBuiltin b name v vs) := by
  unfold callBuiltin
  refine keeps_bind keeps_get fun st => ?_
  split <;> grind

@[grind ←] theorem keeps_call : KeepsAlike I run run' (call f vs) := by
  unfold call
  grind

end Value
/-! ## §5  Annotations -/

namespace TypeForm

variable {I : Store → Prop} {run run' : Runner} {ts us : List TypeForm} {t u : TypeForm} {st st' : Store}

/-- What is kept of a list by leaving some items out is of the list. -/
theorem mem_of_mem_kept {leaves : List TypeForm → TypeForm → Bool} {kept : List TypeForm}
    (h : t ∈ ts.foldl (fun kept t => if leaves kept t then kept else kept ++ [t]) kept) :
    t ∈ kept ∨ t ∈ ts := by
  induction ts generalizing kept with
  | nil => exact .inl h
  | cons v ts ih =>
    rw [List.foldl_cons] at h
    rcases ih h with hmem | hmem
    · grind
    · exact .inr (List.mem_cons_of_mem _ hmem)

theorem mem_of_mem_distinct (h : t ∈ distinct ts) : t ∈ ts :=
  (mem_of_mem_kept h).resolve_left List.not_mem_nil

/-- The union of checked members is one of them or holds nothing else. -/
theorem unionOfMembers_ok (h : (unionOfMembers ts).perform run st = (.ok t, st')) :
    t ∈ flatten ts ∨ ∃ m vs, t = .union m .subscript vs ∧ ∀ v ∈ vs, v ∈ flatten ts := by
  unfold unionOfMembers at h
  split at h
  case h_1 t' hts =>
    cases h
    exact .inl (mem_of_mem_distinct (by rw [hts]; exact List.mem_singleton_self _))
  case h_2 =>
    obtain ⟨m, st₁, -, h⟩ := exists_of_perform_bind h
    cases h
    exact .inr ⟨m, _, rfl, fun v => mem_of_mem_distinct⟩

/-- What a union that is formed is made of. -/
theorem union_gives
    (h : Action.perform (do
      if ts.isEmpty then fault .typeError
      let us ← ofOutcome (checkOperands .operand ts)
      unionOfMembers us) run st = (.ok t, st')) : Former.union.Gives ts t := by
  extract_lets rest at h
  have hrest (x : PUnit) (hrun : (rest x).perform run st = (.ok t, st')) :
      Former.union.Gives ts t := by
    obtain ⟨us, st₁, hus, hrun⟩ := exists_of_perform_bind hrun
    rw [perform_ofOutcome] at hus
    exact ⟨us, (Prod.mk.inj hus).1, unionOfMembers_ok hrun⟩
  split at h
  · obtain ⟨x, st₁, h₁, -⟩ := exists_of_perform_bind h
    cases h₁
  · exact hrest () h

/-- A class variable that is formed is one. -/
theorem classVar_gives
    (h : Action.perform (do
      let u ← ofOutcome (checkOperand .operand u)
      return .classVar (← freshMark) u) run st = (.ok t, st')) : Former.classVar.Gives ts t := by
  obtain ⟨v, st₁, -, h⟩ := exists_of_perform_bind h
  obtain ⟨m, st₂, -, h⟩ := exists_of_perform_bind h
  cases h
  exact ⟨m, v, rfl⟩

/-- What is kept for whoever asks again is what the form gives. -/
@[grind ←] theorem keeps_shared {former : Former} {make : Action TypeForm} (h : run.UpholdsAlike run' I)
    (hmake : KeepsAlike I run run' make)
    (hgives : ∀ t st st', make.perform run st = (.ok t, st') → former.Gives ts t) :
    KeepsAlike I run run' (TypeForm.shared former ts make) := by
  unfold TypeForm.shared
  split
  · exact hmake
  refine keeps_bind keeps_get fun st => ?_
  split
  · exact keeps_pure
  · intro st₁ h₁
    rw [perform_bind, perform_bind]
    rcases hrun : make.perform run st₁ with ⟨f | t, st₂⟩
    · rw [hmake.perform_eq h₁ hrun]
      exact ⟨rfl, hmake.of_perform h₁ hrun⟩
    · rw [hmake.perform_eq h₁ hrun]
      exact ⟨rfl, h.shared (hmake.of_perform h₁ hrun) (hgives _ _ _ hrun)⟩

variable (h : run.UpholdsAlike run' I)
include h

@[grind ←] theorem keeps_unionOfMembers : KeepsAlike I run run' (unionOfMembers ts) := by
  unfold unionOfMembers
  grind

@[grind ←] theorem keeps_unionOf : KeepsAlike I run run' (unionOf ts) := by
  unfold unionOf
  exact keeps_shared h (by grind) fun _ _ _ => union_gives

@[grind ←] theorem keeps_classVarOf : KeepsAlike I run run' (classVarOf t) := by
  unfold classVarOf
  exact keeps_shared h (by grind) fun _ _ _ => classVar_gives

@[grind ←] theorem keeps_optionalOf : KeepsAlike I run run' (optionalOf t) := by
  unfold optionalOf
  grind [Former.Gives]

@[grind ←] theorem keeps_finalOf : KeepsAlike I run run' (finalOf t) := by
  unfold finalOf
  grind [Former.Gives]

@[grind ←] theorem keeps_annotatedOf {notes : List String} : KeepsAlike I run run' (annotatedOf t notes) := by
  unfold annotatedOf
  grind [Former.Gives]

@[grind ←] theorem keeps_callableOf : KeepsAlike I run run' (callableOf ts t) := by
  unfold callableOf
  grind [Former.Gives]

@[grind ←] theorem keeps_literalOf {vs : List Foreign} : KeepsAlike I run run' (literalOf vs) := by
  unfold literalOf
  grind [Former.Gives]

@[grind ←] theorem keeps_genericAliasOf {c : ClassRef} {n : Option Nat} :
    KeepsAlike I run run' (genericAliasOf c n ts) := by
  unfold genericAliasOf
  grind [Former.Gives]

@[grind ←] theorem keeps_directAliasOf {c : ClassRef} : KeepsAlike I run run' (directAliasOf c ts) := by
  unfold directAliasOf
  grind

@[grind ←] theorem keeps_classAliasOf {c : ClassRef} : KeepsAlike I run run' (classAliasOf c ts) := by
  unfold classAliasOf
  refine keeps_bind keeps_get fun st => ?_
  split
  · exact keeps_directAliasOf h
  split
  · split
    · grind [Former.Gives]
    · split <;> grind [Former.Gives]
  · exact keeps_directAliasOf h
  · exact keeps_fault

@[grind ←] theorem keeps_barOf : KeepsAlike I run run' (barOf t u) := by
  unfold barOf
  grind

@[grind ←] theorem keeps_barsOf : KeepsAlike I run run' (barsOf ts) := by
  unfold barsOf
  grind

@[grind ←] theorem keeps_subscriptOf : KeepsAlike I run run' (subscriptOf t ts) := by
  unfold subscriptOf
  grind

end TypeForm

/-! ## §6  Programs -/

variable {I : Store → Prop} {run run' : Runner} {scope : Scope} {v w : Value} {vs : List Value}

@[grind ←] theorem keeps_multiply : KeepsAlike I run run' (Value.multiply v w) := by
  have hreal (a : Atom) (x : Action Number.Double) (hx : Value.realOfAtom? a = some x) :
      KeepsAlike I run run' x := by
    unfold Value.realOfAtom? at hx
    split at hx
    · cases hx
      exact keeps_pure
    · obtain ⟨n, -, rfl⟩ := Option.map_eq_some_iff.mp hx
      exact Value.keeps_floatOfInt
  unfold Value.multiply
  refine keeps_bind keeps_get fun st => ?_
  split
  · split
    · exact keeps_pure
    · split
      case h_1 x y hx hy =>
        exact keeps_bind (hreal _ x hx) fun _ => keeps_bind (hreal _ y hy) fun _ => keeps_pure
      case h_2 => exact keeps_fault
  · exact keeps_fault

@[grind ←] theorem keeps_addAtoms {a b : Atom} : KeepsAlike I run run' (Value.addAtoms a b) := by
  have hreal (a : Atom) :
      KeepsAlike I run run' ((Value.floatOfAtom? a).getD (fault .typeError)) := by
    cases hx : Value.floatOfAtom? a with
    | none => exact keeps_fault
    | some x => exact Value.keeps_of_floatOfAtom? hx
  unfold Value.addAtoms
  split
  · exact keeps_pure
  · exact keeps_pure
  · split
    · exact keeps_pure
    · split <;> grind

@[grind ←] theorem keeps_receiver : KeepsAlike I run run' scope.receiver := by
  unfold Scope.receiver
  grind

@[grind ←] theorem keeps_add (h : run.UpholdsAlike run' I) : KeepsAlike I run run' (Value.add v w) := by
  unfold Value.add
  grind

@[grind ←] theorem keeps_apply (h : run.UpholdsAlike run' I) {former : Former} :
    KeepsAlike I run run' (former.apply vs) := by
  unfold Former.apply
  grind

mutual
/-- **Evaluating an expression keeps a lasting invariant**. -/
theorem Expr.keeps_eval (h : run.UpholdsAlike run' I) (scope : Scope) :
    (e : Expr) → KeepsAlike I run run' (e.eval scope)
  | .constant _ | .variable _ | .named _ | .fail _ => by
    unfold Expr.eval
    grind
  | .member e _ | .replicate e _ | .array e | .hostArray e | .fixed _ e => by
    have he := Expr.keeps_eval h scope e
    unfold Expr.eval
    grind
  | .product e f => by
    have he := Expr.keeps_eval h scope e
    have hf := Expr.keeps_eval h scope f
    unfold Expr.eval
    grind
  | .list es | .tuple es | .set es | .sum es | .form _ es => by
    have hes := Expr.keeps_evalAll h scope es
    unfold Expr.eval
    grind
  | .dict ks es => by
    have hks := Expr.keeps_evalAll h scope ks
    have hes := Expr.keeps_evalAll h scope es
    unfold Expr.eval
    grind
  | .call e es => by
    have he := Expr.keeps_eval h scope e
    have hes := Expr.keeps_evalAll h scope es
    unfold Expr.eval
    grind

theorem Expr.keeps_evalAll (h : run.UpholdsAlike run' I) (scope : Scope) :
    (es : List Expr) → KeepsAlike I run run' (Expr.evalAll scope es)
  | [] => keeps_pure
  | e :: es => by
    have he := Expr.keeps_eval h scope e
    have hes := Expr.keeps_evalAll h scope es
    unfold Expr.evalAll
    grind
end

attribute [grind ←] Expr.keeps_eval Expr.keeps_evalAll

section
variable (h : run.UpholdsAlike run' I)
include h

@[grind ←] theorem keeps_bindParameters {ps : List Parameter} : KeepsAlike I run run' (bindParameters ps vs) := by
  induction ps generalizing vs with
  | nil =>
    unfold bindParameters
    grind
  | cons p ps ih =>
    unfold bindParameters
    grind

@[grind ←] theorem keeps_execAll {ss : List Stmt} : KeepsAlike I run run' (Stmt.execAll scope ss) := by
  induction ss with
  | nil => exact keeps_pure
  | cons s ss ih =>
    unfold Stmt.execAll
    split
    case h_3 n e =>
      refine keeps_bind keeps_receiver fun self => keeps_bind (Value.keeps_getAttribute h) fun xs => ?_
      grind
    all_goals grind

@[grind ←] theorem keeps_fillFields {bound : List (String × Value)} {names : List String} :
    KeepsAlike I run run' (fillFields bound names) := by
  unfold fillFields
  split
  case h_1 a _ =>
    refine keeps_bind (keeps_forIn fun n _ => ?_) fun _ => keeps_pure
    grind
  case h_2 => exact keeps_fault

@[grind ←] theorem keeps_followProtocolInit : KeepsAlike I run run' (followProtocolInit vs) := by
  unfold followProtocolInit
  split
  case h_1 self rest =>
    refine keeps_bind keeps_get fun st => ?_
    dsimp only
    split
    · exact keeps_fault
    · split
      · refine keeps_bind (keeps_modifyClass h fun _ => rfl) fun _ => ?_
        grind
      · exact keeps_fault
  case h_2 => exact keeps_fault

@[grind ←] theorem keeps_run {f : Function} : KeepsAlike I run run' (f.run vs) := by
  unfold Function.run
  grind

end

/-- **A lasting invariant is true after every call**, however deep it goes and whether it succeeds. -/
theorem Store.Lasting.upholds (h : Store.Lasting I) (depth : Nat) : (runFunction depth).Upholds I := by
  refine ⟨h, ?_, fun _ => rfl, rfl⟩
  induction depth with
  | zero => exact fun hst => hst
  | succ depth ih => exact fun {_ _} st hst => (keeps_run ⟨h, ih, fun _ => rfl, rfl⟩ st hst).2

/-! ## §7  Looking annotations up -/

namespace Hints

variable (h : run.UpholdsAlike run' I)
include h

theorem keeps_evaluating (scope : Scope) (fuel : Nat) :
    (∀ seen t, KeepsAlike I run run' (evaluate scope fuel seen t)) ∧
      (∀ seen ts, KeepsAlike I run run' (evaluateAll scope fuel seen ts)) ∧
      ∀ seen place s, KeepsAlike I run run' (evaluateText scope fuel seen place s) := by
  induction fuel with
  | zero => exact ⟨fun _ _ => keeps_fault, fun _ _ => keeps_fault, fun _ _ _ => keeps_fault⟩
  | succ fuel ih =>
    obtain ⟨hone, hall, htext⟩ := ih
    refine ⟨fun seen t => ?_, fun seen ts => ?_, fun seen place s => ?_⟩
    · unfold evaluate rejoin
      split <;> grind
    · unfold evaluateAll
      split <;> grind
    · unfold evaluateText
      grind

theorem keeps_stripping (fuel : Nat) :
    (∀ t, KeepsAlike I run run' (strip fuel t)) ∧ ∀ ts, KeepsAlike I run run' (stripAll fuel ts) := by
  induction fuel with
  | zero => exact ⟨fun _ => keeps_pure, fun _ => keeps_pure⟩
  | succ fuel ih =>
    obtain ⟨hone, hall⟩ := ih
    refine ⟨fun t => ?_, fun ts => ?_⟩
    · unfold strip rejoin
      split <;> grind
    · unfold stripAll
      split <;> grind

@[grind ←] theorem keeps_lookUp {place : TypeForm.Place} {t : TypeForm} :
    KeepsAlike I run run' (lookUp scope place t) := by
  have hdepth := keeps_evaluating h scope depth
  unfold lookUp
  grind

@[grind ←] theorem keeps_strip {t : TypeForm} : KeepsAlike I run run' (strip depth t) :=
  (keeps_stripping h depth).1 t

end Hints
end MemberAccess
