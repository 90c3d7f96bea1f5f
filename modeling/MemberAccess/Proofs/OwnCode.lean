import MemberAccess.Proofs.FittingConversions
import MemberAccess.Proofs.SpecialMethods

/-!
# Code that a value brings with it

Looking at a value and converting it is mostly reading.  Code of a program runs in two places only: a
protocol, or an access, reads an attribute from a value whose class has a say in that, and a number is
taken out of a value whose class has a special method for it.  All else leaves the store as it is, or
puts a new array into it.

`Action.Tame` says what comes of this: in a store that keeps to an invariant an action does the same with
two ways of calling functions, leaves a store that keeps to it, and fails only as is allowed.  Whoever
vouches for the code that a value brings with it has all looks and built-in conversions of the value tame.
Where there is no such code, there is nothing to vouch for, and no look and no conversion calls anything.
-/

namespace MemberAccess

open MemberAccess.Action Number

/-! ## §1  Tame actions -/

namespace Action

/-- **An action is tame in a store**: two ways of calling functions make no difference to it, it keeps an
invariant, and it fails only as `F` allows. -/
structure Tame {α : Type} (run run' : Runner) (I : Store → Prop) (F : Failure → Prop) (x : Action α)
    (st : Store) : Prop where
  same : x.perform run st = x.perform run' st
  keeps : I (x.perform run st).2
  fails : ∀ f, (x.perform run st).1 = .error f → F f

/-- Failures are restricted only where they refuse a value. -/
def SparesFaults (F : Failure → Prop) : Prop :=
  ∀ f : Failure, f.isA .argumentTypeMismatch = false → F f

section
variable {α β : Type} {run run' : Runner} {I : Store → Prop} {F F' : Failure → Prop} {x : Action α}
  {k : α → Action β} {st : Store} {f : Failure}

theorem tame_pure (h : I st) {a : α} : Tame run run' I F (pure a) st := ⟨rfl, h, nofun⟩

theorem tame_throw (h : I st) (hf : F f) : Tame run run' I F (throw f : Action α) st := by
  refine ⟨rfl, h, ?_⟩
  intro g hg
  cases hg
  exact hf

theorem tame_fault (hF : SparesFaults F) (h : I st) {e : ErrorKind}
    (he : e.isA .argumentTypeMismatch = false) : Tame run run' I F (fault e : Action α) st :=
  tame_throw h (hF _ he)

theorem tame_ofOutcome (h : I st) {r : Outcome α} (hr : ∀ f, r = .error f → F f) :
    Tame run run' I F (ofOutcome r) st := by
  cases r with
  | ok a => exact tame_pure h
  | error f => exact tame_throw h (hr f rfl)

/-- What becomes of an action that is tame with any functions becomes of it with all of them, where the array
library stays the same. -/
theorem Tame.of_perform {st' : Store} {r : Outcome α}
    (hx : ∀ run' : Runner, run.arrayOf = run'.arrayOf → Tame run run' I F x st)
    (hrun : x.perform run st = (r, st')) :
    I st' ∧ (∀ f, r = .error f → F f) ∧
      ∀ run' : Runner, run.arrayOf = run'.arrayOf → x.perform run' st = (r, st') := by
  have hkeeps := (hx run rfl).keeps
  have hfails := (hx run rfl).fails
  rw [hrun] at hkeeps hfails
  exact ⟨hkeeps, hfails, fun run' harray => (hx run' harray).same.symm.trans hrun⟩

/-- What runs after a tame action has to be tame after what that action comes to. -/
theorem Tame.bind_of_perform (hx : Tame run run' I F x st)
    (hk : ∀ a st', x.perform run st = (.ok a, st') → I st' → Tame run run' I F (k a) st') :
    Tame run run' I F (x >>= k) st := by
  have hsame := hx.same
  have hkeeps := hx.keeps
  have hfails := hx.fails
  rcases hrun : x.perform run st with ⟨f | a, st'⟩
  · rw [hrun] at hsame hkeeps hfails
    refine ⟨by rw [perform_bind_error hrun, perform_bind_error hsame.symm], ?_, ?_⟩
    · rw [perform_bind_error hrun]
      exact hkeeps
    · intro g hg
      rw [perform_bind_error hrun] at hg
      cases hg
      exact hfails f rfl
  · rw [hrun] at hsame hkeeps
    have hrest := hk a st' hrun hkeeps
    refine ⟨?_, ?_, ?_⟩
    · rw [perform_bind_ok hrun, perform_bind_ok hsame.symm, hrest.same]
    · rw [perform_bind_ok hrun]
      exact hrest.keeps
    · rw [perform_bind_ok hrun]
      exact hrest.fails

theorem Tame.bind (hx : Tame run run' I F x st) (hk : ∀ a st', I st' → Tame run run' I F (k a) st') :
    Tame run run' I F (x >>= k) st :=
  hx.bind_of_perform fun a st' _ => hk a st'

/-- Looking at the store is looking at the store that there is. -/
theorem tame_get_bind {k : Store → Action β} (h : Tame run run' I F (k st) st) :
    Tame run run' I F (get >>= k) st :=
  ⟨h.same, h.keeps, h.fails⟩

/-- What a handler is given is what the action may fail with. -/
theorem Tame.tryCatch {h : Failure → Action α} (hx : Tame run run' I F' x st)
    (hh : ∀ f st', F' f → I st' → Tame run run' I F (h f) st') :
    Tame run run' I F (tryCatchThe Failure x h) st := by
  have hsame := hx.same
  have hkeeps := hx.keeps
  have hfails := hx.fails
  rcases hrun : x.perform run st with ⟨f | a, st'⟩
  · rw [hrun] at hsame hkeeps hfails
    have hrest := hh f st' (hfails f rfl) hkeeps
    refine ⟨?_, ?_, ?_⟩
    · rw [perform_tryCatch, perform_tryCatch, hrun, ← hsame]
      exact hrest.same
    · rw [perform_tryCatch, hrun]
      exact hrest.keeps
    · rw [perform_tryCatch, hrun]
      exact hrest.fails
  · rw [hrun] at hsame hkeeps
    refine ⟨?_, ?_, ?_⟩
    · rw [perform_tryCatch, perform_tryCatch, hrun, ← hsame]
    · rw [perform_tryCatch, hrun]
      exact hkeeps
    · rw [perform_tryCatch, hrun]
      nofun

theorem Tame.mono (hx : Tame run run' I F x st) (himp : ∀ f, F f → F' f) :
    Tame run run' I F' x st :=
  ⟨hx.same, hx.keeps, fun f hf => himp f (hx.fails f hf)⟩

theorem Tame.weaken {J : Store → Prop} (hx : Tame run run' I F x st) (himp : ∀ st, I st → J st) :
    Tame run run' J F x st :=
  ⟨hx.same, himp _ hx.keeps, hx.fails⟩

/-- A new object is put into the store. -/
theorem tame_allocate (h : ∀ o, I (st.allocate o).1) {o : Object} :
    Tame run run' I F (allocate o) st :=
  ⟨rfl, h o, nofun⟩

end

end Action

/-! ## §2  Reading attributes -/

/-- **The calls that reading an attribute of a value can make**: of the methods by which its class takes part,
of the getter of a property, and of what stands in a class and wants to be asked. -/
inductive Store.ReadCall (st : Store) (v : Value) (name : String) : Nat → List Value → Prop
  | whole {id : Nat} : st.specialMethod? v "__getattribute__" = some id →
      ReadCall st v name id [v, .text name]
  | missing {id : Nat} : st.specialMethod? v "__getattr__" = some id → ReadCall st v name id [v, .text name]
  | getter {id : Nat} : st.getter? v name = some id → ReadCall st v name id [v]
  | ofInstance {id : Nat} {e : Value} : st.Shows v name e → st.specialMethod? e "__get__" = some id →
      ReadCall st v name id [e, v, .cls (st.classOf v)]
  | ofClass {id : Nat} {e : Value} : st.Shows v name e → st.specialMethod? e "__get__" = some id →
      ReadCall st v name id [e, .nothing, v]

/-- No call is made for an attribute that no code comes with. -/
theorem Store.ReadsFreely.not_readCall {st : Store} {v : Value} {name : String} {id : Nat} {args : List Value}
    (h : st.ReadsFreely v name) : ¬ st.ReadCall v name id args := by
  intro hcall
  cases hcall with
  | whole hid =>
    rw [specialMethod?_of_overrides h.getAttribute] at hid
    cases hid
  | missing hid =>
    rw [specialMethod?_of_overrides h.getMissing] at hid
    cases hid
  | getter hid =>
    rw [h.getter] at hid
    cases hid
  | ofInstance hshows hid | ofClass hshows hid =>
    rw [specialMethod?_of_overrides (h.shown hshows).2] at hid
    cases hid

section
variable (run run' : Runner) (I : Store → Prop) (F : Failure → Prop)

/-- The calls that reading an attribute of a value makes are tame. -/
def Value.ReadsTamely (v : Value) (name : String) : Prop :=
  ∀ st st', I st → I st' → ∀ id args, st.ReadCall v name id args →
    Tame run run' I F (callFunction id args) st'

/-- The special methods that conversions of a value run are tame. -/
def Value.ConvertsTamely (v : Value) : Prop :=
  ∀ st, I st → ∀ n ∈ ["__index__", "__float__", "__complex__"], ∀ id,
    st.specialMethod? v n = some id → Tame run run' I F (callFunction id [v]) st

end

namespace Value

variable {run run' : Runner} {I : Store → Prop} {F : Failure → Prop} {v : Value} {name : String}
  {st : Store} (hF : SparesFaults F) (hnew : Store.SparesNew I) (h : I st)
include hF h

theorem tame_readClass {c : ClassRef} (hread : (Value.cls c).ReadsTamely run run' I F name) :
    Tame run run' I F (readClass c name) st := by
  unfold readClass
  refine tame_get_bind ?_
  split
  · exact tame_pure h
  split
  · exact tame_pure h
  split
  case h_1 k e hfound =>
    cases hget : st.specialMethod? e "__get__" with
    | some id => exact hread st st h h id _ (.ofClass ⟨k, .inr ⟨c, rfl, hfound⟩⟩ hget)
    | none => exact tame_pure h
  split
  · exact tame_pure h
  · exact tame_fault hF h rfl

omit hF in
theorem tame_readRoutine {r : Routine} : Tame run run' I F (readRoutine r name) st := by
  unfold readRoutine
  refine tame_get_bind ?_
  split <;> exact tame_pure h

include hnew

theorem tame_readField : Tame run run' I F (readField v name) st := by
  unfold readField
  refine tame_get_bind ?_
  split
  · exact tame_pure h
  split
  · split
    · exact tame_allocate fun o => hnew st o h
    · exact tame_fault hF h rfl
  split
  · exact tame_pure h
  · exact tame_fault hF h rfl

omit hF hnew in
/-- What stands in the class of a value gives what it holds, or is asked. -/
theorem tame_readEntry {k : ClassRef} {e : Value} (hfound : st.lookup? (st.classOf v) name = some (k, e))
    (hread : v.ReadsTamely run run' I F name) : Tame run run' I F (readEntry v (st.classOf v) e) st := by
  unfold readEntry
  refine tame_get_bind ?_
  cases hget : st.specialMethod? e "__get__" with
  | some id => exact hread st st h h id _ (.ofInstance ⟨k, .inl hfound⟩ hget)
  | none => exact tame_pure h

/-- An attribute of what is no class is read: a property among the entries of the class is run. -/
theorem tame_readInstance (hread : v.ReadsTamely run run' I F name) :
    Tame run run' I F (readInstance v name) st := by
  unfold readInstance
  refine tame_get_bind ?_
  dsimp only
  cases hentry : st.lookup? (st.classOf v) name with
  | none =>
    dsimp only
    split
    · exact tame_pure h
    · exact tame_fault hF h rfl
  | some found =>
    obtain ⟨k, e⟩ := found
    dsimp only
    split
    case isFalse =>
      split
      · exact tame_readEntry h hentry hread
      split
      · exact tame_pure h
      · exact tame_readEntry h hentry hread
    case isTrue =>
      unfold readAuthoritative
      split
      case h_1 p _ =>
        refine tame_get_bind ?_
        cases hgetter : (st.properties[p]?.getD default).getter with
        | none => exact tame_fault hF h rfl
        | some g => exact hread st st h h g _ (.getter (by rw [Store.getter?, hentry, ← hgetter]))
      case h_2 =>
        split
        · refine tame_get_bind ?_
          split
          · exact tame_pure h
          · exact tame_fault hF h rfl
        · exact tame_fault hF h rfl
      case h_3 => exact tame_readField hF hnew h
      case h_4 => exact tame_fault hF h rfl

theorem tame_readAttribute (hread : v.ReadsTamely run run' I F name) :
    Tame run run' I F (v.readAttribute name) st := by
  have hinstance {st' : Store} (h' : I st') : Tame run run' I F (readInstance v name) st' :=
    tame_readInstance hF hnew h' hread
  unfold readAttribute
  split
  · exact tame_readClass hF h hread
  · split
    · exact tame_pure h
    split
    · exact tame_pure h
    split
    · exact tame_pure h
    split
    · exact tame_pure h
    · exact tame_fault hF h rfl
  · refine (tame_readRoutine h).bind ?_
    intro x st' h'
    split
    · exact tame_pure h'
    · exact hinstance h'
  · split
    · exact tame_pure h
    split
    · exact tame_pure h
    refine (tame_readRoutine h).bind ?_
    intro x st' h'
    split
    · exact tame_pure h'
    · exact hinstance h'
  · exact hinstance h

/-- So does the method that reads every attribute, where there is one. -/
theorem tame_readWhole (hread : v.ReadsTamely run run' I F name) :
    Tame run run' I F (match st.specialMethod? v "__getattribute__" with
      | some id => callFunction id [v, .text name]
      | none => v.readAttribute name) st := by
  cases hid : st.specialMethod? v "__getattribute__" with
  | some id => exact hread st st h h id _ (.whole hid)
  | none => exact tame_readAttribute hF hnew h hread

/-- **Reading an attribute makes no calls but those that have a part in it.** -/
theorem tame_getAttribute (hread : v.ReadsTamely run run' I F name) :
    Tame run run' I F (v.getAttribute name) st := by
  unfold getAttribute
  refine tame_get_bind ?_
  dsimp only
  have hwhole := tame_readWhole hF hnew h hread
  cases hid : st.specialMethod? v "__getattr__" with
  | none => exact hwhole
  | some id =>
    refine hwhole.tryCatch ?_
    intro f st' hf h'
    split
    · exact hread st st' h h' id _ (.missing hid)
    · exact tame_throw h' hf

/-! ## §3  Looking at values -/

omit hF hnew h in
/-- Whether the calls that testing a value for a class makes are tame: those that reading what a protocol
asks for makes. -/
def LooksTamely (run run' : Runner) (I : Store → Prop) (F : Failure → Prop) (v : Value)
    (c : ClassRef) : Prop :=
  ∀ st, I st → st.isProtocol c = true → ∀ n ∈ st.protocolMembers c, v.ReadsTamely run run' I F n

omit hF hnew h in
theorem LooksTamely.mono {F' : Failure → Prop} {c : ClassRef} (hlook : v.LooksTamely run run' I F c)
    (himp : ∀ f, F f → F' f) : v.LooksTamely run run' I F' c :=
  fun st h hp n hn st₁ st₂ h₁ h₂ id args hcall => (hlook st h hp n hn st₁ st₂ h₁ h₂ id args hcall).mono himp

theorem tame_hasMember (hread : v.ReadsTamely run run' I F name) {mayBeAbsent : Bool} :
    Tame run run' I F (v.hasMember mayBeAbsent name) st := by
  unfold hasMember
  have hthere : Tame run run' I F (do discard (v.getAttribute name); return true) st := by
    refine ((tame_getAttribute hF hnew h hread).bind ?_).bind ?_
    · intro _ _ h'
      exact tame_pure h'
    · intro _ _ h'
      exact tame_pure h'
  refine (hthere.tryCatch ?_).bind ?_
  · intro f st' hf h'
    split
    · exact tame_pure h'
    · exact tame_throw h' hf
  · intro isThere st' h'
    split
    · exact tame_pure h'
    split
    · exact tame_pure h'
    · refine (tame_getAttribute hF hnew h' hread).bind ?_
      intro x st'' h''
      exact tame_pure h''

theorem tame_hasMembers {c : ClassRef} {names : List String}
    (hread : ∀ n ∈ names, v.ReadsTamely run run' I F n) :
    Tame run run' I F (v.hasMembers c names) st := by
  induction names generalizing st with
  | nil => exact tame_pure h
  | cons n ns ih =>
    rw [hasMembers]
    refine tame_get_bind ?_
    refine (tame_hasMember hF hnew h (hread n (by simp))).bind ?_
    intro b st' h'
    cases b with
    | true => exact ih h' fun n' hn' => hread n' (by simp [hn'])
    | false => exact tame_pure h'

/-- **Testing a value for a class makes no calls but to read what a protocol asks for.** -/
theorem tame_isInstance {c : ClassRef} (hlook : v.LooksTamely run run' I F c) :
    Tame run run' I F (v.isInstance c) st := by
  unfold isInstance
  refine tame_get_bind ?_
  dsimp only
  split
  case h_1 i =>
    split
    · exact tame_pure h
    case isFalse hp =>
      split
      · exact tame_pure h
      split
      · exact tame_fault hF h rfl
      split
      · exact tame_pure h
      have hprotocol : st.isProtocol (.user i) = true := by
        change (st.classInfo i).isProtocol = true
        simpa using hp
      refine (tame_hasMembers hF hnew h (hlook st h hprotocol)).bind ?_
      intro b st' h'
      split
      · exact tame_pure h'
      · exact tame_pure h'
  case h_2 | h_3 => exact tame_fault hF h rfl
  case h_4 b _ _ =>
    refine tame_ofOutcome h ?_
    intro f hf
    -- only protocols refuse to be asked for
    unfold Store.subclassTest at hf
    split at hf
    case h_1 => exact nomatch ‹ClassRef.builtin b = ClassRef.user _›
    case h_2 => cases hf
    case h_3 => split at hf <;> cases hf

omit hF hnew h in
/-- Whether testing a value for a class is tame. -/
def TestsTamely (run run' : Runner) (I : Store → Prop) (F : Failure → Prop) (v : Value)
    (c : ClassRef) : Prop :=
  ∀ st, I st → Tame run run' I F (v.isInstance c) st

omit h in
theorem LooksTamely.tests {c : ClassRef} (hlook : v.LooksTamely run run' I F c) :
    v.TestsTamely run run' I F c :=
  fun _ h => tame_isInstance hF hnew h hlook

omit hF hnew in
theorem tame_isInstanceOfSome {cs : List ClassRef} (htests : ∀ c ∈ cs, v.TestsTamely run run' I F c) :
    Tame run run' I F (v.isInstanceOfSome cs) st := by
  induction cs generalizing st with
  | nil => exact tame_pure h
  | cons c cs ih =>
    rw [isInstanceOfSome]
    refine (htests c (by simp) st h).bind ?_
    intro b st' h'
    split
    · exact tame_pure h'
    · exact ih h' fun c' hc' => htests c' (by simp [hc'])

end Value

/-! ## §4  Taking numbers and arrays out of values -/

/-- What refuses a value refuses what has the wrong type. -/
theorem Failure.isA_typeError {f : Failure} (h : f.isA .argumentTypeMismatch = true) :
    f.isA .typeError = true := by
  unfold isA at h ⊢
  generalize f.kind = k at h ⊢
  cases k <;> first | rfl | cases h

namespace Value

variable {run run' : Runner} {I : Store → Prop} {F : Failure → Prop} {v : Value} {place : String}
  {st : Store}

theorem ConvertsTamely.mono {F' : Failure → Prop} (hconvert : v.ConvertsTamely run run' I F)
    (himp : ∀ f, F f → F' f) : v.ConvertsTamely run run' I F' :=
  fun st h n hn id hid => (hconvert st h n hn id hid).mono himp

section
variable (hF : SparesFaults F) (h : I st)
include hF h

theorem tame_floatOfInt {n : Int} : Tame run run' I F (floatOfInt n) st := by
  unfold floatOfInt
  split
  · exact tame_pure h
  · exact tame_fault hF h rfl

theorem tame_floatOfAtom {a : Atom} {x : Action Double} (hx : floatOfAtom? a = some x) :
    Tame run run' I F x st := by
  unfold floatOfAtom? at hx
  split at hx <;> cases hx
  case h_3 | h_6 | h_7 | h_10 => exact tame_pure h
  case h_4 | h_5 | h_11 =>
    split
    · exact tame_pure h
    · exact tame_fault hF h rfl
  all_goals exact tame_floatOfInt hF h

variable (hconvert : v.ConvertsTamely run run' I F)
include hconvert

theorem tame_toIndex : Tame run run' I F v.toIndex st := by
  unfold toIndex
  refine tame_get_bind ?_
  split
  case h_1 id hid =>
    refine (hconvert st h "__index__" (by simp) id hid).bind ?_
    intro w st' h'
    unfold exactInt
    refine tame_get_bind ?_
    split
    · exact tame_pure h'
    · exact tame_pure h'
    · exact tame_fault hF h' rfl
  case h_2 =>
    split
    · exact tame_pure h
    · exact tame_pure h
    · exact tame_pure h
    split
    · exact tame_pure h
    · exact tame_pure h
    · exact tame_fault hF h rfl

theorem tame_toFloat : Tame run run' I F v.toFloat st := by
  unfold toFloat
  refine tame_get_bind ?_
  split
  case h_1 id hid =>
    refine (hconvert st h "__float__" (by simp) id hid).bind ?_
    intro w st' h'
    unfold exactFloat
    refine tame_get_bind ?_
    split
    · exact tame_pure h'
    · exact tame_pure h'
    · exact tame_fault hF h' rfl
  case h_2 =>
    split
    case h_1 x hx =>
      obtain ⟨a, -, hx⟩ := Option.bind_eq_some_iff.mp hx
      exact tame_floatOfAtom hF h hx
    split
    case h_1 x hx =>
      obtain ⟨a, -, hx⟩ := Option.bind_eq_some_iff.mp hx
      exact tame_floatOfAtom hF h hx
    split
    · refine (tame_toIndex hF h hconvert).bind ?_
      intro n st' h'
      exact tame_floatOfInt hF h'
    · exact tame_fault hF h rfl

theorem tame_toComplex : Tame run run' I F v.toComplex st := by
  unfold toComplex
  refine tame_get_bind ?_
  dsimp only
  split
  case h_1 id hid =>
    refine tame_get_bind ?_
    refine (hconvert st h "__complex__" (by simp) id hid).bind ?_
    intro w st' h'
    split
    · exact tame_pure h'
    · exact tame_fault hF h' rfl
  case h_2 =>
    split
    · exact tame_pure h
    · exact tame_pure h
    · refine (tame_toFloat hF h hconvert).bind ?_
      intro x st' h'
      exact tame_pure h'

end

/-- Making an array of a value calls no functions. -/
theorem tame_asArray (harray : run.arrayOf = run'.arrayOf) (hnew : Store.SparesNew I) (h : I st) :
    Tame run run' I (fun _ => True) v.asArray st := by
  have hcontent : Tame run run' I (fun _ => True) (arrayContent v) st := by
    refine ⟨?_, h, fun _ _ => trivial⟩
    change (run.arrayOf st v, st) = (run'.arrayOf st v, st)
    rw [harray]
  unfold asArray
  refine tame_get_bind ?_
  split
  · exact tame_pure h
  · refine hcontent.bind ?_
    intro c st' h'
    exact tame_allocate fun o => hnew st' o h'

/-! ## §5  Taking items out of sequences -/

section
variable (hF : SparesFaults F) (h : I st)
include hF h

theorem tame_items : Tame run run' I F v.items st := by
  unfold items
  refine tame_get_bind ?_
  split
  · exact tame_pure h
  · exact tame_pure h
  · exact tame_pure h
  · exact tame_fault hF h rfl
  split
  · split
    · exact tame_pure h
    · exact tame_pure h
    · exact tame_pure h
    · exact tame_pure h
    · exact tame_fault hF h rfl
  · exact tame_fault hF h rfl

/-- A sequence is counted without a call where its class has no method for it. -/
theorem tame_itemCount (hcount : st.specialMethod? v "__len__" = none) :
    Tame run run' I F v.itemCount st := by
  unfold itemCount
  refine tame_get_bind ?_
  rw [hcount]
  dsimp only
  split
  · split
    · exact tame_pure h
    · exact tame_fault hF h rfl
  · refine (tame_items hF h).bind ?_
    intro xs st' h'
    exact tame_pure h'

/-- So is an item taken that is picked from all of them. -/
theorem tame_pickedItem {i : Nat} : Tame run run' I F (do
    match (← v.items)[i]? with
    | some x => return x
    | none => fault .indexError : Action Value) st := by
  refine (tame_items hF h).bind ?_
  intro xs st' h'
  split
  · exact tame_pure h'
  · exact tame_fault hF h' rfl

/-- An item is taken without a call where the class of the sequence has no method for it. -/
theorem tame_itemAt (hnew : Store.SparesNew I) (hitem : st.specialMethod? v "__getitem__" = none)
    (hmissing : st.specialMethod? v "__missing__" = none) {i : Nat} :
    Tame run run' I F (v.itemAt i) st := by
  unfold itemAt
  refine tame_get_bind ?_
  rw [hitem]
  unfold builtinItemAt
  refine tame_get_bind ?_
  split
  · split
    case h_1 | h_2 =>
      split
      · exact tame_pure h
      · exact tame_fault hF h rfl
    case h_3 =>
      rw [hmissing]
      split
      · exact tame_pure h
      · exact tame_fault hF h rfl
    case h_4 =>
      split
      · exact tame_allocate fun o => hnew st o h
      · exact tame_fault hF h rfl
    case h_5 => exact tame_pickedItem hF h
    case h_6 => exact tame_fault hF h rfl
  case h_2 | h_3 | h_4 => exact tame_pickedItem hF h
  case h_5 => exact tame_fault hF h rfl

end

/-! ## §6  Conversions -/

section
variable (hF : SparesFaults F) (hrefuse : ∀ e t, F (.argumentMismatch place e t)) (h : I st)
include hrefuse h

theorem tame_refuse {α : Type} {e : String} : Tame run run' I F (v.refuse place e : Action α) st := by
  refine ⟨rfl, h, ?_⟩
  intro f hf
  cases hf
  exact hrefuse e _

include hF

omit h in
/-- What is refused for its type is refused here, so that only other failures come through. -/
theorem tame_orRefuse {α : Type} {e : String} {kinds : List ErrorKind} {x : Action α}
    (hkinds : .typeError ∈ kinds) (hx : Tame run run' I (fun _ => True) x st) :
    Tame run run' I F (v.orRefuse place e kinds x) st := by
  unfold orRefuse
  refine hx.tryCatch ?_
  intro f st' _ h'
  split
  · exact tame_refuse hrefuse h'
  case isFalse hno =>
    refine tame_throw h' (hF f ?_)
    rw [Bool.eq_false_iff]
    intro hf
    exact hno (List.any_eq_true.mpr ⟨_, hkinds, Failure.isA_typeError hf⟩)

variable (hconvert : v.ConvertsTamely run run' I F)
include hconvert

theorem tame_convertFloat : Tame run run' I F (v.convertFloat place) st := by
  unfold convertFloat
  refine tame_get_bind ?_
  split
  · exact tame_pure h
  split
  · refine (tame_toFloat hF h hconvert).bind ?_
    intro x st' h'
    exact tame_pure h'
  · exact tame_refuse hrefuse h

theorem tame_convertComplex : Tame run run' I F (v.convertComplex place) st := by
  unfold convertComplex
  refine tame_get_bind ?_
  split
  · exact tame_pure h
  split
  · refine tame_orRefuse hF hrefuse (by simp) ?_
    refine (tame_toComplex (fun _ _ => trivial) h (hconvert.mono fun _ _ => trivial)).bind ?_
    intro x st' h'
    exact tame_pure h'
  · exact tame_refuse hrefuse h

theorem tame_convertInt : Tame run run' I F (v.convertInt place) st := by
  unfold convertInt
  refine tame_get_bind ?_
  split
  · exact tame_pure h
  split
  · refine (tame_toIndex hF h hconvert).bind ?_
    intro x st' h'
    exact tame_pure h'
  · exact tame_refuse hrefuse h

omit hconvert in
theorem tame_convertArray (harray : run.arrayOf = run'.arrayOf) (hnew : Store.SparesNew I) :
    Tame run run' I F (v.convertArray place) st := by
  unfold convertArray
  refine tame_get_bind ?_
  split
  · exact tame_pure h
  split
  · exact tame_refuse hrefuse h
  · exact tame_orRefuse hF hrefuse (by simp) (tame_asArray harray hnew h)

omit hconvert hF in
theorem tame_convertInstance {c : ClassRef} {e : String} (htest : v.TestsTamely run run' I F c) :
    Tame run run' I F (v.convertInstance c e place) st := by
  unfold convertInstance
  refine (htest st h).bind ?_
  intro b st' h'
  split
  · exact tame_pure h'
  · exact tame_refuse hrefuse h'

end

end Value

namespace Converter

mutual
/-- The classes that a converter tests values for. -/
def tested : Converter → List ClassRef
  | .instance c _ => [c]
  | .union members classes _ => classes ++ testedBySome members
  | _ => []

/-- The classes that several converters test values for. -/
def testedBySome : List Converter → List ClassRef
  | [] => []
  | c :: cs => c.tested ++ testedBySome cs
end

mutual
/-- The added rules that a converter makes use of, each with the type that it is asked for. -/
def held : Converter → List (Rule × TypeForm)
  | .rule r t => [(r, t)]
  | .union members _ _ => heldBySome members
  | _ => []

/-- The added rules that several converters make use of. -/
def heldBySome : List Converter → List (Rule × TypeForm)
  | [] => []
  | c :: cs => c.held ++ heldBySome cs
end

/-- Whether a converter makes no use of added rules. -/
def isBuiltIn (c : Converter) : Bool := c.held.isEmpty

theorem mem_testedBySome {cs : List Converter} {k : ClassRef} :
    k ∈ testedBySome cs ↔ ∃ c ∈ cs, k ∈ c.tested := by
  induction cs with
  | nil => simp [testedBySome]
  | cons c cs ih => simp [testedBySome, ih]

theorem mem_heldBySome {cs : List Converter} {q : Rule × TypeForm} :
    q ∈ heldBySome cs ↔ ∃ c ∈ cs, q ∈ c.held := by
  induction cs with
  | nil => simp [heldBySome]
  | cons c cs ih => simp [heldBySome, ih]

theorem isBuiltIn_iff {c : Converter} : c.isBuiltIn = true ↔ ∀ q, q ∉ c.held := by
  rw [isBuiltIn, List.isEmpty_iff, List.eq_nil_iff_forall_not_mem]

theorem isBuiltIn_union {cs : List Converter} {ks : List ClassRef} {e : String} :
    (Converter.union cs ks e).isBuiltIn = true ↔ ∀ c ∈ cs, c.isBuiltIn = true := by
  simp only [isBuiltIn_iff, held, mem_heldBySome]
  grind

/-- Without added rules the converters of types are built in. -/
theorem isBuiltIn_of_converter? {st : Store} {t : TypeForm} {c : Converter}
    (hc : st.converter? [] t = some c) : c.isBuiltIn = true := by
  induction t using TypeForm.induction_leaves generalizing c with
  | plain t ht =>
    obtain ⟨-, hplain⟩ := Store.plainConverter_of_converter? ht hc
    cases hplain <;> rfl
  | union t i w ts htn ih =>
    obtain ⟨cs, e, hcs, rfl⟩ := Store.exists_of_converter?_union htn hc
    rw [isBuiltIn_union]
    intro c' hc'
    obtain ⟨u, hu, hconverter⟩ := (Store.mem_converters? hcs).1 c' hc'
    exact ih u hu hconverter

variable {run run' : Runner} {I : Store → Prop} {F : Failure → Prop} {v : Value} {place : String}

mutual
/-- **A conversion is tame where the code is that the value brings with it**, special methods for numbers and
what the tests for classes run, **and where the added rules are that it makes use of**. -/
theorem tame_apply (harray : run.arrayOf = run'.arrayOf) (hF : SparesFaults F) (hnew : Store.SparesNew I)
    (hrefuse : ∀ e t, F (.argumentMismatch place e t)) (hconvert : v.ConvertsTamely run run' I F)
    (c : Converter) (hrules : ∀ q ∈ c.held, ∀ st, I st → Tame run run' I F (q.1.convert q.2 v place) st)
    (htests : ∀ k ∈ c.tested, v.TestsTamely run run' I F k) {st : Store} (h : I st) :
    Tame run run' I F (c.apply v place) st := by
  cases c with
  | absent =>
    rw [apply]
    split
    · exact tame_pure h
    · exact Value.tame_refuse hrefuse h
  | float =>
    rw [apply]
    exact Value.tame_convertFloat hF hrefuse h hconvert
  | complex =>
    rw [apply]
    exact Value.tame_convertComplex hF hrefuse h hconvert
  | int =>
    rw [apply]
    exact Value.tame_convertInt hF hrefuse h hconvert
  | array =>
    rw [apply]
    exact Value.tame_convertArray hF hrefuse h harray hnew
  | «instance» k e =>
    rw [apply]
    exact Value.tame_convertInstance hrefuse h (htests k (by simp [tested]))
  | rule r t =>
    rw [apply]
    exact hrules (r, t) (by simp [held]) st h
  | union members classes e =>
    rw [apply]
    refine (Value.tame_isInstanceOfSome h fun k hk => htests k (by simp [tested, hk])).bind ?_
    intro b st' h'
    split
    · exact tame_pure h'
    · exact tame_applyFirst harray hF hnew hrefuse hconvert members
        (fun q hq => hrules q (by simpa [held] using hq)) (fun k hk => htests k (by simp [tested, hk])) h'

theorem tame_applyFirst (harray : run.arrayOf = run'.arrayOf) (hF : SparesFaults F) (hnew : Store.SparesNew I)
    (hrefuse : ∀ e t, F (.argumentMismatch place e t)) (hconvert : v.ConvertsTamely run run' I F)
    (cs : List Converter)
    (hrules : ∀ q ∈ heldBySome cs, ∀ st, I st → Tame run run' I F (q.1.convert q.2 v place) st)
    (htests : ∀ k ∈ testedBySome cs, v.TestsTamely run run' I F k) {e : String} {st : Store} (h : I st) :
    Tame run run' I F (applyFirst cs v place e) st := by
  cases cs with
  | nil =>
    rw [applyFirst]
    exact Value.tame_refuse hrefuse h
  | cons c cs =>
    rw [applyFirst]
    refine (tame_apply harray hF hnew hrefuse hconvert c (fun q hq => hrules q (by simp [heldBySome, hq]))
      (fun k hk => htests k (by simp [testedBySome, hk])) h).tryCatch ?_
    intro f st' hf h'
    split
    · exact tame_applyFirst harray hF hnew hrefuse hconvert cs
        (fun q hq => hrules q (by simp [heldBySome, hq])) (fun k hk => htests k (by simp [testedBySome, hk])) h'
    · exact tame_throw h' hf
end

/-- A built-in conversion keeps what the code that the value brings with it keeps. -/
theorem keeps_apply (hnew : Store.SparesNew I) (hconvert : v.ConvertsTamely run run I fun _ => True)
    {c : Converter} (hbuiltin : c.isBuiltIn = true)
    (htests : ∀ k ∈ c.tested, v.TestsTamely run run I (fun _ => True) k) {st : Store} (h : I st) :
    I ((c.apply v place).perform run st).2 :=
  (tame_apply rfl (fun _ _ => trivial) hnew (fun _ _ => trivial) hconvert c
    (fun q hq => absurd hq (isBuiltIn_iff.mp hbuiltin q)) htests h).keeps

end Converter
end MemberAccess
