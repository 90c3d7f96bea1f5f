import MemberAccess.Accessor.Basic
import MemberAccess.Conversion.Selection
import MemberAccess.Proofs.LastingInvariants
import MemberAccess.Proofs.OwnCode

/-!
# Calls with two libraries

Code that runs in a call may turn to the library, and then it finds the conversions that the library has at
the moment.  Nothing else of a call depends on the library: two runners that differ in that alone make no
difference to what an accessor does, unless a rule that it holds turns to the library
(`Accessor.keeps_call`).

For reading, writing and calling this is `Proofs.LastingInvariants` with the invariant that is true of every
store; for tests and conversions it is `Proofs.OwnCode`, where all code counts as tame.
-/

namespace MemberAccess

open MemberAccess.Action

/-! ## §1  What turns to the library -/

/-- Two runners that differ at most in how code finds the library. -/
structure Runner.Agrees (run run' : Runner) : Prop where
  call : run.call = run'.call
  arrayOf : run.arrayOf = run'.arrayOf

@[simp] theorem Runner.call_serving {run : Runner} {rules : List Rule} {n : Nat} :
    (run.serving rules n).call = run.call := by
  cases n <;> rfl

@[simp] theorem Runner.arrayOf_serving {run : Runner} {rules : List Rule} {n : Nat} :
    (run.serving rules n).arrayOf = run.arrayOf := by
  cases n <;> rfl

/-- How code finds the library is all that is changed by serving it. -/
theorem Runner.agrees_serving {run : Runner} {rules : List Rule} {n : Nat} :
    (run.serving rules n).Agrees run :=
  ⟨call_serving, arrayOf_serving⟩

theorem Runner.Agrees.symm {run run' : Runner} (h : run.Agrees run') : run'.Agrees run :=
  ⟨h.call.symm, h.arrayOf.symm⟩

theorem Runner.Agrees.trans {run run' run'' : Runner} (h : run.Agrees run') (h' : run'.Agrees run'') :
    run.Agrees run'' :=
  ⟨h.call.trans h'.call, h.arrayOf.trans h'.arrayOf⟩

theorem Runner.Agrees.upholdsAlike {run run' : Runner} (h : run.Agrees run') :
    run.UpholdsAlike run' fun _ => True where
  objects _ := trivial
  entries _ := trivial
  nextMark _ := trivial
  shared _ _ := trivial
  call _ := trivial
  same _ := by rw [h.call]
  arrayOf := h.arrayOf

/-- An action does the same with two runners, in every store. -/
abbrev Action.RunsAlike {α : Type} (run run' : Runner) (x : Action α) : Prop :=
  KeepsAlike (fun _ => True) run run' x

/-- **A rule keeps to itself** if it converts without turning to the library. -/
def Rule.KeepsToItself (r : Rule) : Prop :=
  ∀ run run' : Runner, run.Agrees run' → ∀ t v place, RunsAlike run run' (r.convert t v place)

section
variable {α : Type} {run run' : Runner} {x : Action α}

theorem runsAlike_of_tame (h : ∀ st, Tame run run' (fun _ => True) (fun _ => True) x st) :
    RunsAlike run run' x :=
  fun st _ => ⟨(h st).same, trivial⟩

theorem tame_of_runsAlike (h : RunsAlike run run' x) (st : Store) :
    Tame run run' (fun _ => True) (fun _ => True) x st :=
  ⟨(h st trivial).1, trivial, fun _ _ => trivial⟩

end

/-! ## §2  Tests and conversions -/

section
variable {run run' : Runner} (h : run.Agrees run') {v : Value} {c : ClassRef} {place : String}
include h

theorem Value.looksTamely_of_agrees : v.LooksTamely run run' (fun _ => True) (fun _ => True) c :=
  fun _ _ _ _ _ _ _ _ _ _ _ _ => tame_of_runsAlike (keeps_callFunction h.upholdsAlike) _

@[grind ←] theorem Value.keeps_isInstance : RunsAlike run run' (v.isInstance c) :=
  runsAlike_of_tame fun _ => Value.tame_isInstance (fun _ _ => trivial) (fun _ _ _ => trivial) trivial
    (Value.looksTamely_of_agrees h)

omit h in
@[grind ←] theorem Value.keeps_refuse {α : Type} {e : String} :
    RunsAlike run run' (v.refuse place e : Action α) := by
  unfold Value.refuse Value.mismatch
  grind

/-- **A conversion does the same with two libraries**, where the rules that it makes use of do. -/
theorem Converter.keeps_apply_of_rules {conv : Converter}
    (hrules : ∀ q ∈ conv.held, RunsAlike run run' (q.1.convert q.2 v place)) :
    RunsAlike run run' (conv.apply v place) :=
  runsAlike_of_tame fun _ => tame_apply h.arrayOf (fun _ _ => trivial) (fun _ _ _ => trivial)
    (fun _ _ => trivial) (fun _ _ _ _ _ _ => tame_of_runsAlike (keeps_callFunction h.upholdsAlike) _) conv
    (fun q hq st _ => tame_of_runsAlike (hrules q hq) st)
    (fun _ _ st _ => tame_of_runsAlike (Value.keeps_isInstance h) st) trivial

end

/-- Wrapping values in instances of a class needs no library. -/
theorem Rule.keepsToItself_wrapping {targets accepts : List TypeForm} {wrap : Value} {expected : String} :
    (Rule.wrapping targets accepts wrap expected).KeepsToItself := by
  intro run run' h t v place
  have hnamed (ts : List TypeForm) : RunsAlike run run' (v.isInstanceOfNamed ts) := by
    induction ts with
    | nil => exact keeps_pure
    | cons t ts ih =>
      have ht : RunsAlike run run' (v.isInstanceOf t) := by
        unfold Value.isInstanceOf
        grind
      unfold Value.isInstanceOfNamed
      grind
  have hupholds := h.upholdsAlike
  unfold Rule.wrapping
  dsimp only
  grind

/-! ## §3  Calls of accessors -/

/-- The rules that the conversions of a plan make use of. -/
inductive Plan.Holds (p : Plan) : Rule × TypeForm → Prop
  | argument {a : ArgumentStep} {c : Converter} {q : Rule × TypeForm} :
      a ∈ p.arguments → a.converter = some c → q ∈ c.held → Holds p q
  | result {r : ResultStep} {c : Converter} {q : Rule × TypeForm} :
      p.result = some r → r.converter = some c → q ∈ c.held → Holds p q

namespace Accessor

variable {run run' : Runner} (h : run.Agrees run') {env : Arguments}

@[grind ←] theorem keeps_argument {name : String} : RunsAlike run run' (argument env name) := by
  unfold argument
  grind

include h

@[grind ←] theorem keeps_checkSequence {n : Nat} : RunsAlike run run' (checkSequence env n) := by
  have hupholds := h.upholdsAlike
  unfold checkSequence
  grind

@[grind ←] theorem keeps_checkReceiver {d : MemberDescriptor} {r : ReceiverStep} :
    RunsAlike run run' (checkReceiver env d r) := by
  unfold checkReceiver
  grind

/-- An argument is taken and converted alike where its conversion is made alike. -/
theorem keeps_operand {isItem : Bool} {a : ArgumentStep}
    (ha : ∀ c, a.converter = some c → ∀ v place, RunsAlike run run' (c.apply v place)) :
    RunsAlike run run' (operand env isItem a) := by
  have hupholds := h.upholdsAlike
  unfold operand
  grind

variable {p : Plan}
  (hp : ∀ q, p.Holds q → ∀ v place, RunsAlike run run' (q.1.convert q.2 v place))
include hp

theorem keeps_operand_of_mem {isItem : Bool} {a : ArgumentStep} (ha : a ∈ p.arguments) :
    RunsAlike run run' (operand env isItem a) :=
  keeps_operand h fun _ hc v place =>
    Converter.keeps_apply_of_rules h fun q hq => hp q (.argument ha hc hq) v place

theorem keeps_operands {isItem : Bool} : RunsAlike run run' (operands env isItem p.arguments) :=
  keeps_mapM fun _ ha => keeps_operand_of_mem h hp ha

theorem keeps_accessMember {holder : Value} : RunsAlike run run' (accessMember p env holder) := by
  have hupholds := h.upholdsAlike
  have hall (isItem : Bool) : RunsAlike run run' (operands env isItem p.arguments) := keeps_operands h hp
  have hone (isItem : Bool) (a : ArgumentStep) (ha : a ∈ p.arguments) :
      RunsAlike run run' (operand env isItem a) := keeps_operand_of_mem h hp ha
  unfold accessMember
  grind

theorem keeps_access {s : Subject} : RunsAlike run run' (access p s env) := by
  have hupholds := h.upholdsAlike
  have hall (isItem : Bool) : RunsAlike run run' (operands env isItem p.arguments) := keeps_operands h hp
  have hmember (holder : Value) : RunsAlike run run' (accessMember p env holder) := keeps_accessMember h hp
  unfold access
  grind

theorem keeps_finish {v : Value} : RunsAlike run run' (finish p v) := by
  have hconvert (r : ResultStep) (c : Converter) (hr : p.result = some r) (hc : r.converter = some c)
      (place : String) : RunsAlike run run' (c.apply v place) :=
    Converter.keeps_apply_of_rules h fun q hq => hp q (.result hr hc hq) v place
  unfold finish
  split
  · exact keeps_pure
  · exact keeps_pure
  · exact keeps_pure
  case h_4 t c hresult =>
    unfold convertResult
    grind

end Accessor

/-- **A call does the same with two libraries**, where the rules that the accessor holds do. -/
theorem Accessor.keeps_call {run run' : Runner} (h : run.Agrees run') {a : Accessor}
    (ha : ∀ q, a.plan.Holds q → ∀ v place, RunsAlike run run' (q.1.convert q.2 v place))
    {arguments : List Value} : RunsAlike run run' (a.call arguments) := by
  have haccess (env : Arguments) : RunsAlike run run' (access a.plan a.subject env) := keeps_access h ha
  have hreach : RunsAlike run run' (a.reach arguments) := by
    unfold reach
    dsimp only
    split
    · exact keeps_bind keeps_fault fun _ => by grind
    · grind
  unfold call
  exact keeps_bind hreach fun _ => keeps_finish h ha

end MemberAccess
