import MemberAccess.Assignability.Basic
import MemberAccess.Conversion.Converter

/-!
# Choosing a converter

The converter of a type.  A type that takes anything has none.  An added rule for the very type goes
before everything else, the latest first; then come arrays, unions, the absent value and numbers; any
other type takes the instances of its class.  Where there is no class to test for, or the class is a
protocol that may not be tested for, there is no converter and every value passes.

The members of a union get their converters by the same rules, and a union has none as soon as one of
its members has none.
-/

namespace MemberAccess

open TypeForm hiding none

namespace Store

/-- Whether a type is a class of arrays. -/
def isArrayType (st : Store) : TypeForm → Bool
  | .cls c => st.descends c (.builtin .array)
  | _ => false

/-- Whether a class is a protocol that may not be tested for. -/
def isUntestable (st : Store) (c : ClassRef) : Bool := st.isProtocol c && !st.isRuntimeProtocol c

/-- The converter of a normal type that no added rule is for and that is no union. -/
def plainConverter? (st : Store) (t : TypeForm) : Option Converter :=
  if st.isArrayType t then some .array
  else if t = .builtin .noneType then some .absent
  else if t = .builtin .float then some .float
  else if t = .builtin .complex then some .complex
  else if t = .builtin .int then some .int
  else
    match t.runtimeClass? with
    | none => none
    | some c =>
        if c = .builtin .object || st.isUntestable c then none
        else some (.instance c (t.typeName st))

mutual
/-- The converter of a type; the rules stand with the latest first. -/
def converter? (st : Store) (rules : List Rule) (t : TypeForm) : Option Converter :=
  if t.normalize.isAny then none
  else
    match rules.find? (·.isFor t.normalize) with
    | some r => some (.rule r t.normalize)
    | none =>
        match _h : t.normalize with
        | .union m s ts =>
            (converters? st rules ts).map fun cs =>
              .union cs (ts.filterMap runtimeClass?) ((TypeForm.union m s ts).typeName st)
        | u => st.plainConverter? u
termination_by t.weight
decreasing_by exact weights_lt_of_normalize _h

/-- The converters of several types, if each has one. -/
def converters? (st : Store) (rules : List Rule) (ts : List TypeForm) : Option (List Converter) :=
  match ts with
  | [] => some []
  | t :: ts =>
      match converter? st rules t, converters? st rules ts with
      | some c, some cs => some (c :: cs)
      | _, _ => none
termination_by weights ts
decreasing_by all_goals simp only [weights]; omega
end

end Store

/-- Converts a value for a type; without a converter it passes as it is. -/
def Value.coerce (rules : List Rule) (v : Value) (t : TypeForm) (place : String) : Action Value := do
  match (← get).converter? rules t with
  | none => return v
  | some c => c.apply v place

/-- The runner in which code that turns to the library finds the conversions by the given rules; these may
turn to it again as often as `depth` says. -/
def Runner.serving (run : Runner) (rules : List Rule) : Nat → Runner
  | 0 => { run with coerce := fun _ _ _ st => (.error (.fault .recursionError), st) }
  | depth + 1 => { run with
      coerce := fun v t place st => (v.coerce rules t place).perform (run.serving rules depth) st }

end MemberAccess
