import MemberAccess.TypeForm.Printing
import MemberAccess.Value.Run

/-!
# Converters

A converter takes a value from outside and gives the value that a declared type asks for, or refuses it
with the place at which it was to be used, the type expected there and the type that came.

A converter is a term, chosen once for a type (`Conversion.Selection`) and applied as often as wanted.
What the built-in ones do is settled by the term.  A rule that a program adds is code of that program, and
it may turn to the library for the conversions that there are when it is run.
-/

namespace MemberAccess

open MemberAccess.Action

/-- A conversion that a program adds: the normal types that it is for, and how it converts a value for such
a type and place. -/
structure Rule where
  isFor : TypeForm → Bool
  convert : TypeForm → Value → String → Action Value

instance : Inhabited Rule := ⟨fun _ => false, fun _ v _ => return v⟩

/-- How values are converted for one type. -/
inductive Converter
  /-- only the absent value passes -/
  | absent
  | float
  | complex
  | int
  /-- anything that an array can be made of -/
  | array
  /-- instances of a class pass -/
  | instance (c : ClassRef) (expected : String)
  /-- what one of the members takes; instances of the classes pass before any member is tried -/
  | union (members : List Converter) (classes : List ClassRef) (expected : String)
  /-- by an added rule, for a type that it is for -/
  | rule (r : Rule) (t : TypeForm)
  deriving Inhabited

namespace Value

/-- The refusal of a value. -/
def mismatch (v : Value) (place expected : String) : Action Failure := do
  return .argumentMismatch place expected ((← get).valueTypeName v)

/-- Refuses a value. -/
def refuse {α : Type} (v : Value) (place expected : String) : Action α := do
  throw (← v.mismatch place expected)

/-- Whether a value is an instance of one of the classes, asked in order. -/
def isInstanceOfSome (v : Value) : List ClassRef → Action Bool
  | [] => return false
  | c :: cs => do if ← v.isInstance c then return true else v.isInstanceOfSome cs

/-- Whether a value is an instance of what an annotation names. -/
def isInstanceOf (v : Value) : TypeForm → Action Bool
  | .cls c => v.isInstance c
  | _ => fault .typeError

/-- Whether a value is an instance of what one of the annotations names, asked in order. -/
def isInstanceOfNamed (v : Value) : List TypeForm → Action Bool
  | [] => return false
  | t :: ts => do if ← v.isInstanceOf t then return true else v.isInstanceOfNamed ts

/-- Runs an action and refuses the value where the action fails with one of the kinds. -/
def orRefuse {α : Type} (v : Value) (place expected : String) (kinds : List ErrorKind)
    (x : Action α) : Action α :=
  tryCatchThe Failure x fun f =>
    if kinds.any f.isA then v.refuse place expected else throw f

/-! ## Built-in conversions -/

/-- Floats pass, other real numbers are made floats. -/
def convertFloat (v : Value) (place : String) : Action Value := do
  let st ← get
  if st.isBuiltinInstance v .float then return v
  else if st.isBuiltinInstance v .realNumber then return .float (← v.toFloat)
  else v.refuse place "float"

/-- Complex numbers pass, other numbers are made complex where they can be. -/
def convertComplex (v : Value) (place : String) : Action Value := do
  let st ← get
  if st.isBuiltinInstance v .complex then return v
  else if st.isBuiltinInstance v .number then
    v.orRefuse place "complex" [.typeError] do
      let (re, im) ← v.toComplex
      return .complex re im
  else v.refuse place "complex"

/-- Integers pass, what can stand as an index is made the integer of that index. -/
def convertInt (v : Value) (place : String) : Action Value := do
  let st ← get
  if st.isBuiltinInstance v .int then return v
  else if st.classHas v "__index__" then return .int (← v.toIndex)
  else v.refuse place "int"

/-- Arrays pass, and an array is made of what one can be made of; texts and bytes are refused. -/
def convertArray (v : Value) (place : String) : Action Value := do
  let st ← get
  if st.classOf v = .builtin .arrayValue then return v
  else if v = .nothing || st.isBuiltinInstance v .str || st.isBuiltinInstance v .bytes then
    v.refuse place "Array"
  else v.orRefuse place "Array" [.typeError, .valueError] v.asArray

/-- Instances of a class pass. -/
def convertInstance (c : ClassRef) (expected : String) (v : Value) (place : String) :
    Action Value := do
  if ← v.isInstance c then return v else v.refuse place expected

end Value

/-- A usual kind of added rule: values for one of the `targets` are taken as they are when they are
instances of `wrap`, wrapped in one when they are instances of an accepted class, and refused otherwise. -/
def Rule.wrapping (targets accepts : List TypeForm) (wrap : Value) (expected : String) : Rule where
  isFor := targets.contains
  convert := fun _ v place => do
    let isWrapped ← match wrap with
      | .cls c => v.isInstance c
      | _ => fault .typeError
    if isWrapped then return v
    else if ← v.isInstanceOfNamed accepts then wrap.call [v]
    else v.refuse place expected

/-- The rule that leaves the conversion for its types to the library, by whatever it has for the type
`target` when a value comes. -/
def Rule.deferring (targets : List TypeForm) (target : TypeForm) : Rule where
  isFor := targets.contains
  convert := fun _ v place => askToCoerce v target place

namespace Converter

mutual
/-- Converts a value for use at a place. -/
def apply : Converter → Value → String → Action Value
  | .absent, v, place => if v = .nothing then return v else v.refuse place "None"
  | .float, v, place => v.convertFloat place
  | .complex, v, place => v.convertComplex place
  | .int, v, place => v.convertInt place
  | .array, v, place => v.convertArray place
  | .instance c expected, v, place => v.convertInstance c expected place
  | .rule r t, v, place => r.convert t v place
  | .union members classes expected, v, place => do
      if ← v.isInstanceOfSome classes then return v
      else applyFirst members v place expected

/-- Converts a value by the first converter that does not refuse it. -/
def applyFirst : List Converter → Value → String → String → Action Value
  | [], v, place, expected => v.refuse place expected
  | c :: cs, v, place, expected =>
      tryCatchThe Failure (c.apply v place) fun f =>
        if f.isA .argumentTypeMismatch then applyFirst cs v place expected else throw f
end

end Converter
end MemberAccess
