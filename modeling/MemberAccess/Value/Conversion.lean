import MemberAccess.Hierarchy.Membership

/-!
# Numbers from values

Three ways of taking a number out of a value: as a float, as a complex number, as an integer.  Each asks
built-in numbers directly, rounding exactly and failing beyond the greatest finite float, and any other
value through the special method that its class has for the purpose.
-/

namespace MemberAccess

open MemberAccess.Action Number

namespace Store

/-- The atom that a value is or stands for. -/
def atomOf? (st : Store) : Value → Option Atom
  | .object a =>
      match (st.object a).payload with
      | .atom x => some x
      | _ => none
  | .atom a => some a
  | _ => none

/-- The array that a value is. -/
def arrayOf? (st : Store) : Value → Option ArrayContent
  | .object a =>
      match (st.object a).payload with
      | .array c => some c
      | _ => none
  | _ => none

end Store

namespace Value

/-- The float nearest to an integer. -/
def floatOfInt (n : Int) : Action Double :=
  match Double.ofInt n with
  | some x => return x
  | none => fault .overflowError

/-- The float of a number that is an atom. -/
def floatOfAtom? : Atom → Option (Action Double)
  | .bool b => some (floatOfInt (if b then 1 else 0))
  | .int n => some (floatOfInt n)
  | .float x => some (pure x)
  | .fraction n d => some <|
      match Double.ofRatio (n < 0) n.natAbs d with
      | some x => pure x
      | none => fault .overflowError
  | .decimal d => some <|
      match d.toDouble? with
      | some x => pure x
      | none => fault .valueError
  | .fixed (.float32 x) | .fixed (.float64 x) => some (pure x)
  | .fixed (.int64 n) => some (floatOfInt n)
  | .fixed (.truth b) => some (floatOfInt (if b then 1 else 0))
  | .fixed (.complex64 re _) => some (pure re)
  | .text s => some <|
      match Double.parse? s with
      | some x => pure x
      | none => fault .valueError
  | _ => none

/-- The integer that a special method gave. -/
def exactInt (v : Value) : Action Int := do
  match (← get).atomOf? v with
  | some (.int n) => return n
  | some (.bool b) => return if b then 1 else 0
  | _ => fault .typeError

/-- The only element of an array without axes. -/
def soleElement? (c : ArrayContent) : Option Atom :=
  match c.shape, c.elements with
  | [], [a] => some a
  | _, _ => none

/-- The integer that a value stands for as an index. -/
def toIndex (v : Value) : Action Int := do
  let st ← get
  match st.specialMethod? v "__index__" with
  | some id => exactInt (← callFunction id [v])
  | none =>
      match st.atomOf? v with
      | some (.int n) => return n
      | some (.bool b) => return if b then 1 else 0
      | some (.fixed (.int64 n)) => return n
      | _ =>
          match (st.arrayOf? v).bind soleElement? with
          | some (.int n) | some (.fixed (.int64 n)) => return n
          | _ => fault .typeError

/-- The float that a special method gave. -/
def exactFloat (v : Value) : Action Double := do
  match (← get).atomOf? v with
  | some (.float x) => return x
  | some (.fixed (.float64 x)) => return x
  | _ => fault .typeError

/-- The only element of an array with one element. -/
def singleElement? (c : ArrayContent) : Option Atom :=
  match c.elements with
  | [a] => some a
  | _ => none

/-- The float that a value converts to. -/
def toFloat (v : Value) : Action Double := do
  let st ← get
  match st.specialMethod? v "__float__" with
  | some id => exactFloat (← callFunction id [v])
  | none =>
      match (st.atomOf? v).bind floatOfAtom? with
      | some x => x
      | none =>
          match (st.arrayOf? v).bind singleElement? |>.bind floatOfAtom? with
          | some x => x
          | none =>
              if (st.specialMethod? v "__index__").isSome then floatOfInt (← toIndex v)
              else fault .typeError

/-- The complex number that a value converts to. -/
def toComplex (v : Value) : Action (Double × Double) := do
  let st ← get
  let zero := Double.zero false
  match st.specialMethod? v "__complex__" with
  | some id =>
      match (← get).atomOf? (← callFunction id [v]) with
      | some (.complex re im) => return (re, im)
      | _ => fault .typeError
  | none =>
      match st.atomOf? v with
      | some (.complex re im) | some (.fixed (.complex64 re im)) => return (re, im)
      | _ => return (← toFloat v, zero)

end Value
end MemberAccess
