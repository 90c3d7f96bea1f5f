import MemberAccess.TypeForm.Basic

/-!
# Values

A value is an atom, an annotation object (every class is one), or a routine bound to its receiver.
Containers and instances are objects of the store and occur here by address, so a value is always
finite and two values are the same object exactly when they are equal.

The absent value and a text may stand where an annotation is wanted; `Value.toTypeForm` and
`TypeForm.toValue` pass between the two readings.
-/

namespace MemberAccess

open Number

/-- A value of a program. -/
inductive Value
  | atom (a : Atom)
  | typeForm (t : TypeForm)
  | bound (routine : Routine) (receiver : Value)
  deriving DecidableEq, Repr, Inhabited

namespace Value

@[match_pattern] abbrev nothing : Value := .atom .none
@[match_pattern] abbrev bool (b : Bool) : Value := .atom (.bool b)
@[match_pattern] abbrev int (n : Int) : Value := .atom (.int n)
@[match_pattern] abbrev float (x : Double) : Value := .atom (.float x)
@[match_pattern] abbrev complex (re im : Double) : Value := .atom (.complex re im)
@[match_pattern] abbrev text (s : String) : Value := .atom (.text s)
@[match_pattern] abbrev object (a : Address) : Value := .atom (.object a)
@[match_pattern] abbrev routine (r : Routine) : Value := .atom (.routine r)
@[match_pattern] abbrev cls (c : ClassRef) : Value := .typeForm (.cls c)

/-- A built-in class as a value. -/
abbrev builtin (b : Builtin) : Value := .cls (.builtin b)

end Value

/-- An annotation as a value: what was never more than a text or an object is that text or object. -/
def TypeForm.toValue : TypeForm → Value
  | .none => .nothing
  | .text s => .text s
  | .foreign f => .atom f.value
  | t => .typeForm t

/-- A value in the place of a type; `printed` and `hashable` describe a value that is no annotation. -/
def Value.toTypeForm (printed : String) (hashable : Bool) : Value → TypeForm
  | .nothing => .none
  | .text s => .text s
  | .typeForm t => t
  | .atom a => .foreign ⟨a, printed, hashable⟩
  | .bound r _ => .foreign ⟨.routine r, printed, hashable⟩

end MemberAccess
