import MemberAccess.Value.Equality

/-!
# Call shapes

How a caller wants to use a member: what kind of access, with how many arguments, with what receiver, and
whether the type of the result is pinned.  A shape is the part of a cache key that the caller chooses, so
it is compared by what it says: pinned types by equality of annotations.

The count of arguments never exceeds `maxArity`; every way of making a shape checks that first.
-/

namespace MemberAccess

/-- The kinds of access. -/
inductive Family
  | construct
  /-- a constructor that takes its arguments as one sequence -/
  | constructArray
  | func | action | get | set
  deriving DecidableEq, Repr, Inhabited

namespace Family

/-- The word for a kind of access. -/
def name : Family → String
  | construct => "construct" | constructArray => "construct_array" | func => "func"
  | action => "action" | get => "get" | set => "set"

/-- Every kind of access. -/
def all : List Family := [construct, constructArray, func, action, get, set]

/-- Whether an access gives a value. -/
def isValueProducing : Family → Bool
  | construct | constructArray | func | get => true
  | action | set => false

end Family

/-- The receiver that a caller hands in. -/
inductive Receiver
  /-- none: constructors and static members -/
  | none
  /-- one that is looked at on every call -/
  | checked
  /-- one of a type that was looked at once -/
  | typed (base : TypeForm)
  deriving DecidableEq, Repr, Inhabited

namespace Receiver

/-- The word for a way of handing a receiver in. -/
def name : Receiver → String
  | none => "none" | checked => "opaque" | typed _ => "typed"

/-- The type of a receiver that was looked at once. -/
def base? : Receiver → Option TypeForm
  | typed t => some t
  | _ => Option.none

/-- A receiver of the given type, or one that is looked at on every call. -/
def ofBase : Option TypeForm → Receiver
  | some t => typed t
  | Option.none => checked

/-- Whether two receivers are handed in the same way. -/
def equal : Receiver → Receiver → Bool
  | none, none => true
  | checked, checked => true
  | typed s, typed t => s.equal t
  | _, _ => false

end Receiver

/-- The greatest count of arguments. -/
def maxArity : Nat := 9

/-- A call shape. -/
structure Shape where
  family : Family
  arity : Nat
  receiver : Receiver
  /-- the pinned type of the result, or of the value to be set -/
  result? : Option TypeForm
  /-- whether members that are not public may be used -/
  nonPublic : Bool
  arity_le : arity ≤ maxArity := by decide
  deriving DecidableEq, Repr

namespace Shape

instance : Inhabited Shape := ⟨{ family := .get, arity := 0, receiver := .checked, result? := none, nonPublic := true }⟩

/-- Whether a shape gives a value. -/
def isValueProducing (s : Shape) : Bool := s.family.isValueProducing

/-- Whether a shape is for an effect alone. -/
def isEffect (s : Shape) : Bool := s.family == .action

/-- Whether the caller hands a receiver in. -/
def hasReceiver (s : Shape) : Bool := s.receiver != .none

/-- Whether two pinned types are equal, or both are not pinned. -/
def equalPinned : Option TypeForm → Option TypeForm → Bool
  | none, none => true
  | some s, some t => s.equal t
  | _, _ => false

/-- Whether two shapes say the same. -/
def equal (s t : Shape) : Bool :=
  s.family == t.family && s.arity == t.arity && s.receiver.equal t.receiver &&
    equalPinned s.result? t.result? && s.nonPublic == t.nonPublic

/-- Whether a shape can be part of a key. -/
def isHashable (s : Shape) : Bool :=
  ((s.receiver.base?.map (·.hashable)).getD true) && ((s.result?.map (·.hashable)).getD true)

/-- Whether the types of a shape can be named in messages. -/
def isPrintable (s : Shape) : Bool :=
  ((s.receiver.base?.map (·.isPrintable)).getD true) && ((s.result?.map (·.isPrintable)).getD true)

/-- The words for a shape in messages. -/
def words (st : Store) (s : Shape) : String :=
  " ".intercalate (
    [s.family.name, "arity=" ++ toString s.arity, "receiver=" ++ s.receiver.name] ++
    (s.receiver.base?.toList.map fun t => "base=" ++ t.typeName st) ++
    (s.result?.toList.map fun t => "result=" ++ t.typeName st) ++
    (if s.nonPublic then [] else ["public-only"]))

/-- A shape in messages; a type that cannot be named is a fault. -/
def describe (st : Store) (s : Shape) : Outcome String :=
  if s.isPrintable then .ok (s.words st) else .error (.fault .valueError)

/-! ## Making shapes -/

/-- A count of arguments; anything but an integer from 0 to the greatest count is refused. -/
def checkArity (st : Store) (v : Value) : Outcome { n : Nat // n ≤ maxArity } :=
  let refused : Outcome { n : Nat // n ≤ maxArity } := .error <| .invalidArgument "arity" <| some <|
    "arity must be an integer in [0, " ++ toString maxArity ++ "], got " ++ st.display v
  match st.atomOf? v with
  | some (.int n) =>
      if h : n.toNat ≤ maxArity then
        if n < 0 then refused else .ok ⟨n.toNat, h⟩
      else refused
  | _ => refused

/-- The ways of handing a receiver in, before its type is known. -/
inductive Mode
  | none | checked | typed
  deriving DecidableEq, Repr, Inhabited

/-- A receiver of a mode; a type belongs to typed receivers and to no others. -/
def checkReceiver (mode : Mode) (base : Option TypeForm) : Outcome Receiver :=
  match mode, base with
  | .typed, some t => .ok (.typed t)
  | .typed, none => .error <| .invalidArgument "receiver_type" <| some
      "a typed receiver shape needs a receiver_type"
  | .none, none => .ok .none
  | .checked, none => .ok .checked
  | _, some _ => .error <| .invalidArgument "receiver_type" <| some
      "receiver_type is only valid for typed receiver shapes"

/-- A shape of which every part is given. -/
def make (st : Store) (family : Family) (arity : Value) (mode : Mode) (base result : Option TypeForm)
    (nonPublic : Bool) : Outcome Shape := do
  let ⟨n, h⟩ ← checkArity st arity
  let receiver ← checkReceiver mode base
  return { family, arity := n, receiver, result? := result, nonPublic, arity_le := h }

/-- The mode of a receiver whose type may be given. -/
def modeOf (base : Option TypeForm) : Mode := if base.isSome then .typed else .checked

/-- The shape of a constructor that takes its arguments one by one. -/
def constructor (st : Store) (arity : Value) (result : Option TypeForm) : Outcome Shape :=
  make st .construct arity .none none result true

/-- The shape of a constructor that takes its arguments as one sequence. -/
def constructorArray (result : Option TypeForm) : Shape :=
  { family := .constructArray, arity := 0, receiver := .none, result? := result, nonPublic := true }

/-- The shape of a method that gives a value. -/
def func (st : Store) (arity : Value) (base result : Option TypeForm) : Outcome Shape :=
  make st .func arity (modeOf base) base result true

/-- The shape of a method called for its effect. -/
def action (st : Store) (arity : Value) (base : Option TypeForm) : Outcome Shape :=
  make st .action arity (modeOf base) base none true

/-- The shape of a static method that gives a value. -/
def staticFunc (st : Store) (arity : Value) (result : Option TypeForm) : Outcome Shape :=
  make st .func arity .none none result true

/-- The shape of a static method called for its effect. -/
def staticAction (st : Store) (arity : Value) : Outcome Shape :=
  make st .action arity .none none none true

/-- The shape that reads a field or property. -/
def getter (base value : Option TypeForm) (nonPublic : Bool) : Shape :=
  { family := .get, arity := 0, receiver := .ofBase base, result? := value, nonPublic }

/-- The shape that sets a field or property. -/
def setter (base value : Option TypeForm) (nonPublic : Bool) : Shape :=
  { family := .set, arity := 0, receiver := .ofBase base, result? := value, nonPublic }

end Shape
end MemberAccess
