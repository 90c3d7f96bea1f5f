import MemberAccess.Assignability.Basic
import MemberAccess.Member.Descriptor
import MemberAccess.Shape.Basic

/-!
# The contract between a member and a shape

The checks that a member and a call shape have to pass before an accessor is made for them.  They are
made in a fixed order and the first one that fails is reported: both are there and belong together, the
counts of parameters agree, a value is wanted where there is one, a receiver is given where one is
needed and has a fitting type, the pinned type fits, and the wanted side exists and may be used.
-/

namespace MemberAccess

/-- What a caller hands in where a record of the library is wanted. -/
inductive Supplied (α : Type)
  | missing
  | proper (a : α)
  /-- any other object -/
  | foreign (v : Value)
  deriving Repr, Inhabited

/-- The record that was handed in, or the failure that the argument is invalid. -/
def Supplied.require {α : Type} (argument : String) : Supplied α → Outcome α
  | .proper a => .ok a
  | _ => .error (.invalidArgument argument none)

/-- The kinds of members that a kind of access is for. -/
def Family.admits : Family → MemberKind → Bool
  | .construct, k | .constructArray, k => k == .constructor
  | .func, k | .action, k => k == .method
  | .get, k | .set, k => k == .field || k == .property

/-- The side of a field or property that a kind of access uses. -/
def Family.side? : Family → Option Side
  | .get => some .get
  | .set => some .set
  | _ => none

namespace MemberDescriptor

/-- Whether a side of a field or property exists. -/
def has (d : MemberDescriptor) : Side → Bool
  | .get => d.readable
  | .set => d.writable

/-- Whether a side of a field or property may be used by everyone. -/
def isPublic (d : MemberDescriptor) : Side → Bool
  | .get => d.getterPublic
  | .set => d.setterPublic

end MemberDescriptor

namespace Contract

variable (st : Store) (d : MemberDescriptor) (s : Shape)

/-- The kind of access is one for the kind of member. -/
def checkFamily : Outcome Unit :=
  if s.family.admits d.kind then .ok ()
  else .error <| .invalidArgument "descriptor" <| some <|
    "A " ++ s.family.name ++ " accessor cannot be compiled for the " ++ d.text st ++ "."

/-- The counts of parameters agree; a sequence of arguments is counted on every call instead. -/
def checkArity : Outcome Unit :=
  if s.family = .constructArray ∨ d.arity = s.arity then .ok ()
  else .error (.arityMismatch s.arity d.arity (d.text st) "parameters")

/-- A value is wanted of a member that gives one, and an effect of a member that may give none. -/
def checkValueKind : Outcome Unit :=
  if s.isValueProducing && !d.isValueProducing then .error (.notValueProducing (d.text st))
  else if s.isEffect && d.isValueProducing && d.valueType.normalize != .builtin .any then
    .error (.notEffectOnly (d.text st) (d.valueType.typeName st))
  else .ok ()

/-- A receiver is handed in exactly for members of instances; constructors are free. -/
def checkStatic : Outcome Unit :=
  if d.kind = .constructor then .ok ()
  else if s.hasReceiver && d.isStatic then .error (.staticMember d.name)
  else if !s.hasReceiver && !d.isStatic then .error (.instanceMember d.name)
  else .ok ()

/-- A typed receiver is one of the declaring type. -/
def checkReceiver : Ask Unit := do
  match s.receiver with
  | .typed base =>
      if ← Memo.isAssignable st base d.declaring then return ()
      else throw (.receiverMismatch (base.typeName st) (d.declaring.typeName st))
  | _ => return ()

/-- The pinned type takes the value of the member, or gives what the member takes. -/
def checkPinned : Ask Unit := do
  match s.result? with
  | none => return ()
  | some t =>
      let fits ← if s.family = .set then Memo.isAssignable st t d.valueType
        else Memo.isAssignable st d.valueType t
      if fits then return ()
      else throw (.pinnedMismatch (t.typeName st) d.kind.name (d.valueType.typeName st))

/-- The side that is wanted exists and may be used. -/
def checkSide : Outcome Unit :=
  match s.family.side? with
  | none => .ok ()
  | some side =>
      if !d.has side then
        .error (.sideMissing d.name d.kind.name (d.declaring.typeName st) side)
      else if !s.nonPublic && !d.isPublic side then
        .error (.sideNotPublic side d.name d.kind.name (d.declaring.typeName st))
      else .ok ()

/-- All the checks on a member and a shape, in order. -/
def check : Ask Unit := do
  liftExcept (checkFamily st d s)
  liftExcept (checkArity st d s)
  liftExcept (checkValueKind st d s)
  liftExcept (checkStatic d s)
  checkReceiver st d s
  checkPinned st d s
  liftExcept (checkSide st d s)

end Contract

/-- Checks what a caller hands in as a member and a shape, and gives both when they belong together. -/
def validate (st : Store) (d : Supplied MemberDescriptor) (s : Supplied Shape) :
    Ask (MemberDescriptor × Shape) := do
  let d ← liftExcept (d.require "descriptor")
  let s ← liftExcept (s.require "shape")
  Contract.check st d s
  return (d, s)

end MemberAccess
