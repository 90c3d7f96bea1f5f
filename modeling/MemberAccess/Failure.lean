import MemberAccess.Value.Basic
import MemberAccess.Text.Grouped

/-!
# Failures

Everything that can go wrong is a `Failure`: a contract that a member and a call shape can never meet, a
call that a compiled accessor refuses, a member that cannot be found, an error that a member's body
raises, or a fault of the object world itself.  The library's own failures are named by their cause and
worded in one place, `Failure.message`; faults of the object world have a kind and no wording.

Failures are classified by kinds that form a hierarchy, because code that catches one kind also catches
the kinds below it.
-/

namespace MemberAccess

/-- The kinds of failures, the library's own first. -/
inductive ErrorKind
  | accessorError | contractError | invalidArgument | arityMismatch | notValueProducing
  | notEffectOnly | staticMemberRejected | instanceMemberRejected | receiverTypeMismatch
  | resultTypeMismatch | accessorMissing | accessorNotPublic
  | invocationError | argumentTypeMismatch | nullReceiver | memberNotFound
  | baseException | exception | typeError | valueError | attributeError | lookupError | keyError
  | indexError | runtimeError | recursionError | notImplementedError | nameError | syntaxError
  | arithmeticError | overflowError | zeroDivisionError | stopIteration | osError | assertionError
  | frozenInstance | systemExit
  /-- any other kind that a program raises -/
  | other (name : String)
  deriving DecidableEq, Repr, Inhabited

namespace ErrorKind

/-- The name of a kind. -/
def name : ErrorKind → String
  | accessorError => "AccessorError" | contractError => "ContractError"
  | invalidArgument => "InvalidArgument" | arityMismatch => "ArityMismatch"
  | notValueProducing => "NotValueProducing" | notEffectOnly => "NotEffectOnly"
  | staticMemberRejected => "StaticMemberRejected"
  | instanceMemberRejected => "InstanceMemberRejected"
  | receiverTypeMismatch => "ReceiverTypeMismatch" | resultTypeMismatch => "ResultTypeMismatch"
  | accessorMissing => "AccessorMissing" | accessorNotPublic => "AccessorNotPublic"
  | invocationError => "InvocationError" | argumentTypeMismatch => "ArgumentTypeMismatch"
  | nullReceiver => "NullReceiver" | memberNotFound => "MemberNotFound"
  | baseException => "BaseException" | exception => "Exception" | typeError => "TypeError"
  | valueError => "ValueError" | attributeError => "AttributeError" | lookupError => "LookupError"
  | keyError => "KeyError" | indexError => "IndexError" | runtimeError => "RuntimeError"
  | recursionError => "RecursionError" | notImplementedError => "NotImplementedError"
  | nameError => "NameError" | syntaxError => "SyntaxError" | arithmeticError => "ArithmeticError"
  | overflowError => "OverflowError" | zeroDivisionError => "ZeroDivisionError"
  | stopIteration => "StopIteration" | osError => "OSError" | assertionError => "AssertionError"
  | frozenInstance => "FrozenInstanceError" | systemExit => "SystemExit"
  | other name => name

/-- The kinds that have a name of their own here. -/
def all : List ErrorKind :=
  [accessorError, contractError, invalidArgument, arityMismatch, notValueProducing, notEffectOnly,
   staticMemberRejected, instanceMemberRejected, receiverTypeMismatch, resultTypeMismatch,
   accessorMissing, accessorNotPublic, invocationError, argumentTypeMismatch, nullReceiver,
   memberNotFound, baseException, exception, typeError, valueError, attributeError, lookupError,
   keyError, indexError, runtimeError, recursionError, notImplementedError, nameError, syntaxError,
   arithmeticError, overflowError, zeroDivisionError, stopIteration, osError, assertionError,
   frozenInstance, systemExit]

/-- The kind with the given name. -/
def named (name : String) : ErrorKind := (all.find? (·.name == name)).getD (other name)

/-- The kinds directly above a kind, in the order in which they are looked through. -/
def ancestors : ErrorKind → List ErrorKind
  | baseException => []
  | exception | systemExit => [baseException]
  | accessorError => [exception, baseException]
  | contractError | invocationError => [accessorError, exception, baseException]
  | invalidArgument | arityMismatch =>
      [contractError, accessorError, valueError, exception, baseException]
  | notValueProducing | notEffectOnly | staticMemberRejected | instanceMemberRejected
  | receiverTypeMismatch | resultTypeMismatch =>
      [contractError, accessorError, typeError, exception, baseException]
  | accessorMissing | accessorNotPublic =>
      [contractError, accessorError, attributeError, exception, baseException]
  | argumentTypeMismatch | nullReceiver =>
      [invocationError, accessorError, typeError, exception, baseException]
  | memberNotFound => [accessorError, lookupError, exception, baseException]
  | keyError | indexError => [lookupError, exception, baseException]
  | recursionError | notImplementedError => [runtimeError, exception, baseException]
  | overflowError | zeroDivisionError => [arithmeticError, exception, baseException]
  | frozenInstance => [attributeError, exception, baseException]
  | _ => [exception, baseException]

/-- A kind followed by the kinds above it. -/
def lineage (k : ErrorKind) : List ErrorKind := k :: k.ancestors

/-- Whether a failure of kind `k` is caught where failures of kind `above` are. -/
def isA (k above : ErrorKind) : Bool := k.lineage.contains above

/-- Whether a kind belongs to this library. -/
def isOwn (k : ErrorKind) : Bool := k.isA accessorError

end ErrorKind

/-- Which side of a field or property an accessor is for. -/
inductive Side
  | get | set
  deriving DecidableEq, Repr, Inhabited

/-- The word for a side. -/
def Side.label : Side → String
  | get => "get"
  | set => "set"

/-- What went wrong. -/
inductive Failure
  /-- an argument is missing or of the wrong kind; a reason replaces the general wording -/
  | invalidArgument (argument : String) (reason : Option String)
  | arityMismatch (expected actual : Nat) (place noun : String)
  | notValueProducing (member : String)
  | notEffectOnly (member valueType : String)
  | staticMember (name : String)
  | instanceMember (name : String)
  | receiverMismatch (receiver declaring : String)
  /-- the pinned type does not fit the type of the member -/
  | pinnedMismatch (pinned kind valueType : String)
  /-- the value that the member gave does not fit the pinned type -/
  | producedMismatch (place actual expected : String)
  | sideMissing (name kind owner : String) (side : Side)
  | bothSidesMissing (name kind owner : String)
  | sideNotPublic (side : Side) (name kind owner : String)
  | argumentMismatch (place expected actual : String)
  | nullReceiver (member : String)
  | memberNotFound (reason : String)
  /-- raised by a member's body -/
  | raised (kind : ErrorKind) (text : String) (details : List (String × Value))
  /-- a fault of the object world -/
  | fault (kind : ErrorKind)
  deriving DecidableEq, Repr, Inhabited

namespace Failure

/-- The kind of a failure. -/
def kind : Failure → ErrorKind
  | invalidArgument .. => .invalidArgument
  | arityMismatch .. => .arityMismatch
  | notValueProducing _ => .notValueProducing
  | notEffectOnly .. => .notEffectOnly
  | staticMember _ => .staticMemberRejected
  | instanceMember _ => .instanceMemberRejected
  | receiverMismatch .. => .receiverTypeMismatch
  | pinnedMismatch .. | producedMismatch .. => .resultTypeMismatch
  | sideMissing .. | bothSidesMissing .. => .accessorMissing
  | sideNotPublic .. => .accessorNotPublic
  | argumentMismatch .. => .argumentTypeMismatch
  | nullReceiver _ => .nullReceiver
  | memberNotFound _ => .memberNotFound
  | raised k .. => k
  | fault k => k

/-- The wording of an invalid argument: an empty reason counts as none. -/
def invalidArgumentText (argument : String) (reason : Option String) : String :=
  match reason with
  | some r => if r = "" then general else r
  | none => general
where
  general : String := "The '" ++ argument ++ "' argument is missing or invalid."

/-- The wording of a count of parameters that differs from the one wanted. -/
def arityText (expected actual : Int) (place noun : String) : String :=
  "The " ++ place ++ " must have " ++ Text.grouped expected ++ " " ++ noun ++ ", but has " ++
    Text.grouped actual ++ "."

/-- The wording of an argument that could not be converted. -/
def argumentText (place expected actual : String) : String :=
  place ++ " expected " ++ expected ++ ", got " ++ actual

/-- The wording of a failure; a fault of the object world has none. -/
def message : Failure → Option String
  | invalidArgument a r => some (invalidArgumentText a r)
  | arityMismatch e a p n => some (arityText e a p n)
  | notValueProducing m => some <|
      "You cannot create a value-producing accessor for the " ++ m ++ ", which returns None."
  | notEffectOnly m t => some <|
      "You cannot create an effect accessor for the " ++ m ++ ", which returns " ++ t ++ "."
  | staticMember n => some <| "The '" ++ n ++ "' member is static."
  | instanceMember n => some <| "The '" ++ n ++ "' member needs an instance receiver."
  | receiverMismatch r d => some <|
      "Receiver type was '" ++ r ++ "', which is not assignable to the declaring type of '" ++ d ++ "'."
  | pinnedMismatch p k t => some <|
      "Value type was '" ++ p ++ "', which is not compatible with the " ++ k ++ " value type of '" ++
        t ++ "'."
  | producedMismatch p a e => some <| "The " ++ p ++ " was " ++ a ++ ", expected " ++ e ++ "."
  | sideMissing n k o s => some <|
      "The '" ++ n ++ "' " ++ k ++ " on '" ++ o ++ "' does not have a " ++ s.label ++ " accessor."
  | bothSidesMissing n k o => some <|
      "The '" ++ n ++ "' " ++ k ++ " on '" ++ o ++ "' has neither a get nor a set accessor."
  | sideNotPublic s n k o => some <|
      "The " ++ s.label ++ " accessor of the '" ++ n ++ "' " ++ k ++ " on '" ++ o ++ "' is not public."
  | argumentMismatch p e a => some (argumentText p e a)
  | nullReceiver m => some <| "The receiver for the " ++ m ++ " must not be None."
  | memberNotFound r => some r
  | raised _ t _ => some t
  | fault _ => none

/-- The particulars that a failure carries beside its wording. -/
def details : Failure → List (String × Value)
  | invalidArgument a _ => [("argument", .text a)]
  | arityMismatch e a p _ => [("expected", .int e), ("actual", .int a), ("where", .text p)]
  | argumentMismatch p e a => [("where", .text p), ("expected", .text e), ("actual", .text a)]
  | raised _ _ ds => ds
  | _ => []

/-- What a conversion that failed had expected; also when a body raised that failure itself. -/
def expectedType? : Failure → Option Value
  | argumentMismatch _ e _ => some (.text e)
  | raised .argumentTypeMismatch _ ds => ds.lookup "expected"
  | _ => none

/-- Whether a failure is caught where failures of kind `k` are. -/
def isA (f : Failure) (k : ErrorKind) : Bool := f.kind.isA k

end Failure
end MemberAccess
