import MemberAccess.Contract.Validation
import MemberAccess.Conversion.Selection

/-!
# Invocation plans

What an accessor does around one member access: the look at the receiver, the conversion of each
argument, and the conversion of the result.

A conversion is left out where the contract between member and shape has already shown that it would
change nothing.  That is so for a pinned type, with one exception: numbers of a narrower type are still
widened, because assignability lets them through unwidened.
-/

namespace MemberAccess

/-- The kinds of access that a plan ends in. -/
inductive Operation
  | construct | call | get | set
  deriving DecidableEq, Repr, Inhabited

/-- The word for a kind of access. -/
def Operation.name : Operation → String
  | construct => "construct" | call => "call" | get => "get" | set => "set"

/-- The access that a shape of a kind ends in. -/
def Family.operation : Family → Operation
  | .construct | .constructArray => .construct
  | .func | .action => .call
  | .get => .get
  | .set => .set

/-- Takes the argument of a slot and converts it to a type; `name` is what the argument is called in the
accessor and in messages. -/
structure ArgumentStep where
  slot : Nat
  name : String
  type : TypeForm
  converter : Option Converter
  deriving Inhabited

/-- Refuses an absent receiver, and one of another class where there is a class to look for. -/
structure ReceiverStep where
  declaring : TypeForm
  check : Option ClassRef
  deriving DecidableEq, Repr, Inhabited

/-- Converts the result to a type. -/
structure ResultStep where
  type : TypeForm
  converter : Option Converter
  deriving Inhabited

/-- An invocation plan. -/
structure Plan where
  descriptor : MemberDescriptor
  shape : Shape
  operation : Operation
  receiver : Option ReceiverStep
  arguments : List ArgumentStep
  result : Option ResultStep
  /-- how many items the one argument has to hold, where the arguments come as a sequence -/
  arrayArity : Option Nat
  deriving Inhabited

namespace Plan

/-- The parameters of the accessor. -/
def parameterNames (p : Plan) : List String :=
  match p.arrayArity with
  | some _ => ["args"]
  | none => (if p.receiver.isSome then ["instance"] else []) ++ p.arguments.map (·.name)

variable (st : Store) (rules : List Rule) (d : MemberDescriptor) (s : Shape)

/-! ## §1 Steps -/

/-- The look at the receiver; constructors, static members and shapes without receiver have none. -/
def receiverStep : Option ReceiverStep :=
  if d.kind = .constructor || d.isStatic || !s.hasReceiver then none
  else
    let check :=
      if s.receiver = .checked then
        d.declaring.runtimeClass?.filter fun c => c != .builtin .object
      else none
    some ⟨d.declaring, check⟩

/-- The conversions of the declared parameters, named by their slot. -/
def parameterSteps (name : Nat → String) : List ArgumentStep :=
  d.parameters.zipIdx.map fun (t, i) => ⟨i, name i, t, st.converter? rules t⟩

/-- The name of a separate argument. -/
def argumentName (i : Nat) : String := "arg" ++ toString i

/-- The name of an item of a sequence of arguments. -/
def itemName (i : Nat) : String := "args[" ++ toString i ++ "]"

/-- Whether a type is one of the numbers that widen; types that no table can hold cannot be asked. -/
def widens (t : TypeForm) : Outcome Bool :=
  if t.hashable then .ok t.isPromoting else .error (.fault .typeError)

/-- Whether a value of type `source` still has to be widened for `target`. -/
def needsWidening (source target : TypeForm) : Outcome Bool := do
  if source = target then return false
  else if ← widens source then widens target
  else return false

/-- The conversion of the value to be set. -/
def valueStep : Outcome ArgumentStep := do
  let step (c : Option Converter) : ArgumentStep := ⟨0, "value", d.valueType, c⟩
  let pinned := (s.result?.map (·.normalize)).getD (.builtin .any)
  if pinned.isAny then return step (st.converter? rules d.valueType)
  else if ← needsWidening pinned d.valueType.normalize then
    return step (st.converter? rules d.valueType.normalize)
  else return step none

/-- The conversion of the result. -/
def resultStep : Outcome ResultStep := do
  match s.result? with
  | none => return ⟨.builtin .any, none⟩
  | some t =>
      let target := t.normalize
      let source := d.valueType.normalize
      if target.isAny then return ⟨t, none⟩
      else if source = .builtin .any then return ⟨t, st.converter? rules target⟩
      else if ← needsWidening source target then return ⟨t, st.converter? rules target⟩
      else return ⟨t, none⟩

/-! ## §2 Plans -/

/-- The conversions of the arguments, by what the shape ends in. -/
def argumentSteps : Outcome (List ArgumentStep) := do
  if s.family = .constructArray then return parameterSteps st rules d itemName
  else if s.family = .set then return [← valueStep st rules d s]
  else return parameterSteps st rules d argumentName

/-- The plan for a member and a shape that belong together. -/
def synthesize : Outcome Plan := do
  let arguments ← argumentSteps st rules d s
  let result ← if s.isValueProducing then some <$> resultStep st rules d s else pure none
  return {
    descriptor := d
    shape := s
    operation := s.family.operation
    receiver := receiverStep d s
    arguments := arguments
    result := result
    arrayArity := if s.family = .constructArray then some d.arity else none }

end Plan
end MemberAccess
