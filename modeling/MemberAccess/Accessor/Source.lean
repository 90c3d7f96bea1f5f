import MemberAccess.Plan.Basic
import MemberAccess.Text.Identifier
import MemberAccess.Text.NormalForm

/-!
# The source text of accessors

An accessor as a short function in text: the looks at its arguments, one line each, and the access with
the conversions around it.  What the text cannot spell out, classes, targets and converters, stands
under names of its own (`_Base`, `_target`, `_owner`, `_name`, `_c0`, `_result`).

The text is what a reader of a failure sees; what an accessor does is said by `Accessor.call`, which
goes through the same plan.
-/

namespace MemberAccess

/-- The attribute that a use of a member means: a name that can be written after a dot means its normal
form there, and any other name is taken as it is. -/
def MemberDescriptor.attributeName (d : MemberDescriptor) : String :=
  if Text.isPlainName d.name then Text.normalForm d.name else d.name

/-- Whether a file can be named after a member: its class can be named, and neither the name of the class nor
that of the member holds the character that ends all texts. -/
def MemberDescriptor.namesFile (st : Store) (d : MemberDescriptor) : Bool :=
  d.declaring.isPrintable && !(d.qualifiedName st).toList.contains (Char.ofNat 0)

/-- What an access is made on. -/
inductive Subject
  /-- something that is called itself -/
  | target (v : Value)
  /-- a class whose attribute is used -/
  | owner (v : Value)
  /-- the receiver whose attribute is used -/
  | receiver
  deriving DecidableEq, Repr, Inhabited

namespace Plan

/-- What the access of a plan is made on: constructors and static methods call their target, other
static members belong to the declaring class. -/
def subject (st : Store) (p : Plan) : Subject :=
  let d := p.descriptor
  if p.operation = .construct then
    .target (if st.isCallable d.target then d.target else d.declaring.toValue)
  else if p.receiver.isSome then .receiver
  else if d.kind = .method then .target d.target
  else .owner d.declaring.toValue

/-! ## §1 Names -/

/-- The simple name of what declares a member, where it has one. -/
def ownerName (st : Store) : TypeForm → String
  | .cls c => st.className c
  | .variable n | .bounded n _ | .choice n _ => n
  | .alias _ .direct o _ => st.className o
  | .alias _ .generic o _ =>
      match o with
      | .builtin .list => "List"
      | .builtin .dict => "Dict"
      | .builtin .tuple => "Tuple"
      | .builtin .type => "Type"
      | o => st.className o
  | .bare f => f.name
  | .callable .. => "Callable"
  | .union _ .subscript ts =>
      match ts with
      | [.builtin .noneType, _] | [_, .builtin .noneType] => "Optional"
      | _ => "Union"
  | .annotated .. => "Annotated"
  | .classVar .. => "ClassVar"
  | .final .. => "Final"
  | .literal .. => "Literal"
  | _ => "member"

/-- The kind of access and the count of arguments in one word. -/
def accessWord (s : Shape) : String := s.family.name ++ toString s.arity

/-- The name of the function: what is no word character becomes a dash below. -/
def functionName (st : Store) (p : Plan) : String :=
  let raw := ownerName st p.descriptor.declaring ++ "_" ++ p.descriptor.name ++ "_" ++ accessWord p.shape
  let name := raw.map fun c => if Text.isWord c then c else '_'
  if Text.isIdentifier name then name else "_" ++ name

/-! ## §2 Lines -/

/-- The lines that look at a sequence of arguments. -/
def sequenceLines (n : Nat) : List String :=
  let count := toString n
  ["if args is None:",
   "    raise _InvalidArgument('args')",
   "if len(args) != " ++ count ++ ":",
   "    raise _ArityMismatch(" ++ count ++ ", len(args), where=\"'args' argument\", noun='items')"]

/-- The message about an absent receiver. -/
def nullReceiverText (st : Store) (d : MemberDescriptor) : String :=
  ((Failure.nullReceiver (d.text st)).message).getD ""

/-- The lines that look at the receiver. -/
def receiverLines (st : Store) (d : MemberDescriptor) (r : ReceiverStep) : List String :=
  ["if instance is None:",
   "    raise _NullReceiver(" ++ Text.quoted (nullReceiverText st d) ++ ")"] ++
  if r.check.isSome then
    ["if not isinstance(instance, _Base):",
     "    raise _ArgumentTypeMismatch('instance', " ++ Text.quoted (r.declaring.typeName st) ++
       ", _value_type_name(instance))"]
  else []

/-- How an argument is spelled where it is used. -/
def operandText (isItem : Bool) (a : ArgumentStep) : String :=
  let taken := if isItem then itemName a.slot else a.name
  match a.converter with
  | none => taken
  | some _ => "_c" ++ toString a.slot ++ "(" ++ taken ++ ", " ++ Text.quoted a.name ++ ")"

/-- How the access is spelled. -/
def accessText (st : Store) (p : Plan) : String :=
  let operands := p.arguments.map (operandText p.arrayArity.isSome)
  let call := "(" ++ ", ".intercalate operands ++ ")"
  let name := p.descriptor.name
  let on (holder : String) : String :=
    match p.operation, Text.isPlainName name with
    | .set, true => holder ++ "." ++ name ++ " = " ++ operands.headD ""
    | .set, false => "setattr(" ++ holder ++ ", _name, " ++ operands.headD "" ++ ")"
    | .get, true => holder ++ "." ++ name
    | .get, false => "getattr(" ++ holder ++ ", _name)"
    | _, true => holder ++ "." ++ name ++ call
    | _, false => "getattr(" ++ holder ++ ", _name)" ++ call
  match p.subject st with
  | .target _ => "_target" ++ call
  | .owner _ => on "_owner"
  | .receiver => on "instance"

/-- The line of the access. -/
def accessLine (st : Store) (p : Plan) : String :=
  match p.operation, p.result with
  | .set, _ | _, none => accessText st p
  | _, some ⟨_, none⟩ => "return " ++ accessText st p
  | _, some ⟨_, some _⟩ => "return _result(" ++ accessText st p ++ ")"

/-- The lines of the function. -/
def lines (st : Store) (p : Plan) : List String :=
  ((p.arrayArity.map sequenceLines).getD []) ++
  ((p.receiver.map (receiverLines st p.descriptor)).getD []) ++ [accessLine st p]

/-- The text of the function. -/
def source (st : Store) (p : Plan) : String :=
  let head := "def " ++ functionName st p ++ "(" ++ ", ".intercalate p.parameterNames ++ "):"
  "\n".intercalate (head :: (lines st p).map ("    " ++ ·)) ++ "\n"

/-- Whether the text is a function: its name has to be an identifier, and no assignment may go to the
one name that nothing is assigned to. -/
def isWellFormed (st : Store) (p : Plan) : Bool :=
  Text.isIdentifier (functionName st p) &&
    !(p.operation == .set && p.descriptor.attributeName == "__debug__" &&
      !((p.subject st) matches .target _))

/-- The name of the file that the text is listed under, given its number as text. -/
def fileName (st : Store) (p : Plan) (number : String) : String :=
  "<reflection-accel:" ++ p.descriptor.qualifiedName st ++ ":" ++ p.shape.family.name ++ ":" ++ number ++
    ">"

/-- What keeps the function from being made: its file name, its text, that it is kept under the normal form
of its name and not under the name, or that its shape cannot be described. -/
def defect? (st : Store) (p : Plan) : Option ErrorKind :=
  if !p.descriptor.namesFile st then some .valueError
  else if !isWellFormed st p then some .syntaxError
  else if Text.normalForm (functionName st p) != functionName st p then some .keyError
  else if !p.shape.isPrintable then some .valueError
  else none

end Plan
end MemberAccess
