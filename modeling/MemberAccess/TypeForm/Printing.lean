import MemberAccess.Text.Digit
import MemberAccess.TypeForm.Normal
import MemberAccess.Value.Store

/-!
# Names of annotations

How annotations read in messages.  A class is named by its qualified name, a union by its members with
bars between them, an applied class by its origin and arguments.  What has no rule of its own is shown
the way the object world prints it; that form, `TypeForm.display`, also appears for the parameters of
a callable.
-/

namespace MemberAccess

/-- Where a built-in class is at home. -/
def Builtin.home : Builtin → String
  | .number | .complexNumber | .realNumber | .rationalNumber | .integralNumber => "numbers"
  | .fraction => "fractions"
  | .decimal => "decimal"
  | .sequence | .mapping | .iterable | .sized | .callable | .reversible | .collection | .container =>
      "collections.abc"
  | .generic | .protocol | .any => "typing"
  | .barUnion => "types"
  | .array => ""
  | _ => "builtins"

namespace Store

/-- A class with its home in front, unless it is always at hand. -/
def classPath (st : Store) : ClassRef → String
  | .builtin b =>
      if b.home = "builtins" || b.home = "" then b.qualifiedName
      else b.home ++ "." ++ b.qualifiedName
  | .user i => "world." ++ (st.classInfo i).qualifiedName

/-- The capitalised name under which a built-in class is applied to arguments. -/
def genericName (st : Store) : ClassRef → String
  | .builtin .list => "typing.List"
  | .builtin .dict => "typing.Dict"
  | .builtin .tuple => "typing.Tuple"
  | .builtin .type => "typing.Type"
  | c => st.classPath c

end Store

namespace TypeForm

mutual
/-- The printed form of an annotation object. -/
def display (st : Store) : TypeForm → String
  | .none => "None"
  | .builtin .any => "typing.Any"
  | .cls c => "<class '" ++ st.classPath c ++ "'>"
  | .bare f => "typing." ++ f.name
  | .ellipsis => "Ellipsis"
  | .text s => Text.quoted s
  | .forward s => "ForwardRef(" ++ Text.quoted s ++ ")"
  | .variable n | .bounded n _ | .choice n _ => "~" ++ n
  | .union _ .bar ts => " | ".intercalate (displayItems st ts)
  | .union _ .subscript ts =>
      match ts with
      | [.builtin .noneType, a] | [a, .builtin .noneType] =>
          "typing.Optional[" ++ displayItem st a ++ "]"
      | ts => "typing.Union[" ++ ", ".intercalate (displayItems st ts) ++ "]"
  | .alias _ .direct o ts =>
      st.classPath o ++ "[" ++ ", ".intercalate (displayItems st ts) ++ "]"
  | .alias _ .generic o ts =>
      st.genericName o ++ "[" ++ ", ".intercalate (displayItems st ts) ++ "]"
  | .callable _ ps r =>
      "typing.Callable[[" ++ ", ".intercalate (displayItems st ps) ++ "], " ++ displayItem st r ++ "]"
  | .annotated _ t ns =>
      "typing.Annotated[" ++ ", ".intercalate (displayItem st t :: ns.map Text.quoted) ++ "]"
  | .classVar _ t => "typing.ClassVar[" ++ displayItem st t ++ "]"
  | .final _ t => "typing.Final[" ++ displayItem st t ++ "]"
  | .literal _ vs => "typing.Literal[" ++ ", ".intercalate (vs.map (·.printed)) ++ "]"
  | .foreign f => f.printed

/-- The form of an annotation inside another one. -/
def displayItem (st : Store) : TypeForm → String
  | .builtin .any => "typing.Any"
  | .cls c => st.classPath c
  | .ellipsis => "..."
  | t => display st t

/-- The forms of annotations inside another one. -/
def displayItems (st : Store) : List TypeForm → List String
  | [] => []
  | t :: ts => displayItem st t :: displayItems st ts
end

mutual
/-- The name of an annotation in messages. -/
def typeName (st : Store) : TypeForm → String
  | .none => "None"
  | .builtin .noneType => "None"
  | .cls c => st.classQualifiedName c
  | .text s => s
  | .union _ _ ts => " | ".intercalate (typeNames st ts)
  | .bare f => match f.origin? with
      | some b => b.qualifiedName
      | Option.none => "typing." ++ f.name
  | .alias _ _ o ts => applied (st.classQualifiedName o) (typeNames st ts)
  | .callable _ [.ellipsis] r => "Callable[Ellipsis, " ++ typeName st r ++ "]"
  | .callable _ ps r =>
      "Callable[[" ++ ", ".intercalate (ps.map (display st)) ++ "], " ++ typeName st r ++ "]"
  | .annotated _ t ns => applied "Annotated" (typeName st t :: ns)
  | .classVar _ t => applied "ClassVar" [typeName st t]
  | .final _ t => applied "Final" [typeName st t]
  | .literal _ vs => applied "Literal" (vs.map literalName)
  | t => display st t
where
  /-- A name with arguments in brackets, if there are any. -/
  applied (base : String) (arguments : List String) : String :=
    if arguments.isEmpty then base else base ++ "[" ++ ", ".intercalate arguments ++ "]"
  /-- A literal value; a text stands without quotes. -/
  literalName (v : Foreign) : String :=
    match v.value with
    | .text s => s
    | _ => v.printed

/-- The names of annotations in messages. -/
def typeNames (st : Store) : List TypeForm → List String
  | [] => []
  | t :: ts => typeName st t :: typeNames st ts
end

/-! ## Names that are too long

An integer of very many digits cannot be printed, and neither can a type that shows it. -/

/-- The least positive integer that has too many digits to be printed. -/
def tooLong : Nat := Nat.pow 10 Text.maxDigits

/-- Whether a literal value or a foreign object can be printed.  Numbers are told by their quantity alone, so
that what is equal can be printed together. -/
def canPrint (v : Foreign) : Bool :=
  match v.key with
  | .number (.ratio n d) _ => n.natAbs < tooLong && d < tooLong
  | _ => true

mutual
/-- Whether an annotation can be named in messages. -/
def isPrintable : TypeForm → Bool
  | .union _ _ ts | .alias _ _ _ ts => arePrintable ts
  | .callable _ ps r => arePrintable ps && isPrintable r
  | .annotated _ t _ | .classVar _ t | .final _ t => isPrintable t
  | .literal _ vs => vs.all canPrint
  | .foreign v => canPrint v
  | _ => true

/-- Whether several annotations can be named in messages. -/
def arePrintable : List TypeForm → Bool
  | [] => true
  | t :: ts => isPrintable t && arePrintable ts
end

end TypeForm

/-- The name of the class of a value. -/
def Store.valueTypeName (st : Store) (v : Value) : String :=
  TypeForm.typeName st (.cls (st.classOf v))

end MemberAccess
