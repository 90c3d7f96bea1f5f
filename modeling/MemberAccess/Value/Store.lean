import MemberAccess.Failure
import MemberAccess.Builtin.Member

/-!
# The store

The object world of a program: its classes with their namespaces, its functions, and its mutable
objects.  Running a member changes nothing but the store, so "the same object state" is equality of
stores.

Bodies of functions are short programs in the expressions and statements below.  Running one needs
calls, and calls need bodies; the knot is tied in one place (`Value.Run`), by handing every operation the
`Runner` that it is to call functions with.  A runner also stands for what is code of neither the program
nor the library, the array library, and for the library itself where code that a program adds turns to it.
-/

namespace MemberAccess

/-! ## §1 Programs -/

/-- The annotation forms that an expression can apply. -/
inductive Former
  | union | optional | bar | subscript | callable | classVar | final | literal
  | annotated (notes : List String)
  | forward (name : String)
  deriving DecidableEq, Repr, Inhabited

/-- The kinds of fixed-width numbers. -/
inductive FixedKind
  | float32 | float64 | int64 | truth | complex64
  deriving DecidableEq, Repr, Inhabited

/-- An expression. -/
inductive Expr
  | constant (v : Value)
  /-- a parameter, or another name bound to a value -/
  | variable (name : String)
  /-- a class or form of annotation, looked up by name when it is needed -/
  | named (name : String)
  | member (e : Expr) (name : String)
  | call (callee : Expr) (arguments : List Expr)
  | list (items : List Expr)
  | tuple (items : List Expr)
  | set (items : List Expr)
  | dict (keys values : List Expr)
  | replicate (item : Expr) (count : Int)
  | sum (terms : List Expr)
  /-- the product of two real numbers -/
  | product (e f : Expr)
  /-- an array made from a value -/
  | array (e : Expr)
  /-- an array outside the array library, made from a value -/
  | hostArray (e : Expr)
  | fixed (kind : FixedKind) (e : Expr)
  | form (former : Former) (operands : List Expr)
  | fail (f : Failure)
  deriving Repr, Inhabited

/-- A statement of a function body; `set` and `append` work on the attributes of the receiver. -/
inductive Stmt
  | result (e : Expr)
  | set (name : String) (e : Expr)
  | append (name : String) (e : Expr)
  | throw (kind : ErrorKind) (arguments : List Expr)
  deriving Repr, Inhabited

/-- How arguments reach a parameter. -/
inductive ParameterKind
  | positional | positionalOnly | variadic | keywordOnly | keywords
  deriving DecidableEq, Repr, Inhabited

/-- A parameter of a function. -/
structure Parameter where
  name : String
  kind : ParameterKind
  type : Option TypeForm
  default : Option Value
  deriving Repr, Inhabited

/-- Whether a positional argument can reach the parameter by its own. -/
def Parameter.isPositional (p : Parameter) : Bool :=
  p.kind == .positional || p.kind == .positionalOnly

/-- What a function does when called. -/
inductive Body
  | statements (ss : List Stmt)
  /-- stores its arguments in the attributes of the same names -/
  | fillFields (names : List String)
  /-- refuses instances of a protocol itself, and looks the real initialiser up for other classes -/
  | protocolInit
  deriving Repr, Inhabited

/-- A declared function. -/
structure Function where
  name : String
  qualifiedName : String
  home : String
  parameters : List Parameter
  /-- the annotation of the result, if there is one -/
  result : Option TypeForm
  body : Body
  deriving Repr, Inhabited

/-- A property: a getter and a setter, either of which may be missing. -/
structure Property where
  getter : Option Nat
  setter : Option Nat
  deriving DecidableEq, Repr, Inhabited

/-! ## §2 Objects and classes -/

/-- The element type of an array. -/
inductive ElementType
  | bool | int32 | int64 | float32 | float64 | complex64 | complex128
  deriving DecidableEq, Repr, Inhabited

/-- The name of an element type. -/
def ElementType.name : ElementType → String
  | bool => "bool" | int32 => "int32" | int64 => "int64" | float32 => "float32" | float64 => "float64"
  | complex64 => "complex64" | complex128 => "complex128"

/-- Numbers in rows: the element type, the lengths of the axes, the elements in row order. -/
structure ArrayContent where
  elementType : ElementType
  shape : List Nat
  elements : List Atom
  deriving DecidableEq, Repr, Inhabited

/-- What an object holds beside its attributes. -/
inductive Payload
  | plain
  | list (items : List Value)
  | tuple (items : List Value)
  | set (items : List Value)
  | dict (entries : List (Value × Value))
  /-- the number or text that an instance of a subclass stands for -/
  | atom (a : Atom)
  | array (content : ArrayContent)
  deriving DecidableEq, Repr, Inhabited

/-- An object: its class, its payload, its own attributes and its filled slots. -/
structure Object where
  cls : ClassRef
  payload : Payload
  fields : List (String × Value)
  slots : List (ClassRef × String × Value)
  deriving DecidableEq, Repr, Inhabited

/-- How a class keeps its fields as a record. -/
structure RecordTraits where
  frozen : Bool
  /-- all fields of the record, those of its ancestors included -/
  fields : List String
  deriving DecidableEq, Repr, Inhabited

/-- A declared class. -/
structure ClassInfo where
  name : String
  qualifiedName : String
  bases : List ClassRef
  /-- the bases as written, when one of them is a class applied to arguments -/
  genericBases : List TypeForm
  /-- itself first, then its ancestors in lookup order -/
  lineage : List ClassRef
  annotations : List (String × TypeForm)
  slotNames : List String
  /-- its namespace, in order -/
  entries : List (String × Value)
  isProtocol : Bool
  /-- whether instances of a protocol may be tested for -/
  isRuntimeProtocol : Bool
  metaclass : Builtin
  /-- set when the class itself, or the nearest of its ancestors that is one, is a record -/
  record : Option RecordTraits
  /-- set when the class itself was declared a record: frozen or not -/
  ownRecord : Option Bool
  /-- whether its instances keep attributes of any name -/
  hasFields : Bool
  parameters : List String
  deriving Repr, Inhabited

/-- The object world. -/
structure Store where
  classes : Array ClassInfo
  functions : Array Function
  properties : Array Property
  objects : Array Object
  nextMark : Mark
  /-- the annotation objects that are shared, by the form and the operands they were made with -/
  shared : List (Former × List TypeForm × TypeForm)
  deriving Repr, Inhabited

namespace Store

/-- The store before a program has declared anything. -/
def empty : Store := ⟨#[], #[], #[], #[], 1, []⟩

/-! ## §3 Looking classes up -/

/-- The declared class of an index; an unknown index stands for an empty class. -/
def classInfo (st : Store) (i : Nat) : ClassInfo := st.classes[i]?.getD default

/-- The simple name of a class. -/
def className (st : Store) : ClassRef → String
  | .builtin b => b.name
  | .user i => (st.classInfo i).name

/-- The name of a class that messages use. -/
def classQualifiedName (st : Store) : ClassRef → String
  | .builtin b => b.qualifiedName
  | .user i => (st.classInfo i).qualifiedName

/-- A class and its ancestors, in lookup order. -/
def lineage (st : Store) : ClassRef → List ClassRef
  | .builtin b => b.lineage.map .builtin
  | .user i => (st.classInfo i).lineage

/-- The first built-in class of a lineage. -/
def builtinBase (st : Store) (c : ClassRef) : Builtin :=
  ((st.lineage c).findSome? fun
    | .builtin b => some b
    | .user _ => none).getD .object

/-- The declared class with the given simple name; the last one of that name counts. -/
def classNamed? (st : Store) (name : String) : Option ClassRef :=
  ((List.range st.classes.size).reverse.find? fun i => (st.classInfo i).name == name).map .user

/-- The entry of a name in the namespace of a class itself. -/
def entry? (st : Store) (c : ClassRef) (name : String) : Option Value :=
  match c with
  | .user i => (st.classInfo i).entries.lookup name
  | .builtin b =>
      match b.member? name with
      | some (.routine .. ) => some (.routine (.builtin b name))
      | some (.static _) => some (.atom (.static (.builtin b name)))
      | some (.classMethod _) => some (.atom (.classMethod (.builtin b name)))
      | some .property | some .field => some (.atom (.field b name))
      | some .absent => some .nothing
      | some .constant => some (.text "")
      | none => none

/-- The first class of a lineage that has an entry for the name, with that entry. -/
def lookup? (st : Store) (c : ClassRef) (name : String) : Option (ClassRef × Value) :=
  (st.lineage c).findSome? fun k => (st.entry? k name).map (k, ·)

/-- The object at an address; an unknown address stands for an empty object. -/
def object (st : Store) (a : Address) : Object := st.objects[a]?.getD default

/-- The class of a value. -/
def classOf (st : Store) : Value → ClassRef
  | .atom (.object a) => (st.object a).cls
  | .atom a => .builtin (a.builtin?.getD .object)
  | .bound (.user _) _ => .builtin .method
  | .bound (.builtin o n) _ =>
      match o.member? n with
      | some (.routine .slotWrapper _) => .builtin .boundSlot
      | some (.routine .plain _) => .builtin .method
      | _ => .builtin .builtinFunction
  | .typeForm t => .builtin <| match t with
      | .cls (.builtin b) => b.metaclass
      | .cls (.user i) => (st.classInfo i).metaclass
      | .none => .noneType
      | .bare .list | .bare .dict | .bare .tuple | .bare .type | .bare .callable => .bareAlias
      | .bare .annotated => .type
      | .bare _ => .specialForm
      | .ellipsis => .ellipsis
      | .text _ => .str
      | .forward _ => .forwardReference
      | .variable _ | .bounded .. | .choice .. => .typeVariable
      | .union _ .subscript _ => .unionAlias
      | .union _ .bar _ => .barUnion
      | .alias _ .direct .. => .builtinAlias
      | .alias _ .generic .. | .classVar .. | .final .. => .subscriptAlias
      | .callable .. => .callableAlias
      | .annotated .. => .annotatedAlias
      | .literal .. => .literalAlias
      | .foreign f => f.value.builtin?.getD .object

/-- Puts an object into the store. -/
def allocate (st : Store) (o : Object) : Store × Value :=
  ({ st with objects := st.objects.push o }, .object st.objects.size)

end Store

/-! ## §4 Actions -/

/-- What a run of something ends with. -/
abbrev Outcome (α : Type) := Except Failure α

/-- What is done outside the operation at hand. -/
structure Runner where
  /-- calls a declared function with arguments -/
  call : Nat → List Value → Store → Outcome Value × Store
  /-- what the array library makes of a value that is no array; it only looks at the value -/
  arrayOf : Store → Value → Outcome ArrayContent
  /-- converts a value for use at a place, by the conversions that the library has at the moment -/
  coerce : Value → TypeForm → String → Store → Outcome Value × Store

/-- Something that may read and change the store, call functions, and fail. -/
abbrev Action (α : Type) := ReaderT Runner (ExceptT Failure (StateM Store)) α

namespace Action

/-- Runs an action with a way to call functions. -/
def perform {α : Type} (x : Action α) (run : Runner) (st : Store) : Outcome α × Store :=
  ((x run).run).run st

/-- Fails with a fault of the object world. -/
def fault {α : Type} (k : ErrorKind) : Action α := throw (.fault k)

/-- The result or the failure of a computation that needs no store. -/
def ofOutcome {α : Type} : Outcome α → Action α
  | .ok a => pure a
  | .error f => throw f

/-- Calls a declared function. -/
def callFunction (id : Nat) (arguments : List Value) : Action Value :=
  fun run => ExceptT.mk fun st => run.call id arguments st

/-- What the array library makes of a value. -/
def arrayContent (v : Value) : Action ArrayContent :=
  fun run => ExceptT.mk fun st => (run.arrayOf st v, st)

/-- Turns to the library for the conversion of a value, from code that a program has added. -/
def askToCoerce (v : Value) (t : TypeForm) (place : String) : Action Value :=
  fun run => ExceptT.mk fun st => run.coerce v t place st

/-- Puts a new object into the store. -/
def allocate (o : Object) : Action Value := do
  let st ← get
  let (st, v) := st.allocate o
  set st
  return v

/-- Puts a new container or other plain object of a built-in class into the store. -/
def allocateBuiltin (b : Builtin) (p : Payload) : Action Value :=
  allocate ⟨.builtin b, p, [], []⟩

/-- Changes the object at an address. -/
def modifyObject (a : Address) (f : Object → Object) : Action Unit :=
  modify fun st => { st with objects := st.objects.modify a f }

/-- Changes a declared class. -/
def modifyClass (i : Nat) (f : ClassInfo → ClassInfo) : Action Unit :=
  modify fun st => { st with classes := st.classes.modify i f }

/-- A mark that no annotation object carries yet. -/
def freshMark : Action Mark := do
  let st ← get
  set { st with nextMark := st.nextMark + 1 }
  return st.nextMark

end Action
end MemberAccess
