import MemberAccess.Value.Run

/-!
# Declarations

What a program writes down to declare a class: its bases, the annotations of its fields, its slots, and
its members.  Types and default values stand as expressions; they are evaluated once, when the class is
declared.
-/

namespace MemberAccess.Declaration

/-- A parameter as written. -/
structure ParameterDecl where
  name : String
  kind : ParameterKind
  type : Option Expr
  default : Option Expr
  deriving Inhabited

/-- A function as written. -/
structure FunctionDecl where
  name : String
  qualifiedName : Option String
  home : String
  /-- whether a receiver stands in front of the parameters, and under which name -/
  receiver : Option String
  parameters : List ParameterDecl
  result : Option Expr
  body : List Stmt
  deriving Inhabited

/-- How a function stands in its class. -/
inductive Role
  | method | static | classMethod
  deriving DecidableEq, Repr, Inhabited

/-- A member as written. -/
inductive MemberDecl
  | function (role : Role) (name : String) (f : FunctionDecl)
  | property (name : String) (getter setter : Option FunctionDecl)
  | value (name : String) (e : Expr)
  deriving Inhabited

/-- The slots of a class as written: one name alone, or a list of names. -/
inductive SlotsDecl
  | single (name : String)
  | many (names : List String)
  deriving Inhabited

/-- How a class is to be made a record. -/
structure RecordDecl where
  frozen : Bool
  keywordOnly : Bool
  withInit : Bool
  deriving DecidableEq, Repr, Inhabited

/-- A class as written. -/
structure ClassDecl where
  name : String
  qualifiedName : Option String
  bases : List Expr
  annotations : List (String × Expr)
  slots : Option SlotsDecl
  members : List MemberDecl
  runtime : Bool
  record : Option RecordDecl
  deriving Inhabited

/-- The names of slots. -/
def SlotsDecl.names : SlotsDecl → List String
  | .single n => [n]
  | .many ns => ns

/-- The scope in which declarations are evaluated. -/
def scope : Scope := ⟨[], Store.typeNamed?, .fault .keyError⟩

open MemberAccess.Action

/-- Evaluates an expression that stands for a type. -/
def typeForm (e : Expr) : Action TypeForm := do
  let v ← e.eval scope
  return (← get).typeFormOf v

/-- Declares a function and gives its number. -/
def addFunction (f : Function) : Action Nat := do
  let st ← get
  set { st with functions := st.functions.push f }
  return st.functions.size

/-- Declares a parameter. -/
def parameter (p : ParameterDecl) : Action Parameter := do
  let t ← p.type.mapM typeForm
  let d ← p.default.mapM fun e => e.eval scope
  return ⟨p.name, p.kind, t, d⟩

/-- Declares a function of a class; no two parameters may have one name. -/
def function (className : String) (f : FunctionDecl) : Action Nat := do
  let names := f.receiver.toList ++ f.parameters.map (·.name)
  if names.eraseDups.length != names.length then fault .syntaxError
  let ps ← f.parameters.mapM parameter
  let result ← f.result.mapM typeForm
  let receiver := f.receiver.toList.map fun n => ⟨n, .positional, none, none⟩
  addFunction {
    name := f.name
    qualifiedName := f.qualifiedName.getD (className ++ "." ++ f.name)
    home := f.home
    parameters := receiver ++ ps
    result := result
    body := .statements f.body }

/-- Declares a member and gives its entry in the namespace of the class. -/
def member (className : String) : MemberDecl → Action (String × Value)
  | .function role name f => do
      let id ← function className f
      let role := if name = "__new__" then .static
        else if name = "__init_subclass__" || name = "__class_getitem__" then
          (if role = .method then .classMethod else role)
        else role
      return (name, match role with
        | .method => .routine (.user id)
        | .static => .atom (.static (.user id))
        | .classMethod => .atom (.classMethod (.user id)))
  | .property name getter setter => do
      let g ← getter.mapM (function className)
      let s ← setter.mapM (function className)
      let st ← get
      set { st with properties := st.properties.push ⟨g, s⟩ }
      return (name, .atom (.property st.properties.size))
  | .value name e => do return (name, ← e.eval scope)

end MemberAccess.Declaration
