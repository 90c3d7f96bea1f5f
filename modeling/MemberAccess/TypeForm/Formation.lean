import MemberAccess.TypeForm.Printing
import MemberAccess.TypeForm.Source

/-!
# Forming annotations

Applying a form of annotation to operands.  A form checks its operands, flattens what is flat by
nature, drops what is said twice, and most forms are *shared*: asked twice for equal operands, they give
the object made the first time, in the first spelling.  Operands that no table can hold give a new
object each time.
-/

namespace MemberAccess.TypeForm

open MemberAccess.Action

/-! ## §1 Operands -/

/-- A text as a name to be looked up later; it has to be an expression. -/
def forwardOf (s : String) : Outcome TypeForm :=
  match Source.read? s with
  | some _ => .ok (.forward s)
  | Option.none => .error (.fault .syntaxError)

/-- The absent value stands for its class and a text for a name. -/
def convertOperand : TypeForm → Outcome TypeForm
  | .none => .ok (.builtin .noneType)
  | .text s => forwardOf s
  | t => .ok t

/-- Where an operand stands: as an argument, and whether in the annotations of a class. -/
structure Place where
  asArgument : Bool
  inClass : Bool
  deriving DecidableEq, Repr

/-- The place of an operand of a form. -/
def Place.operand : Place := ⟨true, false⟩

/-- Refuses what cannot be an operand at the given place. -/
def checkOperand (place : Place) (t : TypeForm) : Outcome TypeForm := do
  let t ← convertOperand t
  let refuse : Outcome TypeForm := .error (.fault .typeError)
  match t with
  | .classVar .. => if place.inClass then return t else refuse
  | .final .. => if place.asArgument && !place.inClass then refuse else return t
  | .alias _ .generic (.builtin .generic) _ | .alias _ .generic (.builtin .protocol) _ => refuse
  | .bare .classVar | .bare .final => if place.inClass then return t else refuse
  | .bare .union | .bare .optional | .bare .literal => refuse
  | .builtin .generic | .builtin .protocol => refuse
  | .foreign f => if f.printed.startsWith "(" && f.value matches .object _ then refuse else return t
  | _ => return t

/-- Checks a list of operands from left to right. -/
def checkOperands (place : Place) : List TypeForm → Outcome (List TypeForm)
  | [] => .ok []
  | t :: ts => do
      let t ← checkOperand place t
      let ts ← checkOperands place ts
      return t :: ts

/-! ## §2 Sharing -/

/-- Gives the object that was made for equal operands before, or makes one and keeps it. -/
def shared (former : Former) (operands : List TypeForm) (make : Action TypeForm) :
    Action TypeForm := do
  if !hashableList operands then make
  else
    let st ← get
    match st.shared.find? fun (f, ts, _) => f == former && equalList ts operands with
    | some (_, _, t) => return t
    | Option.none =>
        let t ← make
        modify fun st => { st with shared := (former, operands, t) :: st.shared }
        return t

/-! ## §3 Forms -/

/-- The members of the unions in a list, and the rest as it is. -/
def flatten (ts : List TypeForm) : List TypeForm :=
  ts.flatMap fun
    | .union _ _ ms => ms
    | t => [t]

/-- The union of checked members: flat, each said once, and a single one left is that member. -/
def unionOfMembers (ts : List TypeForm) : Action TypeForm := do
  match distinct (flatten ts) with
  | [t] => return t
  | ts => return .union (← freshMark) .subscript ts

/-- The union form. -/
def unionOf (operands : List TypeForm) : Action TypeForm :=
  shared .union operands do
    if operands.isEmpty then fault .typeError
    let ts ← ofOutcome (checkOperands .operand operands)
    unionOfMembers ts

/-- The union of a type and the class of the absent value. -/
def optionalOf (operand : TypeForm) : Action TypeForm :=
  shared .optional [operand] do
    let t ← ofOutcome (checkOperand .operand operand)
    unionOf [t, .builtin .noneType]

/-- What can stand beside a bar without being looked at further: classes, directly applied classes, the
absent value and what was made with bars. -/
def isPlainAlternative : TypeForm → Bool
  | .none | .cls _ | .alias _ .direct .. | .union _ .bar _ => true
  | _ => false

/-- What knows by itself how to stand beside a bar. -/
def takesBar : TypeForm → Bool
  | .none | .text _ | .foreign _ | .ellipsis => false
  | _ => true

/-- The alternatives of a plain union, each said once: applied classes compared by equality, all else
as objects. -/
def plainMembers (ts : List TypeForm) : List TypeForm :=
  let flat := ts.flatMap fun
    | .union _ .bar ms => ms
    | .none => [.builtin .noneType]
    | t => [t]
  flat.foldl (fun kept t =>
    if kept.any fun k => match k, t with
      | .alias .., .alias .. => equal k t
      | _, _ => k == t
    then kept else kept ++ [t]) []

/-- Two alternatives with a bar between them. -/
def barOf (a b : TypeForm) : Action TypeForm := do
  if isPlainAlternative a && isPlainAlternative b then
    if a == .none && b == .none then fault .typeError
    match plainMembers [a, b] with
    | [t] => return t
    | ts => return .union (← freshMark) .bar ts
  else if takesBar a || takesBar b then unionOf [a, b]
  else fault .typeError

/-- Alternatives with bars between them, taken from the left. -/
def barsOf : List TypeForm → Action TypeForm
  | [] => fault .typeError
  | t :: ts => ts.foldlM barOf t

/-- A class variable of the given type. -/
def classVarOf (operand : TypeForm) : Action TypeForm :=
  shared .classVar [operand] do
    let t ← ofOutcome (checkOperand .operand operand)
    return .classVar (← freshMark) t

/-- A final variable of the given type. -/
def finalOf (operand : TypeForm) : Action TypeForm :=
  shared .final [operand] do
    let t ← ofOutcome (checkOperand .operand operand)
    return .final (← freshMark) t

/-- A type with notes; notes on an annotated type join its own. -/
def annotatedOf (operand : TypeForm) (notes : List String) : Action TypeForm :=
  shared (.annotated notes) [operand] do
    let t ← ofOutcome (checkOperand ⟨true, true⟩ operand)
    match t with
    | .annotated _ inner more => return .annotated (← freshMark) inner (more ++ notes)
    | t => return .annotated (← freshMark) t notes

/-- A callable with the given parameters and result. -/
def callableOf (parameters : List TypeForm) (result : TypeForm) : Action TypeForm :=
  shared .callable (result :: parameters) do
    let r ← ofOutcome (checkOperand .operand result)
    let ps ← parameters.mapM fun p => ofOutcome (convertOperand p)
    return .callable (← freshMark) ps r

/-- A choice of literal values, each said once. -/
def literalOf (values : List Foreign) : Action TypeForm := do
  if values.all (·.hashable) then
    let kept := values.foldl (fun kept v =>
      if kept.any v.sameLiteral then kept else kept ++ [v]) []
    shared .literal (values.map .foreign) do return .literal (← freshMark) kept
  else return .literal (← freshMark) values

/-- A class applied through its generic spelling. -/
def genericAliasOf (origin : ClassRef) (count : Option Nat) (operands : List TypeForm) :
    Action TypeForm :=
  shared .subscript (.cls origin :: operands) do
    let ts ← ofOutcome (checkOperands .operand operands)
    if (count.map (· != ts.length)).getD false then fault .typeError
    return .alias (← freshMark) .generic origin ts

/-- A class applied directly: its arguments are kept as they are. -/
def directAliasOf (origin : ClassRef) (operands : List TypeForm) : Action TypeForm := do
  return .alias (← freshMark) .direct origin operands

/-- The name of a type variable. -/
def variableName? : TypeForm → Option String
  | .variable n | .bounded n _ | .choice n _ => some n
  | _ => Option.none

/-- A class applied to arguments: through the generic spelling when the class is generic, directly when
it is a container, and not at all otherwise. -/
def classAliasOf (c : ClassRef) (operands : List TypeForm) : Action TypeForm := do
  let st ← get
  if c = .builtin .type then directAliasOf c operands
  else
    match st.lookup? c "__class_getitem__" with
    | some (.builtin .generic, _) =>
        if c = .builtin .generic || c = .builtin .protocol then
          let names := operands.filterMap variableName?
          if names.length != operands.length || names.eraseDups.length != names.length then
            fault .typeError
          shared .subscript (.cls c :: operands) do
            return .alias (← freshMark) .generic c operands
        else
          match c with
          | .builtin _ => fault .typeError
          | .user i =>
              let count := (st.classInfo i).parameters.length
              if count = 0 then fault .typeError
              shared .subscript (.cls c :: operands) do
                let ts ← operands.mapM fun t => ofOutcome (convertOperand t)
                if ts.length != count then fault .typeError
                return .alias (← freshMark) .generic c ts
    | some _ => directAliasOf c operands
    | Option.none => fault .typeError

/-- An annotation applied to arguments. -/
def subscriptOf (head : TypeForm) (operands : List TypeForm) : Action TypeForm := do
  match head, operands with
  | .cls c, ts => classAliasOf c ts
  | .bare .list, ts => genericAliasOf (.builtin .list) (some 1) ts
  | .bare .dict, ts => genericAliasOf (.builtin .dict) (some 2) ts
  | .bare .tuple, ts => genericAliasOf (.builtin .tuple) Option.none ts
  | .bare .type, ts => genericAliasOf (.builtin .type) (some 1) ts
  | .bare .union, ts => unionOf ts
  | .bare .optional, [t] => optionalOf t
  | .bare .classVar, [t] => classVarOf t
  | .bare .final, [t] => finalOf t
  | .bare .literal, ts => literalOf (ts.map literalValue)
  | .bare .annotated, t :: n :: ns =>
      annotatedOf t ((n :: ns).map fun
        | .text s => s
        | .foreign f => f.printed
        | _ => "")
  | _, _ => fault .typeError
where
  /-- An operand as a literal value. -/
  literalValue : TypeForm → Foreign
    | .none => ⟨.none, "None", true⟩
    | .text s => ⟨.text s, Text.quoted s, true⟩
    | .foreign f => f
    | _ => ⟨.none, "", true⟩

/-- A type variable with a bound, a choice of types, or neither; the absent value is no bound. -/
def variableOf (name : String) (bound : Option TypeForm) (choices : List TypeForm) :
    Action TypeForm := do
  let bound ← (bound.filter (· ≠ .none)).mapM fun b => ofOutcome (checkOperand .operand b)
  match bound, choices with
  | some b, [] => return .bounded name b
  | Option.none, [] => return .variable name
  | some _, _ :: _ | Option.none, [_] => fault .typeError
  | Option.none, ts =>
      let ts ← ofOutcome (checkOperands .operand ts)
      return .choice name (← unionOf ts)

end MemberAccess.TypeForm
