import MemberAccess.TypeForm.Formation
import MemberAccess.Value.Call
import MemberAccess.Value.Raise

/-!
# Running programs

Evaluation of expressions, execution of function bodies, and the one place where calls and bodies meet:
`runFunction` runs a body with a bound on how many calls may be nested, and an exhausted bound is the
fault of a recursion that goes too deep.

Arguments are bound to parameters before a body starts; a call that does not fit the parameters is a
fault and runs nothing.
-/

namespace MemberAccess

open MemberAccess.Action Number

/-! ## §1 Sums and products -/

namespace Value

/-- The whole number that an atom counts as. -/
def wholeOfAtom? : Atom → Option Int
  | .bool b => some (if b then 1 else 0)
  | .int n => some n
  | _ => none

/-- The floating-point number that an atom counts as. -/
def realOfAtom? : Atom → Option (Action Double)
  | .float x => some (pure x)
  | a => (wholeOfAtom? a).map floatOfInt

/-- The product of two real numbers. -/
def multiply (v w : Value) : Action Value := do
  let st ← get
  match st.atomOf? v, st.atomOf? w with
  | some a, some b =>
      match wholeOfAtom? a, wholeOfAtom? b with
      | some m, some n => return .int (m * n)
      | _, _ =>
          match realOfAtom? a, realOfAtom? b with
          | some x, some y => return .float ((← x).mul (← y))
          | _, _ => fault .typeError
  | _, _ => fault .typeError

/-- The sum of two numbers that are atoms. -/
def addAtoms (a b : Atom) : Action Value := do
  let asRatio : Atom → Option (Int × Nat)
    | .fraction n d => some (n, d)
    | .bool b => some (if b then 1 else 0, 1)
    | .int n => some (n, 1)
    | _ => none
  match a, b with
  | .text s, .text t => return .text (s ++ t)
  | .bytes s, .bytes t => return .atom (.bytes (s ++ t))
  | _, _ =>
      match wholeOfAtom? a, wholeOfAtom? b with
      | some m, some n => return .int (m + n)
      | _, _ =>
          let real : Atom → Action Double := fun x => (floatOfAtom? x).getD (fault .typeError)
          match a, b with
          | .complex p q, .complex r s => return .complex (p.add r) (q.add s)
          | .complex p q, .float _ | .complex p q, .int _ | .complex p q, .bool _ =>
              return .complex (p.add (← real b)) (q.add (Double.zero false))
          | .float _, .complex r s | .int _, .complex r s | .bool _, .complex r s =>
              return .complex ((← real a).add r) ((Double.zero false).add s)
          | .float x, .float y => return .float (x.add y)
          | .float x, .int _ | .float x, .bool _ | .float x, .fraction .. =>
              return .float (x.add (← real b))
          | .int _, .float y | .bool _, .float y | .fraction .., .float y =>
              return .float ((← real a).add y)
          | _, _ =>
              match asRatio a, asRatio b with
              | some (n, d), some (m, e) =>
                  let num := n * e + m * d
                  let den := d * e
                  let g := Int.gcd num den
                  return .atom (.fraction (num / g) (den / g))
              | _, _ => fault .typeError

/-- The sum of two values: numbers, texts, lists or tuples. -/
def add (v w : Value) : Action Value := do
  let st ← get
  match st.specialMethod? v "__add__" with
  | some id => callFunction id [v, w]
  | none =>
      match st.atomOf? v, st.atomOf? w with
      | some a, some b => addAtoms a b
      | _, _ =>
          match v, w with
          | .object a, .object b =>
              match (st.object a).payload, (st.object b).payload with
              | .list xs, .list ys => allocateBuiltin .list (.list (xs ++ ys))
              | .tuple xs, .tuple ys => allocateBuiltin .tuple (.tuple (xs ++ ys))
              | _, _ => fault .typeError
          | _, _ => fault .typeError

end Value

/-! ## §2 Expressions -/

/-- What names mean where an expression stands. -/
structure Scope where
  /-- parameters and other names bound to values -/
  bound : List (String × Value)
  /-- classes and forms of annotation -/
  named : Store → String → Option Value
  /-- the failure of a name that means nothing -/
  unknown : Failure

/-- The built-in classes and forms that annotations name. -/
def typeFormNamed? (name : String) : Option TypeForm :=
  let classes : List Builtin :=
    [.int, .float, .complex, .str, .bytes, .bool, .list, .tuple, .dict, .set, .frozenset, .object,
     .type, .range, .any, .noneType, .number, .complexNumber, .realNumber, .rationalNumber,
     .integralNumber, .fraction, .decimal, .sequence, .mapping, .iterable, .sized, .callable,
     .generic, .protocol, .array]
  if name = "..." then some .ellipsis
  else
    match classes.find? fun b => b.name == name with
    | some b => some (.builtin b)
    | none =>
        match name with
        | "List" => some (.bare .list)
        | "Dict" => some (.bare .dict)
        | "Tuple" => some (.bare .tuple)
        | "Type" => some (.bare .type)
        | "ClassVar" => some (.bare .classVar)
        | _ => none

/-- What a name means as a type: a declared class first, then the built-in ones. -/
def Store.typeNamed? (st : Store) (name : String) : Option Value :=
  match st.classNamed? name with
  | some c => some (.cls c)
  | none => (typeFormNamed? name).map .typeForm

/-- The scope of a function body, whose only variables are its parameters. -/
def Scope.ofBody (bound : List (String × Value)) : Scope :=
  ⟨bound, Store.typeNamed?, .fault .keyError⟩

/-- Applies a form of annotation to values. -/
def Former.apply (former : Former) (operands : List Value) : Action Value := do
  let st ← get
  let ts := operands.map st.typeFormOf
  let t ← match former, ts with
    | .union, ts => TypeForm.unionOf ts
    | .optional, [t] => TypeForm.optionalOf t
    | .bar, ts => TypeForm.barsOf ts
    | .subscript, t :: ts => TypeForm.subscriptOf t ts
    | .callable, r :: ps => TypeForm.callableOf ps r
    | .classVar, [t] => TypeForm.classVarOf t
    | .final, [t] => TypeForm.finalOf t
    | .annotated notes, [t] => TypeForm.annotatedOf t notes
    | .literal, ts => TypeForm.literalOf (ts.map TypeForm.subscriptOf.literalValue)
    | .forward s, [] => ofOutcome (TypeForm.forwardOf s)
    | _, _ => fault .typeError
  return t.toValue

mutual
/-- The value of an expression. -/
def Expr.eval (scope : Scope) : Expr → Action Value
  | .constant v => return v
  | .variable n =>
      match scope.bound.lookup n with
      | some v => return v
      | none => throw scope.unknown
  | .named n => do
      match scope.named (← get) n with
      | some v => return v
      | none => throw scope.unknown
  | .member e n => do (← Expr.eval scope e).getAttribute n
  | .call f es => do
      let f ← Expr.eval scope f
      let vs ← Expr.evalAll scope es
      f.call vs
  | .list es => do allocateBuiltin .list (.list (← Expr.evalAll scope es))
  | .tuple es => do allocateBuiltin .tuple (.tuple (← Expr.evalAll scope es))
  | .set es => do allocateBuiltin .set (.set (← Value.distinctItems (← Expr.evalAll scope es)))
  | .dict ks vs => do
      let ks ← Expr.evalAll scope ks
      let vs ← Expr.evalAll scope vs
      allocateBuiltin .dict (.dict (← Value.entriesOf ks vs))
  | .replicate e n => do
      let v ← Expr.eval scope e
      allocateBuiltin .list (.list (List.replicate n.toNat v))
  | .sum es => do
      match ← Expr.evalAll scope es with
      | [] => fault .indexError
      | v :: vs => vs.foldlM Value.add v
  | .product e f => do
      let v ← Expr.eval scope e
      v.multiply (← Expr.eval scope f)
  | .array e => do (← Expr.eval scope e).asArray
  | .hostArray e => do (← Expr.eval scope e).asHostArray
  | .fixed k e => do (← Expr.eval scope e).asFixed k
  | .form former es => do former.apply (← Expr.evalAll scope es)
  | .fail f => throw f

/-- The values of expressions, from left to right. -/
def Expr.evalAll (scope : Scope) : List Expr → Action (List Value)
  | [] => return []
  | e :: es => do
      let v ← Expr.eval scope e
      let vs ← Expr.evalAll scope es
      return v :: vs
end

/-! ## §3 Bodies -/

/-- Binds arguments to parameters. -/
def bindParameters : List Parameter → List Value → Action (List (String × Value))
  | [], [] => return []
  | [], _ :: _ => fault .typeError
  | p :: ps, vs => do
      match p.kind with
      | .positional | .positionalOnly =>
          match vs, p.default with
          | v :: vs, _ => return (p.name, v) :: (← bindParameters ps vs)
          | [], some v => return (p.name, v) :: (← bindParameters ps [])
          | [], none => fault .typeError
      | .variadic =>
          let rest ← allocateBuiltin .tuple (.tuple vs)
          return (p.name, rest) :: (← bindParameters ps [])
      | .keywordOnly =>
          match p.default with
          | some v => return (p.name, v) :: (← bindParameters ps vs)
          | none => fault .typeError
      | .keywords =>
          let rest ← allocateBuiltin .dict (.dict [])
          return (p.name, rest) :: (← bindParameters ps vs)

/-- The receiver of a body. -/
def Scope.receiver (scope : Scope) : Action Value :=
  match scope.bound.lookup "self" with
  | some v => return v
  | none => throw scope.unknown

/-- Executes the statements of a body; without a result it gives the absent value. -/
def Stmt.execAll (scope : Scope) : List Stmt → Action Value
  | [] => return .nothing
  | s :: ss => do
      match s with
      | .result e => e.eval scope
      | .set n e =>
          let x ← e.eval scope
          (← scope.receiver).setAttribute n x
          Stmt.execAll scope ss
      | .append n e =>
          let xs ← (← scope.receiver).getAttribute n
          let x ← e.eval scope
          let append ← xs.getAttribute "append"
          discard <| append.call [x]
          Stmt.execAll scope ss
      | .throw kind es =>
          let vs ← Expr.evalAll scope es
          let f ← ofOutcome (Failure.ofValues (← get) kind vs [])
          throwThe Failure f

/-- Whether a class is a frozen record or below one. -/
def Store.isFrozen (st : Store) (c : ClassRef) : Bool :=
  (st.lineage c).any fun
    | .user i => (st.classInfo i).ownRecord == some true
    | .builtin _ => false

/-- Stores arguments in the attributes of the same names: past all methods for it where the object is
frozen. -/
def fillFields (bound : List (String × Value)) (names : List String) : Action Unit := do
  match bound.lookup "self" with
  | some (.object a) =>
      for n in names do
        match bound.lookup n with
        | some x =>
            if (← get).isFrozen ((← get).classOf (.object a)) then (Value.object a).storeField a n x
            else (Value.object a).setAttribute n x
        | none => pure ()
  | _ => fault .attributeError

/-- Runs the initialiser that a class following a protocol has in truth: the first in its order that is
not the protocols' own. -/
def followProtocolInit (arguments : List Value) : Action Value := do
  match arguments with
  | self :: rest =>
      let st ← get
      let c := st.classOf self
      if st.isProtocol c then fault .typeError
      else
        let isOwn : Value → Bool
          | .routine (.user id) => !((st.functions[id]?.getD default).body matches .protocolInit)
          | _ => true
        let real := (st.lineage c).findSome? fun k =>
          match st.entry? k "__init__" with
          | some e => if isOwn e then some e else none
          | none => none
        match c, real with
        | .user i, some e => do
            modifyClass i fun k => { k with entries := Value.putNamed "__init__" e k.entries }
            match e with
            | .routine (.user id) => callFunction id arguments
            | .routine (.builtin o _) => Value.callBuiltin o "__init__" self rest
            | _ => fault .typeError
        | _, _ => fault .typeError
  | [] => fault .typeError

/-- Runs a declared function on arguments. -/
def Function.run (f : Function) (arguments : List Value) : Action Value := do
  match f.body with
  | .protocolInit => followProtocolInit arguments
  | .statements ss =>
      let bound ← bindParameters f.parameters arguments
      Stmt.execAll (Scope.ofBody bound) ss
  | .fillFields names =>
      let bound ← bindParameters f.parameters arguments
      fillFields bound names
      return .nothing

/-- The runner that calls functions in a given way.  Bodies of functions have no way to turn to the
library. -/
def Runner.ofCalls (call : Nat → List Value → Store → Outcome Value × Store) : Runner where
  call := call
  arrayOf := ArrayContent.ofValue
  coerce := fun _ _ _ st => (.error (.fault .nameError), st)

/-- Calls declared functions with at most the given count of nested calls. -/
def runFunction : Nat → Runner
  | 0 => .ofCalls fun _ _ st => (.error (.fault .recursionError), st)
  | depth + 1 => .ofCalls fun id arguments st =>
      ((st.functions[id]?.getD default).run arguments).perform (runFunction depth) st

/-- How many calls may be nested. -/
def callDepth : Nat := 900

/-- Runs an action in a store. -/
def Action.run {α : Type} (x : Action α) (st : Store) : Outcome α × Store :=
  x.perform (runFunction callDepth) st

end MemberAccess
