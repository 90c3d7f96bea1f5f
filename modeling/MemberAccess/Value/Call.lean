import MemberAccess.Value.Array
import MemberAccess.Value.Equality

/-!
# Calls

Calling a value: a function, a routine bound to its receiver, or a class.  Calling a class makes an
instance in two steps.  The first makes the object: through the class's own way of making one if it has
one, else an object over the nearest built-in class.  The second, taken when the object is an instance of
the class, hands the arguments to its initialiser.
-/

namespace MemberAccess

open MemberAccess.Action Number

namespace Store

/-- The abstract methods that a class still has to define. -/
def missingMethods (st : Store) (c : ClassRef) : List String :=
  (st.lineage c).flatMap fun
    | .user _ => []
    | .builtin b => b.abstractMethods.filter fun n =>
        match st.lookup? c n with
        | some (.builtin o, _) => o.abstractMethods.contains n
        | _ => false

/-- Whether the general initialiser lets arguments pass: they were for the class's own way of making an
instance, and the class has no initialiser of its own. -/
def ignoresInitArguments (st : Store) (c : ClassRef) : Bool :=
  let isGeneral (name : String) : Bool := match st.lookup? c name with
    | some (.builtin .object, _) | none => true
    | _ => false
  isGeneral "__init__" && !isGeneral "__new__"

/-- Whether a value can be called. -/
def isCallable (st : Store) : Value → Bool
  | .routine _ | .bound .. | .cls _ | .typeForm (.alias ..) | .typeForm (.callable ..) => true
  | .atom (.static _) => true
  | .atom (.handle .accessor _) => true
  | .typeForm (.bare _) | .typeForm (.union _ .subscript _) => true
  | .object a => st.providesMember (st.object a).cls "__call__"
  | _ => false

end Store

namespace Value

/-! ## §1 Items -/

/-- The items of a value that can be walked through. -/
def items (v : Value) : Action (List Value) := do
  let st ← get
  match st.atomOf? v with
  | some (.text s) => return s.toList.map fun c => .text (String.singleton c)
  | some (.bytes bs) => return bs.map fun b => .int b.toNat
  | some (.range s t u) => return (Atom.rangeItems s t u).map .int
  | some _ => fault .typeError
  | none =>
      match v with
      | .object a =>
          match (st.object a).payload with
          | .list xs | .tuple xs | .set xs => return xs
          | .dict kvs => return kvs.map (·.1)
          | _ => fault .typeError
      | _ => fault .typeError

/-- The count of items of a value that has one. -/
def itemCount (v : Value) : Action Nat := do
  let st ← get
  match st.specialMethod? v "__len__" with
  | some id =>
      match st.atomOf? (← callFunction id [v]) with
      | some (.int n) => if 0 ≤ n then return n.toNat else fault .valueError
      | _ => fault .typeError
  | none =>
      match st.arrayOf? v with
      | some c =>
          match c.shape with
          | n :: _ => return n
          | [] => fault .typeError
      | none => return (← items v).length

/-- The item at a place of a built-in sequence, or under a key of a built-in dictionary. -/
def builtinItemAt (v : Value) (i : Nat) : Action Value := do
  let st ← get
  match v with
  | .object a =>
      match (st.object a).payload with
      | .list xs | .tuple xs =>
          match xs[i]? with
          | some x => return x
          | none => fault .indexError
      | .dict kvs =>
          match kvs.find? fun (k, _) => st.equal k (.int i) with
          | some (_, x) => return x
          | none =>
              match st.specialMethod? v "__missing__" with
              | some id => callFunction id [v, .int i]
              | none => fault .keyError
      | .array c =>
          match c.shape with
          | _ :: rest =>
              let size := rest.foldl (· * ·) 1
              let row := (c.elements.drop (i * size)).take size
              allocateBuiltin .arrayValue (.array ⟨c.elementType, rest, row⟩)
          | [] => fault .typeError
      | .atom _ =>
          match (← items v)[i]? with
          | some x => return x
          | none => fault .indexError
      | _ => fault .typeError
  | .atom (.text _) | .atom (.bytes _) | .atom (.range ..) =>
      match (← items v)[i]? with
      | some x => return x
      | none => fault .indexError
  | _ => fault .typeError

/-- The item at a place of a value: by the method that its class has for it, or in the built-in way. -/
def itemAt (v : Value) (i : Nat) : Action Value := do
  match (← get).specialMethod? v "__getitem__" with
  | some id => callFunction id [v, .int i]
  | none => v.builtinItemAt i

/-- Drops the values that equal an earlier one; each needs a hash. -/
def distinctItems (vs : List Value) : Action (List Value) := do
  let st ← get
  if vs.all st.isHashable then
    return vs.foldl (fun kept v => if kept.any (st.equal · v) then kept else kept ++ [v]) []
  else fault .typeError

/-- The entries of a dictionary written with the given keys and values; a later value of a key wins. -/
def entriesOf (keys values : List Value) : Action (List (Value × Value)) := do
  let st ← get
  if keys.all st.isHashable then
    return (keys.zip values).foldl (fun kept (k, x) =>
      if kept.any fun e => st.equal e.1 k then
        kept.map fun e => if st.equal e.1 k then (e.1, x) else e
      else kept ++ [(k, x)]) []
  else fault .typeError

/-! ## §2 Built-in instances -/

/-- The integer that a value converts to when an integer is made of it. -/
def wholeOf (v : Value) : Action Int := do
  let st ← get
  match st.specialMethod? v "__int__" with
  | some id => exactInt (← callFunction id [v])
  | none =>
      let ofFloat (x : Double) : Action Int :=
        match x.ratio? with
        | some (n, d) => return n.tdiv d
        | none => if x.isNaN then fault .valueError else fault .overflowError
      match st.atomOf? v with
      | some (.float x) | some (.fixed (.float32 x)) | some (.fixed (.float64 x)) => ofFloat x
      | some (.fraction n d) => return n.tdiv d
      | some (.decimal (.finite neg n e)) =>
          let (a, b) := DecimalPoint.ratio ⟨n, e⟩
          return if neg then -(a / b : Nat) else (a / b : Nat)
      | some (.decimal (.infinite _)) => fault .overflowError
      | some (.decimal _) => fault .valueError
      | some (.fixed (.truth b)) => return if b then 1 else 0
      | some (.text s) =>
          match Text.integer? s with
          | some n => return n
          | none => fault .valueError
      | _ => toIndex v

/-- The atom that an instance of a number or text class stands for. -/
def atomFor (b : Builtin) (arguments : List Value) : Action Atom := do
  let st ← get
  match b, arguments with
  | .int, [] => return .int 0
  | .int, [v] => return .int (← wholeOf v)
  | .float, [] => return .float (Double.zero false)
  | .float, [v] => return .float (← toFloat v)
  | .complex, [] => return .complex (Double.zero false) (Double.zero false)
  | .complex, [v] =>
      let (re, im) ← toComplex v
      return .complex re im
  | .complex, [v, w] =>
      let (a, b) ← toComplex v
      let (c, d) ← toComplex w
      return .complex (a.sub d) (b.add c)
  | .str, [] => return .text ""
  | .str, [v] => return .text (st.textOf v)
  | .bytes, [] => return .bytes []
  | .bytes, [v] =>
      match st.atomOf? v with
      | some (.bytes bs) => return .bytes bs
      | some (.int n) =>
          if 0 ≤ n then return .bytes (List.replicate n.toNat 0) else fault .valueError
      | _ => fault .typeError
  | .bool, [] => return .bool false
  | .bool, [v] => return .bool (st.isTrue v)
  | .range, [v] => return .range 0 (← toIndex v) 1
  | .range, [v, w] => return .range (← toIndex v) (← toIndex w) 1
  | .range, [v, w, s] =>
      let step ← toIndex s
      if step = 0 then fault .valueError else return .range (← toIndex v) (← toIndex w) step
  | .fraction, [] => return .fraction 0 1
  | .fraction, [v] =>
      match st.atomOf? v with
      | some (.fraction n d) => return .fraction n d
      | some (.float x) =>
          match x.ratio? with
          | some (n, d) => return .fraction (n / (Int.gcd n d)) (d / (Int.gcd n d))
          | none => if x.isNaN then fault .valueError else fault .overflowError
      | _ => return .fraction (← exactInt v) 1
  | .fraction, [v, w] =>
      let n ← exactInt v
      let d ← exactInt w
      if d = 0 then fault .zeroDivisionError
      else
        let g := Int.gcd n d
        let sign : Int := if d < 0 then -1 else 1
        return .fraction (sign * n / g) (d.natAbs / g)
  | .decimal, [] => return .decimal (.finite false 0 0)
  | .decimal, [v] =>
      match st.atomOf? v with
      | some (.decimal d) => return .decimal d
      | some (.int n) => return .decimal (.finite (n < 0) n.natAbs 0)
      | some (.bool b) => return .decimal (.finite false (if b then 1 else 0) 0)
      | some (.text s) =>
          match Decimal.parse? s with
          | some d => return .decimal d
          | none => fault (.other "InvalidOperation")
      | _ => fault .typeError
  | _, _ => fault .typeError

/-- The payload of a new instance over a built-in class. -/
def payloadFor (b : Builtin) (arguments : List Value) : Action Payload := do
  match b with
  | .list => return .list []
  | .dict => return .dict []
  | .set => return .set []
  | .tuple =>
      match arguments with
      | [] => return .tuple []
      | [v] => return .tuple (← items v)
      | _ => fault .typeError
  | .frozenset =>
      match arguments with
      | [] => return .set []
      | [v] => return .set (← distinctItems (← items v))
      | _ => fault .typeError
  | .int | .float | .complex | .str | .bytes | .bool | .range | .fraction | .decimal =>
      return .atom (← atomFor b arguments)
  | .noneType | .ellipsis | .function | .method | .builtinFunction | .barUnion | .array
  | .arrayValue | .any | .type => fault .typeError
  | _ => return .plain

/-- Fills a container with what its initialiser is given. -/
def fillContainer (b : Builtin) (a : Address) (arguments : List Value) : Action Unit := do
  match b, arguments with
  | .list, [] => modifyObject a fun o => { o with payload := .list [] }
  | .list, [v] =>
      let xs ← items v
      modifyObject a fun o => { o with payload := .list xs }
  | .set, [] => modifyObject a fun o => { o with payload := .set [] }
  | .set, [v] =>
      let xs ← distinctItems (← items v)
      modifyObject a fun o => { o with payload := .set xs }
  | .dict, [] => return ()
  | .dict, [.object d] =>
      match ((← get).object d).payload with
      | .dict kvs => modifyObject a fun o => { o with payload := .dict kvs }
      | .list [] | .tuple [] => return ()
      | _ => fault .typeError
  | .list, _ | .set, _ | .dict, _ => fault .typeError
  | _, _ => return ()

/-! ## §3 Instances -/

/-- Makes the object of a new instance. -/
def makeObject (c : ClassRef) (arguments : List Value) : Action Value := do
  let st ← get
  match st.lookup? c "__new__" with
  | some (.user _, .atom (.static (.user id))) => callFunction id (.cls c :: arguments)
  | some (.user _, .routine (.user id)) => callFunction id (.cls c :: arguments)
  | _ =>
      if !(st.missingMethods c).isEmpty then fault .typeError
      else
        let b := st.builtinBase c
        let ownInit := match st.lookup? c "__init__" with
          | some (.user _, _) => true
          | _ => false
        match c with
        | .builtin .noneType => if arguments.isEmpty then return .nothing else fault .typeError
        | .builtin .type =>
            match arguments with
            | [v] => return .cls (st.classOf v)
            | _ => fault .typeError
        | _ =>
            let p ← payloadFor b arguments
            match c, p with
            | .builtin _, .atom a => return .atom a
            | _, .plain =>
                if ownInit || arguments.isEmpty then allocate ⟨c, .plain, [], []⟩
                else fault .typeError
            | _, p => allocate ⟨c, p, [], []⟩

/-- Runs the initialiser of a new instance. -/
def initialise (v : Value) (arguments : List Value) : Action Unit := do
  let st ← get
  let c := st.classOf v
  match st.lookup? c "__init__" with
  | some (.user _, .routine (.user id)) =>
      let r ← callFunction id (v :: arguments)
      if r = .nothing then return () else fault .typeError
  | some (.user _, .atom (.static (.user id))) => discard <| callFunction id arguments
  | some (.user _, .atom (.classMethod (.user id))) => discard <| callFunction id (.cls c :: arguments)
  | some (.user _, .routine (.builtin ..)) => return ()
  | some (.user _, _) => fault .typeError
  | _ =>
      match v with
      | .object a => fillContainer (st.builtinBase c) a arguments
      | _ => return ()

/-- Makes an instance of a class. -/
def construct (c : ClassRef) (arguments : List Value) : Action Value := do
  let v ← makeObject c arguments
  let st ← get
  if c = .builtin .type then return v
  if st.descends (st.classOf v) c then initialise v arguments
  return v

/-! ## §4 Routines of the built-in classes -/

/-- Calls a routine of a built-in class on its receiver. -/
def callBuiltin (owner : Builtin) (name : String) (receiver : Value) (arguments : List Value) :
    Action Value := do
  let st ← get
  match name, arguments with
  | "upper", [] =>
      match st.atomOf? receiver with
      | some (.text s) => return .text s.toUpper
      | _ => fault .typeError
  | "lower", [] =>
      match st.atomOf? receiver with
      | some (.text s) => return .text s.toLower
      | _ => fault .typeError
  | "append", [x] =>
      match receiver with
      | .object a =>
          match (st.object a).payload with
          | .list xs =>
              modifyObject a fun o => { o with payload := .list (xs ++ [x]) }
              return .nothing
          | _ => fault .typeError
      | _ => fault .typeError
  | "count", [x] =>
      match receiver with
      | .object a =>
          match (st.object a).payload with
          | .list xs | .tuple xs => return .int (xs.countP (st.equal · x))
          | _ => fault .typeError
      | _ => fault .typeError
  | "__init__", args =>
      if owner = .object then
        if args.isEmpty || st.ignoresInitArguments (st.classOf receiver) then return .nothing
        else fault .typeError
      else
        match receiver with
        | .object a =>
            fillContainer owner a args
            return .nothing
        | _ => if args.isEmpty then return .nothing else fault .typeError
  | "__len__", [] => return .int (← itemCount receiver)
  | "__repr__", [] => return .text (st.display receiver)
  | "__str__", [] => return .text (st.textOf receiver)
  | "__float__", [] => return .float (← toFloat receiver)
  | "__index__", [] => return .int (← toIndex receiver)
  | "__int__", [] => return .int (← wholeOf receiver)
  | "__complex__", [] =>
      let (re, im) ← toComplex receiver
      return .complex re im
  | "__bool__", [] => return .bool (st.isTrue receiver)
  | "__eq__", [x] => return .bool (st.equal receiver x)
  | "__ne__", [x] => return .bool (!st.equal receiver x)
  | "conjugate", [] =>
      match st.atomOf? receiver with
      | some (.complex re im) => return .complex re im.neg
      | some a => return .atom a
      | none => fault .typeError
  | "bit_length", [] =>
      match st.atomOf? receiver with
      | some (.int n) => return .int (if n = 0 then 0 else n.natAbs.log2 + 1)
      | _ => fault .typeError
  | "__init_subclass__", [] | "__subclasshook__", [_] => return .nothing
  | _, _ => fault .typeError

/-- Calls a value. -/
def call (f : Value) (arguments : List Value) : Action Value := do
  match f with
  | .routine (.user id) => callFunction id arguments
  | .bound (.user id) self => callFunction id (self :: arguments)
  | .bound (.builtin o n) self => callBuiltin o n self arguments
  | .routine (.builtin o n) =>
      match arguments with
      | [] => fault .typeError
      | self :: rest =>
          if (← get).isBuiltinInstance self o then callBuiltin o n self rest else fault .typeError
  | .cls c => construct c arguments
  | .typeForm (.alias _ _ o _) => construct o arguments
  | .object a =>
      let st ← get
      match st.specialMethod? (.object a) "__call__" with
      | some id => callFunction id (f :: arguments)
      | none => fault .typeError
  | _ => fault .typeError

end Value
end MemberAccess
