import MemberAccess.Benchmark.Report
import MemberAccess.Benchmark.Options
import MemberAccess.Declaration.Declare
import MemberAccess.Engine.Compile
import MemberAccess.Member.Resolve

/-!
# What is measured

A small class of vectors, and for each kind of access three ways to make it: directly, by looking the
member up by its name, and by a compiled accessor, in some cases with pinned types.  A last section
measures the making of accessors itself, kept in a cache or not.
-/

namespace MemberAccess.Benchmark

open Number Declaration

/-! ## §1 The class of vectors -/

/-- A floating-point value given as a whole number of halves. -/
def halves (n : Nat) : Value := .float (ratio n 2)

/-- The class of floating-point numbers, in the place of a type. -/
def floatType : Expr := .constant (.builtin .float)

/-- A function of the class of vectors. -/
def vectorFunction (name : String) (parameters : List (String × Expr)) (result : Expr) (body : List Stmt) :
    FunctionDecl where
  name := name
  qualifiedName := none
  home := "world"
  receiver := some "self"
  parameters := parameters.map fun (n, t) => ⟨n, .positional, some t, none⟩
  result := some result
  body := body

/-- Vectors with two coordinates, a product, a shift, and a property that keeps a number. -/
def vectorClass : ClassDecl :=
  let self (name : String) : Expr := .member (.variable "self") name
  let other (name : String) : Expr := .member (.variable "other") name
  let noResult : Expr := .constant .nothing
  { name := "Vector"
    qualifiedName := none
    bases := []
    annotations := [("x", floatType), ("y", floatType)]
    slots := none
    members := [
      .function .method "__init__" <| vectorFunction "__init__" [("x", floatType), ("y", floatType)] noResult
        [.set "x" (.variable "x"), .set "y" (.variable "y"), .set "_norm_cache" (.constant (halves 0))],
      .function .method "dot" <| vectorFunction "dot" [("other", .constant (.text "Vector"))] floatType
        [.result (.sum [.product (self "x") (other "x"), .product (self "y") (other "y")])],
      .function .method "shift" <| vectorFunction "shift" [("dx", floatType)] noResult
        [.set "x" (.sum [self "x", .variable "dx"])],
      .property "norm_cache"
        (some (vectorFunction "norm_cache" [] floatType [.result (self "_norm_cache")]))
        (some (vectorFunction "norm_cache" [("value", floatType)] noResult
          [.set "_norm_cache" (.variable "value")]))]
    runtime := false
    record := none }

/-! ## §2 The objects under measurement -/

/-- The class of vectors, its members, two vectors, and the cache that the accessors are asked from. -/
structure Vectors where
  cls : ClassRef
  constructor : MemberDescriptor
  dot : MemberDescriptor
  shift : MemberDescriptor
  x : MemberDescriptor
  norm : MemberDescriptor
  v : Value
  w : Value
  cache : Nat
  deriving Inhabited

/-- Declares the class of vectors and makes the objects. -/
def Vectors.make : Engine Vectors := do
  let cls := ClassRef.user (← get).store.classes.size
  Engine.act (declareAll [vectorClass])
  let resolve (q : Member.Query) : Engine MemberDescriptor := Engine.act (Member.resolve q (.cls cls))
  let vector (a b : Nat) : Engine Value := Engine.act ((Value.cls cls).call [halves a, halves b])
  let cache ← Engine.addCache .build
  return {
    cls
    constructor := ← resolve .constructor
    dot := ← resolve (.method "dot")
    shift := ← resolve (.method "shift")
    x := ← resolve (.field "x")
    norm := ← resolve (.property "norm_cache")
    v := ← vector 2 4
    w := ← vector 6 8
    cache }

/-! ## §3 The cases -/

/-- A case in the terms of the library: what builds it, and then what is called. -/
structure Workload where
  group : String
  name : String
  build : Engine (Engine Unit)

/-- A workload that does something in the object world. -/
def direct (group name : String) (x : Action Value) : Workload :=
  ⟨group, name, return discard (Engine.act x)⟩

/-- A workload that asks for an accessor once and calls it with the same arguments every time. -/
def compiled (group name : String) (request : Engine Nat) (arguments : Engine (List Value)) : Workload where
  group := group
  name := name
  build := do
    let a ← Engine.accessor (← request)
    let vs ← arguments
    return discard (Engine.act (a.call vs))

/-- A workload that asks for an accessor every time. -/
def asking (name : String) (request : Engine Nat) : Workload :=
  ⟨"compile", name, return discard request⟩

/-- The shape of a product of vectors with both types pinned. -/
def Vectors.typedDot (o : Vectors) : Engine Shape :=
  Engine.look fun st => Shape.func st (.int 1) (some (.cls o.cls)) (some (.builtin .float))

/-- What is measured, section by section. -/
def workloads (o : Vectors) : List Workload :=
  let coordinates : List Value := [halves 2, halves 4]
  let construct : Action Value := (Value.cls o.cls).call coordinates
  let product : Action Value := do (← o.v.getAttribute "dot").call [o.w]
  let shift : Action Value := do (← o.v.getAttribute "shift").call [halves 0]
  let read : Action Value := o.v.getAttribute "norm_cache"
  let write : Action Value := do
    o.v.setAttribute "norm_cache" (halves 3)
    return .nothing
  let ask (f : Engine.DefaultShape) (d : MemberDescriptor) : Engine Nat :=
    Engine.compile f (.proper d) .missing (some o.cache) true
  let askFor (f : Engine.DefaultShape) (d : MemberDescriptor) (x : Engine Shape) : Engine Nat := do
    Engine.compile f (.proper d) (.proper (← x)) (some o.cache) true
  let askForDot (useCache : Bool) : Engine Nat := do
    let x ← Engine.look fun st => Shape.func st (.int 1) none none
    Engine.getOrCompile (.proper o.dot) (.proper x) (if useCache then some o.cache else none) useCache
  let sequence : Engine (List Value) := do
    return [← Engine.act (Action.allocateBuiltin .tuple (.tuple coordinates))]
  let pinned : Shape := Shape.setter (some (.cls o.cls)) (some (.builtin .float)) true
  [ direct "construct" "direct" construct,
    direct "construct" "reflection" construct,
    compiled "construct" "accessor" (ask .constructor o.constructor) (return coordinates),
    compiled "construct" "accessor_array"
      (askFor .constructor o.constructor (return Shape.constructorArray none)) sequence,
    direct "call" "direct" product,
    direct "call" "reflection" product,
    compiled "call" "accessor" (ask .func o.dot) (return [o.v, o.w]),
    compiled "call" "accessor_typed" (askFor .func o.dot o.typedDot) (return [o.v, o.w]),
    direct "action" "direct" shift,
    direct "action" "reflection" shift,
    compiled "action" "accessor" (ask .action o.shift) (return [o.v, halves 0]),
    direct "get" "direct" read,
    direct "get" "reflection" read,
    compiled "get" "accessor" (ask .getter o.norm) (return [o.v]),
    compiled "get" "accessor_field" (ask .getter o.x) (return [o.v]),
    direct "set" "reflection" write,
    compiled "set" "accessor" (ask .setter o.norm) (return [o.v, halves 3]),
    compiled "set" "accessor_pinned" (askFor .setter o.norm (return pinned)) (return [o.v, halves 3]),
    asking "cache_hit" (askForDot true),
    asking "uncached_build" (askForDot false) ]

/-! ## §4 Measuring inside a session -/

section

variable {m : Type → Type} [Monad m] [MonadStateOf Session m]

/-- A use of the library, as a computation that may meet a fault. -/
@[inline] def inSession {α : Type} (x : Engine α) : ExceptT Fault m α :=
  ExceptT.mk do
    match ← modifyGetThe Session fun s => x.run.run s with
    | .ok a => return .ok a
    | .error f => return .error (.failed f)

/-- A workload as a case. -/
def Workload.case (l : Workload) : Case m where
  group := l.group
  name := l.name
  build := do
    let call ← inSession l.build
    return inSession call

end

end MemberAccess.Benchmark
