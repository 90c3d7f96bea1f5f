import MemberAccess.Accessor.Basic
import MemberAccess.Cache.Basic

/-!
# Sessions

All that lasts between two uses of the library: the object world, the answers kept about ancestry, the
conversion rules that were added, the records and accessors that were made, the caches, and what was
logged.  Records and accessors are known by their numbers, so being the same accessor is having the same
number.

An `Engine` computation reads and changes a session and may fail; what it did before it failed stays
done.
-/

namespace MemberAccess

/-- How the library is set up. -/
structure Settings where
  /-- whether the source of every new accessor is logged -/
  logsSource : Bool
  /-- whether the source of every new accessor can be looked up -/
  listsSource : Bool
  /-- whether requests that name no cache use none -/
  cacheDisabled : Bool
  deriving DecidableEq, Repr, Inhabited

/-- The setup unless something else is asked for. -/
def Settings.standard : Settings := ⟨false, true, false⟩

/-- The parts of the library that write to the log. -/
inductive LogSource
  | cache | compiler
  deriving DecidableEq, Repr, Inhabited

/-- The name of a log source. -/
def LogSource.name : LogSource → String
  | cache => "reflection_accel.cache"
  | compiler => "reflection_accel.compiler"

/-- How a cache makes what is not kept. -/
inductive CompileScheme
  /-- by building the accessor -/
  | build
  /-- by building the accessor, except that the first calls and those for some names fail -/
  | failing (first : Int) (names : List String)
  deriving DecidableEq, Repr, Inhabited

/-- A cache of a session, with the members that a failing scheme was called for. -/
structure CacheSlot where
  cache : AccessorCache Nat
  scheme : CompileScheme
  calls : List MemberDescriptor
  deriving Repr, Inhabited

/-- A getter and a setter, either of which may be missing. -/
structure AccessorPair where
  getter : Option Nat
  setter : Option Nat
  deriving DecidableEq, Repr, Inhabited

/-- All that lasts. -/
structure Session where
  store : Store
  memo : Memo
  /-- the latest first -/
  rules : List Rule
  descriptors : Array MemberDescriptor
  shapes : Array Shape
  plans : Array Plan
  accessors : Array Accessor
  pairs : Array AccessorPair
  caches : Array CacheSlot
  /-- since the log was last read -/
  log : Array String
  settings : Settings
  deriving Inhabited

namespace Session

/-- The number of the cache that requests use when they name none. -/
def defaultCache : Nat := 0

/-- A session over an object world in which nothing was done yet. -/
def start (st : Store) : Session :=
  { store := st
    memo := .empty
    rules := []
    descriptors := #[]
    shapes := #[]
    plans := #[]
    accessors := #[]
    pairs := #[]
    caches := #[⟨.empty, .build, []⟩]
    log := #[]
    settings := .standard }

/-- What is done outside an operation: functions are called with a bound on how many calls are nested, and
code that turns to the library finds the rules that there are. -/
def runner (s : Session) : Runner := (runFunction callDepth).serving s.rules callDepth

end Session

/-- A use of the library. -/
abbrev Engine (α : Type) := ExceptT Failure (StateM Session) α

namespace Engine

/-- Runs something in the object world, which is taken out of the session meanwhile, so that it can be
changed in place. -/
def act {α : Type} (x : Action α) : Engine α :=
  ExceptT.mk fun s =>
    let store := s.store
    let rest := { s with store := .empty }
    let (r, st) := x.perform s.runner store
    (r, { rest with store := st })

/-- Asks a question about annotations. -/
def ask {α : Type} (q : Store → Ask α) : Engine α :=
  ExceptT.mk fun s =>
    let (r, m) := (q s.store).run.run s.memo
    (r, { s with memo := m })

/-- Computes something from the object world alone. -/
def look {α : Type} (f : Store → Outcome α) : Engine α := do
  liftExcept (f (← get).store)

/-- Writes a line to the log. -/
def logLine (source : LogSource) (message : String) : Engine Unit :=
  modify fun s => { s with log := s.log.push (source.name ++ " DEBUG " ++ message) }

/-- Gives what was logged since the log was last read. -/
def readLog : Engine (List String) := do
  let s ← get
  set { s with log := #[] }
  return s.log.toList

/-- Changes the setup. -/
def configure (f : Settings → Settings) : Engine Unit :=
  modify fun s => { s with settings := f s.settings }

/-- Adds a conversion rule in front of the others. -/
def register (r : Rule) : Engine Unit := modify fun s => { s with rules := r :: s.rules }

/-- Keeps a descriptor and gives it as a value. -/
def addDescriptor (d : MemberDescriptor) : Engine Value := do
  let s ← get
  set { s with descriptors := s.descriptors.push d }
  return .atom (.handle .descriptor s.descriptors.size)

/-- Keeps a shape and gives it as a value. -/
def addShape (x : Shape) : Engine Value := do
  let s ← get
  set { s with shapes := s.shapes.push x }
  return .atom (.handle .shape s.shapes.size)

/-- Keeps a plan and gives it as a value. -/
def addPlan (p : Plan) : Engine Value := do
  let s ← get
  set { s with plans := s.plans.push p }
  return .atom (.handle .plan s.plans.size)

/-- Keeps a pair of accessors and gives it as a value. -/
def addPair (p : AccessorPair) : Engine Value := do
  let s ← get
  set { s with pairs := s.pairs.push p }
  return .atom (.handle .pair s.pairs.size)

/-- Makes a new cache and gives its number. -/
def addCache (scheme : CompileScheme) : Engine Nat := do
  let s ← get
  set { s with caches := s.caches.push ⟨.empty, scheme, []⟩ }
  return s.caches.size

/-- The accessor of a number. -/
def accessor (i : Nat) : Engine Accessor := do return (← get).accessors[i]?.getD default

/-- The cache of a number. -/
def cacheSlot (i : Nat) : Engine CacheSlot := do return (← get).caches[i]?.getD default

/-- Changes the cache of a number. -/
def modifyCache (i : Nat) (f : CacheSlot → CacheSlot) : Engine Unit :=
  modify fun s => { s with caches := s.caches.modify i f }

/-- A value as what is wanted where a descriptor is. -/
def suppliedDescriptor (v : Value) : Engine (Supplied MemberDescriptor) := do
  match v with
  | .nothing => return .missing
  | .atom (.handle .descriptor i) => return .proper ((← get).descriptors[i]?.getD default)
  | v => return .foreign v

/-- A value as what is wanted where a shape is. -/
def suppliedShape (v : Value) : Engine (Supplied Shape) := do
  match v with
  | .nothing => return .missing
  | .atom (.handle .shape i) => return .proper ((← get).shapes[i]?.getD default)
  | v => return .foreign v

/-- Whether two values are equal; descriptors and shapes are equal when they mean the same. -/
def equal (v w : Value) : Engine Bool := do
  let s ← get
  match v, w with
  | .atom (.handle .descriptor i), .atom (.handle .descriptor j) =>
      return (s.descriptors[i]?.getD default).sameMember (s.descriptors[j]?.getD default)
  | .atom (.handle .shape i), .atom (.handle .shape j) =>
      return (s.shapes[i]?.getD default).equal (s.shapes[j]?.getD default)
  | .atom a, .atom b =>
      match a with
      | .float _ | .complex .. => return a.equal b
      | _ => return s.store.equal v w
  | _, _ => return s.store.equal v w

/-- Whether a value has a hash; that of a descriptor or shape is made of its parts. -/
def isHashable (v : Value) : Engine Bool := do
  let s ← get
  match v with
  | .atom (.handle .descriptor i) => return (s.descriptors[i]?.getD default).isHashable
  | .atom (.handle .shape i) => return (s.shapes[i]?.getD default).isHashable
  | v => return s.store.isHashable v

end Engine
end MemberAccess
