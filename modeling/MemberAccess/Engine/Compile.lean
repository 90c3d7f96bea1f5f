import MemberAccess.Engine.Session

/-!
# Making accessors

Building an accessor checks the contract, makes the plan and makes the plan ready to be called.  A
request through a cache does so only for a key that the cache does not keep yet.  For the usual kinds of
members there are requests that choose the shape by themselves.
-/

namespace MemberAccess.Engine

/-! ## §1 Building -/

/-- Makes a plan ready to be called and gives the number of the accessor. -/
def compilePlan (p : Plan) : Engine Nat := do
  let s ← get
  let a ← liftExcept (Accessor.ofPlan s.store s.settings.listsSource p)
  set { s with accessors := s.accessors.push a }
  let member := p.descriptor.text s.store
  logLine .compiler ("compiled " ++ p.shape.words s.store ++ " accessor for the " ++ member)
  if s.settings.logsSource then
    logLine .compiler ("generated accessor source for " ++ member ++ ":\n" ++ a.source)
  return s.accessors.size

/-- The plan for a member and a shape, which are taken to belong together. -/
def synthesize (d : MemberDescriptor) (x : Shape) : Engine Plan := do
  let s ← get
  liftExcept (Plan.synthesize s.store s.rules d x)

/-- Builds an accessor for what is handed in as a member and a shape. -/
def build (d : Supplied MemberDescriptor) (x : Supplied Shape) : Engine Nat := do
  let (d, x) ← ask fun st => validate st d x
  compilePlan (← synthesize d x)

/-! ## §2 Caches -/

/-- Makes what a cache does not keep, by the scheme of the cache. -/
def compileFor (i : Nat) (k : CacheKey) : Engine Nat := do
  match (← cacheSlot i).scheme with
  | .build => build (.proper k.descriptor) (.proper k.shape)
  | .failing first names =>
      let n := (← cacheSlot i).calls.length + 1
      modifyCache i fun c => { c with calls := c.calls ++ [k.descriptor] }
      if n ≤ first || names.contains k.descriptor.name then
        throw (.raised .runtimeError
          ("compile " ++ toString n ++ " of " ++ k.descriptor.name ++ " failed") [])
      else build (.proper k.descriptor) (.proper k.shape)

/-- A key that can be looked up. -/
def checkKey (k : CacheKey) : Engine CacheKey :=
  if k.isHashable then return k else throw (.fault .typeError)

/-- Changes what a cache keeps and has counted. -/
def updateCache (i : Nat) (f : AccessorCache Nat → AccessorCache Nat) : Engine Unit :=
  modifyCache i fun c => { c with cache := f c.cache }

/-- Logs that a key was not kept. -/
def logMiss (k : CacheKey) : Engine Unit := do
  let st := (← get).store
  let words ← liftExcept (k.shape.describe st)
  logLine .cache ("accessor cache miss: " ++ k.descriptor.text st ++ " / " ++ words)

/-- Has an accessor compiled for a key that a cache does not keep, and counts what comes of it. -/
def compileInto (compile : CacheKey → Engine Nat) (i : Nat) (k : CacheKey) : Engine Nat := do
  let n ← tryCatchThe Failure (compile k) fun f => do
    updateCache i (·.fail)
    throw f
  let given := (← cacheSlot i).cache.given k n
  updateCache i (·.keep k n)
  return given

/-- Asks a cache for the accessor of a member and a shape, which `compile` makes where the cache does not
keep it. -/
def requestBy (compile : CacheKey → Engine Nat) (i : Nat) (d : Supplied MemberDescriptor)
    (x : Supplied Shape) : Engine Nat := do
  match d, x with
  | .proper d, .proper x =>
      let k ← checkKey ⟨d, x⟩
      match (← cacheSlot i).cache.find? k with
      | some n =>
          updateCache i (·.hit)
          return n
      | none =>
          updateCache i (·.miss)
          logMiss k
          compileInto compile i k
  | d, x => do
      discard <| ask fun st => validate st d x
      throw (.fault .typeError)

/-- Asks a cache for the accessor of a member and a shape, made by the scheme of the cache. -/
def request (i : Nat) (d : Supplied MemberDescriptor) (x : Supplied Shape) : Engine Nat :=
  requestBy (compileFor i) i d x

/-- Whether a record that is handed in could be part of a key. -/
def isKeyPart {α : Type} (isHashableRecord : α → Bool) : Supplied α → Engine Bool
  | .missing => return true
  | .proper a => return isHashableRecord a
  | .foreign v => isHashable v

/-- What a cache keeps for a member and a shape. -/
def peek (i : Nat) (d : Supplied MemberDescriptor) (x : Supplied Shape) : Engine (Option Nat) := do
  if (← isKeyPart (·.isHashable) d) && (← isKeyPart (·.isHashable) x) then
    match d, x with
    | .proper d, .proper x => return (← cacheSlot i).cache.find? ⟨d, x⟩
    | _, _ => return none
  else throw (.fault .typeError)

/-- Asks for an accessor through the given cache, or the default one unless it is switched off. -/
def getOrCompile (d : Supplied MemberDescriptor) (x : Supplied Shape) (cache : Option Nat)
    (useCache : Bool) : Engine Nat := do
  if !useCache || (cache.isNone && (← get).settings.cacheDisabled) then build d x
  else request (cache.getD Session.defaultCache) d x

/-! ## §3 Requests by kind of member -/

/-- A descriptor that has to be there, of a kind if one is asked for. -/
def requireDescriptor (d : Supplied MemberDescriptor) (kind : Option MemberKind) :
    Engine MemberDescriptor := do
  let d ← liftExcept (d.require "descriptor")
  match kind with
  | some k =>
      if d.kind = k then return d
      else throw (.invalidArgument "descriptor"
        (some ("expected a " ++ k.name ++ " descriptor, got the " ++ d.text (← get).store)))
  | none => return d

/-- The shape of a constructor, a value-producing method or an action that fits a descriptor. -/
inductive DefaultShape
  | constructor | func | action | getter | setter
  deriving DecidableEq, Repr, Inhabited

/-- The shape that a request chooses by itself. -/
def defaultShape (f : DefaultShape) (d : Supplied MemberDescriptor) : Engine Shape := do
  let sized (make : Store → MemberDescriptor → Value → Outcome Shape) : Engine Shape := do
    let d ← requireDescriptor d none
    look fun st => make st d (.int d.arity)
  match f with
  | .constructor => sized fun st _ n => Shape.constructor st n none
  | .func => sized fun st d n =>
      if d.isStatic then Shape.staticFunc st n none else Shape.func st n none none
  | .action => sized fun st d n =>
      if d.isStatic then Shape.staticAction st n else Shape.action st n none
  | .getter => return Shape.getter none none true
  | .setter => return Shape.setter none none true

/-- Whether a request goes by the shape that is handed in: getters and setters also put their own shape
in the place of an object that counts as false. -/
def chosenShape (f : DefaultShape) (x : Supplied Shape) : Engine (Option (Supplied Shape)) := do
  match x with
  | .missing => return none
  | .proper _ => return some x
  | .foreign v =>
      if (f = .getter || f = .setter) && !(← get).store.isTrue v then return none else return some x

/-- Asks for an accessor, with a shape of its own choice where none is handed in. -/
def compile (f : DefaultShape) (d : Supplied MemberDescriptor) (x : Supplied Shape)
    (cache : Option Nat) (useCache : Bool) : Engine Nat := do
  match ← chosenShape f x with
  | some x => getOrCompile d x cache useCache
  | none =>
      let x ← defaultShape f d
      getOrCompile d (.proper x) cache useCache

/-- Asks for the getter and the setter of a field or property; a side that does not exist is missing. -/
def compilePair (kind : MemberKind) (d : Supplied MemberDescriptor) (base value : Option TypeForm)
    (nonPublic : Bool) (cache : Option Nat) (useCache : Bool) : Engine AccessorPair := do
  let d ← requireDescriptor d (some kind)
  if !d.readable && !d.writable then
    throw (.bothSidesMissing d.name d.kind.name (d.declaring.typeName (← get).store))
  let getter ← if d.readable then
      some <$> getOrCompile (.proper d) (.proper (Shape.getter base value nonPublic)) cache useCache
    else pure none
  let setter ← if d.writable then
      some <$> getOrCompile (.proper d) (.proper (Shape.setter base value nonPublic)) cache useCache
    else pure none
  return ⟨getter, setter⟩

/-! ## §4 Requests at once -/

/-- Asks a cache for one key as often as there are callers, and gives what each of them got. -/
def requestAll (i : Nat) (d : Supplied MemberDescriptor) (x : Supplied Shape) :
    Nat → Engine (List (Outcome Nat))
  | 0 => return []
  | n + 1 => do
      let r ← ExceptT.lift (request i d x).run
      return r :: (← requestAll i d x n)

/-- What a cache answered to callers that asked at once. -/
structure CrowdReport where
  cache : Nat
  /-- key by key, what each caller got -/
  outcomes : List (List (Outcome Nat))

/-- Asks a new cache, whose first compilations fail, for several keys, each by several callers at once.
Callers of one key wait for one another, so each key is asked for as often as there are callers, in
turn. -/
def crowd (callers : Nat) (keys : List (Supplied MemberDescriptor × Supplied Shape)) (failFirst : Int) :
    Engine CrowdReport := do
  let i ← addCache (.failing failFirst [])
  let outcomes ← keys.mapM fun (d, x) => requestAll i d x callers
  return ⟨i, outcomes⟩

/-- Asks a new cache for one key twice, the second request running completely while the first waits:
the second makes the accessor and the first finds it. -/
def race (d : Supplied MemberDescriptor) (x : Supplied Shape) : Engine (Nat × Nat × Nat) := do
  let i ← addCache .build
  let second ← request i d x
  let first ← request i d x
  return (i, first, second)

end MemberAccess.Engine
