import MemberAccess.Value.Run

/-!
# Looking annotations up

The annotations of a function or class with every name in them looked up: a text becomes what it names,
wherever it stands, and notes are dropped.  The names of a function's annotations are those of its
module; a class adds what stands in its own namespace.

If one name cannot be looked up, none of them counts as looked up: the annotations are then taken as
they were written.
-/

namespace MemberAccess.Hints

open MemberAccess.Action
open TypeForm hiding none

/-! ## §1 Names -/

/-- The names that every module has at hand. -/
def moduleNamed? (st : Store) (name : String) : Option Value :=
  match st.classNamed? name with
  | some c => some (.cls c)
  | none =>
      match name with
      | "Any" => some (.builtin .any)
      | "ClassVar" => some (.typeForm (.bare .classVar))
      | "Optional" => some (.typeForm (.bare .optional))
      | "Union" => some (.typeForm (.bare .union))
      | "typing" => some (.atom .module)
      | _ => none

/-- The names that need no module. -/
def everywhereNamed? (name : String) : Option Value :=
  let classes : List Builtin :=
    [.int, .float, .complex, .str, .bytes, .bool, .list, .tuple, .dict, .set, .frozenset, .object,
     .type, .range, .property]
  match classes.find? fun b => b.name == name with
  | some b => some (.builtin b)
  | none =>
      if name = "staticmethod" then some (.builtin .staticMethod)
      else if name = "classmethod" then some (.builtin .classMethod)
      else none

/-- What names mean in the annotations of a function. -/
def functionScope : Scope :=
  ⟨[], fun st n => moduleNamed? st n <|> everywhereNamed? n, .fault .nameError⟩

/-- What names mean in the annotations of a class. -/
def classScope (c : ClassRef) : Scope :=
  ⟨[], fun st n => moduleNamed? st n <|> st.entry? c n <|> everywhereNamed? n, .fault .nameError⟩

/-! ## §2 Evaluation -/

/-- Bars between annotations that were looked up. -/
def rejoin : List TypeForm → Action TypeForm := barsOf

mutual
/-- Looks up every name in an annotation; `seen` are the texts being looked up, fuel bounds how often a
text leads to another. -/
def evaluate (scope : Scope) : Nat → List String → TypeForm → Action TypeForm
  | 0, _, _ => fault .recursionError
  | fuel + 1, seen, t =>
      match t with
      | .forward s => evaluateText scope fuel seen .operand s
      | .union m .subscript ts => do
          let us ← evaluateAll scope fuel seen ts
          if equalList us ts then return .union m .subscript ts else unionOf us
      | .union m .bar ts => do
          let us ← evaluateAll scope fuel seen ts
          if equalList us ts then return .union m .bar ts else rejoin us
      | .alias _ .direct o ts => do
          let ts ← ts.mapM fun
            | .text s => ofOutcome (forwardOf s)
            | t => pure t
          let us ← evaluateAll scope fuel seen ts
          directAliasOf o us
      | .alias m .generic o ts => do
          let us ← evaluateAll scope fuel seen ts
          if equalList us ts then return .alias m .generic o ts
          else return .alias (← freshMark) .generic o us
      | .callable m ps r => do
          let us ← evaluateAll scope fuel seen ps
          let u ← evaluate scope fuel seen r
          if equalList us ps && u.equal r then return .callable m ps r
          else return .callable (← freshMark) us u
      | .annotated m i ns => do
          let u ← evaluate scope fuel seen i
          if u.equal i then return .annotated m i ns
          else return .annotated (← freshMark) u ns
      | .classVar m i => do
          let u ← evaluate scope fuel seen i
          if u.equal i then return .classVar m i else return .classVar (← freshMark) u
      | .final m i => do
          let u ← evaluate scope fuel seen i
          if u.equal i then return .final m i else return .final (← freshMark) u
      | t => return t

/-- Looks up every name in several annotations. -/
def evaluateAll (scope : Scope) : Nat → List String → List TypeForm → Action (List TypeForm)
  | 0, _, _ => fault .recursionError
  | _ + 1, _, [] => return []
  | fuel + 1, seen, t :: ts => do
      let u ← evaluate scope fuel seen t
      let us ← evaluateAll scope fuel seen ts
      return u :: us

/-- Looks a text up. -/
def evaluateText (scope : Scope) : Nat → List String → Place → String → Action TypeForm
  | 0, _, _, _ => fault .recursionError
  | fuel + 1, seen, place, s => do
      if seen.contains s then return .forward s
      else
        match Source.read? s with
        | none => fault .syntaxError
        | some e =>
            let v ← e.eval scope
            let t ← ofOutcome (checkOperand place ((← get).typeFormOf v))
            evaluate scope fuel (s :: seen) t
end

mutual
/-- Drops the notes of an annotation at every depth. -/
def strip : Nat → TypeForm → Action TypeForm
  | 0, t => return t
  | fuel + 1, t =>
      match t with
      | .annotated _ i _ => strip fuel i
      | .union m s ts => do
          let us ← stripAll fuel ts
          if equalList us ts then return .union m s ts
          else if s = .bar then rejoin us
          else unionOf us
      | .alias m s o ts => do
          let us ← stripAll fuel ts
          if equalList us ts then return .alias m s o ts
          else return .alias (← freshMark) s o us
      | .callable m ps r => do
          let us ← stripAll fuel ps
          let u ← strip fuel r
          if equalList us ps && u.equal r then return .callable m ps r
          else return .callable (← freshMark) us u
      | .classVar m i => do
          let u ← strip fuel i
          if u.equal i then return .classVar m i else return .classVar (← freshMark) u
      | .final m i => do
          let u ← strip fuel i
          if u.equal i then return .final m i else return .final (← freshMark) u
      | t => return t

/-- Drops the notes of several annotations. -/
def stripAll : Nat → List TypeForm → Action (List TypeForm)
  | 0, ts => return ts
  | _ + 1, [] => return []
  | fuel + 1, t :: ts => do
      let u ← strip fuel t
      let us ← stripAll fuel ts
      return u :: us
end

/-- How deep annotations are looked into. -/
def depth : Nat := 200

/-- Looks up one annotation at its place. -/
def lookUp (scope : Scope) (place : Place) : TypeForm → Action TypeForm
  | .none => return .builtin .noneType
  | .text s => do
      match Source.read? s with
      | none => fault .syntaxError
      | some _ => evaluateText scope depth [] place s
  | t => evaluate scope depth [] t

/-- Drops the notes of named annotations. -/
def stripNamed (ts : List (String × TypeForm)) : Action (List (String × TypeForm)) :=
  ts.mapM fun (n, t) => do return (n, ← strip depth t)

/-! ## §3 Functions and classes -/

/-- The name under which the annotation of a result is kept. -/
def resultName : String := "return"

/-- The annotations of a function as written. -/
def written (f : Function) : List (String × TypeForm) :=
  f.parameters.filterMap (fun p => p.type.map (p.name, ·)) ++
    (f.result.map (resultName, ·)).toList

/-- The annotations of a function looked up. -/
def ofFunction (f : Function) : Action (List (String × TypeForm)) := do
  let ts ← (written f).mapM fun (n, t) => do
    return (n, ← lookUp functionScope .operand t)
  stripNamed ts

/-- Puts a named annotation into a list, in the place of one of the same name. -/
def put (n : String) (t : TypeForm) : List (String × TypeForm) → List (String × TypeForm)
  | [] => [(n, t)]
  | (m, u) :: r => if m = n then (n, t) :: r else (m, u) :: put n t r

/-- The annotations of a class and its ancestors looked up, the ancestors' first. -/
def ofClass (c : ClassRef) : Action (List (String × TypeForm)) := do
  let st ← get
  let ts ← (st.lineage c).reverse.foldlM (fun ts k => do
    match k with
    | .builtin _ => return ts
    | .user i =>
        (st.classInfo i).annotations.foldlM (fun ts (n, t) => do
          return put n (← lookUp (classScope k) ⟨false, true⟩ t) ts) ts) []
  stripNamed ts

/-- The failures of looking up that make the written annotations count. -/
def isForgiven (f : Failure) : Bool :=
  f.isA .nameError || f.isA .typeError || f.isA .attributeError || f.isA .syntaxError

/-- The annotations looked up, or as written when that fails. -/
def orWritten (raw : List (String × TypeForm)) (x : Action (List (String × TypeForm))) :
    Action (List (String × TypeForm)) :=
  tryCatchThe Failure x fun f => if isForgiven f then return raw else throw f

/-- What is known about the annotations of a function. -/
def known (f : Function) : Action (List (String × TypeForm)) := orWritten (written f) (ofFunction f)

/-- What is known about the annotations of a class. -/
def knownOfClass (c : ClassRef) : Action (List (String × TypeForm)) := do
  let st ← get
  let raw := match c with
    | .user i => (st.classInfo i).annotations
    | .builtin _ => []
  orWritten raw (ofClass c)

/-- What is known about the annotations of a routine; the built-in ones have none. -/
def knownOfRoutine : Routine → Action (List (String × TypeForm))
  | .user id => do
      let st ← get
      known (st.functions[id]?.getD default)
  | .builtin .. => return []

end MemberAccess.Hints
