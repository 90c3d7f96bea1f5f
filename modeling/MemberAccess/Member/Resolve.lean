import MemberAccess.Member.Descriptor
import MemberAccess.Member.Hints
import MemberAccess.Member.Signature

/-!
# Finding members

From a class and a name to the descriptor of a member: its constructor, a method, a property, a field.
A name is looked for along the lineage of the class; in each class a private name counts also in the
form in which that class keeps its private names.  Types come from the annotations as far as they can be
looked up, and a member whose types are not known takes and gives anything.
-/

namespace MemberAccess.Member

open MemberAccess.Action

/-! ## §1 Names and types -/

/-- The names under which a class may keep a member. -/
def candidateNames (st : Store) (c : ClassRef) (name : String) : List String :=
  if name.startsWith "__" && !name.endsWith "__" then
    let bare := String.ofList ((st.className c).toList.dropWhile (· == '_'))
    [name, "_" ++ bare ++ name]
  else [name]

/-- The first class of the lineage that keeps the member, the name it keeps it under, and the entry. -/
def find? (st : Store) (c : ClassRef) (name : String) : Option (ClassRef × String × Value) :=
  (st.lineage c).findSome? fun k =>
    (candidateNames st k name).findSome? fun n => (st.entry? k n).map (k, n, ·)

/-- The name of a class in messages. -/
def nameOf (st : Store) (c : ClassRef) : String := TypeForm.typeName st (.cls c)

/-- The member of a name, or the failure that there is none. -/
def find (c : ClassRef) (name : String) : Action (ClassRef × String × Value) := do
  let st ← get
  match find? st c name with
  | some r => return r
  | none => throw (.memberNotFound ("'" ++ nameOf st c ++ "' has no member named '" ++ name ++ "'"))

/-- A written annotation as a type; without one anything goes. -/
def writtenType (t : Option TypeForm) : TypeForm :=
  match t with
  | some t => t.normalize
  | none => .builtin .any

/-- The type of a parameter: what is known by name, else what is written. -/
def parameterType (hints : List (String × TypeForm)) (p : ShownParameter) : TypeForm :=
  match hints.lookup p.name with
  | some t => t.normalize
  | none => writtenType p.type

/-- Whether a name is not private. -/
def isPublic (name : String) : Bool := !name.startsWith "_"

/-! ## §2 Constructors -/

/-- The annotations that the constructor of a class goes by. -/
def constructorHints (c : ClassRef) : Action (List (String × TypeForm)) := do
  let st ← get
  let of (e : Value) : Action (List (String × TypeForm)) :=
    match Store.makerOf? e with
    | some (r, _) => Hints.knownOfRoutine r
    | none => return []
  match st.lookup? c "__init__" with
  | some (.builtin .object, _) | none =>
      match st.lookup? c "__new__" with
      | some (_, e) => of e
      | none => return []
  | some (_, e) => of e

/-- The descriptor of a constructor, by what is shown and what is known of its parameters. -/
def constructorDescriptor (c : ClassRef) (s : Signature) (hints : List (String × TypeForm)) :
    MemberDescriptor :=
  { MemberDescriptor.bare .constructor (.cls c) "__init__" with
    parameters := s.parameters.map (parameterType hints)
    valueType := .cls c
    target := .cls c }

/-- The constructor of a class. -/
def constructorOf (c : ClassRef) : Action MemberDescriptor := do
  let st ← get
  match st.classSignature? c with
  | none => throw (.memberNotFound ("'" ++ nameOf st c ++ "' has no introspectable constructor"))
  | some s => return constructorDescriptor c s (← constructorHints c)

/-! ## §3 Methods -/

/-- A class entry that is a method. -/
structure MethodEntry where
  routine : Routine
  isStatic : Bool
  /-- whether its first parameter is the receiver -/
  skipsFirst : Bool
  /-- what is called -/
  target : Value
  deriving DecidableEq, Repr, Inhabited

/-- A class entry as a method. -/
def methodEntry? (owner : ClassRef) : Value → Option MethodEntry
  | .atom (.static r) => some ⟨r, true, false, .routine r⟩
  | .atom (.classMethod r) => some ⟨r, true, true, .bound r (.cls owner)⟩
  | .routine r => some ⟨r, false, true, .routine r⟩
  | _ => none

/-- The descriptor of a method, by what is shown and what is known of its parameters and its result. -/
def methodDescriptor (owner : ClassRef) (kept : String) (m : MethodEntry) (s : Signature)
    (hints : List (String × TypeForm)) : MemberDescriptor :=
  let shown := if m.skipsFirst then s.withoutFirst else s
  { MemberDescriptor.bare .method (.cls owner) kept with
    parameters := shown.parameters.map (parameterType hints)
    valueType := match hints.lookup Hints.resultName with
      | some t => t.normalize
      | none => writtenType s.result
    isStatic := m.isStatic
    target := m.target }

/-- The method of a name. -/
def methodOf (c : ClassRef) (name : String) : Action MemberDescriptor := do
  let (owner, kept, e) ← find c name
  let st ← get
  match methodEntry? owner e with
  | none =>
      throw (.memberNotFound ("'" ++ name ++ "' on '" ++ nameOf st c ++ "' is not a method"))
  | some m =>
      match st.signature? m.routine with
      | none =>
          throw (.memberNotFound
            ("'" ++ nameOf st c ++ "." ++ name ++ "' has no introspectable signature"))
      | some s => return methodDescriptor owner kept m s (← Hints.knownOfRoutine m.routine)

/-! ## §4 Properties -/

/-- The type that the annotations of a setter give the assigned value. -/
def setterType (hints : List (String × TypeForm)) : Option TypeForm :=
  ((hints.filter fun h => h.1 != Hints.resultName).getLast?).map (·.2.normalize)

/-- Whether the function of a side can be used from outside. -/
def sidePublic (st : Store) (f : Option Nat) : Bool :=
  match f with
  | none => false
  | some id => isPublic (st.function id).name

/-- The type of a property: what its getter gives, or what its setter takes where that says nothing. -/
def propertyType (q : Property) : Action TypeForm := do
  let st ← get
  let read ← match q.getter with
    | some g => do
        let hints ← Hints.known (st.function g)
        pure ((hints.lookup Hints.resultName).getD (.builtin .any)).normalize
    | none => pure (.builtin .any)
  if read = .builtin .any then
    match q.setter with
    | some s => return (setterType (← Hints.known (st.function s))).getD read
    | none => return read
  else return read

/-- The property object of a number. -/
def property (st : Store) (p : Nat) : Property := st.properties[p]?.getD default

/-- The descriptor of a property, by its type. -/
def propertyDescriptor (st : Store) (owner : ClassRef) (kept : String) (p : Nat) (t : TypeForm) :
    MemberDescriptor :=
  let q := property st p
  { MemberDescriptor.bare .property (.cls owner) kept with
    valueType := t
    target := .atom (.property p)
    readable := q.getter.isSome
    writable := q.setter.isSome
    getterPublic := isPublic kept && sidePublic st q.getter
    setterPublic := isPublic kept && sidePublic st q.setter }

/-- The property of a name. -/
def propertyOf (c : ClassRef) (name : String) : Action MemberDescriptor := do
  let (owner, kept, e) ← find c name
  let st ← get
  match e with
  | .atom (.property p) => return propertyDescriptor st owner kept p (← propertyType (property st p))
  | _ => throw (.memberNotFound ("'" ++ name ++ "' on '" ++ nameOf st c ++ "' is not a property"))

/-! ## §5 Fields -/

/-- The slots that a built-in class shows. -/
def builtinSlots : Builtin → List String
  | .fraction => ["_numerator", "_denominator"]
  | _ => []

/-- Whether an annotation, looked up or not, makes a field one of the class. -/
def isStaticField : TypeForm → Bool
  | .classVar .. => true
  | .text s => s.startsWith "ClassVar" || s.startsWith "typing.ClassVar"
  | _ => false

/-- Whether a class declares a field of the name. -/
def declaresField (st : Store) (k : ClassRef) (name : String) : Bool :=
  match k with
  | .user i =>
      let info := st.classInfo i
      (info.annotations.lookup name).isSome || info.slotNames.contains name
  | .builtin b => (builtinSlots b).contains name

/-- Whether the records among the ancestors of a class are frozen. -/
def isFrozen (st : Store) (c : ClassRef) : Bool := ((st.recordOf? c).map (·.frozen)).getD false

/-- The class that declares the field of a name. -/
def fieldOwner? (st : Store) (c : ClassRef) (name : String) : Option ClassRef :=
  (st.lineage c).find? fun k => k != .builtin .object && declaresField st k name

/-- The annotation of a field: what is known of it, else what is written. -/
def fieldHint (st : Store) (k : ClassRef) (name : String) (hints : List (String × TypeForm)) : TypeForm :=
  let annotations := match k with
    | .user i => (st.classInfo i).annotations
    | .builtin _ => []
  (hints.lookup name).getD ((annotations.lookup name).getD (.builtin .any))

/-- The descriptor of a field, by its annotation. -/
def fieldDescriptor (k : ClassRef) (name : String) (hint : TypeForm) (writable : Bool) : MemberDescriptor :=
  { MemberDescriptor.bare .field (.cls k) name with
    valueType := hint.normalize
    isStatic := isStaticField hint
    writable := writable
    getterPublic := isPublic name
    setterPublic := isPublic name }

/-- The field of a name: annotated, slotted, or of a record. -/
def fieldOf (c : ClassRef) (name : String) : Action MemberDescriptor := do
  let st ← get
  let missing : Failure := .memberNotFound ("'" ++ nameOf st c ++ "' has no field named '" ++ name ++ "'")
  match fieldOwner? st c name with
  | none => throw missing
  | some k =>
      if st.entry? k name matches some (.atom (.property _)) then throw missing
      else
        let hint := fieldHint st k name (← Hints.knownOfClass k)
        return fieldDescriptor k name hint (!isFrozen st c)

/-- The property of a name, or else the field of that name. -/
def memberOf (c : ClassRef) (name : String) : Action MemberDescriptor := do
  match find? (← get) c name with
  | some (_, _, .atom (.property _)) => propertyOf c name
  | _ => fieldOf c name

/-! ## §6 Questions -/

/-- The ways of asking for a member of a class. -/
inductive Query
  | constructor
  | method (name : String)
  | property (name : String)
  | field (name : String)
  | member (name : String)
  deriving DecidableEq, Repr, Inhabited

/-- A value as a class. -/
def requireClass : Value → Outcome ClassRef
  | .cls c => .ok c
  | _ => .error (.invalidArgument "cls" none)

/-- The member of a class that is asked for. -/
def resolve (q : Query) (cls : Value) : Action MemberDescriptor := do
  let c ← ofOutcome (requireClass cls)
  match q with
  | .constructor => constructorOf c
  | .method n => methodOf c n
  | .property n => propertyOf c n
  | .field n => fieldOf c n
  | .member n => memberOf c n

/-! ## §7 Describing objects -/

/-- The class that a function's qualified name leads to, if every part of it is a class. -/
def ownerFromName (f : Function) : Action ClassRef := do
  let refused : Failure := .invalidArgument "owner"
    (some ("cannot infer the class defining '" ++ f.qualifiedName ++ "'"))
  let parts := f.qualifiedName.splitOn "."
  if parts.length < 2 || parts.contains "<locals>" then throw refused
  let st ← get
  let start : Option Value := if f.home = "world" then
      match parts with
      | first :: _ => Hints.moduleNamed? st first
      | [] => none
    else none
  let found ← ((parts.drop 1).dropLast).foldlM (fun v part => do
    match v with
    | none => return none
    | some v => attributeOrNone v part) start
  match found with
  | some (.cls c) => return c
  | _ => throw refused
where
  /-- An attribute, or nothing where there is none. -/
  attributeOrNone (v : Value) (name : String) : Action (Option Value) :=
    tryCatchThe Failure (some <$> v.getAttribute name) fun f =>
      if f.isA .attributeError then return none else throw f

/-- The descriptor of a class (its constructor), of a function, a bound method, or a property. -/
def describe (obj : Value) (owner : Option TypeForm) : Action MemberDescriptor := do
  let st ← get
  match obj with
  | .nothing => throw (.invalidArgument "obj" none)
  | .cls c => constructorOf c
  | .atom (.property p) =>
      match owner with
      | none =>
          throw (.invalidArgument "owner"
            (some "describing a property object requires its owner class"))
      | some (.cls c) =>
          let here := (st.lineage c).findSome? fun
            | .user i => ((st.classInfo i).entries.find? fun e => e.2 == .atom (.property p)).map (·.1)
            | .builtin _ => none
          match here with
          | some n => propertyOf c n
          | none =>
              throw (.memberNotFound ("the property is not defined on '" ++ nameOf st c ++ "'"))
      | some _ => fault .attributeError
  | .bound (.user id) self =>
      let c := match self with
        | .cls c => c
        | v => st.classOf v
      methodOf c (st.function id).name
  | .routine (.user id) =>
      let f := st.function id
      match owner with
      | some (.cls c) => methodOf c f.name
      | some _ => throw (.invalidArgument "cls" none)
      | none => methodOf (← ownerFromName f) f.name
  | v =>
      throw (.invalidArgument "obj"
        (some ("cannot describe a " ++ st.className (st.classOf v) ++ " object")))

end MemberAccess.Member
