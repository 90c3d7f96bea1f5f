import MemberAccess.Value.Store

/-!
# Attributes

Reading and writing an attribute of a value by name.

Reading looks, in this order, at what the class of the value says about the name with authority
(properties, slots, the fields of built-in classes, and objects that want to be asked), at the attributes
of the object itself, and at what else the class and its ancestors hold under the name; a function found
in a class is bound to the value.  A class is read through its own lineage.  Writing follows the same
order, and a frozen record refuses its fields.

Classes of a program can take part by special methods: `__getattribute__` reads in place of all this, and
`__getattr__` after it found nothing; `__setattr__` writes in its place; and an object in a class is asked
by its own `__get__` and `__set__`.

Properties and special methods run code, so both are actions.
-/

namespace MemberAccess

open MemberAccess.Action

namespace Store

/-! ## §1 Special methods -/

/-- The declared function that the class of a value has under a name. -/
def specialMethod? (st : Store) (v : Value) (name : String) : Option Nat :=
  match st.lookup? (st.classOf v) name with
  | some (_, .routine (.user id)) => some id
  | _ => none

/-- Whether the class of a value has an entry for a name. -/
def classHas (st : Store) (v : Value) (name : String) : Bool :=
  (st.lookup? (st.classOf v) name).isSome

/-- Whether a class entry wants to be asked for what it gives, and before the object's own attributes. -/
def asksFirst (st : Store) (e : Value) : Bool :=
  (st.specialMethod? e "__get__").isSome && (st.classHas e "__set__" || st.classHas e "__delete__")

/-! ## §2 Entries -/

/-- Whether a class entry decides about an attribute before the object's own attributes do. -/
def isAuthoritative : Value → Bool
  | .atom (.property _) | .atom (.slot ..) | .atom (.field ..) => true
  | _ => false

/-- What a class entry gives for a receiver that has it in its class `c`. -/
def bind (receiver : Value) (c : ClassRef) : Value → Value
  | .routine (.user id) => .bound (.user id) receiver
  | .routine (.builtin o n) =>
      match o.member? n with
      | some (.routine .free _) => .routine (.builtin o n)
      | some (.routine .classDescriptor _) => .bound (.builtin o n) (.cls c)
      | _ => .bound (.builtin o n) receiver
  | .atom (.static r) => .routine r
  | .atom (.classMethod r) => .bound r (.cls c)
  | v => v

/-- What a class entry gives when it is read from the class `c` itself. -/
def unbound (c : ClassRef) : Value → Value
  | .atom (.static r) => .routine r
  | .atom (.classMethod r) => .bound r (.cls c)
  | .routine (.builtin o n) =>
      match o.member? n with
      | some (.routine .classDescriptor _) => .bound (.builtin o n) (.cls c)
      | _ => .routine (.builtin o n)
  | v => v

/-- The attributes of its own that a value keeps. -/
def ownFields (st : Store) : Value → List (String × Value)
  | .object a => (st.object a).fields
  | _ => []

/-- Whether an object keeps attributes of any name. -/
def keepsFields (st : Store) : Value → Bool
  | .object a =>
      match (st.object a).cls with
      | .user i => (st.classInfo i).hasFields
      | .builtin _ => false
  | _ => false

/-- The number parts that built-in numbers show as attributes. -/
def numberField? (st : Store) (v : Value) (name : String) : Option Value :=
  let a : Option Atom := match v with
    | .object p => match (st.object p).payload with
        | .atom a => some a
        | _ => none
    | .atom a => some a
    | _ => none
  match a, name with
  | some (.bool b), "real" | some (.bool b), "numerator" => some (.int (if b then 1 else 0))
  | some (.int n), "real" | some (.int n), "numerator" => some (.int n)
  | some (.int _), "imag" | some (.bool _), "imag" => some (.int 0)
  | some (.int _), "denominator" | some (.bool _), "denominator" => some (.int 1)
  | some (.float x), "real" => some (.float x)
  | some (.float _), "imag" => some (.float (Number.Double.zero false))
  | some (.complex re _), "real" => some (.float re)
  | some (.complex _ im), "imag" => some (.float im)
  | some (.fraction n _), "numerator" => some (.int n)
  | some (.fraction _ d), "denominator" => some (.int d)
  | some (.fraction n d), "real" => some (.atom (.fraction n d))
  | some (.fraction ..), "imag" => some (.int 0)
  | some (.decimal d), "real" => some (.atom (.decimal d))
  | some (.decimal _), "imag" => some (.atom (.decimal (.finite false 0 0)))
  | some (.range s _ _), "start" => some (.int s)
  | some (.range _ t _), "stop" => some (.int t)
  | some (.range _ _ u), "step" => some (.int u)
  | _, _ => none

/-- What a class says about itself. -/
def classField? (st : Store) (c : ClassRef) (name : String) : Option Value :=
  match name with
  | "__name__" => some (.text (st.className c))
  | "__qualname__" =>
      some (.text (match c with
        | .builtin b => b.name
        | .user i => (st.classInfo i).qualifiedName))
  | _ => none

/-- Whether a class is a frozen record and refuses an attribute of an instance of class `c`. -/
def refusesAs (st : Store) (c : ClassRef) (name : String) (k : ClassRef) : Bool :=
  match k with
  | .user i =>
      let info := st.classInfo i
      info.ownRecord == some true &&
        (c == k || ((info.record.map (·.fields)).getD []).contains name)
  | .builtin _ => false

/-- Whether a frozen record among the ancestors refuses the attribute. -/
def refusesField (st : Store) (c : ClassRef) (name : String) : Bool :=
  (st.lineage c).any (st.refusesAs c name)

/-- The method of its own by which a class sets an attribute, where no frozen record before it in the
order refuses that. -/
def settingMethod? (st : Store) (c : ClassRef) (name : String) : Option Nat :=
  ((st.lineage c).findSome? fun k =>
    match k with
    | .user i =>
        match (st.classInfo i).entries.lookup "__setattr__" with
        | some (.routine (.user id)) => some (some id)
        | _ => if st.refusesAs c name k then some none else none
    | .builtin _ => none).join

end Store

namespace Value

/-! ## §3 Reading -/

/-- What a field of a built-in class gives for a value. -/
def readField (v : Value) (name : String) : Action Value := do
  let st ← get
  if name = "__class__" then return .cls (st.classOf v)
  else if name = "__dict__" then
    if st.keepsFields v then
      allocateBuiltin .dict (.dict ((st.ownFields v).map fun (n, x) => (.text n, x)))
    else fault .attributeError
  else
    match st.numberField? v name with
    | some x => return x
    | none => fault .attributeError

/-- What an authoritative class entry gives for a value. -/
def readAuthoritative (v : Value) : Value → Action Value
  | .atom (.property p) => do
      let st ← get
      match (st.properties[p]?.getD default).getter with
      | some g => callFunction g [v]
      | none => fault .attributeError
  | .atom (.slot owner name) => do
      match v with
      | .object a =>
          let st ← get
          match (st.object a).slots.find? fun (c, n, _) => c == owner && n == name with
          | some (_, _, x) => return x
          | none => fault .attributeError
      | _ => fault .attributeError
  | .atom (.field _ name) => readField v name
  | _ => fault .attributeError

/-- What a class entry gives for a receiver of class `c`; an object in the class may be asked for it. -/
def readEntry (v : Value) (c : ClassRef) (e : Value) : Action Value := do
  match (← get).specialMethod? e "__get__" with
  | some id => callFunction id [e, v, .cls c]
  | none => return Store.bind v c e

/-- The attribute of a value that is no class. -/
def readInstance (v : Value) (name : String) : Action Value := do
  let st ← get
  let c := st.classOf v
  match st.lookup? c name with
  | some (_, e) =>
      if Store.isAuthoritative e then readAuthoritative v e
      else if st.asksFirst e then readEntry v c e
      else
        match (st.ownFields v).lookup name with
        | some x => return x
        | none => readEntry v c e
  | none =>
      match (st.ownFields v).lookup name with
      | some x => return x
      | none => fault .attributeError

/-- The attribute of a class. -/
def readClass (c : ClassRef) (name : String) : Action Value := do
  let st ← get
  if name = "__class__" then return .cls (st.classOf (.cls c))
  match st.classField? c name with
  | some x => return x
  | none =>
      match st.lookup? c name with
      | some (_, e) =>
          match st.specialMethod? e "__get__" with
          | some id => callFunction id [e, .nothing, .cls c]
          | none => return Store.unbound c e
      | none =>
          match st.lookup? (st.classOf (.cls c)) name with
          | some (_, .routine (.builtin o n)) => return .bound (.builtin o n) (.cls c)
          | _ => fault .attributeError

/-- What a routine says about itself. -/
def readRoutine (r : Routine) (name : String) : Action (Option Value) := do
  let st ← get
  match r, name with
  | .user id, "__name__" => return some (.text (st.functions[id]?.getD default).name)
  | .user id, "__qualname__" => return some (.text (st.functions[id]?.getD default).qualifiedName)
  | .user id, "__module__" => return some (.text (st.functions[id]?.getD default).home)
  | .builtin _ n, "__name__" => return some (.text n)
  | .builtin o n, "__qualname__" => return some (.text (o.name ++ "." ++ n))
  | _, _ => return none

/-- The attribute of a value, read in the built-in way. -/
def readAttribute (v : Value) (name : String) : Action Value := do
  match v with
  | .cls c => readClass c name
  | .atom .module =>
      match BareForm.named? name with
      | some f => return .typeForm (.bare f)
      | none =>
          if name = "Any" then return .builtin .any
          else if name = "Generic" then return .builtin .generic
          else if name = "Protocol" then return .builtin .protocol
          else fault .attributeError
  | .routine r => do
      match ← readRoutine r name with
      | some x => return x
      | none => readInstance v name
  | .bound r self => do
      if name = "__self__" then return self
      else if name = "__func__" then return .routine r
      else
        match ← readRoutine r name with
        | some x => return x
        | none => readInstance v name
  | _ => readInstance v name

/-- The attribute of a value. -/
def getAttribute (v : Value) (name : String) : Action Value := do
  let st ← get
  let read := match st.specialMethod? v "__getattribute__" with
    | some id => callFunction id [v, .text name]
    | none => v.readAttribute name
  match st.specialMethod? v "__getattr__" with
  | none => read
  | some id =>
      tryCatchThe Failure read fun f =>
        if f.isA .attributeError then callFunction id [v, .text name] else throw f

/-! ## §4 Writing -/

/-- Sets a value in a list of named values, in its place if the name is there. -/
def putNamed (name : String) (x : Value) : List (String × Value) → List (String × Value)
  | [] => [(name, x)]
  | (n, y) :: r => if n = name then (n, x) :: r else (n, y) :: putNamed name x r

theorem lookup_putNamed (name : String) (x : Value) (fs : List (String × Value)) :
    (putNamed name x fs).lookup name = some x := by
  induction fs with
  | nil => simp [putNamed]
  | cons f fs ih =>
    obtain ⟨n, y⟩ := f
    unfold putNamed
    by_cases h : n = name
    · simp [h]
    · have hne : (name == n) = false := by simpa using fun he => h he.symm
      simp [h, List.lookup_cons, hne, ih]

theorem lookup_putNamed_ne (name other : String) (x : Value) (fs : List (String × Value))
    (h : other ≠ name) : (putNamed name x fs).lookup other = fs.lookup other := by
  have hb : (other == name) = false := by simpa using h
  induction fs with
  | nil => simp [putNamed, List.lookup_cons, hb]
  | cons f fs ih =>
    obtain ⟨n, y⟩ := f
    unfold putNamed
    by_cases hn : n = name
    · subst hn
      simp [List.lookup_cons, hb]
    · simp only [hn, if_false, List.lookup_cons]
      split
      · rfl
      · exact ih

/-- Sets the slot of a class in a list of filled slots. -/
def putSlot (owner : ClassRef) (name : String) (x : Value) :
    List (ClassRef × String × Value) → List (ClassRef × String × Value)
  | [] => [(owner, name, x)]
  | (c, n, y) :: r =>
      if c = owner ∧ n = name then (c, n, x) :: r else (c, n, y) :: putSlot owner name x r

/-- Keeps a value among the attributes of the object itself. -/
def keepField (v : Value) (a : Address) (name : String) (x : Value) : Action Unit := do
  if (← get).keepsFields v then
    modifyObject a fun o => { o with fields := putNamed name x o.fields }
  else fault .attributeError

/-- Sets an attribute of an object in the built-in way, frozen or not. -/
def storeField (v : Value) (a : Address) (name : String) (x : Value) : Action Unit := do
  let st ← get
  match st.lookup? (st.classOf v) name with
  | some (_, .atom (.property p)) =>
      match (st.properties[p]?.getD default).setter with
      | some s => discard <| callFunction s [v, x]
      | none => fault .attributeError
  | some (_, .atom (.slot owner slot)) =>
      modifyObject a fun o => { o with slots := putSlot owner slot x o.slots }
  | some (_, .atom (.field ..)) => fault .attributeError
  | some (_, e) =>
      match st.specialMethod? e "__set__" with
      | some id => discard <| callFunction id [e, v, x]
      | none => if st.classHas e "__delete__" then fault .attributeError else keepField v a name x
  | none => keepField v a name x

/-- Sets an attribute of an object. -/
def setInstance (v : Value) (a : Address) (name : String) (x : Value) : Action Unit := do
  let st ← get
  match st.settingMethod? (st.classOf v) name with
  | some id => discard <| callFunction id [v, .text name, x]
  | none =>
      if st.refusesField (st.classOf v) name then fault .frozenInstance
      else storeField v a name x

/-- Sets an attribute of a value. -/
def setAttribute (v : Value) (name : String) (x : Value) : Action Unit := do
  match v with
  | .object a => setInstance v a name x
  | .cls (.user i) => modifyClass i fun k => { k with entries := putNamed name x k.entries }
  | .cls (.builtin b) =>
      if b.metaclass == .type && b != .generic then fault .typeError else return ()
  | .routine (.user _) => return ()
  | _ => fault .attributeError

end Value
end MemberAccess
