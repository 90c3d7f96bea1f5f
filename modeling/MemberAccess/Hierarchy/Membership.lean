import MemberAccess.Value.Attribute

/-!
# Subclasses and instances

Whether a class is a subclass of another, and whether a value is an instance of a class.

Most classes have the subclasses that name them among their ancestors.  An abstract class also has those
registered with it, and a few abstract classes have every class that has certain methods.  A *protocol*
has every class, and every object, with its members; but only a protocol that was declared testable may
be tested for at all, and only one without data members may be tested on a class.
-/

namespace MemberAccess

/-- The names in a protocol's namespace that are no members of it. -/
def protocolInternals : List String :=
  ["__parameters__", "__orig_bases__", "__orig_class__", "_is_protocol", "_is_runtime_protocol",
   "__final__", "__abstractmethods__", "__annotations__", "__dict__", "__doc__", "__init__",
   "__module__", "__new__", "__slots__", "__subclasshook__", "__weakref__", "__class_getitem__",
   "_MutableMapping__marker"]

/-- The methods of the protocols that are always there to be tested for. -/
def builtinProtocols : List (List String) :=
  [["__int__"], ["__float__"], ["__complex__"], ["__bytes__"], ["__index__"], ["__abs__"],
   ["__round__"],
   ["__len__", "__getitem__", "__contains__", "__iter__", "__reversed__", "count", "index"]]

namespace Store

/-! ## §1 Members of protocols -/

/-- The members that a protocol asks for, its ancestors' included. -/
def protocolMembers (st : Store) (c : ClassRef) : List String :=
  let names := (st.lineage c).flatMap fun
    | .builtin _ => []
    | .user i =>
        let info := st.classInfo i
        info.entries.map (·.1) ++ info.annotations.map (·.1)
  (names.filter fun n => !n.startsWith "_abc_" && !protocolInternals.contains n).eraseDups

/-- Whether a class attribute can be called. -/
def isCallableEntry : Value → Bool
  | .routine _ | .atom (.static _) | .atom (.classMethod _) | .bound .. | .cls _ => true
  | _ => false

/-- Whether a protocol asks for methods only. -/
def hasMethodsOnly (st : Store) (c : ClassRef) : Bool :=
  (st.protocolMembers c).all fun n =>
    match st.lookup? c n with
    | some (_, e) => isCallableEntry e
    | none => false

/-- Whether a class is a protocol itself, not just a class that follows one. -/
def isProtocol (st : Store) : ClassRef → Bool
  | .builtin b => b == .protocol
  | .user i => (st.classInfo i).isProtocol

/-- Whether a protocol may be tested for. -/
def isRuntimeProtocol (st : Store) : ClassRef → Bool
  | .builtin _ => false
  | .user i => (st.classInfo i).isRuntimeProtocol

/-- Whether the namespaces of a lineage have the name, and the first one that has it does not block it;
a protocol among the ancestors may have it as an annotation. -/
def providesMember (st : Store) (c : ClassRef) (name : String) : Bool :=
  let found := (st.lineage c).findSome? fun k =>
    match st.entry? k name with
    | some e => some (e != .nothing)
    | none =>
        match k with
        | .user i =>
            if st.isProtocol c && ((st.classInfo i).annotations.lookup name).isSome then some true
            else none
        | .builtin _ => none
  found.getD false

/-- Whether the class has all the methods, none of them blocked. -/
def providesAll (st : Store) (c : ClassRef) (names : List String) : Bool :=
  names.all (st.providesMember c)

/-! ## §2 Subclasses -/

/-- Whether a class names another among its ancestors. -/
def descends (st : Store) (c d : ClassRef) : Bool := (st.lineage c).contains d

/-- Whether a class is registered with an abstract class, by itself or through an ancestor. -/
def isRegistered (st : Store) (c : ClassRef) (d : Builtin) : Bool :=
  (st.lineage c).any fun
    | .builtin b => b.registered.contains d
    | .user _ => false

/-- Whether the class has the members of a protocol of its own accord. -/
def followsProtocol (st : Store) (c d : ClassRef) : Bool := st.providesAll c (st.protocolMembers d)

/-- Whether `c` is a subclass of `d`; asking for a protocol that may not be tested for is a fault. -/
def subclassTest (st : Store) (c d : ClassRef) : Outcome Bool :=
  match d with
  | .user i =>
      let info := st.classInfo i
      if !info.isProtocol then .ok (st.descends c d)
      else if !info.isRuntimeProtocol then .error (.fault .typeError)
      else if !st.hasMethodsOnly d then .error (.fault .typeError)
      else .ok (st.followsProtocol c d || st.descends c d)
  | .builtin .protocol =>
      .ok (st.descends c d || builtinProtocols.any (st.providesAll c) ||
        (List.range st.classes.size).any fun i =>
          let info := st.classInfo i
          info.isProtocol && info.isRuntimeProtocol && st.hasMethodsOnly (.user i) &&
            st.followsProtocol c (.user i))
  | .builtin b =>
      match b.requiredMethods with
      | some names => .ok (st.providesAll c names || st.descends c d || st.isRegistered c b)
      | none => .ok (st.descends c d || st.isRegistered c b)

/-- Whether `c` is a subclass of `d`; a question that may not be asked is answered with no. -/
def isSubclass (st : Store) (c d : ClassRef) : Bool :=
  match st.subclassTest c d with
  | .ok b => b
  | .error _ => false

/-- Whether a value is an instance of a built-in class. -/
def isBuiltinInstance (st : Store) (v : Value) (b : Builtin) : Bool :=
  match st.subclassTest (st.classOf v) (.builtin b) with
  | .ok r => r
  | .error _ => false

end Store

/-! ## §3 Instances -/

namespace Value

open MemberAccess.Action

/-- Whether a value has an attribute, and one that is not blocked unless it may be absent.  A property is
run for it, and once more where its value has to be looked at. -/
def hasMember (v : Value) (mayBeAbsent : Bool) (name : String) : Action Bool := do
  let isThere ← tryCatchThe Failure (do discard (v.getAttribute name); return true) fun f =>
    if f.isA .attributeError then return false else throw f
  if !isThere then return false
  else if mayBeAbsent then return true
  else return (← v.getAttribute name) != .nothing

/-- Whether a value has all the members of a protocol. -/
def hasMembers (v : Value) (protocol : ClassRef) : List String → Action Bool
  | [] => return true
  | n :: ns => do
      let isMethod := match (← get).lookup? protocol n with
        | some (_, e) => Store.isCallableEntry e
        | none => false
      if ← v.hasMember (!isMethod) n then v.hasMembers protocol ns else return false

/-- Whether a value is an instance of a class; asking for a protocol that may not be tested for, or for
the class of everything, is a fault.  An instance of the very class is never asked for anything. -/
def isInstance (v : Value) (d : ClassRef) : Action Bool := do
  let st ← get
  let c := st.classOf v
  match d with
  | .user i =>
      let info := st.classInfo i
      if !info.isProtocol then return st.descends c d
      else if c = d then return true
      else if !info.isRuntimeProtocol then fault .typeError
      else if st.hasMethodsOnly d && st.isSubclass c d then return true
      else if ← v.hasMembers d (st.protocolMembers d) then return true
      else return st.descends c d
  | .builtin .any | .builtin .protocol => fault .typeError
  | .builtin b => ofOutcome (st.subclassTest c (.builtin b))

end Value
end MemberAccess
