import MemberAccess.TypeForm.Printing
import MemberAccess.Value.Conversion

/-!
# Equality, hashing and printing of values

Containers are equal when their items are, records when they are of one class and their fields are
equal, and any other objects when they are the same.  What can change under a table's feet has no hash:
lists, sets, dictionaries, arrays, and records that are not frozen.

Objects can hold one another in circles, so all of this is bounded by a depth.
-/

namespace MemberAccess

namespace Store

/-- How deep containers are looked into. -/
def depthBound (st : Store) : Nat := st.objects.size + 8

/-- The record traits of the class of an object, when the class was declared a record. -/
def recordOf? (st : Store) (c : ClassRef) : Option RecordTraits :=
  match c with
  | .user i => (st.classInfo i).record
  | .builtin _ => none

/-- The value of a field of an object: its own attribute or a slot. -/
def storedField (o : Object) (name : String) : Option Value :=
  match o.fields.lookup name with
  | some v => some v
  | none => (o.slots.find? fun s => s.2.1 == name).map (·.2.2)

mutual
/-- Whether two values are equal. -/
def equalValues (st : Store) : Nat → Value → Value → Bool
  | 0, _, _ => false
  | fuel + 1, v, w =>
      if v = w then true
      else
        match v, w with
        | .typeForm s, .typeForm t => s.equal t
        | _, _ =>
            match st.atomOf? v, st.atomOf? w with
            | some a, some b => a.equal b
            | _, _ =>
                match v, w with
                | .object a, .object b => equalObjects st fuel (st.object a) (st.object b)
                | _, _ => false

/-- Whether two objects that are not the same are equal. -/
def equalObjects (st : Store) : Nat → Object → Object → Bool
  | 0, _, _ => false
  | fuel + 1, o, p =>
      match o.payload, p.payload with
      | .list xs, .list ys | .tuple xs, .tuple ys => equalLists st fuel xs ys
      | .set xs, .set ys =>
          xs.length == ys.length && xs.all fun x => ys.any fun y => equalValues st fuel x y
      | .dict xs, .dict ys =>
          xs.length == ys.length && xs.all fun (k, x) =>
            ys.any fun (l, y) => equalValues st fuel k l && equalValues st fuel x y
      | .plain, .plain =>
          match st.recordOf? o.cls with
          | some traits =>
              o.cls == p.cls && equalLists st fuel (traits.fields.filterMap (storedField o))
                (traits.fields.filterMap (storedField p))
          | none => false
      | _, _ => false

/-- Whether two lists of values are equal item by item. -/
def equalLists (st : Store) : Nat → List Value → List Value → Bool
  | 0, _, _ => false
  | _ + 1, [], [] => true
  | fuel + 1, x :: xs, y :: ys => equalValues st fuel x y && equalLists st fuel xs ys
  | _ + 1, _, _ => false
end

/-- The count of items that all containers of the store hold together. -/
def itemCount (st : Store) : Nat :=
  st.objects.foldl (fun n o => n + match o.payload with
    | .list xs | .tuple xs | .set xs => xs.length
    | .dict xs => 2 * xs.length
    | _ => o.fields.length + o.slots.length) 0

/-- Whether two values are equal as a program sees it. -/
def equal (st : Store) (v w : Value) : Bool :=
  st.equalValues (3 * st.depthBound + 2 * st.itemCount) v w

mutual
/-- Whether a value can be a key of a table. -/
def hashableValue (st : Store) : Nat → Value → Bool
  | 0, _ => true
  | fuel + 1, v =>
      match v with
      | .typeForm t => t.hashable
      | .object a =>
          let o := st.object a
          match o.payload with
          | .list _ | .dict _ | .array _ => false
          | .set _ => st.builtinBase o.cls == .frozenset
          | .tuple xs => hashableValues st fuel xs
          | _ =>
              match st.recordOf? o.cls with
              | some traits =>
                  traits.frozen && hashableValues st fuel (traits.fields.filterMap (storedField o))
              | none => true
      | _ => true

/-- Whether all values of a list can be keys of a table. -/
def hashableValues (st : Store) : Nat → List Value → Bool
  | 0, _ => true
  | _ + 1, [] => true
  | fuel + 1, x :: xs => hashableValue st fuel x && hashableValues st fuel xs
end

/-- Whether a value has a hash. -/
def isHashable (st : Store) (v : Value) : Bool :=
  st.hashableValue (st.depthBound + st.itemCount) v

/-! ## Printing -/

mutual
/-- The printed form of a value. -/
def displayValue (st : Store) : Nat → Value → String
  | 0, _ => "..."
  | fuel + 1, v =>
      match v with
      | .typeForm t => t.display st
      | .bound .. => "<bound method>"
      | .object a =>
          let o := st.object a
          match o.payload with
          | .list xs => "[" ++ ", ".intercalate (displayValues st fuel xs) ++ "]"
          | .tuple xs =>
              match displayValues st fuel xs with
              | [x] => "(" ++ x ++ ",)"
              | ss => "(" ++ ", ".intercalate ss ++ ")"
          | .set xs =>
              let inner := ", ".intercalate (displayValues st fuel xs)
              if st.builtinBase o.cls == .frozenset then
                if xs.isEmpty then "frozenset()" else "frozenset(\x7b" ++ inner ++ "\x7d)"
              else if xs.isEmpty then "set()" else "\x7b" ++ inner ++ "\x7d"
          | .dict kvs =>
              "\x7b" ++ ", ".intercalate (displayEntries st fuel kvs) ++ "\x7d"
          | .atom a => a.print
          | _ => "<" ++ st.className o.cls ++ " object>"
      | .atom a => a.print

/-- The printed forms of values. -/
def displayValues (st : Store) : Nat → List Value → List String
  | 0, _ => []
  | _ + 1, [] => []
  | fuel + 1, x :: xs => displayValue st fuel x :: displayValues st fuel xs

/-- The printed forms of the entries of a dictionary. -/
def displayEntries (st : Store) : Nat → List (Value × Value) → List String
  | 0, _ => []
  | _ + 1, [] => []
  | fuel + 1, (k, x) :: xs =>
      (displayValue st fuel k ++ ": " ++ displayValue st fuel x) :: displayEntries st fuel xs
end

/-- The printed form of a value. -/
def display (st : Store) (v : Value) : String :=
  st.displayValue (st.depthBound + st.itemCount) v

/-- The text of a value; a text is its own. -/
def textOf (st : Store) (v : Value) : String :=
  match st.atomOf? v with
  | some (.text s) => s
  | some (.decimal d) => d.text
  | some (.fraction n d) => if d = 1 then toString n else toString n ++ "/" ++ toString d
  | _ => st.display v

/-- Whether a value counts as true. -/
def isTrue (st : Store) (v : Value) : Bool :=
  match st.atomOf? v with
  | some .none => false
  | some (.text s) => s != ""
  | some (.bytes bs) => !bs.isEmpty
  | some (.range s t u) => !(Atom.rangeItems s t u).isEmpty
  | some a => match a.quantities? with
      | some (.ratio n _, .ratio m _) => n != 0 || m != 0
      | _ => true
  | none =>
      match v with
      | .object a =>
          match (st.object a).payload with
          | .list xs | .tuple xs | .set xs => !xs.isEmpty
          | .dict kvs => !kvs.isEmpty
          | _ => true
      | _ => true

/-- A value in the place of a type. -/
def typeFormOf (st : Store) (v : Value) : TypeForm :=
  v.toTypeForm (st.display v) (st.isHashable v)

end Store
end MemberAccess
