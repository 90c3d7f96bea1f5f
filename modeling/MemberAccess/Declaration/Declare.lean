import MemberAccess.Declaration.Record
import MemberAccess.Hierarchy.Linearization

/-!
# Declaring classes

Puts a class into the store: evaluates its bases and finds the order of its ancestors, evaluates its
annotations and members, makes its slots, and then applies what its ancestors ask of a new class (generic
parameters, protocols, records).  A class that breaks a rule is not declared.
-/

namespace MemberAccess.Declaration

open MemberAccess.Action

/-! ## §1 Bases -/

/-- Whether a base is a class applied through its generic spelling. -/
def isGenericSpelling : TypeForm → Bool
  | .alias _ .generic .. | .bare _ => true
  | _ => false

/-- The classes that a base stands for, given the bases written before and after it. -/
def baseClasses (st : Store) (all after : List TypeForm) : TypeForm → Outcome (List ClassRef)
  | .cls c => .ok [c]
  | .alias _ .direct o _ => .ok [o]
  | .alias _ .generic (.builtin .generic) _ =>
      if all.contains (.builtin .protocol) || after.any isGenericSpelling then .ok []
      else .ok [.builtin .generic]
  | .alias _ .generic (.user i) _ => .ok [.user i]
  | .alias _ .generic (.builtin .protocol) _ => .ok [.builtin .protocol]
  | .alias _ .generic o _ => .ok (withGeneric o)
  | .bare f =>
      match f.origin? with
      | some b => .ok (withGeneric (.builtin b))
      | none => .error (.fault .typeError)
  | _ => .error (.fault .typeError)
where
  /-- A built-in class under its generic spelling brings the generic class along. -/
  withGeneric (o : ClassRef) : List ClassRef :=
    let own := if all.contains (.cls o) then [] else [o]
    let followed := after.any fun t =>
      isGenericSpelling t || match t with
        | .cls c => st.descends c (.builtin .generic)
        | _ => false
    if followed then own else own ++ [.builtin .generic]

/-- The classes that the written bases stand for. -/
def allBaseClasses (st : Store) (all : List TypeForm) : List TypeForm → Outcome (List ClassRef)
  | [] => .ok []
  | t :: ts => do
      let cs ← baseClasses st all ts t
      let rest ← allBaseClasses st all ts
      return cs ++ rest

/-- The class that fixes the layout of the instances of a class. -/
def layoutBase (st : Store) (c : ClassRef) : ClassRef :=
  ((st.lineage c).find? fun
    | .user i => (st.classInfo i).slotNames.any fun n => n != "__dict__" && n != "__weakref__"
    | .builtin b => [Builtin.int, .float, .complex, .str, .bytes, .list, .tuple, .dict, .set,
        .frozenset, .type, .fraction, .decimal, .float64, .float32, .int64, .complex64,
        .hostArray].contains b).getD (.builtin .object)

/-- Whether the layouts of the bases agree: one of them is below all others. -/
def layoutsAgree (st : Store) (bases : List ClassRef) : Bool :=
  let ls := bases.map (layoutBase st)
  ls.any fun l => ls.all fun m => m == .builtin .object || st.descends l m

/-- The metaclass below those of all bases. -/
def metaclassOf? (st : Store) (bases : List ClassRef) : Option Builtin :=
  let metas := bases.map fun
    | .builtin b => b.metaclass
    | .user i => (st.classInfo i).metaclass
  (Builtin.type :: metas).find? fun m => (Builtin.type :: metas).all fun n => m.lineage.contains n

/-- Whether a base may be named at all. -/
def mayBeBase (c : ClassRef) : Bool :=
  match c with
  | .builtin b => b.mayBeBase || b == .generic
  | .user _ => true

/-! ## §2 Generic parameters -/

mutual
/-- The variables of an annotation, each where it first occurs. -/
def variableNames : TypeForm → List String
  | .variable n | .bounded n _ | .choice n _ => [n]
  | .union _ _ ts | .alias _ _ _ ts => variableNamesOf ts
  | .callable _ ts r => variableNamesOf ts ++ variableNames r
  | .annotated _ t _ | .classVar _ t | .final _ t => variableNames t
  | _ => []

/-- The variables of several annotations. -/
def variableNamesOf : List TypeForm → List String
  | [] => []
  | t :: ts => variableNames t ++ variableNamesOf ts
end

/-- The parameters of a generic class over its written bases. -/
def genericParameters (written : List TypeForm) : Outcome (List String) :=
  let found := (variableNamesOf written).eraseDups
  let declared := written.filterMap fun
    | .alias _ .generic (.builtin .generic) ts | .alias _ .generic (.builtin .protocol) ts =>
        some (variableNamesOf ts)
    | _ => none
  match declared with
  | [] => .ok found
  | [ps] => if found.all ps.contains then .ok ps else .error (.fault .typeError)
  | _ => .error (.fault .typeError)

/-! ## §3 The namespace -/

/-- The name under which a slot is kept: a private name is joined with the name of its class. -/
def slotEntryName (className slot : String) : String :=
  if slot.startsWith "__" && !slot.endsWith "__" then
    let bare := String.ofList (className.toList.dropWhile (· == '_'))
    if bare = "" then slot else "_" ++ bare ++ slot
  else slot

/-- Adds an entry unless the name is taken. -/
def addMissing (name : String) (v : Value) (entries : List (String × Value)) :
    List (String × Value) :=
  if (entries.lookup name).isSome then entries else entries ++ [(name, v)]

/-- The entries of the slots of a class. -/
def slotEntries (c : ClassRef) (className : String) (slots : List String) : List (String × Value) :=
  (slots.filter fun n => n != "__dict__" && n != "__weakref__").map fun n =>
    let kept := slotEntryName className n
    (kept, .atom (.slot c kept))

/-- Whether the slots of a class can be made beside its entries. -/
def slotsAllowed (st : Store) (bases : List ClassRef) (slots : List String)
    (entries : List (String × Value)) : Outcome Unit :=
  let real := slots.filter fun n => n != "__dict__" && n != "__weakref__"
  if !real.isEmpty && bases.any fun b => [Builtin.int, .bytes, .tuple].contains (st.builtinBase b) then
    .error (.fault .typeError)
  else if slots.any fun n => !Text.isIdentifier n then .error (.fault .typeError)
  else if real.any fun n => (entries.lookup n).isSome then .error (.fault .valueError)
  else .ok ()

/-! ## §4 Protocols and records -/

/-- Whether a protocol may have the class among its bases. -/
def mayBeProtocolBase (st : Store) : ClassRef → Bool
  | .builtin b =>
      [Builtin.object, .generic, .protocol, .callable, .iterable, .sized, .container, .collection,
        .reversible].contains b
  | .user i => (st.classInfo i).isProtocol

/-- Makes a class what its ancestors' protocols ask of it. -/
def applyProtocol (i : Nat) : Action Unit := do
  let st ← get
  let info := st.classInfo i
  let c := ClassRef.user i
  if !st.descends c (.builtin .protocol) then return ()
  let isProtocol := info.bases.contains (.builtin .protocol)
  modifyClass i fun k =>
    { k with
      isProtocol := isProtocol
      entries := addMissing "_is_protocol" (.bool isProtocol) k.entries }
  if !isProtocol then return ()
  if !info.bases.all (mayBeProtocolBase st) then fault .typeError
  match st.lookup? c "__init__" with
  | some (.user _, _) => return ()
  | _ =>
      let id ← addFunction {
        name := "_no_init_or_replace_init"
        qualifiedName := "_no_init_or_replace_init"
        home := "typing"
        parameters := [⟨"self", .positional, none, none⟩, ⟨"args", .variadic, none, none⟩,
          ⟨"kwargs", .keywords, none, none⟩]
        result := none
        body := .protocolInit }
      modifyClass i fun k => { k with entries := k.entries ++ [("__init__", .routine (.user id))] }

/-- The fields that a class inherits from the records among its ancestors, with whether one of them is
frozen, if there is any. -/
def inheritedFields (st : Store) (table : List (Nat × List Field)) (i : Nat) :
    List Field × Option Bool :=
  let ancestors := ((st.classInfo i).lineage.drop 1).reverse
  ancestors.foldl (fun (fields, frozen) k =>
    match k with
    | .builtin _ => (fields, frozen)
    | .user j =>
        match (st.classInfo j).record, recordOwner? st j with
        | some traits, some owner =>
            let own := (table.lookup owner).getD []
            (own.foldl (fun fs f => putField f fs) fields,
              some ((frozen.getD false) || traits.frozen))
        | _, _ => (fields, frozen)) ([], none)
where
  /-- The nearest class in an order that was declared a record. -/
  recordOwner? (st : Store) (j : Nat) : Option Nat :=
    (st.classInfo j).lineage.findSome? fun
      | .user k => if (st.classInfo k).ownRecord.isSome then some k else none
      | .builtin _ => none

/-- Makes a class a record; `table` has the fields of the records declared so far. -/
def applyRecord (table : List (Nat × List Field)) (i : Nat) (r : RecordDecl) :
    Action (List (Nat × List Field)) := do
  let st ← get
  let c := ClassRef.user i
  let (inherited, anyFrozen) := inheritedFields st table i
  let own ← ownFields c (st.classInfo i) r.keywordOnly
  match anyFrozen with
  | some f => if f != r.frozen then fault .typeError
  | none => pure ()
  let fields := own.foldl (fun fs f => putField f fs) inherited
  if r.withInit && defaultsOutOfOrder (fields.filter (!·.keywordOnly)) then fault .typeError
  let info := (← get).classInfo i
  if r.frozen && ["__setattr__", "__delattr__"].any fun n => (info.entries.lookup n).isSome then
    fault .typeError
  let initId ← if r.withInit then some <$> addFunction (recordInit info fields) else pure none
  let routine (n : String) : Value := .routine (.builtin .object n)
  modifyClass i fun k =>
    let es := addMissing "__dataclass_params__" (.text "") k.entries
    let es := addMissing "__dataclass_fields__" (.text "") es
    let es := match initId with
      | some id => addMissing "__init__" (.routine (.user id)) es
      | none => es
    let es := addMissing "__repr__" (routine "__repr__") es
    let es := addMissing "__eq__" (routine "__eq__") es
    let es := if r.frozen then
        addMissing "__delattr__" (routine "__delattr__")
          (addMissing "__setattr__" (routine "__setattr__") es)
      else es
    let es := if r.frozen then addMissing "__hash__" (routine "__hash__") es
      else addMissing "__hash__" .nothing es
    let es := addMissing "__match_args__" (.text "") es
    { k with
      entries := es
      record := some ⟨r.frozen, fields.map (·.name)⟩
      ownRecord := some r.frozen }
  return (i, fields) :: table

/-! ## §5 Classes -/

/-- Declares a class. -/
def declareClass (table : List (Nat × List Field)) (d : ClassDecl) :
    Action (List (Nat × List Field)) := do
  let written ← d.bases.mapM typeForm
  let annotations ← d.annotations.mapM fun (n, e) => do return (n, ← typeForm e)
  let members ← d.members.mapM (member d.name)
  let st ← get
  let bases ← ofOutcome (allBaseClasses st written written)
  let bases := if bases.isEmpty then [.builtin .object] else bases
  let isApplied := written.any fun t => !(t matches .cls _)
  if !bases.all mayBeBase || bases.eraseDups.length != bases.length then fault .typeError
  if !layoutsAgree st bases then fault .typeError
  let some metaclass := metaclassOf? st bases | fault .typeError
  let c := ClassRef.user st.classes.size
  let some lineage := Hierarchy.linearize? c bases (bases.map st.lineage) | fault .typeError
  if bases.contains (.builtin .generic) && written.contains (.builtin .generic) then fault .typeError
  let parameters ← if isApplied then ofOutcome (genericParameters written) else pure []
  let slots := (d.slots.map (·.names)).getD []
  let entries := members.foldl (fun es (n, v) => Value.putNamed n v es) []
  if d.slots.isSome then ofOutcome (slotsAllowed st bases slots entries)
  let inheritsFields := bases.any fun
    | .user i => (st.classInfo i).hasFields
    | .builtin b => b == .any || b == .type
  let hasFields := d.slots.isNone || slots.contains "__dict__" || inheritsFields
  let slotsValue ← match d.slots with
    | some (.single n) => pure [("__slots__", Value.text n)]
    | some (.many ns) => do
        pure [("__slots__", ← allocateBuiltin .tuple (.tuple (ns.map .text)))]
    | none => pure []
  let entries := ("__module__", .text "world") ::
    (if annotations.isEmpty then [] else [("__annotations__", .text "")]) ++ slotsValue ++ entries
  let entries := entries ++ slotEntries c d.name slots
  let entries := if hasFields && !inheritsFields then
      addMissing "__dict__" (.atom (.field .object "__dict__")) entries else entries
  let entries := if d.slots.isNone then
      addMissing "__weakref__" (.atom (.field .object "__weakref__")) entries else entries
  let entries := addMissing "__doc__" .nothing entries
  let entries := if (entries.lookup "__eq__").isSome then addMissing "__hash__" .nothing entries
    else entries
  let entries := if isApplied then addMissing "__orig_bases__" (.text "") entries else entries
  let inheritedRecord := (lineage.drop 1).findSome? fun
    | .user i => (st.classInfo i).record
    | .builtin _ => none
  let inheritedRuntime := (lineage.drop 1).any fun
    | .user i => (st.classInfo i).isRuntimeProtocol
    | .builtin _ => false
  let info : ClassInfo := {
    name := d.name
    qualifiedName := d.qualifiedName.getD d.name
    bases := bases
    genericBases := if isApplied then written else []
    lineage := lineage
    annotations := annotations.foldl (fun ts (n, t) =>
      if (ts.lookup n).isSome then ts.map fun e => if e.1 == n then (n, t) else e
      else ts ++ [(n, t)]) []
    slotNames := slots
    entries := entries
    isProtocol := false
    isRuntimeProtocol := inheritedRuntime
    metaclass := metaclass
    record := inheritedRecord
    ownRecord := none
    hasFields := hasFields
    parameters := parameters }
  modify fun st => { st with classes := st.classes.push info }
  let i := st.classes.size
  applyProtocol i
  let table ← match d.record with
    | some r => applyRecord table i r
    | none => pure table
  if d.runtime then
    if ((← get).classInfo i).isProtocol then
      modifyClass i fun k =>
        { k with
          isRuntimeProtocol := true
          entries := addMissing "_is_runtime_protocol" (.bool true) k.entries }
    else fault .typeError
  return table

/-- Declares the classes of a program in order. -/
def declareAll (ds : List ClassDecl) : Action Unit := do
  discard <| ds.foldlM declareClass []

end MemberAccess.Declaration
