import MemberAccess.Declaration.Basic
import MemberAccess.Text.Blank

/-!
# Records

A class declared a record gets an initialiser that takes its fields in order, those of its ancestors
first.  A field is an annotated name that is no class variable; its default is what the class already
has under the name.  A frozen record refuses to have its fields set, and its ancestors among records must
be frozen with it.
-/

namespace MemberAccess.Declaration

open MemberAccess.Action

/-- A field of a record. -/
structure Field where
  name : String
  type : TypeForm
  default : Option Value
  keywordOnly : Bool
  deriving Inhabited

/-- The word characters at the start of a text, and the rest. -/
def spanWord (cs : List Char) : List Char × List Char := cs.span Text.isWord

/-- Whether an annotation written as a text names a class variable: the name alone or after its home,
with anything behind it. -/
def textNamesClassVar (s : String) : Bool :=
  let (first, rest) := spanWord (s.toList.dropWhile Text.isBlank)
  let isName (cs : List Char) : Bool := String.ofList cs == "ClassVar"
  match rest.dropWhile Text.isBlank with
  | '.' :: more =>
      let (second, _) := spanWord (more.dropWhile Text.isBlank)
      if second.isEmpty then isName first
      else String.ofList first == "typing" && isName second
  | _ => isName first

/-- Whether an annotation in a class makes the name a class variable. -/
def isClassVar : TypeForm → Bool
  | .classVar .. | .bare .classVar => true
  | .text s => textNamesClassVar s
  | _ => false

/-- Whether a value has no hash by its class, so that it cannot be shared as a default. -/
def isMutableDefault (st : Store) (v : Value) : Bool :=
  match v with
  | .object a =>
      let o := st.object a
      match st.lookup? o.cls "__hash__" with
      | some (_, .nothing) => true
      | _ => match o.payload with
          | .list _ | .dict _ | .array _ => true
          | .set _ => st.builtinBase o.cls != .frozenset
          | _ => false
  | _ => false

/-- Puts a field into a list of fields, in the place of one of the same name. -/
def putField (f : Field) : List Field → List Field
  | [] => [f]
  | g :: gs => if g.name = f.name then f :: gs else g :: putField f gs

/-- The default that a class has under the name of a field. -/
def fieldDefault (c : ClassRef) (name : String) : Action (Option Value) :=
  fun run => ExceptT.mk fun st =>
    match ((Value.cls c).getAttribute name).perform run st with
    | (.ok (.atom (.slot ..)), st) => (.ok none, st)
    | (.ok v, st) => (.ok (some v), st)
    | (.error _, _) => (.ok none, st)

/-- The fields that a class itself adds to a record. -/
def ownFields (c : ClassRef) (info : ClassInfo) (keywordOnly : Bool) : Action (List Field) := do
  let candidates := info.annotations.filter fun (_, t) => !isClassVar t
  candidates.mapM fun (n, t) => do
    let d ← fieldDefault c n
    if (d.map (isMutableDefault (← get))).getD false then fault .valueError
    return ⟨n, t, d, keywordOnly⟩

/-- Whether a field without default follows one with a default. -/
def defaultsOutOfOrder : List Field → Bool
  | [] => false
  | f :: fs =>
      (f.default.isSome && fs.any (·.default.isNone)) || defaultsOutOfOrder fs

/-- The initialiser of a record. -/
def recordInit (info : ClassInfo) (fields : List Field) : Function :=
  let parameter (f : Field) : Parameter :=
    ⟨f.name, if f.keywordOnly then .keywordOnly else .positional, some f.type, f.default⟩
  { name := "__init__"
    qualifiedName := info.qualifiedName ++ ".__init__"
    home := "world"
    parameters := ⟨"self", .positional, none, none⟩ ::
      ((fields.filter (!·.keywordOnly)).map parameter ++ (fields.filter (·.keywordOnly)).map parameter)
    result := some .none
    body := .fillFields (fields.map (·.name)) }

end MemberAccess.Declaration
