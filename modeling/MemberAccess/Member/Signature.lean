import MemberAccess.Value.Run

/-!
# Signatures

The positional parameters that a routine or a class shows to a caller.  A class shows those of the
function that makes its instances: the nearest of its own or inherited makers and initialisers that was
declared by a program, without the receiver.  Built-in routines show what their class records of them,
and some show nothing at all.
-/

namespace MemberAccess

/-- A positional parameter with its written annotation. -/
structure ShownParameter where
  name : String
  type : Option TypeForm
  deriving DecidableEq, Repr, Inhabited

/-- The positional parameters and the written annotation of the result. -/
structure Signature where
  parameters : List ShownParameter
  result : Option TypeForm
  deriving DecidableEq, Repr, Inhabited

namespace Signature

/-- Nameless parameters without annotations. -/
def plain (count : Nat) : Signature :=
  ⟨(List.range count).map fun i => ⟨"p" ++ toString i, none⟩, none⟩

/-- The signature of a declared function. -/
def ofFunction (f : Function) : Signature :=
  ⟨(f.parameters.filter (·.isPositional)).map fun p => ⟨p.name, p.type⟩, f.result⟩

/-- A signature without its first positional parameter. -/
def withoutFirst (s : Signature) : Signature := { s with parameters := s.parameters.drop 1 }

end Signature

namespace Store

/-- The declared function of a number. -/
def function (st : Store) (id : Nat) : Function := st.functions[id]?.getD default

/-- The signature of a routine, the receiver included, if it shows one. -/
def signature? (st : Store) : Routine → Option Signature
  | .user id => some (.ofFunction (st.function id))
  | .builtin o n =>
      match o.member? n with
      | some (.routine _ k) | some (.static k) | some (.classMethod k) => k.map .plain
      | _ => none

/-- The signature of a function whose first parameter is filled already; a function that can take no
such argument has none. -/
def boundSignature? (st : Store) (r : Routine) : Option Signature :=
  match r with
  | .user id =>
      match (st.function id).parameters with
      | [] => none
      | p :: _ =>
          if p.kind == .keywordOnly || p.kind == .keywords then none
          else if p.kind == .variadic then st.signature? r
          else (st.signature? r).map (·.withoutFirst)
  | .builtin .. => (st.signature? r).map (·.withoutFirst)

/-- The parameters that a built-in class shows when it is called. -/
def builtinClassSignature? : Builtin → Option Signature
  | .float => some ⟨[⟨"x", none⟩], none⟩
  | .list | .tuple => some ⟨[⟨"iterable", none⟩], none⟩
  | .complex => some ⟨[⟨"real", none⟩, ⟨"imag", none⟩], none⟩
  | .decimal => some ⟨[⟨"value", none⟩, ⟨"context", none⟩], none⟩
  | .fraction => some ⟨[⟨"numerator", none⟩, ⟨"denominator", none⟩], none⟩
  | .int | .str | .bytes | .bool | .dict | .set | .frozenset | .type | .range | .noneType => none
  | .array | .arrayValue | .hostArray | .float64 | .float32 | .int64 | .truth | .complex64 => none
  | _ => some ⟨[], none⟩

/-- A class entry as the routine that a call of the class reaches, with whether it is bound already. -/
def makerOf? : Value → Option (Routine × Bool)
  | .routine r => some (r, false)
  | .atom (.static r) => some (r, false)
  | .atom (.classMethod r) => some (r, true)
  | _ => none

/-- The signature of calling a class, if it shows one. -/
def classSignature? (st : Store) (c : ClassRef) : Option Signature :=
  let declared (name : String) : Option Value :=
    match st.lookup? c name with
    | some (.user _, .routine (.builtin ..)) => none
    | some (.user _, e) => some e
    | some (.builtin .fraction, _) | some (.builtin .any, _) => none
    | _ => none
  let maker := declared "__new__"
  let init := declared "__init__"
  let found := (st.lineage c).findSome? fun k =>
    if maker.isSome && (st.entry? k "__new__").isSome then maker
    else if init.isSome && (st.entry? k "__init__").isSome then init
    else none
  match found with
  | some e =>
      match makerOf? e with
      | some (r, false) => st.boundSignature? r
      | some (r, true) => (st.boundSignature? r).map (·.withoutFirst)
      | none => none
  | none => builtinClassSignature? (st.builtinBase c)

end Store
end MemberAccess
