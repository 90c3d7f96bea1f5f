import MemberAccess.Value.Equality

/-!
# Failures made from values

A body raises a failure by its kind and some values.  Three of the library's own kinds read their values
as particulars and word themselves from them; every other kind shows the values it was given.
-/

namespace MemberAccess.Failure

/-- A count with its digits in groups, and a truth value as the number it stands for. -/
def countText? (st : Store) (v : Value) : Option String :=
  match st.atomOf? v with
  | some (.int n) => some (Text.grouped n)
  | some (.bool b) => some (if b then "1" else "0")
  | _ => none

/-- The wording of a failure that shows the values it was given. -/
def plainText (st : Store) (kind : ErrorKind) (arguments : List Value) : String :=
  match arguments with
  | [] => ""
  | [v] => if kind = .keyError then st.display v else st.textOf v
  | vs => "(" ++ ", ".intercalate (vs.map st.display) ++ ")"

/-- The failure of a kind, made from values; `named` are those given by name. -/
def ofValues (st : Store) (kind : ErrorKind) (arguments : List Value) (named : List (String × Value)) :
    Outcome Failure :=
  let refuse : Outcome Failure := .error (.fault .typeError)
  match kind with
  | .invalidArgument =>
      let make (a m : Value) : Outcome Failure :=
        let reason := if st.isTrue m then some (st.textOf m) else none
        .ok (.raised kind (invalidArgumentText (st.textOf a) reason) [("argument", a)])
      match arguments, named with
      | [a], [] => make a .nothing
      | [a, m], [] => make a m
      | [a], [("message", m)] => make a m
      | _, _ => refuse
  | .arityMismatch =>
      match arguments with
      | [e, a] =>
          if named.any fun n => n.1 != "where" && n.1 != "noun" then refuse
          else
            let place := (named.lookup "where").getD (.text "member")
            let noun := (named.lookup "noun").getD (.text "parameters")
            match countText? st e, countText? st a with
            | some es, some as =>
                let text := "The " ++ st.textOf place ++ " must have " ++ es ++ " " ++ st.textOf noun ++
                  ", but has " ++ as ++ "."
                .ok (.raised kind text [("expected", e), ("actual", a), ("where", place)])
            | _, _ =>
                match st.atomOf? e, st.atomOf? a with
                | some (.text _), _ | _, some (.text _) => .error (.fault .valueError)
                | _, _ => refuse
      | _ => refuse
  | .argumentTypeMismatch =>
      match arguments, named with
      | [p, e, a], [] =>
          .ok (.raised kind (argumentText (st.textOf p) (st.textOf e) (st.textOf a))
            [("where", p), ("expected", e), ("actual", a)])
      | _, _ => refuse
  | k =>
      if named.isEmpty then .ok (.raised k (plainText st k arguments) []) else refuse

end MemberAccess.Failure
