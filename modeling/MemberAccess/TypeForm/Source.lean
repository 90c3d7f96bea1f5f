import MemberAccess.Value.Store
import MemberAccess.Text.Identifier
import MemberAccess.Text.NormalForm
import MemberAccess.Text.Digit

/-!
# Annotations written as texts

A text in the place of an annotation is an expression over names: dotted names, application to
arguments in brackets, bars between alternatives, and the few constants that can stand among them.  It
is read into an `Expr`, so that looking it up is evaluation like any other.

Reading is by recursive descent over tokens.  The depth of nesting is bounded by the count of tokens,
which is the fuel.
-/

namespace MemberAccess.Source

/-- A token of an annotation text. -/
inductive Token
  | word (s : String)
  | number (n : Nat)
  | quote (s : String)
  | mark (c : Char)
  | dots
  deriving DecidableEq, Repr

/-! ## §1 Tokens -/

/-- The text up to the closing quote mark, with what follows. -/
def spanQuote (q : Char) : List Char → Option (List Char × List Char)
  | [] => none
  | c :: r =>
      if c = q then some ([], r)
      else if c = '\\' || c = '\n' then none
      else (spanQuote q r).map fun (s, rest) => (c :: s, rest)

/-- Splits a text into tokens; fuel is the length of the text. -/
def tokens? : Nat → List Char → Option (List Token)
  | _, [] => some []
  | 0, _ :: _ => none
  | fuel + 1, c :: r =>
      if c = ' ' || c = '\t' || c = '\n' then tokens? fuel r
      else if Text.isIdentifierStart c then
        let (more, rest) := r.span Text.isIdentifierPart
        (tokens? fuel rest).map (.word (String.ofList (c :: more)) :: ·)
      else if c.isDigit then
        let (more, rest) := r.span Char.isDigit
        let badZero := c = '0' && more.any (· ≠ '0')
        let badTail := (rest.head?.map Text.isIdentifierStart).getD false
        if badZero || badTail then none
        else (tokens? fuel rest).bind fun ts =>
          (Text.natural? (c :: more)).map fun n => .number n :: ts
      else if c = '\'' || c = '"' then
        (spanQuote c r).bind fun (s, rest) =>
          (tokens? fuel rest).map (.quote (String.ofList s) :: ·)
      else
        match c, r with
        | '.', '.' :: '.' :: rest => (tokens? fuel rest).map (.dots :: ·)
        | _, _ =>
            if "()[],.|-".toList.contains c then (tokens? fuel r).map (.mark c :: ·) else none

/-! ## §2 Expressions -/

/-- The expression of a word: a constant, a name, or nothing for any other reserved word. -/
def wordExpr? (s : String) : Option Expr :=
  if s = "None" then some (.constant .nothing)
  else if s = "True" then some (.constant (.bool true))
  else if s = "False" then some (.constant (.bool false))
  else if Text.reservedWords.contains s then none
  else some (.named (Text.normalForm s))

mutual
/-- Reads alternatives with bars between them. -/
def readBar : Nat → List Token → Option (Expr × List Token)
  | 0, _ => none
  | fuel + 1, ts => (readPostfix fuel ts).bind fun (e, rest) => readMoreBars fuel e rest

/-- Goes on after a first alternative. -/
def readMoreBars : Nat → Expr → List Token → Option (Expr × List Token)
  | 0, _, _ => none
  | fuel + 1, e, .mark '|' :: ts =>
      (readPostfix fuel ts).bind fun (f, rest) => readMoreBars fuel (.form .bar [e, f]) rest
  | _ + 1, e, ts => some (e, ts)

/-- Reads a primary expression with its members, arguments and calls. -/
def readPostfix : Nat → List Token → Option (Expr × List Token)
  | 0, _ => none
  | fuel + 1, ts => (readPrimary fuel ts).bind fun (e, rest) => readMorePostfix fuel e rest

/-- Goes on after a primary expression. -/
def readMorePostfix : Nat → Expr → List Token → Option (Expr × List Token)
  | 0, _, _ => none
  | fuel + 1, e, .mark '.' :: .word s :: ts =>
      if Text.reservedWords.contains s then none
      else readMorePostfix fuel (.member e (Text.normalForm s)) ts
  | fuel + 1, e, .mark '[' :: ts =>
      (readItems fuel ']' ts).bind fun (es, rest) =>
        if es.isEmpty then none else readMorePostfix fuel (.form .subscript (e :: es)) rest
  | fuel + 1, e, .mark '(' :: ts =>
      (readItems fuel ')' ts).bind fun (es, rest) => readMorePostfix fuel (.call e es) rest
  | _ + 1, e, ts => some (e, ts)

/-- Reads a primary expression. -/
def readPrimary : Nat → List Token → Option (Expr × List Token)
  | 0, _ => none
  | fuel + 1, ts =>
      match ts with
      | .word s :: rest => (wordExpr? s).map (·, rest)
      | .number n :: rest => some (.constant (.int n), rest)
      | .mark '-' :: .number n :: rest => some (.constant (.int (-n)), rest)
      | .quote s :: rest => some (.constant (.text s), rest)
      | .dots :: rest => some (.constant (.typeForm .ellipsis), rest)
      | .mark '[' :: rest => (readItems fuel ']' rest).map fun (es, rest) => (.list es, rest)
      | .mark '(' :: rest =>
          (readItems fuel ')' rest).map fun (es, rest) =>
            match es with
            | [e] => (e, rest)
            | es => (.tuple es, rest)
      | _ => none

/-- Reads expressions with commas between them up to a closing mark. -/
def readItems : Nat → Char → List Token → Option (List Expr × List Token)
  | 0, _, _ => none
  | fuel + 1, close, ts =>
      match ts with
      | .mark c :: rest =>
          if c = close then some ([], rest) else readItem fuel close ts
      | _ => readItem fuel close ts

/-- Reads one item and what follows it. -/
def readItem : Nat → Char → List Token → Option (List Expr × List Token)
  | 0, _, _ => none
  | fuel + 1, close, ts =>
      (readBar fuel ts).bind fun (e, rest) =>
        match rest with
        | .mark ',' :: rest => (readItems fuel close rest).map fun (es, rest) => (e :: es, rest)
        | .mark c :: rest => if c = close then some ([e], rest) else none
        | _ => none
end

/-- Reads a whole text as one expression, or as several with commas between them. -/
def read? (s : String) : Option Expr :=
  let cs := s.toList
  match cs with
  | ' ' :: _ | '\t' :: _ => none
  | _ =>
      (tokens? (cs.length + 1) cs).bind fun ts =>
        let fuel := 6 * ts.length + 8
        match readItem fuel ')' (ts ++ [.mark ')']) with
        | some ([e], []) =>
            if ts.getLast? = some (.mark ',') then some (.tuple [e]) else some e
        | some (es, []) => some (.tuple es)
        | _ => none

end MemberAccess.Source
