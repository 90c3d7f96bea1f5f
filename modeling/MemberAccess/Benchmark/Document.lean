import MemberAccess.Number.Decimal

/-!
# Documents

The data that a benchmark leaves behind for other programs, and its JSON text: one item a line, indented
by two spaces a level, and ASCII only.
-/

namespace MemberAccess.Benchmark

open Number

/-- Structured data. -/
inductive Document
  | null
  | bool (b : Bool)
  | whole (n : Int)
  | real (x : Double)
  | text (s : String)
  | list (items : List Document)
  | record (fields : List (String × Document))
  deriving Inhabited

namespace Document

/-- A code unit of 16 bits, written with four hexadecimal digits. -/
def unitText (n : Nat) : List Char :=
  '\\' :: 'u' :: [n / 4096, n / 256 % 16, n / 16 % 16, n % 16].map Nat.digitChar

/-- A character inside a text; outside ASCII by its code units. -/
def characterText (c : Char) : List Char :=
  match c with
  | '"' => ['\\', '"']
  | '\\' => ['\\', '\\']
  | '\n' => ['\\', 'n']
  | '\r' => ['\\', 'r']
  | '\t' => ['\\', 't']
  | '\x08' => ['\\', 'b']
  | '\x0c' => ['\\', 'f']
  | c =>
      let n := c.toNat
      if 0x20 ≤ n && n < 0x7f then [c]
      else if n < 0x10000 then unitText n
      else unitText (0xd800 + (n - 0x10000) / 0x400) ++ unitText (0xdc00 + (n - 0x10000) % 0x400)

/-- A text between quotes. -/
def quotedText (s : String) : String :=
  String.ofList ('"' :: s.toList.flatMap characterText ++ ['"'])

/-- A floating-point number: the shortest digits that read back, or a word for what has no digits. -/
def realText (x : Double) : String :=
  match x.parts with
  | .nan => "NaN"
  | .infinite negative => if negative then "-Infinity" else "Infinity"
  | .finite .. => x.shortest true

/-- The start of a line at a level. -/
def lineStart (level : Nat) : String := "\n" ++ String.ofList (List.replicate (2 * level) ' ')

/-- Items between brackets, one a line; no items leave the brackets together. -/
def bracketed (opening closing : String) (level : Nat) (items : List String) : String :=
  match items with
  | [] => opening ++ closing
  | items =>
      opening ++ ",".intercalate (items.map fun i => lineStart (level + 1) ++ i) ++ lineStart level ++
        closing

mutual
/-- The text of a document that stands at a level. -/
def textAt (level : Nat) : Document → String
  | null => "null"
  | bool b => if b then "true" else "false"
  | whole n => toString n
  | real x => realText x
  | text s => quotedText s
  | list items => bracketed "[" "]" level (textsAt (level + 1) items)
  | record fields => bracketed "\x7b" "\x7d" level (fieldTextsAt (level + 1) fields)

/-- The texts of the items of a list. -/
def textsAt (level : Nat) : List Document → List String
  | [] => []
  | d :: ds => textAt level d :: textsAt level ds

/-- The texts of the fields of a record. -/
def fieldTextsAt (level : Nat) : List (String × Document) → List String
  | [] => []
  | (name, d) :: fs => (quotedText name ++ ": " ++ textAt level d) :: fieldTextsAt level fs
end

/-- The JSON text of a document. -/
def render (d : Document) : String := textAt 0 d

/-- A document that may be missing. -/
def optional {α : Type} (f : α → Document) : Option α → Document
  | some a => f a
  | none => null

end Document
end MemberAccess.Benchmark
