import MemberAccess.Benchmark.Report
import MemberAccess.Text.Quoted

/-!
# The command line

What a benchmark run is told on its command line.  Reading it has three stages.  Each argument is first
told apart: a switch, perhaps with a value joined to it, or a plain value, or something that looks like a
switch and is none.  A switch may be shortened as long as it stays the only one that starts so; a negative
number is a plain value.  Then switches take the values behind them, from left to right.  What is left
over at the end is an error, as is a value that a switch cannot read.

Asking for help ends the reading at once, and an ambiguous switch ends it before anything else.
-/

namespace MemberAccess.Benchmark

open Number

/-! ## §1 Switches -/

/-- A switch of the command line. -/
inductive Switch
  | help | profile | sections | samples | warmup | targetMs | minRepeats | variationTarget | maxSamples
  | jsonOut
  deriving DecidableEq, Repr, Inhabited

namespace Switch

/-- All switches, in the order in which the help shows them. -/
def all : List Switch :=
  [help, profile, sections, samples, warmup, targetMs, minRepeats, variationTarget, maxSamples, jsonOut]

/-- The full name of a switch. -/
def name : Switch → String
  | help => "--help"
  | profile => "--profile"
  | sections => "--sections"
  | samples => "--samples"
  | warmup => "--warmup"
  | targetMs => "--target-sample-ms"
  | minRepeats => "--min-repeats"
  | variationTarget => "--cv-target"
  | maxSamples => "--max-samples"
  | jsonOut => "--json-out"

/-- The short name of the switch that has one. -/
def shortHelp : String := "-h"

/-- The name that an error calls a switch by. -/
def label : Switch → String
  | help => shortHelp ++ "/" ++ help.name
  | s => s.name

/-- What stands for the value of a switch in the help. -/
def valueName : Switch → String
  | help => ""
  | profile => "\x7bfull,quick\x7d"
  | s => String.ofList ((s.name.toList.drop 2).map fun c => if c = '-' then '_' else c.toUpper)

/-- What the help says about a switch. -/
def explanation : Switch → String
  | help => "show this help message and exit"
  | profile => "fixed benchmark profile presets"
  | sections => "comma-separated subset of sections"
  | samples => "timing samples per case"
  | warmup => "warmup rounds before timing"
  | targetMs => "target wall time per sample"
  | minRepeats => "minimum repeats after calibration"
  | variationTarget => "adaptive sampling CV target percent"
  | maxSamples => "adaptive sampling cap"
  | jsonOut => "optional path for machine-readable output"

end Switch

/-! ## §2 Errors -/

/-- What is wrong with a command line. -/
inductive UsageError
  | ambiguous (written : String) (candidates : List Switch)
  | valueMissing (s : Switch)
  | valueIgnored (s : Switch) (value : String)
  | notWhole (s : Switch) (value : String)
  | notReal (s : Switch) (value : String)
  | unknownProfile (value : String)
  | unrecognized (arguments : List String)
  deriving DecidableEq, Repr, Inhabited

/-- The wording of an error. -/
def UsageError.message : UsageError → String
  | ambiguous w cs =>
      "ambiguous option: " ++ w ++ " could match " ++ ", ".intercalate (cs.map (·.name))
  | valueMissing s => "argument " ++ s.label ++ ": expected one argument"
  | valueIgnored s v => "argument " ++ s.label ++ ": ignored explicit argument " ++ Text.quoted v
  | notWhole s v => "argument " ++ s.label ++ ": invalid int value: " ++ Text.quoted v
  | notReal s v => "argument " ++ s.label ++ ": invalid float value: " ++ Text.quoted v
  | unknownProfile v =>
      "argument " ++ Switch.profile.label ++ ": invalid choice: " ++ Text.quoted v ++
        " (choose from 'full', 'quick')"
  | unrecognized as => "unrecognized arguments: " ++ " ".intercalate as

/-! ## §3 Arguments -/

/-- What an argument is. -/
inductive Word
  | value (written : String)
  /-- a switch, with the value that is joined to it -/
  | switch (s : Switch) (joined : Option String)
  /-- the short name of the help switch with further characters behind it -/
  | shortHelp (rest : List Char)
  /-- what looks like a switch and is none -/
  | stranger (written : String)
  /-- the mark behind which nothing is a switch -/
  | terminator
  deriving DecidableEq, Repr, Inhabited

/-- Whether a text is a minus sign and a number, with or without a point; a line end may follow. -/
def isNegativeNumber (cs : List Char) : Bool :=
  let isDigit (c : Char) : Bool := (Text.digitValue? c).isSome
  let isFull (r : List Char) : Bool := !r.isEmpty && r.all isDigit
  match cs with
  | '-' :: r =>
      let r := if r.getLast? = some '\n' then r.dropLast else r
      match r.span (· ≠ '.') with
      | (whole, []) => isFull whole
      | (whole, _ :: places) => whole.all isDigit && isFull places
  | _ => false

/-- Splits off what is joined to a name by an equals sign. -/
def splitJoined (written : String) : String × Option String :=
  match written.toList.span (· ≠ '=') with
  | (_, []) => (written, none)
  | (name, _ :: value) => (String.ofList name, some (String.ofList value))

/-- The switches that a text may stand for when it is none by its full name. -/
def candidates (written : String) : List (Switch × Option String) :=
  let (name, joined) := splitJoined written
  if written.startsWith "--" then
    (Switch.all.filter fun s => s.name.startsWith name).map (·, joined)
  else []

/-- What an argument in front of the terminator is. -/
def Word.ofArgument (written : String) : Except UsageError Word :=
  let (name, joined) := splitJoined written
  match written.toList with
  | [] => .ok (.value written)
  | '-' :: r =>
      match Switch.all.find? fun s => s.name == written with
      | some s => .ok (.switch s none)
      | none =>
          if r.isEmpty then .ok (.value written)
          else if r.head? = some 'h' then .ok (.shortHelp (r.drop 1))
          else
            match Switch.all.find? fun s => s.name == name with
            | some s => .ok (.switch s joined)
            | none =>
                match candidates written with
                | [(s, v)] => .ok (.switch s v)
                | c :: d :: cs => .error (.ambiguous written ((c :: d :: cs).map (·.1)))
                | [] =>
                    if isNegativeNumber written.toList || r.contains ' ' then .ok (.value written)
                    else .ok (.stranger written)
  | _ => .ok (.value written)

/-- What the arguments are. -/
def Word.ofArguments : List String → Except UsageError (List Word)
  | [] => .ok []
  | a :: as =>
      if a = "--" then .ok (.terminator :: as.map .value)
      else do
        let w ← Word.ofArgument a
        return w :: (← Word.ofArguments as)

/-- An argument as it was written. -/
def Word.written : Word → String
  | value w | stranger w => w
  | switch s none => s.name
  | switch s (some v) => s.name ++ "=" ++ v
  | shortHelp r => Switch.shortHelp ++ String.ofList r
  | terminator => "--"

/-! ## §4 Options -/

/-- A fixed choice of how much is done. -/
inductive Profile
  | full | quick
  deriving DecidableEq, Repr, Inhabited

namespace Profile

/-- The name of a profile. -/
def name : Profile → String
  | full => "full"
  | quick => "quick"

/-- The profile of a name. -/
def named? (s : String) : Option Profile := [full, quick].find? fun p => p.name == s

end Profile

/-- What a command line asks for; what it does not name is decided by the profile. -/
structure Options where
  profile : Profile
  sections : String
  samples : Option Int
  warmup : Option Int
  targetMs : Option Double
  minRepeats : Option Int
  variationTarget : Option Double
  maxSamples : Option Int
  jsonOut : String
  deriving Repr, Inhabited

/-- The sections in the order in which they are run. -/
def sectionNames : List String := ["construct", "call", "action", "get", "set", "compile"]

/-- What an empty command line asks for. -/
def Options.standard : Options :=
  ⟨.quick, ",".intercalate sectionNames, none, none, none, none, none, none, ""⟩

/-- What a command line comes to. -/
inductive Request
  | run (o : Options)
  | help
  deriving Repr, Inhabited

namespace Options

/-- Takes the value of a switch over. -/
def put (o : Options) (s : Switch) (v : String) : Except UsageError Options := do
  let whole : Except UsageError Int := ((Text.integer? v).map .ok).getD (.error (.notWhole s v))
  let real : Except UsageError Double := ((Double.parse? v).map .ok).getD (.error (.notReal s v))
  match s with
  | .help => throw (.valueIgnored s v)
  | .profile =>
      match Profile.named? v with
      | some p => return { o with profile := p }
      | none => throw (.unknownProfile v)
  | .sections => return { o with sections := v }
  | .samples => return { o with samples := some (← whole) }
  | .warmup => return { o with warmup := some (← whole) }
  | .targetMs => return { o with targetMs := some (← real) }
  | .minRepeats => return { o with minRepeats := some (← whole) }
  | .variationTarget => return { o with variationTarget := some (← real) }
  | .maxSamples => return { o with maxSamples := some (← whole) }
  | .jsonOut => return { o with jsonOut := v }

/-- What characters behind the short name of the help switch come to: further short names are looked
for one by one, and only the help switch has one. -/
def shortHelp : List Char → Except UsageError Request
  | [] => .ok .help
  | '-' :: r => .error (.valueIgnored .help (String.ofList ('-' :: r)))
  | '=' :: r => .error (.valueIgnored .help (String.ofList r))
  | 'h' :: r => shortHelp r
  | _ => .ok .help

/-- Takes switches with their values, and gathers what is left over. -/
def take (o : Options) (left : List String) : List Word → Except UsageError Request
  | [] => if left.isEmpty then .ok (.run o) else .error (.unrecognized left.reverse)
  | .switch .help none :: _ => .ok .help
  | .shortHelp r :: _ => shortHelp r
  | .switch s (some v) :: ws => do (← o.put s v).take left ws
  | .switch s none :: .value v :: ws => do (← o.put s v).take left ws
  | .switch s none :: _ => .error (.valueMissing s)
  | w :: ws => o.take (w.written :: left) ws

end Options

/-- Reads a command line. -/
def Request.ofArguments (arguments : List String) : Except UsageError Request := do
  Options.standard.take [] (← Word.ofArguments arguments)

/-! ## §5 Help -/

/-- Joins words to lines of at most `width` characters; `used` counts those of the line so far. -/
def wrapWords (width indent : Nat) : Nat → List String → List String → List String
  | _, line, [] => [" ".intercalate line.reverse]
  | used, line, w :: ws =>
      if width < used + 1 + w.length && !line.isEmpty then
        " ".intercalate line.reverse :: wrapWords width indent (indent - 1 + w.length + 1) [w] ws
      else wrapWords width indent (used + w.length + 1) (w :: line) ws

/-- The lines that say how a program is called. -/
def usageText (program : String) : List String :=
  let start := "usage: " ++ program
  let words := Switch.all.map fun s =>
    match s with
    | .help => "[" ++ Switch.shortHelp ++ "]"
    | s => "[" ++ s.name ++ " " ++ s.valueName ++ "]"
  let indent := start.length + 1
  match wrapWords 78 indent start.length [start] words with
  | [] => []
  | l :: ls => l :: ls.map (String.ofList (List.replicate indent ' ') ++ ·)

/-- The lines of the help about a switch: the explanation stands in a column of its own, on the next line
when the switch reaches into it. -/
def switchHelp (s : Switch) : List String :=
  let call := match s with
    | .help => Switch.shortHelp ++ ", " ++ s.name
    | s => s.name ++ " " ++ s.valueName
  let head := "  " ++ call
  if head.length ≤ 22 then [Text.padRight 24 head ++ s.explanation]
  else [head, Text.padRight 24 "" ++ s.explanation]

/-- The help. -/
def helpText (program : String) : List String :=
  usageText program ++
    ["", "Benchmark compiled accessors against direct access and getattr-style", "reflection.", "",
     "options:"] ++ Switch.all.flatMap switchHelp

/-- What an erroneous command line is answered with. -/
def errorText (program : String) (e : UsageError) : List String :=
  usageText program ++ [program ++ ": error: " ++ e.message]

end MemberAccess.Benchmark
