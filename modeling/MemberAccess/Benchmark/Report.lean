import MemberAccess.Benchmark.Document
import MemberAccess.Benchmark.Sampling
import MemberAccess.Text.Split

/-!
# Benchmark cases and their report

A case is something to build and then to call.  Running it gives a `Row`: the figures of its samples, or
the message of what went wrong while it was built, calibrated or sampled; a case that fails never stops the
others.  Rows are shown as the lines of a table and as documents.
-/

namespace MemberAccess.Benchmark

open Number

/-! ## §1 Rows -/

/-- How much is done for each case. -/
structure Effort where
  samples : Int
  warmup : Int
  /-- the time that a sample should last, in milliseconds -/
  targetMs : Amount
  minRepeats : Int
  /-- the coefficient of variation, in percent, that is good enough -/
  variationTarget : Amount
  maxSamples : Int
  deriving Repr, Inhabited

/-- What the samples of a case say, in nanoseconds per call. -/
structure Figures where
  mean : Double
  deviation : Double
  /-- the deviation in percent of the mean -/
  variation : Double
  median : Double
  /-- all but one in twenty are not above it -/
  high : Double
  least : Double
  deriving DecidableEq, Repr, Inhabited

/-- What became of a case. -/
structure Row where
  group : String
  name : String
  /-- the figures, or the message of what went wrong -/
  result : Except String Figures
  repeats : Int
  samples : Int
  deriving Inhabited

/-- A ratio as a floating-point number. -/
def ratio (n d : Nat) : Double := (Double.ofRatio false n d).getD (Double.zero false)

/-- The figures of samples. -/
def Figures.ofSamples (rows : List Double) : Checked Figures := do
  let values := rows.map Amount.real
  let centre ← Benchmark.mean values
  let spread ← Benchmark.deviation values
  let variation ←
    if Amount.isBelow (.whole 0) (.real centre) then
      pure ((spread.div centre).mul (← realOfInt 100))
    else pure (Double.zero false)
  let median ← (← percentile values (.real (ratio 1 2))).toReal
  let high ← (← percentile values (.real (ratio 95 100))).toReal
  match rows with
  | [] => throw .divisionByZero
  | x :: xs => return ⟨centre, spread, variation, median, high, Benchmark.least x xs⟩

/-! ## §2 Cases -/

/-- Something to measure: it is built once, and what was built is called many times. -/
structure Case (m : Type → Type) where
  group : String
  name : String
  build : ExceptT Fault m (ExceptT Fault m Unit)

namespace Case

variable {m : Type → Type} [Monad m]

/-- Builds a case, calls it once, calibrates it and takes its samples. -/
@[specialize] def measure (c : Case m) (now : m Int) (e : Effort) : ExceptT Fault m (Int × List Double) := do
  let call ← c.build
  call
  let p : Probe m := ⟨now, call⟩
  let repeats ← p.calibrate e.targetMs e.minRepeats Probe.defaultMaxRepeats
  let rows ← p.sampleAll ⟨repeats, e.warmup, e.samples, e.variationTarget, e.maxSamples⟩
  return (repeats, rows)

/-- The row of a case. -/
def row (c : Case m) (e : Effort) (outcome : Checked (Int × List Double)) : Row :=
  let figures : Checked (Figures × Int × List Double) := do
    let (repeats, rows) ← outcome
    return (← Figures.ofSamples rows, repeats, rows)
  match figures with
  | .ok (f, repeats, rows) => ⟨c.group, c.name, .ok f, repeats, rows.length⟩
  | .error f => ⟨c.group, c.name, .error f.message, e.minRepeats, e.samples⟩

/-- Runs a case. -/
@[specialize] def run (c : Case m) (now : m Int) (e : Effort) : m Row := do
  let outcome ← (c.measure now e).run
  return c.row e outcome

end Case

/-! ## §3 The table -/

/-- A line of the table; a figure may be missing. -/
structure SummaryLine where
  group : String
  name : String
  status : String
  mean : Option Double
  high : Option Double
  variation : Option Double
  deriving Repr, Inhabited

/-- The word for what became of a case. -/
def Row.status (r : Row) : String := if r.result.isOk then "ok" else "error"

/-- The figures of a row, if it has any. -/
def Row.figures? (r : Row) : Option Figures := r.result.toOption

/-- A row as a line of the table. -/
def Row.summary (r : Row) : SummaryLine :=
  let f := r.figures?
  ⟨r.group, r.name, r.status, f.map (·.mean), f.map (·.high), f.map (·.variation)⟩

/-- A figure with the given count of places in a column of the given width; a dash for a missing one. -/
def figureText (width places : Nat) (x : Option Double) : String :=
  Text.padLeft width ((x.map (Double.fixed places)).getD "-")

/-- The text of a line. -/
def SummaryLine.text (l : SummaryLine) : String :=
  Text.padRight 9 l.group ++ "  " ++ Text.padRight 16 l.name ++ "  " ++ figureText 9 1 l.mean ++ "  " ++
    figureText 8 1 l.high ++ "  " ++ figureText 6 2 l.variation ++ "  " ++ l.status

/-- The table with its heading, and an empty line behind it. -/
def summaryText (lines : List SummaryLine) : List String :=
  ["accessor benchmark summary",
   "section    case                mean(ns)   p95(ns)   cv(%)   status",
   "---------  ----------------  ---------  --------  ------  ------"] ++ lines.map (·.text) ++ [""]

/-! ## §4 Documents -/

/-- A row as a document. -/
def Row.document (r : Row) : Document :=
  let figure (get : Figures → Double) : Document := .optional .real (r.figures?.map get)
  .record [
    ("section", .text r.group), ("name", .text r.name), ("status", .text r.status),
    ("mean_ns", figure (·.mean)), ("stdev_ns", figure (·.deviation)), ("cv_pct", figure (·.variation)),
    ("p50_ns", figure (·.median)), ("p95_ns", figure (·.high)), ("min_ns", figure (·.least)),
    ("repeats", .whole r.repeats), ("samples", .whole r.samples),
    ("error", match r.result with
      | .ok _ => .null
      | .error m => .text m)]

end MemberAccess.Benchmark
