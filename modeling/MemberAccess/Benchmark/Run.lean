import MemberAccess.Benchmark.Affinity
import MemberAccess.Benchmark.Cases
import MemberAccess.Benchmark.Script

/-!
# A benchmark run

From what the command line asks for to what is printed and left behind: the options are completed by the
profile, the sections are looked up, the cases of the wanted sections are run one after the other, and the
rows become a table and a document.  A run is written over the monad of its `Host`, which tells the time;
all else about it is settled by the options.
-/

namespace MemberAccess.Benchmark

open Number

/-! ## §1 What is to be done -/

/-- How much a profile does for each case. -/
def Profile.effort : Profile → Effort
  | .quick => ⟨3, 1, .real (ratio 5 1), 1000, .real (ratio 25 1), 7⟩
  | .full => ⟨7, 2, .real (ratio 20 1), 10000, .real (ratio 15 1), 15⟩

/-- How much is done for each case, at least as many samples being allowed as are taken in any case. -/
def Options.effort (o : Options) : Effort :=
  let p := o.profile.effort
  let samples := o.samples.getD p.samples
  { samples := samples
    warmup := o.warmup.getD p.warmup
    targetMs := (o.targetMs.map .real).getD p.targetMs
    minRepeats := o.minRepeats.getD p.minRepeats
    variationTarget := (o.variationTarget.map .real).getD p.variationTarget
    maxSamples := max (o.maxSamples.getD p.maxSamples) samples }

/-- Texts in ascending order, each once. -/
def ascendingTexts (ts : List String) : List String := ts.eraseDups.mergeSort (· ≤ ·)

/-- The wanted sections, or the wanted ones that do not exist. -/
def Options.wantedSections (o : Options) : Except (List String) (List String) :=
  let wanted := ascendingTexts ((Text.listed o.sections).map String.ofList)
  match wanted.filter fun s => !sectionNames.contains s with
  | [] => .ok wanted
  | unknown => .error unknown

/-- The text of a list of texts. -/
def listText (ts : List String) : String := "[" ++ ", ".intercalate (ts.map Text.quoted) ++ "]"

/-- What is said about sections that do not exist. -/
def unknownSectionsText (unknown : List String) : String := "Unknown sections: " ++ listText unknown

/-! ## §2 Running -/

/-- What a run needs of the machine. -/
structure Host (m : Type → Type) where
  /-- a clock in nanoseconds, for the samples -/
  now : m Int
  /-- a clock in seconds, for the whole run -/
  seconds : m Double

/-- What a run was asked to do and what came of it. -/
structure Results where
  profile : Profile
  effort : Effort
  sections : List String
  affinity : Affinity
  rows : List Row
  seconds : Double
  deriving Inhabited

section

variable {m : Type → Type} [Monad m] [MonadStateOf Session m]

/-- Runs the cases of the wanted sections. -/
@[specialize] def runCases (host : Host m) (e : Effort) (sections : List String) : ExceptT Fault m (List Row) := do
  let objects ← inSession Vectors.make
  let wanted := (workloads objects).filter fun l => sections.contains l.group
  ExceptT.lift (wanted.mapM fun l => l.case.run host.now e)

/-- Runs what the options ask for. -/
@[specialize] def Options.run (o : Options) (host : Host m) (affinity : Affinity) (sections : List String) :
    ExceptT Fault m Results := do
  let e := o.effort
  let start ← ExceptT.lift host.seconds
  let rows ← runCases host e sections
  let stop ← ExceptT.lift host.seconds
  return ⟨o.profile, e, sections, affinity, rows, stop.sub start⟩

/-- A host whose clock for the samples is a ticker, and whose clock for the whole run stands still. -/
def tickingHost : Host (StateT Session (StateM Ticker)) where
  now := liftM Ticker.read
  seconds := return Double.zero false

/-- Runs what the options ask for by the clock of a ticker.  All that the run puts into the session is
taken out again, except for what it logged. -/
def Options.runTicking (o : Options) (step : Int) (affinity : Affinity) (sections : List String) (s : Session) :
    Checked Results × Session :=
  let ((r, after), _) := ((o.run tickingHost affinity sections).run.run s).run ⟨0, step⟩
  (r, { s with log := after.log })

end

/-! ## §3 What is printed -/

/-- A setting with one place after the point. -/
def amountText (a : Amount) : String :=
  match a with
  | .whole n => toString n
  | .real x => x.fixed 1

/-- The processors in use. -/
def activeText (active : Option (List Int)) : String :=
  match active with
  | none => "None"
  | some ns => "[" ++ ", ".intercalate (ns.map toString) ++ "]"

/-- The lines in front of the run. -/
def Results.heading (r : Results) : List String :=
  let e := r.effort
  ["profile: " ++ r.profile.name ++ " (samples=" ++ toString e.samples ++ ", warmup=" ++ toString e.warmup ++
     ", target_sample_ms=" ++ amountText e.targetMs ++ ", min_repeats=" ++ toString e.minRepeats ++
     ", cv_target=" ++ amountText e.variationTarget ++ "%, max_samples=" ++ toString e.maxSamples ++ ")",
   "sections: " ++ listText r.sections,
   "host: backend=cpu, affinity=" ++ activeText r.affinity.active,
   ""]

/-- The lines behind the run. -/
def Results.closing (r : Results) : List String :=
  ["completed " ++ toString r.rows.length ++ " cases in " ++ r.seconds.fixed 2 ++ "s", ""] ++
    summaryText (r.rows.map (·.summary))

/-- The line about the document that was written. -/
def writtenText (path : String) : String := "Wrote JSON: " ++ path

/-- All lines of a run. -/
def Results.text (r : Results) : List String := r.heading ++ r.closing

/-! ## §4 What is left behind -/

/-- A setting as a document. -/
def amountDocument : Amount → Document
  | .whole n => .whole n
  | .real x => .real x

/-- What came of choosing processors, as a document. -/
def Affinity.document (a : Affinity) : Document :=
  .record [
    ("requested", .optional .text a.requested),
    ("applied", .bool a.applied),
    ("active", .optional (fun ns => .list (ns.map .whole)) a.active)]

/-- A run as a document. -/
def Results.document (r : Results) : Document :=
  .record [
    ("profile", .text r.profile.name),
    ("sections", .list (r.sections.map .text)),
    ("samples", .whole r.effort.samples),
    ("warmup", .whole r.effort.warmup),
    ("target_sample_ms", amountDocument r.effort.targetMs),
    ("min_repeats", .whole r.effort.minRepeats),
    ("cv_target_pct", amountDocument r.effort.variationTarget),
    ("max_samples", .whole r.effort.maxSamples),
    ("affinity", r.affinity.document),
    ("rows", .list (r.rows.map (·.document)))]

end MemberAccess.Benchmark
