import MemberAccess.Benchmark.Statistics

/-!
# Sampling

Measuring how long a function takes.  A measurement calls the function many times between two readings of
a clock.  How many times is calibrated by a short trial; then samples are taken, first a fixed count and
then more, until they agree well enough or there are enough of them.

All of it is written for any monad that the clock is read in and the function runs in.  The command line
runs it with the machine's clock; running it in a state monad gives the same computation with a clock whose
readings are known, which is what the laws below it are about.  The number of samples is bounded before
the first one is taken: the loop that takes further ones counts down.
-/

namespace MemberAccess.Benchmark

open Number

/-- A function under measurement and the clock that it is measured by, in nanoseconds. -/
structure Probe (m : Type → Type) where
  now : m Int
  call : ExceptT Fault m Unit

/-- How samples are taken. -/
structure SamplePlan where
  /-- calls per sample -/
  repeats : Int
  /-- rounds of calls that are made before the first sample -/
  warmup : Int
  /-- samples taken in any case -/
  samples : Int
  /-- the coefficient of variation, in percent, that is good enough -/
  variationTarget : Amount
  /-- no further samples from this count on -/
  maxSamples : Int
  deriving Repr, Inhabited

/-! ## §1 Timing -/

namespace Probe

variable {m : Type → Type} [Monad m]

/-- Calls the function as often as told. -/
@[specialize] def callTimes (p : Probe m) : Nat → ExceptT Fault m Unit
  | 0 => return ()
  | n + 1 => do
      p.call
      p.callTimes n

/-- How long calling the function as often as told takes. -/
@[specialize] def elapsed (p : Probe m) (count : Int) : ExceptT Fault m Int := do
  let start ← ExceptT.lift p.now
  p.callTimes count.toNat
  let stop ← ExceptT.lift p.now
  return stop - start

/-! ## §2 Calibration -/

/-- The calls of the trial that a calibration makes. -/
def trialCalls (minRepeats : Int) : Int := max 16 (minRepeats.fdiv 4)

/-- The count of calls that lasts for the wanted time, by the time that a trial took, kept between the
least and the greatest count. -/
def repeatsFor (trial elapsed : Int) (targetMs : Amount) (minRepeats maxRepeats : Int) : Checked Int := do
  let perCall := (Amount.real (← quotientOfInts elapsed trial)).larger (.real (← realOfInt 10))
  let perCall ← perCall.toReal
  let target ← (targetMs.larger (.real (← realOfInt 1))).toReal
  let target := target.mul (← realOfInt 1000000)
  let wanted ← (Amount.real (target.div perCall)).ceil
  return max minRepeats (min wanted maxRepeats)

/-- The greatest count of calls that a calibration gives unless told otherwise. -/
def defaultMaxRepeats : Int := 5000000

/-- Finds by a trial how often to call the function for a sample to last for the wanted time. -/
@[specialize] def calibrate (p : Probe m) (targetMs : Amount) (minRepeats maxRepeats : Int) :
    ExceptT Fault m Int := do
  let trial := trialCalls minRepeats
  let time ← p.elapsed trial
  liftExcept (repeatsFor trial time targetMs minRepeats maxRepeats)

/-! ## §3 Samples -/

/-- The standard deviation of samples in percent of their mean; zero when there is no deviation. -/
def variation (rows : List Double) : Checked Double := do
  let values := rows.map Amount.real
  let centre ← mean values
  let spread ← deviation values
  if Amount.isBelow (.whole 0) (.real spread) then
    return (spread.div centre).mul (← realOfInt 100)
  else return Double.zero false

/-- Whether samples need no further ones: their mean is not positive, or they vary little enough. -/
def isSettled (variationTarget : Amount) (rows : List Double) : Checked Bool := do
  let centre ← mean (rows.map Amount.real)
  if (Amount.real centre).isAtMost (.whole 0) then return true
  return (Amount.real (← variation rows)).isAtMost variationTarget

/-- Takes a sample: the time per call. -/
@[specialize] def sample (p : Probe m) (repeats : Int) : ExceptT Fault m Double := do
  let time ← p.elapsed repeats
  liftExcept (quotientOfInts time repeats)

/-- Takes as many samples as told. -/
@[specialize] def sampleTimes (p : Probe m) (repeats : Int) : Nat → ExceptT Fault m (List Double)
  | 0 => return []
  | n + 1 => do
      let row ← p.sample repeats
      return row :: (← p.sampleTimes repeats n)

/-- Takes further samples until they are settled, at most as many as told. -/
@[specialize] def sampleMore (p : Probe m) (plan : SamplePlan) :
    Nat → List Double → ExceptT Fault m (List Double)
  | 0, rows => return rows
  | n + 1, rows => do
      if ← liftExcept (isSettled plan.variationTarget rows) then return rows
      else
        let row ← p.sample plan.repeats
        p.sampleMore plan n (rows ++ [row])

/-- Warms up and takes samples. -/
@[specialize] def sampleAll (p : Probe m) (plan : SamplePlan) : ExceptT Fault m (List Double) := do
  p.callTimes (max 0 plan.warmup * plan.repeats).toNat
  let rows ← p.sampleTimes plan.repeats plan.samples.toNat
  p.sampleMore plan (plan.maxSamples - rows.length).toNat rows

end Probe
end MemberAccess.Benchmark
