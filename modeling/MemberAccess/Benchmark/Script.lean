import MemberAccess.Benchmark.Sampling

/-!
# Scripted clocks

Two clocks that tell a time known beforehand.  A `Script` stands for a measured function together with
its clock: each call takes the next of a list of times, from the start again after the last, and one of the
calls may be told to fail.  A `Ticker` goes on by the same step whenever it is read, whatever happens
between two readings.
-/

namespace MemberAccess.Benchmark

/-! ## §1 Calls that take known times -/

/-- What the calls of a function do to the clock. -/
structure Script where
  /-- how long the calls take, in turn -/
  costs : Array Int
  /-- the call, counted from one, that fails with the message -/
  failsAt : Option Int
  message : String
  deriving Repr, Inhabited

/-- A clock and the count of the calls made so far. -/
structure ScriptState where
  time : Int
  calls : Nat
  deriving DecidableEq, Repr, Inhabited

namespace Script

/-- Before the first call. -/
def start : ScriptState := ⟨0, 0⟩

/-- How long the call of a number, counted from zero, takes. -/
def cost (s : Script) (i : Nat) : Int := s.costs.getD (i % s.costs.size) 0

/-- A call. -/
def call (s : Script) : ExceptT Fault (StateM ScriptState) Unit :=
  ExceptT.mk fun st =>
    if s.failsAt = some (st.calls + 1 : Nat) then (.error (.raised s.message), { st with calls := st.calls + 1 })
    else (.ok (), ⟨st.time + s.cost st.calls, st.calls + 1⟩)

/-- A look at the clock. -/
def now : StateM ScriptState Int := do return (← get).time

/-- The scripted function with its clock. -/
def probe (s : Script) : Probe (StateM ScriptState) := ⟨now, s.call⟩

end Script

/-! ## §2 A clock that goes on when it is read -/

/-- A clock and the step that it makes. -/
structure Ticker where
  time : Int
  step : Int
  deriving DecidableEq, Repr, Inhabited

/-- Reads the clock, which goes on by its step. -/
def Ticker.read : StateM Ticker Int :=
  modifyGet fun t => (t.time + t.step, { t with time := t.time + t.step })

end MemberAccess.Benchmark
