-- SUMMARY: The simulation clock and the vehicle simulation, with every call a client can make.
import TunerOs.Simulator.Evolution

/-!
# The vehicle simulation

A call returns how many ticks it executed. Time is counted in whole steps; the clock
throws before its timestamp would leave the range.
-/

namespace TunerOs

/-! ## The clock -/

structure SimulationClock where
  timestamp : UInt64 := 0
  fixedStep : UInt64
  tickCount : UInt64 := 0
  paused : Bool := false
deriving DecidableEq

namespace SimulationClock

/-- The constructor. -/
def create (fixedStep : UInt64) : Except CppException SimulationClock :=
  if fixedStep = 0 then .error ⟨"simulation fixed step must be positive"⟩ else .ok { fixedStep }

def timestampOverflow : CppException := ⟨"simulation timestamp overflow"⟩

def advanceTicks (clock : SimulationClock) (count : UInt64) : Except CppException SimulationClock :=
  if clock.paused = true ∨ count = 0 then .ok clock
  else if (maximumUInt64 - clock.timestamp) / clock.fixedStep < count then .error timestampOverflow
  else .ok
    { clock with
      timestamp := clock.timestamp + count * clock.fixedStep
      tickCount := clock.tickCount + count }

def advance (clock : SimulationClock) : Except CppException SimulationClock := clock.advanceTicks 1

def pause (clock : SimulationClock) : SimulationClock := { clock with paused := true }

def resume (clock : SimulationClock) : SimulationClock := { clock with paused := false }

def reset (clock : SimulationClock) : SimulationClock := { fixedStep := clock.fixedStep }

end SimulationClock

/-! ## The simulation -/

structure VehicleSimulation where
  configuration : SimulationRunConfiguration
  clock : SimulationClock
  initialState : VehicleState
  state : VehicleState
deriving DecidableEq

namespace VehicleSimulation

/-- The constructor; the clock is constructed before its body runs. -/
def create (configuration : SimulationRunConfiguration) : Except CppException VehicleSimulation := do
  let clock ← SimulationClock.create configuration.fixedStep
  validateConfiguration configuration
  let initialState ← makeInitialState configuration
  require (initialState.IsValid configuration.vehicleProfile) "initial vehicle state is invalid"
  return {
    configuration
    clock
    initialState
    state := initialState }

section Calls

variable (exp : ℚ → ℚ)

/-- The state after a step that ends at this time. -/
def nextState (simulation : VehicleSimulation) (inputs : ScenarioInputs) (timestamp : UInt64) :
    VehicleState :=
  let configuration := simulation.configuration
  let deltaTimeSeconds := (simulation.clock.fixedStep.toNat : ℚ) / kMicrosecondsPerSecond
  let activeFaults := activeFaultsAt configuration.faults timestamp
  { evolveVehicleState exp simulation.state inputs configuration.scenario
      configuration.vehicleProfile (calibrationProfile configuration.calibration) activeFaults
      deltaTimeSeconds with
    timestamp
    runState := if timestamp = configuration.duration then .completed else .running }

/-- `tick`: whether a step was executed. -/
def tick (simulation : VehicleSimulation) : Except CppException (Bool × VehicleSimulation) :=
  if simulation.clock.paused = true ∨ simulation.state.runState = .completed then
    .ok (false, simulation)
  else do
    let clock ← simulation.clock.advance
    let inputs ← scenarioInputsFor simulation.configuration.scenario clock.timestamp
      simulation.configuration.environment
    return (true,
      { simulation with
        clock
        state := simulation.nextState exp inputs clock.timestamp })

/-- The loop of `advance_ticks`, which has this many rounds left. -/
def advanceTicksFrom (advanced : UInt64) :
    ℕ → VehicleSimulation → Except CppException (UInt64 × VehicleSimulation)
  | 0, simulation => .ok (advanced, simulation)
  | remaining + 1, simulation => do
    let (executed, simulation) ← simulation.tick exp
    if executed then advanceTicksFrom (advanced + 1) remaining simulation
    else return (advanced, simulation)

/-- `advance_ticks`: the number of steps that were executed. -/
def advanceTicks (simulation : VehicleSimulation) (count : UInt64) :
    Except CppException (UInt64 × VehicleSimulation) :=
  advanceTicksFrom exp 0 count.toNat simulation

/-- `run_to_completion`. -/
def runToCompletion (simulation : VehicleSimulation) :
    Except CppException (UInt64 × VehicleSimulation) :=
  let ticksRemaining := (simulation.configuration.duration - simulation.state.timestamp) /
    simulation.configuration.fixedStep
  simulation.advanceTicks exp ticksRemaining

def pause (simulation : VehicleSimulation) : VehicleSimulation :=
  if simulation.state.runState = .completed then simulation
  else
    { simulation with
      clock := simulation.clock.pause
      state := { simulation.state with runState := .paused } }

def resume (simulation : VehicleSimulation) : VehicleSimulation :=
  if simulation.state.runState ≠ .paused then simulation
  else
    { simulation with
      clock := simulation.clock.resume
      state := { simulation.state with runState := .running } }

def reset (simulation : VehicleSimulation) : VehicleSimulation :=
  { simulation with
    clock := simulation.clock.reset
    state := simulation.initialState }

end Calls

end VehicleSimulation

/-! ## Sequences of calls -/

/-- A call on a vehicle simulation. -/
inductive SimulationCall where
  | tick
  | advanceTicks (count : UInt64)
  | runToCompletion
  | pause
  | resume
  | reset
deriving DecidableEq

namespace VehicleSimulation

variable (exp : ℚ → ℚ)

/-- The ticks that a call reports, and the simulation after it. -/
def call (simulation : VehicleSimulation) :
    SimulationCall → Except CppException (UInt64 × VehicleSimulation)
  | .tick => do
    let (executed, simulation) ← simulation.tick exp
    return (if executed then 1 else 0, simulation)
  | .advanceTicks count => simulation.advanceTicks exp count
  | .runToCompletion => simulation.runToCompletion exp
  | .pause => .ok (0, simulation.pause)
  | .resume => .ok (0, simulation.resume)
  | .reset => .ok (0, simulation.reset)

/-- A sequence of calls, with the number of ticks since the last reset. -/
def callAll (executed : ℕ) (simulation : VehicleSimulation) :
    List SimulationCall → Except CppException (ℕ × VehicleSimulation)
  | [] => .ok (executed, simulation)
  | call :: rest => do
    let (ticks, simulation) ← simulation.call exp call
    simulation.callAll (if call = .reset then 0 else executed + ticks.toNat) rest

end VehicleSimulation

end TunerOs
