-- SUMMARY: The vehicle simulation with the ECUs that observe it and the transport they send to.
import TunerOs.Ecu.NetworkMessages
import TunerOs.Simulator.RunInvariant

/-!
# The network simulation

The current state is published after construction and after every executed tick.
-/

namespace TunerOs

/-- `schedule_for`. -/
def scheduleFor (configuration : SimulationRunConfiguration) (schedule : DmePublicationSchedule) :
    DmePublicationSchedule :=
  if configuration.scenario = .wideOpenThrottlePull then
    { schedule with
      combustionObservationEnabled := true }
  else schedule

structure VehicleNetworkSimulation where
  vehicleSimulation : VehicleSimulation
  publisher : VehicleNetworkPublisher
  transport : InMemoryTransport := {}

namespace VehicleNetworkSimulation

def publishCurrentState (simulation : VehicleNetworkSimulation) :
    Except CppException VehicleNetworkSimulation := do
  let (publisher, transport) ← simulation.publisher.observeAndPublish
    simulation.vehicleSimulation.state simulation.transport
  return { simulation with publisher, transport }

/-- The constructor. -/
def create (configuration : SimulationRunConfiguration) (dmeSchedule : DmePublicationSchedule)
    (dscSchedule : DscPublicationSchedule) : Except CppException VehicleNetworkSimulation := do
  let vehicleSimulation ← VehicleSimulation.create configuration
  let publisher ← VehicleNetworkPublisher.create (scheduleFor configuration dmeSchedule) dscSchedule
    vehicleSimulation.configuration.faults
  publishCurrentState { vehicleSimulation, publisher }

def tick (exp : ℚ → ℚ) (simulation : VehicleNetworkSimulation) :
    Except CppException (Bool × VehicleNetworkSimulation) := do
  let (executed, vehicleSimulation) ← simulation.vehicleSimulation.tick exp
  if executed then
    let next ← publishCurrentState { simulation with vehicleSimulation }
    return (true, next)
  else return (false, { simulation with vehicleSimulation })

def reset (simulation : VehicleNetworkSimulation) : Except CppException VehicleNetworkSimulation :=
  publishCurrentState
    { vehicleSimulation := simulation.vehicleSimulation.reset
      publisher := simulation.publisher.reset
      transport := simulation.transport.clear }

/-- Tick a number of times; the states that were published, oldest first. -/
def runTicks (exp : ℚ → ℚ) (simulation : VehicleNetworkSimulation) :
    ℕ → Except CppException (List VehicleState × VehicleNetworkSimulation)
  | 0 => .ok ([simulation.vehicleSimulation.state], simulation)
  | count + 1 => do
    let (states, reached) ← simulation.runTicks exp count
    let (executed, next) ← reached.tick exp
    return (if executed then states ++ [next.vehicleSimulation.state] else states, next)

/-- The simulation with its current state published. -/
def published (simulation : VehicleNetworkSimulation) : VehicleNetworkSimulation :=
  { simulation with
    publisher := simulation.publisher.afterObservation simulation.vehicleSimulation.state
    transport := ⟨simulation.transport.frames ++
      simulation.publisher.collectedFrames simulation.vehicleSimulation.state⟩ }

theorem publishCurrentState_eq (simulation : VehicleNetworkSimulation) :
    simulation.publishCurrentState = .ok simulation.published := by
  rw [publishCurrentState, VehicleNetworkPublisher.observeAndPublish_eq]
  rfl

/-- The first state is published by the constructor. -/
theorem create_spec {configuration : SimulationRunConfiguration}
    {dmeSchedule : DmePublicationSchedule} {dscSchedule : DscPublicationSchedule}
    {simulation : VehicleNetworkSimulation}
    (h : create configuration dmeSchedule dscSchedule = .ok simulation) :
    ∃ vehicleSimulation, VehicleSimulation.create configuration = .ok vehicleSimulation ∧
      simulation = published
        { vehicleSimulation
          publisher := ⟨{ schedule := scheduleFor configuration dmeSchedule },
            { schedule := dscSchedule }, configuration.faults⟩ } := by
  unfold create at h
  cases hvehicle : VehicleSimulation.create configuration with
  | error e =>
    rw [hvehicle] at h
    cases h
  | ok vehicleSimulation =>
    rw [hvehicle] at h
    change (VehicleNetworkPublisher.create _ _ vehicleSimulation.configuration.faults >>= _) = _ at h
    rw [(VehicleSimulation.create_spec hvehicle).2.1] at h
    cases hpublisher : VehicleNetworkPublisher.create (scheduleFor configuration dmeSchedule)
        dscSchedule configuration.faults with
    | error e =>
      rw [hpublisher] at h
      cases h
    | ok publisher =>
      rw [hpublisher] at h
      change publishCurrentState { vehicleSimulation, publisher } = _ at h
      rw [publishCurrentState_eq] at h
      refine ⟨vehicleSimulation, rfl, ?_⟩
      rw [← Except.ok.inj h, VehicleNetworkPublisher.eq_of_create hpublisher]

theorem create_eq {configuration : SimulationRunConfiguration}
    {dmeSchedule : DmePublicationSchedule} {dscSchedule : DscPublicationSchedule}
    {vehicleSimulation : VehicleSimulation} {publisher : VehicleNetworkPublisher}
    (hvehicle : VehicleSimulation.create configuration = .ok vehicleSimulation)
    (hpublisher : VehicleNetworkPublisher.create (scheduleFor configuration dmeSchedule) dscSchedule
      vehicleSimulation.configuration.faults = .ok publisher) :
    create configuration dmeSchedule dscSchedule =
      .ok (published { vehicleSimulation, publisher }) := by
  rw [create, hvehicle]
  change (VehicleNetworkPublisher.create _ _ vehicleSimulation.configuration.faults >>= _) = _
  rw [hpublisher]
  exact publishCurrentState_eq _

section Tick

variable {exp : ℚ → ℚ} {simulation : VehicleNetworkSimulation}

theorem tick_of_inactive (h : simulation.vehicleSimulation.Consistent)
    (hinactive : simulation.vehicleSimulation.state.runState ≠ .running) :
    simulation.tick exp = .ok (false, simulation) := by
  rw [tick, VehicleSimulation.tick_of_inactive h hinactive]
  rfl

/-- An executed tick publishes the state it leads to. -/
theorem tick_of_running (exp : ℚ → ℚ) (h : simulation.vehicleSimulation.Consistent)
    (hrunning : simulation.vehicleSimulation.state.runState = .running) :
    ∃ inputs, scenarioInputsFor simulation.vehicleSimulation.configuration.scenario
        (simulation.vehicleSimulation.clock.timestamp +
          simulation.vehicleSimulation.clock.fixedStep)
        simulation.vehicleSimulation.configuration.environment = .ok inputs ∧
      simulation.tick exp = .ok (true, published
        { simulation with
          vehicleSimulation := simulation.vehicleSimulation.advanced exp inputs }) := by
  obtain ⟨inputs, hinputs, -, htick⟩ := VehicleSimulation.tick_of_running exp h hrunning
  refine ⟨inputs, hinputs, ?_⟩
  rw [tick, htick]
  change (publishCurrentState _ >>= _) = _
  rw [publishCurrentState_eq]
  rfl

end Tick

end VehicleNetworkSimulation

end TunerOs
