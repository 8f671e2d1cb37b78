-- SUMMARY: After any number of ticks a network simulation has published states one step apart, and the frames of their observations.
import TunerOs.Ecu.GatewayMain
import TunerOs.Lib.Fallible
import Mathlib.Data.List.Chain

/-!
# Runs of the network simulation

A run of ticks publishes states. What a tick keeps is stated for the states published
so far together with the simulation they lead to, and holds after every run.
-/

namespace TunerOs

namespace VehicleNetworkPublisher

/-! ## Observing one state after the other -/

/-- The publisher after it observed these states, oldest first. -/
def afterObservations (publisher : VehicleNetworkPublisher) (states : List VehicleState) :
    VehicleNetworkPublisher :=
  states.foldl afterObservation publisher

/-- The frames collected from these states, oldest first. -/
def observedFrames (publisher : VehicleNetworkPublisher) : List VehicleState → List CanFrame
  | [] => []
  | state :: rest =>
    publisher.collectedFrames state ++ (publisher.afterObservation state).observedFrames rest

section Observations

variable (publisher : VehicleNetworkPublisher) (states : List VehicleState) (state : VehicleState)

theorem afterObservations_snoc :
    publisher.afterObservations (states ++ [state]) =
      (publisher.afterObservations states).afterObservation state :=
  List.foldl_concat ..

theorem observedFrames_snoc :
    publisher.observedFrames (states ++ [state]) = publisher.observedFrames states ++
      (publisher.afterObservations states).collectedFrames state := by
  induction states generalizing publisher with
  | nil => exact List.append_nil _
  | cons first rest ih =>
    rw [List.cons_append, observedFrames, ih, ← List.append_assoc]
    rfl

theorem afterObservations_messages :
    (publisher.afterObservations states).messages = publisher.messages := by
  induction states generalizing publisher with
  | nil => rfl
  | cons first rest ih => exact (ih (publisher.afterObservation first)).trans rfl

theorem afterObservations_faults :
    (publisher.afterObservations states).faults = publisher.faults := by
  induction states generalizing publisher with
  | nil => rfl
  | cons first rest ih => exact (ih (publisher.afterObservation first)).trans rfl

end Observations

theorem isValid_of_mem_observedFrames {publisher : VehicleNetworkPublisher}
    {states : List VehicleState} {frame : CanFrame} (h : frame ∈ publisher.observedFrames states) :
    frame.isValid := by
  induction states generalizing publisher with
  | nil => exact absurd h List.not_mem_nil
  | cons state rest ih =>
    obtain hfirst | hrest := List.mem_append.1 h
    · exact isValid_of_mem_collectedFrames hfirst
    · exact ih hrest

end VehicleNetworkPublisher

/-! ## Runs of ticks -/

namespace VehicleNetworkSimulation

section Ticks

variable {exp : ℚ → ℚ} {simulation : VehicleNetworkSimulation}

theorem tick_of_runTicks {count : ℕ} {states : List VehicleState}
    {reached next : VehicleNetworkSimulation} {executed : Bool}
    (hrun : simulation.runTicks exp count = .ok (states, reached))
    (htick : reached.tick exp = .ok (executed, next)) :
    simulation.runTicks exp (count + 1) =
      .ok (if executed then states ++ [next.vehicleSimulation.state] else states, next) := by
  rw [runTicks, hrun]
  change (reached.tick exp >>= _) = _
  rw [htick]
  rfl

/-- What holds at the start and is kept by every executed tick holds after every run. -/
theorem runTicks_induction (Holds : List VehicleState → VehicleNetworkSimulation → Prop)
    (hconsistent : simulation.vehicleSimulation.Consistent)
    (hstart : Holds [simulation.vehicleSimulation.state] simulation)
    (hstep : ∀ states (reached : VehicleNetworkSimulation) inputs,
      reached.vehicleSimulation.Consistent →
      reached.vehicleSimulation.state.runState = .running →
      scenarioInputsFor reached.vehicleSimulation.configuration.scenario
        (reached.vehicleSimulation.clock.timestamp + reached.vehicleSimulation.clock.fixedStep)
        reached.vehicleSimulation.configuration.environment = .ok inputs →
      Holds states reached →
      Holds (states ++ [(reached.vehicleSimulation.advanced exp inputs).state])
        (published { reached with
          vehicleSimulation := reached.vehicleSimulation.advanced exp inputs }))
    (count : ℕ) :
    ∃ states reached, simulation.runTicks exp count = .ok (states, reached) ∧
      reached.vehicleSimulation.Consistent ∧ Holds states reached := by
  induction count with
  | zero => exact ⟨_, simulation, rfl, hconsistent, hstart⟩
  | succ count ih =>
    obtain ⟨states, reached, hrun, hreached, hholds⟩ := ih
    by_cases hrunning : reached.vehicleSimulation.state.runState = .running
    · obtain ⟨inputs, hinputs, htick⟩ := tick_of_running exp hreached hrunning
      exact ⟨_, _, tick_of_runTicks hrun htick,
        (VehicleSimulation.consistent_advanced exp hreached hrunning inputs).1,
        hstep states reached inputs hreached hrunning hinputs hholds⟩
    · exact ⟨states, reached, tick_of_runTicks hrun (tick_of_inactive hreached hrunning), hreached,
        hholds⟩

/-- While the run has room for them, ticks lead as many steps ahead. -/
theorem runTicks_ahead (exp : ℚ → ℚ) (hconsistent : simulation.vehicleSimulation.Consistent)
    (hpaused : simulation.vehicleSimulation.clock.paused = false) {count : ℕ}
    (hroom : simulation.vehicleSimulation.clock.timestamp.toNat +
      count * simulation.vehicleSimulation.configuration.fixedStep.toNat ≤
        simulation.vehicleSimulation.configuration.duration.toNat) :
    ∃ states reached, simulation.runTicks exp count = .ok (states, reached) ∧
      reached.vehicleSimulation.Consistent ∧
      reached.vehicleSimulation.clock.paused = false ∧
      reached.vehicleSimulation.configuration = simulation.vehicleSimulation.configuration ∧
      reached.vehicleSimulation.clock.timestamp.toNat =
        simulation.vehicleSimulation.clock.timestamp.toNat +
          count * simulation.vehicleSimulation.configuration.fixedStep.toNat := by
  induction count with
  | zero => exact ⟨_, simulation, rfl, hconsistent, hpaused, rfl, by rw [Nat.zero_mul, Nat.add_zero]⟩
  | succ count ih =>
    rw [Nat.succ_mul] at hroom ⊢
    obtain ⟨states, reached, hrun, hreached, hgoing, hsame, htime⟩ := ih (by omega)
    have hstep := VehicleSimulation.fixedStep_pos hconsistent
    have hrunning : reached.vehicleSimulation.state.runState = .running := by
      cases hstate : reached.vehicleSimulation.state.runState with
      | running => rfl
      | stopped => exact absurd hstate hreached.started
      | paused =>
        rw [hreached.paused.2 hstate] at hgoing
        cases hgoing
      | completed =>
        have hend := congrArg UInt64.toNat (hreached.completed.1 hstate)
        rw [hsame] at hend
        omega
    obtain ⟨inputs, -, htick⟩ := tick_of_running exp hreached hrunning
    have hlater := (VehicleSimulation.toNat_add_fixedStep hreached hrunning).1
    refine ⟨_, _, tick_of_runTicks hrun htick,
      (VehicleSimulation.consistent_advanced exp hreached hrunning inputs).1, hgoing, hsame, ?_⟩
    change (reached.vehicleSimulation.clock.timestamp +
      reached.vehicleSimulation.clock.fixedStep).toNat = _
    rw [hlater, htime, hsame, Nat.add_assoc]

theorem callAll_append (exp : ℚ → ℚ) (simulation : VehicleNetworkSimulation)
    (before after : List NetworkCall) :
    simulation.callAll exp (before ++ after) = (do
      let reached ← simulation.callAll exp before
      reached.callAll exp after) := by
  induction before generalizing simulation with
  | nil => rfl
  | cons call rest ih =>
    rw [List.cons_append, callAll, callAll]
    cases simulation.call exp call with
    | error error => rfl
    | ok next => exact ih next

/-- A run of ticks ends where as many calls of `tick` do. -/
theorem callAll_of_runTicks {count : ℕ} {states : List VehicleState}
    {reached : VehicleNetworkSimulation}
    (h : simulation.runTicks exp count = .ok (states, reached)) :
    simulation.callAll exp (List.replicate count .tick) = .ok reached := by
  induction count generalizing states reached with
  | zero =>
    cases h
    rfl
  | succ count ih =>
    rw [runTicks] at h
    obtain ⟨⟨before, between⟩, hbefore, hrest⟩ := Fallible.bind_eq_ok.1 h
    obtain ⟨⟨executed, next⟩, htick, hlast⟩ := Fallible.bind_eq_ok.1 hrest
    cases hlast
    rw [List.replicate_succ', callAll_append, ih hbefore]
    change (between.call exp .tick >>= _) = _
    rw [call, htick]
    rfl

/-- The inputs of a tick are well-formed. -/
theorem wellFormed_of_inputs {vehicle : VehicleSimulation} {inputs : ScenarioInputs}
    (hconsistent : vehicle.Consistent) {timestamp : UInt64}
    (hinputs : scenarioInputsFor vehicle.configuration.scenario timestamp
      vehicle.configuration.environment = .ok inputs) :
    inputs.WellFormed vehicle.configuration.environment := by
  obtain ⟨found, hfound, hwell⟩ := scenarioInputsFor_returns hconsistent.accepted.scenario timestamp
    vehicle.configuration.environment
  cases hinputs.symm.trans hfound
  exact hwell

theorem vehicleSimulation_of_create {configuration : SimulationRunConfiguration}
    (hcreate : create configuration {} {} = .ok simulation) :
    VehicleSimulation.create configuration = .ok simulation.vehicleSimulation := by
  obtain ⟨vehicleSimulation, hvehicle, rfl⟩ := create_spec hcreate
  exact hvehicle

/-- What holds of every initial state and is kept by every executed tick holds of every state that a
run publishes. -/
theorem runTicks_forall (Holds : VehicleState → Prop) {configuration : SimulationRunConfiguration}
    (hcreate : create configuration {} {} = .ok simulation)
    (hstart : ∀ state, configuration.IsAccepted → makeInitialState configuration = .ok state →
      Holds state)
    (hstep : ∀ (vehicle : VehicleSimulation) inputs, vehicle.configuration = configuration →
      vehicle.Consistent → vehicle.state.runState = .running →
      scenarioInputsFor vehicle.configuration.scenario
        (vehicle.clock.timestamp + vehicle.clock.fixedStep) vehicle.configuration.environment =
          .ok inputs →
      Holds vehicle.state → Holds (vehicle.advanced exp inputs).state)
    {count : ℕ} {states : List VehicleState} {network : VehicleNetworkSimulation}
    (hrun : simulation.runTicks exp count = .ok (states, network)) :
    ∀ state ∈ states, Holds state := by
  obtain ⟨hconsistent, hconfiguration, hstate, -, -⟩ :=
    VehicleSimulation.create_spec (vehicleSimulation_of_create hcreate)
  have hinitial : Holds simulation.vehicleSimulation.state := by
    rw [hstate]
    exact hstart _ (hconfiguration ▸ hconsistent.accepted)
      (hconfiguration ▸ hconsistent.initialState)
  obtain ⟨states', reached, hrun', -, -, -, hall⟩ := runTicks_induction
    (fun states reached => reached.vehicleSimulation.configuration = configuration ∧
      Holds reached.vehicleSimulation.state ∧ ∀ state ∈ states, Holds state) hconsistent
    ⟨hconfiguration, hinitial, fun state hmem => List.mem_singleton.1 hmem ▸ hinitial⟩
    (fun states reached inputs hreached hrunning hinputs hholds => by
      obtain ⟨hsame, hlast, hall⟩ := hholds
      have hnext := hstep _ inputs hsame hreached hrunning hinputs hlast
      refine ⟨hsame, hnext, fun state hmem => ?_⟩
      obtain hold | hnew := List.mem_append.1 hmem
      · exact hall state hold
      · exact List.mem_singleton.1 hnew ▸ hnext) count
  cases hrun.symm.trans hrun'
  exact hall

end Ticks

/-- These states were published, oldest first, from a publisher that had observed nothing. -/
structure Published (start : VehicleNetworkPublisher) (states : List VehicleState)
    (simulation : VehicleNetworkSimulation) : Prop where
  first : ∃ initial, states.head? = some initial ∧ initial.timestamp = 0
  last : states.getLast? = some simulation.vehicleSimulation.state
  steps : states.IsChain (fun earlier later => later.timestamp.toNat =
    earlier.timestamp.toNat + simulation.vehicleSimulation.configuration.fixedStep.toNat)
  publisher : simulation.publisher = start.afterObservations states
  frames : simulation.transport.frames = start.observedFrames states

section Published

variable {exp : ℚ → ℚ} {start : VehicleNetworkPublisher} {states : List VehicleState}
  {simulation : VehicleNetworkSimulation}

/-- An executed tick publishes one more state. -/
theorem Published.advanced (h : simulation.Published start states)
    (hconsistent : simulation.vehicleSimulation.Consistent)
    (hrunning : simulation.vehicleSimulation.state.runState = .running) (inputs : ScenarioInputs) :
    Published start (states ++ [(simulation.vehicleSimulation.advanced exp inputs).state])
      (published { simulation with
        vehicleSimulation := simulation.vehicleSimulation.advanced exp inputs }) := by
  obtain ⟨initial, hinitial, hzero⟩ := h.first
  refine ⟨⟨initial, ?_, hzero⟩, List.getLast?_concat .., ?_, ?_, ?_⟩
  · rw [List.head?_append, hinitial]
    rfl
  · refine List.isChain_append.2 ⟨h.steps, List.isChain_singleton _, ?_⟩
    intro earlier hearlier later hlater
    rw [h.last] at hearlier
    cases hearlier
    cases hlater
    rw [hconsistent.timestamp]
    exact (VehicleSimulation.toNat_add_fixedStep hconsistent hrunning).1
  · rw [VehicleNetworkPublisher.afterObservations_snoc, ← h.publisher]
    rfl
  · rw [VehicleNetworkPublisher.observedFrames_snoc, ← h.publisher, ← h.frames]
    rfl

theorem Published.timestamps (h : simulation.Published start states)
    (hstep : 0 < simulation.vehicleSimulation.configuration.fixedStep.toNat) :
    states.Pairwise (fun earlier later => earlier.timestamp < later.timestamp) := by
  have hchain : states.IsChain (fun earlier later => earlier.timestamp < later.timestamp) :=
    h.steps.imp fun earlier later heq => UInt64.lt_iff_toNat_lt.2 (by omega)
  exact List.isChain_iff_pairwise.1 hchain

/-- Published states are at least one step apart. -/
theorem Published.spaced (h : simulation.Published start states) :
    states.Pairwise (fun earlier later => earlier.timestamp.toNat +
      simulation.vehicleSimulation.configuration.fixedStep.toNat ≤ later.timestamp.toNat) := by
  have : IsTrans VehicleState (fun earlier later => earlier.timestamp.toNat +
      simulation.vehicleSimulation.configuration.fixedStep.toNat ≤ later.timestamp.toNat) :=
    ⟨fun first second third hfirst hsecond => by omega⟩
  exact List.isChain_iff_pairwise.1 (h.steps.imp fun earlier later heq => heq.ge)

theorem Published.head_timestamp (h : simulation.Published start states) {state : VehicleState}
    (hbegins : [state] <+: states) : state.timestamp.toNat = 0 := by
  obtain ⟨initial, hinitial, hzero⟩ := h.first
  obtain ⟨rest, rfl⟩ := hbegins
  cases hinitial
  rw [hzero]
  rfl

/-- A published state is one step after the state before it. -/
theorem Published.step (h : simulation.Published start states) {before : List VehicleState}
    {state previous : VehicleState} (hbegins : before ++ [state] <+: states)
    (hprevious : previous ∈ before.getLast?) :
    state.timestamp.toNat = previous.timestamp.toNat +
      simulation.vehicleSimulation.configuration.fixedStep.toNat := by
  obtain ⟨rest, rfl⟩ := hbegins
  have hchain := (List.isChain_append.1 (List.isChain_append.1 h.steps).1).2.2
  exact hchain previous hprevious state rfl

/-- No state is published after the duration of the run. -/
theorem Published.le_duration (h : simulation.Published start states)
    (hconsistent : simulation.vehicleSimulation.Consistent) {state : VehicleState}
    (hmem : state ∈ states) :
    state.timestamp.toNat ≤ simulation.vehicleSimulation.configuration.duration.toNat := by
  have htimes := h.timestamps (VehicleSimulation.fixedStep_pos hconsistent)
  have hlast : simulation.vehicleSimulation.state.timestamp.toNat ≤
      simulation.vehicleSimulation.configuration.duration.toNat := by
    rw [hconsistent.timestamp]
    exact hconsistent.le_duration
  obtain ⟨before, hsplit⟩ := List.getLast?_eq_some_iff.1 h.last
  rw [hsplit] at hmem htimes
  obtain hearlier | hfinal := List.mem_append.1 hmem
  · have hlt := (List.pairwise_append.1 htimes).2.2 state hearlier _ List.mem_cons_self
    exact (UInt64.lt_iff_toNat_lt.1 hlt).le.trans hlast
  · rw [List.mem_singleton.1 hfinal]
    exact hlast

/-- What is left above the duration is left above every state's time. -/
theorem Published.add_le (h : simulation.Published start states)
    (hconsistent : simulation.vehicleSimulation.Consistent) {room bound : ℕ}
    (hrange : simulation.vehicleSimulation.configuration.duration.toNat + room ≤ bound) :
    ∀ state ∈ states, state.timestamp.toNat + room ≤ bound :=
  fun _ hmem => (Nat.add_le_add_right (h.le_duration hconsistent hmem) room).trans hrange

end Published

/-- The publisher of a network simulation with default schedules. -/
def defaultPublisher (configuration : SimulationRunConfiguration) : VehicleNetworkPublisher :=
  ⟨{ schedule := scheduleFor configuration {} }, { schedule := {} }, configuration.faults⟩

/-- What was published after any number of ticks, and what is kept of the vehicle. -/
theorem runTicks_published (exp : ℚ → ℚ) {configuration : SimulationRunConfiguration}
    {fresh : VehicleNetworkSimulation} (hcreate : create configuration {} {} = .ok fresh)
    (count : ℕ) :
    ∃ states reached, fresh.runTicks exp count = .ok (states, reached) ∧
      reached.vehicleSimulation.Consistent ∧
      reached.vehicleSimulation.configuration = configuration ∧
      reached.Published (defaultPublisher configuration) states := by
  obtain ⟨vehicleSimulation, hvehicle, rfl⟩ := create_spec hcreate
  obtain ⟨hconsistent, hconfiguration, -, hclock, -⟩ := VehicleSimulation.create_spec hvehicle
  have hzero : vehicleSimulation.state.timestamp = 0 := by
    rw [hconsistent.timestamp, hclock]
  refine runTicks_induction (fun states reached =>
    reached.vehicleSimulation.configuration = configuration ∧
      reached.Published (defaultPublisher configuration) states) hconsistent
    ⟨hconfiguration, ⟨_, rfl, hzero⟩, rfl, List.isChain_singleton _, rfl, ?_⟩ ?_ count
  · exact (List.append_nil _).symm
  · rintro states reached inputs hreached hrunning - ⟨hsame, hpublished⟩
    exact ⟨hsame, hpublished.advanced hreached hrunning inputs⟩

end VehicleNetworkSimulation

end TunerOs
