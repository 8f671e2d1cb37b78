-- SUMMARY: Over any sequence of calls the clock and the state agree, no tick overflows, and the state depends on the tick count only.
import TunerOs.Simulator.Simulation
import Mathlib.Algebra.Order.Ring.Nat
import Mathlib.Tactic.Ring

/-!
# Runs of the simulation

`Consistent` ties the clock to the state. Two consistent simulations at the same tick
differ in their run state only, so a run with any calls in it follows the run of ticks
alone.
-/

namespace TunerOs

/-! ## Where a run should stand -/

/-- The ticks that a run has made since its last reset, and whether it is paused. -/
structure RunPosition where
  ticks : ℕ := 0
  paused : Bool := false
deriving DecidableEq

namespace RunPosition

/-- A request for more ticks: a paused run makes none, and no run makes more than `total`. -/
def moved (total : ℕ) (position : RunPosition) (count : ℕ) : RunPosition :=
  if position.paused = true then position
  else { position with ticks := min total (position.ticks + count) }

/-- The position after a call on a run of `total` ticks. -/
def after (total : ℕ) (position : RunPosition) : SimulationCall → RunPosition
  | .tick => position.moved total 1
  | .advanceTicks count => position.moved total count.toNat
  | .runToCompletion => position.moved total (total - position.ticks)
  | .pause => if position.ticks = total then position else { position with paused := true }
  | .resume => { position with paused := false }
  | .reset => {}

variable {total : ℕ} {position : RunPosition}

/-- A paused or completed run does not move. -/
theorem moved_idle (h : position.paused = true ∨ position.ticks = total) (count : ℕ) :
    position.moved total count = position := by
  unfold moved
  split
  · rfl
  · rename_i hunpaused
    obtain rfl := h.resolve_left hunpaused
    rw [min_eq_left (Nat.le_add_right _ _)]

/-- A run that is not paused makes the first of the ticks and then the others. -/
theorem moved_succ (hunpaused : position.paused = false) (count : ℕ) :
    position.moved total (count + 1) =
      moved total { position with ticks := position.ticks + 1 } count := by
  rw [moved, moved, hunpaused, if_neg Bool.false_ne_true, if_neg Bool.false_ne_true, Nat.add_assoc,
    Nat.add_comm 1]

end RunPosition

namespace VehicleSimulation

/-! ## What every sequence of calls keeps -/

/-- The clock and the state of a simulation fit together and to the configuration. -/
structure Consistent (simulation : VehicleSimulation) : Prop where
  accepted : simulation.configuration.IsAccepted
  initialState : makeInitialState simulation.configuration = .ok simulation.initialState
  fixedStep : simulation.clock.fixedStep = simulation.configuration.fixedStep
  ticks : simulation.clock.timestamp.toNat =
    simulation.clock.tickCount.toNat * simulation.configuration.fixedStep.toNat
  timestamp : simulation.state.timestamp = simulation.clock.timestamp
  le_duration : simulation.clock.timestamp.toNat ≤ simulation.configuration.duration.toNat
  completed : simulation.state.runState = .completed ↔
    simulation.clock.timestamp = simulation.configuration.duration
  paused : simulation.clock.paused = true ↔ simulation.state.runState = .paused
  started : simulation.state.runState ≠ .stopped

theorem fixedStep_pos {simulation : VehicleSimulation} (h : simulation.Consistent) :
    0 < simulation.configuration.fixedStep.toNat :=
  Nat.pos_of_ne_zero fun hzero => h.accepted.fixedStep (UInt64.toNat_inj.1 hzero)

/-- Before completion there is room for another step. -/
theorem add_fixedStep_le_duration {simulation : VehicleSimulation} (h : simulation.Consistent)
    (hrunning : simulation.clock.timestamp ≠ simulation.configuration.duration) :
    simulation.clock.timestamp.toNat + simulation.configuration.fixedStep.toNat ≤
      simulation.configuration.duration.toNat := by
  have hlt : simulation.clock.timestamp.toNat < simulation.configuration.duration.toNat :=
    lt_of_le_of_ne h.le_duration fun heq => hrunning (UInt64.toNat_inj.1 heq)
  have hmod : simulation.configuration.duration.toNat %
      simulation.configuration.fixedStep.toNat = 0 := by
    rw [← UInt64.toNat_mod, h.accepted.wholeSteps]
    rfl
  obtain ⟨steps, hsteps⟩ := Nat.dvd_of_mod_eq_zero hmod
  rw [h.ticks, hsteps, Nat.mul_comm _ steps] at hlt
  have hmore := Nat.lt_of_mul_lt_mul_right hlt
  calc simulation.clock.timestamp.toNat + simulation.configuration.fixedStep.toNat
      = (simulation.clock.tickCount.toNat + 1) * simulation.configuration.fixedStep.toNat := by
        rw [h.ticks, Nat.succ_mul]
    _ ≤ steps * simulation.configuration.fixedStep.toNat := Nat.mul_le_mul_right _ hmore
    _ = simulation.configuration.duration.toNat := by rw [hsteps, Nat.mul_comm]

/-- The simulation after an executed step. -/
def advanced (exp : ℚ → ℚ) (simulation : VehicleSimulation) (inputs : ScenarioInputs) :
    VehicleSimulation :=
  let clock :=
    { simulation.clock with
      timestamp := simulation.clock.timestamp + simulation.clock.fixedStep
      tickCount := simulation.clock.tickCount + 1 }
  { simulation with
    clock
    state := simulation.nextState exp inputs clock.timestamp }

section Tick

variable {exp : ℚ → ℚ} {simulation : VehicleSimulation}

theorem tick_of_inactive (h : simulation.Consistent)
    (hinactive : simulation.state.runState ≠ .running) :
    simulation.tick exp = .ok (false, simulation) := by
  refine if_pos ?_
  cases hstate : simulation.state.runState with
  | stopped => exact absurd hstate h.started
  | running => exact absurd hstate hinactive
  | paused => exact .inl (h.paused.2 hstate)
  | completed => exact .inr rfl

theorem clock_advance (h : simulation.Consistent)
    (hrunning : simulation.state.runState = .running) :
    simulation.clock.advance = .ok
      { simulation.clock with
        timestamp := simulation.clock.timestamp + simulation.clock.fixedStep
        tickCount := simulation.clock.tickCount + 1 } := by
  have hnot : simulation.clock.timestamp ≠ simulation.configuration.duration := fun heq =>
    absurd (h.completed.2 heq) (by rw [hrunning]; decide)
  have hroom := add_fixedStep_le_duration h hnot
  have hmax := simulation.configuration.duration.toNat_lt
  have hpaused : ¬ (simulation.clock.paused = true ∨ (1 : UInt64) = 0) := by
    rintro (hpaused | hzero)
    · exact absurd (h.paused.1 hpaused) (by rw [hrunning]; decide)
    · exact absurd hzero (by decide)
  -- The overflow guard cannot fire: the run ends at or below a timestamp of sixty-four bits.
  have hfits : ¬ (maximumUInt64 - simulation.clock.timestamp) / simulation.clock.fixedStep < 1 := by
    have hdiff : (maximumUInt64 - simulation.clock.timestamp).toNat =
        maximumUInt64.toNat - simulation.clock.timestamp.toNat :=
      UInt64.toNat_sub_of_le _ _ (UInt64.le_iff_toNat_le.2 (by
        have htop : maximumUInt64.toNat = 2 ^ 64 - 1 := rfl
        omega))
    have htop : maximumUInt64.toNat = 2 ^ 64 - 1 := rfl
    rw [UInt64.lt_iff_toNat_lt, UInt64.toNat_div, hdiff, h.fixedStep, not_lt]
    change 1 ≤ _
    rw [Nat.le_div_iff_mul_le (fixedStep_pos h)]
    omega
  rw [SimulationClock.advance, SimulationClock.advanceTicks, if_neg hpaused, if_neg hfits,
    UInt64.one_mul]

/-- The end of the next step, which is not after the end of the run. -/
theorem toNat_add_fixedStep (h : simulation.Consistent)
    (hrunning : simulation.state.runState = .running) :
    (simulation.clock.timestamp + simulation.clock.fixedStep).toNat =
        simulation.clock.timestamp.toNat + simulation.configuration.fixedStep.toNat ∧
      simulation.clock.timestamp.toNat + simulation.configuration.fixedStep.toNat ≤
        simulation.configuration.duration.toNat := by
  have hnot : simulation.clock.timestamp ≠ simulation.configuration.duration := fun heq =>
    absurd (h.completed.2 heq) (by rw [hrunning]; decide)
  have hroom := add_fixedStep_le_duration h hnot
  have hmax := simulation.configuration.duration.toNat_lt
  refine ⟨?_, hroom⟩
  rw [UInt64.toNat_add, h.fixedStep]
  exact Nat.mod_eq_of_lt (by omega)

theorem timestamp_le_add_fixedStep (h : simulation.Consistent)
    (hrunning : simulation.state.runState = .running) :
    simulation.clock.timestamp ≤ simulation.clock.timestamp + simulation.clock.fixedStep := by
  rw [UInt64.le_iff_toNat_le, (toNat_add_fixedStep h hrunning).1]
  omega

theorem consistent_advanced (exp : ℚ → ℚ) (h : simulation.Consistent)
    (hrunning : simulation.state.runState = .running) (inputs : ScenarioInputs) :
    (advanced exp simulation inputs).Consistent ∧
      (advanced exp simulation inputs).clock.tickCount.toNat =
        simulation.clock.tickCount.toNat + 1 := by
  obtain ⟨htime, hroom⟩ := toNat_add_fixedStep h hrunning
  have hmax := simulation.configuration.duration.toNat_lt
  -- A step is at least a microsecond, so the tick count cannot wrap before the timestamp does.
  have hle : simulation.clock.tickCount.toNat ≤ simulation.clock.timestamp.toNat := by
    rw [h.ticks]
    exact Nat.le_mul_of_pos_right _ (fixedStep_pos h)
  have hpos := fixedStep_pos h
  have hcount : (simulation.clock.tickCount + 1).toNat = simulation.clock.tickCount.toNat + 1 := by
    rw [UInt64.toNat_add]
    exact Nat.mod_eq_of_lt (by change _ + 1 < _; omega)
  have hunpaused : simulation.clock.paused = false := by
    rw [Bool.eq_false_iff]
    exact fun hpaused => absurd (h.paused.1 hpaused) (by rw [hrunning]; decide)
  refine ⟨⟨h.accepted, h.initialState, h.fixedStep, ?_, rfl, ?_, ?_, ?_, ?_⟩, hcount⟩
  · change (simulation.clock.timestamp + simulation.clock.fixedStep).toNat =
      (simulation.clock.tickCount + 1).toNat * simulation.configuration.fixedStep.toNat
    rw [htime, hcount, h.ticks, Nat.succ_mul]
  · change (simulation.clock.timestamp + simulation.clock.fixedStep).toNat ≤ _
    exact htime.trans_le hroom
  · change (if simulation.clock.timestamp + simulation.clock.fixedStep =
        simulation.configuration.duration then SimulationRunState.completed else .running) =
        .completed ↔
      simulation.clock.timestamp + simulation.clock.fixedStep = simulation.configuration.duration
    split
    · next heq => exact ⟨fun _ => heq, fun _ => rfl⟩
    · next hne => exact ⟨nofun, fun heq => absurd heq hne⟩
  · change simulation.clock.paused = true ↔ (if _ then SimulationRunState.completed else .running) =
      .paused
    rw [hunpaused]
    split <;> decide
  · change (if _ then SimulationRunState.completed else .running) ≠ SimulationRunState.stopped
    split <;> decide

/-- A running simulation executes a step. -/
theorem tick_of_running (exp : ℚ → ℚ) (h : simulation.Consistent)
    (hrunning : simulation.state.runState = .running) :
    ∃ inputs, scenarioInputsFor simulation.configuration.scenario
        (simulation.clock.timestamp + simulation.clock.fixedStep)
        simulation.configuration.environment = .ok inputs ∧
      inputs.WellFormed simulation.configuration.environment ∧
      simulation.tick exp = .ok (true, advanced exp simulation inputs) := by
  obtain ⟨inputs, hinputs, hwell⟩ := scenarioInputsFor_returns h.accepted.scenario
    (simulation.clock.timestamp + simulation.clock.fixedStep) simulation.configuration.environment
  refine ⟨inputs, hinputs, hwell, ?_⟩
  have hactive : ¬ (simulation.clock.paused = true ∨ simulation.state.runState = .completed) := by
    rintro (hpaused | hcompleted)
    · exact absurd (h.paused.1 hpaused) (by rw [hrunning]; decide)
    · exact absurd hcompleted (by rw [hrunning]; decide)
  rw [tick, if_neg hactive, clock_advance h hrunning]
  change (scenarioInputsFor _ (simulation.clock.timestamp + simulation.clock.fixedStep) _ >>= _) = _
  rw [hinputs]
  rfl

end Tick

theorem consistent_pause {simulation : VehicleSimulation} (h : simulation.Consistent) :
    simulation.pause.Consistent := by
  unfold pause
  split
  · exact h
  · next hnot =>
    refine ⟨h.accepted, h.initialState, h.fixedStep, h.ticks, h.timestamp, h.le_duration, ?_, ?_,
      nofun⟩
    · exact ⟨nofun, fun heq => absurd (h.completed.2 heq) hnot⟩
    · exact ⟨fun _ => rfl, fun _ => rfl⟩

theorem consistent_resume {simulation : VehicleSimulation} (h : simulation.Consistent) :
    simulation.resume.Consistent := by
  unfold resume
  split
  · exact h
  · next hpaused =>
    have hstate := not_not.1 hpaused
    refine ⟨h.accepted, h.initialState, h.fixedStep, h.ticks, h.timestamp, h.le_duration, ?_, ?_,
      nofun⟩
    · exact ⟨nofun, fun heq => absurd (h.completed.2 heq) (by rw [hstate]; decide)⟩
    · exact ⟨nofun, nofun⟩

theorem initialState_start {configuration : SimulationRunConfiguration} {state : VehicleState}
    (h : makeInitialState configuration = .ok state) :
    state.timestamp = 0 ∧ state.runState = .running ∧
      state.engineRunning = configuration.initialConditions.engineRunning ∧
      state.vehicleSpeedMetersPerSecond =
        configuration.initialConditions.vehicleSpeedMetersPerSecond := by
  unfold makeInitialState at h
  cases hinputs : scenarioInputsFor configuration.scenario 0 configuration.environment with
  | error e =>
    rw [hinputs] at h
    cases h
  | ok inputs =>
    rw [hinputs] at h
    cases h
    exact ⟨rfl, rfl, rfl, rfl⟩

/-- A simulation at the start of a run. -/
theorem consistent_start {configuration : SimulationRunConfiguration} {initialState : VehicleState}
    (haccepted : configuration.IsAccepted)
    (hinitial : makeInitialState configuration = .ok initialState) :
    (⟨configuration, { fixedStep := configuration.fixedStep }, initialState, initialState⟩ :
      VehicleSimulation).Consistent := by
  obtain ⟨htimestamp, hrunning, -, -⟩ := initialState_start hinitial
  refine ⟨haccepted, hinitial, rfl, (Nat.zero_mul _).symm, htimestamp, Nat.zero_le _, ?_, ?_, ?_⟩
  · change initialState.runState = .completed ↔ 0 = configuration.duration
    rw [hrunning]
    exact ⟨nofun, fun heq => absurd heq.symm haccepted.duration⟩
  · change false = true ↔ initialState.runState = .paused
    rw [hrunning]
    decide
  · change initialState.runState ≠ .stopped
    rw [hrunning]
    decide

theorem consistent_reset {simulation : VehicleSimulation} (h : simulation.Consistent) :
    simulation.reset.Consistent := by
  have hstart := consistent_start h.accepted h.initialState
  rw [← h.fixedStep] at hstart
  exact hstart

/-- A simulation as constructed. -/
theorem create_spec {configuration : SimulationRunConfiguration} {simulation : VehicleSimulation}
    (h : create configuration = .ok simulation) :
    simulation.Consistent ∧ simulation.configuration = configuration ∧
      simulation.state = simulation.initialState ∧
      simulation.clock = { fixedStep := configuration.fixedStep } ∧
      simulation.initialState.IsValid configuration.vehicleProfile := by
  unfold create at h
  cases hclock : SimulationClock.create configuration.fixedStep with
  | error e =>
    rw [hclock] at h
    cases h
  | ok clock =>
    rw [hclock] at h
    cases hvalid : validateConfiguration configuration with
    | error e =>
      rw [hvalid] at h
      cases h
    | ok unit' =>
      have haccepted := validateConfiguration_eq_ok.1 hvalid
      rw [hvalid] at h
      cases hinitial : makeInitialState configuration with
      | error e =>
        rw [hinitial] at h
        cases h
      | ok initialState =>
        rw [hinitial] at h
        obtain ⟨hstate, hok⟩ := require_bind.1 h
        cases hok
        have hfresh : clock = { fixedStep := configuration.fixedStep } := by
          rw [SimulationClock.create, if_neg haccepted.fixedStep] at hclock
          exact (Except.ok.inj hclock).symm
        subst hfresh
        exact ⟨consistent_start haccepted hinitial, rfl, rfl, rfl, hstate⟩

/-! ## The run of ticks alone -/

/-- The simulations are at the same tick of the same run, up to being paused. -/
structure SameTick (left right : VehicleSimulation) : Prop where
  configuration : left.configuration = right.configuration
  initialState : left.initialState = right.initialState
  fixedStep : left.clock.fixedStep = right.clock.fixedStep
  timestamp : left.clock.timestamp = right.clock.timestamp
  tickCount : left.clock.tickCount = right.clock.tickCount
  state : left.state = { right.state with runState := left.state.runState }

section Agreement

variable {exp : ℚ → ℚ} {left right : VehicleSimulation}

/-- The next state does not depend on the run state. -/
theorem nextState_congr (h : left.SameTick right) (inputs : ScenarioInputs) (timestamp : UInt64) :
    left.nextState exp inputs timestamp = right.nextState exp inputs timestamp := by
  rw [nextState, nextState, h.configuration, h.fixedStep, h.state, evolveVehicleState_runState]

theorem sameTick_advanced (h : left.SameTick right) (inputs : ScenarioInputs) :
    (advanced exp left inputs).SameTick (advanced exp right inputs) := by
  have htime : left.clock.timestamp + left.clock.fixedStep =
      right.clock.timestamp + right.clock.fixedStep := by rw [h.timestamp, h.fixedStep]
  refine ⟨h.configuration, h.initialState, h.fixedStep, htime, ?_, ?_⟩
  · change left.clock.tickCount + 1 = right.clock.tickCount + 1
    rw [h.tickCount]
  · change left.nextState exp inputs (left.clock.timestamp + left.clock.fixedStep) =
      { right.nextState exp inputs (right.clock.timestamp + right.clock.fixedStep) with
        runState :=
          (left.nextState exp inputs (left.clock.timestamp + left.clock.fixedStep)).runState }
    rw [htime, nextState_congr h]

end Agreement

theorem callAll_append (exp : ℚ → ℚ) (executed : ℕ) (simulation : VehicleSimulation)
    (first second : List SimulationCall) :
    simulation.callAll exp executed (first ++ second) =
      (do
        let (executed, next) ← simulation.callAll exp executed first
        next.callAll exp executed second) := by
  induction first generalizing executed simulation with
  | nil => rfl
  | cons call rest ih =>
    rw [List.cons_append, callAll, callAll]
    cases simulation.call exp call with
    | error e => rfl
    | ok result => exact ih _ _

/-- One more tick at the end of a run of ticks. -/
theorem callAll_ticks_succ {exp : ℚ → ℚ} {start reached next : VehicleSimulation} {executed : ℕ}
    (hrun : start.callAll exp 0 (List.replicate executed .tick) = .ok (executed, reached))
    (htick : reached.tick exp = .ok (true, next)) :
    start.callAll exp 0 (List.replicate (executed + 1) .tick) = .ok (executed + 1, next) := by
  rw [List.replicate_succ', callAll_append, hrun]
  change reached.callAll exp executed [.tick] = _
  rw [callAll, call, htick]
  rfl

/-- The simulation is where the uninterrupted run of this many ticks is, up to being paused. -/
structure Follows (exp : ℚ → ℚ) (start : VehicleSimulation) (executed : ℕ)
    (simulation : VehicleSimulation) : Prop where
  consistent : simulation.Consistent
  configuration : simulation.configuration = start.configuration
  initialState : simulation.initialState = start.initialState
  tickCount : simulation.clock.tickCount.toNat = executed
  uninterrupted : ∃ reached,
    start.callAll exp 0 (List.replicate executed .tick) = .ok (executed, reached) ∧
      reached.Consistent ∧ reached.clock.paused = false ∧ simulation.SameTick reached

theorem running_of_unpaused {simulation : VehicleSimulation} (h : simulation.Consistent)
    (hunpaused : simulation.clock.paused = false)
    (htime : simulation.clock.timestamp ≠ simulation.configuration.duration) :
    simulation.state.runState = .running := by
  cases hstate : simulation.state.runState with
  | stopped => exact absurd hstate h.started
  | running => rfl
  | paused => exact absurd (h.paused.2 hstate) (by rw [hunpaused]; decide)
  | completed => exact absurd (h.completed.1 hstate) htime

theorem sameTick_of_runState {simulation other next : VehicleSimulation}
    (h : simulation.SameTick other) (hconfiguration : next.configuration = simulation.configuration)
    (hinitial : next.initialState = simulation.initialState)
    (hfixedStep : next.clock.fixedStep = simulation.clock.fixedStep)
    (htimestamp : next.clock.timestamp = simulation.clock.timestamp)
    (htickCount : next.clock.tickCount = simulation.clock.tickCount)
    (hstate : next.state = { simulation.state with runState := next.state.runState }) :
    next.SameTick other where
  configuration := hconfiguration.trans h.configuration
  initialState := hinitial.trans h.initialState
  fixedStep := hfixedStep.trans h.fixedStep
  timestamp := htimestamp.trans h.timestamp
  tickCount := htickCount.trans h.tickCount
  state := by
    rw [hstate, h.state]

/-- The number of ticks of a whole run. -/
def totalTicks (configuration : SimulationRunConfiguration) : ℕ :=
  configuration.duration.toNat / configuration.fixedStep.toNat

/-- A simulation that is on the run of ticks alone, at this position. -/
structure Stands (exp : ℚ → ℚ) (start : VehicleSimulation) (position : RunPosition)
    (simulation : VehicleSimulation) : Prop extends Follows exp start position.ticks simulation where
  paused : simulation.clock.paused = position.paused

section Stands

variable {exp : ℚ → ℚ} {start simulation : VehicleSimulation} {position : RunPosition}

theorem duration_eq_totalTicks (h : simulation.Consistent) :
    simulation.configuration.duration.toNat =
      totalTicks simulation.configuration * simulation.configuration.fixedStep.toNat := by
  have hmod : simulation.configuration.duration.toNat %
      simulation.configuration.fixedStep.toNat = 0 := by
    rw [← UInt64.toNat_mod, h.accepted.wholeSteps]
    rfl
  exact (Nat.div_mul_cancel (Nat.dvd_of_mod_eq_zero hmod)).symm

theorem Stands.ticks_le (h : Stands exp start position simulation) :
    position.ticks ≤ totalTicks start.configuration := by
  have hle := h.consistent.le_duration
  rw [h.consistent.ticks, duration_eq_totalTicks h.consistent, h.tickCount, h.configuration] at hle
  exact Nat.le_of_mul_le_mul_right hle (h.configuration ▸ fixedStep_pos h.consistent)

/-- A run is complete when it has made all its ticks. -/
theorem Stands.completed_iff (h : Stands exp start position simulation) :
    simulation.state.runState = .completed ↔ position.ticks = totalTicks start.configuration := by
  rw [h.consistent.completed, ← UInt64.toNat_inj, h.consistent.ticks,
    duration_eq_totalTicks h.consistent, h.tickCount, h.configuration]
  exact Nat.mul_left_inj (h.configuration ▸ fixedStep_pos h.consistent).ne'

theorem Stands.paused_iff (h : Stands exp start position simulation) :
    simulation.state.runState = .paused ↔ position.paused = true := by
  rw [← h.consistent.paused, h.paused]

/-- A run that is not running is paused or complete. -/
theorem Stands.idle (h : Stands exp start position simulation)
    (hidle : simulation.state.runState ≠ .running) :
    position.paused = true ∨ position.ticks = totalTicks start.configuration := by
  cases hstate : simulation.state.runState with
  | stopped => exact absurd hstate h.consistent.started
  | running => exact absurd hstate hidle
  | paused => exact .inl (h.paused_iff.1 hstate)
  | completed => exact .inr (h.completed_iff.1 hstate)

theorem Stands.running (h : Stands exp start position simulation)
    (hrunning : simulation.state.runState = .running) :
    position.paused = false ∧ position.ticks < totalTicks start.configuration := by
  constructor
  · rw [Bool.eq_false_iff]
    intro hpaused
    rw [h.paused_iff.2 hpaused] at hrunning
    cases hrunning
  · refine lt_of_le_of_ne h.ticks_le fun hall => ?_
    rw [h.completed_iff.2 hall] at hrunning
    cases hrunning

/-- A running simulation makes one tick. -/
theorem Stands.tick (h : Stands exp start position simulation)
    (hrunning : simulation.state.runState = .running) :
    ∃ next, simulation.tick exp = .ok (true, next) ∧
      Stands exp start { position with ticks := position.ticks + 1 } next := by
  obtain ⟨inputs, hinputs, -, htick⟩ := tick_of_running exp h.consistent hrunning
  refine ⟨_, htick, ?_⟩
  obtain ⟨hconsistent, hcount⟩ := consistent_advanced exp h.consistent hrunning inputs
  -- The uninterrupted run stands at the same tick, and it cannot have completed either.
  obtain ⟨reached, hrun, hreached, hunpaused, hsame⟩ := h.uninterrupted
  have hreachedRunning : reached.state.runState = .running := by
    refine running_of_unpaused hreached hunpaused fun heq => ?_
    rw [← hsame.timestamp, ← hsame.configuration] at heq
    exact absurd (h.consistent.completed.2 heq) (by rw [hrunning]; decide)
  obtain ⟨inputs', hinputs', -, htick'⟩ := tick_of_running exp hreached hreachedRunning
  have heq : inputs' = inputs := by
    rw [hsame.configuration, hsame.timestamp, hsame.fixedStep, hinputs'] at hinputs
    exact Except.ok.inj hinputs
  subst heq
  exact ⟨⟨hconsistent, h.configuration, h.initialState,
    hcount.trans (congrArg (· + 1) h.tickCount), _, callAll_ticks_succ hrun htick',
    (consistent_advanced exp hreached hreachedRunning inputs').1, hunpaused,
    sameTick_advanced hsame inputs'⟩, h.paused⟩

/-- The loop of `advance_ticks` makes the ticks that are left, unless the run is paused. -/
theorem Stands.advanceTicksFrom (h : Stands exp start position simulation) {remaining : ℕ}
    {advanced : UInt64} (hroom : advanced.toNat + remaining < 2 ^ 64) :
    ∃ result after, VehicleSimulation.advanceTicksFrom exp advanced remaining simulation =
        .ok (result, after) ∧
      Stands exp start (position.moved (totalTicks start.configuration) remaining) after ∧
      position.ticks + result.toNat =
        (position.moved (totalTicks start.configuration) remaining).ticks + advanced.toNat := by
  induction remaining generalizing advanced position simulation with
  | zero =>
    have hstays : position.moved (totalTicks start.configuration) 0 = position := by
      unfold RunPosition.moved
      rw [Nat.add_zero, min_eq_right h.ticks_le]
      split <;> rfl
    rw [hstays]
    exact ⟨advanced, simulation, rfl, h, rfl⟩
  | succ remaining ih =>
    rw [VehicleSimulation.advanceTicksFrom]
    by_cases hrunning : simulation.state.runState = .running
    · obtain ⟨next, hstep, hnext⟩ := h.tick hrunning
      have hsucc : (advanced + 1).toNat = advanced.toNat + 1 := by
        rw [UInt64.toNat_add]
        exact Nat.mod_eq_of_lt (by change _ + 1 < _; omega)
      obtain ⟨result, after, hrun, hafter, hcount⟩ := ih hnext
        (by omega : (advanced + 1).toNat + remaining < 2 ^ 64)
      rw [hstep, RunPosition.moved_succ (h.running hrunning).1]
      refine ⟨result, after, hrun, hafter, ?_⟩
      rw [hsucc] at hcount
      change position.ticks + 1 + _ = _ at hcount
      omega
    · rw [tick_of_inactive h.consistent hrunning, RunPosition.moved_idle (h.idle hrunning)]
      exact ⟨advanced, simulation, rfl, h, rfl⟩

theorem Stands.advanceTicks (h : Stands exp start position simulation) (count : UInt64) :
    ∃ result after, simulation.advanceTicks exp count = .ok (result, after) ∧
      Stands exp start (position.moved (totalTicks start.configuration) count.toNat) after ∧
      position.ticks + result.toNat =
        (position.moved (totalTicks start.configuration) count.toNat).ticks := by
  have hlt := count.toNat_lt
  have hroom : (0 : UInt64).toNat + count.toNat < 2 ^ 64 := by
    change 0 + _ < _
    omega
  exact h.advanceTicksFrom hroom

/-- The ticks that `run_to_completion` asks for are those that are left. -/
theorem Stands.ticksRemaining (h : Stands exp start position simulation) :
    ((simulation.configuration.duration - simulation.state.timestamp) /
      simulation.configuration.fixedStep).toNat =
        totalTicks start.configuration - position.ticks := by
  have hle : simulation.clock.timestamp ≤ simulation.configuration.duration :=
    UInt64.le_iff_toNat_le.2 h.consistent.le_duration
  rw [h.consistent.timestamp, UInt64.toNat_div, UInt64.toNat_sub_of_le _ _ hle, h.consistent.ticks,
    duration_eq_totalTicks h.consistent, h.tickCount, h.configuration, ← Nat.sub_mul]
  exact Nat.mul_div_cancel _ (h.configuration ▸ fixedStep_pos h.consistent)

theorem Stands.pause (h : Stands exp start position simulation) :
    Stands exp start (position.after (totalTicks start.configuration) .pause) simulation.pause := by
  have hconsistent := consistent_pause h.consistent
  rw [RunPosition.after]
  unfold VehicleSimulation.pause at hconsistent ⊢
  by_cases hcompleted : simulation.state.runState = .completed
  · rw [if_pos hcompleted, if_pos (h.completed_iff.1 hcompleted)]
    exact h
  · rw [if_neg hcompleted] at hconsistent
    rw [if_neg hcompleted, if_neg (mt h.completed_iff.2 hcompleted)]
    obtain ⟨reached, hrun, hreached, hunpaused, hsame⟩ := h.uninterrupted
    exact ⟨⟨hconsistent, h.configuration, h.initialState, h.tickCount, reached, hrun, hreached,
      hunpaused, sameTick_of_runState hsame rfl rfl rfl rfl rfl rfl⟩, rfl⟩

theorem Stands.resume (h : Stands exp start position simulation) :
    Stands exp start (position.after (totalTicks start.configuration) .resume)
      simulation.resume := by
  have hconsistent := consistent_resume h.consistent
  rw [RunPosition.after]
  unfold VehicleSimulation.resume at hconsistent ⊢
  by_cases hpaused : simulation.state.runState = .paused
  · rw [if_neg (not_not.2 hpaused)] at hconsistent ⊢
    obtain ⟨reached, hrun, hreached, hunpaused, hsame⟩ := h.uninterrupted
    exact ⟨⟨hconsistent, h.configuration, h.initialState, h.tickCount, reached, hrun, hreached,
      hunpaused, sameTick_of_runState hsame rfl rfl rfl rfl rfl rfl⟩, rfl⟩
  · rw [if_pos hpaused]
    have hnot : simulation.clock.paused = false :=
      Bool.eq_false_iff.2 (mt h.consistent.paused.1 hpaused)
    exact ⟨h.toFollows, hnot⟩

/-- A simulation as constructed is at the start of the run. -/
theorem stands_start (exp : ℚ → ℚ) (hstart : start.Consistent)
    (hclock : start.clock = { fixedStep := start.configuration.fixedStep }) :
    Stands exp start {} start := by
  have hticks : start.clock.tickCount.toNat = 0 := by
    rw [hclock]
    rfl
  have hpaused : start.clock.paused = false := by
    rw [hclock]
  exact ⟨⟨hstart, rfl, rfl, hticks, start, rfl, hstart, hpaused, rfl, rfl, rfl, rfl, rfl, rfl⟩,
    hpaused⟩

theorem Stands.reset (h : Stands exp start position simulation) (hstart : start.Consistent)
    (hinitial : start.state = start.initialState)
    (hclock : start.clock = { fixedStep := start.configuration.fixedStep }) :
    Stands exp start {} simulation.reset := by
  have hfixedStep : simulation.clock.fixedStep = start.clock.fixedStep := by
    rw [h.consistent.fixedStep, hstart.fixedStep, h.configuration]
  refine ⟨⟨consistent_reset h.consistent, h.configuration, h.initialState, rfl, start, rfl, hstart,
    ?_, h.configuration, h.initialState, hfixedStep, ?_, ?_, ?_⟩, rfl⟩
  · rw [hclock]
  · rw [hclock]
    rfl
  · rw [hclock]
    rfl
  · change simulation.initialState = { start.state with runState := simulation.initialState.runState }
    rw [h.initialState, hinitial]

/-- A call returns how far it moved the position. -/
theorem Stands.call (h : Stands exp start position simulation) (hstart : start.Consistent)
    (hinitial : start.state = start.initialState)
    (hclock : start.clock = { fixedStep := start.configuration.fixedStep }) (call : SimulationCall) :
    ∃ ticks next, simulation.call exp call = .ok (ticks, next) ∧
      Stands exp start (position.after (totalTicks start.configuration) call) next ∧
      (if call = .reset then 0 else position.ticks + ticks.toNat) =
        (position.after (totalTicks start.configuration) call).ticks := by
  cases call with
  | tick =>
    rw [VehicleSimulation.call, RunPosition.after]
    by_cases hrunning : simulation.state.runState = .running
    · obtain ⟨hunpaused, hticks⟩ := h.running hrunning
      obtain ⟨next, hstep, hnext⟩ := h.tick hrunning
      have hmoved : position.moved (totalTicks start.configuration) 1 =
          { position with ticks := position.ticks + 1 } := by
        rw [RunPosition.moved, hunpaused, if_neg Bool.false_ne_true, min_eq_right hticks]
      rw [hstep, hmoved]
      exact ⟨1, next, rfl, hnext, rfl⟩
    · rw [tick_of_inactive h.consistent hrunning, RunPosition.moved_idle (h.idle hrunning)]
      exact ⟨0, simulation, rfl, h, rfl⟩
  | advanceTicks count => exact h.advanceTicks count
  | runToCompletion =>
    rw [RunPosition.after, ← h.ticksRemaining]
    exact h.advanceTicks _
  | pause =>
    refine ⟨0, _, rfl, h.pause, ?_⟩
    change position.ticks = (if _ then position else { position with paused := true }).ticks
    split <;> rfl
  | resume => exact ⟨0, _, rfl, h.resume, rfl⟩
  | reset => exact ⟨0, _, rfl, h.reset hstart hinitial hclock, rfl⟩

theorem Stands.callAll (h : Stands exp start position simulation) (hstart : start.Consistent)
    (hinitial : start.state = start.initialState)
    (hclock : start.clock = { fixedStep := start.configuration.fixedStep })
    (calls : List SimulationCall) :
    ∃ after, simulation.callAll exp position.ticks calls =
        .ok ((calls.foldl (RunPosition.after (totalTicks start.configuration)) position).ticks,
          after) ∧
      Stands exp start
        (calls.foldl (RunPosition.after (totalTicks start.configuration)) position) after := by
  induction calls generalizing position simulation with
  | nil => exact ⟨simulation, rfl, h⟩
  | cons call rest ih =>
    obtain ⟨ticks, next, hcall, hnext, hcount⟩ := h.call hstart hinitial hclock call
    obtain ⟨after, hrun, hafter⟩ := ih hnext
    refine ⟨after, ?_, hafter⟩
    rw [VehicleSimulation.callAll, hcall]
    change next.callAll exp (if call = .reset then 0 else position.ticks + ticks.toNat) rest = _
    rw [hcount]
    exact hrun

end Stands

/-- Whatever calls are made, nothing throws, the run stands where the calls should have moved it,
each call returns the ticks it moved it by, and the clock and the state agree with that. The state is
that of the uninterrupted run of as many ticks as were made since the last reset. -/
theorem calls_follow_the_uninterrupted_run (exp : ℚ → ℚ)
    {configuration : SimulationRunConfiguration} {simulation : VehicleSimulation}
    (hcreate : create configuration = .ok simulation) (calls : List SimulationCall) :
    ∃ position after, position = calls.foldl (RunPosition.after (totalTicks configuration)) {} ∧
      simulation.callAll exp 0 calls = .ok (position.ticks, after) ∧
      (∀ call, ∃ ticks next, after.call exp call = .ok (ticks, next) ∧
        ticks.toNat = (position.after (totalTicks configuration) call).ticks - position.ticks) ∧
      after.clock.tickCount.toNat = position.ticks ∧
      after.clock.timestamp.toNat = position.ticks * configuration.fixedStep.toNat ∧
      after.state.timestamp = after.clock.timestamp ∧
      after.clock.timestamp ≤ configuration.duration ∧
      (after.state.runState = .completed ↔ after.clock.timestamp = configuration.duration) ∧
      (after.clock.timestamp = configuration.duration ↔
        position.ticks = totalTicks configuration) ∧
      (after.clock.paused = true ↔ after.state.runState = .paused) ∧
      after.clock.paused = position.paused ∧
      ∃ reached, simulation.callAll exp 0 (List.replicate position.ticks .tick) =
          .ok (position.ticks, reached) ∧
        after.state = { reached.state with runState := after.state.runState } := by
  obtain ⟨hconsistent, hconfiguration, hinitial, hclock, -⟩ := create_spec hcreate
  obtain rfl := hconfiguration
  obtain ⟨after, hrun, h⟩ := (stands_start exp hconsistent hclock).callAll hconsistent hinitial hclock
    calls
  obtain ⟨reached, huninterrupted, -, -, hstate⟩ := h.uninterrupted
  have htimestamp : after.clock.timestamp.toNat =
      (calls.foldl (RunPosition.after (totalTicks simulation.configuration)) {}).ticks *
        simulation.configuration.fixedStep.toNat := by
    rw [h.consistent.ticks, h.tickCount, h.configuration]
  refine ⟨_, after, rfl, hrun, fun call => ?_, h.tickCount, htimestamp, h.consistent.timestamp, ?_,
    ?_, ?_, h.consistent.paused, h.paused, reached, huninterrupted, hstate.state⟩
  · obtain ⟨ticks, next, hcall, -, hcount⟩ := h.call hconsistent hinitial hclock call
    refine ⟨ticks, next, hcall, ?_⟩
    split at hcount
    · rename_i hreset
      subst hreset
      cases hcall
      exact (Nat.zero_sub _).symm
    · rw [← hcount, Nat.add_sub_cancel_left]
  · rw [UInt64.le_iff_toNat_le, ← h.configuration]
    exact h.consistent.le_duration
  · rw [← h.configuration]
    exact h.consistent.completed
  · rw [← UInt64.toNat_inj, htimestamp, duration_eq_totalTicks hconsistent]
    exact Nat.mul_left_inj (fixedStep_pos hconsistent).ne'

/-- The state the default idle run starts from. -/
def idleInitialState : VehicleState where
  timestamp := 0
  runState := .running
  acceleratorPedalPosition := 0
  requestedScenarioLoad := kIdleRequestedScenarioLoad
  engineRunning := true
  engineSpeedRpm := kInitialEngineSpeedRpm
  engineLoad := kIdleEngineLoad
  throttlePosition := kIdleThrottlePosition
  vehicleSpeedMetersPerSecond := 0
  currentGear := 0
  ambientPressureKpaAbsolute := 101.325
  manifoldPressureKpaAbsolute := 40.53
  requestedBoostKpaGauge := 0
  coolantTemperatureCelsius := 25
  oilTemperatureCelsius := 22
  intakeAirTemperatureCelsius := 23
  lambda := kIdleLambda
  ignitionAdvanceDegrees := kIdleIgnitionAdvanceDegrees
  timingCorrectionDegrees := 0
  batteryVoltageVolts := kInitialBatteryVoltageVolts

/-- The default idle run as constructed. -/
def idleSimulation : VehicleSimulation where
  configuration := makeDefaultIdleRunConfiguration {}
  clock := { fixedStep := kBaseSimulationStep }
  initialState := idleInitialState
  state := idleInitialState

theorem create_idleSimulation :
    create (makeDefaultIdleRunConfiguration {}) = .ok idleSimulation := by
  decide +kernel

/-- A run with a reset and a pause in it, of which two batches of ticks are left. -/
theorem paused_idle_run_follows_the_uninterrupted_run :
    ∃ after reached, idleSimulation.callAll reciprocalDecay 0
        [.tick, .reset, .advanceTicks 2, .pause, .advanceTicks 4, .resume, .advanceTicks 3] =
        .ok (5, after) ∧
      idleSimulation.callAll reciprocalDecay 0 (List.replicate 5 .tick) = .ok (5, reached) ∧
      after.state = { reached.state with runState := after.state.runState } := by
  obtain ⟨position, after, hposition, hrun, -, -, -, -, -, -, -, -, -, reached, halone, hstate⟩ :=
    calls_follow_the_uninterrupted_run reciprocalDecay create_idleSimulation
      [.tick, .reset, .advanceTicks 2, .pause, .advanceTicks 4, .resume, .advanceTicks 3]
  have hticks : position.ticks = 5 := by
    rw [hposition]
    decide
  rw [hticks] at hrun halone
  exact ⟨after, reached, hrun, halone, hstate⟩

end VehicleSimulation

end TunerOs
