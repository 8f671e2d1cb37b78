-- SUMMARY: A fault that goes on acting is confirmed by a live source, half a second after its delay and the confirmation time at the latest.
import TunerOs.Live.Symptoms

/-!
# Detection

From the time on at which a fault shows in every state, the carriers of the messages
that its rule reads show it after each frame. No evaluation then stops the confirmation
timer, and the timer was started one period and one step later at the latest.
-/

namespace TunerOs

open Containers VehicleNetworkSimulation VehicleNetworkPublisher

/-! ## A timer that keeps running -/

/-- The record is active, or its timer was started by `since` and is not over at `latest`. -/
def RuleState.Confirms (state : RuleState) (duration since latest : ℕ) : Prop :=
  state.status = some .active ∨ state.status = some .pending ∧
    ∃ started, state.conditionStartedTimestampMicroseconds = some started ∧ started ≤ since ∧
      latest < started + duration

/-- A timer that runs was started by this time. -/
def RuleState.StartedBy (state : RuleState) (timestamp : ℕ) : Prop :=
  ∀ started, state.conditionStartedTimestampMicroseconds = some started → started ≤ timestamp

namespace DiagnosticRule

variable {rule : DiagnosticRule} {state : RuleState} {snapshot : TelemetrySnapshot} {timestamp : ℕ}

theorem handleNormal_timer (rule : DiagnosticRule) (state : RuleState) (timestamp : ℕ) :
    (rule.handleNormal state timestamp).state.conditionStartedTimestampMicroseconds = none := by
  unfold handleNormal
  cases state.dtc with
  | none => rfl
  | some dtc =>
    cases hstatus : dtc.status <;> simp only [hstatus]
    split <;> rfl

theorem enterPending_startedBy (rule : DiagnosticRule) (hstarted : state.StartedBy timestamp) :
    (rule.enterPending state timestamp).started ≤ timestamp := by
  unfold enterPending
  cases state.dtc with
  | none => exact le_rfl
  | some dtc =>
    simp only []
    split
    · cases htimer : state.conditionStartedTimestampMicroseconds with
      | none => exact le_rfl
      | some started => exact hstarted started htimer
    · exact le_rfl

/-- A violation keeps a timer running, or starts one. -/
theorem handleViolation_confirms {since : ℕ}
    (hraised : (rule.handleViolation state snapshot timestamp).raised = none)
    (hstarted : state.StartedBy timestamp)
    (hsince : timestamp ≤ since ∨ ∃ latest,
      state.Confirms rule.definition.confirmationDurationMicroseconds since latest) :
    (rule.handleViolation state snapshot timestamp).state.Confirms
      rule.definition.confirmationDurationMicroseconds since timestamp := by
  by_cases hactive : state.status = some .active
  · exact .inl (handleViolation_active rule state snapshot timestamp hactive).2.1
  · by_cases hdue : (rule.enterPending state timestamp).started +
        rule.definition.confirmationDurationMicroseconds ≤ timestamp
    · exact .inl (handleViolation_due hactive hdue hraised).2.1
    · obtain ⟨-, hpending, htimer, -⟩ := handleViolation_not_due snapshot hactive hdue
      refine .inr ⟨hpending, _, htimer, ?_, not_le.1 hdue⟩
      rcases hsince with hnow | ⟨latest, hconfirms | ⟨hstatus, started, hrunning, hle, -⟩⟩
      · exact (enterPending_startedBy rule hstarted).trans hnow
      · exact absurd hconfirms hactive
      · obtain ⟨dtc, hdtc, hdtcPending⟩ := Option.map_eq_some_iff.1 hstatus
        rw [enterPending_again hdtc hdtcPending, hrunning]
        exact hle

/-- An evaluation that sees a violation keeps the timer running, or starts one. -/
theorem evaluate_confirms {since : ℕ} (hfresh : rule.InputsFresh snapshot)
    (hviolated : ∀ active, rule.condition snapshot active = .ok .violation)
    (hraised : (rule.evaluate state snapshot timestamp).raised = none)
    (hstarted : state.StartedBy timestamp)
    (hsince : timestamp ≤ since ∨ ∃ latest,
      state.Confirms rule.definition.confirmationDurationMicroseconds since latest) :
    (rule.evaluate state snapshot timestamp).state.Confirms
      rule.definition.confirmationDurationMicroseconds since timestamp := by
  rw [evaluate_violation hfresh (hviolated _)] at hraised ⊢
  exact handleViolation_confirms hraised hstarted hsince

/-- Whatever an evaluation sees, it starts no timer in the future. -/
theorem evaluate_startedBy (hraised : (rule.evaluate state snapshot timestamp).raised = none)
    (hstarted : state.StartedBy timestamp) :
    (rule.evaluate state snapshot timestamp).state.StartedBy timestamp := by
  by_cases hfresh : rule.InputsFresh snapshot
  · obtain ⟨result, hcondition⟩ := condition_of_raised_none hfresh hraised
    cases result with
    | violation =>
      rw [evaluate_violation hfresh hcondition] at hraised ⊢
      set seen : RuleState := { state with recoveryStartedTimestampMicroseconds := none } with hseen
      have hseenStarted : seen.StartedBy timestamp := hstarted
      by_cases hactive : seen.status = some .active
      · intro started htimer
        rw [(handleViolation_active rule seen snapshot timestamp hactive).2.2.1] at htimer
        exact hseenStarted started htimer
      · by_cases hdue : (rule.enterPending seen timestamp).started +
            rule.definition.confirmationDurationMicroseconds ≤ timestamp
        · intro started htimer
          rw [(handleViolation_due hactive hdue hraised).2.2.1] at htimer
          cases htimer
        · intro started htimer
          rw [(handleViolation_not_due snapshot hactive hdue).2.2.1] at htimer
          cases htimer
          exact enterPending_startedBy rule hseenStarted
    | normal =>
      rw [evaluate_normal hfresh hcondition]
      intro started htimer
      rw [handleNormal_timer] at htimer
      cases htimer
  · rw [evaluate_stale hfresh]
    exact fun started htimer => (Option.some_ne_none _ htimer.symm).elim

end DiagnosticRule

/-! ## What the states of a run show -/

/-- What the states of a run show of a fault from a time on. -/
structure RunShows (configuration : SimulationRunConfiguration) (id : FaultId) (shown : ℕ)
    (states : List VehicleState) : Prop where
  shows : ∀ state ∈ states, shown ≤ state.timestamp.toNat →
    state.ShowsFault configuration.faults id
  steady : id = .frontLeftWheelSpeedSensorBias → ∀ earlier ∈ states, ∀ later ∈ states,
    earlier.timestamp.toNat ≤ later.timestamp.toNat →
    later.timestamp.toNat ≤ earlier.timestamp.toNat + 40000 →
    |earlier.vehicleSpeedMetersPerSecond - later.vehicleSpeedMetersPerSecond| < 1

/-- The carriers of the messages that the fault's rule reads are fresh states of the run that are
not before this time. -/
def Carriers.Within (carriers : Carriers) (states : List VehicleState) (id : FaultId)
    (shown timestamp : ℕ) : Prop :=
  ∀ encoder ∈ id.encoders, ∃ carrier ∈ states,
    carriers encoder.message.arbitrationId = some carrier ∧ shown ≤ carrier.timestamp.toNat ∧
      carrier.timestamp.toNat ≤ timestamp ∧
      timestamp ≤ carrier.timestamp.toNat + 2 * encoder.period

section Within

variable {configuration : SimulationRunConfiguration} {states : List VehicleState} {id : FaultId}
  {shown timestamp : ℕ} {carriers : Carriers}

theorem FaultId.encoders_network (id : FaultId) :
    ∀ encoder ∈ id.encoders, encoder ∈ networkEncoders ∧
      encoder.message ≠ dmeCombustionObservation := by
  cases id <;> simp only [FaultId.encoders, List.forall_mem_cons]
  · exact ⟨⟨dmeThermalElectrical_mem_network, by decide⟩, nofun⟩
  · exact ⟨⟨dmeThermalElectrical_mem_network, by decide⟩,
      ⟨dmeFastEngine_mem_network, by decide⟩, nofun⟩
  · exact ⟨⟨dmeAirLoad_mem_network, by decide⟩, ⟨dmeFastEngine_mem_network, by decide⟩, nofun⟩
  · exact ⟨⟨dscWheelSpeeds_mem_network, by decide⟩,
      ⟨dscVehicleMotion_mem_network, by decide⟩, nofun⟩

theorem Carriers.Within.showFault (h : carriers.Within states id shown timestamp)
    (hshows : RunShows configuration id shown states) :
    carriers.ShowFault configuration.faults id timestamp := by
  constructor
  · intro encoder hencoder
    obtain ⟨carrier, hmem, hcarrier, hshown, -, hage⟩ := h encoder hencoder
    exact ⟨carrier, hcarrier, hshows.shows carrier hmem hshown, by omega⟩
  · rintro rfl wheels motion hwheels hmotion
    obtain ⟨first, hfirst, hfirstCarrier, -, hfirstLe, hfirstAge⟩ := h _ List.mem_cons_self
    obtain ⟨second, hsecond, hsecondCarrier, -, hsecondLe, hsecondAge⟩ :=
      h _ (List.mem_cons_of_mem _ List.mem_cons_self)
    cases hwheels.symm.trans hfirstCarrier
    cases hmotion.symm.trans hsecondCarrier
    have hwheelPeriod : dscWheelSpeedsEncoderFrom.period = 20000 := rfl
    have hmotionPeriod : dscVehicleMotionEncoder.period = 20000 := rfl
    obtain hle | hle := le_total wheels.timestamp.toNat motion.timestamp.toNat
    · exact hshows.steady rfl wheels hfirst motion hsecond hle (by omega)
    · rw [abs_sub_comm]
      exact hshows.steady rfl motion hsecond wheels hfirst hle (by omega)

/-- A frame of a state that shows the fault keeps the carriers within. -/
theorem Carriers.Within.moved {state : VehicleState}
    (h : carriers.Within states id shown state.timestamp.toNat) (hmem : state ∈ states)
    (hshown : shown ≤ state.timestamp.toNat) (encoder : FrameEncoder) :
    (carriers.moved encoder state).Within states id shown state.timestamp.toNat := by
  intro other hother
  by_cases hsame : other.message.arbitrationId = encoder.message.arbitrationId
  · refine ⟨state, hmem, ?_, hshown, le_rfl, Nat.le_add_right _ _⟩
    rw [hsame, Carriers.moved_self]
  · rw [Carriers.moved_of_ne hsame]
    exact h other hother

end Within

/-! ## The frames of one state -/

section Batch

variable {messageDecode : DbcMessage → Bytes → Option (Dict String CanmatrixValue)}
  {configuration : SimulationRunConfiguration} {states before : List VehicleState} {id : FaultId}
  {shown : ℕ} {carriers last : Carriers} {pipeline next reached : Pipeline} {state : VehicleState}

theorem Pipeline.Took.startedBy {faults : List FaultConfiguration} {timestamp : ℕ}
    (took : Pipeline.Took messageDecode faults carriers timestamp pipeline next)
    {rule : DiagnosticRule} (hrule : rule ∈ defaultRules)
    (h : (pipeline.ruleState rule).StartedBy timestamp) :
    (next.ruleState rule).StartedBy timestamp := by
  obtain ⟨snapshot, -, -, hevaluated⟩ := took.evaluated
  obtain ⟨hraised, hstate⟩ := hevaluated rule hrule
  rw [Pipeline.ruleState, hstate]
  exact DiagnosticRule.evaluate_startedBy hraised h

/-- A frame after which the carriers are within keeps the timer running, or starts it. -/
theorem Pipeline.Took.confirms {since timestamp : ℕ}
    (took : Pipeline.Took messageDecode configuration.faults carriers timestamp pipeline next)
    (hshows : RunShows configuration id shown states)
    (hwithin : carriers.Within states id shown timestamp)
    (hstarted : (pipeline.ruleState id.rule).StartedBy timestamp)
    (hsince : timestamp ≤ since ∨ ∃ latest, (pipeline.ruleState id.rule).Confirms
      id.rule.definition.confirmationDurationMicroseconds since latest) :
    (next.ruleState id.rule).Confirms
      id.rule.definition.confirmationDurationMicroseconds since timestamp := by
  obtain ⟨snapshot, -, hobserves, hevaluated⟩ := took.evaluated
  obtain ⟨hraised, hstate⟩ := hevaluated id.rule id.rule_mem
  obtain ⟨hfresh, hviolated⟩ := violated_of_showFault hobserves (hwithin.showFault hshows)
  rw [Pipeline.ruleState, hstate]
  exact DiagnosticRule.evaluate_confirms hfresh hviolated hraised hstarted hsince

/-- The frames of a state start no timer in the future. -/
theorem TookAll.startedBy_batch {faults : List FaultConfiguration} {encoders : List FrameEncoder}
    {rule : DiagnosticRule} (hrule : rule ∈ defaultRules)
    (hbatch : TookAll messageDecode faults carriers pipeline (encoders.map (·, state)) last reached)
    (h : (pipeline.ruleState rule).StartedBy state.timestamp.toNat) :
    (reached.ruleState rule).StartedBy state.timestamp.toNat := by
  induction encoders generalizing carriers pipeline with
  | nil =>
    cases hbatch
    exact h
  | cons encoder rest ih =>
    cases hbatch with
    | cons took later => exact ih later (took.startedBy hrule h)

/-- The frames of a state that shows the fault keep the timer running, or start it. -/
theorem TookAll.confirms_batch {since : ℕ} {encoder : FrameEncoder} {encoders : List FrameEncoder}
    (hbatch : TookAll messageDecode configuration.faults carriers pipeline
      ((encoder :: encoders).map (·, state)) last reached)
    (hshows : RunShows configuration id shown states) (hmem : state ∈ states)
    (hshown : shown ≤ state.timestamp.toNat)
    (hwithin : (carriers.moved encoder state).Within states id shown state.timestamp.toNat)
    (hstarted : (pipeline.ruleState id.rule).StartedBy state.timestamp.toNat)
    (hsince : state.timestamp.toNat ≤ since ∨ ∃ latest, (pipeline.ruleState id.rule).Confirms
      id.rule.definition.confirmationDurationMicroseconds since latest) :
    (reached.ruleState id.rule).Confirms
      id.rule.definition.confirmationDurationMicroseconds since state.timestamp.toNat := by
  induction encoders generalizing carriers pipeline encoder with
  | nil =>
    cases hbatch with
    | cons took later =>
      cases later
      exact took.confirms hshows hwithin hstarted hsince
  | cons second rest ih =>
    cases hbatch with
    | cons took later =>
      exact ih later (hwithin.moved hmem hshown second) (took.startedBy id.rule_mem hstarted)
        (.inr ⟨_, took.confirms hshows hwithin hstarted hsince⟩)

end Batch

/-! ## From one state to the next -/

/-- The timer of the fault's rule was started by the last fast engine frame. If that one is not
before `from`, the timer was started by `limit`. -/
structure Pipeline.Detecting (pipeline : Pipeline) (carriers : Carriers) (id : FaultId)
    (shown limit : ℕ) : Prop where
  started : ∀ started,
    (pipeline.ruleState id.rule).conditionStartedTimestampMicroseconds = some started →
    ∃ engine, carriers dmeFastEngineEncoder.message.arbitrationId = some engine ∧
      started ≤ engine.timestamp.toNat
  confirms : ∀ engine, carriers dmeFastEngineEncoder.message.arbitrationId = some engine →
    shown ≤ engine.timestamp.toNat → (pipeline.ruleState id.rule).Confirms
      id.rule.definition.confirmationDurationMicroseconds limit engine.timestamp.toNat

/-- A carrier of the period of the state before is at most two periods old, if the step is not more
than that. -/
theorem age_le {carrier previous later period step : ℕ} (hpositive : 0 < period)
    (hsame : carrier / period = previous / period)
    (hspaced : carrier = previous ∨ carrier + step ≤ previous) (hlater : later = previous + step)
    (hstep : step ≤ 2 * period) : later ≤ carrier + 2 * period := by
  rcases hspaced with rfl | hearlier
  · omega
  · have hfrom := Nat.div_add_mod carrier period
    have hto := Nat.div_add_mod previous period
    have hrest := Nat.mod_lt previous hpositive
    rw [hsame] at hfrom
    omega

section Step

variable {messageDecode : DbcMessage → Bytes → Option (Dict String CanmatrixValue)}
  {configuration : SimulationRunConfiguration} {states before : List VehicleState} {id : FaultId}
  {shown step : ℕ} {carriers last : Carriers} {pipeline reached : Pipeline} {state : VehicleState}

/-- Whenever some frame is due, the fast engine frame is. -/
theorem dmeFastEngine_due (hincreasing : (before ++ [state]).Pairwise
      (fun left right => left.timestamp < right.timestamp))
    (hrange : ∀ other ∈ before ++ [state],
      other.timestamp.toNat + 100000 ≤ maximumUInt64.toNat)
    (hsome : dueAfter configuration before state ≠ []) :
    dmeFastEngineEncoder ∈ dueAfter configuration before state := by
  obtain ⟨encoder, hdue⟩ := List.exists_mem_of_ne_nil _ hsome
  have hencoder := mem_networkEncoders_of_due hdue
  rw [mem_dueAfter_iff configuration hencoder hincreasing hrange] at hdue
  rw [mem_dueAfter_iff configuration dmeFastEngine_mem_network hincreasing hrange]
  refine ⟨enabled_dmeFastEngine _, fun previous hprevious => ?_⟩
  have hpassed := hdue.2 previous hprevious
  obtain ⟨factor, hfactor⟩ : ∃ factor, encoder.period = 10000 * factor := by
    have hall : ∀ encoder ∈ networkEncoders, 10000 ∣ encoder.period := by decide
    exact hall encoder hencoder
  rw [hfactor, ← Nat.div_div_eq_div_mul, ← Nat.div_div_eq_div_mul] at hpassed
  by_contra hsame
  exact absurd (Nat.div_le_div_right (not_lt.1 hsame)) (not_le.2 hpassed)

/-- After the fast engine frame of a state the carriers are within. -/
theorem within_of_current (hcurrent : carriers.Current configuration.scenario before)
    (hbegins : before ++ [state] <+: states)
    (hspaced : states.Pairwise
      (fun left right => left.timestamp.toNat + step ≤ right.timestamp.toNat))
    (hlater : ∀ previous ∈ before.getLast?,
      state.timestamp.toNat = previous.timestamp.toNat + step)
    (hsome : before ≠ []) (hsteps : ∀ encoder ∈ id.encoders, encoder.message ≠ dmeFastEngine →
      step ≤ 2 * encoder.period) (hshown : shown + 200000 ≤ state.timestamp.toNat) :
    (carriers.moved dmeFastEngineEncoder state).Within states id shown
      state.timestamp.toNat := by
  intro encoder hencoder
  obtain ⟨hnetwork, hobservation⟩ := id.encoders_network encoder hencoder
  have hmem : state ∈ states := hbegins.subset (List.mem_append_right _ List.mem_cons_self)
  by_cases hengine : encoder = dmeFastEngineEncoder
  · subst hengine
    exact ⟨state, hmem, Carriers.moved_self .., by omega, le_rfl, Nat.le_add_right _ _⟩
  · have hmessage : encoder.message ≠ dmeFastEngine := fun heq => hengine
      ((Pipeline.networkEncoders_inj hnetwork dmeFastEngine_mem_network).1 (congrArg (·.name) heq))
    have hid : encoder.message.arbitrationId ≠ dmeFastEngineEncoder.message.arbitrationId :=
      fun heq => hengine
        ((Pipeline.networkEncoders_inj hnetwork dmeFastEngine_mem_network).2 heq)
    obtain ⟨rest, previous, rfl⟩ := (List.eq_nil_or_concat' before).resolve_left hsome
    obtain ⟨carrier, hcarrier, hshows, hperiod⟩ := hcurrent.enabled encoder hnetwork
      (fun heq => absurd heq hobservation) previous (List.getLast?_concat ..)
    have hstep := hlater previous (List.getLast?_concat ..)
    have hold : carrier.timestamp.toNat = previous.timestamp.toNat ∨
        carrier.timestamp.toNat + step ≤ previous.timestamp.toNat := by
      obtain hrest | hlast := List.mem_append.1 hcarrier
      · have hpairs := (List.pairwise_append.1
          (List.pairwise_append.1 (hspaced.sublist hbegins.sublist)).1).2.2
        exact .inr (hpairs _ hrest _ List.mem_cons_self)
      · exact .inl (congrArg (·.timestamp.toNat) (List.mem_singleton.1 hlast))
    obtain ⟨hlow, hhigh⟩ := period_of_network hnetwork
    have hage := age_le (by omega) hperiod hold hstep (hsteps encoder hencoder hmessage)
    rw [Carriers.moved_of_ne hid]
    exact ⟨carrier, hbegins.subset (List.mem_append_left _ hcarrier), hshows, by omega, by omega,
      hage⟩

/-- The frames of the next state. -/
theorem Pipeline.Detecting.batch
    (h : pipeline.Detecting carriers id (shown + 200000) (shown + 210000 + step))
    (hshows : RunShows configuration id shown states)
    (hcurrent : carriers.Current configuration.scenario before)
    (hcarriers : ∀ arbitrationId carrier, carriers arbitrationId = some carrier → carrier ∈ before)
    (hbegins : before ++ [state] <+: states)
    (hincreasing : states.Pairwise (fun left right => left.timestamp < right.timestamp))
    (hspaced : states.Pairwise
      (fun left right => left.timestamp.toNat + step ≤ right.timestamp.toNat))
    (hrange : ∀ other ∈ states, other.timestamp.toNat + 100000 ≤ maximumUInt64.toNat)
    (hfirst : before = [] → state.timestamp.toNat = 0)
    (hlater : ∀ previous ∈ before.getLast?,
      state.timestamp.toNat = previous.timestamp.toNat + step)
    (hsteps : ∀ encoder ∈ id.encoders, encoder.message ≠ dmeFastEngine →
      step ≤ 2 * encoder.period)
    (hbatch : TookAll messageDecode configuration.faults carriers pipeline
      ((dueAfter configuration before state).map (·, state)) last reached) :
    reached.Detecting last id (shown + 200000) (shown + 210000 + step) := by
  have hbegun := hincreasing.sublist hbegins.sublist
  have hbounds := fun other hmem => hrange other (hbegins.subset hmem)
  by_cases hnone : dueAfter configuration before state = []
  · rw [hnone] at hbatch
    cases hbatch
    exact h
  · have hdue := dmeFastEngine_due hbegun hbounds hnone
    have hmoved : last dmeFastEngineEncoder.message.arbitrationId = some state := by
      rw [hbatch.carriers_eq]
      exact (carriers.after_batch _ state).1 hdue
    have hstarted : (pipeline.ruleState id.rule).StartedBy state.timestamp.toNat := by
      intro started htimer
      obtain ⟨engine, hengine, hle⟩ := h.started started htimer
      have hearlier := (List.pairwise_append.1 hbegun).2.2 engine (hcarriers _ _ hengine) state
        List.mem_cons_self
      exact hle.trans (UInt64.lt_iff_toNat_lt.1 hearlier).le
    refine ⟨fun started htimer => ⟨state, hmoved, ?_⟩, fun engine hengine hlate => ?_⟩
    · exact hbatch.startedBy_batch id.rule_mem hstarted started htimer
    · cases hmoved.symm.trans hengine
      have hsome : before ≠ [] := fun hnil => by
        have hzero := hfirst hnil
        omega
      obtain ⟨rest, hrest⟩ := dueAfter_eq_cons hdue
      rw [hrest] at hbatch
      refine hbatch.confirms_batch hshows
        (hbegins.subset (List.mem_append_right _ List.mem_cons_self)) (by omega)
        (within_of_current hcurrent hbegins hspaced hlater hsome hsteps hlate) hstarted ?_
      -- the timer was running at the last fast engine frame, or that one was before the fault showed
      obtain ⟨others, previous, rfl⟩ := (List.eq_nil_or_concat' before).resolve_left hsome
      obtain ⟨engine, -, hengine, hperiod⟩ := hcurrent.enabled _ dmeFastEngine_mem_network
        (enabled_dmeFastEngine _) previous (List.getLast?_concat ..)
      have hstep := hlater previous (List.getLast?_concat ..)
      have htenth : engine.timestamp.toNat / 10000 = previous.timestamp.toNat / 10000 := hperiod
      obtain hearly | hrunning := lt_or_ge engine.timestamp.toNat (shown + 200000)
      · exact .inl (by omega)
      · exact .inr ⟨_, h.confirms engine hengine hrunning⟩

end Step

/-! ## What a run shows -/

section Run

variable {exp : ℚ → ℚ} {configuration : SimulationRunConfiguration}
  {fresh network : VehicleNetworkSimulation} {count : ℕ} {states : List VehicleState}
  {fault : FaultConfiguration}

/-- What every state of a run with the fault keeps. -/
structure VehicleState.Follows (state : VehicleState) (configuration : SimulationRunConfiguration)
    (fault : FaultConfiguration) : Prop where
  runs : state.EngineRuns configuration
  pressure : state.PressureFits configuration
  responds : (∀ time ∈ fault.deactivationTime, state.timestamp < time) →
    state.Responds configuration fault

theorem VehicleState.Follows.advanced {simulation : VehicleSimulation} {inputs : ScenarioInputs}
    (hexp : IsDecay exp) (hconsistent : simulation.Consistent)
    (hrunning : simulation.state.runState = .running)
    (hinputs : scenarioInputsFor simulation.configuration.scenario
      (simulation.clock.timestamp + simulation.clock.fixedStep)
      simulation.configuration.environment = .ok inputs)
    (hfault : fault ∈ simulation.configuration.faults)
    (h : simulation.state.Follows simulation.configuration fault) :
    (simulation.advanced exp inputs).state.Follows simulation.configuration fault := by
  have hlater : (simulation.clock.timestamp + simulation.clock.fixedStep).toNat =
      simulation.state.timestamp.toNat + simulation.configuration.fixedStep.toNat := by
    rw [hconsistent.timestamp]
    exact (VehicleSimulation.toNat_add_fixedStep hconsistent hrunning).1
  refine ⟨h.runs.nextState hinputs, h.pressure.nextState hexp.factor hconsistent
    (wellFormed_of_inputs hconsistent hinputs) _,
    fun hbefore => ?_⟩
  have hbeforeNow : ∀ time ∈ fault.deactivationTime, simulation.state.timestamp < time := by
    intro time htime
    have hlt := UInt64.lt_iff_toNat_lt.1 (hbefore time htime)
    refine UInt64.lt_iff_toNat_lt.2 (lt_of_le_of_lt ?_ hlt)
    exact (Nat.le_add_right _ _).trans hlater.ge
  exact (h.responds hbeforeNow).nextState hexp hconsistent h.runs hinputs hfault hbefore hlater

theorem runTicks_follows (hexp : IsDecay exp)
    (hcreate : VehicleNetworkSimulation.create configuration {} {} = .ok fresh)
    (hfault : fault ∈ configuration.faults)
    (hrun : fresh.runTicks exp count = .ok (states, network)) :
    ∀ state ∈ states, state.Follows configuration fault := by
  refine runTicks_forall (·.Follows configuration fault) hcreate
    (fun state haccepted hmake => ⟨engineRuns_initial haccepted hmake,
      pressureFits_initial haccepted hmake, fun _ => responds_initial hmake fault⟩) ?_ hrun
  rintro vehicle inputs rfl hconsistent hrunning hinputs hfollows
  exact hfollows.advanced hexp hconsistent hrunning hinputs hfault

/-- The speeds of some states fit, and move as drivetrains move them. -/
structure SpeedsMove (scenario : ScenarioId) (states : List VehicleState) : Prop where
  fits : ∀ state ∈ states, SpeedFits scenario state.vehicleSpeedMetersPerSecond
  moves : ∀ earlier ∈ states, ∀ later ∈ states,
    earlier.timestamp.toNat ≤ later.timestamp.toNat →
    SpeedMoves (secondsSince earlier.timestamp.toNat later.timestamp)
      earlier.vehicleSpeedMetersPerSecond later.vehicleSpeedMetersPerSecond

theorem secondsSince_self (timestamp : UInt64) : secondsSince timestamp.toNat timestamp = 0 :=
  secondsSince_of_le le_rfl

/-- One more state, a step after the last. -/
theorem SpeedsMove.advanced {scenario : ScenarioId} {last next : VehicleState} {step : ℕ}
    (h : SpeedsMove scenario states) (hlast : last ∈ states)
    (hlatest : ∀ state ∈ states, state.timestamp.toNat ≤ last.timestamp.toNat)
    (hpositive : 0 < step) (hlater : next.timestamp.toNat = last.timestamp.toNat + step)
    (hfits : SpeedFits scenario next.vehicleSpeedMetersPerSecond)
    (hmoves : SpeedMoves ((step : ℚ) / kMicrosecondsPerSecond)
      last.vehicleSpeedMetersPerSecond next.vehicleSpeedMetersPerSecond) :
    SpeedsMove scenario (states ++ [next]) := by
  constructor
  · intro state hmem
    obtain hold | hnew := List.mem_append.1 hmem
    · exact h.fits state hold
    · exact List.mem_singleton.1 hnew ▸ hfits
  · intro earlier hearlier later hlaterMem hle
    obtain hold | hnew := List.mem_append.1 hlaterMem
    · obtain hbefore | hself := List.mem_append.1 hearlier
      · exact h.moves earlier hbefore later hold hle
      · rw [List.mem_singleton.1 hself] at hle
        have hbound := hlatest later hold
        omega
    · cases List.mem_singleton.1 hnew
      obtain hbefore | hself := List.mem_append.1 hearlier
      · have hbound := hlatest earlier hbefore
        have hseconds : secondsSince earlier.timestamp.toNat next.timestamp =
            secondsSince earlier.timestamp.toNat last.timestamp +
              (step : ℚ) / kMicrosecondsPerSecond := by
          rw [secondsSince, secondsSince, ← add_div, ← Nat.cast_add, hlater]
          congr 2
          omega
        rw [hseconds]
        exact (h.moves earlier hbefore last hlast hbound).trans
          (div_nonneg (Nat.cast_nonneg _) (by norm_num [kMicrosecondsPerSecond])) hmoves
      · rw [List.mem_singleton.1 hself, secondsSince_self]
        exact speedMoves_refl _

/-- A vehicle that starts slow enough starts with a speed that fits. -/
theorem speedFits_initial {state : VehicleState} (haccepted : configuration.IsAccepted)
    (hmake : makeInitialState configuration = .ok state)
    (hslow : configuration.initialConditions.vehicleSpeedMetersPerSecond ≤ maximumDetectableSpeed) :
    SpeedFits configuration.scenario state.vehicleSpeedMetersPerSecond := by
  obtain ⟨-, -, -, hspeed⟩ := VehicleSimulation.initialState_start hmake
  have hmotion := haccepted.initialMotion
  rw [SimulationRunConfiguration.InitialMotionFits] at hmotion
  rw [hspeed]
  split at hmotion
  · next hpull => exact ⟨hmotion.1.le, hslow, fun _ hne => absurd hpull hne⟩
  · exact ⟨hmotion.1.ge, hslow, fun _ _ => hmotion.1⟩

theorem runTicks_speeds (exp : ℚ → ℚ)
    (hcreate : VehicleNetworkSimulation.create configuration {} {} = .ok fresh)
    (hslow : configuration.initialConditions.vehicleSpeedMetersPerSecond ≤ maximumDetectableSpeed)
    (hstep : configuration.fixedStep.toNat ≤ 1000000)
    (hrun : fresh.runTicks exp count = .ok (states, network)) :
    SpeedsMove configuration.scenario states := by
  obtain ⟨states', reached, hrun', -, -, -, -, hmove⟩ : ∃ states reached,
      fresh.runTicks exp count = .ok (states, reached) ∧ reached.vehicleSimulation.Consistent ∧
        reached.vehicleSimulation.configuration = configuration ∧
        reached.vehicleSimulation.state ∈ states ∧
        (∀ state ∈ states,
          state.timestamp.toNat ≤ reached.vehicleSimulation.state.timestamp.toNat) ∧
        SpeedsMove configuration.scenario states := by
    obtain ⟨hconsistent, hconfiguration, hstate, -, -⟩ :=
      VehicleSimulation.create_spec (vehicleSimulation_of_create hcreate)
    have hinitial : SpeedFits configuration.scenario
        fresh.vehicleSimulation.state.vehicleSpeedMetersPerSecond := by
      rw [hstate]
      exact speedFits_initial (hconfiguration ▸ hconsistent.accepted)
        (hconfiguration ▸ hconsistent.initialState) hslow
    refine runTicks_induction
      (fun states reached => reached.vehicleSimulation.configuration = configuration ∧
        reached.vehicleSimulation.state ∈ states ∧
        (∀ state ∈ states,
          state.timestamp.toNat ≤ reached.vehicleSimulation.state.timestamp.toNat) ∧
        SpeedsMove configuration.scenario states) hconsistent
      ⟨hconfiguration, List.mem_singleton_self _,
        fun state hmem => List.mem_singleton.1 hmem ▸ le_rfl, ?_, ?_⟩ ?_ count
    · exact fun state hmem => List.mem_singleton.1 hmem ▸ hinitial
    · intro earlier hearlier later hlater _
      rw [List.mem_singleton.1 hearlier, List.mem_singleton.1 hlater, secondsSince_self]
      exact speedMoves_refl _
    · rintro states reached inputs hreached hrunning hinputs ⟨rfl, hlast, hlatest, hmove⟩
      have hlater : (reached.vehicleSimulation.advanced exp inputs).state.timestamp.toNat =
          reached.vehicleSimulation.state.timestamp.toNat +
            reached.vehicleSimulation.configuration.fixedStep.toNat := by
        rw [hreached.timestamp]
        exact (VehicleSimulation.toNat_add_fixedStep hreached hrunning).1
      have hdelta : reached.vehicleSimulation.deltaTimeSeconds =
          (reached.vehicleSimulation.configuration.fixedStep.toNat : ℚ) /
            kMicrosecondsPerSecond := by
        rw [VehicleSimulation.deltaTimeSeconds, hreached.fixedStep]
      have hone : reached.vehicleSimulation.deltaTimeSeconds ≤ 1 := by
        rw [hdelta, div_le_one (by norm_num [kMicrosecondsPerSecond])]
        exact le_of_le_of_eq (Nat.cast_le.2 hstep) (by norm_num [kMicrosecondsPerSecond])
      obtain ⟨hfits, hmoves⟩ := @nextState_speed exp _ _ hreached
        (wellFormed_of_inputs hreached hinputs) hone (hmove.fits _ hlast)
        (reached.vehicleSimulation.clock.timestamp + reached.vehicleSimulation.clock.fixedStep)
      rw [hdelta] at hmoves
      refine ⟨rfl, List.mem_append_right _ List.mem_cons_self, fun state hmem => ?_,
        hmove.advanced hlast hlatest (VehicleSimulation.fixedStep_pos hreached) hlater hfits hmoves⟩
      obtain hold | hnew := List.mem_append.1 hmem
      · exact (hlatest state hold).trans ((Nat.le_add_right _ _).trans hlater.ge)
      · exact List.mem_singleton.1 hnew ▸ le_rfl
  rw [hrun] at hrun'
  cases hrun'
  exact hmove

/-- From its onset and its delay on, a fault that goes on acting shows in every state of a run. -/
theorem runShows_of_runTicks (hexp : IsDecay exp)
    (hcreate : VehicleNetworkSimulation.create configuration {} {} = .ok fresh)
    (hrun : fresh.runTicks exp count = .ok (states, network))
    (hfault : fault ∈ configuration.faults) (hexposes : configuration.Exposes fault.id)
    (hacting : ∀ state ∈ states, ∀ time ∈ fault.deactivationTime, state.timestamp < time)
    (hstep : fault.id = .frontLeftWheelSpeedSensorBias →
      configuration.fixedStep.toNat ≤ 1000000) :
    RunShows configuration fault.id
      (fault.onset configuration + configuration.delay fault.id) states := by
  have hfollows := runTicks_follows hexp hcreate hfault hrun
  have hspeeds : fault.id = .frontLeftWheelSpeedSensorBias →
      SpeedsMove configuration.scenario states := by
    intro hwheel
    rw [hwheel] at hexposes
    exact runTicks_speeds exp hcreate hexposes (hstep hwheel) hrun
  constructor
  · intro state hmem hlate
    have hstate := hfollows state hmem
    exact showsFault_of_responds hfault hstate.runs (hstate.responds (hacting state hmem))
      hstate.pressure (fun hwheel => (hspeeds hwheel).fits state hmem) hexposes
      (hacting state hmem) hlate
  · intro hwheel earlier hearlier later hlater hle hnear
    refine ((hspeeds hwheel).moves earlier hearlier later hlater hle).abs_sub_lt
      ((hspeeds hwheel).fits later hlater).nonneg ?_
    have hmicroseconds : ((later.timestamp.toNat - earlier.timestamp.toNat : ℕ) : ℚ) ≤ 40000 := by
      exact_mod_cast Nat.sub_le_iff_le_add'.2 hnear
    rw [secondsSince, div_le_iff₀ (by norm_num [kMicrosecondsPerSecond])]
    norm_num [kMicrosecondsPerSecond] at hmicroseconds ⊢
    exact hmicroseconds

end Run

/-! ## Every fault that goes on acting is confirmed -/

/-- Every rule of a fault reads a message besides the fast engine one, which bounds the step. -/
theorem fixedStep_le_of_encoders {id : FaultId} {step : ℕ}
    (hsteps : ∀ encoder ∈ id.encoders, encoder.message ≠ dmeFastEngine →
      step ≤ 2 * encoder.period) : step ≤ 200000 := by
  obtain ⟨encoder, hencoder, hother, hperiod⟩ : ∃ encoder ∈ id.encoders,
      encoder.message ≠ dmeFastEngine ∧ encoder.period ≤ 100000 := by
    cases id
    · exact ⟨_, List.mem_cons_self, by decide, by decide⟩
    · exact ⟨_, List.mem_cons_self, by decide, by decide⟩
    · exact ⟨_, List.mem_cons_self, by decide, by decide⟩
    · exact ⟨_, List.mem_cons_self, by decide, by decide⟩
  have hbound := hsteps encoder hencoder hother
  omega

/-- However a live source's stream is segmented, a configured fault that goes on acting is confirmed:
half a second after its delay and the confirmation time of its rule at the latest, its trouble code
is active, and it stays so while the fault acts. The simulation step must not be more than two
periods of the messages that the rule reads besides the fast engine one. -/
theorem faults_are_confirmed {exp : ℚ → ℚ} (hexp : IsDecay exp) (sha256 : Bytes → Sha256Digest)
    {configuration : SimulationRunConfiguration} {count : ℕ} {states : List VehicleState}
    {connection : Except PyException FrameStream}
    (hreads : ReadsGateway exp configuration count states connection)
    (hrange : configuration.duration.toNat + 100000 ≤ maximumUInt64.toNat)
    {messageDecode : DbcMessage → Bytes → Option (Dict String CanmatrixValue)}
    (hdecodes : DecodesIntel messageDecode) {recorder : SessionRecorder} {initial : SessionManifest}
    (hrecorded : recorder.Recorded initial []) {fault : FaultConfiguration}
    (hfault : fault ∈ configuration.faults) (hexposes : configuration.Exposes fault.id)
    (hsteps : ∀ encoder ∈ fault.id.encoders, encoder.message ≠ dmeFastEngine →
      configuration.fixedStep.toNat ≤ 2 * encoder.period)
    {last : VehicleState} (hlast : states.getLast? = some last)
    (hacting : ∀ time ∈ fault.deactivationTime, last.timestamp < time)
    (hlong : fault.onset configuration + configuration.delay fault.id +
      fault.id.rule.definition.confirmationDurationMicroseconds + 500000 ≤
        last.timestamp.toNat) :
    ((runGateway sha256 (.packaged messageDecode) recorder
      connection).pipeline.diagnostics.states fault.id.rule.code).status = some .active := by
  obtain ⟨fresh, network, delivered, hcreate, hrun, hconsistent, rfl, hpublished, -⟩ :=
    hreads.delivers
  obtain ⟨carriers, htook, -⟩ := hreads.took hdecodes sha256 hrecorded
  have htimes := hpublished.timestamps (VehicleSimulation.fixedStep_pos hconsistent)
  have hwithin := hpublished.add_le hconsistent hrange
  obtain ⟨front, rfl⟩ := List.getLast?_eq_some_iff.1 hlast
  have hactingAll : ∀ state ∈ front ++ [last], ∀ time ∈ fault.deactivationTime,
      state.timestamp < time := by
    intro state hmem time htime
    obtain hearlier | hfinal := List.mem_append.1 hmem
    · have hlt := (List.pairwise_append.1 htimes).2.2 state hearlier last List.mem_cons_self
      exact UInt64.lt_trans hlt (hacting time htime)
    · exact List.mem_singleton.1 hfinal ▸ hacting time htime
  have hstep := fixedStep_le_of_encoders hsteps
  have hshows := runShows_of_runTicks hexp hcreate hrun hfault hexposes hactingAll
    fun _ => hstep.trans (by decide)
  obtain ⟨⟨hcurrent, -⟩, hdetecting⟩ := htook.states_induction
    (fun taken carriers pipeline =>
      (carriers.Current network.vehicleSimulation.configuration.scenario taken ∧
        ∀ arbitrationId carrier, carriers arbitrationId = some carrier → carrier ∈ taken) ∧
      pipeline.Detecting carriers fault.id
        (fault.onset network.vehicleSimulation.configuration +
          network.vehicleSimulation.configuration.delay fault.id + 200000)
        (fault.onset network.vehicleSimulation.configuration +
          network.vehicleSimulation.configuration.delay fault.id + 210000 +
          network.vehicleSimulation.configuration.fixedStep.toNat))
    ⟨⟨⟨fun _ _ _ _ hmem => (Option.not_mem_none _ hmem).elim, fun _ _ _ => rfl⟩,
        fun _ _ hcarrier => (Option.some_ne_none _ hcarrier.symm).elim⟩,
      fun _ htimer => (Option.some_ne_none _ htimer.symm).elim,
      fun _ hengine => (Option.some_ne_none _ hengine.symm).elim⟩
    (fun before state middle between after reached hbegins hholds hbatch => by
      obtain ⟨⟨hcurrent, hcarriers⟩, hdetecting⟩ := hholds
      have hincreasing := htimes.sublist hbegins.sublist
      have hbounds := fun other hmem => hwithin other (hbegins.subset hmem)
      refine ⟨⟨hbatch.carriers_eq ▸ hcurrent.batch hincreasing hbounds, ?_⟩,
        hdetecting.batch hshows hcurrent hcarriers hbegins htimes hpublished.spaced hwithin ?_
          (fun previous hprevious => hpublished.step hbegins hprevious) hsteps hbatch⟩
      · intro arbitrationId carrier hcarrier
        rw [hbatch.carriers_eq] at hcarrier
        rcases Carriers.mem_of_after hcarrier with hkept | ⟨pair, hmem, rfl⟩
        · exact List.mem_append_left _ (hcarriers _ _ hkept)
        · obtain ⟨due, -, rfl⟩ := List.mem_map.1 hmem
          exact List.mem_append_right _ List.mem_cons_self
      · rintro rfl
        exact hpublished.head_timestamp hbegins)
  obtain ⟨engine, -, hengine, hperiod⟩ := hcurrent.enabled _ dmeFastEngine_mem_network
    (enabled_dmeFastEngine _) last hlast
  have htenth : engine.timestamp.toNat / 10000 = last.timestamp.toNat / 10000 := hperiod
  rcases hdetecting.confirms engine hengine (by omega) with
    hactive | ⟨-, started, -, hle, hearly⟩
  · exact hactive
  · omega

/-- The default idle run with a biased manifold pressure sensor. -/
def biasedConfiguration : SimulationRunConfiguration :=
  { makeDefaultIdleRunConfiguration {} with
    faults := [⟨.mapSensorBias, 0, none⟩] }

/-- The bias is confirmed within three seconds. -/
theorem biased_map_is_confirmed :
    ∃ states connection, ReadsGateway reciprocalDecay biasedConfiguration 300 states connection ∧
      ((runGateway (fun _ => someDigest) (.packaged DbcMessage.intelDecode) defaultRecorder
        connection).pipeline.diagnostics.states "TUN-DME-004").status = some .active := by
  have hvehicle : VehicleSimulation.create biasedConfiguration =
      .ok { VehicleSimulation.idleSimulation with configuration := biasedConfiguration } := by
    decide +kernel
  have hcreate : VehicleNetworkSimulation.create biasedConfiguration {} {} = .ok _ :=
    VehicleNetworkSimulation.create_eq hvehicle rfl
  obtain ⟨states, connection, hreads⟩ :=
    exists_reads_bytewise reciprocalDecay hcreate 300
  obtain ⟨last, hlast, htime⟩ := hreads.last_timestamp (by decide)
  have hfault : (⟨.mapSensorBias, 0, none⟩ : FaultConfiguration) ∈ biasedConfiguration.faults :=
    List.mem_cons_self
  have hexposes : biasedConfiguration.Exposes .mapSensorBias := by
    change (75.25 : ℚ) ≤ biasedConfiguration.environment.ambientPressureKpaAbsolute
    decide +kernel
  refine ⟨states, connection, hreads, ?_⟩
  exact faults_are_confirmed isDecay_reciprocal (fun _ => someDigest) hreads (by decide)
    decodesIntel_intelDecode defaultRecorder_recorded hfault hexposes (by decide +kernel) hlast
    (fun _ hcleared => (Option.not_mem_none _ hcleared).elim) (by rw [htime]; decide)

end TunerOs
