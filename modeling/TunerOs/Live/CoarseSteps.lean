-- SUMMARY: When a simulation step is more than two periods of a message, the rules that read it never confirm a trouble code.
import TunerOs.Diagnostics.Lifetime
import TunerOs.Live.Currency
import TunerOs.Live.RuleInputs

/-!
# Coarse simulation steps

The fast engine frame is the first of a state's frames. If the step is coarser than two
periods of a message, the message's carrier is stale there, so every batch of frames
stops the confirmation timer of the rules that read the message. A timer that never
outlives the frames of one state confirms nothing.
-/

namespace TunerOs

open Containers VehicleNetworkSimulation VehicleNetworkPublisher

/-! ## A rule whose timer does not get old -/

/-- The rule has no record but a pending one that was never confirmed. -/
structure RuleState.Unconfirmed (state : RuleState) : Prop where
  record : ∀ dtc ∈ state.dtc, dtc.status = .pending ∧
    dtc.confirmedTimestampMicroseconds = none ∧ dtc.occurrenceCount = 0
  origin : state.pendingOrigin = none

/-- The confirmation timer, if it runs, was started at this time. -/
def RuleState.StartedAt (state : RuleState) (timestamp : ℕ) : Prop :=
  ∀ started ∈ state.conditionStartedTimestampMicroseconds, started = timestamp

namespace DiagnosticRule

variable {rule : DiagnosticRule} {state : RuleState} {snapshot : TelemetrySnapshot} {timestamp : ℕ}

theorem unconfirmed_fresh : RuleState.Unconfirmed {} := ⟨nofun, rfl⟩

theorem inactive_of_unconfirmed (h : state.Unconfirmed) : state.status ≠ some .active := by
  intro hactive
  obtain ⟨dtc, hdtc, hstatus⟩ := Option.map_eq_some_iff.1 hactive
  rw [(h.record dtc hdtc).1] at hstatus
  cases hstatus

/-- Entering `PENDING` keeps a record unconfirmed and starts no earlier timer. -/
theorem enterPending_unconfirmed (rule : DiagnosticRule) (h : state.Unconfirmed)
    (hstarted : state.StartedAt timestamp) :
    (rule.enterPending state timestamp).started = timestamp ∧
      (rule.enterPending state timestamp).origin = none ∧
      ((rule.enterPending state timestamp).record.status = .pending ∧
        (rule.enterPending state timestamp).record.confirmedTimestampMicroseconds = none ∧
        (rule.enterPending state timestamp).record.occurrenceCount = 0) := by
  cases hdtc : state.dtc with
  | none =>
    simp only [enterPending, hdtc, pendingRecord, and_self]
  | some dtc =>
    obtain ⟨hstatus, hconfirmed, hcount⟩ := h.record dtc hdtc
    rw [enterPending_again hdtc hstatus]
    refine ⟨?_, h.origin, hstatus, hconfirmed, hcount⟩
    cases htimer : state.conditionStartedTimestampMicroseconds with
    | none => rfl
    | some started => exact hstarted started htimer

/-- One evaluation at the time at which the timer was started confirms nothing. -/
theorem evaluate_unconfirmed (snapshot : TelemetrySnapshot)
    (hconfirmation : 0 < rule.definition.confirmationDurationMicroseconds)
    (h : state.Unconfirmed) (hstarted : state.StartedAt timestamp) :
    (rule.evaluate state snapshot timestamp).state.Unconfirmed ∧
      (rule.evaluate state snapshot timestamp).state.StartedAt timestamp := by
  by_cases hfresh : rule.InputsFresh snapshot
  · cases hcondition : rule.condition snapshot (state.status = some .active) with
    | error error =>
      rw [evaluate_error hfresh hcondition]
      exact ⟨h, hstarted⟩
    | ok result =>
      cases result with
      | violation =>
        have hseen : RuleState.Unconfirmed
            { state with recoveryStartedTimestampMicroseconds := none } := ⟨h.record, h.origin⟩
        obtain ⟨hentry, horigin, hrecord⟩ := enterPending_unconfirmed rule hseen hstarted
        rw [evaluate_violation hfresh hcondition,
          handleViolation_waiting (inactive_of_unconfirmed hseen) (by rw [hentry]; omega)]
        refine ⟨⟨?_, horigin⟩, ?_⟩
        · rintro dtc ⟨⟩
          exact hrecord
        · rintro started ⟨⟩
          exact hentry
      | normal =>
        rw [evaluate_normal hfresh hcondition]
        cases hdtc : state.dtc with
        | none =>
          rw [handleNormal_none hdtc]
          exact ⟨⟨h.record, h.origin⟩, nofun⟩
        | some dtc =>
          rw [handleNormal_pending hdtc (h.record dtc hdtc).1, h.origin]
          exact ⟨⟨nofun, rfl⟩, nofun⟩
  · rw [evaluate_stale hfresh]
    exact ⟨⟨h.record, h.origin⟩, nofun⟩

end DiagnosticRule

/-! ## Batches of frames -/

section Batches

variable {messageDecode : DbcMessage → Bytes → Option (Dict String CanmatrixValue)}
  {faults : List FaultConfiguration} {carriers last : Carriers} {pipeline reached : Pipeline}
  {rule : DiagnosticRule} {state : VehicleState} {timestamp : ℕ}

/-- What a default rule has recorded in a pipeline. -/
abbrev Pipeline.ruleState (pipeline : Pipeline) (rule : DiagnosticRule) : RuleState :=
  pipeline.diagnostics.states rule.code

/-- Every default rule takes some time to confirm. -/
theorem confirmation_pos (hrule : rule ∈ defaultRules) :
    0 < rule.definition.confirmationDurationMicroseconds := by
  have hall : ∀ rule ∈ defaultRules, 0 < rule.definition.confirmationDurationMicroseconds := by
    simp only [defaultRules, List.forall_mem_cons]
    decide
  exact hall rule hrule

/-- The frames of one state confirm nothing, if no timer ran before them. -/
theorem TookAll.unconfirmed_batch {encoders : List FrameEncoder} (hrule : rule ∈ defaultRules)
    (hbatch : TookAll messageDecode faults carriers pipeline (encoders.map (·, state)) last reached)
    (h : (pipeline.ruleState rule).Unconfirmed)
    (hstarted : (pipeline.ruleState rule).StartedAt state.timestamp.toNat) :
    (reached.ruleState rule).Unconfirmed := by
  induction encoders generalizing carriers pipeline with
  | nil =>
    cases hbatch
    exact h
  | cons encoder rest ih =>
    cases hbatch with
    | cons took later =>
      obtain ⟨snapshot, -, -, hevaluated⟩ := took.evaluated
      obtain ⟨hnext, hnextStarted⟩ := DiagnosticRule.evaluate_unconfirmed snapshot
        (confirmation_pos hrule) h hstarted
      rw [← (hevaluated rule hrule).2] at hnext hnextStarted
      exact ih later hnext hnextStarted

end Batches

section Blind

variable {messageDecode : DbcMessage → Bytes → Option (Dict String CanmatrixValue)}
  {configuration : SimulationRunConfiguration} {carriers last : Carriers}
  {pipeline reached : Pipeline} {rule : DiagnosticRule} {encoder : FrameEncoder}
  {signal : DbcSignal} {before : List VehicleState} {state : VehicleState}

/-- The fast engine frame is the first of those that are due with it. -/
theorem dueAfter_eq_cons (hdue : dmeFastEngineEncoder ∈ dueAfter configuration before state) :
    ∃ rest, dueAfter configuration before state = dmeFastEngineEncoder :: rest := by
  have hsome := (List.mem_filter.1 hdue).2
  exact ⟨_, List.filter_cons_of_pos hsome⟩

/-- A frame of one message at which another one's carrier is stale stops the timers of the rules
that read the other one. -/
theorem Pipeline.Took.stopped {faults : List FaultConfiguration} {timestamp : ℕ} {next : Pipeline}
    (took : Pipeline.Took messageDecode faults carriers timestamp pipeline next)
    (hrule : rule ∈ defaultRules) (hencoder : encoder ∈ networkEncoders)
    (hsignal : signal ∈ encoder.message.signals)
    (hrequired : encoder.key signal ∈ rule.definition.requiredSignals)
    (hstale : ¬ carriers.FreshAt encoder timestamp)
    (h : (pipeline.ruleState rule).Unconfirmed) :
    (next.ruleState rule).Unconfirmed ∧
      (next.ruleState rule).conditionStartedTimestampMicroseconds = none := by
  obtain ⟨snapshot, -, hobserves, hevaluated⟩ := took.evaluated
  have hunfresh : ¬ rule.InputsFresh snapshot := fun hfresh =>
    hstale ((hobserves.fresh encoder hencoder signal hsignal).1 (hfresh _ hrequired))
  rw [Pipeline.ruleState, (hevaluated rule hrule).2, DiagnosticRule.evaluate_stale hunfresh]
  exact ⟨⟨h.record, h.origin⟩, rfl⟩

/-- The frames of a state that is more than two periods after the one before confirm nothing. -/
theorem TookAll.blind_batch (hrule : rule ∈ defaultRules) (hencoder : encoder ∈ networkEncoders)
    (hsignal : signal ∈ encoder.message.signals)
    (hrequired : encoder.key signal ∈ rule.definition.requiredSignals)
    (hother : encoder.message.arbitrationId ≠ dmeFastEngine.arbitrationId)
    (hcoarse : ∀ previous ∈ before,
      previous.timestamp.toNat + 2 * encoder.period < state.timestamp.toNat)
    (hdue : dmeFastEngineEncoder ∈ dueAfter configuration before state)
    (hcarriers : ∀ arbitrationId carrier, carriers arbitrationId = some carrier → carrier ∈ before)
    (hbatch : TookAll messageDecode configuration.faults carriers pipeline
      ((dueAfter configuration before state).map (·, state)) last reached)
    (h : (pipeline.ruleState rule).Unconfirmed) : (reached.ruleState rule).Unconfirmed := by
  obtain ⟨rest, hrest⟩ := dueAfter_eq_cons hdue
  rw [hrest, List.map_cons] at hbatch
  cases hbatch with
  | cons took later =>
    have hstale : ¬ (carriers.moved dmeFastEngineEncoder state).FreshAt encoder
        state.timestamp.toNat := by
      rintro ⟨carrier, hcarrier, hage⟩
      rw [Carriers.moved_of_ne hother] at hcarrier
      have hold := hcoarse carrier (hcarriers _ _ hcarrier)
      omega
    obtain ⟨hnext, hnone⟩ := took.stopped hrule hencoder hsignal hrequired hstale h
    refine later.unconfirmed_batch hrule hnext fun started hstarted => ?_
    rw [hnone] at hstarted
    cases hstarted

end Blind

/-- If the simulation step is more than two periods of a message other than the fast engine one,
a live source never confirms the trouble code of a rule that reads the message, whatever the faults
are and however many rounds it reads: a record it has is pending, and never was anything else. -/
theorem coarse_steps_blind_rules (exp : ℚ → ℚ) (sha256 : Bytes → Sha256Digest)
    {configuration : SimulationRunConfiguration} {count : ℕ} {states : List VehicleState}
    {connection : Except PyException FrameStream}
    (hreads : ReadsGateway exp configuration count states connection)
    (hrange : configuration.duration.toNat + 100000 ≤ maximumUInt64.toNat)
    {messageDecode : DbcMessage → Bytes → Option (Dict String CanmatrixValue)}
    (hdecodes : DecodesIntel messageDecode) {recorder : SessionRecorder} {initial : SessionManifest}
    (hrecorded : recorder.Recorded initial []) {rule : DiagnosticRule} (hrule : rule ∈ defaultRules)
    {encoder : FrameEncoder} (hencoder : encoder ∈ networkEncoders)
    (hother : encoder.message ≠ dmeFastEngine) {signal : DbcSignal}
    (hsignal : signal ∈ encoder.message.signals)
    (hrequired : encoder.key signal ∈ rule.definition.requiredSignals)
    (hcoarse : 2 * encoder.period < configuration.fixedStep.toNat) :
    ∀ dtc ∈ ((runGateway sha256 (.packaged messageDecode) recorder
        connection).pipeline.diagnostics.states rule.code).dtc,
      dtc.status = .pending ∧ dtc.confirmedTimestampMicroseconds = none ∧
        dtc.occurrenceCount = 0 := by
  obtain ⟨fresh, network, delivered, -, -, hconsistent, rfl, hpublished, -⟩ := hreads.delivers
  obtain ⟨carriers, htook, -⟩ := hreads.took hdecodes sha256 hrecorded
  have htimes := hpublished.timestamps (VehicleSimulation.fixedStep_pos hconsistent)
  have hwithin := hpublished.add_le hconsistent hrange
  have hid : encoder.message.arbitrationId ≠ dmeFastEngine.arbitrationId := fun heq => by
    have hsame := (Pipeline.networkEncoders_inj hencoder dmeFastEngine_mem_network).2 heq
    exact hother (hsame ▸ rfl)
  have hperiod := (period_of_network hencoder).1
  obtain ⟨-, hunconfirmed⟩ := htook.states_induction
    (fun taken carriers pipeline =>
      (∀ arbitrationId carrier, carriers arbitrationId = some carrier → carrier ∈ taken) ∧
        (pipeline.ruleState rule).Unconfirmed)
    ⟨fun _ _ hcarrier => (Option.some_ne_none _ hcarrier.symm).elim,
      DiagnosticRule.unconfirmed_fresh⟩
    (fun before state middle between after reached hbegins hholds hbatch => by
      obtain ⟨hcarriers, hrecord⟩ := hholds
      have hincreasing := htimes.sublist hbegins.sublist
      have hlater : ∀ previous ∈ before.getLast?, state.timestamp.toNat =
          previous.timestamp.toNat + network.vehicleSimulation.configuration.fixedStep.toNat :=
        fun previous hprevious => hpublished.step hbegins hprevious
      constructor
      · intro arbitrationId carrier hcarrier
        rw [hbatch.carriers_eq] at hcarrier
        rcases Carriers.mem_of_after hcarrier with hkept | ⟨pair, hmem, rfl⟩
        · exact List.mem_append_left _ (hcarriers _ _ hkept)
        · obtain ⟨due, -, rfl⟩ := List.mem_map.1 hmem
          exact List.mem_append_right _ List.mem_cons_self
      · refine hbatch.blind_batch hrule hencoder hsignal hrequired hid ?_ ?_ hcarriers hrecord
        · intro earlier hearlier
          obtain ⟨rest, previous, rfl⟩ :=
            (List.eq_nil_or_concat' before).resolve_left (List.ne_nil_of_mem hearlier)
          have hstep := hlater previous (List.getLast?_concat ..)
          have hle : earlier.timestamp.toNat ≤ previous.timestamp.toNat := by
            obtain hrest | hlast := List.mem_append.1 hearlier
            · have hcross := (List.pairwise_append.1 (List.pairwise_append.1 hincreasing).1).2.2
              exact (UInt64.lt_iff_toNat_lt.1 (hcross _ hrest _ List.mem_cons_self)).le
            · rw [List.mem_singleton.1 hlast]
          omega
        · rw [mem_dueAfter_iff _ dmeFastEngine_mem_network hincreasing
            (fun other hmem => hwithin other (hbegins.subset hmem))]
          refine ⟨enabled_dmeFastEngine _, fun previous hprevious => ?_⟩
          have hstep := hlater previous hprevious
          change previous.timestamp.toNat / 10000 < state.timestamp.toNat / 10000
          omega)
  exact hunconfirmed.record

/-- The default idle run with a biased wheel speed sensor and steps of fifty milliseconds. -/
def coarseConfiguration : SimulationRunConfiguration :=
  { makeDefaultIdleRunConfiguration {} with
    fixedStep := 50000
    faults := [⟨.frontLeftWheelSpeedSensorBias, 0, none⟩] }

/-- The biased sensor is not confirmed after a minute. -/
theorem biased_wheel_is_not_confirmed :
    ∃ states connection, ReadsGateway reciprocalDecay coarseConfiguration 1200 states connection ∧
      ∀ dtc ∈ ((runGateway (fun _ => someDigest) (.packaged DbcMessage.intelDecode) defaultRecorder
        connection).pipeline.diagnostics.states "TUN-DSC-001").dtc, dtc.status = .pending := by
  have hvehicle : VehicleSimulation.create coarseConfiguration =
      .ok { VehicleSimulation.idleSimulation with
        configuration := coarseConfiguration
        clock := { fixedStep := 50000 } } := by
    decide +kernel
  have hcreate : VehicleNetworkSimulation.create coarseConfiguration {} {} = .ok _ :=
    VehicleNetworkSimulation.create_eq hvehicle rfl
  obtain ⟨states, connection, hreads⟩ := exists_reads_bytewise reciprocalDecay hcreate 1200
  have hrule : wheelSpeedDisagreement ∈ defaultRules := List.mem_of_mem_getLast? rfl
  have hsignal : vehicleSpeedSource.signal ∈ dscVehicleMotionEncoder.message.signals := .head _
  refine ⟨states, connection, hreads, fun dtc hdtc => ?_⟩
  exact (coarse_steps_blind_rules reciprocalDecay (fun _ => someDigest) hreads (by decide)
    decodesIntel_intelDecode defaultRecorder_recorded hrule dscVehicleMotion_mem_network (by decide)
    hsignal (by decide) (by decide) dtc hdtc).1

end TunerOs
