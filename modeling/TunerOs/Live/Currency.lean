-- SUMMARY: The telemetry of a live source shows, for every enabled message, the vehicle as it was within one period of the message.
import TunerOs.Ecu.NetworkTiming
import TunerOs.Live.Source

/-!
# How current live telemetry is

After each state's frames the carrier of a message is a state in the same period of
the message as the last one. Samples are then less than a period old and fresh, and
a message that the scenario does not send is never shown.
-/

namespace TunerOs

open Containers VehicleNetworkSimulation VehicleNetworkPublisher

section Current

variable {messageDecode : DbcMessage → Bytes → Option (Dict String CanmatrixValue)}
  {configuration : SimulationRunConfiguration} {states : List VehicleState} {state : VehicleState}
  {carriers last : Carriers} {pipeline reached : Pipeline}

/-- The carriers of enabled messages are in the message's period of the last state. -/
structure Carriers.Current (carriers : Carriers) (scenario : ScenarioId)
    (states : List VehicleState) : Prop where
  enabled : ∀ encoder ∈ networkEncoders, encoder.Enabled scenario → ∀ final ∈ states.getLast?,
    ∃ carrier ∈ states, carriers encoder.message.arbitrationId = some carrier ∧
      carrier.timestamp.toNat / encoder.period = final.timestamp.toNat / encoder.period
  disabled : ∀ encoder ∈ networkEncoders, ¬ encoder.Enabled scenario →
    carriers encoder.message.arbitrationId = none

theorem dmeFastEngine_mem_network : dmeFastEngineEncoder ∈ networkEncoders :=
  List.mem_cons_self

theorem enabled_dmeFastEngine (scenario : ScenarioId) : dmeFastEngineEncoder.Enabled scenario := by
  have hother : dmeFastEngine ≠ dmeCombustionObservation := by decide
  exact fun heq => absurd heq hother

/-- Two encoders of the network that are not the same write different IDs. -/
theorem arbitrationId_ne_of_not_mem {encoders : List FrameEncoder} {encoder : FrameEncoder}
    (hnetwork : ∀ other ∈ encoders, other ∈ networkEncoders) (hencoder : encoder ∈ networkEncoders)
    (hnot : encoder ∉ encoders) :
    ∀ other ∈ encoders, other.message.arbitrationId ≠ encoder.message.arbitrationId := by
  intro other hother heq
  have hsame := (Pipeline.networkEncoders_inj (hnetwork other hother) hencoder).2 heq
  exact hnot (hsame ▸ hother)

/-- The frames of the next state keep the carriers current. -/
theorem Carriers.Current.batch (h : carriers.Current configuration.scenario states)
    (hincreasing : (states ++ [state]).Pairwise
      (fun left right => left.timestamp < right.timestamp))
    (hrange : ∀ other ∈ states ++ [state], other.timestamp.toNat + 100000 ≤ maximumUInt64.toNat) :
    (carriers.after ((dueAfter configuration states state).map (·, state))).Current
      configuration.scenario (states ++ [state]) := by
  have hnetwork := fun other =>
    @mem_networkEncoders_of_due
      ((defaultPublisher configuration).afterObservations states) state other
  have hkept : ∀ encoder ∈ networkEncoders,
      encoder ∉ dueAfter configuration states state →
      carriers.after ((dueAfter configuration states state).map (·, state))
        encoder.message.arbitrationId = carriers encoder.message.arbitrationId :=
    fun encoder hencoder hnot => (carriers.after_batch _ state).2
      (arbitrationId_ne_of_not_mem hnetwork hencoder hnot)
  constructor
  · intro encoder hencoder henabled final hfinal
    rw [List.getLast?_concat] at hfinal
    cases hfinal
    by_cases hdue : encoder ∈ dueAfter configuration states state
    · exact ⟨state, List.mem_append_right _ List.mem_cons_self, (carriers.after_batch _ state).1 hdue, rfl⟩
    · rw [hkept encoder hencoder hdue]
      rw [mem_dueAfter_iff configuration hencoder hincreasing hrange] at hdue
      -- the encoder is enabled and not due, so no period has passed since the state before
      obtain ⟨previous, hprevious, hnot⟩ : ∃ previous ∈ states.getLast?,
          ¬ previous.timestamp.toNat / encoder.period < state.timestamp.toNat / encoder.period := by
        by_contra hnone
        push Not at hnone
        exact hdue ⟨henabled, hnone⟩
      obtain ⟨carrier, hmem, hcarrier, hperiod⟩ := h.enabled encoder hencoder henabled previous hprevious
      have hearlier := (List.pairwise_append.1 hincreasing).2.2 previous
        (List.mem_of_getLast? hprevious) state List.mem_cons_self
      have hmono : previous.timestamp.toNat / encoder.period ≤
          state.timestamp.toNat / encoder.period :=
        Nat.div_le_div_right (UInt64.lt_iff_toNat_lt.1 hearlier).le
      exact ⟨carrier, List.mem_append_left _ hmem, hcarrier,
        hperiod.trans (le_antisymm hmono (not_lt.1 hnot))⟩
  · intro encoder hencoder hdisabled
    rw [hkept encoder hencoder, h.disabled encoder hencoder hdisabled]
    intro hdue
    rw [mem_dueAfter_iff configuration hencoder hincreasing hrange] at hdue
    exact hdisabled hdue.1

/-- Once the frames of states are received the carriers are current. -/
theorem Carriers.current_sentOf
    (hincreasing : states.Pairwise (fun left right => left.timestamp < right.timestamp))
    (hrange : ∀ other ∈ states, other.timestamp.toNat + 100000 ≤ maximumUInt64.toNat) :
    (Carriers.after (fun _ => none) ((defaultPublisher configuration).sentOf states)).Current
      configuration.scenario states := by
  induction states using List.reverseRecOn with
  | nil => exact ⟨fun _ _ _ _ hmem => (Option.not_mem_none _ hmem).elim, fun _ _ _ => rfl⟩
  | append_singleton before state ih =>
    rw [VehicleNetworkPublisher.sentOf_snoc, Carriers.after_append]
    exact Carriers.Current.batch (ih (List.pairwise_append.1 hincreasing).1
      fun other hmem => hrange other (List.mem_append_left _ hmem)) hincreasing hrange

/-- What a client sees after a batch of frames shows the carriers, at the time of its state. -/
theorem TookAll.observes_batch {faults : List FaultConfiguration} {encoders : List FrameEncoder}
    (h : TookAll messageDecode faults carriers pipeline (encoders.map (·, state)) last reached)
    (hsome : encoders ≠ []) :
    ∃ snapshot, reached.telemetry.snapshot = .ok snapshot ∧
      snapshot.Observes faults last state.timestamp.toNat := by
  obtain ⟨earlier, final, rfl⟩ := (List.eq_nil_or_concat' encoders).resolve_left hsome
  rw [List.map_append] at h
  obtain ⟨middle, between, -, hfinal⟩ := h.split
  cases hfinal with
  | cons took later =>
    cases later
    obtain ⟨snapshot, hsnapshot, hobserves, -⟩ := took.evaluated
    exact ⟨snapshot, hsnapshot, hobserves⟩

/-- The pipeline's telemetry can be read, and shows the carriers at a time not after the last state. -/
def Pipeline.Shows (pipeline : Pipeline) (faults : List FaultConfiguration) (carriers : Carriers)
    (states : List VehicleState) : Prop :=
  ∀ final ∈ states.getLast?, ∃ snapshot timestamp, pipeline.telemetry.snapshot = .ok snapshot ∧
    snapshot.Observes faults carriers timestamp ∧ timestamp ≤ final.timestamp.toNat

theorem Pipeline.Shows.batch (h : pipeline.Shows configuration.faults carriers states)
    (hincreasing : (states ++ [state]).Pairwise
      (fun left right => left.timestamp < right.timestamp))
    (hrange : ∀ other ∈ states ++ [state], other.timestamp.toNat + 100000 ≤ maximumUInt64.toNat)
    (hbatch : TookAll messageDecode configuration.faults carriers pipeline
      ((dueAfter configuration states state).map (·, state))
      last reached) :
    reached.Shows configuration.faults last (states ++ [state]) := by
  intro final hfinal
  rw [List.getLast?_concat] at hfinal
  cases hfinal
  by_cases hnone : dueAfter configuration states state = []
  · rw [hnone] at hbatch
    cases hbatch
    cases hprevious : states.getLast? with
    | none =>
      have hdue := (mem_dueAfter_iff configuration dmeFastEngine_mem_network
        hincreasing hrange).2
      have hfirst := hdue ⟨enabled_dmeFastEngine _, fun previous hmem => by
        rw [hprevious] at hmem
        cases hmem⟩
      rw [hnone] at hfirst
      exact absurd hfirst List.not_mem_nil
    | some previous =>
      obtain ⟨snapshot, timestamp, hsnapshot, hobserves, hle⟩ := h previous hprevious
      have hearlier := (List.pairwise_append.1 hincreasing).2.2 previous
        (List.mem_of_getLast? hprevious) state List.mem_cons_self
      exact ⟨snapshot, timestamp, hsnapshot, hobserves,
        hle.trans (UInt64.lt_iff_toNat_lt.1 hearlier).le⟩
  · obtain ⟨snapshot, hsnapshot, hobserves⟩ := hbatch.observes_batch hnone
    exact ⟨snapshot, _, hsnapshot, hobserves, le_rfl⟩

end Current

/-! ## Reading the telemetry of a run -/

section Reading

variable {snapshot : TelemetrySnapshot} {faults : List FaultConfiguration} {carriers : Carriers}
  {timestamp : ℕ} {encoder : FrameEncoder} {carrier : VehicleState}

/-- What is shown of the source's signal: the level of its field as the sensors observe the state. -/
def SignalSource.level (source : SignalSource) (faults : List FaultConfiguration)
    (state : VehicleState) : SignalValue :=
  Decoder.signalValue source.signal.name
    (let observation := observeSensors state faults
    let raw := source.rawValue observation.dmeState observation.wheelSpeedsMetersPerSecond
    ⟨raw, raw * source.signal.factor + source.signal.offset⟩)

/-- A frame of the network shows the levels of its fields. -/
theorem FrameEncoder.shown_eq_level {encoder : FrameEncoder} (hencoder : encoder ∈ networkEncoders)
    {source : SignalSource} (hsource : source ∈ encoder.sources)
    (faults : List FaultConfiguration) (state : VehicleState) :
    encoder.shown faults source.signal state = source.level faults state := by
  rw [FrameEncoder.shown, FrameEncoder.observed, DbcSignal.decode,
    (frameEncoder_carries (mem_frameEncoders_of_network hencoder) _ _).rawValues source hsource]
  rfl

theorem FrameEncoder.signal_mem {encoder : FrameEncoder} (hencoder : encoder ∈ networkEncoders)
    {source : SignalSource} (hsource : source ∈ encoder.sources) :
    source.signal ∈ encoder.message.signals :=
  (steps_of_source (mem_frameEncoders_of_network hencoder)).1 ▸ List.mem_map_of_mem hsource

/-- The snapshot has a fresh sample of the signal, which is its level in this state. -/
def TelemetrySnapshot.ShowsLevel (snapshot : TelemetrySnapshot) (faults : List FaultConfiguration)
    (encoder : FrameEncoder) (carrier : VehicleState) (source : SignalSource) : Prop :=
  ∃ sample, snapshot.samples.get? (encoder.key source.signal) = some sample ∧
    snapshot.freshness.get? (encoder.key source.signal) = some .fresh ∧
    sample.timestampMicroseconds = carrier.timestamp.toNat ∧
    sample.value = source.level faults carrier

theorem TelemetrySnapshot.Observes.showsLevel (h : snapshot.Observes faults carriers timestamp)
    (hencoder : encoder ∈ networkEncoders)
    (hcarrier : carriers encoder.message.arbitrationId = some carrier)
    (hage : timestamp - carrier.timestamp.toNat ≤ 2 * encoder.period) {source : SignalSource}
    (hsource : source ∈ encoder.sources) : snapshot.ShowsLevel faults encoder carrier source := by
  have hsignal := FrameEncoder.signal_mem hencoder hsource
  obtain ⟨⟨sample, hsample⟩, hfresh⟩ :=
    (h.fresh encoder hencoder source.signal hsignal).2 ⟨carrier, hcarrier, hage⟩
  have hreading := h.shows encoder hencoder source.signal hsignal
  rw [hsample, Carriers.reading, hcarrier] at hreading
  obtain ⟨hvalue, htime⟩ := Prod.mk.inj (Option.some.inj hreading)
  exact ⟨sample, hsample, hfresh, htime,
    hvalue.trans (FrameEncoder.shown_eq_level hencoder hsource faults carrier)⟩

/-- Nothing is shown of a message of which no frame was received. -/
theorem TelemetrySnapshot.Observes.samples_eq_none (h : snapshot.Observes faults carriers timestamp)
    (hencoder : encoder ∈ networkEncoders)
    (hnone : carriers encoder.message.arbitrationId = none) {signal : DbcSignal}
    (hsignal : signal ∈ encoder.message.signals) :
    snapshot.samples.get? (encoder.key signal) = none := by
  have hreading := h.shows encoder hencoder signal hsignal
  rw [Carriers.reading, hnone] at hreading
  exact Option.map_eq_none_iff.1 hreading

end Reading

/-- A live source that has read its stream has current carriers. -/
theorem ReadsGateway.current {exp : ℚ → ℚ} {configuration : SimulationRunConfiguration} {count : ℕ}
    {states : List VehicleState} {connection : Except PyException FrameStream}
    (h : ReadsGateway exp configuration count states connection)
    (hrange : configuration.duration.toNat + 100000 ≤ maximumUInt64.toNat)
    {messageDecode : DbcMessage → Bytes → Option (Dict String CanmatrixValue)}
    (hdecodes : DecodesIntel messageDecode) (sha256 : Bytes → Sha256Digest)
    {recorder : SessionRecorder} {initial : SessionManifest}
    (hrecorded : recorder.Recorded initial []) :
    ∃ carriers last, TookAll messageDecode configuration.faults (fun _ => none)
        (.packaged messageDecode) ((defaultPublisher configuration).sentOf states) carriers
        (runGateway sha256 (.packaged messageDecode) recorder connection).pipeline ∧
      carriers.Current configuration.scenario states ∧ states.getLast? = some last := by
  obtain ⟨fresh, network, delivered, -, -, hconsistent, hconfiguration, hpublished, -⟩ := h.delivers
  obtain ⟨carriers, htook, -⟩ := h.took hdecodes sha256 hrecorded
  have htimes := hpublished.timestamps (VehicleSimulation.fixedStep_pos hconsistent)
  have hwithin := hpublished.add_le hconsistent (hconfiguration ▸ hrange)
  exact ⟨carriers, _, htook, htook.carriers_eq ▸ Carriers.current_sentOf htimes hwithin,
    hpublished.last⟩

/-- However a live source's stream is segmented, its telemetry after any number of rounds shows each
enabled message as the sensors observed the vehicle in the same period of the message: every signal
is fresh, less than a period old, and the level of its field. A message that the scenario does not
send is not shown. -/
theorem live_telemetry_follows_vehicle (exp : ℚ → ℚ) (sha256 : Bytes → Sha256Digest)
    {configuration : SimulationRunConfiguration} {count : ℕ} {states : List VehicleState}
    {connection : Except PyException FrameStream}
    (hreads : ReadsGateway exp configuration count states connection)
    (hrange : configuration.duration.toNat + 100000 ≤ maximumUInt64.toNat)
    {messageDecode : DbcMessage → Bytes → Option (Dict String CanmatrixValue)}
    (hdecodes : DecodesIntel messageDecode) {recorder : SessionRecorder} {initial : SessionManifest}
    (hrecorded : recorder.Recorded initial []) :
    ∃ last snapshot, states.getLast? = some last ∧
      (runGateway sha256 (.packaged messageDecode) recorder connection).pipeline.telemetry.snapshot =
        .ok snapshot ∧
      ∀ encoder ∈ networkEncoders,
        (encoder.Enabled configuration.scenario → ∃ carrier ∈ states,
          carrier.timestamp.toNat / encoder.period = last.timestamp.toNat / encoder.period ∧
          ∀ source ∈ encoder.sources,
            snapshot.ShowsLevel configuration.faults encoder carrier source) ∧
        (¬ encoder.Enabled configuration.scenario → ∀ signal ∈ encoder.message.signals,
          snapshot.samples.get? (encoder.key signal) = none) := by
  obtain ⟨fresh, network, delivered, -, -, hconsistent, hconfiguration, hpublished, -⟩ :=
    hreads.delivers
  obtain ⟨carriers, last, htook, hcurrent, hlast⟩ := hreads.current hrange hdecodes sha256 hrecorded
  have htimes := hpublished.timestamps (VehicleSimulation.fixedStep_pos hconsistent)
  have hwithin := hpublished.add_le hconsistent (hconfiguration ▸ hrange)
  have hshows := htook.states_induction
    (fun taken carriers pipeline => pipeline.Shows configuration.faults carriers taken)
    (fun _ hmem => (Option.not_mem_none _ hmem).elim)
    (fun before state middle between after reached hbegins hholds hbatch =>
      hholds.batch (htimes.sublist hbegins.sublist)
        (fun other hmem => hwithin other (hbegins.subset hmem)) hbatch)
  obtain ⟨snapshot, timestamp, hsnapshot, hobserves, hle⟩ := hshows _ hlast
  refine ⟨_, snapshot, hlast, hsnapshot, fun encoder hencoder => ⟨fun henabled => ?_, ?_⟩⟩
  · obtain ⟨carrier, hmem, hcarrier, hperiod⟩ :=
      hcurrent.enabled encoder hencoder henabled _ hlast
    refine ⟨carrier, hmem, hperiod, fun source hsource => ?_⟩
    refine hobserves.showsLevel hencoder hcarrier ?_ hsource
    have hpositive : 0 < encoder.period := Nat.zero_lt_of_lt (period_of_network hencoder).1
    have hfrom := Nat.div_add_mod carrier.timestamp.toNat encoder.period
    have hto := Nat.div_add_mod last.timestamp.toNat encoder.period
    have hrest := Nat.mod_lt last.timestamp.toNat hpositive
    rw [hperiod] at hfrom
    omega
  · exact fun hdisabled signal hsignal =>
      hobserves.samples_eq_none hencoder (hcurrent.disabled encoder hencoder hdisabled) hsignal

/-- The default idle run, read byte by byte after twelve rounds. -/
theorem idle_telemetry_follows_vehicle :
    ∃ states connection last snapshot,
      ReadsGateway reciprocalDecay (makeDefaultIdleRunConfiguration {}) 12 states connection ∧
      states.getLast? = some last ∧
      (runGateway (fun _ => someDigest) (.packaged DbcMessage.intelDecode) defaultRecorder
        connection).pipeline.telemetry.snapshot = .ok snapshot ∧
      ∃ carrier ∈ states, ∀ source ∈ dmeFastEngineEncoder.sources,
        snapshot.ShowsLevel [] dmeFastEngineEncoder carrier source := by
  obtain ⟨states, connection, hreads⟩ :=
    exists_reads_bytewise reciprocalDecay create_idleNetworkSimulation 12
  obtain ⟨last, snapshot, hlast, hsnapshot, hshows⟩ := live_telemetry_follows_vehicle
    reciprocalDecay (fun _ => someDigest) hreads (by decide) decodesIntel_intelDecode
    defaultRecorder_recorded
  obtain ⟨carrier, hmem, -, hsources⟩ :=
    (hshows dmeFastEngineEncoder dmeFastEngine_mem_network).1 (enabled_dmeFastEngine _)
  exact ⟨states, connection, last, snapshot, hreads, hlast, hsnapshot, carrier, hmem, hsources⟩

end TunerOs
