-- SUMMARY: A dashboard that follows a live source shows the vehicle as its sensors observed it, whatever the service did in between.
import TunerOs.Live.Currency
import TunerOs.Live.Interleaving

/-!
# The dashboard of a live source

From the vehicle to the client: the gateway program's frames, the backend's live source
among other calls, and a client that subscribes at any time and applies the updates it
is sent. What the client shows at any moment is what the sensors observed, at most a
period of the message and a step of the simulation ago.
-/

namespace TunerOs

open Containers Transition TelemetryService VehicleNetworkSimulation VehicleNetworkPublisher

/-! ## Carriers in the middle of a state's frames -/

section Recent

variable {exp : ℚ → ℚ} {configuration : SimulationRunConfiguration}
  {states : List VehicleState} {simulation : VehicleNetworkSimulation}

/-- Each carrier is of an enabled message, and less than the message's period and a step old. -/
structure Carriers.Recent (carriers : Carriers) (configuration : SimulationRunConfiguration)
    (states : List VehicleState) (timestamp : ℕ) : Prop where
  shown : ∀ encoder ∈ networkEncoders, ∀ carrier,
    carriers encoder.message.arbitrationId = some carrier →
      encoder.Enabled configuration.scenario ∧ carrier ∈ states ∧
        carrier.timestamp.toNat ≤ timestamp ∧
        timestamp < carrier.timestamp.toNat + encoder.period + configuration.fixedStep.toNat
  missing : ∀ encoder ∈ networkEncoders, encoder.Enabled configuration.scenario →
    carriers encoder.message.arbitrationId = none → timestamp = 0

/-- However many of the frames of a run were received, the carriers are recent. -/
theorem Carriers.recent_take (hconfiguration : simulation.vehicleSimulation.configuration = configuration)
    (hconsistent : simulation.vehicleSimulation.Consistent)
    (hpublished : simulation.Published (defaultPublisher configuration) states)
    (hrange : configuration.duration.toNat + 100000 ≤ maximumUInt64.toNat) (count : ℕ) :
    ∀ last ∈ (((defaultPublisher configuration).sentOf states).take count).getLast?,
      (Carriers.after (fun _ => none)
        (((defaultPublisher configuration).sentOf states).take count)).Recent configuration states
        last.2.timestamp.toNat := by
  have htimes := hpublished.timestamps (VehicleSimulation.fixedStep_pos hconsistent)
  have hwithin := hpublished.add_le hconsistent (hconfiguration ▸ hrange)
  intro last hlast
  rcases (defaultPublisher configuration).take_sentOf states count with
    hnone | ⟨before, state, earlier, later, hbegins, hdue, hsome, htaken⟩
  · rw [hnone] at hlast
    cases hlast
  obtain ⟨front, final, rfl⟩ := (List.eq_nil_or_concat' earlier).resolve_left hsome
  rw [htaken] at hlast ⊢
  rw [List.map_append, ← List.append_assoc, List.map_singleton, List.getLast?_concat] at hlast
  cases hlast
  rw [Carriers.after_append]
  have hincreasing := htimes.sublist hbegins.sublist
  have hbounds := fun other hmem => hwithin other (hbegins.subset hmem)
  obtain ⟨hbefore, -, hcross⟩ := List.pairwise_append.1 hincreasing
  have hcurrent := @Carriers.current_sentOf configuration before hbefore
    (fun other hmem => hbounds other (List.mem_append_left _ hmem))
  have hfresh : before = [] → ∀ arbitrationId, Carriers.after (fun _ => none)
      ((defaultPublisher configuration).sentOf before) arbitrationId = none := by
    rintro rfl _
    rfl
  generalize Carriers.after (fun _ => none) ((defaultPublisher configuration).sentOf before) =
    carriers at hcurrent hfresh
  have hnetwork : ∀ other ∈ front ++ [final], other ∈ networkEncoders := fun other hmem =>
    mem_networkEncoders_of_due (hdue ▸ List.mem_append_left later hmem)
  have hmoved := fun encoder => @Carriers.after_batch carriers (front ++ [final]) state encoder
  have hkept : ∀ encoder ∈ networkEncoders, encoder ∉ front ++ [final] →
      carriers.after ((front ++ [final]).map (·, state)) encoder.message.arbitrationId =
        carriers encoder.message.arbitrationId := fun encoder hencoder hnot =>
    (hmoved encoder).2 (arbitrationId_ne_of_not_mem hnetwork hencoder hnot)
  constructor
  · intro encoder hencoder carrier hcarrier
    have hpositive := (period_of_network hencoder).1
    by_cases hmem : encoder ∈ front ++ [final]
    · rw [(hmoved encoder).1 hmem] at hcarrier
      cases hcarrier
      have hlisted : encoder ∈ dueAfter configuration before state := by
        rw [dueAfter, hdue]
        exact List.mem_append_left _ hmem
      have henabled := ((mem_dueAfter_iff configuration hencoder hincreasing hbounds).1 hlisted).1
      refine ⟨henabled, hbegins.subset (List.mem_append_right _ List.mem_cons_self), le_rfl, ?_⟩
      change state.timestamp.toNat < _
      omega
    · rw [hkept encoder hencoder hmem] at hcarrier
      have henabled : encoder.Enabled configuration.scenario := by
        by_contra hdisabled
        rw [hcurrent.disabled encoder hencoder hdisabled] at hcarrier
        cases hcarrier
      cases hprevious : before.getLast? with
      | none =>
        rw [hfresh (List.getLast?_eq_none_iff.1 hprevious)] at hcarrier
        cases hcarrier
      | some previous =>
        obtain ⟨other, hother, hshown, hperiod⟩ :=
          hcurrent.enabled encoder hencoder henabled previous hprevious
        rw [hshown] at hcarrier
        cases hcarrier
        have hearlier := hcross carrier hother state List.mem_cons_self
        have hstep := hpublished.step hbegins hprevious
        rw [hconfiguration] at hstep
        have hfrom := Nat.div_add_mod carrier.timestamp.toNat encoder.period
        have hto := Nat.div_add_mod previous.timestamp.toNat encoder.period
        have hrest := Nat.mod_lt previous.timestamp.toNat (by omega : 0 < encoder.period)
        rw [hperiod] at hfrom
        refine ⟨henabled, hbegins.subset (List.mem_append_left _ hother),
          (UInt64.lt_iff_toNat_lt.1 hearlier).le, ?_⟩
        change state.timestamp.toNat < _
        omega
  · intro encoder hencoder henabled hnone
    have hmem : encoder ∉ front ++ [final] := by
      intro hmem
      rw [(hmoved encoder).1 hmem] at hnone
      cases hnone
    rw [hkept encoder hencoder hmem] at hnone
    cases hprevious : before.getLast? with
    | none =>
      rw [List.getLast?_eq_none_iff.1 hprevious] at hbegins
      exact hpublished.head_timestamp hbegins
    | some previous =>
      obtain ⟨other, -, hshown, -⟩ := hcurrent.enabled encoder hencoder henabled previous hprevious
      rw [hshown] at hnone
      cases hnone

end Recent

/-! ## What a client shows -/

/-- The client shows the levels of the message's fields, as the sensors observed this state. -/
def TelemetryClientState.ShowsLevels (client : TelemetryClientState)
    (faults : List FaultConfiguration) (encoder : FrameEncoder) (carrier : VehicleState) : Prop :=
  ∀ source ∈ encoder.sources, ∃ sample,
    client.samples.get? (signalKeyId (encoder.key source.signal)) = some sample ∧
      sample.timestampMicroseconds = carrier.timestamp.toNat ∧
      sample.value = serializeValue (source.level faults carrier)

/-- The client shows no signal of the message. -/
def TelemetryClientState.ShowsNothing (client : TelemetryClientState) (encoder : FrameEncoder) :
    Prop :=
  ∀ signal ∈ encoder.message.signals,
    client.samples.get? (signalKeyId (encoder.key signal)) = none

section Client

variable {engine : TelemetryEngine} {client : TelemetryClientState}
  {faults : List FaultConfiguration} {carriers : Carriers} {encoder : FrameEncoder}
  {carrier : VehicleState} {signal : DbcSignal}

/-- The sample that a client shows of a signal is that of the carrier's frame. -/
theorem Shows.reading (h : Shows engine client) (hcatalog : engine.catalog = Pipeline.packagedCatalog)
    (hshows : ShowsCarriers engine.latest faults carriers) (hencoder : encoder ∈ networkEncoders)
    (hsignal : signal ∈ encoder.message.signals) :
    (client.samples.get? (signalKeyId (encoder.key signal))).map
        (fun sample => (sample.value, sample.timestampMicroseconds)) =
      (carriers.reading faults encoder signal).map
        (fun reading => (serializeValue reading.1, reading.2)) := by
  have hknown : engine.catalog.Knows (encoder.key signal) := by
    obtain ⟨definition, hdefinition, -⟩ := Pipeline.packagedCatalog_period hencoder hsignal
    exact ⟨definition, hcatalog ▸ hdefinition⟩
  have hmirror := congrArg (Option.map (fun sample : SignalSampleResponse =>
    (sample.value, sample.timestampMicroseconds))) (h.samples.shown _ hknown)
  rw [Option.map_map, Option.map_map] at hmirror
  rw [← hshows encoder hencoder signal hsignal, Option.map_map]
  exact hmirror

theorem Shows.showsLevels (h : Shows engine client)
    (hcatalog : engine.catalog = Pipeline.packagedCatalog)
    (hshows : ShowsCarriers engine.latest faults carriers) (hencoder : encoder ∈ networkEncoders)
    (hcarrier : carriers encoder.message.arbitrationId = some carrier) :
    client.ShowsLevels faults encoder carrier := by
  intro source hsource
  have hreading := h.reading hcatalog hshows hencoder (FrameEncoder.signal_mem hencoder hsource)
  rw [Carriers.reading, hcarrier] at hreading
  obtain ⟨sample, hsample, hvalues⟩ := Option.map_eq_some_iff.1 hreading
  obtain ⟨hvalue, htime⟩ := Prod.mk.inj hvalues
  exact ⟨sample, hsample, htime,
    hvalue.trans (congrArg serializeValue (FrameEncoder.shown_eq_level hencoder hsource _ _))⟩

theorem Shows.showsNothing (h : Shows engine client)
    (hcatalog : engine.catalog = Pipeline.packagedCatalog)
    (hshows : ShowsCarriers engine.latest faults carriers) (hencoder : encoder ∈ networkEncoders)
    (hnone : carriers encoder.message.arbitrationId = none) : client.ShowsNothing encoder := by
  intro signal hsignal
  have hreading := h.reading hcatalog hshows hencoder hsignal
  rw [Carriers.reading, hnone] at hreading
  exact Option.map_eq_none_iff.1 hreading

/-- With current carriers, something of every enabled message is shown. -/
theorem Shows.showsSomething {scenario : ScenarioId} {states : List VehicleState}
    {last : VehicleState} {source : SignalSource} (h : Shows engine client)
    (hcatalog : engine.catalog = Pipeline.packagedCatalog)
    (hshows : ShowsCarriers engine.latest faults carriers)
    (hcurrent : carriers.Current scenario states) (hlast : states.getLast? = some last)
    (hencoder : encoder ∈ networkEncoders) (henabled : encoder.Enabled scenario)
    (hsource : source ∈ encoder.sources) : ¬ client.ShowsNothing encoder := by
  intro hnothing
  obtain ⟨carrier, -, hcarrier, -⟩ := hcurrent.enabled encoder hencoder henabled last hlast
  obtain ⟨sample, hsample, -⟩ := h.showsLevels hcatalog hshows hencoder hcarrier source hsource
  rw [hnothing source.signal (FrameEncoder.signal_mem hencoder hsource)] at hsample
  cases hsample

end Client

/-- What the client shows is what the service's telemetry holds, and that is of the first frames. -/
theorem client_shows {exp : ℚ → ℚ} {configuration : SimulationRunConfiguration}
    {count : ℕ} {states : List VehicleState} {delivered : List RawCanFrame}
    (hreads : ReadsGateway exp configuration count states (.ok ⟨delivered, none⟩))
    {messageDecode : DbcMessage → Bytes → Option (Dict String CanmatrixValue)}
    (hdecodes : DecodesIntel messageDecode) {earlier later : List ServiceLabel}
    {s t : TelemetryService} (hearlier : Reaches (.packaged messageDecode) earlier s)
    (hlater : run TelemetryService.step s.subscribe.2 later = some t)
    (hfeeds : ∀ label ∈ earlier ++ later, label.feedsLive = true)
    (hhanded : (earlier ++ later).flatMap ServiceLabel.handed <+: delivered)
    {actions : List TelemetryAction} (hactions : ∀ action ∈ actions, action.isSnapshot = false)
    (hbatches : actions.flatMap TelemetryAction.carried =
      sentUpdates (t.published.drop s.published.length)) (client : TelemetryClientState) :
    ∃ first reached, initialSnapshot s = .ok first ∧
      Shows t.pipeline.telemetry
        (actions.foldl telemetryReducer (telemetryReducer client (.initialSnapshot first))) ∧
      t.pipeline.Live messageDecode configuration.faults (Carriers.after (fun _ => none)
        (((defaultPublisher configuration).sentOf states).take reached)) ∧
      t.pipeline.telemetry.latestTimestampMicroseconds =
        (((defaultPublisher configuration).sentOf states).take reached).getLast?.map
          (·.2.timestamp.toNat) := by
  obtain ⟨fresh, network, frames, -, -, hconsistent, -, hpublished, hsame, hdelivered⟩ :=
    hreads.delivers
  cases hsame
  have htimes := hpublished.timestamps (VehicleSimulation.fixedStep_pos hconsistent)
  have hencoders : ∀ pair ∈ (defaultPublisher configuration).sentOf states,
      pair.1 ∈ networkEncoders := fun pair hmem => (mem_sentOf hmem).1
  have hordered := @sentOf_pairwise (defaultPublisher configuration) states htimes
  rw [List.flatMap_append] at hhanded
  -- the service at the subscription, and then at the end
  have hcreated := watches_create hdecodes configuration.faults
    ((defaultPublisher configuration).sentOf states) delivered
  obtain ⟨-, taken, hwatches⟩ := hcreated.run hdecodes hdelivered hencoders hordered
    (.refl hcreated.live.replayable.sound) separable_packaged
    (fun label hmem => hfeeds label (List.mem_append_left _ hmem))
    ((List.prefix_append _ _).trans hhanded) hearlier
  have hsound := hwatches.live.replayable.sound
  have hseparable : s.pipeline.telemetry.catalog.Separable :=
    hwatches.live.catalog ▸ separable_packaged
  obtain ⟨hpipeline, hkept⟩ := s.subscribe_keeps
  have hsubscribed := s.subscribe_lifecycle
  have hstart : Follows s s.subscribe.2 :=
    (Follows.refl hsound).silent (congrArg Pipeline.telemetry hpipeline)
      (hkept.trans (List.append_nil _).symm) rfl
  obtain ⟨hfollows, reached, hlast⟩ := (hwatches.keeps hsubscribed.workers
    hsubscribed.liveStartedOnce (hpipeline ▸ .refl _)).run hdecodes hdelivered hencoders hordered
    hstart hseparable (fun label hmem => hfeeds label (List.mem_append_right _ hmem)) hhanded hlater
  -- the updates published in between lead the client from one to the other
  obtain ⟨first, hfirst, hinstalls⟩ := shows_initialSnapshot hsound hseparable
    (named_packaged hwatches.live.catalog)
  have hstream := SameStream.foldl_reduced
    (.refl (telemetryReducer client (.initialSnapshot first))) hactions
  rw [hbatches] at hstream
  exact ⟨first, reached, hfirst, .of_sameStream hstream (hfollows.shows _ (hinstalls client)),
    hlast.live, hlast.latest⟩

/-- A client subscribes at any time to a service that a live source feeds, installs its snapshot and
dispatches the updates published since in whatever batches, while other calls and the worker's
sections interleave in any order. It is warned of nothing, and of every message it shows either
nothing, while the time it shows is that of the first state, or the levels of one state that the
vehicle was in less than a period of the message and a step before that time. -/
theorem dashboard_follows_vehicle (exp : ℚ → ℚ) {configuration : SimulationRunConfiguration}
    {count : ℕ} {states : List VehicleState} {delivered : List RawCanFrame}
    (hreads : ReadsGateway exp configuration count states (.ok ⟨delivered, none⟩))
    (hrange : configuration.duration.toNat + 100000 ≤ maximumUInt64.toNat)
    {messageDecode : DbcMessage → Bytes → Option (Dict String CanmatrixValue)}
    (hdecodes : DecodesIntel messageDecode) (earlier later : List ServiceLabel)
    (s t : TelemetryService)
    (hearlier : Reaches (.packaged messageDecode) earlier s)
    (hlater : run TelemetryService.step s.subscribe.2 later = some t)
    (hfeeds : ∀ label ∈ earlier ++ later, label.feedsLive = true)
    (hhanded : (earlier ++ later).flatMap ServiceLabel.handed <+: delivered)
    (actions : List TelemetryAction) (hactions : ∀ action ∈ actions, action.isSnapshot = false)
    (hbatches : actions.flatMap TelemetryAction.carried =
      sentUpdates (t.published.drop s.published.length)) (client : TelemetryClientState) :
    ∃ first shown, initialSnapshot s = .ok first ∧
      shown = actions.foldl telemetryReducer (telemetryReducer client (.initialSnapshot first)) ∧
      shown.streamWarning = none ∧
      ∀ encoder ∈ networkEncoders,
        (shown.ShowsNothing encoder ∧ (encoder.Enabled configuration.scenario →
          ∀ now, shown.observationTimestampMicroseconds = some now → now = 0)) ∨
        encoder.Enabled configuration.scenario ∧ ∃ carrier ∈ states, ∃ now,
          shown.observationTimestampMicroseconds = some now ∧ carrier.timestamp.toNat ≤ now ∧
          now < carrier.timestamp.toNat + encoder.period + configuration.fixedStep.toNat ∧
          shown.ShowsLevels configuration.faults encoder carrier := by
  obtain ⟨first, reached, hfirst, hshows, hlive, hlatest⟩ := client_shows hreads hdecodes hearlier
    hlater hfeeds hhanded hactions hbatches client
  obtain ⟨fresh, network, frames, -, -, hconsistent, hconfiguration, hpublished, -⟩ :=
    hreads.delivers
  refine ⟨first, _, hfirst, rfl, hshows.warning, fun encoder hencoder => ?_⟩
  generalize List.foldl telemetryReducer _ actions = shown at hshows
  have hnow := hshows.observation.trans hlatest
  have hrecent := Carriers.recent_take hconfiguration hconsistent hpublished hrange reached
  cases hcarrier : Carriers.after (fun _ => none)
      (((defaultPublisher configuration).sentOf states).take reached)
      encoder.message.arbitrationId with
  | none =>
    refine .inl ⟨hshows.showsNothing hlive.catalog hlive.shows hencoder hcarrier, ?_⟩
    intro henabled now hobserved
    rw [hnow] at hobserved
    obtain ⟨pair, hpair, rfl⟩ := Option.map_eq_some_iff.1 hobserved
    exact (hrecent pair hpair).missing encoder hencoder henabled hcarrier
  | some carrier =>
    have hlevels := hshows.showsLevels hlive.catalog hlive.shows hencoder hcarrier
    obtain ⟨pair, hpair⟩ : ∃ pair, (((defaultPublisher configuration).sentOf states).take
        reached).getLast? = some pair := by
      cases hnone : (((defaultPublisher configuration).sentOf states).take reached).getLast? with
      | some pair => exact ⟨pair, rfl⟩
      | none =>
        rw [List.getLast?_eq_none_iff.1 hnone] at hcarrier
        cases hcarrier
    rw [hpair] at hnow
    obtain ⟨henabled, hmem, hle, hlt⟩ := (hrecent pair hpair).shown encoder hencoder carrier hcarrier
    exact .inr ⟨henabled, carrier, hmem, _, hnow, hle, hlt, hlevels⟩

/-- A client that subscribes before the source of the default idle run starts. The source reads its
whole stream and completes, and the client applies its updates in one batch. -/
theorem idle_dashboard_follows_vehicle :
    ∃ states delivered labels first t shown,
      ReadsGateway reciprocalDecay (makeDefaultIdleRunConfiguration {}) 12 states
        (.ok ⟨delivered, none⟩) ∧
      run TelemetryService.step (create (.packaged DbcMessage.intelDecode)).subscribe.2 labels =
        some t ∧
      labels.flatMap ServiceLabel.handed = delivered ∧ t.state = .completed ∧
      initialSnapshot (create (.packaged DbcMessage.intelDecode)) = .ok first ∧
      shown = telemetryReducer (telemetryReducer initialTelemetryState (.initialSnapshot first))
        (.updates (sentUpdates t.published)) ∧
      shown.streamWarning = none ∧
      ∃ carrier ∈ states, ∃ now, shown.observationTimestampMicroseconds = some now ∧
        carrier.timestamp.toNat ≤ now ∧ now < carrier.timestamp.toNat + 20000 ∧
        shown.ShowsLevels [] dmeFastEngineEncoder carrier := by
  obtain ⟨states, network, gateway, reached, -, -, -, hclients⟩ :=
    exists_readsGateway reciprocalDecay create_idleNetworkSimulation 12
  obtain ⟨client, delivered, -, hread, -, hreads⟩ :=
    hclients (bytewise reached.transport.sent) rfl (remaining_bytewise _)
  rw [hread] at hreads
  -- the worker runs alone, and takes the whole stream
  obtain ⟨started, hstart⟩ :
      ∃ t, (create (.packaged DbcMessage.intelDecode)).subscribe.2.start = .ok t := ⟨_, rfl⟩
  have hfresh : started.pipeline = .packaged DbcMessage.intelDecode := start_pipeline hstart
  obtain ⟨-, -, hcompletes, -⟩ := hreads.took decodesIntel_intelDecode (fun _ => someDigest)
    defaultRecorder_recorded
  obtain ⟨labels, t, hlabels, hstate, hpipeline, hfeeds, hhanded⟩ := exists_completing_run
    (fun _ => someDigest) hstart defaultRecorder delivered (hfresh ▸ hcompletes)
  rw [hfresh] at hpipeline
  have hcreated : Reaches (.packaged DbcMessage.intelDecode) []
      (create (.packaged DbcMessage.intelDecode)) := rfl
  have hprefix : labels.flatMap ServiceLabel.handed <+: delivered := hhanded ▸ List.prefix_rfl
  have hbatch : ∀ action ∈ [TelemetryAction.updates (sentUpdates t.published)],
      action.isSnapshot = false := fun action hmem => List.mem_singleton.1 hmem ▸ rfl
  obtain ⟨first, shown, hfirst, hshown, hwarning, hencoders⟩ := dashboard_follows_vehicle _ hreads
    (by decide) decodesIntel_intelDecode [] _ _ _ hcreated hlabels hfeeds hprefix _ hbatch
    (List.append_nil _) initialTelemetryState
  -- so the client shows the fast engine message, which every run sends
  obtain ⟨carriers, last, htook, hcurrent, hlast⟩ := hreads.current (by decide)
    decodesIntel_intelDecode (fun _ => someDigest) defaultRecorder_recorded
  obtain ⟨same, -, hsame, hshows, -⟩ := client_shows hreads decodesIntel_intelDecode
    hcreated hlabels hfeeds hprefix hbatch (List.append_nil _) initialTelemetryState
  cases hfirst.symm.trans hsame
  have hlive := htook.live (Pipeline.live_packaged decodesIntel_intelDecode _)
  rw [← hpipeline] at hlive
  have hsomething := hshows.showsSomething hlive.catalog hlive.shows hcurrent hlast
    dmeFastEngine_mem_network (enabled_dmeFastEngine _) List.mem_cons_self
  refine ⟨states, delivered, _, first, _, shown, hreads, hlabels, hhanded, hstate, hfirst, hshown,
    hwarning, ?_⟩
  rcases hencoders _ dmeFastEngine_mem_network with
    ⟨hnothing, -⟩ | ⟨-, carrier, hmem, now, hnow, hle, hlt, hlevels⟩
  · exact absurd (hshown ▸ hnothing) hsomething
  · have hage : dmeFastEngineEncoder.period +
        (makeDefaultIdleRunConfiguration {}).fixedStep.toNat = 20000 := by decide
    rw [Nat.add_assoc, hage] at hlt
    exact ⟨carrier, hmem, now, hnow, hle, hlt, hlevels⟩

end TunerOs
