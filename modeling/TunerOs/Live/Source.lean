-- SUMMARY: A backend that reads the gateway program to its end completes, has taken every frame sent, and leaves a session of them.
import TunerOs.Live.Telemetry
import TunerOs.Session.ReplayEquivalence

/-!
# Live sources

The gateway program, its TCP stream and the backend's live source, joined: whatever the
segments of the stream are, every frame of the run reaches the pipeline and the session,
and nothing on the way raises.
-/

namespace TunerOs

open Containers VehicleNetworkSimulation

/-! ## Taking frames one after the other -/

/-- The pipeline took these frames, and the carriers moved with them. -/
inductive TookAll (messageDecode : DbcMessage → Bytes → Option (Dict String CanmatrixValue))
    (faults : List FaultConfiguration) :
    Carriers → Pipeline → List (FrameEncoder × VehicleState) → Carriers → Pipeline → Prop
  | nil (carriers : Carriers) (pipeline : Pipeline) :
      TookAll messageDecode faults carriers pipeline [] carriers pipeline
  | cons {carriers last : Carriers} {pipeline next reached : Pipeline} {encoder : FrameEncoder}
      {state : VehicleState} {rest : List (FrameEncoder × VehicleState)}
      (took : Pipeline.Took messageDecode faults (carriers.moved encoder state)
        state.timestamp.toNat pipeline next)
      (later : TookAll messageDecode faults (carriers.moved encoder state) next rest last
        reached) :
      TookAll messageDecode faults carriers pipeline ((encoder, state) :: rest) last reached

section TookAll

variable {messageDecode : DbcMessage → Bytes → Option (Dict String CanmatrixValue)}
  {faults : List FaultConfiguration} {carriers last : Carriers} {pipeline reached : Pipeline}
  {sent before after : List (FrameEncoder × VehicleState)}

theorem TookAll.split
    (h : TookAll messageDecode faults carriers pipeline (before ++ after) last reached) :
    ∃ middle between, TookAll messageDecode faults carriers pipeline before middle between ∧
      TookAll messageDecode faults middle between after last reached := by
  induction before generalizing carriers pipeline with
  | nil => exact ⟨carriers, pipeline, .nil _ _, h⟩
  | cons first rest ih =>
    cases h with
    | cons took later =>
      obtain ⟨middle, between, hbefore, hafter⟩ := ih later
      exact ⟨middle, between, .cons took hbefore, hafter⟩

theorem TookAll.live
    (h : TookAll messageDecode faults carriers pipeline sent last reached)
    (hlive : pipeline.Live messageDecode faults carriers) :
    reached.Live messageDecode faults last := by
  induction h with
  | nil => exact hlive
  | cons took _ ih => exact ih took.live

/-- What every batch of a state's frames keeps holds once the frames of all states are taken. -/
theorem TookAll.states_induction {publisher : VehicleNetworkPublisher}
    {states : List VehicleState} (Holds : List VehicleState → Carriers → Pipeline → Prop)
    (hstart : Holds [] carriers pipeline)
    (hbatch : ∀ before state middle between last reached, before ++ [state] <+: states →
      Holds before middle between →
      TookAll messageDecode faults middle between
        (((publisher.afterObservations before).dueEncoders state).map (·, state)) last reached →
      Holds (before ++ [state]) last reached)
    (h : TookAll messageDecode faults carriers pipeline (publisher.sentOf states) last reached) :
    Holds states last reached := by
  induction states using List.reverseRecOn generalizing last reached with
  | nil =>
    cases h
    exact hstart
  | append_singleton before state ih =>
    rw [VehicleNetworkPublisher.sentOf_snoc] at h
    obtain ⟨middle, between, hbefore, hlast⟩ := h.split
    refine hbatch before state middle between last reached (List.prefix_refl _) (ih ?_ hbefore) hlast
    exact fun earlier other _ _ _ _ hbegins => hbatch earlier other _ _ _ _
      (hbegins.trans (List.prefix_append _ _))

/-- The carriers are those of the frames taken. -/
theorem TookAll.carriers_eq
    (h : TookAll messageDecode faults carriers pipeline sent last reached) :
    last = carriers.after sent := by
  induction h with
  | nil => rfl
  | cons _ _ ih => exact ih

end TookAll

section Loop

variable {messageDecode : DbcMessage → Bytes → Option (Dict String CanmatrixValue)}
  {faults : List FaultConfiguration} {carriers : Carriers} {pipeline : Pipeline}
  {recorder : SessionRecorder} {initial : SessionManifest} {seen delivered : List RawCanFrame}
  {sent : List (FrameEncoder × VehicleState)}

/-- The loop of a live source records and takes frames of the network that come in time order. -/
theorem gatewayLoop_took (hdecodes : DecodesIntel messageDecode)
    (hlive : pipeline.Live messageDecode faults carriers)
    (hrecorded : recorder.Recorded initial seen)
    (hdelivered : List.Forall₂ (fun raw (pair : FrameEncoder × VehicleState) =>
      raw.Observes (pair.1.observed faults pair.2)) delivered sent)
    (hencoders : ∀ pair ∈ sent, pair.1 ∈ networkEncoders)
    (hordered : sent.Pairwise
      (fun earlier later => earlier.2.timestamp.toNat ≤ later.2.timestamp.toNat))
    (hlatest : ∀ latest, pipeline.telemetry.latestTimestampMicroseconds = some latest →
      ∀ pair ∈ sent, latest ≤ pair.2.timestamp.toNat)
    (hlast : ∀ last ∈ seen.getLast?, ∀ pair ∈ sent,
      last.timestampMicroseconds ≤ pair.2.timestamp.toNat) :
    ∃ recorder' last reached,
      gatewayLoop recorder pipeline delivered = (.ok (), recorder', reached) ∧
      TookAll messageDecode faults carriers pipeline sent last reached := by
  induction hdelivered generalizing carriers pipeline recorder seen with
  | nil => exact ⟨recorder, carriers, pipeline, rfl, .nil _ _⟩
  | @cons raw pair rawRest pairRest hraw _ ih =>
    obtain ⟨encoder, state⟩ := pair
    obtain ⟨hfirst, hrest⟩ := List.pairwise_cons.1 hordered
    have hencoder : encoder ∈ networkEncoders := hencoders _ List.mem_cons_self
    have htime : raw.timestampMicroseconds = state.timestamp.toNat := by
      have hcarries := frameEncoder_carries (mem_frameEncoders_of_network hencoder)
        (observeSensors state faults).dmeState (observeSensors state faults).wheelSpeedsMetersPerSecond
      rw [hraw.timestamp, FrameEncoder.observed, hcarries.timestamp, observeSensors_timestamp]
    obtain ⟨next, hrecord⟩ := hrecorded.record_returns raw
      (fun previous hprevious => htime ▸ hlast previous hprevious _ List.mem_cons_self)
      (htime ▸ state.timestamp.toNat_lt)
    obtain ⟨update, taken, hingest, htook⟩ := hlive.take hdecodes hencoder hraw
      (fun latest hsome => hlatest latest hsome _ List.mem_cons_self)
    obtain ⟨recorder', last, reached, hloop, hall⟩ := ih htook.live (hrecorded.record hrecord)
      (fun other hmem => hencoders other (List.mem_cons_of_mem _ hmem)) hrest
      (fun latest hsome other hmem => by
        rw [htook.latest] at hsome
        cases hsome
        exact hfirst other hmem)
      (fun previous hprevious other hmem => by
        rw [List.getLast?_concat] at hprevious
        cases hprevious
        exact htime ▸ hfirst other hmem)
    refine ⟨recorder', last, reached, ?_, .cons htook hall⟩
    simp only [gatewayLoop, hrecord, hingest]
    exact hloop

/-- A live source whose loop reaches the end of a stream that ends normally completes. -/
theorem runGateway_of_loop (sha256 : Bytes → Sha256Digest) {recorder' : SessionRecorder}
    {reached : Pipeline} (hrecorded : recorder.Recorded initial [])
    (hloop : gatewayLoop recorder pipeline delivered = (.ok (), recorder', reached)) :
    (runGateway sha256 pipeline recorder (.ok ⟨delivered, none⟩)).state = .completed ∧
      (runGateway sha256 pipeline recorder (.ok ⟨delivered, none⟩)).lastError = none ∧
      (runGateway sha256 pipeline recorder (.ok ⟨delivered, none⟩)).pipeline = reached := by
  have hnext := (gatewayLoop_ok hrecorded hloop).1
  have hcomplete : recorder'.complete sha256 {} = _ := hnext.complete rfl rfl rfl
  simp only [runGateway, tryGateway, hloop, hcomplete]
  exact ⟨trivial, trivial, trivial⟩

end Loop

/-! ## Reading the gateway program -/

/-- The gateway program published these states in its first rounds, and the connection is the one
of a client that reads all it sent, in segments of any size. -/
def ReadsGateway (exp : ℚ → ℚ) (configuration : SimulationRunConfiguration) (count : ℕ)
    (states : List VehicleState) (connection : Except PyException FrameStream) : Prop :=
  ∃ fresh network started reached socket client,
    VehicleNetworkSimulation.create configuration {} {} = .ok fresh ∧
    fresh.runTicks exp count = .ok (states, network) ∧
    GatewayMain.start configuration = .ok started ∧ started.rounds exp count = .ok reached ∧
    socket.ending = .eof ∧ socket.remaining = reached.transport.sent ∧
    RawCanGatewayClient.create socket = (.ok (), client) ∧
    connection = .ok (frames client.connection)

section Reads

variable {exp : ℚ → ℚ} {configuration : SimulationRunConfiguration} {count : ℕ}

/-- What the gateway program has sent after some rounds: the frames of the states it published. -/
theorem rounds_sent (exp : ℚ → ℚ) {fresh : VehicleNetworkSimulation}
    (hcreate : VehicleNetworkSimulation.create configuration {} {} = .ok fresh) (count : ℕ) :
    ∃ states network started reached, fresh.runTicks exp count = .ok (states, network) ∧
      GatewayMain.start configuration = .ok started ∧ started.rounds exp count = .ok reached ∧
      network.vehicleSimulation.Consistent ∧
      network.vehicleSimulation.configuration = configuration ∧
      network.Published (defaultPublisher configuration) states ∧
      ∃ sent : List ValidCanFrame, sent.map Subtype.val = network.transport.frames ∧
        reached.transport.sent =
          makeGatewayHeader ++ (sent.map ValidCanFrame.record).flatten := by
  obtain ⟨states, network, hrun, hconsistent, hconfiguration, hpublished⟩ :=
    runTicks_published exp hcreate count
  obtain ⟨started, hstart, hmirrors⟩ := GatewayMain.start_mirrors hcreate
  have hfresh := (resetsTo_of_create hcreate).1.consistent
  obtain ⟨reached, after, hrounds, hafter, hlast⟩ := hmirrors.rounds hfresh exp count
  rw [callAll_of_runTicks hrun] at hafter
  cases hafter
  obtain ⟨records, hrecords, hsent⟩ := hlast.sent
  have hvalid : ∀ frame ∈ network.transport.frames, frame.isValid :=
    hpublished.frames ▸ fun _ => VehicleNetworkPublisher.isValid_of_mem_observedFrames
  obtain ⟨sent, hframes, -⟩ := exists_validFrames hvalid
  refine ⟨states, network, started, reached, hrun, hstart, hrounds, hconsistent, hconfiguration,
    hpublished, sent, hframes, ?_⟩
  have hstream := serverStream_eq sent
  rw [← hframes, List.mapM_map] at hrecords
  rw [serverStream] at hstream
  change (sent.mapM (serializeGatewayRecord ∘ Subtype.val) >>= _) = _ at hstream
  rw [hrecords] at hstream
  rw [hsent]
  exact Except.ok.inj hstream

/-- A client can read all that was sent, however it is segmented. -/
theorem exists_readsGateway (exp : ℚ → ℚ) {fresh : VehicleNetworkSimulation}
    (hcreate : VehicleNetworkSimulation.create configuration {} {} = .ok fresh) (count : ℕ) :
    ∃ states network started reached, fresh.runTicks exp count = .ok (states, network) ∧
      GatewayMain.start configuration = .ok started ∧ started.rounds exp count = .ok reached ∧
      ∀ socket : Socket, socket.ending = .eof → socket.remaining = reached.transport.sent →
        ∃ client delivered, RawCanGatewayClient.create socket = (.ok (), client) ∧
          frames client.connection = ⟨delivered, none⟩ ∧
          List.Forall₂ RawCanFrame.Observes delivered network.transport.frames ∧
          ReadsGateway exp configuration count states (.ok (frames client.connection)) := by
  obtain ⟨states, network, started, reached, hrun, hstart, hrounds, -, -, -, sent, hframes, hsent⟩ :=
    rounds_sent exp hcreate count
  refine ⟨states, network, started, reached, hrun, hstart, hrounds, fun socket heof hremaining => ?_⟩
  obtain ⟨client, hclient, hending, hrest⟩ := create_header heof (hremaining.trans hsent)
  have hread := frames_of_records sent [] (by decide) client.connection hending
    (by rw [List.append_nil, hrest])
  refine ⟨client, sent.map ValidCanFrame.rawCanFrame, hclient, hread, ?_, fresh, network, started,
    reached, socket, client, hcreate, hrun, hstart, hrounds, heof, hremaining, hclient, rfl⟩
  rw [← hframes, List.forall₂_map_left_iff, List.forall₂_map_right_iff, List.forall₂_same]
  exact fun frame _ => frame.observes

/-- What a live source is given of a gateway program's run: the frames of the states that it
published, and then the end of the stream. -/
theorem ReadsGateway.delivers {states : List VehicleState}
    {connection : Except PyException FrameStream}
    (h : ReadsGateway exp configuration count states connection) :
    ∃ fresh network delivered, VehicleNetworkSimulation.create configuration {} {} = .ok fresh ∧
      fresh.runTicks exp count = .ok (states, network) ∧
      network.vehicleSimulation.Consistent ∧
      network.vehicleSimulation.configuration = configuration ∧
      network.Published (defaultPublisher configuration) states ∧
      connection = .ok ⟨delivered, none⟩ ∧
      List.Forall₂ (fun raw (pair : FrameEncoder × VehicleState) =>
        raw.Observes (pair.1.observed configuration.faults pair.2)) delivered
        ((defaultPublisher configuration).sentOf states) := by
  obtain ⟨fresh, network, started, reached, socket, client, hcreate, hrun, hstart, hrounds, heof,
    hremaining, hclient, rfl⟩ := h
  obtain ⟨states', network', started', reached', hrun', hstart', hrounds', hconsistent,
    hconfiguration, hpublished, sent, hframes, hsent⟩ := rounds_sent exp hcreate count
  cases hrun.symm.trans hrun'
  cases hstart.symm.trans hstart'
  cases hrounds.symm.trans hrounds'
  obtain ⟨client', hclient', hending, hrest⟩ := create_header heof (hremaining.trans hsent)
  cases (Prod.mk.inj (hclient.symm.trans hclient')).2
  have hread := frames_of_records sent [] (by decide) client.connection hending
    (by rw [List.append_nil, hrest])
  refine ⟨fresh, network, sent.map ValidCanFrame.rawCanFrame, hcreate, hrun, hconsistent,
    hconfiguration, hpublished, congrArg Except.ok hread, ?_⟩
  have hencoders := hpublished.frames.trans
    (VehicleNetworkPublisher.observedFrames_eq_map
      (VehicleNetworkPublisher.hasEncoders_default configuration) states)
  rw [← hframes] at hencoders
  have hall : List.Forall₂ RawCanFrame.Observes (sent.map ValidCanFrame.rawCanFrame)
      (sent.map Subtype.val) := by
    rw [List.forall₂_map_left_iff, List.forall₂_map_right_iff, List.forall₂_same]
    exact fun frame _ => frame.observes
  rw [hencoders, List.forall₂_map_right_iff] at hall
  exact hall

/-- While the run has room for the rounds, the last state is as many steps after its start. -/
theorem ReadsGateway.last_timestamp {states : List VehicleState}
    {connection : Except PyException FrameStream}
    (h : ReadsGateway exp configuration count states connection)
    (hroom : count * configuration.fixedStep.toNat ≤ configuration.duration.toNat) :
    ∃ last, states.getLast? = some last ∧
      last.timestamp.toNat = count * configuration.fixedStep.toNat := by
  obtain ⟨fresh, network, -, hcreate, hrun, -, -, hpublished, -⟩ := h.delivers
  obtain ⟨hconsistent, hconfiguration, -, hclock, -⟩ :=
    VehicleSimulation.create_spec (vehicleSimulation_of_create hcreate)
  have hzero : fresh.vehicleSimulation.clock.timestamp.toNat = 0 := by
    rw [hclock]
    rfl
  have hpaused : fresh.vehicleSimulation.clock.paused = false := by rw [hclock]
  rw [← hconfiguration] at hroom ⊢
  obtain ⟨states', reached, hrun', hreached, -, -, htime⟩ :=
    runTicks_ahead exp hconsistent hpaused (hroom.trans' (by rw [hzero, Nat.zero_add]))
  cases hrun.symm.trans hrun'
  refine ⟨_, hpublished.last, ?_⟩
  rw [hreached.timestamp, htime, hzero, Nat.zero_add]

/-- A live source that reads a gateway program to its end completes, having taken every frame. -/
theorem ReadsGateway.took {states : List VehicleState}
    {connection : Except PyException FrameStream}
    (h : ReadsGateway exp configuration count states connection)
    {messageDecode : DbcMessage → Bytes → Option (Dict String CanmatrixValue)}
    (hdecodes : DecodesIntel messageDecode) (sha256 : Bytes → Sha256Digest)
    {recorder : SessionRecorder} {initial : SessionManifest}
    (hrecorded : recorder.Recorded initial []) :
    ∃ last, TookAll messageDecode configuration.faults (fun _ => none) (.packaged messageDecode)
        ((defaultPublisher configuration).sentOf states) last
        (runGateway sha256 (.packaged messageDecode) recorder connection).pipeline ∧
      (runGateway sha256 (.packaged messageDecode) recorder connection).state = .completed ∧
      (runGateway sha256 (.packaged messageDecode) recorder connection).lastError = none := by
  obtain ⟨fresh, network, delivered, -, -, hconsistent, -, hpublished, rfl, hdelivered⟩ := h.delivers
  have htimes := hpublished.timestamps (VehicleSimulation.fixedStep_pos hconsistent)
  obtain ⟨recorder', last, reached, hloop, hall⟩ := gatewayLoop_took hdecodes
    (Pipeline.live_packaged hdecodes configuration.faults) hrecorded hdelivered
    (fun pair hmem => (VehicleNetworkPublisher.mem_sentOf hmem).1)
    (VehicleNetworkPublisher.sentOf_pairwise htimes) nofun nofun
  obtain ⟨hcompleted, herror, hpipeline⟩ := runGateway_of_loop sha256 hrecorded hloop
  exact ⟨last, hpipeline ▸ hall, hcompleted, herror⟩

end Reads

/-- A live source that reads a gateway program to its end, in segments of any size, completes. It
was delivered the frames of the run, and the session it publishes holds these frames and replays to
the components the source ended with. -/
theorem live_source_completes (exp : ℚ → ℚ) (sha256 : Bytes → Sha256Digest)
    (authoritative : Sha256Digest) {configuration : SimulationRunConfiguration}
    {fresh : VehicleNetworkSimulation}
    (hcreate : VehicleNetworkSimulation.create configuration {} {} = .ok fresh) (count : ℕ)
    {messageDecode : DbcMessage → Bytes → Option (Dict String CanmatrixValue)}
    (hdecodes : DecodesIntel messageDecode) {arguments : RecorderArguments}
    (hlaunched : arguments.Launched authoritative) {directories : SessionDirectories}
    {recorder : SessionRecorder}
    (hrecorder : SessionRecorder.create authoritative arguments {} directories = .ok recorder) :
    ∃ states network started reached, fresh.runTicks exp count = .ok (states, network) ∧
      GatewayMain.start configuration = .ok started ∧ started.rounds exp count = .ok reached ∧
      ∀ socket : Socket, socket.ending = .eof → socket.remaining = reached.transport.sent →
        ∃ client delivered run, RawCanGatewayClient.create socket = (.ok (), client) ∧
          frames client.connection = ⟨delivered, none⟩ ∧
          List.Forall₂ RawCanFrame.Observes delivered network.transport.frames ∧
          run = runGateway sha256 (.packaged messageDecode) recorder
            (.ok (frames client.connection)) ∧
          run.state = .completed ∧ run.lastError = none ∧
          ∃ directory reader result, run.recorder.directories.published = some directory ∧
            SessionReader.create directory none = .ok reader ∧
            reader.validateIntegrity sha256 = .ok () ∧
            reader.frames sha256 = ⟨delivered, none⟩ ∧
            replaySession sha256 authoritative reader (packagedDecoder messageDecode)
              (.fresh (packagedDecoder messageDecode) defaultCanExplorerCapacity)
              defaultHistoryCapacity = .ok result ∧
            run.pipeline.telemetry = result.engine ∧ run.pipeline.explorer = result.explorer ∧
            run.pipeline.diagnostics = result.diagnostics := by
  have hpublishable := SessionRecorder.publishable_of_create hlaunched hrecorder
  obtain ⟨created, -, -, hrecorded⟩ := SessionRecorder.create_ok hrecorder
  obtain ⟨states, network, started, reached, hrun, hstart, hrounds, hclients⟩ :=
    exists_readsGateway exp hcreate count
  refine ⟨states, network, started, reached, hrun, hstart, hrounds, fun socket heof hremaining => ?_⟩
  obtain ⟨client, delivered, hclient, hread, hobserves, hreads⟩ := hclients socket heof hremaining
  obtain ⟨last, -, hcompleted, herror⟩ := hreads.took hdecodes sha256 hrecorded
  obtain ⟨yielded, directory, reader, hconnection, hpublished, hreader, hsupported, hdescribes,
    hreplay⟩ := runGateway_completed hrecorded hpublishable hcompleted
  have hsame := Except.ok.inj hconnection
  rw [hread] at hsame
  cases hsame
  obtain ⟨snapshot, -, hresult⟩ := replaySession_packaged hsupported hdescribes.reads hreplay
  exact ⟨client, delivered, _, hclient, hread, hobserves, rfl, hcompleted, herror, directory, reader,
    _, hpublished, hreader, hdescribes.reads.1, hdescribes.reads.2, hresult, rfl, rfl, rfl⟩

/-- The network simulation of the default idle run. -/
def idleNetworkSimulation : VehicleNetworkSimulation :=
  published
    { vehicleSimulation := VehicleSimulation.idleSimulation
      publisher := defaultPublisher (makeDefaultIdleRunConfiguration {}) }

theorem create_idleNetworkSimulation :
    VehicleNetworkSimulation.create (makeDefaultIdleRunConfiguration {}) {} {} =
      .ok idleNetworkSimulation :=
  VehicleNetworkSimulation.create_eq VehicleSimulation.create_idleSimulation rfl

/-- A stream that arrives one byte at a time. -/
def bytewise (sent : Bytes) : Socket where
  segments := sent.map ([·])
  segments_ne_nil := by simp
  ending := .eof

theorem remaining_bytewise (sent : Bytes) : (bytewise sent).remaining = sent := by
  rw [Socket.remaining, bytewise, ← List.flatMap_def, List.flatMap_singleton']

theorem defaultRecorder_recorded : defaultRecorder.Recorded defaultRecorder.manifest [] := by
  have hrecorder : SessionRecorder.create someDigest defaultArguments {} ⟨none, none⟩ =
      .ok defaultRecorder := rfl
  obtain ⟨created, -, -, hrecorded⟩ := SessionRecorder.create_ok hrecorder
  exact hrecorded

/-- A run whose stream is read byte by byte. -/
theorem exists_reads_bytewise (exp : ℚ → ℚ) {configuration : SimulationRunConfiguration}
    {fresh : VehicleNetworkSimulation}
    (hcreate : VehicleNetworkSimulation.create configuration {} {} = .ok fresh) (count : ℕ) :
    ∃ states connection, ReadsGateway exp configuration count states connection := by
  obtain ⟨states, network, started, reached, -, -, -, hclients⟩ :=
    exists_readsGateway exp hcreate count
  obtain ⟨client, delivered, -, -, -, hreads⟩ :=
    hclients (bytewise reached.transport.sent) rfl (remaining_bytewise _)
  exact ⟨states, _, hreads⟩

/-- The default idle run, read byte by byte after two rounds. -/
theorem idle_live_source_completes :
    ∃ states network started reached client run,
      idleNetworkSimulation.runTicks reciprocalDecay 2 = .ok (states, network) ∧
      GatewayMain.start (makeDefaultIdleRunConfiguration {}) = .ok started ∧
      started.rounds reciprocalDecay 2 = .ok reached ∧
      RawCanGatewayClient.create (bytewise reached.transport.sent) = (.ok (), client) ∧
      run = runGateway (fun _ => someDigest) (.packaged DbcMessage.intelDecode) defaultRecorder
        (.ok (frames client.connection)) ∧
      run.state = .completed ∧ run.lastError = none := by
  have hlaunched : defaultArguments.Launched someDigest := ⟨by decide, by decide, nofun⟩
  have hrecorder : SessionRecorder.create someDigest defaultArguments {} ⟨none, none⟩ =
      .ok defaultRecorder := rfl
  obtain ⟨states, network, started, reached, hrun, hstart, hrounds, hclients⟩ :=
    live_source_completes reciprocalDecay (fun _ => someDigest) someDigest
      create_idleNetworkSimulation 2 decodesIntel_intelDecode hlaunched hrecorder
  obtain ⟨client, delivered, run, hclient, -, -, hsource, hcompleted, herror, -⟩ :=
    hclients (bytewise reached.transport.sent) rfl (remaining_bytewise _)
  exact ⟨states, network, started, reached, client, run, hrun, hstart, hrounds, hclient, hsource,
    hcompleted, herror⟩

end TunerOs
