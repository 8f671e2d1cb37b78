-- SUMMARY: What a live pipeline shows after a frame of the network: for each message, the state that its last frame observed.
import TunerOs.Ecu.ObservedFrames
import TunerOs.Session.Decodable
import TunerOs.Telemetry.Atomicity

/-!
# What a live pipeline shows

`Carriers` says, for each arbitration ID, of which vehicle state the backend received
the last frame. A pipeline is live when its telemetry shows these states and nothing
else; taking one more frame moves one carrier, and the rules then read a snapshot that
the carriers describe.
-/

namespace TunerOs

open Containers

/-- The state that the last frame of each arbitration ID observed. -/
abbrev Carriers : Type := ℕ → Option VehicleState

namespace Carriers

/-- The carriers once a frame of the encoder was received for this state. -/
def moved (carriers : Carriers) (encoder : FrameEncoder) (state : VehicleState) : Carriers :=
  Function.update carriers encoder.message.arbitrationId (some state)

@[simp] theorem moved_self (carriers : Carriers) (encoder : FrameEncoder) (state : VehicleState) :
    carriers.moved encoder state encoder.message.arbitrationId = some state :=
  Function.update_self ..

theorem moved_of_ne {carriers : Carriers} {encoder : FrameEncoder} {arbitrationId : ℕ}
    (h : arbitrationId ≠ encoder.message.arbitrationId) (state : VehicleState) :
    carriers.moved encoder state arbitrationId = carriers arbitrationId :=
  Function.update_of_ne h ..

/-- The carriers once these frames were received, oldest first. -/
def after (carriers : Carriers) (sent : List (FrameEncoder × VehicleState)) : Carriers :=
  sent.foldl (fun carriers pair => carriers.moved pair.1 pair.2) carriers

theorem after_append (carriers : Carriers) (sent later : List (FrameEncoder × VehicleState)) :
    carriers.after (sent ++ later) = (carriers.after sent).after later :=
  List.foldl_append

/-- Carriers are states whose frames were received. -/
theorem mem_of_after {carriers : Carriers} {sent : List (FrameEncoder × VehicleState)}
    {arbitrationId : ℕ} {carrier : VehicleState}
    (h : carriers.after sent arbitrationId = some carrier) :
    carriers arbitrationId = some carrier ∨ ∃ pair ∈ sent, pair.2 = carrier := by
  induction sent generalizing carriers with
  | nil => exact .inl h
  | cons first rest ih =>
    rcases ih h with hmoved | ⟨pair, hmem, hpair⟩
    · by_cases hsame : arbitrationId = first.1.message.arbitrationId
      · subst hsame
        exact .inr ⟨first, List.mem_cons_self,
          Option.some.inj ((moved_self carriers first.1 first.2).symm.trans hmoved)⟩
      · exact .inl ((moved_of_ne hsame first.2).symm.trans hmoved)
    · exact .inr ⟨pair, List.mem_cons_of_mem _ hmem, hpair⟩

/-- The frames of one state move the carriers of their encoders to it, and no others. -/
theorem after_batch (carriers : Carriers) (encoders : List FrameEncoder) (state : VehicleState)
    {encoder : FrameEncoder} :
    (encoder ∈ encoders →
      carriers.after (encoders.map (·, state)) encoder.message.arbitrationId = some state) ∧
      ((∀ other ∈ encoders, other.message.arbitrationId ≠ encoder.message.arbitrationId) →
        carriers.after (encoders.map (·, state)) encoder.message.arbitrationId =
          carriers encoder.message.arbitrationId) := by
  induction encoders using List.reverseRecOn with
  | nil => exact ⟨fun hmem => absurd hmem List.not_mem_nil, fun _ => rfl⟩
  | append_singleton earlier final ih =>
    obtain ⟨hmoved, hkept⟩ := ih
    rw [List.map_append, after_append]
    change (encoder ∈ _ → moved _ final state encoder.message.arbitrationId = _) ∧
      (_ → moved _ final state encoder.message.arbitrationId = _)
    constructor
    · intro hmem
      by_cases hsame : encoder.message.arbitrationId = final.message.arbitrationId
      · rw [hsame, moved_self]
      · rw [moved_of_ne hsame]
        refine hmoved ((List.mem_append.1 hmem).resolve_right fun hlast => hsame ?_)
        rw [List.mem_singleton.1 hlast]
    · intro hnone
      have hne := hnone final (List.mem_append_right _ List.mem_cons_self)
      rw [moved_of_ne hne.symm]
      exact hkept fun other hother => hnone other (List.mem_append_left _ hother)

/-- What is shown of a signal: its value in the last frame of its message, and the time of that. -/
def reading (carriers : Carriers) (faults : List FaultConfiguration) (encoder : FrameEncoder)
    (signal : DbcSignal) : Option (SignalValue × ℕ) :=
  (carriers encoder.message.arbitrationId).map
    (fun state => (encoder.shown faults signal state, state.timestamp.toNat))

end Carriers

/-- The key under which telemetry keeps a signal of the message. -/
def FrameEncoder.key (encoder : FrameEncoder) (signal : DbcSignal) : SignalKey :=
  ⟨encoder.message.name, signal.name⟩

/-- The value and the time of a signal's latest sample. -/
def SignalSample.reading (sample : SignalSample) : SignalValue × ℕ :=
  (sample.value, sample.timestampMicroseconds)

/-- The samples are those of the carriers' frames. -/
def ShowsCarriers (samples : Dict SignalKey SignalSample) (faults : List FaultConfiguration)
    (carriers : Carriers) : Prop :=
  ∀ encoder ∈ networkEncoders, ∀ signal ∈ encoder.message.signals,
    (samples.get? (encoder.key signal)).map SignalSample.reading =
      carriers.reading faults encoder signal

/-- A snapshot that was observed at a time and shows the carriers. -/
structure TelemetrySnapshot.Observes (snapshot : TelemetrySnapshot)
    (faults : List FaultConfiguration) (carriers : Carriers) (timestamp : ℕ) : Prop where
  shows : ShowsCarriers snapshot.samples faults carriers
  fresh : ∀ encoder ∈ networkEncoders, ∀ signal ∈ encoder.message.signals,
    ((∃ sample, snapshot.samples.get? (encoder.key signal) = some sample) ∧
      snapshot.freshness.get? (encoder.key signal) = some .fresh) ↔
      ∃ state, carriers encoder.message.arbitrationId = some state ∧
        timestamp - state.timestamp.toNat ≤ 2 * encoder.period

namespace Pipeline

/-- A pipeline of the packaged database and the default rules that shows the carriers. -/
structure Live (messageDecode : DbcMessage → Bytes → Option (Dict String CanmatrixValue))
    (faults : List FaultConfiguration) (carriers : Carriers) (pipeline : Pipeline) : Prop where
  replayable : pipeline.Replayable
  decoder : pipeline.decoder = packagedDecoder messageDecode
  catalog : pipeline.telemetry.catalog = packagedCatalog
  rules : pipeline.diagnostics.catalog = defaultDiagnosticCatalog
  shows : ShowsCarriers pipeline.telemetry.latest faults carriers

section Live

variable {messageDecode : DbcMessage → Bytes → Option (Dict String CanmatrixValue)}
  {faults : List FaultConfiguration} {carriers : Carriers} {pipeline next : Pipeline}
  {frame : RawCanFrame} {decoded : DecodedCanFrame} {replayed : ReplayedFrame}

/-- The pipeline of a service before its first frame shows nothing. -/
theorem live_packaged (hdecodes : DecodesIntel messageDecode) (faults : List FaultConfiguration) :
    (packaged messageDecode).Live messageDecode faults (fun _ => none) where
  replayable := replayable_packaged hdecodes.signals _ _ _
  decoder := rfl
  catalog := rfl
  rules := rfl
  shows := fun _ _ _ _ => rfl

/-- A decoded frame with signals that is replayed is also ingested live, to the same engines. -/
theorem ingestDecodable_of_replay (hsound : pipeline.telemetry.Sound)
    (hdecode : pipeline.decoder.decode frame = .ok decoded) (hsignals : decoded.signals.entries ≠ [])
    (hreplay : pipeline.replay frame = .ok (replayed, next)) :
    ∃ update, pipeline.ingestDecodable frame =
      (.ok update, { next with explorer := pipeline.explorer }) := by
  obtain ⟨explorer, found, telemetry, diagnostics, -, hfound, hingest, hobserve, rfl⟩ :=
    replay_ok hreplay
  rw [hdecode] at hfound
  cases hfound
  have hne : replayed.samples ≠ [] := by
    obtain ⟨-, definitions, hdefinitions, hsamples, -⟩ := TelemetryEngine.ingest_ok_iff.1 hingest
    have hlength := (SignalCatalog.definitionsForFrame_ok hdefinitions).2.1
    intro hnil
    rw [hnil] at hsamples
    refine hsignals (List.length_eq_zero_iff.1 ?_)
    have hzero := congrArg List.length hsamples
    rw [List.length_zipWith, hlength, Dict.keys, Dict.values, List.length_map, List.length_map,
      min_self] at hzero
    exact hzero.symm
  obtain ⟨update, hupdate⟩ := updateOf_returns hsound hingest hne
  refine ⟨update, ?_⟩
  simp only [ingestDecodable, hdecode, ingestDecoded, if_neg hsignals, hingest, hupdate, hobserve]

/-- A replayable pipeline can explore any frame, and only its explorer moves. -/
theorem Replayable.explored (h : pipeline.Replayable) (frame : RawCanFrame) :
    ∃ explored explorer, pipeline.ingestCanExplorer frame =
      (.ok explored, { pipeline with explorer }) ∧
      explorer.decoder = pipeline.explorer.decoder := by
  obtain ⟨annotated, explorer, hexplore⟩ :=
    CanExplorer.ingest_returns (h.sameDecoder ▸ h.decodes) frame
  obtain ⟨statistic, hstatistic⟩ := CanExplorer.messageStatistic_of_ingest hexplore
  refine ⟨⟨annotated, explorer.statistics, statistic⟩, explorer, ?_,
    CanExplorer.ingest_decoder hexplore⟩
  simp only [ingestCanExplorer, hexplore, hstatistic]

/-- What a step keeps of a pipeline that ingests nothing: only what the explorer retains and the
rules have recorded may change. -/
structure Keeps (pipeline next : Pipeline) : Prop where
  decoder : next.decoder = pipeline.decoder
  telemetry : next.telemetry = pipeline.telemetry
  exploring : next.explorer.decoder = pipeline.explorer.decoder
  rules : next.diagnostics.catalog = pipeline.diagnostics.catalog
  observation : next.diagnostics.observationTimestampMicroseconds =
    pipeline.diagnostics.observationTimestampMicroseconds

theorem Keeps.refl (pipeline : Pipeline) : pipeline.Keeps pipeline := ⟨rfl, rfl, rfl, rfl, rfl⟩

theorem Live.keeps (h : pipeline.Live messageDecode faults carriers) (hkeeps : pipeline.Keeps next) :
    next.Live messageDecode faults carriers where
  replayable :=
    { decodes := hkeeps.decoder ▸ h.replayable.decodes
      sameDecoder :=
        hkeeps.exploring.trans (h.replayable.sameDecoder.trans hkeeps.decoder.symm)
      sound := hkeeps.telemetry ▸ h.replayable.sound
      catalogued := hkeeps.telemetry ▸ hkeeps.decoder ▸ h.replayable.catalogued
      typed := hkeeps.telemetry ▸ h.replayable.typed
      rules := hkeeps.rules ▸ h.replayable.rules
      observed := hkeeps.observation.trans (hkeeps.telemetry ▸ h.replayable.observed) }
  decoder := hkeeps.decoder.trans h.decoder
  catalog := hkeeps.telemetry ▸ h.catalog
  rules := hkeeps.rules.trans h.rules
  shows := hkeeps.telemetry ▸ h.shows

/-- Messages are told apart by their names as well as by their IDs. -/
theorem networkEncoders_inj {left right : FrameEncoder} (hleft : left ∈ networkEncoders)
    (hright : right ∈ networkEncoders) :
    (left.message.name = right.message.name → left = right) ∧
      (left.message.arbitrationId = right.message.arbitrationId → left = right) := by
  have hnames : (networkEncoders.map (·.message.name)).Nodup := by decide
  have hids : (networkEncoders.map (·.message.arbitrationId)).Nodup := by decide
  exact ⟨fun h => List.inj_on_of_nodup_map hnames hleft hright h,
    fun h => List.inj_on_of_nodup_map hids hleft hright h⟩

/-- Signals are catalogued with the period of their message. -/
theorem packagedCatalog_period {encoder : FrameEncoder} {signal : DbcSignal}
    (hencoder : encoder ∈ networkEncoders) (hsignal : signal ∈ encoder.message.signals) :
    ∃ definition, packagedCatalog.get? (encoder.key signal) = some definition ∧
      definition.expectedPeriodMicroseconds = encoder.period := by
  have hmetadata : encoder.message.metadata ∈ packagedCatalog.messages :=
    List.mem_map_of_mem (message_mem_of_network hencoder)
  have hlisted : encoder.message.metadata.definition ⟨signal.name, signal.unit⟩ ∈
      packagedCatalog.definitions :=
    List.mem_flatMap.2 ⟨_, hmetadata, List.mem_map_of_mem (List.mem_map_of_mem
      (f := fun signal : DbcSignal => (⟨signal.name, signal.unit⟩ : CanSignalMetadata)) hsignal)⟩
  exact ⟨_, SignalCatalog.get?_of_mem hlisted, rfl⟩

section Reading

variable {encoder other : FrameEncoder} {state : VehicleState} {signal : DbcSignal}
  {engine : TelemetryEngine}

/-- Once a frame is in, the signals of its message show the frame and the others what they did. -/
theorem readingAfter_moved (hshows : ShowsCarriers engine.latest faults carriers)
    (hencoder : encoder ∈ networkEncoders)
    (hname : decoded.messageName = encoder.message.name)
    (htime : decoded.timestampMicroseconds = state.timestamp.toNat)
    (hvalues : ∀ signal ∈ encoder.message.signals,
      decoded.signals.get? signal.name = some (encoder.shown faults signal state))
    (hother : other ∈ networkEncoders) (hsignal : signal ∈ other.message.signals) :
    engine.readingAfter decoded (other.key signal) =
      (carriers.moved encoder state).reading faults other signal := by
  unfold TelemetryEngine.readingAfter
  by_cases hsame : other.message.name = encoder.message.name
  · have heq := (networkEncoders_inj hother hencoder).1 hsame
    subst heq
    have hown : (other.key signal).messageName = decoded.messageName := hname.symm
    have hvalue : decoded.signals.get? (other.key signal).signalName =
        some (other.shown faults signal state) := hvalues signal hsignal
    simp only [if_pos hown, hvalue, Carriers.reading, Carriers.moved_self, htime, Option.map_some]
  · have hforeign : (other.key signal).messageName ≠ decoded.messageName := fun heq =>
      hsame (heq.trans hname)
    have hid : other.message.arbitrationId ≠ encoder.message.arbitrationId := fun heq =>
      hsame (congrArg (·.message.name) ((networkEncoders_inj hother hencoder).2 heq))
    rw [if_neg hforeign, Carriers.reading, Carriers.moved_of_ne hid]
    exact hshows other hother signal hsignal

/-- A signal is fresh while its carrier is at most two periods old. -/
theorem freshAfter_iff {moved : Carriers} (hcatalog : engine.catalog = packagedCatalog)
    (hother : other ∈ networkEncoders) (hsignal : signal ∈ other.message.signals)
    (htime : decoded.timestampMicroseconds = state.timestamp.toNat)
    (hreading : engine.readingAfter decoded (other.key signal) =
      moved.reading faults other signal) :
    engine.FreshAfter decoded (other.key signal) ↔
      ∃ carrier, moved other.message.arbitrationId = some carrier ∧
        state.timestamp.toNat - carrier.timestamp.toNat ≤ 2 * other.period := by
  obtain ⟨definition, hdefinition, hperiod⟩ := packagedCatalog_period hother hsignal
  unfold TelemetryEngine.FreshAfter
  rw [hreading, hcatalog, hdefinition, htime, Carriers.reading]
  constructor
  · rintro ⟨value, time, found, hpair, hfound, hage⟩
    obtain ⟨carrier, hcarrier, heq⟩ := Option.map_eq_some_iff.1 hpair
    cases heq
    cases hfound
    exact ⟨carrier, hcarrier, hperiod ▸ hage⟩
  · rintro ⟨carrier, hcarrier, hage⟩
    exact ⟨_, _, definition, Option.map_eq_some_iff.2 ⟨carrier, hcarrier, rfl⟩, rfl,
      hperiod ▸ hage⟩

end Reading

/-- What taking one frame does: the carrier of its message moves, and every rule is evaluated on a
snapshot that shows the carriers. -/
structure Took (messageDecode : DbcMessage → Bytes → Option (Dict String CanmatrixValue))
    (faults : List FaultConfiguration) (carriers : Carriers) (timestamp : ℕ)
    (pipeline next : Pipeline) : Prop where
  live : next.Live messageDecode faults carriers
  latest : next.telemetry.latestTimestampMicroseconds = some timestamp
  evaluated : ∃ snapshot : TelemetrySnapshot, next.telemetry.snapshot = .ok snapshot ∧
    snapshot.Observes faults carriers timestamp ∧
    ∀ rule ∈ defaultRules,
      (rule.evaluate (pipeline.diagnostics.states rule.code) snapshot timestamp).raised = none ∧
      next.diagnostics.states rule.code =
        (rule.evaluate (pipeline.diagnostics.states rule.code) snapshot timestamp).state

/-- A live pipeline ingests any frame of the network that is not older than the last one. -/
theorem Live.ingest (hdecodes : DecodesIntel messageDecode)
    (h : pipeline.Live messageDecode faults carriers) {encoder : FrameEncoder}
    (hencoder : encoder ∈ networkEncoders) {state : VehicleState}
    (hframe : frame.Observes (encoder.observed faults state))
    (hlater : ∀ latest, pipeline.telemetry.latestTimestampMicroseconds = some latest →
      latest ≤ state.timestamp.toNat) :
    ∃ update next, pipeline.ingestDecodable frame = (.ok update, next) ∧
      Took messageDecode faults (carriers.moved encoder state) state.timestamp.toNat pipeline
        next := by
  obtain ⟨decoded, hdecode, hname, htime, hsignals, hvalues⟩ :=
    decode_observed hdecodes hencoder hframe
  rw [← h.decoder] at hdecode
  have hstamp : frame.timestampMicroseconds = state.timestamp.toNat :=
    (Decoder.decode_timestamp hdecode).symm.trans htime
  obtain ⟨replayed, next, hreplay, hnext, hdecoder, hrules, hlatest, -⟩ :=
    h.replayable.replay hdecode (fun latest hsome => hstamp ▸ hlater latest hsome)
  obtain ⟨update, hingest⟩ :=
    ingestDecodable_of_replay h.replayable.sound hdecode hsignals hreplay
  obtain ⟨explorer, found, telemetry, diagnostics, hexplore, hfound, htaken, hobserve, rfl⟩ :=
    replay_ok hreplay
  rw [hdecode] at hfound
  cases hfound
  rw [hstamp] at hlatest
  have hreadings : ∀ other ∈ networkEncoders, ∀ signal ∈ other.message.signals,
      pipeline.telemetry.readingAfter decoded (other.key signal) =
        (carriers.moved encoder state).reading faults other signal :=
    fun other hother signal hsignal =>
      readingAfter_moved h.shows hencoder hname htime hvalues hother hsignal
  have hshows : ShowsCarriers telemetry.latest faults (carriers.moved encoder state) := by
    intro other hother signal hsignal
    rw [← hreadings other hother signal hsignal]
    exact TelemetryEngine.latest_reading htaken _
  have hlive : Live messageDecode faults (carriers.moved encoder state)
      { pipeline with explorer, telemetry, diagnostics } :=
    ⟨hnext, hdecoder.trans h.decoder, (TelemetryEngine.ingest_catalog htaken).trans h.catalog,
      hrules.trans h.rules, hshows⟩
  refine ⟨update, _, hingest, ?_, hlatest, ?_⟩
  · exact hlive.keeps ⟨rfl, rfl, (CanExplorer.ingest_decoder hexplore).symm, rfl, rfl⟩
  · unfold observe at hobserve
    split at hobserve
    · cases hobserve
    · rename_i snapshot hsnapshot
      refine ⟨snapshot, hsnapshot, ⟨?_, ?_⟩, ?_⟩
      · intro other hother signal hsignal
        rw [← hreadings other hother signal hsignal]
        exact TelemetryEngine.snapshot_reading h.replayable.sound htaken hsnapshot _
      · intro other hother signal hsignal
        rw [TelemetryEngine.fresh_iff h.replayable.sound htaken hsnapshot]
        exact freshAfter_iff h.catalog hother hsignal htime (hreadings other hother signal hsignal)
      · have hobservation : snapshot.observationTimestampMicroseconds =
            some state.timestamp.toNat := by
          obtain ⟨taken, htaken', -, htime', -⟩ := (h.replayable.sound.ingest htaken).snapshot
          rw [hsnapshot] at htaken'
          cases htaken'
          exact htime'.trans hlatest
        rcases DiagnosticEngine.ingest_ok hobserve with ⟨hnone, -⟩ | ⟨timestamp, hsome, -, hrules'⟩
        · rw [hobservation] at hnone
          cases hnone
        · rw [hobservation] at hsome
          cases hsome
          have hstates := (DiagnosticEngine.evaluateRules_rule
            pipeline.diagnostics.catalog.codes_nodup hrules').1
          rw [h.rules] at hstates
          exact fun rule hmem => ⟨(hstates rule hmem).1, (hstates rule hmem).2.1⟩

/-- What a source's loop does with such a frame: it is explored, and then ingested. -/
theorem Live.take (hdecodes : DecodesIntel messageDecode)
    (h : pipeline.Live messageDecode faults carriers) {encoder : FrameEncoder}
    (hencoder : encoder ∈ networkEncoders) {state : VehicleState}
    (hframe : frame.Observes (encoder.observed faults state))
    (hlater : ∀ latest, pipeline.telemetry.latestTimestampMicroseconds = some latest →
      latest ≤ state.timestamp.toNat) :
    ∃ update next, pipeline.ingestRaw frame = (.ok update, next) ∧
      Took messageDecode faults (carriers.moved encoder state) state.timestamp.toNat pipeline
        next := by
  obtain ⟨explored, explorer, hexplored, hdecoder⟩ := h.replayable.explored frame
  have hexploring : Live messageDecode faults carriers { pipeline with explorer } :=
    h.keeps ⟨rfl, rfl, hdecoder, rfl, rfl⟩
  obtain ⟨update, next, hingest, htook⟩ := hexploring.ingest hdecodes hencoder hframe hlater
  refine ⟨update, next, ?_, htook.live, htook.latest, htook.evaluated⟩
  rw [ingestRaw, hexplored]
  exact hingest

end Live

end Pipeline

end TunerOs
