-- SUMMARY: Replaying decodable frames in order returns, and every event carries the time of the frame that caused it.
import TunerOs.Diagnostics.Totality
import TunerOs.Session.Replay

/-!
# Decodable sessions

A pipeline over one database replays every decodable frame that is not older than
the frame before it: the decoder gives the signals the catalog lists, with the types
the default rules expect.
-/

namespace TunerOs

open Containers

/-- The decoder gives every value the type of its signal. -/
theorem Decoder.decode_typed {decoder : Decoder} {frame : RawCanFrame} {decoded : DecodedCanFrame}
    (h : decoder.decode frame = .ok decoded) :
    ∀ entry ∈ decoded.signals.entries, entry.2.TypedAs entry.1 := by
  obtain ⟨message, values, -, -, -, rfl⟩ := decode_ok h
  intro entry hmem
  obtain ⟨value, -, rfl⟩ := List.mem_map.1 hmem
  simp only [signalValue]
  split
  · rename_i hname
    exact hname
  · rename_i hname
    exact hname

section Schema

variable {catalog : SignalCatalog} {decoder : Decoder} {frame : RawCanFrame}
  {decoded : DecodedCanFrame}

/-- Frames the decoder returns pass the schema check of a catalog of its database. -/
theorem SignalCatalog.definitionsForFrame_decoded (hdecodes : decoder.DecodesSignals)
    (hcatalog : catalog.messages = decoder.databaseMetadata)
    (hdecode : decoder.decode frame = .ok decoded) :
    ∃ definitions, catalog.definitionsForFrame decoded = .ok definitions := by
  obtain ⟨message, hmessage, hname, hid, hkeys⟩ := hdecodes.keys hdecode
  have hlisted : catalog.messageById decoded.arbitrationId = some message.metadata := by
    rw [messageById, hcatalog, hid, Decoder.find?_databaseMetadata, hmessage]
    rfl
  have hdefined : ∀ name ∈ decoded.signals.keys,
      (catalog.get? ⟨decoded.messageName, name⟩).isSome := by
    intro name hmem
    obtain ⟨signal, hsignal, rfl⟩ := List.mem_map.1 ((hkeys name).1 hmem)
    have hmetadata : message.metadata ∈ catalog.messages := by
      rw [hcatalog]
      exact List.mem_map_of_mem (Decoder.frameById_mem hmessage).1
    have hdefinition : message.metadata.definition ⟨signal.name, signal.unit⟩ ∈
        catalog.definitions := by
      refine List.mem_flatMap.2 ⟨message.metadata, hmetadata, List.mem_map_of_mem ?_⟩
      exact List.mem_map_of_mem (f := fun signal : DbcSignal =>
        (⟨signal.name, signal.unit⟩ : CanSignalMetadata)) hsignal
    have hget := get?_of_mem hdefinition
    rw [hname]
    exact Option.isSome_iff_exists.2 ⟨_, hget⟩
  obtain ⟨definitions, hdefinitions⟩ := definitionsForSignals_returns hdefined
  refine ⟨definitions, ?_⟩
  simp only [definitionsForFrame, hlisted, hname, DbcMessage.metadata, ne_eq, not_true_eq_false,
    if_false]
  exact hdefinitions

/-- The samples of a decoded frame have the types of their signals. -/
theorem TelemetryEngine.ingest_typed {engine engine' : TelemetryEngine} {samples : List SignalSample}
    (hingest : engine.ingest decoded = .ok (samples, engine'))
    (htyped : ∀ entry ∈ decoded.signals.entries, entry.2.TypedAs entry.1) :
    ∀ sample ∈ samples, sample.value.TypedAs sample.key.signalName := by
  obtain ⟨-, definitions, hdefinitions, rfl, -⟩ := ingest_ok_iff.1 hingest
  intro sample hmem
  obtain ⟨entry, hentry, hkey, hvalue⟩ :=
    samples_entries (listed_of_definitionsForFrame hdefinitions) hmem
  rw [hkey, hvalue]
  exact htyped entry hentry

end Schema

namespace Pipeline

/-- A pipeline over one database whose diagnostic engine observed every accepted frame. -/
structure Replayable (pipeline : Pipeline) : Prop where
  decodes : pipeline.decoder.DecodesSignals
  sameDecoder : pipeline.explorer.decoder = pipeline.decoder
  sound : pipeline.telemetry.Sound
  catalogued : pipeline.telemetry.catalog.messages = pipeline.decoder.databaseMetadata
  typed : ∀ key sample, pipeline.telemetry.latest.get? key = some sample →
    sample.value.TypedAs key.signalName
  rules : ∀ rule ∈ pipeline.diagnostics.catalog.rules, rule.Returns
  observed : pipeline.diagnostics.observationTimestampMicroseconds =
    pipeline.telemetry.latestTimestampMicroseconds

/-- The frame is not older than the last one the pipeline accepted. -/
def Accepts (pipeline : Pipeline) (frame : RawCanFrame) : Prop :=
  ∀ latest, pipeline.telemetry.latestTimestampMicroseconds = some latest →
    latest ≤ frame.timestampMicroseconds

/-- A decodable frame that is not older than the last one is replayed. -/
theorem Replayable.replay {pipeline : Pipeline} (h : pipeline.Replayable) {frame : RawCanFrame}
    {decoded : DecodedCanFrame} (hdecode : pipeline.decoder.decode frame = .ok decoded)
    (haccepts : pipeline.Accepts frame) :
    ∃ replayed next, pipeline.replay frame = .ok (replayed, next) ∧ next.Replayable ∧
      next.decoder = pipeline.decoder ∧
      next.diagnostics.catalog = pipeline.diagnostics.catalog ∧
      next.telemetry.latestTimestampMicroseconds = some frame.timestampMicroseconds ∧
      ∀ event ∈ replayed.events, event.timestampMicroseconds = frame.timestampMicroseconds := by
  have htime := Decoder.decode_timestamp hdecode
  obtain ⟨annotated, explorer, hexplore⟩ :=
    CanExplorer.ingest_returns (h.sameDecoder ▸ h.decodes) frame
  obtain ⟨definitions, hdefinitions⟩ :=
    SignalCatalog.definitionsForFrame_decoded h.decodes h.catalogued hdecode
  have hlater : pipeline.telemetry.laterThan decoded = none := by
    rw [TelemetryEngine.laterThan_eq_none, htime]
    exact haccepts
  have hingest := TelemetryEngine.ingest_ok_iff.2 ⟨hlater, definitions, hdefinitions, rfl, rfl⟩
  have hsound := h.sound.ingest hingest
  have htyped := TelemetryEngine.ingest_typed hingest (Decoder.decode_typed hdecode)
  revert hingest hsound htyped
  generalize hsamples : List.zipWith _ definitions decoded.signals.values = samples
  generalize htelemetry : pipeline.telemetry.accept decoded samples = telemetry
  intro hingest hsound htyped
  have hcatalog := TelemetryEngine.ingest_catalog hingest
  have hlatest : telemetry.latest =
      samples.foldl (fun latest sample => latest.set sample.key sample) pipeline.telemetry.latest := by
    rw [← htelemetry, TelemetryEngine.accept_eq]
  have hstamped : telemetry.latestTimestampMicroseconds = some frame.timestampMicroseconds := by
    rw [← htelemetry, TelemetryEngine.accept_eq, ← htime]
  have hnumbered : telemetry.lastFrameSequence = some pipeline.telemetry.nextFrameSequence := by
    rw [← htelemetry, TelemetryEngine.accept_eq]
  have hvalues : ∀ key sample, telemetry.latest.get? key = some sample →
      sample.value.TypedAs key.signalName := by
    intro key sample hget
    rw [hlatest] at hget
    rcases Dict.get?_foldl_set_cases hget with ⟨written, hmem, rfl, rfl⟩ | ⟨-, hold⟩
    · exact htyped written hmem
    · exact h.typed key sample hold
  obtain ⟨snapshot, hsnapshot, hobserved, hobservation, hsequence, -⟩ := hsound.snapshot
  rw [hstamped] at hobservation
  rw [hnumbered] at hsequence
  have hsnapshotTyped : snapshot.Typed := by
    intro key sample hget
    rw [hobserved] at hget
    exact hvalues key sample hget
  have hforward : ∀ earlier, pipeline.diagnostics.observationTimestampMicroseconds = some earlier →
      earlier ≤ frame.timestampMicroseconds := by
    rw [h.observed]
    exact haccepts
  obtain ⟨events, diagnostics, hevents⟩ :=
    DiagnosticEngine.ingest_returns h.rules hsnapshotTyped hsequence hobservation hforward
  obtain ⟨hkept, hstampedDiagnostics, htimes⟩ :=
    DiagnosticEngine.ingest_keeps hevents hobservation
  have hobserve : observe pipeline.diagnostics telemetry = (.ok events, diagnostics) := by
    rw [observe, hsnapshot]
    exact hevents
  have hexplorer := CanExplorer.ingest_decoder hexplore
  refine ⟨⟨annotated, samples, events⟩, { pipeline with explorer, telemetry, diagnostics }, ?_, ?_,
    rfl, hkept, hstamped, htimes⟩
  · simp only [Pipeline.replay, hexplore, hdecode, hingest, hobserve]
  · exact {
      decodes := h.decodes
      sameDecoder := hexplorer.trans h.sameDecoder
      sound := hsound
      catalogued := (congrArg _ hcatalog).trans h.catalogued
      typed := hvalues
      rules := by
        intro rule hmem
        rw [hkept] at hmem
        exact h.rules rule hmem
      observed := hstampedDiagnostics.trans hstamped.symm }

/-- The frames of a session that the decoder decodes. -/
def Decodable (decoder : Decoder) (frames : List RawCanFrame) : Prop :=
  ∀ frame ∈ frames, ∃ decoded, decoder.decode frame = .ok decoded

/-! ## Traces -/

section Traces

variable {pipeline mid next : Pipeline} {frames : List RawCanFrame} {frame : RawCanFrame}
  {trace : List ReplayedFrame} {replayed : ReplayedFrame}

/-- Replaying one more frame. -/
theorem replayTrace_snoc (h : pipeline.replayTrace frames = .ok (trace, mid))
    (hreplay : mid.replay frame = .ok (replayed, next)) :
    pipeline.replayTrace (frames ++ [frame]) = .ok (trace ++ [replayed], next) := by
  induction frames generalizing pipeline trace with
  | nil =>
    cases h
    simp only [List.nil_append, replayTrace, hreplay]
  | cons first rest ih =>
    simp only [replayTrace] at h
    split at h
    · cases h
    · rename_i head between hfirst
      split at h
      · cases h
      · rename_i later last hrest
        cases h
        simp only [List.cons_append, replayTrace, hfirst, ih hrest]

theorem replayAll_of_trace (h : pipeline.replayTrace frames = .ok (trace, next)) :
    pipeline.replayAll frames = .ok next := by
  induction frames generalizing pipeline trace with
  | nil =>
    cases h
    rfl
  | cons first rest ih =>
    simp only [replayTrace] at h
    split at h
    · cases h
    · rename_i head between hfirst
      split at h
      · cases h
      · rename_i later last hrest
        cases h
        simp only [replayAll, hfirst, ih hrest]

/-- A session of decodable frames in order is replayed to its end. -/
theorem Replayable.replayTrace (h : pipeline.Replayable)
    (hdecodable : Decodable pipeline.decoder frames) (hordered : InOrder frames)
    (hnext : ∀ frame ∈ frames.head?, pipeline.Accepts frame) :
    ∃ trace next, pipeline.replayTrace frames = .ok (trace, next) := by
  induction frames generalizing pipeline with
  | nil => exact ⟨[], pipeline, rfl⟩
  | cons frame rest ih =>
    obtain ⟨decoded, hdecode⟩ := hdecodable frame List.mem_cons_self
    obtain ⟨replayed, next, hreplay, hreplayable, hdecoder, -, hlatest, -⟩ :=
      h.replay hdecode (hnext frame rfl)
    obtain ⟨hhead, hrest⟩ := List.isChain_cons.1 hordered
    have haccepts : ∀ later ∈ rest.head?, next.Accepts later := by
      intro later hmem latest hsome
      rw [hlatest] at hsome
      cases hsome
      exact hhead later hmem
    have hlater : Decodable next.decoder rest := by
      rw [hdecoder]
      exact fun other hmem => hdecodable other (List.mem_cons_of_mem _ hmem)
    obtain ⟨trace, last, htrace⟩ := ih hreplayable hlater hrest haccepts
    exact ⟨replayed :: trace, last, by simp only [Pipeline.replayTrace, hreplay, htrace]⟩

end Traces

/-! ## Buffers

How many samples and annotated frames are kept does not affect what is diagnosed. -/

/-- The pipelines differ in their buffers only. -/
structure SameDiagnosis (p q : Pipeline) : Prop where
  decoder : q.decoder = p.decoder
  diagnostics : q.diagnostics = p.diagnostics
  telemetry : ∃ histories historyCapacity, q.telemetry = { p.telemetry with
    histories := histories
    historyCapacity := historyCapacity }

section Buffers

variable {p p' q q' : Pipeline}

theorem SameDiagnosis.replay (h : SameDiagnosis p q) {frame : RawCanFrame} {r s : ReplayedFrame}
    (hp : p.replay frame = .ok (r, p')) (hq : q.replay frame = .ok (s, q')) :
    s.events = r.events ∧ SameDiagnosis p' q' := by
  obtain ⟨hdecoder, hdiagnostics, histories, historyCapacity, htelemetry⟩ := h
  obtain ⟨explorer, decoded, telemetry, diagnostics, -, hdecode, hingest, hobserve, rfl⟩ :=
    replay_ok hp
  obtain ⟨explorer', decoded', telemetry', diagnostics', -, hdecode', hingest', hobserve', rfl⟩ :=
    replay_ok hq
  rw [hdecoder, hdecode] at hdecode'
  cases hdecode'
  obtain ⟨-, definitions, hdefinitions, hsamples, rfl⟩ := TelemetryEngine.ingest_ok_iff.1 hingest
  obtain ⟨-, definitions', hdefinitions', hsamples', rfl⟩ :=
    TelemetryEngine.ingest_ok_iff.1 hingest'
  rw [htelemetry] at hdefinitions' hsamples'
  have hdefined : p.telemetry.catalog.definitionsForFrame decoded = .ok definitions' := hdefinitions'
  rw [hdefined] at hdefinitions
  cases hdefinitions
  have hsame : s.samples = r.samples := hsamples'.trans hsamples.symm
  have haccepted : ∃ histories historyCapacity, q.telemetry.accept decoded s.samples =
      { p.telemetry.accept decoded r.samples with
        histories := histories
        historyCapacity := historyCapacity } := by
    refine ⟨(q.telemetry.accept decoded s.samples).histories, historyCapacity, ?_⟩
    rw [TelemetryEngine.accept_eq, TelemetryEngine.accept_eq, hsame, htelemetry]
  obtain ⟨kept, capacity, haccept⟩ := haccepted
  have hsnapshot : (q.telemetry.accept decoded s.samples).snapshot =
      (p.telemetry.accept decoded r.samples).snapshot := by
    rw [haccept]
    rfl
  have hobserved : observe q.diagnostics (q.telemetry.accept decoded s.samples) =
      observe p.diagnostics (p.telemetry.accept decoded r.samples) := by
    rw [observe, observe, hsnapshot, hdiagnostics]
  rw [hobserved, hobserve] at hobserve'
  obtain ⟨hevents, hnext⟩ := Prod.mk.inj hobserve'
  exact ⟨(Except.ok.inj hevents).symm, hdecoder, hnext.symm, kept, capacity, haccept⟩

theorem SameDiagnosis.replayTrace (h : SameDiagnosis p q) {frames : List RawCanFrame}
    {r s : List ReplayedFrame} (hp : p.replayTrace frames = .ok (r, p'))
    (hq : q.replayTrace frames = .ok (s, q')) :
    s.flatMap (·.events) = r.flatMap (·.events) ∧ SameDiagnosis p' q' := by
  induction frames generalizing p q r s with
  | nil =>
    cases hp
    cases hq
    exact ⟨rfl, h⟩
  | cons frame rest ih =>
    simp only [Pipeline.replayTrace] at hp hq
    split at hp
    · cases hp
    · rename_i first next hfirst
      split at hq
      · cases hq
      · rename_i first' next' hfirst'
        split at hp
        · cases hp
        · rename_i later last hrest
          split at hq
          · cases hq
          · rename_i later' last' hrest'
            cases hp
            cases hq
            obtain ⟨hevents, hnext⟩ := h.replay hfirst hfirst'
            obtain ⟨hlater, hlast⟩ := ih hnext hrest hrest'
            exact ⟨by rw [List.flatMap_cons, List.flatMap_cons, hevents, hlater], hlast⟩

/-- Pipelines that differ in their buffers only replay the same frames to the same diagnosis. -/
theorem SameDiagnosis.replayable (h : SameDiagnosis p q) (hp : p.Replayable) (hq : q.Replayable)
    {frames : List RawCanFrame} (hdecodable : Decodable p.decoder frames)
    (hordered : InOrder frames) (hfirst : ∀ frame ∈ frames.head?, p.Accepts frame) :
    ∃ r p' s q', p.replayTrace frames = .ok (r, p') ∧ q.replayTrace frames = .ok (s, q') ∧
      s.flatMap (·.events) = r.flatMap (·.events) ∧ q'.diagnostics = p'.diagnostics := by
  have hdecodable' : Decodable q.decoder frames := by rwa [h.decoder]
  have hfirst' : ∀ frame ∈ frames.head?, q.Accepts frame := by
    obtain ⟨histories, historyCapacity, htelemetry⟩ := h.telemetry
    unfold Accepts
    rw [htelemetry]
    exact hfirst
  obtain ⟨r, p', hr⟩ := hp.replayTrace hdecodable hordered hfirst
  obtain ⟨s, q', hs⟩ := hq.replayTrace hdecodable' hordered hfirst'
  obtain ⟨hevents, hsame⟩ := h.replayTrace hr hs
  exact ⟨r, p', s, q', hr, hs, hevents, hsame.diagnostics⟩

end Buffers

/-! ## Pipelines over the packaged database -/

section Packaged

variable {messageDecode : DbcMessage → Bytes → Option (Dict String CanmatrixValue)}
  {historyCapacity canExplorerCapacity diagnosticEventCapacity : ℕ} {pipeline : Pipeline}

theorem create_packaged_ok
    (h : create (packagedDecoder messageDecode) historyCapacity canExplorerCapacity
      diagnosticEventCapacity = .ok pipeline) :
    pipeline = {
      decoder := packagedDecoder messageDecode
      telemetry := .fresh packagedCatalog historyCapacity
      explorer := .fresh (packagedDecoder messageDecode) canExplorerCapacity
      diagnostics := .fresh defaultDiagnosticCatalog diagnosticEventCapacity } := by
  simp only [create, createCatalog_packaged, createDiagnosticCatalog_packaged,
    TelemetryEngine.create, CanExplorer.create, DiagnosticEngine.create, bind, Except.bind] at h
  by_cases hhistory : historyCapacity = 0
  · rw [if_pos hhistory] at h
    cases h
  · by_cases hexplorer : canExplorerCapacity = 0
    · rw [if_neg hhistory, if_pos hexplorer] at h
      cases h
    · by_cases hevents : diagnosticEventCapacity = 0
      · rw [if_neg hhistory, if_neg hexplorer, if_pos hevents] at h
        cases h
      · rw [if_neg hhistory, if_neg hexplorer, if_neg hevents] at h
        exact (Except.ok.inj h).symm

theorem sameDiagnosis_packaged {other : Pipeline} {otherHistoryCapacity otherExplorerCapacity : ℕ}
    (h : create (packagedDecoder messageDecode) historyCapacity canExplorerCapacity
      diagnosticEventCapacity = .ok pipeline)
    (hother : create (packagedDecoder messageDecode) otherHistoryCapacity otherExplorerCapacity
      diagnosticEventCapacity = .ok other) : SameDiagnosis pipeline other := by
  rw [create_packaged_ok h, create_packaged_ok hother]
  exact ⟨rfl, rfl, .empty, otherHistoryCapacity, rfl⟩

theorem replayable_packaged (hdecodes : (packagedDecoder messageDecode).DecodesSignals)
    (historyCapacity canExplorerCapacity diagnosticEventCapacity : ℕ) :
    Replayable {
      decoder := packagedDecoder messageDecode
      telemetry := .fresh packagedCatalog historyCapacity
      explorer := .fresh (packagedDecoder messageDecode) canExplorerCapacity
      diagnostics := .fresh defaultDiagnosticCatalog diagnosticEventCapacity } where
  decodes := hdecodes
  sameDecoder := rfl
  sound := TelemetryEngine.sound_fresh _ _
  catalogued := rfl
  typed := nofun
  rules := defaultRules_return
  observed := rfl

theorem create_replayable (hdecodes : (packagedDecoder messageDecode).DecodesSignals)
    (h : create (packagedDecoder messageDecode) historyCapacity canExplorerCapacity
      diagnosticEventCapacity = .ok pipeline) : pipeline.Replayable := by
  rw [create_packaged_ok h]
  exact replayable_packaged hdecodes _ _ _

end Packaged

end Pipeline

end TunerOs
