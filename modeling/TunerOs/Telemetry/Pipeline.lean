-- SUMMARY: The decoder, telemetry engine, CAN explorer and diagnostic engine behind one service, and what one frame does to them.
import TunerOs.Can.Dbc
import TunerOs.Can.Explorer
import TunerOs.Diagnostics.Engine
import TunerOs.Lib.Fallible
import TunerOs.Telemetry.Engine

/-!
# The telemetry pipeline

The components a telemetry service owns. `ingestDecoded` and `ingestCanExplorer`
are the two sections of the service that write them, each under the state lock.
A section that raises keeps what it wrote before, so both return the pipeline
next to their result.
-/

namespace TunerOs

open Containers

structure TelemetryUpdate where
  timestampMicroseconds : ℕ
  frameSequence : ℕ
  arbitrationId : ℕ
  messageName : String
  sourceEcu : String
  samples : List SignalSample
  freshness : List SignalFreshness
deriving DecidableEq

structure CanExplorerUpdate where
  frame : CanExplorerFrame
  statistics : CanExplorerStatistics
  messageStatistics : CanMessageStatistics
deriving DecidableEq

structure Pipeline where
  decoder : Decoder
  telemetry : TelemetryEngine
  explorer : CanExplorer
  diagnostics : DiagnosticEngine

namespace Pipeline

def noSignals : PyException :=
  ⟨.telemetrySchemaError, "decoded telemetry frames must contain at least one signal"⟩

def noFreshness : PyException :=
  ⟨.assertionError, "an accepted telemetry sample must have freshness"⟩

def noSamples : PyException := ⟨.indexError, "tuple index out of range"⟩

/-- The freshness of a sample that was just ingested. -/
def acceptedFreshness (telemetry : TelemetryEngine) (sample : SignalSample) :
    Except PyException SignalFreshness :=
  match telemetry.freshness sample.key with
  | .error error => .error error
  | .ok none => .error noFreshness
  | .ok (some status) => .ok status

/-- The update published for an accepted frame. -/
def updateOf (frame : DecodedCanFrame) (samples : List SignalSample)
    (telemetry : TelemetryEngine) : Except PyException TelemetryUpdate :=
  match samples.mapM (acceptedFreshness telemetry) with
  | .error error => .error error
  | .ok freshness =>
    match samples with
    | [] => .error noSamples
    | first :: _ =>
      .ok {
        timestampMicroseconds := frame.timestampMicroseconds
        frameSequence := first.frameSequence
        arbitrationId := frame.arbitrationId
        messageName := frame.messageName
        sourceEcu := first.sourceEcu
        samples := samples
        freshness := freshness }

/-- `diagnostics.ingest(engine.snapshot())`. -/
def observe (diagnostics : DiagnosticEngine) (telemetry : TelemetryEngine) :
    Except PyException (List DiagnosticEvent) × DiagnosticEngine :=
  match telemetry.snapshot with
  | .error error => (.error error, diagnostics)
  | .ok snapshot => diagnostics.ingest snapshot

/-- `ingest_decoded`, up to publishing the update it returns. -/
def ingestDecoded (pipeline : Pipeline) (frame : DecodedCanFrame) :
    Except PyException TelemetryUpdate × Pipeline :=
  if frame.signals.entries = [] then (.error noSignals, pipeline)
  else
    match pipeline.telemetry.ingest frame with
    | .error error => (.error error, pipeline)
    | .ok (samples, telemetry) =>
      match updateOf frame samples telemetry with
      | .error error => (.error error, { pipeline with telemetry })
      | .ok update =>
        match observe pipeline.diagnostics telemetry with
        | (.error error, diagnostics) => (.error error, { pipeline with telemetry, diagnostics })
        | (.ok _, diagnostics) => (.ok update, { pipeline with telemetry, diagnostics })

/-- `_ingest_can_explorer`, up to publishing the update it returns. -/
def ingestCanExplorer (pipeline : Pipeline) (rawFrame : RawCanFrame) :
    Except PyException CanExplorerUpdate × Pipeline :=
  match pipeline.explorer.ingest rawFrame with
  | .error error => (.error error, pipeline)
  | .ok (frame, explorer) =>
    match explorer.messageStatistic rawFrame.arbitrationId with
    | .error error => (.error error, { pipeline with explorer })
    | .ok statistic =>
      (.ok ⟨frame, explorer.statistics, statistic⟩, { pipeline with explorer })

/-- `self.ingest_decoded(self._decoder.decode(raw_frame))`. -/
def ingestDecodable (pipeline : Pipeline) (rawFrame : RawCanFrame) :
    Except PyException TelemetryUpdate × Pipeline :=
  match pipeline.decoder.decode rawFrame with
  | .error error => (.error error, pipeline)
  | .ok decoded => pipeline.ingestDecoded decoded

/-- What a source's loop does with one raw frame. -/
def ingestRaw (pipeline : Pipeline) (rawFrame : RawCanFrame) :
    Except PyException TelemetryUpdate × Pipeline :=
  match pipeline.ingestCanExplorer rawFrame with
  | (.error error, pipeline) => (.error error, pipeline)
  | (.ok _, pipeline) => pipeline.ingestDecodable rawFrame

/-- The components with which a service is constructed when it is given none. -/
def create (decoder : Decoder) (historyCapacity canExplorerCapacity diagnosticEventCapacity : ℕ) :
    Except PyException Pipeline := do
  let catalog ← SignalCatalog.create decoder.databaseMetadata
  let telemetry ← TelemetryEngine.create catalog historyCapacity
  let explorer ← CanExplorer.create decoder canExplorerCapacity
  let diagnosticCatalog ← createDefaultDiagnosticCatalog catalog
  let diagnostics ← DiagnosticEngine.create diagnosticCatalog diagnosticEventCapacity
  return { decoder, telemetry, explorer, diagnostics }

/-! ## The packaged database -/

/-- The catalog of the packaged database. -/
def packagedCatalog : SignalCatalog where
  messages := packagedMessages.map DbcMessage.metadata
  ids_nodup := by decide
  keys_nodup := by decide

/-- The catalog of the default rules. -/
def defaultDiagnosticCatalog : DiagnosticCatalog where
  rules := defaultRules
  codes_nodup := by decide
  ruleIds_nodup := by decide

/-- The pipeline of a service that is constructed with defaults. -/
def packaged (messageDecode : DbcMessage → Bytes → Option (Dict String CanmatrixValue)) :
    Pipeline where
  decoder := packagedDecoder messageDecode
  telemetry := .fresh packagedCatalog defaultHistoryCapacity
  explorer := .fresh (packagedDecoder messageDecode) defaultCanExplorerCapacity
  diagnostics := .fresh defaultDiagnosticCatalog defaultDiagnosticEventCapacity

theorem createCatalog_packaged
    (messageDecode : DbcMessage → Bytes → Option (Dict String CanmatrixValue)) :
    SignalCatalog.create (packagedDecoder messageDecode).databaseMetadata = .ok packagedCatalog := by
  rfl

theorem createDiagnosticCatalog_packaged :
    createDefaultDiagnosticCatalog packagedCatalog = .ok defaultDiagnosticCatalog := by
  rfl

theorem create_packaged
    (messageDecode : DbcMessage → Bytes → Option (Dict String CanmatrixValue)) :
    create (packagedDecoder messageDecode) defaultHistoryCapacity defaultCanExplorerCapacity
      defaultDiagnosticEventCapacity = .ok (packaged messageDecode) := by
  simp only [create, createCatalog_packaged, createDiagnosticCatalog_packaged, bind, Except.bind,
    pure, Except.pure]
  rfl

/-! ## What a section that returns did -/

/-- An update carries the frame's samples, numbered as the first of them, and their freshness. -/
theorem updateOf_ok {frame : DecodedCanFrame} {samples : List SignalSample}
    {telemetry : TelemetryEngine} {update : TelemetryUpdate}
    (h : updateOf frame samples telemetry = .ok update) :
    ∃ first rest freshness, samples = first :: rest ∧ freshness.length = samples.length ∧
      update = ⟨frame.timestampMicroseconds, first.frameSequence, frame.arbitrationId,
        frame.messageName, first.sourceEcu, samples, freshness⟩ := by
  unfold updateOf at h
  split at h
  · cases h
  · rename_i freshness hfreshness
    split at h
    · cases h
    · rename_i first rest
      cases h
      exact ⟨first, rest, freshness, rfl,
        (Fallible.forall₂_of_mapM hfreshness).length_eq.symm, rfl⟩

/-- A decoded frame that was ingested was accepted by the telemetry engine, and the diagnostic
engine observed the snapshot after it. -/
theorem ingestDecoded_ok {pipeline pipeline' : Pipeline} {frame : DecodedCanFrame}
    {update : TelemetryUpdate} (h : pipeline.ingestDecoded frame = (.ok update, pipeline')) :
    ∃ samples telemetry snapshot events diagnostics,
      pipeline.telemetry.ingest frame = .ok (samples, telemetry) ∧
      updateOf frame samples telemetry = .ok update ∧
      telemetry.snapshot = .ok snapshot ∧
      pipeline.diagnostics.ingest snapshot = (.ok events, diagnostics) ∧
      pipeline' = { pipeline with telemetry, diagnostics } := by
  unfold ingestDecoded at h
  split at h
  · cases h
  · split at h
    · cases h
    · rename_i samples telemetry hingest
      split at h
      · cases h
      · rename_i accepted hupdate
        split at h
        · cases h
        · rename_i events diagnostics hobserve
          cases h
          unfold observe at hobserve
          split at hobserve
          · cases hobserve
          · rename_i snapshot hsnapshot
            exact ⟨samples, telemetry, snapshot, events, diagnostics, hingest, hupdate, hsnapshot,
              hobserve, rfl⟩

theorem ingestCanExplorer_ok {pipeline pipeline' : Pipeline} {rawFrame : RawCanFrame}
    {update : CanExplorerUpdate}
    (h : pipeline.ingestCanExplorer rawFrame = (.ok update, pipeline')) :
    ∃ frame explorer, pipeline.explorer.ingest rawFrame = .ok (frame, explorer) ∧
      pipeline' = { pipeline with explorer } := by
  unfold ingestCanExplorer at h
  split at h
  · cases h
  · rename_i frame explorer hingest
    split at h <;> cases h
    exact ⟨frame, explorer, hingest, rfl⟩

/-- A raw frame that was ingested went through all four components. -/
theorem ingestRaw_ok {pipeline pipeline' : Pipeline} {rawFrame : RawCanFrame}
    {update : TelemetryUpdate} (h : pipeline.ingestRaw rawFrame = (.ok update, pipeline')) :
    ∃ frame explorer decoded, pipeline.explorer.ingest rawFrame = .ok (frame, explorer) ∧
      pipeline.decoder.decode rawFrame = .ok decoded ∧
      ({ pipeline with explorer } : Pipeline).ingestDecoded decoded = (.ok update, pipeline') := by
  unfold ingestRaw at h
  split at h
  · cases h
  · rename_i explored next hexplore
    obtain ⟨frame, explorer, hingest, rfl⟩ := ingestCanExplorer_ok hexplore
    unfold ingestDecodable at h
    split at h
    · cases h
    · rename_i decoded hdecode
      exact ⟨frame, explorer, decoded, hingest, hdecode, h⟩

/-- Ingesting a decoded frame leaves the telemetry engine alone or ingests the frame in it. -/
theorem ingestDecoded_telemetry (pipeline : Pipeline) (frame : DecodedCanFrame) :
    (pipeline.ingestDecoded frame).2.telemetry = pipeline.telemetry ∨
      ∃ samples, pipeline.telemetry.ingest frame =
        .ok (samples, (pipeline.ingestDecoded frame).2.telemetry) := by
  unfold ingestDecoded
  split
  · exact Or.inl rfl
  · split
    · exact Or.inl rfl
    · rename_i samples telemetry hingest
      refine Or.inr ⟨samples, ?_⟩
      split
      · exact hingest
      · split <;> exact hingest

theorem ingestCanExplorer_telemetry (pipeline : Pipeline) (rawFrame : RawCanFrame) :
    (pipeline.ingestCanExplorer rawFrame).2.telemetry = pipeline.telemetry := by
  unfold ingestCanExplorer
  split
  · rfl
  · split <;> rfl

end Pipeline

end TunerOs
