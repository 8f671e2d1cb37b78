-- SUMMARY: Replaying a session: the loop over its frames and `replay_session`.
import TunerOs.Session.Recording
import TunerOs.Telemetry.Invariant
import TunerOs.Telemetry.Pipeline

/-!
# Session replay

`replay_session` feeds the frames of a session to a CAN explorer, a decoder, a
telemetry engine and a diagnostic engine of its own. It publishes nothing, so an
exception loses all of them.
-/

namespace TunerOs

open Containers

namespace Pipeline

/-- What the components made of one replayed frame. -/
structure ReplayedFrame where
  annotated : CanExplorerFrame
  samples : List SignalSample
  events : List DiagnosticEvent

/-- The body of a loop over the frames of a session. -/
def replay (pipeline : Pipeline) (rawFrame : RawCanFrame) :
    Except PyException (ReplayedFrame × Pipeline) :=
  match pipeline.explorer.ingest rawFrame with
  | .error error => .error error
  | .ok (annotated, explorer) =>
    match pipeline.decoder.decode rawFrame with
    | .error error => .error error
    | .ok decoded =>
      match pipeline.telemetry.ingest decoded with
      | .error error => .error error
      | .ok (samples, telemetry) =>
        match observe pipeline.diagnostics telemetry with
        | (.error error, _) => .error error
        | (.ok events, diagnostics) =>
          .ok (⟨annotated, samples, events⟩, { pipeline with explorer, telemetry, diagnostics })

/-- A loop over frames that keeps the components only. -/
def replayAll (pipeline : Pipeline) : List RawCanFrame → Except PyException Pipeline
  | [] => .ok pipeline
  | frame :: rest =>
    match pipeline.replay frame with
    | .error error => .error error
    | .ok (_, next) => next.replayAll rest

/-- A loop over frames that also keeps what the components made of every frame. -/
def replayTrace (pipeline : Pipeline) :
    List RawCanFrame → Except PyException (List ReplayedFrame × Pipeline)
  | [] => .ok ([], pipeline)
  | frame :: rest =>
    match pipeline.replay frame with
    | .error error => .error error
    | .ok (replayed, next) =>
      match next.replayTrace rest with
      | .error error => .error error
      | .ok (later, last) => .ok (replayed :: later, last)

theorem replay_ok {pipeline pipeline' : Pipeline} {rawFrame : RawCanFrame} {replayed : ReplayedFrame}
    (h : pipeline.replay rawFrame = .ok (replayed, pipeline')) :
    ∃ explorer decoded telemetry diagnostics,
      pipeline.explorer.ingest rawFrame = .ok (replayed.annotated, explorer) ∧
      pipeline.decoder.decode rawFrame = .ok decoded ∧
      pipeline.telemetry.ingest decoded = .ok (replayed.samples, telemetry) ∧
      observe pipeline.diagnostics telemetry = (.ok replayed.events, diagnostics) ∧
      pipeline' = { pipeline with explorer, telemetry, diagnostics } := by
  unfold replay at h
  split at h
  · cases h
  · rename_i annotated explorer hexplore
    split at h
    · cases h
    · rename_i decoded hdecode
      split at h
      · cases h
      · rename_i samples telemetry hingest
        split at h
        · cases h
        · rename_i events diagnostics hobserve
          cases h
          exact ⟨explorer, decoded, telemetry, diagnostics, hexplore, hdecode, hingest, hobserve,
            rfl⟩

theorem replayAll_sound {pipeline pipeline' : Pipeline} {frames : List RawCanFrame}
    (h : pipeline.replayAll frames = .ok pipeline') (hsound : pipeline.telemetry.Sound) :
    pipeline'.telemetry.Sound := by
  induction frames generalizing pipeline with
  | nil =>
    cases h
    exact hsound
  | cons frame rest ih =>
    rw [replayAll] at h
    split at h
    · cases h
    · rename_i replayed next hreplay
      obtain ⟨explorer, decoded, telemetry, diagnostics, -, -, hingest, -, rfl⟩ := replay_ok hreplay
      exact ih h (hsound.ingest hingest)

/-- A frame that a live source ingested is replayed to the same components. -/
theorem replay_of_ingestRaw {pipeline pipeline' : Pipeline} {rawFrame : RawCanFrame}
    {update : TelemetryUpdate} (h : pipeline.ingestRaw rawFrame = (.ok update, pipeline')) :
    ∃ replayed, pipeline.replay rawFrame = .ok (replayed, pipeline') := by
  obtain ⟨annotated, explorer, decoded, hexplore, hdecode, hdecoded⟩ := ingestRaw_ok h
  obtain ⟨samples, telemetry, snapshot, events, diagnostics, hingest, -, hsnapshot, hevents, rfl⟩ :=
    ingestDecoded_ok hdecoded
  refine ⟨⟨annotated, samples, events⟩, ?_⟩
  have hobserve : observe pipeline.diagnostics telemetry = (.ok events, diagnostics) := by
    rw [observe, hsnapshot]
    exact hevents
  simp only [] at hingest
  simp only [replay, hexplore, hdecode, hingest, hobserve]

end Pipeline

structure SessionReplayResult where
  snapshot : TelemetrySnapshot
  statistics : TelemetryStatistics
  engine : TelemetryEngine
  explorer : CanExplorer
  diagnostics : DiagnosticEngine

def dbcIncompatible : PyException :=
  ⟨.sessionDbcMismatchError,
    "recorded DBC SHA-256 is not compatible with the installed authoritative DBC"⟩

/-- `replay_session`; the explorer is one over the same decoder. -/
def replaySession (sha256 : Bytes → Sha256Digest) (authoritative : Sha256Digest)
    (reader : SessionReader) (decoder : Decoder) (explorer : CanExplorer) (historyCapacity : ℕ) :
    Except PyException SessionReplayResult := do
  if !isSupportedDbcSha256 authoritative reader.manifest.dbcSha256 then .error dbcIncompatible
  reader.validateIntegrity sha256
  let catalog ← SignalCatalog.create decoder.databaseMetadata
  let telemetry ← TelemetryEngine.create catalog historyCapacity
  let diagnosticCatalog ← createDefaultDiagnosticCatalog catalog
  let diagnostics ← DiagnosticEngine.create diagnosticCatalog defaultDiagnosticEventCapacity
  let stream := reader.frames sha256
  let pipeline ←
    Pipeline.replayAll ⟨decoder, telemetry, explorer.reset, diagnostics⟩ stream.yielded
  match stream.raised with
  | some error => .error error
  | none =>
    let snapshot ← pipeline.telemetry.snapshot
    return ⟨snapshot, pipeline.telemetry.statistics, pipeline.telemetry, pipeline.explorer,
      pipeline.diagnostics⟩

/-- Replaying a session that passes its checks, over the packaged database. -/
theorem replaySession_packaged {sha256 : Bytes → Sha256Digest} {authoritative : Sha256Digest}
    {messageDecode : DbcMessage → Bytes → Option (Dict String CanmatrixValue)}
    {reader : SessionReader} {frames : List RawCanFrame} {pipeline : Pipeline}
    (hdbc : isSupportedDbcSha256 authoritative reader.manifest.dbcSha256 = true)
    (hreads : reader.validateIntegrity sha256 = .ok () ∧ reader.frames sha256 = ⟨frames, none⟩)
    (hreplay : (Pipeline.packaged messageDecode).replayAll frames = .ok pipeline) :
    ∃ snapshot, pipeline.telemetry.snapshot = .ok snapshot ∧
      replaySession sha256 authoritative reader (packagedDecoder messageDecode)
        (.fresh (packagedDecoder messageDecode) defaultCanExplorerCapacity)
        defaultHistoryCapacity =
        .ok ⟨snapshot, pipeline.telemetry.statistics, pipeline.telemetry, pipeline.explorer,
          pipeline.diagnostics⟩ := by
  have hsound := Pipeline.replayAll_sound hreplay (TelemetryEngine.sound_fresh _ _)
  obtain ⟨snapshot, hsnapshot, -⟩ := hsound.snapshot
  have htelemetry : TelemetryEngine.create Pipeline.packagedCatalog defaultHistoryCapacity =
      .ok (.fresh Pipeline.packagedCatalog defaultHistoryCapacity) := rfl
  have hdiagnostics : DiagnosticEngine.create Pipeline.defaultDiagnosticCatalog
      defaultDiagnosticEventCapacity =
        .ok (.fresh Pipeline.defaultDiagnosticCatalog defaultDiagnosticEventCapacity) := rfl
  have hall : Pipeline.replayAll ⟨packagedDecoder messageDecode,
      .fresh Pipeline.packagedCatalog defaultHistoryCapacity,
      CanExplorer.reset (.fresh (packagedDecoder messageDecode) defaultCanExplorerCapacity),
      .fresh Pipeline.defaultDiagnosticCatalog defaultDiagnosticEventCapacity⟩ frames =
        .ok pipeline := hreplay
  refine ⟨snapshot, hsnapshot, ?_⟩
  simp only [replaySession, hdbc, hreads.1, hreads.2, Pipeline.createCatalog_packaged,
    Pipeline.createDiagnosticCatalog_packaged, htelemetry, hdiagnostics, hall, hsnapshot,
    Bool.not_true, Bool.false_eq_true, if_false, bind, Except.bind, pure, Except.pure]

end TunerOs
