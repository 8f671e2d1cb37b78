-- SUMMARY: What a newly started source inherits: replays start from reset components, live sources keep the telemetry engine.
import TunerOs.Telemetry.Invariant
import TunerOs.Telemetry.SourceExclusion

/-!
# The state a source starts from

`start_replay` resets the telemetry engine, the CAN explorer and the diagnostic
engine; `start` resets the last two only. A telemetry engine is in its reset state
exactly when it has accepted no frame since.
-/

namespace TunerOs

open Containers Transition

/-- An engine that has accepted no frame is the one `reset` leaves. -/
def TelemetryEngine.FreshOrUsed (engine : TelemetryEngine) : Prop :=
  engine.totalFrames = 0 → engine = engine.reset

theorem TelemetryEngine.FreshOrUsed.ingest {engine engine' : TelemetryEngine}
    {frame : DecodedCanFrame} {samples : List SignalSample}
    (h : engine.ingest frame = .ok (samples, engine')) : engine'.FreshOrUsed := by
  obtain ⟨-, definitions, -, -, rfl⟩ := ingest_ok_iff.1 h
  intro hzero
  rw [accept_eq] at hzero
  cases hzero

theorem TelemetryEngine.freshOrUsed_reset (engine : TelemetryEngine) :
    engine.reset.FreshOrUsed := fun _ => rfl

namespace Pipeline

/-- The three components are in their reset state. -/
structure AtReset (pipeline : Pipeline) : Prop where
  telemetry : pipeline.telemetry = pipeline.telemetry.reset
  explorer : pipeline.explorer = pipeline.explorer.reset
  diagnostics : pipeline.diagnostics = pipeline.diagnostics.reset

/-- The sequences begin at 0, and no sample, statistic, frame or record is visible. -/
structure Blank (pipeline : Pipeline) : Prop where
  telemetrySequence : pipeline.telemetry.nextFrameSequence = 0
  rawSequence : pipeline.explorer.nextSequence = 0
  eventSequence : pipeline.diagnostics.nextEventSequence = 0
  latest : pipeline.telemetry.latest = .empty
  histories : pipeline.telemetry.histories = .empty
  statistics : pipeline.telemetry.statistics = ⟨0, 0, none, none, .empty⟩
  frames : pipeline.explorer.buffer.items = []
  messages : pipeline.explorer.messages = .empty
  dtcs : ∀ status, pipeline.diagnostics.dtcs status = []
  events : pipeline.diagnostics.eventLog.items = []
  freezeFrames : ∀ code, (pipeline.diagnostics.states code).freezeFrame = none

theorem records_reset (engine : DiagnosticEngine) : engine.reset.records = [] := by
  unfold DiagnosticEngine.records
  rw [List.filterMap_eq_nil_iff]
  intro rule _
  rfl

theorem AtReset.blank {pipeline : Pipeline} (h : pipeline.AtReset) : pipeline.Blank := by
  constructor
  · rw [h.telemetry]
    rfl
  · rw [h.explorer]
    rfl
  · rw [h.diagnostics]
    rfl
  · rw [h.telemetry]
    rfl
  · rw [h.telemetry]
    rfl
  · rw [h.telemetry]
    rfl
  · rw [h.explorer]
    rfl
  · rw [h.explorer]
    rfl
  · intro status
    rw [h.diagnostics]
    cases status with
    | none => exact records_reset _
    | some status =>
      simp only [DiagnosticEngine.dtcs, records_reset, List.filter_nil]
  · rw [h.diagnostics]
    rfl
  · intro code
    rw [h.diagnostics]
    rfl

theorem atReset_packaged
    (messageDecode : DbcMessage → Bytes → Option (Dict String CanmatrixValue)) :
    (packaged messageDecode).AtReset := ⟨rfl, rfl, rfl⟩

end Pipeline

namespace TelemetryService

theorem TelemetryMove.freshOrUsed {engine engine' : TelemetryEngine}
    (h : TelemetryMove engine engine') (hbefore : engine.FreshOrUsed) : engine'.FreshOrUsed := by
  cases h with
  | keep => exact hbefore
  | reset => exact engine.freshOrUsed_reset
  | ingest frame samples _ hingest => exact .ingest hingest

theorem freshOrUsed_of_run {pipeline : Pipeline} {labels : List ServiceLabel}
    {s : TelemetryService} (hfresh : pipeline.AtReset) (hrun : Reaches pipeline labels s) :
    s.pipeline.telemetry.FreshOrUsed :=
  run_invariant_all (P := fun s => s.pipeline.telemetry.FreshOrUsed)
    (fun _ _ _ h hstep => (step_telemetry hstep).freshOrUsed h) hrun (fun _ => hfresh.telemetry)

theorem TelemetryMove.sound {engine engine' : TelemetryEngine}
    (h : TelemetryMove engine engine') (hsound : engine.Sound) : engine'.Sound := by
  cases h with
  | keep => exact hsound
  | reset => exact TelemetryEngine.sound_fresh _ _
  | ingest frame samples _ hingest => exact hsound.ingest hingest

theorem TelemetryMove.catalog {engine engine' : TelemetryEngine}
    (h : TelemetryMove engine engine') : engine'.catalog = engine.catalog := by
  cases h with
  | keep => rfl
  | reset => rfl
  | ingest frame samples _ hingest => exact TelemetryEngine.ingest_catalog hingest

/-- Every engine a service reaches is sound, over the catalog it was constructed with. -/
theorem sound_of_run {pipeline : Pipeline} {labels : List ServiceLabel} {s : TelemetryService}
    (hfresh : pipeline.AtReset) (hrun : Reaches pipeline labels s) :
    s.pipeline.telemetry.Sound ∧ s.pipeline.telemetry.catalog = pipeline.telemetry.catalog := by
  refine run_invariant_all
    (P := fun s => s.pipeline.telemetry.Sound ∧
      s.pipeline.telemetry.catalog = pipeline.telemetry.catalog) ?_ hrun ⟨?_, rfl⟩
  · intro s label t h hstep
    have hmove := step_telemetry hstep
    exact ⟨hmove.sound h.1, hmove.catalog.trans h.2⟩
  · have hsound := TelemetryEngine.sound_fresh pipeline.telemetry.catalog
      pipeline.telemetry.historyCapacity
    exact hfresh.telemetry ▸ hsound

/-- A source starts from three reset components, with nothing of an earlier source visible,
when it is a replay, and when it is live exactly if the telemetry engine has accepted no frame
since it was constructed or reset. -/
theorem source_starts_afresh_iff (pipeline : Pipeline) (hfresh : pipeline.AtReset)
    (labels : List ServiceLabel) (s : TelemetryService) (hrun : Reaches pipeline labels s) :
    (∀ t, s.start = .ok t →
      ((t.pipeline.AtReset ∧ t.pipeline.Blank) ↔ s.pipeline.telemetry.totalFrames = 0)) ∧
    (∀ sessionId sessionName waitForSubscriber t,
      s.startReplay sessionId sessionName waitForSubscriber = .ok t →
        t.pipeline.AtReset ∧ t.pipeline.Blank) := by
  constructor
  · intro t hstart
    have hpipeline := start_pipeline hstart
    constructor
    · rintro ⟨hreset, -⟩
      have htelemetry := hreset.telemetry
      rw [hpipeline] at htelemetry
      exact congrArg TelemetryEngine.totalFrames htelemetry
    · intro hzero
      have hreset : t.pipeline.AtReset := by
        rw [hpipeline]
        exact ⟨freshOrUsed_of_run hfresh hrun hzero, rfl, rfl⟩
      exact ⟨hreset, hreset.blank⟩
  · intro sessionId sessionName waitForSubscriber t hstart
    have hreset : t.pipeline.AtReset := by
      rw [startReplay_pipeline hstart]
      exact ⟨rfl, rfl, rfl⟩
    exact ⟨hreset, hreset.blank⟩

/-- A replay of one frame that completes. -/
def replayedLabels : List ServiceLabel :=
  [.startReplay "session" none false, .worker 0 .wake, .worker 0 .check,
    .worker 0 (.next (.ok (some (fastEngineFrame 1000)))),
    .worker 0 .check, .worker 0 .explore, .worker 0 .ingest, .worker 0 (.next (.ok none)),
    .worker 0 .complete]

/-- The service after that replay. -/
def replayed : TelemetryService :=
  (run step (create (.packaged DbcMessage.intelDecode)) replayedLabels).getD
    (create (.packaged DbcMessage.intelDecode))

theorem replay_after_replay_starts_afresh :
    Reaches (.packaged DbcMessage.intelDecode) replayedLabels replayed ∧
      ∃ t, replayed.startReplay "again" none true = .ok t ∧
        t.pipeline.AtReset ∧ t.pipeline.Blank := by
  obtain ⟨t, hstart⟩ := replayed.startReplay_of_idle "again" none true rfl rfl rfl rfl
  have hrun : Reaches (.packaged DbcMessage.intelDecode) replayedLabels replayed := rfl
  exact ⟨hrun, t, hstart,
    (source_starts_afresh_iff _ (Pipeline.atReset_packaged _) replayedLabels replayed hrun).2
      "again" none true t hstart⟩

/-- The live source started after that replay sees the replay's frame. -/
theorem live_source_inherits_replay :
    Reaches (.packaged DbcMessage.intelDecode) replayedLabels replayed ∧
      ∃ t, replayed.start = .ok t ∧ t.pipeline.telemetry.totalFrames = 1 ∧
        ¬ (t.pipeline.AtReset ∧ t.pipeline.Blank) := by
  refine ⟨rfl, _, rfl, rfl, ?_⟩
  rintro ⟨-, hblank⟩
  have hsequence := hblank.telemetrySequence
  cases hsequence

end TelemetryService

end TunerOs
