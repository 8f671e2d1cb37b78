-- SUMMARY: When ingesting a decoded frame is atomic: what each stage of it can raise on, in every reachable service.
import TunerOs.Diagnostics.Lifetime
import TunerOs.Diagnostics.Totality
import TunerOs.Telemetry.SourceReset

/-!
# Atomic ingestion

`ingest_decoded` writes the telemetry engine before the diagnostic rules read it, and
nothing is rolled back. In a reachable service the schema check and the rules are all
that can raise, so ingestion is atomic unless the engine takes a value of a type that
a rule does not.
-/

namespace TunerOs

open Containers Fallible Transition

/-! ## Rules that can read a snapshot -/

/-- A rule whose inputs are fresh evaluates its condition on the snapshot without raising. -/
def DiagnosticRule.Reads (rule : DiagnosticRule) (state : RuleState)
    (snapshot : TelemetrySnapshot) : Prop :=
  rule.InputsFresh snapshot →
    ∃ result, rule.condition snapshot (state.status = some .active) = .ok result

namespace DiagnosticEngine

section Reads

variable {snapshot : TelemetrySnapshot} {sequence timestamp : ℕ}

/-- Once a frame is accepted, a rule raises only where its condition does. -/
theorem raised_eq_none_iff (hsequence : snapshot.lastFrameSequence = some sequence)
    (rule : DiagnosticRule) (state : RuleState) (timestamp : ℕ) :
    (rule.evaluate state snapshot timestamp).raised = none ↔ rule.Reads state snapshot := by
  constructor
  · intro hraised hfresh
    exact DiagnosticRule.condition_of_raised_none hfresh hraised
  · intro hreads
    by_cases hfresh : rule.InputsFresh snapshot
    · obtain ⟨result, hresult⟩ := hreads hfresh
      cases result with
      | normal =>
        rw [DiagnosticRule.evaluate_normal hfresh hresult]
        exact DiagnosticRule.handleNormal_raised rule state timestamp
      | violation =>
        rw [DiagnosticRule.evaluate_violation hfresh hresult]
        exact DiagnosticRule.handleViolation_raised rule _ hsequence timestamp
    · rw [DiagnosticRule.evaluate_stale hfresh]

/-- The loop over the rules returns exactly if each rule reads the snapshot in its own state. -/
theorem evaluateRules_returns_iff (hsequence : snapshot.lastFrameSequence = some sequence)
    {rules : List DiagnosticRule} (hnodup : (rules.map DiagnosticRule.code).Nodup)
    (engine : DiagnosticEngine) :
    (∃ events, (evaluateRules snapshot timestamp rules engine).1 = .ok events) ↔
      ∀ rule ∈ rules, rule.Reads (engine.states rule.code) snapshot := by
  -- Induction on the rules; the first one that raises decides.
  induction rules generalizing engine with
  | nil => exact ⟨fun _ rule hmem => absurd hmem List.not_mem_nil, fun _ => ⟨[], rfl⟩⟩
  | cons rule rest ih =>
    obtain ⟨hfresh, hrest⟩ := List.nodup_cons.1 hnodup
    have hfirst := raised_eq_none_iff hsequence rule (engine.states rule.code) timestamp
    rw [List.forall_mem_cons, ← hfirst]
    cases hraised : (rule.evaluate (engine.states rule.code) snapshot timestamp).raised with
    | some error =>
      rw [evaluateRules_cons_raised hraised]
      constructor
      · rintro ⟨events, hevents⟩
        cases hevents
      · rintro ⟨hnone, -⟩
        cases hnone
    | none =>
      -- a rule does not touch the states of the rules after it
      have hkept : ∀ other ∈ rest, (afterRule snapshot timestamp rule engine).states other.code =
          engine.states other.code := by
        intro other hmem
        rw [afterRule_states, Function.update_of_ne]
        exact fun heq => hfresh (heq ▸ List.mem_map_of_mem hmem)
      have hlater := ih hrest (afterRule snapshot timestamp rule engine)
      rw [evaluateRules_cons_none hraised]
      have hmap : (∃ events, (evaluateRules snapshot timestamp rest
          (afterRule snapshot timestamp rule engine)).1 = .ok events) ↔
          ∀ other ∈ rest, other.Reads (engine.states other.code) snapshot := by
        rw [hlater]
        refine forall₂_congr fun other hmem => ?_
        rw [hkept other hmem]
      rw [← hmap]
      cases (evaluateRules snapshot timestamp rest (afterRule snapshot timestamp rule engine)).1 with
      | error error =>
        refine ⟨fun h => ?_, fun h => ?_⟩
        · obtain ⟨events, hevents⟩ := h
          cases hevents
        · obtain ⟨-, events, hevents⟩ := h
          cases hevents
      | ok events => exact ⟨fun _ => ⟨rfl, events, rfl⟩, fun _ => ⟨_, rfl⟩⟩

/-- A snapshot that is not before the last observation is ingested exactly if every rule reads
it. -/
theorem ingest_returns_iff {engine : DiagnosticEngine}
    (hsequence : snapshot.lastFrameSequence = some sequence)
    (htime : snapshot.observationTimestampMicroseconds = some timestamp)
    (hlater : ∀ earlier, engine.observationTimestampMicroseconds = some earlier →
      earlier ≤ timestamp) :
    (∃ events, (engine.ingest snapshot).1 = .ok events) ↔
      ∀ rule ∈ engine.catalog.rules, rule.Reads (engine.states rule.code) snapshot := by
  have hforward : engine.movesBackward timestamp = false := by
    unfold movesBackward
    cases hobservation : engine.observationTimestampMicroseconds with
    | none => rfl
    | some earlier => exact decide_eq_false (not_lt.2 (hlater earlier hobservation))
  have hingest : engine.ingest snapshot = evaluateRules snapshot timestamp engine.catalog.rules
      (engine.observe snapshot timestamp) := by
    simp only [ingest, htime, hforward, Bool.false_eq_true, if_false]
    rfl
  rw [hingest]
  exact evaluateRules_returns_iff hsequence engine.catalog.codes_nodup _

end Reads

end DiagnosticEngine

/-! ## What a step does to the engines -/

/-- What one step of a service can do to its telemetry and diagnostic engines. -/
inductive EngineMove (p q : Pipeline) : Prop where
  | keep : q.telemetry = p.telemetry → q.diagnostics = p.diagnostics → EngineMove p q
  | live : q.telemetry = p.telemetry → q.diagnostics = p.diagnostics.reset → EngineMove p q
  | replay : q.telemetry = p.telemetry.reset → q.diagnostics = p.diagnostics.reset →
      EngineMove p q
  | ingested (frame : DecodedCanFrame) : q.telemetry = (p.ingestDecoded frame).2.telemetry →
      q.diagnostics = (p.ingestDecoded frame).2.diagnostics → EngineMove p q
  | cleared (code : String) (result : DiagnosticEngine.ClearResult) :
      q.telemetry = p.telemetry → p.diagnostics.clear code = .ok result →
        q.diagnostics = result.engine → EngineMove p q

namespace TelemetryService

theorem ingestDecoded_pipeline (s : TelemetryService) (frame : DecodedCanFrame) :
    (s.ingestDecoded frame).2.pipeline = (s.pipeline.ingestDecoded frame).2 := by
  unfold ingestDecoded
  split <;> next h => rw [h]

theorem ingestDecodable_engines (s : TelemetryService) (rawFrame : RawCanFrame) :
    EngineMove s.pipeline (s.ingestDecodable rawFrame).2.pipeline := by
  unfold ingestDecodable
  split
  · exact .keep rfl rfl
  · next decoded hdecode =>
    have hpipeline := s.ingestDecoded_pipeline decoded
    exact .ingested decoded (congrArg Pipeline.telemetry hpipeline)
      (congrArg Pipeline.diagnostics hpipeline)

theorem ingestCanExplorer_engines (s : TelemetryService) (rawFrame : RawCanFrame) :
    EngineMove s.pipeline (s.ingestCanExplorer rawFrame).2.pipeline := by
  have htelemetry := s.pipeline.ingestCanExplorer_telemetry rawFrame
  have hdiagnostics : (s.pipeline.ingestCanExplorer rawFrame).2.diagnostics =
      s.pipeline.diagnostics := by
    unfold Pipeline.ingestCanExplorer
    split
    · rfl
    · split <;> rfl
  unfold ingestCanExplorer
  split <;> next heq =>
    rw [heq] at htelemetry hdiagnostics
    exact .keep htelemetry hdiagnostics

theorem transitionUnlessStopped_pipeline (s : TelemetryService) (state : TelemetryServiceState)
    (error : Option String) : (s.transitionUnlessStopped state error).pipeline = s.pipeline := by
  unfold transitionUnlessStopped
  split <;> rfl

theorem workerStep_engines {s t : TelemetryService} {thread : ℕ} {worker : SourceWorker}
    {action : WorkerAction} {phase : WorkerPhase}
    (h : s.workerStep thread worker action = some (phase, t)) :
    EngineMove s.pipeline t.pipeline := by
  -- Only the two ingests and the end of a session call the pipeline.
  cases action with
  | enter =>
    simp only [workerStep] at h
    split at h
    · split at h <;> cases h <;> exact .keep rfl rfl
    · cases h
  | wake =>
    simp only [workerStep] at h
    split at h
    · split at h <;> cases h
      exact .keep rfl rfl
    · cases h
  | explore =>
    simp only [workerStep] at h
    split at h
    · next frame _ =>
      have hmove := s.ingestCanExplorer_engines frame
      split at h <;> next heq =>
        rw [heq] at hmove
        cases h
        exact hmove
    · cases h
  | ingest =>
    simp only [workerStep] at h
    split at h
    · next frame _ =>
      have hmove := s.ingestDecodable_engines frame
      split at h <;> next heq =>
        rw [heq] at hmove
        cases h
        exact hmove
    · cases h
  | complete =>
    simp only [workerStep] at h
    split at h <;> cases h
    have hpipeline := s.transitionUnlessStopped_pipeline .completed none
    exact .keep (congrArg Pipeline.telemetry hpipeline) (congrArg Pipeline.diagnostics hpipeline)
  | fail =>
    simp only [workerStep] at h
    split at h
    · next failure _ =>
      cases h
      have hpipeline := s.transitionUnlessStopped_pipeline .failed (some failure)
      exact .keep (congrArg Pipeline.telemetry hpipeline) (congrArg Pipeline.diagnostics hpipeline)
    · cases h
  | connect outcome | next outcome | check | record outcome | finalize outcome | abort outcome
  | close outcome | release =>
    simp only [workerStep] at h
    split at h <;> cases h <;> exact .keep rfl rfl

theorem stopStep_pipeline {s t : TelemetryService} {phase phase' : StopPhase}
    {action : StopAction} (h : s.stopStep phase action = some (phase', t)) :
    t.pipeline = s.pipeline := by
  cases action with
  | join | joinTimeout =>
    simp only [stopStep] at h
    split at h
    · split at h <;> cases h
      rfl
    · cases h
  | finish =>
    simp only [stopStep] at h
    split at h <;> cases h
    unfold finishStop
    split <;> rfl
  | request | releaseReplay | readReferences | closeClient =>
    simp only [stopStep] at h
    split at h <;> cases h
    rfl

/-- What a step of the service does to the two engines. -/
theorem step_engines {s t : TelemetryService} {label : ServiceLabel} (h : s.step label = some t) :
    EngineMove s.pipeline t.pipeline := by
  cases label with
  -- A source that starts resets the engines; one that is refused changes nothing.
  | start =>
    cases h
    split
    · next hstart =>
      rw [start_pipeline hstart]
      exact .live rfl rfl
    · exact .keep rfl rfl
  | startReplay sessionId sessionName waitForSubscriber =>
    cases h
    split
    · next hstart =>
      rw [startReplay_pipeline hstart]
      exact .replay rfl rfl
    · exact .keep rfl rfl
  | stop caller action =>
    simp only [step] at h
    split at h <;> cases h
    next hstop =>
      have hpipeline := stopStep_pipeline hstop
      exact .keep (congrArg Pipeline.telemetry hpipeline) (congrArg Pipeline.diagnostics hpipeline)
  | worker thread action =>
    simp only [step] at h
    split at h
    · cases h
    · split at h <;> cases h
      next hworker =>
        have hmove := workerStep_engines hworker
        exact hmove
  | ingestDecoded frame =>
    cases h
    have hpipeline := s.ingestDecoded_pipeline frame
    exact .ingested frame (congrArg Pipeline.telemetry hpipeline)
      (congrArg Pipeline.diagnostics hpipeline)
  | clearDiagnostic code =>
    cases h
    unfold clearDiagnostic
    cases hclear : s.pipeline.diagnostics.clear code with
    | error error => exact .keep rfl rfl
    | ok result => exact .cleared code result rfl hclear rfl
  -- A subscription may release a replay that waits for it, which touches no engine.
  | subscribe =>
    cases h
    unfold subscribe
    split
    · exact .keep rfl rfl
    · exact .keep (congrArg Pipeline.telemetry (releaseReplay_pipeline _))
        (congrArg Pipeline.diagnostics (releaseReplay_pipeline _))
  | subscribeCan frameLimit =>
    cases h
    unfold subscribeCan
    split
    · exact .keep rfl rfl
    · exact .keep (congrArg Pipeline.telemetry (releaseReplay_pipeline _))
        (congrArg Pipeline.diagnostics (releaseReplay_pipeline _))
  | unsubscribe | unsubscribeCan =>
    simp only [step] at h
    split at h <;> cases h
    exact .keep rfl rfl

end TelemetryService

/-! ## Reachable engines -/

namespace Pipeline

/-- Ingestion leaves both engines alone, writes the telemetry engine only, or has the diagnostic
engine ingest the new snapshot. -/
theorem ingestDecoded_stages (pipeline : Pipeline) (frame : DecodedCanFrame) :
    (pipeline.ingestDecoded frame).2 = pipeline ∨
      ∃ samples telemetry, pipeline.telemetry.ingest frame = .ok (samples, telemetry) ∧
        (pipeline.ingestDecoded frame).2.telemetry = telemetry ∧
        ((pipeline.ingestDecoded frame).2.diagnostics = pipeline.diagnostics ∨
          ∃ snapshot, telemetry.snapshot = .ok snapshot ∧
            (pipeline.ingestDecoded frame).2.diagnostics =
              (pipeline.diagnostics.ingest snapshot).2) := by
  unfold ingestDecoded
  split
  · exact .inl rfl
  · split
    · exact .inl rfl
    · next samples telemetry hingest =>
      refine .inr ⟨samples, telemetry, hingest, ?_⟩
      split
      · exact ⟨rfl, .inl rfl⟩
      · unfold observe
        cases hsnapshot : telemetry.snapshot with
        | error error => exact ⟨rfl, .inl rfl⟩
        | ok snapshot =>
          simp only []
          split <;> next heq =>
            exact ⟨rfl, .inr ⟨snapshot, rfl, (congrArg Prod.snd heq).symm⟩⟩

/-- The telemetry engine is sound, and the diagnostic engine has seen nothing newer than its
latest frame. -/
structure Observing (pipeline : Pipeline) : Prop where
  sound : pipeline.telemetry.Sound
  ordered : ∀ observed, pipeline.diagnostics.observationTimestampMicroseconds = some observed →
    ∃ latest, pipeline.telemetry.latestTimestampMicroseconds = some latest ∧ observed ≤ latest

/-- An accepted frame becomes the latest, and is not before the one that was. -/
theorem ingest_latest {engine engine' : TelemetryEngine} {frame : DecodedCanFrame}
    {samples : List SignalSample} (h : engine.ingest frame = .ok (samples, engine')) :
    engine'.latestTimestampMicroseconds = some frame.timestampMicroseconds ∧
      engine'.lastFrameSequence = some engine.nextFrameSequence ∧
      ∀ latest, engine.latestTimestampMicroseconds = some latest →
        latest ≤ frame.timestampMicroseconds := by
  obtain ⟨hlater, definitions, -, -, rfl⟩ := TelemetryEngine.ingest_ok_iff.1 h
  rw [TelemetryEngine.accept_eq]
  exact ⟨rfl, rfl, TelemetryEngine.laterThan_eq_none.1 hlater⟩

theorem Observing.ingestDecoded {pipeline : Pipeline} (h : pipeline.Observing)
    (frame : DecodedCanFrame) : (pipeline.ingestDecoded frame).2.Observing := by
  rcases pipeline.ingestDecoded_stages frame with
    hkept | ⟨samples, telemetry, hingest, htelemetry, hdiagnostics⟩
  · rw [hkept]
    exact h
  · obtain ⟨hlatest, -, hforward⟩ := ingest_latest hingest
    refine ⟨htelemetry ▸ h.sound.ingest hingest, fun observed hobserved => ?_⟩
    rw [htelemetry]
    have hbefore : pipeline.diagnostics.observationTimestampMicroseconds = some observed →
        ∃ latest, telemetry.latestTimestampMicroseconds = some latest ∧ observed ≤ latest := by
      intro hold
      obtain ⟨latest, hsome, hle⟩ := h.ordered observed hold
      exact ⟨_, hlatest, hle.trans (hforward latest hsome)⟩
    rcases hdiagnostics with hsame | ⟨snapshot, hsnapshot, hingested⟩
    · rw [hsame] at hobserved
      exact hbefore hobserved
    · rw [hingested] at hobserved
      obtain ⟨taken, htaken, -, hobservation, -⟩ := (h.sound.ingest hingest).snapshot
      rw [hsnapshot] at htaken
      cases htaken
      rw [hlatest] at hobservation
      simp only [DiagnosticEngine.ingest, hobservation] at hobserved
      split at hobserved
      · exact hbefore hobserved
      · have hnow : some observed = some frame.timestampMicroseconds :=
          hobserved.symm.trans (DiagnosticEngine.evaluateRules_observation_eq _
            (pipeline.diagnostics.observe snapshot frame.timestampMicroseconds))
        cases hnow
        exact ⟨_, hlatest, le_rfl⟩

end Pipeline

theorem EngineMove.observing {p q : Pipeline} (hmove : EngineMove p q) (h : p.Observing) :
    q.Observing := by
  cases hmove with
  | keep htelemetry hdiagnostics =>
    refine ⟨htelemetry ▸ h.sound, ?_⟩
    rw [htelemetry, hdiagnostics]
    exact h.ordered
  | live htelemetry hdiagnostics =>
    refine ⟨htelemetry ▸ h.sound, fun observed hobserved => ?_⟩
    rw [hdiagnostics] at hobserved
    cases hobserved
  | replay htelemetry hdiagnostics =>
    refine ⟨htelemetry ▸ TelemetryEngine.sound_fresh _ _, fun observed hobserved => ?_⟩
    rw [hdiagnostics] at hobserved
    cases hobserved
  | ingested frame htelemetry hdiagnostics =>
    obtain ⟨hsound, hordered⟩ := h.ingestDecoded frame
    refine ⟨htelemetry ▸ hsound, ?_⟩
    rw [htelemetry, hdiagnostics]
    exact hordered
  | cleared code result htelemetry hclear hdiagnostics =>
    refine ⟨htelemetry ▸ h.sound, ?_⟩
    rw [htelemetry, hdiagnostics, (DiagnosticEngine.clear_keeps hclear).1]
    exact h.ordered

namespace TelemetryService

/-- Every service a run reaches observes its frames in order. -/
theorem observing_of_run {pipeline : Pipeline} {labels : List ServiceLabel} {s : TelemetryService}
    (hfresh : pipeline.AtReset) (hrun : Reaches pipeline labels s) : s.pipeline.Observing := by
  refine run_invariant_all (P := fun s => s.pipeline.Observing)
    (fun _ _ _ h hstep => (step_engines hstep).observing h) hrun ⟨?_, fun observed hobserved => ?_⟩
  · exact hfresh.telemetry ▸ TelemetryEngine.sound_fresh _ _
  · have hnone := congrArg DiagnosticEngine.observationTimestampMicroseconds hfresh.diagnostics
    exact absurd (hnone.symm.trans hobserved) (Option.some_ne_none observed).symm

end TelemetryService

/-! ## Ingestion in a reachable service -/

/-- The snapshot of the engine once the frame is in. -/
def TelemetryEngine.snapshotAfter (engine : TelemetryEngine) (frame : DecodedCanFrame) :
    Except PyException TelemetrySnapshot :=
  match engine.ingest frame with
  | .error error => .error error
  | .ok (_, engine) => engine.snapshot

namespace Pipeline

/-- The frame is refused before anything is written: it has no signals, is older than the
newest accepted frame, or is not of the catalog. -/
def Refuses (pipeline : Pipeline) (frame : DecodedCanFrame) : Prop :=
  frame.signals.entries = [] ∨
    (∃ latest, pipeline.telemetry.latestTimestampMicroseconds = some latest ∧
      frame.timestampMicroseconds < latest) ∨
    ∃ error, pipeline.telemetry.catalog.definitionsForFrame frame = .error error

/-- Every rule whose inputs are fresh once the frame is in reads them without raising. -/
def RulesRead (pipeline : Pipeline) (frame : DecodedCanFrame) : Prop :=
  ∀ snapshot, pipeline.telemetry.snapshotAfter frame = .ok snapshot →
    ∀ rule ∈ pipeline.diagnostics.catalog.rules,
      rule.Reads (pipeline.diagnostics.states rule.code) snapshot

variable {pipeline : Pipeline} {frame : DecodedCanFrame}

theorem ingestDecoded_of_refuses (h : pipeline.Refuses frame) :
    ∃ error, pipeline.ingestDecoded frame = (.error error, pipeline) := by
  unfold ingestDecoded
  split
  · exact ⟨_, rfl⟩
  · next hsignals =>
    have hingest : ∃ error, pipeline.telemetry.ingest frame = .error error := by
      unfold TelemetryEngine.ingest
      rcases h with hempty | ⟨latest, hlatest, hlt⟩ | ⟨error, herror⟩
      · exact absurd hempty hsignals
      · have hlater : pipeline.telemetry.laterThan frame = some latest := by
          rw [TelemetryEngine.laterThan, hlatest, Option.filter_some, decide_eq_true hlt, if_pos rfl]
        rw [hlater]
        exact ⟨_, rfl⟩
      · cases pipeline.telemetry.laterThan frame with
        | some latest => exact ⟨_, rfl⟩
        | none =>
          rw [herror]
          exact ⟨error, rfl⟩
    obtain ⟨error, herror⟩ := hingest
    rw [herror]
    exact ⟨error, rfl⟩

/-- A frame that is not refused is accepted by the telemetry engine. -/
theorem ingest_of_not_refuses (h : ¬ pipeline.Refuses frame) :
    frame.signals.entries ≠ [] ∧
      ∃ samples telemetry, pipeline.telemetry.ingest frame = .ok (samples, telemetry) ∧
        samples ≠ [] := by
  unfold Refuses at h
  simp only [not_or] at h
  obtain ⟨hsignals, hlater, hdefined⟩ := h
  cases hdefinitions : pipeline.telemetry.catalog.definitionsForFrame frame with
  | error error => exact absurd ⟨error, hdefinitions⟩ hdefined
  | ok definitions =>
    have hnone : pipeline.telemetry.laterThan frame = none := by
      rw [TelemetryEngine.laterThan_eq_none]
      intro latest hlatest
      exact not_lt.1 fun hlt => hlater ⟨latest, hlatest, hlt⟩
    refine ⟨hsignals, _, _, TelemetryEngine.ingest_ok_iff.2
      ⟨hnone, definitions, hdefinitions, rfl, rfl⟩, fun hempty => hsignals ?_⟩
    have hlength := congrArg List.length hempty
    rw [List.length_zipWith, (SignalCatalog.definitionsForFrame_ok hdefinitions).2.1, Dict.keys,
      Dict.values, List.length_map, List.length_map, min_self] at hlength
    exact List.length_eq_zero_iff.1 hlength

/-- Publishing the samples of an accepted frame raises nothing. -/
theorem updateOf_returns {telemetry telemetry' : TelemetryEngine} {samples : List SignalSample}
    (hsound : telemetry.Sound) (hingest : telemetry.ingest frame = .ok (samples, telemetry'))
    (hne : samples ≠ []) : ∃ update, updateOf frame samples telemetry' = .ok update := by
  have hafter := hsound.ingest hingest
  obtain ⟨-, definitions, -, -, haccept⟩ := TelemetryEngine.ingest_ok_iff.1 hingest
  have hfresh : ∀ sample ∈ samples, ∃ status, acceptedFreshness telemetry' sample = .ok status := by
    intro sample hmem
    obtain ⟨written, -, hget⟩ := TelemetryEngine.accept_latest_mem telemetry frame hmem
    rw [← haccept] at hget
    obtain ⟨-, ⟨definition, hdefinition⟩, latest, hlatest, hle⟩ := hafter.observed _ _ hget
    have hrequire := SignalCatalog.require_ok_iff.2 hdefinition
    simp only [acceptedFreshness, TelemetryEngine.freshness, hrequire, hget, bind, Except.bind,
      TelemetryEngine.sampleFreshness, hlatest, if_neg (not_lt.2 hle)]
    exact ⟨_, rfl⟩
  obtain ⟨statuses, hstatuses⟩ := exists_mapM hfresh
  unfold updateOf
  rw [hstatuses]
  cases samples with
  | nil => exact absurd rfl hne
  | cons first rest => exact ⟨_, rfl⟩

/-- A frame that is not refused changes the telemetry engine, and the call returns exactly if
the rules read the snapshot after it. -/
theorem ingestDecoded_of_not_refuses (h : pipeline.Observing) (hrefuses : ¬ pipeline.Refuses frame) :
    ∃ samples telemetry snapshot, pipeline.telemetry.ingest frame = .ok (samples, telemetry) ∧
      telemetry.snapshot = .ok snapshot ∧
      (pipeline.RulesRead frame → ∃ update events,
        pipeline.diagnostics.ingest snapshot =
          (.ok events, (pipeline.diagnostics.ingest snapshot).2) ∧
        pipeline.ingestDecoded frame = (.ok update,
          { pipeline with
            telemetry := telemetry
            diagnostics := (pipeline.diagnostics.ingest snapshot).2 })) ∧
      (¬ pipeline.RulesRead frame → ∃ error, pipeline.ingestDecoded frame = (.error error,
          { pipeline with
            telemetry := telemetry
            diagnostics := (pipeline.diagnostics.ingest snapshot).2 })) := by
  obtain ⟨hsignals, samples, telemetry, hingest, hne⟩ := ingest_of_not_refuses hrefuses
  obtain ⟨hlatest, hlast, hforward⟩ := ingest_latest hingest
  obtain ⟨snapshot, hsnapshot, -, hobservation, hsequence, -⟩ := (h.sound.ingest hingest).snapshot
  obtain ⟨update, hupdate⟩ := updateOf_returns h.sound hingest hne
  rw [hlatest] at hobservation
  rw [hlast] at hsequence
  -- The diagnostics have seen no later time than telemetry, so the snapshot is not refused.
  have hlater : ∀ earlier, pipeline.diagnostics.observationTimestampMicroseconds = some earlier →
      earlier ≤ frame.timestampMicroseconds := by
    intro earlier hearlier
    obtain ⟨latest, hsome, hle⟩ := h.ordered earlier hearlier
    exact hle.trans (hforward latest hsome)
  have hreturns := DiagnosticEngine.ingest_returns_iff hsequence hobservation hlater
  have hafter : pipeline.telemetry.snapshotAfter frame = .ok snapshot := by
    rw [TelemetryEngine.snapshotAfter, hingest]
    exact hsnapshot
  have hreads : pipeline.RulesRead frame ↔
      ∃ events, (pipeline.diagnostics.ingest snapshot).1 = .ok events := by
    rw [hreturns]
    refine ⟨fun hrules => hrules snapshot hafter, fun hrules taken htaken => ?_⟩
    rw [hafter] at htaken
    cases htaken
    exact hrules
  -- Whatever the rules return, telemetry keeps the frame that it has taken.
  have hdecoded : ∀ result diagnostics, pipeline.diagnostics.ingest snapshot = (result, diagnostics) →
      pipeline.ingestDecoded frame = (result.map (fun _ => update),
        { pipeline with
          telemetry := telemetry
          diagnostics := diagnostics }) := by
    intro result diagnostics hresult
    unfold ingestDecoded observe
    rw [if_neg hsignals, hingest]
    simp only [hupdate, hsnapshot, hresult]
    cases result <;> rfl
  refine ⟨samples, telemetry, snapshot, hingest, hsnapshot, fun hrules => ?_, fun hrules => ?_⟩
  · obtain ⟨events, hevents⟩ := hreads.1 hrules
    have hpair : pipeline.diagnostics.ingest snapshot =
        (.ok events, (pipeline.diagnostics.ingest snapshot).2) := Prod.ext hevents rfl
    exact ⟨update, events, hpair, hdecoded _ _ hpair⟩
  · cases hresult : (pipeline.diagnostics.ingest snapshot).1 with
    | ok events => exact absurd (hreads.2 ⟨events, hresult⟩) hrules
    | error error =>
      have hpair : pipeline.diagnostics.ingest snapshot =
          (.error error, (pipeline.diagnostics.ingest snapshot).2) := Prod.ext hresult rfl
      exact ⟨error, hdecoded _ _ hpair⟩

end Pipeline

/-! ## What the default rules read -/

/-- `float(value)` of a value that `_number` accepts returns. -/
def SignalValue.Numeric : SignalValue → Prop
  | .float _ => True
  | .int value => FitsFloat value
  | .bool _ => False

namespace TelemetryEngine

/-- The value of a signal and its time once the frame is in: the frame's own, or the latest. -/
def readingAfter (engine : TelemetryEngine) (frame : DecodedCanFrame) (key : SignalKey) :
    Option (SignalValue × ℕ) :=
  let own := if key.messageName = frame.messageName then frame.signals.get? key.signalName else none
  match own with
  | some value => some (value, frame.timestampMicroseconds)
  | none => (engine.latest.get? key).map (fun sample => (sample.value, sample.timestampMicroseconds))

/-- The signal is observed and at most two periods old once the frame is in. -/
def FreshAfter (engine : TelemetryEngine) (frame : DecodedCanFrame) (key : SignalKey) : Prop :=
  ∃ value time definition, engine.readingAfter frame key = some (value, time) ∧
    engine.catalog.get? key = some definition ∧
    frame.timestampMicroseconds - time ≤ 2 * definition.expectedPeriodMicroseconds

def NumericAfter (engine : TelemetryEngine) (frame : DecodedCanFrame) (key : SignalKey) : Prop :=
  ∃ value time, engine.readingAfter frame key = some (value, time) ∧ value.Numeric

/-- `EngineRunning` is a boolean, and while it is true the signal is a number. -/
def NumericWhileRunning (engine : TelemetryEngine) (frame : DecodedCanFrame) (key : SignalKey) :
    Prop :=
  ∃ running time, engine.readingAfter frame .engineRunning = some (.bool running, time) ∧
    (running = true → engine.NumericAfter frame key)

/-- The fresh inputs of each default rule have the types it reads. -/
structure DefaultInputsTyped (engine : TelemetryEngine) (frame : DecodedCanFrame) : Prop where
  coolant : engine.FreshAfter frame .coolant → engine.NumericAfter frame .coolant
  oil : engine.FreshAfter frame .oil → engine.NumericAfter frame .oil
  charging : engine.FreshAfter frame .battery → engine.FreshAfter frame .engineRunning →
    engine.NumericWhileRunning frame .battery
  manifold : engine.FreshAfter frame .manifoldPressure → engine.FreshAfter frame .engineRunning →
    engine.NumericWhileRunning frame .manifoldPressure
  wheels : (∀ key ∈ wheelSpeeds ++ [.vehicleSpeed], engine.FreshAfter frame key) →
    ∀ key ∈ wheelSpeeds ++ [.vehicleSpeed], engine.NumericAfter frame key

section Readings

variable {engine engine' : TelemetryEngine} {frame : DecodedCanFrame} {samples : List SignalSample}
  {snapshot : TelemetrySnapshot}

/-- The latest sample of a signal once the frame is in. -/
theorem latest_reading (hingest : engine.ingest frame = .ok (samples, engine'))
    (key : SignalKey) :
    (engine'.latest.get? key).map (fun sample => (sample.value, sample.timestampMicroseconds)) =
      engine.readingAfter frame key := by
  obtain ⟨-, definitions, hdefinitions, hsamples, rfl⟩ := ingest_ok_iff.1 hingest
  have hlisted := listed_of_definitionsForFrame hdefinitions
  rw [Dict.values] at hsamples
  rw [accept_eq]
  unfold readingAfter
  -- the frame carries the signal exactly if one of its samples has the key
  by_cases hwritten : ∃ sample ∈ samples, sample.key = key
  · obtain ⟨sample, hmem, hkey⟩ := hwritten
    have hsome : ((samples.foldl (fun latest sample => latest.set sample.key sample)
        engine.latest).get? key).isSome :=
      Dict.isSome_foldl_set (Or.inl ⟨sample, hmem, hkey⟩)
    obtain ⟨latest, hlatest⟩ := Option.isSome_iff_exists.1 hsome
    -- Keys differ, so what is read is what the sample of the key has written.
    rcases Dict.get?_foldl_set_cases hlatest with ⟨written, hmem, hkey, rfl⟩ | ⟨hnone, -⟩
    · rw [hsamples] at hmem
      obtain ⟨entry, hentry, hname, hvalue⟩ := samples_entries hlisted hmem
      have htime := (mem_samples hmem).1
      have hget : frame.signals.get? entry.1 = some entry.2 := Dict.mem_entries_iff.1 hentry
      rw [hkey] at hname
      rw [hlatest, hname, if_pos rfl, hget, Option.map_some, hvalue, htime]
    · exact absurd hkey (hnone sample hmem)
  · have hnone : ∀ sample ∈ samples, sample.key ≠ key := fun sample hmem hkey =>
      hwritten ⟨sample, hmem, hkey⟩
    have hown : (if key.messageName = frame.messageName then frame.signals.get? key.signalName
        else none) = none := by
      split
      · next hmessage =>
        rw [Option.eq_none_iff_forall_ne_some]
        intro value hget
        obtain ⟨sample, hmem, hkey⟩ := exists_sample engine.nextFrameSequence hlisted
          (Dict.mem_entries_iff.2 hget)
        rw [← hsamples] at hmem
        refine hnone sample hmem (hkey.trans ?_)
        rw [← hmessage]
      · rfl
    rw [hown, Dict.get?_foldl_set_of_ne hnone]

variable (hsound : engine.Sound) (hingest : engine.ingest frame = .ok (samples, engine'))
  (hsnapshot : engine'.snapshot = .ok snapshot)
include hsound hingest hsnapshot

theorem snapshot_reading (key : SignalKey) :
    (snapshot.samples.get? key).map (fun sample => (sample.value, sample.timestampMicroseconds)) =
      engine.readingAfter frame key := by
  obtain ⟨taken, htaken, hsamples, -⟩ := (hsound.ingest hingest).snapshot
  rw [hsnapshot] at htaken
  cases htaken
  rw [hsamples]
  exact latest_reading hingest key

theorem number_returns_iff (key : SignalKey) :
    (∃ value, number snapshot key = .ok value) ↔ engine.NumericAfter frame key := by
  unfold NumericAfter
  rw [← snapshot_reading hsound hingest hsnapshot key]
  unfold number
  cases snapshot.samples.get? key with
  | none => simp only [Option.map_none, reduceCtorEq, exists_false, false_and]
  | some sample =>
    simp only [Option.map_some, Option.some.injEq, Prod.mk.injEq]
    have hread : (∃ value time, (sample.value = value ∧ sample.timestampMicroseconds = time) ∧
        value.Numeric) ↔ sample.value.Numeric :=
      ⟨fun ⟨_, _, ⟨hvalue, _⟩, hnumeric⟩ => hvalue ▸ hnumeric,
        fun hnumeric => ⟨_, _, ⟨rfl, rfl⟩, hnumeric⟩⟩
    rw [hread]
    cases sample.value with
    | float value => exact ⟨fun _ => trivial, fun _ => ⟨value, rfl⟩⟩
    | bool value => simp only [SignalValue.Numeric, reduceCtorEq, exists_false]
    | int value =>
      by_cases hfits : FitsFloat value
      · simp only [SignalValue.Numeric, hfits, if_true, iff_true]
        exact ⟨_, rfl⟩
      · simp only [SignalValue.Numeric, hfits, if_false, reduceCtorEq, exists_false]

theorem boolean_returns_iff (running : Bool) :
    boolean snapshot .engineRunning = .ok running ↔
      ∃ time, engine.readingAfter frame .engineRunning = some (.bool running, time) := by
  rw [← snapshot_reading hsound hingest hsnapshot .engineRunning]
  unfold boolean
  cases snapshot.samples.get? .engineRunning with
  | none => simp only [Option.map_none, reduceCtorEq, exists_false]
  | some sample =>
    cases hvalue : sample.value with
    | bool value => simp [hvalue]
    | int value => simp [hvalue]
    | float value => simp [hvalue]

theorem fresh_iff (key : SignalKey) :
    ((∃ sample, snapshot.samples.get? key = some sample) ∧
      snapshot.freshness.get? key = some .fresh) ↔ engine.FreshAfter frame key := by
  have hafter := hsound.ingest hingest
  obtain ⟨taken, htaken, hsamples, -⟩ := hafter.snapshot
  rw [hsnapshot] at htaken
  cases htaken
  have hreading := snapshot_reading hsound hingest hsnapshot key
  have hcatalog := ingest_catalog hingest
  have hlatest : engine'.latestTimestampMicroseconds = some frame.timestampMicroseconds := by
    obtain ⟨-, definitions, -, -, haccept⟩ := ingest_ok_iff.1 hingest
    rw [haccept, accept_eq]
  unfold FreshAfter
  rw [← hreading]
  cases hget : snapshot.samples.get? key with
  | none =>
    simp only [Option.map_none, reduceCtorEq, exists_false, false_and]
  | some sample =>
    rw [hsamples] at hget
    obtain ⟨definition, latest, hdefinition, hsome, hle, hstatus⟩ :=
      hafter.snapshot_freshness hsnapshot hget
    rw [hlatest] at hsome
    cases hsome
    rw [hcatalog] at hdefinition
    rw [hstatus]
    constructor
    · rintro ⟨-, hfresh⟩
      refine ⟨_, _, definition, rfl, hdefinition, ?_⟩
      by_contra hage
      rw [if_neg hage] at hfresh
      cases hfresh
    · rintro ⟨value, time, found, hpair, hfound, hage⟩
      cases hpair
      rw [hdefinition] at hfound
      cases hfound
      exact ⟨⟨sample, rfl⟩, by rw [if_pos hage]⟩

end Readings

end TelemetryEngine

namespace Pipeline

/-- For the default rules it is the types of their fresh inputs that decide. -/
theorem rulesRead_default_iff {pipeline : Pipeline} {frame : DecodedCanFrame}
    (h : pipeline.Observing) (hrefuses : ¬ pipeline.Refuses frame)
    (hrules : pipeline.diagnostics.catalog.rules = defaultRules) :
    pipeline.RulesRead frame ↔ pipeline.telemetry.DefaultInputsTyped frame := by
  obtain ⟨samples, telemetry, snapshot, hingest, hsnapshot, -⟩ :=
    ingestDecoded_of_not_refuses h hrefuses
  have hafter : pipeline.telemetry.snapshotAfter frame = .ok snapshot := by
    rw [TelemetryEngine.snapshotAfter, hingest]
    exact hsnapshot
  have hread : pipeline.RulesRead frame ↔
      ∀ rule ∈ defaultRules, rule.Reads (pipeline.diagnostics.states rule.code) snapshot := by
    unfold RulesRead
    rw [hafter, hrules]
    exact ⟨fun hall => hall snapshot rfl, fun hall taken htaken => by cases htaken; exact hall⟩
  -- What the rules read of the snapshot, in terms of the frame and of telemetry before it.
  have hfresh : ∀ key, ((∃ sample, snapshot.samples.get? key = some sample) ∧
      snapshot.freshness.get? key = some .fresh) ↔ pipeline.telemetry.FreshAfter frame key :=
    TelemetryEngine.fresh_iff h.sound hingest hsnapshot
  have hnumber : ∀ key, (∃ value, number snapshot key = .ok value) ↔
      pipeline.telemetry.NumericAfter frame key :=
    TelemetryEngine.number_returns_iff h.sound hingest hsnapshot
  have hrunning : ∀ key, (∃ context, boolean snapshot .engineRunning = .ok context ∧
      (context = true → ∃ value, number snapshot key = .ok value)) ↔
        pipeline.telemetry.NumericWhileRunning frame key := by
    intro key
    simp only [TelemetryEngine.boolean_returns_iff h.sound hingest hsnapshot, hnumber,
      TelemetryEngine.NumericWhileRunning, exists_and_right]
  have hreads : ∀ (rule : DiagnosticRule) state, rule.Reads state snapshot ↔
      ((∀ key ∈ rule.definition.requiredSignals, pipeline.telemetry.FreshAfter frame key) →
        ∃ result, rule.condition snapshot (state.status = some .active) = .ok result) := by
    intro rule state
    simp only [DiagnosticRule.Reads, DiagnosticRule.InputsFresh, hfresh]
  rw [hread]
  -- One condition for each of the five rules, in the order of the catalog.
  constructor
  · intro hall
    have hreturns : ∀ rule ∈ defaultRules, _ := fun rule hmem => (hreads rule _).1 (hall rule hmem)
    simp only [defaultRules, List.forall_mem_cons] at hreturns
    obtain ⟨hcoolant, hoil, hcharging, hmanifold, hwheels, -⟩ := hreturns
    refine ⟨fun hinput => ?_, fun hinput => ?_, fun hinput hrun => ?_, fun hinput hrun => ?_,
      fun hinputs => ?_⟩
    · have hresult := hcoolant (List.forall_mem_singleton.2 hinput)
      exact (hnumber _).1 ((highThreshold_returns_iff _ _).1 hresult)
    · have hresult := hoil (List.forall_mem_singleton.2 hinput)
      exact (hnumber _).1 ((highThreshold_returns_iff _ _).1 hresult)
    · have hresult := hcharging (List.forall_mem_cons.2 ⟨hinput, List.forall_mem_singleton.2 hrun⟩)
      exact (hrunning _).1 ((lowWhileTrue_returns_iff _ _).1 hresult)
    · have hresult := hmanifold (List.forall_mem_cons.2 ⟨hinput, List.forall_mem_singleton.2 hrun⟩)
      exact (hrunning _).1 ((outsideRange_returns_iff _ _).1 hresult)
    · obtain ⟨hspeed, hcompared⟩ :=
        (disagreement_returns_iff _ _ (by decide)).1 (hwheels hinputs)
      intro key hmem
      rcases List.mem_append.1 hmem with hwheel | hreference
      · exact (hnumber _).1 (hcompared key hwheel)
      · rw [List.mem_singleton.1 hreference]
        exact (hnumber _).1 hspeed
  · intro htyped rule hmem
    refine (hreads rule _).2 fun hinputs => ?_
    simp only [defaultRules, List.mem_cons, List.not_mem_nil, or_false] at hmem
    rcases hmem with rfl | rfl | rfl | rfl | rfl
    · exact (highThreshold_returns_iff _ _).2
        ((hnumber _).2 (htyped.coolant (hinputs _ List.mem_cons_self)))
    · exact (highThreshold_returns_iff _ _).2
        ((hnumber _).2 (htyped.oil (hinputs _ List.mem_cons_self)))
    · exact (lowWhileTrue_returns_iff _ _).2 ((hrunning _).2 (htyped.charging
        (hinputs _ List.mem_cons_self) (hinputs _ (List.mem_cons_of_mem _ List.mem_cons_self))))
    · exact (outsideRange_returns_iff _ _).2 ((hrunning _).2 (htyped.manifold
        (hinputs _ List.mem_cons_self) (hinputs _ (List.mem_cons_of_mem _ List.mem_cons_self))))
    · have hwheels := htyped.wheels hinputs
      refine (disagreement_returns_iff _ _ (by decide)).2
        ⟨(hnumber _).2 (hwheels _ (List.mem_append_right _ List.mem_cons_self)), fun key hmem => ?_⟩
      exact (hnumber _).2 (hwheels key (List.mem_append_left _ hmem))

end Pipeline

namespace TelemetryService

/-- What `ingest_decoded` may touch is as it was. -/
structure Unchanged (s t : TelemetryService) : Prop where
  telemetry : t.pipeline.telemetry = s.pipeline.telemetry
  diagnostics : t.pipeline.diagnostics = s.pipeline.diagnostics
  published : t.published = s.published

/-- Both engines have taken the frame, and the subscribers were sent its update. -/
structure Advanced (s t : TelemetryService) (frame : DecodedCanFrame) (update : TelemetryUpdate) :
    Prop where
  telemetry : ∃ samples,
    s.pipeline.telemetry.ingest frame = .ok (samples, t.pipeline.telemetry)
  diagnostics : ∃ snapshot events, t.pipeline.telemetry.snapshot = .ok snapshot ∧
    s.pipeline.diagnostics.ingest snapshot = (.ok events, t.pipeline.diagnostics)
  published : t.published = s.published ++ [.update update]

/-- Ingesting the frame changes nothing if it raises, and everything if it returns. -/
def Atomic (s : TelemetryService) (frame : DecodedCanFrame) : Prop :=
  (∀ error t, s.ingestDecoded frame = (.error error, t) → s.Unchanged t) ∧
    ∀ update t, s.ingestDecoded frame = (.ok update, t) → s.Advanced t frame update

/-- In every reachable service ingestion is atomic exactly if the frame is refused before the
telemetry engine is written, or no rule raises on what the engine then holds: for the default
rules, if their fresh inputs have the types they read. -/
theorem ingest_decoded_atomic_iff (pipeline : Pipeline) (hfresh : pipeline.AtReset)
    (labels : List ServiceLabel) (s : TelemetryService) (hrun : Reaches pipeline labels s)
    (frame : DecodedCanFrame) :
    (s.Atomic frame ↔ s.pipeline.Refuses frame ∨ s.pipeline.RulesRead frame) ∧
    (s.pipeline.diagnostics.catalog.rules = defaultRules →
      (s.Atomic frame ↔
        s.pipeline.Refuses frame ∨ s.pipeline.telemetry.DefaultInputsTyped frame)) := by
  have hobserving := observing_of_run hfresh hrun
  have hatomic : s.Atomic frame ↔ s.pipeline.Refuses frame ∨ s.pipeline.RulesRead frame := by
    by_cases hrefuses : s.pipeline.Refuses frame
    -- A frame that telemetry refuses changes nothing.
    · refine ⟨fun _ => .inl hrefuses, fun _ => ?_⟩
      obtain ⟨error, hingest⟩ := Pipeline.ingestDecoded_of_refuses hrefuses
      have hsame : s.ingestDecoded frame = (.error error, s) := by
        rw [ingestDecoded, hingest]
      refine ⟨fun _ t ht => ?_, fun _ t ht => ?_⟩ <;> rw [hsame] at ht <;> cases ht
      exact ⟨rfl, rfl, rfl⟩
    · obtain ⟨samples, telemetry, snapshot, hingest, hsnapshot, hreads, hraises⟩ :=
        Pipeline.ingestDecoded_of_not_refuses hobserving hrefuses
      rw [or_iff_right hrefuses]
      constructor
      · intro h
        by_contra hrules
        obtain ⟨error, hdecoded⟩ := hraises hrules
        have hsame := (h.1 error _ (by rw [ingestDecoded, hdecoded])).telemetry
        -- the engine has counted a frame
        obtain ⟨-, definitions, -, -, haccept⟩ := TelemetryEngine.ingest_ok_iff.1 hingest
        have hcount := congrArg TelemetryEngine.totalFrames (hsame.symm.trans haccept)
        rw [TelemetryEngine.accept_eq] at hcount
        exact Nat.succ_ne_self _ hcount.symm
      · intro hrules
        obtain ⟨update, events, hevents, hdecoded⟩ := hreads hrules
        refine ⟨fun error t ht => ?_, fun update' t ht => ?_⟩ <;>
          rw [ingestDecoded, hdecoded] at ht <;> cases ht
        exact ⟨⟨samples, hingest⟩, ⟨snapshot, events, hsnapshot, hevents⟩, rfl⟩
  refine ⟨hatomic, fun hrules => ?_⟩
  by_cases hrefuses : s.pipeline.Refuses frame
  · rw [hatomic]
    exact ⟨fun _ => .inl hrefuses, fun _ => .inl hrefuses⟩
  · rw [hatomic, or_iff_right hrefuses, or_iff_right hrefuses]
    exact Pipeline.rulesRead_default_iff hobserving hrefuses hrules

/-- A frame that carries a coolant temperature only. -/
def coolantFrame (value : SignalValue) : DecodedCanFrame :=
  ⟨1282, "DmeThermalElectrical", 0, ⟨[("CoolantTemperature", value)], List.nodup_singleton _⟩⟩

/-- A new service over the packaged database. -/
def packagedService : TelemetryService := create (.packaged DbcMessage.intelDecode)

/-- A coolant temperature that is a number is ingested as a whole. -/
theorem numeric_coolant_is_ingested : packagedService.Atomic (coolantFrame (.float 90)) := by
  refine ((ingest_decoded_atomic_iff _ (Pipeline.atReset_packaged DbcMessage.intelDecode) []
    packagedService rfl (coolantFrame (.float 90))).2 rfl).2 (.inr ?_)
  have hcoolant : packagedService.pipeline.telemetry.NumericAfter (coolantFrame (.float 90))
      .coolant := ⟨.float 90, 0, rfl, trivial⟩
  have hunseen : ∀ key ∈ [SignalKey.oil, .battery, .manifoldPressure, .vehicleSpeed],
      packagedService.pipeline.telemetry.readingAfter (coolantFrame (.float 90)) key = none := by
    decide
  have hstale : ∀ key ∈ [SignalKey.oil, .battery, .manifoldPressure, .vehicleSpeed],
      ¬ packagedService.pipeline.telemetry.FreshAfter (coolantFrame (.float 90)) key := by
    rintro key hmem ⟨value, time, definition, hreading, -⟩
    rw [hunseen key hmem] at hreading
    cases hreading
  exact ⟨fun _ => hcoolant, fun h => absurd h (hstale _ (by decide)),
    fun h => absurd h (hstale _ (by decide)), fun h => absurd h (hstale _ (by decide)),
    fun h => absurd (h .vehicleSpeed (by decide)) (hstale _ (by decide))⟩

/-- A coolant temperature that is a boolean raises in the diagnostic rule, when the telemetry
engine has counted it and the diagnostic engine has observed its time. -/
theorem boolean_coolant_is_half_ingested :
    Reaches (.packaged DbcMessage.intelDecode) [] packagedService ∧
      (∃ error t, packagedService.ingestDecoded (coolantFrame (.bool true)) = (.error error, t) ∧
        error.cls = .typeError ∧ t.pipeline.telemetry.totalFrames = 1 ∧
        t.pipeline.diagnostics.observationTimestampMicroseconds = some 0 ∧ t.published = []) ∧
      ¬ packagedService.Atomic (coolantFrame (.bool true)) := by
  have hraised : packagedService.ingestDecoded (coolantFrame (.bool true)) =
      (.error (notNumeric .coolant),
        (packagedService.ingestDecoded (coolantFrame (.bool true))).2) := rfl
  refine ⟨rfl, ⟨_, _, hraised, rfl, rfl, rfl, rfl⟩, fun hatomic => ?_⟩
  have hsame := congrArg TelemetryEngine.totalFrames (hatomic.1 _ _ hraised).telemetry
  cases hsame

end TelemetryService

end TunerOs
