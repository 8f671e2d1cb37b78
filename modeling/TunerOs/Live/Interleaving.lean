-- SUMMARY: A service whose only source is a live one, whatever else calls it: which frames of the stream it has taken.
import TunerOs.Diagnostics.History
import TunerOs.Frontend.Agreement
import TunerOs.Live.Source
import TunerOs.Telemetry.SourceExclusion
import TunerOs.Telemetry.WorkerRun

/-!
# A live source among other calls

The steps of the live worker come between calls of `stop`, clears of trouble codes and
subscriptions, in any order. While the worker can still ingest, the frames it was handed
are those the pipeline has taken and at most one more; afterwards the pipeline stays.
-/

namespace TunerOs

open Containers Transition VehicleNetworkPublisher

namespace TelemetryService.ServiceLabel

/-- The frame that the step hands the source worker. -/
def handed : ServiceLabel → List RawCanFrame
  | .worker _ action => action.handed
  | _ => []

/-- The step does not feed the service from anything but its live source. -/
def feedsLive : ServiceLabel → Bool
  | .startReplay _ _ _ | .ingestDecoded _ => false
  | _ => true

end TelemetryService.ServiceLabel

/-- The frame that the worker was handed and has not ingested. -/
def WorkerPhase.pending : WorkerPhase → Option RawCanFrame
  | .checking frame | .recording frame | .exploring frame | .ingesting frame => some frame
  | _ => none

namespace TelemetryService

/-! ## One step -/

section Step

variable {s t : TelemetryService}

/-- A step of a live worker ingests the frame it holds, or keeps the pipeline and holds what it is
handed. -/
theorem workerStep_live {thread : ℕ} {phase next : WorkerPhase} {action : WorkerAction}
    (hreplayable : s.pipeline.Replayable)
    (hstep : s.workerStep thread ⟨.live, phase⟩ action = some (next, t)) :
    (∃ frame, phase = .ingesting frame ∧ action.handed = [] ∧
      ∀ update pipeline, s.pipeline.ingestDecodable frame = (.ok update, pipeline) →
        next = .reading ∧ t.pipeline = pipeline ∧
          t.published = s.published ++ [.update update]) ∨
      s.pipeline.Keeps t.pipeline ∧ (next.canIngest = true → phase.canIngest = true ∧
        next.pending.toList = phase.pending.toList ++ action.handed) := by
  cases action with
  | connect outcome =>
    simp only [workerStep] at hstep
    split at hstep <;> cases hstep <;> rename_i hphase
    · cases hphase
      exact .inr ⟨.refl _, fun _ => ⟨rfl, rfl⟩⟩
    · exact .inr ⟨.refl _, fun hcan => absurd hcan Bool.false_ne_true⟩
  | enter =>
    simp only [workerStep] at hstep
    split at hstep
    · rename_i hphase
      cases hphase
      split at hstep <;> cases hstep
      · exact .inr ⟨.refl _, fun hcan => absurd hcan Bool.false_ne_true⟩
      · exact .inr ⟨.refl _, fun _ => ⟨rfl, rfl⟩⟩
    · cases hstep
  | wake => cases hstep
  | next outcome =>
    simp only [workerStep] at hstep
    split at hstep <;> cases hstep
    · exact .inr ⟨.refl _, fun _ => ⟨rfl, rfl⟩⟩
    · exact .inr ⟨.refl _, fun hcan => absurd hcan Bool.false_ne_true⟩
    · exact .inr ⟨.refl _, fun hcan => absurd hcan Bool.false_ne_true⟩
  | check =>
    simp only [workerStep] at hstep
    split at hstep <;> cases hstep
    · split
      · exact .inr ⟨.refl _, fun hcan => absurd hcan Bool.false_ne_true⟩
      · exact .inr ⟨.refl _, fun _ => ⟨rfl, rfl⟩⟩
    · split
      · exact .inr ⟨.refl _, fun hcan => absurd hcan Bool.false_ne_true⟩
      · exact .inr ⟨.refl _, fun _ => ⟨rfl, rfl⟩⟩
  | record outcome =>
    simp only [workerStep] at hstep
    split at hstep <;> cases hstep
    · exact .inr ⟨.refl _, fun _ => ⟨rfl, rfl⟩⟩
    · exact .inr ⟨.refl _, fun hcan => absurd hcan Bool.false_ne_true⟩
  | explore =>
    simp only [workerStep] at hstep
    split at hstep
    · rename_i frame
      obtain ⟨explored, explorer, hexplored, hdecoder⟩ := hreplayable.explored frame
      simp only [ingestCanExplorer, hexplored] at hstep
      cases hstep
      exact .inr ⟨⟨rfl, rfl, hdecoder, rfl, rfl⟩, fun _ => ⟨rfl, rfl⟩⟩
    · cases hstep
  | ingest =>
    simp only [workerStep] at hstep
    split at hstep
    · rename_i frame
      refine .inl ⟨frame, rfl, rfl, fun update pipeline hingest => ?_⟩
      have hreturns : s.ingestDecodable frame = (.ok update,
          { s with pipeline, published := s.published ++ [.update update] }) := by
        unfold Pipeline.ingestDecodable at hingest
        unfold ingestDecodable
        cases hdecode : s.pipeline.decoder.decode frame with
        | error error =>
          rw [hdecode] at hingest
          cases hingest
        | ok decoded =>
          rw [hdecode] at hingest
          change s.pipeline.ingestDecoded decoded = _ at hingest
          change s.ingestDecoded decoded = _
          unfold ingestDecoded
          rw [hingest]
      rw [hreturns] at hstep
      cases hstep
      exact ⟨rfl, rfl, rfl⟩
    · cases hstep
  | finalize outcome | abort outcome =>
    simp only [workerStep] at hstep
    split at hstep <;> cases hstep <;> exact .inr ⟨.refl _, fun hcan => absurd hcan Bool.false_ne_true⟩
  | close outcome | release =>
    simp only [workerStep] at hstep
    split at hstep <;> cases hstep <;> exact .inr ⟨.refl _, fun hcan => absurd hcan Bool.false_ne_true⟩
  | complete | fail =>
    simp only [workerStep] at hstep
    split at hstep <;> cases hstep
    rw [transitionUnlessStopped_pipeline]
    exact .inr ⟨.refl _, fun hcan => absurd hcan Bool.false_ne_true⟩

theorem stopStep_source {phase next : StopPhase} {action : StopAction}
    (hstep : s.stopStep phase action = some (next, t)) :
    t.workers = s.workers ∧ t.liveStartedOnce = s.liveStartedOnce := by
  cases action with
  | join | joinTimeout =>
    simp only [stopStep] at hstep
    split at hstep
    · split at hstep <;> cases hstep
      exact ⟨rfl, rfl⟩
    · cases hstep
  | finish =>
    simp only [stopStep] at hstep
    split at hstep <;> cases hstep
    exact ⟨s.finishStop_workers, s.finishStop_liveStartedOnce⟩
  | request | releaseReplay | readReferences | closeClient =>
    simp only [stopStep] at hstep
    split at hstep <;> cases hstep
    exact ⟨rfl, rfl⟩

/-- A step of no worker that neither starts a source nor ingests keeps the source and the
pipeline. -/
theorem step_keepsSource {label : ServiceLabel} (hfeeds : label.feedsLive = true)
    (hstart : label ≠ .start) (hworker : ∀ thread action, label ≠ .worker thread action)
    (hstep : s.step label = some t) :
    t.workers = s.workers ∧ t.liveStartedOnce = s.liveStartedOnce ∧
      s.pipeline.Keeps t.pipeline := by
  cases label with
  | start => exact absurd rfl hstart
  | worker thread action => exact absurd rfl (hworker thread action)
  | startReplay _ _ _ | ingestDecoded _ => cases hfeeds
  | stop caller action =>
    simp only [TelemetryService.step] at hstep
    split at hstep <;> cases hstep
    rename_i phase after hstop
    obtain ⟨hworkers, hlive⟩ := stopStep_source hstop
    refine ⟨hworkers, hlive, ?_⟩
    change s.pipeline.Keeps after.pipeline
    rw [stopStep_pipeline hstop]
    exact .refl _
  | clearDiagnostic code =>
    cases hstep
    unfold clearDiagnostic
    cases hclear : s.pipeline.diagnostics.clear code with
    | error error => exact ⟨rfl, rfl, .refl _⟩
    | ok result =>
      refine ⟨rfl, rfl, rfl, rfl, rfl, ?_, (DiagnosticEngine.clear_keeps hclear).1⟩
      have hcatalog := (DiagnosticEngine.call_configuration s.pipeline.diagnostics (.clear code)).1
      rw [DiagnosticEngine.call, hclear] at hcatalog
      exact hcatalog
  | subscribe =>
    cases hstep
    have hsame := s.subscribe_lifecycle
    refine ⟨hsame.workers, hsame.liveStartedOnce, ?_⟩
    rw [s.subscribe_keeps.1]
    exact .refl _
  | subscribeCan frameLimit =>
    cases hstep
    have hsame := s.subscribeCan_lifecycle frameLimit
    refine ⟨hsame.workers, hsame.liveStartedOnce, ?_⟩
    unfold subscribeCan
    split
    · exact .refl _
    · rw [releaseReplay_pipeline]
      exact .refl _
  | unsubscribe | unsubscribeCan =>
    simp only [TelemetryService.step] at hstep
    split at hstep <;> cases hstep
    exact ⟨rfl, rfl, .refl _⟩

end Step

/-! ## Runs -/

/-- The service has no source yet, or a live one that has ingested the first `count` of the frames
it will be handed; while it can still ingest, it holds the others it was handed so far. -/
structure Watches (messageDecode : DbcMessage → Bytes → Option (Dict String CanmatrixValue))
    (faults : List FaultConfiguration) (sent : List (FrameEncoder × VehicleState))
    (delivered handed : List RawCanFrame) (count : ℕ) (s : TelemetryService) : Prop where
  live : s.pipeline.Live messageDecode faults
    (Carriers.after (fun _ => none) (sent.take count))
  latest : s.pipeline.telemetry.latestTimestampMicroseconds =
    (sent.take count).getLast?.map (·.2.timestamp.toNat)
  source : (s.workers = [] ∧ count = 0 ∧ handed = []) ∨
    ∃ phase, s.workers = [⟨.live, phase⟩] ∧ s.liveStartedOnce = true ∧
      (phase.canIngest = true → handed = delivered.take count ++ phase.pending.toList)

section Watches

variable {messageDecode : DbcMessage → Bytes → Option (Dict String CanmatrixValue)}
  {faults : List FaultConfiguration} {sent : List (FrameEncoder × VehicleState)}
  {delivered handed : List RawCanFrame} {count : ℕ} {s t : TelemetryService}

theorem watches_create (hdecodes : DecodesIntel messageDecode)
    (faults : List FaultConfiguration) (sent : List (FrameEncoder × VehicleState))
    (delivered : List RawCanFrame) :
    Watches messageDecode faults sent delivered [] 0 (create (.packaged messageDecode)) where
  live := Pipeline.live_packaged hdecodes faults
  latest := rfl
  source := .inl ⟨rfl, rfl, rfl⟩

theorem Watches.keeps (h : Watches messageDecode faults sent delivered handed count s)
    (hworkers : t.workers = s.workers) (hstarted : t.liveStartedOnce = s.liveStartedOnce)
    (hkeeps : s.pipeline.Keeps t.pipeline) :
    Watches messageDecode faults sent delivered handed count t where
  live := h.live.keeps hkeeps
  latest := hkeeps.telemetry ▸ h.latest
  source := by
    rw [hworkers, hstarted]
    exact h.source

/-- Only the first call of `start` returns, and it starts the live source. -/
theorem Watches.start (h : Watches messageDecode faults sent delivered handed count s)
    (hstart : s.start = .ok t) :
    Watches messageDecode faults sent delivered handed count t := by
  have hpipeline := start_pipeline hstart
  have hworkers : s.liveStartedOnce = false ∧ t.workers = s.workers ++ [⟨.live, .connecting⟩] ∧
      t.liveStartedOnce = true := by
    unfold TelemetryService.start at hstart
    split at hstart
    · cases hstart
    · rename_i hfirst
      split at hstart <;> cases hstart
      exact ⟨Bool.eq_false_iff.2 hfirst, rfl, rfl⟩
  obtain ⟨hfirst, hspawned, hstarted⟩ := hworkers
  rcases h.source with ⟨hnone, rfl, rfl⟩ | ⟨phase, -, honce, -⟩
  · have hobservation : s.pipeline.diagnostics.observationTimestampMicroseconds = none :=
      h.live.replayable.observed.trans h.latest
    refine ⟨h.live.keeps (hpipeline ▸ ⟨rfl, rfl, rfl, rfl, hobservation.symm⟩), ?_, .inr ?_⟩
    · rw [hpipeline]
      exact h.latest
    · exact ⟨.connecting, by rw [hspawned, hnone]; rfl, hstarted, fun _ => rfl⟩
  · rw [hfirst] at honce
    cases honce

/-- The frame handed after the first `count` is the next one of the stream. -/
theorem next_frame {R : RawCanFrame → FrameEncoder × VehicleState → Prop}
    (hdelivered : List.Forall₂ R delivered sent) {frame : RawCanFrame}
    (hbegins : delivered.take count ++ [frame] <+: delivered) :
    ∃ pair, R frame pair ∧ sent.take (count + 1) = sent.take count ++ [pair] ∧
      delivered.take (count + 1) = delivered.take count ++ [frame] := by
  have hlength := hbegins.length_le
  rw [List.length_append, List.length_take, List.length_singleton] at hlength
  have hlt : count < delivered.length := by omega
  have hlast : delivered.take (count + 1) = delivered.take count ++ [frame] := by
    have htaken := List.prefix_iff_eq_take.1 hbegins
    rw [List.length_append, List.length_take, List.length_singleton, min_eq_left hlt.le] at htaken
    exact htaken.symm
  have hframe : delivered[count] = frame := by
    rw [List.take_succ_eq_append_getElem hlt] at hlast
    exact List.singleton_inj.1 (List.append_cancel_left hlast)
  have hsent : count < sent.length := hdelivered.length_eq ▸ hlt
  refine ⟨sent[count], ?_, List.take_succ_eq_append_getElem hsent, hlast⟩
  rw [← hframe]
  exact hdelivered.get hlt hsent

/-- A step of a service that is fed by its live source ingests the next frame of the stream as a
whole, or leaves the telemetry engine as it is. -/
theorem Watches.step (hdecodes : DecodesIntel messageDecode)
    (hdelivered : List.Forall₂ (fun raw (pair : FrameEncoder × VehicleState) =>
      raw.Observes (pair.1.observed faults pair.2)) delivered sent)
    (hencoders : ∀ pair ∈ sent, pair.1 ∈ networkEncoders)
    (hordered : sent.Pairwise
      (fun earlier later => earlier.2.timestamp.toNat ≤ later.2.timestamp.toNat))
    (h : Watches messageDecode faults sent delivered handed count s) {label : ServiceLabel}
    (hfeeds : label.feedsLive = true) (hhanded : handed ++ label.handed <+: delivered)
    (hstep : s.step label = some t) :
    s.IngestsWhole label ∧
      ∃ taken, Watches messageDecode faults sent delivered (handed ++ label.handed) taken t := by
  have hwhole : (t.pipeline.telemetry = s.pipeline.telemetry ∨
      ∃ update, t.published = s.published ++ [.update update]) → s.IngestsWhole label := by
    intro hmove u hu
    cases hstep.symm.trans hu
    exact hmove
  by_cases hstart : label = .start
  · subst hstart
    rw [show ServiceLabel.start.handed = [] from rfl, List.append_nil]
    cases hstep
    split
    · rename_i u hu
      have htelemetry := congrArg Pipeline.telemetry (start_pipeline hu)
      refine ⟨?_, count, h.start hu⟩
      intro v hv
      simp only [TelemetryService.step, hu, Option.some.injEq] at hv
      exact .inl (hv ▸ htelemetry)
    · rename_i error hu
      refine ⟨?_, count, h⟩
      intro v hv
      simp only [TelemetryService.step, hu, Option.some.injEq] at hv
      exact .inl (hv ▸ rfl)
  by_cases hother : ∀ thread action, label ≠ .worker thread action
  · obtain ⟨hworkers, hstarted, hkeeps⟩ := step_keepsSource hfeeds hstart hother hstep
    have hnone : label.handed = [] := by
      cases label <;> first | rfl | exact absurd rfl (hother _ _)
    rw [hnone, List.append_nil]
    exact ⟨hwhole (.inl hkeeps.telemetry), count, h.keeps hworkers hstarted hkeeps⟩
  push Not at hother
  obtain ⟨thread, action, rfl⟩ := hother
  change handed ++ action.handed <+: delivered at hhanded
  change _ ∧ ∃ taken, Watches _ _ _ _ (handed ++ action.handed) taken t
  rcases h.source with ⟨hnone, -, -⟩ | ⟨phase, hworkers, hstarted, hphase⟩
  · simp only [TelemetryService.step, hnone, List.getElem?_nil] at hstep
    cases hstep
  simp only [TelemetryService.step, hworkers] at hstep
  split at hstep
  · cases hstep
  rename_i worker hworker
  obtain ⟨rfl, rfl⟩ : thread = 0 ∧ worker = ⟨.live, phase⟩ := by
    cases thread with
    | zero => exact ⟨rfl, (Option.some.inj hworker).symm⟩
    | succ thread => cases hworker
  split at hstep
  · cases hstep
  rename_i next after hmove
  cases hstep
  have heffect := workerStep_effect hmove
  have hafter : (after.setPhase 0 next).workers = [⟨.live, next⟩] := by
    change after.workers.modify 0 _ = _
    rw [heffect.workers, hworkers]
    rfl
  have honce : (after.setPhase 0 next).liveStartedOnce = true :=
    heffect.liveStartedOnce.trans hstarted
  rcases workerStep_live h.live.replayable hmove with ⟨frame, rfl, hnone, hingests⟩ | ⟨hkeeps, hheld⟩
  · -- the frame it holds is the next one of the stream, and not older than the last
    have hhandedSoFar : handed = delivered.take count ++ [frame] := hphase rfl
    rw [hnone, List.append_nil] at hhanded ⊢
    obtain ⟨pair, hframe, hsent, hcount⟩ := next_frame hdelivered (hhandedSoFar ▸ hhanded)
    have hmem : pair ∈ sent := (List.take_subset (count + 1) sent)
      (hsent ▸ List.mem_append_right _ List.mem_cons_self)
    have hlater : ∀ latest, s.pipeline.telemetry.latestTimestampMicroseconds = some latest →
        latest ≤ pair.2.timestamp.toNat := by
      intro latest hlatest
      rw [h.latest] at hlatest
      obtain ⟨last, hlast, rfl⟩ := Option.map_eq_some_iff.1 hlatest
      have htaken := hordered.sublist (List.take_sublist (count + 1) sent)
      rw [hsent] at htaken
      exact (List.pairwise_append.1 htaken).2.2 last (List.mem_of_getLast? hlast) pair
        List.mem_cons_self
    obtain ⟨update, reached, hingest, htook⟩ :=
      h.live.ingest hdecodes (hencoders pair hmem) hframe hlater
    obtain ⟨rfl, hpipeline, hpublished⟩ := hingests update reached hingest
    refine ⟨hwhole (.inr ⟨update, hpublished⟩), count + 1, ?_, ?_, .inr ?_⟩
    · change after.pipeline.Live _ _ _
      rw [hpipeline, hsent, Carriers.after_append]
      exact htook.live
    · change after.pipeline.telemetry.latestTimestampMicroseconds = _
      rw [hpipeline, hsent, List.getLast?_concat]
      exact htook.latest
    · refine ⟨.reading, hafter, honce, fun _ => ?_⟩
      rw [hhandedSoFar, hcount]
      exact (List.append_nil _).symm
  · refine ⟨hwhole (.inl hkeeps.telemetry), count, h.live.keeps hkeeps, ?_, .inr ?_⟩
    · exact (congrArg TelemetryEngine.latestTimestampMicroseconds hkeeps.telemetry).trans h.latest
    · refine ⟨next, hafter, honce, fun hcan => ?_⟩
      obtain ⟨hbefore, hpending⟩ := hheld hcan
      rw [hphase hbefore, hpending, List.append_assoc]

/-- Over a run, a client that showed the telemetry of an earlier service and applies the updates
published since shows it still. -/
theorem Watches.run (hdecodes : DecodesIntel messageDecode)
    (hdelivered : List.Forall₂ (fun raw (pair : FrameEncoder × VehicleState) =>
      raw.Observes (pair.1.observed faults pair.2)) delivered sent)
    (hencoders : ∀ pair ∈ sent, pair.1 ∈ networkEncoders)
    (hordered : sent.Pairwise
      (fun earlier later => earlier.2.timestamp.toNat ≤ later.2.timestamp.toNat))
    (h : Watches messageDecode faults sent delivered handed count s) {start : TelemetryService}
    (hfollows : Follows start s) (hcatalog : start.pipeline.telemetry.catalog.Separable)
    {labels : List ServiceLabel} (hfeeds : ∀ label ∈ labels, label.feedsLive = true)
    (hhanded : handed ++ labels.flatMap ServiceLabel.handed <+: delivered)
    (hrun : Transition.run TelemetryService.step s labels = some t) :
    Follows start t ∧ ∃ taken, Watches messageDecode faults sent delivered
      (handed ++ labels.flatMap ServiceLabel.handed) taken t := by
  induction labels generalizing s handed count with
  | nil =>
    rw [run_nil] at hrun
    subst hrun
    exact ⟨hfollows, count, by rwa [List.flatMap_nil, List.append_nil]⟩
  | cons label rest ih =>
    obtain ⟨u, hstep, hrest⟩ := run_cons.1 hrun
    rw [List.flatMap_cons, ← List.append_assoc] at hhanded ⊢
    have hlabel := hfeeds label List.mem_cons_self
    obtain ⟨hwhole, taken, hu⟩ := h.step hdecodes hdelivered hencoders hordered hlabel
      ((List.prefix_append _ _).trans hhanded) hstep
    have hreplay : label.startsReplay = false := by
      cases label <;> first | rfl | cases hlabel
    exact ih hu (hfollows.step hcatalog hreplay hwhole hstep)
      (fun later hmem => hfeeds later (List.mem_cons_of_mem _ hmem)) hhanded hrest

end Watches

/-- A source that nobody stops and that completes is a run of the service, in which the worker is
handed the whole stream. -/
theorem exists_completing_run (sha256 : Bytes → Sha256Digest) {s t : TelemetryService}
    (hstart : s.start = .ok t) (recorder : SessionRecorder) (delivered : List RawCanFrame)
    (hcompletes : (runGateway sha256 t.pipeline recorder (.ok ⟨delivered, none⟩)).state =
      .completed) :
    ∃ labels u, Transition.run TelemetryService.step s labels = some u ∧ u.state = .completed ∧
      u.pipeline = (runGateway sha256 t.pipeline recorder (.ok ⟨delivered, none⟩)).pipeline ∧
      (∀ label ∈ labels, label.feedsLive = true) ∧
      labels.flatMap ServiceLabel.handed = delivered := by
  obtain ⟨final, hruns, hran⟩ :=
    GatewayWorker.exists_ranGateway sha256 s t hstart recorder (.ok ⟨delivered, none⟩)
  have hstate : final.service.state = .completed :=
    (congrArg GatewayRun.state hran.run).trans hcompletes
  obtain ⟨-, actions, hactions, hremaining⟩ := hruns.labels
  rw [hran.consumed hstate, List.append_nil] at hremaining
  refine ⟨.start :: actions.map (.worker s.workers.length), final.service,
    run_cons.2 ⟨t, ?_, hactions⟩, hstate, congrArg GatewayRun.pipeline hran.run, ?_, ?_⟩
  · rw [TelemetryService.step, hstart]
  · intro label hmem
    rcases List.mem_cons.1 hmem with rfl | hworked
    · rfl
    · obtain ⟨action, -, rfl⟩ := List.mem_map.1 hworked
      rfl
  · rw [List.flatMap_cons, List.flatMap_map]
    exact hremaining.symm

end TelemetryService

end TunerOs
