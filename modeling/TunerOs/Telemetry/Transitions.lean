-- SUMMARY: What a step of the service publishes about its state: a subscriber that stays is told of every transition.
import TunerOs.Telemetry.Service

/-!
# State transitions of the service

Every change of the state goes through `_transition_locked`, which publishes it. Only a
replay that starts replaces the broadcasters, and it does so without subscribers.
-/

namespace TunerOs

namespace TelemetryService

/-- What a step that keeps the broadcasters publishes: updates and no new state, or its new state. -/
inductive StateMove (s t : TelemetryService) : Prop where
  | keep (updates : List TelemetryUpdate) (hstate : t.state = s.state)
      (hpublished : t.published = s.published ++ updates.map .update)
      (hsubscribers : s.subscriberCount ≤ t.subscriberCount)
  | transition (error : Option String)
      (hpublished : t.published = s.published ++ [.serviceState ⟨t.state, error⟩])
      (hsubscribers : s.subscriberCount ≤ t.subscriberCount)

/-- A step that publishes nothing. -/
theorem StateMove.silent {s t : TelemetryService} (hstate : t.state = s.state)
    (hpublished : t.published = s.published) (hsubscribers : s.subscriberCount ≤ t.subscriberCount) :
    StateMove s t :=
  .keep [] hstate (hpublished.trans (List.append_nil _).symm) hsubscribers

theorem StateMove.refl (s : TelemetryService) : StateMove s s := .silent rfl rfl le_rfl

/-- A move only reads the state, what was published and the subscribers. -/
theorem StateMove.congr {s t u : TelemetryService} (h : StateMove s t) (hstate : u.state = t.state)
    (hpublished : u.published = t.published) (hsubscribers : u.subscriberCount = t.subscriberCount) :
    StateMove s u := by
  cases h with
  | keep updates hkept hupdates hcount =>
    exact .keep updates (hstate.trans hkept) (hpublished.trans hupdates) (hsubscribers ▸ hcount)
  | transition error hmoved hcount =>
    refine .transition error ?_ (hsubscribers ▸ hcount)
    rw [hpublished, hmoved, hstate]

theorem ingestDecoded_stateMove (s : TelemetryService) (frame : DecodedCanFrame) :
    StateMove s (s.ingestDecoded frame).2 := by
  unfold ingestDecoded
  split
  · exact .silent rfl rfl le_rfl
  · rename_i update pipeline _
    exact .keep [update] rfl rfl le_rfl

theorem ingestDecodable_stateMove (s : TelemetryService) (rawFrame : RawCanFrame) :
    StateMove s (s.ingestDecodable rawFrame).2 := by
  unfold ingestDecodable
  split
  · exact .refl s
  · exact s.ingestDecoded_stateMove _

theorem ingestCanExplorer_stateMove (s : TelemetryService) (rawFrame : RawCanFrame) :
    StateMove s (s.ingestCanExplorer rawFrame).2 := by
  unfold ingestCanExplorer
  split <;> exact .silent rfl rfl le_rfl

theorem transitionUnlessStopped_stateMove (s : TelemetryService) (state : TelemetryServiceState)
    (error : Option String) : StateMove s (s.transitionUnlessStopped state error) := by
  unfold transitionUnlessStopped
  split
  · exact .refl s
  · exact .transition error rfl le_rfl

theorem workerStep_stateMove {s t : TelemetryService} {thread : ℕ} {worker : SourceWorker}
    {action : WorkerAction} {phase : WorkerPhase}
    (h : s.workerStep thread worker action = some (phase, t)) : StateMove s t := by
  cases action with
  | enter =>
    simp only [workerStep] at h
    split at h
    · split at h <;> cases h
      · exact .silent rfl rfl le_rfl
      · exact .transition none rfl le_rfl
    · cases h
  | wake =>
    simp only [workerStep] at h
    split at h
    · split at h <;> cases h
      exact .refl s
    · cases h
  | explore =>
    simp only [workerStep] at h
    split at h
    · rename_i frame _
      have hmove := s.ingestCanExplorer_stateMove frame
      split at h <;> rename_i heq <;> rw [heq] at hmove <;> cases h <;> exact hmove
    · cases h
  | ingest =>
    simp only [workerStep] at h
    split at h
    · rename_i frame _
      have hmove := s.ingestDecodable_stateMove frame
      split at h <;> rename_i heq <;> rw [heq] at hmove <;> cases h <;> exact hmove
    · cases h
  | complete =>
    simp only [workerStep] at h
    split at h <;> cases h
    exact s.transitionUnlessStopped_stateMove .completed none
  | fail =>
    simp only [workerStep] at h
    split at h <;> cases h
    exact s.transitionUnlessStopped_stateMove .failed _
  | connect outcome | next outcome | check | record outcome | finalize outcome | abort outcome
  | close outcome | release =>
    simp only [workerStep] at h
    split at h <;> cases h <;> exact .silent rfl rfl le_rfl

theorem finishStop_stateMove (s : TelemetryService) : StateMove s s.finishStop := by
  unfold finishStop
  split
  · exact .transition none rfl le_rfl
  · exact .silent rfl rfl le_rfl

theorem stopStep_stateMove {s t : TelemetryService} {phase phase' : StopPhase}
    {action : StopAction} (h : s.stopStep phase action = some (phase', t)) : StateMove s t := by
  cases action with
  | join | joinTimeout =>
    simp only [stopStep] at h
    split at h
    · split at h <;> cases h
      exact .refl s
    · cases h
  | finish =>
    simp only [stopStep] at h
    split at h <;> cases h
    exact s.finishStop_stateMove
  | request | releaseReplay | readReferences | closeClient =>
    simp only [stopStep] at h
    split at h <;> cases h
    exact .silent rfl rfl le_rfl

theorem start_stateMove {s t : TelemetryService} (h : s.start = .ok t) : StateMove s t := by
  unfold start at h
  split at h
  · cases h
  · split at h <;> cases h
    exact .transition none rfl le_rfl

theorem releaseReplay_keeps (s : TelemetryService) :
    s.releaseReplay.state = s.state ∧ s.releaseReplay.published = s.published ∧
      s.releaseReplay.subscriberCount = s.subscriberCount := by
  unfold releaseReplay
  split <;> exact ⟨rfl, rfl, rfl⟩

/-- A subscription counts, and keeps the state and what was published. -/
theorem subscribe_keeps_state (s : TelemetryService) :
    s.subscribe.2.state = s.state ∧ s.subscribe.2.published = s.published ∧
      s.subscribe.2.subscriberCount = s.subscriberCount + 1 := by
  unfold subscribe
  split
  · exact ⟨rfl, rfl, rfl⟩
  · exact releaseReplay_keeps { s with subscriberCount := s.subscriberCount + 1 }

theorem subscribe_stateMove (s : TelemetryService) : StateMove s s.subscribe.2 := by
  obtain ⟨hstate, hpublished, hsubscribers⟩ := s.subscribe_keeps_state
  refine .silent hstate hpublished ?_
  omega

theorem subscribeCan_stateMove (s : TelemetryService) (frameLimit : Option ℕ) :
    StateMove s (s.subscribeCan frameLimit).2 := by
  unfold subscribeCan
  split
  · exact .silent rfl rfl le_rfl
  · obtain ⟨hstate, hpublished, hsubscribers⟩ :=
      releaseReplay_keeps { s with canSubscriberCount := s.canSubscriberCount + 1 }
    exact .silent hstate hpublished hsubscribers.ge

/-- A replay that starts finds no subscriber. -/
theorem startReplay_running {s t : TelemetryService} {sessionId : String}
    {sessionName : Option String} {waitForSubscriber : Bool}
    (h : s.startReplay sessionId sessionName waitForSubscriber = .ok t) :
    s.subscriberCount = 0 ∧ t.state = .running := by
  unfold startReplay at h
  split at h
  · cases h
  · split at h
    · cases h
    · split at h <;> cases h
      rename_i hsubscribers
      exact ⟨not_not.1 (not_or.1 hsubscribers).1, rfl⟩

/-- What a step does while there are subscribers that it does not remove. -/
theorem step_stateMove {s t : TelemetryService} {label : ServiceLabel}
    (h : s.step label = some t) (hsubscribed : s.subscriberCount ≠ 0)
    (hlabel : label ≠ .unsubscribe) : StateMove s t := by
  cases label with
  | start =>
    cases h
    split
    · rename_i hstart
      exact start_stateMove hstart
    · exact .refl s
  | startReplay sessionId sessionName waitForSubscriber =>
    cases h
    split
    · rename_i hstart
      exact absurd (startReplay_running hstart).1 hsubscribed
    · exact .refl s
  | stop caller action =>
    simp only [step] at h
    split at h <;> cases h
    rename_i hstop
    exact (stopStep_stateMove hstop).congr rfl rfl rfl
  | worker thread action =>
    simp only [step] at h
    split at h
    · cases h
    · split at h <;> cases h
      rename_i hworker
      exact (workerStep_stateMove hworker).congr rfl rfl rfl
  | ingestDecoded frame =>
    cases h
    exact s.ingestDecoded_stateMove frame
  | clearDiagnostic code =>
    cases h
    split
    · rename_i hclear
      unfold clearDiagnostic at hclear
      split at hclear <;> cases hclear
      exact .silent rfl rfl le_rfl
    · exact .refl s
  | subscribe =>
    cases h
    exact s.subscribe_stateMove
  | subscribeCan frameLimit =>
    cases h
    exact s.subscribeCan_stateMove frameLimit
  | unsubscribe => exact absurd rfl hlabel
  | unsubscribeCan =>
    simp only [step] at h
    split at h <;> cases h
    exact .silent rfl rfl le_rfl

end TelemetryService

end TunerOs
