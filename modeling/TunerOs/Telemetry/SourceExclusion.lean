-- SUMMARY: Exclusion of source workers over every interleaving of start, start_replay, stop and the workers, and the stop that breaks it.
import TunerOs.Can.Dbc
import TunerOs.Telemetry.Service

/-!
# Exclusion of source workers

Every running worker is the one the service references, and while it can still
ingest frames the service is connecting or running. The final section of `stop`
clears the reference and the state whatever they have become since `stop` read
them; a run keeps the exclusion exactly when no such section meets the running
worker of a newer source.
-/

namespace TunerOs

open Containers Transition

/-- The loop over the frames is still ahead: the worker can reach `ingest_decoded`. -/
def WorkerPhase.canIngest : WorkerPhase → Bool
  | .connecting | .connected | .waiting | .released | .reading | .checking _ | .recording _
  | .exploring _ | .ingesting _ => true
  | _ => false

/-- The worker has not yet reported how its source ended. -/
def WorkerPhase.unreported : WorkerPhase → Bool
  | .closing | .releasing | .finished => false
  | _ => true

theorem WorkerPhase.unreported_of_canIngest {phase : WorkerPhase} (h : phase.canIngest = true) :
    phase.unreported = true := by
  cases phase <;> first | rfl | cases h

theorem WorkerPhase.ne_finished_of_unreported {phase : WorkerPhase}
    (h : phase.unreported = true) : phase ≠ .finished := by
  rintro rfl
  cases h

namespace TelemetryService

/-- The worker with this number, if it has been started and has not finished. -/
def RunningWorker (s : TelemetryService) (thread : ℕ) (worker : SourceWorker) : Prop :=
  s.workers[thread]? = some worker ∧ worker.phase ≠ .finished

/-- At most one worker can ingest, and none can in a stopped service. -/
structure Exclusive (s : TelemetryService) : Prop where
  unique : ∀ (i j : ℕ) worker other, s.workers[i]? = some worker → s.workers[j]? = some other →
    worker.phase.canIngest = true → other.phase.canIngest = true → i = j
  stopped : s.state = .stopped → ∀ (i : ℕ) worker, s.workers[i]? = some worker →
    worker.phase.canIngest = false

/-- No worker is running. -/
def Quiet (s : TelemetryService) : Prop := ∀ i worker, ¬ s.RunningWorker i worker

/-- The service's reference, where the caller's `stop` is about to clear it, names the worker
this `stop` joined or one that has finished. -/
def Undisturbed (s : TelemetryService) (caller : ℕ) : Prop :=
  ∀ joined, s.stops caller = .finishing joined →
    ∀ i worker, s.worker = some i → s.RunningWorker i worker → joined = some i

/-- The invariant of the source lifecycle. -/
structure SourceInv (s : TelemetryService) : Prop where
  current : ∀ i worker, s.RunningWorker i worker → s.worker = some i
  active : ∀ i worker, s.RunningWorker i worker → worker.phase.unreported = true →
    s.state.sourceActive = true
  replay : ∀ i worker, s.RunningWorker i worker → worker.mode = .replay →
    worker.phase.unreported = true
  live : ∀ (i : ℕ) worker, s.workers[i]? = some worker → worker.mode = .live →
    s.liveStartedOnce = true
  joined : ∀ caller i, s.stops caller = .finishing (some i) → s.alive i = false

theorem sourceInv_create (pipeline : Pipeline) : SourceInv (create pipeline) where
  current := by
    rintro i worker ⟨hworker, -⟩
    cases hworker
  active := by
    rintro i worker ⟨hworker, -⟩
    cases hworker
  replay := by
    rintro i worker ⟨hworker, -⟩
    cases hworker
  live := by
    intro i worker hworker
    cases hworker
  joined := by
    intro caller i hstop
    cases hstop

theorem alive_iff {s : TelemetryService} {i : ℕ} :
    s.alive i = false ↔ ∃ worker, s.workers[i]? = some worker ∧ worker.phase = .finished := by
  unfold alive
  cases s.workers[i]? <;> simp

theorem not_running_of_not_alive {s : TelemetryService} {i : ℕ} (h : s.alive i = false)
    (worker : SourceWorker) : ¬ s.RunningWorker i worker := by
  rintro ⟨hworker, hphase⟩
  obtain ⟨other, hother, hfinished⟩ := alive_iff.1 h
  rw [hworker] at hother
  cases hother
  exact hphase hfinished

/-! ## One step of a worker -/

/-- What a worker's step to `phase` leaves alone, and how it moves the source along. -/
structure WorkerEffect (s : TelemetryService) (actor : SourceWorker) (phase : WorkerPhase)
    (t : TelemetryService) : Prop where
  unfinished : actor.phase ≠ .finished
  workers : t.workers = s.workers
  worker : t.worker = s.worker
  liveStartedOnce : t.liveStartedOnce = s.liveStartedOnce
  stops : t.stops = s.stops
  active : phase.unreported = true →
    actor.phase.unreported = true ∧ (t.state = s.state ∨ t.state = .running)
  replay : actor.mode = .replay → actor.phase.unreported = true → phase ≠ .finished →
    phase.unreported = true

theorem WorkerEffect.of_lifecycle {s t : TelemetryService} {worker : SourceWorker}
    {phase : WorkerPhase} (hsame : s.SameLifecycle t) (hunfinished : worker.phase ≠ .finished)
    (hactive : phase.unreported = true → worker.phase.unreported = true)
    (hreplay : worker.mode = .replay → worker.phase.unreported = true → phase ≠ .finished →
      phase.unreported = true) : WorkerEffect s worker phase t where
  unfinished := hunfinished
  workers := hsame.workers
  worker := hsame.worker
  liveStartedOnce := hsame.liveStartedOnce
  stops := hsame.stops
  active := fun h => ⟨hactive h, Or.inl hsame.state⟩
  replay := hreplay

theorem raisedPhase_unreported (mode : TelemetrySourceMode) (error : PyException) :
    (raisedPhase mode error).unreported = true := by
  cases mode <;> rfl

theorem framePhase_unreported (mode : TelemetrySourceMode) (frame : RawCanFrame) :
    (framePhase mode frame).unreported = true := by
  cases mode <;> rfl

theorem leftPhase_reported (mode : TelemetrySourceMode) : (leftPhase mode).unreported = false := by
  cases mode <;> rfl

/-- A step between two unreported phases that keeps the lifecycle. -/
theorem WorkerEffect.goOn {s t : TelemetryService} {worker : SourceWorker} {phase : WorkerPhase}
    (hsame : s.SameLifecycle t) (hbefore : worker.phase.unreported = true)
    (hafter : phase.unreported = true) : WorkerEffect s worker phase t :=
  .of_lifecycle hsame (WorkerPhase.ne_finished_of_unreported hbefore) (fun _ => hbefore)
    (fun _ _ _ => hafter)

/-- A step out of the `try` statement, which may have reported an outcome. -/
theorem WorkerEffect.leave {s : TelemetryService} {worker : SourceWorker}
    (hbefore : worker.phase.unreported = true) (state : TelemetryServiceState)
    (error : Option String) :
    WorkerEffect s worker (leftPhase worker.mode) (s.transitionUnlessStopped state error) := by
  have hreplay : worker.mode = .replay → worker.phase.unreported = true →
      leftPhase worker.mode ≠ .finished → (leftPhase worker.mode).unreported = true := by
    intro hmode _ hphase
    rw [hmode] at hphase
    exact absurd rfl hphase
  have hactive : (leftPhase worker.mode).unreported = true → worker.phase.unreported = true :=
    fun _ => hbefore
  have hunfinished := WorkerPhase.ne_finished_of_unreported hbefore
  unfold transitionUnlessStopped
  split
  · exact .of_lifecycle (.refl s) hunfinished hactive hreplay
  · refine ⟨hunfinished, rfl, rfl, rfl, rfl, ?_, hreplay⟩
    intro hphase
    rw [leftPhase_reported] at hphase
    cases hphase

/-- A step of the `finally` clause. -/
theorem WorkerEffect.cleanUp {s t : TelemetryService} {worker : SourceWorker}
    {phase : WorkerPhase} (hsame : s.SameLifecycle t) (hunfinished : worker.phase ≠ .finished)
    (hbefore : worker.phase.unreported = false) (hafter : phase.unreported = false) :
    WorkerEffect s worker phase t := by
  refine .of_lifecycle hsame hunfinished ?_ ?_
  · intro hphase
    rw [hafter] at hphase
    cases hphase
  · intro _ hphase
    rw [hbefore] at hphase
    cases hphase

theorem workerStep_effect {s t : TelemetryService} {thread : ℕ} {worker : SourceWorker}
    {action : WorkerAction} {phase : WorkerPhase}
    (h : s.workerStep thread worker action = some (phase, t)) :
    WorkerEffect s worker phase t := by
  obtain ⟨mode, before⟩ := worker
  -- Up to the outcome every action goes on between unreported phases; those of the `finally`
  -- clause come after it.
  cases action with
  | connect outcome =>
    simp only [workerStep] at h
    split at h <;> cases h
    · exact .goOn (.refl s) rfl rfl
    · exact .goOn (.refl s) rfl rfl
  | enter =>
    simp only [workerStep] at h
    split at h
    · split at h <;> cases h
      · exact .of_lifecycle ⟨rfl, rfl, rfl, rfl, rfl⟩ (by rintro ⟨⟩) (by rintro ⟨⟩) (by rintro ⟨⟩)
      · exact ⟨(by rintro ⟨⟩), rfl, rfl, rfl, rfl, fun _ => ⟨rfl, Or.inr rfl⟩, (by rintro ⟨⟩)⟩
    · cases h
  | wake =>
    simp only [workerStep] at h
    split at h
    · split at h <;> cases h
      exact .goOn (.refl s) rfl rfl
    · cases h
  | next outcome =>
    simp only [workerStep] at h
    split at h <;> cases h
    · exact .goOn (.refl s) rfl rfl
    · refine .goOn (.refl s) rfl ?_
      cases mode <;> rfl
    · exact .goOn (.refl s) rfl (raisedPhase_unreported mode _)
  -- The check of the stop event leaves the loop: a live source then finalizes, a replay is over.
  | check =>
    simp only [workerStep] at h
    split at h <;> cases h
    · split
      · exact .of_lifecycle (.refl s) (by rintro ⟨⟩) (by rintro ⟨⟩) (fun _ _ hphase => absurd rfl hphase)
      · exact .goOn (.refl s) rfl rfl
    · split
      · refine .of_lifecycle (.refl s) (by rintro ⟨⟩) (fun _ => rfl) ?_
        intro hmode _ hphase
        cases hmode
        exact absurd rfl hphase
      · exact .goOn (.refl s) rfl (framePhase_unreported mode _)
  | record outcome =>
    simp only [workerStep] at h
    split at h <;> cases h
    · exact .goOn (.refl s) rfl rfl
    · exact .goOn (.refl s) rfl rfl
  | explore =>
    simp only [workerStep] at h
    split at h
    · rename_i frame
      have hsame := s.ingestCanExplorer_lifecycle frame
      split at h <;> rename_i heq <;> rw [heq] at hsame <;> cases h
      · exact .goOn hsame rfl rfl
      · exact .goOn hsame rfl (raisedPhase_unreported mode _)
    · cases h
  | ingest =>
    simp only [workerStep] at h
    split at h
    · rename_i frame
      have hsame := s.ingestDecodable_lifecycle frame
      split at h <;> rename_i heq <;> rw [heq] at hsame <;> cases h
      · exact .goOn hsame rfl rfl
      · exact .goOn hsame rfl (raisedPhase_unreported mode _)
    · cases h
  | finalize outcome =>
    simp only [workerStep] at h
    split at h <;> cases h
    · exact .goOn (.refl s) rfl rfl
    · exact .goOn (.refl s) rfl rfl
  -- An outcome is reported here, unless the source was stopped before.
  | complete =>
    simp only [workerStep] at h
    split at h <;> cases h
    exact .leave rfl .completed none
  | abort outcome =>
    simp only [workerStep] at h
    split at h <;> cases h
    exact .goOn (.refl s) rfl rfl
  | fail =>
    simp only [workerStep] at h
    split at h <;> cases h
    exact .leave rfl .failed _
  | close outcome =>
    simp only [workerStep] at h
    split at h <;> cases h
    · exact .cleanUp (.refl s) (by rintro ⟨⟩) rfl rfl
    · exact .cleanUp (.refl s) (by rintro ⟨⟩) rfl rfl
  | release =>
    simp only [workerStep] at h
    split at h <;> cases h
    exact .cleanUp ⟨rfl, rfl, rfl, rfl, rfl⟩ (by rintro ⟨⟩) rfl rfl

/-! ## The invariant over runs -/

section Inv

variable {s t : TelemetryService}

/-- The exclusion the invariant gives: a worker that can ingest is the referenced one. -/
theorem SourceInv.exclusive (h : s.SourceInv) : s.Exclusive where
  unique := by
    intro i j worker other hi hj hworker hother
    have hnext : ∀ {phase : WorkerPhase}, phase.canIngest = true → phase ≠ .finished :=
      fun hphase => WorkerPhase.ne_finished_of_unreported (WorkerPhase.unreported_of_canIngest hphase)
    have hcurrent := h.current i worker ⟨hi, hnext hworker⟩
    rw [h.current j other ⟨hj, hnext hother⟩] at hcurrent
    exact (Option.some.inj hcurrent).symm
  stopped := by
    intro hstate i worker hi
    by_contra hingest
    rw [Bool.not_eq_false] at hingest
    have hunreported := WorkerPhase.unreported_of_canIngest hingest
    have hactive := h.active i worker
      ⟨hi, WorkerPhase.ne_finished_of_unreported hunreported⟩ hunreported
    rw [hstate] at hactive
    cases hactive

/-- A `stop` at its final section that is undisturbed finds no running worker. -/
theorem SourceInv.quiet (h : s.SourceInv) {caller : ℕ} {joined : Option ℕ}
    (hstop : s.stops caller = .finishing joined) (hundisturbed : s.Undisturbed caller) :
    s.Quiet := by
  intro i worker hrunning
  have hcurrent := h.current i worker hrunning
  have hjoined := hundisturbed joined hstop i worker hcurrent hrunning
  rw [hjoined] at hstop
  exact not_running_of_not_alive (h.joined caller i hstop) worker hrunning

/-- The invariant only reads the threads, the lifecycle fields and the calls of `stop`. -/
theorem SourceInv.of_lifecycle (h : s.SourceInv) (hsame : s.SameLifecycle t) : t.SourceInv where
  current := by
    unfold RunningWorker
    rw [hsame.workers, hsame.worker]
    exact h.current
  active := by
    unfold RunningWorker
    rw [hsame.workers, hsame.state]
    exact h.active
  replay := by
    unfold RunningWorker
    rw [hsame.workers]
    exact h.replay
  live := by
    rw [hsame.workers, hsame.liveStartedOnce]
    exact h.live
  joined := by
    unfold alive
    rw [hsame.workers, hsame.stops]
    exact h.joined

/-- Starting a source when no worker runs. -/
theorem SourceInv.spawn (h : s.SourceInv) (hquiet : s.Quiet) {worker : SourceWorker}
    (hworkers : t.workers = s.workers ++ [worker]) (hworker : t.worker = some s.workers.length)
    (hstate : t.state.sourceActive = true) (hunreported : worker.phase.unreported = true)
    (hlive : t.liveStartedOnce = true ∨ worker.mode = .replay ∧
      t.liveStartedOnce = s.liveStartedOnce)
    (hstops : t.stops = s.stops) : t.SourceInv := by
  -- The new worker is the last one, and no other one runs.
  have hcases : ∀ {i other}, t.workers[i]? = some other →
      s.workers[i]? = some other ∨ i = s.workers.length ∧ other = worker := by
    intro i other hi
    rw [hworkers, List.getElem?_append] at hi
    split at hi
    · exact Or.inl hi
    · rename_i hlt
      rw [List.getElem?_singleton] at hi
      split at hi
      · cases hi
        exact Or.inr ⟨by omega, rfl⟩
      · cases hi
  have hrunning : ∀ {i other}, t.RunningWorker i other →
      i = s.workers.length ∧ other = worker := by
    rintro i other ⟨hi, hphase⟩
    refine (hcases hi).resolve_left (fun hold => ?_)
    exact hquiet i other ⟨hold, hphase⟩
  constructor
  · intro i other hi
    rw [hworker, (hrunning hi).1]
  · intro i other hi _
    exact hstate
  · intro i other hi _
    rw [(hrunning hi).2]
    exact hunreported
  · intro i other hi hmode
    -- A live start sets the flag; a replay keeps it for the live workers there were.
    rcases hlive with hstarted | ⟨hreplay, hkept⟩
    · exact hstarted
    · rcases hcases hi with hold | ⟨-, rfl⟩
      · rw [hkept]
        exact h.live i other hold hmode
      · rw [hreplay] at hmode
        cases hmode
  · intro caller i hstop
    rw [hstops] at hstop
    obtain ⟨other, hother, hfinished⟩ := alive_iff.1 (h.joined caller i hstop)
    refine alive_iff.2 ⟨other, ?_, hfinished⟩
    rw [hworkers, List.getElem?_append_left (List.getElem?_eq_some_iff.1 hother).1, hother]

/-- A worker's step: the other workers have all finished. -/
theorem SourceInv.worker (h : s.SourceInv) {thread : ℕ} {actor : SourceWorker}
    {action : WorkerAction} {phase : WorkerPhase} (hactor : s.workers[thread]? = some actor)
    (hstep : s.workerStep thread actor action = some (phase, t)) :
    (t.setPhase thread phase).SourceInv := by
  have heffect := workerStep_effect hstep
  have hactorRunning : s.RunningWorker thread actor := ⟨hactor, heffect.unfinished⟩
  have hworkers : ∀ i, (t.setPhase thread phase).workers[i]? =
      if thread = i then some { actor with phase } else s.workers[i]? := by
    intro i
    simp only [setPhase, heffect.workers, List.getElem?_modify]
    split
    · rename_i heq
      rw [← heq, hactor]
      rfl
    · simp
  -- Only the worker that takes the step runs, since a running worker is the referenced one.
  have hrunning : ∀ {i worker}, (t.setPhase thread phase).RunningWorker i worker →
      i = thread ∧ worker = { actor with phase } := by
    rintro i worker ⟨hi, hphase⟩
    rw [hworkers] at hi
    split at hi
    · rename_i heq
      cases hi
      exact ⟨heq.symm, rfl⟩
    · rename_i hne
      have hcurrent := h.current i worker ⟨hi, hphase⟩
      rw [h.current thread actor hactorRunning] at hcurrent
      exact absurd (Option.some.inj hcurrent) hne
  have hunfinished : ∀ {i worker}, (t.setPhase thread phase).RunningWorker i worker →
      phase ≠ .finished := by
    intro i worker hi
    have hphase := hi.2
    rw [(hrunning hi).2] at hphase
    exact hphase
  constructor
  · intro i worker hi
    rw [(hrunning hi).1]
    exact heffect.worker.trans (h.current thread actor hactorRunning)
  · intro i worker hi hunreported
    rw [(hrunning hi).2] at hunreported
    obtain ⟨hbefore, hstate | hstate⟩ := heffect.active hunreported
    · have hactive := h.active thread actor hactorRunning hbefore
      rwa [← hstate] at hactive
    · simp only [setPhase, hstate]
      rfl
  · intro i worker hi hmode
    rw [(hrunning hi).2] at hmode ⊢
    exact heffect.replay hmode (h.replay thread actor hactorRunning hmode) (hunfinished hi)
  · intro i worker hi hmode
    have hstarted : s.liveStartedOnce = true := by
      rw [hworkers] at hi
      split at hi
      · cases hi
        exact h.live thread actor hactor hmode
      · exact h.live i worker hi hmode
    rw [← heffect.liveStartedOnce] at hstarted
    exact hstarted
  · intro caller i hstop
    have hjoined : s.stops caller = .finishing (some i) := by
      rw [← heffect.stops]
      exact hstop
    obtain ⟨worker, hworker, hfinished⟩ := alive_iff.1 (h.joined caller i hjoined)
    refine alive_iff.2 ⟨worker, ?_, hfinished⟩
    -- A joined worker has finished, so it is not the one that takes the step.
    rw [hworkers, if_neg, hworker]
    rintro rfl
    rw [hactor] at hworker
    cases hworker
    exact heffect.unfinished hfinished

/-- `start` finds no running worker: a live one would have been started before, and a replay
keeps the service running. -/
theorem SourceInv.quiet_of_start (h : s.SourceInv) (hstarted : s.liveStartedOnce = false)
    (hstate : s.state.sourceActive = false) : s.Quiet := by
  intro i worker hrunning
  cases hmode : worker.mode with
  | live =>
    have hlive := h.live i worker hrunning.1 hmode
    rw [hstarted] at hlive
    cases hlive
  | replay =>
    have hactive := h.active i worker hrunning (h.replay i worker hrunning hmode)
    rw [hstate] at hactive
    cases hactive

/-- `start_replay` finds no running worker: it looks at the one the service references. -/
theorem SourceInv.quiet_of_startReplay (h : s.SourceInv) (hworker : s.worker.any s.alive = false) :
    s.Quiet := by
  intro i worker hrunning
  rw [h.current i worker hrunning, Option.any_some] at hworker
  exact not_running_of_not_alive hworker worker hrunning

theorem SourceInv.start (h : s.SourceInv) (hstart : s.start = .ok t) : t.SourceInv := by
  unfold TelemetryService.start at hstart
  split at hstart
  · cases hstart
  · rename_i hstarted
    split at hstart
    · cases hstart
    · rename_i hstate
      cases hstart
      rw [Bool.not_eq_true] at hstarted hstate
      exact h.spawn (h.quiet_of_start hstarted hstate) rfl rfl rfl rfl (Or.inl rfl) rfl

theorem SourceInv.startReplay (h : s.SourceInv) {sessionId : String}
    {sessionName : Option String} {waitForSubscriber : Bool}
    (hstart : s.startReplay sessionId sessionName waitForSubscriber = .ok t) : t.SourceInv := by
  unfold TelemetryService.startReplay at hstart
  split at hstart
  · cases hstart
  · split at hstart
    · cases hstart
    · rename_i hworker
      split at hstart
      · cases hstart
      · cases hstart
        rw [Bool.not_eq_true] at hworker
        exact h.spawn (h.quiet_of_startReplay hworker) rfl rfl rfl rfl (Or.inr ⟨rfl, rfl⟩) rfl

theorem finishStop_workers (s : TelemetryService) : s.finishStop.workers = s.workers := by
  unfold finishStop
  split <;> rfl

theorem finishStop_stops (s : TelemetryService) : s.finishStop.stops = s.stops := by
  unfold finishStop
  split <;> rfl

theorem finishStop_liveStartedOnce (s : TelemetryService) :
    s.finishStop.liveStartedOnce = s.liveStartedOnce := by
  unfold finishStop
  split <;> rfl

/-- The calls of `stop` after one of them moved: only a call that reaches its final section has
joined a worker it had not joined before. -/
theorem SourceInv.joined_update (h : s.SourceInv) {caller : ℕ} {phase : StopPhase}
    (hworkers : t.workers = s.workers) (hstops : t.stops = s.stops)
    (hphase : ∀ i, phase = .finishing (some i) → s.alive i = false) (other i : ℕ)
    (hstop : Function.update t.stops caller phase other = .finishing (some i)) :
    t.alive i = false := by
  have hjoined : s.alive i = false := by
    rw [Function.update_apply, hstops] at hstop
    split at hstop
    · exact hphase i hstop
    · exact h.joined other i hstop
  unfold alive at hjoined ⊢
  rwa [hworkers]

theorem SourceInv.stop (h : s.SourceInv) {caller : ℕ} {action : StopAction} {phase : StopPhase}
    (hfinish : action = .finish → s.Undisturbed caller)
    (hstep : s.stopStep (s.stops caller) action = some (phase, t)) :
    SourceInv { t with stops := Function.update t.stops caller phase } := by
  -- Every action but `finish` keeps the lifecycle and joins only a finished worker.
  have hkeeps : s.SameLifecycle t → (∀ i, phase = .finishing (some i) → s.alive i = false) →
      SourceInv { t with stops := Function.update t.stops caller phase } := by
    intro hsame hphase
    have hkept := h.of_lifecycle hsame
    exact ⟨hkept.current, hkept.active, hkept.replay, hkept.live,
      h.joined_update hsame.workers hsame.stops hphase⟩
  cases action with
  | request =>
    simp only [stopStep] at hstep
    split at hstep <;> cases hstep
    exact hkeeps ⟨rfl, rfl, rfl, rfl, rfl⟩ (by rintro _ ⟨⟩)
  | releaseReplay =>
    simp only [stopStep] at hstep
    split at hstep <;> cases hstep
    exact hkeeps ⟨rfl, rfl, rfl, rfl, rfl⟩ (by rintro _ ⟨⟩)
  | readReferences =>
    simp only [stopStep] at hstep
    split at hstep <;> cases hstep
    exact hkeeps (.refl s) (by rintro _ ⟨⟩)
  | closeClient =>
    simp only [stopStep] at hstep
    split at hstep <;> cases hstep
    exact hkeeps (.refl s) (by rintro _ ⟨⟩)
  | join =>
    simp only [stopStep] at hstep
    split at hstep
    · split at hstep <;> cases hstep
      rename_i worker _ hjoin
      -- The join has seen that the worker is not alive.
      refine hkeeps (.refl s) ?_
      intro i hi
      cases hi
      simpa using hjoin
    · cases hstep
  | joinTimeout =>
    simp only [stopStep] at hstep
    split at hstep
    · split at hstep <;> cases hstep
      exact hkeeps (.refl s) (by rintro _ ⟨⟩)
    · cases hstep
  | finish =>
    simp only [stopStep] at hstep
    split at hstep <;> cases hstep
    rename_i joined hjoined
    -- `finish` clears the references, so no worker may run then.
    have hquiet := h.quiet hjoined (hfinish rfl)
    have hnone : ∀ (i : ℕ) worker, s.finishStop.workers[i]? = some worker →
        worker.phase = .finished := by
      intro i worker hi
      rw [finishStop_workers] at hi
      by_contra hphase
      exact hquiet i worker ⟨hi, hphase⟩
    refine ⟨?_, ?_, ?_, ?_, h.joined_update s.finishStop_workers s.finishStop_stops (by rintro _ ⟨⟩)⟩
    · exact fun i worker hi => absurd (hnone i worker hi.1) hi.2
    · exact fun i worker hi _ => absurd (hnone i worker hi.1) hi.2
    · exact fun i worker hi _ => absurd (hnone i worker hi.1) hi.2
    · intro i worker hi hmode
      rw [finishStop_workers] at hi
      exact s.finishStop_liveStartedOnce.trans (h.live i worker hi hmode)

/-- Every step keeps the invariant, a final section of `stop` when it is undisturbed. -/
theorem SourceInv.step (h : s.SourceInv) {label : ServiceLabel}
    (hfinish : ∀ caller, label = .stop caller .finish → s.Undisturbed caller)
    (hstep : s.step label = some t) : t.SourceInv := by
  cases label with
  | start =>
    cases hstep
    split
    · rename_i hstart
      exact h.start hstart
    · exact h
  | startReplay sessionId sessionName waitForSubscriber =>
    cases hstep
    split
    · rename_i hstart
      exact h.startReplay hstart
    · exact h
  | stop caller action =>
    simp only [TelemetryService.step] at hstep
    split at hstep <;> cases hstep
    rename_i phase after hstop
    exact h.stop (fun haction => hfinish caller (haction ▸ rfl)) hstop
  | worker thread action =>
    simp only [TelemetryService.step] at hstep
    split at hstep
    · cases hstep
    · rename_i actor hactor
      split at hstep <;> cases hstep
      rename_i phase after hworker
      exact h.worker hactor hworker
  | ingestDecoded frame =>
    cases hstep
    exact h.of_lifecycle (s.ingestDecoded_lifecycle frame)
  | clearDiagnostic code =>
    cases hstep
    refine h.of_lifecycle ?_
    unfold TelemetryService.clearDiagnostic
    split
    · rename_i hclear
      split at hclear <;> cases hclear
      exact ⟨rfl, rfl, rfl, rfl, rfl⟩
    · exact .refl s
  | subscribe =>
    cases hstep
    exact h.of_lifecycle s.subscribe_lifecycle
  | unsubscribe =>
    simp only [TelemetryService.step] at hstep
    split at hstep <;> cases hstep
    exact h.of_lifecycle ⟨rfl, rfl, rfl, rfl, rfl⟩
  | subscribeCan frameLimit =>
    cases hstep
    exact h.of_lifecycle (s.subscribeCan_lifecycle frameLimit)
  | unsubscribeCan =>
    simp only [TelemetryService.step] at hstep
    split at hstep <;> cases hstep
    exact h.of_lifecycle ⟨rfl, rfl, rfl, rfl, rfl⟩

end Inv

/-! ## Runs of a service -/

section Runs

variable (pipeline : Pipeline)

/-- The states a new service can reach by a run. -/
abbrev Reaches (labels : List ServiceLabel) (s : TelemetryService) : Prop :=
  run step (create pipeline) labels = some s

/-- In every state of the run at most one worker can ingest, none can when the service is
stopped, and no worker runs where a `stop` has just returned. -/
def KeepsExclusion (labels : List ServiceLabel) : Prop :=
  ∀ before rest s, labels = before ++ rest → Reaches pipeline before s →
    s.Exclusive ∧ ∀ earlier caller, before = earlier ++ [.stop caller .finish] → s.Quiet

/-- Every final section of a `stop` is undisturbed. -/
def StopsUndisturbed (labels : List ServiceLabel) : Prop :=
  ∀ before caller rest s, labels = before ++ .stop caller .finish :: rest →
    Reaches pipeline before s → s.Undisturbed caller

variable {pipeline}

theorem sourceInv_of_run {labels : List ServiceLabel} {s : TelemetryService}
    (hundisturbed : StopsUndisturbed pipeline labels) (hrun : Reaches pipeline labels s) :
    s.SourceInv := by
  refine run_invariant (P := SourceInv)
    (fun s label t h (hallowed : ∀ caller, label = .stop caller .finish → s.Undisturbed caller)
      hstep => h.step hallowed hstep) hrun ?_ (sourceInv_create pipeline)
  intro before label after t hsplit hbefore caller hlabel
  exact hundisturbed before caller after t (hlabel ▸ hsplit) hbefore

theorem StopsUndisturbed.before {before rest : List ServiceLabel}
    (h : StopsUndisturbed pipeline (before ++ rest)) : StopsUndisturbed pipeline before := by
  intro earlier caller later s hsplit hrun
  refine h earlier caller (later ++ rest) s ?_ hrun
  rw [hsplit, List.append_assoc, List.cons_append]

/-- The final section of `stop` starts from a call that has joined and keeps the threads. -/
theorem finish_step {s t : TelemetryService} {caller : ℕ}
    (hstep : s.step (.stop caller .finish) = some t) :
    (∃ joined, s.stops caller = .finishing joined) ∧ t.workers = s.workers := by
  simp only [step, stopStep] at hstep
  split at hstep
  · cases hstep
  · rename_i phase after hstop
    cases hstep
    split at hstop <;> cases hstop
    rename_i joined hjoined
    exact ⟨⟨joined, hjoined⟩, s.finishStop_workers⟩

end Runs

/-- A run keeps the exclusion of source workers exactly when no final section of a `stop` clears
the reference to a running worker other than the one it joined. -/
theorem keepsExclusion_iff_stopsUndisturbed (pipeline : Pipeline) (labels : List ServiceLabel)
    (s : TelemetryService) (hrun : Reaches pipeline labels s) :
    KeepsExclusion pipeline labels ↔ StopsUndisturbed pipeline labels := by
  constructor
  · intro hkeeps before caller rest t hsplit hbefore joined hjoined i worker hworker hrunning
    -- The run goes on with the final section, after which no worker runs.
    rw [hsplit] at hrun
    obtain ⟨mid, hmid, hrest⟩ := run_append.1 hrun
    have hmid_eq : mid = t := Option.some.inj (hmid.symm.trans hbefore)
    rw [hmid_eq, run_cons] at hrest
    obtain ⟨u, hstep, -⟩ := hrest
    have hfinished : Reaches pipeline (before ++ [.stop caller .finish]) u :=
      run_append.2 ⟨t, hbefore, run_cons.2 ⟨u, hstep, run_nil.2 rfl⟩⟩
    have hquiet := (hkeeps (before ++ [.stop caller .finish]) rest u
      (by rw [hsplit, List.append_assoc]; rfl) hfinished).2 before caller rfl
    refine absurd ⟨?_, hrunning.2⟩ (hquiet i worker)
    rw [(finish_step hstep).2]
    exact hrunning.1
  · intro hundisturbed before rest t hsplit hbefore
    have hearlier : StopsUndisturbed pipeline before := (hsplit ▸ hundisturbed).before
    refine ⟨(sourceInv_of_run hearlier hbefore).exclusive, ?_⟩
    rintro earlier caller rfl
    obtain ⟨mid, hmid, hlast⟩ := run_append.1 hbefore
    rw [run_cons] at hlast
    obtain ⟨u, hstep, hu⟩ := hlast
    rw [run_nil] at hu
    subst hu
    obtain ⟨⟨joined, hjoined⟩, hworkers⟩ := finish_step hstep
    have hquiet := (sourceInv_of_run hearlier.before hmid).quiet hjoined
      (hearlier earlier caller [] mid rfl hmid)
    rintro i worker ⟨hi, hphase⟩
    rw [hworkers] at hi
    exact hquiet i worker ⟨hi, hphase⟩

/-- A `stop` during a replay: the worker sees the flag and finishes, and the join returns. -/
def orderlyLabels : List ServiceLabel :=
  [.startReplay "session" none false, .worker 0 .wake, .stop 0 .request, .stop 0 .releaseReplay,
    .stop 0 .readReferences, .stop 0 .closeClient, .worker 0 .check, .stop 0 .join,
    .stop 0 .finish]

theorem orderly_stop_keeps_exclusion :
    KeepsExclusion (.packaged DbcMessage.intelDecode) orderlyLabels := by
  refine (keepsExclusion_iff_stopsUndisturbed _ orderlyLabels _ rfl).2 ?_
  intro before caller rest s hsplit hrun joined hjoined i worker hworker hrunning
  have hlast : before = orderlyLabels.take 8 := by
    rcases List.append_eq_append_iff.1 (hsplit.symm.trans (List.take_append_drop 8 _).symm) with
      ⟨tail, hbefore, htail⟩ | ⟨tail, hbefore, htail⟩
    · cases tail with
      | nil => exact (hbefore.trans (List.append_nil _)).symm
      | cons label tail =>
        rw [List.cons_append, List.cons.injEq] at htail
        rw [← htail.1] at hbefore
        have hmem : ServiceLabel.stop caller .finish ∈ orderlyLabels.take 8 := by
          rw [hbefore]
          exact List.mem_append_right _ List.mem_cons_self
        simp [orderlyLabels] at hmem
    · cases tail with
      | nil => exact hbefore.trans (List.append_nil _)
      | cons label tail =>
        have hlength := congrArg List.length htail
        simp [orderlyLabels] at hlength
  rw [hlast] at hrun
  cases hrun
  cases hworker
  obtain ⟨hphase, hfinished⟩ := hrunning
  cases hphase
  exact absurd rfl hfinished

/-- A `stop` of a new service, with a replay started after it read the references. -/
def disturbedLabels : List ServiceLabel :=
  [.stop 0 .request, .stop 0 .releaseReplay, .stop 0 .readReferences,
    .startReplay "session" none false, .stop 0 .closeClient, .stop 0 .join, .stop 0 .finish]

/-- The `stop` returns in a stopped service whose new replay worker can still ingest. -/
theorem stop_clears_newer_source :
    ∃ s, Reaches (.packaged DbcMessage.intelDecode) disturbedLabels s ∧ s.state = .stopped ∧
      s.workers = [⟨.replay, .waiting⟩] ∧
      ¬ KeepsExclusion (.packaged DbcMessage.intelDecode) disturbedLabels := by
  refine ⟨_, rfl, rfl, rfl, ?_⟩
  intro hkeeps
  have hstopped := (hkeeps disturbedLabels [] _ (List.append_nil _).symm rfl).1.stopped rfl 0
    ⟨.replay, .waiting⟩ rfl
  cases hstopped

end TelemetryService

end TunerOs
