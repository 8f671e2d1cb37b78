-- SUMMARY: The worker thread of a live source with its recorder and its stream: run alone, its sections compute the source's run.
import Mathlib.Logic.Relation
import TunerOs.Session.ReplayEquivalence
import TunerOs.Telemetry.RunGateway

/-!
# The worker of a live source

`GatewayWorker` joins the worker's phases with what answers them: the recorder and the
gateway's stream. Its steps are steps of the service whose outcomes are the answers, and
without a `stop` they end with what `runGateway` returns.
-/

namespace TunerOs

namespace TelemetryService

/-- The frame that the action hands the worker. -/
def WorkerAction.handed : WorkerAction → List RawCanFrame
  | .next (.ok (some frame)) => [frame]
  | _ => []

theorem setPhase_getElem? {s : TelemetryService} {thread : ℕ} {worker : SourceWorker}
    (h : s.workers[thread]? = some worker) (phase : WorkerPhase) :
    (s.setPhase thread phase).workers[thread]? = some { worker with phase } := by
  rw [setPhase, List.getElem?_modify_eq, h]
  rfl

theorem step_worker {s t : TelemetryService} {thread : ℕ} {worker : SourceWorker}
    {action : WorkerAction} {phase : WorkerPhase} (hworker : s.workers[thread]? = some worker)
    (hstep : s.workerStep thread worker action = some (phase, t)) :
    s.step (.worker thread action) = some (t.setPhase thread phase) := by
  simp only [step, hworker, hstep]

/-- The threads and what the service reports of its source are those of `s`. -/
structure SameReports (s t : TelemetryService) : Prop where
  workers : t.workers = s.workers
  stopRequested : t.stopRequested = s.stopRequested
  state : t.state = s.state
  lastError : t.lastError = s.lastError
  stateTransitions : t.stateTransitions = s.stateTransitions

theorem SameReports.refl (s : TelemetryService) : s.SameReports s := ⟨rfl, rfl, rfl, rfl, rfl⟩

/-- Ingesting reports nothing of the source, and does to the pipeline what its own ingestion does. -/
theorem ingestDecodable_reports (s : TelemetryService) (frame : RawCanFrame) :
    s.SameReports (s.ingestDecodable frame).2 ∧
      (s.ingestDecodable frame).1 = (s.pipeline.ingestDecodable frame).1 ∧
      (s.ingestDecodable frame).2.pipeline = (s.pipeline.ingestDecodable frame).2 := by
  unfold ingestDecodable Pipeline.ingestDecodable
  cases s.pipeline.decoder.decode frame with
  | error error => exact ⟨.refl s, rfl, rfl⟩
  | ok decoded =>
    change s.SameReports (s.ingestDecoded decoded).2 ∧
      (s.ingestDecoded decoded).1 = (s.pipeline.ingestDecoded decoded).1 ∧
      (s.ingestDecoded decoded).2.pipeline = (s.pipeline.ingestDecoded decoded).2
    unfold ingestDecoded
    split <;> rename_i hingest <;> rw [hingest] <;> exact ⟨⟨rfl, rfl, rfl, rfl, rfl⟩, rfl, rfl⟩

end TelemetryService

open TelemetryService Relation

/-- A live source's worker thread in its service, its recorder, and what connecting returns: the
frames that are still to come. -/
structure GatewayWorker where
  service : TelemetryService
  thread : ℕ
  recorder : SessionRecorder
  connection : Except PyException FrameStream

namespace GatewayWorker

section Machine

variable (sha256 : Bytes → Sha256Digest)

/-- Why the `finally` clause aborts a recording. -/
def closingReason (s : TelemetryService) : String :=
  if s.stopRequested then "recording stopped before normal gateway completion"
  else "recording ended without normal gateway completion"

/-- What the worker does next: its action with the outcome it meets, the recorder after it, and the
connection with the frames that then remain. -/
def perform (s : TelemetryService) (recorder : SessionRecorder)
    (connection : Except PyException FrameStream) :
    WorkerPhase → Option (WorkerAction × SessionRecorder × Except PyException FrameStream)
  | .connecting => some (.connect (connection.map (fun _ => ())), recorder, connection)
  | .connected => some (.enter, recorder, connection)
  | .reading =>
    match connection with
    | .error _ => none
    | .ok ⟨frame :: rest, raised⟩ =>
      some (.next (.ok (some frame)), recorder, .ok ⟨rest, raised⟩)
    | .ok ⟨[], none⟩ => some (.next (.ok none), recorder, connection)
    | .ok ⟨[], some error⟩ => some (.next (.error error), recorder, connection)
  | .checking _ => some (.check, recorder, connection)
  | .recording frame =>
    some (.record (recorder.record frame {}).1, (recorder.record frame {}).2, connection)
  | .exploring _ => some (.explore, recorder, connection)
  | .ingesting _ => some (.ingest, recorder, connection)
  | .finalizing =>
    let completed := recorder.complete sha256 {}
    some (.finalize (completed.1.map (fun _ => ())), completed.2, connection)
  | .completing => some (.complete, recorder, connection)
  | .aborting failure =>
    let aborted := recorder.abort sha256 failure {}
    some (.abort (aborted.1.map (fun _ => ())), aborted.2, connection)
  | .failing _ => some (.fail, recorder, connection)
  | .closing =>
    if recorder.recording then
      let aborted := recorder.abort sha256 (closingReason s) {}
      some (.close (aborted.1.map (fun _ => ())), aborted.2, connection)
    else some (.close (.ok ()), recorder, connection)
  | .releasing => some (.release, recorder, connection)
  | .waiting | .released | .finished => none

/-- One step of the worker in its service. -/
def step (w : GatewayWorker) : Option GatewayWorker :=
  match w.service.workers[w.thread]? with
  | none => none
  | some worker =>
    match perform sha256 w.service w.recorder w.connection worker.phase with
    | none => none
    | some (action, recorder, connection) =>
      match w.service.step (.worker w.thread action) with
      | none => none
      | some service => some { w with service, recorder, connection }

/-- The frames that are still to come. -/
def remaining : Except PyException FrameStream → List RawCanFrame
  | .ok stream => stream.yielded
  | .error _ => []

/-- The worker moves on alone, by any number of its steps. -/
abbrev Runs : GatewayWorker → GatewayWorker → Prop :=
  ReflTransGen (fun w v => w.step sha256 = some v)

end Machine

section Steps

variable {sha256 : Bytes → Sha256Digest} {s t : TelemetryService} {thread : ℕ}
  {recorder recorder' : SessionRecorder} {connection connection' : Except PyException FrameStream}
  {phase next : WorkerPhase} {action : WorkerAction}

/-- One step, from what the worker performs and what that does to the service. -/
theorem step_of_perform (hworker : s.workers[thread]? = some ⟨.live, phase⟩)
    (hperform : perform sha256 s recorder connection phase =
      some (action, recorder', connection'))
    (hstep : s.workerStep thread ⟨.live, phase⟩ action = some (next, t)) :
    step sha256 ⟨s, thread, recorder, connection⟩ =
      some ⟨t.setPhase thread next, thread, recorder', connection'⟩ := by
  simp only [step, hworker, hperform, step_worker hworker hstep]

/-- What the worker performs hands it the next frame of the stream, or none. -/
theorem remaining_of_perform (hperform : perform sha256 s recorder connection phase =
    some (action, recorder', connection')) :
    remaining connection = action.handed ++ remaining connection' := by
  cases phase with
  | reading | closing =>
    simp only [perform] at hperform
    split at hperform <;> cases hperform <;> rfl
  | waiting | released | finished => cases hperform
  | connecting =>
    cases hperform
    cases connection <;> rfl
  | connected | checking frame | recording frame | exploring frame | ingesting frame | finalizing
  | completing | aborting failure | failing failure | releasing =>
    cases hperform
    rfl

/-- A run of the worker is a run of the service, which hands it frames of the stream in order. -/
theorem Runs.labels {w v : GatewayWorker} (h : Runs sha256 w v) :
    v.thread = w.thread ∧ ∃ actions : List WorkerAction,
      Transition.run TelemetryService.step w.service (actions.map (.worker w.thread)) =
        some v.service ∧
      remaining w.connection = actions.flatMap WorkerAction.handed ++ remaining v.connection := by
  induction h with
  | refl => exact ⟨rfl, [], rfl, rfl⟩
  | @tail u v _ hstep ih =>
    obtain ⟨hthread, actions, hrun, hremaining⟩ := ih
    unfold step at hstep
    split at hstep
    · cases hstep
    · split at hstep
      · cases hstep
      · rename_i action recorder connection hperform
        split at hstep <;> cases hstep
        rename_i service hservice
        refine ⟨hthread, actions ++ [action], ?_, ?_⟩
        · rw [List.map_append, Transition.run_append]
          refine ⟨u.service, hrun, Transition.run_cons.2 ⟨service, ?_, rfl⟩⟩
          rw [← hthread]
          exact hservice
        · rw [hremaining, remaining_of_perform hperform, List.flatMap_append, List.append_assoc,
            List.flatMap_singleton]

/-- The worker is at this phase of a service that reports what it reported before. -/
structure At (s t : TelemetryService) (thread : ℕ) (phase : WorkerPhase) : Prop where
  worker : t.workers[thread]? = some ⟨.live, phase⟩
  stopRequested : t.stopRequested = s.stopRequested
  state : t.state = s.state
  lastError : t.lastError = s.lastError
  stateTransitions : t.stateTransitions = s.stateTransitions

theorem at_self (hworker : s.workers[thread]? = some ⟨.live, phase⟩) : At s s thread phase :=
  ⟨hworker, rfl, rfl, rfl, rfl⟩

theorem At.setPhase {u : TelemetryService} (h : At s t thread phase) (hsame : t.SameReports u)
    (next : WorkerPhase) : At s (u.setPhase thread next) thread next where
  worker := setPhase_getElem? (hsame.workers ▸ h.worker) next
  stopRequested := hsame.stopRequested.trans h.stopRequested
  state := hsame.state.trans h.state
  lastError := hsame.lastError.trans h.lastError
  stateTransitions := hsame.stateTransitions.trans h.stateTransitions

/-- A step between phases of the loop that leaves the service as it is. -/
theorem At.move (h : At s t thread phase) (next : WorkerPhase)
    (hperform : perform sha256 t recorder connection phase =
      some (action, recorder', connection'))
    (hstep : t.workerStep thread ⟨.live, phase⟩ action = some (next, t)) :
    Runs sha256 ⟨t, thread, recorder, connection⟩
        ⟨t.setPhase thread next, thread, recorder', connection'⟩ ∧
      At s (t.setPhase thread next) thread next :=
  ⟨.single (step_of_perform h.worker hperform hstep), h.setPhase (.refl t) next⟩

/-- The worker holds the frame it reads, and records it. -/
theorem At.record (h : At s t thread .reading) (hrunning : s.stopRequested = false)
    (sha256 : Bytes → Sha256Digest) (recorder : SessionRecorder) (frame : RawCanFrame)
    (rest : List RawCanFrame) (raised : Option PyException) :
    ∃ u phase, Runs sha256 ⟨t, thread, recorder, .ok ⟨frame :: rest, raised⟩⟩
        ⟨u, thread, (recorder.record frame {}).2, .ok ⟨rest, raised⟩⟩ ∧
      At s u thread phase ∧ u.pipeline = t.pipeline ∧
      phase = match (recorder.record frame {}).1 with
        | .ok () => .exploring frame
        | .error error => .aborting error.message := by
  have hnext : perform sha256 t recorder (.ok ⟨frame :: rest, raised⟩) .reading =
      some (.next (.ok (some frame)), recorder, .ok ⟨rest, raised⟩) := rfl
  obtain ⟨hread, hchecking⟩ := h.move (.checking frame) hnext rfl
  have hunstopped := hchecking.stopRequested.trans hrunning
  have hcheck : perform sha256 (t.setPhase thread (.checking frame)) recorder
      (.ok ⟨rest, raised⟩) (.checking frame) = some (.check, recorder, .ok ⟨rest, raised⟩) := rfl
  obtain ⟨hchecked, hrecording⟩ := hchecking.move (.recording frame) hcheck
    (by simp only [workerStep, hunstopped]; rfl)
  generalize hlast : (t.setPhase thread (.checking frame)).setPhase thread (.recording frame) =
    last at hchecked hrecording
  have hpipeline : last.pipeline = t.pipeline := hlast ▸ rfl
  have hrecord : perform sha256 last recorder (.ok ⟨rest, raised⟩) (.recording frame) =
    some (.record (recorder.record frame {}).1, (recorder.record frame {}).2,
      .ok ⟨rest, raised⟩) := rfl
  cases houtcome : (recorder.record frame {}).1 with
  | ok _ =>
    obtain ⟨hrecorded, hexploring⟩ := hrecording.move (.exploring frame) hrecord
      (by rw [houtcome]; rfl)
    exact ⟨_, _, (hread.trans hchecked).trans hrecorded, hexploring, hpipeline, rfl⟩
  | error error =>
    obtain ⟨hrecorded, haborting⟩ := hrecording.move (.aborting error.message) hrecord
      (by rw [houtcome]; rfl)
    exact ⟨_, _, (hread.trans hchecked).trans hrecorded, haborting, hpipeline, rfl⟩

/-- The worker explores and ingests the frame it recorded. -/
theorem At.ingest {frame : RawCanFrame} (h : At s t thread (.exploring frame))
    (sha256 : Bytes → Sha256Digest) (recorder : SessionRecorder)
    (connection : Except PyException FrameStream) :
    ∃ u phase, Runs sha256 ⟨t, thread, recorder, connection⟩
        ⟨u, thread, recorder, connection⟩ ∧
      At s u thread phase ∧ u.pipeline = (t.pipeline.ingestRaw frame).2 ∧
      phase = match (t.pipeline.ingestRaw frame).1 with
        | .ok _ => .reading
        | .error error => .aborting error.message := by
  have hexplore : perform sha256 t recorder connection (.exploring frame) =
      some (.explore, recorder, connection) := rfl
  cases hexplored : t.pipeline.ingestCanExplorer frame with
  | mk outcome pipeline =>
    cases outcome with
    | error error =>
      have hraw : t.pipeline.ingestRaw frame = (.error error, pipeline) := by
        rw [Pipeline.ingestRaw, hexplored]
      have hmoved : t.workerStep thread ⟨.live, .exploring frame⟩ .explore =
          some (.aborting error.message, { t with pipeline }) := by
        simp only [workerStep, ingestCanExplorer, hexplored]
        rfl
      rw [hraw]
      have hsame : t.SameReports { t with pipeline } := ⟨rfl, rfl, rfl, rfl, rfl⟩
      exact ⟨_, _, .single (step_of_perform h.worker hexplore hmoved), h.setPhase hsame _, rfl, rfl⟩
    | ok explored =>
      have hraw : t.pipeline.ingestRaw frame = pipeline.ingestDecodable frame := by
        rw [Pipeline.ingestRaw, hexplored]
      have hmoved : t.workerStep thread ⟨.live, .exploring frame⟩ .explore =
          some (.ingesting frame,
            { t with pipeline, canPublished := t.canPublished ++ [.update explored] }) := by
        simp only [workerStep, ingestCanExplorer, hexplored]
      have hfirst : Runs sha256 _ _ := .single (step_of_perform h.worker hexplore hmoved)
      have hsame : t.SameReports { t with
        pipeline, canPublished := t.canPublished ++ [.update explored] } :=
        ⟨rfl, rfl, rfl, rfl, rfl⟩
      have hat := h.setPhase hsame (.ingesting frame)
      generalize hv : TelemetryService.setPhase _ thread (.ingesting frame) = v at hfirst hat
      have hpipeline : v.pipeline = pipeline := hv ▸ rfl
      have hingest : perform sha256 v recorder connection (.ingesting frame) =
          some (.ingest, recorder, connection) := rfl
      obtain ⟨hsame, houtcome, hreached⟩ := v.ingestDecodable_reports frame
      rw [hraw, ← hpipeline, ← houtcome, ← hreached]
      cases hdecodable : v.ingestDecodable frame with
      | mk outcome u =>
        rw [hdecodable] at hsame
        cases outcome with
        | error error =>
          have hended : v.workerStep thread ⟨.live, .ingesting frame⟩ .ingest =
              some (.aborting error.message, u) := by
            simp only [workerStep, hdecodable]
            rfl
          exact ⟨_, _, hfirst.tail (step_of_perform hat.worker hingest hended),
            hat.setPhase hsame _, rfl, rfl⟩
        | ok update =>
          have hended : v.workerStep thread ⟨.live, .ingesting frame⟩ .ingest =
              some (.reading, u) := by
            simp only [workerStep, hdecodable]
          exact ⟨_, _, hfirst.tail (step_of_perform hat.worker hingest hended),
            hat.setPhase hsame _, rfl, rfl⟩

/-- The loop over the frames, section by section. -/
theorem At.loop {outcome : Except PyException Unit} {pipeline : Pipeline}
    {frames : List RawCanFrame} (h : At s t thread .reading) (hrunning : s.stopRequested = false)
    (sha256 : Bytes → Sha256Digest) (raised : Option PyException)
    (hloop : gatewayLoop recorder t.pipeline frames = (outcome, recorder', pipeline)) :
    ∃ u left, Runs sha256 ⟨t, thread, recorder, .ok ⟨frames, raised⟩⟩
        ⟨u, thread, recorder', .ok ⟨left, raised⟩⟩ ∧ u.pipeline = pipeline ∧
      (outcome = .ok () → left = [] ∧ At s u thread .reading) ∧
      ∀ error, outcome = .error error → At s u thread (.aborting error.message) := by
  induction frames generalizing t recorder with
  | nil =>
    cases hloop
    exact ⟨t, [], .refl, rfl, fun _ => ⟨rfl, h⟩, fun _ herror => by cases herror⟩
  | cons frame rest ih =>
    obtain ⟨u, phase, hrecorded, hafter, hpipeline, hphase⟩ :=
      h.record hrunning sha256 recorder frame rest raised
    rw [gatewayLoop] at hloop
    rw [← hpipeline] at hloop
    cases hrecord : recorder.record frame {} with
    | mk written recorded =>
      rw [hrecord] at hloop hrecorded hphase
      cases written with
      | error error =>
        cases hloop
        cases hphase
        exact ⟨u, rest, hrecorded, rfl, fun hok => (by cases hok),
          fun _ herror => by cases herror; exact hafter⟩
      | ok _ =>
        cases hphase
        obtain ⟨v, reached, hingested, hlast, hleft, hreached⟩ :=
          hafter.ingest sha256 recorded (.ok ⟨rest, raised⟩)
        cases hingest : u.pipeline.ingestRaw frame with
        | mk taken ingested =>
          rw [hingest] at hloop hleft hreached
          cases taken with
          | error error =>
            cases hloop
            cases hreached
            exact ⟨v, rest, hrecorded.trans hingested, hleft, fun hok => (by cases hok),
              fun _ herror => by cases herror; exact hlast⟩
          | ok update =>
            cases hreached
            change v.pipeline = ingested at hleft
            change gatewayLoop recorded ingested rest = _ at hloop
            rw [← hleft] at hloop
            obtain ⟨w, left, hruns, hw, hends⟩ := ih hlast hloop
            exact ⟨w, left, (hrecorded.trans hingested).trans hruns, hw, hends⟩

end Steps

/-! ## How a source ends -/

section Ends

variable {sha256 : Bytes → Sha256Digest} {s t : TelemetryService} {thread : ℕ}
  {recorder : SessionRecorder} {connection : Except PyException FrameStream}

/-- Without faults an abort returns. -/
theorem abort_returns (sha256 : Bytes → Sha256Digest) (recorder : SessionRecorder)
    (reason : String) : ∃ manifest, (recorder.abort sha256 reason {}).1 = .ok manifest := by
  unfold SessionRecorder.abort
  split <;> exact ⟨_, rfl⟩

/-- The `finally` clause. -/
theorem At.close (h : At s t thread .closing) (hrunning : t.stopRequested = false)
    (sha256 : Bytes → Sha256Digest) (recorder : SessionRecorder)
    (connection : Except PyException FrameStream) :
    ∃ u, Runs sha256 ⟨t, thread, recorder, connection⟩
        ⟨u, thread, closeRecorder sha256 recorder, connection⟩ ∧
      At s u thread .finished ∧ u.pipeline = t.pipeline := by
  have hreason : closingReason t = "recording ended without normal gateway completion" := by
    rw [closingReason, hrunning]
    rfl
  have hclose : perform sha256 t recorder connection .closing =
      some (.close (.ok ()), closeRecorder sha256 recorder, connection) := by
    rw [perform, hreason, closeRecorder]
    split
    · obtain ⟨manifest, haborted⟩ := abort_returns sha256 recorder
        "recording ended without normal gateway completion"
      simp only [haborted, Except.map]
    · rfl
  obtain ⟨hclosed, hreleasing⟩ := h.move .releasing hclose rfl
  have hrelease : perform sha256 (t.setPhase thread .releasing) (closeRecorder sha256 recorder)
      connection .releasing = some (.release, closeRecorder sha256 recorder, connection) := rfl
  have hsame : (t.setPhase thread .releasing).SameReports
      { t.setPhase thread .releasing with client := none } := ⟨rfl, rfl, rfl, rfl, rfl⟩
  exact ⟨_, hclosed.tail (step_of_perform hreleasing.worker hrelease rfl),
    hreleasing.setPhase hsame .finished, rfl⟩

/-- The worker has ended, and reported this state over what the service reported before. -/
structure Ended (s t : TelemetryService) (thread : ℕ) (reported : TelemetryServiceState)
    (error : Option String) : Prop where
  worker : t.workers[thread]? = some ⟨.live, .finished⟩
  state : t.state = reported
  lastError : t.lastError = error
  stateTransitions : t.stateTransitions = s.stateTransitions ++ [reported]

/-- From the section that reports a state on. -/
theorem At.report {phase : WorkerPhase} {state : TelemetryServiceState} {error : Option String}
    (h : At s t thread phase) (hrunning : s.stopRequested = false)
    (sha256 : Bytes → Sha256Digest) (recorder : SessionRecorder)
    (connection : Except PyException FrameStream) (action : WorkerAction)
    (hperform : perform sha256 t recorder connection phase =
      some (action, recorder, connection))
    (hstep : t.workerStep thread ⟨.live, phase⟩ action =
      some (.closing, t.transitionUnlessStopped state error)) :
    ∃ u, Runs sha256 ⟨t, thread, recorder, connection⟩
        ⟨u, thread, closeRecorder sha256 recorder, connection⟩ ∧
      Ended s u thread state error ∧ u.pipeline = t.pipeline := by
  have hstop : t.stopRequested = false := h.stopRequested.trans hrunning
  have htransition : t.transitionUnlessStopped state error = t.transition state error := by
    unfold transitionUnlessStopped
    rw [hstop]
    rfl
  rw [htransition] at hstep
  have hreported := step_of_perform h.worker hperform hstep
  have hclosing : At (t.transition state error) ((t.transition state error).setPhase thread .closing)
      thread .closing := ⟨setPhase_getElem? h.worker .closing, rfl, rfl, rfl, rfl⟩
  obtain ⟨u, hclosed, hfinished, hpipeline⟩ :=
    hclosing.close hstop sha256 recorder connection
  refine ⟨u, .head hreported hclosed, ⟨hfinished.worker, hfinished.state, hfinished.lastError, ?_⟩,
    hpipeline⟩
  rw [hfinished.stateTransitions, ← h.stateTransitions]
  rfl

/-- The handler of an exception, and what follows. -/
theorem At.abort {failure : String} (h : At s t thread (.aborting failure))
    (hrunning : s.stopRequested = false) (sha256 : Bytes → Sha256Digest)
    (recorder : SessionRecorder) (connection : Except PyException FrameStream) :
    ∃ u, Runs sha256 ⟨t, thread, recorder, connection⟩
        ⟨u, thread, closeRecorder sha256 (recorder.abort sha256 failure {}).2, connection⟩ ∧
      Ended s u thread .failed (some (failureText failure
        ((recorder.abort sha256 failure {}).1.map (fun _ => ())))) ∧
      u.pipeline = t.pipeline := by
  have habort : perform sha256 t recorder connection (.aborting failure) =
      some (.abort ((recorder.abort sha256 failure {}).1.map (fun _ => ())),
        (recorder.abort sha256 failure {}).2, connection) := rfl
  obtain ⟨haborted, hfailing⟩ := h.move (.failing (failureText failure
    ((recorder.abort sha256 failure {}).1.map (fun _ => ())))) habort rfl
  obtain ⟨u, hreported, hended, hpipeline⟩ := hfailing.report hrunning sha256
    (recorder.abort sha256 failure {}).2 connection .fail rfl rfl
  exact ⟨u, haborted.trans hreported, hended, hpipeline⟩

/-- The worker is where the `try` block leads with this outcome. -/
def Tried (s t : TelemetryService) (thread : ℕ) : Except PyException Unit → Prop
  | .ok () => At s t thread .completing
  | .error error => At s t thread (.aborting error.message)

/-- From the head of the loop to the end of the `try` block. -/
theorem At.tries {stream : FrameStream} {outcome : Except PyException Unit}
    {recorder' : SessionRecorder} {pipeline : Pipeline} (h : At s t thread .reading)
    (hrunning : s.stopRequested = false)
    (htry : tryGateway sha256 t.pipeline recorder (.ok stream) = (outcome, recorder', pipeline)) :
    ∃ u left, Runs sha256 ⟨t, thread, recorder, .ok stream⟩ ⟨u, thread, recorder', left⟩ ∧
      u.pipeline = pipeline ∧ Tried s u thread outcome ∧
      (outcome = .ok () → remaining left = []) := by
  obtain ⟨frames, raised⟩ := stream
  rw [tryGateway] at htry
  cases hloop : gatewayLoop recorder t.pipeline frames with
  | mk ended reached =>
    obtain ⟨recorded, taken⟩ := reached
    obtain ⟨u, left, hruns, hpipeline, hok, herror⟩ :=
      h.loop hrunning sha256 raised hloop
    simp only [hloop] at htry
    cases ended with
    | error error =>
      cases htry
      exact ⟨u, _, hruns, hpipeline, herror error rfl, fun hok => by cases hok⟩
    | ok _ =>
      obtain ⟨rfl, hreading⟩ := hok rfl
      cases raised with
      | some error =>
        cases htry
        have hnext : perform sha256 u recorder' (.ok ⟨[], some error⟩) .reading =
            some (.next (.error error), recorder', .ok ⟨[], some error⟩) := rfl
        obtain ⟨hread, haborting⟩ := hreading.move (.aborting error.message) hnext rfl
        exact ⟨_, _, hruns.trans hread, hpipeline, haborting, fun _ => rfl⟩
      | none =>
        have hnext : perform sha256 u recorded (.ok ⟨[], none⟩) .reading =
            some (.next (.ok none), recorded, .ok ⟨[], none⟩) := rfl
        obtain ⟨hread, hfinalizing⟩ := hreading.move .finalizing hnext rfl
        have hfinalize : perform sha256 (u.setPhase thread .finalizing) recorded
            (.ok ⟨[], none⟩) .finalizing =
              some (.finalize ((recorded.complete sha256 {}).1.map (fun _ => ())),
                (recorded.complete sha256 {}).2, .ok ⟨[], none⟩) := rfl
        cases hcomplete : recorded.complete sha256 {} with
        | mk finalized completed =>
          rw [hcomplete] at hfinalize
          simp only [hcomplete] at htry
          cases finalized with
          | ok manifest =>
            cases htry
            obtain ⟨hfinalized, hcompleting⟩ :=
              hfinalizing.move .completing hfinalize rfl
            exact ⟨_, _, (hruns.trans hread).trans hfinalized, hpipeline, hcompleting, fun _ => rfl⟩
          | error error =>
            cases htry
            obtain ⟨hfinalized, haborting⟩ :=
              hfinalizing.move (.aborting error.message) hfinalize rfl
            exact ⟨_, _, (hruns.trans hread).trans hfinalized, hpipeline, haborting, fun _ => rfl⟩

/-- The states that a source reports before its last one. -/
def reportedFirst (connection : Except PyException FrameStream) : List TelemetryServiceState :=
  match connection with
  | .ok _ => [.running]
  | .error _ => []

/-- From the start to the end of the `try` block. -/
theorem At.connects {outcome : Except PyException Unit} {recorder' : SessionRecorder}
    {pipeline : Pipeline} (h : t.workers[thread]? = some ⟨.live, .connecting⟩)
    (hrunning : t.stopRequested = false)
    (htry : tryGateway sha256 t.pipeline recorder connection = (outcome, recorder', pipeline)) :
    ∃ base u left, Runs sha256 ⟨t, thread, recorder, connection⟩ ⟨u, thread, recorder', left⟩ ∧
      base.stopRequested = false ∧
      base.stateTransitions = t.stateTransitions ++ reportedFirst connection ∧
      u.pipeline = pipeline ∧ Tried base u thread outcome ∧
      (outcome = .ok () → remaining left = []) := by
  have hconnect : perform sha256 t recorder connection .connecting =
      some (.connect (connection.map (fun _ => ())), recorder, connection) := rfl
  cases connection with
  | error error =>
    cases htry
    obtain ⟨hconnected, haborting⟩ :=
      (at_self h).move (.aborting error.message) hconnect rfl
    exact ⟨t, _, _, hconnected, hrunning, (List.append_nil _).symm, rfl, haborting, fun _ => rfl⟩
  | ok stream =>
    obtain ⟨hconnected, hentering⟩ := (at_self h).move .connected hconnect rfl
    generalize hv : t.setPhase thread .connected = v at hconnected hentering
    have henter : perform sha256 v recorder (.ok stream) .connected =
        some (.enter, recorder, .ok stream) := rfl
    have hstep : v.workerStep thread ⟨.live, .connected⟩ .enter =
        some (.reading, { v with client := some thread }.transition .running none) := by
      have hunstopped : v.stopRequested = false := hentering.stopRequested.trans hrunning
      simp only [workerStep, hunstopped]
      rfl
    have hentered := step_of_perform hentering.worker henter hstep
    generalize hbase : TelemetryService.setPhase _ thread .reading = base at hentered
    have hworker : base.workers[thread]? = some ⟨.live, .reading⟩ :=
      hbase ▸ setPhase_getElem? hentering.worker .reading
    have hstopped : base.stopRequested = false :=
      hbase ▸ hentering.stopRequested.trans hrunning
    have hpipeline : base.pipeline = t.pipeline := hbase ▸ hv ▸ rfl
    rw [← hpipeline] at htry
    obtain ⟨u, left, hruns, hreached, htried, hconsumed⟩ := (at_self hworker).tries hstopped htry
    refine ⟨base, u, left, (hconnected.tail hentered).trans hruns, hstopped, ?_, hreached, htried,
      hconsumed⟩
    rw [← hbase]
    exact congrArg (· ++ [TelemetryServiceState.running]) hentering.stateTransitions

end Ends

/-- The worker has ended, with the pipeline, the recorder, the state and the error of `runGateway`,
and the service has reported its states in order. A source that completed has read its stream. -/
structure RanGateway (sha256 : Bytes → Sha256Digest) (s t : TelemetryService)
    (recorder : SessionRecorder) (connection : Except PyException FrameStream)
    (final : GatewayWorker) : Prop where
  halts : final.step sha256 = none
  worker : final.service.workers[s.workers.length]? = some ⟨.live, .finished⟩
  run : (⟨final.service.pipeline, final.recorder, final.service.state, final.service.lastError⟩ :
    GatewayRun) = runGateway sha256 t.pipeline recorder connection
  stateTransitions : final.service.stateTransitions = s.stateTransitions ++ [.connecting] ++
    reportedFirst connection ++ [final.service.state]
  consumed : final.service.state = .completed → remaining final.connection = []

/-- A started worker that nobody stops ends. -/
theorem exists_ranGateway (sha256 : Bytes → Sha256Digest) (s t : TelemetryService)
    (hstart : s.start = .ok t) (recorder : SessionRecorder)
    (connection : Except PyException FrameStream) :
    ∃ final, Runs sha256 ⟨t, s.workers.length, recorder, connection⟩ final ∧
      RanGateway sha256 s t recorder connection final := by
  obtain ⟨hworker, hrunning, htransitions⟩ :
      t.workers[s.workers.length]? = some ⟨.live, .connecting⟩ ∧ t.stopRequested = false ∧
        t.stateTransitions = s.stateTransitions ++ [.connecting] := by
    unfold TelemetryService.start at hstart
    split at hstart
    · cases hstart
    · split at hstart <;> cases hstart
      exact ⟨List.getElem?_concat_length, rfl, rfl⟩
  cases htry : tryGateway sha256 t.pipeline recorder connection with
  | mk outcome reached =>
    obtain ⟨tried, pipeline⟩ := reached
    obtain ⟨base, u, left, hconnected, hstopped, hbase, hpipeline, htried, hconsumed⟩ :=
      At.connects hworker hrunning htry
    -- what the `try` block leaves is reported, and then the `finally` clause runs
    have hends : ∃ v, Runs sha256 ⟨u, s.workers.length, tried, left⟩ v ∧ v.thread = s.workers.length ∧
        Ended base v.service s.workers.length
          (runGateway sha256 t.pipeline recorder connection).state
          (runGateway sha256 t.pipeline recorder connection).lastError ∧
        v.service.pipeline = (runGateway sha256 t.pipeline recorder connection).pipeline ∧
        v.recorder = (runGateway sha256 t.pipeline recorder connection).recorder ∧
        (v.service.state = .completed → remaining v.connection = []) := by
      rw [runGateway, htry]
      cases outcome with
      | ok _ =>
        have hcompleting : At base u s.workers.length .completing := htried
        obtain ⟨v, hreported, hended, hkept⟩ := hcompleting.report hstopped sha256 tried left
          .complete rfl rfl
        exact ⟨_, hreported, rfl, hended, hkept.trans hpipeline, rfl, fun _ => hconsumed rfl⟩
      | error error =>
        have haborting : At base u s.workers.length (.aborting error.message) := htried
        obtain ⟨v, hreported, hended, hkept⟩ := haborting.abort hstopped sha256 tried left
        refine ⟨_, hreported, rfl, hended, hkept.trans hpipeline, rfl, fun hcompleted => ?_⟩
        rw [hended.state] at hcompleted
        cases hcompleted
    obtain ⟨final, hfinal, hthread, hended, hreached, hrecorder, hread⟩ := hends
    refine ⟨final, hconnected.trans hfinal, ?_, hended.worker, ?_, ?_, hread⟩
    · rw [step, hthread, hended.worker]
      rfl
    · rw [hreached, hrecorder, hended.state, hended.lastError]
    · rw [hended.stateTransitions, hbase, htransitions, hended.state]

/-- A worker that nobody stops ends, however far it has come, with the pipeline, the recorder, the
state and the error of `runGateway`, and the service has reported its states in order. -/
theorem worker_runs_gateway (sha256 : Bytes → Sha256Digest) (s t : TelemetryService)
    (hstart : s.start = .ok t) (recorder : SessionRecorder)
    (connection : Except PyException FrameStream) (w : GatewayWorker)
    (hruns : Runs sha256 ⟨t, s.workers.length, recorder, connection⟩ w) :
    ∃ final, Runs sha256 w final ∧ final.step sha256 = none ∧
      final.service.workers[s.workers.length]? = some ⟨.live, .finished⟩ ∧
      (⟨final.service.pipeline, final.recorder, final.service.state, final.service.lastError⟩ :
        GatewayRun) = runGateway sha256 t.pipeline recorder connection ∧
      final.service.stateTransitions = s.stateTransitions ++ [.connecting] ++
        reportedFirst connection ++ [final.service.state] := by
  obtain ⟨final, hfinal, hran⟩ := exists_ranGateway sha256 s t hstart recorder connection
  refine ⟨final, ?_, hran.halts, hran.worker, hran.run, hran.stateTransitions⟩
  -- the worker's steps are a function, so its run passes through `w`
  rcases ReflTransGen.total_of_right_unique
      (fun _ _ _ hfirst hsecond => Option.some.inj (hfirst.symm.trans hsecond)) hruns
      hfinal with hlater | hbeyond
  · exact hlater
  · rcases ReflTransGen.cases_head hbeyond with rfl | ⟨next, hnext, -⟩
    · exact .refl
    · rw [hran.halts] at hnext
      cases hnext

/-- A gateway that sends a frame, then one of no message of the database, and then another. -/
def unlistedStream : FrameStream :=
  ⟨[fastEngineFrame 1000, unlistedFrame, fastEngineFrame 2000], none⟩

/-- The worker after some of its steps. -/
def after (sha256 : Bytes → Sha256Digest) (w : GatewayWorker) : ℕ → Option GatewayWorker
  | 0 => some w
  | n + 1 => (after sha256 w n).bind (·.step sha256)

theorem runs_of_after {sha256 : Bytes → Sha256Digest} {w v : GatewayWorker} {n : ℕ}
    (h : after sha256 w n = some v) : Runs sha256 w v := by
  induction n generalizing v with
  | zero => cases h; exact .refl
  | succ n ih =>
    obtain ⟨u, hu, hstep⟩ := Option.bind_eq_some_iff.1 h
    exact (ih hu).tail hstep

/-- A worker that has come to the frame of no message fails: it has recorded that frame and aborts
the recording, and never reads the last one. -/
theorem worker_aborts_at_unlisted_frame :
    ∃ t w final, (create (.packaged DbcMessage.intelDecode)).start = .ok t ∧
      Runs (fun _ => someDigest) ⟨t, 0, defaultRecorder, .ok unlistedStream⟩ w ∧
      w.service.workers.map (·.phase) = [.ingesting unlistedFrame] ∧
      Runs (fun _ => someDigest) w final ∧
      final.service.stateTransitions = [.stopped, .connecting, .running, .failed] ∧
      final.service.lastError = some (Decoder.unknownCanFrame 0x7FF).message ∧
      final.service.pipeline.explorer.nextSequence = 2 ∧
      final.service.pipeline.telemetry.totalFrames = 1 ∧
      final.recorder.manifest.frameCount = 2 ∧
      final.recorder.manifest.status = .incomplete := by
  have hcomes : ((create (.packaged DbcMessage.intelDecode)).start.toOption.bind (fun t =>
      after (fun _ => someDigest) ⟨t, 0, defaultRecorder, .ok unlistedStream⟩ 11)).any (fun w =>
        decide (w.service.workers.map (·.phase) = [.ingesting unlistedFrame])) = true := by
    decide +kernel
  have hends : (create (.packaged DbcMessage.intelDecode)).start.toOption.map (fun t =>
      let ended := runGateway (fun _ => someDigest) t.pipeline defaultRecorder (.ok unlistedStream)
      (ended.state, ended.lastError, ended.pipeline.explorer.nextSequence,
        ended.pipeline.telemetry.totalFrames, ended.recorder.manifest.frameCount,
        ended.recorder.manifest.status)) =
      some (.failed, some (Decoder.unknownCanFrame 0x7FF).message, 2, 1, 2, .incomplete) := by
    decide +kernel
  obtain ⟨t, hstart⟩ : ∃ t, (create (.packaged DbcMessage.intelDecode)).start = .ok t := ⟨_, rfl⟩
  simp only [hstart, Except.toOption, Option.bind_some, Option.map_some] at hcomes hends
  obtain ⟨w, hafter, hphase⟩ := (Option.any_eq_true _ _).1 hcomes
  have hruns := runs_of_after hafter
  obtain ⟨final, hfinal, -, -, hrun, htransitions⟩ := worker_runs_gateway (fun _ => someDigest) _ t
    hstart defaultRecorder (.ok unlistedStream) w hruns
  rw [← hrun] at hends
  simp only [Option.some.injEq, Prod.mk.injEq] at hends
  obtain ⟨hstate, herror, hexplored, hingested, hrecorded, hstatus⟩ := hends
  rw [hstate] at htransitions
  exact ⟨t, w, final, hstart, hruns, of_decide_eq_true hphase, hfinal, htransitions, herror,
    hexplored, hingested, hrecorded, hstatus⟩

end GatewayWorker

end TunerOs
