-- SUMMARY: The telemetry service: source lifecycle, worker threads, stop calls and subscriptions as a labelled transition system.
import TunerOs.Lib.Run
import TunerOs.Telemetry.Pipeline

/-!
# Telemetry service

A label is one section under the state lock, one thread join, one operation on an
event, or one step of a worker outside the lock, whose outcome (what the gateway,
the recorder or the session reader did) is part of the label. A call that raises
is a step that leaves what it wrote before.

`start`, `start_replay` and the public operations are single sections. `stop` is
several, so each calling thread has a position in it.
-/

namespace TunerOs

open Containers

inductive TelemetryServiceState where
  | stopped
  | connecting
  | running
  | completed
  | failed
deriving DecidableEq, Repr

/-- `state in (CONNECTING, RUNNING)`. -/
def TelemetryServiceState.sourceActive : TelemetryServiceState → Bool
  | .connecting | .running => true
  | _ => false

inductive TelemetrySourceMode where
  | live
  | replay
deriving DecidableEq, Repr

structure TelemetryServiceStateUpdate where
  state : TelemetryServiceState
  error : Option String
deriving DecidableEq

inductive TelemetryServiceEvent where
  | update (update : TelemetryUpdate)
  | serviceState (update : TelemetryServiceStateUpdate)
deriving DecidableEq

inductive CanExplorerServiceEvent where
  | update (update : CanExplorerUpdate)
  | serviceState (update : TelemetryServiceStateUpdate)
deriving DecidableEq

structure TelemetryServiceStatus where
  state : TelemetryServiceState
  lastError : Option String
  statistics : TelemetryStatistics
  sourceMode : TelemetrySourceMode
deriving DecidableEq

/-- Where a source worker is in `_run_gateway` or `_run_replay`. -/
inductive WorkerPhase where
  /-- Calling the gateway connector. -/
  | connecting
  /-- Connected, before the section that stores the client. -/
  | connected
  /-- In `_replay_start.wait()`. -/
  | waiting
  /-- Released, before the first look at the stop flag. -/
  | released
  /-- At the head of the loop over the frames. -/
  | reading
  /-- A frame was read; the stop flag is looked at next. -/
  | checking (frame : RawCanFrame)
  /-- Before `recorder.record`. -/
  | recording (frame : RawCanFrame)
  /-- Before `_ingest_can_explorer`. -/
  | exploring (frame : RawCanFrame)
  /-- Before `ingest_decoded`. -/
  | ingesting (frame : RawCanFrame)
  /-- Before `recorder.complete`. -/
  | finalizing
  /-- Before the section that transitions to `COMPLETED`. -/
  | completing
  /-- In the handler of an exception, before `recorder.abort`. -/
  | aborting (failure : String)
  /-- Before the section that transitions to `FAILED`. -/
  | failing (failure : String)
  /-- In the `finally` clause, before the client and the recorder are closed. -/
  | closing
  /-- Before the section that clears the client. -/
  | releasing
  | finished
deriving DecidableEq

structure SourceWorker where
  mode : TelemetrySourceMode
  phase : WorkerPhase
deriving DecidableEq

/-- Where a calling thread is in `stop`; `client` and `worker` are the references it read. -/
inductive StopPhase where
  | outside
  | requested
  | released
  | closing (client worker : Option ℕ)
  | joining (worker : Option ℕ)
  | finishing (worker : Option ℕ)
deriving DecidableEq

/-- `TelemetryService`. Threads are numbered in the order they are started; `client` is the
number of the worker whose connection it is. `published` and `canPublished` are what the two
current broadcasters have published. -/
structure TelemetryService where
  pipeline : Pipeline
  published : List TelemetryServiceEvent
  canPublished : List CanExplorerServiceEvent
  subscriberCount : ℕ
  canSubscriberCount : ℕ
  state : TelemetryServiceState
  stateTransitions : List TelemetryServiceState
  lastError : Option String
  worker : Option ℕ
  client : Option ℕ
  stopRequested : Bool
  liveStartedOnce : Bool
  sourceMode : TelemetrySourceMode
  sourceSessionId : Option String
  sourceSessionName : Option String
  replayStart : Bool
  workers : List SourceWorker
  stops : ℕ → StopPhase

namespace TelemetryService

/-- A new service over the given components. -/
def create (pipeline : Pipeline) : TelemetryService where
  pipeline := pipeline
  published := []
  canPublished := []
  subscriberCount := 0
  canSubscriberCount := 0
  state := .stopped
  stateTransitions := [.stopped]
  lastError := none
  worker := none
  client := none
  stopRequested := false
  liveStartedOnce := false
  sourceMode := .live
  sourceSessionId := none
  sourceSessionName := none
  replayStart := false
  workers := []
  stops := fun _ => .outside

def status (s : TelemetryService) : TelemetryServiceStatus where
  state := s.state
  lastError := s.lastError
  statistics := s.pipeline.telemetry.statistics
  sourceMode := s.sourceMode

/-- `_transition_locked`. -/
def transition (s : TelemetryService) (state : TelemetryServiceState) (error : Option String) :
    TelemetryService :=
  { s with
    state := state
    lastError := error
    stateTransitions := s.stateTransitions ++ [state]
    published := s.published ++ [.serviceState ⟨state, error⟩]
    canPublished := s.canPublished ++ [.serviceState ⟨state, error⟩] }

/-- `threading.Thread(...)`, stored in `_worker` and started. -/
def spawn (s : TelemetryService) (worker : SourceWorker) : TelemetryService :=
  { s with workers := s.workers ++ [worker], worker := some s.workers.length }

/-- `Thread.is_alive()` of a thread that was started. -/
def alive (s : TelemetryService) (thread : ℕ) : Bool :=
  s.workers[thread]?.all (·.phase ≠ .finished)

def alreadyActive : PyException := ⟨.runtimeError, "a telemetry source is already active"⟩

def restarted : PyException :=
  ⟨.runtimeError, "TelemetryService instances cannot be restarted"⟩

def stillActive : PyException :=
  ⟨.runtimeError, "previous telemetry source worker is still active"⟩

def subscribersLeft : PyException :=
  ⟨.runtimeError, "replay requires all previous subscribers to close"⟩

/-- `start`. The telemetry engine is not among the components it resets. -/
def start (s : TelemetryService) : Except PyException TelemetryService :=
  if s.liveStartedOnce then .error restarted
  else if s.state.sourceActive then .error alreadyActive
  else
    .ok (({ s with
      liveStartedOnce := true
      sourceMode := .live
      sourceSessionId := none
      sourceSessionName := none
      pipeline := { s.pipeline with
        explorer := s.pipeline.explorer.reset
        diagnostics := s.pipeline.diagnostics.reset }
      stopRequested := false }.transition .connecting none).spawn ⟨.live, .connecting⟩)

def startReplay (s : TelemetryService) (sessionId : String) (sessionName : Option String)
    (waitForSubscriber : Bool) : Except PyException TelemetryService :=
  if s.state.sourceActive then .error alreadyActive
  else if s.worker.any s.alive then .error stillActive
  else if s.subscriberCount ≠ 0 ∨ s.canSubscriberCount ≠ 0 then .error subscribersLeft
  else
    .ok (({ s with
      published := []
      canPublished := []
      stopRequested := false
      pipeline := { s.pipeline with
        telemetry := s.pipeline.telemetry.reset
        explorer := s.pipeline.explorer.reset
        diagnostics := s.pipeline.diagnostics.reset }
      lastError := none
      sourceMode := .replay
      sourceSessionId := some sessionId
      sourceSessionName := sessionName
      replayStart := !waitForSubscriber }.transition .running none).spawn ⟨.replay, .waiting⟩)

/-- `ingest_decoded`: the update is published exactly when it is returned. -/
def ingestDecoded (s : TelemetryService) (frame : DecodedCanFrame) :
    Except PyException TelemetryUpdate × TelemetryService :=
  match s.pipeline.ingestDecoded frame with
  | (.error error, pipeline) => (.error error, { s with pipeline })
  | (.ok update, pipeline) =>
    (.ok update, { s with pipeline, published := s.published ++ [.update update] })

/-- `_ingest_can_explorer`. -/
def ingestCanExplorer (s : TelemetryService) (rawFrame : RawCanFrame) :
    Except PyException CanExplorerUpdate × TelemetryService :=
  match s.pipeline.ingestCanExplorer rawFrame with
  | (.error error, pipeline) => (.error error, { s with pipeline })
  | (.ok update, pipeline) =>
    (.ok update, { s with pipeline, canPublished := s.canPublished ++ [.update update] })

/-- `self.ingest_decoded(self._decoder.decode(raw_frame))`. -/
def ingestDecodable (s : TelemetryService) (rawFrame : RawCanFrame) :
    Except PyException TelemetryUpdate × TelemetryService :=
  match s.pipeline.decoder.decode rawFrame with
  | .error error => (.error error, s)
  | .ok decoded => s.ingestDecoded decoded

def clearDiagnostic (s : TelemetryService) (code : String) :
    Except PyException (DiagnosticTroubleCode × TelemetryService) :=
  match s.pipeline.diagnostics.clear code with
  | .error error => .error error
  | .ok result =>
    .ok (result.dtc, { s with pipeline := { s.pipeline with diagnostics := result.engine } })

/-- A subscription to a replay releases its worker. -/
def releaseReplay (s : TelemetryService) : TelemetryService :=
  if s.sourceMode = .replay then { s with replayStart := true } else s

/-- `subscribe`: the subscription exists before the snapshot is taken. -/
def subscribe (s : TelemetryService) :
    Except PyException (TelemetrySnapshot × TelemetryServiceStatus) × TelemetryService :=
  let subscribed := { s with subscriberCount := s.subscriberCount + 1 }
  match s.pipeline.telemetry.snapshot with
  | .error error => (.error error, subscribed)
  | .ok snapshot => (.ok (snapshot, s.status), subscribed.releaseReplay)

def subscribeCan (s : TelemetryService) (frameLimit : Option ℕ) :
    Except PyException (CanExplorerSnapshot × TelemetryServiceStatus) × TelemetryService :=
  let subscribed := { s with canSubscriberCount := s.canSubscriberCount + 1 }
  match s.pipeline.explorer.snapshot frameLimit with
  | .error error => (.error error, subscribed)
  | .ok snapshot => (.ok (snapshot, s.status), subscribed.releaseReplay)

/-! ## Source workers -/

def setPhase (s : TelemetryService) (thread : ℕ) (phase : WorkerPhase) : TelemetryService :=
  { s with workers := s.workers.modify thread (fun worker => { worker with phase }) }

/-- What a worker does next; an outcome is what code outside the service did. -/
inductive WorkerAction where
  | connect (outcome : Except PyException Unit)
  | enter
  | wake
  | next (outcome : Except PyException (Option RawCanFrame))
  | check
  | record (outcome : Except PyException Unit)
  | explore
  | ingest
  | finalize (outcome : Except PyException Unit)
  | complete
  | abort (outcome : Except PyException Unit)
  | fail
  | close (outcome : Except PyException Unit)
  | release

/-- Where an exception in the `try` block leads. -/
def raisedPhase (mode : TelemetrySourceMode) (error : PyException) : WorkerPhase :=
  match mode with
  | .live => .aborting error.message
  | .replay => .failing error.message

/-- Where leaving the `try` statement leads: only `_run_gateway` has a `finally` clause. -/
def leftPhase : TelemetrySourceMode → WorkerPhase
  | .live => .closing
  | .replay => .finished

/-- Where a worker that may go on with its frame goes: only a live source is recorded. -/
def framePhase (mode : TelemetrySourceMode) (frame : RawCanFrame) : WorkerPhase :=
  match mode with
  | .live => .recording frame
  | .replay => .exploring frame

/-- `with self._lock: if not self._stop_requested.is_set(): self._transition_locked(...)`. -/
def transitionUnlessStopped (s : TelemetryService) (state : TelemetryServiceState)
    (error : Option String) : TelemetryService :=
  if s.stopRequested then s else s.transition state error

/-- `failure`, extended when the recording could not be finalized either. -/
def failureText (failure : String) : Except PyException Unit → String
  | .ok () => failure
  | .error error => failure ++ "; recording finalization failed: " ++ error.message

/-- One step of a worker: the phase it reaches and what it does to the service. -/
def workerStep (s : TelemetryService) (thread : ℕ) (worker : SourceWorker) :
    WorkerAction → Option (WorkerPhase × TelemetryService)
  | .connect outcome =>
    match worker.mode, worker.phase, outcome with
    | .live, .connecting, .ok () => some (.connected, s)
    | .live, .connecting, .error error => some (.aborting error.message, s)
    | _, _, _ => none
  | .enter =>
    match worker.mode, worker.phase with
    | .live, .connected =>
      if s.stopRequested then some (.closing, { s with client := some thread })
      else some (.reading, { s with client := some thread }.transition .running none)
    | _, _ => none
  | .wake =>
    match worker.mode, worker.phase with
    | .replay, .waiting => if s.replayStart then some (.released, s) else none
    | _, _ => none
  | .next outcome =>
    match worker.phase, outcome with
    | .reading, .ok (some frame) => some (.checking frame, s)
    | .reading, .ok none =>
      some (match worker.mode with | .live => .finalizing | .replay => .completing, s)
    | .reading, .error error => some (raisedPhase worker.mode error, s)
    | _, _ => none
  | .check =>
    match worker.phase with
    | .released => some (if s.stopRequested then .finished else .reading, s)
    | .checking frame =>
      some (if s.stopRequested then leftPhase worker.mode else framePhase worker.mode frame, s)
    | _ => none
  | .record outcome =>
    match worker.phase, outcome with
    | .recording frame, .ok () => some (.exploring frame, s)
    | .recording _, .error error => some (.aborting error.message, s)
    | _, _ => none
  | .explore =>
    match worker.phase with
    | .exploring frame =>
      match s.ingestCanExplorer frame with
      | (.ok _, s) => some (.ingesting frame, s)
      | (.error error, s) => some (raisedPhase worker.mode error, s)
    | _ => none
  | .ingest =>
    match worker.phase with
    | .ingesting frame =>
      match s.ingestDecodable frame with
      | (.ok _, s) => some (.reading, s)
      | (.error error, s) => some (raisedPhase worker.mode error, s)
    | _ => none
  | .finalize outcome =>
    match worker.phase, outcome with
    | .finalizing, .ok () => some (.completing, s)
    | .finalizing, .error error => some (.aborting error.message, s)
    | _, _ => none
  | .complete =>
    match worker.phase with
    | .completing => some (leftPhase worker.mode, s.transitionUnlessStopped .completed none)
    | _ => none
  | .abort outcome =>
    match worker.phase with
    | .aborting failure => some (.failing (failureText failure outcome), s)
    | _ => none
  | .fail =>
    match worker.phase with
    | .failing failure =>
      some (leftPhase worker.mode, s.transitionUnlessStopped .failed (some failure))
    | _ => none
  | .close outcome =>
    match worker.phase, outcome with
    | .closing, .ok () => some (.releasing, s)
    -- An exception in the `finally` clause ends the thread before the client is cleared.
    | .closing, .error _ => some (.finished, s)
    | _, _ => none
  | .release =>
    match worker.phase with
    | .releasing => some (.finished, { s with client := none })
    | _ => none

/-! ## The transition system -/

inductive StopAction where
  /-- `self._stop_requested.set()`. -/
  | request
  /-- `self._replay_start.set()`. -/
  | releaseReplay
  /-- The section that reads the client and the worker. -/
  | readReferences
  | closeClient
  /-- The join returned and the worker is not alive. -/
  | join
  /-- The join timed out and the worker is alive, so `stop` raises. -/
  | joinTimeout
  /-- The final section, after which `stop` returns. -/
  | finish
deriving DecidableEq

inductive ServiceLabel where
  | start
  | startReplay (sessionId : String) (sessionName : Option String) (waitForSubscriber : Bool)
  | stop (caller : ℕ) (action : StopAction)
  | worker (thread : ℕ) (action : WorkerAction)
  | ingestDecoded (frame : DecodedCanFrame)
  | clearDiagnostic (code : String)
  | subscribe
  | unsubscribe
  | subscribeCan (frameLimit : Option ℕ)
  | unsubscribeCan

/-- The final section of `stop`. -/
def finishStop (s : TelemetryService) : TelemetryService :=
  let cleared := { s with client := none, worker := none }
  if s.state ≠ .stopped then cleared.transition .stopped none else cleared

/-- One step of a call of `stop` that is at the given phase: the phase it reaches and what it
does to the service. -/
def stopStep (s : TelemetryService) (phase : StopPhase) :
    StopAction → Option (StopPhase × TelemetryService)
  | .request =>
    match phase with
    | .outside => some (.requested, { s with stopRequested := true })
    | _ => none
  | .releaseReplay =>
    match phase with
    | .requested => some (.released, { s with replayStart := true })
    | _ => none
  | .readReferences =>
    match phase with
    | .released => some (.closing s.client s.worker, s)
    | _ => none
  | .closeClient =>
    match phase with
    | .closing _ worker => some (.joining worker, s)
    | _ => none
  | .join =>
    match phase with
    | .joining worker => if worker.any s.alive then none else some (.finishing worker, s)
    | _ => none
  | .joinTimeout =>
    match phase with
    | .joining worker => if worker.any s.alive then some (.outside, s) else none
    | _ => none
  | .finish =>
    match phase with
    | .finishing _ => some (.outside, s.finishStop)
    | _ => none

def step (s : TelemetryService) : ServiceLabel → Option TelemetryService
  | .start => some (match s.start with | .ok t => t | .error _ => s)
  | .startReplay sessionId sessionName waitForSubscriber =>
    some (match s.startReplay sessionId sessionName waitForSubscriber with
      | .ok t => t
      | .error _ => s)
  | .stop caller action =>
    match s.stopStep (s.stops caller) action with
    | none => none
    | some (phase, t) => some { t with stops := Function.update t.stops caller phase }
  | .worker thread action =>
    match s.workers[thread]? with
    | none => none
    | some worker =>
      match s.workerStep thread worker action with
      | none => none
      | some (phase, t) => some (t.setPhase thread phase)
  | .ingestDecoded frame => some (s.ingestDecoded frame).2
  | .clearDiagnostic code =>
    some (match s.clearDiagnostic code with | .ok (_, t) => t | .error _ => s)
  | .subscribe => some s.subscribe.2
  | .unsubscribe =>
    if s.subscriberCount = 0 then none
    else some { s with subscriberCount := s.subscriberCount - 1 }
  | .subscribeCan frameLimit => some (s.subscribeCan frameLimit).2
  | .unsubscribeCan =>
    if s.canSubscriberCount = 0 then none
    else some { s with canSubscriberCount := s.canSubscriberCount - 1 }

/-! ## What a step can do -/

/-- The threads, the calls of `stop` and the lifecycle fields are those of `s`. -/
structure SameLifecycle (s t : TelemetryService) : Prop where
  workers : t.workers = s.workers
  worker : t.worker = s.worker
  state : t.state = s.state
  liveStartedOnce : t.liveStartedOnce = s.liveStartedOnce
  stops : t.stops = s.stops

theorem SameLifecycle.refl (s : TelemetryService) : s.SameLifecycle s := ⟨rfl, rfl, rfl, rfl, rfl⟩

theorem ingestDecoded_lifecycle (s : TelemetryService) (frame : DecodedCanFrame) :
    s.SameLifecycle (s.ingestDecoded frame).2 := by
  unfold ingestDecoded
  split <;> exact ⟨rfl, rfl, rfl, rfl, rfl⟩

theorem ingestDecodable_lifecycle (s : TelemetryService) (rawFrame : RawCanFrame) :
    s.SameLifecycle (s.ingestDecodable rawFrame).2 := by
  unfold ingestDecodable
  split
  · exact .refl s
  · exact s.ingestDecoded_lifecycle _

theorem ingestCanExplorer_lifecycle (s : TelemetryService) (rawFrame : RawCanFrame) :
    s.SameLifecycle (s.ingestCanExplorer rawFrame).2 := by
  unfold ingestCanExplorer
  split <;> exact ⟨rfl, rfl, rfl, rfl, rfl⟩

theorem releaseReplay_lifecycle (s : TelemetryService) : s.SameLifecycle s.releaseReplay := by
  unfold releaseReplay
  split <;> exact ⟨rfl, rfl, rfl, rfl, rfl⟩

theorem subscribe_lifecycle (s : TelemetryService) : s.SameLifecycle s.subscribe.2 := by
  unfold subscribe
  split
  · exact ⟨rfl, rfl, rfl, rfl, rfl⟩
  · have h := releaseReplay_lifecycle { s with subscriberCount := s.subscriberCount + 1 }
    exact ⟨h.workers, h.worker, h.state, h.liveStartedOnce, h.stops⟩

theorem subscribeCan_lifecycle (s : TelemetryService) (frameLimit : Option ℕ) :
    s.SameLifecycle (s.subscribeCan frameLimit).2 := by
  unfold subscribeCan
  split
  · exact ⟨rfl, rfl, rfl, rfl, rfl⟩
  · have h := releaseReplay_lifecycle { s with canSubscriberCount := s.canSubscriberCount + 1 }
    exact ⟨h.workers, h.worker, h.state, h.liveStartedOnce, h.stops⟩

/-! ## What a step does to the telemetry engine and publishes -/

/-- What one step of the service can do to the telemetry engine, and what it then publishes. -/
inductive ServiceMove (s t : TelemetryService) : Prop where
  | keep (states : List TelemetryServiceStateUpdate) :
    t.pipeline.telemetry = s.pipeline.telemetry →
      t.published = s.published ++ states.map .serviceState → ServiceMove s t
  | ingested (frame : DecodedCanFrame) (update : TelemetryUpdate) (pipeline : Pipeline) :
    s.pipeline.ingestDecoded frame = (.ok update, pipeline) →
      t.pipeline.telemetry = pipeline.telemetry →
        t.published = s.published ++ [.update update] → ServiceMove s t
  | raised (frame : DecodedCanFrame) (error : PyException) (pipeline : Pipeline) :
    s.pipeline.ingestDecoded frame = (.error error, pipeline) →
      t.pipeline.telemetry = pipeline.telemetry → t.published = s.published → ServiceMove s t

/-- A step that keeps the telemetry engine and publishes nothing. -/
theorem ServiceMove.silent {s t : TelemetryService}
    (htelemetry : t.pipeline.telemetry = s.pipeline.telemetry)
    (hpublished : t.published = s.published) : ServiceMove s t :=
  .keep [] htelemetry (hpublished.trans (List.append_nil _).symm)

/-- A move only reads the telemetry engine and what was published. -/
theorem ServiceMove.congr {s t u : TelemetryService} (h : ServiceMove s t)
    (htelemetry : u.pipeline.telemetry = t.pipeline.telemetry)
    (hpublished : u.published = t.published) : ServiceMove s u := by
  cases h with
  | keep states hkeep hstates =>
    exact .keep states (htelemetry.trans hkeep) (hpublished.trans hstates)
  | ingested frame update pipeline hingest hnext hupdate =>
    exact .ingested frame update pipeline hingest (htelemetry.trans hnext)
      (hpublished.trans hupdate)
  | raised frame error pipeline hingest hnext hsame =>
    exact .raised frame error pipeline hingest (htelemetry.trans hnext) (hpublished.trans hsame)

theorem ingestDecoded_move (s : TelemetryService) (frame : DecodedCanFrame) :
    ServiceMove s (s.ingestDecoded frame).2 := by
  unfold ingestDecoded
  split
  · rename_i error pipeline hingest
    exact .raised frame error pipeline hingest rfl rfl
  · rename_i update pipeline hingest
    exact .ingested frame update pipeline hingest rfl rfl

theorem ingestDecodable_move (s : TelemetryService) (rawFrame : RawCanFrame) :
    ServiceMove s (s.ingestDecodable rawFrame).2 := by
  unfold ingestDecodable
  split
  · exact .silent rfl rfl
  · exact s.ingestDecoded_move _

theorem ingestCanExplorer_move (s : TelemetryService) (rawFrame : RawCanFrame) :
    ServiceMove s (s.ingestCanExplorer rawFrame).2 := by
  have htelemetry := s.pipeline.ingestCanExplorer_telemetry rawFrame
  unfold ingestCanExplorer
  split <;> rename_i heq <;> rw [heq] at htelemetry
  · exact .silent htelemetry rfl
  · exact .silent htelemetry rfl

theorem transitionUnlessStopped_move (s : TelemetryService) (state : TelemetryServiceState)
    (error : Option String) : ServiceMove s (s.transitionUnlessStopped state error) := by
  unfold transitionUnlessStopped
  split
  · exact .silent rfl rfl
  · exact .keep [⟨state, error⟩] rfl rfl

/-- Of a worker's steps, only `ingest_decoded` writes the telemetry engine. -/
theorem workerStep_move {s t : TelemetryService} {thread : ℕ} {worker : SourceWorker}
    {action : WorkerAction} {phase : WorkerPhase}
    (h : s.workerStep thread worker action = some (phase, t)) : ServiceMove s t := by
  cases action with
  | enter =>
    simp only [workerStep] at h
    split at h
    · split at h <;> cases h
      · exact .silent rfl rfl
      · exact .keep [⟨.running, none⟩] rfl rfl
    · cases h
  | wake =>
    simp only [workerStep] at h
    split at h
    · split at h <;> cases h
      exact .silent rfl rfl
    · cases h
  | explore =>
    simp only [workerStep] at h
    split at h
    · rename_i frame _
      have hmove := s.ingestCanExplorer_move frame
      split at h <;> rename_i heq <;> rw [heq] at hmove <;> cases h <;> exact hmove
    · cases h
  | ingest =>
    simp only [workerStep] at h
    split at h
    · rename_i frame _
      have hmove := s.ingestDecodable_move frame
      split at h <;> rename_i heq <;> rw [heq] at hmove <;> cases h <;> exact hmove
    · cases h
  | complete =>
    simp only [workerStep] at h
    split at h <;> cases h
    exact s.transitionUnlessStopped_move .completed none
  | fail =>
    simp only [workerStep] at h
    split at h <;> cases h
    exact s.transitionUnlessStopped_move .failed _
  | connect outcome | next outcome | check | record outcome | finalize outcome | abort outcome
  | close outcome | release =>
    simp only [workerStep] at h
    split at h <;> cases h <;> exact .silent rfl rfl

theorem start_pipeline {s t : TelemetryService} (h : s.start = .ok t) :
    t.pipeline = { s.pipeline with
      explorer := s.pipeline.explorer.reset
      diagnostics := s.pipeline.diagnostics.reset } := by
  unfold start at h
  split at h
  · cases h
  · split at h <;> cases h
    rfl

theorem startReplay_pipeline {s t : TelemetryService} {sessionId : String}
    {sessionName : Option String} {waitForSubscriber : Bool}
    (h : s.startReplay sessionId sessionName waitForSubscriber = .ok t) :
    t.pipeline = { s.pipeline with
      telemetry := s.pipeline.telemetry.reset
      explorer := s.pipeline.explorer.reset
      diagnostics := s.pipeline.diagnostics.reset } := by
  unfold startReplay at h
  split at h
  · cases h
  · split at h
    · cases h
    · split at h <;> cases h
      rfl

theorem startReplay_of_idle (s : TelemetryService) (sessionId : String)
    (sessionName : Option String) (waitForSubscriber : Bool)
    (hstate : s.state.sourceActive = false) (hworker : s.worker.any s.alive = false)
    (hsubscribers : s.subscriberCount = 0) (hcan : s.canSubscriberCount = 0) :
    ∃ t, s.startReplay sessionId sessionName waitForSubscriber = .ok t := by
  simp [startReplay, hstate, hworker, hsubscribers, hcan]

theorem finishStop_move (s : TelemetryService) : ServiceMove s s.finishStop := by
  unfold finishStop
  split
  · exact .keep [⟨.stopped, none⟩] rfl rfl
  · exact .silent rfl rfl

theorem stopStep_move {s t : TelemetryService} {phase phase' : StopPhase}
    {action : StopAction} (h : s.stopStep phase action = some (phase', t)) :
    ServiceMove s t := by
  cases action with
  | join | joinTimeout =>
    simp only [stopStep] at h
    split at h
    · split at h <;> cases h
      exact .silent rfl rfl
    · cases h
  | finish =>
    simp only [stopStep] at h
    split at h <;> cases h
    exact s.finishStop_move
  | request | releaseReplay | readReferences | closeClient =>
    simp only [stopStep] at h
    split at h <;> cases h
    exact .silent rfl rfl

theorem releaseReplay_pipeline (s : TelemetryService) : s.releaseReplay.pipeline = s.pipeline := by
  unfold releaseReplay
  split <;> rfl

theorem releaseReplay_published (s : TelemetryService) :
    s.releaseReplay.published = s.published := by
  unfold releaseReplay
  split <;> rfl

theorem subscribe_move (s : TelemetryService) : ServiceMove s s.subscribe.2 := by
  unfold subscribe
  split
  · exact .silent rfl rfl
  · exact .silent (congrArg Pipeline.telemetry (releaseReplay_pipeline _)) (releaseReplay_published _)

theorem subscribeCan_move (s : TelemetryService) (frameLimit : Option ℕ) :
    ServiceMove s (s.subscribeCan frameLimit).2 := by
  unfold subscribeCan
  split
  · exact .silent rfl rfl
  · exact .silent (congrArg Pipeline.telemetry (releaseReplay_pipeline _)) (releaseReplay_published _)

/-- The label of a call of `start_replay`. -/
def ServiceLabel.startsReplay : ServiceLabel → Bool
  | .startReplay _ _ _ => true
  | _ => false

/-- What a step of the service does to the telemetry engine: a replay that starts resets it. -/
theorem step_move {s t : TelemetryService} {label : ServiceLabel} (h : s.step label = some t) :
    ServiceMove s t ∨
      label.startsReplay = true ∧ t.pipeline.telemetry = s.pipeline.telemetry.reset := by
  cases label with
  | start =>
    cases h
    split
    · rename_i hstart
      unfold start at hstart
      split at hstart
      · cases hstart
      · split at hstart <;> cases hstart
        exact Or.inl (.keep [⟨.connecting, none⟩] rfl rfl)
    · exact Or.inl (.silent rfl rfl)
  | startReplay sessionId sessionName waitForSubscriber =>
    cases h
    split
    · rename_i hstart
      exact Or.inr ⟨rfl, congrArg Pipeline.telemetry (startReplay_pipeline hstart)⟩
    · exact Or.inl (.silent rfl rfl)
  | stop caller action =>
    simp only [step] at h
    split at h <;> cases h
    rename_i hstop
    exact Or.inl ((stopStep_move hstop).congr rfl rfl)
  | worker thread action =>
    simp only [step] at h
    split at h
    · cases h
    · split at h <;> cases h
      rename_i hworker
      exact Or.inl ((workerStep_move hworker).congr rfl rfl)
  | ingestDecoded frame =>
    cases h
    exact Or.inl (s.ingestDecoded_move frame)
  | clearDiagnostic code =>
    cases h
    split
    · rename_i hclear
      unfold clearDiagnostic at hclear
      split at hclear <;> cases hclear
      exact Or.inl (.silent rfl rfl)
    · exact Or.inl (.silent rfl rfl)
  | subscribe =>
    cases h
    exact Or.inl s.subscribe_move
  | subscribeCan frameLimit =>
    cases h
    exact Or.inl (s.subscribeCan_move frameLimit)
  | unsubscribe | unsubscribeCan =>
    simp only [step] at h
    split at h <;> cases h
    exact Or.inl (.silent rfl rfl)

/-- What one step of the service can do to the telemetry engine. -/
inductive TelemetryMove (engine : TelemetryEngine) : TelemetryEngine → Prop where
  | keep : TelemetryMove engine engine
  | reset : TelemetryMove engine engine.reset
  | ingest (frame : DecodedCanFrame) (samples : List SignalSample) (engine' : TelemetryEngine) :
    engine.ingest frame = .ok (samples, engine') → TelemetryMove engine engine'

theorem telemetryMove_ingestDecoded (pipeline : Pipeline) (frame : DecodedCanFrame) :
    TelemetryMove pipeline.telemetry (pipeline.ingestDecoded frame).2.telemetry := by
  rcases pipeline.ingestDecoded_telemetry frame with hkeep | ⟨samples, hingest⟩
  · rw [hkeep]
    exact .keep
  · exact .ingest frame samples _ hingest

theorem step_telemetry {s t : TelemetryService} {label : ServiceLabel}
    (h : s.step label = some t) :
    TelemetryMove s.pipeline.telemetry t.pipeline.telemetry := by
  rcases step_move h with hmove | ⟨-, hreset⟩
  · cases hmove with
    | keep states htelemetry _ =>
      rw [htelemetry]
      exact .keep
    | ingested frame update pipeline hingest htelemetry _ =>
      have hmove := telemetryMove_ingestDecoded s.pipeline frame
      rwa [hingest, ← htelemetry] at hmove
    | raised frame error pipeline hingest htelemetry _ =>
      have hmove := telemetryMove_ingestDecoded s.pipeline frame
      rwa [hingest, ← htelemetry] at hmove
  · rw [hreset]
    exact .reset

end TelemetryService

end TunerOs
