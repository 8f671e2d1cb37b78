-- SUMMARY: A live source run from start to end, with a recorder attached.
import TunerOs.Session.Replay
import TunerOs.Telemetry.Service

/-!
# Live source runs

`runGateway` is `_run_gateway` of a source that nobody stops and whose file
operations succeed, as a function of what the gateway delivers: the worker's sections
one after the other.
-/

namespace TunerOs

open Transition

/-- What a live source leaves when its worker ends. -/
structure GatewayRun where
  pipeline : Pipeline
  recorder : SessionRecorder
  state : TelemetryServiceState
  lastError : Option String

/-- The loop over `client.frames()`, ended by the first exception. -/
def gatewayLoop (recorder : SessionRecorder) (pipeline : Pipeline) :
    List RawCanFrame → Except PyException Unit × SessionRecorder × Pipeline
  | [] => (.ok (), recorder, pipeline)
  | frame :: rest =>
    match recorder.record frame {} with
    | (.error error, recorder) => (.error error, recorder, pipeline)
    | (.ok (), recorder) =>
      match pipeline.ingestRaw frame with
      | (.error error, pipeline) => (.error error, recorder, pipeline)
      | (.ok _, pipeline) => gatewayLoop recorder pipeline rest

section Run

variable (sha256 : Bytes → Sha256Digest)

/-- The `try` block: connect, record and ingest every frame, and complete the recording. -/
def tryGateway (pipeline : Pipeline) (recorder : SessionRecorder)
    (connection : Except PyException FrameStream) :
    Except PyException Unit × SessionRecorder × Pipeline :=
  match connection with
  | .error error => (.error error, recorder, pipeline)
  | .ok stream =>
    match gatewayLoop recorder pipeline stream.yielded with
    | (.error error, recorder, pipeline) => (.error error, recorder, pipeline)
    | (.ok (), recorder, pipeline) =>
      match stream.raised with
      | some error => (.error error, recorder, pipeline)
      | none =>
        match recorder.complete sha256 {} with
        | (.error error, recorder) => (.error error, recorder, pipeline)
        | (.ok _, recorder) => (.ok (), recorder, pipeline)

/-- The recorder's part of the `finally` clause. -/
def closeRecorder (recorder : SessionRecorder) : SessionRecorder :=
  if recorder.recording then
    (recorder.abort sha256 "recording ended without normal gateway completion" {}).2
  else recorder

/-- `_run_gateway` over what connecting returns. -/
def runGateway (pipeline : Pipeline) (recorder : SessionRecorder)
    (connection : Except PyException FrameStream) : GatewayRun :=
  match tryGateway sha256 pipeline recorder connection with
  | (.ok (), recorder, pipeline) => ⟨pipeline, closeRecorder sha256 recorder, .completed, none⟩
  | (.error error, recorder, pipeline) =>
    let aborted := recorder.abort sha256 error.message {}
    ⟨pipeline, closeRecorder sha256 aborted.2, .failed,
      some (TelemetryService.failureText error.message (aborted.1.map (fun _ => ())))⟩

/-! ## What the loop leaves -/

section Loop

variable {recorder recorder' : SessionRecorder} {initial : SessionManifest}
  {pipeline pipeline' : Pipeline} {seen frames : List RawCanFrame}

/-- A loop that reaches the end of the stream recorded and ingested every frame. -/
theorem gatewayLoop_ok (hrecorded : recorder.Recorded initial seen)
    (h : gatewayLoop recorder pipeline frames = (.ok (), recorder', pipeline')) :
    recorder'.Recorded initial (seen ++ frames) ∧ pipeline.replayAll frames = .ok pipeline' := by
  induction frames generalizing recorder pipeline seen with
  | nil =>
    cases h
    rw [List.append_nil]
    exact ⟨hrecorded, rfl⟩
  | cons frame rest ih =>
    rw [gatewayLoop] at h
    split at h
    · cases h
    · rename_i next hrecord
      split at h
      · cases h
      · rename_i update ingested hingest
        obtain ⟨hrest, hreplay⟩ := ih (hrecorded.record hrecord) h
        obtain ⟨replayed, hfirst⟩ := Pipeline.replay_of_ingestRaw hingest
        rw [List.append_assoc, List.singleton_append] at hrest
        refine ⟨hrest, ?_⟩
        rw [Pipeline.replayAll, hfirst]
        exact hreplay

/-- However the loop ends, the recorder has recorded some frames. -/
theorem gatewayLoop_recorded (hrecorded : recorder.Recorded initial seen) :
    ∃ recorded, (gatewayLoop recorder pipeline frames).2.1.Recorded initial recorded := by
  induction frames generalizing recorder pipeline seen with
  | nil => exact ⟨seen, hrecorded⟩
  | cons frame rest ih =>
    rw [gatewayLoop]
    split
    · rename_i error next hrecord
      exact ⟨seen, SessionRecorder.record_error hrecord ▸ hrecorded⟩
    · rename_i next hrecord
      split
      · exact ⟨seen ++ [frame], hrecorded.record hrecord⟩
      · exact ih (hrecorded.record hrecord)

end Loop

end Run

end TunerOs
