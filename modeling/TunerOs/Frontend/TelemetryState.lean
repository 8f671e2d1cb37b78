-- SUMMARY: The browser client's telemetry state: the reducer over snapshots, updates, service states and connection events.
import TunerOs.Api.Serialization

/-!
# The browser's telemetry state

`telemetryReducer` and its helpers. Objects keyed by strings are dictionaries, and
`undefined` is `none`.
-/

namespace TunerOs

open Containers

def chartHistoryCapacity : ℕ := 180
def chartSampleIntervalMicroseconds : ℤ := 50000

inductive FrontendConnectionState where
  | connecting
  | connected
  | disconnected
  | error
deriving DecidableEq, Repr

structure ChartPoint where
  timestampMicroseconds : ℕ
  value : ℚ
deriving DecidableEq

structure TelemetryClientState where
  connectionState : FrontendConnectionState
  serviceState : TelemetryServiceState
  serviceError : Option String
  clientError : Option String
  streamWarning : Option String
  catalog : List SignalDefinition
  samples : Dict String SignalSampleResponse
  histories : Dict String (List ChartPoint)
  observationTimestampMicroseconds : Option ℕ
  lastFrameSequence : Option ℕ
  statistics : TelemetryStatisticsResponse
  initialized : Bool
  source : TelemetrySource
deriving DecidableEq

def initialTelemetryState : TelemetryClientState where
  connectionState := .connecting
  serviceState := .stopped
  serviceError := none
  clientError := none
  streamWarning := none
  catalog := []
  samples := .empty
  histories := .empty
  observationTimestampMicroseconds := none
  lastFrameSequence := none
  statistics := ⟨0, 0, none, none, []⟩
  initialized := false
  source := ⟨.live, none, none, false, 0⟩

inductive TelemetryAction where
  /-- `error` is `none` when the action does not carry one. -/
  | connection (state : FrontendConnectionState) (error : Option (Option String))
  | catalog (catalog : List SignalDefinition)
  | status (serviceState : TelemetryServiceState) (lastError : Option String)
  | source (source : TelemetrySource)
  | initialSnapshot (snapshot : TelemetrySnapshotResponse)
  | updates (updates : List TelemetryUpdateEventResponse)
  | serviceState (state : TelemetryServiceState) (error : Option String)
  | clientError (error : String)

def signalKeyId (key : SignalKey) : String := key.messageName ++ "\x1f" ++ key.signalName

/-- A sample less than an interval after the newest point replaces it. -/
def appendChartPoint (history : List ChartPoint) (sample : SignalSampleResponse) :
    List ChartPoint :=
  match sample.value with
  | .boolean _ => history
  | .number value =>
    let point : ChartPoint := ⟨sample.timestampMicroseconds, value⟩
    match history.getLast? with
    | none => [point]
    | some previous =>
      let elapsed := (point.timestampMicroseconds : ℤ) - previous.timestampMicroseconds
      let next :=
        if elapsed ≥ chartSampleIntervalMicroseconds then history ++ [point]
        else history.dropLast ++ [point]
      next.rtake chartHistoryCapacity

def samplesFromSnapshot (snapshot : TelemetrySnapshotResponse) :
    Dict String SignalSampleResponse :=
  snapshot.signals.foldl (fun samples sample => samples.set (signalKeyId sample.key) sample) .empty

def historiesFromSnapshot (snapshot : TelemetrySnapshotResponse) : Dict String (List ChartPoint) :=
  snapshot.signals.foldl
    (fun histories sample =>
      match sample.value with
      | .number value =>
        histories.set (signalKeyId sample.key) [⟨sample.timestampMicroseconds, value⟩]
      | .boolean _ => histories)
    .empty

def ignoredFrame (sequence latest : ℕ) : String :=
  "Ignored frame sequence " ++ toString sequence ++ "; latest is " ++ toString latest ++ "."

def streamGap (expected received : ℕ) : String :=
  "Stream gap: expected frame " ++ toString expected ++ ", received " ++ toString received ++ "."

/-- The loop of `applyUpdate` over the signals of an accepted update. -/
def appendHistories (histories : Dict String (List ChartPoint))
    (signals : List SignalSampleResponse) : Dict String (List ChartPoint) :=
  signals.foldl
    (fun histories sample =>
      histories.set (signalKeyId sample.key)
        (appendChartPoint ((histories.get? (signalKeyId sample.key)).getD []) sample))
    histories

/-- `frames_by_message` with the update's message counted once more. -/
def countFrame (counts : List MessageFrameCountResponse) (update : TelemetryUpdateEventResponse) :
    List MessageFrameCountResponse :=
  match counts.findIdx? (·.arbitrationId = update.arbitrationId) with
  | some index => counts.modify index (fun count => { count with frames := count.frames + 1 })
  | none =>
    counts ++ [⟨update.arbitrationId, update.arbitrationIdHex, update.messageName, 1⟩]

def gapWarning (state : TelemetryClientState) (update : TelemetryUpdateEventResponse) :
    Option String :=
  match state.lastFrameSequence with
  | none => state.streamWarning
  | some latest =>
    if update.frameSequence ≠ latest + 1 then some (streamGap (latest + 1) update.frameSequence)
    else state.streamWarning

/-- `applyUpdate` of an update that is not ignored. -/
def acceptUpdate (state : TelemetryClientState) (update : TelemetryUpdateEventResponse) :
    TelemetryClientState :=
  { state with
    samples := update.signals.foldl
      (fun samples sample => samples.set (signalKeyId sample.key) sample) state.samples
    histories := appendHistories state.histories update.signals
    observationTimestampMicroseconds := some update.timestampMicroseconds
    lastFrameSequence := some update.frameSequence
    statistics := {
      totalFrames := max (state.statistics.totalFrames + 1) (update.frameSequence + 1)
      totalSignalUpdates := state.statistics.totalSignalUpdates + update.signals.length
      latestTimestampMicroseconds := some update.timestampMicroseconds
      lastFrameSequence := some update.frameSequence
      framesByMessage := countFrame state.statistics.framesByMessage update }
    streamWarning := gapWarning state update
    initialized := true }

def applyUpdate (state : TelemetryClientState) (update : TelemetryUpdateEventResponse) :
    TelemetryClientState :=
  match state.lastFrameSequence with
  | none => acceptUpdate state update
  | some latest =>
    if update.frameSequence ≤ latest then
      { state with streamWarning := some (ignoredFrame update.frameSequence latest) }
    else acceptUpdate state update

def telemetryReducer (state : TelemetryClientState) : TelemetryAction → TelemetryClientState
  | .connection connectionState error =>
    { state with connectionState, clientError := error.getD state.clientError }
  | .catalog catalog => { state with catalog }
  | .status serviceState lastError => { state with serviceState, serviceError := lastError }
  | .source source => { state with source }
  | .initialSnapshot snapshot =>
    { state with
      samples := samplesFromSnapshot snapshot
      histories := historiesFromSnapshot snapshot
      observationTimestampMicroseconds := snapshot.observationTimestampMicroseconds
      lastFrameSequence := snapshot.lastFrameSequence
      statistics := snapshot.statistics
      streamWarning := none
      initialized := true }
  | .updates updates => updates.foldl applyUpdate state
  | .serviceState serviceState error =>
    { state with
      serviceState
      serviceError := error
      source :=
        if serviceState = .completed ∨ serviceState = .failed then
          { state.source with recording := false }
        else state.source }
  | .clientError error => { state with clientError := some error }

end TunerOs
