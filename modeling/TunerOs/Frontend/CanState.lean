-- SUMMARY: The browser's CAN explorer: the reducer over snapshots and frame events, and the provider that batches them.
import TunerOs.Api.CanSerialization

/-!
# The browser's CAN explorer

`canExplorerReducer` keeps a bounded list of frames, the statistics of each ID under
its decimal text, and the global statistics. `CanExplorerProvider` queues frame
events and dispatches the queue once an animation frame, or before a source state.
The queue is bounded as well; it drops its oldest events.
-/

namespace TunerOs

open Containers

def canClientBufferCapacity : ℕ := 1000

inductive CanConnectionState where
  | connecting
  | connected
  | disconnected
  | error
deriving DecidableEq, Repr

structure CanExplorerClientState where
  connectionState : CanConnectionState
  serviceState : TelemetryServiceState
  source : TelemetrySource
  currentFrames : List CanExplorerFrameResponse
  displayedFrames : List CanExplorerFrameResponse
  messages : Dict String CanMessageStatisticsResponse
  statistics : CanExplorerStatisticsResponse
  frozen : Bool
  framesPassedWhileFrozen : ℤ
  streamWarning : Option String
  error : Option String
  initialized : Bool
deriving DecidableEq

def emptySource : TelemetrySource := ⟨.live, none, none, false, 0⟩

def initialCanExplorerState : CanExplorerClientState where
  connectionState := .connecting
  serviceState := .stopped
  source := emptySource
  currentFrames := []
  displayedFrames := []
  messages := .empty
  statistics := ⟨0, 0, 0, none, none, none, emptySource⟩
  frozen := false
  framesPassedWhileFrozen := 0
  streamWarning := none
  error := none
  initialized := false

inductive CanExplorerAction where
  /-- `error` is `none` when the action does not carry one. -/
  | connection (state : CanConnectionState) (error : Option (Option String))
  | initial (event : InitialCanSnapshotEvent)
  | frames (events : List CanFrameEvent)
  | sourceState (state : TelemetryServiceState) (source : TelemetrySource) (error : Option String)
  | toggleFreeze
  | clientError (error : String)

def appendBounded (frames : List CanExplorerFrameResponse) (frame : CanExplorerFrameResponse) :
    List CanExplorerFrameResponse :=
  (frames ++ [frame]).rtake canClientBufferCapacity

def ignoredRawSequence (sequence latest : ℕ) : String :=
  "Ignored raw sequence " ++ toString sequence ++ "; latest is " ++ toString latest ++ "."

def rawStreamGap (expected received : ℕ) : String :=
  "Raw stream gap: expected " ++ toString expected ++ ", received " ++ toString received ++ "."

def rawGapWarning (state : CanExplorerClientState) (event : CanFrameEvent) : Option String :=
  match state.statistics.lastSequence with
  | none => state.streamWarning
  | some latest =>
    if event.frame.sequence ≠ latest + 1 then
      some (rawStreamGap (latest + 1) event.frame.sequence)
    else state.streamWarning

/-- How far an event moves the stream on. -/
def rawAdvance (state : CanExplorerClientState) (event : CanFrameEvent) : ℤ :=
  match state.statistics.lastSequence with
  | none => 1
  | some latest => (event.frame.sequence : ℤ) - latest

/-- `applyFrame` of an event that is not ignored. -/
def acceptFrame (state : CanExplorerClientState) (event : CanFrameEvent) :
    CanExplorerClientState :=
  { state with
    currentFrames := appendBounded state.currentFrames event.frame
    displayedFrames :=
      if state.frozen then state.displayedFrames
      else appendBounded state.currentFrames event.frame
    messages := state.messages.set (toString event.messageStatistics.arbitrationId)
      event.messageStatistics
    statistics := event.statistics
    source := event.statistics.source
    framesPassedWhileFrozen :=
      if state.frozen then state.framesPassedWhileFrozen + rawAdvance state event else 0
    streamWarning := rawGapWarning state event
    initialized := true }

def applyFrame (state : CanExplorerClientState) (event : CanFrameEvent) :
    CanExplorerClientState :=
  match state.statistics.lastSequence with
  | none => acceptFrame state event
  | some latest =>
    if event.frame.sequence ≤ latest then
      { state with streamWarning := some (ignoredRawSequence event.frame.sequence latest) }
    else acceptFrame state event

/-- `Object.fromEntries`, keyed by `String(message.arbitration_id)`. -/
def messagesFromSnapshot (messages : List CanMessageStatisticsResponse) :
    Dict String CanMessageStatisticsResponse :=
  messages.foldl (fun entries message => entries.set (toString message.arbitrationId) message)
    .empty

/-- `last_sequence ?? -1`. -/
def sequenceOrBefore (lastSequence : Option ℕ) : ℤ :=
  match lastSequence with
  | none => -1
  | some sequence => sequence

def canExplorerReducer (state : CanExplorerClientState) :
    CanExplorerAction → CanExplorerClientState
  | .connection connectionState error =>
    { state with connectionState, error := error.getD state.error }
  | .initial event =>
    let frames := event.frames.rtake canClientBufferCapacity
    { state with
      serviceState := event.serviceState
      source := event.statistics.source
      currentFrames := frames
      displayedFrames := if state.frozen then state.displayedFrames else frames
      messages := messagesFromSnapshot event.messages
      statistics := event.statistics
      framesPassedWhileFrozen :=
        if state.frozen then
          max 0 (sequenceOrBefore event.statistics.lastSequence -
            sequenceOrBefore state.statistics.lastSequence)
        else 0
      streamWarning := none
      initialized := true }
  | .frames events => events.foldl applyFrame state
  | .sourceState serviceState source error => { state with serviceState, source, error }
  | .toggleFreeze =>
    if state.frozen then
      { state with
        frozen := false
        displayedFrames := state.currentFrames
        framesPassedWhileFrozen := 0 }
    else { state with frozen := true }
  | .clientError error => { state with error := some error }

/-! ## The provider -/

/-- The provider's references next to the reducer's state. -/
structure CanExplorerProvider where
  state : CanExplorerClientState
  pending : List CanFrameEvent
  /-- Whether an animation frame is requested. -/
  animationFrame : Bool
  terminal : Bool

/-- What happens to a mounted provider. -/
inductive CanProviderEvent where
  | opened
  | initialSnapshot (event : InitialCanSnapshotEvent)
  | canFrame (event : CanFrameEvent)
  | sourceState (state : TelemetryServiceState) (source : TelemetrySource) (error : Option String)
  | malformed (error : String)
  | animationFrame
  | socketError
  | closed
  | toggleFreeze

namespace CanExplorerProvider

def dispatch (provider : CanExplorerProvider) (action : CanExplorerAction) :
    CanExplorerProvider :=
  { provider with state := canExplorerReducer provider.state action }

/-- The provider once the socket is created. -/
def mounted : CanExplorerProvider :=
  dispatch ⟨initialCanExplorerState, [], false, false⟩ (.connection .connecting (some none))

def flush (provider : CanExplorerProvider) : CanExplorerProvider :=
  if provider.pending = [] then { provider with animationFrame := false }
  else
    dispatch { provider with pending := [], animationFrame := false } (.frames provider.pending)

def queue (provider : CanExplorerProvider) (event : CanFrameEvent) : CanExplorerProvider :=
  { provider with
    pending := (provider.pending ++ [event]).rtake canClientBufferCapacity
    animationFrame := true }

def isTerminal (state : TelemetryServiceState) : Bool :=
  state = .completed ∨ state = .failed ∨ state = .stopped

def step (provider : CanExplorerProvider) : CanProviderEvent → CanExplorerProvider
  | .opened => provider.dispatch (.connection .connected (some none))
  | .initialSnapshot event => dispatch { provider with pending := [] } (.initial event)
  | .canFrame event => provider.queue event
  | .sourceState state source error =>
    dispatch { provider.flush with terminal := isTerminal state } (.sourceState state source error)
  | .malformed error => provider.dispatch (.clientError error)
  | .animationFrame =>
    -- The callback of a requested animation frame; no other runs.
    if provider.animationFrame then
      dispatch { provider with pending := [], animationFrame := false } (.frames provider.pending)
    else provider
  | .socketError => provider.dispatch (.connection .error (some (some "Raw CAN connection failed")))
  | .closed =>
    provider.flush.dispatch (.connection .disconnected
      (some (if provider.terminal then none else some "Raw CAN connection closed")))
  | .toggleFreeze => provider.dispatch .toggleFreeze

def steps (provider : CanExplorerProvider) (events : List CanProviderEvent) :
    CanExplorerProvider :=
  events.foldl step provider

end CanExplorerProvider

end TunerOs
