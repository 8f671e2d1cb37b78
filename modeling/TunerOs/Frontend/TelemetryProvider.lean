-- SUMMARY: The browser's telemetry provider: its socket handlers, its queue of updates and its two requests.
import TunerOs.Frontend.TelemetryState

/-!
# Telemetry provider

The references `TelemetryProvider` keeps next to the reducer's state, and what each of
its callbacks does. The socket and the retry timer themselves belong to the connection.
-/

namespace TunerOs

/-- A parsed event of the telemetry WebSocket. -/
inductive TelemetrySocketEvent where
  | initialSnapshot (snapshot : TelemetrySnapshotResponse)
  | telemetryUpdate (update : TelemetryUpdateEventResponse)
  | serviceState (state : TelemetryServiceState) (error : Option String)
deriving DecidableEq

structure TelemetryProvider where
  state : TelemetryClientState
  pendingUpdates : List TelemetryUpdateEventResponse
  /-- Whether an animation frame is requested. -/
  animationFrame : Bool
  /-- `terminalState` of the socket effect that is running. -/
  terminalState : Bool
deriving DecidableEq

/-- `completed` and `failed` stop the reconnecting. -/
def TelemetryServiceState.terminal (state : TelemetryServiceState) : Bool :=
  state = .completed ∨ state = .failed

namespace TelemetryProvider

def dispatch (provider : TelemetryProvider) (action : TelemetryAction) : TelemetryProvider :=
  { provider with state := telemetryReducer provider.state action }

/-- `flushUpdates`. -/
def flushUpdates (provider : TelemetryProvider) : TelemetryProvider :=
  if provider.pendingUpdates = [] then { provider with animationFrame := false }
  else
    dispatch { provider with pendingUpdates := [], animationFrame := false }
      (.updates provider.pendingUpdates)

/-- `queueUpdate`. -/
def queueUpdate (provider : TelemetryProvider) (update : TelemetryUpdateEventResponse) :
    TelemetryProvider :=
  { provider with
    pendingUpdates := provider.pendingUpdates ++ [update]
    animationFrame := true }

/-- The callback of a requested animation frame. -/
def runAnimationFrame (provider : TelemetryProvider) : TelemetryProvider :=
  if provider.animationFrame then
    dispatch { provider with pendingUpdates := [], animationFrame := false }
      (.updates provider.pendingUpdates)
  else provider

/-- `connect`, where it creates a socket. -/
def connect (provider : TelemetryProvider) : TelemetryProvider :=
  provider.dispatch (.connection .connecting (some none))

/-- The provider after its first render. -/
def mounted : TelemetryProvider := connect ⟨initialTelemetryState, [], false, false⟩

def onOpen (provider : TelemetryProvider) : TelemetryProvider :=
  provider.dispatch (.connection .connected (some none))

def onMessage (provider : TelemetryProvider) : TelemetrySocketEvent → TelemetryProvider
  | .initialSnapshot snapshot =>
    dispatch { provider with terminalState := false } (.initialSnapshot snapshot)
  | .telemetryUpdate update => provider.queueUpdate update
  | .serviceState state error =>
    dispatch { provider.flushUpdates with terminalState := state.terminal }
      (.serviceState state error)

def onError (provider : TelemetryProvider) : TelemetryProvider :=
  provider.dispatch (.connection .error (some (some "Live telemetry connection failed")))

def onClose (provider : TelemetryProvider) : TelemetryProvider :=
  provider.flushUpdates.dispatch (.connection .disconnected
    (some (if provider.terminalState then none
      else some "Live telemetry disconnected; reconnecting")))

/-- The answers to the requests made on mounting. -/
def onAnswers (provider : TelemetryProvider) (state : TelemetryServiceState)
    (lastError : Option String) (catalog : List SignalDefinition) (source : TelemetrySource) :
    TelemetryProvider :=
  ((provider.dispatch (.status state lastError)).dispatch (.catalog catalog)).dispatch
    (.source source)

/-- `replaySession`, once the replay was accepted: the socket effect is cleaned up and runs again. -/
def onReplay (provider : TelemetryProvider) (sessionId : String) (sessionName : Option String) :
    TelemetryProvider :=
  connect { (provider.dispatch (.source ⟨.replay, some sessionId, sessionName, false, 0⟩)).flushUpdates with
    terminalState := false }

/-- `replaySession`, once the replay was refused. -/
def onReplayError (provider : TelemetryProvider) (message : String) : TelemetryProvider :=
  provider.dispatch (.clientError message)

end TelemetryProvider

/-! ## What sets the service state -/

@[simp] theorem serviceState_acceptUpdate (state : TelemetryClientState)
    (update : TelemetryUpdateEventResponse) :
    (acceptUpdate state update).serviceState = state.serviceState := rfl

@[simp] theorem serviceState_applyUpdate (state : TelemetryClientState)
    (update : TelemetryUpdateEventResponse) :
    (applyUpdate state update).serviceState = state.serviceState := by
  unfold applyUpdate
  split
  · rfl
  · split <;> rfl

@[simp] theorem serviceState_updates (state : TelemetryClientState)
    (updates : List TelemetryUpdateEventResponse) :
    (telemetryReducer state (.updates updates)).serviceState = state.serviceState := by
  change (updates.foldl applyUpdate state).serviceState = state.serviceState
  induction updates generalizing state with
  | nil => rfl
  | cons update rest ih => rw [List.foldl_cons, ih, serviceState_applyUpdate]

namespace TelemetryProvider

/-- The state the provider shows. -/
def serviceState (provider : TelemetryProvider) : TelemetryServiceState := provider.state.serviceState

@[simp] theorem serviceState_flushUpdates (provider : TelemetryProvider) :
    provider.flushUpdates.serviceState = provider.serviceState := by
  unfold flushUpdates
  split
  · rfl
  · exact serviceState_updates _ _

@[simp] theorem terminalState_flushUpdates (provider : TelemetryProvider) :
    provider.flushUpdates.terminalState = provider.terminalState := by
  unfold flushUpdates
  split <;> rfl

@[simp] theorem serviceState_runAnimationFrame (provider : TelemetryProvider) :
    provider.runAnimationFrame.serviceState = provider.serviceState := by
  unfold runAnimationFrame
  split
  · exact serviceState_updates _ _
  · rfl

@[simp] theorem terminalState_runAnimationFrame (provider : TelemetryProvider) :
    provider.runAnimationFrame.terminalState = provider.terminalState := by
  unfold runAnimationFrame
  split <;> rfl

@[simp] theorem serviceState_onClose (provider : TelemetryProvider) :
    provider.onClose.serviceState = provider.serviceState :=
  serviceState_flushUpdates provider

@[simp] theorem terminalState_onClose (provider : TelemetryProvider) :
    provider.onClose.terminalState = provider.terminalState :=
  terminalState_flushUpdates provider

@[simp] theorem serviceState_onReplay (provider : TelemetryProvider) (sessionId : String)
    (sessionName : Option String) :
    (provider.onReplay sessionId sessionName).serviceState = provider.serviceState :=
  serviceState_flushUpdates _

end TelemetryProvider

end TunerOs
