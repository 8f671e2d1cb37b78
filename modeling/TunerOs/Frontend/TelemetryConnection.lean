-- SUMMARY: One browser client and the backend: the mount-time requests, the telemetry WebSocket with its handler, and a replay the client starts.
import TunerOs.Frontend.TelemetryProvider
import TunerOs.Telemetry.Service

/-!
# Client and backend

A label is a step of the backend, of the WebSocket handler, or of the browser. The
mount-time requests are answered together, so their status answer waits for the two
others, whose contents are part of the label that delivers it. A message the handler
has sent is on the wire until the browser receives it.

A handler that ends without its client, or a client that goes away, leaves a subscription
that the backend removes later.
-/

namespace TunerOs

open TelemetryService (ServiceLabel)

/-- The state of the mount-time requests: the status is not read yet, was read, or is delivered. -/
inductive StatusAnswer where
  | requested
  | answered (state : TelemetryServiceState) (lastError : Option String)
  | delivered
deriving DecidableEq

/-- `completed`, `failed` and `stopped` end a handler. -/
def TelemetryServiceState.closes (state : TelemetryServiceState) : Bool :=
  state = .completed ∨ state = .failed ∨ state = .stopped

inductive TelemetryConnection where
  /-- A socket was created; its handler has not subscribed. -/
  | opening
  /-- The handler forwards the events of its subscription. -/
  | streaming (queue : List TelemetryServiceEvent) (wire : List TelemetrySocketEvent)
  /-- The handler has ended. -/
  | ending (wire : List TelemetrySocketEvent)
  /-- The socket is closed and the retry timer runs. -/
  | waiting
  /-- The socket is closed for good. -/
  | ended
deriving DecidableEq

/-- The request behind `replaySession`. -/
inductive ReplayRequest where
  | idle
  | posted (sessionId : String)
  | accepted (sessionId : String) (sessionName : Option String)
  | refused (message : String)
deriving DecidableEq

structure TelemetrySystem where
  service : TelemetryService
  answer : StatusAnswer
  replay : ReplayRequest
  connection : TelemetryConnection
  provider : TelemetryProvider

inductive TelemetrySystemLabel where
  /-- Any step of the service that is not made for this client. -/
  | service (label : ServiceLabel)
  /-- `GET /status` is handled. -/
  | handleStatus
  /-- `Promise.all` of the mount-time requests resolves. -/
  | deliverAnswers (catalog : List SignalDefinition) (source : TelemetrySource)
  | opened
  /-- The handler subscribes and sends what it starts with. -/
  | accept
  /-- The handler forwards an event. -/
  | send
  /-- The handler ends early: it is too slow, or it raises. -/
  | disconnect
  | receive
  /-- The browser has received everything and sees that the handler has ended. -/
  | closed
  /-- The connection breaks. -/
  | drop
  | socketError
  /-- The retry timer fires. -/
  | retry
  | animationFrame
  | postReplay (sessionId : String)
  /-- `POST /sessions/{session_id}/replay` is handled; `reader` is the name of the session, or what
  opening it raises. -/
  | handleReplay (reader : Except PyException (Option String))
  | answerReplay

/-- The text of a request that gets the HTTP status. -/
def requestFailed (status : ℕ) : String := "Telemetry request failed (" ++ toString status ++ ")"

/-- The HTTP status of an exception in `replay_session`. -/
def replayStatus (error : PyException) : ℕ :=
  match error.cls with
  | .keyError => 404
  | .sessionFormatError | .sessionVersionError | .sessionIntegrityError
  | .sessionDbcMismatchError | .sessionRecordingError | .runtimeError => 409
  | _ => 500

namespace TelemetrySystem

/-- The subscriptions of the service that belong to the connection. -/
def ownSubscriptions : TelemetryConnection → ℕ
  | .streaming _ _ => 1
  | _ => 0

/-- A connection gets what the service published in a step. -/
def forward (connection : TelemetryConnection) (published : List TelemetryServiceEvent) :
    TelemetryConnection :=
  match connection with
  | .streaming queue wire => .streaming (queue ++ published) wire
  | other => other

/-- A step of the service, seen by the connection. -/
def serviceStep (s : TelemetrySystem) (label : ServiceLabel) : Option TelemetrySystem :=
  match s.service.step label with
  | none => none
  | some service =>
    some { s with
      service := service
      connection := forward s.connection (service.published.drop s.service.published.length) }

def socketEvent : TelemetryServiceEvent → TelemetrySocketEvent
  | .update update => .telemetryUpdate (serializeUpdate update)
  | .serviceState update => .serviceState update.state update.error

/-- `telemetry_websocket` up to its loop. -/
def acceptConnection (service : TelemetryService) : TelemetryConnection × TelemetryService :=
  match service.subscribe with
  | (.error _, service) => (.ending [], service)
  | (.ok (snapshot, status), service) =>
    match serializeSnapshot service.pipeline.telemetry.catalog snapshot with
    | .error _ => (.ending [], service)
    | .ok initial =>
      if status.state.terminal then
        (.ending [.initialSnapshot initial, .serviceState status.state status.lastError], service)
      else (.streaming [] [.initialSnapshot initial], service)

/-- One round of the loop of `telemetry_websocket`. -/
def sendNext (event : TelemetryServiceEvent) (queue : List TelemetryServiceEvent)
    (wire : List TelemetrySocketEvent) : TelemetryConnection :=
  match event with
  | .update _ => .streaming queue (wire ++ [socketEvent event])
  | .serviceState update =>
    if update.state.closes then .ending (wire ++ [socketEvent event])
    else .streaming queue (wire ++ [socketEvent event])

/-- What a socket that closes leaves. -/
def closedConnection (provider : TelemetryProvider) : TelemetryConnection :=
  if provider.terminalState then .ended else .waiting

def step (s : TelemetrySystem) : TelemetrySystemLabel → Option TelemetrySystem
  | .service .unsubscribe =>
    -- This client's own subscription is not removed while its handler runs.
    if s.service.subscriberCount ≤ ownSubscriptions s.connection then none
    else s.serviceStep .unsubscribe
  | .service label => s.serviceStep label
  | .handleStatus =>
    match s.answer with
    | .requested => some { s with answer := .answered s.service.state s.service.lastError }
    | _ => none
  | .deliverAnswers catalog source =>
    match s.answer with
    | .answered state lastError =>
      some { s with
        answer := .delivered
        provider := s.provider.onAnswers state lastError catalog source }
    | _ => none
  | .opened =>
    match s.connection with
    | .streaming _ _ | .ending _ => some { s with provider := s.provider.onOpen }
    | _ => none
  | .accept =>
    match s.connection with
    | .opening =>
      let (connection, service) := acceptConnection s.service
      some { s with service, connection }
    | _ => none
  | .send =>
    match s.connection with
    | .streaming (event :: queue) wire => some { s with connection := sendNext event queue wire }
    | _ => none
  | .disconnect =>
    match s.connection with
    | .streaming _ wire => some { s with connection := .ending wire }
    | _ => none
  | .receive =>
    match s.connection with
    | .streaming queue (event :: wire) =>
      some { s with connection := .streaming queue wire, provider := s.provider.onMessage event }
    | .ending (event :: wire) =>
      some { s with connection := .ending wire, provider := s.provider.onMessage event }
    | _ => none
  | .closed =>
    match s.connection with
    | .ending [] =>
      some { s with
        connection := closedConnection s.provider
        provider := s.provider.onClose }
    | _ => none
  | .drop =>
    match s.connection with
    | .opening | .streaming _ _ | .ending _ =>
      some { s with
        connection := closedConnection s.provider
        provider := s.provider.onClose }
    | _ => none
  | .socketError =>
    match s.connection with
    | .opening | .streaming _ _ | .ending _ => some { s with provider := s.provider.onError }
    | _ => none
  | .retry =>
    match s.connection with
    | .waiting => some { s with connection := .opening, provider := s.provider.connect }
    | _ => none
  | .animationFrame => some { s with provider := s.provider.runAnimationFrame }
  | .postReplay sessionId =>
    match s.replay with
    | .idle => some { s with replay := .posted sessionId }
    | _ => none
  | .handleReplay reader =>
    match s.replay with
    | .posted sessionId =>
      match reader with
      | .error error => some { s with replay := .refused (requestFailed (replayStatus error)) }
      | .ok sessionName =>
        match s.service.startReplay sessionId sessionName true with
        | .error error => some { s with replay := .refused (requestFailed (replayStatus error)) }
        | .ok service => some { s with service, replay := .accepted sessionId sessionName }
    | _ => none
  | .answerReplay =>
    match s.replay with
    | .accepted sessionId sessionName =>
      some { s with
        replay := .idle
        connection := .opening
        provider := s.provider.onReplay sessionId sessionName }
    | .refused message =>
      some { s with replay := .idle, provider := s.provider.onReplayError message }
    | _ => none

/-- A client that has just mounted. -/
def mounted (service : TelemetryService) : TelemetrySystem where
  service := service
  answer := .requested
  replay := .idle
  connection := .opening
  provider := .mounted

/-- Every request is answered, and a connection that is open has nothing left to deliver. -/
def Quiescent (s : TelemetrySystem) : Prop :=
  s.answer = .delivered ∧ s.replay = .idle ∧
    (s.connection = .streaming [] [] ∨ s.connection = .ended)

instance (s : TelemetrySystem) : Decidable s.Quiescent :=
  inferInstanceAs (Decidable (_ ∧ _ ∧ (_ ∨ _)))

end TelemetrySystem

end TunerOs
