-- SUMMARY: Which runs of a client and the backend leave the client with the backend's service state once nothing is in flight.
import TunerOs.Frontend.TelemetryConnection
import TunerOs.Telemetry.Transitions

/-!
# The service state a client shows

Two messages carry the service state: the answer of the status request, once, and the
events of the WebSocket. The answer can be old when it arrives, and the initial
snapshot carries no state, so a transition between the answer and a subscription, such
as that of a replay the client starts, is sent to nobody.
-/

namespace TunerOs

open Transition
open TelemetryService (ServiceLabel)

/-! ## States under way -/

/-- The states among the messages on the wire, in order. -/
def statesOn (wire : List TelemetrySocketEvent) : List TelemetryServiceState :=
  wire.filterMap (fun event =>
    match event with
    | .serviceState state _ => some state
    | _ => none)

/-- The states among the events of a subscription, in order. -/
def statesIn (queue : List TelemetryServiceEvent) : List TelemetryServiceState :=
  queue.filterMap (fun event =>
    match event with
    | .serviceState update => some update.state
    | .update _ => none)

/-- The states up to the first that ends the handler. -/
def upToClosing : List TelemetryServiceState → List TelemetryServiceState
  | [] => []
  | state :: rest => if state.closes then [state] else state :: upToClosing rest

/-- The states the client will be sent or has been sent, and has not received. -/
def underway : TelemetryConnection → List TelemetryServiceState
  | .streaming queue wire => statesOn wire ++ upToClosing (statesIn queue)
  | .ending wire => statesOn wire
  | _ => []

theorem statesOn_append (wire later : List TelemetrySocketEvent) :
    statesOn (wire ++ later) = statesOn wire ++ statesOn later :=
  List.filterMap_append

theorem statesIn_append (queue later : List TelemetryServiceEvent) :
    statesIn (queue ++ later) = statesIn queue ++ statesIn later :=
  List.filterMap_append

theorem statesIn_updates (updates : List TelemetryUpdate) :
    statesIn (updates.map .update) = [] := by
  rw [statesIn, List.filterMap_map, List.filterMap_eq_nil_iff]
  exact fun _ _ => rfl

/-- States behind one that ends the handler are not sent. -/
theorem upToClosing_append_of_closing {states : List TelemetryServiceState}
    (h : ∃ state ∈ states, state.closes = true) (later : List TelemetryServiceState) :
    upToClosing (states ++ later) = upToClosing states := by
  induction states with
  | nil =>
    obtain ⟨_, hmem, -⟩ := h
    cases hmem
  | cons state rest ih =>
    rw [List.cons_append, upToClosing, upToClosing]
    split
    · rfl
    · rename_i hopen
      obtain ⟨closing, hmem, hcloses⟩ := h
      rcases List.mem_cons.1 hmem with rfl | hrest
      · exact absurd hcloses hopen
      · rw [ih ⟨closing, hrest, hcloses⟩]

theorem upToClosing_append_of_open {states : List TelemetryServiceState}
    (h : ∀ state ∈ states, state.closes = false) (later : List TelemetryServiceState) :
    upToClosing (states ++ later) = states ++ upToClosing later := by
  induction states with
  | nil => rfl
  | cons state rest ih =>
    have hopen := h state List.mem_cons_self
    rw [List.cons_append, upToClosing, hopen, if_neg Bool.false_ne_true,
      ih (fun other hmem => h other (List.mem_cons_of_mem _ hmem)), List.cons_append]

theorem upToClosing_singleton (state : TelemetryServiceState) : upToClosing [state] = [state] := by
  rw [upToClosing]
  split <;> rfl

/-- Sending takes the first event of the queue to the end of the wire. -/
theorem underway_sendNext (event : TelemetryServiceEvent) (queue : List TelemetryServiceEvent)
    (wire : List TelemetrySocketEvent) :
    underway (TelemetrySystem.sendNext event queue wire) =
      underway (.streaming (event :: queue) wire) := by
  cases event with
  | update update =>
    change statesOn (wire ++ [_]) ++ upToClosing (statesIn queue) = _
    rw [statesOn_append]
    exact congrArg (· ++ upToClosing (statesIn queue)) (List.append_nil _)
  | serviceState update =>
    by_cases hcloses : update.state.closes = true
    · have hsent : TelemetrySystem.sendNext (.serviceState update) queue wire =
          .ending (wire ++ [.serviceState update.state update.error]) := if_pos hcloses
      have hqueued : upToClosing (statesIn (.serviceState update :: queue)) = [update.state] :=
        if_pos hcloses
      rw [hsent, underway, underway, hqueued, statesOn_append]
      rfl
    · have hsent : TelemetrySystem.sendNext (.serviceState update) queue wire =
          .streaming queue (wire ++ [.serviceState update.state update.error]) := if_neg hcloses
      have hqueued : upToClosing (statesIn (.serviceState update :: queue)) =
          update.state :: upToClosing (statesIn queue) := if_neg hcloses
      rw [hsent, underway, underway, hqueued, statesOn_append, List.append_assoc]
      rfl

namespace TelemetrySystem

/-! ## Being up to date -/

/-- The client will open a connection before it receives another state. -/
def Reconnects (s : TelemetrySystem) : Prop :=
  match s.connection with
  | .opening | .waiting => True
  | .ending wire => statesOn wire = [] ∧ s.provider.terminalState = false
  | .streaming _ _ | .ended => False

/-- Nothing is under way, and the next handler starts with the state, because it is terminal. -/
def WillBeTold (s : TelemetrySystem) : Prop :=
  underway s.connection = [] ∧ s.service.state.terminal = true ∧ s.Reconnects

/-- What the client shows when it has received everything under way. -/
def shownInTheEnd (s : TelemetrySystem) : TelemetryServiceState :=
  (underway s.connection).getLastD s.provider.serviceState

/-- What the client shows when it has received everything is the backend's state. -/
def UpToDate (s : TelemetrySystem) : Prop :=
  s.shownInTheEnd = s.service.state ∨ s.WillBeTold

/-! ## The condition -/

/-- The client's connection passes a transition on, or its next handler tells it the new state, or
the client shows that state in any case. -/
def Tells (s : TelemetrySystem) (state : TelemetryServiceState) : Prop :=
  (∃ queue wire, s.connection = .streaming queue wire ∧
      ∀ queued ∈ statesIn queue, queued.closes = false) ∨
    (underway s.connection = [] ∧ state.terminal = true ∧ s.Reconnects) ∨
    s.shownInTheEnd = state

/-- The step does not lose a state: an answer is delivered while it is current or something newer is
under way, transitions after it are told, and no connection is lost with a state under way unless
it only repeats what the client shows without it or the next connection tells it. -/
def Conveys (s : TelemetrySystem) : TelemetrySystemLabel → Prop
  | .deliverAnswers _ _ => ∀ state lastError, s.answer = .answered state lastError →
      (underway s.connection).getLastD state = s.service.state ∨ s.WillBeTold
  | .service label => s.answer = .delivered →
      ∀ service, s.service.step label = some service → service.state ≠ s.service.state →
        s.Tells service.state
  | .handleReplay reader => s.answer = .delivered →
      ∀ sessionId sessionName service, s.replay = .posted sessionId → reader = .ok sessionName →
        s.service.startReplay sessionId sessionName true = .ok service → s.Tells service.state
  | .disconnect => s.answer = .delivered → ∀ queue wire, s.connection = .streaming queue wire →
      s.shownInTheEnd = (statesOn wire).getLastD s.provider.serviceState ∨
        (statesOn wire = [] ∧ s.service.state.terminal = true ∧ s.provider.terminalState = false)
  | .drop => s.answer = .delivered → s.shownInTheEnd = s.provider.serviceState ∨
      (s.service.state.terminal = true ∧ s.provider.terminalState = false)
  | .answerReplay => s.answer = .delivered →
      ∀ sessionId sessionName, s.replay = .accepted sessionId sessionName →
        s.shownInTheEnd = s.provider.serviceState ∨ s.service.state.terminal = true
  | _ => True

/-! ## The invariant -/

structure Informed (s : TelemetrySystem) : Prop where
  subscribed : ∀ queue wire, s.connection = .streaming queue wire → s.service.subscriberCount ≠ 0
  retries : s.connection = .opening ∨ s.connection = .waiting → s.provider.terminalState = false
  upToDate : s.answer = .delivered → s.UpToDate

theorem informed_mounted (service : TelemetryService) : (mounted service).Informed where
  subscribed := nofun
  retries := fun _ => rfl
  upToDate := nofun

/-! ## Steps -/

section Step

variable {s s' : TelemetrySystem}

/-- A callback that leaves the service state and the terminal flag alone. -/
theorem Informed.silent (h : s.Informed) {provider : TelemetryProvider}
    (hshown : provider.serviceState = s.provider.serviceState)
    (hterminal : provider.terminalState = s.provider.terminalState) :
    Informed { s with provider } where
  subscribed := h.subscribed
  retries := fun hconnection => hterminal.trans (h.retries hconnection)
  upToDate := by
    intro hdelivered
    rcases h.upToDate hdelivered with hstate | ⟨hnothing, hstate, hreconnects⟩
    · refine Or.inl ?_
      unfold shownInTheEnd at hstate ⊢
      simp only [hshown]
      exact hstate
    · refine Or.inr ⟨hnothing, hstate, ?_⟩
      unfold Reconnects at hreconnects ⊢
      simp only [hterminal]
      exact hreconnects

/-- What the service does while the client is not subscribed. -/
theorem Informed.serviceApart (h : s.Informed) {service : TelemetryService}
    (happart : ∀ queue wire, s.connection ≠ .streaming queue wire)
    (hconveys : s.answer = .delivered → service.state ≠ s.service.state → s.Tells service.state) :
    Informed { s with service } where
  subscribed := fun queue wire hconnection => absurd hconnection (happart queue wire)
  retries := h.retries
  upToDate := by
    intro hdelivered
    by_cases hsame : service.state = s.service.state
    · have hstate := h.upToDate hdelivered
      unfold UpToDate WillBeTold at hstate ⊢
      simp only [hsame]
      exact hstate
    · rcases hconveys hdelivered hsame with ⟨queue, wire, hconnection, -⟩ | htold | hshown
      · exact absurd hconnection (happart queue wire)
      · exact Or.inr htold
      · exact Or.inl hshown

/-- What the service does while the client is subscribed reaches the queue. -/
theorem Informed.serviceStreaming (h : s.Informed) {queue : List TelemetryServiceEvent}
    {wire : List TelemetrySocketEvent} (hconnection : s.connection = .streaming queue wire)
    {service : TelemetryService} (hmove : s.service.StateMove service)
    (hconveys : s.answer = .delivered → service.state ≠ s.service.state → s.Tells service.state) :
    Informed { s with
      service
      connection := .streaming
        (queue ++ service.published.drop s.service.published.length) wire } := by
  have hcount := h.subscribed queue wire hconnection
  -- While it streams, a client that has its answer is told the state by what is under way.
  have hlast : s.answer = .delivered →
      (statesOn wire ++ upToClosing (statesIn queue)).getLastD s.provider.serviceState =
        s.service.state := by
    intro hdelivered
    rcases h.upToDate hdelivered with hstate | ⟨-, -, hreconnects⟩
    · rw [shownInTheEnd, hconnection] at hstate
      exact hstate
    · unfold Reconnects at hreconnects
      rw [hconnection] at hreconnects
      cases hreconnects
  cases hmove with
  | keep updates hstate hpublished hsubscribers =>
    have hkept : service.subscriberCount ≠ 0 := by omega
    refine ⟨fun _ _ _ => hkept, nofun, fun hdelivered => Or.inl ?_⟩
    simp only [shownInTheEnd, underway, hpublished, List.drop_left, statesIn_append,
      statesIn_updates, List.append_nil, hstate]
    exact hlast hdelivered
  | transition error hpublished hsubscribers =>
    have hkept : service.subscriberCount ≠ 0 := by omega
    refine ⟨fun _ _ _ => hkept, nofun, fun hdelivered => Or.inl ?_⟩
    have hadded : statesIn [.serviceState ⟨service.state, error⟩] = [service.state] := rfl
    simp only [shownInTheEnd, underway, hpublished, List.drop_left, statesIn_append, hadded]
    by_cases hopen : ∀ state ∈ statesIn queue, state.closes = false
    · rw [upToClosing_append_of_open hopen, upToClosing_singleton, ← List.append_assoc,
        List.getLastD_concat]
    · -- The handler ends before it gets to the event, so the event must not be a new state.
      push Not at hopen
      obtain ⟨closing, hmem, hcloses⟩ := hopen
      have hclosing : closing.closes = true := Bool.eq_true_of_not_eq_false hcloses
      rw [upToClosing_append_of_closing ⟨closing, hmem, hclosing⟩, hlast hdelivered]
      by_contra hchanged
      rcases hconveys hdelivered (Ne.symm hchanged) with
        ⟨queue', wire', hsame, hpasses⟩ | ⟨-, -, hreconnects⟩ | hshown
      · rw [hconnection] at hsame
        cases hsame
        exact hcloses (hpasses closing hmem)
      · unfold Reconnects at hreconnects
        rw [hconnection] at hreconnects
        cases hreconnects
      · rw [shownInTheEnd, hconnection] at hshown
        exact hchanged ((hlast hdelivered).symm.trans hshown)

theorem Informed.service (h : s.Informed) {label : ServiceLabel}
    (hstep : s.step (.service label) = some s') (hconveys : s.Conveys (.service label)) :
    s'.Informed := by
  -- Whatever the label, the service takes one step and the connection is forwarded what it sends.
  have hserve : ∃ service, s.service.step label = some service ∧ s' = { s with
      service
      connection :=
        forward s.connection (service.published.drop s.service.published.length) } := by
    have hserved : s.serviceStep label = some s' := by
      cases label with
      | unsubscribe =>
        simp only [step] at hstep
        split at hstep
        · cases hstep
        · exact hstep
      | _ => exact hstep
    unfold serviceStep at hserved
    split at hserved
    · cases hserved
    · rename_i service hservice
      cases hserved
      exact ⟨service, hservice, rfl⟩
  obtain ⟨service, hservice, rfl⟩ := hserve
  have htells : s.answer = .delivered → service.state ≠ s.service.state → s.Tells service.state :=
    fun hdelivered hchanged => hconveys hdelivered service hservice hchanged
  by_cases hstreaming : ∃ queue wire, s.connection = .streaming queue wire
  · obtain ⟨queue, wire, hconnection⟩ := hstreaming
    have hcount := h.subscribed queue wire hconnection
    by_cases hlabel : label = .unsubscribe
    · subst hlabel
      have hown : 1 < s.service.subscriberCount := by
        simp only [step, hconnection, ownSubscriptions] at hstep
        split at hstep
        · cases hstep
        · omega
      have hleft : s.service.subscriberCount - 1 ≠ 0 := by omega
      simp only [TelemetryService.step, if_neg hcount, Option.some.injEq] at hservice
      subst hservice
      simp only [hconnection, forward, List.drop_length, List.append_nil]
      refine ⟨fun _ _ _ => hleft, (by rintro (hlost | hlost) <;> cases hlost), ?_⟩
      intro hdelivered
      rw [← hconnection]
      exact h.upToDate hdelivered
    · have hmove := TelemetryService.step_stateMove hservice hcount hlabel
      rw [hconnection]
      exact h.serviceStreaming hconnection hmove htells
  · have happart : ∀ queue wire, s.connection ≠ .streaming queue wire :=
      fun queue wire hconnection => hstreaming ⟨queue, wire, hconnection⟩
    have hforward : ∀ published, forward s.connection published = s.connection := by
      intro published
      cases hconnection : s.connection with
      | streaming queue wire => exact absurd hconnection (happart queue wire)
      | opening | ending _ | waiting | ended => rfl
    rw [hforward]
    exact h.serviceApart happart htells

/-- What the handler starts with. -/
theorem acceptConnection_cases (service : TelemetryService) :
    (acceptConnection service).2.state = service.state ∧
      (acceptConnection service).2.subscriberCount ≠ 0 ∧
      ((acceptConnection service).1 = .ending [] ∨
        (∃ initial error, (acceptConnection service).1 =
          .ending [.initialSnapshot initial, .serviceState service.state error]) ∨
        (service.state.terminal = false ∧ ∃ initial, (acceptConnection service).1 =
          .streaming [] [.initialSnapshot initial])) := by
  obtain ⟨hstate, -, hcount⟩ := service.subscribe_keeps_state
  have hsubscribed : service.subscribe.2.subscriberCount ≠ 0 := by omega
  have hstatus : ∀ snapshot status, service.subscribe.1 = .ok (snapshot, status) →
      status.state = service.state := by
    intro snapshot status hok
    unfold TelemetryService.subscribe at hok
    split at hok <;> cases hok
    rfl
  unfold acceptConnection
  split
  · rename_i heq
    rw [heq] at hstate hsubscribed
    exact ⟨hstate, hsubscribed, Or.inl rfl⟩
  · rename_i snapshot status subscribed heq
    have htold := hstatus snapshot status (by rw [heq])
    rw [heq] at hstate hsubscribed
    split
    · exact ⟨hstate, hsubscribed, Or.inl rfl⟩
    · rename_i initial _
      rw [htold]
      split
      · exact ⟨hstate, hsubscribed, Or.inr (Or.inl ⟨initial, _, rfl⟩)⟩
      · rename_i hrunning
        exact ⟨hstate, hsubscribed, Or.inr (Or.inr ⟨Bool.eq_false_of_not_eq_true hrunning,
          initial, rfl⟩)⟩

theorem Informed.accept (h : s.Informed) (hstep : s.step .accept = some s') : s'.Informed := by
  simp only [step] at hstep
  split at hstep
  · rename_i hconnection
    cases hstep
    have hretries := h.retries (Or.inl hconnection)
    obtain ⟨hstate, hcount, hstart⟩ := acceptConnection_cases s.service
    have hbefore : s.answer = .delivered → s.provider.serviceState = s.service.state ∨
        s.service.state.terminal = true := by
      intro hdelivered
      rcases h.upToDate hdelivered with hshown | ⟨-, hterminal, -⟩
      · rw [shownInTheEnd, hconnection] at hshown
        exact Or.inl hshown
      · exact Or.inr hterminal
    refine ⟨fun _ _ _ => hcount, ?_, ?_⟩
    · intro hopening
      rcases hstart with hempty | ⟨initial, error, htold⟩ | ⟨-, initial, hstreaming⟩
      · rw [hempty] at hopening
        rcases hopening with hopening | hopening <;> cases hopening
      · rw [htold] at hopening
        rcases hopening with hopening | hopening <;> cases hopening
      · rw [hstreaming] at hopening
        rcases hopening with hopening | hopening <;> cases hopening
    · intro hdelivered
      unfold UpToDate shownInTheEnd WillBeTold Reconnects
      simp only [hstate]
      rcases hstart with hempty | ⟨initial, error, htold⟩ | ⟨hrunning, initial, hstreaming⟩
      · rw [hempty]
        rcases hbefore hdelivered with hshown | hterminal
        · exact Or.inl hshown
        · exact Or.inr ⟨rfl, hterminal, rfl, hretries⟩
      · rw [htold]
        exact Or.inl rfl
      · rw [hstreaming]
        rcases hbefore hdelivered with hshown | hterminal
        · exact Or.inl hshown
        · rw [hrunning] at hterminal
          cases hterminal
  · cases hstep

theorem Informed.send (h : s.Informed) (hstep : s.step .send = some s') : s'.Informed := by
  simp only [step] at hstep
  split at hstep
  · rename_i event queue wire hconnection
    cases hstep
    have hcount := h.subscribed _ _ hconnection
    have hrunning : sendNext event queue wire ≠ .opening ∧ sendNext event queue wire ≠ .waiting := by
      unfold sendNext
      split
      · exact ⟨nofun, nofun⟩
      · split <;> exact ⟨nofun, nofun⟩
    refine ⟨fun _ _ _ => hcount, fun hretry => absurd hretry (not_or.2 hrunning), ?_⟩
    intro hdelivered
    refine Or.inl ?_
    rw [shownInTheEnd, underway_sendNext, ← hconnection]
    rcases h.upToDate hdelivered with hshown | ⟨-, -, hreconnects⟩
    · exact hshown
    · unfold Reconnects at hreconnects
      rw [hconnection] at hreconnects
      cases hreconnects
  · cases hstep

/-- Receiving a message does not change what the client shows in the end. -/
theorem getLastD_onMessage (provider : TelemetryProvider) (event : TelemetrySocketEvent)
    (wire : List TelemetrySocketEvent) (later : List TelemetryServiceState) :
    (statesOn wire ++ later).getLastD (provider.onMessage event).serviceState =
      (statesOn (event :: wire) ++ later).getLastD provider.serviceState := by
  cases event with
  | initialSnapshot snapshot => rfl
  | telemetryUpdate update => rfl
  | serviceState state error =>
    have hstates : statesOn (.serviceState state error :: wire) = state :: statesOn wire := rfl
    have hshown : (provider.onMessage (.serviceState state error)).serviceState = state := rfl
    rw [hstates, hshown, List.cons_append, List.getLastD_cons]

theorem Informed.receive (h : s.Informed) (hstep : s.step .receive = some s') : s'.Informed := by
  simp only [step] at hstep
  split at hstep
  · rename_i queue event wire hconnection
    cases hstep
    have hcount := h.subscribed _ _ hconnection
    refine ⟨fun _ _ _ => hcount, nofun, ?_⟩
    intro hdelivered
    refine Or.inl ?_
    rcases h.upToDate hdelivered with hshown | ⟨-, -, hreconnects⟩
    · rw [shownInTheEnd, hconnection] at hshown
      exact (getLastD_onMessage s.provider event wire _).trans hshown
    · unfold Reconnects at hreconnects
      rw [hconnection] at hreconnects
      cases hreconnects
  · rename_i event wire hconnection
    cases hstep
    refine ⟨nofun, nofun, ?_⟩
    intro hdelivered
    rcases h.upToDate hdelivered with hshown | ⟨hnothing, hterminal, hreconnects⟩
    · rw [shownInTheEnd, hconnection] at hshown
      have hreceived := getLastD_onMessage s.provider event wire []
      rw [List.append_nil, List.append_nil] at hreceived
      exact Or.inl (hreceived.trans hshown)
    · -- Nothing is under way, so the message is no state and leaves the terminal flag false.
      unfold Reconnects at hreconnects
      rw [hconnection] at hnothing hreconnects
      obtain ⟨-, hflag⟩ := hreconnects
      refine Or.inr ?_
      cases event with
      | initialSnapshot snapshot => exact ⟨hnothing, hterminal, hnothing, rfl⟩
      | telemetryUpdate update => exact ⟨hnothing, hterminal, hnothing, hflag⟩
      | serviceState state error => cases hnothing
  · cases hstep

/-- A client that reconnects has not seen a terminal state in the effect that is running. -/
theorem Informed.terminalState_of_reconnects (h : s.Informed) (hreconnects : s.Reconnects) :
    s.provider.terminalState = false := by
  unfold Reconnects at hreconnects
  split at hreconnects
  · rename_i hconnection
    exact h.retries (Or.inl hconnection)
  · rename_i hconnection
    exact h.retries (Or.inr hconnection)
  · exact hreconnects.2
  · cases hreconnects
  · cases hreconnects

/-- A socket that closes with nothing lost, or whose next handler tells what is lost. -/
theorem Informed.close (h : s.Informed)
    (hlost : s.answer = .delivered → s.shownInTheEnd = s.provider.serviceState ∨
      (s.service.state.terminal = true ∧ s.provider.terminalState = false)) :
    Informed { s with
      connection := closedConnection s.provider
      provider := s.provider.onClose } := by
  have hclosed : closedConnection s.provider =
      if s.provider.terminalState then .ended else .waiting := rfl
  have hnothing : underway (closedConnection s.provider) = [] := by
    rw [hclosed]
    split <;> rfl
  refine ⟨?_, ?_, ?_⟩
  · intro queue wire hstreaming
    rw [hclosed] at hstreaming
    split at hstreaming <;> cases hstreaming
  · intro hretry
    rw [TelemetryProvider.terminalState_onClose]
    rw [hclosed] at hretry
    split at hretry
    · rcases hretry with hretry | hretry <;> cases hretry
    · rename_i hrunning
      exact Bool.eq_false_of_not_eq_true hrunning
  · intro hdelivered
    have hretells : s.service.state.terminal = true → s.provider.terminalState = false →
        UpToDate { s with
          connection := closedConnection s.provider
          provider := s.provider.onClose } := by
      intro hterminal hretry
      refine Or.inr ⟨hnothing, hterminal, ?_⟩
      have hwaiting : closedConnection s.provider = .waiting := by
        rw [hclosed, hretry]
        rfl
      unfold Reconnects
      simp only [hwaiting]
    rcases hlost hdelivered with hrepeats | ⟨hterminal, hretry⟩
    · rcases h.upToDate hdelivered with hshown | ⟨-, hterminal, hreconnects⟩
      · rw [hrepeats] at hshown
        refine Or.inl ?_
        simp only [shownInTheEnd, hnothing, TelemetryProvider.serviceState_onClose]
        exact hshown
      · exact hretells hterminal (h.terminalState_of_reconnects hreconnects)
    · exact hretells hterminal hretry

theorem Informed.disconnect (h : s.Informed) (hstep : s.step .disconnect = some s')
    (hconveys : s.Conveys .disconnect) : s'.Informed := by
  simp only [step] at hstep
  split at hstep
  · rename_i queue wire hconnection
    cases hstep
    refine ⟨nofun, nofun, ?_⟩
    intro hdelivered
    rcases hconveys hdelivered queue wire hconnection with hrepeats | ⟨hwire, hterminal, hflag⟩
    · rcases h.upToDate hdelivered with hshown | ⟨-, -, hreconnects⟩
      · exact Or.inl (hrepeats.symm.trans hshown)
      · unfold Reconnects at hreconnects
        rw [hconnection] at hreconnects
        cases hreconnects
    · exact Or.inr ⟨hwire, hterminal, hwire, hflag⟩
  · cases hstep

theorem Informed.retry (h : s.Informed) (hstep : s.step .retry = some s') : s'.Informed := by
  simp only [step] at hstep
  split at hstep
  · rename_i hconnection
    cases hstep
    refine ⟨nofun, fun _ => h.retries (Or.inr hconnection), ?_⟩
    intro hdelivered
    rcases h.upToDate hdelivered with hshown | ⟨-, hterminal, -⟩
    · rw [shownInTheEnd, hconnection] at hshown
      exact Or.inl hshown
    · exact Or.inr ⟨rfl, hterminal, trivial⟩
  · cases hstep

theorem Informed.deliverAnswers (h : s.Informed) {catalog : List SignalDefinition}
    {source : TelemetrySource} (hstep : s.step (.deliverAnswers catalog source) = some s')
    (hconveys : s.Conveys (.deliverAnswers catalog source)) : s'.Informed := by
  simp only [step] at hstep
  split at hstep
  · rename_i state lastError hanswer
    cases hstep
    exact ⟨h.subscribed, h.retries, fun _ => hconveys state lastError hanswer⟩
  · cases hstep

theorem Informed.handleReplay (h : s.Informed) {reader : Except PyException (Option String)}
    (hstep : s.step (.handleReplay reader) = some s') (hconveys : s.Conveys (.handleReplay reader)) :
    s'.Informed := by
  simp only [step] at hstep
  split at hstep
  · rename_i sessionId hposted
    split at hstep
    · cases hstep
      exact ⟨h.subscribed, h.retries, h.upToDate⟩
    · rename_i sessionName
      split at hstep
      · cases hstep
        exact ⟨h.subscribed, h.retries, h.upToDate⟩
      · rename_i service hstarted
        cases hstep
        have happart : ∀ queue wire, s.connection ≠ .streaming queue wire := by
          intro queue wire hconnection
          exact h.subscribed queue wire hconnection
            (TelemetryService.startReplay_running hstarted).1
        have hkept := h.serviceApart happart (fun hdelivered _ =>
          hconveys hdelivered sessionId sessionName service hposted rfl hstarted)
        exact ⟨hkept.subscribed, hkept.retries, hkept.upToDate⟩
  · cases hstep

theorem Informed.answerReplay (h : s.Informed) (hstep : s.step .answerReplay = some s')
    (hconveys : s.Conveys .answerReplay) : s'.Informed := by
  simp only [step] at hstep
  split at hstep
  · rename_i sessionId sessionName haccepted
    cases hstep
    refine ⟨nofun, fun _ => rfl, ?_⟩
    intro hdelivered
    have hretells : s.service.state.terminal = true → UpToDate { s with
        replay := .idle
        connection := .opening
        provider := s.provider.onReplay sessionId sessionName } :=
      fun hterminal => Or.inr ⟨rfl, hterminal, trivial⟩
    rcases hconveys hdelivered sessionId sessionName haccepted with hrepeats | hterminal
    · rcases h.upToDate hdelivered with hshown | ⟨-, hterminal, -⟩
      · rw [hrepeats] at hshown
        refine Or.inl ?_
        simp only [shownInTheEnd, TelemetryProvider.serviceState_onReplay]
        exact hshown
      · exact hretells hterminal
    · exact hretells hterminal
  · rename_i message _
    cases hstep
    have hkept : Informed { s with provider := s.provider.onReplayError message } := h.silent rfl rfl
    exact ⟨hkept.subscribed, hkept.retries, hkept.upToDate⟩
  · cases hstep

/-- A step that conveys what it must keeps the client informed. -/
theorem Informed.step (h : s.Informed) {label : TelemetrySystemLabel}
    (hstep : s.step label = some s') (hconveys : s.Conveys label) : s'.Informed := by
  cases label with
  | service label => exact h.service hstep hconveys
  | deliverAnswers catalog source => exact h.deliverAnswers hstep hconveys
  | accept => exact h.accept hstep
  | send => exact h.send hstep
  | disconnect => exact h.disconnect hstep hconveys
  | receive => exact h.receive hstep
  | retry => exact h.retry hstep
  | handleReplay reader => exact h.handleReplay hstep hconveys
  | answerReplay => exact h.answerReplay hstep hconveys
  | closed =>
    simp only [TelemetrySystem.step] at hstep
    split at hstep
    · rename_i hconnection
      cases hstep
      exact h.close (fun _ => Or.inl (by rw [shownInTheEnd, hconnection]; rfl))
    · cases hstep
  | drop =>
    simp only [TelemetrySystem.step] at hstep
    split at hstep <;> cases hstep <;> exact h.close hconveys
  | handleStatus =>
    simp only [TelemetrySystem.step] at hstep
    split at hstep <;> cases hstep
    exact ⟨h.subscribed, h.retries, nofun⟩
  | postReplay sessionId =>
    simp only [TelemetrySystem.step] at hstep
    split at hstep <;> cases hstep
    exact ⟨h.subscribed, h.retries, h.upToDate⟩
  | opened | socketError =>
    simp only [TelemetrySystem.step] at hstep
    split at hstep <;> cases hstep <;> exact h.silent rfl rfl
  | animationFrame =>
    cases hstep
    exact h.silent (TelemetryProvider.serviceState_runAnimationFrame _)
      (TelemetryProvider.terminalState_runAnimationFrame _)

end Step

/-! ## Runs -/

/-- A client that is informed shows the backend's state once nothing is in flight. -/
theorem Informed.agrees {s : TelemetrySystem} (h : s.Informed) (hquiet : s.Quiescent) :
    s.provider.state.serviceState = s.service.state := by
  obtain ⟨hdelivered, -, hconnection⟩ := hquiet
  rcases h.upToDate hdelivered with hshown | ⟨-, -, hreconnects⟩
  · rcases hconnection with hstreaming | hended
    · rw [shownInTheEnd, hstreaming] at hshown
      exact hshown
    · rw [shownInTheEnd, hended] at hshown
      exact hshown
  · unfold Reconnects at hreconnects
    rcases hconnection with hstreaming | hended
    · rw [hstreaming] at hreconnects
      cases hreconnects
    · rw [hended] at hreconnects
      cases hreconnects

/-- Every step of the run conveys what it must. -/
def ConveyingRun (service : TelemetryService) (labels : List TelemetrySystemLabel) : Prop :=
  ∀ before label after s, labels = before ++ label :: after →
    run step (mounted service) before = some s → s.Conveys label

/-- In a run whose steps all convey what they must, the client shows the backend's state whenever
nothing is in flight. -/
theorem client_shows_service_state (service : TelemetryService)
    (labels : List TelemetrySystemLabel) (s : TelemetrySystem)
    (hrun : run step (mounted service) labels = some s) (hconveys : ConveyingRun service labels)
    (hquiet : s.Quiescent) : s.provider.state.serviceState = s.service.state :=
  (run_invariant (fun _ _ _ h hconveying hstep => Informed.step h hstep hconveying) hrun hconveys
    (informed_mounted service)).agrees hquiet

/-! ## Runs of one client -/

/-- The packaged service after these steps. -/
def serviceAfter (labels : List ServiceLabel) : TelemetryService :=
  let service := TelemetryService.create (.packaged DbcMessage.intelDecode)
  (run TelemetryService.step service labels).getD service

def connectingLabels : List ServiceLabel := [.start, .worker 0 (.connect (.ok ()))]

/-- The gateway closes the stream before it sends a frame. -/
def completingLabels : List ServiceLabel :=
  [.worker 0 (.next (.ok none)), .worker 0 (.finalize (.ok ())), .worker 0 .complete,
    .worker 0 (.close (.ok ())), .worker 0 .release]

/-- The source that a client is told of before its first connection. -/
def liveSource : TelemetrySource := ⟨.live, none, none, false, 0⟩

/-- Nothing is in flight, and the client shows one state while the backend is in another. -/
def Shows (shown current : TelemetryServiceState) (s : TelemetrySystem) : Prop :=
  s.Quiescent ∧ s.provider.serviceState = shown ∧ s.service.state = current

instance (shown current : TelemetryServiceState) (s : TelemetrySystem) :
    Decidable (s.Shows shown current) :=
  inferInstanceAs (Decidable (_ ∧ _ ∧ _))

/-- The run of a client that has just mounted ends with nothing in flight and these two states. -/
def Ends (service : TelemetryService) (labels : List TelemetrySystemLabel)
    (shown current : TelemetryServiceState) : Bool :=
  (run step (mounted service) labels).any (fun s => decide (s.Shows shown current))

theorem exists_of_ends {service : TelemetryService} {labels : List TelemetrySystemLabel}
    {shown current : TelemetryServiceState} (h : Ends service labels shown current = true) :
    ∃ s, run step (mounted service) labels = some s ∧ s.Shows shown current := by
  obtain ⟨s, hrun, hshows⟩ := (Option.any_eq_true _ _).1 h
  exact ⟨s, hrun, of_decide_eq_true hshows⟩

/-- The client is answered and connects before the source starts. -/
def promptLabels : List TelemetrySystemLabel :=
  [.handleStatus, .deliverAnswers [] liveSource, .accept, .receive, .service (.worker 0 .enter),
    .send, .receive]

theorem prompt_run_conveys : ConveyingRun (serviceAfter connectingLabels) promptLabels := by
  intro before label after s hsplit hbefore
  rcases before with _ | ⟨_, _ | ⟨_, _ | ⟨_, _ | ⟨_, _ | ⟨_, _ | ⟨_, _ | ⟨_, rest⟩⟩⟩⟩⟩⟩⟩
  · cases hsplit
    trivial
  · -- The answer is delivered before the service moves on.
    cases hsplit
    have hanswered : s = { mounted (serviceAfter connectingLabels) with
        answer := .answered (serviceAfter connectingLabels).state
          (serviceAfter connectingLabels).lastError } :=
      Option.some.inj (hbefore.symm.trans rfl)
    subst hanswered
    intro state lastError hstate
    cases hstate
    exact Or.inl rfl
  · cases hsplit
    trivial
  · cases hsplit
    trivial
  · cases hsplit
    have hsubscribed : ((run step (mounted (serviceAfter connectingLabels))
        [.handleStatus, .deliverAnswers [] liveSource, .accept, .receive]).all
          (fun s => decide (s.connection = .streaming [] []))) = true := by decide +kernel
    rw [hbefore] at hsubscribed
    intro _ _ _ _
    exact Or.inl ⟨[], [], of_decide_eq_true hsubscribed, nofun⟩
  · cases hsplit
    trivial
  · cases hsplit
    trivial
  · simp [promptLabels] at hsplit

/-- A client that is answered at once, and subscribed during the transition. -/
theorem prompt_client_shows_running :
    ∃ s, run step (mounted (serviceAfter connectingLabels)) promptLabels = some s ∧
      s.provider.state.serviceState = s.service.state := by
  obtain ⟨s, hrun, hquiet, -⟩ := exists_of_ends
    (show Ends (serviceAfter connectingLabels) promptLabels .running .running = true by decide +kernel)
  exact ⟨s, hrun, client_shows_service_state (serviceAfter connectingLabels) promptLabels s hrun
    prompt_run_conveys hquiet⟩

/-- The source completes between the handling of the status request and its delivery. -/
def lateLabels : List TelemetrySystemLabel :=
  [.handleStatus, .accept, .receive] ++ completingLabels.map .service ++
    [.send, .receive, .closed, .deliverAnswers [] liveSource]

/-- The source starts between the handling of the status request and the subscription. -/
def earlyLabels : List TelemetrySystemLabel :=
  [.handleStatus, .service (.worker 0 .enter), .accept, .receive, .deliverAnswers [] liveSource]

/-- The client is told that the source completed, and starts a replay. -/
def replayLabels : List TelemetrySystemLabel :=
  [.handleStatus, .deliverAnswers [] liveSource, .accept, .receive, .receive, .closed,
    .service .unsubscribe, .postReplay "session", .handleReplay (.ok none), .answerReplay, .accept,
    .receive]

/-- A late answer, a state between the answer and the subscription, and a replay each leave the client
with a state that the backend has left. -/
theorem clients_are_misled :
    (∃ s, run step (mounted (serviceAfter (connectingLabels ++ [.worker 0 .enter]))) lateLabels =
        some s ∧ s.Shows .running .completed) ∧
      (∃ s, run step (mounted (serviceAfter connectingLabels)) earlyLabels = some s ∧
        s.Shows .connecting .running) ∧
      ∃ s, run step (mounted (serviceAfter
          (connectingLabels ++ .worker 0 .enter :: completingLabels))) replayLabels = some s ∧
        s.Shows .completed .running := by
  refine ⟨?_, ?_, ?_⟩
  · exact exists_of_ends (by decide +kernel)
  · exact exists_of_ends (by decide +kernel)
  · exact exists_of_ends (by decide +kernel)

end TelemetrySystem

end TunerOs
