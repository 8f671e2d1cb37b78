-- SUMMARY: The diagnostic engine: the DTC lifecycle of one rule, the ordered evaluation of a catalog, and the event log.
import TunerOs.Diagnostics.Catalog
import TunerOs.Lib.BoundedDeque
import Mathlib.Data.List.Sort
import Mathlib.Logic.Function.Basic

/-!
# Diagnostic engine

`RuleState` is the lifecycle of one rule. The handlers return the next state and
the events to append, in order; the engine numbers and appends them. Nothing the
handlers do reads the log, so appending at the end of a handler is appending
where the source does. A handler that raises keeps what it wrote before.
-/

namespace TunerOs

open Containers

def defaultDiagnosticEventCapacity : ℕ := 1024

/-- `_RuleState`. -/
structure RuleState where
  dtc : Option DiagnosticTroubleCode := none
  conditionStartedTimestampMicroseconds : Option ℕ := none
  recoveryStartedTimestampMicroseconds : Option ℕ := none
  pendingOrigin : Option DiagnosticStatus := none
  freezeFrame : Option DiagnosticFreezeFrame := none
deriving DecidableEq

/-- The status of the rule's record, `none` when it has no record. -/
def RuleState.status (state : RuleState) : Option DiagnosticStatus := state.dtc.map (·.status)

/-- An event before it is numbered: its type and the transition it reports. -/
structure EventRecord where
  eventType : DiagnosticEventType
  priorStatus : Option DiagnosticStatus
  newStatus : Option DiagnosticStatus
deriving DecidableEq

/-- What evaluating one rule did: the state it left, the events it appended, and the
exception that stopped it, if any. -/
structure RuleOutcome where
  state : RuleState
  emitted : List EventRecord := []
  raised : Option PyException := none

namespace DiagnosticRule

/-- `_pending_record`. -/
def pendingRecord (rule : DiagnosticRule) (existing : Option DiagnosticTroubleCode)
    (timestamp : ℕ) : DiagnosticTroubleCode :=
  match existing with
  | none =>
    { definition := rule.definition
      status := .pending
      firstDetectedTimestampMicroseconds := timestamp
      confirmedTimestampMicroseconds := none
      lastSeenTimestampMicroseconds := timestamp
      resolvedTimestampMicroseconds := none
      clearedTimestampMicroseconds := none
      occurrenceCount := 0
      freezeFrameAvailable := false }
  | some record =>
    { record with status := .pending, lastSeenTimestampMicroseconds := timestamp }

def freezeFrameSignal (sample : SignalSample) : FreezeFrameSignal where
  key := sample.key
  value := sample.value
  unit := sample.unit
  sourceEcu := sample.sourceEcu
  arbitrationId := sample.arbitrationId
  timestampMicroseconds := sample.timestampMicroseconds
  telemetryFrameSequence := sample.frameSequence

/-- `_capture_freeze_frame`: every observed sample, sorted by key. -/
def captureFreezeFrame (code : String) (snapshot : TelemetrySnapshot) (timestamp : ℕ) :
    Except PyException DiagnosticFreezeFrame :=
  match snapshot.lastFrameSequence with
  | none => .error ⟨.assertionError, "freeze frame requires a telemetry frame sequence"⟩
  | some sequence =>
    let sorted := snapshot.samples.entries.insertionSort (fun a b => SignalKey.le a.1 b.1)
    .ok ⟨code, timestamp, sequence, sorted.map (fun entry => freezeFrameSignal entry.2)⟩

/-- A pending record and since when its condition has held. -/
structure PendingEntry where
  started : ℕ
  record : DiagnosticTroubleCode
  origin : Option DiagnosticStatus
  emitted : List EventRecord

/-- The first half of `_handle_violation`: enter `PENDING`, or refresh a pending record. -/
def enterPending (rule : DiagnosticRule) (state : RuleState) (timestamp : ℕ) : PendingEntry :=
  match state.dtc with
  | some dtc =>
    if dtc.status = .pending then
      { started := state.conditionStartedTimestampMicroseconds.getD timestamp
        record := { dtc with lastSeenTimestampMicroseconds := timestamp }
        origin := state.pendingOrigin
        emitted := [] }
    else
      { started := timestamp
        record := rule.pendingRecord (some dtc) timestamp
        origin := some dtc.status
        emitted := [⟨.conditionDetected, some dtc.status, some .pending⟩] }
  | none =>
    { started := timestamp
      record := rule.pendingRecord none timestamp
      origin := none
      emitted := [⟨.conditionDetected, none, some .pending⟩] }

/-- The second half of `_handle_violation`, once the confirmation duration has passed. -/
def confirm (rule : DiagnosticRule) (state : RuleState) (entry : PendingEntry)
    (snapshot : TelemetrySnapshot) (timestamp : ℕ) : RuleOutcome :=
  let captured : Except PyException DiagnosticFreezeFrame :=
    match state.freezeFrame with
    | some frame => .ok frame
    | none => captureFreezeFrame rule.code snapshot timestamp
  match captured with
  | .error error =>
    { state := { state with
        dtc := some entry.record
        conditionStartedTimestampMicroseconds := some entry.started
        pendingOrigin := entry.origin }
      emitted := entry.emitted
      raised := some error }
  | .ok frame =>
    { state := { state with
        dtc := some { entry.record with
          status := .active
          confirmedTimestampMicroseconds := some timestamp
          lastSeenTimestampMicroseconds := timestamp
          resolvedTimestampMicroseconds := none
          clearedTimestampMicroseconds := none
          occurrenceCount := entry.record.occurrenceCount + 1
          freezeFrameAvailable := true }
        conditionStartedTimestampMicroseconds := none
        pendingOrigin := none
        freezeFrame := some frame }
      emitted := entry.emitted ++ [⟨.dtcConfirmed, some .pending, some .active⟩] }

/-- `_handle_violation`. -/
def handleViolation (rule : DiagnosticRule) (state : RuleState) (snapshot : TelemetrySnapshot)
    (timestamp : ℕ) : RuleOutcome :=
  if state.status = some .active then
    { state := { state with
        dtc := state.dtc.map (fun dtc => { dtc with lastSeenTimestampMicroseconds := timestamp }) } }
  else
    let entry := rule.enterPending state timestamp
    if entry.started + rule.definition.confirmationDurationMicroseconds ≤ timestamp then
      rule.confirm state entry snapshot timestamp
    else
      { state := { state with
          dtc := some entry.record
          conditionStartedTimestampMicroseconds := some entry.started
          pendingOrigin := entry.origin }
        emitted := entry.emitted }

/-- The record a cancelled pending condition returns to: its origin status, or no record. -/
def restoreOrigin (dtc : DiagnosticTroubleCode) (origin : Option DiagnosticStatus) :
    Option DiagnosticTroubleCode :=
  origin.map (fun status => { dtc with status := status })

/-- `_handle_normal`. -/
def handleNormal (rule : DiagnosticRule) (state : RuleState) (timestamp : ℕ) : RuleOutcome :=
  let state := { state with conditionStartedTimestampMicroseconds := none }
  match state.dtc with
  | none => { state }
  | some dtc =>
    match dtc.status with
    | .pending =>
      { state := { state with
          dtc := restoreOrigin dtc state.pendingOrigin
          pendingOrigin := none }
        emitted := [⟨.conditionCleared, some .pending, state.pendingOrigin⟩] }
    | .active =>
      let started := state.recoveryStartedTimestampMicroseconds.getD timestamp
      if started + rule.definition.recoveryDurationMicroseconds ≤ timestamp then
        { state := { state with
            dtc := some { dtc with
              status := .historical
              resolvedTimestampMicroseconds := some timestamp }
            recoveryStartedTimestampMicroseconds := none }
          emitted := [⟨.dtcRecovered, some .active, some .historical⟩] }
      else
        { state := { state with recoveryStartedTimestampMicroseconds := some started } }
    | _ => { state := { state with recoveryStartedTimestampMicroseconds := none } }

/-- `_inputs_are_fresh`. -/
def inputsAreFresh (rule : DiagnosticRule) (snapshot : TelemetrySnapshot) : Bool :=
  rule.definition.requiredSignals.all (fun key =>
    (snapshot.samples.get? key).isSome && snapshot.freshness.get? key = some .fresh)

/-- `_evaluate_rule`. -/
def evaluate (rule : DiagnosticRule) (state : RuleState) (snapshot : TelemetrySnapshot)
    (timestamp : ℕ) : RuleOutcome :=
  if !rule.inputsAreFresh snapshot then
    { state := { state with
        conditionStartedTimestampMicroseconds := none
        recoveryStartedTimestampMicroseconds := none } }
  else
    let active := state.status = some .active
    match rule.condition snapshot active with
    | .error error => { state, raised := some error }
    | .ok .violation =>
      rule.handleViolation { state with recoveryStartedTimestampMicroseconds := none }
        snapshot timestamp
    | .ok .normal => rule.handleNormal state timestamp

end DiagnosticRule

/-- `DiagnosticEngine`. `states` is indexed by code; only the catalog's codes are read. -/
structure DiagnosticEngine where
  catalog : DiagnosticCatalog
  states : String → RuleState
  eventLog : BoundedDeque DiagnosticEvent
  nextEventSequence : ℕ
  observationTimestampMicroseconds : Option ℕ
  latestTelemetryFrameSequence : Option ℕ

namespace DiagnosticEngine

/-- The engine `reset` leaves behind; it depends on the constructor's arguments only. -/
def fresh (catalog : DiagnosticCatalog) (eventCapacity : ℕ) : DiagnosticEngine where
  catalog := catalog
  states := fun _ => {}
  eventLog := .empty eventCapacity
  nextEventSequence := 0
  observationTimestampMicroseconds := none
  latestTelemetryFrameSequence := none

def eventCapacity (engine : DiagnosticEngine) : ℕ := engine.eventLog.maxlen

def reset (engine : DiagnosticEngine) : DiagnosticEngine :=
  fresh engine.catalog engine.eventCapacity

/-- `DiagnosticEngine(catalog, event_capacity)`. -/
def create (catalog : DiagnosticCatalog) (eventCapacity : ℕ) :
    Except PyException DiagnosticEngine :=
  if eventCapacity = 0 then .error ⟨.valueError, "diagnostic event capacity must be positive"⟩
  else .ok (fresh catalog eventCapacity)

/-- `_append_event`: number the event and append it to the bounded log. -/
def appendEvent (engine : DiagnosticEngine) (timestamp : ℕ) (code : String)
    (record : EventRecord) : DiagnosticEvent × DiagnosticEngine :=
  let event : DiagnosticEvent :=
    { sequence := engine.nextEventSequence
      timestampMicroseconds := timestamp
      code := code
      eventType := record.eventType
      priorStatus := record.priorStatus
      newStatus := record.newStatus }
  (event, { engine with
    nextEventSequence := engine.nextEventSequence + 1
    eventLog := engine.eventLog.append event })

/-- Append several events of one rule in order. -/
def appendEvents (timestamp : ℕ) (code : String) :
    List EventRecord → DiagnosticEngine → List DiagnosticEvent × DiagnosticEngine
  | [], engine => ([], engine)
  | record :: rest, engine =>
    let (event, engine) := engine.appendEvent timestamp code record
    let (events, engine) := appendEvents timestamp code rest engine
    (event :: events, engine)

/-- The state of `code` becomes `state`. -/
def setState (engine : DiagnosticEngine) (code : String) (state : RuleState) : DiagnosticEngine :=
  { engine with states := Function.update engine.states code state }

/-- `_evaluate_rule`: evaluate the rule on its own state, and append what it emitted. -/
def evaluateRule (snapshot : TelemetrySnapshot) (timestamp : ℕ) (rule : DiagnosticRule)
    (engine : DiagnosticEngine) : Except PyException (List DiagnosticEvent) × DiagnosticEngine :=
  let outcome := rule.evaluate (engine.states rule.code) snapshot timestamp
  let (events, engine) :=
    appendEvents timestamp rule.code outcome.emitted (engine.setState rule.code outcome.state)
  match outcome.raised with
  | some error => (.error error, engine)
  | none => (.ok events, engine)

/-- The loop of `ingest` over the catalog's rules. An exception ends it; the rules evaluated
before keep their new states and their events. -/
def evaluateRules (snapshot : TelemetrySnapshot) (timestamp : ℕ) :
    List DiagnosticRule → DiagnosticEngine →
      Except PyException (List DiagnosticEvent) × DiagnosticEngine
  | [], engine => (.ok [], engine)
  | rule :: rest, engine =>
    match evaluateRule snapshot timestamp rule engine with
    | (.error error, engine) => (.error error, engine)
    | (.ok events, engine) =>
      match evaluateRules snapshot timestamp rest engine with
      | (.error error, engine) => (.error error, engine)
      | (.ok later, engine) => (.ok (events ++ later), engine)

def movedBackward : PyException :=
  ⟨.valueError, "diagnostic snapshots cannot move backward in simulation time"⟩

/-- The observation timestamp of an earlier call when `timestamp` is before it. -/
def movesBackward (engine : DiagnosticEngine) (timestamp : ℕ) : Bool :=
  engine.observationTimestampMicroseconds.any (timestamp < ·)

def ingest (engine : DiagnosticEngine) (snapshot : TelemetrySnapshot) :
    Except PyException (List DiagnosticEvent) × DiagnosticEngine :=
  match snapshot.observationTimestampMicroseconds with
  | none => (.ok [], engine)
  | some timestamp =>
    if engine.movesBackward timestamp then (.error movedBackward, engine)
    else
      evaluateRules snapshot timestamp engine.catalog.rules
        { engine with
          observationTimestampMicroseconds := some timestamp
          latestTelemetryFrameSequence := snapshot.lastFrameSequence }

/-- The records of the catalog's rules, in rule order. -/
def records (engine : DiagnosticEngine) : List DiagnosticTroubleCode :=
  engine.catalog.rules.filterMap (fun rule => (engine.states rule.code).dtc)

def dtcs (engine : DiagnosticEngine) (status : Option DiagnosticStatus) :
    List DiagnosticTroubleCode :=
  match status with
  | none => engine.records
  | some status => engine.records.filter (·.status = status)

def dtc (engine : DiagnosticEngine) (code : String) :
    Except PyException (Option DiagnosticTroubleCode) := do
  let _ ← engine.catalog.require code
  return (engine.states code).dtc

def events (engine : DiagnosticEngine) (limit : Option ℕ) :
    Except PyException (List DiagnosticEvent) :=
  match limit with
  | none => .ok engine.eventLog.items
  | some limit =>
    if limit = 0 then .error ⟨.valueError, "diagnostic event limit must be positive"⟩
    else .ok (engine.eventLog.items.rtake limit)

def freezeFrame (engine : DiagnosticEngine) (code : String) :
    Except PyException (Option DiagnosticFreezeFrame) := do
  let _ ← engine.catalog.require code
  return (engine.states code).freezeFrame

def noRecord (code : String) : PyException :=
  ⟨.unknownDiagnosticCodeError, "diagnostic code '" ++ code ++ "' has no DTC record"⟩

def cannotClear (code : String) (status : DiagnosticStatus) : PyException :=
  ⟨.diagnosticClearError, code ++ " cannot be cleared while " ++ status.value⟩

/-- What `clear` returns, with the event it appended, which the source only logs. -/
structure ClearResult where
  dtc : DiagnosticTroubleCode
  appended : List DiagnosticEvent
  engine : DiagnosticEngine

def clear (engine : DiagnosticEngine) (code : String) : Except PyException ClearResult := do
  let _ ← engine.catalog.require code
  match (engine.states code).dtc with
  | none => .error (noRecord code)
  | some dtc =>
    match dtc.status with
    | .cleared => return ⟨dtc, [], engine⟩
    | .historical =>
      match engine.observationTimestampMicroseconds with
      | none =>
        .error ⟨.assertionError, "diagnostic record exists without an observation timestamp"⟩
      | some timestamp =>
        let cleared :=
          { dtc with
            status := .cleared
            clearedTimestampMicroseconds := some timestamp }
        let (event, engine) :=
          (engine.setState code { engine.states code with dtc := some cleared }).appendEvent
            timestamp code ⟨.dtcCleared, some .historical, some .cleared⟩
        return ⟨cleared, [event], engine⟩
    | status => .error (cannotClear code status)

/-- How many records have the status. -/
def count (engine : DiagnosticEngine) (status : DiagnosticStatus) : ℕ :=
  engine.records.countP (·.status = status)

def snapshot (engine : DiagnosticEngine) : DiagnosticSnapshot where
  observationTimestampMicroseconds := engine.observationTimestampMicroseconds
  latestTelemetryFrameSequence := engine.latestTelemetryFrameSequence
  dtcs := engine.dtcs none
  retainedEventCount := engine.eventLog.items.length
  totalEventCount := engine.nextEventSequence
  latestEventSequence :=
    if engine.nextEventSequence = 0 then none else some (engine.nextEventSequence - 1)
  pendingCount := engine.count .pending
  activeCount := engine.count .active
  historicalCount := engine.count .historical
  clearedCount := engine.count .cleared

/-! ## Appending events

The log and the sequence counter are all that appending changes. -/

section Append

variable (timestamp : ℕ) (code : String) (records : List EventRecord) (engine : DiagnosticEngine)

@[simp] theorem appendEvents_states :
    (appendEvents timestamp code records engine).2.states = engine.states := by
  induction records generalizing engine with
  | nil => rfl
  | cons record rest ih => exact ih _

@[simp] theorem appendEvents_catalog :
    (appendEvents timestamp code records engine).2.catalog = engine.catalog := by
  induction records generalizing engine with
  | nil => rfl
  | cons record rest ih => exact ih _

@[simp] theorem appendEvents_observation :
    (appendEvents timestamp code records engine).2.observationTimestampMicroseconds =
      engine.observationTimestampMicroseconds := by
  induction records generalizing engine with
  | nil => rfl
  | cons record rest ih => exact ih _

@[simp] theorem appendEvents_eventCapacity :
    (appendEvents timestamp code records engine).2.eventCapacity = engine.eventCapacity := by
  induction records generalizing engine with
  | nil => rfl
  | cons record rest ih => exact ih _

/-- An unnumbered event is its record. -/
def recordOf (event : DiagnosticEvent) : EventRecord :=
  ⟨event.eventType, event.priorStatus, event.newStatus⟩

theorem appendEvents_records :
    (appendEvents timestamp code records engine).1.map recordOf = records := by
  induction records generalizing engine with
  | nil => rfl
  | cons record rest ih =>
    simp only [appendEvents, List.map_cons, ih]
    rfl

theorem appendEvents_code_time :
    ∀ event ∈ (appendEvents timestamp code records engine).1,
      event.code = code ∧ event.timestampMicroseconds = timestamp := by
  induction records generalizing engine with
  | nil =>
    intro event hevent
    cases hevent
  | cons record rest ih =>
    intro event hevent
    rcases List.mem_cons.1 hevent with rfl | hrest
    · exact ⟨rfl, rfl⟩
    · exact ih _ event hrest

end Append

@[simp] theorem setState_states (engine : DiagnosticEngine) (code : String) (state : RuleState) :
    (engine.setState code state).states = Function.update engine.states code state := rfl

@[simp] theorem setState_catalog (engine : DiagnosticEngine) (code : String) (state : RuleState) :
    (engine.setState code state).catalog = engine.catalog := rfl

@[simp] theorem setState_observation (engine : DiagnosticEngine) (code : String)
    (state : RuleState) :
    (engine.setState code state).observationTimestampMicroseconds =
      engine.observationTimestampMicroseconds := rfl

/-- A rule evaluation that returns stored the rule's next state and appended its events. -/
theorem evaluateRule_ok {snapshot : TelemetrySnapshot} {timestamp : ℕ} {rule : DiagnosticRule}
    {engine engine' : DiagnosticEngine} {events : List DiagnosticEvent}
    (h : evaluateRule snapshot timestamp rule engine = (.ok events, engine')) :
    (rule.evaluate (engine.states rule.code) snapshot timestamp).raised = none ∧
    (events, engine') = appendEvents timestamp rule.code
      (rule.evaluate (engine.states rule.code) snapshot timestamp).emitted
      (engine.setState rule.code
        (rule.evaluate (engine.states rule.code) snapshot timestamp).state) := by
  unfold evaluateRule at h
  cases hraised : (rule.evaluate (engine.states rule.code) snapshot timestamp).raised with
  | some error => simp [hraised] at h
  | none =>
    simp only [hraised, Prod.mk.injEq, Except.ok.injEq] at h
    exact ⟨rfl, Prod.ext h.1.symm h.2.symm⟩

/-- A loop that returns evaluated every rule, each on the engine the rules before left. -/
theorem evaluateRules_cons_ok {snapshot : TelemetrySnapshot} {timestamp : ℕ}
    {rule : DiagnosticRule} {rest : List DiagnosticRule} {engine engine' : DiagnosticEngine}
    {events : List DiagnosticEvent}
    (h : evaluateRules snapshot timestamp (rule :: rest) engine = (.ok events, engine')) :
    ∃ first later between, evaluateRule snapshot timestamp rule engine = (.ok first, between) ∧
      evaluateRules snapshot timestamp rest between = (.ok later, engine') ∧
      events = first ++ later := by
  simp only [evaluateRules] at h
  split at h
  · cases h
  · rename_i first between hfirst
    split at h
    · cases h
    · rename_i later final hlater
      cases h
      exact ⟨first, later, between, hfirst, hlater, rfl⟩

/-- The engine on which `ingest` evaluates the rules. -/
def observe (engine : DiagnosticEngine) (snapshot : TelemetrySnapshot) (timestamp : ℕ) :
    DiagnosticEngine :=
  { engine with
    observationTimestampMicroseconds := some timestamp
    latestTelemetryFrameSequence := snapshot.lastFrameSequence }

/-- A call of `ingest` that returns either saw no observation or evaluated every rule. -/
theorem ingest_ok {engine engine' : DiagnosticEngine} {snapshot : TelemetrySnapshot}
    {events : List DiagnosticEvent} (h : engine.ingest snapshot = (.ok events, engine')) :
    (snapshot.observationTimestampMicroseconds = none ∧ events = [] ∧ engine' = engine) ∨
    ∃ timestamp, snapshot.observationTimestampMicroseconds = some timestamp ∧
      (∀ earlier, engine.observationTimestampMicroseconds = some earlier → earlier ≤ timestamp) ∧
      evaluateRules snapshot timestamp engine.catalog.rules (engine.observe snapshot timestamp) =
        (.ok events, engine') := by
  unfold ingest at h
  split at h
  · rename_i hobs
    cases h
    exact Or.inl ⟨hobs, rfl, rfl⟩
  · rename_i timestamp hobs
    split at h
    · cases h
    · rename_i hback
      refine Or.inr ⟨timestamp, hobs, ?_, h⟩
      intro earlier hearlier
      simpa [movesBackward, hearlier] using hback

/-! ## What a clear can do -/

/-- A clear that returns either found the record cleared already and changed nothing, or
found it historical, cleared it, and appended the one event saying so. -/
theorem clear_ok {engine : DiagnosticEngine} {code : String} {result : ClearResult}
    (h : engine.clear code = .ok result) :
    (result.appended = [] ∧ result.engine = engine) ∨
    ∃ dtc timestamp, (engine.states code).dtc = some dtc ∧ dtc.status = .historical ∧
      engine.observationTimestampMicroseconds = some timestamp ∧
      (result.appended, result.engine) =
        appendEvents timestamp code [⟨.dtcCleared, some .historical, some .cleared⟩]
          (engine.setState code { engine.states code with
            dtc := some { dtc with
              status := .cleared
              clearedTimestampMicroseconds := some timestamp } }) := by
  unfold clear at h
  cases hrule : engine.catalog.require code with
  | error error => simp [hrule, bind, Except.bind] at h
  | ok rule =>
    simp only [hrule, bind, Except.bind] at h
    cases hdtc : (engine.states code).dtc with
    | none => simp [hdtc] at h
    | some dtc =>
      simp only [hdtc] at h
      cases hstatus : dtc.status with
      | pending => simp [hstatus] at h
      | active => simp [hstatus] at h
      | cleared =>
        simp only [hstatus, pure, Except.pure, Except.ok.injEq] at h
        subst h
        exact Or.inl ⟨rfl, rfl⟩
      | historical =>
        simp only [hstatus] at h
        cases hobs : engine.observationTimestampMicroseconds with
        | none => simp [hobs] at h
        | some timestamp =>
          simp only [hobs, pure, Except.pure, Except.ok.injEq] at h
          subst h
          exact Or.inr ⟨dtc, timestamp, rfl, hstatus, rfl, rfl⟩

end DiagnosticEngine

end TunerOs
