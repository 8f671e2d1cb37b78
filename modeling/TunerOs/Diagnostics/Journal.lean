-- SUMMARY: The lifetime event log of a diagnostic engine is a faithful journal of its DTC statuses, over every run of calls.
import TunerOs.Diagnostics.Engine
import TunerOs.Lib.Path

/-!
# The event journal

The journal of a run is every event its calls appended. Each rule evaluation
appends a path from the rule's old status to its new one; the journal is faithful
because appending such a path keeps it so.
-/

namespace TunerOs

open Containers Transition

inductive DiagnosticCall where
  | ingest (snapshot : TelemetrySnapshot)
  | clear (code : String)

namespace DiagnosticEngine

/-- One call: the events it appended or the exception it raised, and the engine it left. -/
def call (engine : DiagnosticEngine) :
    DiagnosticCall → Except PyException (List DiagnosticEvent) × DiagnosticEngine
  | .ingest snapshot => engine.ingest snapshot
  | .clear code =>
    match engine.clear code with
    | .error error => (.error error, engine)
    | .ok result => (.ok result.appended, result.engine)

/-- A run of calls that all return: its journal and the engine it leaves. -/
def runCalls (engine : DiagnosticEngine) :
    List DiagnosticCall → Except PyException (List DiagnosticEvent × DiagnosticEngine)
  | [] => .ok ([], engine)
  | next :: rest =>
    match engine.call next with
    | (.error error, _) => .error error
    | (.ok events, engine) =>
      match engine.runCalls rest with
      | .error error => .error error
      | .ok (later, engine) => .ok (events ++ later, engine)

end DiagnosticEngine

/-! ## One rule -/

namespace DiagnosticRule

variable (rule : DiagnosticRule) (state : RuleState) (snapshot : TelemetrySnapshot)
  (timestamp : ℕ)

/-- `records` leads from one DTC status to another. -/
abbrev StatusPath (before : Option DiagnosticStatus) (records : List EventRecord)
    (after : Option DiagnosticStatus) : Prop :=
  Path EventRecord.priorStatus EventRecord.newStatus before records after

theorem pendingRecord_status (existing : Option DiagnosticTroubleCode) :
    (rule.pendingRecord existing timestamp).status = .pending := by
  cases existing <;> rfl

theorem enterPending_path :
    StatusPath state.status (rule.enterPending state timestamp).emitted (some .pending) ∧
      (rule.enterPending state timestamp).record.status = .pending := by
  unfold enterPending
  cases hdtc : state.dtc with
  | none => exact ⟨⟨by simp [RuleState.status, hdtc], rfl⟩, pendingRecord_status ..⟩
  | some dtc =>
    simp only []
    split
    · rename_i hpending
      exact ⟨by simp [RuleState.status, hdtc, hpending], hpending⟩
    · exact ⟨⟨by simp [RuleState.status, hdtc], rfl⟩, pendingRecord_status ..⟩

theorem handleViolation_path :
    StatusPath state.status (rule.handleViolation state snapshot timestamp).emitted
      (rule.handleViolation state snapshot timestamp).state.status := by
  obtain ⟨hpath, hrecord⟩ := enterPending_path rule state timestamp
  unfold handleViolation
  split
  · cases hdtc : state.dtc <;> simp [RuleState.status, hdtc]
  · simp only []
    split
    · unfold confirm
      simp only []
      split
      · simpa [RuleState.status, hrecord] using hpath
      · exact hpath.append ⟨rfl, rfl⟩
    · simpa [RuleState.status, hrecord] using hpath

theorem handleNormal_path :
    StatusPath state.status (rule.handleNormal state timestamp).emitted
      (rule.handleNormal state timestamp).state.status := by
  unfold handleNormal
  simp only []
  cases hdtc : state.dtc with
  | none => simp [RuleState.status, hdtc]
  | some dtc =>
    cases hstatus : dtc.status with
    | pending =>
      -- a cancelled pending condition reports the very origin it restores
      cases state.pendingOrigin <;> simp [RuleState.status, hdtc, hstatus, restoreOrigin]
    | active =>
      simp only [hstatus]
      split <;> simp [RuleState.status, hdtc, hstatus]
    | historical => simp [RuleState.status, hdtc, hstatus]
    | cleared => simp [RuleState.status, hdtc, hstatus]

/-- Whatever an evaluation does, the events it emits lead from the old status to the new. -/
theorem evaluate_path :
    StatusPath state.status (rule.evaluate state snapshot timestamp).emitted
      (rule.evaluate state snapshot timestamp).state.status := by
  unfold evaluate
  split
  · simp [RuleState.status]
  · simp only []
    split
    · simp
    · exact handleViolation_path rule
        { state with recoveryStartedTimestampMicroseconds := none } snapshot timestamp
    · exact handleNormal_path rule state timestamp

end DiagnosticRule

/-! ## The journal invariant -/

/-- The events of one code, in order. -/
def eventsOf (code : String) (journal : List DiagnosticEvent) : List DiagnosticEvent :=
  journal.filter (·.code = code)

/-- The bounded log and its counter represent the journal. -/
structure LogOf (journal : List DiagnosticEvent) (engine : DiagnosticEngine) : Prop where
  sequences : journal.map (·.sequence) = List.range journal.length
  next : engine.nextEventSequence = journal.length
  retained : engine.eventLog.Holds journal

/-- The journal tells the truth about the engine. -/
structure FaithfulJournal (journal : List DiagnosticEvent) (engine : DiagnosticEngine) : Prop
    extends LogOf journal engine where
  ordered : journal.Pairwise (fun a b => a.timestampMicroseconds ≤ b.timestampMicroseconds)
  observed : ∀ event ∈ journal, ∃ timestamp,
    engine.observationTimestampMicroseconds = some timestamp ∧
      event.timestampMicroseconds ≤ timestamp
  path : ∀ code, Path DiagnosticEvent.priorStatus DiagnosticEvent.newStatus none
    (eventsOf code journal) (engine.states code).status

theorem eventsOf_append (code : String) (l m : List DiagnosticEvent) :
    eventsOf code (l ++ m) = eventsOf code l ++ eventsOf code m :=
  List.filter_append ..

theorem LogOf.appendEvents {journal : List DiagnosticEvent} {engine : DiagnosticEngine}
    (h : LogOf journal engine) (timestamp : ℕ) (code : String) (records : List EventRecord) :
    LogOf (journal ++ (DiagnosticEngine.appendEvents timestamp code records engine).1)
      (DiagnosticEngine.appendEvents timestamp code records engine).2 := by
  induction records generalizing journal engine with
  | nil => simpa [DiagnosticEngine.appendEvents] using h
  | cons record rest ih =>
    simp only [DiagnosticEngine.appendEvents]
    have hone : LogOf (journal ++ [(engine.appendEvent timestamp code record).1])
        (engine.appendEvent timestamp code record).2 :=
      { sequences := by
          simp [DiagnosticEngine.appendEvent, h.sequences, h.next, List.range_succ]
        next := by simp [DiagnosticEngine.appendEvent, h.next]
        retained := h.retained.append _ }
    simpa using ih hone

theorem LogOf.setState {journal : List DiagnosticEvent} {engine : DiagnosticEngine}
    (h : LogOf journal engine) (code : String) (state : RuleState) :
    LogOf journal (engine.setState code state) :=
  ⟨h.sequences, h.next, h.retained⟩

/-- Appending a path from the old status of a code to the status it is set to. -/
theorem FaithfulJournal.record {journal : List DiagnosticEvent} {engine engine' : DiagnosticEngine}
    {events : List DiagnosticEvent} (h : FaithfulJournal journal engine) {timestamp : ℕ}
    {code : String} {records : List EventRecord} {state : RuleState}
    (hnow : engine.observationTimestampMicroseconds = some timestamp)
    (hpath : DiagnosticRule.StatusPath (engine.states code).status records state.status)
    (happend : (events, engine') =
      DiagnosticEngine.appendEvents timestamp code records (engine.setState code state)) :
    FaithfulJournal (journal ++ events) engine' := by
  have hmem := DiagnosticEngine.appendEvents_code_time timestamp code records
    (engine.setState code state)
  have hrecords := DiagnosticEngine.appendEvents_records timestamp code records
    (engine.setState code state)
  obtain ⟨rfl, rfl⟩ := Prod.mk.inj happend
  refine { (h.toLogOf.setState code state).appendEvents timestamp code records with
    ordered := ?_, observed := ?_, path := ?_ }
  -- The new events all have the time of the call, which is not before any earlier one.
  · refine List.pairwise_append.2 ⟨h.ordered, ?_, ?_⟩
    · exact List.pairwise_of_forall_mem_list (fun a ha b hb => by
        rw [(hmem a ha).2, (hmem b hb).2])
    · intro a ha b hb
      obtain ⟨t, ht, hle⟩ := h.observed a ha
      rw [hnow] at ht
      cases ht
      rwa [(hmem b hb).2]
  · intro event hevent
    refine ⟨timestamp, by simpa [DiagnosticEngine.setState] using hnow, ?_⟩
    rcases List.mem_append.1 hevent with hold | hnew
    · obtain ⟨t, ht, hle⟩ := h.observed event hold
      rw [hnow] at ht
      cases ht
      exact hle
    · exact (hmem event hnew).2.le
  · intro other
    rw [eventsOf_append, DiagnosticEngine.appendEvents_states,
      DiagnosticEngine.setState_states]
    -- Only the path of the code itself gets longer.
    by_cases hother : other = code
    · subst hother
      have hall : eventsOf other (DiagnosticEngine.appendEvents timestamp other records
          (engine.setState other state)).1 =
          (DiagnosticEngine.appendEvents timestamp other records
            (engine.setState other state)).1 :=
        List.filter_eq_self.2 (fun event hevent => by simp [(hmem event hevent).1])
      rw [hall, Function.update_self]
      refine (h.path other).append ?_
      rw [← hrecords] at hpath
      exact (path_map (f := DiagnosticEngine.recordOf)).1 hpath
    · have hnone : eventsOf other (DiagnosticEngine.appendEvents timestamp code records
          (engine.setState code state)).1 = [] :=
        List.filter_eq_nil_iff.2 (fun event hevent => by
          simp [(hmem event hevent).1, Ne.symm hother])
      rw [hnone, List.append_nil, Function.update_of_ne hother]
      exact h.path other

/-! ## Runs keep the journal faithful -/

theorem FaithfulJournal.evaluateRules {snapshot : TelemetrySnapshot} {timestamp : ℕ}
    {rules : List DiagnosticRule} {journal : List DiagnosticEvent}
    {engine engine' : DiagnosticEngine} {events : List DiagnosticEvent}
    (h : FaithfulJournal journal engine)
    (hnow : engine.observationTimestampMicroseconds = some timestamp)
    (hrules : DiagnosticEngine.evaluateRules snapshot timestamp rules engine =
      (.ok events, engine')) :
    FaithfulJournal (journal ++ events) engine' := by
  induction rules generalizing journal engine events with
  | nil =>
    cases hrules
    simpa using h
  | cons rule rest ih =>
    obtain ⟨first, later, between, hfirst, hlater, rfl⟩ :=
      DiagnosticEngine.evaluateRules_cons_ok hrules
    obtain ⟨-, happend⟩ := DiagnosticEngine.evaluateRule_ok hfirst
    have hbetween : FaithfulJournal (journal ++ first) between :=
      h.record hnow (rule.evaluate_path _ snapshot timestamp) happend
    have hobs : between.observationTimestampMicroseconds = some timestamp := by
      obtain ⟨rfl, rfl⟩ := Prod.mk.inj happend
      simpa [DiagnosticEngine.setState] using hnow
    rw [← List.append_assoc]
    exact ih hbetween hobs hlater

theorem FaithfulJournal.ingest {journal : List DiagnosticEvent}
    {engine engine' : DiagnosticEngine} {snapshot : TelemetrySnapshot}
    {events : List DiagnosticEvent} (h : FaithfulJournal journal engine)
    (hingest : engine.ingest snapshot = (.ok events, engine')) :
    FaithfulJournal (journal ++ events) engine' := by
  rcases DiagnosticEngine.ingest_ok hingest with ⟨-, rfl, rfl⟩ | ⟨timestamp, -, hlater, hrules⟩
  · simpa using h
  · have hobserve : FaithfulJournal journal (engine.observe snapshot timestamp) := by
      refine ⟨⟨h.sequences, h.next, h.retained⟩, h.ordered, ?_, h.path⟩
      intro event hevent
      obtain ⟨earlier, hearlier, hle⟩ := h.observed event hevent
      exact ⟨timestamp, rfl, hle.trans (hlater earlier hearlier)⟩
    exact hobserve.evaluateRules rfl hrules

theorem FaithfulJournal.clear {journal : List DiagnosticEvent} {engine : DiagnosticEngine}
    {code : String} {result : DiagnosticEngine.ClearResult} (h : FaithfulJournal journal engine)
    (hclear : engine.clear code = .ok result) :
    FaithfulJournal (journal ++ result.appended) result.engine := by
  rcases DiagnosticEngine.clear_ok hclear with
    ⟨happended, hengine⟩ | ⟨dtc, timestamp, hdtc, hstatus, hnow, happend⟩
  · rw [happended, hengine, List.append_nil]
    exact h
  · refine h.record hnow ?_ happend
    simp [RuleState.status, hdtc, hstatus]

theorem FaithfulJournal.call {journal : List DiagnosticEvent} {engine engine' : DiagnosticEngine}
    {next : DiagnosticCall} {events : List DiagnosticEvent} (h : FaithfulJournal journal engine)
    (hcall : engine.call next = (.ok events, engine')) :
    FaithfulJournal (journal ++ events) engine' := by
  cases next with
  | ingest snapshot => exact h.ingest hcall
  | clear code =>
    simp only [DiagnosticEngine.call] at hcall
    split at hcall
    · cases hcall
    · rename_i result hresult
      cases hcall
      exact h.clear hresult

/-- Every run of returning calls extends a faithful journal to a faithful journal. -/
theorem FaithfulJournal.runCalls {calls : List DiagnosticCall} {journal : List DiagnosticEvent}
    {engine engine' : DiagnosticEngine} {events : List DiagnosticEvent}
    (h : FaithfulJournal journal engine) (hrun : engine.runCalls calls = .ok (events, engine')) :
    FaithfulJournal (journal ++ events) engine' := by
  induction calls generalizing journal engine events with
  | nil =>
    cases hrun
    simpa using h
  | cons next rest ih =>
    simp only [DiagnosticEngine.runCalls] at hrun
    split at hrun
    · cases hrun
    · rename_i first between hfirst
      split at hrun
      · cases hrun
      · rename_i later final hlater
        cases hrun
        rw [← List.append_assoc]
        exact ih (h.call hfirst) hlater

theorem faithfulJournal_fresh (catalog : DiagnosticCatalog) (eventCapacity : ℕ) :
    FaithfulJournal [] (DiagnosticEngine.fresh catalog eventCapacity) where
  sequences := rfl
  next := rfl
  retained := BoundedDeque.holds_empty eventCapacity
  ordered := List.Pairwise.nil
  observed := by simp
  path := fun _ => rfl

/-! ## What never changes

The catalog and the event capacity are the constructor's; no call changes them,
whether it returns or raises. -/

namespace DiagnosticEngine

/-- Two engines with the same catalog and event capacity. -/
def SameConfiguration (engine engine' : DiagnosticEngine) : Prop :=
  engine'.catalog = engine.catalog ∧ engine'.eventCapacity = engine.eventCapacity

theorem evaluateRule_configuration (snapshot : TelemetrySnapshot) (timestamp : ℕ)
    (rule : DiagnosticRule) (engine : DiagnosticEngine) :
    engine.SameConfiguration (evaluateRule snapshot timestamp rule engine).2 := by
  unfold evaluateRule
  simp only []
  split
  · exact ⟨appendEvents_catalog .., appendEvents_eventCapacity ..⟩
  · exact ⟨appendEvents_catalog .., appendEvents_eventCapacity ..⟩

theorem evaluateRules_configuration (snapshot : TelemetrySnapshot) (timestamp : ℕ)
    (rules : List DiagnosticRule) (engine : DiagnosticEngine) :
    engine.SameConfiguration (evaluateRules snapshot timestamp rules engine).2 := by
  induction rules generalizing engine with
  | nil => exact ⟨rfl, rfl⟩
  | cons rule rest ih =>
    have hfirst := evaluateRule_configuration snapshot timestamp rule engine
    simp only [evaluateRules]
    split
    · rename_i error between hbetween
      rw [hbetween] at hfirst
      exact hfirst
    · rename_i events between hbetween
      rw [hbetween] at hfirst
      have hrest := ih between
      split <;>
        (rename_i hlater
         rw [hlater] at hrest
         exact ⟨hrest.1.trans hfirst.1, hrest.2.trans hfirst.2⟩)

theorem call_configuration (engine : DiagnosticEngine) (next : DiagnosticCall) :
    engine.SameConfiguration (engine.call next).2 := by
  cases next with
  | ingest snapshot =>
    simp only [call, ingest]
    split
    · exact ⟨rfl, rfl⟩
    · split
      · exact ⟨rfl, rfl⟩
      · exact evaluateRules_configuration snapshot _ _ (engine.observe snapshot _)
  | clear code =>
    simp only [call]
    split
    · exact ⟨rfl, rfl⟩
    · rename_i result hresult
      rcases clear_ok hresult with ⟨-, hengine⟩ | ⟨dtc, timestamp, -, -, -, happend⟩
      · rw [hengine]
        exact ⟨rfl, rfl⟩
      · have hengine := congrArg Prod.snd happend
        change engine.SameConfiguration result.engine
        rw [show result.engine = _ from hengine]
        exact ⟨appendEvents_catalog .., appendEvents_eventCapacity ..⟩

theorem runCalls_configuration {calls : List DiagnosticCall} {engine engine' : DiagnosticEngine}
    {journal : List DiagnosticEvent} (h : engine.runCalls calls = .ok (journal, engine')) :
    engine.SameConfiguration engine' := by
  induction calls generalizing engine journal with
  | nil =>
    cases h
    exact ⟨rfl, rfl⟩
  | cons next rest ih =>
    have hcall := call_configuration engine next
    simp only [runCalls] at h
    split at h
    · cases h
    · rename_i events between hbetween
      rw [hbetween] at hcall
      split at h
      · cases h
      · rename_i later final hlater
        cases h
        have hrest := ih hlater
        exact ⟨hrest.1.trans hcall.1, hrest.2.trans hcall.2⟩

end DiagnosticEngine

/-! ## The journal theorem -/

/-- The status a journal says a code has: the new status of the code's last event. -/
def journalStatus (journal : List DiagnosticEvent) (code : String) : Option DiagnosticStatus :=
  (eventsOf code journal).getLast?.bind (·.newStatus)

theorem FaithfulJournal.status {journal : List DiagnosticEvent} {engine : DiagnosticEngine}
    (h : FaithfulJournal journal engine) (code : String) :
    (engine.states code).status = journalStatus journal code := by
  rw [(h.path code).getLast?, journalStatus]
  cases (eventsOf code journal).getLast? <;> rfl

/-- The records of a status are counted by the rules the journal gives that status. -/
theorem FaithfulJournal.count {journal : List DiagnosticEvent} {engine : DiagnosticEngine}
    (h : FaithfulJournal journal engine) (status : DiagnosticStatus) :
    engine.count status =
      engine.catalog.rules.countP (fun rule => journalStatus journal rule.code = some status) := by
  rw [DiagnosticEngine.count, DiagnosticEngine.records, List.countP_filterMap]
  refine List.countP_congr (fun rule _ => ?_)
  rw [← h.status, RuleState.status]
  cases (engine.states rule.code).dtc <;> simp

/-- Over every run of returning calls from a reset engine: sequences count from zero without a
gap, timestamps never decrease, the events of each code chain from no record to the status `dtc`
returns, `events` returns the newest ones, and `snapshot` counts what the journal says. -/
theorem lifetime_event_log_faithful (catalog : DiagnosticCatalog) (eventCapacity : ℕ)
    (calls : List DiagnosticCall) (journal : List DiagnosticEvent) (engine : DiagnosticEngine)
    (hrun : (DiagnosticEngine.fresh catalog eventCapacity).runCalls calls = .ok (journal, engine)) :
    (journal.map (·.sequence) = List.range journal.length ∧
      journal.Pairwise (fun a b => a.timestampMicroseconds ≤ b.timestampMicroseconds)) ∧
    (∀ code, (∀ first ∈ (eventsOf code journal).head?, first.priorStatus = none) ∧
      (eventsOf code journal).IsChain (fun earlier later => later.priorStatus = earlier.newStatus)) ∧
    (∀ rule ∈ catalog.rules, ∃ record, engine.dtc rule.code = .ok record ∧
      record.map (·.status) = journalStatus journal rule.code) ∧
    engine.events none = .ok (journal.rtake (min eventCapacity journal.length)) ∧
    engine.snapshot.retainedEventCount = min eventCapacity journal.length ∧
    engine.snapshot.totalEventCount = journal.length ∧
    engine.snapshot.latestEventSequence = journal.getLast?.map (·.sequence) ∧
    engine.snapshot.pendingCount =
      catalog.rules.countP (fun rule => journalStatus journal rule.code = some .pending) ∧
    engine.snapshot.activeCount =
      catalog.rules.countP (fun rule => journalStatus journal rule.code = some .active) ∧
    engine.snapshot.historicalCount =
      catalog.rules.countP (fun rule => journalStatus journal rule.code = some .historical) ∧
    engine.snapshot.clearedCount =
      catalog.rules.countP (fun rule => journalStatus journal rule.code = some .cleared) := by
  have hjournal : FaithfulJournal journal engine := by
    simpa using (faithfulJournal_fresh catalog eventCapacity).runCalls hrun
  obtain ⟨hcatalog, hcapacity⟩ := DiagnosticEngine.runCalls_configuration hrun
  have hmaxlen : engine.eventLog.maxlen = eventCapacity := hcapacity
  have hrules : engine.catalog.rules = catalog.rules := by rw [hcatalog]; rfl
  -- The deque keeps the end of the journal.
  have hretained : engine.eventLog.items = journal.rtake (min eventCapacity journal.length) := by
    rw [hjournal.retained, hmaxlen, List.rtake, List.rtake]
    congr 1
    omega
  refine ⟨⟨hjournal.sequences, hjournal.ordered⟩, ?_, ?_, ?_, ?_, hjournal.next, ?_, ?_⟩
  · intro code
    exact ⟨(hjournal.path code).head?, (hjournal.path code).isChain⟩
  · intro rule hrule
    have hrequire : ∃ found, engine.catalog.require rule.code = .ok found := by
      rw [hcatalog]
      exact catalog.require_of_mem hrule
    obtain ⟨found, hfound⟩ := hrequire
    refine ⟨(engine.states rule.code).dtc, ?_, hjournal.status rule.code⟩
    simp only [DiagnosticEngine.dtc, hfound, bind, Except.bind, pure, Except.pure]
  · simp only [DiagnosticEngine.events, hretained]
  · simp only [DiagnosticEngine.snapshot, hretained, Containers.length_rtake]
    omega
  · -- the last sequence is one less than the length
    have hlast := congrArg List.getLast? hjournal.sequences
    rw [List.getLast?_map] at hlast
    simp only [DiagnosticEngine.snapshot, hjournal.next, hlast, List.getLast?_range]
  · simp only [DiagnosticEngine.snapshot, hjournal.count, hrules, and_self]

/-! A run of the coolant rule: hot at 0 s and at 5 s, cooled down at 6 s and at 9 s. -/

def coolantSnapshot (value : ℚ) (timestamp sequence : ℕ) : TelemetrySnapshot where
  observationTimestampMicroseconds := some timestamp
  lastFrameSequence := some sequence
  samples := Containers.Dict.empty.set .coolant
    { key := .coolant, value := .float value, timestampMicroseconds := timestamp
      frameSequence := sequence, arbitrationId := 0x102, messageName := "DmeThermalElectrical"
      sourceEcu := "DME", unit := "degC" }
  freshness := Containers.Dict.empty.set .coolant .fresh
  statistics :=
    { totalFrames := sequence + 1, totalSignalUpdates := sequence + 1
      latestTimestampMicroseconds := some timestamp, lastFrameSequence := some sequence
      framesByArbitrationId := Containers.Dict.empty.set 0x102 (sequence + 1) }

def coolantCatalog : DiagnosticCatalog :=
  ⟨[coolantTemperatureHigh], List.nodup_singleton _, List.nodup_singleton _⟩

def coolantCalls : List DiagnosticCall :=
  [.ingest (coolantSnapshot 120 0 0), .ingest (coolantSnapshot 120 5000000 1),
    .ingest (coolantSnapshot 100 6000000 2), .ingest (coolantSnapshot 100 9000000 3)]

/-- The run appends three events, of which a log of two keeps the last two. -/
theorem coolant_event_log_faithful :
    ∃ journal engine,
      (DiagnosticEngine.fresh coolantCatalog 2).runCalls coolantCalls = .ok (journal, engine) ∧
      journal.length = 3 ∧ journalStatus journal "TUN-DME-001" = some .historical ∧
      engine.events none = .ok (journal.rtake (min 2 journal.length)) ∧
      engine.snapshot.historicalCount = 1 := by
  refine ⟨_, _, rfl, rfl, rfl, ?_, ?_⟩
  · exact (lifetime_event_log_faithful coolantCatalog 2 coolantCalls _ _ rfl).2.2.2.1
  · rfl

end TunerOs
