-- SUMMARY: What one call does to one rule, whether the call returns or raises, and the events of a whole lifetime.
import TunerOs.Diagnostics.History

/-!
# The lifetime of an engine

A call that raises keeps the states and the events of the rules it had evaluated. The
events a call appends are therefore more than those it returns, and a code's state
changes in one of two ways: its rule was evaluated, or its record was cleared.
-/

namespace TunerOs

open Containers

/-! ## The branches of an evaluation -/

namespace DiagnosticRule

section Branches

variable {rule : DiagnosticRule} {state : RuleState} {snapshot : TelemetrySnapshot} {t : ℕ}
  {dtc : DiagnosticTroubleCode}

/-- A condition that raises leaves the state as it was. -/
theorem evaluate_error {error : PyException} (hfresh : rule.InputsFresh snapshot)
    (hcondition : rule.condition snapshot (state.status = some .active) = .error error) :
    rule.evaluate state snapshot t = { state, raised := some error } := by
  simp [evaluate, inputsAreFresh_iff.2 hfresh, hcondition]

theorem handleNormal_none (hdtc : state.dtc = none) :
    rule.handleNormal state t =
      { state := { state with conditionStartedTimestampMicroseconds := none } } := by
  simp only [handleNormal, hdtc]

theorem handleNormal_pending (hdtc : state.dtc = some dtc) (hstatus : dtc.status = .pending) :
    rule.handleNormal state t =
      { state := { state with
          conditionStartedTimestampMicroseconds := none
          dtc := restoreOrigin dtc state.pendingOrigin
          pendingOrigin := none }
        emitted := [⟨.conditionCleared, some .pending, state.pendingOrigin⟩] } := by
  simp only [handleNormal, hdtc, hstatus]

theorem handleNormal_recovered (hdtc : state.dtc = some dtc) (hstatus : dtc.status = .active)
    (hdue : state.recoveryStartedTimestampMicroseconds.getD t +
      rule.definition.recoveryDurationMicroseconds ≤ t) :
    rule.handleNormal state t =
      { state := { state with
          conditionStartedTimestampMicroseconds := none
          dtc := some { dtc with
            status := .historical
            resolvedTimestampMicroseconds := some t }
          recoveryStartedTimestampMicroseconds := none }
        emitted := [⟨.dtcRecovered, some .active, some .historical⟩] } := by
  simp only [handleNormal, hdtc, hstatus, hdue, if_true]

theorem handleNormal_recovering (hdtc : state.dtc = some dtc) (hstatus : dtc.status = .active)
    (hdue : ¬ state.recoveryStartedTimestampMicroseconds.getD t +
      rule.definition.recoveryDurationMicroseconds ≤ t) :
    rule.handleNormal state t =
      { state := { state with
          conditionStartedTimestampMicroseconds := none
          recoveryStartedTimestampMicroseconds :=
            some (state.recoveryStartedTimestampMicroseconds.getD t) } } := by
  simp only [handleNormal, hdtc, hstatus, hdue, if_false]

/-- A historical or cleared record. -/
theorem handleNormal_closed (hdtc : state.dtc = some dtc) (hpending : dtc.status ≠ .pending)
    (hactive : dtc.status ≠ .active) :
    rule.handleNormal state t =
      { state := { state with
          conditionStartedTimestampMicroseconds := none
          recoveryStartedTimestampMicroseconds := none } } := by
  cases hstatus : dtc.status with
  | pending => exact absurd hstatus hpending
  | active => exact absurd hstatus hactive
  | historical => simp only [handleNormal, hdtc, hstatus]
  | cleared => simp only [handleNormal, hdtc, hstatus]

theorem handleViolation_seen (hdtc : state.dtc = some dtc) (hstatus : dtc.status = .active) :
    rule.handleViolation state snapshot t =
      { state := { state with
          dtc := some { dtc with lastSeenTimestampMicroseconds := t } } } := by
  simp only [handleViolation, RuleState.status, hdtc, Option.map_some, hstatus, if_true]

/-- A violation that has not lasted long enough. -/
theorem handleViolation_waiting (hinactive : state.status ≠ some .active)
    (hdue : ¬ (rule.enterPending state t).started +
      rule.definition.confirmationDurationMicroseconds ≤ t) :
    rule.handleViolation state snapshot t =
      { state := { state with
          dtc := some (rule.enterPending state t).record
          conditionStartedTimestampMicroseconds := some (rule.enterPending state t).started
          pendingOrigin := (rule.enterPending state t).origin }
        emitted := (rule.enterPending state t).emitted } := by
  simp only [handleViolation, if_neg hinactive, hdue, if_false]

theorem handleViolation_confirm (hinactive : state.status ≠ some .active)
    (hdue : (rule.enterPending state t).started +
      rule.definition.confirmationDurationMicroseconds ≤ t) :
    rule.handleViolation state snapshot t =
      rule.confirm state (rule.enterPending state t) snapshot t := by
  simp only [handleViolation, if_neg hinactive, hdue, if_true]

theorem enterPending_again (hdtc : state.dtc = some dtc) (hstatus : dtc.status = .pending) :
    rule.enterPending state t =
      { started := state.conditionStartedTimestampMicroseconds.getD t
        record := { dtc with lastSeenTimestampMicroseconds := t }
        origin := state.pendingOrigin
        emitted := [] } := by
  simp only [enterPending, hdtc, hstatus, if_true]

/-- The record of an entry is pending and was seen just now. -/
theorem enterPending_record (rule : DiagnosticRule) (state : RuleState) (t : ℕ) :
    (rule.enterPending state t).record.status = .pending ∧
      (rule.enterPending state t).record.lastSeenTimestampMicroseconds = t := by
  refine ⟨(enterPending_path rule state t).2, ?_⟩
  unfold enterPending
  cases hdtc : state.dtc with
  | none => rfl
  | some dtc =>
    simp only []
    split <;> rfl

end Branches

end DiagnosticRule

namespace DiagnosticEngine

/-! ## The events of a call -/

/-- The events that the loop of `ingest` appends, also when a rule raises. -/
def appendedByRules (snapshot : TelemetrySnapshot) (timestamp : ℕ) :
    List DiagnosticRule → DiagnosticEngine → List DiagnosticEvent
  | [], _ => []
  | rule :: rest, engine =>
    let outcome := rule.evaluate (engine.states rule.code) snapshot timestamp
    let (events, next) :=
      appendEvents timestamp rule.code outcome.emitted (engine.setState rule.code outcome.state)
    match outcome.raised with
    | some _ => events
    | none => events ++ appendedByRules snapshot timestamp rest next

/-- The events that a call appends to the log, whether it returns or raises. -/
def appended (engine : DiagnosticEngine) : DiagnosticCall → List DiagnosticEvent
  | .ingest snapshot =>
    match snapshot.observationTimestampMicroseconds with
    | none => []
    | some timestamp =>
      if engine.movesBackward timestamp then []
      else appendedByRules snapshot timestamp engine.catalog.rules
        (engine.observe snapshot timestamp)
  | .clear code =>
    match engine.clear code with
    | .error _ => []
    | .ok result => result.appended

/-- The events of a sequence of calls. -/
def journal (engine : DiagnosticEngine) : List DiagnosticCall → List DiagnosticEvent
  | [] => []
  | next :: rest => engine.appended next ++ (engine.call next).2.journal rest

theorem after_append (engine : DiagnosticEngine) (calls more : List DiagnosticCall) :
    engine.after (calls ++ more) = (engine.after calls).after more := List.foldl_append

section Rules

variable {snapshot : TelemetrySnapshot} {timestamp : ℕ} {rule : DiagnosticRule}
  {rest : List DiagnosticRule} {engine : DiagnosticEngine}

/-- The engine on which the rules after `rule` are evaluated. -/
def afterRule (snapshot : TelemetrySnapshot) (timestamp : ℕ) (rule : DiagnosticRule)
    (engine : DiagnosticEngine) : DiagnosticEngine :=
  (evaluateRule snapshot timestamp rule engine).2

theorem afterRule_eq : afterRule snapshot timestamp rule engine =
    (appendEvents timestamp rule.code
      (rule.evaluate (engine.states rule.code) snapshot timestamp).emitted
      (engine.setState rule.code
        (rule.evaluate (engine.states rule.code) snapshot timestamp).state)).2 := by
  unfold afterRule evaluateRule
  cases hraised : (rule.evaluate (engine.states rule.code) snapshot timestamp).raised <;>
    simp [hraised]

@[simp] theorem afterRule_states : (afterRule snapshot timestamp rule engine).states =
    Function.update engine.states rule.code
      (rule.evaluate (engine.states rule.code) snapshot timestamp).state := by
  rw [afterRule_eq, appendEvents_states, setState_states]

@[simp] theorem afterRule_observation :
    (afterRule snapshot timestamp rule engine).observationTimestampMicroseconds =
      engine.observationTimestampMicroseconds := by
  rw [afterRule_eq, appendEvents_observation, setState_observation]

/-- A rule that raises ends the loop. -/
theorem evaluateRules_cons_raised {error : PyException}
    (h : (rule.evaluate (engine.states rule.code) snapshot timestamp).raised = some error) :
    evaluateRules snapshot timestamp (rule :: rest) engine =
      (.error error, afterRule snapshot timestamp rule engine) := by
  have hrule : evaluateRule snapshot timestamp rule engine =
      (.error error, afterRule snapshot timestamp rule engine) := by
    refine Prod.ext ?_ rfl
    simp only [evaluateRule, h]
  rw [evaluateRules, hrule]

/-- After a rule that returns the rest are evaluated. -/
theorem evaluateRules_cons_none
    (h : (rule.evaluate (engine.states rule.code) snapshot timestamp).raised = none) :
    evaluateRules snapshot timestamp (rule :: rest) engine =
      ((evaluateRules snapshot timestamp rest (afterRule snapshot timestamp rule engine)).1.map
          ((appendEvents timestamp rule.code
            (rule.evaluate (engine.states rule.code) snapshot timestamp).emitted
            (engine.setState rule.code
              (rule.evaluate (engine.states rule.code) snapshot timestamp).state)).1 ++ ·),
        (evaluateRules snapshot timestamp rest (afterRule snapshot timestamp rule engine)).2) := by
  have hrule : evaluateRule snapshot timestamp rule engine =
      (.ok (appendEvents timestamp rule.code
        (rule.evaluate (engine.states rule.code) snapshot timestamp).emitted
        (engine.setState rule.code
          (rule.evaluate (engine.states rule.code) snapshot timestamp).state)).1,
        afterRule snapshot timestamp rule engine) := by
    refine Prod.ext ?_ rfl
    simp only [evaluateRule, h]
  rw [evaluateRules, hrule]
  simp only []
  cases hrest : evaluateRules snapshot timestamp rest (afterRule snapshot timestamp rule engine) with
  | mk result final => cases result <;> rfl

end Rules

end DiagnosticEngine

/-! ## What a call does to one code -/

open DiagnosticEngine

/-- What a call does to the state of one code, the events it appends about it, and the
observation time it leaves. -/
inductive RuleStep (rules : List DiagnosticRule) (code : String) (state : RuleState) :
    DiagnosticCall → RuleState → List DiagnosticEvent → Option ℕ → Prop
  | kept (next : DiagnosticCall) (now : Option ℕ) : RuleStep rules code state next state [] now
  | evaluated {snapshot : TelemetrySnapshot} {timestamp : ℕ} {rule : DiagnosticRule}
      {events : List DiagnosticEvent}
      (time : snapshot.observationTimestampMicroseconds = some timestamp)
      (mem : rule ∈ rules) (codes : rule.code = code)
      (records : events.map recordOf = (rule.evaluate state snapshot timestamp).emitted)
      (times : ∀ event ∈ events, event.timestampMicroseconds = timestamp) :
      RuleStep rules code state (.ingest snapshot) (rule.evaluate state snapshot timestamp).state
        events (some timestamp)
  | cleared {dtc : DiagnosticTroubleCode} {timestamp : ℕ} {events : List DiagnosticEvent}
      (found : state.dtc = some dtc) (historical : dtc.status = .historical)
      (records : events.map recordOf = [⟨.dtcCleared, some .historical, some .cleared⟩])
      (times : ∀ event ∈ events, event.timestampMicroseconds = timestamp) :
      RuleStep rules code state (.clear code)
        { state with
          dtc := some { dtc with
            status := .cleared
            clearedTimestampMicroseconds := some timestamp } }
        events (some timestamp)

namespace DiagnosticEngine

variable {snapshot : TelemetrySnapshot} {timestamp : ℕ} {engine : DiagnosticEngine}

/-- The events a rule or a clear appends about its own code are all of them. -/
theorem eventsOf_appendEvents (code other : String) (records : List EventRecord) :
    eventsOf other (appendEvents timestamp code records engine).1 =
      if other = code then (appendEvents timestamp code records engine).1 else [] := by
  have hcode := appendEvents_code_time timestamp code records engine
  split
  · next heq =>
    refine List.filter_eq_self.2 fun event hevent => ?_
    rw [heq, (hcode event hevent).1]
    exact decide_eq_true rfl
  · next hne =>
    refine List.filter_eq_nil_iff.2 fun event hevent => ?_
    rw [(hcode event hevent).1, decide_eq_true_eq]
    exact fun heq => hne heq.symm

theorem evaluateRules_observation_eq (rules : List DiagnosticRule) (engine : DiagnosticEngine) :
    (evaluateRules snapshot timestamp rules engine).2.observationTimestampMicroseconds =
      engine.observationTimestampMicroseconds := by
  induction rules generalizing engine with
  | nil => rfl
  | cons rule rest ih =>
    cases hraised : (rule.evaluate (engine.states rule.code) snapshot timestamp).raised with
    | some error => rw [evaluateRules_cons_raised hraised, afterRule_observation]
    | none =>
      rw [evaluateRules_cons_none hraised]
      exact (ih _).trans afterRule_observation

/-- A loop over rules steps each code at most once, on its state before the loop. -/
theorem evaluateRules_ruleStep (htime : snapshot.observationTimestampMicroseconds = some timestamp)
    {rules all : List DiagnosticRule} (hnodup : (rules.map DiagnosticRule.code).Nodup)
    (hall : ∀ rule ∈ rules, rule ∈ all) (engine : DiagnosticEngine) (code : String) :
    RuleStep all code (engine.states code) (.ingest snapshot)
        ((evaluateRules snapshot timestamp rules engine).2.states code)
        (eventsOf code (appendedByRules snapshot timestamp rules engine)) (some timestamp) ∧
      (code ∉ rules.map DiagnosticRule.code →
        (evaluateRules snapshot timestamp rules engine).2.states code = engine.states code ∧
          eventsOf code (appendedByRules snapshot timestamp rules engine) = []) := by
  -- Induction on the rules, with the second half: a code that none of them has is left alone.
  induction rules generalizing engine with
  | nil => exact ⟨.kept _ _, fun _ => ⟨rfl, rfl⟩⟩
  | cons rule rest ih =>
    obtain ⟨hfresh, hrest⟩ := List.nodup_cons.1 hnodup
    have hown : ∀ other, eventsOf other (appendEvents timestamp rule.code
        (rule.evaluate (engine.states rule.code) snapshot timestamp).emitted
        (engine.setState rule.code
          (rule.evaluate (engine.states rule.code) snapshot timestamp).state)).1 = _ :=
      fun other => eventsOf_appendEvents rule.code other _
    have hstep : RuleStep all rule.code (engine.states rule.code) (.ingest snapshot)
        (rule.evaluate (engine.states rule.code) snapshot timestamp).state
        (appendEvents timestamp rule.code
          (rule.evaluate (engine.states rule.code) snapshot timestamp).emitted
          (engine.setState rule.code
            (rule.evaluate (engine.states rule.code) snapshot timestamp).state)).1
        (some timestamp) :=
      .evaluated htime (hall rule List.mem_cons_self) rfl (appendEvents_records _ _ _ _)
        fun event hevent => (appendEvents_code_time _ _ _ _ event hevent).2
    cases hraised : (rule.evaluate (engine.states rule.code) snapshot timestamp).raised with
    -- A rule that raises ends the loop, after its own events were appended.
    | some error =>
      rw [evaluateRules_cons_raised hraised, afterRule_states]
      simp only [appendedByRules, hraised, hown]
      by_cases hcode : code = rule.code
      · subst hcode
        rw [Function.update_self, if_pos rfl]
        exact ⟨hstep, fun hnot => absurd List.mem_cons_self hnot⟩
      · rw [Function.update_of_ne hcode, if_neg hcode]
        exact ⟨.kept _ _, fun _ => ⟨rfl, rfl⟩⟩
    | none =>
      obtain ⟨hlater, hnone⟩ := ih hrest (fun other hmem => hall other (List.mem_cons_of_mem _ hmem))
        (afterRule snapshot timestamp rule engine)
      rw [evaluateRules_cons_none hraised]
      simp only [appendedByRules, hraised, eventsOf_append, hown, ← afterRule_eq]
      rw [afterRule_states] at hlater hnone
      by_cases hcode : code = rule.code
      · subst hcode
        -- The rest has other codes, so this is the only step of the code.
        obtain ⟨hstate, hevents⟩ := hnone hfresh
        rw [hstate, hevents, Function.update_self, if_pos rfl, List.append_nil]
        exact ⟨hstep, fun hnot => absurd List.mem_cons_self hnot⟩
      · rw [Function.update_of_ne hcode] at hlater hnone
        rw [if_neg hcode, List.nil_append]
        exact ⟨hlater, fun hnot => hnone fun hmem => hnot (List.mem_cons_of_mem _ hmem)⟩

/-- A call steps each code once. -/
theorem call_ruleStep (engine : DiagnosticEngine) (next : DiagnosticCall) (code : String) :
    RuleStep engine.catalog.rules code (engine.states code) next ((engine.call next).2.states code)
      (eventsOf code (engine.appended next))
      (engine.call next).2.observationTimestampMicroseconds := by
  cases next with
  | ingest snapshot =>
    simp only [call, ingest, appended]
    cases htime : snapshot.observationTimestampMicroseconds with
    | none => exact .kept _ _
    | some timestamp =>
      simp only []
      -- A snapshot that moves backward evaluates no rule.
      split
      · exact .kept _ _
      · have hstep := (evaluateRules_ruleStep htime engine.catalog.codes_nodup
          (fun rule hmem => hmem) (engine.observe snapshot timestamp) code).1
        change RuleStep _ _ _ _ ((evaluateRules snapshot timestamp engine.catalog.rules
          (engine.observe snapshot timestamp)).2.states code) _
          (evaluateRules snapshot timestamp engine.catalog.rules
            (engine.observe snapshot timestamp)).2.observationTimestampMicroseconds
        rw [evaluateRules_observation_eq]
        exact hstep
  | clear target =>
    simp only [call, appended]
    cases hclear : engine.clear target with
    | error error => exact .kept _ _
    | ok result =>
      simp only []
      rcases clear_ok hclear with
        ⟨happended, hengine⟩ | ⟨dtc, timestamp, hdtc, hstatus, hnow, happend⟩
      · rw [happended, hengine]
        exact .kept _ _
      · rw [show result.appended = _ from congrArg Prod.fst happend,
          show result.engine = _ from congrArg Prod.snd happend, appendEvents_states,
          appendEvents_observation, setState_states, setState_observation, hnow,
          eventsOf_appendEvents]
        -- The cleared event and the new status belong to the target alone.
        by_cases hcode : code = target
        · subst hcode
          rw [Function.update_self, if_pos rfl]
          exact .cleared hdtc hstatus (appendEvents_records _ _ _ _)
            fun event hevent => (appendEvents_code_time _ _ _ _ event hevent).2
        · rw [Function.update_of_ne hcode, if_neg hcode]
          exact .kept _ _

/-- What evaluations and clears keep of a code's state holds of it in every reachable engine. -/
theorem after_invariant {Holds : RuleState → Prop} {rules : List DiagnosticRule}
    (hstep : ∀ {code state next after events now}, Holds state →
      RuleStep rules code state next after events now → Holds after)
    (hengine : engine.catalog.rules = rules) (hstates : ∀ code, Holds (engine.states code))
    (calls : List DiagnosticCall) (code : String) : Holds ((engine.after calls).states code) := by
  induction calls generalizing engine with
  | nil => exact hstates code
  | cons next rest ih =>
    refine @ih (engine.call next).2 ?_ fun other => ?_
    · rw [(call_configuration engine next).1, hengine]
    · have hmove := call_ruleStep engine next other
      rw [hengine] at hmove
      exact hstep (hstates other) hmove

end DiagnosticEngine

end TunerOs
