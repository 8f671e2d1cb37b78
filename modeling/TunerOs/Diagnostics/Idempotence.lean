-- SUMMARY: Ingesting a snapshot again changes nothing, because activation thresholds are nested inside recovery thresholds.
import TunerOs.Diagnostics.Lifetime
import TunerOs.Diagnostics.Totality
import TunerOs.Telemetry.Pipeline
import Mathlib.Tactic.NormNum

/-!
# Ingesting a snapshot twice

The first evaluation of a rule may change its status, and the second one then reads
the other set of thresholds. A rule's thresholds are nested when both sets agree on what
confirmed or recovered the rule. Then every state an evaluation leaves is one that the same
evaluation leaves alone.
-/

namespace TunerOs

open Containers Fallible

/-! ## Nested thresholds -/

/-- What violates the activation thresholds violates the recovery thresholds, and what is
normal under the recovery thresholds is normal under the activation thresholds. -/
structure DiagnosticRule.Nested (rule : DiagnosticRule) : Prop where
  violation : ∀ snapshot, rule.condition snapshot false = .ok .violation →
    rule.condition snapshot true = .ok .violation
  normal : ∀ snapshot, rule.condition snapshot true = .ok .normal →
    rule.condition snapshot false = .ok .normal

/-- A reading of a snapshot that either fails under both sets of thresholds, or violates the
recovery thresholds where it violates the activation thresholds. -/
def DiagnosticCondition.Widens (condition : DiagnosticCondition) (snapshot : TelemetrySnapshot) :
    Prop :=
  (∃ error, ∀ active, condition snapshot active = .error error) ∨
  ∃ violates : Bool → Bool,
    (∀ active, condition snapshot active = .ok (conditionResult (violates active))) ∧
      (violates false = true → violates true = true)

theorem nested_of_widens {rule : DiagnosticRule}
    (h : ∀ snapshot, DiagnosticCondition.Widens rule.condition snapshot) : rule.Nested := by
  constructor
  · intro snapshot hviolation
    rcases h snapshot with ⟨error, herror⟩ | ⟨violates, hresult, hwider⟩
    · rw [herror] at hviolation
      cases hviolation
    · rw [hresult] at hviolation ⊢
      cases hfalse : violates false with
      | false =>
        rw [hfalse] at hviolation
        cases hviolation
      | true => rw [hwider hfalse]; rfl
  · intro snapshot hnormal
    rcases h snapshot with ⟨error, herror⟩ | ⟨violates, hresult, hwider⟩
    · rw [herror] at hnormal
      cases hnormal
    · rw [hresult] at hnormal ⊢
      cases hfalse : violates false with
      | false => rfl
      | true =>
        rw [hwider hfalse] at hnormal
        cases hnormal

section Conditions

variable (snapshot : TelemetrySnapshot)

theorem highThreshold_widens (condition : HighThresholdCondition)
    (h : condition.recoveryBelow ≤ condition.activationAbove) :
    DiagnosticCondition.Widens condition.evaluate snapshot := by
  unfold DiagnosticCondition.Widens HighThresholdCondition.evaluate
  cases number snapshot condition.signal with
  | error error => exact Or.inl ⟨error, fun _ => rfl⟩
  | ok value =>
    refine Or.inr ⟨fun active => decide
      ((if active then condition.recoveryBelow else condition.activationAbove) < value),
      fun _ => rfl, ?_⟩
    simp only [Bool.false_eq_true, if_false, if_true, decide_eq_true_eq]
    exact h.trans_lt

theorem lowWhileTrue_widens (condition : LowWhileTrueCondition)
    (h : condition.activationBelow ≤ condition.recoveryAbove) :
    DiagnosticCondition.Widens condition.evaluate snapshot := by
  unfold DiagnosticCondition.Widens LowWhileTrueCondition.evaluate
  cases boolean snapshot condition.context with
  | error error => exact Or.inl ⟨error, fun _ => rfl⟩
  | ok context =>
    cases context with
    | false => exact Or.inr ⟨fun _ => false, fun _ => rfl, id⟩
    | true =>
      cases number snapshot condition.signal with
      | error error => exact Or.inl ⟨error, fun _ => rfl⟩
      | ok value =>
        refine Or.inr ⟨fun active => decide
          (value < if active then condition.recoveryAbove else condition.activationBelow),
          fun _ => rfl, ?_⟩
        simp only [Bool.false_eq_true, if_false, if_true, decide_eq_true_eq]
        exact fun hlow => hlow.trans_le h

theorem outsideRange_widens (condition : OutsideRangeWhileTrueCondition)
    (hminimum : condition.activationMinimum ≤ condition.recoveryMinimum)
    (hmaximum : condition.recoveryMaximum ≤ condition.activationMaximum) :
    DiagnosticCondition.Widens condition.evaluate snapshot := by
  unfold DiagnosticCondition.Widens OutsideRangeWhileTrueCondition.evaluate
  cases boolean snapshot condition.context with
  | error error => exact Or.inl ⟨error, fun _ => rfl⟩
  | ok context =>
    cases context with
    | false => exact Or.inr ⟨fun _ => false, fun _ => rfl, id⟩
    | true =>
      cases number snapshot condition.signal with
      | error error => exact Or.inl ⟨error, fun _ => rfl⟩
      | ok value =>
        refine Or.inr ⟨fun active =>
          value < (if active then condition.recoveryMinimum else condition.activationMinimum) ||
            (if active then condition.recoveryMaximum else condition.activationMaximum) < value,
          fun _ => rfl, ?_⟩
        simp only [Bool.false_eq_true, if_false, if_true, Bool.or_eq_true, decide_eq_true_eq]
        exact Or.imp (fun hlow => hlow.trans_le hminimum) hmaximum.trans_lt

theorem disagreement_widens (condition : SignalDisagreementCondition)
    (h : condition.recoveryDelta ≤ condition.activationDelta) :
    DiagnosticCondition.Widens condition.evaluate snapshot := by
  unfold DiagnosticCondition.Widens SignalDisagreementCondition.evaluate
  cases number snapshot condition.referenceSignal with
  | error error => exact Or.inl ⟨error, fun _ => rfl⟩
  | ok reference =>
    simp only [bind, Except.bind]
    split
    · next error _ => exact Or.inl ⟨error, fun _ => rfl⟩
    · next deltas _ =>
      cases maximumDelta deltas with
      | error error => exact Or.inl ⟨error, fun _ => rfl⟩
      | ok delta =>
        refine Or.inr ⟨fun active => decide
          ((if active then condition.recoveryDelta else condition.activationDelta) < delta),
          fun _ => rfl, ?_⟩
        simp only [Bool.false_eq_true, if_false, if_true, decide_eq_true_eq]
        exact h.trans_lt

end Conditions

/-- The thresholds of every default rule are nested. -/
theorem defaultRules_nested : ∀ rule ∈ defaultRules, rule.Nested := by
  intro rule hmem
  simp only [defaultRules, List.mem_cons, List.not_mem_nil, or_false] at hmem
  rcases hmem with rfl | rfl | rfl | rfl | rfl
  · exact nested_of_widens fun snapshot => highThreshold_widens snapshot _ (by norm_num)
  · exact nested_of_widens fun snapshot => highThreshold_widens snapshot _ (by norm_num)
  · exact nested_of_widens fun snapshot => lowWhileTrue_widens snapshot _ (by norm_num)
  · exact nested_of_widens fun snapshot =>
      outsideRange_widens snapshot _ (by norm_num) (by norm_num)
  · exact nested_of_widens fun snapshot => disagreement_widens snapshot _ (by norm_num)

/-! ## One rule -/

/-- What holds of a code's state in every reachable engine: the recovery timer runs only while
the record is active, and a cancelled pending condition returns to no record or to one that is
historical or cleared. -/
structure RuleState.Settled (state : RuleState) : Prop where
  recovery : state.status ≠ some .active → state.recoveryStartedTimestampMicroseconds = none
  notActive : state.pendingOrigin ≠ some .active
  notPending : state.pendingOrigin ≠ some .pending

namespace DiagnosticRule

variable {rule : DiagnosticRule} {state : RuleState} {snapshot : TelemetrySnapshot} {t : ℕ}

/-- The origin that entering `PENDING` notes is settled. -/
theorem enterPending_origin (rule : DiagnosticRule) (t : ℕ) (h : state.Settled)
    (hinactive : state.status ≠ some .active) :
    (rule.enterPending state t).origin ≠ some .active ∧
      (rule.enterPending state t).origin ≠ some .pending := by
  unfold enterPending
  cases hdtc : state.dtc with
  | none => exact ⟨nofun, nofun⟩
  | some dtc =>
    simp only []
    split
    · exact ⟨h.notActive, h.notPending⟩
    · next hstatus =>
      refine ⟨fun heq => hinactive ?_, fun heq => hstatus (Option.some.inj heq)⟩
      rw [RuleState.status, hdtc]
      exact heq

theorem handleViolation_settled (h : state.Settled)
    (hrecovery : state.recoveryStartedTimestampMicroseconds = none) :
    (rule.handleViolation state snapshot t).state.Settled := by
  by_cases hactive : state.status = some .active
  · obtain ⟨dtc, hdtc, hstatus⟩ := Option.map_eq_some_iff.1 hactive
    rw [handleViolation_seen hdtc hstatus]
    exact ⟨fun _ => hrecovery, h.notActive, h.notPending⟩
  · obtain ⟨horigin, horigin'⟩ := enterPending_origin rule t h hactive
    by_cases hdue : (rule.enterPending state t).started +
        rule.definition.confirmationDurationMicroseconds ≤ t
    · rw [handleViolation_confirm hactive hdue]
      unfold confirm
      simp only []
      split
      · exact ⟨fun _ => hrecovery, horigin, horigin'⟩
      · exact ⟨fun _ => hrecovery, nofun, nofun⟩
    · rw [handleViolation_waiting hactive hdue]
      exact ⟨fun _ => hrecovery, horigin, horigin'⟩

theorem handleNormal_settled (h : state.Settled) : (rule.handleNormal state t).state.Settled := by
  cases hdtc : state.dtc with
  | none =>
    have hinactive : state.status ≠ some .active := by simp [RuleState.status, hdtc]
    rw [handleNormal_none hdtc]
    exact ⟨fun _ => h.recovery hinactive, h.notActive, h.notPending⟩
  | some dtc =>
    by_cases hpending : dtc.status = .pending
    · have hinactive : state.status ≠ some .active := by simp [RuleState.status, hdtc, hpending]
      rw [handleNormal_pending hdtc hpending]
      exact ⟨fun _ => h.recovery hinactive, by simp, by simp⟩
    · by_cases hactive : dtc.status = .active
      · by_cases hdue : state.recoveryStartedTimestampMicroseconds.getD t +
            rule.definition.recoveryDurationMicroseconds ≤ t
        · rw [handleNormal_recovered hdtc hactive hdue]
          exact ⟨fun _ => rfl, h.notActive, h.notPending⟩
        · rw [handleNormal_recovering hdtc hactive hdue]
          refine ⟨fun hinactive => absurd ?_ hinactive, h.notActive, h.notPending⟩
          simp [RuleState.status, hdtc, hactive]
      · rw [handleNormal_closed hdtc hpending hactive]
        exact ⟨fun _ => rfl, h.notActive, h.notPending⟩

theorem evaluate_settled (h : state.Settled) : (rule.evaluate state snapshot t).state.Settled := by
  by_cases hfresh : rule.InputsFresh snapshot
  · cases hcondition : rule.condition snapshot (state.status = some .active) with
    | error error =>
      rw [evaluate_error hfresh hcondition]
      exact h
    | ok result =>
      cases result with
      | violation =>
        rw [evaluate_violation hfresh hcondition]
        exact handleViolation_settled ⟨fun _ => rfl, h.notActive, h.notPending⟩ rfl
      | normal =>
        rw [evaluate_normal hfresh hcondition]
        exact handleNormal_settled h
  · rw [evaluate_stale hfresh]
    exact ⟨fun _ => rfl, h.notActive, h.notPending⟩

/-! ### States that an evaluation leaves alone -/

section Again

variable {dtc : DiagnosticTroubleCode}

theorem evaluate_violated (hfresh : rule.InputsFresh snapshot)
    (hcondition : rule.condition snapshot (state.status = some .active) = .ok .violation)
    (hrecovery : state.recoveryStartedTimestampMicroseconds = none) :
    rule.evaluate state snapshot t = rule.handleViolation state snapshot t := by
  rw [evaluate_violation hfresh hcondition]
  cases state
  cases hrecovery
  rfl

theorem seen_again (hseen : dtc.lastSeenTimestampMicroseconds = t) :
    { dtc with lastSeenTimestampMicroseconds := t } = dtc := by
  cases dtc
  cases hseen
  rfl

/-- An active record that was seen just now. -/
theorem evaluate_seen_again (hfresh : rule.InputsFresh snapshot)
    (hcondition : rule.condition snapshot true = .ok .violation) (hdtc : state.dtc = some dtc)
    (hstatus : dtc.status = .active) (hseen : dtc.lastSeenTimestampMicroseconds = t)
    (hrecovery : state.recoveryStartedTimestampMicroseconds = none) :
    rule.evaluate state snapshot t = { state } := by
  have hactive : rule.condition snapshot (state.status = some .active) = .ok .violation := by
    simpa [RuleState.status, hdtc, hstatus] using hcondition
  rw [evaluate_violated hfresh hactive hrecovery, handleViolation_seen hdtc hstatus,
    seen_again hseen, ← hdtc]

/-- A pending record whose condition was seen just now: the entry changes nothing. -/
theorem enterPending_seen_again (rule : DiagnosticRule) {started : ℕ} (hdtc : state.dtc = some dtc)
    (hstatus : dtc.status = .pending) (hseen : dtc.lastSeenTimestampMicroseconds = t)
    (hstarted : state.conditionStartedTimestampMicroseconds = some started) :
    rule.enterPending state t = ⟨started, dtc, state.pendingOrigin, []⟩ := by
  rw [enterPending_again hdtc hstatus, seen_again hseen, hstarted, Option.getD_some]

theorem state_with_entry {started : ℕ} (hdtc : state.dtc = some dtc)
    (hstarted : state.conditionStartedTimestampMicroseconds = some started) :
    { state with
      dtc := some dtc
      conditionStartedTimestampMicroseconds := some started
      pendingOrigin := state.pendingOrigin } = state := by
  rw [← hdtc, ← hstarted]

/-- A pending record that waits for its confirmation. -/
theorem evaluate_waiting_again {started : ℕ} (hfresh : rule.InputsFresh snapshot)
    (hcondition : rule.condition snapshot false = .ok .violation) (hdtc : state.dtc = some dtc)
    (hstatus : dtc.status = .pending) (hseen : dtc.lastSeenTimestampMicroseconds = t)
    (hstarted : state.conditionStartedTimestampMicroseconds = some started)
    (hrecovery : state.recoveryStartedTimestampMicroseconds = none)
    (hdue : ¬ started + rule.definition.confirmationDurationMicroseconds ≤ t) :
    rule.evaluate state snapshot t = { state } := by
  have hinactive : state.status ≠ some .active := by simp [RuleState.status, hdtc, hstatus]
  rw [← decide_eq_false hinactive] at hcondition
  have hentry := enterPending_seen_again rule hdtc hstatus hseen hstarted
  rw [evaluate_violated hfresh hcondition hrecovery,
    handleViolation_waiting hinactive (by rw [hentry]; exact hdue), hentry]
  simp only [state_with_entry hdtc hstarted]

/-- A pending record that could not be confirmed. -/
theorem evaluate_unconfirmed_again {started : ℕ} {error : PyException}
    (hfresh : rule.InputsFresh snapshot)
    (hcondition : rule.condition snapshot false = .ok .violation) (hdtc : state.dtc = some dtc)
    (hstatus : dtc.status = .pending) (hseen : dtc.lastSeenTimestampMicroseconds = t)
    (hstarted : state.conditionStartedTimestampMicroseconds = some started)
    (hrecovery : state.recoveryStartedTimestampMicroseconds = none)
    (hdue : started + rule.definition.confirmationDurationMicroseconds ≤ t)
    (hframe : state.freezeFrame = none)
    (hcapture : captureFreezeFrame rule.code snapshot t = .error error) :
    rule.evaluate state snapshot t = { state, raised := some error } := by
  have hinactive : state.status ≠ some .active := by simp [RuleState.status, hdtc, hstatus]
  rw [← decide_eq_false hinactive] at hcondition
  have hentry := enterPending_seen_again rule hdtc hstatus hseen hstarted
  rw [evaluate_violated hfresh hcondition hrecovery,
    handleViolation_confirm hinactive (by rw [hentry]; exact hdue), hentry]
  simp only [confirm, hframe, hcapture]
  cases state
  cases hdtc
  cases hstarted
  cases hframe
  rfl

theorem evaluate_none_again (hfresh : rule.InputsFresh snapshot)
    (hcondition : rule.condition snapshot false = .ok .normal) (hdtc : state.dtc = none)
    (hstarted : state.conditionStartedTimestampMicroseconds = none) :
    rule.evaluate state snapshot t = { state } := by
  have hinactive : state.status ≠ some .active := by simp [RuleState.status, hdtc]
  rw [← decide_eq_false hinactive] at hcondition
  rw [evaluate_normal hfresh hcondition, handleNormal_none hdtc, ← hstarted]

/-- A historical or cleared record. -/
theorem evaluate_closed_again (hfresh : rule.InputsFresh snapshot)
    (hcondition : rule.condition snapshot false = .ok .normal) (hdtc : state.dtc = some dtc)
    (hpending : dtc.status ≠ .pending) (hactive : dtc.status ≠ .active)
    (hstarted : state.conditionStartedTimestampMicroseconds = none)
    (hrecovery : state.recoveryStartedTimestampMicroseconds = none) :
    rule.evaluate state snapshot t = { state } := by
  have hinactive : state.status ≠ some .active := by simp [RuleState.status, hdtc, hactive]
  rw [← decide_eq_false hinactive] at hcondition
  rw [evaluate_normal hfresh hcondition, handleNormal_closed hdtc hpending hactive]
  cases state
  cases hstarted
  cases hrecovery
  rfl

/-- An active record that waits for its recovery. -/
theorem evaluate_recovering_again {started : ℕ} (hfresh : rule.InputsFresh snapshot)
    (hcondition : rule.condition snapshot true = .ok .normal) (hdtc : state.dtc = some dtc)
    (hstatus : dtc.status = .active)
    (hstarted : state.conditionStartedTimestampMicroseconds = none)
    (hrecovery : state.recoveryStartedTimestampMicroseconds = some started)
    (hdue : ¬ started + rule.definition.recoveryDurationMicroseconds ≤ t) :
    rule.evaluate state snapshot t = { state } := by
  have hactive : state.status = some .active := by simp [RuleState.status, hdtc, hstatus]
  rw [← decide_eq_true hactive] at hcondition
  have hgetD : state.recoveryStartedTimestampMicroseconds.getD t = started := by
    rw [hrecovery, Option.getD_some]
  rw [evaluate_normal hfresh hcondition,
    handleNormal_recovering hdtc hstatus (by rw [hgetD]; exact hdue), hgetD, ← hrecovery, ← hstarted]

end Again

/-! ### A second evaluation -/

/-- After a violation the record was seen just now, whichever branch was taken. -/
theorem evaluate_handleViolation (hnested : rule.Nested) (hfresh : rule.InputsFresh snapshot)
    (hcondition : rule.condition snapshot (state.status = some .active) = .ok .violation)
    (hrecovery : state.recoveryStartedTimestampMicroseconds = none) :
    rule.evaluate (rule.handleViolation state snapshot t).state snapshot t =
      { state := (rule.handleViolation state snapshot t).state
        raised := (rule.handleViolation state snapshot t).raised } := by
  obtain ⟨hpending, hseen⟩ := enterPending_record rule state t
  by_cases hactive : state.status = some .active
  · obtain ⟨dtc, hdtc, hstatus⟩ := Option.map_eq_some_iff.1 hactive
    rw [decide_eq_true hactive] at hcondition
    rw [handleViolation_seen hdtc hstatus]
    exact evaluate_seen_again hfresh hcondition rfl hstatus rfl hrecovery
  rw [decide_eq_false hactive] at hcondition
  by_cases hdue : (rule.enterPending state t).started +
      rule.definition.confirmationDurationMicroseconds ≤ t
  · rw [handleViolation_confirm hactive hdue]
    cases hframe : state.freezeFrame with
    | some frame =>
      simp only [confirm, hframe]
      exact evaluate_seen_again hfresh (hnested.violation snapshot hcondition) rfl rfl rfl hrecovery
    | none =>
      cases hcapture : captureFreezeFrame rule.code snapshot t with
      | error error =>
        simp only [confirm, hframe, hcapture]
        exact evaluate_unconfirmed_again hfresh hcondition rfl hpending hseen rfl hrecovery hdue
          rfl hcapture
      | ok frame =>
        simp only [confirm, hframe, hcapture]
        exact evaluate_seen_again hfresh (hnested.violation snapshot hcondition) rfl rfl rfl
          hrecovery
  · rw [handleViolation_waiting hactive hdue]
    exact evaluate_waiting_again hfresh hcondition rfl hpending hseen rfl hrecovery hdue

/-- After a normal evaluation the record is gone, closed, or waits for its recovery. -/
theorem evaluate_handleNormal (hnested : rule.Nested) (hfresh : rule.InputsFresh snapshot)
    (h : state.Settled)
    (hcondition : rule.condition snapshot (state.status = some .active) = .ok .normal) :
    rule.evaluate (rule.handleNormal state t).state snapshot t =
      { state := (rule.handleNormal state t).state
        raised := (rule.handleNormal state t).raised } := by
  cases hdtc : state.dtc with
  -- Without a record there is nothing to close or to recover.
  | none =>
    have hinactive : state.status ≠ some .active := by simp [RuleState.status, hdtc]
    rw [decide_eq_false hinactive] at hcondition
    rw [handleNormal_none hdtc]
    exact evaluate_none_again hfresh hcondition hdtc rfl
  | some dtc =>
    by_cases hactive : dtc.status = .active
    · have hstatus : state.status = some .active := by simp [RuleState.status, hdtc, hactive]
      rw [decide_eq_true hstatus] at hcondition
      -- An active code recovers if the duration has passed, and else keeps its timer.
      by_cases hdue : state.recoveryStartedTimestampMicroseconds.getD t +
          rule.definition.recoveryDurationMicroseconds ≤ t
      · rw [handleNormal_recovered hdtc hactive hdue]
        exact evaluate_closed_again hfresh (hnested.normal snapshot hcondition) rfl (by simp) (by simp)
          rfl rfl
      · rw [handleNormal_recovering hdtc hactive hdue]
        exact evaluate_recovering_again hfresh hcondition hdtc hactive rfl rfl hdue
    · have hinactive : state.status ≠ some .active := by simp [RuleState.status, hdtc, hactive]
      rw [decide_eq_false hinactive] at hcondition
      by_cases hpending : dtc.status = .pending
      · rw [handleNormal_pending hdtc hpending]
        -- A pending code goes back to the status it came from, which is none or a closed one.
        cases horigin : state.pendingOrigin with
        | none => exact evaluate_none_again hfresh hcondition rfl rfl
        | some origin =>
          refine evaluate_closed_again hfresh hcondition rfl ?_ ?_ rfl (h.recovery hinactive)
          · exact fun heq => h.notPending (horigin.trans (congrArg some heq))
          · exact fun heq => h.notActive (horigin.trans (congrArg some heq))
      · rw [handleNormal_closed hdtc hpending hactive]
        exact evaluate_closed_again hfresh hcondition hdtc hpending hactive rfl rfl

/-- An evaluation leaves a state that it leaves alone. -/
theorem evaluate_evaluate (snapshot : TelemetrySnapshot) (t : ℕ) (hnested : rule.Nested)
    (h : state.Settled) :
    rule.evaluate (rule.evaluate state snapshot t).state snapshot t =
      { state := (rule.evaluate state snapshot t).state
        raised := (rule.evaluate state snapshot t).raised } := by
  by_cases hfresh : rule.InputsFresh snapshot
  · cases hcondition : rule.condition snapshot (state.status = some .active) with
    | error error =>
      rw [evaluate_error hfresh hcondition, evaluate_error hfresh hcondition]
    | ok result =>
      cases result with
      | violation =>
        rw [evaluate_violation hfresh hcondition]
        exact evaluate_handleViolation hnested hfresh hcondition rfl
      | normal =>
        rw [evaluate_normal hfresh hcondition]
        exact evaluate_handleNormal hnested hfresh h hcondition
  · rw [evaluate_stale hfresh, evaluate_stale hfresh]

end DiagnosticRule

/-! ## The engine -/

namespace DiagnosticEngine

variable {snapshot : TelemetrySnapshot} {timestamp : ℕ}

theorem setState_self (engine : DiagnosticEngine) (code : String) :
    engine.setState code (engine.states code) = engine := by
  unfold setState
  rw [Function.update_eq_self]

/-- What a loop returns when it runs again: nothing, or the same exception. -/
def repeatedResult : Except PyException (List DiagnosticEvent) → Except PyException (List DiagnosticEvent)
  | .ok _ => .ok []
  | .error error => .error error

/-- A rule that is left alone is evaluated without an event. -/
theorem evaluateRule_again {rule : DiagnosticRule} {engine : DiagnosticEngine}
    {raised : Option PyException}
    (h : rule.evaluate (engine.states rule.code) snapshot timestamp =
      { state := engine.states rule.code, raised }) :
    afterRule snapshot timestamp rule engine = engine := by
  rw [afterRule_eq, h]
  exact setState_self engine rule.code

theorem repeatedResult_map (result : Except PyException (List DiagnosticEvent))
    (f : List DiagnosticEvent → List DiagnosticEvent) :
    repeatedResult (result.map f) = repeatedResult result := by
  cases result <;> rfl

/-- The loop evaluates a rule that it has evaluated before to the same state. -/
theorem evaluateRules_again (htime : snapshot.observationTimestampMicroseconds = some timestamp)
    {rules : List DiagnosticRule} (hnested : ∀ rule ∈ rules, rule.Nested)
    (hnodup : (rules.map DiagnosticRule.code).Nodup) (engine : DiagnosticEngine)
    (hsettled : ∀ code, (engine.states code).Settled) :
    evaluateRules snapshot timestamp rules (evaluateRules snapshot timestamp rules engine).2 =
      (repeatedResult (evaluateRules snapshot timestamp rules engine).1,
        (evaluateRules snapshot timestamp rules engine).2) := by
  -- Induction on the rules: the first one is evaluated again in the state that all left.
  induction rules generalizing engine with
  | nil => rfl
  | cons rule rest ih =>
    obtain ⟨hfresh, hrest⟩ := List.nodup_cons.1 hnodup
    have hown : (afterRule snapshot timestamp rule engine).states rule.code =
        (rule.evaluate (engine.states rule.code) snapshot timestamp).state := by
      rw [afterRule_states, Function.update_self]
    have hagain := DiagnosticRule.evaluate_evaluate snapshot timestamp
      (hnested rule List.mem_cons_self) (hsettled rule.code)
    rw [← hown] at hagain
    cases hraised : (rule.evaluate (engine.states rule.code) snapshot timestamp).raised with
    -- A rule that raises again ends the loop at the same place.
    | some error =>
      rw [hraised] at hagain
      rw [evaluateRules_cons_raised hraised,
        evaluateRules_cons_raised (by rw [hagain]), evaluateRule_again hagain]
      rfl
    | none =>
      rw [hraised] at hagain
      have hlater := ih (fun other hmem => hnested other (List.mem_cons_of_mem _ hmem)) hrest
        (afterRule snapshot timestamp rule engine) fun code => by
          rw [afterRule_states, Function.update_apply]
          split
          · exact DiagnosticRule.evaluate_settled (hsettled _)
          · exact hsettled code
      -- the later rules have other codes, so the rule finds the state it left
      have hkept := ((evaluateRules_ruleStep htime hrest (fun _ hmem => hmem)
        (afterRule snapshot timestamp rule engine) rule.code).2 hfresh).1
      rw [← hkept] at hagain
      rw [evaluateRules_cons_none hraised]
      simp only []
      rw [evaluateRules_cons_none (by rw [hagain]), evaluateRule_again hagain, hlater, hagain]
      simp only [repeatedResult_map]
      cases (evaluateRules snapshot timestamp rest (afterRule snapshot timestamp rule engine)).1 <;>
        rfl

@[simp] theorem appendEvents_latest (code : String) (records : List EventRecord)
    (engine : DiagnosticEngine) :
    (appendEvents timestamp code records engine).2.latestTelemetryFrameSequence =
      engine.latestTelemetryFrameSequence := by
  induction records generalizing engine with
  | nil => rfl
  | cons record rest ih => exact ih _

theorem evaluateRules_latest (rules : List DiagnosticRule) (engine : DiagnosticEngine) :
    (evaluateRules snapshot timestamp rules engine).2.latestTelemetryFrameSequence =
      engine.latestTelemetryFrameSequence := by
  have hafter : ∀ rule engine, (afterRule snapshot timestamp rule engine).latestTelemetryFrameSequence =
      engine.latestTelemetryFrameSequence := by
    intro rule engine
    rw [afterRule_eq, appendEvents_latest]
    rfl
  induction rules generalizing engine with
  | nil => rfl
  | cons rule rest ih =>
    cases hraised : (rule.evaluate (engine.states rule.code) snapshot timestamp).raised with
    | some error => rw [evaluateRules_cons_raised hraised, hafter]
    | none =>
      rw [evaluateRules_cons_none hraised]
      exact (ih _).trans (hafter rule engine)

/-- An engine that has observed the snapshot observes it again. -/
theorem observe_again {engine : DiagnosticEngine}
    (htime : engine.observationTimestampMicroseconds = some timestamp)
    (hlatest : engine.latestTelemetryFrameSequence = snapshot.lastFrameSequence) :
    engine.observe snapshot timestamp = engine := by
  unfold observe
  rw [← htime, ← hlatest]

/-- Ingesting a snapshot again changes nothing. -/
theorem ingest_again {engine : DiagnosticEngine}
    (hnested : ∀ rule ∈ engine.catalog.rules, rule.Nested)
    (hsettled : ∀ code, (engine.states code).Settled) :
    (engine.ingest snapshot).2.ingest snapshot =
      (repeatedResult (engine.ingest snapshot).1, (engine.ingest snapshot).2) := by
  cases htime : snapshot.observationTimestampMicroseconds with
  | none => simp only [ingest, htime, repeatedResult]
  | some timestamp =>
    -- A snapshot that moves backward is refused both times; any other is observed again.
    by_cases hback : engine.movesBackward timestamp = true
    · simp only [ingest, htime, hback, if_true, repeatedResult]
    · have hingest : engine.ingest snapshot = evaluateRules snapshot timestamp engine.catalog.rules
          (engine.observe snapshot timestamp) := by
        simp only [ingest, htime, hback, if_false, Bool.false_eq_true]
        rfl
      have hobservation : (engine.ingest snapshot).2.observationTimestampMicroseconds =
          some timestamp := by
        rw [hingest]
        exact evaluateRules_observation_eq _ _
      have hcatalog : (engine.ingest snapshot).2.catalog = engine.catalog := by
        rw [hingest]
        exact (evaluateRules_configuration snapshot timestamp _ (engine.observe snapshot _)).1
      have hforward : (engine.ingest snapshot).2.movesBackward timestamp = false := by
        simp [movesBackward, hobservation]
      have hagain : (engine.ingest snapshot).2.ingest snapshot =
          evaluateRules snapshot timestamp engine.catalog.rules (engine.ingest snapshot).2 := by
        have hobserve : (engine.ingest snapshot).2.observe snapshot timestamp =
            (engine.ingest snapshot).2 := by
          refine observe_again hobservation ?_
          rw [hingest]
          exact evaluateRules_latest _ _
        rw [ingest, htime]
        change (if _ then _ else evaluateRules snapshot timestamp
          (engine.ingest snapshot).2.catalog.rules
            ((engine.ingest snapshot).2.observe snapshot timestamp)) = _
        rw [hforward, if_neg Bool.false_ne_true, hobserve, hcatalog]
      rw [hagain, hingest]
      exact evaluateRules_again htime hnested engine.catalog.codes_nodup
        (engine.observe snapshot timestamp) hsettled

end DiagnosticEngine

theorem settled_fresh : RuleState.Settled {} := ⟨fun _ => rfl, nofun, nofun⟩

theorem RuleStep.settled {rules : List DiagnosticRule} {code : String}
    {state after : RuleState} {next : DiagnosticCall} {events : List DiagnosticEvent}
    {now : Option ℕ} (h : state.Settled) (hstep : RuleStep rules code state next after events now) :
    after.Settled := by
  cases hstep with
  | kept => exact h
  | evaluated time mem codes records times => exact DiagnosticRule.evaluate_settled h
  | cleared found historical records times =>
    refine ⟨fun _ => h.recovery ?_, h.notActive, h.notPending⟩
    simp [RuleState.status, found, historical]

/-- A catalog that is accepted has the rules it was given. -/
theorem DiagnosticCatalog.rules_of_create {rules : List DiagnosticRule}
    {signalCatalog : SignalCatalog} {catalog : DiagnosticCatalog}
    (h : DiagnosticCatalog.create rules signalCatalog = .ok catalog) : catalog.rules = rules := by
  have hfold : ∀ (rules : List DiagnosticRule) (start catalog : DiagnosticCatalog),
      rules.foldlM (addRule signalCatalog) start = .ok catalog →
        catalog.rules = start.rules ++ rules := by
    intro rules
    induction rules with
    | nil =>
      intro start catalog h
      cases h
      rw [List.append_nil]
    | cons rule rest ih =>
      intro start catalog h
      rw [List.foldlM_cons] at h
      obtain ⟨added, hadded, hrest⟩ := bind_eq_ok.1 h
      rw [ih added catalog hrest]
      unfold addRule at hadded
      split at hadded
      · cases hadded
      · split at hadded
        · cases hadded
        · split at hadded <;> cases hadded
          rw [List.append_assoc]
          rfl
  exact hfold rules DiagnosticCatalog.empty catalog h

/-- Ingesting a snapshot a second time leaves every reachable engine with the default catalog as
the first time did, and emits nothing: it raises what the first call raised, and returns no events
where that returned, as it does for typed samples that are not before the last observation. -/
theorem snapshots_are_ingested_once (signalCatalog : SignalCatalog) {catalog : DiagnosticCatalog}
    (hcatalog : createDefaultDiagnosticCatalog signalCatalog = .ok catalog) (eventCapacity : ℕ)
    (calls : List DiagnosticCall) (snapshot : TelemetrySnapshot) (htyped : snapshot.Typed) :
    let engine := (DiagnosticEngine.fresh catalog eventCapacity).after calls
    let once := (engine.ingest snapshot).2
    (once.ingest snapshot).2 = once ∧
    (∀ events, (engine.ingest snapshot).1 = .ok events → (once.ingest snapshot).1 = .ok []) ∧
    (∀ error, (engine.ingest snapshot).1 = .error error →
      (once.ingest snapshot).1 = .error error) ∧
    (∀ timestamp sequence, snapshot.observationTimestampMicroseconds = some timestamp →
      snapshot.lastFrameSequence = some sequence →
      (∀ earlier, engine.observationTimestampMicroseconds = some earlier → earlier ≤ timestamp) →
      (once.ingest snapshot).1 = .ok []) := by
  intro engine once
  have hrules : engine.catalog.rules = defaultRules := by
    rw [(DiagnosticEngine.after_configuration _ calls).1]
    exact DiagnosticCatalog.rules_of_create hcatalog
  have hsettled : ∀ code, (engine.states code).Settled := fun code =>
    DiagnosticEngine.after_invariant (fun hstate hstep => RuleStep.settled hstate hstep) rfl
      (fun _ => settled_fresh) calls code
  have hagain : once.ingest snapshot =
      (DiagnosticEngine.repeatedResult (engine.ingest snapshot).1, once) :=
    DiagnosticEngine.ingest_again (by rw [hrules]; exact defaultRules_nested) hsettled
  rw [hagain]
  refine ⟨rfl, ?_, ?_, ?_⟩
  · intro events hok
    simp only [hok, DiagnosticEngine.repeatedResult]
  · intro error herror
    simp only [herror, DiagnosticEngine.repeatedResult]
  · intro timestamp sequence htime hsequence hlater
    obtain ⟨events, next, hok⟩ := DiagnosticEngine.ingest_returns
      (by rw [hrules]; exact defaultRules_return) htyped hsequence htime hlater
    simp only [hok, DiagnosticEngine.repeatedResult]

theorem coolantSnapshot_typed (value : ℚ) (timestamp sequence : ℕ) :
    (coolantSnapshot value timestamp sequence).Typed := by
  intro key sample h
  rw [coolantSnapshot, Dict.get?_set] at h
  split at h
  · next hkey =>
    cases h
    rw [hkey]
    exact (by decide : SignalKey.coolant.signalName ≠ "EngineRunning")
  · cases h

/-- The snapshot that confirms a hot coolant is ingested twice. -/
theorem confirming_snapshot_is_ingested_once :
    let engine := (DiagnosticEngine.fresh Pipeline.defaultDiagnosticCatalog 8).after
      [.ingest (coolantSnapshot 120 0 0)]
    let once := (engine.ingest (coolantSnapshot 120 5000000 1)).2
    (once.ingest (coolantSnapshot 120 5000000 1)).2 = once ∧
      (once.ingest (coolantSnapshot 120 5000000 1)).1 = .ok [] := by
  obtain ⟨hstate, -, -, hreturns⟩ := snapshots_are_ingested_once Pipeline.packagedCatalog
    Pipeline.createDiagnosticCatalog_packaged 8 [.ingest (coolantSnapshot 120 0 0)]
    (coolantSnapshot 120 5000000 1) (coolantSnapshot_typed _ _ _)
  refine ⟨hstate, hreturns 5000000 1 rfl rfl ?_⟩
  intro earlier hearlier
  cases hearlier
  decide

end TunerOs
