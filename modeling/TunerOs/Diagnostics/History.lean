-- SUMMARY: Confirmation and recovery as persistence over the history of a run: what the two timers of a rule stand for.
import TunerOs.Diagnostics.Journal
import TunerOs.Lib.Persistence

/-!
# Confirmation and recovery over histories

The engine decides confirmation and recovery with two timers per rule. This file
shows that the timers track how long the rule's condition has been violated, or
has been normal under its latched thresholds, since the last break, over every
run of ingests and clears.
-/

namespace TunerOs

open Persistence

/-! ## One evaluation

An evaluation is one of six: the inputs are stale, or the condition is violated or
normal, each on an inactive and on an active record. -/

/-- The outcome appends an event of the type. -/
def RuleOutcome.Emits (outcome : RuleOutcome) (eventType : DiagnosticEventType) : Prop :=
  ∃ record ∈ outcome.emitted, record.eventType = eventType

/-- Every required signal has a sample and it is fresh. -/
def DiagnosticRule.InputsFresh (rule : DiagnosticRule) (snapshot : TelemetrySnapshot) : Prop :=
  ∀ key ∈ rule.definition.requiredSignals,
    (∃ sample, snapshot.samples.get? key = some sample) ∧
      snapshot.freshness.get? key = some .fresh

/-- The condition is violated under its activation thresholds. -/
def DiagnosticRule.Violates (rule : DiagnosticRule) (snapshot : TelemetrySnapshot) : Prop :=
  rule.InputsFresh snapshot ∧ rule.condition snapshot false = .ok .violation

/-- The condition is not violated under its latched thresholds. -/
def DiagnosticRule.Recovers (rule : DiagnosticRule) (snapshot : TelemetrySnapshot) : Prop :=
  rule.InputsFresh snapshot ∧ rule.condition snapshot true = .ok .normal

namespace DiagnosticRule

variable {rule : DiagnosticRule} {state : RuleState} {snapshot : TelemetrySnapshot} {t : ℕ}

theorem inputsAreFresh_iff : rule.inputsAreFresh snapshot = true ↔ rule.InputsFresh snapshot := by
  simp only [inputsAreFresh, InputsFresh, List.all_eq_true, Bool.and_eq_true, decide_eq_true_eq,
    Option.isSome_iff_exists]

theorem evaluate_stale (hstale : ¬ rule.InputsFresh snapshot) :
    rule.evaluate state snapshot t =
      { state := { state with
          conditionStartedTimestampMicroseconds := none
          recoveryStartedTimestampMicroseconds := none } } := by
  have hfalse : rule.inputsAreFresh snapshot = false :=
    Bool.eq_false_iff.2 (fun h => hstale (inputsAreFresh_iff.1 h))
  simp [evaluate, hfalse]

theorem evaluate_violation (hfresh : rule.InputsFresh snapshot)
    (hcondition : rule.condition snapshot (state.status = some .active) = .ok .violation) :
    rule.evaluate state snapshot t =
      rule.handleViolation { state with recoveryStartedTimestampMicroseconds := none }
        snapshot t := by
  simp [evaluate, inputsAreFresh_iff.2 hfresh, hcondition]

theorem evaluate_normal (hfresh : rule.InputsFresh snapshot)
    (hcondition : rule.condition snapshot (state.status = some .active) = .ok .normal) :
    rule.evaluate state snapshot t = rule.handleNormal state t := by
  simp [evaluate, inputsAreFresh_iff.2 hfresh, hcondition]

/-- An evaluation that does not raise read a result from its condition. -/
theorem condition_of_raised_none (hfresh : rule.InputsFresh snapshot)
    (hraised : (rule.evaluate state snapshot t).raised = none) :
    ∃ result, rule.condition snapshot (state.status = some .active) = .ok result := by
  cases hcondition : rule.condition snapshot (state.status = some .active) with
  | ok result => exact ⟨result, rfl⟩
  | error error => simp [evaluate, inputsAreFresh_iff.2 hfresh, hcondition] at hraised

/-- Where entering `PENDING` starts the clock, when the timer runs only while pending. -/
theorem enterPending_started
    (htimer : state.conditionStartedTimestampMicroseconds.isSome → state.status = some .pending) :
    (rule.enterPending state t).started =
      state.conditionStartedTimestampMicroseconds.getD t := by
  have hidle : state.status ≠ some .pending → state.conditionStartedTimestampMicroseconds = none :=
    fun hstatus => Option.not_isSome_iff_eq_none.1 (fun hsome => hstatus (htimer hsome))
  unfold enterPending
  cases hdtc : state.dtc with
  | none => simp [hidle (by simp [RuleState.status, hdtc])]
  | some dtc =>
    by_cases hpending : dtc.status = .pending
    · simp [hpending]
    · simp [hpending, hidle (by simp [RuleState.status, hdtc, hpending])]

/-- Entering `PENDING` appends at most the detection of the condition. -/
theorem enterPending_emitted (rule : DiagnosticRule) (state : RuleState) (t : ℕ) :
    ∀ record ∈ (rule.enterPending state t).emitted, record.eventType = .conditionDetected := by
  intro record hrecord
  unfold enterPending at hrecord
  cases hdtc : state.dtc with
  | none => simp_all
  | some dtc => by_cases hpending : dtc.status = .pending <;> simp_all

theorem handleViolation_active (rule : DiagnosticRule) (state : RuleState)
    (snapshot : TelemetrySnapshot) (t : ℕ) (hactive : state.status = some .active) :
    (rule.handleViolation state snapshot t).emitted = [] ∧
    (rule.handleViolation state snapshot t).state.status = some .active ∧
    (rule.handleViolation state snapshot t).state.conditionStartedTimestampMicroseconds =
      state.conditionStartedTimestampMicroseconds ∧
    (rule.handleViolation state snapshot t).state.recoveryStartedTimestampMicroseconds =
      state.recoveryStartedTimestampMicroseconds := by
  rw [handleViolation, if_pos hactive]
  obtain ⟨dtc, hdtc, hstatus⟩ := Option.map_eq_some_iff.1 hactive
  simp [RuleState.status, hdtc, hstatus]

/-- A violation whose duration has passed confirms, unless the freeze frame cannot be taken. -/
theorem handleViolation_due (hinactive : state.status ≠ some .active)
    (hdue : (rule.enterPending state t).started +
      rule.definition.confirmationDurationMicroseconds ≤ t)
    (hraised : (rule.handleViolation state snapshot t).raised = none) :
    (rule.handleViolation state snapshot t).emitted =
      (rule.enterPending state t).emitted ++ [⟨.dtcConfirmed, some .pending, some .active⟩] ∧
    (rule.handleViolation state snapshot t).state.status = some .active ∧
    (rule.handleViolation state snapshot t).state.conditionStartedTimestampMicroseconds = none ∧
    (rule.handleViolation state snapshot t).state.recoveryStartedTimestampMicroseconds =
      state.recoveryStartedTimestampMicroseconds := by
  have hconfirm : rule.handleViolation state snapshot t =
      rule.confirm state (rule.enterPending state t) snapshot t := by
    simp only [handleViolation, hinactive, ↓reduceIte, hdue]
  rw [hconfirm] at hraised ⊢
  unfold confirm at hraised ⊢
  simp only [] at hraised ⊢
  split at hraised
  · cases hraised
  · simp [RuleState.status]

theorem handleViolation_not_due (snapshot : TelemetrySnapshot)
    (hinactive : state.status ≠ some .active)
    (hdue : ¬ (rule.enterPending state t).started +
      rule.definition.confirmationDurationMicroseconds ≤ t) :
    (rule.handleViolation state snapshot t).emitted = (rule.enterPending state t).emitted ∧
    (rule.handleViolation state snapshot t).state.status = some .pending ∧
    (rule.handleViolation state snapshot t).state.conditionStartedTimestampMicroseconds =
      some (rule.enterPending state t).started ∧
    (rule.handleViolation state snapshot t).state.recoveryStartedTimestampMicroseconds =
      state.recoveryStartedTimestampMicroseconds := by
  have hrecord := (enterPending_path rule state t).2
  rw [handleViolation, if_neg hinactive]
  simp only [hdue, ↓reduceIte, RuleState.status, Option.map_some, hrecord, and_self]

/-- A normal evaluation of an inactive record stops the confirmation timer. -/
theorem handleNormal_inactive (rule : DiagnosticRule) (t : ℕ)
    (hinactive : state.status ≠ some .active)
    (hrecovery : state.recoveryStartedTimestampMicroseconds = none) :
    (∀ record ∈ (rule.handleNormal state t).emitted, record.eventType = .conditionCleared) ∧
    (rule.handleNormal state t).state.conditionStartedTimestampMicroseconds = none ∧
    (rule.handleNormal state t).state.recoveryStartedTimestampMicroseconds = none := by
  unfold handleNormal
  simp only []
  cases hdtc : state.dtc with
  | none => simp [hrecovery]
  | some dtc =>
    cases hstatus : dtc.status with
    | pending => simp [hrecovery, hstatus]
    | active => simp [RuleState.status, hdtc, hstatus] at hinactive
    | historical => simp [hstatus]
    | cleared => simp [hstatus]

theorem handleNormal_due (hactive : state.status = some .active)
    (hdue : state.recoveryStartedTimestampMicroseconds.getD t +
      rule.definition.recoveryDurationMicroseconds ≤ t) :
    (rule.handleNormal state t).emitted = [⟨.dtcRecovered, some .active, some .historical⟩] ∧
    (rule.handleNormal state t).state.status = some .historical ∧
    (rule.handleNormal state t).state.conditionStartedTimestampMicroseconds = none ∧
    (rule.handleNormal state t).state.recoveryStartedTimestampMicroseconds = none := by
  obtain ⟨dtc, hdtc, hstatus⟩ := Option.map_eq_some_iff.1 hactive
  simp [handleNormal, hdtc, hstatus, hdue, RuleState.status]

theorem handleNormal_not_due (hactive : state.status = some .active)
    (hdue : ¬ state.recoveryStartedTimestampMicroseconds.getD t +
      rule.definition.recoveryDurationMicroseconds ≤ t) :
    (rule.handleNormal state t).emitted = [] ∧
    (rule.handleNormal state t).state.status = some .active ∧
    (rule.handleNormal state t).state.conditionStartedTimestampMicroseconds = none ∧
    (rule.handleNormal state t).state.recoveryStartedTimestampMicroseconds =
      some (state.recoveryStartedTimestampMicroseconds.getD t) := by
  obtain ⟨dtc, hdtc, hstatus⟩ := Option.map_eq_some_iff.1 hactive
  simp [handleNormal, hdtc, hstatus, hdue, RuleState.status]

end DiagnosticRule

/-! ## The timers over a history

`violated` and `recovering` are the two conditions the timers are to measure, as
predicates on the numbered steps of a run. -/

section Timers

variable {stamp : ℕ → Option ℕ} {violated recovering : ℕ → Prop}

/-- The timers of the state before step `n` track the two conditions. The confirmation timer
runs only on a pending record, the recovery timer only on an active one. -/
structure TimersTrack (stamp : ℕ → Option ℕ) (violated recovering : ℕ → Prop) (n : ℕ)
    (state : RuleState) : Prop where
  confirmation : state.status ≠ some .active →
    Tracks stamp violated n state.conditionStartedTimestampMicroseconds
  recovery : state.status = some .active →
    Tracks stamp recovering n state.recoveryStartedTimestampMicroseconds
  pending : state.conditionStartedTimestampMicroseconds.isSome → state.status = some .pending
  active : state.recoveryStartedTimestampMicroseconds.isSome → state.status = some .active

/-- The next state keeps both timers, and is in a status on which a timer runs exactly when
the state is. -/
structure RuleState.SameTimers (state next : RuleState) : Prop where
  condition : next.conditionStartedTimestampMicroseconds =
    state.conditionStartedTimestampMicroseconds
  recovery : next.recoveryStartedTimestampMicroseconds = state.recoveryStartedTimestampMicroseconds
  active : next.status = some .active ↔ state.status = some .active
  pending : next.status = some .pending ↔ state.status = some .pending

theorem RuleState.SameTimers.refl (state : RuleState) : state.SameTimers state :=
  ⟨rfl, rfl, Iff.rfl, Iff.rfl⟩

theorem timersTrack_fresh : TimersTrack stamp violated recovering 0 {} where
  confirmation := fun _ => tracks_zero
  recovery := fun _ => tracks_zero
  pending := by simp
  active := by simp

namespace TimersTrack

variable {n : ℕ} {state : RuleState}

theorem condition_none_of_active (h : TimersTrack stamp violated recovering n state)
    (hactive : state.status = some .active) :
    state.conditionStartedTimestampMicroseconds = none := by
  refine Option.not_isSome_iff_eq_none.1 (fun hsome => ?_)
  have hpending := h.pending hsome
  rw [hactive] at hpending
  cases hpending

theorem recovery_none_of_inactive (h : TimersTrack stamp violated recovering n state)
    (hinactive : state.status ≠ some .active) :
    state.recoveryStartedTimestampMicroseconds = none :=
  Option.not_isSome_iff_eq_none.1 (fun hsome => hinactive (h.active hsome))

/-- A state whose timers are both stopped, after a step at which neither condition held, or at
which the condition that its status measures did not. -/
theorem stopped {next : RuleState}
    (hcondition : next.conditionStartedTimestampMicroseconds = none)
    (hrecovery : next.recoveryStartedTimestampMicroseconds = none)
    (hviolated : next.status ≠ some .active → ¬ violated n)
    (hrecovering : next.status = some .active → ¬ recovering n) :
    TimersTrack stamp violated recovering (n + 1) next where
  confirmation := fun hinactive => hcondition ▸ tracks_break (hviolated hinactive)
  recovery := fun hactive => hrecovery ▸ tracks_break (hrecovering hactive)
  pending := by simp [hcondition]
  active := by simp [hrecovery]

/-- A step without a timestamp that keeps the timers keeps the invariant. -/
theorem skip (h : TimersTrack stamp violated recovering n state) {next : RuleState}
    (hstamp : stamp n = none) (hviolated : violated n ↔ state.status ≠ some .active)
    (hrecovering : recovering n ↔ state.status = some .active) (hsame : state.SameTimers next) :
    TimersTrack stamp violated recovering (n + 1) next where
  confirmation := fun hnext => by
    have hinactive : state.status ≠ some .active := fun hstate => hnext (hsame.active.2 hstate)
    rw [hsame.condition]
    exact (h.confirmation hinactive).skip hstamp (hviolated.2 hinactive)
  recovery := fun hnext => by
    have hactive : state.status = some .active := hsame.active.1 hnext
    rw [hsame.recovery]
    exact (h.recovery hactive).skip hstamp (hrecovering.2 hactive)
  pending := fun hsome => hsame.pending.2 (h.pending (hsame.condition ▸ hsome))
  active := fun hsome => hsame.active.2 (h.active (hsame.recovery ▸ hsome))

variable {rule : DiagnosticRule} {snapshot : TelemetrySnapshot} {t : ℕ}

/-- What a stamped step decides: the next timers, and both events by persistence. -/
structure Decides (stamp : ℕ → Option ℕ) (violated recovering : ℕ → Prop) (n t : ℕ)
    (rule : DiagnosticRule) (outcome : RuleOutcome) : Prop where
  timers : TimersTrack stamp violated recovering (n + 1) outcome.state
  confirms : outcome.Emits .dtcConfirmed ↔ ∃ s, HeldSince stamp violated (n + 1) s ∧
    s + rule.definition.confirmationDurationMicroseconds ≤ t
  recovers : outcome.Emits .dtcRecovered ↔ ∃ s, HeldSince stamp recovering (n + 1) s ∧
    s + rule.definition.recoveryDurationMicroseconds ≤ t

/-- A stamped step at which neither condition holds appends neither event. -/
theorem decides_neither {outcome : RuleOutcome}
    (timers : TimersTrack stamp violated recovering (n + 1) outcome.state)
    (hconfirm : ¬ outcome.Emits .dtcConfirmed) (hrecover : ¬ outcome.Emits .dtcRecovered)
    (hviolated : ¬ violated n) (hrecovering : ¬ recovering n) :
    Decides stamp violated recovering n t rule outcome where
  timers := timers
  confirms := iff_of_false hconfirm
    (fun ⟨s, hs, _⟩ => not_heldSince_of_not hviolated ⟨s, hs⟩)
  recovers := iff_of_false hrecover
    (fun ⟨s, hs, _⟩ => not_heldSince_of_not hrecovering ⟨s, hs⟩)

theorem decides_stale (hstale : ¬ rule.InputsFresh snapshot) (hviolated : ¬ violated n)
    (hrecovering : ¬ recovering n) :
    Decides stamp violated recovering n t rule (rule.evaluate state snapshot t) := by
  rw [rule.evaluate_stale hstale]
  refine decides_neither (stopped rfl rfl (fun _ => hviolated) (fun _ => hrecovering)) ?_ ?_
    hviolated hrecovering
  · simp [RuleOutcome.Emits]
  · simp [RuleOutcome.Emits]

/-- A violation of an inactive record: the confirmation timer runs from the first one. -/
theorem violation_inactive (h : TimersTrack stamp violated recovering n state)
    (hinactive : state.status ≠ some .active) (hstamp : stamp n = some t)
    (hmono : ∀ j s, j < n → stamp j = some s → s ≤ t)
    (hviolated : violated n) (hrecovering : ¬ recovering n)
    (hraised : (rule.handleViolation
      { state with recoveryStartedTimestampMicroseconds := none } snapshot t).raised = none) :
    Decides stamp violated recovering n t rule (rule.handleViolation
      { state with recoveryStartedTimestampMicroseconds := none } snapshot t) := by
  generalize hentry : ({ state with recoveryStartedTimestampMicroseconds := none } : RuleState) =
    restarted at hraised ⊢
  have hstatus : restarted.status ≠ some .active := by
    rw [← hentry]
    exact hinactive
  have hrecovery : restarted.recoveryStartedTimestampMicroseconds = none := by rw [← hentry]
  have hstarted : (rule.enterPending restarted t).started =
      state.conditionStartedTimestampMicroseconds.getD t := by
    rw [← hentry]
    exact DiagnosticRule.enterPending_started (fun hsome => h.pending hsome)
  have htracks := (h.confirmation hinactive).hold hstamp hviolated hmono
  rw [← hstarted] at htracks
  have hemitted := rule.enterPending_emitted restarted t
  have hnorecovery : ¬ ∃ s, HeldSince stamp recovering (n + 1) s ∧
      s + rule.definition.recoveryDurationMicroseconds ≤ t :=
    fun ⟨s, hs, _⟩ => not_heldSince_of_not hrecovering ⟨s, hs⟩
  -- The confirmation is due exactly if the condition has held for its duration.
  by_cases hdue : (rule.enterPending restarted t).started +
      rule.definition.confirmationDurationMicroseconds ≤ t
  · obtain ⟨hevents, hnext, hcondition, hrecovery'⟩ :=
      DiagnosticRule.handleViolation_due hstatus hdue hraised
    refine ⟨stopped hcondition (hrecovery'.trans hrecovery) (fun hne => absurd hnext hne)
      (fun _ => hrecovering), ?_, ?_⟩
    · refine iff_of_true ?_ (htracks.due_iff.1 hdue)
      exact ⟨_, by rw [hevents]; exact List.mem_append_right _ (List.mem_singleton_self _), rfl⟩
    -- The detection and the confirmation are the only records, and neither is a recovery.
    · refine iff_of_false ?_ hnorecovery
      rintro ⟨record, hrecord, htype⟩
      rw [hevents] at hrecord
      rcases List.mem_append.1 hrecord with hdetected | hconfirmed
      · rw [hemitted record hdetected] at htype
        cases htype
      · rw [List.mem_singleton.1 hconfirmed] at htype
        cases htype
  · obtain ⟨hevents, hnext, hcondition, hrecovery'⟩ :=
      DiagnosticRule.handleViolation_not_due snapshot hstatus hdue
    have hnone : ∀ eventType, eventType ≠ .conditionDetected →
        ¬ (rule.handleViolation restarted snapshot t).Emits eventType := by
      rintro eventType hne ⟨record, hrecord, htype⟩
      rw [hevents] at hrecord
      exact hne (htype.symm.trans (hemitted record hrecord))
    refine ⟨⟨?_, ?_, ?_, ?_⟩, ?_, ?_⟩
    · intro _
      rw [hcondition]
      exact htracks
    · intro hactive
      rw [hnext] at hactive
      cases hactive
    · exact fun _ => hnext
    · rw [hrecovery', hrecovery]
      simp
    · exact iff_of_false (hnone _ (by decide)) (fun hheld => hdue (htracks.due_iff.2 hheld))
    · exact iff_of_false (hnone _ (by decide)) hnorecovery

/-- A violation of an active record under its latched thresholds stops the recovery timer. -/
theorem violation_active (h : TimersTrack stamp violated recovering n state)
    (hactive : state.status = some .active) (hviolated : ¬ violated n)
    (hrecovering : ¬ recovering n) :
    Decides stamp violated recovering n t rule (rule.handleViolation
      { state with recoveryStartedTimestampMicroseconds := none } snapshot t) := by
  obtain ⟨hevents, hnext, hcondition, hrecovery⟩ :=
    DiagnosticRule.handleViolation_active rule
      { state with recoveryStartedTimestampMicroseconds := none } snapshot t hactive
  refine decides_neither (stopped (hcondition.trans (h.condition_none_of_active hactive))
    hrecovery (fun hne => absurd hnext hne) (fun _ => hrecovering)) ?_ ?_ hviolated hrecovering
  · simp [RuleOutcome.Emits, hevents]
  · simp [RuleOutcome.Emits, hevents]

/-- A normal evaluation of an inactive record stops the confirmation timer. -/
theorem normal_inactive (h : TimersTrack stamp violated recovering n state)
    (hinactive : state.status ≠ some .active) (hviolated : ¬ violated n)
    (hrecovering : ¬ recovering n) :
    Decides stamp violated recovering n t rule (rule.handleNormal state t) := by
  obtain ⟨hevents, hcondition, hrecovery⟩ :=
    DiagnosticRule.handleNormal_inactive rule t hinactive
      (h.recovery_none_of_inactive hinactive)
  have hnone : ∀ eventType, eventType ≠ .conditionCleared →
      ¬ (rule.handleNormal state t).Emits eventType := by
    rintro eventType hne ⟨record, hrecord, htype⟩
    exact hne (htype.symm.trans (hevents record hrecord))
  exact decides_neither (stopped hcondition hrecovery (fun _ => hviolated) (fun _ => hrecovering))
    (hnone _ (by decide)) (hnone _ (by decide)) hviolated hrecovering

/-- A normal evaluation of an active record: the recovery timer runs from the first one. -/
theorem normal_active (h : TimersTrack stamp violated recovering n state)
    (hactive : state.status = some .active) (hstamp : stamp n = some t)
    (hmono : ∀ j s, j < n → stamp j = some s → s ≤ t)
    (hviolated : ¬ violated n) (hrecovering : recovering n) :
    Decides stamp violated recovering n t rule (rule.handleNormal state t) := by
  have htracks := (h.recovery hactive).hold hstamp hrecovering hmono
  have hnoconfirm : ¬ ∃ s, HeldSince stamp violated (n + 1) s ∧
      s + rule.definition.confirmationDurationMicroseconds ≤ t :=
    fun ⟨s, hs, _⟩ => not_heldSince_of_not hviolated ⟨s, hs⟩
  by_cases hdue : state.recoveryStartedTimestampMicroseconds.getD t +
      rule.definition.recoveryDurationMicroseconds ≤ t
  · obtain ⟨hevents, hnext, hcondition, hrecovery⟩ := DiagnosticRule.handleNormal_due hactive hdue
    refine ⟨stopped hcondition hrecovery (fun _ => hviolated) ?_, ?_, ?_⟩
    · intro hstill
      rw [hnext] at hstill
      cases hstill
    · exact iff_of_false (by simp [RuleOutcome.Emits, hevents]) hnoconfirm
    · exact iff_of_true (by simp [RuleOutcome.Emits, hevents]) (htracks.due_iff.1 hdue)
  · obtain ⟨hevents, hnext, hcondition, hrecovery⟩ :=
      DiagnosticRule.handleNormal_not_due hactive hdue
    refine ⟨⟨?_, ?_, ?_, ?_⟩, ?_, ?_⟩
    · exact fun hinactive => absurd hnext hinactive
    · intro _
      rw [hrecovery]
      exact htracks
    · simp [hcondition]
    · exact fun _ => hnext
    · exact iff_of_false (by simp [RuleOutcome.Emits, hevents]) hnoconfirm
    · exact iff_of_false (by simp [RuleOutcome.Emits, hevents])
        (fun hheld => hdue (htracks.due_iff.2 hheld))

/-- Every evaluation that does not raise decides both events by persistence. -/
theorem evaluate (h : TimersTrack stamp violated recovering n state)
    (hstamp : stamp n = some t) (hmono : ∀ j s, j < n → stamp j = some s → s ≤ t)
    (hviolated : violated n ↔ state.status ≠ some .active ∧ rule.Violates snapshot)
    (hrecovering : recovering n ↔ state.status = some .active ∧ rule.Recovers snapshot)
    (hraised : (rule.evaluate state snapshot t).raised = none) :
    Decides stamp violated recovering n t rule (rule.evaluate state snapshot t) := by
  -- Fresh inputs are tested against the threshold of the status; stale ones decide nothing.
  by_cases hfresh : rule.InputsFresh snapshot
  · obtain ⟨result, hcondition⟩ := rule.condition_of_raised_none hfresh hraised
    by_cases hactive : state.status = some .active
    · have hlatched : rule.condition snapshot true = .ok result := by
        simpa [hactive] using hcondition
      -- An active rule can only recover.
      have hnot : ¬ violated n := fun hn => (hviolated.1 hn).1 hactive
      cases result with
      | violation =>
        rw [rule.evaluate_violation hfresh hcondition]
        refine h.violation_active hactive hnot (fun hn => ?_)
        have hnormal := (hrecovering.1 hn).2.2
        rw [hlatched] at hnormal
        cases hnormal
      | normal =>
        rw [rule.evaluate_normal hfresh hcondition]
        exact h.normal_active hactive hstamp hmono hnot
          (hrecovering.2 ⟨hactive, hfresh, hlatched⟩)
    · have hactivation : rule.condition snapshot false = .ok result := by
        simpa [hactive] using hcondition
      -- A rule that is not active can only be violated.
      have hnot : ¬ recovering n := fun hn => hactive (hrecovering.1 hn).1
      cases result with
      | violation =>
        rw [rule.evaluate_violation hfresh hcondition] at hraised ⊢
        exact h.violation_inactive hactive hstamp hmono
          (hviolated.2 ⟨hactive, hfresh, hactivation⟩) hnot hraised
      | normal =>
        rw [rule.evaluate_normal hfresh hcondition]
        refine h.normal_inactive hactive (fun hn => ?_) hnot
        have hviolation := (hviolated.1 hn).2.2
        rw [hactivation] at hviolation
        cases hviolation
  · exact decides_stale hfresh (fun hn => hfresh (hviolated.1 hn).2.1)
      (fun hn => hfresh (hrecovering.1 hn).2.1)

end TimersTrack

end Timers

/-! ## Runs -/

namespace DiagnosticEngine

/-- A loop that returns evaluated each rule once, on its own state as it was before the loop. -/
theorem evaluateRules_rule {snapshot : TelemetrySnapshot} {timestamp : ℕ}
    {rules : List DiagnosticRule} {engine engine' : DiagnosticEngine}
    {events : List DiagnosticEvent} (hnodup : (rules.map DiagnosticRule.code).Nodup)
    (h : evaluateRules snapshot timestamp rules engine = (.ok events, engine')) :
    (∀ rule ∈ rules,
      (rule.evaluate (engine.states rule.code) snapshot timestamp).raised = none ∧
      engine'.states rule.code =
        (rule.evaluate (engine.states rule.code) snapshot timestamp).state ∧
      (eventsOf rule.code events).map recordOf =
        (rule.evaluate (engine.states rule.code) snapshot timestamp).emitted) ∧
    (∀ code, code ∉ rules.map DiagnosticRule.code →
      engine'.states code = engine.states code ∧ eventsOf code events = []) := by
  -- Induction on the rules. Their codes differ, so the later rules leave the state and the
  -- events of the first one alone.
  induction rules generalizing engine events with
  | nil =>
    cases h
    exact ⟨by simp, fun code _ => ⟨rfl, rfl⟩⟩
  | cons first rest ih =>
    obtain ⟨own, later, between, hfirst, hlater, rfl⟩ := evaluateRules_cons_ok h
    obtain ⟨hraised, happend⟩ := evaluateRule_ok hfirst
    simp only [List.map_cons, List.nodup_cons] at hnodup
    obtain ⟨hrest, hother⟩ := ih hnodup.2 hlater
    have hown_code := appendEvents_code_time timestamp first.code
      (first.evaluate (engine.states first.code) snapshot timestamp).emitted
      (engine.setState first.code
        (first.evaluate (engine.states first.code) snapshot timestamp).state)
    have hown_records := appendEvents_records timestamp first.code
      (first.evaluate (engine.states first.code) snapshot timestamp).emitted
      (engine.setState first.code
        (first.evaluate (engine.states first.code) snapshot timestamp).state)
    rw [← happend] at hown_code hown_records
    have hstates : between.states = Function.update engine.states first.code
        (first.evaluate (engine.states first.code) snapshot timestamp).state := by
      have hengine := congrArg (fun pair => pair.2.states) happend
      simpa using hengine
    have hown_self : eventsOf first.code own = own :=
      List.filter_eq_self.2 (fun event hevent => by simp [(hown_code event hevent).1])
    have hown_other : ∀ code, code ≠ first.code → eventsOf code own = [] :=
      fun code hne => List.filter_eq_nil_iff.2 (fun event hevent => by
        simp [(hown_code event hevent).1, Ne.symm hne])
    refine ⟨?_, ?_⟩
    · intro rule hrule
      rcases List.mem_cons.1 hrule with rfl | hrule
      · obtain ⟨hstate, hevents⟩ := hother rule.code hnodup.1
        rw [eventsOf_append, hown_self, hevents, List.append_nil, hstate, hstates,
          Function.update_self]
        exact ⟨hraised, rfl, hown_records⟩
      · have hne : rule.code ≠ first.code := by
          intro heq
          exact hnodup.1 (heq ▸ List.mem_map_of_mem hrule)
        have hsame : between.states rule.code = engine.states rule.code := by
          rw [hstates, Function.update_of_ne hne]
        rw [eventsOf_append, hown_other rule.code hne, List.nil_append, ← hsame]
        exact hrest rule hrule
    · intro code hcode
      simp only [List.map_cons, List.mem_cons, not_or] at hcode
      obtain ⟨hstate, hevents⟩ := hother code hcode.2
      rw [eventsOf_append, hown_other code hcode.1, hevents, hstate, hstates,
        Function.update_of_ne hcode.1]
      exact ⟨rfl, rfl⟩

/-- Evaluating rules does not move the engine's clock. -/
theorem evaluateRules_observation {snapshot : TelemetrySnapshot} {timestamp : ℕ}
    {rules : List DiagnosticRule} {engine engine' : DiagnosticEngine}
    {events : List DiagnosticEvent}
    (h : evaluateRules snapshot timestamp rules engine = (.ok events, engine')) :
    engine'.observationTimestampMicroseconds = engine.observationTimestampMicroseconds := by
  induction rules generalizing engine events with
  | nil =>
    cases h
    rfl
  | cons rule rest ih =>
    obtain ⟨first, later, between, hfirst, hlater, -⟩ := evaluateRules_cons_ok h
    obtain ⟨-, happend⟩ := evaluateRule_ok hfirst
    have hbetween := congrArg (fun pair => pair.2.observationTimestampMicroseconds) happend
    rw [ih hlater]
    simpa using hbetween

/-- A clear that returns keeps the clock and the timers of every rule. -/
theorem clear_keeps {engine : DiagnosticEngine} {code : String} {result : ClearResult}
    (h : engine.clear code = .ok result) :
    result.engine.observationTimestampMicroseconds = engine.observationTimestampMicroseconds ∧
    ∀ other, (engine.states other).SameTimers (result.engine.states other) := by
  rcases clear_ok h with ⟨-, hengine⟩ | ⟨dtc, timestamp, hdtc, hstatus, -, happend⟩
  · rw [hengine]
    exact ⟨rfl, fun other => .refl _⟩
  · have hclock := congrArg (fun pair => pair.2.observationTimestampMicroseconds) happend
    have hstates := congrArg (fun pair => pair.2.states) happend
    simp only [appendEvents_states, setState_states] at hstates
    refine ⟨by simpa using hclock, ?_⟩
    intro other
    rw [hstates]
    by_cases hother : other = code
    · subst hother
      -- the record moves from `HISTORICAL` to `CLEARED`, on neither of which a timer runs
      rw [Function.update_self]
      constructor <;> simp [RuleState.status, hdtc, hstatus]
    · rw [Function.update_of_ne hother]
      exact .refl _

/-- The engine a list of calls leaves, whether they return or raise. -/
def after (engine : DiagnosticEngine) (calls : List DiagnosticCall) : DiagnosticEngine :=
  calls.foldl (fun engine next => (engine.call next).2) engine

theorem after_configuration (engine : DiagnosticEngine) (calls : List DiagnosticCall) :
    engine.SameConfiguration (engine.after calls) := by
  induction calls generalizing engine with
  | nil => exact ⟨rfl, rfl⟩
  | cons next rest ih =>
    have hcall := call_configuration engine next
    have hrest := ih (engine.call next).2
    exact ⟨hrest.1.trans hcall.1, hrest.2.trans hcall.2⟩

end DiagnosticEngine

section Runs

variable (catalog : DiagnosticCatalog) (eventCapacity : ℕ) (calls : List DiagnosticCall)

/-- The engine before call `i` of a run on a fresh engine. -/
def engineBefore (i : ℕ) : DiagnosticEngine :=
  (DiagnosticEngine.fresh catalog eventCapacity).after (calls.take i)

/-- The DTC of the rule is `ACTIVE` before call `i`. -/
def ActiveBefore (rule : DiagnosticRule) (i : ℕ) : Prop :=
  ((engineBefore catalog eventCapacity calls i).states rule.code).status = some .active

/-- Call `i` ingests a snapshot observed at `t`. -/
def IngestAt (i : ℕ) (snapshot : TelemetrySnapshot) (t : ℕ) : Prop :=
  calls[i]? = some (.ingest snapshot) ∧ snapshot.observationTimestampMicroseconds = some t

/-- Every call of `ingest` in the run returns. Calls of `clear` may raise. -/
def IngestsReturn : Prop :=
  ∀ i snapshot, calls[i]? = some (.ingest snapshot) →
    ∃ events, ((engineBefore catalog eventCapacity calls i).ingest snapshot).1 = .ok events

/-- The observation timestamp of call `i`, if it is an ingest of an observed snapshot. -/
def stampAt (i : ℕ) : Option ℕ :=
  match calls[i]? with
  | some (.ingest snapshot) => snapshot.observationTimestampMicroseconds
  | _ => none

/-- Before call `i` the DTC is not `ACTIVE`, and if the call is an ingest it finds the inputs
fresh and the condition violated under its activation thresholds. -/
def ViolatedAt (rule : DiagnosticRule) (i : ℕ) : Prop :=
  ¬ ActiveBefore catalog eventCapacity calls rule i ∧
    ∀ snapshot t, IngestAt calls i snapshot t → rule.Violates snapshot

/-- Before call `i` the DTC is `ACTIVE`, and if the call is an ingest it finds the inputs
fresh and the condition not violated under its latched thresholds. -/
def RecoveringAt (rule : DiagnosticRule) (i : ℕ) : Prop :=
  ActiveBefore catalog eventCapacity calls rule i ∧
    ∀ snapshot t, IngestAt calls i snapshot t → rule.Recovers snapshot

variable {catalog eventCapacity calls}

theorem IngestAt.stampAt {i t : ℕ} {snapshot : TelemetrySnapshot}
    (h : IngestAt calls i snapshot t) : stampAt calls i = some t := by
  simp only [TunerOs.stampAt, h.1, h.2]

theorem ingestAt_of_stampAt {i t : ℕ} (h : stampAt calls i = some t) :
    ∃ snapshot, IngestAt calls i snapshot t := by
  unfold stampAt at h
  split at h
  · rename_i snapshot hcall
    exact ⟨snapshot, hcall, h⟩
  · cases h

theorem engineBefore_succ (catalog : DiagnosticCatalog) (eventCapacity : ℕ) {i : ℕ}
    {next : DiagnosticCall} (h : calls[i]? = some next) :
    engineBefore catalog eventCapacity calls (i + 1) =
      ((engineBefore catalog eventCapacity calls i).call next).2 := by
  have htake : calls.take (i + 1) = calls.take i ++ [next] := by
    rw [List.take_add_one, h]
    rfl
  rw [engineBefore, htake, DiagnosticEngine.after, List.foldl_append]
  rfl

/-- What holds before call `i` of a run: the engine's clock is that of the last observed
ingest, and the timers of every rule track the two conditions. -/
structure TimersOf (catalog : DiagnosticCatalog) (eventCapacity : ℕ)
    (calls : List DiagnosticCall) (i : ℕ) : Prop where
  clock : ∀ j s, j < i → stampAt calls j = some s →
    ∃ now, (engineBefore catalog eventCapacity calls i).observationTimestampMicroseconds =
      some now ∧ s ≤ now
  timers : ∀ rule ∈ catalog.rules,
    TimersTrack (stampAt calls) (ViolatedAt catalog eventCapacity calls rule)
      (RecoveringAt catalog eventCapacity calls rule) i
      ((engineBefore catalog eventCapacity calls i).states rule.code)

theorem engineBefore_zero :
    engineBefore catalog eventCapacity calls 0 = DiagnosticEngine.fresh catalog eventCapacity := by
  simp [engineBefore, DiagnosticEngine.after]

theorem engineBefore_catalog (i : ℕ) :
    (engineBefore catalog eventCapacity calls i).catalog = catalog :=
  (DiagnosticEngine.after_configuration _ _).1

theorem timersOf_zero : TimersOf catalog eventCapacity calls 0 where
  clock := fun j _ hj => absurd hj (Nat.not_lt_zero j)
  timers := fun rule _ => by
    rw [engineBefore_zero]
    exact timersTrack_fresh

/-- A call that is not an ingest of an observed snapshot, and keeps the clock and the timers. -/
theorem TimersOf.skip {i : ℕ} (h : TimersOf catalog eventCapacity calls i)
    (hstamp : stampAt calls i = none)
    (hclock : (engineBefore catalog eventCapacity calls (i + 1)).observationTimestampMicroseconds =
      (engineBefore catalog eventCapacity calls i).observationTimestampMicroseconds)
    (hkeep : ∀ code, ((engineBefore catalog eventCapacity calls i).states code).SameTimers
      ((engineBefore catalog eventCapacity calls (i + 1)).states code)) :
    TimersOf catalog eventCapacity calls (i + 1) where
  clock := by
    intro j s hj hs
    rcases Nat.lt_or_ge j i with hlt | hge
    · rw [hclock]
      exact h.clock j s hlt hs
    · have hji : j = i := by omega
      rw [hji, hstamp] at hs
      cases hs
  timers := by
    intro rule hrule
    have hnone : ∀ snapshot t, ¬ IngestAt calls i snapshot t := by
      intro snapshot t hingest
      rw [hingest.stampAt] at hstamp
      cases hstamp
    refine (h.timers rule hrule).skip hstamp ?_ ?_ (hkeep rule.code)
    · exact ⟨fun hv => hv.1, fun hinactive => ⟨hinactive, fun snapshot t hingest =>
        absurd hingest (hnone snapshot t)⟩⟩
    · exact ⟨fun hr => hr.1, fun hactive => ⟨hactive, fun snapshot t hingest =>
        absurd hingest (hnone snapshot t)⟩⟩

/-- An ingest of an observed snapshot decides both events of every rule by persistence. -/
theorem TimersOf.ingest {i t : ℕ} {snapshot : TelemetrySnapshot}
    (h : TimersOf catalog eventCapacity calls i)
    (hreturn : IngestsReturn catalog eventCapacity calls)
    (hingest : IngestAt calls i snapshot t) :
    TimersOf catalog eventCapacity calls (i + 1) ∧
    ∃ events, ((engineBefore catalog eventCapacity calls i).ingest snapshot).1 = .ok events ∧
      ∀ rule ∈ catalog.rules, ∃ outcome,
        outcome = rule.evaluate ((engineBefore catalog eventCapacity calls i).states rule.code)
          snapshot t ∧
        (engineBefore catalog eventCapacity calls (i + 1)).states rule.code = outcome.state ∧
        (eventsOf rule.code events).map DiagnosticEngine.recordOf = outcome.emitted ∧
        TimersTrack.Decides (stampAt calls) (ViolatedAt catalog eventCapacity calls rule)
          (RecoveringAt catalog eventCapacity calls rule) i t rule outcome := by
  obtain ⟨events, hevents⟩ := hreturn i snapshot hingest.1
  have hafter : engineBefore catalog eventCapacity calls (i + 1) =
      ((engineBefore catalog eventCapacity calls i).ingest snapshot).2 :=
    engineBefore_succ _ _ hingest.1
  have hresult : (engineBefore catalog eventCapacity calls i).ingest snapshot =
      (.ok events, engineBefore catalog eventCapacity calls (i + 1)) := by
    rw [← hevents, hafter]
  -- An ingest with a time that returns has evaluated every rule.
  rcases DiagnosticEngine.ingest_ok hresult with ⟨hnone, -, -⟩ | ⟨now, hnow, hlater, hrules⟩
  · rw [hingest.2] at hnone
    cases hnone
  rw [hingest.2] at hnow
  cases hnow
  rw [engineBefore_catalog] at hrules
  obtain ⟨hrule, -⟩ := DiagnosticEngine.evaluateRules_rule catalog.codes_nodup hrules
  have hclock := DiagnosticEngine.evaluateRules_observation hrules
  -- Times do not go back, and the call at i has one snapshot only.
  have hmono : ∀ j s, j < i → stampAt calls j = some s → s ≤ t := by
    intro j s hj hs
    obtain ⟨earlier, hearlier, hle⟩ := h.clock j s hj hs
    exact hle.trans (hlater earlier hearlier)
  have hdecides : ∀ rule ∈ catalog.rules,
      TimersTrack.Decides (stampAt calls) (ViolatedAt catalog eventCapacity calls rule)
        (RecoveringAt catalog eventCapacity calls rule) i t rule
        (rule.evaluate ((engineBefore catalog eventCapacity calls i).states rule.code)
          snapshot t) := by
    intro rule hmem
    have hall : ∀ P : TelemetrySnapshot → Prop,
        (∀ observed s, IngestAt calls i observed s → P observed) ↔ P snapshot := by
      intro P
      refine ⟨fun hP => hP snapshot t hingest, fun hP observed s hobserved => ?_⟩
      have hsame := hobserved.1.symm.trans hingest.1
      cases hsame
      exact hP
    exact (h.timers rule hmem).evaluate hingest.stampAt hmono
      (and_congr_right fun _ => hall rule.Violates) (and_congr_right fun _ => hall rule.Recovers)
      (hrule rule hmem).1
  refine ⟨⟨?_, ?_⟩, events, hevents, ?_⟩
  · intro j s hj hs
    refine ⟨t, hclock, ?_⟩
    -- The call at i is the new latest one.
    rcases Nat.lt_or_ge j i with hlt | hge
    · exact hmono j s hlt hs
    · have hji : j = i := by omega
      rw [hji, hingest.stampAt] at hs
      cases hs
      exact le_rfl
  · intro rule hmem
    rw [(hrule rule hmem).2.1]
    exact (hdecides rule hmem).timers
  · intro rule hmem
    exact ⟨_, rfl, (hrule rule hmem).2.1, (hrule rule hmem).2.2, hdecides rule hmem⟩

/-- The timers track both conditions before every call of a run. -/
theorem timersOf (hreturn : IngestsReturn catalog eventCapacity calls) (i : ℕ) :
    TimersOf catalog eventCapacity calls i := by
  -- Induction on the calls made; only an ingest with a time is a step of the timers.
  induction i with
  | zero => exact timersOf_zero
  | succ i ih =>
    cases hcall : calls[i]? with
    | none =>
      have hsame : engineBefore catalog eventCapacity calls (i + 1) =
          engineBefore catalog eventCapacity calls i := by
        have hlen : calls.length ≤ i := List.getElem?_eq_none_iff.1 hcall
        rw [engineBefore, engineBefore, List.take_of_length_le hlen,
          List.take_of_length_le (by omega)]
      refine ih.skip (by simp only [stampAt, hcall]) ?_ ?_
      · rw [hsame]
      · intro code
        rw [hsame]
        exact .refl _
    | some next =>
      have hafter := engineBefore_succ catalog eventCapacity hcall
      cases next with
      | clear code =>
        have hstamp : stampAt calls i = none := by simp only [stampAt, hcall]
        simp only [DiagnosticEngine.call] at hafter
        cases hclear : (engineBefore catalog eventCapacity calls i).clear code with
        -- A clear that raises changes nothing, and one that returns keeps every timer.
        | error error =>
          rw [hclear] at hafter
          refine ih.skip hstamp (by rw [hafter]) (fun other => ?_)
          rw [hafter]
          exact .refl _
        | ok result =>
          rw [hclear] at hafter
          have hkeep := DiagnosticEngine.clear_keeps hclear
          refine ih.skip hstamp (by rw [hafter]; exact hkeep.1) (fun other => ?_)
          rw [hafter]
          exact hkeep.2 other
      | ingest snapshot =>
        cases hobs : snapshot.observationTimestampMicroseconds with
        | some t => exact (ih.ingest hreturn ⟨hcall, hobs⟩).1
        | none =>
          have hsame : engineBefore catalog eventCapacity calls (i + 1) =
              engineBefore catalog eventCapacity calls i := by
            rw [hafter]
            simp only [DiagnosticEngine.call, DiagnosticEngine.ingest, hobs]
          refine ih.skip (by simp only [stampAt, hcall, hobs]) (by rw [hsame]) (fun code => ?_)
          rw [hsame]
          exact .refl _

end Runs

/-! ## The history theorem -/

theorem emits_iff_mem {code : String} {events : List DiagnosticEvent} {outcome : RuleOutcome}
    (h : (eventsOf code events).map DiagnosticEngine.recordOf = outcome.emitted)
    (eventType : DiagnosticEventType) :
    outcome.Emits eventType ↔
      ∃ event ∈ events, event.code = code ∧ event.eventType = eventType := by
  constructor
  · rintro ⟨record, hrecord, htype⟩
    rw [← h] at hrecord
    obtain ⟨event, hevent, rfl⟩ := List.mem_map.1 hrecord
    obtain ⟨hmem, hcode⟩ := List.mem_filter.1 hevent
    exact ⟨event, hmem, by simpa using hcode, htype⟩
  · rintro ⟨event, hmem, hcode, htype⟩
    refine ⟨DiagnosticEngine.recordOf event, ?_, htype⟩
    rw [← h]
    exact List.mem_map_of_mem (List.mem_filter.2 ⟨hmem, by simpa using hcode⟩)

/-- A condition that has held since a stamped step has held since some ingest. -/
theorem exists_heldSince_iff {calls : List DiagnosticCall} {holds : ℕ → Prop} {i t duration : ℕ} :
    (∃ s, HeldSince (stampAt calls) holds (i + 1) s ∧ s + duration ≤ t) ↔
      ∃ j ≤ i, ∃ first start, IngestAt calls j first start ∧
        (∀ k, j ≤ k → k ≤ i → holds k) ∧ start + duration ≤ t := by
  constructor
  · rintro ⟨s, ⟨j, hj, hstamp, hheld⟩, hdue⟩
    obtain ⟨first, hfirst⟩ := ingestAt_of_stampAt hstamp
    exact ⟨j, Nat.lt_succ_iff.1 hj, first, s, hfirst,
      fun k hjk hki => hheld k hjk (Nat.lt_succ_of_le hki), hdue⟩
  · rintro ⟨j, hj, first, start, hfirst, hheld, hdue⟩
    exact ⟨start, ⟨j, Nat.lt_succ_of_le hj, hfirst.stampAt,
      fun k hjk hki => hheld k hjk (Nat.lt_succ_iff.1 hki)⟩, hdue⟩

/-- Over every run of ingests and clears: a rule's DTC is confirmed at an ingest exactly when it
is inactive and has been violated, on fresh inputs, at every ingest since one at least the
confirmation duration ago; it recovers exactly when it is active and has been normal under its
latched thresholds since one at least the recovery duration ago; and stale inputs do neither and
stop both timers. -/
theorem confirmed_and_recovered_by_persistence (catalog : DiagnosticCatalog) (eventCapacity : ℕ)
    (calls : List DiagnosticCall) (hreturn : IngestsReturn catalog eventCapacity calls)
    (rule : DiagnosticRule) (hrule : rule ∈ catalog.rules) (i t : ℕ)
    (snapshot : TelemetrySnapshot) (hingest : IngestAt calls i snapshot t) :
    ∃ events, ((engineBefore catalog eventCapacity calls i).ingest snapshot).1 = .ok events ∧
    ((∃ event ∈ events, event.code = rule.code ∧ event.eventType = .dtcConfirmed) ↔
      ¬ ActiveBefore catalog eventCapacity calls rule i ∧
      ∃ j ≤ i, ∃ first start, IngestAt calls j first start ∧
        (∀ k, j ≤ k → k ≤ i → ViolatedAt catalog eventCapacity calls rule k) ∧
        start + rule.definition.confirmationDurationMicroseconds ≤ t) ∧
    ((∃ event ∈ events, event.code = rule.code ∧ event.eventType = .dtcRecovered) ↔
      ActiveBefore catalog eventCapacity calls rule i ∧
      ∃ j ≤ i, ∃ first start, IngestAt calls j first start ∧
        (∀ k, j ≤ k → k ≤ i → RecoveringAt catalog eventCapacity calls rule k) ∧
        start + rule.definition.recoveryDurationMicroseconds ≤ t) ∧
    (¬ rule.InputsFresh snapshot →
      eventsOf rule.code events = [] ∧
      ((engineBefore catalog eventCapacity calls (i + 1)).states
        rule.code).conditionStartedTimestampMicroseconds = none ∧
      ((engineBefore catalog eventCapacity calls (i + 1)).states
        rule.code).recoveryStartedTimestampMicroseconds = none) := by
  obtain ⟨-, events, hevents, hall⟩ := (timersOf hreturn i).ingest hreturn hingest
  obtain ⟨outcome, houtcome, hstate, hemitted, hdecides⟩ := hall rule hrule
  refine ⟨events, hevents, ?_, ?_, ?_⟩
  · rw [← emits_iff_mem hemitted, hdecides.confirms, exists_heldSince_iff]
    refine ⟨fun h => ⟨?_, h⟩, fun h => h.2⟩
    obtain ⟨j, hj, first, start, -, hheld, -⟩ := h
    exact (hheld i hj le_rfl).1
  · rw [← emits_iff_mem hemitted, hdecides.recovers, exists_heldSince_iff]
    refine ⟨fun h => ⟨?_, h⟩, fun h => h.2⟩
    obtain ⟨j, hj, first, start, -, hheld, -⟩ := h
    exact (hheld i hj le_rfl).1
  · intro hstale
    rw [DiagnosticRule.evaluate_stale hstale] at houtcome
    rw [hstate, houtcome]
    refine ⟨?_, rfl, rfl⟩
    rw [houtcome] at hemitted
    exact List.map_eq_nil_iff.1 hemitted

theorem coolantCalls_return : IngestsReturn coolantCatalog 2 coolantCalls := by
  intro i snapshot hcall
  match i with
  | 0 =>
    cases hcall
    exact ⟨_, rfl⟩
  | 1 =>
    cases hcall
    exact ⟨_, rfl⟩
  | 2 =>
    cases hcall
    exact ⟨_, rfl⟩
  | 3 =>
    cases hcall
    exact ⟨_, rfl⟩
  | _ + 4 => cases hcall

/-- The rule recovers at 9 s, as it was active and normal since an ingest 3 s earlier. -/
theorem coolant_recovered_by_persistence :
    ActiveBefore coolantCatalog 2 coolantCalls coolantTemperatureHigh 3 ∧
    ∃ j ≤ 3, ∃ first start, IngestAt coolantCalls j first start ∧
      (∀ k, j ≤ k → k ≤ 3 →
        RecoveringAt coolantCatalog 2 coolantCalls coolantTemperatureHigh k) ∧
      start + coolantTemperatureHigh.definition.recoveryDurationMicroseconds ≤ 9000000 := by
  obtain ⟨events, hevents, -, hrecovered, -⟩ :=
    confirmed_and_recovered_by_persistence coolantCatalog 2 coolantCalls coolantCalls_return
      coolantTemperatureHigh (List.mem_singleton_self _) 3 9000000
      (coolantSnapshot 100 9000000 3) ⟨rfl, rfl⟩
  have hemitted : events =
      [⟨2, 9000000, "TUN-DME-001", .dtcRecovered, some .active, some .historical⟩] :=
    Except.ok.inj (hevents.symm.trans rfl)
  refine hrecovered.1 ⟨_, by rw [hemitted]; exact List.mem_singleton_self _, rfl, rfl⟩

/-- A snapshot with an oil temperature and, if there is one, a coolant value. -/
def temperatureSnapshot (coolant : Option SignalValue) (oil : ℚ) (timestamp sequence : ℕ) :
    TelemetrySnapshot :=
  let sample := fun key value =>
    { key, value, timestampMicroseconds := timestamp, frameSequence := sequence
      arbitrationId := 0x102, messageName := "DmeThermalElectrical", sourceEcu := "DME"
      unit := "degC" : SignalSample }
  let oilSample := Containers.Dict.empty.set .oil (sample .oil (.float oil))
  let snapshot := coolantSnapshot oil timestamp sequence
  match coolant with
  | none =>
    { snapshot with
      samples := oilSample
      freshness := Containers.Dict.empty.set .oil .fresh }
  | some value =>
    { snapshot with
      samples := oilSample.set .coolant (sample .coolant value)
      freshness := (Containers.Dict.empty.set .oil .fresh).set .coolant .fresh }

def temperatureCatalog : DiagnosticCatalog where
  rules := [coolantTemperatureHigh, oilTemperatureHigh]
  codes_nodup := by decide
  ruleIds_nodup := by decide

/-- Hot oil at 0 s and at 5 s. In between it is not hot, but a coolant temperature that is no number
stops the evaluation of the rules before the oil's. -/
def raisingCalls : List DiagnosticCall :=
  [.ingest (temperatureSnapshot none 140 0 0),
    .ingest (temperatureSnapshot (some (.bool true)) 100 2500000 1),
    .ingest (temperatureSnapshot none 140 5000000 2)]

/-- The oil rule confirms at 5 s, though it was normal in the last 5 s. -/
theorem skipped_rule_keeps_its_timer :
    (∀ j k s t, j ≤ k → stampAt raisingCalls j = some s → stampAt raisingCalls k = some t →
      s ≤ t) ∧
    ∃ snapshot events, IngestAt raisingCalls 2 snapshot 5000000 ∧
      ((engineBefore temperatureCatalog 2 raisingCalls 2).ingest snapshot).1 = .ok events ∧
      (∃ event ∈ events, event.code = oilTemperatureHigh.code ∧
        event.eventType = .dtcConfirmed) ∧
      ¬ ∃ j ≤ 2, ∃ first start, IngestAt raisingCalls j first start ∧
        (∀ k, j ≤ k → k ≤ 2 →
          ViolatedAt temperatureCatalog 2 raisingCalls oilTemperatureHigh k) ∧
        start + oilTemperatureHigh.definition.confirmationDurationMicroseconds ≤ 5000000 := by
  refine ⟨?_, temperatureSnapshot none 140 5000000 2,
    [⟨1, 5000000, "TUN-DME-002", .dtcConfirmed, some .pending, some .active⟩], ⟨rfl, rfl⟩, rfl,
    ⟨_, List.mem_cons_self, rfl, rfl⟩, ?_⟩
  · intro j k s t hjk hs ht
    match j, k with
    | 0, _ =>
      cases hs
      exact Nat.zero_le t
    | 1, 1 | 2, 2 =>
      rw [hs] at ht
      exact (Option.some.inj ht).le
    | 1, 2 =>
      cases hs
      cases ht
      decide
    | 1, 0 | 2, 0 | 2, 1 => omega
    | _ + 3, _ => cases hs
    | _, _ + 3 => cases ht
  · rintro ⟨j, hj, first, start, hfirst, hheld, hdue⟩
    obtain hearly | rfl : j ≤ 1 ∨ j = 2 := by omega
    · have hnormal := (hheld 1 hearly (by decide)).2 _ 2500000 ⟨rfl, rfl⟩
      exact absurd hnormal.2 (by decide)
    · cases hfirst.1
      cases hfirst.2
      exact absurd hdue (by decide)

end TunerOs
