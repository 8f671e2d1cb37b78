-- SUMMARY: On snapshots of correctly typed samples the default rules raise nothing, so ingesting one in time order returns.
import TunerOs.Diagnostics.Engine
import TunerOs.Lib.Fallible

/-!
# Diagnostics that return

A rule reads its signals only when all of them are observed and fresh. With the
types the decoder gives them, its condition returns, and so does the engine.
-/

namespace TunerOs

open Containers Fallible

/-- The value has the type the decoder gives to signals of this name; an integer, which the
decoder gives to none, is one that `float` converts. -/
def SignalValue.TypedAs (signalName : String) : SignalValue → Prop
  | .bool _ => signalName = "EngineRunning"
  | .int value => signalName ≠ "EngineRunning" ∧ FitsFloat value
  | .float _ => signalName ≠ "EngineRunning"

def TelemetrySnapshot.Typed (snapshot : TelemetrySnapshot) : Prop :=
  ∀ key sample, snapshot.samples.get? key = some sample → sample.value.TypedAs key.signalName

section Conditions

variable {snapshot : TelemetrySnapshot} {key : SignalKey}

theorem number_of_typed (htyped : snapshot.Typed) (hsome : (snapshot.samples.get? key).isSome)
    (hname : key.signalName ≠ "EngineRunning") : ∃ value, number snapshot key = .ok value := by
  obtain ⟨sample, hsample⟩ := Option.isSome_iff_exists.1 hsome
  have hvalue := htyped key sample hsample
  unfold number
  rw [hsample]
  cases hkind : sample.value with
  | bool value =>
    rw [hkind] at hvalue
    exact absurd hvalue hname
  | int value =>
    rw [hkind] at hvalue
    simp only [hkind, if_pos hvalue.2]
    exact ⟨_, rfl⟩
  | float value =>
    simp only [hkind]
    exact ⟨_, rfl⟩

theorem boolean_of_typed (htyped : snapshot.Typed) (hsome : (snapshot.samples.get? key).isSome)
    (hname : key.signalName = "EngineRunning") : ∃ value, boolean snapshot key = .ok value := by
  obtain ⟨sample, hsample⟩ := Option.isSome_iff_exists.1 hsome
  have hvalue := htyped key sample hsample
  unfold boolean
  rw [hsample]
  cases hkind : sample.value with
  | bool value =>
    simp only [hkind]
    exact ⟨_, rfl⟩
  | int value =>
    rw [hkind] at hvalue
    exact absurd hname hvalue.1
  | float value =>
    rw [hkind] at hvalue
    exact absurd hname hvalue

/-! ## When conditions return -/

theorem highThreshold_returns_iff (condition : HighThresholdCondition) (active : Bool) :
    (∃ result, condition.evaluate snapshot active = .ok result) ↔
      ∃ value, number snapshot condition.signal = .ok value := by
  cases hvalue : number snapshot condition.signal with
  | error error =>
    simp only [HighThresholdCondition.evaluate, hvalue, bind, Except.bind, reduceCtorEq, exists_false]
  | ok value =>
    simp only [HighThresholdCondition.evaluate, hvalue, bind, Except.bind]
    exact ⟨fun _ => ⟨value, rfl⟩, fun _ => ⟨_, rfl⟩⟩

/-- The number is read only while the context is true. -/
theorem lowWhileTrue_returns_iff (condition : LowWhileTrueCondition) (active : Bool) :
    (∃ result, condition.evaluate snapshot active = .ok result) ↔
      ∃ context, boolean snapshot condition.context = .ok context ∧
        (context = true → ∃ value, number snapshot condition.signal = .ok value) := by
  unfold LowWhileTrueCondition.evaluate
  cases hcontext : boolean snapshot condition.context with
  | error error => simp only [bind, Except.bind, reduceCtorEq, false_and, exists_false]
  | ok context =>
    cases hvalue : number snapshot condition.signal <;> cases context <;>
      simp [bind, Except.bind, pure, Except.pure]

theorem outsideRange_returns_iff (condition : OutsideRangeWhileTrueCondition) (active : Bool) :
    (∃ result, condition.evaluate snapshot active = .ok result) ↔
      ∃ context, boolean snapshot condition.context = .ok context ∧
        (context = true → ∃ value, number snapshot condition.signal = .ok value) := by
  unfold OutsideRangeWhileTrueCondition.evaluate
  cases hcontext : boolean snapshot condition.context with
  | error error => simp only [bind, Except.bind, reduceCtorEq, false_and, exists_false]
  | ok context =>
    cases hvalue : number snapshot condition.signal <;> cases context <;>
      simp [bind, Except.bind, pure, Except.pure]

theorem disagreement_returns_iff (condition : SignalDisagreementCondition) (active : Bool)
    (hne : condition.comparedSignals ≠ []) :
    (∃ result, condition.evaluate snapshot active = .ok result) ↔
      (∃ value, number snapshot condition.referenceSignal = .ok value) ∧
        ∀ key ∈ condition.comparedSignals, ∃ value, number snapshot key = .ok value := by
  unfold SignalDisagreementCondition.evaluate
  cases hreference : number snapshot condition.referenceSignal with
  | error error => simp only [bind, Except.bind, reduceCtorEq, exists_false, false_and]
  | ok reference =>
    have hdelta : ∀ key, (∃ delta, (do
        return |(← number snapshot key) - reference| : Except PyException ℚ) = .ok delta) ↔
          ∃ value, number snapshot key = .ok value := by
      intro key
      cases number snapshot key <;> simp [bind, Except.bind, pure, Except.pure]
    constructor
    · rintro ⟨result, hresult⟩
      refine ⟨⟨reference, rfl⟩, fun key hmem => ?_⟩
      obtain ⟨_, hvalue, hrest⟩ := bind_eq_ok.1 hresult
      cases hvalue
      obtain ⟨deltas, hdeltas, -⟩ := bind_eq_ok.1 hrest
      exact (hdelta key).1 (exists_of_mapM hdeltas hmem)
    · rintro ⟨-, hvalues⟩
      obtain ⟨deltas, hdeltas⟩ := exists_mapM fun key hmem => (hdelta key).2 (hvalues key hmem)
      have hlength := (forall₂_of_mapM hdeltas).length_eq
      cases deltas with
      | nil => exact absurd (List.length_eq_zero_iff.1 hlength) hne
      | cons delta rest =>
        refine ⟨conditionResult (decide ((if active then condition.recoveryDelta
          else condition.activationDelta) < rest.foldl max delta)), ?_⟩
        simp only [bind, Except.bind] at hdeltas ⊢
        rw [hdeltas]
        rfl

/-- The condition returns on every typed snapshot in which all inputs are observed. -/
def DiagnosticRule.Returns (rule : DiagnosticRule) : Prop :=
  ∀ (snapshot : TelemetrySnapshot) active, snapshot.Typed →
    (∀ key ∈ rule.definition.requiredSignals, (snapshot.samples.get? key).isSome) →
      ∃ result, rule.condition snapshot active = .ok result

theorem defaultRules_return : ∀ rule ∈ defaultRules, rule.Returns := by
  intro rule hmem snapshot active htyped hsome
  simp only [defaultRules, List.mem_cons, List.not_mem_nil, or_false] at hmem
  rcases hmem with rfl | rfl | rfl | rfl | rfl
  · exact (highThreshold_returns_iff _ active).2
      (number_of_typed htyped (hsome .coolant (by decide)) (by decide))
  · exact (highThreshold_returns_iff _ active).2
      (number_of_typed htyped (hsome .oil (by decide)) (by decide))
  · obtain ⟨context, hcontext⟩ := boolean_of_typed htyped (hsome .engineRunning (by decide)) rfl
    exact (lowWhileTrue_returns_iff _ active).2 ⟨context, hcontext, fun _ =>
      number_of_typed htyped (hsome .battery (by decide)) (by decide)⟩
  · obtain ⟨context, hcontext⟩ := boolean_of_typed htyped (hsome .engineRunning (by decide)) rfl
    exact (outsideRange_returns_iff _ active).2 ⟨context, hcontext, fun _ =>
      number_of_typed htyped (hsome .manifoldPressure (by decide)) (by decide)⟩
  · have hnames : ∀ key ∈ wheelSpeeds, key.signalName ≠ "EngineRunning" := by decide
    refine (disagreement_returns_iff _ active (by decide)).2
      ⟨number_of_typed htyped (hsome .vehicleSpeed (by decide)) (by decide), fun key hkey => ?_⟩
    exact number_of_typed htyped (hsome key (List.mem_append_left _ hkey)) (hnames key hkey)

end Conditions

namespace DiagnosticRule

theorem handleNormal_raised (rule : DiagnosticRule) (state : RuleState) (timestamp : ℕ) :
    (rule.handleNormal state timestamp).raised = none := by
  unfold handleNormal
  simp only []
  split
  · rfl
  · split
    · rfl
    · split <;> rfl
    · rfl

/-- A freeze frame can be captured once a frame is accepted, so confirming does not raise. -/
theorem handleViolation_raised (rule : DiagnosticRule) (state : RuleState)
    {snapshot : TelemetrySnapshot} {sequence : ℕ}
    (hsequence : snapshot.lastFrameSequence = some sequence) (timestamp : ℕ) :
    (rule.handleViolation state snapshot timestamp).raised = none := by
  unfold handleViolation
  split
  · rfl
  · simp only []
    split
    · unfold confirm captureFreezeFrame
      rw [hsequence]
      cases state.freezeFrame <;> rfl
    · rfl

/-- A rule whose condition returns is evaluated without an exception. -/
theorem evaluate_raised {rule : DiagnosticRule} (hrule : rule.Returns) {snapshot : TelemetrySnapshot}
    (htyped : snapshot.Typed) {sequence : ℕ} (hsequence : snapshot.lastFrameSequence = some sequence)
    (state : RuleState) (timestamp : ℕ) :
    (rule.evaluate state snapshot timestamp).raised = none := by
  unfold evaluate
  split
  · rfl
  · rename_i hfresh
    have hsome : ∀ key ∈ rule.definition.requiredSignals, (snapshot.samples.get? key).isSome := by
      intro key hkey
      have hall : rule.inputsAreFresh snapshot = true := by simpa using hfresh
      have hinput := List.all_eq_true.1 hall key hkey
      simp only [Bool.and_eq_true] at hinput
      exact hinput.1
    obtain ⟨result, hresult⟩ := hrule snapshot (state.status = some .active) htyped hsome
    simp only [hresult]
    cases result with
    | normal => exact handleNormal_raised rule state timestamp
    | violation => exact handleViolation_raised rule _ hsequence timestamp

end DiagnosticRule

namespace DiagnosticEngine

theorem evaluateRules_returns {snapshot : TelemetrySnapshot} (htyped : snapshot.Typed)
    {sequence : ℕ} (hsequence : snapshot.lastFrameSequence = some sequence) (timestamp : ℕ)
    {rules : List DiagnosticRule} (hrules : ∀ rule ∈ rules, rule.Returns)
    (engine : DiagnosticEngine) :
    ∃ events engine', evaluateRules snapshot timestamp rules engine = (.ok events, engine') := by
  induction rules generalizing engine with
  | nil => exact ⟨[], engine, rfl⟩
  | cons rule rest ih =>
    have hraised := DiagnosticRule.evaluate_raised (hrules rule List.mem_cons_self) htyped hsequence
      (engine.states rule.code) timestamp
    obtain ⟨first, between, hfirst⟩ : ∃ first between,
        evaluateRule snapshot timestamp rule engine = (.ok first, between) := by
      unfold evaluateRule
      simp only [hraised]
      exact ⟨_, _, rfl⟩
    obtain ⟨later, engine', hlater⟩ :=
      ih (fun other hmem => hrules other (List.mem_cons_of_mem _ hmem)) between
    exact ⟨first ++ later, engine', by simp only [evaluateRules, hfirst, hlater]⟩

/-- A typed snapshot that is not before the last observation is ingested. -/
theorem ingest_returns {engine : DiagnosticEngine} {snapshot : TelemetrySnapshot}
    (hrules : ∀ rule ∈ engine.catalog.rules, rule.Returns) (htyped : snapshot.Typed)
    {sequence timestamp : ℕ} (hsequence : snapshot.lastFrameSequence = some sequence)
    (htime : snapshot.observationTimestampMicroseconds = some timestamp)
    (hlater : ∀ earlier, engine.observationTimestampMicroseconds = some earlier →
      earlier ≤ timestamp) :
    ∃ events engine', engine.ingest snapshot = (.ok events, engine') := by
  have hforward : engine.movesBackward timestamp = false := by
    unfold movesBackward
    cases hobservation : engine.observationTimestampMicroseconds with
    | none => rfl
    | some earlier => exact decide_eq_false (not_lt.2 (hlater earlier hobservation))
  obtain ⟨events, engine', hevaluated⟩ := evaluateRules_returns htyped hsequence timestamp hrules
    (engine.observe snapshot timestamp)
  refine ⟨events, engine', ?_⟩
  simp only [ingest, htime, hforward, Bool.false_eq_true, if_false]
  exact hevaluated

/-! ## What every call keeps -/

theorem evaluateRule_keeps {snapshot : TelemetrySnapshot} {timestamp : ℕ} {rule : DiagnosticRule}
    {engine engine' : DiagnosticEngine} {events : List DiagnosticEvent}
    (h : evaluateRule snapshot timestamp rule engine = (.ok events, engine')) :
    engine'.catalog = engine.catalog ∧
      engine'.observationTimestampMicroseconds = engine.observationTimestampMicroseconds ∧
      ∀ event ∈ events, event.timestampMicroseconds = timestamp := by
  obtain ⟨-, heq⟩ := evaluateRule_ok h
  obtain ⟨rfl, rfl⟩ := Prod.mk.inj heq
  refine ⟨by simp, by simp, ?_⟩
  intro event hmem
  exact (appendEvents_code_time _ _ _ _ event hmem).2

theorem evaluateRules_keeps {snapshot : TelemetrySnapshot} {timestamp : ℕ}
    {rules : List DiagnosticRule} {engine engine' : DiagnosticEngine}
    {events : List DiagnosticEvent}
    (h : evaluateRules snapshot timestamp rules engine = (.ok events, engine')) :
    engine'.catalog = engine.catalog ∧
      engine'.observationTimestampMicroseconds = engine.observationTimestampMicroseconds ∧
      ∀ event ∈ events, event.timestampMicroseconds = timestamp := by
  induction rules generalizing engine events with
  | nil =>
    cases h
    exact ⟨rfl, rfl, nofun⟩
  | cons rule rest ih =>
    obtain ⟨first, later, between, hfirst, hlater, rfl⟩ := evaluateRules_cons_ok h
    obtain ⟨hcatalog, hobservation, htimes⟩ := evaluateRule_keeps hfirst
    obtain ⟨hcatalog', hobservation', htimes'⟩ := ih hlater
    refine ⟨hcatalog'.trans hcatalog, hobservation'.trans hobservation, ?_⟩
    intro event hmem
    rcases List.mem_append.1 hmem with hmem | hmem
    · exact htimes event hmem
    · exact htimes' event hmem

/-- Ingesting a snapshot stamps the engine and the events it emits with the snapshot's time. -/
theorem ingest_keeps {engine engine' : DiagnosticEngine} {snapshot : TelemetrySnapshot}
    {events : List DiagnosticEvent} {timestamp : ℕ}
    (h : engine.ingest snapshot = (.ok events, engine'))
    (htime : snapshot.observationTimestampMicroseconds = some timestamp) :
    engine'.catalog = engine.catalog ∧
      engine'.observationTimestampMicroseconds = some timestamp ∧
      ∀ event ∈ events, event.timestampMicroseconds = timestamp := by
  rcases ingest_ok h with ⟨hnone, -⟩ | ⟨time, hsome, -, hrules⟩
  · rw [hnone] at htime
    cases htime
  · rw [hsome] at htime
    cases htime
    exact evaluateRules_keeps hrules

end DiagnosticEngine

end TunerOs
