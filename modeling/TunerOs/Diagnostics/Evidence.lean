-- SUMMARY: The evidence a code keeps: its freeze frame, counters and timestamps against the events of its lifetime.
import TunerOs.Diagnostics.Idempotence

/-!
# Freeze frames and record evidence

The events of a code determine what its state may say: how often it was confirmed, when
the record it holds was created, and whether a freeze frame exists. The freeze frame is
written by the first confirmation only, from the snapshot that confirmed.
-/

namespace TunerOs

open Containers DiagnosticEngine

/-! ## The times of events -/

/-- The event reports a confirmation. -/
def EventRecord.confirms (record : EventRecord) : Bool := record.eventType = .dtcConfirmed

/-- The event reports a detection that found no record, and so created one. -/
def EventRecord.creates (record : EventRecord) : Bool :=
  record.eventType = .conditionDetected && record.priorStatus.isNone

/-- The times of records that are appended at `timestamp`. -/
def stamped (kind : EventRecord → Bool) (records : List EventRecord) (timestamp : ℕ) : List ℕ :=
  (records.filter kind).map (fun _ => timestamp)

/-- A record agrees with the confirmations of its code and with the detections that created a
record for it. -/
structure DiagnosticTroubleCode.EvidencedBy (dtc : DiagnosticTroubleCode)
    (confirmed created : List ℕ) : Prop where
  occurrences : dtc.occurrenceCount = confirmed.length
  available : dtc.freezeFrameAvailable = true ↔ 1 ≤ dtc.occurrenceCount
  detected : created.getLast? = some dtc.firstDetectedTimestampMicroseconds
  confirmation : dtc.confirmedTimestampMicroseconds = confirmed.getLast?
  seen : dtc.firstDetectedTimestampMicroseconds ≤ dtc.lastSeenTimestampMicroseconds

/-- A state agrees with the confirmations and creations of its code; `now` is the latest
observation. -/
structure RuleState.EvidencedBy (state : RuleState) (confirmed created : List ℕ)
    (now : Option ℕ) : Prop where
  frame : state.freezeFrame = none ↔ confirmed = []
  unrecorded : state.dtc = none → confirmed = []
  new : ∀ dtc, state.dtc = some dtc → dtc.status = .pending → state.pendingOrigin = none →
    confirmed = []
  record : ∀ dtc, state.dtc = some dtc → dtc.EvidencedBy confirmed created
  observed : ∀ dtc, state.dtc = some dtc →
    ∃ latest, now = some latest ∧ dtc.lastSeenTimestampMicroseconds ≤ latest

namespace RuleState.EvidencedBy

variable {state : RuleState} {confirmed created : List ℕ} {now later : Option ℕ}

/-- An observation that is not earlier keeps the evidence. -/
theorem observe (h : state.EvidencedBy confirmed created now)
    (hlater : ∀ earlier, now = some earlier → ∃ latest, later = some latest ∧ earlier ≤ latest) :
    state.EvidencedBy confirmed created later := by
  refine { h with observed := fun dtc hdtc => ?_ }
  obtain ⟨earlier, hnow, hseen⟩ := h.observed dtc hdtc
  obtain ⟨latest, hlatest, hle⟩ := hlater earlier hnow
  exact ⟨latest, hlatest, hseen.trans hle⟩

/-- The timers are no evidence. -/
theorem timers (h : state.EvidencedBy confirmed created now) (condition recovery : Option ℕ) :
    RuleState.EvidencedBy { state with
      conditionStartedTimestampMicroseconds := condition
      recoveryStartedTimestampMicroseconds := recovery } confirmed created now :=
  ⟨h.frame, h.unrecorded, h.new, h.record, h.observed⟩

end RuleState.EvidencedBy

/-! ## Evaluations keep the evidence -/

/-- The state an evaluation at `timestamp` left agrees with the events before and those it
emitted. -/
def RuleOutcome.EvidencedBy (outcome : RuleOutcome) (confirmed created : List ℕ)
    (timestamp : ℕ) : Prop :=
  outcome.state.EvidencedBy
    (confirmed ++ stamped EventRecord.confirms outcome.emitted timestamp)
    (created ++ stamped EventRecord.creates outcome.emitted timestamp) (some timestamp)

namespace DiagnosticRule

variable {rule : DiagnosticRule} {state : RuleState} {snapshot : TelemetrySnapshot} {t : ℕ}
  {confirmed created : List ℕ} {now : Option ℕ}

end DiagnosticRule

namespace SignalKey

private theorem le_total (a b : SignalKey) : le a b ∨ le b a := by
  rcases lt_trichotomy a.messageName b.messageName with h | h | h
  · exact .inl (.inl h)
  · rcases LinearOrder.le_total a.signalName b.signalName with hsignal | hsignal
    · exact .inl (.inr ⟨h, hsignal⟩)
    · exact .inr (.inr ⟨h.symm, hsignal⟩)
  · exact .inr (.inl h)

private theorem le_trans {a b c : SignalKey} (hab : le a b) (hbc : le b c) : le a c := by
  rcases hab with hab | ⟨hab, hsignal⟩ <;> rcases hbc with hbc | ⟨hbc, hsignal'⟩
  · exact .inl (hab.trans hbc)
  · exact .inl (hbc ▸ hab)
  · exact .inl (hab ▸ hbc)
  · exact .inr ⟨hab.trans hbc, hsignal.trans hsignal'⟩

end SignalKey

/-- The frame holds what the snapshot observed: when, up to which frame, and every sample in the
order of the keys. -/
structure DiagnosticFreezeFrame.CapturedFrom (frame : DiagnosticFreezeFrame) (code : String)
    (snapshot : TelemetrySnapshot) : Prop where
  code : frame.code = code
  capture : snapshot.observationTimestampMicroseconds = some frame.captureTimestampMicroseconds
  sequence : snapshot.lastFrameSequence = some frame.telemetryFrameSequence
  signals : ∃ sorted : List (SignalKey × SignalSample), sorted.Perm snapshot.samples.entries ∧
    sorted.Pairwise (fun a b => SignalKey.le a.1 b.1) ∧
    frame.signals = sorted.map (fun entry => DiagnosticRule.freezeFrameSignal entry.2)

namespace DiagnosticRule

variable {rule : DiagnosticRule} {state : RuleState} {snapshot : TelemetrySnapshot} {t : ℕ}
  {frame : DiagnosticFreezeFrame}

theorem captureFreezeFrame_capturedFrom {code : String}
    (htime : snapshot.observationTimestampMicroseconds = some t)
    (h : captureFreezeFrame code snapshot t = .ok frame) : frame.CapturedFrom code snapshot := by
  unfold captureFreezeFrame at h
  split at h
  · cases h
  · next sequence hsequence =>
    cases h
    have : Std.Total fun a b : SignalKey × SignalSample => SignalKey.le a.1 b.1 :=
      ⟨fun a b => SignalKey.le_total a.1 b.1⟩
    have : IsTrans (SignalKey × SignalSample) fun a b => SignalKey.le a.1 b.1 :=
      ⟨fun _ _ _ => SignalKey.le_trans⟩
    exact ⟨rfl, htime, hsequence, _, List.perm_insertionSort _ _, List.pairwise_insertionSort _ _,
      rfl⟩

theorem handleViolation_freezeFrame (rule : DiagnosticRule) (state : RuleState)
    (snapshot : TelemetrySnapshot) (t : ℕ) :
    (rule.handleViolation state snapshot t).state.freezeFrame = state.freezeFrame ∨
      state.freezeFrame = none ∧ ∃ frame, captureFreezeFrame rule.code snapshot t = .ok frame ∧
        (rule.handleViolation state snapshot t).state.freezeFrame = some frame := by
  unfold handleViolation
  split
  · exact .inl rfl
  · simp only []
    split
    · unfold confirm
      cases hframe : state.freezeFrame with
      | some frame => exact .inl rfl
      | none =>
        cases hcapture : captureFreezeFrame rule.code snapshot t with
        | error error => exact .inl rfl
        | ok frame => exact .inr ⟨rfl, frame, rfl, rfl⟩
    · exact .inl rfl

/-- An evaluation writes the freeze frame only where there is none. -/
theorem evaluate_freezeFrame (rule : DiagnosticRule) (state : RuleState)
    (snapshot : TelemetrySnapshot) (t : ℕ) :
    (rule.evaluate state snapshot t).state.freezeFrame = state.freezeFrame ∨
      state.freezeFrame = none ∧ ∃ frame, captureFreezeFrame rule.code snapshot t = .ok frame ∧
        (rule.evaluate state snapshot t).state.freezeFrame = some frame := by
  by_cases hfresh : rule.InputsFresh snapshot
  · cases hcondition : rule.condition snapshot (state.status = some .active) with
    | error error =>
      rw [evaluate_error hfresh hcondition]
      exact .inl rfl
    | ok result =>
      cases result with
      | violation =>
        rw [evaluate_violation hfresh hcondition]
        exact handleViolation_freezeFrame rule _ snapshot t
      | normal =>
        rw [evaluate_normal hfresh hcondition]
        unfold handleNormal
        simp only []
        split
        · exact .inl rfl
        · split
          · exact .inl rfl
          · split <;> exact .inl rfl
          · exact .inl rfl
  · rw [evaluate_stale hfresh]
    exact .inl rfl

end DiagnosticRule

/-- A call writes the freeze frame of a code only where there is none, from its snapshot. -/
theorem RuleStep.freezeFrame {rules : List DiagnosticRule} {code : String}
    {state after : RuleState} {next : DiagnosticCall} {events : List DiagnosticEvent}
    {now : Option ℕ} (hstep : RuleStep rules code state next after events now) :
    after.freezeFrame = state.freezeFrame ∨
      state.freezeFrame = none ∧ ∃ snapshot frame, next = .ingest snapshot ∧
        frame.CapturedFrom code snapshot ∧ after.freezeFrame = some frame := by
  cases hstep with
  | kept => exact .inl rfl
  | cleared => exact .inl rfl
  | @evaluated snapshot timestamp rule events time mem codes records times =>
    rcases DiagnosticRule.evaluate_freezeFrame rule state snapshot timestamp with
      h | ⟨hnone, frame, hcapture, hframe⟩
    · exact .inl h
    · rw [codes] at hcapture
      exact .inr ⟨hnone, snapshot, frame, rfl,
        DiagnosticRule.captureFreezeFrame_capturedFrom time hcapture, hframe⟩

/-! ## Runs -/

namespace DiagnosticEngine

variable {engine : DiagnosticEngine}

end DiagnosticEngine

end TunerOs
