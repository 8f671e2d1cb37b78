-- SUMMARY: Condition primitives over decoded telemetry snapshots, with separate activation and recovery thresholds.
import TunerOs.Diagnostics.Models
import Mathlib.Algebra.Order.Ring.Rat

/-!
# Diagnostic conditions

A condition reads a snapshot and the `active` flag that selects its latched
thresholds. Reading a signal raises when the sample is missing or has the wrong
type. Any function of this shape may stand in a catalog.
-/

namespace TunerOs

inductive ConditionResult where
  | normal
  | violation
deriving DecidableEq, Repr

/-- `condition.evaluate(snapshot, active=active)`. -/
abbrev DiagnosticCondition : Type :=
  TelemetrySnapshot → (active : Bool) → Except PyException ConditionResult

def missingSample (key : SignalKey) : PyException := ⟨.keyError, key.text⟩

def notNumeric (key : SignalKey) : PyException :=
  ⟨.typeError, "diagnostic signal " ++ key.text ++ " must be numeric"⟩

def notBoolean (key : SignalKey) : PyException :=
  ⟨.typeError, "diagnostic signal " ++ key.text ++ " must be boolean"⟩

def intTooLarge : PyException := ⟨.overflowError, "int too large to convert to float"⟩

/-- `float(value)` raises no `OverflowError`: the value rounds to a finite double. -/
def FitsFloat (value : ℤ) : Prop := value.natAbs < 2 ^ 1024 - 2 ^ 970

instance (value : ℤ) : Decidable (FitsFloat value) := inferInstanceAs (Decidable (_ < _))

def number (snapshot : TelemetrySnapshot) (key : SignalKey) : Except PyException ℚ :=
  match snapshot.samples.get? key with
  | none => .error (missingSample key)
  | some sample =>
    match sample.value with
    | .float value => .ok value
    | .int value => if FitsFloat value then .ok value else .error intTooLarge
    | .bool _ => .error (notNumeric key)

def boolean (snapshot : TelemetrySnapshot) (key : SignalKey) : Except PyException Bool :=
  match snapshot.samples.get? key with
  | none => .error (missingSample key)
  | some sample =>
    match sample.value with
    | .bool value => .ok value
    | _ => .error (notBoolean key)

/-- `VIOLATION if violated else NORMAL`. -/
def conditionResult (violated : Bool) : ConditionResult :=
  if violated then .violation else .normal

structure HighThresholdCondition where
  signal : SignalKey
  activationAbove : ℚ
  recoveryBelow : ℚ

def HighThresholdCondition.evaluate (condition : HighThresholdCondition) :
    DiagnosticCondition := fun snapshot active => do
  let threshold := if active then condition.recoveryBelow else condition.activationAbove
  let value ← number snapshot condition.signal
  return conditionResult (threshold < value)

structure LowWhileTrueCondition where
  signal : SignalKey
  context : SignalKey
  activationBelow : ℚ
  recoveryAbove : ℚ

def LowWhileTrueCondition.evaluate (condition : LowWhileTrueCondition) :
    DiagnosticCondition := fun snapshot active => do
  if !(← boolean snapshot condition.context) then
    return .normal
  let threshold := if active then condition.recoveryAbove else condition.activationBelow
  let value ← number snapshot condition.signal
  return conditionResult (value < threshold)

structure OutsideRangeWhileTrueCondition where
  signal : SignalKey
  context : SignalKey
  activationMinimum : ℚ
  activationMaximum : ℚ
  recoveryMinimum : ℚ
  recoveryMaximum : ℚ

def OutsideRangeWhileTrueCondition.evaluate (condition : OutsideRangeWhileTrueCondition) :
    DiagnosticCondition := fun snapshot active => do
  if !(← boolean snapshot condition.context) then
    return .normal
  let value ← number snapshot condition.signal
  let minimum := if active then condition.recoveryMinimum else condition.activationMinimum
  let maximum := if active then condition.recoveryMaximum else condition.activationMaximum
  return conditionResult (value < minimum || maximum < value)

structure SignalDisagreementCondition where
  comparedSignals : List SignalKey
  referenceSignal : SignalKey
  activationDelta : ℚ
  recoveryDelta : ℚ

/-- `max(...)` of a non-empty sequence of deltas. -/
def maximumDelta : List ℚ → Except PyException ℚ
  | [] => .error ⟨.valueError, "max() iterable argument is empty"⟩
  | delta :: rest => .ok (rest.foldl max delta)

def SignalDisagreementCondition.evaluate (condition : SignalDisagreementCondition) :
    DiagnosticCondition := fun snapshot active => do
  let reference ← number snapshot condition.referenceSignal
  let deltas ← condition.comparedSignals.mapM (fun signal => do
    return |(← number snapshot signal) - reference|)
  let delta ← maximumDelta deltas
  let threshold := if active then condition.recoveryDelta else condition.activationDelta
  return conditionResult (threshold < delta)

end TunerOs
