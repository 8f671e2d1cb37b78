-- SUMMARY: Immutable contracts of the synthetic diagnostics: definitions, trouble codes, events, freeze frames, and snapshots.
import TunerOs.Telemetry.Models

/-! # Diagnostic contracts -/

namespace TunerOs

inductive DiagnosticStatus where
  | pending
  | active
  | historical
  | cleared
deriving DecidableEq, Repr

/-- The text of the status, as `status.value`. -/
def DiagnosticStatus.value : DiagnosticStatus → String
  | .pending => "pending"
  | .active => "active"
  | .historical => "historical"
  | .cleared => "cleared"

inductive DiagnosticSeverity where
  | info
  | warning
  | critical
deriving DecidableEq, Repr

inductive DiagnosticEventType where
  | conditionDetected
  | conditionCleared
  | dtcConfirmed
  | dtcRecovered
  | dtcCleared
deriving DecidableEq, Repr

structure DiagnosticDefinition where
  code : String
  ruleId : String
  name : String
  description : String
  severity : DiagnosticSeverity
  sourceSystem : String
  requiredSignals : List SignalKey
  confirmationDurationMicroseconds : ℕ
  recoveryDurationMicroseconds : ℕ
  activationDescription : String
  recoveryDescription : String
deriving DecidableEq

structure DiagnosticTroubleCode where
  definition : DiagnosticDefinition
  status : DiagnosticStatus
  firstDetectedTimestampMicroseconds : ℕ
  confirmedTimestampMicroseconds : Option ℕ
  lastSeenTimestampMicroseconds : ℕ
  resolvedTimestampMicroseconds : Option ℕ
  clearedTimestampMicroseconds : Option ℕ
  occurrenceCount : ℕ
  freezeFrameAvailable : Bool
deriving DecidableEq

structure DiagnosticEvent where
  sequence : ℕ
  timestampMicroseconds : ℕ
  code : String
  eventType : DiagnosticEventType
  priorStatus : Option DiagnosticStatus
  newStatus : Option DiagnosticStatus
deriving DecidableEq, Repr

structure FreezeFrameSignal where
  key : SignalKey
  value : SignalValue
  unit : String
  sourceEcu : String
  arbitrationId : ℕ
  timestampMicroseconds : ℕ
  telemetryFrameSequence : ℕ
deriving DecidableEq

structure DiagnosticFreezeFrame where
  code : String
  captureTimestampMicroseconds : ℕ
  telemetryFrameSequence : ℕ
  signals : List FreezeFrameSignal
deriving DecidableEq

structure DiagnosticSnapshot where
  observationTimestampMicroseconds : Option ℕ
  latestTelemetryFrameSequence : Option ℕ
  dtcs : List DiagnosticTroubleCode
  retainedEventCount : ℕ
  totalEventCount : ℕ
  latestEventSequence : Option ℕ
  pendingCount : ℕ
  activeCount : ℕ
  historicalCount : ℕ
  clearedCount : ℕ
deriving DecidableEq

end TunerOs
