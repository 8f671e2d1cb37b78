-- SUMMARY: Immutable telemetry contracts: signal keys, samples, freshness, statistics, and snapshots.
import TunerOs.Can.Models
import Mathlib.Data.String.Basic

/-!
# Telemetry contracts

The values the telemetry engine hands out. Mappings are insertion-ordered
dictionaries, as in the source.
-/

namespace TunerOs

open Containers

inductive SignalFreshness where
  | fresh
  | stale
deriving DecidableEq, Repr

/-- Stable signal identity independent of CAN arbitration-ID assignment. -/
structure SignalKey where
  messageName : String
  signalName : String
deriving DecidableEq, Repr

namespace SignalKey

/-- The dataclass order: message names first, then signal names. -/
def le (a b : SignalKey) : Prop :=
  a.messageName < b.messageName ∨ (a.messageName = b.messageName ∧ a.signalName ≤ b.signalName)

instance : DecidableRel le := fun _ _ =>
  inferInstanceAs (Decidable (_ ∨ _))

/-- `f"{key}"`, the dataclass representation. -/
def text (key : SignalKey) : String :=
  "SignalKey(message_name='" ++ key.messageName ++ "', signal_name='" ++ key.signalName ++ "')"

end SignalKey

structure SignalSample where
  key : SignalKey
  value : SignalValue
  timestampMicroseconds : ℕ
  frameSequence : ℕ
  arbitrationId : ℕ
  messageName : String
  sourceEcu : String
  unit : String
deriving DecidableEq

structure TelemetryStatistics where
  totalFrames : ℕ
  totalSignalUpdates : ℕ
  latestTimestampMicroseconds : Option ℕ
  lastFrameSequence : Option ℕ
  framesByArbitrationId : Dict ℕ ℕ
deriving DecidableEq

structure TelemetrySnapshot where
  observationTimestampMicroseconds : Option ℕ
  lastFrameSequence : Option ℕ
  samples : Dict SignalKey SignalSample
  freshness : Dict SignalKey SignalFreshness
  statistics : TelemetryStatistics
deriving DecidableEq

end TunerOs
