-- SUMMARY: The contracts of a session investigation: its limits, window, series, summaries, and result.
import TunerOs.Can.Explorer
import TunerOs.Diagnostics.Models
import TunerOs.Session.Models
import TunerOs.Telemetry.Catalog

/-! # Investigation contracts -/

namespace TunerOs

def defaultWindowBeforeMicroseconds : ℤ := 2000000
def defaultWindowAfterMicroseconds : ℤ := 2000000
def maxInvestigationWindowMicroseconds : ℤ := 30000000
def maxInvestigationRawFrames : ℕ := 8192
def maxSelectedSignals : ℕ := 6

/-- The keyword arguments of `investigate`, with their defaults. -/
structure InvestigationQuery where
  centerTimestampMicroseconds : Option ℤ := none
  beforeMicroseconds : ℤ := defaultWindowBeforeMicroseconds
  afterMicroseconds : ℤ := defaultWindowAfterMicroseconds
  selectedSignals : Option (List SignalKey) := none
  diagnosticCode : Option String := none

structure InvestigationWindow where
  requestedCenterTimestampMicroseconds : ℕ
  centerTimestampMicroseconds : ℕ
  requestedBeforeMicroseconds : ℕ
  requestedAfterMicroseconds : ℕ
  startTimestampMicroseconds : ℕ
  endTimestampMicroseconds : ℕ
deriving DecidableEq

/-- The start of a resolved window is never after its end. -/
def InvestigationWindow.durationMicroseconds (window : InvestigationWindow) : ℕ :=
  window.endTimestampMicroseconds - window.startTimestampMicroseconds

/-- The timestamp lies in the window. -/
def InvestigationWindow.Contains (window : InvestigationWindow) (timestamp : ℕ) : Prop :=
  window.startTimestampMicroseconds ≤ timestamp ∧ timestamp ≤ window.endTimestampMicroseconds

instance (window : InvestigationWindow) (timestamp : ℕ) : Decidable (window.Contains timestamp) :=
  inferInstanceAs (Decidable (_ ∧ _))

structure InvestigationSignalSeries where
  definition : SignalDefinition
  samples : List SignalSample

inductive SummaryValueType where
  | numeric
  | boolean
  | unobserved
deriving DecidableEq, Repr

structure InvestigationSignalSummary where
  key : SignalKey
  valueType : SummaryValueType
  observationCount : ℕ
  first : Option SignalValue
  last : Option SignalValue
  minimum : Option ℚ
  maximum : Option ℚ
  mean : Option ℚ
  distinctValues : List SignalValue
deriving DecidableEq

structure DiagnosticStateAtTime where
  definition : DiagnosticDefinition
  status : Option DiagnosticStatus
  record : Option DiagnosticTroubleCode
deriving DecidableEq

structure InvestigationStatistics where
  rawFrameCount : ℕ
  decodedSignalUpdateCount : ℕ
  diagnosticEventCount : ℕ
  selectedSignalCounts : List (SignalKey × ℕ)
  windowDurationMicroseconds : ℕ
deriving DecidableEq

structure InvestigationResult where
  session : SessionManifest
  window : InvestigationWindow
  availableSignals : List SignalDefinition
  selectedSignals : List SignalKey
  startContext : List SignalSample
  rawFrames : List CanExplorerFrame
  telemetrySeries : List InvestigationSignalSeries
  signalSummaries : List InvestigationSignalSummary
  diagnosticEvents : List DiagnosticEvent
  diagnosticStatesAtCenter : List DiagnosticStateAtTime
  freezeFramesAtCenter : List DiagnosticFreezeFrame
  statistics : InvestigationStatistics

end TunerOs
