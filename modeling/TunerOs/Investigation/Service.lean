-- SUMMARY: `InvestigationService.investigate`: resolving the query, the scan over the session, and the result.
import TunerOs.Investigation.Models
import TunerOs.Session.Catalog

/-!
# Session investigation

`investigate` feeds the frames of a session up to the end of the window to components
of its own, whose buffers hold one item. The diagnostic state at the center is
captured by a closure that fires once: before the first frame past the center, or
after the scan.
-/

namespace TunerOs

open Containers

def queryError (message : String) : PyException := ⟨.investigationQueryError, message⟩

def tooManyRawFrames : PyException where
  cls := .investigationLimitError
  message := "investigation raw frame count exceeds " ++ toString maxInvestigationRawFrames ++
    "; request a narrower window"

/-! ## Resolving the query -/

/-- `_resolve_window`; a start before time zero is before the first frame, too. -/
def resolveWindow (manifest : SessionManifest) (center : Option ℤ) (before after : ℤ) :
    Except PyException InvestigationWindow :=
  if before < 0 then .error (queryError "before_microseconds must be a non-negative integer")
  else if after < 0 then .error (queryError "after_microseconds must be a non-negative integer")
  else if maxInvestigationWindowMicroseconds < before + after then
    .error (queryError ("total investigation window cannot exceed " ++
      toString maxInvestigationWindowMicroseconds ++ " us"))
  else
    match manifest.firstTimestampMicroseconds, manifest.lastTimestampMicroseconds with
    | some first, some last =>
      let requestedCenter := center.getD ((first + last) / 2)
      if requestedCenter < first ∨ last < requestedCenter then
        .error (queryError ("center timestamp must be within [" ++ toString first ++ ", " ++
          toString last ++ "]"))
      else
        .ok {
          requestedCenterTimestampMicroseconds := requestedCenter.toNat
          centerTimestampMicroseconds := requestedCenter.toNat
          requestedBeforeMicroseconds := before.toNat
          requestedAfterMicroseconds := after.toNat
          startTimestampMicroseconds := max first (requestedCenter.toNat - before.toNat)
          endTimestampMicroseconds := min last (requestedCenter.toNat + after.toNat) }
    | _, _ => .error (queryError "empty sessions cannot be investigated")

/-- The rule of the diagnostic code, if the query names one. -/
def requireRule (catalog : DiagnosticCatalog) :
    Option String → Except PyException (Option DiagnosticRule)
  | none => .ok none
  | some code => some <$> catalog.require code

/-- The selection, or its default. -/
def selectedKeys (catalog : SignalCatalog) (selected : Option (List SignalKey))
    (rule : Option DiagnosticRule) : List SignalKey :=
  match selected, rule with
  | some keys, _ => keys
  | none, some rule => rule.definition.requiredSignals
  | none, none => (catalog.definitions.take maxSelectedSignals).map (·.key)

/-- `_resolve_signals`. -/
def resolveSignals (catalog : SignalCatalog) (diagnosticCatalog : DiagnosticCatalog)
    (selected : Option (List SignalKey)) (diagnosticCode : Option String) :
    Except PyException (List SignalKey) := do
  let rule ← requireRule diagnosticCatalog diagnosticCode
  let keys := selectedKeys catalog selected rule
  if keys = [] then .error (queryError "at least one signal must be selected")
  if maxSelectedSignals < keys.length then
    .error (queryError ("at most " ++ toString maxSelectedSignals ++ " signals may be selected"))
  if ¬ keys.Nodup then .error (queryError "selected signals must be unique")
  let _ ← keys.mapM catalog.require
  return keys

/-! ## The scan -/

/-- The states of all rules, as `capture_center` reads them. -/
def diagnosticStates (diagnostics : DiagnosticEngine) :
    Except PyException (List DiagnosticStateAtTime) :=
  diagnostics.catalog.rules.mapM (fun rule => do
    let record ← diagnostics.dtc rule.code
    return ⟨rule.definition, record.map (·.status), record⟩)

/-- The freeze frames of all rules that have one. -/
def freezeFrames (diagnostics : DiagnosticEngine) :
    Except PyException (List DiagnosticFreezeFrame) := do
  let frames ← diagnostics.catalog.rules.mapM (fun rule => diagnostics.freezeFrame rule.code)
  return frames.reduceOption

/-- The local variables of the loop. -/
structure InvestigationScan where
  pipeline : Pipeline
  series : Dict SignalKey (List SignalSample)
  context : Dict SignalKey SignalSample := .empty
  rawFrames : List CanExplorerFrame := []
  windowEvents : List DiagnosticEvent := []
  decodedSignalUpdates : ℕ := 0
  centerStates : Option (List DiagnosticStateAtTime) := none
  centerFreezeFrames : List DiagnosticFreezeFrame := []

namespace InvestigationScan

/-- `capture_center`. -/
def captureCenter (scan : InvestigationScan) : Except PyException InvestigationScan :=
  if scan.centerStates.isSome then .ok scan
  else
    match diagnosticStates scan.pipeline.diagnostics with
    | .error error => .error error
    | .ok states =>
      match freezeFrames scan.pipeline.diagnostics with
      | .error error => .error error
      | .ok frames => .ok { scan with centerStates := some states, centerFreezeFrames := frames }

/-- Remember the latest samples of the selected signals. -/
def noteContext (selected : Dict SignalKey (List SignalSample))
    (context : Dict SignalKey SignalSample) (samples : List SignalSample) :
    Dict SignalKey SignalSample :=
  samples.foldl (fun context sample =>
    if (selected.get? sample.key).isSome then context.set sample.key sample else context) context

/-- Append the samples of the selected signals to their series. -/
def extendSeries (series : Dict SignalKey (List SignalSample)) (samples : List SignalSample) :
    Dict SignalKey (List SignalSample) :=
  samples.foldl (fun series sample =>
    match series.get? sample.key with
    | none => series
    | some earlier => series.set sample.key (earlier ++ [sample])) series

/-- The part of the loop body behind `continue`. -/
def observe (window : InvestigationWindow) (scan : InvestigationScan) (rawFrame : RawCanFrame) :
    Except PyException InvestigationScan :=
  match scan.pipeline.replay rawFrame with
  | .error error => .error error
  | .ok (replayed, pipeline) =>
    let context :=
      if rawFrame.timestampMicroseconds ≤ window.startTimestampMicroseconds then
        noteContext scan.series scan.context replayed.samples
      else scan.context
    if rawFrame.timestampMicroseconds < window.startTimestampMicroseconds then
      .ok { scan with pipeline, context }
    else if maxInvestigationRawFrames ≤ scan.rawFrames.length then .error tooManyRawFrames
    else
      .ok { scan with
        pipeline, context
        rawFrames := scan.rawFrames ++ [replayed.annotated]
        decodedSignalUpdates := scan.decodedSignalUpdates + replayed.samples.length
        series := extendSeries scan.series replayed.samples
        windowEvents := scan.windowEvents ++ replayed.events.filter
          (fun event => window.startTimestampMicroseconds ≤ event.timestampMicroseconds) }

/-- The first statement of the loop body. -/
def reachCenter (window : InvestigationWindow) (scan : InvestigationScan) (timestamp : ℕ) :
    Except PyException InvestigationScan :=
  if window.centerTimestampMicroseconds < timestamp then scan.captureCenter else .ok scan

/-- The body of the loop over `reader.frames()`. -/
def visit (window : InvestigationWindow) (scan : InvestigationScan) (rawFrame : RawCanFrame) :
    Except PyException InvestigationScan := do
  let scan ← scan.reachCenter window rawFrame.timestampMicroseconds
  if window.endTimestampMicroseconds < rawFrame.timestampMicroseconds then return scan
  scan.observe window rawFrame

/-- The loop over the frames of the session. -/
def visitAll (window : InvestigationWindow) (scan : InvestigationScan) :
    List RawCanFrame → Except PyException InvestigationScan
  | [] => .ok scan
  | rawFrame :: rest => do
    let next ← scan.visit window rawFrame
    next.visitAll window rest

end InvestigationScan

/-! ## The result -/

/-- `float(value)`. -/
def SignalValue.toFloat : SignalValue → ℚ
  | .float value => value
  | .int value => value
  | .bool value => if value then 1 else 0

def SignalValue.isBool : SignalValue → Bool
  | .bool _ => true
  | _ => false

/-- `_summarize`. -/
def InvestigationSignalSeries.summarize (series : InvestigationSignalSeries) :
    InvestigationSignalSummary :=
  let values := series.samples.map (·.value)
  match values with
  | [] =>
    { key := series.definition.key, valueType := .unobserved, observationCount := 0, first := none
      last := none, minimum := none, maximum := none, mean := none, distinctValues := [] }
  | first :: _ =>
    if values.all SignalValue.isBool then
      { key := series.definition.key, valueType := .boolean, observationCount := values.length
        first := some first, last := values.getLast?, minimum := none, maximum := none
        mean := none, distinctValues := values.eraseDups }
    else
      let numeric := values.map SignalValue.toFloat
      { key := series.definition.key, valueType := .numeric, observationCount := numeric.length
        first := some first, last := values.getLast?, minimum := numeric.min?
        maximum := numeric.max?, mean := some (numeric.sum / numeric.length)
        distinctValues := [] }

def notCaptured : PyException :=
  ⟨.assertionError, "diagnostic center state was not captured"⟩

/-- What `investigate` builds from the variables the loop left. -/
def InvestigationScan.result (scan : InvestigationScan) (manifest : SessionManifest)
    (window : InvestigationWindow) (signalCatalog : SignalCatalog) (selected : List SignalKey) :
    Except PyException InvestigationResult := do
  let telemetrySeries ← selected.mapM (fun key => do
    let definition ← signalCatalog.require key
    return (⟨definition, (scan.series.get? key).getD []⟩ : InvestigationSignalSeries))
  match scan.centerStates with
  | none => .error notCaptured
  | some centerStates =>
    return {
      session := manifest
      window := window
      availableSignals := signalCatalog.definitions
      selectedSignals := selected
      startContext := selected.filterMap scan.context.get?
      rawFrames := scan.rawFrames
      telemetrySeries := telemetrySeries
      signalSummaries := telemetrySeries.map InvestigationSignalSeries.summarize
      diagnosticEvents := scan.windowEvents
      diagnosticStatesAtCenter := centerStates
      freezeFramesAtCenter := scan.centerFreezeFrames
      statistics := {
        rawFrameCount := scan.rawFrames.length
        decodedSignalUpdateCount := scan.decodedSignalUpdates
        diagnosticEventCount := scan.windowEvents.length
        selectedSignalCounts :=
          selected.map (fun key => (key, ((scan.series.get? key).getD []).length))
        windowDurationMicroseconds := window.durationMicroseconds } }

/-- `InvestigationService.investigate`. -/
def investigate (sha256 : Bytes → Sha256Digest) (authoritative : Sha256Digest)
    (messageDecode : DbcMessage → Bytes → Option (Dict String CanmatrixValue))
    (sessions : SessionCatalog) (sessionId : String) (query : InvestigationQuery) :
    Except PyException InvestigationResult := do
  let reader ← sessions.reader sha256 authoritative sessionId true
  let window ← resolveWindow reader.manifest query.centerTimestampMicroseconds
    query.beforeMicroseconds query.afterMicroseconds
  let decoder := packagedDecoder messageDecode
  let signalCatalog ← SignalCatalog.create decoder.databaseMetadata
  let diagnosticCatalog ← createDefaultDiagnosticCatalog signalCatalog
  let selected ← resolveSignals signalCatalog diagnosticCatalog query.selectedSignals
    query.diagnosticCode
  let telemetry ← TelemetryEngine.create signalCatalog 1
  let diagnostics ← DiagnosticEngine.create diagnosticCatalog defaultDiagnosticEventCapacity
  let explorer ← CanExplorer.create decoder 1
  let stream := reader.frames sha256
  let initial : InvestigationScan :=
    { pipeline := { decoder, telemetry, explorer, diagnostics }
      series := selected.foldl (fun series key => series.set key []) .empty }
  let scanned ← initial.visitAll window stream.yielded
  match stream.raised with
  | some error => .error error
  | none =>
    let captured ← scanned.captureCenter
    captured.result reader.manifest window signalCatalog selected

end TunerOs
