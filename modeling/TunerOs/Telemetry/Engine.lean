-- SUMMARY: The telemetry engine: ingestion of decoded frames, latest values, bounded histories, freshness, and snapshots.
import TunerOs.Lib.BoundedDeque
import TunerOs.Telemetry.Catalog

/-!
# Telemetry engine

Latest state and bounded histories built exclusively from decoded CAN frames. A
frame is validated and its samples are built before anything is written, so
`ingest` either raises and leaves the engine alone or returns the next engine.
-/

namespace TunerOs

open Containers

def defaultHistoryCapacity : ℕ := 256
def freshnessPeriodMultiplier : ℕ := 2

structure TelemetryEngine where
  catalog : SignalCatalog
  historyCapacity : ℕ
  latest : Dict SignalKey SignalSample
  histories : Dict SignalKey (BoundedDeque SignalSample)
  nextFrameSequence : ℕ
  totalFrames : ℕ
  totalSignalUpdates : ℕ
  latestTimestampMicroseconds : Option ℕ
  lastFrameSequence : Option ℕ
  framesByArbitrationId : Dict ℕ ℕ
deriving DecidableEq

namespace TelemetryEngine

/-- The engine `reset` leaves behind; it depends on the constructor's arguments only. -/
def fresh (catalog : SignalCatalog) (historyCapacity : ℕ) : TelemetryEngine where
  catalog := catalog
  historyCapacity := historyCapacity
  latest := .empty
  histories := .empty
  nextFrameSequence := 0
  totalFrames := 0
  totalSignalUpdates := 0
  latestTimestampMicroseconds := none
  lastFrameSequence := none
  framesByArbitrationId := .empty

def reset (engine : TelemetryEngine) : TelemetryEngine :=
  fresh engine.catalog engine.historyCapacity

/-- `TelemetryEngine(catalog, history_capacity)`. -/
def create (catalog : SignalCatalog) (historyCapacity : ℕ) : Except PyException TelemetryEngine :=
  if historyCapacity = 0 then .error ⟨.valueError, "history_capacity must be positive"⟩
  else .ok (fresh catalog historyCapacity)

def outOfOrder (frame : DecodedCanFrame) (latest : ℕ) : PyException where
  cls := .outOfOrderTelemetryError
  message := "frame " ++ frame.messageName ++ " 0x" ++ formatHex 3 frame.arbitrationId ++
    " timestamp " ++ toString frame.timestampMicroseconds ++ " precedes latest timestamp " ++
    toString latest

/-- The sample one signal of an accepted frame becomes. -/
def sampleOf (frame : DecodedCanFrame) (frameSequence : ℕ) (definition : SignalDefinition)
    (value : SignalValue) : SignalSample where
  key := definition.key
  value := value
  timestampMicroseconds := frame.timestampMicroseconds
  frameSequence := frameSequence
  arbitrationId := frame.arbitrationId
  messageName := frame.messageName
  sourceEcu := definition.sourceEcu
  unit := definition.unit

/-- The mutation loop's body: append to the signal's history and replace its latest value. -/
def recordSample (engine : TelemetryEngine) (sample : SignalSample) : TelemetryEngine :=
  let history := (engine.histories.get? sample.key).getD (.empty engine.historyCapacity)
  { engine with
    histories := engine.histories.set sample.key (history.append sample)
    latest := engine.latest.set sample.key sample }

/-- What `ingest` writes once the frame is validated. -/
def accept (engine : TelemetryEngine) (frame : DecodedCanFrame) (samples : List SignalSample) :
    TelemetryEngine :=
  let recorded := samples.foldl recordSample engine
  { recorded with
    totalFrames := recorded.totalFrames + 1
    totalSignalUpdates := recorded.totalSignalUpdates + samples.length
    framesByArbitrationId := recorded.framesByArbitrationId.set frame.arbitrationId
      ((recorded.framesByArbitrationId.get? frame.arbitrationId).getD 0 + 1)
    latestTimestampMicroseconds := some frame.timestampMicroseconds
    lastFrameSequence := some engine.nextFrameSequence
    nextFrameSequence := recorded.nextFrameSequence + 1 }

/-- The timestamp of the newest accepted frame when `frame` is older than it. -/
def laterThan (engine : TelemetryEngine) (frame : DecodedCanFrame) : Option ℕ :=
  engine.latestTimestampMicroseconds.filter (frame.timestampMicroseconds < ·)

-- The check on `type(sample.value)` cannot fail: `SignalValue` has no other constructors.
def ingest (engine : TelemetryEngine) (frame : DecodedCanFrame) :
    Except PyException (List SignalSample × TelemetryEngine) :=
  match engine.laterThan frame with
  | some latest => .error (outOfOrder frame latest)
  | none =>
    match engine.catalog.definitionsForFrame frame with
    | .error error => .error error
    | .ok definitions =>
      let samples :=
        List.zipWith (sampleOf frame engine.nextFrameSequence) definitions frame.signals.values
      .ok (samples, engine.accept frame samples)

/-- `latest(key)`. -/
def latestSample (engine : TelemetryEngine) (key : SignalKey) :
    Except PyException (Option SignalSample) := do
  let _ ← engine.catalog.require key
  return engine.latest.get? key

/-- `history(key)`, oldest sample first. -/
def history (engine : TelemetryEngine) (key : SignalKey) :
    Except PyException (List SignalSample) := do
  let _ ← engine.catalog.require key
  return ((engine.histories.get? key).getD (.empty engine.historyCapacity)).items

def precedesSample : PyException where
  cls := .valueError
  message := "freshness observation timestamp cannot precede the signal sample"

/-- The freshness of an observed sample at an observation timestamp. -/
def sampleFreshness (definition : SignalDefinition) (sample : SignalSample)
    (observation : Option ℕ) : Except PyException SignalFreshness :=
  match observation with
  | none => .error precedesSample
  | some timestamp =>
    if timestamp < sample.timestampMicroseconds then .error precedesSample
    else
      let age := timestamp - sample.timestampMicroseconds
      let threshold := definition.expectedPeriodMicroseconds * freshnessPeriodMultiplier
      .ok (if age ≤ threshold then .fresh else .stale)

def freshness (engine : TelemetryEngine) (key : SignalKey) :
    Except PyException (Option SignalFreshness) := do
  let definition ← engine.catalog.require key
  match engine.latest.get? key with
  | none => return none
  | some sample =>
    return some (← sampleFreshness definition sample engine.latestTimestampMicroseconds)

/-- `freshness(key, observation_timestamp_microseconds)`. -/
def freshnessAt (engine : TelemetryEngine) (key : SignalKey) (observation : ℕ) :
    Except PyException (Option SignalFreshness) := do
  let definition ← engine.catalog.require key
  match engine.latest.get? key with
  | none => return none
  | some sample => return some (← sampleFreshness definition sample (some observation))

/-- `freshness(key)` for a key that has a sample, as `snapshot` calls it. -/
def observedFreshness (engine : TelemetryEngine) (key : SignalKey) (sample : SignalSample) :
    Except PyException SignalFreshness := do
  let definition ← engine.catalog.require key
  sampleFreshness definition sample engine.latestTimestampMicroseconds

def statistics (engine : TelemetryEngine) : TelemetryStatistics where
  totalFrames := engine.totalFrames
  totalSignalUpdates := engine.totalSignalUpdates
  latestTimestampMicroseconds := engine.latestTimestampMicroseconds
  lastFrameSequence := engine.lastFrameSequence
  framesByArbitrationId := engine.framesByArbitrationId

def snapshot (engine : TelemetryEngine) : Except PyException TelemetrySnapshot :=
  match engine.latest.traverse engine.observedFreshness with
  | .error error => .error error
  | .ok statuses =>
    .ok {
      observationTimestampMicroseconds := engine.latestTimestampMicroseconds
      lastFrameSequence := engine.lastFrameSequence
      samples := engine.latest
      freshness := statuses
      statistics := engine.statistics }

/-! ## What ingestion writes -/

section Accept

variable (engine : TelemetryEngine) (samples : List SignalSample)

@[simp] theorem recordSample_latest (sample : SignalSample) :
    (engine.recordSample sample).latest = engine.latest.set sample.key sample := rfl

/-- Recording samples changes the latest values and the histories only. -/
theorem foldl_recordSample :
    samples.foldl recordSample engine =
      { engine with
        latest := (samples.foldl recordSample engine).latest
        histories := (samples.foldl recordSample engine).histories } := by
  induction samples generalizing engine with
  | nil => rfl
  | cons sample rest ih =>
    rw [List.foldl_cons, ih]
    rfl

theorem foldl_recordSample_latest :
    (samples.foldl recordSample engine).latest =
      samples.foldl (fun latest sample => latest.set sample.key sample) engine.latest := by
  induction samples generalizing engine with
  | nil => rfl
  | cons sample rest ih => rw [List.foldl_cons, ih, List.foldl_cons, recordSample_latest]

variable (frame : DecodedCanFrame)

/-- The engine after an accepted frame, field by field. -/
theorem accept_eq :
    engine.accept frame samples =
      { engine with
        latest := samples.foldl (fun latest sample => latest.set sample.key sample) engine.latest
        histories := (samples.foldl recordSample engine).histories
        nextFrameSequence := engine.nextFrameSequence + 1
        totalFrames := engine.totalFrames + 1
        totalSignalUpdates := engine.totalSignalUpdates + samples.length
        latestTimestampMicroseconds := some frame.timestampMicroseconds
        lastFrameSequence := some engine.nextFrameSequence
        framesByArbitrationId := engine.framesByArbitrationId.set frame.arbitrationId
          ((engine.framesByArbitrationId.get? frame.arbitrationId).getD 0 + 1) } := by
  unfold accept
  simp only []
  rw [foldl_recordSample, foldl_recordSample_latest]

end Accept

/-- `ingest` returns exactly when the frame is in order and its schema is the catalog's; it
then returns the frame's samples and the engine that accepted them. -/
theorem ingest_ok_iff {engine engine' : TelemetryEngine} {frame : DecodedCanFrame}
    {samples : List SignalSample} :
    engine.ingest frame = .ok (samples, engine') ↔
      engine.laterThan frame = none ∧
      ∃ definitions, engine.catalog.definitionsForFrame frame = .ok definitions ∧
        samples = List.zipWith (sampleOf frame engine.nextFrameSequence) definitions
          frame.signals.values ∧
        engine' = engine.accept frame samples := by
  unfold ingest
  cases hlater : engine.laterThan frame with
  | some latest => simp
  | none =>
    cases hdefs : engine.catalog.definitionsForFrame frame with
    | error error => simp
    | ok definitions =>
      simp only [Except.ok.injEq, Prod.mk.injEq, true_and]
      constructor
      · rintro ⟨rfl, rfl⟩
        exact ⟨definitions, rfl, rfl, rfl⟩
      · rintro ⟨_, rfl, rfl, rfl⟩
        exact ⟨rfl, rfl⟩

theorem laterThan_eq_none {engine : TelemetryEngine} {frame : DecodedCanFrame} :
    engine.laterThan frame = none ↔
      ∀ latest, engine.latestTimestampMicroseconds = some latest →
        latest ≤ frame.timestampMicroseconds := by
  unfold laterThan
  cases engine.latestTimestampMicroseconds <;> simp

end TelemetryEngine

end TunerOs
