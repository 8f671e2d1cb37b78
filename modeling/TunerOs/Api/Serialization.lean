-- SUMMARY: The API's telemetry responses: samples, statistics, snapshots and updates as a client reads them.
import TunerOs.Telemetry.Service

/-!
# Serialization

The responses are JSON objects; a client's JSON numbers do not tell an integer
from a float, so a value is a number or a boolean. Numbers are exact.
-/

namespace TunerOs

open Containers

inductive JsonSignalValue where
  | number (value : ℚ)
  | boolean (value : Bool)
deriving DecidableEq

def serializeValue : SignalValue → JsonSignalValue
  | .float value => .number value
  | .int value => .number value
  | .bool value => .boolean value

structure SignalSampleResponse where
  key : SignalKey
  value : JsonSignalValue
  timestampMicroseconds : ℕ
  frameSequence : ℕ
  arbitrationId : ℕ
  arbitrationIdHex : String
  messageName : String
  sourceEcu : String
  unit : String
  freshness : Option SignalFreshness
deriving DecidableEq

structure MessageFrameCountResponse where
  arbitrationId : ℕ
  arbitrationIdHex : String
  messageName : String
  frames : ℕ
deriving DecidableEq

structure TelemetryStatisticsResponse where
  totalFrames : ℕ
  totalSignalUpdates : ℕ
  latestTimestampMicroseconds : Option ℕ
  lastFrameSequence : Option ℕ
  framesByMessage : List MessageFrameCountResponse
deriving DecidableEq

structure TelemetrySnapshotResponse where
  observationTimestampMicroseconds : Option ℕ
  lastFrameSequence : Option ℕ
  signals : List SignalSampleResponse
  statistics : TelemetryStatisticsResponse
deriving DecidableEq

structure TelemetryUpdateEventResponse where
  timestampMicroseconds : ℕ
  frameSequence : ℕ
  arbitrationId : ℕ
  arbitrationIdHex : String
  messageName : String
  sourceEcu : String
  signals : List SignalSampleResponse
deriving DecidableEq

/-- `TelemetrySourceResponse`. -/
structure TelemetrySource where
  mode : TelemetrySourceMode
  sessionId : Option String
  sessionName : Option String
  recording : Bool
  recordedFrameCount : ℕ
deriving DecidableEq

def formatArbitrationId (arbitrationId : ℕ) : String := "0x" ++ formatHex 3 arbitrationId

def serializeSample (sample : SignalSample) (freshness : Option SignalFreshness) :
    SignalSampleResponse where
  key := sample.key
  value := serializeValue sample.value
  timestampMicroseconds := sample.timestampMicroseconds
  frameSequence := sample.frameSequence
  arbitrationId := sample.arbitrationId
  arbitrationIdHex := formatArbitrationId sample.arbitrationId
  messageName := sample.messageName
  sourceEcu := sample.sourceEcu
  unit := sample.unit
  freshness := freshness

/-- `names_by_id`: the name of the last definition with the ID. -/
def namesById (catalog : SignalCatalog) : Dict ℕ String :=
  catalog.definitions.foldl
    (fun names definition => names.set definition.arbitrationId definition.messageName) .empty

def unnamedMessage (arbitrationId : ℕ) : PyException := ⟨.keyError, toString arbitrationId⟩

def serializeFrameCount (catalog : SignalCatalog) (count : ℕ × ℕ) :
    Except PyException MessageFrameCountResponse :=
  match (namesById catalog).get? count.1 with
  | none => .error (unnamedMessage count.1)
  | some messageName => .ok ⟨count.1, formatArbitrationId count.1, messageName, count.2⟩

def serializeStatistics (catalog : SignalCatalog) (statistics : TelemetryStatistics) :
    Except PyException TelemetryStatisticsResponse := do
  let sorted := statistics.framesByArbitrationId.entries.insertionSort (fun a b => a.1 ≤ b.1)
  let framesByMessage ← sorted.mapM (serializeFrameCount catalog)
  return {
    totalFrames := statistics.totalFrames
    totalSignalUpdates := statistics.totalSignalUpdates
    latestTimestampMicroseconds := statistics.latestTimestampMicroseconds
    lastFrameSequence := statistics.lastFrameSequence
    framesByMessage := framesByMessage }

def serializeSnapshot (catalog : SignalCatalog) (snapshot : TelemetrySnapshot) :
    Except PyException TelemetrySnapshotResponse := do
  let statistics ← serializeStatistics catalog snapshot.statistics
  return {
    observationTimestampMicroseconds := snapshot.observationTimestampMicroseconds
    lastFrameSequence := snapshot.lastFrameSequence
    signals := snapshot.samples.entries.map
      (fun entry => serializeSample entry.2 (snapshot.freshness.get? entry.1))
    statistics := statistics }

def serializeUpdate (update : TelemetryUpdate) : TelemetryUpdateEventResponse where
  timestampMicroseconds := update.timestampMicroseconds
  frameSequence := update.frameSequence
  arbitrationId := update.arbitrationId
  arbitrationIdHex := formatArbitrationId update.arbitrationId
  messageName := update.messageName
  sourceEcu := update.sourceEcu
  signals := List.zipWith (fun sample freshness => serializeSample sample (some freshness))
    update.samples update.freshness

/-- The snapshot a client that subscribes now is sent first. -/
def initialSnapshot (s : TelemetryService) : Except PyException TelemetrySnapshotResponse := do
  let (snapshot, _) ← s.subscribe.1
  serializeSnapshot s.pipeline.telemetry.catalog snapshot

/-- Every message that was counted has signals, so `names_by_id` names it. -/
def TelemetryEngine.Named (engine : TelemetryEngine) : Prop :=
  ∀ message ∈ engine.catalog.messages, ∀ frames,
    engine.framesByArbitrationId.get? message.arbitrationId = some frames → message.signals ≠ []

theorem namesById_of_mem {catalog : SignalCatalog} {message : CanMessageMetadata}
    (hmem : message ∈ catalog.messages) (hnamed : message.signals ≠ []) :
    (namesById catalog).get? message.arbitrationId = some message.messageName := by
  have hdefinition : ∃ definition ∈ catalog.definitions,
      definition.arbitrationId = message.arbitrationId := by
    cases hsignals : message.signals with
    | nil => exact absurd hsignals hnamed
    | cons signal rest =>
      refine ⟨message.definition signal, ?_, rfl⟩
      refine List.mem_flatMap.2 ⟨message, hmem, ?_⟩
      exact List.mem_map_of_mem (by rw [hsignals]; exact List.mem_cons_self)
  have hsome : ((namesById catalog).get? message.arbitrationId).isSome :=
    Dict.isSome_foldl_set (Or.inl hdefinition)
  obtain ⟨name, hname⟩ := Option.isSome_iff_exists.1 hsome
  -- Whichever definition wrote the name is of the one message with this ID.
  rcases Dict.get?_foldl_set_cases hname with ⟨definition, hdef, hid, rfl⟩ | ⟨-, hnone⟩
  · obtain ⟨owner, howner, hof⟩ := List.mem_flatMap.1 hdef
    obtain ⟨signal, -, rfl⟩ := List.mem_map.1 hof
    obtain rfl := SignalCatalog.eq_of_arbitrationId howner hmem hid
    exact hname
  · cases hnone

end TunerOs
