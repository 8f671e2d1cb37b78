-- SUMMARY: The CAN explorer: a bounded buffer of annotated raw frames and per-ID statistics.
import TunerOs.Can.Decoder
import TunerOs.Lib.BoundedDeque
import TunerOs.Lib.Fallible
import Mathlib.Data.List.Sort
import Mathlib.Algebra.Order.Ring.Rat

/-!
# CAN explorer

The explorer observes every raw frame in arrival order, decodable or not. A
decoding error is part of the observation; only a decoder that omits a signal its
own metadata names makes `ingest` raise, before anything is written.
-/

namespace TunerOs

open Containers

def defaultCanExplorerCapacity : ℕ := 4096

inductive CanDecodeStatus where
  | decoded
  | unknown
  | error
deriving DecidableEq, Repr

structure CanExplorerSignal where
  signalName : String
  value : SignalValue
  unit : String
deriving DecidableEq

structure CanExplorerFrame where
  sequence : ℕ
  rawFrame : RawCanFrame
  messageName : Option String
  sourceEcu : Option String
  expectedPeriodMicroseconds : Option ℕ
  decodeStatus : CanDecodeStatus
  decodeError : Option String
  decodedSignals : List CanExplorerSignal
deriving DecidableEq

structure CanMessageStatistics where
  arbitrationId : ℕ
  messageName : Option String
  sourceEcu : Option String
  retainedFrameCount : ℕ
  totalFrameCount : ℕ
  firstTimestampMicroseconds : ℕ
  latestTimestampMicroseconds : ℕ
  expectedPeriodMicroseconds : Option ℕ
  observedAveragePeriodMicroseconds : Option ℚ
  observedFrequencyHz : Option ℚ
  latestDlc : ℕ
deriving DecidableEq

structure CanExplorerStatistics where
  retainedFrameCount : ℕ
  totalFrameCount : ℕ
  uniqueIdCount : ℕ
  oldestRetainedTimestampMicroseconds : Option ℕ
  newestRetainedTimestampMicroseconds : Option ℕ
  lastSequence : Option ℕ
deriving DecidableEq

structure CanExplorerSnapshot where
  frames : List CanExplorerFrame
  statistics : CanExplorerStatistics
  messages : List CanMessageStatistics
deriving DecidableEq

/-- `_MutableMessageStatistics`. -/
structure MessageCounters where
  arbitrationId : ℕ
  metadata : Option CanMessageMetadata
  retainedFrameCount : ℕ
  totalFrameCount : ℕ
  firstTimestampMicroseconds : ℕ
  latestTimestampMicroseconds : ℕ
  latestDlc : ℕ
deriving DecidableEq

/-- `_freeze_message`. -/
def MessageCounters.freeze (counters : MessageCounters) : CanMessageStatistics :=
  let period : Option ℚ :=
    if 2 ≤ counters.totalFrameCount then
      some (((counters.latestTimestampMicroseconds : ℚ) - counters.firstTimestampMicroseconds) /
        (counters.totalFrameCount - 1))
    else none
  { arbitrationId := counters.arbitrationId
    messageName := counters.metadata.map (·.messageName)
    sourceEcu := counters.metadata.map (·.transmitter)
    retainedFrameCount := counters.retainedFrameCount
    totalFrameCount := counters.totalFrameCount
    firstTimestampMicroseconds := counters.firstTimestampMicroseconds
    latestTimestampMicroseconds := counters.latestTimestampMicroseconds
    expectedPeriodMicroseconds := counters.metadata.map (·.cycleTimeMicroseconds)
    observedAveragePeriodMicroseconds := period
    observedFrequencyHz := (period.filter (0 < ·)).map (1000000 / ·)
    latestDlc := counters.latestDlc }

structure CanExplorer where
  decoder : Decoder
  buffer : BoundedDeque CanExplorerFrame
  messages : Dict ℕ MessageCounters
  nextSequence : ℕ

/-- What decoding said about an observed frame. -/
structure DecodeObservation where
  metadata : Option CanMessageMetadata
  status : CanDecodeStatus
  error : Option String
  signals : List CanExplorerSignal

namespace CanExplorer

def capacity (explorer : CanExplorer) : ℕ := explorer.buffer.maxlen

/-- The explorer `reset` leaves behind; it depends on the constructor's arguments only. -/
def fresh (decoder : Decoder) (capacity : ℕ) : CanExplorer where
  decoder := decoder
  buffer := .empty capacity
  messages := .empty
  nextSequence := 0

def reset (explorer : CanExplorer) : CanExplorer := fresh explorer.decoder explorer.capacity

/-- `CanExplorer(decoder, capacity)`. -/
def create (decoder : Decoder) (capacity : ℕ) : Except PyException CanExplorer :=
  if capacity = 0 then .error ⟨.valueError, "CAN explorer capacity must be positive"⟩
  else .ok (fresh decoder capacity)

/-- `_metadata_by_id.get`. -/
def metadataById (explorer : CanExplorer) (arbitrationId : ℕ) : Option CanMessageMetadata :=
  explorer.decoder.databaseMetadata.find? (·.arbitrationId = arbitrationId)

def missingSignal (name : String) : PyException := ⟨.keyError, "'" ++ name ++ "'"⟩

/-- One signal of the observed frame, looked up by the name the metadata gives it. -/
def explorerSignal (signals : Dict String SignalValue) (signal : CanSignalMetadata) :
    Except PyException CanExplorerSignal :=
  match signals.get? signal.signalName with
  | none => .error (missingSignal signal.signalName)
  | some value => .ok ⟨signal.signalName, value, signal.unit⟩

/-- The decoding half of `ingest`. -/
def observe (explorer : CanExplorer) (rawFrame : RawCanFrame) :
    Except PyException DecodeObservation :=
  match explorer.metadataById rawFrame.arbitrationId with
  | none => .ok ⟨none, .unknown, none, []⟩
  | some metadata =>
    match explorer.decoder.decode rawFrame with
    | .ok decoded =>
      match metadata.signals.mapM (explorerSignal decoded.signals) with
      | .ok signals => .ok ⟨some metadata, .decoded, none, signals⟩
      | .error error => .error error
    | .error error =>
      if error.cls = .unknownCanFrameError then .ok ⟨none, .unknown, none, []⟩
      else if error.cls.isCanDecodeError then .ok ⟨some metadata, .error, some error.message, []⟩
      else .error error

/-- The counters without the frame that is evicted. An evicted frame is one its message retains. -/
def evict (explorer : CanExplorer) : Dict ℕ MessageCounters :=
  if explorer.buffer.items.length = explorer.capacity then
    match explorer.buffer.items.head? with
    | none => explorer.messages
    | some evicted =>
      match explorer.messages.get? evicted.rawFrame.arbitrationId with
      | none => explorer.messages
      | some counters =>
        explorer.messages.set evicted.rawFrame.arbitrationId
          { counters with retainedFrameCount := counters.retainedFrameCount - 1 }
  else explorer.messages

/-- `_update_message`. -/
def updateMessage (messages : Dict ℕ MessageCounters) (rawFrame : RawCanFrame)
    (metadata : Option CanMessageMetadata) : Dict ℕ MessageCounters :=
  match messages.get? rawFrame.arbitrationId with
  | none =>
    messages.set rawFrame.arbitrationId
      { arbitrationId := rawFrame.arbitrationId
        metadata := metadata
        retainedFrameCount := 1
        totalFrameCount := 1
        firstTimestampMicroseconds := rawFrame.timestampMicroseconds
        latestTimestampMicroseconds := rawFrame.timestampMicroseconds
        latestDlc := rawFrame.payloadLength }
  | some counters =>
    messages.set rawFrame.arbitrationId { counters with
      retainedFrameCount := counters.retainedFrameCount + 1
      totalFrameCount := counters.totalFrameCount + 1
      latestTimestampMicroseconds := rawFrame.timestampMicroseconds
      latestDlc := rawFrame.payloadLength }

def ingest (explorer : CanExplorer) (rawFrame : RawCanFrame) :
    Except PyException (CanExplorerFrame × CanExplorer) :=
  match explorer.observe rawFrame with
  | .error error => .error error
  | .ok observed =>
    let frame : CanExplorerFrame :=
      { sequence := explorer.nextSequence
        rawFrame := rawFrame
        messageName := observed.metadata.map (·.messageName)
        sourceEcu := observed.metadata.map (·.transmitter)
        expectedPeriodMicroseconds := observed.metadata.map (·.cycleTimeMicroseconds)
        decodeStatus := observed.status
        decodeError := observed.error
        decodedSignals := observed.signals }
    .ok (frame, { explorer with
      nextSequence := explorer.nextSequence + 1
      buffer := explorer.buffer.append frame
      messages := updateMessage explorer.evict rawFrame observed.metadata })

def frames (explorer : CanExplorer) (limit : Option ℕ) : Except PyException (List CanExplorerFrame) :=
  match limit with
  | none => .ok explorer.buffer.items
  | some limit =>
    if limit = 0 then .error ⟨.valueError, "CAN frame limit must be positive"⟩
    else .ok (explorer.buffer.items.rtake limit)

def frame (explorer : CanExplorer) (sequence : ℕ) : Option CanExplorerFrame :=
  explorer.buffer.items.find? (·.sequence = sequence)

/-- `message_statistics`: in ascending order of arbitration IDs. -/
def messageStatistics (explorer : CanExplorer) : List CanMessageStatistics :=
  (explorer.messages.entries.insertionSort (fun a b => a.1 ≤ b.1)).map (fun entry => entry.2.freeze)

def messageStatistic (explorer : CanExplorer) (arbitrationId : ℕ) :
    Except PyException CanMessageStatistics :=
  match explorer.messages.get? arbitrationId with
  | none => .error ⟨.keyError, toString arbitrationId⟩
  | some counters => .ok counters.freeze

def statistics (explorer : CanExplorer) : CanExplorerStatistics where
  retainedFrameCount := explorer.buffer.items.length
  totalFrameCount := explorer.nextSequence
  uniqueIdCount := explorer.messages.entries.length
  oldestRetainedTimestampMicroseconds :=
    explorer.buffer.items.head?.map (·.rawFrame.timestampMicroseconds)
  newestRetainedTimestampMicroseconds :=
    explorer.buffer.items.getLast?.map (·.rawFrame.timestampMicroseconds)
  lastSequence := if explorer.nextSequence = 0 then none else some (explorer.nextSequence - 1)

def snapshot (explorer : CanExplorer) (frameLimit : Option ℕ) :
    Except PyException CanExplorerSnapshot := do
  let frames ← explorer.frames frameLimit
  return ⟨frames, explorer.statistics, explorer.messageStatistics⟩

/-- Only a decoder that omits a signal of its metadata makes `ingest` raise. -/
theorem ingest_returns {explorer : CanExplorer} (h : explorer.decoder.DecodesSignals)
    (rawFrame : RawCanFrame) :
    ∃ frame explorer', explorer.ingest rawFrame = .ok (frame, explorer') := by
  suffices hobserve : ∃ observed, explorer.observe rawFrame = .ok observed by
    obtain ⟨observed, hobserved⟩ := hobserve
    unfold ingest
    rw [hobserved]
    exact ⟨_, _, rfl⟩
  unfold observe metadataById
  rw [Decoder.find?_databaseMetadata]
  cases hmessage : explorer.decoder.frameById rawFrame.arbitrationId with
  | none => exact ⟨_, rfl⟩
  | some message =>
    simp only [Option.map_some]
    cases hdecode : explorer.decoder.decode rawFrame with
    | error error =>
      simp only [Decoder.decode_error_isCanDecodeError hdecode, if_true]
      split <;> exact ⟨_, rfl⟩
    | ok decoded =>
      obtain ⟨found, hfound, -, -, hkeys⟩ := h.keys hdecode
      rw [hmessage] at hfound
      cases hfound
      have hsignals : ∀ signal ∈ message.metadata.signals, ∃ observed,
          explorerSignal decoded.signals signal = .ok observed := by
        intro signal hmem
        obtain ⟨dbcSignal, hsignal, rfl⟩ := List.mem_map.1 hmem
        have hname := (hkeys dbcSignal.name).2 (List.mem_map_of_mem hsignal)
        obtain ⟨value, hvalue⟩ := Dict.mem_keys_iff.1 hname
        simp only [explorerSignal, hvalue]
        exact ⟨_, rfl⟩
      obtain ⟨signals, hmap⟩ := Fallible.exists_mapM hsignals
      simp only [hmap]
      exact ⟨_, rfl⟩

theorem ingest_decoder {explorer explorer' : CanExplorer} {rawFrame : RawCanFrame}
    {frame : CanExplorerFrame} (h : explorer.ingest rawFrame = .ok (frame, explorer')) :
    explorer'.decoder = explorer.decoder := by
  unfold ingest at h
  split at h <;> cases h
  rfl

/-- An ingested frame has a statistic, so looking it up does not raise. -/
theorem messageStatistic_of_ingest {explorer explorer' : CanExplorer} {rawFrame : RawCanFrame}
    {frame : CanExplorerFrame} (h : explorer.ingest rawFrame = .ok (frame, explorer')) :
    ∃ statistic, explorer'.messageStatistic rawFrame.arbitrationId = .ok statistic := by
  unfold ingest at h
  split at h
  · cases h
  · rename_i observed hobserved
    cases h
    simp only [messageStatistic, updateMessage]
    cases hmessages : explorer.evict.get? rawFrame.arbitrationId with
    | none =>
      rw [Dict.get?_set_self]
      exact ⟨_, rfl⟩
    | some counters =>
      rw [Dict.get?_set_self]
      exact ⟨_, rfl⟩

end CanExplorer

end TunerOs
