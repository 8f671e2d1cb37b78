-- SUMMARY: The API's raw CAN responses: frames, per-ID and global statistics, and the events of the raw WebSocket.
import TunerOs.Api.Serialization

/-!
# Serialization of raw CAN

An event of the raw WebSocket carries what one ingest returned: the frame, the
global statistics and the statistics of the frame's ID. The source context is read
when the event is sent, so it is an argument of its own.
-/

namespace TunerOs

def canWebsocketInitialFrameLimit : ℕ := 1000

structure CanDecodedSignalResponse where
  signalName : String
  value : JsonSignalValue
  unit : String
deriving DecidableEq

structure CanExplorerFrameResponse where
  sequence : ℕ
  timestampMicroseconds : ℕ
  arbitrationId : ℕ
  arbitrationIdHex : String
  dlc : ℕ
  payload : List ℕ
  payloadHex : String
  messageName : Option String
  sourceEcu : Option String
  expectedPeriodMicroseconds : Option ℕ
  decodeStatus : CanDecodeStatus
  decodeError : Option String
  decodedSignals : List CanDecodedSignalResponse
deriving DecidableEq

structure CanMessageStatisticsResponse where
  arbitrationId : ℕ
  arbitrationIdHex : String
  messageName : Option String
  sourceEcu : Option String
  retainedFrameCount : ℕ
  totalFrameCount : ℕ
  firstTimestampMicroseconds : ℕ
  latestTimestampMicroseconds : ℕ
  expectedPeriodMicroseconds : Option ℕ
  observedAveragePeriodMicroseconds : Option ℚ
  observedFrequencyHz : Option ℚ
  latestDlc : ℕ
deriving DecidableEq

structure CanExplorerStatisticsResponse where
  retainedFrameCount : ℕ
  totalFrameCount : ℕ
  uniqueIdCount : ℕ
  oldestRetainedTimestampMicroseconds : Option ℕ
  newestRetainedTimestampMicroseconds : Option ℕ
  lastSequence : Option ℕ
  source : TelemetrySource
deriving DecidableEq

structure InitialCanSnapshotEvent where
  frames : List CanExplorerFrameResponse
  statistics : CanExplorerStatisticsResponse
  messages : List CanMessageStatisticsResponse
  serviceState : TelemetryServiceState
deriving DecidableEq

structure CanFrameEvent where
  frame : CanExplorerFrameResponse
  statistics : CanExplorerStatisticsResponse
  messageStatistics : CanMessageStatisticsResponse
deriving DecidableEq

def serializeCanFrame (frame : CanExplorerFrame) : CanExplorerFrameResponse where
  sequence := frame.sequence
  timestampMicroseconds := frame.rawFrame.timestampMicroseconds
  arbitrationId := frame.rawFrame.arbitrationId
  arbitrationIdHex := formatArbitrationId frame.rawFrame.arbitrationId
  dlc := frame.rawFrame.payloadLength
  payload := frame.rawFrame.payload.map UInt8.toNat
  payloadHex := " ".intercalate (frame.rawFrame.payload.map (fun byte => formatHex 2 byte.toNat))
  messageName := frame.messageName
  sourceEcu := frame.sourceEcu
  expectedPeriodMicroseconds := frame.expectedPeriodMicroseconds
  decodeStatus := frame.decodeStatus
  decodeError := frame.decodeError
  decodedSignals := frame.decodedSignals.map
    (fun signal => ⟨signal.signalName, serializeValue signal.value, signal.unit⟩)

def serializeCanMessageStatistics (statistics : CanMessageStatistics) :
    CanMessageStatisticsResponse where
  arbitrationId := statistics.arbitrationId
  arbitrationIdHex := formatArbitrationId statistics.arbitrationId
  messageName := statistics.messageName
  sourceEcu := statistics.sourceEcu
  retainedFrameCount := statistics.retainedFrameCount
  totalFrameCount := statistics.totalFrameCount
  firstTimestampMicroseconds := statistics.firstTimestampMicroseconds
  latestTimestampMicroseconds := statistics.latestTimestampMicroseconds
  expectedPeriodMicroseconds := statistics.expectedPeriodMicroseconds
  observedAveragePeriodMicroseconds := statistics.observedAveragePeriodMicroseconds
  observedFrequencyHz := statistics.observedFrequencyHz
  latestDlc := statistics.latestDlc

def serializeCanStatistics (statistics : CanExplorerStatistics) (source : TelemetrySource) :
    CanExplorerStatisticsResponse where
  retainedFrameCount := statistics.retainedFrameCount
  totalFrameCount := statistics.totalFrameCount
  uniqueIdCount := statistics.uniqueIdCount
  oldestRetainedTimestampMicroseconds := statistics.oldestRetainedTimestampMicroseconds
  newestRetainedTimestampMicroseconds := statistics.newestRetainedTimestampMicroseconds
  lastSequence := statistics.lastSequence
  source := source

def serializeInitialCanSnapshot (snapshot : CanExplorerSnapshot) (source : TelemetrySource)
    (state : TelemetryServiceState) : InitialCanSnapshotEvent where
  frames := snapshot.frames.map serializeCanFrame
  statistics := serializeCanStatistics snapshot.statistics source
  messages := snapshot.messages.map serializeCanMessageStatistics
  serviceState := state

def serializeCanUpdate (update : CanExplorerUpdate) (source : TelemetrySource) :
    CanFrameEvent where
  frame := serializeCanFrame update.frame
  statistics := serializeCanStatistics update.statistics source
  messageStatistics := serializeCanMessageStatistics update.messageStatistics

end TunerOs
