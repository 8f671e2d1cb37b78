-- SUMMARY: The simulated ECUs: due timestamps, the frames an observation collects, and the publisher that sends them.
import TunerOs.Ecu.DscFrames
import TunerOs.Exceptions
import Mathlib.Data.List.Sort

/-!
# Periodic publication

Each message has the timestamp from which it is due next. An observed state collects
the frames that are due and moves their timestamps past its own. The publisher sends
the frames of both ECUs in the order of their arbitration IDs.
-/

namespace TunerOs

/-- `advance_due_timestamp`. -/
def advanceDueTimestamp (nextDue period observedTimestamp : UInt64) : UInt64 :=
  let periodsToAdvance := (observedTimestamp - nextDue) / period + 1
  let maximumIncrement := maximumUInt64 - nextDue
  if maximumIncrement / period < periodsToAdvance then maximumUInt64
  else nextDue + periodsToAdvance * period

/-- One block of `collect_due_frames`: the frame if it is due, and when it is due next. -/
def collectIfDue (nextDue period timestamp : UInt64) (frame : CanFrame) : List CanFrame × UInt64 :=
  if nextDue ≤ timestamp then ([frame], advanceDueTimestamp nextDue period timestamp)
  else ([], nextDue)

def kDmeFastEnginePeriodMicroseconds : UInt64 := 10000
def kDmeAirLoadPeriodMicroseconds : UInt64 := 20000
def kDmeThermalElectricalPeriodMicroseconds : UInt64 := 100000
def kDmeCombustionObservationPeriodMicroseconds : UInt64 := 20000
def kDscVehicleMotionPeriodMicroseconds : UInt64 := 20000
def kDscWheelSpeedsPeriodMicroseconds : UInt64 := 20000

/-! ## The DME -/

structure DmePublicationSchedule where
  fastEnginePeriodMicroseconds : UInt64 := kDmeFastEnginePeriodMicroseconds
  airLoadPeriodMicroseconds : UInt64 := kDmeAirLoadPeriodMicroseconds
  thermalElectricalPeriodMicroseconds : UInt64 := kDmeThermalElectricalPeriodMicroseconds
  combustionObservationPeriodMicroseconds : UInt64 := kDmeCombustionObservationPeriodMicroseconds
  combustionObservationEnabled : Bool := false
deriving DecidableEq

structure SimulatedDme where
  schedule : DmePublicationSchedule
  nextFastEngineTimestamp : UInt64 := 0
  nextAirLoadTimestamp : UInt64 := 0
  nextThermalElectricalTimestamp : UInt64 := 0
  nextCombustionObservationTimestamp : UInt64 := 0
deriving DecidableEq

namespace SimulatedDme

/-- The constructor. -/
def create (schedule : DmePublicationSchedule) : Except CppException SimulatedDme :=
  if schedule.fastEnginePeriodMicroseconds = 0 ∨ schedule.airLoadPeriodMicroseconds = 0 ∨
      schedule.thermalElectricalPeriodMicroseconds = 0 ∨
      schedule.combustionObservationPeriodMicroseconds = 0 then
    .error ⟨"DME publication periods must be positive"⟩
  else .ok { schedule }

/-- `collect_due_frames`. -/
def collectDueFrames (dme : SimulatedDme) (state : VehicleState) : List CanFrame × SimulatedDme :=
  let timestamp := state.timestamp
  let (fastEngine, nextFastEngine) := collectIfDue dme.nextFastEngineTimestamp
    dme.schedule.fastEnginePeriodMicroseconds timestamp (makeDmeFastEngineFrame state)
  let (airLoad, nextAirLoad) := collectIfDue dme.nextAirLoadTimestamp
    dme.schedule.airLoadPeriodMicroseconds timestamp (makeDmeAirLoadFrame state)
  let (thermalElectrical, nextThermalElectrical) := collectIfDue dme.nextThermalElectricalTimestamp
    dme.schedule.thermalElectricalPeriodMicroseconds timestamp
    (makeDmeThermalElectricalFrame state)
  let (combustionObservation, nextCombustionObservation) :=
    if dme.schedule.combustionObservationEnabled then
      collectIfDue dme.nextCombustionObservationTimestamp
        dme.schedule.combustionObservationPeriodMicroseconds timestamp
        (makeDmeCombustionObservationFrame state)
    else ([], dme.nextCombustionObservationTimestamp)
  (fastEngine ++ airLoad ++ thermalElectrical ++ combustionObservation,
    { dme with
      nextFastEngineTimestamp := nextFastEngine
      nextAirLoadTimestamp := nextAirLoad
      nextThermalElectricalTimestamp := nextThermalElectrical
      nextCombustionObservationTimestamp := nextCombustionObservation })

def reset (dme : SimulatedDme) : SimulatedDme := { schedule := dme.schedule }

end SimulatedDme

/-! ## The DSC -/

structure DscPublicationSchedule where
  vehicleMotionPeriodMicroseconds : UInt64 := kDscVehicleMotionPeriodMicroseconds
  wheelSpeedsPeriodMicroseconds : UInt64 := kDscWheelSpeedsPeriodMicroseconds
deriving DecidableEq

structure SimulatedDsc where
  schedule : DscPublicationSchedule
  nextVehicleMotionTimestamp : UInt64 := 0
  nextWheelSpeedsTimestamp : UInt64 := 0
deriving DecidableEq

namespace SimulatedDsc

/-- The constructor. -/
def create (schedule : DscPublicationSchedule) : Except CppException SimulatedDsc :=
  if schedule.vehicleMotionPeriodMicroseconds = 0 ∨ schedule.wheelSpeedsPeriodMicroseconds = 0 then
    .error ⟨"DSC publication periods must be positive"⟩
  else .ok { schedule }

/-- `collect_due_frames(state, wheel_speeds_meters_per_second)`. -/
def collectDueFrames (dsc : SimulatedDsc) (state : VehicleState) (wheelSpeeds : WheelSpeeds) :
    List CanFrame × SimulatedDsc :=
  let timestamp := state.timestamp
  let (vehicleMotion, nextVehicleMotion) := collectIfDue dsc.nextVehicleMotionTimestamp
    dsc.schedule.vehicleMotionPeriodMicroseconds timestamp (makeDscVehicleMotionFrame state)
  let (wheels, nextWheelSpeeds) := collectIfDue dsc.nextWheelSpeedsTimestamp
    dsc.schedule.wheelSpeedsPeriodMicroseconds timestamp
    (makeDscWheelSpeedsFrameFrom state wheelSpeeds)
  (vehicleMotion ++ wheels,
    { dsc with
      nextVehicleMotionTimestamp := nextVehicleMotion
      nextWheelSpeedsTimestamp := nextWheelSpeeds })

def reset (dsc : SimulatedDsc) : SimulatedDsc := { schedule := dsc.schedule }

end SimulatedDsc

/-! ## The transport and the publisher -/

/-- `InMemoryTransport`: the frames sent and not yet received, oldest first. -/
structure InMemoryTransport where
  frames : List CanFrame := []
deriving DecidableEq

namespace InMemoryTransport

def invalidFrame : CppException := ⟨"invalid Classic CAN data frame"⟩

def send (transport : InMemoryTransport) (frame : CanFrame) : Except CppException InMemoryTransport :=
  if frame.isValid then .ok ⟨transport.frames ++ [frame]⟩ else .error invalidFrame

/-- Send frames one after the other. -/
def sendAll (transport : InMemoryTransport) (frames : List CanFrame) :
    Except CppException InMemoryTransport :=
  frames.foldlM send transport

/-- `receive`: the oldest frame, which leaves the transport. -/
def receive (transport : InMemoryTransport) : Option CanFrame × InMemoryTransport :=
  (transport.frames.head?, ⟨transport.frames.tail⟩)

/-- `drain`: all frames, which leave the transport. -/
def drain (transport : InMemoryTransport) : List CanFrame × InMemoryTransport :=
  (transport.frames, {})

def clear (_transport : InMemoryTransport) : InMemoryTransport := {}

end InMemoryTransport

structure VehicleNetworkPublisher where
  dme : SimulatedDme
  dsc : SimulatedDsc
  faults : List FaultConfiguration

namespace VehicleNetworkPublisher

def invalidFaults : CppException :=
  ⟨"fault configurations require unique IDs and deactivation after activation"⟩

/-- The constructor; members are constructed before its body runs. -/
def create (dmeSchedule : DmePublicationSchedule) (dscSchedule : DscPublicationSchedule)
    (faults : List FaultConfiguration) : Except CppException VehicleNetworkPublisher := do
  let dme ← SimulatedDme.create dmeSchedule
  let dsc ← SimulatedDsc.create dscSchedule
  if AreValidFaults faults then .ok ⟨dme, dsc, faults⟩ else .error invalidFaults

/-- `observe_and_publish`: one ID has at most one frame, so `std::sort` has one result. -/
def observeAndPublish (publisher : VehicleNetworkPublisher) (state : VehicleState)
    (transport : InMemoryTransport) :
    Except CppException (VehicleNetworkPublisher × InMemoryTransport) := do
  let observation := observeSensors state publisher.faults
  let (dmeFrames, dme) := publisher.dme.collectDueFrames observation.dmeState
  let (dscFrames, dsc) :=
    publisher.dsc.collectDueFrames state observation.wheelSpeedsMetersPerSecond
  let frames := (dmeFrames ++ dscFrames).insertionSort
    (fun left right => left.arbitrationId ≤ right.arbitrationId)
  let transport ← transport.sendAll frames
  return ({ publisher with dme, dsc }, transport)

/-- Observe states one after the other. -/
def observeAll (publisher : VehicleNetworkPublisher) (transport : InMemoryTransport) :
    List VehicleState → Except CppException (VehicleNetworkPublisher × InMemoryTransport)
  | [] => .ok (publisher, transport)
  | state :: rest => do
    let (next, transport) ← publisher.observeAndPublish state transport
    next.observeAll transport rest

def reset (publisher : VehicleNetworkPublisher) : VehicleNetworkPublisher :=
  { publisher with dme := publisher.dme.reset, dsc := publisher.dsc.reset }

end VehicleNetworkPublisher

end TunerOs
