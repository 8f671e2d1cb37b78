-- SUMMARY: Synthetic faults: their windows, which are active at a time, and what the biased sensors observe.
import TunerOs.Simulator.Contracts

/-!
# Faults

A fault is active from its activation time until just before its deactivation time.
Two of the four faults bias a sensor: they change what the ECUs observe, never the
vehicle state.
-/

namespace TunerOs

/-- Stable synthetic TunerOS fault identities. -/
inductive FaultId where
  | coolingSystemDegradation
  | chargingSystemFailure
  | mapSensorBias
  | frontLeftWheelSpeedSensorBias
deriving DecidableEq, Repr

/-- The fault biases a sensor; it is not one of the vehicle. -/
def FaultId.IsSensorBias : FaultId → Prop
  | .mapSensorBias | .frontLeftWheelSpeedSensorBias => True
  | _ => False

structure FaultConfiguration where
  id : FaultId
  activationTime : UInt64
  deactivationTime : Option UInt64
deriving DecidableEq

/-- `is_valid(configuration)`; the type has no unknown IDs. -/
def FaultConfiguration.IsValid (configuration : FaultConfiguration) : Prop :=
  ∀ time ∈ configuration.deactivationTime, configuration.activationTime < time

instance (configuration : FaultConfiguration) : Decidable configuration.IsValid :=
  Option.decidableForallMem configuration.deactivationTime

/-- `are_valid`: every configuration is valid, and no ID is used twice. -/
def AreValidFaults (configurations : List FaultConfiguration) : Prop :=
  (∀ configuration ∈ configurations, configuration.IsValid) ∧
    (configurations.map (·.id)).Nodup

instance (configurations : List FaultConfiguration) : Decidable (AreValidFaults configurations) :=
  inferInstanceAs (Decidable (_ ∧ _))

/-- `is_fault_active`. -/
def FaultConfiguration.IsActiveAt (configuration : FaultConfiguration) (timestamp : UInt64) : Prop :=
  configuration.activationTime ≤ timestamp ∧
    ∀ time ∈ configuration.deactivationTime, timestamp < time

instance (configuration : FaultConfiguration) (timestamp : UInt64) :
    Decidable (configuration.IsActiveAt timestamp) :=
  @instDecidableAnd _ _ inferInstance (Option.decidableForallMem configuration.deactivationTime)

/-- A compact evaluation result. -/
structure ActiveFaults where
  coolingSystemDegradation : Bool := false
  chargingSystemFailure : Bool := false
  mapSensorBias : Bool := false
  frontLeftWheelSpeedSensorBias : Bool := false
deriving DecidableEq

/-- The flag of an active fault is set. -/
def ActiveFaults.activate (active : ActiveFaults) : FaultId → ActiveFaults
  | .coolingSystemDegradation => { active with coolingSystemDegradation := true }
  | .chargingSystemFailure => { active with chargingSystemFailure := true }
  | .mapSensorBias => { active with mapSensorBias := true }
  | .frontLeftWheelSpeedSensorBias => { active with frontLeftWheelSpeedSensorBias := true }

/-- `active_faults_at`. -/
def activeFaultsAt (configurations : List FaultConfiguration) (timestamp : UInt64) :
    ActiveFaults :=
  configurations.foldl (fun active configuration =>
    if configuration.IsActiveAt timestamp then active.activate configuration.id else active) {}

/-- The speeds of the four wheels: front left, front right, rear left, rear right. -/
abbrev WheelSpeeds : Type := Vector ℚ 4

/-- Physical truth remains in `VehicleState`; only these observations may be biased. -/
structure SensorObservation where
  dmeState : VehicleState
  wheelSpeedsMetersPerSecond : WheelSpeeds
deriving DecidableEq

def kMapSensorBiasKpa : ℚ := 220
def kFrontLeftWheelSpeedSensorBiasMetersPerSecond : ℚ := 5

/-- What the sensors observe of a state while these faults are active. -/
def ActiveFaults.observe (active : ActiveFaults) (state : VehicleState) : SensorObservation where
  dmeState :=
    if active.mapSensorBias then
      { state with
        manifoldPressureKpaAbsolute :=
          max 0 (state.manifoldPressureKpaAbsolute + kMapSensorBiasKpa) }
    else state
  wheelSpeedsMetersPerSecond :=
    let trueSpeeds := Vector.replicate 4 state.vehicleSpeedMetersPerSecond
    if active.frontLeftWheelSpeedSensorBias then
      trueSpeeds.set 0 (max 0
        (state.vehicleSpeedMetersPerSecond + kFrontLeftWheelSpeedSensorBiasMetersPerSecond))
    else trueSpeeds

/-- `observe_sensors`. -/
def observeSensors (state : VehicleState) (configurations : List FaultConfiguration) :
    SensorObservation :=
  (activeFaultsAt configurations state.timestamp).observe state

end TunerOs
