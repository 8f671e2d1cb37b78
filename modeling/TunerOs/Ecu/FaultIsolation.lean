-- SUMMARY: Comparing the runs with and without some faults: nothing before their activation, and sensor faults change sensor bytes only.
import TunerOs.Ecu.NetworkSimulation

/-!
# Comparing two runs

Both runs tick in step: the clocks agree at every time. While no added fault has been
active the states agree too, and so they do to the end if the added faults bias sensors
only, since evolution reads the flags of the other two.
-/

namespace TunerOs

/-! ## The flags of the active faults -/

/-- The flag of a fault. -/
def ActiveFaults.has (active : ActiveFaults) : FaultId → Bool
  | .coolingSystemDegradation => active.coolingSystemDegradation
  | .chargingSystemFailure => active.chargingSystemFailure
  | .mapSensorBias => active.mapSensorBias
  | .frontLeftWheelSpeedSensorBias => active.frontLeftWheelSpeedSensorBias

theorem ActiveFaults.ext_has {left right : ActiveFaults} (h : ∀ id, left.has id = right.has id) :
    left = right := by
  have hcooling := h .coolingSystemDegradation
  have hcharging := h .chargingSystemFailure
  have hmap := h .mapSensorBias
  have hwheel := h .frontLeftWheelSpeedSensorBias
  cases left
  cases right
  simp only [has] at hcooling hcharging hmap hwheel
  rw [hcooling, hcharging, hmap, hwheel]

theorem ActiveFaults.has_activate (active : ActiveFaults) (activated id : FaultId) :
    (active.activate activated).has id = (decide (activated = id) || active.has id) := by
  cases activated <;> cases id <;> rfl

theorem activeFaults_foldl_has (configurations : List FaultConfiguration) (timestamp : UInt64)
    (active : ActiveFaults) (id : FaultId) :
    (configurations.foldl (fun active configuration =>
        if configuration.IsActiveAt timestamp then active.activate configuration.id
        else active) active).has id = true ↔
      active.has id = true ∨
        ∃ fault ∈ configurations, fault.id = id ∧ fault.IsActiveAt timestamp := by
  induction configurations generalizing active with
  | nil => simp only [List.foldl_nil, List.not_mem_nil, false_and, exists_false, or_false]
  | cons first rest ih =>
    rw [List.foldl_cons, ih]
    split
    · next hactive =>
      simp only [ActiveFaults.has_activate, Bool.or_eq_true, decide_eq_true_eq, List.mem_cons,
        exists_eq_or_imp, hactive, and_true]
      exact or_assoc.trans or_left_comm
    · next hinactive =>
      simp only [List.mem_cons, exists_eq_or_imp, hinactive, and_false, false_or]

/-- A flag is set exactly when a fault with its ID is active. -/
theorem activeFaultsAt_has (configurations : List FaultConfiguration) (timestamp : UInt64)
    (id : FaultId) :
    (activeFaultsAt configurations timestamp).has id = true ↔
      ∃ fault ∈ configurations, fault.id = id ∧ fault.IsActiveAt timestamp := by
  rw [activeFaultsAt, activeFaults_foldl_has]
  refine or_iff_right ?_
  cases id <;> exact Bool.false_ne_true

section Added

variable {faults added : List FaultConfiguration} {timestamp : UInt64} {id : FaultId}

/-- A flag differs only if an added fault with its ID is active. -/
theorem exists_added_of_has_ne (h : (activeFaultsAt (faults ++ added) timestamp).has id ≠
      (activeFaultsAt faults timestamp).has id) :
    ∃ fault ∈ added, fault.id = id ∧ fault.IsActiveAt timestamp := by
  by_contra hnone
  refine h (Bool.eq_iff_iff.2 ?_)
  rw [activeFaultsAt_has, activeFaultsAt_has]
  constructor
  · rintro ⟨fault, hmem, hid, hactive⟩
    obtain hbase | hadded := List.mem_append.1 hmem
    · exact ⟨fault, hbase, hid, hactive⟩
    · exact absurd ⟨fault, hadded, hid, hactive⟩ hnone
  · rintro ⟨fault, hmem, hrest⟩
    exact ⟨fault, List.mem_append_left _ hmem, hrest⟩

/-- The time is before the activation of every added fault. -/
def BeforeActivation (added : List FaultConfiguration) (timestamp : UInt64) : Prop :=
  ∀ fault ∈ added, timestamp < fault.activationTime

instance (added : List FaultConfiguration) (timestamp : UInt64) :
    Decidable (BeforeActivation added timestamp) :=
  inferInstanceAs (Decidable (∀ fault ∈ added, _))

theorem activeFaultsAt_of_before (h : BeforeActivation added timestamp) :
    activeFaultsAt (faults ++ added) timestamp = activeFaultsAt faults timestamp := by
  refine ActiveFaults.ext_has fun id => ?_
  by_contra hne
  obtain ⟨fault, hmem, -, hactive⟩ := exists_added_of_has_ne hne
  exact UInt64.not_le.2 (h fault hmem) hactive.1

/-- Added sensor faults leave the flags of the vehicle's faults as they are. -/
theorem activeFaultsAt_of_sensor (h : ∀ fault ∈ added, fault.id.IsSensorBias)
    (hid : ¬ id.IsSensorBias) :
    (activeFaultsAt (faults ++ added) timestamp).has id =
      (activeFaultsAt faults timestamp).has id := by
  by_contra hne
  obtain ⟨fault, hmem, rfl, -⟩ := exists_added_of_has_ne hne
  exact hid (h fault hmem)

end Added

/-- Evolution reads the flags of the vehicle's faults only. -/
theorem evolveVehicleState_congr (exp : ℚ → ℚ) {left right : ActiveFaults}
    (hcooling : left.coolingSystemDegradation = right.coolingSystemDegradation)
    (hcharging : left.chargingSystemFailure = right.chargingSystemFailure) (state : VehicleState)
    (inputs : ScenarioInputs) (scenario : ScenarioId) (profile : VehicleProfile)
    (calibration : CalibrationProfile) (deltaTimeSeconds : ℚ) :
    evolveVehicleState exp state inputs scenario profile calibration left deltaTimeSeconds =
      evolveVehicleState exp state inputs scenario profile calibration right deltaTimeSeconds := by
  cases hengine : (startedState state inputs).engineRunning with
  | false => rw [evolveVehicleState_of_stopped exp hengine, evolveVehicleState_of_stopped exp hengine]
  | true =>
    rw [evolveVehicleState_of_running exp hengine, evolveVehicleState_of_running exp hengine,
      evolveRunningEngine, evolveRunningEngine, hcooling, hcharging]

/-! ## What the biased sensors change in a frame -/

/-- The frames are the same, except for the first two bytes of a message whose sensor an added
fault biases at that time. -/
def DiffersByBias (added : List FaultConfiguration) (left right : CanFrame) : Prop :=
  left.arbitrationId = right.arbitrationId ∧ left.payloadLength = right.payloadLength ∧
    left.timestampMicroseconds = right.timestampMicroseconds ∧
    ∀ index : Fin 8, left.payload[index] ≠ right.payload[index] → index.val < 2 ∧
      ∃ fault ∈ added, fault.IsActiveAt left.timestampMicroseconds ∧
        (fault.id = .mapSensorBias ∧ left.arbitrationId = kDmeAirLoadFrameId ∨
          fault.id = .frontLeftWheelSpeedSensorBias ∧ left.arbitrationId = kDscWheelSpeedsFrameId)

theorem differsByBias_of_eq {added : List FaultConfiguration} {left right : CanFrame}
    (h : left = right) : DiffersByBias added left right := by
  subst h
  exact ⟨rfl, rfl, rfl, fun _ hne => absurd rfl hne⟩

section Frames

variable (active : ActiveFaults) (state : VehicleState)

theorem makeDmeFastEngineFrame_observe :
    makeDmeFastEngineFrame (active.observe state).dmeState = makeDmeFastEngineFrame state := by
  rw [ActiveFaults.observe]
  split <;> rfl

theorem makeDmeThermalElectricalFrame_observe :
    makeDmeThermalElectricalFrame (active.observe state).dmeState =
      makeDmeThermalElectricalFrame state := by
  rw [ActiveFaults.observe]
  split <;> rfl

theorem makeDmeCombustionObservationFrame_observe :
    makeDmeCombustionObservationFrame (active.observe state).dmeState =
      makeDmeCombustionObservationFrame state := by
  rw [ActiveFaults.observe]
  split <;> rfl

/-- The payload areas agree after their first two bytes. -/
def AgreeAfterTwo (left right : Payload) : Prop :=
  ∀ index : Fin 8, 2 ≤ index.val → left[index] = right[index]

theorem agreeAfterTwo_set {left right : Payload} (h : AgreeAfterTwo left right) (offset : ℕ)
    (byte : UInt8) :
    AgreeAfterTwo (left.setIfInBounds offset byte) (right.setIfInBounds offset byte) := by
  intro index hindex
  have hsame := h index hindex
  simp only [Fin.getElem_fin, Vector.getElem_setIfInBounds] at hsame ⊢
  split
  · rfl
  · exact hsame

theorem agreeAfterTwo_pack {left right : Payload} (h : AgreeAfterTwo left right) (offset : ℕ)
    (value : UInt16) :
    AgreeAfterTwo (packU16LittleEndian left offset value)
      (packU16LittleEndian right offset value) :=
  agreeAfterTwo_set (agreeAfterTwo_set h _ _) _ _

/-- Whatever value is packed first. -/
theorem agreeAfterTwo_pack_zero (payload : Payload) (left right : UInt16) :
    AgreeAfterTwo (packU16LittleEndian payload 0 left) (packU16LittleEndian payload 0 right) := by
  intro index hindex
  have hzero : ¬ 0 = index.val := by omega
  have hone : ¬ 0 + 1 = index.val := by omega
  simp only [Fin.getElem_fin, packU16LittleEndian, Vector.getElem_setIfInBounds, hzero, hone,
    if_false]

/-- The pressure is in the first two bytes of its frame. -/
theorem makeDmeAirLoadFrame_payload :
    AgreeAfterTwo (makeDmeAirLoadFrame (active.observe state).dmeState).payload
      (makeDmeAirLoadFrame state).payload := by
  rw [ActiveFaults.observe]
  split
  · exact agreeAfterTwo_set (agreeAfterTwo_set (agreeAfterTwo_pack_zero _ _ _) _ _) _ _
  · exact fun _ _ => rfl

/-- The payload with the speeds of the four wheels. -/
theorem makeDscWheelSpeedsFrameFrom_payload (wheelSpeeds : WheelSpeeds) :
    (makeDscWheelSpeedsFrameFrom state wheelSpeeds).payload =
      packU16LittleEndian (packU16LittleEndian (packU16LittleEndian (packU16LittleEndian zeroPayload
        0 (encodeSpeed (wheelSpeeds.get 0))) 2 (encodeSpeed (wheelSpeeds.get 1))) 4
        (encodeSpeed (wheelSpeeds.get 2))) 6 (encodeSpeed (wheelSpeeds.get 3)) := rfl

/-- The speed of the front left wheel is in the first two bytes of its frame. -/
theorem makeDscWheelSpeedsFrame_payload :
    AgreeAfterTwo
      (makeDscWheelSpeedsFrameFrom state (active.observe state).wheelSpeedsMetersPerSecond).payload
      (makeDscWheelSpeedsFrame state).payload := by
  rw [makeDscWheelSpeedsFrame, makeDscWheelSpeedsFrameFrom_payload,
    makeDscWheelSpeedsFrameFrom_payload]
  have hwheel : ∀ wheel : Fin 4, wheel ≠ 0 →
      (active.observe state).wheelSpeedsMetersPerSecond.get wheel =
        (Vector.replicate 4 state.vehicleSpeedMetersPerSecond).get wheel := by
    intro wheel hwheel
    have hindex : 0 ≠ wheel.val := fun hzero => hwheel (Fin.ext hzero.symm)
    simp only [ActiveFaults.observe]
    split
    · exact Vector.getElem_set_ne (by decide) wheel.isLt hindex
    · rfl
  rw [hwheel 1 (by decide), hwheel 2 (by decide), hwheel 3 (by decide)]
  exact agreeAfterTwo_pack (agreeAfterTwo_pack (agreeAfterTwo_pack
    (agreeAfterTwo_pack_zero _ _ _) _ _) _ _) _ _

end Frames

section Observation

variable (state : VehicleState) (faults added : List FaultConfiguration)

/-- The pressure frame differs only while an added fault biases the sensor. -/
theorem airLoad_differsByBias :
    DiffersByBias added (makeDmeAirLoadFrame (observeSensors state faults).dmeState)
      (makeDmeAirLoadFrame (observeSensors state (faults ++ added)).dmeState) := by
  have htime : (makeDmeAirLoadFrame (observeSensors state faults).dmeState).timestampMicroseconds =
      state.timestamp := observeSensors_timestamp state faults
  have htimeAdded : (makeDmeAirLoadFrame (observeSensors state
      (faults ++ added)).dmeState).timestampMicroseconds = state.timestamp :=
    observeSensors_timestamp state _
  refine ⟨rfl, rfl, htime.trans htimeAdded.symm, fun index hne => ⟨?_, ?_⟩⟩
  · by_contra hlater
    exact hne ((makeDmeAirLoadFrame_payload _ state index (not_lt.1 hlater)).trans
      (makeDmeAirLoadFrame_payload _ state index (not_lt.1 hlater)).symm)
  · have hflag : (activeFaultsAt (faults ++ added) state.timestamp).has .mapSensorBias ≠
        (activeFaultsAt faults state.timestamp).has .mapSensorBias := by
      intro hsame
      have hflags : (activeFaultsAt (faults ++ added) state.timestamp).mapSensorBias =
          (activeFaultsAt faults state.timestamp).mapSensorBias := hsame
      refine hne ?_
      simp only [observeSensors, ActiveFaults.observe, hflags]
    obtain ⟨fault, hmem, hid, hactive⟩ := exists_added_of_has_ne hflag
    exact ⟨fault, hmem, htime ▸ hactive, .inl ⟨hid, rfl⟩⟩

/-- The frame of the wheel speeds differs only while an added fault biases the sensor. -/
theorem wheelSpeeds_differsByBias :
    DiffersByBias added
      (makeDscWheelSpeedsFrameFrom state
        (observeSensors state faults).wheelSpeedsMetersPerSecond)
      (makeDscWheelSpeedsFrameFrom state
        (observeSensors state (faults ++ added)).wheelSpeedsMetersPerSecond) := by
  refine ⟨rfl, rfl, rfl, fun index hne => ⟨?_, ?_⟩⟩
  · by_contra hlater
    exact hne ((makeDscWheelSpeedsFrame_payload _ state index (not_lt.1 hlater)).trans
      (makeDscWheelSpeedsFrame_payload _ state index (not_lt.1 hlater)).symm)
  · have hflag : (activeFaultsAt (faults ++ added) state.timestamp).has
          .frontLeftWheelSpeedSensorBias ≠
        (activeFaultsAt faults state.timestamp).has .frontLeftWheelSpeedSensorBias := by
      intro hsame
      have hflags :
          (activeFaultsAt (faults ++ added) state.timestamp).frontLeftWheelSpeedSensorBias =
            (activeFaultsAt faults state.timestamp).frontLeftWheelSpeedSensorBias := hsame
      refine hne ?_
      simp only [observeSensors, ActiveFaults.observe, hflags]
    obtain ⟨fault, hmem, hid, hactive⟩ := exists_added_of_has_ne hflag
    exact ⟨fault, hmem, hactive, .inr ⟨hid, rfl⟩⟩

/-- Of the same state, every message differs at most by the biases. -/
theorem messages_differByBias (dme : DmePublicationSchedule) (dsc : DscPublicationSchedule) :
    List.Forall₂ (DiffersByBias added)
      ((networkMessages dme dsc faults).map (·.frame state))
      ((networkMessages dme dsc (faults ++ added)).map (·.frame state)) := by
  refine .cons ?_ (.cons (airLoad_differsByBias state faults added) (.cons ?_ (.cons ?_
    (.cons ?_ (.cons (wheelSpeeds_differsByBias state faults added) .nil)))))
  · exact differsByBias_of_eq ((makeDmeFastEngineFrame_observe _ state).trans
      (makeDmeFastEngineFrame_observe _ state).symm)
  · exact differsByBias_of_eq ((makeDmeThermalElectricalFrame_observe _ state).trans
      (makeDmeThermalElectricalFrame_observe _ state).symm)
  · exact differsByBias_of_eq ((makeDmeCombustionObservationFrame_observe _ state).trans
      (makeDmeCombustionObservationFrame_observe _ state).symm)
  · exact differsByBias_of_eq rfl

theorem messages_eq_of_before (dme : DmePublicationSchedule) (dsc : DscPublicationSchedule)
    (h : BeforeActivation added state.timestamp) :
    List.Forall₂ (· = ·) ((networkMessages dme dsc faults).map (·.frame state))
      ((networkMessages dme dsc (faults ++ added)).map (·.frame state)) := by
  have hobserved : observeSensors state (faults ++ added) = observeSensors state faults := by
    rw [observeSensors, observeSensors, activeFaultsAt_of_before h]
  rw [List.forall₂_eq_eq_eq]
  simp only [networkMessages, List.map_cons, List.map_nil, hobserved]

end Observation

/-! ## Two simulations in step -/

/-- The simulations with and without the added faults at the same tick. -/
structure InStep (added : List FaultConfiguration) (base faulty : VehicleNetworkSimulation) :
    Prop where
  consistent : base.vehicleSimulation.Consistent
  consistentFaulty : faulty.vehicleSimulation.Consistent
  configuration : faulty.vehicleSimulation.configuration =
    { base.vehicleSimulation.configuration with
      faults := base.vehicleSimulation.configuration.faults ++ added }
  clock : faulty.vehicleSimulation.clock = base.vehicleSimulation.clock
  runState : faulty.vehicleSimulation.state.runState = base.vehicleSimulation.state.runState
  publisher : faulty.publisher =
    { base.publisher with
      faults := base.publisher.faults ++ added }
  faults : base.publisher.faults = base.vehicleSimulation.configuration.faults

/-- What was published so far: the states, and the frames sent. -/
structure Compared (added : List FaultConfiguration) (base faulty : VehicleNetworkSimulation)
    (baseStates faultyStates : List VehicleState) : Prop where
  statesBefore : faultyStates.filter (fun state => BeforeActivation added state.timestamp) =
    baseStates.filter (fun state => BeforeActivation added state.timestamp)
  framesBefore :
    faulty.transport.frames.filter (fun frame => BeforeActivation added frame.timestampMicroseconds) =
      base.transport.frames.filter (fun frame => BeforeActivation added frame.timestampMicroseconds)
  sensor : (∀ fault ∈ added, fault.id.IsSensorBias) → faultyStates = baseStates ∧
    List.Forall₂ (DiffersByBias added) base.transport.frames faulty.transport.frames

/-- The current states agree as long as the added faults cannot have changed them. -/
structure SameState (added : List FaultConfiguration) (base faulty : VehicleNetworkSimulation) :
    Prop where
  before : BeforeActivation added base.vehicleSimulation.clock.timestamp →
    faulty.vehicleSimulation.state = base.vehicleSimulation.state
  sensor : (∀ fault ∈ added, fault.id.IsSensorBias) →
    faulty.vehicleSimulation.state = base.vehicleSimulation.state

section InStep

variable {added : List FaultConfiguration} {base faulty : VehicleNetworkSimulation}
  {baseStates faultyStates : List VehicleState}

theorem InStep.timestamp (h : InStep added base faulty) :
    faulty.vehicleSimulation.state.timestamp = base.vehicleSimulation.clock.timestamp := by
  rw [h.consistentFaulty.timestamp, h.clock]

/-- Observations of the same state collect frames that are related as the messages are. -/
theorem InStep.collected (h : InStep added base faulty) {R : CanFrame → CanFrame → Prop}
    {state : VehicleState}
    (hmessages : List.Forall₂ R
      ((networkMessages base.publisher.dme.schedule base.publisher.dsc.schedule
        base.publisher.faults).map (·.frame state))
      ((networkMessages base.publisher.dme.schedule base.publisher.dsc.schedule
        (base.publisher.faults ++ added)).map (·.frame state))) :
    List.Forall₂ R (base.publisher.collectedFrames state)
      (faulty.publisher.collectedFrames state) := by
  rw [h.publisher]
  exact VehicleNetworkPublisher.collectedFrames_forall₂ rfl rfl hmessages

theorem filter_eq_nil_of_timestamp {frames : List CanFrame} {timestamp : UInt64}
    (h : ∀ frame ∈ frames, frame.timestampMicroseconds = timestamp)
    (hlate : ¬ BeforeActivation added timestamp) :
    frames.filter (fun frame => BeforeActivation added frame.timestampMicroseconds) = [] := by
  refine List.filter_eq_nil_iff.2 fun frame hframe => ?_
  rw [decide_eq_true_eq, h frame hframe]
  exact hlate

theorem InStep.publish (h : InStep added base faulty) : InStep added base.published faulty.published where
  consistent := h.consistent
  consistentFaulty := h.consistentFaulty
  configuration := h.configuration
  clock := h.clock
  runState := h.runState
  publisher := by
    have htime : faulty.vehicleSimulation.state.timestamp =
        base.vehicleSimulation.state.timestamp := h.timestamp.trans h.consistent.timestamp.symm
    have hdme : faulty.publisher.dme = base.publisher.dme := by rw [h.publisher]
    have hdsc : faulty.publisher.dsc = base.publisher.dsc := by rw [h.publisher]
    have hfaults : faulty.publisher.faults = base.publisher.faults ++ added := by rw [h.publisher]
    obtain ⟨hdmeAfter, hdscAfter⟩ :=
      VehicleNetworkPublisher.afterObservation_congr hdme hdsc htime
    change VehicleNetworkPublisher.mk _ _ _ = VehicleNetworkPublisher.mk _ _ _
    exact congr (congrArg₂ VehicleNetworkPublisher.mk hdmeAfter hdscAfter) hfaults
  faults := h.faults

/-- Publishing keeps the comparison. -/
theorem Compared.publish (h : Compared added base faulty baseStates faultyStates)
    (hstep : InStep added base faulty) (hsame : SameState added base faulty) :
    Compared added base.published faulty.published
      (baseStates ++ [base.vehicleSimulation.state])
      (faultyStates ++ [faulty.vehicleSimulation.state]) := by
  have hbase := hstep.consistent.timestamp
  -- Every frame carries the time of the state it was made from, in both runs the same.
  have hframes : ∀ frame ∈ base.publisher.collectedFrames base.vehicleSimulation.state,
      frame.timestampMicroseconds = base.vehicleSimulation.clock.timestamp := fun frame hframe =>
    (VehicleNetworkPublisher.timestamp_of_mem_collectedFrames hframe).trans hbase
  have hframesFaulty : ∀ frame ∈ faulty.publisher.collectedFrames faulty.vehicleSimulation.state,
      frame.timestampMicroseconds = base.vehicleSimulation.clock.timestamp := fun frame hframe =>
    (VehicleNetworkPublisher.timestamp_of_mem_collectedFrames hframe).trans hstep.timestamp
  refine ⟨?_, ?_, fun hsensor => ?_⟩
  · rw [List.filter_append, List.filter_append, h.statesBefore]
    congr 1
    by_cases hearly : BeforeActivation added base.vehicleSimulation.clock.timestamp
    · rw [hsame.before hearly]
    · rw [List.filter_singleton, List.filter_singleton, hbase, hstep.timestamp,
        decide_eq_false hearly]
      rfl
  · change (faulty.transport.frames ++ _).filter _ = (base.transport.frames ++ _).filter _
    rw [List.filter_append, List.filter_append, h.framesBefore]
    congr 1
    by_cases hearly : BeforeActivation added base.vehicleSimulation.clock.timestamp
    · have hearlyState : BeforeActivation added base.vehicleSimulation.state.timestamp :=
        hbase ▸ hearly
      have hcollected := hstep.collected
        (messages_eq_of_before _ base.publisher.faults added _ _ hearlyState)
      rw [List.forall₂_eq_eq_eq] at hcollected
      rw [hsame.before hearly, hcollected]
    · rw [filter_eq_nil_of_timestamp hframes hearly,
        filter_eq_nil_of_timestamp hframesFaulty hearly]
  · obtain ⟨hstates, hsent⟩ := h.sensor hsensor
    refine ⟨by rw [hstates, hsame.sensor hsensor], ?_⟩
    have hcollected := hstep.collected (messages_differByBias base.vehicleSimulation.state
      base.publisher.faults added _ _)
    refine List.rel_append hsent ?_
    rw [hsame.sensor hsensor]
    exact hcollected

/-- The states after a step agree if the states before it do and the flags of the vehicle's
faults are the same. -/
theorem nextState_eq {exp : ℚ → ℚ} (h : InStep added base faulty) (inputs : ScenarioInputs)
    (timestamp : UInt64)
    (hstate : faulty.vehicleSimulation.state = base.vehicleSimulation.state)
    (hflags : ∀ id : FaultId, ¬ id.IsSensorBias →
      (activeFaultsAt (base.vehicleSimulation.configuration.faults ++ added) timestamp).has id =
        (activeFaultsAt base.vehicleSimulation.configuration.faults timestamp).has id) :
    faulty.vehicleSimulation.nextState exp inputs timestamp =
      base.vehicleSimulation.nextState exp inputs timestamp := by
  have hcooling := hflags .coolingSystemDegradation id
  have hcharging := hflags .chargingSystemFailure id
  rw [VehicleSimulation.nextState, VehicleSimulation.nextState, h.configuration, h.clock, hstate]
  rw [evolveVehicleState_congr exp hcooling hcharging]

/-- After a step, before it is published. -/
theorem InStep.advanced (exp : ℚ → ℚ) (h : InStep added base faulty)
    (hrunning : base.vehicleSimulation.state.runState = .running) (inputs : ScenarioInputs) :
    InStep added
      { base with vehicleSimulation := base.vehicleSimulation.advanced exp inputs }
      { faulty with vehicleSimulation := faulty.vehicleSimulation.advanced exp inputs } where
  consistent := (VehicleSimulation.consistent_advanced exp h.consistent hrunning inputs).1
  consistentFaulty := (VehicleSimulation.consistent_advanced exp h.consistentFaulty
    (h.runState.trans hrunning) inputs).1
  configuration := h.configuration
  clock := by
    simp only [VehicleSimulation.advanced, h.clock]
  runState := by
    simp only [VehicleSimulation.advanced, VehicleSimulation.nextState, h.clock, h.configuration]
  publisher := h.publisher
  faults := h.faults

theorem SameState.advanced (exp : ℚ → ℚ) (h : SameState added base faulty)
    (hstep : InStep added base faulty)
    (hrunning : base.vehicleSimulation.state.runState = .running) (inputs : ScenarioInputs) :
    SameState added
      { base with vehicleSimulation := base.vehicleSimulation.advanced exp inputs }
      { faulty with vehicleSimulation := faulty.vehicleSimulation.advanced exp inputs } where
  before hearly := by
    have hearlier : BeforeActivation added base.vehicleSimulation.clock.timestamp :=
      fun fault hmem => UInt64.lt_of_le_of_lt
        (VehicleSimulation.timestamp_le_add_fixedStep hstep.consistent hrunning)
        (hearly fault hmem)
    simp only [VehicleSimulation.advanced, hstep.clock]
    exact nextState_eq hstep inputs _ (h.before hearlier) fun id _ =>
      congrArg (·.has id) (activeFaultsAt_of_before hearly)
  sensor hsensor := by
    simp only [VehicleSimulation.advanced, hstep.clock]
    exact nextState_eq hstep inputs _ (h.sensor hsensor) fun id hid =>
      activeFaultsAt_of_sensor hsensor hid

/-- A tick of both simulations keeps the comparison. -/
theorem compared_tick (exp : ℚ → ℚ) (h : Compared added base faulty baseStates faultyStates)
    (hstep : InStep added base faulty) (hsame : SameState added base faulty) :
    ∃ executed base' faulty', base.tick exp = .ok (executed, base') ∧
      faulty.tick exp = .ok (executed, faulty') ∧ InStep added base' faulty' ∧
      SameState added base' faulty' ∧
      Compared added base' faulty'
        (if executed then baseStates ++ [base'.vehicleSimulation.state] else baseStates)
        (if executed then faultyStates ++ [faulty'.vehicleSimulation.state] else faultyStates) := by
  by_cases hrunning : base.vehicleSimulation.state.runState = .running
  · obtain ⟨inputs, hinputs, htick⟩ := VehicleNetworkSimulation.tick_of_running exp hstep.consistent
      hrunning
    obtain ⟨inputs', hinputs', htick'⟩ := VehicleNetworkSimulation.tick_of_running exp
      hstep.consistentFaulty (hstep.runState.trans hrunning)
    -- The scenario and the clock decide the inputs, and the faults are part of neither.
    have heq : inputs' = inputs := by
      rw [hstep.configuration, hstep.clock] at hinputs'
      exact Except.ok.inj (hinputs'.symm.trans hinputs)
    subst heq
    have hstepNext := hstep.advanced exp hrunning inputs'
    have hsameNext := hsame.advanced exp hstep hrunning inputs'
    have hnext : Compared added
        { base with vehicleSimulation := base.vehicleSimulation.advanced exp inputs' }
        { faulty with vehicleSimulation := faulty.vehicleSimulation.advanced exp inputs' }
        baseStates faultyStates := ⟨h.statesBefore, h.framesBefore, h.sensor⟩
    exact ⟨true, _, _, htick, htick', hstepNext.publish, ⟨hsameNext.before, hsameNext.sensor⟩,
      hnext.publish hstepNext hsameNext⟩
  · exact ⟨false, base, faulty, VehicleNetworkSimulation.tick_of_inactive hstep.consistent hrunning,
      VehicleNetworkSimulation.tick_of_inactive hstep.consistentFaulty
        (hstep.runState ▸ hrunning), hstep, hsame, h⟩

/-- Any number of ticks of both simulations keeps the comparison. -/
theorem compared_runTicks (exp : ℚ → ℚ)
    (h : Compared added base faulty [base.vehicleSimulation.state]
      [faulty.vehicleSimulation.state])
    (hstep : InStep added base faulty) (hsame : SameState added base faulty) (count : ℕ) :
    ∃ baseStates base' faultyStates faulty', base.runTicks exp count = .ok (baseStates, base') ∧
      faulty.runTicks exp count = .ok (faultyStates, faulty') ∧ InStep added base' faulty' ∧
      SameState added base' faulty' ∧ Compared added base' faulty' baseStates faultyStates := by
  induction count with
  | zero => exact ⟨_, _, _, _, rfl, rfl, hstep, hsame, h⟩
  | succ count ih =>
    obtain ⟨baseStates, base', faultyStates, faulty', hrun, hrun', hstep', hsame', hcompared⟩ := ih
    obtain ⟨executed, next, next', htick, htick', hstepNext, hsameNext, hnext⟩ :=
      compared_tick exp hcompared hstep' hsame'
    refine ⟨_, next, _, next', ?_, ?_, hstepNext, hsameNext, hnext⟩
    · rw [VehicleNetworkSimulation.runTicks, hrun]
      change (base'.tick exp >>= _) = _
      rw [htick]
      rfl
    · rw [VehicleNetworkSimulation.runTicks, hrun']
      change (faulty'.tick exp >>= _) = _
      rw [htick']
      rfl

/-- Runs of simulations that start in the same state and have sent nothing yet. -/
theorem compared_start (exp : ℚ → ℚ) (hstep : InStep added base faulty)
    (hstate : faulty.vehicleSimulation.state = base.vehicleSimulation.state)
    (hbase : base.transport = {}) (hfaulty : faulty.transport = {}) (count : ℕ) :
    ∃ baseStates base' faultyStates faulty',
      base.published.runTicks exp count = .ok (baseStates, base') ∧
      faulty.published.runTicks exp count = .ok (faultyStates, faulty') ∧
      Compared added base' faulty' baseStates faultyStates := by
  have hsame : SameState added base faulty := ⟨fun _ => hstate, fun _ => hstate⟩
  have hempty : Compared added base faulty [] [] := by
    refine ⟨rfl, by rw [hbase, hfaulty], fun _ => ⟨rfl, ?_⟩⟩
    rw [hbase, hfaulty]
    exact .nil
  obtain ⟨baseStates, base', faultyStates, faulty', hrun, hrun', -, -, hcompared⟩ :=
    compared_runTicks exp (hempty.publish hstep hsame) hstep.publish
      ⟨hsame.before, hsame.sensor⟩ count
  exact ⟨baseStates, base', faultyStates, faulty', hrun, hrun', hcompared⟩

end InStep

/-! ## Faults added to a configuration -/

/-- Nothing before the activation of the added faults changes, and if they bias sensors only,
no state changes at all and no byte but those of the biased sensors. -/
theorem added_faults_are_isolated (exp : ℚ → ℚ) (configuration : SimulationRunConfiguration)
    (added : List FaultConfiguration) (dmeSchedule : DmePublicationSchedule)
    (dscSchedule : DscPublicationSchedule) {base faulty : VehicleNetworkSimulation}
    (hbase : VehicleNetworkSimulation.create configuration dmeSchedule dscSchedule = .ok base)
    (hfaulty : VehicleNetworkSimulation.create
      { configuration with faults := configuration.faults ++ added } dmeSchedule dscSchedule =
        .ok faulty) (count : ℕ) :
    ∃ baseStates base' faultyStates faulty', base.runTicks exp count = .ok (baseStates, base') ∧
      faulty.runTicks exp count = .ok (faultyStates, faulty') ∧
      faultyStates.filter (fun state => BeforeActivation added state.timestamp) =
        baseStates.filter (fun state => BeforeActivation added state.timestamp) ∧
      faulty'.transport.frames.filter
          (fun frame => BeforeActivation added frame.timestampMicroseconds) =
        base'.transport.frames.filter
          (fun frame => BeforeActivation added frame.timestampMicroseconds) ∧
      ((∀ fault ∈ added, fault.id.IsSensorBias) → faultyStates = baseStates ∧
        List.Forall₂ (DiffersByBias added) base'.transport.frames faulty'.transport.frames) := by
  obtain ⟨vehicle, hvehicle, rfl⟩ := VehicleNetworkSimulation.create_spec hbase
  obtain ⟨vehicle', hvehicle', rfl⟩ := VehicleNetworkSimulation.create_spec hfaulty
  obtain ⟨hconsistent, hconfiguration, hinitial, hclock, -⟩ :=
    VehicleSimulation.create_spec hvehicle
  obtain ⟨hconsistent', hconfiguration', hinitial', hclock', -⟩ :=
    VehicleSimulation.create_spec hvehicle'
  -- The initial state is made from the configuration without its faults.
  have hstate : vehicle'.state = vehicle.state := by
    have hmake := hconsistent.initialState
    have hmake' := hconsistent'.initialState
    rw [hconfiguration] at hmake
    rw [hconfiguration'] at hmake'
    rw [hinitial, hinitial']
    exact Except.ok.inj (hmake'.symm.trans hmake)
  have hstep : InStep added
      { vehicleSimulation := vehicle
        publisher := ⟨{ schedule := scheduleFor configuration dmeSchedule },
          { schedule := dscSchedule }, configuration.faults⟩ }
      { vehicleSimulation := vehicle'
        publisher := ⟨{ schedule := scheduleFor { configuration with
            faults := configuration.faults ++ added } dmeSchedule },
          { schedule := dscSchedule }, configuration.faults ++ added⟩ } :=
    ⟨hconsistent, hconsistent', by rw [hconfiguration, hconfiguration'], hclock'.trans hclock.symm,
      by rw [hstate], rfl, by rw [hconfiguration]⟩
  obtain ⟨baseStates, base', faultyStates, faulty', hrun, hrun', hcompared⟩ :=
    compared_start exp hstep hstate rfl rfl count
  exact ⟨baseStates, base', faultyStates, faulty', hrun, hrun', hcompared.statesBefore,
    hcompared.framesBefore, hcompared.sensor⟩

/-- A pressure sensor that is biased from the second tick on. -/
def biasedMap : FaultConfiguration where
  id := .mapSensorBias
  activationTime := 20000
  deactivationTime := none

/-- The default idle run with and without a biased pressure sensor. -/
theorem biased_map_leaves_idle_states :
    ∃ base faulty, VehicleNetworkSimulation.create (makeDefaultIdleRunConfiguration {}) {} {} =
        .ok base ∧
      VehicleNetworkSimulation.create
        { makeDefaultIdleRunConfiguration {} with faults := [biasedMap] } {} {} = .ok faulty ∧
      ∃ states base' faulty', base.runTicks reciprocalDecay 3 = .ok (states, base') ∧
        faulty.runTicks reciprocalDecay 3 = .ok (states, faulty') := by
  have hvehicle : VehicleSimulation.create
      { makeDefaultIdleRunConfiguration {} with faults := [biasedMap] } =
      .ok { VehicleSimulation.idleSimulation with
        configuration := { makeDefaultIdleRunConfiguration {} with faults := [biasedMap] } } := by
    decide +kernel
  have hbase : VehicleNetworkSimulation.create (makeDefaultIdleRunConfiguration {}) {} {} = .ok _ :=
    VehicleNetworkSimulation.create_eq VehicleSimulation.create_idleSimulation rfl
  have hfaulty : VehicleNetworkSimulation.create
      { makeDefaultIdleRunConfiguration {} with faults := [biasedMap] } {} {} = .ok _ :=
    VehicleNetworkSimulation.create_eq hvehicle rfl
  obtain ⟨baseStates, base', faultyStates, faulty', hrun, hrun', -, -, hsensor⟩ :=
    added_faults_are_isolated reciprocalDecay (makeDefaultIdleRunConfiguration {}) [biasedMap] {} {}
      hbase hfaulty 3
  have hbias : ∀ fault ∈ [biasedMap], fault.id.IsSensorBias := by
    intro fault hmem
    rw [List.mem_singleton.1 hmem]
    trivial
  obtain ⟨rfl, -⟩ := hsensor hbias
  exact ⟨_, _, hbase, hfaulty, faultyStates, base', faulty', hrun, hrun'⟩

end TunerOs
