-- SUMMARY: The six messages of the network and what one observation by the publisher collects and sends.
import TunerOs.Ecu.Publication

/-!
# Network messages

Whatever is due, the frames of one observation are valid and in the order of their IDs,
so publishing them never throws and the sort changes nothing.
-/

namespace TunerOs

/-! ## The messages of the network -/

/-- A message of the network: when it is published and how an observed state gives its frame. -/
structure NetworkMessage where
  arbitrationId : UInt16
  periodMicroseconds : UInt64
  enabled : Bool
  frame : VehicleState → CanFrame

/-- The six messages, in the order of their IDs. -/
def networkMessages (dme : DmePublicationSchedule) (dsc : DscPublicationSchedule)
    (faults : List FaultConfiguration) : List NetworkMessage :=
  [⟨kDmeFastEngineFrameId, dme.fastEnginePeriodMicroseconds, true,
      fun state => makeDmeFastEngineFrame (observeSensors state faults).dmeState⟩,
    ⟨kDmeAirLoadFrameId, dme.airLoadPeriodMicroseconds, true,
      fun state => makeDmeAirLoadFrame (observeSensors state faults).dmeState⟩,
    ⟨kDmeThermalElectricalFrameId, dme.thermalElectricalPeriodMicroseconds, true,
      fun state => makeDmeThermalElectricalFrame (observeSensors state faults).dmeState⟩,
    ⟨kDmeCombustionObservationFrameId, dme.combustionObservationPeriodMicroseconds,
      dme.combustionObservationEnabled,
      fun state => makeDmeCombustionObservationFrame (observeSensors state faults).dmeState⟩,
    ⟨kDscVehicleMotionFrameId, dsc.vehicleMotionPeriodMicroseconds, true,
      makeDscVehicleMotionFrame⟩,
    ⟨kDscWheelSpeedsFrameId, dsc.wheelSpeedsPeriodMicroseconds, true,
      fun state => makeDscWheelSpeedsFrameFrom state
        (observeSensors state faults).wheelSpeedsMetersPerSecond⟩]

@[simp] theorem ActiveFaults.observe_timestamp (active : ActiveFaults) (state : VehicleState) :
    (active.observe state).dmeState.timestamp = state.timestamp := by
  rw [ActiveFaults.observe]
  split <;> rfl

@[simp] theorem observeSensors_timestamp (state : VehicleState)
    (faults : List FaultConfiguration) :
    (observeSensors state faults).dmeState.timestamp = state.timestamp :=
  ActiveFaults.observe_timestamp _ _

/-- A frame that is sent for a message: valid, and marked with the message's ID and the time. -/
structure NetworkMessage.WellFormed (message : NetworkMessage) : Prop where
  isValid : ∀ state, (message.frame state).isValid
  arbitrationId : ∀ state, (message.frame state).arbitrationId = message.arbitrationId
  timestamp : ∀ state, (message.frame state).timestampMicroseconds = state.timestamp

section Messages

variable (dme : DmePublicationSchedule) (dsc : DscPublicationSchedule)
  (faults : List FaultConfiguration)

theorem networkMessages_wellFormed :
    ∀ message ∈ networkMessages dme dsc faults, message.WellFormed := by
  intro message hmem
  simp only [networkMessages, List.mem_cons, List.not_mem_nil, or_false] at hmem
  obtain rfl | rfl | rfl | rfl | rfl | rfl := hmem
  · have hvalid : kDmeFastEngineFrameId ≤ kMaximumStandardArbitrationId ∧
        kDmeFastEnginePayloadLength ≤ 8 := by decide
    exact ⟨fun _ => hvalid, fun _ => rfl, (observeSensors_timestamp · faults)⟩
  · have hvalid : kDmeAirLoadFrameId ≤ kMaximumStandardArbitrationId ∧
        kDmeAirLoadPayloadLength ≤ 8 := by decide
    exact ⟨fun _ => hvalid, fun _ => rfl, (observeSensors_timestamp · faults)⟩
  · have hvalid : kDmeThermalElectricalFrameId ≤ kMaximumStandardArbitrationId ∧
        kDmeThermalElectricalPayloadLength ≤ 8 := by decide
    exact ⟨fun _ => hvalid, fun _ => rfl, (observeSensors_timestamp · faults)⟩
  · have hvalid : kDmeCombustionObservationFrameId ≤ kMaximumStandardArbitrationId ∧
        kDmeCombustionObservationPayloadLength ≤ 8 := by decide
    exact ⟨fun _ => hvalid, fun _ => rfl, (observeSensors_timestamp · faults)⟩
  · have hvalid : kDscVehicleMotionFrameId ≤ kMaximumStandardArbitrationId ∧
        kDscVehicleMotionPayloadLength ≤ 8 := by decide
    exact ⟨fun _ => hvalid, fun _ => rfl, fun _ => rfl⟩
  · have hvalid : kDscWheelSpeedsFrameId ≤ kMaximumStandardArbitrationId ∧
        kDscWheelSpeedsPayloadLength ≤ 8 := by decide
    exact ⟨fun _ => hvalid, fun _ => rfl, fun _ => rfl⟩

theorem networkMessages_pairwise :
    (networkMessages dme dsc faults).Pairwise
      (fun left right => left.arbitrationId < right.arbitrationId) := by
  have hids : ((networkMessages dme dsc faults).map (·.arbitrationId)).Pairwise (· < ·) := by
    change [kDmeFastEngineFrameId, kDmeAirLoadFrameId, kDmeThermalElectricalFrameId,
      kDmeCombustionObservationFrameId, kDscVehicleMotionFrameId,
      kDscWheelSpeedsFrameId].Pairwise (· < ·)
    decide
  exact List.pairwise_map.1 hids

end Messages

/-! ## One observation -/

section Collect

variable {nextDue period timestamp : UInt64}

theorem collectIfDue_sublist (frame : CanFrame) :
    (collectIfDue nextDue period timestamp frame).1.Sublist [frame] := by
  unfold collectIfDue
  split
  · exact List.Sublist.refl _
  · exact List.nil_sublist _

/-- Whether a frame is collected does not depend on what it carries. -/
theorem collectIfDue_forall₂ {R : CanFrame → CanFrame → Prop} {left right : CanFrame}
    (h : R left right) :
    List.Forall₂ R (collectIfDue nextDue period timestamp left).1
      (collectIfDue nextDue period timestamp right).1 := by
  unfold collectIfDue
  split
  · exact .cons h .nil
  · exact .nil

theorem collectIfDue_snd (frame : CanFrame) :
    (collectIfDue nextDue period timestamp frame).2 =
      if nextDue ≤ timestamp then advanceDueTimestamp nextDue period timestamp else nextDue := by
  unfold collectIfDue
  split <;> rfl

end Collect

namespace VehicleNetworkPublisher

/-- The messages a publisher sends. -/
def messages (publisher : VehicleNetworkPublisher) : List NetworkMessage :=
  networkMessages publisher.dme.schedule publisher.dsc.schedule publisher.faults

/-- A publisher as constructed. -/
theorem eq_of_create {dmeSchedule : DmePublicationSchedule} {dscSchedule : DscPublicationSchedule}
    {faults : List FaultConfiguration} {publisher : VehicleNetworkPublisher}
    (h : create dmeSchedule dscSchedule faults = .ok publisher) :
    publisher = ⟨{ schedule := dmeSchedule }, { schedule := dscSchedule }, faults⟩ := by
  unfold create SimulatedDme.create SimulatedDsc.create at h
  split_ifs at h <;> cases h
  rfl

/-- The frames an observation collects from both ECUs. -/
def collectedFrames (publisher : VehicleNetworkPublisher) (state : VehicleState) : List CanFrame :=
  let observation := observeSensors state publisher.faults
  (publisher.dme.collectDueFrames observation.dmeState).1 ++
    (publisher.dsc.collectDueFrames state observation.wheelSpeedsMetersPerSecond).1

/-- The publisher with the due timestamps that an observation leaves. -/
def afterObservation (publisher : VehicleNetworkPublisher) (state : VehicleState) :
    VehicleNetworkPublisher :=
  let observation := observeSensors state publisher.faults
  { publisher with
    dme := (publisher.dme.collectDueFrames observation.dmeState).2
    dsc := (publisher.dsc.collectDueFrames state observation.wheelSpeedsMetersPerSecond).2 }

/-- Every message has at most one frame in an observation. -/
theorem collectedFrames_sublist (publisher : VehicleNetworkPublisher) (state : VehicleState) :
    (publisher.collectedFrames state).Sublist (publisher.messages.map (·.frame state)) := by
  have hcombustion : (if publisher.dme.schedule.combustionObservationEnabled then
        collectIfDue publisher.dme.nextCombustionObservationTimestamp
          publisher.dme.schedule.combustionObservationPeriodMicroseconds
          (observeSensors state publisher.faults).dmeState.timestamp
          (makeDmeCombustionObservationFrame (observeSensors state publisher.faults).dmeState)
      else ([], publisher.dme.nextCombustionObservationTimestamp)).1.Sublist
      [makeDmeCombustionObservationFrame (observeSensors state publisher.faults).dmeState] := by
    split
    · exact collectIfDue_sublist _
    · exact List.nil_sublist _
  change List.Sublist (_ ++ _ ++ _ ++ _ ++ (_ ++ _)) ([_] ++ [_] ++ [_] ++ [_] ++ ([_] ++ [_]))
  exact ((((collectIfDue_sublist _).append (collectIfDue_sublist _)).append
    (collectIfDue_sublist _)).append hcombustion).append
    ((collectIfDue_sublist _).append (collectIfDue_sublist _))

/-- The frames are in the order of their IDs already. -/
theorem collectedFrames_pairwise (publisher : VehicleNetworkPublisher) (state : VehicleState) :
    (publisher.collectedFrames state).Pairwise
      (fun left right => left.arbitrationId < right.arbitrationId) := by
  refine List.Pairwise.sublist (publisher.collectedFrames_sublist state) (List.pairwise_map.2 ?_)
  refine List.Pairwise.imp_of_mem (fun {left right} hleft hright hlt => ?_)
    (networkMessages_pairwise publisher.dme.schedule publisher.dsc.schedule publisher.faults)
  rw [(networkMessages_wellFormed _ _ _ left hleft).arbitrationId,
    (networkMessages_wellFormed _ _ _ right hright).arbitrationId]
  exact hlt

theorem sendAll_of_isValid {frames : List CanFrame} (h : ∀ frame ∈ frames, frame.isValid)
    (transport : InMemoryTransport) :
    transport.sendAll frames = .ok ⟨transport.frames ++ frames⟩ := by
  induction frames generalizing transport with
  | nil => rw [List.append_nil]; rfl
  | cons frame rest ih =>
    have hsend : transport.send frame = .ok ⟨transport.frames ++ [frame]⟩ :=
      if_pos (h frame List.mem_cons_self)
    have hrest := ih (fun other hmem => h other (List.mem_cons_of_mem _ hmem))
      ⟨transport.frames ++ [frame]⟩
    rw [List.append_assoc, List.singleton_append] at hrest
    rw [InMemoryTransport.sendAll, List.foldlM_cons, hsend]
    exact hrest

theorem isValid_of_mem_collectedFrames {publisher : VehicleNetworkPublisher} {state : VehicleState}
    {frame : CanFrame} (h : frame ∈ publisher.collectedFrames state) : frame.isValid := by
  obtain ⟨message, hmem, rfl⟩ :=
    List.mem_map.1 ((publisher.collectedFrames_sublist state).subset h)
  exact (networkMessages_wellFormed _ _ _ message hmem).isValid state

/-- Sorting by IDs leaves the frames where they are. -/
theorem insertionSort_collectedFrames (publisher : VehicleNetworkPublisher)
    (state : VehicleState) :
    (publisher.collectedFrames state).insertionSort
        (fun left right => left.arbitrationId ≤ right.arbitrationId) =
      publisher.collectedFrames state :=
  ((publisher.collectedFrames_pairwise state).imp UInt16.le_of_lt).insertionSort_eq

/-- Publishing an observation appends what it collects and never throws. -/
theorem observeAndPublish_eq (publisher : VehicleNetworkPublisher) (state : VehicleState)
    (transport : InMemoryTransport) :
    publisher.observeAndPublish state transport =
      .ok (publisher.afterObservation state,
        ⟨transport.frames ++ publisher.collectedFrames state⟩) := by
  simp only [observeAndPublish]
  change (transport.sendAll ((publisher.collectedFrames state).insertionSort _) >>= _) = _
  rw [insertionSort_collectedFrames, sendAll_of_isValid fun _ => isValid_of_mem_collectedFrames]
  rfl

theorem timestamp_of_mem_collectedFrames {publisher : VehicleNetworkPublisher}
    {state : VehicleState} {frame : CanFrame} (h : frame ∈ publisher.collectedFrames state) :
    frame.timestampMicroseconds = state.timestamp := by
  obtain ⟨message, hmem, rfl⟩ :=
    List.mem_map.1 ((publisher.collectedFrames_sublist state).subset h)
  exact (networkMessages_wellFormed _ _ _ message hmem).timestamp state

/-- Publishers with the same due timestamps collect the same messages of a state. -/
theorem collectedFrames_forall₂ {R : CanFrame → CanFrame → Prop}
    {left right : VehicleNetworkPublisher} {state : VehicleState} (hdme : left.dme = right.dme)
    (hdsc : left.dsc = right.dsc)
    (h : List.Forall₂ R (left.messages.map (·.frame state))
      (right.messages.map (·.frame state))) :
    List.Forall₂ R (left.collectedFrames state) (right.collectedFrames state) := by
  simp only [messages, networkMessages, List.map_cons, List.map_nil, List.forall₂_cons] at h
  obtain ⟨h0, h1, h2, h3, h4, h5, -⟩ := h
  simp only [collectedFrames, SimulatedDme.collectDueFrames, SimulatedDsc.collectDueFrames,
    observeSensors_timestamp, hdme, hdsc]
  have hcombustion : List.Forall₂ R
      (if right.dme.schedule.combustionObservationEnabled then
        collectIfDue right.dme.nextCombustionObservationTimestamp
          right.dme.schedule.combustionObservationPeriodMicroseconds state.timestamp
          (makeDmeCombustionObservationFrame (observeSensors state left.faults).dmeState)
      else ([], right.dme.nextCombustionObservationTimestamp)).1
      (if right.dme.schedule.combustionObservationEnabled then
        collectIfDue right.dme.nextCombustionObservationTimestamp
          right.dme.schedule.combustionObservationPeriodMicroseconds state.timestamp
          (makeDmeCombustionObservationFrame (observeSensors state right.faults).dmeState)
      else ([], right.dme.nextCombustionObservationTimestamp)).1 := by
    split
    · exact collectIfDue_forall₂ h3
    · exact .nil
  exact List.rel_append (List.rel_append (List.rel_append (List.rel_append
    (collectIfDue_forall₂ h0) (collectIfDue_forall₂ h1)) (collectIfDue_forall₂ h2)) hcombustion)
    (List.rel_append (collectIfDue_forall₂ h4) (collectIfDue_forall₂ h5))

/-- What an observation leaves due depends on its time only. -/
theorem afterObservation_congr {left right : VehicleNetworkPublisher} {first second : VehicleState}
    (hdme : left.dme = right.dme) (hdsc : left.dsc = right.dsc)
    (htime : first.timestamp = second.timestamp) :
    (left.afterObservation first).dme = (right.afterObservation second).dme ∧
      (left.afterObservation first).dsc = (right.afterObservation second).dsc := by
  simp only [afterObservation, SimulatedDme.collectDueFrames, SimulatedDsc.collectDueFrames,
    observeSensors_timestamp, hdme, hdsc, htime, collectIfDue_snd, and_true]
  cases right.dme.schedule.combustionObservationEnabled with
  | false => simp only [Bool.false_eq_true, if_false]
  | true => simp only [if_true, collectIfDue_snd]

end VehicleNetworkPublisher

end TunerOs
