-- SUMMARY: Each network message carries one DBC message of what the sensors observe, at the DBC's period, and the backend decodes its frames.
import TunerOs.Ecu.FrameDecoding
import TunerOs.Ecu.NetworkRun
import TunerOs.Lib.Sequences

/-!
# Observed frames

The publisher's messages and the DBC's are paired, so that a frame on the network is
known by its encoder and the state it was observed from. `canmatrix` is a parameter;
`DecodesIntel` is what its documentation says about unsigned Intel-order signals.
-/

namespace TunerOs

open Containers VehicleNetworkSimulation

/-- The encoders of the network's messages, in the order of their IDs. -/
def networkEncoders : List FrameEncoder :=
  [dmeFastEngineEncoder, dmeAirLoadEncoder, dmeThermalElectricalEncoder,
    dmeCombustionObservationEncoder, dscVehicleMotionEncoder, dscWheelSpeedsEncoderFrom]

namespace FrameEncoder

/-- The frame of what the sensors observe of a state. -/
def observed (encoder : FrameEncoder) (faults : List FaultConfiguration) (state : VehicleState) :
    CanFrame :=
  encoder.encode (observeSensors state faults).dmeState
    (observeSensors state faults).wheelSpeedsMetersPerSecond

/-- The value the backend reads for a signal of an observed state. -/
def shown (encoder : FrameEncoder) (faults : List FaultConfiguration) (signal : DbcSignal)
    (state : VehicleState) : SignalValue :=
  Decoder.signalValue signal.name (signal.decode (encoder.observed faults state).data)

/-- The microseconds between two frames, as the DBC states them. -/
def period (encoder : FrameEncoder) : ℕ := encoder.message.cycleTimeMilliseconds * 1000

/-- The encoder writes the frames of a message. -/
structure Writes (encoder : FrameEncoder) (faults : List FaultConfiguration)
    (message : NetworkMessage) : Prop where
  arbitrationId : message.arbitrationId.toNat = encoder.message.arbitrationId
  period : message.periodMicroseconds.toNat = encoder.period
  frame : ∀ state, message.frame state = encoder.observed faults state

end FrameEncoder

theorem mem_frameEncoders_of_network {encoder : FrameEncoder} (h : encoder ∈ networkEncoders) :
    encoder ∈ frameEncoders :=
  List.mem_append_left [dscWheelSpeedsEncoder] h

theorem message_mem_of_network {encoder : FrameEncoder} (h : encoder ∈ networkEncoders) :
    encoder.message ∈ packagedMessages := by
  have hmessages : networkEncoders.map (·.message) = packagedMessages := rfl
  exact hmessages ▸ List.mem_map_of_mem h

/-- Motion and wheel frames read nothing that the DME's sensors can falsify. -/
theorem makeDscVehicleMotionFrame_observe (active : ActiveFaults) (state : VehicleState) :
    makeDscVehicleMotionFrame (active.observe state).dmeState = makeDscVehicleMotionFrame state := by
  unfold ActiveFaults.observe
  split <;> rfl

theorem makeDscWheelSpeedsFrameFrom_observe (active : ActiveFaults) (state : VehicleState)
    (wheelSpeeds : WheelSpeeds) :
    makeDscWheelSpeedsFrameFrom (active.observe state).dmeState wheelSpeeds =
      makeDscWheelSpeedsFrameFrom state wheelSpeeds := by
  unfold ActiveFaults.observe
  split <;> rfl

/-- Only the combustion observation depends on the scenario. -/
theorem scheduleFor_default (configuration : SimulationRunConfiguration) :
    scheduleFor configuration {} =
      { combustionObservationEnabled := configuration.scenario = .wideOpenThrottlePull } := by
  unfold scheduleFor
  split
  · next hscenario => rw [hscenario]; rfl
  · next hscenario => rw [decide_eq_false hscenario]

/-! ## Which encoders a publisher uses -/

theorem networkEncoders_nodup : networkEncoders.Nodup :=
  List.Nodup.of_map (·.message.arbitrationId) (by decide)

namespace VehicleNetworkPublisher

/-- The encoders whose frames an observation collects. -/
def dueEncoders (publisher : VehicleNetworkPublisher) (state : VehicleState) : List FrameEncoder :=
  networkEncoders.filter
    (fun encoder => encoder.observed publisher.faults state ∈ publisher.collectedFrames state)

/-- Each encoder with the state whose frame of it is sent, oldest first. -/
def sentOf (publisher : VehicleNetworkPublisher) :
    List VehicleState → List (FrameEncoder × VehicleState)
  | [] => []
  | state :: rest =>
    (publisher.dueEncoders state).map (·, state) ++
      (publisher.afterObservation state).sentOf rest

/-- The publisher's messages are those of the encoders. -/
def HasEncoders (publisher : VehicleNetworkPublisher) : Prop :=
  List.Forall₂ (fun encoder message => encoder.Writes publisher.faults message) networkEncoders
    publisher.messages

/-- With default schedules each encoder writes its message at the DBC's period. -/
theorem hasEncoders_default (configuration : SimulationRunConfiguration) :
    (defaultPublisher configuration).HasEncoders := by
  unfold HasEncoders messages defaultPublisher networkMessages networkEncoders
  rw [scheduleFor_default]
  refine .cons ⟨rfl, rfl, fun _ => rfl⟩ (.cons ⟨rfl, rfl, fun _ => rfl⟩
    (.cons ⟨rfl, rfl, fun _ => rfl⟩ (.cons ⟨rfl, rfl, fun _ => rfl⟩
      (.cons ⟨rfl, rfl, fun state => ?_⟩ (.cons ⟨rfl, rfl, fun state => ?_⟩ .nil)))))
  · exact (makeDscVehicleMotionFrame_observe _ state).symm
  · exact (makeDscWheelSpeedsFrameFrom_observe _ state _).symm

section Sent

variable {publisher : VehicleNetworkPublisher} (h : publisher.HasEncoders)

theorem observed_arbitrationId {encoder : FrameEncoder} (hencoder : encoder ∈ networkEncoders)
    (faults : List FaultConfiguration) (state : VehicleState) :
    (encoder.observed faults state).arbitrationId.toNat = encoder.message.arbitrationId :=
  (frameEncoder_carries (mem_frameEncoders_of_network hencoder) _ _).arbitrationId

theorem observed_inj {left right : FrameEncoder} (hleft : left ∈ networkEncoders)
    (hright : right ∈ networkEncoders) {faults : List FaultConfiguration} {state : VehicleState}
    (heq : left.observed faults state = right.observed faults state) : left = right := by
  have hids : (networkEncoders.map (·.message.arbitrationId)).Nodup := by decide
  refine List.inj_on_of_nodup_map hids hleft hright ?_
  rw [← observed_arbitrationId hleft faults state, heq, observed_arbitrationId hright]

include h

theorem map_frame_messages (state : VehicleState) :
    publisher.messages.map (·.frame state) =
      networkEncoders.map (·.observed publisher.faults state) := by
  have hall : List.Forall₂ (fun encoder message => encoder.Writes publisher.faults message)
    networkEncoders publisher.messages := h
  generalize networkEncoders = encoders at hall ⊢
  generalize publisher.messages = messages at hall ⊢
  induction hall with
  | nil => rfl
  | cons hwrites _ ih => rw [List.map_cons, List.map_cons, ih, hwrites.frame]

/-- The collected frames are those of the due encoders. -/
theorem collectedFrames_eq_map (state : VehicleState) :
    publisher.collectedFrames state =
      (publisher.dueEncoders state).map (·.observed publisher.faults state) := by
  have hsublist := publisher.collectedFrames_sublist state
  rw [map_frame_messages h] at hsublist
  obtain ⟨encoders, hencoders, heq⟩ := List.sublist_map_iff.1 hsublist
  suffices hfilter : encoders = publisher.dueEncoders state by rw [heq, hfilter]
  refine hencoders.eq_filter networkEncoders_nodup fun encoder hmem => ?_
  rw [decide_eq_true_eq, heq, List.mem_map]
  constructor
  · rintro ⟨other, hother, hsame⟩
    exact observed_inj (hencoders.subset hother) hmem hsame ▸ hother
  · exact fun hencoder => ⟨encoder, hencoder, rfl⟩

theorem hasEncoders_afterObservation (state : VehicleState) :
    (publisher.afterObservation state).HasEncoders := h

/-- The frames of observed states are those of the encoders that are due at each. -/
theorem observedFrames_eq_map (states : List VehicleState) :
    publisher.observedFrames states =
      (publisher.sentOf states).map (fun sent => sent.1.observed publisher.faults sent.2) := by
  induction states generalizing publisher with
  | nil => rfl
  | cons state rest ih =>
    rw [observedFrames, collectedFrames_eq_map h, ih (hasEncoders_afterObservation h state), sentOf,
      List.map_append, List.map_map]
    rfl

end Sent

theorem sentOf_snoc (publisher : VehicleNetworkPublisher) (states : List VehicleState)
    (state : VehicleState) :
    publisher.sentOf (states ++ [state]) = publisher.sentOf states ++
      ((publisher.afterObservations states).dueEncoders state).map (·, state) := by
  induction states generalizing publisher with
  | nil => exact List.append_nil _
  | cons first rest ih =>
    rw [List.cons_append, sentOf, ih, ← List.append_assoc]
    rfl

/-- What was sent at any time: the frames of whole states, and then some of the next state. -/
theorem take_sentOf (publisher : VehicleNetworkPublisher) (states : List VehicleState)
    (count : ℕ) : (publisher.sentOf states).take count = [] ∨
      ∃ before state earlier later, before ++ [state] <+: states ∧
        (publisher.afterObservations before).dueEncoders state = earlier ++ later ∧
        earlier ≠ [] ∧
        (publisher.sentOf states).take count =
          publisher.sentOf before ++ earlier.map (·, state) := by
  induction states using List.reverseRecOn with
  | nil => exact .inl List.take_nil
  | append_singleton before state ih =>
    rw [sentOf_snoc, List.take_append]
    by_cases hnone : ((publisher.afterObservations before).dueEncoders state).take
        (count - (publisher.sentOf before).length) = []
    · rw [← List.map_take, hnone, List.map_nil, List.append_nil]
      refine ih.imp_right fun ⟨front, last, earlier, later, hbegins, hsplit⟩ => ?_
      exact ⟨front, last, earlier, later, hbegins.trans (List.prefix_append _ _), hsplit⟩
    · have hwhole : (publisher.sentOf before).length ≤ count := by
        by_contra hlt
        rw [Nat.sub_eq_zero_of_le (not_le.1 hlt).le, List.take_zero] at hnone
        exact hnone rfl
      refine .inr ⟨before, state, _, _, List.prefix_refl _, (List.take_append_drop _ _).symm, hnone, ?_⟩
      rw [List.take_of_length_le hwhole, List.map_take]

theorem mem_networkEncoders_of_due {publisher : VehicleNetworkPublisher} {state : VehicleState}
    {encoder : FrameEncoder} (h : encoder ∈ publisher.dueEncoders state) :
    encoder ∈ networkEncoders :=
  (List.mem_filter.1 h).1

/-- What is sent is a frame of the network for one of the states. -/
theorem mem_sentOf {publisher : VehicleNetworkPublisher} {states : List VehicleState}
    {sent : FrameEncoder × VehicleState} (h : sent ∈ publisher.sentOf states) :
    sent.1 ∈ networkEncoders ∧ sent.2 ∈ states := by
  induction states generalizing publisher with
  | nil => exact absurd h List.not_mem_nil
  | cons state rest ih =>
    obtain hfirst | hrest := List.mem_append.1 h
    · obtain ⟨encoder, hencoder, rfl⟩ := List.mem_map.1 hfirst
      exact ⟨mem_networkEncoders_of_due hencoder, List.mem_cons_self⟩
    · exact ⟨(ih hrest).1, List.mem_cons_of_mem _ (ih hrest).2⟩

/-- Frames are sent in the order of time. -/
theorem sentOf_pairwise {publisher : VehicleNetworkPublisher} {states : List VehicleState}
    (h : states.Pairwise (fun earlier later => earlier.timestamp < later.timestamp)) :
    (publisher.sentOf states).Pairwise
      (fun earlier later => earlier.2.timestamp.toNat ≤ later.2.timestamp.toNat) := by
  induction states generalizing publisher with
  | nil => exact List.Pairwise.nil
  | cons state rest ih =>
    obtain ⟨hfirst, hrest⟩ := List.pairwise_cons.1 h
    refine List.pairwise_append.2 ⟨?_, ih hrest, ?_⟩
    · refine List.pairwise_of_forall_mem_list fun left hleft right hright => ?_
      obtain ⟨_, -, rfl⟩ := List.mem_map.1 hleft
      obtain ⟨_, -, rfl⟩ := List.mem_map.1 hright
      exact le_rfl
    · intro left hleft right hright
      obtain ⟨_, -, rfl⟩ := List.mem_map.1 hleft
      exact (UInt64.lt_iff_toNat_lt.1 (hfirst _ (mem_sentOf hright).2)).le

end VehicleNetworkPublisher

/-! ## What the backend receives -/

/-- What the backend is given for a frame on the network. -/
structure RawCanFrame.Observes (raw : RawCanFrame) (frame : CanFrame) : Prop where
  arbitrationId : raw.arbitrationId = frame.arbitrationId.toNat
  payload : raw.payload = frame.data
  timestamp : raw.timestampMicroseconds = frame.timestampMicroseconds.toNat

theorem ValidCanFrame.observes (frame : ValidCanFrame) : frame.rawCanFrame.Observes frame.val :=
  ⟨rfl, rfl, rfl⟩

/-- Valid frames are received in their order. -/
theorem exists_validFrames {frames : List CanFrame} (h : ∀ frame ∈ frames, frame.isValid) :
    ∃ sent : List ValidCanFrame, sent.map Subtype.val = frames ∧
      List.Forall₂ RawCanFrame.Observes (sent.map ValidCanFrame.rawCanFrame) frames := by
  induction frames with
  | nil => exact ⟨[], rfl, .nil⟩
  | cons frame rest ih =>
    obtain ⟨sent, hsent, hobserves⟩ := ih fun other hmem => h other (List.mem_cons_of_mem _ hmem)
    let first : ValidCanFrame := ⟨frame, h frame List.mem_cons_self⟩
    exact ⟨first :: sent, by rw [List.map_cons, hsent], .cons first.observes hobserves⟩

/-- What `canmatrix` documents: a payload of its message's size gives each of the message's
signals, and nothing else, the value of its Intel-order bit field. -/
structure DecodesIntel (messageDecode : DbcMessage → Bytes → Option (Dict String CanmatrixValue)) :
    Prop where
  decodes : ∀ message ∈ packagedMessages, ∀ payload, payload.length = message.size →
    ∃ values, messageDecode message payload = some values
  signals : (packagedDecoder messageDecode).DecodesSignals
  values : ∀ message ∈ packagedMessages, ∀ payload values,
    messageDecode message payload = some values →
      ∀ signal ∈ message.signals, values.get? signal.name = some (signal.decode payload)

theorem decodesIntel_intelDecode : DecodesIntel DbcMessage.intelDecode where
  decodes := fun _ _ _ hlength => ⟨_, if_pos hlength⟩
  signals := packagedDecoder_decodesSignals
  values := by
    intro message _ payload values hvalues signal hsignal
    unfold DbcMessage.intelDecode at hvalues
    split at hvalues
    · cases hvalues
      exact message.get?_signalValues hsignal payload
    · cases hvalues

theorem Decoder.frameById_of_mem (decoder : Decoder) {message : DbcMessage}
    (h : message ∈ decoder.messages) : decoder.frameById message.arbitrationId = some message := by
  have hinjective := List.inj_on_of_nodup_map decoder.ids_nodup
  cases hfound : decoder.frameById message.arbitrationId with
  | none =>
    have hnone := List.find?_eq_none.1 hfound message h
    exact absurd (decide_eq_true rfl) hnone
  | some other =>
    obtain ⟨hmem, hid⟩ := frameById_mem hfound
    rw [hinjective hmem h hid]

section Decode

variable {messageDecode : DbcMessage → Bytes → Option (Dict String CanmatrixValue)}
  {encoder : FrameEncoder} {faults : List FaultConfiguration} {state : VehicleState}
  {raw : RawCanFrame}

/-- A received frame decodes to the values of its message's signals. -/
theorem decode_observed (hdecodes : DecodesIntel messageDecode) (hencoder : encoder ∈ networkEncoders)
    (hraw : raw.Observes (encoder.observed faults state)) :
    ∃ decoded, (packagedDecoder messageDecode).decode raw = .ok decoded ∧
      decoded.messageName = encoder.message.name ∧
      decoded.timestampMicroseconds = state.timestamp.toNat ∧
      decoded.signals.entries ≠ [] ∧
      ∀ signal ∈ encoder.message.signals,
        decoded.signals.get? signal.name = some (encoder.shown faults signal state) := by
  have hmem := mem_frameEncoders_of_network hencoder
  have hpackaged := message_mem_of_network hencoder
  have hcarries := frameEncoder_carries hmem (observeSensors state faults).dmeState
    (observeSensors state faults).wheelSpeedsMetersPerSecond
  have hvalid := hcarries.isValid (messages_of_frameEncoders.2 encoder hmem)
  have hid : raw.arbitrationId = encoder.message.arbitrationId :=
    hraw.arbitrationId.trans hcarries.arbitrationId
  have hlength : raw.payload.length = encoder.message.size := by
    rw [hraw.payload]
    exact (CanFrame.length_data hvalid).trans hcarries.payloadLength
  have htime : raw.timestampMicroseconds = state.timestamp.toNat := by
    rw [hraw.timestamp, FrameEncoder.observed, hcarries.timestamp, observeSensors_timestamp]
  have hfound : (packagedDecoder messageDecode).frameById raw.arbitrationId =
      some encoder.message := by
    rw [hid]
    exact (packagedDecoder messageDecode).frameById_of_mem hpackaged
  obtain ⟨values, hvalues⟩ := hdecodes.decodes _ hpackaged _ hlength
  have hsignals : ∀ signal ∈ encoder.message.signals,
      (Decoder.signalValues values).get? signal.name = some (encoder.shown faults signal state) := by
    intro signal hsignal
    rw [Decoder.get?_signalValues, hdecodes.values _ hpackaged _ _ hvalues signal hsignal,
      hraw.payload]
    rfl
  refine ⟨⟨raw.arbitrationId, encoder.message.name, raw.timestampMicroseconds,
    Decoder.signalValues values⟩, ?_, rfl, htime, ?_, hsignals⟩
  · have hraws : (packagedDecoder messageDecode).messageDecode encoder.message raw.payload =
        some values := hvalues
    simp only [Decoder.decode, hfound, RawCanFrame.payloadLength, hlength, ne_eq, not_true_eq_false,
      if_false, hraws]
  · intro hempty
    have hnonempty : ∀ message ∈ packagedMessages, message.signals ≠ [] := by decide
    obtain ⟨signal, hsignal⟩ := List.exists_mem_of_ne_nil _ (hnonempty _ hpackaged)
    have hentry := Dict.mem_entries_iff.2 (hsignals signal hsignal)
    rw [hempty] at hentry
    cases hentry

end Decode

end TunerOs
