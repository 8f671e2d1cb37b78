-- SUMMARY: Every message is sent when another of its periods has passed, and the stream is ordered by time and ID.
import TunerOs.Ecu.DueTimestamp
import TunerOs.Ecu.NetworkMessages

/-!
# The publication schedule

The invariant is that every due timestamp stands at the next multiple of its period
after the last observation. An observation then sends the frames of the messages for
which another multiple was reached, and they are in the order of their IDs already.
-/

namespace TunerOs

open Periodic

/-! ## Due timestamps -/

/-- Where a due timestamp stands after the last observation: at the start before the first. -/
def StandsAt (nextDue period : UInt64) : Option UInt64 → Prop
  | none => nextDue = 0
  | some observed => nextDue.toNat = nextMultiple period.toNat observed.toNat

/-- Another multiple of the period was reached since the last observation; the first
observation always counts. -/
def PeriodElapsed (period : UInt64) (previous : Option UInt64) (timestamp : UInt64) : Prop :=
  ∀ earlier ∈ previous, earlier.toNat / period.toNat < timestamp.toNat / period.toNat

instance (period : UInt64) (previous : Option UInt64) (timestamp : UInt64) :
    Decidable (PeriodElapsed period previous timestamp) :=
  Option.decidableForallMem previous

/-- A block collects its frame when another period has passed, and keeps the invariant. -/
theorem collectIfDue_spec {nextDue period timestamp : UInt64} {previous : Option UInt64}
    (h : StandsAt nextDue period previous) (hpos : 0 < period.toNat)
    (hlater : ∀ earlier ∈ previous, earlier.toNat < timestamp.toNat)
    (hbound : timestamp.toNat + period.toNat ≤ maximumUInt64.toNat) (frame : CanFrame) :
    (collectIfDue nextDue period timestamp frame).1 =
        (if PeriodElapsed period previous timestamp then [frame] else []) ∧
      StandsAt (collectIfDue nextDue period timestamp frame).2 period (some timestamp) := by
  have hdue : nextDue ≤ timestamp ↔ PeriodElapsed period previous timestamp := by
    rw [UInt64.le_iff_toNat_le]
    cases previous with
    | none =>
      have hzero : nextDue = 0 := h
      rw [hzero]
      exact ⟨fun _ => nofun, fun _ => Nat.zero_le _⟩
    | some earlier =>
      have hstands : nextDue.toNat = nextMultiple period.toNat earlier.toNat := h
      rw [hstands, nextMultiple_le_iff hpos]
      exact ⟨fun hlt _ hmem => (Option.some.inj hmem) ▸ hlt, fun hall => hall earlier rfl⟩
  have hdvd : period.toNat ∣ nextDue.toNat := by
    cases previous with
    | none =>
      have hzero : nextDue = 0 := h
      rw [hzero]
      exact Nat.dvd_zero _
    | some earlier =>
      have hstands : nextDue.toNat = nextMultiple period.toNat earlier.toNat := h
      rw [hstands]
      exact dvd_nextMultiple
  unfold collectIfDue
  by_cases hreached : nextDue ≤ timestamp
  · rw [if_pos hreached, if_pos (hdue.1 hreached)]
    refine ⟨rfl, ?_⟩
    have hle := UInt64.le_iff_toNat_le.1 hreached
    exact (toNat_advanceDueTimestamp hpos hle hbound).trans
      (advance_eq_nextMultiple hpos hdvd hle)
  · rw [if_neg hreached, if_neg (mt hdue.2 hreached)]
    refine ⟨rfl, ?_⟩
    cases previous with
    | none => exact absurd (hdue.2 nofun) hreached
    | some earlier =>
      have hstands : nextDue.toNat = nextMultiple period.toNat earlier.toNat := h
      have hsame : timestamp.toNat / period.toNat = earlier.toNat / period.toNat := by
        have hmono : earlier.toNat / period.toNat ≤ timestamp.toNat / period.toNat :=
          Nat.div_le_div_right (hlater earlier rfl).le
        have hnot : ¬ earlier.toNat / period.toNat < timestamp.toNat / period.toNat :=
          fun hlt => hreached (hdue.2 (fun other hmem => (Option.some.inj hmem) ▸ hlt))
        omega
      rw [StandsAt, hstands, nextMultiple, nextMultiple, hsame]

/-! ## The frames of one observation -/

/-- The message is sent for a state that is observed after this time. -/
def NetworkMessage.IsDue (message : NetworkMessage) (previous : Option UInt64)
    (state : VehicleState) : Prop :=
  message.enabled = true ∧ PeriodElapsed message.periodMicroseconds previous state.timestamp

instance (message : NetworkMessage) (previous : Option UInt64) (state : VehicleState) :
    Decidable (message.IsDue previous state) :=
  inferInstanceAs (Decidable (_ ∧ _))

/-- The frames of the messages that are due. -/
def dueFrames (previous : Option UInt64) (state : VehicleState) (messages : List NetworkMessage) :
    List CanFrame :=
  messages.flatMap (fun message =>
    if message.IsDue previous state then [message.frame state] else [])

section DueFrames

variable {previous : Option UInt64} {state : VehicleState} {messages : List NetworkMessage}

theorem dueFrames_nil : dueFrames previous state [] = [] := rfl

theorem dueFrames_cons (message : NetworkMessage) :
    dueFrames previous state (message :: messages) =
      (if message.enabled = true ∧ PeriodElapsed message.periodMicroseconds previous state.timestamp
        then [message.frame state] else []) ++ dueFrames previous state messages := by
  rw [dueFrames, List.flatMap_cons]
  exact congrArg (· ++ _) (if_congr Iff.rfl rfl rfl)

theorem mem_dueFrames {frame : CanFrame} :
    frame ∈ dueFrames previous state messages ↔
      ∃ message ∈ messages, message.IsDue previous state ∧ frame = message.frame state := by
  rw [dueFrames, List.mem_flatMap]
  refine exists_congr fun message => and_congr_right fun _ => ?_
  split
  · next hdue => simp [hdue]
  · next hdue => simp [hdue]

/-- The frames are in the order of their IDs, as the messages are. -/
theorem dueFrames_pairwise (hwell : ∀ message ∈ messages, message.WellFormed)
    (hpairwise : messages.Pairwise (fun left right => left.arbitrationId < right.arbitrationId)) :
    (dueFrames previous state messages).Pairwise
      (fun left right => left.arbitrationId < right.arbitrationId) := by
  induction messages with
  | nil => exact List.Pairwise.nil
  | cons message rest ih =>
    obtain ⟨hfirst, hrest⟩ := List.pairwise_cons.1 hpairwise
    have hwellRest := fun other hmem => hwell other (List.mem_cons_of_mem _ hmem)
    rw [dueFrames, List.flatMap_cons]
    refine List.pairwise_append.2 ⟨?_, ih hwellRest hrest, ?_⟩
    · split
      · exact List.pairwise_singleton _ _
      · exact List.Pairwise.nil
    · intro left hleft right hright
      obtain ⟨other, hother, -, rfl⟩ := mem_dueFrames.1 hright
      have hleftEq : left = message.frame state := by
        split at hleft
        · exact List.mem_singleton.1 hleft
        · exact absurd hleft List.not_mem_nil
      rw [hleftEq, (hwell message List.mem_cons_self).arbitrationId,
        (hwellRest other hother).arbitrationId]
      exact hfirst other hother

theorem filter_dueFrames_eq_nil {arbitrationId : UInt16}
    (hwell : ∀ message ∈ messages, message.WellFormed)
    (hne : ∀ message ∈ messages, message.arbitrationId ≠ arbitrationId) :
    (dueFrames previous state messages).filter (·.arbitrationId = arbitrationId) = [] := by
  refine List.filter_eq_nil_iff.2 fun frame hframe => ?_
  obtain ⟨message, hmem, -, rfl⟩ := mem_dueFrames.1 hframe
  rw [(hwell message hmem).arbitrationId, decide_eq_true_eq]
  exact hne message hmem

/-- The frames with the ID of a message are its own frame, if it is due. -/
theorem filter_dueFrames (hwell : ∀ message ∈ messages, message.WellFormed)
    (hpairwise : messages.Pairwise (fun left right => left.arbitrationId < right.arbitrationId))
    {message : NetworkMessage} (hmem : message ∈ messages) :
    (dueFrames previous state messages).filter (·.arbitrationId = message.arbitrationId) =
      if message.IsDue previous state then [message.frame state] else [] := by
  induction messages with
  | nil => exact absurd hmem List.not_mem_nil
  | cons first rest ih =>
    obtain ⟨hfirst, hrest⟩ := List.pairwise_cons.1 hpairwise
    have hwellRest := fun other hother => hwell other (List.mem_cons_of_mem _ hother)
    have hsplit : dueFrames previous state (first :: rest) =
        (if first.IsDue previous state then [first.frame state] else []) ++
          dueFrames previous state rest := List.flatMap_cons
    have hid := (hwell first List.mem_cons_self).arbitrationId state
    rw [hsplit, List.filter_append]
    obtain rfl | hlater := List.mem_cons.1 hmem
    · have hnone : ∀ other ∈ rest, other.arbitrationId ≠ message.arbitrationId :=
        fun other hother heq => UInt16.ne_of_lt (hfirst other hother) heq.symm
      rw [filter_dueFrames_eq_nil hwellRest hnone, List.append_nil, List.filter_eq_self]
      intro frame hframe
      split at hframe
      · rw [List.mem_singleton.1 hframe, hid, decide_eq_true_eq]
      · exact absurd hframe List.not_mem_nil
    · have hne : first.arbitrationId ≠ message.arbitrationId :=
        UInt16.ne_of_lt (hfirst message hlater)
      have hnil : List.filter (fun frame => frame.arbitrationId = message.arbitrationId)
          (if first.IsDue previous state then [first.frame state] else []) = [] := by
        refine List.filter_eq_nil_iff.2 fun frame hframe => ?_
        split at hframe
        · rw [List.mem_singleton.1 hframe, hid, decide_eq_true_eq]
          exact hne
        · exact absurd hframe List.not_mem_nil
      rw [hnil, List.nil_append]
      exact ih hwellRest hrest hlater

end DueFrames

/-! ## The publisher -/

/-- Every due timestamp stands where the last observation left it; the combustion frame has
one only when it is enabled. -/
structure VehicleNetworkPublisher.Scheduled (publisher : VehicleNetworkPublisher)
    (previous : Option UInt64) : Prop where
  fastEngine : StandsAt publisher.dme.nextFastEngineTimestamp
    publisher.dme.schedule.fastEnginePeriodMicroseconds previous
  airLoad : StandsAt publisher.dme.nextAirLoadTimestamp
    publisher.dme.schedule.airLoadPeriodMicroseconds previous
  thermalElectrical : StandsAt publisher.dme.nextThermalElectricalTimestamp
    publisher.dme.schedule.thermalElectricalPeriodMicroseconds previous
  combustionObservation : publisher.dme.schedule.combustionObservationEnabled = true →
    StandsAt publisher.dme.nextCombustionObservationTimestamp
      publisher.dme.schedule.combustionObservationPeriodMicroseconds previous
  vehicleMotion : StandsAt publisher.dsc.nextVehicleMotionTimestamp
    publisher.dsc.schedule.vehicleMotionPeriodMicroseconds previous
  wheelSpeeds : StandsAt publisher.dsc.nextWheelSpeedsTimestamp
    publisher.dsc.schedule.wheelSpeedsPeriodMicroseconds previous

namespace VehicleNetworkPublisher

theorem create_spec {dmeSchedule : DmePublicationSchedule} {dscSchedule : DscPublicationSchedule}
    {faults : List FaultConfiguration}
    (hpositive : ∀ message ∈ networkMessages dmeSchedule dscSchedule faults,
      message.periodMicroseconds ≠ 0)
    (hfaults : AreValidFaults faults) :
    create dmeSchedule dscSchedule faults =
      .ok ⟨{ schedule := dmeSchedule }, { schedule := dscSchedule }, faults⟩ := by
  simp only [networkMessages, List.forall_mem_cons] at hpositive
  obtain ⟨h0, h1, h2, h3, h4, h5, -⟩ := hpositive
  have hdme : SimulatedDme.create dmeSchedule = .ok { schedule := dmeSchedule } := by
    rw [SimulatedDme.create, if_neg (by simp only [h0, h1, h2, h3, or_self, not_false_eq_true])]
  have hdsc : SimulatedDsc.create dscSchedule = .ok { schedule := dscSchedule } := by
    rw [SimulatedDsc.create, if_neg (by simp only [h4, h5, or_self, not_false_eq_true])]
  rw [create, hdme, hdsc]
  change (if AreValidFaults faults then _ else _) = _
  rw [if_pos hfaults]

/-- A publisher as constructed stands before the first observation. -/
theorem scheduled_none {dmeSchedule : DmePublicationSchedule}
    {dscSchedule : DscPublicationSchedule} {faults : List FaultConfiguration} :
    (⟨{ schedule := dmeSchedule }, { schedule := dscSchedule }, faults⟩ :
      VehicleNetworkPublisher).Scheduled none :=
  ⟨rfl, rfl, rfl, fun _ => rfl, rfl, rfl⟩

/-- One observation sends the frames of the messages that are due. -/
theorem observeAndPublish_spec {publisher : VehicleNetworkPublisher} {previous : Option UInt64}
    {state : VehicleState} (h : publisher.Scheduled previous)
    (hpositive : ∀ message ∈ publisher.messages, message.periodMicroseconds ≠ 0)
    (hlater : ∀ earlier ∈ previous, earlier < state.timestamp)
    (hbound : ∀ message ∈ publisher.messages,
      state.timestamp.toNat + message.periodMicroseconds.toNat ≤ maximumUInt64.toNat)
    (transport : InMemoryTransport) :
    ∃ next, publisher.observeAndPublish state transport =
        .ok (next, ⟨transport.frames ++ dueFrames previous state publisher.messages⟩) ∧
      next.Scheduled (some state.timestamp) ∧ next.messages = publisher.messages := by
  have hlaterNat : ∀ earlier ∈ previous, earlier.toNat < state.timestamp.toNat :=
    fun earlier hmem => UInt64.lt_iff_toNat_lt.1 (hlater earlier hmem)
  have hpos : ∀ {period : UInt64}, period ≠ 0 → 0 < period.toNat := fun hne =>
    Nat.pos_of_ne_zero fun hzero => hne (UInt64.toNat_inj.1 hzero)
  simp only [messages, networkMessages, List.forall_mem_cons] at hpositive hbound
  obtain ⟨hp0, hp1, hp2, hp3, hp4, hp5, -⟩ := hpositive
  obtain ⟨hb0, hb1, hb2, hb3, hb4, hb5, -⟩ := hbound
  have hfast := collectIfDue_spec h.fastEngine (hpos hp0) hlaterNat hb0
  have hair := collectIfDue_spec h.airLoad (hpos hp1) hlaterNat hb1
  have hthermal := collectIfDue_spec h.thermalElectrical (hpos hp2) hlaterNat hb2
  have hcombustion := fun henabled =>
    collectIfDue_spec (h.combustionObservation henabled) (hpos hp3) hlaterNat hb3
  have hmotion := collectIfDue_spec h.vehicleMotion (hpos hp4) hlaterNat hb4
  have hwheels := collectIfDue_spec h.wheelSpeeds (hpos hp5) hlaterNat hb5
  have hframes : publisher.collectedFrames state =
      dueFrames previous state publisher.messages := by
    simp only [collectedFrames, SimulatedDme.collectDueFrames, SimulatedDsc.collectDueFrames,
      observeSensors_timestamp, (hfast _).1, (hair _).1, (hthermal _).1, (hmotion _).1,
      (hwheels _).1, dueFrames_cons, dueFrames_nil, messages, networkMessages, List.append_assoc,
      List.append_nil, true_and]
    cases henabled : publisher.dme.schedule.combustionObservationEnabled with
    | false =>
      have hoff : ¬ (false = true ∧ PeriodElapsed
          publisher.dme.schedule.combustionObservationPeriodMicroseconds previous state.timestamp) :=
        fun hdue => Bool.false_ne_true hdue.1
      rw [if_neg Bool.false_ne_true, if_neg hoff]
    | true => simp only [if_true, (hcombustion henabled _).1, true_and]
  refine ⟨publisher.afterObservation state, ?_, ?_, rfl⟩
  · rw [observeAndPublish_eq, hframes]
  · constructor
    · simpa only [afterObservation, SimulatedDme.collectDueFrames, observeSensors_timestamp] using (hfast _).2
    · simpa only [afterObservation, SimulatedDme.collectDueFrames, observeSensors_timestamp] using (hair _).2
    · simpa only [afterObservation, SimulatedDme.collectDueFrames, observeSensors_timestamp] using (hthermal _).2
    · intro henabled
      have hon : publisher.dme.schedule.combustionObservationEnabled = true := henabled
      simpa only [afterObservation, SimulatedDme.collectDueFrames, observeSensors_timestamp, hon,
        if_true] using (hcombustion hon _).2
    · exact (hmotion _).2
    · exact (hwheels _).2

/-! ## A sequence of observations -/

/-- The time of the last of the observed states. -/
def lastTimestamp (previous : Option UInt64) (states : List VehicleState) : Option UInt64 :=
  (states.getLast?.map (·.timestamp)).or previous

theorem lastTimestamp_cons (previous : Option UInt64) (state : VehicleState)
    (rest : List VehicleState) :
    lastTimestamp (some state.timestamp) rest = lastTimestamp previous (state :: rest) := by
  cases rest with
  | nil => rfl
  | cons next later =>
    rw [lastTimestamp, lastTimestamp, List.getLast?_cons_cons]
    cases hlast : (next :: later).getLast? with
    | none => exact absurd (List.getLast?_eq_none_iff.1 hlast) (List.cons_ne_nil _ _)
    | some last => rfl

/-- The frames of a sequence of observations. -/
def sentFrames (messages : List NetworkMessage) : Option UInt64 → List VehicleState → List CanFrame
  | _, [] => []
  | previous, state :: rest =>
    dueFrames previous state messages ++ sentFrames messages (some state.timestamp) rest

/-- The times are in the range that the due timestamps can represent. -/
def InRange (messages : List NetworkMessage) (states : List VehicleState) : Prop :=
  ∀ state ∈ states, ∀ message ∈ messages,
    state.timestamp.toNat + message.periodMicroseconds.toNat ≤ maximumUInt64.toNat

/-- Observing states one after the other, from any point of a run. -/
theorem observeAll_spec {publisher : VehicleNetworkPublisher} {previous : Option UInt64}
    {states : List VehicleState} (h : publisher.Scheduled previous)
    (hpositive : ∀ message ∈ publisher.messages, message.periodMicroseconds ≠ 0)
    (hlater : ∀ earlier ∈ previous, ∀ state ∈ states, earlier < state.timestamp)
    (hincreasing : states.Pairwise (fun left right => left.timestamp < right.timestamp))
    (hrange : InRange publisher.messages states) (transport : InMemoryTransport) :
    ∃ next, publisher.observeAll transport states =
        .ok (next, ⟨transport.frames ++ sentFrames publisher.messages previous states⟩) ∧
      next.Scheduled (lastTimestamp previous states) ∧ next.messages = publisher.messages := by
  induction states generalizing publisher previous transport with
  | nil =>
    refine ⟨publisher, ?_, h, rfl⟩
    rw [sentFrames, List.append_nil, observeAll]
  | cons state rest ih =>
    obtain ⟨hfirst, hrest⟩ := List.pairwise_cons.1 hincreasing
    obtain ⟨next, hstep, hscheduled, hmessages⟩ := observeAndPublish_spec h hpositive
      (fun earlier hmem => hlater earlier hmem state List.mem_cons_self)
      (hrange state List.mem_cons_self) transport
    obtain ⟨final, hrun, hlast, hsame⟩ := ih hscheduled (hmessages ▸ hpositive)
      (fun earlier hmem other hother => (Option.some.inj hmem) ▸ hfirst other hother) hrest
      (hmessages ▸ fun other hother => hrange other (List.mem_cons_of_mem _ hother))
      ⟨transport.frames ++ dueFrames previous state publisher.messages⟩
    refine ⟨final, ?_, lastTimestamp_cons previous state rest ▸ hlast, hsame.trans hmessages⟩
    rw [observeAll, hstep]
    change next.observeAll _ rest = _
    rw [hrun, hmessages, sentFrames, List.append_assoc]

end VehicleNetworkPublisher

/-! ## The order of the stream -/

/-- Earlier in time, or at the same time with a smaller ID. -/
def CanFrame.Precedes (left right : CanFrame) : Prop :=
  left.timestampMicroseconds < right.timestampMicroseconds ∨
    left.timestampMicroseconds = right.timestampMicroseconds ∧
      left.arbitrationId < right.arbitrationId

namespace VehicleNetworkPublisher

section Stream

variable {messages : List NetworkMessage}

theorem timestamp_of_mem_dueFrames (hwell : ∀ message ∈ messages, message.WellFormed)
    {previous : Option UInt64} {state : VehicleState} {frame : CanFrame}
    (h : frame ∈ dueFrames previous state messages) :
    frame.timestampMicroseconds = state.timestamp := by
  obtain ⟨message, hmem, -, rfl⟩ := mem_dueFrames.1 h
  exact (hwell message hmem).timestamp state

theorem exists_timestamp_of_mem_sentFrames (hwell : ∀ message ∈ messages, message.WellFormed)
    {previous : Option UInt64} {states : List VehicleState} {frame : CanFrame}
    (h : frame ∈ sentFrames messages previous states) :
    ∃ state ∈ states, frame.timestampMicroseconds = state.timestamp := by
  induction states generalizing previous with
  | nil => exact absurd h List.not_mem_nil
  | cons state rest ih =>
    obtain hnow | hlater := List.mem_append.1 h
    · exact ⟨state, List.mem_cons_self, timestamp_of_mem_dueFrames hwell hnow⟩
    · obtain ⟨other, hmem, heq⟩ := ih hlater
      exact ⟨other, List.mem_cons_of_mem _ hmem, heq⟩

/-- The frames of one observation are in ID order, and those of later ones have later times. -/
theorem sentFrames_pairwise (hwell : ∀ message ∈ messages, message.WellFormed)
    (hpairwise : messages.Pairwise (fun left right => left.arbitrationId < right.arbitrationId))
    {previous : Option UInt64} {states : List VehicleState}
    (hincreasing : states.Pairwise (fun left right => left.timestamp < right.timestamp)) :
    (sentFrames messages previous states).Pairwise CanFrame.Precedes := by
  induction states generalizing previous with
  | nil => exact List.Pairwise.nil
  | cons state rest ih =>
    obtain ⟨hfirst, hrest⟩ := List.pairwise_cons.1 hincreasing
    refine List.pairwise_append.2 ⟨?_, ih hrest, ?_⟩
    · refine (dueFrames_pairwise hwell hpairwise).imp_of_mem fun hleft hright hlt => ?_
      refine .inr ⟨?_, hlt⟩
      rw [timestamp_of_mem_dueFrames hwell hleft, timestamp_of_mem_dueFrames hwell hright]
    · intro left hleft right hright
      obtain ⟨other, hmem, heq⟩ := exists_timestamp_of_mem_sentFrames hwell hright
      refine .inl ?_
      rw [timestamp_of_mem_dueFrames hwell hleft, heq]
      exact hfirst other hmem

end Stream

end VehicleNetworkPublisher

open VehicleNetworkPublisher in
/-- Whatever the steps between the observed states are, a message is sent for an observation
exactly when it is the first or another multiple of its period has passed since the one before. -/
theorem messages_are_sent_once_per_period (dmeSchedule : DmePublicationSchedule)
    (dscSchedule : DscPublicationSchedule) (faults : List FaultConfiguration)
    (states : List VehicleState)
    (hpositive : ∀ message ∈ networkMessages dmeSchedule dscSchedule faults,
      message.periodMicroseconds ≠ 0)
    (hfaults : AreValidFaults faults)
    (hincreasing : states.Pairwise (fun left right => left.timestamp < right.timestamp))
    (hrange : InRange (networkMessages dmeSchedule dscSchedule faults) states) :
    ∃ publisher, create dmeSchedule dscSchedule faults = .ok publisher ∧
      (∀ earlier state later, states = earlier ++ state :: later →
        ∃ before next transport sent,
          publisher.observeAll {} earlier = .ok (before, transport) ∧
          before.observeAndPublish state transport = .ok (next, ⟨transport.frames ++ sent⟩) ∧
          (∀ message ∈ networkMessages dmeSchedule dscSchedule faults,
            sent.filter (·.arbitrationId = message.arbitrationId) =
              if message.enabled = true ∧ ∀ previous ∈ earlier.getLast?,
                  previous.timestamp.toNat / message.periodMicroseconds.toNat <
                    state.timestamp.toNat / message.periodMicroseconds.toNat
              then [message.frame state] else []) ∧
          ∀ frame ∈ sent, frame.timestampMicroseconds = state.timestamp ∧
            ∃ message ∈ networkMessages dmeSchedule dscSchedule faults,
              frame.arbitrationId = message.arbitrationId) ∧
      ∃ final transport, publisher.observeAll {} states = .ok (final, transport) ∧
        transport.frames.Pairwise CanFrame.Precedes := by
  have hwell := networkMessages_wellFormed dmeSchedule dscSchedule faults
  have hpairwise := networkMessages_pairwise dmeSchedule dscSchedule faults
  refine ⟨_, create_spec hpositive hfaults, ?_, ?_⟩
  · rintro earlier state later rfl
    obtain ⟨hbefore, hafter, hcross⟩ := List.pairwise_append.1 hincreasing
    obtain ⟨before, hrun, hscheduled, hmessages⟩ := observeAll_spec (scheduled_none) hpositive
      nofun hbefore (fun other hmem => hrange other (List.mem_append_left _ hmem)) {}
    have hcurrent : state ∈ earlier ++ state :: later :=
      List.mem_append_right _ List.mem_cons_self
    have hlater : ∀ time ∈ lastTimestamp none earlier, time < state.timestamp := by
      intro time hmem
      rw [lastTimestamp, Option.or_none, Option.mem_map] at hmem
      obtain ⟨other, hother, rfl⟩ := hmem
      exact hcross other (List.mem_of_getLast? hother) state List.mem_cons_self
    obtain ⟨next, hstep, -, -⟩ := observeAndPublish_spec hscheduled (hmessages ▸ hpositive) hlater
      (hmessages ▸ hrange state hcurrent) _
    refine ⟨before, next, _, _, hrun, hstep, fun message hmem => ?_, fun frame hframe => ?_⟩
    · rw [hmessages]
      refine (filter_dueFrames hwell hpairwise hmem).trans (if_congr ?_ rfl rfl)
      refine and_congr_right fun _ => ?_
      rw [PeriodElapsed, lastTimestamp, Option.or_none]
      simp only [Option.mem_map, forall_exists_index, and_imp, forall_apply_eq_imp_iff₂]
    · rw [hmessages] at hframe
      refine ⟨timestamp_of_mem_dueFrames hwell hframe, ?_⟩
      obtain ⟨message, hmem, -, rfl⟩ := mem_dueFrames.1 hframe
      exact ⟨message, hmem, (hwell message hmem).arbitrationId state⟩
  · obtain ⟨final, hrun, -, -⟩ := observeAll_spec (scheduled_none) hpositive nofun hincreasing
      hrange {}
    refine ⟨final, _, hrun, ?_⟩
    rw [List.nil_append]
    exact sentFrames_pairwise hwell hpairwise hincreasing

/-- A stationary vehicle with its engine off, observed at a time. -/
def parkedState (timestamp : UInt64) : VehicleState where
  timestamp
  runState := .running
  acceleratorPedalPosition := 0
  requestedScenarioLoad := 0
  engineRunning := false
  engineSpeedRpm := 0
  engineLoad := 0
  throttlePosition := 0
  vehicleSpeedMetersPerSecond := 0
  currentGear := 0
  ambientPressureKpaAbsolute := 100
  manifoldPressureKpaAbsolute := 100
  requestedBoostKpaGauge := 0
  coolantTemperatureCelsius := 20
  oilTemperatureCelsius := 20
  intakeAirTemperatureCelsius := 20
  lambda := 1
  ignitionAdvanceDegrees := 0
  timingCorrectionDegrees := 0
  batteryVoltageVolts := 12

/-- Steps of fifteen milliseconds, which the default periods do not divide. -/
theorem messages_are_sent_for_uneven_steps :
    ∃ publisher, VehicleNetworkPublisher.create {} {} [] = .ok publisher ∧
      ∃ final transport, publisher.observeAll {}
          [parkedState 0, parkedState 15000, parkedState 30000] = .ok (final, transport) ∧
        transport.frames.Pairwise CanFrame.Precedes := by
  obtain ⟨publisher, hcreate, -, hstream⟩ := messages_are_sent_once_per_period {} {} []
    [parkedState 0, parkedState 15000, parkedState 30000]
    (by simp only [networkMessages, List.forall_mem_cons]; decide) (by decide)
    (by decide)
    (by
      simp only [VehicleNetworkPublisher.InRange, networkMessages, List.forall_mem_cons]
      decide)
  exact ⟨publisher, hcreate, hstream⟩

end TunerOs
