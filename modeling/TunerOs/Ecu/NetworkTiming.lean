-- SUMMARY: While timestamps are in range, each enabled encoder is due at a state exactly when another of its periods has passed.
import TunerOs.Ecu.ObservedFrames
import TunerOs.Ecu.PublicationSchedule
import TunerOs.Lib.Sequences

/-!
# When frames are sent

The due timestamps of a publisher follow the states that it observed. What is due at the
next state is then a matter of periods, and of the encoder being enabled.
-/

namespace TunerOs

open Periodic VehicleNetworkSimulation

/-- The encoder's message is sent at all: the combustion observation is one of a pull only. -/
def FrameEncoder.Enabled (encoder : FrameEncoder) (scenario : ScenarioId) : Prop :=
  encoder.message = dmeCombustionObservation → scenario = .wideOpenThrottlePull

/-- The periods of the network's messages, in microseconds. -/
theorem period_of_network {encoder : FrameEncoder} (h : encoder ∈ networkEncoders) :
    10000 ≤ encoder.period ∧ encoder.period ≤ 100000 := by
  have hall : ∀ message ∈ packagedMessages, 10000 ≤ message.cycleTimeMilliseconds * 1000 ∧
      message.cycleTimeMilliseconds * 1000 ≤ 100000 := by decide
  exact hall _ (message_mem_of_network h)

namespace VehicleNetworkPublisher

/-! ## Due timestamps after observations -/

section Scheduled

variable {publisher : VehicleNetworkPublisher} {previous : Option UInt64} {state : VehicleState}

/-- An observation collects what is due and moves the due timestamps past the state. -/
theorem Scheduled.afterObservation (h : publisher.Scheduled previous)
    (hpositive : ∀ message ∈ publisher.messages, message.periodMicroseconds ≠ 0)
    (hlater : ∀ earlier ∈ previous, earlier < state.timestamp)
    (hbound : ∀ message ∈ publisher.messages,
      state.timestamp.toNat + message.periodMicroseconds.toNat ≤ maximumUInt64.toNat) :
    (publisher.afterObservation state).Scheduled (some state.timestamp) ∧
      publisher.collectedFrames state = dueFrames previous state publisher.messages := by
  obtain ⟨next, hpublish, hscheduled, -⟩ := observeAndPublish_spec h hpositive hlater hbound {}
  rw [observeAndPublish_eq] at hpublish
  obtain ⟨rfl, hframes⟩ := Prod.mk.inj (Except.ok.inj hpublish)
  exact ⟨hscheduled, InMemoryTransport.mk.inj hframes⟩

theorem Scheduled.afterObservations {states : List VehicleState}
    (h : publisher.Scheduled previous)
    (hpositive : ∀ message ∈ publisher.messages, message.periodMicroseconds ≠ 0)
    (hlater : ∀ earlier ∈ previous, ∀ state ∈ states, earlier < state.timestamp)
    (hincreasing : states.Pairwise (fun left right => left.timestamp < right.timestamp))
    (hrange : InRange publisher.messages states) :
    (publisher.afterObservations states).Scheduled (lastTimestamp previous states) := by
  induction states generalizing publisher previous with
  | nil => exact h
  | cons state rest ih =>
    obtain ⟨hfirst, hrest⟩ := List.pairwise_cons.1 hincreasing
    have hnext := (h.afterObservation hpositive
      (fun earlier hmem => hlater earlier hmem state List.mem_cons_self)
      (hrange state List.mem_cons_self)).1
    rw [← lastTimestamp_cons]
    exact ih hnext hpositive
      (fun earlier hmem other hother => (Option.some.inj hmem) ▸ hfirst other hother) hrest
      (fun other hother => hrange other (List.mem_cons_of_mem _ hother))

end Scheduled

/-! ## Due encoders -/

/-- The messages with default schedules are enabled as the encoders are. -/
theorem enabled_default (configuration : SimulationRunConfiguration) :
    List.Forall₂ (fun encoder message => encoder.Writes configuration.faults message ∧
        (message.enabled = true ↔ encoder.Enabled configuration.scenario))
      networkEncoders (defaultPublisher configuration).messages := by
  have halways : ∀ encoder : FrameEncoder, encoder.message ≠ dmeCombustionObservation →
      (True ↔ encoder.Enabled configuration.scenario) :=
    fun encoder hne => ⟨fun _ heq => absurd heq hne, fun _ => trivial⟩
  have hwrites := hasEncoders_default configuration
  unfold HasEncoders at hwrites
  unfold messages defaultPublisher networkMessages networkEncoders at hwrites ⊢
  rw [scheduleFor_default] at hwrites ⊢
  simp only [List.forall₂_cons, List.forall₂_nil_right_iff, and_true] at hwrites ⊢
  obtain ⟨h0, h1, h2, h3, h4, h5⟩ := hwrites
  refine ⟨⟨h0, halways dmeFastEngineEncoder (by decide)⟩,
    ⟨h1, halways dmeAirLoadEncoder (by decide)⟩,
    ⟨h2, halways dmeThermalElectricalEncoder (by decide)⟩, ⟨h3, ?_⟩,
    ⟨h4, halways dscVehicleMotionEncoder (by decide)⟩,
    ⟨h5, halways dscWheelSpeedsEncoderFrom (by decide)⟩⟩
  rw [decide_eq_true_eq]
  exact ⟨fun hpull _ => hpull, fun henabled => henabled rfl⟩

/-- The encoders that are due at a state which follows these in a run. -/
abbrev dueAfter (configuration : SimulationRunConfiguration) (states : List VehicleState)
    (state : VehicleState) : List FrameEncoder :=
  ((defaultPublisher configuration).afterObservations states).dueEncoders state

section Due

variable {configuration : SimulationRunConfiguration} {states : List VehicleState}
  {state : VehicleState} {encoder : FrameEncoder}

theorem positive_default (configuration : SimulationRunConfiguration) :
    ∀ message ∈ (defaultPublisher configuration).messages, message.periodMicroseconds ≠ 0 := by
  intro message hmessage hzero
  obtain ⟨encoder, hencoder, hwrites⟩ :=
    (hasEncoders_default configuration).exists_left hmessage
  have hperiod := (period_of_network hencoder).1
  rw [← hwrites.period, hzero] at hperiod
  exact absurd hperiod (by decide)

/-- Timestamps up to here can be advanced by every period. -/
theorem inRange_default (hrange : ∀ state ∈ states,
      state.timestamp.toNat + 100000 ≤ maximumUInt64.toNat) :
    InRange (defaultPublisher configuration).messages states := by
  intro state hstate message hmessage
  have hall := hasEncoders_default configuration
  obtain ⟨encoder, hencoder, hwrites⟩ := hall.exists_left hmessage
  have hperiod := (period_of_network hencoder).2
  have hstamp := hrange state hstate
  rw [hwrites.period]
  omega

/-- Where the publisher of a run stands after the states that it observed. -/
theorem scheduled_default
    (hincreasing : states.Pairwise (fun left right => left.timestamp < right.timestamp))
    (hrange : ∀ state ∈ states, state.timestamp.toNat + 100000 ≤ maximumUInt64.toNat) :
    ((defaultPublisher configuration).afterObservations states).Scheduled
      (lastTimestamp none states) :=
  scheduled_none.afterObservations (positive_default configuration) nofun hincreasing
    (inRange_default hrange)

/-- An enabled encoder is due at the next state when another of its periods has passed. -/
theorem mem_dueAfter_iff (configuration : SimulationRunConfiguration)
    (hencoder : encoder ∈ networkEncoders)
    (hincreasing : (states ++ [state]).Pairwise
      (fun left right => left.timestamp < right.timestamp))
    (hrange : ∀ other ∈ states ++ [state], other.timestamp.toNat + 100000 ≤ maximumUInt64.toNat) :
    encoder ∈ dueAfter configuration states state ↔
      encoder.Enabled configuration.scenario ∧ ∀ last ∈ states.getLast?,
        last.timestamp.toNat / encoder.period < state.timestamp.toNat / encoder.period := by
  obtain ⟨hbefore, -, hcross⟩ := List.pairwise_append.1 hincreasing
  have hscheduled : ((defaultPublisher configuration).afterObservations states).Scheduled _ :=
    scheduled_default hbefore fun other hmem => hrange other (List.mem_append_left _ hmem)
  have hmessages : ((defaultPublisher configuration).afterObservations states).messages =
      (defaultPublisher configuration).messages := afterObservations_messages _ states
  have hlater : ∀ time ∈ lastTimestamp none states, time < state.timestamp := by
    intro time hmem
    rw [lastTimestamp, Option.or_none, Option.mem_map] at hmem
    obtain ⟨other, hother, rfl⟩ := hmem
    exact hcross other (List.mem_of_getLast? hother) state List.mem_cons_self
  have hframes := (hscheduled.afterObservation
    (hmessages ▸ positive_default configuration) hlater
    (hmessages ▸ inRange_default hrange state (List.mem_append_right _ List.mem_cons_self))).2
  have helapsed : ∀ period : UInt64, PeriodElapsed period (lastTimestamp none states)
      state.timestamp ↔ ∀ last ∈ states.getLast?,
        last.timestamp.toNat / period.toNat < state.timestamp.toNat / period.toNat := by
    intro period
    rw [PeriodElapsed, lastTimestamp, Option.or_none]
    simp only [Option.mem_map, forall_exists_index, and_imp, forall_apply_eq_imp_iff₂]
  rw [dueAfter, dueEncoders, List.mem_filter, decide_eq_true_eq, hframes, hmessages, mem_dueFrames,
    afterObservations_faults]
  constructor
  · rintro ⟨-, message, hmessage, ⟨henabled, hdue⟩, heq⟩
    obtain ⟨other, hother, hwrites, hiff⟩ :=
      (enabled_default configuration).exists_left hmessage
    rw [hwrites.frame] at heq
    cases observed_inj hencoder hother heq
    exact ⟨hiff.1 henabled, hwrites.period ▸ (helapsed _).1 hdue⟩
  · rintro ⟨henabled, hdue⟩
    obtain ⟨message, hmessage, hwrites, hiff⟩ :=
      (enabled_default configuration).exists_right hencoder
    exact ⟨hencoder, message, hmessage, ⟨hiff.2 henabled, (helapsed _).2 (hwrites.period ▸ hdue)⟩,
      (hwrites.frame state).symm⟩

end Due

end VehicleNetworkPublisher

end TunerOs
