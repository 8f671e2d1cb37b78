-- SUMMARY: A browser client that follows the raw CAN stream: which of its per-ID entries are the explorer's current ones.
import TunerOs.Frontend.CanState
import TunerOs.Lib.Fallible
import TunerOs.Lib.Sequences
import TunerOs.Telemetry.ExplorerStream

/-!
# Following the raw CAN stream

An event carries the statistics of the arriving frame's ID only, and the provider
drops the oldest events of a burst that overflows its queue. A client's entry for
an ID is therefore the explorer's as of the last event of the ID that the client
applied, and it is current if nothing has changed the ID's counters since.
-/

namespace TunerOs

open Containers

theorem toString_nat_injective : Function.Injective (toString : ℕ → String) := by
  intro m n h
  have hdigits := congrArg String.toList h
  simp only [Nat.toString_eq_repr, Nat.repr, String.toList_ofList] at hdigits
  rw [← Nat.ofDigitChars_ten_toDigits (n := m), hdigits, Nat.ofDigitChars_ten_toDigits]

/-! ## Events -/

/-- The event is of one ingest: its statistics were taken right after its frame, and of its ID. -/
structure CanFrameEvent.Coherent (event : CanFrameEvent) : Prop where
  last : event.statistics.lastSequence = some event.frame.sequence
  entry : event.messageStatistics.arbitrationId = event.frame.arbitrationId

/-- The events are numbered upwards from after `lastSequence`. -/
structure Ahead (lastSequence : Option ℕ) (events : List CanFrameEvent) : Prop where
  later : ∀ event ∈ events, sequenceOrBefore lastSequence < event.frame.sequence
  increasing : events.Pairwise (fun event next => event.frame.sequence < next.frame.sequence)

theorem Ahead.append_left {lastSequence : Option ℕ} {events rest : List CanFrameEvent}
    (h : Ahead lastSequence (events ++ rest)) : Ahead lastSequence events :=
  ⟨fun event hmem => h.later event (List.mem_append_left _ hmem),
    (List.pairwise_append.1 h.increasing).1⟩

/-- The entry an event writes. -/
def writeMessage (entries : Dict String CanMessageStatisticsResponse) (event : CanFrameEvent) :
    Dict String CanMessageStatisticsResponse :=
  entries.set (toString event.messageStatistics.arbitrationId) event.messageStatistics

/-- The statistics after the events: those of the newest. -/
def statisticsAfter (statistics : CanExplorerStatisticsResponse) (events : List CanFrameEvent) :
    CanExplorerStatisticsResponse :=
  (events.getLast?.map (·.statistics)).getD statistics

theorem statisticsAfter_cons (statistics : CanExplorerStatisticsResponse) (event : CanFrameEvent)
    (events : List CanFrameEvent) :
    statisticsAfter statistics (event :: events) = statisticsAfter event.statistics events := by
  unfold statisticsAfter
  cases events with
  | nil => rfl
  | cons next rest =>
    rw [List.getLast?_cons_cons, List.getLast?_eq_some_getLast (List.cons_ne_nil next rest)]
    rfl

theorem statisticsAfter_append (statistics : CanExplorerStatisticsResponse)
    (events later : List CanFrameEvent) :
    statisticsAfter statistics (events ++ later) =
      statisticsAfter (statisticsAfter statistics events) later := by
  induction events generalizing statistics with
  | nil => rfl
  | cons event rest ih => rw [List.cons_append, statisticsAfter_cons, ih, statisticsAfter_cons]

/-- The client as far as the entries and the global statistics go. -/
structure HasApplied (state state' : CanExplorerClientState) (events : List CanFrameEvent) :
    Prop where
  messages : state'.messages = events.foldl writeMessage state.messages
  statistics : state'.statistics = statisticsAfter state.statistics events

theorem HasApplied.nil (state : CanExplorerClientState) : HasApplied state state [] := ⟨rfl, rfl⟩

theorem HasApplied.trans {state middle last : CanExplorerClientState}
    {events later : List CanFrameEvent} (h : HasApplied state middle events)
    (hlater : HasApplied middle last later) : HasApplied state last (events ++ later) where
  messages := by rw [List.foldl_append, ← h.messages, hlater.messages]
  statistics := by rw [statisticsAfter_append, ← h.statistics, hlater.statistics]

/-- An event from after the last sequence is not ignored. -/
theorem hasApplied_applyFrame {state : CanExplorerClientState} {event : CanFrameEvent}
    (h : sequenceOrBefore state.statistics.lastSequence < event.frame.sequence) :
    HasApplied state (applyFrame state event) [event] := by
  unfold applyFrame
  split
  · exact ⟨rfl, rfl⟩
  · rename_i latest hlatest
    rw [hlatest] at h
    simp only [sequenceOrBefore, Nat.cast_lt] at h
    rw [if_neg (Nat.not_le.2 h)]
    exact ⟨rfl, rfl⟩

theorem hasApplied_foldl {state : CanExplorerClientState} {events : List CanFrameEvent}
    (hcoherent : ∀ event ∈ events, event.Coherent)
    (hahead : Ahead state.statistics.lastSequence events) :
    HasApplied state (events.foldl applyFrame state) events := by
  induction events generalizing state with
  | nil => exact .nil state
  | cons event rest ih =>
    have hfirst := hasApplied_applyFrame (hahead.later event List.mem_cons_self)
    have hincreasing := List.pairwise_cons.1 hahead.increasing
    refine hfirst.trans (ih (fun later hmem => hcoherent later (List.mem_cons_of_mem _ hmem)) ?_)
    refine ⟨fun later hmem => ?_, hincreasing.2⟩
    rw [hfirst.statistics]
    change sequenceOrBefore event.statistics.lastSequence < _
    rw [(hcoherent event List.mem_cons_self).last]
    exact Nat.cast_lt.2 (hincreasing.1 later hmem)

/-! ## The provider -/

/-- The frame events among what happens, in order. -/
def receivedFrames (happenings : List CanProviderEvent) : List CanFrameEvent :=
  happenings.filterMap (fun happening =>
    match happening with
    | .canFrame event => some event
    | _ => none)

def CanProviderEvent.isSnapshot : CanProviderEvent → Bool
  | .initialSnapshot _ => true
  | _ => false

namespace CanExplorerProvider

/-- The frame events that are dispatched when this happens. -/
def dispatched (provider : CanExplorerProvider) : CanProviderEvent → List CanFrameEvent
  | .sourceState _ _ _ => provider.pending
  | .closed => provider.pending
  | .animationFrame => if provider.animationFrame then provider.pending else []
  | _ => []

/-- The frame events the client applies, in order. -/
def applied (provider : CanExplorerProvider) : List CanProviderEvent → List CanFrameEvent
  | [] => []
  | happening :: rest => provider.dispatched happening ++ (provider.step happening).applied rest

section Step

variable {provider : CanExplorerProvider} {happening : CanProviderEvent}

theorem hasApplied_flush (hcoherent : ∀ event ∈ provider.pending, event.Coherent)
    (hahead : Ahead provider.state.statistics.lastSequence provider.pending) :
    HasApplied provider.state provider.flush.state provider.pending ∧
      provider.flush.pending = [] := by
  unfold flush
  split
  · rename_i hempty
    rw [hempty]
    exact ⟨.nil _, rfl⟩
  · exact ⟨hasApplied_foldl hcoherent hahead, rfl⟩

/-- What happens applies the dispatched events; the queue keeps the newest of the others. -/
theorem step_applies (hcoherent : ∀ event ∈ provider.pending, event.Coherent)
    (hahead : Ahead provider.state.statistics.lastSequence provider.pending)
    (hsnapshot : happening.isSnapshot = false) :
    HasApplied provider.state (provider.step happening).state (provider.dispatched happening) ∧
    List.Sublist (provider.dispatched happening ++ (provider.step happening).pending)
      (provider.pending ++ receivedFrames [happening]) ∧
    (provider.dispatched happening ++ (provider.step happening).pending).getLast? =
      (provider.pending ++ receivedFrames [happening]).getLast? := by
  obtain ⟨hflush, hflushed⟩ := hasApplied_flush hcoherent hahead
  cases happening with
  | initialSnapshot event => cases hsnapshot
  -- A frame is only queued: of the frames that do not fit, the queue keeps the latest.
  | canFrame event =>
    have hpositive : 0 < canClientBufferCapacity := by
      unfold canClientBufferCapacity
      omega
    have hstate : (provider.step (.canFrame event)).state = provider.state := by
      simp only [step, queue]
    have hqueued : (provider.step (.canFrame event)).pending =
        (provider.pending ++ [event]).rtake canClientBufferCapacity := by
      simp only [step, queue]
    have hdispatched : provider.dispatched (.canFrame event) = [] := rfl
    have hreceived : receivedFrames [.canFrame event] = [event] := rfl
    rw [hstate, hqueued, hdispatched, hreceived, List.nil_append]
    exact ⟨.nil _, rtake_sublist _ _, getLast?_rtake hpositive _⟩
  -- The source state and the end of the connection flush the queue before their own update.
  | sourceState state source error =>
    have hpending : (provider.step (.sourceState state source error)).pending = [] := hflushed
    rw [hpending]
    exact ⟨⟨hflush.messages, hflush.statistics⟩, .refl _, rfl⟩
  | closed =>
    have hpending : (provider.step .closed).pending = [] := hflushed
    rw [hpending]
    exact ⟨⟨hflush.messages, hflush.statistics⟩, .refl _, rfl⟩
  | animationFrame =>
    have hreceived : receivedFrames [.animationFrame] = [] := rfl
    -- An animation frame that was cancelled by a flush finds nothing to dispatch.
    by_cases hrequested : provider.animationFrame = true
    · have hdispatched : provider.dispatched .animationFrame = provider.pending :=
        if_pos hrequested
      have hstep : provider.step .animationFrame =
          dispatch { provider with pending := [], animationFrame := false }
            (.frames provider.pending) := if_pos hrequested
      rw [hreceived, hdispatched, hstep]
      exact ⟨hasApplied_foldl hcoherent hahead, .refl _, rfl⟩
    · have hdispatched : provider.dispatched .animationFrame = [] := if_neg hrequested
      have hstep : provider.step .animationFrame = provider := if_neg hrequested
      rw [hreceived, hdispatched, hstep, List.append_nil]
      exact ⟨.nil _, .refl _, rfl⟩
  | toggleFreeze =>
    have hkept : (provider.step .toggleFreeze).pending = provider.pending := rfl
    have hreceived : receivedFrames [.toggleFreeze] = [] := rfl
    rw [hkept, hreceived, List.append_nil]
    refine ⟨?_, .refl _, rfl⟩
    unfold step dispatch canExplorerReducer
    simp only
    split <;> exact ⟨rfl, rfl⟩
  | opened | malformed _ | socketError =>
    refine ⟨⟨rfl, rfl⟩, ?_, ?_⟩
    · exact (List.append_nil provider.pending).symm ▸ .refl _
    · exact (List.append_nil provider.pending).symm ▸ rfl

end Step

/-- Numbered upwards from after the newest statistics, the events that are not applied stay so. -/
theorem ahead_after {state state' : CanExplorerClientState} {events later : List CanFrameEvent}
    (h : HasApplied state state' events) (hcoherent : ∀ event ∈ events, event.Coherent)
    (hahead : Ahead state.statistics.lastSequence (events ++ later)) :
    Ahead state'.statistics.lastSequence later := by
  obtain ⟨-, hlater, hbetween⟩ := List.pairwise_append.1 hahead.increasing
  refine ⟨?_, hlater⟩
  intro event hmem
  rw [h.statistics, statisticsAfter]
  cases hnewest : events.getLast? with
  | none => exact hahead.later event (List.mem_append_right _ hmem)
  | some newest =>
    have happlied := List.mem_of_getLast? hnewest
    simp only [Option.map_some, Option.getD_some, (hcoherent newest happlied).last]
    exact Nat.cast_lt.2 (hbetween newest happlied event hmem)

theorem Ahead.sublist {lastSequence : Option ℕ} {events others : List CanFrameEvent}
    (h : Ahead lastSequence events) (hsub : List.Sublist others events) :
    Ahead lastSequence others :=
  ⟨fun event hmem => h.later event (hsub.subset hmem), h.increasing.sublist hsub⟩

/-- Whatever happens, the client has applied a part of the received events that includes the
newest once the queue is empty, and nothing else. -/
theorem steps_apply {provider : CanExplorerProvider} {happenings : List CanProviderEvent}
    (hsnapshot : ∀ happening ∈ happenings, happening.isSnapshot = false)
    (hcoherent : ∀ event ∈ provider.pending ++ receivedFrames happenings, event.Coherent)
    (hahead : Ahead provider.state.statistics.lastSequence
      (provider.pending ++ receivedFrames happenings)) :
    HasApplied provider.state (provider.steps happenings).state (provider.applied happenings) ∧
    List.Sublist (provider.applied happenings ++ (provider.steps happenings).pending)
      (provider.pending ++ receivedFrames happenings) ∧
    (provider.applied happenings ++ (provider.steps happenings).pending).getLast? =
      (provider.pending ++ receivedFrames happenings).getLast? := by
  -- Induction on the happenings; the pending frames are part of what is still to be applied.
  induction happenings generalizing provider with
  | nil =>
    refine ⟨.nil _, ?_, ?_⟩
    · exact (List.append_nil provider.pending).symm ▸ .refl _
    · exact (List.append_nil provider.pending).symm ▸ rfl
  | cons happening rest ih =>
    have hreceived : receivedFrames (happening :: rest) =
        receivedFrames [happening] ++ receivedFrames rest := by
      rw [← List.singleton_append, receivedFrames, List.filterMap_append]
      rfl
    rw [hreceived, ← List.append_assoc] at hcoherent hahead ⊢
    obtain ⟨hstep, hsub, hnewest⟩ := step_applies
      (fun event hmem => hcoherent event (List.mem_append_left _ (List.mem_append_left _ hmem)))
      hahead.append_left.append_left (hsnapshot happening List.mem_cons_self)
    -- What the first step leaves pending, with the frames to come, is a sublist of what there was.
    have hsub' := hsub.append_right (receivedFrames rest)
    rw [List.append_assoc] at hsub'
    have hcoherent' : ∀ event ∈ provider.dispatched happening ++
        ((provider.step happening).pending ++ receivedFrames rest), event.Coherent :=
      fun event hmem => hcoherent event (hsub'.subset hmem)
    obtain ⟨hrest, hrestSub, hrestNewest⟩ := ih
      (fun later hmem => hsnapshot later (List.mem_cons_of_mem _ hmem))
      (fun event hmem => hcoherent' event (List.mem_append_right _ hmem))
      (ahead_after hstep (fun event hmem => hcoherent' event (List.mem_append_left _ hmem))
        (Ahead.sublist hahead hsub'))
    refine ⟨hstep.trans hrest, ?_, ?_⟩
    · have happend := (hrestSub.append_left (provider.dispatched happening)).trans hsub'
      rwa [← List.append_assoc] at happend
    · change (provider.dispatched happening ++ (provider.step happening).applied rest ++
        ((provider.step happening).steps rest).pending).getLast? = _
      rw [List.append_assoc, List.getLast?_append, hrestNewest, ← List.getLast?_append,
        ← List.append_assoc, List.getLast?_append, hnewest, ← List.getLast?_append]

end CanExplorerProvider

/-! ## Entries -/

section Entries

variable {state state' : CanExplorerClientState} {events : List CanFrameEvent} {arbitrationId : ℕ}

/-- An ID of which no event is applied keeps its entry. -/
theorem HasApplied.entry_of_absent (h : HasApplied state state' events)
    (hcoherent : ∀ event ∈ events, event.Coherent)
    (habsent : ∀ event ∈ events, event.frame.arbitrationId ≠ arbitrationId) :
    state'.messages.get? (toString arbitrationId) = state.messages.get? (toString arbitrationId) := by
  rw [h.messages]
  refine Dict.get?_foldl_set_of_ne ?_
  intro event hmem hid
  refine habsent event hmem ?_
  rw [← (hcoherent event hmem).entry]
  exact toString_nat_injective hid

/-- An ID has the entry of the last of its events. -/
theorem HasApplied.entry_of_last {before after : List CanFrameEvent} {event : CanFrameEvent}
    (h : HasApplied state state' (before ++ event :: after))
    (hcoherent : ∀ other ∈ before ++ event :: after, other.Coherent)
    (hid : event.frame.arbitrationId = arbitrationId)
    (hlast : ∀ other ∈ after, other.frame.arbitrationId ≠ arbitrationId) :
    state'.messages.get? (toString arbitrationId) = some event.messageStatistics := by
  have hentry := (hcoherent event (List.mem_append_right _ List.mem_cons_self)).entry
  rw [h.messages, List.foldl_append, List.foldl_cons]
  have hkept : (after.foldl writeMessage
      (writeMessage (before.foldl writeMessage state.messages) event)).get?
        (toString arbitrationId) =
      (writeMessage (before.foldl writeMessage state.messages) event).get?
        (toString arbitrationId) := by
    refine Dict.get?_foldl_set_of_ne ?_
    intro other hmem hother
    refine hlast other hmem ?_
    rw [← (hcoherent other (List.mem_append_right _ (List.mem_cons_of_mem _ hmem))).entry]
    exact toString_nat_injective hother
  rw [hkept, writeMessage, hentry, hid, Dict.get?_set_self]

end Entries

/-- Every ingest that changed the ID's counters was followed by an event of the ID, if not published
as one, that the client has applied. -/
def Settled (capacity : ℕ) (run : List CanExplorerFrame) (updates : List CanExplorerUpdate)
    (applied : List CanFrameEvent) (arbitrationId : ℕ) : Prop :=
  ∀ update ∈ updates, update.Touches capacity run arbitrationId →
    ∃ event ∈ applied, event.frame.arbitrationId = arbitrationId ∧
      update.frame.sequence ≤ event.frame.sequence

/-- The entry that shows an explorer's statistic of an ID. -/
def currentEntry (explorer : CanExplorer) (arbitrationId : ℕ) :
    Option CanMessageStatisticsResponse :=
  (explorer.messageStatistic arbitrationId).toOption.map serializeCanMessageStatistics

theorem currentEntry_eq (explorer : CanExplorer) (arbitrationId : ℕ) :
    currentEntry explorer arbitrationId =
      (explorer.messages.get? arbitrationId).map
        (fun counters => serializeCanMessageStatistics counters.freeze) := by
  unfold currentEntry CanExplorer.messageStatistic
  cases explorer.messages.get? arbitrationId <;> rfl

/-- The events are those of the updates, in order, each with the source read when it was sent. -/
def Deliveries (updates : List CanExplorerUpdate) (events : List CanFrameEvent) : Prop :=
  List.Forall₂ (fun update event => ∃ source, event = serializeCanUpdate update source) updates
    events

theorem Deliveries.exists_update {updates : List CanExplorerUpdate} {events : List CanFrameEvent}
    (h : Deliveries updates events) {event : CanFrameEvent} (hmem : event ∈ events) :
    ∃ update ∈ updates, ∃ source, event = serializeCanUpdate update source := by
  unfold Deliveries at h
  induction h with
  | nil => cases hmem
  | cons hfirst _ ih =>
    rcases List.mem_cons.1 hmem with rfl | htail
    · exact ⟨_, List.mem_cons_self, hfirst⟩
    · obtain ⟨update, hupdate, hsource⟩ := ih htail
      exact ⟨update, List.mem_cons_of_mem _ hupdate, hsource⟩

theorem Deliveries.newest {updates : List CanExplorerUpdate} {events : List CanFrameEvent}
    (h : Deliveries updates events) {event : CanFrameEvent} (hnewest : events.getLast? = some event) :
    ∃ update, updates.getLast? = some update ∧ ∃ source, event = serializeCanUpdate update source := by
  unfold Deliveries at h
  induction h with
  | nil => cases hnewest
  | cons hfirst hrest ih =>
    cases hrest with
    | nil =>
      cases hnewest
      exact ⟨_, rfl, hfirst⟩
    | cons _ _ => exact ih hnewest

/-- A settled ID has its current entry. -/
theorem HasApplied.entry_current {ingested : List CanExplorerFrame} {start last : CanExplorer}
    {updates : List CanExplorerUpdate} (hexplored : CanExplorer.ExploredAll ingested start updates last)
    {received applied : List CanFrameEvent} (hdelivered : Deliveries updates received)
    (happlied : List.Sublist applied received) {state state' : CanExplorerClientState}
    (h : HasApplied state state' applied) (hcoherent : ∀ event ∈ applied, event.Coherent)
    (hincreasing : applied.Pairwise (fun event next => event.frame.sequence < next.frame.sequence))
    {arbitrationId : ℕ}
    (hstart : state.messages.get? (toString arbitrationId) = currentEntry start arbitrationId)
    (hsettled : Settled start.capacity (ingested ++ updates.map (·.frame)) updates applied
      arbitrationId) :
    state'.messages.get? (toString arbitrationId) = currentEntry last arbitrationId := by
  -- The entry is the one of the last applied event of the ID, or the snapshot's if there is none.
  by_cases hany : ∃ event ∈ applied, event.frame.arbitrationId = arbitrationId
  · obtain ⟨before, event, after, rfl, hid, hlast⟩ := List.exists_last_of_mem hany
    rw [h.entry_of_last hcoherent hid hlast]
    obtain ⟨update, hupdate, source, rfl⟩ := hdelivered.exists_update
      (happlied.subset (List.mem_append_right _ List.mem_cons_self))
    obtain ⟨earlier, later, rfl⟩ := List.append_of_mem hupdate
    have hnumbers := List.pairwise_map.1 (hexplored.sequences ▸ List.pairwise_lt_range')
    obtain ⟨middle, hcapacity, hstatistic, hrest⟩ := hexplored.split
    -- No later frame touches the ID: each is settled by an applied event, which would be later.
    have hquiet : last.messages.get? arbitrationId = middle.messages.get? arbitrationId := by
      have hrun : ingested ++ earlier.map (·.frame) ++ [update.frame] ++ later.map (·.frame) ⊆
          ingested ++ (earlier ++ update :: later).map (·.frame) := by
        simp [List.append_assoc]
      refine hrest.untouched hrun ?_
      intro touched hmem htouches
      rw [hcapacity] at htouches
      obtain ⟨seen, hseen, hseenId, hle⟩ := hsettled touched
        (List.mem_append_right _ (List.mem_cons_of_mem _ hmem)) htouches
      -- Events are applied in order, so none of the ID is later than the last one.
      have hupto : seen.frame.sequence ≤ update.frame.sequence := by
        rcases List.mem_append.1 hseen with hbefore | htail
        · exact ((List.pairwise_append.1 hincreasing).2.2 seen hbefore _ List.mem_cons_self).le
        · rcases List.mem_cons.1 htail with rfl | hafter
          · exact le_rfl
          · exact absurd hseenId (hlast seen hafter)
      have hafter := (List.pairwise_cons.1 (List.pairwise_append.1 hnumbers).2.1).1 touched hmem
      omega
    have hmiddle : currentEntry middle arbitrationId =
        some (serializeCanMessageStatistics update.messageStatistics) := by
      change update.frame.arbitrationId = arbitrationId at hid
      rw [currentEntry, ← hid, hstatistic]
      rfl
    rw [currentEntry_eq, hquiet, ← currentEntry_eq, hmiddle]
    rfl
  · rw [h.entry_of_absent hcoherent (fun event hmem hid => hany ⟨event, hmem, hid⟩), hstart,
      currentEntry_eq, currentEntry_eq, hexplored.untouched (List.Subset.refl _)]
    -- A frame that touches the ID would be settled by an applied event.
    intro update hmem htouches
    obtain ⟨event, hevent, hid, -⟩ := hsettled update hmem htouches
    exact hany ⟨event, hevent, hid⟩

/-- The entries of a snapshot are current. -/
theorem messagesFromSnapshot_current {explorer : CanExplorer} {ingested : List CanExplorerFrame}
    (h : explorer.Represents ingested) (arbitrationId : ℕ) :
    (messagesFromSnapshot (explorer.messageStatistics.map serializeCanMessageStatistics)).get?
      (toString arbitrationId) = currentEntry explorer arbitrationId := by
  have hperm := List.perm_insertionSort (fun a b : ℕ × MessageCounters => a.1 ≤ b.1)
    explorer.messages.entries
  -- The snapshot lists the statistics of exactly the IDs that have counters.
  have hmem : ∀ message, message ∈ explorer.messageStatistics.map serializeCanMessageStatistics ↔
      ∃ counters, explorer.messages.get? counters.arbitrationId = some counters ∧
        message = serializeCanMessageStatistics counters.freeze := by
    intro message
    unfold CanExplorer.messageStatistics
    rw [List.map_map, List.mem_map]
    constructor
    · rintro ⟨⟨key, counters⟩, hentry, rfl⟩
      have hget := Dict.mem_entries_iff.1 (hperm.mem_iff.1 hentry)
      obtain ⟨rfl, -⟩ := h.messages.counted key counters hget
      exact ⟨counters, hget, rfl⟩
    · rintro ⟨counters, hget, rfl⟩
      exact ⟨_, hperm.mem_iff.2 (Dict.mem_entries_iff.2 hget), rfl⟩
  rw [currentEntry_eq]
  cases hget : explorer.messages.get? arbitrationId with
  | none =>
    refine Dict.get?_foldl_set_of_ne ?_
    intro message hmessage hid
    obtain ⟨counters, hcounters, rfl⟩ := (hmem message).1 hmessage
    rw [show counters.arbitrationId = arbitrationId from toString_nat_injective hid, hget]
      at hcounters
    cases hcounters
  | some counters =>
    obtain ⟨rfl, -⟩ := h.messages.counted arbitrationId counters hget
    have hsome : ((messagesFromSnapshot (explorer.messageStatistics.map
        serializeCanMessageStatistics)).get? (toString counters.arbitrationId)).isSome :=
      Dict.isSome_foldl_set (Or.inl ⟨_, (hmem _).2 ⟨counters, hget, rfl⟩, rfl⟩)
    obtain ⟨message, hmessage⟩ := Option.isSome_iff_exists.1 hsome
    rw [hmessage]
    -- Decimal IDs are different texts, so only the statistics of the ID itself are written under it.
    rcases Dict.get?_foldl_set_cases hmessage with ⟨written, hwritten, hid, rfl⟩ | ⟨-, hempty⟩
    · obtain ⟨other, hother, rfl⟩ := (hmem written).1 hwritten
      rw [show other.arbitrationId = counters.arbitrationId from toString_nat_injective hid, hget]
        at hother
      cases hother
      rfl
    · cases hempty

/-- The keys of a client's entries are the texts of their IDs. -/
def KeyedById (entries : Dict String CanMessageStatisticsResponse) : Prop :=
  ∀ key entry, entries.get? key = some entry → key = toString entry.arbitrationId

theorem HasApplied.keyedById {state state' : CanExplorerClientState} {events : List CanFrameEvent}
    (h : HasApplied state state' events) (hkeyed : KeyedById state.messages) :
    KeyedById state'.messages := by
  intro key entry hget
  rw [h.messages] at hget
  rcases Dict.get?_foldl_set_cases hget with ⟨event, -, hid, rfl⟩ | ⟨-, hold⟩
  · exact hid.symm
  · exact hkeyed key entry hold

theorem keyedById_messagesFromSnapshot (messages : List CanMessageStatisticsResponse) :
    KeyedById (messagesFromSnapshot messages) := by
  intro key entry hget
  rcases Dict.get?_foldl_set_cases hget with ⟨message, -, hid, rfl⟩ | ⟨-, hempty⟩
  · exact hid.symm
  · cases hempty

/-- Entries that are all current have retained counts that sum to the size of the buffer. -/
theorem sum_retained_of_current {explorer : CanExplorer} {ingested : List CanExplorerFrame}
    (h : explorer.Represents ingested) {entries : Dict String CanMessageStatisticsResponse}
    (hkeyed : KeyedById entries)
    (hcurrent : ∀ arbitrationId, entries.get? (toString arbitrationId) =
      currentEntry explorer arbitrationId) :
    (entries.values.map (·.retainedFrameCount)).sum = explorer.statistics.retainedFrameCount := by
  have htallies : entries.Tallies (·.retainedFrameCount)
      (explorer.buffer.items.map (fun frame => toString frame.arbitrationId)) := by
    constructor
    · intro key hmem
      obtain ⟨frame, hframe, rfl⟩ := List.mem_map.1 hmem
      rw [h.buffered] at hframe
      obtain ⟨counters, hget⟩ := h.messages.exists_counters ((rtake_sublist _ _).subset hframe)
      have hentry := hcurrent frame.arbitrationId
      rw [currentEntry_eq, hget] at hentry
      exact Dict.mem_keys_iff.2 ⟨_, hentry⟩
    · intro key entry hget
      have hkey := hkeyed key entry hget
      have hentry := hcurrent entry.arbitrationId
      rw [← hkey, hget, currentEntry_eq] at hentry
      obtain ⟨counters, hcounters, hshown⟩ := Option.map_eq_some_iff.1 hentry.symm
      obtain ⟨hid, hcounts⟩ := h.messages.counted _ _ hcounters
      have hretained : entry.retainedFrameCount = counters.retainedFrameCount := by
        rw [← hshown]
        rfl
      rw [hretained, hcounts.retained, length_ofId, hid, hkey,
        ← List.count_map_of_injective _ _ toString_nat_injective, List.map_map]
      rfl
  rw [htallies.sum_eq, List.length_map]
  rfl

/-! ## A client of one run -/

theorem Deliveries.coherent {ingested : List CanExplorerFrame} {start last : CanExplorer}
    {updates : List CanExplorerUpdate} (h : CanExplorer.ExploredAll ingested start updates last)
    (hstart : start.Represents ingested) {events : List CanFrameEvent}
    (hdelivered : Deliveries updates events) : ∀ event ∈ events, event.Coherent := by
  intro event hmem
  obtain ⟨update, hupdate, source, rfl⟩ := hdelivered.exists_update hmem
  obtain ⟨before, after, rfl⟩ := List.append_of_mem hupdate
  obtain ⟨hsequence, hid⟩ := h.update_coherent hstart
  exact ⟨hsequence, hid⟩

theorem Deliveries.ahead {ingested : List CanExplorerFrame} {start last : CanExplorer}
    {updates : List CanExplorerUpdate} (h : CanExplorer.ExploredAll ingested start updates last)
    (hstart : start.Represents ingested) {events : List CanFrameEvent}
    (hdelivered : Deliveries updates events) : Ahead start.statistics.lastSequence events := by
  have hnumbers : events.map (·.frame.sequence) = List.range' ingested.length updates.length := by
    rw [← h.sequences]
    refine List.forall₂_eq_eq_eq ▸ List.forall₂_map_left_iff.2 (List.forall₂_map_right_iff.2 ?_)
    refine (List.Forall₂.flip hdelivered).imp ?_
    rintro event update ⟨source, rfl⟩
    rfl
  refine ⟨?_, ?_⟩
  · intro event hmem
    have hnumber : event.frame.sequence ∈ events.map (·.frame.sequence) := List.mem_map_of_mem hmem
    rw [hnumbers, List.mem_range'_1] at hnumber
    unfold CanExplorer.statistics
    simp only [hstart.next]
    split
    · simp only [sequenceOrBefore]
      omega
    · simp only [sequenceOrBefore, Nat.cast_lt]
      omega
  · exact List.pairwise_map.1 (hnumbers ▸ List.pairwise_lt_range')

/-- A client that installs the snapshot of a run, receives every later event in order and ends with
an empty queue, however the events were grouped: it shows the explorer's statistics; the entry of
every ID it has settled is the explorer's statistic of the ID; and if it has settled all IDs, the
retained counts of its entries sum to the retained count of the statistics. -/
theorem settled_entries_are_current (pipeline : Pipeline) (decoder : Decoder)
    (hdecodes : decoder.DecodesSignals) {capacity : ℕ} (hcapacity : 0 < capacity)
    (hreset : pipeline.explorer = .fresh decoder capacity) (earlier later : List RawCanFrame) :
    ∃ before subscribed snapshot updates ended,
      pipeline.exploreAll earlier = .ok (before, subscribed) ∧
      subscribed.explorer.snapshot (some canWebsocketInitialFrameLimit) = .ok snapshot ∧
      subscribed.exploreAll later = .ok (updates, ended) ∧
      ∀ (provider : CanExplorerProvider) (source : TelemetrySource)
        (serviceState : TelemetryServiceState) (happenings : List CanProviderEvent),
        let opened := provider.step (.initialSnapshot
          (serializeInitialCanSnapshot snapshot source serviceState))
        let client := (opened.steps happenings).state
        let settled := Settled capacity (before.map (·.frame) ++ updates.map (·.frame)) updates
          (opened.applied happenings)
        (∀ happening ∈ happenings, happening.isSnapshot = false) →
        Deliveries updates (receivedFrames happenings) →
        (opened.steps happenings).pending = [] →
          (∃ source, client.statistics = serializeCanStatistics ended.explorer.statistics source) ∧
          (∀ arbitrationId, settled arbitrationId →
            client.messages.get? (toString arbitrationId) =
              currentEntry ended.explorer arbitrationId) ∧
          ((∀ arbitrationId, settled arbitrationId) →
            (client.messages.values.map (·.retainedFrameCount)).sum =
              client.statistics.retainedFrameCount) := by
  -- First the backend: the explorer before the connection, at the snapshot and at the end.
  have hfresh := CanExplorer.represents_fresh decoder capacity
  rw [← hreset] at hfresh
  obtain ⟨before, subscribed, hbefore, hexploredBefore, -, hdecoder⟩ :=
    Pipeline.exploreAll_explored hfresh (hreset ▸ hdecodes) (hreset ▸ hcapacity) earlier
  have hsubscribed := hexploredBefore.represents hfresh
  rw [List.nil_append] at hsubscribed
  have hcap : subscribed.explorer.capacity = capacity := by
    rw [hexploredBefore.capacity, hreset]
    rfl
  obtain ⟨updates, ended, hafter, hexplored, -, -⟩ :=
    Pipeline.exploreAll_explored hsubscribed (hdecoder ▸ hreset ▸ hdecodes)
      (hcap.symm ▸ hcapacity) later
  have hended := hexplored.represents hsubscribed
  refine ⟨before, subscribed, ⟨_, subscribed.explorer.statistics,
    subscribed.explorer.messageStatistics⟩, updates, ended, hbefore, rfl, hafter, ?_⟩
  -- Then the client, from the snapshot on.
  intro provider source serviceState happenings opened client settled hsnapshots hdelivered hempty
  have hcoherent := Deliveries.coherent hexplored hsubscribed hdelivered
  have hahead : Ahead opened.state.statistics.lastSequence (receivedFrames happenings) :=
    Deliveries.ahead hexplored hsubscribed hdelivered
  obtain ⟨happlied, hsub, hnewest⟩ :=
    @CanExplorerProvider.steps_apply opened happenings hsnapshots hcoherent hahead
  have hopened : opened.pending = [] := rfl
  rw [hempty, hopened, List.append_nil, List.nil_append] at hsub hnewest
  have hstatistics : ∃ source,
      client.statistics = serializeCanStatistics ended.explorer.statistics source := by
    rw [happlied.statistics, statisticsAfter, hnewest]
    cases hevent : (receivedFrames happenings).getLast? with
    | none =>
      rw [List.getLast?_eq_none_iff] at hevent
      rw [hevent] at hdelivered
      cases hdelivered
      rw [hexplored.eq_of_nil]
      exact ⟨source, rfl⟩
    | some event =>
      obtain ⟨update, hupdate, sent, rfl⟩ := hdelivered.newest hevent
      rw [← hexplored.statistics hupdate]
      exact ⟨sent, rfl⟩
  have hcurrent : ∀ arbitrationId, settled arbitrationId →
      client.messages.get? (toString arbitrationId) =
        currentEntry ended.explorer arbitrationId := by
    intro arbitrationId hsettled
    refine happlied.entry_current hexplored hdelivered hsub
      (fun event hmem => hcoherent event (hsub.subset hmem)) (hahead.increasing.sublist hsub)
      (messagesFromSnapshot_current hsubscribed arbitrationId) ?_
    rw [hcap]
    exact hsettled
  refine ⟨hstatistics, hcurrent, ?_⟩
  -- If every ID is settled, the entries are those of the backend, whose counts add up.
  intro hall
  obtain ⟨sent, hsent⟩ := hstatistics
  have hsum := sum_retained_of_current hended
    (happlied.keyedById (keyedById_messagesFromSnapshot _))
    (fun arbitrationId => hcurrent arbitrationId (hall arbitrationId))
  rw [hsum, hsent]
  rfl

/-- The default pipeline with a raw buffer of the given capacity. -/
def bufferedPipeline (capacity : ℕ) : Pipeline :=
  { Pipeline.packaged DbcMessage.intelDecode with
    explorer := .fresh (packagedDecoder DbcMessage.intelDecode) capacity }

def firstFrame : RawCanFrame := ⟨1, [], 0, by decide, by decide⟩
def secondFrame : RawCanFrame := ⟨2, [], 1, by decide, by decide⟩

/-- The events of the updates of a live run. -/
def sentEvents (updates : List CanExplorerUpdate) : List CanFrameEvent :=
  updates.map (serializeCanUpdate · emptySource)

theorem deliveries_sentEvents (updates : List CanExplorerUpdate) :
    Deliveries updates (sentEvents updates) := by
  unfold Deliveries sentEvents
  rw [List.forall₂_map_right_iff, List.forall₂_same]
  exact fun update _ => ⟨emptySource, rfl⟩

/-- A client receives some events and then an animation frame. -/
def burst (events : List CanFrameEvent) : List CanProviderEvent :=
  events.map .canFrame ++ [.animationFrame]

theorem receivedFrames_burst (events : List CanFrameEvent) :
    receivedFrames (burst events) = events := by
  unfold burst receivedFrames
  rw [List.filterMap_append, List.filterMap_map]
  simp

theorem burst_noSnapshot (events : List CanFrameEvent) :
    ∀ happening ∈ burst events, happening.isSnapshot = false := by
  intro happening hmem
  rcases List.mem_append.1 hmem with hframe | hlast
  · obtain ⟨event, -, rfl⟩ := List.mem_map.1 hframe
    rfl
  · rw [List.mem_singleton.1 hlast]
    rfl

/-- Of a burst, the client applies the newest events that fit the queue. -/
theorem CanExplorerProvider.applied_burst {provider : CanExplorerProvider}
    {queued : List CanFrameEvent} (hpending : provider.pending = queued.rtake canClientBufferCapacity)
    (hrequested : queued = [] ∨ provider.animationFrame = true) (events : List CanFrameEvent) :
    provider.applied (burst events) = (queued ++ events).rtake canClientBufferCapacity ∧
      (provider.steps (burst events)).pending = [] := by
  induction events generalizing provider queued with
  | nil =>
    have hburst : burst [] = [.animationFrame] := rfl
    rw [hburst, List.append_nil, ← hpending]
    cases hflag : provider.animationFrame with
    | true => simp [applied, dispatched, steps, step, dispatch, hflag]
    | false =>
      have hnone : provider.pending = [] := by
        rw [hpending, hrequested.resolve_right (by simp [hflag]), List.rtake_nil]
      simp [applied, dispatched, steps, step, hflag, hnone]
  | cons event rest ih =>
    have hqueue : (provider.queue event).pending =
        (queued ++ [event]).rtake canClientBufferCapacity := by
      unfold queue
      simp only [hpending]
      exact rtake_rtake_append queued [event] _
    have hflag : (provider.queue event).animationFrame = true := by simp only [queue]
    have hdispatched : provider.dispatched (.canFrame event) = [] := by simp only [dispatched]
    have hstep : provider.step (.canFrame event) = provider.queue event := by simp only [step]
    have hburst : burst (event :: rest) = .canFrame event :: burst rest := by
      simp only [burst, List.map_cons, List.cons_append]
    obtain ⟨happlied, hpending'⟩ := ih hqueue (Or.inr hflag)
    rw [List.append_assoc, List.singleton_append] at happlied
    refine ⟨?_, ?_⟩
    · rw [hburst, applied, hdispatched, hstep, List.nil_append]
      exact happlied
    · rw [hburst, steps, List.foldl_cons, hstep]
      exact hpending'

/-- A client that opened the view before the first frame. -/
def openedProvider (explorer : CanExplorer) : CanExplorerProvider :=
  CanExplorerProvider.mounted.step (.initialSnapshot (serializeInitialCanSnapshot
    ⟨[], explorer.statistics, explorer.messageStatistics⟩ emptySource .running))

/-- The event is of the ID, and not before the update. -/
def CanFrameEvent.Settles (event : CanFrameEvent) (update : CanExplorerUpdate)
    (arbitrationId : ℕ) : Prop :=
  event.frame.arbitrationId = arbitrationId ∧ update.frame.sequence ≤ event.frame.sequence

instance (event : CanFrameEvent) (update : CanExplorerUpdate) (arbitrationId : ℕ) :
    Decidable (event.Settles update arbitrationId) :=
  inferInstanceAs (Decidable (_ ∧ _))

/-- All IDs are settled if those of the arriving and of the evicted frames are. -/
theorem settled_all_iff {capacity : ℕ} {run : List CanExplorerFrame}
    {updates : List CanExplorerUpdate} {applied : List CanFrameEvent} :
    (∀ arbitrationId, Settled capacity run updates applied arbitrationId) ↔
      ∀ update ∈ updates, (∃ event ∈ applied, event.Settles update update.frame.arbitrationId) ∧
        ∀ evicted ∈ run, evicted.sequence + capacity = update.frame.sequence →
          ∃ event ∈ applied, event.Settles update evicted.arbitrationId := by
  constructor
  · exact fun h update hmem => ⟨h _ update hmem (.inl rfl), fun evicted hevicted hsequence =>
      h _ update hmem (.inr ⟨evicted, hevicted, hsequence, rfl⟩)⟩
  · rintro h arbitrationId update hmem (rfl | ⟨evicted, hevicted, hsequence, rfl⟩)
    · exact (h update hmem).1
    · exact (h update hmem).2 evicted hevicted hsequence

instance (capacity : ℕ) (run : List CanExplorerFrame) (updates : List CanExplorerUpdate)
    (applied : List CanFrameEvent) :
    Decidable (∀ arbitrationId, Settled capacity run updates applied arbitrationId) :=
  decidable_of_iff _ settled_all_iff.symm

/-- The client receives the first event in an animation frame of its own, and then the others. -/
def twoBursts (updates : List CanExplorerUpdate) : List CanProviderEvent :=
  burst (sentEvents (updates.take 1)) ++ burst (sentEvents (updates.drop 1))

theorem twoBursts_noSnapshot (updates : List CanExplorerUpdate) :
    ∀ happening ∈ twoBursts updates, happening.isSnapshot = false := by
  intro happening hmem
  rcases List.mem_append.1 hmem with hfirst | hsecond
  · exact burst_noSnapshot _ happening hfirst
  · exact burst_noSnapshot _ happening hsecond

theorem deliveries_twoBursts (updates : List CanExplorerUpdate) :
    Deliveries updates (receivedFrames (twoBursts updates)) := by
  have hframes : receivedFrames (twoBursts updates) = sentEvents updates := by
    unfold twoBursts
    rw [receivedFrames, List.filterMap_append]
    change receivedFrames _ ++ receivedFrames _ = _
    rw [receivedFrames_burst, receivedFrames_burst, sentEvents, sentEvents, ← List.map_append,
      List.take_append_drop]
    rfl
  rw [hframes]
  exact deliveries_sentEvents updates

/-- The frames after the view was opened. -/
def evictingFrames : List RawCanFrame :=
  [⟨2, [], 2, by decide, by decide⟩, ⟨1, [], 3, by decide, by decide⟩,
    ⟨2, [], 4, by decide, by decide⟩]

/-- A view of a buffer of two, opened after two frames, and three more frames: the first of them
evicts the frame of the other ID, which then sends its next one. -/
theorem evicted_id_that_sends_again_is_current :
    ∃ before subscribed snapshot updates ended,
      (bufferedPipeline 2).exploreAll [firstFrame, secondFrame] = .ok (before, subscribed) ∧
      subscribed.explorer.snapshot (some canWebsocketInitialFrameLimit) = .ok snapshot ∧
      subscribed.exploreAll evictingFrames = .ok (updates, ended) ∧
      let client := ((CanExplorerProvider.mounted.step (.initialSnapshot
        (serializeInitialCanSnapshot snapshot emptySource .running))).steps (twoBursts updates)).state
      (∀ arbitrationId, client.messages.get? (toString arbitrationId) =
        currentEntry ended.explorer arbitrationId) ∧
      (client.messages.values.map (·.retainedFrameCount)).sum =
        client.statistics.retainedFrameCount := by
  obtain ⟨before, subscribed, snapshot, updates, ended, hbefore, hsnapshot, hupdates, hclient⟩ :=
    settled_entries_are_current (bufferedPipeline 2) (packagedDecoder DbcMessage.intelDecode)
      packagedDecoder_decodesSignals Nat.two_pos rfl [firstFrame, secondFrame]
      evictingFrames
  have heval : (do
      let (before, subscribed) ← (bufferedPipeline 2).exploreAll [firstFrame, secondFrame]
      let snapshot ← subscribed.explorer.snapshot (some canWebsocketInitialFrameLimit)
      let (updates, _) ← subscribed.exploreAll evictingFrames
      let opened := CanExplorerProvider.mounted.step (.initialSnapshot
        (serializeInitialCanSnapshot snapshot emptySource .running))
      return decide ((opened.steps (twoBursts updates)).pending = [] ∧
        ∀ arbitrationId, Settled 2 (before.map (·.frame) ++ updates.map (·.frame)) updates
          (opened.applied (twoBursts updates)) arbitrationId) : Except PyException Bool) =
      .ok true := by decide +kernel
  simp only [hbefore, hsnapshot, hupdates, bind, Except.bind, pure, Except.pure] at heval
  obtain ⟨hflushed, hsettled⟩ := of_decide_eq_true (Except.ok.inj heval)
  obtain ⟨-, hentries, hsum⟩ := hclient .mounted emptySource .running (twoBursts updates)
    (twoBursts_noSnapshot updates) (deliveries_twoBursts updates) hflushed
  exact ⟨before, subscribed, snapshot, updates, ended, hbefore, hsnapshot, hupdates,
    fun arbitrationId => hentries arbitrationId (hsettled arbitrationId), hsum hsettled⟩

/-- An ID whose only event falls out of the queue gets no entry, though the explorer counts it. -/
theorem dropped_entry_missing (pipeline : Pipeline) (decoder : Decoder)
    (hdecodes : decoder.DecodesSignals) {capacity : ℕ} (hcapacity : 0 < capacity)
    (hreset : pipeline.explorer = .fresh decoder capacity) {first : RawCanFrame}
    {others : List RawCanFrame} (hothers : ∀ other ∈ others, other.arbitrationId ≠ first.arbitrationId)
    (hburst : canClientBufferCapacity ≤ others.length) :
    ∃ updates ended, pipeline.exploreAll (first :: others) = .ok (updates, ended) ∧
      ((openedProvider pipeline.explorer).steps (burst (sentEvents updates))).state.messages.get?
          (toString first.arbitrationId) ≠ currentEntry ended.explorer first.arbitrationId := by
  have hfresh := CanExplorer.represents_fresh decoder capacity
  rw [← hreset] at hfresh
  obtain ⟨updates, ended, hrun, hexplored, hraw, -⟩ :=
    Pipeline.exploreAll_explored hfresh (hreset ▸ hdecodes) (hreset ▸ hcapacity) (first :: others)
  refine ⟨updates, ended, hrun, ?_⟩
  obtain ⟨update, rest, rfl, hfirst, hrest⟩ := List.map_eq_cons_iff.1 hraw
  have hdelivered := deliveries_sentEvents (update :: rest)
  have hcoherent := hdelivered.coherent hexplored hfresh
  have hahead := hdelivered.ahead hexplored hfresh
  have hopened : (openedProvider pipeline.explorer).pending = [] := by
    simp only [openedProvider, CanExplorerProvider.step, CanExplorerProvider.dispatch]
  have hstatistics : (openedProvider pipeline.explorer).state.statistics.lastSequence =
      pipeline.explorer.statistics.lastSequence := rfl
  have hempty : (openedProvider pipeline.explorer).state.messages.get?
      (toString first.arbitrationId) = none := by
    rw [hreset]
    rfl
  rw [← receivedFrames_burst (sentEvents (update :: rest))] at hcoherent hahead
  obtain ⟨happlied, hsub, -⟩ := @CanExplorerProvider.steps_apply (openedProvider pipeline.explorer)
    (burst (sentEvents (update :: rest))) (burst_noSnapshot _)
    (by rw [hopened, List.nil_append]; exact hcoherent)
    (by rw [hopened, List.nil_append, hstatistics]; exact hahead)
  obtain ⟨hnewest, -⟩ := @CanExplorerProvider.applied_burst (openedProvider pipeline.explorer) []
    (hopened.trans (List.rtake_nil _).symm) (Or.inl rfl) (sentEvents (update :: rest))
  -- The others fill the queue, so the first event is dropped.
  have hkept : List.Sublist ((openedProvider pipeline.explorer).applied
      (burst (sentEvents (update :: rest)))) (sentEvents rest) := by
    have hlength : (sentEvents rest).length = others.length := by
      rw [sentEvents, List.length_map, ← hrest, List.length_map]
    rw [hnewest, List.nil_append, sentEvents, List.map_cons, List.rtake, List.length_cons,
      Nat.succ_sub (hlength ▸ hburst), List.drop_succ_cons]
    exact List.drop_sublist _ _
  -- Without it no event of its ID is applied, and the snapshot had no entry for it.
  have habsent : ((openedProvider pipeline.explorer).steps
      (burst (sentEvents (update :: rest)))).state.messages.get? (toString first.arbitrationId) =
        none := by
    rw [happlied.entry_of_absent ?_ ?_, hempty]
    · intro event hmem
      refine hcoherent event ?_
      rw [receivedFrames_burst]
      exact (hkept.trans (List.sublist_cons_self _ _)).subset hmem
    · intro event hmem
      obtain ⟨later, hlater, rfl⟩ := List.mem_map.1 (hkept.subset hmem)
      refine hothers later.frame.rawFrame ?_
      rw [← hrest]
      exact List.mem_map_of_mem hlater
  -- The backend has counted the first frame.
  obtain ⟨counters, hcounters⟩ := (hexplored.represents hfresh).messages.exists_counters
    (List.mem_append_right _ (List.mem_map_of_mem List.mem_cons_self))
  have hcounted : ended.explorer.messages.get? first.arbitrationId = some counters := by
    rw [← hfirst]
    exact hcounters
  rw [habsent, currentEntry_eq, hcounted]
  nofun

/-- An ID keeps the retained count of its last event when its frame is evicted, and an ID whose event
was dropped from a burst has no entry. -/
theorem evicted_and_dropped_entries_are_stale :
    (∃ result : List CanExplorerUpdate × Pipeline,
      (bufferedPipeline 1).exploreAll [firstFrame, secondFrame] = .ok result ∧
      let client := (openedProvider (bufferedPipeline 1).explorer).steps (burst (sentEvents result.1))
      client.pending = [] ∧
      client.state.messages.get? (toString firstFrame.arbitrationId) ≠
        currentEntry result.2.explorer firstFrame.arbitrationId ∧
      (client.state.messages.values.map (·.retainedFrameCount)).sum ≠
        client.state.statistics.retainedFrameCount) ∧
    ∃ updates ended,
      (bufferedPipeline 2000).exploreAll (firstFrame :: List.replicate 1000 secondFrame) =
        .ok (updates, ended) ∧
      let client := (openedProvider (bufferedPipeline 2000).explorer).steps
        (burst (sentEvents updates))
      client.state.messages.get? (toString firstFrame.arbitrationId) ≠
        currentEntry ended.explorer firstFrame.arbitrationId := by
  refine ⟨?_, ?_⟩
  · obtain ⟨result, hrun, hstale⟩ := Fallible.exists_ok_of_any (p := fun result =>
      let client := (openedProvider (bufferedPipeline 1).explorer).steps (burst (sentEvents result.1))
      decide (client.pending = [] ∧
        client.state.messages.get? (toString firstFrame.arbitrationId) ≠
          currentEntry result.2.explorer firstFrame.arbitrationId ∧
        (client.state.messages.values.map (·.retainedFrameCount)).sum ≠
          client.state.statistics.retainedFrameCount))
      (x := (bufferedPipeline 1).exploreAll [firstFrame, secondFrame]) (by decide +kernel)
    exact ⟨result, hrun, of_decide_eq_true hstale⟩
  · refine dropped_entry_missing (bufferedPipeline 2000) (packagedDecoder DbcMessage.intelDecode)
      packagedDecoder_decodesSignals (by decide) rfl ?_ ?_
    · intro other hmem
      rw [List.eq_of_mem_replicate hmem]
      decide
    · rw [List.length_replicate]
      exact le_rfl

end TunerOs
