-- SUMMARY: The explorer over a whole run: its buffer and per-ID counters are functions of the frames ingested since the last reset.
import TunerOs.Can.Dbc
import TunerOs.Can.Explorer
import TunerOs.Lib.Tally

/-!
# The explorer's invariant

The abstract state of an explorer is the list of all frames it has ingested since
its last reset. The buffer keeps the newest of them. The counters of an arbitration
ID are determined by two sublists: its ingested frames and its kept frames. An
ingest that evicts changes the kept frames of one ID and then both lists of
another, possibly the same.
-/

namespace TunerOs

open Containers

namespace CanExplorerFrame

def arbitrationId (frame : CanExplorerFrame) : ℕ := frame.rawFrame.arbitrationId

def timestampMicroseconds (frame : CanExplorerFrame) : ℕ := frame.rawFrame.timestampMicroseconds

end CanExplorerFrame

/-- The frames of one arbitration ID, in order. -/
def ofId (arbitrationId : ℕ) (frames : List CanExplorerFrame) : List CanExplorerFrame :=
  frames.filter (·.arbitrationId = arbitrationId)

theorem ofId_append (arbitrationId : ℕ) (l m : List CanExplorerFrame) :
    ofId arbitrationId (l ++ m) = ofId arbitrationId l ++ ofId arbitrationId m :=
  List.filter_append ..

@[simp] theorem ofId_singleton_self (frame : CanExplorerFrame) :
    ofId frame.arbitrationId [frame] = [frame] := by
  simp [ofId]

theorem ofId_singleton_of_ne {arbitrationId : ℕ} {frame : CanExplorerFrame}
    (h : frame.arbitrationId ≠ arbitrationId) : ofId arbitrationId [frame] = [] := by
  simp [ofId, h]

theorem length_ofId (arbitrationId : ℕ) (frames : List CanExplorerFrame) :
    (ofId arbitrationId frames).length = (frames.map (·.arbitrationId)).count arbitrationId := by
  rw [ofId, ← List.countP_eq_length_filter, List.count, List.countP_map]
  refine List.countP_congr ?_
  intro frame _
  simp

theorem ofId_eq_nil_iff {arbitrationId : ℕ} {frames : List CanExplorerFrame} :
    ofId arbitrationId frames = [] ↔ ∀ frame ∈ frames, frame.arbitrationId ≠ arbitrationId := by
  simp [ofId]

namespace CanExplorer

/-! ## What the counters say -/

/-- The counters describe the `ingested` frames of their ID, of which the `kept` are buffered. -/
structure Counts (ingested kept : List CanExplorerFrame) (counters : MessageCounters) : Prop where
  total : counters.totalFrameCount = (ofId counters.arbitrationId ingested).length
  retained : counters.retainedFrameCount = (ofId counters.arbitrationId kept).length
  first : (ofId counters.arbitrationId ingested).head?.map (·.timestampMicroseconds) =
    some counters.firstTimestampMicroseconds
  latest : (ofId counters.arbitrationId ingested).getLast?.map
      (fun frame => (frame.timestampMicroseconds, frame.rawFrame.payloadLength)) =
    some (counters.latestTimestampMicroseconds, counters.latestDlc)

/-- The dictionary has counters for exactly the IDs among the ingested frames. -/
structure Describes (messages : Dict ℕ MessageCounters)
    (ingested kept : List CanExplorerFrame) : Prop where
  absent : ∀ arbitrationId, messages.get? arbitrationId = none → ofId arbitrationId ingested = []
  counted : ∀ arbitrationId counters, messages.get? arbitrationId = some counters →
    counters.arbitrationId = arbitrationId ∧ Counts ingested kept counters

/-- The explorer after ingesting `ingested`, of which the last carries the highest sequence. -/
structure Represents (explorer : CanExplorer) (ingested : List CanExplorerFrame) : Prop where
  sequences : ingested.map (·.sequence) = List.range ingested.length
  next : explorer.nextSequence = ingested.length
  buffered : explorer.buffer.Holds ingested
  messages : Describes explorer.messages ingested explorer.buffer.items

theorem represents_fresh (decoder : Decoder) (capacity : ℕ) :
    (fresh decoder capacity).Represents [] where
  sequences := rfl
  next := rfl
  buffered := BoundedDeque.holds_empty capacity
  messages := ⟨fun _ _ => rfl, nofun⟩

/-- A frame that is kept was ingested, so its ID has counters. -/
theorem Describes.exists_counters {messages : Dict ℕ MessageCounters}
    {ingested kept : List CanExplorerFrame} (h : Describes messages ingested kept)
    {frame : CanExplorerFrame} (hmem : frame ∈ ingested) :
    ∃ counters, messages.get? frame.arbitrationId = some counters := by
  cases hget : messages.get? frame.arbitrationId with
  | some counters => exact ⟨counters, rfl⟩
  | none => exact absurd rfl (ofId_eq_nil_iff.1 (h.absent _ hget) frame hmem)

/-! ## One ingest -/

/-- What an ingest writes: the numbered frame, and the counters of at most two IDs. -/
theorem ingest_writes {explorer explorer' : CanExplorer} {rawFrame : RawCanFrame}
    {frame : CanExplorerFrame} (h : explorer.ingest rawFrame = .ok (frame, explorer')) :
    ∃ metadata, frame.sequence = explorer.nextSequence ∧ rawFrame = frame.rawFrame ∧
      explorer' = { explorer with
        nextSequence := explorer.nextSequence + 1
        buffer := explorer.buffer.append frame
        messages := updateMessage explorer.evict frame.rawFrame metadata } := by
  unfold CanExplorer.ingest at h
  split at h
  · cases h
  · rename_i observed hobserved
    cases h
    exact ⟨observed.metadata, rfl, rfl, rfl⟩

/-- The items left once room is made for one more. -/
def keptAfterEviction (explorer : CanExplorer) : List CanExplorerFrame :=
  if explorer.buffer.items.length = explorer.capacity then explorer.buffer.items.tail
  else explorer.buffer.items

theorem keptAfterEviction_subset (explorer : CanExplorer) :
    explorer.keptAfterEviction ⊆ explorer.buffer.items := by
  unfold keptAfterEviction
  split
  · exact List.tail_subset _
  · exact List.Subset.refl _

/-- Making room and appending is what the bounded buffer does in one step. -/
theorem keptAfterEviction_append (explorer : CanExplorer) (hcapacity : 0 < explorer.capacity)
    (frame : CanExplorerFrame) :
    (explorer.buffer.items ++ [frame]).rtake explorer.buffer.maxlen =
      explorer.keptAfterEviction ++ [frame] := by
  have hle := explorer.buffer.length_le
  change 0 < explorer.buffer.maxlen at hcapacity
  unfold keptAfterEviction capacity
  rw [List.rtake, List.length_append, List.length_singleton, List.drop_append_of_le_length]
  · split
    · rename_i hfull
      rw [hfull, Nat.add_sub_cancel_left, List.drop_one]
    · rename_i hroom
      rw [Nat.sub_eq_zero_of_le (by omega), List.drop_zero]
  · omega

/-- Evicting takes one from the retained count of the evicted frame's ID. -/
theorem Counts.evict {ingested kept : List CanExplorerFrame} {evicted : CanExplorerFrame}
    {counters : MessageCounters} (h : Counts ingested (evicted :: kept) counters)
    (hid : counters.arbitrationId = evicted.arbitrationId) :
    Counts ingested kept { counters with retainedFrameCount := counters.retainedFrameCount - 1 } := by
  refine ⟨h.total, ?_, h.first, h.latest⟩
  have hretained := h.retained
  rw [← List.singleton_append, ofId_append, hid, ofId_singleton_self, List.length_append,
    List.length_singleton] at hretained
  change counters.retainedFrameCount - 1 = (ofId counters.arbitrationId kept).length
  rw [hid, hretained, Nat.add_sub_cancel_left]

/-- The counters of another ID do not notice the eviction. -/
theorem Counts.evict_of_ne {ingested kept : List CanExplorerFrame} {evicted : CanExplorerFrame}
    {counters : MessageCounters} (h : Counts ingested (evicted :: kept) counters)
    (hid : evicted.arbitrationId ≠ counters.arbitrationId) : Counts ingested kept counters := by
  refine ⟨h.total, ?_, h.first, h.latest⟩
  have hretained := h.retained
  rwa [← List.singleton_append, ofId_append, ofId_singleton_of_ne hid, List.nil_append]
    at hretained

theorem Represents.evict {explorer : CanExplorer} {ingested : List CanExplorerFrame}
    (h : explorer.Represents ingested) :
    Describes explorer.evict ingested explorer.keptAfterEviction := by
  unfold CanExplorer.evict keptAfterEviction
  split
  · cases hitems : explorer.buffer.items with
    | nil =>
      have hmessages := h.messages
      rw [hitems] at hmessages
      exact hmessages
    | cons evicted kept =>
      have hmessages := h.messages
      rw [hitems] at hmessages
      have hingested : evicted ∈ ingested := by
        refine List.mem_of_mem_drop (i := ingested.length - explorer.buffer.maxlen) ?_
        rw [← List.rtake, ← h.buffered, hitems]
        exact List.mem_cons_self
      obtain ⟨counters, hcounters⟩ := hmessages.exists_counters hingested
      obtain ⟨hid, hcounts⟩ := hmessages.counted _ _ hcounters
      have hraw : explorer.messages.get? evicted.rawFrame.arbitrationId = some counters := hcounters
      simp only [List.head?_cons, List.tail_cons, hraw]
      constructor
      · intro arbitrationId hget
        rw [Dict.get?_set] at hget
        split at hget
        · cases hget
        · exact hmessages.absent arbitrationId hget
      · intro arbitrationId other hget
        rw [Dict.get?_set] at hget
        split at hget
        · rename_i hsame
          cases hget
          exact ⟨hid.trans hsame.symm, hcounts.evict hid⟩
        · rename_i hother
          obtain ⟨hid', hcounts'⟩ := hmessages.counted arbitrationId other hget
          exact ⟨hid', hcounts'.evict_of_ne (fun heq => hother (hid'.symm.trans heq.symm))⟩
  · exact h.messages

/-- The arriving frame changes no list of another ID. -/
theorem Counts.append_of_ne {ingested kept : List CanExplorerFrame} {frame : CanExplorerFrame}
    {counters : MessageCounters} (h : Counts ingested kept counters)
    (hid : frame.arbitrationId ≠ counters.arbitrationId) :
    Counts (ingested ++ [frame]) (kept ++ [frame]) counters := by
  constructor
  · rw [ofId_append, ofId_singleton_of_ne hid, List.append_nil]
    exact h.total
  · rw [ofId_append, ofId_singleton_of_ne hid, List.append_nil]
    exact h.retained
  · rw [ofId_append, ofId_singleton_of_ne hid, List.append_nil]
    exact h.first
  · rw [ofId_append, ofId_singleton_of_ne hid, List.append_nil]
    exact h.latest

/-- Another frame of a counted ID: both counts grow, and the latest values are the frame's. -/
theorem Counts.append {ingested kept : List CanExplorerFrame} {frame : CanExplorerFrame}
    {counters : MessageCounters} (h : Counts ingested kept counters)
    (hid : counters.arbitrationId = frame.arbitrationId) :
    Counts (ingested ++ [frame]) (kept ++ [frame])
      { counters with
        retainedFrameCount := counters.retainedFrameCount + 1
        totalFrameCount := counters.totalFrameCount + 1
        latestTimestampMicroseconds := frame.timestampMicroseconds
        latestDlc := frame.rawFrame.payloadLength } := by
  have htotal := h.total
  have hretained := h.retained
  have hfirst := h.first
  rw [hid] at htotal hretained hfirst
  constructor
  · simp only [hid, ofId_append, ofId_singleton_self, List.length_append, List.length_singleton,
      htotal]
  · simp only [hid, ofId_append, ofId_singleton_self, List.length_append, List.length_singleton,
      hretained]
  · simp only [hid, ofId_append, ofId_singleton_self]
    rw [← hfirst]
    cases hlist : ofId frame.arbitrationId ingested with
    | nil => simp [hlist] at hfirst
    | cons first rest => rfl
  · simp only [hid, ofId_append, ofId_singleton_self, List.getLast?_append, List.getLast?_singleton]
    rfl

/-- The first frame of an ID. -/
theorem counts_first {ingested kept : List CanExplorerFrame} {frame : CanExplorerFrame}
    (metadata : Option CanMessageMetadata) (hingested : ofId frame.arbitrationId ingested = [])
    (hkept : ofId frame.arbitrationId kept = []) :
    Counts (ingested ++ [frame]) (kept ++ [frame])
      { arbitrationId := frame.arbitrationId
        metadata := metadata
        retainedFrameCount := 1
        totalFrameCount := 1
        firstTimestampMicroseconds := frame.timestampMicroseconds
        latestTimestampMicroseconds := frame.timestampMicroseconds
        latestDlc := frame.rawFrame.payloadLength } := by
  constructor <;> simp only [ofId_append, hingested, hkept, ofId_singleton_self] <;> rfl

theorem Describes.update {messages : Dict ℕ MessageCounters}
    {ingested kept : List CanExplorerFrame} (h : Describes messages ingested kept)
    (hsub : ∀ frame ∈ kept, frame ∈ ingested) (frame : CanExplorerFrame)
    (metadata : Option CanMessageMetadata) :
    Describes (updateMessage messages frame.rawFrame metadata) (ingested ++ [frame])
      (kept ++ [frame]) := by
  -- The entry written is about the frame's ID; every other entry is as it was.
  suffices hwritten : ∃ counters,
      updateMessage messages frame.rawFrame metadata = messages.set frame.arbitrationId counters ∧
      counters.arbitrationId = frame.arbitrationId ∧
      Counts (ingested ++ [frame]) (kept ++ [frame]) counters by
    obtain ⟨counters, hupdate, hid, hcounts⟩ := hwritten
    rw [hupdate]
    constructor
    · intro arbitrationId hget
      rw [Dict.get?_set] at hget
      split at hget
      · cases hget
      · rename_i hother
        rw [ofId_append, h.absent arbitrationId hget, ofId_singleton_of_ne (Ne.symm hother)]
        rfl
    · intro arbitrationId other hget
      rw [Dict.get?_set] at hget
      split at hget
      · rename_i hsame
        cases hget
        exact ⟨hid.trans hsame.symm, hcounts⟩
      · rename_i hother
        obtain ⟨hid', hcounts'⟩ := h.counted arbitrationId other hget
        exact ⟨hid', hcounts'.append_of_ne (fun heq => hother (hid'.symm.trans heq.symm))⟩
  cases hget : messages.get? frame.arbitrationId with
  | none =>
    have hingested := h.absent _ hget
    have hkept : ofId frame.arbitrationId kept = [] :=
      ofId_eq_nil_iff.2 (fun other hmem => ofId_eq_nil_iff.1 hingested other (hsub other hmem))
    refine ⟨_, ?_, rfl, counts_first metadata hingested hkept⟩
    have hraw : messages.get? frame.rawFrame.arbitrationId = none := hget
    simp only [updateMessage, hraw]
    rfl
  | some counters =>
    obtain ⟨hid, hcounts⟩ := h.counted _ _ hget
    refine ⟨_, ?_, ?_, hcounts.append hid⟩
    · have hraw : messages.get? frame.rawFrame.arbitrationId = some counters := hget
      simp only [updateMessage, hraw]
      rfl
    · exact hid

/-- An ingest appends its frame to the abstract state. -/
theorem Represents.ingest {explorer explorer' : CanExplorer} {ingested : List CanExplorerFrame}
    (h : explorer.Represents ingested) (hcapacity : 0 < explorer.capacity)
    {rawFrame : RawCanFrame} {frame : CanExplorerFrame}
    (hingest : explorer.ingest rawFrame = .ok (frame, explorer')) :
    explorer'.Represents (ingested ++ [frame]) ∧ frame.rawFrame = rawFrame ∧
      explorer'.capacity = explorer.capacity := by
  obtain ⟨metadata, hsequence, rfl, rfl⟩ := ingest_writes hingest
  refine ⟨?_, rfl, rfl⟩
  constructor
  · rw [List.map_append, h.sequences, List.length_append, List.length_singleton,
      List.range_succ, List.map_singleton, hsequence, h.next]
  · rw [List.length_append, List.length_singleton, ← h.next]
  · exact h.buffered.append frame
  · rw [BoundedDeque.items_append, keptAfterEviction_append explorer hcapacity frame]
    refine h.evict.update ?_ frame metadata
    intro kept hmem
    have hitem := keptAfterEviction_subset explorer hmem
    rw [h.buffered] at hitem
    exact List.mem_of_mem_drop hitem

/-! ## The observers -/

/-- The retained counts of a represented explorer sum to the size of its buffer. -/
theorem Represents.sum_retained {explorer : CanExplorer} {ingested : List CanExplorerFrame}
    (h : explorer.Represents ingested) :
    (explorer.messageStatistics.map (·.retainedFrameCount)).sum =
      explorer.statistics.retainedFrameCount := by
  have htallies : explorer.messages.Tallies (·.retainedFrameCount)
      (explorer.buffer.items.map (·.arbitrationId)) := by
    constructor
    · intro arbitrationId hmem
      obtain ⟨frame, hframe, rfl⟩ := List.mem_map.1 hmem
      rw [h.buffered] at hframe
      exact Dict.mem_keys_iff.2 (h.messages.exists_counters (List.mem_of_mem_drop hframe))
    · intro arbitrationId counters hget
      obtain ⟨rfl, hcounts⟩ := h.messages.counted arbitrationId counters hget
      rw [hcounts.retained, length_ofId]
  have hperm := List.perm_insertionSort (fun a b : ℕ × MessageCounters => a.1 ≤ b.1)
    explorer.messages.entries
  calc (explorer.messageStatistics.map (·.retainedFrameCount)).sum
      = ((explorer.messages.entries.insertionSort (fun a b => a.1 ≤ b.1)).map
          (fun entry => entry.2.retainedFrameCount)).sum := by
        rw [messageStatistics, List.map_map]
        rfl
    _ = (explorer.messages.values.map (·.retainedFrameCount)).sum := by
        rw [(hperm.map _).sum_eq, Dict.values, List.map_map]
        rfl
    _ = explorer.statistics.retainedFrameCount := by
        rw [htallies.sum_eq, List.length_map]
        rfl

/-- The statistic of an ID among the ingested frames. -/
theorem Represents.messageStatistic {explorer : CanExplorer} {ingested : List CanExplorerFrame}
    (h : explorer.Represents ingested) {arbitrationId : ℕ}
    (hmem : arbitrationId ∈ ingested.map (·.arbitrationId)) :
    ∃ counters, explorer.messageStatistic arbitrationId = .ok counters.freeze ∧
      counters.arbitrationId = arbitrationId ∧
      Counts ingested explorer.buffer.items counters := by
  obtain ⟨frame, hframe, rfl⟩ := List.mem_map.1 hmem
  obtain ⟨counters, hget⟩ := h.messages.exists_counters hframe
  obtain ⟨hid, hcounts⟩ := h.messages.counted _ _ hget
  refine ⟨counters, ?_, hid, hcounts⟩
  unfold CanExplorer.messageStatistic
  rw [hget]

end CanExplorer

/-! ## Runs of calls -/

inductive ExplorerCall where
  | ingest (rawFrame : RawCanFrame)
  | reset

namespace CanExplorer

/-- One call, together with the frames that ingests have returned since the last reset. -/
def call (explorer : CanExplorer) (ingested : List CanExplorerFrame) :
    ExplorerCall → Except PyException (CanExplorer × List CanExplorerFrame)
  | .ingest rawFrame =>
    match explorer.ingest rawFrame with
    | .error error => .error error
    | .ok (frame, explorer') => .ok (explorer', ingested ++ [frame])
  | .reset => .ok (explorer.reset, [])

/-- The calls in turn; the first that raises ends the run. -/
def callAll (explorer : CanExplorer) (ingested : List CanExplorerFrame) :
    List ExplorerCall → Except PyException (CanExplorer × List CanExplorerFrame)
  | [] => .ok (explorer, ingested)
  | call :: rest =>
    match explorer.call ingested call with
    | .error error => .error error
    | .ok (explorer', ingested') => explorer'.callAll ingested' rest

end CanExplorer

/-- The raw frames passed to `ingest` since the last reset, after those in `since`. -/
def framesSinceReset (since : List RawCanFrame) : List ExplorerCall → List RawCanFrame
  | [] => since
  | .ingest rawFrame :: rest => framesSinceReset (since ++ [rawFrame]) rest
  | .reset :: rest => framesSinceReset [] rest

namespace CanExplorer

/-- Every run returns, and what it leaves represents the frames since the last reset. -/
theorem Represents.callAll {explorer : CanExplorer} {ingested : List CanExplorerFrame}
    (h : explorer.Represents ingested) (hdecodes : explorer.decoder.DecodesSignals)
    (hcapacity : 0 < explorer.capacity) (calls : List ExplorerCall) :
    ∃ explorer' ingested', explorer.callAll ingested calls = .ok (explorer', ingested') ∧
      explorer'.Represents ingested' ∧ explorer'.capacity = explorer.capacity ∧
      explorer'.decoder = explorer.decoder ∧
      ingested'.map (·.rawFrame) = framesSinceReset (ingested.map (·.rawFrame)) calls := by
  induction calls generalizing explorer ingested with
  | nil => exact ⟨explorer, ingested, rfl, h, rfl, rfl, rfl⟩
  | cons call rest ih =>
    cases call with
    | reset =>
      obtain ⟨explorer', ingested', hrest, hrepresents, hcap, hdecoder, hframes⟩ :=
        ih (represents_fresh explorer.decoder explorer.capacity) hdecodes hcapacity
      exact ⟨explorer', ingested', hrest, hrepresents, hcap, hdecoder, hframes⟩
    | ingest rawFrame =>
      obtain ⟨frame, next, hingest⟩ := ingest_returns hdecodes rawFrame
      obtain ⟨hnext, hraw, hkept⟩ := h.ingest hcapacity hingest
      rw [← ingest_decoder hingest] at hdecodes
      rw [← hkept] at hcapacity
      obtain ⟨explorer', ingested', hrest, hrepresents, hcap, hdecoder, hframes⟩ :=
        ih hnext hdecodes hcapacity
      refine ⟨explorer', ingested', ?_, hrepresents, hcap.trans hkept,
        hdecoder.trans (ingest_decoder hingest), ?_⟩
      · simp only [CanExplorer.callAll, CanExplorer.call, hingest]
        exact hrest
      · rw [hframes, List.map_append, List.map_singleton, hraw]
        rfl

/-- What the observers say after ingesting `ingested` since the last reset. -/
structure Observes (explorer : CanExplorer) (capacity : ℕ) (ingested : List CanExplorerFrame) :
    Prop where
  frames : explorer.frames none = .ok (ingested.rtake capacity)
  length : (ingested.rtake capacity).length = min capacity ingested.length
  sequences : (ingested.rtake capacity).map (·.sequence) =
    (List.range ingested.length).rtake capacity
  messages : ∀ arbitrationId ∈ ingested.map (·.arbitrationId), ∃ statistic,
    explorer.messageStatistic arbitrationId = .ok statistic ∧
    statistic.arbitrationId = arbitrationId ∧
    statistic.totalFrameCount = (ofId arbitrationId ingested).length ∧
    statistic.retainedFrameCount = (ofId arbitrationId (ingested.rtake capacity)).length ∧
    (ofId arbitrationId ingested).head?.map (·.timestampMicroseconds) =
      some statistic.firstTimestampMicroseconds ∧
    (ofId arbitrationId ingested).getLast?.map
        (fun frame => (frame.timestampMicroseconds, frame.rawFrame.payloadLength)) =
      some (statistic.latestTimestampMicroseconds, statistic.latestDlc)
  retained : (explorer.messageStatistics.map (·.retainedFrameCount)).sum =
    explorer.statistics.retainedFrameCount
  ingests : ∀ rawFrame, ∃ frame explorer', explorer.ingest rawFrame = .ok (frame, explorer')

theorem Represents.observes {explorer : CanExplorer} {ingested : List CanExplorerFrame}
    (h : explorer.Represents ingested) (hdecodes : explorer.decoder.DecodesSignals) :
    explorer.Observes explorer.capacity ingested where
  frames := congrArg Except.ok h.buffered
  length := length_rtake _ _
  sequences := by
    rw [List.rtake, List.map_drop, h.sequences, List.rtake, List.length_range]
  messages := by
    intro arbitrationId hmem
    obtain ⟨counters, hget, hid, hcounts⟩ := h.messageStatistic hmem
    have hretained := hcounts.retained
    rw [h.buffered, hid] at hretained
    exact ⟨counters.freeze, hget, hid, hid ▸ hcounts.total, hretained, hid ▸ hcounts.first,
      hid ▸ hcounts.latest⟩
  retained := h.sum_retained
  ingests := ingest_returns hdecodes

/-- Any calls on a new explorer return, whatever its decoder does with the frames, and leave one whose
observers report exactly the frames since the last reset. -/
theorem observes_every_run (decoder : Decoder) (hdecodes : decoder.DecodesSignals) {capacity : ℕ}
    (hcapacity : 0 < capacity) (calls : List ExplorerCall) :
    ∃ created explorer ingested, create decoder capacity = .ok created ∧
      created.callAll [] calls = .ok (explorer, ingested) ∧
      ingested.map (·.rawFrame) = framesSinceReset [] calls ∧
      explorer.Observes capacity ingested ∧
      ∀ rawFrame error, decoder.decode rawFrame = .error error → error.cls.isCanDecodeError = true := by
  obtain ⟨explorer, ingested, hrun, hrepresents, hcap, hdecoder, hframes⟩ :=
    (represents_fresh decoder capacity).callAll hdecodes hcapacity calls
  have hobserves := hrepresents.observes (hdecoder ▸ hdecodes)
  rw [hcap] at hobserves
  exact ⟨fresh decoder capacity, explorer, ingested, if_neg (Nat.pos_iff_ne_zero.1 hcapacity), hrun,
    hframes, hobserves, fun _ _ herror => Decoder.decode_error_isCanDecodeError herror⟩

/-- A frame that no message describes, and one of a known message that is too short. -/
def undecodableCalls : List ExplorerCall :=
  [.ingest ⟨0x7FF, [1, 2], 10, by decide, by decide⟩, .ingest ⟨0x501, [1], 20, by decide, by decide⟩]

theorem single_frame_explorer_observes_undecodable_frames :
    ∃ explorer ingested,
      (fresh (packagedDecoder DbcMessage.intelDecode) 1).callAll [] undecodableCalls =
        .ok (explorer, ingested) ∧
      ingested.map (·.decodeStatus) = [.unknown, .error] ∧ explorer.Observes 1 ingested := by
  obtain ⟨created, explorer, ingested, hcreate, hrun, -, hobserves, -⟩ :=
    observes_every_run (packagedDecoder DbcMessage.intelDecode) packagedDecoder_decodesSignals
      Nat.one_pos undecodableCalls
  cases hcreate
  have hstatus : ((fresh (packagedDecoder DbcMessage.intelDecode) 1).callAll []
      undecodableCalls).toOption.map (fun outcome => outcome.2.map (·.decodeStatus)) =
        some [.unknown, .error] := by decide +kernel
  rw [hrun] at hstatus
  exact ⟨explorer, ingested, hrun, Option.some.inj hstatus, hobserves⟩

end CanExplorer

end TunerOs
