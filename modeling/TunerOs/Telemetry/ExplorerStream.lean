-- SUMMARY: Runs of a source through the CAN explorer: the updates it publishes, and whose counters each of them changes.
import TunerOs.Can.ExplorerInvariant
import TunerOs.Telemetry.Pipeline

/-!
# The raw CAN stream

Each raw frame of a source is ingested by the explorer and published with the
explorer's statistics and those of the frame's ID. An ingest changes the counters of
the arriving frame's ID and of the ID of the frame it evicts, and no others.
-/

namespace TunerOs

open Containers

/-- `_ingest_can_explorer` on each of the frames in turn, and the updates it returns. -/
def Pipeline.exploreAll (pipeline : Pipeline) :
    List RawCanFrame → Except PyException (List CanExplorerUpdate × Pipeline)
  | [] => .ok ([], pipeline)
  | rawFrame :: rest =>
    match pipeline.ingestCanExplorer rawFrame with
    | (.error error, _) => .error error
    | (.ok update, next) =>
      match next.exploreAll rest with
      | .error error => .error error
      | .ok (updates, last) => .ok (update :: updates, last)

/-- In a run that ingested the frames `run`, the ingest of this update changed the counters of the
ID: the frame is of the ID, or the frame it evicted is. -/
def CanExplorerUpdate.Touches (capacity : ℕ) (run : List CanExplorerFrame)
    (update : CanExplorerUpdate) (arbitrationId : ℕ) : Prop :=
  update.frame.arbitrationId = arbitrationId ∨
    ∃ evicted ∈ run, evicted.sequence + capacity = update.frame.sequence ∧
      evicted.arbitrationId = arbitrationId

namespace CanExplorer

/-- The oldest frame in the buffer is the one that many before the next. -/
theorem Represents.sequence_head {explorer : CanExplorer} {ingested : List CanExplorerFrame}
    (h : explorer.Represents ingested) {first : CanExplorerFrame} {rest : List CanExplorerFrame}
    (hitems : explorer.buffer.items = first :: rest) :
    first.sequence = ingested.length - explorer.capacity := by
  have hnumbers : (first :: rest).map (·.sequence) =
      (List.range ingested.length).drop (ingested.length - explorer.capacity) := by
    rw [← hitems, h.buffered, List.rtake, List.map_drop, h.sequences]
    rfl
  have hhead := congrArg List.head? hnumbers
  rw [List.map_cons, List.head?_cons, List.head?_drop] at hhead
  obtain ⟨hlt, hget⟩ := List.getElem?_eq_some_iff.1 hhead.symm
  rw [List.getElem_range] at hget
  exact hget.symm

/-- Without an eviction of the ID and without an arrival, its counters stay. -/
theorem Represents.untouched {explorer explorer' : CanExplorer} {ingested : List CanExplorerFrame}
    (h : explorer.Represents ingested) {rawFrame : RawCanFrame} {frame : CanExplorerFrame}
    (hingest : explorer.ingest rawFrame = .ok (frame, explorer'))
    {arbitrationId : ℕ} (harrived : frame.arbitrationId ≠ arbitrationId)
    (hevicted : ∀ evicted ∈ ingested, evicted.sequence + explorer.capacity = frame.sequence →
      evicted.arbitrationId ≠ arbitrationId) :
    explorer'.messages.get? arbitrationId = explorer.messages.get? arbitrationId := by
  obtain ⟨metadata, hsequence, -, rfl⟩ := ingest_writes hingest
  have hupdate : (updateMessage explorer.evict frame.rawFrame metadata).get? arbitrationId =
      explorer.evict.get? arbitrationId := by
    unfold updateMessage
    split <;> exact Dict.get?_set_of_ne _ _ (Ne.symm harrived)
  refine hupdate.trans ?_
  unfold CanExplorer.evict
  split
  · rename_i hfull
    cases hitems : explorer.buffer.items with
    | nil => rfl
    | cons evicted kept =>
      have hmem : evicted ∈ ingested := by
        refine List.mem_of_mem_drop (i := ingested.length - explorer.buffer.maxlen) ?_
        rw [← List.rtake, ← h.buffered, hitems]
        exact List.mem_cons_self
      have hnumber : evicted.sequence + explorer.capacity = frame.sequence := by
        rw [h.sequence_head hitems, hsequence, h.next, Nat.sub_add_cancel]
        rw [← hfull, h.buffered, length_rtake]
        exact min_le_right _ _
      have hother := hevicted evicted hmem hnumber
      simp only [List.head?_cons]
      split
      · rfl
      · exact Dict.get?_set_of_ne _ _ (Ne.symm hother)
  · rfl

/-- One ingest of a run, with the update it publishes. -/
structure Explored (ingested : List CanExplorerFrame) (explorer : CanExplorer)
    (update : CanExplorerUpdate) (explorer' : CanExplorer) : Prop where
  represents : explorer'.Represents (ingested ++ [update.frame])
  capacity : explorer'.capacity = explorer.capacity
  sequence : update.frame.sequence = ingested.length
  statistics : update.statistics = explorer'.statistics
  statistic : explorer'.messageStatistic update.frame.arbitrationId = .ok update.messageStatistics
  untouched : ∀ run arbitrationId, ingested ⊆ run →
    ¬ update.Touches explorer.capacity run arbitrationId →
      explorer'.messages.get? arbitrationId = explorer.messages.get? arbitrationId

/-- A run of ingests, with the updates they publish. -/
inductive ExploredAll :
    List CanExplorerFrame → CanExplorer → List CanExplorerUpdate → CanExplorer → Prop where
  | nil {ingested : List CanExplorerFrame} {explorer : CanExplorer} :
    ExploredAll ingested explorer [] explorer
  | cons {ingested : List CanExplorerFrame} {explorer next last : CanExplorer}
    {update : CanExplorerUpdate} {rest : List CanExplorerUpdate} :
    Explored ingested explorer update next → ExploredAll (ingested ++ [update.frame]) next rest last →
      ExploredAll ingested explorer (update :: rest) last

namespace ExploredAll

variable {ingested : List CanExplorerFrame} {explorer last : CanExplorer}
  {updates : List CanExplorerUpdate}

theorem eq_of_nil (h : ExploredAll ingested explorer [] last) : last = explorer := by
  cases h
  rfl

theorem represents (h : ExploredAll ingested explorer updates last)
    (hstart : explorer.Represents ingested) :
    last.Represents (ingested ++ updates.map (·.frame)) := by
  induction h with
  | nil => rwa [List.map_nil, List.append_nil]
  | cons hfirst _ ih =>
    have hrest := ih hfirst.represents
    rwa [List.append_assoc, List.singleton_append] at hrest

theorem capacity (h : ExploredAll ingested explorer updates last) :
    last.capacity = explorer.capacity := by
  induction h with
  | nil => rfl
  | cons hfirst _ ih => exact ih.trans hfirst.capacity

/-- Updates are numbered from the frames ingested before on. -/
theorem sequences (h : ExploredAll ingested explorer updates last) :
    updates.map (·.frame.sequence) = List.range' ingested.length updates.length := by
  induction h with
  | nil => rfl
  | cons hfirst _ ih =>
    rw [List.map_cons, ih, List.length_cons, List.range'_succ, hfirst.sequence, List.length_append,
      List.length_singleton]

/-- Counters that no ingest of the run touches stay. -/
theorem untouched (h : ExploredAll ingested explorer updates last) {run : List CanExplorerFrame}
    (hrun : ingested ++ updates.map (·.frame) ⊆ run) {arbitrationId : ℕ}
    (hquiet : ∀ update ∈ updates, ¬ update.Touches explorer.capacity run arbitrationId) :
    last.messages.get? arbitrationId = explorer.messages.get? arbitrationId := by
  induction h with
  | nil => rfl
  | cons hfirst _ ih =>
    rename_i update _ _
    have hstart := hfirst.untouched run arbitrationId
      (List.Subset.trans (List.subset_append_left _ _) hrun) (hquiet update List.mem_cons_self)
    rw [← hstart]
    refine ih ?_ ?_
    · rwa [List.append_assoc, List.singleton_append]
    · rw [hfirst.capacity]
      exact fun later hmem => hquiet later (List.mem_cons_of_mem _ hmem)

/-- The state right after one of the updates. -/
theorem split {before after : List CanExplorerUpdate} {update : CanExplorerUpdate}
    (h : ExploredAll ingested explorer (before ++ update :: after) last) :
    ∃ middle, middle.capacity = explorer.capacity ∧
      middle.messageStatistic update.frame.arbitrationId = .ok update.messageStatistics ∧
      ExploredAll (ingested ++ before.map (·.frame) ++ [update.frame]) middle after last := by
  induction before generalizing ingested explorer with
  | nil =>
    cases h with
    | cons hfirst hrest =>
      refine ⟨_, hfirst.capacity, hfirst.statistic, ?_⟩
      rwa [List.map_nil, List.append_nil]
  | cons first before ih =>
    cases h with
    | cons hfirst hrest =>
      obtain ⟨middle, hcapacity, hstatistic, hafter⟩ := ih hrest
      refine ⟨middle, hcapacity.trans hfirst.capacity, hstatistic, ?_⟩
      rwa [List.append_assoc ingested, List.singleton_append] at hafter

/-- An update carries the sequence of its frame and the statistic of its ID. -/
theorem update_coherent {before after : List CanExplorerUpdate} {update : CanExplorerUpdate}
    (h : ExploredAll ingested explorer (before ++ update :: after) last)
    (hstart : explorer.Represents ingested) :
    update.statistics.lastSequence = some update.frame.sequence ∧
      update.messageStatistics.arbitrationId = update.frame.arbitrationId := by
  induction before generalizing ingested explorer with
  | nil =>
    cases h with
    | cons hfirst hrest =>
      have hnext := hfirst.represents.next
      rw [List.length_append, List.length_singleton] at hnext
      constructor
      · rw [hfirst.statistics, hfirst.sequence, CanExplorer.statistics, hnext,
          if_neg (Nat.succ_ne_zero _), Nat.add_sub_cancel]
      · have hmem : update.frame.arbitrationId ∈
            (ingested ++ [update.frame]).map (·.arbitrationId) :=
          List.mem_map_of_mem (List.mem_append_right _ List.mem_cons_self)
        obtain ⟨counters, hstatistic, hid, -⟩ := hfirst.represents.messageStatistic hmem
        rw [hfirst.statistic] at hstatistic
        rw [Except.ok.inj hstatistic]
        exact hid
  | cons first before ih =>
    cases h with
    | cons hfirst hrest => exact ih hrest hfirst.represents

/-- The newest update carries the statistics of the explorer at the end. -/
theorem statistics {update : CanExplorerUpdate} (h : ExploredAll ingested explorer updates last)
    (hnewest : updates.getLast? = some update) : update.statistics = last.statistics := by
  induction h with
  | nil => cases hnewest
  | cons hfirst hrest ih =>
    cases hrest with
    | nil =>
      cases hnewest
      exact hfirst.statistics
    | cons _ _ => exact ih hnewest

end ExploredAll

end CanExplorer

namespace Pipeline

theorem ingestCanExplorer_explored {pipeline : Pipeline} {ingested : List CanExplorerFrame}
    (h : pipeline.explorer.Represents ingested)
    (hdecodes : pipeline.explorer.decoder.DecodesSignals)
    (hcapacity : 0 < pipeline.explorer.capacity) (rawFrame : RawCanFrame) :
    ∃ update next, pipeline.ingestCanExplorer rawFrame = (.ok update, next) ∧
      CanExplorer.Explored ingested pipeline.explorer update next.explorer ∧
      update.frame.rawFrame = rawFrame ∧
      next.explorer.decoder = pipeline.explorer.decoder := by
  obtain ⟨frame, explorer, hingest⟩ := CanExplorer.ingest_returns hdecodes rawFrame
  obtain ⟨hnext, hraw, hkept⟩ := h.ingest hcapacity hingest
  obtain ⟨statistic, hstatistic⟩ := CanExplorer.messageStatistic_of_ingest hingest
  obtain ⟨-, hsequence, -⟩ := CanExplorer.ingest_writes hingest
  refine ⟨⟨frame, explorer.statistics, statistic⟩, { pipeline with explorer }, ?_, ?_, hraw,
    CanExplorer.ingest_decoder hingest⟩
  · simp only [ingestCanExplorer, hingest, hstatistic]
  · refine ⟨hnext, hkept, hsequence.trans h.next, rfl, ?_, ?_⟩
    · rw [← hraw] at hstatistic
      exact hstatistic
    · intro run arbitrationId hrun hquiet
      refine h.untouched hingest (fun hid => hquiet (Or.inl hid)) ?_
      exact fun evicted hmem hnumber hid => hquiet (Or.inr ⟨evicted, hrun hmem, hnumber, hid⟩)

/-- Every run of a source is explored to its end. -/
theorem exploreAll_explored {pipeline : Pipeline} {ingested : List CanExplorerFrame}
    (h : pipeline.explorer.Represents ingested)
    (hdecodes : pipeline.explorer.decoder.DecodesSignals)
    (hcapacity : 0 < pipeline.explorer.capacity) (rawFrames : List RawCanFrame) :
    ∃ updates last, pipeline.exploreAll rawFrames = .ok (updates, last) ∧
      CanExplorer.ExploredAll ingested pipeline.explorer updates last.explorer ∧
      updates.map (·.frame.rawFrame) = rawFrames ∧
      last.explorer.decoder = pipeline.explorer.decoder := by
  induction rawFrames generalizing pipeline ingested with
  | nil => exact ⟨[], pipeline, rfl, .nil, rfl, rfl⟩
  | cons rawFrame rest ih =>
    obtain ⟨update, next, hingest, hexplored, hraw, hdecoder⟩ :=
      ingestCanExplorer_explored h hdecodes hcapacity rawFrame
    obtain ⟨updates, last, hrest, hall, hraws, hlast⟩ := ih hexplored.represents
      (hdecoder ▸ hdecodes) (hexplored.capacity ▸ hcapacity)
    refine ⟨update :: updates, last, ?_, .cons hexplored hall, ?_, hlast.trans hdecoder⟩
    · simp only [exploreAll, hingest, hrest]
    · rw [List.map_cons, hraw, hraws]

end Pipeline

end TunerOs
