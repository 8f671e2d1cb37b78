-- SUMMARY: The chart history of one signal over a stream of updates: which points survive, and when every interval keeps one.
import TunerOs.Frontend.TelemetryState
import TunerOs.Lib.Thinning

/-!
# Chart histories

`appendChartPoint` thins a signal's points: it compares a sample with the newest point,
whose time moves with every sample that replaces it. A history is therefore decided by
the gaps between consecutive samples, not by the intervals the samples lie in.
-/

namespace TunerOs

open Containers

def selectHistory (state : TelemetryClientState) (key : SignalKey) : List ChartPoint :=
  (state.histories.get? (signalKeyId key)).getD []

/-- The point a numeric sample becomes. -/
def chartPoint (sample : SignalSampleResponse) : Option ChartPoint :=
  match sample.value with
  | .number value => some ⟨sample.timestampMicroseconds, value⟩
  | .boolean _ => none

/-- The points of one signal that a list of samples carries. -/
def chartPoints (key : SignalKey) (samples : List SignalSampleResponse) : List ChartPoint :=
  (samples.filter (fun sample => signalKeyId sample.key = signalKeyId key)).filterMap chartPoint

/-- Thinning with the chart's spacing and capacity. -/
def thinChart (history : List ChartPoint) (point : ChartPoint) : List ChartPoint :=
  thin ChartPoint.timestampMicroseconds 50000 chartHistoryCapacity history point

/-- Appending a sample thins the history by its point, if it has one. -/
theorem appendChartPoint_eq (history : List ChartPoint) (sample : SignalSampleResponse) :
    appendChartPoint history sample = ((chartPoint sample).map (thinChart history)).getD history := by
  unfold appendChartPoint chartPoint
  cases sample.value with
  | boolean value => rfl
  | number value =>
    simp only [Option.map_some, Option.getD_some, thinChart, thin]
    cases history.getLast? with
    | none => rfl
    | some previous =>
      have hspacing : (sample.timestampMicroseconds : ℤ) - previous.timestampMicroseconds ≥
          chartSampleIntervalMicroseconds ↔
            previous.timestampMicroseconds + 50000 ≤ sample.timestampMicroseconds := by
        unfold chartSampleIntervalMicroseconds
        omega
      simp only [hspacing]

theorem chartPoints_cons (key : SignalKey) (sample : SignalSampleResponse)
    (rest : List SignalSampleResponse) :
    chartPoints key (sample :: rest) =
      (if signalKeyId sample.key = signalKeyId key then (chartPoint sample).toList else []) ++
        chartPoints key rest := by
  unfold chartPoints
  by_cases hkey : signalKeyId sample.key = signalKeyId key
  · rw [List.filter_cons_of_pos (by simpa using hkey), if_pos hkey, List.filterMap_cons]
    cases chartPoint sample <;> rfl
  · rw [List.filter_cons_of_neg (by simpa using hkey), if_neg hkey, List.nil_append]

/-- The loop over an update's signals thins each history by the update's points. -/
theorem get?_appendHistories (key : SignalKey) (signals : List SignalSampleResponse)
    (histories : Dict String (List ChartPoint)) :
    ((appendHistories histories signals).get? (signalKeyId key)).getD [] =
      (chartPoints key signals).foldl thinChart ((histories.get? (signalKeyId key)).getD []) := by
  induction signals generalizing histories with
  | nil => rfl
  | cons sample rest ih =>
    rw [appendHistories, List.foldl_cons, ← appendHistories, ih, Dict.get?_set, chartPoints_cons,
      List.foldl_append]
    by_cases hkey : signalKeyId key = signalKeyId sample.key
    · rw [if_pos hkey, if_pos hkey.symm, Option.getD_some, appendChartPoint_eq, ← hkey]
      cases chartPoint sample <;> rfl
    · rw [if_neg hkey, if_neg (Ne.symm hkey), List.foldl_nil]

/-! ## Streams of updates -/

/-- The updates come in order: each has a higher sequence than the one before, and the first one
is not ignored. -/
structure InSequence (latest : Option ℕ) (updates : List TelemetryUpdateEventResponse) : Prop where
  first : ∀ update ∈ updates.head?, ∀ sequence, latest = some sequence →
    sequence < update.frameSequence
  ordered : updates.IsChain (fun a b => a.frameSequence < b.frameSequence)

/-- A client that has accepted no frame takes any first one. -/
theorem inSequence_none {updates : List TelemetryUpdateEventResponse}
    (h : updates.IsChain (fun a b => a.frameSequence < b.frameSequence)) :
    InSequence none updates :=
  ⟨fun _ _ _ hlatest => absurd hlatest (Option.some_ne_none _).symm, h⟩

/-- The points of one signal in a stream of updates. -/
def streamPoints (key : SignalKey) (updates : List TelemetryUpdateEventResponse) : List ChartPoint :=
  updates.flatMap (fun update => chartPoints key update.signals)

theorem streamPoints_cons (key : SignalKey) (update : TelemetryUpdateEventResponse)
    (rest : List TelemetryUpdateEventResponse) :
    streamPoints key (update :: rest) = chartPoints key update.signals ++ streamPoints key rest :=
  List.flatMap_cons

theorem applyUpdate_of_first {state : TelemetryClientState} {update : TelemetryUpdateEventResponse}
    (h : ∀ sequence, state.lastFrameSequence = some sequence → sequence < update.frameSequence) :
    applyUpdate state update = acceptUpdate state update := by
  unfold applyUpdate
  cases hlatest : state.lastFrameSequence with
  | none => rfl
  | some latest => exact if_neg (not_le.2 (h latest hlatest))

/-- A stream in order thins the history by its points. -/
theorem selectHistory_updates (key : SignalKey) {updates : List TelemetryUpdateEventResponse}
    {state : TelemetryClientState} (h : InSequence state.lastFrameSequence updates) :
    selectHistory (updates.foldl applyUpdate state) key =
      (streamPoints key updates).foldl thinChart (selectHistory state key) := by
  induction updates generalizing state with
  | nil => rfl
  | cons update rest ih =>
    obtain ⟨hhead, hrest⟩ := List.isChain_cons.1 h.ordered
    have hnext : InSequence (acceptUpdate state update).lastFrameSequence rest := by
      refine ⟨fun next hnext sequence hsequence => ?_, hrest⟩
      cases hsequence
      exact hhead next hnext
    rw [List.foldl_cons, applyUpdate_of_first (h.first update rfl), ih hnext, streamPoints_cons,
      List.foldl_append]
    exact congrArg (fun history => (streamPoints key rest).foldl thinChart history)
      (get?_appendHistories key update.signals state.histories)

/-- How the updates were batched does not matter. -/
theorem foldl_updates (batches : List (List TelemetryUpdateEventResponse))
    (state : TelemetryClientState) :
    (batches.map TelemetryAction.updates).foldl telemetryReducer state =
      batches.flatten.foldl applyUpdate state := by
  induction batches generalizing state with
  | nil => rfl
  | cons batch rest ih =>
    rw [List.map_cons, List.foldl_cons, ih, List.flatten_cons, List.foldl_append]
    rfl

/-! ## Intervals -/

/-- The interval of 50,000 microseconds since `start` that a point lies in. -/
def intervalOf (start : ℕ) (point : ChartPoint) : ℕ := (point.timestampMicroseconds - start) / 50000

/-- How many intervals hold a point. -/
def occupiedIntervals (start : ℕ) (points : List ChartPoint) : ℕ :=
  (points.map (intervalOf start)).dedup.length

/-- How many points come at least an interval after the point before them. -/
def wideGaps (points : List ChartPoint) : ℕ :=
  countSteps (fun a b : ChartPoint => a.timestampMicroseconds + 50000 ≤ b.timestampMicroseconds) points

/-- A point in another interval than the point before it comes at least an interval after it. -/
def SpacedIntervals (start : ℕ) (points : List ChartPoint) : Prop :=
  points.IsChain (fun a b => intervalOf start a ≠ intervalOf start b →
    a.timestampMicroseconds + 50000 ≤ b.timestampMicroseconds)

/-- Each wide gap opens an interval, so the intervals are at most as many as the gaps and one,
exactly if no narrower gap crosses into another. -/
theorem occupiedIntervals_le_iff {start : ℕ} {points : List ChartPoint}
    (hsorted : points.IsChain (fun a b => a.timestampMicroseconds ≤ b.timestampMicroseconds))
    (hstart : ∀ point ∈ points, start ≤ point.timestampMicroseconds) (hne : points ≠ []) :
    occupiedIntervals start points ≤ wideGaps points + 1 ↔ SpacedIntervals start points := by
  have hslots : points.IsChain (fun a b => intervalOf start a ≤ intervalOf start b) :=
    hsorted.imp fun a b hle => Nat.div_le_div_right (Nat.sub_le_sub_right hle start)
  have hopens : points.IsChain (fun a b : ChartPoint =>
      a.timestampMicroseconds + 50000 ≤ b.timestampMicroseconds →
        intervalOf start a ≠ intervalOf start b) := by
    refine hsorted.imp_of_mem_imp fun a b ha hb _ hwide => ?_
    have ha := hstart a ha
    unfold intervalOf
    omega
  rw [occupiedIntervals, length_dedup_map hslots hne, Nat.add_le_add_iff_right]
  exact le_countSteps_iff hopens

/-- Over every stream of updates in order to a client without points of the signal: the history
ends with the newest point, increases in time and has at most 180 points. It keeps a point for
each of the last 180 occupied intervals exactly if 179 points came at least an interval after
the point before them, or every point in another interval than the one before it did. -/
theorem chart_keeps_intervals_iff (start : TelemetryClientState) (key : SignalKey)
    (hempty : selectHistory start key = []) (batches : List (List TelemetryUpdateEventResponse))
    (horder : InSequence start.lastFrameSequence batches.flatten) (first : ChartPoint)
    (rest : List ChartPoint) (hpoints : streamPoints key batches.flatten = first :: rest)
    (hsorted : (first :: rest).IsChain
      (fun a b => a.timestampMicroseconds ≤ b.timestampMicroseconds)) :
    let history := selectHistory
      ((batches.map TelemetryAction.updates).foldl telemetryReducer start) key
    (history.getLast? = (first :: rest).getLast? ∧
      history.Pairwise (fun a b => a.timestampMicroseconds < b.timestampMicroseconds) ∧
      history.length ≤ 180) ∧
    (min 180 (occupiedIntervals first.timestampMicroseconds (first :: rest)) ≤ history.length ↔
      179 ≤ wideGaps (first :: rest) ∨
        SpacedIntervals first.timestampMicroseconds (first :: rest)) := by
  intro history
  have hne : first :: rest ≠ [] := List.cons_ne_nil _ _
  have hhistory : history = (first :: rest).foldl thinChart [] := by
    rw [← hpoints, ← hempty, ← selectHistory_updates key horder, ← foldl_updates]
  have hthinned := @thinned_foldl _ ChartPoint.timestampMicroseconds 50000 chartHistoryCapacity
    (first :: rest) (by decide) (by decide) hsorted hne
  change Thinned _ _ _ _ ((first :: rest).foldl thinChart []) at hthinned
  rw [← hhistory] at hthinned
  have hlength : history.length = min 180 (wideGaps (first :: rest) + 1) := hthinned.length
  have hstart : ∀ point ∈ first :: rest,
      first.timestampMicroseconds ≤ point.timestampMicroseconds := by
    have hmono := List.isChain_iff_pairwise.1
      ((List.isChain_map ChartPoint.timestampMicroseconds).2 hsorted)
    intro point hmem
    rcases List.mem_cons.1 hmem with rfl | htail
    · exact le_rfl
    · exact List.rel_of_pairwise_cons hmono (List.mem_map_of_mem htail)
  refine ⟨⟨hthinned.last, hthinned.increasing, ?_⟩, ?_⟩
  · rw [hlength]
    exact min_le_left _ _
  · rw [hlength, ← occupiedIntervals_le_iff hsorted hstart hne]
    omega

/-- One update with one engine-speed sample. -/
def speedUpdate (sequence timestamp : ℕ) : TelemetryUpdateEventResponse where
  timestampMicroseconds := timestamp
  frameSequence := sequence
  arbitrationId := 1280
  arbitrationIdHex := "0x500"
  messageName := "DmeFastEngine"
  sourceEcu := "TunerOsSimulatedDme"
  signals := [⟨⟨"DmeFastEngine", "EngineSpeedRpm"⟩, .number 750, timestamp, sequence, 1280, "0x500",
    "DmeFastEngine", "TunerOsSimulatedDme", "rpm", some .fresh⟩]

def speedKey : SignalKey := ⟨"DmeFastEngine", "EngineSpeedRpm"⟩

/-- Samples 50 ms apart all stay. -/
theorem fifty_millisecond_samples_stay :
    min 180 (occupiedIntervals 0 [⟨0, 750⟩, ⟨50000, 750⟩, ⟨100000, 750⟩]) ≤
      (selectHistory ([TelemetryAction.updates [speedUpdate 0 0, speedUpdate 1 50000],
        .updates [speedUpdate 2 100000]].foldl telemetryReducer initialTelemetryState)
          speedKey).length := by
  refine (chart_keeps_intervals_iff initialTelemetryState speedKey rfl
    [[speedUpdate 0 0, speedUpdate 1 50000], [speedUpdate 2 100000]]
    (inSequence_none (by decide)) ⟨0, 750⟩ [⟨50000, 750⟩, ⟨100000, 750⟩] rfl
    (by decide)).2.2 (.inr ?_)
  unfold SpacedIntervals
  decide

/-- Samples 30 ms apart lie in two intervals, of which one point is left. -/
theorem thirty_millisecond_samples_erase_history :
    streamPoints speedKey [speedUpdate 0 0, speedUpdate 1 30000, speedUpdate 2 60000] =
        [⟨0, 750⟩, ⟨30000, 750⟩, ⟨60000, 750⟩] ∧
      InSequence initialTelemetryState.lastFrameSequence
        [speedUpdate 0 0, speedUpdate 1 30000, speedUpdate 2 60000] ∧
      occupiedIntervals 0 [⟨0, 750⟩, ⟨30000, 750⟩, ⟨60000, 750⟩] = 2 ∧
      selectHistory ([TelemetryAction.updates [speedUpdate 0 0, speedUpdate 1 30000,
        speedUpdate 2 60000]].foldl telemetryReducer initialTelemetryState) speedKey =
          [⟨60000, 750⟩] ∧
      ¬ min 180 (occupiedIntervals 0 [⟨0, 750⟩, ⟨30000, 750⟩, ⟨60000, 750⟩]) ≤
        (selectHistory ([TelemetryAction.updates [speedUpdate 0 0, speedUpdate 1 30000,
          speedUpdate 2 60000]].foldl telemetryReducer initialTelemetryState) speedKey).length := by
  exact ⟨rfl, inSequence_none (by decide), by decide, rfl, by decide⟩

end TunerOs
