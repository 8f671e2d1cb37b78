-- SUMMARY: What an investigation collects: the numbered frames of its window, the series, and the samples its window starts with.
import TunerOs.Can.ExplorerInvariant
import TunerOs.Investigation.CenterState
import TunerOs.Lib.Timeline
import TunerOs.Telemetry.EngineRuns

/-!
# Evidence of the window

The samples of a session are what its decoder gives for its frames, each numbered by
the place of its frame. The loop collects them from components that count frames by
themselves; those counts are the places because every frame before the end of the
window was accepted.
-/

namespace TunerOs

open Containers Pipeline

/-! ## The samples of a session -/

/-- The samples of a frame at its place in a session; a frame the decoder refuses has none. -/
def frameSamples (decoder : Decoder) (catalog : SignalCatalog) (entry : RawCanFrame × ℕ) :
    List SignalSample :=
  match decoder.decode entry.1 with
  | .error _ => []
  | .ok decoded =>
    match catalog.definitionsForFrame decoded with
    | .error _ => []
    | .ok definitions =>
      List.zipWith (TelemetryEngine.sampleOf decoded entry.2) definitions decoded.signals.values

/-- The samples of a session, in order. -/
def artifactSamples (decoder : Decoder) (catalog : SignalCatalog) (frames : List RawCanFrame) :
    List SignalSample :=
  frames.zipIdx.flatMap (frameSamples decoder catalog)

section Samples

variable {decoder : Decoder} {catalog : SignalCatalog} {frames seen : List RawCanFrame}
  {frame : RawCanFrame}

theorem frameSamples_timestamp {entry : RawCanFrame × ℕ} {sample : SignalSample}
    (hmem : sample ∈ frameSamples decoder catalog entry) :
    sample.timestampMicroseconds = entry.1.timestampMicroseconds := by
  unfold frameSamples at hmem
  split at hmem
  · cases hmem
  · rename_i decoded hdecode
    split at hmem
    · cases hmem
    · rw [(TelemetryEngine.mem_samples hmem).1]
      exact Decoder.decode_timestamp hdecode

theorem artifactSamples_snoc :
    artifactSamples decoder catalog (seen ++ [frame]) =
      artifactSamples decoder catalog seen ++
        frameSamples decoder catalog (frame, seen.length) := by
  rw [artifactSamples, List.zipIdx_append, List.flatMap_append, Nat.zero_add]
  simp only [List.zipIdx_singleton, List.flatMap_singleton]
  rfl

/-- Frames in order have samples in order. -/
theorem artifactSamples_sorted (hordered : InOrder frames) :
    (artifactSamples decoder catalog frames).Pairwise
      (fun a b => a.timestampMicroseconds ≤ b.timestampMicroseconds) := by
  rw [artifactSamples, List.pairwise_flatMap]
  constructor
  · intro entry _
    refine List.pairwise_of_forall_mem_list ?_
    intro a ha b hb
    rw [frameSamples_timestamp ha, frameSamples_timestamp hb]
  · have hentries : frames.zipIdx.Pairwise
        (fun a b => a.1.timestampMicroseconds ≤ b.1.timestampMicroseconds) := by
      have hframes := List.isChain_iff_pairwise.1 hordered
      rw [← List.zipIdx_map_fst 0 frames, List.pairwise_map] at hframes
      exact hframes
    refine hentries.imp ?_
    intro earlier later hle a ha b hb
    rw [frameSamples_timestamp ha, frameSamples_timestamp hb]
    exact hle

/-- A test of samples by their time passes all samples of a frame or none. -/
theorem filter_frameSamples {p : ℕ → Bool} {entry : RawCanFrame × ℕ} :
    (frameSamples decoder catalog entry).filter (fun sample => p sample.timestampMicroseconds) =
      if p entry.1.timestampMicroseconds then frameSamples decoder catalog entry else [] := by
  split
  · rename_i hpass
    refine List.filter_eq_self.2 fun sample hmem => ?_
    rwa [frameSamples_timestamp hmem]
  · rename_i hfail
    refine List.filter_eq_nil_iff.2 fun sample hmem => ?_
    rwa [frameSamples_timestamp hmem]

end Samples

/-- The samples of one signal that pass a test of their time. -/
def signalSamples (key : SignalKey) (p : ℕ → Bool) (samples : List SignalSample) :
    List SignalSample :=
  (samplesOf key samples).filter (fun sample => p sample.timestampMicroseconds)

theorem signalSamples_snoc {decoder : Decoder} {catalog : SignalCatalog}
    {seen : List RawCanFrame} {frame : RawCanFrame} {key : SignalKey} {p : ℕ → Bool} :
    signalSamples key p (artifactSamples decoder catalog (seen ++ [frame])) =
      signalSamples key p (artifactSamples decoder catalog seen) ++
        if p frame.timestampMicroseconds then
          samplesOf key (frameSamples decoder catalog (frame, seen.length))
        else [] := by
  rw [signalSamples, artifactSamples_snoc, samplesOf_append, List.filter_append]
  congr 1
  rw [samplesOf, List.filter_comm, filter_frameSamples]
  split <;> rfl

/-! ## Cutting a session -/

section Cut

variable {decoder : Decoder} {catalog : SignalCatalog} {frames : List RawCanFrame} {bound : ℕ}

/-- Frames in order that are cut at a bound keep their places. -/
theorem zipIdx_framesUpTo (hordered : InOrder frames) :
    (framesUpTo bound frames).zipIdx =
      frames.zipIdx.filter (fun entry => entry.1.timestampMicroseconds ≤ bound) := by
  induction frames using List.reverseRecOn with
  | nil => rfl
  | append_singleton seen frame ih =>
    obtain ⟨hseen, -, hlast⟩ := List.pairwise_append.1 (List.isChain_iff_pairwise.1 hordered)
    rw [List.zipIdx_append, Nat.zero_add, List.zipIdx_singleton, List.filter_append,
      List.filter_singleton, ← ih (List.isChain_iff_pairwise.2 hseen)]
    by_cases hle : frame.timestampMicroseconds ≤ bound
    · have hall := framesUpTo_eq_self fun earlier hmem =>
        (hlast earlier hmem frame List.mem_cons_self).trans hle
      rw [framesUpTo_snoc_of_le hle, hall, List.zipIdx_append, Nat.zero_add,
        List.zipIdx_singleton, decide_eq_true hle, cond_true]
    · rw [framesUpTo_snoc_of_lt (not_le.1 hle), decide_eq_false hle, cond_false, List.append_nil]

/-- Cutting frames in order cuts their samples. -/
theorem artifactSamples_framesUpTo (hordered : InOrder frames) :
    artifactSamples decoder catalog (framesUpTo bound frames) =
      Timeline.upTo (·.timestampMicroseconds) bound (artifactSamples decoder catalog frames) := by
  induction frames using List.reverseRecOn with
  | nil => rfl
  | append_singleton seen frame ih =>
    obtain ⟨hseen, -, hlast⟩ := List.pairwise_append.1 (List.isChain_iff_pairwise.1 hordered)
    have ih := ih (List.isChain_iff_pairwise.2 hseen)
    rw [Timeline.upTo, artifactSamples_snoc, List.filter_append,
      filter_frameSamples (p := (· ≤ bound)), ← Timeline.upTo, ← ih]
    by_cases hle : frame.timestampMicroseconds ≤ bound
    · have hall := framesUpTo_eq_self fun earlier hmem =>
        (hlast earlier hmem frame List.mem_cons_self).trans hle
      rw [framesUpTo_snoc_of_le hle, hall, artifactSamples_snoc, if_pos (decide_eq_true hle)]
    · rw [framesUpTo_snoc_of_lt (not_le.1 hle), if_neg (by simpa using hle), List.append_nil]

end Cut

/-! ## Collecting -/

namespace Pipeline

/-- The components have accepted `count` frames. -/
structure At (decoder : Decoder) (catalog : SignalCatalog) (count : ℕ) (pipeline : Pipeline) :
    Prop where
  decoder : pipeline.decoder = decoder
  catalog : pipeline.telemetry.catalog = catalog
  accepted : pipeline.telemetry.nextFrameSequence = count
  explored : pipeline.explorer.nextSequence = count

/-- A replayed frame has the number and the samples of its place. -/
theorem At.replay {decoder : Decoder} {catalog : SignalCatalog} {count : ℕ}
    {pipeline next : Pipeline} (h : pipeline.At decoder catalog count) {frame : RawCanFrame}
    {replayed : ReplayedFrame} (hreplay : pipeline.replay frame = .ok (replayed, next)) :
    next.At decoder catalog (count + 1) ∧
      (replayed.annotated.rawFrame, replayed.annotated.sequence) = (frame, count) ∧
      replayed.samples = frameSamples decoder catalog (frame, count) := by
  obtain ⟨explorer, decoded, telemetry, diagnostics, hexplore, hdecode, hingest, -, rfl⟩ :=
    replay_ok hreplay
  obtain ⟨metadata, hsequence, hframe, rfl⟩ := CanExplorer.ingest_writes hexplore
  have hcatalog := TelemetryEngine.ingest_catalog hingest
  obtain ⟨-, definitions, hdefinitions, hsamples, rfl⟩ := TelemetryEngine.ingest_ok_iff.1 hingest
  refine ⟨⟨h.decoder, hcatalog.trans h.catalog, ?_, ?_⟩, ?_, ?_⟩
  · rw [TelemetryEngine.accept_eq, ← h.accepted]
  · exact congrArg (· + 1) h.explored
  · rw [← hframe, hsequence, h.explored]
  · rw [h.decoder] at hdecode
    rw [h.catalog] at hdefinitions
    rw [hsamples, h.accepted]
    simp only [frameSamples, hdecode, hdefinitions]

end Pipeline

namespace InvestigationScan

/-- Noting samples keeps the last one of every selected signal. -/
theorem get?_noteContext (selected : Dict SignalKey (List SignalSample))
    (context : Dict SignalKey SignalSample) (samples : List SignalSample) (key : SignalKey) :
    (noteContext selected context samples).get? key =
      if (selected.get? key).isSome then (samplesOf key samples).getLast?.or (context.get? key)
      else context.get? key := by
  induction samples generalizing context with
  | nil => simp [noteContext, samplesOf]
  | cons sample rest ih =>
    rw [noteContext, List.foldl_cons, ← noteContext, ih]
    have hsplit : samplesOf key (sample :: rest) = samplesOf key [sample] ++ samplesOf key rest :=
      samplesOf_append key [sample] rest
    rw [hsplit, List.getLast?_append]
    by_cases hkey : sample.key = key
    · subst hkey
      rw [samplesOf_singleton_self]
      by_cases hselected : (selected.get? sample.key).isSome
      · rw [if_pos hselected, if_pos hselected, if_pos hselected, Dict.get?_set_self, Option.or_assoc]
        rfl
      · rw [if_neg hselected, if_neg hselected, if_neg hselected]
    · rw [samplesOf_singleton_of_ne hkey, List.getLast?_nil, Option.or_none]
      have hsame : (if (selected.get? sample.key).isSome then context.set sample.key sample
          else context).get? key = context.get? key := by
        split
        · exact Dict.get?_set_of_ne _ _ (Ne.symm hkey)
        · rfl
      rw [hsame]

/-- Extending the series appends to those that exist. -/
theorem get?_extendSeries (series : Dict SignalKey (List SignalSample)) (samples : List SignalSample)
    (key : SignalKey) :
    (extendSeries series samples).get? key =
      (series.get? key).map (· ++ samplesOf key samples) := by
  induction samples generalizing series with
  | nil => simp [extendSeries, samplesOf]
  | cons sample rest ih =>
    rw [extendSeries, List.foldl_cons, ← extendSeries, ih]
    have hsplit : samplesOf key (sample :: rest) = samplesOf key [sample] ++ samplesOf key rest :=
      samplesOf_append key [sample] rest
    rw [hsplit]
    by_cases hkey : sample.key = key
    · subst hkey
      rw [samplesOf_singleton_self]
      cases hseries : series.get? sample.key with
      | none => simp only [hseries, Option.map_none]
      | some earlier =>
        simp only [Dict.get?_set_self, Option.map_some, List.append_assoc]
    · rw [samplesOf_singleton_of_ne hkey, List.nil_append]
      cases series.get? sample.key with
      | none => rfl
      | some earlier => rw [Dict.get?_set_of_ne _ _ (Ne.symm hkey)]

/-- What the loop collected of the frames `seen`, none of them past the window. -/
structure Collected (decoder : Decoder) (catalog : SignalCatalog) (window : InvestigationWindow)
    (selected : List SignalKey) (seen : List RawCanFrame) (scan : InvestigationScan) : Prop where
  pipeline : scan.pipeline.At decoder catalog seen.length
  rawFrames : scan.rawFrames.map (fun frame => (frame.rawFrame, frame.sequence)) =
    seen.zipIdx.filter
      (fun entry => window.startTimestampMicroseconds ≤ entry.1.timestampMicroseconds)
  series : ∀ key, scan.series.get? key =
    if key ∈ selected then
      some (signalSamples key (window.startTimestampMicroseconds ≤ ·)
        (artifactSamples decoder catalog seen))
    else none
  context : ∀ key ∈ selected, scan.context.get? key =
    (signalSamples key (· ≤ window.startTimestampMicroseconds)
      (artifactSamples decoder catalog seen)).getLast?

section Collect

variable {decoder : Decoder} {catalog : SignalCatalog} {window : InvestigationWindow}
  {selected : List SignalKey} {seen : List RawCanFrame} {scan next : InvestigationScan}
  {frame : RawCanFrame}

/-- The part of the loop body behind `continue` collects the frame at its place. -/
theorem Collected.observe (h : scan.Collected decoder catalog window selected seen)
    (hobserve : scan.observe window frame = .ok next) :
    next.Collected decoder catalog window selected (seen ++ [frame]) := by
  unfold InvestigationScan.observe at hobserve
  split at hobserve
  · cases hobserve
  · rename_i replayed pipeline hreplay
    obtain ⟨hat, hentry, hsamples⟩ := h.pipeline.replay hreplay
    have hlength : (seen ++ [frame]).length = seen.length + 1 := List.length_append
    -- The window keeps a frame with its index, so appending one appends at most one entry.
    have hzip : (seen ++ [frame]).zipIdx.filter
          (fun entry => window.startTimestampMicroseconds ≤ entry.1.timestampMicroseconds) =
        seen.zipIdx.filter
            (fun entry => window.startTimestampMicroseconds ≤ entry.1.timestampMicroseconds) ++
          bif window.startTimestampMicroseconds ≤ frame.timestampMicroseconds then
            [(frame, seen.length)]
          else [] := by
      rw [List.zipIdx_append, Nat.zero_add, List.zipIdx_singleton, List.filter_append,
        List.filter_singleton]
    -- The context is written under the keys of the series, up to and at the window's start.
    have hcontext : ∀ key ∈ selected,
        (if frame.timestampMicroseconds ≤ window.startTimestampMicroseconds then
          noteContext scan.series scan.context replayed.samples else scan.context).get? key =
        (signalSamples key (· ≤ window.startTimestampMicroseconds)
          (artifactSamples decoder catalog (seen ++ [frame]))).getLast? := by
      intro key hkey
      rw [signalSamples_snoc, List.getLast?_append, ← h.context key hkey]
      by_cases hstart : frame.timestampMicroseconds ≤ window.startTimestampMicroseconds
      · rw [if_pos hstart, if_pos (decide_eq_true hstart), get?_noteContext, h.series,
          if_pos hkey, hsamples]
        rfl
      · rw [if_neg hstart, if_neg (by simpa using hstart)]
        rfl
    simp only [] at hobserve
    split at hobserve
    · rename_i hbefore
      cases hobserve
      have hout : decide (window.startTimestampMicroseconds ≤ frame.timestampMicroseconds) =
        false := decide_eq_false (not_le.2 hbefore)
      refine ⟨hlength ▸ hat, ?_, fun key => ?_, hcontext⟩
      · rw [hzip, hout, cond_false, List.append_nil]
        exact h.rawFrames
      · rw [signalSamples_snoc, if_neg (ne_true_of_eq_false hout), List.append_nil]
        exact h.series key
    · rename_i hwithin
      have hin : decide (window.startTimestampMicroseconds ≤ frame.timestampMicroseconds) =
        true := decide_eq_true (not_lt.1 hwithin)
      split at hobserve
      · cases hobserve
      · cases hobserve
        refine ⟨hlength ▸ hat, ?_, fun key => ?_, hcontext⟩
        · rw [hzip, hin, cond_true, List.map_append, h.rawFrames, List.map_singleton, hentry]
        · rw [get?_extendSeries, h.series, signalSamples_snoc, if_pos hin, hsamples]
          split <;> rfl

/-- Capturing the center collects nothing. -/
theorem Collected.captureCenter (h : scan.Collected decoder catalog window selected seen)
    (hcapture : scan.captureCenter = .ok next) :
    next.Collected decoder catalog window selected seen := by
  unfold InvestigationScan.captureCenter at hcapture
  split at hcapture
  · cases hcapture
    exact h
  · split at hcapture
    · cases hcapture
    · split at hcapture
      · cases hcapture
      · cases hcapture
        exact ⟨h.pipeline, h.rawFrames, h.series, h.context⟩

/-- The loop body collects its frame unless it is past the window. -/
theorem Collected.visit
    (h : scan.Collected decoder catalog window selected
      (framesUpTo window.endTimestampMicroseconds seen))
    (hvisit : scan.visit window frame = .ok next) :
    next.Collected decoder catalog window selected
      (framesUpTo window.endTimestampMicroseconds (seen ++ [frame])) := by
  unfold InvestigationScan.visit at hvisit
  obtain ⟨reached, hreach, hrest⟩ := Fallible.bind_eq_ok.1 hvisit
  have hreached : reached.Collected decoder catalog window selected
      (framesUpTo window.endTimestampMicroseconds seen) := by
    unfold InvestigationScan.reachCenter at hreach
    split at hreach
    · exact h.captureCenter hreach
    · cases hreach
      exact h
  split at hrest
  · rename_i hpast
    cases hrest
    rwa [framesUpTo_snoc_of_lt hpast]
  · rename_i hwithin
    rw [framesUpTo_snoc_of_le (not_lt.1 hwithin)]
    exact hreached.observe hrest

theorem Collected.visitAll {rest : List RawCanFrame}
    (h : scan.Collected decoder catalog window selected
      (framesUpTo window.endTimestampMicroseconds seen))
    (hvisit : scan.visitAll window rest = .ok next) :
    next.Collected decoder catalog window selected
      (framesUpTo window.endTimestampMicroseconds (seen ++ rest)) := by
  induction rest generalizing seen scan with
  | nil =>
    cases hvisit
    rwa [List.append_nil]
  | cons frame rest ih =>
    obtain ⟨mid, hfirst, hrest⟩ := Fallible.bind_eq_ok.1 hvisit
    have hlater := ih (h.visit hfirst) hrest
    rwa [List.append_assoc, List.singleton_append] at hlater

end Collect

theorem get?_startingSeries (selected : List SignalKey) (key : SignalKey) :
    (selected.foldl (fun series key => series.set key []) Dict.empty :
      Dict SignalKey (List SignalSample)).get? key = if key ∈ selected then some [] else none := by
  split
  · rename_i hmem
    have hsome : ((selected.foldl (fun series key => series.set key []) Dict.empty :
        Dict SignalKey (List SignalSample)).get? key).isSome :=
      Dict.isSome_foldl_set (Or.inl ⟨key, hmem, rfl⟩)
    obtain ⟨samples, hsamples⟩ := Option.isSome_iff_exists.1 hsome
    rcases Dict.get?_foldl_set_cases hsamples with ⟨-, -, -, rfl⟩ | ⟨hnone, -⟩
    · exact hsamples
    · exact absurd rfl (hnone key hmem)
  · rename_i hnot
    exact Dict.get?_foldl_set_of_ne fun other hmem heq => hnot (heq ▸ hmem)

theorem collected_startingScan
    (messageDecode : DbcMessage → Bytes → Option (Dict String CanmatrixValue))
    (window : InvestigationWindow) (selected : List SignalKey) :
    (startingScan messageDecode selected).Collected (packagedDecoder messageDecode) packagedCatalog
      window selected [] where
  pipeline := ⟨rfl, rfl, rfl, rfl⟩
  rawFrames := rfl
  series := get?_startingSeries selected
  context := fun _ _ => rfl

end InvestigationScan

/-! ## Frames that are not decoded -/

/-- The explorer observes a frame that is not decoded; then the decoder raises. -/
theorem Pipeline.Replayable.replay_error {pipeline : Pipeline} (h : pipeline.Replayable)
    {frame : RawCanFrame} {error : PyException}
    (hdecode : pipeline.decoder.decode frame = .error error) :
    pipeline.replay frame = .error error := by
  obtain ⟨annotated, explorer, hexplore⟩ :=
    CanExplorer.ingest_returns (h.sameDecoder ▸ h.decodes) frame
  simp only [Pipeline.replay, hexplore, hdecode]

namespace InvestigationScan

section Undecodable

variable {fresh : Pipeline} {window : InvestigationWindow} {seen : List RawCanFrame}
  {scan : InvestigationScan} {bad : RawCanFrame} {error : PyException}

theorem visitAll_append (scan : InvestigationScan) (frames later : List RawCanFrame) :
    scan.visitAll window (frames ++ later) =
      (scan.visitAll window frames).bind (fun next => next.visitAll window later) := by
  induction frames generalizing scan with
  | nil => rfl
  | cons frame rest ih =>
    simp only [List.cons_append, visitAll, bind]
    cases scan.visit window frame with
    | error error => rfl
    | ok next => exact ih next

/-- A frame up to the end of the window that is not decoded stops the loop. -/
theorem Scanned.visit_error (h : scan.Scanned fresh window seen)
    (hcenter : window.centerTimestampMicroseconds ≤ window.endTimestampMicroseconds)
    (hordered : ∀ earlier ∈ seen, earlier.timestampMicroseconds ≤ bad.timestampMicroseconds)
    (hwithin : bad.timestampMicroseconds ≤ window.endTimestampMicroseconds)
    (hdecode : fresh.decoder.decode bad = .error error) :
    scan.visit window bad = .error error := by
  obtain ⟨states, frames, hreach, -⟩ := h.reachCenter hcenter hordered
  have hreplay := h.replayable.replay_error (h.decoder ▸ hdecode)
  unfold InvestigationScan.visit
  rw [hreach]
  simp only [bind, Except.bind, if_neg (not_lt.2 hwithin), InvestigationScan.observe, hreplay]

/-- The loop stops at the first frame that is not decoded, if it gets there. -/
theorem Scanned.visitAll_error (h : scan.Scanned fresh window [])
    (hcenter : window.centerTimestampMicroseconds ≤ window.endTimestampMicroseconds)
    {before after : List RawCanFrame} (hordered : InOrder (before ++ bad :: after))
    (hbefore : Decodable fresh.decoder before)
    (hwithin : bad.timestampMicroseconds ≤ window.endTimestampMicroseconds)
    (hdecode : fresh.decoder.decode bad = .error error) :
    scan.visitAll window (before ++ bad :: after) =
      .error (if maxInvestigationRawFrames < framesInWindow window before then tooManyRawFrames
        else error) := by
  obtain ⟨hfirst, -, hlast⟩ := List.pairwise_append.1 (List.isChain_iff_pairwise.1 hordered)
  have hbeginning : InOrder ([] ++ before) := List.isChain_iff_pairwise.2 hfirst
  have hvisit := h.visitAll hcenter hbeginning (hbefore.framesUpTo _) (Nat.zero_le _)
  rw [visitAll_append]
  rw [List.nil_append] at hvisit
  split
  · rename_i hmany
    rw [if_pos hmany] at hvisit
    rw [hvisit]
    rfl
  · rename_i hfew
    rw [if_neg hfew] at hvisit
    obtain ⟨reached, hreached, hscanned⟩ := hvisit
    have hstop := hscanned.visit_error hcenter
      (fun earlier hmem => hlast earlier hmem bad List.mem_cons_self) hwithin hdecode
    rw [hreached]
    simp only [Except.bind, InvestigationScan.visitAll, hstop, bind]

end Undecodable

end InvestigationScan

/-! ## The result -/

/-- The last sample of a signal in a session at or before a time. -/
def lastSample (decoder : Decoder) (catalog : SignalCatalog) (frames : List RawCanFrame)
    (key : SignalKey) (timestamp : ℕ) : Option SignalSample :=
  (signalSamples key (· ≤ timestamp) (artifactSamples decoder catalog frames)).getLast?

/-- A result holds the window's part of a session: its frames with their places, and the samples
of every selected signal in the window and the last one at its start. -/
structure InvestigationResult.Holds (decoder : Decoder) (catalog : SignalCatalog)
    (window : InvestigationWindow) (selected : List SignalKey) (frames : List RawCanFrame)
    (result : InvestigationResult) : Prop where
  rawFrames : result.rawFrames.map (fun frame => (frame.rawFrame, frame.sequence)) =
    frames.zipIdx.filter (fun entry => window.Contains entry.1.timestampMicroseconds)
  keys : result.telemetrySeries.map (·.definition.key) = selected
  samples : ∀ series ∈ result.telemetrySeries, series.samples =
    signalSamples series.definition.key (fun timestamp => window.Contains timestamp)
      (artifactSamples decoder catalog frames)
  startContext : result.startContext = selected.filterMap
    (lastSample decoder catalog frames · window.startTimestampMicroseconds)

namespace InvestigationScan

section Result

variable {decoder : Decoder} {catalog : SignalCatalog} {window : InvestigationWindow}
  {selected : List SignalKey} {frames : List RawCanFrame} {scan : InvestigationScan}
  {result : InvestigationResult}

/-- The result carries what was collected. -/
theorem result_fields {manifest : SessionManifest}
    (h : scan.result manifest window catalog selected = .ok result) :
    result.window = window ∧ result.rawFrames = scan.rawFrames ∧
      result.startContext = selected.filterMap scan.context.get? ∧
      result.telemetrySeries.map (·.definition.key) = selected ∧
      ∀ series ∈ result.telemetrySeries,
        series.samples = (scan.series.get? series.definition.key).getD [] := by
  unfold InvestigationScan.result at h
  obtain ⟨series, hseries, hrest⟩ := Fallible.bind_eq_ok.1 h
  split at hrest
  · cases hrest
  · cases hrest
    -- Each series is built for its own key, which is the key of the definition it requires.
    have hone : ∀ key one, (do
          let definition ← catalog.require key
          return (⟨definition, (scan.series.get? key).getD []⟩ : InvestigationSignalSeries) :
            Except PyException InvestigationSignalSeries) = .ok one →
        key = one.definition.key ∧
          one.samples = (scan.series.get? one.definition.key).getD [] := by
      intro key one hbuilt
      obtain ⟨definition, hrequire, hdefinition⟩ := Fallible.bind_eq_ok.1 hbuilt
      obtain ⟨-, rfl⟩ := SignalCatalog.get?_mem (SignalCatalog.require_ok_iff.1 hrequire)
      cases hdefinition
      exact ⟨rfl, rfl⟩
    have hkeys : List.Forall₂ (· = ·) selected (series.map (·.definition.key)) :=
      List.forall₂_map_right_iff.2
        ((Fallible.forall₂_of_mapM hseries).imp fun key one hbuilt => (hone key one hbuilt).1)
    rw [List.forall₂_eq_eq_eq] at hkeys
    refine ⟨rfl, rfl, rfl, hkeys.symm, fun one hmem => ?_⟩
    obtain ⟨key, -, hbuilt⟩ := (Fallible.mem_of_mapM hseries).1 hmem
    exact (hone key one hbuilt).2

/-- What was collected of the frames up to the end of the window is the window's part of the
session. -/
theorem Collected.holds (hordered : InOrder frames)
    (hwindow : window.startTimestampMicroseconds ≤ window.endTimestampMicroseconds)
    (h : scan.Collected decoder catalog window selected
      (framesUpTo window.endTimestampMicroseconds frames)) {manifest : SessionManifest}
    (hresult : scan.result manifest window catalog selected = .ok result) :
    result.Holds decoder catalog window selected frames := by
  obtain ⟨-, hraw, hcontext, hkeys, hseries⟩ := result_fields hresult
  -- What lies past the window never reached the scan, and nothing asked of it looks there.
  have hcut : ∀ key p, signalSamples key p
        (artifactSamples decoder catalog (framesUpTo window.endTimestampMicroseconds frames)) =
      signalSamples key (fun timestamp => p timestamp && timestamp ≤ window.endTimestampMicroseconds)
        (artifactSamples decoder catalog frames) := by
    intro key p
    rw [artifactSamples_framesUpTo hordered, Timeline.upTo, signalSamples, samplesOf,
      List.filter_comm (fun sample : SignalSample => decide (sample.key = key)), List.filter_filter]
    rfl
  constructor
  · rw [hraw, h.rawFrames, zipIdx_framesUpTo hordered, List.filter_filter]
    refine List.filter_congr fun entry _ => ?_
    rw [← Bool.decide_and]
    rfl
  · exact hkeys
  · intro series hmem
    have hkey : series.definition.key ∈ selected := hkeys ▸ List.mem_map_of_mem hmem
    rw [hseries series hmem, h.series, if_pos hkey, Option.getD_some, hcut, signalSamples,
      signalSamples]
    refine List.filter_congr fun sample _ => ?_
    rw [← Bool.decide_and]
    rfl
  · rw [hcontext]
    refine List.filterMap_congr fun key hkey => ?_
    rw [h.context key hkey, hcut, lastSample, signalSamples, signalSamples]
    refine congrArg List.getLast? (List.filter_congr fun sample _ => ?_)
    rw [← Bool.decide_and, decide_eq_decide]
    exact ⟨And.left, fun hle => ⟨hle, hle.trans hwindow⟩⟩

end Result

end InvestigationScan

section Investigate

variable {sha256 : Bytes → Sha256Digest} {authoritative : Sha256Digest}
  {messageDecode : DbcMessage → Bytes → Option (Dict String CanmatrixValue)}
  {sessions : SessionCatalog} {sessionId : String} {query : InvestigationQuery}
  {reader : SessionReader} {window : InvestigationWindow} {selected : List SignalKey}

/-- A resolved window lies in the session. -/
theorem resolveWindow_within {manifest : SessionManifest} {center : Option ℤ} {before after : ℤ}
    (h : resolveWindow manifest center before after = .ok window) :
    ∃ first last, manifest.firstTimestampMicroseconds = some first ∧
      manifest.lastTimestampMicroseconds = some last ∧
      first ≤ window.startTimestampMicroseconds ∧ window.endTimestampMicroseconds ≤ last := by
  unfold resolveWindow at h
  split at h
  · cases h
  · split at h
    · cases h
    · split at h
      · cases h
      · split at h
        · rename_i first last hfirst hlast
          simp only [] at h
          split at h
          · cases h
          · cases h
            exact ⟨first, last, hfirst, hlast, le_max_left _ _, min_le_left _ _⟩
        · cases h

/-- What an investigation returns holds the window's part of the session. -/
theorem investigate_holds {result : InvestigationResult}
    (hopened : sessions.reader sha256 authoritative sessionId true = .ok reader)
    (hwindow : resolveWindow reader.manifest query.centerTimestampMicroseconds
      query.beforeMicroseconds query.afterMicroseconds = .ok window)
    (hselected : resolveSignals packagedCatalog defaultDiagnosticCatalog query.selectedSignals
      query.diagnosticCode = .ok selected)
    (hresult : investigate sha256 authoritative messageDecode sessions sessionId query =
      .ok result) :
    result.window = window ∧ result.Holds (packagedDecoder messageDecode) packagedCatalog window
      selected (reader.frames sha256).yielded := by
  obtain ⟨frames, hframes, hordered, -⟩ :=
    SessionReader.validateIntegrity_ok (SessionCatalog.reader_ok hopened)
  have hcontains := resolveWindow_ok hwindow
  rw [investigate_eq hopened hframes hwindow hselected] at hresult
  obtain ⟨scanned, hscanned, hrest⟩ := Fallible.bind_eq_ok.1 hresult
  obtain ⟨captured, hcapture, hbuilt⟩ := Fallible.bind_eq_ok.1 hrest
  have hstart := InvestigationScan.collected_startingScan messageDecode window selected
  have hcollected : scanned.Collected (packagedDecoder messageDecode) packagedCatalog window selected
      (framesUpTo window.endTimestampMicroseconds ([] ++ frames)) := hstart.visitAll hscanned
  rw [hframes]
  exact ⟨(InvestigationScan.result_fields hbuilt).1,
    (hcollected.captureCenter hcapture).holds hordered (hcontains.1.trans hcontains.2) hbuilt⟩

/-- A frame up to the end of the window that is not decoded makes an investigation raise. -/
theorem investigate_error (hdecodes : (packagedDecoder messageDecode).DecodesSignals)
    (hopened : sessions.reader sha256 authoritative sessionId true = .ok reader)
    (hwindow : resolveWindow reader.manifest query.centerTimestampMicroseconds
      query.beforeMicroseconds query.afterMicroseconds = .ok window)
    (hselected : resolveSignals packagedCatalog defaultDiagnosticCatalog query.selectedSignals
      query.diagnosticCode = .ok selected)
    {before after : List RawCanFrame} {bad : RawCanFrame} {error : PyException}
    (hframes : (reader.frames sha256).yielded = before ++ bad :: after)
    (hbefore : Decodable (packagedDecoder messageDecode) before)
    (hwithin : bad.timestampMicroseconds ≤ window.endTimestampMicroseconds)
    (hdecode : (packagedDecoder messageDecode).decode bad = .error error) :
    investigate sha256 authoritative messageDecode sessions sessionId query =
      .error (if maxInvestigationRawFrames < framesInWindow window before then tooManyRawFrames
        else error) := by
  obtain ⟨frames, hall, hordered, -⟩ :=
    SessionReader.validateIntegrity_ok (SessionCatalog.reader_ok hopened)
  rw [investigate_eq hopened hall hwindow hselected]
  rw [hall] at hframes
  simp only [] at hframes
  subst hframes
  have hstart : (startingScan messageDecode selected).Scanned (investigationPipeline messageDecode)
      window [] := scanned_startingScan hdecodes selected
  have hstop := hstart.visitAll_error (resolveWindow_ok hwindow).2 hordered hbefore hwithin hdecode
  rw [hstop]
  rfl

end Investigate

end TunerOs
