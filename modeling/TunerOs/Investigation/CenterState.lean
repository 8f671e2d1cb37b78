-- SUMMARY: The diagnostic state at the center of an investigation is the one a pipeline has after the frames up to it.
import TunerOs.Investigation.Service
import TunerOs.Session.Decodable
import TunerOs.Session.ReplayEquivalence

/-!
# State at the center

The loop's invariant is stated over the frames it has seen. Up to the first frame past
the center the loop's components have replayed all of them, so what is captured there
is the state after the frames up to the center; later frames are past it.
-/

namespace TunerOs

open Containers Pipeline

/-! ## Capturing -/

section Capture

variable (diagnostics : DiagnosticEngine)

theorem exists_diagnosticStates : ∃ states, diagnosticStates diagnostics = .ok states := by
  refine Fallible.exists_mapM ?_
  intro rule hrule
  obtain ⟨found, hfound⟩ := diagnostics.catalog.require_of_mem hrule
  simp only [DiagnosticEngine.dtc, hfound, bind, Except.bind, pure, Except.pure]
  exact ⟨_, rfl⟩

theorem exists_freezeFrames : ∃ frames, freezeFrames diagnostics = .ok frames := by
  have hrules : ∀ rule ∈ diagnostics.catalog.rules, ∃ frame,
      diagnostics.freezeFrame rule.code = .ok frame := by
    intro rule hrule
    obtain ⟨found, hfound⟩ := diagnostics.catalog.require_of_mem hrule
    simp only [DiagnosticEngine.freezeFrame, hfound, bind, Except.bind, pure, Except.pure]
    exact ⟨_, rfl⟩
  obtain ⟨frames, hframes⟩ := Fallible.exists_mapM hrules
  simp only [freezeFrames, hframes, bind, Except.bind, pure, Except.pure]
  exact ⟨_, rfl⟩

end Capture

/-- The frames with a timestamp up to `bound`, in order. -/
def framesUpTo (bound : ℕ) (frames : List RawCanFrame) : List RawCanFrame :=
  frames.filter (·.timestampMicroseconds ≤ bound)

/-- How many frames lie in the window. -/
def framesInWindow (window : InvestigationWindow) (frames : List RawCanFrame) : ℕ :=
  frames.countP (fun frame => window.Contains frame.timestampMicroseconds)

section FramesUpTo

variable {bound : ℕ} {seen : List RawCanFrame} {frame : RawCanFrame}

theorem framesUpTo_eq_self (h : ∀ frame ∈ seen, frame.timestampMicroseconds ≤ bound) :
    framesUpTo bound seen = seen :=
  List.filter_eq_self.2 (fun frame hmem => decide_eq_true (h frame hmem))

theorem framesUpTo_snoc_of_le (h : frame.timestampMicroseconds ≤ bound) :
    framesUpTo bound (seen ++ [frame]) = framesUpTo bound seen ++ [frame] := by
  rw [framesUpTo, List.filter_append, framesUpTo]
  simp [h]

theorem framesUpTo_snoc_of_lt (h : bound < frame.timestampMicroseconds) :
    framesUpTo bound (seen ++ [frame]) = framesUpTo bound seen := by
  rw [framesUpTo, List.filter_append, framesUpTo]
  simp [h]

theorem framesUpTo_inOrder (h : InOrder seen) : InOrder (framesUpTo bound seen) :=
  List.isChain_iff_pairwise.2 ((List.isChain_iff_pairwise.1 h).filter _)

theorem framesInWindow_snoc {window : InvestigationWindow} :
    framesInWindow window (seen ++ [frame]) = framesInWindow window seen +
      if window.Contains frame.timestampMicroseconds then 1 else 0 := by
  rw [framesInWindow, List.countP_append, framesInWindow, List.countP_singleton]
  simp only [decide_eq_true_eq]

end FramesUpTo

/-! ## The loop -/

namespace InvestigationScan

/-- The center is captured: what was captured is what the components have after the frames up
to the center. -/
def Captured (fresh : Pipeline) (center : ℕ) (frames : List RawCanFrame) (scan : InvestigationScan) :
    Prop :=
  ∃ centered states, fresh.replayAll (framesUpTo center frames) = .ok centered ∧
    diagnosticStates centered.diagnostics = .ok states ∧ scan.centerStates = some states ∧
    freezeFrames centered.diagnostics = .ok scan.centerFreezeFrames

/-- What the loop's variables hold after the frames `seen`. -/
structure Scanned (fresh : Pipeline) (window : InvestigationWindow) (seen : List RawCanFrame)
    (scan : InvestigationScan) : Prop where
  replayable : scan.pipeline.Replayable
  decoder : scan.pipeline.decoder = fresh.decoder
  latest : ∀ latest, scan.pipeline.telemetry.latestTimestampMicroseconds = some latest →
    ∃ frame ∈ seen, frame.timestampMicroseconds = latest
  replayed : ∃ trace,
    fresh.replayTrace (framesUpTo window.endTimestampMicroseconds seen) =
      .ok (trace, scan.pipeline) ∧
    scan.windowEvents = (trace.flatMap (·.events)).filter
      (fun event => window.startTimestampMicroseconds ≤ event.timestampMicroseconds)
  counted : scan.rawFrames.length = framesInWindow window seen
  captured : (∃ frame ∈ seen, window.centerTimestampMicroseconds < frame.timestampMicroseconds) →
    scan.Captured fresh window.centerTimestampMicroseconds seen
  pending : (∀ frame ∈ seen, frame.timestampMicroseconds ≤ window.centerTimestampMicroseconds) →
    scan.centerStates = none

section Scan

variable {fresh : Pipeline} {window : InvestigationWindow} {seen : List RawCanFrame}
  {scan : InvestigationScan}

/-- Before any frame past the center, capturing captures the state after all frames seen. -/
theorem Scanned.captureCenter (h : scan.Scanned fresh window seen)
    (hcenter : window.centerTimestampMicroseconds ≤ window.endTimestampMicroseconds)
    (hseen : ∀ frame ∈ seen,
      frame.timestampMicroseconds ≤ window.centerTimestampMicroseconds) :
    ∃ states frames, scan.captureCenter =
        .ok { scan with centerStates := some states, centerFreezeFrames := frames } ∧
      Captured fresh window.centerTimestampMicroseconds seen
        { scan with centerStates := some states, centerFreezeFrames := frames } := by
  obtain ⟨states, hstates⟩ := exists_diagnosticStates scan.pipeline.diagnostics
  obtain ⟨frames, hframes⟩ := exists_freezeFrames scan.pipeline.diagnostics
  obtain ⟨trace, htrace, -⟩ := h.replayed
  rw [framesUpTo_eq_self (fun frame hmem => (hseen frame hmem).trans hcenter)] at htrace
  refine ⟨states, frames, ?_, scan.pipeline, states, ?_, hstates, rfl, hframes⟩
  · simp only [InvestigationScan.captureCenter, h.pending hseen, Option.isSome_none,
      Bool.false_eq_true, if_false, hstates, hframes]
  · rw [framesUpTo_eq_self hseen]
    exact replayAll_of_trace htrace

/-- The first statement of the loop body: past the center the state is captured, once. -/
theorem Scanned.reachCenter (h : scan.Scanned fresh window seen) {frame : RawCanFrame}
    (hcenter : window.centerTimestampMicroseconds ≤ window.endTimestampMicroseconds)
    (hordered : ∀ earlier ∈ seen, earlier.timestampMicroseconds ≤ frame.timestampMicroseconds) :
    ∃ states frames, scan.reachCenter window frame.timestampMicroseconds =
        .ok { scan with centerStates := states, centerFreezeFrames := frames } ∧
      (window.centerTimestampMicroseconds < frame.timestampMicroseconds →
        Captured fresh window.centerTimestampMicroseconds (seen ++ [frame])
          { scan with centerStates := states, centerFreezeFrames := frames }) ∧
      (frame.timestampMicroseconds ≤ window.centerTimestampMicroseconds → states = none) := by
  unfold InvestigationScan.reachCenter
  by_cases hpast : window.centerTimestampMicroseconds < frame.timestampMicroseconds
  -- The first frame past the center captures it; a later one finds it captured already.
  · rw [if_pos hpast]
    by_cases hseen : ∀ earlier ∈ seen,
        earlier.timestampMicroseconds ≤ window.centerTimestampMicroseconds
    · obtain ⟨states, frames, hcapture, hcaptured⟩ := h.captureCenter hcenter hseen
      refine ⟨some states, frames, hcapture, fun _ => ?_, fun hle => absurd hpast (not_lt.2 hle)⟩
      unfold Captured at hcaptured ⊢
      rwa [framesUpTo_snoc_of_lt hpast]
    · push Not at hseen
      obtain ⟨centered, states, hreplay, hstates, hscan, hframes⟩ := h.captured hseen
      refine ⟨scan.centerStates, scan.centerFreezeFrames, ?_, fun _ => ?_,
        fun hle => absurd hpast (not_lt.2 hle)⟩
      · simp only [InvestigationScan.captureCenter, hscan, Option.isSome_some, if_true]
        rw [← hscan]
      · refine ⟨centered, states, ?_, hstates, hscan, hframes⟩
        rwa [framesUpTo_snoc_of_lt hpast]
  · rw [if_neg hpast]
    have hle := not_lt.1 hpast
    exact ⟨scan.centerStates, scan.centerFreezeFrames, rfl, fun hlt => absurd hlt hpast,
      fun _ => h.pending (fun earlier hmem => (hordered earlier hmem).trans hle)⟩

/-- After the loop the state is captured unless it was captured before. -/
theorem Scanned.finish (h : scan.Scanned fresh window seen)
    (hcenter : window.centerTimestampMicroseconds ≤ window.endTimestampMicroseconds) :
    ∃ captured, scan.captureCenter = .ok captured ∧ captured.windowEvents = scan.windowEvents ∧
      captured.Captured fresh window.centerTimestampMicroseconds seen := by
  by_cases hall : ∀ frame ∈ seen,
      frame.timestampMicroseconds ≤ window.centerTimestampMicroseconds
  · obtain ⟨states, frames, hcapture, hcaptured⟩ := h.captureCenter hcenter hall
    exact ⟨_, hcapture, rfl, hcaptured⟩
  · push Not at hall
    have hcaptured := h.captured hall
    refine ⟨scan, ?_, rfl, hcaptured⟩
    obtain ⟨centered, states, -, -, hscan, -⟩ := hcaptured
    simp only [InvestigationScan.captureCenter, hscan, Option.isSome_some, if_true]

/-- A frame that is not before the frames seen, and decodable unless it is past the window: the loop
body runs, unless the frame is one too many in the window. -/
theorem Scanned.visit (h : scan.Scanned fresh window seen) {frame : RawCanFrame}
    (hcenter : window.centerTimestampMicroseconds ≤ window.endTimestampMicroseconds)
    (hordered : ∀ earlier ∈ seen, earlier.timestampMicroseconds ≤ frame.timestampMicroseconds)
    (hdecodable : frame.timestampMicroseconds ≤ window.endTimestampMicroseconds →
      ∃ decoded, fresh.decoder.decode frame = .ok decoded) :
    if window.Contains frame.timestampMicroseconds ∧
        maxInvestigationRawFrames ≤ framesInWindow window seen then
      scan.visit window frame = .error tooManyRawFrames
    else ∃ next, scan.visit window frame = .ok next ∧
      next.Scanned fresh window (seen ++ [frame]) := by
  obtain ⟨states, frames, hreach, hcaptured, hpending⟩ := h.reachCenter hcenter hordered
  -- Frames come in order: if any lies past the center, the frame at hand does.
  have hcapturedAll : (∃ earlier ∈ seen ++ [frame],
      window.centerTimestampMicroseconds < earlier.timestampMicroseconds) →
        window.centerTimestampMicroseconds < frame.timestampMicroseconds := by
    rintro ⟨earlier, hmem, hlt⟩
    rcases List.mem_append.1 hmem with hmem | hmem
    · exact hlt.trans_le (hordered earlier hmem)
    · rwa [← List.mem_singleton.1 hmem]
  have hlast : frame ∈ seen ++ [frame] := List.mem_append_right _ List.mem_cons_self
  have hcount : framesInWindow window (seen ++ [frame]) = framesInWindow window seen +
      if window.Contains frame.timestampMicroseconds then 1 else 0 := framesInWindow_snoc
  obtain ⟨trace, htrace, hevents⟩ := h.replayed
  unfold InvestigationScan.visit
  rw [hreach]
  simp only [bind, Except.bind]
  by_cases hend : window.endTimestampMicroseconds < frame.timestampMicroseconds
  · -- The frame is past the window: nothing but the capture happens.
    have houtside : ¬ window.Contains frame.timestampMicroseconds :=
      fun hcontains => absurd hcontains.2 (not_le.2 hend)
    rw [if_neg (fun hboth => houtside hboth.1), if_pos hend]
    refine ⟨_, rfl, ?_⟩
    exact {
      replayable := h.replayable
      decoder := h.decoder
      latest := by
        intro latest hlatest
        obtain ⟨earlier, hmem, htime⟩ := h.latest latest hlatest
        exact ⟨earlier, List.mem_append_left _ hmem, htime⟩
      replayed := by
        rw [framesUpTo_snoc_of_lt hend]
        exact ⟨trace, htrace, hevents⟩
      counted := by
        rw [hcount, if_neg houtside]
        exact h.counted
      captured := fun hany => hcaptured (hcapturedAll hany)
      pending := fun hall => hpending (hall frame hlast) }
  · have hwithin := not_lt.1 hend
    have haccepts : scan.pipeline.Accepts frame := by
      intro latest hlatest
      obtain ⟨earlier, hmem, rfl⟩ := h.latest latest hlatest
      exact hordered earlier hmem
    obtain ⟨decoded, hdecode⟩ := hdecodable hwithin
    rw [← h.decoder] at hdecode
    obtain ⟨replayed, next, hreplay, hreplayable, hdecoder, -, hlatest, htimes⟩ :=
      h.replayable.replay hdecode haccepts
    have htrace' : fresh.replayTrace
        (framesUpTo window.endTimestampMicroseconds (seen ++ [frame])) =
          .ok (trace ++ [replayed], next) := by
      rw [framesUpTo_snoc_of_le hwithin]
      exact replayTrace_snoc htrace hreplay
    have hlatest' : ∀ latest, next.telemetry.latestTimestampMicroseconds = some latest →
        ∃ earlier ∈ seen ++ [frame], earlier.timestampMicroseconds = latest := by
      intro latest hsome
      rw [hlatest] at hsome
      exact ⟨frame, hlast, Option.some.inj hsome⟩
    rw [if_neg hend]
    unfold InvestigationScan.observe
    simp only [hreplay]
    by_cases hstart : frame.timestampMicroseconds < window.startTimestampMicroseconds
    · -- The frame is before the window: its events are, too.
      have houtside : ¬ window.Contains frame.timestampMicroseconds :=
        fun hcontains => absurd hcontains.1 (not_le.2 hstart)
      rw [if_neg (fun hboth => houtside hboth.1), if_pos hstart]
      have hnone : replayed.events.filter (fun event =>
          window.startTimestampMicroseconds ≤ event.timestampMicroseconds) = [] := by
        rw [List.filter_eq_nil_iff]
        intro event hmem
        rw [htimes event hmem]
        simpa using hstart
      refine ⟨_, rfl, ?_⟩
      exact {
        replayable := hreplayable
        decoder := hdecoder.trans h.decoder
        latest := hlatest'
        replayed := by
          refine ⟨_, htrace', ?_⟩
          rw [List.flatMap_append, List.filter_append, List.flatMap_singleton, hnone,
            List.append_nil]
          exact hevents
        counted := by
          rw [hcount, if_neg houtside]
          exact h.counted
        captured := fun hany => hcaptured (hcapturedAll hany)
        pending := fun hall => hpending (hall frame hlast) }
    -- The frame is in the window: it counts against the limit, and its events are kept.
    · have hcontains : window.Contains frame.timestampMicroseconds := ⟨not_lt.1 hstart, hwithin⟩
      rw [if_neg hstart, h.counted]
      by_cases hlimit : maxInvestigationRawFrames ≤ framesInWindow window seen
      · rw [if_pos ⟨hcontains, hlimit⟩, if_pos hlimit]
      · rw [if_neg (fun hboth => hlimit hboth.2), if_neg hlimit]
        refine ⟨_, rfl, ?_⟩
        exact {
          replayable := hreplayable
          decoder := hdecoder.trans h.decoder
          latest := hlatest'
          replayed := by
            refine ⟨_, htrace', ?_⟩
            rw [List.flatMap_append, List.filter_append, List.flatMap_singleton]
            exact congrArg (· ++ _) hevents
          counted := by
            rw [hcount, if_pos hcontains, List.length_append, h.counted]
            rfl
          captured := fun hany => hcaptured (hcapturedAll hany)
          pending := fun hall => hpending (hall frame hlast) }

/-- The loop over frames in order returns unless the window holds too many of them. -/
theorem Scanned.visitAll (h : scan.Scanned fresh window seen)
    (hcenter : window.centerTimestampMicroseconds ≤ window.endTimestampMicroseconds)
    {rest : List RawCanFrame} (hordered : InOrder (seen ++ rest))
    (hdecodable : Decodable fresh.decoder (framesUpTo window.endTimestampMicroseconds rest))
    (hlimit : framesInWindow window seen ≤ maxInvestigationRawFrames) :
    if maxInvestigationRawFrames < framesInWindow window (seen ++ rest) then
      scan.visitAll window rest = .error tooManyRawFrames
    else ∃ next, scan.visitAll window rest = .ok next ∧
      next.Scanned fresh window (seen ++ rest) := by
  induction rest generalizing seen scan with
  | nil =>
    rw [List.append_nil, if_neg (not_lt.2 hlimit)]
    exact ⟨scan, rfl, h⟩
  | cons frame rest ih =>
    have hearlier : ∀ earlier ∈ seen, earlier.timestampMicroseconds ≤ frame.timestampMicroseconds := by
      intro earlier hmem
      have hpairwise := List.pairwise_append.1 (List.isChain_iff_pairwise.1 hordered)
      exact hpairwise.2.2 earlier hmem frame List.mem_cons_self
    have hvisit := h.visit hcenter hearlier (fun hle =>
      hdecodable frame (List.mem_filter.2 ⟨List.mem_cons_self, decide_eq_true hle⟩))
    have hlater : Decodable fresh.decoder (framesUpTo window.endTimestampMicroseconds rest) :=
      fun other hmem => hdecodable other (List.mem_filter.2
        ⟨List.mem_cons_of_mem _ (List.mem_filter.1 hmem).1, (List.mem_filter.1 hmem).2⟩)
    have hsplit : seen ++ frame :: rest = (seen ++ [frame]) ++ rest := by
      rw [List.append_assoc, List.singleton_append]
    have hcount : framesInWindow window (seen ++ [frame]) = framesInWindow window seen +
        if window.Contains frame.timestampMicroseconds then 1 else 0 := framesInWindow_snoc
    have hmore : framesInWindow window (seen ++ [frame]) ≤
        framesInWindow window (seen ++ [frame] ++ rest) := by
      simp only [framesInWindow, List.countP_append, Nat.le_add_right]
    rw [hsplit] at hordered ⊢
    by_cases hfull : window.Contains frame.timestampMicroseconds ∧
        maxInvestigationRawFrames ≤ framesInWindow window seen
    · rw [if_pos hfull] at hvisit
      rw [if_pos hfull.1] at hcount
      rw [if_pos (by omega), InvestigationScan.visitAll, hvisit]
      rfl
    · rw [if_neg hfull] at hvisit
      obtain ⟨next, hnext, hscanned⟩ := hvisit
      have hwithin : framesInWindow window (seen ++ [frame]) ≤ maxInvestigationRawFrames := by
        by_cases hcontains : window.Contains frame.timestampMicroseconds
        · rw [if_pos hcontains] at hcount
          have hroom : ¬ maxInvestigationRawFrames ≤ framesInWindow window seen :=
            fun hle => hfull ⟨hcontains, hle⟩
          omega
        · rw [if_neg hcontains] at hcount
          omega
      have hrest := ih hscanned hordered hlater hwithin
      rw [InvestigationScan.visitAll, hnext]
      exact hrest

end Scan

/-- The result carries what the loop collected, for every catalogued selection. -/
theorem result_ok {scan : InvestigationScan} (manifest : SessionManifest)
    (window : InvestigationWindow) {catalog : SignalCatalog} {selected : List SignalKey}
    {states : List DiagnosticStateAtTime} (hstates : scan.centerStates = some states)
    (hselected : ∀ key ∈ selected, ∃ definition, catalog.require key = .ok definition) :
    ∃ result, scan.result manifest window catalog selected = .ok result ∧
      result.diagnosticEvents = scan.windowEvents ∧ result.diagnosticStatesAtCenter = states ∧
      result.freezeFramesAtCenter = scan.centerFreezeFrames := by
  have hseries : ∀ key ∈ selected, ∃ series, (do
      let definition ← catalog.require key
      return (⟨definition, (scan.series.get? key).getD []⟩ : InvestigationSignalSeries) :
        Except PyException InvestigationSignalSeries) = .ok series := by
    intro key hmem
    obtain ⟨definition, hdefinition⟩ := hselected key hmem
    rw [hdefinition]
    exact ⟨_, rfl⟩
  obtain ⟨series, hmap⟩ := Fallible.exists_mapM hseries
  unfold InvestigationScan.result
  rw [hmap, hstates]
  exact ⟨_, rfl, rfl, rfl, rfl⟩

end InvestigationScan

/-! ## Accepted queries -/

/-- The center of a resolved window lies in it. -/
theorem resolveWindow_ok {manifest : SessionManifest} {center : Option ℤ} {before after : ℤ}
    {window : InvestigationWindow} (h : resolveWindow manifest center before after = .ok window) :
    window.Contains window.centerTimestampMicroseconds := by
  unfold resolveWindow at h
  split at h
  · cases h
  · split at h
    · cases h
    · split at h
      · cases h
      · split at h
        · simp only [] at h
          split at h
          · cases h
          · rename_i first last _ _ hcenter
            cases h
            constructor <;> simp only [] <;> omega
        · cases h

/-- The signals of a resolved selection are in the catalog. -/
theorem resolveSignals_ok {catalog : SignalCatalog} {diagnosticCatalog : DiagnosticCatalog}
    {query : Option (List SignalKey)} {code : Option String} {selected : List SignalKey}
    (h : resolveSignals catalog diagnosticCatalog query code = .ok selected) :
    ∀ key ∈ selected, ∃ definition, catalog.require key = .ok definition := by
  unfold resolveSignals at h
  cases hrule : requireRule diagnosticCatalog code with
  | error error => simp [hrule, bind, Except.bind] at h
  | ok rule =>
    simp only [hrule, bind, Except.bind] at h
    split at h
    · cases h
    · split at h
      · cases h
      · split at h
        · cases h
        · split at h
          · cases h
          · rename_i definitions hdefinitions
            cases h
            exact fun key hmem => Fallible.exists_of_mapM hdefinitions hmem

/-! ## The state at the center -/

/-- The query names a complete session of decodable frames, and the center, the window and the
selection it asks for are accepted. -/
structure AcceptedQuery (sha256 : Bytes → Sha256Digest) (authoritative : Sha256Digest)
    (messageDecode : DbcMessage → Bytes → Option (Dict String CanmatrixValue))
    (sessions : SessionCatalog) (sessionId : String) (query : InvestigationQuery)
    (reader : SessionReader) (window : InvestigationWindow) : Prop where
  opened : sessions.reader sha256 authoritative sessionId true = .ok reader
  decodable : Decodable (packagedDecoder messageDecode) (reader.frames sha256).yielded
  resolved : resolveWindow reader.manifest query.centerTimestampMicroseconds
    query.beforeMicroseconds query.afterMicroseconds = .ok window
  selection : ∃ selected, resolveSignals packagedCatalog defaultDiagnosticCatalog
    query.selectedSignals query.diagnosticCode = .ok selected

theorem Pipeline.Decodable.framesUpTo {decoder : Decoder} {frames : List RawCanFrame}
    (h : Decodable decoder frames) (bound : ℕ) : Decodable decoder (framesUpTo bound frames) :=
  fun frame hmem => h frame (List.mem_of_mem_filter hmem)

section Investigate

variable {sha256 : Bytes → Sha256Digest} {authoritative : Sha256Digest}
  {messageDecode : DbcMessage → Bytes → Option (Dict String CanmatrixValue)}
  {sessions : SessionCatalog} {sessionId : String} {query : InvestigationQuery}
  {reader : SessionReader} {window : InvestigationWindow}

/-- The components that `investigate` constructs. -/
def investigationPipeline
    (messageDecode : DbcMessage → Bytes → Option (Dict String CanmatrixValue)) : Pipeline where
  decoder := packagedDecoder messageDecode
  telemetry := .fresh packagedCatalog 1
  explorer := .fresh (packagedDecoder messageDecode) 1
  diagnostics := .fresh defaultDiagnosticCatalog defaultDiagnosticEventCapacity

/-- The loop's variables before the first frame. -/
def startingScan (messageDecode : DbcMessage → Bytes → Option (Dict String CanmatrixValue))
    (selected : List SignalKey) : InvestigationScan where
  pipeline := investigationPipeline messageDecode
  series := selected.foldl (fun series key => series.set key []) .empty

theorem scanned_startingScan (hdecodes : (packagedDecoder messageDecode).DecodesSignals)
    (selected : List SignalKey) :
    (startingScan messageDecode selected).Scanned (investigationPipeline messageDecode) window [] where
  replayable := replayable_packaged hdecodes _ _ _
  decoder := rfl
  latest := nofun
  replayed := ⟨[], rfl, rfl⟩
  counted := rfl
  captured := by
    rintro ⟨frame, hmem, -⟩
    cases hmem
  pending := fun _ => rfl

/-- Once the session is opened and the query resolved, `investigate` is its loop, the capture and
the result. -/
theorem investigate_eq {frames : List RawCanFrame} {selected : List SignalKey}
    (hopened : sessions.reader sha256 authoritative sessionId true = .ok reader)
    (hframes : reader.frames sha256 = ⟨frames, none⟩)
    (hwindow : resolveWindow reader.manifest query.centerTimestampMicroseconds
      query.beforeMicroseconds query.afterMicroseconds = .ok window)
    (hselected : resolveSignals packagedCatalog defaultDiagnosticCatalog query.selectedSignals
      query.diagnosticCode = .ok selected) :
    investigate sha256 authoritative messageDecode sessions sessionId query = (do
      let scanned ← (startingScan messageDecode selected).visitAll window frames
      let captured ← scanned.captureCenter
      captured.result reader.manifest window packagedCatalog selected) := by
  have htelemetry : TelemetryEngine.create packagedCatalog 1 = .ok (.fresh packagedCatalog 1) :=
    rfl
  have hdiagnostics : DiagnosticEngine.create defaultDiagnosticCatalog
      defaultDiagnosticEventCapacity =
        .ok (.fresh defaultDiagnosticCatalog defaultDiagnosticEventCapacity) := rfl
  have hexplorer : CanExplorer.create (packagedDecoder messageDecode) 1 =
      .ok (.fresh (packagedDecoder messageDecode) 1) := rfl
  simp only [investigate, hopened, hwindow, createCatalog_packaged,
    createDiagnosticCatalog_packaged, hselected, htelemetry, hdiagnostics, hexplorer, hframes,
    startingScan, investigationPipeline, bind, Except.bind]

/-- What the investigation of a window whose frames are decodable returns, in terms of the pipeline
the service constructs. -/
theorem investigate_replays (hdecodes : (packagedDecoder messageDecode).DecodesSignals)
    {selected : List SignalKey}
    (hopened : sessions.reader sha256 authoritative sessionId true = .ok reader)
    (hdecodable : Decodable (packagedDecoder messageDecode)
      (framesUpTo window.endTimestampMicroseconds (reader.frames sha256).yielded))
    (hwindow : resolveWindow reader.manifest query.centerTimestampMicroseconds
      query.beforeMicroseconds query.afterMicroseconds = .ok window)
    (hselected : resolveSignals packagedCatalog defaultDiagnosticCatalog query.selectedSignals
      query.diagnosticCode = .ok selected) {fresh : Pipeline}
    (hfresh : create (packagedDecoder messageDecode) 1 1 defaultDiagnosticEventCapacity =
      .ok fresh) :
    if maxInvestigationRawFrames < framesInWindow window (reader.frames sha256).yielded then
      investigate sha256 authoritative messageDecode sessions sessionId query =
        .error tooManyRawFrames
    else ∃ result centered trace ended,
      investigate sha256 authoritative messageDecode sessions sessionId query = .ok result ∧
      fresh.replayAll (framesUpTo window.centerTimestampMicroseconds
        (reader.frames sha256).yielded) = .ok centered ∧
      diagnosticStates centered.diagnostics = .ok result.diagnosticStatesAtCenter ∧
      freezeFrames centered.diagnostics = .ok result.freezeFramesAtCenter ∧
      fresh.replayTrace (framesUpTo window.endTimestampMicroseconds
        (reader.frames sha256).yielded) = .ok (trace, ended) ∧
      result.diagnosticEvents = (trace.flatMap (·.events)).filter
        (fun event => window.startTimestampMicroseconds ≤ event.timestampMicroseconds) := by
  obtain ⟨frames, hframes, hordered, -⟩ :=
    SessionReader.validateIntegrity_ok (SessionCatalog.reader_ok hopened)
  rw [investigate_eq hopened hframes hwindow hselected]
  rw [hframes] at hdecodable ⊢
  have hcenter := (resolveWindow_ok hwindow).2
  obtain rfl : fresh = investigationPipeline messageDecode := create_packaged_ok hfresh
  have hscan := (scanned_startingScan hdecodes selected).visitAll hcenter hordered hdecodable
    (Nat.zero_le _)
  rw [List.nil_append] at hscan
  split
  · rename_i hmany
    rw [if_pos hmany] at hscan
    rw [hscan]
    rfl
  · rename_i hfew
    rw [if_neg hfew] at hscan
    obtain ⟨scanned, hscanned, h⟩ := hscan
    obtain ⟨trace, htrace, hevents⟩ := h.replayed
    obtain ⟨captured, hcapture, hsame, hcaptured⟩ := h.finish hcenter
    obtain ⟨centered, states, hreplay, hstates, htaken, hfreeze⟩ := hcaptured
    obtain ⟨result, hresult, hresultEvents, hresultStates, hresultFrames⟩ :=
      InvestigationScan.result_ok reader.manifest window htaken (resolveSignals_ok hselected)
    refine ⟨result, centered, trace, scanned.pipeline, ?_, hreplay, hresultStates ▸ hstates,
      hresultFrames ▸ hfreeze, htrace, ?_⟩
    · rw [hscanned]
      simp only [bind, Except.bind, hcapture]
      exact hresult
    · rw [hresultEvents, hsame, hevents]

/-- For every complete session and every accepted query whose window holds at most the maximum
number of frames, `investigate` returns the diagnostic states and freeze frames that components
constructed with any capacities have after exactly the frames up to the center, and the events
they emit in the window over the frames up to its end. Every other accepted query of the same
center over a session with the same frames up to it returns the same state. A window that holds
more frames is refused. -/
theorem center_state_is_replayed (sha256 : Bytes → Sha256Digest) (authoritative : Sha256Digest)
    (messageDecode : DbcMessage → Bytes → Option (Dict String CanmatrixValue))
    (hdecodes : (packagedDecoder messageDecode).DecodesSignals) (sessions : SessionCatalog)
    (sessionId : String) (query : InvestigationQuery) (reader : SessionReader)
    (window : InvestigationWindow)
    (haccepted : AcceptedQuery sha256 authoritative messageDecode sessions sessionId query reader
      window) (historyCapacity canExplorerCapacity : ℕ) (fresh : Pipeline)
    (hfresh : create (packagedDecoder messageDecode) historyCapacity canExplorerCapacity
      defaultDiagnosticEventCapacity = .ok fresh) :
    if maxInvestigationRawFrames < framesInWindow window (reader.frames sha256).yielded then
      investigate sha256 authoritative messageDecode sessions sessionId query =
        .error tooManyRawFrames
    else ∃ result centered trace ended,
      investigate sha256 authoritative messageDecode sessions sessionId query = .ok result ∧
      fresh.replayAll (framesUpTo window.centerTimestampMicroseconds
        (reader.frames sha256).yielded) = .ok centered ∧
      diagnosticStates centered.diagnostics = .ok result.diagnosticStatesAtCenter ∧
      freezeFrames centered.diagnostics = .ok result.freezeFramesAtCenter ∧
      fresh.replayTrace (framesUpTo window.endTimestampMicroseconds
        (reader.frames sha256).yielded) = .ok (trace, ended) ∧
      result.diagnosticEvents = (trace.flatMap (·.events)).filter
        (fun event => window.startTimestampMicroseconds ≤ event.timestampMicroseconds) ∧
      ∀ otherSessions otherId otherQuery otherReader otherWindow otherResult,
        AcceptedQuery sha256 authoritative messageDecode otherSessions otherId otherQuery
          otherReader otherWindow →
        otherWindow.centerTimestampMicroseconds = window.centerTimestampMicroseconds →
        framesUpTo window.centerTimestampMicroseconds (otherReader.frames sha256).yielded =
          framesUpTo window.centerTimestampMicroseconds (reader.frames sha256).yielded →
        investigate sha256 authoritative messageDecode otherSessions otherId otherQuery =
          .ok otherResult →
        otherResult.diagnosticStatesAtCenter = result.diagnosticStatesAtCenter ∧
          otherResult.freezeFramesAtCenter = result.freezeFramesAtCenter := by
  obtain ⟨inner, hinner⟩ : ∃ inner, create (packagedDecoder messageDecode) 1 1
      defaultDiagnosticEventCapacity = .ok inner := by
    simp only [create, createCatalog_packaged, createDiagnosticCatalog_packaged, bind, Except.bind]
    exact ⟨_, rfl⟩
  obtain ⟨selected, hselected⟩ := haccepted.selection
  have hreturns := investigate_replays hdecodes haccepted.opened (haccepted.decodable.framesUpTo _)
    haccepted.resolved hselected hinner
  split
  · rename_i hmany
    rwa [if_pos hmany] at hreturns
  · rename_i hfew
    rw [if_neg hfew] at hreturns
    obtain ⟨result, centered, trace, ended, hresult, hcentered, hstates, hfreeze, htrace, hevents⟩ :=
      hreturns
    obtain ⟨frames, hframes, hordered, -⟩ :=
      SessionReader.validateIntegrity_ok (SessionCatalog.reader_ok haccepted.opened)
    have hsame := sameDiagnosis_packaged hinner hfresh
    have hupTo : ∀ bound, ∃ r p s q,
        inner.replayTrace (framesUpTo bound (reader.frames sha256).yielded) = .ok (r, p) ∧
        fresh.replayTrace (framesUpTo bound (reader.frames sha256).yielded) = .ok (s, q) ∧
        s.flatMap (·.events) = r.flatMap (·.events) ∧ q.diagnostics = p.diagnostics := by
      intro bound
      have hdecodable := haccepted.decodable
      rw [hframes] at hdecodable ⊢
      refine hsame.replayable (create_replayable hdecodes hinner)
        (create_replayable hdecodes hfresh) ?_ (framesUpTo_inOrder hordered) ?_
      · rw [create_packaged_ok hinner]
        exact fun frame hmem => hdecodable frame (List.mem_of_mem_filter hmem)
      · rw [create_packaged_ok hinner]
        rintro frame _ _ ⟨⟩
    obtain ⟨r, p, s, q, hr, hs, -, hdiagnostics⟩ := hupTo window.centerTimestampMicroseconds
    obtain ⟨r', p', s', q', hr', hs', hsameEvents, -⟩ := hupTo window.endTimestampMicroseconds
    have hp := replayAll_of_trace hr
    rw [hcentered] at hp
    cases hp
    rw [htrace] at hr'
    cases hr'
    refine ⟨result, q, s', q', hresult, replayAll_of_trace hs, hdiagnostics ▸ hstates,
      hdiagnostics ▸ hfreeze, hs', hsameEvents ▸ hevents, ?_⟩
    intro otherSessions otherId otherQuery otherReader otherWindow otherResult hother hcenter hearlier
      hotherResult
    obtain ⟨otherSelected, hotherSelected⟩ := hother.selection
    have hreturns := investigate_replays hdecodes hother.opened (hother.decodable.framesUpTo _)
      hother.resolved hotherSelected hinner
    split at hreturns
    · rw [hotherResult] at hreturns
      cases hreturns
    · obtain ⟨same, otherCentered, -, -, hok, hreplay, hotherStates, hotherFreeze, -⟩ := hreturns
      rw [hotherResult] at hok
      cases hok
      rw [hcenter, hearlier, hcentered] at hreplay
      cases hreplay
      rw [hstates] at hotherStates
      rw [hfreeze] at hotherFreeze
      exact ⟨(Except.ok.inj hotherStates).symm, (Except.ok.inj hotherFreeze).symm⟩

end Investigate

/-! ## Recorded sessions -/

section Recorded

/-- A catalog with the session of a recorder that was given these frames. -/
def recordedSessions (frames : List RawCanFrame) : SessionCatalog where
  artifacts := Dict.empty.set defaultArguments.sessionId.text
    ⟨writtenManifest ((defaultRecorder.manifest.describing frames).completed someDigest),
      some (defaultRecorder.recordAll frames).hashed⟩

theorem recorded_opened {frames : List RawCanFrame} (hordered : InOrder frames)
    (hfits : ∀ frame ∈ frames, frame.timestampMicroseconds < 2 ^ 64) :
    ∃ reader, (recordedSessions frames).reader (fun _ => someDigest) someDigest
        defaultArguments.sessionId.text true = .ok reader ∧
      reader.Describes (fun _ => someDigest) frames := by
  have hlaunched : defaultArguments.Launched someDigest := ⟨by decide, by decide, nofun⟩
  have hcreated : SessionRecorder.create someDigest defaultArguments {} ⟨none, none⟩ =
      .ok defaultRecorder := rfl
  obtain ⟨created, -, -, hrecorded⟩ := SessionRecorder.create_ok hcreated
  obtain ⟨reader, hcreate, hsupported, hdescribes, hid⟩ :=
    @SessionRecorder.Recorded.published (fun _ => someDigest) _ _ _ _
      (hrecorded.recordAll (List.nil_append frames ▸ hordered) hfits)
      (SessionRecorder.publishable_of_create hlaunched hcreated)
  have hlisted : (recordedSessions frames).artifacts.get? defaultArguments.sessionId.text = some
      ⟨writtenManifest ((defaultRecorder.manifest.describing frames).completed someDigest),
        some (defaultRecorder.recordAll frames).hashed⟩ := Dict.get?_set_self _ _ _
  exact ⟨reader, SessionCatalog.reader_of_describes defaultArguments.sessionId.isCanonicalUuid
    hlisted hcreate hdescribes hsupported hid, hdescribes⟩

/-- Around the only time of a session, the default window is that time. -/
theorem resolveWindow_of_moment {manifest : SessionManifest} {timestamp : ℕ}
    (hfirst : manifest.firstTimestampMicroseconds = some timestamp)
    (hlast : manifest.lastTimestampMicroseconds = some timestamp) :
    resolveWindow manifest none defaultWindowBeforeMicroseconds defaultWindowAfterMicroseconds =
      .ok ⟨timestamp, timestamp, 2000000, 2000000, timestamp, timestamp⟩ := by
  have hcenter : ((timestamp : ℤ) + timestamp) / 2 = timestamp := by omega
  have hbefore : ¬ defaultWindowBeforeMicroseconds < 0 := by decide
  have hafter : ¬ defaultWindowAfterMicroseconds < 0 := by decide
  have hshort : ¬ maxInvestigationWindowMicroseconds <
      defaultWindowBeforeMicroseconds + defaultWindowAfterMicroseconds := by decide
  simp only [resolveWindow, if_neg hbefore, if_neg hafter, if_neg hshort, hfirst, hlast,
    Option.getD_none, hcenter, lt_irrefl, or_self, if_false, Int.toNat_natCast,
    max_eq_left (Nat.sub_le _ _), min_eq_left (Nat.le_add_right _ _)]
  rfl

/-- A session of many frames at one timestamp. -/
def repeatedSessions (n : ℕ) : SessionCatalog :=
  recordedSessions (List.replicate n (fastEngineFrame 1000))

/-- A session with 8193 frames at one timestamp is complete and its frames are decodable, and
the default query is accepted, but `investigate` returns nothing. -/
theorem crowded_window_is_refused :
    ∃ reader window, AcceptedQuery (fun _ => someDigest) someDigest DbcMessage.intelDecode
        (repeatedSessions 8193) defaultArguments.sessionId.text {} reader window ∧
      investigate (fun _ => someDigest) someDigest DbcMessage.intelDecode (repeatedSessions 8193)
        defaultArguments.sessionId.text {} = .error tooManyRawFrames := by
  obtain ⟨reader, hopened, hdescribes⟩ :=
    @recorded_opened (List.replicate 8193 (fastEngineFrame 1000))
      (by
        rw [InOrder, List.isChain_iff_pairwise, List.pairwise_replicate]
        exact Or.inr le_rfl)
      (fun frame hmem => by
        rw [List.eq_of_mem_replicate hmem]
        decide)
  have hfirst : reader.manifest.firstTimestampMicroseconds = some 1000 := hdescribes.first
  have hlast : reader.manifest.lastTimestampMicroseconds = some 1000 := by
    rw [hdescribes.last, List.getLast?_replicate]
    rfl
  have hframes := hdescribes.reads.2
  have haccepted : AcceptedQuery (fun _ => someDigest) someDigest DbcMessage.intelDecode
      (repeatedSessions 8193) defaultArguments.sessionId.text {} reader
      ⟨1000, 1000, 2000000, 2000000, 1000, 1000⟩ := by
    refine ⟨hopened, ?_, resolveWindow_of_moment hfirst hlast, ⟨_, rfl⟩⟩
    rw [hframes]
    intro frame hmem
    rw [List.eq_of_mem_replicate hmem]
    exact ⟨_, rfl⟩
  obtain ⟨selected, hselected⟩ := haccepted.selection
  have hrefused := investigate_replays packagedDecoder_decodesSignals haccepted.opened
    (haccepted.decodable.framesUpTo _) haccepted.resolved hselected rfl
  have hcount : framesInWindow ⟨1000, 1000, 2000000, 2000000, 1000, 1000⟩
      (reader.frames (fun _ => someDigest)).yielded = 8193 := by
    rw [hframes, framesInWindow, List.countP_replicate]
    rfl
  rw [if_pos (by rw [hcount]; decide)] at hrefused
  exact ⟨reader, _, haccepted, hrefused⟩

/-- The coolant is hot for five seconds. -/
def hotFrames : List RawCanFrame :=
  [hotFrame 1000, fastEngineFrame 1000, hotFrame 5001000, fastEngineFrame 5001000,
    fastEngineFrame 5011000]

/-- The query is for the time when the trouble code is confirmed, and for the signals of its rule. -/
def hotQuery : InvestigationQuery where
  centerTimestampMicroseconds := some 5001000
  diagnosticCode := some "TUN-DME-001"

def hotWindow : InvestigationWindow := ⟨5001000, 5001000, 2000000, 2000000, 3001000, 5011000⟩

theorem hot_accepted :
    ∃ reader, AcceptedQuery (fun _ => someDigest) someDigest DbcMessage.intelDecode
        (recordedSessions hotFrames) defaultArguments.sessionId.text hotQuery reader hotWindow ∧
      reader.frames (fun _ => someDigest) = ⟨hotFrames, none⟩ := by
  obtain ⟨reader, hopened, hdescribes⟩ :=
    @recorded_opened hotFrames (by unfold InOrder; decide) (by decide)
  have hfirst : reader.manifest.firstTimestampMicroseconds = some 1000 := hdescribes.first
  have hlast : reader.manifest.lastTimestampMicroseconds = some 5011000 := hdescribes.last
  have hframes := hdescribes.reads.2
  refine ⟨reader, ⟨hopened, ?_, ?_, ⟨_, rfl⟩⟩, hframes⟩
  · have hdecode : ∀ frame ∈ hotFrames, ((packagedDecoder DbcMessage.intelDecode).decode
        frame).toOption.any (fun _ => true) = true := by decide +kernel
    rw [hframes]
    intro frame hmem
    obtain ⟨decoded, hok, -⟩ := Fallible.exists_ok_of_any (hdecode frame hmem)
    exact ⟨decoded, hok⟩
  · simp only [resolveWindow, hfirst, hlast]
    rfl

/-- The coolant rule is confirmed at the center, and its freeze frame was taken. -/
theorem hot_session_is_investigated :
    ∃ result, investigate (fun _ => someDigest) someDigest DbcMessage.intelDecode
        (recordedSessions hotFrames) defaultArguments.sessionId.text hotQuery = .ok result ∧
      result.diagnosticStatesAtCenter.map (·.status) = [some .active, none, none, none, none] ∧
      result.freezeFramesAtCenter.map (·.code) = ["TUN-DME-001"] ∧
      result.diagnosticEvents.map (fun event => (event.timestampMicroseconds, event.eventType)) =
        [(5001000, .dtcConfirmed)] := by
  obtain ⟨reader, haccepted, hframes⟩ := hot_accepted
  obtain ⟨fresh, hfresh⟩ : ∃ fresh, create (packagedDecoder DbcMessage.intelDecode) 1 1
      defaultDiagnosticEventCapacity = .ok fresh := ⟨_, rfl⟩
  have hreturns := center_state_is_replayed (fun _ => someDigest) someDigest
    DbcMessage.intelDecode packagedDecoder_decodesSignals (recordedSessions hotFrames)
    defaultArguments.sessionId.text hotQuery reader hotWindow haccepted 1 1 fresh hfresh
  rw [hframes, if_neg (by decide)] at hreturns
  obtain ⟨result, centered, trace, ended, hresult, hcentered, hstates, hfreeze, htrace, hevents, -⟩ :=
    hreturns
  -- what such components have at the center, and what they emit up to the end
  have hcenter : (do
      let fresh ← create (packagedDecoder DbcMessage.intelDecode) 1 1 defaultDiagnosticEventCapacity
      let centered ← fresh.replayAll (framesUpTo 5001000 hotFrames)
      let states ← diagnosticStates centered.diagnostics
      let frames ← freezeFrames centered.diagnostics
      return (states.map (·.status), frames.map (·.code)) :
        Except PyException (List (Option DiagnosticStatus) × List String)) =
      .ok ([some .active, none, none, none, none], ["TUN-DME-001"]) := by decide +kernel
  have hemitted : (do
      let fresh ← create (packagedDecoder DbcMessage.intelDecode) 1 1 defaultDiagnosticEventCapacity
      let (trace, _) ← fresh.replayTrace (framesUpTo 5011000 hotFrames)
      return ((trace.flatMap (·.events)).filter
        (fun event => 3001000 ≤ event.timestampMicroseconds)).map
          (fun event => (event.timestampMicroseconds, event.eventType)) :
        Except PyException (List (ℕ × DiagnosticEventType))) =
      .ok [(5001000, .dtcConfirmed)] := by decide +kernel
  rw [hotWindow] at hcentered htrace hevents
  simp only [hfresh, hcentered, hstates, hfreeze, bind, Except.bind, pure, Except.pure] at hcenter
  simp only [hfresh, htrace, bind, Except.bind, pure, Except.pure] at hemitted
  obtain ⟨hstatuses, hcodes⟩ := Prod.mk.inj (Except.ok.inj hcenter)
  refine ⟨result, hresult, hstatuses, hcodes, ?_⟩
  rw [hevents]
  exact Except.ok.inj hemitted

end Recorded

end TunerOs
