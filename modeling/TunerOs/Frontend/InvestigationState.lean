-- SUMMARY: The investigation workspace's cursor values are the last samples of the session at or before the cursor.
import TunerOs.Api.CanSerialization
import TunerOs.Frontend.Following
import TunerOs.Investigation.WindowEvidence

/-!
# The investigation workspace

The workspace finds the value at its cursor in the series of the window or in the
context the window starts with. A sample at the window's start is in both. The context
is looked up by a signal's canonical name, which tells catalogued signals apart because
no message name contains a dot.
-/

namespace TunerOs

open Containers Pipeline

/-! ## The response and the cursor -/

structure InvestigationSignalSeriesResponse where
  definition : SignalDefinition
  samples : List SignalSampleResponse

structure InvestigationResponse where
  startContext : List SignalSampleResponse
  rawFrames : List CanExplorerFrameResponse
  telemetrySeries : List InvestigationSignalSeriesResponse

/-- `InvestigationSignalSeriesResponse(...)`, as `serialize_investigation` calls it. -/
def serializeSeries (series : InvestigationSignalSeries) : InvestigationSignalSeriesResponse where
  definition := series.definition
  samples := series.samples.map (serializeSample · none)

def serializeInvestigation (result : InvestigationResult) : InvestigationResponse where
  startContext := result.startContext.map (serializeSample · none)
  rawFrames := result.rawFrames.map serializeCanFrame
  telemetrySeries := result.telemetrySeries.map serializeSeries

def canonicalSignal (key : SignalKey) : String := key.messageName ++ "." ++ key.signalName

/-- The loop from the newest sample down finds the first that is not past the cursor. -/
def latestAtOrBefore (series : InvestigationSignalSeriesResponse)
    (context : Option SignalSampleResponse) (cursorTimestampMicroseconds : ℕ) :
    Option SignalSampleResponse :=
  match series.samples.reverse.find? (·.timestampMicroseconds ≤ cursorTimestampMicroseconds) with
  | some sample => some sample
  | none => context.filter (·.timestampMicroseconds ≤ cursorTimestampMicroseconds)

/-- `context`, as `EvidenceChart` and `CursorValues` look it up. -/
def InvestigationResponse.contextOf (response : InvestigationResponse)
    (series : InvestigationSignalSeriesResponse) : Option SignalSampleResponse :=
  response.startContext.find?
    (fun sample => canonicalSignal sample.key = canonicalSignal series.definition.key)

/-- `current`: what the chart of a series shows at the cursor. -/
def InvestigationResponse.current (response : InvestigationResponse)
    (series : InvestigationSignalSeriesResponse) (cursor : ℕ) : Option SignalSampleResponse :=
  latestAtOrBefore series (response.contextOf series) cursor

/-! ## Looking up the context -/

theorem canonicalSignal_inj {a b : SignalKey} (ha : '.' ∉ a.messageName.toList)
    (hb : '.' ∉ b.messageName.toList) (h : canonicalSignal a = canonicalSignal b) : a = b := by
  have hlist := congrArg String.toList h
  simp only [canonicalSignal, String.toList_append, List.append_assoc] at hlist
  exact SignalKey.eq_of_joined ha hb hlist

theorem packagedCatalog_dotless {key : SignalKey} (h : packagedCatalog.Knows key) :
    '.' ∉ key.messageName.toList := by
  have hmessages : ∀ message ∈ packagedCatalog.messages, '.' ∉ message.messageName.toList := by
    decide
  obtain ⟨message, hmem, hname⟩ := h.exists_message
  exact hname ▸ hmessages message hmem

/-- In a list of what some keys have, searching for a key finds what that key has. -/
theorem find?_filterMap_key {keys : List SignalKey} {f : SignalKey → Option SignalSampleResponse}
    {name : SignalKey → String} {key : SignalKey}
    (hkeyed : ∀ other ∈ keys, ∀ sample, f other = some sample → sample.key = other)
    (hname : ∀ other ∈ keys, name other = name key → other = key) (hmem : key ∈ keys) :
    (keys.filterMap f).find? (fun sample => name sample.key = name key) = f key := by
  have hfound : ∀ sample ∈ keys.filterMap f, name sample.key = name key → f key = some sample := by
    intro sample hsample hsame
    obtain ⟨other, hother, hget⟩ := List.mem_filterMap.1 hsample
    rw [hkeyed other hother sample hget] at hsame
    rw [← hname other hother hsame, hget]
  cases hget : f key with
  | none =>
    refine List.find?_eq_none.2 fun sample hsample hsame => ?_
    rw [hfound sample hsample (of_decide_eq_true hsame)] at hget
    cases hget
  | some sample =>
    have hlisted : sample ∈ keys.filterMap f := List.mem_filterMap.2 ⟨key, hmem, hget⟩
    have hkey := hkeyed key hmem sample hget
    have hsome : ((keys.filterMap f).find? (fun sample => name sample.key = name key)).isSome :=
      List.find?_isSome.2 ⟨sample, hlisted, decide_eq_true (hkey ▸ rfl)⟩
    obtain ⟨first, hfirst⟩ := Option.isSome_iff_exists.1 hsome
    have hsame : name first.key = name key := by simpa using List.find?_some hfirst
    rw [hfirst, ← hfound first (List.mem_of_find?_eq_some hfirst) hsame, hget]

/-! ## The value at the cursor -/

section Cursor

variable {decoder : Decoder} {catalog : SignalCatalog} {window : InvestigationWindow}
  {selected : List SignalKey} {frames : List RawCanFrame} {result : InvestigationResult}

theorem latestAtOrBefore_eq_or (series : InvestigationSignalSeriesResponse)
    (context : Option SignalSampleResponse) (cursor : ℕ) :
    latestAtOrBefore series context cursor =
      (series.samples.reverse.find? (·.timestampMicroseconds ≤ cursor)).or
        (context.filter (·.timestampMicroseconds ≤ cursor)) := by
  unfold latestAtOrBefore
  split
  · rename_i sample hfound
    rw [hfound, Option.some_or]
  · rename_i hnone
    rw [hnone, Option.none_or]

theorem lastSample_key {key : SignalKey} {timestamp : ℕ} {sample : SignalSample}
    (h : lastSample decoder catalog frames key timestamp = some sample) : sample.key = key := by
  have hmem := List.mem_of_getLast? h
  exact of_decide_eq_true (List.mem_filter.1 (List.mem_filter.1 hmem).1).2

/-- The context of a series is the last sample of its signal at the start of the window. -/
theorem contextOf_eq (h : result.Holds decoder catalog window selected frames)
    (hnamed : ∀ key ∈ selected, '.' ∉ key.messageName.toList)
    {series : InvestigationSignalSeries} (hkey : series.definition.key ∈ selected) :
    (serializeInvestigation result).contextOf (serializeSeries series) =
      (lastSample decoder catalog frames series.definition.key
        window.startTimestampMicroseconds).map (serializeSample · none) := by
  unfold InvestigationResponse.contextOf serializeInvestigation
  simp only []
  rw [h.startContext, List.map_filterMap]
  refine find?_filterMap_key (fun other _ sample hsample => ?_) (fun other hother hsame => ?_) hkey
  · obtain ⟨last, hlast, rfl⟩ := Option.map_eq_some_iff.1 hsample
    exact lastSample_key hlast
  · exact canonicalSignal_inj (hnamed other hother) (hnamed _ hkey) hsame

/-- At every cursor in the window, the workspace shows the last sample of the session at or before
the cursor. -/
theorem current_eq (h : result.Holds decoder catalog window selected frames)
    (hordered : InOrder frames) (hnamed : ∀ key ∈ selected, '.' ∉ key.messageName.toList)
    {series : InvestigationSignalSeries} (hmem : series ∈ result.telemetrySeries) {cursor : ℕ}
    (hcursor : window.Contains cursor) :
    (serializeInvestigation result).current (serializeSeries series) cursor =
      (lastSample decoder catalog frames series.definition.key cursor).map
        (serializeSample · none) := by
  have hkey : series.definition.key ∈ selected := h.keys ▸ List.mem_map_of_mem hmem
  have hsorted : (samplesOf series.definition.key (artifactSamples decoder catalog frames)).Pairwise
      (fun a b => a.timestampMicroseconds ≤ b.timestampMicroseconds) :=
    (artifactSamples_sorted hordered).filter _
  have hsearch : (serializeSeries series).samples.reverse.find?
        (·.timestampMicroseconds ≤ cursor) =
      (Timeline.upTo (·.timestampMicroseconds) cursor series.samples).getLast?.map
        (serializeSample · none) := by
    unfold serializeSeries
    rw [← List.map_reverse, List.find?_map]
    exact congrArg _ (Timeline.find?_reverse _ _)
  rw [InvestigationResponse.current, latestAtOrBefore_eq_or, contextOf_eq h hnamed hkey, hsearch,
    Option.filter_map, ← Option.map_or, h.samples series hmem]
  exact congrArg _ (Timeline.getLast?_upTo hsorted hcursor.1 hcursor.2).symm

end Cursor

/-! ## Investigations of complete sessions -/

/-- For every complete session, accepted window and selection, the window lies in the session, with
its center in it. If the frames up to the end of the window are decoded, the investigation is
refused exactly when the window holds too many of them; otherwise it returns the frames of the
window with their places in the session, and one series for each selected signal, for which the
workspace shows at every cursor in the window the last sample of the signal in the session at or
before the cursor. A frame up to the end that is not decoded stops the investigation with the
decoder's error, unless too many frames of the window come before it. -/
theorem cursor_shows_the_session (sha256 : Bytes → Sha256Digest) (authoritative : Sha256Digest)
    (messageDecode : DbcMessage → Bytes → Option (Dict String CanmatrixValue))
    (hdecodes : (packagedDecoder messageDecode).DecodesSignals) (sessions : SessionCatalog)
    (sessionId : String) (query : InvestigationQuery) (reader : SessionReader)
    (window : InvestigationWindow) (selected : List SignalKey)
    (hopened : sessions.reader sha256 authoritative sessionId true = .ok reader)
    (hwindow : resolveWindow reader.manifest query.centerTimestampMicroseconds
      query.beforeMicroseconds query.afterMicroseconds = .ok window)
    (hselected : resolveSignals packagedCatalog defaultDiagnosticCatalog query.selectedSignals
      query.diagnosticCode = .ok selected) :
    (∃ first last, reader.manifest.firstTimestampMicroseconds = some first ∧
      reader.manifest.lastTimestampMicroseconds = some last ∧
      first ≤ window.startTimestampMicroseconds ∧
      window.startTimestampMicroseconds ≤ window.centerTimestampMicroseconds ∧
      window.centerTimestampMicroseconds ≤ window.endTimestampMicroseconds ∧
      window.endTimestampMicroseconds ≤ last) ∧
    (Decodable (packagedDecoder messageDecode)
        (framesUpTo window.endTimestampMicroseconds (reader.frames sha256).yielded) →
      if maxInvestigationRawFrames < framesInWindow window (reader.frames sha256).yielded then
        investigate sha256 authoritative messageDecode sessions sessionId query =
          .error tooManyRawFrames
      else ∃ result,
        investigate sha256 authoritative messageDecode sessions sessionId query = .ok result ∧
        result.window = window ∧
        result.rawFrames.map (fun frame => (frame.rawFrame, frame.sequence)) =
          (reader.frames sha256).yielded.zipIdx.filter
            (fun entry => window.Contains entry.1.timestampMicroseconds) ∧
        result.telemetrySeries.map (·.definition.key) = selected ∧
        ∀ series ∈ result.telemetrySeries, ∀ cursor, window.Contains cursor →
          (serializeInvestigation result).current (serializeSeries series) cursor =
            (lastSample (packagedDecoder messageDecode) packagedCatalog
              (reader.frames sha256).yielded series.definition.key cursor).map
                (serializeSample · none)) ∧
    ∀ before bad after error, (reader.frames sha256).yielded = before ++ bad :: after →
      Decodable (packagedDecoder messageDecode) before →
      (packagedDecoder messageDecode).decode bad = .error error →
      bad.timestampMicroseconds ≤ window.endTimestampMicroseconds →
      investigate sha256 authoritative messageDecode sessions sessionId query =
        .error (if maxInvestigationRawFrames < framesInWindow window before then tooManyRawFrames
          else error) := by
  obtain ⟨first, last, hfirst, hlast, hstart, hend⟩ := resolveWindow_within hwindow
  have hcenter := resolveWindow_ok hwindow
  refine ⟨⟨first, last, hfirst, hlast, hstart, hcenter.1, hcenter.2, hend⟩, ?_, ?_⟩
  · intro hdecodable
    have hreturns := investigate_replays hdecodes hopened hdecodable hwindow hselected rfl
    split
    · rename_i hmany
      rwa [if_pos hmany] at hreturns
    · rename_i hfew
      rw [if_neg hfew] at hreturns
      obtain ⟨result, -, -, -, hresult, -⟩ := hreturns
      obtain ⟨hsame, hholds⟩ := investigate_holds hopened hwindow hselected hresult
      obtain ⟨frames, hframes, hordered, -⟩ :=
        SessionReader.validateIntegrity_ok (SessionCatalog.reader_ok hopened)
      have hnamed : ∀ key ∈ selected, '.' ∉ key.messageName.toList := by
        intro key hkey
        obtain ⟨definition, hrequire⟩ := resolveSignals_ok hselected key hkey
        exact packagedCatalog_dotless ⟨definition, SignalCatalog.require_ok_iff.1 hrequire⟩
      have hinOrder : InOrder (reader.frames sha256).yielded := by
        rw [hframes]
        exact hordered
      exact ⟨result, hresult, hsame, hholds.rawFrames, hholds.keys, fun series hmem cursor hcursor =>
        current_eq hholds hinOrder hnamed hmem hcursor⟩
  · intro before bad after error hframes hbefore hdecode hwithin
    exact investigate_error hdecodes hopened hwindow hselected hframes hbefore hwithin hdecode

/-! ## A session with a frame of an unlisted ID -/

section Unlisted

def unlistedSessions : SessionCatalog := recordedSessions [unlistedFrame]

/-- The session is complete and its window and selection are accepted, but the investigation neither
is refused for its size nor returns. -/
theorem unlisted_frame_stops_the_investigation :
    ∃ reader window selected, unlistedSessions.reader (fun _ => someDigest) someDigest
        defaultArguments.sessionId.text true = .ok reader ∧
      resolveWindow reader.manifest none defaultWindowBeforeMicroseconds
        defaultWindowAfterMicroseconds = .ok window ∧
      resolveSignals packagedCatalog defaultDiagnosticCatalog none none = .ok selected ∧
      framesInWindow window (reader.frames (fun _ => someDigest)).yielded = 1 ∧
      investigate (fun _ => someDigest) someDigest DbcMessage.intelDecode unlistedSessions
        defaultArguments.sessionId.text {} = .error (Decoder.unknownCanFrame 0x7FF) ∧
      Decoder.unknownCanFrame 0x7FF ≠ tooManyRawFrames := by
  obtain ⟨reader, hopened, hdescribes⟩ :=
    @recorded_opened [unlistedFrame] (List.isChain_singleton _) (by decide)
  have hfirst : reader.manifest.firstTimestampMicroseconds = some 1000 := hdescribes.first
  have hlast : reader.manifest.lastTimestampMicroseconds = some 1000 := hdescribes.last
  have hframes := hdescribes.reads.2
  have hwindow := resolveWindow_of_moment hfirst hlast
  have hselected : ∃ selected, resolveSignals packagedCatalog defaultDiagnosticCatalog none none =
      .ok selected := ⟨_, rfl⟩
  obtain ⟨selected, hselected⟩ := hselected
  have hyielded : (reader.frames (fun _ => someDigest)).yielded = [] ++ unlistedFrame :: [] := by
    rw [hframes]
    rfl
  have hbefore : Decodable (packagedDecoder DbcMessage.intelDecode) [] := List.forall_mem_nil _
  have hdecode : (packagedDecoder DbcMessage.intelDecode).decode unlistedFrame =
      .error (Decoder.unknownCanFrame 0x7FF) := rfl
  have hwithin : unlistedFrame.timestampMicroseconds ≤ 1000 := le_rfl
  refine ⟨reader, _, selected, hopened, hwindow, hselected, ?_, ?_, by decide⟩
  · rw [hframes]
    rfl
  · exact investigate_error packagedDecoder_decodesSignals hopened hwindow hselected hyielded hbefore
      hwithin hdecode

end Unlisted

/-! ## A window that starts with a value -/

section Hot

/-- The hot session has a coolant temperature at its start and another at the query's center. -/
theorem lastSample_hot {cursor : ℕ} (hstart : 1000 ≤ cursor) :
    (lastSample (packagedDecoder DbcMessage.intelDecode) packagedCatalog hotFrames .coolant
        cursor).map (fun sample => (sample.value, sample.timestampMicroseconds)) =
      some (.float 120, if cursor < 5001000 then 1000 else 5001000) := by
  have hsamples : (samplesOf .coolant (artifactSamples (packagedDecoder DbcMessage.intelDecode)
      packagedCatalog hotFrames)).map (fun sample => (sample.value, sample.timestampMicroseconds)) =
      [(.float 120, 1000), (.float 120, 5001000)] := by decide +kernel
  obtain ⟨early, rest, hlist, hearly, hrest⟩ := List.map_eq_cons_iff.1 hsamples
  obtain ⟨late, tail, hlast, hlate, htail⟩ := List.map_eq_cons_iff.1 hrest
  obtain ⟨hearly, hearlyTime⟩ := Prod.mk.inj hearly
  obtain ⟨hlate, hlateTime⟩ := Prod.mk.inj hlate
  rw [List.map_eq_nil_iff] at htail
  rw [lastSample, signalSamples, hlist, hlast, htail]
  by_cases hbefore : cursor < 5001000
  · have hlater : ¬ 5001000 ≤ cursor := not_le.2 hbefore
    simp [hstart, hlater, hbefore, hearly, hearlyTime, hlateTime]
  · have hreached : 5001000 ≤ cursor := not_lt.1 hbefore
    simp [hstart, hreached, hbefore, hlate, hearlyTime, hlateTime]

/-- In the window of the hot session, the frames have the numbers they were recorded with. Up to the
center the cursor shows the coolant temperature from before the window, and then the new one. -/
theorem hot_session_is_shown :
    ∃ result, investigate (fun _ => someDigest) someDigest DbcMessage.intelDecode
        (recordedSessions hotFrames) defaultArguments.sessionId.text hotQuery = .ok result ∧
      result.rawFrames.map (·.sequence) = [2, 3, 4] ∧
      result.telemetrySeries.map (·.definition.key) = [.coolant] ∧
      ∀ series ∈ result.telemetrySeries, ∀ cursor, hotWindow.Contains cursor →
        ((serializeInvestigation result).current (serializeSeries series) cursor).map
            (fun sample => (sample.value, sample.timestampMicroseconds)) =
          some (.number 120, if cursor < 5001000 then 1000 else 5001000) := by
  obtain ⟨reader, haccepted, hframes⟩ := hot_accepted
  obtain ⟨selected, hselected⟩ := haccepted.selection
  have hcoolant : resolveSignals packagedCatalog defaultDiagnosticCatalog none
      (some "TUN-DME-001") = .ok [.coolant] := by decide +kernel
  have hkeys : selected = [.coolant] := Except.ok.inj (hselected.symm.trans hcoolant)
  obtain ⟨-, hshown, -⟩ := cursor_shows_the_session (fun _ => someDigest) someDigest
    DbcMessage.intelDecode packagedDecoder_decodesSignals (recordedSessions hotFrames)
    defaultArguments.sessionId.text hotQuery reader hotWindow selected haccepted.opened
    haccepted.resolved hselected
  have hshown := hshown (haccepted.decodable.framesUpTo _)
  rw [hframes, if_neg (by decide), hkeys] at hshown
  obtain ⟨result, hresult, -, hraw, hlisted, hcurrent⟩ := hshown
  refine ⟨result, hresult, ?_, hlisted, fun series hmem cursor hcursor => ?_⟩
  · have hplaces := congrArg (List.map Prod.snd) hraw
    rw [List.map_map] at hplaces
    exact hplaces.trans (by decide +kernel)
  · have hkey : series.definition.key = .coolant := by
      have hmapped := List.mem_map_of_mem (f := (·.definition.key)) hmem
      rw [hlisted] at hmapped
      exact List.mem_singleton.1 hmapped
    have hlast := lastSample_hot (le_trans (by decide) hcursor.1 : 1000 ≤ cursor)
    rw [hcurrent series hmem cursor hcursor, hkey]
    obtain ⟨sample, hsample, hvalue⟩ := Option.map_eq_some_iff.1 hlast
    obtain ⟨hvalue, htime⟩ := Prod.mk.inj hvalue
    rw [hsample, ← htime]
    simp [serializeSample, serializeValue, hvalue]

end Hot

end TunerOs
