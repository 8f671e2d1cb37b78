-- SUMMARY: The freshness a client shows is the one a sample had when it was sent; when that is the current one.
import TunerOs.Frontend.Agreement

/-!
# Freshness in the browser

A delta carries the freshness of one frame's samples at the instant they were
ingested, when all of them are fresh. The client never judges a sample again: it
shows `stale` for exactly those samples of the initial snapshot that were stale
then and have not been replaced. What it shows is right as long as no signal goes
stale afterwards.
-/

namespace TunerOs

open Containers Fallible Transition

namespace TelemetryEngine

/-! ## Ages -/

/-- The sample is older than two of its signal's periods at the engine's latest timestamp. -/
def HasAged (engine : TelemetryEngine) (sample : SignalSample) : Prop :=
  ∃ definition latest, engine.catalog.get? sample.key = some definition ∧
    engine.latestTimestampMicroseconds = some latest ∧
    sample.timestampMicroseconds + 2 * definition.expectedPeriodMicroseconds < latest

instance (engine : TelemetryEngine) (sample : SignalSample) : Decidable (engine.HasAged sample) :=
  decidable_of_iff (∃ definition ∈ engine.catalog.get? sample.key,
      ∃ latest ∈ engine.latestTimestampMicroseconds,
        sample.timestampMicroseconds + 2 * definition.expectedPeriodMicroseconds < latest) <| by
    simp only [HasAged, Option.mem_def, exists_and_left]

theorem stale_iff_hasAged {engine : TelemetryEngine} {sample : SignalSample}
    {definition : SignalDefinition} {latest : ℕ}
    (hdefinition : engine.catalog.get? sample.key = some definition)
    (hlatest : engine.latestTimestampMicroseconds = some latest)
    (hle : sample.timestampMicroseconds ≤ latest) :
    (if latest - sample.timestampMicroseconds ≤ 2 * definition.expectedPeriodMicroseconds
      then SignalFreshness.fresh else .stale) = .stale ↔ engine.HasAged sample := by
  constructor
  · intro hstale
    refine ⟨definition, latest, hdefinition, hlatest, ?_⟩
    split at hstale
    · cases hstale
    · omega
  · rintro ⟨definition', latest', hdefinition', hlatest', haged⟩
    rw [hdefinition] at hdefinition'
    rw [hlatest] at hlatest'
    cases hdefinition'
    cases hlatest'
    refine if_neg ?_
    omega

/-- Judged at the engine's latest timestamp, an observed signal is stale exactly if it has aged. -/
theorem Sound.freshnessAt {engine : TelemetryEngine} (h : engine.Sound) {key : SignalKey}
    {sample : SignalSample} (hget : engine.latest.get? key = some sample) {observation : ℕ}
    (hlatest : engine.latestTimestampMicroseconds = some observation) :
    ∃ status, engine.freshnessAt key observation = .ok (some status) ∧
      (status = .stale ↔ engine.HasAged sample) := by
  obtain ⟨rfl, ⟨definition, hdefinition⟩, latest, hlatest', hle⟩ := h.observed key sample hget
  rw [hlatest] at hlatest'
  cases hlatest'
  have hrequire := SignalCatalog.require_ok_iff.2 hdefinition
  have htwice : definition.expectedPeriodMicroseconds * freshnessPeriodMultiplier =
      2 * definition.expectedPeriodMicroseconds := Nat.mul_comm ..
  refine ⟨_, ?_, stale_iff_hasAged hdefinition hlatest hle⟩
  simp only [TelemetryEngine.freshnessAt, hrequire, hget, bind, Except.bind, sampleFreshness,
    if_neg (not_lt.2 hle), htwice]
  rfl

/-- Time only moves on, so what has aged stays so. -/
theorem HasAged.ingest {engine engine' : TelemetryEngine} {sample : SignalSample}
    (h : engine.HasAged sample) {frame : DecodedCanFrame} {samples : List SignalSample}
    (hingest : engine.ingest frame = .ok (samples, engine')) : engine'.HasAged sample := by
  obtain ⟨definition, latest, hdefinition, hlatest, hlt⟩ := h
  obtain ⟨hlater, definitions, -, -, rfl⟩ := ingest_ok_iff.1 hingest
  rw [laterThan_eq_none] at hlater
  rw [accept_eq]
  exact ⟨definition, _, hdefinition, rfl, hlt.trans_le (hlater latest hlatest)⟩

/-- The latest samples are of frames before the next. -/
def Numbered (engine : TelemetryEngine) : Prop :=
  ∀ key sample, engine.latest.get? key = some sample →
    sample.frameSequence < engine.nextFrameSequence

theorem Numbered.ingest {engine engine' : TelemetryEngine} (h : engine.Numbered)
    {frame : DecodedCanFrame} {samples : List SignalSample}
    (hingest : engine.ingest frame = .ok (samples, engine')) : engine'.Numbered := by
  obtain ⟨-, definitions, -, rfl, rfl⟩ := ingest_ok_iff.1 hingest
  intro key sample hget
  rw [accept_eq] at hget ⊢
  rcases Dict.get?_foldl_set_cases hget with ⟨written, hmem, -, rfl⟩ | ⟨-, hold⟩
  · rw [(mem_samples hmem).2.1]
    exact Nat.lt_succ_self _
  · exact (h key sample hold).trans (Nat.lt_succ_self _)

theorem TelemetryMove.numbered {engine engine' : TelemetryEngine}
    (hmove : TelemetryService.TelemetryMove engine engine') (h : engine.Numbered) :
    engine'.Numbered := by
  cases hmove with
  | keep => exact h
  | reset => exact nofun
  | ingest frame samples _ hingest => exact h.ingest hingest

end TelemetryEngine

/-! ## What the client was told -/

/-- The client shows `engine`, and as stale exactly those samples that were stale in `start`. -/
def Judges (start engine : TelemetryEngine) (state : TelemetryClientState) : Prop :=
  ∀ key sample, engine.latest.get? key = some sample → ∃ shown status,
    state.samples.get? (signalKeyId key) = some shown ∧ shown.freshness = some status ∧
    (status = .stale ↔ start.latest.get? key = some sample ∧ start.HasAged sample)

/-- The samples of a sound engine are of known signals, so their IDs tell them apart. -/
theorem TelemetryEngine.Sound.key_of_id {engine : TelemetryEngine} (h : engine.Sound)
    (hcatalog : engine.catalog.Separable) {key other : SignalKey} {sample : SignalSample}
    (hget : engine.latest.get? key = some sample) (hother : engine.catalog.Knows other)
    (hid : signalKeyId other = signalKeyId key) : other = key :=
  signalKeyId_inj (hcatalog.separator hother) (hcatalog.separator (h.observed key sample hget).2.1)
    hid

theorem judges_initialSnapshot {s : TelemetryService} (hsound : s.pipeline.telemetry.Sound)
    (hcatalog : s.pipeline.telemetry.catalog.Separable) {first : TelemetrySnapshotResponse}
    (hfirst : initialSnapshot s = .ok first) (state : TelemetryClientState) :
    Judges s.pipeline.telemetry s.pipeline.telemetry
      (telemetryReducer state (.initialSnapshot first)) := by
  obtain ⟨snapshot, hsnapshot, hsamples, -⟩ := hsound.snapshot
  have hsignals : first.signals = s.pipeline.telemetry.latest.entries.map
      (fun entry => serializeSample entry.2 (snapshot.freshness.get? entry.1)) := by
    simp only [initialSnapshot, TelemetryService.subscribe, hsnapshot, serializeSnapshot, bind,
      Except.bind, pure, Except.pure] at hfirst
    split at hfirst
    · cases hfirst
    · cases hfirst
      rw [hsamples]
  intro key sample hget
  obtain ⟨definition, latest, hdefinition, hlatest, hle, hstatus⟩ :=
    hsound.snapshot_freshness hsnapshot hget
  have hkey := (hsound.observed key sample hget).1
  have hsome : ((telemetryReducer state (.initialSnapshot first)).samples.get?
      (signalKeyId key)).isSome := by
    refine Dict.isSome_foldl_set (Or.inl ⟨serializeSample sample (snapshot.freshness.get? key), ?_, ?_⟩)
    · rw [hsignals]
      exact List.mem_map_of_mem (f := fun entry : SignalKey × SignalSample =>
        serializeSample entry.2 (snapshot.freshness.get? entry.1)) (Dict.mem_entries_iff.2 hget)
    · exact congrArg signalKeyId hkey
  obtain ⟨shown, hshown⟩ := Option.isSome_iff_exists.1 hsome
  -- No other signal has this ID, so the entry shown is the one sent for the key.
  have hsent : shown.freshness = snapshot.freshness.get? key := by
    rcases Dict.get?_foldl_set_cases hshown with ⟨sent, hmem, hid, rfl⟩ | ⟨-, hempty⟩
    · rw [hsignals, List.mem_map] at hmem
      obtain ⟨⟨other, othersample⟩, hentry, rfl⟩ := hmem
      have hother := hsound.observed other othersample (Dict.mem_entries_iff.1 hentry)
      obtain rfl : other = key := by
        refine hsound.key_of_id hcatalog hget hother.2.1 ?_
        rw [← hother.1]
        exact hid
      rfl
    · cases hempty
  refine ⟨shown, _, hshown, hsent.trans hstatus, ?_⟩
  rw [TelemetryEngine.stale_iff_hasAged (hkey ▸ hdefinition) hlatest hle]
  exact (and_iff_right hget).symm

/-- A sample is judged at the timestamp of its own frame, so every delta says `fresh`. -/
theorem updateOf_fresh {engine : TelemetryEngine} (hsound : engine.Sound) {frame : DecodedCanFrame}
    {samples : List SignalSample} {update : TelemetryUpdate}
    (hsamples : ∀ sample ∈ samples, ∃ written ∈ samples,
      engine.latest.get? sample.key = some written)
    (hlatest : engine.latestTimestampMicroseconds = some frame.timestampMicroseconds)
    (htimes : ∀ sample ∈ samples, sample.timestampMicroseconds = frame.timestampMicroseconds)
    (hupdate : Pipeline.updateOf frame samples engine = .ok update) :
    ∀ status ∈ update.freshness, status = .fresh := by
  unfold Pipeline.updateOf at hupdate
  split at hupdate
  · cases hupdate
  · rename_i freshness hfreshness
    split at hupdate
    · cases hupdate
    · cases hupdate
      intro status hmem
      obtain ⟨sample, hsample, hstatus⟩ := (mem_of_mapM hfreshness).1 hmem
      obtain ⟨written, hwritten, hget⟩ := hsamples sample hsample
      obtain ⟨-, ⟨definition, hdefinition⟩, -⟩ := hsound.observed _ _ hget
      have hrequire := SignalCatalog.require_ok_iff.2 hdefinition
      simp only [Pipeline.acceptedFreshness, TelemetryEngine.freshness, hrequire, hget, hlatest,
        bind, Except.bind, pure, Except.pure, TelemetryEngine.sampleFreshness,
        htimes written hwritten, lt_irrefl, if_false, Nat.sub_self, Nat.zero_le, if_true] at hstatus
      cases hstatus
      rfl

section Signals

variable {update : TelemetryUpdate}

/-- The signals of a message are the update's samples with their freshness. -/
theorem mem_signals {shown : SignalSampleResponse} (hmem : shown ∈ (serializeUpdate update).signals) :
    ∃ sample ∈ update.samples, ∃ status ∈ update.freshness,
      shown = serializeSample sample (some status) := by
  simp only [serializeUpdate, ← List.map_uncurry_zip_eq_zipWith] at hmem
  obtain ⟨⟨sample, status⟩, hpair, rfl⟩ := List.mem_map.1 hmem
  obtain ⟨hsample, hstatus⟩ := List.of_mem_zip hpair
  exact ⟨sample, hsample, status, hstatus, rfl⟩

theorem exists_mem_signals (hlength : update.freshness.length = update.samples.length)
    {sample : SignalSample} (hmem : sample ∈ update.samples) :
    ∃ status, serializeSample sample (some status) ∈ (serializeUpdate update).signals := by
  obtain ⟨index, hindex, rfl⟩ := List.mem_iff_getElem.1 hmem
  have hstatus : index < update.freshness.length := hlength ▸ hindex
  refine ⟨update.freshness[index], List.mem_iff_getElem.2 ⟨index, ?_, ?_⟩⟩
  · rw [serializeUpdate, List.length_zipWith, hlength, min_self]
    exact hindex
  · simp only [serializeUpdate, List.getElem_zipWith]

end Signals

/-- An update of an accepted frame replaces samples by fresh ones and judges no other. -/
theorem Judges.update {start engine engine' : TelemetryEngine} {state : TelemetryClientState}
    (h : Judges start engine state) (hshows : Shows engine state) (hsound : engine.Sound)
    (hcatalog : engine.catalog.Separable) (hnumbered : start.Numbered)
    (hgrows : start.nextFrameSequence ≤ engine.nextFrameSequence)
    {frame : DecodedCanFrame} {samples : List SignalSample} {update : TelemetryUpdate}
    (hingest : engine.ingest frame = .ok (samples, engine'))
    (hupdate : Pipeline.updateOf frame samples engine' = .ok update) :
    Judges start engine' (applyUpdate state (serializeUpdate update)) := by
  have hsound' := hsound.ingest hingest
  obtain ⟨-, haccept, -⟩ := hshows.accepts hsound hingest hupdate
  obtain ⟨-, hwritten⟩ := TelemetryEngine.ingest_writes hingest
  obtain ⟨-, definitions, -, -, rfl⟩ := TelemetryEngine.ingest_ok_iff.1 hingest
  obtain ⟨hcarried, hlength⟩ : update.samples = samples ∧
      update.freshness.length = update.samples.length := by
    obtain ⟨_, _, _, -, hlength, rfl⟩ := Pipeline.updateOf_ok hupdate
    exact ⟨rfl, hlength⟩
  have hfresh := updateOf_fresh hsound' (fun sample hmem => engine.accept_latest_mem frame hmem)
    (by rw [TelemetryEngine.accept_eq]) (fun sample hmem => (hwritten sample hmem).1) hupdate
  rw [haccept]
  intro key sample hget
  rw [TelemetryEngine.accept_eq] at hget
  rcases Dict.get?_foldl_set_cases hget with ⟨written, hmem, rfl, rfl⟩ | ⟨hothers, hold⟩
  -- The frame carries the signal: the client writes a sample of this ID, and all it writes are fresh.
  · obtain ⟨sent, hsent⟩ := exists_mem_signals hlength (hcarried ▸ hmem)
    have hsome : (((serializeUpdate update).signals.foldl
        (fun samples sample => samples.set (signalKeyId sample.key) sample) state.samples).get?
        (signalKeyId written.key)).isSome :=
      Dict.isSome_foldl_set (Or.inl ⟨_, hsent, rfl⟩)
    obtain ⟨shown, hshown⟩ := Option.isSome_iff_exists.1 hsome
    refine ⟨shown, .fresh, hshown, ?_, ?_⟩
    · rcases Dict.get?_foldl_set_cases hshown with ⟨found, hfound, -, rfl⟩ | ⟨hnone, -⟩
      · obtain ⟨_, -, status, hstatus, rfl⟩ := mem_signals hfound
        exact congrArg some (hfresh status hstatus)
      · exact absurd rfl (hnone _ hsent)
    · refine ⟨nofun, ?_⟩
      rintro ⟨hstart, -⟩
      -- A sample just written is numbered past every sample of the start.
      have hbefore := hnumbered _ _ hstart
      rw [(hwritten written hmem).2.1] at hbefore
      exact absurd hgrows (Nat.not_le.2 hbefore)
  -- The frame does not carry it: neither side touches it.
  · obtain ⟨shown, status, hshown, hstatus, hiff⟩ := h key sample hold
    refine ⟨shown, status, ?_, hstatus, hiff⟩
    refine (Dict.get?_foldl_set_of_ne ?_).trans hshown
    intro sent hsent hid
    obtain ⟨written, hmem, _, -, rfl⟩ := mem_signals hsent
    rw [hcarried] at hmem
    exact hothers written hmem (hsound.key_of_id hcatalog hold (hwritten written hmem).2.2 hid)

/-! ## Following a service -/

/-- For every signal the client has a sample of, it shows the freshness the engine gives the signal
at the client's observation timestamp. -/
def ShowsFreshness (engine : TelemetryEngine) (state : TelemetryClientState) : Prop :=
  ∀ key definition shown observation, engine.catalog.get? key = some definition →
    state.samples.get? (signalKeyId key) = some shown →
      state.observationTimestampMicroseconds = some observation →
        engine.freshnessAt key observation = .ok shown.freshness

/-- What the client was told is right exactly if no signal has gone stale since `start`. -/
theorem Judges.showsFreshness_iff {start engine : TelemetryEngine} {state : TelemetryClientState}
    (h : Judges start engine state) (hshows : Shows engine state) (hsound : engine.Sound)
    (haged : ∀ sample, start.HasAged sample → engine.HasAged sample) :
    ShowsFreshness engine state ↔
      ∀ key sample, engine.latest.get? key = some sample → engine.HasAged sample →
        start.latest.get? key = some sample ∧ start.HasAged sample := by
  constructor
  · intro hcurrent key sample hget hold
    obtain ⟨-, ⟨definition, hdefinition⟩, latest, hlatest, -⟩ := hsound.observed key sample hget
    obtain ⟨shown, status, hshown, hstatus, hiff⟩ := h key sample hget
    obtain ⟨judged, hjudged, hstale⟩ := hsound.freshnessAt hget hlatest
    have hsame := hcurrent key definition shown latest hdefinition hshown
      (hshows.observation.trans hlatest)
    rw [hjudged, hstatus] at hsame
    cases hsame
    exact hiff.1 (hstale.2 hold)
  · intro hquiet key definition shown observation hdefinition hshown hobservation
    have hsamples := hshows.samples.shown key ⟨definition, hdefinition⟩
    rw [hshown] at hsamples
    obtain ⟨sample, hget, -⟩ := Option.map_eq_some_iff.1 hsamples.symm
    obtain ⟨shown', status, hshown', hstatus, hiff⟩ := h key sample hget
    rw [hshown] at hshown'
    cases hshown'
    obtain ⟨judged, hjudged, hstale⟩ := hsound.freshnessAt hget
      (hshows.observation.symm.trans hobservation)
    have hboth : judged = .stale ↔ status = .stale := by
      rw [hstale, hiff]
      exact ⟨fun hold => hquiet key sample hget hold, fun hstart => haged sample hstart.2⟩
    have hsame : judged = status := by
      cases judged <;> cases status <;> simp at hboth ⊢
    rw [hjudged, hstatus, hsame]

namespace TelemetryService

/-- `Follows`, with the freshness of the samples. -/
structure FollowsFreshness (s t : TelemetryService) : Prop extends Follows s t where
  grows : s.pipeline.telemetry.nextFrameSequence ≤ t.pipeline.telemetry.nextFrameSequence
  aged : ∀ sample, s.pipeline.telemetry.HasAged sample → t.pipeline.telemetry.HasAged sample
  judges : ∀ client, Shows s.pipeline.telemetry client →
    Judges s.pipeline.telemetry s.pipeline.telemetry client →
      Judges s.pipeline.telemetry t.pipeline.telemetry
        ((sentUpdates (t.published.drop s.published.length)).foldl applyUpdate client)

theorem FollowsFreshness.refl {s : TelemetryService} (h : s.pipeline.telemetry.Sound) :
    FollowsFreshness s s where
  toFollows := .refl h
  grows := le_rfl
  aged := fun _ haged => haged
  judges := by
    intro client _ hclient
    rw [List.drop_length]
    exact hclient

theorem FollowsFreshness.silent {s t u : TelemetryService} (h : FollowsFreshness s t)
    (htelemetry : u.pipeline.telemetry = t.pipeline.telemetry)
    {events : List TelemetryServiceEvent} (hpublished : u.published = t.published ++ events)
    (hsilent : sentUpdates events = []) : FollowsFreshness s u where
  toFollows := h.toFollows.silent htelemetry hpublished hsilent
  grows := htelemetry ▸ h.grows
  aged := htelemetry ▸ h.aged
  judges := by
    intro client hshows hclient
    rw [htelemetry, hpublished, List.drop_append_of_le_length h.kept, sentUpdates_append, hsilent,
      List.append_nil]
    exact h.judges client hshows hclient

theorem FollowsFreshness.ingested {s t u : TelemetryService} (h : FollowsFreshness s t)
    (hcatalog : s.pipeline.telemetry.catalog.Separable)
    (hnumbered : s.pipeline.telemetry.Numbered) {frame : DecodedCanFrame}
    {update : TelemetryUpdate} {pipeline : Pipeline}
    (hingest : t.pipeline.ingestDecoded frame = (.ok update, pipeline))
    (htelemetry : u.pipeline.telemetry = pipeline.telemetry)
    (hpublished : u.published = t.published ++ [.update update]) : FollowsFreshness s u := by
  have hfollows := h.toFollows.ingested hcatalog hingest htelemetry hpublished
  obtain ⟨samples, telemetry, -, -, diagnostics, haccepted, hupdate, -, -, rfl⟩ :=
    Pipeline.ingestDecoded_ok hingest
  refine ⟨hfollows, ?_, ?_, ?_⟩
  · rw [htelemetry]
    obtain ⟨-, definitions, -, -, hnext⟩ := TelemetryEngine.ingest_ok_iff.1 haccepted
    change _ ≤ telemetry.nextFrameSequence
    rw [hnext, TelemetryEngine.accept_eq]
    exact h.grows.trans (Nat.le_succ _)
  · rw [htelemetry]
    exact fun sample hold => (h.aged sample hold).ingest haccepted
  · intro client hshows hclient
    rw [htelemetry, hpublished, List.drop_append_of_le_length h.kept, sentUpdates_append,
      List.foldl_append]
    exact (h.judges client hshows hclient).update (h.shows client hshows) h.sound
      (h.catalog ▸ hcatalog) hnumbered h.grows haccepted hupdate

theorem FollowsFreshness.step {s t u : TelemetryService} {label : ServiceLabel}
    (h : FollowsFreshness s t) (hcatalog : s.pipeline.telemetry.catalog.Separable)
    (hnumbered : s.pipeline.telemetry.Numbered) (hrun : label.startsReplay = false)
    (hwhole : t.IngestsWhole label) (hstep : t.step label = some u) : FollowsFreshness s u := by
  rcases step_move hstep with hmove | ⟨hreplay, -⟩
  · cases hmove with
    | keep states htelemetry hpublished =>
      exact h.silent htelemetry hpublished (sentUpdates_states states)
    | ingested frame update pipeline hingest htelemetry hpublished =>
      exact h.ingested hcatalog hnumbered hingest htelemetry hpublished
    | raised frame error pipeline hingest htelemetry hpublished =>
      rcases hwhole u hstep with hkeep | ⟨update, hupdate⟩
      · exact h.silent hkeep (hpublished.trans (List.append_nil _).symm) rfl
      · rw [hpublished, List.self_eq_append_right] at hupdate
        cases hupdate
  · rw [hrun] at hreplay
    cases hreplay

theorem numbered_of_run {pipeline : Pipeline} {labels : List ServiceLabel} {s : TelemetryService}
    (hfresh : pipeline.AtReset) (hrun : Reaches pipeline labels s) :
    s.pipeline.telemetry.Numbered := by
  refine run_invariant_all (P := fun s => s.pipeline.telemetry.Numbered) ?_ hrun ?_
  · intro s label t h hstep
    exact TelemetryEngine.TelemetryMove.numbered (step_telemetry hstep) h
  · change pipeline.telemetry.Numbered
    rw [hfresh.telemetry]
    exact nofun

/-- A client that subscribes at any time and applies the updates published from then on, in
whatever batches, shows the current freshness of every signal exactly if no signal it was not told
to be stale has gone stale: whatever is too old in the end was too old in the initial snapshot. -/
theorem shown_freshness_is_current_iff (pipeline : Pipeline) (hfresh : pipeline.AtReset)
    (hcatalog : pipeline.telemetry.catalog.Separable) (earlier later : List ServiceLabel)
    (s t : TelemetryService) (hearlier : Reaches pipeline earlier s)
    (hlater : run step s.subscribe.2 later = some t) (hnamed : s.pipeline.telemetry.Named)
    (hrun : ∀ label ∈ later, label.startsReplay = false)
    (hwhole : ∀ before label after u, later = before ++ label :: after →
      run step s.subscribe.2 before = some u → u.IngestsWhole label)
    (actions : List TelemetryAction) (hactions : ∀ action ∈ actions, action.isSnapshot = false)
    (hbatches : actions.flatMap TelemetryAction.carried =
      sentUpdates (t.published.drop s.published.length)) (client : TelemetryClientState) :
    ∃ first, initialSnapshot s = .ok first ∧
      (ShowsFreshness t.pipeline.telemetry
        (actions.foldl telemetryReducer (telemetryReducer client (.initialSnapshot first))) ↔
      ∀ key sample, t.pipeline.telemetry.latest.get? key = some sample →
        t.pipeline.telemetry.HasAged sample →
          s.pipeline.telemetry.latest.get? key = some sample ∧
            s.pipeline.telemetry.HasAged sample) := by
  obtain ⟨hsound, hsame⟩ := sound_of_run hfresh hearlier
  have hseparable : s.pipeline.telemetry.catalog.Separable := hsame ▸ hcatalog
  have hnumbered := numbered_of_run hfresh hearlier
  obtain ⟨hpipeline, hpublished⟩ := s.subscribe_keeps
  have hfollows : FollowsFreshness s t := by
    refine run_invariant (P := FollowsFreshness s) (fun u label v hu (hallowed : _ ∧ _) hstep =>
      hu.step hseparable hnumbered hallowed.1 hallowed.2 hstep) hlater ?_ ?_
    · intro before label after u hsplit hbefore
      refine ⟨hrun label ?_, hwhole before label after u hsplit hbefore⟩
      rw [hsplit]
      exact List.mem_append_right _ List.mem_cons_self
    · exact (FollowsFreshness.refl hsound).silent (congrArg Pipeline.telemetry hpipeline)
        (hpublished.trans (List.append_nil _).symm) rfl
  obtain ⟨first, hfirst, hinstalls⟩ := shows_initialSnapshot hsound hseparable hnamed
  refine ⟨first, hfirst, ?_⟩
  -- The client judged at the snapshot; what has aged since is what it cannot know.
  have hjudges := hfollows.judges _ (hinstalls client)
    (judges_initialSnapshot hsound hseparable hfirst client)
  have hshows := hfollows.shows _ (hinstalls client)
  have hstream := SameStream.foldl_reduced
    (.refl (telemetryReducer client (.initialSnapshot first))) hactions
  rw [hbatches] at hstream
  have hjudges' : Judges s.pipeline.telemetry t.pipeline.telemetry
      (actions.foldl telemetryReducer (telemetryReducer client (.initialSnapshot first))) := by
    intro key sample hget
    rw [hstream.samples]
    exact hjudges key sample hget
  exact hjudges'.showsFreshness_iff (.of_sameStream hstream hshows) hfollows.sound hfollows.aged

/-- Engine speed, sent every ten milliseconds, is seen once, and the coolant temperature later. -/
def judgedLabels : List ServiceLabel :=
  [.ingestDecoded (rpmFrame 0), .ingestDecoded (warmFrame 50000)]

/-- After the subscription there are two frames with the vehicle speed. -/
def speedLabels : List ServiceLabel :=
  [60000, 70000].map fun timestampMicroseconds => .ingestDecoded
    ⟨1312, "DscVehicleMotion", timestampMicroseconds, ⟨[("VehicleSpeed", .float 5)], by simp⟩⟩

def judged : TelemetryService :=
  (run step (create (.packaged DbcMessage.intelDecode)) judgedLabels).getD
    (create (.packaged DbcMessage.intelDecode))

def speedSeen : TelemetryService := (run step judged.subscribe.2 speedLabels).getD judged

/-- The engine speed was stale in the snapshot already, and the coolant temperature, which no update
carries, is still fresh. -/
theorem client_with_older_signals_shows_freshness :
    ∃ first, initialSnapshot judged = .ok first ∧
      first.signals.map (·.freshness) = [some .stale, some .fresh] ∧
      ShowsFreshness speedSeen.pipeline.telemetry
        ([.updates (sentUpdates (speedSeen.published.drop judged.published.length))].foldl
          telemetryReducer (telemetryReducer initialTelemetryState (.initialSnapshot first))) := by
  have hsignals : (initialSnapshot judged).map (·.signals.map (·.freshness)) =
      .ok [some .stale, some .fresh] := by decide +kernel
  have hwhole : ∀ before label after u, speedLabels = before ++ label :: after →
      run step judged.subscribe.2 before = some u → u.IngestsWhole label :=
    allowed_cons rfl (ingestsWhole_of_published rfl rfl)
      (allowed_cons rfl (ingestsWhole_of_published rfl rfl) allowed_nil)
  obtain ⟨first, hfirst, hiff⟩ := shown_freshness_is_current_iff
    (.packaged DbcMessage.intelDecode) (Pipeline.atReset_packaged _) separable_packaged
    judgedLabels speedLabels judged speedSeen rfl rfl (named_packaged rfl) (by decide) hwhole
    [.updates (sentUpdates (speedSeen.published.drop judged.published.length))] (by decide)
    (List.append_nil _) initialTelemetryState
  rw [hfirst] at hsignals
  refine ⟨first, hfirst, Except.ok.inj hsignals, hiff.2 ?_⟩
  intro key sample hget haged
  -- only the engine speed has aged, and it had in the snapshot
  have hentries : ∀ entry ∈ speedSeen.pipeline.telemetry.latest.entries,
      speedSeen.pipeline.telemetry.HasAged entry.2 →
        judged.pipeline.telemetry.latest.get? entry.1 = some entry.2 ∧
          judged.pipeline.telemetry.HasAged entry.2 := by decide +kernel
  exact hentries (key, sample) (Dict.mem_entries_iff.2 hget) haged

def rpmKey : SignalKey := ⟨"DmeFastEngine", "EngineSpeedRpm"⟩

/-- Engine speed, sent every ten milliseconds, is seen once. -/
def rpmLabels : List ServiceLabel :=
  [.ingestDecoded (rpmFrame 0)]

/-- More than twice as long after that, another message arrives. -/
def coolantLabels : List ServiceLabel :=
  [.ingestDecoded (warmFrame 20001)]

def rpmSeen : TelemetryService :=
  (run step (create (.packaged DbcMessage.intelDecode)) rpmLabels).getD
    (create (.packaged DbcMessage.intelDecode))

def coolantSeen : TelemetryService := (run step rpmSeen.subscribe.2 coolantLabels).getD rpmSeen

/-- The client still shows the engine speed as fresh. -/
theorem quiet_signal_stays_fresh :
    Reaches (.packaged DbcMessage.intelDecode) rpmLabels rpmSeen ∧
      run step rpmSeen.subscribe.2 coolantLabels = some coolantSeen ∧
      ∃ first, initialSnapshot rpmSeen = .ok first ∧
        ¬ ShowsFreshness coolantSeen.pipeline.telemetry
          ([.updates (sentUpdates (coolantSeen.published.drop rpmSeen.published.length))].foldl
            telemetryReducer (telemetryReducer initialTelemetryState (.initialSnapshot first))) := by
  refine ⟨rfl, rfl, ?_⟩
  have hshown : (initialSnapshot rpmSeen).map (fun first =>
      let state := [.updates (sentUpdates
        (coolantSeen.published.drop rpmSeen.published.length))].foldl
        telemetryReducer (telemetryReducer initialTelemetryState (.initialSnapshot first))
      ((state.samples.get? (signalKeyId rpmKey)).map (·.freshness),
        state.observationTimestampMicroseconds)) = .ok (some (some .fresh), some 20001) := by
    decide +kernel
  have hstale : coolantSeen.pipeline.telemetry.freshnessAt rpmKey 20001 = .ok (some .stale) := by
    decide +kernel
  have hdefinition : (coolantSeen.pipeline.telemetry.catalog.get? rpmKey).isSome := by
    decide +kernel
  -- The snapshot exists, since its evaluation is not an error.
  cases hfirst : initialSnapshot rpmSeen with
  | error error =>
    rw [hfirst] at hshown
    cases hshown
  | ok first =>
    rw [hfirst] at hshown
    obtain ⟨hfreshness, hobservation⟩ := Prod.mk.inj (Except.ok.inj hshown)
    obtain ⟨shown, hget, hfresh⟩ := Option.map_eq_some_iff.1 hfreshness
    obtain ⟨definition, hdefinition⟩ := Option.isSome_iff_exists.1 hdefinition
    refine ⟨first, rfl, fun hshows => ?_⟩
    have hcurrent := hshows rpmKey definition shown 20001 hdefinition hget hobservation
    rw [hstale, hfresh] at hcurrent
    cases hcurrent

end TelemetryService

end TunerOs
