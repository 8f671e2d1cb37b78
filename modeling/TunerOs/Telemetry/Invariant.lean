-- SUMMARY: What holds of every telemetry engine a service reaches: numbering, catalogued samples no newer than the engine, and snapshots that return.
import TunerOs.Telemetry.Engine

/-!
# The telemetry engine's invariant

A `Sound` engine numbers its frames without gaps, holds samples of catalogued
signals that are no newer than its latest timestamp, and counts frames of
catalogued messages. Every engine a run reaches is sound, so `snapshot` returns.
-/

namespace TunerOs

open Containers

namespace TelemetryEngine

structure Sound (engine : TelemetryEngine) : Prop where
  sequence : engine.nextFrameSequence = engine.totalFrames
  last : engine.lastFrameSequence =
    if engine.totalFrames = 0 then none else some (engine.totalFrames - 1)
  observed : ∀ key sample, engine.latest.get? key = some sample →
    sample.key = key ∧ (∃ definition, engine.catalog.get? key = some definition) ∧
      ∃ latest, engine.latestTimestampMicroseconds = some latest ∧
        sample.timestampMicroseconds ≤ latest
  counted : ∀ arbitrationId frames, engine.framesByArbitrationId.get? arbitrationId = some frames →
    ∃ message ∈ engine.catalog.messages, message.arbitrationId = arbitrationId

theorem sound_fresh (catalog : SignalCatalog) (historyCapacity : ℕ) :
    (fresh catalog historyCapacity).Sound where
  sequence := rfl
  last := rfl
  observed := nofun
  counted := nofun

/-- The samples of a frame carry its time, its number and the keys of its definitions. -/
theorem mem_samples {frame : DecodedCanFrame} {sequence : ℕ} {definitions : List SignalDefinition}
    {values : List SignalValue} {sample : SignalSample}
    (hmem : sample ∈ List.zipWith (sampleOf frame sequence) definitions values) :
    sample.timestampMicroseconds = frame.timestampMicroseconds ∧
      sample.frameSequence = sequence ∧
      ∃ definition ∈ definitions, sample.key = definition.key := by
  induction definitions generalizing values with
  | nil => cases hmem
  | cons definition rest ih =>
    cases values with
    | nil => cases hmem
    | cons value values =>
      rcases List.mem_cons.1 hmem with rfl | htail
      · exact ⟨rfl, rfl, definition, List.mem_cons_self, rfl⟩
      · obtain ⟨htime, hsequence, other, hother, hkey⟩ := ih htail
        exact ⟨htime, hsequence, other, List.mem_cons_of_mem _ hother, hkey⟩

/-- A sample is the value of the signal its key names. -/
theorem samples_entries {catalog : SignalCatalog} {frame : DecodedCanFrame} {sequence : ℕ}
    {entries : List (String × SignalValue)} {definitions : List SignalDefinition}
    {sample : SignalSample}
    (hlisted : entries.map (fun entry => catalog.get? ⟨frame.messageName, entry.1⟩) =
      definitions.map some)
    (hmem : sample ∈ List.zipWith (sampleOf frame sequence) definitions (entries.map Prod.snd)) :
    ∃ entry ∈ entries, sample.key = ⟨frame.messageName, entry.1⟩ ∧ sample.value = entry.2 := by
  induction entries generalizing definitions with
  | nil =>
    rw [List.map_nil, List.zipWith_nil_right] at hmem
    cases hmem
  | cons entry rest ih =>
    cases definitions with
    | nil => cases hmem
    | cons definition definitions =>
      obtain ⟨hget, hrest⟩ := List.cons.inj hlisted
      rcases List.mem_cons.1 hmem with rfl | htail
      · exact ⟨entry, List.mem_cons_self, (SignalCatalog.get?_mem hget).2, rfl⟩
      · obtain ⟨other, hother, hsample⟩ := ih hrest htail
        exact ⟨other, List.mem_cons_of_mem _ hother, hsample⟩

/-- Every signal of a frame becomes a sample. -/
theorem exists_sample {catalog : SignalCatalog} {frame : DecodedCanFrame} (sequence : ℕ)
    {entries : List (String × SignalValue)} {definitions : List SignalDefinition}
    {entry : String × SignalValue}
    (hlisted : entries.map (fun entry => catalog.get? ⟨frame.messageName, entry.1⟩) =
      definitions.map some) (hmem : entry ∈ entries) :
    ∃ sample ∈ List.zipWith (sampleOf frame sequence) definitions (entries.map Prod.snd),
      sample.key = ⟨frame.messageName, entry.1⟩ := by
  induction entries generalizing definitions with
  | nil => cases hmem
  | cons first rest ih =>
    cases definitions with
    | nil => cases hlisted
    | cons definition definitions =>
      obtain ⟨hget, hrest⟩ := List.cons.inj hlisted
      rcases List.mem_cons.1 hmem with rfl | htail
      · exact ⟨_, List.mem_cons_self, (SignalCatalog.get?_mem hget).2⟩
      · obtain ⟨sample, hsample, hkey⟩ := ih hrest htail
        exact ⟨sample, List.mem_cons_of_mem _ hsample, hkey⟩

/-- The definitions of an accepted frame are those of its signals, in order. -/
theorem listed_of_definitionsForFrame {catalog : SignalCatalog} {frame : DecodedCanFrame}
    {definitions : List SignalDefinition} (h : catalog.definitionsForFrame frame = .ok definitions) :
    frame.signals.entries.map (fun entry => catalog.get? ⟨frame.messageName, entry.1⟩) =
      definitions.map some := by
  unfold SignalCatalog.definitionsForFrame at h
  split at h
  · cases h
  · split at h
    · cases h
    · rw [← SignalCatalog.definitionsForSignals_ok h, Dict.keys, List.map_map]
      rfl

/-- The latest sample of a signal an accepted frame carries is one of the frame's. -/
theorem accept_latest_mem (engine : TelemetryEngine) (frame : DecodedCanFrame)
    {samples : List SignalSample} {sample : SignalSample} (hmem : sample ∈ samples) :
    ∃ written ∈ samples, (engine.accept frame samples).latest.get? sample.key = some written := by
  rw [accept_eq]
  have hsome : ((samples.foldl (fun latest sample => latest.set sample.key sample)
      engine.latest).get? sample.key).isSome :=
    Dict.isSome_foldl_set (Or.inl ⟨sample, hmem, rfl⟩)
  obtain ⟨written, hget⟩ := Option.isSome_iff_exists.1 hsome
  rcases Dict.get?_foldl_set_cases hget with ⟨found, hfound, -, rfl⟩ | ⟨hnone, -⟩
  · exact ⟨found, hfound, hget⟩
  · exact absurd rfl (hnone sample hmem)

theorem ingest_catalog {engine engine' : TelemetryEngine} {frame : DecodedCanFrame}
    {samples : List SignalSample} (h : engine.ingest frame = .ok (samples, engine')) :
    engine'.catalog = engine.catalog := by
  obtain ⟨-, definitions, -, -, rfl⟩ := ingest_ok_iff.1 h
  rw [accept_eq]

theorem Sound.ingest {engine engine' : TelemetryEngine} (h : engine.Sound)
    {frame : DecodedCanFrame} {samples : List SignalSample}
    (hingest : engine.ingest frame = .ok (samples, engine')) : engine'.Sound := by
  obtain ⟨hlater, definitions, hdefinitions, rfl, rfl⟩ := ingest_ok_iff.1 hingest
  obtain ⟨⟨message, hmessage, hid, -⟩, -, hcatalogued⟩ :=
    SignalCatalog.definitionsForFrame_ok hdefinitions
  rw [laterThan_eq_none] at hlater
  constructor
  · rw [accept_eq]
    exact congrArg (· + 1) h.sequence
  · rw [accept_eq]
    exact congrArg some h.sequence
  · intro key sample hget
    rw [accept_eq] at hget ⊢
    rcases Dict.get?_foldl_set_cases hget with ⟨written, hmem, hkey, rfl⟩ | ⟨-, hold⟩
    · obtain ⟨htime, -, definition, hdefinition, hsame⟩ := mem_samples hmem
      refine ⟨hkey, ⟨definition, ?_⟩, _, rfl, htime.le⟩
      rw [← hkey, hsame]
      exact hcatalogued definition hdefinition
    · obtain ⟨hkey, hdefined, latest, hlatest, hle⟩ := h.observed key sample hold
      exact ⟨hkey, hdefined, _, rfl, hle.trans (hlater latest hlatest)⟩
  · intro arbitrationId frames hget
    rw [accept_eq] at hget ⊢
    simp only [Dict.get?_set] at hget
    split at hget
    · rename_i hsame
      exact ⟨message, hmessage, hid.trans hsame.symm⟩
    · exact h.counted arbitrationId frames hget

/-- The snapshot of a sound engine. -/
theorem Sound.snapshot {engine : TelemetryEngine} (h : engine.Sound) :
    ∃ snapshot, engine.snapshot = .ok snapshot ∧ snapshot.samples = engine.latest ∧
      snapshot.observationTimestampMicroseconds = engine.latestTimestampMicroseconds ∧
      snapshot.lastFrameSequence = engine.lastFrameSequence ∧
      snapshot.statistics = engine.statistics := by
  have hfresh : ∀ entry ∈ engine.latest.entries, ∃ status,
      engine.observedFreshness entry.1 entry.2 = .ok status := by
    intro entry hmem
    obtain ⟨-, ⟨definition, hdefinition⟩, latest, hlatest, hle⟩ :=
      h.observed entry.1 entry.2 (Dict.mem_entries_iff.1 hmem)
    have hrequire := SignalCatalog.require_ok_iff.2 hdefinition
    simp only [observedFreshness, hrequire, bind, Except.bind, sampleFreshness, hlatest,
      if_neg (not_lt.2 hle)]
    exact ⟨_, rfl⟩
  obtain ⟨statuses, hstatuses⟩ := Dict.exists_traverse hfresh
  unfold TelemetryEngine.snapshot
  rw [hstatuses]
  exact ⟨_, rfl, rfl, rfl, rfl, rfl⟩

/-- A snapshot gives a status to the signals that have a sample. -/
theorem snapshot_rated {engine : TelemetryEngine} {snapshot : TelemetrySnapshot}
    (hsnapshot : engine.snapshot = .ok snapshot) (key : SignalKey) :
    (snapshot.freshness.get? key).isSome = (engine.latest.get? key).isSome := by
  unfold TelemetryEngine.snapshot at hsnapshot
  split at hsnapshot
  · cases hsnapshot
  · rename_i statuses hstatuses
    cases hsnapshot
    have hkeys : statuses.keys = engine.latest.keys :=
      keys_traverseEntries (Dict.traverse_eq_ok_iff.1 hstatuses)
    rw [Bool.eq_iff_iff, Option.isSome_iff_exists, Option.isSome_iff_exists, ← Dict.mem_keys_iff,
      ← Dict.mem_keys_iff, hkeys]

/-- The status a snapshot gives a sample depends on its age and its signal's period only. -/
theorem Sound.snapshot_freshness {engine : TelemetryEngine} (h : engine.Sound)
    {snapshot : TelemetrySnapshot} (hsnapshot : engine.snapshot = .ok snapshot) {key : SignalKey}
    {sample : SignalSample} (hget : engine.latest.get? key = some sample) :
    ∃ definition latest, engine.catalog.get? key = some definition ∧
      engine.latestTimestampMicroseconds = some latest ∧
      sample.timestampMicroseconds ≤ latest ∧
      snapshot.freshness.get? key =
        some (if latest - sample.timestampMicroseconds ≤ 2 * definition.expectedPeriodMicroseconds
          then .fresh else .stale) := by
  obtain ⟨-, ⟨definition, hdefinition⟩, latest, hlatest, hle⟩ := h.observed key sample hget
  refine ⟨definition, latest, hdefinition, hlatest, hle, ?_⟩
  unfold TelemetryEngine.snapshot at hsnapshot
  split at hsnapshot
  · cases hsnapshot
  · rename_i statuses hstatuses
    cases hsnapshot
    rw [Dict.traverse_eq_ok_iff] at hstatuses
    have hkey : key ∈ statuses.keys := by
      change key ∈ statuses.entries.map Prod.fst
      rw [keys_traverseEntries hstatuses]
      exact List.mem_map_of_mem (f := Prod.fst) (Dict.mem_entries_iff.2 hget)
    obtain ⟨status, hstatus⟩ := Dict.mem_keys_iff.1 hkey
    obtain ⟨observed, hmem, hfreshness⟩ :=
      mem_traverseEntries hstatuses (Dict.mem_entries_iff.2 hstatus)
    rw [Dict.mem_entries_iff, hget] at hmem
    cases hmem
    have hrequire := SignalCatalog.require_ok_iff.2 hdefinition
    simp only [observedFreshness, hrequire, bind, Except.bind, sampleFreshness, hlatest,
      if_neg (not_lt.2 hle), Except.ok.injEq] at hfreshness
    have htwice : definition.expectedPeriodMicroseconds * freshnessPeriodMultiplier =
        2 * definition.expectedPeriodMicroseconds := Nat.mul_comm ..
    rw [hstatus, ← hfreshness]
    simp only [htwice]

end TelemetryEngine

end TunerOs
