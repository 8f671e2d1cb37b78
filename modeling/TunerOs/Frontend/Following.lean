-- SUMMARY: A browser client that follows the telemetry stream shows what the engine holds, whatever the batching.
import TunerOs.Frontend.TelemetryState
import TunerOs.Lib.Fallible
import TunerOs.Lib.Sequences
import TunerOs.Telemetry.Invariant

/-!
# Following the telemetry stream

`Shows engine state` relates a client's state to the telemetry engine. The initial
snapshot establishes it, and each update of a frame the engine accepts keeps it,
so two clients of one engine agree, however late either of them subscribed.

Clients index samples by `signalKeyId`, which tells catalogued signals apart because
no message name contains the separator.
-/

namespace TunerOs

open Containers Fallible Transition

/-! ## Samples -/

/-- A sample but for its freshness, which was judged when it was sent. -/
def SignalSampleResponse.observed (sample : SignalSampleResponse) : SignalSampleResponse :=
  { sample with freshness := none }

/-- No message name contains the separator of signal IDs. -/
def SignalCatalog.Separable (catalog : SignalCatalog) : Prop :=
  ∀ message ∈ catalog.messages, '\x1f' ∉ message.messageName.toList

/-- The catalog knows the signal. -/
def SignalCatalog.Knows (catalog : SignalCatalog) (key : SignalKey) : Prop :=
  ∃ definition, catalog.get? key = some definition

/-- Joining its names with a separator that is in no message name identifies a key. -/
theorem SignalKey.eq_of_joined {separator : Char} {a b : SignalKey}
    (ha : separator ∉ a.messageName.toList) (hb : separator ∉ b.messageName.toList)
    (h : a.messageName.toList ++ separator :: a.signalName.toList =
      b.messageName.toList ++ separator :: b.signalName.toList) : a = b := by
  obtain ⟨hmessage, hsignal⟩ := List.append_separator_inj ha hb h
  cases a
  cases b
  exact congrArg₂ SignalKey.mk (String.toList_injective hmessage) (String.toList_injective hsignal)

theorem signalKeyId_inj {a b : SignalKey} (ha : '\x1f' ∉ a.messageName.toList)
    (hb : '\x1f' ∉ b.messageName.toList) (h : signalKeyId a = signalKeyId b) : a = b := by
  have hlist := congrArg String.toList h
  simp only [signalKeyId, String.toList_append, List.append_assoc] at hlist
  exact SignalKey.eq_of_joined ha hb hlist

/-- A known signal is of a listed message. -/
theorem SignalCatalog.Knows.exists_message {catalog : SignalCatalog} {key : SignalKey}
    (h : catalog.Knows key) : ∃ message ∈ catalog.messages, message.messageName = key.messageName := by
  obtain ⟨definition, hget⟩ := h
  obtain ⟨hmem, rfl⟩ := SignalCatalog.get?_mem hget
  obtain ⟨message, hmessage, hof⟩ := List.mem_flatMap.1 hmem
  obtain ⟨signal, -, rfl⟩ := List.mem_map.1 hof
  exact ⟨message, hmessage, rfl⟩

theorem SignalCatalog.Separable.separator {catalog : SignalCatalog} (h : catalog.Separable)
    {key : SignalKey} (hkey : catalog.Knows key) : '\x1f' ∉ key.messageName.toList := by
  obtain ⟨message, hmessage, hname⟩ := hkey.exists_message
  exact hname ▸ h message hmessage

/-- The client's samples are the engine's latest ones under their IDs. -/
structure Mirrors (catalog : SignalCatalog) (latest : Dict SignalKey SignalSample)
    (samples : Dict String SignalSampleResponse) : Prop where
  shown : ∀ key, catalog.Knows key →
    (samples.get? (signalKeyId key)).map (·.observed) =
      (latest.get? key).map (fun sample => serializeSample sample none)
  only : ∀ id sample, samples.get? id = some sample →
    ∃ key, catalog.Knows key ∧ signalKeyId key = id

theorem mirrors_empty (catalog : SignalCatalog) : Mirrors catalog .empty .empty where
  shown := fun _ _ => rfl
  only := nofun

/-- Writing one sample on both sides. -/
theorem Mirrors.set {catalog : SignalCatalog} (hcatalog : catalog.Separable)
    {latest : Dict SignalKey SignalSample} {samples : Dict String SignalSampleResponse}
    (h : Mirrors catalog latest samples) {sample : SignalSample}
    (hknown : catalog.Knows sample.key) (freshness : Option SignalFreshness) :
    Mirrors catalog (latest.set sample.key sample)
      (samples.set (signalKeyId sample.key) (serializeSample sample freshness)) where
  shown := by
    intro key hkey
    rw [Dict.get?_set, Dict.get?_set]
    by_cases hsame : key = sample.key
    · rw [if_pos hsame, if_pos (congrArg signalKeyId hsame)]
      rfl
    · have hid : signalKeyId key ≠ signalKeyId sample.key := fun hid =>
        hsame (signalKeyId_inj (hcatalog.separator hkey) (hcatalog.separator hknown) hid)
      rw [if_neg hsame, if_neg hid]
      exact h.shown key hkey
  only := by
    intro id shown hget
    rw [Dict.get?_set] at hget
    split at hget
    · rename_i hid
      exact ⟨sample.key, hknown, hid.symm⟩
    · exact h.only id shown hget

/-- Writing a frame's samples on both sides. -/
theorem Mirrors.foldl {catalog : SignalCatalog} (hcatalog : catalog.Separable)
    {latest : Dict SignalKey SignalSample} {samples : Dict String SignalSampleResponse}
    (h : Mirrors catalog latest samples) {written : List SignalSample}
    {freshness : List SignalFreshness} (hlength : freshness.length = written.length)
    (hknown : ∀ sample ∈ written, catalog.Knows sample.key) :
    Mirrors catalog (written.foldl (fun latest sample => latest.set sample.key sample) latest)
      ((List.zipWith (fun sample status => serializeSample sample (some status)) written
        freshness).foldl (fun samples sample => samples.set (signalKeyId sample.key) sample)
        samples) := by
  induction written generalizing latest samples freshness with
  | nil => exact h
  | cons sample rest ih =>
    cases freshness with
    | nil => cases hlength
    | cons status others =>
      have hset := h.set hcatalog (hknown sample List.mem_cons_self) (some status)
      exact ih hset (Nat.succ.inj hlength) (fun other hmem => hknown other (List.mem_cons_of_mem _ hmem))

/-- The samples a snapshot installs. -/
theorem mirrors_snapshot {catalog : SignalCatalog} (hcatalog : catalog.Separable)
    {latest : Dict SignalKey SignalSample}
    (hkeys : ∀ key sample, latest.get? key = some sample → sample.key = key ∧ catalog.Knows key)
    (status : SignalKey → Option SignalFreshness) :
    Mirrors catalog latest
      ((latest.entries.map (fun entry => serializeSample entry.2 (status entry.1))).foldl
        (fun samples sample => samples.set (signalKeyId sample.key) sample) .empty) := by
  have hfold : ∀ (l : List (SignalKey × SignalSample)) base samples,
      (∀ entry ∈ l, entry.2.key = entry.1 ∧ catalog.Knows entry.1) →
      Mirrors catalog base samples →
      Mirrors catalog (l.foldl (fun e entry => e.set entry.1 entry.2) base)
        ((l.map (fun entry => serializeSample entry.2 (status entry.1))).foldl
          (fun samples sample => samples.set (signalKeyId sample.key) sample) samples) := by
    intro l
    induction l with
    | nil => exact fun base samples _ h => h
    | cons entry rest ih =>
      intro base samples hentries h
      obtain ⟨hkey, hknown⟩ := hentries entry List.mem_cons_self
      refine ih _ _ (fun other hmem => hentries other (List.mem_cons_of_mem _ hmem)) ?_
      beta_reduce
      rw [← hkey] at hknown ⊢
      exact h.set hcatalog hknown _
  have hlatest := hfold latest.entries .empty .empty
    (fun entry hmem => hkeys entry.1 entry.2 (Dict.mem_entries_iff.1 hmem)) (mirrors_empty catalog)
  rwa [Dict.foldl_set_entries] at hlatest

/-! ## Frame counts -/

/-- The client's counts are the engine's, one entry for each counted message. -/
structure ShowsCounts (catalog : SignalCatalog) (counts : Dict ℕ ℕ)
    (shown : List MessageFrameCountResponse) : Prop where
  nodup : (shown.map (·.arbitrationId)).Nodup
  mem_iff : ∀ count, count ∈ shown ↔ ∃ message ∈ catalog.messages,
    counts.get? message.arbitrationId = some count.frames ∧
      count = ⟨message.arbitrationId, formatArbitrationId message.arbitrationId,
        message.messageName, count.frames⟩

theorem ShowsCounts.mem_ids {catalog : SignalCatalog} {counts : Dict ℕ ℕ}
    {shown : List MessageFrameCountResponse} (h : ShowsCounts catalog counts shown)
    {message : CanMessageMetadata} (hmessage : message ∈ catalog.messages) :
    message.arbitrationId ∈ shown.map (·.arbitrationId) ↔
      ∃ frames, counts.get? message.arbitrationId = some frames := by
  constructor
  · intro hmem
    obtain ⟨count, hcount, hid⟩ := List.mem_map.1 hmem
    obtain ⟨other, -, hget, heq⟩ := (h.mem_iff count).1 hcount
    rw [heq] at hid
    exact ⟨count.frames, hid ▸ hget⟩
  · rintro ⟨frames, hget⟩
    have hmem := (h.mem_iff ⟨message.arbitrationId, formatArbitrationId message.arbitrationId,
      message.messageName, frames⟩).2 ⟨message, hmessage, hget, rfl⟩
    exact List.mem_map_of_mem hmem

section Count

variable {catalog : SignalCatalog} {counts : Dict ℕ ℕ} {shown : List MessageFrameCountResponse}
  {message : CanMessageMetadata}

/-- Counting one more frame of a message that has an entry. -/
theorem ShowsCounts.bump (h : ShowsCounts catalog counts shown) (hmessage : message ∈ catalog.messages)
    {frames : ℕ} (hframes : counts.get? message.arbitrationId = some frames) :
    ShowsCounts catalog (counts.set message.arbitrationId (frames + 1))
      (shown.map (fun count =>
        if count.arbitrationId = message.arbitrationId then
          { count with frames := count.frames + 1 }
        else count)) where
  nodup := by
    have hids : (shown.map (fun count =>
        if count.arbitrationId = message.arbitrationId then
          { count with frames := count.frames + 1 }
        else count)).map (·.arbitrationId) = shown.map (·.arbitrationId) := by
      rw [List.map_map]
      refine List.map_congr_left (fun count _ => ?_)
      simp only [Function.comp_apply]
      split <;> rfl
    rw [hids]
    exact h.nodup
  mem_iff := by
    intro count
    rw [List.mem_map]
    constructor
    · rintro ⟨old, hold, rfl⟩
      obtain ⟨other, hother, hget, heq⟩ := (h.mem_iff old).1 hold
      have hotherId : old.arbitrationId = other.arbitrationId := by rw [heq]
      refine ⟨other, hother, ?_⟩
      split
      · rename_i hsame
        have hsame : other.arbitrationId = message.arbitrationId := hotherId.symm.trans hsame
        rw [hsame, hframes] at hget
        have hcount : frames = old.frames := Option.some.inj hget
        rw [hsame, Dict.get?_set_self, hcount, ← hsame]
        refine ⟨rfl, ?_⟩
        rw [heq]
      · rename_i hne
        have hne : other.arbitrationId ≠ message.arbitrationId := fun hsame =>
          hne (hotherId.trans hsame)
        rw [Dict.get?_set_of_ne counts _ hne]
        exact ⟨hget, heq⟩
    · rintro ⟨other, hother, hget, heq⟩
      by_cases hsame : other.arbitrationId = message.arbitrationId
      · obtain rfl := SignalCatalog.eq_of_arbitrationId hother hmessage hsame
        rw [Dict.get?_set_self] at hget
        have hold := (h.mem_iff ⟨other.arbitrationId, formatArbitrationId other.arbitrationId,
          other.messageName, frames⟩).2 ⟨other, hother, hframes, rfl⟩
        refine ⟨_, hold, ?_⟩
        rw [if_pos rfl, heq]
        exact congrArg _ (Option.some.inj hget)
      · rw [Dict.get?_set_of_ne counts _ hsame] at hget
        refine ⟨count, (h.mem_iff count).2 ⟨other, hother, hget, heq⟩, if_neg ?_⟩
        rw [heq]
        exact hsame

/-- Counting the first frame of a message. -/
theorem ShowsCounts.push (h : ShowsCounts catalog counts shown) (hmessage : message ∈ catalog.messages)
    (hnone : counts.get? message.arbitrationId = none) :
    ShowsCounts catalog (counts.set message.arbitrationId 1)
      (shown ++ [⟨message.arbitrationId, formatArbitrationId message.arbitrationId,
        message.messageName, 1⟩]) where
  nodup := by
    have habsent : message.arbitrationId ∉ shown.map (·.arbitrationId) := by
      rw [h.mem_ids hmessage, hnone]
      rintro ⟨frames, hframes⟩
      cases hframes
    rw [List.map_append, List.map_singleton]
    exact List.nodup_append_comm.1 (List.nodup_cons.2 ⟨habsent, h.nodup⟩)
  mem_iff := by
    intro count
    rw [List.mem_append, List.mem_singleton]
    constructor
    · rintro (hold | rfl)
      · obtain ⟨other, hother, hget, heq⟩ := (h.mem_iff count).1 hold
        have hne : other.arbitrationId ≠ message.arbitrationId := by
          intro hsame
          rw [hsame, hnone] at hget
          cases hget
        rw [← Dict.get?_set_of_ne counts 1 hne] at hget
        exact ⟨other, hother, hget, heq⟩
      · exact ⟨message, hmessage, Dict.get?_set_self _ _ _, rfl⟩
    · rintro ⟨other, hother, hget, heq⟩
      by_cases hsame : other.arbitrationId = message.arbitrationId
      · obtain rfl := SignalCatalog.eq_of_arbitrationId hother hmessage hsame
        rw [Dict.get?_set_self] at hget
        refine Or.inr (heq.trans ?_)
        rw [← Option.some.inj hget]
      · rw [Dict.get?_set_of_ne counts _ hsame] at hget
        exact Or.inl ((h.mem_iff count).2 ⟨other, hother, hget, heq⟩)

/-- Counting a frame of a catalogued message on both sides. -/
theorem ShowsCounts.count (h : ShowsCounts catalog counts shown) (hmessage : message ∈ catalog.messages)
    {update : TelemetryUpdateEventResponse} (hid : update.arbitrationId = message.arbitrationId)
    (hhex : update.arbitrationIdHex = formatArbitrationId message.arbitrationId)
    (hname : update.messageName = message.messageName) :
    ShowsCounts catalog
      (counts.set message.arbitrationId ((counts.get? message.arbitrationId).getD 0 + 1))
      (countFrame shown update) := by
  unfold countFrame
  rw [hid, hhex, hname]
  cases hfind : shown.findIdx? (·.arbitrationId = message.arbitrationId) with
  | some index =>
    obtain ⟨hindex, hfound, -⟩ := List.findIdx?_eq_some_iff_getElem.1 hfind
    have hmem : message.arbitrationId ∈ shown.map (·.arbitrationId) :=
      List.mem_map.2 ⟨_, List.getElem_mem hindex, of_decide_eq_true hfound⟩
    obtain ⟨frames, hframes⟩ := (h.mem_ids hmessage).1 hmem
    simp only [List.modify_findIdx_eq_map h.nodup hfind, hframes, Option.getD_some]
    exact h.bump hmessage hframes
  | none =>
    have hnone : counts.get? message.arbitrationId = none := by
      rw [Option.eq_none_iff_forall_ne_some]
      intro frames hframes
      obtain ⟨count, hcount, hsame⟩ := List.mem_map.1 ((h.mem_ids hmessage).2 ⟨frames, hframes⟩)
      exact of_decide_eq_false (List.findIdx?_eq_none_iff.1 hfind count hcount) hsame
    simp only [hnone, Option.getD_none]
    exact h.push hmessage hnone

end Count

theorem ShowsCounts.empty (catalog : SignalCatalog) : ShowsCounts catalog .empty [] where
  nodup := List.nodup_nil
  mem_iff := by
    intro count
    refine ⟨nofun, ?_⟩
    rintro ⟨message, -, hget, -⟩
    cases hget

theorem ShowsCounts.perm {catalog : SignalCatalog} {counts : Dict ℕ ℕ}
    {shown other : List MessageFrameCountResponse} (h : ShowsCounts catalog counts shown)
    (hother : ShowsCounts catalog counts other) : shown.Perm other := by
  refine (List.perm_ext_iff_of_nodup (.of_map _ h.nodup) (.of_map _ hother.nodup)).2 ?_
  intro count
  rw [h.mem_iff, hother.mem_iff]

theorem serializeFrameCount_of_mem {catalog : SignalCatalog} {message : CanMessageMetadata}
    (hmessage : message ∈ catalog.messages) (hnamed : message.signals ≠ []) (frames : ℕ) :
    serializeFrameCount catalog (message.arbitrationId, frames) =
      .ok ⟨message.arbitrationId, formatArbitrationId message.arbitrationId,
        message.messageName, frames⟩ := by
  simp only [serializeFrameCount, namesById_of_mem hmessage hnamed]

/-- The statistics a snapshot of a sound engine serializes. -/
theorem serializeStatistics_ok {engine : TelemetryEngine} (hsound : engine.Sound)
    (hnamed : engine.Named) :
    ∃ counts, serializeStatistics engine.catalog engine.statistics =
        .ok ⟨engine.totalFrames, engine.totalSignalUpdates, engine.latestTimestampMicroseconds,
          engine.lastFrameSequence, counts⟩ ∧
      ShowsCounts engine.catalog engine.framesByArbitrationId counts := by
  have hperm := List.perm_insertionSort (fun a b : ℕ × ℕ => a.1 ≤ b.1)
    engine.framesByArbitrationId.entries
  have hcounted : ∀ count ∈ engine.framesByArbitrationId.entries,
      ∃ message ∈ engine.catalog.messages, message.arbitrationId = count.1 ∧
        message.signals ≠ [] := by
    intro count hmem
    have hget := Dict.mem_entries_iff.1 hmem
    obtain ⟨message, hmessage, hid⟩ := hsound.counted count.1 count.2 hget
    exact ⟨message, hmessage, hid, hnamed message hmessage count.2 (hid ▸ hget)⟩
  have hreturns : ∀ count ∈ engine.framesByArbitrationId.entries.insertionSort
      (fun a b => a.1 ≤ b.1), ∃ shown, serializeFrameCount engine.catalog count = .ok shown := by
    rintro ⟨arbitrationId, frames⟩ hmem
    obtain ⟨message, hmessage, rfl, hsignals⟩ := hcounted _ (hperm.mem_iff.1 hmem)
    exact ⟨_, serializeFrameCount_of_mem hmessage hsignals frames⟩
  obtain ⟨counts, hcounts⟩ := exists_mapM hreturns
  refine ⟨counts, ?_, ?_, ?_⟩
  · simp only [serializeStatistics, TelemetryEngine.statistics, hcounts, bind, Except.bind, pure,
      Except.pure]
  · have hids : counts.map (·.arbitrationId) = (engine.framesByArbitrationId.entries.insertionSort
        (fun a b => a.1 ≤ b.1)).map Prod.fst := by
      refine (List.forall₂_eq_eq_eq ▸ List.forall₂_map_left_iff.2 (List.forall₂_map_right_iff.2 ?_))
      refine ((forall₂_of_mapM hcounts).imp (fun count shown hok => ?_)).flip
      unfold serializeFrameCount at hok
      split at hok <;> cases hok
      rfl
    rw [hids, (hperm.map Prod.fst).nodup_iff]
    exact engine.framesByArbitrationId.keys_nodup
  · intro shown
    rw [mem_of_mapM hcounts]
    constructor
    · rintro ⟨⟨arbitrationId, frames⟩, hmem, hok⟩
      obtain ⟨message, hmessage, rfl, hsignals⟩ := hcounted _ (hperm.mem_iff.1 hmem)
      rw [serializeFrameCount_of_mem hmessage hsignals] at hok
      cases hok
      exact ⟨message, hmessage, Dict.mem_entries_iff.1 (hperm.mem_iff.1 hmem), rfl⟩
    · rintro ⟨message, hmessage, hget, hshown⟩
      refine ⟨(message.arbitrationId, shown.frames),
        hperm.mem_iff.2 (Dict.mem_entries_iff.2 hget), ?_⟩
      rw [serializeFrameCount_of_mem hmessage (hnamed message hmessage _ hget), ← hshown]

/-! ## The client and the engine -/

/-- The client shows what the engine holds, and has no warning. -/
structure Shows (engine : TelemetryEngine) (state : TelemetryClientState) : Prop where
  samples : Mirrors engine.catalog engine.latest state.samples
  observation : state.observationTimestampMicroseconds = engine.latestTimestampMicroseconds
  last : state.lastFrameSequence = engine.lastFrameSequence
  totalFrames : state.statistics.totalFrames = engine.totalFrames
  totalSignalUpdates : state.statistics.totalSignalUpdates = engine.totalSignalUpdates
  latest : state.statistics.latestTimestampMicroseconds = engine.latestTimestampMicroseconds
  lastCounted : state.statistics.lastFrameSequence = engine.lastFrameSequence
  counts : ShowsCounts engine.catalog engine.framesByArbitrationId state.statistics.framesByMessage
  warning : state.streamWarning = none

/-- Two clients show the same samples but for freshness, the same times and sequences, and the
same counts in whatever order. -/
structure Agree (state other : TelemetryClientState) : Prop where
  samples : ∀ id, (state.samples.get? id).map (·.observed) =
    (other.samples.get? id).map (·.observed)
  observation : state.observationTimestampMicroseconds = other.observationTimestampMicroseconds
  last : state.lastFrameSequence = other.lastFrameSequence
  totalFrames : state.statistics.totalFrames = other.statistics.totalFrames
  totalSignalUpdates : state.statistics.totalSignalUpdates = other.statistics.totalSignalUpdates
  latest : state.statistics.latestTimestampMicroseconds =
    other.statistics.latestTimestampMicroseconds
  lastCounted : state.statistics.lastFrameSequence = other.statistics.lastFrameSequence
  counts : state.statistics.framesByMessage.Perm other.statistics.framesByMessage

theorem Mirrors.agree {catalog : SignalCatalog} {latest : Dict SignalKey SignalSample}
    {samples other : Dict String SignalSampleResponse} (h : Mirrors catalog latest samples)
    (hother : Mirrors catalog latest other) (id : String) :
    (samples.get? id).map (·.observed) = (other.get? id).map (·.observed) := by
  by_cases hknown : ∃ key, catalog.Knows key ∧ signalKeyId key = id
  · obtain ⟨key, hkey, rfl⟩ := hknown
    exact (h.shown key hkey).trans (hother.shown key hkey).symm
  · have hnone : ∀ {shown : Dict String SignalSampleResponse}, Mirrors catalog latest shown →
        shown.get? id = none := by
      intro shown hshown
      rw [Option.eq_none_iff_forall_ne_some]
      exact fun sample hget => hknown (hshown.only id sample hget)
    rw [hnone h, hnone hother]

theorem Shows.agree {engine : TelemetryEngine} {state other : TelemetryClientState}
    (h : Shows engine state) (hother : Shows engine other) : Agree state other where
  samples := h.samples.agree hother.samples
  observation := h.observation.trans hother.observation.symm
  last := h.last.trans hother.last.symm
  totalFrames := h.totalFrames.trans hother.totalFrames.symm
  totalSignalUpdates := h.totalSignalUpdates.trans hother.totalSignalUpdates.symm
  latest := h.latest.trans hother.latest.symm
  lastCounted := h.lastCounted.trans hother.lastCounted.symm
  counts := h.counts.perm hother.counts

/-- A service whose engine is sound sends an initial snapshot if its counts can be named, and a
client that installs it shows the engine. -/
theorem shows_initialSnapshot {s : TelemetryService} (hsound : s.pipeline.telemetry.Sound)
    (hcatalog : s.pipeline.telemetry.catalog.Separable) (hnamed : s.pipeline.telemetry.Named) :
    ∃ snapshot, initialSnapshot s = .ok snapshot ∧
      ∀ state, Shows s.pipeline.telemetry (telemetryReducer state (.initialSnapshot snapshot)) := by
  obtain ⟨snapshot, hsnapshot, hsamples, hobservation, hlast, hstatistics⟩ := hsound.snapshot
  obtain ⟨counts, hserialize, hcounts⟩ := serializeStatistics_ok hsound hnamed
  rw [← hstatistics] at hserialize
  have hinitial : initialSnapshot s = .ok {
      observationTimestampMicroseconds := snapshot.observationTimestampMicroseconds
      lastFrameSequence := snapshot.lastFrameSequence
      signals := snapshot.samples.entries.map
        (fun entry => serializeSample entry.2 (snapshot.freshness.get? entry.1))
      statistics := ⟨s.pipeline.telemetry.totalFrames, s.pipeline.telemetry.totalSignalUpdates,
        s.pipeline.telemetry.latestTimestampMicroseconds, s.pipeline.telemetry.lastFrameSequence,
        counts⟩ } := by
    simp only [initialSnapshot, TelemetryService.subscribe, hsnapshot, serializeSnapshot,
      hserialize, bind, Except.bind, pure, Except.pure]
  have hmirrors := mirrors_snapshot hcatalog
    (fun key sample hget =>
      ⟨(hsound.observed key sample hget).1, (hsound.observed key sample hget).2.1⟩)
    snapshot.freshness.get?
  rw [← hsamples] at hmirrors
  refine ⟨_, hinitial, fun state => ?_⟩
  constructor
  · rw [← hsamples]
    exact hmirrors
  · exact hobservation
  · exact hlast
  · rfl
  · rfl
  · rfl
  · rfl
  · exact hcounts
  · rfl

end TunerOs
