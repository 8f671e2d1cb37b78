-- SUMMARY: The telemetry engine over whole runs: its state is a function of the frames accepted since the last reset.
import TunerOs.Lib.Tally
import TunerOs.Telemetry.Invariant

/-!
# Runs of the telemetry engine

`ingest` as the source writes it: statements on a mutable engine, any of which may
raise and leave what earlier ones have written. Running it either raises and
changes nothing or does what the pure `ingest` returns. The abstract state of an
engine is the list of frames it accepted since its last reset, with their samples.
-/

namespace TunerOs

open Containers

/-- A decoded frame as callers build it: nothing checks the types of its values before `ingest`
does. `none` stands for a value that is no `float`, `int` or `bool`. -/
structure UncheckedFrame where
  arbitrationId : ℕ
  messageName : String
  timestampMicroseconds : ℕ
  signals : Dict String (Option SignalValue)

/-- The frame as every check but the one on value types sees it. -/
def UncheckedFrame.decoded (frame : UncheckedFrame) : DecodedCanFrame where
  arbitrationId := frame.arbitrationId
  messageName := frame.messageName
  timestampMicroseconds := frame.timestampMicroseconds
  signals := frame.signals.mapValues (·.getD (.bool false))

def UncheckedFrame.WellTyped (frame : UncheckedFrame) : Prop :=
  ∀ value ∈ frame.signals.values, value.isSome

instance (frame : UncheckedFrame) : Decidable frame.WellTyped :=
  inferInstanceAs (Decidable (∀ value ∈ frame.signals.values, _))

namespace TelemetryEngine

/-- A method body on the engine it mutates; a raise keeps the writes made before it. -/
abbrev Mutation (α : Type) : Type := ExceptT PyException (StateM TelemetryEngine) α

def wrongValueType : PyException where
  cls := .telemetrySchemaError
  message := "decoded telemetry values must be float, int, or bool"

/-- The mutation loop. -/
def recordSamples : List SignalSample → Mutation Unit
  | [] => pure ()
  | sample :: rest => do
    modify (recordSample · sample)
    recordSamples rest

/-- The assignments after the loop. -/
def countFrame (frame : DecodedCanFrame) (frameSequence updates : ℕ) : Mutation Unit := do
  modify (fun engine => { engine with totalFrames := engine.totalFrames + 1 })
  modify (fun engine => { engine with totalSignalUpdates := engine.totalSignalUpdates + updates })
  modify (fun engine => { engine with
    framesByArbitrationId := engine.framesByArbitrationId.set frame.arbitrationId
      ((engine.framesByArbitrationId.get? frame.arbitrationId).getD 0 + 1) })
  modify (fun engine => { engine with
    latestTimestampMicroseconds := some frame.timestampMicroseconds })
  modify (fun engine => { engine with lastFrameSequence := some frameSequence })
  modify (fun engine => { engine with nextFrameSequence := engine.nextFrameSequence + 1 })

/-- The statements that come before the first write. -/
def validate (frame : UncheckedFrame) (engine : TelemetryEngine) :
    Except PyException (List SignalSample) :=
  match engine.laterThan frame.decoded with
  | some latest => .error (outOfOrder frame.decoded latest)
  | none =>
    match engine.catalog.definitionsForFrame frame.decoded with
    | .error error => .error error
    | .ok definitions =>
      if frame.WellTyped then
        .ok (List.zipWith (sampleOf frame.decoded engine.nextFrameSequence) definitions
          frame.decoded.signals.values)
      else .error wrongValueType

/-- `ingest`, statement by statement. -/
def ingestInPlace (frame : UncheckedFrame) : Mutation (List SignalSample) := do
  let engine ← get
  match validate frame engine with
  | .error error => throw error
  | .ok samples =>
    recordSamples samples
    countFrame frame.decoded engine.nextFrameSequence samples.length
    return samples

/-- A run of a method body: how it ended and the engine it left. -/
def Mutation.apply {α : Type} (body : Mutation α) (engine : TelemetryEngine) :
    Except PyException α × TelemetryEngine :=
  StateT.run (ExceptT.run body) engine

theorem recordSamples_apply (samples : List SignalSample) (engine : TelemetryEngine) :
    (recordSamples samples).apply engine = (.ok (), samples.foldl recordSample engine) := by
  induction samples generalizing engine with
  | nil => rfl
  | cons sample rest ih =>
    rw [List.foldl_cons, ← ih]
    rfl

/-- A body that starts by recording samples goes on with the engine that has them. -/
theorem recordSamples_bind_apply {α : Type} (samples : List SignalSample) (body : Mutation α)
    (engine : TelemetryEngine) :
    (recordSamples samples >>= fun _ => body).apply engine =
      body.apply (samples.foldl recordSample engine) := by
  have hrun := recordSamples_apply samples engine
  unfold Mutation.apply at hrun ⊢
  simp only [ExceptT.run_bind, StateT.run_bind, hrun]
  rfl

/-- The source's `ingest` raises and changes nothing, or returns and has accepted the frame. -/
theorem ingestInPlace_apply (frame : UncheckedFrame) (engine : TelemetryEngine) :
    (ingestInPlace frame).apply engine =
      match validate frame engine with
      | .error error => (.error error, engine)
      | .ok samples => (.ok samples, engine.accept frame.decoded samples) := by
  have hget : (ingestInPlace frame).apply engine =
      Mutation.apply (match validate frame engine with
        | .error error => throw error
        | .ok samples => recordSamples samples >>= fun _ => do
          countFrame frame.decoded engine.nextFrameSequence samples.length
          return samples) engine := rfl
  rw [hget]
  cases hvalid : validate frame engine with
  | error error => rfl
  | ok samples => exact recordSamples_bind_apply samples _ engine

/-- A frame passes validation if its values have proper types and the pure `ingest` takes it. -/
theorem validate_ok_iff {frame : UncheckedFrame} {engine : TelemetryEngine}
    {samples : List SignalSample} :
    validate frame engine = .ok samples ↔ frame.WellTyped ∧
      engine.ingest frame.decoded = .ok (samples, engine.accept frame.decoded samples) := by
  unfold validate TelemetryEngine.ingest
  cases hlater : engine.laterThan frame.decoded with
  | some latest => simp
  | none =>
    cases hdefinitions : engine.catalog.definitionsForFrame frame.decoded with
    | error error => simp
    | ok definitions =>
      by_cases htyped : frame.WellTyped
      · simp only [htyped, if_true, Except.ok.injEq, Prod.mk.injEq, true_and]
        exact ⟨fun h => ⟨h, h ▸ rfl⟩, And.left⟩
      · simp [htyped]

/-- A rejected frame leaves the whole engine as it was. -/
theorem ingestInPlace_error {frame : UncheckedFrame} {engine engine' : TelemetryEngine}
    {error : PyException} (h : (ingestInPlace frame).apply engine = (.error error, engine')) :
    engine' = engine := by
  rw [ingestInPlace_apply] at h
  split at h <;> cases h
  rfl

/-! ## The abstract state -/

end TelemetryEngine

/-- A frame that `ingest` accepted, and the samples it returned. -/
structure AcceptedFrame where
  frame : DecodedCanFrame
  samples : List SignalSample

/-- All accepted samples, in the order of acceptance. -/
def acceptedSamples (accepted : List AcceptedFrame) : List SignalSample :=
  accepted.flatMap (·.samples)

/-- The accepted samples of one signal. -/
def samplesOf (key : SignalKey) (samples : List SignalSample) : List SignalSample :=
  samples.filter (·.key = key)

theorem samplesOf_append (key : SignalKey) (l m : List SignalSample) :
    samplesOf key (l ++ m) = samplesOf key l ++ samplesOf key m :=
  List.filter_append ..

@[simp] theorem samplesOf_singleton_self (sample : SignalSample) :
    samplesOf sample.key [sample] = [sample] := by
  simp [samplesOf]

theorem samplesOf_singleton_of_ne {key : SignalKey} {sample : SignalSample}
    (h : sample.key ≠ key) : samplesOf key [sample] = [] := by
  simp [samplesOf, h]

theorem acceptedSamples_append (accepted : List AcceptedFrame) (entry : AcceptedFrame) :
    acceptedSamples (accepted ++ [entry]) = acceptedSamples accepted ++ entry.samples := by
  simp [acceptedSamples]

namespace TelemetryEngine

/-- `_histories.get(key, ())` as the deque it is or would become. -/
def historyOf (engine : TelemetryEngine) (key : SignalKey) : BoundedDeque SignalSample :=
  (engine.histories.get? key).getD (.empty engine.historyCapacity)

/-- The engine stores, for every key, what follows from the samples written so far. -/
structure Stores (engine : TelemetryEngine) (samples : List SignalSample) : Prop where
  maxlen : ∀ key, (engine.historyOf key).maxlen = engine.historyCapacity
  histories : ∀ key, (engine.historyOf key).Holds (samplesOf key samples)
  latest : ∀ key, engine.latest.get? key = (samplesOf key samples).getLast?

/-- One round of the mutation loop writes under the sample's key only. -/
theorem Stores.recordSample {engine : TelemetryEngine} {samples : List SignalSample}
    (h : engine.Stores samples) (sample : SignalSample) :
    (engine.recordSample sample).Stores (samples ++ [sample]) := by
  have hself : (engine.recordSample sample).historyOf sample.key =
      (engine.historyOf sample.key).append sample := by
    simp [historyOf, TelemetryEngine.recordSample]
  have hother : ∀ key, key ≠ sample.key →
      (engine.recordSample sample).historyOf key = engine.historyOf key := by
    intro key hkey
    simp [historyOf, TelemetryEngine.recordSample, hkey]
  constructor
  · intro key
    by_cases hkey : key = sample.key
    · subst hkey
      rw [hself, BoundedDeque.maxlen_append]
      exact h.maxlen _
    · rw [hother key hkey]
      exact h.maxlen key
  · intro key
    rw [samplesOf_append]
    by_cases hkey : key = sample.key
    · subst hkey
      rw [hself, samplesOf_singleton_self]
      exact (h.histories _).append sample
    · rw [hother key hkey, samplesOf_singleton_of_ne (Ne.symm hkey), List.append_nil]
      exact h.histories key
  · intro key
    rw [samplesOf_append, recordSample_latest, Dict.get?_set]
    split
    · rename_i hkey
      rw [hkey, samplesOf_singleton_self, List.getLast?_append]
      rfl
    · rename_i hkey
      rw [samplesOf_singleton_of_ne (Ne.symm hkey), List.append_nil]
      exact h.latest key

theorem Stores.foldl_recordSample {engine : TelemetryEngine} {samples : List SignalSample}
    (h : engine.Stores samples) (more : List SignalSample) :
    (more.foldl TelemetryEngine.recordSample engine).Stores (samples ++ more) := by
  induction more generalizing engine samples with
  | nil => rwa [List.append_nil]
  | cons sample rest ih =>
    have hrest := ih (h.recordSample sample)
    rwa [List.append_assoc, List.singleton_append] at hrest

/-- The frame was accepted as number `sequence`: its samples are those of its definitions. -/
def AcceptedAs (catalog : SignalCatalog) (sequence : ℕ) (entry : AcceptedFrame) : Prop :=
  ∃ definitions, catalog.definitionsForFrame entry.frame = .ok definitions ∧
    entry.samples =
      List.zipWith (sampleOf entry.frame sequence) definitions entry.frame.signals.values

/-- The engine after accepting `accepted` and nothing else since its last reset. -/
structure Represents (engine : TelemetryEngine) (accepted : List AcceptedFrame) : Prop where
  stores : engine.Stores (acceptedSamples accepted)
  nextSequence : engine.nextFrameSequence = accepted.length
  updates : engine.totalSignalUpdates = (acceptedSamples accepted).length
  newest : engine.latestTimestampMicroseconds =
    accepted.getLast?.map (·.frame.timestampMicroseconds)
  counts : ∀ arbitrationId, (engine.framesByArbitrationId.get? arbitrationId).getD 0 =
    (accepted.map (·.frame.arbitrationId)).count arbitrationId
  counted : ∀ entry ∈ accepted, entry.frame.arbitrationId ∈ engine.framesByArbitrationId.keys
  numbered : ∀ sequence entry, accepted[sequence]? = some entry →
    AcceptedAs engine.catalog sequence entry
  ordered : ∀ entry ∈ accepted, ∃ latest, engine.latestTimestampMicroseconds = some latest ∧
    entry.frame.timestampMicroseconds ≤ latest

theorem represents_fresh (catalog : SignalCatalog) (historyCapacity : ℕ) :
    (fresh catalog historyCapacity).Represents [] where
  stores := ⟨fun _ => rfl, fun _ => BoundedDeque.holds_empty _, fun _ => rfl⟩
  nextSequence := rfl
  updates := rfl
  newest := rfl
  counts := fun _ => rfl
  counted := nofun
  numbered := nofun
  ordered := nofun

theorem Represents.ingest {engine engine' : TelemetryEngine} {accepted : List AcceptedFrame}
    (h : engine.Represents accepted) {frame : DecodedCanFrame} {samples : List SignalSample}
    (hingest : engine.ingest frame = .ok (samples, engine')) :
    engine'.Represents (accepted ++ [⟨frame, samples⟩]) := by
  obtain ⟨hlater, definitions, hdefinitions, hsamples, rfl⟩ := ingest_ok_iff.1 hingest
  rw [laterThan_eq_none] at hlater
  have hstores := h.stores.foldl_recordSample samples
  constructor
  · rw [acceptedSamples_append]
    exact ⟨hstores.maxlen, hstores.histories, hstores.latest⟩
  · rw [accept_eq, List.length_append, List.length_singleton, ← h.nextSequence]
  · rw [accept_eq, acceptedSamples_append, List.length_append, ← h.updates]
  · rw [accept_eq, List.getLast?_append]
    rfl
  · intro arbitrationId
    rw [accept_eq, List.map_append, List.count_append, List.map_singleton, ← h.counts]
    simp only [Dict.get?_set]
    split
    · rename_i hsame
      rw [hsame, List.count_singleton_self]
      rfl
    · rename_i hother
      rw [List.count_singleton, if_neg (by simpa using Ne.symm hother), Nat.add_zero]
  · intro entry hmem
    rw [accept_eq]
    rw [Dict.mem_keys_set]
    rcases List.mem_append.1 hmem with hold | hnew
    · exact Or.inr (h.counted entry hold)
    · rw [List.mem_singleton.1 hnew]
      exact Or.inl rfl
  · intro sequence entry hget
    rw [accept_eq]
    rcases Nat.lt_trichotomy sequence accepted.length with hlt | heq | hgt
    · rw [List.getElem?_append_left hlt] at hget
      exact h.numbered sequence entry hget
    · rw [heq, List.getElem?_concat_length] at hget
      cases hget
      exact ⟨definitions, hdefinitions, by rw [hsamples, heq, h.nextSequence]⟩
    · rw [List.getElem?_eq_none (by rw [List.length_append]; exact hgt)] at hget
      cases hget
  · intro entry hmem
    rw [accept_eq]
    refine ⟨_, rfl, ?_⟩
    rcases List.mem_append.1 hmem with hold | hnew
    · obtain ⟨latest, hlatest, hle⟩ := h.ordered entry hold
      exact hle.trans (hlater latest hlatest)
    · rw [List.mem_singleton.1 hnew]

end TelemetryEngine

/-! ## Runs of calls -/

inductive EngineCall where
  | ingest (frame : UncheckedFrame)
  | reset

namespace TelemetryEngine

/-- One call, together with the frames accepted since the last reset. A raise is caught by the
caller, who goes on with the engine it left. -/
def call (engine : TelemetryEngine) (accepted : List AcceptedFrame) :
    EngineCall → TelemetryEngine × List AcceptedFrame
  | .ingest frame =>
    match (ingestInPlace frame).apply engine with
    | (.error _, engine') => (engine', accepted)
    | (.ok samples, engine') => (engine', accepted ++ [⟨frame.decoded, samples⟩])
  | .reset => (engine.reset, [])

def callAll (engine : TelemetryEngine) (accepted : List AcceptedFrame) :
    List EngineCall → TelemetryEngine × List AcceptedFrame
  | [] => (engine, accepted)
  | call :: rest => (engine.call accepted call).1.callAll (engine.call accepted call).2 rest

/-- What every call preserves. -/
structure Reached (catalog : SignalCatalog) (historyCapacity : ℕ) (engine : TelemetryEngine)
    (accepted : List AcceptedFrame) : Prop where
  catalog_eq : engine.catalog = catalog
  capacity_eq : engine.historyCapacity = historyCapacity
  sound : engine.Sound
  represents : engine.Represents accepted

theorem reached_fresh (catalog : SignalCatalog) (historyCapacity : ℕ) :
    Reached catalog historyCapacity (fresh catalog historyCapacity) [] :=
  ⟨rfl, rfl, sound_fresh _ _, represents_fresh _ _⟩

theorem Reached.call {catalog : SignalCatalog} {historyCapacity : ℕ} {engine : TelemetryEngine}
    {accepted : List AcceptedFrame} (h : Reached catalog historyCapacity engine accepted)
    (call : EngineCall) :
    Reached catalog historyCapacity (engine.call accepted call).1 (engine.call accepted call).2 := by
  cases call with
  | reset =>
    unfold TelemetryEngine.call reset
    rw [h.catalog_eq, h.capacity_eq]
    exact reached_fresh catalog historyCapacity
  | ingest frame =>
    simp only [TelemetryEngine.call, ingestInPlace_apply]
    cases hvalid : validate frame engine with
    | error error => exact h
    | ok samples =>
      have hingest := (validate_ok_iff.1 hvalid).2
      refine ⟨(ingest_catalog hingest).trans h.catalog_eq, ?_, h.sound.ingest hingest,
        h.represents.ingest hingest⟩
      change (engine.accept frame.decoded samples).historyCapacity = historyCapacity
      rw [accept_eq]
      exact h.capacity_eq

theorem Reached.callAll {catalog : SignalCatalog} {historyCapacity : ℕ} {engine : TelemetryEngine}
    {accepted : List AcceptedFrame} (h : Reached catalog historyCapacity engine accepted)
    (calls : List EngineCall) :
    Reached catalog historyCapacity (engine.callAll accepted calls).1
      (engine.callAll accepted calls).2 := by
  induction calls generalizing engine accepted with
  | nil => exact h
  | cons call rest ih => exact ih (h.call call)

/-! ## What the observers report -/

/-- The snapshot has the latest accepted sample of every signal and its freshness, at the time of the
last accepted frame, and the engine's statistics. -/
structure Shows (catalog : SignalCatalog) (engine : TelemetryEngine) (accepted : List AcceptedFrame)
    (snapshot : TelemetrySnapshot) : Prop where
  samples : ∀ key,
    snapshot.samples.get? key = (samplesOf key (acceptedSamples accepted)).getLast?
  rated : ∀ key, (snapshot.freshness.get? key).isSome = (snapshot.samples.get? key).isSome
  freshness : ∀ key sample, snapshot.samples.get? key = some sample →
    ∃ definition latest, catalog.get? key = some definition ∧
      snapshot.observationTimestampMicroseconds = some latest ∧
      sample.timestampMicroseconds ≤ latest ∧
      snapshot.freshness.get? key =
        some (if latest - sample.timestampMicroseconds ≤
          2 * definition.expectedPeriodMicroseconds then .fresh else .stale)
  observationTimestamp : snapshot.observationTimestampMicroseconds =
    accepted.getLast?.map (·.frame.timestampMicroseconds)
  lastFrameSequence : snapshot.lastFrameSequence = engine.statistics.lastFrameSequence
  statistics : snapshot.statistics = engine.statistics

/-- Everything the engine reports, as functions of the accepted frames. -/
structure Reports (catalog : SignalCatalog) (historyCapacity : ℕ) (engine : TelemetryEngine)
    (accepted : List AcceptedFrame) : Prop where
  numbered : ∀ sequence entry, accepted[sequence]? = some entry →
    AcceptedAs catalog sequence entry
  history : ∀ key definition, catalog.get? key = some definition →
    ∃ kept, engine.history key = .ok kept ∧
      kept = (samplesOf key (acceptedSamples accepted)).drop
        ((samplesOf key (acceptedSamples accepted)).length -
          min historyCapacity (samplesOf key (acceptedSamples accepted)).length) ∧
      engine.latestSample key = .ok kept.getLast?
  totalFrames : engine.statistics.totalFrames = accepted.length
  totalSignalUpdates : engine.statistics.totalSignalUpdates =
    (accepted.map (fun entry => entry.frame.signals.keys.length)).sum
  lastFrameSequence : engine.statistics.lastFrameSequence =
    if accepted = [] then none else some (accepted.length - 1)
  framesByArbitrationId : ∀ arbitrationId,
    (engine.statistics.framesByArbitrationId.get? arbitrationId).getD 0 =
      (accepted.map (·.frame.arbitrationId)).count arbitrationId
  sum_frames : engine.statistics.framesByArbitrationId.values.sum = engine.statistics.totalFrames
  ordered : ∀ sample ∈ acceptedSamples accepted, ∃ latest,
    engine.statistics.latestTimestampMicroseconds = some latest ∧
      sample.timestampMicroseconds ≤ latest
  latestTimestamp : engine.statistics.latestTimestampMicroseconds =
    accepted.getLast?.map (·.frame.timestampMicroseconds)
  snapshot : ∃ snapshot, engine.snapshot = .ok snapshot ∧ Shows catalog engine accepted snapshot

/-- An accepted frame has a sample for each of its signals. -/
theorem AcceptedAs.length_samples {catalog : SignalCatalog} {sequence : ℕ} {entry : AcceptedFrame}
    (h : AcceptedAs catalog sequence entry) :
    entry.samples.length = entry.frame.signals.keys.length := by
  obtain ⟨definitions, hdefinitions, hsamples⟩ := h
  have hlength := (SignalCatalog.definitionsForFrame_ok hdefinitions).2.1
  rw [hsamples, List.length_zipWith, hlength]
  simp [Dict.values, Dict.keys]

theorem Represents.length_samples {engine : TelemetryEngine} {accepted : List AcceptedFrame}
    (h : engine.Represents accepted) :
    (acceptedSamples accepted).length =
      (accepted.map (fun entry => entry.frame.signals.keys.length)).sum := by
  rw [acceptedSamples, List.length_flatMap]
  congr 1
  refine List.map_congr_left ?_
  intro entry hmem
  obtain ⟨sequence, hget⟩ := List.mem_iff_getElem?.1 hmem
  exact (h.numbered sequence entry hget).length_samples

theorem Represents.tallies {engine : TelemetryEngine} {accepted : List AcceptedFrame}
    (h : engine.Represents accepted) :
    engine.framesByArbitrationId.Tallies id (accepted.map (·.frame.arbitrationId)) where
  covers := by
    intro arbitrationId hmem
    obtain ⟨entry, hentry, rfl⟩ := List.mem_map.1 hmem
    exact h.counted entry hentry
  counts := by
    intro arbitrationId frames hget
    rw [← h.counts, hget]
    rfl

theorem Reached.reports {catalog : SignalCatalog} {historyCapacity : ℕ} {engine : TelemetryEngine}
    {accepted : List AcceptedFrame} (h : Reached catalog historyCapacity engine accepted)
    (hcapacity : 0 < historyCapacity) : Reports catalog historyCapacity engine accepted := by
  obtain ⟨rfl, rfl, hsound, hrepresents⟩ := h
  have htotal : engine.totalFrames = accepted.length :=
    hsound.sequence.symm.trans hrepresents.nextSequence
  constructor
  · exact hrepresents.numbered
  · intro key definition hdefinition
    have hrequire := SignalCatalog.require_ok_iff.2 hdefinition
    have hitems := hrepresents.stores.histories key
    rw [BoundedDeque.Holds, hrepresents.stores.maxlen key] at hitems
    refine ⟨(engine.historyOf key).items, ?_, ?_, ?_⟩
    · simp only [TelemetryEngine.history, hrequire]
      rfl
    · rw [hitems, List.rtake]
      congr 1
      omega
    · simp only [TelemetryEngine.latestSample, hrequire, bind, Except.bind, pure, Except.pure]
      rw [hrepresents.stores.latest key, hitems, getLast?_rtake hcapacity]
  · exact htotal
  · rw [← hrepresents.length_samples]
    exact hrepresents.updates
  · change engine.lastFrameSequence = _
    rw [hsound.last, htotal]
    simp only [List.length_eq_zero_iff]
  · exact hrepresents.counts
  · have hsum := hrepresents.tallies.sum_eq
    rw [List.map_id, List.length_map] at hsum
    exact hsum.trans htotal.symm
  · intro sample hmem
    obtain ⟨entry, hentry, hsample⟩ := List.mem_flatMap.1 hmem
    obtain ⟨sequence, hget⟩ := List.mem_iff_getElem?.1 hentry
    obtain ⟨definitions, -, hsamples⟩ := hrepresents.numbered sequence entry hget
    obtain ⟨latest, hlatest, hle⟩ := hrepresents.ordered entry hentry
    rw [hsamples] at hsample
    exact ⟨latest, hlatest, (mem_samples hsample).1.trans_le hle⟩
  · exact hrepresents.newest
  · obtain ⟨snapshot, hsnapshot, hsamples, hobservation, hlast, hstatistics⟩ := hsound.snapshot
    refine ⟨snapshot, hsnapshot, ?_, ?_, ?_, hobservation.trans hrepresents.newest, hlast,
      hstatistics⟩
    · intro key
      rw [hsamples]
      exact hrepresents.stores.latest key
    · intro key
      rw [hsamples]
      exact snapshot_rated hsnapshot key
    · intro key sample hget
      rw [hsamples] at hget
      obtain ⟨definition, latest, hdefinition, hlatest, hle, hstatus⟩ :=
        hsound.snapshot_freshness hsnapshot hget
      exact ⟨definition, latest, hdefinition, hobservation.trans hlatest, hle, hstatus⟩

/-- Any calls on a fresh engine, whether its frames are accepted or rejected, leave an engine that
reports exactly the frames accepted since the last reset; and a frame it rejects changes nothing. -/
theorem reports_every_run (catalog : SignalCatalog) {historyCapacity : ℕ}
    (hcapacity : 0 < historyCapacity) (calls : List EngineCall) :
    ∃ created engine accepted, create catalog historyCapacity = .ok created ∧
      created.callAll [] calls = (engine, accepted) ∧
      Reports catalog historyCapacity engine accepted ∧
      ∀ frame error engine', (ingestInPlace frame).apply engine = (.error error, engine') →
        engine' = engine :=
  ⟨fresh catalog historyCapacity, _, _, if_neg (Nat.pos_iff_ne_zero.1 hcapacity), rfl,
    ((reached_fresh catalog historyCapacity).callAll calls).reports hcapacity,
    fun _ _ _ hrejected => ingestInPlace_error hrejected⟩

/-- A catalog of one signal with a period of ten microseconds, and frames of its message. -/
def speedCatalog : SignalCatalog where
  messages := [⟨0x500, "Motion", "Dsc", 10, [⟨"Speed", "km/h"⟩]⟩]
  ids_nodup := by decide
  keys_nodup := by decide

def speedFrame (timestamp : ℕ) (value : Option SignalValue) : UncheckedFrame where
  arbitrationId := 0x500
  messageName := "Motion"
  timestampMicroseconds := timestamp
  signals := ⟨[("Speed", value)], by simp⟩

/-- The second frame is out of order, the third has a value of the wrong type. -/
def speedCalls : List EngineCall :=
  [.ingest (speedFrame 100 (some (.int 1))), .ingest (speedFrame 90 (some (.int 2))),
    .ingest (speedFrame 100 none), .ingest (speedFrame 130 (some (.int 3)))]

theorem speed_engine_reports_accepted_frames :
    ∃ engine accepted, (fresh speedCatalog 1).callAll [] speedCalls = (engine, accepted) ∧
      accepted.map (·.frame.timestampMicroseconds) = [100, 130] ∧
      Reports speedCatalog 1 engine accepted := by
  obtain ⟨created, engine, accepted, hcreate, hrun, hreports, -⟩ :=
    reports_every_run speedCatalog Nat.one_pos speedCalls
  cases hcreate
  have htimes : ((fresh speedCatalog 1).callAll [] speedCalls).2.map
      (·.frame.timestampMicroseconds) = [100, 130] := by decide +kernel
  rw [hrun] at htimes
  exact ⟨engine, accepted, hrun, htimes, hreports⟩

end TelemetryEngine

end TunerOs
