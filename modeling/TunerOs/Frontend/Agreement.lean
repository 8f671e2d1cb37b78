-- SUMMARY: A client that subscribes at any time and follows the updates agrees with one that subscribes at the end.
import TunerOs.Frontend.Following
import TunerOs.Telemetry.SourceReset

/-!
# Agreement of clients

One update of a frame the engine accepted keeps a client showing the engine, so the
updates published during a run do. The actions a client dispatches carry the
updates in any batching, with any other actions but a new snapshot in between.
-/

namespace TunerOs

open Containers Transition

/-! ## One update -/

/-- The update numbered by the frames counted so far is neither ignored nor after a gap. -/
theorem applyUpdate_next {state : TelemetryClientState} {update : TelemetryUpdateEventResponse}
    {frames : ℕ} (hlast : state.lastFrameSequence = if frames = 0 then none else some (frames - 1))
    (hnext : update.frameSequence = frames) :
    applyUpdate state update = acceptUpdate state update ∧
      gapWarning state update = state.streamWarning := by
  unfold applyUpdate gapWarning
  cases frames with
  | zero =>
    rw [if_pos rfl] at hlast
    rw [hlast]
    exact ⟨rfl, rfl⟩
  | succ latest =>
    rw [if_neg (Nat.succ_ne_zero latest), Nat.add_sub_cancel] at hlast
    rw [hlast]
    refine ⟨if_neg ?_, if_neg ?_⟩
    · rw [hnext]
      exact Nat.not_succ_le_self latest
    · exact not_not.2 hnext

/-- A frame the engine accepted is of a catalogued message, and so are its samples' signals. -/
theorem TelemetryEngine.ingest_writes {engine engine' : TelemetryEngine} {frame : DecodedCanFrame}
    {samples : List SignalSample} (hingest : engine.ingest frame = .ok (samples, engine')) :
    (∃ message ∈ engine.catalog.messages, message.arbitrationId = frame.arbitrationId ∧
      message.messageName = frame.messageName) ∧
    ∀ sample ∈ samples, sample.timestampMicroseconds = frame.timestampMicroseconds ∧
      sample.frameSequence = engine.nextFrameSequence ∧ engine.catalog.Knows sample.key := by
  obtain ⟨-, definitions, hdefinitions, rfl, -⟩ := ingest_ok_iff.1 hingest
  obtain ⟨hmessage, -, hcatalogued⟩ := SignalCatalog.definitionsForFrame_ok hdefinitions
  refine ⟨hmessage, ?_⟩
  intro sample hmem
  obtain ⟨htime, hsequence, definition, hdefinition, hkey⟩ := mem_samples hmem
  exact ⟨htime, hsequence, definition, hkey ▸ hcatalogued definition hdefinition⟩

/-- What was counted stays counted. -/
theorem TelemetryEngine.ingest_counted {engine engine' : TelemetryEngine} {frame : DecodedCanFrame}
    {samples : List SignalSample} (hingest : engine.ingest frame = .ok (samples, engine')) {id : ℕ}
    (h : (engine.framesByArbitrationId.get? id).isSome) :
    (engine'.framesByArbitrationId.get? id).isSome := by
  obtain ⟨-, definitions, -, -, rfl⟩ := ingest_ok_iff.1 hingest
  rw [accept_eq]
  by_cases hid : frame.arbitrationId = id
  · rw [hid, Dict.get?_set_self]
    rfl
  · rw [Dict.get?_set_of_ne _ _ (Ne.symm hid)]
    exact h

/-- The update of the frame the engine accepted next is what the client expects. -/
theorem Shows.accepts {engine engine' : TelemetryEngine} {state : TelemetryClientState}
    (h : Shows engine state) (hsound : engine.Sound) {frame : DecodedCanFrame}
    {samples : List SignalSample} {update : TelemetryUpdate}
    (hingest : engine.ingest frame = .ok (samples, engine'))
    (hupdate : Pipeline.updateOf frame samples engine' = .ok update) :
    (serializeUpdate update).frameSequence = engine.totalFrames ∧
      applyUpdate state (serializeUpdate update) = acceptUpdate state (serializeUpdate update) ∧
      gapWarning state (serializeUpdate update) = state.streamWarning := by
  obtain ⟨first, rest, freshness, hfirst, -, hshape⟩ := Pipeline.updateOf_ok hupdate
  have hwritten := (TelemetryEngine.ingest_writes hingest).2 first (hfirst ▸ List.mem_cons_self)
  have hnext : (serializeUpdate update).frameSequence = engine.totalFrames := by
    rw [hshape]
    exact hwritten.2.1.trans hsound.sequence
  exact ⟨hnext, applyUpdate_next (h.last.trans hsound.last) hnext⟩

theorem Shows.update {engine engine' : TelemetryEngine} {state : TelemetryClientState}
    (h : Shows engine state) (hsound : engine.Sound) (hcatalog : engine.catalog.Separable)
    {frame : DecodedCanFrame} {samples : List SignalSample} {update : TelemetryUpdate}
    (hingest : engine.ingest frame = .ok (samples, engine'))
    (hupdate : Pipeline.updateOf frame samples engine' = .ok update) :
    Shows engine' (applyUpdate state (serializeUpdate update)) := by
  obtain ⟨hsequence, haccept, hgap⟩ := h.accepts hsound hingest hupdate
  obtain ⟨first, rest, freshness, hfirst, hlength, hshape⟩ := Pipeline.updateOf_ok hupdate
  obtain ⟨⟨message, hmessage, hid, hname⟩, hwritten⟩ := TelemetryEngine.ingest_writes hingest
  obtain ⟨-, definitions, -, -, rfl⟩ := TelemetryEngine.ingest_ok_iff.1 hingest
  have hsignals : (serializeUpdate update).signals.length = samples.length := by
    rw [hshape]
    simp only [serializeUpdate, List.length_zipWith, hlength, min_self]
  rw [haccept, TelemetryEngine.accept_eq]
  subst hshape
  -- Field by field: what the client adds to its own state is what the engine added to its.
  constructor
  · exact h.samples.foldl hcatalog hlength (fun sample hmem => (hwritten sample hmem).2.2)
  · rfl
  · exact congrArg some (hsequence.trans hsound.sequence.symm)
  · have htotal : max (state.statistics.totalFrames + 1) (first.frameSequence + 1) =
        engine.totalFrames + 1 := by
      rw [h.totalFrames, show first.frameSequence = engine.totalFrames from hsequence, max_self]
    exact htotal
  · exact congrArg₂ (· + ·) h.totalSignalUpdates hsignals
  · rfl
  · exact congrArg some (hsequence.trans hsound.sequence.symm)
  · rw [← hid]
    exact h.counts.count hmessage rfl rfl hname.symm
  · exact hgap.trans h.warning

/-! ## Batches -/

/-- The fields that updates write, histories apart, are those of `other`. -/
structure SameStream (state other : TelemetryClientState) : Prop where
  samples : state.samples = other.samples
  observation : state.observationTimestampMicroseconds = other.observationTimestampMicroseconds
  last : state.lastFrameSequence = other.lastFrameSequence
  statistics : state.statistics = other.statistics
  warning : state.streamWarning = other.streamWarning

theorem SameStream.refl (state : TelemetryClientState) : SameStream state state :=
  ⟨rfl, rfl, rfl, rfl, rfl⟩

theorem Shows.of_sameStream {engine : TelemetryEngine} {state other : TelemetryClientState}
    (hsame : SameStream state other) (h : Shows engine other) : Shows engine state where
  samples := hsame.samples ▸ h.samples
  observation := hsame.observation.trans h.observation
  last := hsame.last.trans h.last
  totalFrames := hsame.statistics ▸ h.totalFrames
  totalSignalUpdates := hsame.statistics ▸ h.totalSignalUpdates
  latest := hsame.statistics ▸ h.latest
  lastCounted := hsame.statistics ▸ h.lastCounted
  counts := hsame.statistics ▸ h.counts
  warning := hsame.warning.trans h.warning

theorem SameStream.applied {state other : TelemetryClientState} (h : SameStream state other)
    (update : TelemetryUpdateEventResponse) :
    SameStream (applyUpdate state update) (applyUpdate other update) := by
  have haccept : SameStream (acceptUpdate state update) (acceptUpdate other update) := by
    unfold acceptUpdate gapWarning
    rw [h.samples, h.statistics, h.last, h.warning]
    exact ⟨rfl, rfl, rfl, rfl, rfl⟩
  unfold applyUpdate
  rw [h.last]
  split
  · exact haccept
  · split
    · exact ⟨h.samples, h.observation, rfl, h.statistics, rfl⟩
    · exact haccept

theorem SameStream.foldl_applied {state other : TelemetryClientState}
    (h : SameStream state other) (updates : List TelemetryUpdateEventResponse) :
    SameStream (updates.foldl applyUpdate state)
      (updates.foldl applyUpdate other) := by
  induction updates generalizing state other with
  | nil => exact h
  | cons update rest ih => exact ih (h.applied update)

/-- The updates an action carries. -/
def TelemetryAction.carried : TelemetryAction → List TelemetryUpdateEventResponse
  | .updates batch => batch
  | _ => []

def TelemetryAction.isSnapshot : TelemetryAction → Bool
  | .initialSnapshot _ => true
  | _ => false

/-- An action that is not a snapshot applies the updates it carries. -/
theorem SameStream.reduced {state other : TelemetryClientState}
    (h : SameStream state other) {action : TelemetryAction} (haction : action.isSnapshot = false) :
    SameStream (telemetryReducer state action) (action.carried.foldl applyUpdate other) := by
  cases action with
  | initialSnapshot snapshot => cases haction
  | updates batch => exact h.foldl_applied batch
  | connection _ _ | catalog _ | status _ _ | source _ | serviceState _ _ | clientError _ =>
    exact ⟨h.samples, h.observation, h.last, h.statistics, h.warning⟩

/-- Batching does not matter: the actions do what the updates they carry do one by one. -/
theorem SameStream.foldl_reduced {state other : TelemetryClientState}
    (h : SameStream state other) {actions : List TelemetryAction}
    (hactions : ∀ action ∈ actions, action.isSnapshot = false) :
    SameStream (actions.foldl telemetryReducer state)
      ((actions.flatMap TelemetryAction.carried).foldl applyUpdate other) := by
  induction actions generalizing state other with
  | nil => exact h
  | cons action rest ih =>
    rw [List.flatMap_cons, List.foldl_append]
    refine ih (h.reduced (hactions action List.mem_cons_self)) ?_
    exact fun later hmem => hactions later (List.mem_cons_of_mem _ hmem)

/-! ## Warnings stay -/

theorem warning_of_applyUpdate {state : TelemetryClientState}
    {update : TelemetryUpdateEventResponse} (h : (applyUpdate state update).streamWarning = none) :
    state.streamWarning = none := by
  have haccept : (acceptUpdate state update).streamWarning = none → state.streamWarning = none := by
    intro hgap
    change gapWarning state update = none at hgap
    unfold gapWarning at hgap
    split at hgap
    · exact hgap
    · split at hgap
      · cases hgap
      · exact hgap
  unfold applyUpdate at h
  split at h
  · exact haccept h
  · split at h
    · cases h
    · exact haccept h

theorem warning_of_foldl {α : Type*} {f : TelemetryClientState → α → TelemetryClientState}
    {l : List α}
    (hf : ∀ a ∈ l, ∀ state, (f state a).streamWarning = none → state.streamWarning = none)
    {state : TelemetryClientState} (h : (l.foldl f state).streamWarning = none) :
    state.streamWarning = none := by
  induction l generalizing state with
  | nil => exact h
  | cons a rest ih =>
    refine hf a List.mem_cons_self state (ih ?_ h)
    exact fun other hmem => hf other (List.mem_cons_of_mem _ hmem)

/-- Only a snapshot removes a warning. -/
theorem warning_of_telemetryReducer {state : TelemetryClientState} {action : TelemetryAction}
    (haction : action.isSnapshot = false)
    (h : (telemetryReducer state action).streamWarning = none) : state.streamWarning = none := by
  cases action with
  | initialSnapshot snapshot => cases haction
  | updates batch => exact warning_of_foldl (fun _ _ _ => warning_of_applyUpdate) h
  | connection _ _ | catalog _ | status _ _ | source _ | serviceState _ _ | clientError _ => exact h

/-! ## Following a service -/

/-- The telemetry messages among published events, as they are sent. -/
def sentUpdates (events : List TelemetryServiceEvent) : List TelemetryUpdateEventResponse :=
  events.filterMap (fun event =>
    match event with
    | .update update => some (serializeUpdate update)
    | .serviceState _ => none)

theorem sentUpdates_append (events later : List TelemetryServiceEvent) :
    sentUpdates (events ++ later) = sentUpdates events ++ sentUpdates later :=
  List.filterMap_append

theorem sentUpdates_states (states : List TelemetryServiceStateUpdate) :
    sentUpdates (states.map .serviceState) = [] := by
  rw [sentUpdates, List.filterMap_map, List.filterMap_eq_nil_iff]
  exact fun _ _ => rfl

namespace TelemetryService

/-- A frame the telemetry engine accepts in this step is ingested: `ingest_decoded` returns. -/
def IngestsWhole (s : TelemetryService) (label : ServiceLabel) : Prop :=
  ∀ t, s.step label = some t → t.pipeline.telemetry = s.pipeline.telemetry ∨
    ∃ update, t.published = s.published ++ [.update update]

/-- A client that showed the telemetry engine of `s` shows that of `t` once it has applied the
updates published in between. -/
structure Follows (s t : TelemetryService) : Prop where
  sound : t.pipeline.telemetry.Sound
  catalog : t.pipeline.telemetry.catalog = s.pipeline.telemetry.catalog
  counted : ∀ id, (s.pipeline.telemetry.framesByArbitrationId.get? id).isSome →
    (t.pipeline.telemetry.framesByArbitrationId.get? id).isSome
  kept : s.published.length ≤ t.published.length
  shows : ∀ client, Shows s.pipeline.telemetry client →
    Shows t.pipeline.telemetry
      ((sentUpdates (t.published.drop s.published.length)).foldl applyUpdate client)

theorem Follows.refl {s : TelemetryService} (h : s.pipeline.telemetry.Sound) : Follows s s where
  sound := h
  catalog := rfl
  counted := fun _ hcounted => hcounted
  kept := le_rfl
  shows := by
    intro client hclient
    rw [List.drop_length]
    exact hclient

/-- A step that keeps the telemetry engine and publishes no update. -/
theorem Follows.silent {s t u : TelemetryService} (h : Follows s t)
    (htelemetry : u.pipeline.telemetry = t.pipeline.telemetry)
    {events : List TelemetryServiceEvent} (hpublished : u.published = t.published ++ events)
    (hsilent : sentUpdates events = []) : Follows s u where
  sound := htelemetry ▸ h.sound
  catalog := htelemetry ▸ h.catalog
  counted := htelemetry ▸ h.counted
  kept := by
    rw [hpublished, List.length_append]
    exact h.kept.trans (Nat.le_add_right _ _)
  shows := by
    intro client hclient
    rw [htelemetry, hpublished, List.drop_append_of_le_length h.kept, sentUpdates_append, hsilent,
      List.append_nil]
    exact h.shows client hclient

/-- A step that ingests a frame publishes the update that shows it. -/
theorem Follows.ingested {s t u : TelemetryService} (h : Follows s t)
    (hcatalog : s.pipeline.telemetry.catalog.Separable) {frame : DecodedCanFrame}
    {update : TelemetryUpdate} {pipeline : Pipeline}
    (hingest : t.pipeline.ingestDecoded frame = (.ok update, pipeline))
    (htelemetry : u.pipeline.telemetry = pipeline.telemetry)
    (hpublished : u.published = t.published ++ [.update update]) : Follows s u := by
  obtain ⟨samples, telemetry, -, -, diagnostics, haccepted, hupdate, -, -, rfl⟩ :=
    Pipeline.ingestDecoded_ok hingest
  constructor
  · rw [htelemetry]
    exact h.sound.ingest haccepted
  · rw [htelemetry]
    exact (TelemetryEngine.ingest_catalog haccepted).trans h.catalog
  · rw [htelemetry]
    exact fun id hcounted => TelemetryEngine.ingest_counted haccepted (h.counted id hcounted)
  · rw [hpublished, List.length_append]
    exact h.kept.trans (Nat.le_add_right _ _)
  · intro client hclient
    rw [htelemetry, hpublished, List.drop_append_of_le_length h.kept, sentUpdates_append,
      List.foldl_append]
    exact (h.shows client hclient).update h.sound (h.catalog ▸ hcatalog) haccepted hupdate

/-- Where the later counts can be named, so can the earlier ones. -/
theorem Follows.named {s t : TelemetryService} (h : Follows s t)
    (hnamed : t.pipeline.telemetry.Named) : s.pipeline.telemetry.Named := by
  intro message hmessage frames hframes
  obtain ⟨later, hlater⟩ := Option.isSome_iff_exists.1
    (h.counted message.arbitrationId (by rw [hframes]; rfl))
  exact hnamed message (h.catalog ▸ hmessage) later hlater

theorem Follows.step {s t u : TelemetryService} {label : ServiceLabel} (h : Follows s t)
    (hcatalog : s.pipeline.telemetry.catalog.Separable) (hrun : label.startsReplay = false)
    (hwhole : t.IngestsWhole label) (hstep : t.step label = some u) : Follows s u := by
  rcases step_move hstep with hmove | ⟨hreplay, -⟩
  · cases hmove with
    | keep states htelemetry hpublished =>
      exact h.silent htelemetry hpublished (sentUpdates_states states)
    | ingested frame update pipeline hingest htelemetry hpublished =>
      exact h.ingested hcatalog hingest htelemetry hpublished
    | raised frame error pipeline hingest htelemetry hpublished =>
      rcases hwhole u hstep with hkeep | ⟨update, hupdate⟩
      · exact h.silent hkeep (hpublished.trans (List.append_nil _).symm) rfl
      · rw [hpublished, List.self_eq_append_right] at hupdate
        cases hupdate
  · rw [hrun] at hreplay
    cases hreplay

/-- What a subscription adds to the service is not what clients see. -/
theorem subscribe_keeps (s : TelemetryService) :
    s.subscribe.2.pipeline = s.pipeline ∧ s.subscribe.2.published = s.published := by
  unfold subscribe
  split
  · exact ⟨rfl, rfl⟩
  · exact ⟨releaseReplay_pipeline _, releaseReplay_published _⟩

/-- A client that subscribes at any time of a source run, installs the snapshot it is sent and
dispatches the updates published from then on, in whatever batches, agrees with one that
subscribes at the end, if the frames counted until then can be named. It is warned of nothing on the
way. -/
theorem client_agrees_with_later_snapshot (pipeline : Pipeline) (hfresh : pipeline.AtReset)
    (hcatalog : pipeline.telemetry.catalog.Separable) (earlier later : List ServiceLabel)
    (s t : TelemetryService) (hearlier : Reaches pipeline earlier s)
    (hlater : run step s.subscribe.2 later = some t) (hnamed : t.pipeline.telemetry.Named)
    (hrun : ∀ label ∈ later, label.startsReplay = false)
    (hwhole : ∀ before label after u, later = before ++ label :: after →
      run step s.subscribe.2 before = some u → u.IngestsWhole label)
    (actions : List TelemetryAction) (hactions : ∀ action ∈ actions, action.isSnapshot = false)
    (hbatches : actions.flatMap TelemetryAction.carried =
      sentUpdates (t.published.drop s.published.length)) (client other : TelemetryClientState) :
    ∃ first last, initialSnapshot s = .ok first ∧ initialSnapshot t = .ok last ∧
      Agree (actions.foldl telemetryReducer (telemetryReducer client (.initialSnapshot first)))
        (telemetryReducer other (.initialSnapshot last)) ∧
      ∀ dispatched rest, actions = dispatched ++ rest →
        (dispatched.foldl telemetryReducer
          (telemetryReducer client (.initialSnapshot first))).streamWarning = none := by
  obtain ⟨hsound, hsame⟩ := sound_of_run hfresh hearlier
  have hseparable : s.pipeline.telemetry.catalog.Separable := hsame ▸ hcatalog
  obtain ⟨hpipeline, hpublished⟩ := s.subscribe_keeps
  -- Between the snapshots every frame is ingested whole, and its update is published.
  have hfollows : Follows s t := by
    refine run_invariant (P := Follows s) (fun u label v hu (hallowed : _ ∧ _) hstep =>
      hu.step hseparable hallowed.1 hallowed.2 hstep) hlater ?_ ?_
    · intro before label after u hsplit hbefore
      refine ⟨hrun label ?_, hwhole before label after u hsplit hbefore⟩
      rw [hsplit]
      exact List.mem_append_right _ List.mem_cons_self
    · exact (Follows.refl hsound).silent (congrArg Pipeline.telemetry hpipeline)
        (hpublished.trans (List.append_nil _).symm) rfl
  obtain ⟨first, hfirst, hinstalls⟩ := shows_initialSnapshot hsound hseparable
    (hfollows.named hnamed)
  obtain ⟨last, hlast, hlastly⟩ := shows_initialSnapshot hfollows.sound
    (hfollows.catalog ▸ hseparable) hnamed
  -- Batching does not matter: the actions apply the same updates in the same order.
  have hshows : Shows t.pipeline.telemetry
      (actions.foldl telemetryReducer (telemetryReducer client (.initialSnapshot first))) := by
    have hstream := SameStream.foldl_reduced
      (.refl (telemetryReducer client (.initialSnapshot first))) hactions
    rw [hbatches] at hstream
    exact .of_sameStream hstream (hfollows.shows _ (hinstalls client))
  refine ⟨first, last, hfirst, hlast, hshows.agree (hlastly other), ?_⟩
  intro dispatched rest hsplit
  rw [hsplit, List.foldl_append] at hshows
  refine warning_of_foldl (fun action hmem state => ?_) hshows.warning
  refine warning_of_telemetryReducer (hactions action ?_)
  rw [hsplit]
  exact List.mem_append_right _ hmem

theorem separable_packaged : Pipeline.packagedCatalog.Separable := by
  unfold SignalCatalog.Separable
  decide

/-- Every message of the packaged catalog has signals. -/
theorem named_packaged {engine : TelemetryEngine}
    (hcatalog : engine.catalog = Pipeline.packagedCatalog) : engine.Named := by
  intro message hmessage frames _
  rw [hcatalog] at hmessage
  have hall : ∀ message ∈ Pipeline.packagedCatalog.messages, message.signals ≠ [] := by decide
  exact hall message hmessage

/-- A call that publishes an update ingested its frame. -/
theorem ingestsWhole_of_published {s t : TelemetryService} {label : ServiceLabel}
    (hstep : s.step label = some t) {update : TelemetryUpdate}
    (hpublished : t.published = s.published ++ [.update update]) : s.IngestsWhole label := by
  intro u hu
  rw [hstep] at hu
  cases hu
  exact .inr ⟨update, hpublished⟩

/-- A frame with the engine speed alone. -/
def rpmFrame (timestampMicroseconds : ℕ) : DecodedCanFrame :=
  ⟨1280, "DmeFastEngine", timestampMicroseconds, ⟨[("EngineSpeedRpm", .float 750)], by simp⟩⟩

/-- A frame with the coolant temperature alone. -/
def warmFrame (timestampMicroseconds : ℕ) : DecodedCanFrame :=
  ⟨1282, "DmeThermalElectrical", timestampMicroseconds,
    ⟨[("CoolantTemperature", .float 90)], by simp⟩⟩

/-- The frames before a client subscribes. -/
def seenLabels : List ServiceLabel :=
  [.ingestDecoded (rpmFrame 0), .ingestDecoded (warmFrame 0)]

/-- The frames after it did. -/
def followedLabels : List ServiceLabel :=
  [.ingestDecoded (rpmFrame 10000), .ingestDecoded (warmFrame 100000),
    .ingestDecoded (rpmFrame 100000)]

def seen : TelemetryService :=
  (run step (create (.packaged DbcMessage.intelDecode)) seenLabels).getD
    (create (.packaged DbcMessage.intelDecode))

def followed : TelemetryService := (run step seen.subscribe.2 followedLabels).getD seen

/-- The client dispatches the first update at once and the other two after a status change. -/
def followedActions : List TelemetryAction :=
  [.updates ((sentUpdates (followed.published.drop seen.published.length)).take 1),
    .serviceState .running none,
    .updates ((sentUpdates (followed.published.drop seen.published.length)).drop 1)]

theorem client_between_frames_agrees :
    ∃ first last, initialSnapshot seen = .ok first ∧ initialSnapshot followed = .ok last ∧
      first.signals.length = 2 ∧
      (sentUpdates (followed.published.drop seen.published.length)).length = 3 ∧
      Agree
        (followedActions.foldl telemetryReducer
          (telemetryReducer initialTelemetryState (.initialSnapshot first)))
        (telemetryReducer initialTelemetryState (.initialSnapshot last)) := by
  have hsignals : (initialSnapshot seen).map (·.signals.length) = .ok 2 := by decide +kernel
  have hwhole : ∀ before label after u, followedLabels = before ++ label :: after →
      run step seen.subscribe.2 before = some u → u.IngestsWhole label :=
    allowed_cons rfl (ingestsWhole_of_published rfl rfl)
      (allowed_cons rfl (ingestsWhole_of_published rfl rfl)
        (allowed_cons rfl (ingestsWhole_of_published rfl rfl) allowed_nil))
  obtain ⟨first, last, hfirst, hlast, hagree, -⟩ := client_agrees_with_later_snapshot
    (.packaged DbcMessage.intelDecode) (Pipeline.atReset_packaged _) separable_packaged
    seenLabels followedLabels seen followed rfl rfl (named_packaged rfl) (by decide) hwhole
    followedActions (by decide) (by
      change List.take 1 _ ++ ([] ++ (List.drop 1 _ ++ [])) = _
      rw [List.nil_append, List.append_nil, List.take_append_drop])
    initialTelemetryState initialTelemetryState
  rw [hfirst] at hsignals
  exact ⟨first, last, hfirst, hlast, Except.ok.inj hsignals, rfl, hagree⟩

end TelemetryService

end TunerOs
