-- SUMMARY: Every manifest a recorder writes over a run of calls, and when all of them can be read back and opened.
import TunerOs.Session.Catalog
import TunerOs.Session.Lifecycle

/-!
# Reading manifests back

The constructor, `complete` and `abort` write a manifest each, and `complete` a second
one if it cannot publish. The constructor takes arguments that the manifest's schema
does not, and nothing a recorder is called with later can make a manifest unreadable.
-/

namespace TunerOs

/-- The directory of the session, under its final or its `.partial` name. -/
def SessionDirectories.onDisk (directories : SessionDirectories) : Option SessionDirectory :=
  directories.published.or directories.unfinished

namespace SessionRecorder

section Written

variable (sha256 : Bytes → Sha256Digest)

/-- The manifest of a recording that is aborted. -/
def abortedManifest (recorder : SessionRecorder) (reason : String) : SessionManifest :=
  { recorder.manifest with
    framesSha256 := some (sha256 recorder.hashed).text
    status := .incomplete
    failureReason := some (safeReason reason) }

/-- The manifest of a recording that cannot be published. -/
def unpublishedManifest (recorder : SessionRecorder) : SessionManifest :=
  { recorder.manifest.completed (sha256 recorder.hashed) with
    status := .incomplete
    failureReason := some publishingFailure }

/-- The manifests that `abort` puts in place. -/
def writtenByAbort (recorder : SessionRecorder) (reason : String) (faults : FileFaults) :
    List SessionManifest :=
  if recorder.closed ∨ faults.finishFrames.isSome ∨ faults.writeManifest.isSome then []
  else [recorder.abortedManifest sha256 reason]

/-- The manifests that `complete` puts in place: the completed one, and the one of its handler. -/
def writtenByComplete (recorder : SessionRecorder) (faults : FileFaults) : List SessionManifest :=
  if !recorder.recording ∨ faults.finishFrames.isSome then []
  else
    let rewritten :=
      if faults.rewriteManifest.isSome then [] else [recorder.unpublishedManifest sha256]
    if faults.writeManifest.isSome then rewritten
    else recorder.manifest.completed (sha256 recorder.hashed) ::
      (if faults.publish.isSome then rewritten else [])

/-- The manifests that a call puts in place, in order. -/
def writtenBy (recorder : SessionRecorder) (made : RecorderCall) (faults : FileFaults) :
    List SessionManifest :=
  match made with
  | .record _ => []
  | .complete => recorder.writtenByComplete sha256 faults
  | .abort reason => recorder.writtenByAbort sha256 reason faults
  | .close => recorder.writtenByAbort sha256 "recording closed before normal gateway completion" faults

/-- The manifests that some calls put in place. -/
def writtenIn (recorder : SessionRecorder) : List (RecorderCall × FileFaults) → List SessionManifest
  | [] => []
  | step :: rest =>
    recorder.writtenBy sha256 step.1 step.2 ++ (recorder.call sha256 step.1 step.2).writtenIn rest

end Written

variable {sha256 : Bytes → Sha256Digest} {recorder : SessionRecorder} {initial : SessionManifest}
  {frames : List RawCanFrame}

theorem writtenBy_closed (h : recorder.closed = true) (made : RecorderCall) (faults : FileFaults) :
    recorder.writtenBy sha256 made faults = [] := by
  cases made <;> simp [writtenBy, writtenByComplete, writtenByAbort, recording, h]

theorem writtenIn_closed (h : recorder.closed = true) (made : List (RecorderCall × FileFaults)) :
    recorder.writtenIn sha256 made = [] := by
  induction made with
  | nil => rfl
  | cons step rest ih => rw [writtenIn, writtenBy_closed h, call_closed h, ih, List.append_nil]

/-! ## The call that ends a recording -/

/-- What an ending call leaves and writes: valid manifests, the last of which is on disk, and
nothing published but the completed session. -/
structure Ends (sha256 : Bytes → Sha256Digest) (recorder : SessionRecorder)
    (initial : SessionManifest) (frames : List RawCanFrame) (left : SessionRecorder)
    (written : List SessionManifest) : Prop where
  closed : left.closed = true
  valid : Readable initial → ∀ manifest ∈ written, manifest.Valid
  onDisk : left.directories.onDisk.map (·.manifest) =
    some (writtenManifest (written.getLast?.getD initial))
  published : ∀ directory, left.directories.published = some directory →
    directory = ⟨writtenManifest ((initial.describing frames).completed (sha256 recorder.hashed)),
      some recorder.hashed⟩

theorem Recorded.valid_aborted (h : recorder.Recorded initial frames) (hreadable : Readable initial)
    (reason : String) : (recorder.abortedManifest sha256 reason).Valid := by
  unfold abortedManifest
  rw [h.manifest]
  exact hreadable.valid_with h.ordered (fun _ => isSha256Hex_of_digest)
    ⟨Option.some_ne_none _, _, rfl, safeReason_ne_empty reason⟩

theorem Recorded.valid_unpublished (h : recorder.Recorded initial frames)
    (hreadable : Readable initial) : (recorder.unpublishedManifest sha256).Valid := by
  unfold unpublishedManifest
  rw [h.manifest]
  exact hreadable.valid_with h.ordered (fun _ => isSha256Hex_of_digest)
    ⟨Option.some_ne_none _, _, rfl, by decide⟩

theorem Recorded.valid_completed (h : recorder.Recorded initial frames)
    (hreadable : Readable initial) :
    (recorder.manifest.completed (sha256 recorder.hashed)).Valid := by
  rw [h.manifest]
  exact hreadable.valid h.ordered _

variable (sha256) in
theorem Recorded.ends_abort (h : recorder.Recorded initial frames) (reason : String)
    (faults : FileFaults) :
    Ends sha256 recorder initial frames (recorder.abort sha256 reason faults).2
      (recorder.writtenByAbort sha256 reason faults) := by
  cases hfinish : faults.finishFrames with
  | some length =>
    simp only [SessionRecorder.abort, writtenByAbort, finishStream, h.closed, hfinish, h.directories]
    exact ⟨rfl, by simp, rfl, by simp [SessionDirectories.truncateFrames]⟩
  | none =>
    cases hmanifest : faults.writeManifest with
    | some text =>
      simp only [SessionRecorder.abort, writtenByAbort, finishStream, h.closed, hfinish, hmanifest,
        h.directories]
      exact ⟨rfl, by simp, rfl, by simp⟩
    | none =>
      have hwritten : recorder.writtenByAbort sha256 reason faults =
          [recorder.abortedManifest sha256 reason] := by
        simp [writtenByAbort, h.closed, hfinish, hmanifest]
      rw [hwritten]
      simp only [SessionRecorder.abort, finishStream, h.closed, hfinish, hmanifest, h.directories]
      refine ⟨rfl, ?_, rfl, by simp [SessionDirectories.writeManifest]⟩
      intro hreadable manifest hmem
      rw [List.mem_singleton.1 hmem]
      exact h.valid_aborted hreadable reason

variable (sha256) in
theorem Recorded.ends_complete (h : recorder.Recorded initial frames) (faults : FileFaults) :
    Ends sha256 recorder initial frames (recorder.complete sha256 faults).2
      (recorder.writtenByComplete sha256 faults) := by
  have hcompleted := fun hreadable => @Recorded.valid_completed sha256 _ _ _ h hreadable
  have hunpublished := fun hreadable => @Recorded.valid_unpublished sha256 _ _ _ h hreadable
  cases hfinish : faults.finishFrames with
  | some length =>
    simp only [SessionRecorder.complete, writtenByComplete, finishStream, h.recording, hfinish,
      h.directories]
    exact ⟨rfl, by simp, rfl, by simp [SessionDirectories.truncateFrames]⟩
  | none =>
    cases hmanifest : faults.writeManifest with
    | some text =>
      cases hrewrite : faults.rewriteManifest with
      | some text =>
        simp only [SessionRecorder.complete, writtenByComplete, finishStream, failPublishing,
          h.recording, hfinish, hmanifest, hrewrite, h.directories]
        exact ⟨rfl, by simp, rfl, by simp⟩
      | none =>
        simp only [SessionRecorder.complete, writtenByComplete, finishStream, failPublishing,
          h.recording, hfinish, hmanifest, hrewrite, h.directories]
        refine ⟨rfl, ?_, rfl, by simp [SessionDirectories.writeManifest]⟩
        simpa using hunpublished
    | none =>
      cases hpublish : faults.publish with
      | none =>
        rw [h.complete hfinish hmanifest hpublish]
        simp only [writtenByComplete, h.recording, hfinish, hmanifest, hpublish]
        refine ⟨rfl, by simpa using hcompleted, ?_, ?_⟩
        · simp [SessionDirectories.onDisk, h.manifest]
        · intro directory hdirectory
          exact (Option.some.inj hdirectory).symm
      | some text =>
        cases hrewrite : faults.rewriteManifest with
        | some text =>
          simp only [SessionRecorder.complete, writtenByComplete, finishStream, failPublishing,
            h.recording, hfinish, hmanifest, hpublish, hrewrite, h.directories]
          refine ⟨rfl, by simpa using hcompleted, rfl, by simp [SessionDirectories.writeManifest]⟩
        | none =>
          simp only [SessionRecorder.complete, writtenByComplete, finishStream, failPublishing,
            h.recording, hfinish, hmanifest, hpublish, hrewrite, h.directories]
          refine ⟨rfl, ?_, rfl, by simp [SessionDirectories.writeManifest]⟩
          intro hreadable manifest hmem
          rcases List.mem_pair.1 (by simpa using hmem) with rfl | rfl
          · exact hcompleted hreadable
          · exact hunpublished hreadable

variable (sha256) in
theorem Recorded.ends_call (h : recorder.Recorded initial frames) {ending : RecorderCall}
    (hends : ending.ends = true) (faults : FileFaults) :
    Ends sha256 recorder initial frames (recorder.call sha256 ending faults)
      (recorder.writtenBy sha256 ending faults) := by
  cases ending with
  | record frame => cases hends
  | complete => exact h.ends_complete sha256 faults
  | abort reason => exact h.ends_abort sha256 reason faults
  | close =>
    have hclose : recorder.call sha256 .close faults =
        (recorder.abort sha256 "recording closed before normal gateway completion" faults).2 := by
      simp only [SessionRecorder.call, close, h.closed, Bool.false_eq_true, if_false]
      split <;> rename_i heq <;> rw [heq]
    rw [hclose]
    exact h.ends_abort sha256 _ faults

/-- The manifest has the ID and the creation time of its session. -/
theorem initialManifest_identifies {authoritative : Sha256Digest} {arguments : RecorderArguments}
    {created : AwareDateTime} (h : initialManifest authoritative arguments created = .ok initial) :
    initial.sessionId = arguments.sessionId.text ∧
      ∃ utc, created.astimezone = .ok utc ∧ initial.createdAtUtc = utc.isoformat := by
  unfold initialManifest at h
  obtain ⟨_, -, h⟩ := Fallible.bind_eq_ok.1 h
  obtain ⟨utc, hutc, h⟩ := Fallible.bind_eq_ok.1 h
  obtain ⟨name, -, h⟩ := Fallible.bind_eq_ok.1 h
  obtain ⟨scenario, -, h⟩ := Fallible.bind_eq_ok.1 h
  cases h
  exact ⟨rfl, utc, hutc, rfl⟩

/-! ## Runs -/

variable (sha256) in
/-- A run only records, or its first ending call decides what it leaves and writes. -/
theorem Recorded.run (h : recorder.Recorded initial frames)
    (made : List (RecorderCall × FileFaults)) :
    (∃ seen, (recorder.calls sha256 made).Recorded initial seen ∧
      recorder.writtenIn sha256 made = []) ∨
    ∃ reached seen, reached.Recorded initial seen ∧
      Ends sha256 reached initial seen (recorder.calls sha256 made)
        (recorder.writtenIn sha256 made) := by
  induction made generalizing recorder frames with
  | nil => exact Or.inl ⟨frames, h, rfl⟩
  | cons step rest ih =>
    obtain ⟨requested, faults⟩ := step
    have hcalls : recorder.calls sha256 ((requested, faults) :: rest) =
        (recorder.call sha256 requested faults).calls sha256 rest := rfl
    rw [hcalls, writtenIn]
    cases hends : requested.ends with
    | false =>
      cases requested with
      | record frame =>
        obtain ⟨seen, hseen⟩ := h.call_record sha256 frame faults
        have hnone : recorder.writtenBy sha256 (.record frame) faults = [] := rfl
        rw [hnone, List.nil_append]
        exact ih hseen
      | complete | abort _ | close => cases hends
    | true =>
      have hended := h.ends_call sha256 hends faults
      rw [calls_closed hended.closed, writtenIn_closed hended.closed, List.append_nil]
      exact Or.inr ⟨recorder, frames, h, hended⟩

/-- After every run, the manifest on disk is the last one that was written. -/
theorem Recorded.manifest_on_disk (h : recorder.Recorded initial frames)
    (made : List (RecorderCall × FileFaults)) :
    (recorder.calls sha256 made).directories.onDisk.map (·.manifest) =
      some (writtenManifest ((recorder.writtenIn sha256 made).getLast?.getD initial)) := by
  rcases h.run sha256 made with ⟨seen, hseen, hnone⟩ | ⟨reached, seen, -, hended⟩
  · rw [hseen.directories, hnone]
    rfl
  · exact hended.onDisk

theorem Recorded.written_valid (h : recorder.Recorded initial []) (hreadable : Readable initial)
    (made : List (RecorderCall × FileFaults)) :
    ∀ manifest ∈ initial :: recorder.writtenIn sha256 made, manifest.Valid := by
  intro manifest hmem
  rcases List.mem_cons.1 hmem with rfl | hwritten
  · exact hreadable.valid_initial
  · rcases h.run sha256 made with ⟨seen, -, hnone⟩ | ⟨reached, seen, -, hended⟩
    · rw [hnone] at hwritten
      cases hwritten
    · exact hended.valid hreadable manifest hwritten

/-- The manifest that a constructor writes from other arguments is not read back. -/
theorem not_read_of_create {authoritative : Sha256Digest} {arguments : RecorderArguments}
    {faults : FileFaults} {directories : SessionDirectories}
    (hcreate : create authoritative arguments faults directories = .ok recorder)
    (h : ¬ arguments.Readable authoritative) (read : SessionManifest) :
    readManifest (writtenManifest recorder.manifest) ≠ .ok read := by
  obtain ⟨created, -, hinitial, -⟩ := create_ok hcreate
  intro hread
  exact h (readable_of_fromDict hinitial hread rfl rfl rfl rfl)

/-- A constructor that takes other arguments writes such a manifest. -/
theorem exists_unread {authoritative : Sha256Digest} {arguments : RecorderArguments}
    {faults : FileFaults} {directories : SessionDirectories}
    (hcreate : ∃ recorder, create authoritative arguments faults directories = .ok recorder)
    (h : ¬ arguments.Readable authoritative) :
    ∃ recorder, create authoritative arguments faults directories = .ok recorder ∧
      ∀ read, readManifest (writtenManifest recorder.manifest) ≠ .ok read := by
  obtain ⟨recorder, hcreate⟩ := hcreate
  exact ⟨recorder, hcreate, not_read_of_create hcreate h⟩

end SessionRecorder

/-- Every manifest a run writes is read back as it was, and a published session can be opened, by
the catalog unless a supported database is required and it was recorded with another. -/
structure ReadableRun (sha256 : Bytes → Sha256Digest) (authoritative : Sha256Digest)
    (sessionId : String) (recorder : SessionRecorder) (made : List (RecorderCall × FileFaults)) :
    Prop where
  decoded : ∀ manifest ∈ recorder.manifest :: recorder.writtenIn sha256 made,
    readManifest (writtenManifest manifest) = .ok manifest
  opened : ∀ directory, (recorder.calls sha256 made).directories.published = some directory →
    ∃ reader, SessionReader.create directory none = .ok reader ∧
      reader.validateIntegrity sha256 = .ok () ∧
      ∀ catalog : SessionCatalog, catalog.artifacts.get? sessionId = some directory →
        ∀ requireCompatibleDbc,
          catalog.reader sha256 authoritative sessionId requireCompatibleDbc =
            if requireCompatibleDbc && !isSupportedDbcSha256 authoritative reader.manifest.dbcSha256
            then .error dbcIncompatible
            else .ok reader

section ReadableRun

variable (sha256 : Bytes → Sha256Digest) (authoritative : Sha256Digest)
  (arguments : RecorderArguments) (faults : FileFaults) (directories : SessionDirectories)
  (recorder : SessionRecorder) (made : List (RecorderCall × FileFaults))

/-- A recorder that was constructed writes only manifests that can be read back, whatever it is
called with and whatever fails, exactly if the constructor was given a DBC name, a digest and no
revision that is not positive. -/
theorem written_manifests_readable_iff
    (hcreate : SessionRecorder.create authoritative arguments faults directories = .ok recorder) :
    (recorder.calls sha256 made).directories.onDisk.map (·.manifest) =
      some (writtenManifest
        ((recorder.writtenIn sha256 made).getLast?.getD recorder.manifest)) ∧
    (ReadableRun sha256 authoritative arguments.sessionId.text recorder made ↔
      arguments.Readable authoritative) := by
  obtain ⟨created, -, hinitial, hrecorded⟩ := SessionRecorder.create_ok hcreate
  refine ⟨hrecorded.manifest_on_disk made, ?_, ?_⟩
  · intro hrun
    have hread := hrun.decoded _ List.mem_cons_self
    exact SessionRecorder.readable_of_fromDict hinitial hread rfl rfl rfl rfl
  · intro harguments
    have hreadable := SessionRecorder.readable_of_initialManifest harguments hinitial
    refine ⟨?_, ?_⟩
    · intro manifest hmem
      exact (hrecorded.written_valid hreadable made manifest hmem).readManifest
    · intro directory hpublished
      rcases hrecorded.run sha256 made with ⟨seen, hseen, -⟩ | ⟨reached, seen, hreached, hended⟩
      · rw [hseen.directories] at hpublished
        cases hpublished
      · obtain rfl := hended.published directory hpublished
        have hopened := @SessionRecorder.Recorded.create sha256 _ _ _ hreached hreadable
        have hid := (SessionRecorder.initialManifest_identifies hinitial).1
        refine ⟨_, hopened, hreached.describes.reads.1, fun catalog hlisted requireCompatibleDbc => ?_⟩
        exact SessionCatalog.reader_of_complete arguments.sessionId.isCanonicalUuid hlisted hopened
          hreached.describes hid requireCompatibleDbc

/-- A calibrated recording of one frame that cannot be published writes three readable manifests. -/
theorem unpublished_manifests_readable :
    ∃ recorder, SessionRecorder.create someDigest
        { defaultArguments with
          calibrationId := some "stock"
          calibrationRevision := some 3 } {} ⟨none, none⟩ = .ok recorder ∧
      let made : List (RecorderCall × FileFaults) :=
        [(.record ⟨1280, [1], 5, by decide, by decide⟩, {}), (.complete, { publish := some "" })]
      (recorder.writtenIn (fun _ => someDigest) made).length = 2 ∧
      ReadableRun (fun _ => someDigest) someDigest defaultArguments.sessionId.text recorder made := by
  refine ⟨_, rfl, rfl, ?_⟩
  refine (written_manifests_readable_iff _ someDigest { defaultArguments with
    calibrationId := some "stock"
    calibrationRevision := some 3 } {} ⟨none, none⟩ _ _ rfl).2.2 ⟨by decide, by decide, ?_⟩
  intro revision hrevision
  cases hrevision
  decide

/-- The constructor takes a negative revision, an empty DBC name and a digest that is none, and
writes a manifest that cannot be read back. -/
theorem accepted_arguments_unreadable :
    (∃ recorder, SessionRecorder.create someDigest { defaultArguments with
        calibrationId := some "stock"
        calibrationRevision := some (-1) } {} ⟨none, none⟩ = .ok recorder ∧
      ∀ read, readManifest (writtenManifest recorder.manifest) ≠ .ok read) ∧
    (∃ recorder, SessionRecorder.create someDigest { defaultArguments with dbcName := "" } {}
        ⟨none, none⟩ = .ok recorder ∧
      ∀ read, readManifest (writtenManifest recorder.manifest) ≠ .ok read) ∧
    ∃ recorder, SessionRecorder.create someDigest
        { defaultArguments with dbcSha256 := some "unknown" } {} ⟨none, none⟩ = .ok recorder ∧
      ∀ read, readManifest (writtenManifest recorder.manifest) ≠ .ok read := by
  refine ⟨?_, ?_, ?_⟩
  · refine SessionRecorder.exists_unread ⟨_, rfl⟩ fun hreadable => ?_
    exact absurd (hreadable.calibrationRevision _ rfl) (by decide)
  · refine SessionRecorder.exists_unread ⟨_, rfl⟩ fun hreadable => ?_
    exact hreadable.dbcName rfl
  · refine SessionRecorder.exists_unread ⟨_, rfl⟩ fun hreadable => ?_
    exact absurd hreadable.dbcSha256 (by decide)

end ReadableRun

end TunerOs
