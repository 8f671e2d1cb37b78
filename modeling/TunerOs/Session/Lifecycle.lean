-- SUMMARY: A recorder's directories over every run of calls with failing file operations: when what it publishes is intact and what it leaves behind is explained.
import TunerOs.Session.Recording

/-!
# Recording lifecycle

A recording ends with the first `complete`, `abort` or `close`; the calls after it do
nothing. What a run leaves is decided by the constructor's arguments and by whether
this one call can finish the frame file.
-/

namespace TunerOs

/-! ## Runs -/

inductive RecorderCall where
  | record (frame : RawCanFrame)
  | complete
  | abort (reason : String)
  | close
deriving DecidableEq

/-- Whether the call ends a recording. -/
def RecorderCall.ends : RecorderCall → Bool
  | .record _ => false
  | .complete | .abort _ | .close => true

namespace SessionRecorder

section Runs

variable (sha256 : Bytes → Sha256Digest)

/-- The recorder after a call, whatever the call returns or raises. -/
def call (recorder : SessionRecorder) (made : RecorderCall) (faults : FileFaults) :
    SessionRecorder :=
  match made with
  | .record frame => (recorder.record frame faults).2
  | .complete => (recorder.complete sha256 faults).2
  | .abort reason => (recorder.abort sha256 reason faults).2
  | .close => (recorder.close sha256 faults).2

/-- The recorder after some calls, each with the file operations that fail in it. -/
def calls (recorder : SessionRecorder) (made : List (RecorderCall × FileFaults)) :
    SessionRecorder :=
  made.foldl (fun recorder step => recorder.call sha256 step.1 step.2) recorder

end Runs

end SessionRecorder

/-! ## What a run may leave -/

/-- A published session is complete and passes `validate_integrity`. -/
def SessionDirectories.Intact (sha256 : Bytes → Sha256Digest) (directories : SessionDirectories) :
    Prop :=
  ∀ directory, directories.published = some directory →
    ∃ reader, SessionReader.create directory none = .ok reader ∧
      reader.manifest.status = .complete ∧ reader.validateIntegrity sha256 = .ok ()

/-- The manifest of a `.partial` directory says that it is incomplete, and why. -/
def SessionDirectories.Explained (directories : SessionDirectories) : Prop :=
  ∀ directory, directories.unfinished = some directory →
    ∃ manifest reason, directory.manifest = writtenManifest manifest ∧
      manifest.status = .incomplete ∧ manifest.failureReason = some reason ∧ reason ≠ ""

/-- What is published is intact, and a recorder that takes no more frames has published or explained
what it leaves. -/
def SessionRecorder.Consistent (sha256 : Bytes → Sha256Digest) (recorder : SessionRecorder) : Prop :=
  recorder.directories.Intact sha256 ∧
    (recorder.recording = false → recorder.directories.published = none →
      recorder.directories.Explained)

section Run

variable (sha256 : Bytes → Sha256Digest) (authoritative : Sha256Digest)
  (arguments : RecorderArguments) (faults : FileFaults) (directories : SessionDirectories)
  (made : List (RecorderCall × FileFaults))

/-- The run is consistent after its constructor, if that raises, and else after every call. -/
def ConsistentRun : Prop :=
  match SessionRecorder.create authoritative arguments faults directories with
  | .error (_, left) => left.Intact sha256 ∧ left.Explained
  | .ok recorder => ∀ count, (recorder.calls sha256 (made.take count)).Consistent sha256

/-! ## The condition -/

/-- The constructor gets as far as to make the `.partial` directory. -/
def MakesDirectory : Prop :=
  arguments.createdAtUtc ≠ .naive ∧ directories = ⟨none, none⟩

/-- The arguments pass the checks that are made after that. -/
structure RecorderArguments.Accepted : Prop where
  calibration : SessionRecorder.checkCalibration arguments = .ok ()
  createdAtUtc : ∀ created, arguments.createdAtUtc = .aware created → created.InUtcRange
  name : ∃ name, normalizeSessionName arguments.name = .ok name
  scenario : ∃ scenario, normalizeSessionName arguments.scenario = .ok scenario

/-- The first call that ends the recording can finish the frame file, and a session it publishes has
a manifest that can be read. -/
def EndsCleanly : Prop :=
  ∀ ending endingFaults, made.find? (·.1.ends) = some (ending, endingFaults) →
    endingFaults.finishFrames = none ∧
      (ending = .complete → endingFaults.publish = none → arguments.Readable authoritative)

/-- Nothing fails that the recorder does not clean up after. -/
structure CleanRun : Prop where
  made : MakesDirectory arguments directories →
    arguments.Accepted ∧ faults.openFrames = none ∧ faults.writeFrames = none ∧
      EndsCleanly authoritative arguments made
  kept : ¬ MakesDirectory arguments directories → directories.Intact sha256 ∧ directories.Explained

end Run

/-! ## The constructor -/

section Create

variable {authoritative : Sha256Digest} {arguments : RecorderArguments} {faults : FileFaults}
  {directories : SessionDirectories} {created : AwareDateTime}

theorem exists_initialManifest (h : arguments.Accepted)
    (hcreated : arguments.createdAtUtc = .aware created) :
    ∃ manifest header, SessionRecorder.initialManifest authoritative arguments created = .ok manifest ∧
      encodeSessionHeader manifest.formatVersion = .ok header := by
  obtain ⟨utc, hutc⟩ := AwareDateTime.astimezone_ok_iff.2 (h.createdAtUtc created hcreated)
  obtain ⟨name, hname⟩ := h.name
  obtain ⟨scenario, hscenario⟩ := h.scenario
  simp only [SessionRecorder.initialManifest, h.calibration, hutc, hname, hscenario, bind, Except.bind, pure,
    Except.pure, Except.ok.injEq, exists_and_left, exists_eq_left']
  split <;> exact ⟨_, rfl⟩

theorem accepted_of_initialManifest {manifest : SessionManifest}
    (hcreated : arguments.createdAtUtc = .aware created)
    (h : SessionRecorder.initialManifest authoritative arguments created = .ok manifest) :
    arguments.Accepted := by
  unfold SessionRecorder.initialManifest at h
  obtain ⟨_, hcalibration, h⟩ := Fallible.bind_eq_ok.1 h
  obtain ⟨utc, hutc, h⟩ := Fallible.bind_eq_ok.1 h
  obtain ⟨name, hname, h⟩ := Fallible.bind_eq_ok.1 h
  obtain ⟨scenario, hscenario, -⟩ := Fallible.bind_eq_ok.1 h
  refine ⟨hcalibration, fun other hother => ?_, ⟨name, hname⟩, ⟨scenario, hscenario⟩⟩
  obtain rfl := CreationTime.aware.inj (hcreated.symm.trans hother)
  exact AwareDateTime.astimezone_ok_iff.1 ⟨utc, hutc⟩

variable (authoritative faults) in
/-- A constructor that makes no directory raises and changes nothing. -/
theorem create_of_not_makesDirectory (h : ¬ MakesDirectory arguments directories) :
    ∃ error, SessionRecorder.create authoritative arguments faults directories =
      .error (error, directories) := by
  unfold SessionRecorder.create
  cases hcreated : arguments.createdAtUtc with
  | naive => exact ⟨_, rfl⟩
  | aware created =>
    have hexists : directories.unfinished.isSome ∨ directories.published.isSome := by
      by_contra hnew
      refine h ⟨by rw [hcreated]; nofun, ?_⟩
      obtain ⟨unfinished, published⟩ := directories
      simpa using hnew
    simp only [hexists, if_true]
    exact ⟨_, rfl⟩

variable (authoritative) in
/-- A constructor that makes the directory returns, or raises and leaves it without a manifest. -/
theorem create_of_makesDirectory (h : MakesDirectory arguments directories)
    (hmanifest : faults.writeManifest = none) :
    (arguments.Accepted ∧ faults.openFrames = none ∧ faults.writeFrames = none ∧
      ∃ recorder, SessionRecorder.create authoritative arguments faults directories = .ok recorder) ∨
    (¬ (arguments.Accepted ∧ faults.openFrames = none ∧ faults.writeFrames = none) ∧
      ∃ error frames, SessionRecorder.create authoritative arguments faults directories =
        .error (error, ⟨some ⟨.missing, frames⟩, none⟩)) := by
  obtain ⟨haware, rfl⟩ := h
  cases hcreated : arguments.createdAtUtc with
  | naive => exact absurd hcreated haware
  | aware created =>
    by_cases haccepted : arguments.Accepted
    · obtain ⟨manifest, header, hinitial, hheader⟩ := @exists_initialManifest authoritative arguments
        created haccepted hcreated
      cases hopen : faults.openFrames with
      | some text =>
        refine Or.inr ⟨fun hclean => Option.some_ne_none _ hclean.2.1, ?_⟩
        simp [SessionRecorder.create, SessionRecorder.openFiles, hcreated, hinitial, hopen]
      | none =>
        cases hwrite : faults.writeFrames with
        | some text =>
          refine Or.inr ⟨fun hclean => Option.some_ne_none _ hclean.2.2, ?_⟩
          simp [SessionRecorder.create, SessionRecorder.openFiles, hcreated, hinitial, hopen, hheader,
            hwrite]
        | none =>
          refine Or.inl ⟨haccepted, rfl, rfl, ?_⟩
          simp [SessionRecorder.create, SessionRecorder.openFiles, hcreated, hinitial, hopen, hheader,
            hwrite, hmanifest]
    · refine Or.inr ⟨fun hclean => haccepted hclean.1, ?_⟩
      cases hinitial : SessionRecorder.initialManifest authoritative arguments created with
      | ok manifest => exact absurd (accepted_of_initialManifest hcreated hinitial) haccepted
      | error error => simp [SessionRecorder.create, hcreated, hinitial]

end Create

/-! ## The calls -/

theorem SessionRecorder.safeReason_ne_empty (reason : String) : safeReason reason ≠ "" := by
  unfold safeReason
  simp only
  split
  · decide
  · assumption

namespace SessionRecorder

variable {sha256 : Bytes → Sha256Digest} {recorder : SessionRecorder} {initial : SessionManifest}
  {frames : List RawCanFrame}

/-- A recorder that is closed ignores every call. -/
theorem call_closed (h : recorder.closed = true) (made : RecorderCall) (faults : FileFaults) :
    recorder.call sha256 made faults = recorder := by
  have hidle : recorder.recording = false := by
    simp [recording, h]
  cases made with
  | record frame => simp [call, record, hidle]
  | complete => simp [call, complete, hidle]
  | abort reason => simp [call, abort, h]
  | close => simp [call, close, h]

theorem calls_closed (h : recorder.closed = true) (made : List (RecorderCall × FileFaults)) :
    recorder.calls sha256 made = recorder := by
  induction made with
  | nil => rfl
  | cons step rest ih =>
    have hfirst : recorder.calls sha256 (step :: rest) =
        (recorder.call sha256 step.1 step.2).calls sha256 rest := rfl
    rw [hfirst, call_closed h, ih]

variable (sha256) in
/-- A frame, recorded or not, leaves the recorder recording. -/
theorem Recorded.call_record (h : recorder.Recorded initial frames) (frame : RawCanFrame)
    (faults : FileFaults) :
    ∃ seen, (recorder.call sha256 (.record frame) faults).Recorded initial seen := by
  cases hrecord : recorder.record frame faults with
  | mk result next =>
    have hnext : recorder.call sha256 (.record frame) faults = next := by
      rw [call, hrecord]
    rw [hnext]
    cases result with
    | ok _ => exact ⟨_, h.record hrecord⟩
    | error error => exact ⟨frames, record_error hrecord ▸ h⟩

variable (sha256) in
/-- A run of frames only leaves the recorder recording. -/
theorem Recorded.calls (h : recorder.Recorded initial frames)
    {made : List (RecorderCall × FileFaults)} (hmade : ∀ step ∈ made, step.1.ends = false) :
    ∃ seen, (recorder.calls sha256 made).Recorded initial seen := by
  induction made generalizing recorder frames with
  | nil => exact ⟨frames, h⟩
  | cons step rest ih =>
    obtain ⟨requested, faults⟩ := step
    have hrecord := hmade _ List.mem_cons_self
    cases requested with
    | record frame =>
      obtain ⟨seen, hseen⟩ := h.call_record sha256 frame faults
      exact ih hseen (fun later hmem => hmade later (List.mem_cons_of_mem _ hmem))
    | complete | abort _ | close => cases hrecord

/-- What the call that ends a recording leaves: it cannot finish the frame file, it publishes, or the
`.partial` directory says why it does not. -/
inductive EndedWith (sha256 : Bytes → Sha256Digest) (recorder : SessionRecorder)
    (initial : SessionManifest) (frames : List RawCanFrame) (ending : RecorderCall)
    (faults : FileFaults) : SessionDirectories → Prop where
  | unfinished {length : ℕ} (hfinish : faults.finishFrames = some length) :
    EndedWith sha256 recorder initial frames ending faults
      ⟨some ⟨writtenManifest initial, some (recorder.hashed.take length)⟩, none⟩
  | published (hfinish : faults.finishFrames = none) (hcomplete : ending = .complete)
      (hpublish : faults.publish = none) :
    EndedWith sha256 recorder initial frames ending faults
      ⟨none, some ⟨writtenManifest ((initial.describing frames).completed (sha256 recorder.hashed)),
        some recorder.hashed⟩⟩
  | explained {manifest : SessionManifest} {reason : String} (hfinish : faults.finishFrames = none)
      (hkept : ¬ (ending = .complete ∧ faults.publish = none))
      (hstatus : manifest.status = .incomplete) (hreason : manifest.failureReason = some reason)
      (hne : reason ≠ "") :
    EndedWith sha256 recorder initial frames ending faults
      ⟨some ⟨writtenManifest manifest, some recorder.hashed⟩, none⟩

theorem Recorded.abort_ends (h : recorder.Recorded initial frames) {faults : FileFaults}
    (hmanifest : faults.writeManifest = none) {ending : RecorderCall} (hending : ending ≠ .complete)
    (reason : String) :
    (recorder.abort sha256 reason faults).2.closed = true ∧
      EndedWith sha256 recorder initial frames ending faults
        (recorder.abort sha256 reason faults).2.directories := by
  cases hfinish : faults.finishFrames with
  | some length =>
    have hended : recorder.abort sha256 reason faults = (.error failedFinalizing, { recorder with
        closed := true
        directories := recorder.directories.truncateFrames length }) := by
      simp only [SessionRecorder.abort, finishStream, h.closed, hfinish, Bool.false_eq_true, if_false]
    rw [hended, h.directories]
    exact ⟨rfl, .unfinished hfinish⟩
  | none =>
    let aborted : SessionManifest :=
      { recorder.manifest with
        framesSha256 := some (sha256 recorder.hashed).text
        status := .incomplete
        failureReason := some (safeReason reason) }
    have hended : recorder.abort sha256 reason faults = (.ok aborted, { recorder with
        closed := true
        manifest := aborted
        directories := recorder.directories.writeManifest aborted }) := by
      simp only [SessionRecorder.abort, finishStream, h.closed, hfinish, hmanifest,
        Bool.false_eq_true, if_false, aborted]
    rw [hended, h.directories]
    exact ⟨rfl, .explained hfinish (fun hpublishes => hending hpublishes.1) rfl rfl
      (safeReason_ne_empty reason)⟩

theorem Recorded.complete_ends (h : recorder.Recorded initial frames) {faults : FileFaults}
    (hmanifest : faults.writeManifest = none) (hrewrite : faults.rewriteManifest = none) :
    (recorder.complete sha256 faults).2.closed = true ∧
      EndedWith sha256 recorder initial frames .complete faults
        (recorder.complete sha256 faults).2.directories := by
  cases hfinish : faults.finishFrames with
  | some length =>
    have hended : recorder.complete sha256 faults = (.error failedFinalizing, { recorder with
        closed := true
        directories := recorder.directories.truncateFrames length }) := by
      simp only [SessionRecorder.complete, finishStream, h.recording, hfinish, Bool.not_true,
        Bool.false_eq_true, if_false]
    rw [hended, h.directories]
    exact ⟨rfl, .unfinished hfinish⟩
  | none =>
    cases hpublish : faults.publish with
    | none =>
      rw [h.complete hfinish hmanifest hpublish]
      exact ⟨rfl, .published hfinish rfl hpublish⟩
    | some text =>
      let completed : SessionManifest :=
        { recorder.manifest with
          framesSha256 := some (sha256 recorder.hashed).text
          status := .complete }
      have hended : recorder.complete sha256 faults = (.error (recordingError publishingFailure),
          failPublishing { recorder with
            closed := true
            directories := recorder.directories.writeManifest completed } completed faults) := by
        simp [SessionRecorder.complete, finishStream, h.recording, hfinish, hmanifest, hpublish,
          completed]
      rw [hended, h.directories]
      simp only [failPublishing, hrewrite, Option.isSome_none, Bool.false_eq_true, if_false]
      refine ⟨trivial, .explained hfinish ?_ rfl rfl (by decide)⟩
      rw [hpublish]
      exact fun hpublishes => Option.some_ne_none _ hpublishes.2

/-- The call that ends a recording closes the recorder. -/
theorem Recorded.call_ends (h : recorder.Recorded initial frames) {ending : RecorderCall}
    (hends : ending.ends = true) {faults : FileFaults} (hmanifest : faults.writeManifest = none)
    (hrewrite : faults.rewriteManifest = none) :
    (recorder.call sha256 ending faults).closed = true ∧
      EndedWith sha256 recorder initial frames ending faults
        (recorder.call sha256 ending faults).directories := by
  cases ending with
  | record frame => cases hends
  | complete => exact h.complete_ends hmanifest hrewrite
  | abort reason =>
    have hending : RecorderCall.abort reason ≠ .complete := nofun
    exact h.abort_ends hmanifest hending reason
  | close =>
    have hclose : recorder.call sha256 .close faults =
        (recorder.abort sha256 "recording closed before normal gateway completion" faults).2 := by
      simp only [SessionRecorder.call, close, h.closed, Bool.false_eq_true, if_false]
      split <;> rename_i heq <;> rw [heq]
    have hending : RecorderCall.close ≠ .complete := nofun
    rw [hclose]
    exact h.abort_ends hmanifest hending _

/-- While it is recording, a recorder is consistent. -/
theorem Recorded.consistent (h : recorder.Recorded initial frames) : recorder.Consistent sha256 := by
  refine ⟨?_, ?_⟩
  · intro directory hpublished
    rw [h.directories] at hpublished
    cases hpublished
  · intro hidle
    rw [h.recording] at hidle
    cases hidle

theorem writtenManifest_status {manifest other : SessionManifest}
    (h : writtenManifest manifest = writtenManifest other) : manifest.status = other.status := by
  have hget : ∀ written : SessionManifest,
      written.toDict.get? "status" = some (.string written.status.text) :=
    fun written => SessionManifest.get?_toDict_common (by simp [SessionManifest.commonFields])
  have hdict : manifest.toDict = other.toDict := JsonDocument.object.inj (ManifestFile.json.inj h)
  have htext := hget manifest
  rw [hdict, hget other, Option.some.injEq, JsonValue.string.injEq] at htext
  have hstatus := congrArg SessionStatus.ofText? htext
  rw [SessionStatus.ofText?_text, SessionStatus.ofText?_text, Option.some.injEq] at hstatus
  exact hstatus.symm

/-- A manifest that is read back and that names what the constructor was given was constructed with
arguments that can be read back. -/
theorem readable_of_fromDict {authoritative : Sha256Digest} {arguments : RecorderArguments}
    {created : AwareDateTime} {manifest read : SessionManifest}
    (hinitial : initialManifest authoritative arguments created = .ok initial)
    (h : SessionManifest.fromDict (.object manifest.toDict) = .ok read)
    (hsameName : manifest.dbcName = initial.dbcName)
    (hsameDigest : manifest.dbcSha256 = initial.dbcSha256)
    (hsameVersion : manifest.formatVersion = initial.formatVersion)
    (hsameRevision : manifest.calibrationRevision = initial.calibrationRevision) :
    arguments.Readable authoritative := by
  obtain ⟨-, hname, hdigest, hrevision, hversion, -⟩ := initialManifest_ok hinitial
  obtain ⟨hnamed, hhashed, hpositive⟩ := SessionManifest.named_of_fromDict h
  rw [hsameName, hname] at hnamed
  rw [hsameDigest, hdigest] at hhashed
  refine ⟨hnamed, hhashed, ?_⟩
  intro revision hrequested
  have hcalibrated : manifest.formatVersion ≠ sessionFormatVersion := by
    intro hplain
    rw [hversion (hsameVersion.symm.trans hplain)] at hrequested
    cases hrequested
  obtain ⟨stored, hstored, hpos⟩ := hpositive hcalibrated
  rw [hsameRevision, hrevision, hrequested] at hstored
  cases hstored
  exact hpos

/-- What the reader opens was recorded with arguments that can be read back. -/
theorem readable_of_create {authoritative : Sha256Digest} {arguments : RecorderArguments}
    {created : AwareDateTime} {digest : Sha256Digest} {file : Option Bytes} {reader : SessionReader}
    (hinitial : initialManifest authoritative arguments created = .ok initial)
    (h : SessionReader.create ⟨writtenManifest ((initial.describing frames).completed digest), file⟩
      none = .ok reader) : arguments.Readable authoritative := by
  obtain ⟨read, hread, -⟩ := Fallible.bind_eq_ok.1 h
  exact readable_of_fromDict hinitial hread rfl rfl rfl rfl

/-- What is left is consistent if the frame file could be finished and what is published can be
read. -/
theorem EndedWith.consistent_iff {authoritative : Sha256Digest} {arguments : RecorderArguments}
    {created : AwareDateTime} {ending : RecorderCall} {faults : FileFaults} {left : SessionDirectories}
    (h : EndedWith sha256 recorder initial frames ending faults left)
    (hrecorded : recorder.Recorded initial frames)
    (hinitial : initialManifest authoritative arguments created = .ok initial) :
    (left.Intact sha256 ∧ (left.published = none → left.Explained)) ↔
      faults.finishFrames = none ∧
        (ending = .complete → faults.publish = none → arguments.Readable authoritative) := by
  cases h with
  | unfinished hfinish =>
    constructor
    · rintro ⟨-, hexplained⟩
      obtain ⟨manifest, reason, hmanifest, hstatus, -⟩ := hexplained rfl _ rfl
      rw [← writtenManifest_status hmanifest, hrecorded.status] at hstatus
      cases hstatus
    · rintro ⟨hnone, -⟩
      rw [hfinish] at hnone
      cases hnone
  | published hfinish hcomplete hpublish =>
    constructor
    · rintro ⟨hintact, -⟩
      obtain ⟨reader, hreader, -⟩ := hintact _ rfl
      exact ⟨hfinish, fun _ _ => readable_of_create hinitial hreader⟩
    · rintro ⟨-, hreadable⟩
      refine ⟨?_, nofun⟩
      intro directory hdirectory
      cases hdirectory
      exact ⟨_, hrecorded.create (readable_of_initialManifest (hreadable hcomplete hpublish) hinitial),
        rfl, hrecorded.describes.reads.1⟩
  | explained hfinish hkept hstatus hreason hne =>
    constructor
    · intro _
      exact ⟨hfinish, fun hcomplete hpublish => absurd ⟨hcomplete, hpublish⟩ hkept⟩
    · intro _
      refine ⟨nofun, ?_⟩
      intro _ directory hdirectory
      cases hdirectory
      exact ⟨_, _, rfl, hstatus, hreason, hne⟩

end SessionRecorder

/-! ## Runs -/

section Runs

variable {sha256 : Bytes → Sha256Digest} {recorder : SessionRecorder} {initial : SessionManifest}
  {frames : List RawCanFrame} {made : List (RecorderCall × FileFaults)}

theorem SessionRecorder.calls_append (before after : List (RecorderCall × FileFaults)) :
    recorder.calls sha256 (before ++ after) =
      (recorder.calls sha256 before).calls sha256 after :=
  List.foldl_append

variable (sha256) in
/-- A run with an ending call ends as this call does. -/
theorem SessionRecorder.Recorded.calls_end (h : recorder.Recorded initial frames)
    (hfaults : ∀ step ∈ made, step.2.writeManifest = none ∧ step.2.rewriteManifest = none)
    {ending : RecorderCall} {endingFaults : FileFaults}
    (hfind : made.find? (·.1.ends) = some (ending, endingFaults)) :
    ∃ reached seen, reached.Recorded initial seen ∧ (recorder.calls sha256 made).closed = true ∧
      SessionRecorder.EndedWith sha256 reached initial seen ending endingFaults
        (recorder.calls sha256 made).directories := by
  obtain ⟨hends, before, after, rfl, hbefore⟩ := List.find?_eq_some_iff_append.1 hfind
  have hrecords : ∀ step ∈ before, step.1.ends = false := by
    simpa using hbefore
  obtain ⟨seen, hseen⟩ := h.calls sha256 hrecords
  obtain ⟨hmanifest, hrewrite⟩ := hfaults (ending, endingFaults)
    (List.mem_append_right _ List.mem_cons_self)
  obtain ⟨hclosed, hended⟩ := hseen.call_ends hends hmanifest hrewrite
  have hrun : recorder.calls sha256 (before ++ (ending, endingFaults) :: after) =
      (recorder.calls sha256 before).call sha256 ending endingFaults := by
    rw [SessionRecorder.calls_append]
    exact SessionRecorder.calls_closed hclosed after
  rw [hrun]
  exact ⟨_, seen, hseen, hclosed, hended⟩

variable (sha256) in
/-- A recorder that has just been constructed stays consistent exactly when its recording ends
cleanly. -/
theorem SessionRecorder.Recorded.consistent_iff {authoritative : Sha256Digest}
    {arguments : RecorderArguments} {created : AwareDateTime} (h : recorder.Recorded initial frames)
    (hinitial : SessionRecorder.initialManifest authoritative arguments created = .ok initial)
    (hfaults : ∀ step ∈ made, step.2.writeManifest = none ∧ step.2.rewriteManifest = none) :
    (∀ count, (recorder.calls sha256 (made.take count)).Consistent sha256) ↔
      EndsCleanly authoritative arguments made := by
  constructor
  · intro hconsistent ending endingFaults hfind
    obtain ⟨reached, seen, hreached, hclosed, hended⟩ := h.calls_end sha256 hfaults hfind
    have hlast := hconsistent made.length
    rw [List.take_length] at hlast
    have hidle : (recorder.calls sha256 made).recording = false := by
      simp [SessionRecorder.recording, hclosed]
    exact (hended.consistent_iff hreached hinitial).1 ⟨hlast.1, hlast.2 hidle⟩
  · intro hclean count
    cases hfind : (made.take count).find? (·.1.ends) with
    | none =>
      have hrecords : ∀ step ∈ made.take count, step.1.ends = false := by
        simpa using List.find?_eq_none.1 hfind
      obtain ⟨seen, hseen⟩ := h.calls sha256 hrecords
      exact hseen.consistent
    | some step =>
      obtain ⟨ending, endingFaults⟩ := step
      have hfirst : made.find? (·.1.ends) = some (ending, endingFaults) := by
        rw [← List.take_append_drop count made, List.find?_append, hfind, Option.some_or]
      obtain ⟨reached, seen, hreached, -, hended⟩ := h.calls_end sha256
        (fun step hmem => hfaults step (List.mem_of_mem_take hmem)) hfind
      obtain ⟨hintact, hexplained⟩ :=
        (hended.consistent_iff hreached hinitial).2 (hclean ending endingFaults hfirst)
      exact ⟨hintact, fun _ => hexplained⟩

end Runs

/-- A run in which every manifest is written is consistent exactly when nothing fails that the
recorder does not clean up after: the constructor gets through once it has made the directory, the
call that ends the recording can finish the frame file, and what it publishes can be read. -/
theorem consistent_run_iff_clean (sha256 : Bytes → Sha256Digest) (authoritative : Sha256Digest)
    (arguments : RecorderArguments) (faults : FileFaults) (directories : SessionDirectories)
    (made : List (RecorderCall × FileFaults)) (hmanifest : faults.writeManifest = none)
    (hfaults : ∀ step ∈ made, step.2.writeManifest = none ∧ step.2.rewriteManifest = none) :
    ConsistentRun sha256 authoritative arguments faults directories made ↔
      CleanRun sha256 authoritative arguments faults directories made := by
  by_cases hmakes : MakesDirectory arguments directories
  · rcases create_of_makesDirectory authoritative hmakes hmanifest with
      ⟨haccepted, hopen, hwrite, recorder, hcreate⟩ | ⟨hunclean, error, frames, hcreate⟩
    · obtain ⟨created, -, hinitial, hrecorded⟩ := SessionRecorder.create_ok hcreate
      have hiff := hrecorded.consistent_iff sha256 hinitial hfaults
      rw [ConsistentRun, hcreate]
      constructor
      · intro hconsistent
        exact ⟨fun _ => ⟨haccepted, hopen, hwrite, hiff.1 hconsistent⟩, fun hnone => absurd hmakes hnone⟩
      · intro hclean
        exact hiff.2 (hclean.made hmakes).2.2.2
    · rw [ConsistentRun, hcreate]
      constructor
      · rintro ⟨-, hexplained⟩
        obtain ⟨manifest, reason, hwritten, -⟩ := hexplained _ rfl
        cases hwritten
      · intro hclean
        obtain ⟨haccepted, hopen, hwrite, -⟩ := hclean.made hmakes
        exact absurd ⟨haccepted, hopen, hwrite⟩ hunclean
  · obtain ⟨error, hcreate⟩ := create_of_not_makesDirectory authoritative faults hmakes
    rw [ConsistentRun, hcreate]
    constructor
    · intro hkept
      exact ⟨fun hmade => absurd hmade hmakes, fun _ => hkept⟩
    · intro hclean
      exact hclean.kept hmakes

/-- A frame that is recorded and completed by a recorder with default arguments. -/
theorem completed_run_is_consistent :
    ConsistentRun (fun _ => someDigest) someDigest defaultArguments {} ⟨none, none⟩
      [(.record ⟨1280, [1], 5, by decide, by decide⟩, {}), (.complete, {})] := by
  refine (consistent_run_iff_clean _ _ _ _ _ _ rfl ?_).2 ?_
  · simp
  · refine ⟨fun _ => ⟨⟨rfl, ?_, ⟨_, rfl⟩, ⟨_, rfl⟩⟩, rfl, rfl, ?_⟩,
      fun hnone => absurd ⟨by rintro ⟨⟩, rfl⟩ hnone⟩
    · intro created hcreated
      cases hcreated
      decide
    · intro ending endingFaults hfind
      cases hfind
      exact ⟨rfl, fun _ _ => ⟨by decide, by decide, by rintro _ ⟨⟩⟩⟩

/-- Half an hour into the year 1, shown by a clock that is one hour ahead of UTC. -/
def beforeYearOne : AwareDateTime :=
  (AwareDateTime.ofFields 1 1 1 0 30 0 0 3600000000).get (by decide)

/-- A rejected name and a creation time before the year 1 in UTC leave a directory without a
manifest, a frame file that cannot be flushed leaves one that says it is recording, and a session
without a DBC name is published but cannot be read. -/
theorem failed_runs_are_inconsistent :
    ¬ ConsistentRun (fun _ => someDigest) someDigest { defaultArguments with name := some " " } {}
        ⟨none, none⟩ [] ∧
      ¬ ConsistentRun (fun _ => someDigest) someDigest
        { defaultArguments with createdAtUtc := .aware beforeYearOne } {} ⟨none, none⟩ [] ∧
      ¬ ConsistentRun (fun _ => someDigest) someDigest defaultArguments {} ⟨none, none⟩
        [(.abort "decode failure", { finishFrames := some 0 })] ∧
      ¬ ConsistentRun (fun _ => someDigest) someDigest { defaultArguments with dbcName := "" } {}
        ⟨none, none⟩ [(.complete, {})] := by
  refine ⟨?_, ?_, ?_, ?_⟩
  · rintro ⟨-, hexplained⟩
    obtain ⟨manifest, reason, hwritten, -⟩ := hexplained _ rfl
    cases hwritten
  · rintro ⟨-, hexplained⟩
    obtain ⟨manifest, reason, hwritten, -⟩ := hexplained _ rfl
    cases hwritten
  · intro hconsistent
    obtain ⟨-, hexplained⟩ := hconsistent 1
    obtain ⟨manifest, reason, hwritten, hstatus, -⟩ := hexplained rfl rfl _ rfl
    rw [← SessionRecorder.writtenManifest_status hwritten] at hstatus
    cases hstatus
  · intro hconsistent
    obtain ⟨recorder, hcreate⟩ : ∃ recorder, SessionRecorder.create someDigest
        { defaultArguments with dbcName := "" } {} ⟨none, none⟩ = .ok recorder := ⟨_, rfl⟩
    obtain ⟨created, -, hinitial, hrecorded⟩ := SessionRecorder.create_ok hcreate
    rw [ConsistentRun, hcreate] at hconsistent
    have hclean := (hrecorded.consistent_iff _ hinitial (by simp)).1 hconsistent
    exact ((hclean .complete {} rfl).2 rfl rfl).dbcName rfl

end TunerOs
