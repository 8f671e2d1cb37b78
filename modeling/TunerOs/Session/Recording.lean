-- SUMMARY: What a recorder that is recording has written, and that the reader accepts what it publishes.
import TunerOs.Session.Reader
import TunerOs.Session.Recorder

/-!
# Recordings

`Recorded` relates a recorder to the frames it was given: what the manifest counts,
what the hash and the frame file hold. Completing publishes a directory that the
reader accepts and that yields these frames.
-/

namespace TunerOs

/-- The manifest of a recording that has seen these frames. -/
def SessionManifest.describing (manifest : SessionManifest) (frames : List RawCanFrame) :
    SessionManifest :=
  let first := frames.head?.map (·.timestampMicroseconds)
  let last := frames.getLast?.map (·.timestampMicroseconds)
  { manifest with
    frameCount := frames.length
    firstTimestampMicroseconds := first
    lastTimestampMicroseconds := last
    durationMicroseconds := last.getD 0 - first.getD 0 }

/-- The manifest of a recording that was completed. -/
def SessionManifest.completed (manifest : SessionManifest) (digest : Sha256Digest) :
    SessionManifest :=
  { manifest with framesSha256 := some digest.text, status := .complete }

/-- The arguments give every name and number the manifest of a session must have. -/
structure RecorderArguments.Readable (authoritative : Sha256Digest)
    (arguments : RecorderArguments) : Prop where
  dbcName : arguments.dbcName ≠ ""
  dbcSha256 : isSha256Hex
    (SessionRecorder.dbcSha256OrDefault authoritative arguments.dbcSha256) = true
  calibrationRevision : ∀ revision, arguments.calibrationRevision = some revision → 0 < revision

/-- The arguments name a DBC and give the digest of a supported one, as their defaults do, and a
calibration revision is positive, as the one the command line passes. -/
structure RecorderArguments.Launched (authoritative : Sha256Digest)
    (arguments : RecorderArguments) : Prop where
  dbcName : arguments.dbcName ≠ ""
  dbcSha256 : isSupportedDbcSha256 authoritative
    (SessionRecorder.dbcSha256OrDefault authoritative arguments.dbcSha256) = true
  calibrationRevision : ∀ revision, arguments.calibrationRevision = some revision → 0 < revision

namespace SessionRecorder

/-- What holds of every manifest the constructor builds. -/
structure Initial (manifest : SessionManifest) : Prop where
  formatName : manifest.formatName = sessionFormatName
  sessionId : isCanonicalUuid manifest.sessionId = true
  createdAtUtc : manifest.createdAtUtc ≠ ""
  vehicleProfileId : manifest.vehicleProfileId = referenceVehicleProfileId
  canNetwork : manifest.canNetwork = syntheticCanNetwork
  framesSha256 : manifest.framesSha256 = none
  status : manifest.status = .recording
  failureReason : manifest.failureReason = none
  unseen : manifest.describing [] = manifest

/-- A manifest that can be read back once it is completed. -/
structure Readable (manifest : SessionManifest) : Prop extends Initial manifest where
  dbcName : manifest.dbcName ≠ ""
  dbcSha256 : isSha256Hex manifest.dbcSha256 = true
  calibration : SessionManifest.CalibrationFits manifest.formatVersion manifest.calibrationId
    manifest.calibrationRevision

/-- A manifest that the reader will accept once it is completed. -/
structure Publishable (authoritative : Sha256Digest) (manifest : SessionManifest) : Prop
    extends Initial manifest where
  dbcName : manifest.dbcName ≠ ""
  dbcSha256 : isSupportedDbcSha256 authoritative manifest.dbcSha256 = true
  calibration : SessionManifest.CalibrationFits manifest.formatVersion manifest.calibrationId
    manifest.calibrationRevision

/-- What a recorder that is recording has written for the frames it was given. -/
structure Recorded (recorder : SessionRecorder) (initial : SessionManifest)
    (frames : List RawCanFrame) : Prop where
  closed : recorder.closed = false
  status : initial.status = .recording
  manifest : recorder.manifest = initial.describing frames
  file : ∃ header records, encodeSessionHeader initial.formatVersion = .ok header ∧
    Records frames records ∧ recorder.hashed = header ++ records.flatten
  directories : recorder.directories =
    ⟨some ⟨writtenManifest initial, some recorder.hashed⟩, none⟩
  ordered : InOrder frames

theorem isoformat_ne_empty (time : UtcTime) : time.isoformat ≠ "" := by
  intro hnil
  have hlist := congrArg String.toList hnil
  simp [UtcTime.isoformat] at hlist

theorem Recorded.recording {recorder : SessionRecorder} {initial : SessionManifest}
    {frames : List RawCanFrame} (h : recorder.Recorded initial frames) :
    recorder.recording = true := by
  simp [SessionRecorder.recording, h.closed, h.manifest, SessionManifest.describing, h.status]

section Create

variable {authoritative : Sha256Digest} {arguments : RecorderArguments} {created : AwareDateTime}
  {manifest : SessionManifest}

theorem checkCalibration_none {checked : Unit} (h : checkCalibration arguments = .ok checked)
    (hnone : arguments.calibrationId = none) : arguments.calibrationRevision = none := by
  unfold checkCalibration at h
  split at h
  · cases h
  · rename_i htogether
    simpa [hnone] using htogether

theorem checkCalibration_ok {checked : Unit} (hchecked : checkCalibration arguments = .ok checked)
    (hpositive : ∀ revision, arguments.calibrationRevision = some revision → 0 < revision) :
    SessionManifest.CalibrationFits
      (if arguments.calibrationId = none then sessionFormatVersion
        else sessionFormatVersionCalibration)
      arguments.calibrationId arguments.calibrationRevision := by
  have h := hchecked
  unfold checkCalibration at h
  split at h
  · cases h
  · rename_i htogether
    split at h
    · cases h
    · rename_i hsupplied
      obtain ⟨hid, -⟩ := not_or.1 hsupplied
      cases hcalibration : arguments.calibrationId with
      | none => exact Or.inl ⟨if_pos rfl, rfl, checkCalibration_none hchecked hcalibration⟩
      | some id =>
        rw [hcalibration] at htogether hid
        obtain ⟨revision, hrevision⟩ : ∃ revision, arguments.calibrationRevision = some revision := by
          simpa [Option.isSome_iff_exists] using htogether
        refine Or.inr ⟨if_neg (Option.some_ne_none id), id, revision, rfl, ?_, hrevision,
          hpositive revision hrevision⟩
        rintro rfl
        exact hid rfl

theorem initialManifest_ok (h : initialManifest authoritative arguments created = .ok manifest) :
    Initial manifest ∧ manifest.dbcName = arguments.dbcName ∧
      manifest.dbcSha256 = dbcSha256OrDefault authoritative arguments.dbcSha256 ∧
      manifest.calibrationRevision = arguments.calibrationRevision ∧
      (manifest.formatVersion = sessionFormatVersion → arguments.calibrationRevision = none) ∧
      ((∀ revision, arguments.calibrationRevision = some revision → 0 < revision) →
        SessionManifest.CalibrationFits manifest.formatVersion manifest.calibrationId
          manifest.calibrationRevision) := by
  unfold initialManifest at h
  obtain ⟨_, hcalibration, h⟩ := Fallible.bind_eq_ok.1 h
  obtain ⟨utc, -, h⟩ := Fallible.bind_eq_ok.1 h
  obtain ⟨name, -, h⟩ := Fallible.bind_eq_ok.1 h
  obtain ⟨scenario, -, h⟩ := Fallible.bind_eq_ok.1 h
  cases h
  refine ⟨?_, rfl, rfl, rfl, ?_, checkCalibration_ok hcalibration⟩
  · exact ⟨rfl, arguments.sessionId.isCanonicalUuid, isoformat_ne_empty utc, rfl, rfl, rfl,
      rfl, rfl, rfl⟩
  · intro hversion
    have hnone : arguments.calibrationId = none := by
      by_contra hsome
      rw [if_neg hsome] at hversion
      cases hversion
    exact checkCalibration_none hcalibration hnone

/-- A recorder that was constructed has recorded no frame yet. -/
theorem create_ok {directories : SessionDirectories} {recorder : SessionRecorder}
    {faults : FileFaults} (h : create authoritative arguments faults directories = .ok recorder) :
    ∃ created, arguments.createdAtUtc = .aware created ∧
      initialManifest authoritative arguments created = .ok recorder.manifest ∧
      recorder.Recorded recorder.manifest [] := by
  unfold create at h
  split at h
  · cases h
  · rename_i created hcreated
    split at h
    · cases h
    · rename_i hnew
      split at h
      · cases h
      · rename_i manifest hmanifest
        have hinitial := (initialManifest_ok hmanifest).1
        have hpublished : directories.published = none := by
          simpa using (not_or.1 hnew).2
        unfold openFiles at h
        split at h
        · cases h
        · split at h
          · cases h
          · rename_i header hheader
            split at h
            · cases h
            · split at h <;> cases h
              refine ⟨created, hcreated, hmanifest, rfl, hinitial.status, hinitial.unseen.symm, ?_, ?_,
                .nil⟩
              · exact ⟨header, [], hheader, .nil, (List.append_nil header).symm⟩
              · rw [hpublished]

end Create

theorem countFrame_describing (manifest : SessionManifest) (frames : List RawCanFrame)
    (frame : RawCanFrame) :
    countFrame (manifest.describing frames) frame = manifest.describing (frames ++ [frame]) := by
  simp only [countFrame, SessionManifest.describing, List.getLast?_concat, List.head?_append,
    List.length_append, List.length_singleton]
  cases frames <;> rfl

/-- One more frame that was recorded. -/
theorem Recorded.record {recorder recorder' : SessionRecorder} {initial : SessionManifest}
    {frames : List RawCanFrame} (h : recorder.Recorded initial frames) {frame : RawCanFrame}
    {faults : FileFaults} (hrecord : recorder.record frame faults = (.ok (), recorder')) :
    recorder'.Recorded initial (frames ++ [frame]) := by
  obtain ⟨header, records, hheader, hrecords, hhashed⟩ := h.file
  have hlast : recorder.manifest.lastTimestampMicroseconds =
      frames.getLast?.map (·.timestampMicroseconds) := by
    rw [h.manifest]
    rfl
  unfold SessionRecorder.record at hrecord
  simp only [h.recording, Bool.not_true, Bool.false_eq_true, if_false] at hrecord
  split at hrecord
  · cases hrecord
  · rename_i hbefore
    split at hrecord
    · cases hrecord
    · rename_i encoded hencode
      split at hrecord <;> cases hrecord
      constructor
      · exact h.closed
      · exact h.status
      · rw [h.manifest]
        exact countFrame_describing initial frames frame
      · refine ⟨header, records ++ [encoded], hheader, ?_, ?_⟩
        · exact List.rel_append hrecords (.cons hencode .nil)
        · simp [hhashed]
      · simp [h.directories, SessionDirectories.appendFrames]
      · refine List.isChain_append.2 ⟨h.ordered, .singleton _, ?_⟩
        intro previous hprevious next hnext
        cases hnext
        rw [hlast, Option.filter_eq_none_iff] at hbefore
        have hlater := hbefore previous.timestampMicroseconds (by
          rw [hprevious]
          rfl)
        simpa using hlater

/-- A frame that is rejected, or that cannot be written, leaves the recorder alone. -/
theorem record_error {recorder recorder' : SessionRecorder} {frame : RawCanFrame}
    {faults : FileFaults} {error : PyException}
    (h : recorder.record frame faults = (.error error, recorder')) : recorder' = recorder := by
  unfold SessionRecorder.record at h
  split at h
  · cases h
    rfl
  · split at h
    · cases h
      rfl
    · split at h
      · cases h
        rfl
      · split at h <;> cases h
        rfl

/-- A frame that is not older than the last one, with a time of sixty-four bits, is recorded. -/
theorem Recorded.record_returns {recorder : SessionRecorder}
    {initial : SessionManifest} {seen : List RawCanFrame} (h : recorder.Recorded initial seen)
    (frame : RawCanFrame) (hlater : ∀ last ∈ seen.getLast?,
      last.timestampMicroseconds ≤ frame.timestampMicroseconds)
    (hfits : frame.timestampMicroseconds < 2 ^ 64) :
    ∃ next, recorder.record frame {} = (.ok (), next) := by
  have hlast : recorder.manifest.lastTimestampMicroseconds =
      seen.getLast?.map (·.timestampMicroseconds) := by
    rw [h.manifest]
    rfl
  have hnone : recorder.manifest.lastTimestampMicroseconds.filter
      (frame.timestampMicroseconds < ·) = none := by
    rw [hlast, Option.filter_eq_none_iff]
    intro previous hprevious
    obtain ⟨last, hmem, rfl⟩ := Option.map_eq_some_iff.1 hprevious
    rw [decide_eq_true_eq]
    exact not_lt.2 (hlater last hmem)
  unfold SessionRecorder.record encodeRawCanRecord
  rw [h.recording, hnone, if_neg (not_le.2 hfits)]
  exact ⟨_, rfl⟩

/-- The recorder once it was given these frames. -/
def recordAll (recorder : SessionRecorder) (frames : List RawCanFrame) : SessionRecorder :=
  frames.foldl (fun recorder frame => (recorder.record frame {}).2) recorder

theorem Recorded.recordAll {recorder : SessionRecorder} {initial : SessionManifest}
    {seen frames : List RawCanFrame} (h : recorder.Recorded initial seen)
    (hordered : InOrder (seen ++ frames))
    (hfits : ∀ frame ∈ frames, frame.timestampMicroseconds < 2 ^ 64) :
    (recorder.recordAll frames).Recorded initial (seen ++ frames) := by
  induction frames generalizing recorder seen with
  | nil =>
    rw [List.append_nil]
    exact h
  | cons frame rest ih =>
    rw [List.append_cons] at hordered ⊢
    obtain ⟨-, -, hlater⟩ := List.isChain_append.1 (List.isChain_append.1 hordered).1
    obtain ⟨next, hrecord⟩ := h.record_returns frame
      (fun last hlast => hlater last hlast frame (Option.mem_some_self frame))
      (hfits frame List.mem_cons_self)
    have hrest := ih (h.record hrecord) hordered
      (fun other hmem => hfits other (List.mem_cons_of_mem _ hmem))
    rw [SessionRecorder.recordAll, List.foldl_cons, hrecord]
    exact hrest

/-! ## Publishing -/

section Publish

variable {sha256 : Bytes → Sha256Digest} {authoritative : Sha256Digest}
  {recorder : SessionRecorder} {initial : SessionManifest} {frames : List RawCanFrame}

theorem readable_of_initialManifest {arguments : RecorderArguments} {created : AwareDateTime}
    (hreadable : arguments.Readable authoritative)
    (h : initialManifest authoritative arguments created = .ok initial) : Readable initial := by
  obtain ⟨hinitial, hname, hdigest, -, -, hcalibration⟩ := initialManifest_ok h
  exact ⟨hinitial, hname ▸ hreadable.dbcName, hdigest ▸ hreadable.dbcSha256,
    hcalibration hreadable.calibrationRevision⟩

theorem publishable_of_create {arguments : RecorderArguments} {directories : SessionDirectories}
    {faults : FileFaults} (hlaunched : arguments.Launched authoritative)
    (h : create authoritative arguments faults directories = .ok recorder) :
    Publishable authoritative recorder.manifest := by
  obtain ⟨created, -, hmanifest, -⟩ := create_ok h
  obtain ⟨hinitial, hname, hdigest, -, -, hcalibration⟩ := initialManifest_ok hmanifest
  exact ⟨hinitial, hname ▸ hlaunched.dbcName, hdigest ▸ hlaunched.dbcSha256,
    hcalibration hlaunched.calibrationRevision⟩

theorem isSha256Hex_of_supported {digest : String}
    (h : isSupportedDbcSha256 authoritative digest = true) : isSha256Hex digest = true := by
  rcases of_decide_eq_true h with rfl | rfl
  · exact authoritative.isSha256Hex
  · decide

theorem Publishable.readable (h : Publishable authoritative initial) : Readable initial :=
  ⟨h.toInitial, h.dbcName, isSha256Hex_of_supported h.dbcSha256, h.calibration⟩

theorem timestampsFit_of_inOrder (hordered : InOrder frames) :
    SessionManifest.TimestampsFit frames.length (frames.head?.map (·.timestampMicroseconds))
      (frames.getLast?.map (·.timestampMicroseconds))
      ((frames.getLast?.map (·.timestampMicroseconds)).getD 0 -
        (frames.head?.map (·.timestampMicroseconds)).getD 0) := by
  unfold SessionManifest.TimestampsFit
  cases frames with
  | nil => exact ⟨rfl, rfl, rfl⟩
  | cons first rest =>
    obtain ⟨last, hlast⟩ : ∃ last, (first :: rest).getLast? = some last := ⟨_, List.getLast?_cons⟩
    have hne : (first :: rest).length ≠ 0 := Nat.succ_ne_zero _
    rw [if_neg hne, hlast]
    exact ⟨_, _, rfl, rfl, hordered.head_le_last rfl hlast, rfl⟩

/-- A readable recording stays valid whatever status it ends with, if the hash and the failure reason
fit the status. -/
theorem Readable.valid_with (h : Readable initial) (hordered : InOrder frames)
    {framesSha256 failureReason : Option String} {status : SessionStatus}
    (hdigest : ∀ digest, framesSha256 = some digest → isSha256Hex digest = true)
    (hstatus : SessionManifest.StatusFits framesSha256 failureReason status) :
    ({ initial.describing frames with
      framesSha256 := framesSha256
      status := status
      failureReason := failureReason } : SessionManifest).Valid where
  formatName := h.formatName
  sessionId := h.sessionId
  createdAtUtc := h.createdAtUtc
  vehicleProfileId := by
    change initial.vehicleProfileId ≠ ""
    rw [h.vehicleProfileId]
    decide
  canNetwork := by
    change initial.canNetwork ≠ ""
    rw [h.canNetwork]
    decide
  dbcName := h.dbcName
  dbcSha256 := h.dbcSha256
  framesSha256 := hdigest
  timestamps := timestampsFit_of_inOrder hordered
  status := hstatus
  calibration := h.calibration

theorem isSha256Hex_of_digest {digest : Sha256Digest} {text : String}
    (h : some digest.text = some text) : TunerOs.isSha256Hex text = true :=
  Option.some.inj h ▸ digest.isSha256Hex

theorem Readable.valid_initial (h : Readable initial) : initial.Valid := by
  have hvalid := @Readable.valid_with initial [] h .nil initial.framesSha256 initial.failureReason
    initial.status (fun digest hdigest => absurd (h.framesSha256.symm.trans hdigest) nofun) (by
      rw [h.status]
      exact ⟨h.framesSha256, h.failureReason⟩)
  rwa [h.unseen] at hvalid

theorem Readable.valid (h : Readable initial) (hordered : InOrder frames)
    (digest : Sha256Digest) : ((initial.describing frames).completed digest).Valid :=
  h.valid_with hordered (fun _ => isSha256Hex_of_digest)
    ⟨Option.some_ne_none _, h.failureReason⟩

/-- Completing a recording publishes its directory with a completed manifest. -/
theorem Recorded.complete {faults : FileFaults} (h : recorder.Recorded initial frames)
    (hfinish : faults.finishFrames = none) (hmanifest : faults.writeManifest = none)
    (hpublish : faults.publish = none) :
    recorder.complete sha256 faults =
      (.ok ((initial.describing frames).completed (sha256 recorder.hashed)),
        { recorder with
          closed := true
          manifest := (initial.describing frames).completed (sha256 recorder.hashed)
          directories := ⟨none, some
            ⟨writtenManifest ((initial.describing frames).completed (sha256 recorder.hashed)),
              some recorder.hashed⟩⟩ }) := by
  unfold SessionRecorder.complete finishStream
  simp [h.recording, h.manifest, h.directories, hfinish, hmanifest, hpublish,
    SessionManifest.completed, SessionDirectories.writeManifest, SessionDirectories.publish]

/-- Aborting a recording publishes nothing. -/
theorem Recorded.abort (h : recorder.Recorded initial frames) (reason : String) :
    (∃ aborted, (recorder.abort sha256 reason {}).1 = .ok aborted) ∧
      (recorder.abort sha256 reason {}).2.directories.published = none ∧
      (recorder.abort sha256 reason {}).2.closed = true := by
  unfold SessionRecorder.abort finishStream
  simp [h.closed, h.directories, SessionDirectories.writeManifest]

/-- The reader a published directory gets, if its manifest can be read. -/
theorem Recorded.describes (h : recorder.Recorded initial frames) :
    SessionReader.Describes sha256
      ⟨(initial.describing frames).completed (sha256 recorder.hashed), some recorder.hashed⟩
      frames := by
  obtain ⟨header, records, hheader, hrecords, hhashed⟩ := h.file
  refine ⟨h.ordered, ⟨header, records, ?_, hheader, hrecords, ?_⟩, rfl, rfl, rfl⟩
  · rw [hhashed]
  · rw [← hhashed]
    rfl

theorem Recorded.create (h : recorder.Recorded initial frames) (hreadable : Readable initial) :
    SessionReader.create
        ⟨writtenManifest ((initial.describing frames).completed (sha256 recorder.hashed)),
          some recorder.hashed⟩ none =
      .ok ⟨(initial.describing frames).completed (sha256 recorder.hashed), some recorder.hashed⟩ := by
  have hvalid := hreadable.valid h.ordered (sha256 recorder.hashed)
  simp only [SessionReader.create, hvalid.readManifest, bind, Except.bind]
  rfl

/-- The reader opens what was published, and it is a session of the recorded frames. -/
theorem Recorded.published (h : recorder.Recorded initial frames)
    (hpublishable : Publishable authoritative initial) :
    ∃ reader, SessionReader.create
        ⟨writtenManifest ((initial.describing frames).completed (sha256 recorder.hashed)),
          some recorder.hashed⟩ none = .ok reader ∧
      isSupportedDbcSha256 authoritative reader.manifest.dbcSha256 = true ∧
      reader.Describes sha256 frames ∧ reader.manifest.sessionId = initial.sessionId :=
  ⟨_, h.create hpublishable.readable, hpublishable.dbcSha256, h.describes, rfl⟩

end Publish

end SessionRecorder

/-- A digest, and a creation time and the arguments of a recorder that is constructed with defaults. -/
def someDigest : Sha256Digest := ⟨legacyPhase8aDbcSha256, by decide⟩

def defaultCreationTime : AwareDateTime where
  shown := ⟨2026, 1, 2, 3, 4, 5, 0, by decide, by decide, by decide, by decide, by decide, by decide,
    by decide⟩
  isDate := by decide
  utcOffset := 0
  utcOffset_lt := by decide

def defaultArguments : RecorderArguments where
  name := none
  scenario := none
  sessionId := ⟨"00000000-0000-4000-8000-000000000001", by decide⟩
  createdAtUtc := .aware defaultCreationTime
  dbcName := authoritativeDbcName
  dbcSha256 := none
  calibrationId := none
  calibrationRevision := none

end TunerOs
