-- SUMMARY: The session recorder: its constructor, `record`, `complete` and `abort`, and the directories they leave.
import TunerOs.Can.RecordCodec
import TunerOs.Session.CreationTime
import TunerOs.Session.Format

/-!
# Session recorder

A recorder owns the two directories of its session ID. Each call takes the file
operations that fail in it; an operation that is not named succeeds. A call that
raises keeps what it wrote before, so the calls return the recorder next to their
result.

The stream of the frame file is buffered: the frame file of a recorder that has not
finished its stream is what the stream took, whether it was flushed yet or not. A
write that raises found no room in the buffer and took nothing. SHA-256 is an
arbitrary function to digests.
-/

namespace TunerOs

/-! ## Names -/

/-- `str.isspace` of one character. -/
def isSpace (c : Char) : Bool :=
  (9 ≤ c.toNat ∧ c.toNat ≤ 13) ∨ (28 ≤ c.toNat ∧ c.toNat ≤ 32) ∨
    c.toNat ∈ [0x85, 0xA0, 0x1680, 0x2028, 0x2029, 0x202F, 0x205F, 0x3000] ∨
    (0x2000 ≤ c.toNat ∧ c.toNat ≤ 0x200A)

/-- `" ".join(text.split())`. -/
def joinWords (text : String) : String :=
  " ".intercalate (((text.toList.splitOnP isSpace).filter (· ≠ [])).map String.ofList)

/-- `text.strip()`. -/
def strip (text : String) : String :=
  String.ofList (((text.toList.dropWhile isSpace).reverse.dropWhile isSpace).reverse)

/-- `normalize_session_name`. -/
def normalizeSessionName : Option String → Except PyException (Option String)
  | none => .ok none
  | some name =>
    let normalized := joinWords name
    if normalized = "" then .error ⟨.valueError, "session name cannot be empty"⟩
    else if normalized.length > 120 then
      .error ⟨.valueError, "session name cannot exceed 120 characters"⟩
    else if normalized.toList.any (·.toNat < 32) then
      .error ⟨.valueError, "session name cannot contain control characters"⟩
    else .ok (some normalized)

/-! ## The recorder -/

/-- The `.partial` and `.tuneros` directories of one session ID, where they exist. -/
structure SessionDirectories where
  unfinished : Option SessionDirectory
  published : Option SessionDirectory
deriving DecidableEq

/-- Append to `frames.bin` of the `.partial` directory. -/
def SessionDirectories.appendFrames (directories : SessionDirectories) (bytes : Bytes) :
    SessionDirectories :=
  { directories with
    unfinished := directories.unfinished.map
      (fun directory => { directory with frames := directory.frames.map (· ++ bytes) }) }

/-- `frames.bin` of the `.partial` directory holds no more than its first `length` bytes. -/
def SessionDirectories.truncateFrames (directories : SessionDirectories) (length : ℕ) :
    SessionDirectories :=
  { directories with
    unfinished := directories.unfinished.map
      (fun directory => { directory with frames := directory.frames.map (·.take length) }) }

/-- Replace `manifest.json` of the `.partial` directory. -/
def SessionDirectories.writeManifest (directories : SessionDirectories)
    (manifest : SessionManifest) : SessionDirectories :=
  { directories with
    unfinished := directories.unfinished.map
      (fun directory => { directory with manifest := writtenManifest manifest }) }

/-- `os.replace` of the `.partial` directory. -/
def SessionDirectories.publish (directories : SessionDirectories) : SessionDirectories :=
  ⟨none, directories.unfinished⟩

/-- The file operations of one call that raise an `OSError`, with its text. -/
structure FileFaults where
  openFrames : Option String := none
  writeFrames : Option String := none
  /-- The flush, the `fsync` or the close of `frames.bin`, and how long the file is then. -/
  finishFrames : Option ℕ := none
  writeManifest : Option String := none
  publish : Option String := none
  /-- The second write of the manifest in `complete`. -/
  rewriteManifest : Option String := none

/-- The arguments of the constructor; `sessionId` and `createdAtUtc` after their defaults. -/
structure RecorderArguments where
  name : Option String
  scenario : Option String
  sessionId : Uuid
  createdAtUtc : CreationTime
  dbcName : String
  dbcSha256 : Option String
  calibrationId : Option String
  calibrationRevision : Option ℤ

structure SessionRecorder where
  manifest : SessionManifest
  closed : Bool
  /-- What the SHA-256 object was updated with. -/
  hashed : Bytes
  directories : SessionDirectories

def authoritativeDbcName : String := "tuneros_simulation.dbc"

def legacyPhase8aDbcSha256 : String :=
  "320239cad283771dcffbcf293ed6d319ee11c4c383ab3da4d680a8dac16306f2"

/-- `is_supported_dbc_sha256`, given the digest of the packaged DBC. -/
def isSupportedDbcSha256 (authoritative : Sha256Digest) (value : String) : Bool :=
  value = authoritative.text ∨ value = legacyPhase8aDbcSha256

def osError (text : String) : PyException := ⟨.osError, text⟩

def recordingError (message : String) : PyException := ⟨.sessionRecordingError, message⟩

def failedFinalizing : PyException := recordingError "failed finalizing raw session frame file"

def publishingFailure : String := "failed publishing completed session artifact"

namespace SessionRecorder

/-- The checks on `calibration_id` and `calibration_revision`. -/
def checkCalibration (arguments : RecorderArguments) : Except PyException Unit :=
  if arguments.calibrationId.isNone ≠ arguments.calibrationRevision.isNone then
    .error ⟨.valueError, "calibration ID and revision must be supplied together"⟩
  else if arguments.calibrationId = some "" ∨ arguments.calibrationRevision = some 0 then
    .error ⟨.valueError,
      "calibration provenance requires a non-empty ID and positive revision"⟩
  else .ok ()

/-- `dbc_sha256 or authoritative_dbc_sha256()`. -/
def dbcSha256OrDefault (authoritative : Sha256Digest) : Option String → String
  | none | some "" => authoritative.text
  | some digest => digest

/-- The manifest the constructor builds. -/
def initialManifest (authoritative : Sha256Digest) (arguments : RecorderArguments)
    (created : AwareDateTime) : Except PyException SessionManifest := do
  checkCalibration arguments
  let utc ← created.astimezone
  let name ← normalizeSessionName arguments.name
  let scenario ← normalizeSessionName arguments.scenario
  return {
    formatName := sessionFormatName
    formatVersion :=
      if arguments.calibrationId = none then sessionFormatVersion
      else sessionFormatVersionCalibration
    sessionId := arguments.sessionId.text
    createdAtUtc := utc.isoformat
    name, scenario
    vehicleProfileId := referenceVehicleProfileId
    canNetwork := syntheticCanNetwork
    dbcName := arguments.dbcName
    dbcSha256 := dbcSha256OrDefault authoritative arguments.dbcSha256
    framesSha256 := none
    status := .recording
    failureReason := none
    frameCount := 0
    firstTimestampMicroseconds := none
    lastTimestampMicroseconds := none
    durationMicroseconds := 0
    calibrationId := arguments.calibrationId
    calibrationRevision := arguments.calibrationRevision }

/-- The constructor after the `.partial` directory was made: the manifest, the frame file with
its header, and the manifest file. -/
def openFiles (manifest : SessionManifest) (faults : FileFaults)
    (published : Option SessionDirectory) :
    Except (PyException × SessionDirectories) SessionRecorder :=
  match faults.openFrames with
  | some text => .error (osError text, ⟨some ⟨.missing, none⟩, published⟩)
  | none =>
    match encodeSessionHeader manifest.formatVersion with
    | .error error => .error (error, ⟨some ⟨.missing, some []⟩, published⟩)
    | .ok header =>
      match faults.writeFrames with
      | some text => .error (osError text, ⟨some ⟨.missing, some []⟩, published⟩)
      | none =>
        match faults.writeManifest with
        | some text => .error (osError text, ⟨some ⟨.missing, some header⟩, published⟩)
        | none =>
          .ok {
            manifest := manifest
            closed := false
            hashed := header
            directories := ⟨some ⟨writtenManifest manifest, some header⟩, published⟩ }

/-- `SessionRecorder(...)`; one that raises leaves the directories next to its exception. -/
def create (authoritative : Sha256Digest) (arguments : RecorderArguments) (faults : FileFaults)
    (directories : SessionDirectories) :
    Except (PyException × SessionDirectories) SessionRecorder :=
  match arguments.createdAtUtc with
  | .naive => .error (⟨.valueError, "created_at_utc must be timezone-aware"⟩, directories)
  | .aware created =>
    if directories.unfinished.isSome ∨ directories.published.isSome then
      .error (recordingError ("session " ++ arguments.sessionId.text ++ " already exists"),
        directories)
    else
      match initialManifest authoritative arguments created with
      | .error error => .error (error, ⟨some ⟨.missing, none⟩, directories.published⟩)
      | .ok manifest => openFiles manifest faults directories.published

/-- `recording`. -/
def recording (recorder : SessionRecorder) : Bool :=
  !recorder.closed ∧ recorder.manifest.status = .recording

/-- The manifest after one more frame. -/
def countFrame (manifest : SessionManifest) (frame : RawCanFrame) : SessionManifest :=
  let first := manifest.firstTimestampMicroseconds.getD frame.timestampMicroseconds
  { manifest with
    frameCount := manifest.frameCount + 1
    firstTimestampMicroseconds := some first
    lastTimestampMicroseconds := some frame.timestampMicroseconds
    durationMicroseconds := frame.timestampMicroseconds - first }

def precedes (frame : RawCanFrame) (previous : ℕ) : PyException :=
  recordingError ("raw frame timestamp " ++ toString frame.timestampMicroseconds ++ " precedes " ++
    toString previous)

def record (recorder : SessionRecorder) (frame : RawCanFrame) (faults : FileFaults) :
    Except PyException Unit × SessionRecorder :=
  if !recorder.recording then
    (.error (recordingError "session recorder is not recording"), recorder)
  else
    match recorder.manifest.lastTimestampMicroseconds.filter (frame.timestampMicroseconds < ·) with
    | some previous => (.error (precedes frame previous), recorder)
    | none =>
      match encodeRawCanRecord frame with
      | .error error => (.error error, recorder)
      | .ok encoded =>
        if faults.writeFrames.isSome then
          (.error (recordingError "failed writing raw session frame"), recorder)
        else
          (.ok (), { recorder with
            manifest := countFrame recorder.manifest frame
            hashed := recorder.hashed ++ encoded
            directories := recorder.directories.appendFrames encoded })

/-- `_finish_stream`. -/
def finishStream (recorder : SessionRecorder) (faults : FileFaults) :
    Except PyException Unit × SessionRecorder :=
  match faults.finishFrames with
  | some length =>
    (.error failedFinalizing, { recorder with
      closed := true
      directories := recorder.directories.truncateFrames length })
  | none => (.ok (), { recorder with closed := true })

section Finish

variable (sha256 : Bytes → Sha256Digest)

/-- The handler in `complete`: the manifest says that publishing failed. -/
def failPublishing (recorder : SessionRecorder) (completed : SessionManifest)
    (faults : FileFaults) : SessionRecorder :=
  let manifest : SessionManifest :=
    { completed with status := .incomplete, failureReason := some publishingFailure }
  { recorder with
    manifest := manifest
    directories :=
      if faults.rewriteManifest.isSome then recorder.directories
      else recorder.directories.writeManifest manifest }

def complete (recorder : SessionRecorder) (faults : FileFaults) :
    Except PyException SessionManifest × SessionRecorder :=
  if !recorder.recording then
    (.error (recordingError "session recorder cannot be completed"), recorder)
  else
    match recorder.finishStream faults with
    | (.error error, recorder) => (.error error, recorder)
    | (.ok (), recorder) =>
      let completed : SessionManifest :=
        { recorder.manifest with
          framesSha256 := some (sha256 recorder.hashed).text
          status := .complete }
      if faults.writeManifest.isSome then
        (.error (recordingError publishingFailure), recorder.failPublishing completed faults)
      else
        let recorder :=
          { recorder with directories := recorder.directories.writeManifest completed }
        if faults.publish.isSome then
          (.error (recordingError publishingFailure), recorder.failPublishing completed faults)
        else
          (.ok completed, { recorder with
            manifest := completed
            directories := recorder.directories.publish })

/-- `reason.strip()[:500] or "recording failed"`. -/
def safeReason (reason : String) : String :=
  let stripped := String.ofList ((strip reason).toList.take 500)
  if stripped = "" then "recording failed" else stripped

def abort (recorder : SessionRecorder) (reason : String) (faults : FileFaults) :
    Except PyException SessionManifest × SessionRecorder :=
  if recorder.closed then (.ok recorder.manifest, recorder)
  else
    match recorder.finishStream faults with
    | (.error error, recorder) => (.error error, recorder)
    | (.ok (), recorder) =>
      let aborted : SessionManifest :=
        { recorder.manifest with
          framesSha256 := some (sha256 recorder.hashed).text
          status := .incomplete
          failureReason := some (safeReason reason) }
      match faults.writeManifest with
      | some text => (.error (osError text), { recorder with manifest := aborted })
      | none =>
        (.ok aborted, { recorder with
          manifest := aborted
          directories := recorder.directories.writeManifest aborted })

def close (recorder : SessionRecorder) (faults : FileFaults) :
    Except PyException Unit × SessionRecorder :=
  if recorder.closed then (.ok (), recorder)
  else
    match recorder.abort sha256 "recording closed before normal gateway completion" faults with
    | (.error error, recorder) => (.error error, recorder)
    | (.ok _, recorder) => (.ok (), recorder)

end Finish

end SessionRecorder

end TunerOs
