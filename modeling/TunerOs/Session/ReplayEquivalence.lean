-- SUMMARY: A live source that completes leaves a session whose replay ends with the same telemetry, CAN and diagnostic state.
import TunerOs.Telemetry.RunGateway

/-!
# Replaying what was recorded live

The live worker and the replay loop feed the same frames to the same functions, one
behind the recorder and the other behind the reader.
-/

namespace TunerOs

open Containers

variable {sha256 : Bytes → Sha256Digest} {authoritative : Sha256Digest}
  {pipeline : Pipeline} {recorder : SessionRecorder} {connection : Except PyException FrameStream}

/-- What a live source that completes has published. -/
theorem runGateway_completed {initial : SessionManifest} (hrecorded : recorder.Recorded initial [])
    (hpublishable : SessionRecorder.Publishable authoritative initial)
    (hcompleted : (runGateway sha256 pipeline recorder connection).state = .completed) :
    ∃ delivered directory reader, connection = .ok ⟨delivered, none⟩ ∧
      (runGateway sha256 pipeline recorder connection).recorder.directories.published =
        some directory ∧
      SessionReader.create directory none = .ok reader ∧
      isSupportedDbcSha256 authoritative reader.manifest.dbcSha256 = true ∧
      reader.Describes sha256 delivered ∧
      pipeline.replayAll delivered =
        .ok (runGateway sha256 pipeline recorder connection).pipeline := by
  unfold runGateway at hcompleted ⊢
  cases hconnection : connection with
  | error error =>
    rw [hconnection] at hcompleted
    cases hcompleted
  | ok stream =>
    rw [hconnection] at hcompleted
    simp only [tryGateway] at hcompleted ⊢
    cases hloop : gatewayLoop recorder pipeline stream.yielded with
    | mk outcome rest =>
      obtain ⟨next, ended⟩ := rest
      cases outcome with
      | error error =>
        rw [hloop] at hcompleted
        cases hcompleted
      | ok looped =>
        obtain ⟨hnext, hreplay⟩ := gatewayLoop_ok hrecorded hloop
        rw [List.nil_append] at hnext
        cases hraised : stream.raised with
        | some error =>
          simp only [hloop, hraised] at hcompleted
          cases hcompleted
        | none =>
          have hcomplete : next.complete sha256 {} = _ := hnext.complete rfl rfl rfl
          obtain ⟨reader, hreader, hsupported, hdescribes, -⟩ := hnext.published hpublishable
          simp only [hcomplete]
          refine ⟨stream.yielded, _, reader, ?_, ?_, hreader, hsupported, hdescribes, hreplay⟩
          · rw [← hraised]
          · rfl

/-- A live source that fails has published nothing. -/
theorem runGateway_failed {initial : SessionManifest} (hrecorded : recorder.Recorded initial [])
    (hfailed : (runGateway sha256 pipeline recorder connection).state = .failed) :
    (runGateway sha256 pipeline recorder connection).recorder.directories.published = none := by
  have haborted : ∀ (ended : SessionRecorder) seen reason, ended.Recorded initial seen →
      (closeRecorder sha256 (ended.abort sha256 reason {}).2).directories.published = none := by
    intro ended seen reason h
    obtain ⟨-, hpublished, hclosed⟩ : _ ∧
      (ended.abort sha256 reason {}).2.directories.published = none ∧
      (ended.abort sha256 reason {}).2.closed = true := h.abort reason
    have hrecording : (ended.abort sha256 reason {}).2.recording = false := by
      simp [SessionRecorder.recording, hclosed]
    simpa [closeRecorder, hrecording] using hpublished
  unfold runGateway at hfailed ⊢
  cases hconnection : connection with
  | error error => exact haborted recorder [] _ hrecorded
  | ok stream =>
    rw [hconnection] at hfailed
    obtain ⟨seen, hseen⟩ := gatewayLoop_recorded hrecorded
    simp only [tryGateway] at hfailed ⊢
    cases hloop : gatewayLoop recorder pipeline stream.yielded with
    | mk outcome rest =>
      obtain ⟨next, ended⟩ := rest
      rw [hloop] at hseen
      cases outcome with
      | error error => exact haborted next seen _ hseen
      | ok looped =>
        cases hraised : stream.raised with
        | some error => exact haborted next seen _ hseen
        | none =>
          have hcomplete : next.complete sha256 {} = _ := hseen.complete rfl rfl rfl
          simp only [hloop, hraised, hcomplete] at hfailed
          cases hfailed

/-- A live source with a recorder attached that ends `COMPLETED` has published a session that
passes `validate_integrity`, yields exactly the delivered frames and replays to the components
the live service ended with; one that ends `FAILED` has published nothing. -/
theorem recorded_session_replays (sha256 : Bytes → Sha256Digest) (authoritative : Sha256Digest)
    (connection : Except PyException FrameStream) (recorder : SessionRecorder)
    (messageDecode : DbcMessage → Bytes → Option (Dict String CanmatrixValue))
    (arguments : RecorderArguments) (hlaunched : arguments.Launched authoritative)
    (directories : SessionDirectories)
    (hcreate : SessionRecorder.create authoritative arguments {} directories = .ok recorder)
    (run : GatewayRun)
    (hrun : run = runGateway sha256 (.packaged messageDecode) recorder connection) :
    (run.state = .completed →
      ∃ delivered directory reader result, connection = .ok ⟨delivered, none⟩ ∧
        run.recorder.directories.published = some directory ∧
        SessionReader.create directory none = .ok reader ∧
        reader.validateIntegrity sha256 = .ok () ∧
        reader.frames sha256 = ⟨delivered, none⟩ ∧
        replaySession sha256 authoritative reader (packagedDecoder messageDecode)
          (.fresh (packagedDecoder messageDecode) defaultCanExplorerCapacity)
          defaultHistoryCapacity = .ok result ∧
        run.pipeline.telemetry.snapshot = .ok result.snapshot ∧
        run.pipeline.telemetry.statistics = result.statistics ∧
        run.pipeline.telemetry = result.engine ∧ run.pipeline.explorer = result.explorer ∧
        run.pipeline.diagnostics = result.diagnostics) ∧
    (run.state = .failed → run.recorder.directories.published = none) := by
  subst hrun
  have hpublishable := SessionRecorder.publishable_of_create hlaunched hcreate
  obtain ⟨created, -, -, hrecorded⟩ := SessionRecorder.create_ok hcreate
  refine ⟨?_, runGateway_failed hrecorded⟩
  intro hcompleted
  obtain ⟨delivered, directory, reader, hconnection, hpublished, hreader, hsupported, hdescribes,
    hreplay⟩ := runGateway_completed hrecorded hpublishable hcompleted
  obtain ⟨snapshot, hsnapshot, hresult⟩ :=
    replaySession_packaged hsupported hdescribes.reads hreplay
  exact ⟨delivered, directory, reader, _, hconnection, hpublished, hreader, hdescribes.reads.1,
    hdescribes.reads.2, hresult, hsnapshot, rfl, rfl, rfl, rfl⟩

/-- Frames of three messages at one time, and then one of them twice. -/
def severalFrames : List RawCanFrame :=
  [fastEngineFrame 1000, hotFrame 1000,
    ⟨0x520, [0xF4, 0x01, 2], 1000, by decide, by decide⟩, fastEngineFrame 11000,
    fastEngineFrame 11000]

/-- The recorder these arguments construct. -/
def defaultRecorder : SessionRecorder :=
  (SessionRecorder.create someDigest defaultArguments {} ⟨none, none⟩).toOption.get rfl

/-- Frames with equal timestamps are replayed in the order in which they were recorded. -/
theorem several_recorded_frames_replay :
    ∃ run directory reader result,
      run = runGateway (fun _ => someDigest) (.packaged DbcMessage.intelDecode) defaultRecorder
        (.ok ⟨severalFrames, none⟩) ∧
      run.recorder.directories.published = some directory ∧
      SessionReader.create directory none = .ok reader ∧
      reader.frames (fun _ => someDigest) = ⟨severalFrames, none⟩ ∧
      replaySession (fun _ => someDigest) someDigest reader
        (packagedDecoder DbcMessage.intelDecode)
        (.fresh (packagedDecoder DbcMessage.intelDecode) defaultCanExplorerCapacity)
        defaultHistoryCapacity = .ok result ∧
      run.pipeline.telemetry = result.engine ∧ run.pipeline.explorer = result.explorer ∧
      run.pipeline.diagnostics = result.diagnostics := by
  have hlaunched : defaultArguments.Launched someDigest := ⟨by decide, by decide, nofun⟩
  obtain ⟨hcompleted, -⟩ := recorded_session_replays (fun _ => someDigest) someDigest
    (.ok ⟨severalFrames, none⟩) defaultRecorder DbcMessage.intelDecode defaultArguments hlaunched
    ⟨none, none⟩ rfl _ rfl
  obtain ⟨delivered, directory, reader, result, hdelivered, hpublished, hreader, -, hframes, hresult,
    -, -, hengine, hexplorer, hdiagnostics⟩ := hcompleted (by decide +kernel)
  cases hdelivered
  exact ⟨_, directory, reader, result, rfl, hpublished, hreader, hframes, hresult, hengine, hexplorer,
    hdiagnostics⟩

/-- The session that a recorder with these arguments publishes when its run completes. -/
def completedSession (arguments : RecorderArguments) : Option SessionDirectory := do
  let recorder ← (SessionRecorder.create someDigest arguments {} ⟨none, none⟩).toOption
  let run := runGateway (fun _ => someDigest) (.packaged DbcMessage.intelDecode) recorder
    (.ok ⟨[fastEngineFrame 1000], none⟩)
  if run.state = .completed then run.recorder.directories.published else none

/-- The session of another database is not replayed, and that of an unnamed one, or with a negative
calibration revision, cannot be opened. -/
theorem completed_sessions_are_refused :
    (∃ directory reader, completedSession
          { defaultArguments with dbcSha256 := some (String.ofList (List.replicate 64 '0')) } =
        some directory ∧
      SessionReader.create directory none = .ok reader ∧
      replaySession (fun _ => someDigest) someDigest reader
        (packagedDecoder DbcMessage.intelDecode)
        (.fresh (packagedDecoder DbcMessage.intelDecode) defaultCanExplorerCapacity)
        defaultHistoryCapacity = .error dbcIncompatible) ∧
    (∃ directory, completedSession { defaultArguments with dbcName := "" } = some directory ∧
      ∀ reader, SessionReader.create directory none ≠ .ok reader) ∧
    ∃ directory, completedSession
          { defaultArguments with calibrationId := some "stock", calibrationRevision := some (-1) } =
        some directory ∧
      ∀ reader, SessionReader.create directory none ≠ .ok reader := by
  have hrefused : ∀ {arguments : RecorderArguments}, ((completedSession arguments).any fun directory =>
      (SessionReader.create directory none).toOption.isNone) = true →
      ∃ directory, completedSession arguments = some directory ∧
        ∀ reader, SessionReader.create directory none ≠ .ok reader := by
    intro arguments h
    obtain ⟨directory, hdirectory, hnone⟩ := (Option.any_eq_true _ _).1 h
    refine ⟨directory, hdirectory, fun reader hreader => ?_⟩
    rw [hreader] at hnone
    cases hnone
  refine ⟨?_, hrefused (by decide +kernel), hrefused (by decide +kernel)⟩
  have heval : ((completedSession
      { defaultArguments with dbcSha256 := some (String.ofList (List.replicate 64 '0')) }).any
      fun directory => (SessionReader.create directory none).toOption.any fun reader =>
        match replaySession (fun _ => someDigest) someDigest reader
          (packagedDecoder DbcMessage.intelDecode)
          (.fresh (packagedDecoder DbcMessage.intelDecode) defaultCanExplorerCapacity)
          defaultHistoryCapacity with
        | .error error => decide (error = dbcIncompatible)
        | .ok _ => false) = true := by decide +kernel
  obtain ⟨directory, hdirectory, hopened⟩ := (Option.any_eq_true _ _).1 heval
  obtain ⟨reader, hreader, hreplay⟩ := Fallible.exists_ok_of_any hopened
  refine ⟨directory, reader, hdirectory, hreader, ?_⟩
  split at hreplay
  · rename_i error herror
    rw [herror, of_decide_eq_true hreplay]
  · cases hreplay

end TunerOs
