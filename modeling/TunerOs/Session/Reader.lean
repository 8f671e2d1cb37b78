-- SUMMARY: The session reader: `validate_integrity` and the generator `frames` over a session directory.
import TunerOs.Can.Gateway
import TunerOs.Session.Format

/-!
# Session reader

Both methods read the frame file record by record and compare what they counted
with the manifest. `frames` is a generator: it yields what it read before an error.
SHA-256 is an arbitrary function to digests.
-/

namespace TunerOs

def integrityError (message : String) : PyException := ⟨.sessionIntegrityError, message⟩

/-- The local variables of the loop over the records. -/
structure IntegrityScan where
  count : ℕ
  firstTimestamp : Option ℕ
  lastTimestamp : Option ℕ
  hashed : Bytes
deriving DecidableEq

/-- The variables after one more record. -/
def IntegrityScan.observe (scan : IntegrityScan) (record : Bytes) (frame : RawCanFrame) :
    IntegrityScan where
  count := scan.count + 1
  firstTimestamp := some (scan.firstTimestamp.getD frame.timestampMicroseconds)
  lastTimestamp := some frame.timestampMicroseconds
  hashed := scan.hashed ++ record

/-- The variables after the records of some frames, whose bytes are given. -/
def IntegrityScan.after (scan : IntegrityScan) (frames : List RawCanFrame) (bytes : Bytes) :
    IntegrityScan where
  count := scan.count + frames.length
  firstTimestamp := scan.firstTimestamp.or (frames.head?.map (·.timestampMicroseconds))
  lastTimestamp := (frames.getLast?.map (·.timestampMicroseconds)).or scan.lastTimestamp
  hashed := scan.hashed ++ bytes

theorem IntegrityScan.after_nil (scan : IntegrityScan) : scan.after [] [] = scan := by
  simp [IntegrityScan.after]

theorem IntegrityScan.after_cons (scan : IntegrityScan) (frame : RawCanFrame)
    (frames : List RawCanFrame) (record bytes : Bytes) :
    scan.after (frame :: frames) (record ++ bytes) =
      (scan.observe record frame).after frames bytes := by
  simp only [IntegrityScan.after, IntegrityScan.observe, List.length_cons, List.append_assoc,
    IntegrityScan.mk.injEq]
  refine ⟨by omega, ?_, ?_, trivial⟩
  · cases scan.firstTimestamp <;> rfl
  · rw [List.getLast?_cons]
    cases frames.getLast? <;> rfl

structure SessionReader where
  manifest : SessionManifest
  /-- The content of `frames.bin`, if the file exists. -/
  frameFile : Option Bytes
deriving DecidableEq

namespace SessionReader

def notComplete (manifest : SessionManifest) : PyException :=
  integrityError ("session " ++ manifest.sessionId ++ " is " ++ manifest.status.text ++
    ", not complete")

def dbcMismatch : PyException :=
  ⟨.sessionDbcMismatchError,
    "recorded DBC SHA-256 does not match the installed authoritative DBC"⟩

/-- `SessionReader(artifact_path, expected_dbc_sha256=...)`. -/
def create (directory : SessionDirectory) (expectedDbcSha256 : Option String) :
    Except PyException SessionReader := do
  let manifest ← readManifest directory.manifest
  if manifest.status ≠ .complete then .error (notComplete manifest)
  else if expectedDbcSha256.any (manifest.dbcSha256 ≠ ·) then .error dbcMismatch
  else .ok ⟨manifest, directory.frames⟩

def missingFrames : PyException := ⟨.sessionFormatError, "session frames.bin is missing"⟩

def versionMismatch : PyException :=
  ⟨.sessionVersionError, "session frame version does not match manifest format version"⟩

def truncatedRecord (length : ℕ) : PyException :=
  integrityError ("truncated raw frame record: got " ++ toString length ++ " of " ++
    toString rawCanRecordSize ++ " bytes")

def notNondecreasing : PyException := integrityError "raw frame timestamps are not nondecreasing"

/-- `_decode_record`. -/
def decodeRecord (record : Bytes) : Except PyException RawCanFrame :=
  match decodeRawCanRecord record with
  | .error error => .error ⟨.sessionFormatError, error.message⟩
  | .ok frame => .ok frame

/-- The loop of `validate_integrity`. -/
def scanRecords (scan : IntegrityScan) (bytes : Bytes) : Except PyException IntegrityScan :=
  if bytes = [] then .ok scan
  else
    let record := bytes.take rawCanRecordSize
    if record.length ≠ rawCanRecordSize then .error (truncatedRecord record.length)
    else
      match decodeRecord record with
      | .error error => .error error
      | .ok frame =>
        if scan.lastTimestamp.any (frame.timestampMicroseconds < ·) then .error notNondecreasing
        else scanRecords (scan.observe record frame) (bytes.drop rawCanRecordSize)
termination_by bytes.length
decreasing_by
  have hne : bytes ≠ [] := by assumption
  rw [List.length_drop]
  exact Nat.sub_lt (List.length_pos_of_ne_nil hne) (by decide)

/-- The loop of `frames`: what it yields, and how it ends. -/
def yieldRecords (scan : IntegrityScan) (bytes : Bytes) :
    List RawCanFrame × Except PyException IntegrityScan :=
  if bytes = [] then ([], .ok scan)
  else
    let record := bytes.take rawCanRecordSize
    if record.length ≠ rawCanRecordSize then ([], .error (truncatedRecord record.length))
    else
      match decodeRecord record with
      | .error error => ([], .error error)
      | .ok frame =>
        if scan.lastTimestamp.any (frame.timestampMicroseconds < ·) then
          ([], .error notNondecreasing)
        else
          let later := yieldRecords (scan.observe record frame) (bytes.drop rawCanRecordSize)
          (frame :: later.1, later.2)
termination_by bytes.length
decreasing_by
  have hne : bytes ≠ [] := by assumption
  rw [List.length_drop]
  exact Nat.sub_lt (List.length_pos_of_ne_nil hne) (by decide)

def wrongFrameCount (manifest : SessionManifest) (count : ℕ) : PyException :=
  integrityError ("manifest frame count " ++ toString manifest.frameCount ++
    " does not match file count " ++ toString count)

section Validation

variable (sha256 : Bytes → Sha256Digest)

/-- The checks after the loop: the count, `_validate_manifest_timestamps` and the hash. -/
def validateScan (reader : SessionReader) (scan : IntegrityScan) : Except PyException Unit :=
  if scan.count ≠ reader.manifest.frameCount then
    .error (wrongFrameCount reader.manifest scan.count)
  else if scan.firstTimestamp ≠ reader.manifest.firstTimestampMicroseconds then
    .error (integrityError "manifest first timestamp does not match frame file")
  else if scan.lastTimestamp ≠ reader.manifest.lastTimestampMicroseconds then
    .error (integrityError "manifest last timestamp does not match frame file")
  else if some (sha256 scan.hashed).text ≠ reader.manifest.framesSha256 then
    .error (integrityError "session frame-file SHA-256 mismatch")
  else .ok ()

/-- The frame file after its header, once the header is checked, and the loop's variables. -/
def openFrames (reader : SessionReader) : Except PyException (IntegrityScan × Bytes) :=
  match reader.frameFile with
  | none => .error missingFrames
  | some bytes =>
    let header := bytes.take sessionFileHeaderSize
    match decodeSessionHeader header with
    | .error error => .error error
    | .ok version =>
      if version ≠ reader.manifest.formatVersion then .error versionMismatch
      else .ok (⟨0, none, none, header⟩, bytes.drop sessionFileHeaderSize)

def validateIntegrity (reader : SessionReader) : Except PyException Unit := do
  let (scan, bytes) ← reader.openFrames
  let scan ← scanRecords scan bytes
  reader.validateScan sha256 scan

def frames (reader : SessionReader) : FrameStream :=
  match reader.openFrames with
  | .error error => ⟨[], some error⟩
  | .ok (scan, bytes) =>
    let (yielded, ended) := yieldRecords scan bytes
    match ended with
    | .error error => ⟨yielded, some error⟩
    | .ok scan =>
      match reader.validateScan sha256 scan with
      | .error error => ⟨yielded, some error⟩
      | .ok () => ⟨yielded, none⟩

end Validation

/-! ## Files of whole records -/

/-- A frame file opens if it starts with the header of the manifest's version. -/
theorem openFrames_ok_iff {reader : SessionReader} {scan : IntegrityScan} {bytes : Bytes} :
    reader.openFrames = .ok (scan, bytes) ↔
      ∃ header, encodeSessionHeader reader.manifest.formatVersion = .ok header ∧
        reader.frameFile = some (header ++ bytes) ∧ scan = ⟨0, none, none, header⟩ := by
  constructor
  · intro h
    unfold openFrames at h
    split at h
    · cases h
    · rename_i file hfile
      simp only [] at h
      split at h
      · cases h
      · rename_i version hdecode
        split at h
        · cases h
        · rename_i hversion
          obtain ⟨rfl, rfl⟩ := Prod.mk.inj (Except.ok.inj h)
          refine ⟨_, not_not.1 hversion ▸ encodeSessionHeader_of_decode hdecode, ?_, rfl⟩
          rw [hfile, List.take_append_drop]
  · rintro ⟨header, hheader, hfile, rfl⟩
    obtain ⟨hlength, hdecode⟩ := encodeSessionHeader_ok hheader
    simp only [openFrames, hfile, ← hlength, List.take_left, List.drop_left, hdecode, ne_eq,
      not_true_eq_false, if_false]

theorem validateScan_ok_iff {sha256 : Bytes → Sha256Digest} {reader : SessionReader}
    {scan : IntegrityScan} :
    reader.validateScan sha256 scan = .ok () ↔
      scan.count = reader.manifest.frameCount ∧
      scan.firstTimestamp = reader.manifest.firstTimestampMicroseconds ∧
      scan.lastTimestamp = reader.manifest.lastTimestampMicroseconds ∧
      some (sha256 scan.hashed).text = reader.manifest.framesSha256 := by
  unfold validateScan
  by_cases hcount : scan.count = reader.manifest.frameCount
  · by_cases hfirst : scan.firstTimestamp = reader.manifest.firstTimestampMicroseconds
    · by_cases hlast : scan.lastTimestamp = reader.manifest.lastTimestampMicroseconds
      · by_cases hdigest : some (sha256 scan.hashed).text = reader.manifest.framesSha256
        · simp only [hcount, hfirst, hlast, hdigest, ne_eq, not_true_eq_false, if_false, and_self]
        · simp [hcount, hfirst, hlast, hdigest]
      · simp [hcount, hfirst, hlast]
    · simp [hcount, hfirst]
  · simp [hcount]

/-- Only a record of its size is decoded. -/
theorem decodeRecord_length {record : Bytes} {frame : RawCanFrame}
    (h : decodeRecord record = .ok frame) : record.length = rawCanRecordSize := by
  by_contra hlength
  rw [decodeRecord, decodeRawCanRecord, if_pos hlength] at h
  cases h

/-- The records decode to the frames. -/
def Decoded (frames : List RawCanFrame) (records : List Bytes) : Prop :=
  List.Forall₂ (fun frame record => decodeRecord record = .ok frame) frames records

theorem decoded_of_records {frames : List RawCanFrame} {records : List Bytes}
    (h : Records frames records) : Decoded frames records := by
  refine List.Forall₂.imp (fun frame record hencode => ?_) h
  rw [decodeRecord, decode_encodeRawCanRecord hencode]

theorem scanRecords_nil (scan : IntegrityScan) : scanRecords scan [] = .ok scan := by
  rw [scanRecords, if_pos rfl]

/-- The generator's loop ends as the loop of `validate_integrity` does. -/
theorem yieldRecords_ended (scan : IntegrityScan) (bytes : Bytes) :
    (yieldRecords scan bytes).2 = scanRecords scan bytes := by
  fun_induction yieldRecords scan bytes with
  | case1 scan => rw [scanRecords_nil]
  | case2 scan bytes hne record hlength => rw [scanRecords, if_neg hne, if_pos hlength]
  | case3 scan bytes hne record hlength error hdecode =>
    rw [scanRecords, if_neg hne, if_neg hlength, hdecode]
  | case4 scan bytes hne record hlength frame hdecode hlast =>
    rw [scanRecords, if_neg hne, if_neg hlength, hdecode]
    exact (if_pos hlast).symm
  | case5 scan bytes hne record hlength frame hdecode hlast later ih =>
    rw [scanRecords, if_neg hne, if_neg hlength, hdecode]
    exact ih.trans (if_neg hlast).symm

/-- The loops read a whole record that is in order. -/
theorem yieldRecords_record {scan : IntegrityScan} {frame : RawCanFrame} {record rest : Bytes}
    (h : decodeRecord record = .ok frame)
    (hlast : ∀ last ∈ scan.lastTimestamp, last ≤ frame.timestampMicroseconds) :
    yieldRecords scan (record ++ rest) =
      (frame :: (yieldRecords (scan.observe record frame) rest).1,
        (yieldRecords (scan.observe record frame) rest).2) := by
  have hlength := decodeRecord_length h
  have hne : record ++ rest ≠ [] := by
    intro hnil
    rw [List.append_eq_nil_iff] at hnil
    rw [hnil.1] at hlength
    cases hlength
  have hstep : scan.lastTimestamp.any (frame.timestampMicroseconds < ·) = false := by
    cases hscan : scan.lastTimestamp with
    | none => rfl
    | some last => exact decide_eq_false (not_lt.2 (hlast last hscan))
  rw [yieldRecords, if_neg hne]
  simp only [← hlength, List.take_left, List.drop_left, h, hstep, ne_eq,
    not_true_eq_false, if_false, Bool.false_eq_true]

/-- The loops read whole records that are in order, and go on behind them. -/
theorem yieldRecords_beginning {frames : List RawCanFrame} {records : List Bytes}
    {scan : IntegrityScan} (h : Decoded frames records) (hordered : InOrder frames)
    (hlast : ∀ last ∈ scan.lastTimestamp, ∀ frame ∈ frames.head?,
      last ≤ frame.timestampMicroseconds) (rest : Bytes) :
    yieldRecords scan (records.flatten ++ rest) =
      (frames ++ (yieldRecords (scan.after frames records.flatten) rest).1,
        (yieldRecords (scan.after frames records.flatten) rest).2) := by
  induction h generalizing scan with
  | nil => rw [List.flatten_nil, IntegrityScan.after_nil, List.nil_append, List.nil_append]
  | @cons frame record frames records hdecode _ ih =>
    obtain ⟨hnext, hrest⟩ := List.isChain_cons.1 hordered
    have hobserved : ∀ last ∈ (scan.observe record frame).lastTimestamp, ∀ next ∈ frames.head?,
        last ≤ next.timestampMicroseconds := by
      intro last hmem next hhead
      cases hmem
      exact hnext next hhead
    rw [List.flatten_cons, List.append_assoc,
      yieldRecords_record hdecode (fun last hmem => hlast last hmem frame rfl), ih hrest hobserved,
      IntegrityScan.after_cons, List.cons_append]

/-- The loops read whole records that are in order to their end. -/
theorem yieldRecords_records {frames : List RawCanFrame} {records : List Bytes}
    {scan : IntegrityScan} (h : Decoded frames records) (hordered : InOrder frames)
    (hlast : ∀ last ∈ scan.lastTimestamp, ∀ frame ∈ frames.head?,
      last ≤ frame.timestampMicroseconds) :
    yieldRecords scan records.flatten = (frames, .ok (scan.after frames records.flatten)) := by
  have hbeginning := yieldRecords_beginning h hordered hlast []
  have hend : ∀ scan, yieldRecords scan [] = ([], .ok scan) := by
    intro scan
    rw [yieldRecords, if_pos rfl]
  rwa [List.append_nil, hend, List.append_nil] at hbeginning

/-- A complete manifest that describes a frame file of whole records. -/
structure Describes (sha256 : Bytes → Sha256Digest) (reader : SessionReader)
    (frames : List RawCanFrame) : Prop where
  ordered : InOrder frames
  file : ∃ header records, reader.frameFile = some (header ++ records.flatten) ∧
    encodeSessionHeader reader.manifest.formatVersion = .ok header ∧ Records frames records ∧
    reader.manifest.framesSha256 = some (sha256 (header ++ records.flatten)).text
  count : reader.manifest.frameCount = frames.length
  first : reader.manifest.firstTimestampMicroseconds = frames.head?.map (·.timestampMicroseconds)
  last : reader.manifest.lastTimestampMicroseconds = frames.getLast?.map (·.timestampMicroseconds)

section Describes

variable {sha256 : Bytes → Sha256Digest} {reader : SessionReader} {frames : List RawCanFrame}

/-- Both methods accept the file such a manifest describes, and `frames` yields its frames. -/
theorem Describes.reads (h : reader.Describes sha256 frames) :
    reader.validateIntegrity sha256 = .ok () ∧ reader.frames sha256 = ⟨frames, none⟩ := by
  obtain ⟨header, records, hfile, hheader, hrecords, hdigest⟩ := h.file
  have hopen := openFrames_ok_iff.2 ⟨header, hheader, hfile, rfl⟩
  have hyield : yieldRecords ⟨0, none, none, header⟩ records.flatten =
      (frames, .ok (IntegrityScan.after ⟨0, none, none, header⟩ frames records.flatten)) :=
    yieldRecords_records (decoded_of_records hrecords) h.ordered nofun
  have hscan := yieldRecords_ended ⟨0, none, none, header⟩ records.flatten
  rw [hyield] at hscan
  have hvalid : reader.validateScan sha256
      (IntegrityScan.after ⟨0, none, none, header⟩ frames records.flatten) = .ok () := by
    simp only [validateScan, IntegrityScan.after, h.count, h.first, h.last, hdigest, Nat.zero_add,
      Option.none_or, Option.or_none, ne_eq, not_true_eq_false, if_false]
  constructor
  · simp only [validateIntegrity, hopen, ← hscan, hvalid, bind, Except.bind]
  · simp only [SessionReader.frames, hopen, hyield, hvalid]

end Describes

/-! ## Files that pass -/

/-- A generator's loop that ends without an error read frames in order up to the end of the
file. -/
theorem yieldRecords_ok {scan ended : IntegrityScan} {bytes : Bytes} {frames : List RawCanFrame}
    (h : yieldRecords scan bytes = (frames, .ok ended)) :
    InOrder frames ∧ ended = scan.after frames bytes ∧
      ∀ last ∈ scan.lastTimestamp, ∀ frame ∈ frames.head?, last ≤ frame.timestampMicroseconds := by
  fun_induction yieldRecords scan bytes generalizing frames with
  | case1 scan =>
    cases h
    exact ⟨.nil, (IntegrityScan.after_nil _).symm, nofun⟩
  | case2 | case3 | case4 => cases h
  | case5 scan bytes hne record hlength frame hdecode hlast later =>
    rename_i ih
    obtain ⟨rfl, hended⟩ := Prod.mk.inj h
    obtain ⟨hordered, hafter, hnext⟩ := ih (Prod.ext rfl hended)
    refine ⟨List.isChain_cons.2 ⟨hnext frame.timestampMicroseconds rfl, hordered⟩, ?_, ?_⟩
    · rw [hafter, ← IntegrityScan.after_cons, List.take_append_drop]
    · intro last hmem first hhead
      cases hhead
      rw [hmem] at hlast
      exact not_lt.1 (of_decide_eq_false (Bool.eq_false_iff.2 hlast))

/-- What a session that passes `validate_integrity` holds: frames in order, which `frames`
yields and whose number and first and last timestamps the manifest states. -/
theorem validateIntegrity_ok {sha256 : Bytes → Sha256Digest} {reader : SessionReader}
    (h : reader.validateIntegrity sha256 = .ok ()) :
    ∃ frames, reader.frames sha256 = ⟨frames, none⟩ ∧ InOrder frames ∧
      reader.manifest.frameCount = frames.length ∧
      reader.manifest.firstTimestampMicroseconds = frames.head?.map (·.timestampMicroseconds) ∧
      reader.manifest.lastTimestampMicroseconds =
        frames.getLast?.map (·.timestampMicroseconds) := by
  unfold validateIntegrity at h
  cases hopen : reader.openFrames with
  | error error => simp [hopen, bind, Except.bind] at h
  | ok opened =>
    obtain ⟨scan, bytes⟩ := opened
    cases hyield : yieldRecords scan bytes with
    | mk frames result =>
      have hscan := yieldRecords_ended scan bytes
      rw [hyield] at hscan
      cases result with
      | error error => simp [hopen, ← hscan, bind, Except.bind] at h
      | ok ended =>
        simp only [hopen, ← hscan, bind, Except.bind] at h
        obtain ⟨header, -, -, rfl⟩ := openFrames_ok_iff.1 hopen
        obtain ⟨hordered, rfl, -⟩ := yieldRecords_ok hyield
        have hframes : reader.frames sha256 = ⟨frames, none⟩ := by
          simp only [SessionReader.frames, hopen, hyield, h]
        obtain ⟨hcount, hstated, hended, -⟩ := validateScan_ok_iff.1 h
        simp only [IntegrityScan.after, Nat.zero_add, Option.none_or, Option.or_none]
          at hcount hstated hended
        exact ⟨frames, hframes, hordered, hcount.symm, hstated.symm, hended.symm⟩

end SessionReader

end TunerOs
