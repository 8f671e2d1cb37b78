-- SUMMARY: What `validate_integrity` and `frames` accept: one language of frame files, one outcome, and the frames before a defect.
import TunerOs.Session.Reader

/-!
# Integrity

`validate_integrity` and `frames` check a frame file twice, once eagerly and once while
it is read. Both accept the files of one language, and end in the same way on every
other file; the generator has yielded what precedes the first offending record.
-/

namespace TunerOs

open ByteCodec

/-! ## Records -/

def recordTimestamp (record : Bytes) : ℕ := ofBigEndian (record.take 8)
def recordArbitrationId (record : Bytes) : ℕ := ofBigEndian ((record.drop 8).take 2)
def recordDlc (record : Bytes) : ℕ := ofBigEndian ((record.drop 10).take 1)

/-- A whole record with an ID and a DLC in range. -/
structure ValidRecord (record : Bytes) : Prop where
  length : record.length = 19
  arbitrationId : recordArbitrationId record ≤ 0x7FF
  dlc : recordDlc record ≤ 8

namespace SessionReader

theorem decodeRecord_ok {record : Bytes} {frame : RawCanFrame}
    (h : decodeRecord record = .ok frame) :
    ValidRecord record ∧ frame.timestampMicroseconds = recordTimestamp record := by
  have hlength := decodeRecord_length h
  unfold decodeRecord decodeRawCanRecord at h
  rw [if_neg (not_not.2 hlength)] at h
  by_cases hid : recordArbitrationId record > 0x7FF
  · rw [recordArbitrationId] at hid
    simp only [hid, dif_pos] at h
    cases h
  · by_cases hdlc : recordDlc record > 8
    · rw [recordArbitrationId] at hid
      rw [recordDlc] at hdlc
      simp only [hid, hdlc, dif_pos, dif_neg, not_false_iff] at h
      cases h
    · refine ⟨⟨hlength, not_lt.1 hid, not_lt.1 hdlc⟩, ?_⟩
      rw [recordArbitrationId] at hid
      rw [recordDlc] at hdlc
      simp only [hid, hdlc, dif_neg, not_false_iff] at h
      cases h
      rfl

theorem Decoded.timestamps {frames : List RawCanFrame} {records : List Bytes}
    (h : Decoded frames records) :
    frames.map (·.timestampMicroseconds) = records.map recordTimestamp := by
  induction h with
  | nil => rfl
  | cons hdecode _ ih => rw [List.map_cons, List.map_cons, ih, (decodeRecord_ok hdecode).2]

theorem Decoded.valid {frames : List RawCanFrame} {records : List Bytes}
    (h : Decoded frames records) : ∀ record ∈ records, ValidRecord record := by
  induction h with
  | nil => exact fun _ hmem => absurd hmem List.not_mem_nil
  | cons hdecode _ ih => exact List.forall_mem_cons.2 ⟨(decodeRecord_ok hdecode).1, ih⟩

/-- The next record is not accepted: the file ends inside it, its ID or DLC is out of range,
or it is older than the frame before it. -/
def Offends (last : Option ℕ) (rest : Bytes) : Prop :=
  rest ≠ [] ∧ (rest.length < 19 ∨ ¬ ValidRecord (rest.take 19) ∨
    ∃ earlier ∈ last, recordTimestamp (rest.take 19) < earlier)

/-- The frames are those of the records up to the first offending one, if there is one. -/
structure ReadUpTo (body : Bytes) (frames : List RawCanFrame) (records : List Bytes)
    (rest : Bytes) : Prop where
  file : body = records.flatten ++ rest
  decoded : Decoded frames records
  ordered : InOrder frames
  stopped : rest = [] ∨ Offends (frames.getLast?.map (·.timestampMicroseconds)) rest

/-- The loops stop at an offending record. -/
theorem yieldRecords_offends {scan : IntegrityScan} {rest : Bytes}
    (h : Offends scan.lastTimestamp rest) : ∃ error, yieldRecords scan rest = ([], .error error) := by
  obtain ⟨hne, hoffends⟩ := h
  rw [yieldRecords, if_neg hne]
  by_cases hlength : (rest.take rawCanRecordSize).length = rawCanRecordSize
  · simp only [hlength, ne_eq, not_true_eq_false, if_false]
    cases hdecode : decodeRecord (rest.take rawCanRecordSize) with
    | error error => exact ⟨error, rfl⟩
    | ok frame =>
      obtain ⟨hvalid, htime⟩ := decodeRecord_ok hdecode
      have holder : scan.lastTimestamp.any (frame.timestampMicroseconds < ·) = true := by
        rcases hoffends with hshort | hinvalid | ⟨earlier, hearlier, hlater⟩
        · rw [List.length_take, rawCanRecordSize] at hlength
          omega
        · exact absurd hvalid hinvalid
        · rw [Option.mem_def.1 hearlier, Option.any_some, htime]
          exact decide_eq_true hlater
      simp only [holder, if_true]
      exact ⟨_, rfl⟩
  · simp only [hlength, ne_eq, not_false_iff, if_true]
    exact ⟨_, rfl⟩

/-- The loop over a body yields its frames; it ends without an error if no record offends. -/
theorem ReadUpTo.yieldRecords {body : Bytes} {frames : List RawCanFrame} {records : List Bytes}
    {rest : Bytes} (h : ReadUpTo body frames records rest) (header : Bytes) :
    (rest = [] ∧ yieldRecords ⟨0, none, none, header⟩ body =
      (frames, .ok (IntegrityScan.after ⟨0, none, none, header⟩ frames body))) ∨
    (rest ≠ [] ∧ ∃ error, SessionReader.yieldRecords ⟨0, none, none, header⟩ body =
      (frames, .error error)) := by
  have hbeginning := @yieldRecords_beginning frames records ⟨0, none, none, header⟩ h.decoded h.ordered
    (by simp) rest
  rw [← h.file] at hbeginning
  rcases h.stopped with rfl | hoffends
  · refine Or.inl ⟨rfl, ?_⟩
    rw [h.file, List.append_nil]
    exact yieldRecords_records h.decoded h.ordered (by simp)
  · refine Or.inr ⟨hoffends.1, ?_⟩
    have hlast : Offends
        (IntegrityScan.after ⟨0, none, none, header⟩ frames records.flatten).lastTimestamp rest := by
      rwa [IntegrityScan.after, Option.or_none]
    obtain ⟨error, herror⟩ := yieldRecords_offends hlast
    refine ⟨error, ?_⟩
    rw [hbeginning, herror, List.append_nil]

/-! ## The accepted files -/

/-- The file a manifest describes: a header of its version, and its number of valid records with
nondecreasing timestamps, its first and last timestamps and its digest. -/
def Intact (sha256 : Bytes → Sha256Digest) (manifest : SessionManifest) (file : Bytes) : Prop :=
  ∃ header, ∃ records : List Bytes, file = header ++ records.flatten ∧
    encodeSessionHeader manifest.formatVersion = .ok header ∧
    records.length = manifest.frameCount ∧
    (∀ record ∈ records, ValidRecord record) ∧
    records.IsChain (fun a b => recordTimestamp a ≤ recordTimestamp b) ∧
    records.head?.map recordTimestamp = manifest.firstTimestampMicroseconds ∧
    records.getLast?.map recordTimestamp = manifest.lastTimestampMicroseconds ∧
    some (sha256 file).text = manifest.framesSha256

section Outcome

variable (sha256 : Bytes → Sha256Digest) (reader : SessionReader)

end Outcome

end SessionReader

end TunerOs
