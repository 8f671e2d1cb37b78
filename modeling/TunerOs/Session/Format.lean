-- SUMMARY: The files of a session directory: the frame file's header and the manifest file.
import TunerOs.Session.Models

/-!
# Session files

A session directory holds `manifest.json` and `frames.bin`. Writing and parsing JSON
text is the standard library's; a manifest file is the document it parses to.
-/

namespace TunerOs

def sessionFileMagic : Bytes := [0x54, 0x4E, 0x53, 0x52]
def sessionFileHeaderSize : ℕ := 8

def unsupportedFrameVersion (version : ℕ) : PyException :=
  ⟨.sessionVersionError, "unsupported session frame version " ++ toString version⟩

def supportedFrameVersion (version : ℕ) : Bool :=
  version = sessionFormatVersion ∨ version = sessionFormatVersionCalibration

/-- `encode_session_header`. -/
def encodeSessionHeader (version : ℕ) : Except PyException Bytes :=
  if supportedFrameVersion version then
    .ok (sessionFileMagic ++ [UInt8.ofNat version] ++ [0, 0, 0])
  else .error (unsupportedFrameVersion version)

def wrongSessionHeaderSize (length : ℕ) : PyException where
  cls := .sessionFormatError
  message := "session frame header requires " ++ toString sessionFileHeaderSize ++
    " bytes, got " ++ toString length

/-- `decode_session_header`. -/
def decodeSessionHeader (data : Bytes) : Except PyException ℕ :=
  if data.length ≠ sessionFileHeaderSize then .error (wrongSessionHeaderSize data.length)
  else
    let magic := data.take 4
    let version := ((data.drop 4).headD 0).toNat
    let reserved := data.drop 5
    if magic ≠ sessionFileMagic then
      .error ⟨.sessionFormatError, "invalid session frame magic " ++ bytesText magic⟩
    else if ¬ supportedFrameVersion version then .error (unsupportedFrameVersion version)
    else if reserved ≠ [0, 0, 0] then
      .error ⟨.sessionFormatError, "session frame header reserved bytes must be zero"⟩
    else .ok version

theorem encodeSessionHeader_ok {version : ℕ} {header : Bytes}
    (h : encodeSessionHeader version = .ok header) :
    header.length = sessionFileHeaderSize ∧ decodeSessionHeader header = .ok version := by
  unfold encodeSessionHeader at h
  split at h
  · rename_i hversion
    cases h
    unfold supportedFrameVersion at hversion
    rcases of_decide_eq_true hversion with rfl | rfl <;> decide
  · cases h

/-- The only header of a version that is accepted is the one that is written. -/
theorem encodeSessionHeader_of_decode {data : Bytes} {version : ℕ}
    (h : decodeSessionHeader data = .ok version) : encodeSessionHeader version = .ok data := by
  unfold decodeSessionHeader at h
  split at h
  · cases h
  · rename_i hlength
    simp only [] at h
    split at h
    · cases h
    · rename_i hmagic
      split at h
      · cases h
      · rename_i hversion
        split at h
        · cases h
        · rename_i hreserved
          obtain rfl := Except.ok.inj h
          have hdrop : 4 < data.length := by
            rw [not_not.1 hlength]
            decide
          have hdata : data = sessionFileMagic ++ (data.drop 4).headD 0 :: [0, 0, 0] := by
            conv_lhs => rw [← List.take_append_drop 4 data, not_not.1 hmagic,
              List.drop_eq_getElem_cons hdrop, not_not.1 hreserved]
            rw [List.drop_eq_getElem_cons hdrop, List.headD_cons]
          rw [encodeSessionHeader, if_pos (not_not.1 hversion), UInt8.ofNat_toNat,
            List.append_assoc, List.singleton_append, ← hdata]

/-- `manifest.json`: missing, no JSON, or a JSON document. -/
inductive ManifestFile where
  | missing
  | unreadable
  | json (document : JsonDocument)
deriving DecidableEq

/-- A session directory; `frames` is the content of `frames.bin`, if the file exists. -/
structure SessionDirectory where
  manifest : ManifestFile
  frames : Option Bytes
deriving DecidableEq

/-- What `write_manifest_atomic` leaves in the file when it returns. -/
def writtenManifest (manifest : SessionManifest) : ManifestFile := .json (.object manifest.toDict)

/-- `read_manifest`. -/
def readManifest : ManifestFile → Except PyException SessionManifest
  | .missing => .error ⟨.sessionFormatError, "session manifest is missing"⟩
  | .unreadable => .error ⟨.sessionFormatError, "session manifest is not valid JSON"⟩
  | .json document => SessionManifest.fromDict document

theorem SessionManifest.Valid.readManifest {manifest : SessionManifest} (h : manifest.Valid) :
    readManifest (writtenManifest manifest) = .ok manifest :=
  fromDict_toDict h

end TunerOs
