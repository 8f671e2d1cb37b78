-- SUMMARY: The session catalog: opening the complete session of an ID.
import TunerOs.Session.Replay

/-!
# Session catalog

The catalog of a session root knows the directories `<id>.tuneros` in it by the ID in
their names. Opening one checks the ID, the artifact and the database it was recorded
with.
-/

namespace TunerOs

open Containers

/-! ## Session IDs -/

/-- Drop the characters `p` holds of from both ends. -/
def stripChars (p : Char → Bool) (text : List Char) : List Char :=
  ((text.dropWhile p).reverse.dropWhile p).reverse

/-- Hexadecimal digits of either case, with single underscores between them. -/
def isDigitGroups : List Char → Bool
  | [] => false
  | [c] => isHexDigit c.toLower
  | c :: '_' :: rest => isHexDigit c.toLower && isDigitGroups rest
  | c :: rest => isHexDigit c.toLower && isDigitGroups rest

/-- What `int(text, 16)` accepts, of ASCII text. -/
def isHexInteger (text : List Char) : Bool :=
  let unsigned :=
    match stripChars isSpace text with
    | '+' :: rest | '-' :: rest => rest
    | rest => rest
  match unsigned with
  | '0' :: 'x' :: '_' :: rest | '0' :: 'X' :: '_' :: rest => isDigitGroups rest
  | '0' :: 'x' :: rest | '0' :: 'X' :: rest => isDigitGroups rest
  | rest => isDigitGroups rest

/-- The `UUID` constructor accepts the text. -/
def parsesAsUuid (text : String) : Bool :=
  let unprefixed := (text.replace "urn:" "").replace "uuid:" ""
  let digits := (stripChars (fun c => c = '{' ∨ c = '}') unprefixed.toList).filter (· ≠ '-')
  digits.length = 32 ∧ isHexInteger digits

structure SessionCatalog where
  artifacts : Dict String SessionDirectory

namespace SessionCatalog

/-- `_canonical_id`. -/
def canonicalId (sessionId : String) : Except PyException String :=
  if isCanonicalUuid sessionId then .ok sessionId
  else if parsesAsUuid sessionId then
    .error ⟨.keyError, "'session ID must use canonical UUID form'"⟩
  else .error ⟨.keyError, "'invalid session ID'"⟩

def unknownSession (sessionId : String) : PyException :=
  ⟨.keyError, "'unknown session " ++ sessionId ++ "'"⟩

/-- `_validate_manifest_id`. -/
def validateManifestId (reader : SessionReader) (artifactId : String) : Except PyException Unit :=
  if reader.manifest.sessionId ≠ artifactId then
    .error (integrityError "manifest session ID does not match artifact directory")
  else .ok ()

/-- `SessionCatalog.reader`. -/
def reader (sha256 : Bytes → Sha256Digest) (authoritative : Sha256Digest) (catalog : SessionCatalog)
    (sessionId : String) (requireCompatibleDbc : Bool) : Except PyException SessionReader := do
  let canonical ← canonicalId sessionId
  match catalog.artifacts.get? canonical with
  | none => .error (unknownSession canonical)
  | some directory =>
    let reader ← SessionReader.create directory none
    reader.validateIntegrity sha256
    if requireCompatibleDbc && !isSupportedDbcSha256 authoritative reader.manifest.dbcSha256 then
      .error dbcIncompatible
    validateManifestId reader canonical
    return reader

/-- `artifact.name` of a directory. -/
def artifactName (artifactId : String) : String := artifactId ++ ".tuneros"

/-- The manifest of one directory in `list`; one whose name is no session ID is passed over. -/
def listed (sha256 : Bytes → Sha256Digest) (artifactId : String) (directory : SessionDirectory) :
    Except PyException (Option SessionManifest) :=
  match canonicalId artifactId with
  | .error _ => .ok none
  | .ok artifactId => do
    let reader ← SessionReader.create directory none
    reader.validateIntegrity sha256
    validateManifestId reader artifactId
    return some reader.manifest

/-- The order of `list`: its key from the greatest to the least. -/
def ListedBefore (left right : SessionManifest) : Prop :=
  right.createdAtUtc < left.createdAtUtc ∨
    left.createdAtUtc = right.createdAtUtc ∧ right.sessionId ≤ left.sessionId

instance : DecidableRel ListedBefore := fun _ _ => inferInstanceAs (Decidable (_ ∨ _))

/-- `SessionCatalog.list`; the catalog of a root that does not exist has no artifacts. -/
def list (sha256 : Bytes → Sha256Digest) (catalog : SessionCatalog) :
    Except PyException (List SessionManifest) := do
  let artifacts := catalog.artifacts.entries.insertionSort
    (fun left right => artifactName left.1 ≤ artifactName right.1)
  let manifests ← artifacts.mapM (fun artifact => listed sha256 artifact.1 artifact.2)
  return manifests.reduceOption.insertionSort ListedBefore

/-- A reader the catalog hands out passed its integrity check. -/
theorem reader_ok {sha256 : Bytes → Sha256Digest} {authoritative : Sha256Digest}
    {catalog : SessionCatalog} {sessionId : String} {requireCompatibleDbc : Bool}
    {reader : SessionReader}
    (h : catalog.reader sha256 authoritative sessionId requireCompatibleDbc = .ok reader) :
    reader.validateIntegrity sha256 = .ok () := by
  unfold SessionCatalog.reader at h
  cases hcanonical : canonicalId sessionId with
  | error error => simp [hcanonical, bind, Except.bind] at h
  | ok canonical =>
    simp only [hcanonical, bind, Except.bind] at h
    split at h
    · cases h
    · rename_i directory hdirectory
      split at h
      · cases h
      · rename_i opened hopened
        split at h
        · cases h
        · rename_i passed hvalid
          split at h
          · cases h
          · split at h
            · cases h
            · cases h
              exact hvalid

/-- The catalog opens a complete session under its own ID, unless its database is not supported and
has to be. -/
theorem reader_of_complete {sha256 : Bytes → Sha256Digest} {authoritative : Sha256Digest}
    {catalog : SessionCatalog} {sessionId : String} {directory : SessionDirectory}
    {reader : SessionReader} {frames : List RawCanFrame}
    (hcanonical : isCanonicalUuid sessionId = true)
    (hlisted : catalog.artifacts.get? sessionId = some directory)
    (hcreate : SessionReader.create directory none = .ok reader)
    (hdescribes : reader.Describes sha256 frames) (hid : reader.manifest.sessionId = sessionId)
    (requireCompatibleDbc : Bool) :
    catalog.reader sha256 authoritative sessionId requireCompatibleDbc =
      if requireCompatibleDbc && !isSupportedDbcSha256 authoritative reader.manifest.dbcSha256 then
        .error dbcIncompatible
      else .ok reader := by
  have hidentified : validateManifestId reader sessionId = .ok () :=
    if_neg (not_not.2 hid)
  simp only [SessionCatalog.reader, canonicalId, hcanonical, hlisted, hcreate, hdescribes.reads.1,
    if_true, bind, Except.bind, pure, Except.pure]
  split
  · rfl
  · simp only [hidentified]

/-- The catalog opens a complete session of a supported database. -/
theorem reader_of_describes {sha256 : Bytes → Sha256Digest} {authoritative : Sha256Digest}
    {catalog : SessionCatalog} {sessionId : String} {directory : SessionDirectory}
    {reader : SessionReader} {frames : List RawCanFrame}
    (hcanonical : isCanonicalUuid sessionId = true)
    (hlisted : catalog.artifacts.get? sessionId = some directory)
    (hcreate : SessionReader.create directory none = .ok reader)
    (hdescribes : reader.Describes sha256 frames)
    (hsupported : isSupportedDbcSha256 authoritative reader.manifest.dbcSha256 = true)
    (hid : reader.manifest.sessionId = sessionId) :
    catalog.reader sha256 authoritative sessionId true = .ok reader := by
  rw [reader_of_complete hcanonical hlisted hcreate hdescribes hid, hsupported]
  rfl

end SessionCatalog

end TunerOs
