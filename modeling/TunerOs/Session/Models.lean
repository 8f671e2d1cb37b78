-- SUMMARY: Session manifests: their fields, their JSON form, and what `from_dict` accepts.
import TunerOs.Can.Models
import TunerOs.Lib.Fallible
import Mathlib.Data.List.Sort
import Mathlib.Data.String.Basic

/-!
# Session manifests

A manifest is written as a JSON object and read back by `from_dict`, which checks
the field names, the type of each field, and then the fields against each other.
`SessionManifest.Valid` says which manifests pass.
-/

namespace TunerOs

open Containers

def sessionFormatName : String := "tuneros.raw_can_session"
def sessionFormatVersion : ℕ := 1
def sessionFormatVersionCalibration : ℕ := 2
def referenceVehicleProfileId : String := "bmw-e90-335i-n54-2010-manual"
def syntheticCanNetwork : String := "TunerOS synthetic Classic CAN"

inductive SessionStatus where
  | recording
  | complete
  | incomplete
deriving DecidableEq, Repr

def SessionStatus.text : SessionStatus → String
  | .recording => "recording"
  | .complete => "complete"
  | .incomplete => "incomplete"

/-- `SessionStatus(value)` of a string. -/
def SessionStatus.ofText? (text : String) : Option SessionStatus :=
  [SessionStatus.recording, .complete, .incomplete].find? (·.text = text)

@[simp] theorem SessionStatus.ofText?_text (status : SessionStatus) :
    SessionStatus.ofText? status.text = some status := by
  cases status <;> decide

structure SessionManifest where
  formatName : String
  formatVersion : ℕ
  sessionId : String
  createdAtUtc : String
  name : Option String
  scenario : Option String
  vehicleProfileId : String
  canNetwork : String
  dbcName : String
  dbcSha256 : String
  framesSha256 : Option String
  status : SessionStatus
  failureReason : Option String
  frameCount : ℕ
  firstTimestampMicroseconds : Option ℕ
  lastTimestampMicroseconds : Option ℕ
  durationMicroseconds : ℕ
  calibrationId : Option String
  calibrationRevision : Option ℤ
deriving DecidableEq

/-! ## Digests and session identifiers -/

def isHexDigit (c : Char) : Bool := c ∈ "0123456789abcdef".toList

/-- A lowercase SHA-256 hex digest. -/
def isSha256Hex (text : String) : Bool := text.length = 64 ∧ text.toList.all isHexDigit

/-- The text a `UUID` object prints as: what `str(UUID(text)) == text` holds for. -/
def isCanonicalUuid (text : String) : Bool :=
  text.length = 36 ∧ (List.range 36).all (fun i =>
    text.toList[i]?.any (fun c => if i ∈ [8, 13, 18, 23] then c = '-' else isHexDigit c))

/-- What `hashlib.sha256(...).hexdigest()` returns. -/
structure Sha256Digest where
  text : String
  isSha256Hex : isSha256Hex text = true
deriving DecidableEq

/-- A `UUID` object, as the text it prints as. -/
structure Uuid where
  text : String
  isCanonicalUuid : isCanonicalUuid text = true
deriving DecidableEq

/-! ## The JSON form -/

/-- What `json.loads` returns for a field; `from_dict` does not look into floats, arrays and
objects, so they are their representation. -/
inductive JsonValue where
  | null
  | bool (value : Bool)
  | int (value : ℤ)
  | string (value : String)
  | other (text : String)
deriving DecidableEq

/-- `repr(value)`; quotes and control characters in a string are not escaped. -/
def JsonValue.text : JsonValue → String
  | .null => "None"
  | .bool true => "True"
  | .bool false => "False"
  | .int value => toString value
  | .string value => "'" ++ value ++ "'"
  | .other text => text

/-- What `json.loads` returns for a manifest file. -/
inductive JsonDocument where
  | object (fields : Dict String JsonValue)
  | other
deriving DecidableEq

def JsonValue.ofOptionString : Option String → JsonValue
  | none => .null
  | some value => .string value

def JsonValue.ofOptionInt : Option ℤ → JsonValue
  | none => .null
  | some value => .int value

namespace SessionManifest

/-- The fields that both format versions have. -/
def commonFields (manifest : SessionManifest) : List (String × JsonValue) :=
  [("format_name", .string manifest.formatName),
    ("format_version", .int manifest.formatVersion),
    ("session_id", .string manifest.sessionId),
    ("created_at_utc", .string manifest.createdAtUtc),
    ("name", .ofOptionString manifest.name),
    ("scenario", .ofOptionString manifest.scenario),
    ("vehicle_profile_id", .string manifest.vehicleProfileId),
    ("can_network", .string manifest.canNetwork),
    ("dbc_name", .string manifest.dbcName),
    ("dbc_sha256", .string manifest.dbcSha256),
    ("frames_sha256", .ofOptionString manifest.framesSha256),
    ("status", .string manifest.status.text),
    ("failure_reason", .ofOptionString manifest.failureReason),
    ("frame_count", .int manifest.frameCount),
    ("first_timestamp_microseconds",
      .ofOptionInt (manifest.firstTimestampMicroseconds.map Int.ofNat)),
    ("last_timestamp_microseconds",
      .ofOptionInt (manifest.lastTimestampMicroseconds.map Int.ofNat)),
    ("duration_microseconds", .int manifest.durationMicroseconds)]

def calibrationFields (manifest : SessionManifest) : List (String × JsonValue) :=
  [("calibration_id", .ofOptionString manifest.calibrationId),
    ("calibration_revision", .ofOptionInt manifest.calibrationRevision)]

/-- The names of the dataclass fields, without the calibration fields in version 1. -/
def expectedFields (version : ℕ) : List String :=
  ["format_name", "format_version", "session_id", "created_at_utc", "name", "scenario",
    "vehicle_profile_id", "can_network", "dbc_name", "dbc_sha256", "frames_sha256", "status",
    "failure_reason", "frame_count", "first_timestamp_microseconds",
    "last_timestamp_microseconds", "duration_microseconds"] ++
  if version = sessionFormatVersion then [] else ["calibration_id", "calibration_revision"]

theorem nodup_expectedFields (version : ℕ) : (expectedFields version).Nodup := by
  unfold expectedFields
  split <;> decide

/-- The entries of `to_dict`. -/
def fields (manifest : SessionManifest) : List (String × JsonValue) :=
  manifest.commonFields ++
    if manifest.formatVersion = sessionFormatVersion then [] else manifest.calibrationFields

theorem keys_fields (manifest : SessionManifest) :
    manifest.fields.map Prod.fst = expectedFields manifest.formatVersion := by
  unfold fields expectedFields
  split <;> rfl

def toDict (manifest : SessionManifest) : Dict String JsonValue where
  entries := manifest.fields
  keys_nodup := manifest.keys_fields ▸ nodup_expectedFields _

/-! ## Reading a manifest -/

def formatError (message : String) : PyException := ⟨.sessionFormatError, message⟩

/-- `value[key]`. -/
def item (fields : Dict String JsonValue) (key : String) : Except PyException JsonValue :=
  match fields.get? key with
  | none => .error ⟨.keyError, "'" ++ key ++ "'"⟩
  | some value => .ok value

/-- `_string`. -/
def string (fields : Dict String JsonValue) (key : String) : Except PyException String := do
  match ← item fields key with
  | .string value =>
    if value = "" then .error ⟨.typeError, key ++ " must be a non-empty string"⟩ else .ok value
  | _ => .error ⟨.typeError, key ++ " must be a non-empty string"⟩

/-- `_optional_string`. -/
def optionalString (fields : Dict String JsonValue) (key : String) :
    Except PyException (Option String) := do
  match ← item fields key with
  | .null => .ok none
  | .string value => .ok (some value)
  | _ => .error ⟨.typeError, key ++ " must be a string or null"⟩

/-- `_nonnegative_integer`. -/
def nonnegativeInteger (fields : Dict String JsonValue) (key : String) : Except PyException ℕ := do
  match ← item fields key with
  | .int (.ofNat value) => .ok value
  | _ => .error ⟨.typeError, key ++ " must be a non-negative integer"⟩

/-- `_positive_integer`. -/
def positiveInteger (fields : Dict String JsonValue) (key : String) : Except PyException ℕ := do
  let value ← nonnegativeInteger fields key
  if value = 0 then .error ⟨.typeError, key ++ " must be a positive integer"⟩ else .ok value

/-- `_optional_nonnegative_integer`. -/
def optionalNonnegativeInteger (fields : Dict String JsonValue) (key : String) :
    Except PyException (Option ℕ) := do
  match ← item fields key with
  | .null => .ok none
  | _ => return some (← nonnegativeInteger fields key)

/-- `_hash`. -/
def hash (fields : Dict String JsonValue) (key : String) : Except PyException String := do
  let value ← string fields key
  if isSha256Hex value then .ok value
  else .error ⟨.typeError, key ++ " must be a lowercase SHA-256 hex digest"⟩

/-- `None if value[key] is None else _hash(value, key)`. -/
def optionalHash (fields : Dict String JsonValue) (key : String) :
    Except PyException (Option String) := do
  match ← item fields key with
  | .null => .ok none
  | _ => return some (← hash fields key)

/-- `SessionStatus(value["status"])`. -/
def sessionStatus (fields : Dict String JsonValue) : Except PyException SessionStatus := do
  let value ← item fields "status"
  let known : Option SessionStatus :=
    match value with
    | .string text => SessionStatus.ofText? text
    | _ => none
  match known with
  | none => .error ⟨.valueError, value.text ++ " is not a valid SessionStatus"⟩
  | some status => .ok status

/-- The constructor call in `from_dict`; its arguments are evaluated in order. -/
def ofFields (version : ℕ) (fields : Dict String JsonValue) :
    Except PyException SessionManifest := do
  let sessionId ← string fields "session_id"
  let createdAtUtc ← string fields "created_at_utc"
  let name ← optionalString fields "name"
  let scenario ← optionalString fields "scenario"
  let vehicleProfileId ← string fields "vehicle_profile_id"
  let canNetwork ← string fields "can_network"
  let dbcName ← string fields "dbc_name"
  let dbcSha256 ← hash fields "dbc_sha256"
  let framesSha256 ← optionalHash fields "frames_sha256"
  let status ← sessionStatus fields
  let failureReason ← optionalString fields "failure_reason"
  let frameCount ← nonnegativeInteger fields "frame_count"
  let first ← optionalNonnegativeInteger fields "first_timestamp_microseconds"
  let last ← optionalNonnegativeInteger fields "last_timestamp_microseconds"
  let duration ← nonnegativeInteger fields "duration_microseconds"
  let calibrationId ←
    if version = sessionFormatVersion then pure none
    else some <$> string fields "calibration_id"
  let calibrationRevision ←
    if version = sessionFormatVersion then pure none
    else (some ∘ Int.ofNat) <$> positiveInteger fields "calibration_revision"
  return {
    formatName := sessionFormatName
    formatVersion := version
    sessionId, createdAtUtc, name, scenario, vehicleProfileId, canNetwork, dbcName, dbcSha256,
    framesSha256, status, failureReason, frameCount
    firstTimestampMicroseconds := first
    lastTimestampMicroseconds := last
    durationMicroseconds := duration
    calibrationId, calibrationRevision }

def validateTimestamps (manifest : SessionManifest) : Except PyException Unit :=
  if manifest.frameCount = 0 then
    if manifest.firstTimestampMicroseconds ≠ none ∨ manifest.lastTimestampMicroseconds ≠ none then
      .error (formatError "empty session timestamps must be null")
    else if manifest.durationMicroseconds ≠ 0 then
      .error (formatError "empty session duration must be zero")
    else .ok ()
  else
    match manifest.firstTimestampMicroseconds, manifest.lastTimestampMicroseconds with
    | some first, some last =>
      if last < first then .error (formatError "last timestamp precedes first timestamp")
      else if manifest.durationMicroseconds ≠ last - first then
        .error (formatError "session duration does not match timestamps")
      else .ok ()
    | _, _ => .error (formatError "non-empty session timestamps cannot be null")

def validateStatus (manifest : SessionManifest) : Except PyException Unit :=
  match manifest.status with
  | .recording =>
    if manifest.framesSha256 ≠ none ∨ manifest.failureReason ≠ none then
      .error (formatError "recording session cannot have a hash or failure reason")
    else .ok ()
  | .complete =>
    if manifest.framesSha256 = none then
      .error (formatError "complete session requires frames_sha256")
    else if manifest.failureReason ≠ none then
      .error (formatError "complete session cannot have a failure reason")
    else .ok ()
  | .incomplete =>
    if manifest.framesSha256 = none ∨ manifest.failureReason.getD "" = "" then
      .error (formatError "incomplete session requires a hash and failure reason")
    else .ok ()

def validateCalibration (manifest : SessionManifest) : Except PyException Unit :=
  if manifest.formatVersion = sessionFormatVersion then
    if manifest.calibrationId ≠ none ∨ manifest.calibrationRevision ≠ none then
      .error (formatError "version 1 sessions cannot contain calibration metadata")
    else .ok ()
  else if manifest.calibrationId.getD "" = "" ∨ manifest.calibrationRevision = none then
    .error (formatError "version 2 sessions require calibration provenance")
  else .ok ()

/-- `_validate_consistency`. -/
def validateConsistency (manifest : SessionManifest) : Except PyException Unit := do
  if isCanonicalUuid manifest.sessionId = false then
    .error (formatError "session_id must be a canonical UUID")
  manifest.validateTimestamps
  manifest.validateStatus
  manifest.validateCalibration

/-- The format version of a JSON object, if it is a supported one. -/
def supportedVersion (value : Option JsonValue) : Option ℕ :=
  [sessionFormatVersion, sessionFormatVersionCalibration].find?
    (fun version => value = some (.int version))

/-- `repr` of a sorted list of field names. -/
def namesText (names : List String) : String :=
  "[" ++ ", ".intercalate ((names.insertionSort (· ≤ ·)).map (fun name => "'" ++ name ++ "'")) ++ "]"

def fieldsMismatch (version : ℕ) (names : List String) : PyException :=
  formatError ("session manifest fields mismatch: missing=" ++
    namesText ((expectedFields version).filter (· ∉ names)) ++ ", extra=" ++
    namesText (names.filter (· ∉ expectedFields version)))

/-- `except (TypeError, ValueError)` around the constructor call. -/
def wrapInvalid (error : PyException) : PyException :=
  if error.cls = .typeError ∨ error.cls = .valueError then
    formatError ("invalid session manifest: " ++ error.message)
  else error

def fromDict : JsonDocument → Except PyException SessionManifest
  | .other => .error (formatError "session manifest must be a JSON object")
  | .object fields =>
    match supportedVersion (fields.get? "format_version") with
    | none =>
      .error ⟨.sessionVersionError, "unsupported session format version " ++
        ((fields.get? "format_version").getD .null).text⟩
    | some version =>
      if ¬ (fields.keys ⊆ expectedFields version ∧ expectedFields version ⊆ fields.keys) then
        .error (fieldsMismatch version fields.keys)
      else if fields.get? "format_name" ≠ some (.string sessionFormatName) then
        .error (formatError ("unsupported session format " ++
          ((fields.get? "format_name").getD .null).text))
      else
        match ofFields version fields with
        | .error error => .error (wrapInvalid error)
        | .ok manifest =>
          match manifest.validateConsistency with
          | .error error => .error error
          | .ok () => .ok manifest

/-! ## The manifests `from_dict` accepts -/

/-- The first and last timestamps and the duration fit the number of frames. -/
def TimestampsFit (frameCount : ℕ) (first last : Option ℕ) (duration : ℕ) : Prop :=
  if frameCount = 0 then first = none ∧ last = none ∧ duration = 0
  else ∃ f l, first = some f ∧ last = some l ∧ f ≤ l ∧ duration = l - f

/-- The hash and the failure reason fit the status. -/
def StatusFits (framesSha256 failureReason : Option String) : SessionStatus → Prop
  | .recording => framesSha256 = none ∧ failureReason = none
  | .complete => framesSha256 ≠ none ∧ failureReason = none
  | .incomplete => framesSha256 ≠ none ∧ ∃ reason, failureReason = some reason ∧ reason ≠ ""

/-- The calibration fields fit the format version. -/
def CalibrationFits (version : ℕ) (calibrationId : Option String)
    (calibrationRevision : Option ℤ) : Prop :=
  (version = sessionFormatVersion ∧ calibrationId = none ∧ calibrationRevision = none) ∨
    (version = sessionFormatVersionCalibration ∧ ∃ id revision, calibrationId = some id ∧ id ≠ "" ∧
      calibrationRevision = some revision ∧ 0 < revision)

structure Valid (manifest : SessionManifest) : Prop where
  formatName : manifest.formatName = sessionFormatName
  sessionId : isCanonicalUuid manifest.sessionId = true
  createdAtUtc : manifest.createdAtUtc ≠ ""
  vehicleProfileId : manifest.vehicleProfileId ≠ ""
  canNetwork : manifest.canNetwork ≠ ""
  dbcName : manifest.dbcName ≠ ""
  dbcSha256 : isSha256Hex manifest.dbcSha256 = true
  framesSha256 : ∀ digest, manifest.framesSha256 = some digest → isSha256Hex digest = true
  timestamps : TimestampsFit manifest.frameCount manifest.firstTimestampMicroseconds
    manifest.lastTimestampMicroseconds manifest.durationMicroseconds
  status : StatusFits manifest.framesSha256 manifest.failureReason manifest.status
  calibration : CalibrationFits manifest.formatVersion manifest.calibrationId
    manifest.calibrationRevision

/-! ## The round trip -/

section Items

variable {fields : Dict String JsonValue} {key : String}

theorem item_ok {value : JsonValue} (h : fields.get? key = some value) :
    item fields key = .ok value := by
  rw [item, h]

theorem string_ok {text : String} (h : fields.get? key = some (.string text)) (hne : text ≠ "") :
    string fields key = .ok text := by
  simp only [string, item_ok h, bind, Except.bind, if_neg hne]

theorem optionalString_ok {value : Option String}
    (h : fields.get? key = some (.ofOptionString value)) :
    optionalString fields key = .ok value := by
  cases value <;> simp only [optionalString, item_ok h, bind, Except.bind, JsonValue.ofOptionString]

theorem nonnegativeInteger_ok {value : ℕ} (h : fields.get? key = some (.int (.ofNat value))) :
    nonnegativeInteger fields key = .ok value := by
  simp only [nonnegativeInteger, item_ok h, bind, Except.bind]

theorem positiveInteger_ok {value : ℕ} (h : fields.get? key = some (.int (.ofNat value)))
    (hpos : 0 < value) : positiveInteger fields key = .ok value := by
  simp only [positiveInteger, nonnegativeInteger_ok h, bind, Except.bind, if_neg hpos.ne']

theorem optionalNonnegativeInteger_ok {value : Option ℕ}
    (h : fields.get? key = some (.ofOptionInt (value.map .ofNat))) :
    optionalNonnegativeInteger fields key = .ok value := by
  cases value with
  | none => simp only [optionalNonnegativeInteger, item_ok h, bind, Except.bind, Option.map_none,
      JsonValue.ofOptionInt]
  | some value =>
    simp only [optionalNonnegativeInteger, item_ok h, nonnegativeInteger_ok h, bind, Except.bind,
      Option.map_some, JsonValue.ofOptionInt, pure, Except.pure]

theorem hash_ok {text : String} (h : fields.get? key = some (.string text))
    (hhex : isSha256Hex text = true) : hash fields key = .ok text := by
  have hne : text ≠ "" := by
    rintro rfl
    cases hhex
  simp only [hash, string_ok h hne, bind, Except.bind, if_pos hhex]

theorem optionalHash_ok {value : Option String}
    (h : fields.get? key = some (.ofOptionString value))
    (hhex : ∀ text, value = some text → isSha256Hex text = true) :
    optionalHash fields key = .ok value := by
  cases value with
  | none => simp only [optionalHash, item_ok h, bind, Except.bind, JsonValue.ofOptionString]
  | some text =>
    simp only [optionalHash, item_ok h, hash_ok h (hhex text rfl), bind, Except.bind,
      JsonValue.ofOptionString, pure, Except.pure]

theorem sessionStatus_ok {status : SessionStatus}
    (h : fields.get? "status" = some (.string status.text)) :
    sessionStatus fields = .ok status := by
  simp only [sessionStatus, item_ok h, bind, Except.bind, SessionStatus.ofText?_text]

theorem string_inv {text : String} (h : string fields key = .ok text) :
    fields.get? key = some (.string text) ∧ text ≠ "" := by
  unfold string item at h
  cases hget : fields.get? key with
  | none => simp [hget, bind, Except.bind] at h
  | some value =>
    cases value with
    | string value =>
      simp only [hget, bind, Except.bind] at h
      split at h
      · cases h
      · rename_i hne
        cases h
        exact ⟨rfl, hne⟩
    | _ => simp [hget, bind, Except.bind] at h

theorem hash_inv {text : String} (h : hash fields key = .ok text) :
    fields.get? key = some (.string text) ∧ isSha256Hex text = true := by
  obtain ⟨value, hvalue, hchecked⟩ := Fallible.bind_eq_ok.1 h
  split at hchecked
  · rename_i hhex
    cases hchecked
    exact ⟨(string_inv hvalue).1, hhex⟩
  · cases hchecked

theorem positiveInteger_inv {value : ℕ} (h : positiveInteger fields key = .ok value) :
    fields.get? key = some (.int value) ∧ 0 < value := by
  obtain ⟨found, hfound, hchecked⟩ := Fallible.bind_eq_ok.1 h
  split at hchecked
  · cases hchecked
  · rename_i hzero
    cases hchecked
    refine ⟨?_, Nat.pos_of_ne_zero hzero⟩
    unfold nonnegativeInteger item at hfound
    cases hget : fields.get? key with
    | none => simp [hget, bind, Except.bind] at hfound
    | some json =>
      cases json with
      | int number =>
        cases number with
        | ofNat n =>
          simp only [hget, bind, Except.bind, Except.ok.injEq] at hfound
          rw [hfound, Int.ofNat_eq_natCast]
        | negSucc n => simp [hget, bind, Except.bind] at hfound
      | _ => simp [hget, bind, Except.bind] at hfound

end Items

section RoundTrip

variable {manifest : SessionManifest}

theorem get?_toDict_common {key : String} {value : JsonValue}
    (h : (key, value) ∈ manifest.commonFields) : manifest.toDict.get? key = some value :=
  Dict.mem_entries_iff.1 (List.mem_append_left _ h)

theorem get?_toDict_calibration {key : String} {value : JsonValue}
    (hversion : manifest.formatVersion ≠ sessionFormatVersion)
    (h : (key, value) ∈ manifest.calibrationFields) : manifest.toDict.get? key = some value := by
  refine Dict.mem_entries_iff.1 (List.mem_append_right _ ?_)
  rw [if_neg hversion]
  exact h

theorem Valid.ofFields (h : manifest.Valid) :
    ofFields manifest.formatVersion manifest.toDict = .ok manifest := by
  have hcommon : ∀ entry ∈ manifest.commonFields, manifest.toDict.get? entry.1 = some entry.2 :=
    fun entry hmem => get?_toDict_common hmem
  simp only [commonFields, List.forall_mem_cons] at hcommon
  obtain ⟨-, -, hid, hcreated, hname, hscenario, hprofile, hnetwork, hdbc, hsha, hframes, hstatus,
    hreason, hcount, hfirst, hlast, hduration, -⟩ := hcommon
  simp only [SessionManifest.ofFields, bind, Except.bind,
    string_ok hid (fun hnil => by have := h.sessionId; rw [hnil] at this; cases this),
    string_ok hcreated h.createdAtUtc, optionalString_ok hname, optionalString_ok hscenario,
    string_ok hprofile h.vehicleProfileId, string_ok hnetwork h.canNetwork,
    string_ok hdbc h.dbcName, hash_ok hsha h.dbcSha256, optionalHash_ok hframes h.framesSha256,
    sessionStatus_ok hstatus, optionalString_ok hreason, nonnegativeInteger_ok hcount,
    optionalNonnegativeInteger_ok hfirst, optionalNonnegativeInteger_ok hlast,
    nonnegativeInteger_ok hduration]
  have hname := h.formatName
  rcases h.calibration with ⟨hversion, hcalibration, hrevision⟩ |
    ⟨hversion, id, revision, hcalibration, hne, hrevision, hpos⟩
  · simp only [if_pos hversion, pure, Except.pure]
    rw [← hname, ← hcalibration, ← hrevision]
  · have hold : manifest.formatVersion ≠ sessionFormatVersion := by
      rw [hversion]
      decide
    have hcalibrated : ∀ entry ∈ manifest.calibrationFields,
        manifest.toDict.get? entry.1 = some entry.2 :=
      fun entry hmem => get?_toDict_calibration hold hmem
    simp only [calibrationFields, List.forall_mem_cons, hcalibration, hrevision,
      JsonValue.ofOptionString, JsonValue.ofOptionInt] at hcalibrated
    obtain ⟨hid, hrev, -⟩ := hcalibrated
    obtain ⟨value, rfl⟩ := Int.eq_ofNat_of_zero_le hpos.le
    have hvalue : 0 < value := Int.natCast_pos.1 hpos
    simp only [if_neg hold, string_ok hid hne, positiveInteger_ok hrev hvalue, Functor.map,
      Except.map, pure, Except.pure, Function.comp_apply]
    rw [← hname, ← hcalibration, Int.ofNat_eq_natCast, ← hrevision]

theorem Valid.validateConsistency (h : manifest.Valid) : manifest.validateConsistency = .ok () := by
  have htimestamps : manifest.validateTimestamps = .ok () := by
    have hfit := h.timestamps
    unfold TimestampsFit at hfit
    unfold validateTimestamps
    split at hfit
    · rename_i hzero
      obtain ⟨hfirst, hlast, hduration⟩ := hfit
      simp [hzero, hfirst, hlast, hduration]
    · rename_i hzero
      obtain ⟨first, last, hfirst, hlast, hle, hduration⟩ := hfit
      simp [hzero, hfirst, hlast, hduration, hle]
  have hstatus : manifest.validateStatus = .ok () := by
    have hfit := h.status
    unfold validateStatus
    cases hstatus : manifest.status with
    | recording =>
      rw [hstatus] at hfit
      simp [hfit.1, hfit.2]
    | complete =>
      rw [hstatus] at hfit
      simp [hfit.1, hfit.2]
    | incomplete =>
      rw [hstatus] at hfit
      obtain ⟨hdigest, reason, hreason, hne⟩ := hfit
      simp [hdigest, hreason, hne]
  have hcalibration : manifest.validateCalibration = .ok () := by
    unfold validateCalibration
    rcases h.calibration with ⟨hversion, hcalibration, hrevision⟩ |
      ⟨hversion, id, revision, hcalibration, hne, hrevision, -⟩
    · simp [hversion, hcalibration, hrevision]
    · simp [hversion, hcalibration, hrevision, hne, sessionFormatVersion,
        sessionFormatVersionCalibration]
  simp [SessionManifest.validateConsistency, h.sessionId, htimestamps, hstatus, hcalibration, bind,
    Except.bind]

/-- Every valid manifest is read back from the JSON it is written as. -/
theorem fromDict_toDict (h : manifest.Valid) :
    fromDict (.object manifest.toDict) = .ok manifest := by
  have hversion : supportedVersion (manifest.toDict.get? "format_version") =
      some manifest.formatVersion := by
    have hget : manifest.toDict.get? "format_version" = some (.int manifest.formatVersion) := rfl
    rw [hget]
    rcases h.calibration with ⟨hversion, -⟩ | ⟨hversion, -⟩ <;> rw [hversion] <;> decide
  have hkeys : manifest.toDict.keys = expectedFields manifest.formatVersion := manifest.keys_fields
  have hformat : manifest.toDict.get? "format_name" = some (.string sessionFormatName) := by
    rw [← h.formatName]
    rfl
  simp only [fromDict, hversion, hkeys, List.Subset.refl, and_self, not_true_eq_false, if_false,
    hformat, ne_eq, h.ofFields, h.validateConsistency]

/-- A manifest that can be read back names a DBC and its digest, and a calibrated one has a positive
revision. -/
theorem named_of_fromDict {read : SessionManifest}
    (h : fromDict (.object manifest.toDict) = .ok read) :
    manifest.dbcName ≠ "" ∧ isSha256Hex manifest.dbcSha256 = true ∧
      (manifest.formatVersion ≠ sessionFormatVersion →
        ∃ revision, manifest.calibrationRevision = some revision ∧ 0 < revision) := by
  have hcommon : ∀ entry ∈ manifest.commonFields, manifest.toDict.get? entry.1 = some entry.2 :=
    fun entry hmem => get?_toDict_common hmem
  simp only [commonFields, List.forall_mem_cons] at hcommon
  obtain ⟨-, hget, -, -, -, -, -, -, hname, hsha, -⟩ := hcommon
  simp only [fromDict, hget] at h
  split at h
  · cases h
  · rename_i version hversion
    have hfound : (manifest.formatVersion : ℤ) = version := by
      simpa using List.find?_some hversion
    obtain rfl : manifest.formatVersion = version := Int.ofNat.inj hfound
    split at h
    · cases h
    · split at h
      · cases h
      · split at h
        · cases h
        · rename_i built hbuilt
          simp only [SessionManifest.ofFields, Fallible.bind_eq_ok] at hbuilt
          obtain ⟨_, -, _, -, _, -, _, -, _, -, _, -, dbcName, hdbc, digest, hdigest, _, -, _, -, _,
            -, _, -, _, -, _, -, _, -, hcalibrated⟩ := hbuilt
          obtain ⟨hstored, hne⟩ := string_inv hdbc
          obtain ⟨hhashed, hhex⟩ := hash_inv hdigest
          rw [hname] at hstored
          rw [hsha] at hhashed
          cases hstored
          cases hhashed
          refine ⟨hne, hhex, ?_⟩
          intro hversion
          simp only [if_neg hversion, Fallible.bind_eq_ok] at hcalibrated
          obtain ⟨_, -, _, hrevision, -⟩ := hcalibrated
          cases hpositive : positiveInteger manifest.toDict "calibration_revision" with
          | error error => simp [hpositive, Functor.map, Except.map] at hrevision
          | ok revision =>
            obtain ⟨hread, hpos⟩ := positiveInteger_inv hpositive
            have hwritten : manifest.toDict.get? "calibration_revision" =
                some (.ofOptionInt manifest.calibrationRevision) :=
              get?_toDict_calibration hversion
                (List.mem_cons_of_mem _ (List.mem_singleton_self _))
            rw [hwritten] at hread
            refine ⟨revision, ?_, Int.natCast_pos.2 hpos⟩
            cases hsome : manifest.calibrationRevision with
            | none =>
              rw [hsome] at hread
              cases hread
            | some number =>
              rw [hsome] at hread
              cases hread
              rfl

end RoundTrip

end SessionManifest

end TunerOs
