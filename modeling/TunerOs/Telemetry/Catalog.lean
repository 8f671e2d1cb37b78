-- SUMMARY: The signal catalog: signal identities derived from DBC metadata, and the schema check of decoded frames.
import TunerOs.Telemetry.Models

/-!
# Signal catalog

A catalog is the list of database messages with pairwise different IDs and
pairwise different signal keys. The constructor raises on the first duplicate,
so both facts are fields.
-/

namespace TunerOs

structure SignalDefinition where
  key : SignalKey
  arbitrationId : ℕ
  messageName : String
  sourceEcu : String
  unit : String
  expectedPeriodMicroseconds : ℕ
deriving DecidableEq

/-- The definition of one signal of `message`. -/
def CanMessageMetadata.definition (message : CanMessageMetadata) (signal : CanSignalMetadata) :
    SignalDefinition where
  key := ⟨message.messageName, signal.signalName⟩
  arbitrationId := message.arbitrationId
  messageName := message.messageName
  sourceEcu := message.transmitter
  unit := signal.unit
  expectedPeriodMicroseconds := message.cycleTimeMicroseconds

def CanMessageMetadata.definitions (message : CanMessageMetadata) : List SignalDefinition :=
  message.signals.map message.definition

/-- Immutable telemetry view of authoritative DBC signal metadata. -/
structure SignalCatalog where
  messages : List CanMessageMetadata
  ids_nodup : (messages.map (·.arbitrationId)).Nodup
  keys_nodup : ((messages.flatMap CanMessageMetadata.definitions).map (·.key)).Nodup
deriving DecidableEq

/-- The first element of `keys` that is already in `seen` or repeats in `keys`. -/
def firstDuplicate {α : Type} [DecidableEq α] (seen : List α) : List α → Option α
  | [] => none
  | key :: rest => if key ∈ seen then some key else firstDuplicate (seen ++ [key]) rest

theorem nodup_of_firstDuplicate {α : Type} [DecidableEq α] {seen keys : List α}
    (hseen : seen.Nodup) (h : firstDuplicate seen keys = none) : (seen ++ keys).Nodup := by
  induction keys generalizing seen with
  | nil => simpa using hseen
  | cons key rest ih =>
    simp only [firstDuplicate] at h
    split at h
    · cases h
    · rename_i hkey
      have hseen' : (seen ++ [key]).Nodup := by
        rw [List.nodup_append]
        refine ⟨hseen, by simp, ?_⟩
        intro a ha b hb hab
        rw [List.mem_singleton] at hb
        exact hkey (hb ▸ hab ▸ ha)
      simpa using ih hseen' h

namespace SignalCatalog

def definitions (catalog : SignalCatalog) : List SignalDefinition :=
  catalog.messages.flatMap CanMessageMetadata.definitions

def duplicateMessageId (arbitrationId : ℕ) : PyException where
  cls := .telemetrySchemaError
  message := "duplicate CAN message ID 0x" ++ formatHex 3 arbitrationId ++ " in metadata"

def duplicateSignalKey (key : SignalKey) : PyException where
  cls := .telemetrySchemaError
  message := "duplicate telemetry signal key " ++ key.text

def empty : SignalCatalog := ⟨[], List.nodup_nil, List.nodup_nil⟩

/-- One round of the constructor's loop over `database_metadata.messages`. -/
def addMessage (catalog : SignalCatalog) (message : CanMessageMetadata) :
    Except PyException SignalCatalog :=
  if hid : message.arbitrationId ∈ catalog.messages.map (·.arbitrationId) then
    .error (duplicateMessageId message.arbitrationId)
  else
    match hdup : firstDuplicate (catalog.definitions.map (·.key))
        (message.definitions.map (·.key)) with
    | some key => .error (duplicateSignalKey key)
    | none =>
      .ok {
        messages := catalog.messages ++ [message]
        ids_nodup := by
          rw [List.map_append, List.nodup_append]
          refine ⟨catalog.ids_nodup, by simp, ?_⟩
          intro a ha b hb hab
          simp only [List.map_cons, List.map_nil, List.mem_singleton] at hb
          exact hid (hb ▸ hab ▸ ha)
        keys_nodup := by
          have h := nodup_of_firstDuplicate catalog.keys_nodup hdup
          simpa [List.flatMap_append] using h }

/-- `SignalCatalog(database_metadata)`. -/
def create (metadata : List CanMessageMetadata) : Except PyException SignalCatalog :=
  metadata.foldlM addMessage empty

def get? (catalog : SignalCatalog) (key : SignalKey) : Option SignalDefinition :=
  catalog.definitions.find? (·.key = key)

def absentSignal (key : SignalKey) : PyException where
  cls := .telemetrySchemaError
  message := "signal is absent from authoritative catalog: " ++ key.text

def require (catalog : SignalCatalog) (key : SignalKey) : Except PyException SignalDefinition :=
  match catalog.get? key with
  | none => .error (absentSignal key)
  | some definition => .ok definition

def messageById (catalog : SignalCatalog) (arbitrationId : ℕ) : Option CanMessageMetadata :=
  catalog.messages.find? (·.arbitrationId = arbitrationId)

def unknownArbitrationId (arbitrationId : ℕ) : PyException where
  cls := .telemetrySchemaError
  message := "decoded frame uses unknown arbitration ID 0x" ++ formatHex 3 arbitrationId

def wrongMessageName (frame : DecodedCanFrame) (message : CanMessageMetadata) : PyException where
  cls := .telemetrySchemaError
  message := "decoded frame ID 0x" ++ formatHex 3 frame.arbitrationId ++ " is " ++
    message.messageName ++ ", not " ++ frame.messageName

def undefinedSignal (frame : DecodedCanFrame) (signalName : String) : PyException where
  cls := .telemetrySchemaError
  message := "signal '" ++ signalName ++ "' is not defined for " ++ frame.messageName

/-- The loop of `definitions_for_frame` over the frame's signal names. -/
def definitionsForSignals (catalog : SignalCatalog) (frame : DecodedCanFrame) :
    List String → Except PyException (List SignalDefinition)
  | [] => .ok []
  | signalName :: rest =>
    match catalog.get? ⟨frame.messageName, signalName⟩ with
    | none => .error (undefinedSignal frame signalName)
    | some definition => do
      let definitions ← definitionsForSignals catalog frame rest
      return definition :: definitions

def definitionsForFrame (catalog : SignalCatalog) (frame : DecodedCanFrame) :
    Except PyException (List SignalDefinition) :=
  match catalog.messageById frame.arbitrationId with
  | none => .error (unknownArbitrationId frame.arbitrationId)
  | some message =>
    if frame.messageName ≠ message.messageName then .error (wrongMessageName frame message)
    else definitionsForSignals catalog frame frame.signals.keys

theorem addMessage_messages {catalog catalog' : SignalCatalog} {message : CanMessageMetadata}
    (h : catalog.addMessage message = .ok catalog') :
    catalog'.messages = catalog.messages ++ [message] := by
  unfold addMessage at h
  split at h
  · cases h
  · split at h <;> cases h
    rfl

private theorem foldlM_addMessage_messages {metadata : List CanMessageMetadata}
    {catalog catalog' : SignalCatalog}
    (h : metadata.foldlM addMessage catalog = .ok catalog') :
    catalog'.messages = catalog.messages ++ metadata := by
  induction metadata generalizing catalog with
  | nil =>
    cases h
    simp
  | cons message rest ih =>
    simp only [List.foldlM_cons] at h
    cases hadd : catalog.addMessage message with
    | error e => simp [hadd, bind, Except.bind] at h
    | ok next =>
      simp only [hadd, bind, Except.bind] at h
      rw [ih h, addMessage_messages hadd, List.append_assoc, List.singleton_append]

/-- A catalog that was constructed lists exactly the metadata it was constructed from. -/
theorem create_messages {metadata : List CanMessageMetadata} {catalog : SignalCatalog}
    (h : create metadata = .ok catalog) : catalog.messages = metadata := by
  simpa [empty] using foldlM_addMessage_messages h

theorem get?_mem {catalog : SignalCatalog} {key : SignalKey} {definition : SignalDefinition}
    (h : catalog.get? key = some definition) :
    definition ∈ catalog.definitions ∧ definition.key = key := by
  unfold get? at h
  exact ⟨List.mem_of_find?_eq_some h, by simpa using List.find?_some h⟩

/-- Keys identify definitions, so any listed definition is the one its key looks up to. -/
theorem get?_of_mem {catalog : SignalCatalog} {definition : SignalDefinition}
    (h : definition ∈ catalog.definitions) : catalog.get? definition.key = some definition := by
  have hsome : (catalog.get? definition.key).isSome := by
    unfold get?
    rw [List.find?_isSome]
    exact ⟨definition, h, by simp⟩
  obtain ⟨found, hfound⟩ := Option.isSome_iff_exists.1 hsome
  obtain ⟨hmem, hkey⟩ := get?_mem hfound
  rw [hfound]
  exact congrArg some (List.inj_on_of_nodup_map catalog.keys_nodup hmem h hkey)

theorem require_ok_iff {catalog : SignalCatalog} {key : SignalKey}
    {definition : SignalDefinition} :
    catalog.require key = .ok definition ↔ catalog.get? key = some definition := by
  unfold require
  cases catalog.get? key <;> simp

/-- The definitions of a frame are the catalog entries of its signal names, in order. -/
theorem definitionsForSignals_ok {catalog : SignalCatalog} {frame : DecodedCanFrame}
    {names : List String} {definitions : List SignalDefinition}
    (h : catalog.definitionsForSignals frame names = .ok definitions) :
    names.map (fun name => catalog.get? ⟨frame.messageName, name⟩) = definitions.map some := by
  induction names generalizing definitions with
  | nil =>
    cases h
    rfl
  | cons name rest ih =>
    simp only [definitionsForSignals] at h
    cases hget : catalog.get? ⟨frame.messageName, name⟩ with
    | none => simp [hget] at h
    | some definition =>
      rw [hget] at h
      cases hrest : catalog.definitionsForSignals frame rest with
      | error e => simp [hrest, bind, Except.bind] at h
      | ok others =>
        simp only [hrest, bind, Except.bind, pure, Except.pure, Except.ok.injEq] at h
        rw [← h, List.map_cons, List.map_cons, hget, ih hrest]

theorem definitionsForSignals_returns {catalog : SignalCatalog} {frame : DecodedCanFrame}
    {names : List String}
    (h : ∀ name ∈ names, (catalog.get? ⟨frame.messageName, name⟩).isSome) :
    ∃ definitions, catalog.definitionsForSignals frame names = .ok definitions := by
  induction names with
  | nil => exact ⟨[], rfl⟩
  | cons name rest ih =>
    obtain ⟨definition, hget⟩ := Option.isSome_iff_exists.1 (h name List.mem_cons_self)
    obtain ⟨definitions, hrest⟩ := ih (fun other hmem => h other (List.mem_cons_of_mem _ hmem))
    refine ⟨definition :: definitions, ?_⟩
    simp only [definitionsForSignals, hget, hrest]
    rfl

theorem eq_of_arbitrationId {catalog : SignalCatalog} {message other : CanMessageMetadata}
    (hother : other ∈ catalog.messages) (hmessage : message ∈ catalog.messages)
    (h : other.arbitrationId = message.arbitrationId) : other = message :=
  List.inj_on_of_nodup_map catalog.ids_nodup hother hmessage h

/-- A frame that passes the schema check is of a listed message, and its definitions are listed
under their keys. -/
theorem definitionsForFrame_ok {catalog : SignalCatalog} {frame : DecodedCanFrame}
    {definitions : List SignalDefinition} (h : catalog.definitionsForFrame frame = .ok definitions) :
    (∃ message ∈ catalog.messages, message.arbitrationId = frame.arbitrationId ∧
      message.messageName = frame.messageName) ∧
    definitions.length = frame.signals.keys.length ∧
    ∀ definition ∈ definitions, catalog.get? definition.key = some definition := by
  unfold definitionsForFrame at h
  split at h
  · cases h
  · rename_i message hmessage
    split at h
    · cases h
    · rename_i hname
      have hmap := definitionsForSignals_ok h
      unfold messageById at hmessage
      refine ⟨⟨message, List.mem_of_find?_eq_some hmessage, ?_, (not_not.1 hname).symm⟩, ?_, ?_⟩
      · simpa using List.find?_some hmessage
      · simpa using (congrArg List.length hmap).symm
      · intro definition hmem
        have hsome : some definition ∈ definitions.map some := List.mem_map_of_mem hmem
        rw [← hmap, List.mem_map] at hsome
        obtain ⟨name, -, hget⟩ := hsome
        rwa [(get?_mem hget).2]

end SignalCatalog

end TunerOs
