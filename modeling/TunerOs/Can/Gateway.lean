-- SUMMARY: The gateway client: exact reads over any segmentation of a byte stream, and the frames it yields from every prefix of a server's stream.
import TunerOs.Can.RecordCodec
import TunerOs.Canbus.GatewayProtocol
import TunerOs.Lib.Sequences

/-!
# Gateway client

A connection delivers its bytes in segments, then ends. `recv` returns at most the
requested size, so a segment longer than a request is delivered in pieces; every
sequence of non-empty chunks no longer than the requests is some list of segments.
-/

namespace TunerOs

open ByteCodec

def gatewayMagic : Bytes := [0x54, 0x4E, 0x43, 0x52]
def gatewayProtocolVersion : ℕ := 1
def gatewayHeaderSize : ℕ := 8
def gatewayRecordSize : ℕ := rawCanRecordSize

/-- How a connection ends after its last byte. -/
inductive SocketEnd where
  | eof
  | osError
deriving DecidableEq

/-- The receiving half of a connection. -/
structure Socket where
  segments : List Bytes
  segments_ne_nil : ∀ segment ∈ segments, segment ≠ []
  ending : SocketEnd

namespace Socket

/-- All bytes still to be delivered. -/
def remaining (socket : Socket) : Bytes := socket.segments.flatten

def disconnected : PyException := ⟨.osError, "connection error"⟩

/-- `recv(size)`: the next bytes, at most `size` of them; empty at the end of the stream. -/
def recv (socket : Socket) (size : ℕ) : Except PyException Bytes × Socket :=
  match h : socket.segments with
  | [] =>
    match socket.ending with
    | .eof => (.ok [], socket)
    | .osError => (.error disconnected, socket)
  | segment :: rest =>
    if hsize : segment.length ≤ size then
      (.ok segment, { socket with
        segments := rest
        segments_ne_nil := fun s hs => socket.segments_ne_nil s (by rw [h]; exact .tail _ hs) })
    else
      (.ok (segment.take size), { socket with
        segments := segment.drop size :: rest
        segments_ne_nil := by
          intro s hs
          rcases List.mem_cons.1 hs with rfl | hs
          · exact fun hnil => hsize (List.drop_eq_nil_iff.1 hnil)
          · exact socket.segments_ne_nil s (by rw [h]; exact .tail _ hs) })

end Socket

def failedReading (description : String) : PyException :=
  ⟨.gatewayConnectionError, "failed reading gateway " ++ description⟩

def truncated (description : String) (received size : ℕ) : PyException where
  cls := .gatewayProtocolError
  message := "truncated gateway " ++ description ++ ": received " ++ toString received ++ " of " ++
    toString size ++ " bytes"

/-- The loop of `_read_exact`. -/
def readLoop (size : ℕ) (description : String) (allowCleanEof : Bool) (data : Bytes)
    (socket : Socket) : Except PyException Bytes × Socket :=
  if data.length < size then
    match socket.recv (size - data.length) with
    | (.error _, socket) => (.error (failedReading description), socket)
    | (.ok [], socket) =>
      if allowCleanEof && data.isEmpty then (.ok [], socket)
      else (.error (truncated description data.length size), socket)
    | (.ok (byte :: chunk), socket) =>
      readLoop size description allowCleanEof (data ++ byte :: chunk) socket
  else (.ok data, socket)
termination_by size - data.length
decreasing_by
  simp only [List.length_append, List.length_cons]
  omega

/-- `_read_exact`. -/
def readExact (size : ℕ) (description : String) (allowCleanEof : Bool) (socket : Socket) :
    Except PyException Bytes × Socket :=
  readLoop size description allowCleanEof [] socket

def wrongHeaderSize (length : ℕ) : PyException where
  cls := .gatewayProtocolError
  message := "gateway header requires " ++ toString gatewayHeaderSize ++ " bytes, got " ++
    toString length

def invalidMagic (magic : Bytes) : PyException :=
  ⟨.gatewayProtocolError, "invalid gateway magic " ++ bytesText magic⟩

def unsupportedVersion (version : ℕ) : PyException :=
  ⟨.gatewayProtocolError, "unsupported gateway protocol version " ++ toString version⟩

def reservedNotZero : PyException :=
  ⟨.gatewayProtocolError, "gateway header reserved bytes must be zero"⟩

/-- `decode_gateway_header`. -/
def decodeGatewayHeader (data : Bytes) : Except PyException Unit :=
  if data.length ≠ gatewayHeaderSize then .error (wrongHeaderSize data.length)
  else
    let magic := data.take 4
    let version := ofBigEndian ((data.drop 4).take 1)
    let reserved := data.drop 5
    if magic ≠ gatewayMagic then .error (invalidMagic magic)
    else if version ≠ gatewayProtocolVersion then .error (unsupportedVersion version)
    else if reserved ≠ [0, 0, 0] then .error reservedNotZero
    else .ok ()

def wrongGatewayRecordSize (length : ℕ) : PyException where
  cls := .gatewayProtocolError
  message := "gateway record requires " ++ toString gatewayRecordSize ++ " bytes, got " ++
    toString length

/-- `decode_gateway_record`: record errors become protocol errors. -/
def decodeGatewayRecord (data : Bytes) : Except PyException RawCanFrame :=
  if data.length ≠ gatewayRecordSize then .error (wrongGatewayRecordSize data.length)
  else
    match decodeRawCanRecord data with
    | .error error => .error ⟨.gatewayProtocolError, "received " ++ error.message⟩
    | .ok frame => .ok frame

/-- `RawCanGatewayClient`. -/
structure RawCanGatewayClient where
  connection : Socket
  closed : Bool

namespace RawCanGatewayClient

/-- `close`. -/
def close (client : RawCanGatewayClient) : RawCanGatewayClient := { client with closed := true }

/-- `RawCanGatewayClient(connection)`: what the constructor returns or raises, and the client. -/
def create (connection : Socket) : Except PyException Unit × RawCanGatewayClient :=
  match readExact gatewayHeaderSize "connection header" false connection with
  | (.error error, connection) => (.error error, close ⟨connection, false⟩)
  | (.ok header, connection) =>
    match decodeGatewayHeader header with
    | .error error => (.error error, close ⟨connection, false⟩)
    | .ok () => (.ok (), ⟨connection, false⟩)

end RawCanGatewayClient

/-- The frames a generator yielded, and the exception that ended it, if any. -/
structure FrameStream where
  yielded : List RawCanFrame
  raised : Option PyException
deriving DecidableEq

/-! ## What a read consumes -/

namespace Socket

/-- A chunk is what is removed from the front of the stream. -/
theorem recv_remaining {socket socket' : Socket} {size : ℕ} {chunk : Bytes}
    (h : socket.recv size = (.ok chunk, socket')) :
    socket.remaining = chunk ++ socket'.remaining ∧ chunk.length ≤ size ∧
      socket'.ending = socket.ending := by
  unfold recv at h
  split at h
  · rename_i hsegments
    split at h
    · cases h
      simp
    · cases h
  · rename_i segment rest hsegments
    split at h
    · rename_i hsize
      cases h
      exact ⟨by simp [remaining, hsegments], hsize, rfl⟩
    · cases h
      refine ⟨?_, by simp, rfl⟩
      simp [remaining, hsegments, ← List.append_assoc]

/-- A chunk is empty only at the end of a stream that ends with an EOF. -/
theorem recv_eq_nil {socket socket' : Socket} {size : ℕ} (hsize : 0 < size)
    (h : socket.recv size = (.ok [], socket')) :
    socket.remaining = [] ∧ socket.ending = .eof ∧ socket' = socket := by
  unfold recv at h
  split at h
  · rename_i hsegments
    split at h
    · rename_i heof
      cases h
      exact ⟨by simp [remaining, hsegments], heof, rfl⟩
    · cases h
  · rename_i segment rest hsegments
    have hne := socket.segments_ne_nil segment (by rw [hsegments]; exact List.mem_cons_self)
    split at h
    · exact absurd (Except.ok.inj (Prod.mk.inj h).1) hne
    · have htake := Except.ok.inj (Prod.mk.inj h).1
      rcases List.take_eq_nil_iff.1 htake with hzero | hnil
      · omega
      · exact absurd hnil hne

/-- `recv` raises only on a connection that ends with an error. -/
theorem recv_of_eof {socket : Socket} (heof : socket.ending = .eof) (size : ℕ) :
    ∃ chunk socket', socket.recv size = (.ok chunk, socket') := by
  unfold recv
  split
  · rw [heof]
    exact ⟨_, _, rfl⟩
  · split
    · exact ⟨_, _, rfl⟩
    · exact ⟨_, _, rfl⟩

end Socket

/-- A read that returns removed the bytes it returns from the stream. -/
theorem readLoop_remaining {size : ℕ} {description : String} {allowCleanEof : Bool}
    {data record : Bytes} {socket socket' : Socket}
    (h : readLoop size description allowCleanEof data socket = (.ok record, socket')) :
    data ++ socket.remaining = record ++ socket'.remaining := by
  fun_induction readLoop size description allowCleanEof data socket with
  | case1 => cases h
  | case2 data socket hmissing socket₁ hrecv hclean =>
    cases h
    obtain ⟨hdata, -, -⟩ := Socket.recv_remaining hrecv
    have hempty : data = [] := by simpa using (Bool.and_eq_true_iff.1 hclean).2
    rw [hempty, hdata]
    rfl
  | case3 => cases h
  | case4 data socket hmissing byte chunk socket₁ hrecv ih =>
    obtain ⟨hdata, -, -⟩ := Socket.recv_remaining hrecv
    rw [← ih h, hdata, List.append_assoc]
  | case5 =>
    cases h
    rfl

/-- On a connection that ends with an EOF, a read returns the next bytes of the stream when
there are enough, whatever the segmentation; else it ends as the end of the stream demands. -/
theorem readLoop_eof {size : ℕ} {description : String} {allowCleanEof : Bool} {data : Bytes}
    {socket : Socket} (heof : socket.ending = .eof) (hdata : data.length ≤ size) :
    (size ≤ data.length + socket.remaining.length →
      ∃ socket', readLoop size description allowCleanEof data socket =
          (.ok (data ++ socket.remaining.take (size - data.length)), socket') ∧
        socket'.remaining = socket.remaining.drop (size - data.length) ∧
        socket'.ending = .eof) ∧
    (data.length + socket.remaining.length < size →
      (readLoop size description allowCleanEof data socket).1 =
        if allowCleanEof && (data ++ socket.remaining).isEmpty then .ok []
        else .error (truncated description (data.length + socket.remaining.length) size)) := by
  fun_induction readLoop size description allowCleanEof data socket with
  | case1 data socket hmissing error socket₁ hrecv =>
    obtain ⟨chunk, socket₂, hok⟩ := Socket.recv_of_eof heof (size - data.length)
    rw [hok] at hrecv
    cases hrecv
  | case2 data socket hmissing socket₁ hrecv hclean =>
    obtain ⟨hnil, -, -⟩ := Socket.recv_eq_nil (by omega) hrecv
    refine ⟨fun henough => ?_, fun _ => ?_⟩
    · simp only [hnil, List.length_nil] at henough
      omega
    · rw [hnil, List.append_nil, if_pos hclean]
  | case3 data socket hmissing socket₁ hrecv hclean =>
    obtain ⟨hnil, -, -⟩ := Socket.recv_eq_nil (by omega) hrecv
    refine ⟨fun henough => ?_, fun _ => ?_⟩
    · simp only [hnil, List.length_nil] at henough
      omega
    · rw [hnil, List.append_nil, if_neg hclean, List.length_nil, Nat.add_zero]
  | case4 data socket hmissing byte chunk socket₁ hrecv ih =>
    obtain ⟨hremaining, hchunk, hending⟩ := Socket.recv_remaining hrecv
    have hlength : socket.remaining.length = (byte :: chunk).length + socket₁.remaining.length := by
      rw [hremaining, List.length_append]
    obtain ⟨henough, hshort⟩ := ih (hending.trans heof) (by rw [List.length_append]; omega)
    rw [List.length_append] at henough hshort
    refine ⟨fun hsize => ?_, fun hsize => ?_⟩
    · obtain ⟨socket', hread, hrest, heof'⟩ := henough (by omega)
      have hsplit : size - data.length =
          (byte :: chunk).length + (size - (data.length + (byte :: chunk).length)) := by omega
      refine ⟨socket', ?_, ?_, heof'⟩
      · rw [hread, hremaining, hsplit, List.take_length_add_append, List.append_assoc]
      · rw [hrest, hremaining, hsplit, List.drop_length_add_append]
    · rw [hshort (by omega), List.append_assoc, ← hremaining, hlength, Nat.add_assoc]
  | case5 data socket hfull =>
    have hzero : size - data.length = 0 := by omega
    refine ⟨fun _ => ⟨socket, ?_, ?_, heof⟩, fun hshort => ?_⟩
    · rw [hzero, List.take_zero, List.append_nil]
    · rw [hzero, List.drop_zero]
    · omega

section ReadExact

variable {socket : Socket} (size : ℕ) (description : String) (allowCleanEof : Bool)

theorem readExact_enough (heof : socket.ending = .eof) (h : size ≤ socket.remaining.length) :
    ∃ rest, readExact size description allowCleanEof socket =
        (.ok (socket.remaining.take size), rest) ∧
      rest.remaining = socket.remaining.drop size ∧ rest.ending = .eof := by
  have hnil : ([] : Bytes).length ≤ size := Nat.zero_le size
  have henough : size ≤ ([] : Bytes).length + socket.remaining.length := by
    rw [List.length_nil, Nat.zero_add]
    exact h
  obtain ⟨rest, hread, hrest, hending⟩ := (readLoop_eof heof hnil).1 henough
  exact ⟨rest, hread, hrest, hending⟩

theorem readExact_short (heof : socket.ending = .eof) (h : socket.remaining.length < size) :
    ∃ rest, readExact size description allowCleanEof socket =
      (if allowCleanEof && socket.remaining.isEmpty then .ok []
        else .error (truncated description socket.remaining.length size), rest) := by
  have hnil : ([] : Bytes).length ≤ size := Nat.zero_le size
  have hshort : ([] : Bytes).length + socket.remaining.length < size := by
    rw [List.length_nil, Nat.zero_add]
    exact h
  have hread : (readExact size description allowCleanEof socket).1 = _ :=
    (readLoop_eof heof hnil).2 hshort
  rw [List.length_nil, Nat.zero_add, List.nil_append] at hread
  exact ⟨_, Prod.ext hread rfl⟩

end ReadExact

/-! ## Yielding frames -/

/-- `frames`: complete frames until an EOF on a record boundary. -/
def frames (socket : Socket) : FrameStream :=
  match _h : readExact gatewayRecordSize "record" true socket with
  | (.error error, _) => ⟨[], some error⟩
  | (.ok [], _) => ⟨[], none⟩
  | (.ok (byte :: record), rest) =>
    match decodeGatewayRecord (byte :: record) with
    | .error error => ⟨[], some error⟩
    | .ok frame =>
      let later := frames rest
      ⟨frame :: later.yielded, later.raised⟩
termination_by socket.remaining.length
decreasing_by
  have hremaining := readLoop_remaining _h
  simp only [List.nil_append] at hremaining
  rw [hremaining, List.length_append, List.length_cons]
  omega

section Frames

variable {socket rest : Socket} {record : Bytes}

theorem frames_error {error : PyException}
    (h : readExact gatewayRecordSize "record" true socket = (.error error, rest)) :
    frames socket = ⟨[], some error⟩ := by
  rw [frames]
  split <;> simp_all

theorem frames_end (h : readExact gatewayRecordSize "record" true socket = (.ok [], rest)) :
    frames socket = ⟨[], none⟩ := by
  rw [frames]
  split <;> simp_all

theorem frames_frame {frame : RawCanFrame}
    (h : readExact gatewayRecordSize "record" true socket = (.ok record, rest))
    (hne : record ≠ []) (hdecode : decodeGatewayRecord record = .ok frame) :
    frames socket = ⟨frame :: (frames rest).yielded, (frames rest).raised⟩ := by
  obtain ⟨byte, tail, rfl⟩ := List.exists_cons_of_ne_nil hne
  rw [frames]
  split <;> simp_all

end Frames

/-! ## Records on the wire -/

/-- The two languages encode a frame alike: the C++ record of a valid frame is the backend's
record of the frame it observes. -/
theorem serializeGatewayRecord_eq_encodeRawCanRecord (frame : ValidCanFrame) :
    ∃ record, serializeGatewayRecord frame.val = .ok record ∧
      encodeRawCanRecord frame.rawCanFrame = .ok record := by
  have htime : ¬ 2 ^ 64 ≤ frame.rawCanFrame.timestampMicroseconds := by
    have hlt := frame.val.timestampMicroseconds.toNat_lt
    simp only [ValidCanFrame.rawCanFrame]
    omega
  have hlength : bigEndian 1 frame.rawCanFrame.payloadLength = [frame.val.payloadLength] := by
    have hdata : frame.rawCanFrame.payloadLength = frame.val.payloadLength.toNat :=
      CanFrame.length_data frame.property
    simp [hdata, bigEndian]
  refine ⟨_, serializeGatewayRecord_ok frame.property, ?_⟩
  rw [encodeRawCanRecord, if_neg htime, hlength]
  rfl

theorem decodeGatewayRecord_encode {frame : RawCanFrame} {record : Bytes}
    (h : encodeRawCanRecord frame = .ok record) : decodeGatewayRecord record = .ok frame := by
  simp only [decodeGatewayRecord, length_encodeRawCanRecord h, gatewayRecordSize, ne_eq,
    not_true_eq_false, ↓reduceIte, decode_encodeRawCanRecord h]

/-- The record of a valid frame. -/
def ValidCanFrame.record (frame : ValidCanFrame) : Bytes :=
  bigEndian 8 frame.val.timestampMicroseconds.toNat ++
    bigEndian 2 frame.val.arbitrationId.toNat ++ [frame.val.payloadLength] ++
    ljust 8 frame.val.data

theorem ValidCanFrame.serialize (frame : ValidCanFrame) :
    serializeGatewayRecord frame.val = .ok frame.record :=
  serializeGatewayRecord_ok frame.property

theorem ValidCanFrame.encode (frame : ValidCanFrame) :
    encodeRawCanRecord frame.rawCanFrame = .ok frame.record := by
  obtain ⟨record, hcpp, hpython⟩ := serializeGatewayRecord_eq_encodeRawCanRecord frame
  rw [frame.serialize] at hcpp
  cases hcpp
  exact hpython

theorem ValidCanFrame.length_record (frame : ValidCanFrame) : frame.record.length = 19 :=
  length_encodeRawCanRecord frame.encode

/-- On a stream of whole records and a part of one, the client yields the frames of the whole
records, then ends normally or reports the part it got. -/
theorem frames_of_records (sent : List ValidCanFrame) (tail : Bytes)
    (htail : tail.length < gatewayRecordSize) (socket : Socket) (heof : socket.ending = .eof)
    (hremaining : socket.remaining = (sent.map ValidCanFrame.record).flatten ++ tail) :
    frames socket =
      ⟨sent.map ValidCanFrame.rawCanFrame,
        if tail.isEmpty then none
        else some (truncated "record" tail.length gatewayRecordSize)⟩ := by
  induction sent generalizing socket with
  | nil =>
    simp only [List.map_nil, List.flatten_nil, List.nil_append] at hremaining
    obtain ⟨rest, hread⟩ := readExact_short gatewayRecordSize "record" true heof
      (by rwa [hremaining])
    rw [hremaining, Bool.true_and] at hread
    cases hempty : tail.isEmpty with
    | true =>
      rw [hempty, if_pos rfl] at hread
      exact frames_end hread
    | false =>
      rw [hempty, if_neg Bool.false_ne_true] at hread
      exact frames_error hread
  | cons frame later ih =>
    simp only [List.map_cons, List.flatten_cons, List.append_assoc] at hremaining
    have hlength : frame.record.length = gatewayRecordSize := frame.length_record
    obtain ⟨rest, hread, hrest, hrest_eof⟩ := readExact_enough gatewayRecordSize "record" true heof
      (by rw [hremaining, List.length_append, hlength]; exact Nat.le_add_right _ _)
    rw [hremaining, ← hlength, List.take_left] at hread
    rw [hremaining, ← hlength, List.drop_left] at hrest
    have hne : frame.record ≠ [] := by
      intro hnil
      rw [hnil] at hlength
      cases hlength
    rw [hlength] at hread
    rw [frames_frame hread hne (decodeGatewayRecord_encode frame.encode), ih rest hrest_eof hrest]
    rfl

/-! ## The stream of a server -/

/-- The bytes a server sends: the header, then one record for each frame. -/
def serverStream (sent : List ValidCanFrame) : Except CppException Bytes := do
  let records ← sent.mapM (fun frame => serializeGatewayRecord frame.val)
  return makeGatewayHeader ++ records.flatten

theorem serverStream_eq (sent : List ValidCanFrame) :
    serverStream sent = .ok (makeGatewayHeader ++ (sent.map ValidCanFrame.record).flatten) := by
  have hrecords : sent.mapM (fun frame => serializeGatewayRecord frame.val) =
      .ok (sent.map ValidCanFrame.record) := by
    induction sent with
    | nil => rfl
    | cons frame rest ih =>
      rw [List.mapM_cons, frame.serialize, ih]
      rfl
  rw [serverStream, hrecords]
  rfl

theorem create_short {socket : Socket} (heof : socket.ending = .eof)
    (hshort : socket.remaining.length < gatewayHeaderSize) :
    (RawCanGatewayClient.create socket).1 =
      .error (truncated "connection header" socket.remaining.length gatewayHeaderSize) := by
  obtain ⟨rest, hread⟩ := readExact_short gatewayHeaderSize "connection header" false heof hshort
  rw [Bool.false_and, if_neg Bool.false_ne_true] at hread
  rw [RawCanGatewayClient.create, hread]

theorem create_header {socket : Socket} (heof : socket.ending = .eof) {body : Bytes}
    (hremaining : socket.remaining = makeGatewayHeader ++ body) :
    ∃ client, RawCanGatewayClient.create socket = (.ok (), client) ∧
      client.connection.ending = .eof ∧ client.connection.remaining = body := by
  have hlength : makeGatewayHeader.length = gatewayHeaderSize := rfl
  obtain ⟨rest, hread, hrest, hrest_eof⟩ := readExact_enough gatewayHeaderSize
    "connection header" false heof
    (by rw [hremaining, List.length_append, hlength]; exact Nat.le_add_right _ _)
  rw [hremaining, ← hlength, List.take_left, hlength] at hread
  rw [hremaining, ← hlength, List.drop_left] at hrest
  have hdecode : decodeGatewayHeader makeGatewayHeader = .ok () := by decide
  refine ⟨⟨rest, false⟩, ?_, hrest_eof, hrest⟩
  simp only [RawCanGatewayClient.create, hread, hdecode]

/-- Over every list of valid frames, every cut of the server's stream and every segmentation of
what is before the cut: the client's constructor succeeds once the header is complete, and the
client yields the frame of every complete record, in order, then ends normally exactly on a
record boundary. The whole stream yields every frame. Both languages write the same records. -/
theorem gateway_stream_round_trip (sent : List ValidCanFrame) :
    (∀ frame ∈ sent, ∃ record, record.length = 19 ∧
      serializeGatewayRecord frame.val = .ok record ∧
      encodeRawCanRecord frame.rawCanFrame = .ok record) ∧
    ∃ stream, serverStream sent = .ok stream ∧ stream.length = 8 + 19 * sent.length ∧
    ∀ n ≤ stream.length, ∀ socket : Socket, socket.ending = .eof →
      socket.remaining = stream.take n →
    (n < 8 → ∃ error, error.cls = .gatewayProtocolError ∧
      (RawCanGatewayClient.create socket).1 = .error error) ∧
    (8 ≤ n → ∃ client, RawCanGatewayClient.create socket = (.ok (), client) ∧
      (frames client.connection).yielded =
        (sent.take ((n - 8) / 19)).map ValidCanFrame.rawCanFrame ∧
      ((n - 8) % 19 = 0 → (frames client.connection).raised = none) ∧
      ((n - 8) % 19 ≠ 0 → ∃ error, error.cls = .gatewayProtocolError ∧
        (frames client.connection).raised = some error) ∧
      (n = stream.length → frames client.connection =
        ⟨sent.map ValidCanFrame.rawCanFrame, none⟩)) := by
  have hrecords : ∀ record ∈ sent.map ValidCanFrame.record, record.length = 19 := by
    intro record hrecord
    obtain ⟨frame, -, rfl⟩ := List.mem_map.1 hrecord
    exact frame.length_record
  have hbody : (sent.map ValidCanFrame.record).flatten.length = 19 * sent.length := by
    rw [List.length_flatten, List.map_congr_left hrecords]
    simp [Nat.mul_comm]
  have hheader_length : makeGatewayHeader.length = 8 := rfl
  have htotal : (makeGatewayHeader ++ (sent.map ValidCanFrame.record).flatten).length =
      8 + 19 * sent.length := by
    rw [List.length_append, hbody, hheader_length]
  refine ⟨?_, _, serverStream_eq sent, htotal, ?_⟩
  · intro frame _
    exact ⟨frame.record, frame.length_record, frame.serialize, frame.encode⟩
  intro n hn socket heof hremaining
  refine ⟨?_, ?_⟩
  · intro hshort
    have hlength : socket.remaining.length = n := by
      rw [hremaining, List.length_take]
      exact min_eq_left hn
    exact ⟨_, rfl, create_short heof (by rw [hlength]; exact hshort)⟩
  · intro hheader
    obtain ⟨m, rfl⟩ := Nat.exists_eq_add_of_le hheader
    obtain ⟨tail, htail, htail_length⟩ := List.take_flatten_blocks (by omega : 0 < 19)
      (sent.map ValidCanFrame.record) hrecords m (by omega)
    rw [← hheader_length, List.take_length_add_append, htail, ← List.map_take] at hremaining
    obtain ⟨client, hcreate, hclient_eof, hclient⟩ := create_header heof hremaining
    have hshort : tail.length < gatewayRecordSize := by
      rw [htail_length]
      exact Nat.mod_lt m (by decide)
    have hframes := frames_of_records (sent.take (m / 19)) tail hshort client.connection
      hclient_eof hclient
    rw [Nat.add_sub_cancel_left]
    refine ⟨client, hcreate, by rw [hframes], ?_, ?_, ?_⟩
    · intro hboundary
      rw [hboundary] at htail_length
      rw [hframes, List.length_eq_zero_iff.1 htail_length]
      rfl
    · intro hpartial
      have hne : tail.isEmpty = false := by
        rw [List.isEmpty_eq_false_iff]
        intro hnil
        rw [hnil] at htail_length
        exact hpartial htail_length.symm
      rw [hframes, hne]
      exact ⟨_, rfl, rfl⟩
    · intro hwhole
      have hm : m = 19 * sent.length := by omega
      have hnil : tail = [] := by
        rw [hm, Nat.mul_mod_right] at htail_length
        exact List.length_eq_zero_iff.1 htail_length
      rw [hframes, hnil, hm, Nat.mul_div_cancel_left _ (by omega), List.take_length]
      rfl

end TunerOs
