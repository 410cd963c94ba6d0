import DnfServer.Model.TcpClient
import DnfServer.Tcp.Framing

/-!
# The two receive buffers

The server moves a read offset through its buffer, the client takes a packet out of its list;
each has its own table of packet types. Seen from outside they are one queue: the same calls
with the same bytes have the same outcome on both sides.
-/

namespace DnfServer.Tcp

open DnfServer.Library
set_option autoImplicit false

/-- What a caller of `TryPop` sees on either side. -/
inductive Outcome where
  | noPacket
  | packet (packetSize type : UInt16) (requestId : UInt32) (payload : List UInt8)
  | rejected
  deriving DecidableEq, Repr

def serverOutcome : Answer → Outcome
  | .ok none => .noPacket
  | .ok (some packet) =>
    .packet packet.header.packetSize packet.header.type.code packet.header.requestId packet.payload
  | .error _ => .rejected

abbrev ClientAnswer := Except Client.Failure (Option Client.TcpPacket)

def clientOutcome : ClientAnswer → Outcome
  | .ok none => .noPacket
  | .ok (some packet) =>
    .packet packet.header.packetSize packet.header.type.value packet.header.requestId packet.payload
  | .error _ => .rejected

/-- The client's buffer as a reader. -/
abbrev clientNext : Reader Client.TcpReceiveBuffer UInt8 ClientAnswer → StreamOp UInt8 →
    Option (Reader Client.TcpReceiveBuffer UInt8 ClientAnswer) :=
  Reader.next Client.TcpReceiveBuffer.append Client.TcpReceiveBuffer.tryPop

/-! ## The tables -/

theorem isDefined_eq (type : UInt16) : Client.TcpPacketType.isDefined type = isValidPacketType type := by
  have hclient : Client.TcpPacketType.isDefined type =
      (Client.TcpPacketType.members.map (·.2)).any (· = type) := by
    rw [Client.TcpPacketType.isDefined, List.any_map]
    rfl
  have hserver : isValidPacketType type = (PacketType.valid.map (·.code)).any (type = ·) := by
    rw [isValidPacketType, List.any_map]
    rfl
  -- both tables list the same numbers
  have htables : Client.TcpPacketType.members.map (·.2) = PacketType.valid.map (·.code) := rfl
  simp only [hclient, hserver, htables, eq_comm]

theorem value_of_ofValue {value : UInt16} {type : Client.TcpPacketType}
    (h : Client.TcpPacketType.ofValue value = some type) : type.value = value := by
  have htable : ∀ member ∈ Client.TcpPacketType.members, member.1.value = member.2 := by decide
  obtain ⟨member, hfind, rfl⟩ := Option.map_eq_some_iff.mp h
  have hvalue := List.find?_some hfind
  rw [htable member (List.mem_of_find?_eq_some hfind)]
  simpa using hvalue

theorem exists_ofValue {value : UInt16} (h : Client.TcpPacketType.isDefined value = true) :
    ∃ type, Client.TcpPacketType.ofValue value = some type := by
  obtain ⟨member, hm, heq⟩ := List.any_eq_true.mp h
  have hsome : (Client.TcpPacketType.members.find? (·.2 = value)).isSome :=
    List.find?_isSome.mpr ⟨member, hm, heq⟩
  obtain ⟨found, hfound⟩ := Option.isSome_iff_exists.mp hsome
  exact ⟨found.1, congrArg (Option.map Prod.fst) hfound⟩

/-! ## Headers -/

theorem clientValidateHeader_cases (packetSize type : UInt16) :
    (ValidSize packetSize ∧ isValidPacketType type = true ∧
        Client.TcpPacketCodec.validateHeader packetSize type = .ok ()) ∨
      ¬ (ValidSize packetSize ∧ isValidPacketType type = true) ∧
        ∃ failure, Client.TcpPacketCodec.validateHeader packetSize type = .error failure := by
  have hsize : ValidSize packetSize ↔ ¬ (packetSize.toNat < Client.TcpPacketCodec.headerSize ∨
      packetSize.toNat > Client.TcpPacketCodec.maxPacketSize) := by
    rw [not_or, Nat.not_lt, Nat.not_lt, ValidSize, UInt16.le_iff_toNat_le, UInt16.le_iff_toNat_le]
    rfl
  rw [hsize, ← isDefined_eq]
  unfold Client.TcpPacketCodec.validateHeader
  by_cases hbad : packetSize.toNat < Client.TcpPacketCodec.headerSize ∨
      packetSize.toNat > Client.TcpPacketCodec.maxPacketSize
  · exact Or.inr ⟨fun hvalid => hvalid.1 hbad, by rw [if_pos hbad]; exact ⟨_, rfl⟩⟩
  rw [if_neg hbad]
  by_cases htype : Client.TcpPacketType.isDefined type = true
  · exact Or.inl ⟨hbad, htype, by rw [if_neg (not_not.mpr htype)]⟩
  · exact Or.inr ⟨fun hvalid => htype hvalid.2, by rw [if_pos htype]; exact ⟨_, rfl⟩⟩

/-- Both validators accept the same sizes and types. -/
theorem validateHeader_iff (packetSize type : UInt16) :
    validateHeader packetSize type = .ok () ↔
      Client.TcpPacketCodec.validateHeader packetSize type = .ok () := by
  rcases validateHeader_cases packetSize type with ⟨hs, ht, hok⟩ | ⟨hbad, failure, herror⟩ <;>
    rcases clientValidateHeader_cases packetSize type with ⟨hs', ht', hok'⟩ | ⟨hbad', failure', herror'⟩
  · simp [hok, hok']
  · exact absurd ⟨hs, ht⟩ hbad'
  · exact absurd ⟨hs', ht'⟩ hbad
  · simp [herror, herror']

/-- The header of a packet, in numbers. -/
def headerNumbers (header : PacketHeader) : UInt16 × UInt16 × UInt32 :=
  (header.packetSize, header.type.code, header.requestId)

def clientHeaderNumbers (header : Client.TcpPacketHeader) : UInt16 × UInt16 × UInt32 :=
  (header.packetSize, header.type.value, header.requestId)

/-- Both sides read the same numbers out of the eight bytes, or both reject them. -/
theorem decodeHeader_mirrored (bytes : Vector UInt8 8) :
    (∃ (header : PacketHeader) (clientHeader : Client.TcpPacketHeader),
      decodeHeader bytes = .ok header ∧
        Client.TcpPacketCodec.decodeHeader bytes.toList = .ok clientHeader ∧
        headerNumbers header = clientHeaderNumbers clientHeader) ∨
    ∃ (failure : Failure) (clientFailure : Client.Failure), decodeHeader bytes = .error failure ∧
      Client.TcpPacketCodec.decodeHeader bytes.toList = .error clientFailure := by
  obtain ⟨b0, b1, b2, b3, b4, b5, b6, b7, rfl⟩ := exists_bytes bytes
  have hlist : #v[b0, b1, b2, b3, b4, b5, b6, b7].toList = [b0, b1, b2, b3, b4, b5, b6, b7] := rfl
  rw [hlist]
  rcases decodeHeader_cases b0 b1 b2 b3 b4 b5 b6 b7 with
      ⟨header, hok, hs, hsize, htype, hrequestId⟩ | ⟨hbad, failure, herror⟩ <;>
    rcases clientValidateHeader_cases (readUInt16 b0 b1) (readUInt16 b2 b3) with
      ⟨hs', ht', hok'⟩ | ⟨hbad', failure', herror'⟩
  · obtain ⟨type, hof⟩ := exists_ofValue ((isDefined_eq _).trans ht')
    refine Or.inl ⟨header, ⟨readUInt16 b0 b1, type, readUInt32 b4 b5 b6 b7⟩, hok, ?_, ?_⟩
    · simp only [Client.TcpPacketCodec.decodeHeader, hok', hof]
    rw [headerNumbers, clientHeaderNumbers, hsize, htype, hrequestId, value_of_ofValue hof]
  · refine absurd ⟨hsize ▸ hs, ?_⟩ hbad'
    rw [← htype]
    exact isValidPacketType_code header.type
  · exact absurd ⟨hs', ht'⟩ hbad
  · refine Or.inr ⟨failure, failure', herror, ?_⟩
    simp only [Client.TcpPacketCodec.decodeHeader, herror']

/-! ## Calls -/

/-- The server's buffer stands for the bytes in the client's. -/
def SameBytes (receiveBuffer : ReceiveBuffer) (clientBuffer : Client.TcpReceiveBuffer) : Prop :=
  Holds receiveBuffer clientBuffer.buffer

/-- The queue and the client's list have the same outcome. -/
theorem popFront_mirrored (clientBuffer : Client.TcpReceiveBuffer) :
    serverOutcome (popFront clientBuffer.buffer).1 = clientOutcome clientBuffer.tryPop.1 ∧
      (popFront clientBuffer.buffer).2 = clientBuffer.tryPop.2.buffer := by
  have hsize : Client.TcpPacketCodec.headerSize = packetHeaderSize.toNat := rfl
  unfold popFront Client.TcpReceiveBuffer.tryPop Client.TcpReceiveBuffer.size
  rw [hsize]
  by_cases hshort : clientBuffer.buffer.length < packetHeaderSize.toNat
  · rw [if_pos hshort, if_pos hshort]
    exact ⟨rfl, rfl⟩
  rw [if_neg hshort, if_neg hshort]
  have hfront : Client.TcpReceiveBuffer.getRange 0 packetHeaderSize.toNat clientBuffer.buffer =
      (frontBytes clientBuffer.buffer).toList := by
    rw [toList_frontBytes (Nat.not_lt.mp hshort)]
    rfl
  simp only [hfront]
  rcases decodeHeader_mirrored (frontBytes clientBuffer.buffer) with
    ⟨header, clientHeader, hok, hok', hnumbers⟩ | ⟨failure, clientFailure, herror, herror'⟩
  · simp only [headerNumbers, clientHeaderNumbers, Prod.mk.injEq] at hnumbers
    obtain ⟨hpacketSize, htype, hrequestId⟩ := hnumbers
    rw [hok, hok']
    simp only [hpacketSize]
    split
    · exact ⟨rfl, rfl⟩
    · simp [serverOutcome, clientOutcome, hpacketSize, htype, hrequestId,
        Client.TcpReceiveBuffer.getRange, Client.TcpReceiveBuffer.removeRange]
  · rw [herror, herror']
    exact ⟨rfl, rfl⟩

/-- For every sequence of calls with any bytes, from empty buffers: each call of `TryPop` has the
same outcome on both sides and the sizes agree; both validators accept the same headers. -/
theorem buffers_mirrored {ops : List (StreamOp UInt8)} {reader : Reader ReceiveBuffer UInt8 Answer}
    {clientReader : Reader Client.TcpReceiveBuffer UInt8 ClientAnswer}
    (hr : run bufferNext ⟨{}, [], []⟩ ops = some reader)
    (hc : run clientNext ⟨{}, [], []⟩ ops = some clientReader) :
    reader.answers.map serverOutcome = clientReader.answers.map clientOutcome ∧
      reader.state.size = clientReader.state.size ∧
      ∀ packetSize type : UInt16, validateHeader packetSize type = .ok () ↔
        Client.TcpPacketCodec.validateHeader packetSize type = .ok () := by
  have hstart : Reader.Related SameBytes serverOutcome clientOutcome
      (⟨{}, [], []⟩ : Reader ReceiveBuffer UInt8 Answer)
      (⟨{}, [], []⟩ : Reader Client.TcpReceiveBuffer UInt8 ClientAnswer) :=
    ⟨⟨Nat.le_refl _, rfl⟩, rfl, rfl⟩
  have hrelated := Reader.run_related ?_ ?_ hstart hr hc
  · refine ⟨hrelated.answers, ?_, validateHeader_iff⟩
    rw [size_eq, hrelated.state.2]
    rfl
  · exact fun data receiveBuffer clientBuffer h => holds_append h data
  · intro receiveBuffer clientBuffer h
    obtain ⟨hanswer, hholds⟩ := holds_tryPop h
    obtain ⟨houtcome, hbytes⟩ := popFront_mirrored clientBuffer
    rw [hbytes] at hholds
    exact ⟨by rw [hanswer, houtcome], hholds⟩

/-- A packet in two pieces, and then one whose size is that of no header. -/
def malformedCalls : List (StreamOp UInt8) :=
  [.append [0, 9, 0, 2, 0, 0, 0], .pop, .append [7, 65, 0, 7, 0, 1, 0, 0, 0, 1], .pop, .pop, .pop]

theorem buffers_mirrored_malformedCalls :
    ∃ (reader : Reader ReceiveBuffer UInt8 Answer)
      (clientReader : Reader Client.TcpReceiveBuffer UInt8 ClientAnswer),
      run bufferNext ⟨{}, [], []⟩ malformedCalls = some reader ∧
      run clientNext ⟨{}, [], []⟩ malformedCalls = some clientReader ∧
      clientReader.answers.map clientOutcome = [.noPacket, .packet 9 2 7 [65], .rejected, .rejected] ∧
      reader.answers.map serverOutcome = clientReader.answers.map clientOutcome ∧
      reader.state.size = clientReader.state.size := by
  obtain ⟨reader, hr⟩ : ∃ reader, run bufferNext ⟨{}, [], []⟩ malformedCalls = some reader :=
    Option.isSome_iff_exists.mp (by decide)
  obtain ⟨clientReader, hc⟩ :
      ∃ clientReader, run clientNext ⟨{}, [], []⟩ malformedCalls = some clientReader :=
    Option.isSome_iff_exists.mp (by decide)
  obtain ⟨houtcomes, hsizes, -⟩ := buffers_mirrored hr hc
  refine ⟨reader, clientReader, hr, hc, ?_, houtcomes, hsizes⟩
  cases hc
  decide

end DnfServer.Tcp
