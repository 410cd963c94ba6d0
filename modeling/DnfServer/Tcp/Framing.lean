import Mathlib.Algebra.Order.Ring.Nat
import DnfServer.Library.Framing
import DnfServer.Tcp.Packets

/-!
# Packets out of a stream

The receive buffer keeps the bytes it has handed out until it is worth moving the others. What
it answers depends on the bytes behind the read offset alone, the queue: there it looks for a
packet at the front. So the way in which a stream of packets is cut, and the compactions that
happen in between, do not show.
-/

namespace DnfServer.Tcp

open DnfServer.Library
set_option autoImplicit false

/-! ## The queue -/

/-- The first eight bytes. -/
def frontBytes (queue : List UInt8) : Vector UInt8 8 := Vector.ofFn fun i : Fin 8 => queue.getD i 0

/-- The next packet of a queue of bytes, and the bytes behind it. -/
def popFront (queue : List UInt8) : Except Failure (Option Packet) × List UInt8 :=
  if queue.length < packetHeaderSize.toNat then (.ok none, queue)
  else match decodeHeader (frontBytes queue) with
    | .error failure => (.error failure, queue)
    | .ok header =>
      if queue.length < header.packetSize.toNat then (.ok none, queue)
      else
        let payload := (queue.drop packetHeaderSize.toNat).take
          (header.packetSize.toNat - packetHeaderSize.toNat)
        (.ok (some { header, payload }), queue.drop header.packetSize.toNat)

theorem toList_frontBytes {queue : List UInt8} (h : packetHeaderSize.toNat ≤ queue.length) :
    (frontBytes queue).toList = queue.take packetHeaderSize.toNat := by
  have hsize : packetHeaderSize.toNat = 8 := rfl
  refine List.ext_getElem ?_ ?_
  · simp only [Vector.length_toList, List.length_take]
    omega
  · intro i hi hi'
    have hlt : i < queue.length := by
      simp only [Vector.length_toList] at hi
      omega
    simp [frontBytes, List.getElem?_eq_getElem hlt]

/-! ### A packet to send -/

/-- A packet with a payload that fits. -/
structure Message where
  type : PacketType
  requestId : UInt32
  payload : List UInt8
  fits : payload.length ≤ maxPayloadSize

namespace Message

def packet (message : Message) : Packet :=
  { header := headerOf message.type message.requestId message.payload, payload := message.payload }

/-- The bytes of a message, as `EncodePacket` returns them. -/
def bytes (message : Message) : List UInt8 :=
  match encodePacket message.type message.requestId message.payload with
  | .ok bytes => bytes
  | .error _ => []

theorem encodePacket_eq (message : Message) :
    encodePacket message.type message.requestId message.payload =
        .ok (headerBytes message.packet.header ++ message.payload) := by
  rcases encodePacket_cases message.type message.requestId message.payload with ⟨-, hok⟩ | ⟨hlong, -⟩
  · exact hok
  · exact absurd message.fits (Nat.not_le_of_lt hlong)

theorem bytes_eq (message : Message) :
    message.bytes = headerBytes message.packet.header ++ message.payload := by
  rw [bytes, message.encodePacket_eq]

theorem length_bytes (message : Message) :
    message.bytes.length = message.packet.header.packetSize.toNat := by
  rw [bytes_eq, packet, toNat_packetSize message.fits, List.length_append]
  rfl

theorem validSize (message : Message) : ValidSize message.packet.header.packetSize :=
  validSize_headerOf message.fits message.type message.requestId

end Message

/-- Enough bytes for a header that decodes to a packet size that is there too are the bytes
of a message. -/
theorem exists_message {queue : List UInt8} {header : PacketHeader}
    (hlength : packetHeaderSize.toNat ≤ queue.length)
    (hd : decodeHeader (frontBytes queue) = .ok header)
    (hsize : header.packetSize.toNat ≤ queue.length) :
    ∃ message : Message, message.bytes = queue.take header.packetSize.toNat ∧
      message.packet = ⟨header, (queue.drop packetHeaderSize.toNat).take
        (header.packetSize.toNat - packetHeaderSize.toNat)⟩ := by
  obtain ⟨⟨hmin, hmax⟩, hbytes⟩ := headerBytes_of_decodeHeader hd
  rw [UInt16.le_iff_toNat_le] at hmin hmax
  let payload := (queue.drop packetHeaderSize.toNat).take
    (header.packetSize.toNat - packetHeaderSize.toNat)
  have hpayload : payload.length = header.packetSize.toNat - packetHeaderSize.toNat := by
    simp only [payload, List.length_take, List.length_drop]
    omega
  have hfits : payload.length ≤ maxPayloadSize := by
    rw [hpayload, maxPayloadSize]
    omega
  have hheader : headerOf header.type header.requestId payload = header := by
    have hnat := toNat_packetSize hfits header.type header.requestId
    have heq : (headerOf header.type header.requestId payload).packetSize = header.packetSize := by
      refine UInt16.toNat_inj.mp ?_
      omega
    exact congrArg (fun packetSize => { header with packetSize }) heq
  refine ⟨⟨header.type, header.requestId, payload, hfits⟩, ?_, ?_⟩
  · simp only [Message.bytes_eq, Message.packet, hheader]
    rw [hbytes, toList_frontBytes hlength, ← List.take_add, Nat.add_sub_cancel' hmin]
  · simp only [Message.packet, hheader, payload]

/-- Either there is too little to answer, or the header is rejected, or the bytes of a message
are at the front. -/
theorem popFront_cases (queue : List UInt8) :
    popFront queue = (.ok none, queue) ∨ (∃ failure, popFront queue = (.error failure, queue)) ∨
      ∃ (message : Message) (rest : List UInt8), queue = message.bytes ++ rest ∧
        popFront queue = (.ok (some message.packet), rest) := by
  by_cases hshort : queue.length < packetHeaderSize.toNat
  · exact Or.inl (by rw [popFront, if_pos hshort])
  cases hd : decodeHeader (frontBytes queue) with
  | error failure => exact Or.inr (Or.inl ⟨failure, by rw [popFront, if_neg hshort, hd]⟩)
  | ok header =>
    by_cases hpart : queue.length < header.packetSize.toNat
    · exact Or.inl (by simp only [popFront, if_neg hshort, hd, if_pos hpart])
    · obtain ⟨message, hbytes, hpacket⟩ :=
        exists_message (Nat.not_lt.mp hshort) hd (Nat.not_lt.mp hpart)
      refine Or.inr (Or.inr ⟨message, queue.drop header.packetSize.toNat, ?_, ?_⟩)
      · rw [hbytes, List.take_append_drop]
      · simp only [popFront, if_neg hshort, hd, if_neg hpart, hpacket]

/-- A queue that starts with at least the header of a message decodes it. -/
theorem decodeHeader_front {message : Message} {queue : List UInt8}
    (h : packetHeaderSize.toNat ≤ queue.length)
    (hq : queue <+: message.bytes ∨ message.bytes <+: queue) :
    decodeHeader (frontBytes queue) = .ok message.packet.header := by
  refine decodeHeader_headerBytes message.validSize ?_
  have hheader : (headerBytes message.packet.header).length = packetHeaderSize.toNat := rfl
  have hfront : message.bytes.take packetHeaderSize.toNat = headerBytes message.packet.header := by
    rw [Message.bytes_eq, ← hheader, List.take_left]
  rw [toList_frontBytes h, ← hfront]
  rcases hq with ⟨rest, heq⟩ | ⟨rest, rfl⟩
  · rw [← heq, List.take_append_of_le_length h]
  · rw [List.take_append_of_le_length]
    rw [Message.bytes_eq, List.length_append, hheader]
    exact Nat.le_add_right _ _

/-- Packets are framed by their headers. -/
theorem frames_packets : Frames Message.packet Message.bytes popFront where
  empty := rfl
  whole message rest := by
    have hsize := message.length_bytes
    have hmin := UInt16.le_iff_toNat_le.mp message.validSize.1
    have hlength : (message.bytes ++ rest).length = message.packet.header.packetSize.toNat + rest.length := by
      rw [List.length_append, hsize]
    have hd := decodeHeader_front (by omega) (Or.inr (List.prefix_append message.bytes rest))
    have hpayload : ((message.bytes ++ rest).drop packetHeaderSize.toNat).take
        (message.packet.header.packetSize.toNat - packetHeaderSize.toNat) = message.payload := by
      have hheader : (headerBytes message.packet.header).length = packetHeaderSize.toNat := rfl
      have hleft : message.packet.header.packetSize.toNat - packetHeaderSize.toNat =
          message.payload.length := by
        rw [Message.bytes_eq, List.length_append, hheader] at hsize
        omega
      rw [hleft, Message.bytes_eq, List.append_assoc, ← hheader, List.drop_left, List.take_left]
    rw [popFront, if_neg (by omega), hd]
    simp only
    rw [if_neg (by omega), hpayload, ← hsize, List.drop_left]
    rfl
  part message queue hq hne := by
    have hlt : queue.length < message.bytes.length := by
      refine Nat.lt_of_le_of_ne hq.length_le ?_
      intro heq
      exact hne (hq.eq_of_length heq)
    rw [message.length_bytes] at hlt
    by_cases hshort : queue.length < packetHeaderSize.toNat
    · rw [popFront, if_pos hshort]
    · have hd := decodeHeader_front (Nat.not_lt.mp hshort) (Or.inl hq)
      rw [popFront, if_neg hshort, hd]
      simp only
      rw [if_pos hlt]

/-! ## The receive buffer -/

/-- The read offset stays in the buffer. -/
def Bounded (receiveBuffer : ReceiveBuffer) : Prop :=
  receiveBuffer.readOffset ≤ receiveBuffer.buffer.length

/-- The bytes not yet handed out. -/
def queueOf (receiveBuffer : ReceiveBuffer) : List UInt8 :=
  receiveBuffer.buffer.drop receiveBuffer.readOffset

/-- The buffer stands for the queue. -/
def Holds (receiveBuffer : ReceiveBuffer) (queue : List UInt8) : Prop :=
  Bounded receiveBuffer ∧ queueOf receiveBuffer = queue

theorem size_eq (receiveBuffer : ReceiveBuffer) :
    receiveBuffer.size = (queueOf receiveBuffer).length := by
  rw [ReceiveBuffer.size, queueOf, List.length_drop]

theorem holds_compactIfNeeded {receiveBuffer : ReceiveBuffer} {queue : List UInt8}
    (h : Holds receiveBuffer queue) : Holds receiveBuffer.compactIfNeeded queue := by
  unfold ReceiveBuffer.compactIfNeeded
  split
  · exact h
  · exact ⟨Nat.zero_le _, h.2⟩

theorem holds_append {receiveBuffer : ReceiveBuffer} {queue : List UInt8}
    (h : Holds receiveBuffer queue) (data : List UInt8) :
    Holds (receiveBuffer.append data) (queue ++ data) := by
  obtain ⟨hbounded, rfl⟩ := holds_compactIfNeeded h
  refine ⟨?_, ?_⟩
  · simp only [Bounded, ReceiveBuffer.append, List.length_append] at hbounded ⊢
    omega
  · simp only [queueOf, ReceiveBuffer.append]
    rw [List.drop_append_of_le_length hbounded]

/-- The buffer answers what the queue answers. -/
theorem holds_tryPop {receiveBuffer : ReceiveBuffer} {queue : List UInt8}
    (h : Holds receiveBuffer queue) :
    receiveBuffer.tryPop.1 = (popFront queue).1 ∧ Holds receiveBuffer.tryPop.2 (popFront queue).2 := by
  obtain ⟨hbounded, rfl⟩ := h
  have hfront : (Vector.ofFn fun i : Fin 8 =>
      receiveBuffer.buffer.getD (receiveBuffer.readOffset + i) 0) =
      frontBytes (queueOf receiveBuffer) := by
    simp only [frontBytes, queueOf, List.getD_eq_getElem?_getD, List.getElem?_drop]
  have hlength : receiveBuffer.buffer.length =
      receiveBuffer.readOffset + (queueOf receiveBuffer).length := by
    simp only [queueOf, List.length_drop, Bounded] at hbounded ⊢
    omega
  simp only [ReceiveBuffer.tryPop, popFront, hfront, size_eq]
  split
  · exact ⟨rfl, hbounded, rfl⟩
  cases hd : decodeHeader (frontBytes (queueOf receiveBuffer)) with
  | error failure => exact ⟨rfl, hbounded, rfl⟩
  | ok header =>
    simp only
    split
    · exact ⟨rfl, hbounded, rfl⟩
    rename_i hpart
    refine ⟨by simp only [queueOf, List.drop_drop], ?_⟩
    split
    · -- the packet was the last one, and the buffer starts over
      rename_i hlast
      have hall : (queueOf receiveBuffer).length ≤ header.packetSize.toNat := by omega
      refine ⟨Nat.le_refl _, ?_⟩
      simp only [List.drop_of_length_le hall]
      rfl
    · refine ⟨?_, ?_⟩
      · simp only [Bounded]
        omega
      · simp only [queueOf, List.drop_drop]

/-- A call that returns no packet, or throws, leaves the buffer as it is. -/
theorem tryPop_unchanged {receiveBuffer : ReceiveBuffer}
    (h : ∀ packet : Packet, receiveBuffer.tryPop.1 ≠ .ok (some packet)) :
    receiveBuffer.tryPop.2 = receiveBuffer := by
  simp only [ReceiveBuffer.tryPop] at h ⊢
  split
  · rfl
  rename_i hshort
  rw [if_neg hshort] at h
  split
  · rfl
  rename_i header hd
  simp only [hd] at h
  split
  · rfl
  · rename_i hpart
    rw [if_neg hpart] at h
    exact absurd rfl (h _)

/-! ## Runs -/

abbrev Answer := Except Failure (Option Packet)

/-- The receive buffer as a reader. -/
abbrev bufferNext : Reader ReceiveBuffer UInt8 Answer → StreamOp UInt8 →
    Option (Reader ReceiveBuffer UInt8 Answer) :=
  Reader.next ReceiveBuffer.append ReceiveBuffer.tryPop

/-- The buffer and the queue after the same calls. -/
abbrev Mirrored := @Reader.Related ReceiveBuffer (List UInt8) UInt8 Answer Answer Answer Holds id id

theorem run_mirrored {ops : List (StreamOp UInt8)} {reader last : Reader ReceiveBuffer UInt8 Answer}
    {queueReader : Reader (List UInt8) UInt8 Answer} (h : Mirrored reader queueReader)
    (hr : run bufferNext reader ops = some last) :
    ∃ queueLast, run (Frames.next popFront) queueReader ops = some queueLast ∧
      Mirrored last queueLast := by
  obtain ⟨queueLast, hrun⟩ := Reader.run_isSome ops queueReader
  refine ⟨queueLast, hrun, Reader.run_related ?_ ?_ h hr hrun⟩
  · exact fun data receiveBuffer queue hholds => holds_append hholds data
  · exact fun receiveBuffer queue hholds => holds_tryPop hholds

/-- The bytes of the packets that have come out. -/
def poppedBytes (answers : List Answer) : Nat :=
  ((framesOf answers).map fun packet => packet.header.packetSize.toNat).sum

theorem poppedBytes_append (answers : List Answer) (answer : Answer) :
    poppedBytes (answers ++ [answer]) = poppedBytes answers + poppedBytes [answer] := by
  simp [poppedBytes, framesOf]

/-- What went in has come out or is still there, whatever the bytes are. -/
theorem length_queue_of_run {ops : List (StreamOp UInt8)} {reader : Reader (List UInt8) UInt8 Answer}
    (hr : run (Frames.next popFront) ⟨[], [], []⟩ ops = some reader) :
    reader.state.length + poppedBytes reader.answers = reader.appended.length := by
  refine reachable_invariant
    (fun reader => reader.state.length + poppedBytes reader.answers = reader.appended.length)
    ?_ rfl ⟨ops, hr⟩
  intro reader op reader' h hn
  cases op with
  | append data =>
    obtain rfl := Option.some.inj hn
    simp only [List.length_append]
    omega
  | pop =>
    obtain rfl := Option.some.inj hn
    rw [poppedBytes_append]
    rcases popFront_cases reader.state with hnone | ⟨failure, herror⟩ | ⟨message, rest, hq, hsome⟩
    · rw [hnone]
      exact h
    · rw [herror]
      exact h
    · have hone : poppedBytes [.ok (some message.packet)] = message.bytes.length := by
        rw [message.length_bytes]
        simp [poppedBytes, framesOf]
      rw [hq, List.length_append] at h
      rw [hsome, hone]
      simp only
      omega

/-- What a call of `TryPop` does, whatever the bytes are. -/
def Answers (receiveBuffer : ReceiveBuffer) : Prop :=
  receiveBuffer.tryPop = (.ok none, receiveBuffer) ∨
    (∃ failure, receiveBuffer.tryPop = (.error failure, receiveBuffer)) ∨
    ∃ message : Message, receiveBuffer.tryPop.1 = .ok (some message.packet) ∧
      queueOf receiveBuffer = message.bytes ++ queueOf receiveBuffer.tryPop.2

theorem answers_of_holds {receiveBuffer : ReceiveBuffer} {queue : List UInt8}
    (h : Holds receiveBuffer queue) : Answers receiveBuffer := by
  obtain ⟨hanswer, -, hqueue⟩ := holds_tryPop h
  rcases popFront_cases queue with hnone | ⟨failure, herror⟩ | ⟨message, rest, hq, hsome⟩
  · rw [hnone] at hanswer
    refine Or.inl (Prod.ext hanswer (tryPop_unchanged ?_))
    intro packet hpacket
    rw [hanswer] at hpacket
    cases hpacket
  · rw [herror] at hanswer
    refine Or.inr (Or.inl ⟨failure, Prod.ext hanswer (tryPop_unchanged ?_)⟩)
    intro packet hpacket
    rw [hanswer] at hpacket
    cases hpacket
  · rw [hsome] at hanswer hqueue
    refine Or.inr (Or.inr ⟨message, hanswer, ?_⟩)
    rw [hqueue, h.2, hq]

/-- All packets are out, and there is nothing left to wait for. -/
def Drained (messages : List Message) (reader : Reader ReceiveBuffer UInt8 Answer) : Prop :=
  framesOf reader.answers = messages.map Message.packet ∧
    reader.state.tryPop = (.ok none, reader.state) ∧ reader.state.size = 0

theorem drained_of_following {messages : List Message} {reader : Reader ReceiveBuffer UInt8 Answer}
    {queueReader : Reader (List UInt8) UInt8 Answer} (hm : Mirrored reader queueReader)
    (hf : Frames.Following Message.packet Message.bytes messages [] queueReader)
    (hall : queueReader.appended = messages.flatMap Message.bytes) : Drained messages reader := by
  have hempty : queueReader.state = [] := hf.state_eq (by rw [List.append_nil, hall])
  have hanswers : reader.answers = queueReader.answers := by
    simpa using hm.answers
  have hholds := hm.state
  rw [hempty] at hholds
  refine ⟨?_, ?_, ?_⟩
  · rw [hanswers, hf.answers]
  · have hnone : reader.state.tryPop.1 = .ok none := (holds_tryPop hholds).1
    refine Prod.ext hnone (tryPop_unchanged ?_)
    intro packet hpacket
    rw [hnone] at hpacket
    cases hpacket
  · rw [size_eq, hholds.2]
    rfl

/-- For every sequence of calls: the size is what went in less what came out, and a call returns
the packet at the front or changes nothing. When the bytes are those of a list of packets,
however cut, the packets come out in order; when all of them are in, calling until nothing
comes out returns all of them and empties the buffer. -/
theorem packets_framed {ops : List (StreamOp UInt8)} {reader : Reader ReceiveBuffer UInt8 Answer}
    (hr : run bufferNext ⟨{}, [], []⟩ ops = some reader) :
    reader.state.size + poppedBytes reader.answers = reader.appended.length ∧
    Answers reader.state ∧
    ∀ messages : List Message,
      (∀ message ∈ messages,
        encodePacket message.type message.requestId message.payload = .ok message.bytes) ∧
      (reader.appended <+: messages.flatMap Message.bytes →
        (∀ answer ∈ reader.answers, ∃ found, answer = .ok found) ∧
        framesOf reader.answers <+: messages.map Message.packet) ∧
      (reader.appended = messages.flatMap Message.bytes →
        (reader.state.tryPop.1 = .ok none → Drained messages reader) ∧
        ∃ (calls : Nat) (last : Reader ReceiveBuffer UInt8 Answer),
          run bufferNext reader (List.replicate calls .pop) = some last ∧
            Drained messages last) := by
  have hstart : Mirrored ⟨{}, [], []⟩ ⟨[], [], []⟩ := ⟨⟨Nat.le_refl _, rfl⟩, rfl, rfl⟩
  obtain ⟨queueReader, hrun, hm⟩ := run_mirrored hstart hr
  have hanswers : reader.answers = queueReader.answers := by
    simpa using hm.answers
  refine ⟨?_, answers_of_holds hm.state, ?_⟩
  · have hlength := length_queue_of_run hrun
    rw [size_eq, hm.state.2, hanswers, hm.appended, hlength]
  intro messages
  refine ⟨fun message _ => message.bytes_eq ▸ message.encodePacket_eq, ?_, ?_⟩
  · intro hb
    rw [hm.appended] at hb
    obtain ⟨sent, rest, rfl, hf⟩ := frames_packets.following_of_run hrun hb
    rw [hanswers, hf.answers, List.map_append]
    exact ⟨hf.accepted, List.prefix_append _ _⟩
  · intro hall
    rw [hm.appended] at hall
    have hb : queueReader.appended <+: messages.flatMap Message.bytes := hall ▸ List.prefix_rfl
    obtain ⟨sent, rest, rfl, hf⟩ := frames_packets.following_of_run hrun hb
    refine ⟨?_, ?_⟩
    · intro hnone
      rw [(holds_tryPop hm.state).1] at hnone
      obtain rfl := frames_packets.rest_eq_nil hf hall hnone
      rw [List.append_nil] at hall ⊢
      exact drained_of_following hm hf hall
    · obtain ⟨queueLast, hpops, hlast, hallLast⟩ := frames_packets.run_pops hf hall
      obtain ⟨last, hlastRun⟩ := Reader.run_isSome (List.replicate rest.length .pop) reader
      refine ⟨rest.length, last, hlastRun, ?_⟩
      obtain ⟨queueLast', hpops', hmLast⟩ := run_mirrored hm hlastRun
      obtain rfl := Option.some.inj (hpops.symm.trans hpops')
      exact drained_of_following hmLast hlast hallLast

/-- A login request with two bytes of payload and a channel list request without. -/
def sampleMessages : List Message :=
  [⟨.loginRequest, 1, [79, 75], by decide⟩, ⟨.channelListRequest, 10, [], by decide⟩]

/-- The first request is cut after five bytes, and its end comes with the second one. -/
def sampleCalls : List (StreamOp UInt8) :=
  [.append [0, 10, 0, 1, 0], .pop, .append [0, 0, 1, 79, 75, 0, 8, 0, 2, 0, 0, 0, 10], .pop, .pop, .pop]

theorem packets_framed_sampleCalls :
    ∃ reader : Reader ReceiveBuffer UInt8 Answer,
      run bufferNext ⟨{}, [], []⟩ sampleCalls = some reader ∧
      reader.appended = sampleMessages.flatMap Message.bytes ∧ Drained sampleMessages reader := by
  obtain ⟨reader, hr⟩ : ∃ reader, run bufferNext ⟨{}, [], []⟩ sampleCalls = some reader :=
    Option.isSome_iff_exists.mp (by decide)
  have hall : reader.appended = sampleMessages.flatMap Message.bytes := by
    cases hr
    decide
  have hnone : reader.state.tryPop.1 = .ok none := by
    cases hr
    rfl
  exact ⟨reader, hr, hall, ((packets_framed hr).2.2 sampleMessages).2.2 hall |>.1 hnone⟩

end DnfServer.Tcp
