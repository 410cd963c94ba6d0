import DnfServer.Library.BigEndian
import DnfServer.Model.Packet

/-!
# Packets as byte strings

The header of a packet is decoded from its bytes, and a packet is encoded exactly when it fits
the largest packet size.
-/

namespace DnfServer.Tcp

open DnfServer.Library
set_option autoImplicit false

/-- The longest payload that fits a packet. -/
def maxPayloadSize : Nat := maxPacketSize.toNat - packetHeaderSize.toNat

theorem mem_valid (type : PacketType) : type ∈ PacketType.valid := by
  cases type <;> decide

theorem isValidPacketType_code (type : PacketType) : isValidPacketType type.code = true :=
  List.any_eq_true.mpr ⟨type, mem_valid type, by simp⟩

theorem ofCode_code (type : PacketType) : PacketType.ofCode type.code = some type := by
  cases type <;> decide

/-- The eight bytes of a header. -/
def headerBytes (header : PacketHeader) : List UInt8 :=
  [(header.packetSize >>> 8).toUInt8, header.packetSize.toUInt8,
    (header.type.code >>> 8).toUInt8, header.type.code.toUInt8,
    (header.requestId >>> 24).toUInt8, (header.requestId >>> 16).toUInt8,
    (header.requestId >>> 8).toUInt8, header.requestId.toUInt8]

/-- The size is that of a packet. -/
def ValidSize (packetSize : UInt16) : Prop := packetHeaderSize ≤ packetSize ∧ packetSize ≤ maxPacketSize

theorem validateHeader_ok {packetSize type : UInt16} (hs : ValidSize packetSize)
    (ht : isValidPacketType type = true) : validateHeader packetSize type = .ok () := by
  unfold validateHeader
  rw [if_neg, if_neg]
  · simp [ht]
  · simp only [not_or, UInt16.not_lt]
    exact hs

theorem encodeHeader_ok {header : PacketHeader} (hs : ValidSize header.packetSize) :
    encodeHeader header = .ok (headerBytes header) := by
  rw [encodeHeader, validateHeader_ok hs (isValidPacketType_code header.type)]
  rfl

theorem validateHeader_cases (packetSize type : UInt16) :
    (ValidSize packetSize ∧ isValidPacketType type = true ∧ validateHeader packetSize type = .ok ()) ∨
      ¬ (ValidSize packetSize ∧ isValidPacketType type = true) ∧
        ∃ failure, validateHeader packetSize type = .error failure := by
  by_cases hvalid : ValidSize packetSize ∧ isValidPacketType type = true
  · exact Or.inl ⟨hvalid.1, hvalid.2, validateHeader_ok hvalid.1 hvalid.2⟩
  · refine Or.inr ⟨hvalid, ?_⟩
    unfold validateHeader
    split
    · exact ⟨_, rfl⟩
    rename_i hsize
    split
    · exact ⟨_, rfl⟩
    rename_i htype
    simp only [not_or, UInt16.not_lt] at hsize
    exact absurd ⟨hsize, not_not.mp htype⟩ hvalid

/-! ## Decoding -/

theorem ofCode_of_valid {type : UInt16} (h : isValidPacketType type = true) :
    ∃ packetType : PacketType, PacketType.ofCode type = some packetType ∧ packetType.code = type := by
  obtain ⟨packetType, -, heq⟩ := List.any_eq_true.mp h
  obtain rfl := of_decide_eq_true heq
  exact ⟨packetType, ofCode_code packetType, rfl⟩

theorem exists_bytes (bytes : Vector UInt8 8) :
    ∃ b0 b1 b2 b3 b4 b5 b6 b7 : UInt8, bytes = #v[b0, b1, b2, b3, b4, b5, b6, b7] := by
  obtain ⟨⟨list⟩, hlength⟩ := bytes
  match list, hlength with
  | [b0, b1, b2, b3, b4, b5, b6, b7], _ => exact ⟨b0, b1, b2, b3, b4, b5, b6, b7, rfl⟩

/-- The eight bytes are a header with a valid size and a valid type, or they are rejected. -/
theorem decodeHeader_cases (b0 b1 b2 b3 b4 b5 b6 b7 : UInt8) :
    (∃ header : PacketHeader, decodeHeader #v[b0, b1, b2, b3, b4, b5, b6, b7] = .ok header ∧
        ValidSize header.packetSize ∧ header.packetSize = readUInt16 b0 b1 ∧
        header.type.code = readUInt16 b2 b3 ∧ header.requestId = readUInt32 b4 b5 b6 b7) ∨
      ¬ (ValidSize (readUInt16 b0 b1) ∧ isValidPacketType (readUInt16 b2 b3) = true) ∧
        ∃ failure, decodeHeader #v[b0, b1, b2, b3, b4, b5, b6, b7] = .error failure := by
  rcases validateHeader_cases (readUInt16 b0 b1) (readUInt16 b2 b3) with
    ⟨hsize, htype, hok⟩ | ⟨hinvalid, failure, herror⟩
  · obtain ⟨packetType, hof, hcode⟩ := ofCode_of_valid htype
    refine Or.inl
      ⟨⟨readUInt16 b0 b1, packetType, readUInt32 b4 b5 b6 b7⟩, ?_, hsize, rfl, hcode, rfl⟩
    simp only [decodeHeader]
    split
    · rename_i herror
      cases hok.symm.trans herror
    · rename_i hof'
      cases hof.symm.trans hof'
      rfl
    · rename_i hof'
      cases hof.symm.trans hof'
  · refine Or.inr ⟨hinvalid, failure, ?_⟩
    simp only [decodeHeader]
    split
    · rename_i herror'
      cases herror.symm.trans herror'
      rfl
    · rename_i hok _
      cases herror.symm.trans hok
    · rename_i hok _
      cases herror.symm.trans hok

theorem code_injective {type type' : PacketType} (h : type.code = type'.code) : type = type' := by
  have heq := ofCode_code type
  rw [h, ofCode_code type'] at heq
  exact (Option.some.inj heq).symm

theorem decodeHeader_headerBytes {header : PacketHeader} (hs : ValidSize header.packetSize)
    {bytes : Vector UInt8 8} (hb : bytes.toList = headerBytes header) :
    decodeHeader bytes = .ok header := by
  obtain ⟨b0, b1, b2, b3, b4, b5, b6, b7, rfl⟩ := exists_bytes bytes
  have hlist : [b0, b1, b2, b3, b4, b5, b6, b7] = headerBytes header := hb
  simp only [headerBytes, List.cons.injEq, and_true] at hlist
  obtain ⟨h0, h1, h2, h3, h4, h5, h6, h7⟩ := hlist
  have hsize : readUInt16 b0 b1 = header.packetSize := by
    rw [h0, h1, readUInt16_bytes]
  have htype : readUInt16 b2 b3 = header.type.code := by
    rw [h2, h3, readUInt16_bytes]
  have hrequestId : readUInt32 b4 b5 b6 b7 = header.requestId := by
    rw [h4, h5, h6, h7, readUInt32_bytes]
  rcases decodeHeader_cases b0 b1 b2 b3 b4 b5 b6 b7 with
    ⟨header', hok, -, hsize', htype', hrequestId'⟩ | ⟨hinvalid, -⟩
  · have heq : header' = header := by
      cases header
      cases header'
      simp only [PacketHeader.mk.injEq]
      exact ⟨hsize'.trans hsize, code_injective (htype'.trans htype), hrequestId'.trans hrequestId⟩
    rw [hok, heq]
  · rw [hsize, htype] at hinvalid
    exact absurd ⟨hs, isValidPacketType_code header.type⟩ hinvalid

theorem headerBytes_of_decodeHeader {bytes : Vector UInt8 8} {header : PacketHeader}
    (h : decodeHeader bytes = .ok header) :
    ValidSize header.packetSize ∧ headerBytes header = bytes.toList := by
  obtain ⟨b0, b1, b2, b3, b4, b5, b6, b7, rfl⟩ := exists_bytes bytes
  rcases decodeHeader_cases b0 b1 b2 b3 b4 b5 b6 b7 with
    ⟨header', hok, hvalid, hsize, htype, hrequestId⟩ | ⟨-, failure, herror⟩
  · obtain rfl := Except.ok.inj (hok.symm.trans h)
    obtain ⟨hs0, hs1⟩ := bytes_readUInt16 b0 b1
    obtain ⟨ht0, ht1⟩ := bytes_readUInt16 b2 b3
    obtain ⟨hr0, hr1, hr2, hr3⟩ := bytes_readUInt32 b4 b5 b6 b7
    refine ⟨hvalid, ?_⟩
    rw [headerBytes, hsize, htype, hrequestId, hs0, hs1, ht0, ht1, hr0, hr1, hr2, hr3]
    rfl
  · rw [herror] at h
    cases h

/-! ## Encoding -/

/-- The header of a packet with the payload. -/
def headerOf (type : PacketType) (requestId : UInt32) (payload : List UInt8) : PacketHeader :=
  { packetSize := .ofNat (packetHeaderSize.toNat + payload.length), type, requestId }

theorem toNat_packetSize {payload : List UInt8} (h : payload.length ≤ maxPayloadSize)
    (type : PacketType) (requestId : UInt32) :
    (headerOf type requestId payload).packetSize.toNat = packetHeaderSize.toNat + payload.length := by
  have hmax : maxPayloadSize = 16376 := rfl
  have hheader : packetHeaderSize.toNat = 8 := rfl
  simp only [headerOf, UInt16.toNat_ofNat']
  omega

theorem validSize_headerOf {payload : List UInt8} (h : payload.length ≤ maxPayloadSize)
    (type : PacketType) (requestId : UInt32) :
    ValidSize (headerOf type requestId payload).packetSize := by
  have hsize := toNat_packetSize h type requestId
  have hmax : maxPayloadSize = maxPacketSize.toNat - packetHeaderSize.toNat := rfl
  have hle : packetHeaderSize.toNat ≤ maxPacketSize.toNat := by decide
  simp only [ValidSize, UInt16.le_iff_toNat_le, hsize]
  omega

/-- A payload that fits is encoded behind its header, and a longer one throws. -/
theorem encodePacket_cases (type : PacketType) (requestId : UInt32) (payload : List UInt8) :
    (payload.length ≤ maxPayloadSize ∧ encodePacket type requestId payload =
        .ok (headerBytes (headerOf type requestId payload) ++ payload)) ∨
      maxPayloadSize < payload.length ∧
        encodePacket type requestId payload = .error (.runtimeError "Packet is too large") := by
  have hmax : maxPayloadSize = maxPacketSize.toNat - packetHeaderSize.toNat := rfl
  have hle : packetHeaderSize.toNat ≤ maxPacketSize.toNat := by decide
  rcases Nat.lt_or_ge maxPayloadSize payload.length with hlong | hfits
  · refine Or.inr ⟨hlong, ?_⟩
    rw [encodePacket, if_pos (by omega)]
  · refine Or.inl ⟨hfits, ?_⟩
    rw [encodePacket, if_neg (by omega)]
    have hheader := encodeHeader_ok (validSize_headerOf hfits type requestId)
    rw [headerOf] at hheader
    rw [hheader]
    rfl

end DnfServer.Tcp
