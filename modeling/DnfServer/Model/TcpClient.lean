import DnfServer.Library.BigEndian

/-!
# TCP packets of the client

`TcpPacketCodec` and `TcpReceiveBuffer` of the client, with its own table of packet types. The
buffer is a list of bytes from which a packet is removed as soon as it is complete.
-/

namespace DnfServer.Client

open DnfServer.Library

inductive Failure where
  | argument (message : String)
  | invalidData (message : String)
  deriving DecidableEq, Repr

inductive TcpPacketType where
  | loginRequest | channelListRequest | joinChannelRequest | enterDungeonRequest
  | dungeonConnectionInfoRequest | createPartyRequest | joinPartyRequest | leavePartyRequest
  | partySnapshotRequest | dungeonCatalogRequest | dungeonStaticDataRequest
  | authLoginRequest | authCharacterListRequest | authCharacterSelectionRequest
  | loginResponse | channelListResponse | joinChannelResponse | enterDungeonResponse
  | dungeonConnectionInfoResponse | createPartyResponse | joinPartyResponse | leavePartyResponse
  | partySnapshotResponse | dungeonCatalogResponse | dungeonStaticDataResponse
  | authLoginResponse | authCharacterListResponse | authCharacterSelectionResponse
  deriving DecidableEq, Repr

namespace TcpPacketType

/-- The members of the enumeration with their values, in the order of the declaration. -/
def members : List (TcpPacketType × UInt16) :=
  [(loginRequest, 1), (channelListRequest, 2), (joinChannelRequest, 3), (enterDungeonRequest, 4),
    (dungeonConnectionInfoRequest, 5), (createPartyRequest, 6), (joinPartyRequest, 7),
    (leavePartyRequest, 8), (partySnapshotRequest, 9), (dungeonCatalogRequest, 10),
    (dungeonStaticDataRequest, 11), (authLoginRequest, 201), (authCharacterListRequest, 202),
    (authCharacterSelectionRequest, 203), (loginResponse, 101), (channelListResponse, 102),
    (joinChannelResponse, 103), (enterDungeonResponse, 104), (dungeonConnectionInfoResponse, 105),
    (createPartyResponse, 106), (joinPartyResponse, 107), (leavePartyResponse, 108),
    (partySnapshotResponse, 109), (dungeonCatalogResponse, 110), (dungeonStaticDataResponse, 111),
    (authLoginResponse, 301), (authCharacterListResponse, 302),
    (authCharacterSelectionResponse, 303)]

/-- The member that a number is cast to, if there is one. -/
def ofValue (value : UInt16) : Option TcpPacketType :=
  (members.find? (·.2 = value)).map (·.1)

/-- The number that a member is cast to. -/
def value (type : TcpPacketType) : UInt16 := ((members.find? (·.1 = type)).map (·.2)).getD 0

/-- `Enum.IsDefined` after the cast. -/
def isDefined (value : UInt16) : Bool := members.any (·.2 = value)

end TcpPacketType

structure TcpPacketHeader where
  packetSize : UInt16
  type : TcpPacketType
  requestId : UInt32
  deriving DecidableEq, Repr

structure TcpPacket where
  header : TcpPacketHeader
  payload : List UInt8
  deriving DecidableEq, Repr

namespace TcpPacketCodec

def headerSize : Nat := 8

def maxPacketSize : Nat := 16 * 1024

def validateHeader (packetSize type : UInt16) : Except Failure Unit :=
  if packetSize.toNat < headerSize ∨ packetSize.toNat > maxPacketSize then
    .error (.invalidData "Invalid TCP packet size.")
  else if ¬ TcpPacketType.isDefined type then .error (.invalidData "Invalid TCP packet type.")
  else .ok ()

/-- The numbers are read big-endian by `BinaryPrimitives`; after the validation the cast of
the type is defined. -/
def decodeHeader (bytes : List UInt8) : Except Failure TcpPacketHeader :=
  match bytes with
  | [b0, b1, b2, b3, b4, b5, b6, b7] =>
    let packetSize := readUInt16 b0 b1
    let typeValue := readUInt16 b2 b3
    let requestId := readUInt32 b4 b5 b6 b7
    match validateHeader packetSize typeValue, TcpPacketType.ofValue typeValue with
    | .error failure, _ => .error failure
    | .ok (), some type => .ok { packetSize, type, requestId }
    | .ok (), none => .error (.invalidData "Invalid TCP packet type.")
  | _ => .error (.argument "TCP header must be exactly 8 bytes.")

end TcpPacketCodec

structure TcpReceiveBuffer where
  buffer : List UInt8 := []
  deriving DecidableEq, Repr

namespace TcpReceiveBuffer

def size (receiveBuffer : TcpReceiveBuffer) : Nat := receiveBuffer.buffer.length

def append (data : List UInt8) (receiveBuffer : TcpReceiveBuffer) : TcpReceiveBuffer :=
  { buffer := receiveBuffer.buffer ++ data }

/-- `GetRange` within the bounds that the caller has checked. -/
def getRange (index count : Nat) (buffer : List UInt8) : List UInt8 := (buffer.drop index).take count

/-- `RemoveRange` within the bounds that the caller has checked. -/
def removeRange (index count : Nat) (buffer : List UInt8) : List UInt8 :=
  buffer.take index ++ buffer.drop (index + count)

/-- `some` packet, `none` when more bytes are needed, or the exception of a bad header. -/
def tryPop (receiveBuffer : TcpReceiveBuffer) :
    Except Failure (Option TcpPacket) × TcpReceiveBuffer :=
  if receiveBuffer.size < TcpPacketCodec.headerSize then (.ok none, receiveBuffer)
  else
    let headerBytes := getRange 0 TcpPacketCodec.headerSize receiveBuffer.buffer
    match TcpPacketCodec.decodeHeader headerBytes with
    | .error failure => (.error failure, receiveBuffer)
    | .ok header =>
      if receiveBuffer.size < header.packetSize.toNat then (.ok none, receiveBuffer)
      else
        let payloadSize := header.packetSize.toNat - TcpPacketCodec.headerSize
        let payload := getRange TcpPacketCodec.headerSize payloadSize receiveBuffer.buffer
        (.ok (some { header, payload }),
          { buffer := removeRange 0 header.packetSize.toNat receiveBuffer.buffer })

end TcpReceiveBuffer

end DnfServer.Client
