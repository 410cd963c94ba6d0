import DnfServer.Model.Rooms

/-!
# TCP packets

`Packet` and `ReceiveBuffer` of the server. A packet is a header of eight bytes, big-endian,
and its payload; its size includes the header.
-/

namespace DnfServer

def packetHeaderSize : UInt16 := 8

def maxPacketSize : UInt16 := 16384

inductive PacketType where
  | loginRequest | channelListRequest | joinChannelRequest | enterDungeonRequest
  | dungeonConnectionInfoRequest | createPartyRequest | joinPartyRequest | leavePartyRequest
  | partySnapshotRequest | dungeonCatalogRequest | dungeonStaticDataRequest
  | authLoginRequest | authCharacterListRequest | authCharacterSelectionRequest
  | loginResponse | channelListResponse | joinChannelResponse | enterDungeonResponse
  | dungeonConnectionInfoResponse | createPartyResponse | joinPartyResponse | leavePartyResponse
  | partySnapshotResponse | dungeonCatalogResponse | dungeonStaticDataResponse
  | authLoginResponse | authCharacterListResponse | authCharacterSelectionResponse
  deriving DecidableEq, Repr

namespace PacketType

def code : PacketType → UInt16
  | loginRequest => 1
  | channelListRequest => 2
  | joinChannelRequest => 3
  | enterDungeonRequest => 4
  | dungeonConnectionInfoRequest => 5
  | createPartyRequest => 6
  | joinPartyRequest => 7
  | leavePartyRequest => 8
  | partySnapshotRequest => 9
  | dungeonCatalogRequest => 10
  | dungeonStaticDataRequest => 11
  | authLoginRequest => 201
  | authCharacterListRequest => 202
  | authCharacterSelectionRequest => 203
  | loginResponse => 101
  | channelListResponse => 102
  | joinChannelResponse => 103
  | enterDungeonResponse => 104
  | dungeonConnectionInfoResponse => 105
  | createPartyResponse => 106
  | joinPartyResponse => 107
  | leavePartyResponse => 108
  | partySnapshotResponse => 109
  | dungeonCatalogResponse => 110
  | dungeonStaticDataResponse => 111
  | authLoginResponse => 301
  | authCharacterListResponse => 302
  | authCharacterSelectionResponse => 303

/-- The types that `IsValidPacketType` compares with, in its order. -/
def valid : List PacketType :=
  [loginRequest, channelListRequest, joinChannelRequest, enterDungeonRequest,
    dungeonConnectionInfoRequest, createPartyRequest, joinPartyRequest, leavePartyRequest,
    partySnapshotRequest, dungeonCatalogRequest, dungeonStaticDataRequest, authLoginRequest,
    authCharacterListRequest, authCharacterSelectionRequest, loginResponse, channelListResponse,
    joinChannelResponse, enterDungeonResponse, dungeonConnectionInfoResponse, createPartyResponse,
    joinPartyResponse, leavePartyResponse, partySnapshotResponse, dungeonCatalogResponse,
    dungeonStaticDataResponse, authLoginResponse, authCharacterListResponse,
    authCharacterSelectionResponse]

/-- The cast of a number to the enumeration. -/
def ofCode (type : UInt16) : Option PacketType := valid.find? (·.code = type)

end PacketType

def isValidPacketType (type : UInt16) : Bool := PacketType.valid.any (type = ·.code)

structure PacketHeader where
  packetSize : UInt16
  type : PacketType
  requestId : UInt32
  deriving DecidableEq, Repr

structure Packet where
  header : PacketHeader
  payload : List UInt8
  deriving DecidableEq, Repr

def validateHeader (packetSize type : UInt16) : Except Failure Unit :=
  if packetSize < packetHeaderSize ∨ packetSize > maxPacketSize then
    .error (.runtimeError "Invalid packet size")
  else if ¬ isValidPacketType type then .error (.runtimeError "Invalid packet type")
  else .ok ()

def encodeHeader (header : PacketHeader) : Except Failure (List UInt8) :=
  (validateHeader header.packetSize header.type.code).map fun _ =>
    [(header.packetSize >>> 8).toUInt8, header.packetSize.toUInt8,
      (header.type.code >>> 8).toUInt8, header.type.code.toUInt8,
      (header.requestId >>> 24).toUInt8, (header.requestId >>> 16).toUInt8,
      (header.requestId >>> 8).toUInt8, header.requestId.toUInt8]

/-- After the validation the cast of the type is defined. -/
def decodeHeader (bytes : Vector UInt8 8) : Except Failure PacketHeader :=
  let packetSize := bytes[0].toUInt16 <<< 8 ||| bytes[1].toUInt16
  let type := bytes[2].toUInt16 <<< 8 ||| bytes[3].toUInt16
  let requestId := bytes[4].toUInt32 <<< 24 ||| bytes[5].toUInt32 <<< 16 |||
    bytes[6].toUInt32 <<< 8 ||| bytes[7].toUInt32
  match validateHeader packetSize type, PacketType.ofCode type with
  | .error failure, _ => .error failure
  | .ok (), some type => .ok { packetSize, type, requestId }
  | .ok (), none => .error (.runtimeError "Invalid packet type")

def encodePacket (type : PacketType) (requestId : UInt32) (payload : List UInt8) :
    Except Failure (List UInt8) :=
  let packetSize := packetHeaderSize.toNat + payload.length
  if packetSize > maxPacketSize.toNat then .error (.runtimeError "Packet is too large")
  else (encodeHeader { packetSize := .ofNat packetSize, type, requestId }).map (· ++ payload)

/-! ## The receive buffer -/

def compactThreshold : Nat := 4096

structure ReceiveBuffer where
  buffer : List UInt8 := []
  readOffset : Nat := 0
  deriving DecidableEq, Repr

namespace ReceiveBuffer

def size (receiveBuffer : ReceiveBuffer) : Nat :=
  receiveBuffer.buffer.length - receiveBuffer.readOffset

def compactIfNeeded (receiveBuffer : ReceiveBuffer) : ReceiveBuffer :=
  if receiveBuffer.readOffset < compactThreshold ∨
      receiveBuffer.readOffset * 2 < receiveBuffer.buffer.length then receiveBuffer
  else { buffer := receiveBuffer.buffer.drop receiveBuffer.readOffset, readOffset := 0 }

def append (data : List UInt8) (receiveBuffer : ReceiveBuffer) : ReceiveBuffer :=
  let receiveBuffer := receiveBuffer.compactIfNeeded
  { receiveBuffer with buffer := receiveBuffer.buffer ++ data }

/-- `some` packet, `none` when more bytes are needed, or the exception of a bad header. -/
def tryPop (receiveBuffer : ReceiveBuffer) : Except Failure (Option Packet) × ReceiveBuffer :=
  let availableSize := receiveBuffer.size
  if availableSize < packetHeaderSize.toNat then (.ok none, receiveBuffer)
  else
    let headerBytes := Vector.ofFn fun i : Fin 8 =>
      receiveBuffer.buffer.getD (receiveBuffer.readOffset + i) 0
    match decodeHeader headerBytes with
    | .error failure => (.error failure, receiveBuffer)
    | .ok header =>
      if availableSize < header.packetSize.toNat then (.ok none, receiveBuffer)
      else
        let payload := (receiveBuffer.buffer.drop
          (receiveBuffer.readOffset + packetHeaderSize.toNat)).take
            (header.packetSize.toNat - packetHeaderSize.toNat)
        let readOffset := receiveBuffer.readOffset + header.packetSize.toNat
        (.ok (some { header, payload }),
          if readOffset = receiveBuffer.buffer.length then {}
          else { receiveBuffer with readOffset })

end ReceiveBuffer

end DnfServer
