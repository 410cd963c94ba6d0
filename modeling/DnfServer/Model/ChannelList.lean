import DnfServer.Model.ChannelParty
import DnfServer.Model.TcpClient

/-!
# The channel list on the wire

What `EncodeChannelListResponsePayload` of the server writes and `DecodeChannelListResponse` of the client
reads. The table is that of the schema; its bytes belong to the FlatBuffers library.
-/

namespace DnfServer

namespace Protocol

structure ChannelInfo where
  channelId : UInt32
  displayName : String
  currentPlayers : UInt32
  maxPlayers : UInt32
  deriving DecidableEq, Repr

end Protocol

/-- The entries of the response, or the exception at the first entry that has no place in it. -/
def encodeChannelListResponsePayload : List ChannelInfo → Except Failure (List Protocol.ChannelInfo)
  | [] => .ok []
  | channel :: channels =>
    if ¬ isValidChannelListEntry channel then .error (.invalidArgument "Invalid channel list entry")
    else (encodeChannelListResponsePayload channels).map fun entries =>
      { channelId := channel.id
        displayName := channel.name
        currentPlayers := UInt32.ofNat channel.currentPlayers
        maxPlayers := UInt32.ofNat channel.maxPlayers } :: entries

namespace Client

structure ChannelInfo where
  id : UInt32
  displayName : String
  currentPlayers : UInt32
  maxPlayers : UInt32
  deriving DecidableEq, Repr

def decodeChannelListResponse : List Protocol.ChannelInfo → Except Client.Failure (List ChannelInfo)
  | [] => .ok []
  | source :: sources =>
    if source.channelId = 0 ∨ source.displayName.isEmpty ∨ source.maxPlayers = 0 ∨
        source.currentPlayers > source.maxPlayers then
      .error (.invalidData "Invalid channel list response data.")
    else (decodeChannelListResponse sources).map fun channels =>
      { id := source.channelId
        displayName := source.displayName
        currentPlayers := source.currentPlayers
        maxPlayers := source.maxPlayers } :: channels

end Client

/-! ## Calls -/

inductive ChannelCall where
  | addChannel (channelId : ChannelId) (name : String) (maxPlayers : Nat)
  | joinChannel (sessionId : SessionId) (channelId : ChannelId)
  | leaveChannel (sessionId : SessionId)
  deriving DecidableEq

def ChannelManager.call (manager : ChannelManager) : ChannelCall → ChannelManager
  | .addChannel channelId name maxPlayers => (manager.addChannel channelId name maxPlayers).2
  | .joinChannel sessionId channelId => (manager.joinChannel sessionId channelId).2
  | .leaveChannel sessionId => (manager.leaveChannel sessionId).2

end DnfServer
