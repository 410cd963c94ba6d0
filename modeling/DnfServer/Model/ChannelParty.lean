import DnfServer.Model.Party
import Mathlib.Data.List.Sort

/-!
# Channel and party requests

`ChannelManager` and `ChannelPartyRequestHandler` of the server, with the checks that
`ChannelProtocol` and `PartyProtocol` make of what is decoded and encoded. The bytes of the
payloads are those of the FlatBuffers library. A handler that takes the lock of `PartyManager`
twice is given in two parts.
-/

namespace DnfServer

open Std

abbrev ChannelId := UInt32

structure ChannelInfo where
  id : ChannelId
  name : String
  currentPlayers : Nat := 0
  maxPlayers : Nat
  deriving DecidableEq, Repr

inductive JoinChannelResult where
  | success | channelNotFound | channelFull | alreadyJoined
  deriving DecidableEq, Repr

structure ChannelManager where
  channels : ExtTreeMap ChannelId ChannelInfo := ∅
  joinedChannels : IdMap ChannelId := ∅

namespace ChannelManager

def addChannel (channelId : ChannelId) (name : String) (maxPlayers : Nat)
    (manager : ChannelManager) : Bool × ChannelManager :=
  if channelId = 0 ∨ name.isEmpty ∨ maxPlayers = 0 ∨ channelId ∈ manager.channels then
    (false, manager)
  else (true, { manager with
    channels := manager.channels.insertIfNew channelId { id := channelId, name, maxPlayers } })

def getChannelList (manager : ChannelManager) : List ChannelInfo :=
  (manager.channels.toList.map (·.2)).mergeSort fun left right => left.id ≤ right.id

def joinChannel (sessionId : SessionId) (channelId : ChannelId) (manager : ChannelManager) :
    JoinChannelResult × ChannelManager :=
  match manager.channels[channelId]? with
  | none => (.channelNotFound, manager)
  | some channel =>
    if sessionId ∈ manager.joinedChannels then (.alreadyJoined, manager)
    else if channel.currentPlayers ≥ channel.maxPlayers then (.channelFull, manager)
    else (.success, {
      channels := manager.channels.insert channelId
        { channel with currentPlayers := channel.currentPlayers + 1 }
      joinedChannels := manager.joinedChannels.insertIfNew sessionId channelId })

def leaveChannel (sessionId : SessionId) (manager : ChannelManager) : Bool × ChannelManager :=
  match manager.joinedChannels[sessionId]? with
  | none => (false, manager)
  | some channelId =>
    let channels := match manager.channels[channelId]? with
      | some channel =>
        if channel.currentPlayers > 0 then manager.channels.insert channelId
          { channel with currentPlayers := channel.currentPlayers - 1 }
        else manager.channels
      | none => manager.channels
    (true, { channels, joinedChannels := manager.joinedChannels.erase sessionId })

end ChannelManager

/-! ## The messages -/

inductive CreatePartyResult where
  | success | alreadyInParty
  deriving DecidableEq, Repr

inductive LeavePartyResult where
  | success | notInParty
  deriving DecidableEq, Repr

inductive PartySnapshotResult where
  | success | notInParty
  deriving DecidableEq, Repr

inductive ChannelPartyRequest where
  | channelList
  | joinChannel (channelId : ChannelId)
  | createParty
  | joinParty (partyId : PartyId)
  | leaveParty
  | partySnapshot
  deriving DecidableEq, Repr

inductive ChannelPartyResponse where
  | channelList (channels : List ChannelInfo)
  | joinChannel (result : JoinChannelResult) (channelId : ChannelId)
  | createParty (result : CreatePartyResult) (partyId : PartyId) (leaderSessionId : SessionId)
  | joinParty (result : JoinPartyResult) (partyId : PartyId) (leaderSessionId : SessionId)
  | leaveParty (result : LeavePartyResult)
  | partySnapshot (result : PartySnapshotResult) (partyId : PartyId) (leaderSessionId : SessionId)
      (members : List SessionId)
  deriving DecidableEq, Repr

/-- The largest `std::uint32_t`. -/
def maxUInt32 : Nat := 4294967295

def isValidChannelListEntry (channel : ChannelInfo) : Bool :=
  ¬ (channel.id = 0 ∨ channel.name.isEmpty ∨ channel.maxPlayers = 0 ∨
    channel.currentPlayers > channel.maxPlayers ∨ channel.currentPlayers > maxUInt32 ∨
    channel.maxPlayers > maxUInt32)

def encodeChannelListResponse (channels : List ChannelInfo) :
    Except Failure ChannelPartyResponse :=
  if channels.all isValidChannelListEntry then .ok (.channelList channels)
  else .error (.invalidArgument "Invalid channel list entry")

def decodeJoinChannelRequest (channelId : ChannelId) : Except Failure ChannelId :=
  if channelId = 0 then .error (.runtimeError "Invalid join channel request data")
  else .ok channelId

def isValidJoinChannelResponse (result : JoinChannelResult) (channelId : ChannelId) : Bool :=
  decide (result = .success) == decide (channelId ≠ 0)

def encodeJoinChannelResponse (result : JoinChannelResult) (channelId : ChannelId) :
    Except Failure ChannelPartyResponse :=
  if isValidJoinChannelResponse result channelId then .ok (.joinChannel result channelId)
  else .error (.invalidArgument "Invalid join channel response")

def isValidCreatePartyResponse (result : CreatePartyResult) (partyId : PartyId)
    (leaderSessionId : SessionId) : Bool :=
  let succeeded := decide (result = .success)
  succeeded == decide (partyId ≠ 0) && succeeded == decide (leaderSessionId ≠ 0)

def encodeCreatePartyResponse (result : CreatePartyResult) (partyId : PartyId)
    (leaderSessionId : SessionId) : Except Failure ChannelPartyResponse :=
  if isValidCreatePartyResponse result partyId leaderSessionId then
    .ok (.createParty result partyId leaderSessionId)
  else .error (.invalidArgument "Invalid create party response")

def decodeJoinPartyRequest (partyId : PartyId) : Except Failure PartyId :=
  if partyId = 0 then .error (.runtimeError "Invalid join party request data") else .ok partyId

def isValidJoinPartyResponse (result : JoinPartyResult) (partyId : PartyId)
    (leaderSessionId : SessionId) : Bool :=
  let succeeded := decide (result = .success)
  succeeded == decide (partyId ≠ 0) && succeeded == decide (leaderSessionId ≠ 0)

def encodeJoinPartyResponse (result : JoinPartyResult) (partyId : PartyId)
    (leaderSessionId : SessionId) : Except Failure ChannelPartyResponse :=
  if isValidJoinPartyResponse result partyId leaderSessionId then
    .ok (.joinParty result partyId leaderSessionId)
  else .error (.invalidArgument "Invalid join party response")

def encodeLeavePartyResponse (result : LeavePartyResult) : Except Failure ChannelPartyResponse :=
  .ok (.leaveParty result)

/-- The loop of `IsValidPartySnapshot` over the members after `previous`. -/
def areValidMembers (leaderSessionId : SessionId) (leaderFound : Bool)
    (previous : List SessionId) : List SessionId → Bool
  | [] => leaderFound
  | member :: members =>
    if member = 0 then false
    else
      let leaderFound := if member = leaderSessionId then true else leaderFound
      if member ∈ previous then false
      else areValidMembers leaderSessionId leaderFound (previous ++ [member]) members

def isValidPartySnapshot (result : PartySnapshotResult) (partyId : PartyId)
    (leaderSessionId : SessionId) (members : List SessionId) : Bool :=
  if result = .notInParty then partyId = 0 ∧ leaderSessionId = 0 ∧ members = []
  else if partyId = 0 ∨ leaderSessionId = 0 ∨ members = [] ∨ members.length > maxPartyMembers then
    false
  else areValidMembers leaderSessionId false [] members

def encodePartySnapshotResponse (result : PartySnapshotResult) (partyId : PartyId)
    (leaderSessionId : SessionId) (members : List SessionId) :
    Except Failure ChannelPartyResponse :=
  if isValidPartySnapshot result partyId leaderSessionId members then
    .ok (.partySnapshot result partyId leaderSessionId members)
  else .error (.invalidArgument "Invalid party snapshot response")

/-! ## The handlers -/

namespace ChannelPartyRequestHandler

def handleChannelListRequest (channelManager : ChannelManager) :
    Except Failure ChannelPartyResponse :=
  encodeChannelListResponse channelManager.getChannelList

def handleJoinChannelRequest (sessionId : SessionId) (channelId : ChannelId)
    (channelManager : ChannelManager) : Except Failure ChannelPartyResponse × ChannelManager :=
  match decodeJoinChannelRequest channelId with
  | .error failure => (.error failure, channelManager)
  | .ok channelId =>
    let (result, channelManager) := channelManager.joinChannel sessionId channelId
    (encodeJoinChannelResponse result (if result = .success then channelId else 0), channelManager)

def handleCreatePartyRequest (sessionId : SessionId) (partyManager : PartyManager) :
    Except Failure ChannelPartyResponse × PartyManager :=
  match partyManager.createParty sessionId with
  | (none, partyManager) => (encodeCreatePartyResponse .alreadyInParty 0 0, partyManager)
  | (some partyId, partyManager) =>
    (encodeCreatePartyResponse .success partyId sessionId, partyManager)

/-- Up to the return of `JoinParty`: the response, or the party to be read. -/
def beginJoinPartyRequest (sessionId : SessionId) (requestedPartyId : PartyId)
    (partyManager : PartyManager) :
    (Except Failure ChannelPartyResponse ⊕ PartyId) × PartyManager :=
  match decodeJoinPartyRequest requestedPartyId with
  | .error failure => (.inl (.error failure), partyManager)
  | .ok requestedPartyId => match partyManager.joinParty requestedPartyId sessionId with
    | (.success, partyManager) => (.inr requestedPartyId, partyManager)
    | (result, partyManager) => (.inl (encodeJoinPartyResponse result 0 0), partyManager)

/-- From `GetParty` on. -/
def finishJoinPartyRequest (requestedPartyId : PartyId) (partyManager : PartyManager) :
    Except Failure ChannelPartyResponse :=
  match partyManager.getParty requestedPartyId with
  | none => .error (.runtimeError "Joined party was not found")
  | some party => encodeJoinPartyResponse .success party.id party.leaderSessionId

def handleLeavePartyRequest (sessionId : SessionId) (partyManager : PartyManager) :
    Except Failure ChannelPartyResponse × PartyManager :=
  let (leftParty, partyManager) := partyManager.leaveParty sessionId
  (encodeLeavePartyResponse (if leftParty then .success else .notInParty), partyManager)

/-- Up to the return of `GetJoinedParty`: the response, or the party to be read. -/
def beginPartySnapshotRequest (sessionId : SessionId) (partyManager : PartyManager) :
    Except Failure ChannelPartyResponse ⊕ PartyId :=
  match partyManager.getJoinedParty sessionId with
  | none => .inl (encodePartySnapshotResponse .notInParty 0 0 [])
  | some joinedPartyId => .inr joinedPartyId

/-- From `GetParty` on. -/
def finishPartySnapshotRequest (joinedPartyId : PartyId) (partyManager : PartyManager) :
    Except Failure ChannelPartyResponse :=
  match partyManager.getParty joinedPartyId with
  | none => encodePartySnapshotResponse .notInParty 0 0 []
  | some party => encodePartySnapshotResponse .success party.id party.leaderSessionId party.members

end ChannelPartyRequestHandler

end DnfServer
