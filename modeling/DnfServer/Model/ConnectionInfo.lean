import DnfServer.Model.Lifecycle

/-!
# The DungeonConnectionInfo request

`HandleDungeonConnectionInfoRequest` with the check that `DungeonConnectionProtocol` makes of a
response. The bytes of the payload are those of the FlatBuffers library.
-/

namespace DnfServer

inductive DungeonConnectionInfoResult where
  | success | notInParty | dungeonNotFound | notDungeonParticipant | udpNotReady
  deriving DecidableEq, Repr

structure DungeonConnectionInfoData where
  result : DungeonConnectionInfoResult := .notInParty
  dungeonId : DungeonId := 0
  udpPort : UInt16 := 0
  udpToken : DungeonUdpToken := 0
  deriving DecidableEq, Repr

def DungeonConnectionInfoData.isValid (response : DungeonConnectionInfoData) : Bool :=
  let succeeded := decide (response.result = .success)
  succeeded == decide (response.dungeonId ≠ 0) && succeeded == decide (response.udpPort ≠ 0) &&
    succeeded == decide (response.udpToken ≠ 0)

def encodeDungeonConnectionInfoResponse (response : DungeonConnectionInfoData) :
    Except Failure DungeonConnectionInfoData :=
  if response.isValid then .ok response
  else .error (.invalidArgument "Invalid dungeon connection info response")

def DungeonUdpManager.findPort (dungeonId : DungeonId) (manager : DungeonUdpManager) : Option UInt16 :=
  (manager.sessions[dungeonId]?).map (·.port)

namespace PacketDispatcher

/-- The dungeon of the request: that of the party, and without one the first of the iteration order
that knows the session. -/
def connectionDungeon (sessionId : SessionId) (order : List DungeonId) (partyId : Option PartyId)
    (dungeons : DungeonManager) : Except Failure (Option DungeonInstance) := do
  let dungeon ← match partyId with
    | some partyId => dungeons.findDungeonByParty partyId
    | none => .ok none
  match dungeon with
  | some dungeon => .ok (some dungeon)
  | none => .ok (dungeons.findDungeonByParticipant sessionId order)

/-- The answer for a dungeon that was found. -/
def connectionInfo (sessionId : SessionId) (udp : DungeonUdpManager) (dungeon : DungeonInstance) :
    DungeonConnectionInfoData :=
  if ¬ dungeon.hasParticipant sessionId then { result := .notDungeonParticipant }
  else match udp.findPort dungeon.dungeonId, udp.findToken dungeon.dungeonId sessionId with
    | some udpPort, some udpToken =>
      { result := .success, dungeonId := dungeon.dungeonId, udpPort, udpToken }
    | _, _ => { result := .udpNotReady }

/-- `HandleDungeonConnectionInfoRequest` run without interruption. -/
def handleDungeonConnectionInfoRequest (sessionId : SessionId) (order : List DungeonId)
    (parties : PartyManager) (dungeons : DungeonManager) (udp : DungeonUdpManager) :
    Except Failure DungeonConnectionInfoData :=
  let partyId := parties.getJoinedParty sessionId
  match connectionDungeon sessionId order partyId dungeons with
  | .error failure => .error failure
  | .ok none => encodeDungeonConnectionInfoResponse
      { result := if partyId.isSome then .dungeonNotFound else .notInParty }
  | .ok (some dungeon) =>
    encodeDungeonConnectionInfoResponse (connectionInfo sessionId udp dungeon)

end PacketDispatcher

end DnfServer
