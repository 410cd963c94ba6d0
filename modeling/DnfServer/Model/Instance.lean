import DnfServer.Model.PlayerState

/-!
# One dungeon instance

`DungeonInstance` of the server: its rooms, and the five containers that list its
participants (`participants`, `players`, `participantPlayerIds`, `playerSessions` and
`disconnectedSince`). Every public function that touches these five holds
`participantMutex_` from its first access to its return, so each is one atomic step
and is modelled as one function on the instance.

An unordered map of the source is an extensional finite map: its iteration order is not
part of the state. Where a loop only edits the entry it visits, the model visits the
keys in ascending order; where the first match wins, the order is an argument (see
`DnfServer.Model.Manager`). Readings of the steady clock and differences of them are
integers in the unit of the clock.
-/

namespace DnfServer

open Std

abbrev PartyId := Nat
abbrev DungeonId := Nat
abbrev DungeonTemplateId := UInt32

/-- A map keyed by a session, player, party or dungeon identifier. -/
abbrev IdMap (α : Type) := ExtTreeMap Nat α

def maxPartyMembers : Nat := 4

structure DungeonTemplate where
  id : DungeonTemplateId
  name : String
  rooms : List RoomTemplate
  recommendedPartySize : UInt8 := 1
  maxPartySize : UInt8 := 4
  deriving DecidableEq, Repr

structure DungeonCatalog where
  dungeons : ExtTreeMap UInt32 DungeonTemplate := ∅

def DungeonCatalog.getDungeon (catalog : DungeonCatalog) (templateId : DungeonTemplateId) :
    Option DungeonTemplate :=
  catalog.dungeons[templateId]?

inductive DungeonState where
  | waiting | running | finished
  deriving DecidableEq, Repr

inductive UsePortalResult where
  | success | dungeonNotRunning | playerNotFound | notInsidePortal | roomNotCleared
  | targetRoomNotFound | targetPositionBlocked
  deriving DecidableEq, Repr

structure DungeonParticipantReconnect where
  replacedSessionId : SessionId
  disconnectedAt : Int
  deriving DecidableEq, Repr

structure DungeonInstance where
  dungeonId : DungeonId
  dungeonTemplate : DungeonTemplate
  partyId : PartyId
  participants : List SessionId
  rooms : ExtTreeMap UInt32 RoomState
  players : IdMap DungeonPlayerState
  participantPlayerIds : IdMap PlayerId
  playerSessions : IdMap SessionId
  disconnectedSince : IdMap Int
  createdAt : Int
  state : DungeonState
  deriving DecidableEq

namespace DungeonInstance

/-- The room loop of the constructor; a room id that is already present throws. -/
def addRooms : List RoomTemplate → ExtTreeMap UInt32 RoomState →
    Except Failure (ExtTreeMap UInt32 RoomState)
  | [], rooms => .ok rooms
  | roomTemplate :: rest, rooms =>
    if roomTemplate.id ∈ rooms then .error (.invalidArgument "Duplicate dungeon room ID")
    else addRooms rest (rooms.insertIfNew roomTemplate.id (RoomState.new roomTemplate))

/-- The player loop of the constructor. -/
def addPlayers (firstRoom : RoomTemplate) : List SessionId → IdMap DungeonPlayerState →
    Except Failure (IdMap DungeonPlayerState)
  | [], players => .ok players
  | sessionId :: rest, players =>
    match DungeonPlayerState.new sessionId firstRoom.id firstRoom.playerSpawn with
    | .error failure => .error failure
    | .ok player => addPlayers firstRoom rest (players.insertIfNew sessionId player)

/-- The constructor of `DungeonInstance`; `createdAt` is the clock reading it takes. -/
def new (dungeonId : DungeonId) (dungeonTemplate : DungeonTemplate) (partyId : PartyId)
    (participants : List SessionId) (createdAt : Int) : Except Failure DungeonInstance :=
  if dungeonId = 0 ∨ dungeonTemplate.id = 0 ∨ partyId = 0 then
    .error (.invalidArgument "Dungeon IDs must not be zero")
  else match dungeonTemplate.rooms with
    | [] => .error (.invalidArgument "Invalid dungeon contents")
    | firstRoom :: otherRooms =>
      if participants = [] ∨ participants.length > maxPartyMembers then
        .error (.invalidArgument "Invalid dungeon contents")
      else if 0 ∈ participants ∨ ¬ participants.Nodup then
        .error (.invalidArgument "Invalid dungeon participant")
      else match addRooms (firstRoom :: otherRooms) ∅ with
        | .error failure => .error failure
        | .ok rooms => match addPlayers firstRoom participants ∅ with
          | .error failure => .error failure
          | .ok players => .ok
              { dungeonId, dungeonTemplate, partyId, participants, rooms, players
                participantPlayerIds := ∅, playerSessions := ∅, disconnectedSince := ∅
                createdAt, state := .waiting }

def hasParticipant (sessionId : SessionId) (dungeon : DungeonInstance) : Bool :=
  dungeon.players.contains sessionId

def bindParticipantPlayer (sessionId : SessionId) (playerId : PlayerId)
    (dungeon : DungeonInstance) : Bool × DungeonInstance :=
  if sessionId = 0 ∨ playerId = 0 then (false, dungeon)
  else if sessionId ∉ dungeon.players then (false, dungeon)
  else match dungeon.participantPlayerIds[sessionId]? with
    | some existingPlayer => (existingPlayer = playerId, dungeon)
    | none => match dungeon.playerSessions[playerId]? with
      | some existingSession => (existingSession = sessionId, dungeon)
      | none => (true, { dungeon with
          participantPlayerIds := dungeon.participantPlayerIds.insertIfNew sessionId playerId
          playerSessions := dungeon.playerSessions.insertIfNew playerId sessionId })

def disconnectParticipant (sessionId : SessionId) (disconnectedAt : Int)
    (dungeon : DungeonInstance) : Bool × DungeonInstance :=
  if sessionId ∉ dungeon.players then (false, dungeon)
  else (true, { dungeon with
    disconnectedSince := dungeon.disconnectedSince.insertIfNew sessionId disconnectedAt })

/-- The common tail of a reconnect and of its rollback: the player node is extracted under
the old session id and put back under the new one, and the other indices follow. The node
is lost when it cannot be rebound, as in the source. -/
def moveParticipant (playerId : PlayerId) (oldSessionId newSessionId : SessionId)
    (dungeon : DungeonInstance) : Bool × DungeonInstance :=
  match dungeon.players[oldSessionId]? with
  | none => (false, dungeon)
  | some player => match player.rebindSession newSessionId with
    | (false, _) => (false, { dungeon with players := dungeon.players.erase oldSessionId })
    | (true, player) => (true, { dungeon with
        players := (dungeon.players.erase oldSessionId).insertIfNew newSessionId player
        participantPlayerIds :=
          (dungeon.participantPlayerIds.erase oldSessionId).insertIfNew newSessionId playerId
        playerSessions := dungeon.playerSessions.insert playerId newSessionId
        participants := dungeon.participants.replace oldSessionId newSessionId })

def reconnectParticipant (playerId : PlayerId) (newSessionId : SessionId) (now : Int)
    (reconnectGrace : Int) (dungeon : DungeonInstance) :
    Option DungeonParticipantReconnect × DungeonInstance :=
  if playerId = 0 ∨ newSessionId = 0 ∨ reconnectGrace ≤ 0 then (none, dungeon)
  else match dungeon.playerSessions[playerId]? with
    | none => (none, dungeon)
    | some oldSessionId => match dungeon.disconnectedSince[oldSessionId]? with
      | none => (none, dungeon)
      | some disconnectedAt =>
        if newSessionId ∈ dungeon.players ∨ now < disconnectedAt ∨
            now - disconnectedAt ≥ reconnectGrace then (none, dungeon)
        else match dungeon.moveParticipant playerId oldSessionId newSessionId with
          | (false, moved) => (none, moved)
          | (true, moved) =>
            (some { replacedSessionId := oldSessionId, disconnectedAt },
              { moved with disconnectedSince := moved.disconnectedSince.erase oldSessionId })

def rollbackParticipantReconnect (playerId : PlayerId) (newSessionId : SessionId)
    (reconnect : DungeonParticipantReconnect) (dungeon : DungeonInstance) :
    Bool × DungeonInstance :=
  if playerId = 0 ∨ newSessionId = 0 ∨ reconnect.replacedSessionId = 0 then (false, dungeon)
  else if dungeon.playerSessions[playerId]? ≠ some newSessionId ∨
      newSessionId ∉ dungeon.players ∨ reconnect.replacedSessionId ∈ dungeon.players then
    (false, dungeon)
  else match dungeon.moveParticipant playerId newSessionId reconnect.replacedSessionId with
    | (false, moved) => (false, moved)
    | (true, moved) => (true, { moved with
        disconnectedSince := moved.disconnectedSince.insertIfNew reconnect.replacedSessionId
          reconnect.disconnectedAt })

/-- The body of the sweep loop for one expired session. -/
def dropParticipant (dungeon : DungeonInstance) (sessionId : SessionId) : DungeonInstance :=
  { dungeon with
    playerSessions := match dungeon.participantPlayerIds[sessionId]? with
      | some playerId => dungeon.playerSessions.erase playerId
      | none => dungeon.playerSessions
    participantPlayerIds := dungeon.participantPlayerIds.erase sessionId
    players := dungeon.players.erase sessionId
    participants := dungeon.participants.filter (· ≠ sessionId)
    disconnectedSince := dungeon.disconnectedSince.erase sessionId }

/-- The test of the sweep loop: the disconnect at `disconnectedAt` has run out its grace. -/
def graceExpired (now : Int) (reconnectGrace : Int) (disconnectedAt : Int) : Bool :=
  !(now < disconnectedAt || now - disconnectedAt < reconnectGrace)

/-- The sweep loop. -/
def removeExpiredLoop (now : Int) (reconnectGrace : Int) :
    List (SessionId × Int) → List SessionId × DungeonInstance →
    List SessionId × DungeonInstance
  | [], acc => acc
  | (sessionId, disconnectedAt) :: rest, (removedSessions, dungeon) =>
    if graceExpired now reconnectGrace disconnectedAt then
      removeExpiredLoop now reconnectGrace rest
        (removedSessions ++ [sessionId], dungeon.dropParticipant sessionId)
    else removeExpiredLoop now reconnectGrace rest (removedSessions, dungeon)

def removeExpiredDisconnectedParticipants (now : Int) (reconnectGrace : Int)
    (dungeon : DungeonInstance) : List SessionId × DungeonInstance :=
  if reconnectGrace ≤ 0 then ([], dungeon)
  else removeExpiredLoop now reconnectGrace dungeon.disconnectedSince.toList ([], dungeon)

def removeAllParticipants (dungeon : DungeonInstance) : List SessionId × DungeonInstance :=
  (dungeon.participants, { dungeon with
    participants := [], players := ∅, participantPlayerIds := ∅, playerSessions := ∅
    disconnectedSince := ∅ })

def isParticipantDisconnected (sessionId : SessionId) (dungeon : DungeonInstance) : Bool :=
  dungeon.disconnectedSince.contains sessionId

def hasDisconnectedParticipants (dungeon : DungeonInstance) : Bool :=
  !dungeon.disconnectedSince.isEmpty

/-- The subtraction is on `size_t`, so it is taken modulo `2 ^ 64`. -/
def connectedParticipantCount (dungeon : DungeonInstance) : Nat :=
  (dungeon.players.size + UInt64.size - dungeon.disconnectedSince.size) % UInt64.size

def findRoom (roomId : RoomId) (dungeon : DungeonInstance) : Option RoomState :=
  dungeon.rooms[roomId]?

def findPlayer (sessionId : SessionId) (dungeon : DungeonInstance) : Option DungeonPlayerState :=
  dungeon.players[sessionId]?

/-- `Start` sets the state before it spawns the first wave, so a throwing spawn leaves a
running dungeon behind. -/
def start (enemyCatalog : EnemyCatalog) (dungeon : DungeonInstance) :
    Except Failure Bool × DungeonInstance :=
  if dungeon.state ≠ .waiting then (.ok false, dungeon)
  else
    let dungeon := { dungeon with state := .running }
    match dungeon.dungeonTemplate.rooms with
    | [] => (.error (.outOfRange "rooms"), dungeon)
    | firstRoom :: _ => match dungeon.rooms[firstRoom.id]? with
      | none => (.error (.outOfRange "rooms"), dungeon)
      | some room => match room.startNextWave enemyCatalog with
        | (.error failure, room) =>
          (.error failure, { dungeon with rooms := dungeon.rooms.insert firstRoom.id room })
        | (.ok _, room) =>
          (.ok true, { dungeon with rooms := dungeon.rooms.insert firstRoom.id room })

def finish (dungeon : DungeonInstance) : Bool × DungeonInstance :=
  if dungeon.state ≠ .running then (false, dungeon)
  else (true, { dungeon with state := .finished })

end DungeonInstance

end DnfServer
