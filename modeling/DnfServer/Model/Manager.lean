import DnfServer.Model.Party

/-!
# The dungeon manager

`DungeonManager` of the server. Apart from `CreateDungeon`, whose reads of the party and
of the catalog lie outside the lock, every function holds the manager's mutex throughout
and is one atomic step; `insertDungeon` is the locked part of `CreateDungeon`.

Three functions return at the first dungeon of `dungeons_` that matches, and the
iteration order of an unordered map is unspecified. They take it as the argument
`order`, which lists the keys of `dungeons` in some order (`IterationOrder`). The sweep
only edits the entry it visits, so there the order shows in its report alone and the
model takes the ascending one.
-/

namespace DnfServer

open Std

inductive CreateDungeonStatus where
  | success | partyNotFound | dungeonTemplateNotFound | partyAlreadyInDungeon | serverStopping
  deriving DecidableEq, Repr

structure CreateDungeonResult where
  status : CreateDungeonStatus := .partyNotFound
  dungeon : Option DungeonInstance := none
  deriving DecidableEq

inductive RegisterDungeonSessionStatus where
  | registered | reconnected | invalidIdentity
  deriving DecidableEq, Repr

structure RegisterDungeonSessionResult where
  status : RegisterDungeonSessionStatus := .invalidIdentity
  dungeonId : DungeonId := 0
  replacedSessionId : SessionId := 0
  disconnectedAt : Option Int := none
  deriving DecidableEq, Repr

structure AbandonedDungeonParticipant where
  dungeonId : DungeonId
  sessionId : SessionId
  deriving DecidableEq, Repr

structure DungeonAbandonmentSweep where
  removedParticipants : List AbandonedDungeonParticipant := []
  releasedDungeons : List DungeonId := []
  deriving DecidableEq, Repr

structure DungeonManager where
  nextDungeonId : DungeonId := 1
  dungeons : IdMap DungeonInstance := ∅
  partyDungeons : IdMap DungeonId := ∅
  authenticatedPlayers : IdMap PlayerId := ∅
  activePlayerSessions : IdMap SessionId := ∅
  stopping : Bool := false
  deriving DecidableEq

/-- `order` is a possible iteration order of the map. -/
def IterationOrder {α : Type} (map : IdMap α) (order : List Nat) : Prop :=
  order.Perm map.keys

instance {α : Type} (map : IdMap α) (order : List Nat) : Decidable (IterationOrder map order) :=
  inferInstanceAs (Decidable (order.Perm map.keys))

namespace DungeonManager

/-- The binding loop of `CreateDungeon`. -/
def bindMembers (authenticatedPlayers : IdMap PlayerId) (members : List SessionId)
    (dungeon : DungeonInstance) : DungeonInstance :=
  members.foldl (fun dungeon sessionId => match authenticatedPlayers[sessionId]? with
    | some playerId => (dungeon.bindParticipantPlayer sessionId playerId).2
    | none => dungeon) dungeon

/-- The part of `CreateDungeon` under the lock, on the party and the template read before.
An instance that cannot be constructed leaves only the counter advanced. -/
def insertDungeon (partyId : PartyId) (party : PartyInfo) (dungeonTemplate : DungeonTemplate)
    (now : Int) (manager : DungeonManager) :
    Except Failure CreateDungeonResult × DungeonManager :=
  if manager.stopping then (.ok { status := .serverStopping }, manager)
  else if partyId ∈ manager.partyDungeons then (.ok { status := .partyAlreadyInDungeon }, manager)
  else
    let dungeonId := manager.nextDungeonId
    let manager := { manager with nextDungeonId := manager.nextDungeonId + 1 }
    match DungeonInstance.new dungeonId dungeonTemplate partyId party.members now with
    | .error failure => (.error failure, manager)
    | .ok dungeon =>
      let dungeon := bindMembers manager.authenticatedPlayers party.members dungeon
      (.ok { status := .success, dungeon := some dungeon },
        { manager with
          dungeons := manager.dungeons.insertIfNew dungeonId dungeon
          partyDungeons := manager.partyDungeons.insertIfNew partyId dungeonId })

def createDungeon (parties : PartyManager) (catalog : DungeonCatalog) (partyId : PartyId)
    (templateId : DungeonTemplateId) (now : Int) (manager : DungeonManager) :
    Except Failure CreateDungeonResult × DungeonManager :=
  if manager.stopping then (.ok { status := .serverStopping }, manager)
  else match parties.getParty partyId with
    | none => (.ok { status := .partyNotFound }, manager)
    | some party => match catalog.getDungeon templateId with
      | none => (.ok { status := .dungeonTemplateNotFound }, manager)
      | some dungeonTemplate => manager.insertDungeon partyId party dungeonTemplate now

/-- The first loop of `RegisterPlayerSession`, `DisconnectPlayerSession` and
`FindDungeonByParticipant`: the first dungeon of the order that knows the session. -/
def firstWithParticipant (sessionId : SessionId) (order : List DungeonId)
    (manager : DungeonManager) : Option (DungeonId × DungeonInstance) :=
  order.findSome? fun dungeonId => (manager.dungeons[dungeonId]?).bind fun dungeon =>
    if dungeon.hasParticipant sessionId then some (dungeonId, dungeon) else none

/-- The second loop of `RegisterPlayerSession`: the first unfinished dungeon of the order
that takes the player back. -/
def reconnectLoop (sessionId : SessionId) (playerId : PlayerId) (now : Int)
    (reconnectGrace : Int) : List DungeonId → IdMap DungeonInstance →
    Option (DungeonId × DungeonParticipantReconnect) × IdMap DungeonInstance
  | [], dungeons => (none, dungeons)
  | dungeonId :: rest, dungeons => match dungeons[dungeonId]? with
    | none => reconnectLoop sessionId playerId now reconnectGrace rest dungeons
    | some dungeon =>
      if dungeon.state = .finished then
        reconnectLoop sessionId playerId now reconnectGrace rest dungeons
      else match dungeon.reconnectParticipant playerId sessionId now reconnectGrace with
        | (none, dungeon) =>
          reconnectLoop sessionId playerId now reconnectGrace rest (dungeons.insert dungeonId dungeon)
        | (some reconnect, dungeon) => (some (dungeonId, reconnect), dungeons.insert dungeonId dungeon)

/-- `RegisterPlayerSession` once the identity is recorded: the session is bound in the
first dungeon that knows it, or else takes back a slot of its player. -/
def joinDungeon (sessionId : SessionId) (playerId : PlayerId) (now : Int) (reconnectGrace : Int)
    (order : List DungeonId) (manager : DungeonManager) :
    RegisterDungeonSessionResult × DungeonManager :=
  match manager.firstWithParticipant sessionId order with
  | some (dungeonId, dungeon) => match dungeon.bindParticipantPlayer sessionId playerId with
    | (false, dungeon) => ({}, { manager with
        dungeons := manager.dungeons.insert dungeonId dungeon
        authenticatedPlayers := manager.authenticatedPlayers.erase sessionId
        activePlayerSessions := manager.activePlayerSessions.erase playerId })
    | (true, dungeon) => ({ status := .registered, dungeonId },
        { manager with dungeons := manager.dungeons.insert dungeonId dungeon })
  | none => match reconnectLoop sessionId playerId now reconnectGrace order manager.dungeons with
    | (none, dungeons) => ({ status := .registered }, { manager with dungeons })
    | (some (dungeonId, reconnect), dungeons) =>
      ({ status := .reconnected, dungeonId, replacedSessionId := reconnect.replacedSessionId
         disconnectedAt := some reconnect.disconnectedAt },
        { manager with
          dungeons
          authenticatedPlayers := manager.authenticatedPlayers.erase reconnect.replacedSessionId })

def registerPlayerSession (sessionId : SessionId) (playerId : PlayerId) (now : Int)
    (reconnectGrace : Int) (order : List DungeonId) (manager : DungeonManager) :
    RegisterDungeonSessionResult × DungeonManager :=
  if sessionId = 0 ∨ playerId = 0 ∨ reconnectGrace ≤ 0 then ({}, manager)
  else if manager.stopping then ({}, manager)
  else if manager.authenticatedPlayers[sessionId]?.any (· ≠ playerId) then ({}, manager)
  else if manager.activePlayerSessions[playerId]?.any (· ≠ sessionId) then ({}, manager)
  else
    let manager := { manager with
      authenticatedPlayers := manager.authenticatedPlayers.insertIfNew sessionId playerId
      activePlayerSessions := manager.activePlayerSessions.insertIfNew playerId sessionId }
    manager.joinDungeon sessionId playerId now reconnectGrace order

def rollbackPlayerReconnect (dungeonId : DungeonId) (playerId : PlayerId)
    (newSessionId replacedSessionId : SessionId) (disconnectedAt : Int)
    (manager : DungeonManager) : Bool × DungeonManager :=
  match manager.dungeons[dungeonId]? with
  | none => (false, manager)
  | some dungeon =>
    match dungeon.rollbackParticipantReconnect playerId newSessionId
      { replacedSessionId, disconnectedAt } with
    | (false, dungeon) => (false, { manager with dungeons := manager.dungeons.insert dungeonId dungeon })
    | (true, dungeon) => (true, { manager with
        dungeons := manager.dungeons.insert dungeonId dungeon
        authenticatedPlayers := manager.authenticatedPlayers.erase newSessionId
        activePlayerSessions :=
          if manager.activePlayerSessions[playerId]? = some newSessionId then
            manager.activePlayerSessions.erase playerId
          else manager.activePlayerSessions })

/-- The first half of `DisconnectPlayerSession`: the session gives up its identity. -/
def forgetSession (sessionId : SessionId) (manager : DungeonManager) : DungeonManager :=
  match manager.authenticatedPlayers[sessionId]? with
  | none => manager
  | some playerId => { manager with
      activePlayerSessions :=
        if manager.activePlayerSessions[playerId]? = some sessionId then
          manager.activePlayerSessions.erase playerId
        else manager.activePlayerSessions
      authenticatedPlayers := manager.authenticatedPlayers.erase sessionId }

def disconnectPlayerSession (sessionId : SessionId) (disconnectedAt : Int)
    (order : List DungeonId) (manager : DungeonManager) : Option DungeonId × DungeonManager :=
  if sessionId = 0 then (none, manager)
  else
    let manager := manager.forgetSession sessionId
    match manager.firstWithParticipant sessionId order with
    | none => (none, manager)
    | some (dungeonId, dungeon) => (some dungeonId, { manager with
        dungeons := manager.dungeons.insert dungeonId
          (dungeon.disconnectParticipant sessionId disconnectedAt).2 })

/-- The lifetime test of the sweep. -/
def lifetimeExpired (now : Int) (maxDungeonLifetime : Int) (dungeon : DungeonInstance) : Bool :=
  dungeon.createdAt ≤ now && now - dungeon.createdAt ≥ maxDungeonLifetime

/-- What the sweep removes from one dungeon, and the dungeon it leaves. -/
def sweepDungeon (now : Int) (reconnectGrace maxDungeonLifetime : Int)
    (dungeon : DungeonInstance) : List SessionId × DungeonInstance :=
  if lifetimeExpired now maxDungeonLifetime dungeon then dungeon.removeAllParticipants
  else dungeon.removeExpiredDisconnectedParticipants now reconnectGrace

/-- The test by which the sweep keeps a dungeon, on the dungeon after the removals. -/
def keptBySweep (now : Int) (reconnectGrace maxDungeonLifetime : Int)
    (dungeon : DungeonInstance) : Bool :=
  !lifetimeExpired now maxDungeonLifetime dungeon &&
    !(sweepDungeon now reconnectGrace maxDungeonLifetime dungeon).2.participants.isEmpty

/-- The sweep loop. -/
def sweepLoop (now : Int) (reconnectGrace maxDungeonLifetime : Int) :
    List (DungeonId × DungeonInstance) → DungeonAbandonmentSweep × DungeonManager →
    DungeonAbandonmentSweep × DungeonManager
  | [], acc => acc
  | (dungeonId, dungeon) :: rest, (sweep, manager) =>
    let swept := sweepDungeon now reconnectGrace maxDungeonLifetime dungeon
    let sweep := { sweep with removedParticipants :=
      sweep.removedParticipants ++ swept.1.map fun sessionId => { dungeonId, sessionId } }
    if keptBySweep now reconnectGrace maxDungeonLifetime dungeon then
      sweepLoop now reconnectGrace maxDungeonLifetime rest
        (sweep, { manager with dungeons := manager.dungeons.insert dungeonId swept.2 })
    else
      sweepLoop now reconnectGrace maxDungeonLifetime rest
        ({ sweep with releasedDungeons := sweep.releasedDungeons ++ [dungeonId] },
          { manager with
            partyDungeons := manager.partyDungeons.erase swept.2.partyId
            dungeons := manager.dungeons.erase dungeonId })

def sweepAbandonedParticipants (now : Int) (reconnectGrace maxDungeonLifetime : Int)
    (manager : DungeonManager) : DungeonAbandonmentSweep × DungeonManager :=
  if reconnectGrace ≤ 0 ∨ maxDungeonLifetime ≤ 0 then ({}, manager)
  else sweepLoop now reconnectGrace maxDungeonLifetime manager.dungeons.toList ({}, manager)

def findDungeon (dungeonId : DungeonId) (manager : DungeonManager) : Option DungeonInstance :=
  manager.dungeons[dungeonId]?

/-- `dungeons_.at` throws when the index of parties points to no dungeon. -/
def findDungeonByParty (partyId : PartyId) (manager : DungeonManager) :
    Except Failure (Option DungeonInstance) :=
  match manager.partyDungeons[partyId]? with
  | none => .ok none
  | some dungeonId => match manager.dungeons[dungeonId]? with
    | none => .error (.outOfRange "dungeons")
    | some dungeon => .ok (some dungeon)

def findDungeonByParticipant (sessionId : SessionId) (order : List DungeonId)
    (manager : DungeonManager) : Option DungeonInstance :=
  (manager.firstWithParticipant sessionId order).map (·.2)

def startDungeon (enemyCatalog : EnemyCatalog) (dungeonId : DungeonId) (manager : DungeonManager) :
    Except Failure Bool × DungeonManager :=
  match manager.dungeons[dungeonId]? with
  | none => (.ok false, manager)
  | some dungeon =>
    let started := dungeon.start enemyCatalog
    (started.1, { manager with dungeons := manager.dungeons.insert dungeonId started.2 })

/-- Take a dungeon out of both indices. -/
def removeDungeon (dungeonId : DungeonId) (dungeon : DungeonInstance) (manager : DungeonManager) :
    DungeonManager :=
  { manager with
    partyDungeons := manager.partyDungeons.erase dungeon.partyId
    dungeons := manager.dungeons.erase dungeonId }

def cancelDungeon (dungeonId : DungeonId) (manager : DungeonManager) : Bool × DungeonManager :=
  match manager.dungeons[dungeonId]? with
  | none => (false, manager)
  | some dungeon =>
    if dungeon.state ≠ .waiting then (false, manager)
    else (true, manager.removeDungeon dungeonId dungeon)

def finishDungeon (dungeonId : DungeonId) (manager : DungeonManager) : Bool × DungeonManager :=
  match manager.dungeons[dungeonId]? with
  | none => (false, manager)
  | some dungeon =>
    if dungeon.state = .running ∧ dungeon.finish.1 = false then (false, manager)
    else
      let dungeon := if dungeon.state = .running then dungeon.finish.2 else dungeon
      if dungeon.state ≠ .finished then (false, manager)
      else (true, manager.removeDungeon dungeonId dungeon)

def stop (manager : DungeonManager) : DungeonManager :=
  if manager.stopping then manager
  else { manager with
    stopping := true, partyDungeons := ∅, authenticatedPlayers := ∅
    activePlayerSessions := ∅, dungeons := ∅ }

/-- `WaitingDungeonIds`, `RunningDungeonIds` and `FinishedDungeonIds`. -/
def dungeonIdsIn (state : DungeonState) (manager : DungeonManager) : List DungeonId :=
  (manager.dungeons.toList.filter (·.2.state = state)).map (·.1)

end DungeonManager

end DnfServer
