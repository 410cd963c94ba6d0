import DnfServer.Model.UdpSession

/-!
# The UDP sessions of all dungeons and the lifecycle service

`DungeonUdpManager`, the functions of `DungeonLifecycleService` over both managers, and
the handling of an EnterDungeon request. Every function of the UDP manager holds its mutex
throughout. The random device is an argument: a tape of the 64-bit tokens it yields, or
the sixteen tokens of one rotation. The operating system is one too: the port of a new
socket, or `none` when it cannot be opened or bound.
-/

namespace DnfServer

open Std

def maxTokenAttempts : Nat := 16

structure DungeonUdpManager where
  sessions : IdMap DungeonUdpSession := ∅
  stopping : Bool := false

namespace DungeonUdpManager

/-- The inner loop of `Allocate`: draw until the token is neither zero nor in use. `none`
when the tape ends before that. -/
def drawToken (usedTokens : List DungeonUdpToken) :
    List DungeonUdpToken → Option (DungeonUdpToken × List DungeonUdpToken)
  | [] => none
  | token :: draws =>
    if token = 0 ∨ token ∈ usedTokens then drawToken usedTokens draws else some (token, draws)

/-- The outer loop of `Allocate`: one token for each participant. -/
def drawTokens : List SessionId → List DungeonUdpToken → IdMap DungeonUdpToken →
    List DungeonUdpToken → Option (IdMap DungeonUdpToken)
  | [], _, tokens, _ => some tokens
  | sessionId :: rest, usedTokens, tokens, draws =>
    (drawToken usedTokens draws).bind fun (token, draws) =>
      drawTokens rest (token :: usedTokens) (tokens.insertIfNew sessionId token) draws

/-- `none` when the loops have not ended within the given draws. -/
def allocate (dungeonId : DungeonId) (participants : List SessionId) (socket : Option UInt16)
    (draws : List DungeonUdpToken) (manager : DungeonUdpManager) :
    Option (Option UInt16 × DungeonUdpManager) :=
  if manager.stopping ∨ dungeonId = 0 ∨ participants = [] ∨ dungeonId ∈ manager.sessions then
    some (none, manager)
  else if 0 ∈ participants ∨ ¬ participants.Nodup then some (none, manager)
  else match socket with
    | none => some (none, manager)
    | some port => (drawTokens participants [] ∅ draws).map fun tokens =>
        (some port, { manager with
          sessions := manager.sessions.insertIfNew dungeonId { dungeonId, port, tokens } })

def findToken (dungeonId : DungeonId) (sessionId : SessionId) (manager : DungeonUdpManager) :
    Option DungeonUdpToken :=
  (manager.sessions[dungeonId]?).bind (·.findToken sessionId)

def disconnectParticipant (dungeonId : DungeonId) (sessionId : SessionId)
    (manager : DungeonUdpManager) : Bool × DungeonUdpManager :=
  match manager.sessions[dungeonId]? with
  | none => (false, manager)
  | some session =>
    let disconnected := session.disconnectParticipant sessionId
    (disconnected.1, { manager with sessions := manager.sessions.insert dungeonId disconnected.2 })

/-- The loop of `ReplaceParticipant` over its draws. -/
def replaceAttempts (oldSessionId newSessionId : SessionId) :
    List DungeonUdpToken → DungeonUdpSession → Option DungeonUdpToken × DungeonUdpSession
  | [], session => (none, session)
  | token :: draws, session =>
    if token = 0 then replaceAttempts oldSessionId newSessionId draws session
    else match session.replaceParticipant oldSessionId newSessionId token with
      | (true, session) => (some token, session)
      | (false, session) => replaceAttempts oldSessionId newSessionId draws session

def replaceParticipant (dungeonId : DungeonId) (oldSessionId newSessionId : SessionId)
    (draws : Vector DungeonUdpToken maxTokenAttempts) (manager : DungeonUdpManager) :
    Option DungeonUdpToken × DungeonUdpManager :=
  match manager.sessions[dungeonId]? with
  | none => (none, manager)
  | some session =>
    if (session.findToken oldSessionId).isNone ∨ (session.findToken newSessionId).isSome then
      (none, manager)
    else
      let replaced := replaceAttempts oldSessionId newSessionId draws.toList session
      (replaced.1, { manager with sessions := manager.sessions.insert dungeonId replaced.2 })

def removeParticipant (dungeonId : DungeonId) (sessionId : SessionId)
    (manager : DungeonUdpManager) : Bool × DungeonUdpManager :=
  match manager.sessions[dungeonId]? with
  | none => (false, manager)
  | some session =>
    let removed := session.removeParticipant sessionId
    (removed.1, { manager with sessions := manager.sessions.insert dungeonId removed.2 })

def allParticipantsAuthenticated (dungeonId : DungeonId) (manager : DungeonUdpManager) : Bool :=
  manager.sessions[dungeonId]?.any (·.allParticipantsAuthenticated)

def refreshAllActivity (dungeonId : DungeonId) (now : Int) (manager : DungeonUdpManager) :
    DungeonUdpManager :=
  match manager.sessions[dungeonId]? with
  | none => manager
  | some session =>
    { manager with sessions := manager.sessions.insert dungeonId (session.refreshAllActivity now) }

def removeInactiveEndpoints (dungeonId : DungeonId) (idleTimeout now : Int)
    (manager : DungeonUdpManager) : List SessionId × DungeonUdpManager :=
  match manager.sessions[dungeonId]? with
  | none => ([], manager)
  | some session =>
    let removed := session.removeInactiveEndpoints idleTimeout now
    (removed.1, { manager with sessions := manager.sessions.insert dungeonId removed.2 })

def release (dungeonId : DungeonId) (manager : DungeonUdpManager) : Bool × DungeonUdpManager :=
  if dungeonId ∈ manager.sessions then
    (true, { manager with sessions := manager.sessions.erase dungeonId })
  else (false, manager)

def stop (manager : DungeonUdpManager) : DungeonUdpManager :=
  if manager.stopping then manager else { sessions := ∅, stopping := true }

end DungeonUdpManager

/-! ## The lifecycle service -/

structure DungeonSessionRegistration where
  status : RegisterDungeonSessionStatus := .invalidIdentity
  dungeonId : DungeonId := 0
  replacedSessionId : SessionId := 0
  freshUdpToken : Option DungeonUdpToken := none
  deriving DecidableEq

/-- The two managers that the lifecycle service works on. -/
structure Managers where
  dungeons : DungeonManager := {}
  udp : DungeonUdpManager := {}

/-- The clock readings, iteration orders and draws that one registration meets. The second
pair belongs to the disconnect that follows a failed rollback. -/
structure RegisterInputs where
  now : Int
  order : List DungeonId
  draws : Vector DungeonUdpToken maxTokenAttempts
  disconnectedAt : Int
  disconnectOrder : List DungeonId

namespace DungeonLifecycleService

def registerPlayerSession (sessionId : SessionId) (playerId : PlayerId) (reconnectGrace : Int)
    (inputs : RegisterInputs) (managers : Managers) : DungeonSessionRegistration × Managers :=
  let registered := managers.dungeons.registerPlayerSession sessionId playerId inputs.now
    reconnectGrace inputs.order
  let registration := registered.1
  let result : DungeonSessionRegistration :=
    { status := registration.status, dungeonId := registration.dungeonId
      replacedSessionId := registration.replacedSessionId }
  if registration.status ≠ .reconnected then (result, { managers with dungeons := registered.2 })
  else
    let replaced := managers.udp.replaceParticipant registration.dungeonId
      registration.replacedSessionId sessionId inputs.draws
    if replaced.1.isSome then
      ({ result with freshUdpToken := replaced.1 }, { dungeons := registered.2, udp := replaced.2 })
    else
      let rolledBack := match registration.disconnectedAt with
        | none => (false, registered.2)
        | some disconnectedAt => registered.2.rollbackPlayerReconnect registration.dungeonId playerId
            sessionId registration.replacedSessionId disconnectedAt
      if rolledBack.1 then (result, { dungeons := rolledBack.2, udp := replaced.2 })
      else (result,
        { dungeons := (rolledBack.2.disconnectPlayerSession sessionId inputs.disconnectedAt
            inputs.disconnectOrder).2
          udp := replaced.2 })

def disconnectPlayerSession (sessionId : SessionId) (disconnectedAt : Int)
    (order : List DungeonId) (managers : Managers) : Bool × Managers :=
  match managers.dungeons.disconnectPlayerSession sessionId disconnectedAt order with
  | (none, dungeons) => (false, { managers with dungeons })
  | (some dungeonId, dungeons) =>
    (true, { dungeons, udp := (managers.udp.disconnectParticipant dungeonId sessionId).2 })

def sweepAbandonedParticipants (now reconnectGrace maxDungeonLifetime : Int)
    (managers : Managers) : DungeonAbandonmentSweep × Managers :=
  let swept := managers.dungeons.sweepAbandonedParticipants now reconnectGrace maxDungeonLifetime
  let udp := swept.1.removedParticipants.foldl
    (fun udp participant => (udp.removeParticipant participant.dungeonId participant.sessionId).2)
    managers.udp
  let udp := swept.1.releasedDungeons.foldl (fun udp dungeonId => (udp.release dungeonId).2) udp
  (swept.1, { dungeons := swept.2, udp })

def cancelWaitingDungeon (dungeonId : DungeonId) (managers : Managers) : Bool × Managers :=
  match managers.dungeons.cancelDungeon dungeonId with
  | (false, _) => (false, managers)
  | (true, dungeons) => (true, { dungeons, udp := (managers.udp.release dungeonId).2 })

def finishDungeon (dungeonId : DungeonId) (managers : Managers) : Bool × Managers :=
  match managers.dungeons.finishDungeon dungeonId with
  | (false, _) => (false, managers)
  | (true, dungeons) => (true, { dungeons, udp := (managers.udp.release dungeonId).2 })

end DungeonLifecycleService

/-! ## The EnterDungeon request -/

inductive EnterDungeonResult where
  | success | notInParty | notPartyLeader | dungeonTemplateNotFound | partyAlreadyInDungeon
  | udpAllocationFailed
  deriving DecidableEq, Repr

structure EnterDungeonResponse where
  result : EnterDungeonResult
  dungeonId : DungeonId := 0
  udpPort : UInt16 := 0
  udpToken : DungeonUdpToken := 0
  deriving DecidableEq, Repr

def toEnterDungeonResult : CreateDungeonStatus → EnterDungeonResult
  | .success => .success
  | .partyNotFound => .notInParty
  | .dungeonTemplateNotFound => .dungeonTemplateNotFound
  | .partyAlreadyInDungeon => .partyAlreadyInDungeon
  | .serverStopping => .udpAllocationFailed

namespace PacketDispatcher

/-- What follows a created dungeon: allocation, and cancelling when it is not ready. -/
def openDungeon (sessionId : SessionId) (dungeon : DungeonInstance) (socket : Option UInt16)
    (draws : List DungeonUdpToken) (managers : Managers) :
    Option (Except Failure EnterDungeonResponse × Managers) :=
  (managers.udp.allocate dungeon.dungeonId dungeon.participants socket draws).map
    fun (allocatedPort, udp) =>
      let managers := { managers with udp }
      match allocatedPort, udp.findToken dungeon.dungeonId sessionId with
      | some udpPort, some udpToken =>
        (.ok { result := .success, dungeonId := dungeon.dungeonId, udpPort, udpToken }, managers)
      | _, _ =>
        match DungeonLifecycleService.cancelWaitingDungeon dungeon.dungeonId managers with
        | (false, managers) =>
          (.error (.runtimeError "Failed to cancel dungeon after UDP allocation error"), managers)
        | (true, managers) => (.ok { result := .udpAllocationFailed }, managers)

/-- `HandleEnterDungeonRequest` run without interruption. -/
def handleEnterDungeonRequest (sessionId : SessionId) (templateId : DungeonTemplateId)
    (parties : PartyManager) (catalog : DungeonCatalog) (now : Int) (socket : Option UInt16)
    (draws : List DungeonUdpToken) (managers : Managers) :
    Option (Except Failure EnterDungeonResponse × Managers) :=
  match parties.getJoinedParty sessionId with
  | none => some (.ok { result := .notInParty }, managers)
  | some partyId => match parties.getParty partyId with
    | none => some (.ok { result := .notInParty }, managers)
    | some party =>
      if party.leaderSessionId ≠ sessionId then some (.ok { result := .notPartyLeader }, managers)
      else match managers.dungeons.createDungeon parties catalog partyId templateId now with
        | (.error failure, dungeons) => some (.error failure, { managers with dungeons })
        | (.ok { status := .success, dungeon := some dungeon }, dungeons) =>
          openDungeon sessionId dungeon socket draws { managers with dungeons }
        | (.ok creation, dungeons) =>
          some (.ok { result := toEnterDungeonResult creation.status }, { managers with dungeons })

end PacketDispatcher

end DnfServer
