import DnfServer.Model.Lifecycle

/-!
# Movement, combat and waves

`TryUsePortal`, `AdvanceRoomWaves` and `TryFinishIfCleared` of `DungeonInstance`, and the
work of `DungeonMovementProcessor` and `DungeonCombatProcessor` on one dungeon. The
processors take the inputs one by one, each under the lock of the UDP session, so that
datagrams arrive between two of them: `Processing` is the place that the tick has reached,
and `processStep` does what comes next. Results that only count are left out.

Positions are exact here and single-precision in the source; the two formulas that
compute with them are arguments (`Arithmetic`).
-/

namespace DnfServer

open Std

namespace DungeonInstance

def tryUsePortal (enemyCatalog : EnemyCatalog) (sessionId : SessionId) (dungeon : DungeonInstance) :
    Except Failure UsePortalResult × DungeonInstance :=
  if dungeon.state ≠ .running then (.ok .dungeonNotRunning, dungeon)
  else match dungeon.findPlayer sessionId with
    | none => (.ok .playerNotFound, dungeon)
    | some player => match dungeon.findRoom player.roomId with
      | none => (.ok .targetRoomNotFound, dungeon)
      | some room => match dungeon.dungeonTemplate.rooms.find? (·.id = player.roomId) with
        | none => (.ok .targetRoomNotFound, dungeon)
        | some roomTemplate =>
          match roomTemplate.portals.find? fun portal =>
            isInsideCollisionBox portal.triggerArea player.position with
          | none => (.ok .notInsidePortal, dungeon)
          | some portal =>
            if portal.requiresRoomClear ∧ ¬ room.isCleared then (.ok .roomNotCleared, dungeon)
            else match dungeon.findRoom portal.targetRoomId with
              | none => (.ok .targetRoomNotFound, dungeon)
              | some targetRoom => match player.enterRoom targetRoom portal.targetPosition with
                | (.success, player) =>
                  let started := targetRoom.startNextWave enemyCatalog
                  (started.1.map fun _ => .success, { dungeon with
                    players := dungeon.players.insert sessionId player
                    rooms := dungeon.rooms.insert portal.targetRoomId started.2 })
                | _ => (.ok .targetPositionBlocked, dungeon)

/-- The rooms of the connected players. -/
def occupiedRoomIds (dungeon : DungeonInstance) : List RoomId :=
  ((dungeon.players.toList.filter fun entry => entry.1 ∉ dungeon.disconnectedSince).map
    (·.2.roomId)).dedup

/-- The loop of `AdvanceRoomWaves`; an enemy without a template ends it by an exception. -/
def startWaves (enemyCatalog : EnemyCatalog) :
    List RoomId → DungeonInstance → Except Failure Unit × DungeonInstance
  | [], dungeon => (.ok (), dungeon)
  | roomId :: rest, dungeon => match dungeon.findRoom roomId with
    | none => startWaves enemyCatalog rest dungeon
    | some room => match room.startNextWave enemyCatalog with
      | (.error failure, room) =>
        (.error failure, { dungeon with rooms := dungeon.rooms.insert roomId room })
      | (.ok _, room) =>
        startWaves enemyCatalog rest { dungeon with rooms := dungeon.rooms.insert roomId room }

def advanceRoomWaves (enemyCatalog : EnemyCatalog) (dungeon : DungeonInstance) :
    Except Failure Unit × DungeonInstance :=
  if dungeon.state ≠ .running then (.ok (), dungeon)
  else startWaves enemyCatalog dungeon.occupiedRoomIds dungeon

def tryFinishIfCleared (dungeon : DungeonInstance) : Bool × DungeonInstance :=
  if dungeon.state ≠ .running then (false, dungeon)
  else match dungeon.dungeonTemplate.rooms.getLast? with
    | none => (false, dungeon)
    | some finalRoom =>
      if dungeon.players.isEmpty then (false, dungeon)
      else if dungeon.players.toList.any (·.2.roomId ≠ finalRoom.id) then (false, dungeon)
      else if dungeon.rooms.toList.any (!·.2.isCleared) then (false, dungeon)
      else dungeon.finish

end DungeonInstance

/-! ## Skills -/

inductive SkillEffectType where
  | damage | heal | buff | debuff
  deriving DecidableEq, Repr

inductive SkillTargetType where
  | self | party | enemy
  deriving DecidableEq, Repr

structure SkillEffect where
  type : SkillEffectType := .damage
  target : SkillTargetType := .enemy
  value : Float32 := 0

structure SkillHitBox where
  forwardRange : Float32 := 0
  backwardRange : Float32 := 0
  halfDepth : Float32 := 0
  height : Float32 := 0

structure SkillTemplate where
  id : SkillId
  cooldownTicks : UInt32 := 0
  manaCost : UInt32 := 0
  startupTicks : UInt32 := 0
  activeTicks : UInt32 := 0
  recoveryTicks : UInt32 := 0
  hitBox : SkillHitBox := {}
  effects : List SkillEffect := []

structure SkillCatalog where
  skills : ExtTreeMap UInt32 SkillTemplate := ∅

def SkillCatalog.getSkill (catalog : SkillCatalog) (skillId : SkillId) : Option SkillTemplate :=
  catalog.skills[skillId]?

def dungeonPlayerBaseAttack : Float32 := 40

/-- `CalculateDamage`. The conversion to 32 bits is undefined in C++ for a value out of their range;
here it saturates. -/
def calculateDamage (skill : SkillTemplate) : UInt32 :=
  let damageMultiplier := skill.effects.foldl (fun sum effect =>
    if effect.type = .damage ∧ effect.target = .enemy then sum + effect.value else sum) 0
  if damageMultiplier ≤ 0 then 0
  else
    let damage := (dungeonPlayerBaseAttack * damageMultiplier).round
    (if 1 < damage then damage else 1).toUInt32

structure PendingSkillHit where
  skill : SkillTemplate
  directionX : Single
  directionY : Single

/-- The two computations with coordinates: where a movement input leads from a position in
one tick, and whether a hit box that is turned in a direction reaches an enemy. -/
structure Arithmetic where
  nextPosition : Single → Single → Position → Position
  isInsideSkillHitBox : Position → Position → Single → Single → SkillHitBox → Bool

/-! ## The tick on one dungeon -/

/-- The place that the tick has reached in the processing of a dungeon. -/
inductive Processing where
  | idle
  | popMovements (dungeonId : DungeonId) (latestMovements : IdMap PlayerMovementMessage)
  | applyMovements (dungeonId : DungeonId) (rest : List (SessionId × PlayerMovementMessage))
  | advanceCombat (dungeonId : DungeonId) (rest : List SessionId)
  | popAttacks (dungeonId : DungeonId)
  | beginAttack (dungeonId : DungeonId) (queuedAttack : AuthenticatedPlayerAttack)

/-- The managers, and what the processors keep between two steps. -/
structure Server where
  managers : Managers := {}
  processing : Processing := .idle
  pendingHits : IdMap (IdMap PendingSkillHit) := ∅

namespace DungeonUdpManager

/-- A function of the UDP session of one dungeon, called through the manager. -/
def onSession {α : Type} (dungeonId : DungeonId) (missing : α)
    (call : DungeonUdpSession → α × DungeonUdpSession) (manager : DungeonUdpManager) :
    α × DungeonUdpManager :=
  match manager.sessions[dungeonId]? with
  | none => (missing, manager)
  | some session => ((call session).1,
      { manager with sessions := manager.sessions.insert dungeonId (call session).2 })

def tryPopMovement (dungeonId : DungeonId) (manager : DungeonUdpManager) :
    Option AuthenticatedPlayerMovement × DungeonUdpManager :=
  manager.onSession dungeonId none (·.tryPopMovement)

def tryPopAttack (dungeonId : DungeonId) (manager : DungeonUdpManager) :
    Option AuthenticatedPlayerAttack × DungeonUdpManager :=
  manager.onSession dungeonId none (·.tryPopAttack)

/-- A datagram that reaches the socket of a dungeon. -/
def handleReceive (parse : Parse) (serverTick : UInt32) (dungeonId : DungeonId)
    (datagram : DungeonUdpSession.Datagram) (manager : DungeonUdpManager) :
    Option UdpHelloAckMessage × DungeonUdpManager :=
  manager.onSession dungeonId none (·.handleReceive parse serverTick datagram)

end DungeonUdpManager

/-- Change one live dungeon. The tick alone takes running dungeons out of the manager, so the
pointer it holds and the entry of the manager are the same dungeon. -/
def DungeonManager.modifyDungeon (dungeonId : DungeonId) (change : DungeonInstance → DungeonInstance)
    (manager : DungeonManager) : DungeonManager :=
  match manager.dungeons[dungeonId]? with
  | none => manager
  | some dungeon =>
    { manager with dungeons := manager.dungeons.insert dungeonId (change dungeon) }

namespace DungeonMovementProcessor

/-- The body of the loop over the latest movements. When the wave behind a portal cannot be
spawned, the exception leaves the tick; the model goes on from what it leaves behind. -/
def applyMovement (arithmetic : Arithmetic) (enemyCatalog : EnemyCatalog) (sessionId : SessionId)
    (movement : PlayerMovementMessage) (dungeon : DungeonInstance) : DungeonInstance :=
  match dungeon.findPlayer sessionId with
  | none => dungeon
  | some player => match dungeon.findRoom player.roomId with
    | none => dungeon
    | some room =>
      let position := arithmetic.nextPosition movement.moveX movement.moveY player.position
      match player.moveTo room position with
      | (.success, player) =>
        ({ dungeon with players := dungeon.players.insert sessionId player }.tryUsePortal
          enemyCatalog sessionId).2
      | _ => dungeon

end DungeonMovementProcessor

namespace DungeonCombatProcessor

/-- Change the state of one player, if it is a participant. -/
def modifyPlayer (sessionId : SessionId) (change : DungeonPlayerState → DungeonPlayerState)
    (dungeon : DungeonInstance) : DungeonInstance :=
  match dungeon.findPlayer sessionId with
  | none => dungeon
  | some player => { dungeon with players := dungeon.players.insert sessionId (change player) }

/-- The damage of one active skill to the enemies of a room. -/
def hitEnemies (arithmetic : Arithmetic) (position : Position) (hit : PendingSkillHit)
    (room : RoomState) : RoomState :=
  room.enemies.foldl (fun room enemy =>
    if calculateDamage hit.skill > 0 ∧ enemy.alive ∧ arithmetic.isInsideSkillHitBox position
        enemy.position hit.directionX hit.directionY hit.skill.hitBox then
      (room.applyEnemyDamage enemy.entityId (calculateDamage hit.skill)).2
    else room) room

/-- The loop of `ResolvePendingHits`: the hits that stay pending, and the dungeon. -/
def resolveHits (arithmetic : Arithmetic) : List (SessionId × PendingSkillHit) →
    IdMap PendingSkillHit × DungeonInstance → IdMap PendingSkillHit × DungeonInstance
  | [], acc => acc
  | (sessionId, hit) :: rest, (hits, dungeon) => match dungeon.findPlayer sessionId with
    | none => resolveHits arithmetic rest (hits.erase sessionId, dungeon)
    | some player =>
      if ¬ player.isAlive ∨ player.actionSkillId ≠ hit.skill.id then
        resolveHits arithmetic rest (hits.erase sessionId, dungeon)
      else if player.actionPhase ≠ .active then resolveHits arithmetic rest (hits, dungeon)
      else
        let dungeon := match dungeon.findRoom player.roomId with
          | none => dungeon
          | some room => { dungeon with
              rooms := dungeon.rooms.insert player.roomId
                (hitEnemies arithmetic player.position hit room) }
        resolveHits arithmetic rest (hits.erase sessionId, dungeon)

def resolvePendingHits (arithmetic : Arithmetic) (dungeonId : DungeonId) (server : Server) :
    Server :=
  match server.pendingHits[dungeonId]?, server.managers.dungeons.findDungeon dungeonId with
  | some hits, some dungeon =>
    let resolved := resolveHits arithmetic hits.toList (hits, dungeon)
    { server with
      managers := { server.managers with
        dungeons := server.managers.dungeons.modifyDungeon dungeonId fun _ => resolved.2 }
      pendingHits :=
        if resolved.1.isEmpty then server.pendingHits.erase dungeonId
        else server.pendingHits.insert dungeonId resolved.1 }
  | _, _ => server

/-- The start of a skill by a queued attack. -/
def beginAttack (skillCatalog : SkillCatalog) (dungeonId : DungeonId)
    (queuedAttack : AuthenticatedPlayerAttack) (server : Server) : Server :=
  match (server.managers.dungeons.findDungeon dungeonId).bind (·.findPlayer queuedAttack.sessionId),
    skillCatalog.getSkill queuedAttack.attack.skillId with
  | some player, some skill =>
    match player.beginSkill skill.id skill.manaCost skill.cooldownTicks skill.startupTicks
      skill.activeTicks skill.recoveryTicks with
    | (.success, player) =>
      { server with
        managers := { server.managers with
          dungeons := server.managers.dungeons.modifyDungeon dungeonId
            (modifyPlayer queuedAttack.sessionId fun _ => player) }
        pendingHits := server.pendingHits.insert dungeonId
          ((server.pendingHits[dungeonId]?.getD ∅).insert queuedAttack.sessionId
            { skill, directionX := queuedAttack.attack.directionX
              directionY := queuedAttack.attack.directionY }) }
    | _ => server
  | _, _ => server

end DungeonCombatProcessor

namespace DungeonTickService

open DungeonMovementProcessor DungeonCombatProcessor

def isRunning (dungeonId : DungeonId) (server : Server) : Bool :=
  (server.managers.dungeons.findDungeon dungeonId).any (·.state = .running)

/-- The next step of the processors. `target` is the dungeon that the tick turns to when the
last one is done, and `order` the iteration order of the latest movements. -/
def processStep (arithmetic : Arithmetic) (skillCatalog : SkillCatalog) (enemyCatalog : EnemyCatalog)
    (target : DungeonId) (order : List SessionId) (server : Server) : Server :=
  match server.processing with
  | .idle =>
    if isRunning target server then { server with processing := .popMovements target ∅ }
    else { server with pendingHits := server.pendingHits.erase target }
  | .popMovements dungeonId latestMovements =>
    let popped := server.managers.udp.tryPopMovement dungeonId
    let server := { server with managers := { server.managers with udp := popped.2 } }
    match popped.1 with
    | some queued => { server with
        processing := .popMovements dungeonId
          (latestMovements.insert queued.sessionId queued.movement) }
    | none => { server with
        processing := .applyMovements dungeonId
          (order.filterMap fun sessionId => latestMovements[sessionId]?.map (sessionId, ·)) }
  | .applyMovements dungeonId ((sessionId, movement) :: rest) => { server with
      managers := { server.managers with
        dungeons := server.managers.dungeons.modifyDungeon dungeonId
          (applyMovement arithmetic enemyCatalog sessionId movement) }
      processing := .applyMovements dungeonId rest }
  | .applyMovements dungeonId [] => match server.managers.dungeons.findDungeon dungeonId with
    | some dungeon =>
      if dungeon.state = .running then
        { server with processing := .advanceCombat dungeonId dungeon.participants }
      else { server with
        processing := .idle, pendingHits := server.pendingHits.erase dungeonId }
    | none => { server with
        processing := .idle, pendingHits := server.pendingHits.erase dungeonId }
  | .advanceCombat dungeonId (sessionId :: rest) => { server with
      managers := { server.managers with
        dungeons := server.managers.dungeons.modifyDungeon dungeonId
          (modifyPlayer sessionId (·.advanceCombatTick)) }
      processing := .advanceCombat dungeonId rest }
  | .advanceCombat dungeonId [] =>
    { resolvePendingHits arithmetic dungeonId server with processing := .popAttacks dungeonId }
  | .popAttacks dungeonId =>
    let popped := server.managers.udp.tryPopAttack dungeonId
    let server := { server with managers := { server.managers with udp := popped.2 } }
    match popped.1 with
    | some queuedAttack => { server with processing := .beginAttack dungeonId queuedAttack }
    | none => { resolvePendingHits arithmetic dungeonId server with processing := .idle }
  | .beginAttack dungeonId queuedAttack =>
    { beginAttack skillCatalog dungeonId queuedAttack server with
      processing := .popAttacks dungeonId }

end DungeonTickService

end DnfServer
