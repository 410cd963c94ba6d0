import DnfServer.Model.UdpSession

/-!
# The snapshot of a dungeon

What `EncodeDungeonSnapshot` of the server writes into a message and what
`DungeonProtocolCodec.TryDecodeSnapshot` of the client checks in it. The tables are those of
the schema, with their fields as the generated accessors return them; the bytes in between
belong to the FlatBuffers library.
-/

namespace DnfServer

open Std

namespace Protocol

structure SkillCooldownSnapshot where
  skillId : UInt32
  remainingTicks : UInt32
  deriving DecidableEq, Repr

structure PlayerSnapshot where
  sessionId : SessionId
  roomId : RoomId
  position : Option Position
  currentMp : UInt32
  maxMp : UInt32
  currentHp : UInt32
  maxHp : UInt32
  alive : Bool
  skillId : UInt32
  skillPhase : UInt8
  skillRemainingTicks : UInt32
  cooldowns : List SkillCooldownSnapshot
  deriving DecidableEq, Repr

structure EnemySnapshot where
  entityId : DungeonEntityId
  enemyTemplateId : EnemyTemplateId
  roomId : RoomId
  position : Option Position
  currentHp : UInt32
  alive : Bool
  deriving DecidableEq, Repr

structure DungeonSnapshot where
  serverTick : UInt32
  players : List PlayerSnapshot
  enemies : List EnemySnapshot
  state : UInt8
  deriving DecidableEq, Repr

/-- A message whose payload is a snapshot, or not. -/
structure SnapshotMessage where
  protocolVersion : UInt16
  dungeonId : DungeonId
  payload : Option DungeonSnapshot
  deriving DecidableEq, Repr

end Protocol

/-! ## The server -/

def toProtocolSkillPhase : SkillActionPhase → UInt8
  | .idle => 0
  | .startup => 1
  | .active => 2
  | .recovery => 3

def toProtocolDungeonState : DungeonState → UInt8
  | .waiting => 0
  | .running => 1
  | .finished => 2

structure DungeonEnemySnapshot where
  roomId : RoomId
  enemy : EnemyState
  deriving DecidableEq, Repr

/-- The enemies of all rooms, dead ones included, in the order of the template. -/
def DungeonInstance.enemySnapshots (dungeon : DungeonInstance) : List DungeonEnemySnapshot :=
  dungeon.dungeonTemplate.rooms.flatMap fun roomTemplate =>
    match dungeon.findRoom roomTemplate.id with
    | none => []
    | some room => room.enemies.map fun enemy => { roomId := roomTemplate.id, enemy }

/-- `CreatePlayerSnapshot` with the values of a player. -/
def encodePlayerSnapshot (sessionId : SessionId) (snapshot : DungeonPlayerSnapshot) :
    Protocol.PlayerSnapshot where
  sessionId := sessionId
  roomId := snapshot.roomId
  position := some snapshot.position
  currentMp := snapshot.currentMp
  maxMp := snapshot.maxMp
  currentHp := snapshot.currentHp
  maxHp := snapshot.maxHp
  alive := snapshot.alive
  skillId := snapshot.skillAction.skillId
  skillPhase := toProtocolSkillPhase snapshot.skillAction.phase
  skillRemainingTicks := snapshot.skillAction.remainingTicks
  cooldowns := snapshot.cooldowns.map fun cooldown => ⟨cooldown.skillId, cooldown.remainingTicks⟩

/-- The loop over the participants; one without a state throws. -/
def encodePlayers (dungeon : DungeonInstance) :
    List SessionId → Except Failure (List Protocol.PlayerSnapshot)
  | [] => .ok []
  | sessionId :: rest => match dungeon.findPlayer sessionId with
    | none => .error (.runtimeError "Dungeon player state not found")
    | some player => (encodePlayers dungeon rest).map
        (encodePlayerSnapshot sessionId player.snapshot :: ·)

def encodeDungeonSnapshot (dungeon : DungeonInstance) (serverTick : UInt32) :
    Except Failure Protocol.SnapshotMessage :=
  (encodePlayers dungeon dungeon.participants).map fun players =>
    { protocolVersion := dungeonProtocolVersion
      dungeonId := dungeon.dungeonId
      payload := some
        { serverTick, players
          enemies := dungeon.enemySnapshots.map fun snapshot =>
            { entityId := snapshot.enemy.entityId
              enemyTemplateId := snapshot.enemy.enemyTemplateId
              roomId := snapshot.roomId
              position := some snapshot.enemy.position
              currentHp := snapshot.enemy.currentHp
              alive := snapshot.enemy.alive }
          state := toProtocolDungeonState dungeon.state } }

/-! ### Sending -/

def maxDungeonDatagramSize : Nat := 1200

/-- The part of `DungeonUdpSession` under `snapshotMutex_`. -/
structure SnapshotPump where
  stopped : Bool := false
  acceptedSnapshotCount : Nat := 0
  replacedSnapshotCount : Nat := 0
  oversizedSnapshotCount : Nat := 0
  pendingSnapshot : Option (List UInt8) := none
  snapshotPumpScheduled : Bool := false

/-- `SendSnapshot`; the pump that it schedules runs later on the strand. -/
def SnapshotPump.sendSnapshot (bytes : List UInt8) (pump : SnapshotPump) : Bool × SnapshotPump :=
  if bytes = [] then (false, pump)
  else if bytes.length > maxDungeonDatagramSize then
    (false, { pump with oversizedSnapshotCount := pump.oversizedSnapshotCount + 1 })
  else if pump.stopped then (false, pump)
  else (true, { pump with
    acceptedSnapshotCount := pump.acceptedSnapshotCount + 1
    replacedSnapshotCount := pump.replacedSnapshotCount + if pump.pendingSnapshot.isSome then 1 else 0
    pendingSnapshot := some bytes
    snapshotPumpScheduled := true })

/-! ## The client -/

namespace Client

def maxDatagramSize : Nat := 1200

/-- The first check of `ReceiveLoopAsync`. -/
def passesSizeFilter (buffer : List UInt8) : Bool := !(buffer.length > maxDatagramSize)

inductive DungeonStateData where
  | waiting | running | finished
  deriving DecidableEq, Repr

inductive SkillPhaseData where
  | idle | startup | active | recovery
  deriving DecidableEq, Repr

structure SkillCooldownData where
  skillId : UInt32
  remainingTicks : UInt32
  deriving DecidableEq, Repr

structure PlayerSnapshotData where
  sessionId : SessionId
  roomId : RoomId
  position : Position
  currentHp : UInt32
  maxHp : UInt32
  alive : Bool
  currentMp : UInt32
  maxMp : UInt32
  skillId : UInt32
  skillPhase : SkillPhaseData
  skillRemainingTicks : UInt32
  cooldowns : List SkillCooldownData
  deriving DecidableEq, Repr

structure EnemySnapshotData where
  entityId : DungeonEntityId
  enemyTemplateId : EnemyTemplateId
  roomId : RoomId
  position : Position
  currentHp : UInt32
  alive : Bool
  deriving DecidableEq, Repr

structure DungeonSnapshotData where
  dungeonId : DungeonId
  serverTick : UInt32
  state : DungeonStateData
  players : List PlayerSnapshotData
  enemies : List EnemySnapshotData
  deriving DecidableEq, Repr

def protocolVersion : UInt16 := 2

/-- `Enum.IsDefined` after the cast from the byte. -/
def DungeonStateData.ofByte : UInt8 → Option DungeonStateData
  | 0 => some .waiting
  | 1 => some .running
  | 2 => some .finished
  | _ => none

def SkillPhaseData.ofByte : UInt8 → Option SkillPhaseData
  | 0 => some .idle
  | 1 => some .startup
  | 2 => some .active
  | 3 => some .recovery
  | _ => none

/-- The loop over the cooldowns of a player, with the set of the skills seen so far. -/
def decodeCooldowns : List UInt32 → List Protocol.SkillCooldownSnapshot →
    Option (List SkillCooldownData)
  | _, [] => some []
  | cooldownSkillIds, cooldown :: rest =>
    if cooldown.skillId = 0 ∨ cooldown.remainingTicks = 0 ∨ cooldown.skillId ∈ cooldownSkillIds then
      none
    else (decodeCooldowns (cooldown.skillId :: cooldownSkillIds) rest).map
      (⟨cooldown.skillId, cooldown.remainingTicks⟩ :: ·)

/-- The body of the loop over the players. -/
def decodePlayer (player : Protocol.PlayerSnapshot) : Option PlayerSnapshotData := do
  let position ← player.position
  if player.maxHp = 0 ∨ player.currentHp > player.maxHp ∨
      player.alive ≠ decide (player.currentHp > 0) ∨ player.maxMp = 0 ∨
      player.currentMp > player.maxMp then none
  else
    let skillPhase ← SkillPhaseData.ofByte player.skillPhase
    if skillPhase = .idle ∧ (player.skillId ≠ 0 ∨ player.skillRemainingTicks ≠ 0) ∨
        skillPhase ≠ .idle ∧ (player.skillId = 0 ∨ player.skillRemainingTicks = 0) then none
    else
      let cooldowns ← decodeCooldowns [] player.cooldowns
      return {
        sessionId := player.sessionId, roomId := player.roomId, position
        currentHp := player.currentHp, maxHp := player.maxHp, alive := player.alive
        currentMp := player.currentMp, maxMp := player.maxMp, skillId := player.skillId, skillPhase
        skillRemainingTicks := player.skillRemainingTicks, cooldowns }

/-- The body of the loop over the enemies. -/
def decodeEnemy (enemy : Protocol.EnemySnapshot) : Option EnemySnapshotData := do
  let position ← enemy.position
  return {
    entityId := enemy.entityId, enemyTemplateId := enemy.enemyTemplateId, roomId := enemy.roomId
    position, currentHp := enemy.currentHp, alive := enemy.alive }

/-- `TryDecodeSnapshot` of a message that the library has verified. -/
def tryDecodeSnapshot (message : Protocol.SnapshotMessage) : Option DungeonSnapshotData := do
  if message.protocolVersion ≠ protocolVersion ∨ message.dungeonId = 0 then none
  else
    let snapshot ← message.payload
    let state ← DungeonStateData.ofByte snapshot.state
    let players ← snapshot.players.mapM decodePlayer
    let enemies ← snapshot.enemies.mapM decodeEnemy
    return {
      dungeonId := message.dungeonId, serverTick := snapshot.serverTick, state, players, enemies }

end Client

end DnfServer
