import Mathlib.Data.List.Perm.Basic

/-!
# Rooms, enemies and obstacles

`DungeonRoom`, `EnemyCatalog` and `RoomState` of the server. Coordinates are finite
single-precision numbers in the source and are only compared here, so the model takes
them as exact rationals. Counters, hit points and the small identifiers keep their
32-bit type. A function that can throw returns an `Except` next to the state it
leaves behind, because the state is already changed when the exception leaves it.
-/

namespace DnfServer

open Std

/-- An exception of the source, by its standard class, with its text. -/
inductive Failure where
  | invalidArgument (what : String)
  | runtimeError (what : String)
  | outOfRange (what : String)
  deriving DecidableEq, Repr

abbrev RoomId := UInt32
abbrev PortalId := UInt32
abbrev ObstacleId := UInt32
abbrev EnemySpawnId := UInt32
abbrev EnemyTemplateId := UInt32
abbrev DungeonEntityId := UInt64

structure Position where
  x : Rat := 0
  y : Rat := 0
  z : Rat := 0
  deriving DecidableEq, Repr

structure CollisionBox where
  minimum : Position
  maximum : Position
  deriving DecidableEq, Repr

structure PortalTemplate where
  id : PortalId
  triggerArea : CollisionBox
  targetRoomId : RoomId
  targetPosition : Position
  requiresRoomClear : Bool := true
  deriving DecidableEq, Repr

structure ObstacleTemplate where
  id : ObstacleId
  collision : CollisionBox
  destructible : Bool := false
  maxHp : UInt32 := 0
  deriving DecidableEq, Repr

structure EnemySpawnTemplate where
  id : EnemySpawnId
  enemyTemplateId : EnemyTemplateId
  position : Position
  wave : UInt32 := 1
  deriving DecidableEq, Repr

structure RoomTemplate where
  id : RoomId
  width : Rat
  depth : Rat
  playerSpawn : Position
  portals : List PortalTemplate := []
  obstacles : List ObstacleTemplate := []
  enemySpawns : List EnemySpawnTemplate := []
  deriving DecidableEq, Repr

def isInsideRoom (room : RoomTemplate) (position : Position) : Bool :=
  0 ≤ position.x && position.x ≤ room.width && 0 ≤ position.y && position.y ≤ room.depth

def isInsideCollisionBox (box : CollisionBox) (position : Position) : Bool :=
  box.minimum.x ≤ position.x && position.x ≤ box.maximum.x &&
    box.minimum.y ≤ position.y && position.y ≤ box.maximum.y &&
    box.minimum.z ≤ position.z && position.z ≤ box.maximum.z

/-! ## The enemy catalog -/

inductive EnemyAiType where
  | melee | ranged | boss
  deriving DecidableEq, Repr

structure EnemyTemplate where
  id : EnemyTemplateId
  name : String
  maxHp : UInt32
  moveSpeed : Rat
  aiType : EnemyAiType
  collision : CollisionBox
  deriving DecidableEq, Repr

structure EnemyCatalog where
  enemies : ExtTreeMap UInt32 EnemyTemplate := ∅

def EnemyCatalog.getEnemy (catalog : EnemyCatalog) (enemyId : EnemyTemplateId) :
    Option EnemyTemplate :=
  catalog.enemies[enemyId]?

/-! ## The state of one room -/

structure EnemyState where
  entityId : DungeonEntityId
  spawnId : EnemySpawnId
  enemyTemplateId : EnemyTemplateId
  position : Position
  currentHp : UInt32
  alive : Bool := true
  deriving DecidableEq, Repr

structure ObstacleState where
  obstacleId : ObstacleId
  currentHp : UInt32
  destructible : Bool
  destroyed : Bool := false
  deriving DecidableEq, Repr

inductive PositionCheckResult where
  | valid | outsideRoom | blockedByObstacle
  deriving DecidableEq, Repr

structure RoomState where
  roomTemplate : RoomTemplate
  currentWave : UInt32
  lastWave : UInt32
  enemies : List EnemyState
  obstacles : List ObstacleState
  deriving DecidableEq, Repr

def makeEnemyEntityId (roomId : RoomId) (spawnId : EnemySpawnId) : DungeonEntityId :=
  (roomId.toUInt64 <<< 32) ||| spawnId.toUInt64

namespace RoomState

/-- The constructor of `RoomState`. -/
def new (roomTemplate : RoomTemplate) : RoomState where
  roomTemplate := roomTemplate
  currentWave := 0
  lastWave := roomTemplate.enemySpawns.foldl (fun last spawn => max last spawn.wave) 0
  enemies := []
  obstacles := roomTemplate.obstacles.map fun obstacle =>
    { obstacleId := obstacle.id, currentHp := obstacle.maxHp, destructible := obstacle.destructible }

def id (room : RoomState) : RoomId := room.roomTemplate.id

def hasLivingEnemy (room : RoomState) : Bool := room.enemies.any (·.alive)

/-- The least wave above the current one that some spawn belongs to, `0` if there is none. -/
def nextWave (room : RoomState) : UInt32 :=
  room.roomTemplate.enemySpawns.foldl (fun next spawn =>
    if spawn.wave > room.currentWave ∧ (next = 0 ∨ spawn.wave < next) then spawn.wave else next) 0

/-- The loop of `StartNextWave` that adds one enemy for each spawn of the wave. An enemy
without a template ends it by an exception, with the earlier enemies already added. -/
def spawnWave (catalog : EnemyCatalog) (wave : UInt32) (room : RoomState) :
    List EnemySpawnTemplate → Except Failure Unit × RoomState
  | [] => (.ok (), room)
  | spawn :: spawns =>
    if spawn.wave ≠ wave then spawnWave catalog wave room spawns
    else match catalog.getEnemy spawn.enemyTemplateId with
      | none => (.error (.runtimeError "Enemy template not found"), room)
      | some enemyTemplate =>
        let enemy : EnemyState :=
          { entityId := makeEnemyEntityId room.roomTemplate.id spawn.id
            spawnId := spawn.id
            enemyTemplateId := spawn.enemyTemplateId
            position := spawn.position
            currentHp := enemyTemplate.maxHp }
        spawnWave catalog wave { room with enemies := room.enemies ++ [enemy] } spawns

def startNextWave (catalog : EnemyCatalog) (room : RoomState) : Except Failure Bool × RoomState :=
  if room.hasLivingEnemy then (.ok false, room)
  else if room.nextWave = 0 then (.ok false, room)
  else match spawnWave catalog room.nextWave room room.roomTemplate.enemySpawns with
    | (.error failure, spawned) => (.error failure, spawned)
    | (.ok (), spawned) => (.ok true, { spawned with currentWave := room.nextWave })

/-- One enemy after a blow that it survives or not. -/
def damageEnemy (damage : UInt32) (enemy : EnemyState) : EnemyState :=
  if damage ≥ enemy.currentHp then { enemy with currentHp := 0, alive := false }
  else { enemy with currentHp := enemy.currentHp - damage }

def applyEnemyDamage (entityId : DungeonEntityId) (damage : UInt32) (room : RoomState) :
    Bool × RoomState :=
  match room.enemies.findIdx? (·.entityId = entityId) with
  | none => (false, room)
  | some index =>
    if room.enemies[index]?.any (·.alive) ∧ damage ≠ 0 then
      (true, { room with enemies := room.enemies.modify index (damageEnemy damage) })
    else (false, room)

/-- One obstacle after a blow that it survives or not. -/
def damageObstacle (damage : UInt32) (obstacle : ObstacleState) : ObstacleState :=
  if damage ≥ obstacle.currentHp then { obstacle with currentHp := 0, destroyed := true }
  else { obstacle with currentHp := obstacle.currentHp - damage }

def applyObstacleDamage (obstacleId : ObstacleId) (damage : UInt32) (room : RoomState) :
    Bool × RoomState :=
  match room.obstacles.findIdx? (·.obstacleId = obstacleId) with
  | none => (false, room)
  | some index =>
    if room.obstacles[index]?.any (fun obstacle => obstacle.destructible && !obstacle.destroyed) ∧
        damage ≠ 0 then
      (true, { room with obstacles := room.obstacles.modify index (damageObstacle damage) })
    else (false, room)

def isCleared (room : RoomState) : Bool :=
  room.currentWave = room.lastWave && !room.hasLivingEnemy

def checkPosition (room : RoomState) (position : Position) : PositionCheckResult :=
  if position.z < 0 ∨ ¬ isInsideRoom room.roomTemplate position then .outsideRoom
  else if (room.roomTemplate.obstacles.zip room.obstacles).any fun obstacle =>
      !obstacle.2.destroyed && isInsideCollisionBox obstacle.1.collision position
    then .blockedByObstacle
  else .valid

end RoomState

end DnfServer
