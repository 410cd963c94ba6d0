import DnfServer.Library.Dictionaries
import DnfServer.Model.Catalog
import DnfServer.Model.TcpClient
import DnfServer.Model.UdpSession

/-!
# Static data on the wire

`IsValidStaticData` and the encoder of `DungeonStaticDataProtocol`, the handler that fills in the
response, and the `DungeonStaticDataCodec` of the client. Both validators meet numbers that are
not finite, so the records here are over an arbitrary kind of coordinates. What a validator
inserts into a set or a dictionary must be new, and `addEach` is that loop. An enumeration is an
inductive type, so the checks that a result and an AI type are in range have nothing to refuse.
FlatBuffers carries the response field by field; the tables are the arguments of the decoders.
-/

namespace DnfServer

open Std DnfServer.Library

/-- A kind of numbers that coordinates are taken from. Its comparisons need not form an order
on numbers that are not finite. -/
class Coordinate (κ : Type) extends LT κ, LE κ, Zero κ where
  isFinite : κ → Bool
  decidableLT : DecidableLT κ
  decidableLE : DecidableLE κ

instance Coordinate.instDecidableLT (κ : Type) [Coordinate κ] : DecidableLT κ := Coordinate.decidableLT

instance Coordinate.instDecidableLE (κ : Type) [Coordinate κ] : DecidableLE κ := Coordinate.decidableLE

namespace Single

def isNaN (x : Single) : Bool := x.exponent = 255 && x.fraction != 0

/-- Every comparison with a number that is none is false. An infinity compares by `value` as
well: its magnitude is above that of every finite number. -/
instance : Coordinate Single where
  lt x y := ¬ x.isNaN ∧ ¬ y.isNaN ∧ x.value < y.value
  le x y := ¬ x.isNaN ∧ ¬ y.isNaN ∧ x.value ≤ y.value
  zero := ⟨0⟩
  isFinite := isFinite
  decidableLT x y := inferInstanceAs (Decidable (¬ x.isNaN ∧ ¬ y.isNaN ∧ x.value < y.value))
  decidableLE x y := inferInstanceAs (Decidable (¬ x.isNaN ∧ ¬ y.isNaN ∧ x.value ≤ y.value))

end Single

/-- The coordinates of the catalogs, which are finite. -/
instance : Coordinate Rat where
  zero := 0
  isFinite _ := true
  decidableLT := inferInstance
  decidableLE := inferInstance

inductive DungeonStaticDataResult where
  | success | dungeonNotFound | notDungeonParticipant
  deriving DecidableEq, Repr

namespace StaticData

/-! ## The server -/

structure Position (κ : Type) where
  x : κ
  y : κ
  z : κ
  deriving DecidableEq, Repr

structure CollisionBox (κ : Type) where
  minimum : Position κ
  maximum : Position κ
  deriving DecidableEq, Repr

structure PortalTemplate (κ : Type) where
  id : PortalId
  triggerArea : CollisionBox κ
  targetRoomId : RoomId
  targetPosition : Position κ
  requiresRoomClear : Bool
  deriving DecidableEq, Repr

structure ObstacleTemplate (κ : Type) where
  id : ObstacleId
  collision : CollisionBox κ
  destructible : Bool
  maxHp : UInt32
  deriving DecidableEq, Repr

structure EnemySpawnTemplate (κ : Type) where
  id : EnemySpawnId
  enemyTemplateId : EnemyTemplateId
  position : Position κ
  wave : UInt32
  deriving DecidableEq, Repr

structure RoomTemplate (κ : Type) where
  id : RoomId
  width : κ
  depth : κ
  playerSpawn : Position κ
  portals : List (PortalTemplate κ)
  obstacles : List (ObstacleTemplate κ)
  enemySpawns : List (EnemySpawnTemplate κ)
  deriving DecidableEq, Repr

structure EnemyTemplate (κ : Type) where
  id : EnemyTemplateId
  name : String
  maxHp : UInt32
  moveSpeed : κ
  aiType : EnemyAiType
  collision : CollisionBox κ
  deriving DecidableEq, Repr

variable {κ : Type} [Coordinate κ]

def isFinite (position : Position κ) : Bool :=
  Coordinate.isFinite position.x && Coordinate.isFinite position.y &&
    Coordinate.isFinite position.z

def isInsideRoom (room : RoomTemplate κ) (position : Position κ) : Bool :=
  0 ≤ position.x && position.x ≤ room.width && 0 ≤ position.y && position.y ≤ room.depth

def isValidCollisionBox (box : CollisionBox κ) : Bool :=
  box.minimum.x < box.maximum.x && box.minimum.y < box.maximum.y && box.minimum.z < box.maximum.z

def isValidBox (box : CollisionBox κ) : Bool :=
  isFinite box.minimum && isFinite box.maximum && isValidCollisionBox box

/-! A check of the source is a chain of reasons to refuse an entry; it reads here as the
conjunction of their negations, without the insertion into the set. -/

def isValidEnemy (enemy : EnemyTemplate κ) : Bool :=
  enemy.id != 0 && !enemy.name.isEmpty && enemy.maxHp != 0 &&
    Coordinate.isFinite enemy.moveSpeed && !decide (enemy.moveSpeed < 0) &&
    isValidBox enemy.collision && !decide (enemy.collision.minimum.z < 0)

def isValidRoom (room : RoomTemplate κ) : Bool :=
  room.id != 0 && Coordinate.isFinite room.width && Coordinate.isFinite room.depth &&
    !decide (room.width ≤ 0) && !decide (room.depth ≤ 0) && isFinite room.playerSpawn &&
    !decide (room.playerSpawn.z < 0) && isInsideRoom room room.playerSpawn

def isValidPortal (roomById : List (RoomTemplate κ)) (room : RoomTemplate κ)
    (portal : PortalTemplate κ) : Bool :=
  portal.id != 0 && isValidBox portal.triggerArea &&
    !decide (portal.triggerArea.minimum.z < 0) && isInsideRoom room portal.triggerArea.minimum &&
    isInsideRoom room portal.triggerArea.maximum &&
    (roomById.find? (·.id = portal.targetRoomId)).any fun targetRoom =>
      isFinite portal.targetPosition && !decide (portal.targetPosition.z < 0) &&
        isInsideRoom targetRoom portal.targetPosition

def isValidObstacle (room : RoomTemplate κ) (obstacle : ObstacleTemplate κ) : Bool :=
  let invalidHp := obstacle.destructible && obstacle.maxHp = 0 ||
    !obstacle.destructible && obstacle.maxHp != 0
  obstacle.id != 0 && isValidBox obstacle.collision &&
    !decide (obstacle.collision.minimum.z < 0) && isInsideRoom room obstacle.collision.minimum &&
    isInsideRoom room obstacle.collision.maximum && !invalidHp

def isValidSpawn (enemyTemplateIds : List (EnemyTemplate κ)) (room : RoomTemplate κ)
    (spawn : EnemySpawnTemplate κ) : Bool :=
  spawn.id != 0 && enemyTemplateIds.any (·.id = spawn.enemyTemplateId) &&
    isFinite spawn.position && !decide (spawn.position.z < 0) &&
    isInsideRoom room spawn.position && spawn.wave != 0

/-- The last loop for one room. -/
def hasValidContents (enemyTemplateIds : List (EnemyTemplate κ)) (roomById : List (RoomTemplate κ))
    (room : RoomTemplate κ) : Bool :=
  (addEach (·.id) (isValidPortal roomById room) [] room.portals).isSome &&
    (addEach (·.id) (isValidObstacle room) [] room.obstacles).isSome &&
    (addEach (·.id) (isValidSpawn enemyTemplateIds room) [] room.enemySpawns).isSome

def isValidStaticData (result : DungeonStaticDataResult) (dungeonId : DungeonId)
    (dungeonTemplateId : DungeonTemplateId) (rooms : List (RoomTemplate κ))
    (enemyTemplates : List (EnemyTemplate κ)) : Bool :=
  if result ≠ .success then
    dungeonId = 0 && dungeonTemplateId = 0 && rooms.isEmpty && enemyTemplates.isEmpty
  else if dungeonId = 0 ∨ dungeonTemplateId = 0 ∨ rooms.isEmpty then false
  else (addEach (·.id) isValidEnemy [] enemyTemplates).any fun enemyTemplateIds =>
    (addEach (·.id) isValidRoom [] rooms).any fun roomById =>
      rooms.all (hasValidContents enemyTemplateIds roomById)

/-- The table that is sent. -/
structure Response (κ : Type) where
  result : DungeonStaticDataResult
  dungeonId : DungeonId
  dungeonTemplateId : DungeonTemplateId
  rooms : List (RoomTemplate κ)
  enemyTemplates : List (EnemyTemplate κ)
  deriving DecidableEq, Repr

/-- `EncodeDungeonStaticDataResponsePayload`. -/
def encodeResponse (result : DungeonStaticDataResult) (dungeonId : DungeonId)
    (dungeonTemplateId : DungeonTemplateId) (rooms : List (RoomTemplate κ))
    (enemyTemplates : List (EnemyTemplate κ)) : Except Failure (Response κ) :=
  if ¬ isValidStaticData result dungeonId dungeonTemplateId rooms enemyTemplates then
    .error (.invalidArgument "Invalid dungeon static data response")
  else .ok { result, dungeonId, dungeonTemplateId, rooms, enemyTemplates }

/-! ### What the catalogs hold -/

def ofPosition (position : DnfServer.Position) : Position Rat :=
  { x := position.x, y := position.y, z := position.z }

def ofBox (box : DnfServer.CollisionBox) : CollisionBox Rat :=
  { minimum := ofPosition box.minimum, maximum := ofPosition box.maximum }

def ofPortal (portal : DnfServer.PortalTemplate) : PortalTemplate Rat :=
  { id := portal.id
    triggerArea := ofBox portal.triggerArea
    targetRoomId := portal.targetRoomId
    targetPosition := ofPosition portal.targetPosition
    requiresRoomClear := portal.requiresRoomClear }

def ofObstacle (obstacle : DnfServer.ObstacleTemplate) : ObstacleTemplate Rat :=
  { id := obstacle.id
    collision := ofBox obstacle.collision
    destructible := obstacle.destructible
    maxHp := obstacle.maxHp }

def ofSpawn (spawn : DnfServer.EnemySpawnTemplate) : EnemySpawnTemplate Rat :=
  { id := spawn.id
    enemyTemplateId := spawn.enemyTemplateId
    position := ofPosition spawn.position
    wave := spawn.wave }

def ofRoom (room : DnfServer.RoomTemplate) : RoomTemplate Rat :=
  { id := room.id
    width := room.width
    depth := room.depth
    playerSpawn := ofPosition room.playerSpawn
    portals := room.portals.map ofPortal
    obstacles := room.obstacles.map ofObstacle
    enemySpawns := room.enemySpawns.map ofSpawn }

def ofEnemy (enemy : DnfServer.EnemyTemplate) : EnemyTemplate Rat :=
  { id := enemy.id
    name := enemy.name
    maxHp := enemy.maxHp
    moveSpeed := enemy.moveSpeed
    aiType := enemy.aiType
    collision := ofBox enemy.collision }

end StaticData

/-- The handling of a decoded request, up to the packet that the response is put into. -/
def DungeonDataRequestHandler.handleDungeonStaticDataRequest (sessionId : SessionId)
    (dungeonId : DungeonId) (manager : DungeonManager) (enemyCatalog : EnemyCatalog)
    (dungeonCatalog : DungeonCatalog) : Except Failure (StaticData.Response Rat) :=
  match manager.findDungeon dungeonId with
  | none => StaticData.encodeResponse .dungeonNotFound 0 0 [] []
  | some dungeon =>
    if ¬ dungeon.hasParticipant sessionId then
      StaticData.encodeResponse .notDungeonParticipant 0 0 [] []
    else match dungeonCatalog.getDungeon dungeon.dungeonTemplate.id with
      | none => .error (.runtimeError "Dungeon template was not found")
      | some dungeonTemplate => do
        let data ← dungeonStaticData enemyCatalog dungeonId dungeonTemplate
        StaticData.encodeResponse .success data.dungeonId data.dungeonTemplateId
          (data.rooms.map StaticData.ofRoom) (data.enemyTemplates.map StaticData.ofEnemy)

/-! ## The client -/

namespace Client

structure StaticPositionData (κ : Type) where
  x : κ
  y : κ
  z : κ
  deriving DecidableEq, Repr

structure StaticCollisionBoxData (κ : Type) where
  minimum : StaticPositionData κ
  maximum : StaticPositionData κ
  deriving DecidableEq, Repr

structure PortalStaticData (κ : Type) where
  portalId : UInt32
  triggerArea : StaticCollisionBoxData κ
  targetRoomId : UInt32
  targetPosition : StaticPositionData κ
  requiresRoomClear : Bool
  deriving DecidableEq, Repr

structure ObstacleStaticData (κ : Type) where
  obstacleId : UInt32
  collision : StaticCollisionBoxData κ
  destructible : Bool
  maxHp : UInt32
  deriving DecidableEq, Repr

structure EnemySpawnStaticData (κ : Type) where
  enemySpawnId : UInt32
  enemyTemplateId : UInt32
  position : StaticPositionData κ
  wave : UInt32
  deriving DecidableEq, Repr

structure RoomStaticData (κ : Type) where
  roomId : UInt32
  width : κ
  depth : κ
  playerSpawn : StaticPositionData κ
  portals : List (PortalStaticData κ)
  obstacles : List (ObstacleStaticData κ)
  enemySpawns : List (EnemySpawnStaticData κ)
  deriving DecidableEq, Repr

structure EnemyTemplateStaticData (κ : Type) where
  enemyTemplateId : UInt32
  displayName : String
  maxHp : UInt32
  moveSpeed : κ
  aiType : EnemyAiType
  collision : StaticCollisionBoxData κ
  deriving DecidableEq, Repr

namespace DungeonStaticDataCodec

/-! ### Decoding -/

def decodePosition {κ : Type} (source : StaticData.Position κ) : StaticPositionData κ :=
  { x := source.x, y := source.y, z := source.z }

def decodeCollision {κ : Type} (source : StaticData.CollisionBox κ) : StaticCollisionBoxData κ :=
  { minimum := decodePosition source.minimum, maximum := decodePosition source.maximum }

/-- The bodies of the loops of `DecodeResponse`. -/
def decodePortal {κ : Type} (portal : StaticData.PortalTemplate κ) : PortalStaticData κ :=
  { portalId := portal.id
    triggerArea := decodeCollision portal.triggerArea
    targetRoomId := portal.targetRoomId
    targetPosition := decodePosition portal.targetPosition
    requiresRoomClear := portal.requiresRoomClear }

def decodeObstacle {κ : Type} (obstacle : StaticData.ObstacleTemplate κ) : ObstacleStaticData κ :=
  { obstacleId := obstacle.id
    collision := decodeCollision obstacle.collision
    destructible := obstacle.destructible
    maxHp := obstacle.maxHp }

def decodeSpawn {κ : Type} (spawn : StaticData.EnemySpawnTemplate κ) : EnemySpawnStaticData κ :=
  { enemySpawnId := spawn.id
    enemyTemplateId := spawn.enemyTemplateId
    position := decodePosition spawn.position
    wave := spawn.wave }

def decodeRoom {κ : Type} (source : StaticData.RoomTemplate κ) : RoomStaticData κ :=
  { roomId := source.id
    width := source.width
    depth := source.depth
    playerSpawn := decodePosition source.playerSpawn
    portals := source.portals.map decodePortal
    obstacles := source.obstacles.map decodeObstacle
    enemySpawns := source.enemySpawns.map decodeSpawn }

def decodeEnemy {κ : Type} (source : StaticData.EnemyTemplate κ) : EnemyTemplateStaticData κ :=
  { enemyTemplateId := source.id
    displayName := source.name
    maxHp := source.maxHp
    moveSpeed := source.moveSpeed
    aiType := source.aiType
    collision := decodeCollision source.collision }

/-! ### Validation -/

variable {κ : Type} [Coordinate κ]

def isFinite (position : StaticPositionData κ) : Bool :=
  Coordinate.isFinite position.x && Coordinate.isFinite position.y &&
    Coordinate.isFinite position.z

def isValidCollision (collision : StaticCollisionBoxData κ) : Bool :=
  isFinite collision.minimum && isFinite collision.maximum &&
    collision.minimum.x < collision.maximum.x && collision.minimum.y < collision.maximum.y &&
    collision.minimum.z < collision.maximum.z

def isInsideRoom (room : RoomStaticData κ) (position : StaticPositionData κ) : Bool :=
  isFinite position && 0 ≤ position.x && position.x ≤ room.width && 0 ≤ position.y &&
    position.y ≤ room.depth && 0 ≤ position.z

def isValidEnemy (enemy : EnemyTemplateStaticData κ) : Bool :=
  enemy.enemyTemplateId != 0 && !enemy.displayName.isEmpty && enemy.maxHp != 0 &&
    Coordinate.isFinite enemy.moveSpeed && !decide (enemy.moveSpeed < 0) &&
    isValidCollision enemy.collision && !decide (enemy.collision.minimum.z < 0)

def isValidRoom (room : RoomStaticData κ) : Bool :=
  room.roomId != 0 && Coordinate.isFinite room.width && Coordinate.isFinite room.depth &&
    !decide (room.width ≤ 0) && !decide (room.depth ≤ 0) && isInsideRoom room room.playerSpawn

def isValidPortal (roomById : List (RoomStaticData κ)) (room : RoomStaticData κ)
    (portal : PortalStaticData κ) : Bool :=
  portal.portalId != 0 && isValidCollision portal.triggerArea &&
    !decide (portal.triggerArea.minimum.z < 0) && isInsideRoom room portal.triggerArea.minimum &&
    isInsideRoom room portal.triggerArea.maximum &&
    (roomById.find? (·.roomId = portal.targetRoomId)).any fun targetRoom =>
      isInsideRoom targetRoom portal.targetPosition

def isValidObstacle (room : RoomStaticData κ) (obstacle : ObstacleStaticData κ) : Bool :=
  let invalidHp := obstacle.destructible != (obstacle.maxHp != 0)
  obstacle.obstacleId != 0 && isValidCollision obstacle.collision &&
    !decide (obstacle.collision.minimum.z < 0) && isInsideRoom room obstacle.collision.minimum &&
    isInsideRoom room obstacle.collision.maximum && !invalidHp

def isValidSpawn (enemyIds : List (EnemyTemplateStaticData κ)) (room : RoomStaticData κ)
    (spawn : EnemySpawnStaticData κ) : Bool :=
  spawn.enemySpawnId != 0 && enemyIds.any (·.enemyTemplateId = spawn.enemyTemplateId) &&
    isInsideRoom room spawn.position && spawn.wave != 0

/-- A loop that throws at the first entry it refuses. -/
def addOrThrow {α : Type} (message : String) (key : α → UInt32) (accept : α → Bool)
    (entries : List α) : Except Failure (List α) :=
  match addEach key accept [] entries with
  | none => .error (.invalidData message)
  | some added => .ok added

/-- The last loop for one room. -/
def validateContents (enemyIds : List (EnemyTemplateStaticData κ))
    (roomById : List (RoomStaticData κ)) (room : RoomStaticData κ) : Except Failure Unit := do
  let _ ← addOrThrow "Invalid portal static values." (·.portalId) (isValidPortal roomById room)
    room.portals
  let _ ← addOrThrow "Invalid obstacle values." (·.obstacleId) (isValidObstacle room) room.obstacles
  let _ ← addOrThrow "Invalid enemy spawn values." (·.enemySpawnId) (isValidSpawn enemyIds room)
    room.enemySpawns

def validateResponse (result : DungeonStaticDataResult) (dungeonId : DungeonId)
    (dungeonTemplateId : UInt32) (rooms : List (RoomStaticData κ))
    (enemies : List (EnemyTemplateStaticData κ)) : Except Failure Unit :=
  if result ≠ .success then
    if dungeonId ≠ 0 ∨ dungeonTemplateId ≠ 0 ∨ rooms.length ≠ 0 ∨ enemies.length ≠ 0 then
      .error (.invalidData "Failed static data must be empty.")
    else .ok ()
  else if dungeonId = 0 ∨ dungeonTemplateId = 0 ∨ rooms.length = 0 then
    .error (.invalidData "Successful static data is incomplete.")
  else do
    let enemyIds ← addOrThrow "Invalid enemy template values." (·.enemyTemplateId) isValidEnemy
      enemies
    let roomById ← addOrThrow "Invalid room static values." (·.roomId) isValidRoom rooms
    rooms.forM (validateContents enemyIds roomById)

end DungeonStaticDataCodec

end Client

end DnfServer
