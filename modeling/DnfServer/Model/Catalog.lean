import DnfServer.Model.Instance

/-!
# Admission of content

`EnemyCatalog::AddEnemy` and `DungeonCatalog::AddDungeon`, and the static data of a dungeon as
`HandleDungeonStaticDataRequest` collects it. The loops of `AddDungeon` stop at the first
entry that fails a check; the model states the checks of one entry and asks them of all,
and an insertion into a set of identifiers that must succeed is the absence of duplicates.
-/

namespace DnfServer

open Std

def isValidCollisionBox (box : CollisionBox) : Bool :=
  box.minimum.x < box.maximum.x && box.minimum.y < box.maximum.y && box.minimum.z < box.maximum.z

def EnemyCatalog.addEnemy (enemy : EnemyTemplate) (catalog : EnemyCatalog) : Bool × EnemyCatalog :=
  if enemy.id = 0 ∨ enemy.name.isEmpty ∨ enemy.maxHp = 0 ∨ enemy.moveSpeed < 0 ∨
      ¬ isValidCollisionBox enemy.collision ∨ enemy.collision.minimum.z < 0 ∨
      enemy.id ∈ catalog.enemies then (false, catalog)
  else (true, { enemies := catalog.enemies.insertIfNew enemy.id enemy })

namespace DungeonCatalog

def isValidRoom (room : RoomTemplate) : Bool :=
  room.id != 0 && 0 < room.width && 0 < room.depth && 0 ≤ room.playerSpawn.z &&
    isInsideRoom room room.playerSpawn

/-- A box that lies in the room. -/
def isValidBox (room : RoomTemplate) (box : CollisionBox) : Bool :=
  isValidCollisionBox box && 0 ≤ box.minimum.z && isInsideRoom room box.minimum &&
    isInsideRoom room box.maximum

def isValidPortal (rooms : List RoomTemplate) (room : RoomTemplate) (portal : PortalTemplate) : Bool :=
  portal.id != 0 && isValidBox room portal.triggerArea &&
    (rooms.find? (·.id = portal.targetRoomId)).any fun targetRoom =>
      0 ≤ portal.targetPosition.z && isInsideRoom targetRoom portal.targetPosition

def isValidObstacle (room : RoomTemplate) (obstacle : ObstacleTemplate) : Bool :=
  obstacle.id != 0 && isValidBox room obstacle.collision &&
    !(obstacle.destructible && obstacle.maxHp = 0 || !obstacle.destructible && obstacle.maxHp != 0)

def isValidSpawn (enemyCatalog : EnemyCatalog) (room : RoomTemplate) (spawn : EnemySpawnTemplate) :
    Bool :=
  spawn.id != 0 && (enemyCatalog.getEnemy spawn.enemyTemplateId).isSome && 0 ≤ spawn.position.z &&
    isInsideRoom room spawn.position && spawn.wave != 0

/-- The second loop of `AddDungeon` for one room. -/
def hasValidContents (enemyCatalog : EnemyCatalog) (rooms : List RoomTemplate) (room : RoomTemplate) :
    Prop :=
  (room.portals.map (·.id)).Nodup ∧ (∀ portal ∈ room.portals, isValidPortal rooms room portal) ∧
    (room.obstacles.map (·.id)).Nodup ∧
    (∀ obstacle ∈ room.obstacles, isValidObstacle room obstacle) ∧
    (room.enemySpawns.map (·.id)).Nodup ∧
    ∀ spawn ∈ room.enemySpawns, isValidSpawn enemyCatalog room spawn

instance (enemyCatalog : EnemyCatalog) (rooms : List RoomTemplate) (room : RoomTemplate) :
    Decidable (hasValidContents enemyCatalog rooms room) :=
  inferInstanceAs (Decidable (_ ∧ _))

def addDungeon (enemyCatalog : EnemyCatalog) (templateId : DungeonTemplateId) (name : String)
    (rooms : List RoomTemplate) (recommendedPartySize maxPartySize : UInt8)
    (catalog : DungeonCatalog) : Bool × DungeonCatalog :=
  if templateId = 0 ∨ name.isEmpty ∨ rooms = [] ∨ recommendedPartySize = 0 ∨ maxPartySize = 0 ∨
      recommendedPartySize > maxPartySize ∨ maxPartySize.toNat > maxPartyMembers ∨
      templateId ∈ catalog.dungeons then (false, catalog)
  else if ¬ ((rooms.map (·.id)).Nodup ∧ ∀ room ∈ rooms, isValidRoom room) then (false, catalog)
  else if ¬ ∀ room ∈ rooms, hasValidContents enemyCatalog rooms room then (false, catalog)
  else
    let dungeon : DungeonTemplate :=
      { id := templateId, name, rooms, recommendedPartySize, maxPartySize }
    (true, { dungeons := catalog.dungeons.insertIfNew templateId dungeon })

end DungeonCatalog

/-! ## Static data -/

structure DungeonStaticData where
  dungeonId : DungeonId
  dungeonTemplateId : DungeonTemplateId
  rooms : List RoomTemplate
  enemyTemplates : List EnemyTemplate
  deriving DecidableEq, Repr

/-- The loop over the spawns, with the set of the enemies added so far. -/
def collectEnemies (enemyCatalog : EnemyCatalog) : List EnemyTemplateId → List EnemySpawnTemplate →
    Except Failure (List EnemyTemplate)
  | _, [] => .ok []
  | addedEnemyIds, spawn :: spawns =>
    if spawn.enemyTemplateId ∈ addedEnemyIds then collectEnemies enemyCatalog addedEnemyIds spawns
    else match enemyCatalog.getEnemy spawn.enemyTemplateId with
      | none => .error (.runtimeError "Enemy template was not found")
      | some enemy =>
        (collectEnemies enemyCatalog (spawn.enemyTemplateId :: addedEnemyIds) spawns).map (enemy :: ·)

/-- What a participant of a dungeon with this template is sent. -/
def dungeonStaticData (enemyCatalog : EnemyCatalog) (dungeonId : DungeonId)
    (dungeonTemplate : DungeonTemplate) : Except Failure DungeonStaticData :=
  (collectEnemies enemyCatalog [] (dungeonTemplate.rooms.flatMap (·.enemySpawns))).map fun enemies =>
    { dungeonId, dungeonTemplateId := dungeonTemplate.id, rooms := dungeonTemplate.rooms
      enemyTemplates := enemies.mergeSort fun left right => left.id ≤ right.id }

end DnfServer
