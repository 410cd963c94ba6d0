import DnfServer.Model.Catalog
import DnfServer.Model.ChannelParty
import DnfServer.Model.Processors

/-!
# Game data files

`GameDataLoader` with `SkillCatalog::AddSkill`. The property tree of a file is what the JSON parser of Boost
makes of it, and a value is the text of a node: what the streams make of that text is a parameter. As in
`Rooms`, a finite number is exact; skills are only checked and kept here, so theirs are as well.

A load that fails leaves in the catalogs what it has added before.
-/

namespace DnfServer

open Std

/-! ## Skills -/

namespace GameData

inductive SkillStat where
  | none | attack | defense | moveSpeed
  deriving DecidableEq, Repr

structure SkillEffect where
  type : SkillEffectType := .damage
  target : SkillTargetType := .enemy
  stat : SkillStat := .none
  value : Rat := 0
  durationTicks : UInt32 := 0
  deriving DecidableEq, Repr

structure SkillHitBox where
  forwardRange : Rat := 0
  backwardRange : Rat := 0
  halfDepth : Rat := 0
  height : Rat := 0
  deriving DecidableEq, Repr

structure SkillTemplate where
  id : SkillId
  name : String
  cooldownTicks : UInt32 := 0
  manaCost : UInt32 := 0
  startupTicks : UInt32 := 0
  activeTicks : UInt32 := 0
  recoveryTicks : UInt32 := 0
  hitBox : SkillHitBox := {}
  effects : List SkillEffect := []
  deriving DecidableEq, Repr

structure SkillCatalog where
  skills : ExtTreeMap UInt32 SkillTemplate := ∅

def isValidTarget (effect : SkillEffect) : Bool :=
  match effect.type with
  | .damage | .debuff => effect.target = .enemy
  | .heal | .buff => effect.target = .self ∨ effect.target = .party

def isValidEffect (effect : SkillEffect) : Bool :=
  if ¬ isValidTarget effect ∨ effect.value ≤ 0 then false
  else if effect.type = .buff ∨ effect.type = .debuff then effect.stat ≠ .none ∧ effect.durationTicks > 0
  else effect.stat = .none ∧ effect.durationTicks = 0

def isValidHitBox (hitBox : SkillHitBox) : Bool :=
  0 < hitBox.forwardRange ∧ 0 ≤ hitBox.backwardRange ∧ 0 < hitBox.halfDepth ∧ 0 < hitBox.height

namespace SkillCatalog

def addSkill (skill : SkillTemplate) (catalog : SkillCatalog) : Bool × SkillCatalog :=
  if skill.id = 0 ∨ skill.name.isEmpty ∨ skill.activeTicks = 0 ∨ ¬ isValidHitBox skill.hitBox ∨
      skill.effects = [] ∨ skill.id ∈ catalog.skills then (false, catalog)
  else if ¬ ∀ effect ∈ skill.effects, isValidEffect effect then (false, catalog)
  else (true, { skills := catalog.skills.insertIfNew skill.id skill })

def getSkill (catalog : SkillCatalog) (skillId : SkillId) : Option SkillTemplate := catalog.skills[skillId]?

end SkillCatalog

end GameData

/-! ## Property trees -/

/-- The text of a node and its children in order. -/
inductive Ptree where
  | node (data : String) (children : List (String × Ptree))

namespace Ptree

def data : Ptree → String
  | node data _ => data

def children : Ptree → List (String × Ptree)
  | node _ children => children

/-- `get_child` for a path of one name. -/
def child (field : String) (tree : Ptree) : Option Ptree := (tree.children.find? (·.1 = field)).map (·.2)

end Ptree

/-- What a stream reads from the whole of a text, and the message of the exception when it does not. -/
structure Conversion (α : Type) where
  read : String → Option α
  badData : String

inductive FloatValue where
  | finite (value : Rat)
  | notFinite
  deriving DecidableEq, Repr

structure Translator where
  uint32 : Conversion UInt32
  uint8 : Conversion UInt8
  size : Conversion Nat
  float : Conversion FloatValue
  bool : Conversion Bool

/-- The text as it is. -/
def stringConversion : Conversion String where
  read := some
  badData := ""

/-! ## Files -/

structure DirectoryEntry where
  path : String
  isRegularFile : Bool
  extension : String
  deriving DecidableEq, Repr

structure JsonParserError where
  line : Nat
  message : String
  deriving DecidableEq, Repr

structure GameDataFiles where
  isDirectory : String → Bool
  isRegularFile : String → Bool
  readJson : String → Except JsonParserError Ptree
  directoryEntries : String → List DirectoryEntry

/-- `directory / name`. -/
def appendPath (directory name : String) : String :=
  if directory.isEmpty ∨ directory.endsWith "/" then directory ++ name else directory ++ "/" ++ name

structure GameDataLoadResult where
  contentVersion : UInt32 := 0
  channelCount : Nat := 0
  skillCount : Nat := 0
  enemyCount : Nat := 0
  dungeonCount : Nat := 0
  deriving DecidableEq, Repr

/-- The catalogs, and the result that `Load` fills. -/
structure GameDataLoader where
  channelManager : ChannelManager := {}
  skillCatalog : GameData.SkillCatalog := {}
  enemyCatalog : EnemyCatalog := {}
  dungeonCatalog : DungeonCatalog := {}
  result : GameDataLoadResult := {}

namespace GameDataLoader

/-! ## Values -/

section

variable {α : Type}

def requireValue (conversion : Conversion α) (tree : Ptree) (field context : String) : Except Failure α :=
  let failure (what : String) : Failure :=
    .runtimeError (context ++ ": field '" ++ field ++ "' is missing or invalid: " ++ what)
  match tree.child field with
  | none => .error (failure ("No such node (" ++ field ++ ")"))
  | some child => match conversion.read child.data with
    | none => .error (failure conversion.badData)
    | some value => .ok value

def requireChild (tree : Ptree) (field context : String) : Except Failure Ptree :=
  match tree.child field with
  | none => .error (.runtimeError (context ++ ": object or array '" ++ field ++
      "' is missing or invalid: No such node (" ++ field ++ ")"))
  | some child => .ok child

def requireArray (tree : Ptree) (context : String) : Except Failure Unit :=
  if tree.children.all (·.1.isEmpty) then .ok () else .error (.runtimeError (context ++ " must be a JSON array"))

/-- The loop over the nodes of an array. -/
def readNodes (read : Ptree → String → Except Failure α) (context : String) :
    Nat → List (String × Ptree) → Except Failure (List α)
  | _, [] => .ok []
  | index, (_, node) :: nodes => do
    let item ← read node (context ++ "[" ++ toString index ++ "]")
    let items ← readNodes read context (index + 1) nodes
    return item :: items

def readArray (read : Ptree → String → Except Failure α) (tree : Ptree) (field context : String) :
    Except Failure (List α) := do
  let array ← requireChild tree field context
  requireArray array (context ++ "." ++ field)
  readNodes read (context ++ "." ++ field) 0 array.children

end

variable (translator : Translator)

def requireFiniteFloat (tree : Ptree) (field context : String) : Except Failure Rat := do
  match ← requireValue translator.float tree field context with
  | .finite value => return value
  | .notFinite => throw (.runtimeError (context ++ ": field '" ++ field ++ "' must be finite"))

def readPosition (tree : Ptree) (context : String) : Except Failure Position := do
  let x ← requireFiniteFloat translator tree "x" context
  let y ← requireFiniteFloat translator tree "y" context
  let z ← requireFiniteFloat translator tree "z" context
  return { x, y, z }

def readCollisionBox (tree : Ptree) (context : String) : Except Failure CollisionBox := do
  let minimum ← readPosition translator (← requireChild tree "minimum" context) (context ++ ".minimum")
  let maximum ← readPosition translator (← requireChild tree "maximum" context) (context ++ ".maximum")
  return { minimum, maximum }

def parseEnemyAiType (value context : String) : Except Failure EnemyAiType :=
  if value = "melee" then .ok .melee
  else if value = "ranged" then .ok .ranged
  else if value = "boss" then .ok .boss
  else .error (.runtimeError (context ++ ": unknown aiType '" ++ value ++ "' (expected melee, ranged, or boss)"))

def parseSkillEffectType (value context : String) : Except Failure SkillEffectType :=
  if value = "damage" then .ok .damage
  else if value = "heal" then .ok .heal
  else if value = "buff" then .ok .buff
  else if value = "debuff" then .ok .debuff
  else .error (.runtimeError
    (context ++ ": unknown effect type '" ++ value ++ "' (expected damage, heal, buff, or debuff)"))

def parseSkillTargetType (value context : String) : Except Failure SkillTargetType :=
  if value = "self" then .ok .self
  else if value = "party" then .ok .party
  else if value = "enemy" then .ok .enemy
  else .error (.runtimeError (context ++ ": unknown target '" ++ value ++ "' (expected self, party, or enemy)"))

def parseSkillStat (value context : String) : Except Failure GameData.SkillStat :=
  if value = "none" then .ok .none
  else if value = "attack" then .ok .attack
  else if value = "defense" then .ok .defense
  else if value = "moveSpeed" then .ok .moveSpeed
  else .error (.runtimeError
    (context ++ ": unknown stat '" ++ value ++ "' (expected none, attack, defense, or moveSpeed)"))

/-! ## Items -/

/-- The fields of an item of `channels`. -/
def readChannel (node : Ptree) (context : String) : Except Failure ChannelInfo := do
  let id ← requireValue translator.uint32 node "id" context
  let name ← requireValue stringConversion node "name" context
  let maxPlayers ← requireValue translator.size node "maxPlayers" context
  return { id, name, maxPlayers }

def readSkillEffect (tree : Ptree) (context : String) : Except Failure GameData.SkillEffect := do
  let type ← parseSkillEffectType (← requireValue stringConversion tree "type" context) context
  let target ← parseSkillTargetType (← requireValue stringConversion tree "target" context) context
  let stat ← parseSkillStat (← requireValue stringConversion tree "stat" context) context
  let value ← requireFiniteFloat translator tree "value" context
  let durationTicks ← requireValue translator.uint32 tree "durationTicks" context
  return { type, target, stat, value, durationTicks }

/-- The fields of `hitBox`. -/
def readHitBox (hitBox : Ptree) (context : String) : Except Failure GameData.SkillHitBox := do
  let forwardRange ← requireFiniteFloat translator hitBox "forwardRange" context
  let backwardRange ← requireFiniteFloat translator hitBox "backwardRange" context
  let halfDepth ← requireFiniteFloat translator hitBox "halfDepth" context
  let height ← requireFiniteFloat translator hitBox "height" context
  return { forwardRange, backwardRange, halfDepth, height }

/-- The fields of an item of `skills`. -/
def readSkill (node : Ptree) (context : String) : Except Failure GameData.SkillTemplate := do
  let id ← requireValue translator.uint32 node "id" context
  let name ← requireValue stringConversion node "name" context
  let cooldownTicks ← requireValue translator.uint32 node "cooldownTicks" context
  let manaCost ← requireValue translator.uint32 node "manaCost" context
  let startupTicks ← requireValue translator.uint32 node "startupTicks" context
  let activeTicks ← requireValue translator.uint32 node "activeTicks" context
  let recoveryTicks ← requireValue translator.uint32 node "recoveryTicks" context
  let hitBox ← readHitBox translator (← requireChild node "hitBox" context) (context ++ ".hitBox")
  let effects ← readArray (readSkillEffect translator) node "effects" context
  return { id, name, cooldownTicks, manaCost, startupTicks, activeTicks, recoveryTicks, hitBox, effects }

/-- The fields of an item of `enemies`. -/
def readEnemy (node : Ptree) (context : String) : Except Failure EnemyTemplate := do
  let id ← requireValue translator.uint32 node "id" context
  let name ← requireValue stringConversion node "name" context
  let maxHp ← requireValue translator.uint32 node "maxHp" context
  let moveSpeed ← requireFiniteFloat translator node "moveSpeed" context
  let aiType ← parseEnemyAiType (← requireValue stringConversion node "aiType" context) context
  let collision ← readCollisionBox translator (← requireChild node "collision" context) (context ++ ".collision")
  return { id, name, maxHp, moveSpeed, aiType, collision }

def readPortal (tree : Ptree) (context : String) : Except Failure PortalTemplate := do
  let id ← requireValue translator.uint32 tree "id" context
  let triggerArea ←
    readCollisionBox translator (← requireChild tree "triggerArea" context) (context ++ ".triggerArea")
  let targetRoomId ← requireValue translator.uint32 tree "targetRoomId" context
  let targetPosition ←
    readPosition translator (← requireChild tree "targetPosition" context) (context ++ ".targetPosition")
  let requiresRoomClear ← requireValue translator.bool tree "requiresRoomClear" context
  return { id, triggerArea, targetRoomId, targetPosition, requiresRoomClear }

def readObstacle (tree : Ptree) (context : String) : Except Failure ObstacleTemplate := do
  let id ← requireValue translator.uint32 tree "id" context
  let collision ← readCollisionBox translator (← requireChild tree "collision" context) (context ++ ".collision")
  let destructible ← requireValue translator.bool tree "destructible" context
  let maxHp ← requireValue translator.uint32 tree "maxHp" context
  return { id, collision, destructible, maxHp }

def readEnemySpawn (tree : Ptree) (context : String) : Except Failure EnemySpawnTemplate := do
  let id ← requireValue translator.uint32 tree "id" context
  let enemyTemplateId ← requireValue translator.uint32 tree "enemyTemplateId" context
  let position ← readPosition translator (← requireChild tree "position" context) (context ++ ".position")
  let wave ← requireValue translator.uint32 tree "wave" context
  return { id, enemyTemplateId, position, wave }

def readRoom (tree : Ptree) (context : String) : Except Failure RoomTemplate := do
  let id ← requireValue translator.uint32 tree "id" context
  let width ← requireFiniteFloat translator tree "width" context
  let depth ← requireFiniteFloat translator tree "depth" context
  let playerSpawn ←
    readPosition translator (← requireChild tree "playerSpawn" context) (context ++ ".playerSpawn")
  let portals ← readArray (readPortal translator) tree "portals" context
  let obstacles ← readArray (readObstacle translator) tree "obstacles" context
  let enemySpawns ← readArray (readEnemySpawn translator) tree "enemySpawns" context
  return { id, width, depth, playerSpawn, portals, obstacles, enemySpawns }

/-- The fields of `dungeon`. -/
def readDungeon (dungeonNode : Ptree) (context : String) : Except Failure DungeonTemplate := do
  let id ← requireValue translator.uint32 dungeonNode "id" context
  let name ← requireValue stringConversion dungeonNode "name" context
  let recommendedPartySize ← requireValue translator.uint8 dungeonNode "recommendedPartySize" context
  let maxPartySize ← requireValue translator.uint8 dungeonNode "maxPartySize" context
  let rooms ← readArray (readRoom translator) dungeonNode "rooms" context
  return { id, name, rooms, recommendedPartySize, maxPartySize }

/-! ## Files and catalogs -/

def readJsonFile (files : GameDataFiles) (path : String) : Except Failure Ptree :=
  if files.isRegularFile path then match files.readJson path with
    | .error error => .error (.runtimeError ("Failed to parse game data file '" ++ path ++ "': line " ++
        toString error.line ++ ": " ++ error.message))
    | .ok tree => .ok tree
  else .error (.runtimeError ("Game data file does not exist: " ++ path))

def readContentVersion (tree : Ptree) (path : String) : Except Failure UInt32 := do
  let version ← requireValue translator.uint32 tree "contentVersion" path
  if version = 0 then throw (.runtimeError (path ++ ": contentVersion must be greater than zero"))
  else return version

/-- The version that the result has afterwards. -/
def acceptContentVersion (candidate : UInt32) (path : String) (result : GameDataLoadResult) :
    Except Failure UInt32 :=
  if result.contentVersion = 0 then .ok candidate
  else if candidate ≠ result.contentVersion then
    .error (.runtimeError (path ++ ": contentVersion " ++ toString candidate.toNat ++
      " does not match expected version " ++ toString result.contentVersion.toNat))
  else .ok result.contentVersion

/-- The tree of a file whose content version is accepted, with that version. -/
def openFile (files : GameDataFiles) (path : String) (loader : GameDataLoader) :
    Except Failure (Ptree × UInt32) := do
  let tree ← readJsonFile files path
  let version ← acceptContentVersion (← readContentVersion translator tree path) path loader.result
  return (tree, version)

def withVersion (version : UInt32) (loader : GameDataLoader) : GameDataLoader :=
  { loader with result := { loader.result with contentVersion := version } }

/-- One of the three files with a collection: how its items are read and added, and how they are called. -/
structure Collection (Item : Type) where
  field : String
  item : String
  id : Item → UInt32
  read : Ptree → String → Except Failure Item
  add : Item → GameDataLoader → Bool × GameDataLoader

section

variable {Item : Type} (collection : Collection Item)

def itemContext (path : String) (index : Nat) : String :=
  path ++ ": " ++ collection.field ++ "[" ++ toString index ++ "]"

/-- The loop over the items. -/
def addItems (path : String) : Nat → List (String × Ptree) → GameDataLoader →
    Except Failure Unit × GameDataLoader
  | _, [], loader => (.ok (), loader)
  | index, (_, node) :: nodes, loader =>
    match collection.read node (itemContext collection path index) with
    | .error failure => (.error failure, loader)
    | .ok item => match collection.add item loader with
      | (false, loader) => (.error (.runtimeError (itemContext collection path index ++ ": " ++ collection.item ++
          " id " ++ toString (collection.id item).toNat ++
          " failed catalog validation (invalid fields or duplicate ID)")), loader)
      | (true, loader) => addItems path (index + 1) nodes loader

def loadCollection (files : GameDataFiles) (path : String) (loader : GameDataLoader) :
    Except Failure Unit × GameDataLoader :=
  match openFile translator files path loader with
  | .error failure => (.error failure, loader)
  | .ok (tree, version) =>
    let loader := loader.withVersion version
    match requireChild tree collection.field path with
    | .error failure => (.error failure, loader)
    | .ok items => match requireArray items (path ++ ": " ++ collection.field) with
      | .error failure => (.error failure, loader)
      | .ok () => match addItems collection path 0 items.children loader with
        | (.error failure, loader) => (.error failure, loader)
        | (.ok (), loader) =>
          if items.children.isEmpty then
            (.error (.runtimeError (path ++ ": " ++ collection.field ++ " cannot be empty")), loader)
          else (.ok (), loader)

end

def channels : Collection ChannelInfo where
  field := "channels"
  item := "channel"
  id := (·.id)
  read := readChannel translator
  add channel loader := match loader.channelManager.addChannel channel.id channel.name channel.maxPlayers with
    | (false, channelManager) => (false, { loader with channelManager })
    | (true, channelManager) => (true, { loader with
        channelManager, result := { loader.result with channelCount := loader.result.channelCount + 1 } })

def skills : Collection GameData.SkillTemplate where
  field := "skills"
  item := "skill"
  id := (·.id)
  read := readSkill translator
  add skill loader := match loader.skillCatalog.addSkill skill with
    | (false, skillCatalog) => (false, { loader with skillCatalog })
    | (true, skillCatalog) => (true, { loader with
        skillCatalog, result := { loader.result with skillCount := loader.result.skillCount + 1 } })

def enemies : Collection EnemyTemplate where
  field := "enemies"
  item := "enemy"
  id := (·.id)
  read := readEnemy translator
  add enemy loader := match loader.enemyCatalog.addEnemy enemy with
    | (false, enemyCatalog) => (false, { loader with enemyCatalog })
    | (true, enemyCatalog) => (true, { loader with
        enemyCatalog, result := { loader.result with enemyCount := loader.result.enemyCount + 1 } })

def loadChannels (files : GameDataFiles) (path : String) : GameDataLoader → Except Failure Unit × GameDataLoader :=
  loadCollection translator (channels translator) files path

def loadSkills (files : GameDataFiles) (path : String) : GameDataLoader → Except Failure Unit × GameDataLoader :=
  loadCollection translator (skills translator) files path

def loadEnemies (files : GameDataFiles) (path : String) : GameDataLoader → Except Failure Unit × GameDataLoader :=
  loadCollection translator (enemies translator) files path

/-- The first portal or spawn of a room that refers to what does not exist. -/
def validateRoomReferences (dungeon : DungeonTemplate) (enemyCatalog : EnemyCatalog) (path : String)
    (room : RoomTemplate) : Except Failure Unit := do
  let context := path ++ ": dungeon id " ++ toString dungeon.id.toNat ++ ", room id " ++ toString room.id.toNat
  room.portals.forM fun portal =>
    if (dungeon.rooms.map (·.id)).contains portal.targetRoomId then .ok ()
    else .error (.runtimeError (context ++ ", portal id " ++ toString portal.id.toNat ++
      " references missing target room id " ++ toString portal.targetRoomId.toNat))
  room.enemySpawns.forM fun spawn =>
    if (enemyCatalog.getEnemy spawn.enemyTemplateId).isSome then .ok ()
    else .error (.runtimeError (context ++ ", enemy spawn id " ++ toString spawn.id.toNat ++
      " references missing enemy id " ++ toString spawn.enemyTemplateId.toNat))

def validateDungeonReferences (dungeon : DungeonTemplate) (enemyCatalog : EnemyCatalog) (path : String) :
    Except Failure Unit :=
  dungeon.rooms.forM (validateRoomReferences dungeon enemyCatalog path)

def loadDungeon (files : GameDataFiles) (path : String) (loader : GameDataLoader) :
    Except Failure Unit × GameDataLoader :=
  match openFile translator files path loader with
  | .error failure => (.error failure, loader)
  | .ok (tree, version) =>
    let loader := loader.withVersion version
    let context := path ++ ": dungeon"
    let read : Except Failure DungeonTemplate := do
      let dungeonNode ← requireChild tree "dungeon" path
      let dungeon ← readDungeon translator dungeonNode context
      validateDungeonReferences dungeon loader.enemyCatalog path
      return dungeon
    match read with
    | .error failure => (.error failure, loader)
    | .ok dungeon =>
      match loader.dungeonCatalog.addDungeon loader.enemyCatalog dungeon.id dungeon.name dungeon.rooms
          dungeon.recommendedPartySize dungeon.maxPartySize with
      | (false, dungeonCatalog) => (.error (.runtimeError (context ++ " id " ++ toString dungeon.id.toNat ++
          " failed catalog validation (invalid fields, invalid references, or duplicate ID)")),
          { loader with dungeonCatalog })
      | (true, dungeonCatalog) => (.ok (), { loader with
          dungeonCatalog, result := { loader.result with dungeonCount := loader.result.dungeonCount + 1 } })

def findDungeonFiles (files : GameDataFiles) (directory : String) : Except Failure (List String) :=
  if files.isDirectory directory then
    let entries := (files.directoryEntries directory).filter fun entry =>
      entry.isRegularFile && entry.extension = ".json"
    let paths := (entries.map (·.path)).mergeSort fun left right => left ≤ right
    if paths.isEmpty then .error (.runtimeError ("No dungeon JSON files found in: " ++ directory))
    else .ok paths
  else .error (.runtimeError ("Game data dungeon directory does not exist: " ++ directory))

/-- The next part of a load, unless the one before has failed. -/
def andThen (next : GameDataLoader → Except Failure Unit × GameDataLoader) :
    Except Failure Unit × GameDataLoader → Except Failure Unit × GameDataLoader
  | (.error failure, loader) => (.error failure, loader)
  | (.ok (), loader) => next loader

def loadDungeons (files : GameDataFiles) : List String → GameDataLoader → Except Failure Unit × GameDataLoader
  | [], loader => (.ok (), loader)
  | path :: paths, loader => andThen (loadDungeons files paths) (loadDungeon translator files path loader)

/-- The loop over the dungeon files. -/
def loadDungeonFiles (files : GameDataFiles) (directory : String) (loader : GameDataLoader) :
    Except Failure Unit × GameDataLoader :=
  match findDungeonFiles files directory with
  | .error failure => (.error failure, loader)
  | .ok paths => loadDungeons translator files paths loader

/-- What `load` does in a directory that is there. -/
def loadFiles (files : GameDataFiles) (dataDirectory : String) (loader : GameDataLoader) :
    Except Failure Unit × GameDataLoader :=
  andThen (loadDungeonFiles translator files (appendPath dataDirectory "dungeons"))
    (andThen (loadEnemies translator files (appendPath dataDirectory "enemies.json"))
      (andThen (loadSkills translator files (appendPath dataDirectory "skills.json"))
        (loadChannels translator files (appendPath dataDirectory "channels.json") loader)))

def load (files : GameDataFiles) (dataDirectory : String) (loader : GameDataLoader) :
    Except Failure Unit × GameDataLoader :=
  if files.isDirectory dataDirectory then loadFiles translator files dataDirectory { loader with result := {} }
  else (.error (.runtimeError ("Game data directory does not exist: " ++ dataDirectory)), loader)

end GameDataLoader

end DnfServer
