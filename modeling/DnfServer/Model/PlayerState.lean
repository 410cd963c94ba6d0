import DnfServer.Model.Rooms

/-!
# The state of one dungeon player

`DungeonPlayerState` of the server. Session and player identifiers are 64-bit counters
or database keys of the source; no run comes near their range, so the model takes them
as natural numbers, with `0` as the source's "no identifier".
-/

namespace DnfServer

open Std

abbrev SessionId := Nat
abbrev PlayerId := Nat
abbrev SkillId := UInt32

inductive MovePlayerResult where
  | success | dead | wrongRoom | outsideRoom | blockedByObstacle
  deriving DecidableEq, Repr

inductive BeginSkillResult where
  | success | dead | invalidSkill | notEnoughMana | onCooldown | busy
  deriving DecidableEq, Repr

inductive SkillActionPhase where
  | idle | startup | active | recovery
  deriving DecidableEq, Repr

structure SkillActionSnapshot where
  skillId : SkillId := 0
  phase : SkillActionPhase := .idle
  remainingTicks : UInt32 := 0
  deriving DecidableEq, Repr

structure SkillCooldownSnapshot where
  skillId : SkillId := 0
  remainingTicks : UInt32 := 0
  deriving DecidableEq, Repr

structure DungeonPlayerSnapshot where
  roomId : RoomId
  position : Position
  currentHp : UInt32
  maxHp : UInt32
  alive : Bool
  currentMp : UInt32
  maxMp : UInt32
  skillAction : SkillActionSnapshot
  cooldowns : List SkillCooldownSnapshot
  deriving DecidableEq, Repr

structure DungeonPlayerState where
  sessionId : SessionId
  roomId : RoomId
  position : Position
  currentHp : UInt32
  maxHp : UInt32
  currentMp : UInt32
  maxMp : UInt32
  cooldowns : ExtTreeMap UInt32 UInt32
  actionSkillId : SkillId
  actionPhase : SkillActionPhase
  actionRemainingTicks : UInt32
  actionActiveTicks : UInt32
  actionRecoveryTicks : UInt32
  deriving DecidableEq

namespace DungeonPlayerState

/-- The constructor of `DungeonPlayerState`, with its default mana and hit points. -/
def new (sessionId : SessionId) (roomId : RoomId) (position : Position)
    (maxMp : UInt32 := 100) (maxHp : UInt32 := 100) : Except Failure DungeonPlayerState :=
  if sessionId = 0 ∨ roomId = 0 ∨ position.z < 0 ∨ maxMp = 0 ∨ maxHp = 0 then
    .error (.invalidArgument "Invalid dungeon player state")
  else .ok
    { sessionId, roomId, position, currentHp := maxHp, maxHp, currentMp := maxMp, maxMp
      cooldowns := ∅, actionSkillId := 0, actionPhase := .idle, actionRemainingTicks := 0
      actionActiveTicks := 0, actionRecoveryTicks := 0 }

def rebindSession (sessionId : SessionId) (player : DungeonPlayerState) :
    Bool × DungeonPlayerState :=
  if sessionId = 0 then (false, player) else (true, { player with sessionId := sessionId })

def isAlive (player : DungeonPlayerState) : Bool := player.currentHp > 0

/-- The fields of a finished or interrupted action. -/
def clearAction (player : DungeonPlayerState) : DungeonPlayerState :=
  { player with
    actionSkillId := 0, actionPhase := .idle, actionRemainingTicks := 0
    actionActiveTicks := 0, actionRecoveryTicks := 0 }

/-- The cooldowns are sorted by their skill, which is the order of the map here. -/
def snapshot (player : DungeonPlayerState) : DungeonPlayerSnapshot where
  roomId := player.roomId
  position := player.position
  currentHp := player.currentHp
  maxHp := player.maxHp
  alive := player.currentHp > 0
  currentMp := player.currentMp
  maxMp := player.maxMp
  skillAction :=
    { skillId := player.actionSkillId, phase := player.actionPhase
      remainingTicks := player.actionRemainingTicks }
  cooldowns := player.cooldowns.toList.map fun cooldown => ⟨cooldown.1, cooldown.2⟩

def applyDamage (damage : UInt32) (player : DungeonPlayerState) : Bool × DungeonPlayerState :=
  if damage = 0 ∨ player.currentHp = 0 then (false, player)
  else
    let player := { player with
      currentHp := if damage ≥ player.currentHp then 0 else player.currentHp - damage }
    (true, if player.currentHp = 0 then player.clearAction else player)

def beginSkill (skillId : SkillId)
    (manaCost cooldownTicks startupTicks activeTicks recoveryTicks : UInt32)
    (player : DungeonPlayerState) : BeginSkillResult × DungeonPlayerState :=
  if player.currentHp = 0 then (.dead, player)
  else if skillId = 0 ∨ activeTicks = 0 then (.invalidSkill, player)
  else if skillId ∈ player.cooldowns then (.onCooldown, player)
  else if player.actionPhase ≠ .idle then (.busy, player)
  else if player.currentMp < manaCost then (.notEnoughMana, player)
  else
    (.success, { player with
      currentMp := player.currentMp - manaCost
      cooldowns :=
        if cooldownTicks > 0 then player.cooldowns.insertIfNew skillId cooldownTicks
        else player.cooldowns
      actionSkillId := skillId
      actionActiveTicks := activeTicks
      actionRecoveryTicks := recoveryTicks
      actionPhase := if startupTicks > 0 then .startup else .active
      actionRemainingTicks := if startupTicks > 0 then startupTicks else activeTicks })

/-- One tick of every cooldown: decremented, and dropped when it reaches zero. -/
def advanceCooldowns (cooldowns : ExtTreeMap UInt32 UInt32) : ExtTreeMap UInt32 UInt32 :=
  cooldowns.filterMap fun _ remaining => if remaining - 1 = 0 then none else some (remaining - 1)

def advanceCombatTick (player : DungeonPlayerState) : DungeonPlayerState :=
  let player := { player with cooldowns := advanceCooldowns player.cooldowns }
  if player.actionPhase = .idle then player
  else
    let player := { player with actionRemainingTicks := player.actionRemainingTicks - 1 }
    if player.actionRemainingTicks > 0 then player
    else if player.actionPhase = .startup then
      { player with actionPhase := .active, actionRemainingTicks := player.actionActiveTicks }
    else if player.actionPhase = .active ∧ player.actionRecoveryTicks > 0 then
      { player with actionPhase := .recovery, actionRemainingTicks := player.actionRecoveryTicks }
    else player.clearAction

def toMovePlayerResult : PositionCheckResult → MovePlayerResult
  | .valid => .success
  | .outsideRoom => .outsideRoom
  | .blockedByObstacle => .blockedByObstacle

def moveTo (room : RoomState) (nextPosition : Position) (player : DungeonPlayerState) :
    MovePlayerResult × DungeonPlayerState :=
  if player.currentHp = 0 then (.dead, player)
  else if player.roomId ≠ room.id then (.wrongRoom, player)
  else if room.checkPosition nextPosition ≠ .valid then
    (toMovePlayerResult (room.checkPosition nextPosition), player)
  else (.success, { player with position := nextPosition })

def enterRoom (room : RoomState) (spawnPosition : Position) (player : DungeonPlayerState) :
    MovePlayerResult × DungeonPlayerState :=
  if player.currentHp = 0 then (.dead, player)
  else if room.checkPosition spawnPosition ≠ .valid then
    (toMovePlayerResult (room.checkPosition spawnPosition), player)
  else (.success, { player with roomId := room.id, position := spawnPosition })

end DungeonPlayerState

end DnfServer
