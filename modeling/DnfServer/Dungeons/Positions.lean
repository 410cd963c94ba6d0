import DnfServer.Dungeons.Admission
import DnfServer.Dungeons.Creation
import DnfServer.Participants.Consistency

/-!
# Where the players stand

A player changes its place by `MoveTo` and `EnterRoom`, and both ask `CheckPosition` of the room.
Obstacles are only ever destroyed, so a place that was free stays free. What is left is the spawn of
the first room, where the constructor puts every participant: the catalog holds it inside the bounds
of the room and compares it with no obstacle.
-/

namespace DnfServer.Dungeons

open Std DnfServer.Library
set_option autoImplicit false

/-- The player is in a room of the dungeon, at a position that the room calls valid. -/
def Standing (dungeon : DungeonInstance) (player : DungeonPlayerState) : Prop :=
  ∃ room, dungeon.rooms[player.roomId]? = some room ∧ room.checkPosition player.position = .valid

/-- Every player stands, and every room is listed under its own identifier. -/
structure Placed (dungeon : DungeonInstance) : Prop where
  rooms : ∀ (id : RoomId) (room : RoomState), dungeon.rooms[id]? = some room → room.id = id
  players : ∀ (s : SessionId) (player : DungeonPlayerState), dungeon.players[s]? = some player →
    Standing dungeon player

/-- No obstacle of the first room lies over its spawn. -/
def SpawnClear (template : DungeonTemplate) : Prop :=
  ∀ firstRoom ∈ template.rooms.head?, ∀ obstacle ∈ firstRoom.obstacles,
    isInsideCollisionBox obstacle.collision firstRoom.playerSpawn = false

instance (template : DungeonTemplate) : Decidable (SpawnClear template) :=
  inferInstanceAs (Decidable (∀ firstRoom ∈ template.rooms.head?, ∀ obstacle ∈ firstRoom.obstacles,
    isInsideCollisionBox obstacle.collision firstRoom.playerSpawn = false))

/-! ## Rooms -/

theorem checkPosition_valid {room : RoomState} {position : Position} :
    room.checkPosition position = .valid ↔
      (0 ≤ position.z ∧ isInsideRoom room.roomTemplate position = true) ∧
        ∀ obstacle ∈ room.roomTemplate.obstacles.zip room.obstacles, obstacle.2.destroyed = false →
          isInsideCollisionBox obstacle.1.collision position = false := by
  unfold RoomState.checkPosition
  split
  · rename_i hout
    simp only [reduceCtorEq, false_iff, not_and]
    intro hin
    rcases hout with hz | hroom
    · exact absurd hz (Rat.not_lt.mpr hin.1)
    · exact absurd hin.2 hroom
  · rename_i hin
    simp only [not_or, Rat.not_lt, not_not] at hin
    split
    · rename_i hblocked
      obtain ⟨obstacle, hm, hbox⟩ := List.any_eq_true.mp hblocked
      simp only [Bool.and_eq_true, Bool.not_eq_true'] at hbox
      simp only [reduceCtorEq, false_iff, not_and, hin.1, hin.2, and_self, true_implies]
      intro hfree
      simp [hfree obstacle hm hbox.1] at hbox
    · rename_i hfree
      simp only [List.any_eq_true, not_exists, not_and] at hfree
      simp only [hin.1, hin.2, and_self, true_and, true_iff]
      intro obstacle hm hd
      simpa [hd] using hfree obstacle hm

/-- The second room has the same template, and every valid position of the first. -/
def Opens (room room' : RoomState) : Prop :=
  room'.roomTemplate = room.roomTemplate ∧
    ∀ position, room.checkPosition position = .valid → room'.checkPosition position = .valid

theorem Opens.refl (room : RoomState) : Opens room room := ⟨rfl, fun _ => id⟩

/-- Enemies and waves play no part. -/
theorem Opens.of_obstacles {room room' : RoomState} (ht : room'.roomTemplate = room.roomTemplate)
    (ho : room'.obstacles = room.obstacles) : Opens room room' := by
  refine ⟨ht, fun position h => ?_⟩
  rw [checkPosition_valid] at h ⊢
  rwa [ht, ho]

theorem spawnWave_frame (catalog : EnemyCatalog) (wave : UInt32) (spawns : List EnemySpawnTemplate) :
    ∀ room : RoomState, (RoomState.spawnWave catalog wave room spawns).2.roomTemplate =
        room.roomTemplate ∧
      (RoomState.spawnWave catalog wave room spawns).2.obstacles = room.obstacles := by
  induction spawns with
  | nil => exact fun room => ⟨rfl, rfl⟩
  | cons spawn spawns ih =>
    intro room
    simp only [RoomState.spawnWave]
    split
    · exact ih room
    split
    · exact ⟨rfl, rfl⟩
    · exact ih _

theorem opens_startNextWave (catalog : EnemyCatalog) (room : RoomState) :
    Opens room (room.startNextWave catalog).2 := by
  unfold RoomState.startNextWave
  split
  · exact .refl room
  split
  · exact .refl room
  obtain ⟨ht, ho⟩ := spawnWave_frame catalog room.nextWave room.roomTemplate.enemySpawns room
  split
  all_goals
    rename_i heq
    rw [heq] at ht ho
    exact .of_obstacles ht ho

theorem damageObstacle_destroyed {damage : UInt32} {obstacle : ObstacleState}
    (h : (RoomState.damageObstacle damage obstacle).destroyed = false) : obstacle.destroyed = false := by
  unfold RoomState.damageObstacle at h
  split at h
  · simp at h
  · exact h

theorem opens_blow {room room' : RoomState} (h : Blow room room') : Opens room room' := by
  cases h with
  | enemy entityId damage =>
    unfold RoomState.applyEnemyDamage
    split
    · exact .refl room
    split
    · exact .of_obstacles rfl rfl
    · exact .refl room
  | obstacle obstacleId damage =>
    unfold RoomState.applyObstacleDamage
    split
    · exact .refl room
    rename_i index _
    split
    · refine ⟨rfl, fun position hvalid => ?_⟩
      rw [checkPosition_valid] at hvalid ⊢
      refine ⟨hvalid.1, ?_⟩
      rintro ⟨template, obstacle⟩ hm hd
      obtain ⟨i, hi⟩ := List.mem_iff_getElem?.mp hm
      simp only [List.getElem?_zip_eq_some, List.getElem?_modify, Option.map_eq_map,
        Option.map_eq_some_iff] at hi
      obtain ⟨htemplate, old, hold, heq⟩ := hi
      -- an obstacle that still stands stood before
      have hstood : old.destroyed = false := by
        split at heq
        · exact damageObstacle_destroyed (heq ▸ hd)
        · exact heq ▸ hd
      refine hvalid.2 (template, old) (List.mem_iff_getElem?.mpr ⟨i, ?_⟩) hstood
      rw [List.getElem?_zip_eq_some]
      exact ⟨htemplate, hold⟩
    · exact .refl room

theorem checkPosition_new {roomTemplate : RoomTemplate} {position : Position} :
    (RoomState.new roomTemplate).checkPosition position = .valid ↔
      (0 ≤ position.z ∧ isInsideRoom roomTemplate position = true) ∧
        ∀ obstacle ∈ roomTemplate.obstacles, isInsideCollisionBox obstacle.collision position = false := by
  rw [checkPosition_valid]
  refine and_congr_right fun _ => ?_
  simp only [RoomState.new, List.zip_map_right, List.mem_map, Prod.forall]
  constructor
  · intro h obstacle hm
    refine h obstacle _ ⟨(obstacle, obstacle), ?_, rfl⟩ rfl
    obtain ⟨i, hi⟩ := List.mem_iff_getElem?.mp hm
    exact List.mem_iff_getElem?.mpr ⟨i, List.getElem?_zip_eq_some.mpr ⟨hi, hi⟩⟩
  · rintro h obstacle state ⟨⟨left, right⟩, hm, heq⟩ -
    obtain rfl : left = obstacle := congrArg Prod.fst heq
    exact h left (List.of_mem_zip hm).1

/-! ## The dungeon -/

namespace Placed

variable {enemyCatalog : EnemyCatalog} {skillCatalog : SkillCatalog} {dungeon dungeon' : DungeonInstance}

theorem insertRoom (h : Placed dungeon) {id : RoomId} {room room' : RoomState}
    (hroom : dungeon.rooms[id]? = some room) (ho : Opens room room') :
    Placed { dungeon with rooms := dungeon.rooms.insert id room' } := by
  constructor
  · intro x other hx
    have hother := h.rooms x other
    have hid := h.rooms id room hroom
    simp only [RoomState.id] at hother hid ⊢
    by_cases hxid : id = x
    · subst hxid
      obtain rfl : room' = other := by simpa using hx
      rw [ho.1]
      exact hid
    · exact hother (by grind)
  · intro s player hs
    obtain ⟨old, hold, hvalid⟩ := h.players s player hs
    by_cases hid : id = player.roomId
    · obtain rfl : room = old := by grind
      exact ⟨room', by grind, ho.2 _ hvalid⟩
    · exact ⟨old, by grind, hvalid⟩

theorem insertPlayer (h : Placed dungeon) {player : DungeonPlayerState} (s : SessionId)
    (hp : Standing dungeon player) :
    Placed { dungeon with players := dungeon.players.insert s player } := by
  refine ⟨h.rooms, ?_⟩
  intro x other hx
  by_cases hsx : s = x
  · subst hsx
    obtain rfl : player = other := by simpa using hx
    exact hp
  · exact h.players x other (by grind)

theorem play (h : Placed dungeon) (hstep : PlayStep enemyCatalog skillCatalog dungeon dungeon') :
    Placed dungeon' := by
  cases hstep with
  | @wave id room hstate hroom => exact h.insertRoom hroom (opens_startNextWave enemyCatalog room)
  | blow hroom hblow => exact h.insertRoom hroom (opens_blow hblow)
  | @change s player player' hplayer hplace hcooldowns =>
    obtain ⟨room, hroom, hvalid⟩ := h.players s player hplayer
    exact h.insertPlayer s ⟨room, hplace.1.symm ▸ hroom, hplace.2.symm ▸ hvalid⟩
  | @moveTo s player id room hplayer hroom position =>
    refine h.insertPlayer s ?_
    have hstanding := h.players s player hplayer
    unfold DungeonPlayerState.moveTo
    split
    · exact hstanding
    split
    · exact hstanding
    rename_i hsame
    split
    · exact hstanding
    · rename_i hvalid
      have hid : player.roomId = id := (not_not.mp hsame).trans (h.rooms id room hroom)
      exact ⟨room, hid.symm ▸ hroom, not_not.mp hvalid⟩
  | @enterRoom s player id room hstate hplayer hroom position =>
    refine h.insertPlayer s ?_
    have hstanding := h.players s player hplayer
    unfold DungeonPlayerState.enterRoom
    split
    · exact hstanding
    split
    · exact hstanding
    · rename_i hvalid
      have hid : room.id = id := h.rooms id room hroom
      exact ⟨room, hid.symm ▸ hroom, not_not.mp hvalid⟩

theorem step (h : Placed dungeon) (hstep : DungeonStep enemyCatalog skillCatalog dungeon dungeon') :
    Placed dungeon' := by
  cases hstep with
  | start hstate => exact ⟨h.rooms, h.players⟩
  | finish hstate => exact ⟨h.rooms, h.players⟩
  | play hplay => exact h.play hplay
  | participants hd =>
    constructor
    · rw [hd.rooms]
      exact h.rooms
    · intro s player' hs
      obtain ⟨t, player, ht, heq⟩ := hd.players s player' hs
      obtain ⟨room, hroom, hvalid⟩ := h.players t player ht
      rw [heq]
      exact ⟨room, hd.rooms.symm ▸ hroom, hvalid⟩

end Placed

section

variable {admission enemyCatalog : EnemyCatalog} {skillCatalog : SkillCatalog}
  {template : DungeonTemplate} {dungeonId : DungeonId} {partyId : PartyId}
  {participants : List SessionId} {createdAt : Int} {start : DungeonInstance}

/-- The constructor puts the participants at valid positions, or all of them into an obstacle. -/
theorem placed_new (ha : Admitted admission template)
    (hn : DungeonInstance.new dungeonId template partyId participants createdAt = .ok start) :
    Placed start ↔ SpawnClear template := by
  have hc := created_new hn
  obtain ⟨firstRoom, otherRooms, hrooms, hplayers⟩ := hc.players
  have hfirst : firstRoom ∈ template.rooms := hrooms ▸ List.mem_cons_self
  have hlisted : start.rooms[firstRoom.id]? = some (RoomState.new firstRoom) :=
    (hc.rooms _ _).mpr ⟨firstRoom, hfirst, rfl, rfl⟩
  have hspawn : ∀ (s : SessionId) (player : DungeonPlayerState), start.players[s]? = some player →
      player.roomId = firstRoom.id ∧ player.position = firstRoom.playerSpawn := by
    intro s player hs
    have hnew := hplayers s player hs
    unfold DungeonPlayerState.new at hnew
    split at hnew
    · cases hnew
    · cases hnew
      exact ⟨rfl, rfl⟩
  have hchecked := (ha.sound.rooms firstRoom hfirst).1
  simp only [DungeonCatalog.isValidRoom, Bool.and_eq_true, decide_eq_true_eq] at hchecked
  have hclear : SpawnClear template ↔
      (RoomState.new firstRoom).checkPosition firstRoom.playerSpawn = .valid := by
    rw [checkPosition_new, SpawnClear, hrooms]
    simp [hchecked.1.2, hchecked.2]
  rw [hclear]
  constructor
  · intro h
    obtain ⟨s, hs⟩ : ∃ s, s ∈ start.participants := by
      obtain ⟨-, -, hparticipants, -⟩ := Participants.new_spec hn
      rw [hparticipants]
      refine List.exists_mem_of_ne_nil participants ?_
      rintro rfl
      unfold DungeonInstance.new at hn
      grind
    obtain ⟨player, hplayer⟩ := exists_of_mem
      ((Participants.new_consistent hn).listed s |>.mp hs)
    obtain ⟨room, hroom, hvalid⟩ := h.players s player hplayer
    obtain ⟨hid, hposition⟩ := hspawn s player hplayer
    rw [hid, hlisted] at hroom
    rw [hposition] at hvalid
    exact Option.some.inj hroom ▸ hvalid
  · intro hvalid
    constructor
    · intro id room hroom
      obtain ⟨roomTemplate, -, rfl, hid⟩ := (hc.rooms id room).mp hroom
      exact hid
    · intro s player hs
      obtain ⟨hid, hposition⟩ := hspawn s player hs
      exact ⟨_, hid ▸ hlisted, hposition ▸ hvalid⟩

/-- The players of a dungeon are at valid positions whatever happens in it exactly when no obstacle
of the first room lies over its spawn. -/
theorem standing_of_run_iff (ha : Admitted admission template)
    (hn : DungeonInstance.new dungeonId template partyId participants createdAt = .ok start) :
    (∀ (events : List DungeonEvent) (dungeon : DungeonInstance),
      run (DungeonEvent.next enemyCatalog skillCatalog) start events = some dungeon →
        ∀ (s : SessionId) (player : DungeonPlayerState), dungeon.players[s]? = some player →
          Standing dungeon player) ↔ SpawnClear template := by
  rw [← placed_new ha hn]
  constructor
  · intro h
    refine ⟨fun id room hroom => ?_, h [] start rfl⟩
    obtain ⟨roomTemplate, -, rfl, hid⟩ := ((created_new hn).rooms id room).mp hroom
    exact hid
  · intro h events dungeon hr
    exact (invariant_of_run (fun _ _ h hstep => Placed.step h hstep) h hr).players

end

/-- A dungeon of one room, whose players start in its middle. -/
def pillarTemplate (obstacles : List ObstacleTemplate) : DungeonTemplate where
  id := 1
  name := "Pillar"
  rooms := [{ id := 1, width := 10, depth := 10, playerSpawn := { x := 5, y := 5 }, obstacles }]

/-- A block of the side length two that starts at the given corner. -/
def pillar (x y : Rat) : ObstacleTemplate where
  id := 1
  collision := ⟨{ x, y }, { x := x + 2, y := y + 2, z := 2 }⟩

theorem admitted_pillarTemplate :
    Admitted {} (pillarTemplate [pillar 1 1]) ∧ Admitted {} (pillarTemplate [pillar 4 4]) :=
  ⟨⟨{}, 1, "Pillar", (pillarTemplate [pillar 1 1]).rooms, 1, 4, by decide +kernel, by decide +kernel⟩,
    ⟨{}, 1, "Pillar", (pillarTemplate [pillar 4 4]).rooms, 1, 4, by decide +kernel, by decide +kernel⟩⟩

theorem standing_of_run_iff_pillar :
    ∃ start, DungeonInstance.new 1 (pillarTemplate [pillar 1 1]) 1 [100, 101] 0 = .ok start ∧
      ((∀ (events : List DungeonEvent) (dungeon : DungeonInstance),
        run (DungeonEvent.next {} {}) start events = some dungeon →
          ∀ (s : SessionId) (player : DungeonPlayerState), dungeon.players[s]? = some player →
            Standing dungeon player) ↔ SpawnClear (pillarTemplate [pillar 1 1])) ∧
      SpawnClear (pillarTemplate [pillar 1 1]) := by
  obtain ⟨start, hn⟩ : ∃ start,
      DungeonInstance.new 1 (pillarTemplate [pillar 1 1]) 1 [100, 101] 0 = .ok start := ⟨_, rfl⟩
  exact ⟨start, hn, standing_of_run_iff admitted_pillarTemplate.1 hn, by decide +kernel⟩

/-- `AddDungeon` takes a template with an obstacle over the spawn, and the players start in it. -/
theorem not_standing_at_spawn :
    Admitted {} (pillarTemplate [pillar 4 4]) ∧
      ∃ start, DungeonInstance.new 1 (pillarTemplate [pillar 4 4]) 1 [100, 101] 0 = .ok start ∧
        ∃ (player : DungeonPlayerState) (room : RoomState), start.players[100]? = some player ∧
          start.rooms[player.roomId]? = some room ∧
          room.checkPosition player.position = .blockedByObstacle ∧ ¬ Standing start player := by
  refine ⟨admitted_pillarTemplate.2, _, rfl, _, _, rfl, rfl, by decide +kernel, ?_⟩
  rintro ⟨room, hroom, hvalid⟩
  cases hroom
  revert hvalid
  decide +kernel

end DnfServer.Dungeons
