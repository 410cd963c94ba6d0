import DnfServer.Dungeons.Admission
import DnfServer.Dungeons.Creation

/-!
# No call on a dungeon throws

`rooms_.at`, the index into the obstacles and the enemy templates of a wave are looked up without a
check. What was checked when the template was added to the catalog is still there whenever a call
needs it: rooms are never taken out, players only go to rooms of the dungeon, the obstacles of a room
stay those of its template, and the enemy catalog only grows.
-/

namespace DnfServer.Dungeons

open Std DnfServer.Library
set_option autoImplicit false

/-- The enemies of the room are those of the spawns up to its current wave, one for each, and its
obstacles those of its template. -/
structure Intact (room : RoomState) : Prop where
  lastWave : room.lastWave = (RoomState.new room.roomTemplate).lastWave
  spawned : (room.enemies.map (·.spawnId)).Perm
    ((room.roomTemplate.enemySpawns.filter (·.wave ≤ room.currentWave)).map (·.id))
  obstacles : room.obstacles.length = room.roomTemplate.obstacles.length

/-- What the calls on a dungeon rely on. -/
structure Runnable (enemyCatalog : EnemyCatalog) (template : DungeonTemplate)
    (dungeon : DungeonInstance) : Prop where
  sound : Sound enemyCatalog template
  sameTemplate : dungeon.dungeonTemplate = template
  listed : ∀ roomTemplate ∈ template.rooms, roomTemplate.id ∈ dungeon.rooms
  rooms : ∀ (id : RoomId) (room : RoomState), dungeon.rooms[id]? = some room →
    room.roomTemplate ∈ template.rooms ∧ room.id = id ∧ Intact room
  players : ∀ (s : SessionId) (player : DungeonPlayerState), dungeon.players[s]? = some player →
    player.roomId ∈ dungeon.rooms

/-! ## Rooms -/

theorem intact_new {catalog : EnemyCatalog} {roomTemplate : RoomTemplate}
    (h : Supplied catalog roomTemplate) : Intact (RoomState.new roomTemplate) := by
  refine ⟨rfl, ?_, by simp [RoomState.new]⟩
  change List.Perm [] ((roomTemplate.enemySpawns.filter (·.wave ≤ 0)).map (·.id))
  rw [filter_wave_zero h]
  exact .nil

/-- With every enemy in the catalog the next wave starts as a whole. -/
theorem startNextWave_ok {catalog : EnemyCatalog} {room : RoomState}
    (h : Supplied catalog room.roomTemplate) :
    ∃ started, (room.startNextWave catalog).1 = .ok started := by
  unfold RoomState.startNextWave
  split
  · exact ⟨false, rfl⟩
  split
  · exact ⟨false, rfl⟩
  obtain ⟨added, -, heq⟩ := spawnWave_ok (fun spawn hs => (h spawn hs).2) room
  rw [heq]
  exact ⟨true, rfl⟩

/-- The room has the same template, and is intact if it was. -/
def Preserves (room room' : RoomState) : Prop :=
  room'.roomTemplate = room.roomTemplate ∧ (Intact room → Intact room')

theorem Preserves.refl (room : RoomState) : Preserves room room := ⟨rfl, id⟩

theorem preserves_startNextWave {catalog : EnemyCatalog} {room : RoomState}
    (h : Supplied catalog room.roomTemplate) : Preserves room (room.startNextWave catalog).2 := by
  unfold RoomState.startNextWave
  split
  · exact .refl room
  split
  · exact .refl room
  rename_i hne
  obtain ⟨hlt, hleast⟩ := nextWave_spec hne
  obtain ⟨added, hids, heq⟩ := spawnWave_ok (fun spawn hs => (h spawn hs).2) room
  rw [heq]
  refine ⟨rfl, fun hi => ⟨hi.lastWave, ?_, hi.obstacles⟩⟩
  have hperm := (perm_filter_nextWave hlt room.roomTemplate.enemySpawns hleast).map (·.id)
  simp only [List.map_append, hids] at hperm ⊢
  exact (hi.spawned.append_right _).trans hperm.symm

theorem damageEnemy_spawnId (damage : UInt32) (enemy : EnemyState) :
    (RoomState.damageEnemy damage enemy).spawnId = enemy.spawnId := by
  unfold RoomState.damageEnemy
  split <;> rfl

theorem map_spawnId_modify (damage : UInt32) (enemies : List EnemyState) (index : Nat) :
    (enemies.modify index (RoomState.damageEnemy damage)).map (·.spawnId) =
      enemies.map (·.spawnId) := by
  induction enemies generalizing index with
  | nil => cases index <;> rfl
  | cons enemy enemies ih =>
    cases index with
    | zero => simp [damageEnemy_spawnId]
    | succ index => simp [ih]

theorem preserves_blow {room room' : RoomState} (h : Blow room room') : Preserves room room' := by
  cases h with
  | enemy entityId damage =>
    unfold RoomState.applyEnemyDamage
    split
    · exact .refl room
    split
    · refine ⟨rfl, fun hi => ⟨hi.lastWave, ?_, hi.obstacles⟩⟩
      simpa only [map_spawnId_modify] using hi.spawned
    · exact .refl room
  | obstacle obstacleId damage =>
    unfold RoomState.applyObstacleDamage
    split
    · exact .refl room
    split
    · exact ⟨rfl, fun hi => ⟨hi.lastWave, hi.spawned, by simpa using hi.obstacles⟩⟩
    · exact .refl room

/-! ## The dungeon -/

theorem runnable_new {enemyCatalog : EnemyCatalog} {template : DungeonTemplate}
    {dungeonId : DungeonId} {partyId : PartyId} {participants : List SessionId} {createdAt : Int}
    {dungeon : DungeonInstance} (hs : Sound enemyCatalog template)
    (h : DungeonInstance.new dungeonId template partyId participants createdAt = .ok dungeon) :
    Runnable enemyCatalog template dungeon := by
  have hc := created_new h
  have hlisted : ∀ roomTemplate ∈ template.rooms, roomTemplate.id ∈ dungeon.rooms := by
    intro roomTemplate hm
    have hroom := (hc.rooms roomTemplate.id _).mpr ⟨roomTemplate, hm, rfl, rfl⟩
    exact mem_of_entry hroom
  refine ⟨hs, hc.dungeonTemplate, hlisted, ?_, ?_⟩
  · intro id room hr
    obtain ⟨roomTemplate, hm, rfl, hid⟩ := (hc.rooms id room).mp hr
    exact ⟨hm, hid, intact_new (hs.supplied hm)⟩
  · intro s player hp
    obtain ⟨firstRoom, otherRooms, hrooms, hplayers⟩ := hc.players
    have hnew := hplayers s player hp
    unfold DungeonPlayerState.new at hnew
    split at hnew
    · cases hnew
    · cases hnew
      exact hlisted firstRoom (hrooms ▸ List.mem_cons_self)

namespace Runnable

variable {enemyCatalog enemyCatalog' : EnemyCatalog} {skillCatalog : SkillCatalog}
  {template : DungeonTemplate} {dungeon dungeon' : DungeonInstance}

theorem mono (h : Runnable enemyCatalog template dungeon) (he : Extends enemyCatalog enemyCatalog') :
    Runnable enemyCatalog' template dungeon :=
  { h with sound := h.sound.mono he }

theorem supplied (h : Runnable enemyCatalog template dungeon) {id : RoomId} {room : RoomState}
    (hroom : dungeon.rooms[id]? = some room) : Supplied enemyCatalog room.roomTemplate :=
  h.sound.supplied (h.rooms id room hroom).1

theorem insertRoom (h : Runnable enemyCatalog template dungeon) {id : RoomId}
    {room room' : RoomState} (hroom : dungeon.rooms[id]? = some room) (hp : Preserves room room') :
    Runnable enemyCatalog template { dungeon with rooms := dungeon.rooms.insert id room' } := by
  obtain ⟨hmem, hid, hintact⟩ := h.rooms id room hroom
  refine ⟨h.sound, h.sameTemplate, ?_, ?_, ?_⟩
  · intro roomTemplate hm
    have hlisted := h.listed roomTemplate hm
    simp only
    grind
  · intro x other hx
    by_cases hxid : id = x
    · subst hxid
      obtain rfl : room' = other := by simpa using hx
      refine ⟨hp.1 ▸ hmem, ?_, hp.2 hintact⟩
      simpa only [RoomState.id, hp.1] using hid
    · exact h.rooms x other (by grind)
  · intro s player hs
    have hin := h.players s player hs
    simp only
    grind

theorem insertPlayer (h : Runnable enemyCatalog template dungeon) {player : DungeonPlayerState}
    (s : SessionId) (hp : player.roomId ∈ dungeon.rooms) :
    Runnable enemyCatalog template { dungeon with players := dungeon.players.insert s player } := by
  refine { h with players := ?_ }
  intro x other hx
  by_cases hsx : s = x
  · subst hsx
    obtain rfl : player = other := by simpa using hx
    exact hp
  · exact h.players x other (by grind)

theorem play (h : Runnable enemyCatalog template dungeon)
    (hstep : PlayStep enemyCatalog skillCatalog dungeon dungeon') :
    Runnable enemyCatalog template dungeon' := by
  cases hstep with
  | wave hstate hroom => exact h.insertRoom hroom (preserves_startNextWave (h.supplied hroom))
  | blow hroom hblow => exact h.insertRoom hroom (preserves_blow hblow)
  | @change s player player' hplayer hplace hcooldowns =>
    exact h.insertPlayer s (hplace.1.symm ▸ h.players s player hplayer)
  | @moveTo s player id room hplayer hroom position =>
    refine h.insertPlayer s ?_
    have hin := h.players s player hplayer
    unfold DungeonPlayerState.moveTo
    split <;> [exact hin; split] <;> [exact hin; split] <;> exact hin
  | @enterRoom s player id room hstate hplayer hroom position =>
    refine h.insertPlayer s ?_
    have hin := h.players s player hplayer
    unfold DungeonPlayerState.enterRoom
    split
    · exact hin
    split
    · exact hin
    · rw [(h.rooms id room hroom).2.1]
      exact mem_of_entry hroom

theorem step (h : Runnable enemyCatalog template dungeon)
    (hstep : DungeonStep enemyCatalog skillCatalog dungeon dungeon') :
    Runnable enemyCatalog template dungeon' := by
  cases hstep with
  | start hstate => exact { h with }
  | finish hstate => exact { h with }
  | play hplay => exact h.play hplay
  | participants hd =>
    refine ⟨h.sound, hd.dungeonTemplate.trans h.sameTemplate, hd.rooms ▸ h.listed,
      hd.rooms ▸ h.rooms, ?_⟩
    intro s player hs
    obtain ⟨t, old, ht, heq⟩ := hd.players s player hs
    rw [heq, hd.rooms]
    exact h.players t old ht

/-! ### The calls that can throw -/

theorem start_ok (h : Runnable enemyCatalog template dungeon) :
    ∃ started, (dungeon.start enemyCatalog).1 = .ok started := by
  unfold DungeonInstance.start
  split
  · exact ⟨false, rfl⟩
  simp only
  split
  · rename_i hnone
    exact absurd (h.sameTemplate ▸ hnone) h.sound.nonempty
  rename_i firstRoom otherRooms hrooms
  split
  · rename_i hnone
    have hfirst : firstRoom ∈ template.rooms := by
      rw [← h.sameTemplate, hrooms]
      exact List.mem_cons_self
    obtain ⟨room, hroom⟩ := exists_of_mem (h.listed firstRoom hfirst)
    simp [hroom] at hnone
  rename_i room hroom
  obtain ⟨started, hstarted⟩ := startNextWave_ok (h.supplied hroom)
  split
  · rename_i failure room' heq
    simp [heq] at hstarted
  · exact ⟨true, rfl⟩

theorem startWaves_ok (rooms : List RoomId) :
    ∀ {dungeon : DungeonInstance}, Runnable enemyCatalog template dungeon →
      (DungeonInstance.startWaves enemyCatalog rooms dungeon).1 = .ok () := by
  induction rooms with
  | nil => exact fun _ => rfl
  | cons roomId rest ih =>
    intro dungeon h
    simp only [DungeonInstance.startWaves, DungeonInstance.findRoom]
    split
    · exact ih h
    rename_i room hroom
    obtain ⟨started, hstarted⟩ := startNextWave_ok (h.supplied hroom)
    have hpreserved := preserves_startNextWave (h.supplied hroom)
    split
    · rename_i failure room' heq
      simp [heq] at hstarted
    · rename_i room' heq
      rw [heq] at hpreserved
      exact ih (h.insertRoom hroom hpreserved)

theorem advanceRoomWaves_ok (h : Runnable enemyCatalog template dungeon) :
    (dungeon.advanceRoomWaves enemyCatalog).1 = .ok () := by
  unfold DungeonInstance.advanceRoomWaves
  split
  · rfl
  · exact startWaves_ok _ h

theorem tryUsePortal_ok (h : Runnable enemyCatalog template dungeon) (s : SessionId) :
    ∃ result, (dungeon.tryUsePortal enemyCatalog s).1 = .ok result ∧ result ≠ .targetRoomNotFound := by
  unfold DungeonInstance.tryUsePortal DungeonInstance.findPlayer DungeonInstance.findRoom
  split
  · exact ⟨.dungeonNotRunning, rfl, by decide⟩
  split
  · exact ⟨.playerNotFound, rfl, by decide⟩
  rename_i player hplayer
  obtain ⟨room, hroom⟩ := exists_of_mem (h.players s player hplayer)
  obtain ⟨hmem, hid, -⟩ := h.rooms player.roomId room hroom
  simp only [hroom]
  split
  · rename_i hnone
    rw [h.sameTemplate] at hnone
    have hother := List.find?_eq_none.mp hnone room.roomTemplate hmem
    exact absurd hid (by simpa only [RoomState.id, decide_eq_true_eq] using hother)
  rename_i roomTemplate htemplate
  split
  · exact ⟨.notInsidePortal, rfl, by decide⟩
  rename_i portal hportal
  split
  · exact ⟨.roomNotCleared, rfl, by decide⟩
  -- the admission has looked the target room up
  have htarget : portal.targetRoomId ∈ dungeon.rooms := by
    rw [h.sameTemplate] at htemplate
    obtain ⟨-, hportals, -⟩ := (h.sound.rooms roomTemplate (List.mem_of_find?_eq_some htemplate)).2
    have hvalid := hportals portal (List.mem_of_find?_eq_some hportal)
    simp only [DungeonCatalog.isValidPortal, Bool.and_eq_true, Option.any_eq_true] at hvalid
    obtain ⟨targetRoom, hfound, -⟩ := hvalid.2
    have hlisted := h.listed targetRoom (List.mem_of_find?_eq_some hfound)
    have htargetId := List.find?_some hfound
    simp only [decide_eq_true_eq] at htargetId
    exact htargetId ▸ hlisted
  obtain ⟨targetRoom, htargetRoom⟩ := exists_of_mem htarget
  simp only [htargetRoom]
  split
  · obtain ⟨started, hstarted⟩ := startNextWave_ok (h.supplied htargetRoom)
    exact ⟨.success, by rw [hstarted]; rfl, by decide⟩
  · exact ⟨.targetPositionBlocked, rfl, by decide⟩

end Runnable

/-! ## A dungeon over growing catalogs -/

/-- The catalogs, and a dungeon that has been built from them. -/
structure Play where
  content : Content
  dungeon : DungeonInstance

inductive PlayEvent where
  | content (op : ContentOp)
  | dungeon (event : DungeonEvent)

def Play.next (skillCatalog : SkillCatalog) (play : Play) : PlayEvent → Option Play
  | .content op => some { play with content := op.apply play.content }
  | .dungeon event => some
      { play with dungeon := event.apply play.content.enemies skillCatalog play.dungeon }

/-- No call throws or misses a room, the obstacles of a room can be indexed by those of its
template, and each spawn has its enemy exactly when its wave has been started. -/
structure NothingThrown (enemyCatalog : EnemyCatalog) (dungeon : DungeonInstance) : Prop where
  start : ∃ started, (dungeon.start enemyCatalog).1 = .ok started
  advanceRoomWaves : (dungeon.advanceRoomWaves enemyCatalog).1 = .ok ()
  tryUsePortal : ∀ s : SessionId, ∃ result,
    (dungeon.tryUsePortal enemyCatalog s).1 = .ok result ∧ result ≠ .targetRoomNotFound
  nonempty : dungeon.dungeonTemplate.rooms ≠ []
  obstacles : ∀ (id : RoomId) (room : RoomState), dungeon.rooms[id]? = some room →
    room.obstacles.length = room.roomTemplate.obstacles.length
  spawned : ∀ (id : RoomId) (room : RoomState), dungeon.rooms[id]? = some room →
    (room.enemies.map (·.spawnId)).Perm
      ((room.roomTemplate.enemySpawns.filter (·.wave ≤ room.currentWave)).map (·.id))

theorem Runnable.nothingThrown {enemyCatalog : EnemyCatalog} {template : DungeonTemplate}
    {dungeon : DungeonInstance} (h : Runnable enemyCatalog template dungeon) :
    NothingThrown enemyCatalog dungeon where
  start := h.start_ok
  advanceRoomWaves := h.advanceRoomWaves_ok
  tryUsePortal := h.tryUsePortal_ok
  nonempty := h.sameTemplate ▸ h.sound.nonempty
  obstacles := fun id room hroom => (h.rooms id room hroom).2.2.obstacles
  spawned := fun id room hroom => (h.rooms id room hroom).2.2.spawned

theorem runnable_of_run {content : Content} {template : DungeonTemplate} {dungeonId : DungeonId}
    {partyId : PartyId} {participants : List SessionId} {createdAt : Int} {start : DungeonInstance}
    {skillCatalog : SkillCatalog} {events : List PlayEvent} {play : Play}
    (hs : Sound content.enemies template)
    (hstart : DungeonInstance.new dungeonId template partyId participants createdAt = .ok start)
    (hr : run (Play.next skillCatalog) ⟨content, start⟩ events = some play) :
    Runnable play.content.enemies template play.dungeon := by
  refine reachable_invariant
    (fun play : Play => Runnable play.content.enemies template play.dungeon) ?_
    (runnable_new hs hstart) ⟨events, hr⟩
  intro before event after h hn
  cases event with
  | content op =>
    obtain rfl := Option.some.inj hn
    exact h.mono (extends_apply op before.content)
  | dungeon event =>
    obtain rfl := Option.some.inj hn
    exact (steps_of_event event before.dungeon).invariant (fun _ _ h hstep => h.step hstep) h

/-- The constructor takes every admitted template and every party, and no call on the dungeon throws
afterwards, whatever is added to the catalogs meanwhile. -/
theorem nothingThrown_of_run {content : Content} {templateId : DungeonTemplateId}
    {template : DungeonTemplate} {dungeonId : DungeonId} {partyId : PartyId}
    {participants : List SessionId} (skillCatalog : SkillCatalog) (createdAt : Int)
    (hcontent : Reachable ContentOp.next {} content)
    (htemplate : content.dungeons.getDungeon templateId = some template)
    (hdungeonId : dungeonId ≠ 0) (hpartyId : partyId ≠ 0) (hne : participants ≠ [])
    (hsize : participants.length ≤ maxPartyMembers) (hnonzero : 0 ∉ participants)
    (hnodup : participants.Nodup) :
    ∃ start, DungeonInstance.new dungeonId template partyId participants createdAt = .ok start ∧
      ∀ (events : List PlayEvent) (play : Play),
        run (Play.next skillCatalog) ⟨content, start⟩ events = some play →
          NothingThrown play.content.enemies play.dungeon := by
  have hsound := sound_of_run hcontent templateId template htemplate
  obtain ⟨firstRoom, otherRooms, hrooms⟩ := List.exists_cons_of_ne_nil hsound.nonempty
  have hvalid := (hsound.rooms firstRoom (hrooms ▸ List.mem_cons_self)).1
  simp only [DungeonCatalog.isValidRoom, Bool.and_eq_true, bne_iff_ne, decide_eq_true_eq] at hvalid
  obtain ⟨start, hstart⟩ := new_ok hdungeonId hsound.id hpartyId hrooms hsound.nodup
    hvalid.1.1.1.1 hvalid.1.2 hne hsize hnonzero hnodup createdAt
  exact ⟨start, hstart, fun events play hr => (runnable_of_run hsound hstart hr).nothingThrown⟩

/-- A goblin, and a dungeon of one room in which it comes in the second wave. -/
def denContent : List ContentOp :=
  [.addEnemy { id := 7, name := "Goblin", maxHp := 30, moveSpeed := 1, aiType := .melee
               collision := ⟨{}, { x := 1, y := 1, z := 1 }⟩ },
    .addDungeon 1 "Den" [{ id := 1, width := 10, depth := 10, playerSpawn := {}
                           enemySpawns := [⟨1, 7, { x := 5, y := 5 }, 2⟩] }] 1 4]

theorem nothingThrown_of_run_den :
    ∃ (content : Content) (template : DungeonTemplate), run ContentOp.next {} denContent = some content ∧
      content.dungeons.getDungeon 1 = some template ∧
      ∃ start, DungeonInstance.new 1 template 1 [100, 101] 0 = .ok start ∧
        ∀ (events : List PlayEvent) (play : Play),
          run (Play.next {}) ⟨content, start⟩ events = some play →
            NothingThrown play.content.enemies play.dungeon := by
  obtain ⟨content, hr, htemplate⟩ : ∃ content, run ContentOp.next {} denContent = some content ∧
      (content.dungeons.getDungeon 1).isSome := ⟨_, rfl, by decide +kernel⟩
  obtain ⟨template, htemplate⟩ := Option.isSome_iff_exists.mp htemplate
  exact ⟨content, template, hr, htemplate, nothingThrown_of_run {} 0 ⟨denContent, hr⟩ htemplate
    (by decide) (by decide) (by decide) (by decide) (by decide) (by decide)⟩

end DnfServer.Dungeons
