import DnfServer.Dungeons.Safety
import Mathlib.Data.List.Nodup

/-!
# Portals

`TryUsePortal` looks its portal up in the template, the room and the target room in the map of rooms,
and moves the player before it starts a wave. Whoever is turned away leaves the dungeon as it was;
whoever passes stands at the target, and all that happens besides is the next wave of the target room.
-/

namespace DnfServer.Dungeons

open Std DnfServer.Library
set_option autoImplicit false

/-- The first portal of the room, in the order of its template, that the player stands in. -/
def portalAt (roomTemplate : RoomTemplate) (player : DungeonPlayerState) : Option PortalTemplate :=
  roomTemplate.portals.find? fun portal => isInsideCollisionBox portal.triggerArea player.position

/-- The session may go through the portal: what the code checks, in one place. -/
structure Passes (dungeon : DungeonInstance) (s : SessionId) (player : DungeonPlayerState)
    (portal : PortalTemplate) (targetRoom : RoomState) : Prop where
  running : dungeon.state = .running
  participant : dungeon.players[s]? = some player
  alive : player.isAlive = true
  inside : ∃ room, dungeon.rooms[player.roomId]? = some room ∧
    room.roomTemplate ∈ dungeon.dungeonTemplate.rooms ∧ room.roomTemplate.id = player.roomId ∧
    portalAt room.roomTemplate player = some portal ∧
    (portal.requiresRoomClear = true → room.isCleared = true)
  target : dungeon.rooms[portal.targetRoomId]? = some targetRoom
  free : targetRoom.checkPosition portal.targetPosition = .valid

/-- No enemy of the room lives, and a spawn of its template belongs to a later wave. -/
def WaveDue (room : RoomState) : Prop :=
  room.hasLivingEnemy = false ∧
    ∃ spawn ∈ room.roomTemplate.enemySpawns, room.currentWave < spawn.wave

/-- The second room is the first with its next wave in it. -/
def WaveStarted (catalog : EnemyCatalog) (room room' : RoomState) : Prop :=
  ∃ (wave : UInt32) (added : List EnemyState),
    room.currentWave < wave ∧ (∃ spawn ∈ room.roomTemplate.enemySpawns, spawn.wave = wave) ∧
    (∀ spawn ∈ room.roomTemplate.enemySpawns, room.currentWave < spawn.wave → wave ≤ spawn.wave) ∧
    List.Forall₂ (Fresh catalog room.roomTemplate) added
      (room.roomTemplate.enemySpawns.filter (·.wave = wave)) ∧
    room' = { room with currentWave := wave, enemies := room.enemies ++ added }

/-- What `TryUsePortal` does for a session, in every case. -/
structure PortalExact (catalog : EnemyCatalog) (dungeon : DungeonInstance) (s : SessionId) : Prop where
  success : (dungeon.tryUsePortal catalog s).1 = .ok .success ↔
    ∃ player portal targetRoom, Passes dungeon s player portal targetRoom
  passed : ∀ (player : DungeonPlayerState) (portal : PortalTemplate) (targetRoom : RoomState),
    Passes dungeon s player portal targetRoom →
    ∃ targetRoom', (dungeon.tryUsePortal catalog s).2 = { dungeon with
        players := dungeon.players.insert s
          { player with roomId := portal.targetRoomId, position := portal.targetPosition }
        rooms := dungeon.rooms.insert portal.targetRoomId targetRoom' } ∧
      (WaveDue targetRoom → WaveStarted catalog targetRoom targetRoom') ∧
      (¬ WaveDue targetRoom → targetRoom' = targetRoom)
  turnedAway : (dungeon.tryUsePortal catalog s).1 ≠ .ok .success →
    (∃ result, (dungeon.tryUsePortal catalog s).1 = .ok result) ∧
      (dungeon.tryUsePortal catalog s).2 = dungeon

/-! ## The wave behind a portal -/

section

variable {catalog : EnemyCatalog} {room : RoomState}

theorem waveDue_iff : WaveDue room ↔ room.hasLivingEnemy = false ∧ room.nextWave ≠ 0 := by
  refine and_congr_right fun _ => ⟨?_, fun hne => ?_⟩
  · rintro ⟨spawn, hspawn, hlt⟩ hzero
    exact absurd hlt (UInt32.not_lt.mpr (le_of_nextWave_eq_zero hzero spawn hspawn))
  · obtain ⟨spawn, hspawn, hwave⟩ := nextWave_mem hne
    exact ⟨spawn, hspawn, hwave ▸ (nextWave_spec hne).1⟩

/-- `StartNextWave` starts the wave that is due, and nothing else. -/
theorem startNextWave_exact (h : Supplied catalog room.roomTemplate) :
    (WaveDue room → WaveStarted catalog room (room.startNextWave catalog).2) ∧
      (¬ WaveDue room → (room.startNextWave catalog).2 = room) := by
  rw [waveDue_iff]
  constructor
  · rintro ⟨hdead, hne⟩
    obtain ⟨hlt, hleast⟩ := nextWave_spec hne
    obtain ⟨added, hfresh, heq⟩ : ∃ added, List.Forall₂ (Fresh catalog room.roomTemplate) added
        (room.roomTemplate.enemySpawns.filter (·.wave = room.nextWave)) ∧
        RoomState.spawnWave catalog room.nextWave room room.roomTemplate.enemySpawns =
          (.ok (), { room with enemies := room.enemies ++ added }) :=
      spawnWave_fresh (fun spawn hs => (h spawn hs).2) room
    refine ⟨room.nextWave, added, hlt, nextWave_mem hne, hleast, hfresh, ?_⟩
    rw [RoomState.startNextWave, if_neg (by simp [hdead]), if_neg hne, heq]
  · intro hnone
    unfold RoomState.startNextWave
    split
    · rfl
    · rename_i hdead
      rw [if_pos (not_not.mp fun hne => hnone ⟨by simpa using hdead, hne⟩)]

end

/-! ## The portal -/

section

variable {catalog : EnemyCatalog} {template : DungeonTemplate} {dungeon : DungeonInstance}
  {s : SessionId} {player : DungeonPlayerState} {portal : PortalTemplate} {room targetRoom : RoomState}

/-- The lookup in the template finds the template of the room. -/
theorem Runnable.find_room (h : Runnable catalog template dungeon)
    (hroom : dungeon.rooms[player.roomId]? = some room) :
    room.roomTemplate ∈ dungeon.dungeonTemplate.rooms ∧ room.roomTemplate.id = player.roomId ∧
      dungeon.dungeonTemplate.rooms.find? (·.id = player.roomId) = some room.roomTemplate := by
  obtain ⟨hmem, hid, -⟩ := h.rooms player.roomId room hroom
  rw [h.sameTemplate]
  refine ⟨hmem, hid, ?_⟩
  cases hfound : template.rooms.find? (·.id = player.roomId) with
  | none =>
    have hother := List.find?_eq_none.mp hfound room.roomTemplate hmem
    exact absurd (decide_eq_true hid) hother
  | some found =>
    have hsame := List.find?_some hfound
    simp only [decide_eq_true_eq] at hsame
    exact congrArg some (List.inj_on_of_nodup_map h.sound.nodup (List.mem_of_find?_eq_some hfound) hmem
      (hsame.trans hid.symm))

theorem enterRoom_success (halive : player.isAlive = true)
    (hfree : targetRoom.checkPosition portal.targetPosition = .valid) :
    player.enterRoom targetRoom portal.targetPosition =
      (.success, { player with roomId := targetRoom.id, position := portal.targetPosition }) := by
  have hhp : player.currentHp ≠ 0 := by
    rintro hzero
    simp [DungeonPlayerState.isAlive, hzero] at halive
  rw [DungeonPlayerState.enterRoom, if_neg hhp, if_neg (not_not.mpr hfree)]

theorem of_enterRoom_success {player' : DungeonPlayerState}
    (h : player.enterRoom targetRoom portal.targetPosition = (.success, player')) :
    player.isAlive = true ∧ targetRoom.checkPosition portal.targetPosition = .valid := by
  unfold DungeonPlayerState.enterRoom at h
  split at h
  · cases h
  rename_i hhp
  split at h
  · rename_i hblocked
    cases hcheck : targetRoom.checkPosition portal.targetPosition <;> rw [hcheck] at h <;> cases h
    exact absurd hcheck hblocked
  · rename_i hfree
    exact ⟨decide_eq_true (UInt32.pos_iff_ne_zero.mpr hhp), not_not.mp hfree⟩

theorem Passes.tryUsePortal_eq (h : Runnable catalog template dungeon)
    (hp : Passes dungeon s player portal targetRoom) : dungeon.tryUsePortal catalog s =
      (.ok .success, { dungeon with
        players := dungeon.players.insert s
          { player with roomId := portal.targetRoomId, position := portal.targetPosition }
        rooms := dungeon.rooms.insert portal.targetRoomId (targetRoom.startNextWave catalog).2 }) := by
  obtain ⟨room, hroom, -, -, hportal, hclear⟩ := hp.inside
  obtain ⟨-, -, htemplate⟩ := h.find_room hroom
  have hid : targetRoom.id = portal.targetRoomId := (h.rooms _ _ hp.target).2.1
  have hopen : ¬ (portal.requiresRoomClear ∧ ¬ room.isCleared) := fun hn => hn.2 (hclear hn.1)
  obtain ⟨started, hstarted⟩ := startNextWave_ok (h.supplied hp.target)
  unfold portalAt at hportal
  simp only [DungeonInstance.tryUsePortal, hp.running, ne_eq, not_true_eq_false, if_false,
    DungeonInstance.findPlayer, hp.participant, DungeonInstance.findRoom, hroom, htemplate, hportal, hopen,
    hp.target, enterRoom_success hp.alive hp.free, hid, hstarted]
  rfl

/-- Whoever is not turned away passes. -/
theorem passes_or_turnedAway (h : Runnable catalog template dungeon) (s : SessionId) :
    (∃ player portal targetRoom, Passes dungeon s player portal targetRoom) ∨
      ∃ result, result ≠ .success ∧ dungeon.tryUsePortal catalog s = (.ok result, dungeon) := by
  unfold DungeonInstance.tryUsePortal DungeonInstance.findPlayer DungeonInstance.findRoom
  split
  · exact .inr ⟨_, UsePortalResult.noConfusion, rfl⟩
  rename_i hstate
  split
  · exact .inr ⟨_, UsePortalResult.noConfusion, rfl⟩
  rename_i player hplayer
  split
  · exact .inr ⟨_, UsePortalResult.noConfusion, rfl⟩
  rename_i room hroom
  obtain ⟨hmem, hid, htemplate⟩ := h.find_room hroom
  split
  · exact .inr ⟨_, UsePortalResult.noConfusion, rfl⟩
  rename_i found hfound
  obtain rfl := Option.some.inj (htemplate.symm.trans hfound)
  split
  · exact .inr ⟨_, UsePortalResult.noConfusion, rfl⟩
  rename_i portal hportal
  split
  · exact .inr ⟨_, UsePortalResult.noConfusion, rfl⟩
  rename_i hopen
  split
  · exact .inr ⟨_, UsePortalResult.noConfusion, rfl⟩
  rename_i targetRoom htarget
  split
  · rename_i player' henter
    obtain ⟨halive, hfree⟩ := of_enterRoom_success henter
    refine .inl ⟨player, portal, targetRoom, not_not.mp hstate, hplayer, halive,
      ⟨room, hroom, hmem, hid, hportal, fun hclear => ?_⟩, htarget, hfree⟩
    exact not_not.mp fun hn => hopen ⟨hclear, hn⟩
  · exact .inr ⟨_, UsePortalResult.noConfusion, rfl⟩

theorem Runnable.portalExact (h : Runnable catalog template dungeon) (s : SessionId) :
    PortalExact catalog dungeon s where
  success := by
    constructor
    · intro hsuccess
      refine (passes_or_turnedAway h s).resolve_right ?_
      rintro ⟨result, hne, heq⟩
      rw [heq] at hsuccess
      exact hne (Except.ok.inj hsuccess)
    · rintro ⟨player, portal, targetRoom, hp⟩
      rw [hp.tryUsePortal_eq h]
  passed := by
    intro player portal targetRoom hp
    exact ⟨_, congrArg Prod.snd (hp.tryUsePortal_eq h), startNextWave_exact (h.supplied hp.target)⟩
  turnedAway := by
    intro hfailed
    rcases passes_or_turnedAway h s with ⟨player, portal, targetRoom, hp⟩ | ⟨result, -, heq⟩
    · exact absurd (congrArg Prod.fst (hp.tryUsePortal_eq h)) hfailed
    · rw [heq]
      exact ⟨⟨result, rfl⟩, rfl⟩

end

/-- In every state of a dungeon of an admitted template, for every session. -/
theorem portalExact_of_run {content : Content} {templateId : DungeonTemplateId}
    {template : DungeonTemplate} {dungeonId : DungeonId} {partyId : PartyId}
    {participants : List SessionId} {createdAt : Int} {start : DungeonInstance}
    {skillCatalog : SkillCatalog} {events : List PlayEvent} {play : Play}
    (hcontent : Reachable ContentOp.next {} content)
    (htemplate : content.dungeons.getDungeon templateId = some template)
    (hstart : DungeonInstance.new dungeonId template partyId participants createdAt = .ok start)
    (hr : run (Play.next skillCatalog) ⟨content, start⟩ events = some play) (s : SessionId) :
    PortalExact play.content.enemies play.dungeon s :=
  (runnable_of_run (sound_of_run hcontent templateId template htemplate) hstart hr).portalExact s

/-- A gate from the first room into the den of the goblins. -/
def gateContent : List ContentOp :=
  let goblin : EnemyTemplate :=
    { id := 7, name := "Goblin", maxHp := 30, moveSpeed := 1, aiType := .melee
      collision := ⟨{}, { x := 1, y := 1, z := 1 }⟩ }
  let gate : PortalTemplate :=
    { id := 1, triggerArea := ⟨{}, { x := 2, y := 2, z := 2 }⟩, targetRoomId := 2
      targetPosition := { x := 1, y := 1 } }
  let den : RoomTemplate :=
    { id := 2, width := 10, depth := 10, playerSpawn := {}
      enemySpawns := [⟨1, 7, { x := 5, y := 5 }, 2⟩] }
  let yard : RoomTemplate := { id := 1, width := 10, depth := 10, playerSpawn := {}, portals := [gate] }
  [.addEnemy goblin, .addDungeon 1 "Gate" [yard, den] 1 4]

theorem portalExact_of_run_gate :
    ∃ (content : Content) (template : DungeonTemplate) (start : DungeonInstance) (play : Play),
      run ContentOp.next {} gateContent = some content ∧
      content.dungeons.getDungeon 1 = some template ∧
      DungeonInstance.new 1 template 1 [100, 101] 0 = .ok start ∧
      run (Play.next {}) ⟨content, start⟩ [.dungeon (.op .start)] = some play ∧
      (play.dungeon.tryUsePortal play.content.enemies 100).1.toOption = some .success ∧
      PortalExact play.content.enemies play.dungeon 100 := by
  have hpasses : ((run ContentOp.next {} gateContent).bind fun content =>
      (content.dungeons.getDungeon 1).bind fun template =>
      (DungeonInstance.new 1 template 1 [100, 101] 0).toOption.bind fun start =>
      (run (Play.next {}) ⟨content, start⟩ [.dungeon (.op .start)]).bind fun play =>
      (play.dungeon.tryUsePortal play.content.enemies 100).1.toOption) = some .success := by
    decide +kernel
  obtain ⟨content, hcontent, hpasses⟩ := Option.bind_eq_some_iff.mp hpasses
  obtain ⟨template, htemplate, hpasses⟩ := Option.bind_eq_some_iff.mp hpasses
  obtain ⟨start, hbuilt, hpasses⟩ := Option.bind_eq_some_iff.mp hpasses
  obtain ⟨play, hr, hpasses⟩ := Option.bind_eq_some_iff.mp hpasses
  have hstart : DungeonInstance.new 1 template 1 [100, 101] 0 = .ok start := by
    cases hnew : DungeonInstance.new 1 template 1 [100, 101] 0 with
    | error failure =>
      rw [hnew] at hbuilt
      cases hbuilt
    | ok built =>
      rw [hnew] at hbuilt
      exact congrArg Except.ok (Option.some.inj hbuilt)
  exact ⟨content, template, start, play, hcontent, htemplate, hstart, hr, hpasses,
    portalExact_of_run ⟨gateContent, hcontent⟩ htemplate hstart hr 100⟩

end DnfServer.Dungeons
