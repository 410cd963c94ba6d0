import DnfServer.Tick.Places
import Mathlib.Data.List.Nodup

/-!
# The life of a dungeon

A dungeon comes into the manager waiting, under an id that was never used. It starts, and it is
finished when its players stand in the last room with every enemy spawned and killed. After that
only its participants change, until it is taken out for one of five reasons. This holds of every
call of the tick, the requests, the datagrams and the shutdown, in whatever order they come.
-/

namespace DnfServer.Tick

open Std DnfServer.Library DnfServer.Participants DnfServer.Manager DnfServer.Dungeons DnfServer.Udp
set_option autoImplicit false

/-! ## A cleared room -/

/-- In a cleared room there is one enemy for each spawn of the template, and it is dead. -/
structure Slain (roomTemplate : RoomTemplate) (room : RoomState) : Prop where
  spawned : (room.enemies.map (·.spawnId)).Perm (roomTemplate.enemySpawns.map (·.id))
  killed : ∀ enemy ∈ room.enemies, enemy.alive = false

theorem slain_of_cleared {room : RoomState} (hi : Intact room) (hc : room.isCleared = true) :
    Slain room.roomTemplate room := by
  simp only [RoomState.isCleared, Bool.and_eq_true, decide_eq_true_eq, Bool.not_eq_true',
    RoomState.hasLivingEnemy, List.any_eq_false, Bool.not_eq_true] at hc
  refine ⟨?_, hc.2⟩
  have hall : room.roomTemplate.enemySpawns.filter (·.wave ≤ room.currentWave) =
      room.roomTemplate.enemySpawns := by
    rw [List.filter_eq_self]
    intro spawn hs
    rw [decide_eq_true_eq, hc.1, hi.lastWave]
    exact (le_foldl_max room.roomTemplate.enemySpawns 0).2 spawn hs
  have hspawned := hi.spawned
  rwa [hall] at hspawned

/-- There are participants, each is in the last room, and every room is cleared of its enemies. -/
structure Won (dungeon : DungeonInstance) : Prop where
  participants : dungeon.participants ≠ []
  inLastRoom : ∃ finalRoom, dungeon.dungeonTemplate.rooms.getLast? = some finalRoom ∧
    ∀ s ∈ dungeon.participants, ∃ player, dungeon.players[s]? = some player ∧
      player.roomId = finalRoom.id
  slain : ∀ roomTemplate ∈ dungeon.dungeonTemplate.rooms, ∃ room,
    dungeon.rooms[roomTemplate.id]? = some room ∧ Slain roomTemplate room

theorem won_of_clearing {enemyCatalog : EnemyCatalog} {dungeon : DungeonInstance}
    (hr : Runnable enemyCatalog dungeon.dungeonTemplate dungeon) (hc : Consistent dungeon)
    (h : Clearing [] dungeon) : Won dungeon := by
  obtain ⟨⟨s, hs⟩, finalRoom, hlast, hplayers⟩ := playersGathered_iff.mp h.1
  refine ⟨List.ne_nil_of_mem ((hc.listed s).mpr hs), ⟨finalRoom, hlast, ?_⟩, ?_⟩
  · intro t ht
    obtain ⟨player, hplayer⟩ := exists_of_mem ((hc.listed t).mp ht)
    exact ⟨player, hplayer, hplayers t player hplayer⟩
  · intro roomTemplate hm
    obtain ⟨room, hroom⟩ := exists_of_mem (hr.listed roomTemplate hm)
    obtain ⟨hmem, hid, hintact⟩ := hr.rooms roomTemplate.id room hroom
    have hsame : room.roomTemplate = roomTemplate :=
      List.inj_on_of_nodup_map hr.sound.nodup hmem hm hid
    refine ⟨room, hroom, hsame ▸ slain_of_cleared hintact (h.2 roomTemplate.id room hroom ?_)⟩
    exact List.not_mem_nil

/-! ## One step -/

/-- The states of a dungeon, in their order. -/
inductive Advances : DungeonState → DungeonState → Prop where
  | same (state : DungeonState) : Advances state state
  | start : Advances .waiting .running
  | finish : Advances .running .finished

/-- What a step may do to the dungeons. -/
structure Lawful (config : TickConfig) (w w' : Service) (step : ServiceStep) : Prop where
  issued : ∀ d ∈ w.threads.history.issued, d ∈ w'.threads.history.issued
  created : ∀ (d : DungeonId) (dungeon' : DungeonInstance), w.manager.dungeons[d]? = none →
    w'.manager.dungeons[d]? = some dungeon' →
      d ∉ w.threads.history.issued ∧ d ∈ w'.threads.history.issued ∧ dungeon'.state = .waiting
  advances : ∀ (d : DungeonId) (dungeon dungeon' : DungeonInstance),
    w.manager.dungeons[d]? = some dungeon → w'.manager.dungeons[d]? = some dungeon' →
      Advances dungeon.state dungeon'.state
  finishes : ∀ (d : DungeonId) (dungeon dungeon' : DungeonInstance),
    w.manager.dungeons[d]? = some dungeon → w'.manager.dungeons[d]? = some dungeon' →
      dungeon.state ≠ .finished → dungeon'.state = .finished →
        (∃ reading, step = .tick reading) ∧ Won dungeon ∧
          dungeon' = { dungeon with state := .finished }
  /-- No enemy is added or revived, and the players stay in the last room. -/
  frozen : ∀ (d : DungeonId) (dungeon dungeon' : DungeonInstance),
    w.manager.dungeons[d]? = some dungeon → w'.manager.dungeons[d]? = some dungeon' →
      dungeon.state = .finished →
        dungeon'.rooms = dungeon.rooms ∧ Descends dungeon dungeon' ∧ Gathered dungeon ∧
          Gathered dungeon'
  removed : ∀ (d : DungeonId) (dungeon : DungeonInstance), w.manager.dungeons[d]? = some dungeon →
    w'.manager.dungeons[d]? = none → Removal config w d dungeon step
  /-- A request gives up its dungeon when the UDP manager has no session or no token for it. -/
  cancelling : ∀ (s : SessionId) (d : DungeonId), w'.threads.tasks[s]? = some (.cancelling d) →
    w.threads.tasks[s]? = some (.cancelling d) ∨
      ∃ success, w.threads.tasks[s]? = some (.allocated d success) ∧
        ¬ (success = true ∧ (w.threads.udp.findToken d s).isSome = true)

section

variable {arithmetic : Arithmetic} {skillCatalog : SkillCatalog} {config : TickConfig} {parse : Parse}
  {w w' : Service} {d : DungeonId} {dungeon dungeon' : DungeonInstance} {step : ServiceStep}

theorem Stays.advances (h : Stays skillCatalog w d dungeon dungeon' step) :
    Advances dungeon.state dungeon'.state := by
  cases h with
  | same => exact .same _
  | rejoined hremains => exact hremains.state ▸ .same _
  | swept _ hdescends => exact hdescends.state ▸ .same _
  | started hwaiting =>
    rw [start_state hwaiting, hwaiting]
    exact .start
  | played _ hplay => exact (PlaySteps.frame hplay).1 ▸ .same _
  | finished _ hrunning =>
    rw [hrunning]
    exact .finish

/-- A dungeon is finished at one place of the tick, and it is won there. -/
theorem Stays.won (hg : Good config w) (hd : w.manager.dungeons[d]? = some dungeon)
    (h : Stays skillCatalog w d dungeon dungeon' step) (hstate : dungeon.state ≠ .finished)
    (hstate' : dungeon'.state = .finished) :
    (∃ reading, step = .tick reading) ∧ Won dungeon ∧
      dungeon' = { dungeon with state := .finished } := by
  cases h with
  | same => exact absurd hstate' hstate
  | rejoined hremains => exact absurd (hremains.state.symm.trans hstate') hstate
  | swept _ hdescends => exact absurd (hdescends.state.symm.trans hstate') hstate
  | started hwaiting =>
    rw [start_state hwaiting] at hstate'
    cases hstate'
  | played _ hplay => exact absurd ((PlaySteps.frame hplay).1.symm.trans hstate') hstate
  | @finished reading rest hplace hrunning =>
    have hok := hg.place
    rw [PlaceOk, hplace] at hok
    refine ⟨⟨reading, rfl⟩, ?_, rfl⟩
    exact won_of_clearing (hg.runnable d dungeon hd) (hg.indexed.index.consistent d dungeon hd)
      (hok.2.2 dungeon hd)

/-- Tasks are written by the calls of the sessions. -/
theorem cancelling_of_service (hn : w.next arithmetic skillCatalog config parse step = some w')
    {s : SessionId} (hs : w'.threads.tasks[s]? = some (.cancelling d)) :
    w.threads.tasks[s]? = some (.cancelling d) ∨
      ∃ success, w.threads.tasks[s]? = some (.allocated d success) ∧
        ¬ (success = true ∧ (w.threads.udp.findToken d s).isSome = true) := by
  rcases tasks_of_next hn with hsame | ⟨call, hcall⟩
  · exact .inl (hsame ▸ hs)
  · exact Threads.cancelling_of_next hcall hs

theorem lawful_next (hg : Good config w)
    (hn : w.next arithmetic skillCatalog config parse step = some w') : Lawful config w w' step := by
  have hm := moves_of_next hg hn
  have hg' := good_next hg hn
  have hstays {d : DungeonId} {dungeon dungeon' : DungeonInstance}
      (hd : w.manager.dungeons[d]? = some dungeon) (hd' : w'.manager.dungeons[d]? = some dungeon') :
      Stays skillCatalog w d dungeon dungeon' step := by
    rcases stays_of_effect hg hm.effect hd' with ⟨hnew, -⟩ | ⟨old, hold, hstays⟩
    · have hlive := mem_of_entry hd
      exact absurd (hg.indexed.index.live d hlive) hnew
    · obtain rfl := Option.some.inj (hd.symm.trans hold)
      exact hstays
  refine ⟨hm.issued, ?_, ?_, ?_, ?_, ?_, fun s d => cancelling_of_service hn⟩
  · intro d dungeon' hnone hd'
    have hlive := mem_of_entry hd'
    rcases stays_of_effect hg hm.effect hd' with ⟨hnew, hwaiting, -⟩ | ⟨old, hold, -⟩
    · exact ⟨hnew, hg'.indexed.index.live d hlive, hwaiting⟩
    · rw [hnone] at hold
      cases hold
  · exact fun d dungeon dungeon' hd hd' => (hstays hd hd').advances
  · exact fun d dungeon dungeon' hd hd' hstate hstate' => (hstays hd hd').won hg hd hstate hstate'
  · intro d dungeon dungeon' hd hd' hstate
    have hdescends := (hstays hd hd').descends hstate
    exact ⟨hdescends.rooms, hdescends, hg.gathered d dungeon hd hstate,
      hg'.gathered d dungeon' hd' (hdescends.state.trans hstate)⟩
  · exact fun d dungeon hd hgone => removal_of_effect hm.effect hd hgone

/-- In whatever order ticks, requests, datagrams and the shutdown come, every step does to the
dungeons only what it may. -/
theorem lawful_of_run (h : Reachable (Service.next arithmetic skillCatalog config parse) {} w)
    (hn : w.next arithmetic skillCatalog config parse step = some w') : Lawful config w w' step :=
  lawful_next (good_of_run h) hn

end

def hallArithmetic : Arithmetic where
  nextPosition _ _ position := position
  isInsideSkillHitBox _ _ _ _ _ := false

/-- Every datagram is the hello of the one participant. -/
def hallHello : Parse := fun _ =>
  some { protocolVersion := dungeonProtocolVersion, dungeonId := 1, payload := .udpHello 100 7 }

def hallConfig : TickConfig where
  reconnectGrace := 30
  maxDungeonLifetime := 1000
  readyTimeout := 30
  udpIdleTimeout := 30

def hallNext : Service → ServiceStep → Option Service :=
  Service.next hallArithmetic {} hallConfig hallHello

/-- A party of one enters the hall, and the tick starts and plays it up to the check of its room. -/
def enterHall (enemies : List ContentOp) (spawns : List EnemySpawnTemplate) : List ServiceStep :=
  let hall : RoomTemplate :=
    { id := 1, width := 10, depth := 10, playerSpawn := {}, enemySpawns := spawns }
  let hello : DungeonUdpSession.Datagram := { sender := ⟨1, 2⟩, now := 0, order := [], bytes := [0] }
  let start : List TickReading :=
    [{ now := 1 }, {}, { dungeons := [1] }, {}, {}, {}, {}, {}, {}, { dungeons := [1] }, {}]
  let play : List TickReading := [{ sessions := [100] }, {}, {}, {}, {}, {}, {}, { rooms := [1] }]
  (enemies ++ [ContentOp.addDungeon 1 "Hall" [hall] 1 4]).map .addContent ++
    [.createDungeon 100 (PartyManager.createParty 100 {}).2 1 1 0, .request (.readParticipants 100),
      .request (.allocate 100 (some 40000) [7]), .request (.findToken 100), .receive 0 1 hello] ++
    (start ++ play).map .tick

/-- Without enemies the tick finds the hall cleared. -/
def hallSteps : List ServiceStep := enterHall [] [] ++ [.tick {}, .tick {}]

/-- With a goblin in it, the hall is not cleared. -/
def goblinSteps : List ServiceStep :=
  enterHall [.addEnemy { id := 7, name := "Goblin", maxHp := 1, moveSpeed := 1, aiType := .melee
                         collision := ⟨{}, { x := 1, y := 1, z := 1 }⟩ }]
    [⟨1, 7, { x := 5, y := 5 }, 1⟩]

/-- Whether each enemy of the dungeon lives. -/
def enemiesAlive (dungeon : DungeonInstance) : List Bool :=
  dungeon.rooms.toList.flatMap fun entry => entry.2.enemies.map (·.alive)

/-- The state of the hall and its enemies, one call of the tick later. -/
def hallAfter (steps : List ServiceStep) : Option (DungeonState × List Bool) :=
  (run hallNext {} (steps ++ [.tick {}])).bind fun w' =>
    (w'.manager.dungeons[1]?).map fun dungeon => (dungeon.state, enemiesAlive dungeon)

theorem run_of_hallAfter {steps : List ServiceStep} {state : DungeonState} {alive : List Bool}
    (h : hallAfter steps = some (state, alive)) :
    ∃ w w', run hallNext {} steps = some w ∧ hallNext w (.tick {}) = some w' ∧
      ∃ dungeon, w'.manager.dungeons[1]? = some dungeon ∧ dungeon.state = state ∧
        enemiesAlive dungeon = alive := by
  obtain ⟨w', hr', hafter⟩ := Option.bind_eq_some_iff.mp h
  obtain ⟨dungeon, hd, hsame⟩ := Option.map_eq_some_iff.mp hafter
  obtain ⟨w, hr, hlast⟩ := run_append.mp hr'
  obtain ⟨last, hn, hnil⟩ := run_cons.mp hlast
  obtain rfl := Option.some.inj hnil
  obtain ⟨hstate, halive⟩ := Prod.mk.inj hsame
  exact ⟨w, last, hr, hn, dungeon, hd, hstate, halive⟩

/-- The empty hall is finished in the next call; the hall with the goblin goes on. -/
theorem lawful_of_run_hall :
    (∃ w w', run hallNext {} hallSteps = some w ∧ hallNext w (.tick {}) = some w' ∧
      (∃ dungeon, w'.manager.dungeons[1]? = some dungeon ∧ dungeon.state = .finished) ∧
      Lawful hallConfig w w' (.tick {})) ∧
    ∃ w w', run hallNext {} goblinSteps = some w ∧ hallNext w (.tick {}) = some w' ∧
      (∃ dungeon, w'.manager.dungeons[1]? = some dungeon ∧ dungeon.state = .running ∧
        enemiesAlive dungeon = [true]) ∧
      Lawful hallConfig w w' (.tick {}) := by
  constructor
  · have hafter : hallAfter hallSteps = some (.finished, []) := by decide +kernel
    obtain ⟨w, w', hr, hn, dungeon, hd, hstate, -⟩ := run_of_hallAfter hafter
    exact ⟨w, w', hr, hn, ⟨dungeon, hd, hstate⟩, lawful_of_run ⟨hallSteps, hr⟩ hn⟩
  · have hafter : hallAfter goblinSteps = some (.running, [true]) := by decide +kernel
    obtain ⟨w, w', hr, hn, hd⟩ := run_of_hallAfter hafter
    exact ⟨w, w', hr, hn, hd, lawful_of_run ⟨goblinSteps, hr⟩ hn⟩

end DnfServer.Tick
