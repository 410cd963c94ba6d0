import DnfServer.Library.Containers
import DnfServer.Library.Runs
import DnfServer.Model.Processors
import Mathlib.Logic.Relation

/-!
# What a dungeon goes through

The operations on a dungeon instance, from its creation to its end: those of the tick and of
the processors, and those on its participants. Each is a sequence of steps of a few kinds
(`DungeonStep`): the state of the dungeon goes on, a room starts a wave or takes a blow, a player
changes, moves or enters a room, participants move to other sessions or leave. An invariant of the
dungeon is shown of the steps, and holds of the operations by `steps_of_apply`.
-/

namespace DnfServer.Dungeons

open Std DnfServer.Library Relation
set_option autoImplicit false

inductive DungeonOp where
  | start
  | advanceRoomWaves
  | tryUsePortal (sessionId : SessionId)
  | tryFinishIfCleared
  | applyMovement (arithmetic : Arithmetic) (sessionId : SessionId) (movement : PlayerMovementMessage)
  | advanceCombatTick (sessionId : SessionId)
  | beginSkill (sessionId : SessionId) (skillId : SkillId)
  | applyDamage (sessionId : SessionId) (damage : UInt32)
  | resolveHits (arithmetic : Arithmetic) (hits : List (SessionId × PendingSkillHit))
  | bindParticipantPlayer (sessionId : SessionId) (playerId : PlayerId)
  | disconnectParticipant (sessionId : SessionId) (disconnectedAt : Int)
  | reconnectParticipant (playerId : PlayerId) (newSessionId : SessionId) (now reconnectGrace : Int)
  | rollbackParticipantReconnect (playerId : PlayerId) (newSessionId : SessionId)
      (reconnect : DungeonParticipantReconnect)
  | removeExpiredDisconnectedParticipants (now reconnectGrace : Int)
  | removeAllParticipants

section

variable (enemyCatalog : EnemyCatalog) (skillCatalog : SkillCatalog)

open DungeonCombatProcessor

def DungeonOp.apply (dungeon : DungeonInstance) : DungeonOp → DungeonInstance
  | .start => (dungeon.start enemyCatalog).2
  | .advanceRoomWaves => (dungeon.advanceRoomWaves enemyCatalog).2
  | .tryUsePortal s => (dungeon.tryUsePortal enemyCatalog s).2
  | .tryFinishIfCleared => dungeon.tryFinishIfCleared.2
  | .applyMovement arithmetic s movement =>
    DungeonMovementProcessor.applyMovement arithmetic enemyCatalog s movement dungeon
  | .advanceCombatTick s => modifyPlayer s (·.advanceCombatTick) dungeon
  | .beginSkill s skillId => match skillCatalog.getSkill skillId with
    | none => dungeon
    | some skill => modifyPlayer s (fun player => (player.beginSkill skill.id skill.manaCost
        skill.cooldownTicks skill.startupTicks skill.activeTicks skill.recoveryTicks).2) dungeon
  | .applyDamage s damage => modifyPlayer s (fun player => (player.applyDamage damage).2) dungeon
  | .resolveHits arithmetic hits => (DungeonCombatProcessor.resolveHits arithmetic hits (∅, dungeon)).2
  | .bindParticipantPlayer s p => (dungeon.bindParticipantPlayer s p).2
  | .disconnectParticipant s t => (dungeon.disconnectParticipant s t).2
  | .reconnectParticipant p s now grace => (dungeon.reconnectParticipant p s now grace).2
  | .rollbackParticipantReconnect p s reconnect =>
    (dungeon.rollbackParticipantReconnect p s reconnect).2
  | .removeExpiredDisconnectedParticipants now grace =>
    (dungeon.removeExpiredDisconnectedParticipants now grace).2
  | .removeAllParticipants => dungeon.removeAllParticipants.2

def DungeonOp.next (dungeon : DungeonInstance) (op : DungeonOp) : Option DungeonInstance :=
  some (op.apply enemyCatalog skillCatalog dungeon)

/-- The identifiers of the skills in the catalog. -/
def skillIds : List SkillId := skillCatalog.skills.toList.map (·.2.id)

end

/-! ## Single calls -/

/-- An operation, or one of the calls on a room or a player that operations are made of. -/
inductive DungeonEvent where
  | op (op : DungeonOp)
  | moveTo (sessionId : SessionId) (roomId : RoomId) (nextPosition : Position)
  | applyEnemyDamage (roomId : RoomId) (entityId : DungeonEntityId) (damage : UInt32)
  | applyObstacleDamage (roomId : RoomId) (obstacleId : ObstacleId) (damage : UInt32)

/-- A call on one room. -/
def onRoom (roomId : RoomId) (call : RoomState → RoomState) (dungeon : DungeonInstance) :
    DungeonInstance :=
  match dungeon.findRoom roomId with
  | none => dungeon
  | some room => { dungeon with rooms := dungeon.rooms.insert roomId (call room) }

section

variable (enemyCatalog : EnemyCatalog) (skillCatalog : SkillCatalog)

def DungeonEvent.apply (dungeon : DungeonInstance) : DungeonEvent → DungeonInstance
  | .op operation => operation.apply enemyCatalog skillCatalog dungeon
  | .moveTo s roomId nextPosition => match dungeon.findRoom roomId with
    | none => dungeon
    | some room =>
      DungeonCombatProcessor.modifyPlayer s (fun player => (player.moveTo room nextPosition).2) dungeon
  | .applyEnemyDamage roomId entityId damage =>
    onRoom roomId (fun room => (room.applyEnemyDamage entityId damage).2) dungeon
  | .applyObstacleDamage roomId obstacleId damage =>
    onRoom roomId (fun room => (room.applyObstacleDamage obstacleId damage).2) dungeon

def DungeonEvent.next (dungeon : DungeonInstance) (event : DungeonEvent) : Option DungeonInstance :=
  some (event.apply enemyCatalog skillCatalog dungeon)

end

/-! ## The steps -/

/-- One blow in a room. -/
inductive Blow (room : RoomState) : RoomState → Prop where
  | enemy (entityId : DungeonEntityId) (damage : UInt32) :
      Blow room (room.applyEnemyDamage entityId damage).2
  | obstacle (obstacleId : ObstacleId) (damage : UInt32) :
      Blow room (room.applyObstacleDamage obstacleId damage).2

/-- The player is in the same place. -/
def SamePlace (player player' : DungeonPlayerState) : Prop :=
  player'.roomId = player.roomId ∧ player'.position = player.position

/-- The second dungeon is the first with players moved to other sessions or taken out. -/
structure Descends (d d' : DungeonInstance) : Prop where
  dungeonTemplate : d'.dungeonTemplate = d.dungeonTemplate
  partyId : d'.partyId = d.partyId
  createdAt : d'.createdAt = d.createdAt
  state : d'.state = d.state
  rooms : d'.rooms = d.rooms
  size : d'.participants.length ≤ d.participants.length
  players : ∀ (s : SessionId) (player' : DungeonPlayerState), d'.players[s]? = some player' →
    ∃ (t : SessionId) (player : DungeonPlayerState), d.players[t]? = some player ∧
      player' = { player with sessionId := player'.sessionId }

section

variable (enemyCatalog : EnemyCatalog) (skillCatalog : SkillCatalog)

/-- A step of the processors and the waves. -/
inductive PlayStep (dungeon : DungeonInstance) : DungeonInstance → Prop where
  | wave {id : RoomId} {room : RoomState} (hstate : dungeon.state = .running)
      (hroom : dungeon.rooms[id]? = some room) :
      PlayStep dungeon
        { dungeon with rooms := dungeon.rooms.insert id (room.startNextWave enemyCatalog).2 }
  | blow {id : RoomId} {room room' : RoomState} (hroom : dungeon.rooms[id]? = some room)
      (h : Blow room room') : PlayStep dungeon { dungeon with rooms := dungeon.rooms.insert id room' }
  | change {s : SessionId} {player player' : DungeonPlayerState}
      (hplayer : dungeon.players[s]? = some player) (hplace : SamePlace player player')
      (hcooldowns : ∀ skillId ∈ player'.cooldowns,
        skillId ∈ player.cooldowns ∨ skillId ∈ skillIds skillCatalog) :
      PlayStep dungeon { dungeon with players := dungeon.players.insert s player' }
  | moveTo {s : SessionId} {player : DungeonPlayerState} {id : RoomId} {room : RoomState}
      (hplayer : dungeon.players[s]? = some player) (hroom : dungeon.rooms[id]? = some room)
      (position : Position) :
      PlayStep dungeon
        { dungeon with players := dungeon.players.insert s (player.moveTo room position).2 }
  | enterRoom {s : SessionId} {player : DungeonPlayerState} {id : RoomId} {room : RoomState}
      (hstate : dungeon.state = .running) (hplayer : dungeon.players[s]? = some player)
      (hroom : dungeon.rooms[id]? = some room) (position : Position) :
      PlayStep dungeon
        { dungeon with players := dungeon.players.insert s (player.enterRoom room position).2 }

inductive DungeonStep (dungeon : DungeonInstance) : DungeonInstance → Prop where
  | start (h : dungeon.state = .waiting) : DungeonStep dungeon { dungeon with state := .running }
  | finish (h : dungeon.state = .running) : DungeonStep dungeon { dungeon with state := .finished }
  | play {dungeon' : DungeonInstance} (h : PlayStep enemyCatalog skillCatalog dungeon dungeon') :
      DungeonStep dungeon dungeon'
  | participants {dungeon' : DungeonInstance} (h : Descends dungeon dungeon') :
      DungeonStep dungeon dungeon'

/-- A sequence of steps of the processors and the waves. -/
abbrev PlaySteps : DungeonInstance → DungeonInstance → Prop :=
  ReflTransGen (PlayStep enemyCatalog skillCatalog)

/-- A sequence of steps. -/
abbrev DungeonSteps : DungeonInstance → DungeonInstance → Prop :=
  ReflTransGen (DungeonStep enemyCatalog skillCatalog)

end

/-! ## Changes of one player -/

theorem moveTo_cooldowns (room : RoomState) (position : Position) (player : DungeonPlayerState) :
    (player.moveTo room position).2.cooldowns = player.cooldowns := by
  unfold DungeonPlayerState.moveTo
  split <;> [rfl; split] <;> [rfl; split] <;> rfl

theorem enterRoom_cooldowns (room : RoomState) (position : Position) (player : DungeonPlayerState) :
    (player.enterRoom room position).2.cooldowns = player.cooldowns := by
  unfold DungeonPlayerState.enterRoom
  split <;> [rfl; split] <;> rfl

theorem applyDamage_cooldowns (damage : UInt32) (player : DungeonPlayerState) :
    (player.applyDamage damage).2.cooldowns = player.cooldowns := by
  unfold DungeonPlayerState.applyDamage
  split
  · rfl
  · simp only
    split <;> split <;> rfl

theorem cooldowns_advanceCombatTick (player : DungeonPlayerState) :
    player.advanceCombatTick.cooldowns = DungeonPlayerState.advanceCooldowns player.cooldowns := by
  unfold DungeonPlayerState.advanceCombatTick
  simp only
  split <;> [rfl; split] <;> [rfl; split] <;> [rfl; split] <;> rfl

theorem advanceCombatTick_cooldowns {player : DungeonPlayerState} {skillId : SkillId}
    (h : skillId ∈ player.advanceCombatTick.cooldowns) : skillId ∈ player.cooldowns := by
  rw [cooldowns_advanceCombatTick, DungeonPlayerState.advanceCooldowns] at h
  exact ExtTreeMap.mem_of_mem_filterMap h

/-- A skill that begins adds at most its own cooldown. -/
theorem beginSkill_cooldowns {skillId x : SkillId}
    {manaCost cooldownTicks startupTicks activeTicks recoveryTicks : UInt32}
    {player : DungeonPlayerState}
    (h : x ∈ (player.beginSkill skillId manaCost cooldownTicks startupTicks activeTicks
      recoveryTicks).2.cooldowns) : x ∈ player.cooldowns ∨ x = skillId := by
  unfold DungeonPlayerState.beginSkill at h
  repeat' split at h
  all_goals simp only at h
  all_goals grind

theorem applyDamage_samePlace (damage : UInt32) (player : DungeonPlayerState) :
    SamePlace player (player.applyDamage damage).2 := by
  unfold DungeonPlayerState.applyDamage
  split
  · exact ⟨rfl, rfl⟩
  · simp only
    split <;> split <;> exact ⟨rfl, rfl⟩

theorem advanceCombatTick_samePlace (player : DungeonPlayerState) :
    SamePlace player player.advanceCombatTick := by
  unfold DungeonPlayerState.advanceCombatTick
  simp only
  repeat' split
  all_goals exact ⟨rfl, rfl⟩

theorem beginSkill_samePlace (skillId : SkillId)
    (manaCost cooldownTicks startupTicks activeTicks recoveryTicks : UInt32)
    (player : DungeonPlayerState) :
    SamePlace player (player.beginSkill skillId manaCost cooldownTicks startupTicks activeTicks
      recoveryTicks).2 := by
  unfold DungeonPlayerState.beginSkill
  repeat' split
  all_goals exact ⟨rfl, rfl⟩

/-! ## Changes of the participants -/

namespace Descends

variable {d d' d'' : DungeonInstance}

theorem refl (d : DungeonInstance) : Descends d d :=
  ⟨rfl, rfl, rfl, rfl, rfl, Nat.le_refl _, fun s player hp => ⟨s, player, hp, rfl⟩⟩

theorem trans (h : Descends d d') (h' : Descends d' d'') : Descends d d'' := by
  refine ⟨h'.dungeonTemplate.trans h.dungeonTemplate, h'.partyId.trans h.partyId,
    h'.createdAt.trans h.createdAt, h'.state.trans h.state, h'.rooms.trans h.rooms,
    Nat.le_trans h'.size h.size, ?_⟩
  intro s player'' hs
  obtain ⟨t, player', ht, heq'⟩ := h'.players s player'' hs
  obtain ⟨u, player, hu, heq⟩ := h.players t player' ht
  refine ⟨u, player, hu, ?_⟩
  rw [heq', heq]

theorem bindParticipantPlayer (s : SessionId) (p : PlayerId) (d : DungeonInstance) :
    Descends d (d.bindParticipantPlayer s p).2 := by
  unfold DungeonInstance.bindParticipantPlayer
  repeat' split
  all_goals exact ⟨rfl, rfl, rfl, rfl, rfl, Nat.le_refl _, fun s player hp => ⟨s, player, hp, rfl⟩⟩

theorem disconnectParticipant (s : SessionId) (t : Int) (d : DungeonInstance) :
    Descends d (d.disconnectParticipant s t).2 := by
  unfold DungeonInstance.disconnectParticipant
  split
  all_goals exact ⟨rfl, rfl, rfl, rfl, rfl, Nat.le_refl _, fun s player hp => ⟨s, player, hp, rfl⟩⟩

theorem moveParticipant (p : PlayerId) (old new : SessionId) (d : DungeonInstance) :
    Descends d (d.moveParticipant p old new).2 := by
  unfold DungeonInstance.moveParticipant
  split
  · exact refl d
  rename_i player hplayer
  split
  · refine ⟨rfl, rfl, rfl, rfl, rfl, Nat.le_refl _, ?_⟩
    intro s player' hs
    exact ⟨s, player', by grind, rfl⟩
  · rename_i player' hrebind
    have heq : player' = { player with sessionId := player'.sessionId } := by
      unfold DungeonPlayerState.rebindSession at hrebind
      split at hrebind
      · cases hrebind
      · cases hrebind
        rfl
    refine ⟨rfl, rfl, rfl, rfl, rfl, Nat.le_of_eq List.length_replace, ?_⟩
    intro s other hs
    simp only at hs
    by_cases hnew : s = new ∧ other = player'
    · exact ⟨old, player, hplayer, hnew.2 ▸ heq⟩
    · exact ⟨s, other, by grind, rfl⟩

/-- Who is marked as disconnected plays no part. -/
theorem since (h : Descends d d') (since : IdMap Int) :
    Descends d { d' with disconnectedSince := since } :=
  { h with }

theorem reconnectParticipant (p : PlayerId) (s : SessionId) (now grace : Int) (d : DungeonInstance) :
    Descends d (d.reconnectParticipant p s now grace).2 := by
  unfold DungeonInstance.reconnectParticipant
  split
  · exact refl d
  split
  · exact refl d
  rename_i oldSessionId _
  split
  · exact refl d
  split
  · exact refl d
  have hmoved := moveParticipant p oldSessionId s d
  split
  all_goals
    rename_i heq
    rw [heq] at hmoved
  · exact hmoved
  · exact hmoved.since _

theorem rollbackParticipantReconnect (p : PlayerId) (s : SessionId)
    (reconnect : DungeonParticipantReconnect) (d : DungeonInstance) :
    Descends d (d.rollbackParticipantReconnect p s reconnect).2 := by
  unfold DungeonInstance.rollbackParticipantReconnect
  split
  · exact refl d
  split
  · exact refl d
  have hmoved := moveParticipant p s reconnect.replacedSessionId d
  split
  all_goals
    rename_i heq
    rw [heq] at hmoved
  · exact hmoved
  · exact hmoved.since _

theorem dropParticipant (s : SessionId) (d : DungeonInstance) : Descends d (d.dropParticipant s) := by
  refine ⟨rfl, rfl, rfl, rfl, rfl, List.length_filter_le .., ?_⟩
  intro t player ht
  simp only [DungeonInstance.dropParticipant] at ht
  exact ⟨t, player, by grind, rfl⟩

theorem removeExpiredLoop (now grace : Int) (entries : List (SessionId × Int)) :
    ∀ (removed : List SessionId) (d : DungeonInstance),
      Descends d (DungeonInstance.removeExpiredLoop now grace entries (removed, d)).2 := by
  induction entries with
  | nil => exact fun removed d => refl d
  | cons entry rest ih =>
    intro removed d
    obtain ⟨sessionId, disconnectedAt⟩ := entry
    simp only [DungeonInstance.removeExpiredLoop]
    split
    · exact (dropParticipant sessionId d).trans (ih _ _)
    · exact ih _ d

theorem removeExpired (now grace : Int) (d : DungeonInstance) :
    Descends d (d.removeExpiredDisconnectedParticipants now grace).2 := by
  unfold DungeonInstance.removeExpiredDisconnectedParticipants
  split
  · exact refl d
  · exact removeExpiredLoop now grace _ [] d

theorem removeAllParticipants (d : DungeonInstance) : Descends d d.removeAllParticipants.2 := by
  refine ⟨rfl, rfl, rfl, rfl, rfl, Nat.zero_le _, ?_⟩
  intro s player hs
  simp [DungeonInstance.removeAllParticipants] at hs

end Descends

/-! ## The operations as steps -/

section

variable {enemyCatalog : EnemyCatalog} {skillCatalog : SkillCatalog}

theorem PlaySteps.steps {d d' : DungeonInstance} (h : PlaySteps enemyCatalog skillCatalog d d') :
    DungeonSteps enemyCatalog skillCatalog d d' :=
  ReflTransGen.mono (fun _ _ => DungeonStep.play) _ _ h

/-- Blows on one room, one after the other. -/
theorem steps_of_blows {dungeon : DungeonInstance} {id : RoomId} {room room' : RoomState}
    (hroom : dungeon.rooms[id]? = some room) (h : ReflTransGen Blow room room') :
    PlaySteps enemyCatalog skillCatalog dungeon
      { dungeon with rooms := dungeon.rooms.insert id room' } := by
  induction h with
  | refl =>
    rw [insert_self hroom]
  | @tail struck last hpath hblow ih =>
    have hstruck : (dungeon.rooms.insert id struck)[id]? = some struck := by simp
    have hlast : dungeon.rooms.insert id last = (dungeon.rooms.insert id struck).insert id last := by
      refine ExtTreeMap.ext_getElem? fun k => ?_
      grind
    rw [hlast]
    exact ih.tail (.blow hstruck hblow)

theorem blows_of_hitEnemies (arithmetic : Arithmetic) (position : Position) (hit : PendingSkillHit)
    (room : RoomState) :
    ReflTransGen Blow room (DungeonCombatProcessor.hitEnemies arithmetic position hit room) := by
  unfold DungeonCombatProcessor.hitEnemies
  generalize room.enemies = enemies
  induction enemies generalizing room with
  | nil => exact .refl
  | cons enemy enemies ih =>
    rw [List.foldl_cons]
    split
    · exact .head (.enemy enemy.entityId (calculateDamage hit.skill)) (ih _)
    · exact ih room

theorem steps_of_start (dungeon : DungeonInstance) :
    DungeonSteps enemyCatalog skillCatalog dungeon (dungeon.start enemyCatalog).2 := by
  unfold DungeonInstance.start
  split
  · exact .refl
  rename_i hstate
  have hstarted : DungeonSteps enemyCatalog skillCatalog dungeon { dungeon with state := .running } :=
    .single (.start (by simpa using hstate))
  simp only
  split
  · exact hstarted
  split
  · exact hstarted
  rename_i firstRoom _ _ _ room hroom
  have hwave : PlayStep enemyCatalog skillCatalog { dungeon with state := .running } { dungeon with
      state := .running
      rooms := dungeon.rooms.insert firstRoom.id (room.startNextWave enemyCatalog).2 } :=
    .wave rfl hroom
  split
  all_goals
    rename_i heq
    rw [heq] at hwave
    exact hstarted.tail (.play hwave)

theorem steps_of_startWaves (rooms : List RoomId) :
    ∀ dungeon : DungeonInstance, dungeon.state = .running →
      PlaySteps enemyCatalog skillCatalog dungeon
        (DungeonInstance.startWaves enemyCatalog rooms dungeon).2 := by
  induction rooms with
  | nil => exact fun dungeon _ => .refl
  | cons roomId rest ih =>
    intro dungeon hstate
    simp only [DungeonInstance.startWaves, DungeonInstance.findRoom]
    split
    · exact ih dungeon hstate
    rename_i room hroom
    have hwave : PlayStep enemyCatalog skillCatalog dungeon { dungeon with
        rooms := dungeon.rooms.insert roomId (room.startNextWave enemyCatalog).2 } :=
      .wave hstate hroom
    split
    all_goals
      rename_i heq
      rw [heq] at hwave
    · exact .single hwave
    · exact .head hwave (ih _ hstate)

theorem steps_of_advanceRoomWaves (dungeon : DungeonInstance) :
    PlaySteps enemyCatalog skillCatalog dungeon (dungeon.advanceRoomWaves enemyCatalog).2 := by
  unfold DungeonInstance.advanceRoomWaves
  split
  · exact .refl
  · rename_i hstate
    exact steps_of_startWaves _ dungeon (by simpa using hstate)

theorem steps_of_tryUsePortal (s : SessionId) (dungeon : DungeonInstance) :
    PlaySteps enemyCatalog skillCatalog dungeon (dungeon.tryUsePortal enemyCatalog s).2 := by
  unfold DungeonInstance.tryUsePortal DungeonInstance.findPlayer DungeonInstance.findRoom
  split
  · exact .refl
  rename_i hstate
  split
  · exact .refl
  rename_i player hplayer
  split
  · exact .refl
  split
  · exact .refl
  split
  · exact .refl
  rename_i portal hportal
  split
  · exact .refl
  split
  · exact .refl
  rename_i targetRoom htarget
  split
  · rename_i player' henter
    have hrunning : dungeon.state = .running := by simpa using hstate
    have hentered : PlayStep enemyCatalog skillCatalog dungeon { dungeon with
        players := dungeon.players.insert s
          (player.enterRoom targetRoom portal.targetPosition).2 } :=
      .enterRoom hrunning hplayer htarget portal.targetPosition
    rw [henter] at hentered
    exact .head hentered (.single (.wave hrunning htarget))
  · exact .refl

theorem steps_of_modifyPlayer (s : SessionId) {change : DungeonPlayerState → DungeonPlayerState}
    (hplace : ∀ player, SamePlace player (change player))
    (hcooldowns : ∀ player, ∀ skillId ∈ (change player).cooldowns,
      skillId ∈ player.cooldowns ∨ skillId ∈ skillIds skillCatalog) (dungeon : DungeonInstance) :
    PlaySteps enemyCatalog skillCatalog dungeon
      (DungeonCombatProcessor.modifyPlayer s change dungeon) := by
  unfold DungeonCombatProcessor.modifyPlayer DungeonInstance.findPlayer
  split
  · exact .refl
  · rename_i player hplayer
    exact .single (.change hplayer (hplace player) (hcooldowns player))

theorem steps_of_resolveHits (arithmetic : Arithmetic) (hits : List (SessionId × PendingSkillHit)) :
    ∀ (pending : IdMap PendingSkillHit) (dungeon : DungeonInstance),
      PlaySteps enemyCatalog skillCatalog dungeon
        (DungeonCombatProcessor.resolveHits arithmetic hits (pending, dungeon)).2 := by
  induction hits with
  | nil => exact fun pending dungeon => .refl
  | cons entry rest ih =>
    intro pending dungeon
    obtain ⟨sessionId, hit⟩ := entry
    simp only [DungeonCombatProcessor.resolveHits]
    split
    · exact ih _ dungeon
    split
    · exact ih _ dungeon
    split
    · exact ih _ dungeon
    refine .trans ?_ (ih _ _)
    simp only [DungeonInstance.findRoom]
    split
    · exact .refl
    · rename_i room hroom
      exact steps_of_blows hroom (blows_of_hitEnemies arithmetic _ hit room)

theorem steps_of_applyMovement (arithmetic : Arithmetic) (s : SessionId)
    (movement : PlayerMovementMessage) (dungeon : DungeonInstance) :
    PlaySteps enemyCatalog skillCatalog dungeon
      (DungeonMovementProcessor.applyMovement arithmetic enemyCatalog s movement dungeon) := by
  unfold DungeonMovementProcessor.applyMovement DungeonInstance.findPlayer DungeonInstance.findRoom
  split
  · exact .refl
  rename_i player hplayer
  split
  · exact .refl
  rename_i room hroom
  simp only
  split
  · rename_i player' hmove
    have hmoved : PlayStep enemyCatalog skillCatalog dungeon { dungeon with
        players := dungeon.players.insert s (player.moveTo room
          (arithmetic.nextPosition movement.moveX movement.moveY player.position)).2 } :=
      .moveTo hplayer hroom _
    rw [hmove] at hmoved
    exact .head hmoved (steps_of_tryUsePortal s _)
  · exact .refl

theorem steps_of_tryFinishIfCleared (dungeon : DungeonInstance) :
    DungeonSteps enemyCatalog skillCatalog dungeon dungeon.tryFinishIfCleared.2 := by
  have hfinish : DungeonSteps enemyCatalog skillCatalog dungeon dungeon.finish.2 := by
    unfold DungeonInstance.finish
    split
    · exact .refl
    · rename_i hstate
      exact .single (.finish (by simpa using hstate))
  unfold DungeonInstance.tryFinishIfCleared
  repeat' split
  all_goals first
    | exact .refl
    | exact hfinish

theorem steps_of_advanceCombatTick (s : SessionId) (dungeon : DungeonInstance) :
    PlaySteps enemyCatalog skillCatalog dungeon
      (DungeonCombatProcessor.modifyPlayer s (·.advanceCombatTick) dungeon) :=
  steps_of_modifyPlayer s advanceCombatTick_samePlace
    (fun _ _ hs => .inl (advanceCombatTick_cooldowns hs)) dungeon

/-- A skill of the catalog adds at most its own cooldown. -/
theorem beginSkill_catalog {skillId x : SkillId} {skill : SkillTemplate} {player : DungeonPlayerState}
    (hskill : skillCatalog.getSkill skillId = some skill)
    (hx : x ∈ (player.beginSkill skill.id skill.manaCost skill.cooldownTicks skill.startupTicks
      skill.activeTicks skill.recoveryTicks).2.cooldowns) :
    x ∈ player.cooldowns ∨ x ∈ skillIds skillCatalog := by
  rcases beginSkill_cooldowns hx with hx | rfl
  · exact .inl hx
  · exact .inr (List.mem_map.mpr
      ⟨(skillId, skill), ExtTreeMap.mem_toList_iff_getElem?_eq_some.mpr hskill, rfl⟩)

/-- Each operation is a sequence of steps. -/
theorem steps_of_apply (op : DungeonOp) (dungeon : DungeonInstance) :
    DungeonSteps enemyCatalog skillCatalog dungeon (op.apply enemyCatalog skillCatalog dungeon) := by
  cases op with
  | start => exact steps_of_start dungeon
  | advanceRoomWaves => exact (steps_of_advanceRoomWaves dungeon).steps
  | tryUsePortal s => exact (steps_of_tryUsePortal s dungeon).steps
  | tryFinishIfCleared => exact steps_of_tryFinishIfCleared dungeon
  | applyMovement arithmetic s movement => exact (steps_of_applyMovement arithmetic s movement dungeon).steps
  | advanceCombatTick s =>
    exact (steps_of_advanceCombatTick s dungeon).steps
  | beginSkill s skillId =>
    simp only [DungeonOp.apply]
    split
    · exact .refl
    · rename_i skill hskill
      exact (steps_of_modifyPlayer s (beginSkill_samePlace skill.id skill.manaCost
        skill.cooldownTicks skill.startupTicks skill.activeTicks skill.recoveryTicks)
        (fun _ _ => beginSkill_catalog hskill) dungeon).steps
  | applyDamage s damage =>
    exact (steps_of_modifyPlayer s (applyDamage_samePlace damage)
      (fun player skillId hs => .inl (applyDamage_cooldowns damage player ▸ hs)) dungeon).steps
  | resolveHits arithmetic hits => exact (steps_of_resolveHits arithmetic hits ∅ dungeon).steps
  | bindParticipantPlayer s p => exact .single (.participants (.bindParticipantPlayer s p dungeon))
  | disconnectParticipant s t => exact .single (.participants (.disconnectParticipant s t dungeon))
  | reconnectParticipant p s now grace =>
    exact .single (.participants (.reconnectParticipant p s now grace dungeon))
  | rollbackParticipantReconnect p s reconnect =>
    exact .single (.participants (.rollbackParticipantReconnect p s reconnect dungeon))
  | removeExpiredDisconnectedParticipants now grace =>
    exact .single (.participants (.removeExpired now grace dungeon))
  | removeAllParticipants => exact .single (.participants (.removeAllParticipants dungeon))

theorem steps_of_event (event : DungeonEvent) (dungeon : DungeonInstance) :
    DungeonSteps enemyCatalog skillCatalog dungeon
      (event.apply enemyCatalog skillCatalog dungeon) := by
  cases event with
  | op op => exact steps_of_apply op dungeon
  | moveTo s roomId nextPosition =>
    simp only [DungeonEvent.apply, DungeonInstance.findRoom, DungeonCombatProcessor.modifyPlayer,
      DungeonInstance.findPlayer]
    split
    · exact .refl
    split
    · exact .refl
    · rename_i room hroom _ player hplayer
      exact .single (.play (.moveTo hplayer hroom nextPosition))
  | applyEnemyDamage roomId entityId damage =>
    simp only [DungeonEvent.apply, onRoom, DungeonInstance.findRoom]
    split
    · exact .refl
    · rename_i room hroom
      exact .single (.play (.blow hroom (.enemy entityId damage)))
  | applyObstacleDamage roomId obstacleId damage =>
    simp only [DungeonEvent.apply, onRoom, DungeonInstance.findRoom]
    split
    · exact .refl
    · rename_i room hroom
      exact .single (.play (.blow hroom (.obstacle obstacleId damage)))

/-! ## Invariants -/

section

variable {P : DungeonInstance → Prop}
  (hstep : ∀ d d', P d → DungeonStep enemyCatalog skillCatalog d d' → P d')

include hstep

/-- What each step preserves, a sequence of them does. -/
theorem DungeonSteps.invariant {d d' : DungeonInstance}
    (h : DungeonSteps enemyCatalog skillCatalog d d') (hd : P d) : P d' := by
  induction h with
  | refl => exact hd
  | tail _ hlast ih => exact hstep _ _ ih hlast

theorem invariant_of_run {start dungeon : DungeonInstance} {events : List DungeonEvent}
    (hstart : P start)
    (hr : run (DungeonEvent.next enemyCatalog skillCatalog) start events = some dungeon) :
    P dungeon := by
  refine reachable_invariant P ?_ hstart ⟨events, hr⟩
  intro d event d' hd hn
  obtain rfl := Option.some.inj hn
  exact (steps_of_event event d).invariant hstep hd

end

end

end DnfServer.Dungeons
