import DnfServer.Combat.Attacks

/-!
# The action of a player between two calls

Between two calls of `Process` players move, are hit, leave, and come back under another session. None
of it touches the skill a living player is in, and a session that has a player before and after has the
same one.
-/

namespace DnfServer.Combat

open Std DnfServer.Library DnfServer.Dungeons DungeonCombatProcessor
set_option autoImplicit false

/-- Without an action there is no skill. -/
def Rested (player : DungeonPlayerState) : Prop :=
  player.actionPhase = .idle → player.actionSkillId = 0

/-- The five fields of the action are the same. -/
structure SameAction (player player' : DungeonPlayerState) : Prop where
  skillId : player'.actionSkillId = player.actionSkillId
  phase : player'.actionPhase = player.actionPhase
  remainingTicks : player'.actionRemainingTicks = player.actionRemainingTicks
  activeTicks : player'.actionActiveTicks = player.actionActiveTicks
  recoveryTicks : player'.actionRecoveryTicks = player.actionRecoveryTicks

/-- A player that is alive afterwards was alive, and goes on with its action. -/
structure Acts (player player' : DungeonPlayerState) : Prop where
  rested : Rested player → Rested player'
  alive : player'.isAlive = true → player.isAlive = true
  action : player'.isAlive = true → SameAction player player'

section

variable {player player' player'' : DungeonPlayerState}

theorem SameAction.refl (player : DungeonPlayerState) : SameAction player player :=
  ⟨rfl, rfl, rfl, rfl, rfl⟩

theorem SameAction.trans (h : SameAction player player') (h' : SameAction player' player'') :
    SameAction player player'' :=
  ⟨h'.skillId.trans h.skillId, h'.phase.trans h.phase, h'.remainingTicks.trans h.remainingTicks,
    h'.activeTicks.trans h.activeTicks, h'.recoveryTicks.trans h.recoveryTicks⟩

theorem Acts.refl (player : DungeonPlayerState) : Acts player player :=
  ⟨id, id, fun _ => .refl player⟩

theorem Acts.trans (h : Acts player player') (h' : Acts player' player'') : Acts player player'' :=
  ⟨h'.rested ∘ h.rested, h.alive ∘ h'.alive,
    fun halive => (h.action (h'.alive halive)).trans (h'.action halive)⟩

theorem Acts.rebind (s : SessionId) (player : DungeonPlayerState) :
    Acts player { player with sessionId := s } :=
  ⟨id, id, fun _ => ⟨rfl, rfl, rfl, rfl, rfl⟩⟩

theorem Acts.applyDamage (damage : UInt32) (player : DungeonPlayerState) :
    Acts player (player.applyDamage damage).2 := by
  by_cases hzero : damage = 0 ∨ player.currentHp = 0
  · simp only [DungeonPlayerState.applyDamage, hzero, if_true]
    exact .refl player
  by_cases hle : player.currentHp ≤ damage
  · rw [applyDamage_lethal (fun h => hzero (.inr h)) hle]
    have hdead : ¬ ({ player with currentHp := 0 } : DungeonPlayerState).clearAction.isAlive = true := by
      simp [DungeonPlayerState.clearAction, DungeonPlayerState.isAlive]
    exact ⟨fun _ _ => rfl, fun halive => absurd halive hdead, fun halive => absurd halive hdead⟩
  · obtain ⟨hp, -, heq⟩ := applyDamage_survived (UInt32.not_le.mp hle)
    rw [heq]
    have hpos : player.isAlive = true :=
      decide_eq_true (UInt32.pos_iff_ne_zero.mpr fun h => hzero (.inr h))
    exact ⟨id, fun _ => hpos, fun _ => ⟨rfl, rfl, rfl, rfl, rfl⟩⟩

theorem Acts.moveTo (room : RoomState) (position : Position) (player : DungeonPlayerState) :
    Acts player (player.moveTo room position).2 := by
  unfold DungeonPlayerState.moveTo
  split <;> [exact .refl player; split] <;> [exact .refl player; split] <;>
    [exact .refl player; exact ⟨id, id, fun _ => ⟨rfl, rfl, rfl, rfl, rfl⟩⟩]

theorem Acts.enterRoom (room : RoomState) (position : Position) (player : DungeonPlayerState) :
    Acts player (player.enterRoom room position).2 := by
  unfold DungeonPlayerState.enterRoom
  split <;> [exact .refl player; split] <;>
    [exact .refl player; exact ⟨id, id, fun _ => ⟨rfl, rfl, rfl, rfl, rfl⟩⟩]

@[simp] theorem applyDamage_sessionId (damage : UInt32) (player : DungeonPlayerState) :
    (player.applyDamage damage).2.sessionId = player.sessionId := by
  unfold DungeonPlayerState.applyDamage
  split
  · rfl
  · simp only
    split <;> split <;> rfl

@[simp] theorem moveTo_sessionId (room : RoomState) (position : Position) (player : DungeonPlayerState) :
    (player.moveTo room position).2.sessionId = player.sessionId := by
  unfold DungeonPlayerState.moveTo
  split <;> [rfl; split] <;> [rfl; split] <;> rfl

@[simp] theorem enterRoom_sessionId (room : RoomState) (position : Position) (player : DungeonPlayerState) :
    (player.enterRoom room position).2.sessionId = player.sessionId := by
  unfold DungeonPlayerState.enterRoom
  split <;> [rfl; split] <;> rfl

theorem Acts.of_enterRoom {room : RoomState} {position : Position} {result : MovePlayerResult}
    (h : player.enterRoom room position = (result, player')) : Acts player player' := by
  have hacts := Acts.enterRoom room position player
  rwa [h] at hacts

end

/-- The operations on a dungeon that only `Process` calls. -/
def isCombat : DungeonEvent → Bool
  | .op (.advanceCombatTick _) | .op (.beginSkill ..) | .op (.resolveHits ..) => true
  | _ => false

/-! ## The players of a dungeon -/

/-- Each player of the second dungeon was one of the first, under the same session if that had one. -/
structure Passed (d d' : DungeonInstance) : Prop where
  roster : Roster d → Roster d'
  players : ∀ (s : SessionId) (player' : DungeonPlayerState), d'.players[s]? = some player' →
    ∃ (t : SessionId) (player : DungeonPlayerState), d.players[t]? = some player ∧
      Acts player player' ∧ (s ∈ d.players → t = s)

/-- Each player of the second dungeon was one of the first, under the same session. -/
structure Kept (d d' : DungeonInstance) : Prop where
  roster : Roster d → Roster d'
  players : ∀ (s : SessionId) (player' : DungeonPlayerState), d'.players[s]? = some player' →
    ∃ player : DungeonPlayerState, d.players[s]? = some player ∧ Acts player player'

/-- The participants and their bindings are the same. -/
structure Stayed (d d' : DungeonInstance) : Prop where
  participants : d'.participants = d.participants
  participantPlayerIds : d'.participantPlayerIds = d.participantPlayerIds
  playerSessions : d'.playerSessions = d.playerSessions
  listed : ∀ s, s ∈ d'.players ↔ s ∈ d.players
  players : ∀ (s : SessionId) (player' : DungeonPlayerState), d'.players[s]? = some player' →
    ∃ player : DungeonPlayerState, d.players[s]? = some player ∧ Acts player player' ∧
      player'.sessionId = player.sessionId

namespace Kept

variable {d d' d'' : DungeonInstance}

theorem passed (h : Kept d d') : Passed d d' := by
  refine ⟨h.roster, fun s player' hs => ?_⟩
  obtain ⟨player, hplayer, hacts⟩ := h.players s player' hs
  exact ⟨s, player, hplayer, hacts, fun _ => rfl⟩

theorem same (hparticipants : d'.participants = d.participants) (hplayers : d'.players = d.players) :
    Kept d d' := by
  refine ⟨fun h => ⟨hparticipants ▸ h.nodup, fun s => ?_⟩, fun _ player' hs =>
    ⟨player', hplayers ▸ hs, .refl player'⟩⟩
  rw [hparticipants, hplayers]
  exact h.listed s

theorem refl (d : DungeonInstance) : Kept d d := same rfl rfl

theorem trans (h : Kept d d') (h' : Kept d' d'') : Kept d d'' := by
  refine ⟨h'.roster ∘ h.roster, fun s player'' hs => ?_⟩
  obtain ⟨player', hplayer', hacts'⟩ := h'.players s player'' hs
  obtain ⟨player, hplayer, hacts⟩ := h.players s player' hplayer'
  exact ⟨player, hplayer, hacts.trans hacts'⟩

theorem dropParticipant (s : SessionId) (d : DungeonInstance) : Kept d (d.dropParticipant s) := by
  refine ⟨fun h => ⟨h.nodup.filter _, fun t => ?_⟩, fun t player' ht => ⟨player', ?_, .refl player'⟩⟩
  · have hlisted := h.listed t
    simp only [DungeonInstance.dropParticipant]
    grind
  · simp only [DungeonInstance.dropParticipant] at ht
    grind

theorem removeExpired (now grace : Int) (d : DungeonInstance) :
    Kept d (d.removeExpiredDisconnectedParticipants now grace).2 := by
  have hloop (entries : List (SessionId × Int)) : ∀ (removed : List SessionId) (d : DungeonInstance),
      Kept d (DungeonInstance.removeExpiredLoop now grace entries (removed, d)).2 := by
    induction entries with
    | nil => exact fun _ d => .refl d
    | cons entry entries ih =>
      intro removed d
      simp only [DungeonInstance.removeExpiredLoop]
      split
      · exact (dropParticipant entry.1 d).trans (ih _ _)
      · exact ih _ d
  unfold DungeonInstance.removeExpiredDisconnectedParticipants
  split
  · exact .refl d
  · exact hloop _ [] d

theorem removeAllParticipants (d : DungeonInstance) : Kept d d.removeAllParticipants.2 := by
  refine ⟨fun _ => ⟨List.nodup_nil, fun s => ?_⟩, fun s player hs => ?_⟩
  · simp [DungeonInstance.removeAllParticipants]
  · simp [DungeonInstance.removeAllParticipants] at hs

end Kept

namespace Stayed

variable {d d' d'' : DungeonInstance}

theorem kept (h : Stayed d d') : Kept d d' := by
  refine ⟨fun hr => ⟨h.participants ▸ hr.nodup, fun s => ?_⟩, fun s player' hs => ?_⟩
  · rw [h.participants, h.listed]
    exact hr.listed s
  · obtain ⟨player, hplayer, hacts, -⟩ := h.players s player' hs
    exact ⟨player, hplayer, hacts⟩

theorem passed (h : Stayed d d') : Passed d d' := h.kept.passed

theorem same (hparticipants : d'.participants = d.participants)
    (hids : d'.participantPlayerIds = d.participantPlayerIds)
    (hsessions : d'.playerSessions = d.playerSessions) (hplayers : d'.players = d.players) :
    Stayed d d' :=
  ⟨hparticipants, hids, hsessions, fun s => by rw [hplayers],
    fun _ player' hs => ⟨player', hplayers ▸ hs, .refl player', rfl⟩⟩

theorem refl (d : DungeonInstance) : Stayed d d := same rfl rfl rfl rfl

theorem trans (h : Stayed d d') (h' : Stayed d' d'') : Stayed d d'' := by
  refine ⟨h'.participants.trans h.participants,
    h'.participantPlayerIds.trans h.participantPlayerIds, h'.playerSessions.trans h.playerSessions,
    fun s => (h'.listed s).trans (h.listed s), fun s player'' hs => ?_⟩
  obtain ⟨player', hplayer', hacts', hid'⟩ := h'.players s player'' hs
  obtain ⟨player, hplayer, hacts, hid⟩ := h.players s player' hplayer'
  exact ⟨player, hplayer, hacts.trans hacts', hid'.trans hid⟩

/-- One player changes. -/
theorem insert {s : SessionId} {player player' : DungeonPlayerState} (hplayer : d.players[s]? = some player)
    (hacts : Acts player player') (hid : player'.sessionId = player.sessionId)
    (rooms : ExtTreeMap UInt32 RoomState) :
    Stayed d { d with players := d.players.insert s player', rooms } := by
  have hmem := mem_of_entry hplayer
  refine ⟨rfl, rfl, rfl, fun t => ?_, fun t other ht => ?_⟩
  · simp only
    grind
  · by_cases hst : s = t
    · subst hst
      obtain rfl : player' = other := by simpa using ht
      exact ⟨player, hplayer, hacts, hid⟩
    · exact ⟨other, by grind, .refl other, rfl⟩

theorem modifyPlayer (s : SessionId) {change : DungeonPlayerState → DungeonPlayerState}
    (hacts : ∀ player, Acts player (change player))
    (hid : ∀ player, (change player).sessionId = player.sessionId) (d : DungeonInstance) :
    Stayed d (DungeonCombatProcessor.modifyPlayer s change d) := by
  unfold DungeonCombatProcessor.modifyPlayer DungeonInstance.findPlayer
  split
  · exact .refl d
  · rename_i player hplayer
    exact .insert hplayer (hacts player) (hid player) d.rooms

theorem start (enemyCatalog : EnemyCatalog) (d : DungeonInstance) : Stayed d (d.start enemyCatalog).2 := by
  unfold DungeonInstance.start
  split
  · exact .refl d
  simp only
  repeat' split
  all_goals exact .same rfl rfl rfl rfl

theorem startWaves (enemyCatalog : EnemyCatalog) (rooms : List RoomId) :
    ∀ d : DungeonInstance, Stayed d (DungeonInstance.startWaves enemyCatalog rooms d).2 := by
  induction rooms with
  | nil => exact .refl
  | cons roomId rooms ih =>
    intro d
    simp only [DungeonInstance.startWaves]
    split
    · exact ih d
    split
    · exact .same rfl rfl rfl rfl
    · refine Stayed.trans ?_ (ih _)
      exact .same rfl rfl rfl rfl

theorem advanceRoomWaves (enemyCatalog : EnemyCatalog) (d : DungeonInstance) :
    Stayed d (d.advanceRoomWaves enemyCatalog).2 := by
  unfold DungeonInstance.advanceRoomWaves
  split
  · exact .refl d
  · exact startWaves enemyCatalog _ d

theorem tryUsePortal (enemyCatalog : EnemyCatalog) (s : SessionId) (d : DungeonInstance) :
    Stayed d (d.tryUsePortal enemyCatalog s).2 := by
  unfold DungeonInstance.tryUsePortal DungeonInstance.findPlayer
  split
  · exact .refl d
  split
  · exact .refl d
  rename_i player hplayer
  repeat' split
  all_goals first
    | exact .refl d
    | rename_i henter
      have hid := congrArg (fun result => result.2.sessionId) henter
      simp only [enterRoom_sessionId] at hid
      exact .insert hplayer (.of_enterRoom henter) hid.symm _

theorem applyMovement (enemyCatalog : EnemyCatalog) (arithmetic : Arithmetic) (s : SessionId)
    (movement : PlayerMovementMessage) (d : DungeonInstance) :
    Stayed d (DungeonMovementProcessor.applyMovement arithmetic enemyCatalog s movement d) := by
  unfold DungeonMovementProcessor.applyMovement DungeonInstance.findPlayer
  split
  · exact .refl d
  rename_i player hplayer
  split
  · exact .refl d
  rename_i room hroom
  simp only
  split
  · rename_i player' hmove
    have hacts := Acts.moveTo room
      (arithmetic.nextPosition movement.moveX movement.moveY player.position) player
    have hid := moveTo_sessionId room
      (arithmetic.nextPosition movement.moveX movement.moveY player.position) player
    rw [hmove] at hacts hid
    refine Stayed.trans ?_ (tryUsePortal enemyCatalog s _)
    exact .insert hplayer hacts hid _
  · exact .refl d

theorem tryFinishIfCleared (d : DungeonInstance) : Stayed d d.tryFinishIfCleared.2 := by
  have hfinish : Stayed d d.finish.2 := by
    unfold DungeonInstance.finish
    split
    · exact .refl d
    · exact .same rfl rfl rfl rfl
  unfold DungeonInstance.tryFinishIfCleared
  repeat' split
  all_goals first
    | exact .refl d
    | exact hfinish

theorem onRoom (roomId : RoomId) (call : RoomState → RoomState) (d : DungeonInstance) :
    Stayed d (Dungeons.onRoom roomId call d) := by
  unfold Dungeons.onRoom
  split
  · exact .refl d
  · exact .same rfl rfl rfl rfl

end Stayed

/-! ## Another session -/

/-- A player that moves to a free session. -/
theorem passed_move {d d' : DungeonInstance} {old new : SessionId} {player : DungeonPlayerState}
    (hplayer : d.players[old]? = some player) (hfree : new ∉ d.players)
    (hparticipants : d'.participants = d.participants.replace old new)
    (hplayers : d'.players = (d.players.erase old).insertIfNew new { player with sessionId := new }) :
    Passed d d' := by
  have hold := mem_of_entry hplayer
  refine ⟨fun h => ?_, fun s player' hs => ?_⟩
  · have hlist := (h.listed old).mpr hold
    have hfresh := mt (h.listed new).mp hfree
    refine ⟨hparticipants ▸ nodup_replace h.nodup hfresh, fun s => ?_⟩
    rw [hparticipants, hplayers, mem_replace h.nodup hlist hfresh]
    have hlisted := h.listed s
    grind
  · rw [hplayers] at hs
    by_cases hnew : s = new
    · subst hnew
      obtain rfl : { player with sessionId := s } = player' := by grind
      exact ⟨old, player, hplayer, .rebind s player, fun hs => absurd hs hfree⟩
    · exact ⟨s, player', by grind, .refl player', fun _ => rfl⟩

theorem passed_moveParticipant (p : PlayerId) (old : SessionId) {new : SessionId} {d : DungeonInstance}
    (hfree : new ∉ d.players) (hnew : new ≠ 0) (since : IdMap Int) :
    Passed d { (d.moveParticipant p old new).2 with disconnectedSince := since } := by
  unfold DungeonInstance.moveParticipant
  split
  · exact Kept.passed (.same rfl rfl)
  · rename_i player hplayer
    simp only [DungeonPlayerState.rebindSession, hnew, if_false]
    exact passed_move hplayer hfree rfl rfl

theorem passed_reconnect (p : PlayerId) (s : SessionId) (now grace : Int) (d : DungeonInstance) :
    Passed d (d.reconnectParticipant p s now grace).2 := by
  unfold DungeonInstance.reconnectParticipant
  split
  · exact (Kept.refl d).passed
  rename_i hnonzero
  split
  · exact (Kept.refl d).passed
  split
  · exact (Kept.refl d).passed
  split
  · exact (Kept.refl d).passed
  rename_i old _ _ since _ hfree
  simp only [not_or] at hnonzero hfree
  have hmoved := passed_moveParticipant p old hfree.1 hnonzero.2.1
  split
  · rename_i moved hmove
    have h := hmoved moved.disconnectedSince
    rwa [hmove] at h
  · rename_i moved hmove
    have h := hmoved (moved.disconnectedSince.erase old)
    rwa [hmove] at h

theorem passed_rollback (p : PlayerId) (s : SessionId) (reconnect : DungeonParticipantReconnect)
    (d : DungeonInstance) : Passed d (d.rollbackParticipantReconnect p s reconnect).2 := by
  unfold DungeonInstance.rollbackParticipantReconnect
  split
  · exact (Kept.refl d).passed
  rename_i hnonzero
  split
  · exact (Kept.refl d).passed
  rename_i hfree
  simp only [not_or] at hnonzero hfree
  have hmoved := passed_moveParticipant p s hfree.2.2 hnonzero.2.2
  split
  · rename_i moved hmove
    have h := hmoved moved.disconnectedSince
    rwa [hmove] at h
  · rename_i moved hmove
    have h := hmoved (moved.disconnectedSince.insertIfNew reconnect.replacedSessionId
      reconnect.disconnectedAt)
    rwa [hmove] at h

/-- No operation but those of `Process` touches an action, or mixes up two players. -/
theorem passed_of_event {event : DungeonEvent} (hevent : isCombat event = false)
    (enemyCatalog : EnemyCatalog) (skillCatalog : SkillCatalog) (d : DungeonInstance) :
    Passed d (event.apply enemyCatalog skillCatalog d) := by
  cases event with
  | moveTo s roomId nextPosition =>
    simp only [DungeonEvent.apply]
    split
    · exact (Kept.refl d).passed
    · exact (Stayed.modifyPlayer s (Acts.moveTo _ nextPosition)
        (fun player => moveTo_sessionId _ nextPosition player) d).passed
  | applyEnemyDamage roomId entityId damage => exact (Stayed.onRoom roomId _ d).passed
  | applyObstacleDamage roomId obstacleId damage => exact (Stayed.onRoom roomId _ d).passed
  | op op =>
    cases op with
    | start => exact (Stayed.start enemyCatalog d).passed
    | advanceRoomWaves => exact (Stayed.advanceRoomWaves enemyCatalog d).passed
    | tryUsePortal s => exact (Stayed.tryUsePortal enemyCatalog s d).passed
    | tryFinishIfCleared => exact (Stayed.tryFinishIfCleared d).passed
    | applyMovement arithmetic s movement =>
      exact (Stayed.applyMovement enemyCatalog arithmetic s movement d).passed
    | advanceCombatTick s => cases hevent
    | beginSkill s skillId => cases hevent
    | resolveHits arithmetic hits => cases hevent
    | applyDamage s damage =>
      exact (Stayed.modifyPlayer s (Acts.applyDamage damage) (applyDamage_sessionId damage) d).passed
    | bindParticipantPlayer s p =>
      simp only [DungeonEvent.apply, DungeonOp.apply, DungeonInstance.bindParticipantPlayer]
      repeat' split
      all_goals exact Kept.passed (.same rfl rfl)
    | disconnectParticipant s t =>
      simp only [DungeonEvent.apply, DungeonOp.apply, DungeonInstance.disconnectParticipant]
      split <;> exact Kept.passed (.same rfl rfl)
    | reconnectParticipant p s now grace => exact passed_reconnect p s now grace d
    | rollbackParticipantReconnect p s reconnect => exact passed_rollback p s reconnect d
    | removeExpiredDisconnectedParticipants now grace => exact (Kept.removeExpired now grace d).passed
    | removeAllParticipants => exact (Kept.removeAllParticipants d).passed

end DnfServer.Combat
