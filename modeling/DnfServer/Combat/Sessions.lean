import DnfServer.Combat.Resolution
import DnfServer.Participants.Simulation

/-!
# The sessions of the players in a fight

The list of participants, the players and both bindings between players and sessions stay in step
through every operation of a fight. The times of the disconnects play no part in it, so nothing is
asked of them.
-/

namespace DnfServer.Combat

open Std DnfServer.Library DnfServer.Dungeons DnfServer.Participants DungeonCombatProcessor
set_option autoImplicit false

/-- The dungeon without the times of the disconnects. -/
def timeless (d : DungeonInstance) : DungeonInstance := { d with disconnectedSince := ∅ }

/-- All but the times of the disconnects is in step. -/
def Linked (d : DungeonInstance) : Prop := Consistent (timeless d)

theorem linked_of_consistent {d : DungeonInstance} (h : Consistent d) : Linked d :=
  { h with disconnected := fun _ hs => absurd hs ExtTreeMap.not_mem_empty }

/-- The sessions and their bindings are the same. -/
structure SameSessions (d d' : DungeonInstance) : Prop where
  participants : d'.participants = d.participants
  participantPlayerIds : d'.participantPlayerIds = d.participantPlayerIds
  playerSessions : d'.playerSessions = d.playerSessions
  listed : ∀ s, s ∈ d'.players ↔ s ∈ d.players
  players : ∀ (s : SessionId) (player' : DungeonPlayerState), d'.players[s]? = some player' →
    ∃ player : DungeonPlayerState, d.players[s]? = some player ∧ player'.sessionId = player.sessionId

section

variable {d d' : DungeonInstance}

theorem Stayed.sessions (h : Stayed d d') : SameSessions d d' := by
  refine ⟨h.participants, h.participantPlayerIds, h.playerSessions, h.listed, fun s player' hs => ?_⟩
  obtain ⟨player, hplayer, -, hid⟩ := h.players s player' hs
  exact ⟨player, hplayer, hid⟩

theorem Linked.same (h : Linked d) (hs : SameSessions d d') : Linked d' where
  nodup := hs.participants ▸ h.nodup
  listed s := by
    refine (iff_of_eq (congrArg (s ∈ ·) hs.participants)).trans ?_
    exact (h.listed s).trans (hs.listed s).symm
  session s player' hplayer' := by
    obtain ⟨player, hplayer, hid⟩ := hs.players s player' hplayer'
    exact hid.trans (h.session s player hplayer)
  inverse := by
    simp only [timeless, hs.participantPlayerIds, hs.playerSessions]
    exact h.inverse
  bound s hbound := by
    simp only [timeless, hs.participantPlayerIds] at hbound
    exact (hs.listed s).mpr (h.bound s hbound)
  disconnected s hs := absurd hs ExtTreeMap.not_mem_empty
  nonzero := mt (hs.listed 0).mp h.nonzero

/-- The times of the disconnects play no part. -/
theorem Linked.of_timeless (h : Linked d) (heq : timeless d' = timeless d) : Linked d' := by
  rwa [Linked, heq]

theorem Linked.moveParticipant (h : Linked d) {p : PlayerId} {old new : SessionId}
    (hold : d.playerSessions[p]? = some old) (hfree : new ∉ d.players) (hnew : new ≠ 0)
    (since : IdMap Int) :
    Linked { (d.moveParticipant p old new).2 with disconnectedSince := since } := by
  have htimeless : timeless (d.moveParticipant p old new).2 = ((timeless d).moveParticipant p old new).2 := by
    unfold DungeonInstance.moveParticipant
    simp only [timeless]
    split <;> [rfl; split] <;> rfl
  obtain ⟨player, hplayer, -⟩ := Consistent.player_of_session h hold
  refine Linked.of_timeless (d := (d.moveParticipant p old new).2) ?_ rfl
  rw [Linked, htimeless, moveParticipant_eq h hplayer hfree hnew]
  exact moved_consistent h hold hfree hnew fun s hs => absurd hs ExtTreeMap.not_mem_empty

theorem Linked.dropParticipant (h : Linked d) (s : SessionId) : Linked (d.dropParticipant s) := by
  have htimeless : timeless (d.dropParticipant s) = (timeless d).dropParticipant s := by
    simp [timeless, DungeonInstance.dropParticipant]
  rw [Linked, htimeless, dropParticipant_eq h]
  exact without_consistent h [s]

theorem Linked.reconnect (h : Linked d) (p : PlayerId) (s : SessionId) (now grace : Int) :
    Linked (d.reconnectParticipant p s now grace).2 := by
  unfold DungeonInstance.reconnectParticipant
  split
  · exact h
  rename_i hnonzero
  split
  · exact h
  rename_i old hold
  split
  · exact h
  split
  · exact h
  rename_i hfree
  simp only [not_or] at hnonzero hfree
  have hmoved := h.moveParticipant hold hfree.1 hnonzero.2.1
  split
  · rename_i moved hmove
    have h := hmoved moved.disconnectedSince
    rwa [hmove] at h
  · rename_i moved hmove
    have h := hmoved (moved.disconnectedSince.erase old)
    rwa [hmove] at h

theorem Linked.rollback (h : Linked d) (p : PlayerId) (s : SessionId)
    (reconnect : DungeonParticipantReconnect) :
    Linked (d.rollbackParticipantReconnect p s reconnect).2 := by
  unfold DungeonInstance.rollbackParticipantReconnect
  split
  · exact h
  rename_i hnonzero
  split
  · exact h
  rename_i hfree
  simp only [not_or, not_not] at hnonzero hfree
  have hmoved := h.moveParticipant hfree.1 hfree.2.2 hnonzero.2.2
  split
  · rename_i moved hmove
    have h := hmoved moved.disconnectedSince
    rwa [hmove] at h
  · rename_i moved hmove
    have h := hmoved (moved.disconnectedSince.insertIfNew reconnect.replacedSessionId
      reconnect.disconnectedAt)
    rwa [hmove] at h

theorem Linked.removeExpired (h : Linked d) (now grace : Int) :
    Linked (d.removeExpiredDisconnectedParticipants now grace).2 := by
  have hfold (sessions : List SessionId) : ∀ {d : DungeonInstance}, Linked d →
      Linked (sessions.foldl DungeonInstance.dropParticipant d) := by
    induction sessions with
    | nil => exact id
    | cons s sessions ih => exact fun h => ih (h.dropParticipant s)
  unfold DungeonInstance.removeExpiredDisconnectedParticipants
  split
  · exact h
  · rw [removeExpiredLoop_eq]
    exact hfold _ h

theorem linked_of_event (h : Linked d) {event : DungeonEvent} (hevent : isCombat event = false)
    (enemyCatalog : EnemyCatalog) (skillCatalog : SkillCatalog) :
    Linked (event.apply enemyCatalog skillCatalog d) := by
  cases event with
  | moveTo s roomId nextPosition =>
    simp only [DungeonEvent.apply]
    split
    · exact h
    · exact h.same (Stayed.modifyPlayer s (Acts.moveTo _ nextPosition)
        (fun player => moveTo_sessionId _ nextPosition player) d).sessions
  | applyEnemyDamage roomId entityId damage => exact h.same (Stayed.onRoom roomId _ d).sessions
  | applyObstacleDamage roomId obstacleId damage => exact h.same (Stayed.onRoom roomId _ d).sessions
  | op op =>
    cases op with
    | start => exact h.same (Stayed.start enemyCatalog d).sessions
    | advanceRoomWaves => exact h.same (Stayed.advanceRoomWaves enemyCatalog d).sessions
    | tryUsePortal s => exact h.same (Stayed.tryUsePortal enemyCatalog s d).sessions
    | tryFinishIfCleared => exact h.same (Stayed.tryFinishIfCleared d).sessions
    | applyMovement arithmetic s movement =>
      exact h.same (Stayed.applyMovement enemyCatalog arithmetic s movement d).sessions
    | advanceCombatTick s => cases hevent
    | beginSkill s skillId => cases hevent
    | resolveHits arithmetic hits => cases hevent
    | applyDamage s damage =>
      exact h.same
        (Stayed.modifyPlayer s (Acts.applyDamage damage) (applyDamage_sessionId damage) d).sessions
    | bindParticipantPlayer s p =>
      have htimeless : timeless (d.bindParticipantPlayer s p).2 =
          ((timeless d).bindParticipantPlayer s p).2 := by
        simp only [DungeonInstance.bindParticipantPlayer, timeless]
        by_cases hzero : s = 0 ∨ p = 0
        · simp only [hzero, if_true]
        by_cases hplayer : s ∈ d.players
        · simp only [hzero, hplayer, not_true_eq_false, if_false]
          cases d.participantPlayerIds[s]? <;> cases d.playerSessions[p]? <;> rfl
        · simp only [hzero, hplayer, not_false_eq_true, if_true, if_false]
      exact (iff_of_eq (congrArg Consistent htimeless)).mpr (bind_consistent h s p)
    | disconnectParticipant s t =>
      refine h.of_timeless ?_
      simp only [DungeonEvent.apply, DungeonOp.apply, DungeonInstance.disconnectParticipant]
      split <;> rfl
    | reconnectParticipant p s now grace => exact h.reconnect p s now grace
    | rollbackParticipantReconnect p s reconnect => exact h.rollback p s reconnect
    | removeExpiredDisconnectedParticipants now grace => exact h.removeExpired now grace
    | removeAllParticipants => exact removeAll_consistent (timeless d)

end

/-! ## The fight -/

section

variable {arithmetic : Arithmetic} {skillCatalog : SkillCatalog} {template : DungeonTemplate}
  {attacks : List AuthenticatedPlayerAttack} {fight fight' : Fight}

/-- A call changes the players of the sessions, not the sessions. -/
theorem sessions_process (h : Roster fight.dungeon) :
    SameSessions fight.dungeon (fight.process arithmetic skillCatalog attacks).dungeon := by
  by_cases hstate : fight.dungeon.state = .running
  · rw [process_dungeon h hstate]
    have hplayers (s : SessionId) : (fight.attacking arithmetic skillCatalog attacks).dungeon.players[s]? =
        fight.dungeon.players[s]?.map DungeonPlayerState.advanceCombatTick ∨
        ∃ player player', fight.dungeon.players[s]? = some player ∧
          (fight.attacking arithmetic skillCatalog attacks).dungeon.players[s]? = some player' ∧
          player'.sessionId = player.sessionId := by
      rcases (loop_attacking arithmetic skillCatalog attacks fight).session s with
        huntouched | ⟨hit, hbegun⟩
      · exact .inl (huntouched.player.trans (getElem?_firstPass arithmetic h s))
      · obtain ⟨first, player', hfirst, hbegins, hplayer'⟩ := hbegun.player
        rw [getElem?_firstPass arithmetic h] at hfirst
        obtain ⟨player, hplayer, rfl⟩ := Option.map_eq_some_iff.mp hfirst
        exact .inr ⟨player, player', hplayer, hplayer',
          (beginSkill_sessionId hbegins).trans (advanceCombatTick_sessionId player)⟩
    refine ⟨rfl, rfl, rfl, fun s => ?_, fun s player' hplayer' => ?_⟩
    · rw [← ExtTreeMap.isSome_getElem?_iff_mem, ← ExtTreeMap.isSome_getElem?_iff_mem]
      rcases hplayers s with heq | ⟨player, player', hplayer, hplayer', -⟩
      · simp only [heq, Option.isSome_map]
      · simp only [hplayer, hplayer', Option.isSome_some]
    · rcases hplayers s with heq | ⟨player, player'', hplayer, hplayer'', hid⟩
      · obtain ⟨player, hplayer, rfl⟩ := Option.map_eq_some_iff.mp (heq.symm.trans hplayer')
        exact ⟨player, hplayer, advanceCombatTick_sessionId player⟩
      · obtain rfl := Option.some.inj (hplayer''.symm.trans hplayer')
        exact ⟨player, hplayer, hid⟩
  · rw [process_stopped hstate]
    exact (Stayed.refl fight.dungeon).sessions

theorem linked_next (hsteady : Steady arithmetic template fight) (h : Linked fight.dungeon)
    {event : FightEvent} (hn : fight.next arithmetic skillCatalog event = some fight') :
    Linked fight'.dungeon := by
  cases event with
  | process attacks =>
    obtain rfl := Option.some.inj hn
    exact h.same (sessions_process hsteady.roster)
  | content op =>
    obtain rfl := Option.some.inj hn
    exact h
  | dungeon event =>
    simp only [Fight.next] at hn
    split at hn
    · cases hn
    rename_i hevent
    obtain rfl := Option.some.inj hn
    exact linked_of_event h (Bool.eq_false_iff.mpr hevent) fight.content.enemies skillCatalog

end

end DnfServer.Combat
