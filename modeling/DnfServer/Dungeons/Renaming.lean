import DnfServer.Dungeons.Safety
import DnfServer.Library.Renaming
import DnfServer.Participants.Consistency
import Mathlib.Data.List.Dedup

/-!
# Sessions are only names

The operations on a dungeon compare session identifiers with one another and with zero, and never use
them otherwise. A dungeon whose sessions have other names therefore goes through the same operations,
under the new names, to the same dungeon under the new names. Loops over unordered maps may go through
their entries in another order: the waves of different rooms and the removals of different participants
can be swapped.
-/

namespace DnfServer.Dungeons

open Std DnfServer.Library
set_option autoImplicit false

/-- A renaming that is its own inverse and leaves "no session" alone. -/
structure Renaming (ρ : SessionId → SessionId) : Prop where
  involutive : Function.Involutive ρ
  zero : ρ 0 = 0

theorem Renaming.eq_zero_iff {ρ : SessionId → SessionId} (hρ : Renaming ρ) (s : SessionId) :
    ρ s = 0 ↔ s = 0 := by
  constructor
  · intro h
    rw [← hρ.involutive s, h, hρ.zero]
  · rintro rfl
    exact hρ.zero

/-- The player under its new session. -/
def renamePlayer (ρ : SessionId → SessionId) (player : DungeonPlayerState) : DungeonPlayerState :=
  { player with sessionId := ρ player.sessionId }

/-- The second dungeon is the first under other sessions. -/
structure Renamed (ρ : SessionId → SessionId) (d d' : DungeonInstance) : Prop where
  dungeonId : d'.dungeonId = d.dungeonId
  dungeonTemplate : d'.dungeonTemplate = d.dungeonTemplate
  partyId : d'.partyId = d.partyId
  participants : d'.participants = d.participants.map ρ
  rooms : d'.rooms = d.rooms
  players : Renames ρ (renamePlayer ρ) d.players d'.players
  participantPlayerIds : Renames ρ id d.participantPlayerIds d'.participantPlayerIds
  playerSessions : Renames id ρ d.playerSessions d'.playerSessions
  disconnectedSince : Renames ρ id d.disconnectedSince d'.disconnectedSince
  createdAt : d'.createdAt = d.createdAt
  state : d'.state = d.state

def DungeonOp.rename (ρ : SessionId → SessionId) : DungeonOp → DungeonOp
  | .start => .start
  | .advanceRoomWaves => .advanceRoomWaves
  | .tryUsePortal s => .tryUsePortal (ρ s)
  | .tryFinishIfCleared => .tryFinishIfCleared
  | .applyMovement arithmetic s movement => .applyMovement arithmetic (ρ s) movement
  | .advanceCombatTick s => .advanceCombatTick (ρ s)
  | .beginSkill s skillId => .beginSkill (ρ s) skillId
  | .applyDamage s damage => .applyDamage (ρ s) damage
  | .resolveHits arithmetic hits => .resolveHits arithmetic (hits.map fun entry => (ρ entry.1, entry.2))
  | .bindParticipantPlayer s p => .bindParticipantPlayer (ρ s) p
  | .disconnectParticipant s t => .disconnectParticipant (ρ s) t
  | .reconnectParticipant p s now grace => .reconnectParticipant p (ρ s) now grace
  | .rollbackParticipantReconnect p s reconnect =>
    .rollbackParticipantReconnect p (ρ s) { reconnect with
      replacedSessionId := ρ reconnect.replacedSessionId }
  | .removeExpiredDisconnectedParticipants now grace =>
    .removeExpiredDisconnectedParticipants now grace
  | .removeAllParticipants => .removeAllParticipants

def DungeonEvent.rename (ρ : SessionId → SessionId) : DungeonEvent → DungeonEvent
  | .op operation => .op (operation.rename ρ)
  | .moveTo s roomId nextPosition => .moveTo (ρ s) roomId nextPosition
  | .applyEnemyDamage roomId entityId damage => .applyEnemyDamage roomId entityId damage
  | .applyObstacleDamage roomId obstacleId damage => .applyObstacleDamage roomId obstacleId damage

theorem involutive_id {α : Type} : Function.Involutive (id : α → α) := fun _ => rfl

/-- A pass over pending hits, which takes the rooms through the hits in their order. -/
def isResolution : DungeonEvent → Bool
  | .op (.resolveHits ..) => true
  | _ => false

/-! ## One player -/

section

variable (ρ : SessionId → SessionId) (player : DungeonPlayerState)

theorem moveTo_rename (room : RoomState) (position : Position) :
    (renamePlayer ρ player).moveTo room position =
      ((player.moveTo room position).1, renamePlayer ρ (player.moveTo room position).2) := by
  unfold DungeonPlayerState.moveTo renamePlayer
  repeat' split
  all_goals rfl

theorem enterRoom_rename (room : RoomState) (position : Position) :
    (renamePlayer ρ player).enterRoom room position =
      ((player.enterRoom room position).1, renamePlayer ρ (player.enterRoom room position).2) := by
  unfold DungeonPlayerState.enterRoom renamePlayer
  repeat' split
  all_goals rfl

theorem advanceCombatTick_rename :
    (renamePlayer ρ player).advanceCombatTick = renamePlayer ρ player.advanceCombatTick := by
  unfold DungeonPlayerState.advanceCombatTick renamePlayer
  simp only
  repeat' split
  all_goals rfl

theorem beginSkill_rename (skillId : SkillId)
    (manaCost cooldownTicks startupTicks activeTicks recoveryTicks : UInt32) :
    (renamePlayer ρ player).beginSkill skillId manaCost cooldownTicks startupTicks activeTicks
        recoveryTicks =
      ((player.beginSkill skillId manaCost cooldownTicks startupTicks activeTicks recoveryTicks).1,
        renamePlayer ρ (player.beginSkill skillId manaCost cooldownTicks startupTicks activeTicks
          recoveryTicks).2) := by
  unfold DungeonPlayerState.beginSkill renamePlayer
  split
  · rfl
  split
  · rfl
  split
  · rfl
  split
  · rfl
  split <;> rfl

theorem applyDamage_rename (damage : UInt32) :
    (renamePlayer ρ player).applyDamage damage =
      ((player.applyDamage damage).1, renamePlayer ρ (player.applyDamage damage).2) := by
  unfold DungeonPlayerState.applyDamage renamePlayer
  split
  · rfl
  · simp only
    split <;> split <;> rfl

end

/-! ## The dungeon -/

section

variable {ρ : SessionId → SessionId} {d d' : DungeonInstance}

namespace Renamed

theorem findSession (h : Renamed ρ d d') (p : PlayerId) :
    d'.playerSessions[p]? = d.playerSessions[p]?.map ρ := h.playerSessions p

theorem findPlayerId (h : Renamed ρ d d') (s : SessionId) :
    d'.participantPlayerIds[ρ s]? = d.participantPlayerIds[s]? :=
  (h.participantPlayerIds s).trans (congrFun Option.map_id _)

theorem findDisconnect (h : Renamed ρ d d') (s : SessionId) :
    d'.disconnectedSince[ρ s]? = d.disconnectedSince[s]? :=
  (h.disconnectedSince s).trans (congrFun Option.map_id _)

theorem withRooms (h : Renamed ρ d d') (rooms : ExtTreeMap UInt32 RoomState) (state : DungeonState) :
    Renamed ρ { d with rooms, state } { d' with rooms, state } :=
  { h with rooms := rfl, state := rfl }

theorem insertPlayer (h : Renamed ρ d d') (hρ : Renaming ρ) (s : SessionId) (player : DungeonPlayerState) :
    Renamed ρ { d with players := d.players.insert s player }
      { d' with players := d'.players.insert (ρ s) (renamePlayer ρ player) } :=
  { h with players := h.players.insert hρ.involutive s player }

theorem findPlayer (h : Renamed ρ d d') (s : SessionId) :
    d'.findPlayer (ρ s) = (d.findPlayer s).map (renamePlayer ρ) := h.players s

theorem findRoom (h : Renamed ρ d d') (roomId : RoomId) : d'.findRoom roomId = d.findRoom roomId := by
  rw [DungeonInstance.findRoom, DungeonInstance.findRoom, h.rooms]

theorem modifyPlayer (h : Renamed ρ d d') (hρ : Renaming ρ) (s : SessionId)
    {change : DungeonPlayerState → DungeonPlayerState}
    (hchange : ∀ player, change (renamePlayer ρ player) = renamePlayer ρ (change player)) :
    Renamed ρ (DungeonCombatProcessor.modifyPlayer s change d)
      (DungeonCombatProcessor.modifyPlayer (ρ s) change d') := by
  unfold DungeonCombatProcessor.modifyPlayer
  rw [h.findPlayer s]
  cases d.findPlayer s with
  | none => exact h
  | some player =>
    simp only [Option.map_some, hchange]
    exact h.insertPlayer hρ s (change player)

/-- The dungeons differ in the containers of the participants. -/
theorem exists_eq (h : Renamed ρ d d') :
    ∃ participants players participantPlayerIds playerSessions disconnectedSince,
      d' = { d with participants, players, participantPlayerIds, playerSessions, disconnectedSince } := by
  obtain ⟨h1, h2, h3, -, h5, -, -, -, -, h10, h11⟩ := h
  cases d
  cases d'
  simp only at h1 h2 h3 h5 h10 h11
  subst h1 h2 h3 h5 h10 h11
  exact ⟨_, _, _, _, _, rfl⟩

theorem start (h : Renamed ρ d d') (enemyCatalog : EnemyCatalog) :
    Renamed ρ (d.start enemyCatalog).2 (d'.start enemyCatalog).2 := by
  obtain ⟨participants, players, participantPlayerIds, playerSessions, disconnectedSince, rfl⟩ :=
    h.exists_eq
  unfold DungeonInstance.start
  simp only
  split
  · exact h
  cases d.dungeonTemplate.rooms with
  | nil => exact h.withRooms d.rooms .running
  | cons firstRoom otherRooms =>
    simp only
    cases d.rooms[firstRoom.id]? with
    | none => exact h.withRooms d.rooms .running
    | some room =>
      simp only
      obtain ⟨started, room'⟩ := room.startNextWave enemyCatalog
      cases started <;> exact h.withRooms _ _

theorem tryUsePortal (h : Renamed ρ d d') (hρ : Renaming ρ) (enemyCatalog : EnemyCatalog)
    (s : SessionId) :
    Renamed ρ (d.tryUsePortal enemyCatalog s).2 (d'.tryUsePortal enemyCatalog (ρ s)).2 := by
  unfold DungeonInstance.tryUsePortal
  rw [h.state, h.findPlayer s]
  split
  · exact h
  cases d.findPlayer s with
  | none => exact h
  | some player =>
    simp only [Option.map_some, h.findRoom, h.dungeonTemplate, h.rooms, renamePlayer]
    cases d.findRoom player.roomId with
    | none => exact h
    | some room =>
      simp only
      cases d.dungeonTemplate.rooms.find? (·.id = player.roomId) with
      | none => exact h
      | some roomTemplate =>
        simp only
        cases roomTemplate.portals.find? fun portal =>
          isInsideCollisionBox portal.triggerArea player.position with
        | none => exact h
        | some portal =>
          simp only
          split
          · exact h
          cases d.findRoom portal.targetRoomId with
          | none => exact h
          | some targetRoom =>
            have henter := enterRoom_rename ρ player targetRoom portal.targetPosition
            simp only [renamePlayer] at henter
            simp only [henter]
            obtain ⟨result, player'⟩ := player.enterRoom targetRoom portal.targetPosition
            cases result with
            | success =>
              simp only
              exact { h with
                dungeonTemplate := rfl
                players := h.players.insert hρ.involutive s player'
                rooms := rfl
                state := rfl }
            | _ => exact h

theorem applyMovement (h : Renamed ρ d d') (hρ : Renaming ρ) (arithmetic : Arithmetic)
    (enemyCatalog : EnemyCatalog) (s : SessionId) (movement : PlayerMovementMessage) :
    Renamed ρ (DungeonMovementProcessor.applyMovement arithmetic enemyCatalog s movement d)
      (DungeonMovementProcessor.applyMovement arithmetic enemyCatalog (ρ s) movement d') := by
  unfold DungeonMovementProcessor.applyMovement
  rw [h.findPlayer s]
  cases d.findPlayer s with
  | none => exact h
  | some player =>
    simp only [Option.map_some, h.findRoom, renamePlayer]
    cases d.findRoom player.roomId with
    | none => exact h
    | some room =>
      have hmove := moveTo_rename ρ player room
        (arithmetic.nextPosition movement.moveX movement.moveY player.position)
      simp only [renamePlayer] at hmove
      simp only [hmove]
      obtain ⟨result, player'⟩ := player.moveTo room
        (arithmetic.nextPosition movement.moveX movement.moveY player.position)
      cases result with
      | success => exact (h.insertPlayer hρ s player').tryUsePortal hρ enemyCatalog s
      | _ => exact h

theorem onRoom (h : Renamed ρ d d') (roomId : RoomId) (call : RoomState → RoomState) :
    Renamed ρ (Dungeons.onRoom roomId call d) (Dungeons.onRoom roomId call d') := by
  unfold Dungeons.onRoom
  rw [h.findRoom]
  cases d.findRoom roomId with
  | none => exact h
  | some room =>
    simp only [h.rooms]
    exact { h with rooms := rfl }

theorem bindParticipantPlayer (h : Renamed ρ d d') (hρ : Renaming ρ) (s : SessionId) (p : PlayerId) :
    Renamed ρ (d.bindParticipantPlayer s p).2 (d'.bindParticipantPlayer (ρ s) p).2 := by
  unfold DungeonInstance.bindParticipantPlayer
  rw [h.findPlayerId s, h.findSession p]
  simp only [hρ.eq_zero_iff, h.players.mem_iff]
  split
  · exact h
  split
  · exact h
  cases d.participantPlayerIds[s]? with
  | some existingPlayer => exact h
  | none =>
    cases hsession : d.playerSessions[p]? with
    | some existingSession => exact h
    | none =>
      simp only [Option.map_none]
      exact { h with
        participantPlayerIds := h.participantPlayerIds.insertIfNew hρ.involutive s p
        playerSessions := h.playerSessions.insertIfNew involutive_id p s }

theorem disconnectParticipant (h : Renamed ρ d d') (hρ : Renaming ρ) (s : SessionId) (t : Int) :
    Renamed ρ (d.disconnectParticipant s t).2 (d'.disconnectParticipant (ρ s) t).2 := by
  unfold DungeonInstance.disconnectParticipant
  simp only [h.players.mem_iff]
  split
  · exact h
  · exact { h with disconnectedSince := h.disconnectedSince.insertIfNew hρ.involutive s t }

theorem moveParticipant (h : Renamed ρ d d') (hρ : Renaming ρ) (p : PlayerId) (old new : SessionId) :
    (d'.moveParticipant p (ρ old) (ρ new)).1 = (d.moveParticipant p old new).1 ∧
      Renamed ρ (d.moveParticipant p old new).2 (d'.moveParticipant p (ρ old) (ρ new)).2 := by
  have hold := h.players old
  unfold DungeonInstance.moveParticipant DungeonPlayerState.rebindSession
  rw [hold]
  cases d.players[old]? with
  | none => exact ⟨rfl, h⟩
  | some player =>
    simp only [Option.map_some, hρ.eq_zero_iff]
    split
    · rename_i heq
      split at heq
      · simp only [*, if_true]
        exact ⟨trivial, { h with players := h.players.erase hρ.involutive old }⟩
      · cases heq
    · rename_i player' heq
      split at heq
      · cases heq
      rename_i hnew
      obtain rfl := (Prod.mk.inj heq).2
      simp only [hnew, if_false]
      refine ⟨trivial, { h with
        participants := ?_
        players := (h.players.erase hρ.involutive old).insertIfNew hρ.involutive new _
        participantPlayerIds :=
          (h.participantPlayerIds.erase hρ.involutive old).insertIfNew hρ.involutive new p
        playerSessions := h.playerSessions.insert involutive_id p new }⟩
      simp only
      rw [h.participants, map_replace hρ.involutive.injective]

theorem reconnectParticipant (h : Renamed ρ d d') (hρ : Renaming ρ) (p : PlayerId) (s : SessionId)
    (now grace : Int) :
    Renamed ρ (d.reconnectParticipant p s now grace).2
      (d'.reconnectParticipant p (ρ s) now grace).2 := by
  unfold DungeonInstance.reconnectParticipant
  rw [h.findSession p]
  simp only [hρ.eq_zero_iff, h.players.mem_iff]
  split
  · exact h
  cases d.playerSessions[p]? with
  | none => exact h
  | some old =>
    simp only [Option.map_some, h.findDisconnect]
    cases d.disconnectedSince[old]? with
    | none => exact h
    | some since =>
      simp only
      split
      · exact h
      obtain ⟨hresult, hmoved⟩ := h.moveParticipant hρ p old s
      revert hresult hmoved
      obtain ⟨result, moved⟩ := d.moveParticipant p old s
      obtain ⟨result', moved'⟩ := d'.moveParticipant p (ρ old) (ρ s)
      rintro rfl hmoved
      cases result' with
      | false => exact hmoved
      | true => exact { hmoved with
          disconnectedSince := hmoved.disconnectedSince.erase hρ.involutive old }

theorem rollbackParticipantReconnect (h : Renamed ρ d d') (hρ : Renaming ρ) (p : PlayerId)
    (s : SessionId) (reconnect : DungeonParticipantReconnect) :
    Renamed ρ (d.rollbackParticipantReconnect p s reconnect).2
      (d'.rollbackParticipantReconnect p (ρ s) { reconnect with
        replacedSessionId := ρ reconnect.replacedSessionId }).2 := by
  have hsession : (d.playerSessions[p]?.map ρ ≠ some (ρ s)) = (d.playerSessions[p]? ≠ some s) := by
    rw [← Option.map_some, (Option.map_injective hρ.involutive.injective).ne_iff]
  unfold DungeonInstance.rollbackParticipantReconnect
  rw [h.findSession p]
  simp only [hρ.eq_zero_iff, h.players.mem_iff, hsession]
  split
  · exact h
  split
  · exact h
  obtain ⟨hresult, hmoved⟩ := h.moveParticipant hρ p s reconnect.replacedSessionId
  revert hresult hmoved
  obtain ⟨result, moved⟩ := d.moveParticipant p s reconnect.replacedSessionId
  obtain ⟨result', moved'⟩ := d'.moveParticipant p (ρ s) (ρ reconnect.replacedSessionId)
  rintro rfl hmoved
  cases result' with
  | false => exact hmoved
  | true => exact { hmoved with
      disconnectedSince := hmoved.disconnectedSince.insertIfNew hρ.involutive
        reconnect.replacedSessionId reconnect.disconnectedAt }

theorem dropParticipant (h : Renamed ρ d d') (hρ : Renaming ρ) (s : SessionId) :
    Renamed ρ (d.dropParticipant s) (d'.dropParticipant (ρ s)) := by
  unfold DungeonInstance.dropParticipant
  rw [h.findPlayerId s]
  refine { h with
    participants := ?_
    players := h.players.erase hρ.involutive s
    participantPlayerIds := h.participantPlayerIds.erase hρ.involutive s
    playerSessions := ?_
    disconnectedSince := h.disconnectedSince.erase hρ.involutive s }
  · simp only
    rw [h.participants, List.filter_map]
    congr 1
    refine List.filter_congr fun t _ => ?_
    simp [hρ.involutive.injective.eq_iff]
  · cases d.participantPlayerIds[s]? with
    | none => exact h.playerSessions
    | some p => exact h.playerSessions.erase involutive_id p

theorem removeAllParticipants (h : Renamed ρ d d') :
    Renamed ρ d.removeAllParticipants.2 d'.removeAllParticipants.2 :=
  { h with
    participants := rfl, players := .empty, participantPlayerIds := .empty, playerSessions := .empty
    disconnectedSince := .empty }

end Renamed

/-! ## Loops over unordered maps -/

theorem erase_comm {α : Type} (m : IdMap α) (a b : Nat) : (m.erase a).erase b = (m.erase b).erase a := by
  refine ExtTreeMap.ext_getElem? fun k => ?_
  grind

/-- Participants can be removed in any order. -/
theorem dropParticipant_comm (d : DungeonInstance) (a b : SessionId) :
    (d.dropParticipant a).dropParticipant b = (d.dropParticipant b).dropParticipant a := by
  by_cases hab : a = b
  · rw [hab]
  have hb : (d.participantPlayerIds.erase a)[b]? = d.participantPlayerIds[b]? := by grind
  have ha : (d.participantPlayerIds.erase b)[a]? = d.participantPlayerIds[a]? := by grind
  have hfilter : (d.participants.filter (· ≠ a)).filter (· ≠ b) =
      (d.participants.filter (· ≠ b)).filter (· ≠ a) := by
    rw [List.filter_filter, List.filter_filter]
    exact List.filter_congr fun _ _ => Bool.and_comm _ _
  simp only [DungeonInstance.dropParticipant, ha, hb, erase_comm _ a b, hfilter]
  congr 1
  cases d.participantPlayerIds[a]? with
  | none => rfl
  | some p =>
    cases d.participantPlayerIds[b]? with
    | none => rfl
    | some q => exact erase_comm _ p q

/-- The rooms of the connected players in some order. -/
theorem Renamed.perm_occupiedRoomIds (h : Renamed ρ d d') (hρ : Renaming ρ) :
    d'.occupiedRoomIds.Perm d.occupiedRoomIds := by
  have hplayers := h.players.perm_toList hρ.involutive
  have hrooms :=
    ((hplayers.filter fun entry => entry.1 ∉ d'.disconnectedSince).map fun entry => entry.2.roomId).dedup
  refine hrooms.trans (.of_eq ?_)
  rw [List.filter_map, List.map_map]
  congr 1
  have hfilter : d.players.toList.filter ((fun entry => decide (entry.1 ∉ d'.disconnectedSince)) ∘
      fun entry => (ρ entry.1, renamePlayer ρ entry.2)) =
      d.players.toList.filter fun entry => entry.1 ∉ d.disconnectedSince := by
    refine List.filter_congr fun entry _ => ?_
    simp [h.disconnectedSince.mem_iff]
  rw [hfilter]
  rfl

theorem Renamed.removeExpired (h : Renamed ρ d d') (hρ : Renaming ρ) (now grace : Int) :
    Renamed ρ (d.removeExpiredDisconnectedParticipants now grace).2
      (d'.removeExpiredDisconnectedParticipants now grace).2 := by
  have hfold (sessions : List SessionId) : ∀ {d d' : DungeonInstance}, Renamed ρ d d' →
      Renamed ρ (sessions.foldl DungeonInstance.dropParticipant d)
        ((sessions.map ρ).foldl DungeonInstance.dropParticipant d') := by
    induction sessions with
    | nil => exact id
    | cons s sessions ih => exact fun h => ih (h.dropParticipant hρ s)
  have hexpired : ((d'.disconnectedSince.toList.filter fun entry =>
      DungeonInstance.graceExpired now grace entry.2).map (·.1)).Perm
      (((d.disconnectedSince.toList.filter fun entry =>
        DungeonInstance.graceExpired now grace entry.2).map (·.1)).map ρ) := by
    refine (((h.disconnectedSince.perm_toList hρ.involutive).filter _).map _).trans (.of_eq ?_)
    rw [List.filter_map, List.map_map, List.map_map]
    rfl
  unfold DungeonInstance.removeExpiredDisconnectedParticipants
  split
  · exact h
  · rw [Participants.removeExpiredLoop_eq, Participants.removeExpiredLoop_eq]
    simp only
    rw [foldl_perm dropParticipant_comm hexpired]
    exact hfold _ h

theorem Renamed.tryFinishIfCleared (h : Renamed ρ d d') (hρ : Renaming ρ) :
    Renamed ρ d.tryFinishIfCleared.2 d'.tryFinishIfCleared.2 := by
  have hempty := h.players.isEmpty_eq hρ.involutive
  have hrooms (id : RoomId) : d'.players.toList.any (·.2.roomId ≠ id) =
      d.players.toList.any (·.2.roomId ≠ id) := by
    rw [(h.players.perm_toList hρ.involutive).any_eq, List.any_map]
    rfl
  have hfinish : Renamed ρ d.finish.2 d'.finish.2 := by
    unfold DungeonInstance.finish
    rw [h.state]
    split
    · exact h
    · exact { h with state := rfl }
  unfold DungeonInstance.tryFinishIfCleared
  rw [h.state, h.dungeonTemplate, h.rooms, hempty]
  split
  · exact h
  cases d.dungeonTemplate.rooms.getLast? with
  | none => exact h
  | some finalRoom =>
    simp only [hrooms]
    split
    · exact h
    split
    · exact h
    split
    · exact h
    · exact hfinish

/-! ### Waves -/

variable {enemyCatalog : EnemyCatalog} {template : DungeonTemplate}

/-- Different rooms do not interfere. -/
theorem onRoom_comm (call : RoomState → RoomState) (d : DungeonInstance) (a b : RoomId) :
    onRoom b call (onRoom a call d) = onRoom a call (onRoom b call d) := by
  by_cases hab : a = b
  · rw [hab]
  unfold onRoom DungeonInstance.findRoom
  cases ha : d.rooms[a]? with
  | none =>
    cases hb : d.rooms[b]? with
    | none => simp only [ha]
    | some roomB =>
      have ha' : (d.rooms.insert b (call roomB))[a]? = none := by grind
      simp only [ha']
  | some roomA =>
    cases hb : d.rooms[b]? with
    | none =>
      have hb' : (d.rooms.insert a (call roomA))[b]? = none := by grind
      simp only [ha, hb']
    | some roomB =>
      have ha' : (d.rooms.insert b (call roomB))[a]? = some roomA := by grind
      have hb' : (d.rooms.insert a (call roomA))[b]? = some roomB := by grind
      simp only [ha', hb']
      congr 1
      refine ExtTreeMap.ext_getElem? fun k => ?_
      grind

/-- With every enemy in the catalog the loop starts the next wave of each room. -/
theorem startWaves_eq (rooms : List RoomId) : ∀ {d : DungeonInstance}, Runnable enemyCatalog template d →
    (DungeonInstance.startWaves enemyCatalog rooms d).2 =
      rooms.foldl (fun d roomId => onRoom roomId (fun room => (room.startNextWave enemyCatalog).2) d) d := by
  induction rooms with
  | nil => exact fun _ => rfl
  | cons roomId rooms ih =>
    intro d h
    rw [List.foldl_cons]
    simp only [DungeonInstance.startWaves, onRoom, DungeonInstance.findRoom]
    cases hroom : d.rooms[roomId]? with
    | none => exact ih h
    | some room =>
      obtain ⟨started, hstarted⟩ := startNextWave_ok (h.supplied hroom)
      have hnext := h.insertRoom hroom (preserves_startNextWave (h.supplied hroom))
      simp only
      split
      · rename_i failure room' heq
        simp [heq] at hstarted
      · rename_i room' heq
        rw [heq] at hnext ⊢
        exact ih hnext

theorem Renamed.runnable (h : Renamed ρ d d') (hρ : Renaming ρ) (hr : Runnable enemyCatalog template d) :
    Runnable enemyCatalog template d' := by
  refine ⟨hr.sound, h.dungeonTemplate.trans hr.sameTemplate, h.rooms ▸ hr.listed, h.rooms ▸ hr.rooms, ?_⟩
  intro s player hs
  have hplayer := h.players (ρ s)
  rw [hρ.involutive s, hs] at hplayer
  obtain ⟨old, hold, rfl⟩ := Option.map_eq_some_iff.mp hplayer.symm
  rw [h.rooms]
  exact hr.players _ old hold

theorem Renamed.advanceRoomWaves (h : Renamed ρ d d') (hρ : Renaming ρ)
    (hr : Runnable enemyCatalog template d) :
    Renamed ρ (d.advanceRoomWaves enemyCatalog).2 (d'.advanceRoomWaves enemyCatalog).2 := by
  have hfold (rooms : List RoomId) : ∀ {d d' : DungeonInstance}, Renamed ρ d d' →
      Renamed ρ
        (rooms.foldl (fun d roomId => Dungeons.onRoom roomId
          (fun room => (room.startNextWave enemyCatalog).2) d) d)
        (rooms.foldl (fun d roomId => Dungeons.onRoom roomId
          (fun room => (room.startNextWave enemyCatalog).2) d) d') := by
    induction rooms with
    | nil => exact id
    | cons roomId rooms ih => exact fun h => ih (h.onRoom roomId _)
  unfold DungeonInstance.advanceRoomWaves
  rw [h.state]
  split
  · exact h
  · rw [startWaves_eq _ hr, startWaves_eq _ (h.runnable hρ hr),
      foldl_perm (onRoom_comm _) (h.perm_occupiedRoomIds hρ)]
    exact hfold _ h

/-- Any operation under the other names leads to the same dungeon under these names. -/
theorem renamed_of_event (h : Renamed ρ d d') (hρ : Renaming ρ) (hr : Runnable enemyCatalog template d)
    {event : DungeonEvent} (hevent : isResolution event = false) (skillCatalog : SkillCatalog) :
    Renamed ρ (event.apply enemyCatalog skillCatalog d)
      ((event.rename ρ).apply enemyCatalog skillCatalog d') := by
  cases event with
  | moveTo s roomId nextPosition =>
    simp only [DungeonEvent.apply, DungeonEvent.rename, h.findRoom]
    cases d.findRoom roomId with
    | none => exact h
    | some room =>
      exact h.modifyPlayer hρ s fun player => congrArg Prod.snd (moveTo_rename ρ player room nextPosition)
  | applyEnemyDamage roomId entityId damage => exact h.onRoom roomId _
  | applyObstacleDamage roomId obstacleId damage => exact h.onRoom roomId _
  | op op =>
    cases op with
    | start => exact h.start enemyCatalog
    | advanceRoomWaves => exact h.advanceRoomWaves hρ hr
    | tryUsePortal s => exact h.tryUsePortal hρ enemyCatalog s
    | tryFinishIfCleared => exact h.tryFinishIfCleared hρ
    | applyMovement arithmetic s movement => exact h.applyMovement hρ arithmetic enemyCatalog s movement
    | advanceCombatTick s => exact h.modifyPlayer hρ s (advanceCombatTick_rename ρ)
    | beginSkill s skillId =>
      simp only [DungeonEvent.apply, DungeonEvent.rename, DungeonOp.apply, DungeonOp.rename]
      cases skillCatalog.getSkill skillId with
      | none => exact h
      | some skill => exact h.modifyPlayer hρ s fun player => by rw [beginSkill_rename]
    | resolveHits arithmetic hits => cases hevent
    | applyDamage s damage =>
      exact h.modifyPlayer hρ s fun player => congrArg Prod.snd (applyDamage_rename ρ player damage)
    | bindParticipantPlayer s p => exact h.bindParticipantPlayer hρ s p
    | disconnectParticipant s t => exact h.disconnectParticipant hρ s t
    | reconnectParticipant p s now grace => exact h.reconnectParticipant hρ p s now grace
    | rollbackParticipantReconnect p s reconnect =>
      exact h.rollbackParticipantReconnect hρ p s reconnect
    | removeExpiredDisconnectedParticipants now grace => exact h.removeExpired hρ now grace
    | removeAllParticipants => exact h.removeAllParticipants

end

end DnfServer.Dungeons
