import DnfServer.Model.Processors
import DnfServer.Participants.Consistency

/-!
# What the tick leaves alone

Movement, combat and waves write the rooms, the running state and the states of players.
They leave the five containers of participants as they are, and the state of every player
but the one whose input is applied.
-/

namespace DnfServer.Participants

open Std DnfServer.Library
open DungeonMovementProcessor DungeonCombatProcessor
set_option autoImplicit false

/-- `d'` lists the same participants as `d`, and only players in `touched` have changed. -/
structure Simulated (touched : SessionId → Prop) (d d' : DungeonInstance) : Prop where
  dungeonId : d'.dungeonId = d.dungeonId
  partyId : d'.partyId = d.partyId
  participants : d'.participants = d.participants
  participantPlayerIds : d'.participantPlayerIds = d.participantPlayerIds
  playerSessions : d'.playerSessions = d.playerSessions
  disconnectedSince : d'.disconnectedSince = d.disconnectedSince
  players : ∀ s : SessionId, (d'.players[s]?).map (·.sessionId) = (d.players[s]?).map (·.sessionId)
  others : ∀ s : SessionId, ¬ touched s → d'.players[s]? = d.players[s]?

namespace Simulated

variable {touched : SessionId → Prop} {d d' d'' : DungeonInstance}

theorem refl (touched : SessionId → Prop) (d : DungeonInstance) : Simulated touched d d :=
  ⟨rfl, rfl, rfl, rfl, rfl, rfl, fun _ => rfl, fun _ _ => rfl⟩

theorem trans (h : Simulated touched d d') (h' : Simulated touched d' d'') :
    Simulated touched d d'' :=
  ⟨h'.dungeonId.trans h.dungeonId, h'.partyId.trans h.partyId,
    h'.participants.trans h.participants, h'.participantPlayerIds.trans h.participantPlayerIds,
    h'.playerSessions.trans h.playerSessions, h'.disconnectedSince.trans h.disconnectedSince,
    fun s => (h'.players s).trans (h.players s),
    fun s hs => (h'.others s hs).trans (h.others s hs)⟩

theorem rooms (touched : SessionId → Prop) (d : DungeonInstance) (state : DungeonState)
    (rooms : ExtTreeMap UInt32 RoomState) : Simulated touched d { d with state, rooms } :=
  ⟨rfl, rfl, rfl, rfl, rfl, rfl, fun _ => rfl, fun _ _ => rfl⟩

/-- One player is rewritten under its own session. -/
theorem player (touched : SessionId → Prop) {s : SessionId} {player player' : DungeonPlayerState}
    (hs : d.players[s]? = some player) (hid : player'.sessionId = player.sessionId)
    (ht : touched s) : Simulated touched d { d with players := d.players.insert s player' } := by
  refine ⟨rfl, rfl, rfl, rfl, rfl, rfl, ?_, ?_⟩
  · intro x
    simp only
    grind
  · intro x hx
    have : x ≠ s := fun h => hx (h ▸ ht)
    simp only
    grind

theorem mem_players (h : Simulated touched d d') (s : SessionId) : s ∈ d'.players ↔ s ∈ d.players := by
  have hs := h.players s
  cases h1 : d'.players[s]? <;> cases h2 : d.players[s]? <;> rw [h1, h2] at hs <;> grind

theorem consistent (h : Simulated touched d d') (hc : Consistent d) : Consistent d' := by
  refine ⟨by rw [h.participants]; exact hc.nodup, ?_, ?_, ?_, ?_, ?_, ?_⟩
  · intro s
    rw [h.participants, h.mem_players, hc.listed]
  · intro s player' hs
    have hp := h.players s
    rw [hs] at hp
    cases hd : d.players[s]? with
    | none =>
      rw [hd] at hp
      cases hp
    | some player =>
      rw [hd] at hp
      exact (Option.some.inj hp).trans (hc.session s player hd)
  · rw [h.participantPlayerIds, h.playerSessions]
    exact hc.inverse
  · intro s hs
    rw [h.participantPlayerIds] at hs
    exact (h.mem_players s).mpr (hc.bound s hs)
  · intro s hs
    rw [h.disconnectedSince] at hs
    exact (h.mem_players s).mpr (hc.disconnected s hs)
  · rw [h.mem_players]
    exact hc.nonzero

end Simulated

/-! ## Movement -/

theorem moveTo_sessionId {room : RoomState} {position : Position} {player player' : DungeonPlayerState}
    {result : MovePlayerResult} (h : player.moveTo room position = (result, player')) :
    player'.sessionId = player.sessionId := by
  unfold DungeonPlayerState.moveTo at h
  split at h
  · cases h; rfl
  · split at h
    · cases h; rfl
    · split at h
      · cases h; rfl
      · cases h; rfl

theorem enterRoom_sessionId {room : RoomState} {position : Position}
    {player player' : DungeonPlayerState} {result : MovePlayerResult}
    (h : player.enterRoom room position = (result, player')) :
    player'.sessionId = player.sessionId := by
  unfold DungeonPlayerState.enterRoom at h
  split at h
  · cases h; rfl
  · split at h
    · cases h; rfl
    · cases h; rfl

theorem tryUsePortal_simulated (catalog : EnemyCatalog) (s : SessionId) (d : DungeonInstance) :
    Simulated (· = s) d (d.tryUsePortal catalog s).2 := by
  unfold DungeonInstance.tryUsePortal
  split
  · exact Simulated.refl _ d
  · split
    · exact Simulated.refl _ d
    · rename_i player hp
      split
      · exact Simulated.refl _ d
      · split
        · exact Simulated.refl _ d
        · split
          · exact Simulated.refl _ d
          · split
            · exact Simulated.refl _ d
            · split
              · exact Simulated.refl _ d
              · split
                · rename_i he
                  have hplayer := Simulated.player (· = s) hp (enterRoom_sessionId he) rfl
                  exact hplayer.trans (Simulated.rooms _ _ d.state _)
                · exact Simulated.refl _ d

theorem applyMovement_simulated (arithmetic : Arithmetic) (catalog : EnemyCatalog) (s : SessionId)
    (movement : PlayerMovementMessage) (d : DungeonInstance) :
    Simulated (· = s) d (applyMovement arithmetic catalog s movement d) := by
  unfold applyMovement
  split
  · exact Simulated.refl _ d
  · rename_i player hp
    split
    · exact Simulated.refl _ d
    · simp only
      split
      · rename_i he
        have hplayer := Simulated.player (· = s) hp (moveTo_sessionId he) rfl
        exact hplayer.trans (tryUsePortal_simulated _ _ _)
      · exact Simulated.refl _ d

/-! ## Combat -/

theorem modifyPlayer_simulated {change : DungeonPlayerState → DungeonPlayerState} (s : SessionId)
    (d : DungeonInstance)
    (h : ∀ player, d.players[s]? = some player → (change player).sessionId = player.sessionId) :
    Simulated (· = s) d (modifyPlayer s change d) := by
  unfold modifyPlayer
  split
  · exact Simulated.refl _ d
  · rename_i player hp
    exact Simulated.player _ hp (h player hp) rfl

theorem advanceCombatTick_sessionId (player : DungeonPlayerState) :
    player.advanceCombatTick.sessionId = player.sessionId := by
  unfold DungeonPlayerState.advanceCombatTick
  simp only
  split
  · rfl
  · split
    · rfl
    · split
      · rfl
      · split <;> rfl

theorem beginSkill_sessionId {player player' : DungeonPlayerState} {skillId : SkillId}
    {manaCost cooldownTicks startupTicks activeTicks recoveryTicks : UInt32}
    {result : BeginSkillResult}
    (h : player.beginSkill skillId manaCost cooldownTicks startupTicks activeTicks recoveryTicks =
      (result, player')) : player'.sessionId = player.sessionId := by
  unfold DungeonPlayerState.beginSkill at h
  split at h
  · cases h; rfl
  · split at h
    · cases h; rfl
    · split at h
      · cases h; rfl
      · split at h
        · cases h; rfl
        · split at h
          · cases h; rfl
          · cases h; rfl

theorem resolveHits_simulated (arithmetic : Arithmetic) (entries : List (SessionId × PendingSkillHit))
    (hits : IdMap PendingSkillHit) (d : DungeonInstance) :
    Simulated (fun _ => False) d (resolveHits arithmetic entries (hits, d)).2 := by
  induction entries generalizing hits d with
  | nil => exact Simulated.refl _ d
  | cons entry rest ih =>
    obtain ⟨s, hit⟩ := entry
    rw [resolveHits]
    split
    · exact ih _ d
    · split
      · exact ih _ d
      · split
        · exact ih _ d
        · simp only
          split
          · exact ih _ d
          · exact (Simulated.rooms _ d d.state _).trans (ih _ _)

/-! ## Waves and the end -/

theorem startWaves_simulated (catalog : EnemyCatalog) (roomIds : List RoomId) (d : DungeonInstance) :
    Simulated (fun _ => False) d (DungeonInstance.startWaves catalog roomIds d).2 := by
  induction roomIds generalizing d with
  | nil => exact Simulated.refl _ d
  | cons roomId rest ih =>
    rw [DungeonInstance.startWaves]
    split
    · exact ih d
    · split
      · exact Simulated.rooms _ d d.state _
      · exact (Simulated.rooms _ d d.state _).trans (ih _)

theorem advanceRoomWaves_simulated (catalog : EnemyCatalog) (d : DungeonInstance) :
    Simulated (fun _ => False) d (d.advanceRoomWaves catalog).2 := by
  unfold DungeonInstance.advanceRoomWaves
  split
  · exact Simulated.refl _ d
  · exact startWaves_simulated catalog _ d

theorem tryFinishIfCleared_simulated (d : DungeonInstance) :
    Simulated (fun _ => False) d d.tryFinishIfCleared.2 := by
  unfold DungeonInstance.tryFinishIfCleared
  split
  · exact Simulated.refl _ d
  · split
    · exact Simulated.refl _ d
    · split
      · exact Simulated.refl _ d
      · split
        · exact Simulated.refl _ d
        · split
          · exact Simulated.refl _ d
          · unfold DungeonInstance.finish
            split
            · exact Simulated.refl _ d
            · exact Simulated.rooms _ d .finished d.rooms

end DnfServer.Participants
