import DnfServer.Dungeons.Admission
import DnfServer.Dungeons.Creation

/-!
# What the content bounds

What grows in a dungeon is bounded by what its template and the skill catalog offer: the enemies
of a room by its spawns, the participants by the size of a party, the cooldowns of a player by
the skills.
-/

namespace DnfServer.Dungeons

open Std DnfServer.Library
set_option autoImplicit false

section

variable (enemyCatalog : EnemyCatalog) (skillCatalog : SkillCatalog)

/-- What the template and the catalogs bound. -/
structure Furnished (template : DungeonTemplate) (dungeon : DungeonInstance) : Prop where
  sameTemplate : dungeon.dungeonTemplate = template
  supplied : ∀ roomTemplate ∈ template.rooms, Supplied enemyCatalog roomTemplate
  rooms : ∀ (id : RoomId) (room : RoomState), dungeon.rooms[id]? = some room →
    room.roomTemplate ∈ template.rooms ∧ room.roomTemplate.id = id ∧ Counted room
  participants : dungeon.participants.length ≤ maxPartyMembers
  cooldowns : ∀ (s : SessionId) (player : DungeonPlayerState), dungeon.players[s]? = some player →
    ∀ skillId ∈ player.cooldowns, skillId ∈ skillIds skillCatalog

end

namespace Furnished

variable {enemyCatalog : EnemyCatalog} {skillCatalog : SkillCatalog} {template : DungeonTemplate}
  {dungeon : DungeonInstance}

/-- Another room state under the same identifier. -/
theorem insertRoom (h : Furnished enemyCatalog skillCatalog template dungeon) {id : RoomId}
    {room room' : RoomState} (hr : dungeon.rooms[id]? = some room) (hk : Keeps room room') :
    Furnished enemyCatalog skillCatalog template
      { dungeon with rooms := dungeon.rooms.insert id room' } := by
  refine { h with rooms := ?_ }
  intro x other hx
  obtain ⟨hmem, hid, hcount⟩ := h.rooms id room hr
  have hother := h.rooms x other
  simp only [ExtTreeMap.getElem?_insert] at hx
  split at hx
  · rename_i heq
    obtain rfl := Option.some.inj hx
    rw [hk.1]
    exact ⟨hmem, hid.trans (LawfulEqOrd.compare_eq_iff_eq.mp heq), hk.2 hcount⟩
  · exact hother hx

/-- The room of a template of the dungeon is supplied. -/
theorem suppliedRoom (h : Furnished enemyCatalog skillCatalog template dungeon) {id : RoomId}
    {room : RoomState} (hr : dungeon.rooms[id]? = some room) : Supplied enemyCatalog room.roomTemplate :=
  h.supplied _ (h.rooms id room hr).1

/-- Another player state without new cooldowns, or with one of a skill of the catalog. -/
theorem insertPlayer (h : Furnished enemyCatalog skillCatalog template dungeon) {s x : SessionId}
    {player player' : DungeonPlayerState} (hp : dungeon.players[s]? = some player)
    (hc : ∀ skillId ∈ player'.cooldowns, skillId ∈ player.cooldowns ∨ skillId ∈ skillIds skillCatalog) :
    Furnished enemyCatalog skillCatalog template
      { dungeon with players := dungeon.players.insert x player' } := by
  refine { h with cooldowns := ?_ }
  intro y other hy skillId hs
  have hold := h.cooldowns s player hp skillId
  have hother := h.cooldowns y other
  simp only [ExtTreeMap.getElem?_insert] at hy
  split at hy
  · obtain rfl := Option.some.inj hy
    rcases hc skillId hs with hs | hs
    · exact hold hs
    · exact hs
  · exact hother hy skillId hs

/-- What one step preserves. -/
theorem play (h : Furnished enemyCatalog skillCatalog template dungeon) {dungeon' : DungeonInstance}
    (hstep : PlayStep enemyCatalog skillCatalog dungeon dungeon') :
    Furnished enemyCatalog skillCatalog template dungeon' := by
  cases hstep with
  | wave hstate hroom => exact h.insertRoom hroom (keeps_startNextWave (h.suppliedRoom hroom))
  | blow hroom hblow => exact h.insertRoom hroom (keeps_blow hblow)
  | change hplayer hplace hcooldowns => exact h.insertPlayer hplayer hcooldowns
  | @moveTo s player id room hplayer hroom position =>
    exact h.insertPlayer hplayer fun skillId hs => .inl (moveTo_cooldowns room position player ▸ hs)
  | @enterRoom s player id room hstate hplayer hroom position =>
    exact h.insertPlayer hplayer fun skillId hs =>
      .inl (enterRoom_cooldowns room position player ▸ hs)

theorem step (h : Furnished enemyCatalog skillCatalog template dungeon) {dungeon' : DungeonInstance}
    (hstep : DungeonStep enemyCatalog skillCatalog dungeon dungeon') :
    Furnished enemyCatalog skillCatalog template dungeon' := by
  cases hstep with
  | start hstate => exact { h with }
  | finish hstate => exact { h with }
  | play hplay => exact h.play hplay
  | participants hd =>
    refine ⟨hd.dungeonTemplate.trans h.sameTemplate, h.supplied, hd.rooms ▸ h.rooms,
      Nat.le_trans hd.size h.participants, ?_⟩
    intro x player hx skillId hs
    obtain ⟨s, old, hold, heq⟩ := hd.players x player hx
    rw [heq] at hs
    exact h.cooldowns s old hold skillId hs

/-- What one operation preserves. -/
theorem apply (h : Furnished enemyCatalog skillCatalog template dungeon) (op : DungeonOp) :
    Furnished enemyCatalog skillCatalog template (op.apply enemyCatalog skillCatalog dungeon) :=
  (steps_of_apply op dungeon).invariant (fun _ _ h hstep => h.step hstep) h

end Furnished

/-! ## Creation -/

theorem furnished_new {enemyCatalog : EnemyCatalog} {template : DungeonTemplate}
    (skillCatalog : SkillCatalog) {dungeonId : DungeonId} {partyId : PartyId}
    {participants : List SessionId} {createdAt : Int} {dungeon : DungeonInstance}
    (ha : Admitted enemyCatalog template)
    (h : DungeonInstance.new dungeonId template partyId participants createdAt = .ok dungeon) :
    Furnished enemyCatalog skillCatalog template dungeon := by
  have hc := created_new h
  refine ⟨hc.dungeonTemplate, fun roomTemplate hr => ha.sound.supplied hr, ?_, hc.size, ?_⟩
  · intro id room hr
    obtain ⟨roomTemplate, hm, rfl, hid⟩ := (hc.rooms id room).mp hr
    exact ⟨hm, hid, counted_new (ha.sound.supplied hm)⟩
  · intro s player hs skillId hskill
    obtain ⟨firstRoom, -, -, hplayers⟩ := hc.players
    have hnew := hplayers s player hs
    unfold DungeonPlayerState.new at hnew
    split at hnew
    · cases hnew
    · cases hnew
      simp at hskill

theorem furnished_of_run {enemyCatalog : EnemyCatalog} {skillCatalog : SkillCatalog}
    {template : DungeonTemplate} {dungeonId : DungeonId} {partyId : PartyId}
    {participants : List SessionId} {createdAt : Int} {start dungeon : DungeonInstance}
    {ops : List DungeonOp} (ha : Admitted enemyCatalog template)
    (hn : DungeonInstance.new dungeonId template partyId participants createdAt = .ok start)
    (hr : run (DungeonOp.next enemyCatalog skillCatalog) start ops = some dungeon) :
    Furnished enemyCatalog skillCatalog template dungeon := by
  refine reachable_invariant (Furnished enemyCatalog skillCatalog template) ?_
    (furnished_new skillCatalog ha hn) ⟨ops, hr⟩
  intro before op after h hstep
  obtain rfl := Option.some.inj hstep
  exact h.apply op

end DnfServer.Dungeons
