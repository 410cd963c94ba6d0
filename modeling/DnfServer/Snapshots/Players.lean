import DnfServer.Library.Runs
import DnfServer.Model.Snapshot

/-!
# Player states that the client accepts

The client drops a whole snapshot when one player in it fails a check. The server keeps
hit points, mana, the running skill and the cooldowns of a player in step with those checks
through every operation, whatever its arguments: the counters of a running skill and of the
cooldowns are positive until the tick that ends them.
-/

namespace DnfServer.Snapshots

open Std DnfServer.Library
set_option autoImplicit false

inductive PlayerOp where
  | beginSkill (skillId : SkillId)
      (manaCost cooldownTicks startupTicks activeTicks recoveryTicks : UInt32)
  | advanceCombatTick
  | applyDamage (damage : UInt32)
  | moveTo (room : RoomState) (nextPosition : Position)
  | enterRoom (room : RoomState) (spawnPosition : Position)
  | rebindSession (sessionId : SessionId)

def PlayerOp.apply (player : DungeonPlayerState) : PlayerOp → DungeonPlayerState
  | .beginSkill skillId manaCost cooldownTicks startupTicks activeTicks recoveryTicks =>
    (player.beginSkill skillId manaCost cooldownTicks startupTicks activeTicks recoveryTicks).2
  | .advanceCombatTick => player.advanceCombatTick
  | .applyDamage damage => (player.applyDamage damage).2
  | .moveTo room nextPosition => (player.moveTo room nextPosition).2
  | .enterRoom room spawnPosition => (player.enterRoom room spawnPosition).2
  | .rebindSession sessionId => (player.rebindSession sessionId).2

def PlayerOp.next (player : DungeonPlayerState) (op : PlayerOp) : Option DungeonPlayerState :=
  some (op.apply player)

/-- The state is made by the constructor and any number of operations. -/
def Built (player : DungeonPlayerState) : Prop :=
  ∃ (sessionId : SessionId) (roomId : RoomId) (position : Position) (maxMp maxHp : UInt32)
    (start : DungeonPlayerState),
    DungeonPlayerState.new sessionId roomId position maxMp maxHp = .ok start ∧
      Reachable PlayerOp.next start player

/-! ## The invariant -/

/-- Hit points and mana in their bounds, a running skill with a positive counter and a positive
active phase, and positive cooldowns of real skills. -/
structure Sound (player : DungeonPlayerState) : Prop where
  maxHp : player.maxHp ≠ 0
  currentHp : player.currentHp ≤ player.maxHp
  maxMp : player.maxMp ≠ 0
  currentMp : player.currentMp ≤ player.maxMp
  idle : player.actionPhase = .idle → player.actionSkillId = 0 ∧ player.actionRemainingTicks = 0
  busy : player.actionPhase ≠ .idle → player.actionSkillId ≠ 0 ∧ player.actionRemainingTicks ≠ 0 ∧
    player.actionActiveTicks ≠ 0
  cooldowns : ∀ skillId remaining : UInt32, player.cooldowns[skillId]? = some remaining →
    skillId ≠ 0 ∧ remaining ≠ 0

namespace Sound

variable {player : DungeonPlayerState}

theorem new {sessionId : SessionId} {roomId : RoomId} {position : Position} {maxMp maxHp : UInt32}
    (h : DungeonPlayerState.new sessionId roomId position maxMp maxHp = .ok player) :
    Sound player := by
  unfold DungeonPlayerState.new at h
  split at h
  · cases h
  · rename_i hargs
    simp only [not_or] at hargs
    obtain rfl := Except.ok.inj h
    exact {
      maxHp := hargs.2.2.2.2
      currentHp := UInt32.le_refl _
      maxMp := hargs.2.2.2.1
      currentMp := UInt32.le_refl _
      idle := fun _ => ⟨rfl, rfl⟩
      busy := fun hb => absurd rfl hb
      cooldowns := fun _ _ hc => by simp at hc }

theorem clearAction (h : Sound player) : Sound player.clearAction :=
  { h with
    idle := fun _ => ⟨rfl, rfl⟩
    busy := fun hb => absurd rfl hb }

theorem beginSkill (h : Sound player) (skillId : SkillId)
    (manaCost cooldownTicks startupTicks activeTicks recoveryTicks : UInt32) :
    Sound (player.beginSkill skillId manaCost cooldownTicks startupTicks activeTicks
      recoveryTicks).2 := by
  unfold DungeonPlayerState.beginSkill
  split
  · exact h
  split
  · exact h
  rename_i hskill
  split
  · exact h
  split
  · exact h
  split
  · exact h
  rename_i hmana
  obtain ⟨hid, hactive⟩ := not_or.mp hskill
  refine { h with currentMp := ?_, idle := ?_, busy := ?_, cooldowns := ?_ }
  · exact UInt32.le_trans (UInt32.sub_le (UInt32.not_lt.mp hmana)) h.currentMp
  · intro hidle
    simp only at hidle
    split at hidle <;> cases hidle
  · intro _
    refine ⟨hid, ?_, hactive⟩
    simp only
    split
    · rename_i hstartup
      exact (UInt32.pos_iff_ne_zero).mp hstartup
    · exact hactive
  · intro x remaining hx
    simp only at hx
    split at hx
    · rename_i hcooldown
      have := h.cooldowns x remaining
      have := (UInt32.pos_iff_ne_zero).mp hcooldown
      grind
    · exact h.cooldowns x remaining hx

/-- A cooldown that is still there has been counted down from one more. -/
theorem advanceCooldowns {cooldowns : ExtTreeMap UInt32 UInt32} {skillId remaining : UInt32}
    (h : (DungeonPlayerState.advanceCooldowns cooldowns)[skillId]? = some remaining) :
    remaining ≠ 0 ∧ cooldowns[skillId]? = some (remaining + 1) := by
  rw [DungeonPlayerState.advanceCooldowns, ExtTreeMap.getElem?_filterMap',
    Option.bind_eq_some_iff] at h
  obtain ⟨before, hb, h⟩ := h
  split at h
  · cases h
  · rename_i hne
    obtain rfl := Option.some.inj h
    exact ⟨hne, by rw [hb, UInt32.sub_add_cancel]⟩

theorem advanceCombatTick (h : Sound player) : Sound player.advanceCombatTick := by
  have hcooled : Sound { player with
      cooldowns := DungeonPlayerState.advanceCooldowns player.cooldowns } := by
    refine { h with cooldowns := ?_ }
    intro skillId remaining hc
    obtain ⟨hne, hbefore⟩ := advanceCooldowns hc
    exact ⟨(h.cooldowns skillId (remaining + 1) hbefore).1, hne⟩
  unfold DungeonPlayerState.advanceCombatTick
  simp only
  split
  · exact hcooled
  rename_i hbusy
  obtain ⟨hid, hremaining, hactive⟩ := h.busy hbusy
  split
  · rename_i hpos
    refine { hcooled with idle := fun hidle => absurd hidle hbusy, busy := fun _ => ?_ }
    exact ⟨hid, UInt32.pos_iff_ne_zero.mp hpos, hactive⟩
  split
  · refine { hcooled with idle := fun hidle => ?_, busy := fun _ => ⟨hid, hactive, hactive⟩ }
    cases hidle
  split
  · rename_i hrecovery
    refine { hcooled with idle := fun hidle => ?_, busy := fun _ => ?_ }
    · cases hidle
    · exact ⟨hid, UInt32.pos_iff_ne_zero.mp hrecovery.2, hactive⟩
  · exact { hcooled with idle := fun _ => ⟨rfl, rfl⟩, busy := fun hb => absurd rfl hb }

theorem applyDamage (h : Sound player) (damage : UInt32) : Sound (player.applyDamage damage).2 := by
  unfold DungeonPlayerState.applyDamage
  split
  · exact h
  have hhurt : Sound { player with
      currentHp := if damage ≥ player.currentHp then 0 else player.currentHp - damage } := by
    refine { h with currentHp := ?_ }
    simp only
    split
    · exact UInt32.zero_le
    · rename_i hlt
      exact UInt32.le_trans (UInt32.sub_le (UInt32.le_of_lt (UInt32.not_le.mp hlt))) h.currentHp
  generalize (if damage ≥ player.currentHp then 0 else player.currentHp - damage) = hp at hhurt ⊢
  simp only
  split
  · exact hhurt.clearAction
  · exact hhurt

/-- What one operation preserves. -/
theorem apply (h : Sound player) (op : PlayerOp) : Sound (op.apply player) := by
  cases op with
  | beginSkill skillId manaCost cooldownTicks startupTicks activeTicks recoveryTicks =>
    exact h.beginSkill skillId manaCost cooldownTicks startupTicks activeTicks recoveryTicks
  | advanceCombatTick => exact h.advanceCombatTick
  | applyDamage damage => exact h.applyDamage damage
  | moveTo room nextPosition =>
    simp only [PlayerOp.apply, DungeonPlayerState.moveTo]
    split
    · exact h
    split
    · exact h
    split
    · exact h
    · exact { h with }
  | enterRoom room spawnPosition =>
    simp only [PlayerOp.apply, DungeonPlayerState.enterRoom]
    split
    · exact h
    split
    · exact h
    · exact { h with }
  | rebindSession sessionId =>
    simp only [PlayerOp.apply, DungeonPlayerState.rebindSession]
    split
    · exact h
    · exact { h with }

end Sound

theorem Built.sound {player : DungeonPlayerState} (h : Built player) : Sound player := by
  obtain ⟨sessionId, roomId, position, maxMp, maxHp, start, hnew, hr⟩ := h
  refine reachable_invariant Sound ?_ (Sound.new hnew) hr
  intro before op after hs hn
  obtain rfl := Option.some.inj hn
  exact hs.apply op

/-! ## The checks of the client -/

/-- The conditions that `TryDecodeSnapshot` puts on the fields of a player. -/
structure FieldChecks (snapshot : DungeonPlayerSnapshot) : Prop where
  maxHp : 0 < snapshot.maxHp
  currentHp : snapshot.currentHp ≤ snapshot.maxHp
  alive : snapshot.alive = true ↔ 0 < snapshot.currentHp
  maxMp : 0 < snapshot.maxMp
  currentMp : snapshot.currentMp ≤ snapshot.maxMp
  idle : snapshot.skillAction.phase = .idle →
    snapshot.skillAction.skillId = 0 ∧ snapshot.skillAction.remainingTicks = 0
  busy : snapshot.skillAction.phase ≠ .idle →
    snapshot.skillAction.skillId ≠ 0 ∧ snapshot.skillAction.remainingTicks ≠ 0
  cooldowns : ∀ cooldown ∈ snapshot.cooldowns, cooldown.skillId ≠ 0 ∧ cooldown.remainingTicks ≠ 0
  distinct : (snapshot.cooldowns.map (·.skillId)).Nodup

theorem Sound.fieldChecks {player : DungeonPlayerState} (h : Sound player) :
    FieldChecks player.snapshot where
  maxHp := UInt32.pos_iff_ne_zero.mpr h.maxHp
  currentHp := h.currentHp
  alive := by simp [DungeonPlayerState.snapshot]
  maxMp := UInt32.pos_iff_ne_zero.mpr h.maxMp
  currentMp := h.currentMp
  idle := h.idle
  busy := fun hb => ⟨(h.busy hb).1, (h.busy hb).2.1⟩
  cooldowns := by
    intro cooldown hc
    obtain ⟨⟨skillId, remaining⟩, hmem, rfl⟩ := List.mem_map.mp hc
    exact h.cooldowns skillId remaining (ExtTreeMap.mem_toList_iff_getElem?_eq_some.mp hmem)
  distinct := by
    have hkeys : (player.snapshot.cooldowns.map (·.skillId)) = player.cooldowns.keys := by
      simp [DungeonPlayerState.snapshot, Function.comp_def, ← ExtTreeMap.map_fst_toList_eq_keys]
    rw [hkeys]
    exact ExtTreeMap.nodup_keys

/-- The set of the client only holds skills that came earlier. -/
theorem decodeCooldowns_isSome {cooldowns : List Protocol.SkillCooldownSnapshot} :
    ∀ {cooldownSkillIds : List UInt32},
      (∀ cooldown ∈ cooldowns, cooldown.skillId ≠ 0 ∧ cooldown.remainingTicks ≠ 0 ∧
        cooldown.skillId ∉ cooldownSkillIds) →
      (cooldowns.map (·.skillId)).Nodup →
      (Client.decodeCooldowns cooldownSkillIds cooldowns).isSome := by
  induction cooldowns with
  | nil => exact fun _ _ => rfl
  | cons cooldown rest ih =>
    intro cooldownSkillIds hall hnodup
    obtain ⟨hskill, hremaining, hnew⟩ := hall cooldown List.mem_cons_self
    obtain ⟨hfirst, hnodup⟩ := List.nodup_cons.mp hnodup
    rw [Client.decodeCooldowns, if_neg (by simp [hskill, hremaining, hnew]), Option.isSome_map]
    refine ih ?_ hnodup
    intro other hother
    obtain ⟨hskill', hremaining', hnew'⟩ := hall other (List.mem_cons_of_mem _ hother)
    refine ⟨hskill', hremaining', ?_⟩
    rw [List.mem_cons, not_or]
    exact ⟨fun heq => hfirst (List.mem_map.mpr ⟨other, hother, heq⟩), hnew'⟩

/-- The client reads the phase that the server has written. -/
theorem ofByte_toProtocolSkillPhase (phase : SkillActionPhase) :
    ∃ skillPhase, Client.SkillPhaseData.ofByte (toProtocolSkillPhase phase) = some skillPhase ∧
      (skillPhase = .idle ↔ phase = .idle) := by
  cases phase with
  | idle => exact ⟨.idle, rfl, by decide⟩
  | startup => exact ⟨.startup, rfl, by decide⟩
  | active => exact ⟨.active, rfl, by decide⟩
  | recovery => exact ⟨.recovery, rfl, by decide⟩

theorem FieldChecks.decodePlayer {snapshot : DungeonPlayerSnapshot} (h : FieldChecks snapshot)
    (sessionId : SessionId) :
    (Client.decodePlayer (encodePlayerSnapshot sessionId snapshot)).isSome := by
  have hcooldowns : (Client.decodeCooldowns []
      (encodePlayerSnapshot sessionId snapshot).cooldowns).isSome := by
    refine decodeCooldowns_isSome ?_ ?_
    · intro cooldown hc
      obtain ⟨original, hmem, rfl⟩ := List.mem_map.mp hc
      exact ⟨(h.cooldowns original hmem).1, (h.cooldowns original hmem).2, List.not_mem_nil⟩
    · simpa [encodePlayerSnapshot, Function.comp_def] using h.distinct
  obtain ⟨cooldowns, hcooldowns⟩ := Option.isSome_iff_exists.mp hcooldowns
  obtain ⟨skillPhase, hphase, hidle⟩ := ofByte_toProtocolSkillPhase snapshot.skillAction.phase
  have hpoints : ¬ (snapshot.maxHp = 0 ∨ snapshot.currentHp > snapshot.maxHp ∨
      snapshot.alive ≠ decide (snapshot.currentHp > 0) ∨ snapshot.maxMp = 0 ∨
      snapshot.currentMp > snapshot.maxMp) := by
    have halive : snapshot.alive = decide (snapshot.currentHp > 0) := by
      rw [Bool.eq_iff_iff, decide_eq_true_eq]
      exact h.alive
    simp only [not_or, not_not, UInt32.not_lt]
    exact ⟨UInt32.pos_iff_ne_zero.mp h.maxHp, h.currentHp, halive,
      UInt32.pos_iff_ne_zero.mp h.maxMp, h.currentMp⟩
  have haction : ¬ (skillPhase = .idle ∧
        (snapshot.skillAction.skillId ≠ 0 ∨ snapshot.skillAction.remainingTicks ≠ 0) ∨
      skillPhase ≠ .idle ∧
        (snapshot.skillAction.skillId = 0 ∨ snapshot.skillAction.remainingTicks = 0)) := by
    rw [ne_eq skillPhase, hidle]
    have := h.idle
    have := h.busy
    grind
  simp only [encodePlayerSnapshot] at hcooldowns ⊢
  simp [Client.decodePlayer, hpoints, hphase, haction, hcooldowns]

theorem mapM_isSome {α β : Type} {f : α → Option β} {xs : List α} (h : ∀ x ∈ xs, (f x).isSome) :
    (xs.mapM f).isSome := by
  induction xs with
  | nil => rfl
  | cons x xs ih =>
    obtain ⟨y, hy⟩ := Option.isSome_iff_exists.mp (h x List.mem_cons_self)
    obtain ⟨ys, hys⟩ := Option.isSome_iff_exists.mp (ih fun z hz => h z (List.mem_cons_of_mem _ hz))
    simp [List.mapM_cons, hy, hys]

theorem encodePlayers_decode {dungeon : DungeonInstance}
    (hp : ∀ (s : SessionId) (player : DungeonPlayerState), dungeon.players[s]? = some player →
      Sound player) {participants : List SessionId} :
    ∀ {players : List Protocol.PlayerSnapshot}, encodePlayers dungeon participants = .ok players →
      ∀ player ∈ players, (Client.decodePlayer player).isSome := by
  induction participants with
  | nil =>
    intro players h player hm
    obtain rfl := Except.ok.inj h
    cases hm
  | cons sessionId rest ih =>
    intro players h player hm
    simp only [encodePlayers, DungeonInstance.findPlayer] at h
    split at h
    · cases h
    · rename_i state hstate
      cases hrest : encodePlayers dungeon rest with
      | error failure =>
        rw [hrest] at h
        cases h
      | ok others =>
        rw [hrest] at h
        obtain rfl := Except.ok.inj h
        rcases List.mem_cons.mp hm with rfl | hm
        · exact (hp sessionId state hstate).fieldChecks.decodePlayer sessionId
        · exact ih hrest player hm

/-- A snapshot of a dungeon with sound players is decoded. -/
theorem tryDecodeSnapshot_isSome {dungeon : DungeonInstance} {serverTick : UInt32}
    {message : Protocol.SnapshotMessage} (hid : dungeon.dungeonId ≠ 0)
    (hp : ∀ (s : SessionId) (player : DungeonPlayerState), dungeon.players[s]? = some player →
      Sound player) (h : encodeDungeonSnapshot dungeon serverTick = .ok message) :
    (Client.tryDecodeSnapshot message).isSome := by
  unfold encodeDungeonSnapshot at h
  cases hplayers : encodePlayers dungeon dungeon.participants with
  | error failure =>
    rw [hplayers] at h
    cases h
  | ok players =>
    rw [hplayers] at h
    obtain rfl := Except.ok.inj h
    obtain ⟨decoded, hdecoded⟩ := Option.isSome_iff_exists.mp
      (mapM_isSome (encodePlayers_decode hp hplayers))
    have hstate : (Client.DungeonStateData.ofByte (toProtocolDungeonState dungeon.state)).isSome := by
      cases dungeon.state <;> rfl
    obtain ⟨state, hstate⟩ := Option.isSome_iff_exists.mp hstate
    have hversion : dungeonProtocolVersion = Client.protocolVersion := rfl
    simp only [Client.tryDecodeSnapshot, hversion, hid, hstate, hdecoded, ne_eq, not_true_eq_false,
      or_self, if_false, Option.bind_eq_bind, Option.bind_some, Option.isSome_bind]
    simp only [Option.pure_def, Option.isSome_some, Option.any_true]
    refine mapM_isSome ?_
    intro enemy he
    obtain ⟨snapshot, -, rfl⟩ := List.mem_map.mp he
    rfl

/-- The operands of all decrements of `AdvanceCombatTick` are positive. -/
def CountersPositive (player : DungeonPlayerState) : Prop :=
  (∀ skillId remaining : UInt32, player.cooldowns[skillId]? = some remaining → 0 < remaining) ∧
    (player.actionPhase ≠ .idle → 0 < player.actionRemainingTicks)

/-- Whatever operations a player state goes through, its snapshot passes every check of the client
on its fields and no counter is decremented below zero; and the client decodes every snapshot of
a dungeon with such players. -/
theorem player_snapshots_accepted :
    (∀ player : DungeonPlayerState, Built player →
      FieldChecks player.snapshot ∧ CountersPositive player) ∧
    ∀ (dungeon : DungeonInstance) (serverTick : UInt32) (message : Protocol.SnapshotMessage),
      dungeon.dungeonId ≠ 0 →
      (∀ (s : SessionId) (player : DungeonPlayerState), dungeon.players[s]? = some player →
        Built player) →
      encodeDungeonSnapshot dungeon serverTick = .ok message →
      (Client.tryDecodeSnapshot message).isSome := by
  refine ⟨?_, ?_⟩
  · intro player hb
    have h := hb.sound
    refine ⟨h.fieldChecks, ?_, ?_⟩
    · intro skillId remaining hc
      exact UInt32.pos_iff_ne_zero.mpr (h.cooldowns skillId remaining hc).2
    · intro hbusy
      exact UInt32.pos_iff_ne_zero.mpr (h.busy hbusy).2.1
  · intro dungeon serverTick message hid hp h
    exact tryDecodeSnapshot_isSome hid (fun s player hs => (hp s player hs).sound) h

/-- A skill without startup and with a cooldown, two ticks, a blow, and a change of the session. -/
def skillCalls : List PlayerOp :=
  [.beginSkill 7 30 5 0 2 3, .advanceCombatTick, .applyDamage 40, .advanceCombatTick,
    .rebindSession 101]

/-- A running dungeon whose only participant has that behind it. -/
def skilledDungeon (player : DungeonPlayerState) : DungeonInstance where
  dungeonId := 1
  dungeonTemplate := { id := 1, name := "field", rooms := [] }
  partyId := 1
  participants := [101]
  rooms := ∅
  players := ExtTreeMap.insert ∅ 101 player
  participantPlayerIds := ∅
  playerSessions := ∅
  disconnectedSince := ∅
  createdAt := 0
  state := .running

theorem player_snapshots_accepted_skillCalls :
    ∃ player message, Built player ∧ player.actionPhase = .recovery ∧ player.currentHp = 60 ∧
      FieldChecks player.snapshot ∧
      encodeDungeonSnapshot (skilledDungeon player) 9 = .ok message ∧
      (Client.tryDecodeSnapshot message).isSome := by
  obtain ⟨start, hnew⟩ : ∃ start, DungeonPlayerState.new 100 1 {} = .ok start := ⟨_, rfl⟩
  obtain ⟨player, hr⟩ : ∃ player, run PlayerOp.next start skillCalls = some player := ⟨_, rfl⟩
  have hstate : player.actionPhase = .recovery ∧ player.currentHp = 60 := by
    cases hnew
    cases hr
    decide
  have hb : Built player := ⟨100, 1, {}, 100, 100, start, hnew, skillCalls, hr⟩
  obtain ⟨message, hm⟩ : ∃ message, encodeDungeonSnapshot (skilledDungeon player) 9 = .ok message :=
    ⟨_, rfl⟩
  refine ⟨player, message, hb, hstate.1, hstate.2,
    (player_snapshots_accepted.1 player hb).1, hm, ?_⟩
  refine player_snapshots_accepted.2 _ 9 message Nat.one_ne_zero ?_ hm
  intro s other hs
  have : other = player := by
    simp only [skilledDungeon] at hs
    grind
  exact this ▸ hb

end DnfServer.Snapshots
