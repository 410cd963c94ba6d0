import DnfServer.Combat.Sessions
import DnfServer.Dungeons.Renaming

/-!
# A reconnect between two calls

A reconnect moves the player to its new session, but the pending hit stays under the old one, where the
next pass finds no player and erases it. So the run with the reconnect is the run without it under other
names, except for one hit that does not land. Landings can be swapped, since each takes the same hit
points from each enemy that it reaches alive.
-/

namespace DnfServer.Combat

open Std DnfServer.Library DnfServer.Dungeons DnfServer.Participants DungeonCombatProcessor
set_option autoImplicit false

/-! ## Landings in any order -/

section

variable {arithmetic : Arithmetic}

theorem damageEnemy_frame (damage : UInt32) (enemy : EnemyState) :
    (RoomState.damageEnemy damage enemy).position = enemy.position := by
  unfold RoomState.damageEnemy
  split <;> rfl

/-- Two blows on a living enemy, the second only if it survives the first. -/
theorem damageEnemy_comm (a b : UInt32) {enemy : EnemyState} (halive : enemy.alive = true) :
    (if (RoomState.damageEnemy a enemy).alive = true then
      RoomState.damageEnemy b (RoomState.damageEnemy a enemy) else RoomState.damageEnemy a enemy) =
    (if (RoomState.damageEnemy b enemy).alive = true then
      RoomState.damageEnemy a (RoomState.damageEnemy b enemy) else RoomState.damageEnemy b enemy) := by
  have hsub {c : UInt32} (h : ¬ c ≥ enemy.currentHp) :
      (enemy.currentHp - c).toNat = enemy.currentHp.toNat - c.toNat :=
    UInt32.toNat_sub_of_le _ _ (UInt32.le_of_lt (UInt32.not_le.mp h))
  by_cases ha : a ≥ enemy.currentHp <;> by_cases hb : b ≥ enemy.currentHp
  · simp [RoomState.damageEnemy, ha, hb]
  · have hkills : a ≥ enemy.currentHp - b := by
      rw [ge_iff_le, UInt32.le_iff_toNat_le] at ha ⊢
      rw [hsub hb]
      omega
    simp [RoomState.damageEnemy, ha, hb, halive, hkills]
  · have hkills : b ≥ enemy.currentHp - a := by
      rw [ge_iff_le, UInt32.le_iff_toNat_le] at hb ⊢
      rw [hsub ha]
      omega
    simp [RoomState.damageEnemy, ha, hb, halive, hkills]
  · have hkills : b ≥ enemy.currentHp - a ↔ a ≥ enemy.currentHp - b := by
      rw [ge_iff_le, ge_iff_le, UInt32.le_iff_toNat_le, UInt32.le_iff_toNat_le, hsub ha, hsub hb]
      omega
    have hleft : enemy.currentHp - a - b = enemy.currentHp - b - a := by
      grind
    simp [RoomState.damageEnemy, ha, hb, halive, hkills, hleft]

theorem struck_comm (a b : Landing) (enemy : EnemyState) :
    struck arithmetic b.position b.hit (struck arithmetic a.position a.hit enemy) =
      struck arithmetic a.position a.hit (struck arithmetic b.position b.hit enemy) := by
  have hreaches (landing : Landing) (damage : UInt32) :
      Reaches arithmetic landing.position landing.hit (RoomState.damageEnemy damage enemy) ↔
        calculateDamage landing.hit.skill > 0 ∧ (RoomState.damageEnemy damage enemy).alive = true ∧
          arithmetic.isInsideSkillHitBox landing.position enemy.position landing.hit.directionX
            landing.hit.directionY landing.hit.skill.hitBox = true := by
    rw [Reaches, damageEnemy_frame]
  have hdead (landing : Landing) (damage : UInt32)
      (h : ¬ Reaches arithmetic landing.position landing.hit enemy) (halive : enemy.alive = true) :
      ¬ Reaches arithmetic landing.position landing.hit (RoomState.damageEnemy damage enemy) :=
    fun hr => h ⟨hr.1, halive, ((hreaches landing damage).mp hr).2.2⟩
  by_cases ha : Reaches arithmetic a.position a.hit enemy <;>
    by_cases hb : Reaches arithmetic b.position b.hit enemy
  · have hcomm := damageEnemy_comm (calculateDamage a.hit.skill) (calculateDamage b.hit.skill) ha.2.1
    simp only [struck, ha, hb, if_true, hreaches, ha.1, hb.1, ha.2.2, hb.2.2, true_and, and_true]
    exact hcomm
  · simp only [struck, ha, hb, if_true, if_false, hdead b _ hb ha.2.1]
  · simp only [struck, ha, hb, if_true, if_false, hdead a _ ha hb.2.1]
  · simp only [struck, ha, hb, if_false]

theorem strikeOnce_comm (rooms : ExtTreeMap UInt32 RoomState) (a b : Landing) :
    strikeOnce arithmetic (strikeOnce arithmetic rooms a) b =
      strikeOnce arithmetic (strikeOnce arithmetic rooms b) a := by
  refine ExtTreeMap.ext_getElem? fun id => ?_
  simp only [getElem?_strikeOnce]
  split
  · split
    · simp only [Option.map_map]
      congr 1
      funext room
      simp only [Function.comp_apply, List.map_map]
      congr 1
      exact List.map_congr_left fun enemy _ => struck_comm a b enemy
    · rfl
  · rfl

/-- One entry of a pass, as far as the rooms are concerned. -/
def resolve (arithmetic : Arithmetic) (players : IdMap DungeonPlayerState)
    (rooms : ExtTreeMap UInt32 RoomState) (entry : SessionId × PendingSkillHit) :
    ExtTreeMap UInt32 RoomState :=
  (landing players ∅ entry).elim rooms (strikeOnce arithmetic rooms)

theorem resolve_comm (players : IdMap DungeonPlayerState) (rooms : ExtTreeMap UInt32 RoomState)
    (a b : SessionId × PendingSkillHit) :
    resolve arithmetic players (resolve arithmetic players rooms a) b =
      resolve arithmetic players (resolve arithmetic players rooms b) a := by
  unfold resolve
  cases landing players ∅ a with
  | none => rfl
  | some first =>
    cases landing players ∅ b with
    | none => rfl
    | some second => exact strikeOnce_comm rooms first second

theorem pass_rooms (hits : IdMap PendingSkillHit) {d : DungeonInstance} (h : Distinct d.rooms) :
    (pass arithmetic hits d).2 = { d with
      rooms := hits.toList.foldl (resolve arithmetic d.players) d.rooms } ∧
      Distinct (hits.toList.foldl (resolve arithmetic d.players) d.rooms) := by
  have hfold (entries : List (SessionId × PendingSkillHit)) : ∀ rooms : ExtTreeMap UInt32 RoomState,
      (entries.filterMap (landing d.players ∅)).foldl (strikeOnce arithmetic) rooms =
        entries.foldl (resolve arithmetic d.players) rooms := by
    induction entries with
    | nil => exact fun _ => rfl
    | cons entry entries ih =>
      intro rooms
      rw [List.filterMap_cons, List.foldl_cons, resolve]
      cases landing d.players ∅ entry with
      | none => exact ih rooms
      | some found => exact ih _
  rw [pass_eq ∅, (foldl_strike _ h).1, ← hfold]
  exact ⟨rfl, (foldl_strike _ h).2⟩

end

/-! ## The entries of both runs -/

section

variable {ρ : SessionId → SessionId} {arithmetic : Arithmetic} {skillCatalog : SkillCatalog}
  {template : DungeonTemplate} {s : SessionId} {lost : Prop}

/-- The second map holds the entries of the first under the other names, perhaps without that of the
session; what it holds under the old name of the session is not looked at. -/
def HitsAlike (ρ : SessionId → SessionId) (s : SessionId) (lost : Prop)
    (hits hits' : IdMap PendingSkillHit) : Prop :=
  ∃ common : IdMap PendingSkillHit, Renames ρ id common (hits'.erase s) ∧
    (common = hits ∨ common = hits.erase s ∧ lost)

theorem HitsAlike.mono {hits hits' : IdMap PendingSkillHit} {lost' : Prop}
    (h : HitsAlike ρ s lost hits hits') (hlost : lost → lost') : HitsAlike ρ s lost' hits hits' := by
  obtain ⟨common, hrenames, hcommon⟩ := h
  exact ⟨common, hrenames, hcommon.imp_right fun hlacks => ⟨hlacks.1, hlost hlacks.2⟩⟩

theorem isWaiting_rename {players players' : IdMap DungeonPlayerState}
    (h : Renames ρ (renamePlayer ρ) players players') (k : SessionId) (hit : PendingSkillHit) :
    isWaiting players' (ρ k, hit) = isWaiting players (k, hit) := by
  simp only [isWaiting, h k, Option.any_map]
  rfl

theorem resolve_rename {players players' : IdMap DungeonPlayerState}
    (h : Renames ρ (renamePlayer ρ) players players') (rooms : ExtTreeMap UInt32 RoomState)
    (entry : SessionId × PendingSkillHit) :
    resolve arithmetic players' rooms (ρ entry.1, entry.2) = resolve arithmetic players rooms entry := by
  unfold resolve landing
  simp only [h entry.1]
  cases players[entry.1]? with
  | none => rfl
  | some player =>
    simp only [Option.map_some, Option.bind_some]
    by_cases hdue : InSkill entry.2 player ∧ player.actionPhase = .active
    · have hdue' : InSkill entry.2 (renamePlayer ρ player) ∧
          (renamePlayer ρ player).actionPhase = .active := hdue
      rw [if_pos hdue, if_pos hdue']
      rfl
    · have hdue' : ¬ (InSkill entry.2 (renamePlayer ρ player) ∧
          (renamePlayer ρ player).actionPhase = .active) := hdue
      rw [if_neg hdue, if_neg hdue']

theorem resolve_gone {players : IdMap DungeonPlayerState} (h : s ∉ players)
    (rooms : ExtTreeMap UInt32 RoomState) (hit : PendingSkillHit) :
    resolve arithmetic players rooms (s, hit) = rooms := by
  simp [resolve, landing, ExtTreeMap.getElem?_eq_none h]

/-- A pass over both maps, when an entry that only the first has does not land. -/
theorem HitsAlike.pass {hits hits' : IdMap PendingSkillHit} {d d' : DungeonInstance}
    (h : HitsAlike ρ s lost hits hits') (hρ : Renaming ρ) (hd : Renamed ρ d d')
    (hdistinct : Distinct d.rooms) (hgone : s ∉ d'.players)
    (hskip : lost → ∀ hit, hits[s]? = some hit →
      resolve arithmetic d.players d.rooms (s, hit) = d.rooms) :
    HitsAlike ρ s lost (pass arithmetic hits d).1 (DungeonCombatProcessor.pass arithmetic hits' d').1 ∧
      Renamed ρ (DungeonCombatProcessor.pass arithmetic hits d).2
        (DungeonCombatProcessor.pass arithmetic hits' d').2 := by
  obtain ⟨common, hrenames, hcommon⟩ := h
  have hkeep (hits : IdMap PendingSkillHit) (d : DungeonInstance) (k : SessionId) :
      (DungeonCombatProcessor.pass arithmetic hits d).1[k]? =
        hits[k]?.filter fun hit => isWaiting d.players (k, hit) := by
    rw [pass_eq ∅]
    exact getElem?_keepWaiting_toList _ _ k
  constructor
  · refine ⟨keepWaiting d.players common.toList common, fun k => ?_, ?_⟩
    · rw [getElem?_keepWaiting_toList, ExtTreeMap.getElem?_erase, hkeep]
      have hentry := hrenames k
      simp only [ExtTreeMap.getElem?_erase, Option.map_id, id_eq] at hentry
      simp only [Option.map_id, id_eq, ← isWaiting_rename hd.players]
      split
      · rename_i hs
        rw [if_pos hs] at hentry
        rw [← hentry]
        rfl
      · rename_i hs
        rw [if_neg hs] at hentry
        rw [hentry]
    · rcases hcommon with rfl | ⟨rfl, hlost⟩
      · left
        rw [pass_eq ∅]
      · refine .inr ⟨ExtTreeMap.ext_getElem? fun k => ?_, hlost⟩
        rw [getElem?_keepWaiting_toList, ExtTreeMap.getElem?_erase, ExtTreeMap.getElem?_erase, hkeep]
        split <;> rfl
  · have hrooms : hits'.toList.foldl (resolve arithmetic d'.players) d.rooms =
        hits.toList.foldl (resolve arithmetic d.players) d.rooms := by
      have hcommon' : common.toList.foldl (resolve arithmetic d.players) d.rooms =
          hits.toList.foldl (resolve arithmetic d.players) d.rooms := by
        rcases hcommon with rfl | ⟨rfl, hlost⟩
        · rfl
        · exact (foldl_toList_erase (resolve_comm d.players) (hskip hlost)).symm
      rw [foldl_toList_erase (resolve_comm d'.players) fun hit _ => resolve_gone hgone d.rooms hit,
        foldl_perm (resolve_comm d'.players) (hrenames.perm_toList hρ.involutive), List.foldl_map,
        ← hcommon']
      congr 1
      funext rooms entry
      exact resolve_rename hd.players rooms entry
    rw [(pass_rooms hits hdistinct).1, (pass_rooms hits' (hd.rooms ▸ hdistinct)).1, hd.rooms, hrooms]
    exact { hd with rooms := rfl }

def renameAttack (ρ : SessionId → SessionId) (queuedAttack : AuthenticatedPlayerAttack) :
    AuthenticatedPlayerAttack :=
  { queuedAttack with sessionId := ρ queuedAttack.sessionId }

/-- The loops over the attacks in both runs. -/
structure LoopAlike (ρ : SessionId → SessionId) (s : SessionId) (lost : Prop)
    (attacking attacking' : Attacking) : Prop where
  dungeon : Renamed ρ attacking.dungeon attacking'.dungeon
  unused : ρ s ∉ attacking.dungeon.players
  hits : HitsAlike ρ s (lost ∧ attacking.accepted.filter (·.1 = s) = []) attacking.hits attacking'.hits

/-- A new entry of the session takes the place of the one that the second map may lack. -/
theorem HitsAlike.insert {hits hits' : IdMap PendingSkillHit}
    {accepted : List (SessionId × PendingSkillHit)} {k : SessionId} {hit : PendingSkillHit}
    (h : HitsAlike ρ s (lost ∧ accepted.filter (·.1 = s) = []) hits hits') (hρ : Renaming ρ)
    (hk : ρ k ≠ s) :
    HitsAlike ρ s (lost ∧ (accepted ++ [(k, hit)]).filter (·.1 = s) = []) (hits.insert k hit)
      (hits'.insert (ρ k) hit) := by
  obtain ⟨common, hrenames, hcommon⟩ := h
  have herase : (hits'.insert (ρ k) hit).erase s = (hits'.erase s).insert (ρ k) hit := by
    refine ExtTreeMap.ext_getElem? fun x => ?_
    grind
  refine ⟨common.insert k hit, herase ▸ hrenames.insert hρ.involutive k hit, ?_⟩
  rcases hcommon with rfl | ⟨rfl, hlost, hnone⟩
  · exact .inl rfl
  by_cases hks : k = s
  · subst hks
    refine .inl (ExtTreeMap.ext_getElem? fun x => ?_)
    grind
  · refine .inr ⟨ExtTreeMap.ext_getElem? fun x => ?_, hlost, ?_⟩
    · grind
    · simp [hnone, hks]

theorem LoopAlike.attack {attacking attacking' : Attacking} (h : LoopAlike ρ s lost attacking attacking')
    (hρ : Renaming ρ) (skillCatalog : SkillCatalog) (queuedAttack : AuthenticatedPlayerAttack) :
    LoopAlike ρ s lost (attack skillCatalog attacking queuedAttack)
      (attack skillCatalog attacking' (renameAttack ρ queuedAttack)) := by
  have hreject : LoopAlike ρ s lost (reject attacking) (reject attacking') := ⟨h.dungeon, h.unused, h.hits⟩
  unfold DungeonCombatProcessor.attack
  simp only [renameAttack, h.dungeon.findPlayer]
  cases hplayer : attacking.dungeon.findPlayer queuedAttack.sessionId with
  | none => exact hreject
  | some player =>
    cases skillCatalog.getSkill queuedAttack.attack.skillId with
    | none => exact hreject
    | some skill =>
      simp only [Option.map_some, beginSkill_rename]
      obtain ⟨result, player'⟩ := player.beginSkill skill.id skill.manaCost skill.cooldownTicks
        skill.startupTicks skill.activeTicks skill.recoveryTicks
      cases result with
      | success =>
        have hmem := mem_of_entry hplayer
        have hk : ρ queuedAttack.sessionId ≠ s := by
          rintro rfl
          exact h.unused (hρ.involutive _ ▸ hmem)
        have hmodified : modifyPlayer queuedAttack.sessionId (fun _ => player') attacking.dungeon =
            { attacking.dungeon with
              players := attacking.dungeon.players.insert queuedAttack.sessionId player' } := by
          simp only [modifyPlayer, hplayer]
        have hmodified' : modifyPlayer (ρ queuedAttack.sessionId) (fun _ => renamePlayer ρ player')
            attacking'.dungeon = { attacking'.dungeon with
              players := attacking'.dungeon.players.insert (ρ queuedAttack.sessionId)
                (renamePlayer ρ player') } := by
          simp only [modifyPlayer, h.dungeon.findPlayer, hplayer, Option.map_some]
        refine ⟨?_, ?_, h.hits.insert hρ hk⟩
        · simp only [hmodified, hmodified']
          exact h.dungeon.insertPlayer hρ queuedAttack.sessionId player'
        · simp only [hmodified]
          have hunused := h.unused
          grind
      | _ => exact hreject

theorem LoopAlike.attacks {attacking attacking' : Attacking}
    (h : LoopAlike ρ s lost attacking attacking') (hρ : Renaming ρ) (skillCatalog : SkillCatalog)
    (attacks : List AuthenticatedPlayerAttack) :
    LoopAlike ρ s lost (attacks.foldl (DungeonCombatProcessor.attack skillCatalog) attacking)
      ((attacks.map (renameAttack ρ)).foldl (DungeonCombatProcessor.attack skillCatalog) attacking') := by
  induction attacks generalizing attacking attacking' with
  | nil => exact h
  | cons queuedAttack attacks ih => exact ih (h.attack hρ skillCatalog queuedAttack)

theorem renamed_advance {d d' : DungeonInstance} (h : Renamed ρ d d') (hρ : Renaming ρ) :
    Renamed ρ (advance d) (advance d') := by
  have hfold (sessions : List SessionId) : ∀ {d d' : DungeonInstance}, Renamed ρ d d' →
      Renamed ρ (sessions.foldl (fun d s => modifyPlayer s (·.advanceCombatTick) d) d)
        ((sessions.map ρ).foldl (fun d s => modifyPlayer s (·.advanceCombatTick) d) d') := by
    induction sessions with
    | nil => exact id
    | cons k sessions ih => exact fun h => ih (h.modifyPlayer hρ k (advanceCombatTick_rename ρ))
  unfold advance
  rw [h.participants]
  exact hfold d.participants h

end

/-! ## Both runs -/

/-- The same call or operation under other names. -/
def FightEvent.rename (ρ : SessionId → SessionId) : FightEvent → FightEvent
  | .process attacks => .process (attacks.map (renameAttack ρ))
  | .content op => .content op
  | .dungeon event => .dungeon (event.rename ρ)

/-- The entry of the session, when it is still the one that the call `origin` added, is not due in the
next call, or it reaches no enemy there. -/
def Harmless (arithmetic : Arithmetic) (s : SessionId) (origin : Option Nat) (fight : Fight) : Prop :=
  fight.dungeon.state = .running → fight.origins[s]? = origin →
    ∀ hit ∈ fight.hits[s]?, ∀ player ∈ fight.dungeon.players[s]?,
      InSkill hit player.advanceCombatTick → player.advanceCombatTick.actionPhase = .active →
        ∀ room ∈ fight.dungeon.rooms[player.roomId]?, ∀ enemy ∈ room.enemies,
          ¬ Reaches arithmetic player.position hit enemy

instance (arithmetic : Arithmetic) (s : SessionId) (origin : Option Nat) (fight : Fight) :
    Decidable (Harmless arithmetic s origin fight) :=
  inferInstanceAs (Decidable (_ → _ → _))

/-- A step under which nothing depends on the entry that is left under the old name `s`; nobody has
come in under the new name `n`. -/
def Unnoticed (arithmetic : Arithmetic) (s n : SessionId) (origin : Option Nat) (fight : Fight) :
    FightEvent → Prop
  | .process _ => n ∉ fight.dungeon.players ∧ Harmless arithmetic s origin fight
  | _ => True

instance (arithmetic : Arithmetic) (s n : SessionId) (origin : Option Nat) (fight : Fight) :
    (event : FightEvent) → Decidable (Unnoticed arithmetic s n origin fight event)
  | .process _ => inferInstanceAs (Decidable (_ ∧ _))
  | .content _ => inferInstanceAs (Decidable True)
  | .dungeon _ => inferInstanceAs (Decidable True)

/-- The second fight is the first under the other names, perhaps without the entry that the call
`origin` added for the session. -/
structure Alike (ρ : SessionId → SessionId) (s : SessionId) (origin : Option Nat)
    (fight fight' : Fight) : Prop where
  content : fight'.content = fight.content
  dungeon : Renamed ρ fight.dungeon fight'.dungeon
  hits : HitsAlike ρ s (fight.origins[s]? = origin) fight.hits fight'.hits

section

variable {ρ : SessionId → SessionId} {arithmetic : Arithmetic} {skillCatalog : SkillCatalog}
  {template : DungeonTemplate} {s : SessionId} {origin : Option Nat} {fight fight' last : Fight}

/-- The landing of a harmless entry changes no room. -/
theorem Harmless.resolve (h : Harmless arithmetic s origin fight)
    (hstate : fight.dungeon.state = .running) (hroster : Roster fight.dungeon)
    (horigin : fight.origins[s]? = origin) {hit : PendingSkillHit} (hhit : fight.hits[s]? = some hit) :
    resolve arithmetic (advance fight.dungeon).players fight.dungeon.rooms (s, hit) =
      fight.dungeon.rooms := by
  unfold Combat.resolve landing
  rw [(advance_spec hroster).1 s]
  cases hplayer : fight.dungeon.players[s]? with
  | none => rfl
  | some player =>
    simp only [Option.map_some, Option.bind_some]
    split
    · rename_i hdue
      have hplace := advanceCombatTick_samePlace player
      refine ExtTreeMap.ext_getElem? fun id => ?_
      simp only [Option.elim_some, getElem?_strikeOnce, hplace.1, hplace.2]
      split
      · rename_i hid
        subst hid
        cases hroom : fight.dungeon.rooms[player.roomId]? with
        | none => rfl
        | some room =>
          have hmisses := h hstate horigin hit hhit player hplayer hdue.1 hdue.2 room hroom
          have hsame : room.enemies.map (struck arithmetic player.position hit) = room.enemies :=
            (List.map_congr_left fun enemy he => if_neg (hmisses enemy he)).trans (List.map_id _)
          rw [Option.map_some, hsame]
      · rfl
    · rfl

theorem Alike.process (h : Alike ρ s origin fight fight') (hρ : Renaming ρ)
    (hsteady : Steady arithmetic template fight) (hunused : ρ s ∉ fight.dungeon.players)
    (hharmless : Harmless arithmetic s origin fight) (attacks : List AuthenticatedPlayerAttack) :
    Alike ρ s origin (fight.process arithmetic skillCatalog attacks)
      (fight'.process arithmetic skillCatalog (attacks.map (renameAttack ρ))) := by
  by_cases hstate : fight.dungeon.state = .running
  · have hstate' : fight'.dungeon.state = .running := h.dungeon.state.trans hstate
    have hgone {d d' : DungeonInstance} (hd : Renamed ρ d d') (hunused : ρ s ∉ d.players) :
        s ∉ d'.players := by
      rw [← hρ.involutive s, hd.players.mem_iff]
      exact hunused
    have hadvanced := renamed_advance h.dungeon hρ
    have hplayers (k : SessionId) := (advance_spec hsteady.roster).1 k
    obtain ⟨players, hframe⟩ := (advance_spec hsteady.roster).2
    have hrooms : (advance fight.dungeon).rooms = fight.dungeon.rooms := by rw [hframe]
    have hunused' : ρ s ∉ (advance fight.dungeon).players := by
      rw [← ExtTreeMap.isSome_getElem?_iff_mem, hplayers, Option.isSome_map,
        ExtTreeMap.isSome_getElem?_iff_mem]
      exact hunused
    have hdistinct : Distinct (advance fight.dungeon).rooms := hrooms ▸ hsteady.populated.distinct
    obtain ⟨hfirstHits, hfirst⟩ := h.hits.pass hρ hadvanced hdistinct (hgone hadvanced hunused')
      fun horigin hit hhit => hrooms ▸ hharmless.resolve hstate hsteady.roster horigin hhit
    have hstart : LoopAlike ρ s (fight.origins[s]? = origin) (firstPass arithmetic fight)
        (firstPass arithmetic fight') := by
      refine ⟨hfirst, ?_, hfirstHits.mono fun hlost => ⟨hlost, rfl⟩⟩
      rw [firstPass, (pass_rooms fight.hits hdistinct).1]
      exact hunused'
    have hloop : LoopAlike ρ s (fight.origins[s]? = origin)
        (fight.attacking arithmetic skillCatalog attacks)
        (fight'.attacking arithmetic skillCatalog (attacks.map (renameAttack ρ))) :=
      hstart.attacks hρ skillCatalog attacks
    have hsession := (loop_attacking arithmetic skillCatalog attacks fight).session s
    obtain ⟨players', hframe'⟩ := (loop_attacking arithmetic skillCatalog attacks fight).framed
    have hdistinct' : Distinct (fight.attacking arithmetic skillCatalog attacks).dungeon.rooms := by
      rw [hframe', firstPass, (pass_rooms fight.hits hdistinct).1]
      exact (pass_rooms fight.hits hdistinct).2
    -- the entry has just stayed in the first pass, and its player has not moved on since
    have hstays (hit : PendingSkillHit)
        (hnone : (fight.attacking arithmetic skillCatalog attacks).accepted.filter (·.1 = s) = [])
        (hhit : (fight.attacking arithmetic skillCatalog attacks).hits[s]? = some hit) :
        Combat.resolve arithmetic (fight.attacking arithmetic skillCatalog attacks).dungeon.players
          (fight.attacking arithmetic skillCatalog attacks).dungeon.rooms (s, hit) =
          (fight.attacking arithmetic skillCatalog attacks).dungeon.rooms := by
      rcases hsession with huntouched | ⟨other, hbegun⟩
      · rw [huntouched.hits, getElem?_firstPass_hits] at hhit
        have hwaits := (Option.filter_eq_some_iff.mp hhit).2
        have hplayer := huntouched.player.trans (getElem?_firstPass arithmetic hsteady.roster s)
        rw [← hplayers s] at hplayer
        simp only [Combat.resolve, landing, hplayer]
        simp only [isWaiting] at hwaits
        cases hfound : (advance fight.dungeon).players[s]? with
        | none => rfl
        | some player =>
          rw [hfound, Option.any_some, decide_eq_true_eq] at hwaits
          rw [Option.bind_some, if_neg fun hdue => hwaits.2 hdue.2]
          rfl
      · rw [hbegun.accepted] at hnone
        cases hnone
    obtain ⟨hsecondHits, hsecond⟩ := hloop.hits.pass hρ hloop.dungeon hdistinct'
      (hgone hloop.dungeon hloop.unused) fun hlost hit hhit => hstays hit hlost.2 hhit
    refine ⟨?_, ?_, ?_⟩
    · rw [process_content, process_content]
      exact h.content
    · rw [(process_pass hstate).2, (process_pass hstate').2]
      exact hsecond
    · rw [(process_pass hstate).1, (process_pass hstate').1,
        (process_calls arithmetic skillCatalog attacks hstate).1, getElem?_nextOrigins]
      exact hsecondHits.mono fun hlost => by rw [hlost.2, if_pos rfl, hlost.1]
  · have hstate' : fight'.dungeon.state ≠ .running := h.dungeon.state ▸ hstate
    rw [process_stopped hstate, process_stopped hstate']
    refine ⟨h.content, h.dungeon, ∅, fun k => ?_, .inl rfl⟩
    simp

theorem Alike.next (h : Alike ρ s origin fight fight') (hρ : Renaming ρ)
    (hsteady : Steady arithmetic template fight) {event : FightEvent}
    (hok : Unnoticed arithmetic s (ρ s) origin fight event)
    (hn : fight.next arithmetic skillCatalog event = some last) :
    ∃ last', fight'.next arithmetic skillCatalog (event.rename ρ) = some last' ∧
      Alike ρ s origin last last' := by
  cases event with
  | process attacks =>
    obtain rfl := Option.some.inj hn
    exact ⟨_, rfl, h.process hρ hsteady hok.1 hok.2 attacks⟩
  | content op =>
    obtain rfl := Option.some.inj hn
    exact ⟨_, rfl, congrArg op.apply h.content, h.dungeon, h.hits⟩
  | dungeon event =>
    simp only [Fight.next] at hn
    split at hn
    · cases hn
    rename_i hevent
    obtain rfl := Option.some.inj hn
    have hsame : isCombat (event.rename ρ) = isCombat event := by
      cases event with
      | op op => cases op <;> rfl
      | _ => rfl
    have hresolution : isResolution event = false := by
      cases event with
      | op op =>
        cases op with
        | resolveHits arithmetic hits => exact absurd rfl hevent
        | _ => rfl
      | _ => rfl
    refine ⟨{ fight' with
      dungeon := (event.rename ρ).apply fight'.content.enemies skillCatalog fight'.dungeon }, ?_,
      h.content, ?_, h.hits⟩
    · simp only [FightEvent.rename, Fight.next, hsame, hevent]
      rfl
    · rw [h.content]
      exact renamed_of_event h.dungeon hρ hsteady.populated.runnable hresolution skillCatalog

end

/-! ## The reconnect -/

theorem renaming_swap {s n : SessionId} (hs : s ≠ 0) (hn : n ≠ 0) : Renaming (Equiv.swap s n) :=
  ⟨Equiv.swap_apply_self s n, Equiv.swap_apply_of_ne_of_ne hs.symm hn.symm⟩

theorem bound_of_reconnectable {d : DungeonInstance} {p : PlayerId} {s n : SessionId}
    {t now grace : Int} (hr : Reconnectable (d.disconnectParticipant s t).2 p n now grace s t) :
    d.playerSessions[p]? = some s ∧ n ∉ d.players := by
  have hframe : ∃ since, (d.disconnectParticipant s t).2 = { d with disconnectedSince := since } := by
    unfold DungeonInstance.disconnectParticipant
    split <;> exact ⟨_, rfl⟩
  obtain ⟨since, hsince⟩ := hframe
  have hbound := hr.bound
  have hfree := hr.fresh
  rw [hsince] at hbound hfree
  exact ⟨hbound, hfree⟩

/-- After a disconnect and a reconnect the two sessions have changed places. -/
theorem renamed_reconnect {d : DungeonInstance} (h : Linked d) {p : PlayerId} {s n : SessionId}
    {t now grace : Int} (hconnected : s ∉ d.disconnectedSince) (hnever : n ∉ d.disconnectedSince)
    (hr : Reconnectable (d.disconnectParticipant s t).2 p n now grace s t) :
    Renamed (Equiv.swap s n) d ((d.disconnectParticipant s t).2.reconnectParticipant p n now grace).2 := by
  obtain ⟨hbound, hfree⟩ := bound_of_reconnectable hr
  obtain ⟨player, hplayer, hid⟩ := Consistent.player_of_session h hbound
  have hplayer : d.players[s]? = some player := hplayer
  have hdisconnected : (d.disconnectParticipant s t).2 = { d with
      disconnectedSince := d.disconnectedSince.insertIfNew s t } := by
    unfold DungeonInstance.disconnectParticipant
    rw [if_neg (not_not.mpr (mem_of_entry hplayer))]
  rw [hdisconnected] at hr ⊢
  have hbinding : n ∉ d.participantPlayerIds := fun hm => hfree (h.bound n hm)
  let disconnected : DungeonInstance :=
    { d with disconnectedSince := d.disconnectedSince.insertIfNew s t }
  have hmoved := reconnect_of_free (d := disconnected) hbinding hr hplayer
  have hsn : s ≠ n := fun heq => hfree (heq ▸ mem_of_entry hplayer)
  have hnone {α : Type} {m : IdMap α} {k : SessionId} (hk : k ∉ m) : m[k]? = none :=
    ExtTreeMap.getElem?_eq_none hk
  rw [hmoved]
  refine ⟨rfl, rfl, rfl, ?_, rfl, ?_, ?_, fun q => ?_, ?_, rfl, rfl⟩
  · exact replace_eq_map_swap h.nodup (mt (h.listed n).mp hfree)
  · refine renames_swap ?_ ?_ fun k hks hkn => ?_
    · simp [moved, hplayer, renamePlayer, hid]
    · rw [hnone hfree]
      simp only [moved]
      grind
    · have hkey : (moved p s n player ((d.disconnectedSince.insertIfNew s t).erase s)
          { d with disconnectedSince := d.disconnectedSince.insertIfNew s t }).players[k]? =
          d.players[k]? := by
        simp only [moved]
        grind
      rw [hkey]
      cases hother : d.players[k]? with
      | none => rfl
      | some other =>
        have hid' : other.sessionId = k := h.session k other hother
        simp only [Option.map_some, renamePlayer, hid', Equiv.swap_apply_of_ne_of_ne hks hkn]
        rw [← hid']
  · have hp : d.participantPlayerIds[s]? = some p := (h.inverse s p).mpr hbound
    refine renames_swap ?_ ?_ fun k hks hkn => ?_
    · simp [moved, hp]
    · rw [hnone hbinding]
      simp only [moved]
      grind
    · simp only [moved, Option.map_id, id_eq]
      grind
  · by_cases hqp : q = p
    · subst hqp
      simp [moved, hbound]
    · have hkey : (moved p s n player ((d.disconnectedSince.insertIfNew s t).erase s)
          { d with disconnectedSince := d.disconnectedSince.insertIfNew s t }).playerSessions[q]? =
          d.playerSessions[q]? := by
        simp only [moved]
        grind
      rw [id, hkey]
      cases hsession : d.playerSessions[q]? with
      | none => rfl
      | some u =>
        have hus : u ≠ s := by
          rintro rfl
          exact hqp (Consistent.session_unique h hsession hbound)
        have hun : u ≠ n := by
          rintro rfl
          exact hfree (Consistent.bound_session h hsession).1
        rw [Option.map_some, Equiv.swap_apply_of_ne_of_ne hus hun]
  · refine renames_swap ?_ ?_ fun k hks hkn => ?_
    · rw [hnone hconnected]
      simp only [moved]
      grind
    · rw [hnone hnever]
      simp [moved]
    · simp only [moved, Option.map_id, id_eq]
      grind

/-- Nobody has the session, and nothing is left of anybody who had it. -/
structure Unused (n : SessionId) (fight : Fight) : Prop where
  disconnected : n ∉ fight.dungeon.disconnectedSince
  hits : n ∉ fight.hits

section

variable {arithmetic : Arithmetic} {skillCatalog : SkillCatalog} {template : DungeonTemplate}

/-- The disconnect of a session, and the reconnect of its player under another one. -/
def reconnectEvents (p : PlayerId) (s n : SessionId) (t now grace : Int) : List FightEvent :=
  [.dungeon (.op (.disconnectParticipant s t)), .dungeon (.op (.reconnectParticipant p n now grace))]

/-- The run with a reconnect goes through the same rooms and players as the run without it, under the
new session, as long as the entry under the old session would not have reached an enemy. -/
theorem transparent_of_run {content : Content} {templateId : DungeonTemplateId}
    (hcontent : Reachable ContentOp.next {} content)
    (htemplate : content.dungeons.getDungeon templateId = some template) {dungeonId : DungeonId}
    {partyId : PartyId} {participants : List SessionId} {createdAt : Int} {dungeon : DungeonInstance}
    (hnew : DungeonInstance.new dungeonId template partyId participants createdAt = .ok dungeon)
    {events : List FightEvent} {fight : Fight}
    (hr : run (Fight.next arithmetic skillCatalog) { content, dungeon } events = some fight)
    {p : PlayerId} {s n : SessionId} {t now grace : Int}
    (hconnected : s ∉ fight.dungeon.disconnectedSince) (hunused : Unused n fight)
    (hreconnect : Reconnectable (fight.dungeon.disconnectParticipant s t).2 p n now grace s t)
    {later : List FightEvent} {last : Fight}
    (hok : Meets (Fight.next arithmetic skillCatalog)
      (Unnoticed arithmetic s n fight.origins[s]?) fight later)
    (hlater : run (Fight.next arithmetic skillCatalog) fight later = some last) :
    ∃ last', run (Fight.next arithmetic skillCatalog) fight (reconnectEvents p s n t now grace ++
        later.map (FightEvent.rename (Equiv.swap s n))) = some last' ∧
      Renamed (Equiv.swap s n) last.dungeon last'.dungeon := by
  have hsteady : Steady arithmetic template fight ∧ Linked fight.dungeon :=
    run_invariant (fun fight => Steady arithmetic template fight ∧ Linked fight.dungeon)
      (fun _ _ _ h _ hn => ⟨h.1.next hn, linked_next h.1 h.2 hn⟩)
      ⟨steady_new (sound_of_run hcontent templateId template htemplate) hnew, linked_of_consistent (new_consistent hnew)⟩
      (meets_true _) hr
  let reconnected : Fight := { fight with dungeon :=
    ((fight.dungeon.disconnectParticipant s t).2.reconnectParticipant p n now grace).2 }
  obtain ⟨hbound, -⟩ := bound_of_reconnectable hreconnect
  have hs : s ≠ 0 := (Consistent.bound_session hsteady.2 hbound).2.2
  have hρ : Renaming (Equiv.swap s n) := renaming_swap hs hreconnect.session
  have halike : Alike (Equiv.swap s n) s fight.origins[s]? fight reconnected := by
    have hnone : fight.hits[n]? = none := ExtTreeMap.getElem?_eq_none hunused.hits
    refine ⟨rfl, renamed_reconnect hsteady.2 hconnected hunused.disconnected hreconnect,
      fight.hits.erase s, renames_swap ?_ ?_ fun k hks hkn => ?_, .inr ⟨rfl, rfl⟩⟩
    · simp only [reconnected]
      grind
    · simp only [reconnected]
      grind
    · simp only [reconnected]
      grind
  let Both (current current' : Fight) : Prop :=
    Steady arithmetic template current ∧ Alike (Equiv.swap s n) s fight.origins[s]? current current'
  have hstep (current : Fight) (event : FightEvent) (after current' : Fight)
      (hboth : Both current current') (hok : Unnoticed arithmetic s n fight.origins[s]? current event)
      (hn : current.next arithmetic skillCatalog event = some after) :
      ∃ after', current'.next arithmetic skillCatalog (event.rename (Equiv.swap s n)) = some after' ∧
        Both after after' := by
    rw [← Equiv.swap_apply_left s n] at hok
    obtain ⟨after', hn', hafter⟩ := hboth.2.next hρ hboth.1 hok hn
    exact ⟨after', hn', hboth.1.next hn, hafter⟩
  obtain ⟨last', hrun, -, hlast⟩ := run_map_related Both _ hstep ⟨hsteady.1, halike⟩ hok hlater
  exact ⟨last', run_append.mpr ⟨reconnected, rfl, hrun⟩, hlast.dungeon⟩

end

/-- Player 7 is bound to session 100 and starts to slash. -/
def slashing : List FightEvent :=
  [.dungeon (.op (.bindParticipantPlayer 100 7)), .dungeon (.op .start), .process [slash 100]]

/-- What follows, with the second player slashing in its turn. -/
def slashed : List FightEvent :=
  [.process [], .dungeon (.moveTo 100 1 { x := 2 }), .process [], .process [slash 101]]

theorem transparent_of_run_slash :
    ∃ fight, arena slashCatalog hallContent slashing = some fight ∧ 100 ∈ fight.hits ∧ ∃ last last',
      run (Fight.next stillArithmetic slashCatalog) fight slashed = some last ∧
        run (Fight.next stillArithmetic slashCatalog) fight (reconnectEvents 7 100 200 10 20 60 ++
          slashed.map (FightEvent.rename (Equiv.swap 100 200))) = some last' ∧
        Renamed (Equiv.swap 100 200) last.dungeon last'.dungeon := by
  have hrun : ∃ fight, arena slashCatalog hallContent slashing = some fight ∧ 100 ∈ fight.hits ∧
      100 ∉ fight.dungeon.disconnectedSince ∧ 200 ∉ fight.dungeon.disconnectedSince ∧
      200 ∉ fight.hits ∧ 200 ∉ fight.dungeon.players ∧
      (fight.dungeon.disconnectParticipant 100 10).2.playerSessions[7]? = some 100 ∧
      200 ∉ (fight.dungeon.disconnectParticipant 100 10).2.players ∧
      (fight.dungeon.disconnectParticipant 100 10).2.disconnectedSince[100]? = some 10 ∧
      Meets (Fight.next stillArithmetic slashCatalog)
        (Unnoticed stillArithmetic 100 200 fight.origins[100]?) fight slashed ∧
      ∃ last, run (Fight.next stillArithmetic slashCatalog) fight slashed = some last ∧
        last.calls.length = 4 := by
    decide +kernel
  obtain ⟨fight, hfight, hhit, hconnected, hnever, hfree, -, hbound, hfresh, hsince, hok, last, hlast,
    -⟩ := hrun
  obtain ⟨content, template, dungeon, hcontent, htemplate, hnew, hr⟩ := arena_some hfight
  have hreconnect : Reconnectable (fight.dungeon.disconnectParticipant 100 10).2 7 200 20 60 100 10 :=
    ⟨by decide, by decide, by decide, hbound, hsince, hfresh, by decide, by decide⟩
  obtain ⟨last', hlast', hrenamed⟩ := transparent_of_run hcontent htemplate hnew hr hconnected
    ⟨hnever, hfree⟩ hreconnect hok hlast
  exact ⟨fight, hfight, hhit, last, last', hlast, hlast', hrenamed⟩

/-! ## A lost attack -/

/-- Two calls later the goblin is dead, unless the player has reconnected in between. -/
theorem attack_lost :
    ∃ fight, arena cleaveCatalog goblinContent slashing = some fight ∧
      100 ∉ fight.dungeon.disconnectedSince ∧ Unused 200 fight ∧
      Reconnectable (fight.dungeon.disconnectParticipant 100 10).2 7 200 20 60 100 10 ∧ ∃ last last',
        run (Fight.next stillArithmetic cleaveCatalog) fight [.process [], .process []] = some last ∧
        run (Fight.next stillArithmetic cleaveCatalog) fight (reconnectEvents 7 100 200 10 20 60 ++
          [.process [], .process []]) = some last' ∧
        hitPoints last = some [0] ∧ hitPoints last' = some [1] := by
  have hrun : ∃ fight, arena cleaveCatalog goblinContent slashing = some fight ∧
      100 ∉ fight.dungeon.disconnectedSince ∧ 200 ∉ fight.dungeon.disconnectedSince ∧
      200 ∉ fight.hits ∧
      (fight.dungeon.disconnectParticipant 100 10).2.playerSessions[7]? = some 100 ∧
      200 ∉ (fight.dungeon.disconnectParticipant 100 10).2.players ∧
      (fight.dungeon.disconnectParticipant 100 10).2.disconnectedSince[100]? = some 10 ∧
      (∃ last', run (Fight.next stillArithmetic cleaveCatalog) fight
        (reconnectEvents 7 100 200 10 20 60 ++ [.process [], .process []]) = some last' ∧
          hitPoints last' = some [1]) ∧
      ∃ before, run (Fight.next stillArithmetic cleaveCatalog) fight [.process []] = some before ∧
        Decisive cleaveCatalog [] before := by
    decide +kernel
  obtain ⟨fight, hfight, hconnected, hnever, hfree, hbound, hfresh, hsince, ⟨last', hlast', hsurvives⟩,
    before, hbefore, hdecisive⟩ := hrun
  obtain ⟨content, template, dungeon, hcontent, htemplate, hnew, hr⟩ := arena_some hfight
  have hsteady : Steady stillArithmetic template before :=
    run_invariant _ (fun _ _ _ h _ hn => h.next hn)
      (steady_new (sound_of_run hcontent 1 template htemplate) hnew) (meets_true _)
      (run_append.mpr ⟨fight, hr, hbefore⟩)
  have hreconnect : Reconnectable (fight.dungeon.disconnectParticipant 100 10).2 7 200 20 60 100 10 :=
    ⟨by decide, by decide, by decide, hbound, hsince, hfresh, by decide, by decide⟩
  exact ⟨fight, hfight, hconnected, ⟨hnever, hfree⟩, hreconnect, _, last',
    run_append.mpr ⟨before, hbefore, rfl⟩, hlast', hdecisive.kills hsteady, hsurvives⟩

end DnfServer.Combat
