import DnfServer.Combat.Timeline
import DnfServer.Dungeons.WaveMachine

/-!
# One pass over the pending hits

`ResolvePendingHits` reads the players and changes the rooms, so what a pass does to each entry is
decided before it starts: the hits whose players are active land one after the other, those whose
players are in another phase of the same skill stay, and the rest is dropped. A landing changes each
living enemy in its hit box once, because the entities of a room are distinct.
-/

namespace DnfServer.Combat

open Std DnfServer.Library DungeonCombatProcessor
set_option autoImplicit false

/-- A hit that is resolved: whose it is, the call that accepted it, and where its player stands. -/
structure Landing where
  sessionId : SessionId
  acceptedIn : Option Nat
  hit : PendingSkillHit
  roomId : RoomId
  position : Position

section

variable (players : IdMap DungeonPlayerState)

/-- The player is alive and still in the skill of the hit. -/
def InSkill (hit : PendingSkillHit) (player : DungeonPlayerState) : Prop :=
  player.isAlive = true ∧ player.actionSkillId = hit.skill.id

instance (hit : PendingSkillHit) (player : DungeonPlayerState) : Decidable (InSkill hit player) :=
  inferInstanceAs (Decidable (_ ∧ _))

/-- The entry stays pending in a pass. -/
def isWaiting (entry : SessionId × PendingSkillHit) : Bool :=
  players[entry.1]?.any fun player => InSkill entry.2 player ∧ player.actionPhase ≠ .active

/-- The landing of an entry in a pass, where `origins` are the calls that accepted the entries. -/
def landing (origins : IdMap Nat) (entry : SessionId × PendingSkillHit) : Option Landing :=
  players[entry.1]?.bind fun player =>
    if InSkill entry.2 player ∧ player.actionPhase = .active then some
      { sessionId := entry.1, acceptedIn := origins[entry.1]?, hit := entry.2, roomId := player.roomId
        position := player.position }
    else none

end

section

variable (arithmetic : Arithmetic)

/-- The landing in its room. -/
def strike (rooms : ExtTreeMap UInt32 RoomState) (landing : Landing) : ExtTreeMap UInt32 RoomState :=
  match rooms[landing.roomId]? with
  | none => rooms
  | some room =>
    rooms.insert landing.roomId (hitEnemies arithmetic landing.position landing.hit room)

/-- The hit reaches the enemy. -/
def Reaches (position : Position) (hit : PendingSkillHit) (enemy : EnemyState) : Prop :=
  calculateDamage hit.skill > 0 ∧ enemy.alive = true ∧ arithmetic.isInsideSkillHitBox position
    enemy.position hit.directionX hit.directionY hit.skill.hitBox = true

instance (position : Position) (hit : PendingSkillHit) (enemy : EnemyState) :
    Decidable (Reaches arithmetic position hit enemy) :=
  inferInstanceAs (Decidable (_ ∧ _ ∧ _))

/-- The loop of a hit at one enemy. -/
def hitEnemy (position : Position) (hit : PendingSkillHit) (room : RoomState) (enemy : EnemyState) :
    RoomState :=
  if Reaches arithmetic position hit enemy then
    (room.applyEnemyDamage enemy.entityId (calculateDamage hit.skill)).2
  else room

/-- One enemy after a hit, damaged at most once. -/
def struck (position : Position) (hit : PendingSkillHit) (enemy : EnemyState) : EnemyState :=
  if Reaches arithmetic position hit enemy then
    RoomState.damageEnemy (calculateDamage hit.skill) enemy
  else enemy

end

/-! ## The pass -/

section

variable {arithmetic : Arithmetic}

/-- The entries that a pass keeps, of those that it visits. -/
def keepWaiting (players : IdMap DungeonPlayerState) (entries : List (SessionId × PendingSkillHit))
    (hits : IdMap PendingSkillHit) : IdMap PendingSkillHit :=
  entries.foldl (fun hits entry => if isWaiting players entry then hits else hits.erase entry.1) hits

theorem resolveHits_eq (origins : IdMap Nat) (entries : List (SessionId × PendingSkillHit)) :
    ∀ (hits : IdMap PendingSkillHit) (dungeon : DungeonInstance),
      resolveHits arithmetic entries (hits, dungeon) =
        (keepWaiting dungeon.players entries hits, { dungeon with
          rooms := (entries.filterMap (landing dungeon.players origins)).foldl (strike arithmetic)
            dungeon.rooms }) := by
  induction entries with
  | nil => exact fun hits dungeon => rfl
  | cons entry entries ih =>
    intro hits dungeon
    obtain ⟨s, hit⟩ := entry
    simp only [resolveHits, DungeonInstance.findPlayer, DungeonInstance.findRoom, keepWaiting,
      List.foldl_cons]
    split
    · rename_i hnone
      have hlanding : landing dungeon.players origins (s, hit) = none := by simp [landing, hnone]
      rw [ih, List.filterMap_cons_none hlanding]
      simp [keepWaiting, isWaiting, hnone]
    rename_i player hplayer
    split
    · rename_i hother
      have hskill : ¬ InSkill hit player := by
        rintro ⟨halive, hid⟩
        rcases hother with hdead | hne
        · exact hdead halive
        · exact hne hid
      have hlanding : landing dungeon.players origins (s, hit) = none := by
        simp [landing, hplayer, hskill]
      rw [ih, List.filterMap_cons_none hlanding]
      simp [keepWaiting, isWaiting, hplayer, hskill]
    rename_i hsame
    have hskill : InSkill hit player := by
      simp only [not_or, not_not] at hsame
      exact hsame
    split
    · rename_i hphase
      have hlanding : landing dungeon.players origins (s, hit) = none := by
        simp [landing, hplayer, hphase]
      rw [ih, List.filterMap_cons_none hlanding]
      simp [keepWaiting, isWaiting, hplayer, hskill, hphase]
    · rename_i hphase
      have hphase : player.actionPhase = .active := not_not.mp hphase
      have hlanding : landing dungeon.players origins (s, hit) = some
          { sessionId := s, acceptedIn := origins[s]?, hit, roomId := player.roomId
            position := player.position } := by
        simp [landing, hplayer, hskill, hphase]
      rw [ih, List.filterMap_cons_some hlanding, List.foldl_cons]
      split <;> rename_i hroom <;> simp [keepWaiting, isWaiting, hplayer, hphase, strike, hroom]

theorem getElem?_keepWaiting (players : IdMap DungeonPlayerState) (s : SessionId)
    (entries : List (SessionId × PendingSkillHit)) : ∀ hits : IdMap PendingSkillHit,
      (keepWaiting players entries hits)[s]? =
        if entries.any fun entry => entry.1 == s && !isWaiting players entry then none
        else hits[s]? := by
  induction entries with
  | nil => exact fun hits => rfl
  | cons entry entries ih =>
    intro hits
    have hfold : keepWaiting players (entry :: entries) hits = keepWaiting players entries
        (if isWaiting players entry then hits else hits.erase entry.1) := rfl
    rw [hfold, ih, List.any_cons]
    cases hs : entry.1 == s with
    | false =>
      have hne : entry.1 ≠ s := by simpa using hs
      rw [Bool.false_and, Bool.false_or]
      split
      · rfl
      · split <;> grind
    | true =>
      have heq : entry.1 = s := by simpa using hs
      rw [Bool.true_and]
      cases isWaiting players entry with
      | true => rw [if_pos rfl, Bool.not_true, Bool.false_or]
      | false =>
        rw [if_neg Bool.false_ne_true, Bool.not_false, Bool.true_or, if_pos rfl, heq,
          ExtTreeMap.getElem?_erase_self, ite_self]

/-- A pass keeps exactly the entries that wait. -/
theorem getElem?_keepWaiting_toList (players : IdMap DungeonPlayerState) (hits : IdMap PendingSkillHit)
    (s : SessionId) : (keepWaiting players hits.toList hits)[s]? =
      hits[s]?.filter fun hit => isWaiting players (s, hit) := by
  rw [getElem?_keepWaiting]
  have hany : (hits.toList.any fun entry => entry.1 == s && !isWaiting players entry) = true ↔
      ∃ hit, hits[s]? = some hit ∧ isWaiting players (s, hit) = false := by
    simp only [List.any_eq_true, Bool.and_eq_true, beq_iff_eq, Bool.not_eq_true', Prod.exists,
      ExtTreeMap.mem_toList_iff_getElem?_eq_some]
    constructor
    · rintro ⟨t, hit, hhit, rfl, hwaits⟩
      exact ⟨hit, hhit, hwaits⟩
    · rintro ⟨hit, hhit, hwaits⟩
      exact ⟨s, hit, hhit, rfl, hwaits⟩
  simp only [hany]
  cases hits[s]? with
  | none => simp
  | some hit =>
    rw [Option.filter_some]
    cases hwaits : isWaiting players (s, hit) <;> simp [hwaits]

/-- A session has one landing in a pass when its entry is due, and otherwise none. -/
theorem filter_landings (players : IdMap DungeonPlayerState) (origins : IdMap Nat)
    (hits : IdMap PendingSkillHit) (s : SessionId) :
    (hits.toList.filterMap (landing players origins)).filter (·.sessionId = s) =
      (hits[s]?.bind fun hit => landing players origins (s, hit)).toList := by
  have hsession {entry : SessionId × PendingSkillHit} {found : Landing}
      (h : landing players origins entry = some found) : found.sessionId = entry.1 := by
    obtain ⟨player, -, hfound⟩ := Option.bind_eq_some_iff.mp h
    split at hfound
    · rw [← Option.some.inj hfound]
    · cases hfound
  have hentries (entries : List (SessionId × PendingSkillHit)) :
      (entries.filterMap (landing players origins)).filter (·.sessionId = s) =
        (entries.filter (·.1 = s)).filterMap (landing players origins) := by
    induction entries with
    | nil => rfl
    | cons entry entries ih =>
      cases hfound : landing players origins entry with
      | none =>
        rw [List.filterMap_cons_none hfound, ih, List.filter_cons]
        split
        · rw [List.filterMap_cons_none hfound]
        · rfl
      | some found =>
        rw [List.filterMap_cons_some hfound, List.filter_cons, List.filter_cons, ih, hsession hfound]
        split
        · rw [List.filterMap_cons_some hfound]
        · rfl
  rw [hentries, filter_fst_toList]
  cases hits[s]? with
  | none => rfl
  | some hit =>
    cases hfound : landing players origins (s, hit) <;> simp [hfound]

/-! ## The enemies -/

/-- The same enemy, perhaps after a blow. -/
def SameIds (enemy enemy' : EnemyState) : Prop :=
  enemy.entityId = enemy'.entityId ∧ enemy.spawnId = enemy'.spawnId

theorem SameIds.trans {a b c : EnemyState} (h : SameIds a b) (h' : SameIds b c) : SameIds a c :=
  ⟨h.1.trans h'.1, h.2.trans h'.2⟩

theorem damageEnemy_ids (damage : UInt32) (enemy : EnemyState) :
    SameIds (RoomState.damageEnemy damage enemy) enemy := by
  unfold RoomState.damageEnemy
  split <;> exact ⟨rfl, rfl⟩

theorem struck_entityId (position : Position) (hit : PendingSkillHit) (enemy : EnemyState) :
    (struck arithmetic position hit enemy).entityId = enemy.entityId := by
  unfold struck
  split
  · exact (damageEnemy_ids _ enemy).1
  · rfl

theorem map_struck_entityId (position : Position) (hit : PendingSkillHit) (enemies : List EnemyState) :
    (enemies.map (struck arithmetic position hit)).map (·.entityId) = enemies.map (·.entityId) := by
  rw [List.map_map]
  exact List.map_congr_left fun enemy _ => struck_entityId position hit enemy

/-- The blow on an enemy finds it by its identifier. -/
theorem applyEnemyDamage_at {room : RoomState} {before after : List EnemyState} {enemy : EnemyState}
    {damage : UInt32} (henemies : room.enemies = before ++ enemy :: after)
    (hfresh : ∀ other ∈ before, other.entityId ≠ enemy.entityId) (halive : enemy.alive = true)
    (hdamage : damage ≠ 0) :
    (room.applyEnemyDamage enemy.entityId damage).2 =
      { room with enemies := before ++ RoomState.damageEnemy damage enemy :: after } := by
  have hindex : room.enemies.findIdx? (·.entityId = enemy.entityId) = some before.length := by
    rw [henemies, List.findIdx?_append, List.findIdx?_eq_none_iff.mpr (by simpa using hfresh),
      List.findIdx?_cons]
    simp
  have hat : room.enemies[before.length]? = some enemy := by simp [henemies]
  have hmodify : room.enemies.modify before.length (RoomState.damageEnemy damage) =
      before ++ RoomState.damageEnemy damage enemy :: after := by
    have hlt : before.length < (before ++ enemy :: after).length := by simp
    rw [henemies, List.modify_eq_take_cons_drop hlt]
    simp
  simp only [RoomState.applyEnemyDamage, hindex, hat, Option.any_some, halive, hdamage, ne_eq,
    not_false_eq_true, and_self, if_true, hmodify]

/-- A hit in a room of distinct enemies damages each that it reaches, once. -/
theorem hitEnemies_eq {position : Position} {hit : PendingSkillHit} {room : RoomState}
    (h : (room.enemies.map (·.entityId)).Nodup) :
    hitEnemies arithmetic position hit room =
      { room with enemies := room.enemies.map (struck arithmetic position hit) } := by
  have hfold (after : List EnemyState) : ∀ (before : List EnemyState) (current : RoomState),
      current.enemies = before ++ after → (current.enemies.map (·.entityId)).Nodup →
      after.foldl (hitEnemy arithmetic position hit) current =
        { current with enemies := before ++ after.map (struck arithmetic position hit) } := by
    induction after with
    | nil =>
      intro before current henemies _
      rw [List.foldl_nil, List.map_nil, ← henemies]
    | cons enemy after ih =>
      intro before current henemies hnodup
      have hids : ((before ++ [enemy] ++ after).map (·.entityId)).Nodup := by
        rw [henemies] at hnodup
        simpa using hnodup
      rw [List.foldl_cons]
      by_cases hreaches : Reaches arithmetic position hit enemy
      · have hfresh : ∀ other ∈ before, other.entityId ≠ enemy.entityId := by
          intro other ho heq
          rw [henemies, List.map_append, List.map_cons, List.nodup_append] at hnodup
          exact hnodup.2.2 _ (List.mem_map_of_mem ho) _ List.mem_cons_self heq
        have hstruck : struck arithmetic position hit enemy =
            RoomState.damageEnemy (calculateDamage hit.skill) enemy := if_pos hreaches
        have hnext := applyEnemyDamage_at henemies hfresh hreaches.2.1
          (UInt32.pos_iff_ne_zero.mp hreaches.1)
        have hdamaged := ih (before ++ [struck arithmetic position hit enemy])
          { current with enemies :=
              before ++ RoomState.damageEnemy (calculateDamage hit.skill) enemy :: after }
          (by simp [hstruck]) (by simpa [(damageEnemy_ids _ enemy).1] using hids)
        rw [hitEnemy, if_pos hreaches, hnext, hdamaged]
        simp
      · have hstruck : struck arithmetic position hit enemy = enemy := if_neg hreaches
        have hsame := ih (before ++ [enemy]) current (by simp [henemies]) hnodup
        rw [hitEnemy, if_neg hreaches, hsame]
        simp [hstruck]
  exact hfold room.enemies [] room rfl h

/-! ## The rooms -/

/-- The landing in its room, where it damages each enemy at most once. -/
def strikeOnce (arithmetic : Arithmetic) (rooms : ExtTreeMap UInt32 RoomState) (landing : Landing) :
    ExtTreeMap UInt32 RoomState :=
  match rooms[landing.roomId]? with
  | none => rooms
  | some room => rooms.insert landing.roomId
      { room with enemies := room.enemies.map (struck arithmetic landing.position landing.hit) }

/-- The enemies of each room have distinct identifiers. -/
def Distinct (rooms : ExtTreeMap UInt32 RoomState) : Prop :=
  ∀ (id : RoomId) (room : RoomState), rooms[id]? = some room → (room.enemies.map (·.entityId)).Nodup

theorem strike_eq {rooms : ExtTreeMap UInt32 RoomState} (h : Distinct rooms) (landing : Landing) :
    strike arithmetic rooms landing = strikeOnce arithmetic rooms landing := by
  unfold strike strikeOnce
  split
  · rfl
  · rename_i room hroom
    rw [hitEnemies_eq (h _ room hroom)]

theorem getElem?_strikeOnce (rooms : ExtTreeMap UInt32 RoomState) (landing : Landing) (id : RoomId) :
    (strikeOnce arithmetic rooms landing)[id]? =
      if landing.roomId = id then rooms[id]?.map fun room : RoomState =>
        { room with enemies := room.enemies.map (struck arithmetic landing.position landing.hit) }
      else rooms[id]? := by
  unfold strikeOnce
  split
  · rename_i hnone
    split
    · rename_i hid
      rw [← hid, hnone]
      rfl
    · rfl
  · rename_i room hroom
    grind

theorem Distinct.strikeOnce {rooms : ExtTreeMap UInt32 RoomState} (h : Distinct rooms)
    (landing : Landing) : Distinct (strikeOnce arithmetic rooms landing) := by
  unfold Combat.strikeOnce
  split
  · exact h
  · rename_i room hroom
    refine forall_entries_insert h ?_
    rw [map_struck_entityId]
    exact h _ room hroom

theorem foldl_strike (landings : List Landing) {rooms : ExtTreeMap UInt32 RoomState}
    (h : Distinct rooms) :
    landings.foldl (strike arithmetic) rooms = landings.foldl (strikeOnce arithmetic) rooms ∧
      Distinct (landings.foldl (strikeOnce arithmetic) rooms) := by
  induction landings generalizing rooms with
  | nil => exact ⟨rfl, h⟩
  | cons landing landings ih =>
    rw [List.foldl_cons, List.foldl_cons, strike_eq h landing]
    exact ih (h.strikeOnce landing)

end

/-! ## Identifiers in a dungeon -/

section

open Dungeons

variable {enemyCatalog : EnemyCatalog} {skillCatalog : SkillCatalog} {template : DungeonTemplate}

/-- Each enemy is named after the room and its spawn. -/
def Named (room : RoomState) : Prop :=
  ∀ enemy ∈ room.enemies, enemy.entityId = makeEnemyEntityId room.roomTemplate.id enemy.spawnId

theorem Named.startNextWave {room : RoomState} (h : Named room)
    (hs : Supplied enemyCatalog room.roomTemplate) : Named (room.startNextWave enemyCatalog).2 := by
  unfold RoomState.startNextWave
  split
  · exact h
  split
  · exact h
  obtain ⟨added, hfresh, heq⟩ : ∃ added, List.Forall₂ (Fresh enemyCatalog room.roomTemplate) added
      (room.roomTemplate.enemySpawns.filter (·.wave = room.nextWave)) ∧
      RoomState.spawnWave enemyCatalog room.nextWave room room.roomTemplate.enemySpawns =
        (.ok (), { room with enemies := room.enemies ++ added }) :=
    spawnWave_fresh (fun spawn hm => (hs spawn hm).2) room
  rw [heq]
  intro enemy he
  rcases List.mem_append.mp he with he | he
  · exact h enemy he
  · obtain ⟨spawn, -, enemyTemplate, -, rfl⟩ := exists_of_forall₂ hfresh he
    rfl

theorem Named.blow {room room' : RoomState} (h : Named room) (hb : Blow room room') : Named room' := by
  cases hb with
  | enemy entityId damage =>
    rcases applyEnemyDamage_cases entityId damage room with heq | ⟨index, heq⟩ <;> rw [heq]
    · exact h
    · have hsame : List.Forall₂ SameIds (room.enemies.modify index (RoomState.damageEnemy damage))
          room.enemies :=
        forall₂_modify (fun other old hsame => SameIds.trans (damageEnemy_ids damage other) hsame)
          (List.forall₂_same.mpr fun enemy _ => ⟨rfl, rfl⟩) index
      intro enemy he
      obtain ⟨old, hold, hid, hspawn⟩ := exists_of_forall₂ hsame he
      rw [hid, hspawn]
      exact h old hold
  | obstacle obstacleId damage =>
    unfold RoomState.applyObstacleDamage
    split
    · exact h
    split <;> exact h

/-- A dungeon that runs, with its enemies named. -/
structure Populated (enemyCatalog : EnemyCatalog) (template : DungeonTemplate)
    (dungeon : DungeonInstance) : Prop where
  runnable : Runnable enemyCatalog template dungeon
  named : ∀ (id : RoomId) (room : RoomState), dungeon.rooms[id]? = some room → Named room

theorem Populated.step {dungeon dungeon' : DungeonInstance}
    (h : Populated enemyCatalog template dungeon)
    (hstep : DungeonStep enemyCatalog skillCatalog dungeon dungeon') :
    Populated enemyCatalog template dungeon' := by
  refine ⟨h.runnable.step hstep, ?_⟩
  cases hstep with
  | start _ => exact h.named
  | finish _ => exact h.named
  | participants hd => exact hd.rooms ▸ h.named
  | play hplay =>
    cases hplay with
    | wave _ hroom =>
      exact forall_entries_insert h.named
        ((h.named _ _ hroom).startNextWave (h.runnable.supplied hroom))
    | blow hroom hblow => exact forall_entries_insert h.named ((h.named _ _ hroom).blow hblow)
    | change _ _ _ => exact h.named
    | moveTo _ _ _ => exact h.named
    | enterRoom _ _ _ _ => exact h.named

theorem Populated.distinct {dungeon : DungeonInstance}
    (h : Populated enemyCatalog template dungeon) : Distinct dungeon.rooms := by
  intro id room hroom
  obtain ⟨hmem, -, hintact⟩ := h.runnable.rooms id room hroom
  have hids := (h.runnable.sound.rooms _ hmem).2.2.2.2.2.1
  have hspawns : (room.enemies.map (·.spawnId)).Nodup :=
    hintact.spawned.nodup_iff.mpr (hids.sublist (List.filter_sublist.map _))
  have hmap : room.enemies.map (·.entityId) =
      (room.enemies.map (·.spawnId)).map (makeEnemyEntityId room.roomTemplate.id) := by
    rw [List.map_map]
    exact List.map_congr_left fun enemy he => h.named id room hroom enemy he
  rw [hmap]
  exact hspawns.map fun _ _ heq => (makeEnemyEntityId_inj heq).2

end

end DnfServer.Combat
