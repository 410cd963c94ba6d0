import Mathlib.Algebra.Group.Nat.Defs
import DnfServer.Dungeons.Safety
import Mathlib.Data.List.Dedup
import Mathlib.Data.List.Forall2

/-!
# The wave machine of a room

A room starts its waves one after the other, each as a whole and only when every enemy is dead. Wave
numbers are any nonzero numbers in any order, and `0` stands for no wave: before the first one, and
when the search for the next one finds none. The enemies of a room are those of the waves it has
visited, in the order of the visits.
-/

namespace DnfServer.Dungeons

open Std DnfServer.Library
set_option autoImplicit false

inductive RoomCall where
  | startNextWave
  | applyEnemyDamage (entityId : DungeonEntityId) (damage : UInt32)

def RoomCall.apply (catalog : EnemyCatalog) (room : RoomState) : RoomCall → RoomState
  | .startNextWave => (room.startNextWave catalog).2
  | .applyEnemyDamage entityId damage => (room.applyEnemyDamage entityId damage).2

/-- A room, with the values that `currentWave_` has taken since its construction. -/
structure RoomHistory where
  room : RoomState
  visited : List UInt32 := []
  deriving DecidableEq

def RoomHistory.next (catalog : EnemyCatalog) (h : RoomHistory) (call : RoomCall) : Option RoomHistory :=
  let room := call.apply catalog h.room
  some { room, visited :=
    if room.currentWave = h.room.currentWave then h.visited else h.visited ++ [room.currentWave] }

/-! ## The waves of a template -/

/-- The distinct wave numbers of the template, in increasing order. -/
def waveNumbers (roomTemplate : RoomTemplate) : List UInt32 :=
  (roomTemplate.enemySpawns.map (·.wave)).dedup.mergeSort fun left right => left ≤ right

/-- The spawns of one wave, in the order of the template. -/
def waveSpawns (roomTemplate : RoomTemplate) (wave : UInt32) : List EnemySpawnTemplate :=
  roomTemplate.enemySpawns.filter (·.wave = wave)

theorem mem_waveNumbers {roomTemplate : RoomTemplate} {wave : UInt32} :
    wave ∈ waveNumbers roomTemplate ↔ ∃ spawn ∈ roomTemplate.enemySpawns, spawn.wave = wave := by
  rw [waveNumbers, (List.mergeSort_perm _ _).mem_iff, List.mem_dedup, List.mem_map]

theorem waveNumbers_increasing (roomTemplate : RoomTemplate) :
    (waveNumbers roomTemplate).Pairwise (· < ·) := by
  have hsorted : (waveNumbers roomTemplate).Pairwise (fun left right => decide (left ≤ right)) := by
    refine List.pairwise_mergeSort ?_ ?_ _
    · intro a b c hab hbc
      simp only [decide_eq_true_eq] at hab hbc ⊢
      exact UInt32.le_trans hab hbc
    · intro a b
      simpa using UInt32.le_total a b
  have hnodup : (waveNumbers roomTemplate).Nodup :=
    (List.mergeSort_perm _ _).nodup_iff.mpr (List.nodup_dedup _)
  refine (hsorted.and hnodup).imp ?_
  intro a b hab
  exact UInt32.lt_of_le_of_ne (of_decide_eq_true hab.1) hab.2

theorem toNat_makeEnemyEntityId (roomId : RoomId) (spawnId : EnemySpawnId) :
    (makeEnemyEntityId roomId spawnId).toNat = roomId.toNat * 2 ^ 32 + spawnId.toNat := by
  have hroom := roomId.toNat_lt
  have hshift : roomId.toNat <<< 32 % 2 ^ 64 = 2 ^ 32 * roomId.toNat := by
    rw [Nat.shiftLeft_eq, Nat.mul_comm]
    exact Nat.mod_eq_of_lt (by omega)
  rw [makeEnemyEntityId, UInt64.toNat_or, UInt64.toNat_shiftLeft, UInt32.toNat_toUInt64,
    UInt32.toNat_toUInt64]
  rw [show (32 : UInt64).toNat % 64 = 32 from rfl, hshift,
    ← Nat.two_pow_add_eq_or_of_lt spawnId.toNat_lt, Nat.mul_comm]

/-- The identifier of an enemy holds the room and the spawn. -/
theorem makeEnemyEntityId_inj {roomId roomId' : RoomId} {spawnId spawnId' : EnemySpawnId}
    (h : makeEnemyEntityId roomId spawnId = makeEnemyEntityId roomId' spawnId') :
    roomId = roomId' ∧ spawnId = spawnId' := by
  have hnat := congrArg UInt64.toNat h
  rw [toNat_makeEnemyEntityId, toNat_makeEnemyEntityId] at hnat
  have hspawn := spawnId.toNat_lt
  have hspawn' := spawnId'.toNat_lt
  exact ⟨UInt32.toNat_inj.mp (by omega), UInt32.toNat_inj.mp (by omega)⟩

/-! ## The enemies -/

section

variable (catalog : EnemyCatalog) (roomTemplate : RoomTemplate)

/-- The enemy came from the spawn, and lives only in its own wave. -/
structure From (currentWave : UInt32) (enemy : EnemyState) (spawn : EnemySpawnTemplate) : Prop where
  spawnId : enemy.spawnId = spawn.id
  entityId : enemy.entityId = makeEnemyEntityId roomTemplate.id spawn.id
  enemyTemplateId : enemy.enemyTemplateId = spawn.enemyTemplateId
  position : enemy.position = spawn.position
  hp : ∃ enemyTemplate, catalog.getEnemy spawn.enemyTemplateId = some enemyTemplate ∧
    enemy.currentHp ≤ enemyTemplate.maxHp
  alive : enemy.alive = true ↔ 0 < enemy.currentHp
  living : enemy.alive = true → spawn.wave = currentWave

/-- The waves visited are the first ones of the template, and their enemies are in the room. -/
structure Visiting (h : RoomHistory) : Prop where
  template : h.room.roomTemplate = roomTemplate
  lastWave : h.room.lastWave = (RoomState.new roomTemplate).lastWave
  current : h.room.currentWave = h.visited.getLast?.getD 0
  order : ∃ rest, waveNumbers roomTemplate = h.visited ++ rest
  enemies : List.Forall₂ (From catalog roomTemplate h.room.currentWave) h.room.enemies
    (h.visited.flatMap (waveSpawns roomTemplate))

end

section

variable {catalog : EnemyCatalog} {roomTemplate : RoomTemplate} {h h' : RoomHistory}

theorem From.damage {currentWave : UInt32} {enemy : EnemyState} {spawn : EnemySpawnTemplate}
    (h : From catalog roomTemplate currentWave enemy spawn) (damage : UInt32) :
    From catalog roomTemplate currentWave (RoomState.damageEnemy damage enemy) spawn := by
  obtain ⟨enemyTemplate, htemplate, hle⟩ := h.hp
  unfold RoomState.damageEnemy
  split
  · refine { h with hp := ⟨enemyTemplate, htemplate, UInt32.zero_le⟩, alive := ?_, living := ?_ }
    · simp
    · exact fun hfalse => absurd hfalse Bool.false_ne_true
  · rename_i hlt
    have hlt := UInt32.not_le.mp hlt
    have hnat := UInt32.toNat_sub_of_le _ _ (UInt32.le_of_lt hlt)
    rw [UInt32.lt_iff_toNat_lt] at hlt
    have hpos : 0 < enemy.currentHp := by
      rw [UInt32.lt_iff_toNat_lt, UInt32.toNat_zero]
      omega
    refine { h with hp := ⟨enemyTemplate, htemplate, ?_⟩, alive := ?_ }
    · rw [UInt32.le_iff_toNat_le, hnat]
      rw [UInt32.le_iff_toNat_le] at hle
      omega
    · refine iff_of_true (h.alive.mpr hpos) ?_
      rw [UInt32.lt_iff_toNat_lt, hnat, UInt32.toNat_zero]
      omega

/-- A blow changes one enemy in place, or nothing. -/
theorem applyEnemyDamage_cases (entityId : DungeonEntityId) (damage : UInt32) (room : RoomState) :
    (room.applyEnemyDamage entityId damage).2 = room ∨ ∃ index,
      (room.applyEnemyDamage entityId damage).2 =
        { room with enemies := room.enemies.modify index (RoomState.damageEnemy damage) } := by
  unfold RoomState.applyEnemyDamage
  split
  · exact .inl rfl
  split
  · exact .inr ⟨_, rfl⟩
  · exact .inl rfl

namespace Visiting

theorem start : Visiting catalog roomTemplate { room := RoomState.new roomTemplate } :=
  ⟨rfl, rfl, rfl, ⟨_, rfl⟩, .nil⟩

/-- The waves visited are those up to the current one. -/
theorem between (hv : Visiting catalog roomTemplate h) (hs : Supplied catalog roomTemplate)
    {rest : List UInt32} (hrest : waveNumbers roomTemplate = h.visited ++ rest) :
    (∀ wave ∈ h.visited, wave ≤ h.room.currentWave) ∧ ∀ wave ∈ rest, h.room.currentWave < wave := by
  have hincreasing := waveNumbers_increasing roomTemplate
  rw [hrest, List.pairwise_append] at hincreasing
  obtain ⟨hvisited, -, hcross⟩ := hincreasing
  rw [hv.current]
  cases hlast : h.visited.getLast? with
  | none =>
    rw [List.getLast?_eq_none_iff] at hlast
    refine ⟨by simp [hlast], fun wave hw => ?_⟩
    have hmem : wave ∈ waveNumbers roomTemplate := hrest ▸ List.mem_append_right _ hw
    obtain ⟨spawn, hspawn, rfl⟩ := mem_waveNumbers.mp hmem
    exact UInt32.pos_iff_ne_zero.mpr (hs spawn hspawn).1
  | some last =>
    obtain ⟨before, hbefore⟩ := List.getLast?_eq_some_iff.mp hlast
    refine ⟨fun wave hw => ?_, fun wave hw => ?_⟩
    · rw [hbefore, List.pairwise_append] at hvisited
      rw [hbefore] at hw
      rcases List.mem_append.mp hw with hw | hw
      · exact UInt32.le_of_lt (hvisited.2.2 wave hw last List.mem_cons_self)
      · exact List.mem_singleton.mp hw ▸ UInt32.le_refl _
    · exact hcross last (hbefore ▸ List.mem_append_right _ List.mem_cons_self) wave hw

/-- The next wave is the first of those that are left. -/
theorem nextWave_eq (hv : Visiting catalog roomTemplate h) (hs : Supplied catalog roomTemplate)
    {rest : List UInt32} (hrest : waveNumbers roomTemplate = h.visited ++ rest) :
    h.room.nextWave = rest.head?.getD 0 := by
  obtain ⟨hbelow, habove⟩ := hv.between hs hrest
  by_cases hzero : h.room.nextWave = 0
  · cases rest with
    | nil => exact hzero
    | cons wave rest =>
      have hmem : wave ∈ waveNumbers roomTemplate := by simp [hrest]
      obtain ⟨spawn, hspawn, rfl⟩ := mem_waveNumbers.mp hmem
      have hreached := le_of_nextWave_eq_zero hzero spawn (hv.template ▸ hspawn)
      exact absurd (habove _ List.mem_cons_self) (UInt32.not_lt.mpr hreached)
  · obtain ⟨hlt, hleast⟩ := nextWave_spec hzero
    obtain ⟨spawn, hspawn, hwave⟩ := nextWave_mem hzero
    rw [hv.template] at hspawn hleast
    have hmem : h.room.nextWave ∈ h.visited ++ rest :=
      hrest ▸ mem_waveNumbers.mpr ⟨spawn, hspawn, hwave⟩
    have hnext : h.room.nextWave ∈ rest := by
      refine (List.mem_append.mp hmem).resolve_left fun hold => ?_
      exact absurd hlt (UInt32.not_lt.mpr (hbelow _ hold))
    cases rest with
    | nil => cases hnext
    | cons wave rest =>
      have hfirst : wave ∈ waveNumbers roomTemplate := by simp [hrest]
      obtain ⟨first, hmember, rfl⟩ := mem_waveNumbers.mp hfirst
      have hle := hleast first hmember (habove _ List.mem_cons_self)
      have hincreasing := waveNumbers_increasing roomTemplate
      rw [hrest, List.pairwise_append] at hincreasing
      rcases List.mem_cons.mp hnext with heq | hlater
      · exact heq
      · have hlt := (List.pairwise_cons.mp hincreasing.2.1).1 _ hlater
        exact UInt32.le_antisymm hle (UInt32.le_of_lt hlt)

/-- A wave that starts adds its enemies, in the order of the template, to the dead ones. -/
theorem startWave (hv : Visiting catalog roomTemplate h) (hs : Supplied catalog roomTemplate)
    (hl : ValidEnemies catalog) {wave : UInt32} {rest : List UInt32}
    (hrest : waveNumbers roomTemplate = h.visited ++ wave :: rest)
    (hdead : h.room.hasLivingEnemy = false) :
    ∃ enemies, h.room.startNextWave catalog =
        (.ok true, { h.room with enemies, currentWave := wave }) ∧
      Visiting catalog roomTemplate
        { room := { h.room with enemies, currentWave := wave }, visited := h.visited ++ [wave] } := by
  have hnext : h.room.nextWave = wave := hv.nextWave_eq hs hrest
  have hzero : wave ≠ 0 := by
    obtain ⟨spawn, hspawn, rfl⟩ := mem_waveNumbers.mp
      (hrest ▸ List.mem_append_right _ List.mem_cons_self : wave ∈ waveNumbers roomTemplate)
    exact (hs spawn hspawn).1
  have hsupplied : ∀ spawn ∈ h.room.roomTemplate.enemySpawns,
      (catalog.getEnemy spawn.enemyTemplateId).isSome := fun spawn hspawn =>
    (hs spawn (hv.template ▸ hspawn)).2
  obtain ⟨added, hfresh, heq⟩ : ∃ added, List.Forall₂ (Fresh catalog h.room.roomTemplate) added
      (h.room.roomTemplate.enemySpawns.filter (·.wave = wave)) ∧
      RoomState.spawnWave catalog wave h.room h.room.roomTemplate.enemySpawns =
        (.ok (), { h.room with enemies := h.room.enemies ++ added }) := spawnWave_fresh hsupplied h.room
  refine ⟨h.room.enemies ++ added, ?_, hv.template, hv.lastWave, ?_, ⟨rest, by simp [hrest]⟩, ?_⟩
  · rw [RoomState.startNextWave, if_neg (by simp [hdead]), hnext, if_neg hzero, heq]
  · simp
  · rw [List.flatMap_append, List.flatMap_singleton]
    rw [hv.template] at hfresh
    refine List.rel_append ?_ ?_
    · have hall : ∀ enemy ∈ h.room.enemies, enemy.alive = false := by
        simpa [RoomState.hasLivingEnemy] using hdead
      have hold := (List.forall₂_and_left _ _).mpr ⟨hall, hv.enemies⟩
      refine hold.imp fun enemy spawn hfrom => { hfrom.2 with living := fun halive => ?_ }
      rw [hfrom.1] at halive
      cases halive
    · have hwave : ∀ spawn ∈ roomTemplate.enemySpawns.filter (·.wave = wave), spawn.wave = wave :=
        fun spawn hspawn => of_decide_eq_true (List.mem_filter.mp hspawn).2
      have hnew := ((List.forall₂_and_left _ _).mpr ⟨hwave, hfresh.flip⟩).flip
      refine hnew.imp fun enemy spawn hfrom => ?_
      obtain ⟨hspawn, enemyTemplate, htemplate, rfl⟩ := hfrom
      have hhp : 0 < enemyTemplate.maxHp :=
        UInt32.pos_iff_ne_zero.mpr (hl _ _ htemplate).2.maxHp
      exact ⟨rfl, rfl, rfl, rfl, ⟨enemyTemplate, htemplate, UInt32.le_refl _⟩,
        iff_of_true rfl hhp, fun _ => hspawn⟩

theorem next (hv : Visiting catalog roomTemplate h) (hs : Supplied catalog roomTemplate)
    (hl : ValidEnemies catalog) {call : RoomCall} (hn : h.next catalog call = some h') :
    Visiting catalog roomTemplate h' := by
  obtain rfl := Option.some.inj hn
  have hsame {room : RoomState} (hr : room = h.room) : Visiting catalog roomTemplate { room, visited :=
      if room.currentWave = h.room.currentWave then h.visited
      else h.visited ++ [room.currentWave] } := by
    subst hr
    rw [if_pos rfl]
    exact hv
  cases call with
  | startNextWave =>
    simp only [RoomCall.apply]
    obtain ⟨rest, hrest⟩ := hv.order
    cases hliving : h.room.hasLivingEnemy with
    | true => exact hsame (by rw [RoomState.startNextWave, if_pos hliving])
    | false =>
      cases rest with
      | nil =>
        have hnone : h.room.nextWave = 0 := hv.nextWave_eq hs hrest
        exact hsame (by rw [RoomState.startNextWave, if_neg (by simp [hliving]), if_pos hnone])
      | cons wave rest =>
        obtain ⟨enemies, hstart, hv'⟩ := hv.startWave hs hl hrest hliving
        have hne : ¬ wave = h.room.currentWave := by
          have hlt := (hv.between hs hrest).2 wave List.mem_cons_self
          exact fun heq => UInt32.lt_irrefl _ (heq ▸ hlt)
        simp only [hstart, if_neg hne]
        exact hv'
  | applyEnemyDamage entityId damage =>
    simp only [RoomCall.apply]
    rcases applyEnemyDamage_cases entityId damage h.room with heq | ⟨index, heq⟩
    · exact hsame heq
    · simp only [heq, if_true]
      exact { hv with
        enemies := forall₂_modify (fun _ _ hfrom => hfrom.damage damage) hv.enemies index }

end Visiting

theorem visiting_of_run {calls : List RoomCall} (hs : Supplied catalog roomTemplate)
    (hl : ValidEnemies catalog)
    (hr : run (RoomHistory.next catalog) { room := RoomState.new roomTemplate } calls = some h) :
    Visiting catalog roomTemplate h :=
  reachable_invariant (Visiting catalog roomTemplate) (fun _ _ _ hv hn => hv.next hs hl hn) .start
    ⟨calls, hr⟩

theorem intact_of_run {calls : List RoomCall} (hs : Supplied catalog roomTemplate)
    (hr : run (RoomHistory.next catalog) { room := RoomState.new roomTemplate } calls = some h) :
    Intact h.room := by
  have hkept := reachable_invariant
    (fun h : RoomHistory => h.room.roomTemplate = roomTemplate ∧ Intact h.room) ?_
    ⟨rfl, intact_new hs⟩ ⟨calls, hr⟩
  · exact hkept.2
  · rintro before call after ⟨htemplate, hintact⟩ hn
    obtain rfl := Option.some.inj hn
    have hpreserved : Preserves before.room (call.apply catalog before.room) := by
      cases call with
      | startNextWave => exact preserves_startNextWave (htemplate ▸ hs)
      | applyEnemyDamage entityId damage => exact preserves_blow (.enemy entityId damage)
    exact ⟨hpreserved.1.trans htemplate, hpreserved.2 hintact⟩

/-! ## What the machine means -/

theorem Visiting.upTo (hv : Visiting catalog roomTemplate h) (hs : Supplied catalog roomTemplate) :
    h.visited = (waveNumbers roomTemplate).filter (· ≤ h.room.currentWave) := by
  obtain ⟨rest, hrest⟩ := hv.order
  obtain ⟨hbelow, habove⟩ := hv.between hs hrest
  have hvisited : h.visited.filter (· ≤ h.room.currentWave) = h.visited :=
    List.filter_eq_self.mpr fun wave hw => decide_eq_true (hbelow wave hw)
  have hnone : rest.filter (· ≤ h.room.currentWave) = [] :=
    List.filter_eq_nil_iff.mpr fun wave hw hle =>
      absurd (habove wave hw) (UInt32.not_lt.mpr (of_decide_eq_true hle))
  rw [hrest, List.filter_append, hvisited, hnone, List.append_nil]

theorem Visiting.entityId_eq (hv : Visiting catalog roomTemplate h) {enemy : EnemyState}
    (he : enemy ∈ h.room.enemies) :
    enemy.entityId = makeEnemyEntityId roomTemplate.id enemy.spawnId := by
  obtain ⟨spawn, -, hfrom⟩ := exists_of_forall₂ hv.enemies he
  rw [hfrom.entityId, hfrom.spawnId]

theorem nodup_spawnIds (hi : Intact h.room) (hids : (h.room.roomTemplate.enemySpawns.map (·.id)).Nodup) :
    (h.room.enemies.map (·.spawnId)).Nodup :=
  hi.spawned.nodup_iff.mpr (hids.sublist (List.filter_sublist.map _))

theorem Visiting.distinct (hv : Visiting catalog roomTemplate h) (hi : Intact h.room)
    (hids : (roomTemplate.enemySpawns.map (·.id)).Nodup) : (h.room.enemies.map (·.entityId)).Nodup := by
  have hspawns := nodup_spawnIds hi (hv.template ▸ hids)
  have hmap : h.room.enemies.map (·.entityId) =
      (h.room.enemies.map (·.spawnId)).map (makeEnemyEntityId roomTemplate.id) := by
    rw [List.map_map]
    exact List.map_congr_left fun enemy he => hv.entityId_eq he
  rw [hmap]
  exact hspawns.map fun _ _ heq => (makeEnemyEntityId_inj heq).2

/-- A room is cleared when every spawn of its template has its enemy, and that is dead. -/
theorem Visiting.cleared_iff (hv : Visiting catalog roomTemplate h) (hi : Intact h.room) (hids : (roomTemplate.enemySpawns.map (·.id)).Nodup) :
    h.room.isCleared = true ↔ ∀ spawn ∈ roomTemplate.enemySpawns,
      ∃ enemy ∈ h.room.enemies, enemy.spawnId = spawn.id ∧ enemy.alive = false := by
  have hspawned := hi.spawned
  rw [hv.template] at hspawned
  have hdead : h.room.hasLivingEnemy = false ↔ ∀ enemy ∈ h.room.enemies, enemy.alive = false := by
    simp [RoomState.hasLivingEnemy]
  have hlast := hv.lastWave
  simp only [RoomState.new] at hlast
  rw [RoomState.isCleared, Bool.and_eq_true, decide_eq_true_eq, Bool.not_eq_true', hdead]
  constructor
  · rintro ⟨hcurrent, hall⟩ spawn hspawn
    have hle : spawn.wave ≤ h.room.currentWave := by
      rw [hcurrent, hlast]
      exact (le_foldl_max roomTemplate.enemySpawns 0).2 spawn hspawn
    have hmem : spawn.id ∈ h.room.enemies.map (·.spawnId) :=
      hspawned.mem_iff.mpr (List.mem_map_of_mem (List.mem_filter.mpr ⟨hspawn, decide_eq_true hle⟩))
    obtain ⟨enemy, he, hid⟩ := List.mem_map.mp hmem
    exact ⟨enemy, he, hid, hall enemy he⟩
  · intro hall
    have hnodup := nodup_spawnIds hi (hv.template ▸ hids)
    have hreached : ∀ spawn ∈ roomTemplate.enemySpawns, spawn.wave ≤ h.room.currentWave := by
      intro spawn hspawn
      obtain ⟨enemy, he, hid, -⟩ := hall spawn hspawn
      have hmem := hspawned.mem_iff.mp (List.mem_map_of_mem he)
      obtain ⟨found, hfound, heq⟩ := List.mem_map.mp hmem
      obtain ⟨hin, hle⟩ := List.mem_filter.mp hfound
      obtain rfl := List.inj_on_of_nodup_map hids hin hspawn (heq.trans hid)
      exact of_decide_eq_true hle
    refine ⟨?_, fun enemy he => ?_⟩
    · obtain ⟨rest, hrest⟩ := hv.order
      rw [hlast]
      refine UInt32.le_antisymm ?_ ?_
      · rw [hv.current]
        cases hvisited : h.visited.getLast? with
        | none => exact UInt32.zero_le
        | some wave =>
          have hmem : wave ∈ waveNumbers roomTemplate :=
            hrest ▸ List.mem_append_left _ (List.mem_of_getLast? hvisited)
          obtain ⟨spawn, hspawn, rfl⟩ := mem_waveNumbers.mp hmem
          exact (le_foldl_max roomTemplate.enemySpawns 0).2 spawn hspawn
      · rcases foldl_max_mem roomTemplate.enemySpawns 0 with hzero | ⟨spawn, hspawn, heq⟩
        · rw [hzero]
          exact UInt32.zero_le
        · exact heq ▸ hreached spawn hspawn
    · have hmem := hspawned.mem_iff.mp (List.mem_map_of_mem he)
      obtain ⟨spawn, hfound, heq⟩ := List.mem_map.mp hmem
      obtain ⟨other, ho, hid, hdead⟩ := hall spawn (List.mem_filter.mp hfound).1
      obtain rfl := List.inj_on_of_nodup_map hnodup ho he (hid.trans heq)
      exact hdead

/-- The next wave starts when every enemy is dead and a wave is left. -/
theorem Visiting.starts (hv : Visiting catalog roomTemplate h) (hs : Supplied catalog roomTemplate)
    (hl : ValidEnemies catalog) : (h.room.startNextWave catalog).1 =
      .ok (decide (h.room.hasLivingEnemy = false ∧ h.visited ≠ waveNumbers roomTemplate)) := by
  obtain ⟨rest, hrest⟩ := hv.order
  cases hliving : h.room.hasLivingEnemy with
  | true => simp [RoomState.startNextWave, hliving]
  | false =>
    cases rest with
    | nil =>
      have hnone : h.room.nextWave = 0 := hv.nextWave_eq hs hrest
      simp [RoomState.startNextWave, hliving, hnone, hrest]
    | cons wave rest =>
      obtain ⟨enemies, hstart, -⟩ := hv.startWave hs hl hrest hliving
      simp [hstart, hrest]

/-- A start that succeeds moves the room to the next wave of the template. -/
theorem Visiting.moves (hv : Visiting catalog roomTemplate h) (hs : Supplied catalog roomTemplate)
    (hl : ValidEnemies catalog) (hstarted : (h.room.startNextWave catalog).1 = .ok true) :
    ∃ rest, waveNumbers roomTemplate =
      h.visited ++ (h.room.startNextWave catalog).2.currentWave :: rest := by
  rw [hv.starts hs hl, Except.ok.injEq, decide_eq_true_eq] at hstarted
  obtain ⟨hdead, hleft⟩ := hstarted
  obtain ⟨rest, hrest⟩ := hv.order
  cases rest with
  | nil => exact absurd (by simp [hrest]) hleft
  | cons wave rest =>
    obtain ⟨enemies, hstart, -⟩ := hv.startWave hs hl hrest hdead
    exact ⟨rest, by rw [hstart]; exact hrest⟩

/-- A start that is refused leaves the room alone. -/
theorem startNextWave_refused {room : RoomState}
    (hrefused : (room.startNextWave catalog).1 = .ok false) :
    (room.startNextWave catalog).2 = room := by
  unfold RoomState.startNextWave at hrefused ⊢
  split
  · rfl
  split
  · rfl
  · rename_i hdead hnext
    rw [if_neg hdead, if_neg hnext] at hrefused
    split at hrefused <;> cases hrefused

end

/-- The state of a room and its waves, after any calls. -/
structure WaveState (catalog : EnemyCatalog) (roomTemplate : RoomTemplate) (h : RoomHistory) : Prop where
  visits : h.visited <+: waveNumbers roomTemplate
  current : h.room.currentWave = h.visited.getLast?.getD 0
  starts : (h.room.startNextWave catalog).1 =
    .ok (decide (h.room.hasLivingEnemy = false ∧ h.visited ≠ waveNumbers roomTemplate))
  moves : (h.room.startNextWave catalog).1 = .ok true → ∃ rest,
    waveNumbers roomTemplate = h.visited ++ (h.room.startNextWave catalog).2.currentWave :: rest
  stays : (h.room.startNextWave catalog).1 = .ok false → (h.room.startNextWave catalog).2 = h.room
  enemies : List.Forall₂ (From catalog roomTemplate h.room.currentWave) h.room.enemies
    (((waveNumbers roomTemplate).filter (· ≤ h.room.currentWave)).flatMap (waveSpawns roomTemplate))
  exactly : (h.room.enemies.map (·.spawnId)).Perm
    ((roomTemplate.enemySpawns.filter (·.wave ≤ h.room.currentWave)).map (·.id))
  distinct : (h.room.enemies.map (·.entityId)).Nodup
  cleared : h.room.isCleared = true ↔ ∀ spawn ∈ roomTemplate.enemySpawns,
    ∃ enemy ∈ h.room.enemies, enemy.spawnId = spawn.id ∧ enemy.alive = false

/-- Nonzero waves, distinct spawns and a catalog with their enemies. -/
structure Playable (catalog : EnemyCatalog) (roomTemplate : RoomTemplate) : Prop where
  supplied : Supplied catalog roomTemplate
  distinct : (roomTemplate.enemySpawns.map (·.id)).Nodup

/-- Whatever is called on a room, its waves are those of the template in increasing order, each once,
and its enemies those of the waves so far; no enemy of another room has the identifier of one of
them. -/
theorem waves_of_run {content : Content} (hcontent : Reachable ContentOp.next {} content)
    {roomTemplate : RoomTemplate} (hp : Playable content.enemies roomTemplate)
    {calls : List RoomCall} {h : RoomHistory}
    (hr : run (RoomHistory.next content.enemies) { room := RoomState.new roomTemplate } calls = some h) :
    WaveState content.enemies roomTemplate h ∧
      ∀ (other : RoomTemplate) (calls' : List RoomCall) (h' : RoomHistory),
        Playable content.enemies other → other.id ≠ roomTemplate.id →
        run (RoomHistory.next content.enemies) { room := RoomState.new other } calls' = some h' →
        ∀ enemy ∈ h.room.enemies, ∀ enemy' ∈ h'.room.enemies, enemy'.entityId ≠ enemy.entityId := by
  have hl := validEnemies_of_run hcontent
  have hv := visiting_of_run hp.supplied hl hr
  have hi := intact_of_run hp.supplied hr
  refine ⟨?_, ?_⟩
  · obtain ⟨rest, hrest⟩ := hv.order
    refine ⟨⟨rest, hrest.symm⟩, hv.current, hv.starts hp.supplied hl,
      hv.moves hp.supplied hl, startNextWave_refused, ?_, ?_,
      hv.distinct hi hp.distinct, hv.cleared_iff hi hp.distinct⟩
    · rw [← hv.upTo hp.supplied]
      exact hv.enemies
    · exact hv.template ▸ hi.spawned
  · intro other calls' h' hp' hne hr' enemy he enemy' he' heq
    have hv' := visiting_of_run hp'.supplied hl hr'
    rw [hv.entityId_eq he, hv'.entityId_eq he'] at heq
    exact hne (makeEnemyEntityId_inj heq).1

def orc : EnemyTemplate where
  id := 2001
  name := "Orc"
  maxHp := 100
  moveSpeed := 1
  aiType := .melee
  collision := ⟨{}, ⟨1, 1, 1⟩⟩

def orcContent : Content := (ContentOp.addEnemy orc).apply {}

/-- Two waves, the later one first. -/
def orcRoom : RoomTemplate where
  id := 1
  width := 10
  depth := 10
  playerSpawn := {}
  enemySpawns := [{ id := 1, enemyTemplateId := 2001, position := {}, wave := 7 },
    { id := 2, enemyTemplateId := 2001, position := {}, wave := 3 }]

def orcCalls : List RoomCall :=
  [.startNextWave, .applyEnemyDamage (makeEnemyEntityId 1 2) 100, .startNextWave]

theorem waves_of_run_orcs :
    ∃ h, run (RoomHistory.next orcContent.enemies) { room := RoomState.new orcRoom } orcCalls =
        some h ∧ h.visited = [3, 7] ∧ WaveState orcContent.enemies orcRoom h := by
  have hplayable : Playable orcContent.enemies orcRoom := ⟨by decide +kernel, by decide⟩
  have hvisited : (run (RoomHistory.next orcContent.enemies) { room := RoomState.new orcRoom }
      orcCalls).map (·.visited) = some [3, 7] := by decide +kernel
  obtain ⟨h, hr, hv⟩ := Option.map_eq_some_iff.mp hvisited
  exact ⟨h, hr, hv, (waves_of_run ⟨[.addEnemy orc], rfl⟩ hplayable hr).1⟩

end DnfServer.Dungeons
