import DnfServer.Model.StaticData
import DnfServer.Snapshots.Size
import DnfServer.Tick.Lifecycle

/-!
# The static data of a live dungeon

What the catalogs admit is what the protocol accepts, rule by rule. A dungeon keeps the template
that the catalog held when it was created, and the catalogs change no entry, so every participant
of a live dungeon is answered with static data that pass the validation.
-/

namespace DnfServer.StaticData

open Std DnfServer.Library DnfServer.Dungeons DnfServer.Participants DnfServer.Manager DnfServer.Tick
  DnfServer.Udp
set_option autoImplicit false

/-! ## Admission and validation -/

theorem isValidBox_ofBox {box : DnfServer.CollisionBox}
    (h : DnfServer.isValidCollisionBox box = true) : isValidBox (ofBox box) = true := h

theorem isValidEnemy_ofEnemy {enemy : DnfServer.EnemyTemplate} (h : ValidEnemy enemy) :
    isValidEnemy (ofEnemy enemy) = true := by
  have hbox := isValidBox_ofBox h.collision
  have hspeed : ¬ enemy.moveSpeed < 0 := Rat.not_lt.mpr h.moveSpeed
  have hheight : ¬ enemy.collision.minimum.z < 0 := Rat.not_lt.mpr h.height
  simp only [isValidEnemy, Bool.and_eq_true, bne_iff_ne, Bool.not_eq_true', decide_eq_false_iff_not]
  exact ⟨⟨⟨⟨⟨⟨h.id, h.name⟩, h.maxHp⟩, rfl⟩, hspeed⟩, hbox⟩, hheight⟩

theorem isValidRoom_ofRoom {room : DnfServer.RoomTemplate}
    (h : DungeonCatalog.isValidRoom room = true) : isValidRoom (ofRoom room) = true := by
  simp only [DungeonCatalog.isValidRoom, Bool.and_eq_true, bne_iff_ne, decide_eq_true_eq] at h
  obtain ⟨⟨⟨⟨hid, hwidth⟩, hdepth⟩, hz⟩, hinside⟩ := h
  simp only [isValidRoom, Bool.and_eq_true, bne_iff_ne, Bool.not_eq_true', decide_eq_false_iff_not]
  exact ⟨⟨⟨⟨⟨⟨⟨hid, rfl⟩, rfl⟩, Rat.not_le.mpr hwidth⟩, Rat.not_le.mpr hdepth⟩, rfl⟩,
    Rat.not_lt.mpr hz⟩, hinside⟩

/-- The four conditions on a box in a room. -/
theorem box_ofBox {room : DnfServer.RoomTemplate} {box : DnfServer.CollisionBox}
    (h : DungeonCatalog.isValidBox room box = true) :
    isValidBox (ofBox box) = true ∧ ¬ (ofBox box).minimum.z < 0 ∧
      isInsideRoom (ofRoom room) (ofBox box).minimum = true ∧
      isInsideRoom (ofRoom room) (ofBox box).maximum = true := by
  simp only [DungeonCatalog.isValidBox, Bool.and_eq_true, decide_eq_true_eq] at h
  obtain ⟨⟨⟨hbox, hz⟩, hmin⟩, hmax⟩ := h
  exact ⟨isValidBox_ofBox hbox, Rat.not_lt.mpr hz, hmin, hmax⟩

theorem isValidPortal_ofPortal {rooms : List DnfServer.RoomTemplate}
    (hnodup : (rooms.map (·.id)).Nodup) {room : DnfServer.RoomTemplate}
    {portal : DnfServer.PortalTemplate}
    (h : DungeonCatalog.isValidPortal rooms room portal = true) :
    isValidPortal (rooms.map ofRoom).reverse (ofRoom room) (ofPortal portal) = true := by
  simp only [DungeonCatalog.isValidPortal, Bool.and_eq_true, bne_iff_ne] at h
  obtain ⟨⟨hid, hbox⟩, htarget⟩ := h
  obtain ⟨hvalid, hz, hmin, hmax⟩ := box_ofBox hbox
  obtain ⟨targetRoom, hfind, hinside⟩ := (Option.any_eq_true _ _).mp htarget
  simp only [Bool.and_eq_true, decide_eq_true_eq] at hinside
  have hids : ((rooms.map ofRoom).map (·.id)).Nodup := by
    rw [List.map_map]
    exact hnodup
  have hfound : (rooms.map ofRoom).reverse.find? (·.id = portal.targetRoomId) =
      some (ofRoom targetRoom) := by
    rw [find?_reverse_of_nodup hids, List.find?_map]
    exact congrArg (Option.map ofRoom) hfind
  simp only [isValidPortal, Bool.and_eq_true, bne_iff_ne, Bool.not_eq_true', decide_eq_false_iff_not]
  refine ⟨⟨⟨⟨⟨hid, hvalid⟩, hz⟩, hmin⟩, hmax⟩, ?_⟩
  refine (Option.any_eq_true _ _).mpr ⟨ofRoom targetRoom, hfound, ?_⟩
  simp only [Bool.and_eq_true, Bool.not_eq_true', decide_eq_false_iff_not]
  exact ⟨⟨rfl, Rat.not_lt.mpr hinside.1⟩, hinside.2⟩

theorem isValidObstacle_ofObstacle {room : DnfServer.RoomTemplate}
    {obstacle : DnfServer.ObstacleTemplate}
    (h : DungeonCatalog.isValidObstacle room obstacle = true) :
    isValidObstacle (ofRoom room) (ofObstacle obstacle) = true := by
  simp only [DungeonCatalog.isValidObstacle, Bool.and_eq_true] at h
  obtain ⟨⟨hid, hbox⟩, hhp⟩ := h
  obtain ⟨hvalid, hz, hmin, hmax⟩ := box_ofBox hbox
  simp only [isValidObstacle, Bool.and_eq_true, Bool.not_eq_true', decide_eq_false_iff_not]
  exact ⟨⟨⟨⟨⟨hid, hvalid⟩, hz⟩, hmin⟩, hmax⟩, (Bool.not_eq_true' _).mp hhp⟩

theorem isValidSpawn_ofSpawn {enemyCatalog : EnemyCatalog} {enemies : List DnfServer.EnemyTemplate}
    {room : DnfServer.RoomTemplate} {spawn : DnfServer.EnemySpawnTemplate}
    (hcollected : ∃ enemy ∈ enemies, enemy.id = spawn.enemyTemplateId)
    (h : DungeonCatalog.isValidSpawn enemyCatalog room spawn = true) :
    isValidSpawn (enemies.map ofEnemy).reverse (ofRoom room) (ofSpawn spawn) = true := by
  simp only [DungeonCatalog.isValidSpawn, Bool.and_eq_true, decide_eq_true_eq] at h
  obtain ⟨⟨⟨⟨hid, -⟩, hz⟩, hinside⟩, hwave⟩ := h
  obtain ⟨enemy, he, heq⟩ := hcollected
  simp only [isValidSpawn, Bool.and_eq_true, Bool.not_eq_true', decide_eq_false_iff_not]
  refine ⟨⟨⟨⟨⟨hid, ?_⟩, rfl⟩, Rat.not_lt.mpr hz⟩, hinside⟩, hwave⟩
  rw [List.any_reverse, List.any_map]
  exact List.any_eq_true.mpr ⟨enemy, he, decide_eq_true heq⟩

/-! ## The enemies of a template -/

/-- What the loop over the spawns has added, besides the enemies added before. -/
structure Collected (enemyCatalog : EnemyCatalog) (addedEnemyIds : List EnemyTemplateId)
    (spawns : List DnfServer.EnemySpawnTemplate) (enemies : List DnfServer.EnemyTemplate) : Prop where
  referenced : ∀ enemy ∈ enemies, enemy.id ∉ addedEnemyIds ∧
    ∃ spawn ∈ spawns, enemyCatalog.getEnemy spawn.enemyTemplateId = some enemy
  nodup : (enemies.map (·.id)).Nodup
  complete : ∀ spawn ∈ spawns, spawn.enemyTemplateId ∈ addedEnemyIds ∨
    ∃ enemy ∈ enemies, enemyCatalog.getEnemy spawn.enemyTemplateId = some enemy

theorem collected_of_ok {enemyCatalog : EnemyCatalog} (hvalid : ValidEnemies enemyCatalog)
    {spawns : List DnfServer.EnemySpawnTemplate} {addedEnemyIds : List EnemyTemplateId}
    {enemies : List DnfServer.EnemyTemplate}
    (h : collectEnemies enemyCatalog addedEnemyIds spawns = .ok enemies) :
    Collected enemyCatalog addedEnemyIds spawns enemies := by
  induction spawns generalizing addedEnemyIds enemies with
  | nil =>
    obtain rfl := Except.ok.inj h
    exact ⟨by simp, List.nodup_nil, by simp⟩
  | cons spawn spawns ih =>
    rw [collectEnemies] at h
    split at h
    · rename_i hadded
      have hrest := ih h
      refine ⟨?_, hrest.nodup, ?_⟩
      · intro enemy he
        obtain ⟨hnew, other, ho, hget⟩ := hrest.referenced enemy he
        exact ⟨hnew, other, List.mem_cons_of_mem _ ho, hget⟩
      · intro other ho
        rcases List.mem_cons.mp ho with rfl | ho
        · exact .inl hadded
        · exact hrest.complete other ho
    rename_i hadded
    split at h
    · cases h
    rename_i enemy hget
    cases hcollect : collectEnemies enemyCatalog (spawn.enemyTemplateId :: addedEnemyIds) spawns with
    | error failure =>
      rw [hcollect] at h
      cases h
    | ok others =>
      rw [hcollect] at h
      obtain rfl := Except.ok.inj h
      have hrest := ih hcollect
      have hid : enemy.id = spawn.enemyTemplateId := (hvalid _ enemy hget).1
      refine ⟨?_, ?_, ?_⟩
      · intro other ho
        rcases List.mem_cons.mp ho with rfl | ho
        · exact ⟨hid ▸ hadded, spawn, List.mem_cons_self, hget⟩
        · obtain ⟨hnew, source, hs, hsource⟩ := hrest.referenced other ho
          exact ⟨fun hold => hnew (List.mem_cons_of_mem _ hold), source,
            List.mem_cons_of_mem _ hs, hsource⟩
      · refine List.nodup_cons.mpr ⟨?_, hrest.nodup⟩
        intro hmem
        obtain ⟨other, ho, heq⟩ := List.mem_map.mp hmem
        exact (hrest.referenced other ho).1 (heq.trans hid ▸ List.mem_cons_self)
      · intro other ho
        rcases List.mem_cons.mp ho with rfl | ho
        · exact .inr ⟨enemy, List.mem_cons_self, hget⟩
        rcases hrest.complete other ho with hold | ⟨found, hf, hfound⟩
        · rcases List.mem_cons.mp hold with heq | hold
          · exact .inr ⟨enemy, List.mem_cons_self, heq ▸ hget⟩
          · exact .inl hold
        · exact .inr ⟨found, List.mem_cons_of_mem _ hf, hfound⟩

/-- Sorted by a key that none shares with another, a list increases strictly. -/
theorem pairwise_lt_mergeSort {enemies : List DnfServer.EnemyTemplate}
    (h : (enemies.map (·.id)).Nodup) :
    (enemies.mergeSort fun left right => left.id ≤ right.id).Pairwise (·.id < ·.id) := by
  have hperm := List.mergeSort_perm enemies fun left right => decide (left.id ≤ right.id)
  have hle : (enemies.mergeSort fun left right => left.id ≤ right.id).Pairwise
      fun left right => decide (left.id ≤ right.id) = true := by
    apply List.pairwise_mergeSort
    · intro a b c hab hbc
      exact decide_eq_true (UInt32.le_trans (of_decide_eq_true hab) (of_decide_eq_true hbc))
    · intro a b
      simpa using UInt32.le_total a.id b.id
  have hne : (enemies.mergeSort fun left right => left.id ≤ right.id).Pairwise
      fun left right => left.id ≠ right.id := by
    have hids := (hperm.map DnfServer.EnemyTemplate.id).nodup_iff.mpr h
    exact List.pairwise_map.mp hids
  refine (hle.and hne).imp ?_
  intro left right hboth
  exact UInt32.lt_of_le_of_ne (of_decide_eq_true hboth.1) hboth.2

/-- The static data of a sound template with the enemies of its spawns. -/
theorem isValidStaticData_of_sound {enemyCatalog : EnemyCatalog} {template : DungeonTemplate}
    (h : Sound enemyCatalog template) {dungeonId : DungeonId} (hid : dungeonId ≠ 0)
    {enemies : List DnfServer.EnemyTemplate} (hvalid : ∀ enemy ∈ enemies, ValidEnemy enemy)
    (hnodup : (enemies.map (·.id)).Nodup)
    (hcollected : ∀ room ∈ template.rooms, ∀ spawn ∈ room.enemySpawns,
      ∃ enemy ∈ enemies, enemy.id = spawn.enemyTemplateId) :
    isValidStaticData .success dungeonId template.id (template.rooms.map ofRoom)
      (enemies.map ofEnemy) = true := by
  have henemies : addEach (·.id) isValidEnemy [] (enemies.map ofEnemy) =
      some (enemies.map ofEnemy).reverse := by
    refine addEach_nil_eq_some_iff.mpr ⟨?_, ?_, rfl⟩
    · intro enemy he
      obtain ⟨source, hs, rfl⟩ := List.mem_map.mp he
      exact isValidEnemy_ofEnemy (hvalid source hs)
    · rw [List.map_map]
      exact hnodup
  have hrooms : addEach (·.id) isValidRoom [] (template.rooms.map ofRoom) =
      some (template.rooms.map ofRoom).reverse := by
    refine addEach_nil_eq_some_iff.mpr ⟨?_, ?_, rfl⟩
    · intro room hr
      obtain ⟨source, hs, rfl⟩ := List.mem_map.mp hr
      exact isValidRoom_ofRoom (h.rooms source hs).1
    · rw [List.map_map]
      exact h.nodup
  have hcontents : ∀ room ∈ template.rooms, hasValidContents (enemies.map ofEnemy).reverse
      (template.rooms.map ofRoom).reverse (ofRoom room) = true := by
    intro room hr
    obtain ⟨hportalIds, hportals, hobstacleIds, hobstacles, hspawnIds, hspawns⟩ := (h.rooms room hr).2
    have hall {α β : Type} {key : α → UInt32} {key' : β → UInt32} {accept : β → Bool} {f : α → β}
        {entries : List α} (hkey : key' ∘ f = key) (hn : (entries.map key).Nodup)
        (haccept : ∀ entry ∈ entries, accept (f entry) = true) :
        (addEach key' accept [] (entries.map f)).isSome = true := by
      refine Option.isSome_iff_exists.mpr ⟨_, addEach_nil_eq_some_iff.mpr ⟨?_, ?_, rfl⟩⟩
      · exact List.forall_mem_map.mpr haccept
      · rw [List.map_map, hkey]
        exact hn
    simp only [hasValidContents, Bool.and_eq_true]
    refine ⟨⟨?_, ?_⟩, ?_⟩
    · exact hall rfl hportalIds fun portal hp => isValidPortal_ofPortal h.nodup (hportals portal hp)
    · exact hall rfl hobstacleIds fun obstacle ho => isValidObstacle_ofObstacle (hobstacles obstacle ho)
    · exact hall rfl hspawnIds fun spawn hs =>
        isValidSpawn_ofSpawn (hcollected room hr spawn hs) (hspawns spawn hs)
  have hcomplete : ¬ (dungeonId = 0 ∨ template.id = 0 ∨
      (template.rooms.map ofRoom).isEmpty = true) := by
    rw [List.isEmpty_iff, List.map_eq_nil_iff]
    exact fun hmissing => hmissing.elim hid fun hmissing => hmissing.elim h.id h.nonempty
  rw [isValidStaticData, if_neg (by simp), if_neg hcomplete, henemies, hrooms]
  simp only [Option.any_some, List.all_map, List.all_eq_true]
  exact hcontents

/-- What is collected for a sound template: the enemies of its spawns, in the order of their ids. -/
theorem dungeonStaticData_spec {enemyCatalog : EnemyCatalog} (hvalid : ValidEnemies enemyCatalog)
    {template : DungeonTemplate} (h : Sound enemyCatalog template) (dungeonId : DungeonId) :
    ∃ enemies : List DnfServer.EnemyTemplate,
      dungeonStaticData enemyCatalog dungeonId template = .ok
        { dungeonId, dungeonTemplateId := template.id, rooms := template.rooms
          enemyTemplates := enemies } ∧
      enemies.Pairwise (·.id < ·.id) ∧
      ∀ enemy, enemy ∈ enemies ↔ ∃ room ∈ template.rooms, ∃ spawn ∈ room.enemySpawns,
        enemyCatalog.getEnemy spawn.enemyTemplateId = some enemy := by
  have hspawns : ∀ spawn ∈ template.rooms.flatMap (·.enemySpawns),
      (enemyCatalog.getEnemy spawn.enemyTemplateId).isSome := by
    intro spawn hs
    obtain ⟨room, hr, hs⟩ := List.mem_flatMap.mp hs
    exact (h.supplied hr spawn hs).2
  obtain ⟨enemies, hok, -⟩ := Snapshots.collectEnemies_ok hspawns []
  have hcollected := collected_of_ok hvalid hok
  refine ⟨_, congrArg (Except.map _) hok, pairwise_lt_mergeSort hcollected.nodup, ?_⟩
  intro enemy
  rw [(List.mergeSort_perm enemies _).mem_iff]
  constructor
  · intro he
    obtain ⟨-, spawn, hs, hget⟩ := hcollected.referenced enemy he
    obtain ⟨room, hr, hs⟩ := List.mem_flatMap.mp hs
    exact ⟨room, hr, spawn, hs, hget⟩
  · rintro ⟨room, hr, spawn, hs, hget⟩
    rcases hcollected.complete spawn (List.mem_flatMap.mpr ⟨room, hr, hs⟩) with hadded | hfound
    · cases hadded
    · obtain ⟨other, ho, hother⟩ := hfound
      exact Option.some.inj (hget.symm.trans hother) ▸ ho

/-! ## Catalogs and dungeons over a run -/

/-- A template is listed under its own identifier. -/
def Listed (catalog : DungeonCatalog) (template : DungeonTemplate) : Prop :=
  catalog.getDungeon template.id = some template

/-- The catalogs hold what has passed their checks, and every live dungeon has its template from
them. -/
structure Stocked (w : Tick.Service) : Prop where
  enemies : ValidEnemies w.content.enemies
  templates : ∀ (id : DungeonTemplateId) (template : DungeonTemplate),
    w.content.dungeons.getDungeon id = some template → template.id = id
  dungeons : ∀ (d : DungeonId) (dungeon : DungeonInstance), w.manager.dungeons[d]? = some dungeon →
    Listed w.content.dungeons dungeon.dungeonTemplate

theorem listed_apply {content : Content} {template : DungeonTemplate}
    (h : Listed content.dungeons template) (op : ContentOp) :
    Listed (op.apply content).dungeons template := by
  cases op with
  | addEnemy enemy => exact h
  | addDungeon templateId name rooms recommended maximum =>
    rcases addDungeon_cases content.enemies templateId name rooms recommended maximum
      content.dungeons with he | ⟨added, hid, hnew, -, he⟩
    · simpa only [ContentOp.apply, he] using h
    · simp only [ContentOp.apply, he, Listed, DungeonCatalog.getDungeon] at h ⊢
      have hne : templateId ≠ template.id := fun heq => hnew (heq ▸ mem_of_entry h)
      rw [ExtTreeMap.getElem?_insert, if_neg (by simpa using hne)]
      exact h

theorem ids_apply {content : Content}
    (h : ∀ (id : DungeonTemplateId) (template : DungeonTemplate),
      content.dungeons.getDungeon id = some template → template.id = id) (op : ContentOp) :
    ∀ (id : DungeonTemplateId) (template : DungeonTemplate),
      (op.apply content).dungeons.getDungeon id = some template → template.id = id := by
  cases op with
  | addEnemy enemy => exact h
  | addDungeon templateId name rooms recommended maximum =>
    rcases addDungeon_cases content.enemies templateId name rooms recommended maximum
      content.dungeons with he | ⟨added, hid, hnew, -, he⟩
    · simpa only [ContentOp.apply, he] using h
    · simp only [ContentOp.apply, he, DungeonCatalog.getDungeon]
      exact forall_entries_insert h hid

section

variable {arithmetic : Arithmetic} {skillCatalog : SkillCatalog} {config : TickConfig} {parse : Parse}
  {w w' : Service} {step : ServiceStep}

/-- A created dungeon has the template of the catalog. -/
theorem listed_createDungeon (h : Stocked w) {parties : PartyManager} {partyId : PartyId}
    {templateId : DungeonTemplateId} {now : Int} {d : DungeonId} {dungeon : DungeonInstance}
    (hd : (w.manager.createDungeon parties w.content.dungeons partyId templateId now).2.dungeons[d]? =
      some dungeon) : Listed w.content.dungeons dungeon.dungeonTemplate := by
  rcases create_cases w.manager parties w.content.dungeons partyId templateId now with
    ⟨status, -, he⟩ | ⟨party, template, -, htemplate, he⟩ <;> rw [he] at hd
  · exact h.dungeons d dungeon hd
  rcases insert_cases w.manager partyId party template now with
    ⟨status, -, he⟩ | ⟨failure, he⟩ | ⟨built, created, -, hnew, hb, he⟩ <;> rw [he] at hd
  · exact h.dungeons d dungeon hd
  · exact h.dungeons d dungeon hd
  · simp only [ExtTreeMap.getElem?_insertIfNew] at hd
    split at hd
    · obtain rfl := Option.some.inj hd
      have hremains : Remains built created := hb ▸ .bindMembers _ _ built
      rw [hremains.dungeonTemplate, (created_new hnew).dungeonTemplate, Listed,
        h.templates templateId template htemplate]
      exact htemplate
    · exact h.dungeons d dungeon hd

theorem stocked_next (hg : Good config w) (h : Stocked w)
    (hn : w.next arithmetic skillCatalog config parse step = some w') : Stocked w' := by
  have hdungeons : ∀ (d : DungeonId) (dungeon : DungeonInstance),
      w'.manager.dungeons[d]? = some dungeon → Listed w.content.dungeons dungeon.dungeonTemplate := by
    intro d dungeon' hd
    by_cases hcreate : ∃ s parties partyId templateId now,
        step = .createDungeon s parties partyId templateId now
    · obtain ⟨s, parties, partyId, templateId, now, rfl⟩ := hcreate
      have hcall := (thread_history hn rfl).1
      have hmanager : w'.manager =
          (w.manager.createDungeon parties w.content.dungeons partyId templateId now).2 :=
        congrArg Manager.History.manager (Option.some.inj hcall).symm
      rw [hmanager] at hd
      exact listed_createDungeon h hd
    · have hm := moves_of_next hg hn
      have hissued := issued_of_service hn fun s parties partyId templateId now he =>
        hcreate ⟨s, parties, partyId, templateId, now, he⟩
      rcases stays_of_effect hg hm.effect hd with ⟨hnew, -⟩ | ⟨dungeon, hold, hstays⟩
      · exact absurd (hissued ▸ hm.indexed.index.live d (mem_of_entry hd)) hnew
      · have hsame : dungeon'.dungeonTemplate = dungeon.dungeonTemplate := by
          have hrunnable := hg.runnable d dungeon hold
          exact (hstays.steps.invariant (fun _ _ h hstep => h.step hstep) hrunnable).sameTemplate
        exact hsame ▸ h.dungeons d dungeon hold
  rcases content_of_next hn with he | ⟨op, he⟩
  · exact ⟨he ▸ h.enemies, he ▸ h.templates, he ▸ hdungeons⟩
  · refine ⟨?_, he ▸ ids_apply h.templates op, fun d dungeon hd => ?_⟩
    · rw [he]
      cases op with
      | addEnemy enemy => exact valid_addEnemy h.enemies enemy
      | addDungeon => exact h.enemies
    · rw [he]
      exact listed_apply (hdungeons d dungeon hd) op

theorem stocked_of_run (h : Reachable (Service.next arithmetic skillCatalog config parse) {} w) :
    Stocked w := by
  have hboth : Good config w ∧ Stocked w := by
    refine reachable_invariant (fun w => Good config w ∧ Stocked w) ?_ ⟨good_start, ?_⟩ h
    · intro w step w' hw hn
      exact ⟨good_next hw.1 hn, stocked_next hw.1 hw.2 hn⟩
    · exact ⟨fun id enemy he => by simp [EnemyCatalog.getEnemy] at he,
        fun id template ht => by simp [DungeonCatalog.getDungeon] at ht,
        fun d dungeon hd => by simp [Service.manager] at hd⟩
  exact hboth.2

/-- Every participant of a live dungeon is answered with valid static data: the rooms of the
template and each enemy that one of their spawns refers to, once and in the order of the ids. -/
theorem staticData_of_run (h : Reachable (Service.next arithmetic skillCatalog config parse) {} w)
    {d : DungeonId} {dungeon : DungeonInstance} (hd : w.manager.dungeons[d]? = some dungeon)
    {s : SessionId} (hs : s ∈ dungeon.participants) :
    ∃ enemies : List DnfServer.EnemyTemplate,
      DungeonDataRequestHandler.handleDungeonStaticDataRequest s d w.manager w.content.enemies
          w.content.dungeons = .ok
        { result := .success
          dungeonId := d
          dungeonTemplateId := dungeon.dungeonTemplate.id
          rooms := dungeon.dungeonTemplate.rooms.map ofRoom
          enemyTemplates := enemies.map ofEnemy } ∧
      isValidStaticData .success d dungeon.dungeonTemplate.id
        (dungeon.dungeonTemplate.rooms.map ofRoom) (enemies.map ofEnemy) = true ∧
      (∀ enemy, enemy ∈ enemies ↔ ∃ room ∈ dungeon.dungeonTemplate.rooms,
        ∃ spawn ∈ room.enemySpawns,
          w.content.enemies.getEnemy spawn.enemyTemplateId = some enemy) ∧
      enemies.Pairwise (·.id < ·.id) := by
  have hg := good_of_run h
  have hstocked := stocked_of_run h
  have hsound : Sound w.content.enemies dungeon.dungeonTemplate := (hg.runnable d dungeon hd).sound
  obtain ⟨enemies, hdata, hsorted, hmem⟩ := dungeonStaticData_spec hstocked.enemies hsound d
  have hvalid : isValidStaticData .success d dungeon.dungeonTemplate.id
      (dungeon.dungeonTemplate.rooms.map ofRoom) (enemies.map ofEnemy) = true := by
    refine isValidStaticData_of_sound hsound ?_ ?_ ?_ ?_
    · rintro rfl
      exact hg.indexed.index.nonzero (hg.indexed.index.live 0 (mem_of_entry hd))
    · intro enemy he
      obtain ⟨room, -, spawn, -, hget⟩ := (hmem enemy).mp he
      exact (hstocked.enemies _ enemy hget).2
    · refine List.pairwise_map.mpr (hsorted.imp ?_)
      exact fun hlt heq => UInt32.lt_irrefl _ (heq ▸ hlt)
    · intro room hr spawn hsp
      obtain ⟨enemy, hget⟩ := Option.isSome_iff_exists.mp (hsound.supplied hr spawn hsp).2
      exact ⟨enemy, (hmem enemy).mpr ⟨room, hr, spawn, hsp, hget⟩,
        (hstocked.enemies _ enemy hget).1⟩
  refine ⟨enemies, ?_, hvalid, hmem, hsorted⟩
  have hparticipant : dungeon.hasParticipant s = true := by
    have hplayer := ((hg.indexed.index.consistent d dungeon hd).listed s).mp hs
    simpa [DungeonInstance.hasParticipant] using hplayer
  have hlisted : w.content.dungeons.getDungeon dungeon.dungeonTemplate.id =
      some dungeon.dungeonTemplate := hstocked.dungeons d dungeon hd
  simp only [DungeonDataRequestHandler.handleDungeonStaticDataRequest, DungeonManager.findDungeon, hd,
    hparticipant, hlisted, hdata]
  simp [bind, Except.bind, encodeResponse, hvalid]

end

/-- A party of one waits in a crypt where bats and a ghoul lie in several rooms. -/
def cryptSteps : List ServiceStep :=
  let box : DnfServer.CollisionBox := ⟨{}, { x := 1, y := 1, z := 1 }⟩
  let bat : DnfServer.EnemyTemplate :=
    { id := 9, name := "Bat", maxHp := 5, moveSpeed := 2, aiType := .ranged, collision := box }
  let ghoul : DnfServer.EnemyTemplate :=
    { id := 7, name := "Ghoul", maxHp := 30, moveSpeed := 1, aiType := .melee, collision := box }
  let nave : DnfServer.RoomTemplate :=
    { id := 1, width := 10, depth := 10, playerSpawn := {}
      enemySpawns := [⟨1, 9, { x := 2 }, 1⟩, ⟨2, 9, { x := 3 }, 1⟩] }
  let vault : DnfServer.RoomTemplate :=
    { id := 2, width := 10, depth := 10, playerSpawn := {}
      enemySpawns := [⟨1, 7, { y := 2 }, 1⟩, ⟨2, 9, { y := 3 }, 2⟩] }
  [.addContent (.addEnemy bat), .addContent (.addEnemy ghoul),
    .addContent (.addDungeon 1 "Crypt" [nave, vault] 1 4),
    .createDungeon 100 (PartyManager.createParty 100 {}).2 1 1 0]

theorem staticData_of_run_crypt :
    ∃ (w : Service) (dungeon : DungeonInstance) (enemies : List DnfServer.EnemyTemplate),
      run hallNext {} cryptSteps = some w ∧ w.manager.dungeons[1]? = some dungeon ∧
      DungeonDataRequestHandler.handleDungeonStaticDataRequest 100 1 w.manager w.content.enemies
          w.content.dungeons = .ok
        { result := .success
          dungeonId := 1
          dungeonTemplateId := dungeon.dungeonTemplate.id
          rooms := dungeon.dungeonTemplate.rooms.map ofRoom
          enemyTemplates := enemies.map ofEnemy } ∧
      enemies.Pairwise (·.id < ·.id) := by
  have hjoined : ((run hallNext {} cryptSteps).bind fun w =>
      (w.manager.dungeons[1]?).map fun dungeon => dungeon.participants) = some [100] := by
    decide +kernel
  obtain ⟨w, hr, hjoined⟩ := Option.bind_eq_some_iff.mp hjoined
  obtain ⟨dungeon, hd, hparticipants⟩ := Option.map_eq_some_iff.mp hjoined
  have hs : 100 ∈ dungeon.participants := hparticipants ▸ List.mem_singleton_self 100
  obtain ⟨enemies, hanswer, -, -, hsorted⟩ := staticData_of_run ⟨cryptSteps, hr⟩ hd hs
  exact ⟨w, dungeon, enemies, hr, hd, hanswer, hsorted⟩

end DnfServer.StaticData
