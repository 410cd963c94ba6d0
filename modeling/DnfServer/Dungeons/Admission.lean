import DnfServer.Dungeons.Waves
import DnfServer.Model.Catalog

/-!
# What admission promises

The checks of `AddDungeon`, taken over a whole template (`Sound`). An entry of a catalog is never
changed or taken out, so a template stays sound while enemies and dungeons are added.
-/

namespace DnfServer.Dungeons

open Std DnfServer.Library
set_option autoImplicit false

/-- The checks that `AddDungeon` makes of a template. -/
structure Sound (enemyCatalog : EnemyCatalog) (template : DungeonTemplate) : Prop where
  id : template.id ≠ 0
  nonempty : template.rooms ≠ []
  nodup : (template.rooms.map (·.id)).Nodup
  rooms : ∀ room ∈ template.rooms, DungeonCatalog.isValidRoom room = true ∧
    DungeonCatalog.hasValidContents enemyCatalog template.rooms room

/-- An admitted template is sound, and any other call leaves the catalog alone. -/
theorem addDungeon_cases (enemyCatalog : EnemyCatalog) (templateId : DungeonTemplateId) (name : String)
    (rooms : List RoomTemplate) (recommendedPartySize maxPartySize : UInt8) (catalog : DungeonCatalog) :
    catalog.addDungeon enemyCatalog templateId name rooms recommendedPartySize maxPartySize =
        (false, catalog) ∨
      ∃ template : DungeonTemplate, template.id = templateId ∧ templateId ∉ catalog.dungeons ∧
        Sound enemyCatalog template ∧
        catalog.addDungeon enemyCatalog templateId name rooms recommendedPartySize maxPartySize =
          (true, { dungeons := catalog.dungeons.insert templateId template }) := by
  unfold DungeonCatalog.addDungeon
  split
  · exact .inl rfl
  rename_i hheader
  split
  · exact .inl rfl
  rename_i hrooms
  split
  · exact .inl rfl
  rename_i hcontents
  simp only [not_or] at hheader
  simp only [not_not] at hrooms hcontents
  have hnew : templateId ∉ catalog.dungeons := hheader.2.2.2.2.2.2.2
  refine .inr ⟨{ id := templateId, name, rooms, recommendedPartySize, maxPartySize }, rfl, hnew,
    ⟨hheader.1, hheader.2.2.1, hrooms.1, fun room hr => ⟨hrooms.2 room hr, hcontents room hr⟩⟩, ?_⟩
  refine congrArg (fun dungeons => (true, ({ dungeons } : DungeonCatalog))) ?_
  refine ExtTreeMap.ext_getElem? fun k => ?_
  grind

/-- A template that `AddDungeon` has put into its catalog. -/
def Admitted (enemyCatalog : EnemyCatalog) (template : DungeonTemplate) : Prop :=
  ∃ (catalog : DungeonCatalog) (templateId : DungeonTemplateId) (name : String)
    (rooms : List RoomTemplate) (recommendedPartySize maxPartySize : UInt8),
    (catalog.addDungeon enemyCatalog templateId name rooms recommendedPartySize maxPartySize).1 = true ∧
      (catalog.addDungeon enemyCatalog templateId name rooms recommendedPartySize
        maxPartySize).2.getDungeon templateId = some template

theorem Admitted.sound {enemyCatalog : EnemyCatalog} {template : DungeonTemplate}
    (h : Admitted enemyCatalog template) : Sound enemyCatalog template := by
  obtain ⟨catalog, templateId, name, rooms, recommended, maximum, hadd, hget⟩ := h
  rcases addDungeon_cases enemyCatalog templateId name rooms recommended maximum catalog with
    he | ⟨added, -, -, hsound, he⟩
  · simp [he] at hadd
  · rw [he] at hget
    obtain rfl : added = template := by simpa [DungeonCatalog.getDungeon] using hget
    exact hsound

theorem Sound.supplied {enemyCatalog : EnemyCatalog} {template : DungeonTemplate}
    (h : Sound enemyCatalog template) {roomTemplate : RoomTemplate}
    (hr : roomTemplate ∈ template.rooms) : Supplied enemyCatalog roomTemplate := by
  intro spawn hs
  obtain ⟨-, -, -, -, -, hspawns⟩ := (h.rooms roomTemplate hr).2
  have hspawn := hspawns spawn hs
  simp only [DungeonCatalog.isValidSpawn, Bool.and_eq_true, bne_iff_ne] at hspawn
  exact ⟨hspawn.2, hspawn.1.1.1.2⟩

/-! ## The catalogs over time -/

/-- An enemy catalog with at least the enemies of another. -/
def Extends (catalog catalog' : EnemyCatalog) : Prop :=
  ∀ (id : EnemyTemplateId) (enemy : EnemyTemplate), catalog.getEnemy id = some enemy →
    catalog'.getEnemy id = some enemy

theorem extends_addEnemy (enemy : EnemyTemplate) (catalog : EnemyCatalog) :
    Extends catalog (catalog.addEnemy enemy).2 := by
  unfold EnemyCatalog.addEnemy
  split
  · exact fun _ _ => id
  · intro id other hother
    simp only [EnemyCatalog.getEnemy] at hother ⊢
    grind

theorem Sound.mono {catalog catalog' : EnemyCatalog} {template : DungeonTemplate}
    (h : Sound catalog template) (he : Extends catalog catalog') : Sound catalog' template := by
  refine { h with rooms := ?_ }
  intro room hr
  obtain ⟨hroom, hportalIds, hportals, hobstacleIds, hobstacles, hspawnIds, hspawns⟩ := h.rooms room hr
  refine ⟨hroom, hportalIds, hportals, hobstacleIds, hobstacles, hspawnIds, ?_⟩
  intro spawn hs
  have hspawn := hspawns spawn hs
  simp only [DungeonCatalog.isValidSpawn, Bool.and_eq_true] at hspawn ⊢
  obtain ⟨enemy, henemy⟩ := Option.isSome_iff_exists.mp hspawn.1.1.1.2
  exact ⟨⟨⟨⟨hspawn.1.1.1.1, Option.isSome_iff_exists.mpr ⟨enemy, he _ _ henemy⟩⟩, hspawn.1.1.2⟩,
    hspawn.1.2⟩, hspawn.2⟩

/-- The two catalogs of the server. -/
structure Content where
  enemies : EnemyCatalog := {}
  dungeons : DungeonCatalog := {}

inductive ContentOp where
  | addEnemy (enemy : EnemyTemplate)
  | addDungeon (templateId : DungeonTemplateId) (name : String) (rooms : List RoomTemplate)
      (recommendedPartySize maxPartySize : UInt8)

def ContentOp.apply (content : Content) : ContentOp → Content
  | .addEnemy enemy => { content with enemies := (content.enemies.addEnemy enemy).2 }
  | .addDungeon templateId name rooms recommendedPartySize maxPartySize => { content with
      dungeons := (content.dungeons.addDungeon content.enemies templateId name rooms
        recommendedPartySize maxPartySize).2 }

def ContentOp.next (content : Content) (op : ContentOp) : Option Content := some (op.apply content)

/-- Every template of the catalog is sound. -/
def Content.Sound (content : Content) : Prop :=
  ∀ (id : DungeonTemplateId) (template : DungeonTemplate),
    content.dungeons.getDungeon id = some template → Dungeons.Sound content.enemies template

theorem extends_apply (op : ContentOp) (content : Content) :
    Extends content.enemies (op.apply content).enemies := by
  cases op with
  | addEnemy enemy => exact extends_addEnemy enemy content.enemies
  | addDungeon => exact fun _ _ => id

theorem Content.Sound.apply {content : Content} (h : content.Sound) (op : ContentOp) :
    (op.apply content).Sound := by
  cases op with
  | addEnemy enemy => exact fun id template ht => (h id template ht).mono (extends_addEnemy enemy _)
  | addDungeon templateId name rooms recommended maximum =>
    intro id template ht
    simp only [ContentOp.apply] at ht ⊢
    rcases addDungeon_cases content.enemies templateId name rooms recommended maximum
      content.dungeons with he | ⟨added, -, -, hsound, he⟩
    · exact h id template (by simpa [he] using ht)
    · simp only [he, DungeonCatalog.getDungeon] at ht
      by_cases hid : templateId = id
      · obtain rfl : added = template := by grind
        exact hsound
      · exact h id template (by simp only [DungeonCatalog.getDungeon]; grind)

theorem sound_of_run {content : Content} (h : Reachable ContentOp.next {} content) :
    content.Sound := by
  refine reachable_invariant Content.Sound ?_ ?_ h
  · intro before op after hb hn
    obtain rfl := Option.some.inj hn
    exact hb.apply op
  · intro id template ht
    simp [DungeonCatalog.getDungeon] at ht

/-! ## Enemies -/

/-- The checks that `AddEnemy` makes. -/
structure ValidEnemy (enemy : EnemyTemplate) : Prop where
  id : enemy.id ≠ 0
  name : enemy.name.isEmpty = false
  maxHp : enemy.maxHp ≠ 0
  moveSpeed : 0 ≤ enemy.moveSpeed
  collision : isValidCollisionBox enemy.collision = true
  height : 0 ≤ enemy.collision.minimum.z

/-- Every enemy is listed under its own identifier and has passed the checks. -/
def ValidEnemies (catalog : EnemyCatalog) : Prop :=
  ∀ (id : EnemyTemplateId) (enemy : EnemyTemplate), catalog.getEnemy id = some enemy →
    enemy.id = id ∧ ValidEnemy enemy

theorem valid_addEnemy {catalog : EnemyCatalog} (h : ValidEnemies catalog) (enemy : EnemyTemplate) :
    ValidEnemies (catalog.addEnemy enemy).2 := by
  unfold EnemyCatalog.addEnemy
  split
  · exact h
  rename_i hchecks
  simp only [not_or, Bool.not_eq_true, Bool.not_eq_false, Rat.not_lt] at hchecks
  obtain ⟨hid, hname, hhp, hspeed, hbox, hheight, hnew⟩ := hchecks
  intro id other ho
  simp only [EnemyCatalog.getEnemy] at ho
  by_cases heq : enemy.id = id
  · obtain rfl : enemy = other := by grind
    exact ⟨heq, hid, hname, hhp, hspeed, hbox, hheight⟩
  · exact h id other (by simp only [EnemyCatalog.getEnemy]; grind)

theorem validEnemies_of_run {content : Content} (h : Reachable ContentOp.next {} content) :
    ValidEnemies content.enemies := by
  refine reachable_invariant (fun content : Content => ValidEnemies content.enemies) ?_ ?_ h
  · intro before op after hb hn
    obtain rfl := Option.some.inj hn
    cases op with
    | addEnemy enemy => exact valid_addEnemy hb enemy
    | addDungeon => exact hb
  · intro id enemy he
    simp [EnemyCatalog.getEnemy] at he

end DnfServer.Dungeons
