import DnfServer.Dungeons.Admission
import DnfServer.Model.GameData
import DnfServer.Parties.Channels

/-!
# What a load leaves in the catalogs

A load fills the catalogs by their own operations only, also one that stops at an error. So the content
that dungeons are made from, and the channels, are such as these operations can leave. After a load that
succeeds no catalog is empty, and every file has the content version of the result. The number of players of
a channel is read as it is, so a directory can be loaded whose channels the server cannot list.
-/

namespace DnfServer.GameDataLoader

open Std DnfServer.Library DnfServer.Dungeons
set_option autoImplicit false

/-! ## Filled catalogs -/

def content (loader : GameDataLoader) : Content where
  enemies := loader.enemyCatalog
  dungeons := loader.dungeonCatalog

/-- The checks that `AddSkill` makes. -/
structure ValidSkill (skill : GameData.SkillTemplate) : Prop where
  id : skill.id ≠ 0
  name : skill.name.isEmpty = false
  activeTicks : skill.activeTicks ≠ 0
  hitBox : GameData.isValidHitBox skill.hitBox = true
  effects : skill.effects ≠ []
  effect : ∀ effect ∈ skill.effects, GameData.isValidEffect effect = true

/-- The catalogs come from their operations, and the result counts their entries. -/
structure Filled (loader : GameDataLoader) : Prop where
  channels : Reachable Parties.next {} loader.channelManager
  joined : loader.channelManager.joinedChannels = ∅
  skills : ∀ (id : SkillId) (skill : GameData.SkillTemplate),
    loader.skillCatalog.getSkill id = some skill → skill.id = id ∧ ValidSkill skill
  content : Reachable ContentOp.next {} loader.content
  channelCount : loader.result.channelCount = loader.channelManager.channels.size
  skillCount : loader.result.skillCount = loader.skillCatalog.skills.size
  enemyCount : loader.result.enemyCount = loader.enemyCatalog.enemies.size
  dungeonCount : loader.result.dungeonCount = loader.dungeonCatalog.dungeons.size

theorem filled_empty : Filled {} where
  channels := ⟨[], rfl⟩
  joined := rfl
  skills id skill h := by
    rw [GameData.SkillCatalog.getSkill, ExtTreeMap.getElem?_empty] at h
    cases h
  content := ⟨[], rfl⟩
  channelCount := ExtTreeMap.size_empty.symm
  skillCount := ExtTreeMap.size_empty.symm
  enemyCount := ExtTreeMap.size_empty.symm
  dungeonCount := ExtTreeMap.size_empty.symm

theorem Filled.withVersion {loader : GameDataLoader} (h : Filled loader) (version : UInt32) :
    Filled (loader.withVersion version) :=
  { h with }

theorem Filled.tallied {loader : GameDataLoader} (h : Filled loader) :
    Parties.Tallied loader.channelManager := by
  obtain ⟨calls, hrun⟩ := h.channels
  exact (Parties.tallied_of_run Parties.tallied_empty hrun).1

/-! ## Parts of a load -/

/-- The version once accepted stays, and the counts never go down. -/
structure Grows (before after : GameDataLoadResult) : Prop where
  version : before.contentVersion ≠ 0 → after.contentVersion = before.contentVersion
  channelCount : before.channelCount ≤ after.channelCount
  skillCount : before.skillCount ≤ after.skillCount
  enemyCount : before.enemyCount ≤ after.enemyCount
  dungeonCount : before.dungeonCount ≤ after.dungeonCount

theorem Grows.refl (result : GameDataLoadResult) : Grows result result :=
  ⟨fun _ => rfl, Nat.le_refl _, Nat.le_refl _, Nat.le_refl _, Nat.le_refl _⟩

theorem Grows.trans {first second third : GameDataLoadResult} (h : Grows first second)
    (h' : Grows second third) : Grows first third where
  version hv := by
    have hsecond := h.version hv
    rw [h'.version (hsecond ▸ hv), hsecond]
  channelCount := Nat.le_trans h.channelCount h'.channelCount
  skillCount := Nat.le_trans h.skillCount h'.skillCount
  enemyCount := Nat.le_trans h.enemyCount h'.enemyCount
  dungeonCount := Nat.le_trans h.dungeonCount h'.dungeonCount

variable (translator : Translator) (files : GameDataFiles)

/-- The file is there and is parsed, and its content version is the given one. -/
def ReadsVersion (version : UInt32) (path : String) : Prop :=
  ∃ tree, readJsonFile files path = .ok tree ∧ readContentVersion translator tree path = .ok version

/-- A part of a load that reads the files of some paths and, when it succeeds, raises some counts. -/
structure Part (paths : List String) (counts : List (GameDataLoadResult → Nat))
    (part : GameDataLoader → Except Failure Unit × GameDataLoader) : Prop where
  filled : ∀ loader, Filled loader → Filled (part loader).2
  grows : ∀ loader, Grows loader.result (part loader).2.result
  versions : ∀ loader, (part loader).1 = .ok () → ∀ path ∈ paths,
    (part loader).2.result.contentVersion ≠ 0 ∧
      ReadsVersion translator files (part loader).2.result.contentVersion path
  raises : ∀ loader, (part loader).1 = .ok () → ∀ count ∈ counts,
    count loader.result < count (part loader).2.result

/-- One of the four counts. -/
def Counts (count : GameDataLoadResult → Nat) : Prop :=
  ∀ before after, Grows before after → count before ≤ count after

variable {translator files}
variable {paths paths' : List String} {counts counts' : List (GameDataLoadResult → Nat)}
  {part next : GameDataLoader → Except Failure Unit × GameDataLoader}

theorem andThen_cases (next : GameDataLoader → Except Failure Unit × GameDataLoader)
    (outcome : Except Failure Unit × GameDataLoader) :
    outcome.1 = .ok () ∧ GameDataLoader.andThen next outcome = next outcome.2 ∨
      outcome.1 ≠ .ok () ∧ GameDataLoader.andThen next outcome = outcome := by
  obtain ⟨result, loader⟩ := outcome
  cases result with
  | error failure => exact .inr ⟨fun hok => (by cases hok), rfl⟩
  | ok => exact .inl ⟨rfl, rfl⟩

/-- What the first part has accepted is still there after the second, since versions and counts stay. -/
theorem Part.andThen (hpart : Part translator files paths counts part)
    (hnext : Part translator files paths' counts' next)
    (hcounts : ∀ count ∈ counts, Counts count) (hcounts' : ∀ count ∈ counts', Counts count) :
    Part translator files (paths ++ paths') (counts ++ counts')
      fun loader => GameDataLoader.andThen next (part loader) := by
  constructor
  · intro loader hfilled
    have hfirst := hpart.filled loader hfilled
    rcases andThen_cases next (part loader) with ⟨-, hgoes⟩ | ⟨-, hstops⟩
    · rw [hgoes]
      exact hnext.filled _ hfirst
    · rw [hstops]
      exact hfirst
  · intro loader
    have hfirst := hpart.grows loader
    rcases andThen_cases next (part loader) with ⟨-, hgoes⟩ | ⟨-, hstops⟩
    · rw [hgoes]
      exact hfirst.trans (hnext.grows _)
    · rw [hstops]
      exact hfirst
  · intro loader hok path hpath
    rcases andThen_cases next (part loader) with ⟨hfirst, hgoes⟩ | ⟨hfailed, hstops⟩
    · rw [hgoes] at hok ⊢
      rcases List.mem_append.mp hpath with hpath | hpath
      · obtain ⟨hversion, hreads⟩ := hpart.versions loader hfirst path hpath
        rw [(hnext.grows (part loader).2).version hversion]
        exact ⟨hversion, hreads⟩
      · exact hnext.versions _ hok path hpath
    · rw [hstops] at hok
      exact absurd hok hfailed
  · intro loader hok count hcount
    rcases andThen_cases next (part loader) with ⟨hfirst, hgoes⟩ | ⟨hfailed, hstops⟩
    · rw [hgoes] at hok ⊢
      rcases List.mem_append.mp hcount with hcount | hcount
      · exact Nat.lt_of_lt_of_le (hpart.raises loader hfirst count hcount)
          (hcounts count hcount _ _ (hnext.grows _))
      · exact Nat.lt_of_le_of_lt (hcounts' count hcount _ _ (hpart.grows loader))
          (hnext.raises _ hok count hcount)
    · rw [hstops] at hok
      exact absurd hok hfailed

/-! ## Files -/

variable {path : String} {loader : GameDataLoader} {tree : Ptree} {version : UInt32}

theorem readContentVersion_ne (h : readContentVersion translator tree path = .ok version) : version ≠ 0 := by
  unfold readContentVersion at h
  cases hread : requireValue translator.uint32 tree "contentVersion" path with
  | error failure =>
    rw [hread] at h
    cases h
  | ok candidate =>
    simp only [hread, bind, Except.bind] at h
    split at h
    · cases h
    · rename_i hne
      obtain rfl := Except.ok.inj h
      exact hne

/-- A file that is opened has the version that was accepted before it, if there was one. -/
theorem openFile_ok (h : openFile translator files path loader = .ok (tree, version)) :
    version ≠ 0 ∧ ReadsVersion translator files version path ∧
      (loader.result.contentVersion ≠ 0 → version = loader.result.contentVersion) := by
  unfold openFile at h
  cases htree : readJsonFile files path with
  | error failure =>
    rw [htree] at h
    cases h
  | ok opened =>
    cases hread : readContentVersion translator opened path with
    | error failure =>
      simp only [htree, hread, bind, Except.bind] at h
      cases h
    | ok candidate =>
      simp only [htree, hread, bind, Except.bind] at h
      unfold acceptContentVersion at h
      split at h
      · cases h
      rename_i accepted haccepted
      obtain ⟨rfl, rfl⟩ := Prod.mk.inj (Except.ok.inj h)
      split at haccepted
      · rename_i hnone
        obtain rfl := Except.ok.inj haccepted
        exact ⟨readContentVersion_ne hread, ⟨opened, htree, hread⟩, fun hsome => absurd hnone hsome⟩
      · split at haccepted
        · cases haccepted
        · rename_i hsame
          obtain rfl := Except.ok.inj haccepted
          rw [not_not.mp hsame] at hread
          exact ⟨readContentVersion_ne hread, ⟨opened, htree, hread⟩, fun _ => rfl⟩

theorem grows_withVersion (h : loader.result.contentVersion ≠ 0 → version = loader.result.contentVersion) :
    Grows loader.result (loader.withVersion version).result :=
  ⟨h, Nat.le_refl _, Nat.le_refl _, Nat.le_refl _, Nat.le_refl _⟩

/-! ## Collections -/

variable {Item : Type} {collection : Collection Item} {count : GameDataLoadResult → Nat}

/-- One more entry in a catalog, which `count` counts. -/
structure Raised (count : GameDataLoadResult → Nat) (before after : GameDataLoader) : Prop where
  filled : Filled before → Filled after
  version : after.result.contentVersion = before.result.contentVersion
  grows : Grows before.result after.result
  raises : count before.result < count after.result

/-- An item is refused without a change, or it is one more entry. -/
structure Adds (collection : Collection Item) (count : GameDataLoadResult → Nat) : Prop where
  counts : Counts count
  withVersion : ∀ (result : GameDataLoadResult) version,
    count { result with contentVersion := version } = count result
  add : ∀ item loader, collection.add item loader = (false, loader) ∨
    ∃ after, collection.add item loader = (true, after) ∧ Raised count loader after

/-- The loop over the items, whatever items it still has to add. -/
structure Added (count : GameDataLoadResult → Nat) (nodes : List (String × Ptree)) (before : GameDataLoader)
    (after : Except Failure Unit × GameDataLoader) : Prop where
  filled : Filled before → Filled after.2
  version : after.2.result.contentVersion = before.result.contentVersion
  grows : Grows before.result after.2.result
  raises : after.1 = .ok () → nodes ≠ [] → count before.result < count after.2.result

theorem Adds.addItems (h : Adds collection count) (path : String) (nodes : List (String × Ptree)) :
    ∀ (index : Nat) (loader : GameDataLoader),
      Added count nodes loader (addItems collection path index nodes loader) := by
  induction nodes with
  | nil => exact fun index loader => ⟨id, rfl, .refl _, fun _ hne => absurd rfl hne⟩
  | cons entry nodes ih =>
    intro index loader
    have hstopped (failure : Failure) : Added count (entry :: nodes) loader (.error failure, loader) :=
      ⟨id, rfl, .refl _, fun hok => by cases hok⟩
    obtain ⟨field, node⟩ := entry
    unfold GameDataLoader.addItems
    split
    · exact hstopped _
    rename_i item hread
    rcases h.add item loader with hrefused | ⟨after, hadd, hraised⟩
    · rw [hrefused]
      exact hstopped _
    · rw [hadd]
      have hrest := ih (index + 1) after
      exact ⟨fun hf => hrest.filled (hraised.filled hf), hrest.version.trans hraised.version,
        hraised.grows.trans hrest.grows,
        fun _ _ => Nat.lt_of_lt_of_le hraised.raises (h.counts _ _ hrest.grows)⟩

/-- A part that opens a file first and leaves the version alone after that. -/
structure Reads (counts : List (GameDataLoadResult → Nat)) (before : GameDataLoader) (version : UInt32)
    (after : Except Failure Unit × GameDataLoader) : Prop where
  filled : Filled before → Filled after.2
  accepted : after.2.result.contentVersion = version
  grows : Grows (before.withVersion version).result after.2.result
  raises : after.1 = .ok () → ∀ count ∈ counts, count before.result < count after.2.result

theorem part_of_reads (hfailed : ∀ loader failure, openFile translator files path loader = .error failure →
      part loader = (.error failure, loader))
    (hopened : ∀ loader tree version, openFile translator files path loader = .ok (tree, version) →
      Reads counts loader version (part loader)) :
    Part translator files [path] counts part := by
  constructor
  · intro loader hfilled
    cases hopen : openFile translator files path loader with
    | error failure => rwa [hfailed loader failure hopen]
    | ok opened => exact (hopened loader opened.1 opened.2 hopen).filled hfilled
  · intro loader
    cases hopen : openFile translator files path loader with
    | error failure =>
      rw [hfailed loader failure hopen]
      exact .refl _
    | ok opened =>
      exact (grows_withVersion (openFile_ok hopen).2.2).trans (hopened loader opened.1 opened.2 hopen).grows
  · intro loader hok path' hpath
    obtain rfl := List.mem_singleton.mp hpath
    cases hopen : openFile translator files path' loader with
    | error failure =>
      rw [hfailed loader failure hopen] at hok
      cases hok
    | ok opened =>
      obtain ⟨hversion, hreads, -⟩ := openFile_ok hopen
      rw [(hopened loader opened.1 opened.2 hopen).accepted]
      exact ⟨hversion, hreads⟩
  · intro loader hok
    cases hopen : openFile translator files path loader with
    | error failure =>
      rw [hfailed loader failure hopen] at hok
      cases hok
    | ok opened => exact (hopened loader opened.1 opened.2 hopen).raises hok

theorem Adds.loadCollection (h : Adds collection count) (path : String) :
    Part translator files [path] [count] (loadCollection translator collection files path) := by
  apply part_of_reads
  · intro loader failure hopen
    unfold GameDataLoader.loadCollection
    rw [hopen]
  · intro loader tree version hopen
    have hstopped (failure : Failure) :
        Reads [count] loader version (.error failure, loader.withVersion version) :=
      ⟨fun hf => hf.withVersion version, rfl, .refl _, fun hok => by cases hok⟩
    unfold GameDataLoader.loadCollection
    simp only [hopen]
    split
    · exact hstopped _
    rename_i items hitems
    split
    · exact hstopped _
    have hadded := h.addItems path items.children 0 (loader.withVersion version)
    split
    · rename_i failure after hadd
      rw [hadd] at hadded
      exact ⟨fun hf => hadded.filled (hf.withVersion version), hadded.version, hadded.grows,
        fun hok => by cases hok⟩
    rename_i after hadd
    rw [hadd] at hadded
    split
    · exact ⟨fun hf => hadded.filled (hf.withVersion version), hadded.version, hadded.grows,
        fun hok => by cases hok⟩
    · rename_i hitem
      refine ⟨fun hf => hadded.filled (hf.withVersion version), hadded.version, hadded.grows, ?_⟩
      intro _ count' hcount
      obtain rfl := List.mem_singleton.mp hcount
      have hraises := hadded.raises rfl fun hnil => hitem (List.isEmpty_iff.mpr hnil)
      rwa [GameDataLoader.withVersion, h.withVersion] at hraises

/-! ## The four catalogs -/

theorem addChannel_cases (channelId : ChannelId) (name : String) (maxPlayers : Nat) (manager : ChannelManager) :
    manager.addChannel channelId name maxPlayers = (false, manager) ∨
      channelId ∉ manager.channels ∧ manager.addChannel channelId name maxPlayers = (true, { manager with
        channels := manager.channels.insertIfNew channelId { id := channelId, name, maxPlayers } }) := by
  unfold ChannelManager.addChannel
  split
  · exact .inl rfl
  · rename_i hvalid
    simp only [not_or] at hvalid
    exact .inr ⟨hvalid.2.2.2, rfl⟩

theorem adds_channels : Adds (channels translator) (·.channelCount) := by
  refine ⟨fun _ _ h => h.channelCount, fun _ _ => rfl, ?_⟩
  intro channel loader
  rcases addChannel_cases channel.id channel.name channel.maxPlayers loader.channelManager with
    hadd | ⟨hnew, hadd⟩
  · refine .inl ?_
    simp only [channels, hadd]
  · let channelManager := (loader.channelManager.addChannel channel.id channel.name channel.maxPlayers).2
    refine .inr ⟨{ loader with
      channelManager, result := { loader.result with channelCount := loader.result.channelCount + 1 } },
      by simp only [channels, channelManager, hadd], ?_, rfl, ?_, Nat.lt_succ_self _⟩
    · intro h
      refine { h with channels := ?_, joined := ?_, channelCount := ?_ }
      · obtain ⟨calls, hrun⟩ := h.channels
        exact ⟨calls ++ [.addChannel channel.id channel.name channel.maxPlayers],
          run_append.mpr ⟨_, hrun, rfl⟩⟩
      · simp only [channelManager, hadd, h.joined]
      · simp only [channelManager, hadd]
        rw [ExtTreeMap.size_insertIfNew, if_neg hnew, h.channelCount]
    · exact ⟨fun _ => rfl, Nat.le_succ _, Nat.le_refl _, Nat.le_refl _, Nat.le_refl _⟩

theorem addSkill_cases (skill : GameData.SkillTemplate) (catalog : GameData.SkillCatalog) :
    catalog.addSkill skill = (false, catalog) ∨
      skill.id ∉ catalog.skills ∧ ValidSkill skill ∧
        catalog.addSkill skill = (true, { skills := catalog.skills.insertIfNew skill.id skill }) := by
  unfold GameData.SkillCatalog.addSkill
  split
  · exact .inl rfl
  rename_i hvalid
  simp only [not_or, Bool.not_eq_true, Bool.not_eq_false] at hvalid
  obtain ⟨hid, hname, hactive, hbox, heffects, hnew⟩ := hvalid
  split
  · exact .inl rfl
  · rename_i heffect
    exact .inr ⟨hnew, ⟨hid, hname, hactive, hbox, heffects, not_not.mp heffect⟩, rfl⟩

theorem adds_skills : Adds (skills translator) (·.skillCount) := by
  refine ⟨fun _ _ h => h.skillCount, fun _ _ => rfl, ?_⟩
  intro skill loader
  rcases addSkill_cases skill loader.skillCatalog with hadd | ⟨hnew, hvalid, hadd⟩
  · refine .inl ?_
    simp only [skills, hadd]
  · refine .inr ⟨{ loader with
      skillCatalog := { skills := loader.skillCatalog.skills.insertIfNew skill.id skill }
      result := { loader.result with skillCount := loader.result.skillCount + 1 } },
      by simp only [skills, hadd], ?_, rfl, ?_, Nat.lt_succ_self _⟩
    · intro h
      refine { h with skills := ?_, skillCount := ?_ }
      · intro id other hother
        simp only [GameData.SkillCatalog.getSkill, ExtTreeMap.getElem?_insertIfNew] at hother
        split at hother
        · rename_i hsame
          obtain rfl := Option.some.inj hother
          exact ⟨LawfulEqCmp.compare_eq_iff_eq.mp hsame.1, hvalid⟩
        · exact h.skills id other hother
      · rw [ExtTreeMap.size_insertIfNew, if_neg hnew, h.skillCount]
    · exact ⟨fun _ => rfl, Nat.le_refl _, Nat.le_succ _, Nat.le_refl _, Nat.le_refl _⟩

theorem Filled.step (h : Filled loader) (op : ContentOp) :
    Reachable ContentOp.next {} (op.apply loader.content) := by
  obtain ⟨ops, hrun⟩ := h.content
  exact ⟨ops ++ [op], run_append.mpr ⟨_, hrun, rfl⟩⟩

theorem addEnemy_cases (enemy : EnemyTemplate) (catalog : EnemyCatalog) :
    catalog.addEnemy enemy = (false, catalog) ∨
      enemy.id ∉ catalog.enemies ∧
        catalog.addEnemy enemy = (true, { enemies := catalog.enemies.insertIfNew enemy.id enemy }) := by
  unfold EnemyCatalog.addEnemy
  split
  · exact .inl rfl
  · rename_i hvalid
    simp only [not_or] at hvalid
    exact .inr ⟨hvalid.2.2.2.2.2.2, rfl⟩

theorem adds_enemies : Adds (enemies translator) (·.enemyCount) := by
  refine ⟨fun _ _ h => h.enemyCount, fun _ _ => rfl, ?_⟩
  intro enemy loader
  rcases addEnemy_cases enemy loader.enemyCatalog with hadd | ⟨hnew, hadd⟩
  · refine .inl ?_
    simp only [enemies, hadd]
  · refine .inr ⟨{ loader with
      enemyCatalog := { enemies := loader.enemyCatalog.enemies.insertIfNew enemy.id enemy }
      result := { loader.result with enemyCount := loader.result.enemyCount + 1 } },
      by simp only [enemies, hadd], ?_, rfl, ?_, Nat.lt_succ_self _⟩
    · intro h
      refine { h with content := ?_, enemyCount := ?_ }
      · have hstep := h.step (.addEnemy enemy)
        simp only [ContentOp.apply, content, hadd] at hstep
        exact hstep
      · rw [ExtTreeMap.size_insertIfNew, if_neg hnew, h.enemyCount]
    · exact ⟨fun _ => rfl, Nat.le_refl _, Nat.le_refl _, Nat.le_succ _, Nat.le_refl _⟩

theorem part_loadDungeon (path : String) :
    Part translator files [path] [(·.dungeonCount)] (loadDungeon translator files path) := by
  apply part_of_reads
  · intro loader failure hopen
    unfold loadDungeon
    rw [hopen]
  · intro loader tree version hopen
    have hstopped (failure : Failure) :
        Reads [(·.dungeonCount)] loader version (.error failure, loader.withVersion version) :=
      ⟨fun hf => hf.withVersion version, rfl, .refl _, fun hok => by cases hok⟩
    unfold loadDungeon
    simp only [hopen]
    split
    · exact hstopped _
    rename_i dungeon hread
    rcases addDungeon_cases loader.enemyCatalog dungeon.id dungeon.name dungeon.rooms
      dungeon.recommendedPartySize dungeon.maxPartySize loader.dungeonCatalog with
      hadd | ⟨template, hid, hnew, hsound, hadd⟩
    · simp only [GameDataLoader.withVersion, hadd]
      exact hstopped _
    · simp only [GameDataLoader.withVersion, hadd]
      refine ⟨?_, rfl, ?_, ?_⟩
      · intro h
        refine { h with content := ?_, dungeonCount := ?_ }
        · have hstep := h.step (.addDungeon dungeon.id dungeon.name dungeon.rooms
            dungeon.recommendedPartySize dungeon.maxPartySize)
          simp only [ContentOp.apply, content, hadd] at hstep
          exact hstep
        · rw [ExtTreeMap.size_insert, if_neg (mt ExtTreeMap.mem_iff_contains.mpr hnew), h.dungeonCount]
      · exact ⟨fun _ => rfl, Nat.le_refl _, Nat.le_refl _, Nat.le_refl _, Nat.le_succ _⟩
      · intro _ count' hcount
        obtain rfl := List.mem_singleton.mp hcount
        exact Nat.lt_succ_self _

theorem part_loadDungeons (paths : List String) :
    Part translator files paths (paths.map fun _ => (·.dungeonCount))
      (loadDungeons translator files paths) := by
  have hcounts (paths : List String) :
      ∀ count ∈ paths.map fun _ => GameDataLoadResult.dungeonCount, Counts count := by
    intro count hcount
    obtain ⟨path, -, rfl⟩ := List.mem_map.mp hcount
    exact fun _ _ h => h.dungeonCount
  induction paths with
  | nil =>
    exact ⟨fun _ => id, fun _ => .refl _, fun _ _ => List.forall_mem_nil _,
      fun _ _ => List.forall_mem_nil _⟩
  | cons path paths ih => exact (part_loadDungeon path).andThen ih (hcounts [path]) (hcounts paths)

/-! ## The whole load -/

/-- The files that a load of a directory reads. -/
def dataFiles (files : GameDataFiles) (directory : String) : List String :=
  [appendPath directory "channels.json", appendPath directory "skills.json",
    appendPath directory "enemies.json"] ++
      (findDungeonFiles files (appendPath directory "dungeons")).toOption.getD []

/-- What a load has to leave: catalogs that are filled and none of them empty, with templates that can be
run, from files of one version. -/
structure Loaded (translator : Translator) (files : GameDataFiles) (directory : String)
    (loader : GameDataLoader) : Prop where
  filled : Filled loader
  templates : loader.content.Sound
  validEnemies : ValidEnemies loader.enemyCatalog
  version : loader.result.contentVersion ≠ 0
  versions : ∀ path ∈ dataFiles files directory,
    ReadsVersion translator files loader.result.contentVersion path
  channels : 0 < loader.result.channelCount
  skills : 0 < loader.result.skillCount
  enemies : 0 < loader.result.enemyCount
  dungeons : 0 < loader.result.dungeonCount

theorem findDungeonFiles_ne {directory : String} {paths : List String}
    (h : findDungeonFiles files directory = .ok paths) : paths ≠ [] := by
  unfold findDungeonFiles at h
  split at h
  · simp only at h
    split at h
    · cases h
    · rename_i hpaths
      obtain rfl := Except.ok.inj h
      exact mt List.isEmpty_iff.mpr hpaths
  · cases h

theorem part_loadDungeonFiles (directory : String) :
    Part translator files ((findDungeonFiles files directory).toOption.getD []) [(·.dungeonCount)]
      (loadDungeonFiles translator files directory) := by
  cases hpaths : findDungeonFiles files directory with
  | error failure =>
    have hstopped (loader : GameDataLoader) :
        loadDungeonFiles translator files directory loader = (.error failure, loader) := by
      unfold loadDungeonFiles
      rw [hpaths]
    refine ⟨?_, ?_, fun _ _ => List.forall_mem_nil _, ?_⟩
    · intro loader hfilled
      rwa [hstopped]
    · intro loader
      rw [hstopped]
      exact .refl _
    · intro loader hok
      rw [hstopped] at hok
      cases hok
  | ok paths =>
    have hgoes : loadDungeonFiles translator files directory = loadDungeons translator files paths := by
      funext loader
      unfold loadDungeonFiles
      rw [hpaths]
    rw [hgoes]
    have hpart : Part translator files paths _ _ := part_loadDungeons paths
    refine ⟨hpart.filled, hpart.grows, hpart.versions, ?_⟩
    intro loader hok count hcount
    obtain rfl := List.mem_singleton.mp hcount
    obtain ⟨path, hpath⟩ := List.exists_mem_of_ne_nil paths (findDungeonFiles_ne hpaths)
    exact hpart.raises loader hok _ (List.mem_map.mpr ⟨path, hpath, rfl⟩)

theorem part_loadFiles (directory : String) :
    Part translator files (dataFiles files directory)
      [(·.channelCount), (·.skillCount), (·.enemyCount), (·.dungeonCount)]
      (loadFiles translator files directory) := by
  have hchannels : ∀ count ∈ [GameDataLoadResult.channelCount], Counts count :=
    List.forall_mem_singleton.mpr fun _ _ h => h.channelCount
  have hskills : ∀ count ∈ [GameDataLoadResult.skillCount], Counts count :=
    List.forall_mem_singleton.mpr fun _ _ h => h.skillCount
  have henemies : ∀ count ∈ [GameDataLoadResult.enemyCount], Counts count :=
    List.forall_mem_singleton.mpr fun _ _ h => h.enemyCount
  have hdungeons : ∀ count ∈ [GameDataLoadResult.dungeonCount], Counts count :=
    List.forall_mem_singleton.mpr fun _ _ h => h.dungeonCount
  have hfirst : Part translator files [appendPath directory "channels.json"] [(·.channelCount)]
      (loadChannels translator files (appendPath directory "channels.json")) :=
    adds_channels.loadCollection _
  have hsecond : Part translator files [appendPath directory "skills.json"] [(·.skillCount)]
      (loadSkills translator files (appendPath directory "skills.json")) :=
    adds_skills.loadCollection _
  have hthird : Part translator files [appendPath directory "enemies.json"] [(·.enemyCount)]
      (loadEnemies translator files (appendPath directory "enemies.json")) :=
    adds_enemies.loadCollection _
  have hboth := List.forall_mem_append.mpr ⟨hchannels, hskills⟩
  exact ((hfirst.andThen hsecond hchannels hskills).andThen hthird hboth henemies).andThen
    (part_loadDungeonFiles _) (List.forall_mem_append.mpr ⟨hboth, henemies⟩) hdungeons

/-- Whatever becomes of a load, it leaves catalogs that come from their operations. -/
theorem filled_of_load (directory : String) : Filled (load translator files directory {}).2 := by
  unfold load
  split
  · exact (part_loadFiles directory).filled {} filled_empty
  · exact filled_empty

theorem loaded_of_load {directory : String} (h : (load translator files directory {}).1 = .ok ()) :
    Loaded translator files directory (load translator files directory {}).2 := by
  have hfilled : Filled (load translator files directory {}).2 := filled_of_load directory
  unfold load at h hfilled ⊢
  split at h
  · rename_i hdirectory
    rw [if_pos hdirectory] at hfilled ⊢
    have hpart : Part translator files _ _ _ := part_loadFiles directory
    have hversions := hpart.versions {} h
    have hraises := hpart.raises {} h
    simp only [List.forall_mem_cons, List.not_mem_nil, false_imp_iff, implies_true, and_true] at hraises
    obtain ⟨hchannels, hskills, henemies, hdungeons⟩ := hraises
    have hversion := (hversions _ List.mem_cons_self).1
    exact ⟨hfilled, sound_of_run hfilled.content, validEnemies_of_run hfilled.content, hversion,
      fun path hpath => (hversions path hpath).2, hchannels, hskills, henemies, hdungeons⟩
  · cases h

/-- The channels of a loaded directory can be listed exactly if its file gives none of them more players than
the response can say. -/
theorem channelList_of_load (directory : String) :
    Parties.Transmitted (load translator files directory {}).2.channelManager.getChannelList ↔
      Parties.Within (load translator files directory {}).2.channelManager :=
  (filled_of_load directory).tallied.transmitted_iff

/-! ## A directory whose channels cannot be listed -/

def leaf (text : String) : Ptree := .node text []

def object (fields : List (String × Ptree)) : Ptree := .node "" fields

def array (items : List Ptree) : Ptree := .node "" (items.map fun item => ("", item))

def numeral (text : String) : Option Nat :=
  [("0", 0), ("1", 1), ("2", 2), ("9", 9), ("4294967296", 4294967296)].lookup text

def numerals : Translator where
  uint32 := { read := fun text => (numeral text).map UInt32.ofNat, badData := "conversion of data failed" }
  uint8 := { read := fun text => (numeral text).map UInt8.ofNat, badData := "conversion of data failed" }
  size := { read := numeral, badData := "conversion of data failed" }
  float := { read := fun text => (numeral text).map fun n => .finite n, badData := "conversion of data failed" }
  bool := {
    read := fun text => List.lookup text [("true", true), ("false", false)]
    badData := "conversion of data failed" }

def file (field : String) (tree : Ptree) : Ptree := object [("contentVersion", leaf "1"), (field, tree)]

def position (x y z : String) : Ptree := object [("x", leaf x), ("y", leaf y), ("z", leaf z)]

def town : Ptree := object [("id", leaf "1"), ("name", leaf "Town"), ("maxPlayers", leaf "4294967296")]

def slash : Ptree := object [("id", leaf "1"), ("name", leaf "Slash"), ("cooldownTicks", leaf "0"),
  ("manaCost", leaf "0"), ("startupTicks", leaf "0"), ("activeTicks", leaf "1"), ("recoveryTicks", leaf "0"),
  ("hitBox", object [("forwardRange", leaf "1"), ("backwardRange", leaf "0"), ("halfDepth", leaf "1"),
    ("height", leaf "1")]),
  ("effects", array [object [("type", leaf "damage"), ("target", leaf "enemy"), ("stat", leaf "none"),
    ("value", leaf "1"), ("durationTicks", leaf "0")]])]

def goblin : Ptree := object [("id", leaf "1"), ("name", leaf "Goblin"), ("maxHp", leaf "9"),
  ("moveSpeed", leaf "1"), ("aiType", leaf "melee"),
  ("collision", object [("minimum", position "0" "0" "0"), ("maximum", position "1" "1" "1")])]

def vault : Ptree := object [("id", leaf "1"), ("name", leaf "Vault"), ("recommendedPartySize", leaf "1"),
  ("maxPartySize", leaf "2"),
  ("rooms", array [object [("id", leaf "1"), ("width", leaf "9"), ("depth", leaf "9"),
    ("playerSpawn", position "1" "1" "0"), ("portals", array []), ("obstacles", array []),
    ("enemySpawns", array [object [("id", leaf "1"), ("enemyTemplateId", leaf "1"),
      ("position", position "2" "2" "0"), ("wave", leaf "1")]])]])]

def vaultFiles : GameDataFiles where
  isDirectory path := path = "data/" ∨ path = "data/dungeons"
  isRegularFile _ := true
  readJson path :=
    if path = "data/channels.json" then .ok (file "channels" (array [town]))
    else if path = "data/skills.json" then .ok (file "skills" (array [slash]))
    else if path = "data/enemies.json" then .ok (file "enemies" (array [goblin]))
    else .ok (file "dungeon" vault)
  directoryEntries _ := [{ path := "data/dungeons/vault.json", isRegularFile := true, extension := ".json" }]

theorem channelList_of_load_vault :
    Loaded numerals vaultFiles "data/" (load numerals vaultFiles "data/" {}).2 ∧
      ¬ Parties.Transmitted (load numerals vaultFiles "data/" {}).2.channelManager.getChannelList := by
  constructor
  · exact loaded_of_load (by decide +kernel)
  · rw [channelList_of_load]
    intro hwithin
    have htown : ((load numerals vaultFiles "data/" {}).2.channelManager.channels[(1 : ChannelId)]?).map
        (·.maxPlayers) = some 4294967296 := by
      decide +kernel
    obtain ⟨channel, hchannel, hmax⟩ := Option.map_eq_some_iff.mp htown
    have hle := hwithin 1 channel hchannel
    rw [hmax] at hle
    exact absurd hle (by decide)

end DnfServer.GameDataLoader
