import DnfServer.Dungeons.Steps

/-!
# The waves of one room

Enemies are never taken out of a room: a wave adds one for each of its spawns, a blow changes
one in place. Each wave is started once, so a room holds exactly one enemy for each spawn of
the waves up to the current one, dead or alive.
-/

namespace DnfServer.Dungeons

open Std
set_option autoImplicit false

/-- The waves are numbered from one, and the catalog has an enemy for every spawn. -/
def Supplied (catalog : EnemyCatalog) (roomTemplate : RoomTemplate) : Prop :=
  ∀ spawn ∈ roomTemplate.enemySpawns,
    spawn.wave ≠ 0 ∧ (catalog.getEnemy spawn.enemyTemplateId).isSome

instance (catalog : EnemyCatalog) (roomTemplate : RoomTemplate) :
    Decidable (Supplied catalog roomTemplate) :=
  inferInstanceAs (Decidable (∀ spawn ∈ roomTemplate.enemySpawns,
    spawn.wave ≠ 0 ∧ (catalog.getEnemy spawn.enemyTemplateId).isSome))

/-- There is one enemy for each spawn of the waves up to the current one. -/
def Counted (room : RoomState) : Prop :=
  room.enemies.length =
    (room.roomTemplate.enemySpawns.filter (·.wave ≤ room.currentWave)).length

/-! ## The next wave -/

/-- The search for the least wave above the current one, from a candidate. -/
theorem foldl_nextWave (current : UInt32) (spawns : List EnemySpawnTemplate) :
    ∀ next : UInt32, (next ≠ 0 → current < next) →
      let found := spawns.foldl (fun next spawn =>
        if spawn.wave > current ∧ (next = 0 ∨ spawn.wave < next) then spawn.wave else next) next
      (found ≠ 0 → current < found) ∧ (next ≠ 0 → found ≠ 0 ∧ found ≤ next) ∧
        ∀ spawn ∈ spawns, current < spawn.wave → found ≠ 0 ∧ found ≤ spawn.wave := by
  induction spawns with
  | nil =>
    intro next hnext
    exact ⟨hnext, fun h0 => ⟨h0, UInt32.le_refl _⟩, fun _ hs => absurd hs List.not_mem_nil⟩
  | cons spawn spawns ih =>
    intro next hnext
    simp only [List.foldl_cons]
    split
    · rename_i htake
      have hne : spawn.wave ≠ 0 := by
        rintro h0
        rw [h0] at htake
        exact UInt32.not_lt_zero htake.1
      obtain ⟨habove, hle, hall⟩ := ih spawn.wave fun _ => htake.1
      obtain ⟨hfound, hlespawn⟩ := hle hne
      refine ⟨habove, ?_, ?_⟩
      · intro h0
        refine ⟨hfound, UInt32.le_trans hlespawn ?_⟩
        rcases htake.2 with hz | hlt
        · exact absurd hz h0
        · exact UInt32.le_of_lt hlt
      · intro other hother hwave
        rcases List.mem_cons.mp hother with rfl | hother
        · exact ⟨hfound, hlespawn⟩
        · exact hall other hother hwave
    · rename_i hskip
      obtain ⟨habove, hle, hall⟩ := ih next hnext
      refine ⟨habove, hle, ?_⟩
      intro other hother hwave
      rcases List.mem_cons.mp hother with rfl | hother
      · -- the candidate is at most the wave that was passed over
        simp only [not_and_or, not_or, UInt32.not_lt] at hskip
        rcases hskip with hskip | ⟨h0, hge⟩
        · exact absurd hwave (UInt32.not_lt.mpr hskip)
        · exact ⟨(hle h0).1, UInt32.le_trans (hle h0).2 hge⟩
      · exact hall other hother hwave

theorem nextWave_spec {room : RoomState} (h : room.nextWave ≠ 0) :
    room.currentWave < room.nextWave ∧
      ∀ spawn ∈ room.roomTemplate.enemySpawns, room.currentWave < spawn.wave →
        room.nextWave ≤ spawn.wave := by
  obtain ⟨habove, -, hall⟩ := foldl_nextWave room.currentWave
    room.roomTemplate.enemySpawns 0 (fun h0 => absurd rfl h0)
  exact ⟨habove h, fun spawn hs hw => (hall spawn hs hw).2⟩

/-- The next wave is that of a spawn. -/
theorem nextWave_mem {room : RoomState} (h : room.nextWave ≠ 0) :
    ∃ spawn ∈ room.roomTemplate.enemySpawns, spawn.wave = room.nextWave := by
  have hfold (current : UInt32) (spawns : List EnemySpawnTemplate) : ∀ next : UInt32,
      let found := spawns.foldl (fun next spawn =>
        if spawn.wave > current ∧ (next = 0 ∨ spawn.wave < next) then spawn.wave else next) next
      found = next ∨ ∃ spawn ∈ spawns, spawn.wave = found := by
    induction spawns with
    | nil => exact fun next => .inl rfl
    | cons spawn spawns ih =>
      intro next
      simp only [List.foldl_cons, List.exists_mem_cons_iff]
      split
      · rcases ih spawn.wave with hsame | hother
        · exact .inr (.inl hsame.symm)
        · exact .inr (.inr hother)
      · rcases ih next with hsame | hother
        · exact .inl hsame
        · exact .inr (.inr hother)
  exact (hfold room.currentWave room.roomTemplate.enemySpawns 0).resolve_left h

/-- Without a next wave every spawn has been reached. -/
theorem le_of_nextWave_eq_zero {room : RoomState} (h : room.nextWave = 0) :
    ∀ spawn ∈ room.roomTemplate.enemySpawns, spawn.wave ≤ room.currentWave := by
  intro spawn hs
  obtain ⟨-, -, hall⟩ := foldl_nextWave room.currentWave
    room.roomTemplate.enemySpawns 0 (fun h0 => absurd rfl h0)
  exact UInt32.not_lt.mp fun hlt => (hall spawn hs hlt).1 h

/-- No wave lies between the current and the next one. -/
theorem perm_filter_nextWave {current next : UInt32} (hlt : current < next)
    (spawns : List EnemySpawnTemplate)
    (hleast : ∀ spawn ∈ spawns, current < spawn.wave → next ≤ spawn.wave) :
    (spawns.filter (·.wave ≤ next)).Perm
      (spawns.filter (·.wave ≤ current) ++ spawns.filter (·.wave = next)) := by
  have hsplit := List.filter_append_perm (fun spawn : EnemySpawnTemplate => decide (spawn.wave ≤ current))
    (spawns.filter (·.wave ≤ next))
  have hold : (spawns.filter (·.wave ≤ next)).filter (·.wave ≤ current) =
      spawns.filter (·.wave ≤ current) := by
    rw [List.filter_filter]
    refine List.filter_congr fun spawn _ => ?_
    rw [Bool.and_eq_left_iff_imp]
    simpa using fun hle => UInt32.le_trans hle (UInt32.le_of_lt hlt)
  have hnew : (spawns.filter (·.wave ≤ next)).filter (fun spawn => !decide (spawn.wave ≤ current)) =
      spawns.filter (·.wave = next) := by
    rw [List.filter_filter]
    refine List.filter_congr fun spawn hs => ?_
    have habove := hleast spawn hs
    rw [Bool.eq_iff_iff]
    simp only [Bool.and_eq_true, Bool.not_eq_true', decide_eq_false_iff_not, decide_eq_true_eq,
      UInt32.not_le]
    constructor
    · exact fun h => UInt32.le_antisymm h.2 (habove h.1)
    · rintro heq
      exact ⟨heq ▸ hlt, heq ▸ UInt32.le_refl _⟩
  rw [hold, hnew] at hsplit
  exact hsplit.symm

/-! ## The last wave -/

theorem le_max_wave (last wave : UInt32) : last ≤ max last wave ∧ wave ≤ max last wave := by
  have hmax : max last wave = if last ≤ wave then wave else last := rfl
  rw [hmax]
  split <;> grind

theorem le_foldl_max (spawns : List EnemySpawnTemplate) :
    ∀ start : UInt32, start ≤ spawns.foldl (fun last spawn => max last spawn.wave) start ∧
      ∀ spawn ∈ spawns, spawn.wave ≤ spawns.foldl (fun last spawn => max last spawn.wave) start := by
  induction spawns with
  | nil => exact fun start => ⟨UInt32.le_refl start, by simp⟩
  | cons spawn spawns ih =>
    intro start
    obtain ⟨hstart, hall⟩ := ih (max start spawn.wave)
    refine ⟨UInt32.le_trans (le_max_wave start spawn.wave).1 hstart, ?_⟩
    intro other ho
    rcases List.mem_cons.mp ho with rfl | ho
    · exact UInt32.le_trans (le_max_wave start other.wave).2 hstart
    · exact hall other ho

theorem foldl_max_mem (spawns : List EnemySpawnTemplate) :
    ∀ start : UInt32, spawns.foldl (fun last spawn => max last spawn.wave) start = start ∨
      ∃ spawn ∈ spawns, spawn.wave = spawns.foldl (fun last spawn => max last spawn.wave) start := by
  induction spawns with
  | nil => exact fun start => .inl rfl
  | cons spawn spawns ih =>
    intro start
    simp only [List.foldl_cons, List.exists_mem_cons_iff]
    have hmax : max start spawn.wave = if start ≤ spawn.wave then spawn.wave else start := rfl
    rcases ih (max start spawn.wave) with hsame | hother
    · rw [hsame, hmax]
      split
      · exact .inr (.inl rfl)
      · exact .inl rfl
    · exact .inr (.inr hother)

/-! ## What a room goes through -/

/-- The enemy of a spawn, as it enters the room. -/
def spawnedEnemy (roomTemplate : RoomTemplate) (enemyTemplate : EnemyTemplate)
    (spawn : EnemySpawnTemplate) : EnemyState where
  entityId := makeEnemyEntityId roomTemplate.id spawn.id
  spawnId := spawn.id
  enemyTemplateId := spawn.enemyTemplateId
  position := spawn.position
  currentHp := enemyTemplate.maxHp

/-- The enemy has just entered by the spawn. -/
def Fresh (catalog : EnemyCatalog) (roomTemplate : RoomTemplate) (enemy : EnemyState)
    (spawn : EnemySpawnTemplate) : Prop :=
  ∃ enemyTemplate, catalog.getEnemy spawn.enemyTemplateId = some enemyTemplate ∧
    enemy = spawnedEnemy roomTemplate enemyTemplate spawn

/-- With every enemy in the catalog the loop adds one enemy for each spawn of the wave, in their
order. -/
theorem spawnWave_fresh {catalog : EnemyCatalog} {wave : UInt32} {spawns : List EnemySpawnTemplate}
    (h : ∀ spawn ∈ spawns, (catalog.getEnemy spawn.enemyTemplateId).isSome) :
    ∀ room : RoomState, ∃ added : List EnemyState,
      List.Forall₂ (Fresh catalog room.roomTemplate) added (spawns.filter (·.wave = wave)) ∧
      RoomState.spawnWave catalog wave room spawns =
        (.ok (), { room with enemies := room.enemies ++ added }) := by
  induction spawns with
  | nil => exact fun room => ⟨[], .nil, by simp [RoomState.spawnWave]⟩
  | cons spawn spawns ih =>
    intro room
    have ih := ih fun other ho => h other (List.mem_cons_of_mem _ ho)
    by_cases hw : spawn.wave = wave
    · obtain ⟨template, htemplate⟩ := Option.isSome_iff_exists.mp (h spawn List.mem_cons_self)
      let enemy := spawnedEnemy room.roomTemplate template spawn
      obtain ⟨added, hfresh, heq⟩ := ih { room with enemies := room.enemies ++ [enemy] }
      refine ⟨enemy :: added, ?_, ?_⟩
      · rw [List.filter_cons_of_pos (by simpa using hw)]
        exact .cons ⟨template, htemplate, rfl⟩ hfresh
      · rw [← List.append_cons] at heq
        simp only [RoomState.spawnWave, hw, ne_eq, not_true_eq_false, if_false, htemplate]
        exact heq
    · obtain ⟨added, hfresh, heq⟩ := ih room
      refine ⟨added, ?_, ?_⟩
      · rwa [List.filter_cons_of_neg (by simpa using hw)]
      · simp [RoomState.spawnWave, hw, heq]

theorem fresh_spawnIds {catalog : EnemyCatalog} {roomTemplate : RoomTemplate}
    {added : List EnemyState} {spawns : List EnemySpawnTemplate}
    (h : List.Forall₂ (Fresh catalog roomTemplate) added spawns) :
    added.map (·.spawnId) = spawns.map (·.id) := by
  induction h with
  | nil => rfl
  | cons hfresh _ ih =>
    obtain ⟨template, -, rfl⟩ := hfresh
    rw [List.map_cons, List.map_cons, ih]
    rfl

theorem spawnWave_ok {catalog : EnemyCatalog} {wave : UInt32} {spawns : List EnemySpawnTemplate}
    (h : ∀ spawn ∈ spawns, (catalog.getEnemy spawn.enemyTemplateId).isSome) (room : RoomState) :
    ∃ added : List EnemyState,
      added.map (·.spawnId) = (spawns.filter (·.wave = wave)).map (·.id) ∧
      RoomState.spawnWave catalog wave room spawns =
        (.ok (), { room with enemies := room.enemies ++ added }) := by
  obtain ⟨added, hfresh, heq⟩ := spawnWave_fresh h room
  exact ⟨added, fresh_spawnIds hfresh, heq⟩

/-- The room has the same template and its enemies are still counted. -/
def Keeps (room room' : RoomState) : Prop :=
  room'.roomTemplate = room.roomTemplate ∧ (Counted room → Counted room')

theorem Keeps.refl (room : RoomState) : Keeps room room := ⟨rfl, id⟩

theorem keeps_startNextWave {catalog : EnemyCatalog} {room : RoomState}
    (h : Supplied catalog room.roomTemplate) : Keeps room (room.startNextWave catalog).2 := by
  unfold RoomState.startNextWave
  split
  · exact .refl room
  split
  · exact .refl room
  rename_i hne
  obtain ⟨hlt, hleast⟩ := nextWave_spec hne
  obtain ⟨added, hids, heq⟩ := spawnWave_ok (fun spawn hs => (h spawn hs).2) room
  rw [heq]
  refine ⟨rfl, ?_⟩
  intro hc
  have hlength := congrArg List.length hids
  rw [List.length_map, List.length_map] at hlength
  simp only [Counted, List.length_append] at hc ⊢
  rw [(perm_filter_nextWave hlt _ hleast).length_eq, List.length_append, hc, hlength]

theorem keeps_applyEnemyDamage (entityId : DungeonEntityId) (damage : UInt32) (room : RoomState) :
    Keeps room (room.applyEnemyDamage entityId damage).2 := by
  unfold RoomState.applyEnemyDamage
  split
  · exact .refl room
  split
  · refine ⟨rfl, ?_⟩
    intro hc
    simpa [Counted] using hc
  · exact .refl room

theorem keeps_applyObstacleDamage (obstacleId : ObstacleId) (damage : UInt32) (room : RoomState) :
    Keeps room (room.applyObstacleDamage obstacleId damage).2 := by
  unfold RoomState.applyObstacleDamage
  split
  · exact .refl room
  split
  · exact ⟨rfl, id⟩
  · exact .refl room

theorem keeps_blow {room room' : RoomState} (h : Blow room room') : Keeps room room' := by
  cases h with
  | enemy entityId damage => exact keeps_applyEnemyDamage entityId damage room
  | obstacle obstacleId damage => exact keeps_applyObstacleDamage obstacleId damage room

/-- No wave is started before the first. -/
theorem filter_wave_zero {catalog : EnemyCatalog} {roomTemplate : RoomTemplate}
    (h : Supplied catalog roomTemplate) : roomTemplate.enemySpawns.filter (·.wave ≤ 0) = [] := by
  refine List.filter_eq_nil_iff.mpr ?_
  intro spawn hs hle
  exact (h spawn hs).1 (UInt32.le_zero_iff.mp (of_decide_eq_true hle))

/-- A new room has no enemies, and no wave up to its current one. -/
theorem counted_new {catalog : EnemyCatalog} {roomTemplate : RoomTemplate}
    (h : Supplied catalog roomTemplate) : Counted (RoomState.new roomTemplate) :=
  (congrArg List.length (filter_wave_zero h)).symm

end DnfServer.Dungeons
