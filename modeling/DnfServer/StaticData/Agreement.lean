import Mathlib.Tactic.Tauto
import DnfServer.Model.StaticData

/-!
# The two validators of static data agree

The server validates what it encodes and the client what it has decoded, by two functions written
separately. Entry by entry their checks come to the same Boolean: the client asks for a finite
point with `z ≥ 0` wherever it asks for a point inside a room, the server asks for these apart,
and for the upper corner of a box not at all, where they follow from the lower corner.
-/

namespace DnfServer.StaticData

open DnfServer.Library Client Client.DungeonStaticDataCodec
set_option autoImplicit false

/-- The finite numbers of the kind are in order. -/
class LawfulCoordinate (κ : Type) [Coordinate κ] : Prop where
  isFinite_zero : Coordinate.isFinite (0 : κ) = true
  not_lt : ∀ {x y : κ}, Coordinate.isFinite x = true → Coordinate.isFinite y = true →
    (¬ x < y ↔ y ≤ x)
  le_of_lt : ∀ {x y : κ}, x < y → x ≤ y
  le_trans : ∀ {x y z : κ}, x ≤ y → y ≤ z → x ≤ z

instance : LawfulCoordinate Rat where
  isFinite_zero := rfl
  not_lt _ _ := Rat.not_lt
  le_of_lt := Rat.le_of_lt
  le_trans := Rat.le_trans

namespace Single

theorem not_isNaN {x : Single} (h : x.isFinite = true) : ¬ x.isNaN := by
  simp only [Single.isFinite, decide_eq_true_eq] at h
  simp [Single.isNaN, h]

instance : LawfulCoordinate Single where
  isFinite_zero := by decide
  not_lt {x y} hx hy := by
    change ¬ (¬ x.isNaN ∧ ¬ y.isNaN ∧ x.value < y.value) ↔
      ¬ y.isNaN ∧ ¬ x.isNaN ∧ y.value ≤ x.value
    simp [not_isNaN hx, not_isNaN hy]
  le_of_lt h := ⟨h.1, h.2.1, Int.le_of_lt h.2.2⟩
  le_trans h h' := ⟨h.1, h'.2.1, Int.le_trans h.2.2 h'.2.2⟩

end Single

variable {κ : Type} [Coordinate κ]

/-! ## Entries -/

theorem isValidCollision_decode (box : CollisionBox κ) :
    isValidCollision (decodeCollision box) = isValidBox box := by
  simp only [isValidCollision, isValidBox, isValidCollisionBox, ← Bool.and_assoc]
  rfl

theorem isValidEnemy_decode (enemy : EnemyTemplate κ) :
    DungeonStaticDataCodec.isValidEnemy (DungeonStaticDataCodec.decodeEnemy enemy) = isValidEnemy enemy := by
  simp only [DungeonStaticDataCodec.isValidEnemy, isValidEnemy, DungeonStaticDataCodec.decodeEnemy,
    isValidCollision_decode]
  rfl

variable [LawfulCoordinate κ]

theorem nonneg_iff {x : κ} (h : Coordinate.isFinite x = true) : 0 ≤ x ↔ ¬ x < 0 :=
  (LawfulCoordinate.not_lt h LawfulCoordinate.isFinite_zero).symm

theorem isInsideRoom_decode (room : RoomTemplate κ) (position : Position κ) :
    DungeonStaticDataCodec.isInsideRoom (decodeRoom room) (decodePosition position) =
      (isFinite position && !decide (position.z < 0) && isInsideRoom room position) := by
  rw [Bool.eq_iff_iff]
  by_cases hfinite : isFinite position = true
  · have hz : Coordinate.isFinite position.z = true := by
      simp only [isFinite, Bool.and_eq_true] at hfinite
      exact hfinite.2
    have heq : DungeonStaticDataCodec.isFinite (decodePosition position) = true := hfinite
    simp only [DungeonStaticDataCodec.isInsideRoom, isInsideRoom, heq, hfinite,
      Bool.and_eq_true, Bool.not_eq_true', decide_eq_true_eq, decide_eq_false_iff_not,
      ← nonneg_iff hz, true_and]
    simp only [decodeRoom, decodePosition]
    tauto
  · have heq : ¬ DungeonStaticDataCodec.isFinite (decodePosition position) = true := hfinite
    simp [DungeonStaticDataCodec.isInsideRoom, heq, hfinite]

/-- The corners of a valid box need no further test. -/
theorem isInsideRoom_corners (room : RoomTemplate κ) {box : CollisionBox κ}
    (hvalid : isValidBox box = true) (hz : ¬ box.minimum.z < 0) :
    DungeonStaticDataCodec.isInsideRoom (decodeRoom room) (decodePosition box.minimum) =
        isInsideRoom room box.minimum ∧
      DungeonStaticDataCodec.isInsideRoom (decodeRoom room) (decodePosition box.maximum) =
        isInsideRoom room box.maximum := by
  simp only [isValidBox, isValidCollisionBox, Bool.and_eq_true, decide_eq_true_eq] at hvalid
  obtain ⟨⟨hmin, hmax⟩, -, hlt⟩ := hvalid
  have hminz : Coordinate.isFinite box.minimum.z = true := by
    simp only [isFinite, Bool.and_eq_true] at hmin
    exact hmin.2
  have hmaxz : Coordinate.isFinite box.maximum.z = true := by
    simp only [isFinite, Bool.and_eq_true] at hmax
    exact hmax.2
  have habove : ¬ box.maximum.z < 0 := by
    rw [← nonneg_iff hmaxz]
    exact LawfulCoordinate.le_trans ((nonneg_iff hminz).mpr hz) (LawfulCoordinate.le_of_lt hlt)
  simp [isInsideRoom_decode, hmin, hmax, hz, habove]

theorem isValidRoom_decode (room : RoomTemplate κ) :
    DungeonStaticDataCodec.isValidRoom (decodeRoom room) = isValidRoom room := by
  have hspawn := isInsideRoom_decode room room.playerSpawn
  simp only [DungeonStaticDataCodec.isValidRoom, isValidRoom]
  change (room.id != 0 && _ && _ && _ && _ && _) = _
  rw [show (decodeRoom room).playerSpawn = decodePosition room.playerSpawn from rfl, hspawn]
  simp only [← Bool.and_assoc]
  rfl

/-- What both validators ask of a box in a room. -/
theorem box_decode (room : RoomTemplate κ) (box : CollisionBox κ) :
    (isValidCollision (decodeCollision box) &&
        !decide ((decodeCollision box).minimum.z < 0) &&
        DungeonStaticDataCodec.isInsideRoom (decodeRoom room)
          (decodeCollision box).minimum &&
        DungeonStaticDataCodec.isInsideRoom (decodeRoom room)
          (decodeCollision box).maximum) =
      (isValidBox box && !decide (box.minimum.z < 0) && isInsideRoom room box.minimum &&
        isInsideRoom room box.maximum) := by
  rw [isValidCollision_decode]
  change (_ && !decide (box.minimum.z < 0) && _ && _) = _
  by_cases hvalid : isValidBox box = true
  · by_cases hz : box.minimum.z < 0
    · simp [hz]
    · obtain ⟨hmin, hmax⟩ := isInsideRoom_corners room hvalid hz
      simp only [decodeCollision, hmin, hmax]
  · simp [hvalid]

theorem isValidObstacle_decode (room : RoomTemplate κ) (obstacle : ObstacleTemplate κ) :
    DungeonStaticDataCodec.isValidObstacle (decodeRoom room) (decodeObstacle obstacle) =
      isValidObstacle room obstacle := by
  have hhp : (obstacle.destructible != (obstacle.maxHp != 0)) =
      (obstacle.destructible && obstacle.maxHp = 0 ||
        !obstacle.destructible && obstacle.maxHp != 0) := by
    cases obstacle.destructible <;> by_cases hzero : obstacle.maxHp = 0 <;> simp [hzero]
  have hbox := box_decode room obstacle.collision
  simp only [DungeonStaticDataCodec.isValidObstacle, isValidObstacle, decodeObstacle, hhp]
  grind

theorem isValidPortal_decode (roomById : List (RoomTemplate κ)) (room : RoomTemplate κ)
    (portal : PortalTemplate κ) :
    DungeonStaticDataCodec.isValidPortal (roomById.map decodeRoom) (decodeRoom room)
      (decodePortal portal) = isValidPortal roomById room portal := by
  have hbox := box_decode room portal.triggerArea
  have htarget :
      ((roomById.map decodeRoom).find? (·.roomId = portal.targetRoomId)).any (fun targetRoom =>
        DungeonStaticDataCodec.isInsideRoom targetRoom (decodePosition portal.targetPosition)) =
      (roomById.find? (·.id = portal.targetRoomId)).any fun targetRoom =>
        isFinite portal.targetPosition && !decide (portal.targetPosition.z < 0) &&
          isInsideRoom targetRoom portal.targetPosition := by
    rw [List.find?_map, Option.any_map]
    simp only [Function.comp_def, isInsideRoom_decode]
    rfl
  simp only [DungeonStaticDataCodec.isValidPortal, isValidPortal, ← htarget]
  change (portal.id != 0 && isValidCollision (decodeCollision portal.triggerArea) && _ && _ && _ &&
    _) = _
  grind [decodePortal]

theorem isValidSpawn_decode (enemyTemplateIds : List (EnemyTemplate κ)) (room : RoomTemplate κ)
    (spawn : EnemySpawnTemplate κ) :
    DungeonStaticDataCodec.isValidSpawn
        (enemyTemplateIds.map DungeonStaticDataCodec.decodeEnemy) (decodeRoom room)
      (decodeSpawn spawn) = isValidSpawn enemyTemplateIds room spawn := by
  have hany : (enemyTemplateIds.map DungeonStaticDataCodec.decodeEnemy).any
      (·.enemyTemplateId = (decodeSpawn spawn).enemyTemplateId) =
        enemyTemplateIds.any (·.id = spawn.enemyTemplateId) := List.any_map
  have hroom := isInsideRoom_decode room spawn.position
  simp only [DungeonStaticDataCodec.isValidSpawn, isValidSpawn, hany]
  grind [decodeSpawn]

/-! ## The whole response -/

omit [Coordinate κ] [LawfulCoordinate κ] in
/-- A loop of the client over decoded entries. -/
theorem addOrThrow_map {α γ : Type} {message : String} {key : α → UInt32} {accept : α → Bool}
    {key' : γ → UInt32} {accept' : γ → Bool} {f : α → γ} (entries : List α)
    (hkey : ∀ entry, key' (f entry) = key entry)
    (haccept : ∀ entry, accept' (f entry) = accept entry) :
    addOrThrow message key' accept' (entries.map f) =
      (addOrThrow message key accept entries).map (List.map f) := by
  have hmap := addEach_map hkey (fun entry (_ : entry ∈ entries) => haccept entry) []
  rw [List.map_nil] at hmap
  simp only [addOrThrow, hmap]
  cases addEach key accept [] entries <;> rfl

theorem validateContents_decode (enemyTemplateIds : List (EnemyTemplate κ))
    (roomById : List (RoomTemplate κ)) (room : RoomTemplate κ) :
    validateContents (enemyTemplateIds.map DungeonStaticDataCodec.decodeEnemy) (roomById.map decodeRoom)
        (decodeRoom room) = .ok () ↔
      hasValidContents enemyTemplateIds roomById room = true := by
  have hportals : addOrThrow "Invalid portal static values." (·.portalId)
      (DungeonStaticDataCodec.isValidPortal (roomById.map decodeRoom) (decodeRoom room))
      (decodeRoom room).portals =
        (addOrThrow _ (·.id) (isValidPortal roomById room) room.portals).map (·.map decodePortal) :=
    addOrThrow_map _ (fun _ => rfl) (isValidPortal_decode roomById room)
  have hobstacles : addOrThrow "Invalid obstacle values." (·.obstacleId)
      (DungeonStaticDataCodec.isValidObstacle (decodeRoom room)) (decodeRoom room).obstacles =
        (addOrThrow _ (·.id) (isValidObstacle room) room.obstacles).map (·.map decodeObstacle) :=
    addOrThrow_map _ (fun _ => rfl) (isValidObstacle_decode room)
  have hspawns : addOrThrow "Invalid enemy spawn values." (·.enemySpawnId)
      (DungeonStaticDataCodec.isValidSpawn
        (enemyTemplateIds.map DungeonStaticDataCodec.decodeEnemy) (decodeRoom room))
      (decodeRoom room).enemySpawns =
        (addOrThrow _ (·.id) (isValidSpawn enemyTemplateIds room) room.enemySpawns).map
          (·.map decodeSpawn) :=
    addOrThrow_map _ (fun _ => rfl) (isValidSpawn_decode enemyTemplateIds room)
  rw [validateContents, hportals, hobstacles, hspawns, hasValidContents]
  simp only [addOrThrow]
  cases addEach (·.id) (isValidPortal roomById room) [] room.portals with
  | none => simp [Except.map, bind, Except.bind]
  | some portals =>
    cases addEach (·.id) (isValidObstacle room) [] room.obstacles with
    | none => simp [Except.map, bind, Except.bind]
    | some obstacles =>
      cases addEach (·.id) (isValidSpawn enemyTemplateIds room) [] room.enemySpawns with
      | none => simp [Except.map, bind, Except.bind]
      | some spawns => simp [Except.map, bind, Except.bind, pure, Except.pure]

/-- A loop that throws for one of the elements goes through when it throws for none. -/
theorem forM_eq_ok_iff {α ε : Type} {f : α → Except ε Unit} {l : List α} :
    l.forM f = .ok () ↔ ∀ a ∈ l, f a = .ok () := by
  induction l with
  | nil => simp [pure, Except.pure]
  | cons a l ih =>
    change (f a >>= fun _ => l.forM f) = .ok () ↔ _
    rw [List.forall_mem_cons, ← ih]
    cases f a <;> simp [bind, Except.bind]

theorem isValidStaticData_iff (result : DungeonStaticDataResult) (dungeonId : DungeonId)
    (dungeonTemplateId : DungeonTemplateId) (rooms : List (RoomTemplate κ))
    (enemyTemplates : List (EnemyTemplate κ)) :
    isValidStaticData result dungeonId dungeonTemplateId rooms enemyTemplates = true ↔
      validateResponse result dungeonId dungeonTemplateId (rooms.map decodeRoom)
        (enemyTemplates.map DungeonStaticDataCodec.decodeEnemy) = .ok () := by
  rw [isValidStaticData, validateResponse]
  split
  · simp only [List.length_map, Bool.and_eq_true, decide_eq_true_eq, List.isEmpty_iff]
    split
    · grind
    · grind
  have hempty : rooms.isEmpty = true ↔ (rooms.map decodeRoom).length = 0 := by simp
  split
  · rename_i hmissing
    rw [hempty] at hmissing
    rw [if_pos hmissing]
    simp
  rename_i hmissing
  rw [hempty] at hmissing
  rw [if_neg hmissing]
  have henemies : addOrThrow "Invalid enemy template values." (·.enemyTemplateId)
      DungeonStaticDataCodec.isValidEnemy (enemyTemplates.map DungeonStaticDataCodec.decodeEnemy) =
        (addOrThrow _ (·.id) isValidEnemy enemyTemplates).map (·.map DungeonStaticDataCodec.decodeEnemy) :=
    addOrThrow_map _ (fun _ => rfl) isValidEnemy_decode
  have hrooms : addOrThrow "Invalid room static values." (·.roomId)
      DungeonStaticDataCodec.isValidRoom (rooms.map decodeRoom) =
        (addOrThrow _ (·.id) isValidRoom rooms).map (·.map decodeRoom) :=
    addOrThrow_map _ (fun _ => rfl) isValidRoom_decode
  rw [henemies, hrooms]
  simp only [addOrThrow]
  cases addEach (·.id) isValidEnemy [] enemyTemplates with
  | none => simp [Except.map, bind, Except.bind]
  | some enemyTemplateIds =>
    cases addEach (·.id) isValidRoom [] rooms with
    | none => simp [Except.map, bind, Except.bind]
    | some roomById =>
      change rooms.all (hasValidContents enemyTemplateIds roomById) = true ↔
        (rooms.map decodeRoom).forM
          (validateContents (enemyTemplateIds.map DungeonStaticDataCodec.decodeEnemy)
            (roomById.map decodeRoom)) = .ok ()
      rw [forM_eq_ok_iff, List.all_eq_true]
      simp only [List.forall_mem_map, validateContents_decode]

/-- On single-precision numbers, infinities and numbers that are none among them, the server
accepts a response exactly when the client does not throw on what it decodes. -/
theorem isValidStaticData_iff_validateResponse (result : DungeonStaticDataResult)
    (dungeonId : DungeonId) (dungeonTemplateId : DungeonTemplateId)
    (rooms : List (RoomTemplate Single)) (enemyTemplates : List (EnemyTemplate Single)) :
    isValidStaticData result dungeonId dungeonTemplateId rooms enemyTemplates = true ↔
      validateResponse result dungeonId dungeonTemplateId (rooms.map decodeRoom)
        (enemyTemplates.map DungeonStaticDataCodec.decodeEnemy) = .ok () :=
  isValidStaticData_iff result dungeonId dungeonTemplateId rooms enemyTemplates

end DnfServer.StaticData
