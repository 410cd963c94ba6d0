import Mathlib.Algebra.Order.BigOperators.Group.List
import Mathlib.Algebra.Order.Ring.Nat
import Mathlib.Data.List.Nodup
import DnfServer.Dungeons.Operations
import DnfServer.Model.Snapshot
import DnfServer.Tcp.Packets

/-!
# The size of what a dungeon sends

Admission checks every entry of a template, never how many there are. What bounds a snapshot
is the template and the skill catalog themselves: over every run it holds at most one table
for each member of a party, one for each of their cooldowns and one for each spawn of the
template. A snapshot that is too long for a datagram is refused where it would be sent, so
the client never sees one; static data that is too long for a packet is not encoded.
-/

namespace DnfServer.Snapshots

open Std DnfServer.Library DnfServer.Dungeons
set_option autoImplicit false

/-- The tables in the vectors of a snapshot. -/
def snapshotElements (message : Protocol.SnapshotMessage) : Nat :=
  match message.payload with
  | none => 0
  | some snapshot =>
    (snapshot.players.map fun player => 1 + player.cooldowns.length).sum + snapshot.enemies.length

/-- The tables that the template and the skill catalog offer. -/
def snapshotCapacity (skillCatalog : SkillCatalog) (template : DungeonTemplate) : Nat :=
  maxPartyMembers * (1 + (skillIds skillCatalog).length) +
    (template.rooms.map (·.enemySpawns.length)).sum

/-! ## Players -/

theorem length_cooldowns {skillCatalog : SkillCatalog} {player : DungeonPlayerState}
    (h : ∀ skillId ∈ player.cooldowns, skillId ∈ skillIds skillCatalog) (sessionId : SessionId) :
    (encodePlayerSnapshot sessionId player.snapshot).cooldowns.length ≤
      (skillIds skillCatalog).length := by
  have hkeys : player.cooldowns.keys.length ≤ (skillIds skillCatalog).length :=
    ExtTreeMap.nodup_keys.length_le_of_subset fun skillId hs => h skillId (ExtTreeMap.mem_keys.mp hs)
  simpa [encodePlayerSnapshot, DungeonPlayerState.snapshot] using hkeys

theorem sum_encodePlayers {skillCatalog : SkillCatalog} {dungeon : DungeonInstance}
    (h : ∀ (s : SessionId) (player : DungeonPlayerState), dungeon.players[s]? = some player →
      ∀ skillId ∈ player.cooldowns, skillId ∈ skillIds skillCatalog)
    {sessions : List SessionId} :
    ∀ {players : List Protocol.PlayerSnapshot}, encodePlayers dungeon sessions = .ok players →
      (players.map fun player => 1 + player.cooldowns.length).sum ≤
        sessions.length * (1 + (skillIds skillCatalog).length) := by
  induction sessions with
  | nil =>
    intro players hp
    obtain rfl := Except.ok.inj hp
    simp
  | cons sessionId rest ih =>
    intro players hp
    simp only [encodePlayers, DungeonInstance.findPlayer] at hp
    split at hp
    · cases hp
    rename_i player hplayer
    cases hrest : encodePlayers dungeon rest with
    | error failure =>
      rw [hrest] at hp
      cases hp
    | ok others =>
      rw [hrest] at hp
      obtain rfl := Except.ok.inj hp
      have hsum := ih hrest
      have hfirst := length_cooldowns (h sessionId player hplayer) sessionId
      simp only [List.map_cons, List.sum_cons, List.length_cons, Nat.add_mul, Nat.one_mul]
      omega

/-! ## Enemies -/

theorem length_enemySnapshots {enemyCatalog : EnemyCatalog} {skillCatalog : SkillCatalog}
    {template : DungeonTemplate} {dungeon : DungeonInstance}
    (hids : (template.rooms.map (·.id)).Nodup)
    (h : Furnished enemyCatalog skillCatalog template dungeon) :
    dungeon.enemySnapshots.length ≤ (template.rooms.map (·.enemySpawns.length)).sum := by
  rw [DungeonInstance.enemySnapshots, List.length_flatMap, h.sameTemplate]
  refine List.sum_le_sum fun roomTemplate hroom => ?_
  split
  · exact Nat.zero_le _
  · rename_i room hr
    obtain ⟨hmem, hid, hcount⟩ := h.rooms roomTemplate.id room hr
    have heq : room.roomTemplate = roomTemplate := List.inj_on_of_nodup_map hids hmem hroom hid
    simp only [List.length_map]
    rw [hcount, heq]
    exact List.length_filter_le _ _

/-- No run of a dungeon makes its snapshots outgrow the capacity. -/
theorem snapshotElements_le {enemyCatalog : EnemyCatalog} {skillCatalog : SkillCatalog}
    {template : DungeonTemplate} {dungeon : DungeonInstance} {serverTick : UInt32}
    {message : Protocol.SnapshotMessage} (hids : (template.rooms.map (·.id)).Nodup)
    (h : Furnished enemyCatalog skillCatalog template dungeon)
    (he : encodeDungeonSnapshot dungeon serverTick = .ok message) :
    snapshotElements message ≤ snapshotCapacity skillCatalog template := by
  unfold encodeDungeonSnapshot at he
  cases hplayers : encodePlayers dungeon dungeon.participants with
  | error failure =>
    rw [hplayers] at he
    cases he
  | ok players =>
    rw [hplayers] at he
    obtain rfl := Except.ok.inj he
    have hsum := sum_encodePlayers h.cooldowns hplayers
    have hparty := Nat.mul_le_mul_right (1 + (skillIds skillCatalog).length) h.participants
    have henemies := length_enemySnapshots hids h
    simp only [snapshotElements, snapshotCapacity, List.length_map]
    omega

/-! ## Static data -/

/-- The tables in the vectors of the static data, and the bytes of the names in them. -/
def staticDataElements (data : DungeonStaticData) : Nat :=
  (data.rooms.map fun room =>
      1 + room.portals.length + room.obstacles.length + room.enemySpawns.length).sum +
    (data.enemyTemplates.map fun enemy => 1 + enemy.name.utf8ByteSize).sum

/-- What the enemy of one spawn can add. -/
def enemyElements (enemyCatalog : EnemyCatalog) (spawn : EnemySpawnTemplate) : Nat :=
  (enemyCatalog.getEnemy spawn.enemyTemplateId).elim 0 fun enemy => 1 + enemy.name.utf8ByteSize

def staticDataCapacity (enemyCatalog : EnemyCatalog) (template : DungeonTemplate) : Nat :=
  (template.rooms.map fun room =>
      1 + room.portals.length + room.obstacles.length + room.enemySpawns.length).sum +
    ((template.rooms.flatMap (·.enemySpawns)).map (enemyElements enemyCatalog)).sum

/-- With every enemy in the catalog the collection succeeds, and takes each spawn at most once. -/
theorem collectEnemies_ok {enemyCatalog : EnemyCatalog} {spawns : List EnemySpawnTemplate}
    (h : ∀ spawn ∈ spawns, (enemyCatalog.getEnemy spawn.enemyTemplateId).isSome) :
    ∀ addedEnemyIds : List EnemyTemplateId, ∃ enemies : List EnemyTemplate,
      collectEnemies enemyCatalog addedEnemyIds spawns = .ok enemies ∧
        (enemies.map fun enemy => 1 + enemy.name.utf8ByteSize).sum ≤
          (spawns.map (enemyElements enemyCatalog)).sum := by
  induction spawns with
  | nil => exact fun _ => ⟨[], rfl, Nat.le_refl _⟩
  | cons spawn spawns ih =>
    intro addedEnemyIds
    have ih := ih fun other ho => h other (List.mem_cons_of_mem _ ho)
    simp only [collectEnemies, List.map_cons, List.sum_cons]
    split
    · obtain ⟨enemies, heq, hsum⟩ := ih addedEnemyIds
      exact ⟨enemies, heq, by omega⟩
    · obtain ⟨enemy, henemy⟩ := Option.isSome_iff_exists.mp (h spawn List.mem_cons_self)
      obtain ⟨enemies, heq, hsum⟩ := ih (spawn.enemyTemplateId :: addedEnemyIds)
      have hone : enemyElements enemyCatalog spawn = 1 + enemy.name.utf8ByteSize := by
        rw [enemyElements, henemy]
        rfl
      refine ⟨enemy :: enemies, ?_, ?_⟩
      · rw [henemy, heq]
        rfl
      · simp only [List.map_cons, List.sum_cons]
        omega

theorem dungeonStaticData_ok {enemyCatalog : EnemyCatalog} {template : DungeonTemplate}
    (h : Admitted enemyCatalog template) (dungeonId : DungeonId) :
    ∃ data : DungeonStaticData, dungeonStaticData enemyCatalog dungeonId template = .ok data ∧
      data.rooms = template.rooms ∧
      staticDataElements data ≤ staticDataCapacity enemyCatalog template := by
  have hspawns : ∀ spawn ∈ template.rooms.flatMap (·.enemySpawns),
      (enemyCatalog.getEnemy spawn.enemyTemplateId).isSome := by
    intro spawn hs
    obtain ⟨room, hr, hs⟩ := List.mem_flatMap.mp hs
    exact (h.sound.supplied hr spawn hs).2
  obtain ⟨enemies, heq, hsum⟩ := collectEnemies_ok hspawns []
  refine ⟨_, congrArg (Except.map _) heq, rfl, ?_⟩
  have hperm := (List.mergeSort_perm enemies fun left right => decide (left.id ≤ right.id)).map
    fun enemy => 1 + enemy.name.utf8ByteSize
  simp only [staticDataElements, staticDataCapacity, hperm.sum_eq]
  omega

/-! ## Delivery -/

/-- The bytes fit a datagram: the server does not count them as oversized, takes them unless
it is stopped, and the client does not drop them for their size. -/
def Delivered (bytes : List UInt8) : Prop :=
  bytes.length ≤ maxDungeonDatagramSize ∧
    (∀ pump : SnapshotPump,
      (pump.sendSnapshot bytes).2.oversizedSnapshotCount = pump.oversizedSnapshotCount ∧
      (bytes ≠ [] → pump.stopped = false → (pump.sendSnapshot bytes).1 = true)) ∧
    Client.passesSizeFilter bytes = true

/-- The bytes are refused with no trace but the count. -/
def Refused (bytes : List UInt8) : Prop :=
  ∀ pump : SnapshotPump, pump.sendSnapshot bytes =
    (false, { pump with oversizedSnapshotCount := pump.oversizedSnapshotCount + 1 })

theorem delivered_of_length {bytes : List UInt8} (h : bytes.length ≤ maxDungeonDatagramSize) :
    Delivered bytes := by
  refine ⟨h, ?_, ?_⟩
  · intro pump
    unfold SnapshotPump.sendSnapshot
    split
    · rename_i hempty
      exact ⟨rfl, fun hne => absurd hempty hne⟩
    split
    · rename_i hlong
      exact absurd h (Nat.not_le_of_lt hlong)
    split
    · rename_i hstopped
      refine ⟨rfl, fun _ hrunning => ?_⟩
      rw [hstopped] at hrunning
      cases hrunning
    · exact ⟨rfl, fun _ _ => rfl⟩
  · simpa [Client.passesSizeFilter, Client.maxDatagramSize, maxDungeonDatagramSize] using h

theorem refused_of_length {bytes : List UInt8} (h : maxDungeonDatagramSize < bytes.length) :
    Refused bytes := by
  intro pump
  have hne : bytes ≠ [] := by
    rintro rfl
    exact Nat.not_lt_zero _ h
  rw [SnapshotPump.sendSnapshot, if_neg hne, if_pos h]

/-- Over every run of a dungeon with an admitted template, for every encoding whose length grows
with the tables: the tables stay within what the template and the catalogs offer. When the
encoding of that many fits, every snapshot is delivered and the static data is sent; what does
not fit is refused, the snapshot by the server before it reaches a client. -/
theorem content_served {enemyCatalog : EnemyCatalog} {skillCatalog : SkillCatalog}
    {template : DungeonTemplate} {dungeonId : DungeonId} {partyId : PartyId}
    {participants : List SessionId} {createdAt : Int} {start dungeon : DungeonInstance}
    {ops : List DungeonOp} (ha : Admitted enemyCatalog template)
    (hn : DungeonInstance.new dungeonId template partyId participants createdAt = .ok start)
    (hr : run (DungeonOp.next enemyCatalog skillCatalog) start ops = some dungeon)
    (encodeSnapshot : Protocol.SnapshotMessage → List UInt8)
    (encodeStaticData : DungeonStaticData → List UInt8) {snapshotSize staticDataSize : Nat → Nat}
    (hs : Monotone snapshotSize)
    (hsnapshot : ∀ message : Protocol.SnapshotMessage,
      (encodeSnapshot message).length ≤ snapshotSize (snapshotElements message))
    (hd : Monotone staticDataSize)
    (hdata : ∀ data : DungeonStaticData,
      (encodeStaticData data).length ≤ staticDataSize (staticDataElements data)) :
    (∀ (serverTick : UInt32) (message : Protocol.SnapshotMessage),
      encodeDungeonSnapshot dungeon serverTick = .ok message →
      snapshotElements message ≤ snapshotCapacity skillCatalog template ∧
      (snapshotSize (snapshotCapacity skillCatalog template) ≤ maxDungeonDatagramSize →
        Delivered (encodeSnapshot message)) ∧
      (Delivered (encodeSnapshot message) ∨
        maxDungeonDatagramSize < (encodeSnapshot message).length ∧
          Refused (encodeSnapshot message))) ∧
    ∃ data : DungeonStaticData,
      dungeonStaticData enemyCatalog dungeon.dungeonId dungeon.dungeonTemplate = .ok data ∧
      staticDataElements data ≤ staticDataCapacity enemyCatalog template ∧
      ∀ requestId : UInt32,
        let response := encodePacket .dungeonStaticDataResponse requestId (encodeStaticData data)
        (staticDataSize (staticDataCapacity enemyCatalog template) ≤ Tcp.maxPayloadSize →
          response.isOk = true) ∧
        (response.isOk = true ↔ (encodeStaticData data).length ≤ Tcp.maxPayloadSize) := by
  have hfurnished := furnished_of_run ha hn hr
  constructor
  · intro serverTick message he
    have hle := snapshotElements_le ha.sound.nodup hfurnished he
    refine ⟨hle, ?_, ?_⟩
    · intro hfits
      refine delivered_of_length ?_
      calc (encodeSnapshot message).length
          ≤ snapshotSize (snapshotElements message) := hsnapshot message
        _ ≤ snapshotSize (snapshotCapacity skillCatalog template) := hs hle
        _ ≤ maxDungeonDatagramSize := hfits
    · rcases Nat.lt_or_ge maxDungeonDatagramSize (encodeSnapshot message).length with hlong | hfits
      · exact Or.inr ⟨hlong, refused_of_length hlong⟩
      · exact Or.inl (delivered_of_length hfits)
  · rw [hfurnished.sameTemplate]
    obtain ⟨data, heq, -, hle⟩ := dungeonStaticData_ok ha dungeon.dungeonId
    refine ⟨data, heq, hle, ?_⟩
    intro requestId response
    have hiff : response.isOk = true ↔ (encodeStaticData data).length ≤ Tcp.maxPayloadSize := by
      rcases Tcp.encodePacket_cases .dungeonStaticDataResponse requestId (encodeStaticData data) with
        ⟨hfits, hok⟩ | ⟨hlong, herror⟩
      · simp only [response, hok, Except.isOk, Except.toBool, hfits]
      · simp only [response, herror, Except.isOk, Except.toBool, Nat.not_le_of_lt hlong]
        decide
    refine ⟨fun hfits => hiff.mpr ?_, hiff⟩
    calc (encodeStaticData data).length
        ≤ staticDataSize (staticDataElements data) := hdata data
      _ ≤ staticDataSize (staticDataCapacity enemyCatalog template) := hd hle
      _ ≤ Tcp.maxPayloadSize := hfits

/-! ### A crowded room -/

def goblin : EnemyTemplate :=
  { id := 1, name := "goblin", maxHp := 10, moveSpeed := 1, aiType := .melee
    collision := ⟨⟨0, 0, 0⟩, ⟨1, 1, 1⟩⟩ }

def goblins : EnemyCatalog := (EnemyCatalog.addEnemy goblin {}).2

def goblinSpawn (index : Nat) : EnemySpawnTemplate :=
  { id := .ofNat (index + 1), enemyTemplateId := goblin.id, position := ⟨1, 1, 0⟩, wave := 1 }

/-- One room with so many goblins, all in the first wave. -/
def crowdedRoom (count : Nat) : RoomTemplate :=
  { id := 1, width := 10, depth := 10, playerSpawn := ⟨1, 1, 0⟩
    enemySpawns := (List.range count).map goblinSpawn }

def crowdedTemplate (count : Nat) : DungeonTemplate :=
  { id := 1, name := "crowd", rooms := [crowdedRoom count], recommendedPartySize := 1
    maxPartySize := 4 }

theorem admitted_crowdedTemplate {count : Nat} (h : count < 4294967295) :
    Admitted goblins (crowdedTemplate count) := by
  have hid : ∀ index < count, (goblinSpawn index).id.toNat = index + 1 := by
    intro index hi
    simp only [goblinSpawn, UInt32.toNat_ofNat']
    omega
  have hrooms : ([crowdedRoom count].map (·.id)).Nodup ∧
      ∀ room ∈ [crowdedRoom count], DungeonCatalog.isValidRoom room := by
    refine ⟨List.nodup_singleton _, ?_⟩
    intro room hr
    obtain rfl := List.mem_singleton.mp hr
    rfl
  have hcontents : ∀ room ∈ [crowdedRoom count],
      DungeonCatalog.hasValidContents goblins [crowdedRoom count] room := by
    intro room hr
    obtain rfl := List.mem_singleton.mp hr
    refine ⟨List.nodup_nil, fun _ hp => absurd hp List.not_mem_nil, List.nodup_nil,
      fun _ ho => absurd ho List.not_mem_nil, ?_, ?_⟩
    · simp only [crowdedRoom, List.map_map]
      refine (List.nodup_range).map_on ?_
      intro i hi j hj heq
      have := congrArg UInt32.toNat heq
      simp only [Function.comp, hid i (List.mem_range.mp hi), hid j (List.mem_range.mp hj)] at this
      omega
    · intro spawn hs
      obtain ⟨index, hi, rfl⟩ := List.mem_map.mp hs
      have hne : (goblinSpawn index).id ≠ 0 := by
        intro h0
        have := hid index (List.mem_range.mp hi)
        rw [h0] at this
        cases this
      simp only [DungeonCatalog.isValidSpawn, bne_iff_ne.mpr hne, Bool.true_and]
      rfl
  refine ⟨{}, 1, "crowd", [crowdedRoom count], 1, 4, ?_⟩
  rw [DungeonCatalog.addDungeon, if_neg (by simp; decide), if_neg (not_not.mpr hrooms),
    if_neg (not_not.mpr hcontents)]
  exact ⟨rfl, rfl⟩

/-- The first wave of a new room fills it with all of its goblins. -/
theorem startNextWave_crowdedRoom {count : Nat} (h : 0 < count) :
    ∃ enemies : List EnemyState, enemies.length = count ∧
      (RoomState.new (crowdedRoom count)).startNextWave goblins =
        (.ok true, { RoomState.new (crowdedRoom count) with enemies, currentWave := 1 }) := by
  have hfirst : goblinSpawn 0 ∈ (crowdedRoom count).enemySpawns :=
    List.mem_map.mpr ⟨0, List.mem_range.mpr h, rfl⟩
  have hwave : (RoomState.new (crowdedRoom count)).nextWave = 1 := by
    obtain ⟨habove, -, hall⟩ := foldl_nextWave 0 (crowdedRoom count).enemySpawns 0
      (fun h0 => absurd rfl h0)
    obtain ⟨hne, hle⟩ := hall _ hfirst (by decide)
    have hlt := habove hne
    rw [UInt32.lt_iff_toNat_lt] at hlt
    rw [UInt32.le_iff_toNat_le] at hle
    exact UInt32.toNat_inj.mp (Nat.le_antisymm hle hlt)
  have hsupplied : ∀ spawn ∈ (crowdedRoom count).enemySpawns,
      (goblins.getEnemy spawn.enemyTemplateId).isSome := by
    intro spawn hs
    obtain ⟨index, -, rfl⟩ := List.mem_map.mp hs
    rfl
  have hall : (crowdedRoom count).enemySpawns.filter (·.wave = 1) =
      (crowdedRoom count).enemySpawns := by
    refine List.filter_eq_self.mpr ?_
    intro spawn hs
    obtain ⟨index, -, rfl⟩ := List.mem_map.mp hs
    rfl
  obtain ⟨added, hids, heq⟩ :=
    @spawnWave_ok goblins 1 _ hsupplied (RoomState.new (crowdedRoom count))
  refine ⟨added, ?_, ?_⟩
  · have hlength := congrArg List.length hids
    rw [List.length_map, List.length_map, hall] at hlength
    rw [hlength]
    simp [crowdedRoom]
  · have hquiet : (RoomState.new (crowdedRoom count)).hasLivingEnemy = false := rfl
    rw [RoomState.startNextWave, hquiet, hwave, if_neg Bool.false_ne_true, if_neg (by decide)]
    simp only [RoomState.new] at heq ⊢
    rw [heq]
    rfl

theorem crowded_new (count : Nat) : ∃ start : DungeonInstance,
    DungeonInstance.new 1 (crowdedTemplate count) 1 [100] 0 = .ok start ∧ start.state = .waiting ∧
      start.dungeonTemplate = crowdedTemplate count ∧ start.participants = [100] ∧
      start.rooms[(1 : RoomId)]? = some (RoomState.new (crowdedRoom count)) ∧
      start.players[(100 : SessionId)]?.isSome := by
  refine ⟨_, rfl, rfl, rfl, rfl, rfl, rfl⟩

/-- A dungeon that has only been started sends one table for each goblin. -/
theorem crowded_started {count : Nat} (h : 0 < count) :
    ∃ (start dungeon : DungeonInstance) (message : Protocol.SnapshotMessage)
      (snapshot : Protocol.DungeonSnapshot),
      DungeonInstance.new 1 (crowdedTemplate count) 1 [100] 0 = .ok start ∧
      run (DungeonOp.next goblins {}) start [.start] = some dungeon ∧
      encodeDungeonSnapshot dungeon 1 = .ok message ∧ message.payload = some snapshot ∧
      snapshot.enemies.length = count := by
  obtain ⟨start, hnew, hwaiting, htemplate, hparticipants, hroom, hplayer⟩ := crowded_new count
  obtain ⟨player, hplayer⟩ := Option.isSome_iff_exists.mp hplayer
  obtain ⟨enemies, hlength, hwave⟩ := startNextWave_crowdedRoom h
  let room := { RoomState.new (crowdedRoom count) with enemies, currentWave := 1 }
  let dungeon := { start with state := .running, rooms := start.rooms.insert 1 room }
  have hrooms : start.dungeonTemplate.rooms = [crowdedRoom count] :=
    congrArg DungeonTemplate.rooms htemplate
  have hid : (crowdedRoom count).id = 1 := rfl
  have hstart : (start.start goblins).2 = dungeon := by
    simp only [DungeonInstance.start, hwaiting, ne_eq, not_true_eq_false, if_false, hrooms, hid, hroom,
      hwave]
    rfl
  have hplayers : encodePlayers dungeon dungeon.participants =
      .ok [encodePlayerSnapshot 100 player.snapshot] := by
    simp only [dungeon, hparticipants, encodePlayers, DungeonInstance.findPlayer, hplayer]
    rfl
  have henemies : dungeon.enemySnapshots.length = count := by
    have hfind : dungeon.findRoom 1 = some room := by
      simp [dungeon, DungeonInstance.findRoom]
    have htemplates : dungeon.dungeonTemplate.rooms = [crowdedRoom count] := hrooms
    simp only [DungeonInstance.enemySnapshots, htemplates, List.flatMap_cons, List.flatMap_nil, hid,
      hfind]
    simpa [room] using hlength
  refine ⟨start, dungeon, _, _, hnew, congrArg some hstart, congrArg (Except.map _) hplayers, rfl, ?_⟩
  simp only [List.length_map, henemies]

/-- One goblin is served. The encodings stand for their lengths alone: 100 bytes, and 100 more
for each table, which is what a player with all of its fields takes. -/
theorem content_served_goblin :
    Admitted goblins (crowdedTemplate 1) ∧
      ∃ (start dungeon : DungeonInstance) (message : Protocol.SnapshotMessage),
        DungeonInstance.new 1 (crowdedTemplate 1) 1 [100] 0 = .ok start ∧
        run (DungeonOp.next goblins {}) start [.start] = some dungeon ∧
        encodeDungeonSnapshot dungeon 1 = .ok message ∧
        Delivered (List.replicate (100 + 100 * snapshotElements message) 0) ∧
        ∃ data : DungeonStaticData,
          dungeonStaticData goblins dungeon.dungeonId dungeon.dungeonTemplate = .ok data ∧
          (encodePacket .dungeonStaticDataResponse 7
            (List.replicate (100 + 100 * staticDataElements data) 0)).isOk = true := by
  have hadmitted : Admitted goblins (crowdedTemplate 1) := admitted_crowdedTemplate (by omega)
  obtain ⟨start, dungeon, message, snapshot, hnew, hrun, hencode, -, -⟩ :=
    @crowded_started 1 (by omega)
  have hgrows : Monotone fun elements : Nat => 100 + 100 * elements := by
    intro m n hle
    simp only
    omega
  obtain ⟨hsnapshots, data, hdata, -, hresponse⟩ := content_served hadmitted hnew hrun
    (fun message => List.replicate (100 + 100 * snapshotElements message) 0)
    (fun data => List.replicate (100 + 100 * staticDataElements data) 0)
    hgrows (fun message => by simp) hgrows (fun data => by simp)
  have hsmall : snapshotCapacity {} (crowdedTemplate 1) = 5 := by decide
  refine ⟨hadmitted, start, dungeon, message, hnew, hrun, hencode, ?_, data, hdata, ?_⟩
  · exact (hsnapshots 1 message hencode).2.1 (by simp only [hsmall]; decide)
  · exact (hresponse 7).1 (by decide)

/-- Admission lets a room with 1201 goblins in, and a datagram cannot hold them. It lets a room
with 16377 goblins in, and a packet cannot hold their spawns. -/
theorem crowds_not_served :
    (Admitted goblins (crowdedTemplate 1201) ∧
      ∃ (start dungeon : DungeonInstance) (message : Protocol.SnapshotMessage),
        DungeonInstance.new 1 (crowdedTemplate 1201) 1 [100] 0 = .ok start ∧
        run (DungeonOp.next goblins {}) start [.start] = some dungeon ∧
        encodeDungeonSnapshot dungeon 1 = .ok message ∧
        ∀ encodeSnapshot : Protocol.SnapshotMessage → List UInt8,
          (∀ (message : Protocol.SnapshotMessage) (snapshot : Protocol.DungeonSnapshot),
            message.payload = some snapshot →
              snapshot.enemies.length ≤ (encodeSnapshot message).length) →
          maxDungeonDatagramSize < (encodeSnapshot message).length ∧
            Refused (encodeSnapshot message) ∧
            Client.passesSizeFilter (encodeSnapshot message) = false) ∧
    Admitted goblins (crowdedTemplate 16377) ∧
      ∃ data : DungeonStaticData,
        dungeonStaticData goblins 1 (crowdedTemplate 16377) = .ok data ∧
        ∀ encodeStaticData : DungeonStaticData → List UInt8,
          (∀ (data : DungeonStaticData), ∀ room ∈ data.rooms,
            room.enemySpawns.length ≤ (encodeStaticData data).length) →
          ∀ requestId : UInt32,
            encodePacket .dungeonStaticDataResponse requestId (encodeStaticData data) =
              .error (.runtimeError "Packet is too large") := by
  have hroom : Admitted goblins (crowdedTemplate 1201) := admitted_crowdedTemplate (by omega)
  have hhall : Admitted goblins (crowdedTemplate 16377) := admitted_crowdedTemplate (by omega)
  refine ⟨⟨hroom, ?_⟩, hhall, ?_⟩
  · obtain ⟨start, dungeon, message, snapshot, hnew, hrun, hencode, hpayload, hcount⟩ :=
      @crowded_started 1201 (by omega)
    refine ⟨start, dungeon, message, hnew, hrun, hencode, ?_⟩
    intro encodeSnapshot hbytes
    have hlong : maxDungeonDatagramSize < (encodeSnapshot message).length := by
      have := hbytes message snapshot hpayload
      simp only [maxDungeonDatagramSize]
      omega
    refine ⟨hlong, refused_of_length hlong, ?_⟩
    simpa [Client.passesSizeFilter, Client.maxDatagramSize, maxDungeonDatagramSize] using hlong
  · obtain ⟨data, hdata, hrooms, -⟩ := dungeonStaticData_ok hhall 1
    refine ⟨data, hdata, ?_⟩
    intro encodeStaticData hbytes requestId
    have hmem : crowdedRoom 16377 ∈ data.rooms := by
      rw [hrooms]
      exact List.mem_singleton_self _
    have hlength : 16377 ≤ (encodeStaticData data).length := by
      have := hbytes data _ hmem
      simpa [crowdedRoom] using this
    have hmax : Tcp.maxPayloadSize = 16376 := rfl
    rcases Tcp.encodePacket_cases .dungeonStaticDataResponse requestId (encodeStaticData data) with
      ⟨hfits, -⟩ | ⟨-, herror⟩
    · omega
    · exact herror

end DnfServer.Snapshots
