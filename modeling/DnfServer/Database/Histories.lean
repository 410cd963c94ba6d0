import DnfServer.Database.Provisioning

/-!
# Histories of the store

The calls on the four tables one after the other, each with faults of its own. What the store has answered
is a history of the database in one-step calls, and its rows are those that this history leaves.
-/

namespace DnfServer.Provisioning

open Std DnfServer.Library DnfServer.Library.Work Saving StoreTables StoreWork
set_option autoImplicit false

variable {tables : StoreTables} {database : Database} {playerId : PlayerId}

/-! ## Reading a player -/

/-- The rows of the skills of a player. -/
theorem mem_skillRows (h : Stored tables database) {row : PlayerRow}
    (hrow : database.players[playerId]? = some row) (record : PlayerSkillRecord) :
    record ∈ tables.playerSkills.filter (·.playerId = (playerId : Int)) ↔
      record ∈ row.skills.toList.map fun skill => PlayerSkillRecord.mk playerId skill.1 skill.2 := by
  constructor
  · intro hrecord
    obtain ⟨hmem, hid⟩ := List.mem_filter.mp hrecord
    have hskill := h.schema.skillId record hmem
    have hlevel := h.schema.skillLevel record hmem
    have heq : record = ⟨playerId, record.skillId.toNat, record.skillLevel.toNat⟩ := by
      rw [Int.toNat_of_nonneg (Int.le_of_lt hskill), Int.toNat_of_nonneg (by omega), ← of_decide_eq_true hid]
    have hentry := (h.rows.skills hrow).mpr (heq ▸ hmem)
    rw [heq]
    exact List.mem_map.mpr ⟨(record.skillId.toNat, record.skillLevel.toNat),
      ExtTreeMap.mem_toList_iff_getElem?_eq_some.mpr hentry, rfl⟩
  · intro hrecord
    obtain ⟨skill, hskill, rfl⟩ := List.mem_map.mp hrecord
    refine List.mem_filter.mpr ⟨?_, decide_eq_true rfl⟩
    exact (h.rows.skills hrow).mp (ExtTreeMap.mem_toList_iff_getElem?_eq_some.mp hskill)

/-- They are read in the order of the skills. -/
theorem skillRows_eq (h : Stored tables database) {row : PlayerRow}
    (hrow : database.players[playerId]? = some row) :
    tables.toPlayerTables.skillRows playerId =
      row.skills.toList.map fun skill => ⟨playerId, skill.1, skill.2⟩ := by
  have hrows : (tables.playerSkills.filter (·.playerId = (playerId : Int))).Nodup :=
    (List.Nodup.of_map _ h.schema.skillKeys).sublist List.filter_sublist
  have hskills : (row.skills.toList.map fun skill =>
      PlayerSkillRecord.mk playerId skill.1 skill.2).Nodup := by
    refine (List.Nodup.of_map _ (nodup_map_fst_toList row.skills)).map fun left right heq => ?_
    injection heq with _ hid hlevel
    exact Prod.ext (Int.ofNat_inj.mp hid) (Int.ofNat_inj.mp hlevel)
  have hperm : (tables.toPlayerTables.skillRows playerId).Perm
      (row.skills.toList.map fun skill => PlayerSkillRecord.mk playerId skill.1 skill.2) :=
    (List.mergeSort_perm _ _).trans ((List.perm_ext_iff_of_nodup hrows hskills).mpr (mem_skillRows h hrow))
  have howned {record : PlayerSkillRecord}
      (hrecord : record ∈ tables.toPlayerTables.skillRows playerId) :
      record ∈ tables.playerSkills ∧ record.playerId = playerId := by
    obtain ⟨hmem, hid⟩ := List.mem_filter.mp ((List.mergeSort_perm _ _).mem_iff.mp hrecord)
    exact ⟨hmem, of_decide_eq_true hid⟩
  refine @List.Perm.eq_of_pairwise _ (fun left right : PlayerSkillRecord => left.skillId ≤ right.skillId)
    _ _ (fun left right hleft hright hle hge => ?_) ?_ ?_ hperm
  · have hl := howned hleft
    have hr := howned (hperm.mem_iff.mpr hright)
    refine List.inj_on_of_nodup_map h.schema.skillKeys hl.1 hr.1 ?_
    rw [hl.2, hr.2, Int.le_antisymm hle hge]
  · have hsort := @List.pairwise_mergeSort _
      (fun left right : PlayerSkillRecord => decide (left.skillId ≤ right.skillId))
      (fun a b c hab hbc => by simp only [decide_eq_true_eq] at *; omega)
      (fun a b => by simp only [Bool.or_eq_true, decide_eq_true_eq]; omega)
      (tables.playerSkills.filter (·.playerId = (playerId : Int)))
    exact hsort.imp fun hle => of_decide_eq_true hle
  · refine List.pairwise_map.mpr (ExtTreeMap.ordered_keys_toList.imp fun hlt => ?_)
    exact Int.ofNat_le.mpr (Nat.le_of_lt (Nat.compare_eq_lt.mp hlt))

section

variable {before : Store PlayerTables}

theorem regular_readUint32 (value : Int) : Regular (SqlitePlayerRepository.readUint32 value) :=
  Regular.ite _ (Regular.throw _) (Regular.pure _)

theorem reads_readUint32 (value : Int) : Reads (SqlitePlayerRepository.readUint32 value) := by
  unfold SqlitePlayerRepository.readUint32
  split
  · exact Reads.throw _
  · exact Reads.pure _

theorem yields_readNumber {value : Nat} (h : value ≤ 4294967295) :
    Yields (SqlitePlayerRepository.readUint32 value) before (.ok (.ofNat value)) before := by
  unfold SqlitePlayerRepository.readUint32
  rw [if_neg (by omega), Int.toNat_natCast]
  exact Yields.pure _

theorem regular_readSkillRow (row : PlayerSkillRecord) : Regular (SqlitePlayerRepository.readSkillRow row) :=
  (regular_readUint32 _).bind fun _ => (regular_readUint32 _).bind fun _ =>
    (Regular.touch _).bind fun _ => Regular.pure _

theorem reads_readSkillRow (row : PlayerSkillRecord) : Reads (SqlitePlayerRepository.readSkillRow row) :=
  Reads.bind (reads_readUint32 _) fun _ => Reads.bind (reads_readUint32 _) fun _ =>
    Reads.bind (Reads.touch _) fun _ => Reads.pure _

theorem regular_loadSkills (playerId : PlayerId) : Regular (SqlitePlayerRepository.loadSkills playerId) :=
  (Regular.touch _).bind fun _ => (Regular.touches _ 1).bind fun _ => (Regular.query _ _).bind fun _ =>
    Regular.mapM regular_readSkillRow _

theorem reads_loadSkills (playerId : PlayerId) : Reads (SqlitePlayerRepository.loadSkills playerId) :=
  Reads.bind (Reads.touch _) fun _ => Reads.bind (Reads.touches _ 1) fun _ =>
    Reads.bind (Reads.query _ _) fun _ => Reads.mapM reads_readSkillRow _

theorem yields_readSkills {skills : List (Nat × Nat)}
    (h : ∀ skill ∈ skills, skill.1 ≤ 4294967295 ∧ skill.2 ≤ 4294967295) :
    Yields ((skills.map fun skill => ⟨playerId, skill.1, skill.2⟩).mapM SqlitePlayerRepository.readSkillRow)
      before (.ok (skills.map fun skill => ⟨.ofNat skill.1, .ofNat skill.2⟩)) before := by
  induction skills with
  | nil => exact Yields.pure []
  | cons skill rest ih =>
    obtain ⟨hid, hlevel⟩ := h skill List.mem_cons_self
    have hrow : Yields (SqlitePlayerRepository.readSkillRow ⟨playerId, skill.1, skill.2⟩) before
        (.ok ⟨.ofNat skill.1, .ofNat skill.2⟩) before :=
      Yields.bind (yields_readNumber hid) (Yields.bind (yields_readNumber hlevel)
        (Yields.bind (Yields.touch _) (Yields.pure _)))
    rw [List.map_cons, List.mapM_cons]
    exact Yields.bind hrow (Yields.bind
      (ih fun other hother => h other (List.mem_cons_of_mem _ hother)) (Yields.pure _))

end

theorem regular_findPlayer (playerId : PlayerId) : Regular (SqlitePlayerRepository.findPlayer playerId) := by
  refine Regular.ite _ (Regular.pure none) ((Regular.touch _).bind fun _ =>
    (Regular.touches _ 1).bind fun _ => (Regular.query _ _).bind fun row => ?_)
  cases row with
  | none => exact Regular.pure none
  | some row =>
    refine Regular.bind ?_ fun profile => Regular.pure (some profile)
    have hprofile : Regular (SqlitePlayerRepository.readProfileRow row) :=
      Regular.ite _ (Regular.throw _) ((regular_readUint32 _).bind fun _ =>
        (regular_readUint32 _).bind fun _ => Regular.pure _)
    exact hprofile.bind fun _ => (regular_loadSkills _).bind fun _ =>
      Regular.ite _ (Regular.pure _) (Regular.throw _)

theorem reads_findPlayer (playerId : PlayerId) : Reads (SqlitePlayerRepository.findPlayer playerId) := by
  unfold SqlitePlayerRepository.findPlayer
  split
  · exact Reads.pure none
  refine Reads.bind (Reads.touch _) fun _ => Reads.bind (Reads.touches _ 1) fun _ =>
    Reads.bind (Reads.query _ _) fun row => ?_
  cases row with
  | none => exact Reads.pure none
  | some row =>
    refine Reads.bind ?_ fun profile => Reads.pure (some profile)
    refine Reads.bind ?_ fun profile => Reads.bind (reads_loadSkills _) fun skills => ?_
    · unfold SqlitePlayerRepository.readProfileRow
      split
      · exact Reads.throw _
      · exact Reads.bind (reads_readUint32 _) fun _ => Reads.bind (reads_readUint32 _) fun _ => Reads.pure _
    · split
      · exact Reads.pure _
      · exact Reads.throw _


/-- A player of a sound database is read as the database has it. -/
theorem steps_findPlayer (h : Stored tables database) (hsound : Auth.Sound database) (playerId : PlayerId) :
    StepsTo (SqlitePlayerRepository.loadPlayer playerId) tables True
      (database.findPlayer playerId, database) tables := by
  suffices hyields : Yields (SqlitePlayerRepository.findPlayer playerId)
      { durable := tables.toPlayerTables } (database.findPlayer playerId)
      { durable := tables.toPlayerTables } from
    .of_effect h ((hyields.effect (regular_findPlayer playerId)
      ((reads_findPlayer playerId).spares _)).focus rfl)
  by_cases hid : ¬ canStoreId playerId = true
  · unfold SqlitePlayerRepository.findPlayer Database.findPlayer
    rw [if_pos hid, if_pos hid]
    exact Yields.pure none
  cases hrow : database.players[playerId]? with
  | none =>
    have hnone : tables.toPlayerTables.findRow playerId = none := by
      refine List.find?_eq_none.mpr fun record hrecord heq => ?_
      obtain ⟨otherId, row, hentry, rfl⟩ := h.rows.records record hrecord
      rw [Int.ofNat_inj.mp (of_decide_eq_true heq), hrow] at hentry
      cases hentry
    have hquery : Yields (query SqlitePlayerRepository.raise (·.findRow playerId))
        { durable := tables.toPlayerTables } (.ok none) { durable := tables.toPlayerTables } := by
      rw [← hnone]
      exact Yields.query _ _
    unfold SqlitePlayerRepository.findPlayer Database.findPlayer
    rw [if_neg hid, if_neg hid, hrow]
    exact Yields.bind (Yields.touch _) (Yields.bind (Yields.touches _ 1)
      (Yields.bind hquery (Yields.pure none)))
  | some row =>
    obtain ⟨-, hsoundRow⟩ := hsound.players playerId row hrow
    have hpos : ¬ (playerId : Int) ≤ 0 :=
      Int.not_le.mpr (Int.natCast_pos.mpr (h.playerIds playerId (mem_of_entry hrow)).1)
    have hfound : tables.toPlayerTables.findRow playerId = some (recordOf playerId row) := by
      have hmem := h.rows.players hrow
      have hsome : (tables.players.find? fun record => decide (record.playerId = (playerId : Int))).isSome =
          true := List.find?_isSome.mpr ⟨_, hmem, decide_eq_true rfl⟩
      obtain ⟨found, hfound⟩ := Option.isSome_iff_exists.mp hsome
      have htest := List.find?_some hfound
      rw [PlayerTables.findRow, hfound, List.inj_on_of_nodup_map h.schema.playerIds
        (List.mem_of_find?_eq_some hfound) hmem (of_decide_eq_true htest)]
    have hquery : Yields (query SqlitePlayerRepository.raise (·.findRow playerId))
        { durable := tables.toPlayerTables } (.ok (some (recordOf playerId row)))
        { durable := tables.toPlayerTables } := by
      rw [← hfound]
      exact Yields.query _ _
    have hskills : Yields (SqlitePlayerRepository.loadSkills playerId)
        { durable := tables.toPlayerTables } (.ok (Auth.ownedSkills row.skills))
        { durable := tables.toPlayerTables } := by
      refine Yields.bind (Yields.touch _) (Yields.bind (Yields.touches _ 1)
        (Yields.bind (Yields.query _ _) ?_))
      show Yields ((tables.toPlayerTables.skillRows playerId).mapM _) _ _ _
      rw [skillRows_eq h hrow]
      refine yields_readSkills fun skill hskill => ?_
      obtain ⟨hskillId, hlevel⟩ := hsoundRow.skills skill.1 skill.2
        (ExtTreeMap.mem_toList_iff_getElem?_eq_some.mp hskill)
      exact ⟨hskillId.2, hlevel.2⟩
    have hprofile : Yields (SqlitePlayerRepository.readProfileRow (recordOf playerId row))
        { durable := tables.toPlayerTables }
        (.ok { Auth.profileOf playerId row with skills := [] }) { durable := tables.toPlayerTables } := by
      unfold SqlitePlayerRepository.readProfileRow recordOf
      rw [if_neg hpos, (columnText_of_valid hsoundRow.name).1]
      exact Yields.bind (yields_readNumber hsoundRow.level.2)
        (Yields.bind (yields_readNumber hsoundRow.skillPoints) (Yields.pure _))
    have hloaded : Yields (SqlitePlayerRepository.loadProfile (recordOf playerId row))
        { durable := tables.toPlayerTables } (.ok (Auth.profileOf playerId row))
        { durable := tables.toPlayerTables } := by
      refine Yields.bind hprofile (Yields.bind hskills ?_)
      show Yields (if isValidPlayerProfile (Auth.profileOf playerId row) = true then _ else _) _ _ _
      rw [if_pos (Auth.isValidPlayerProfile_profileOf (Auth.ne_zero_of_canStoreId (not_not.mp hid)) hsoundRow)]
      exact Yields.pure _
    rw [Auth.findPlayer_ok hsound hrow]
    unfold SqlitePlayerRepository.findPlayer
    rw [if_neg hid]
    exact Yields.bind (Yields.touch _) (Yields.bind (Yields.touches _ 1)
      (Yields.bind hquery (Yields.bind hloaded (Yields.pure _))))

/-! ## Calls -/

inductive StoreCall where
  | provisionAccount (loginId : String) (password : Auth.Bytes)
      (randomBytes : Option (Vector UInt8 ScryptPasswordHasher.saltByteCount))
  | createOwnedPlayer (accountId : AccountId) (playerName : String)
  | createPlayer (playerName : String)
  | linkPlayer (accountId : AccountId) (playerId : PlayerId)
  | savePlayer (profile : PlayerProfile)
  | findAccount (accountId : AccountId)
  | findAccountByLoginId (loginId : String)
  | findPlayer (playerId : PlayerId)
  | ownsPlayer (accountId : AccountId) (playerId : PlayerId)
  | findPlayerIds (accountId : AccountId)

/-- What the call returns. -/
abbrev StoreCall.Answer : StoreCall → Type
  | .provisionAccount _ _ _ => AccountProvisioningResult
  | .createOwnedPlayer _ _ => Database.CharacterProvisioningResult
  | .createPlayer _ => Option PlayerProfile
  | .linkPlayer _ _ => Bool
  | .savePlayer _ => Bool
  | .findAccount _ => Option Account
  | .findAccountByLoginId _ => Option Account
  | .findPlayer _ => Option PlayerProfile
  | .ownsPlayer _ _ => Bool
  | .findPlayerIds _ => List PlayerId

section

variable (derive : ScryptPasswordHasher.KeyDerivation)

/-- The function of the repositories, call by call of the client. -/
def StoreCall.work : (call : StoreCall) → StoreWork call.Answer
  | .provisionAccount loginId password randomBytes => AccountProvisioningService.createAccount loginId password
      (ScryptPasswordHasher.hash derive randomBytes password)
  | .createOwnedPlayer accountId playerName =>
    SqliteCharacterProvisioner.createOwnedPlayer accountId playerName
  | .createPlayer playerName => SqlitePlayerRepository.createPlayer playerName
  | .linkPlayer accountId playerId => SqliteAccountPlayerRepository.linkPlayer accountId playerId
  | .savePlayer profile => SqlitePlayerRepository.storePlayer profile
  | .findAccount accountId => SqliteAccountRepository.findAccount accountId
  | .findAccountByLoginId loginId => SqliteAccountRepository.findAccountByLoginId loginId
  | .findPlayer playerId => SqlitePlayerRepository.loadPlayer playerId
  | .ownsPlayer accountId playerId => SqliteAccountPlayerRepository.ownsPlayer accountId playerId
  | .findPlayerIds accountId => SqliteAccountPlayerRepository.findPlayerIds accountId

/-- The same in one step of the database. -/
def StoreCall.step (database : Database) : (call : StoreCall) → Except Failure call.Answer × Database
  | .provisionAccount loginId password randomBytes => Provisioning.provisionAccount loginId password
      (ScryptPasswordHasher.hash derive randomBytes password) database
  | .createOwnedPlayer accountId playerName => database.createOwnedPlayer accountId playerName
  | .createPlayer playerName => database.createPlayer playerName
  | .linkPlayer accountId playerId =>
    ((.ok (database.linkPlayer accountId playerId).1), (database.linkPlayer accountId playerId).2)
  | .savePlayer profile => database.savePlayer profile
  | .findAccount accountId => (database.findAccount accountId, database)
  | .findAccountByLoginId loginId => (Provisioning.findAccountByLoginId loginId database, database)
  | .findPlayer playerId => (database.findPlayer playerId, database)
  | .ownsPlayer accountId playerId => (.ok (database.ownsPlayer accountId playerId), database)
  | .findPlayerIds accountId => (database.findPlayerIds accountId, database)

/-- The table that the call inserts into has not drawn its last identifier. -/
def StoreCall.Room (database : Database) : StoreCall → Prop
  | .provisionAccount _ _ _ => database.lastAccountId < maxRowId
  | .createOwnedPlayer _ _ | .createPlayer _ => database.lastPlayerId < maxRowId
  | _ => True

theorem steps_call (h : Stored tables database) (hsound : Auth.Sound database) (call : StoreCall) :
    ∃ after, StepsTo (call.work derive) tables (call.Room database) (call.step derive database) after := by
  cases call with
  | provisionAccount loginId password randomBytes =>
    exact steps_provisionAccount h loginId password derive randomBytes
  | createOwnedPlayer accountId playerName => exact steps_createOwnedPlayer h accountId playerName
  | createPlayer playerName => exact steps_createPlayer h playerName
  | linkPlayer accountId playerId => exact steps_linkPlayer h accountId playerId
  | savePlayer profile => exact steps_storePlayer h profile
  | findAccount accountId => exact ⟨tables, steps_findAccount h accountId⟩
  | findAccountByLoginId loginId => exact ⟨tables, .of_effect h (effect_findAccountByLoginId h loginId)⟩
  | findPlayer playerId => exact ⟨tables, steps_findPlayer h hsound playerId⟩
  | ownsPlayer accountId playerId => exact ⟨tables, steps_ownsPlayer h accountId playerId⟩
  | findPlayerIds accountId => exact ⟨tables, steps_findPlayerIds h accountId⟩

/-- A call that has returned, with what it has returned. -/
structure Answered where
  call : StoreCall
  answer : call.Answer

/-- What is stored of a password. -/
def storedHash (salt : Vector UInt8 ScryptPasswordHasher.saltByteCount)
    (hash : Vector UInt8 ScryptPasswordHasher.hashByteCount) : String :=
  String.ofList (ScryptPasswordHasher.encodeHash
    { n := ScryptPasswordHasher.scryptN, r := ScryptPasswordHasher.scryptR
      p := ScryptPasswordHasher.scryptP, salt, hash })

/-- The steps that change the database, with what they answer. -/
inductive Changes (database : Database) : Answered → Database → Prop
  | account {loginId : String} {password : Auth.Bytes} {salt : Vector UInt8 ScryptPasswordHasher.saltByteCount}
      {hash : Vector UInt8 ScryptPasswordHasher.hashByteCount}
      (login : isValidAccountLoginId loginId = true)
      (valid : ScryptPasswordHasher.isValidPassword password = true)
      (derived : derive password salt ScryptPasswordHasher.scryptN ScryptPasswordHasher.scryptR
        ScryptPasswordHasher.scryptP = some hash)
      (free : ¬ database.accounts.toList.any
        (fun row => Database.sameLoginId row.2.loginId loginId) = true)
      (room : database.lastAccountId < maxRowId) :
      Changes database
        ⟨.provisionAccount loginId password (some salt), ⟨.success, database.lastAccountId + 1⟩⟩
        { database with
          accounts := database.accounts.insert (database.lastAccountId + 1) ⟨loginId, storedHash salt hash⟩
          lastAccountId := database.lastAccountId + 1 }
  | owned {accountId : AccountId} {playerName : String}
      (owner : accountId ∈ database.accounts) (free : ¬ database.hasPlayerName playerName = true)
      (room : database.lastPlayerId < maxRowId) :
      Changes database ⟨.createOwnedPlayer accountId playerName, ⟨.success, database.lastPlayerId + 1⟩⟩
        { database with
          players := database.players.insert (database.lastPlayerId + 1) { name := playerName }
          accountPlayers := database.accountPlayers.insert (database.lastPlayerId + 1) accountId
          lastPlayerId := database.lastPlayerId + 1 }
  | player {playerName : String} (free : ¬ database.hasPlayerName playerName = true)
      (room : database.lastPlayerId < maxRowId) :
      Changes database
        ⟨.createPlayer playerName, some { playerId := database.lastPlayerId + 1, name := playerName }⟩
        { database with
          players := database.players.insert (database.lastPlayerId + 1) { name := playerName }
          lastPlayerId := database.lastPlayerId + 1 }
  | link {accountId : AccountId} {playerId : PlayerId} (owner : accountId ∈ database.accounts)
      (player : playerId ∈ database.players) (free : playerId ∉ database.accountPlayers) :
      Changes database ⟨.linkPlayer accountId playerId, true⟩
        { database with accountPlayers := database.accountPlayers.insert playerId accountId }
  | save {profile : PlayerProfile} {row : PlayerRow} (player : profile.playerId ∈ database.players) :
      Changes database ⟨.savePlayer profile, true⟩
        { database with players := database.players.insert profile.playerId row }

theorem provision_cases (database : Database) (loginId : String) (password : Auth.Bytes)
    (randomBytes : Option (Vector UInt8 ScryptPasswordHasher.saltByteCount)) :
    ((StoreCall.step derive database (.provisionAccount loginId password randomBytes)).2 = database ∧
        ∀ accountId, (StoreCall.step derive database (.provisionAccount loginId password randomBytes)).1 ≠
          .ok ⟨.success, accountId⟩) ∨
      ∃ answer, (StoreCall.step derive database (.provisionAccount loginId password randomBytes)).1 =
          .ok answer ∧
        Changes derive database ⟨.provisionAccount loginId password randomBytes, answer⟩
          (StoreCall.step derive database (.provisionAccount loginId password randomBytes)).2 := by
  show ((provisionAccount loginId password _ database).2 = database ∧
    ∀ accountId, (provisionAccount loginId password _ database).1 ≠ .ok ⟨.success, accountId⟩) ∨ ∃ answer,
    (provisionAccount loginId password _ database).1 = .ok answer ∧
    Changes derive database ⟨.provisionAccount loginId password randomBytes, answer⟩
      (provisionAccount loginId password _ database).2
  unfold provisionAccount
  by_cases hlogin : ¬ isValidAccountLoginId loginId = true
  · rw [if_pos hlogin]
    exact Or.inl ⟨rfl, fun _ hok => by cases hok⟩
  by_cases hpassword : password.isEmpty = true ∨ password.length > Auth.maxPasswordLength
  · rw [if_neg hlogin, if_pos hpassword]
    exact Or.inl ⟨rfl, fun _ hok => by cases hok⟩
  rw [if_neg hlogin, if_neg hpassword]
  obtain ⟨failure, hhash⟩ | hhash | ⟨salt, hash, rfl, hderived, hhash⟩ :=
    hash_cases derive randomBytes password
  · rw [hhash]
    exact Or.inl ⟨rfl, fun _ hok => by cases hok⟩
  · rw [hhash]
    exact Or.inl ⟨rfl, fun _ hok => by cases hok⟩
  rw [hhash]
  have hvalid : ScryptPasswordHasher.isValidPassword password = true := by
    simp only [not_or, Bool.not_eq_true, Nat.not_lt] at hpassword
    rw [ScryptPasswordHasher.isValidPassword, hpassword.1]
    exact decide_eq_true hpassword.2
  simp only
  unfold Database.createAccount Database.nextRowId
  rw [if_neg fun hinput : ¬ isValidAccountLoginId loginId = true ∨ ¬ DnfServer.isValidEncodedPasswordHash _ =
    true => hinput.elim hlogin fun hstored => hstored (Auth.isValid_stored _)]
  by_cases hfree : database.accounts.toList.any
      (fun row => Database.sameLoginId row.2.loginId loginId) = true
  · rw [if_pos hfree]
    exact Or.inl ⟨rfl, fun _ hok => by cases hok⟩
  rw [if_neg hfree]
  by_cases hlast : database.lastAccountId < maxRowId
  · rw [if_pos hlast]
    exact Or.inr ⟨_, rfl, .account (not_not.mp hlogin) hvalid hderived hfree hlast⟩
  · rw [if_neg hlast]
    exact Or.inl ⟨rfl, fun _ hok => by cases hok⟩

/-- A step changes the database only so, and never by a call that throws. -/
theorem step_cases (database : Database) (call : StoreCall) :
    (call.step derive database).2 = database ∨ ∃ answer, (call.step derive database).1 = .ok answer ∧
      Changes derive database ⟨call, answer⟩ (call.step derive database).2 := by
  cases call with
  | provisionAccount loginId password randomBytes =>
    exact (provision_cases derive database loginId password randomBytes).imp_left And.left
  | createOwnedPlayer accountId playerName =>
    show (database.createOwnedPlayer accountId playerName).2 = database ∨ ∃ answer,
      (database.createOwnedPlayer accountId playerName).1 = .ok answer ∧
      Changes derive database ⟨.createOwnedPlayer accountId playerName, answer⟩
        (database.createOwnedPlayer accountId playerName).2
    unfold Database.createOwnedPlayer Database.nextRowId
    by_cases hinput : ¬ canStoreId accountId = true ∨ LoginValidator.validate playerName ≠ .validPlayerName
    · rw [if_pos hinput]
      exact Or.inl rfl
    by_cases howner : accountId ∉ database.accounts
    · rw [if_neg hinput, if_pos howner]
      exact Or.inl rfl
    by_cases hfree : database.hasPlayerName playerName = true
    · rw [if_neg hinput, if_neg howner, if_pos hfree]
      exact Or.inl rfl
    rw [if_neg hinput, if_neg howner, if_neg hfree]
    by_cases hlast : database.lastPlayerId < maxRowId
    · rw [if_pos hlast]
      exact Or.inr ⟨_, rfl, .owned (not_not.mp howner) hfree hlast⟩
    · rw [if_neg hlast]
      exact Or.inl rfl
  | createPlayer playerName =>
    show (database.createPlayer playerName).2 = database ∨ ∃ answer,
      (database.createPlayer playerName).1 = .ok answer ∧
      Changes derive database ⟨.createPlayer playerName, answer⟩ (database.createPlayer playerName).2
    unfold Database.createPlayer Database.nextRowId
    by_cases hname : LoginValidator.validate playerName ≠ .validPlayerName
    · rw [if_pos hname]
      exact Or.inl rfl
    by_cases hfree : database.hasPlayerName playerName = true
    · rw [if_neg hname, if_pos hfree]
      exact Or.inl rfl
    rw [if_neg hname, if_neg hfree]
    by_cases hlast : database.lastPlayerId < maxRowId
    · rw [if_pos hlast]
      exact Or.inr ⟨_, rfl, .player hfree hlast⟩
    · rw [if_neg hlast]
      exact Or.inl rfl
  | linkPlayer accountId playerId =>
    show (database.linkPlayer accountId playerId).2 = database ∨ ∃ answer,
      (Except.ok (database.linkPlayer accountId playerId).1 : Except Failure Bool) = .ok answer ∧
      Changes derive database ⟨.linkPlayer accountId playerId, answer⟩
        (database.linkPlayer accountId playerId).2
    unfold Database.linkPlayer
    by_cases hids : ¬ canStoreId accountId = true ∨ ¬ canStoreId playerId = true
    · rw [if_pos hids]
      exact Or.inl rfl
    by_cases hkeys : accountId ∉ database.accounts ∨ playerId ∉ database.players ∨
        playerId ∈ database.accountPlayers
    · rw [if_neg hids, if_pos hkeys]
      exact Or.inl rfl
    rw [if_neg hids, if_neg hkeys]
    simp only [not_or, not_not] at hkeys
    exact Or.inr ⟨_, rfl, .link hkeys.1 hkeys.2.1 hkeys.2.2⟩
  | savePlayer profile =>
    show (database.savePlayer profile).2 = database ∨ ∃ answer,
      (database.savePlayer profile).1 = .ok answer ∧
      Changes derive database ⟨.savePlayer profile, answer⟩ (database.savePlayer profile).2
    unfold Database.savePlayer
    by_cases hinput : ¬ canStoreId profile.playerId = true ∨ ¬ isValidPlayerProfile profile = true
    · rw [if_pos hinput]
      exact Or.inl rfl
    by_cases hplayer : profile.playerId ∉ database.players
    · rw [if_neg hinput, if_pos hplayer]
      exact Or.inl rfl
    by_cases htaken : database.players.toList.any
        (fun row => row.1 ≠ profile.playerId && row.2.name = profile.name) = true
    · rw [if_neg hinput, if_neg hplayer, if_pos htaken]
      exact Or.inl rfl
    rw [if_neg hinput, if_neg hplayer, if_neg htaken]
    exact Or.inr ⟨_, rfl, .save (not_not.mp hplayer)⟩
  | _ => exact Or.inl rfl

theorem step_error {call : StoreCall} {failure : Failure}
    (h : (call.step derive database).1 = .error failure) : (call.step derive database).2 = database := by
  rcases step_cases derive database call with hsame | ⟨answer, hok, _⟩
  · exact hsame
  · rw [h] at hok
    cases hok

theorem sound_step (h : Auth.Sound database) (call : StoreCall) :
    Auth.Sound (call.step derive database).2 := by
  cases call with
  | provisionAccount loginId password randomBytes =>
    show Auth.Sound (provisionAccount loginId password _ database).2
    unfold provisionAccount
    split
    · exact h
    split
    · exact h
    split
    · exact h
    · exact h
    · exact h.createAccount loginId _
  | createOwnedPlayer accountId playerName => exact h.createOwnedPlayer accountId playerName
  | createPlayer playerName => exact h.createPlayer playerName
  | linkPlayer accountId playerId => exact h.linkPlayer accountId playerId
  | savePlayer profile => exact h.savePlayer profile
  | _ => exact h

/-! ## Histories -/

/-- The calls on one connection after the other: those that have returned, and the connection. -/
def history : List StoreCall → StoreConnection → List Answered × StoreConnection
  | [], connection => ([], connection)
  | call :: rest, connection =>
    let served := (call.work derive).on connection
    let after := history rest served.2
    match served.1 with
    | .ok answer => (⟨call, answer⟩ :: after.1, after.2)
    | .error _ => after

/-- The database gives the same answers one step after the other. -/
inductive Replays : Database → List Answered → Database → Prop
  | nil (database : Database) : Replays database [] database
  | cons {database last : Database} {call : StoreCall} {answer : call.Answer} {rest : List Answered}
      (answered : (call.step derive database).1 = .ok answer)
      (replays : Replays (call.step derive database).2 rest last) :
      Replays database (⟨call, answer⟩ :: rest) last

variable {derive}

/-- The rows are those of the database, no transaction is open, and every further call either fails and
leaves them, or is one step; it is one step when no call of the client fails and there is room. -/
structure Faithful (derive : ScryptPasswordHasher.KeyDerivation) (connection : StoreConnection)
    (database : Database) : Prop where
  closed : connection.store = { durable := connection.store.durable }
  stored : Stored connection.store.durable database
  sound : Auth.Sound database
  steps : ∀ call : StoreCall, ∃ after,
    StepsTo (call.work derive) connection.store.durable (call.Room database) (call.step derive database) after

theorem faithful_of_stored {connection : StoreConnection} (hclosed : connection.store = { durable := tables })
    (h : Stored tables database) (hsound : Auth.Sound database) : Faithful derive connection database := by
  have hdurable : connection.store.durable = tables := by rw [hclosed]
  subst hdurable
  exact { closed := hclosed, stored := h, sound := hsound, steps := steps_call derive h hsound }

/-- One call on the connection is one step of the database, or none. -/
theorem Faithful.call {connection ended : StoreConnection} (h : Faithful derive connection database)
    {call : StoreCall} {result : Except Failure call.Answer}
    (hrun : (call.work derive).on connection = (result, ended)) :
    (∃ failure, result = .error failure) ∧ Faithful derive ended database ∨
      ∃ answer, result = .ok answer ∧ (call.step derive database).1 = .ok answer ∧
        Faithful derive ended (call.step derive database).2 := by
  obtain ⟨after, hsteps⟩ := h.steps call
  rcases hsteps.atomic h.closed hrun with ⟨failure, rfl, hended⟩ | ⟨rfl, hended⟩
  · exact Or.inl ⟨⟨failure, rfl⟩, faithful_of_stored hended h.stored h.sound⟩
  have hafter : Faithful derive ended (call.step derive database).2 :=
    faithful_of_stored hended hsteps.stored (sound_step derive h.sound call)
  cases hanswer : (call.step derive database).1 with
  | error failure =>
    rw [step_error derive hanswer] at hafter
    exact Or.inl ⟨⟨failure, rfl⟩, hafter⟩
  | ok answer => exact Or.inr ⟨answer, rfl, rfl, hafter⟩

theorem history_cons (call : StoreCall) (rest : List StoreCall) (connection : StoreConnection) :
    (∃ failure, ((call.work derive).on connection).1 = .error failure ∧
      history derive (call :: rest) connection =
        history derive rest ((call.work derive).on connection).2) ∨
    ∃ answer, ((call.work derive).on connection).1 = .ok answer ∧
      history derive (call :: rest) connection =
        (⟨call, answer⟩ :: (history derive rest ((call.work derive).on connection).2).1,
          (history derive rest ((call.work derive).on connection).2).2) := by
  cases hresult : ((call.work derive).on connection).1 with
  | error failure =>
    refine Or.inl ⟨failure, rfl, ?_⟩
    rw [history]
    simp only [hresult]
  | ok answer =>
    refine Or.inr ⟨answer, rfl, ?_⟩
    rw [history]
    simp only [hresult]

/-- What the calls on a connection have answered is replayed by the database. -/
theorem Faithful.history {connection : StoreConnection} (h : Faithful derive connection database)
    (calls : List StoreCall) : ∃ last,
      Replays derive database (history derive calls connection).1 last ∧
        Faithful derive (history derive calls connection).2 last := by
  induction calls generalizing connection database with
  | nil => exact ⟨database, .nil database, h⟩
  | cons call rest ih =>
    obtain ⟨failure, hresult, hhistory⟩ | ⟨answer, hresult, hhistory⟩ :=
      @history_cons derive call rest connection
    · rw [hhistory]
      rcases h.call (on_eq hresult) with ⟨-, hended⟩ | ⟨answer, hok, -⟩
      · exact ih hended
      · cases hok
    · rw [hhistory]
      rcases h.call (on_eq hresult) with ⟨⟨failure, herror⟩, -⟩ | ⟨answer', hok, hstep, hended⟩
      · cases herror
      · obtain rfl := Except.ok.inj hok
        obtain ⟨last, hreplays, hlast⟩ := ih hended
        exact ⟨last, .cons hstep hreplays, hlast⟩

theorem faithful_empty (derive : ScryptPasswordHasher.KeyDerivation) (faults : Nat → Option String) :
    Faithful derive { store := { durable := {} }, faults } {} :=
  faithful_of_stored rfl stored_empty Auth.sound_empty

/-- On a fresh connection to empty tables, whatever calls of the client fail, the calls that have returned
are a history of the database in single steps, and the rows are those that it leaves. -/
theorem replayed_of_history (derive : ScryptPasswordHasher.KeyDerivation) (faults : Nat → Option String)
    (calls : List StoreCall) : ∃ database,
      Replays derive {} (history derive calls { store := { durable := {} }, faults }).1 database ∧
        Faithful derive (history derive calls { store := { durable := {} }, faults }).2 database :=
  (faithful_empty derive faults).history calls

/-! ## What a history never takes back -/

/-- No identifier is larger than the largest drawn. -/
structure Numbered (database : Database) : Prop where
  accounts : ∀ accountId ∈ database.accounts, accountId ≤ database.lastAccountId
  players : ∀ playerId ∈ database.players, playerId ≤ database.lastPlayerId
  owners : ∀ playerId ∈ database.accountPlayers, playerId ≤ database.lastPlayerId

/-- Accounts, owners and players stay, and an identifier that is new has never been drawn before. -/
structure Extends (database last : Database) : Prop where
  accounts : ∀ {accountId : AccountId} {row : AccountRow},
    database.accounts[accountId]? = some row → last.accounts[accountId]? = some row
  owners : ∀ {playerId : PlayerId} {accountId : AccountId},
    database.accountPlayers[playerId]? = some accountId → last.accountPlayers[playerId]? = some accountId
  players : ∀ playerId ∈ database.players, playerId ∈ last.players
  lastAccountId : database.lastAccountId ≤ last.lastAccountId
  lastPlayerId : database.lastPlayerId ≤ last.lastPlayerId
  newAccounts : ∀ accountId ∈ last.accounts, accountId ∈ database.accounts ∨ database.lastAccountId < accountId
  newPlayers : ∀ playerId ∈ last.players, playerId ∈ database.players ∨ database.lastPlayerId < playerId

namespace Extends

theorem refl (database : Database) : Extends database database where
  accounts := id
  owners := id
  players _ h := h
  lastAccountId := Nat.le_refl _
  lastPlayerId := Nat.le_refl _
  newAccounts _ h := Or.inl h
  newPlayers _ h := Or.inl h

theorem trans {database between last : Database} (h : Extends database between)
    (hlast : Extends between last) : Extends database last where
  accounts hrow := hlast.accounts (h.accounts hrow)
  owners howner := hlast.owners (h.owners howner)
  players playerId hplayer := hlast.players playerId (h.players playerId hplayer)
  lastAccountId := h.lastAccountId.trans hlast.lastAccountId
  lastPlayerId := h.lastPlayerId.trans hlast.lastPlayerId
  newAccounts accountId hmem := by
    rcases hlast.newAccounts accountId hmem with hold | hnew
    · exact h.newAccounts accountId hold
    · exact Or.inr (Nat.lt_of_le_of_lt h.lastAccountId hnew)
  newPlayers playerId hmem := by
    rcases hlast.newPlayers playerId hmem with hold | hnew
    · exact h.newPlayers playerId hold
    · exact Or.inr (Nat.lt_of_le_of_lt h.lastPlayerId hnew)

end Extends

/-- An entry at an identifier that the table does not have. -/
theorem getElem?_insert_new {α : Type} {table : IdMap α} {key other : Nat} {value old : α} (hnew : key ∉ table)
    (h : table[other]? = some old) : (table.insert key value)[other]? = some old := by
  have hne : other ≠ key := by
    rintro rfl
    exact hnew (mem_of_entry h)
  rw [getElem?_insert_other hne, h]

theorem mem_insert_iff {α : Type} {table : IdMap α} {key other : Nat} {value : α} :
    other ∈ table.insert key value ↔ key = other ∨ other ∈ table := by
  rw [ExtTreeMap.mem_insert, Nat.compare_eq_eq]

variable {answered : Answered} {last : Database}

/-- An identifier that is inserted next is the largest. -/
theorem le_of_mem_insert {α : Type} {table : IdMap α} {last other : Nat} {value : α}
    (h : ∀ id ∈ table, id ≤ last) (hmem : other ∈ table.insert (last + 1) value) : other ≤ last + 1 := by
  rcases mem_insert_iff.mp hmem with rfl | hold
  · exact Nat.le_refl _
  · exact (h other hold).trans (Nat.le_succ _)

theorem new_of_mem_insert {α : Type} {table : IdMap α} {last other : Nat} {value : α}
    (hmem : other ∈ table.insert (last + 1) value) : other ∈ table ∨ last < other := by
  rcases mem_insert_iff.mp hmem with rfl | hold
  · exact Or.inr (Nat.lt_succ_self _)
  · exact Or.inl hold

theorem Changes.extends (h : Changes derive database answered last) (hnumbered : Numbered database) :
    Extends database last ∧ Numbered last := by
  have haccount : database.lastAccountId + 1 ∉ database.accounts := fun hmem =>
    Nat.not_succ_le_self _ (hnumbered.accounts _ hmem)
  have howner : database.lastPlayerId + 1 ∉ database.accountPlayers := fun hmem =>
    Nat.not_succ_le_self _ (hnumbered.owners _ hmem)
  cases h with
  | account login valid derived free room =>
    exact ⟨{ Extends.refl database with
        accounts := getElem?_insert_new haccount, lastAccountId := Nat.le_succ _
        newAccounts := fun _ => new_of_mem_insert },
      { hnumbered with accounts := fun _ => le_of_mem_insert hnumbered.accounts }⟩
  | owned owner free room =>
    exact ⟨{ Extends.refl database with
        owners := getElem?_insert_new howner, lastPlayerId := Nat.le_succ _
        players := fun _ hold => mem_insert_iff.mpr (Or.inr hold)
        newPlayers := fun _ => new_of_mem_insert },
      { hnumbered with
        players := fun _ => le_of_mem_insert hnumbered.players
        owners := fun _ => le_of_mem_insert hnumbered.owners }⟩
  | player free room =>
    exact ⟨{ Extends.refl database with
        lastPlayerId := Nat.le_succ _
        players := fun _ hold => mem_insert_iff.mpr (Or.inr hold)
        newPlayers := fun _ => new_of_mem_insert },
      { hnumbered with
        players := fun _ => le_of_mem_insert hnumbered.players
        owners := fun playerId hold => (hnumbered.owners playerId hold).trans (Nat.le_succ _) }⟩
  | link owner player free =>
    refine ⟨{ Extends.refl database with owners := getElem?_insert_new free },
      { hnumbered with owners := fun other hmem => ?_ }⟩
    rcases mem_insert_iff.mp hmem with rfl | hold
    · exact hnumbered.players _ player
    · exact hnumbered.owners other hold
  | save player =>
    refine ⟨{ Extends.refl database with
        players := fun _ hold => mem_insert_iff.mpr (Or.inr hold), newPlayers := fun other hmem => ?_ },
      { hnumbered with players := fun other hmem => ?_ }⟩
    · rcases mem_insert_iff.mp hmem with rfl | hold
      · exact Or.inl player
      · exact Or.inl hold
    · rcases mem_insert_iff.mp hmem with rfl | hold
      · exact hnumbered.players _ player
      · exact hnumbered.players other hold

theorem step_extends (hnumbered : Numbered database) (call : StoreCall) :
    Extends database (call.step derive database).2 ∧ Numbered (call.step derive database).2 := by
  rcases step_cases derive database call with hsame | ⟨_, _, hchanges⟩
  · rw [hsame]
    exact ⟨Extends.refl database, hnumbered⟩
  · exact hchanges.extends hnumbered

theorem Replays.extends {answers : List Answered} (h : Replays derive database answers last)
    (hnumbered : Numbered database) : Extends database last ∧ Numbered last := by
  induction h with
  | nil database => exact ⟨Extends.refl database, hnumbered⟩
  | cons _ _ ih =>
    obtain ⟨hstep, hafter⟩ := step_extends hnumbered _
    obtain ⟨hrest, hlast⟩ := ih hafter
    exact ⟨hstep.trans hrest, hlast⟩

/-- The call saves the player. -/
def Saves (playerId : PlayerId) (call : StoreCall) : Prop :=
  ∃ profile, call = .savePlayer profile ∧ profile.playerId = playerId

/-- The row of a player changes by a save of that player only. -/
theorem step_row (hnumbered : Numbered database) {call : StoreCall} (hsaves : ¬ Saves playerId call)
    {row : PlayerRow} (hrow : database.players[playerId]? = some row) :
    (call.step derive database).2.players[playerId]? = some row := by
  have hplayer : database.lastPlayerId + 1 ∉ database.players := fun hmem =>
    Nat.not_succ_le_self _ (hnumbered.players _ hmem)
  rcases step_cases derive database call with hsame | ⟨_, _, hchanges⟩
  · rw [hsame, hrow]
  generalize (call.step derive database).2 = after at hchanges ⊢
  cases hchanges with
  | account => exact hrow
  | owned => exact getElem?_insert_new hplayer hrow
  | player => exact getElem?_insert_new hplayer hrow
  | link => exact hrow
  | @save profile =>
    have hne : playerId ≠ profile.playerId := fun heq => hsaves ⟨profile, rfl, heq.symm⟩
    exact (getElem?_insert_other hne).trans hrow

theorem Replays.row {answers : List Answered} (h : Replays derive database answers last)
    (hnumbered : Numbered database) (hsaves : ∀ answered ∈ answers, ¬ Saves playerId answered.call)
    {row : PlayerRow} (hrow : database.players[playerId]? = some row) :
    last.players[playerId]? = some row := by
  induction h with
  | nil database => exact hrow
  | cons _ _ ih =>
    exact ih (step_extends hnumbered _).2 (fun answered hmem => hsaves answered (List.mem_cons_of_mem _ hmem))
      (step_row hnumbered (hsaves _ List.mem_cons_self) hrow)

/-- What the rows of all tables keep while the calls of `answers` return. -/
structure Keeps (answers : List Answered) (first last : StoreTables) : Prop where
  schema : StoreSchema last
  accounts : ∀ record ∈ first.accounts, record ∈ last.accounts
  links : ∀ record ∈ first.accountPlayers, record ∈ last.accountPlayers
  players : ∀ record ∈ first.players, ∃ kept ∈ last.players, kept.playerId = record.playerId
  unsaved : ∀ (playerId : PlayerId), (∀ answered ∈ answers, ¬ Saves playerId answered.call) →
    ∀ record ∈ first.players, record.playerId = playerId → record ∈ last.players ∧
      ∀ skill : PlayerSkillRecord, skill.playerId = playerId →
        (skill ∈ last.playerSkills ↔ skill ∈ first.playerSkills)
  newAccounts : ∀ record ∈ last.accounts, record ∈ first.accounts ∨ first.lastAccountId < record.accountId
  newPlayers : ∀ record ∈ last.players, (∃ old ∈ first.players, old.playerId = record.playerId) ∨
    first.lastPlayerId < record.playerId

theorem keeps_of_replays {after : StoreTables} {answers : List Answered} (h : Stored tables database)
    (hafter : Stored after last) (hreplays : Replays derive database answers last)
    (hnumbered : Numbered database) : Keeps answers tables after := by
  obtain ⟨hextends, -⟩ := hreplays.extends hnumbered
  refine { schema := hafter.schema, accounts := ?_, links := ?_, players := ?_, unsaved := ?_
           newAccounts := ?_, newPlayers := ?_ }
  · intro record hrecord
    obtain ⟨accountId, row, hrow, rfl⟩ := (h.accounts record).mp hrecord
    exact (hafter.accounts _).mpr ⟨accountId, row, hextends.accounts hrow, rfl⟩
  · intro record hrecord
    obtain ⟨playerId, owner, howner, rfl⟩ := (h.links record).mp hrecord
    exact (hafter.links _).mpr ⟨playerId, owner, hextends.owners howner, rfl⟩
  · intro record hrecord
    obtain ⟨playerId, row, hrow, rfl⟩ := h.rows.records record hrecord
    obtain ⟨kept, hkept⟩ := exists_of_mem (hextends.players playerId (mem_of_entry hrow))
    exact ⟨_, hafter.rows.players hkept, rfl⟩
  · intro playerId hsaves record hrecord hid
    obtain ⟨otherId, row, hrow, rfl⟩ := h.rows.records record hrecord
    obtain rfl : otherId = playerId := Int.ofNat_inj.mp hid
    have hkept := hreplays.row hnumbered hsaves hrow
    refine ⟨hafter.rows.players hkept, fun skill hskill => ?_⟩
    have hrows := (mem_skillRows hafter hkept skill).trans (mem_skillRows h hrow skill).symm
    rw [List.mem_filter, List.mem_filter, decide_eq_true hskill] at hrows
    exact ⟨fun hmem => (hrows.mp ⟨hmem, rfl⟩).1, fun hmem => (hrows.mpr ⟨hmem, rfl⟩).1⟩
  · intro record hrecord
    obtain ⟨accountId, row, hrow, rfl⟩ := (hafter.accounts record).mp hrecord
    rcases hextends.newAccounts accountId (mem_of_entry hrow) with hold | hnew
    · obtain ⟨old, hentry⟩ := exists_of_mem hold
      have hsame := hextends.accounts hentry
      rw [hrow] at hsame
      rw [Option.some.inj hsame]
      exact Or.inl ((h.accounts _).mpr ⟨accountId, old, hentry, rfl⟩)
    · rw [h.lastAccountId]
      exact Or.inr (Int.ofNat_lt.mpr hnew)
  · intro record hrecord
    obtain ⟨playerId, row, hrow, rfl⟩ := hafter.rows.records record hrecord
    rcases hextends.newPlayers playerId (mem_of_entry hrow) with hold | hnew
    · obtain ⟨old, hentry⟩ := exists_of_mem hold
      exact Or.inl ⟨_, h.rows.players hentry, rfl⟩
    · rw [h.lastPlayerId]
      exact Or.inr (Int.ofNat_lt.mpr hnew)

/-- Whatever calls of the client fail, accounts, owners and players stay, the row of a player changes by a
save of that player only, and an identifier that a row gets has never been drawn before. -/
theorem rows_kept (derive : ScryptPasswordHasher.KeyDerivation) (faults : Nat → Option String)
    (earlier later : List StoreCall) :
    Keeps (history derive later (history derive earlier { store := { durable := {} }, faults }).2).1
      (history derive earlier { store := { durable := {} }, faults }).2.store.durable
      (history derive later
        (history derive earlier { store := { durable := {} }, faults }).2).2.store.durable := by
  obtain ⟨database, hearlier, hfirst⟩ := (faithful_empty derive faults).history earlier
  obtain ⟨last, hlater, hlast⟩ := hfirst.history later
  have hempty : Numbered {} := ⟨by simp, by simp, by simp⟩
  exact keeps_of_replays hfirst.stored hlast.stored hlater (hearlier.extends hempty).2

/-! ## Logging in -/

/-- The account has been provisioned with such a login id and a password of the same derived key. -/
def Provisioned (derive : ScryptPasswordHasher.KeyDerivation) (answers : List Answered) (loginId : String)
    (password : Auth.Bytes) (accountId : AccountId) : Prop :=
  ∃ (chosenId : String) (chosen : Auth.Bytes) (salt : Vector UInt8 ScryptPasswordHasher.saltByteCount)
      (hash : Vector UInt8 ScryptPasswordHasher.hashByteCount),
    (⟨.provisionAccount chosenId chosen (some salt), ⟨.success, accountId⟩⟩ : Answered) ∈ answers ∧
      Database.sameLoginId chosenId loginId = true ∧
      derive chosen salt ScryptPasswordHasher.scryptN ScryptPasswordHasher.scryptR
        ScryptPasswordHasher.scryptP = some hash ∧
      derive password salt ScryptPasswordHasher.scryptN ScryptPasswordHasher.scryptR
        ScryptPasswordHasher.scryptP = some hash

/-- The row of an account is what the call has provisioned. -/
def Writes (derive : ScryptPasswordHasher.KeyDerivation) (answered : Answered) (accountId : AccountId)
    (row : AccountRow) : Prop :=
  ∃ (loginId : String) (password : Auth.Bytes) (salt : Vector UInt8 ScryptPasswordHasher.saltByteCount)
      (hash : Vector UInt8 ScryptPasswordHasher.hashByteCount),
    answered = ⟨.provisionAccount loginId password (some salt), ⟨.success, accountId⟩⟩ ∧
      derive password salt ScryptPasswordHasher.scryptN ScryptPasswordHasher.scryptR
        ScryptPasswordHasher.scryptP = some hash ∧
      row = ⟨loginId, storedHash salt hash⟩

theorem step_accounts_other {call : StoreCall}
    (hcall : ∀ loginId password randomBytes, call ≠ .provisionAccount loginId password randomBytes) :
    (call.step derive database).2.accounts = database.accounts := by
  rcases step_cases derive database call with hsame | ⟨_, _, hchanges⟩
  · rw [hsame]
  generalize (call.step derive database).2 = after at hchanges ⊢
  cases hchanges with
  | account => exact absurd rfl (hcall _ _ _)
  | _ => rfl

theorem step_accounts (hnumbered : Numbered database) {call : StoreCall} {answer : call.Answer}
    (hanswer : (call.step derive database).1 = .ok answer) {accountId : AccountId} {row : AccountRow} :
    (call.step derive database).2.accounts[accountId]? = some row ↔
      database.accounts[accountId]? = some row ∨ Writes derive ⟨call, answer⟩ accountId row := by
  have haccount : database.lastAccountId + 1 ∉ database.accounts := fun hmem =>
    Nat.not_succ_le_self _ (hnumbered.accounts _ hmem)
  cases call with
  | provisionAccount loginId password randomBytes =>
    rcases provision_cases derive database loginId password randomBytes with
      ⟨hsame, hfailed⟩ | ⟨answer', hok, hchanges⟩
    · rw [hsame]
      refine ⟨Or.inl, fun h => h.elim id ?_⟩
      rintro ⟨_, _, _, _, heq, -⟩
      cases heq
      exact absurd hanswer (hfailed accountId)
    · rw [hanswer] at hok
      obtain rfl := Except.ok.inj hok
      generalize (StoreCall.step derive database (.provisionAccount loginId password randomBytes)).2 = after
        at hchanges ⊢
      cases hchanges with
      | @account _ _ salt hash login valid derived free room =>
        constructor
        · intro hrow
          by_cases hid : accountId = database.lastAccountId + 1
          · subst hid
            rw [ExtTreeMap.getElem?_insert_self] at hrow
            exact Or.inr ⟨loginId, password, salt, hash, rfl, derived, (Option.some.inj hrow).symm⟩
          · exact Or.inl ((getElem?_insert_other hid).symm.trans hrow)
        · rintro (hrow | ⟨_, _, _, hash', heq, hderived, rfl⟩)
          · exact getElem?_insert_new haccount hrow
          · cases heq
            rw [derived] at hderived
            rw [Option.some.inj hderived]
            exact ExtTreeMap.getElem?_insert_self
  | _ =>
    rw [step_accounts_other fun _ _ _ heq => by cases heq]
    refine ⟨Or.inl, fun h => h.elim id ?_⟩
    rintro ⟨_, _, _, _, heq, -⟩
    cases heq

/-- The accounts are those that have been there, and those that have been provisioned since. -/
theorem Replays.accounts {answers : List Answered} (h : Replays derive database answers last)
    (hnumbered : Numbered database) {accountId : AccountId} {row : AccountRow} :
    last.accounts[accountId]? = some row ↔ database.accounts[accountId]? = some row ∨
      ∃ answered ∈ answers, Writes derive answered accountId row := by
  induction h with
  | nil database => simp
  | cons hanswer _ ih =>
    rw [ih (step_extends hnumbered _).2, step_accounts hnumbered hanswer, or_assoc]
    simp only [List.mem_cons, exists_eq_or_imp]

theorem parse_storedHash (salt : Vector UInt8 ScryptPasswordHasher.saltByteCount)
    (hash : Vector UInt8 ScryptPasswordHasher.hashByteCount) :
    ScryptPasswordHasher.parseEncodedHash (storedHash salt hash).toList =
      some { n := ScryptPasswordHasher.scryptN, r := ScryptPasswordHasher.scryptR
             p := ScryptPasswordHasher.scryptP, salt, hash } := by
  have hsafe : ScryptPasswordHasher.hasSafeScryptParameters ScryptPasswordHasher.scryptN
      ScryptPasswordHasher.scryptR ScryptPasswordHasher.scryptP = true := by decide +kernel
  rw [storedHash, String.toList_ofList, Auth.parse_encodeHash hsafe]

/-- A stored hash verifies the passwords of the same derived key. -/
theorem verify_storedHash {salt : Vector UInt8 ScryptPasswordHasher.saltByteCount}
    {hash : Vector UInt8 ScryptPasswordHasher.hashByteCount} {password : Auth.Bytes} :
    ScryptPasswordHasher.verify derive password (storedHash salt hash) = true ↔
      ScryptPasswordHasher.isValidPassword password = true ∧
        derive password salt ScryptPasswordHasher.scryptN ScryptPasswordHasher.scryptR
          ScryptPasswordHasher.scryptP = some hash := by
  unfold ScryptPasswordHasher.verify
  by_cases hvalid : ¬ ScryptPasswordHasher.isValidPassword password = true
  · rw [if_pos hvalid]
    exact ⟨fun h => absurd h Bool.false_ne_true, fun h => absurd h.1 hvalid⟩
  rw [if_neg hvalid, parse_storedHash]
  simp only [ScryptPasswordHasher.deriveScryptHash]
  cases derive password salt ScryptPasswordHasher.scryptN ScryptPasswordHasher.scryptR
      ScryptPasswordHasher.scryptP with
  | none => simp
  | some derived => simp [not_not.mp hvalid]

/-- The account of a login id in a sound database. -/
theorem find_login (hsound : Auth.Sound database) {loginId : String}
    (hvalid : isValidAccountLoginId loginId = true) :
    (findAccountByLoginId loginId database = .ok none ∧ ∀ (accountId : AccountId) (row : AccountRow),
        database.accounts[accountId]? = some row → Database.sameLoginId row.loginId loginId = false) ∨
      ∃ (accountId : AccountId) (row : AccountRow), database.accounts[accountId]? = some row ∧
        Database.sameLoginId row.loginId loginId = true ∧
        findAccountByLoginId loginId database = .ok (some
          { accountId, loginId := row.loginId, encodedPasswordHash := row.passwordHash }) := by
  unfold findAccountByLoginId
  rw [if_neg (not_not_intro hvalid)]
  cases hfind : database.accounts.toList.find? fun row => Database.sameLoginId row.2.loginId loginId with
  | none =>
    refine Or.inl ⟨rfl, fun accountId row hrow => ?_⟩
    have hnone := List.find?_eq_none.mp hfind _ (ExtTreeMap.mem_toList_iff_getElem?_eq_some.mpr hrow)
    exact Bool.eq_false_iff.mpr hnone
  | some entry =>
    obtain ⟨accountId, row⟩ := entry
    have hrow := ExtTreeMap.mem_toList_iff_getElem?_eq_some.mp (List.mem_of_find?_eq_some hfind)
    have hsame := List.find?_some hfind
    obtain ⟨hstore, hlogin, hhash⟩ := hsound.accounts accountId row hrow
    refine Or.inr ⟨accountId, row, hrow, hsame, ?_⟩
    have haccount : isValidAccount
        { accountId, loginId := row.loginId, encodedPasswordHash := row.passwordHash } = true := by
      unfold isValidAccount
      rw [hlogin, hhash, bne_iff_ne.mpr (Auth.ne_zero_of_canStoreId hstore)]
      rfl
    simp only [haccount, if_true]

/-- What the function makes of a login that it can look up. -/
theorem compared_found {accountId : AccountId} {row : AccountRow} {dummyHash : String}
    {password : Auth.Bytes} {salt : Vector UInt8 ScryptPasswordHasher.saltByteCount}
    {hash : Vector UInt8 ScryptPasswordHasher.hashByteCount} (hrow : row.passwordHash = storedHash salt hash) :
    AccountAuthenticationService.compared derive dummyHash password
        (some { accountId, loginId := row.loginId, encodedPasswordHash := row.passwordHash }) =
      if ScryptPasswordHasher.isValidPassword password = true ∧
          derive password salt ScryptPasswordHasher.scryptN ScryptPasswordHasher.scryptR
            ScryptPasswordHasher.scryptP = some hash then
        { status := .success, accountId := some accountId }
      else { status := .invalidCredentials } := by
  unfold AccountAuthenticationService.compared
  simp only [hrow]
  cases hverify : ScryptPasswordHasher.verify derive password (storedHash salt hash) with
  | true => rw [if_pos (verify_storedHash.mp hverify)]
  | false => rw [if_neg (mt verify_storedHash.mpr (Bool.not_eq_true _ ▸ hverify))]

/-- What the database finds for a login id is compared as the provisioning has it. -/
theorem compared_provisioned (hsound : Auth.Sound database) {answers : List Answered}
    (hunique : ∀ {left right : AccountId} {row other : AccountRow},
      database.accounts[left]? = some row → database.accounts[right]? = some other →
      Database.sameLoginId row.loginId other.loginId = true → left = right)
    (hrows : ∀ {accountId : AccountId} {row : AccountRow}, database.accounts[accountId]? = some row ↔
      ∃ answered ∈ answers, Writes derive answered accountId row)
    (dummyHash loginId : String) (password : Auth.Bytes) :
    ∃ account, findAccountByLoginId loginId database = .ok account ∧
      (AccountAuthenticationService.compared derive dummyHash password account =
          { status := .invalidCredentials } ∨
        ∃ accountId, AccountAuthenticationService.compared derive dummyHash password account =
          { status := .success, accountId := some accountId } ∧
            Provisioned derive answers loginId password accountId) ∧
      (isValidAccountLoginId loginId = true → ScryptPasswordHasher.isValidPassword password = true →
        ∀ accountId, Provisioned derive answers loginId password accountId →
          AccountAuthenticationService.compared derive dummyHash password account =
            { status := .success, accountId := some accountId }) := by
  by_cases hvalid : isValidAccountLoginId loginId = true
  swap
  · refine ⟨none, ?_, Or.inl rfl, fun h => absurd h hvalid⟩
    unfold findAccountByLoginId
    rw [if_pos hvalid]
  obtain ⟨hfind, hnone⟩ | ⟨accountId, row, hrow, hsame, hfind⟩ := find_login hsound hvalid
  · refine ⟨none, hfind, Or.inl rfl, ?_⟩
    rintro - - accountId ⟨chosenId, chosen, salt, hash, hmem, hsame, hchosen, -⟩
    have hrow := hrows.mpr ⟨_, hmem, chosenId, chosen, salt, hash, rfl, hchosen, rfl⟩
    rw [hnone accountId _ hrow] at hsame
    cases hsame
  obtain ⟨_, hmem, chosenId, chosen, salt, hash, rfl, hchosen, rfl⟩ := hrows.mp hrow
  have hcompared := @compared_found derive accountId ⟨chosenId, storedHash salt hash⟩ dummyHash password
    salt hash rfl
  refine ⟨_, hfind, ?_, ?_⟩
  · rw [hcompared]
    split
    · rename_i hderived
      exact Or.inr ⟨accountId, rfl, chosenId, chosen, salt, hash, hmem, hsame, hchosen, hderived.2⟩
    · exact Or.inl rfl
  · rintro - hpassword otherId ⟨otherLogin, other, otherSalt, otherHash, hother, hlogin, hotherDerived, hderived⟩
    have hotherRow := hrows.mpr ⟨_, hother, otherLogin, other, otherSalt, otherHash, rfl, hotherDerived, rfl⟩
    have hids : accountId = otherId := by
      refine hunique hrow hotherRow ?_
      exact decide_eq_true ((of_decide_eq_true hsame).trans (of_decide_eq_true hlogin).symm)
    subst hids
    rw [hrow] at hotherRow
    have hstored := congrArg (fun row => ScryptPasswordHasher.parseEncodedHash row.passwordHash.toList)
      (Option.some.inj hotherRow)
    simp only [parse_storedHash] at hstored
    cases hstored
    rw [hcompared, if_pos ⟨hpassword, hderived⟩]

/-- What a login on the connection makes of the accounts provisioned so far. -/
structure Authenticates (derive : ScryptPasswordHasher.KeyDerivation) (answers : List Answered)
    (loginId : String) (password : Auth.Bytes) (connection ended : StoreConnection)
    (answer : Auth.AccountAuthenticationResult) : Prop where
  unchanged : ended.store = connection.store
  success : answer.status = .success ↔ answer.accountId.isSome = true
  provisioned : ∀ accountId ∈ answer.accountId, Provisioned derive answers loginId password accountId
  found : connection.Unfaulted connection.calls ended.calls →
    isValidAccountLoginId loginId = true → ScryptPasswordHasher.isValidPassword password = true →
    ∀ accountId, Provisioned derive answers loginId password accountId →
      answer = { status := .success, accountId := some accountId }
  certain : connection.Unfaulted connection.calls ended.calls → answer.status ≠ .serviceError
  /-- Every exception of the repository becomes an error of the service, and nothing else does. -/
  failed : answer.status = .serviceError ↔
    ∃ failure, ((SqliteAccountRepository.findAccountByLoginId loginId).on connection).1 = .error failure

theorem compared_status (dummyHash : String) (password : Auth.Bytes) (account : Option Account) :
    (AccountAuthenticationService.compared derive dummyHash password account).status ≠ .serviceError := by
  unfold AccountAuthenticationService.compared
  dsimp only
  split
  · exact fun h => by cases h
  · exact fun h => by cases h

/-- What the service answers when the repository throws, and when it does not. -/
theorem authenticationWork_failed {connection ended : StoreConnection} {dummyHash loginId : String}
    {password : Auth.Bytes} {answer : Auth.AccountAuthenticationResult}
    (hrun : (AccountAuthenticationService.authenticationWork derive dummyHash loginId password).on connection =
      (.ok answer, ended)) :
    answer.status = .serviceError ↔
      ∃ failure, ((SqliteAccountRepository.findAccountByLoginId loginId).on connection).1 = .error failure := by
  have hcaught := Work.on_caught (SqliteAccountRepository.findAccountByLoginId loginId)
    (AccountAuthenticationService.compared derive dummyHash password)
    { status := .serviceError, accountId := none } connection
  obtain ⟨heq, -⟩ := Prod.mk.inj (hrun.symm.trans hcaught)
  obtain rfl := Except.ok.inj heq
  cases hfound : ((SqliteAccountRepository.findAccountByLoginId loginId).on connection).1 with
  | error failure => exact iff_of_true rfl ⟨failure, rfl⟩
  | ok account =>
    refine iff_of_false (compared_status dummyHash password account) ?_
    rintro ⟨failure, hfailure⟩
    cases hfailure

theorem Faithful.authenticates {connection ended : StoreConnection} {answers : List Answered}
    (h : Faithful derive connection database) (hreplays : Replays derive {} answers database)
    {dummyHash loginId : String} {password : Auth.Bytes}
    {result : Except Failure Auth.AccountAuthenticationResult}
    (hrun : (AccountAuthenticationService.authenticationWork derive dummyHash loginId password).on connection =
      (result, ended)) :
    ∃ answer, result = .ok answer ∧
      Authenticates derive answers loginId password connection ended answer := by
  have hempty : Numbered {} := ⟨by simp, by simp, by simp⟩
  have hrows {accountId : AccountId} {row : AccountRow} : database.accounts[accountId]? = some row ↔
      ∃ answered ∈ answers, Writes derive answered accountId row := by
    rw [hreplays.accounts hempty]
    simp
  have hunique {left right : AccountId} {row other : AccountRow} (hleft : database.accounts[left]? = some row)
      (hright : database.accounts[right]? = some other)
      (hsame : Database.sameLoginId row.loginId other.loginId = true) : left = right := by
    have heq := List.inj_on_of_nodup_map h.stored.schema.loginIds
      ((h.stored.accounts _).mpr ⟨left, row, hleft, rfl⟩) ((h.stored.accounts _).mpr ⟨right, other, hright, rfl⟩)
      (of_decide_eq_true hsame)
    injection heq with hid
    exact Int.ofNat_inj.mp hid
  obtain ⟨account, hfind, hcases, hfound⟩ :=
    compared_provisioned h.sound hunique hrows dummyHash loginId password
  obtain ⟨hended, hresult, hwhole⟩ :=
    (effect_findAccountByLoginId h.stored loginId).caught h.closed hrun
  have hunchanged : ended.store = connection.store := hended.trans h.closed.symm
  have hunfaulted (hnone : connection.Unfaulted connection.calls ended.calls) :
      result = .ok (AccountAuthenticationService.compared derive dummyHash password account) := by
    obtain ⟨value, hok, hresult⟩ := hwhole ⟨account, hfind⟩ hnone
    rw [hfind] at hok
    rw [hresult, Except.ok.inj hok]
  rcases hresult with rfl | ⟨value, hok, rfl⟩
  · refine ⟨_, rfl, { unchanged := hunchanged, success := ?_, provisioned := ?_, found := ?_, certain := ?_,
                       failed := authenticationWork_failed hrun }⟩
    · exact iff_of_false (by decide) (by decide)
    · intro accountId hmem
      cases hmem
    · intro hnone hlogin hpassword accountId hprovisioned
      rw [Except.ok.inj (hunfaulted hnone)]
      exact hfound hlogin hpassword accountId hprovisioned
    · intro hnone
      rw [Except.ok.inj (hunfaulted hnone)]
      rcases hcases with heq | ⟨_, heq, _⟩ <;> rw [heq] <;> exact fun h => by cases h
  · rw [hfind] at hok
    obtain rfl := Except.ok.inj hok
    refine ⟨_, rfl, { unchanged := hunchanged, success := ?_, provisioned := ?_, found := ?_, certain := ?_,
                       failed := authenticationWork_failed hrun }⟩
    · rcases hcases with heq | ⟨_, heq, _⟩
      · rw [heq]
        exact iff_of_false (by decide) (by decide)
      · rw [heq]
        exact ⟨fun _ => rfl, fun _ => rfl⟩
    · intro accountId hmem
      rcases hcases with heq | ⟨_, heq, hprovisioned⟩
      · rw [heq] at hmem
        cases hmem
      · rw [heq] at hmem
        cases hmem
        exact hprovisioned
    · exact fun _ => hfound
    · intro _
      rcases hcases with heq | ⟨_, heq, _⟩ <;> rw [heq] <;> exact fun h => by cases h

/-- Whatever calls of the client fail, a login answers with an account only if a provisioning has made that
account with the login id, up to case, and a password of the same derived key. Without a failure it does. -/
theorem authenticated_of_history (derive : ScryptPasswordHasher.KeyDerivation) (faults : Nat → Option String)
    (calls : List StoreCall) (dummyHash loginId : String) (password : Auth.Bytes) :
    ∃ answer ended,
      (AccountAuthenticationService.authenticationWork derive dummyHash loginId password).on
          (history derive calls { store := { durable := {} }, faults }).2 = (.ok answer, ended) ∧
        Authenticates derive (history derive calls { store := { durable := {} }, faults }).1 loginId password
          (history derive calls { store := { durable := {} }, faults }).2 ended answer := by
  obtain ⟨database, hreplays, hfaithful⟩ := (faithful_empty derive faults).history calls
  rcases hrun : (AccountAuthenticationService.authenticationWork derive dummyHash loginId password).on
    (history derive calls { store := { durable := {} }, faults }).2 with ⟨result, ended⟩
  obtain ⟨answer, rfl, hanswer⟩ := hfaithful.authenticates hreplays hrun
  exact ⟨answer, ended, rfl, hanswer⟩

end

end DnfServer.Provisioning
