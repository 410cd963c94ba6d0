import Mathlib.Data.List.Nodup
import DnfServer.Library.Runs
import DnfServer.Model.AuthDispatcher

/-!
# What the database holds

Every content that the provisioning and the repositories make of an empty database is sound:
the accounts and the profiles pass the checks that reading them makes, and every owned player
is there. So reading the characters of an account never fails on its own.
-/

namespace DnfServer.Auth

open Std DnfServer.Library
set_option autoImplicit false

inductive DatabaseOp where
  | createAccount (loginId encodedPasswordHash : String)
  | createPlayer (playerName : String)
  | createOwnedPlayer (accountId : AccountId) (playerName : String)
  | linkPlayer (accountId : AccountId) (playerId : PlayerId)
  | savePlayer (profile : PlayerProfile)

def DatabaseOp.apply (database : Database) : DatabaseOp → Database
  | .createAccount loginId hash => (database.createAccount loginId hash).2
  | .createPlayer playerName => (database.createPlayer playerName).2
  | .createOwnedPlayer accountId playerName => (database.createOwnedPlayer accountId playerName).2
  | .linkPlayer accountId playerId => (database.linkPlayer accountId playerId).2
  | .savePlayer profile => (database.savePlayer profile).2

def DatabaseOp.next (database : Database) (op : DatabaseOp) : Option Database :=
  some (op.apply database)

/-! ## The invariant -/

/-- The value is a positive number of 32 bits. -/
def Positive32 (value : Nat) : Prop := value ≠ 0 ∧ value ≤ 4294967295

/-- The row reads back as a valid profile. -/
structure SoundRow (row : PlayerRow) : Prop where
  name : LoginValidator.validate row.name = .validPlayerName
  level : Positive32 row.level
  skillPoints : row.skillPoints ≤ 4294967295
  skills : ∀ skillId level : Nat, row.skills[skillId]? = some level →
    Positive32 skillId ∧ Positive32 level

structure Sound (database : Database) : Prop where
  accounts : ∀ (accountId : AccountId) (row : AccountRow), database.accounts[accountId]? = some row →
    canStoreId accountId = true ∧ isValidAccountLoginId row.loginId = true ∧
      isValidEncodedPasswordHash row.passwordHash = true
  players : ∀ (playerId : PlayerId) (row : PlayerRow), database.players[playerId]? = some row →
    canStoreId playerId = true ∧ SoundRow row
  owners : ∀ (playerId : PlayerId) (accountId : AccountId),
    database.accountPlayers[playerId]? = some accountId →
      playerId ∈ database.players ∧ accountId ∈ database.accounts

theorem ne_zero_of_canStoreId {id : Nat} (h : canStoreId id = true) : id ≠ 0 := by
  rintro rfl
  cases h

theorem canStoreId_nextRowId {last id : Nat} (h : Database.nextRowId last = some id) :
    canStoreId id = true := by
  unfold Database.nextRowId at h
  split at h
  · obtain rfl := Option.some.inj h
    simp only [canStoreId, Bool.and_eq_true, decide_eq_true_eq]
    omega
  · cases h

/-- A new player has the default values. -/
theorem soundRow_new {playerName : String}
    (h : LoginValidator.validate playerName = .validPlayerName) :
    SoundRow { name := playerName } where
  name := h
  level := ⟨Nat.one_ne_zero, Nat.le_of_ble_eq_true rfl⟩
  skillPoints := Nat.zero_le _
  skills := fun _ _ hs => by simp at hs

/-- Each row of `player_skills` that a profile writes is one of its skills. -/
theorem foldl_skills {skills : List OwnedSkill} :
    ∀ {table : IdMap Nat} {skillId level : Nat},
      (skills.foldl (fun table skill => table.insert skill.skillId.toNat skill.level.toNat)
        table)[skillId]? = some level →
      table[skillId]? = some level ∨
        ∃ skill ∈ skills, skillId = skill.skillId.toNat ∧ level = skill.level.toNat := by
  induction skills with
  | nil => exact fun h => Or.inl h
  | cons skill rest ih =>
    intro table skillId level h
    rcases ih h with h | ⟨other, ho, heq⟩
    · by_cases hid : skillId = skill.skillId.toNat
      · exact Or.inr ⟨skill, List.mem_cons_self, hid, by grind⟩
      · exact Or.inl (by grind)
    · exact Or.inr ⟨other, List.mem_cons_of_mem _ ho, heq⟩

theorem positive32_toNat {value : UInt32} (h : value ≠ 0) : Positive32 value.toNat := by
  have hlt := value.toNat_lt
  refine ⟨?_, by omega⟩
  intro h0
  exact h (UInt32.toNat_inj.mp h0)

/-- What `SavePlayer` writes of a valid profile. -/
theorem soundRow_save {profile : PlayerProfile} (h : isValidPlayerProfile profile = true) :
    SoundRow
      { name := profile.name, level := profile.level.toNat, skillPoints := profile.skillPoints.toNat
        skills := profile.skills.foldl
          (fun skills skill => skills.insert skill.skillId.toNat skill.level.toNat) ∅ } := by
  simp only [isValidPlayerProfile, Bool.and_eq_true, Bool.not_eq_true', Bool.or_eq_false_iff,
    decide_eq_false_iff_not, List.all_eq_true, bne_iff_ne, not_not] at h
  obtain ⟨⟨⟨⟨-, hlevel⟩, hname⟩, hskills⟩, -⟩ := h
  have hpoints := profile.skillPoints.toNat_lt
  refine ⟨hname, positive32_toNat hlevel, by simp only; omega, ?_⟩
  intro skillId level hs
  rcases foldl_skills hs with hs | ⟨skill, hmem, rfl, rfl⟩
  · simp at hs
  · exact ⟨positive32_toNat (hskills skill hmem).1, positive32_toNat (hskills skill hmem).2⟩

namespace Sound

variable {database : Database}

theorem createAccount (h : Sound database) (loginId hash : String) :
    Sound (database.createAccount loginId hash).2 := by
  unfold Database.createAccount
  split
  · exact h
  rename_i hvalid
  split
  · exact h
  split
  · exact h
  rename_i accountId hnext
  simp only [not_or, not_not] at hvalid
  refine { h with accounts := ?_, owners := ?_ }
  · intro id row hr
    have hrow := h.accounts id row
    have hstore := canStoreId_nextRowId hnext
    simp only at hr
    grind
  · intro playerId owner ho
    have howner := h.owners playerId owner ho
    exact ⟨howner.1, ExtTreeMap.mem_insert.mpr (Or.inr howner.2)⟩

theorem insertPlayer (h : Sound database) {playerId : PlayerId} {row : PlayerRow} {last : Nat}
    (hs : canStoreId playerId = true) (hr : SoundRow row) :
    Sound { database with players := database.players.insert playerId row, lastPlayerId := last } := by
  refine { h with players := ?_, owners := ?_ }
  · intro id other ho
    have hother := h.players id other
    simp only at ho
    grind
  · intro id owner ho
    have howner := h.owners id owner ho
    exact ⟨ExtTreeMap.mem_insert.mpr (Or.inr howner.1), howner.2⟩

theorem insertOwner (h : Sound database) {playerId : PlayerId} {accountId : AccountId}
    (hp : playerId ∈ database.players) (ha : accountId ∈ database.accounts) :
    Sound { database with accountPlayers := database.accountPlayers.insert playerId accountId } := by
  refine { h with owners := ?_ }
  intro id owner ho
  have howner := h.owners id owner
  simp only at ho
  grind

theorem createPlayer (h : Sound database) (playerName : String) :
    Sound (database.createPlayer playerName).2 := by
  unfold Database.createPlayer
  split
  · exact h
  rename_i hname
  split
  · exact h
  split
  · exact h
  · rename_i playerId hnext
    exact h.insertPlayer (canStoreId_nextRowId hnext) (soundRow_new (not_not.mp hname))

theorem createOwnedPlayer (h : Sound database) (accountId : AccountId) (playerName : String) :
    Sound (database.createOwnedPlayer accountId playerName).2 := by
  unfold Database.createOwnedPlayer
  split
  · exact h
  rename_i hinput
  split
  · exact h
  rename_i haccount
  split
  · exact h
  split
  · exact h
  · rename_i playerId hnext
    simp only [not_or, not_not] at hinput
    have hplayer := @insertPlayer _ h _ _ playerId (canStoreId_nextRowId hnext) (soundRow_new hinput.2)
    exact hplayer.insertOwner (ExtTreeMap.mem_insert_self) (not_not.mp haccount)

theorem linkPlayer (h : Sound database) (accountId : AccountId) (playerId : PlayerId) :
    Sound (database.linkPlayer accountId playerId).2 := by
  unfold Database.linkPlayer
  split
  · exact h
  split
  · exact h
  · rename_i hkeys
    simp only [not_or, not_not] at hkeys
    exact h.insertOwner hkeys.2.1 hkeys.1

theorem savePlayer (h : Sound database) (profile : PlayerProfile) :
    Sound (database.savePlayer profile).2 := by
  unfold Database.savePlayer
  split
  · exact h
  rename_i hprofile
  split
  · exact h
  split
  · exact h
  · simp only [not_or, not_not] at hprofile
    exact h.insertPlayer hprofile.1 (soundRow_save hprofile.2)

/-- What one operation preserves. -/
theorem apply (h : Sound database) (op : DatabaseOp) : Sound (op.apply database) := by
  cases op with
  | createAccount loginId hash => exact h.createAccount loginId hash
  | createPlayer playerName => exact h.createPlayer playerName
  | createOwnedPlayer accountId playerName => exact h.createOwnedPlayer accountId playerName
  | linkPlayer accountId playerId => exact h.linkPlayer accountId playerId
  | savePlayer profile => exact h.savePlayer profile

end Sound

theorem sound_empty : Sound {} := by
  refine ⟨?_, ?_, ?_⟩ <;> simp

theorem sound_of_run {ops : List DatabaseOp} {database : Database}
    (hr : run DatabaseOp.next {} ops = some database) : Sound database := by
  refine reachable_invariant Sound ?_ sound_empty ⟨ops, hr⟩
  intro before op after h hn
  obtain rfl := Option.some.inj hn
  exact h.apply op

/-! ## Reading -/

theorem readUint32_ok {value : Nat} (h : value ≤ 4294967295) :
    Database.readUint32 value = .ok (.ofNat value) := by
  rw [Database.readUint32, if_neg (Nat.not_lt.mpr h)]

theorem ofNat_ne_zero {value : Nat} (h : Positive32 value) : UInt32.ofNat value ≠ 0 := by
  intro h0
  have := congrArg UInt32.toNat h0
  simp only [UInt32.toNat_ofNat', UInt32.toNat_zero] at this
  have := h.1
  have := h.2
  omega

theorem ofNat_injective {left right : Nat} (hl : Positive32 left) (hr : Positive32 right)
    (h : UInt32.ofNat left = UInt32.ofNat right) : left = right := by
  have := congrArg UInt32.toNat h
  simp only [UInt32.toNat_ofNat'] at this
  have := hl.2
  have := hr.2
  omega

/-- A loop whose every step returns collects what the steps return. -/
theorem mapM_ok {α β : Type} {f : α → Except Failure β} {g : α → β} {list : List α}
    (h : ∀ a ∈ list, f a = .ok (g a)) : list.mapM f = .ok (list.map g) := by
  induction list with
  | nil => rfl
  | cons a rest ih =>
    rw [List.mapM_cons, h a List.mem_cons_self, ih fun b hb => h b (List.mem_cons_of_mem _ hb)]
    rfl

/-- The skills of a sound row. -/
def ownedSkills (skills : IdMap Nat) : List OwnedSkill :=
  skills.toList.map fun skill => ⟨.ofNat skill.1, .ofNat skill.2⟩

theorem loadSkills_ok {row : PlayerRow} (h : SoundRow row) :
    Database.loadSkills row.skills = .ok (ownedSkills row.skills) := by
  refine mapM_ok ?_
  intro skill hs
  obtain ⟨hid, hlevel⟩ := h.skills skill.1 skill.2 (ExtTreeMap.mem_toList_iff_getElem?_eq_some.mp hs)
  rw [readUint32_ok hid.2, readUint32_ok hlevel.2]
  rfl

theorem nodup_ownedSkills {row : PlayerRow} (h : SoundRow row) :
    ((ownedSkills row.skills).map (·.skillId)).Nodup := by
  have heq : (ownedSkills row.skills).map (·.skillId) =
      (row.skills.toList.map (·.1)).map UInt32.ofNat := by
    rw [ownedSkills, List.map_map, List.map_map]
    rfl
  rw [heq]
  refine (nodup_map_fst_toList row.skills).map_on ?_
  intro left hl right hr hsame
  obtain ⟨skill, hs, rfl⟩ := List.mem_map.mp hl
  obtain ⟨skill', hs', rfl⟩ := List.mem_map.mp hr
  exact ofNat_injective
    (h.skills _ _ (ExtTreeMap.mem_toList_iff_getElem?_eq_some.mp hs)).1
    (h.skills _ _ (ExtTreeMap.mem_toList_iff_getElem?_eq_some.mp hs')).1 hsame

/-- The profile that a sound row reads back as. -/
def profileOf (playerId : PlayerId) (row : PlayerRow) : PlayerProfile :=
  { playerId, name := row.name, level := .ofNat row.level, skillPoints := .ofNat row.skillPoints
    skills := ownedSkills row.skills }

theorem isValidPlayerProfile_profileOf {playerId : PlayerId} {row : PlayerRow} (hid : playerId ≠ 0)
    (h : SoundRow row) : isValidPlayerProfile (profileOf playerId row) = true := by
  simp only [isValidPlayerProfile, Bool.and_eq_true, Bool.not_eq_true', Bool.or_eq_false_iff,
    decide_eq_false_iff_not, List.all_eq_true, bne_iff_ne, not_not, decide_eq_true_eq]
  refine ⟨⟨⟨⟨hid, ofNat_ne_zero h.level⟩, h.name⟩, ?_⟩, nodup_ownedSkills h⟩
  intro skill hs
  obtain ⟨stored, hm, rfl⟩ := List.mem_map.mp hs
  obtain ⟨hskill, hlevel⟩ := h.skills _ _ (ExtTreeMap.mem_toList_iff_getElem?_eq_some.mp hm)
  exact ⟨ofNat_ne_zero hskill, ofNat_ne_zero hlevel⟩

theorem findPlayer_ok {database : Database} {playerId : PlayerId} {row : PlayerRow}
    (h : Sound database) (hr : database.players[playerId]? = some row) :
    database.findPlayer playerId = .ok (some (profileOf playerId row)) := by
  obtain ⟨hstore, hrow⟩ := h.players playerId row hr
  have hid := ne_zero_of_canStoreId hstore
  have hread : Database.readProfile playerId row = .ok (profileOf playerId row) := by
    simp only [Database.readProfile, readUint32_ok hrow.level.2, readUint32_ok hrow.skillPoints,
      loadSkills_ok hrow]
    exact if_pos (isValidPlayerProfile_profileOf hid hrow)
  rw [Database.findPlayer, if_neg (not_not.mpr hstore), hr]
  simp only [hread]
  rfl

/-! ### The characters of an account -/

/-- The players that the table gives to the account, in the order of their ids. -/
def ownedPlayers (accountId : AccountId) (database : Database) : List PlayerId :=
  (database.accountPlayers.toList.filter (·.2 = accountId)).map (·.1)

/-- The rows of those players as characters. -/
def storedCharacters (accountId : AccountId) (database : Database) : List CharacterSummary :=
  (ownedPlayers accountId database).filterMap fun playerId =>
    database.players[playerId]?.map fun row => ⟨playerId, row.name, .ofNat row.level⟩

theorem mem_ownedPlayers {accountId : AccountId} {playerId : PlayerId} {database : Database} :
    playerId ∈ ownedPlayers accountId database ↔
      database.accountPlayers[playerId]? = some accountId := by
  simp only [ownedPlayers, List.mem_map, List.mem_filter, decide_eq_true_eq]
  constructor
  · rintro ⟨⟨id, owner⟩, ⟨hm, rfl⟩, rfl⟩
    exact ExtTreeMap.mem_toList_iff_getElem?_eq_some.mp hm
  · intro h
    exact ⟨(playerId, accountId), ⟨ExtTreeMap.mem_toList_iff_getElem?_eq_some.mpr h, rfl⟩, rfl⟩

theorem loadProfiles_ok {database : Database} (h : Sound database) {playerIds : List PlayerId}
    (hp : ∀ playerId ∈ playerIds, playerId ∈ database.players) :
    loadProfiles database playerIds = .ok (playerIds.filterMap fun playerId =>
      database.players[playerId]?.map fun row => ⟨playerId, row.name, .ofNat row.level⟩) := by
  induction playerIds with
  | nil => rfl
  | cons playerId rest ih =>
    obtain ⟨row, hr⟩ := exists_of_mem (hp playerId List.mem_cons_self)
    have hrest := ih fun other ho => hp other (List.mem_cons_of_mem _ ho)
    simp only [loadProfiles, findPlayer_ok h hr, hrest, List.filterMap_cons, hr]
    rfl

/-- The work for a stored account finds exactly its characters. -/
theorem loadCharacters_stored {database : Database} {accountId : AccountId} (h : Sound database)
    (ha : accountId ∈ database.accounts) :
    loadCharacters {} accountId database =
      { status := .success, characters := storedCharacters accountId database } := by
  obtain ⟨row, hrow⟩ := exists_of_mem ha
  obtain ⟨hstore, hlogin, hhash⟩ := h.accounts accountId row hrow
  have hid := ne_zero_of_canStoreId hstore
  have haccount : database.findAccount accountId =
      .ok (some ⟨accountId, row.loginId, row.passwordHash⟩) := by
    rw [Database.findAccount, if_neg (not_not.mpr hstore), hrow]
    simp [isValidAccount, hid, hlogin, hhash]
  have howned : ∀ playerId ∈ ownedPlayers accountId database, playerId ∈ database.players :=
    fun playerId hp => (h.owners playerId accountId (mem_ownedPlayers.mp hp)).1
  have hids : database.findPlayerIds accountId = .ok (ownedPlayers accountId database) := by
    rw [Database.findPlayerIds, if_neg (not_not.mpr hstore)]
    refine if_neg ?_
    intro hzero
    obtain ⟨row, hr⟩ := exists_of_mem (howned 0 hzero)
    exact ne_zero_of_canStoreId (h.players 0 row hr).1 rfl
  simp only [loadCharacters, if_neg hid, haccount, hids, loadProfiles_ok h howned]
  rfl

/-- Whatever else happens, a list is only returned for a stored account, and then it is that. -/
theorem loadCharacters_cases {database : Database} (h : Sound database)
    (circumstances : Circumstances) (accountId : AccountId) :
    accountId ∈ database.accounts ∧ loadCharacters circumstances accountId database =
        { status := .success, characters := storedCharacters accountId database } ∨
      (loadCharacters circumstances accountId database).status ≠ .success := by
  by_cases ha : accountId ∈ database.accounts
  · by_cases hruns : circumstances.queued = true ∧ circumstances.workThrows = false
    · refine Or.inl ⟨ha, ?_⟩
      rw [← loadCharacters_stored h ha]
      simp only [loadCharacters, hruns]
    · refine Or.inr ?_
      unfold loadCharacters
      split
      · exact fun hs => by cases hs
      split
      · exact fun hs => by cases hs
      rename_i hqueued
      split
      · exact fun hs => by cases hs
      · rename_i hthrows
        exact absurd ⟨not_not.mp hqueued, Bool.eq_false_iff.mpr hthrows⟩ hruns
  · refine Or.inr ?_
    have haccount : database.findAccount accountId = .ok none := by
      rw [Database.findAccount, ExtTreeMap.getElem?_eq_none ha]
      split <;> rfl
    unfold loadCharacters
    rw [haccount]
    split
    · exact fun hs => by cases hs
    split
    · exact fun hs => by cases hs
    split
    · exact fun hs => by cases hs
    · exact fun hs => by cases hs

end DnfServer.Auth
