import DnfServer.Library.Containers
import DnfServer.Library.Decimal
import DnfServer.Model.PlayerStore
import Mathlib.Data.List.Nodup

/-!
# Saves of a player are atomic

`SqlitePlayerRepository::SavePlayer` either leaves the tables as they were or leaves the profile,
and what it leaves is what `FindPlayer` reads back. It is stated for every fault of every call.
`MySqlPlayerRepository::SavePlayer` has the effect of its last attempt, which is the same or none.
-/

namespace DnfServer.Saving

open DnfServer.Library DnfServer.Library.Work PlayerTables

variable {profile : PlayerProfile} {tables : PlayerTables} {playerId : PlayerId}
  {skill : OwnedSkill} {skills : List OwnedSkill}

/-! ## The schema -/

theorem firstViolation_eq_none {φ : Type} {constraints : List (φ × (PlayerTables → Bool))} :
    firstViolation constraints tables = none ↔ ∀ constraint ∈ constraints, constraint.2 tables = true := by
  simp [firstViolation]

theorem hasPlayer_iff {playerId : Int} :
    tables.hasPlayer playerId = true ↔ ∃ row ∈ tables.players, row.playerId = playerId := by
  simp [hasPlayer]

/-- The constraints of `SqliteDatabase` on `players`, but for the unique names. -/
structure PlayerRows (tables : PlayerTables) : Prop where
  nameLength : ∀ row ∈ tables.players, 1 ≤ (SqlitePlayerRepository.columnText row.name).length ∧
    (SqlitePlayerRepository.columnText row.name).length ≤ 16
  level : ∀ row ∈ tables.players, 1 ≤ row.level
  skillPoints : ∀ row ∈ tables.players, 0 ≤ row.skillPoints
  playerIds : (tables.players.map (·.playerId)).Nodup

/-- The constraints of `SqliteDatabase` on both tables. -/
structure Schema (tables : PlayerTables) : Prop extends PlayerRows tables where
  names : (tables.players.map (·.name)).Nodup
  skillId : ∀ row ∈ tables.playerSkills, 0 < row.skillId
  skillLevel : ∀ row ∈ tables.playerSkills, 1 ≤ row.skillLevel
  skillKeys : (tables.playerSkills.map fun row => (row.playerId, row.skillId)).Nodup
  owners : ∀ row ∈ tables.playerSkills, tables.hasPlayer row.playerId = true

theorem firstViolation_iff_schema :
    firstViolation SqlitePlayerRepository.constraints tables = none ↔ Schema tables := by
  rw [firstViolation_eq_none]
  constructor
  · intro h
    simp only [SqlitePlayerRepository.constraints, List.forall_mem_cons, List.all_eq_true,
      Bool.and_eq_true, decide_eq_true_eq] at h
    obtain ⟨hname, hlevel, hpoints, hids, hnames, hskill, hskillLevel, hkeys, howners, _⟩ := h
    exact { nameLength := hname, level := hlevel, skillPoints := hpoints, playerIds := hids
            names := hnames, skillId := hskill, skillLevel := hskillLevel, skillKeys := hkeys
            owners := howners }
  · intro h
    simp only [SqlitePlayerRepository.constraints, List.forall_mem_cons, List.all_eq_true,
      Bool.and_eq_true, decide_eq_true_eq]
    exact ⟨h.nameLength, h.level, h.skillPoints, h.playerIds, h.names, h.skillId, h.skillLevel,
      h.skillKeys, h.owners, fun _ hnil => by cases hnil⟩

/-- The name of the profile is that of another player. -/
def NameTaken (profile : PlayerProfile) (tables : PlayerTables) : Prop :=
  ∃ row ∈ tables.players, row.playerId ≠ profile.playerId ∧ row.name = profile.name

/-! ## What a statement leaves -/

/-- The row of a player with the values of the profile. -/
def profileRow (profile : PlayerProfile) : PlayerRecord :=
  { playerId := profile.playerId, name := profile.name, level := profile.level.toNat
    skillPoints := profile.skillPoints.toNat }

/-- The row that `UPDATE` leaves of a row. -/
def updatedRow (profile : PlayerProfile) (row : PlayerRecord) : PlayerRecord :=
  if row.playerId = (profile.playerId : Int) then
    { row with name := profile.name, level := profile.level.toNat, skillPoints := profile.skillPoints.toNat }
  else row

theorem players_updatePlayer :
    (tables.updatePlayer profile).players = tables.players.map (updatedRow profile) := rfl

theorem updatedRow_playerId (row : PlayerRecord) :
    (updatedRow profile row).playerId = row.playerId := by
  unfold updatedRow
  split <;> rfl

theorem updatedRow_self {row : PlayerRecord} (h : row.playerId = profile.playerId) :
    updatedRow profile row = profileRow profile := by
  rw [updatedRow, if_pos h, profileRow, ← h]

theorem updatedRow_other {row : PlayerRecord} (h : row.playerId ≠ profile.playerId) :
    updatedRow profile row = row := if_neg h

theorem map_playerId_updatePlayer :
    (tables.updatePlayer profile).players.map (·.playerId) = tables.players.map (·.playerId) := by
  rw [players_updatePlayer, List.map_map]
  exact List.map_congr_left fun row _ => updatedRow_playerId row

theorem hasPlayer_congr {other : PlayerTables} {playerId : Int}
    (h : other.players.map (·.playerId) = tables.players.map (·.playerId)) :
    other.hasPlayer playerId = tables.hasPlayer playerId := by
  have hany (tables : PlayerTables) : tables.hasPlayer playerId =
      (tables.players.map (·.playerId)).any fun id => id = playerId := by
    rw [hasPlayer, List.any_map]
    rfl
  rw [hany, hany, h]

/-! ### Valid profiles -/

theorem valid_name (h : isValidPlayerProfile profile = true) :
    LoginValidator.validate profile.name = .validPlayerName := by
  unfold isValidPlayerProfile at h
  by_contra hname
  simp [hname] at h

theorem valid_level (h : isValidPlayerProfile profile = true) : profile.level ≠ 0 := by
  unfold isValidPlayerProfile at h
  intro hlevel
  simp [hlevel] at h

theorem valid_skill (h : isValidPlayerProfile profile = true) (hskill : skill ∈ profile.skills) :
    skill.skillId ≠ 0 ∧ skill.level ≠ 0 := by
  unfold isValidPlayerProfile at h
  simp only [Bool.and_eq_true, List.all_eq_true, bne_iff_ne] at h
  exact h.1.2 skill hskill

theorem valid_skillIds (h : isValidPlayerProfile profile = true) :
    (profile.skills.map (·.skillId)).Nodup := by
  unfold isValidPlayerProfile at h
  simp only [Bool.and_eq_true, decide_eq_true_eq] at h
  exact h.2

theorem toNat_pos {value : UInt32} (h : value ≠ 0) : 1 ≤ value.toNat :=
  Nat.pos_of_ne_zero fun hzero => h (UInt32.toNat_inj.mp hzero)

theorem ascii_of_allowed {c : Char} (h : isAllowedCharacter c = true) :
    c.utf8Size = 1 ∧ c ≠ Char.ofNat 0 := by
  have hrange : 48 ≤ c.toNat ∧ c.toNat ≤ 122 := by
    simp only [isAllowedCharacter, Bool.or_eq_true, Bool.and_eq_true, decide_eq_true_eq] at h
    have hle {low high : Char} (hc : low ≤ c ∧ c ≤ high) : low.toNat ≤ c.toNat ∧ c.toNat ≤ high.toNat :=
      ⟨UInt32.le_iff_toNat_le.mp hc.1, UInt32.le_iff_toNat_le.mp hc.2⟩
    rcases h with ((hupper | hlower) | hdigit) | rfl
    · have := hle hupper
      exact ⟨le_trans (by decide) this.1, le_trans this.2 (by decide)⟩
    · have := hle hlower
      exact ⟨le_trans (by decide) this.1, le_trans this.2 (by decide)⟩
    · have := hle hdigit
      exact ⟨le_trans (by decide) this.1, le_trans this.2 (by decide)⟩
    · decide
  constructor
  · exact Char.utf8Size_eq_one_iff.mpr (UInt32.le_iff_toNat_le.mpr (le_trans hrange.2 (by decide)))
  · rintro rfl
    exact absurd hrange.1 (by decide)

/-- A valid name is a text without zeros, of one to sixteen characters. -/
theorem columnText_of_valid {name : String} (h : LoginValidator.validate name = .validPlayerName) :
    SqlitePlayerRepository.columnText name = name ∧ 1 ≤ name.length ∧ name.length ≤ 16 := by
  unfold LoginValidator.validate at h
  by_cases hempty : name.isEmpty = true
  · simp [hempty] at h
  by_cases hlong : name.utf8ByteSize > maxPlayerNameLength
  · simp [hempty, hlong] at h
  by_cases hallowed : name.toList.all isAllowedCharacter = true
  · have hascii : ∀ c ∈ name.toList, c.utf8Size = 1 ∧ c ≠ Char.ofNat 0 := fun c hc =>
      ascii_of_allowed (List.all_eq_true.mp hallowed c hc)
    have hbytes : name.utf8ByteSize = name.length := by
      have hsize := utf8ByteSize_ofList fun c hc => (hascii c hc).1
      rwa [String.ofList_toList] at hsize
    have hne : name.utf8ByteSize ≠ 0 := fun hzero =>
      hempty (String.isEmpty_iff_utf8ByteSize_eq_zero.mpr hzero)
    refine ⟨?_, by omega, by unfold maxPlayerNameLength at hlong; omega⟩
    unfold SqlitePlayerRepository.columnText
    rw [List.takeWhile_eq_self_iff.mpr fun c hc => decide_eq_true (hascii c hc).2, String.ofList_toList]
  · simp [hempty, hlong, hallowed] at h

/-! ### Each statement keeps the schema -/

theorem playerRows_updatePlayer (h : PlayerRows tables) (hvalid : isValidPlayerProfile profile = true) :
    PlayerRows (tables.updatePlayer profile) := by
  obtain ⟨htext, hpos, hle⟩ := columnText_of_valid (valid_name hvalid)
  have hlevel := toNat_pos (valid_level hvalid)
  have hrows {P : PlayerRecord → Prop} (hself : P (profileRow profile))
      (hall : ∀ row ∈ tables.players, P row) : ∀ row ∈ (tables.updatePlayer profile).players, P row := by
    intro row hrow
    obtain ⟨before, hbefore, rfl⟩ := List.mem_map.mp hrow
    by_cases hid : before.playerId = profile.playerId
    · have hupdated := updatedRow_self hid
      unfold updatedRow at hupdated
      rw [hupdated]
      exact hself
    · rw [if_neg hid]
      exact hall before hbefore
  refine ⟨hrows ?_ h.nameLength, hrows ?_ h.level, hrows ?_ h.skillPoints, ?_⟩
  · show 1 ≤ (SqlitePlayerRepository.columnText profile.name).length ∧
      (SqlitePlayerRepository.columnText profile.name).length ≤ 16
    rw [htext]
    exact ⟨hpos, hle⟩
  · show (1 : Int) ≤ profile.level.toNat
    omega
  · show (0 : Int) ≤ profile.skillPoints.toNat
    omega
  · rw [map_playerId_updatePlayer]
    exact h.playerIds

/-- Distinct rows keep distinct names, unless the new name is that of another player. -/
theorem names_updatePlayer (h : Schema tables) (hfree : ¬ NameTaken profile tables) :
    ((tables.updatePlayer profile).players.map (·.name)).Nodup := by
  rw [players_updatePlayer, List.map_map]
  have hids := List.pairwise_map.mp h.playerIds
  have hnames := List.pairwise_map.mp h.names
  refine List.pairwise_map.mpr ((hids.and hnames).imp_of_mem ?_)
  intro first second hfirst hsecond hdistinct heq
  have hother {row : PlayerRecord} (hrow : row ∈ tables.players)
      (hid : row.playerId ≠ profile.playerId) : row.name ≠ profile.name :=
    fun hname => hfree ⟨row, hrow, hid, hname⟩
  show False
  replace heq : (updatedRow profile first).name = (updatedRow profile second).name := heq
  by_cases hself : first.playerId = profile.playerId
  · have hid : second.playerId ≠ profile.playerId := fun hid => hdistinct.1 (hself.trans hid.symm)
    rw [updatedRow_self hself, updatedRow_other hid] at heq
    exact hother hsecond hid heq.symm
  · rw [updatedRow_other hself] at heq
    by_cases hid : second.playerId = profile.playerId
    · rw [updatedRow_self hid] at heq
      exact hother hfirst hself heq
    · rw [updatedRow_other hid] at heq
      exact hdistinct.2 heq

theorem schema_updatePlayer (h : Schema tables) (hvalid : isValidPlayerProfile profile = true)
    (hfree : ¬ NameTaken profile tables) : Schema (tables.updatePlayer profile) where
  toPlayerRows := playerRows_updatePlayer h.toPlayerRows hvalid
  names := names_updatePlayer h hfree
  skillId := h.skillId
  skillLevel := h.skillLevel
  skillKeys := h.skillKeys
  owners row hrow := by
    rw [hasPlayer_congr map_playerId_updatePlayer]
    exact h.owners row hrow

theorem schema_deleteSkills (h : Schema tables) (playerId : Int) :
    Schema (tables.deleteSkills playerId) where
  toPlayerRows := ⟨h.nameLength, h.level, h.skillPoints, h.playerIds⟩
  names := h.names
  skillId row hrow := h.skillId row (List.mem_of_mem_filter hrow)
  skillLevel row hrow := h.skillLevel row (List.mem_of_mem_filter hrow)
  skillKeys := h.skillKeys.sublist (List.filter_sublist.map _)
  owners row hrow := h.owners row (List.mem_of_mem_filter hrow)

theorem schema_insertSkill (h : Schema tables) (hplayer : tables.hasPlayer playerId = true)
    (hskill : skill.skillId ≠ 0 ∧ skill.level ≠ 0)
    (hnew : ∀ row ∈ tables.playerSkills, row.playerId = playerId → row.skillId ≠ skill.skillId.toNat) :
    Schema (tables.insertSkill playerId skill) := by
  have hid := toNat_pos hskill.1
  have hlevel := toNat_pos hskill.2
  refine { toPlayerRows := ⟨h.nameLength, h.level, h.skillPoints, h.playerIds⟩, names := h.names
           skillId := ?_, skillLevel := ?_, skillKeys := ?_, owners := ?_ }
  · refine List.forall_mem_append.mpr ⟨h.skillId, List.forall_mem_singleton.mpr ?_⟩
    show (0 : Int) < skill.skillId.toNat
    omega
  · refine List.forall_mem_append.mpr ⟨h.skillLevel, List.forall_mem_singleton.mpr ?_⟩
    show (1 : Int) ≤ skill.level.toNat
    omega
  · show (List.map _ (_ ++ _)).Nodup
    rw [List.map_append, List.nodup_append]
    refine ⟨h.skillKeys, List.nodup_singleton _, ?_⟩
    intro key hkey other hother heq
    obtain ⟨row, hrow, rfl⟩ := List.mem_map.mp hkey
    rw [List.map_singleton, List.mem_singleton] at hother
    rw [hother] at heq
    obtain ⟨hsame, hsameSkill⟩ := Prod.mk.inj heq
    exact hnew row hrow hsame hsameSkill
  · exact List.forall_mem_append.mpr ⟨h.owners, List.forall_mem_singleton.mpr hplayer⟩

/-- Of the constraints only the unique name can be violated, and it is when the name is taken. -/
theorem firstViolation_nameTaken (h : Schema tables) (hvalid : isValidPlayerProfile profile = true)
    (hplayer : tables.hasPlayer profile.playerId = true) (htaken : NameTaken profile tables) :
    firstViolation SqlitePlayerRepository.constraints (tables.updatePlayer profile) =
      some "UNIQUE constraint failed: players.name" := by
  have hrows := playerRows_updatePlayer h.toPlayerRows hvalid
  have hnames : ¬ ((tables.updatePlayer profile).players.map (·.name)).Nodup := by
    intro hnodup
    obtain ⟨own, hown, hid⟩ := hasPlayer_iff.mp hplayer
    obtain ⟨taken, htakenMem, htakenId, hname⟩ := htaken
    have heq := List.inj_on_of_nodup_map hnodup
      (List.mem_map_of_mem (f := updatedRow profile) hown)
      (List.mem_map_of_mem (f := updatedRow profile) htakenMem)
      (by rw [updatedRow_self hid, updatedRow_other htakenId, hname, profileRow])
    have hids := congrArg PlayerRecord.playerId heq
    rw [updatedRow_playerId, updatedRow_playerId, hid] at hids
    exact htakenId hids.symm
  unfold firstViolation SqlitePlayerRepository.constraints
  rw [List.find?_cons_of_neg, List.find?_cons_of_neg, List.find?_cons_of_neg, List.find?_cons_of_neg,
    List.find?_cons_of_pos]
  · rfl
  · simp only [hnames, decide_false, Bool.not_false]
  · simp only [hrows.playerIds, decide_true, Bool.not_true, Bool.false_eq_true, not_false_eq_true]
  · simpa using hrows.skillPoints
  · simpa using hrows.level
  · simpa using hrows.nameLength

/-! ## What a transaction leaves -/

/-- The row that `INSERT` writes of a skill. -/
def skillRow (playerId : PlayerId) (skill : OwnedSkill) : PlayerSkillRecord :=
  { playerId, skillId := skill.skillId.toNat, skillLevel := skill.level.toNat }

theorem foldl_insertSkill : skills.foldl (insertSkill playerId) tables =
    { tables with playerSkills := tables.playerSkills ++ skills.map (skillRow playerId) } := by
  induction skills generalizing tables with
  | nil => rw [List.foldl_nil, List.map_nil, List.append_nil]
  | cons skill rest ih =>
    rw [List.foldl_cons, ih, List.map_cons]
    show PlayerTables.mk tables.players ((_ ++ [_]) ++ _) = _
    rw [List.append_assoc]
    rfl

theorem players_saved : (tables.saved profile).players = tables.players.map (updatedRow profile) := by
  rw [saved, foldl_insertSkill]
  rfl

theorem playerSkills_saved : (tables.saved profile).playerSkills =
    tables.playerSkills.filter (·.playerId ≠ (profile.playerId : Int)) ++
      profile.skills.map (skillRow profile.playerId) := by
  rw [saved, foldl_insertSkill]
  rfl

namespace Sqlite

open DnfServer.SqlitePlayerRepository

variable {durable : PlayerTables}

/-- The tables of an open transaction. -/
def within (durable tables : PlayerTables) : Store PlayerTables := { durable, working := some tables }

theorem yields_existsStatement : Yields (existsStatement playerId) (within durable tables)
    (.ok (tables.hasPlayer playerId)) (within durable tables) :=
  Yields.bind (Yields.touch raise) (Yields.bind (Yields.touches raise 1) (Yields.query raise _))

theorem yields_expectDone {update : PlayerTables → PlayerTables} (h : Schema (update tables)) :
    Yields (expectDone update) (within durable tables) (.ok ()) (within durable (update tables)) :=
  Yields.execute raise rfl (firstViolation_iff_schema.mpr h)

theorem yields_updateStatement (h : Schema (tables.updatePlayer profile)) :
    Yields (updateStatement profile) (within durable tables) (.ok ())
      (within durable (tables.updatePlayer profile)) :=
  Yields.bind (Yields.touch raise) (Yields.bind (Yields.touches raise 4) (yields_expectDone h))

theorem yields_deleteSkillsStatement (h : Schema tables) :
    Yields (deleteSkillsStatement playerId) (within durable tables) (.ok ())
      (within durable (tables.deleteSkills playerId)) :=
  Yields.bind (Yields.touch raise)
    (Yields.bind (Yields.touches raise 1) (yields_expectDone (schema_deleteSkills h playerId)))

theorem yields_insertSkillStatement (h : Schema (tables.insertSkill playerId skill)) :
    Yields (insertSkillStatement playerId skill) (within durable tables) (.ok ())
      (within durable (tables.insertSkill playerId skill)) :=
  Yields.bind (Yields.touches raise 2) (Yields.bind (Yields.touches raise 3) (yields_expectDone h))

/-- The loop over the skills: each is new to the table that those before it have left. -/
theorem yields_insertSkills (h : Schema tables) (hplayer : tables.hasPlayer playerId = true)
    (hskills : ∀ skill ∈ skills, skill.skillId ≠ 0 ∧ skill.level ≠ 0)
    (hnodup : (skills.map (·.skillId)).Nodup)
    (hnew : ∀ skill ∈ skills, ∀ row ∈ tables.playerSkills, row.playerId = playerId →
      row.skillId ≠ skill.skillId.toNat) :
    Yields (skills.forM (insertSkillStatement playerId)) (within durable tables) (.ok ())
        (within durable (skills.foldl (insertSkill playerId) tables)) ∧
      Schema (skills.foldl (insertSkill playerId) tables) := by
  induction skills generalizing tables with
  | nil => exact ⟨Yields.pure (), h⟩
  | cons skill rest ih =>
    rw [List.map_cons, List.nodup_cons] at hnodup
    have hinserted := schema_insertSkill h hplayer (hskills skill List.mem_cons_self)
      (hnew skill List.mem_cons_self)
    have hothers : ∀ other ∈ rest, ∀ row ∈ (tables.insertSkill playerId skill).playerSkills,
        row.playerId = playerId → row.skillId ≠ other.skillId.toNat := by
      intro other hother row hrow hid heq
      rcases List.mem_append.mp hrow with hold | hinsertedRow
      · exact hnew other (List.mem_cons_of_mem _ hother) row hold hid heq
      · rw [List.mem_singleton.mp hinsertedRow] at heq
        have hsame : skill.skillId = other.skillId := UInt32.toNat_inj.mp (Int.ofNat_inj.mp heq)
        exact hnodup.1 (hsame ▸ List.mem_map_of_mem hother)
    obtain ⟨hrest, hschema⟩ := ih hinserted hplayer
      (fun other hother => hskills other (List.mem_cons_of_mem _ hother)) hnodup.2 hothers
    exact ⟨Yields.bind (yields_insertSkillStatement hinserted) hrest, hschema⟩

/-- Where nothing stands against it, the transaction commits what its statements have left. -/
theorem yields_saveBody (h : Schema tables) (hvalid : isValidPlayerProfile profile = true)
    (hplayer : tables.hasPlayer profile.playerId = true) (hfree : ¬ NameTaken profile tables) :
    Yields (saveBody profile) (within durable tables) (.ok true)
        { durable := tables.saved profile } ∧ Schema (tables.saved profile) := by
  have hupdated := schema_updatePlayer h hvalid hfree
  have hdeleted := schema_deleteSkills hupdated profile.playerId
  have hstill : ((tables.updatePlayer profile).deleteSkills profile.playerId).hasPlayer
      profile.playerId = true := by
    have hids : ((tables.updatePlayer profile).deleteSkills profile.playerId).players.map (·.playerId) =
        tables.players.map (·.playerId) := map_playerId_updatePlayer
    rw [hasPlayer_congr hids]
    exact hplayer
  obtain ⟨hinserts, hschema⟩ := @yields_insertSkills _ _ _ durable hdeleted hstill
    (fun skill hskill => valid_skill hvalid hskill) (valid_skillIds hvalid)
    (fun skill _ row hrow hid => absurd hid (of_decide_eq_true (List.mem_filter.mp hrow).2))
  refine ⟨?_, hschema⟩
  refine Yields.bind yields_existsStatement ?_
  rw [hplayer]
  exact Yields.bind (yields_updateStatement hupdated)
    (Yields.bind (yields_deleteSkillsStatement hupdated)
      (Yields.bind (Yields.touch raise)
        (Yields.bind hinserts (Yields.bind (Yields.commit raise rfl) (Yields.pure true)))))

theorem yields_missing (hplayer : tables.hasPlayer profile.playerId = false) :
    Yields (saveBody profile) (within durable tables) (.ok false) (within durable tables) := by
  refine Yields.bind yields_existsStatement ?_
  rw [hplayer]
  exact Yields.pure false

theorem yields_nameTaken (h : Schema tables) (hvalid : isValidPlayerProfile profile = true)
    (hplayer : tables.hasPlayer profile.playerId = true) (htaken : NameTaken profile tables) :
    Yields (saveBody profile) (within durable tables)
      (.error (.runtimeError "UNIQUE constraint failed: players.name")) (within durable tables) := by
  refine Yields.bind yields_existsStatement ?_
  rw [hplayer]
  refine Yields.failed (Yields.bind (Yields.touch raise) (Yields.bind (Yields.touches raise 4) ?_))
  exact Yields.execute_refused raise (firstViolation_nameTaken h hvalid hplayer htaken)

/-! ### What `FindPlayer` reads back -/

/-- The profile with its skills in the order of their ids. -/
def sorted (profile : PlayerProfile) : PlayerProfile :=
  { profile with skills := profile.skills.mergeSort fun left right => left.skillId ≤ right.skillId }

theorem isValid_sorted (h : isValidPlayerProfile profile = true) :
    isValidPlayerProfile (sorted profile) = true := by
  have hperm : (sorted profile).skills.Perm profile.skills := List.mergeSort_perm _ _
  unfold isValidPlayerProfile at h ⊢
  simp only [Bool.and_eq_true, List.all_eq_true, decide_eq_true_eq] at h ⊢
  obtain ⟨⟨hfields, hskills⟩, hnodup⟩ := h
  exact ⟨⟨hfields, fun skill hskill => hskills skill (hperm.mem_iff.mp hskill)⟩,
    (hperm.map _).nodup_iff.mpr hnodup⟩

theorem findRow_saved (h : tables.hasPlayer profile.playerId = true) :
    (tables.saved profile).findRow profile.playerId = some (profileRow profile) := by
  have hfun : (fun row : PlayerRecord => decide (row.playerId = (profile.playerId : Int))) ∘
      updatedRow profile = fun row => decide (row.playerId = (profile.playerId : Int)) := by
    funext row
    show decide ((updatedRow profile row).playerId = _) = _
    rw [updatedRow_playerId]
  rw [findRow, players_saved, List.find?_map, hfun]
  cases hrow : tables.players.find? fun row => decide (row.playerId = (profile.playerId : Int)) with
  | none =>
    obtain ⟨row, hmem, hid⟩ := hasPlayer_iff.mp h
    exact absurd (decide_eq_true hid) (List.find?_eq_none.mp hrow row hmem)
  | some row =>
    have hfound := List.find?_some hrow
    have hid : row.playerId = profile.playerId := of_decide_eq_true hfound
    rw [Option.map_some, updatedRow_self hid]

theorem skillRows_saved : (tables.saved profile).skillRows profile.playerId =
    (sorted profile).skills.map (skillRow profile.playerId) := by
  have hothers : (tables.playerSkills.filter (·.playerId ≠ (profile.playerId : Int))).filter
      (·.playerId = (profile.playerId : Int)) = [] := by
    rw [List.filter_filter]
    exact List.filter_eq_nil_iff.mpr fun row _ => by simp
  have hown : (profile.skills.map (skillRow profile.playerId)).filter
      (·.playerId = (profile.playerId : Int)) = profile.skills.map (skillRow profile.playerId) := by
    refine List.filter_eq_self.mpr fun row hrow => ?_
    obtain ⟨skill, _, rfl⟩ := List.mem_map.mp hrow
    exact decide_eq_true rfl
  rw [skillRows, playerSkills_saved, List.filter_append, hothers, hown, List.nil_append, sorted]
  refine (List.map_mergeSort fun left _ right _ => ?_).symm
  show decide (left.skillId ≤ right.skillId) =
    decide ((left.skillId.toNat : Int) ≤ right.skillId.toNat)
  rw [decide_eq_decide, UInt32.le_iff_toNat_le, Int.ofNat_le]

variable {store : Store PlayerTables}

theorem yields_readUint32 (value : UInt32) :
    Yields (readUint32 value.toNat) store (.ok value) store := by
  have hle := value.toNat_lt
  unfold readUint32
  rw [if_neg (by omega), Int.toNat_natCast, UInt32.ofNat_toNat]
  exact Yields.pure value

theorem yields_readSkillRows (playerId : PlayerId) (skills : List OwnedSkill) :
    Yields ((skills.map (skillRow playerId)).mapM readSkillRow) store (.ok skills) store := by
  induction skills with
  | nil => exact Yields.pure []
  | cons skill rest ih =>
    rw [List.map_cons, List.mapM_cons]
    have hrow : Yields (readSkillRow (skillRow playerId skill)) store (.ok skill) store :=
      Yields.bind (yields_readUint32 skill.skillId)
        (Yields.bind (yields_readUint32 skill.level) (Yields.bind (Yields.touch raise) (Yields.pure skill)))
    exact Yields.bind hrow (Yields.bind ih (Yields.pure (skill :: rest)))

theorem yields_findPlayer (hvalid : isValidPlayerProfile profile = true)
    (hid : canStoreId profile.playerId = true) (hplayer : tables.hasPlayer profile.playerId = true) :
    Yields (findPlayer profile.playerId) { durable := tables.saved profile } (.ok (some (sorted profile)))
      { durable := tables.saved profile } := by
  have hpositive : ¬ (profile.playerId : Int) ≤ 0 := by
    unfold canStoreId at hid
    simp only [Bool.and_eq_true, decide_eq_true_eq] at hid
    omega
  have hrow : Yields (readProfileRow (profileRow profile)) { durable := tables.saved profile }
      (.ok { profile with skills := [] }) { durable := tables.saved profile } := by
    unfold readProfileRow profileRow
    rw [if_neg hpositive, (columnText_of_valid (valid_name hvalid)).1]
    exact Yields.bind (yields_readUint32 profile.level)
      (Yields.bind (yields_readUint32 profile.skillPoints) (Yields.pure _))
  have hskills : Yields (loadSkills profile.playerId) { durable := tables.saved profile }
      (.ok (sorted profile).skills) { durable := tables.saved profile } := by
    refine Yields.bind (Yields.touch raise) (Yields.bind (Yields.touches raise 1)
      (Yields.bind (Yields.query raise _) ?_))
    show Yields (((tables.saved profile).skillRows profile.playerId).mapM readSkillRow) _ _ _
    rw [skillRows_saved]
    exact yields_readSkillRows profile.playerId _
  have hprofile : Yields (loadProfile (profileRow profile)) { durable := tables.saved profile }
      (.ok (sorted profile)) { durable := tables.saved profile } := by
    refine Yields.bind hrow (Yields.bind hskills ?_)
    show Yields (if isValidPlayerProfile (sorted profile) = true then pure (sorted profile) else _) _ _ _
    rw [if_pos (isValid_sorted hvalid)]
    exact Yields.pure _
  have hquery : Yields (query raise (·.findRow profile.playerId)) { durable := tables.saved profile }
      (.ok (some (profileRow profile))) { durable := tables.saved profile } := by
    rw [← findRow_saved hplayer]
    exact Yields.query raise _
  unfold findPlayer
  rw [if_neg (by simp [hid])]
  exact Yields.bind (Yields.touch raise) (Yields.bind (Yields.touches raise 1)
    (Yields.bind hquery (Yields.bind hprofile (Yields.pure _))))

/-! ### Every fault of every call -/

theorem regular_statement (count : Nat) {update : PlayerTables → PlayerTables} :
    Regular (do prepare; bindParameters count; expectDone update : SqliteWork Unit) :=
  (Regular.touch raise).bind fun _ => (Regular.touches raise count).bind fun _ =>
    Regular.execute _ raise update

theorem regular_saveBody (profile : PlayerProfile) : Regular (saveBody profile) := by
  have hexists : Regular (existsStatement profile.playerId) :=
    (Regular.touch raise).bind fun _ => (Regular.touches raise 1).bind fun _ => Regular.query raise _
  have hinsert (skill : OwnedSkill) : Regular (insertSkillStatement profile.playerId skill) :=
    (Regular.touches raise 2).bind fun _ => (Regular.touches raise 3).bind fun _ =>
      Regular.execute _ raise _
  refine hexists.bind fun found => Regular.ite _ (Regular.pure false) ?_
  exact (regular_statement 4).bind fun _ => (regular_statement 1).bind fun _ =>
    (Regular.touch raise).bind fun _ => (Regular.forM hinsert _).bind fun _ =>
      (Regular.commit raise).bind fun _ => Regular.pure true

theorem regular_savePlayer (profile : PlayerProfile) : Regular (savePlayer profile) :=
  Regular.ite _ (Regular.pure false) (regular_saveBody profile).transaction

theorem inside_statement (count : Nat) {update : PlayerTables → PlayerTables} :
    Inside (do prepare; bindParameters count; expectDone update : SqliteWork Unit) :=
  Inside.bind (Inside.touch raise) fun _ => Inside.bind (Inside.touches raise count) fun _ =>
    Inside.execute _ raise update

/-- The body writes durable tables only by the commit, which it returns true after. -/
theorem commits_saveBody (profile : PlayerProfile) : Commits true (saveBody profile) := by
  have hexists : Inside (existsStatement profile.playerId) :=
    Inside.bind (Inside.touch raise) fun _ => Inside.bind (Inside.touches raise 1) fun _ =>
      Inside.query raise _
  have hinsert (skill : OwnedSkill) : Inside (insertSkillStatement profile.playerId skill) :=
    Inside.bind (Inside.touches raise 2) fun _ => Inside.bind (Inside.touches raise 3) fun _ =>
      Inside.execute _ raise _
  refine Commits.bind hexists fun found =>
    Commits.ite _ (Inside.commits (Inside.pure false) true) ?_
  exact Commits.bind (inside_statement 4) fun _ => Commits.bind (inside_statement 1) fun _ =>
    Commits.bind (Inside.touch raise) fun _ => Commits.bind (Inside.forM hinsert _) fun _ =>
      Commits.commit raise true

/-- What a call of `SavePlayer` of a player has done. -/
structure Saves (profile : PlayerProfile) (connection : SqliteConnection)
    (outcome : Except Failure Bool) (ended : SqliteConnection) : Prop where
  /-- No transaction stays open, and the tables keep the schema. -/
  closed : ended.store.working = none
  schema : Schema ended.store.durable
  /-- It returns false or throws. -/
  unchanged : outcome ≠ .ok true → ended.store.durable = connection.store.durable
  /-- It returns true. -/
  written : outcome = .ok true →
    ended.store.durable = connection.store.durable.saved profile
  found : outcome = .ok true → ∀ reader : SqliteConnection, reader.store = ended.store →
    (∀ call, reader.faults call = none) →
    ((findPlayer profile.playerId).on reader).1 = .ok (some (sorted profile))
  otherPlayers : outcome = .ok true →
    ended.store.durable.players.filter (·.playerId ≠ (profile.playerId : Int)) =
      connection.store.durable.players.filter (·.playerId ≠ (profile.playerId : Int))
  otherSkills : outcome = .ok true →
    ended.store.durable.playerSkills.filter (·.playerId ≠ (profile.playerId : Int)) =
      connection.store.durable.playerSkills.filter (·.playerId ≠ (profile.playerId : Int))
  /-- A statement fails by the only constraint that it can violate, or because a call of it fails. -/
  succeeds : outcome = .ok true ↔
    isValidPlayerProfile profile = true ∧ profile.playerId ≤ maxRowId ∧
      connection.store.durable.hasPlayer profile.playerId = true ∧
      ¬ NameTaken profile connection.store.durable ∧
      connection.Unfaulted connection.calls ended.calls

theorem otherPlayers_saved : (tables.saved profile).players.filter (·.playerId ≠ (profile.playerId : Int)) =
    tables.players.filter (·.playerId ≠ (profile.playerId : Int)) := by
  rw [players_saved, List.filter_map]
  have hfun : (fun row : PlayerRecord => decide (row.playerId ≠ (profile.playerId : Int))) ∘
      updatedRow profile = fun row => decide (row.playerId ≠ (profile.playerId : Int)) := by
    funext row
    show decide ((updatedRow profile row).playerId ≠ _) = _
    rw [updatedRow_playerId]
  rw [hfun]
  refine (List.map_congr_left fun row hrow => ?_).trans (List.map_id _)
  exact updatedRow_other (of_decide_eq_true (List.mem_filter.mp hrow).2)

theorem otherSkills_saved :
    (tables.saved profile).playerSkills.filter (·.playerId ≠ (profile.playerId : Int)) =
      tables.playerSkills.filter (·.playerId ≠ (profile.playerId : Int)) := by
  rw [playerSkills_saved, List.filter_append, List.filter_filter]
  have hown : (profile.skills.map (skillRow profile.playerId)).filter
      (·.playerId ≠ (profile.playerId : Int)) = [] := by
    refine List.filter_eq_nil_iff.mpr fun row hrow => ?_
    obtain ⟨skill, _, rfl⟩ := List.mem_map.mp hrow
    simp [skillRow]
  rw [hown, List.append_nil]
  exact List.filter_congr fun row _ => Bool.and_self _

/-- A save of a valid profile is its transaction. -/
theorem savePlayer_eq (hvalid : isValidPlayerProfile profile = true)
    (hid : canStoreId profile.playerId = true) :
    savePlayer profile = transaction raise (saveBody profile) := by
  unfold savePlayer
  exact if_neg (by simp [hid, hvalid])

/-- A save without faults commits when nothing stands against it. -/
theorem yields_savePlayer (h : Schema tables) (hvalid : isValidPlayerProfile profile = true)
    (hid : canStoreId profile.playerId = true) (hplayer : tables.hasPlayer profile.playerId = true)
    (hfree : ¬ NameTaken profile tables) :
    Yields (savePlayer profile) { durable := tables } (.ok true) { durable := tables.saved profile } := by
  have hbody : Yields (saveBody profile) (within tables tables) (.ok true)
      { durable := tables.saved profile } := (yields_saveBody h hvalid hplayer hfree).1
  rw [savePlayer_eq hvalid hid]
  exact Yields.transaction raise hbody

theorem yields_savePlayer_missing (hvalid : isValidPlayerProfile profile = true)
    (hid : canStoreId profile.playerId = true) (hplayer : tables.hasPlayer profile.playerId = false) :
    Yields (savePlayer profile) { durable := tables } (.ok false) { durable := tables } := by
  have hbody : Yields (saveBody profile) (within tables tables) (.ok false) (within tables tables) :=
    yields_missing hplayer
  rw [savePlayer_eq hvalid hid]
  exact Yields.transaction raise hbody

theorem yields_savePlayer_nameTaken (h : Schema tables) (hvalid : isValidPlayerProfile profile = true)
    (hid : canStoreId profile.playerId = true) (hplayer : tables.hasPlayer profile.playerId = true)
    (htaken : NameTaken profile tables) :
    Yields (savePlayer profile) { durable := tables }
      (.error (.runtimeError "UNIQUE constraint failed: players.name")) { durable := tables } := by
  have hbody : Yields (saveBody profile) (within tables tables)
      (.error (.runtimeError "UNIQUE constraint failed: players.name")) (within tables tables) :=
    yields_nameTaken h hvalid hplayer htaken
  rw [savePlayer_eq hvalid hid]
  exact Yields.transaction raise hbody

variable {connection ended : SqliteConnection} {outcome : Except Failure Bool}

/-- A save that returns true has passed every test, and has left what the statements leave. -/
theorem saved_of_true (hclosed : connection.store.working = none) (hschema : Schema connection.store.durable)
    (h : (savePlayer profile).on connection = (.ok true, ended)) :
    isValidPlayerProfile profile = true ∧ canStoreId profile.playerId = true ∧
      connection.store.durable.hasPlayer profile.playerId = true ∧
      ¬ NameTaken profile connection.store.durable ∧
      ended.store = { durable := connection.store.durable.saved profile } := by
  have hnone := (regular_savePlayer profile).unfaulted h
  have hstore : connection.store = { durable := connection.store.durable } := by
    rw [← hclosed]
  by_cases htest : ¬ canStoreId profile.playerId = true ∨ ¬ isValidPlayerProfile profile = true
  · have hfalse : savePlayer profile = pure false := by
      unfold savePlayer
      exact if_pos htest
    rw [hfalse] at h
    cases h
  obtain ⟨hid, hvalid⟩ := not_or.mp htest
  rw [not_not] at hid hvalid
  -- without faults, each obstacle has an outcome of its own
  cases hplayer : connection.store.durable.hasPlayer profile.playerId with
  | false =>
    have hend := ((yields_savePlayer_missing hvalid hid hplayer).of_unfaulted
      (regular_savePlayer profile) hstore h hnone).1
    cases hend
  | true =>
    by_cases hfree : NameTaken profile connection.store.durable
    · have hend := ((yields_savePlayer_nameTaken hschema hvalid hid hplayer hfree).of_unfaulted
        (regular_savePlayer profile) hstore h hnone).1
      cases hend
    · exact ⟨hvalid, hid, rfl, hfree, ((yields_savePlayer hschema hvalid hid hplayer hfree).of_unfaulted
        (regular_savePlayer profile) hstore h hnone).2⟩

theorem saves (hclosed : connection.store.working = none) (hschema : Schema connection.store.durable)
    (h : (savePlayer profile).on connection = (outcome, ended)) :
    Saves profile connection outcome ended := by
  have hunchanged (hne : outcome ≠ .ok true) : ended.store.durable = connection.store.durable := by
    unfold savePlayer at h
    split at h
    · cases h
      rfl
    · exact transaction_unchanged (commits_saveBody profile) h hne
  have hsaved (hok : outcome = .ok true) := saved_of_true hclosed hschema (hok ▸ h)
  have hkeeps : Schema ended.store.durable := by
    by_cases hok : outcome = .ok true
    · obtain ⟨hvalid, _, hplayer, hfree, hstore⟩ := hsaved hok
      rw [hstore]
      exact (@yields_saveBody _ _ connection.store.durable hschema hvalid hplayer hfree).2
    · rw [hunchanged hok]
      exact hschema
  refine { closed := ?_, schema := hkeeps, unchanged := hunchanged, written := ?_, found := ?_
           otherPlayers := ?_, otherSkills := ?_, succeeds := ?_ }
  · unfold savePlayer at h
    split at h
    · cases h
      exact hclosed
    · exact transaction_closed hclosed h
  · intro hok
    rw [(hsaved hok).2.2.2.2]
  · intro hok reader hreader hnone
    obtain ⟨hvalid, hid, hplayer, _, hstore⟩ := hsaved hok
    obtain ⟨_, hread, _⟩ := yields_findPlayer hvalid hid hplayer (hreader.trans hstore) hnone
    rw [hread]
  · intro hok
    rw [(hsaved hok).2.2.2.2]
    exact otherPlayers_saved
  · intro hok
    rw [(hsaved hok).2.2.2.2]
    exact otherSkills_saved
  · constructor
    · intro hok
      obtain ⟨hvalid, hid, hplayer, hfree, _⟩ := hsaved hok
      unfold canStoreId at hid
      simp only [Bool.and_eq_true, decide_eq_true_eq] at hid
      exact ⟨hvalid, hid.2, hplayer, hfree, (regular_savePlayer profile).unfaulted (hok ▸ h)⟩
    · rintro ⟨hvalid, hbound, hplayer, hfree, hnone⟩
      have hpositive : profile.playerId ≠ 0 := by
        intro hzero
        unfold isValidPlayerProfile at hvalid
        simp [hzero] at hvalid
      have hid : canStoreId profile.playerId = true := by
        unfold canStoreId
        simp only [Bool.and_eq_true, decide_eq_true_eq]
        exact ⟨Nat.pos_of_ne_zero hpositive, hbound⟩
      exact ((yields_savePlayer hschema hvalid hid hplayer hfree).of_unfaulted
        (regular_savePlayer profile) (by rw [← hclosed]) h hnone).1

end Sqlite

namespace MySql

open DnfServer.MySqlPlayerRepository

theorem regular_savePlayerOnce (profile : PlayerProfile) : Regular (savePlayerOnce profile) := by
  refine (Regular.touch _).bind fun _ => Regular.transaction ?_
  refine (Regular.query _ _).bind fun found => Regular.ite _ (Regular.pure false) ?_
  exact (Regular.execute _ _ _).bind fun _ => (Regular.execute _ _ _).bind fun _ =>
    (Regular.forM (fun _ => Regular.execute _ _ _) _).bind fun _ =>
      (Regular.commit _).bind fun _ => Regular.pure true

theorem commits_saveBody (profile : PlayerProfile) : Commits true (saveBody profile) := by
  refine Commits.bind (Inside.query _ _) fun found =>
    Commits.ite _ (Inside.commits (Inside.pure false) true) ?_
  exact Commits.bind (Inside.execute _ _ _) fun _ => Commits.bind (Inside.execute _ _ _) fun _ =>
    Commits.bind (Inside.forM (fun _ => Inside.execute _ _ _) _) fun _ => Commits.commit _ true

variable {connection ended : MySqlConnection} {outcome : Except MySqlFailure Bool}

/-- An attempt that does not return true has no effect. -/
theorem savePlayerOnce_unchanged (hclosed : connection.store.working = none)
    (h : (savePlayerOnce profile).on connection = (outcome, ended)) (hne : outcome ≠ .ok true) :
    ended.store = connection.store := by
  have hsame {left right : Store PlayerTables} (hl : left.working = none) (hr : right.working = none)
      (hdurable : left.durable = right.durable) : left = right := by
    cases left
    cases right
    cases hl
    cases hr
    cases hdurable
    rfl
  obtain ⟨_, middle, hacquire, hsave⟩ | ⟨_, hacquire, _⟩ := of_on_bind h
  · have hmiddle : middle.store = connection.store := by
      obtain ⟨_, herror, _⟩ | ⟨_, _, _, hact, _, rfl⟩ := of_on_call hacquire
      · cases herror
      · cases hact
        rfl
    have hopen : middle.store.working = none := by rw [hmiddle, hclosed]
    rw [← hmiddle]
    exact hsame (transaction_closed hopen hsave) hopen
      (transaction_unchanged (commits_saveBody profile) hsave hne)
  · obtain ⟨_, _, rfl⟩ | ⟨_, _, _, _, hok, _⟩ := of_on_call hacquire
    · rfl
    · cases hok

theorem restores_savePlayerOnce (profile : PlayerProfile) : Restores (savePlayerOnce profile) := by
  intro connection failure ended h hclosed
  have hsame := (regular_savePlayerOnce profile).same h
  rw [savePlayerOnce_unchanged hclosed h (fun hok => by cases hok)] at hsame
  exact hsame

theorem writes_executeOrThrow (operation : String) (update : PlayerTables → PlayerTables) :
    Writes (executeOrThrow operation update) update :=
  Writes.execute _ _ update

/-- An attempt that returns true has found the player and leaves what the statements leave. -/
theorem savePlayerOnce_saved (h : (savePlayerOnce profile).on connection = (.ok true, ended)) :
    connection.store.durable.hasPlayer profile.playerId = true ∧
      ended.store = { durable := connection.store.durable.saved profile } := by
  obtain ⟨_, middle, hacquire, hsave⟩ | ⟨_, _, herror⟩ := of_on_bind h
  · have hmiddle : middle.store = connection.store := by
      obtain ⟨_, herror, _⟩ | ⟨_, _, _, hact, _, rfl⟩ := of_on_call hacquire
      · cases herror
      · cases hact
        rfl
    obtain ⟨begun, left, hbegun, hleft, hended⟩ := of_on_transaction hsave
    rw [hmiddle] at hbegun
    have hopen : begun.store.working = some connection.store.durable := by rw [hbegun]
    obtain ⟨asked, hasked, hstore⟩ | ⟨_, herror⟩ := of_on_query hleft hopen
    · cases hplayer : connection.store.durable.hasPlayer profile.playerId with
      | false =>
        rw [hplayer, if_pos (by decide)] at hasked
        have hfalse := (Prod.mk.inj hasked).1
        cases hfalse
      | true =>
        rw [hplayer, if_neg (by decide)] at hasked
        rw [hbegun] at hstore
        obtain ⟨_, updated, hupdated, hupdate⟩ :=
          of_on_writes (writes_executeOrThrow _ _) hasked (by rw [hstore])
        obtain ⟨_, deleted, hdeleted, hdelete⟩ :=
          of_on_writes (writes_executeOrThrow _ _) hupdated (by rw [hupdate])
        obtain ⟨_, inserted, hinserted, hinsert⟩ :=
          of_on_writes (Writes.forM (fun skill => writes_executeOrThrow _ fun tables =>
            tables.insertSkill profile.playerId skill) profile.skills) hdeleted (by rw [hdelete])
        obtain ⟨committed, hcommitted, hcommit⟩ := of_on_commit hinserted (by rw [hinsert])
        obtain ⟨_, rfl⟩ := Prod.mk.inj hcommitted
        rw [hended, hcommit]
        exact ⟨rfl, rfl⟩
    · cases herror
  · cases herror

/-- A save has the effect of its last attempt on the tables that this one has found: that of a
successful attempt, or none. -/
structure Saves (profile : PlayerProfile) (connection : MySqlConnection)
    (outcome : Except MySqlFailure Bool) (ended : MySqlConnection) (pauses : Nat)
    (found : PlayerTables) : Prop where
  attempts : pauses < mysqlSaveMaxTransactionAttempts
  reached : found = connection.afterPauses pauses
  closed : ended.store.working = none
  unchanged : outcome ≠ .ok true → ended.store.durable = found
  successful : outcome = .ok true → isValidPlayerProfile profile = true ∧
    found.hasPlayer profile.playerId = true ∧ ended.store.durable = found.saved profile ∧
    ∃ last : MySqlConnection, last.store = { durable := found } ∧
      (savePlayerOnce profile).on last = (.ok true, ended)

theorem saves (hclosed : connection.store.working = none)
    (h : (savePlayer profile).on connection = (outcome, ended)) :
    ∃ pauses found, Saves profile connection outcome ended pauses found := by
  unfold savePlayer at h
  by_cases hvalid : isValidPlayerProfile profile = true
  · rw [if_neg (not_not.mpr hvalid)] at h
    obtain ⟨pauses, last, hpauses, hstore, _, hlast⟩ :=
      of_on_retry (restores_savePlayerOnce profile) hclosed h
    have hlastClosed : last.store.working = none := by rw [hstore]
    refine ⟨pauses, connection.afterPauses pauses, ?_⟩
    by_cases hok : outcome = .ok true
    · subst hok
      obtain ⟨hplayer, hsaved⟩ := savePlayerOnce_saved hlast
      rw [hstore] at hplayer hsaved
      exact { attempts := Nat.lt_succ_of_le hpauses, reached := rfl, closed := by rw [hsaved]
              unchanged := fun hne => absurd rfl hne
              successful := fun _ => ⟨hvalid, hplayer, by rw [hsaved], last, hstore, hlast⟩ }
    · have hunchanged := savePlayerOnce_unchanged hlastClosed hlast hok
      exact { attempts := Nat.lt_succ_of_le hpauses, reached := rfl
              closed := by rw [hunchanged, hlastClosed]
              unchanged := fun _ => by rw [hunchanged, hstore]
              successful := fun htrue => absurd htrue hok }
  · rw [if_pos hvalid] at h
    cases h
    exact ⟨0, connection.store.durable,
      { attempts := by decide, reached := rfl, closed := hclosed, unchanged := fun _ => rfl
        successful := fun htrue => by cases htrue }⟩

end MySql

/-! ## The save as one step -/

/-- The rows of a player that the database holds in one piece. -/
def recordOf (playerId : PlayerId) (row : PlayerRow) : PlayerRecord :=
  { playerId, name := row.name, level := row.level, skillPoints := row.skillPoints }

structure Represents (tables : PlayerTables) (database : Database) : Prop where
  players : ∀ {playerId : PlayerId} {row : PlayerRow}, database.players[playerId]? = some row →
    recordOf playerId row ∈ tables.players
  records : ∀ record ∈ tables.players, ∃ (playerId : PlayerId) (row : PlayerRow),
    database.players[playerId]? = some row ∧ record = recordOf playerId row
  skills : ∀ {playerId : PlayerId} {row : PlayerRow}, database.players[playerId]? = some row →
    ∀ {skillId level : Nat}, row.skills[skillId]? = some level ↔
      PlayerSkillRecord.mk playerId skillId level ∈ tables.playerSkills

namespace Represents

variable {database : Database}

theorem hasPlayer (h : Represents tables database) :
    tables.hasPlayer playerId = true ↔ playerId ∈ database.players := by
  rw [hasPlayer_iff]
  constructor
  · rintro ⟨record, hrecord, hid⟩
    obtain ⟨otherId, row, hrow, rfl⟩ := h.records record hrecord
    rw [← Int.ofNat_inj.mp hid]
    exact mem_of_entry hrow
  · intro hmem
    obtain ⟨row, hrow⟩ := exists_of_mem hmem
    exact ⟨_, h.players hrow, rfl⟩

theorem nameTaken (h : Represents tables database) :
    NameTaken profile tables ↔ database.players.toList.any
      (fun row => row.1 ≠ profile.playerId && row.2.name = profile.name) = true := by
  rw [List.any_eq_true]
  constructor
  · rintro ⟨record, hrecord, hid, hname⟩
    obtain ⟨otherId, row, hrow, rfl⟩ := h.records record hrecord
    refine ⟨(otherId, row), Std.ExtTreeMap.mem_toList_iff_getElem?_eq_some.mpr hrow, ?_⟩
    rw [Bool.and_eq_true, decide_eq_true_eq, decide_eq_true_eq]
    exact ⟨fun heq => hid (congrArg Int.ofNat heq), hname⟩
  · rintro ⟨⟨otherId, row⟩, hmem, htest⟩
    rw [Bool.and_eq_true, decide_eq_true_eq, decide_eq_true_eq] at htest
    exact ⟨_, h.players (Std.ExtTreeMap.mem_toList_iff_getElem?_eq_some.mp hmem),
      fun heq => htest.1 (Int.ofNat_inj.mp heq), htest.2⟩

end Represents

theorem getElem?_insert_other {α : Type} {table : IdMap α} {key other : Nat} {value : α}
    (h : other ≠ key) : (table.insert key value)[other]? = table[other]? := by
  rw [Std.ExtTreeMap.getElem?_insert, if_neg (by simpa using h.symm)]

/-- The skills written one after the other, of which no two have the same id. -/
theorem getElem?_foldl_insert (hnodup : (skills.map (·.skillId)).Nodup) {table : IdMap Nat}
    (hnew : ∀ skill ∈ skills, skill.skillId.toNat ∉ table) {skillId level : Nat} :
    (skills.foldl (fun table skill => table.insert skill.skillId.toNat skill.level.toNat)
        table)[skillId]? = some level ↔
      table[skillId]? = some level ∨
        ∃ skill ∈ skills, skill.skillId.toNat = skillId ∧ skill.level.toNat = level := by
  induction skills generalizing table with
  | nil => simp
  | cons skill rest ih =>
    rw [List.map_cons, List.nodup_cons] at hnodup
    have hdistinct : ∀ other ∈ rest, other.skillId.toNat ≠ skill.skillId.toNat := by
      intro other hother heq
      exact hnodup.1 (UInt32.toNat_inj.mp heq ▸ List.mem_map_of_mem hother)
    have hrest : ∀ other ∈ rest,
        other.skillId.toNat ∉ table.insert skill.skillId.toNat skill.level.toNat := by
      intro other hother hmem
      rcases Std.ExtTreeMap.mem_insert.mp hmem with heq | hold
      · exact hdistinct other hother (Nat.compare_eq_eq.mp heq).symm
      · exact hnew other (List.mem_cons_of_mem _ hother) hold
    rw [List.foldl_cons, ih hnodup.2 hrest, Std.ExtTreeMap.getElem?_insert]
    by_cases heq : skill.skillId.toNat = skillId
    · subst heq
      have hnone : table[skill.skillId.toNat]? = none :=
        Std.ExtTreeMap.getElem?_eq_none (hnew skill List.mem_cons_self)
      simp [hnone]
    · simp [heq]

namespace Represents

variable {database : Database}

/-- The rows that a save leaves are those of the row that the database gets. -/
theorem saved (h : Represents tables database) (hvalid : isValidPlayerProfile profile = true)
    (hplayer : profile.playerId ∈ database.players) :
    Represents (tables.saved profile) { database with
      players := database.players.insert profile.playerId
        { name := profile.name, level := profile.level.toNat, skillPoints := profile.skillPoints.toNat
          skills := profile.skills.foldl
            (fun skills skill => skills.insert skill.skillId.toNat skill.level.toNat) ∅ } } := by
  refine { players := ?_, records := ?_, skills := ?_ }
  · intro playerId row hrow
    rw [players_saved]
    by_cases hid : playerId = profile.playerId
    · subst hid
      rw [Std.ExtTreeMap.getElem?_insert_self] at hrow
      obtain ⟨old, hold⟩ := exists_of_mem hplayer
      have hrecord : updatedRow profile (recordOf profile.playerId old) = profileRow profile :=
        updatedRow_self rfl
      have hmem := List.mem_map_of_mem (f := updatedRow profile) (h.players hold)
      rw [hrecord] at hmem
      rw [← Option.some.inj hrow]
      exact hmem
    · rw [getElem?_insert_other hid] at hrow
      have hrecord : updatedRow profile (recordOf playerId row) = recordOf playerId row :=
        updatedRow_other fun heq => hid (Int.ofNat_inj.mp heq)
      exact hrecord ▸ List.mem_map_of_mem (h.players hrow)
  · intro record hrecord
    rw [players_saved] at hrecord
    obtain ⟨before, hbefore, rfl⟩ := List.mem_map.mp hrecord
    obtain ⟨playerId, row, hrow, rfl⟩ := h.records before hbefore
    by_cases hid : playerId = profile.playerId
    · subst hid
      exact ⟨profile.playerId, _, Std.ExtTreeMap.getElem?_insert_self, updatedRow_self rfl⟩
    · exact ⟨playerId, row, (getElem?_insert_other hid).trans hrow,
        updatedRow_other fun heq => hid (Int.ofNat_inj.mp heq)⟩
  · intro playerId row hrow skillId level
    rw [playerSkills_saved, List.mem_append, List.mem_filter, List.mem_map, decide_eq_true_eq]
    by_cases hid : playerId = profile.playerId
    · subst hid
      rw [Std.ExtTreeMap.getElem?_insert_self] at hrow
      rw [← Option.some.inj hrow, getElem?_foldl_insert (valid_skillIds hvalid) (fun _ _ => by simp)]
      constructor
      · rintro (hempty | ⟨skill, hskill, rfl, rfl⟩)
        · simp at hempty
        · exact Or.inr ⟨skill, hskill, rfl⟩
      · rintro (⟨_, hne⟩ | ⟨skill, hskill, heq⟩)
        · exact absurd rfl hne
        · injection heq with _ hskillId hlevel
          exact Or.inr ⟨skill, hskill, Int.ofNat_inj.mp hskillId, Int.ofNat_inj.mp hlevel⟩
    · rw [getElem?_insert_other hid] at hrow
      rw [h.skills hrow]
      constructor
      · intro hmem
        exact Or.inl ⟨hmem, fun heq => hid (Int.ofNat_inj.mp heq)⟩
      · rintro (⟨hmem, _⟩ | ⟨skill, _, heq⟩)
        · exact hmem
        · injection heq with hplayerId
          exact absurd (Int.ofNat_inj.mp hplayerId).symm hid

/-- On a connection without faults, the save call by call is the save in one step. -/
theorem savePlayer (h : Represents tables database) (hschema : Schema tables) :
    ∃ after, Yields (SqlitePlayerRepository.savePlayer profile) { durable := tables }
        (database.savePlayer profile).1 { durable := after } ∧
      Represents after (database.savePlayer profile).2 := by
  unfold Database.savePlayer
  by_cases htest : ¬ canStoreId profile.playerId = true ∨ ¬ isValidPlayerProfile profile = true
  · rw [if_pos htest]
    refine ⟨tables, ?_, h⟩
    unfold SqlitePlayerRepository.savePlayer
    rw [if_pos htest]
    exact Yields.pure false
  rw [if_neg htest]
  obtain ⟨hid, hvalid⟩ := not_or.mp htest
  rw [not_not] at hid hvalid
  by_cases hplayer : profile.playerId ∈ database.players
  · rw [if_neg (not_not.mpr hplayer)]
    have hfound := h.hasPlayer.mpr hplayer
    by_cases htaken : NameTaken profile tables
    · rw [if_pos (h.nameTaken.mp htaken)]
      exact ⟨tables, Sqlite.yields_savePlayer_nameTaken hschema hvalid hid hfound htaken, h⟩
    · rw [if_neg (mt h.nameTaken.mpr htaken)]
      exact ⟨_, Sqlite.yields_savePlayer hschema hvalid hid hfound htaken, h.saved hvalid hplayer⟩
  · rw [if_pos hplayer]
    have hmissing : tables.hasPlayer profile.playerId = false :=
      Bool.eq_false_iff.mpr (mt h.hasPlayer.mp hplayer)
    exact ⟨tables, Sqlite.yields_savePlayer_missing hvalid hid hmissing, h⟩

end Represents

/-! ## Both repositories -/

/-- Whatever calls fail, a save on SQLite is atomic and reads back as it was, and a save on MySQL has
the effect of one successful attempt or none. -/
theorem savePlayer_atomic {sqlite sqliteEnded : SqlitePlayerRepository.SqliteConnection}
    {mysql mysqlEnded : MySqlPlayerRepository.MySqlConnection}
    {sqliteOutcome : Except Failure Bool} {mysqlOutcome : Except MySqlPlayerRepository.MySqlFailure Bool}
    (hsqlite : sqlite.store.working = none) (hschema : Schema sqlite.store.durable)
    (hsave : (SqlitePlayerRepository.savePlayer profile).on sqlite = (sqliteOutcome, sqliteEnded))
    (hmysql : mysql.store.working = none)
    (hsave' : (MySqlPlayerRepository.savePlayer profile).on mysql = (mysqlOutcome, mysqlEnded)) :
    Sqlite.Saves profile sqlite sqliteOutcome sqliteEnded ∧
      ∃ pauses found, MySql.Saves profile mysql mysqlOutcome mysqlEnded pauses found :=
  ⟨Sqlite.saves hsqlite hschema hsave, MySql.saves hmysql hsave'⟩

/-- Two players, of which the second has a skill. -/
def twoPlayers : PlayerTables :=
  { players := [{ playerId := 1, name := "First" }, { playerId := 2, name := "Second", level := 7 }]
    playerSkills := [{ playerId := 2, skillId := 1001, skillLevel := 2 }] }

def twoSkills : PlayerProfile :=
  { playerId := 2, name := "Second_2", level := 15, skillPoints := 4, skills := [⟨1002, 1⟩, ⟨1001, 3⟩] }

def oneSqlite : SqlitePlayerRepository.SqliteConnection := { store := { durable := twoPlayers } }

/-- The update of the first attempt meets a deadlock. -/
def deadlocked : MySqlPlayerRepository.MySqlConnection :=
  { store := { durable := twoPlayers }, faults := fun call => if call = 3 then some .erLockDeadlock else none }

theorem savePlayer_atomic_deadlocked :
    Sqlite.Saves twoSkills oneSqlite (.ok true)
        ((SqlitePlayerRepository.savePlayer twoSkills).on oneSqlite).2 ∧
      ∃ pauses found, MySql.Saves twoSkills deadlocked (.ok true)
        ((MySqlPlayerRepository.savePlayer twoSkills).on deadlocked).2 pauses found :=
  savePlayer_atomic rfl (firstViolation_iff_schema.mp (by decide +kernel))
    (on_eq (by decide +kernel)) rfl (on_eq (by decide +kernel))

end DnfServer.Saving
