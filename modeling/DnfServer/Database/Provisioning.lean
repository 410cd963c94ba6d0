import DnfServer.Auth.Accounts
import DnfServer.Auth.PasswordHash
import DnfServer.Database.SavePlayer
import DnfServer.Model.AccountStore

/-!
# Every call on the store is one step of the database

Whatever calls of the client fail, a function of the repositories either fails and leaves the rows as they
were, or it answers and leaves what the same function does to the database in one step, and it does so
when no call has failed. So every run of such functions is a run of the database.
-/

namespace DnfServer.Provisioning

open Std DnfServer.Library DnfServer.Library.Work Saving StoreTables StoreWork
set_option autoImplicit false

variable {tables : StoreTables} {database : Database} {playerName loginId encodedPasswordHash : String}
  {accountId : AccountId} {playerId : PlayerId}

/-! ## The schema -/

/-- The constraints of `SqliteDatabase` on all tables. -/
structure StoreSchema (tables : StoreTables) : Prop extends Schema tables.toPlayerTables where
  loginLength : ∀ row ∈ tables.accounts, 4 ≤ (SqlitePlayerRepository.columnText row.loginId).length ∧
    (SqlitePlayerRepository.columnText row.loginId).length ≤ 32
  hashLength : ∀ row ∈ tables.accounts,
    1 ≤ (SqlitePlayerRepository.columnText row.passwordHash).length ∧
      (SqlitePlayerRepository.columnText row.passwordHash).length ≤ 256
  accountIds : (tables.accounts.map (·.accountId)).Nodup
  loginIds : (tables.accounts.map fun row => row.loginId.toList.map Char.toLower).Nodup
  linkPlayers : (tables.accountPlayers.map (·.playerId)).Nodup
  linkKeys : (tables.accountPlayers.map fun row => (row.accountId, row.playerId)).Nodup
  linkOwners : ∀ row ∈ tables.accountPlayers,
    (∃ account ∈ tables.accounts, account.accountId = row.accountId) ∧
      tables.hasPlayer row.playerId = true

theorem violation_eq_none : tables.violation = none ↔ StoreSchema tables := by
  have hplayers : (∀ constraint ∈ SqlitePlayerRepository.constraints,
      constraint.2 tables.toPlayerTables = true) ↔ Schema tables.toPlayerTables := by
    rw [← firstViolation_eq_none, firstViolation_iff_schema]
  have hviolation : tables.violation = none ↔
      ∀ constraint ∈ StoreTables.constraints, constraint.2 tables = true := by
    simp [violation]
  rw [hviolation, StoreTables.constraints, List.forall_mem_append, List.forall_mem_map, hplayers]
  simp only [List.forall_mem_cons, List.all_eq_true, List.any_eq_true, Bool.and_eq_true, decide_eq_true_eq]
  constructor
  · rintro ⟨hschema, hlogin, hhash, hids, hlogins, hlinks, hkeys, howners, _⟩
    exact { toSchema := hschema, loginLength := hlogin, hashLength := hhash, accountIds := hids
            loginIds := hlogins, linkPlayers := hlinks, linkKeys := hkeys, linkOwners := howners }
  · intro h
    exact ⟨h.toSchema, h.loginLength, h.hashLength, h.accountIds, h.loginIds, h.linkPlayers, h.linkKeys,
      h.linkOwners, fun _ hnil => by cases hnil⟩

theorem violation_of_not (h : ¬ StoreSchema tables) : ∃ message, tables.violation = some message :=
  Option.ne_none_iff_exists'.mp fun hnone => h (violation_eq_none.mp hnone)

/-! ## The rows of a database -/

/-- The rows are those of the database, and no identifier is larger than the largest drawn. -/
structure Stored (tables : StoreTables) (database : Database) : Prop where
  schema : StoreSchema tables
  rows : Represents tables.toPlayerTables database
  accounts : ∀ record, record ∈ tables.accounts ↔ ∃ (accountId : AccountId) (row : AccountRow),
    database.accounts[accountId]? = some row ∧ record = ⟨accountId, row.loginId, row.passwordHash⟩
  links : ∀ record, record ∈ tables.accountPlayers ↔ ∃ (playerId : PlayerId) (accountId : AccountId),
    database.accountPlayers[playerId]? = some accountId ∧ record = ⟨accountId, playerId⟩
  texts : ∀ record ∈ tables.accounts,
    SqlitePlayerRepository.columnText record.loginId = record.loginId ∧
      SqlitePlayerRepository.columnText record.passwordHash = record.passwordHash
  lastAccountId : tables.lastAccountId = database.lastAccountId
  lastPlayerId : tables.lastPlayerId = database.lastPlayerId
  accountIds : ∀ accountId ∈ database.accounts, 0 < accountId ∧ accountId ≤ database.lastAccountId
  playerIds : ∀ playerId ∈ database.players, 0 < playerId ∧ playerId ≤ database.lastPlayerId

theorem stored_empty : Stored {} {} where
  schema := violation_eq_none.mp (by decide +kernel)
  rows := { players := fun hrow => by simp at hrow, records := fun _ hrow => by simp at hrow
            skills := fun hrow => by simp at hrow }
  accounts := by simp
  links := by simp
  texts := fun _ hrecord => by simp at hrecord
  lastAccountId := rfl
  lastPlayerId := rfl
  accountIds := by simp
  playerIds := by simp

namespace Stored

theorem hasPlayer (h : Stored tables database) :
    tables.hasPlayer playerId = true ↔ playerId ∈ database.players :=
  h.rows.hasPlayer

theorem account_mem (h : Stored tables database) :
    (∃ account ∈ tables.accounts, account.accountId = (accountId : Int)) ↔ accountId ∈ database.accounts := by
  constructor
  · rintro ⟨account, hmem, hid⟩
    obtain ⟨otherId, row, hrow, rfl⟩ := (h.accounts account).mp hmem
    rw [← Int.ofNat_inj.mp hid]
    exact mem_of_entry hrow
  · intro hmem
    obtain ⟨row, hrow⟩ := exists_of_mem hmem
    exact ⟨_, (h.accounts _).mpr ⟨accountId, row, hrow, rfl⟩, rfl⟩

theorem link_mem (h : Stored tables database) :
    (playerId : Int) ∈ tables.accountPlayers.map (·.playerId) ↔ playerId ∈ database.accountPlayers := by
  constructor
  · intro hmem
    obtain ⟨record, hrecord, hid⟩ := List.mem_map.mp hmem
    obtain ⟨otherId, owner, howner, rfl⟩ := (h.links record).mp hrecord
    rw [← Int.ofNat_inj.mp hid]
    exact mem_of_entry howner
  · intro hmem
    obtain ⟨owner, howner⟩ := exists_of_mem hmem
    exact List.mem_map.mpr ⟨_, (h.links _).mpr ⟨playerId, owner, howner, rfl⟩, rfl⟩

theorem name_mem (h : Stored tables database) :
    playerName ∈ tables.players.map (·.name) ↔ database.hasPlayerName playerName = true := by
  rw [Database.hasPlayerName, List.any_eq_true]
  constructor
  · intro hmem
    obtain ⟨record, hrecord, hname⟩ := List.mem_map.mp hmem
    obtain ⟨otherId, row, hrow, rfl⟩ := h.rows.records record hrecord
    exact ⟨(otherId, row), ExtTreeMap.mem_toList_iff_getElem?_eq_some.mpr hrow, decide_eq_true hname⟩
  · rintro ⟨⟨otherId, row⟩, hmem, hname⟩
    exact List.mem_map.mpr ⟨_, h.rows.players (ExtTreeMap.mem_toList_iff_getElem?_eq_some.mp hmem),
      of_decide_eq_true hname⟩

theorem login_mem (h : Stored tables database) :
    loginId.toList.map Char.toLower ∈ tables.accounts.map (fun row => row.loginId.toList.map Char.toLower) ↔
      database.accounts.toList.any (fun row => Database.sameLoginId row.2.loginId loginId) = true := by
  rw [List.any_eq_true]
  constructor
  · intro hmem
    obtain ⟨record, hrecord, hname⟩ := List.mem_map.mp hmem
    obtain ⟨otherId, row, hrow, rfl⟩ := (h.accounts record).mp hrecord
    exact ⟨(otherId, row), ExtTreeMap.mem_toList_iff_getElem?_eq_some.mpr hrow, decide_eq_true hname⟩
  · rintro ⟨⟨otherId, row⟩, hmem, hname⟩
    exact List.mem_map.mpr ⟨_, (h.accounts _).mpr
      ⟨otherId, row, ExtTreeMap.mem_toList_iff_getElem?_eq_some.mp hmem, rfl⟩, of_decide_eq_true hname⟩

end Stored

/-! ## What an `INSERT` leaves -/

/-- The rows after `INSERT INTO players`. -/
def withPlayer (playerId : Int) (name : String) (tables : StoreTables) : StoreTables :=
  { tables with players := tables.players ++ [{ playerId, name }], lastPlayerId := playerId }

/-- The rows after `INSERT INTO accounts`. -/
def withAccount (accountId : Int) (loginId passwordHash : String) (tables : StoreTables) : StoreTables :=
  { tables with accounts := tables.accounts ++ [{ accountId, loginId, passwordHash }]
                lastAccountId := accountId }

/-- The rows after `INSERT INTO account_players`. -/
def withLink (accountId playerId : Int) (tables : StoreTables) : StoreTables :=
  { tables with accountPlayers := tables.accountPlayers ++ [{ accountId, playerId }] }

theorem nodup_map_snoc {α β : Type} {f : α → β} {list : List α} {last : α} :
    ((list ++ [last]).map f).Nodup ↔ (list.map f).Nodup ∧ f last ∉ list.map f := by
  rw [List.map_append, List.map_singleton, ← List.concat_eq_append, List.nodup_concat, and_comm]

theorem hasPlayer_withPlayer {other : Int} (h : tables.hasPlayer other = true) (newId : Int) :
    (withPlayer newId playerName tables).hasPlayer other = true := by
  obtain ⟨row, hrow, hid⟩ := hasPlayer_iff.mp h
  exact hasPlayer_iff.mpr ⟨row, List.mem_append_left _ hrow, hid⟩

theorem schema_withPlayer {newId : Int} (h : StoreSchema tables)
    (hname : LoginValidator.validate playerName = .validPlayerName)
    (hid : newId ∉ tables.players.map (·.playerId)) :
    StoreSchema (withPlayer newId playerName tables) ↔ playerName ∉ tables.players.map (·.name) := by
  obtain ⟨htext, hpos, hle⟩ := columnText_of_valid hname
  have hrows {P : PlayerRecord → Prop} (hall : ∀ row ∈ tables.players, P row)
      (hnew : P { playerId := newId, name := playerName }) :
      ∀ row ∈ tables.players ++ [{ playerId := newId, name := playerName }], P row := by
    intro row hrow
    rcases List.mem_append.mp hrow with hold | hlast
    · exact hall row hold
    · exact List.mem_singleton.mp hlast ▸ hnew
  constructor
  · intro hnew
    exact (nodup_map_snoc.mp hnew.names).2
  · intro hfree
    refine { h with
      nameLength := hrows h.nameLength ?_, level := hrows h.level ?_, skillPoints := hrows h.skillPoints ?_
      playerIds := nodup_map_snoc.mpr ⟨h.playerIds, hid⟩, names := nodup_map_snoc.mpr ⟨h.names, hfree⟩
      owners := fun row hrow => hasPlayer_withPlayer (h.owners row hrow) newId
      linkOwners := fun row hrow =>
        ⟨(h.linkOwners row hrow).1, hasPlayer_withPlayer (h.linkOwners row hrow).2 newId⟩ }
    · show 1 ≤ (SqlitePlayerRepository.columnText playerName).length ∧
        (SqlitePlayerRepository.columnText playerName).length ≤ 16
      rw [htext]
      exact ⟨hpos, hle⟩
    · exact Int.le_refl 1
    · exact Int.le_refl 0

theorem schema_withAccount {newId : Int} (h : StoreSchema tables)
    (hlogin : 4 ≤ (SqlitePlayerRepository.columnText loginId).length ∧
      (SqlitePlayerRepository.columnText loginId).length ≤ 32)
    (hhash : 1 ≤ (SqlitePlayerRepository.columnText encodedPasswordHash).length ∧
      (SqlitePlayerRepository.columnText encodedPasswordHash).length ≤ 256)
    (hid : newId ∉ tables.accounts.map (·.accountId)) :
    StoreSchema (withAccount newId loginId encodedPasswordHash tables) ↔
      loginId.toList.map Char.toLower ∉
        tables.accounts.map fun row => row.loginId.toList.map Char.toLower := by
  have hrows {P : AccountRecord → Prop} (hall : ∀ row ∈ tables.accounts, P row)
      (hnew : P { accountId := newId, loginId, passwordHash := encodedPasswordHash }) :
      ∀ row ∈ tables.accounts ++ [{ accountId := newId, loginId, passwordHash := encodedPasswordHash }],
        P row := by
    intro row hrow
    rcases List.mem_append.mp hrow with hold | hlast
    · exact hall row hold
    · exact List.mem_singleton.mp hlast ▸ hnew
  constructor
  · intro hnew
    exact (nodup_map_snoc.mp hnew.loginIds).2
  · intro hfree
    refine { h with
      loginLength := hrows h.loginLength hlogin, hashLength := hrows h.hashLength hhash
      accountIds := nodup_map_snoc.mpr ⟨h.accountIds, hid⟩
      loginIds := nodup_map_snoc.mpr ⟨h.loginIds, hfree⟩
      linkOwners := ?_ }
    intro row hrow
    obtain ⟨⟨account, hmem, hsame⟩, hplayer⟩ := h.linkOwners row hrow
    exact ⟨⟨account, List.mem_append_left _ hmem, hsame⟩, hplayer⟩

/-- The keys of a link are those of an account and of a player without an account. -/
theorem schema_withLink {owner player : Int} (h : StoreSchema tables) :
    StoreSchema (withLink owner player tables) ↔
      (∃ account ∈ tables.accounts, account.accountId = owner) ∧ tables.hasPlayer player = true ∧
        player ∉ tables.accountPlayers.map (·.playerId) := by
  constructor
  · intro hnew
    obtain ⟨haccount, hplayer⟩ := hnew.linkOwners ⟨owner, player⟩ (List.mem_append_right _ List.mem_cons_self)
    exact ⟨haccount, hplayer, (nodup_map_snoc.mp hnew.linkPlayers).2⟩
  · rintro ⟨haccount, hplayer, hfree⟩
    refine { h with linkPlayers := nodup_map_snoc.mpr ⟨h.linkPlayers, hfree⟩
                    linkKeys := nodup_map_snoc.mpr ⟨h.linkKeys, ?_⟩, linkOwners := ?_ }
    · intro hmem
      obtain ⟨row, hrow, hkey⟩ := List.mem_map.mp hmem
      exact hfree (List.mem_map.mpr ⟨row, hrow, congrArg Prod.snd hkey⟩)
    · intro row hrow
      rcases List.mem_append.mp hrow with hold | hlast
      · exact h.linkOwners row hold
      · rw [List.mem_singleton.mp hlast]
        exact ⟨haccount, hplayer⟩

namespace Stored

theorem newPlayer_notMem (h : Stored tables database) :
    ((database.lastPlayerId + 1 : Nat) : Int) ∉ tables.players.map (·.playerId) := by
  intro hmem
  have hplayer := h.hasPlayer.mp (hasPlayer_iff.mpr (List.mem_map.mp hmem))
  exact Nat.not_succ_le_self _ (h.playerIds _ hplayer).2

theorem newAccount_notMem (h : Stored tables database) :
    ((database.lastAccountId + 1 : Nat) : Int) ∉ tables.accounts.map (·.accountId) := by
  intro hmem
  have haccount := h.account_mem.mp (List.mem_map.mp hmem)
  exact Nat.not_succ_le_self _ (h.accountIds _ haccount).2

theorem withPlayer (h : Stored tables database)
    (hschema : StoreSchema (withPlayer (database.lastPlayerId + 1 : Nat) playerName tables)) :
    Stored (withPlayer (database.lastPlayerId + 1 : Nat) playerName tables)
      { database with
        players := database.players.insert (database.lastPlayerId + 1) { name := playerName }
        lastPlayerId := database.lastPlayerId + 1 } := by
  refine { h with schema := hschema, rows := ⟨?_, ?_, ?_⟩, lastPlayerId := rfl, playerIds := ?_ }
  · intro otherId row hrow
    by_cases hid : otherId = database.lastPlayerId + 1
    · subst hid
      rw [ExtTreeMap.getElem?_insert_self] at hrow
      obtain rfl := Option.some.inj hrow
      exact List.mem_append_right _ List.mem_cons_self
    · rw [getElem?_insert_other hid] at hrow
      exact List.mem_append_left _ (h.rows.players hrow)
  · intro record hrecord
    rcases List.mem_append.mp hrecord with hold | hlast
    · obtain ⟨otherId, row, hrow, rfl⟩ := h.rows.records record hold
      have hid : otherId ≠ database.lastPlayerId + 1 :=
        Nat.ne_of_lt (Nat.lt_succ_of_le (h.playerIds _ (mem_of_entry hrow)).2)
      exact ⟨otherId, row, (getElem?_insert_other hid).trans hrow, rfl⟩
    · rw [List.mem_singleton.mp hlast]
      exact ⟨_, _, ExtTreeMap.getElem?_insert_self, rfl⟩
  · intro otherId row hrow skillId level
    by_cases hid : otherId = database.lastPlayerId + 1
    · subst hid
      rw [ExtTreeMap.getElem?_insert_self] at hrow
      obtain rfl := Option.some.inj hrow
      constructor
      · intro hskill
        simp at hskill
      · intro hskill
        have howner := h.schema.owners _ hskill
        exact absurd (List.mem_map.mpr (hasPlayer_iff.mp howner)) h.newPlayer_notMem
    · rw [getElem?_insert_other hid] at hrow
      exact h.rows.skills hrow
  · intro otherId hmem
    rcases ExtTreeMap.mem_insert.mp hmem with heq | hold
    · obtain rfl := Nat.compare_eq_eq.mp heq
      exact ⟨Nat.succ_pos _, Nat.le_refl _⟩
    · exact ⟨(h.playerIds _ hold).1, Nat.le_succ_of_le (h.playerIds _ hold).2⟩

theorem withAccount (h : Stored tables database)
    (htexts : SqlitePlayerRepository.columnText loginId = loginId ∧
      SqlitePlayerRepository.columnText encodedPasswordHash = encodedPasswordHash)
    (hschema : StoreSchema
      (withAccount (database.lastAccountId + 1 : Nat) loginId encodedPasswordHash tables)) :
    Stored (withAccount (database.lastAccountId + 1 : Nat) loginId encodedPasswordHash tables)
      { database with
        accounts := database.accounts.insert (database.lastAccountId + 1)
          { loginId, passwordHash := encodedPasswordHash }
        lastAccountId := database.lastAccountId + 1 } := by
  refine { h with
    schema := hschema, rows := ⟨h.rows.players, h.rows.records, h.rows.skills⟩, accounts := ?_
    texts := ?_, lastAccountId := rfl, accountIds := ?_ }
  · intro record
    constructor
    · intro hrecord
      rcases List.mem_append.mp hrecord with hold | hlast
      · obtain ⟨otherId, row, hrow, rfl⟩ := (h.accounts record).mp hold
        have hid : otherId ≠ database.lastAccountId + 1 :=
          Nat.ne_of_lt (Nat.lt_succ_of_le (h.accountIds _ (mem_of_entry hrow)).2)
        exact ⟨otherId, row, (getElem?_insert_other hid).trans hrow, rfl⟩
      · rw [List.mem_singleton.mp hlast]
        exact ⟨_, _, ExtTreeMap.getElem?_insert_self, rfl⟩
    · rintro ⟨otherId, row, hrow, rfl⟩
      by_cases hid : otherId = database.lastAccountId + 1
      · subst hid
        rw [ExtTreeMap.getElem?_insert_self] at hrow
        obtain rfl := Option.some.inj hrow
        exact List.mem_append_right _ List.mem_cons_self
      · rw [getElem?_insert_other hid] at hrow
        exact List.mem_append_left _ ((h.accounts _).mpr ⟨otherId, row, hrow, rfl⟩)
  · intro record hrecord
    rcases List.mem_append.mp hrecord with hold | hlast
    · exact h.texts record hold
    · exact List.mem_singleton.mp hlast ▸ htexts
  · intro otherId hmem
    rcases ExtTreeMap.mem_insert.mp hmem with heq | hold
    · obtain rfl := Nat.compare_eq_eq.mp heq
      exact ⟨Nat.succ_pos _, Nat.le_refl _⟩
    · exact ⟨(h.accountIds _ hold).1, Nat.le_succ_of_le (h.accountIds _ hold).2⟩

theorem withLink (h : Stored tables database) (hfree : playerId ∉ database.accountPlayers)
    (hschema : StoreSchema (withLink accountId playerId tables)) :
    Stored (withLink accountId playerId tables)
      { database with accountPlayers := database.accountPlayers.insert playerId accountId } := by
  refine { h with
    schema := hschema, rows := ⟨h.rows.players, h.rows.records, h.rows.skills⟩, links := ?_ }
  intro record
  constructor
  · intro hrecord
    rcases List.mem_append.mp hrecord with hold | hlast
    · obtain ⟨otherId, owner, howner, rfl⟩ := (h.links record).mp hold
      have hid : otherId ≠ playerId := fun heq => hfree (heq ▸ mem_of_entry howner)
      exact ⟨otherId, owner, (getElem?_insert_other hid).trans howner, rfl⟩
    · rw [List.mem_singleton.mp hlast]
      exact ⟨_, _, ExtTreeMap.getElem?_insert_self, rfl⟩
  · rintro ⟨otherId, owner, howner, rfl⟩
    by_cases hid : otherId = playerId
    · subst hid
      rw [ExtTreeMap.getElem?_insert_self] at howner
      obtain rfl := Option.some.inj howner
      exact List.mem_append_right _ List.mem_cons_self
    · rw [getElem?_insert_other hid] at howner
      exact List.mem_append_left _ ((h.links _).mpr ⟨otherId, owner, howner, rfl⟩)

end Stored

/-! ## Calls of the client -/

section

variable {α : Type} {row : StoreTables → Except String (Int × StoreTables)} {before : Store StoreTables}
  {rowId : Int} {inserted : StoreTables} {message : String}

theorem reads_prepare (parameters : Nat) : Reads (prepare parameters) :=
  Reads.bind (Reads.touch raise) fun _ => Reads.touches raise parameters

theorem regular_prepare (parameters : Nat) : Regular (prepare parameters) :=
  (Regular.touch raise).bind fun _ => Regular.touches raise parameters

theorem inside_prepare (parameters : Nat) : Inside (prepare parameters) :=
  Inside.bind (Inside.touch raise) fun _ => Inside.touches raise parameters

theorem yields_prepare (parameters : Nat) : Yields (prepare parameters) before (.ok ()) before :=
  Yields.bind (Yields.touch raise) (Yields.touches raise parameters)

theorem regular_insert (row : StoreTables → Except String (Int × StoreTables)) : Regular (insert row) :=
  Regular.call raise _

theorem yields_insert_done (hrow : row before.current = .ok (rowId, inserted))
    (hschema : StoreSchema inserted) :
    Yields (insert row) before (.ok (.done rowId)) (before.write inserted) := by
  refine Yields.call raise ?_
  simp only [hrow, bind, Except.bind, violation_eq_none.mpr hschema]
  rfl

theorem yields_insert_constraint (hrow : row before.current = .ok (rowId, inserted))
    (hviolation : inserted.violation = some message) :
    Yields (insert row) before (.ok (.constraint message)) before := by
  refine Yields.call raise ?_
  simp only [hrow, bind, Except.bind, hviolation]
  rfl

theorem yields_insert_full (hrow : row before.current = .error message) :
    Yields (insert row) before (.error (raise message)) before := by
  refine Yields.refused raise ?_
  simp only [hrow, bind, Except.bind]

theorem inside_insert (row : StoreTables → Except String (Int × StoreTables)) : Inside (insert row) := by
  intro connection outcome ended h hopen
  obtain ⟨_, _, rfl⟩ | ⟨_, store, _, hact, _, rfl⟩ := of_on_call h
  · exact ⟨hopen, rfl⟩
  · simp only [bind, Except.bind] at hact
    split at hact
    · cases hact
    · split at hact
      · cases hact
        exact ⟨hopen, rfl⟩
      · cases hact
        simp [Store.write, hopen]

/-- Nothing fails after an `INSERT` when nothing of what it may return makes the rest fail. -/
theorem spares_insert {next : InsertResult → StoreWork α}
    (hconstraint : ∀ message, ∃ last, next (.constraint message) = pure last)
    (hdone : ∀ rowId inserted, row tables = .ok (rowId, inserted) → ∃ last, next (.done rowId) = pure last) :
    Spares (insert row >>= next) tables := by
  refine Spares.call fun result store hact => ?_
  simp only [bind, Except.bind] at hact
  split at hact
  · cases hact
  · rename_i pair hrow
    split at hact
    · cases hact
      exact hconstraint _
    · cases hact
      exact hdone _ _ hrow

end

/-! ## One call, one step -/

/-- The work leaves `after`, which has the rows of the database after the step, and answers like the step,
or it fails and leaves the tables; with `room` for what it inserts and without a failing call it does not
fail. -/
structure StepsTo {α : Type} (work : StoreWork α) (tables : StoreTables) (room : Prop)
    (step : Except Failure α × Database) (after : StoreTables) : Prop where
  stored : Stored after step.2
  atomic : ∀ {connection : StoreConnection} {result ended}, connection.store = { durable := tables } →
    work.on connection = (result, ended) →
    (∃ failure, result = .error failure ∧ ended.store = { durable := tables }) ∨
      result = step.1 ∧ ended.store = { durable := after }
  whole : room → ∀ {connection : StoreConnection} {result ended},
    connection.store = { durable := tables } → work.on connection = (result, ended) →
    connection.Unfaulted connection.calls ended.calls →
    result = step.1 ∧ ended.store = { durable := after }

section

variable {α : Type} {work : StoreWork α} {room : Prop} {step : Except Failure α × Database} {after : StoreTables}

theorem StepsTo.of_effect (hstored : Stored after step.2) (h : Effect work tables step.1 after) :
    StepsTo work tables room step after where
  stored := hstored
  atomic := h.atomic
  whole _ := h.whole

/-- A table without identifiers fails the call, whatever the step answers. -/
theorem StepsTo.of_full (failure : Failure) (hstored : Stored tables step.2) (hfull : ¬ room)
    (h : Effect work tables (.error failure) tables) : StepsTo work tables room step tables where
  stored := hstored
  atomic hstore hrun := by
    rcases h.atomic hstore hrun with hfailed | ⟨hresult, hended⟩
    · exact Or.inl hfailed
    · exact Or.inl ⟨failure, hresult, hended⟩
  whole hroom := absurd hroom hfull

theorem effect_pure (result : α) : Effect (pure result : StoreWork α) tables (.ok result) tables :=
  (Yields.pure result).effect (Regular.pure result) ((Reads.pure result).spares tables)

end

/-! ## Players and accounts -/

theorem nextRowId_of_lt {last : Nat} (h : last < maxRowId) :
    StoreTables.nextRowId last = .ok ((last + 1 : Nat) : Int) := by
  unfold StoreTables.nextRowId
  rw [if_pos (Int.ofNat_lt.mpr h)]
  rfl

theorem nextRowId_of_not_lt {last : Nat} (h : ¬ last < maxRowId) :
    StoreTables.nextRowId last = .error "database or disk is full" := by
  unfold StoreTables.nextRowId
  rw [if_neg (mt Int.ofNat_lt.mp h)]

namespace Stored

theorem insertPlayer (h : Stored tables database) (hlast : database.lastPlayerId < maxRowId) :
    tables.insertPlayer playerName = .ok (((database.lastPlayerId + 1 : Nat) : Int),
      Provisioning.withPlayer (database.lastPlayerId + 1 : Nat) playerName tables) := by
  unfold StoreTables.insertPlayer
  rw [h.lastPlayerId, nextRowId_of_lt hlast]
  rfl

theorem insertPlayer_full (h : Stored tables database) (hlast : ¬ database.lastPlayerId < maxRowId) :
    tables.insertPlayer playerName = .error "database or disk is full" := by
  unfold StoreTables.insertPlayer
  rw [h.lastPlayerId, nextRowId_of_not_lt hlast]
  rfl

theorem insertAccount (h : Stored tables database) (hlast : database.lastAccountId < maxRowId) :
    tables.insertAccount loginId encodedPasswordHash = .ok (((database.lastAccountId + 1 : Nat) : Int),
      Provisioning.withAccount (database.lastAccountId + 1 : Nat) loginId encodedPasswordHash tables) := by
  unfold StoreTables.insertAccount
  rw [h.lastAccountId, nextRowId_of_lt hlast]
  rfl

theorem insertAccount_full (h : Stored tables database) (hlast : ¬ database.lastAccountId < maxRowId) :
    tables.insertAccount loginId encodedPasswordHash = .error "database or disk is full" := by
  unfold StoreTables.insertAccount
  rw [h.lastAccountId, nextRowId_of_not_lt hlast]
  rfl

/-- The row identifier of an `INSERT` into `players` is positive. -/
theorem insertPlayer_pos (h : Stored tables database) {rowId : Int} {inserted : StoreTables}
    (hrow : tables.insertPlayer playerName = .ok (rowId, inserted)) : ¬ rowId ≤ 0 := by
  by_cases hlast : database.lastPlayerId < maxRowId
  · rw [h.insertPlayer hlast] at hrow
    obtain ⟨rfl, _⟩ := Prod.mk.inj (Except.ok.inj hrow)
    omega
  · rw [h.insertPlayer_full hlast] at hrow
    cases hrow

theorem insertAccount_pos (h : Stored tables database) {rowId : Int} {inserted : StoreTables}
    (hrow : tables.insertAccount loginId encodedPasswordHash = .ok (rowId, inserted)) : ¬ rowId ≤ 0 := by
  by_cases hlast : database.lastAccountId < maxRowId
  · rw [h.insertAccount hlast] at hrow
    obtain ⟨rfl, _⟩ := Prod.mk.inj (Except.ok.inj hrow)
    omega
  · rw [h.insertAccount_full hlast] at hrow
    cases hrow

end Stored

theorem Spares.ite {α : Type} {work other : StoreWork α} (c : Prop) [Decidable c] (hwork : Spares work tables)
    (hother : Spares other tables) : Spares (if c then work else other) tables := by
  by_cases hc : c
  · rwa [if_pos hc]
  · rwa [if_neg hc]

theorem regular_createPlayer (playerName : String) :
    Regular (SqlitePlayerRepository.createPlayer playerName) := by
  refine Regular.ite _ (Regular.pure _) ((regular_prepare 1).bind fun _ =>
    (regular_insert _).bind fun result => ?_)
  cases result with
  | constraint message => exact Regular.pure none
  | done rowId => exact Regular.ite _ (Regular.throw _) (Regular.pure _)

theorem spares_createPlayer (h : Stored tables database) (playerName : String) :
    Spares (SqlitePlayerRepository.createPlayer playerName) tables := by
  refine Spares.ite _ ((Reads.pure none).spares tables) (Spares.bind (reads_prepare 1) fun _ =>
    spares_insert (fun _ => ⟨none, rfl⟩) fun rowId inserted hrow => ?_)
  exact ⟨_, if_neg (h.insertPlayer_pos hrow)⟩

theorem steps_createPlayer (h : Stored tables database) (playerName : String) :
    ∃ after, StepsTo (SqlitePlayerRepository.createPlayer playerName) tables
      (database.lastPlayerId < maxRowId) (database.createPlayer playerName) after := by
  have heffect {outcome : Except Failure (Option PlayerProfile)} {after : StoreTables}
      (hyields : Yields (SqlitePlayerRepository.createPlayer playerName) { durable := tables } outcome
        { durable := after }) :
      Effect (SqlitePlayerRepository.createPlayer playerName) tables outcome after :=
    hyields.effect (regular_createPlayer playerName) (spares_createPlayer h playerName)
  unfold SqlitePlayerRepository.createPlayer at heffect ⊢
  unfold Database.createPlayer
  by_cases hname : LoginValidator.validate playerName ≠ .validPlayerName
  · rw [if_pos hname, if_pos hname]
    exact ⟨tables, .of_effect h (effect_pure none)⟩
  rw [if_neg hname] at heffect ⊢
  rw [if_neg hname]
  by_cases hlast : database.lastPlayerId < maxRowId
  swap
  · -- a full table fails before the name is looked at
    have hfailed := heffect (Yields.bind (yields_prepare 1)
      (Yields.failed (yields_insert_full (h.insertPlayer_full hlast))))
    refine ⟨tables, .of_full _ ?_ hlast hfailed⟩
    rw [Database.nextRowId, if_neg hlast]
    split <;> exact h
  have hiff := schema_withPlayer h.schema (not_not.mp hname) h.newPlayer_notMem
  rw [h.name_mem] at hiff
  rw [Database.nextRowId, if_pos hlast]
  by_cases htaken : database.hasPlayerName playerName = true
  · rw [if_pos htaken]
    obtain ⟨message, hviolation⟩ := violation_of_not fun hschema => hiff.mp hschema htaken
    exact ⟨tables, .of_effect h (heffect (Yields.bind (yields_prepare 1)
      (Yields.bind (yields_insert_constraint (h.insertPlayer hlast) hviolation) (Yields.pure none))))⟩
  · rw [if_neg htaken]
    have hschema := hiff.mpr htaken
    refine ⟨_, .of_effect (h.withPlayer hschema) (heffect (Yields.bind (yields_prepare 1)
      (Yields.bind (yields_insert_done (h.insertPlayer hlast) hschema) ?_)))⟩
    have hpos : ¬ ((database.lastPlayerId + 1 : Nat) : Int) ≤ 0 := by omega
    show Yields (if ((database.lastPlayerId + 1 : Nat) : Int) ≤ 0 then _ else _) _ _ _
    rw [if_neg hpos]
    exact Yields.pure _

/-! ### The texts of an account -/

/-- A text of allowed characters is read as it was written, and each character is one byte. -/
theorem columnText_of_allowed {text : String} (h : text.toList.all isAllowedCharacter = true) :
    SqlitePlayerRepository.columnText text = text ∧ text.utf8ByteSize = text.length := by
  have hascii : ∀ c ∈ text.toList, c.utf8Size = 1 ∧ c ≠ Char.ofNat 0 := fun c hc =>
    ascii_of_allowed (List.all_eq_true.mp h c hc)
  have hsize := utf8ByteSize_ofList fun c hc => (hascii c hc).1
  rw [String.ofList_toList] at hsize
  refine ⟨?_, hsize⟩
  unfold SqlitePlayerRepository.columnText
  rw [List.takeWhile_eq_self_iff.mpr fun c hc => decide_eq_true (hascii c hc).2, String.ofList_toList]

theorem columnText_loginId (h : isValidAccountLoginId loginId = true) :
    SqlitePlayerRepository.columnText loginId = loginId ∧ 4 ≤ loginId.length ∧ loginId.length ≤ 32 := by
  unfold isValidAccountLoginId at h
  simp only [Bool.and_eq_true, Bool.not_eq_true', Bool.or_eq_false_iff, decide_eq_false_iff_not] at h
  obtain ⟨⟨hshort, hlong⟩, hallowed⟩ := h
  obtain ⟨htext, hsize⟩ := columnText_of_allowed hallowed
  rw [hsize] at hshort hlong
  exact ⟨htext, Nat.not_lt.mp hshort, Nat.not_lt.mp hlong⟩

/-- What a password hash is written of has no zeros. -/
theorem encodeHash_ne_zero (data : ScryptPasswordHasher.ScryptHashData) :
    ∀ c ∈ ScryptPasswordHasher.encodeHash data, c ≠ Char.ofNat 0 := by
  have hdecimal (value : UInt64) : ∀ c ∈ ScryptPasswordHasher.toDecimal value, c ≠ Char.ofNat 0 := by
    rintro c hc rfl
    exact absurd (isDigit_toDigits hc) (by decide)
  have hhex {size : Nat} (bytes : Vector UInt8 size) :
      ∀ c ∈ ScryptPasswordHasher.encodeHex bytes, c ≠ Char.ofNat 0 := by
    have hdigits : ∀ k : Fin 16, ScryptPasswordHasher.hexDigits.getD k '0' ≠ Char.ofNat 0 := by
      decide
    intro c hc
    obtain ⟨byte, -, hmem⟩ := List.mem_flatMap.mp hc
    obtain ⟨hhigh, hlow, -⟩ := Auth.halves byte
    rcases List.mem_pair.mp hmem with rfl | rfl
    · exact hdigits ⟨_, hhigh⟩
    · exact hdigits ⟨_, hlow⟩
  have hscheme : Char.ofNat 0 ∉ "scrypt$".toList := by decide
  have hdelimiter : Char.ofNat 0 ∉ ['$'] := by decide
  unfold ScryptPasswordHasher.encodeHash
  simp only [List.forall_mem_append]
  have hne {text : List Char} (h : Char.ofNat 0 ∉ text) : ∀ c ∈ text, c ≠ Char.ofNat 0 :=
    fun c hc heq => h (heq ▸ hc)
  exact ⟨⟨⟨⟨⟨⟨⟨⟨⟨hne hscheme, hdecimal _⟩, hne hdelimiter⟩, hdecimal _⟩, hne hdelimiter⟩, hdecimal _⟩,
    hne hdelimiter⟩, hhex _⟩, hne hdelimiter⟩, hhex _⟩

theorem columnText_encodeHash (data : ScryptPasswordHasher.ScryptHashData) :
    SqlitePlayerRepository.columnText (String.ofList (ScryptPasswordHasher.encodeHash data)) =
        String.ofList (ScryptPasswordHasher.encodeHash data) ∧
      1 ≤ (String.ofList (ScryptPasswordHasher.encodeHash data)).length ∧
      (String.ofList (ScryptPasswordHasher.encodeHash data)).length ≤ 256 := by
  have hvalid := Auth.isValid_encodeHash data
  unfold ScryptPasswordHasher.isValidEncodedPasswordHash at hvalid
  simp only [Bool.and_eq_true, Bool.not_eq_true', List.isEmpty_eq_false_iff, decide_eq_true_eq] at hvalid
  rw [String.length_ofList]
  refine ⟨?_, List.length_pos_iff.mpr hvalid.1, hvalid.2⟩
  unfold SqlitePlayerRepository.columnText
  rw [String.toList_ofList,
    List.takeWhile_eq_self_iff.mpr fun c hc => decide_eq_true (encodeHash_ne_zero data c hc)]

theorem regular_createAccount (loginId encodedPasswordHash : String) :
    Regular (SqliteAccountRepository.createAccount loginId encodedPasswordHash) := by
  refine Regular.ite _ (Regular.pure _) ((regular_prepare 2).bind fun _ =>
    (regular_insert _).bind fun result => ?_)
  cases result with
  | constraint message => exact Regular.pure none
  | done rowId => exact Regular.ite _ (Regular.throw _) (Regular.pure _)

theorem spares_createAccount (h : Stored tables database) (loginId encodedPasswordHash : String) :
    Spares (SqliteAccountRepository.createAccount loginId encodedPasswordHash) tables := by
  refine Spares.ite _ ((Reads.pure none).spares tables) (Spares.bind (reads_prepare 2) fun _ =>
    spares_insert (fun _ => ⟨none, rfl⟩) fun rowId inserted hrow => ?_)
  exact ⟨_, if_neg (h.insertAccount_pos hrow)⟩

theorem steps_createAccount (h : Stored tables database) (loginId : String)
    (hhash : SqlitePlayerRepository.columnText encodedPasswordHash = encodedPasswordHash ∧
      1 ≤ encodedPasswordHash.length ∧ encodedPasswordHash.length ≤ 256) :
    ∃ after, StepsTo (SqliteAccountRepository.createAccount loginId encodedPasswordHash) tables
      (database.lastAccountId < maxRowId) (database.createAccount loginId encodedPasswordHash) after := by
  have heffect {outcome : Except Failure (Option Account)} {after : StoreTables}
      (hyields : Yields (SqliteAccountRepository.createAccount loginId encodedPasswordHash)
        { durable := tables } outcome { durable := after }) :
      Effect (SqliteAccountRepository.createAccount loginId encodedPasswordHash) tables outcome after :=
    hyields.effect (regular_createAccount _ _) (spares_createAccount h _ _)
  unfold SqliteAccountRepository.createAccount at heffect ⊢
  unfold Database.createAccount
  by_cases hinput : ¬ isValidAccountLoginId loginId = true ∨
      ¬ DnfServer.isValidEncodedPasswordHash encodedPasswordHash = true
  · rw [if_pos hinput, if_pos hinput]
    exact ⟨tables, .of_effect h (effect_pure none)⟩
  rw [if_neg hinput] at heffect ⊢
  rw [if_neg hinput]
  by_cases hlast : database.lastAccountId < maxRowId
  swap
  · have hfailed := heffect (Yields.bind (yields_prepare 2)
      (Yields.failed (yields_insert_full (h.insertAccount_full hlast))))
    refine ⟨tables, .of_full _ ?_ hlast hfailed⟩
    rw [Database.nextRowId, if_neg hlast]
    split <;> exact h
  obtain ⟨hlogin, hshort, hlong⟩ := columnText_loginId (not_not.mp (not_or.mp hinput).1)
  have hiff := schema_withAccount h.schema (by rw [hlogin]; exact ⟨hshort, hlong⟩)
    (by rw [hhash.1]; exact hhash.2) h.newAccount_notMem
  rw [h.login_mem] at hiff
  rw [Database.nextRowId, if_pos hlast]
  by_cases htaken : database.accounts.toList.any
      (fun row => Database.sameLoginId row.2.loginId loginId) = true
  · rw [if_pos htaken]
    obtain ⟨message, hviolation⟩ := violation_of_not fun hschema => hiff.mp hschema htaken
    exact ⟨tables, .of_effect h (heffect (Yields.bind (yields_prepare 2)
      (Yields.bind (yields_insert_constraint (h.insertAccount hlast) hviolation) (Yields.pure none))))⟩
  · rw [if_neg htaken]
    have hschema := hiff.mpr htaken
    refine ⟨_, .of_effect (h.withAccount ⟨hlogin, hhash.1⟩ hschema) (heffect (Yields.bind (yields_prepare 2)
      (Yields.bind (yields_insert_done (h.insertAccount hlast) hschema) ?_)))⟩
    have hpos : ¬ ((database.lastAccountId + 1 : Nat) : Int) ≤ 0 := by omega
    show Yields (if ((database.lastAccountId + 1 : Nat) : Int) ≤ 0 then _ else _) _ _ _
    rw [if_neg hpos]
    exact Yields.pure _

/-- `AccountProvisioningService::CreateAccount` in one step, with what the hasher makes of the password. -/
def provisionAccount (loginId : String) (password : Auth.Bytes) (hashed : Except Failure (Option String))
    (database : Database) : Except Failure AccountProvisioningResult × Database :=
  if ¬ isValidAccountLoginId loginId then (.ok ⟨.invalidLoginId, 0⟩, database)
  else if password.isEmpty ∨ password.length > Auth.maxPasswordLength then
    (.ok ⟨.invalidPassword, 0⟩, database)
  else match hashed with
    | .error failure => (.error failure, database)
    | .ok none => (.ok ⟨.passwordHashFailed, 0⟩, database)
    | .ok (some encodedPasswordHash) =>
      let created := database.createAccount loginId encodedPasswordHash
      (created.1.map fun account =>
        account.elim ⟨.loginIdAlreadyExists, 0⟩ fun account => ⟨.success, account.accountId⟩, created.2)

section

variable {α β : Type} {work : StoreWork α} {room : Prop} {step : Except Failure α × Database}
  {after : StoreTables}

theorem StepsTo.map (h : StepsTo work tables room step after) {next : α → StoreWork β} {f : α → β}
    (hnext : ∀ result, next result = pure (f result)) :
    StepsTo (work >>= next) tables room (step.1.map f, step.2) after where
  stored := h.stored
  atomic {connection} {result} {ended} hstore hrun := by
    obtain ⟨_, middle, hfirst, hsecond⟩ | ⟨_, hfirst, rfl⟩ := of_on_bind hrun
    · rw [hnext] at hsecond
      cases hsecond
      rcases h.atomic hstore hfirst with ⟨_, herror, _⟩ | ⟨hok, hended⟩
      · cases herror
      · exact Or.inr ⟨by rw [← hok]; rfl, hended⟩
    · rcases h.atomic hstore hfirst with ⟨failure, _, hended⟩ | ⟨hok, hended⟩
      · exact Or.inl ⟨_, rfl, hended⟩
      · exact Or.inr ⟨by rw [← hok]; rfl, hended⟩
  whole hroom {connection} {result} {ended} hstore hrun hnone := by
    obtain ⟨_, middle, hfirst, hsecond⟩ | ⟨_, hfirst, rfl⟩ := of_on_bind hrun
    · rw [hnext] at hsecond
      cases hsecond
      obtain ⟨hok, hended⟩ := h.whole hroom hstore hfirst hnone
      exact ⟨by rw [← hok]; rfl, hended⟩
    · obtain ⟨hok, hended⟩ := h.whole hroom hstore hfirst hnone
      exact ⟨by rw [← hok]; rfl, hended⟩

end

/-- What the hasher makes of a password is a text of the encoding. -/
theorem hash_cases (derive : ScryptPasswordHasher.KeyDerivation)
    (randomBytes : Option (Vector UInt8 ScryptPasswordHasher.saltByteCount)) (password : Auth.Bytes) :
    (∃ failure, ScryptPasswordHasher.hash derive randomBytes password = .error failure) ∨
      ScryptPasswordHasher.hash derive randomBytes password = .ok none ∨
      ∃ salt hash, randomBytes = some salt ∧
        derive password salt ScryptPasswordHasher.scryptN ScryptPasswordHasher.scryptR
          ScryptPasswordHasher.scryptP = some hash ∧
        ScryptPasswordHasher.hash derive randomBytes password =
          .ok (some (String.ofList (ScryptPasswordHasher.encodeHash
            { n := ScryptPasswordHasher.scryptN, r := ScryptPasswordHasher.scryptR
              p := ScryptPasswordHasher.scryptP, salt, hash }))) := by
  unfold ScryptPasswordHasher.hash
  split
  · exact Or.inr (Or.inl rfl)
  cases randomBytes with
  | none => exact Or.inl ⟨_, rfl⟩
  | some salt =>
    cases hderived : derive password salt ScryptPasswordHasher.scryptN ScryptPasswordHasher.scryptR
        ScryptPasswordHasher.scryptP with
    | none =>
      refine Or.inl ⟨.runtimeError "Failed to hash password with scrypt", ?_⟩
      simp only [ScryptPasswordHasher.deriveScryptHash, hderived]
    | some hash =>
      refine Or.inr (Or.inr ⟨salt, hash, rfl, hderived, ?_⟩)
      simp only [ScryptPasswordHasher.deriveScryptHash, hderived]

theorem steps_provisionAccount (h : Stored tables database) (loginId : String) (password : Auth.Bytes)
    (derive : ScryptPasswordHasher.KeyDerivation)
    (randomBytes : Option (Vector UInt8 ScryptPasswordHasher.saltByteCount)) :
    ∃ after, StepsTo (AccountProvisioningService.createAccount loginId password
        (ScryptPasswordHasher.hash derive randomBytes password)) tables
      (database.lastAccountId < maxRowId) (provisionAccount loginId password (ScryptPasswordHasher.hash derive randomBytes password) database)
      after := by
  unfold AccountProvisioningService.createAccount provisionAccount
  by_cases hlogin : ¬ isValidAccountLoginId loginId = true
  · rw [if_pos hlogin, if_pos hlogin]
    exact ⟨tables, .of_effect h (effect_pure _)⟩
  rw [if_neg hlogin, if_neg hlogin]
  by_cases hpassword : password.isEmpty = true ∨ password.length > Auth.maxPasswordLength
  · rw [if_pos hpassword, if_pos hpassword]
    exact ⟨tables, .of_effect h (effect_pure _)⟩
  rw [if_neg hpassword, if_neg hpassword]
  obtain ⟨failure, hhash⟩ | hhash | ⟨salt, hash, -, -, hhash⟩ := hash_cases derive randomBytes password
  · rw [hhash]
    exact ⟨tables, .of_effect h ((Yields.throw failure).effect (Regular.throw failure)
      ((Reads.throw failure).spares tables))⟩
  · rw [hhash]
    exact ⟨tables, .of_effect h (effect_pure _)⟩
  · rw [hhash]
    obtain ⟨after, hafter⟩ := steps_createAccount h loginId (columnText_encodeHash
      { n := ScryptPasswordHasher.scryptN, r := ScryptPasswordHasher.scryptR
        p := ScryptPasswordHasher.scryptP, salt, hash })
    refine ⟨after, ?_⟩
    simp only
    rw [if_neg (not_not_intro (Auth.isValid_stored _))]
    refine hafter.map fun account => ?_
    cases account <;> rfl

/-! ## Links -/

theorem Stored.withLink_iff (h : Stored tables database) :
    StoreSchema (Provisioning.withLink accountId playerId tables) ↔
      ¬ (accountId ∉ database.accounts ∨ playerId ∉ database.players ∨
        playerId ∈ database.accountPlayers) := by
  rw [schema_withLink h.schema, h.account_mem, h.hasPlayer, h.link_mem]
  simp only [not_or, not_not]

theorem regular_linkPlayer (accountId : AccountId) (playerId : PlayerId) :
    Regular (SqliteAccountPlayerRepository.linkPlayer accountId playerId) := by
  refine Regular.ite _ (Regular.pure _) ((regular_prepare 2).bind fun _ =>
    (regular_insert _).bind fun result => ?_)
  cases result <;> exact Regular.pure _

theorem spares_linkPlayer (accountId : AccountId) (playerId : PlayerId) :
    Spares (SqliteAccountPlayerRepository.linkPlayer accountId playerId) tables :=
  Spares.ite _ ((Reads.pure false).spares tables) (Spares.bind (reads_prepare 2) fun _ =>
    spares_insert (fun _ => ⟨false, rfl⟩) fun _ _ _ => ⟨true, rfl⟩)

theorem steps_linkPlayer (h : Stored tables database) (accountId : AccountId) (playerId : PlayerId) :
    ∃ after, StepsTo (SqliteAccountPlayerRepository.linkPlayer accountId playerId) tables True
      (.ok (database.linkPlayer accountId playerId).1, (database.linkPlayer accountId playerId).2) after := by
  have heffect {outcome : Except Failure Bool} {after : StoreTables}
      (hyields : Yields (SqliteAccountPlayerRepository.linkPlayer accountId playerId)
        { durable := tables } outcome { durable := after }) :
      Effect (SqliteAccountPlayerRepository.linkPlayer accountId playerId) tables outcome after :=
    hyields.effect (regular_linkPlayer _ _) (spares_linkPlayer _ _)
  unfold SqliteAccountPlayerRepository.linkPlayer at heffect ⊢
  unfold Database.linkPlayer
  by_cases hids : ¬ canStoreId accountId = true ∨ ¬ canStoreId playerId = true
  · rw [if_pos hids, if_pos hids]
    exact ⟨tables, .of_effect h (effect_pure false)⟩
  rw [if_neg hids] at heffect ⊢
  rw [if_neg hids]
  by_cases hkeys : accountId ∉ database.accounts ∨ playerId ∉ database.players ∨
      playerId ∈ database.accountPlayers
  · rw [if_pos hkeys]
    obtain ⟨message, hviolation⟩ := violation_of_not fun hschema => h.withLink_iff.mp hschema hkeys
    exact ⟨tables, .of_effect h (heffect (Yields.bind (yields_prepare 2)
      (Yields.bind (yields_insert_constraint rfl hviolation) (Yields.pure false))))⟩
  · rw [if_neg hkeys]
    have hschema := h.withLink_iff.mpr hkeys
    have hfree : playerId ∉ database.accountPlayers := fun hmem => hkeys (Or.inr (Or.inr hmem))
    exact ⟨_, .of_effect (h.withLink hfree hschema) (heffect (Yields.bind (yields_prepare 2)
      (Yields.bind (yields_insert_done rfl hschema) (Yields.pure true))))⟩

/-! ## Owned players -/

open SqliteCharacterProvisioner

theorem regular_createBody (accountId : AccountId) (playerName : String) :
    Regular (createBody accountId playerName) := by
  refine (regular_prepare 1).bind fun _ => (Regular.query raise _).bind fun found =>
    Regular.ite _ (Regular.pure _) ((regular_prepare 1).bind fun _ =>
      (regular_insert _).bind fun result => ?_)
  cases result with
  | constraint message => exact Regular.pure _
  | done rowId =>
    refine Regular.ite _ (Regular.throw _) ((regular_prepare 2).bind fun _ =>
      (regular_insert _).bind fun ownership => ?_)
    cases ownership with
    | constraint message => exact Regular.throw _
    | done other => exact (Regular.commit raise).bind fun _ => Regular.pure _

theorem Withdraws.ite {α : Type} {work other : StoreWork α} (c : Prop) [Decidable c]
    (hwork : Withdraws work) (hother : Withdraws other) : Withdraws (if c then work else other) := by
  by_cases hc : c
  · rwa [if_pos hc]
  · rwa [if_neg hc]

theorem withdraws_createBody (accountId : AccountId) (playerName : String) :
    Withdraws (createBody accountId playerName) := by
  refine Withdraws.bind (inside_prepare 1) fun _ => Withdraws.bind (Inside.query raise _) fun found =>
    Withdraws.ite _ (Inside.pure _).withdraws (Withdraws.bind (inside_prepare 1) fun _ =>
      Withdraws.bind (inside_insert _) fun result => ?_)
  cases result with
  | constraint message => exact (Inside.pure _).withdraws
  | done rowId =>
    refine Withdraws.ite _ (Inside.throw _).withdraws (Withdraws.bind (inside_prepare 2) fun _ =>
      Withdraws.bind (inside_insert _) fun ownership => ?_)
    cases ownership with
    | constraint message => exact (Inside.throw _).withdraws
    | done other => exact Withdraws.commit raise _

theorem Stored.findAccountRow (h : Stored tables database) :
    (tables.findAccountRow accountId).isSome = true ↔ accountId ∈ database.accounts := by
  rw [StoreTables.findAccountRow, List.find?_isSome, ← h.account_mem]
  simp only [decide_eq_true_eq]

/-- The new player has no account yet. -/
theorem Stored.newLink (h : Stored tables database) :
    database.lastPlayerId + 1 ∉ database.accountPlayers := by
  intro hmem
  obtain ⟨owner, howner⟩ := exists_of_mem hmem
  have hplayer := (h.schema.linkOwners _ ((h.links _).mpr ⟨_, owner, howner, rfl⟩)).2
  exact h.newPlayer_notMem (List.mem_map.mpr (hasPlayer_iff.mp hplayer))

theorem steps_createOwnedPlayer (h : Stored tables database) (accountId : AccountId) (playerName : String) :
    ∃ after, StepsTo (createOwnedPlayer accountId playerName) tables
      (database.lastPlayerId < maxRowId) (database.createOwnedPlayer accountId playerName) after := by
  unfold createOwnedPlayer Database.createOwnedPlayer
  by_cases hinput : ¬ canStoreId accountId = true ∨
      LoginValidator.validate playerName ≠ .validPlayerName
  · rw [if_pos hinput, if_pos hinput]
    exact ⟨tables, .of_effect h (effect_pure _)⟩
  rw [if_neg hinput, if_neg hinput]
  have heffect {outcome : Except Failure Database.CharacterProvisioningResult} {after : StoreTables}
      (working : Option StoreTables)
      (hyields : Yields (createBody accountId playerName) { durable := tables, working := some tables }
        outcome { durable := after, working }) :
      Effect (transaction raise (createBody accountId playerName)) tables outcome after :=
    (Yields.transaction raise hyields).effect (regular_createBody _ _).transaction
      (Spares.transaction (withdraws_createBody _ _) tables)
  unfold createBody at heffect ⊢
  have hbegin {outcome : Except Failure Database.CharacterProvisioningResult} {left : Store StoreTables}
      {next : Bool → StoreWork Database.CharacterProvisioningResult}
      (hnext : Yields (next (tables.findAccountRow accountId).isSome)
        { durable := tables, working := some tables } outcome left) :
      Yields (prepare 1 >>= fun _ => query raise (fun tables => (tables.findAccountRow accountId).isSome) >>=
        next) { durable := tables, working := some tables } outcome left :=
    Yields.bind (yields_prepare 1) (Yields.bind (Yields.query raise _) hnext)
  by_cases haccount : accountId ∈ database.accounts
  swap
  · rw [if_pos haccount]
    refine ⟨tables, .of_effect h (heffect (some tables) (hbegin ?_))⟩
    rw [if_pos (mt h.findAccountRow.mp haccount)]
    exact Yields.pure _
  rw [if_neg (not_not_intro haccount)]
  have hfound : ¬ ¬ (tables.findAccountRow accountId).isSome = true :=
    not_not_intro (h.findAccountRow.mpr haccount)
  by_cases hlast : database.lastPlayerId < maxRowId
  swap
  · refine ⟨tables, .of_full (raise "database or disk is full") ?_ hlast
      (heffect (some tables) (hbegin ?_))⟩
    · rw [Database.nextRowId, if_neg hlast]
      split <;> exact h
    · rw [if_neg hfound]
      exact Yields.bind (yields_prepare 1) (Yields.failed (yields_insert_full (h.insertPlayer_full hlast)))
  have hiff := schema_withPlayer h.schema (not_not.mp (not_or.mp hinput).2) h.newPlayer_notMem
  rw [h.name_mem] at hiff
  rw [Database.nextRowId, if_pos hlast]
  by_cases htaken : database.hasPlayerName playerName = true
  · rw [if_pos htaken]
    obtain ⟨message, hviolation⟩ := violation_of_not fun hschema => hiff.mp hschema htaken
    refine ⟨tables, .of_effect h (heffect (some tables) (hbegin ?_))⟩
    rw [if_neg hfound]
    exact Yields.bind (yields_prepare 1)
      (Yields.bind (yields_insert_constraint (h.insertPlayer hlast) hviolation) (Yields.pure _))
  rw [if_neg htaken]
  have hnew := hiff.mpr htaken
  have hplayer := h.withPlayer hnew
  have hlink : StoreSchema (withLink accountId (database.lastPlayerId + 1 : Nat)
      (withPlayer (database.lastPlayerId + 1 : Nat) playerName tables)) :=
    hplayer.withLink_iff.mpr fun hkeys => by
      rcases hkeys with hmissing | hmissing | hlinked
      · exact hmissing haccount
      · exact hmissing ExtTreeMap.mem_insert_self
      · exact h.newLink hlinked
  refine ⟨_, .of_effect (hplayer.withLink h.newLink hlink) (heffect none (hbegin ?_))⟩
  rw [if_neg hfound]
  refine Yields.bind (yields_prepare 1)
    (Yields.bind (yields_insert_done (h.insertPlayer hlast) hnew) ?_)
  have hpos : ¬ ((database.lastPlayerId + 1 : Nat) : Int) ≤ 0 := by omega
  show Yields (if ((database.lastPlayerId + 1 : Nat) : Int) ≤ 0 then _ else _) _ _ _
  rw [if_neg hpos]
  exact Yields.bind (yields_prepare 2) (Yields.bind (yields_insert_done rfl hlink)
    (Yields.bind (Yields.commit raise rfl) (Yields.pure _)))

/-! ## Saved players -/

theorem spares_savePlayer (profile : PlayerProfile) (players : PlayerTables) :
    Spares (SqlitePlayerRepository.savePlayer profile) players := by
  intro connection failure ended h hstore
  unfold SqlitePlayerRepository.savePlayer at h
  split at h
  · cases h
  · have hdurable := transaction_unchanged (Sqlite.commits_saveBody profile) h fun hok => by cases hok
    have hclosed := transaction_closed (by rw [hstore]) h
    rw [hstore] at hdurable
    exact congrArg₂ Store.mk hdurable hclosed

/-- A save changes the row of a player that is there, and nothing else. -/
theorem savePlayer_cases (database : Database) (profile : PlayerProfile) :
    (database.savePlayer profile).2 = database ∨ profile.playerId ∈ database.players ∧ ∃ row,
      (database.savePlayer profile).2 =
        { database with players := database.players.insert profile.playerId row } := by
  unfold Database.savePlayer
  split
  · exact Or.inl rfl
  split
  · exact Or.inl rfl
  rename_i hplayer
  split
  · exact Or.inl rfl
  · exact Or.inr ⟨not_not.mp hplayer, _, rfl⟩

theorem Stored.savePlayer (h : Stored tables database) {profile : PlayerProfile} {players : PlayerTables}
    (hrows : Represents players (database.savePlayer profile).2) (hschema : Schema players) :
    Stored { tables with toPlayerTables := players } (database.savePlayer profile).2 := by
  have hmem (otherId : PlayerId) :
      otherId ∈ (database.savePlayer profile).2.players ↔ otherId ∈ database.players := by
    rcases savePlayer_cases database profile with hsame | ⟨hplayer, row, hsaved⟩
    · rw [hsame]
    · rw [hsaved]
      show otherId ∈ database.players.insert profile.playerId row ↔ _
      rw [ExtTreeMap.mem_insert]
      constructor
      · rintro (heq | hold)
        · exact Nat.compare_eq_eq.mp heq ▸ hplayer
        · exact hold
      · exact Or.inr
  have hrest : (database.savePlayer profile).2 =
      { database with players := (database.savePlayer profile).2.players } := by
    rcases savePlayer_cases database profile with hsame | ⟨_, row, hsaved⟩
    · rw [hsame]
    · rw [hsaved]
  rw [hrest] at hrows ⊢
  refine { h with schema := { toSchema := hschema, loginLength := h.schema.loginLength
                              hashLength := h.schema.hashLength, accountIds := h.schema.accountIds
                              loginIds := h.schema.loginIds, linkPlayers := h.schema.linkPlayers
                              linkKeys := h.schema.linkKeys, linkOwners := ?_ }
                  rows := hrows, playerIds := ?_ }
  · intro row hrow
    obtain ⟨otherId, owner, _, rfl⟩ := (h.links row).mp hrow
    obtain ⟨haccount, hplayer⟩ := h.schema.linkOwners _ hrow
    exact ⟨haccount, hrows.hasPlayer.mpr ((hmem otherId).mpr (h.hasPlayer.mp hplayer))⟩
  · intro otherId hother
    exact h.playerIds otherId ((hmem otherId).mp hother)

theorem steps_storePlayer (h : Stored tables database) (profile : PlayerProfile) :
    ∃ after, StepsTo (SqlitePlayerRepository.storePlayer profile) tables True
      (database.savePlayer profile) after := by
  obtain ⟨players, hyields, hrows⟩ := @Represents.savePlayer profile _ _ h.rows h.schema.toSchema
  have hschema : Schema players := by
    obtain ⟨ended, hrun, hended, _⟩ := @hyields { store := { durable := tables.toPlayerTables } } rfl
      fun _ => rfl
    have hkept := (Sqlite.saves rfl h.schema.toSchema hrun).schema
    rwa [hended] at hkept
  have heffect : Effect (SqlitePlayerRepository.savePlayer profile) tables.toPlayerTables
      (database.savePlayer profile).1 players :=
    hyields.effect (Sqlite.regular_savePlayer profile) (spares_savePlayer profile _)
  exact ⟨_, .of_effect (h.savePlayer hrows hschema) (heffect.focus rfl)⟩

/-! ## Reading -/

/-- A function that only reads leaves the rows, and answers as the database does. -/
theorem StepsTo.of_reads {α : Type} {work : StoreWork α} {outcome : Except Failure α}
    (h : Stored tables database) (hregular : Regular work) (hreads : Reads work)
    (hyields : Yields work { durable := tables } outcome { durable := tables }) :
    StepsTo work tables True (outcome, database) tables :=
  .of_effect h (hyields.effect hregular (hreads.spares tables))

theorem regular_ofExcept (result : Except Failure Account) :
    Regular (some <$> ofExcept result : StoreWork (Option Account)) := by
  cases result with
  | ok account => exact Regular.pure (some account)
  | error failure => exact Regular.throw failure

theorem reads_ofExcept (result : Except Failure Account) :
    Reads (some <$> ofExcept result : StoreWork (Option Account)) := by
  cases result with
  | ok account => exact Reads.pure (some account)
  | error failure => exact Reads.throw failure

theorem yields_ofExcept (result : Except Failure Account) {before : Store StoreTables} :
    Yields (some <$> ofExcept result : StoreWork (Option Account)) before (result.map some) before := by
  cases result with
  | ok account => exact Yields.pure (some account)
  | error failure => exact Yields.throw failure

theorem regular_readSingleAccount (find : StoreTables → Option AccountRecord) :
    Regular (SqliteAccountRepository.readSingleAccount find) := by
  refine (regular_prepare 1).bind fun _ => (Regular.query raise _).bind fun row => ?_
  cases row with
  | none => exact Regular.pure none
  | some row => exact regular_ofExcept _

theorem reads_readSingleAccount (find : StoreTables → Option AccountRecord) :
    Reads (SqliteAccountRepository.readSingleAccount find) := by
  refine Reads.bind (reads_prepare 1) fun _ => Reads.bind (Reads.query raise _) fun row => ?_
  cases row with
  | none => exact Reads.pure none
  | some row => exact reads_ofExcept _

theorem yields_readSingleAccount {find : StoreTables → Option AccountRecord} {row : Option AccountRecord}
    (hfind : find tables = row) :
    Yields (SqliteAccountRepository.readSingleAccount find) { durable := tables }
      (row.elim (.ok none) fun row => (SqliteAccountRepository.readAccountRow row).map some)
      { durable := tables } := by
  have hquery : Yields (query raise find) { durable := tables } (.ok row) { durable := tables } := by
    rw [← hfind]
    exact Yields.query raise find
  refine Yields.bind (yields_prepare 1) (Yields.bind hquery ?_)
  cases row with
  | none => exact Yields.pure none
  | some row => exact yields_ofExcept _

/-- The row of an account is read as the account, or refused as its data are. -/
theorem readAccountRow_eq (h : Stored tables database) {row : AccountRow}
    (hrow : database.accounts[accountId]? = some row) :
    SqliteAccountRepository.readAccountRow ⟨accountId, row.loginId, row.passwordHash⟩ =
      if isValidAccount { accountId, loginId := row.loginId, encodedPasswordHash := row.passwordHash } then
        .ok { accountId, loginId := row.loginId, encodedPasswordHash := row.passwordHash }
      else .error (.runtimeError "Invalid account data in SQLite database") := by
  obtain ⟨hlogin, hhash⟩ := h.texts _ ((h.accounts _).mpr ⟨accountId, row, hrow, rfl⟩)
  have hpos : ¬ (accountId : Int) ≤ 0 := by
    have hnat := (h.accountIds accountId (mem_of_entry hrow)).1
    omega
  unfold SqliteAccountRepository.readAccountRow
  rw [if_neg hpos, hlogin, hhash]
  rfl

/-- A condition that at most one account meets finds in the rows what it finds in the database. -/
theorem Stored.find_account (h : Stored tables database) {p : AccountRecord → Bool}
    (hunique : ∀ left ∈ tables.accounts, ∀ right ∈ tables.accounts,
      p left = true → p right = true → left = right) {row : AccountRow}
    (hrow : database.accounts[accountId]? = some row)
    (hp : p ⟨accountId, row.loginId, row.passwordHash⟩ = true) :
    tables.accounts.find? p = some ⟨accountId, row.loginId, row.passwordHash⟩ := by
  have hmem := (h.accounts _).mpr ⟨accountId, row, hrow, rfl⟩
  obtain ⟨found, hfound⟩ := Option.isSome_iff_exists.mp (List.find?_isSome.mpr ⟨_, hmem, hp⟩)
  rw [hfound, hunique found (List.mem_of_find?_eq_some hfound) _ hmem (List.find?_some hfound) hp]

theorem steps_findAccount (h : Stored tables database) (accountId : AccountId) :
    StepsTo (SqliteAccountRepository.findAccount accountId) tables True
      (database.findAccount accountId, database) tables := by
  refine .of_reads h (Regular.ite _ (Regular.pure _) (regular_readSingleAccount _)) ?_ ?_
  · unfold SqliteAccountRepository.findAccount
    split
    · exact Reads.pure none
    · exact reads_readSingleAccount _
  unfold SqliteAccountRepository.findAccount Database.findAccount
  by_cases hid : ¬ canStoreId accountId = true
  · rw [if_pos hid, if_pos hid]
    exact Yields.pure none
  rw [if_neg hid, if_neg hid]
  cases hrow : database.accounts[accountId]? with
  | none =>
    have hnone : tables.findAccountRow accountId = none := by
      refine List.find?_eq_none.mpr fun record hrecord heq => ?_
      have hmem := h.account_mem.mp ⟨record, hrecord, of_decide_eq_true heq⟩
      obtain ⟨row, hsome⟩ := exists_of_mem hmem
      rw [hrow] at hsome
      cases hsome
    exact yields_readSingleAccount hnone
  | some row =>
    have hfound : tables.findAccountRow accountId = some ⟨accountId, row.loginId, row.passwordHash⟩ := by
      refine h.find_account (fun left hleft right hright hl hr => ?_) hrow (decide_eq_true rfl)
      exact List.inj_on_of_nodup_map h.schema.accountIds hleft hright
        ((of_decide_eq_true hl).trans (of_decide_eq_true hr).symm)
    have hread := yields_readSingleAccount hfound
    rw [Option.elim_some, readAccountRow_eq h hrow, apply_ite (Except.map some)] at hread
    exact hread

/-- The account of a login id, under the collation of the column. -/
def findAccountByLoginId (loginId : String) (database : Database) : Except Failure (Option Account) :=
  if ¬ isValidAccountLoginId loginId then .ok none
  else match database.accounts.toList.find? (fun row => Database.sameLoginId row.2.loginId loginId) with
    | none => .ok none
    | some (accountId, row) =>
      let account : Account :=
        { accountId, loginId := row.loginId, encodedPasswordHash := row.passwordHash }
      if isValidAccount account then .ok (some account)
      else .error (.runtimeError "Invalid account data in SQLite database")

theorem effect_findAccountByLoginId (h : Stored tables database) (loginId : String) :
    Effect (SqliteAccountRepository.findAccountByLoginId loginId) tables
      (findAccountByLoginId loginId database) tables := by
  have hreads : Reads (SqliteAccountRepository.findAccountByLoginId loginId) := by
    unfold SqliteAccountRepository.findAccountByLoginId
    split
    · exact Reads.pure none
    · exact reads_readSingleAccount _
  refine Yields.effect ?_ (Regular.ite _ (Regular.pure _) (regular_readSingleAccount _)) (hreads.spares tables)
  unfold SqliteAccountRepository.findAccountByLoginId findAccountByLoginId
  by_cases hlogin : ¬ isValidAccountLoginId loginId = true
  · rw [if_pos hlogin, if_pos hlogin]
    exact Yields.pure none
  rw [if_neg hlogin, if_neg hlogin]
  cases hrow : database.accounts.toList.find? fun row => Database.sameLoginId row.2.loginId loginId with
  | none =>
    have hnone : tables.findLoginRow loginId = none := by
      refine List.find?_eq_none.mpr fun record hrecord hsame => ?_
      obtain ⟨accountId, row, hentry, rfl⟩ := (h.accounts record).mp hrecord
      exact List.find?_eq_none.mp hrow _ (ExtTreeMap.mem_toList_iff_getElem?_eq_some.mpr hentry) hsame
    exact yields_readSingleAccount hnone
  | some entry =>
    obtain ⟨accountId, row⟩ := entry
    have hentry := ExtTreeMap.mem_toList_iff_getElem?_eq_some.mp (List.mem_of_find?_eq_some hrow)
    have hsame := List.find?_some hrow
    have hfound : tables.findLoginRow loginId = some ⟨accountId, row.loginId, row.passwordHash⟩ := by
      refine h.find_account (fun left hleft right hright hl hr => ?_) hentry hsame
      exact List.inj_on_of_nodup_map h.schema.loginIds hleft hright
        ((of_decide_eq_true hl).trans (of_decide_eq_true hr).symm)
    have hread := yields_readSingleAccount hfound
    rw [Option.elim_some, readAccountRow_eq h hentry, apply_ite (Except.map some)] at hread
    exact hread

theorem steps_ownsPlayer (h : Stored tables database) (accountId : AccountId) (playerId : PlayerId) :
    StepsTo (SqliteAccountPlayerRepository.ownsPlayer accountId playerId) tables True
      (.ok (database.ownsPlayer accountId playerId), database) tables := by
  have hregular : Regular (SqliteAccountPlayerRepository.ownsPlayer accountId playerId) :=
    Regular.ite _ (Regular.pure _) ((regular_prepare 2).bind fun _ => Regular.query raise _)
  unfold SqliteAccountPlayerRepository.ownsPlayer at hregular ⊢
  unfold Database.ownsPlayer
  by_cases hids : ¬ canStoreId accountId = true ∨ ¬ canStoreId playerId = true
  · rw [if_pos hids] at hregular ⊢
    have hfalse : (canStoreId accountId && canStoreId playerId) = false := by
      rw [Bool.and_eq_false_iff]
      exact hids.imp Bool.eq_false_iff.mpr Bool.eq_false_iff.mpr
    rw [hfalse, Bool.false_and]
    exact .of_reads h hregular (Reads.pure false) (Yields.pure false)
  rw [if_neg hids] at hregular ⊢
  obtain ⟨haccount, hplayer⟩ := not_or.mp hids
  rw [not_not.mp haccount, not_not.mp hplayer, Bool.true_and, Bool.true_and]
  have hiff : ⟨accountId, playerId⟩ ∈ tables.accountPlayers ↔
      database.accountPlayers[playerId]? = some accountId := by
    rw [h.links]
    constructor
    · rintro ⟨otherId, owner, howner, heq⟩
      obtain ⟨hsame, hid⟩ := AccountPlayerRecord.mk.inj heq
      rw [Int.ofNat_inj.mp hid, Int.ofNat_inj.mp hsame]
      exact howner
    · intro howner
      exact ⟨playerId, accountId, howner, rfl⟩
  have hquery : Yields (query raise fun tables : StoreTables =>
      decide (⟨accountId, playerId⟩ ∈ tables.accountPlayers)) { durable := tables }
      (.ok (decide (database.accountPlayers[playerId]? = some accountId))) { durable := tables } := by
    rw [← decide_eq_decide.mpr hiff]
    exact Yields.query raise _
  exact .of_reads h hregular (Reads.bind (reads_prepare 2) fun _ => Reads.query raise _)
    (Yields.bind (yields_prepare 2) hquery)

/-- The identifiers that are read are those of the database, in the same order. -/
theorem playerIdsOf_eq (h : Stored tables database) (accountId : AccountId) :
    tables.playerIdsOf accountId = (Auth.ownedPlayers accountId database).map Int.ofNat := by
  have hrows : (((tables.accountPlayers.filter (·.accountId = (accountId : Int))).map
      (·.playerId))).Nodup := h.schema.linkPlayers.sublist (List.filter_sublist.map _)
  have hids : (Auth.ownedPlayers accountId database).Nodup :=
    (nodup_map_fst_toList database.accountPlayers).sublist (List.filter_sublist.map _)
  have hsorted : (Auth.ownedPlayers accountId database).Pairwise (· < ·) := by
    refine List.pairwise_map.mpr ((ExtTreeMap.ordered_keys_toList.imp fun hlt => ?_).filter _)
    exact Nat.compare_eq_lt.mp hlt
  have hmem (id : Int) : id ∈ (tables.accountPlayers.filter (·.accountId = (accountId : Int))).map
      (·.playerId) ↔ id ∈ (Auth.ownedPlayers accountId database).map Int.ofNat := by
    constructor
    · intro hid
      obtain ⟨record, hrecord, rfl⟩ := List.mem_map.mp hid
      obtain ⟨hlink, howner⟩ := List.mem_filter.mp hrecord
      obtain ⟨playerId, owner, hentry, rfl⟩ := (h.links record).mp hlink
      rw [Int.ofNat_inj.mp (of_decide_eq_true howner)] at hentry
      exact List.mem_map_of_mem (Auth.mem_ownedPlayers.mpr hentry)
    · intro hid
      obtain ⟨playerId, hplayer, rfl⟩ := List.mem_map.mp hid
      have hlink := (h.links _).mpr ⟨playerId, accountId, Auth.mem_ownedPlayers.mp hplayer, rfl⟩
      exact List.mem_map.mpr ⟨_, List.mem_filter.mpr ⟨hlink, decide_eq_true rfl⟩, rfl⟩
  have hperm := (List.mergeSort_perm ((tables.accountPlayers.filter (·.accountId = (accountId : Int))).map
    (·.playerId)) fun left right => decide (left ≤ right)).trans ((List.perm_ext_iff_of_nodup hrows
      (hids.map fun _ _ heq => Int.ofNat.inj heq)).mpr hmem)
  refine hperm.eq_of_pairwise (fun left right _ _ hle hge => Int.le_antisymm hle hge) ?_ ?_
  · have hsort := @List.pairwise_mergeSort _ (fun left right : Int => decide (left ≤ right))
      (fun a b c hab hbc => by simp only [decide_eq_true_eq] at *; omega)
      (fun a b => by simp only [Bool.or_eq_true, decide_eq_true_eq]; omega)
      ((tables.accountPlayers.filter (·.accountId = (accountId : Int))).map (·.playerId))
    exact hsort.imp fun hle => of_decide_eq_true hle
  · exact List.pairwise_map.mpr (hsorted.imp fun hlt => Int.ofNat_le.mpr (Nat.le_of_lt hlt))

theorem regular_readPlayerId (playerId : Int) :
    Regular (SqliteAccountPlayerRepository.readPlayerId playerId) :=
  Regular.ite _ (Regular.throw _) ((Regular.touch raise).bind fun _ => Regular.pure _)

theorem reads_readPlayerId (playerId : Int) :
    Reads (SqliteAccountPlayerRepository.readPlayerId playerId) := by
  unfold SqliteAccountPlayerRepository.readPlayerId
  split
  · exact Reads.throw _
  · exact Reads.bind (Reads.touch raise) fun _ => Reads.pure _

theorem yields_readPlayerIds {playerIds : List PlayerId} (h : ∀ playerId ∈ playerIds, 0 < playerId)
    {before : Store StoreTables} :
    Yields ((playerIds.map Int.ofNat).mapM SqliteAccountPlayerRepository.readPlayerId) before
      (.ok playerIds) before := by
  induction playerIds with
  | nil => exact Yields.pure []
  | cons playerId rest ih =>
    have hpos : ¬ Int.ofNat playerId ≤ 0 :=
      Int.not_le.mpr (Int.natCast_pos.mpr (h playerId List.mem_cons_self))
    rw [List.map_cons, List.mapM_cons]
    have hread : Yields (SqliteAccountPlayerRepository.readPlayerId (Int.ofNat playerId)) before
        (.ok playerId) before := by
      unfold SqliteAccountPlayerRepository.readPlayerId
      rw [if_neg hpos]
      exact Yields.bind (Yields.touch raise) (Yields.pure _)
    exact Yields.bind hread (Yields.bind
      (ih fun other hother => h other (List.mem_cons_of_mem _ hother)) (Yields.pure _))

theorem steps_findPlayerIds (h : Stored tables database) (accountId : AccountId) :
    StepsTo (SqliteAccountPlayerRepository.findPlayerIds accountId) tables True
      (database.findPlayerIds accountId, database) tables := by
  have hregular : Regular (SqliteAccountPlayerRepository.findPlayerIds accountId) :=
    Regular.ite _ (Regular.pure _) ((regular_prepare 1).bind fun _ => (Regular.query raise _).bind fun _ =>
      Regular.mapM regular_readPlayerId _)
  unfold SqliteAccountPlayerRepository.findPlayerIds at hregular ⊢
  unfold Database.findPlayerIds
  by_cases hid : ¬ canStoreId accountId = true
  · rw [if_pos hid] at hregular ⊢
    rw [if_pos hid]
    exact .of_reads h hregular (Reads.pure []) (Yields.pure [])
  rw [if_neg hid] at hregular ⊢
  rw [if_neg hid]
  have hplayers : ∀ playerId ∈ Auth.ownedPlayers accountId database, 0 < playerId := by
    intro playerId hmem
    have howner := Auth.mem_ownedPlayers.mp hmem
    have hplayer := (h.schema.linkOwners _ ((h.links _).mpr ⟨playerId, accountId, howner, rfl⟩)).2
    exact (h.playerIds playerId (h.hasPlayer.mp hplayer)).1
  have hzero : 0 ∉ Auth.ownedPlayers accountId database := fun hmem =>
    Nat.lt_irrefl 0 (hplayers 0 hmem)
  have hquery : Yields (query raise fun tables : StoreTables => tables.playerIdsOf accountId)
      { durable := tables } (.ok ((Auth.ownedPlayers accountId database).map Int.ofNat))
      { durable := tables } := by
    rw [← playerIdsOf_eq h]
    exact Yields.query raise _
  show StepsTo _ tables True (if 0 ∈ Auth.ownedPlayers accountId database then _ else _, database) tables
  rw [if_neg hzero]
  exact .of_reads h hregular (Reads.bind (reads_prepare 1) fun _ => Reads.bind (Reads.query raise _)
    fun _ => Reads.mapM reads_readPlayerId _)
    (Yields.bind (yields_prepare 1) (Yields.bind hquery (yields_readPlayerIds hplayers)))

end DnfServer.Provisioning
