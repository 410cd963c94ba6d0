import DnfServer.Model.Accounts
import DnfServer.Library.Transactions
import Mathlib.Data.List.DropRight

/-!
# Saving a player

`SavePlayer` and `FindPlayer` of the two player repositories, call by call of the database
client, over the tables `players` and `player_skills` as lists of rows. Every call may fail by
itself, and a statement fails when the tables it would leave violate a constraint of the schema.
`SqlitePlayerRepository` holds the connection mutex for the whole of a function, so nobody else
writes meanwhile; between two attempts of `MySqlPlayerRepository` others may.
-/

namespace DnfServer

open DnfServer.Library DnfServer.Library.Work

/-- A row of `players`. -/
structure PlayerRecord where
  playerId : Int
  name : String
  level : Int := 1
  skillPoints : Int := 0
  deriving DecidableEq, Repr

/-- A row of `player_skills`. -/
structure PlayerSkillRecord where
  playerId : Int
  skillId : Int
  skillLevel : Int := 1
  deriving DecidableEq, Repr

structure PlayerTables where
  players : List PlayerRecord := []
  playerSkills : List PlayerSkillRecord := []
  deriving DecidableEq, Repr

/-- The fault of the first constraint that the tables violate. -/
def firstViolation {φ : Type} (constraints : List (φ × (PlayerTables → Bool))) (tables : PlayerTables) :
    Option φ :=
  (constraints.find? fun constraint => !constraint.2 tables).map (·.1)

namespace PlayerTables

/-! ## Statements -/

/-- `SELECT 1 FROM players WHERE player_id = ?` has a row. -/
def hasPlayer (playerId : Int) (tables : PlayerTables) : Bool :=
  tables.players.any fun row => row.playerId = playerId

/-- `UPDATE players SET name = ?, level = ?, skill_points = ? WHERE player_id = ?` -/
def updatePlayer (profile : PlayerProfile) (tables : PlayerTables) : PlayerTables :=
  { tables with players := tables.players.map fun row =>
      if row.playerId = (profile.playerId : Int) then
        { row with name := profile.name, level := profile.level.toNat, skillPoints := profile.skillPoints.toNat }
      else row }

/-- `DELETE FROM player_skills WHERE player_id = ?` -/
def deleteSkills (playerId : Int) (tables : PlayerTables) : PlayerTables :=
  { tables with playerSkills := tables.playerSkills.filter (·.playerId ≠ playerId) }

/-- `INSERT INTO player_skills(player_id, skill_id, skill_level) VALUES(?, ?, ?)` -/
def insertSkill (playerId : Int) (tables : PlayerTables) (skill : OwnedSkill) : PlayerTables :=
  { tables with playerSkills := tables.playerSkills ++
      [{ playerId, skillId := skill.skillId.toNat, skillLevel := skill.level.toNat }] }

/-- The row of `SELECT player_id, name, level, skill_points FROM players WHERE player_id = ?` -/
def findRow (playerId : Int) (tables : PlayerTables) : Option PlayerRecord :=
  tables.players.find? (·.playerId = playerId)

/-- `SELECT skill_id, skill_level FROM player_skills WHERE player_id = ? ORDER BY skill_id` -/
def skillRows (playerId : Int) (tables : PlayerTables) : List PlayerSkillRecord :=
  (tables.playerSkills.filter (·.playerId = playerId)).mergeSort fun left right =>
    left.skillId ≤ right.skillId

/-- What the statements of a transaction that saves the profile leave. -/
def saved (profile : PlayerProfile) (tables : PlayerTables) : PlayerTables :=
  profile.skills.foldl (insertSkill profile.playerId)
    (deleteSkills profile.playerId (tables.updatePlayer profile))

end PlayerTables

/-! ## `SqlitePlayerRepository` -/

namespace SqlitePlayerRepository

/-- A text as `sqlite3_column_text` and `length` read it, up to its first zero. -/
def columnText (text : String) : String := String.ofList (text.toList.takeWhile (· ≠ Char.ofNat 0))

/-- The constraints of `SqliteDatabase`, with the texts of their violations. -/
def constraints : List (String × (PlayerTables → Bool)) :=
  [("CHECK constraint failed: length(name) BETWEEN 1 AND 16", fun tables =>
      tables.players.all fun row =>
        1 ≤ (columnText row.name).length && (columnText row.name).length ≤ 16),
    ("CHECK constraint failed: level >= 1", fun tables => tables.players.all (1 ≤ ·.level)),
    ("CHECK constraint failed: skill_points >= 0", fun tables =>
      tables.players.all (0 ≤ ·.skillPoints)),
    ("UNIQUE constraint failed: players.player_id", fun tables =>
      decide (tables.players.map (·.playerId)).Nodup),
    ("UNIQUE constraint failed: players.name", fun tables =>
      decide (tables.players.map (·.name)).Nodup),
    ("CHECK constraint failed: skill_id > 0", fun tables => tables.playerSkills.all (0 < ·.skillId)),
    ("CHECK constraint failed: skill_level >= 1", fun tables =>
      tables.playerSkills.all (1 ≤ ·.skillLevel)),
    ("UNIQUE constraint failed: player_skills.player_id, player_skills.skill_id", fun tables =>
      decide (tables.playerSkills.map fun row => (row.playerId, row.skillId)).Nodup),
    ("FOREIGN KEY constraint failed", fun tables =>
      tables.playerSkills.all fun row => tables.hasPlayer row.playerId)]

/-- A call fails with the text of `sqlite3_errmsg`. -/
abbrev SqliteConnection := Connection PlayerTables String

abbrev SqliteWork (α : Type) := Work PlayerTables String Failure α

/-- `throw DatabaseError(sqlite3_errmsg(database))` -/
def raise : String → Failure := .runtimeError

def prepare : SqliteWork Unit := touch raise

def bindParameters (count : Nat) : SqliteWork Unit := touches raise count

/-- `sqlite3_reset` and `sqlite3_clear_bindings`. -/
def reset : SqliteWork Unit := touches raise 2

def expectDone (update : PlayerTables → PlayerTables) : SqliteWork Unit :=
  execute (firstViolation constraints) raise update

def existsStatement (playerId : PlayerId) : SqliteWork Bool := do
  prepare
  bindParameters 1
  query raise (·.hasPlayer playerId)

def updateStatement (profile : PlayerProfile) : SqliteWork Unit := do
  prepare
  bindParameters 4
  expectDone (·.updatePlayer profile)

def deleteSkillsStatement (playerId : PlayerId) : SqliteWork Unit := do
  prepare
  bindParameters 1
  expectDone (·.deleteSkills playerId)

def insertSkillStatement (playerId : PlayerId) (skill : OwnedSkill) : SqliteWork Unit := do
  reset
  bindParameters 3
  expectDone (·.insertSkill playerId skill)

/-- The scope of the transaction in `SavePlayer`. -/
def saveBody (profile : PlayerProfile) : SqliteWork Bool := do
  let found ← existsStatement profile.playerId
  if ¬ found then return false
  updateStatement profile
  deleteSkillsStatement profile.playerId
  prepare
  profile.skills.forM (insertSkillStatement profile.playerId)
  commit raise
  return true

def savePlayer (profile : PlayerProfile) : SqliteWork Bool :=
  if ¬ canStoreId profile.playerId ∨ ¬ isValidPlayerProfile profile then return false
  else transaction raise (saveBody profile)

def readUint32 (value : Int) : SqliteWork UInt32 :=
  if value < 0 ∨ value > 4294967295 then
    throw (.runtimeError "SQLite integer is outside uint32 range")
  else return .ofNat value.toNat

/-- The skills of the row are read and the statement steps to the next row. -/
def readSkillRow (row : PlayerSkillRecord) : SqliteWork OwnedSkill := do
  let skillId ← readUint32 row.skillId
  let level ← readUint32 row.skillLevel
  touch raise
  return { skillId, level }

def loadSkills (playerId : PlayerId) : SqliteWork (List OwnedSkill) := do
  prepare
  bindParameters 1
  let rows ← query raise (·.skillRows playerId)
  rows.mapM readSkillRow

def readProfileRow (row : PlayerRecord) : SqliteWork PlayerProfile := do
  if row.playerId ≤ 0 then throw (.runtimeError "Invalid player row in SQLite database")
  let level ← readUint32 row.level
  let skillPoints ← readUint32 row.skillPoints
  return { playerId := row.playerId.toNat, name := columnText row.name, level, skillPoints }

/-- `ReadProfileRow` and `ValidateLoadedProfile`. -/
def loadProfile (row : PlayerRecord) : SqliteWork PlayerProfile := do
  let profile ← readProfileRow row
  let skills ← loadSkills profile.playerId
  if isValidPlayerProfile { profile with skills } then return { profile with skills }
  else throw (.runtimeError "Invalid player profile loaded from SQLite")

def findPlayer (playerId : PlayerId) : SqliteWork (Option PlayerProfile) :=
  if ¬ canStoreId playerId then return none
  else do
    prepare
    bindParameters 1
    let row ← query raise (·.findRow playerId)
    match row with
    | none => return none
    | some row => some <$> loadProfile row

end SqlitePlayerRepository

/-! ## `MySqlPlayerRepository` -/

namespace MySqlPlayerRepository

/-- The codes that a call of the MySQL client may fail with; `other` are those that the source does
not name, among them those of the client itself. -/
inductive MySqlErrorCode where
  | erLockDeadlock | erLockWaitTimeout | erDupEntry | erCheckConstraintViolated
  | erNoReferencedRow | erDataOutOfRange | other (code : Nat)
  deriving DecidableEq, Repr

/-- `MySqlOperationError`, and the `DatabaseError` of a connection that could not be had. -/
inductive MySqlFailure where
  | operationError (operation : String) (error : MySqlErrorCode)
  | acquisitionFailed (error : MySqlErrorCode)
  deriving DecidableEq, Repr

def isRetryableMySqlSaveError (error : MySqlErrorCode) : Bool :=
  error = .erLockDeadlock || error = .erLockWaitTimeout

def mysqlSaveMaxTransactionAttempts : Nat := 3

/-- Names compare without their trailing blanks, as `ascii_bin` has it. -/
def collated (name : String) : List Char := name.toList.rdropWhile (· = ' ')

/-- The constraints and the types of the columns in `schema.sql`. -/
def constraints : List (MySqlErrorCode × (PlayerTables → Bool)) :=
  [(.erDataOutOfRange, fun tables =>
      tables.players.all (fun row => 0 ≤ row.playerId && row.playerId ≤ 18446744073709551615 &&
        0 ≤ row.level && row.level ≤ 4294967295 && 0 ≤ row.skillPoints && row.skillPoints ≤ 4294967295 &&
        row.name.toList.all (·.toNat < 128)) &&
      tables.playerSkills.all fun row => 0 ≤ row.playerId && row.playerId ≤ 18446744073709551615 &&
        0 ≤ row.skillId && row.skillId ≤ 4294967295 && 0 ≤ row.skillLevel && row.skillLevel ≤ 4294967295),
    (.erCheckConstraintViolated, fun tables =>
      tables.players.all (fun row => 1 ≤ row.name.length && row.name.length ≤ 16 && 1 ≤ row.level) &&
      tables.playerSkills.all fun row => 0 < row.skillId && 1 ≤ row.skillLevel),
    (.erDupEntry, fun tables =>
      decide (tables.players.map (·.playerId)).Nodup &&
      decide (tables.players.map fun row => collated row.name).Nodup &&
      decide (tables.playerSkills.map fun row => (row.playerId, row.skillId)).Nodup),
    (.erNoReferencedRow, fun tables =>
      tables.playerSkills.all fun row => tables.hasPlayer row.playerId)]

abbrev MySqlConnection := Connection PlayerTables MySqlErrorCode

abbrev MySqlWork (α : Type) := Work PlayerTables MySqlErrorCode MySqlFailure α

/-- `ExecuteOrThrow` of a statement that writes. -/
def executeOrThrow (operation : String) (update : PlayerTables → PlayerTables) : MySqlWork Unit :=
  execute (firstViolation constraints) (.operationError operation) update

/-- The scope of the transaction in `SavePlayerOnce`. -/
def saveBody (profile : PlayerProfile) : MySqlWork Bool := do
  let found ← query (.operationError "Checking MySQL player existence") (·.hasPlayer profile.playerId)
  if ¬ found then return false
  executeOrThrow "Updating MySQL player" (·.updatePlayer profile)
  executeOrThrow "Deleting MySQL player skills" (·.deleteSkills profile.playerId)
  profile.skills.forM fun skill =>
    executeOrThrow "Inserting MySQL player skill" (·.insertSkill profile.playerId skill)
  commit (.operationError "Committing MySQL transaction")
  return true

def savePlayerOnce (profile : PlayerProfile) : MySqlWork Bool := do
  touch .acquisitionFailed
  transaction (.operationError "Starting MySQL transaction") (saveBody profile)

/-- The failures that another attempt follows. -/
def isRetryable : MySqlFailure → Bool
  | .operationError _ error => isRetryableMySqlSaveError error
  | .acquisitionFailed _ => false

def savePlayer (profile : PlayerProfile) : MySqlWork Bool :=
  if ¬ isValidPlayerProfile profile then return false
  else retry isRetryable (savePlayerOnce profile) (mysqlSaveMaxTransactionAttempts - 1)

end MySqlPlayerRepository

end DnfServer
