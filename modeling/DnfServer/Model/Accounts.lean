import DnfServer.Model.Instance

/-!
# Accounts and characters in the database

The tables `accounts`, `players`, `player_skills` and `account_players` of `SqliteDatabase`, and
the repositories over them. A statement that violates a constraint of the schema changes
nothing, and neither does a transaction that is not committed. Identifiers are drawn by
`AUTOINCREMENT`: one more than the largest there has ever been, up to the largest row
identifier.
-/

namespace DnfServer

open Std

abbrev AccountId := Nat

def maxRowId : Nat := 9223372036854775807

/-- `CanStoreId`, `CanStoreAccountId` and `CanStorePlayerId`. -/
def canStoreId (id : Nat) : Bool := 0 < id && id ≤ maxRowId

/-! ## Names -/

inductive PlayerNameValidationResult where
  | validPlayerName | emptyPlayerName | playerNameTooLong | invalidPlayerNameCharacter
  deriving DecidableEq, Repr

def maxPlayerNameLength : Nat := 16

/-- Also the characters of a login id. -/
def isAllowedCharacter (character : Char) : Bool :=
  'A' ≤ character && character ≤ 'Z' || 'a' ≤ character && character ≤ 'z' ||
    '0' ≤ character && character ≤ '9' || character = '_'

/-- The result of `LoginValidator::Validate`. -/
def LoginValidator.validate (playerName : String) : PlayerNameValidationResult :=
  if playerName.isEmpty then .emptyPlayerName
  else if playerName.utf8ByteSize > maxPlayerNameLength then .playerNameTooLong
  else if ¬ playerName.toList.all isAllowedCharacter then .invalidPlayerNameCharacter
  else .validPlayerName

structure Account where
  accountId : AccountId
  loginId : String
  encodedPasswordHash : String
  deriving DecidableEq, Repr

def minAccountLoginIdLength : Nat := 4
def maxAccountLoginIdLength : Nat := 32
def maxEncodedPasswordHashLength : Nat := 256

def isValidAccountLoginId (loginId : String) : Bool :=
  !(loginId.utf8ByteSize < minAccountLoginIdLength || loginId.utf8ByteSize > maxAccountLoginIdLength) &&
    loginId.toList.all isAllowedCharacter

def isValidEncodedPasswordHash (encodedPasswordHash : String) : Bool :=
  !encodedPasswordHash.isEmpty && encodedPasswordHash.utf8ByteSize ≤ maxEncodedPasswordHashLength

def isValidAccount (account : Account) : Bool :=
  account.accountId != 0 && isValidAccountLoginId account.loginId &&
    isValidEncodedPasswordHash account.encodedPasswordHash

structure OwnedSkill where
  skillId : SkillId
  level : UInt32
  deriving DecidableEq, Repr

structure PlayerProfile where
  playerId : PlayerId
  name : String
  level : UInt32 := 1
  skillPoints : UInt32 := 0
  skills : List OwnedSkill := []
  deriving DecidableEq, Repr

/-- The loop over the skills that inserts into a set of identifiers asks for distinct ones. -/
def isValidPlayerProfile (profile : PlayerProfile) : Bool :=
  !(profile.playerId = 0 || profile.level = 0 ||
      LoginValidator.validate profile.name ≠ .validPlayerName) &&
    profile.skills.all (fun skill => skill.skillId != 0 && skill.level != 0) &&
    decide (profile.skills.map (·.skillId)).Nodup

/-! ## Tables -/

structure AccountRow where
  loginId : String
  passwordHash : String

/-- A row of `players` with its rows of `player_skills`. -/
structure PlayerRow where
  name : String
  level : Nat := 1
  skillPoints : Nat := 0
  skills : IdMap Nat := ∅

structure Database where
  accounts : IdMap AccountRow := ∅
  players : IdMap PlayerRow := ∅
  /-- The account of a player, which is unique. -/
  accountPlayers : IdMap AccountId := ∅
  lastAccountId : Nat := 0
  lastPlayerId : Nat := 0

namespace Database

/-- The identifier that the table draws next; a full table throws. -/
def nextRowId (last : Nat) : Option Nat := if last < maxRowId then some (last + 1) else none

/-- The collation `NOCASE` of login ids. -/
def sameLoginId (left right : String) : Bool :=
  left.toList.map Char.toLower = right.toList.map Char.toLower

def hasPlayerName (playerName : String) (database : Database) : Bool :=
  database.players.toList.any (·.2.name = playerName)

/-! ### `SqliteAccountRepository` -/

def findAccount (accountId : AccountId) (database : Database) : Except Failure (Option Account) :=
  if ¬ canStoreId accountId then .ok none
  else match database.accounts[accountId]? with
    | none => .ok none
    | some row =>
      let account : Account :=
        { accountId, loginId := row.loginId, encodedPasswordHash := row.passwordHash }
      if isValidAccount account then .ok (some account)
      else .error (.runtimeError "Invalid account data in SQLite database")

def createAccount (loginId encodedPasswordHash : String) (database : Database) :
    Except Failure (Option Account) × Database :=
  if ¬ isValidAccountLoginId loginId ∨ ¬ isValidEncodedPasswordHash encodedPasswordHash then
    (.ok none, database)
  else if database.accounts.toList.any (fun row => sameLoginId row.2.loginId loginId) then
    (.ok none, database)
  else match nextRowId database.lastAccountId with
    | none => (.error (.runtimeError "database or disk is full"), database)
    | some accountId => (.ok (some { accountId, loginId, encodedPasswordHash }),
        { database with
          accounts := database.accounts.insert accountId { loginId, passwordHash := encodedPasswordHash }
          lastAccountId := accountId })

/-! ### `SqlitePlayerRepository` -/

def readUint32 (value : Nat) : Except Failure UInt32 :=
  if value > 4294967295 then .error (.runtimeError "SQLite integer is outside uint32 range")
  else .ok (.ofNat value)

/-- The rows of `player_skills` in the order of the skill ids. -/
def loadSkills (skills : IdMap Nat) : Except Failure (List OwnedSkill) :=
  skills.toList.mapM fun skill => do
    let skillId ← readUint32 skill.1
    let level ← readUint32 skill.2
    return { skillId, level }

def readProfile (playerId : PlayerId) (row : PlayerRow) : Except Failure PlayerProfile := do
  let level ← readUint32 row.level
  let skillPoints ← readUint32 row.skillPoints
  let skills ← loadSkills row.skills
  let profile : PlayerProfile := { playerId, name := row.name, level, skillPoints, skills }
  if isValidPlayerProfile profile then return profile
  else throw (.runtimeError "Invalid player profile loaded from SQLite")

def findPlayer (playerId : PlayerId) (database : Database) : Except Failure (Option PlayerProfile) :=
  if ¬ canStoreId playerId then .ok none
  else match database.players[playerId]? with
    | none => .ok none
    | some row => (readProfile playerId row).map some

def createPlayer (playerName : String) (database : Database) :
    Except Failure (Option PlayerProfile) × Database :=
  if LoginValidator.validate playerName ≠ .validPlayerName then (.ok none, database)
  else if database.hasPlayerName playerName then (.ok none, database)
  else match nextRowId database.lastPlayerId with
    | none => (.error (.runtimeError "database or disk is full"), database)
    | some playerId => (.ok (some { playerId, name := playerName }),
        { database with
          players := database.players.insert playerId { name := playerName }
          lastPlayerId := playerId })

/-- The transaction; a name that another player has ends it by an exception and a rollback. -/
def savePlayer (profile : PlayerProfile) (database : Database) : Except Failure Bool × Database :=
  if ¬ canStoreId profile.playerId ∨ ¬ isValidPlayerProfile profile then (.ok false, database)
  else if profile.playerId ∉ database.players then (.ok false, database)
  else if database.players.toList.any
      (fun row => row.1 ≠ profile.playerId && row.2.name = profile.name) then
    (.error (.runtimeError "UNIQUE constraint failed: players.name"), database)
  else
    let row : PlayerRow :=
      { name := profile.name, level := profile.level.toNat, skillPoints := profile.skillPoints.toNat
        skills := profile.skills.foldl
          (fun skills skill => skills.insert skill.skillId.toNat skill.level.toNat) ∅ }
    (.ok true, { database with players := database.players.insert profile.playerId row })

/-! ### `SqliteAccountPlayerRepository` -/

/-- The foreign keys ask for the account and the player, and a player has one account. -/
def linkPlayer (accountId : AccountId) (playerId : PlayerId) (database : Database) : Bool × Database :=
  if ¬ canStoreId accountId ∨ ¬ canStoreId playerId then (false, database)
  else if accountId ∉ database.accounts ∨ playerId ∉ database.players ∨
      playerId ∈ database.accountPlayers then (false, database)
  else (true, { database with
    accountPlayers := database.accountPlayers.insert playerId accountId })

def ownsPlayer (accountId : AccountId) (playerId : PlayerId) (database : Database) : Bool :=
  canStoreId accountId && canStoreId playerId && database.accountPlayers[playerId]? = some accountId

/-- In the order of the player ids. -/
def findPlayerIds (accountId : AccountId) (database : Database) : Except Failure (List PlayerId) :=
  if ¬ canStoreId accountId then .ok []
  else
    let playerIds := (database.accountPlayers.toList.filter (·.2 = accountId)).map (·.1)
    if 0 ∈ playerIds then .error (.runtimeError "Invalid player ID in account_players table")
    else .ok playerIds

/-! ### `SqliteCharacterProvisioner` -/

inductive CharacterProvisioningStatus where
  | success | invalidInput | accountNotFound | playerNameAlreadyExists
  deriving DecidableEq, Repr

structure CharacterProvisioningResult where
  status : CharacterProvisioningStatus
  playerId : PlayerId
  deriving DecidableEq, Repr

def createOwnedPlayer (accountId : AccountId) (playerName : String) (database : Database) :
    Except Failure CharacterProvisioningResult × Database :=
  if ¬ canStoreId accountId ∨ LoginValidator.validate playerName ≠ .validPlayerName then
    (.ok ⟨.invalidInput, 0⟩, database)
  else if accountId ∉ database.accounts then (.ok ⟨.accountNotFound, 0⟩, database)
  else if database.hasPlayerName playerName then (.ok ⟨.playerNameAlreadyExists, 0⟩, database)
  else match nextRowId database.lastPlayerId with
    | none => (.error (.runtimeError "database or disk is full"), database)
    | some playerId => (.ok ⟨.success, playerId⟩,
        { database with
          players := database.players.insert playerId { name := playerName }
          accountPlayers := database.accountPlayers.insert playerId accountId
          lastPlayerId := playerId })

end Database

end DnfServer
