import DnfServer.Model.PasswordHash
import DnfServer.Model.PlayerStore
import DnfServer.Model.ServiceCalls

/-!
# Provisioning accounts and characters

The functions of the SQLite repositories that create accounts and players and link them, and those that
read the links, call by call of the database client, over the rows of all four tables. `sqlite_sequence`
is the largest identifier that each table has had. An `INSERT` reports a violated constraint by its
result; any other failure is an exception.
-/

namespace DnfServer

open DnfServer.Library DnfServer.Library.Work

/-- A row of `accounts`. -/
structure AccountRecord where
  accountId : Int
  loginId : String
  passwordHash : String
  deriving DecidableEq, Repr

/-- A row of `account_players`. -/
structure AccountPlayerRecord where
  accountId : Int
  playerId : Int
  deriving DecidableEq, Repr

structure StoreTables extends PlayerTables where
  accounts : List AccountRecord := []
  accountPlayers : List AccountPlayerRecord := []
  lastAccountId : Int := 0
  lastPlayerId : Int := 0
  deriving DecidableEq, Repr

namespace StoreTables

/-- The constraints of `SqliteDatabase` on all tables, with the texts of their violations. -/
def constraints : List (String × (StoreTables → Bool)) :=
  SqlitePlayerRepository.constraints.map (fun constraint =>
      (constraint.1, fun tables => constraint.2 tables.toPlayerTables)) ++
  [("CHECK constraint failed: length(login_id) BETWEEN 4 AND 32", fun tables =>
      tables.accounts.all fun row =>
        4 ≤ (SqlitePlayerRepository.columnText row.loginId).length &&
          (SqlitePlayerRepository.columnText row.loginId).length ≤ 32),
    ("CHECK constraint failed: length(password_hash) BETWEEN 1 AND 256", fun tables =>
      tables.accounts.all fun row =>
        1 ≤ (SqlitePlayerRepository.columnText row.passwordHash).length &&
          (SqlitePlayerRepository.columnText row.passwordHash).length ≤ 256),
    ("UNIQUE constraint failed: accounts.account_id", fun tables =>
      decide (tables.accounts.map (·.accountId)).Nodup),
    ("UNIQUE constraint failed: accounts.login_id", fun tables =>
      decide (tables.accounts.map fun row => row.loginId.toList.map Char.toLower).Nodup),
    ("UNIQUE constraint failed: account_players.player_id", fun tables =>
      decide (tables.accountPlayers.map (·.playerId)).Nodup),
    ("UNIQUE constraint failed: account_players.account_id, account_players.player_id", fun tables =>
      decide (tables.accountPlayers.map fun row => (row.accountId, row.playerId)).Nodup),
    ("FOREIGN KEY constraint failed", fun tables =>
      tables.accountPlayers.all fun row =>
        tables.accounts.any (·.accountId = row.accountId) && tables.hasPlayer row.playerId)]

/-- The text of the first constraint that the tables violate. -/
def violation (tables : StoreTables) : Option String :=
  (constraints.find? fun constraint => !constraint.2 tables).map (·.1)

/-! ## Statements -/

/-- The identifier that `AUTOINCREMENT` draws next; a full table is `SQLITE_FULL`. -/
def nextRowId (last : Int) : Except String Int :=
  if last < maxRowId then .ok (last + 1) else .error "database or disk is full"

/-- `INSERT INTO accounts(login_id, password_hash) VALUES(?, ?)` -/
def insertAccount (loginId passwordHash : String) (tables : StoreTables) :
    Except String (Int × StoreTables) := do
  let accountId ← nextRowId tables.lastAccountId
  return (accountId, { tables with
    accounts := tables.accounts ++ [{ accountId, loginId, passwordHash }]
    lastAccountId := accountId })

/-- `INSERT INTO players(name) VALUES(?)` -/
def insertPlayer (name : String) (tables : StoreTables) : Except String (Int × StoreTables) := do
  let playerId ← nextRowId tables.lastPlayerId
  return (playerId, { tables with
    players := tables.players ++ [{ playerId, name }]
    lastPlayerId := playerId })

/-- `INSERT INTO account_players(account_id, player_id) VALUES(?, ?)`, whose row identifier is not read. -/
def insertAccountPlayer (accountId playerId : Int) (tables : StoreTables) :
    Except String (Int × StoreTables) :=
  .ok (0, { tables with accountPlayers := tables.accountPlayers ++ [{ accountId, playerId }] })

/-- The row of `SELECT account_id, login_id, password_hash FROM accounts WHERE account_id = ?` -/
def findAccountRow (accountId : Int) (tables : StoreTables) : Option AccountRecord :=
  tables.accounts.find? (·.accountId = accountId)

/-- The row of the same with `WHERE login_id = ?`, under the collation of the column. -/
def findLoginRow (loginId : String) (tables : StoreTables) : Option AccountRecord :=
  tables.accounts.find? fun row => Database.sameLoginId row.loginId loginId

/-- `SELECT player_id FROM account_players WHERE account_id = ? ORDER BY player_id` -/
def playerIdsOf (accountId : Int) (tables : StoreTables) : List Int :=
  ((tables.accountPlayers.filter (·.accountId = accountId)).map (·.playerId)).mergeSort

end StoreTables

abbrev StoreConnection := Connection StoreTables String

abbrev StoreWork (α : Type) := Work StoreTables String Failure α

/-- What `sqlite3_step` of an `INSERT` returns, and `sqlite3_last_insert_rowid` after it. -/
inductive InsertResult where
  | done (lastInsertRowId : Int)
  | constraint (message : String)
  deriving DecidableEq, Repr

namespace StoreWork

def raise : String → Failure := .runtimeError

/-- The constructor of `Statement` and the calls that bind its parameters. -/
def prepare (parameters : Nat) : StoreWork Unit := do
  touch raise
  touches raise parameters

def insert (row : StoreTables → Except String (Int × StoreTables)) : StoreWork InsertResult :=
  call raise fun store => do
    let (rowId, tables) ← row store.current
    match tables.violation with
    | some message => return (.constraint message, store)
    | none => return (.done rowId, store.write tables)

end StoreWork

open StoreWork StoreTables

/-! ## `SqliteAccountRepository` -/

namespace SqliteAccountRepository

def readAccountRow (row : AccountRecord) : Except Failure Account :=
  if row.accountId ≤ 0 then .error (.runtimeError "Invalid account row in SQLite database")
  else
    let account : Account :=
      { accountId := row.accountId.toNat
        loginId := SqlitePlayerRepository.columnText row.loginId
        encodedPasswordHash := SqlitePlayerRepository.columnText row.passwordHash }
    if isValidAccount account then .ok account
    else .error (.runtimeError "Invalid account data in SQLite database")

/-- `ReadSingleAccount` -/
def readSingleAccount (find : StoreTables → Option AccountRecord) : StoreWork (Option Account) := do
  prepare 1
  let row ← query raise find
  match row with
  | none => return none
  | some row => some <$> ofExcept (readAccountRow row)

def findAccount (accountId : AccountId) : StoreWork (Option Account) :=
  if ¬ canStoreId accountId then return none
  else readSingleAccount (·.findAccountRow accountId)

def findAccountByLoginId (loginId : String) : StoreWork (Option Account) :=
  if ¬ isValidAccountLoginId loginId then return none
  else readSingleAccount (·.findLoginRow loginId)

def createAccount (loginId encodedPasswordHash : String) : StoreWork (Option Account) :=
  if ¬ isValidAccountLoginId loginId ∨ ¬ isValidEncodedPasswordHash encodedPasswordHash then return none
  else do
    prepare 2
    let result ← insert (·.insertAccount loginId encodedPasswordHash)
    match result with
    | .constraint _ => return none
    | .done accountId =>
      if accountId ≤ 0 then throw (.runtimeError "SQLite returned an invalid account ID")
      else return some { accountId := accountId.toNat, loginId, encodedPasswordHash }

end SqliteAccountRepository

/-! ## `SqlitePlayerRepository` -/

namespace SqlitePlayerRepository

def createPlayer (playerName : String) : StoreWork (Option PlayerProfile) :=
  if LoginValidator.validate playerName ≠ .validPlayerName then return none
  else do
    StoreWork.prepare 1
    let result ← insert (·.insertPlayer playerName)
    match result with
    | .constraint _ => return none
    | .done playerId =>
      if playerId ≤ 0 then throw (.runtimeError "SQLite returned an invalid player ID")
      else return some { playerId := playerId.toNat, name := playerName }

/-- `SavePlayer`, which works on the rows of `players` and `player_skills`. -/
def storePlayer (profile : PlayerProfile) : StoreWork Bool :=
  focus StoreTables.toPlayerTables (fun players tables => { tables with toPlayerTables := players })
    (savePlayer profile)

/-- `FindPlayer`, on the same rows. -/
def loadPlayer (playerId : PlayerId) : StoreWork (Option PlayerProfile) :=
  focus StoreTables.toPlayerTables (fun players tables => { tables with toPlayerTables := players })
    (findPlayer playerId)

end SqlitePlayerRepository

/-! ## `SqliteAccountPlayerRepository` -/

namespace SqliteAccountPlayerRepository

def linkPlayer (accountId : AccountId) (playerId : PlayerId) : StoreWork Bool :=
  if ¬ canStoreId accountId ∨ ¬ canStoreId playerId then return false
  else do
    prepare 2
    let result ← insert (·.insertAccountPlayer accountId playerId)
    match result with
    | .constraint _ => return false
    | .done _ => return true

def ownsPlayer (accountId : AccountId) (playerId : PlayerId) : StoreWork Bool :=
  if ¬ canStoreId accountId ∨ ¬ canStoreId playerId then return false
  else do
    prepare 2
    query raise fun tables => decide (⟨accountId, playerId⟩ ∈ tables.accountPlayers)

/-- The identifier of the row is read and the statement steps to the next row. -/
def readPlayerId (playerId : Int) : StoreWork PlayerId := do
  if playerId ≤ 0 then throw (.runtimeError "Invalid player ID in account_players table")
  touch raise
  return playerId.toNat

def findPlayerIds (accountId : AccountId) : StoreWork (List PlayerId) :=
  if ¬ canStoreId accountId then return []
  else do
    prepare 1
    let rows ← query raise (·.playerIdsOf accountId)
    rows.mapM readPlayerId

end SqliteAccountPlayerRepository

/-! ## `SqliteCharacterProvisioner` -/

namespace SqliteCharacterProvisioner

open Database

/-- The scope of the transaction in `CreateOwnedPlayer`. -/
def createBody (accountId : AccountId) (playerName : String) : StoreWork CharacterProvisioningResult := do
  prepare 1
  let found ← query raise fun tables => (tables.findAccountRow accountId).isSome
  if ¬ found then return ⟨.accountNotFound, 0⟩
  prepare 1
  let result ← insert (·.insertPlayer playerName)
  match result with
  | .constraint _ => return ⟨.playerNameAlreadyExists, 0⟩
  | .done playerId =>
    if playerId ≤ 0 then throw (.runtimeError "SQLite returned an invalid player ID")
    else do
      prepare 2
      let ownership ← insert (·.insertAccountPlayer accountId playerId)
      match ownership with
      | .constraint message => throw (raise message)
      | .done _ =>
        commit raise
        return ⟨.success, playerId.toNat⟩

def createOwnedPlayer (accountId : AccountId) (playerName : String) :
    StoreWork CharacterProvisioningResult :=
  if ¬ canStoreId accountId ∨ LoginValidator.validate playerName ≠ .validPlayerName then
    return ⟨.invalidInput, 0⟩
  else transaction raise (createBody accountId playerName)

end SqliteCharacterProvisioner

/-! ## `ScryptPasswordHasher` -/

namespace ScryptPasswordHasher

def scryptN : UInt64 := (1 : UInt64) <<< 17
def scryptR : UInt64 := 8
def scryptP : UInt64 := 1

/-- `EVP_PBE_scrypt` of the password, the salt and the parameters; `none` is a failure. -/
abbrev KeyDerivation : Type :=
  Auth.Bytes → Vector UInt8 saltByteCount → UInt64 → UInt64 → UInt64 → Option (Vector UInt8 hashByteCount)

def isValidPassword (password : Auth.Bytes) : Bool :=
  !password.isEmpty && password.length ≤ Auth.maxPasswordLength

/-- `DeriveScryptHash` -/
def deriveScryptHash (derive : KeyDerivation) (password : Auth.Bytes) (data : ScryptHashData) :
    Option (Vector UInt8 hashByteCount) :=
  derive password data.salt data.n data.r data.p

/-- `Hash`; the random generator fails with `none`. -/
def hash (derive : KeyDerivation) (randomBytes : Option (Vector UInt8 saltByteCount)) (password : Auth.Bytes) :
    Except Failure (Option String) :=
  if ¬ isValidPassword password then .ok none
  else match randomBytes with
    | none => .error (.runtimeError "Failed to generate password salt")
    | some salt =>
      let data : ScryptHashData :=
        { n := scryptN, r := scryptR, p := scryptP, salt, hash := Vector.replicate hashByteCount 0 }
      match deriveScryptHash derive password data with
      | none => .error (.runtimeError "Failed to hash password with scrypt")
      | some hash => .ok (some (String.ofList (encodeHash { data with hash })))

def verify (derive : KeyDerivation) (password : Auth.Bytes) (encodedPasswordHash : String) : Bool :=
  if ¬ isValidPassword password then false
  else match parseEncodedHash encodedPasswordHash.toList with
    | none => false
    | some parsed => match deriveScryptHash derive password parsed with
      | none => false
      | some derivedHash => derivedHash = parsed.hash

end ScryptPasswordHasher

/-! ## `AccountProvisioningService` -/

inductive AccountProvisioningStatus where
  | success | invalidLoginId | invalidPassword | passwordHashFailed | loginIdAlreadyExists
  deriving DecidableEq, Repr

structure AccountProvisioningResult where
  status : AccountProvisioningStatus
  accountId : AccountId
  deriving DecidableEq, Repr

namespace AccountProvisioningService

/-- `hashed` is what the hasher makes of the password. -/
def createAccount (loginId : String) (password : Auth.Bytes) (hashed : Except Failure (Option String)) :
    StoreWork AccountProvisioningResult :=
  if ¬ isValidAccountLoginId loginId then return ⟨.invalidLoginId, 0⟩
  else if password.isEmpty ∨ password.length > Auth.maxPasswordLength then return ⟨.invalidPassword, 0⟩
  else match hashed with
    | .error failure => throw failure
    | .ok none => return ⟨.passwordHashFailed, 0⟩
    | .ok (some encodedPasswordHash) =>
      if ¬ isValidEncodedPasswordHash encodedPasswordHash then return ⟨.passwordHashFailed, 0⟩
      else do
        let account ← SqliteAccountRepository.createAccount loginId encodedPasswordHash
        match account with
        | none => return ⟨.loginIdAlreadyExists, 0⟩
        | some account => return ⟨.success, account.accountId⟩

end AccountProvisioningService

/-! ## `AccountAuthenticationService` -/

namespace AccountAuthenticationService

open Auth

/-- What the function that `Authenticate` hands to the executor makes of the account found. -/
def compared (derive : ScryptPasswordHasher.KeyDerivation) (dummyEncodedPasswordHash : String)
    (password : Bytes) (account : Option Account) : AccountAuthenticationResult :=
  let encodedHash := match account with
    | some account => account.encodedPasswordHash
    | none => dummyEncodedPasswordHash
  match account, ScryptPasswordHasher.verify derive password encodedHash with
  | some account, true => { status := .success, accountId := some account.accountId }
  | _, _ => { status := .invalidCredentials }

/-- That function; it turns every exception into an error of the service. -/
def authenticationWork (derive : ScryptPasswordHasher.KeyDerivation) (dummyEncodedPasswordHash : String)
    (loginId : String) (password : Bytes) : StoreWork AccountAuthenticationResult :=
  tryCatch (compared derive dummyEncodedPasswordHash password <$>
      SqliteAccountRepository.findAccountByLoginId loginId)
    fun _ => return { status := .serviceError, accountId := none }

end AccountAuthenticationService

end DnfServer
