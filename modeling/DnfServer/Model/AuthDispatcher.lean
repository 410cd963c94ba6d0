import DnfServer.Model.Accounts
import DnfServer.Model.Packet

/-!
# The authentication server

What the services of the authentication server find in the database, and the completions that
`AuthPacketDispatcher` gives them. A completion runs as a handler of the io context of its own:
the caller is `ioContext_.run()`, and an exception that leaves it there stops the io context.
The payloads are encoded by the FlatBuffers library.
-/

namespace DnfServer

namespace Auth

/-! ## The services -/

structure CharacterSummary where
  playerId : PlayerId
  name : String
  level : UInt32
  deriving DecidableEq, Repr

inductive CharacterListStatus where
  | success | accountNotFound | serviceBusy | serviceError
  deriving DecidableEq, Repr

structure CharacterListResult where
  status : CharacterListStatus := .accountNotFound
  characters : List CharacterSummary := []
  deriving DecidableEq, Repr

/-- The loop over the players of an account; one without a profile throws. -/
def loadProfiles (database : Database) : List PlayerId → Except Failure (List CharacterSummary)
  | [] => .ok []
  | playerId :: rest => match database.findPlayer playerId with
    | .error failure => .error failure
    | .ok none => .error (.runtimeError "Owned player profile was not found")
    | .ok (some profile) =>
      (loadProfiles database rest).map (⟨profile.playerId, profile.name, profile.level⟩ :: ·)

/-- What the environment decides: whether the executor takes the work, and whether the work is
ended by an exception of the database or of the random generator. -/
structure Circumstances where
  queued : Bool := true
  workThrows : Bool := false

/-- The result that `CharacterListService::LoadCharacters` posts. -/
def loadCharacters (circumstances : Circumstances) (authenticatedAccountId : AccountId)
    (database : Database) : CharacterListResult :=
  if authenticatedAccountId = 0 then { status := .accountNotFound }
  else if ¬ circumstances.queued then { status := .serviceBusy }
  else if circumstances.workThrows then { status := .serviceError }
  else match database.findAccount authenticatedAccountId with
    | .error _ => { status := .serviceError }
    | .ok none => { status := .accountNotFound }
    | .ok (some _) => match database.findPlayerIds authenticatedAccountId with
      | .error _ => { status := .serviceError }
      | .ok playerIds => match loadProfiles database playerIds with
        | .error _ => { status := .serviceError }
        | .ok characters => { status := .success, characters }

structure IssuedAuthTicket where
  ticket : String
  expiresAtUnix : Int
  deriving DecidableEq, Repr

inductive CharacterSelectionStatus where
  | success | invalidSelection | serviceBusy | serviceError
  deriving DecidableEq, Repr

structure CharacterSelectionResult where
  status : CharacterSelectionStatus := .invalidSelection
  authTicket : Option IssuedAuthTicket := none
  deriving DecidableEq, Repr

def defaultAuthTicketLifetime : Int := 60

def hexDigits : List Char :=
  ['0', '1', '2', '3', '4', '5', '6', '7', '8', '9', 'a', 'b', 'c', 'd', 'e', 'f']

/-- The ticket of the random bytes. -/
def generateTicket (randomBytes : Vector UInt8 32) : String :=
  .ofList (randomBytes.toList.flatMap fun byte : UInt8 =>
    [hexDigits.getD (byte >>> 4).toNat '0', hexDigits.getD (byte &&& 0x0F).toNat '0'])

/-- What issuing a ticket takes from outside: random bytes, the clock and whether the store
takes the ticket. -/
structure TicketSource where
  randomBytes : Vector UInt8 32
  nowUnix : Int
  stored : Bool := true

/-- `AuthTicketIssuer::Issue`. -/
def issue (source : TicketSource) (accountId : AccountId) (playerId : PlayerId) (database : Database) :
    Except Failure (Option IssuedAuthTicket) :=
  if accountId = 0 ∨ playerId = 0 ∨ ¬ database.ownsPlayer accountId playerId then .ok none
  else if defaultAuthTicketLifetime > 9223372036854775807 - source.nowUnix then
    .error (.runtimeError "Auth ticket expiry time overflowed")
  else if ¬ source.stored then .ok none
  else .ok (some
    { ticket := generateTicket source.randomBytes
      expiresAtUnix := source.nowUnix + defaultAuthTicketLifetime })

/-- The result that `CharacterSelectionService::SelectCharacter` posts. -/
def selectCharacter (circumstances : Circumstances) (source : TicketSource)
    (authenticatedAccountId : AccountId) (selectedPlayerId : PlayerId) (database : Database) :
    CharacterSelectionResult :=
  if authenticatedAccountId = 0 ∨ selectedPlayerId = 0 then { status := .invalidSelection }
  else if ¬ circumstances.queued then { status := .serviceBusy }
  else if circumstances.workThrows then { status := .serviceError }
  else match issue source authenticatedAccountId selectedPlayerId database with
    | .error _ => { status := .serviceError }
    | .ok none => { status := .invalidSelection }
    | .ok (some authTicket) => { status := .success, authTicket := some authTicket }

inductive AccountAuthenticationStatus where
  | success | invalidCredentials | rateLimited | serviceBusy | serviceError
  deriving DecidableEq, Repr

structure AccountAuthenticationResult where
  status : AccountAuthenticationStatus := .invalidCredentials
  accountId : Option AccountId := none
  deriving DecidableEq, Repr

/-! ## The payloads -/

inductive LoginResult where
  | success | invalidCredentials | serviceError | rateLimited | serviceBusy
  deriving DecidableEq, Repr

inductive ProtocolCharacterListResult where
  | success | notAuthenticated | accountNotFound | serviceError | serviceBusy
  deriving DecidableEq, Repr

inductive ProtocolCharacterSelectionResult where
  | success | notAuthenticated | invalidSelection | serviceError | serviceBusy
  deriving DecidableEq, Repr

structure GameServerAddress where
  host : String
  port : UInt16
  deriving DecidableEq, Repr

structure CharacterSelectionResponse where
  result : ProtocolCharacterSelectionResult
  gameServerHost : String
  gameServerPort : UInt16
  authTicket : String
  expiresAtUnix : Int
  deriving DecidableEq, Repr

/-- The bytes that the library finishes for each response. -/
structure AuthEncoding where
  loginResponse : LoginResult → List UInt8
  characterListResponse : ProtocolCharacterListResult → List CharacterSummary → List UInt8
  characterSelectionResponse : CharacterSelectionResponse → List UInt8

def encodeLoginResponse (encoding : AuthEncoding) (requestId : UInt32) (result : LoginResult) :
    Except Failure (List UInt8) :=
  encodePacket .authLoginResponse requestId (encoding.loginResponse result)

def encodeCharacterListResponse (encoding : AuthEncoding) (requestId : UInt32)
    (result : ProtocolCharacterListResult) (characters : List CharacterSummary) :
    Except Failure (List UInt8) :=
  encodePacket .authCharacterListResponse requestId (encoding.characterListResponse result characters)

/-- Without success, or without a ticket, the response names neither server nor ticket. -/
def characterSelectionResponse (result : ProtocolCharacterSelectionResult)
    (gameServerAddress : GameServerAddress) (authTicket : Option IssuedAuthTicket) :
    CharacterSelectionResponse :=
  match result, authTicket with
  | .success, some authTicket =>
    { result := .success, gameServerHost := gameServerAddress.host
      gameServerPort := gameServerAddress.port, authTicket := authTicket.ticket
      expiresAtUnix := authTicket.expiresAtUnix }
  | result, _ =>
    { result, gameServerHost := "", gameServerPort := 0, authTicket := "", expiresAtUnix := 0 }

def encodeCharacterSelectionResponse (encoding : AuthEncoding) (requestId : UInt32)
    (result : ProtocolCharacterSelectionResult) (gameServerAddress : GameServerAddress)
    (authTicket : Option IssuedAuthTicket) : Except Failure (List UInt8) :=
  encodePacket .authCharacterSelectionResponse requestId
    (encoding.characterSelectionResponse
      (characterSelectionResponse result gameServerAddress authTicket))

/-! ## The completions -/

def toLoginResult : AccountAuthenticationStatus → LoginResult
  | .success => .success
  | .invalidCredentials => .invalidCredentials
  | .rateLimited => .rateLimited
  | .serviceBusy => .serviceBusy
  | .serviceError => .serviceError

def toCharacterListResult : CharacterListStatus → ProtocolCharacterListResult
  | .success => .success
  | .accountNotFound => .accountNotFound
  | .serviceBusy => .serviceBusy
  | .serviceError => .serviceError

def toCharacterSelectionResult : CharacterSelectionStatus → ProtocolCharacterSelectionResult
  | .success => .success
  | .invalidSelection => .invalidSelection
  | .serviceBusy => .serviceBusy
  | .serviceError => .serviceError

structure AuthServerSessionState where
  accountId : Option AccountId := none
  deriving DecidableEq, Repr

def AuthServerSessionState.markAuthenticated (accountId : AccountId) (state : AuthServerSessionState) :
    Bool × AuthServerSessionState :=
  if accountId = 0 then (false, state)
  else if state.accountId.isSome then (false, state)
  else (true, { accountId := some accountId })

/-- The completion of a login: what it hands to the response handler, or the exception. -/
def completeLogin (encoding : AuthEncoding) (requestId : UInt32)
    (authenticationResult : AccountAuthenticationResult) (state : AuthServerSessionState) :
    Except Failure (List UInt8) × AuthServerSessionState :=
  let responseResult := toLoginResult authenticationResult.status
  if responseResult = .success then match authenticationResult.accountId with
    | none => (encodeLoginResponse encoding requestId .serviceError, state)
    | some accountId => match state.markAuthenticated accountId with
      | (false, state) => (encodeLoginResponse encoding requestId .serviceError, state)
      | (true, state) => (encodeLoginResponse encoding requestId .success, state)
  else (encodeLoginResponse encoding requestId responseResult, state)

/-- The completion of a character list. -/
def completeCharacterList (encoding : AuthEncoding) (requestId : UInt32)
    (listResult : CharacterListResult) : Except Failure (List UInt8) :=
  let responseResult := toCharacterListResult listResult.status
  encodeCharacterListResponse encoding requestId responseResult
    (if responseResult ≠ .success then [] else listResult.characters)

/-- The completion of a character selection; a success without a usable ticket is an error. -/
def completeCharacterSelection (encoding : AuthEncoding) (gameServerAddress : GameServerAddress)
    (requestId : UInt32) (selectionResult : CharacterSelectionResult) : Except Failure (List UInt8) :=
  let responseResult := toCharacterSelectionResult selectionResult.status
  if responseResult = .success ∧ ¬ selectionResult.authTicket.any
      (fun authTicket => !authTicket.ticket.isEmpty && authTicket.expiresAtUnix > 0) then
    encodeCharacterSelectionResponse encoding requestId .serviceError gameServerAddress none
  else encodeCharacterSelectionResponse encoding requestId responseResult gameServerAddress
    selectionResult.authTicket

/-! ## The io context -/

structure IoContext where
  stopped : Bool := false
  deriving DecidableEq, Repr

/-- A handler as a worker of `AuthServerApplication::Run` calls it: the exception that leaves
`ioContext_.run()` is caught by the worker, which stops the io context for all sessions. -/
def IoContext.runHandler {α : Type} (outcome : Except Failure α) (ioContext : IoContext) : IoContext :=
  match outcome with
  | .ok _ => ioContext
  | .error _ => { stopped := true }

end Auth

end DnfServer
