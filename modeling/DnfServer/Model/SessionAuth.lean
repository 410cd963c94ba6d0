import DnfServer.Model.Accounts
import DnfServer.Model.Packet

/-!
# The authentication of a game session

What a session of the game server keeps of the player that has logged in, and what the login service
reports to it. A ticket is a string of bytes. The FlatBuffers library reads the request and builds
the response; what it makes of them is a `LoginFormat`.
-/

namespace DnfServer

open Std

abbrev AuthTicket := List UInt8

structure AuthContext where
  accountId : AccountId := 0
  playerId : PlayerId := 0
  deriving DecidableEq, Repr

def isValidAuthContext (context : AuthContext) : Bool :=
  context.accountId != 0 && context.playerId != 0

def maxAuthTicketLength : Nat := 256

def isValidAuthTicket (ticket : AuthTicket) : Bool :=
  !ticket.isEmpty && ticket.length ≤ maxAuthTicketLength

/-! ## The latch -/

structure SessionAuthSnapshot where
  authContext : AuthContext
  profile : PlayerProfile
  deriving DecidableEq, Repr

structure SessionAuthState where
  snapshot : Option SessionAuthSnapshot := none
  deriving DecidableEq, Repr

namespace SessionAuthState

def authenticate (authContext : AuthContext) (profile : PlayerProfile) (state : SessionAuthState) :
    Bool × SessionAuthState :=
  if ¬ isValidAuthContext authContext ∨ ¬ isValidPlayerProfile profile ∨
      authContext.playerId ≠ profile.playerId then (false, state)
  else if state.snapshot.isSome then (false, state)
  else (true, { snapshot := some { authContext, profile } })

def isAuthenticated (state : SessionAuthState) : Bool := state.snapshot.isSome

end SessionAuthState

/-! ## The login -/

inductive PlayerLoginStatus where
  | success | invalidTicket | playerNotFound | serviceBusy | storageError
  deriving DecidableEq, Repr

structure PlayerLoginResult where
  status : PlayerLoginStatus := .invalidTicket
  authContext : Option AuthContext := none
  profile : Option PlayerProfile := none
  deriving DecidableEq, Repr

inductive LoginResult where
  | loginSuccess | invalidAuthTicket | loginPlayerNotFound | loginStorageError | loginServiceBusy
  deriving DecidableEq, Repr

def toLoginResult : PlayerLoginStatus → LoginResult
  | .success => .loginSuccess
  | .invalidTicket => .invalidAuthTicket
  | .playerNotFound => .loginPlayerNotFound
  | .serviceBusy => .loginServiceBusy
  | .storageError => .loginStorageError

/-- The ticket that the library finds in the payload of a request, or the exception of its
verification, and the bytes that it finishes for a response. -/
structure LoginFormat where
  authTicket : List UInt8 → Except Failure AuthTicket
  loginResponse : LoginResult → SessionId → List UInt8

def decodeLoginRequestPayload (format : LoginFormat) (payload : List UInt8) :
    Except Failure AuthTicket :=
  match format.authTicket payload with
  | .error failure => .error failure
  | .ok ticket =>
    if isValidAuthTicket ticket then .ok ticket else .error (.runtimeError "Invalid auth ticket")

def encodeLoginResponsePayload (format : LoginFormat) (result : LoginResult) (sessionId : SessionId) :
    Except Failure (List UInt8) :=
  if result = .loginSuccess ↔ sessionId ≠ 0 then .ok (format.loginResponse result sessionId)
  else .error (.invalidArgument "Invalid login response")

/-- What the completion of a login makes of its result. -/
def authenticateLogin (loginResult : PlayerLoginResult) (authState : SessionAuthState) :
    LoginResult × SessionAuthState :=
  let result := toLoginResult loginResult.status
  if result ≠ .loginSuccess then (result, authState)
  else match loginResult.authContext, loginResult.profile with
    | some authContext, some profile => match authState.authenticate authContext profile with
      | (true, authState) => (result, authState)
      | (false, authState) => (.loginStorageError, authState)
    | _, _ => (.loginStorageError, authState)

/-- The response of the completion, or its exception. -/
def encodeLogin (format : LoginFormat) (sessionId : SessionId) (requestId : UInt32)
    (result : LoginResult) : Except Failure (List UInt8) :=
  let responseSessionId := if result = .loginSuccess then sessionId else 0
  (encodeLoginResponsePayload format result responseSessionId).bind
    (encodePacket .loginResponse requestId)

end DnfServer
