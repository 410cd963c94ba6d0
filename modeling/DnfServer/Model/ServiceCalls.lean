import DnfServer.Model.DatabaseExecutor
import DnfServer.Model.Tickets

/-!
# Calls of the asynchronous services

`AccountAuthenticationService`, `CharacterListService` and `CharacterSelectionService` of the authentication
server and `PlayerLoginService` of the game server: what a call does until it returns, the work that it
leaves with the executor, and what the work makes of each answer. A completion handler is known by its
call, and one that has been moved from is `none`. `TryPost` and the post to the io context do not throw.
-/

namespace DnfServer

namespace Auth

/-- `MAX_PASSWORD_LENGTH` -/
def maxPasswordLength : Nat := 1024

def isValidPasswordInput (password : Bytes) : Bool :=
  !password.isEmpty && password.length ≤ maxPasswordLength

/-! ## The work -/

/-- What a repository, the hasher, the verifier or the issuer returns or throws. -/
inductive ServiceAnswer where
  | account (answer : Except Failure (Option Account))
  | passwordMatches (answer : Except Failure Bool)
  | authContext (answer : Except Failure (Option AuthContext))
  | profile (answer : Except Failure (Option PlayerProfile))
  | playerIds (answer : Except Failure (List PlayerId))
  | authTicket (answer : Except Failure (Option IssuedAuthTicket))
  deriving DecidableEq

inductive ServiceResult where
  | authentication (result : AccountAuthenticationResult)
  | login (result : PlayerLoginResult)
  | characterList (result : CharacterListResult)
  | characterSelection (result : CharacterSelectionResult)
  deriving DecidableEq

/-- The call that the work makes next, with what it has from the calls before. -/
inductive ServiceWork where
  | findAccountByLoginId (loginId : String) (password : Bytes) (dummyHash : String)
  | verifyPassword (account : Option Account) (password : Bytes) (encodedHash : String)
  | verifyTicket (ticket : AuthTicket)
  | findProfile (authContext : AuthContext)
  | findAccount (accountId : AccountId)
  | findPlayerIds (accountId : AccountId)
  | findPlayer (playerId : PlayerId) (rest : List PlayerId) (characters : List CharacterSummary)
  | issue (context : AuthContext)

inductive ServiceProgress where
  | asks (work : ServiceWork)
  | posts (result : ServiceResult)

end Auth

open Auth

namespace AccountAuthenticationService

def found (password : Bytes) (dummyHash : String) : Except Failure (Option Account) → ServiceProgress
  | .error _ => .posts (.authentication { status := .serviceError })
  | .ok account => .asks (.verifyPassword account password
      (match account with
        | some account => account.encodedPasswordHash
        | none => dummyHash))

def verified (account : Option Account) : Except Failure Bool → ServiceProgress
  | .error _ => .posts (.authentication { status := .serviceError })
  | .ok passwordMatches => match account, passwordMatches with
    | some account, true =>
      .posts (.authentication { status := .success, accountId := some account.accountId })
    | _, _ => .posts (.authentication { status := .invalidCredentials })

end AccountAuthenticationService

namespace PlayerLoginService

/-- The work of a login goes on, or posts its result. -/
def progress : LoginStage → Option ServiceProgress
  | .verified authContext => some (.asks (.findProfile authContext))
  | .posted result => some (.posts (.login result))
  | .queued => none
  | .completed => none

end PlayerLoginService

namespace CharacterListService

/-- The head of the loop over the players. -/
def loadNext (characters : List CharacterSummary) : List PlayerId → ServiceProgress
  | [] => .posts (.characterList { status := .success, characters })
  | playerId :: rest => .asks (.findPlayer playerId rest characters)

def foundAccount (accountId : AccountId) : Except Failure (Option Account) → ServiceProgress
  | .error _ => .posts (.characterList { status := .serviceError })
  | .ok none => .posts (.characterList { status := .accountNotFound })
  | .ok (some _) => .asks (.findPlayerIds accountId)

def foundPlayerIds : Except Failure (List PlayerId) → ServiceProgress
  | .error _ => .posts (.characterList { status := .serviceError })
  | .ok playerIds => loadNext [] playerIds

/-- A player without a profile throws. -/
def foundPlayer (rest : List PlayerId) (characters : List CharacterSummary) :
    Except Failure (Option PlayerProfile) → ServiceProgress
  | .error _ => .posts (.characterList { status := .serviceError })
  | .ok none => .posts (.characterList { status := .serviceError })
  | .ok (some profile) =>
    loadNext (characters ++ [⟨profile.playerId, profile.name, profile.level⟩]) rest

end CharacterListService

namespace CharacterSelectionService

def issued : Except Failure (Option IssuedAuthTicket) → ServiceProgress
  | .error _ => .posts (.characterSelection { status := .serviceError })
  | .ok none => .posts (.characterSelection { status := .invalidSelection })
  | .ok (some authTicket) =>
    .posts (.characterSelection { status := .success, authTicket := some authTicket })

end CharacterSelectionService

namespace Auth

/-- What the work does with the answer to its call. -/
def ServiceWork.answered : ServiceWork → ServiceAnswer → Option ServiceProgress
  | .findAccountByLoginId _ password dummyHash, .account answer =>
    some (AccountAuthenticationService.found password dummyHash answer)
  | .verifyPassword account _ _, .passwordMatches answer =>
    some (AccountAuthenticationService.verified account answer)
  | .verifyTicket _, .authContext answer =>
    PlayerLoginService.progress (PlayerLoginService.verified answer)
  | .findProfile authContext, .profile answer =>
    PlayerLoginService.progress (PlayerLoginService.found authContext answer)
  | .findAccount accountId, .account answer => some (CharacterListService.foundAccount accountId answer)
  | .findPlayerIds _, .playerIds answer => some (CharacterListService.foundPlayerIds answer)
  | .findPlayer _ rest characters, .profile answer =>
    some (CharacterListService.foundPlayer rest characters answer)
  | .issue _, .authTicket answer => some (CharacterSelectionService.issued answer)
  | _, _ => none

/-! ## The calls -/

/-- What has happened, in its order. -/
inductive ServiceEvent where
  | acquired (call : CallId) (permit : Nat)
  /-- `TryPost` has returned `false`. -/
  | refused (call : CallId)
  | answered (call : CallId) (answer : ServiceAnswer)
  | posted (handler : Option CallId) (result : ServiceResult)
  | released (permit : Nat)
  deriving DecidableEq

/-- A function that the executor holds. It is destroyed after it has returned, or by `TryPost`. -/
structure ServiceTask where
  call : CallId
  completionHandler : Option CallId
  permit : Option Nat := none
  /-- `none` when the function has returned. -/
  work : Option ServiceWork

structure Services where
  limiter : LoginAttemptLimiter
  dummyEncodedPasswordHash : String
  tasks : List ServiceTask := []
  /-- The calls that have been made. -/
  calls : List CallId := []
  events : List ServiceEvent := []

namespace Services

/-- The constructor of `AccountAuthenticationService`, with what the hasher makes of the dummy password. -/
def new (limiterOptions : LoginAttemptLimiterOptions) (dummyHash : Option String) :
    Except Failure Services :=
  match LoginAttemptLimiter.new limiterOptions with
  | .error failure => .error failure
  | .ok limiter => match dummyHash with
    | none => .error (.runtimeError "Failed to create authentication timing hash")
    | some dummyEncodedPasswordHash => .ok { limiter, dummyEncodedPasswordHash }

def note (event : ServiceEvent) (s : Services) : Services := { s with events := s.events ++ [event] }

def postCompletion (handler : Option CallId) (result : ServiceResult) (s : Services) : Services :=
  s.note (.posted handler result)

/-- The permit of a task is released by its destructor. -/
def destroyTask (task : ServiceTask) (s : Services) : Services :=
  match task.permit with
  | none => s
  | some permit => { s with limiter := s.limiter.releasePermit }.note (.released permit)

/-- `TryPost` with its answer, and what the caller does when it is `false`. -/
def tryPost (task : ServiceTask) (queued : Bool) (busy : ServiceResult) (s : Services) : Services :=
  if queued then { s with tasks := s.tasks ++ [task] }
  else ((s.note (.refused task.call)).destroyTask task).postCompletion task.completionHandler busy

/-- `Authenticate`; the clock is read in `TryAcquire`. -/
def authenticate (call : CallId) (clientAddress : Bytes) (loginId : String) (password : Bytes) (now : Int)
    (queued : Bool) (s : Services) : Services :=
  if ¬ isValidAccountLoginId loginId ∨ ¬ isValidPasswordInput password then
    s.postCompletion (some call) (.authentication { status := .invalidCredentials })
  else
    let (admission, limiter) := s.limiter.tryAcquire clientAddress (ascii loginId.toList) now
    let s := { s with limiter }
    match admission.status with
    | .rateLimited => s.postCompletion (some call) (.authentication { status := .rateLimited })
    | .serviceBusy => s.postCompletion (some call) (.authentication { status := .serviceBusy })
    | .accepted =>
      let s := match admission.permit with
        | none => s
        | some permit => s.note (.acquired call permit)
      s.tryPost
        { call
          completionHandler := some call
          permit := admission.permit
          work := some (.findAccountByLoginId loginId password s.dummyEncodedPasswordHash) }
        queued (.authentication { status := .serviceBusy })

def login (call : CallId) (ticket : AuthTicket) (queued : Bool) (s : Services) : Services :=
  s.tryPost { call, completionHandler := some call, work := some (.verifyTicket ticket) } queued
    (.login { status := .serviceBusy })

def loadCharacters (call : CallId) (authenticatedAccountId : AccountId) (queued : Bool) (s : Services) :
    Services :=
  if authenticatedAccountId = 0 then
    s.postCompletion (some call) (.characterList { status := .accountNotFound })
  else
    s.tryPost { call, completionHandler := some call, work := some (.findAccount authenticatedAccountId) }
      queued (.characterList { status := .serviceBusy })

def selectCharacter (call : CallId) (authenticatedAccountId : AccountId) (selectedPlayerId : PlayerId)
    (queued : Bool) (s : Services) : Services :=
  if authenticatedAccountId = 0 ∨ selectedPlayerId = 0 then
    s.postCompletion (some call) (.characterSelection { status := .invalidSelection })
  else
    s.tryPost
      { call
        completionHandler := some call
        work := some (.issue ⟨authenticatedAccountId, selectedPlayerId⟩) }
      queued (.characterSelection { status := .serviceBusy })

/-- A task goes on with an answer; the handler is moved into the post. -/
def proceed (index : Nat) (task : ServiceTask) (answer : ServiceAnswer) (progress : ServiceProgress)
    (s : Services) : Services :=
  let s := s.note (.answered task.call answer)
  match progress with
  | .asks work => { s with tasks := s.tasks.set index { task with work := some work } }
  | .posts result =>
    { s with
      tasks := s.tasks.set index { task with completionHandler := none, work := none } }.postCompletion
        task.completionHandler result

end Services

/-- What is called of a service, with the answer that `TryPost` gives to it. -/
inductive ServiceCall where
  | authenticate (clientAddress : Bytes) (loginId : String) (password : Bytes) (now : Int)
  | login (ticket : AuthTicket)
  | loadCharacters (authenticatedAccountId : AccountId)
  | selectCharacter (authenticatedAccountId : AccountId) (selectedPlayerId : PlayerId)

inductive ServiceStep where
  | call (call : CallId) (emptyHandler : Bool) (request : ServiceCall) (queued : Bool)
  | answer (index : Nat) (answer : ServiceAnswer)
  /-- The executor lets go of a task that has returned. -/
  | destroy (index : Nat)

namespace Services

def perform (call : CallId) (queued : Bool) (s : Services) : ServiceCall → Services
  | .authenticate clientAddress loginId password now =>
    s.authenticate call clientAddress loginId password now queued
  | .login ticket => s.login call ticket queued
  | .loadCharacters authenticatedAccountId => s.loadCharacters call authenticatedAccountId queued
  | .selectCharacter authenticatedAccountId selectedPlayerId =>
    s.selectCharacter call authenticatedAccountId selectedPlayerId queued

/-- A call with an empty handler throws before anything else. -/
def next (s : Services) : ServiceStep → Option Services
  | .call call emptyHandler request queued =>
    if call ∈ s.calls then none
    else if emptyHandler then some s
    else some ({ s with calls := call :: s.calls }.perform call queued request)
  | .answer index answer => do
    let task ← s.tasks[index]?
    let work ← task.work
    let progress ← work.answered answer
    return s.proceed index task answer progress
  | .destroy index => do
    let task ← s.tasks[index]?
    if task.work.isNone then return { s with tasks := s.tasks.eraseIdx index }.destroyTask task
    else none

end Services

end Auth

end DnfServer
