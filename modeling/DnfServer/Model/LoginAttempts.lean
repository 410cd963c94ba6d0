import DnfServer.Model.Rooms

/-!
# Login attempts

`LoginAttemptLimiter` of the authentication server. Times are readings of its steady clock, and
strings are their bytes. `TryAcquire` reads the clock and then holds the mutex to its end. A
permit is named by the number of attempts accepted before it.
-/

namespace DnfServer

open Std

namespace Auth

abbrev Bytes := List UInt8

/-- The bytes of an ASCII text. -/
def ascii (text : List Char) : Bytes := text.map fun character => character.toNat.toUInt8

structure LoginAttemptLimiterOptions where
  maxAttemptsPerIp : Nat := 30
  maxAttemptsPerAccount : Nat := 10
  maxConcurrentPasswordJobs : Nat := 2
  maxTrackedIps : Nat := 4096
  maxTrackedAccounts : Nat := 16384
  attemptWindow : Int := 60000000000
  deriving DecidableEq, Repr

def LoginAttemptLimiterOptions.isValid (options : LoginAttemptLimiterOptions) : Bool :=
  options.maxAttemptsPerIp > 0 ∧ options.maxAttemptsPerAccount > 0 ∧
    options.maxConcurrentPasswordJobs > 0 ∧ options.maxTrackedIps > 0 ∧
    options.maxTrackedAccounts > 0 ∧ options.attemptWindow > 0

structure LoginAttemptLimiterStats where
  trackedIps : Nat := 0
  trackedAccounts : Nat := 0
  concurrentPasswordJobs : Nat := 0
  acceptedAttempts : Nat := 0
  rejectedByIp : Nat := 0
  rejectedByAccount : Nat := 0
  rejectedByConcurrency : Nat := 0
  rejectedByTrackingCapacity : Nat := 0
  deriving DecidableEq, Repr

inductive LoginAdmissionStatus where
  | accepted | rateLimited | serviceBusy
  deriving DecidableEq, Repr

structure LoginAdmission where
  status : LoginAdmissionStatus := .serviceBusy
  permit : Option Nat := none
  deriving DecidableEq, Repr

/-- The times of the attempts of one key, oldest first. -/
abbrev AttemptHistory := List Int

abbrev AttemptMap := ExtTreeMap Bytes AttemptHistory

/-- `std::tolower` of the C locale. -/
def tolower (character : UInt8) : UInt8 :=
  if 65 ≤ character ∧ character ≤ 90 then character + 32 else character

def normalizeAccountLoginId (loginId : Bytes) : Bytes := loginId.map tolower

/-- The loop that takes expired times from the front. -/
def popExpired (cutoff : Int) (history : AttemptHistory) : AttemptHistory :=
  history.dropWhile (· ≤ cutoff)

def pruneExpired (cutoff : Int) (attempts : AttemptMap) : AttemptMap :=
  attempts.filterMap fun _ history =>
    if popExpired cutoff history = [] then none else some (popExpired cutoff history)

/-- The history of the key, when it is not empty, and the map without its expired times. -/
def findAndPrune (key : Bytes) (cutoff : Int) (attempts : AttemptMap) :
    Option AttemptHistory × AttemptMap :=
  match attempts[key]? with
  | none => (none, attempts)
  | some history =>
    if popExpired cutoff history = [] then (none, attempts.erase key)
    else (some (popExpired cutoff history), attempts.insert key (popExpired cutoff history))

/-- Whether the key needs an entry of its own. At the limit the whole map is pruned first. -/
def needsEntry (key : Bytes) (cutoff : Int) (maxTracked : Nat) (found : Option AttemptHistory)
    (attempts : AttemptMap) : Bool × AttemptMap :=
  if found.isNone ∧ attempts.size ≥ maxTracked then
    let attempts := pruneExpired cutoff attempts
    (!attempts.contains key, attempts)
  else (found.isNone, attempts)

structure LoginAttemptLimiter where
  options : LoginAttemptLimiterOptions
  ipAttempts : AttemptMap := ∅
  accountAttempts : AttemptMap := ∅
  stats : LoginAttemptLimiterStats := {}

namespace LoginAttemptLimiter

def new (options : LoginAttemptLimiterOptions) : Except Failure LoginAttemptLimiter :=
  if ¬ options.isValid then .error (.invalidArgument "Login attempt limiter options are invalid")
  else .ok { options }

def ipKey (clientAddress : Bytes) : Bytes :=
  if clientAddress = [] then ascii ['u', 'n', 'k', 'n', 'o', 'w', 'n'] else clientAddress

/-- From the check of the tracking limits on. -/
def acquirePermit (ip account : Bytes) (now : Int) (needsIpEntry needsAccountEntry : Bool)
    (limiter : LoginAttemptLimiter) : LoginAdmission × LoginAttemptLimiter :=
  let stats := limiter.stats
  if (needsIpEntry ∧ limiter.ipAttempts.size ≥ limiter.options.maxTrackedIps) ∨
      (needsAccountEntry ∧ limiter.accountAttempts.size ≥ limiter.options.maxTrackedAccounts) then
    ({ status := .serviceBusy }, { limiter with
      stats := { stats with rejectedByTrackingCapacity := stats.rejectedByTrackingCapacity + 1 } })
  else if stats.concurrentPasswordJobs ≥ limiter.options.maxConcurrentPasswordJobs then
    ({ status := .serviceBusy }, { limiter with
      stats := { stats with rejectedByConcurrency := stats.rejectedByConcurrency + 1 } })
  else
    ({ status := .accepted, permit := some stats.acceptedAttempts }, { limiter with
      ipAttempts := limiter.ipAttempts.insert ip (limiter.ipAttempts[ip]?.getD [] ++ [now])
      accountAttempts := limiter.accountAttempts.insert account
        (limiter.accountAttempts[account]?.getD [] ++ [now])
      stats := { stats with
        concurrentPasswordJobs := stats.concurrentPasswordJobs + 1
        acceptedAttempts := stats.acceptedAttempts + 1 } })

def tryAcquire (clientAddress accountLoginId : Bytes) (now : Int) (limiter : LoginAttemptLimiter) :
    LoginAdmission × LoginAttemptLimiter :=
  let ip := ipKey clientAddress
  let account := normalizeAccountLoginId accountLoginId
  let options := limiter.options
  let stats := limiter.stats
  let cutoff := now - options.attemptWindow
  let (foundIp, ipAttempts) := findAndPrune ip cutoff limiter.ipAttempts
  if foundIp.any (·.length ≥ options.maxAttemptsPerIp) then
    ({ status := .rateLimited }, { limiter with
      ipAttempts, stats := { stats with rejectedByIp := stats.rejectedByIp + 1 } })
  else
    let (foundAccount, accountAttempts) := findAndPrune account cutoff limiter.accountAttempts
    if foundAccount.any (·.length ≥ options.maxAttemptsPerAccount) then
      ({ status := .rateLimited }, { limiter with
        ipAttempts, accountAttempts
        stats := { stats with rejectedByAccount := stats.rejectedByAccount + 1 } })
    else
      let (needsIpEntry, ipAttempts) :=
        needsEntry ip cutoff options.maxTrackedIps foundIp ipAttempts
      let (needsAccountEntry, accountAttempts) :=
        needsEntry account cutoff options.maxTrackedAccounts foundAccount accountAttempts
      { limiter with ipAttempts, accountAttempts }.acquirePermit ip account now needsIpEntry
        needsAccountEntry

/-- The release of a permit, which its destructor runs. -/
def releasePermit (limiter : LoginAttemptLimiter) : LoginAttemptLimiter :=
  let stats := limiter.stats
  if stats.concurrentPasswordJobs > 0 then { limiter with
    stats := { stats with concurrentPasswordJobs := stats.concurrentPasswordJobs - 1 } }
  else limiter

/-- `Stats`. -/
def currentStats (limiter : LoginAttemptLimiter) : LoginAttemptLimiterStats :=
  { limiter.stats with
    trackedIps := limiter.ipAttempts.size, trackedAccounts := limiter.accountAttempts.size }

end LoginAttemptLimiter

end Auth

end DnfServer
