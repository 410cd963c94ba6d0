import DnfServer.Model.Instance

/-!
# The database executor

`DatabaseExecutor` with its callers, the workers of the pool and the threads that stop it. Each
section under `statsMutex_` is one step. A call of `TryPost` holds `lifecycleMutex_` from its check
to its return, so at most one call is inside at a time, and `DrainAndStop` takes the mutex only
while none is. The pool is `boost::asio::thread_pool`: it keeps what is posted until a worker takes
it, and `join` returns when it keeps nothing and no worker is at work.

The counters are exact integers, so that one that falls below zero would show. A task is known by
the call that brought it; `outcomes` and `ran` record what the calls have come to and which tasks
have been called.
-/

namespace DnfServer

open Std

structure DatabaseExecutorStats where
  acceptingTasks : Bool := true
  queueDepth : Int := 0
  activeTasks : Int := 0
  peakQueueDepth : Int := 0
  acceptedTasks : Int := 0
  rejectedTasks : Int := 0
  completedTasks : Int := 0
  failedTasks : Int := 0
  totalQueueWait : Int := 0
  totalExecutionTime : Int := 0
  deriving DecidableEq, Repr

abbrev CallId := Nat

/-- What `TryPost` posts to the pool. -/
structure Handler where
  call : CallId
  queuedAt : Int
  deriving DecidableEq, Repr

/-- Where a call of `TryPost` is that holds `lifecycleMutex_`. -/
inductive PostPlace where
  | entered
  | counted
  /-- The pool has thrown. -/
  | postFailed
  | returning (accepted : Bool)
  | rethrowing
  deriving DecidableEq, Repr

inductive PostOutcome where
  | returned (accepted : Bool)
  | rethrown
  | thrown (failure : Failure)
  deriving DecidableEq, Repr

/-- Where a worker is with a handler. -/
inductive WorkerPlace where
  | idle
  | dequeued (handler : Handler)
  | started (handler : Handler) (startedAt : Int)
  | completed (startedAt : Int) (failed : Bool)
  deriving DecidableEq, Repr

/-- Where a call of `DrainAndStop` is. -/
inductive DrainPlace where
  | waiting
  | stopping
  | joining
  | joined
  | returned
  deriving DecidableEq, Repr

structure DatabaseExecutor where
  maxQueuedTasks : Nat
  workers : List WorkerPlace
  queue : List Handler := []
  stats : DatabaseExecutorStats := {}
  acceptingTasks : Bool := true
  stopping : Bool := false
  joined : Bool := false
  holder : Option (CallId × PostPlace) := none
  drains : IdMap DrainPlace := ∅
  outcomes : List (CallId × PostOutcome) := []
  ran : List CallId := []

inductive ExecutorStep where
  | tryPost (call : CallId) (emptyTask : Bool)
  /-- The checks, with the section under `statsMutex_` that they end in. -/
  | count
  | post (queuedAt : Int)
  | postFails
  | compensate
  | leave
  /-- A worker takes one of the handlers. -/
  | dequeue (worker index : Nat)
  | start (worker : Nat) (startedAt : Int)
  | callTask (worker : Nat) (failed : Bool)
  | complete (worker : Nat) (completedAt : Int)
  | drainAndStop (thread : Nat)
  /-- The condition variable has woken the thread. -/
  | wake (thread : Nat)
  | stopAccepting (thread : Nat)
  | join (thread : Nat)
  | setJoined (thread : Nat)

namespace DatabaseExecutor

/-- The constructor: the limit is initialized before the pool. -/
def new (workerCount maxQueuedTasks : Nat) : Except Failure DatabaseExecutor :=
  if maxQueuedTasks = 0 then
    .error (.invalidArgument "Database queue limit must be positive")
  else if workerCount = 0 then
    .error (.invalidArgument "Database worker count must be positive")
  else .ok { maxQueuedTasks, workers := List.replicate workerCount .idle }

/-- The call is under way or over. -/
def known (e : DatabaseExecutor) (call : CallId) : Bool :=
  e.holder.any (·.1 = call) || e.outcomes.any (·.1 = call)

/-- The sections under `statsMutex_`. -/
def countRejected (stats : DatabaseExecutorStats) : DatabaseExecutorStats :=
  { stats with rejectedTasks := stats.rejectedTasks + 1 }

def countAccepted (stats : DatabaseExecutorStats) : DatabaseExecutorStats :=
  let queueDepth := stats.queueDepth + 1
  { stats with
    queueDepth
    acceptedTasks := stats.acceptedTasks + 1
    peakQueueDepth := if queueDepth > stats.peakQueueDepth then queueDepth else stats.peakQueueDepth }

def takeBack (stats : DatabaseExecutorStats) : DatabaseExecutorStats :=
  { stats with
    queueDepth := stats.queueDepth - 1
    acceptedTasks := stats.acceptedTasks - 1
    rejectedTasks := stats.rejectedTasks + 1 }

def countStarted (queuedAt startedAt : Int) (stats : DatabaseExecutorStats) : DatabaseExecutorStats :=
  { stats with
    queueDepth := stats.queueDepth - 1
    activeTasks := stats.activeTasks + 1
    totalQueueWait := stats.totalQueueWait + (startedAt - queuedAt) }

def countCompleted (startedAt completedAt : Int) (failed : Bool) (stats : DatabaseExecutorStats) :
    DatabaseExecutorStats :=
  { stats with
    activeTasks := stats.activeTasks - 1
    completedTasks := stats.completedTasks + 1
    failedTasks := if failed then stats.failedTasks + 1 else stats.failedTasks
    totalExecutionTime := stats.totalExecutionTime + (completedAt - startedAt) }

def next (e : DatabaseExecutor) : ExecutorStep → Option DatabaseExecutor
  | .tryPost call emptyTask =>
    if e.known call then none
    else if emptyTask then
      some { e with
        outcomes :=
          (call, .thrown (.invalidArgument "Database task must not be empty")) :: e.outcomes }
    else match e.holder with
      | none => some { e with holder := some (call, .entered) }
      | some _ => none
  | .count => match e.holder with
    | some (call, .entered) =>
      if ¬ e.acceptingTasks ∨ e.stats.queueDepth ≥ e.maxQueuedTasks then
        some { e with stats := countRejected e.stats, holder := some (call, .returning false) }
      else some { e with stats := countAccepted e.stats, holder := some (call, .counted) }
    | _ => none
  | .post queuedAt => match e.holder with
    | some (call, .counted) => some { e with
        queue := e.queue ++ [⟨call, queuedAt⟩], holder := some (call, .returning true) }
    | _ => none
  | .postFails => match e.holder with
    | some (call, .counted) => some { e with holder := some (call, .postFailed) }
    | _ => none
  | .compensate => match e.holder with
    | some (call, .postFailed) => some { e with
        stats := takeBack e.stats, holder := some (call, .rethrowing) }
    | _ => none
  | .leave => match e.holder with
    | some (call, .returning accepted) => some { e with
        holder := none, outcomes := (call, .returned accepted) :: e.outcomes }
    | some (call, .rethrowing) => some { e with
        holder := none, outcomes := (call, .rethrown) :: e.outcomes }
    | _ => none
  | .dequeue worker index => match e.workers[worker]?, e.queue[index]? with
    | some .idle, some handler => some { e with
        queue := e.queue.eraseIdx index, workers := e.workers.set worker (.dequeued handler) }
    | _, _ => none
  | .start worker startedAt => match e.workers[worker]? with
    | some (.dequeued handler) => some { e with
        stats := countStarted handler.queuedAt startedAt e.stats
        workers := e.workers.set worker (.started handler startedAt) }
    | _ => none
  | .callTask worker failed => match e.workers[worker]? with
    | some (.started handler startedAt) => some { e with
        ran := handler.call :: e.ran
        workers := e.workers.set worker (.completed startedAt failed) }
    | _ => none
  | .complete worker completedAt => match e.workers[worker]? with
    | some (.completed startedAt failed) => some { e with
        stats := countCompleted startedAt completedAt failed e.stats
        workers := e.workers.set worker .idle }
    | _ => none
  | .drainAndStop thread =>
    if thread ∈ e.drains ∨ e.holder.isSome then none
    else if e.joined then some { e with drains := e.drains.insert thread .returned }
    else if e.stopping then some { e with drains := e.drains.insert thread .waiting }
    else some { e with
      acceptingTasks := false, stopping := true, drains := e.drains.insert thread .stopping }
  | .wake thread =>
    if e.drains[thread]? = some .waiting ∧ e.holder = none ∧ e.joined then
      some { e with drains := e.drains.insert thread .returned }
    else none
  | .stopAccepting thread =>
    if e.drains[thread]? = some .stopping then
      some { e with
        stats := { e.stats with acceptingTasks := false }
        drains := e.drains.insert thread .joining }
    else none
  | .join thread =>
    if e.drains[thread]? = some .joining ∧ e.queue = [] ∧ ∀ worker ∈ e.workers, worker = .idle then
      some { e with drains := e.drains.insert thread .joined }
    else none
  | .setJoined thread =>
    if e.drains[thread]? = some .joined ∧ e.holder = none then
      some { e with joined := true, drains := e.drains.insert thread .returned }
    else none

end DatabaseExecutor

end DnfServer
