import Mathlib.Data.List.Perm.Basic
import Mathlib.Data.List.Nodup
import DnfServer.Library.Runs
import DnfServer.Model.DatabaseExecutor

/-!
# The accounts of the database executor

The counters are tied to what the executor holds: the queue depth counts the handlers in the pool,
those that a worker has just taken, and the task of a call between its count and its post; the
active tasks are those of the workers between their two sections. A task that is accepted is in
exactly one place until it has been called.
-/

namespace DnfServer.Database

open Std DnfServer.Library List
set_option autoImplicit false

/-! ## What the executor holds -/

/-- The worker has taken a handler and not yet counted it as started. -/
def isDequeued : WorkerPlace → Bool
  | .dequeued _ => true
  | _ => false

def isActive : WorkerPlace → Bool
  | .started .. | .completed .. => true
  | _ => false

/-- The task that the worker has still to call. -/
def taskOf : WorkerPlace → Option CallId
  | .dequeued handler | .started handler _ => some handler.call
  | _ => none

/-- The task of the call is counted in the queue and not in the pool. -/
def countedBy : Option (CallId × PostPlace) → Nat
  | some (_, .counted) | some (_, .postFailed) => 1
  | _ => 0

/-- The call is counted as rejected and has not returned. -/
def refusedBy : Option (CallId × PostPlace) → Nat
  | some (_, .returning false) | some (_, .rethrowing) => 1
  | _ => 0

/-- The task that is in the pool before its call has returned. -/
def postedBy : Option (CallId × PostPlace) → List CallId
  | some (call, .returning true) => [call]
  | _ => []

/-- The call had a task, and the task was refused or could not be posted. -/
def isRefused : PostOutcome → Bool
  | .returned false | .rethrown => true
  | _ => false

/-- The accepted tasks that have not been called, and those that have. -/
def tasks (e : DatabaseExecutor) : List CallId :=
  e.queue.map (·.call) ++ e.workers.filterMap taskOf ++ e.ran

def accepted (e : DatabaseExecutor) : List CallId :=
  (e.outcomes.filter (·.2 = .returned true)).map (·.1) ++ postedBy e.holder

/-! ## The invariant -/

/-- The counters say what the executor holds. -/
structure Counted (workerCount maxQueuedTasks : Nat) (e : DatabaseExecutor) : Prop where
  limit : e.maxQueuedTasks = maxQueuedTasks
  workers : e.workers.length = workerCount
  queueDepth : e.stats.queueDepth =
    e.queue.length + e.workers.countP isDequeued + countedBy e.holder
  activeTasks : e.stats.activeTasks = e.workers.countP isActive
  balance : e.stats.acceptedTasks =
    e.stats.queueDepth + e.stats.activeTasks + e.stats.completedTasks
  failedTasks : 0 ≤ e.stats.failedTasks ∧ e.stats.failedTasks ≤ e.stats.completedTasks
  peak : e.stats.queueDepth ≤ e.stats.peakQueueDepth ∧ e.stats.peakQueueDepth ≤ maxQueuedTasks
  rejectedTasks : e.stats.rejectedTasks =
    e.outcomes.countP (isRefused ·.2) + refusedBy e.holder

/-- Every call has come to one outcome, and every accepted task is in one place. -/
structure Tracked (e : DatabaseExecutor) : Prop where
  distinct : (e.outcomes.map (·.1)).Nodup
  unfinished : ∀ call place, e.holder = some (call, place) → call ∉ e.outcomes.map (·.1)
  placed : (tasks e).Perm (accepted e)

/-- The pool keeps nothing, and no worker is at work. -/
def Empty (e : DatabaseExecutor) : Prop :=
  e.queue = [] ∧ ∀ worker ∈ e.workers, worker = .idle

/-- From the stop on no call can be accepted, and from the join on the pool is empty. -/
structure Closing (e : DatabaseExecutor) : Prop where
  stopped : e.stopping = true → e.acceptingTasks = false
  drains : ∀ (thread : Nat) (place : DrainPlace), e.drains[thread]? = some place →
    e.stopping = true ∧ (place = .joined ∨ place = .returned → Empty e)
  joined : e.joined = true → e.stopping = true ∧ Empty e
  holder : ∀ call place, e.holder = some (call, place) →
    place = .counted ∨ place = .postFailed ∨ place = .returning true → e.acceptingTasks = true

/-! ## Workers -/

section

variable {workers : List WorkerPlace} {i : Nat} {old : WorkerPlace}

/-- One worker goes on to another place. -/
theorem countP_set (h : workers[i]? = some old) (new : WorkerPlace) (P : WorkerPlace → Bool) :
    (workers.set i new).countP P + (if P old then 1 else 0) =
      workers.countP P + if P new then 1 else 0 := by
  rw [(perm_set h new).countP_eq, (perm_of_getElem? h).countP_eq, List.countP_cons, List.countP_cons]
  omega

/-- The tasks of the others are what both lists of tasks have in common. -/
theorem filterMap_set (h : workers[i]? = some old) (new : WorkerPlace) :
    ∃ others : List CallId, (workers.filterMap taskOf).Perm ((taskOf old).toList ++ others) ∧
      ((workers.set i new).filterMap taskOf).Perm ((taskOf new).toList ++ others) := by
  refine ⟨(workers.eraseIdx i).filterMap taskOf, ?_, ?_⟩
  · refine ((perm_of_getElem? h).filterMap taskOf).trans ?_
    rw [List.filterMap_cons]
    cases taskOf old <;> exact .refl _
  · refine ((perm_set h new).filterMap taskOf).trans ?_
    rw [List.filterMap_cons]
    cases taskOf new <;> exact .refl _

end

/-! ## One step -/

/-- What a step does, and what it has checked. -/
inductive Moves (e : DatabaseExecutor) : DatabaseExecutor → Prop where
  | emptyTask {call : CallId} {failure : Failure} (hnew : e.known call = false) :
      Moves e { e with outcomes := (call, .thrown failure) :: e.outcomes }
  | entered {call : CallId} (hnew : e.known call = false) (hholder : e.holder = none) :
      Moves e { e with holder := some (call, .entered) }
  | rejected {call : CallId} (hholder : e.holder = some (call, .entered)) :
      Moves e { e with
        stats := DatabaseExecutor.countRejected e.stats, holder := some (call, .returning false) }
  | counted {call : CallId} (hholder : e.holder = some (call, .entered))
      (haccepting : e.acceptingTasks = true) (hdepth : e.stats.queueDepth < e.maxQueuedTasks) :
      Moves e { e with
        stats := DatabaseExecutor.countAccepted e.stats, holder := some (call, .counted) }
  | posted {call : CallId} {queuedAt : Int} (hholder : e.holder = some (call, .counted)) :
      Moves e { e with
        queue := e.queue ++ [⟨call, queuedAt⟩], holder := some (call, .returning true) }
  | postFailed {call : CallId} (hholder : e.holder = some (call, .counted)) :
      Moves e { e with holder := some (call, .postFailed) }
  | tookBack {call : CallId} (hholder : e.holder = some (call, .postFailed)) :
      Moves e { e with
        stats := DatabaseExecutor.takeBack e.stats, holder := some (call, .rethrowing) }
  | returned {call : CallId} {accepted : Bool} (hholder : e.holder = some (call, .returning accepted)) :
      Moves e { e with holder := none, outcomes := (call, .returned accepted) :: e.outcomes }
  | rethrown {call : CallId} (hholder : e.holder = some (call, .rethrowing)) :
      Moves e { e with holder := none, outcomes := (call, .rethrown) :: e.outcomes }
  | dequeued {worker index : Nat} {handler : Handler} (hw : e.workers[worker]? = some .idle)
      (hq : e.queue[index]? = some handler) :
      Moves e { e with
        queue := e.queue.eraseIdx index, workers := e.workers.set worker (.dequeued handler) }
  | started {worker : Nat} {startedAt : Int} {handler : Handler}
      (hw : e.workers[worker]? = some (.dequeued handler)) :
      Moves e { e with
        stats := DatabaseExecutor.countStarted handler.queuedAt startedAt e.stats
        workers := e.workers.set worker (.started handler startedAt) }
  | called {worker : Nat} {startedAt : Int} {handler : Handler} {failed : Bool}
      (hw : e.workers[worker]? = some (.started handler startedAt)) :
      Moves e { e with
        ran := handler.call :: e.ran, workers := e.workers.set worker (.completed startedAt failed) }
  | completed {worker : Nat} {startedAt completedAt : Int} {failed : Bool}
      (hw : e.workers[worker]? = some (.completed startedAt failed)) :
      Moves e { e with
        stats := DatabaseExecutor.countCompleted startedAt completedAt failed e.stats
        workers := e.workers.set worker .idle }
  | drained {thread : Nat} (hjoined : e.joined = true) :
      Moves e { e with drains := e.drains.insert thread .returned }
  | waits {thread : Nat} (hstopping : e.stopping = true) :
      Moves e { e with drains := e.drains.insert thread .waiting }
  | stops {thread : Nat} (hholder : e.holder = none) (hstopping : e.stopping = false) :
      Moves e { e with
        acceptingTasks := false, stopping := true, drains := e.drains.insert thread .stopping }
  | stoppedAccepting {thread : Nat} (hdrain : e.drains[thread]? = some .stopping) :
      Moves e { e with
        stats := { e.stats with acceptingTasks := false }
        drains := e.drains.insert thread .joining }
  | joined {thread : Nat} (hdrain : e.drains[thread]? = some .joining) (hqueue : e.queue = [])
      (hidle : ∀ worker ∈ e.workers, worker = .idle) :
      Moves e { e with drains := e.drains.insert thread .joined }
  | setJoined {thread : Nat} (hdrain : e.drains[thread]? = some .joined) :
      Moves e { e with joined := true, drains := e.drains.insert thread .returned }

section

variable {workerCount maxQueuedTasks : Nat} {e e' : DatabaseExecutor} {step : ExecutorStep}

theorem moves_of_next (hn : e.next step = some e') : Moves e e' := by
  cases step <;> simp only [DatabaseExecutor.next] at hn
  case tryPost call emptyTask =>
    split at hn
    · cases hn
    rename_i hnew
    split at hn
    · obtain rfl := Option.some.inj hn
      exact .emptyTask (by simpa using hnew)
    split at hn
    · rename_i hholder
      obtain rfl := Option.some.inj hn
      exact .entered (by simpa using hnew) hholder
    · cases hn
  case count =>
    split at hn
    · rename_i call hholder
      split at hn
      · obtain rfl := Option.some.inj hn
        exact .rejected hholder
      · rename_i haccept
        simp only [not_or, ge_iff_le, Int.not_le, not_not] at haccept
        obtain rfl := Option.some.inj hn
        exact .counted hholder haccept.1 haccept.2
    · cases hn
  case post | postFails | compensate =>
    split at hn
    · rename_i call hholder
      obtain rfl := Option.some.inj hn
      first
        | exact .posted hholder
        | exact .postFailed hholder
        | exact .tookBack hholder
    · cases hn
  case leave =>
    split at hn
    · rename_i call result hholder
      obtain rfl := Option.some.inj hn
      exact .returned hholder
    · rename_i call hholder
      obtain rfl := Option.some.inj hn
      exact .rethrown hholder
    · cases hn
  case dequeue worker index =>
    split at hn
    · rename_i handler hw hq
      obtain rfl := Option.some.inj hn
      exact .dequeued hw hq
    · cases hn
  case start | callTask | complete =>
    split at hn
    · rename_i hw
      obtain rfl := Option.some.inj hn
      first
        | exact .started hw
        | exact .called hw
        | exact .completed hw
    · cases hn
  case drainAndStop thread =>
    split at hn
    · cases hn
    rename_i hfree
    simp only [not_or, Bool.not_eq_true, Option.isSome_eq_false_iff, Option.isNone_iff_eq_none] at hfree
    split at hn
    · rename_i hjoined
      obtain rfl := Option.some.inj hn
      exact .drained hjoined
    split at hn
    · rename_i hstopping
      obtain rfl := Option.some.inj hn
      exact .waits hstopping
    · rename_i hstopping
      obtain rfl := Option.some.inj hn
      exact .stops hfree.2 (by simpa using hstopping)
  case wake | stopAccepting | join | setJoined =>
    split at hn
    · rename_i hdrain
      obtain rfl := Option.some.inj hn
      first
        | exact .drained hdrain.2.2
        | exact .stoppedAccepting hdrain
        | exact .joined hdrain.1 hdrain.2.1 hdrain.2.2
        | exact .setJoined hdrain.1
    · cases hn

/-- The sections count what the step does. -/
theorem Counted.moves (h : Counted workerCount maxQueuedTasks e) (hm : Moves e e') :
    Counted workerCount maxQueuedTasks e' := by
  have hqueue := h.queueDepth
  have hactive := h.activeTasks
  have hbalance := h.balance
  have hfailed := h.failedTasks
  have hpeak := h.peak
  have hrejected := h.rejectedTasks
  cases hm with
  | emptyTask hnew =>
    refine { h with rejectedTasks := ?_ }
    simpa [List.countP_cons, isRefused] using hrejected
  | entered hnew hholder | postFailed hholder =>
    rw [hholder] at hqueue hrejected
    exact { h with queueDepth := hqueue, rejectedTasks := hrejected }
  | rejected hholder =>
    rw [hholder] at hqueue hrejected
    refine { h with queueDepth := hqueue, rejectedTasks := ?_ }
    simp only [DatabaseExecutor.countRejected, refusedBy] at hrejected ⊢
    omega
  | counted hholder haccepting hdepth =>
    rw [hholder] at hqueue hrejected
    rw [h.limit] at hdepth
    simp only [countedBy, refusedBy] at hqueue hrejected
    refine { h with queueDepth := ?_, balance := ?_, peak := ?_, rejectedTasks := ?_ } <;>
      simp only [DatabaseExecutor.countAccepted, countedBy, refusedBy]
    · omega
    · omega
    · split <;> omega
    · omega
  | posted hholder =>
    rw [hholder] at hqueue hrejected
    refine { h with queueDepth := ?_, rejectedTasks := hrejected }
    simp only [List.length_append, List.length_singleton, countedBy] at hqueue ⊢
    omega
  | tookBack hholder =>
    rw [hholder] at hqueue hrejected
    simp only [countedBy, refusedBy] at hqueue hrejected
    refine { h with queueDepth := ?_, balance := ?_, peak := ?_, rejectedTasks := ?_ } <;>
      simp only [DatabaseExecutor.takeBack, countedBy, refusedBy] <;> omega
  | @returned call accepted hholder =>
    rw [hholder] at hqueue hrejected
    refine { h with queueDepth := hqueue, rejectedTasks := ?_ }
    cases accepted <;> simp [isRefused, refusedBy] at hrejected ⊢ <;> omega
  | rethrown hholder =>
    rw [hholder] at hqueue hrejected
    refine { h with queueDepth := hqueue, rejectedTasks := ?_ }
    simp [isRefused, refusedBy] at hrejected ⊢
    omega
  | @dequeued worker index handler hw hq =>
    have htaken := countP_set hw (.dequeued handler) isDequeued
    have hbusy := countP_set hw (.dequeued handler) isActive
    have hlength : e.queue.length = (e.queue.eraseIdx index).length + 1 :=
      (perm_of_getElem? hq).length_eq
    simp only [isDequeued, isActive, if_true, Bool.false_eq_true, if_false] at htaken hbusy
    refine { h with workers := (List.length_set ..).trans h.workers, queueDepth := ?_,
                    activeTasks := ?_ } <;> simp only <;> omega
  | @started worker startedAt handler hw =>
    have htaken := countP_set hw (.started handler startedAt) isDequeued
    have hbusy := countP_set hw (.started handler startedAt) isActive
    simp only [isDequeued, isActive, if_true, Bool.false_eq_true, if_false] at htaken hbusy
    refine { h with workers := (List.length_set ..).trans h.workers, queueDepth := ?_,
                    activeTasks := ?_, balance := ?_, peak := ?_ } <;>
      simp only [DatabaseExecutor.countStarted] <;> omega
  | @called worker startedAt handler failed hw =>
    have htaken := countP_set hw (.completed startedAt failed) isDequeued
    have hbusy := countP_set hw (.completed startedAt failed) isActive
    simp only [isDequeued, isActive, if_true, Bool.false_eq_true, if_false] at htaken hbusy
    refine { h with workers := (List.length_set ..).trans h.workers, queueDepth := ?_,
                    activeTasks := ?_ } <;> simp only <;> omega
  | @completed worker startedAt completedAt failed hw =>
    have htaken := countP_set hw .idle isDequeued
    have hbusy := countP_set hw .idle isActive
    simp only [isDequeued, isActive, if_true, Bool.false_eq_true, if_false] at htaken hbusy
    refine { h with workers := (List.length_set ..).trans h.workers, queueDepth := ?_,
                    activeTasks := ?_, balance := ?_, failedTasks := ?_ } <;>
      simp only [DatabaseExecutor.countCompleted]
    · omega
    · omega
    · omega
    · split <;> omega
  | drained | waits | stops | stoppedAccepting | joined | setJoined => exact { h with }

theorem fresh_of_known {call : CallId} (hnew : e.known call = false) :
    call ∉ e.outcomes.map (·.1) ∧ ∀ place, e.holder ≠ some (call, place) := by
  simp only [DatabaseExecutor.known, Bool.or_eq_false_iff, List.any_eq_false, decide_eq_true_eq] at hnew
  refine ⟨?_, ?_⟩
  · intro hmem
    obtain ⟨entry, he, rfl⟩ := List.mem_map.mp hmem
    exact hnew.2 entry he rfl
  · rintro place hholder
    simp [hholder] at hnew

/-- A call goes on inside, and what it has posted stays the same. -/
theorem Tracked.holder (h : Tracked e) {call : CallId} {place place' : PostPlace}
    (hholder : e.holder = some (call, place))
    (hrest : e'.outcomes = e.outcomes ∧ tasks e' = tasks e ∧ e'.holder = some (call, place'))
    (hposted : postedBy (some (call, place')) = postedBy (some (call, place))) : Tracked e' := by
  obtain ⟨houtcomes, htasks, hholder'⟩ := hrest
  refine ⟨houtcomes ▸ h.distinct, ?_, ?_⟩
  · intro other otherPlace ho
    rw [hholder'] at ho
    obtain ⟨rfl, rfl⟩ := Prod.ext_iff.mp (Option.some.inj ho)
    exact houtcomes ▸ h.unfinished _ _ hholder
  · have haccepted : accepted e' = accepted e := by
      rw [accepted, accepted, houtcomes, hholder', hholder, hposted]
    rw [htasks, haccepted]
    exact h.placed

/-- A call comes to its outcome. -/
theorem Tracked.leave (h : Tracked e) {call : CallId} {place : PostPlace} {outcome : PostOutcome}
    (hholder : e.holder = some (call, place))
    (hposted : (if outcome = .returned true then [call] else []) = postedBy (some (call, place))) :
    Tracked { e with holder := none, outcomes := (call, outcome) :: e.outcomes } := by
  refine ⟨List.nodup_cons.mpr ⟨h.unfinished call place hholder, h.distinct⟩, nofun, ?_⟩
  have haccepted : accepted { e with holder := none, outcomes := (call, outcome) :: e.outcomes } =
      postedBy (some (call, place)) ++
        (e.outcomes.filter (·.2 = .returned true)).map (·.1) := by
    rw [← hposted]
    by_cases hreturned : outcome = .returned true <;> simp [accepted, postedBy, hreturned]
  rw [haccepted]
  refine h.placed.trans ?_
  rw [accepted, hholder]
  exact List.perm_append_comm

/-- The tasks of the executor move on, and none is lost or doubled. -/
theorem Tracked.moved (h : Tracked e) (houtcomes : e'.outcomes = e.outcomes)
    (hholder : e'.holder = e.holder) (htasks : (tasks e').Perm (tasks e)) :
    Tracked e' := by
  refine ⟨houtcomes ▸ h.distinct, fun call place hp => ?_, ?_⟩
  · rw [houtcomes]
    exact h.unfinished call place (hholder ▸ hp)
  · rw [accepted, houtcomes, hholder]
    exact htasks.trans h.placed

theorem Tracked.moves (h : Tracked e) (hm : Moves e e') : Tracked e' := by
  cases hm with
  | @emptyTask call failure hnew =>
    obtain ⟨hout, hin⟩ := fresh_of_known hnew
    refine ⟨List.nodup_cons.mpr ⟨hout, h.distinct⟩, ?_, h.placed⟩
    intro other place hp hmem
    rcases List.mem_cons.mp hmem with rfl | hmem
    · exact hin place hp
    · exact h.unfinished other place hp hmem
  | @entered call hnew hholder =>
    obtain ⟨hout, -⟩ := fresh_of_known hnew
    refine ⟨h.distinct, ?_, ?_⟩
    · intro other place hp
      obtain ⟨rfl, -⟩ := Prod.ext_iff.mp (Option.some.inj hp)
      exact hout
    · have htasks := h.placed
      rw [accepted, hholder] at htasks
      exact htasks
  | rejected hholder | counted hholder | postFailed hholder | tookBack hholder =>
    exact h.holder hholder ⟨rfl, rfl, rfl⟩ rfl
  | @posted call queuedAt hholder =>
    refine ⟨h.distinct, ?_, ?_⟩
    · intro other place hp
      obtain ⟨rfl, -⟩ := Prod.ext_iff.mp (Option.some.inj hp)
      exact h.unfinished _ _ hholder
    · have hplaced := h.placed
      simp only [accepted, hholder, postedBy, List.append_nil] at hplaced ⊢
      have hnew : (tasks { e with
          queue := e.queue ++ [⟨call, queuedAt⟩], holder := some (call, .returning true) }).Perm
          (tasks e ++ [call]) := by
        simp only [tasks, List.map_append, List.map_cons, List.map_nil, List.append_assoc]
        refine .append_left _ ?_
        rw [← List.append_assoc (e.workers.filterMap taskOf)]
        exact List.perm_append_comm
      exact hnew.trans (hplaced.append_right [call])
  | @returned call result hholder =>
    refine h.leave hholder ?_
    cases result <;> rfl
  | rethrown hholder => exact h.leave hholder rfl
  | @dequeued worker index handler hw hq =>
    obtain ⟨others, hold, hnew⟩ := filterMap_set hw (.dequeued handler)
    refine h.moved rfl rfl (.append_right _ ?_)
    have hqueue := (perm_of_getElem? hq).map (·.call)
    calc (e.queue.eraseIdx index).map (·.call) ++
          (e.workers.set worker (.dequeued handler)).filterMap taskOf
        ~ (e.queue.eraseIdx index).map (·.call) ++ (handler.call :: others) := hnew.append_left _
      _ ~ handler.call :: (e.queue.eraseIdx index).map (·.call) ++ others := List.perm_middle
      _ ~ e.queue.map (·.call) ++ e.workers.filterMap taskOf := hqueue.symm.append hold.symm
  | @started worker startedAt handler hw =>
    obtain ⟨others, hold, hnew⟩ := filterMap_set hw (.started handler startedAt)
    exact h.moved rfl rfl (.append_right _ (.append_left _ (hnew.trans hold.symm)))
  | @called worker startedAt handler failed hw =>
    obtain ⟨others, hold, hnew⟩ := filterMap_set hw (.completed startedAt failed)
    refine h.moved rfl rfl ?_
    simp only [tasks, List.append_assoc]
    refine .append_left _ ?_
    calc (e.workers.set worker (.completed startedAt failed)).filterMap taskOf ++
          handler.call :: e.ran
        ~ others ++ handler.call :: e.ran := hnew.append_right _
      _ ~ handler.call :: (others ++ e.ran) := List.perm_middle
      _ ~ e.workers.filterMap taskOf ++ e.ran := hold.symm.append_right _
  | @completed worker startedAt completedAt failed hw =>
    obtain ⟨others, hold, hnew⟩ := filterMap_set hw .idle
    exact h.moved rfl rfl (.append_right _ (.append_left _ (hnew.trans hold.symm)))
  | drained | waits | stops | stoppedAccepting | joined | setJoined => exact h.moved rfl rfl (.refl _)

/-- While calls are accepted no thread has begun to stop the executor. -/
theorem Closing.accepting (h : Closing e) (haccepting : e.acceptingTasks = true) :
    e.stopping = false ∧ e.joined = false ∧ ∀ thread : Nat, e.drains[thread]? = none := by
  have hstopping : e.stopping = false := by
    by_contra hstop
    simp [h.stopped (by simpa using hstop)] at haccepting
  refine ⟨hstopping, ?_, fun thread => ?_⟩
  · by_contra hjoined
    simp [(h.joined (by simpa using hjoined)).1] at hstopping
  · cases hdrain : e.drains[thread]? with
    | none => rfl
    | some place => simp [(h.drains thread place hdrain).1] at hstopping

/-- A call goes on inside. -/
theorem Closing.inside (h : Closing e) (haccepting : e.acceptingTasks = true)
    (hrest : e'.stopping = e.stopping ∧ e'.acceptingTasks = e.acceptingTasks ∧
      e'.joined = e.joined ∧ e'.drains = e.drains) : Closing e' := by
  obtain ⟨hstopping, haccept, hjoined, hdrains⟩ := hrest
  obtain ⟨hgoes, hopen, hnone⟩ := h.accepting haccepting
  refine ⟨?_, ?_, ?_, fun _ _ _ _ => haccept.trans haccepting⟩
  · rw [hstopping, hgoes]
    nofun
  · intro thread other ho
    rw [hdrains, hnone] at ho
    cases ho
  · rw [hjoined, hopen]
    nofun

/-- A worker goes on, which it does not in an empty pool. -/
theorem Closing.working (h : Closing e) (hbusy : ¬ Empty e)
    (hrest : e'.stopping = e.stopping ∧ e'.acceptingTasks = e.acceptingTasks ∧
      e'.joined = e.joined ∧ e'.drains = e.drains ∧ e'.holder = e.holder) : Closing e' := by
  obtain ⟨hstopping, haccept, hjoined, hdrains, hholder⟩ := hrest
  refine ⟨?_, ?_, ?_, ?_⟩
  · rw [hstopping, haccept]
    exact h.stopped
  · intro thread place hp
    rw [hdrains] at hp
    obtain ⟨hstop, hempty⟩ := h.drains thread place hp
    exact ⟨hstopping.trans hstop, fun hplace => absurd (hempty hplace) hbusy⟩
  · rw [hjoined]
    exact fun hj => absurd (h.joined hj).2 hbusy
  · rw [hholder, haccept]
    exact h.holder

theorem not_empty {worker : Nat} {place : WorkerPlace} (hw : e.workers[worker]? = some place)
    (hplace : place ≠ .idle) : ¬ Empty e :=
  fun hempty => hplace (hempty.2 place (List.mem_of_getElem? hw))

theorem Closing.moves (h : Closing e) (hm : Moves e e') : Closing e' := by
  cases hm with
  | emptyTask => exact { h with }
  | entered | rejected | tookBack | returned | rethrown => exact { h with holder := by simp }
  | counted hholder haccepting hdepth => exact h.inside haccepting ⟨rfl, rfl, rfl, rfl⟩
  | posted hholder | postFailed hholder =>
    have haccepting := h.holder _ _ hholder (.inl rfl)
    exact h.inside haccepting ⟨rfl, rfl, rfl, rfl⟩
  | dequeued hw hq =>
    refine h.working (fun hempty => ?_) ⟨rfl, rfl, rfl, rfl, rfl⟩
    rw [hempty.1] at hq
    cases hq
  | started hw | called hw | completed hw =>
    exact h.working (not_empty hw nofun) ⟨rfl, rfl, rfl, rfl, rfl⟩
  | drained hjoined =>
    obtain ⟨hstop, hempty⟩ := h.joined hjoined
    exact { h with drains := forall_entries_insert h.drains ⟨hstop, fun _ => hempty⟩ }
  | waits hstopping =>
    exact { h with drains := forall_entries_insert h.drains ⟨hstopping, by simp⟩ }
  | stops hholder hstopping =>
    refine ⟨fun _ => rfl, ?_, ?_, ?_⟩
    · refine forall_entries_insert (fun thread place hp => ?_) ⟨rfl, by simp⟩
      simp [(h.drains thread place hp).1] at hstopping
    · intro hjoined
      simp [(h.joined hjoined).1] at hstopping
    · intro call place hp
      rw [hholder] at hp
      cases hp
  | stoppedAccepting hdrain =>
    have hstop := (h.drains _ _ hdrain).1
    exact { h with drains := forall_entries_insert h.drains ⟨hstop, by simp⟩ }
  | joined hdrain hqueue hidle =>
    have hstop := (h.drains _ _ hdrain).1
    exact { h with drains := forall_entries_insert h.drains ⟨hstop, fun _ => ⟨hqueue, hidle⟩⟩ }
  | setJoined hdrain =>
    obtain ⟨hstop, hempty⟩ := h.drains _ _ hdrain
    have hnow := hempty (.inl rfl)
    exact { h with
      drains := forall_entries_insert h.drains ⟨hstop, fun _ => hnow⟩
      joined := fun _ => ⟨hstop, hnow⟩ }

/-! ## Every run -/

/-- The accounts of an executor at every release of `statsMutex_`, and what they say of the tasks. -/
structure Accounted (workerCount maxQueuedTasks : Nat) (e : DatabaseExecutor) : Prop where
  balance : e.stats.acceptedTasks =
    e.stats.queueDepth + e.stats.activeTasks + e.stats.completedTasks
  failedTasks : e.stats.failedTasks ≤ e.stats.completedTasks
  queueDepth : e.stats.queueDepth ≤ e.stats.peakQueueDepth
  peakQueueDepth : e.stats.peakQueueDepth ≤ maxQueuedTasks
  activeTasks : e.stats.activeTasks ≤ workerCount
  /-- No counter falls below zero. -/
  nonneg : 0 ≤ e.stats.queueDepth ∧ 0 ≤ e.stats.activeTasks ∧ 0 ≤ e.stats.acceptedTasks ∧
    0 ≤ e.stats.rejectedTasks ∧ 0 ≤ e.stats.failedTasks
  /-- Each call that was refused or could not post is counted once. -/
  rejectedTasks : e.stats.rejectedTasks = e.outcomes.countP (isRefused ·.2) + refusedBy e.holder
  refused : ∀ call outcome, (call, outcome) ∈ e.outcomes → isRefused outcome = true → call ∉ e.ran
  /-- Nothing is accepted any more once `DrainAndStop` has reset the flag. -/
  closed : e.acceptingTasks = false → ∀ step e', e.next step = some e' →
    e'.acceptingTasks = false ∧ e'.stats.acceptedTasks = e.stats.acceptedTasks ∧
      ∀ call, (call, PostOutcome.returned true) ∈ e'.outcomes →
        (call, PostOutcome.returned true) ∈ e.outcomes
  /-- Where a call of `DrainAndStop` has returned, each accepted task was called once. -/
  drained : ∀ thread : Nat, e.drains[thread]? = some .returned →
    ∀ call, (call, PostOutcome.returned true) ∈ e.outcomes → e.ran.count call = 1

theorem nodup_accepted (h : Tracked e) : (accepted e).Nodup := by
  have hfinished : ((e.outcomes.filter (·.2 = .returned true)).map (·.1)).Nodup :=
    h.distinct.sublist (List.filter_sublist.map _)
  refine List.nodup_append.mpr ⟨hfinished, ?_, ?_⟩
  · unfold postedBy
    split <;> simp
  · intro call hc other ho heq
    subst heq
    unfold postedBy at ho
    split at ho
    · rename_i holder hholder
      obtain rfl := List.mem_singleton.mp ho
      obtain ⟨entry, he, hcall⟩ := List.mem_map.mp hc
      have hmem := List.mem_map_of_mem (f := Prod.fst) (List.mem_filter.mp he).1
      exact h.unfinished _ _ hholder (hcall ▸ hmem)
    · cases ho

/-- A call has one outcome. -/
theorem outcome_unique (h : Tracked e) {call : CallId} {outcome other : PostOutcome}
    (ho : (call, outcome) ∈ e.outcomes) (ho' : (call, other) ∈ e.outcomes) : outcome = other :=
  (Prod.ext_iff.mp (List.inj_on_of_nodup_map h.distinct ho ho' rfl)).2

theorem refused_not_ran (h : Tracked e) {call : CallId} {outcome : PostOutcome}
    (ho : (call, outcome) ∈ e.outcomes) (hr : isRefused outcome = true) : call ∉ e.ran := by
  intro hran
  have hmem : call ∈ accepted e := h.placed.mem_iff.mp (List.mem_append_right _ hran)
  rcases List.mem_append.mp hmem with hfinished | hposted
  · obtain ⟨entry, he, rfl⟩ := List.mem_map.mp hfinished
    obtain ⟨he, hreturned⟩ := List.mem_filter.mp he
    have hsame := outcome_unique h ho he
    rw [hsame, of_decide_eq_true hreturned] at hr
    cases hr
  · unfold postedBy at hposted
    split at hposted
    · rename_i hholder
      obtain rfl := List.mem_singleton.mp hposted
      exact h.unfinished _ _ hholder (List.mem_map_of_mem (f := Prod.fst) ho)
    · cases hposted

theorem closed_moves (h : Closing e) (hclosed : e.acceptingTasks = false) (hm : Moves e e') :
    e'.acceptingTasks = false ∧ e'.stats.acceptedTasks = e.stats.acceptedTasks ∧
      ∀ call, (call, PostOutcome.returned true) ∈ e'.outcomes →
        (call, PostOutcome.returned true) ∈ e.outcomes := by
  have hinside {call : CallId} {place : PostPlace} (hholder : e.holder = some (call, place))
      (hplace : place = .counted ∨ place = .postFailed ∨ place = .returning true) : False := by
    rw [h.holder call place hholder hplace] at hclosed
    cases hclosed
  cases hm with
  | counted hholder haccepting =>
    rw [haccepting] at hclosed
    cases hclosed
  | posted hholder => exact (hinside hholder (.inl rfl)).elim
  | tookBack hholder => exact (hinside hholder (.inr (.inl rfl))).elim
  | @returned call result hholder =>
    cases result with
    | true => exact (hinside hholder (.inr (.inr rfl))).elim
    | false => exact ⟨hclosed, rfl, by simp⟩
  | emptyTask | rethrown => exact ⟨hclosed, rfl, by simp⟩
  | stops => exact ⟨rfl, rfl, fun _ => id⟩
  | _ => exact ⟨hclosed, rfl, fun _ => id⟩

/-- With the pool empty every accepted task has been called. -/
theorem ran_once (h : Tracked e) (hc : Closing e) {thread : Nat}
    (hreturned : e.drains[thread]? = some .returned) {call : CallId}
    (hcall : (call, PostOutcome.returned true) ∈ e.outcomes) : e.ran.count call = 1 := by
  obtain ⟨hqueue, hidle⟩ := (hc.drains thread _ hreturned).2 (.inr rfl)
  have hworkers : e.workers.filterMap taskOf = [] := by
    refine List.filterMap_eq_nil_iff.mpr fun worker hw => ?_
    rw [hidle worker hw]
    rfl
  have hplaced := h.placed
  simp only [tasks, hqueue, hworkers, List.map_nil, List.nil_append] at hplaced
  have hmem : call ∈ accepted e := by
    refine List.mem_append_left _ (List.mem_map.mpr ⟨_, List.mem_filter.mpr ⟨hcall, ?_⟩, rfl⟩)
    exact decide_eq_true rfl
  rw [hplaced.count_eq]
  exact List.count_eq_one_of_mem (nodup_accepted h) hmem

/-- In every interleaving of callers, workers and threads that stop the executor. -/
theorem accounted_of_run {start : DatabaseExecutor}
    (hnew : DatabaseExecutor.new workerCount maxQueuedTasks = .ok start)
    (h : Reachable DatabaseExecutor.next start e) : Accounted workerCount maxQueuedTasks e := by
  have hstart : start = { maxQueuedTasks, workers := List.replicate workerCount .idle } := by
    unfold DatabaseExecutor.new at hnew
    split at hnew
    · cases hnew
    split at hnew
    · cases hnew
    · exact (Except.ok.inj hnew).symm
  have hinvariant : Counted workerCount maxQueuedTasks e ∧ Tracked e ∧ Closing e := by
    refine reachable_invariant
      (fun e => Counted workerCount maxQueuedTasks e ∧ Tracked e ∧ Closing e) ?_ ?_ h
    · rintro before step after ⟨hcounted, htracked, hclosing⟩ hn
      have hm := moves_of_next hn
      exact ⟨hcounted.moves hm, htracked.moves hm, hclosing.moves hm⟩
    · subst hstart
      refine ⟨?_, ?_, ?_⟩
      · constructor <;> simp [List.countP_replicate, isDequeued, isActive, countedBy, refusedBy]
      · constructor <;> simp [tasks, accepted, postedBy, taskOf, List.filterMap_replicate]
      · constructor <;> simp
  obtain ⟨hcounted, htracked, hclosing⟩ := hinvariant
  have hqueue := hcounted.queueDepth
  have hactive := hcounted.activeTasks
  have hbalance := hcounted.balance
  have hfailed := hcounted.failedTasks
  have hworkers : e.workers.countP isActive ≤ workerCount :=
    hcounted.workers ▸ List.countP_le_length
  have hrejected := hcounted.rejectedTasks
  exact
    { balance := hbalance
      failedTasks := hfailed.2
      queueDepth := hcounted.peak.1
      peakQueueDepth := hcounted.peak.2
      activeTasks := by omega
      nonneg := by omega
      rejectedTasks := hrejected
      refused := fun call outcome => refused_not_ran htracked
      closed := fun hclosed step e' hn => closed_moves hclosing hclosed (moves_of_next hn)
      drained := fun thread hreturned call => ran_once htracked hclosing hreturned }

end

/-- One worker is busy with the first task while a second one waits and a third is refused; then
the executor is stopped and refuses a fourth. -/
def saturatedSteps : List ExecutorStep :=
  [.tryPost 10 false, .count, .post 0, .leave, .dequeue 0 0, .start 0 1,
    .tryPost 11 false, .count, .post 2, .leave, .tryPost 12 false, .count, .leave,
    .drainAndStop 1, .stopAccepting 1, .drainAndStop 2, .callTask 0 false, .complete 0 5,
    .dequeue 0 0, .start 0 6, .callTask 0 true, .complete 0 7, .join 1, .setJoined 1, .wake 2,
    .tryPost 13 false, .count, .leave]

theorem accounted_of_run_saturated :
    ∃ start e, DatabaseExecutor.new 1 1 = .ok start ∧
      run DatabaseExecutor.next start saturatedSteps = some e ∧
      (e.stats.rejectedTasks = 2 ∧ e.stats.failedTasks = 1 ∧ e.ran = [11, 10]) ∧
      Accounted 1 1 e := by
  have hlast : ((run DatabaseExecutor.next { maxQueuedTasks := 1, workers := [.idle] }
      saturatedSteps).map fun e => (e.stats.rejectedTasks, e.stats.failedTasks, e.ran)) =
        some (2, 1, [11, 10]) := by decide +kernel
  obtain ⟨e, hr, hsame⟩ := Option.map_eq_some_iff.mp hlast
  simp only [Prod.mk.injEq] at hsame
  exact ⟨_, e, rfl, hr, hsame, accounted_of_run rfl ⟨saturatedSteps, hr⟩⟩

end DnfServer.Database
