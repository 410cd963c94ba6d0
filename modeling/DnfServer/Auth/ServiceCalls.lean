import DnfServer.Library.Runs
import DnfServer.Model.ServiceCalls

/-!
# One completion for each call

Each call that has been made is completed once or has one task that still has to complete it. The answers
that a task has had so far decide what its work does next, so a success comes from the answers of a work
that has succeeded. A permit belongs to the task of its call until the task is destroyed.
-/

namespace DnfServer.Auth

open DnfServer.Library Services
set_option autoImplicit false

/-! ## Results -/

def ServiceResult.isSuccess : ServiceResult → Bool
  | .authentication result => result.status = .success
  | .login result => result.status = .success
  | .characterList result => result.status = .success
  | .characterSelection result => result.status = .success

/-- No account id, profile, character list or ticket. -/
def ServiceResult.Bare : ServiceResult → Prop
  | .authentication result => result.accountId = none
  | .login result => result.profile = none
  | .characterList result => result.characters = []
  | .characterSelection result => result.authTicket = none

def summary (profile : PlayerProfile) : CharacterSummary := ⟨profile.playerId, profile.name, profile.level⟩

/-- The answers for an account with these players. -/
def listAnswers (account : Account) (playerIds : List PlayerId) (profiles : List PlayerProfile) :
    List ServiceAnswer :=
  .account (.ok (some account)) :: .playerIds (.ok playerIds) ::
    profiles.map fun profile => .profile (.ok (some profile))

/-- The answers of a work that succeeds, and the result with their value. -/
inductive Succeeds : List ServiceAnswer → ServiceResult → Prop where
  | authentication (account : Account) :
    Succeeds [.account (.ok (some account)), .passwordMatches (.ok true)]
      (.authentication ⟨.success, some account.accountId⟩)
  | login (authContext : AuthContext) (profile : PlayerProfile) :
    Succeeds [.authContext (.ok (some authContext)), .profile (.ok (some profile))]
      (.login ⟨.success, some authContext, some profile⟩)
  | characterList (account : Account) (playerIds : List PlayerId) (profiles : List PlayerProfile)
    (hlength : profiles.length = playerIds.length) :
    Succeeds (listAnswers account playerIds profiles) (.characterList ⟨.success, profiles.map summary⟩)
  | characterSelection (authTicket : IssuedAuthTicket) :
    Succeeds [.authTicket (.ok (some authTicket))] (.characterSelection ⟨.success, some authTicket⟩)

/-- What a result says about the answers it comes from. -/
structure Justified (answers : List ServiceAnswer) (result : ServiceResult) : Prop where
  success : result.isSuccess = true → Succeeds answers result
  failure : result.isSuccess = false → result.Bare

theorem justified_of_failure {result : ServiceResult} (answers : List ServiceAnswer)
    (hfailure : result.isSuccess = false) (hbare : result.Bare) : Justified answers result := by
  refine ⟨fun hsuccess => ?_, fun _ => hbare⟩
  rw [hfailure] at hsuccess
  cases hsuccess

/-! ## The answers decide the work -/

/-- The answers after which the work is at this call. -/
inductive Reached : List ServiceAnswer → ServiceWork → Prop where
  | findAccountByLoginId (loginId : String) (password : Bytes) (dummyHash : String) :
    Reached [] (.findAccountByLoginId loginId password dummyHash)
  | verifyPassword (account : Option Account) (password : Bytes) (encodedHash : String) :
    Reached [.account (.ok account)] (.verifyPassword account password encodedHash)
  | verifyTicket (ticket : AuthTicket) : Reached [] (.verifyTicket ticket)
  | findProfile (authContext : AuthContext) :
    Reached [.authContext (.ok (some authContext))] (.findProfile authContext)
  | findAccount (accountId : AccountId) : Reached [] (.findAccount accountId)
  | findPlayerIds (account : Account) (accountId : AccountId) :
    Reached [.account (.ok (some account))] (.findPlayerIds accountId)
  | findPlayer (account : Account) (playerIds : List PlayerId) (profiles : List PlayerProfile)
    (playerId : PlayerId) (rest : List PlayerId)
    (hlength : playerIds.length = profiles.length + 1 + rest.length) :
    Reached (listAnswers account playerIds profiles) (.findPlayer playerId rest (profiles.map summary))
  | issue (context : AuthContext) : Reached [] (.issue context)

/-- A progress fits the answers. -/
def Goes (answers : List ServiceAnswer) : ServiceProgress → Prop
  | .asks work => Reached answers work
  | .posts result => Justified answers result

theorem goes_of_failure {result : ServiceResult} (answers : List ServiceAnswer)
    (hfailure : result.isSuccess = false) (hbare : result.Bare) : Goes answers (.posts result) :=
  justified_of_failure answers hfailure hbare

theorem goes_of_success {result : ServiceResult} {answers : List ServiceAnswer}
    (hsuccess : result.isSuccess = true) (h : Succeeds answers result) : Goes answers (.posts result) := by
  refine ⟨fun _ => h, fun hfailure => ?_⟩
  rw [hsuccess] at hfailure
  cases hfailure

theorem goes_loadNext (account : Account) (playerIds : List PlayerId) (profiles : List PlayerProfile)
    (rest : List PlayerId) (hlength : playerIds.length = profiles.length + rest.length) :
    Goes (listAnswers account playerIds profiles)
      (CharacterListService.loadNext (profiles.map summary) rest) := by
  cases rest with
  | nil => exact goes_of_success rfl (.characterList account playerIds profiles hlength.symm)
  | cons playerId rest =>
    refine Reached.findPlayer account playerIds profiles playerId rest ?_
    rw [List.length_cons] at hlength
    omega

theorem Reached.answered {answers : List ServiceAnswer} {work : ServiceWork} {answer : ServiceAnswer}
    {progress : ServiceProgress} (h : Reached answers work) (ha : work.answered answer = some progress) :
    Goes (answers ++ [answer]) progress := by
  cases h with
  | findAccountByLoginId loginId password dummyHash =>
    cases answer with
    | account answer =>
      obtain rfl := Option.some.inj ha
      cases answer with
      | error failure => exact goes_of_failure _ rfl rfl
      | ok account => exact Reached.verifyPassword account password _
    | _ => cases ha
  | verifyPassword account password encodedHash =>
    cases answer with
    | passwordMatches answer =>
      obtain rfl := Option.some.inj ha
      cases answer with
      | error failure => exact goes_of_failure _ rfl rfl
      | ok passwordMatches =>
        cases account with
        | none => exact goes_of_failure _ rfl rfl
        | some account =>
          cases passwordMatches with
          | false => exact goes_of_failure _ rfl rfl
          | true => exact goes_of_success rfl (.authentication account)
    | _ => cases ha
  | verifyTicket ticket =>
    cases answer with
    | authContext answer =>
      cases answer with
      | error failure =>
        obtain rfl := Option.some.inj ha
        exact goes_of_failure _ rfl rfl
      | ok found =>
        cases found with
        | none =>
          obtain rfl := Option.some.inj ha
          exact goes_of_failure _ rfl rfl
        | some authContext =>
          obtain rfl := Option.some.inj ha
          exact Reached.findProfile authContext
    | _ => cases ha
  | findProfile authContext =>
    cases answer with
    | profile answer =>
      cases answer with
      | error failure =>
        obtain rfl := Option.some.inj ha
        exact goes_of_failure _ rfl rfl
      | ok found =>
        cases found with
        | none =>
          obtain rfl := Option.some.inj ha
          exact goes_of_failure _ rfl rfl
        | some profile =>
          obtain rfl := Option.some.inj ha
          exact goes_of_success rfl (.login authContext profile)
    | _ => cases ha
  | findAccount accountId =>
    cases answer with
    | account answer =>
      obtain rfl := Option.some.inj ha
      cases answer with
      | error failure => exact goes_of_failure _ rfl rfl
      | ok found =>
        cases found with
        | none => exact goes_of_failure _ rfl rfl
        | some account => exact Reached.findPlayerIds account accountId
    | _ => cases ha
  | findPlayerIds account accountId =>
    cases answer with
    | playerIds answer =>
      obtain rfl := Option.some.inj ha
      cases answer with
      | error failure => exact goes_of_failure _ rfl rfl
      | ok playerIds => exact goes_loadNext account playerIds [] playerIds (Nat.zero_add _).symm
    | _ => cases ha
  | findPlayer account playerIds profiles playerId rest hlength =>
    cases answer with
    | profile answer =>
      obtain rfl := Option.some.inj ha
      cases answer with
      | error failure => exact goes_of_failure _ rfl rfl
      | ok found =>
        cases found with
        | none => exact goes_of_failure _ rfl rfl
        | some profile =>
          have hnext := goes_loadNext account playerIds (profiles ++ [profile]) rest (by
            rw [hlength, List.length_append, List.length_singleton])
          rw [List.map_append, listAnswers, List.map_append] at hnext
          exact hnext
    | _ => cases ha
  | issue context =>
    cases answer with
    | authTicket answer =>
      obtain rfl := Option.some.inj ha
      cases answer with
      | error failure => exact goes_of_failure _ rfl rfl
      | ok found =>
        cases found with
        | none => exact goes_of_failure _ rfl rfl
        | some authTicket => exact goes_of_success rfl (.characterSelection authTicket)
    | _ => cases ha

/-- How far a work is from its end: the calls still to come, then the players of the loop. -/
def remaining : ServiceWork → Nat × Nat
  | .findAccountByLoginId _ _ _ => (1, 0)
  | .verifyPassword _ _ _ => (0, 0)
  | .verifyTicket _ => (1, 0)
  | .findProfile _ => (0, 0)
  | .findAccount _ => (2, 0)
  | .findPlayerIds _ => (1, 0)
  | .findPlayer _ rest _ => (0, rest.length)
  | .issue _ => (0, 0)

theorem remaining_loadNext {characters : List CharacterSummary} {playerIds : List PlayerId}
    {work : ServiceWork} (h : CharacterListService.loadNext characters playerIds = .asks work) :
    (remaining work).1 = 0 ∧ (remaining work).2 + 1 = playerIds.length := by
  cases playerIds with
  | nil => cases h
  | cons playerId rest =>
    cases h
    exact ⟨rfl, rfl⟩

theorem remaining_lt {before after : ServiceWork} {answer : ServiceAnswer}
    (h : before.answered answer = some (.asks after)) :
    Prod.Lex (· < ·) (· < ·) (remaining after) (remaining before) := by
  rw [Prod.lex_def]
  cases before with
  | findAccountByLoginId loginId password dummyHash =>
    cases answer with
    | account answer =>
      have hprogress := Option.some.inj h
      cases answer with
      | error failure => cases hprogress
      | ok account =>
        cases hprogress
        exact .inl Nat.zero_lt_one
    | _ => cases h
  | verifyPassword account password encodedHash =>
    cases answer with
    | passwordMatches answer =>
      have hprogress := Option.some.inj h
      cases answer with
      | error failure => cases hprogress
      | ok passwordMatches => cases account <;> cases passwordMatches <;> cases hprogress
    | _ => cases h
  | verifyTicket ticket =>
    cases answer with
    | authContext answer =>
      cases answer with
      | error failure => cases h
      | ok found =>
        cases found with
        | none => cases h
        | some authContext =>
          cases h
          exact .inl Nat.zero_lt_one
    | _ => cases h
  | findProfile authContext =>
    cases answer with
    | profile answer =>
      cases answer with
      | error failure => cases h
      | ok found => cases found <;> cases h
    | _ => cases h
  | findAccount accountId =>
    cases answer with
    | account answer =>
      have hprogress := Option.some.inj h
      cases answer with
      | error failure => cases hprogress
      | ok found =>
        cases found with
        | none => cases hprogress
        | some account =>
          cases hprogress
          exact .inl Nat.one_lt_two
    | _ => cases h
  | findPlayerIds accountId =>
    cases answer with
    | playerIds answer =>
      have hprogress := Option.some.inj h
      cases answer with
      | error failure => cases hprogress
      | ok playerIds => exact .inl ((remaining_loadNext hprogress).1 ▸ Nat.zero_lt_one)
    | _ => cases h
  | findPlayer playerId rest characters =>
    cases answer with
    | profile answer =>
      have hprogress := Option.some.inj h
      cases answer with
      | error failure => cases hprogress
      | ok found =>
        cases found with
        | none => cases hprogress
        | some profile =>
          obtain ⟨hcalls, hplayers⟩ := remaining_loadNext hprogress
          exact .inr ⟨hcalls, Nat.lt_of_succ_le (Nat.le_of_eq hplayers)⟩
    | _ => cases h
  | issue context =>
    cases answer with
    | authTicket answer =>
      have hprogress := Option.some.inj h
      cases answer with
      | error failure => cases hprogress
      | ok found => cases found <;> cases hprogress
    | _ => cases h

/-- Whatever the answers are, the work ends. -/
theorem asks_wellFounded : WellFounded fun after before : ServiceWork =>
    ∃ answer, before.answered answer = some (.asks after) := by
  refine Subrelation.wf ?_ (InvImage.wf remaining (Prod.lex Nat.lt_wfRel Nat.lt_wfRel).wf)
  intro after before hasks
  obtain ⟨answer, h⟩ := hasks
  exact remaining_lt h

/-! ## Permits -/

/-- A limiter that has given out this permit, or none. -/
structure Granted (before : LoginAttemptLimiter) (permit : Option Nat) (after : LoginAttemptLimiter) :
    Prop where
  accepted : after.stats.acceptedAttempts = before.stats.acceptedAttempts + permit.toList.length
  jobs : after.stats.concurrentPasswordJobs = before.stats.concurrentPasswordJobs + permit.toList.length
  numbered : ∀ number, permit = some number → number = before.stats.acceptedAttempts

theorem granted_refl (limiter : LoginAttemptLimiter) : Granted limiter none limiter :=
  ⟨rfl, rfl, fun _ h => by cases h⟩

theorem acquirePermit_granted (ip account : Bytes) (now : Int) (needsIpEntry needsAccountEntry : Bool)
    (limiter : LoginAttemptLimiter) :
    let out := limiter.acquirePermit ip account now needsIpEntry needsAccountEntry
    Granted limiter out.1.permit out.2 ∧ (out.1.permit.isSome ↔ out.1.status = .accepted) := by
  unfold LoginAttemptLimiter.acquirePermit
  dsimp only
  split
  · exact ⟨⟨rfl, rfl, fun _ h => by cases h⟩, iff_of_false Bool.false_ne_true (fun h => by cases h)⟩
  split
  · exact ⟨⟨rfl, rfl, fun _ h => by cases h⟩, iff_of_false Bool.false_ne_true (fun h => by cases h)⟩
  · exact ⟨⟨rfl, rfl, fun _ h => (Option.some.inj h).symm⟩, iff_of_true rfl rfl⟩

theorem tryAcquire_granted (clientAddress accountLoginId : Bytes) (now : Int)
    (limiter : LoginAttemptLimiter) :
    let out := limiter.tryAcquire clientAddress accountLoginId now
    Granted limiter out.1.permit out.2 ∧ (out.1.permit.isSome ↔ out.1.status = .accepted) := by
  unfold LoginAttemptLimiter.tryAcquire
  dsimp only
  split
  · exact ⟨⟨rfl, rfl, fun _ h => by cases h⟩, iff_of_false Bool.false_ne_true (fun h => by cases h)⟩
  split
  · exact ⟨⟨rfl, rfl, fun _ h => by cases h⟩, iff_of_false Bool.false_ne_true (fun h => by cases h)⟩
  · obtain ⟨hgranted, hstatus⟩ := acquirePermit_granted _ _ _ _ _ _
    exact ⟨⟨hgranted.accepted, hgranted.jobs, hgranted.numbered⟩, hstatus⟩

/-! ## Steps -/

def acquisition (task : ServiceTask) : List ServiceEvent :=
  (task.permit.map (ServiceEvent.acquired task.call)).toList

def release (task : ServiceTask) : List ServiceEvent := (task.permit.map ServiceEvent.released).toList

/-- The limiter after the destructor of a task. -/
def afterTask (task : ServiceTask) (limiter : LoginAttemptLimiter) : LoginAttemptLimiter :=
  if task.permit.isSome then limiter.releasePermit else limiter

/-- A task that has just been made. -/
structure NewTask (s : Services) (task : ServiceTask) (limiter : LoginAttemptLimiter) : Prop where
  fresh : task.call ∉ s.calls
  handler : task.completionHandler = some task.call
  reached : ∃ work, task.work = some work ∧ Reached [] work
  granted : Granted s.limiter task.permit limiter

/-- What a step can do. -/
inductive Moves (s : Services) : Services → Prop where
  | thrown : Moves s s
  | rejected (call : CallId) (limiter : LoginAttemptLimiter) (result : ServiceResult)
    (hfresh : call ∉ s.calls) (hgranted : Granted s.limiter none limiter)
    (hfailure : result.isSuccess = false) (hbare : result.Bare) :
    Moves s { s with
      limiter, calls := call :: s.calls, events := s.events ++ [.posted (some call) result] }
  | queued (task : ServiceTask) (limiter : LoginAttemptLimiter) (hnew : NewTask s task limiter) :
    Moves s { s with
      limiter
      calls := task.call :: s.calls
      tasks := s.tasks ++ [task]
      events := s.events ++ acquisition task }
  | refused (task : ServiceTask) (limiter : LoginAttemptLimiter) (result : ServiceResult)
    (hnew : NewTask s task limiter) (hfailure : result.isSuccess = false) (hbare : result.Bare) :
    Moves s { s with
      limiter := afterTask task limiter
      calls := task.call :: s.calls
      events := s.events ++
        (acquisition task ++ .refused task.call :: release task ++ [.posted (some task.call) result]) }
  | asks (task : ServiceTask) (rest tasks : List ServiceTask) (before after : ServiceWork)
    (answer : ServiceAnswer) (hbefore : s.tasks.Perm (task :: rest)) (hwork : task.work = some before)
    (hanswered : before.answered answer = some (.asks after))
    (hafter : tasks.Perm ({ task with work := some after } :: rest)) :
    Moves s { s with tasks, events := s.events ++ [.answered task.call answer] }
  | posts (task : ServiceTask) (rest tasks : List ServiceTask) (before : ServiceWork)
    (answer : ServiceAnswer) (result : ServiceResult) (hbefore : s.tasks.Perm (task :: rest))
    (hwork : task.work = some before) (hanswered : before.answered answer = some (.posts result))
    (hafter : tasks.Perm ({ task with completionHandler := none, work := none } :: rest)) :
    Moves s { s with
      tasks
      events := s.events ++ [.answered task.call answer, .posted task.completionHandler result] }
  | destroyed (task : ServiceTask) (rest : List ServiceTask) (hbefore : s.tasks.Perm (task :: rest))
    (hwork : task.work = none) :
    Moves s { s with
      limiter := afterTask task s.limiter, tasks := rest, events := s.events ++ release task }

variable {s t : Services}

/-- What destroying a task does. -/
theorem destroyTask_eq (task : ServiceTask) (s : Services) :
    s.destroyTask task = { s with
      limiter := afterTask task s.limiter, events := s.events ++ release task } := by
  unfold Services.destroyTask afterTask release
  cases task.permit with
  | none =>
    rw [Option.map_none, Option.toList_none, List.append_nil]
    rfl
  | some permit => rfl

theorem moves_tryPost {task : ServiceTask} {limiter : LoginAttemptLimiter} (queued : Bool)
    {busy : ServiceResult} (hnew : NewTask s task limiter) (hfailure : busy.isSuccess = false)
    (hbare : busy.Bare) :
    Moves s ({ s with
      limiter
      calls := task.call :: s.calls
      events := s.events ++ acquisition task }.tryPost task queued busy) := by
  unfold Services.tryPost
  split
  · exact .queued task limiter hnew
  · have hmoves := Moves.refused task limiter busy hnew hfailure hbare
    rw [destroyTask_eq, hnew.handler]
    simp only [Services.postCompletion, Services.note, List.append_assoc, List.cons_append] at hmoves ⊢
    exact hmoves

theorem moves_perform {call : CallId} (queued : Bool) (request : ServiceCall) (hfresh : call ∉ s.calls) :
    Moves s ({ s with calls := call :: s.calls }.perform call queued request) := by
  have hnew (task : ServiceTask) (hcall : task.call = call) (hhandler : task.completionHandler = some call)
      (hpermit : task.permit = none) (hwork : ∃ work, task.work = some work ∧ Reached [] work) :
      NewTask s task s.limiter :=
    ⟨hcall ▸ hfresh, hcall ▸ hhandler, hwork, hpermit ▸ granted_refl s.limiter⟩
  have hplain (task : ServiceTask) (busy : ServiceResult) (hcall : task.call = call)
      (hpermit : task.permit = none) (hm : Moves s ({ s with
        calls := task.call :: s.calls, events := s.events ++ acquisition task }.tryPost task queued busy)) :
      Moves s ({ s with calls := call :: s.calls }.tryPost task queued busy) := by
    rw [acquisition, hpermit, hcall, Option.map_none, Option.toList_none, List.append_nil] at hm
    exact hm
  cases request with
  | authenticate clientAddress loginId password now =>
    rw [Services.perform, Services.authenticate]
    split
    · exact .rejected call s.limiter _ hfresh (granted_refl _) rfl rfl
    · obtain ⟨hgranted, hstatus⟩ :=
        tryAcquire_granted clientAddress (ascii loginId.toList) now s.limiter
      dsimp only
      generalize s.limiter.tryAcquire clientAddress (ascii loginId.toList) now = out at hgranted hstatus
      obtain ⟨⟨status, permit⟩, limiter⟩ := out
      dsimp only at hgranted hstatus ⊢
      cases status with
      | rateLimited =>
        obtain rfl : permit = none := by
          cases permit with
          | none => rfl
          | some number => exact absurd (hstatus.mp rfl) (by decide)
        exact .rejected call limiter _ hfresh hgranted rfl rfl
      | serviceBusy =>
        obtain rfl : permit = none := by
          cases permit with
          | none => rfl
          | some number => exact absurd (hstatus.mp rfl) (by decide)
        exact .rejected call limiter _ hfresh hgranted rfl rfl
      | accepted =>
        obtain ⟨number, rfl⟩ := Option.isSome_iff_exists.mp (hstatus.mpr rfl)
        let task : ServiceTask :=
          { call
            completionHandler := some call
            permit := some number
            work := some (.findAccountByLoginId loginId password s.dummyEncodedPasswordHash) }
        have hnewTask : NewTask s task limiter :=
          ⟨hfresh, rfl, ⟨_, rfl, .findAccountByLoginId _ _ _⟩, hgranted⟩
        exact moves_tryPost queued hnewTask rfl rfl
  | login ticket =>
    refine hplain _ _ rfl rfl (moves_tryPost queued (hnew _ rfl rfl rfl ?_) rfl rfl)
    exact ⟨_, rfl, .verifyTicket ticket⟩
  | loadCharacters accountId =>
    rw [Services.perform, Services.loadCharacters]
    split
    · exact .rejected call s.limiter _ hfresh (granted_refl _) rfl rfl
    · refine hplain _ _ rfl rfl (moves_tryPost queued (hnew _ rfl rfl rfl ?_) rfl rfl)
      exact ⟨_, rfl, .findAccount accountId⟩
  | selectCharacter accountId playerId =>
    rw [Services.perform, Services.selectCharacter]
    split
    · exact .rejected call s.limiter _ hfresh (granted_refl _) rfl rfl
    · refine hplain _ _ rfl rfl (moves_tryPost queued (hnew _ rfl rfl rfl ?_) rfl rfl)
      exact ⟨_, rfl, .issue _⟩

theorem moves_of_next {step : ServiceStep} (h : s.next step = some t) : Moves s t := by
  cases step with
  | call call emptyHandler request queued =>
    obtain ⟨hfresh, h⟩ := Option.ite_none_left_eq_some.mp h
    split at h
    · obtain rfl := Option.some.inj h
      exact .thrown
    · obtain rfl := Option.some.inj h
      exact moves_perform queued request hfresh
  | answer index answer =>
    simp only [Services.next, Option.bind_eq_bind, Option.bind_eq_some_iff] at h
    obtain ⟨task, htask, work, hwork, progress, hprogress, h⟩ := h
    obtain rfl := Option.some.inj h
    cases progress with
    | asks after => exact .asks task _ _ work after answer (perm_of_getElem? htask) hwork hprogress (perm_set htask _)
    | posts result =>
      have hmoves := Moves.posts task _ _ work answer result (perm_of_getElem? htask) hwork hprogress
        (perm_set htask _)
      simp only [Services.proceed, Services.note, Services.postCompletion, List.append_assoc,
        List.singleton_append]
      exact hmoves
  | destroy index =>
    simp only [Services.next, Option.bind_eq_bind, Option.bind_eq_some_iff] at h
    obtain ⟨task, htask, h⟩ := h
    obtain ⟨hwork, h⟩ := Option.ite_none_right_eq_some.mp h
    obtain rfl := Option.some.inj h
    rw [destroyTask_eq]
    exact .destroyed task _ (perm_of_getElem? htask) (Option.isNone_iff_eq_none.mp hwork)

/-! ## What a call has come to -/

def answerTo (call : CallId) : ServiceEvent → Option ServiceAnswer
  | .answered other answer => if other = call then some answer else none
  | _ => none

def resultTo (call : CallId) : ServiceEvent → Option ServiceResult
  | .posted handler result => if handler = some call then some result else none
  | _ => none

def answers (call : CallId) (events : List ServiceEvent) : List ServiceAnswer :=
  events.filterMap (answerTo call)

/-- The results that are posted with the handler of the call. -/
def completions (call : CallId) (events : List ServiceEvent) : List ServiceResult :=
  events.filterMap (resultTo call)

/-- The tasks that still have to complete the call. -/
def pending (call : CallId) (tasks : List ServiceTask) : Nat :=
  tasks.countP fun task => task.call = call ∧ task.work.isSome

theorem answers_append (call : CallId) (events later : List ServiceEvent) :
    answers call (events ++ later) = answers call events ++ answers call later :=
  List.filterMap_append

theorem completions_append (call : CallId) (events later : List ServiceEvent) :
    completions call (events ++ later) = completions call events ++ completions call later :=
  List.filterMap_append

@[simp] theorem answers_acquisition (call : CallId) (task : ServiceTask) :
    answers call (acquisition task) = [] := by
  unfold acquisition
  cases task.permit <;> rfl

@[simp] theorem completions_acquisition (call : CallId) (task : ServiceTask) :
    completions call (acquisition task) = [] := by
  unfold acquisition
  cases task.permit <;> rfl

@[simp] theorem answers_release (call : CallId) (task : ServiceTask) : answers call (release task) = [] := by
  unfold release
  cases task.permit <;> rfl

@[simp] theorem completions_release (call : CallId) (task : ServiceTask) :
    completions call (release task) = [] := by
  unfold release
  cases task.permit <;> rfl

theorem completions_posted (call other : CallId) (result : ServiceResult) :
    completions call [.posted (some other) result] = if other = call then [result] else [] := by
  unfold completions resultTo
  by_cases hother : other = call
  · simp [hother]
  · simp [hother]

theorem answers_answered (call other : CallId) (answer : ServiceAnswer) :
    answers call [.answered other answer] = if other = call then [answer] else [] := by
  unfold answers answerTo
  by_cases hother : other = call
  · simp [hother]
  · simp [hother]

theorem pending_eq_zero {call : CallId} {tasks : List ServiceTask} (h : ∀ task ∈ tasks, task.call ≠ call) :
    pending call tasks = 0 := by
  refine List.countP_eq_zero.mpr ?_
  intro task htask hpending
  exact h task htask (of_decide_eq_true hpending).1

theorem pending_cons (call : CallId) (task : ServiceTask) (tasks : List ServiceTask) :
    pending call (task :: tasks) =
      pending call tasks + if task.call = call ∧ task.work.isSome then 1 else 0 := by
  unfold pending
  rw [List.countP_cons]
  simp only [decide_eq_true_eq]

/-! ## One completion -/

structure Tracked (s : Services) : Prop where
  fresh : ∀ call, call ∉ s.calls →
    answers call s.events = [] ∧ completions call s.events = [] ∧ ∀ task ∈ s.tasks, task.call ≠ call
  nodup : (s.tasks.map (·.call)).Nodup
  handler : ∀ task ∈ s.tasks, task.completionHandler = task.work.map fun _ => task.call
  once : ∀ call ∈ s.calls, (completions call s.events).length + pending call s.tasks = 1
  known : ∀ handler result, .posted handler result ∈ s.events → ∃ call ∈ s.calls, handler = some call
  reached : ∀ task ∈ s.tasks, ∀ work, task.work = some work → Reached (answers task.call s.events) work
  justified : ∀ call, ∀ result ∈ completions call s.events, Justified (answers call s.events) result

/-- A new call, with what it leaves: events without answers, and a task or a result. -/
theorem Tracked.added (h : Tracked s) {call : CallId} (hfresh : call ∉ s.calls)
    (limiter : LoginAttemptLimiter) {added : List ServiceTask} {later : List ServiceEvent}
    (hanswers : ∀ other, answers other later = [])
    (hcompletions : ∀ other, other ≠ call → completions other later = [])
    (hposted : ∀ handler result, .posted handler result ∈ later → handler = some call)
    (honce : (completions call later).length + pending call added = 1)
    (hjustified : ∀ result ∈ completions call later, Justified [] result)
    (hadded : ∀ task ∈ added, task.call = call ∧ task.completionHandler = task.work.map (fun _ => task.call) ∧
      ∀ work, task.work = some work → Reached [] work)
    (hnodup : (added.map (·.call)).Nodup) :
    Tracked { s with
      limiter, calls := call :: s.calls, tasks := s.tasks ++ added, events := s.events ++ later } := by
  obtain ⟨hnoAnswers, hnoCompletions, hnoTasks⟩ := h.fresh call hfresh
  have hsame (other : CallId) : answers other (s.events ++ later) = answers other s.events := by
    rw [answers_append, hanswers, List.append_nil]
  have hpending (other : CallId) : pending other (s.tasks ++ added) =
      pending other s.tasks + pending other added := List.countP_append
  constructor
  · intro other hother
    obtain ⟨hne, hold⟩ := not_or.mp (mt List.mem_cons.mpr hother)
    obtain ⟨hnone, hnone', htasks⟩ := h.fresh other hold
    refine ⟨(hsame other).trans hnone, ?_, ?_⟩
    · rw [completions_append, hnone', hcompletions other hne]
      rfl
    · intro task htask
      rcases List.mem_append.mp htask with htask | htask
      · exact htasks task htask
      · exact fun heq => hne (heq.symm.trans (hadded task htask).1)
  · show ((s.tasks ++ added).map (·.call)).Nodup
    rw [List.map_append]
    refine List.nodup_append.mpr ⟨h.nodup, hnodup, ?_⟩
    intro first hfirst second hsecond heq
    obtain ⟨task, htask, rfl⟩ := List.mem_map.mp hfirst
    obtain ⟨task', htask', rfl⟩ := List.mem_map.mp hsecond
    exact hnoTasks task htask (heq.trans (hadded task' htask').1)
  · intro task htask
    rcases List.mem_append.mp htask with htask | htask
    · exact h.handler task htask
    · exact (hadded task htask).2.1
  · intro other hother
    show (completions other (s.events ++ later)).length + pending other (s.tasks ++ added) = 1
    rw [completions_append, List.length_append, hpending]
    rcases List.mem_cons.mp hother with rfl | hold
    · rw [hnoCompletions, pending_eq_zero hnoTasks, List.length_nil]
      omega
    · have hne : other ≠ call := fun heq => hfresh (heq ▸ hold)
      have hnoneAdded : pending other added = 0 :=
        pending_eq_zero fun task htask heq => hne (heq.symm.trans (hadded task htask).1)
      have honceOther := h.once other hold
      rw [hcompletions other hne, hnoneAdded, List.length_nil]
      omega
  · intro handler result hevent
    rcases List.mem_append.mp hevent with hevent | hevent
    · obtain ⟨other, hother, hhandler⟩ := h.known handler result hevent
      exact ⟨other, List.mem_cons_of_mem _ hother, hhandler⟩
    · exact ⟨call, List.mem_cons_self, hposted handler result hevent⟩
  · intro task htask work hwork
    show Reached (answers task.call (s.events ++ later)) work
    rw [hsame]
    rcases List.mem_append.mp htask with htask | htask
    · exact h.reached task htask work hwork
    · obtain ⟨hcall, -, hreached⟩ := hadded task htask
      rw [hcall, hnoAnswers]
      exact hreached work hwork
  · intro other result hresult
    change result ∈ completions other (s.events ++ later) at hresult
    show Justified (answers other (s.events ++ later)) result
    rw [hsame]
    rw [completions_append] at hresult
    rcases List.mem_append.mp hresult with hresult | hresult
    · exact h.justified other result hresult
    · by_cases heq : other = call
      · subst heq
        rw [hnoAnswers]
        exact hjustified result hresult
      · rw [hcompletions other heq] at hresult
        cases hresult

/-- The calls of the tasks differ. -/
theorem Tracked.others (h : Tracked s) {task : ServiceTask} {rest : List ServiceTask}
    (hbefore : s.tasks.Perm (task :: rest)) :
    (∀ other ∈ rest, other.call ≠ task.call) ∧ (rest.map (·.call)).Nodup := by
  have hnodup := (hbefore.map (·.call)).nodup_iff.mp h.nodup
  rw [List.map_cons, List.nodup_cons] at hnodup
  exact ⟨fun other hother heq => hnodup.1 (heq ▸ List.mem_map_of_mem hother), hnodup.2⟩

/-- A task that goes on with an answer. -/
theorem Tracked.answered (h : Tracked s) {task task' : ServiceTask} {rest tasks : List ServiceTask}
    {before : ServiceWork} {answer : ServiceAnswer} {later : List ServiceEvent}
    (hbefore : s.tasks.Perm (task :: rest)) (hafter : tasks.Perm (task' :: rest))
    (hcall : task'.call = task.call) (hwork : task.work = some before)
    (hanswers : ∀ other, answers other later = if task.call = other then [answer] else [])
    (hcompletions : ∀ other, other ≠ task.call → completions other later = [])
    (hposted : ∀ handler result, .posted handler result ∈ later → handler = some task.call)
    (honce : (completions task.call later).length + (if task'.work.isSome then 1 else 0) = 1)
    (hhandler : task'.completionHandler = task'.work.map fun _ => task'.call)
    (hreached : ∀ work, task'.work = some work → Reached (answers task.call s.events ++ [answer]) work)
    (hjustified : ∀ result ∈ completions task.call later,
      Justified (answers task.call s.events ++ [answer]) result) :
    Tracked { s with tasks, events := s.events ++ later } := by
  obtain ⟨hothers, hnodup⟩ := h.others hbefore
  have htask : task ∈ s.tasks := hbefore.mem_iff.mpr List.mem_cons_self
  have hrest : ∀ other ∈ rest, other ∈ s.tasks :=
    fun other hother => hbefore.mem_iff.mpr (List.mem_cons_of_mem _ hother)
  have hold : task.call ∈ s.calls := by
    by_contra hfresh
    exact (h.fresh task.call hfresh).2.2 task htask rfl
  have hown : answers task.call (s.events ++ later) = answers task.call s.events ++ [answer] := by
    rw [answers_append, hanswers, if_pos rfl]
  have hother (other : CallId) (hne : other ≠ task.call) :
      answers other (s.events ++ later) = answers other s.events ∧
        completions other (s.events ++ later) = completions other s.events := by
    rw [answers_append, hanswers, if_neg (Ne.symm hne), completions_append, hcompletions other hne,
      List.append_nil, List.append_nil]
    exact ⟨rfl, rfl⟩
  have hnone : completions task.call s.events = [] := by
    have honceBefore := h.once task.call hold
    have hpending : pending task.call s.tasks = pending task.call rest + 1 := by
      rw [pending, hbefore.countP_eq, ← pending, pending_cons, if_pos ⟨rfl, hwork ▸ rfl⟩]
    exact List.length_eq_zero_iff.mp (by omega)
  constructor
  · intro call hfresh
    have hne : call ≠ task.call := fun heq => hfresh (heq ▸ hold)
    obtain ⟨hnoAnswers, hnoCompletions, hnoTasks⟩ := h.fresh call hfresh
    refine ⟨(hother call hne).1.trans hnoAnswers, (hother call hne).2.trans hnoCompletions, ?_⟩
    intro found hfound
    rcases List.mem_cons.mp (hafter.mem_iff.mp hfound) with rfl | hfound
    · exact fun heq => hne (heq.symm.trans hcall)
    · exact hnoTasks found (hrest found hfound)
  · show (tasks.map (·.call)).Nodup
    rw [(hafter.map (·.call)).nodup_iff, List.map_cons, List.nodup_cons, hcall]
    refine ⟨?_, hnodup⟩
    intro hmem
    obtain ⟨found, hfound, heq⟩ := List.mem_map.mp hmem
    exact hothers found hfound heq
  · intro found hfound
    rcases List.mem_cons.mp (hafter.mem_iff.mp hfound) with rfl | hfound
    · exact hhandler
    · exact h.handler found (hrest found hfound)
  · intro call hmade
    show (completions call (s.events ++ later)).length + pending call tasks = 1
    have hpending : pending call tasks =
        pending call rest + if task'.call = call ∧ task'.work.isSome then 1 else 0 := by
      rw [pending, hafter.countP_eq, ← pending, pending_cons]
    by_cases heq : call = task.call
    · subst heq
      rw [hpending, pending_eq_zero hothers, completions_append, hnone, List.nil_append, hcall]
      simp only [true_and]
      omega
    · have honceBefore := h.once call hmade
      have hsame : pending call s.tasks = pending call rest := by
        rw [pending, hbefore.countP_eq, ← pending, pending_cons, if_neg fun hp => heq hp.1.symm]
        rfl
      rw [(hother call heq).2, hpending, if_neg fun hp => heq (hp.1.symm.trans hcall)]
      omega
  · intro handler result hevent
    rcases List.mem_append.mp hevent with hevent | hevent
    · exact h.known handler result hevent
    · exact ⟨task.call, hold, hposted handler result hevent⟩
  · intro found hfound work hwork
    show Reached (answers found.call (s.events ++ later)) work
    rcases List.mem_cons.mp (hafter.mem_iff.mp hfound) with rfl | hfound
    · rw [hcall, hown]
      exact hreached work hwork
    · rw [(hother found.call (hothers found hfound)).1]
      exact h.reached found (hrest found hfound) work hwork
  · intro call result hresult
    change result ∈ completions call (s.events ++ later) at hresult
    show Justified (answers call (s.events ++ later)) result
    by_cases heq : call = task.call
    · subst heq
      rw [completions_append, hnone, List.nil_append] at hresult
      rw [hown]
      exact hjustified result hresult
    · rw [(hother call heq).2] at hresult
      rw [(hother call heq).1]
      exact h.justified call result hresult

theorem Tracked.destroyed (h : Tracked s) {task : ServiceTask} {rest : List ServiceTask}
    (limiter : LoginAttemptLimiter) (hbefore : s.tasks.Perm (task :: rest)) (hwork : task.work = none) :
    Tracked { s with limiter, tasks := rest, events := s.events ++ release task } := by
  have hrest : ∀ other ∈ rest, other ∈ s.tasks :=
    fun other hother => hbefore.mem_iff.mpr (List.mem_cons_of_mem _ hother)
  have hanswers (call : CallId) : answers call (s.events ++ release task) = answers call s.events := by
    rw [answers_append, answers_release, List.append_nil]
  have hcompletions (call : CallId) :
      completions call (s.events ++ release task) = completions call s.events := by
    rw [completions_append, completions_release, List.append_nil]
  constructor
  · intro call hfresh
    obtain ⟨hnoAnswers, hnoCompletions, hnoTasks⟩ := h.fresh call hfresh
    exact ⟨(hanswers call).trans hnoAnswers, (hcompletions call).trans hnoCompletions,
      fun other hother => hnoTasks other (hrest other hother)⟩
  · exact (h.others hbefore).2
  · exact fun other hother => h.handler other (hrest other hother)
  · intro call hmade
    show (completions call (s.events ++ release task)).length + pending call rest = 1
    have honce := h.once call hmade
    rw [pending, hbefore.countP_eq, ← pending, pending_cons, hwork] at honce
    rw [hcompletions]
    simp only [Option.isSome_none, Bool.false_eq_true, and_false, if_false, Nat.add_zero] at honce
    exact honce
  · intro handler result hevent
    rcases List.mem_append.mp hevent with hevent | hevent
    · exact h.known handler result hevent
    · unfold release at hevent
      cases hpermit : task.permit with
      | none =>
        rw [hpermit] at hevent
        cases hevent
      | some permit =>
        rw [hpermit] at hevent
        cases List.mem_singleton.mp hevent
  · intro other hother work hwork
    show Reached (answers other.call (s.events ++ release task)) work
    rw [hanswers]
    exact h.reached other (hrest other hother) work hwork
  · intro call result hresult
    change result ∈ completions call (s.events ++ release task) at hresult
    show Justified (answers call (s.events ++ release task)) result
    rw [hcompletions] at hresult
    rw [hanswers]
    exact h.justified call result hresult

theorem mem_acquisition {task : ServiceTask} {event : ServiceEvent} :
    event ∈ acquisition task ↔ ∃ permit, task.permit = some permit ∧ event = .acquired task.call permit := by
  unfold acquisition
  cases task.permit with
  | none => simp
  | some permit => simp

theorem mem_release {task : ServiceTask} {event : ServiceEvent} :
    event ∈ release task ↔ ∃ permit, task.permit = some permit ∧ event = .released permit := by
  unfold release
  cases task.permit with
  | none => simp
  | some permit => simp

theorem NewTask.tracked {task : ServiceTask} {limiter : LoginAttemptLimiter}
    (hnew : NewTask s task limiter) (h : Tracked s) :
    Tracked { s with
      limiter
      calls := task.call :: s.calls
      tasks := s.tasks ++ [task]
      events := s.events ++ acquisition task } := by
  obtain ⟨work, hwork, hreached⟩ := hnew.reached
  refine h.added hnew.fresh limiter (fun other => answers_acquisition other task)
    (fun other _ => completions_acquisition other task) ?_ ?_ ?_ ?_ (by simp)
  · intro handler result hevent
    obtain ⟨permit, -, heq⟩ := mem_acquisition.mp hevent
    cases heq
  · rw [completions_acquisition, pending_cons, if_pos ⟨rfl, hwork ▸ rfl⟩]
    rfl
  · intro result hresult
    rw [completions_acquisition] at hresult
    cases hresult
  · intro other hother
    obtain rfl := List.mem_singleton.mp hother
    refine ⟨rfl, ?_, ?_⟩
    · rw [hnew.handler, hwork]
      rfl
    · intro work' hwork'
      obtain rfl := Option.some.inj (hwork.symm.trans hwork')
      exact hreached

theorem Tracked.moves (h : Tracked s) (hm : Moves s t) : Tracked t := by
  cases hm with
  | thrown => exact h
  | rejected call limiter result hfresh hgranted hfailure hbare =>
    have hcompletions (other : CallId) := completions_posted other call result
    have hadded : Tracked { s with
        limiter
        calls := call :: s.calls
        tasks := s.tasks ++ []
        events := s.events ++ [.posted (some call) result] } := by
      refine h.added hfresh limiter (fun other => rfl) (fun other hne => ?_) ?_ ?_ ?_
        (List.forall_mem_nil _) List.nodup_nil
      · rw [hcompletions, if_neg (Ne.symm hne)]
      · intro handler other hevent
        cases List.mem_singleton.mp hevent
        rfl
      · rw [hcompletions, if_pos rfl]
        rfl
      · intro other hother
        rw [hcompletions, if_pos rfl] at hother
        obtain rfl := List.mem_singleton.mp hother
        exact justified_of_failure [] hfailure hbare
    rw [List.append_nil] at hadded
    exact hadded
  | queued task limiter hnew => exact hnew.tracked h
  | refused task limiter result hnew hfailure hbare =>
    have hcompletions (other : CallId) : completions other (acquisition task ++ .refused task.call ::
        release task ++ [.posted (some task.call) result]) = if task.call = other then [result] else [] := by
      rw [completions_append, completions_append, completions_acquisition, completions_posted]
      show [] ++ completions other (release task) ++ _ = _
      rw [completions_release]
      rfl
    have hadded : Tracked { s with
        limiter := afterTask task limiter
        calls := task.call :: s.calls
        tasks := s.tasks ++ []
        events := s.events ++ (acquisition task ++ .refused task.call :: release task ++
          [.posted (some task.call) result]) } := by
      refine h.added hnew.fresh (afterTask task limiter) (fun other => ?_) (fun other hne => ?_) ?_ ?_ ?_
        (List.forall_mem_nil _) List.nodup_nil
      · rw [answers_append, answers_append, answers_acquisition]
        show [] ++ answers other (release task) ++ [] = []
        rw [answers_release]
        rfl
      · rw [hcompletions, if_neg (Ne.symm hne)]
      · intro handler other hevent
        simp only [List.mem_append, List.mem_cons, mem_acquisition, mem_release, List.not_mem_nil,
          or_false] at hevent
        rcases hevent with (⟨permit, -, heq⟩ | heq | ⟨permit, -, heq⟩) | heq
        · cases heq
        · cases heq
        · cases heq
        · cases heq
          rfl
      · rw [hcompletions, if_pos rfl]
        rfl
      · intro other hother
        rw [hcompletions, if_pos rfl] at hother
        obtain rfl := List.mem_singleton.mp hother
        exact justified_of_failure [] hfailure hbare
    rw [List.append_nil] at hadded
    exact hadded
  | asks task rest tasks before after answer hbefore hwork hanswered hafter =>
    have htask : task ∈ s.tasks := hbefore.mem_iff.mpr List.mem_cons_self
    have hgoes := (h.reached task htask before hwork).answered hanswered
    refine h.answered hbefore hafter rfl hwork (fun other => answers_answered other task.call answer)
      (fun other _ => rfl) ?_ rfl ?_ ?_ (List.forall_mem_nil _)
    · intro handler result hevent
      cases List.mem_singleton.mp hevent
    · rw [h.handler task htask, hwork]
      rfl
    · intro work hwork'
      obtain rfl := Option.some.inj hwork'
      exact hgoes
  | posts task rest tasks before answer result hbefore hwork hanswered hafter =>
    have htask : task ∈ s.tasks := hbefore.mem_iff.mpr List.mem_cons_self
    have hgoes := (h.reached task htask before hwork).answered hanswered
    have hhandler : task.completionHandler = some task.call := by
      rw [h.handler task htask, hwork]
      rfl
    have hanswers (other : CallId) :
        answers other [.answered task.call answer, .posted (some task.call) result] =
          if task.call = other then [answer] else [] := answers_answered other task.call answer
    rw [hhandler]
    refine h.answered hbefore hafter rfl hwork hanswers (fun other hne => ?_) ?_ ?_ rfl ?_ ?_
    · exact (completions_posted other task.call result).trans (if_neg (Ne.symm hne))
    · intro handler other hevent
      rcases List.mem_cons.mp hevent with heq | hevent
      · cases heq
      · cases List.mem_singleton.mp hevent
        rfl
    · exact congrArg (·.length + 0) ((completions_posted task.call task.call result).trans (if_pos rfl))
    · intro work hwork'
      cases hwork'
    · intro other hother
      have heq := (completions_posted task.call task.call result).trans (if_pos rfl)
      obtain rfl := List.mem_singleton.mp (heq ▸ hother : other ∈ [result])
      exact hgoes
  | destroyed task rest hbefore hwork => exact h.destroyed _ hbefore hwork

/-! ## One release -/

/-- The permit has been released once, after the work of its call or its rejection. -/
def ReleasedOnce (call : CallId) (permit : Nat) (events : List ServiceEvent) : Prop :=
  ∃ before after, events = before ++ .released permit :: after ∧
    .released permit ∉ before ∧ .released permit ∉ after ∧
    (.refused call ∈ before ∨ ∃ result, .posted (some call) result ∈ before) ∧
    ∀ answer, .answered call answer ∉ after

theorem ReleasedOnce.append {call : CallId} {permit : Nat} {events later : List ServiceEvent}
    (h : ReleasedOnce call permit events) (hreleased : .released permit ∉ later)
    (hanswered : ∀ answer, .answered call answer ∉ later) :
    ReleasedOnce call permit (events ++ later) := by
  obtain ⟨before, after, rfl, hbefore, hafter, hdone, hanswers⟩ := h
  refine ⟨before, after ++ later, ?_, hbefore, ?_, hdone, ?_⟩
  · rw [List.append_assoc, List.cons_append]
  · exact fun hmem => (List.mem_append.mp hmem).elim hafter hreleased
  · exact fun answer hmem => (List.mem_append.mp hmem).elim (hanswers answer) (hanswered answer)

theorem ReleasedOnce.mem {call : CallId} {permit : Nat} {events : List ServiceEvent}
    (h : ReleasedOnce call permit events) : .released permit ∈ events := by
  obtain ⟨before, after, rfl, -⟩ := h
  exact List.mem_append_right _ List.mem_cons_self

structure Permitted (s : Services) : Prop where
  acquired : ∀ call permit, .acquired call permit ∈ s.events →
    permit < s.limiter.stats.acceptedAttempts ∧ call ∈ s.calls
  released : ∀ permit, .released permit ∈ s.events → permit < s.limiter.stats.acceptedAttempts
  unique : ∀ call other permit, .acquired call permit ∈ s.events → .acquired other permit ∈ s.events →
    call = other
  jobs : s.limiter.stats.concurrentPasswordJobs = (s.tasks.filterMap (·.permit)).length
  held : ∀ task ∈ s.tasks, ∀ permit, task.permit = some permit →
    .acquired task.call permit ∈ s.events ∧ .released permit ∉ s.events
  completed : ∀ task ∈ s.tasks, task.work = none → ∃ result, .posted (some task.call) result ∈ s.events
  settled : ∀ call permit, .acquired call permit ∈ s.events →
    (∃ task ∈ s.tasks, task.call = call ∧ task.permit = some permit) ∨
      ReleasedOnce call permit s.events ∧ ∀ task ∈ s.tasks, task.call ≠ call

/-- A step that neither gives out a permit nor releases one. -/
theorem Permitted.kept (h : Permitted s) {limiter : LoginAttemptLimiter} {calls : List CallId}
    {tasks : List ServiceTask} {later : List ServiceEvent} (hgranted : Granted s.limiter none limiter)
    (hcalls : ∀ call ∈ s.calls, call ∈ calls) (hacquired : ∀ call permit, .acquired call permit ∉ later)
    (hreleased : ∀ permit, .released permit ∉ later)
    (hanswered : ∀ call answer, .answered call answer ∈ later → ∃ task ∈ s.tasks, task.call = call)
    (hkept : ∀ task ∈ s.tasks, ∀ permit, task.permit = some permit →
      ∃ task' ∈ tasks, task'.call = task.call ∧ task'.permit = some permit)
    (htasks : ∀ task' ∈ tasks, (∃ task ∈ s.tasks, task.call = task'.call ∧ task.permit = task'.permit) ∨
      task'.permit = none ∧ task'.call ∉ s.calls)
    (hlength : (tasks.filterMap (·.permit)).length = (s.tasks.filterMap (·.permit)).length)
    (hcompleted : ∀ task' ∈ tasks, task'.work = none →
      ∃ result, .posted (some task'.call) result ∈ s.events ++ later) :
    Permitted { s with limiter, calls, tasks, events := s.events ++ later } := by
  have haccepted : limiter.stats.acceptedAttempts = s.limiter.stats.acceptedAttempts := hgranted.accepted
  have hold (call : CallId) (permit : Nat) (hevent : .acquired call permit ∈ s.events ++ later) :
      .acquired call permit ∈ s.events :=
    (List.mem_append.mp hevent).resolve_right (hacquired call permit)
  have hnotReleased (permit : Nat) (hnone : .released permit ∉ s.events) :
      .released permit ∉ s.events ++ later :=
    fun hevent => (List.mem_append.mp hevent).elim hnone (hreleased permit)
  constructor
  · intro call permit hevent
    obtain ⟨hlt, hmade⟩ := h.acquired call permit (hold call permit hevent)
    exact ⟨haccepted ▸ hlt, hcalls call hmade⟩
  · intro permit hevent
    exact haccepted ▸ h.released permit ((List.mem_append.mp hevent).resolve_right (hreleased permit))
  · exact fun call other permit hevent hevent' => h.unique call other permit (hold _ _ hevent) (hold _ _ hevent')
  · exact hgranted.jobs.trans (h.jobs.trans hlength.symm)
  · intro task' htask' permit hpermit
    rcases htasks task' htask' with ⟨task, htask, hcall, hsame⟩ | ⟨hnone, -⟩
    · obtain ⟨hevent, hnone⟩ := h.held task htask permit (hsame.trans hpermit)
      exact ⟨List.mem_append_left _ (hcall ▸ hevent), hnotReleased permit hnone⟩
    · rw [hnone] at hpermit
      cases hpermit
  · exact hcompleted
  · intro call permit hevent
    have hevent := hold call permit hevent
    rcases h.settled call permit hevent with ⟨task, htask, rfl, hpermit⟩ | ⟨hdone, hnoTask⟩
    · obtain ⟨task', htask', hcall, hpermit'⟩ := hkept task htask permit hpermit
      exact .inl ⟨task', htask', hcall, hpermit'⟩
    · refine .inr ⟨hdone.append (hreleased permit) ?_, ?_⟩
      · intro answer hanswer
        obtain ⟨task, htask, hcall⟩ := hanswered call answer hanswer
        exact hnoTask task htask hcall
      · intro task' htask' hcall
        rcases htasks task' htask' with ⟨task, htask, hsame, -⟩ | ⟨-, hnew⟩
        · exact hnoTask task htask (hsame.trans hcall)
        · exact hnew (hcall ▸ (h.acquired call permit hevent).2)

/-- The part of the events and tasks that a new permit does not concern. -/
theorem Permitted.below (h : Permitted s) {limiter : LoginAttemptLimiter} {number : Nat}
    (hgranted : Granted s.limiter (some number) limiter) :
    number = s.limiter.stats.acceptedAttempts ∧ number < limiter.stats.acceptedAttempts ∧
      (∀ call, .acquired call number ∉ s.events) ∧ .released number ∉ s.events ∧
      ∀ permit, permit < s.limiter.stats.acceptedAttempts → permit < limiter.stats.acceptedAttempts := by
  have hnumber := hgranted.numbered number rfl
  have haccepted : limiter.stats.acceptedAttempts = s.limiter.stats.acceptedAttempts + 1 := hgranted.accepted
  refine ⟨hnumber, by omega, ?_, ?_, ?_⟩
  · intro call hevent
    have hlt := (h.acquired call number hevent).1
    omega
  · intro hevent
    have hlt := h.released number hevent
    omega
  · intro permit hlt
    omega

theorem Permitted.queued (h : Permitted s) {task : ServiceTask} {limiter : LoginAttemptLimiter} {number : Nat}
    (hnew : NewTask s task limiter) (hpermit : task.permit = some number) :
    Permitted { s with
      limiter
      calls := task.call :: s.calls
      tasks := s.tasks ++ [task]
      events := s.events ++ [.acquired task.call number] } := by
  have hgranted := hpermit ▸ hnew.granted
  obtain ⟨-, hnumber, hunused, hunreleased, hle⟩ := h.below hgranted
  obtain ⟨work, hwork, -⟩ := hnew.reached
  constructor
  · intro call permit hevent
    rcases List.mem_append.mp hevent with hevent | hevent
    · obtain ⟨hlt, hmade⟩ := h.acquired call permit hevent
      exact ⟨hle permit hlt, List.mem_cons_of_mem _ hmade⟩
    · cases List.mem_singleton.mp hevent
      exact ⟨hnumber, List.mem_cons_self⟩
  · intro permit hevent
    rcases List.mem_append.mp hevent with hevent | hevent
    · exact hle permit (h.released permit hevent)
    · cases List.mem_singleton.mp hevent
  · intro call other permit hevent hevent'
    rcases List.mem_append.mp hevent with hevent | hevent
    · rcases List.mem_append.mp hevent' with hevent' | hevent'
      · exact h.unique call other permit hevent hevent'
      · cases List.mem_singleton.mp hevent'
        exact absurd hevent (hunused call)
    · cases List.mem_singleton.mp hevent
      rcases List.mem_append.mp hevent' with hevent' | hevent'
      · exact absurd hevent' (hunused other)
      · cases List.mem_singleton.mp hevent'
        rfl
  · show limiter.stats.concurrentPasswordJobs = ((s.tasks ++ [task]).filterMap (·.permit)).length
    rw [hgranted.jobs, h.jobs, List.filterMap_append, List.length_append]
    simp [hpermit]
  · intro other hother permit hheld
    rcases List.mem_append.mp hother with hother | hother
    · obtain ⟨hevent, hnone⟩ := h.held other hother permit hheld
      refine ⟨List.mem_append_left _ hevent, ?_⟩
      intro hevent'
      rcases List.mem_append.mp hevent' with hevent' | hevent'
      · exact hnone hevent'
      · cases List.mem_singleton.mp hevent'
    · obtain rfl := List.mem_singleton.mp hother
      obtain rfl := Option.some.inj (hpermit.symm.trans hheld)
      refine ⟨List.mem_append_right _ List.mem_cons_self, ?_⟩
      intro hevent
      rcases List.mem_append.mp hevent with hevent | hevent
      · exact hunreleased hevent
      · cases List.mem_singleton.mp hevent
  · intro other hother hreturned
    rcases List.mem_append.mp hother with hother | hother
    · obtain ⟨result, hevent⟩ := h.completed other hother hreturned
      exact ⟨result, List.mem_append_left _ hevent⟩
    · obtain rfl := List.mem_singleton.mp hother
      rw [hwork] at hreturned
      cases hreturned
  · intro call permit hevent
    rcases List.mem_append.mp hevent with hold | hevent
    · have hmade := (h.acquired call permit hold).2
      rcases h.settled call permit hold with ⟨other, hother, hcall, hheld⟩ | ⟨hdone, hnoTask⟩
      · exact .inl ⟨other, List.mem_append_left _ hother, hcall, hheld⟩
      · refine .inr ⟨hdone.append ?_ ?_, ?_⟩
        · intro hevent'
          cases List.mem_singleton.mp hevent'
        · intro answer hevent'
          cases List.mem_singleton.mp hevent'
        · intro other hother
          rcases List.mem_append.mp hother with hother | hother
          · exact hnoTask other hother
          · rw [List.mem_singleton.mp hother]
            exact fun hcall => hnew.fresh (hcall ▸ hmade)
    · cases List.mem_singleton.mp hevent
      exact .inl ⟨task, List.mem_append_right _ List.mem_cons_self, rfl, hpermit⟩

theorem Permitted.refused (h : Permitted s) (ht : Tracked s) {task : ServiceTask} {limiter : LoginAttemptLimiter}
    {number : Nat} (result : ServiceResult) (hnew : NewTask s task limiter)
    (hpermit : task.permit = some number) :
    Permitted { s with
      limiter := limiter.releasePermit
      calls := task.call :: s.calls
      events := s.events ++ [.acquired task.call number, .refused task.call, .released number,
        .posted (some task.call) result] } := by
  have hgranted := hpermit ▸ hnew.granted
  obtain ⟨-, hnumber, hunused, hunreleased, hle⟩ := h.below hgranted
  have hjobs : limiter.stats.concurrentPasswordJobs = s.limiter.stats.concurrentPasswordJobs + 1 :=
    hgranted.jobs
  have hlimiter : limiter.releasePermit.stats.acceptedAttempts = limiter.stats.acceptedAttempts ∧
      limiter.releasePermit.stats.concurrentPasswordJobs = s.limiter.stats.concurrentPasswordJobs := by
    rw [LoginAttemptLimiter.releasePermit, if_pos (by omega)]
    exact ⟨rfl, by dsimp only; omega⟩
  have hacquired {call : CallId} {permit : Nat} (hevent : .acquired call permit ∈ s.events ++
      [.acquired task.call number, .refused task.call, .released number, .posted (some task.call) result]) :
      .acquired call permit ∈ s.events ∨ call = task.call ∧ permit = number := by
    simpa using hevent
  constructor
  · intro call permit hevent
    show permit < limiter.releasePermit.stats.acceptedAttempts ∧ _
    rw [hlimiter.1]
    rcases hacquired hevent with hold | ⟨rfl, rfl⟩
    · obtain ⟨hlt, hmade⟩ := h.acquired call permit hold
      exact ⟨hle permit hlt, List.mem_cons_of_mem _ hmade⟩
    · exact ⟨hnumber, List.mem_cons_self⟩
  · intro permit hevent
    show permit < limiter.releasePermit.stats.acceptedAttempts
    rw [hlimiter.1]
    have hevent : .released permit ∈ s.events ∨ permit = number := by simpa using hevent
    rcases hevent with hold | rfl
    · exact hle permit (h.released permit hold)
    · exact hnumber
  · intro call other permit hevent hevent'
    rcases hacquired hevent with hold | ⟨rfl, rfl⟩
    · rcases hacquired hevent' with hold' | ⟨rfl, rfl⟩
      · exact h.unique call other permit hold hold'
      · exact absurd hold (hunused call)
    · rcases hacquired hevent' with hold' | ⟨rfl, -⟩
      · exact absurd hold' (hunused other)
      · rfl
  · exact hlimiter.2.trans h.jobs
  · intro other hother permit hheld
    obtain ⟨hevent, hnone⟩ := h.held other hother permit hheld
    refine ⟨List.mem_append_left _ hevent, ?_⟩
    intro hevent'
    have hevent' : .released permit ∈ s.events ∨ permit = number := by simpa using hevent'
    rcases hevent' with hold | rfl
    · exact hnone hold
    · exact hunused other.call hevent
  · intro other hother hreturned
    obtain ⟨other', hevent⟩ := h.completed other hother hreturned
    exact ⟨other', List.mem_append_left _ hevent⟩
  · intro call permit hevent
    rcases hacquired hevent with hold | ⟨rfl, rfl⟩
    · have hmade := (h.acquired call permit hold).2
      rcases h.settled call permit hold with hheld | ⟨hdone, hnoTask⟩
      · exact .inl hheld
      · refine .inr ⟨hdone.append ?_ ?_, hnoTask⟩
        · intro hreleased
          have heq : permit = number := by simpa using hreleased
          exact hunused call (heq ▸ hold)
        · intro answer hanswered
          simp at hanswered
    · refine .inr ⟨⟨s.events ++ [.acquired task.call permit, .refused task.call],
        [.posted (some task.call) result], ?_, ?_, ?_, .inl ?_, ?_⟩, ?_⟩
      · simp
      · simpa using hunreleased
      · simp
      · simp
      · simp
      · exact (ht.fresh task.call hnew.fresh).2.2

theorem Permitted.destroyed (h : Permitted s) (ht : Tracked s) {task : ServiceTask}
    {rest : List ServiceTask} {number : Nat} (hbefore : s.tasks.Perm (task :: rest))
    (hwork : task.work = none) (hpermit : task.permit = some number) :
    Permitted { s with
      limiter := s.limiter.releasePermit, tasks := rest, events := s.events ++ [.released number] } := by
  obtain ⟨hothers, -⟩ := ht.others hbefore
  have htask : task ∈ s.tasks := hbefore.mem_iff.mpr List.mem_cons_self
  have hrest : ∀ other ∈ rest, other ∈ s.tasks :=
    fun other hother => hbefore.mem_iff.mpr (List.mem_cons_of_mem _ hother)
  obtain ⟨hown, hunreleased⟩ := h.held task htask number hpermit
  have hjobs : s.limiter.stats.concurrentPasswordJobs = (rest.filterMap (·.permit)).length + 1 := by
    rw [h.jobs, (hbefore.filterMap (·.permit)).length_eq, List.filterMap_cons_some hpermit, List.length_cons]
  have hlimiter : s.limiter.releasePermit.stats.acceptedAttempts = s.limiter.stats.acceptedAttempts ∧
      s.limiter.releasePermit.stats.concurrentPasswordJobs = (rest.filterMap (·.permit)).length := by
    rw [LoginAttemptLimiter.releasePermit, if_pos (by omega)]
    exact ⟨rfl, by dsimp only; omega⟩
  have hacquired {call : CallId} {permit : Nat}
      (hevent : .acquired call permit ∈ s.events ++ [.released number]) : .acquired call permit ∈ s.events := by
    simpa using hevent
  constructor
  · intro call permit hevent
    show permit < s.limiter.releasePermit.stats.acceptedAttempts ∧ _
    rw [hlimiter.1]
    exact h.acquired call permit (hacquired hevent)
  · intro permit hevent
    show permit < s.limiter.releasePermit.stats.acceptedAttempts
    rw [hlimiter.1]
    have hevent : .released permit ∈ s.events ∨ permit = number := by simpa using hevent
    rcases hevent with hold | rfl
    · exact h.released permit hold
    · exact (h.acquired task.call permit hown).1
  · exact fun call other permit hevent hevent' =>
      h.unique call other permit (hacquired hevent) (hacquired hevent')
  · exact hlimiter.2
  · intro other hother permit hheld
    obtain ⟨hevent, hnone⟩ := h.held other (hrest other hother) permit hheld
    refine ⟨List.mem_append_left _ hevent, ?_⟩
    intro hevent'
    have hevent' : .released permit ∈ s.events ∨ permit = number := by simpa using hevent'
    rcases hevent' with hold | rfl
    · exact hnone hold
    · exact hothers other hother (h.unique other.call task.call permit hevent hown)
  · intro other hother hreturned
    obtain ⟨result, hevent⟩ := h.completed other (hrest other hother) hreturned
    exact ⟨result, List.mem_append_left _ hevent⟩
  · intro call permit hevent
    rcases h.settled call permit (hacquired hevent) with ⟨other, hother, hcall, hheld⟩ | ⟨hdone, hnoTask⟩
    · rcases List.mem_cons.mp (hbefore.mem_iff.mp hother) with rfl | hother
      · obtain rfl := Option.some.inj (hpermit.symm.trans hheld)
        obtain ⟨result, hposted⟩ := h.completed other htask hwork
        refine .inr ⟨⟨s.events, [], rfl, hunreleased, List.not_mem_nil, .inr ⟨result, hcall ▸ hposted⟩,
          fun _ => List.not_mem_nil⟩, ?_⟩
        exact fun found hfound => hcall ▸ hothers found hfound
      · exact .inl ⟨other, hother, hcall, hheld⟩
    · refine .inr ⟨hdone.append ?_ ?_, fun other hother => hnoTask other (hrest other hother)⟩
      · intro hreleased
        have heq : permit = number := by simpa using hreleased
        exact hunreleased (heq ▸ hdone.mem)
      · intro answer hanswered
        simp at hanswered

/-- A task that goes on keeps its permit. -/
theorem Permitted.answered (h : Permitted s) {task task' : ServiceTask} {rest tasks : List ServiceTask}
    {later : List ServiceEvent} (hbefore : s.tasks.Perm (task :: rest)) (hafter : tasks.Perm (task' :: rest))
    (hcall : task'.call = task.call) (hpermit : task'.permit = task.permit)
    (hlater : ∀ event ∈ later, (∃ answer, event = .answered task.call answer) ∨
      ∃ handler result, event = .posted handler result)
    (hreturned : task'.work = none → ∃ result, .posted (some task.call) result ∈ later) :
    Permitted { s with tasks, events := s.events ++ later } := by
  have htask : task ∈ s.tasks := hbefore.mem_iff.mpr List.mem_cons_self
  have hrest : ∀ other ∈ rest, other ∈ s.tasks :=
    fun other hother => hbefore.mem_iff.mpr (List.mem_cons_of_mem _ hother)
  refine h.kept (granted_refl _) (fun _ => id) ?_ ?_ ?_ ?_ ?_ ?_ ?_
  · intro call permit hevent
    rcases hlater _ hevent with ⟨answer, heq⟩ | ⟨handler, result, heq⟩
    · cases heq
    · cases heq
  · intro permit hevent
    rcases hlater _ hevent with ⟨answer, heq⟩ | ⟨handler, result, heq⟩
    · cases heq
    · cases heq
  · intro call answer hevent
    rcases hlater _ hevent with ⟨answer', heq⟩ | ⟨handler, result, heq⟩
    · cases heq
      exact ⟨task, htask, rfl⟩
    · cases heq
  · intro other hother permit hheld
    rcases List.mem_cons.mp (hbefore.mem_iff.mp hother) with rfl | hother
    · exact ⟨task', hafter.mem_iff.mpr List.mem_cons_self, hcall, hpermit.trans hheld⟩
    · exact ⟨other, hafter.mem_iff.mpr (List.mem_cons_of_mem _ hother), rfl, hheld⟩
  · intro other hother
    rcases List.mem_cons.mp (hafter.mem_iff.mp hother) with rfl | hother
    · exact .inl ⟨task, htask, hcall.symm, hpermit.symm⟩
    · exact .inl ⟨other, hrest other hother, rfl, rfl⟩
  · rw [(hafter.filterMap (·.permit)).length_eq, (hbefore.filterMap (·.permit)).length_eq]
    simp only [List.filterMap_cons, hpermit]
  · intro other hother hnone
    rcases List.mem_cons.mp (hafter.mem_iff.mp hother) with rfl | hother
    · obtain ⟨result, hevent⟩ := hreturned hnone
      exact ⟨result, List.mem_append_right _ (hcall ▸ hevent)⟩
    · obtain ⟨result, hevent⟩ := h.completed other (hrest other hother) hnone
      exact ⟨result, List.mem_append_left _ hevent⟩

theorem Permitted.moves (h : Permitted s) (ht : Tracked s) (hm : Moves s t) : Permitted t := by
  cases hm with
  | thrown => exact h
  | rejected call limiter result hfresh hgranted hfailure hbare =>
    refine h.kept hgranted (fun other => List.mem_cons_of_mem _) ?_ ?_ ?_
      (fun task htask permit hpermit => ⟨task, htask, rfl, hpermit⟩)
      (fun task htask => .inl ⟨task, htask, rfl, rfl⟩) rfl ?_
    · simp
    · simp
    · simp
    · intro task htask hreturned
      obtain ⟨other, hevent⟩ := h.completed task htask hreturned
      exact ⟨other, List.mem_append_left _ hevent⟩
  | queued task limiter hnew =>
    cases hpermit : task.permit with
    | some number =>
      rw [acquisition, hpermit]
      exact h.queued hnew hpermit
    | none =>
      rw [acquisition, hpermit]
      obtain ⟨work, hwork, -⟩ := hnew.reached
      refine h.kept (hpermit ▸ hnew.granted) (fun other => List.mem_cons_of_mem _) ?_ ?_ ?_
        (fun other hother permit hheld => ⟨other, List.mem_append_left _ hother, rfl, hheld⟩) ?_ ?_ ?_
      · simp
      · simp
      · simp
      · intro other hother
        rcases List.mem_append.mp hother with hother | hother
        · exact .inl ⟨other, hother, rfl, rfl⟩
        · obtain rfl := List.mem_singleton.mp hother
          exact .inr ⟨hpermit, hnew.fresh⟩
      · rw [List.filterMap_append, List.length_append]
        simp [hpermit]
      · intro other hother hreturned
        rcases List.mem_append.mp hother with hother | hother
        · obtain ⟨result, hevent⟩ := h.completed other hother hreturned
          exact ⟨result, List.mem_append_left _ hevent⟩
        · obtain rfl := List.mem_singleton.mp hother
          rw [hwork] at hreturned
          cases hreturned
  | refused task limiter result hnew hfailure hbare =>
    cases hpermit : task.permit with
    | some number =>
      rw [acquisition, release, afterTask, hpermit]
      exact h.refused ht result hnew hpermit
    | none =>
      have hgranted : Granted s.limiter none limiter := hpermit ▸ hnew.granted
      rw [acquisition, release, afterTask, hpermit]
      refine h.kept hgranted (fun other => List.mem_cons_of_mem _) ?_ ?_ ?_
        (fun other hother permit hheld => ⟨other, hother, rfl, hheld⟩)
        (fun other hother => .inl ⟨other, hother, rfl, rfl⟩) rfl ?_
      · simp
      · simp
      · simp
      · intro other hother hreturned
        obtain ⟨other', hevent⟩ := h.completed other hother hreturned
        exact ⟨other', List.mem_append_left _ hevent⟩
  | asks task rest tasks before after answer hbefore hwork hanswered hafter =>
    refine h.answered hbefore hafter rfl rfl ?_ ?_
    · intro event hevent
      exact .inl ⟨answer, List.mem_singleton.mp hevent⟩
    · intro hreturned
      cases hreturned
  | posts task rest tasks before answer result hbefore hwork hanswered hafter =>
    have htask : task ∈ s.tasks := hbefore.mem_iff.mpr List.mem_cons_self
    refine h.answered hbefore hafter rfl rfl ?_ ?_
    · intro event hevent
      rcases List.mem_cons.mp hevent with rfl | hevent
      · exact .inl ⟨answer, rfl⟩
      · exact .inr ⟨_, _, List.mem_singleton.mp hevent⟩
    · intro _
      have hhandler : task.completionHandler = some task.call := by
        rw [ht.handler task htask, hwork]
        rfl
      exact ⟨result, hhandler ▸ List.mem_cons_of_mem _ List.mem_cons_self⟩
  | destroyed task rest hbefore hwork =>
    cases hpermit : task.permit with
    | some number =>
      rw [release, afterTask, hpermit]
      exact h.destroyed ht hbefore hwork hpermit
    | none =>
      have hrest : ∀ other ∈ rest, other ∈ s.tasks :=
        fun other hother => hbefore.mem_iff.mpr (List.mem_cons_of_mem _ hother)
      rw [release, afterTask, hpermit]
      refine h.kept (granted_refl _) (fun _ => id) ?_ ?_ ?_ ?_
        (fun other hother => .inl ⟨other, hrest other hother, rfl, rfl⟩) ?_ ?_
      · simp
      · simp
      · simp
      · intro other hother permit hheld
        rcases List.mem_cons.mp (hbefore.mem_iff.mp hother) with rfl | hother
        · rw [hpermit] at hheld
          cases hheld
        · exact ⟨other, hother, rfl, hheld⟩
      · rw [(hbefore.filterMap (·.permit)).length_eq, List.filterMap_cons_none hpermit]
      · intro other hother hreturned
        obtain ⟨result, hevent⟩ := h.completed other (hrest other hother) hreturned
        exact ⟨result, List.mem_append_left _ hevent⟩

/-! ## The answers of a database -/

/-- The work posts the result when each of its calls is answered like this. -/
inductive Posts (answer : ServiceWork → ServiceAnswer) : ServiceWork → ServiceResult → Prop where
  | posts {work : ServiceWork} {result : ServiceResult}
    (h : work.answered (answer work) = some (.posts result)) : Posts answer work result
  | asks {before after : ServiceWork} {result : ServiceResult}
    (h : before.answered (answer before) = some (.asks after)) (hafter : Posts answer after result) :
    Posts answer before result

/-- The calls of the character services go to one database. -/
structure AnswersFrom (database : Database) (source : TicketSource) (answer : ServiceWork → ServiceAnswer) :
    Prop where
  account : ∀ accountId, answer (.findAccount accountId) = .account (database.findAccount accountId)
  playerIds : ∀ accountId, answer (.findPlayerIds accountId) = .playerIds (database.findPlayerIds accountId)
  profile : ∀ playerId rest characters,
    answer (.findPlayer playerId rest characters) = .profile (database.findPlayer playerId)
  authTicket : ∀ context,
    answer (.issue context) = .authTicket (issue source context.accountId context.playerId database)

section

variable {database : Database} {source : TicketSource} {answer : ServiceWork → ServiceAnswer}

/-- The list that the loop ends with. -/
def loaded (characters : List CharacterSummary) : Except Failure (List CharacterSummary) → CharacterListResult
  | .error _ => { status := .serviceError }
  | .ok rest => { status := .success, characters := characters ++ rest }

theorem posts_loadProfiles (h : AnswersFrom database source answer) :
    ∀ (playerIds : List PlayerId) (playerId : PlayerId) (characters : List CharacterSummary),
      Posts answer (.findPlayer playerId playerIds characters)
        (.characterList (loaded characters (loadProfiles database (playerId :: playerIds))))
  | rest, playerId, characters => by
    rw [loadProfiles]
    cases hprofile : database.findPlayer playerId with
    | error failure =>
      refine .posts ?_
      rw [h.profile, hprofile]
      rfl
    | ok found =>
      cases found with
      | none =>
        refine .posts ?_
        rw [h.profile, hprofile]
        rfl
      | some profile =>
        cases rest with
        | nil =>
          refine .posts ?_
          rw [h.profile, hprofile]
          rfl
        | cons next rest =>
          have hrest := posts_loadProfiles h rest next (characters ++ [summary profile])
          have hloaded : loaded (characters ++ [summary profile]) (loadProfiles database (next :: rest)) =
              loaded characters ((loadProfiles database (next :: rest)).map (summary profile :: ·)) := by
            cases loadProfiles database (next :: rest) with
            | error failure => rfl
            | ok profiles =>
              simp only [loaded, Except.map, List.append_assoc, List.singleton_append]
          rw [hloaded] at hrest
          refine .asks ?_ hrest
          rw [h.profile, hprofile]
          rfl

/-- The list that `loadCharacters` finds in the database is the one that the work posts. -/
theorem posts_loadCharacters (h : AnswersFrom database source answer) {accountId : AccountId}
    (hpositive : accountId ≠ 0) :
    Posts answer (.findAccount accountId) (.characterList (loadCharacters {} accountId database)) := by
  have hqueued : ¬ (¬ ({} : Circumstances).queued = true) := not_not.mpr rfl
  rw [loadCharacters, if_neg hpositive, if_neg hqueued, if_neg Bool.false_ne_true]
  cases haccount : database.findAccount accountId with
  | error failure =>
    refine .posts ?_
    rw [h.account, haccount]
    rfl
  | ok found =>
    cases found with
    | none =>
      refine .posts ?_
      rw [h.account, haccount]
      rfl
    | some account =>
      have hasks : (ServiceWork.findAccount accountId).answered (answer (.findAccount accountId)) =
          some (.asks (.findPlayerIds accountId)) := by
        rw [h.account, haccount]
        rfl
      refine .asks hasks ?_
      cases hplayerIds : database.findPlayerIds accountId with
      | error failure =>
        refine .posts ?_
        rw [h.playerIds, hplayerIds]
        rfl
      | ok playerIds =>
        cases playerIds with
        | nil =>
          refine .posts ?_
          rw [h.playerIds, hplayerIds]
          rfl
        | cons playerId rest =>
          have hrest := posts_loadProfiles h rest playerId []
          have hasks : (ServiceWork.findPlayerIds accountId).answered (answer (.findPlayerIds accountId)) =
              some (.asks (.findPlayer playerId rest [])) := by
            rw [h.playerIds, hplayerIds]
            rfl
          dsimp only
          cases hloaded : loadProfiles database (playerId :: rest) with
          | error failure =>
            rw [hloaded] at hrest
            exact .asks hasks hrest
          | ok profiles =>
            rw [hloaded] at hrest
            exact .asks hasks hrest

/-- So is the ticket of `selectCharacter`. -/
theorem posts_selectCharacter (h : AnswersFrom database source answer) {accountId : AccountId}
    {playerId : PlayerId} (hpositive : ¬ (accountId = 0 ∨ playerId = 0)) :
    Posts answer (.issue ⟨accountId, playerId⟩)
      (.characterSelection (selectCharacter {} source accountId playerId database)) := by
  have hqueued : ¬ (¬ ({} : Circumstances).queued = true) := not_not.mpr rfl
  rw [selectCharacter, if_neg hpositive, if_neg hqueued, if_neg Bool.false_ne_true]
  refine .posts ?_
  rw [h.authTicket]
  cases issue source accountId playerId database with
  | error failure => rfl
  | ok issued =>
    cases issued with
    | none => rfl
    | some authTicket => rfl

end

/-! ## Every run -/

theorem tracked_new {limiterOptions : LoginAttemptLimiterOptions} {dummyHash : Option String}
    (hnew : Services.new limiterOptions dummyHash = .ok s) : Tracked s ∧ Permitted s := by
  unfold Services.new at hnew
  split at hnew
  · cases hnew
  split at hnew
  · cases hnew
  · rename_i limiter hlimiter _ _
    obtain rfl := Except.ok.inj hnew
    have hjobs : limiter.stats.concurrentPasswordJobs = 0 := by
      unfold LoginAttemptLimiter.new at hlimiter
      split at hlimiter
      · cases hlimiter
      · obtain rfl := Except.ok.inj hlimiter
        rfl
    refine ⟨⟨fun _ _ => ⟨rfl, rfl, List.forall_mem_nil _⟩, List.nodup_nil, List.forall_mem_nil _,
      List.forall_mem_nil _, ?_, List.forall_mem_nil _, ?_⟩,
      ⟨?_, ?_, ?_, hjobs, List.forall_mem_nil _, List.forall_mem_nil _, ?_⟩⟩
    · intro handler result hevent
      cases hevent
    · intro call result hresult
      cases hresult
    · intro call permit hevent
      cases hevent
    · intro permit hevent
      cases hevent
    · intro call other permit hevent
      cases hevent
    · intro call permit hevent
      cases hevent

/-- The executor has nothing left to do. -/
structure Drained (s : Services) : Prop where
  answer : ∀ index answer, s.next (.answer index answer) = none
  destroy : ∀ index, s.next (.destroy index) = none

theorem exists_answer (work : ServiceWork) (failure : Failure) :
    ∃ answer progress, work.answered answer = some progress := by
  cases work with
  | findAccountByLoginId => exact ⟨.account (.error failure), _, rfl⟩
  | verifyPassword => exact ⟨.passwordMatches (.error failure), _, rfl⟩
  | verifyTicket => exact ⟨.authContext (.error failure), _, rfl⟩
  | findProfile => exact ⟨.profile (.error failure), _, rfl⟩
  | findAccount => exact ⟨.account (.error failure), _, rfl⟩
  | findPlayerIds => exact ⟨.playerIds (.error failure), _, rfl⟩
  | findPlayer => exact ⟨.profile (.error failure), _, rfl⟩
  | issue => exact ⟨.authTicket (.error failure), _, rfl⟩

theorem drained_iff : Drained s ↔ s.tasks = [] := by
  constructor
  · intro h
    cases htasks : s.tasks with
    | nil => rfl
    | cons task rest =>
      have htask : s.tasks[0]? = some task := by
        rw [htasks]
        rfl
      cases hwork : task.work with
      | none =>
        have hdestroy := h.destroy 0
        simp [Services.next, htask, hwork] at hdestroy
      | some work =>
        obtain ⟨answer, progress, hanswered⟩ := exists_answer work (.runtimeError "")
        have hanswer := h.answer 0 answer
        simp [Services.next, htask, hwork, hanswered] at hanswer
  · intro h
    constructor
    · intro index answer
      simp [Services.next, h]
    · intro index
      simp [Services.next, h]

/-- Over any run of calls with any answers: each call has one completion or one task that will complete it,
the work ends whatever the answers are, a success carries the value of the work, a failure carries nothing,
and each permit is released once, when the work of its call or its rejection is over. -/
theorem completed_of_run {limiterOptions : LoginAttemptLimiterOptions} {dummyHash : Option String}
    {start : Services} {steps : List ServiceStep}
    (hnew : Services.new limiterOptions dummyHash = .ok start)
    (hrun : run Services.next start steps = some s) :
    (∀ call ∈ s.calls, (completions call s.events).length + pending call s.tasks = 1) ∧
    (∀ handler result, .posted handler result ∈ s.events → ∃ call ∈ s.calls, handler = some call) ∧
    (WellFounded fun after before : ServiceWork => ∃ answer, before.answered answer = some (.asks after)) ∧
    (∀ call, ∀ result ∈ completions call s.events,
      (result.isSuccess = true → Succeeds (answers call s.events) result) ∧
      (result.isSuccess = false → result.Bare)) ∧
    (∀ call permit, .acquired call permit ∈ s.events → ReleasedOnce call permit s.events ∨
      .released permit ∉ s.events ∧ ∃ task ∈ s.tasks, task.call = call ∧ task.permit = some permit) ∧
    s.limiter.stats.concurrentPasswordJobs = (s.tasks.filterMap (·.permit)).length ∧
    (Drained s → (∀ call ∈ s.calls, ∃ result, completions call s.events = [result]) ∧
      (∀ call permit, .acquired call permit ∈ s.events → ReleasedOnce call permit s.events) ∧
      s.limiter.stats.concurrentPasswordJobs = 0) := by
  obtain ⟨ht, hp⟩ : Tracked s ∧ Permitted s := by
    refine reachable_invariant (fun s => Tracked s ∧ Permitted s) ?_ (tracked_new hnew) ⟨steps, hrun⟩
    intro s step t h hnext
    have hm := moves_of_next hnext
    exact ⟨h.1.moves hm, h.2.moves h.1 hm⟩
  have hsettled : ∀ call permit, .acquired call permit ∈ s.events → ReleasedOnce call permit s.events ∨
      .released permit ∉ s.events ∧ ∃ task ∈ s.tasks, task.call = call ∧ task.permit = some permit := by
    intro call permit hevent
    rcases hp.settled call permit hevent with ⟨task, htask, hcall, hpermit⟩ | ⟨hdone, -⟩
    · exact .inr ⟨(hp.held task htask permit hpermit).2, task, htask, hcall, hpermit⟩
    · exact .inl hdone
  refine ⟨ht.once, ht.known, asks_wellFounded, ?_, hsettled, hp.jobs, ?_⟩
  · intro call result hresult
    have hjustified := ht.justified call result hresult
    exact ⟨hjustified.success, hjustified.failure⟩
  · intro hdrained
    have hnone := drained_iff.mp hdrained
    have hjobs := hp.jobs
    rw [hnone] at hjobs
    refine ⟨?_, ?_, hjobs⟩
    · intro call hmade
      have honce := ht.once call hmade
      rw [hnone] at honce
      exact List.length_eq_one_iff.mp honce
    · intro call permit hevent
      rcases hsettled call permit hevent with hdone | ⟨-, task, htask, -⟩
      · exact hdone
      · rw [hnone] at htask
        cases htask

/-- A password that matches, a login that the executor refuses and a list whose second player is missing. -/
theorem completed_of_run_mixed : ∃ s : Services,
    completions 1 s.events = [.authentication ⟨.success, some 7⟩] ∧
    completions 2 s.events = [.login ⟨.serviceBusy, none, none⟩] ∧
    completions 3 s.events = [.characterList ⟨.serviceError, []⟩] ∧
    ReleasedOnce 1 0 s.events ∧ s.limiter.stats.concurrentPasswordJobs = 0 := by
  let account : Account := ⟨7, "alice", "scrypt"⟩
  let profile : PlayerProfile := { playerId := 4, name := "hero" }
  let start : Services := ⟨{ options := {} }, "dummy", [], [], []⟩
  let steps : List ServiceStep :=
    [.call 1 false (.authenticate [49] "alice" [112] 0) true, .call 2 false (.login [116]) false,
      .call 3 false (.loadCharacters 7) true, .answer 1 (.account (.ok (some account))),
      .answer 0 (.account (.ok (some account))), .answer 1 (.playerIds (.ok [4, 5])),
      .answer 0 (.passwordMatches (.ok true)), .answer 1 (.profile (.ok (some profile))),
      .answer 1 (.profile (.ok none)), .destroy 0, .destroy 0]
  have hsome : (run Services.next start steps).map (fun s => ((completions 1 s.events,
        completions 2 s.events, completions 3 s.events), decide (.acquired 1 0 ∈ s.events), s.tasks.isEmpty)) =
      some (([.authentication ⟨.success, some 7⟩], [.login ⟨.serviceBusy, none, none⟩],
        [.characterList ⟨.serviceError, []⟩]), true, true) := by
    decide +kernel
  obtain ⟨s, hrun, hs⟩ := Option.map_eq_some_iff.mp hsome
  simp only [Prod.mk.injEq, decide_eq_true_eq, List.isEmpty_iff] at hs
  obtain ⟨⟨hfirst, hsecond, hthird⟩, hacquired, htasks⟩ := hs
  have hnew : Services.new {} (some "dummy") = .ok start := rfl
  obtain ⟨-, -, -, -, -, -, hdrained⟩ := completed_of_run hnew hrun
  obtain ⟨-, hreleased, hjobs⟩ := hdrained (drained_iff.mpr htasks)
  exact ⟨s, hfirst, hsecond, hthird, hreleased 1 0 hacquired, hjobs⟩

end DnfServer.Auth
