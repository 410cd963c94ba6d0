import DnfServer.Library.Runs
import DnfServer.Library.SlidingWindow
import DnfServer.Model.LoginAttempts

/-!
# Admission of login attempts

`Ledger` is the specification of the limiter: it keeps the accepted attempts and decides from
those of the last window. The limiter keeps, for each key, only recent times, drops expired ones
at the key it looks at, and drops all of them only when it has to make room. Whatever it still
holds beyond the window never decides anything.
-/

namespace DnfServer.Auth

open Std DnfServer.Library
set_option autoImplicit false

/-! ## The specification -/

structure Attempt where
  ip : Bytes
  account : Bytes
  time : Int
  deriving DecidableEq

inductive Verdict where
  | accepted | rejectedByIp | rejectedByAccount | rejectedByTrackingCapacity | rejectedByConcurrency
  deriving DecidableEq, Repr

def Verdict.status : Verdict → LoginAdmissionStatus
  | accepted => .accepted
  | rejectedByIp | rejectedByAccount => .rateLimited
  | rejectedByTrackingCapacity | rejectedByConcurrency => .serviceBusy

inductive LimiterCall where
  | tryAcquire (clientAddress accountLoginId : Bytes) (now : Int)
  | release (permit : Nat)

def LimiterCall.isAttempt : LimiterCall → Bool
  | tryAcquire .. => true
  | release _ => false

/-- The accepted attempts, oldest first, the permits that are alive and the verdicts so far. -/
structure Ledger where
  attempts : List Attempt := []
  permits : List Nat := []
  verdicts : List Verdict := []

namespace Ledger

def byIp (ledger : Ledger) : DatedLog Bytes := ledger.attempts.map fun a => (a.ip, a.time)

def byAccount (ledger : Ledger) : DatedLog Bytes := ledger.attempts.map fun a => (a.account, a.time)

def verdict (options : LoginAttemptLimiterOptions) (ip account : Bytes) (now : Int)
    (ledger : Ledger) : Verdict :=
  let cutoff := now - options.attemptWindow
  if (ledger.byIp.live cutoff now ip).length ≥ options.maxAttemptsPerIp then .rejectedByIp
  else if (ledger.byAccount.live cutoff now account).length ≥ options.maxAttemptsPerAccount then
    .rejectedByAccount
  else if (ledger.byIp.live cutoff now ip = [] ∧
        (ledger.byIp.liveKeys cutoff now).length ≥ options.maxTrackedIps) ∨
      (ledger.byAccount.live cutoff now account = [] ∧
        (ledger.byAccount.liveKeys cutoff now).length ≥ options.maxTrackedAccounts) then
    .rejectedByTrackingCapacity
  else if ledger.permits.length ≥ options.maxConcurrentPasswordJobs then .rejectedByConcurrency
  else .accepted

/-- An accepted attempt is noted with its permit; a rejected one leaves its verdict only. -/
def note (attempt : Attempt) (verdict : Verdict) (ledger : Ledger) : Ledger :=
  match verdict with
  | .accepted =>
    { attempts := ledger.attempts ++ [attempt]
      permits := ledger.permits ++ [ledger.attempts.length]
      verdicts := ledger.verdicts ++ [verdict] }
  | _ => { ledger with verdicts := ledger.verdicts ++ [verdict] }

def step (options : LoginAttemptLimiterOptions) (ledger : Ledger) : LimiterCall → Ledger
  | .tryAcquire clientAddress accountLoginId now =>
    let ip := LoginAttemptLimiter.ipKey clientAddress
    let account := normalizeAccountLoginId accountLoginId
    ledger.note ⟨ip, account, now⟩ (ledger.verdict options ip account now)
  | .release permit => { ledger with permits := ledger.permits.erase permit }

/-- The admission that a verdict stands for. -/
def admissionOf (ledger : Ledger) (verdict : Verdict) : LoginAdmission :=
  { status := verdict.status
    permit := if verdict = .accepted then some ledger.attempts.length else none }

theorem note_permits (ledger : Ledger) (attempt : Attempt) (verdict : Verdict) :
    (ledger.note attempt verdict).permits =
      ledger.permits ++ (ledger.admissionOf verdict).permit.toList := by
  cases verdict <;> simp [note, admissionOf]

theorem note_verdicts (ledger : Ledger) (attempt : Attempt) (verdict : Verdict) :
    (ledger.note attempt verdict).verdicts = ledger.verdicts ++ [verdict] := by
  cases verdict <;> rfl

theorem note_of_rejected (ledger : Ledger) (attempt : Attempt) {verdict : Verdict}
    (hv : verdict ≠ .accepted) :
    ledger.note attempt verdict = { ledger with verdicts := ledger.verdicts ++ [verdict] } := by
  cases verdict with
  | accepted => exact absurd rfl hv
  | _ => rfl

/-- A verdict looks at the accepted attempts and the permits only. -/
theorem verdict_congr (options : LoginAttemptLimiterOptions) {ledger other : Ledger}
    (ha : ledger.attempts = other.attempts) (hp : ledger.permits = other.permits)
    (ip account : Bytes) (now : Int) :
    ledger.verdict options ip account now = other.verdict options ip account now := by
  obtain ⟨attempts, permits, verdicts⟩ := ledger
  obtain rfl : attempts = other.attempts := ha
  obtain rfl : permits = other.permits := hp
  rfl

end Ledger

/-! ## Runs of the limiter -/

structure LimiterRun where
  limiter : LoginAttemptLimiter
  clock : Int
  permits : List Nat := []
  admissions : List LoginAdmission := []

/-- The clock does not go back, and a permit is destroyed once. -/
def LimiterRun.next (w : LimiterRun) : LimiterCall → Option LimiterRun
  | .tryAcquire clientAddress accountLoginId now =>
    if w.clock ≤ now then
      let out := w.limiter.tryAcquire clientAddress accountLoginId now
      some { limiter := out.2, clock := now, permits := w.permits ++ out.1.permit.toList
             admissions := w.admissions ++ [out.1] }
    else none
  | .release permit =>
    if permit ∈ w.permits then
      some { w with limiter := w.limiter.releasePermit, permits := w.permits.erase permit }
    else none

/-! ## The maps of the limiter -/

variable {log : DatedLog Bytes} {cutoff now : Int} {m : AttemptMap} {key : Bytes}

theorem pruneExpired_lookup (cutoff : Int) (m : AttemptMap) (key : Bytes) :
    (pruneExpired cutoff m)[key]? = trimmed cutoff m[key]? := by
  rw [pruneExpired, ExtTreeMap.getElem?_filterMap']
  cases m[key]? with
  | none => rfl
  | some history => by_cases h : popExpired cutoff history = [] <;> simp_all [trimmed, popExpired]

theorem findAndPrune_spec (key : Bytes) (cutoff : Int) (m : AttemptMap) :
    (findAndPrune key cutoff m).1 = trimmed cutoff m[key]? ∧
    (findAndPrune key cutoff m).2[key]? = trimmed cutoff m[key]? ∧
    Trims cutoff m (findAndPrune key cutoff m).2 ∧
    (findAndPrune key cutoff m).2.size ≤ m.size := by
  cases hm : m[key]? with
  | none => simp [findAndPrune, hm, trimmed, Trims]
  | some history =>
    by_cases hnil : popExpired cutoff history = []
    · have ht : trimmed cutoff (some history) = none := by
        simp_all [trimmed, popExpired]
      simp only [findAndPrune, hm, hnil, if_true, ht]
      refine ⟨trivial, by simp, ?_, ?_⟩
      · intro other
        by_cases hne : key = other
        · subst hne
          exact .inr (by simp [hm, ht])
        · exact .inl (by grind)
      · grind
    · have ht : trimmed cutoff (some history) = some (popExpired cutoff history) := by
        simp_all [trimmed, popExpired]
      simp only [findAndPrune, hm, hnil, if_false, ht]
      refine ⟨trivial, by simp, ?_, ?_⟩
      · intro other
        by_cases hne : key = other
        · subst hne
          exact .inr (by simp [hm, ht])
        · exact .inl (by grind)
      · grind

theorem isNone_trimmed_iff (h : Mirrors log cutoff m) (hlast : DatedLog.UpTo now log) :
    (trimmed cutoff m[key]?).isNone ↔ log.live cutoff now key = [] := by
  rw [DatedLog.live_eq hlast, ← h.trimmed_eq key]
  have hne := trimmed_ne_nil cutoff m[key]?
  cases ht : trimmed cutoff m[key]? with
  | none => simp
  | some times =>
    rw [ht] at hne
    simpa using hne

variable (key) in
/-- The length of what is found is the number of live attempts. -/
theorem any_trimmed_iff (h : Mirrors log cutoff m) (hlast : DatedLog.UpTo now log) {limit : Nat}
    (hpos : 0 < limit) : (trimmed cutoff m[key]?).any (·.length ≥ limit) = true ↔
      (log.live cutoff now key).length ≥ limit := by
  rw [DatedLog.live_eq hlast, ← h.trimmed_eq key]
  cases trimmed cutoff m[key]? with
  | none => simpa using Nat.ne_of_gt hpos
  | some times => simp

/-- Whether there is room for the key is decided by the live keys: the map is as large as their
number once it has been pruned, and is pruned before it is found full. -/
theorem needsEntry_spec (h : Mirrors log cutoff m) (hlast : DatedLog.UpTo now log)
    (hkey : m[key]? = trimmed cutoff m[key]?) {maxTracked : Nat} {needs : Bool} {m' : AttemptMap}
    (he : needsEntry key cutoff maxTracked m[key]? m = (needs, m')) :
    Mirrors log cutoff m' ∧ m'.size ≤ m.size ∧ (needs = true ↔ key ∉ m') ∧
      ((needs = true ∧ m'.size ≥ maxTracked) ↔
        log.live cutoff now key = [] ∧ (log.liveKeys cutoff now).length ≥ maxTracked) := by
  have hnone : m[key]?.isNone ↔ log.live cutoff now key = [] := by
    rw [hkey]
    exact isNone_trimmed_iff h hlast
  by_cases hfull : m[key]?.isNone ∧ m.size ≥ maxTracked
  · have htrims : Trims cutoff m (pruneExpired cutoff m) :=
      fun other => .inr (pruneExpired_lookup cutoff m other)
    have hp := h.trims htrims
    have hsize : (pruneExpired cutoff m).size = (log.liveKeys cutoff now).length := by
      refine hp.size_eq_liveKeys hlast ?_
      intro other
      rw [pruneExpired_lookup, trimmed_trimmed]
    have hsame : (pruneExpired cutoff m)[key]? = m[key]? := by rw [pruneExpired_lookup, ← hkey]
    have hcontains : (pruneExpired cutoff m).contains key = false := by
      have := hfull.1
      grind
    simp only [needsEntry, hfull, and_self, if_true, hcontains] at he
    obtain ⟨rfl, rfl⟩ := Prod.mk.inj he
    refine ⟨hp, ExtTreeMap.size_filterMap_le_size, by grind, ?_⟩
    rw [hsize]
    simp [hnone.mp hfull.1]
  · simp only [needsEntry, if_neg hfull] at he
    obtain ⟨rfl, rfl⟩ := Prod.mk.inj he
    refine ⟨h, Nat.le_refl _, by grind, ?_⟩
    have := h.liveKeys_le_size hlast
    constructor
    · exact fun hboth => absurd hboth hfull
    · intro hboth
      exact absurd ⟨hnone.mpr hboth.1, Nat.le_trans hboth.2 this⟩ hfull

/-! ## The limiter follows the specification -/

/-- The counters of the limiter after a verdict. -/
def Verdict.tally (stats : LoginAttemptLimiterStats) : Verdict → LoginAttemptLimiterStats
  | accepted => { stats with
      concurrentPasswordJobs := stats.concurrentPasswordJobs + 1
      acceptedAttempts := stats.acceptedAttempts + 1 }
  | rejectedByIp => { stats with rejectedByIp := stats.rejectedByIp + 1 }
  | rejectedByAccount => { stats with rejectedByAccount := stats.rejectedByAccount + 1 }
  | rejectedByTrackingCapacity =>
    { stats with rejectedByTrackingCapacity := stats.rejectedByTrackingCapacity + 1 }
  | rejectedByConcurrency => { stats with rejectedByConcurrency := stats.rejectedByConcurrency + 1 }

/-- The counters are those of the verdicts. -/
structure Tallied (stats : LoginAttemptLimiterStats) (ledger : Ledger) : Prop where
  jobs : stats.concurrentPasswordJobs = ledger.permits.length
  numbered : stats.acceptedAttempts = ledger.attempts.length
  accepted : stats.acceptedAttempts = ledger.verdicts.count .accepted
  byIp : stats.rejectedByIp = ledger.verdicts.count .rejectedByIp
  byAccount : stats.rejectedByAccount = ledger.verdicts.count .rejectedByAccount
  byTrackingCapacity :
    stats.rejectedByTrackingCapacity = ledger.verdicts.count .rejectedByTrackingCapacity
  byConcurrency : stats.rejectedByConcurrency = ledger.verdicts.count .rejectedByConcurrency

structure Refines (options : LoginAttemptLimiterOptions) (clock : Int)
    (limiter : LoginAttemptLimiter) (ledger : Ledger) : Prop where
  same : limiter.options = options
  upTo : ∀ attempt ∈ ledger.attempts, attempt.time ≤ clock
  ips : Mirrors ledger.byIp (clock - options.attemptWindow) limiter.ipAttempts
  accounts : Mirrors ledger.byAccount (clock - options.attemptWindow) limiter.accountAttempts
  ipsTracked : limiter.ipAttempts.size ≤ options.maxTrackedIps
  accountsTracked : limiter.accountAttempts.size ≤ options.maxTrackedAccounts
  tallied : Tallied limiter.stats ledger
  ipQuota : DatedLog.Within options.attemptWindow options.maxAttemptsPerIp ledger.byIp
  accountQuota : DatedLog.Within options.attemptWindow options.maxAttemptsPerAccount ledger.byAccount

theorem Tallied.note {stats : LoginAttemptLimiterStats} {ledger : Ledger} (h : Tallied stats ledger)
    (attempt : Attempt) (verdict : Verdict) :
    Tallied (verdict.tally stats) (ledger.note attempt verdict) := by
  obtain ⟨h1, h2, h3, h4, h5, h6, h7⟩ := h
  cases verdict <;> constructor <;>
    simp [Verdict.tally, Ledger.note, List.count_append, h1, h2, h4, h5, h6, h7] <;> omega

namespace Refines

variable {options : LoginAttemptLimiterOptions} {clock : Int} {limiter : LoginAttemptLimiter}
  {ledger : Ledger}

theorem ipsUpTo (h : Refines options clock limiter ledger) : DatedLog.UpTo clock ledger.byIp := by
  intro event he
  obtain ⟨attempt, ha, rfl⟩ := List.mem_map.mp he
  exact h.upTo attempt ha

theorem accountsUpTo (h : Refines options clock limiter ledger) :
    DatedLog.UpTo clock ledger.byAccount := by
  intro event he
  obtain ⟨attempt, ha, rfl⟩ := List.mem_map.mp he
  exact h.upTo attempt ha

theorem later (h : Refines options clock limiter ledger) (hle : clock ≤ now) :
    Refines options now limiter ledger :=
  { h with
    upTo := fun attempt ha => Int.le_trans (h.upTo attempt ha) hle
    ips := h.ips.mono (by omega)
    accounts := h.accounts.mono (by omega) }

/-- Maps that still mirror the attempts and are no larger may take the place of those there. -/
theorem remap (h : Refines options clock limiter ledger) {ips accounts : AttemptMap}
    (hips : Mirrors ledger.byIp (clock - options.attemptWindow) ips)
    (haccounts : Mirrors ledger.byAccount (clock - options.attemptWindow) accounts)
    (hi : ips.size ≤ limiter.ipAttempts.size) (ha : accounts.size ≤ limiter.accountAttempts.size) :
    Refines options clock { limiter with ipAttempts := ips, accountAttempts := accounts } ledger :=
  { h with
    ips := hips
    accounts := haccounts
    ipsTracked := Nat.le_trans hi h.ipsTracked
    accountsTracked := Nat.le_trans ha h.accountsTracked }

theorem reject (h : Refines options clock limiter ledger) {verdict : Verdict}
    (hv : verdict ≠ .accepted) (attempt : Attempt) :
    Refines options clock { limiter with stats := verdict.tally limiter.stats }
      (ledger.note attempt verdict) := by
  have ht := h.tallied.note attempt verdict
  cases verdict with
  | accepted => exact absurd rfl hv
  | _ => exact { h with tallied := ht }

/-- An attempt within the limits is noted at both keys. -/
theorem accept (h : Refines options now limiter ledger) {ip account : Bytes}
    (hip : (ledger.byIp.live (now - options.attemptWindow) now ip).length < options.maxAttemptsPerIp)
    (haccount : (ledger.byAccount.live (now - options.attemptWindow) now account).length <
      options.maxAttemptsPerAccount)
    (hiroom : ip ∉ limiter.ipAttempts → limiter.ipAttempts.size < options.maxTrackedIps)
    (haroom : account ∉ limiter.accountAttempts →
      limiter.accountAttempts.size < options.maxTrackedAccounts) :
    Refines options now { limiter with
        ipAttempts := limiter.ipAttempts.insert ip (limiter.ipAttempts[ip]?.getD [] ++ [now])
        accountAttempts := limiter.accountAttempts.insert account
          (limiter.accountAttempts[account]?.getD [] ++ [now])
        stats := Verdict.accepted.tally limiter.stats }
      (ledger.note ⟨ip, account, now⟩ .accepted) := by
  have hbyIp : (ledger.note ⟨ip, account, now⟩ .accepted).byIp = ledger.byIp ++ [(ip, now)] := by
    simp [Ledger.note, Ledger.byIp]
  have hbyAccount : (ledger.note ⟨ip, account, now⟩ .accepted).byAccount =
      ledger.byAccount ++ [(account, now)] := by
    simp [Ledger.note, Ledger.byAccount]
  refine ⟨h.same, ?_, ?_, ?_, ?_, ?_, h.tallied.note ⟨ip, account, now⟩ .accepted, ?_, ?_⟩
  · intro attempt ha
    rcases List.mem_append.mp ha with ha | ha
    · exact h.upTo attempt ha
    · obtain rfl : attempt = ⟨ip, account, now⟩ := by simpa using ha
      exact Int.le_refl _
  · rw [hbyIp]
    exact h.ips.push h.ipsUpTo ip
  · rw [hbyAccount]
    exact h.accounts.push h.accountsUpTo account
  · have := h.ipsTracked
    simp only [ExtTreeMap.size_insert]
    split <;> grind
  · have := h.accountsTracked
    simp only [ExtTreeMap.size_insert]
    split <;> grind
  · rw [hbyIp]
    exact h.ipQuota.append h.ipsUpTo hip
  · rw [hbyAccount]
    exact h.accountQuota.append h.accountsUpTo haccount

/-- The tracking limits and the permits decide the rest. -/
theorem acquirePermit (h : Refines options now limiter ledger) {ip account : Bytes}
    {needsIp needsAccount : Bool}
    (hip : (ledger.byIp.live (now - options.attemptWindow) now ip).length < options.maxAttemptsPerIp)
    (haccount : (ledger.byAccount.live (now - options.attemptWindow) now account).length <
      options.maxAttemptsPerAccount)
    (hineeds : needsIp = true ↔ ip ∉ limiter.ipAttempts)
    (haneeds : needsAccount = true ↔ account ∉ limiter.accountAttempts)
    (hifull : (needsIp = true ∧ limiter.ipAttempts.size ≥ options.maxTrackedIps) ↔
      ledger.byIp.live (now - options.attemptWindow) now ip = [] ∧
        (ledger.byIp.liveKeys (now - options.attemptWindow) now).length ≥ options.maxTrackedIps)
    (hafull : (needsAccount = true ∧ limiter.accountAttempts.size ≥ options.maxTrackedAccounts) ↔
      ledger.byAccount.live (now - options.attemptWindow) now account = [] ∧
        (ledger.byAccount.liveKeys (now - options.attemptWindow) now).length ≥
          options.maxTrackedAccounts) :
    (limiter.acquirePermit ip account now needsIp needsAccount).1 =
      ledger.admissionOf (ledger.verdict options ip account now) ∧
    Refines options now (limiter.acquirePermit ip account now needsIp needsAccount).2
      (ledger.note ⟨ip, account, now⟩ (ledger.verdict options ip account now)) := by
  obtain rfl := h.same
  have hlimits : ledger.verdict limiter.options ip account now =
      if (needsIp = true ∧ limiter.ipAttempts.size ≥ limiter.options.maxTrackedIps) ∨
        (needsAccount = true ∧ limiter.accountAttempts.size ≥ limiter.options.maxTrackedAccounts) then
        .rejectedByTrackingCapacity
      else if limiter.stats.concurrentPasswordJobs ≥ limiter.options.maxConcurrentPasswordJobs then
        .rejectedByConcurrency
      else .accepted := by
    simp only [hifull, hafull, h.tallied.jobs]
    exact (if_neg (Nat.not_le.mpr hip)).trans (if_neg (Nat.not_le.mpr haccount))
  by_cases hfull : (needsIp = true ∧ limiter.ipAttempts.size ≥ limiter.options.maxTrackedIps) ∨
      (needsAccount = true ∧ limiter.accountAttempts.size ≥ limiter.options.maxTrackedAccounts)
  · simp only [hlimits, LoginAttemptLimiter.acquirePermit, if_pos hfull]
    have hrejected : Verdict.rejectedByTrackingCapacity ≠ .accepted := by decide
    exact ⟨rfl, h.reject hrejected _⟩
  by_cases hbusy :
      limiter.stats.concurrentPasswordJobs ≥ limiter.options.maxConcurrentPasswordJobs
  · simp only [hlimits, LoginAttemptLimiter.acquirePermit, if_neg hfull, if_pos hbusy]
    have hrejected : Verdict.rejectedByConcurrency ≠ .accepted := by decide
    exact ⟨rfl, h.reject hrejected _⟩
  · simp only [hlimits, LoginAttemptLimiter.acquirePermit, if_neg hfull, if_neg hbusy]
    refine ⟨by simp [Ledger.admissionOf, Verdict.status, h.tallied.numbered], ?_⟩
    rw [hineeds, haneeds] at hfull
    exact h.accept hip haccount (fun hn => by grind) (fun hn => by grind)

theorem tryAcquire (h : Refines options clock limiter ledger) (hvalid : options.isValid = true)
    (hclock : clock ≤ now) (clientAddress accountLoginId : Bytes) :
    let ip := LoginAttemptLimiter.ipKey clientAddress
    let account := normalizeAccountLoginId accountLoginId
    let verdict := ledger.verdict options ip account now
    (limiter.tryAcquire clientAddress accountLoginId now).1 = ledger.admissionOf verdict ∧
    Refines options now (limiter.tryAcquire clientAddress accountLoginId now).2
      (ledger.note ⟨ip, account, now⟩ verdict) := by
  intro ip account verdict
  obtain rfl := h.same
  have hnow := h.later hclock
  simp only [LoginAttemptLimiterOptions.isValid, decide_eq_true_eq] at hvalid
  obtain ⟨hpos, hapos, -⟩ := hvalid
  obtain ⟨hfoundIp, hipKey, hipTrims, hipSize⟩ :=
    findAndPrune_spec ip (now - limiter.options.attemptWindow) limiter.ipAttempts
  obtain ⟨hfoundAccount, haccountKey, haccountTrims, haccountSize⟩ :=
    findAndPrune_spec account (now - limiter.options.attemptWindow) limiter.accountAttempts
  have hips := hnow.ips.trims hipTrims
  have haccounts := hnow.accounts.trims haccountTrims
  -- the two checks of what was found are checks of the live attempts
  have hipLimit := any_trimmed_iff ip hnow.ips hnow.ipsUpTo hpos
  have haccountLimit := any_trimmed_iff account hnow.accounts hnow.accountsUpTo hapos
  rw [← hfoundIp] at hipLimit
  rw [← hfoundAccount] at haccountLimit
  by_cases hip : (ledger.byIp.live (now - limiter.options.attemptWindow) now ip).length ≥
      limiter.options.maxAttemptsPerIp
  · have hv : verdict = .rejectedByIp := if_pos hip
    have he : limiter.tryAcquire clientAddress accountLoginId now = ({ status := .rateLimited },
        { limiter with
          ipAttempts := (findAndPrune ip (now - limiter.options.attemptWindow) limiter.ipAttempts).2
          stats := Verdict.rejectedByIp.tally limiter.stats }) :=
      if_pos (hipLimit.mpr hip)
    rw [he, hv]
    exact ⟨rfl, (hnow.remap hips hnow.accounts hipSize (Nat.le_refl _)).reject (by decide) _⟩
  by_cases haccount : (ledger.byAccount.live (now - limiter.options.attemptWindow) now
      account).length ≥ limiter.options.maxAttemptsPerAccount
  · have hv : verdict = .rejectedByAccount := (if_neg hip).trans (if_pos haccount)
    have he : limiter.tryAcquire clientAddress accountLoginId now = ({ status := .rateLimited },
        { limiter with
          ipAttempts := (findAndPrune ip (now - limiter.options.attemptWindow) limiter.ipAttempts).2
          accountAttempts := (findAndPrune account (now - limiter.options.attemptWindow)
            limiter.accountAttempts).2
          stats := Verdict.rejectedByAccount.tally limiter.stats }) :=
      (if_neg (mt hipLimit.mp hip)).trans (if_pos (haccountLimit.mpr haccount))
    rw [he, hv]
    exact ⟨rfl, (hnow.remap hips haccounts hipSize haccountSize).reject (by decide) _⟩
  -- neither key is at its limit
  obtain ⟨ipEntry, hipEntry⟩ : ∃ entry, entry = needsEntry ip (now - limiter.options.attemptWindow)
      limiter.options.maxTrackedIps
      (findAndPrune ip (now - limiter.options.attemptWindow) limiter.ipAttempts).1
      (findAndPrune ip (now - limiter.options.attemptWindow) limiter.ipAttempts).2 := ⟨_, rfl⟩
  obtain ⟨accountEntry, haccountEntry⟩ : ∃ entry, entry =
      needsEntry account (now - limiter.options.attemptWindow) limiter.options.maxTrackedAccounts
      (findAndPrune account (now - limiter.options.attemptWindow) limiter.accountAttempts).1
      (findAndPrune account (now - limiter.options.attemptWindow) limiter.accountAttempts).2 :=
    ⟨_, rfl⟩
  have he : limiter.tryAcquire clientAddress accountLoginId now =
      { limiter with ipAttempts := ipEntry.2, accountAttempts := accountEntry.2 }.acquirePermit ip account
        now ipEntry.1 accountEntry.1 := by
    rw [hipEntry, haccountEntry]
    exact (if_neg (mt hipLimit.mp hip)).trans (if_neg (mt haccountLimit.mp haccount))
  rw [hfoundIp, ← hipKey] at hipEntry
  rw [hfoundAccount, ← haccountKey] at haccountEntry
  obtain ⟨hips', hisize, hineeds, hifull⟩ := needsEntry_spec hips hnow.ipsUpTo
    (by rw [hipKey, trimmed_trimmed]) hipEntry.symm
  obtain ⟨haccounts', hasize, haneeds, hafull⟩ := needsEntry_spec haccounts hnow.accountsUpTo
    (by rw [haccountKey, trimmed_trimmed]) haccountEntry.symm
  rw [he]
  exact (hnow.remap hips' haccounts' (Nat.le_trans hisize hipSize)
    (Nat.le_trans hasize haccountSize)).acquirePermit (Nat.not_le.mp hip) (Nat.not_le.mp haccount) hineeds
      haneeds hifull hafull

theorem release (h : Refines options clock limiter ledger) {permit : Nat}
    (hp : permit ∈ ledger.permits) :
    Refines options clock limiter.releasePermit
      { ledger with permits := ledger.permits.erase permit } := by
  have hjobs := h.tallied.jobs
  have hpos : 0 < ledger.permits.length := List.length_pos_of_mem hp
  have hlen : (ledger.permits.erase permit).length = ledger.permits.length - 1 :=
    List.length_erase_of_mem hp
  have he : limiter.releasePermit = { limiter with stats := { limiter.stats with
      concurrentPasswordJobs := limiter.stats.concurrentPasswordJobs - 1 } } :=
    if_pos (by omega)
  rw [he]
  obtain ⟨h1, h2, h3, h4, h5, h6, h7⟩ := h.tallied
  exact { h with tallied := ⟨by simp only [hlen, h1], h2, h3, h4, h5, h6, h7⟩ }

end Refines

/-! ## Over a run -/

variable {options : LoginAttemptLimiterOptions} {w v : LimiterRun} {ledger other : Ledger}

structure Follows (options : LoginAttemptLimiterOptions) (w : LimiterRun) (ledger : Ledger) : Prop where
  refines : Refines options w.clock w.limiter ledger
  permits : w.permits = ledger.permits
  admissions : w.admissions.map (fun a => (a.status, a.permit.isSome)) =
    ledger.verdicts.map fun v => (v.status, decide (v = .accepted))

namespace Follows

theorem initial {limiter : LoginAttemptLimiter} (hnew : LoginAttemptLimiter.new options = .ok limiter)
    (clock : Int) : Follows options { limiter, clock } {} := by
  simp only [LoginAttemptLimiter.new] at hnew
  split at hnew
  · cases hnew
  · obtain rfl := Except.ok.inj hnew
    refine ⟨⟨rfl, by simp, Mirrors.empty _, Mirrors.empty _, by simp, by simp, ?_,
      DatedLog.within_nil, DatedLog.within_nil⟩, rfl, rfl⟩
    constructor <;> rfl

theorem next (h : Follows options w ledger) (hvalid : options.isValid = true) {call : LimiterCall}
    {w' : LimiterRun} (hn : w.next call = some w') : Follows options w' (ledger.step options call) := by
  cases call with
  | tryAcquire clientAddress accountLoginId now =>
    simp only [LimiterRun.next] at hn
    split at hn
    · rename_i hclock
      obtain rfl := Option.some.inj hn
      obtain ⟨hadmission, hrefines⟩ :=
        h.refines.tryAcquire hvalid hclock clientAddress accountLoginId
      refine ⟨hrefines, ?_, ?_⟩
      · simp only [Ledger.step, Ledger.note_permits, hadmission, h.permits]
      · simp only [Ledger.step, Ledger.note_verdicts, hadmission, List.map_append, h.admissions]
        congr 1
        simp [Ledger.admissionOf]
        split <;> simp_all
    · cases hn
  | release permit =>
    simp only [LimiterRun.next] at hn
    split at hn
    · rename_i hp
      obtain rfl := Option.some.inj hn
      exact ⟨h.refines.release (h.permits ▸ hp), by simp only [Ledger.step, h.permits], h.admissions⟩
    · cases hn

theorem run (h : Follows options w ledger) (hvalid : options.isValid = true)
    {calls : List LimiterCall} {w' : LimiterRun} (hr : run LimiterRun.next w calls = some w') :
    Follows options w' (calls.foldl (Ledger.step options) ledger) := by
  induction calls generalizing w ledger with
  | nil =>
    obtain rfl := Option.some.inj hr
    exact h
  | cons call calls ih =>
    obtain ⟨u, hu, hr⟩ := run_cons.mp hr
    exact ih (h.next hvalid hu) hr

/-- Two runs with the same accepted attempts and the same permits go on alike, when the second
has read the clock no later than the first. -/
theorem alike (h : Follows options w ledger) (h' : Follows options v other)
    (hvalid : options.isValid = true) (ha : ledger.attempts = other.attempts)
    (hp : ledger.permits = other.permits) (hclock : v.clock ≤ w.clock) {calls : List LimiterCall}
    {w' : LimiterRun} (hr : Library.run LimiterRun.next w calls = some w') :
    ∃ v' verdicts, Library.run LimiterRun.next v calls = some v' ∧
      (calls.foldl (Ledger.step options) ledger).verdicts = ledger.verdicts ++ verdicts ∧
      (calls.foldl (Ledger.step options) other).verdicts = other.verdicts ++ verdicts := by
  induction calls generalizing w v ledger other with
  | nil => exact ⟨v, [], rfl, by simp⟩
  | cons call calls ih =>
    obtain ⟨u, hu, hrest⟩ := run_cons.mp hr
    have hnext := h.next hvalid hu
    cases call with
    | tryAcquire clientAddress accountLoginId now =>
      have hle : w.clock ≤ now := by
        by_contra hne
        simp [LimiterRun.next, hne] at hu
      obtain ⟨u', hu'⟩ : ∃ u', v.next (.tryAcquire clientAddress accountLoginId now) = some u' :=
        ⟨_, if_pos (Int.le_trans hclock hle)⟩
      have hclocks : u'.clock ≤ u.clock := by
        simp only [LimiterRun.next, if_pos hle, if_pos (Int.le_trans hclock hle)] at hu hu'
        obtain rfl := Option.some.inj hu
        obtain rfl := Option.some.inj hu'
        exact Int.le_refl _
      obtain ⟨attempt, verdict, hs, hs'⟩ : ∃ attempt verdict,
          ledger.step options (.tryAcquire clientAddress accountLoginId now) =
            ledger.note attempt verdict ∧
          other.step options (.tryAcquire clientAddress accountLoginId now) =
            other.note attempt verdict :=
        ⟨_, _, rfl, by rw [Ledger.verdict_congr options ha hp]; rfl⟩
      have hnext' := h'.next hvalid hu'
      rw [hs] at hnext
      rw [hs'] at hnext'
      obtain ⟨v', verdicts, hv', he, he'⟩ := ih hnext hnext' (by cases verdict <;> simp [Ledger.note, ha])
        (by cases verdict <;> simp [Ledger.note, ha, hp]) hclocks hrest
      refine ⟨v', verdict :: verdicts, run_cons.mpr ⟨u', hu', hv'⟩, ?_, ?_⟩
      · rw [List.foldl_cons, hs, he, Ledger.note_verdicts, List.append_assoc]
        rfl
      · rw [List.foldl_cons, hs', he', Ledger.note_verdicts, List.append_assoc]
        rfl
    | release permit =>
      have hin : permit ∈ w.permits := by
        by_contra hne
        simp [LimiterRun.next, hne] at hu
      have hin' : permit ∈ v.permits := by rw [h'.permits, ← hp, ← h.permits]; exact hin
      obtain ⟨u', hu'⟩ : ∃ u', v.next (.release permit) = some u' := ⟨_, if_pos hin'⟩
      have hclocks : u'.clock ≤ u.clock := by
        simp only [LimiterRun.next, if_pos hin, if_pos hin'] at hu hu'
        obtain rfl := Option.some.inj hu
        obtain rfl := Option.some.inj hu'
        exact hclock
      obtain ⟨v', verdicts, hv', he, he'⟩ := ih hnext (h'.next hvalid hu') ha
        (by simp only [Ledger.step, hp]) hclocks hrest
      exact ⟨v', verdicts, run_cons.mpr ⟨u', hu', hv'⟩, he, he'⟩

/-- Each attempt adds one verdict. -/
theorem verdicts_foldl (options : LoginAttemptLimiterOptions) (calls : List LimiterCall)
    (ledger : Ledger) : ∃ verdicts, verdicts.length = calls.countP (·.isAttempt) ∧
      (calls.foldl (Ledger.step options) ledger).verdicts = ledger.verdicts ++ verdicts := by
  induction calls generalizing ledger with
  | nil => exact ⟨[], rfl, by simp⟩
  | cons call calls ih =>
    cases call with
    | tryAcquire clientAddress accountLoginId now =>
      obtain ⟨verdicts, hlen, he⟩ :=
        ih (ledger.step options (.tryAcquire clientAddress accountLoginId now))
      obtain ⟨attempt, verdict, hs⟩ : ∃ attempt verdict,
          ledger.step options (.tryAcquire clientAddress accountLoginId now) =
            ledger.note attempt verdict := ⟨_, _, rfl⟩
      refine ⟨verdict :: verdicts, by simp [LimiterCall.isAttempt, hlen], ?_⟩
      rw [List.foldl_cons, he, hs, Ledger.note_verdicts, List.append_assoc]
      rfl
    | release permit =>
      obtain ⟨verdicts, hlen, he⟩ := ih (ledger.step options (.release permit))
      exact ⟨verdicts, by simp [LimiterCall.isAttempt, hlen], he⟩

theorem statuses (h : Follows options w ledger) :
    w.admissions.map (·.status) = ledger.verdicts.map Verdict.status := by
  have := congrArg (List.map Prod.fst) h.admissions
  simpa [List.map_map, Function.comp_def] using this

/-- A call that was not accepted can be left out of the run. -/
theorem without (h : Follows options w ledger) (hvalid : options.isValid = true)
    {earlier later : List LimiterCall} {clientAddress accountLoginId : Bytes} {now : Int}
    {w' : LimiterRun} {status : LoginAdmissionStatus}
    (hfirst : ledger.verdicts = [])
    (hr : Library.run LimiterRun.next w
      (earlier ++ .tryAcquire clientAddress accountLoginId now :: later) = some w')
    (hstatus : (w'.admissions.map (·.status))[earlier.countP (·.isAttempt)]? = some status)
    (hrejected : status ≠ .accepted) :
    ∃ v, Library.run LimiterRun.next w (earlier ++ later) = some v ∧
      v.admissions.map (·.status) =
        (w'.admissions.map (·.status)).eraseIdx (earlier.countP (·.isAttempt)) := by
  obtain ⟨u, hu, hrest⟩ := run_append.mp hr
  obtain ⟨u', hu', hlater⟩ := run_cons.mp hrest
  have hfollows := h.run hvalid hu
  have hfollows' := hfollows.next hvalid hu'
  obtain ⟨attempt, verdict, hs⟩ : ∃ attempt verdict, (earlier.foldl (Ledger.step options) ledger).step
      options (.tryAcquire clientAddress accountLoginId now) =
        (earlier.foldl (Ledger.step options) ledger).note attempt verdict := ⟨_, _, rfl⟩
  have hclock : u.clock ≤ u'.clock := by
    simp only [LimiterRun.next] at hu'
    split at hu'
    · obtain rfl := Option.some.inj hu'
      assumption
    · cases hu'
  obtain ⟨before, hlen, hbefore⟩ := verdicts_foldl options earlier ledger
  rw [hfirst, List.nil_append] at hbefore
  have hlast := hfollows'.run hvalid hlater
  rw [hs] at hfollows' hlast
  have hv : verdict ≠ .accepted := by
    rintro rfl
    obtain ⟨after, -, hafter⟩ := verdicts_foldl options later
      ((earlier.foldl (Ledger.step options) ledger).note attempt .accepted)
    rw [hlast.statuses, hafter, Ledger.note_verdicts, hbefore, ← hlen] at hstatus
    have haccepted : status = .accepted := by simpa [Verdict.status] using hstatus.symm
    exact hrejected haccepted
  obtain ⟨v, after, hrun, he, he'⟩ := hfollows'.alike hfollows hvalid
    (by rw [Ledger.note_of_rejected _ _ hv]) (by rw [Ledger.note_of_rejected _ _ hv]) hclock hlater
  refine ⟨v, run_append.mpr ⟨u, hu, hrun⟩, ?_⟩
  rw [(hfollows.run hvalid hrun).statuses, he', hlast.statuses, he, Ledger.note_verdicts, hbefore,
    ← hlen]
  simp [List.eraseIdx_append_of_length_le]

end Follows

/-- The limiter admits and counts what the ledger of the accepted attempts says. Its permits are
those of the ledger, no window has more accepted attempts of a key than the limit, and a call
that was not accepted could be left out without any other outcome changing. The sizes of its maps
lie between the number of live keys and the tracking limits. -/
theorem limiter_follows_ledger {limiter : LoginAttemptLimiter} {clock : Int}
    {calls : List LimiterCall} (hnew : LoginAttemptLimiter.new options = .ok limiter)
    (hr : run LimiterRun.next { limiter, clock } calls = some w) :
    ∃ ledger, ledger = calls.foldl (Ledger.step options) {} ∧
      w.admissions.map (fun a => (a.status, a.permit.isSome)) =
        ledger.verdicts.map (fun v => (v.status, decide (v = .accepted))) ∧
      w.limiter.currentStats.acceptedAttempts = ledger.verdicts.count .accepted ∧
      w.limiter.currentStats.rejectedByIp = ledger.verdicts.count .rejectedByIp ∧
      w.limiter.currentStats.rejectedByAccount = ledger.verdicts.count .rejectedByAccount ∧
      w.limiter.currentStats.rejectedByConcurrency =
        ledger.verdicts.count .rejectedByConcurrency ∧
      w.limiter.currentStats.rejectedByTrackingCapacity =
        ledger.verdicts.count .rejectedByTrackingCapacity ∧
      w.permits = ledger.permits ∧
      w.limiter.currentStats.concurrentPasswordJobs = w.permits.length ∧
      (∀ now, w.clock ≤ now →
        (ledger.byIp.liveKeys (now - options.attemptWindow) now).length ≤
          w.limiter.currentStats.trackedIps ∧
        (ledger.byAccount.liveKeys (now - options.attemptWindow) now).length ≤
          w.limiter.currentStats.trackedAccounts) ∧
      w.limiter.currentStats.trackedIps ≤ options.maxTrackedIps ∧
      w.limiter.currentStats.trackedAccounts ≤ options.maxTrackedAccounts ∧
      DatedLog.Within options.attemptWindow options.maxAttemptsPerIp ledger.byIp ∧
      DatedLog.Within options.attemptWindow options.maxAttemptsPerAccount ledger.byAccount ∧
      ∀ (earlier later : List LimiterCall) (clientAddress accountLoginId : Bytes) (now : Int)
        (status : LoginAdmissionStatus),
        calls = earlier ++ .tryAcquire clientAddress accountLoginId now :: later →
        (w.admissions.map (·.status))[earlier.countP (·.isAttempt)]? = some status →
        status ≠ .accepted →
        ∃ v, run LimiterRun.next { limiter, clock } (earlier ++ later) = some v ∧
          v.admissions.map (·.status) =
            (w.admissions.map (·.status)).eraseIdx (earlier.countP (·.isAttempt)) := by
  have hvalid : options.isValid = true := by
    by_contra hno
    simp [LoginAttemptLimiter.new, hno] at hnew
  have hfirst := Follows.initial hnew clock
  have h := hfirst.run hvalid hr
  have ht := h.refines.tallied
  refine ⟨_, rfl, h.admissions, ht.accepted, ht.byIp, ht.byAccount, ht.byConcurrency,
    ht.byTrackingCapacity, h.permits, h.permits ▸ ht.jobs, ?_, h.refines.ipsTracked,
    h.refines.accountsTracked, h.refines.ipQuota, h.refines.accountQuota, ?_⟩
  · intro now hnow
    have hlater := h.refines.later hnow
    exact ⟨hlater.ips.liveKeys_le_size hlater.ipsUpTo,
      hlater.accounts.liveKeys_le_size hlater.accountsUpTo⟩
  · intro earlier later clientAddress accountLoginId now status he hstatus hrejected
    subst he
    exact hfirst.without hvalid rfl hr hstatus hrejected

/-- One attempt of each key in a window of ten ticks, and one password job. -/
def strictOptions : LoginAttemptLimiterOptions :=
  { maxAttemptsPerIp := 1, maxAttemptsPerAccount := 1, maxConcurrentPasswordJobs := 1
    maxTrackedIps := 2, maxTrackedAccounts := 2, attemptWindow := 10 }

/-- An account in other letters is the same account, and a rejected call is as if not made. -/
theorem limiter_follows_ledger_strict :
    ∃ w, run LimiterRun.next { limiter := { options := strictOptions }, clock := 0 }
        [.tryAcquire [1] (ascii ['A', 'b']) 0, .release 0, .tryAcquire [2] (ascii ['a', 'B']) 9,
          .tryAcquire [3] (ascii ['a', 'b']) 10] = some w ∧
      w.admissions.map (·.status) = [.accepted, .rateLimited, .accepted] ∧
      w.limiter.currentStats.concurrentPasswordJobs = w.permits.length ∧
      ∃ v, run LimiterRun.next { limiter := { options := strictOptions }, clock := 0 }
          [.tryAcquire [1] (ascii ['A', 'b']) 0, .release 0, .tryAcquire [3] (ascii ['a', 'b']) 10] =
            some v ∧ v.admissions.map (·.status) = [.accepted, .accepted] := by
  have hr : ∃ w, run LimiterRun.next { limiter := { options := strictOptions }, clock := 0 }
      [.tryAcquire [1] (ascii ['A', 'b']) 0, .release 0, .tryAcquire [2] (ascii ['a', 'B']) 9,
        .tryAcquire [3] (ascii ['a', 'b']) 10] = some w ∧
      w.admissions.map (·.status) = [.accepted, .rateLimited, .accepted] := ⟨_, rfl, rfl⟩
  obtain ⟨w, hr, hs⟩ := hr
  have hnew : LoginAttemptLimiter.new strictOptions = .ok { options := strictOptions } := rfl
  obtain ⟨ledger, -, -, -, -, -, -, -, -, hjobs, -, -, -, -, -, hwithout⟩ :=
    limiter_follows_ledger hnew hr
  refine ⟨w, hr, hs, hjobs, ?_⟩
  obtain ⟨v, hv, he⟩ := hwithout [.tryAcquire [1] (ascii ['A', 'b']) 0, .release 0]
    [.tryAcquire [3] (ascii ['a', 'b']) 10] [2] (ascii ['a', 'B']) 9 .rateLimited rfl
    (by rw [hs]; rfl) (by decide)
  exact ⟨v, hv, by rw [he, hs]; rfl⟩

/-- The maps are pruned when a key is looked up: after a call that was not accepted an account
whose only attempt has left the window is still counted, and the address of that attempt no
longer is. And an empty address has the attempts of the address `unknown`. -/
theorem limiter_counts_stale_keys :
    LoginAttemptLimiter.new strictOptions = .ok { options := strictOptions } ∧
    (∃ w, run LimiterRun.next { limiter := { options := strictOptions }, clock := 0 }
        [.tryAcquire [1] [97] 0, .tryAcquire [1] [98] 10] = some w ∧
      w.admissions.map (·.status) = [.accepted, .serviceBusy] ∧
      w.limiter.currentStats.trackedIps = 0 ∧ w.limiter.currentStats.trackedAccounts = 1 ∧
      DatedLog.liveKeys [(([97] : Bytes), 0)] (10 - strictOptions.attemptWindow) 10 = []) ∧
    ∃ w, run LimiterRun.next { limiter := { options := strictOptions }, clock := 0 }
        [.tryAcquire [] [97] 0,
          .tryAcquire (ascii ['u', 'n', 'k', 'n', 'o', 'w', 'n']) [98] 1] = some w ∧
      w.admissions.map (·.status) = [.accepted, .rateLimited] ∧
      DatedLog.live [(([] : Bytes), 0)] (1 - strictOptions.attemptWindow) 1
        (ascii ['u', 'n', 'k', 'n', 'o', 'w', 'n']) = [] := by
  refine ⟨rfl, ⟨_, rfl, rfl, ?_, ?_, ?_⟩, ⟨_, rfl, rfl, ?_⟩⟩ <;> decide +kernel

end DnfServer.Auth
