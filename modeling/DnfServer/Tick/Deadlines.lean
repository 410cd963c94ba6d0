import DnfServer.Model.TickClock
import Mathlib.Algebra.Order.Group.Unbundled.Int
import Mathlib.Tactic.Ring

/-!
# The deadlines of the tick do not drift

`nextTick` is always a whole number of intervals after the clock reading of `Start`: one for each
processed tick, one for each missed tick and one more. Missed ticks are the overdue deadlines beyond
those that the service catches up on.
-/

namespace DnfServer.Tick

open DungeonTickClock
set_option autoImplicit false

/-! ## Overdue deadlines -/

theorem tickInterval_pos : 0 < tickInterval := by decide

/-- A floor division that counts: the deadlines up to `now`, the first of them at `next`. -/
theorem lt_overdueTickCount {next now : Int} (h : next ≤ now) (k : Nat) :
    k < ((now - next) / tickInterval).toNat + 1 ↔ next + k * tickInterval ≤ now := by
  have hlateness : 0 ≤ now - next := Int.sub_nonneg_of_le h
  have hquotient : 0 ≤ (now - next) / tickInterval :=
    Int.ediv_nonneg hlateness (Int.le_of_lt tickInterval_pos)
  rw [Nat.lt_succ_iff, Int.le_toNat hquotient, Int.le_ediv_iff_mul_le tickInterval_pos]
  constructor
  · intro hk
    omega
  · intro hk
    omega

/-- The number of deadlines `next`, `next + tickInterval`, … up to `now`. -/
def overdueTickCount (next now : Int) : Nat :=
  if next > now then 0 else ((now - next) / tickInterval).toNat + 1

theorem lt_overdueTickCount_iff (next now : Int) (k : Nat) :
    k < overdueTickCount next now ↔ next + k * tickInterval ≤ now := by
  unfold overdueTickCount
  split
  · rename_i hnext
    have hk : 0 ≤ (k : Int) * tickInterval :=
      Int.mul_nonneg (Int.natCast_nonneg k) (Int.le_of_lt tickInterval_pos)
    constructor
    · intro h
      omega
    · intro h
      omega
  · rename_i hnext
    exact lt_overdueTickCount (Int.not_lt.mp hnext) k

/-- What `advanceDeadline` does, without its branches. -/
theorem advanceDeadline_eq (now : Int) (clock : DungeonTickClock) :
    let skipped := overdueTickCount (clock.nextTick + tickInterval) now - maxDungeonCatchUpTicks
    clock.advanceDeadline now = { clock with
      nextTick := clock.nextTick + (1 + skipped) * tickInterval
      stats := { clock.stats with missedTickCount := clock.stats.missedTickCount + skipped } } := by
  have hnone : clock.nextTick + (1 + (0 : Nat)) * tickInterval = clock.nextTick + tickInterval := by
    simp
  unfold advanceDeadline overdueTickCount
  by_cases hnext : clock.nextTick + tickInterval > now
  · simp only [if_pos hnext, Nat.zero_sub, hnone, Nat.add_zero]
  · simp only [if_neg hnext]
    by_cases hfew : ((now - (clock.nextTick + tickInterval)) / tickInterval).toNat + 1 ≤ maxDungeonCatchUpTicks
    · simp only [if_pos hfew, Nat.sub_eq_zero_of_le hfew, hnone, Nat.add_zero]
    · simp only [if_neg hfew]
      congr 1
      ring

/-! ## One tick -/

/-- What a tick that is handled leaves, where `overdue` deadlines after its own had passed. -/
structure Advanced (now : Int) (clock clock' : DungeonTickClock) : Prop where
  processed : clock'.stats.processedTickCount = clock.stats.processedTickCount + 1
  missed : clock'.stats.missedTickCount = clock.stats.missedTickCount +
    (overdueTickCount (clock.nextTick + tickInterval) now - maxDungeonCatchUpTicks)
  consumed : clock'.nextTick = clock.nextTick +
    (1 + (overdueTickCount (clock.nextTick + tickInterval) now - maxDungeonCatchUpTicks : Nat)) *
      tickInterval
  armed : clock'.timer = some clock'.nextTick
  running : clock'.running = true

theorem advanced_handleTick {clock : DungeonTickClock} (hrunning : clock.running = true) (times : TickTimes) :
    Advanced times.deadlineCheckedAt clock (clock.handleTick .expired times) := by
  have hhandled : ¬ (¬ clock.running = true ∨ TimerResult.expired = .operationAborted) := by
    simp [hrunning]
  unfold handleTick
  rw [if_neg hhandled, if_neg (by decide)]
  dsimp only
  rw [advanceDeadline_eq]
  unfold scheduleNextTick
  rw [if_pos (by exact hrunning)]
  exact ⟨rfl, rfl, rfl, rfl, hrunning⟩

/-- At the reading of the clock, at most the deadlines to catch up on are left. -/
theorem Advanced.lt_catchUp {now : Int} {clock clock' : DungeonTickClock} (h : Advanced now clock clock')
    {k : Nat} (hk : clock'.nextTick + k * tickInterval ≤ now) : k < maxDungeonCatchUpTicks := by
  have hconsumed := h.consumed
  have hoverdue := lt_overdueTickCount_iff (clock.nextTick + tickInterval) now
    (overdueTickCount (clock.nextTick + tickInterval) now - maxDungeonCatchUpTicks + k)
  generalize hn : overdueTickCount (clock.nextTick + tickInterval) now = overdue at hconsumed hoverdue
  generalize hskipped : overdue - maxDungeonCatchUpTicks = skipped at hconsumed hoverdue
  have hsum : clock.nextTick + tickInterval + ((skipped + k : Nat) : Int) * tickInterval ≤ now := by
    rw [hconsumed] at hk
    calc clock.nextTick + tickInterval + ((skipped + k : Nat) : Int) * tickInterval
        = clock.nextTick + (1 + (skipped : Int)) * tickInterval + k * tickInterval := by
          rw [Int.natCast_add]
          ring
      _ ≤ now := hk
  have hlt := hoverdue.mpr hsum
  omega

/-! ## A run -/

/-- The deadline after a start at `t0`, with the statistics of `base`. -/
structure Scheduled (t0 : Int) (base clock : DungeonTickClock) : Prop where
  processed : base.stats.processedTickCount ≤ clock.stats.processedTickCount
  missed : base.stats.missedTickCount ≤ clock.stats.missedTickCount
  nextTick : clock.nextTick = t0 + (1 +
    (clock.stats.processedTickCount - base.stats.processedTickCount : Nat) +
    (clock.stats.missedTickCount - base.stats.missedTickCount : Nat)) * tickInterval

variable {t0 : Int} {base clock clock' : DungeonTickClock}

theorem Scheduled.of_eq (h : Scheduled t0 base clock) (hnext : clock'.nextTick = clock.nextTick)
    (hstats : clock'.stats = clock.stats) : Scheduled t0 base clock' := by
  constructor
  · rw [hstats]
    exact h.processed
  · rw [hstats]
    exact h.missed
  · rw [hnext, hstats]
    exact h.nextTick

theorem Scheduled.advanced (h : Scheduled t0 base clock) {now : Int} (ha : Advanced now clock clock') :
    Scheduled t0 base clock' := by
  have hprocessed := ha.processed
  have hmissed := ha.missed
  have hconsumed := ha.consumed
  have hp := h.processed
  have hm := h.missed
  generalize overdueTickCount (clock.nextTick + tickInterval) now - maxDungeonCatchUpTicks = skipped
    at hmissed hconsumed
  have hcounts : ((clock'.stats.processedTickCount - base.stats.processedTickCount : Nat) : Int) +
      (clock'.stats.missedTickCount - base.stats.missedTickCount : Nat) =
      (clock.stats.processedTickCount - base.stats.processedTickCount : Nat) +
      (clock.stats.missedTickCount - base.stats.missedTickCount : Nat) + (1 + skipped) := by
    omega
  constructor
  · omega
  · omega
  · rw [hconsumed, h.nextTick, Int.add_assoc 1, Int.add_assoc 1, hcounts]
    ring

theorem Scheduled.step (h : Scheduled t0 base clock) {step : ClockStep} (hstep : ∀ now, step ≠ .begin now) :
    Scheduled t0 base (clock.step step) := by
  cases step with
  | start => exact h.of_eq rfl rfl
  | begin now => exact absurd rfl (hstep now)
  | stop => exact h.of_eq rfl rfl
  | cancel => exact h.of_eq rfl rfl
  | handleTick result times =>
    by_cases hignored : ¬ clock.running ∨ result = .operationAborted
    · have hsame : clock.step (.handleTick result times) = clock := if_pos hignored
      rw [hsame]
      exact h
    · obtain ⟨hrunning, hresult⟩ := not_or.mp hignored
      cases result with
      | operationAborted => exact absurd rfl hresult
      | failed =>
        have hstopped : clock.step (.handleTick .failed times) = clock.stop.cancel := by
          show clock.handleTick .failed times = _
          unfold handleTick
          rw [if_neg hignored, if_pos rfl]
        rw [hstopped]
        exact h.of_eq rfl rfl
      | expired => exact h.advanced (advanced_handleTick (not_not.mp hrunning) times)

theorem Scheduled.run {steps : List ClockStep} (hsteps : ∀ now, ClockStep.begin now ∉ steps)
    (h : Scheduled t0 base clock) : Scheduled t0 base (steps.foldl DungeonTickClock.step clock) := by
  induction steps generalizing clock with
  | nil => exact h
  | cons step steps ih =>
    have hstep : ∀ now, step ≠ .begin now := by
      intro now heq
      exact hsteps now (heq ▸ List.mem_cons_self)
    have hrest : ∀ now, ClockStep.begin now ∉ steps := fun now hmem =>
      hsteps now (List.mem_cons_of_mem _ hmem)
    exact ih hrest (h.step hstep)

theorem scheduled_begin (hrunning : base.running = true) (t0 : Int) : Scheduled t0 base (base.begin t0) := by
  have hbegin : base.begin t0 =
      { base with nextTick := t0 + tickInterval, timer := some (t0 + tickInterval) } := by
    unfold DungeonTickClock.begin scheduleNextTick
    rw [if_pos hrunning, if_pos (by exact hrunning)]
  rw [hbegin]
  exact ⟨Nat.le_refl _, Nat.le_refl _, by simp⟩

/-- The deadlines before `nextTick` are those of the processed and of the missed ticks. -/
theorem Scheduled.consumed (h : Scheduled t0 base clock) (k : Nat) :
    t0 + (k + 1) * tickInterval < clock.nextTick ↔
      k < clock.stats.processedTickCount - base.stats.processedTickCount +
        (clock.stats.missedTickCount - base.stats.missedTickCount) := by
  rw [h.nextTick, add_lt_add_iff_left, Int.mul_lt_mul_right tickInterval_pos]
  omega

/-- The ticks after those to catch up on have to wait for the clock. -/
theorem Advanced.waits {now : Int} (h : Advanced now clock clock') {later : List ClockStep}
    (hlater : ∀ now, ClockStep.begin now ∉ later)
    (hprocessed : clock'.stats.processedTickCount + maxDungeonCatchUpTicks ≤
      (later.foldl DungeonTickClock.step clock').stats.processedTickCount) :
    now < (later.foldl DungeonTickClock.step clock').nextTick := by
  have hbase : Scheduled (clock'.nextTick - tickInterval) clock' clock' := by
    refine ⟨Nat.le_refl _, Nat.le_refl _, ?_⟩
    simp
  have hnext := (hbase.run hlater).nextTick
  have hpending : now < clock'.nextTick + maxDungeonCatchUpTicks * tickInterval := by
    by_contra hpassed
    exact absurd (h.lt_catchUp (Int.not_lt.mp hpassed)) (Nat.lt_irrefl _)
  generalize later.foldl DungeonTickClock.step clock' = last at *
  have hcount : (maxDungeonCatchUpTicks : Int) * tickInterval ≤
      ((last.stats.processedTickCount - clock'.stats.processedTickCount : Nat) +
        (last.stats.missedTickCount - clock'.stats.missedTickCount : Nat)) * tickInterval := by
    apply Int.mul_le_mul_of_nonneg_right _ (Int.le_of_lt tickInterval_pos)
    omega
  rw [hnext, Int.add_assoc 1, Int.add_mul, Int.one_mul]
  omega

/-- After each tick the deadline is as many intervals after the start as there are deadlines consumed,
at most those to catch up on have passed, and the ticks after these have to wait. -/
theorem deadlines_of_run (hrunning : base.running = true) (t0 : Int) {steps : List ClockStep}
    (hsteps : ∀ now, ClockStep.begin now ∉ steps)
    (hclock : steps.foldl DungeonTickClock.step (base.begin t0) = clock) :
    Scheduled t0 base clock ∧
    (base.stats = {} → clock.nextTick = t0 +
      (1 + clock.stats.processedTickCount + clock.stats.missedTickCount) * tickInterval) ∧
    (∀ k : Nat, t0 + (k + 1) * tickInterval < clock.nextTick ↔
      k < clock.stats.processedTickCount - base.stats.processedTickCount +
        (clock.stats.missedTickCount - base.stats.missedTickCount)) ∧
    ∀ times clock', clock.running = true → clock.handleTick .expired times = clock' →
      Advanced times.deadlineCheckedAt clock clock' ∧
      (∀ k, k < overdueTickCount (clock.nextTick + tickInterval) times.deadlineCheckedAt ↔
        clock.nextTick + tickInterval + k * tickInterval ≤ times.deadlineCheckedAt) ∧
      (∀ k : Nat, clock'.nextTick + k * tickInterval ≤ times.deadlineCheckedAt →
        k < maxDungeonCatchUpTicks) ∧
      ∀ later : List ClockStep, (∀ now, ClockStep.begin now ∉ later) →
        clock'.stats.processedTickCount + maxDungeonCatchUpTicks ≤
          (later.foldl DungeonTickClock.step clock').stats.processedTickCount →
        times.deadlineCheckedAt < (later.foldl DungeonTickClock.step clock').nextTick := by
  subst hclock
  have hscheduled := (scheduled_begin hrunning t0).run hsteps
  refine ⟨hscheduled, ?_, hscheduled.consumed, ?_⟩
  · intro hfresh
    have hnext := hscheduled.nextTick
    rw [hfresh] at hnext
    exact hnext
  · intro times clock' hrunning' hclock'
    subst hclock'
    have hadvanced := advanced_handleTick hrunning' times
    refine ⟨hadvanced, lt_overdueTickCount_iff _ _, fun k hk => hadvanced.lt_catchUp hk, ?_⟩
    intro later hlater hprocessed
    exact hadvanced.waits hlater hprocessed

theorem deadlines_of_run_stall : ∃ clock clock' : DungeonTickClock,
    clock.nextTick = 0 + (1 + (1 : Nat) + (3 : Nat)) * tickInterval ∧
      clock'.stats.missedTickCount = 3 ∧
      ∀ k : Nat, clock'.nextTick + k * tickInterval ≤ 210000000 → k < 2 := by
  have hsteps : ∀ now, ClockStep.begin now ∉ [.handleTick .expired ⟨33333000, 33340000, 200000000⟩] := by
    intro now hmem
    cases List.mem_singleton.mp hmem
  have hrun := deadlines_of_run (show ({ running := true } : DungeonTickClock).running = true from rfl) 0
    hsteps rfl
  obtain ⟨-, hpending, hwaits⟩ := (hrun.2.2.2 ⟨166665000, 170000000, 210000000⟩ _ (by decide) rfl).2
  exact ⟨_, _, hrun.2.1 rfl, by decide, hpending⟩

end DnfServer.Tick
