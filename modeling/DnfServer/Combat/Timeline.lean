import DnfServer.Dungeons.Steps
import Mathlib.Tactic.SplitIfs

/-!
# The timeline of a skill

A skill that has begun is in startup, active and in recovery for as many ticks as it was begun with,
and its cooldown counts beside these phases. `AdvanceCombatTick` keeps one counter and the lengths of
the phases to come; the place on the timeline is a function of the number of ticks alone.
-/

namespace DnfServer

namespace DungeonPlayerState

def currentSkillAction (player : DungeonPlayerState) : SkillActionSnapshot :=
  ⟨player.actionSkillId, player.actionPhase, player.actionRemainingTicks⟩

def remainingCooldown (skillId : SkillId) (player : DungeonPlayerState) : UInt32 :=
  player.cooldowns[skillId]?.getD 0

end DungeonPlayerState

namespace Combat

open Std DnfServer.Library
set_option autoImplicit false

inductive PlayerEvent where
  | advanceCombatTick
  | beginSkill (skillId : SkillId) (manaCost cooldownTicks startupTicks activeTicks recoveryTicks : UInt32)
  | applyDamage (damage : UInt32)

namespace PlayerEvent

def apply (player : DungeonPlayerState) : PlayerEvent → DungeonPlayerState
  | .advanceCombatTick => player.advanceCombatTick
  | .beginSkill skillId manaCost cooldownTicks startupTicks activeTicks recoveryTicks =>
    (player.beginSkill skillId manaCost cooldownTicks startupTicks activeTicks recoveryTicks).2
  | .applyDamage damage => (player.applyDamage damage).2

def next (player : DungeonPlayerState) (event : PlayerEvent) : Option DungeonPlayerState :=
  some (event.apply player)

/-- A skill that does not begin, damage that the player survives, or a tick. -/
def Harmless (player : DungeonPlayerState) : PlayerEvent → Prop
  | .advanceCombatTick => True
  | .beginSkill skillId manaCost cooldownTicks startupTicks activeTicks recoveryTicks =>
    (player.beginSkill skillId manaCost cooldownTicks startupTicks activeTicks recoveryTicks).1 ≠ .success
  | .applyDamage damage => damage < player.currentHp

instance (player : DungeonPlayerState) : (event : PlayerEvent) → Decidable (event.Harmless player)
  | .advanceCombatTick => isTrue trivial
  | .beginSkill skillId manaCost cooldownTicks startupTicks activeTicks recoveryTicks =>
    inferInstanceAs (Decidable ((player.beginSkill skillId manaCost cooldownTicks startupTicks
      activeTicks recoveryTicks).1 ≠ .success))
  | .applyDamage damage => inferInstanceAs (Decidable (damage < player.currentHp))

def isTick : PlayerEvent → Bool
  | .advanceCombatTick => true
  | _ => false

end PlayerEvent

/-- The number of ticks among the events. -/
def ticks (events : List PlayerEvent) : Nat := events.countP (·.isTick)

/-! ## The phases -/

section

variable (startup active recovery : Nat)

/-- The phase after a number of ticks. -/
def phaseAt (n : Nat) : SkillActionPhase :=
  if n < startup then .startup
  else if n < startup + active then .active
  else if n < startup + active + recovery then .recovery
  else .idle

/-- The ticks from there to the next boundary. -/
def remainingAt (n : Nat) : Nat :=
  if n < startup then startup - n
  else if n < startup + active then startup + active - n
  else startup + active + recovery - n

end

/-- The player is `n` ticks into a skill. -/
structure OnTimeline (skillId : SkillId) (startupTicks activeTicks recoveryTicks : UInt32) (n : Nat)
    (player : DungeonPlayerState) : Prop where
  alive : player.currentHp ≠ 0
  phase : player.actionPhase = phaseAt startupTicks.toNat activeTicks.toNat recoveryTicks.toNat n
  remaining : player.actionRemainingTicks.toNat =
    remainingAt startupTicks.toNat activeTicks.toNat recoveryTicks.toNat n
  skill : player.actionSkillId =
    if n < startupTicks.toNat + activeTicks.toNat + recoveryTicks.toNat then skillId else 0
  lengths : n < startupTicks.toNat + activeTicks.toNat + recoveryTicks.toNat →
    player.actionActiveTicks = activeTicks ∧ player.actionRecoveryTicks = recoveryTicks

/-- The cooldown of the skill, `n` ticks after it began. -/
def CoolingDown (skillId : SkillId) (cooldownTicks : UInt32) (n : Nat) (player : DungeonPlayerState) :
    Prop :=
  (player.cooldowns[skillId]?).map (·.toNat) =
    if n < cooldownTicks.toNat then some (cooldownTicks.toNat - n) else none

/-! ## One call -/

section

variable {player player' : DungeonPlayerState} {skillId : SkillId}
  {manaCost cooldownTicks startupTicks activeTicks recoveryTicks : UInt32} {n : Nat}

theorem beginSkill_failed (h : (player.beginSkill skillId manaCost cooldownTicks startupTicks activeTicks
    recoveryTicks).1 ≠ .success) : (player.beginSkill skillId manaCost cooldownTicks startupTicks
      activeTicks recoveryTicks).2 = player := by
  unfold DungeonPlayerState.beginSkill at h ⊢
  split_ifs at h ⊢ <;> first
    | rfl
    | exact absurd rfl h

/-- What a skill that begins has found, and what it changes. -/
theorem beginSkill_success (h : player.beginSkill skillId manaCost cooldownTicks startupTicks
      activeTicks recoveryTicks = (.success, player')) :
    player.currentHp ≠ 0 ∧ skillId ≠ 0 ∧ activeTicks ≠ 0 ∧ skillId ∉ player.cooldowns ∧
      player.actionPhase = .idle ∧ manaCost ≤ player.currentMp ∧
      player' = { player with
        currentMp := player.currentMp - manaCost
        cooldowns :=
          if cooldownTicks > 0 then player.cooldowns.insertIfNew skillId cooldownTicks
          else player.cooldowns
        actionSkillId := skillId
        actionActiveTicks := activeTicks
        actionRecoveryTicks := recoveryTicks
        actionPhase := if startupTicks > 0 then .startup else .active
        actionRemainingTicks := if startupTicks > 0 then startupTicks else activeTicks } := by
  unfold DungeonPlayerState.beginSkill at h
  split at h
  · cases h
  rename_i halive
  split at h
  · cases h
  rename_i hvalid
  split at h
  · cases h
  rename_i hcooldown
  split at h
  · cases h
  rename_i hidle
  split at h
  · cases h
  rename_i hmana
  obtain ⟨hskill, hactive⟩ := not_or.mp hvalid
  exact ⟨halive, hskill, hactive, hcooldown, not_not.mp hidle, UInt32.not_lt.mp hmana,
    (Prod.mk.inj h).2.symm⟩

theorem currentMp_advanceCombatTick (player : DungeonPlayerState) :
    player.advanceCombatTick.currentMp = player.currentMp := by
  unfold DungeonPlayerState.advanceCombatTick
  simp only
  split_ifs <;> rfl

/-- Without an action only the cooldowns count. -/
theorem advanceCombatTick_idle (h : player.actionPhase = .idle) : player.advanceCombatTick =
    { player with cooldowns := DungeonPlayerState.advanceCooldowns player.cooldowns } := by
  unfold DungeonPlayerState.advanceCombatTick
  exact if_pos h

/-- A tick within a phase. -/
theorem advanceCombatTick_within (h : player.actionPhase ≠ .idle)
    (hr : 1 < player.actionRemainingTicks.toNat) : player.advanceCombatTick =
    { player with
      cooldowns := DungeonPlayerState.advanceCooldowns player.cooldowns
      actionRemainingTicks := player.actionRemainingTicks - 1 } := by
  have hpos : player.actionRemainingTicks - 1 > 0 := by
    rw [gt_iff_lt, UInt32.lt_iff_toNat_lt, UInt32.toNat_sub_of_le]
    · simpa using Nat.sub_pos_of_lt hr
    · simpa [UInt32.le_iff_toNat_le] using Nat.le_of_lt hr
  unfold DungeonPlayerState.advanceCombatTick
  simp only [if_neg h, if_pos hpos]

/-- The last tick of a phase. -/
theorem advanceCombatTick_boundary (h : player.actionPhase ≠ .idle)
    (hr : player.actionRemainingTicks = 1) : player.advanceCombatTick =
    let player := { player with
      cooldowns := DungeonPlayerState.advanceCooldowns player.cooldowns, actionRemainingTicks := 0 }
    if player.actionPhase = .startup then
      { player with actionPhase := .active, actionRemainingTicks := player.actionActiveTicks }
    else if player.actionPhase = .active ∧ player.actionRecoveryTicks > 0 then
      { player with actionPhase := .recovery, actionRemainingTicks := player.actionRecoveryTicks }
    else player.clearAction := by
  unfold DungeonPlayerState.advanceCombatTick
  simp only [if_neg h, hr, UInt32.sub_self, gt_iff_lt, UInt32.lt_irrefl, if_false]

/-- The player survives, and keeps everything but hit points. -/
theorem applyDamage_survived {damage : UInt32} (h : damage < player.currentHp) :
    ∃ hp : UInt32, hp ≠ 0 ∧ (player.applyDamage damage).2 = { player with currentHp := hp } := by
  have hpos : player.currentHp ≠ 0 := by
    rintro hzero
    exact UInt32.not_lt_zero (hzero ▸ h)
  unfold DungeonPlayerState.applyDamage
  split
  · exact ⟨player.currentHp, hpos, rfl⟩
  · have hleft : player.currentHp - damage ≠ 0 := by
      rintro hzero
      have hnat := congrArg UInt32.toNat hzero
      rw [UInt32.toNat_sub_of_le _ _ (UInt32.le_of_lt h)] at hnat
      exact absurd (UInt32.lt_iff_toNat_lt.mp h) (Nat.not_lt.mpr (Nat.sub_eq_zero_iff_le.mp hnat))
    refine ⟨player.currentHp - damage, hleft, ?_⟩
    simp only [ge_iff_le, UInt32.not_le.mpr h, if_false, hleft]

/-- The player dies in the middle of whatever it did. -/
theorem applyDamage_lethal {damage : UInt32} (halive : player.currentHp ≠ 0)
    (h : player.currentHp ≤ damage) :
    (player.applyDamage damage).2 = { player with currentHp := 0 }.clearAction := by
  have hdamage : damage ≠ 0 := by
    rintro rfl
    exact halive (UInt32.le_zero_iff.mp h)
  unfold DungeonPlayerState.applyDamage
  simp only [hdamage, halive, or_self, if_false, ge_iff_le, h, if_true]

/-! ## The timeline -/

/-- The skill has just begun. -/
theorem onTimeline_start (h : player.beginSkill skillId manaCost cooldownTicks startupTicks
      activeTicks recoveryTicks = (.success, player')) :
    OnTimeline skillId startupTicks activeTicks recoveryTicks 0 player' ∧
      CoolingDown skillId cooldownTicks 0 player' ∧
      player'.currentMp.toNat + manaCost.toNat = player.currentMp.toNat := by
  obtain ⟨halive, -, hactive, hcooldown, -, hmana, rfl⟩ := beginSkill_success h
  have hpos : 0 < activeTicks.toNat := by
    rw [Nat.pos_iff_ne_zero, Ne, ← UInt32.toNat_zero, UInt32.toNat_inj]
    exact hactive
  refine ⟨⟨halive, ?_, ?_, ?_, fun _ => ⟨rfl, rfl⟩⟩, ?_, ?_⟩
  · simp only [phaseAt, gt_iff_lt, UInt32.lt_iff_toNat_lt, UInt32.toNat_zero]
    split
    · rfl
    · rw [if_pos (by omega)]
  · simp only [remainingAt, gt_iff_lt, UInt32.lt_iff_toNat_lt, UInt32.toNat_zero]
    split
    · rfl
    · rw [if_pos (by omega)]
      omega
  · exact (if_pos (by omega)).symm
  · have hnone : player.cooldowns[skillId]? = none := ExtTreeMap.getElem?_eq_none hcooldown
    simp only [CoolingDown, gt_iff_lt, UInt32.lt_iff_toNat_lt, UInt32.toNat_zero]
    split
    · rw [ExtTreeMap.getElem?_insertIfNew, if_pos ⟨ReflCmp.compare_self, hcooldown⟩]
      rfl
    · simp [hnone]
  · simp only [UInt32.toNat_sub_of_le _ _ hmana]
    exact Nat.sub_add_cancel (UInt32.le_iff_toNat_le.mp hmana)

/-- The action is over. -/
theorem onTimeline_over (halive : player.currentHp ≠ 0)
    (hn : startupTicks.toNat + activeTicks.toNat + recoveryTicks.toNat ≤ n) :
    OnTimeline skillId startupTicks activeTicks recoveryTicks n player.clearAction := by
  refine ⟨halive, ?_, ?_, ?_, fun hend => absurd hend (Nat.not_lt.mpr hn)⟩
  · rw [phaseAt, if_neg (by omega), if_neg (by omega), if_neg (by omega)]
    rfl
  · have hzero : player.clearAction.actionRemainingTicks = 0 := rfl
    rw [hzero, UInt32.toNat_zero]
    unfold remainingAt
    split_ifs <;> omega
  · rw [if_neg (by omega)]
    rfl

theorem OnTimeline.tick (h : OnTimeline skillId startupTicks activeTicks recoveryTicks n player)
    (ha : activeTicks ≠ 0) :
    OnTimeline skillId startupTicks activeTicks recoveryTicks (n + 1) player.advanceCombatTick := by
  have hpos : 0 < activeTicks.toNat := by
    rw [Nat.pos_iff_ne_zero, Ne, ← UInt32.toNat_zero, UInt32.toNat_inj]
    exact ha
  obtain ⟨halive, hphase, hremaining, hskill, hlengths⟩ := h
  by_cases hend : n < startupTicks.toNat + activeTicks.toNat + recoveryTicks.toNat
  · obtain ⟨hactiveTicks, hrecoveryTicks⟩ := hlengths hend
    have hne : player.actionPhase ≠ .idle := by
      rw [hphase, phaseAt]
      split_ifs <;> simp
    have hleft : 0 < player.actionRemainingTicks.toNat := by
      rw [hremaining, remainingAt]
      split_ifs <;> omega
    by_cases hone : player.actionRemainingTicks.toNat = 1
    · -- a boundary: the next phase is the first of those left that is not empty
      rw [advanceCombatTick_boundary hne (UInt32.toNat_inj.mp hone)]
      rw [hone, remainingAt] at hremaining
      rw [phaseAt] at hphase
      rw [if_pos hend] at hskill
      split_ifs at hphase hremaining with hstartup hactive
      · rw [if_pos hphase]
        refine ⟨halive, ?_, ?_, ?_, fun _ => hlengths hend⟩
        · rw [phaseAt, if_neg (by omega), if_pos (by omega)]
        · rw [remainingAt, if_neg (by omega), if_pos (by omega)]
          simp only [hactiveTicks]
          omega
        · rw [if_pos (by omega)]
          exact hskill
      · have hnot : ¬ player.actionPhase = .startup := by simp [hphase]
        rw [if_neg hnot]
        by_cases hrecovery : player.actionRecoveryTicks > 0
        · have hlong : 0 < recoveryTicks.toNat := by
            rw [hrecoveryTicks] at hrecovery
            exact UInt32.lt_iff_toNat_lt.mp hrecovery
          rw [if_pos ⟨hphase, hrecovery⟩]
          refine ⟨halive, ?_, ?_, ?_, fun _ => hlengths hend⟩
          · rw [phaseAt, if_neg (by omega), if_neg (by omega), if_pos (by omega)]
          · rw [remainingAt, if_neg (by omega), if_neg (by omega)]
            simp only [hrecoveryTicks]
            omega
          · rw [if_pos (by omega)]
            exact hskill
        · have hnone : recoveryTicks.toNat = 0 := by
            rw [hrecoveryTicks, gt_iff_lt, UInt32.not_lt] at hrecovery
            rw [UInt32.le_zero_iff.mp hrecovery, UInt32.toNat_zero]
          rw [if_neg fun h => hrecovery h.2]
          exact onTimeline_over halive (by omega)
      · have hnot : ¬ player.actionPhase = .startup := by simp [hphase]
        have hnot' : ¬ (player.actionPhase = .active ∧ player.actionRecoveryTicks > 0) := by
          simp [hphase]
        rw [if_neg hnot, if_neg hnot']
        exact onTimeline_over halive (by omega)
    · have hmore : 1 < player.actionRemainingTicks.toNat := by omega
      have hle : (1 : UInt32) ≤ player.actionRemainingTicks := by
        rw [UInt32.le_iff_toNat_le]
        exact hleft
      have hpred := UInt32.toNat_sub_of_le player.actionRemainingTicks 1 hle
      rw [advanceCombatTick_within hne hmore]
      rw [hremaining, UInt32.toNat_one] at hpred
      rw [hremaining] at hmore
      unfold remainingAt at hpred hmore
      refine ⟨halive, hphase.trans ?_, hpred.trans ?_, hskill.trans ?_, fun _ => hlengths hend⟩
      · unfold phaseAt
        split_ifs at hmore ⊢ <;> first
          | rfl
          | omega
      · unfold remainingAt
        split_ifs at hmore ⊢ <;> omega
      · split_ifs at hmore ⊢ <;> first
          | rfl
          | omega
  · have hidle : player.actionPhase = .idle := by
      rw [hphase, phaseAt, if_neg (by omega), if_neg (by omega), if_neg hend]
    rw [advanceCombatTick_idle hidle]
    refine ⟨halive, hidle.trans ?_, hremaining.trans ?_, hskill.trans ?_, fun hn => by omega⟩
    · rw [phaseAt, if_neg (by omega), if_neg (by omega), if_neg (by omega)]
    · unfold remainingAt
      split_ifs <;> omega
    · rw [if_neg hend, if_neg (by omega)]

theorem CoolingDown.tick (h : CoolingDown skillId cooldownTicks n player) :
    CoolingDown skillId cooldownTicks (n + 1) player.advanceCombatTick := by
  simp only [CoolingDown, Dungeons.cooldowns_advanceCombatTick, DungeonPlayerState.advanceCooldowns,
    ExtTreeMap.getElem?_filterMap'] at h ⊢
  cases hc : player.cooldowns[skillId]? with
  | none =>
    rw [hc] at h
    split at h
    · cases h
    · rw [if_neg (by omega)]
      rfl
  | some remaining =>
    rw [hc] at h
    split at h
    · rename_i hn
      have hnat : remaining.toNat = cooldownTicks.toNat - n := Option.some.inj h
      have hle : (1 : UInt32) ≤ remaining := by
        rw [UInt32.le_iff_toNat_le, hnat, UInt32.toNat_one]
        omega
      have hpred : (remaining - 1).toNat = cooldownTicks.toNat - (n + 1) := by
        rw [UInt32.toNat_sub_of_le remaining 1 hle, hnat, UInt32.toNat_one]
        omega
      by_cases hlast : remaining - 1 = 0
      · rw [hlast, UInt32.toNat_zero] at hpred
        rw [Option.bind_some, if_pos hlast, if_neg (by omega)]
        rfl
      · have hne : (remaining - 1).toNat ≠ 0 := by
          rw [Ne, ← UInt32.toNat_zero, UInt32.toNat_inj]
          exact hlast
        rw [Option.bind_some, if_neg hlast, if_pos (by omega)]
        exact congrArg some hpred
    · cases h

/-! ## A run -/

/-- Only ticks move the cooldown of a skill, unless one begins. -/
theorem CoolingDown.event (h : CoolingDown skillId cooldownTicks n player) {event : PlayerEvent}
    (hfailed : ∀ x m c s a r, event = .beginSkill x m c s a r →
      (player.beginSkill x m c s a r).1 ≠ .success) :
    CoolingDown skillId cooldownTicks (n + ticks [event]) (event.apply player) := by
  cases event with
  | advanceCombatTick => exact h.tick
  | beginSkill x m c s a r =>
    have hsame := beginSkill_failed (hfailed x m c s a r rfl)
    rw [PlayerEvent.apply, hsame]
    exact h
  | applyDamage damage =>
    unfold CoolingDown
    rw [PlayerEvent.apply, Dungeons.applyDamage_cooldowns]
    exact h

theorem OnTimeline.event (h : OnTimeline skillId startupTicks activeTicks recoveryTicks n player)
    (ha : activeTicks ≠ 0) {event : PlayerEvent} (hharmless : event.Harmless player) :
    OnTimeline skillId startupTicks activeTicks recoveryTicks (n + ticks [event]) (event.apply player) ∧
      (event.apply player).currentMp = player.currentMp := by
  cases event with
  | advanceCombatTick => exact ⟨h.tick ha, currentMp_advanceCombatTick player⟩
  | beginSkill x m c s a r =>
    have hsame := beginSkill_failed hharmless
    rw [PlayerEvent.apply, hsame]
    exact ⟨h, rfl⟩
  | applyDamage damage =>
    obtain ⟨hp, hne, hsame⟩ := applyDamage_survived hharmless
    rw [PlayerEvent.apply, hsame]
    exact ⟨{ h with alive := hne }, rfl⟩

theorem ticks_cons (event : PlayerEvent) (events : List PlayerEvent) :
    ticks (event :: events) = ticks [event] + ticks events := by
  rw [ticks, ← List.singleton_append, List.countP_append]
  rfl

/-- What every run of harmless events keeps. -/
theorem timeline_run {events : List PlayerEvent}
    (h : OnTimeline skillId startupTicks activeTicks recoveryTicks n player)
    (hc : CoolingDown skillId cooldownTicks n player) (ha : activeTicks ≠ 0)
    (hharmless : Meets PlayerEvent.next (fun player event => event.Harmless player) player events)
    (hr : run PlayerEvent.next player events = some player') :
    OnTimeline skillId startupTicks activeTicks recoveryTicks (n + ticks events) player' ∧
      CoolingDown skillId cooldownTicks (n + ticks events) player' ∧
      player'.currentMp = player.currentMp := by
  induction events generalizing player n with
  | nil =>
    obtain rfl := Option.some.inj hr
    exact ⟨h, hc, rfl⟩
  | cons event events ih =>
    obtain ⟨later, hn, hr⟩ := run_cons.mp hr
    obtain rfl := Option.some.inj hn
    obtain ⟨hevent, hmana⟩ := h.event ha hharmless.1
    have hcooling : CoolingDown skillId cooldownTicks (n + ticks [event]) (event.apply player) := by
      refine hc.event ?_
      rintro x m c s a r rfl
      exact hharmless.1
    obtain ⟨htimeline, hcooldown, hkept⟩ := ih hevent hcooling (hharmless.2 _ rfl) hr
    rw [ticks_cons, ← Nat.add_assoc]
    exact ⟨htimeline, hcooldown, hkept.trans hmana⟩

/-- A dead player does nothing, and its cooldowns go on. -/
theorem dead_run {events : List PlayerEvent} (hdead : player.currentHp = 0)
    (hidle : player.currentSkillAction = {}) (hr : run PlayerEvent.next player events = some player') :
    player'.currentHp = 0 ∧ player'.currentSkillAction = {} ∧
      ∀ (x : SkillId) (c : UInt32) (m : Nat), CoolingDown x c m player →
        CoolingDown x c (m + ticks events) player' := by
  induction events generalizing player with
  | nil =>
    obtain rfl := Option.some.inj hr
    exact ⟨hdead, hidle, fun x c m h => h⟩
  | cons event events ih =>
    obtain ⟨later, hn, hr⟩ := run_cons.mp hr
    obtain rfl := Option.some.inj hn
    have hnever (x m c s a r) : (player.beginSkill x m c s a r).1 ≠ .success := by
      simp [DungeonPlayerState.beginSkill, hdead]
    have hevent : (event.apply player).currentHp = 0 ∧ (event.apply player).currentSkillAction = {} := by
      cases event with
      | advanceCombatTick =>
        have hphase : player.actionPhase = .idle := congrArg SkillActionSnapshot.phase hidle
        rw [PlayerEvent.apply, advanceCombatTick_idle hphase]
        exact ⟨hdead, hidle⟩
      | beginSkill x m c s a r =>
        rw [PlayerEvent.apply, beginSkill_failed (hnever x m c s a r)]
        exact ⟨hdead, hidle⟩
      | applyDamage damage =>
        rw [PlayerEvent.apply, DungeonPlayerState.applyDamage, if_pos (.inr hdead)]
        exact ⟨hdead, hidle⟩
    obtain ⟨hdead', hidle', hcooldowns⟩ := ih hevent.1 hevent.2 hr
    refine ⟨hdead', hidle', fun x c m h => ?_⟩
    rw [ticks_cons, ← Nat.add_assoc]
    exact hcooldowns x c _ (h.event fun x m c s a r _ => hnever x m c s a r)

theorem CoolingDown.remainingCooldown (h : CoolingDown skillId cooldownTicks n player) :
    (player.remainingCooldown skillId).toNat = cooldownTicks.toNat - n := by
  unfold CoolingDown at h
  unfold DungeonPlayerState.remainingCooldown
  cases hc : player.cooldowns[skillId]? with
  | none =>
    rw [hc] at h
    split at h
    · cases h
    · rw [Option.getD_none, UInt32.toNat_zero]
      omega
  | some remaining =>
    rw [hc] at h
    split at h
    · exact Option.some.inj h
    · cases h

end

/-- What a player is like `n` ticks after the skill has begun, with nothing lethal and no other skill
in between. -/
structure Timed (skillId : SkillId) (cooldownTicks startupTicks activeTicks recoveryTicks : UInt32)
    (n : Nat) (player : DungeonPlayerState) : Prop where
  action : player.currentSkillAction.phase =
      phaseAt startupTicks.toNat activeTicks.toNat recoveryTicks.toNat n ∧
    player.currentSkillAction.remainingTicks.toNat =
      remainingAt startupTicks.toNat activeTicks.toNat recoveryTicks.toNat n ∧
    player.currentSkillAction.skillId =
      if n < startupTicks.toNat + activeTicks.toNat + recoveryTicks.toNat then skillId else 0
  busy : ∀ (x : SkillId) (m c s a r : UInt32), x ≠ skillId → x ≠ 0 → a ≠ 0 → x ∉ player.cooldowns →
    ((player.beginSkill x m c s a r).1 = .busy ↔
      n < startupTicks.toNat + activeTicks.toNat + recoveryTicks.toNat)
  onCooldown : ∀ m c s a r : UInt32, a ≠ 0 →
    ((player.beginSkill skillId m c s a r).1 = .onCooldown ↔ n < cooldownTicks.toNat)
  cooldown : (player.remainingCooldown skillId).toNat = cooldownTicks.toNat - n
  rejected : ∀ (x : SkillId) (m c s a r : UInt32), (player.beginSkill x m c s a r).1 ≠ .success →
    (player.beginSkill x m c s a r).2 = player
  killed : ∀ damage : UInt32, player.currentHp ≤ damage → ∀ (events : List PlayerEvent)
    (player' : DungeonPlayerState),
    run PlayerEvent.next (player.applyDamage damage).2 events = some player' →
      player'.isAlive = false ∧ player'.currentSkillAction = {} ∧
      (player'.remainingCooldown skillId).toNat = cooldownTicks.toNat - (n + ticks events) ∧
      ∀ x : SkillId, player.cooldowns[x]? ≠ some 0 →
        (player'.remainingCooldown x).toNat = (player.remainingCooldown x).toNat - ticks events

section

variable {player started player' : DungeonPlayerState} {skillId : SkillId}
  {manaCost cooldownTicks startupTicks activeTicks recoveryTicks : UInt32} {n : Nat}

/-- Every cooldown that is not spent counts on its own. -/
theorem coolingDown_self {x : SkillId} (h : player.cooldowns[x]? ≠ some 0) :
    CoolingDown x (player.remainingCooldown x) 0 player := by
  unfold CoolingDown DungeonPlayerState.remainingCooldown
  cases hc : player.cooldowns[x]? with
  | none => rfl
  | some remaining =>
    have hne : remaining.toNat ≠ 0 := by
      rw [Ne, ← UInt32.toNat_zero, UInt32.toNat_inj]
      rintro rfl
      exact h hc
    exact (if_pos (Nat.pos_of_ne_zero hne)).symm

theorem OnTimeline.busy_iff (h : OnTimeline skillId startupTicks activeTicks recoveryTicks n player)
    {x : SkillId} (m c s : UInt32) {a : UInt32} (r : UInt32) (hx : x ≠ 0) (ha : a ≠ 0)
    (hcooldown : x ∉ player.cooldowns) : (player.beginSkill x m c s a r).1 = .busy ↔
      n < startupTicks.toNat + activeTicks.toNat + recoveryTicks.toNat := by
  have hphase : player.actionPhase ≠ .idle ↔
      n < startupTicks.toNat + activeTicks.toNat + recoveryTicks.toNat := by
    rw [h.phase, phaseAt]
    split_ifs <;> simp <;> omega
  rw [← hphase]
  unfold DungeonPlayerState.beginSkill
  rw [if_neg h.alive, if_neg (not_or.mpr ⟨hx, ha⟩), if_neg hcooldown]
  split_ifs with hbusy <;> simp [hbusy]

theorem CoolingDown.onCooldown_iff (h : CoolingDown skillId cooldownTicks n player)
    (halive : player.currentHp ≠ 0) (m c s : UInt32) {a : UInt32} (r : UInt32) (hskill : skillId ≠ 0)
    (ha : a ≠ 0) : (player.beginSkill skillId m c s a r).1 = .onCooldown ↔ n < cooldownTicks.toNat := by
  have hmem : skillId ∈ player.cooldowns ↔ n < cooldownTicks.toNat := by
    rw [← ExtTreeMap.isSome_getElem?_iff_mem, ← Option.isSome_map, h]
    split_ifs with hn <;> simp [hn]
  rw [← hmem]
  unfold DungeonPlayerState.beginSkill
  rw [if_neg halive, if_neg (not_or.mpr ⟨hskill, ha⟩)]
  split_ifs with hcooldown <;> simp [hcooldown]

/-- After any number of ticks among events that neither kill the player nor begin a skill, the phase,
the cooldown and the mana are those of the timeline; a blow that kills ends the action alone. -/
theorem timed_of_run {events : List PlayerEvent}
    (hbegin : player.beginSkill skillId manaCost cooldownTicks startupTicks activeTicks recoveryTicks =
      (.success, started))
    (hharmless : Meets PlayerEvent.next (fun player event => event.Harmless player) started events)
    (hr : run PlayerEvent.next started events = some player') :
    Timed skillId cooldownTicks startupTicks activeTicks recoveryTicks (ticks events) player' ∧
      player'.currentMp.toNat + manaCost.toNat = player.currentMp.toNat := by
  obtain ⟨-, hskill, hactive, -⟩ := beginSkill_success hbegin
  obtain ⟨hstart, hcooling, hmana⟩ := onTimeline_start hbegin
  obtain ⟨htimeline, hcooldown, hkept⟩ := timeline_run hstart hcooling hactive hharmless hr
  rw [Nat.zero_add] at htimeline hcooldown
  refine ⟨⟨⟨htimeline.phase, htimeline.remaining, htimeline.skill⟩, ?_, ?_,
    hcooldown.remainingCooldown, fun x m c s a r => beginSkill_failed, ?_⟩, hkept ▸ hmana⟩
  · exact fun x m c s a r _ hx ha hfree => htimeline.busy_iff m c s r hx ha hfree
  · exact fun m c s a r ha => hcooldown.onCooldown_iff htimeline.alive m c s r hskill ha
  · intro damage hlethal later dead hlater
    have hdead := applyDamage_lethal htimeline.alive hlethal
    rw [hdead] at hlater
    obtain ⟨hhp, hidle, hcooldowns⟩ := dead_run rfl rfl hlater
    refine ⟨by simp [DungeonPlayerState.isAlive, hhp], hidle, ?_, fun x hx => ?_⟩
    · exact (hcooldowns skillId cooldownTicks _ hcooldown).remainingCooldown
    · have hx := (hcooldowns x _ 0 (coolingDown_self hx)).remainingCooldown
      rwa [Nat.zero_add] at hx

end

def swordsman : DungeonPlayerState where
  sessionId := 100
  roomId := 1
  position := {}
  currentHp := 100
  maxHp := 100
  currentMp := 100
  maxMp := 100
  cooldowns := ∅
  actionSkillId := 0
  actionPhase := .idle
  actionRemainingTicks := 0
  actionActiveTicks := 0
  actionRecoveryTicks := 0

/-- Two ticks of startup and the one of the action, with another skill and a blow in between. -/
def swordsmanEvents : List PlayerEvent :=
  [.advanceCombatTick, .beginSkill 2002 10 10 1 1 1, .applyDamage 30, .advanceCombatTick,
    .advanceCombatTick]

theorem timed_of_run_swordsman :
    ∃ started player', swordsman.beginSkill 2001 10 10 2 1 2 = (.success, started) ∧
      run PlayerEvent.next started swordsmanEvents = some player' ∧
      Timed 2001 10 2 1 2 3 player' ∧ player'.currentMp.toNat + 10 = 100 := by
  have hbegin : swordsman.beginSkill 2001 10 10 2 1 2 =
      (.success, (swordsman.beginSkill 2001 10 10 2 1 2).2) := by decide +kernel
  have hharmless : Meets PlayerEvent.next (fun player event => event.Harmless player)
      (swordsman.beginSkill 2001 10 10 2 1 2).2 swordsmanEvents := by decide +kernel
  obtain ⟨htimed, hmana⟩ := timed_of_run hbegin hharmless rfl
  exact ⟨_, _, hbegin, rfl, htimed, hmana⟩

end Combat

end DnfServer
