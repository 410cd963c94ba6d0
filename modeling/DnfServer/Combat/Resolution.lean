import DnfServer.Combat.Actions
import DnfServer.Library.Singles
import DnfServer.Participants.Consistency

/-!
# Every accepted attack lands once

A dungeon with its pending hits under any sequence of calls of `Process` and of other operations between
them. An entry is pending exactly as long as its player is in the startup of the skill: the first pass
of the call in which the startup ends resolves it, or the second pass of the call that accepted it when
there is no startup. Until then the player is busy, so no other attack replaces the entry.
-/

namespace DnfServer.Combat

open Std DnfServer.Library DnfServer.Dungeons DungeonCombatProcessor
set_option autoImplicit false

/-- One call as it was: the dungeon on both sides, the entries that the attacks find and add, and the
landings of both passes. -/
structure Call where
  before : DungeonInstance
  after : DungeonInstance
  result : CombatProcessResult := {}
  pending : IdMap PendingSkillHit := ∅
  accepted : List (SessionId × PendingSkillHit) := []
  landings : List Landing := []

/-- A dungeon with its pending hits, the number of the call that added each of them, and the calls so
far. -/
structure Fight where
  content : Content
  dungeon : DungeonInstance
  hits : IdMap PendingSkillHit := ∅
  origins : IdMap Nat := ∅
  calls : List Call := []

/-- A call of `Process`, something added to the catalogs, or another operation on the dungeon. -/
inductive FightEvent where
  | process (attacks : List AuthenticatedPlayerAttack)
  | content (op : ContentOp)
  | dungeon (event : DungeonEvent)

namespace Fight

section

variable (arithmetic : Arithmetic) (skillCatalog : SkillCatalog)
  (attacks : List AuthenticatedPlayerAttack) (fight : Fight)

/-- The next call, after its loop over the attacks. -/
def attacking : Attacking := beginAttacks arithmetic skillCatalog attacks fight.hits fight.dungeon

/-- The numbers of the calls that added the entries, after that loop. -/
def nextOrigins : IdMap Nat :=
  (fight.attacking arithmetic skillCatalog attacks).accepted.foldl
    (fun origins entry => origins.insert entry.1 fight.calls.length) fight.origins

/-- The landings of the first pass and those of the second. -/
def landings : List Landing :=
  let attacking := fight.attacking arithmetic skillCatalog attacks
  fight.hits.toList.filterMap (landing (advance fight.dungeon).players fight.origins) ++
    attacking.hits.toList.filterMap
      (landing attacking.dungeon.players (fight.nextOrigins arithmetic skillCatalog attacks))

def process : Fight :=
  let processed :=
    DungeonCombatProcessor.process arithmetic skillCatalog attacks fight.hits fight.dungeon
  let call : Call := { before := fight.dungeon, after := processed.2.2, result := processed.1 }
  let next := { fight with dungeon := processed.2.2, hits := processed.2.1 }
  if fight.dungeon.state ≠ .running then { next with calls := fight.calls ++ [call] }
  else { next with
    origins := fight.nextOrigins arithmetic skillCatalog attacks
    calls := fight.calls ++ [{ call with
      pending := (pass arithmetic fight.hits (advance fight.dungeon)).1
      accepted := (fight.attacking arithmetic skillCatalog attacks).accepted
      landings := fight.landings arithmetic skillCatalog attacks }] }

def next : FightEvent → Option Fight
  | .process attacks => some (fight.process arithmetic skillCatalog attacks)
  | .content op => some { fight with content := op.apply fight.content }
  | .dungeon event =>
    if isCombat event then none
    else some { fight with
      dungeon := event.apply fight.content.enemies skillCatalog fight.dungeon }

end

end Fight

/-! ## One call -/

section

variable {arithmetic : Arithmetic} {skillCatalog : SkillCatalog} {template : DungeonTemplate}
  {attacks : List AuthenticatedPlayerAttack} {fight : Fight}

theorem pass_eq (origins : IdMap Nat) (hits : IdMap PendingSkillHit) (dungeon : DungeonInstance) :
    pass arithmetic hits dungeon =
      (keepWaiting dungeon.players hits.toList hits, { dungeon with
        rooms := (hits.toList.filterMap (landing dungeon.players origins)).foldl (strike arithmetic)
          dungeon.rooms }) :=
  resolveHits_eq origins hits.toList hits dungeon

/-- What the loop over the attacks starts from. -/
def firstPass (arithmetic : Arithmetic) (fight : Fight) : Attacking where
  hits := (pass arithmetic fight.hits (advance fight.dungeon)).1
  dungeon := (pass arithmetic fight.hits (advance fight.dungeon)).2

theorem loop_attacking (arithmetic : Arithmetic) (skillCatalog : SkillCatalog)
    (attacks : List AuthenticatedPlayerAttack) (fight : Fight) :
    Loop (firstPass arithmetic fight) (fight.attacking arithmetic skillCatalog attacks) :=
  loop_of_attacks skillCatalog attacks _ _

theorem getElem?_firstPass (arithmetic : Arithmetic) (h : Roster fight.dungeon) (s : SessionId) :
    (firstPass arithmetic fight).dungeon.players[s]? =
      fight.dungeon.players[s]?.map DungeonPlayerState.advanceCombatTick := by
  rw [firstPass, pass_eq fight.origins]
  exact (advance_spec h).1 s

theorem getElem?_firstPass_hits (s : SessionId) :
    (firstPass arithmetic fight).hits[s]? =
      fight.hits[s]?.filter fun hit => isWaiting (advance fight.dungeon).players (s, hit) := by
  rw [firstPass, pass_eq fight.origins]
  exact getElem?_keepWaiting_toList _ fight.hits s

theorem getElem?_nextOrigins (s : SessionId) :
    (fight.nextOrigins arithmetic skillCatalog attacks)[s]? =
      if (fight.attacking arithmetic skillCatalog attacks).accepted.filter (·.1 = s) = [] then
        fight.origins[s]?
      else some fight.calls.length := by
  have hfold (entries : List (SessionId × PendingSkillHit)) : ∀ origins : IdMap Nat,
      (entries.foldl (fun origins entry => origins.insert entry.1 fight.calls.length) origins)[s]? =
        if entries.filter (·.1 = s) = [] then origins[s]? else some fight.calls.length := by
    induction entries with
    | nil => exact fun origins => rfl
    | cons entry entries ih =>
      intro origins
      rw [List.foldl_cons, ih]
      by_cases hs : entry.1 = s
      · subst hs
        have hcons : (entry :: entries).filter (·.1 = entry.1) =
            entry :: entries.filter (·.1 = entry.1) := by simp
        rw [hcons, if_neg (List.cons_ne_nil _ _), ExtTreeMap.getElem?_insert_self, ite_self]
      · have hsame : (origins.insert entry.1 fight.calls.length)[s]? = origins[s]? := by grind
        rw [List.filter_cons_of_neg (by simpa using hs), hsame]
  exact hfold _ fight.origins

theorem process_content : (fight.process arithmetic skillCatalog attacks).content = fight.content := by
  unfold Fight.process
  split <;> rfl

theorem process_pass (hstate : fight.dungeon.state = .running) :
    (fight.process arithmetic skillCatalog attacks).hits =
        (pass arithmetic (fight.attacking arithmetic skillCatalog attacks).hits
          (fight.attacking arithmetic skillCatalog attacks).dungeon).1 ∧
      (fight.process arithmetic skillCatalog attacks).dungeon =
        (pass arithmetic (fight.attacking arithmetic skillCatalog attacks).hits
          (fight.attacking arithmetic skillCatalog attacks).dungeon).2 := by
  simp [Fight.process, DungeonCombatProcessor.process, hstate, Fight.attacking]

/-- A call on a running dungeon. -/
theorem process_dungeon (h : Roster fight.dungeon) (hstate : fight.dungeon.state = .running) :
    (fight.process arithmetic skillCatalog attacks).dungeon = { fight.dungeon with
      players := (fight.attacking arithmetic skillCatalog attacks).dungeon.players
      rooms := (fight.landings arithmetic skillCatalog attacks).foldl (strike arithmetic)
        fight.dungeon.rooms } := by
  obtain ⟨players, hadvanced⟩ := (advance_spec h).2
  obtain ⟨players', hattacking⟩ :=
    (loop_attacking arithmetic skillCatalog attacks fight).framed
  have hfirst : (firstPass arithmetic fight).dungeon = { advance fight.dungeon with
      rooms := (fight.hits.toList.filterMap
        (landing (advance fight.dungeon).players fight.origins)).foldl (strike arithmetic)
          (advance fight.dungeon).rooms } := by
    rw [firstPass, pass_eq fight.origins]
  rw [(process_pass hstate).2, pass_eq (fight.nextOrigins arithmetic skillCatalog attacks), Fight.landings,
    List.foldl_append, hattacking, hfirst, hadvanced]

theorem process_hits (hstate : fight.dungeon.state = .running) (s : SessionId) :
    (fight.process arithmetic skillCatalog attacks).hits[s]? =
      (fight.attacking arithmetic skillCatalog attacks).hits[s]?.filter fun hit =>
        isWaiting (fight.attacking arithmetic skillCatalog attacks).dungeon.players (s, hit) := by
  rw [(process_pass hstate).1, pass_eq (fight.nextOrigins arithmetic skillCatalog attacks)]
  exact getElem?_keepWaiting_toList _ _ s

/-- The landings of one session in a call. -/
theorem filter_landings_session (s : SessionId) :
    (fight.landings arithmetic skillCatalog attacks).filter (·.sessionId = s) =
      (fight.hits[s]?.bind fun hit =>
        landing (advance fight.dungeon).players fight.origins (s, hit)).toList ++
      ((fight.attacking arithmetic skillCatalog attacks).hits[s]?.bind fun hit =>
        landing (fight.attacking arithmetic skillCatalog attacks).dungeon.players
          (fight.nextOrigins arithmetic skillCatalog attacks) (s, hit)).toList := by
  simp only [Fight.landings, List.filter_append, filter_landings]

theorem process_calls (arithmetic : Arithmetic) (skillCatalog : SkillCatalog)
    (attacks : List AuthenticatedPlayerAttack) (hstate : fight.dungeon.state = .running) :
    (fight.process arithmetic skillCatalog attacks).origins =
        fight.nextOrigins arithmetic skillCatalog attacks ∧
      (fight.process arithmetic skillCatalog attacks).calls = fight.calls ++ [{
        before := fight.dungeon
        after := (fight.process arithmetic skillCatalog attacks).dungeon
        result := (fight.attacking arithmetic skillCatalog attacks).result
        pending := (firstPass arithmetic fight).hits
        accepted := (fight.attacking arithmetic skillCatalog attacks).accepted
        landings := fight.landings arithmetic skillCatalog attacks }] := by
  simp [Fight.process, DungeonCombatProcessor.process, hstate, Fight.attacking, firstPass]

/-- A call on a dungeon that does not run forgets the entries. -/
theorem process_stopped (hstate : fight.dungeon.state ≠ .running) :
    fight.process arithmetic skillCatalog attacks = { fight with
      hits := ∅, calls := fight.calls ++ [{ before := fight.dungeon, after := fight.dungeon }] } := by
  simp [Fight.process, DungeonCombatProcessor.process, hstate]

end

/-! ## Every call -/

/-- What holds of each call: the attacks are counted, each session has at most one accepted, which
finds no entry of its own, and the rooms change by the landings alone. -/
structure CallExact (arithmetic : Arithmetic) (call : Call) : Prop where
  counted : call.result.acceptedCount + call.result.rejectedCount = call.result.receivedCount
  listed : call.result.acceptedCount = call.accepted.length
  alone : (call.accepted.map (·.1)).Nodup
  fresh : ∀ entry ∈ call.accepted, entry.1 ∉ call.pending
  rooms : call.after.rooms = call.landings.foldl (strikeOnce arithmetic) call.before.rooms

/-- What every state of a fight satisfies. -/
structure Steady (arithmetic : Arithmetic) (template : DungeonTemplate) (fight : Fight) : Prop where
  populated : Populated fight.content.enemies template fight.dungeon
  roster : Roster fight.dungeon
  rested : ∀ (s : SessionId) (player : DungeonPlayerState), fight.dungeon.players[s]? = some player →
    Rested player
  entries : ∀ (s : SessionId) (hit : PendingSkillHit), fight.hits[s]? = some hit →
    hit.skill.id ≠ 0 ∧ ∃ j < fight.calls.length, fight.origins[s]? = some j
  calls : ∀ call ∈ fight.calls, CallExact arithmetic call
  past : ∀ (k : Nat) (call : Call), fight.calls[k]? = some call → ∀ landing ∈ call.landings,
    ∃ j ≤ k, landing.acceptedIn = some j

section

variable {arithmetic : Arithmetic} {skillCatalog : SkillCatalog} {template : DungeonTemplate}
  {attacks : List AuthenticatedPlayerAttack} {fight : Fight}

theorem rested_advance {player : DungeonPlayerState} (h : Rested player) :
    Rested player.advanceCombatTick := by
  intro hidle
  by_cases hphase : player.actionPhase = .idle
  · rw [advanceCombatTick_idle hphase]
    exact h hphase
  unfold DungeonPlayerState.advanceCombatTick at hidle ⊢
  simp only [hphase, if_false] at hidle ⊢
  split at hidle
  · exact absurd hidle hphase
  split at hidle
  · cases hidle
  split at hidle
  · cases hidle
  · rename_i h1 h2 h3
    simp only [h1, h2, h3, if_false]
    rfl

/-- A player that begins a skill has no entry left from another one. -/
theorem Steady.fresh (h : Steady arithmetic template fight) {s : SessionId} {hit : PendingSkillHit}
    (hbegun : Begun s hit (firstPass arithmetic fight) (fight.attacking arithmetic skillCatalog attacks)) :
    (firstPass arithmetic fight).hits[s]? = none := by
  obtain ⟨player, player', hplayer, hbegins, -⟩ := hbegun.player
  rw [getElem?_firstPass arithmetic h.roster] at hplayer
  obtain ⟨old, hold, rfl⟩ := Option.map_eq_some_iff.mp hplayer
  have hidle := (beginSkill_success hbegins).2.2.2.2.1
  rw [getElem?_firstPass_hits]
  cases hentry : fight.hits[s]? with
  | none => rfl
  | some other =>
    rw [Option.filter_eq_none_iff]
    rintro other' hother
    obtain rfl : other = other' := by simpa using hother
    intro hwaits
    simp only [isWaiting, (advance_spec h.roster).1 s, hold, Option.map_some, Option.any_some,
      decide_eq_true_eq] at hwaits
    -- the skill of a player without an action is zero, which no entry has
    have hskill := hwaits.1.2
    rw [rested_advance (h.rested s old hold) hidle] at hskill
    exact (h.entries s other hentry).1 hskill.symm

theorem steps_of_advance {enemyCatalog : EnemyCatalog} (dungeon : DungeonInstance) :
    PlaySteps enemyCatalog skillCatalog dungeon (advance dungeon) := by
  have hfold (sessions : List SessionId) : ∀ d : DungeonInstance, PlaySteps enemyCatalog skillCatalog d
      (sessions.foldl (fun d s => modifyPlayer s (·.advanceCombatTick) d) d) := by
    induction sessions with
    | nil => exact fun _ => .refl
    | cons s sessions ih => exact fun d => (steps_of_advanceCombatTick s d).trans (ih _)
  exact hfold dungeon.participants dungeon

theorem steps_of_attack {enemyCatalog : EnemyCatalog} (attacking : Attacking)
    (queuedAttack : AuthenticatedPlayerAttack) :
    PlaySteps enemyCatalog skillCatalog attacking.dungeon
      (attack skillCatalog attacking queuedAttack).dungeon := by
  unfold attack DungeonInstance.findPlayer
  split
  · rename_i player skill hplayer hskill
    split
    · rename_i player' hbegin
      have hplace := beginSkill_samePlace skill.id skill.manaCost skill.cooldownTicks
        skill.startupTicks skill.activeTicks skill.recoveryTicks player
      have hcooldowns : ∀ x ∈ (player.beginSkill skill.id skill.manaCost skill.cooldownTicks
          skill.startupTicks skill.activeTicks skill.recoveryTicks).2.cooldowns,
          x ∈ player.cooldowns ∨ x ∈ skillIds skillCatalog := fun x => beginSkill_catalog hskill
      rw [hbegin] at hplace hcooldowns
      simp only [modifyPlayer, DungeonInstance.findPlayer, hplayer]
      exact .single (.change hplayer hplace hcooldowns)
    · exact .refl
  · exact .refl

/-- A call is made of steps that a running dungeon can take. -/
theorem steps_of_process {enemyCatalog : EnemyCatalog} (hstate : fight.dungeon.state = .running) :
    PlaySteps enemyCatalog skillCatalog fight.dungeon
      (fight.process arithmetic skillCatalog attacks).dungeon := by
  have hattacks (attacks : List AuthenticatedPlayerAttack) : ∀ attacking : Attacking,
      PlaySteps enemyCatalog skillCatalog attacking.dungeon
        (attacks.foldl (attack skillCatalog) attacking).dungeon := by
    induction attacks with
    | nil => exact fun _ => .refl
    | cons queuedAttack attacks ih =>
      exact fun attacking => (steps_of_attack attacking queuedAttack).trans (ih _)
  have hprocess : (fight.process arithmetic skillCatalog attacks).dungeon =
      (pass arithmetic (fight.attacking arithmetic skillCatalog attacks).hits
        (fight.attacking arithmetic skillCatalog attacks).dungeon).2 := by
    simp [Fight.process, DungeonCombatProcessor.process, hstate, Fight.attacking]
  rw [hprocess]
  refine .trans ?_ (steps_of_resolveHits arithmetic _ _ _)
  exact ((steps_of_advance fight.dungeon).trans (steps_of_resolveHits arithmetic _ _ _)).trans
    (hattacks attacks (firstPass arithmetic fight))

theorem Populated.steps {enemyCatalog : EnemyCatalog} {dungeon dungeon' : DungeonInstance}
    (h : Populated enemyCatalog template dungeon)
    (hsteps : DungeonSteps enemyCatalog skillCatalog dungeon dungeon') :
    Populated enemyCatalog template dungeon' := by
  induction hsteps with
  | refl => exact h
  | tail _ hstep ih => exact ih.step hstep

/-- The players after a call: those before it, further in their actions. -/
theorem players_attacking (h : Steady arithmetic template fight) {s : SessionId}
    {player : DungeonPlayerState}
    (hplayer : (fight.attacking arithmetic skillCatalog attacks).dungeon.players[s]? = some player) :
    ∃ old, fight.dungeon.players[s]? = some old ∧ (player = old.advanceCombatTick ∨
      ∃ hit, Begins old.advanceCombatTick hit player) := by
  rcases (loop_attacking arithmetic skillCatalog attacks fight).session s with huntouched | ⟨hit, hbegun⟩
  · rw [huntouched.player, getElem?_firstPass arithmetic h.roster] at hplayer
    obtain ⟨old, hold, rfl⟩ := Option.map_eq_some_iff.mp hplayer
    exact ⟨old, hold, .inl rfl⟩
  · obtain ⟨first, second, hfirst, hbegins, hsecond⟩ := hbegun.player
    obtain rfl : second = player := Option.some.inj (hsecond.symm.trans hplayer)
    rw [getElem?_firstPass arithmetic h.roster] at hfirst
    obtain ⟨old, hold, rfl⟩ := Option.map_eq_some_iff.mp hfirst
    exact ⟨old, hold, .inr ⟨hit, hbegins⟩⟩

theorem Steady.process_roster (h : Steady arithmetic template fight)
    (hstate : fight.dungeon.state = .running) :
    Roster (fight.process arithmetic skillCatalog attacks).dungeon := by
  rw [process_dungeon h.roster hstate]
  refine ⟨h.roster.nodup, fun s => ?_⟩
  rw [h.roster.listed]
  constructor
  · intro hs
    obtain ⟨old, hold⟩ := exists_of_mem hs
    have hfirst := getElem?_firstPass arithmetic h.roster s
    rw [hold] at hfirst
    rcases (loop_attacking arithmetic skillCatalog attacks fight).session s with huntouched | ⟨hit, hbegun⟩
    · exact mem_of_entry (huntouched.player.trans hfirst)
    · obtain ⟨-, player', -, -, hplayer'⟩ := hbegun.player
      exact mem_of_entry hplayer'
  · intro hs
    obtain ⟨player, hplayer⟩ := exists_of_mem hs
    obtain ⟨old, hold, -⟩ := players_attacking h hplayer
    exact mem_of_entry hold

theorem Steady.process_rested (h : Steady arithmetic template fight)
    (hstate : fight.dungeon.state = .running) (s : SessionId) (player : DungeonPlayerState)
    (hplayer : (fight.process arithmetic skillCatalog attacks).dungeon.players[s]? = some player) :
    Rested player := by
  rw [process_dungeon h.roster hstate] at hplayer
  obtain ⟨old, hold, rfl | ⟨hit, hbegins⟩⟩ := players_attacking h hplayer
  · exact rested_advance (h.rested s old hold)
  · obtain ⟨-, -, -, -, -, -, rfl⟩ := beginSkill_success hbegins
    intro hidle
    simp only at hidle
    split at hidle <;> cases hidle

/-- The entries after a call are old ones, or those of the call. -/
theorem Steady.process_entries (h : Steady arithmetic template fight) (s : SessionId) (hit : PendingSkillHit)
    (hhit : (fight.attacking arithmetic skillCatalog attacks).hits[s]? = some hit) :
    hit.skill.id ≠ 0 ∧ ∃ j < fight.calls.length + 1,
      (fight.nextOrigins arithmetic skillCatalog attacks)[s]? = some j := by
  rcases (loop_attacking arithmetic skillCatalog attacks fight).session s with huntouched | ⟨other, hbegun⟩
  · rw [huntouched.hits, getElem?_firstPass_hits] at hhit
    obtain ⟨hskill, j, hj, horigin⟩ := h.entries s hit (Option.filter_eq_some_iff.mp hhit).1
    refine ⟨hskill, j, by omega, ?_⟩
    rw [getElem?_nextOrigins, huntouched.accepted, if_pos rfl, horigin]
  · obtain rfl : other = hit := Option.some.inj (hbegun.hits.symm.trans hhit)
    obtain ⟨player, player', -, hbegins, -⟩ := hbegun.player
    refine ⟨(beginSkill_success hbegins).2.1, fight.calls.length, by omega, ?_⟩
    rw [getElem?_nextOrigins, hbegun.accepted, if_neg (List.cons_ne_nil _ _)]

theorem landing_eq_some {players : IdMap DungeonPlayerState} {origins : IdMap Nat} {s : SessionId}
    {hit : PendingSkillHit} {found : Landing} (h : landing players origins (s, hit) = some found) :
    ∃ player, players[s]? = some player ∧ InSkill hit player ∧ player.actionPhase = .active ∧
      found = { sessionId := s, acceptedIn := origins[s]?, hit, roomId := player.roomId
                position := player.position } := by
  obtain ⟨player, hplayer, hfound⟩ := Option.bind_eq_some_iff.mp h
  split at hfound
  · rename_i hdue
    exact ⟨player, hplayer, hdue.1, hdue.2, (Option.some.inj hfound).symm⟩
  · cases hfound

theorem Steady.process_past (h : Steady arithmetic template fight) {found : Landing}
    (hmem : found ∈ fight.landings arithmetic skillCatalog attacks) :
    ∃ j ≤ fight.calls.length, found.acceptedIn = some j := by
  have hmine : found ∈ (fight.landings arithmetic skillCatalog attacks).filter
      (·.sessionId = found.sessionId) := by simpa using hmem
  rw [filter_landings_session] at hmine
  rcases List.mem_append.mp hmine with hfirst | hsecond
  · obtain ⟨hit, hhit, hlanding⟩ := Option.bind_eq_some_iff.mp (Option.mem_toList.mp hfirst)
    obtain ⟨player, -, -, -, heq⟩ := landing_eq_some hlanding
    obtain ⟨-, j, hj, horigin⟩ := h.entries _ hit hhit
    exact ⟨j, by omega, by rw [heq]; exact horigin⟩
  · obtain ⟨hit, hhit, hlanding⟩ := Option.bind_eq_some_iff.mp (Option.mem_toList.mp hsecond)
    obtain ⟨player, -, -, -, heq⟩ := landing_eq_some hlanding
    obtain ⟨-, j, hj, horigin⟩ := h.process_entries _ hit hhit
    exact ⟨j, by omega, by rw [heq]; exact horigin⟩

theorem Steady.process_exact (h : Steady arithmetic template fight)
    (hstate : fight.dungeon.state = .running) : CallExact arithmetic {
      before := fight.dungeon
      after := (fight.process arithmetic skillCatalog attacks).dungeon
      result := (fight.attacking arithmetic skillCatalog attacks).result
      pending := (firstPass arithmetic fight).hits
      accepted := (fight.attacking arithmetic skillCatalog attacks).accepted
      landings := fight.landings arithmetic skillCatalog attacks } := by
  have hloop := loop_attacking arithmetic skillCatalog attacks fight
  refine ⟨hloop.counted, hloop.listed, hloop.nodup, ?_, ?_⟩
  · rintro ⟨s, hit⟩ hmem hpending
    obtain ⟨other, hother⟩ := exists_of_mem hpending
    have hnone := h.fresh (hloop.begun hmem)
    simp [hnone] at hother
  · simp only [process_dungeon h.roster hstate]
    exact (foldl_strike _ h.populated.distinct).1

/-- A position of a list that one element was added to. -/
theorem getElem?_concat {α : Type} {l : List α} {a b : α} {k : Nat} (h : (l ++ [a])[k]? = some b) :
    l[k]? = some b ∨ k = l.length ∧ b = a := by
  rw [List.getElem?_append] at h
  split at h
  · exact .inl h
  · rename_i hle
    rw [List.getElem?_singleton] at h
    split at h
    · exact .inr ⟨by omega, (Option.some.inj h).symm⟩
    · cases h

theorem Steady.process (h : Steady arithmetic template fight) :
    Steady arithmetic template (fight.process arithmetic skillCatalog attacks) := by
  by_cases hstate : fight.dungeon.state = .running
  · obtain ⟨horigins, hcalls⟩ := process_calls arithmetic skillCatalog attacks hstate
    have hcontent : (fight.process arithmetic skillCatalog attacks).content = fight.content := by
      simp [Fight.process, hstate]
    refine ⟨?_, h.process_roster hstate, h.process_rested hstate, ?_, ?_, ?_⟩
    · rw [hcontent]
      exact h.populated.steps (steps_of_process hstate).steps
    · intro s hit hhit
      rw [process_hits hstate] at hhit
      rw [horigins, hcalls, List.length_append, List.length_singleton]
      exact h.process_entries s hit (Option.filter_eq_some_iff.mp hhit).1
    · intro call hmem
      rw [hcalls] at hmem
      rcases List.mem_append.mp hmem with hmem | hmem
      · exact h.calls call hmem
      · rw [List.mem_singleton.mp hmem]
        exact h.process_exact hstate
    · intro k call hk found hmem
      rw [hcalls] at hk
      rcases getElem?_concat hk with hk | ⟨rfl, rfl⟩
      · exact h.past k call hk found hmem
      · exact h.process_past hmem
  · rw [process_stopped hstate]
    refine ⟨h.populated, h.roster, h.rested, ?_, ?_, ?_⟩
    · intro s hit hhit
      simp at hhit
    · intro call hmem
      rcases List.mem_append.mp hmem with hmem | hmem
      · exact h.calls call hmem
      · rw [List.mem_singleton.mp hmem]
        exact ⟨rfl, rfl, List.nodup_nil, fun _ hnone => absurd hnone List.not_mem_nil, rfl⟩
    · intro k call hk found hmem
      rcases getElem?_concat hk with hk | ⟨-, rfl⟩
      · exact h.past k call hk found hmem
      · cases hmem

theorem Steady.next (h : Steady arithmetic template fight) {event : FightEvent} {fight' : Fight}
    (hn : fight.next arithmetic skillCatalog event = some fight') : Steady arithmetic template fight' := by
  cases event with
  | process attacks =>
    obtain rfl := Option.some.inj hn
    exact h.process
  | content op =>
    obtain rfl := Option.some.inj hn
    exact { h with populated := ⟨h.populated.runnable.mono (extends_apply op fight.content),
                                 h.populated.named⟩ }
  | dungeon event =>
    simp only [Fight.next] at hn
    split at hn
    · cases hn
    rename_i hevent
    obtain rfl := Option.some.inj hn
    have hpassed := passed_of_event (Bool.eq_false_iff.mpr hevent) fight.content.enemies skillCatalog
      fight.dungeon
    refine { h with
      populated := h.populated.steps (steps_of_event event fight.dungeon)
      roster := hpassed.roster h.roster
      rested := ?_ }
    intro s player' hs
    obtain ⟨t, player, hplayer, hacts, -⟩ := hpassed.players s player' hs
    exact hacts.rested (h.rested t player hplayer)

end

/-! ## One attack -/

/-- The player is in the startup of the skill, with some ticks to go. -/
structure InStartup (hit : PendingSkillHit) (left : Nat) (player : DungeonPlayerState) : Prop where
  skill : InSkill hit player
  phase : player.actionPhase = .startup
  left : player.actionRemainingTicks.toNat = left

/-- The landings in one call of the entry that a session had from call `i`. -/
def landingsOf (s : SessionId) (i : Nat) (landings : List Landing) : List Landing :=
  landings.filter fun landing => landing.sessionId = s ∧ landing.acceptedIn = some i

/-- The attack that call `i` accepted for the session has landed in the call in which its startup ended,
where the player was, and in no other call; no other attack of the session was accepted before. -/
structure ResolvedOnce (s : SessionId) (hit : PendingSkillHit) (i : Nat) (fight : Fight) : Prop where
  once : ∀ call, fight.calls[i + hit.skill.startupTicks.toNat]? = some call →
    ∃ player, call.before.players[s]? = some player ∧ landingsOf s i call.landings =
      [{ sessionId := s, acceptedIn := some i, hit, roomId := player.roomId, position := player.position }]
  only : ∀ (k : Nat) (call : Call), k ≠ i + hit.skill.startupTicks.toNat →
    fight.calls[k]? = some call → landingsOf s i call.landings = []
  alone : ∀ (k : Nat) (call : Call), i < k → k ≤ i + hit.skill.startupTicks.toNat →
    fight.calls[k]? = some call → ∀ entry ∈ call.accepted, entry.1 ≠ s

/-- The entry waits for the end of the startup. -/
structure Pending (s : SessionId) (hit : PendingSkillHit) (i : Nat) (fight : Fight) : Prop where
  entry : fight.hits[s]? = some hit
  origin : fight.origins[s]? = some i
  before : i < fight.calls.length
  due : fight.calls.length ≤ i + hit.skill.startupTicks.toNat
  player : ∀ player, fight.dungeon.players[s]? = some player → player.isAlive = true →
    InStartup hit (i + hit.skill.startupTicks.toNat + 1 - fight.calls.length) player

/-- The entry is resolved, and a new one comes from a later call. -/
structure Over (s : SessionId) (hit : PendingSkillHit) (i : Nat) (fight : Fight) : Prop where
  past : i + hit.skill.startupTicks.toNat < fight.calls.length
  later : ∀ other, fight.hits[s]? = some other → fight.origins[s]? ≠ some i

section

variable {arithmetic : Arithmetic} {skillCatalog : SkillCatalog} {template : DungeonTemplate}
  {attacks : List AuthenticatedPlayerAttack} {fight : Fight} {s : SessionId} {hit : PendingSkillHit}
  {i : Nat}

theorem InStartup.tick {left : Nat} {player : DungeonPlayerState}
    (h : InStartup hit (left + 1) player) (hleft : left ≠ 0) :
    InStartup hit left player.advanceCombatTick := by
  have hphase : player.actionPhase ≠ .idle := by simp [h.phase]
  have hremaining := h.left
  rw [advanceCombatTick_within hphase (by omega)]
  refine ⟨h.skill, h.phase, ?_⟩
  have hle : (1 : UInt32) ≤ player.actionRemainingTicks := by
    rw [UInt32.le_iff_toNat_le, UInt32.toNat_one]
    omega
  simp only
  rw [UInt32.toNat_sub_of_le _ _ hle, UInt32.toNat_one]
  omega

/-- The last tick of the startup. -/
theorem InStartup.lastTick {player : DungeonPlayerState} (h : InStartup hit 1 player) :
    InSkill hit player.advanceCombatTick ∧ player.advanceCombatTick.actionPhase = .active := by
  have hphase : player.actionPhase ≠ .idle := by simp [h.phase]
  have hone : player.actionRemainingTicks = 1 := UInt32.toNat_inj.mp h.left
  rw [advanceCombatTick_boundary hphase hone]
  simp only [h.phase, if_true]
  exact ⟨h.skill, trivial⟩

theorem isWaiting_of {players : IdMap DungeonPlayerState} {player : DungeonPlayerState}
    (hplayer : players[s]? = some player) :
    isWaiting players (s, hit) = true ↔ InSkill hit player ∧ player.actionPhase ≠ .active := by
  simp [isWaiting, hplayer]

theorem landing_of {players : IdMap DungeonPlayerState} {player : DungeonPlayerState}
    (origins : IdMap Nat) (hplayer : players[s]? = some player) :
    landing players origins (s, hit) =
      if InSkill hit player ∧ player.actionPhase = .active then some
        { sessionId := s, acceptedIn := origins[s]?, hit, roomId := player.roomId
          position := player.position }
      else none := by
  simp [landing, hplayer]

theorem landingsOf_eq (found : List Landing) :
    landingsOf s i found = (found.filter (·.sessionId = s)).filter (·.acceptedIn = some i) := by
  rw [List.filter_filter, landingsOf]
  refine List.filter_congr fun landing _ => ?_
  rw [Bool.eq_iff_iff]
  simp [and_comm]

/-- A session whose player is busy has no attack accepted. -/
theorem untouched_of_busy (arithmetic : Arithmetic) (skillCatalog : SkillCatalog)
    (attacks : List AuthenticatedPlayerAttack) (h : Steady arithmetic template fight) {player : DungeonPlayerState}
    (hplayer : fight.dungeon.players[s]? = some player)
    (hbusy : player.advanceCombatTick.actionPhase ≠ .idle) :
    Untouched s (firstPass arithmetic fight) (fight.attacking arithmetic skillCatalog attacks) := by
  rcases (loop_attacking arithmetic skillCatalog attacks fight).session s with huntouched | ⟨other, hbegun⟩
  · exact huntouched
  · obtain ⟨first, second, hfirst, hbegins, -⟩ := hbegun.player
    rw [getElem?_firstPass arithmetic h.roster, hplayer] at hfirst
    obtain rfl := Option.some.inj hfirst
    exact absurd (beginSkill_success hbegins).2.2.2.2.1 hbusy

/-- The entry and the landings of a session that has no attack accepted in the call. -/
theorem Steady.untouched (h : Steady arithmetic template fight)
    (hstate : fight.dungeon.state = .running) {player : DungeonPlayerState}
    (hplayer : fight.dungeon.players[s]? = some player) (hentry : fight.hits[s]? = some hit)
    (huntouched : Untouched s (firstPass arithmetic fight)
      (fight.attacking arithmetic skillCatalog attacks)) :
    (fight.process arithmetic skillCatalog attacks).hits[s]? =
        (if InSkill hit player.advanceCombatTick ∧ player.advanceCombatTick.actionPhase ≠ .active then
          some hit
        else none) ∧
      (fight.landings arithmetic skillCatalog attacks).filter (·.sessionId = s) =
        (if InSkill hit player.advanceCombatTick ∧ player.advanceCombatTick.actionPhase = .active then
          [{ sessionId := s, acceptedIn := fight.origins[s]?, hit
             roomId := player.advanceCombatTick.roomId
             position := player.advanceCombatTick.position }]
        else []) := by
  have hfirst : (advance fight.dungeon).players[s]? = some player.advanceCombatTick := by
    rw [(advance_spec h.roster).1, hplayer, Option.map_some]
  have hattacking : (fight.attacking arithmetic skillCatalog attacks).dungeon.players[s]? =
      some player.advanceCombatTick := by
    rw [huntouched.player, getElem?_firstPass arithmetic h.roster, hplayer, Option.map_some]
  have hpending : (fight.attacking arithmetic skillCatalog attacks).hits[s]? =
      if InSkill hit player.advanceCombatTick ∧ player.advanceCombatTick.actionPhase ≠ .active then
        some hit
      else none := by
    rw [huntouched.hits, getElem?_firstPass_hits, hentry, Option.filter_some]
    simp only [isWaiting_of hfirst]
  refine ⟨?_, ?_⟩
  · rw [process_hits hstate, hpending]
    split
    · rename_i hwaits
      rw [Option.filter_some, if_pos ((isWaiting_of hattacking).mpr hwaits)]
    · rfl
  · rw [filter_landings_session, hentry, hpending, Option.bind_some, landing_of _ hfirst]
    by_cases hwaits : InSkill hit player.advanceCombatTick ∧
        player.advanceCombatTick.actionPhase ≠ .active
    · have hnot : ¬ (InSkill hit player.advanceCombatTick ∧
          player.advanceCombatTick.actionPhase = .active) := fun hdue => hwaits.2 hdue.2
      rw [if_pos hwaits, if_neg hnot, Option.bind_some, landing_of _ hattacking, if_neg hnot, if_neg hnot]
      rfl
    · rw [if_neg hwaits]
      split <;> rfl

theorem ResolvedOnce.call (hr : ResolvedOnce s hit i fight) {fight' : Fight} {call : Call}
    (hcalls : fight'.calls = fight.calls ++ [call])
    (honce : fight.calls.length = i + hit.skill.startupTicks.toNat →
      ∃ player, call.before.players[s]? = some player ∧ landingsOf s i call.landings =
        [{ sessionId := s, acceptedIn := some i, hit, roomId := player.roomId
           position := player.position }])
    (honly : fight.calls.length ≠ i + hit.skill.startupTicks.toNat → landingsOf s i call.landings = [])
    (halone : i < fight.calls.length → fight.calls.length ≤ i + hit.skill.startupTicks.toNat →
      ∀ entry ∈ call.accepted, entry.1 ≠ s) : ResolvedOnce s hit i fight' := by
  refine ⟨fun other hk => ?_, fun k other hne hk => ?_, fun k other hlt hle hk => ?_⟩ <;>
    rw [hcalls] at hk <;> rcases getElem?_concat hk with hk | ⟨heq, rfl⟩
  · exact hr.once other hk
  · exact honce heq.symm
  · exact hr.only k other hne hk
  · exact honly (heq ▸ hne)
  · exact hr.alone k other hlt hle hk
  · exact halone (heq ▸ hlt) (heq ▸ hle)

theorem not_accepted {attacking : Attacking} (h : attacking.accepted.filter (·.1 = s) = []) :
    ∀ entry ∈ attacking.accepted, entry.1 ≠ s := by
  intro entry he
  simpa using List.filter_eq_nil_iff.mp h entry he

/-- A tick in the startup, or the end of it. -/
theorem Pending.process (h : Steady arithmetic template fight) (hp : Pending s hit i fight)
    (hr : ResolvedOnce s hit i fight) (hstate : fight.dungeon.state = .running)
    {player : DungeonPlayerState} (hplayer : fight.dungeon.players[s]? = some player)
    (halive : player.isAlive = true) :
    ResolvedOnce s hit i (fight.process arithmetic skillCatalog attacks) ∧
      (Pending s hit i (fight.process arithmetic skillCatalog attacks) ∨
        Over s hit i (fight.process arithmetic skillCatalog attacks)) := by
  obtain ⟨horigins, hcalls⟩ := process_calls arithmetic skillCatalog attacks hstate
  have hbefore := hp.before
  have hdue := hp.due
  have hstartup := hp.player player hplayer halive
  have hlength : (fight.process arithmetic skillCatalog attacks).calls.length =
      fight.calls.length + 1 := by simp [hcalls]
  by_cases hlast : fight.calls.length = i + hit.skill.startupTicks.toNat
  · -- the skill is active after this tick, and the first pass finds the entry due
    rw [hlast, Nat.add_sub_cancel_left] at hstartup
    obtain ⟨hskill, hactive⟩ := hstartup.lastTick
    have hplace := advanceCombatTick_samePlace player
    have huntouched := untouched_of_busy arithmetic skillCatalog attacks h hplayer (by simp [hactive])
    obtain ⟨hhits, hlandings⟩ := h.untouched hstate hplayer hp.entry huntouched
    rw [if_neg fun hwaits => hwaits.2 hactive] at hhits
    rw [if_pos ⟨hskill, hactive⟩, hp.origin, hplace.1, hplace.2] at hlandings
    refine ⟨hr.call hcalls (fun _ => ⟨player, hplayer, ?_⟩) (fun hne => absurd hlast hne)
      (fun _ _ => not_accepted huntouched.accepted), .inr ⟨by omega, fun other hother => ?_⟩⟩
    · rw [landingsOf_eq, hlandings]
      simp
    · rw [hhits] at hother
      cases hother
  · obtain ⟨left, hleft⟩ : ∃ left, i + hit.skill.startupTicks.toNat + 1 - fight.calls.length = left + 1 :=
      ⟨i + hit.skill.startupTicks.toNat - fight.calls.length, by omega⟩
    rw [hleft] at hstartup
    have hticked := hstartup.tick (by omega)
    have hactive : player.advanceCombatTick.actionPhase ≠ .active := by simp [hticked.phase]
    have huntouched := untouched_of_busy arithmetic skillCatalog attacks h hplayer (by simp [hticked.phase])
    obtain ⟨hhits, hlandings⟩ := h.untouched hstate hplayer hp.entry huntouched
    rw [if_pos ⟨hticked.skill, hactive⟩] at hhits
    rw [if_neg fun hdue => hactive hdue.2] at hlandings
    refine ⟨hr.call hcalls (fun heq => absurd heq hlast) (fun _ => ?_)
      (fun _ _ => not_accepted huntouched.accepted), .inl ⟨hhits, ?_, by omega, by omega, ?_⟩⟩
    · rw [landingsOf_eq, hlandings]
      rfl
    · rw [horigins, getElem?_nextOrigins, huntouched.accepted, if_pos rfl]
      exact hp.origin
    · intro player' hplayer' _
      rw [process_dungeon h.roster hstate] at hplayer'
      rw [huntouched.player, getElem?_firstPass arithmetic h.roster, hplayer] at hplayer'
      obtain rfl := Option.some.inj hplayer'
      have hnext : i + hit.skill.startupTicks.toNat + 1 - (fight.calls.length + 1) = left := by omega
      rw [hlength, hnext]
      exact hticked

/-- The entry of a session after the loop over the attacks is of another call. -/
theorem Over.attacking (ho : Over s hit i fight) {other : PendingSkillHit}
    (hother : (fight.attacking arithmetic skillCatalog attacks).hits[s]? = some other) :
    (fight.nextOrigins arithmetic skillCatalog attacks)[s]? ≠ some i := by
  have hpast := ho.past
  rw [getElem?_nextOrigins]
  rcases (loop_attacking arithmetic skillCatalog attacks fight).session s with huntouched | ⟨new, hbegun⟩
  · rw [huntouched.hits, getElem?_firstPass_hits] at hother
    rw [huntouched.accepted, if_pos rfl]
    exact ho.later other (Option.filter_eq_some_iff.mp hother).1
  · rw [hbegun.accepted, if_neg (List.cons_ne_nil _ _)]
    intro heq
    have := Option.some.inj heq
    omega

theorem Over.process (ho : Over s hit i fight) (hr : ResolvedOnce s hit i fight) :
    ResolvedOnce s hit i (fight.process arithmetic skillCatalog attacks) ∧
      Over s hit i (fight.process arithmetic skillCatalog attacks) := by
  have hpast := ho.past
  by_cases hstate : fight.dungeon.state = .running
  · obtain ⟨horigins, hcalls⟩ := process_calls arithmetic skillCatalog attacks hstate
    refine ⟨hr.call hcalls (fun heq => by omega) (fun _ => ?_) (fun _ hle => by omega), ?_, ?_⟩
    · rw [landingsOf_eq, filter_landings_session, List.filter_append, List.append_eq_nil_iff]
      refine ⟨List.filter_eq_nil_iff.mpr fun found hfound => ?_,
        List.filter_eq_nil_iff.mpr fun found hfound => ?_⟩
      · obtain ⟨other, hother, hlanding⟩ := Option.bind_eq_some_iff.mp (Option.mem_toList.mp hfound)
        obtain ⟨player, -, -, -, rfl⟩ := landing_eq_some hlanding
        simpa using ho.later other hother
      · obtain ⟨other, hother, hlanding⟩ := Option.bind_eq_some_iff.mp (Option.mem_toList.mp hfound)
        obtain ⟨player, -, -, -, rfl⟩ := landing_eq_some hlanding
        simpa using ho.attacking hother
    · rw [hcalls, List.length_append]
      omega
    · intro other hother
      rw [process_hits hstate] at hother
      rw [horigins]
      exact ho.attacking (Option.filter_eq_some_iff.mp hother).1
  · rw [process_stopped hstate]
    refine ⟨hr.call rfl (fun heq => by omega) (fun _ => rfl) (fun _ hle => by omega), ?_, ?_⟩
    · rw [List.length_append]
      omega
    · intro other hother
      simp at hother

/-- Nothing of a call to come has happened. -/
theorem Steady.unresolved (h : Steady arithmetic template fight) :
    ResolvedOnce s hit fight.calls.length fight := by
  have hlater {k : Nat} {call : Call} (hk : fight.calls[k]? = some call) : k < fight.calls.length :=
    (List.getElem?_eq_some_iff.mp hk).1
  refine ⟨fun call hk => absurd (hlater hk) (by omega), fun k call _ hk => ?_,
    fun k call hlt _ hk => absurd (hlater hk) (by omega)⟩
  refine List.filter_eq_nil_iff.mpr fun found hmem => ?_
  obtain ⟨j, hj, horigin⟩ := h.past k call hk found hmem
  have hk := hlater hk
  simp only [horigin, decide_eq_true_eq, not_and, Option.some.injEq]
  omega

/-- The call that accepts an attack. -/
theorem accepted (h : Steady arithmetic template fight) (hstate : fight.dungeon.state = .running)
    (hmem : (s, hit) ∈ (fight.attacking arithmetic skillCatalog attacks).accepted) :
    ResolvedOnce s hit fight.calls.length (fight.process arithmetic skillCatalog attacks) ∧
      (Pending s hit fight.calls.length (fight.process arithmetic skillCatalog attacks) ∨
        Over s hit fight.calls.length (fight.process arithmetic skillCatalog attacks)) := by
  have hbegun := (loop_attacking arithmetic skillCatalog attacks fight).begun hmem
  obtain ⟨horigins, hcalls⟩ := process_calls arithmetic skillCatalog attacks hstate
  have hlength : (fight.process arithmetic skillCatalog attacks).calls.length =
      fight.calls.length + 1 := by simp [hcalls]
  have hnew : (fight.nextOrigins arithmetic skillCatalog attacks)[s]? = some fight.calls.length := by
    rw [getElem?_nextOrigins, hbegun.accepted, if_neg (List.cons_ne_nil _ _)]
  obtain ⟨first, player, hfirst, hbegins, hplayer⟩ := hbegun.player
  rw [getElem?_firstPass arithmetic h.roster] at hfirst
  obtain ⟨old, hold, rfl⟩ := Option.map_eq_some_iff.mp hfirst
  obtain ⟨halive, -, -, -, -, -, hplayer'⟩ := beginSkill_success hbegins
  have hskill : InSkill hit player := by
    rw [hplayer']
    exact ⟨decide_eq_true (UInt32.pos_iff_ne_zero.mpr halive), rfl⟩
  have hplace : player.roomId = old.roomId ∧ player.position = old.position := by
    have hticked := advanceCombatTick_samePlace old
    rw [hplayer']
    exact hticked
  -- an entry that the first pass resolves is of an earlier call
  have hearlier : ((fight.hits[s]?.bind fun hit => landing (advance fight.dungeon).players
      fight.origins (s, hit)).toList).filter (·.acceptedIn = some fight.calls.length) = [] := by
    refine List.filter_eq_nil_iff.mpr fun found hfound => ?_
    obtain ⟨other, hother, hlanding⟩ := Option.bind_eq_some_iff.mp (Option.mem_toList.mp hfound)
    obtain ⟨-, -, -, -, rfl⟩ := landing_eq_some hlanding
    obtain ⟨-, j, hj, horigin⟩ := h.entries s other hother
    simp only [horigin, decide_eq_true_eq, Option.some.injEq]
    omega
  have hmine : landingsOf s fight.calls.length (fight.landings arithmetic skillCatalog attacks) =
      if player.actionPhase = .active then
        [{ sessionId := s, acceptedIn := some fight.calls.length, hit, roomId := player.roomId
           position := player.position }]
      else [] := by
    rw [landingsOf_eq, filter_landings_session, List.filter_append, hearlier, List.nil_append,
      hbegun.hits, Option.bind_some, landing_of _ hplayer, hnew]
    by_cases hactive : player.actionPhase = .active
    · simp [hskill, hactive]
    · simp [hactive]
  have hhits : (fight.process arithmetic skillCatalog attacks).hits[s]? =
      if player.actionPhase ≠ .active then some hit else none := by
    rw [process_hits hstate, hbegun.hits, Option.filter_some]
    simp only [isWaiting_of hplayer, hskill, true_and]
  have hphase : player.actionPhase = if hit.skill.startupTicks > 0 then .startup else .active := by
    rw [hplayer']
  by_cases hstartup : hit.skill.startupTicks > 0
  · rw [if_pos hstartup] at hphase
    have hpos : 0 < hit.skill.startupTicks.toNat := UInt32.lt_iff_toNat_lt.mp hstartup
    have hremaining : player.actionRemainingTicks = hit.skill.startupTicks := by
      rw [hplayer']
      exact if_pos hstartup
    refine ⟨h.unresolved.call hcalls (fun heq => by omega) (fun _ => ?_) (fun hlt => by omega),
      .inl ⟨?_, horigins ▸ hnew, by omega, by omega, ?_⟩⟩
    · rw [hmine, if_neg (by simp [hphase])]
    · rw [hhits, if_pos (by simp [hphase])]
    · intro player'' hplayer'' _
      rw [process_dungeon h.roster hstate] at hplayer''
      obtain rfl := Option.some.inj (hplayer.symm.trans hplayer'')
      refine ⟨hskill, hphase, ?_⟩
      rw [hremaining, hlength]
      omega
  · rw [if_neg hstartup] at hphase
    have hzero : hit.skill.startupTicks.toNat = 0 := by
      rw [UInt32.le_zero_iff.mp (UInt32.not_lt.mp hstartup), UInt32.toNat_zero]
    refine ⟨h.unresolved.call hcalls (fun _ => ⟨old, hold, ?_⟩) (fun hne => by omega)
      (fun hlt => by omega), .inr ⟨by omega, fun other hother => ?_⟩⟩
    · rw [hmine, if_pos hphase, hplace.1, hplace.2]
    · rw [hhits, if_neg (by simp [hphase])] at hother
      cases hother

end

/-! ## The run -/

/-- As long as the attack has not landed the dungeon runs, and the session has a living player. -/
def Stays (s : SessionId) (due : Nat) (fight : Fight) (_ : FightEvent) : Prop :=
  fight.calls.length ≤ due → fight.dungeon.state = .running ∧
    ∃ player, fight.dungeon.players[s]? = some player ∧ player.isAlive = true

instance (s : SessionId) (due : Nat) (fight : Fight) (event : FightEvent) :
    Decidable (Stays s due fight event) :=
  inferInstanceAs (Decidable (_ → _ ∧ _))

section

variable {arithmetic : Arithmetic} {skillCatalog : SkillCatalog} {template : DungeonTemplate}
  {fight fight' : Fight} {s : SessionId} {hit : PendingSkillHit} {i : Nat}

/-- An operation between two calls leaves the startup alone. -/
theorem Pending.between (hp : Pending s hit i fight) {event : DungeonEvent}
    (hevent : isCombat event = false) {player : DungeonPlayerState}
    (hplayer : fight.dungeon.players[s]? = some player) :
    Pending s hit i { fight with
      dungeon := event.apply fight.content.enemies skillCatalog fight.dungeon } := by
  have hpassed := passed_of_event hevent fight.content.enemies skillCatalog fight.dungeon
  refine { hp with player := fun player' hplayer' halive' => ?_ }
  obtain ⟨t, old, hold, hacts, hsame⟩ := hpassed.players s player' hplayer'
  obtain rfl := hsame (mem_of_entry hplayer)
  have hstartup := hp.player old hold (hacts.alive halive')
  have haction := hacts.action halive'
  exact ⟨⟨halive', haction.skillId.trans hstartup.skill.2⟩, haction.phase.trans hstartup.phase,
    haction.remainingTicks ▸ hstartup.left⟩

/-- The attack on its way. -/
structure Tracked (arithmetic : Arithmetic) (template : DungeonTemplate) (s : SessionId)
    (hit : PendingSkillHit) (i : Nat) (fight : Fight) : Prop where
  steady : Steady arithmetic template fight
  resolved : ResolvedOnce s hit i fight
  place : Pending s hit i fight ∨ Over s hit i fight

theorem Tracked.next (h : Tracked arithmetic template s hit i fight) {event : FightEvent}
    (hstays : Stays s (i + hit.skill.startupTicks.toNat) fight event)
    (hn : fight.next arithmetic skillCatalog event = some fight') :
    Tracked arithmetic template s hit i fight' := by
  have hsteady := h.steady.next hn
  cases event with
  | process attacks =>
    obtain rfl := Option.some.inj hn
    rcases h.place with hp | ho
    · obtain ⟨hstate, player, hplayer, halive⟩ := hstays hp.due
      obtain ⟨hresolved, hplace⟩ := hp.process h.steady h.resolved hstate hplayer halive
      exact ⟨hsteady, hresolved, hplace⟩
    · obtain ⟨hresolved, hover⟩ := ho.process h.resolved
      exact ⟨hsteady, hresolved, .inr hover⟩
  | content op =>
    obtain rfl := Option.some.inj hn
    refine ⟨hsteady, ⟨h.resolved.once, h.resolved.only, h.resolved.alone⟩, ?_⟩
    rcases h.place with hp | ho
    · exact .inl { hp with }
    · exact .inr { ho with }
  | dungeon event =>
    simp only [Fight.next] at hn
    split at hn
    · cases hn
    rename_i hevent
    obtain rfl := Option.some.inj hn
    refine ⟨hsteady, ⟨h.resolved.once, h.resolved.only, h.resolved.alone⟩, ?_⟩
    rcases h.place with hp | ho
    · obtain ⟨-, player, hplayer, -⟩ := hstays hp.due
      exact .inl (hp.between (Bool.eq_false_iff.mpr hevent) hplayer)
    · exact .inr { ho with }

theorem roster_new {dungeonId : DungeonId} {partyId : PartyId} {participants : List SessionId}
    {createdAt : Int} {dungeon : DungeonInstance}
    (h : DungeonInstance.new dungeonId template partyId participants createdAt = .ok dungeon) :
    Roster dungeon := by
  have hconsistent := Participants.new_consistent h
  exact ⟨hconsistent.nodup, hconsistent.listed⟩

theorem steady_new {content : Content} (hs : Sound content.enemies template) {dungeonId : DungeonId}
    {partyId : PartyId} {participants : List SessionId} {createdAt : Int} {dungeon : DungeonInstance}
    (h : DungeonInstance.new dungeonId template partyId participants createdAt = .ok dungeon) :
    Steady arithmetic template { content, dungeon } := by
  have hc := created_new h
  refine ⟨⟨runnable_new hs h, fun id room hroom => ?_⟩, roster_new h, fun s player hplayer => ?_,
    fun s hit hhit => ?_, fun call hmem => absurd hmem List.not_mem_nil, fun k call hk => ?_⟩
  · obtain ⟨roomTemplate, -, rfl, -⟩ := (hc.rooms id room).mp hroom
    exact fun enemy he => absurd he List.not_mem_nil
  · obtain ⟨firstRoom, otherRooms, -, hplayers⟩ := hc.players
    have hnew := hplayers s player hplayer
    unfold DungeonPlayerState.new at hnew
    split at hnew
    · cases hnew
    · cases hnew
      exact fun _ => rfl
  · simp at hhit
  · simp at hk

/-- In every call the attacks are counted and the rooms change by the landings, each of which damages
each enemy at most once; and an attack that a call accepts lands exactly once, in the call that ends its
startup and where its player is then, as long as that player lives and keeps its session. -/
theorem resolved_of_run {content : Content} {templateId : DungeonTemplateId}
    (hcontent : Reachable ContentOp.next {} content)
    (htemplate : content.dungeons.getDungeon templateId = some template) {dungeonId : DungeonId}
    {partyId : PartyId} {participants : List SessionId} {createdAt : Int} {dungeon : DungeonInstance}
    (hnew : DungeonInstance.new dungeonId template partyId participants createdAt = .ok dungeon)
    {events : List FightEvent}
    (hr : run (Fight.next arithmetic skillCatalog) { content, dungeon } events = some fight) :
    (∀ call ∈ fight.calls, CallExact arithmetic call) ∧
      ∀ (attacks : List AuthenticatedPlayerAttack) (call : Call) (s : SessionId) (hit : PendingSkillHit),
        (fight.process arithmetic skillCatalog attacks).calls.getLast? = some call →
        (s, hit) ∈ call.accepted →
        ∀ (later : List FightEvent) (fight' : Fight),
          Meets (Fight.next arithmetic skillCatalog)
            (Stays s (fight.calls.length + hit.skill.startupTicks.toNat))
            (fight.process arithmetic skillCatalog attacks) later →
          run (Fight.next arithmetic skillCatalog) (fight.process arithmetic skillCatalog attacks) later =
            some fight' →
          ResolvedOnce s hit fight.calls.length fight' := by
  have hsteady : Steady arithmetic template fight :=
    run_invariant _ (fun _ _ _ h _ hn => h.next hn)
      (steady_new (sound_of_run hcontent templateId template htemplate) hnew) (meets_true _) hr
  refine ⟨hsteady.calls, fun attacks call s hit hcall hmem later fight' hstays hlater => ?_⟩
  by_cases hstate : fight.dungeon.state = .running
  · obtain ⟨-, hcalls⟩ := process_calls arithmetic skillCatalog attacks hstate
    rw [hcalls, List.getLast?_concat] at hcall
    obtain rfl := Option.some.inj hcall
    obtain ⟨hresolved, hplace⟩ := accepted hsteady hstate hmem
    exact (run_invariant (Tracked arithmetic template s hit fight.calls.length)
      (fun _ _ _ h hok hn => h.next hok hn) ⟨hsteady.process, hresolved, hplace⟩ hstays hlater).resolved
  · rw [process_stopped hstate, List.getLast?_concat] at hcall
    obtain rfl := Option.some.inj hcall
    cases hmem

end

/-- A skill that does damage at all takes at least one hit point. -/
theorem calculateDamage_pos {skill : SkillTemplate}
    (h : ¬ skill.effects.foldl (fun sum effect =>
      if effect.type = .damage ∧ effect.target = .enemy then sum + effect.value else sum)
        (0 : Float32) ≤ 0) : 0 < calculateDamage skill := by
  unfold calculateDamage
  simp only
  rw [if_neg h]
  split
  · rename_i habove
    exact toUInt32_pos habove
  · decide +kernel

/-- A landing in a room with one enemy, which has a single hit point left. -/
theorem strikeOnce_last {arithmetic : Arithmetic} {rooms : ExtTreeMap UInt32 RoomState}
    {found : Landing} {room : RoomState} {enemy : EnemyState} (hroom : rooms[found.roomId]? = some room)
    (henemies : room.enemies = [enemy])
    (hreaches : Reaches arithmetic found.position found.hit enemy) (hlast : enemy.currentHp = 1) :
    (strikeOnce arithmetic rooms found)[found.roomId]? =
      some { room with enemies := [{ enemy with currentHp := 0, alive := false }] } := by
  have hkills : calculateDamage found.hit.skill ≥ enemy.currentHp := by
    have hpos := UInt32.lt_iff_toNat_lt.mp hreaches.1
    rw [hlast, ge_iff_le, UInt32.le_iff_toNat_le]
    exact hpos
  rw [getElem?_strikeOnce, if_pos rfl, hroom, Option.map_some, henemies]
  simp [struck, hreaches, RoomState.damageEnemy, hkills]

/-- A hall without enemies. -/
def hallContent : List ContentOp :=
  [.addDungeon 1 "Hall" [{ id := 1, width := 10, depth := 10, playerSpawn := {} }] 1 4]

/-- A slash that needs two ticks to start. -/
def slashSkill : SkillTemplate where
  id := 5
  manaCost := 10
  cooldownTicks := 6
  startupTicks := 2
  activeTicks := 1
  recoveryTicks := 1

def slashCatalog : SkillCatalog where
  skills := .ofList [((5 : UInt32), slashSkill)]

/-- A slash that does damage. -/
def cleaveSkill : SkillTemplate := { slashSkill with effects := [{ value := 1 }] }

def cleaveCatalog : SkillCatalog where
  skills := .ofList [((5 : UInt32), cleaveSkill)]

/-- A goblin with a single hit point. -/
def goblinContent : List ContentOp :=
  [.addEnemy { id := 7, name := "Goblin", maxHp := 1, moveSpeed := 1, aiType := .melee
               collision := ⟨{}, { x := 1, y := 1, z := 1 }⟩ },
    .addDungeon 1 "Hall" [{ id := 1, width := 10, depth := 10, playerSpawn := {}
                            enemySpawns := [⟨1, 7, { x := 5, y := 5 }, 1⟩] }] 1 4]

def hitPoints (fight : Fight) : Option (List UInt32) :=
  fight.dungeon.rooms[(1 : UInt32)]?.map fun room => room.enemies.map (·.currentHp)

def stillArithmetic : Arithmetic where
  nextPosition := fun _ _ position => position
  isInsideSkillHitBox := fun _ _ _ _ _ => true

/-- An attack with the slash. -/
def slash (s : SessionId) : AuthenticatedPlayerAttack where
  sessionId := s
  attack := { dungeonId := 1, sequence := 1, skillId := 5, directionX := ⟨0⟩, directionY := ⟨0⟩ }

/-- A fight in the first dungeon of the catalog, with two players. -/
def arena (skillCatalog : SkillCatalog) (content : List ContentOp) (events : List FightEvent) :
    Option Fight :=
  (run ContentOp.next {} content).bind fun content =>
    (content.dungeons.getDungeon 1).bind fun template =>
      (DungeonInstance.new 1 template 1 [100, 101] 0).toOption.bind fun dungeon =>
        run (Fight.next stillArithmetic skillCatalog) { content, dungeon } events

theorem arena_some {skillCatalog : SkillCatalog} {ops : List ContentOp} {events : List FightEvent}
    {fight : Fight} (h : arena skillCatalog ops events = some fight) :
    ∃ content template dungeon, Reachable ContentOp.next {} content ∧
      content.dungeons.getDungeon 1 = some template ∧
      DungeonInstance.new 1 template 1 [100, 101] 0 = .ok dungeon ∧
      run (Fight.next stillArithmetic skillCatalog) { content, dungeon } events = some fight := by
  obtain ⟨content, hcontent, h⟩ := Option.bind_eq_some_iff.mp h
  obtain ⟨template, htemplate, h⟩ := Option.bind_eq_some_iff.mp h
  obtain ⟨dungeon, hnew, hrun⟩ := Option.bind_eq_some_iff.mp h
  refine ⟨content, template, dungeon, ⟨ops, hcontent⟩, htemplate, ?_, hrun⟩
  cases hresult : DungeonInstance.new 1 template 1 [100, 101] 0 with
  | error failure =>
    rw [hresult] at hnew
    cases hnew
  | ok created =>
    rw [hresult] at hnew
    exact congrArg _ (Option.some.inj hnew)

/-- In the next call one hit lands, which does damage, and the one enemy of the room lives on a single hit
point. -/
def Decisive (skillCatalog : SkillCatalog) (attacks : List AuthenticatedPlayerAttack) (fight : Fight) :
    Prop :=
  fight.dungeon.state = .running ∧ (fight.landings stillArithmetic skillCatalog attacks).length = 1 ∧
    (∀ found ∈ fight.landings stillArithmetic skillCatalog attacks, found.roomId = 1 ∧
      ¬ found.hit.skill.effects.foldl (fun sum effect =>
        if effect.type = .damage ∧ effect.target = .enemy then sum + effect.value else sum)
          (0 : Float32) ≤ 0) ∧
    ∃ room, fight.dungeon.rooms[(1 : UInt32)]? = some room ∧ room.enemies.length = 1 ∧
      ∀ enemy ∈ room.enemies, enemy.alive = true ∧ enemy.currentHp = 1

instance (skillCatalog : SkillCatalog) (attacks : List AuthenticatedPlayerAttack) (fight : Fight) :
    Decidable (Decisive skillCatalog attacks fight) := by
  unfold Decisive
  infer_instance

theorem Decisive.kills {skillCatalog : SkillCatalog} {attacks : List AuthenticatedPlayerAttack}
    {fight : Fight} {template : DungeonTemplate} (h : Decisive skillCatalog attacks fight)
    (hsteady : Steady stillArithmetic template fight) :
    hitPoints (fight.process stillArithmetic skillCatalog attacks) = some [0] := by
  obtain ⟨hstate, hone, hlandings, room, hroom, hsingle, henemies⟩ := h
  obtain ⟨found, hfound⟩ := List.length_eq_one_iff.mp hone
  obtain ⟨enemy, henemy⟩ := List.length_eq_one_iff.mp hsingle
  rw [hfound] at hlandings
  rw [henemy] at henemies
  obtain ⟨hid, hdamage⟩ := hlandings found List.mem_cons_self
  obtain ⟨halive, hhp⟩ := henemies enemy List.mem_cons_self
  have hdead := strikeOnce_last (hid ▸ hroom) henemy
    (⟨calculateDamage_pos hdamage, halive, rfl⟩ : Reaches stillArithmetic _ _ _) hhp
  rw [hitPoints, process_dungeon hsteady.roster hstate, hfound]
  simp only [List.foldl_cons, List.foldl_nil, strike_eq hsteady.populated.distinct]
  rw [hid] at hdead
  rw [hdead]
  rfl

/-- After the slash the player steps aside. -/
def stepAside : List FightEvent := [.process [], .dungeon (.moveTo 100 1 { x := 2 })]

/-- The goblin stands in the hit box when the slash lands, in the call in which its player, still busy,
tries again. -/
theorem resolved_of_run_slash :
    ∃ fight, arena cleaveCatalog goblinContent [.dungeon (.op .start)] = some fight ∧
      hitPoints fight = some [1] ∧ ∃ call hit fight',
      (fight.process stillArithmetic cleaveCatalog [slash 100]).calls.getLast? = some call ∧
        (100, hit) ∈ call.accepted ∧
        run (Fight.next stillArithmetic cleaveCatalog)
          (fight.process stillArithmetic cleaveCatalog [slash 100])
          (stepAside ++ [.process [slash 100]]) = some fight' ∧
        fight'.calls.length = 3 ∧ hitPoints fight' = some [0] ∧
        ResolvedOnce 100 hit fight.calls.length fight' := by
  have hrun : ∃ fight, arena cleaveCatalog goblinContent [.dungeon (.op .start)] = some fight ∧
      hitPoints fight = some [1] ∧ ∃ call,
      (fight.process stillArithmetic cleaveCatalog [slash 100]).calls.getLast? = some call ∧
        ∃ entry, call.accepted.head? = some entry ∧ entry.1 = 100 ∧
          Meets (Fight.next stillArithmetic cleaveCatalog)
            (Stays 100 (fight.calls.length + entry.2.skill.startupTicks.toNat))
            (fight.process stillArithmetic cleaveCatalog [slash 100])
            (stepAside ++ [.process [slash 100]]) ∧
          ∃ before, run (Fight.next stillArithmetic cleaveCatalog)
            (fight.process stillArithmetic cleaveCatalog [slash 100]) stepAside = some before ∧
            Decisive cleaveCatalog [slash 100] before ∧
            (before.process stillArithmetic cleaveCatalog [slash 100]).calls.length = 3 := by
    decide +kernel
  obtain ⟨fight, hfight, hgoblin, call, hcall, ⟨s, hit⟩, hentry, rfl, hstays, before, hbefore, hdecisive,
    hlength⟩ := hrun
  obtain ⟨content, template, dungeon, hcontent, htemplate, hnew, hstart⟩ := arena_some hfight
  have haccepted := List.mem_of_mem_head? (Option.mem_def.mpr hentry)
  have hsteady : Steady stillArithmetic template before :=
    run_invariant _ (fun _ _ _ h _ hn => h.next hn)
      (steady_new (sound_of_run hcontent 1 template htemplate) hnew) (meets_true _)
      (run_append.mpr ⟨fight, hstart,
        (run_cons.mpr ⟨_, rfl, hbefore⟩ :
          run _ fight (.process [slash 100] :: stepAside) = some before)⟩)
  have hlater := run_append.mpr ⟨before, hbefore,
    (rfl : run (Fight.next stillArithmetic cleaveCatalog) before [.process [slash 100]] = some _)⟩
  exact ⟨fight, hfight, hgoblin, call, hit, _, hcall, haccepted, hlater, hlength, hdecisive.kills hsteady,
    (resolved_of_run hcontent htemplate hnew hstart).2 _ call _ hit hcall haccepted _ _ hstays hlater⟩

end DnfServer.Combat
