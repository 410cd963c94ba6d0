import DnfServer.Combat.Passes

/-!
# From the attack to the hit

`DungeonCombatProcessor::Process` as one call on a dungeon: every player advances by a tick, the
pending hits are resolved, the queued attacks begin their skills, and the hits are resolved again. The
phase of a skill lives in the player and its hit in a map under the session of the player; over any
sequence of calls and of other operations between them the two meet exactly once.
-/

namespace DnfServer

open Std

namespace DungeonCombatProcessor

/-- The counters of one call; that of the enemies hit is left out. -/
structure CombatProcessResult where
  receivedCount : Nat := 0
  acceptedCount : Nat := 0
  rejectedCount : Nat := 0

/-- What the loop over the queued attacks changes, with the entries it has added. -/
structure Attacking where
  result : CombatProcessResult := {}
  accepted : List (SessionId × PendingSkillHit) := []
  hits : IdMap PendingSkillHit
  dungeon : DungeonInstance

def reject (attacking : Attacking) : Attacking :=
  { attacking with result := { attacking.result with
      receivedCount := attacking.result.receivedCount + 1
      rejectedCount := attacking.result.rejectedCount + 1 } }

/-- The body of the loop over the queued attacks. -/
def attack (skillCatalog : SkillCatalog) (attacking : Attacking)
    (queuedAttack : AuthenticatedPlayerAttack) : Attacking :=
  match attacking.dungeon.findPlayer queuedAttack.sessionId,
    skillCatalog.getSkill queuedAttack.attack.skillId with
  | some player, some skill =>
    match player.beginSkill skill.id skill.manaCost skill.cooldownTicks skill.startupTicks
      skill.activeTicks skill.recoveryTicks with
    | (.success, player) =>
      let hit : PendingSkillHit :=
        { skill, directionX := queuedAttack.attack.directionX
          directionY := queuedAttack.attack.directionY }
      { result := { attacking.result with
          receivedCount := attacking.result.receivedCount + 1
          acceptedCount := attacking.result.acceptedCount + 1 }
        accepted := attacking.accepted ++ [(queuedAttack.sessionId, hit)]
        hits := attacking.hits.insert queuedAttack.sessionId hit
        dungeon := modifyPlayer queuedAttack.sessionId (fun _ => player) attacking.dungeon }
    | _ => reject attacking
  | _, _ => reject attacking

/-- The loop that advances the participants. -/
def advance (dungeon : DungeonInstance) : DungeonInstance :=
  dungeon.participants.foldl
    (fun dungeon sessionId => modifyPlayer sessionId (·.advanceCombatTick) dungeon) dungeon

/-- `ResolvePendingHits` on the entries of one dungeon. -/
def pass (arithmetic : Arithmetic) (hits : IdMap PendingSkillHit) (dungeon : DungeonInstance) :
    IdMap PendingSkillHit × DungeonInstance :=
  resolveHits arithmetic hits.toList (hits, dungeon)

/-- A call up to the end of the loop over the queued attacks. -/
def beginAttacks (arithmetic : Arithmetic) (skillCatalog : SkillCatalog)
    (attacks : List AuthenticatedPlayerAttack) (hits : IdMap PendingSkillHit)
    (dungeon : DungeonInstance) : Attacking :=
  let resolved := pass arithmetic hits (advance dungeon)
  attacks.foldl (attack skillCatalog) { hits := resolved.1, dungeon := resolved.2 }

/-- `Process`, where `attacks` is what it takes from the queue. -/
def process (arithmetic : Arithmetic) (skillCatalog : SkillCatalog)
    (attacks : List AuthenticatedPlayerAttack) (hits : IdMap PendingSkillHit)
    (dungeon : DungeonInstance) :
    CombatProcessResult × IdMap PendingSkillHit × DungeonInstance :=
  if dungeon.state ≠ .running then ({}, ∅, dungeon)
  else
    let attacking := beginAttacks arithmetic skillCatalog attacks hits dungeon
    (attacking.result, pass arithmetic attacking.hits attacking.dungeon)

end DungeonCombatProcessor

namespace Combat

open DnfServer.Library DnfServer.Dungeons DungeonCombatProcessor Relation
set_option autoImplicit false

/-! ## The players in one call -/

/-- The participants are distinct and are those with a player. -/
structure Roster (dungeon : DungeonInstance) : Prop where
  nodup : dungeon.participants.Nodup
  listed : ∀ s, s ∈ dungeon.participants ↔ s ∈ dungeon.players

theorem getElem?_modifyPlayer (s t : SessionId) (change : DungeonPlayerState → DungeonPlayerState)
    (dungeon : DungeonInstance) : (modifyPlayer s change dungeon).players[t]? =
      if s = t then dungeon.players[t]?.map change else dungeon.players[t]? := by
  unfold modifyPlayer DungeonInstance.findPlayer
  split
  · rename_i hnone
    split
    · rename_i hst
      rw [← hst, hnone]
      rfl
    · rfl
  · rename_i player hplayer
    grind

theorem modifyPlayer_frame (s : SessionId) (change : DungeonPlayerState → DungeonPlayerState)
    (dungeon : DungeonInstance) : ∃ players,
      modifyPlayer s change dungeon = { dungeon with players } := by
  unfold modifyPlayer
  split
  · exact ⟨_, rfl⟩
  · exact ⟨_, rfl⟩

/-- Every player advances by one tick, and nothing else changes. -/
theorem advance_spec {dungeon : DungeonInstance} (h : Roster dungeon) :
    (∀ s : SessionId, (advance dungeon).players[s]? =
        dungeon.players[s]?.map DungeonPlayerState.advanceCombatTick) ∧
      ∃ players, advance dungeon = { dungeon with players } := by
  have hfold (sessions : List SessionId) : ∀ d : DungeonInstance, sessions.Nodup →
      (∀ s : SessionId,
        (sessions.foldl (fun d s => modifyPlayer s (·.advanceCombatTick) d) d).players[s]? =
          if s ∈ sessions then d.players[s]?.map DungeonPlayerState.advanceCombatTick
          else d.players[s]?) ∧
      ∃ players, sessions.foldl (fun d s => modifyPlayer s (·.advanceCombatTick) d) d =
        { d with players } := by
    induction sessions with
    | nil => exact fun d _ => ⟨fun s => by simp, d.players, rfl⟩
    | cons t sessions ih =>
      intro d hnodup
      obtain ⟨hfresh, hrest⟩ := List.nodup_cons.mp hnodup
      obtain ⟨hplayers, players, hframe⟩ := ih (modifyPlayer t (·.advanceCombatTick) d) hrest
      obtain ⟨players', hfirst⟩ := modifyPlayer_frame t (·.advanceCombatTick) d
      refine ⟨fun s => ?_, players, by rw [List.foldl_cons, hframe, hfirst]⟩
      rw [List.foldl_cons, hplayers, getElem?_modifyPlayer]
      by_cases hts : t = s
      · subst hts
        simp [hfresh]
      · simp [hts, Ne.symm hts]
  obtain ⟨hplayers, hframe⟩ := hfold dungeon.participants dungeon h.nodup
  refine ⟨fun s => ?_, hframe⟩
  refine (hplayers s).trans ?_
  split
  · rfl
  · rename_i hs
    have hnone : dungeon.players[s]? = none :=
      ExtTreeMap.getElem?_eq_none (mt (h.listed s).mpr hs)
    simp [hnone]

/-- The loop has not accepted an attack of the session. -/
structure Untouched (s : SessionId) (start attacking : Attacking) : Prop where
  accepted : attacking.accepted.filter (·.1 = s) = []
  hits : attacking.hits[s]? = start.hits[s]?
  player : attacking.dungeon.players[s]? = start.dungeon.players[s]?

/-- The skill of the hit begins. -/
def Begins (player : DungeonPlayerState) (hit : PendingSkillHit) (player' : DungeonPlayerState) : Prop :=
  player.beginSkill hit.skill.id hit.skill.manaCost hit.skill.cooldownTicks hit.skill.startupTicks
    hit.skill.activeTicks hit.skill.recoveryTicks = (.success, player')

/-- The loop has accepted one attack of the session. -/
structure Begun (s : SessionId) (hit : PendingSkillHit) (start attacking : Attacking) : Prop where
  accepted : attacking.accepted.filter (·.1 = s) = [(s, hit)]
  hits : attacking.hits[s]? = some hit
  player : ∃ player player', start.dungeon.players[s]? = some player ∧ Begins player hit player' ∧
    attacking.dungeon.players[s]? = some player'

/-- The loop so far. -/
structure Loop (start attacking : Attacking) : Prop where
  counted : attacking.result.acceptedCount + attacking.result.rejectedCount =
    attacking.result.receivedCount
  listed : attacking.result.acceptedCount = attacking.accepted.length
  framed : ∃ players, attacking.dungeon = { start.dungeon with players }
  session : ∀ s, Untouched s start attacking ∨ ∃ hit, Begun s hit start attacking

/-- A queued attack is rejected, or the skill begins and its hit is stored. -/
theorem attack_cases (skillCatalog : SkillCatalog) (attacking : Attacking)
    (queuedAttack : AuthenticatedPlayerAttack) :
    attack skillCatalog attacking queuedAttack = reject attacking ∨
      ∃ hit player player', attacking.dungeon.players[queuedAttack.sessionId]? = some player ∧
        Begins player hit player' ∧
        attack skillCatalog attacking queuedAttack =
          { result := { attacking.result with
              receivedCount := attacking.result.receivedCount + 1
              acceptedCount := attacking.result.acceptedCount + 1 }
            accepted := attacking.accepted ++ [(queuedAttack.sessionId, hit)]
            hits := attacking.hits.insert queuedAttack.sessionId hit
            dungeon := modifyPlayer queuedAttack.sessionId (fun _ => player') attacking.dungeon } := by
  unfold attack DungeonInstance.findPlayer
  split
  · rename_i player skill hplayer hskill
    split
    · rename_i player' hbegin
      exact .inr ⟨{ skill, directionX := queuedAttack.attack.directionX
                    directionY := queuedAttack.attack.directionY },
        player, player', hplayer, hbegin, rfl⟩
    · exact .inl rfl
  · exact .inl rfl

/-- A player in a skill does not begin another. -/
theorem Begins.not_again {player player' player'' : DungeonPlayerState} {hit hit' : PendingSkillHit}
    (h : Begins player hit player') : ¬ Begins player' hit' player'' := by
  intro h'
  obtain ⟨-, -, -, -, -, -, rfl⟩ := beginSkill_success h
  have hidle := (beginSkill_success h').2.2.2.2.1
  simp only at hidle
  split at hidle <;> cases hidle

theorem Loop.attack {start attacking : Attacking} (h : Loop start attacking)
    (skillCatalog : SkillCatalog) (queuedAttack : AuthenticatedPlayerAttack) :
    Loop start (DungeonCombatProcessor.attack skillCatalog attacking queuedAttack) := by
  have hcounted := h.counted
  have hlisted := h.listed
  rcases attack_cases skillCatalog attacking queuedAttack with
    heq | ⟨hit, player, player', hplayer, hbegins, heq⟩ <;> rw [heq]
  · refine ⟨?_, hlisted, h.framed, fun s => ?_⟩
    · simp only [reject]
      omega
    · rcases h.session s with huntouched | ⟨hit, hbegun⟩
      · exact .inl ⟨huntouched.accepted, huntouched.hits, huntouched.player⟩
      · exact .inr ⟨hit, hbegun.accepted, hbegun.hits, hbegun.player⟩
  · refine ⟨?_, ?_, ?_, fun s => ?_⟩
    · simp only
      omega
    · simp [hlisted]
    · obtain ⟨players, hframed⟩ := h.framed
      obtain ⟨players', hmodified⟩ := modifyPlayer_frame queuedAttack.sessionId (fun _ => player')
        attacking.dungeon
      exact ⟨players', by rw [hmodified, hframed]⟩
    by_cases hs : queuedAttack.sessionId = s
    · subst hs
      rcases h.session queuedAttack.sessionId with huntouched | ⟨other, hbegun⟩
      · refine .inr ⟨hit, ?_, by simp, player, player', huntouched.player ▸ hplayer, hbegins, ?_⟩
        · simp [huntouched.accepted]
        · rw [getElem?_modifyPlayer, if_pos rfl, hplayer]
          rfl
      · obtain ⟨first, second, -, hfirst, hsecond⟩ := hbegun.player
        obtain rfl : second = player := Option.some.inj (hsecond.symm.trans hplayer)
        exact absurd hbegins hfirst.not_again
    · have hfilter : (attacking.accepted ++ [(queuedAttack.sessionId, hit)]).filter (·.1 = s) =
          attacking.accepted.filter (·.1 = s) := by simp [hs]
      have hhits : (attacking.hits.insert queuedAttack.sessionId hit)[s]? = attacking.hits[s]? := by
        grind
      have hplayers : (modifyPlayer queuedAttack.sessionId (fun _ => player')
          attacking.dungeon).players[s]? = attacking.dungeon.players[s]? := by
        rw [getElem?_modifyPlayer, if_neg hs]
      rcases h.session s with huntouched | ⟨other, hbegun⟩
      · exact .inl ⟨hfilter.trans huntouched.accepted, hhits.trans huntouched.hits,
          hplayers.trans huntouched.player⟩
      · obtain ⟨first, second, hfirst, hbegins', hsecond⟩ := hbegun.player
        exact .inr ⟨other, hfilter.trans hbegun.accepted, hhits.trans hbegun.hits, first, second,
          hfirst, hbegins', hplayers.trans hsecond⟩

theorem loop_of_attacks (skillCatalog : SkillCatalog) (attacks : List AuthenticatedPlayerAttack)
    (hits : IdMap PendingSkillHit) (dungeon : DungeonInstance) :
    Loop { hits, dungeon }
      (attacks.foldl (DungeonCombatProcessor.attack skillCatalog) { hits, dungeon }) := by
  have hfold : ∀ attacking : Attacking, Loop { hits, dungeon } attacking →
      Loop { hits, dungeon } (attacks.foldl (DungeonCombatProcessor.attack skillCatalog) attacking) := by
    induction attacks with
    | nil => exact fun _ => id
    | cons queuedAttack attacks ih =>
      exact fun attacking h => ih _ (h.attack skillCatalog queuedAttack)
  exact hfold _ ⟨rfl, rfl, ⟨dungeon.players, rfl⟩, fun s => .inl ⟨rfl, rfl, rfl⟩⟩

theorem Loop.nodup {start attacking : Attacking} (h : Loop start attacking) :
    (attacking.accepted.map (·.1)).Nodup := by
  rw [List.nodup_iff_count_le_one]
  intro s
  have hcount : (attacking.accepted.map (·.1)).count s = (attacking.accepted.filter (·.1 = s)).length := by
    rw [List.count, List.countP_map, List.countP_eq_length_filter]
    rfl
  rw [hcount]
  rcases h.session s with huntouched | ⟨hit, hbegun⟩
  · simp [huntouched.accepted]
  · simp [hbegun.accepted]

/-- The entry that an accepted attack has added. -/
theorem Loop.begun {start attacking : Attacking} (h : Loop start attacking) {s : SessionId}
    {hit : PendingSkillHit} (hmem : (s, hit) ∈ attacking.accepted) : Begun s hit start attacking := by
  have hfiltered : (s, hit) ∈ attacking.accepted.filter (·.1 = s) := by
    simpa using hmem
  rcases h.session s with huntouched | ⟨other, hbegun⟩
  · rw [huntouched.accepted] at hfiltered
    cases hfiltered
  · rw [hbegun.accepted, List.mem_singleton] at hfiltered
    obtain ⟨-, rfl⟩ := Prod.mk.inj hfiltered
    exact hbegun

/-! ## The call in the tick -/

section

variable {arithmetic : Arithmetic} {skillCatalog : SkillCatalog} {enemyCatalog : EnemyCatalog}
  {target : DungeonId} {order : List SessionId} {dungeonId : DungeonId} {dungeon : DungeonInstance}
  {hits : IdMap PendingSkillHit} {attacks : List AuthenticatedPlayerAttack} {server : Server}

/-- The dungeon, its entries and its queue in the server. -/
structure Held (dungeonId : DungeonId) (dungeon : DungeonInstance) (hits : IdMap PendingSkillHit)
    (attacks : List AuthenticatedPlayerAttack) (server : Server) : Prop where
  dungeon : server.managers.dungeons.dungeons[dungeonId]? = some dungeon
  hits : server.pendingHits[dungeonId]?.getD ∅ = hits
  attacks : server.managers.udp.sessions[dungeonId]?.map (·.pendingAttacks) = some attacks

theorem getElem?_modifyDungeon {manager : DungeonManager} {change : DungeonInstance → DungeonInstance}
    (h : manager.dungeons[dungeonId]? = some dungeon) :
    (manager.modifyDungeon dungeonId change).dungeons[dungeonId]? = some (change dungeon) := by
  simp [DungeonManager.modifyDungeon, h]

theorem Held.resolvePendingHits (h : Held dungeonId dungeon hits attacks server) :
    Held dungeonId (pass arithmetic hits dungeon).2 (pass arithmetic hits dungeon).1 attacks
      (DungeonCombatProcessor.resolvePendingHits arithmetic dungeonId server) := by
  obtain ⟨hdungeon, hhits, hattacks⟩ := h
  unfold DungeonCombatProcessor.resolvePendingHits DungeonManager.findDungeon
  cases hentries : server.pendingHits[dungeonId]? with
  | none =>
    rw [hentries] at hhits
    obtain rfl : ∅ = hits := hhits
    exact ⟨hdungeon, by rw [hentries]; rfl, hattacks⟩
  | some entries =>
    rw [hentries] at hhits
    obtain rfl : entries = hits := hhits
    rw [hdungeon]
    refine ⟨getElem?_modifyDungeon hdungeon, ?_, hattacks⟩
    simp only
    split
    · rename_i hempty
      rw [ExtTreeMap.getElem?_erase_self]
      exact (ExtTreeMap.isEmpty_iff.mp hempty).symm
    · rw [ExtTreeMap.getElem?_insert_self]
      rfl

theorem Held.beginAttack {attacking : Attacking} {queuedAttack : AuthenticatedPlayerAttack}
    (h : Held dungeonId attacking.dungeon attacking.hits attacks server) :
    Held dungeonId (attack skillCatalog attacking queuedAttack).dungeon
      (attack skillCatalog attacking queuedAttack).hits attacks
      (DungeonCombatProcessor.beginAttack skillCatalog dungeonId queuedAttack server) := by
  obtain ⟨hdungeon, hhits, hattacks⟩ := h
  simp only [DungeonCombatProcessor.beginAttack, DungeonManager.findDungeon, hdungeon, Option.bind_some,
    attack]
  cases attacking.dungeon.findPlayer queuedAttack.sessionId with
  | none => exact ⟨hdungeon, hhits, hattacks⟩
  | some player =>
    cases skillCatalog.getSkill queuedAttack.attack.skillId with
    | none => exact ⟨hdungeon, hhits, hattacks⟩
    | some skill =>
      simp only
      obtain ⟨result, player'⟩ := player.beginSkill skill.id skill.manaCost skill.cooldownTicks
        skill.startupTicks skill.activeTicks skill.recoveryTicks
      cases result with
      | success =>
        refine ⟨getElem?_modifyDungeon hdungeon, ?_, hattacks⟩
        simp [hhits]
      | _ => exact ⟨hdungeon, hhits, hattacks⟩

section

variable (arithmetic : Arithmetic) (skillCatalog : SkillCatalog) (enemyCatalog : EnemyCatalog)
  (target : DungeonId) (order : List SessionId)

/-- The second state follows the first by a step of the processors. -/
def Follows (server server' : Server) : Prop :=
  server' = DungeonTickService.processStep arithmetic skillCatalog enemyCatalog target order server

end

variable (arithmetic skillCatalog enemyCatalog target order)

theorem Held.advance {sessions : List SessionId} :
    ∀ {dungeon : DungeonInstance} {server : Server}, Held dungeonId dungeon hits attacks server →
      server.processing = .advanceCombat dungeonId sessions →
      ∃ server', ReflTransGen (Follows arithmetic skillCatalog enemyCatalog target order) server server' ∧
        server'.processing = .advanceCombat dungeonId [] ∧
        Held dungeonId (sessions.foldl
          (fun dungeon sessionId => modifyPlayer sessionId (·.advanceCombatTick) dungeon) dungeon)
          hits attacks server' := by
  induction sessions with
  | nil => exact fun h hprocessing => ⟨_, .refl, hprocessing, h⟩
  | cons s sessions ih =>
    intro dungeon server h hprocessing
    let server' := DungeonTickService.processStep arithmetic skillCatalog enemyCatalog target order server
    have hstep : server' = { server with
        managers := { server.managers with
          dungeons := server.managers.dungeons.modifyDungeon dungeonId
            (modifyPlayer s (·.advanceCombatTick)) }
        processing := .advanceCombat dungeonId sessions } := by
      simp only [server', DungeonTickService.processStep, hprocessing]
    have hheld : Held dungeonId (modifyPlayer s (·.advanceCombatTick) dungeon) hits attacks server' := by
      rw [hstep]
      exact ⟨getElem?_modifyDungeon h.dungeon, h.hits, h.attacks⟩
    obtain ⟨last, hsteps, hlast, hheld⟩ := ih hheld (by rw [hstep])
    exact ⟨last, .head rfl hsteps, hlast, hheld⟩

theorem Held.attack {attacks : List AuthenticatedPlayerAttack} :
    ∀ {attacking : Attacking} {server : Server},
      Held dungeonId attacking.dungeon attacking.hits attacks server →
      server.processing = .popAttacks dungeonId →
      ∃ server', ReflTransGen (Follows arithmetic skillCatalog enemyCatalog target order) server server' ∧
        server'.processing = .popAttacks dungeonId ∧
        Held dungeonId (attacks.foldl (DungeonCombatProcessor.attack skillCatalog) attacking).dungeon
          (attacks.foldl (DungeonCombatProcessor.attack skillCatalog) attacking).hits [] server' := by
  induction attacks with
  | nil => exact fun h hprocessing => ⟨_, .refl, hprocessing, h⟩
  | cons queuedAttack attacks ih =>
    intro attacking server h hprocessing
    obtain ⟨session, hsession, hqueue⟩ := Option.map_eq_some_iff.mp h.attacks
    let popped := DungeonTickService.processStep arithmetic skillCatalog enemyCatalog target order server
    let server' := DungeonTickService.processStep arithmetic skillCatalog enemyCatalog target order popped
    have hpopped : popped = { server with
        managers := { server.managers with udp := { server.managers.udp with
          sessions := server.managers.udp.sessions.insert dungeonId
            { session with pendingAttacks := attacks } } }
        processing := .beginAttack dungeonId queuedAttack } := by
      simp [popped, DungeonTickService.processStep, hprocessing, DungeonUdpManager.tryPopAttack,
        DungeonUdpManager.onSession, hsession, DungeonUdpSession.tryPopAttack, hqueue]
    have hheld : Held dungeonId attacking.dungeon attacking.hits attacks popped := by
      rw [hpopped]
      exact ⟨h.dungeon, h.hits, by simp⟩
    have hbegun : server' = { DungeonCombatProcessor.beginAttack skillCatalog dungeonId queuedAttack popped
        with processing := .popAttacks dungeonId } := by
      have hat : popped.processing = .beginAttack dungeonId queuedAttack := by rw [hpopped]
      simp only [server', DungeonTickService.processStep, hat]
    have hheld' : Held dungeonId
        (DungeonCombatProcessor.attack skillCatalog attacking queuedAttack).dungeon
        (DungeonCombatProcessor.attack skillCatalog attacking queuedAttack).hits attacks server' := by
      rw [hbegun]
      exact { hheld.beginAttack with }
    obtain ⟨last, hsteps, hlast, hheld⟩ := ih hheld' (by rw [hbegun])
    exact ⟨last, .head rfl (.head rfl hsteps), hlast, hheld⟩

/-- When nothing comes between them, the steps of the tick on a dungeon do what one call does. -/
theorem Held.process (h : Held dungeonId dungeon hits attacks server)
    (hstate : dungeon.state = .running)
    (hprocessing : server.processing = .advanceCombat dungeonId dungeon.participants) :
    ∃ server', ReflTransGen (Follows arithmetic skillCatalog enemyCatalog target order) server server' ∧
      server'.processing = .idle ∧
      Held dungeonId (DungeonCombatProcessor.process arithmetic skillCatalog attacks hits dungeon).2.2
        (DungeonCombatProcessor.process arithmetic skillCatalog attacks hits dungeon).2.1 [] server' := by
  obtain ⟨advanced, hadvancing, hadvanced, hheld⟩ :=
    h.advance arithmetic skillCatalog enemyCatalog target order hprocessing
  let resolved :=
    DungeonTickService.processStep arithmetic skillCatalog enemyCatalog target order advanced
  have hresolved : resolved = { DungeonCombatProcessor.resolvePendingHits arithmetic dungeonId advanced
      with processing := .popAttacks dungeonId } := by
    simp only [resolved, DungeonTickService.processStep, hadvanced]
  have hfirst : Held dungeonId (pass arithmetic hits (DungeonCombatProcessor.advance dungeon)).2
      (pass arithmetic hits (DungeonCombatProcessor.advance dungeon)).1 attacks resolved := by
    rw [hresolved]
    exact { hheld.resolvePendingHits with }
  let start : Attacking :=
    { hits := (pass arithmetic hits (DungeonCombatProcessor.advance dungeon)).1
      dungeon := (pass arithmetic hits (DungeonCombatProcessor.advance dungeon)).2 }
  have hstart : Held dungeonId start.dungeon start.hits attacks resolved := hfirst
  obtain ⟨begun, hbeginning, hbegun, hheld⟩ :=
    hstart.attack arithmetic skillCatalog enemyCatalog target order (by rw [hresolved])
  let last := DungeonTickService.processStep arithmetic skillCatalog enemyCatalog target order begun
  obtain ⟨session, hsession, hqueue⟩ := Option.map_eq_some_iff.mp hheld.attacks
  have hlast : last = { DungeonCombatProcessor.resolvePendingHits arithmetic dungeonId { begun with
        managers := { begun.managers with udp := { begun.managers.udp with
          sessions := begun.managers.udp.sessions.insert dungeonId session } } }
      with processing := .idle } := by
    simp [last, DungeonTickService.processStep, hbegun, DungeonUdpManager.tryPopAttack,
      DungeonUdpManager.onSession, hsession, DungeonUdpSession.tryPopAttack, hqueue]
  have hpopped : Held dungeonId
      (beginAttacks arithmetic skillCatalog attacks hits dungeon).dungeon
      (beginAttacks arithmetic skillCatalog attacks hits dungeon).hits [] { begun with
        managers := { begun.managers with udp := { begun.managers.udp with
          sessions := begun.managers.udp.sessions.insert dungeonId session } } } :=
    ⟨hheld.dungeon, hheld.hits, by simp [hqueue]⟩
  refine ⟨last, hadvancing.trans (.head rfl (hbeginning.trans (.single rfl))), by rw [hlast], ?_⟩
  rw [hlast]
  simp only [DungeonCombatProcessor.process, hstate, ne_eq, not_true_eq_false, if_false]
  exact { hpopped.resolvePendingHits with }

end

end Combat

end DnfServer
