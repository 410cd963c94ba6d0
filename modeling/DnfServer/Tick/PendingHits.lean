import DnfServer.Tick.Records

/-!
# Pending hits

The combat processor keeps the hits of skills in startup for the next tick, and tidies them in `Process`
alone, which the tick calls for the dungeons that it has found running. A dungeon that leaves this state
after its `Process`, or before it in another way than through the list, leaves its hits behind. Where no
step does that, what is pending after a tick belongs to running dungeons and their participants.
-/

namespace DnfServer.Tick

open Std DnfServer.Library DnfServer.Participants DnfServer.Manager DnfServer.Dungeons DnfServer.Udp
set_option autoImplicit false

/-- Where the tick is with the pending hits of a dungeon. -/
inductive HitStage where
  /-- The running dungeons are not read yet. -/
  | unread
  /-- The dungeon is on the list, and its hits will be resolved or dropped. -/
  | ahead
  /-- The combat processor is at the dungeon. -/
  | fighting
  | behind
  deriving DecidableEq

def isFighting : Processing → Bool
  | .advanceCombat .. | .popAttacks _ | .beginAttack .. => true
  | _ => false

def TickPlace.hitStage (place : TickPlace) (processing : Processing) (d : DungeonId) : HitStage :=
  match place with
  | .running rest | .waves _ rest | .readPlayers _ rest | .checkRooms _ rest _ | .finish _ rest
  | .checkState _ rest => if d ∈ rest then .ahead else .behind
  | .processing e rest =>
    if d ∈ rest then .ahead else if d ≠ e then .behind
    else if isFighting processing then .fighting else .ahead
  | .readFinished | .finished _ | .finishDungeon _ _ | .released _ _ => .behind
  | _ => .unread

namespace Service

def hitStage (w : Service) (d : DungeonId) : HitStage :=
  w.place.hitStage w.processing d

/-- The request takes the session out of the dungeon, to put another in its place. -/
def takesOut (w : Service) (step : ThreadStep) (d : DungeonId) (s : SessionId) : Bool :=
  (w.threads.next step).any fun threads =>
    (w.manager.findDungeon d).any (·.hasParticipant s) &&
      (threads.history.manager.findDungeon d).any (!·.hasParticipant s)

end Service

/-- The call of the tick leaves no pending hit behind. -/
def SparesTick (config : TickConfig) (w : Service) (reading : TickReading) : TickPlace → Prop
  | .idle => 0 < config.reconnectGrace → 0 < config.maxDungeonLifetime →
      ∀ entry ∈ w.pendingHits.toList, (w.manager.findDungeon entry.1).all (DungeonManager.keptBySweep
        reading.now config.reconnectGrace config.maxDungeonLifetime) = true
  | .finish d _ => d ∉ w.pendingHits
  | _ => True

/-- The step leaves no pending hit behind. -/
def Spares (config : TickConfig) (w : Service) : ServiceStep → Prop
  | .tick reading => SparesTick config w reading w.place
  | .request step => ∀ entry ∈ w.pendingHits.toList, w.hitStage entry.1 = .behind →
      ∀ s ∈ entry.2.keys, w.takesOut step entry.1 s = false
  | .stopManager => isFighting w.processing = false ∧
      ∀ entry ∈ w.pendingHits.toList, w.hitStage entry.1 = .ahead
  | _ => True

instance SparesTick.decidable (config : TickConfig) (w : Service) (reading : TickReading) :
    (place : TickPlace) → Decidable (SparesTick config w reading place)
  | .idle => inferInstanceAs (Decidable (0 < config.reconnectGrace → 0 < config.maxDungeonLifetime →
      ∀ entry ∈ w.pendingHits.toList, (w.manager.findDungeon entry.1).all (DungeonManager.keptBySweep
        reading.now config.reconnectGrace config.maxDungeonLifetime) = true))
  | .finish d _ => inferInstanceAs (Decidable (d ∉ w.pendingHits))
  | .sweeping _ | .readWaiting | .waiting .. | .checkDisconnected .. | .checkAuthenticated .. | .start ..
  | .refresh .. | .cancel .. | .cancelled .. | .readRunning | .running _ | .processing .. | .waves ..
  | .readPlayers .. | .checkRooms .. | .checkState .. | .readFinished | .finished _ | .finishDungeon ..
  | .released .. => isTrue trivial

instance Spares.decidable (config : TickConfig) (w : Service) :
    (step : ServiceStep) → Decidable (Spares config w step)
  | .tick reading => SparesTick.decidable config w reading w.place
  | .request step => inferInstanceAs (Decidable (∀ entry ∈ w.pendingHits.toList,
      w.hitStage entry.1 = .behind → ∀ s ∈ entry.2.keys, w.takesOut step entry.1 s = false))
  | .stopManager => inferInstanceAs (Decidable (isFighting w.processing = false ∧
      ∀ entry ∈ w.pendingHits.toList, w.hitStage entry.1 = .ahead))
  | .createDungeon .. | .receive .. | .addContent .. | .stopTick | .stopUdp => isTrue trivial

/-- The pending hits are of running dungeons and of their participants. -/
def Clean (w : Service) : Prop :=
  ∀ (d : DungeonId) (hits : IdMap PendingSkillHit), w.pendingHits[d]? = some hits →
    ∃ dungeon, w.manager.dungeons[d]? = some dungeon ∧ dungeon.state = .running ∧
      (∀ s ∈ hits, s ∈ dungeon.participants) ∧ hits.size ≤ dungeon.participants.length

/-! ## One resolution -/

section

variable {arithmetic : Arithmetic} {skillCatalog : SkillCatalog} {enemyCatalog : EnemyCatalog}

/-- What stays pending has been pending, and its session is a player where it was looked up. -/
theorem mem_resolveHits (entries : List (SessionId × PendingSkillHit)) (hits : IdMap PendingSkillHit)
    (dungeon : DungeonInstance) {s : SessionId}
    (h : s ∈ (DungeonCombatProcessor.resolveHits arithmetic entries (hits, dungeon)).1) :
    s ∈ hits ∧ (s ∈ entries.map (·.1) → s ∈ dungeon.players) := by
  induction entries generalizing hits dungeon with
  | nil => exact ⟨h, fun hnil => by cases hnil⟩
  | cons entry rest ih =>
    obtain ⟨t, hit⟩ := entry
    have herased (dungeon' : DungeonInstance) (hplayers : dungeon'.players = dungeon.players)
        (h : s ∈ (DungeonCombatProcessor.resolveHits arithmetic rest (hits.erase t, dungeon')).1) :
        s ∈ hits ∧ (s ∈ ((t, hit) :: rest).map (·.1) → s ∈ dungeon.players) := by
      obtain ⟨hmem, hlater⟩ := ih _ _ h
      rw [ExtTreeMap.mem_erase] at hmem
      refine ⟨hmem.2, fun hlisted => ?_⟩
      rcases List.mem_cons.mp hlisted with hsame | hrest
      · exact absurd (Nat.compare_eq_eq.mpr hsame.symm) hmem.1
      · exact hplayers ▸ hlater hrest
    rw [DungeonCombatProcessor.resolveHits] at h
    split at h
    · exact herased dungeon rfl h
    · rename_i player hplayer
      split at h
      · exact herased dungeon rfl h
      · split at h
        · obtain ⟨hmem, hlater⟩ := ih _ _ h
          refine ⟨hmem, fun hlisted => ?_⟩
          rcases List.mem_cons.mp hlisted with hsame | hrest
          · rw [show s = t from hsame]
            exact mem_of_entry hplayer
          · exact hlater hrest
        · refine herased _ ?_ h
          split <;> rfl

/-- After a resolution the hits of the dungeon are of players, when it is live. -/
theorem resolved_hits {d : DungeonId} {server : Server}
    (hlive : d ∈ server.pendingHits → d ∈ server.managers.dungeons.dungeons)
    {hits : IdMap PendingSkillHit}
    (h : (DungeonCombatProcessor.resolvePendingHits arithmetic d server).pendingHits[d]? = some hits) :
    ∃ dungeon, (DungeonCombatProcessor.resolvePendingHits arithmetic d
        server).managers.dungeons.dungeons[d]? = some dungeon ∧ ∀ s ∈ hits, s ∈ dungeon.players := by
  unfold DungeonCombatProcessor.resolvePendingHits at h ⊢
  split
  · rename_i before dungeon hbefore hd
    simp only [hbefore, hd] at h
    refine ⟨_, mem_modifyDungeon hd _, ?_⟩
    split at h
    · rw [ExtTreeMap.getElem?_erase_self] at h
      cases h
    · rw [ExtTreeMap.getElem?_insert_self] at h
      obtain rfl := Option.some.inj h
      intro s hs
      obtain ⟨hmem, hplayer⟩ := mem_resolveHits _ _ _ hs
      have hsame := (resolveHits_simulated arithmetic before.toList before dungeon).mem_players s
      rw [hsame]
      refine hplayer ?_
      rw [ExtTreeMap.map_fst_toList_eq_keys]
      exact ExtTreeMap.mem_keys.mpr hmem
  · rename_i hnone
    split at h
    · rename_i before dungeon hbefore hd
      exact absurd hd (hnone _ _ hbefore)
    · obtain ⟨dungeon, hd⟩ := exists_of_mem (hlive (mem_of_entry h))
      exact absurd hd (hnone _ _ h)

theorem resolved_others {d e : DungeonId} {server : Server} (hne : e ≠ d) :
    (DungeonCombatProcessor.resolvePendingHits arithmetic d server).pendingHits[e]? =
      server.pendingHits[e]? := by
  unfold DungeonCombatProcessor.resolvePendingHits
  split
  · simp only
    split
    · rw [ExtTreeMap.getElem?_erase, if_neg (by simpa using hne.symm)]
    · rw [ExtTreeMap.getElem?_insert, if_neg (by simpa using hne.symm)]
  · rfl

theorem begun_others {d e : DungeonId} {queued : AuthenticatedPlayerAttack} {server : Server}
    (hne : e ≠ d) :
    (DungeonCombatProcessor.beginAttack skillCatalog d queued server).pendingHits[e]? =
      server.pendingHits[e]? := by
  unfold DungeonCombatProcessor.beginAttack
  split
  · split
    · rw [ExtTreeMap.getElem?_insert, if_neg (by simpa using hne.symm)]
    · rfl
  · rfl

/-! ## The processors -/

/-- While the combat processor is at a dungeon with pending hits, the dungeon is live. -/
def FightsLive (d : DungeonId) (server : Server) : Prop :=
  isFighting server.processing = true → d ∈ server.pendingHits →
    d ∈ server.managers.dungeons.dungeons

theorem PlayedAt.mem {d e : DungeonId} {m m' : DungeonManager}
    (h : PlayedAt enemyCatalog skillCatalog d m m') (he : e ∈ m.dungeons) : e ∈ m'.dungeons := by
  rcases h with rfl | ⟨dungeon, dungeon', touched, -, -, -, rfl⟩
  · exact he
  · exact ExtTreeMap.mem_insert.mpr (.inr he)

theorem fightsLive_resolve {d : DungeonId} {server : Server} {processing : Processing}
    (h : d ∈ server.pendingHits → d ∈ server.managers.dungeons.dungeons) :
    FightsLive d { DungeonCombatProcessor.resolvePendingHits arithmetic d server with processing } := by
  intro _ hpending
  have hbefore : d ∈ server.pendingHits := by
    change d ∈ (DungeonCombatProcessor.resolvePendingHits arithmetic d server).pendingHits at hpending
    unfold DungeonCombatProcessor.resolvePendingHits at hpending
    split at hpending
    · rename_i hits dungeon hhits hd
      exact mem_of_entry hhits
    · exact hpending
  have hplayed : PlayedAt {} {} d server.managers.dungeons
      (DungeonCombatProcessor.resolvePendingHits arithmetic d server).managers.dungeons :=
    playedAt_resolvePendingHits arithmetic d server
  exact hplayed.mem (h hbefore)

theorem fightsLive_begin {d : DungeonId} {queued : AuthenticatedPlayerAttack} {server : Server}
    {processing : Processing} (h : d ∈ server.pendingHits → d ∈ server.managers.dungeons.dungeons) :
    FightsLive d
      { DungeonCombatProcessor.beginAttack skillCatalog d queued server with processing } := by
  intro _ hpending
  have hplayed : PlayedAt {} skillCatalog d server.managers.dungeons
      (DungeonCombatProcessor.beginAttack skillCatalog d queued server).managers.dungeons :=
    playedAt_beginAttack d queued server
  refine hplayed.mem ?_
  change d ∈ (DungeonCombatProcessor.beginAttack skillCatalog d queued server).pendingHits at hpending
  unfold DungeonCombatProcessor.beginAttack at hpending
  split at hpending
  · rename_i player skill hplayer hskill
    obtain ⟨dungeon, hd, -⟩ := Option.bind_eq_some_iff.mp hplayer
    exact mem_of_entry hd
  · exact h hpending

/-- The hits of a dungeon are resolved or dropped before the processors are done with it. -/
theorem processStep_hits {d : DungeonId} (server : Server)
    (htarget : server.processing = .idle ∨ target server.processing = some d)
    (order : List SessionId) (hlive : FightsLive d server) :
    let server' := DungeonTickService.processStep arithmetic skillCatalog enemyCatalog d order server
    FightsLive d server' ∧ (server'.processing = .idle → ∀ hits : IdMap PendingSkillHit,
      server'.pendingHits[d]? = some hits → ∃ dungeon,
        server'.managers.dungeons.dungeons[d]? = some dungeon ∧ ∀ s ∈ hits, s ∈ dungeon.players) := by
  intro server'
  have hat : ∀ {e : DungeonId}, target server.processing = some e → e = d := by
    intro e he
    rcases htarget with hidle | hsame
    · rw [hidle] at he
      cases he
    · exact Option.some.inj (he.symm.trans hsame)
  have herased {m : IdMap (IdMap PendingSkillHit)} {hits : IdMap PendingSkillHit} {P : Prop}
      (h : (m.erase d)[d]? = some hits) : P := by
    rw [ExtTreeMap.getElem?_erase_self] at h
    cases h
  simp only [server', DungeonTickService.processStep]
  split
  · split
    · exact ⟨(fun h => by cases h), (fun h => by cases h)⟩
    · rename_i hidle _
      refine ⟨fun h => ?_, fun _ hits h => herased h⟩
      change isFighting server.processing = true at h
      rw [hidle] at h
      cases h
  · split
    · exact ⟨(fun h => by cases h), (fun h => by cases h)⟩
    · exact ⟨(fun h => by cases h), (fun h => by cases h)⟩
  · exact ⟨(fun h => by cases h), (fun h => by cases h)⟩
  · rename_i e hp
    obtain rfl := hat (e := e) (by rw [hp]; rfl)
    split
    · rename_i dungeon hd
      split
      · exact ⟨fun _ _ => mem_of_entry hd, (fun h => by cases h)⟩
      · exact ⟨(fun h => by cases h), fun _ hits h => herased h⟩
    · exact ⟨(fun h => by cases h), fun _ hits h => herased h⟩
  · rename_i e s rest hp
    obtain rfl := hat (e := e) (by rw [hp]; rfl)
    rw [FightsLive, hp] at hlive
    refine ⟨fun _ hpending => ?_, (fun h => by cases h)⟩
    have hplayed : PlayedAt {} {} e server.managers.dungeons (server.managers.dungeons.modifyDungeon e
        (DungeonCombatProcessor.modifyPlayer s (·.advanceCombatTick))) :=
      playedAt_modify (· = s) fun dungeon _ => ⟨steps_of_advanceCombatTick _ _,
        modifyPlayer_simulated _ _ fun player _ => advanceCombatTick_sessionId player⟩
    exact hplayed.mem (hlive rfl hpending)
  · rename_i e hp
    obtain rfl := hat (e := e) (by rw [hp]; rfl)
    rw [FightsLive, hp] at hlive
    exact ⟨fightsLive_resolve (hlive rfl), (fun h => by cases h)⟩
  · rename_i e hp
    obtain rfl := hat (e := e) (by rw [hp]; rfl)
    rw [FightsLive, hp] at hlive
    split
    · exact ⟨fun _ => hlive rfl, (fun h => by cases h)⟩
    · exact ⟨(fun h => by cases h), fun _ hits h => resolved_hits (by exact hlive rfl) h⟩
  · rename_i e queued hp
    obtain rfl := hat (e := e) (by rw [hp]; rfl)
    rw [FightsLive, hp] at hlive
    exact ⟨fightsLive_begin (hlive rfl), (fun h => by cases h)⟩

theorem processStep_others {d e : DungeonId} (server : Server)
    (htarget : server.processing = .idle ∨ target server.processing = some d)
    (order : List SessionId) (hne : e ≠ d) :
    (DungeonTickService.processStep arithmetic skillCatalog enemyCatalog d order
      server).pendingHits[e]? = server.pendingHits[e]? := by
  have hat : ∀ {x : DungeonId}, target server.processing = some x → e ≠ x := by
    intro x hx
    rcases htarget with hidle | hsame
    · rw [hidle] at hx
      cases hx
    · obtain rfl := Option.some.inj (hx.symm.trans hsame)
      exact hne
  have herase {x : DungeonId} {m : IdMap (IdMap PendingSkillHit)} (hx : e ≠ x) :
      (m.erase x)[e]? = m[e]? := by
    rw [ExtTreeMap.getElem?_erase, if_neg (by simpa using hx.symm)]
  simp only [DungeonTickService.processStep]
  split
  · split
    · rfl
    · exact herase hne
  · split <;> rfl
  · rfl
  · rename_i x hp
    have hx := hat (x := x) (by rw [hp]; rfl)
    split
    · split
      · rfl
      · exact herase hx
    · exact herase hx
  · rfl
  · rename_i x hp
    exact resolved_others (hat (by rw [hp]; rfl))
  · rename_i x hp
    split
    · rfl
    · exact resolved_others (hat (by rw [hp]; rfl))
  · rename_i x queued hp
    exact begun_others (hat (by rw [hp]; rfl))

end

/-! ## What is kept during a tick -/

/-- The dungeon is live and running. -/
def Alive (w : Service) (d : DungeonId) : Prop :=
  ∃ dungeon, w.manager.dungeons[d]? = some dungeon ∧ dungeon.state = .running

/-- The pending hits of a dungeon: until its `Process` is over some of them may be out of date. -/
structure HitsOk (w : Service) (d : DungeonId) (hits : IdMap PendingSkillHit) : Prop where
  alive : w.hitStage d ≠ .ahead → Alive w d
  settled : w.hitStage d = .behind → ∀ dungeon, w.manager.dungeons[d]? = some dungeon →
    ∀ s ∈ hits, s ∈ dungeon.players

def Tracked (w : Service) : Prop :=
  ∀ (d : DungeonId) (hits : IdMap PendingSkillHit), w.pendingHits[d]? = some hits → HitsOk w d hits

/-- Where the tick goes with a dungeon while the processors rest. -/
inductive StageGoes (alive : Prop) : HitStage → HitStage → Prop where
  | stay (stage : HitStage) : StageGoes alive stage stage
  | listed (h : alive) : StageGoes alive .unread .ahead
  | unlisted (h : ¬ alive) : StageGoes alive .unread .behind
  | ended : StageGoes alive .behind .unread

theorem StageGoes.ne_ahead {alive : Prop} {stage stage' : HitStage} (h : StageGoes alive stage stage')
    (hstage : stage' ≠ .ahead) : stage ≠ .ahead := by
  cases h with
  | stay => exact hstage
  | listed | unlisted | ended => simp

theorem StageGoes.from_behind {alive : Prop} {stage stage' : HitStage}
    (h : StageGoes alive stage stage') (halive : stage = .unread → alive) (hstage : stage' = .behind) :
    stage = .behind := by
  cases h with
  | stay => exact hstage
  | listed | ended => cases hstage
  | unlisted hnot => exact absurd (halive rfl) hnot

section

variable {arithmetic : Arithmetic} {skillCatalog : SkillCatalog} {config : TickConfig} {parse : Parse}
  {w w' : Service} {d : DungeonId} {step : ServiceStep}

/-- The calls of the tick other than those of the processors. -/
theorem stage_of_tick (hg : Good config w) {reading : TickReading}
    (hn : w.tick arithmetic skillCatalog config reading = some w')
    (hidle : ∀ e rest, w.place ≠ .processing e rest) :
    w'.pendingHits = w.pendingHits ∧ StageGoes (Alive w d) (w.hitStage d) (w'.hitStage d) := by
  have hprocessing : w.processing = .idle := by
    rcases hg.processing with h | ⟨e, rest, he, -⟩
    · exact h
    · exact absurd he (hidle e rest)
  have hdrained {after : Service} (hn : w.drain after = some w')
      (hhits : after.pendingHits = w.pendingHits) (hstage : after.hitStage d = w.hitStage d) :
      w'.pendingHits = w.pendingHits ∧
        StageGoes (Alive w d) (w.hitStage d) (w'.hitStage d) := by
    rcases drain_cases hn with rfl | ⟨-, -, he⟩
    · exact ⟨hhits, hstage ▸ .stay _⟩
    · rw [he]
      exact ⟨rfl, .stay _⟩
  unfold Service.hitStage
  cases hplace : w.place with
  | processing e rest => exact absurd hplace (hidle e rest)
  | idle =>
    simp only [Service.tick, hplace, Option.map_eq_some_iff] at hn
    obtain ⟨w₁, hthread, rfl⟩ := hn
    rw [(thread_spec hthread).2]
    exact ⟨rfl, .stay _⟩
  | start ids e rest =>
    simp only [Service.tick, hplace, Option.map_eq_some_iff] at hn
    obtain ⟨w₁, hthread, rfl⟩ := hn
    rw [(thread_spec hthread).2]
    split <;> exact ⟨rfl, .stay _⟩
  | cancel ids e rest =>
    simp only [Service.tick, hplace] at hn
    rw [(thread_spec hn).2]
    exact ⟨rfl, .stay _⟩
  | finishDungeon e rest =>
    simp only [Service.tick, hplace] at hn
    rw [(thread_spec hn).2]
    exact ⟨rfl, .stay _⟩
  | sweeping | cancelled | released =>
    simp only [Service.tick, hplace] at hn
    have hdone := hdrained hn rfl (by simp only [Service.hitStage, hplace, TickPlace.hitStage])
    simpa only [Service.hitStage, hplace] using hdone
  | readWaiting | readFinished =>
    simp only [Service.tick, hplace] at hn
    rw [(readIds_spec hn).2]
    exact ⟨rfl, .stay _⟩
  | readRunning =>
    simp only [Service.tick, hplace] at hn
    obtain ⟨hperm, rfl⟩ := readIds_spec hn
    refine ⟨rfl, ?_⟩
    simp only [TickPlace.hitStage]
    split
    · rename_i hmem
      exact .listed ((mem_of_ids hperm).mp hmem)
    · rename_i hmem
      exact .unlisted fun h => hmem ((mem_of_ids hperm).mpr h)
  | running rest =>
    cases rest with
    | nil =>
      simp only [Service.tick, hplace] at hn
      obtain rfl := Option.some.inj hn
      exact ⟨rfl, .stay _⟩
    | cons e rest =>
      simp only [Service.tick, hplace] at hn
      obtain rfl := Option.some.inj hn
      refine ⟨rfl, ?_⟩
      have hsame : (TickPlace.running (e :: rest)).hitStage w.processing d =
          (TickPlace.processing e rest).hitStage w.processing d := by
        simp only [TickPlace.hitStage, hprocessing]
        by_cases hrest : d ∈ rest
        · simp [hrest]
        · by_cases he : d = e <;> simp [hrest, he, isFighting]
      rw [hsame]
      exact .stay _
  | finished rest =>
    cases rest with
    | nil =>
      simp only [Service.tick, hplace] at hn
      obtain rfl := Option.some.inj hn
      exact ⟨rfl, .ended⟩
    | cons e rest =>
      simp only [Service.tick, hplace] at hn
      repeat' split at hn
      all_goals
        obtain rfl := Option.some.inj hn
        exact ⟨rfl, .stay _⟩
  | waiting ids rest =>
    cases rest <;> simp only [Service.tick, hplace] at hn
    all_goals
      obtain rfl := Option.some.inj hn
      exact ⟨rfl, .stay _⟩
  | checkRooms e rest rooms =>
    cases rooms <;> simp only [Service.tick, hplace] at hn
    all_goals
      repeat' split at hn
      all_goals
        obtain rfl := Option.some.inj hn
        exact ⟨rfl, .stay _⟩
  | readPlayers e rest =>
    simp only [Service.tick, hplace] at hn
    repeat' split at hn
    all_goals
      cases hn
      try exact ⟨rfl, .stay _⟩
  | checkDisconnected | checkAuthenticated | refresh =>
    simp only [Service.tick, hplace] at hn
    repeat' split at hn
    all_goals
      obtain rfl := Option.some.inj hn
      exact ⟨rfl, .stay _⟩
  | waves | finish | checkState =>
    simp only [Service.tick, hplace] at hn
    repeat' split at hn
    all_goals
      obtain rfl := Option.some.inj hn
      exact ⟨rfl, .stay _⟩

/-! ## A dungeon with pending hits goes on -/

theorem PlaySteps.mem_players {enemyCatalog : EnemyCatalog} {dungeon dungeon' : DungeonInstance}
    (h : PlaySteps enemyCatalog skillCatalog dungeon dungeon') {s : SessionId}
    (hs : s ∈ dungeon.players) : s ∈ dungeon'.players := by
  induction h with
  | refl => exact hs
  | tail _ hstep ih =>
    cases hstep with
    | wave | blow => exact ih
    | change | moveTo | enterRoom => exact ExtTreeMap.mem_insert.mpr (.inr ih)

/-- A live dungeon that is live after a step has stayed. -/
theorem Moves.stays (hg : Good config w) (hm : Moves skillCatalog config w w' step)
    {dungeon dungeon' : DungeonInstance} (hd : w.manager.dungeons[d]? = some dungeon)
    (hd' : w'.manager.dungeons[d]? = some dungeon') : Stays skillCatalog w d dungeon dungeon' step := by
  rcases stays_of_effect hg hm.effect hd' with ⟨hnew, -⟩ | ⟨old, hold, hstays⟩
  · have hlive := mem_of_entry hd
    exact absurd (hg.indexed.index.live d hlive) hnew
  · obtain rfl := Option.some.inj (hd.symm.trans hold)
    exact hstays

/-- The sweep does not take out a dungeon with pending hits. -/
theorem kept_of_spares {reading : TickReading}
    (hn : w.tick arithmetic skillCatalog config reading = some w') (hplace : w.place = .idle)
    (hspares : Spares config w (.tick reading)) (hpending : d ∈ w.pendingHits)
    (hlive : d ∈ w.manager.dungeons) : d ∈ w'.manager.dungeons := by
  obtain ⟨hits, hhits⟩ := exists_of_mem hpending
  obtain ⟨dungeon, hd⟩ := exists_of_mem hlive
  simp only [Service.tick, hplace, Option.map_eq_some_iff] at hn
  obtain ⟨w₁, hthread, rfl⟩ := hn
  have hcall := (thread_history hthread rfl).1
  have hmanager : w₁.manager = (w.manager.sweepAbandonedParticipants reading.now
      config.reconnectGrace config.maxDungeonLifetime).2 :=
    congrArg Manager.History.manager (Option.some.inj hcall).symm
  change d ∈ w₁.manager.dungeons
  rw [hmanager]
  by_cases hpos : 0 < config.reconnectGrace ∧ 0 < config.maxDungeonLifetime
  · simp only [Spares, SparesTick, hplace] at hspares
    have hmem : (d, hits) ∈ w.pendingHits.toList := ExtTreeMap.mem_toList_iff_getElem?_eq_some.mpr hhits
    have hkept := hspares hpos.1 hpos.2 (d, hits) hmem
    have hfound : w.manager.findDungeon d = some dungeon := hd
    rw [hfound, Option.all_some] at hkept
    have hswept := (sweep_effect hpos.1 hpos.2 reading.now w.manager).dungeons d
    rw [hd, Option.bind_some] at hswept
    refine ExtTreeMap.mem_iff_isSome_getElem?.mpr ?_
    rw [hswept, Option.isSome_iff_ne_none, Ne, swept_eq_none, not_not]
    exact hkept
  · rw [sweep_idle hpos]
    exact hlive

theorem goesOn_of_tick (hg : Good config w) {reading : TickReading}
    (hn : w.tick arithmetic skillCatalog config reading = some w')
    (hspares : Spares config w (.tick reading)) (hpending : d ∈ w.pendingHits)
    {dungeon : DungeonInstance} (hd : w.manager.dungeons[d]? = some dungeon)
    (hstate : dungeon.state = .running) :
    ∃ dungeon', w'.manager.dungeons[d]? = some dungeon' ∧ dungeon'.state = .running ∧
      (w.place ≠ .idle → ∀ s ∈ dungeon.players, s ∈ dungeon'.players) := by
  have hm := moves_tick hg hn
  have hfinish : ∀ rest, w.place ≠ .finish d rest := by
    intro rest hplace
    simp only [Spares, SparesTick, hplace] at hspares
    exact hspares hpending
  cases hd' : w'.manager.dungeons[d]? with
  | none =>
    cases removal_of_effect hm.effect hd hd' with
    | readyTimeout _ hother | broadcastOver _ hother =>
      rw [hstate] at hother
      cases hother
    | swept hplace hover =>
      obtain ⟨dungeon', hkept⟩ :=
        exists_of_mem (kept_of_spares hn hplace hspares hpending (mem_of_entry hd))
      rw [hd'] at hkept
      cases hkept
  | some dungeon' =>
    have hstays := hm.stays hg hd hd'
    refine ⟨dungeon', rfl, hstays.running hfinish hstate, fun hidle s hs => ?_⟩
    cases hstays with
    | same => exact hs
    | swept hplace => exact absurd hplace hidle
    | started hother =>
      rw [hstate] at hother
      cases hother
    | played _ hplay => exact PlaySteps.mem_players hplay hs
    | finished hplace => exact absurd hplace (hfinish _)

/-- Other threads leave the pending hits alone. -/
theorem hits_of_next (hn : w.next arithmetic skillCatalog config parse step = some w')
    (hstep : ∀ reading, step ≠ .tick reading) : w'.pendingHits = w.pendingHits := by
  cases step with
  | tick reading => exact absurd rfl (hstep reading)
  | createDungeon s parties partyId templateId now => rw [(thread_spec hn).2]
  | request step =>
    simp only [Service.next] at hn
    split at hn
    · rw [(thread_spec hn).2]
    · cases hn
  | receive serverTick d datagram | addContent op | stopUdp =>
    obtain rfl := Option.some.inj hn
    rfl
  | stopTick =>
    simp only [Service.next] at hn
    split at hn
    · obtain rfl := Option.some.inj hn
      rfl
    · cases hn
  | stopManager =>
    simp only [Service.next, Option.map_eq_some_iff] at hn
    obtain ⟨threads, -, rfl⟩ := hn
    rfl

theorem goesOn_of_other (hg : Good config w)
    (hn : w.next arithmetic skillCatalog config parse step = some w')
    (hstep : ∀ reading, step ≠ .tick reading) (hspares : Spares config w step)
    {hits : IdMap PendingSkillHit} (hhits : w.pendingHits[d]? = some hits)
    (hstage : w.hitStage d ≠ .ahead) {dungeon : DungeonInstance}
    (hd : w.manager.dungeons[d]? = some dungeon) (hstate : dungeon.state = .running) :
    ∃ dungeon', w'.manager.dungeons[d]? = some dungeon' ∧ dungeon'.state = .running ∧
      (w.hitStage d = .behind → ∀ s ∈ hits, s ∈ dungeon.players → s ∈ dungeon'.players) := by
  have hm := moves_of_next hg hn
  have hmem : (d, hits) ∈ w.pendingHits.toList := ExtTreeMap.mem_toList_iff_getElem?_eq_some.mpr hhits
  cases hd' : w'.manager.dungeons[d]? with
  | none =>
    cases removal_of_effect hm.effect hd hd' with
    | readyTimeout | swept | broadcastOver => exact absurd rfl (hstep _)
    | allocationFailed _ hother =>
      rw [hstate] at hother
      cases hother
    | stopped => exact absurd (hspares.2 (d, hits) hmem) hstage
  | some dungeon' =>
    have hstays := hm.stays hg hd hd'
    refine ⟨dungeon', rfl, (hstays.remains hstep).state.trans hstate, fun hbehind s hs hplayer => ?_⟩
    cases hstays with
    | same => exact hplayer
    | swept | started | played | finished => exact absurd rfl (hstep _)
    | rejoined hremains =>
      rename_i call
      have hkept := hspares (d, hits) hmem hbehind s (ExtTreeMap.mem_keys.mpr hs)
      simp only [Service.next] at hn
      split at hn
      · have hnext := (thread_spec hn).1
        have hfound : w.manager.findDungeon d = some dungeon := hd
        have hfound' : w'.threads.history.manager.findDungeon d = some dungeon' := hd'
        have hhas : dungeon.hasParticipant s = true := ExtTreeMap.contains_iff_mem.mpr hplayer
        simp only [Service.takesOut, hnext, Option.any_some, hfound, hfound', hhas, Bool.true_and,
          Bool.not_eq_false'] at hkept
        exact ExtTreeMap.contains_iff_mem.mp hkept
      · cases hn

/-! ## Runs -/

theorem process_hits (arithmetic : Arithmetic) (skillCatalog : SkillCatalog) {rest : List DungeonId}
    (h : ProcessingOk w) (hplace : w.place = .processing d rest) (order : List SessionId)
    (hlive : isFighting w.processing = true → d ∈ w.pendingHits → d ∈ w.manager.dungeons) :
    let w' := w.process arithmetic skillCatalog d rest order
    (isFighting w'.processing = true → d ∈ w'.pendingHits → d ∈ w'.manager.dungeons) ∧
      (w'.processing = .idle → ∀ hits : IdMap PendingSkillHit, w'.pendingHits[d]? = some hits →
        ∃ dungeon, w'.manager.dungeons[d]? = some dungeon ∧ ∀ s ∈ hits, s ∈ dungeon.players) :=
  processStep_hits ⟨⟨w.manager, w.threads.udp⟩, w.processing, w.pendingHits⟩
    (processing_target h hplace) order hlive

/-- The processors at the dungeon of the loop. -/
theorem tracked_process (hg : Good config w) (hg' : Good config w') (ht : Tracked w)
    {reading : TickReading} {e : DungeonId} {rest : List DungeonId} (hplace : w.place = .processing e rest)
    (hn : w.tick arithmetic skillCatalog config reading = some w')
    (hspares : Spares config w (.tick reading)) : Tracked w' := by
  have hok := hg.place
  rw [PlaceOk, hplace] at hok
  have hnodup := List.nodup_cons.mp hok.1
  have hprocess := hn
  simp only [Service.tick, hplace] at hprocess
  have hafter := process_place hg.processing hplace hprocess
  obtain rfl := Option.some.inj hprocess
  have hok' := hg'.place
  intro d hits hhits'
  by_cases he : d = e
  · subst he
    have hlive (hfighting : isFighting w.processing = true) (hpending : d ∈ w.pendingHits) :
        d ∈ w.manager.dungeons := by
      obtain ⟨old, hold⟩ := exists_of_mem hpending
      have hnot : w.hitStage d ≠ .ahead := by
        simp [Service.hitStage, hplace, TickPlace.hitStage, hnodup.1, hfighting]
      obtain ⟨dungeon, hd, -⟩ := (ht d old hold).alive hnot
      exact mem_of_entry hd
    obtain ⟨hfights, hdone⟩ :=
      process_hits arithmetic skillCatalog hg.processing hplace reading.sessions hlive
    rcases hafter with ⟨hwaves, hidle⟩ | ⟨hat, -⟩
    · obtain ⟨dungeon, hd, hplayers⟩ := hdone hidle hits hhits'
      rw [PlaceOk, hwaves] at hok'
      refine ⟨fun _ => ⟨dungeon, hd, (hok'.2 d List.mem_cons_self).2 dungeon hd⟩, ?_⟩
      intro _ other hother
      obtain rfl := Option.some.inj (hd.symm.trans hother)
      exact hplayers
    · rw [PlaceOk, hat] at hok'
      have hstage : (w.process arithmetic skillCatalog d rest reading.sessions).hitStage d =
          if isFighting (w.process arithmetic skillCatalog d rest reading.sessions).processing
          then .fighting else .ahead := by
        simp [Service.hitStage, hat, TickPlace.hitStage, hnodup.1]
      refine ⟨fun hahead => ?_, fun hbehind => ?_⟩
      · rw [hstage] at hahead
        split at hahead
        · rename_i hfighting
          obtain ⟨dungeon, hd⟩ := exists_of_mem (hfights hfighting (mem_of_entry hhits'))
          exact ⟨dungeon, hd, (hok'.2 d List.mem_cons_self).2 dungeon hd⟩
        · exact absurd rfl hahead
      · rw [hstage] at hbehind
        split at hbehind <;> cases hbehind
  · have hhits : w.pendingHits[d]? = some hits :=
      (processStep_others _ (processing_target hg.processing hplace) reading.sessions he).symm.trans hhits'
    have hstage : (w.process arithmetic skillCatalog e rest reading.sessions).hitStage d =
        w.hitStage d := by
      rcases hafter with ⟨hat, -⟩ | ⟨hat, -⟩
      · simp [Service.hitStage, hat, hplace, TickPlace.hitStage, he]
      · simp [Service.hitStage, hat, hplace, TickPlace.hitStage, he]
    have hold := ht d hits hhits
    refine ⟨fun hahead => ?_, fun hbehind dungeon' hd' s hs => ?_⟩
    · rw [hstage] at hahead
      obtain ⟨dungeon, hd, hstate⟩ := hold.alive hahead
      obtain ⟨dungeon', hd', hstate', -⟩ :=
        goesOn_of_tick hg hn hspares (mem_of_entry hhits) hd hstate
      exact ⟨dungeon', hd', hstate'⟩
    · rw [hstage] at hbehind
      obtain ⟨dungeon, hd, hstate⟩ := hold.alive (by rw [hbehind]; simp)
      obtain ⟨other, hother, -, hplayers⟩ :=
        goesOn_of_tick hg hn hspares (mem_of_entry hhits) hd hstate
      obtain rfl := Option.some.inj (hd'.symm.trans hother)
      exact hplayers (by simp [hplace]) s (hold.settled hbehind dungeon hd s hs)

theorem tracked_next (hg : Good config w) (ht : Tracked w)
    (hspares : Spares config w step)
    (hn : w.next arithmetic skillCatalog config parse step = some w') : Tracked w' := by
  by_cases hstep : ∃ reading, step = .tick reading
  · obtain ⟨reading, rfl⟩ := hstep
    by_cases hplace : ∃ e rest, w.place = .processing e rest
    · obtain ⟨e, rest, hplace⟩ := hplace
      exact tracked_process hg (good_next hg hn) ht hplace hn hspares
    intro d hits hhits'
    obtain ⟨hsame, hgoes⟩ := stage_of_tick (d := d) hg hn fun e rest he => hplace ⟨e, rest, he⟩
    have hhits : w.pendingHits[d]? = some hits := hsame ▸ hhits'
    have hold := ht d hits hhits
    have halive (h : w.hitStage d ≠ .ahead) : ∃ dungeon dungeon',
        w.manager.dungeons[d]? = some dungeon ∧ w'.manager.dungeons[d]? = some dungeon' ∧
          dungeon'.state = .running ∧
            (w.place ≠ .idle → ∀ s ∈ dungeon.players, s ∈ dungeon'.players) := by
      obtain ⟨dungeon, hd, hstate⟩ := hold.alive h
      obtain ⟨dungeon', hd', hstate', hplayers⟩ :=
        goesOn_of_tick hg hn hspares (mem_of_entry hhits) hd hstate
      exact ⟨dungeon, dungeon', hd, hd', hstate', hplayers⟩
    refine ⟨fun hstage => ?_, fun hbehind dungeon' hd' s hs => ?_⟩
    · obtain ⟨-, dungeon', -, hd', hstate', -⟩ := halive (hgoes.ne_ahead hstage)
      exact ⟨dungeon', hd', hstate'⟩
    · have hbefore : w.hitStage d = .behind :=
        hgoes.from_behind (fun hunread => hold.alive (by rw [hunread]; simp)) hbehind
      obtain ⟨dungeon, other, hd, hother, -, hplayers⟩ := halive (by rw [hbefore]; simp)
      obtain rfl := Option.some.inj (hd'.symm.trans hother)
      refine hplayers ?_ s (hold.settled hbefore dungeon hd s hs)
      intro hidle
      simp [Service.hitStage, hidle, TickPlace.hitStage] at hbefore
  · have hother : ∀ reading, step ≠ .tick reading := fun reading he => hstep ⟨reading, he⟩
    obtain ⟨hplace, hprocessing, -⟩ := frame_of_next hn hother
    have hstage (d : DungeonId) : w'.hitStage d = w.hitStage d := by
      rw [Service.hitStage, Service.hitStage, hplace, hprocessing]
    intro d hits hhits'
    have hhits : w.pendingHits[d]? = some hits := hits_of_next hn hother ▸ hhits'
    have hold := ht d hits hhits
    refine ⟨fun hahead => ?_, fun hbehind dungeon' hd' s hs => ?_⟩
    · rw [hstage] at hahead
      obtain ⟨dungeon, hd, hstate⟩ := hold.alive hahead
      obtain ⟨dungeon', hd', hstate', -⟩ := goesOn_of_other hg hn hother hspares hhits hahead hd hstate
      exact ⟨dungeon', hd', hstate'⟩
    · rw [hstage] at hbehind
      have hahead : w.hitStage d ≠ .ahead := by rw [hbehind]; simp
      obtain ⟨dungeon, hd, hstate⟩ := hold.alive hahead
      obtain ⟨other, hother', -, hplayers⟩ :=
        goesOn_of_other hg hn hother hspares hhits hahead hd hstate
      obtain rfl := Option.some.inj (hd'.symm.trans hother')
      exact hplayers hbehind s hs (hold.settled hbehind dungeon hd s hs)

theorem tracked_start : Tracked {} := fun d hits h => by simp at h

theorem tracked_of_run {steps : List ServiceStep}
    (hm : Meets (Service.next arithmetic skillCatalog config parse) (Spares config) {} steps)
    (hr : run (Service.next arithmetic skillCatalog config parse) {} steps = some w) :
    Good config w ∧ Tracked w := by
  refine run_invariant (fun w => Good config w ∧ Tracked w) ?_ ⟨good_start, tracked_start⟩ hm hr
  rintro w step w' ⟨hg, ht⟩ hspares hn
  exact ⟨good_next hg hn, tracked_next hg ht hspares hn⟩

theorem size_le_of_listed {hits : IdMap PendingSkillHit} {sessions : List SessionId}
    (h : ∀ s ∈ hits, s ∈ sessions) : hits.size ≤ sessions.length := by
  have hnodup : hits.keys.Nodup := by
    have hkeys := nodup_map_fst_toList hits
    rwa [ExtTreeMap.map_fst_toList_eq_keys] at hkeys
  have hsub : hits.keys ⊆ sessions := fun s hs => h s (ExtTreeMap.mem_keys.mp hs)
  rw [← ExtTreeMap.length_keys]
  exact (List.subperm_of_subset hnodup hsub).length_le

/-- Where every step spares the dungeons with pending hits, a tick leaves none behind. -/
theorem clean_of_run {steps : List ServiceStep} {reading : TickReading}
    (hm : Meets (Service.next arithmetic skillCatalog config parse) (Spares config) {} steps)
    (hr : run (Service.next arithmetic skillCatalog config parse) {} steps = some w)
    (hplace : w.place = .finished [])
    (hn : w.next arithmetic skillCatalog config parse (.tick reading) = some w') : Clean w' := by
  obtain ⟨hg, ht⟩ := tracked_of_run hm hr
  simp only [Service.next, Service.tick, hplace] at hn
  obtain rfl := Option.some.inj hn
  intro d hits hhits
  have hbehind : w.hitStage d = .behind := by simp [Service.hitStage, hplace, TickPlace.hitStage]
  have hok := ht d hits hhits
  obtain ⟨dungeon, hd, hstate⟩ := hok.alive (by rw [hbehind]; simp)
  have hlisted : ∀ s ∈ hits, s ∈ dungeon.participants := fun s hs =>
    ((hg.indexed.index.consistent d dungeon hd).listed s).mpr (hok.settled hbehind dungeon hd s hs)
  exact ⟨dungeon, hd, hstate, hlisted, size_le_of_listed hlisted⟩

end

/-! ## A skill in startup when its dungeon is cleared -/

/-- The datagram `[0]` is the hello of the one participant, and every other one its attack. -/
def duelParse : Parse := fun bytes =>
  some { protocolVersion := dungeonProtocolVersion, dungeonId := 1
         payload := if bytes = [0] then .udpHello 100 7 else .playerAttack 1 5 ⟨0x3F800000⟩ ⟨0⟩ }

/-- One skill, with three ticks of startup. -/
def duelSkills : SkillCatalog where
  skills := ({} : ExtTreeMap UInt32 SkillTemplate).insert 5 { id := 5, startupTicks := 3, activeTicks := 1 }

def duelNext : Service → ServiceStep → Option Service :=
  Service.next hallArithmetic duelSkills hallConfig duelParse

/-- A party of one enters a dungeon without enemies and uses the skill. Then comes the rest of the tick,
from the waves on. -/
def duelSteps (rooms : List RoomTemplate) (last : List TickReading) : List ServiceStep :=
  let datagram (byte : UInt8) : DungeonUdpSession.Datagram :=
    { sender := ⟨1, 2⟩, now := 0, order := [100], bytes := [byte] }
  let start : List TickReading :=
    [{ now := 1 }, {}, { dungeons := [1] }, {}, {}, {}, {}, {}, {}, { dungeons := [1] }, {}]
  let play : List TickReading := [{ sessions := [100] }, {}, {}, {}, {}, {}, {}, {}]
  [.addContent (.addDungeon 1 "Hall" rooms 1 4),
    .createDungeon 100 (PartyManager.createParty 100 {}).2 1 1 0, .request (.readParticipants 100),
    .request (.allocate 100 (some 40000) [7]), .request (.findToken 100), .receive 0 1 (datagram 0),
    .receive 0 1 (datagram 1)] ++ (start ++ play ++ last).map .tick

/-- One of two rooms is not reached, and the skill is in startup after the tick. -/
theorem clean_of_run_duel :
    let rooms : List RoomTemplate := [{ id := 1, width := 10, depth := 10, playerSpawn := {} },
      { id := 2, width := 10, depth := 10, playerSpawn := {} }]
    ∃ w w', run duelNext {} (duelSteps rooms [{}, {}, {}, {}, {}]) = some w ∧
      duelNext w (.tick {}) = some w' ∧ 1 ∈ w'.pendingHits ∧ Clean w' := by
  intro rooms
  have hm : Meets duelNext (Spares hallConfig) {} (duelSteps rooms [{}, {}, {}, {}, {}]) := by
    decide +kernel
  have hrun : (run duelNext {} (duelSteps rooms [{}, {}, {}, {}, {}])).map (·.place) =
      some (.finished []) := by decide +kernel
  obtain ⟨w, hr, hplace⟩ := Option.map_eq_some_iff.mp hrun
  have hpending : (run duelNext {} (duelSteps rooms [{}, {}, {}, {}, {}] ++ [.tick {}])).any fun w' =>
      1 ∈ w'.pendingHits := by decide +kernel
  obtain ⟨w', hr', hmem⟩ := (Option.any_eq_true _ _).mp hpending
  obtain ⟨v, hv, hlast⟩ := run_append.mp hr'
  obtain rfl := Option.some.inj (hr.symm.trans hv)
  obtain ⟨last, hn, hnil⟩ := run_cons.mp hlast
  obtain rfl := Option.some.inj hnil
  exact ⟨w, last, hr, hn, of_decide_eq_true hmem, clean_of_run hm hr hplace hn⟩

/-- The only room is cleared in the tick in which the skill is in startup. -/
theorem not_clean_of_run_duel :
    ¬ ∀ (steps : List ServiceStep) (reading : TickReading) (w w' : Service),
      run duelNext {} steps = some w → w.place = .finished [] →
        duelNext w (.tick reading) = some w' → Clean w' := by
  intro hclean
  let rooms : List RoomTemplate := [{ id := 1, width := 10, depth := 10, playerSpawn := {} }]
  let steps := duelSteps rooms [{}, { rooms := [1] }, {}, {}, {}, {}, {}, { dungeons := [1] }, {}]
  have hrun : (run duelNext {} steps).map (·.place) = some (.finished []) := by decide +kernel
  obtain ⟨w, hr, hplace⟩ := Option.map_eq_some_iff.mp hrun
  have hleft : (run duelNext {} (steps ++ [.tick {}])).any fun w' => 1 ∈ w'.pendingHits ∧
      (w'.manager.dungeons[1]?).map (·.state) = some .finished := by decide +kernel
  obtain ⟨w', hr', hfound⟩ := (Option.any_eq_true _ _).mp hleft
  obtain ⟨v, hv, hlast⟩ := run_append.mp hr'
  obtain rfl := Option.some.inj (hr.symm.trans hv)
  obtain ⟨last, hn, hnil⟩ := run_cons.mp hlast
  obtain rfl := Option.some.inj hnil
  obtain ⟨hpending, hstate⟩ := of_decide_eq_true hfound
  obtain ⟨hits, hhits⟩ := exists_of_mem hpending
  obtain ⟨dungeon, hd, hrunning, -⟩ := hclean steps {} w last hr hplace hn 1 hits hhits
  rw [hd, Option.map_some, hrunning] at hstate
  cases hstate

end DnfServer.Tick
