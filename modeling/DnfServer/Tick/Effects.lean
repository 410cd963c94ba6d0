import DnfServer.Manager.Descent
import DnfServer.Participants.Simulation
import DnfServer.Tick.Service

/-!
# What one call does to the dungeons

Each step of the service leaves the dungeons alone, moves participants between sessions, adds a
dungeon, starts, plays or finishes one, or takes some out (`Effect`). Which of these it is depends
on the place of the tick, by what is known there of the dungeons of the loop (`PlaceOk`).
-/

namespace DnfServer.Tick

open Std DnfServer.Library DnfServer.Participants DnfServer.Manager DnfServer.Dungeons DnfServer.Udp
set_option autoImplicit false

/-! ## The invariant -/

/-- The id was handed out, and the dungeon has the property as long as it is live. -/
def Holds (P : DungeonInstance → Prop) (h : Manager.History) (d : DungeonId) : Prop :=
  d ∈ h.issued ∧ ∀ dungeon, h.manager.dungeons[d]? = some dungeon → P dungeon

/-- Every one of the dungeons has the property, and none is listed twice. -/
def Batch (P : DungeonInstance → Prop) (h : Manager.History) (ids : List DungeonId) : Prop :=
  ids.Nodup ∧ ∀ d ∈ ids, Holds P h d

abbrev Running (dungeon : DungeonInstance) : Prop := dungeon.state = .running

abbrev Finished (dungeon : DungeonInstance) : Prop := dungeon.state = .finished

/-- The players have gathered and every room is cleared but for some that are still to be checked. -/
def Clearing (rooms : List RoomId) (dungeon : DungeonInstance) : Prop :=
  Service.playersGathered dungeon = true ∧
    ∀ (id : RoomId) (room : RoomState), dungeon.rooms[id]? = some room → id ∉ rooms →
      room.isCleared = true

/-- What the tick knows at the place that it has reached. -/
def PlaceOk (config : TickConfig) (w : Service) : Prop :=
  match w.place with
  | .cancel _ d _ => ∃ since, w.waitingSince[d]? = some since ∧ config.readyTimeout ≤ w.now - since
  | .running rest | .checkState _ rest => Batch Running w.threads.history rest
  | .processing d rest | .waves d rest | .readPlayers d rest =>
    Batch Running w.threads.history (d :: rest)
  | .checkRooms d rest rooms => Batch Running w.threads.history (d :: rest) ∧
      Holds (Clearing rooms) w.threads.history d
  | .finish d rest => Batch Running w.threads.history (d :: rest) ∧
      Holds (Clearing []) w.threads.history d
  | .finished rest | .released _ rest => Batch Finished w.threads.history rest
  | .finishDungeon d rest => Batch Finished w.threads.history (d :: rest) ∧
      ∃ since, w.finishedSince[d]? = some since ∧ finishedBroadcastDuration ≤ w.now - since
  | _ => True

/-- The dungeon that the processors are at. -/
def target : Processing → Option DungeonId
  | .idle => none
  | .popMovements d _ | .applyMovements d _ | .advanceCombat d _ | .popAttacks d
  | .beginAttack d _ => some d

/-- The processors are at no dungeon or at that of the loop. -/
def ProcessingOk (w : Service) : Prop :=
  w.processing = .idle ∨ ∃ d rest, w.place = .processing d rest ∧ target w.processing = some d

/-- Every dungeon can be played with the enemies of the catalog. -/
def AllRunnable (enemies : EnemyCatalog) (m : DungeonManager) : Prop :=
  ∀ (d : DungeonId) (dungeon : DungeonInstance), m.dungeons[d]? = some dungeon →
    Runnable enemies dungeon.dungeonTemplate dungeon

/-- Every player is in the last room of the template. -/
def Gathered (dungeon : DungeonInstance) : Prop :=
  ∃ finalRoom, dungeon.dungeonTemplate.rooms.getLast? = some finalRoom ∧
    ∀ (s : SessionId) (player : DungeonPlayerState), dungeon.players[s]? = some player →
      player.roomId = finalRoom.id

/-- The players of a finished dungeon are in its last room. -/
def AllGathered (m : DungeonManager) : Prop :=
  ∀ (d : DungeonId) (dungeon : DungeonInstance), m.dungeons[d]? = some dungeon →
    dungeon.state = .finished → Gathered dungeon

structure Good (config : TickConfig) (w : Service) : Prop where
  indexed : Indexed w.threads.history
  content : w.content.Sound
  runnable : AllRunnable w.content.enemies w.manager
  gathered : AllGathered w.manager
  place : PlaceOk config w
  processing : ProcessingOk w

/-! ## The processors -/

section

variable {arithmetic : Arithmetic} {skillCatalog : SkillCatalog} {enemyCatalog : EnemyCatalog}

/-- One dungeon has been played on. -/
def PlayedAt (enemyCatalog : EnemyCatalog) (skillCatalog : SkillCatalog) (d : DungeonId)
    (m m' : DungeonManager) : Prop :=
  m' = m ∨ ∃ (dungeon dungeon' : DungeonInstance) (touched : SessionId → Prop),
    m.dungeons[d]? = some dungeon ∧ PlaySteps enemyCatalog skillCatalog dungeon dungeon' ∧
    Simulated touched dungeon dungeon' ∧ m' = { m with dungeons := m.dungeons.insert d dungeon' }

theorem playedAt_modify {d : DungeonId} {m : DungeonManager}
    {change : DungeonInstance → DungeonInstance} (touched : SessionId → Prop)
    (hc : ∀ dungeon, m.dungeons[d]? = some dungeon →
      PlaySteps enemyCatalog skillCatalog dungeon (change dungeon) ∧
        Simulated touched dungeon (change dungeon)) :
    PlayedAt enemyCatalog skillCatalog d m (m.modifyDungeon d change) := by
  unfold DungeonManager.modifyDungeon
  split
  · exact .inl rfl
  · rename_i dungeon hd
    obtain ⟨hplay, hsim⟩ := hc dungeon hd
    exact .inr ⟨dungeon, change dungeon, touched, hd, hplay, hsim, rfl⟩

theorem playedAt_resolvePendingHits (arithmetic : Arithmetic) (d : DungeonId) (server : Server) :
    PlayedAt enemyCatalog skillCatalog d server.managers.dungeons
      (DungeonCombatProcessor.resolvePendingHits arithmetic d server).managers.dungeons := by
  unfold DungeonCombatProcessor.resolvePendingHits
  split
  · rename_i hits dungeon hhits hd
    refine playedAt_modify (fun _ => False) ?_
    intro other hother
    obtain rfl : other = dungeon := Option.some.inj (hother.symm.trans hd)
    exact ⟨steps_of_resolveHits _ _ _ _, resolveHits_simulated _ _ _ _⟩
  · exact .inl rfl

theorem playedAt_beginAttack (d : DungeonId) (queued : AuthenticatedPlayerAttack) (server : Server) :
    PlayedAt enemyCatalog skillCatalog d server.managers.dungeons
      (DungeonCombatProcessor.beginAttack skillCatalog d queued server).managers.dungeons := by
  unfold DungeonCombatProcessor.beginAttack
  split
  · rename_i player skill hp hskill
    split
    · rename_i player' he
      refine playedAt_modify (· = queued.sessionId) ?_
      intro dungeon hd
      have hfound : dungeon.players[queued.sessionId]? = some player := by
        simpa [DungeonManager.findDungeon, hd, DungeonInstance.findPlayer] using hp
      have hplace := beginSkill_samePlace skill.id skill.manaCost skill.cooldownTicks
        skill.startupTicks skill.activeTicks skill.recoveryTicks player
      rw [he] at hplace
      have hcooldowns : ∀ x ∈ player'.cooldowns, x ∈ player.cooldowns ∨ x ∈ skillIds skillCatalog := by
        intro x hx
        refine beginSkill_catalog hskill ?_
        rw [he]
        exact hx
      refine ⟨?_, modifyPlayer_simulated _ _ ?_⟩
      · simp only [DungeonCombatProcessor.modifyPlayer, DungeonInstance.findPlayer, hfound]
        exact .single (.change hfound hplace hcooldowns)
      · intro other hother
        rw [beginSkill_sessionId he]
        exact congrArg _ (Option.some.inj (hfound.symm.trans hother))
    · exact .inl rfl
  · exact .inl rfl

/-- A step of the processors plays the dungeon they are at, and stays at it until it is done. -/
theorem playedAt_processStep {d : DungeonId} (server : Server)
    (htarget : server.processing = .idle ∨ target server.processing = some d)
    (order : List SessionId) :
    let server' := DungeonTickService.processStep arithmetic skillCatalog enemyCatalog d order server
    (server'.processing = .idle ∨ target server'.processing = some d) ∧
      PlayedAt enemyCatalog skillCatalog d server.managers.dungeons server'.managers.dungeons := by
  intro server'
  have hat : ∀ {e : DungeonId}, target server.processing = some e → e = d := by
    intro e he
    rcases htarget with hidle | hsame
    · rw [hidle] at he
      cases he
    · exact Option.some.inj (he.symm.trans hsame)
  simp only [server', DungeonTickService.processStep]
  split
  · split
    · exact ⟨.inr rfl, .inl rfl⟩
    · rename_i hidle _
      exact ⟨.inl hidle, .inl rfl⟩
  · rename_i e latest hp
    obtain rfl := hat (e := e) (by rw [hp]; rfl)
    split
    · exact ⟨.inr rfl, .inl rfl⟩
    · exact ⟨.inr rfl, .inl rfl⟩
  · rename_i e s movement rest hp
    obtain rfl := hat (e := e) (by rw [hp]; rfl)
    refine ⟨.inr rfl, playedAt_modify (· = s) fun dungeon _ => ?_⟩
    exact ⟨steps_of_applyMovement _ _ _ _, applyMovement_simulated _ _ _ _ _⟩
  · rename_i e hp
    obtain rfl := hat (e := e) (by rw [hp]; rfl)
    split
    · split
      · exact ⟨.inr rfl, .inl rfl⟩
      · exact ⟨.inl rfl, .inl rfl⟩
    · exact ⟨.inl rfl, .inl rfl⟩
  · rename_i e s rest hp
    obtain rfl := hat (e := e) (by rw [hp]; rfl)
    refine ⟨.inr rfl, playedAt_modify (· = s) fun dungeon _ => ?_⟩
    exact ⟨steps_of_advanceCombatTick _ _,
      modifyPlayer_simulated _ _ fun player _ => advanceCombatTick_sessionId player⟩
  · rename_i e hp
    obtain rfl := hat (e := e) (by rw [hp]; rfl)
    exact ⟨.inr rfl, playedAt_resolvePendingHits arithmetic e server⟩
  · rename_i e hp
    obtain rfl := hat (e := e) (by rw [hp]; rfl)
    split
    · exact ⟨.inr rfl, .inl rfl⟩
    · exact ⟨.inl rfl, playedAt_resolvePendingHits arithmetic e _⟩
  · rename_i e queued hp
    obtain rfl := hat (e := e) (by rw [hp]; rfl)
    exact ⟨.inr rfl, playedAt_beginAttack e queued server⟩

theorem PlaySteps.frame {dungeon dungeon' : DungeonInstance}
    (h : PlaySteps enemyCatalog skillCatalog dungeon dungeon') :
    dungeon'.state = dungeon.state ∧ dungeon'.dungeonTemplate = dungeon.dungeonTemplate := by
  induction h with
  | refl => exact ⟨rfl, rfl⟩
  | tail _ hstep ih => cases hstep <;> exact ih

end

/-- One dungeon goes on and keeps its participants. -/
theorem indexed_simulated {h : Manager.History} (hi : Indexed h) {d : DungeonId}
    {dungeon dungeon' : DungeonInstance} {touched : SessionId → Prop}
    (hd : h.manager.dungeons[d]? = some dungeon) (hsim : Simulated touched dungeon dungeon') :
    Indexed { h with
      manager := { h.manager with dungeons := h.manager.dungeons.insert d dungeon' } } := by
  have hindex : DungeonIndex { h.manager with dungeons := h.manager.dungeons.insert d dungeon' }
      h.issued :=
    hi.index.update hd (hsim.consistent (hi.index.consistent d dungeon hd)) hsim.dungeonId
      hsim.partyId rfl rfl rfl rfl
  refine { hi with index := hindex, marked := ?_ }
  intro e other hother s hs
  by_cases hde : d = e
  · subst hde
    obtain rfl : dungeon' = other := by simpa using hother
    exact hi.marked d dungeon hd s (hsim.disconnectedSince ▸ hs)
  · exact hi.marked e other (by grind) s hs

/-! ## The effects -/

/-- Why a dungeon is taken out of the manager. -/
inductive Removal (config : TickConfig) (w : Service) (d : DungeonId) (dungeon : DungeonInstance) :
    ServiceStep → Prop where
  /-- It has been waiting for longer than the ready timeout. -/
  | readyTimeout {reading : TickReading} {ids rest : List DungeonId} {since : Int}
      (hplace : w.place = .cancel ids d rest) (hstate : dungeon.state = .waiting)
      (hsince : w.waitingSince[d]? = some since) (htime : config.readyTimeout ≤ w.now - since) :
      Removal config w d dungeon (.tick reading)
  /-- Its lifetime is over, or the sweep leaves no participant. -/
  | swept {reading : TickReading} (hplace : w.place = .idle)
      (hover : DungeonManager.lifetimeExpired reading.now config.maxDungeonLifetime dungeon = true ∨
        (dungeon.removeExpiredDisconnectedParticipants reading.now
          config.reconnectGrace).2.participants = []) :
      Removal config w d dungeon (.tick reading)
  /-- It was broadcast as finished for a second. -/
  | broadcastOver {reading : TickReading} {rest : List DungeonId} {since : Int}
      (hplace : w.place = .finishDungeon d rest) (hstate : dungeon.state = .finished)
      (hsince : w.finishedSince[d]? = some since)
      (htime : finishedBroadcastDuration ≤ w.now - since) : Removal config w d dungeon (.tick reading)
  /-- The request that created it has got no UDP session for it. -/
  | allocationFailed {s : SessionId} (htask : w.threads.tasks[s]? = some (.cancelling d))
      (hstate : dungeon.state = .waiting) :
      Removal config w d dungeon (.request (.cancelDungeon s))
  | stopped : Removal config w d dungeon .stopManager

/-- What a step does to the dungeons of the manager. -/
inductive Effect (skillCatalog : SkillCatalog) (config : TickConfig) (w : Service)
    (m' : DungeonManager) : ServiceStep → Prop where
  | same {step : ServiceStep} (hm : m'.dungeons = w.manager.dungeons) :
      Effect skillCatalog config w m' step
  | rejoined {step : ThreadStep} (hm : Pointwise Remains w.manager m') :
      Effect skillCatalog config w m' (.request step)
  | created {step : ServiceStep} {d : DungeonId} {dungeon : DungeonInstance}
      (hnew : d ∉ w.threads.history.issued) (hstate : dungeon.state = .waiting)
      (hrunnable : Runnable w.content.enemies dungeon.dungeonTemplate dungeon)
      (hm : m'.dungeons = w.manager.dungeons.insert d dungeon) : Effect skillCatalog config w m' step
  | started {reading : TickReading} {d : DungeonId} {dungeon : DungeonInstance}
      (hd : w.manager.dungeons[d]? = some dungeon) (hstate : dungeon.state = .waiting)
      (hm : m'.dungeons = w.manager.dungeons.insert d (dungeon.start w.content.enemies).2) :
      Effect skillCatalog config w m' (.tick reading)
  | played {reading : TickReading} {d : DungeonId} {dungeon dungeon' : DungeonInstance}
      (hd : w.manager.dungeons[d]? = some dungeon) (hstate : dungeon.state = .running)
      (hplay : PlaySteps w.content.enemies skillCatalog dungeon dungeon')
      (hm : m'.dungeons = w.manager.dungeons.insert d dungeon') :
      Effect skillCatalog config w m' (.tick reading)
  | finished {reading : TickReading} {d : DungeonId} {rest : List DungeonId}
      {dungeon : DungeonInstance} (hplace : w.place = .finish d rest)
      (hd : w.manager.dungeons[d]? = some dungeon) (hstate : dungeon.state = .running)
      (hm : m'.dungeons = w.manager.dungeons.insert d { dungeon with state := .finished }) :
      Effect skillCatalog config w m' (.tick reading)
  | removed {step : ServiceStep} {d : DungeonId} {dungeon : DungeonInstance}
      (hd : w.manager.dungeons[d]? = some dungeon) (hwhy : Removal config w d dungeon step)
      (hm : m'.dungeons = w.manager.dungeons.erase d) : Effect skillCatalog config w m' step
  | swept {reading : TickReading} (hplace : w.place = .idle) (hgrace : 0 < config.reconnectGrace)
      (hm : ∀ d : DungeonId, m'.dungeons[d]? = (w.manager.dungeons[d]?).bind
        (Manager.swept reading.now config.reconnectGrace config.maxDungeonLifetime)) :
      Effect skillCatalog config w m' (.tick reading)
  | stopped (hm : ∀ d : DungeonId, m'.dungeons[d]? = none) :
      Effect skillCatalog config w m' .stopManager

section

variable {arithmetic : Arithmetic} {skillCatalog : SkillCatalog} {config : TickConfig} {parse : Parse}
  {w w' : Service}

theorem thread_spec {step : ThreadStep} {place : TickPlace} (hn : w.thread step place = some w') :
    w.threads.next step = some w'.threads ∧ w' = { w with threads := w'.threads, place } := by
  simp only [Service.thread, Option.map_eq_some_iff] at hn
  obtain ⟨threads, hthreads, rfl⟩ := hn
  exact ⟨hthreads, rfl⟩

/-- The rest of an operation in the UDP manager makes no call of the dungeon manager. -/
theorem drain_cases {after : Service} (hn : w.drain after = some w') :
    w' = after ∨ (∃ step, w.threads.next step = some w'.threads) ∧
      w'.threads.history = w.threads.history ∧ w' = { w with threads := w'.threads } := by
  have hthread {step : ThreadStep} (hcall : w.threads.call step = none)
      (hn : w.thread step w.place = some w') :
      (∃ step, w.threads.next step = some w'.threads) ∧
        w'.threads.history = w.threads.history ∧ w' = { w with threads := w'.threads } := by
    obtain ⟨hnext, hw⟩ := thread_spec hn
    exact ⟨⟨step, hnext⟩, (Threads.history_of_next hnext).2 hcall, hw⟩
  unfold Service.drain at hn
  split at hn
  · exact .inr (hthread rfl hn)
  split at hn
  · exact .inr (hthread rfl hn)
  · exact .inl (Option.some.inj hn).symm

theorem readIds_spec {state : DungeonState} {ids : List DungeonId} {place : TickPlace}
    (hn : w.readIds state ids place = some w') :
    ids.Perm (w.manager.dungeonIdsIn state) ∧ w' = { w with place } := by
  unfold Service.readIds at hn
  split at hn
  · rename_i hperm
    exact ⟨hperm, (Option.some.inj hn).symm⟩
  · cases hn

/-- A step keeps the indices of the manager, forgets no id, and has one of the effects. -/
structure Moves (skillCatalog : SkillCatalog) (config : TickConfig) (w w' : Service)
    (step : ServiceStep) : Prop where
  indexed : Indexed w'.threads.history
  issued : ∀ d ∈ w.threads.history.issued, d ∈ w'.threads.history.issued
  effect : Effect skillCatalog config w w'.manager step

theorem Moves.same (hg : Good config w) {step : ServiceStep}
    (hh : w'.threads.history = w.threads.history) : Moves skillCatalog config w w' step :=
  ⟨hh ▸ hg.indexed, fun _ hd => hh ▸ hd, .same (congrArg (·.manager.dungeons) hh)⟩

theorem Moves.call (hg : Good config w) {step : ServiceStep} {call : Call}
    (hn : w.threads.history.next call = some w'.threads.history)
    (he : Effect skillCatalog config w w'.manager step) : Moves skillCatalog config w w' step :=
  ⟨hg.indexed.next hn, fun _ => issued_mono hn, he⟩

/-- With the dungeon of the loop running, playing it on is an effect. -/
theorem Moves.played (hg : Good config w) {reading : TickReading} {d : DungeonId}
    {m' : DungeonManager} (hrunning : Holds Running w.threads.history d)
    (hplayed : PlayedAt w.content.enemies skillCatalog d w.manager m')
    (hh : w'.threads.history = { w.threads.history with manager := m' }) :
    Moves skillCatalog config w w' (.tick reading) := by
  have hmanager : w'.manager = m' := congrArg Manager.History.manager hh
  rcases hplayed with rfl | ⟨dungeon, dungeon', touched, hd, hplay, hsim, rfl⟩
  · exact .same hg hh
  · refine ⟨?_, fun _ hd => by rw [hh]; exact hd, ?_⟩
    · rw [hh]
      exact indexed_simulated hg.indexed hd hsim
    · rw [hmanager]
      exact .played hd (hrunning.2 dungeon hd) hplay rfl

/-! ### Requests -/

theorem effect_createDungeon (hg : Good config w) {step : ServiceStep} {parties : PartyManager}
    {partyId : PartyId} {templateId : DungeonTemplateId} {now : Int} :
    Effect skillCatalog config w
      (w.manager.createDungeon parties w.content.dungeons partyId templateId now).2 step := by
  rcases create_cases w.manager parties w.content.dungeons partyId templateId now with
    ⟨status, -, he⟩ | ⟨party, template, -, htemplate, he⟩ <;> rw [he]
  · exact .same rfl
  rcases insert_cases w.manager partyId party template now with
    ⟨status, -, he⟩ | ⟨failure, he⟩ | ⟨built, dungeon, -, hnew, hb, he⟩ <;> rw [he]
  · exact .same rfl
  · exact .same rfl
  · have hfresh : w.manager.nextDungeonId ∉ w.threads.history.issued := fun hm =>
      Nat.lt_irrefl _ (hg.indexed.index.below _ hm)
    have hlive : w.manager.nextDungeonId ∉ w.manager.dungeons := fun hm =>
      hfresh (hg.indexed.index.live _ hm)
    have hremains : Remains built dungeon := hb ▸ .bindMembers _ _ built
    have hc := created_new hnew
    have hrunnable := runnable_new (hg.content templateId template htemplate) hnew
    refine .created hfresh (hremains.state.trans hc.state) ?_ ?_
    · have hlast : DungeonStep w.content.enemies {} built dungeon :=
        .participants hremains.toDescends
      rw [hremains.dungeonTemplate, hc.dungeonTemplate]
      exact hrunnable.step hlast
    · refine ExtTreeMap.ext_getElem? fun k => ?_
      grind

/-- The calls that requests make of the dungeon manager. -/
theorem request_call {threads : Threads} {step : ThreadStep} {call : Call}
    (hreq : isRequest step = true) (hc : threads.call step = some call) :
    call.rejoins = true ∨ ∃ (s : SessionId) (d : DungeonId), step = .cancelDungeon s ∧
      threads.tasks[s]? = some (.cancelling d) ∧ call = .cancelDungeon d := by
  cases step with
  | createDungeon | tickSweep | tickRemoveParticipant | tickStart | tickCancel | tickFinish
  | tickRelease => cases hreq
  | cancelDungeon s =>
    simp only [Threads.call] at hc
    split at hc
    · rename_i d htask
      exact .inr ⟨s, d, rfl, htask, (Option.some.inj hc).symm⟩
    · cases hc
  | rollbackPlayerReconnect s =>
    simp only [Threads.call] at hc
    split at hc
    · cases hc
      exact .inl rfl
    · cases hc
  | registerPlayerSession | giveUp | disconnectPlayerSession =>
    cases hc
    exact .inl rfl
  | readParticipants | allocate | findToken | release | replaceParticipant | disconnectParticipant =>
    cases hc

theorem effect_cancelDungeon {step : ServiceStep} {d : DungeonId}
    (hwhy : ∀ dungeon, w.manager.dungeons[d]? = some dungeon → dungeon.state = .waiting →
      Removal config w d dungeon step) :
    Effect skillCatalog config w (w.manager.cancelDungeon d).2 step := by
  rcases cancel_cases w.manager d with he | ⟨dungeon, hd, hstate, he⟩ <;> rw [he]
  · exact .same rfl
  · exact .removed hd (hwhy dungeon hd hstate) rfl

theorem moves_request (hg : Good config w) {step : ThreadStep} (hreq : isRequest step = true)
    (hn : w.threads.next step = some w'.threads) : Moves skillCatalog config w w' (.request step) := by
  obtain ⟨hsome, hnone⟩ := Threads.history_of_next hn
  cases hc : w.threads.call step with
  | none => exact .same hg (hnone hc)
  | some call =>
    have hcall := hsome call hc
    refine .call hg hcall ?_
    rcases request_call hreq hc with hrejoins | ⟨s, d, rfl, htask, rfl⟩
    · exact .rejoined (remains_of_next hg.indexed hcall hrejoins)
    · have hmanager : w'.manager = (w.manager.cancelDungeon d).2 :=
        congrArg Manager.History.manager (Option.some.inj hcall).symm
      rw [hmanager]
      exact effect_cancelDungeon fun dungeon _ hstate => .allocationFailed htask hstate

/-! ### The tick -/

/-- A call of the tick and the history after it. -/
theorem thread_history {step : ThreadStep} {place : TickPlace} {call : Call}
    (hn : w.thread step place = some w') (hc : w.threads.call step = some call) :
    w.threads.history.next call = some w'.threads.history ∧ w'.place = place :=
  ⟨(Threads.history_of_next (thread_spec hn).1).1 call hc, congrArg Service.place (thread_spec hn).2⟩

theorem effect_sweep {reading : TickReading} {h' : Manager.History} (hplace : w.place = .idle)
    (hn : w.threads.history.next (.sweepAbandonedParticipants reading.now config.reconnectGrace
      config.maxDungeonLifetime) = some h') :
    Effect skillCatalog config w h'.manager (.tick reading) := by
  obtain rfl := Option.some.inj hn
  by_cases hpos : 0 < config.reconnectGrace ∧ 0 < config.maxDungeonLifetime
  · exact .swept hplace hpos.1
      (sweep_effect hpos.1 hpos.2 reading.now w.threads.history.manager).dungeons
  · refine .same ?_
    rw [sweep_idle hpos]
    rfl

theorem effect_startDungeon {reading : TickReading} {d : DungeonId} :
    Effect skillCatalog config w (w.manager.startDungeon w.content.enemies d).2 (.tick reading) := by
  unfold DungeonManager.startDungeon
  split
  · exact .same rfl
  · rename_i dungeon hd
    by_cases hstate : dungeon.state = .waiting
    · exact .started hd hstate rfl
    · refine .same ?_
      simp only [DungeonInstance.start, hstate, ne_eq, not_false_eq_true, if_true]
      exact insert_self hd

theorem playedAt_advanceRoomWaves (d : DungeonId) (m : DungeonManager) (enemies : EnemyCatalog) :
    PlayedAt enemies skillCatalog d m
      (m.modifyDungeon d fun dungeon => (dungeon.advanceRoomWaves enemies).2) :=
  playedAt_modify (fun _ => False) fun dungeon _ =>
    ⟨steps_of_advanceRoomWaves dungeon, advanceRoomWaves_simulated enemies dungeon⟩

theorem processing_target {d : DungeonId} {rest : List DungeonId} (h : ProcessingOk w)
    (hplace : w.place = .processing d rest) :
    w.processing = .idle ∨ target w.processing = some d := by
  rcases h with hidle | ⟨e, rest', he, htarget⟩
  · exact .inl hidle
  · rw [hplace] at he
    cases he
    exact .inr htarget

theorem playedAt_process {d : DungeonId} {rest : List DungeonId} (h : ProcessingOk w)
    (hplace : w.place = .processing d rest) (order : List SessionId) :
    let w' := w.process arithmetic skillCatalog d rest order
    (w'.processing = .idle ∨ target w'.processing = some d) ∧
      PlayedAt w.content.enemies skillCatalog d w.manager w'.manager :=
  playedAt_processStep ⟨⟨w.manager, w.threads.udp⟩, w.processing, w.pendingHits⟩
    (processing_target h hplace) order

theorem moves_finish (hg : Good config w) {reading : TickReading} {d : DungeonId}
    {rest : List DungeonId} {place : TickPlace} (hplace : w.place = .finish d rest)
    (hrunning : Holds Running w.threads.history d) :
    Moves skillCatalog config w
      { w.withManager (w.manager.modifyDungeon d (·.finish.2)) with place } (.tick reading) := by
  cases hd : w.manager.dungeons[d]? with
  | none =>
    refine .same hg ?_
    simp only [Service.withManager, DungeonManager.modifyDungeon, hd]
    rfl
  | some dungeon =>
    have hstate : dungeon.state = .running := hrunning.2 dungeon hd
    have hm : w.manager.modifyDungeon d (·.finish.2) = { w.manager with
        dungeons := w.manager.dungeons.insert d { dungeon with state := .finished } } := by
      simp [DungeonManager.modifyDungeon, hd, DungeonInstance.finish, hstate]
    rw [hm]
    refine ⟨?_, fun _ hd => hd, .finished hplace hd hstate rfl⟩
    exact indexed_simulated hg.indexed hd (.rooms (fun _ => False) dungeon .finished dungeon.rooms)

theorem moves_tick (hg : Good config w) {reading : TickReading}
    (hn : w.tick arithmetic skillCatalog config reading = some w') :
    Moves skillCatalog config w w' (.tick reading) := by
  have hok := hg.place
  have hdrained {after : Service} (hn : w.drain after = some w')
      (hafter : after.threads = w.threads) :
      Moves skillCatalog config w w' (.tick reading) := by
    rcases drain_cases hn with rfl | ⟨-, hhistory, -⟩
    · exact .same hg (congrArg Threads.history hafter)
    · exact .same hg hhistory
  cases hplace : w.place with
  | idle =>
    simp only [Service.tick, hplace, Option.map_eq_some_iff] at hn
    obtain ⟨w₁, hthread, rfl⟩ := hn
    have hcall := (thread_history hthread rfl).1
    exact .call hg hcall (effect_sweep hplace hcall)
  | sweeping released | cancelled ids d rest | released d rest =>
    simp only [Service.tick, hplace] at hn
    exact hdrained hn rfl
  | readWaiting | readRunning | readFinished =>
    simp only [Service.tick, hplace] at hn
    obtain ⟨-, rfl⟩ := readIds_spec hn
    exact .same hg rfl
  | waiting ids rest =>
    cases rest with
    | nil | cons d rest =>
      simp only [Service.tick, hplace] at hn
      obtain rfl := Option.some.inj hn
      exact .same hg rfl
  | checkDisconnected ids d rest found =>
    simp only [Service.tick, hplace] at hn
    split at hn <;> obtain rfl := Option.some.inj hn <;> exact .same hg rfl
  | checkAuthenticated ids d rest =>
    simp only [Service.tick, hplace] at hn
    split at hn
    · obtain rfl := Option.some.inj hn
      exact .same hg rfl
    split at hn
    · obtain rfl := Option.some.inj hn
      exact .same hg rfl
    split at hn <;> obtain rfl := Option.some.inj hn <;> exact .same hg rfl
  | start ids d rest =>
    simp only [Service.tick, hplace, Option.map_eq_some_iff] at hn
    obtain ⟨w₁, hthread, hw'⟩ := hn
    have hsame : w'.threads = w₁.threads := by
      rw [← hw']
      split <;> rfl
    have hcall := (thread_history hthread rfl).1
    rw [← hsame] at hcall
    have hmanager : w'.manager = (w.manager.startDungeon w.content.enemies d).2 :=
      congrArg Manager.History.manager (Option.some.inj hcall).symm
    refine .call hg hcall ?_
    rw [hmanager]
    exact effect_startDungeon
  | refresh ids d rest =>
    simp only [Service.tick, hplace] at hn
    obtain rfl := Option.some.inj hn
    exact .same hg rfl
  | cancel ids d rest =>
    simp only [Service.tick, hplace] at hn
    have hcall := (thread_history hn rfl).1
    have hmanager : w'.manager = (w.manager.cancelDungeon d).2 :=
      congrArg Manager.History.manager (Option.some.inj hcall).symm
    rw [PlaceOk, hplace] at hok
    obtain ⟨since, hsince, htime⟩ := hok
    refine .call hg hcall ?_
    rw [hmanager]
    exact effect_cancelDungeon fun dungeon _ hstate => .readyTimeout hplace hstate hsince htime
  | running rest =>
    cases rest with
    | nil | cons d rest =>
      simp only [Service.tick, hplace] at hn
      obtain rfl := Option.some.inj hn
      exact .same hg rfl
  | processing d rest =>
    simp only [Service.tick, hplace] at hn
    obtain rfl := Option.some.inj hn
    rw [PlaceOk, hplace] at hok
    exact .played hg (hok.2 d List.mem_cons_self)
      (playedAt_process hg.processing hplace reading.sessions).2 rfl
  | waves d rest =>
    rw [PlaceOk, hplace] at hok
    simp only [Service.tick, hplace] at hn
    split at hn
    · obtain rfl := Option.some.inj hn
      exact .same hg rfl
    · obtain rfl := Option.some.inj hn
      exact .played hg (hok.2 d List.mem_cons_self) (playedAt_advanceRoomWaves d _ _) rfl
  | readPlayers d rest =>
    simp only [Service.tick, hplace] at hn
    split at hn
    · obtain rfl := Option.some.inj hn
      exact .same hg rfl
    split at hn
    · obtain rfl := Option.some.inj hn
      exact .same hg rfl
    split at hn
    · obtain rfl := Option.some.inj hn
      exact .same hg rfl
    · cases hn
  | checkRooms d rest rooms =>
    cases rooms with
    | nil =>
      simp only [Service.tick, hplace] at hn
      obtain rfl := Option.some.inj hn
      exact .same hg rfl
    | cons room rooms =>
      simp only [Service.tick, hplace] at hn
      split at hn <;> obtain rfl := Option.some.inj hn <;> exact .same hg rfl
  | finish d rest =>
    rw [PlaceOk, hplace] at hok
    simp only [Service.tick, hplace] at hn
    obtain rfl := Option.some.inj hn
    exact moves_finish hg hplace (hok.1.2 d List.mem_cons_self)
  | checkState d rest =>
    simp only [Service.tick, hplace] at hn
    obtain rfl := Option.some.inj hn
    exact .same hg rfl
  | finished rest =>
    cases rest with
    | nil =>
      simp only [Service.tick, hplace] at hn
      obtain rfl := Option.some.inj hn
      exact .same hg rfl
    | cons d rest =>
      simp only [Service.tick, hplace] at hn
      split at hn
      · obtain rfl := Option.some.inj hn
        exact .same hg rfl
      split at hn <;> obtain rfl := Option.some.inj hn <;> exact .same hg rfl
  | finishDungeon d rest =>
    simp only [Service.tick, hplace] at hn
    have hcall := (thread_history hn rfl).1
    have hmanager : w'.manager = (w.manager.finishDungeon d).2 :=
      congrArg Manager.History.manager (Option.some.inj hcall).symm
    rw [PlaceOk, hplace] at hok
    obtain ⟨hbatch, since, hsince, htime⟩ := hok
    refine .call hg hcall ?_
    rw [hmanager]
    rcases finish_cases w.manager d with he | ⟨dungeon, hd, -, he⟩ <;> rw [he]
    · exact .same rfl
    · have hfinished := (hbatch.2 d List.mem_cons_self).2 dungeon hd
      exact .removed hd (.broadcastOver hplace hfinished hsince htime) rfl

theorem moves_of_next (hg : Good config w) {step : ServiceStep}
    (hn : w.next arithmetic skillCatalog config parse step = some w') :
    Moves skillCatalog config w w' step := by
  cases step with
  | createDungeon s parties partyId templateId now =>
    have hcall := (thread_history hn rfl).1
    have hmanager : w'.manager =
        (w.manager.createDungeon parties w.content.dungeons partyId templateId now).2 :=
      congrArg Manager.History.manager (Option.some.inj hcall).symm
    refine .call hg hcall ?_
    rw [hmanager]
    exact effect_createDungeon hg
  | request step =>
    simp only [Service.next] at hn
    split at hn
    · rename_i hreq
      exact moves_request hg hreq (thread_spec hn).1
    · cases hn
  | receive serverTick d datagram | addContent op | stopUdp =>
    obtain rfl := Option.some.inj hn
    exact .same hg rfl
  | stopTick =>
    simp only [Service.next] at hn
    split at hn
    · obtain rfl := Option.some.inj hn
      exact .same hg rfl
    · cases hn
  | stopManager =>
    simp only [Service.next, Option.map_eq_some_iff] at hn
    obtain ⟨threads, hmanage, rfl⟩ := hn
    have hcall := (Threads.manage_spec hmanage).1
    have hmanager : threads.history.manager = w.manager.stop :=
      congrArg Manager.History.manager (Option.some.inj hcall).symm
    refine .call hg hcall ?_
    rw [Service.manager, hmanager]
    cases hstopping : w.manager.stopping with
    | true =>
      refine .same ?_
      rw [DungeonManager.stop, if_pos hstopping]
    | false =>
      refine .stopped fun d => ?_
      simp [DungeonManager.stop, hstopping]
  | tick reading => exact moves_tick hg hn

end

end DnfServer.Tick
