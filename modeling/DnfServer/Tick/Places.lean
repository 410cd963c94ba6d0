import DnfServer.Tick.Effects

/-!
# What the tick knows at each place

What the tick has read of a dungeon still holds when it comes to use it: in between the other
threads take dungeons out and move players to other sessions, and neither writes a state, a room or
the room that a player is in.
-/

namespace DnfServer.Tick

open Std DnfServer.Library DnfServer.Participants DnfServer.Manager DnfServer.Dungeons DnfServer.Udp
set_option autoImplicit false

/-! ## One dungeon -/

/-- What a step makes of a dungeon that stays. -/
inductive Stays (skillCatalog : SkillCatalog) (w : Service) (d : DungeonId)
    (dungeon : DungeonInstance) : DungeonInstance → ServiceStep → Prop where
  | same {step : ServiceStep} : Stays skillCatalog w d dungeon dungeon step
  | rejoined {step : ThreadStep} {dungeon' : DungeonInstance} (h : Remains dungeon dungeon') :
      Stays skillCatalog w d dungeon dungeon' (.request step)
  | swept {reading : TickReading} {dungeon' : DungeonInstance} (hplace : w.place = .idle)
      (h : Descends dungeon dungeon') : Stays skillCatalog w d dungeon dungeon' (.tick reading)
  | started {reading : TickReading} (hstate : dungeon.state = .waiting) :
      Stays skillCatalog w d dungeon (dungeon.start w.content.enemies).2 (.tick reading)
  | played {reading : TickReading} {dungeon' : DungeonInstance} (hstate : dungeon.state = .running)
      (h : PlaySteps w.content.enemies skillCatalog dungeon dungeon') :
      Stays skillCatalog w d dungeon dungeon' (.tick reading)
  | finished {reading : TickReading} {rest : List DungeonId} (hplace : w.place = .finish d rest)
      (hstate : dungeon.state = .running) :
      Stays skillCatalog w d dungeon { dungeon with state := .finished } (.tick reading)

section

variable {arithmetic : Arithmetic} {skillCatalog : SkillCatalog} {config : TickConfig} {parse : Parse}
  {w w' : Service} {d : DungeonId} {dungeon dungeon' : DungeonInstance} {step : ServiceStep}
  {m' : DungeonManager}

theorem start_state {catalog : EnemyCatalog} (hstate : dungeon.state = .waiting) :
    (dungeon.start catalog).2.state = .running := by
  unfold DungeonInstance.start
  rw [if_neg (by simp [hstate])]
  simp only
  split
  · rfl
  split
  · rfl
  split <;> rfl

/-- A dungeon after a step is a new one, or one that has stayed. -/
theorem stays_of_effect (hg : Good config w) (he : Effect skillCatalog config w m' step)
    (hd : m'.dungeons[d]? = some dungeon') :
    (d ∉ w.threads.history.issued ∧ dungeon'.state = .waiting ∧
        Runnable w.content.enemies dungeon'.dungeonTemplate dungeon') ∨
      ∃ dungeon, w.manager.dungeons[d]? = some dungeon ∧
        Stays skillCatalog w d dungeon dungeon' step := by
  -- where one dungeon is written, the others stay as they are
  have hinsert {e : DungeonId} {other : DungeonInstance}
      (hm : m'.dungeons = w.manager.dungeons.insert e other) :
      e = d ∧ other = dungeon' ∨ w.manager.dungeons[d]? = some dungeon' := by grind
  cases he with
  | same hm => exact .inr ⟨dungeon', hm ▸ hd, .same⟩
  | rejoined hm =>
    obtain ⟨dungeon, hold, hremains⟩ := hm.before hd
    exact .inr ⟨dungeon, hold, .rejoined hremains⟩
  | created hnew hstate hrunnable hm =>
    rcases hinsert hm with ⟨rfl, rfl⟩ | hold
    · exact .inl ⟨hnew, hstate, hrunnable⟩
    · exact .inr ⟨dungeon', hold, .same⟩
  | started hd' hstate hm =>
    rcases hinsert hm with ⟨rfl, rfl⟩ | hold
    · exact .inr ⟨_, hd', .started hstate⟩
    · exact .inr ⟨dungeon', hold, .same⟩
  | played hd' hstate hplay hm =>
    rcases hinsert hm with ⟨rfl, rfl⟩ | hold
    · exact .inr ⟨_, hd', .played hstate hplay⟩
    · exact .inr ⟨dungeon', hold, .same⟩
  | finished hplace hd' hstate hm =>
    rcases hinsert hm with ⟨rfl, rfl⟩ | hold
    · exact .inr ⟨_, hd', .finished hplace hstate⟩
    · exact .inr ⟨dungeon', hold, .same⟩
  | removed hd' hwhy hm => exact .inr ⟨dungeon', by grind, .same⟩
  | swept hplace hgrace hm =>
    rw [hm, Option.bind_eq_some_iff] at hd
    obtain ⟨dungeon, hold, hswept⟩ := hd
    have hc := hg.indexed.index.consistent d dungeon hold
    refine .inr ⟨dungeon, hold, .swept hplace ?_⟩
    rw [(swept_some hgrace hc hswept).1]
    exact descends_without _ dungeon
  | stopped hm =>
    rw [hm] at hd
    cases hd

/-- A dungeon that does not stay is removed. -/
theorem removal_of_effect (he : Effect skillCatalog config w m' step)
    (hd : w.manager.dungeons[d]? = some dungeon) (hgone : m'.dungeons[d]? = none) :
    Removal config w d dungeon step := by
  cases he with
  | same hm =>
    rw [hm, hd] at hgone
    cases hgone
  | rejoined hm =>
    obtain ⟨dungeon', hnew, -⟩ := hm.after hd
    rw [hgone] at hnew
    cases hnew
  | created | started | played | finished =>
    rename_i hm
    exact absurd hgone (by grind)
  | @removed _ e other hd' hwhy hm =>
    have hsame : e = d := by grind
    subst hsame
    obtain rfl := Option.some.inj (hd.symm.trans hd')
    exact hwhy
  | @swept reading hplace hgrace hm =>
    rw [hm, hd, Option.bind_some, swept_eq_none, DungeonManager.keptBySweep, Bool.and_eq_true,
      not_and_or, Bool.not_eq_true', Bool.not_eq_true', Bool.not_eq_false, Bool.not_eq_false,
      List.isEmpty_iff] at hgone
    refine .swept hplace ?_
    rcases hgone with hover | hempty
    · exact .inl hover
    · unfold DungeonManager.sweepDungeon at hempty
      split at hempty
      · rename_i hover
        exact .inl hover
      · exact .inr hempty
  | stopped => exact .stopped

namespace Stays

theorem steps (h : Stays skillCatalog w d dungeon dungeon' step) :
    DungeonSteps w.content.enemies skillCatalog dungeon dungeon' := by
  cases h with
  | same => exact .refl
  | rejoined hremains => exact .single (.participants hremains.toDescends)
  | swept hplace hdescends => exact .single (.participants hdescends)
  | started hstate => exact steps_of_start dungeon
  | played hstate hplay => exact hplay.steps
  | finished hplace hstate => exact .single (.finish hstate)

/-- What is finished stays so, and only its participants change. -/
theorem descends (h : Stays skillCatalog w d dungeon dungeon' step) (hstate : dungeon.state = .finished) :
    Descends dungeon dungeon' := by
  cases h with
  | same => exact .refl dungeon
  | rejoined hremains => exact hremains.toDescends
  | swept hplace hdescends => exact hdescends
  | started hother | played hother | finished hplace hother =>
    rw [hstate] at hother
    cases hother

theorem running (h : Stays skillCatalog w d dungeon dungeon' step)
    (hplace : ∀ rest, w.place ≠ .finish d rest) (hstate : dungeon.state = .running) :
    dungeon'.state = .running := by
  cases h with
  | same => exact hstate
  | rejoined hremains => exact hremains.state.trans hstate
  | swept _ hdescends => exact hdescends.state.trans hstate
  | started hother =>
    rw [hstate] at hother
    cases hother
  | played _ hplay => exact (PlaySteps.frame hplay).1.trans hstate
  | finished hfinish => exact absurd hfinish (hplace _)

/-- Only the tick does more than to move players to other sessions. -/
theorem remains (h : Stays skillCatalog w d dungeon dungeon' step)
    (hstep : ∀ reading, step ≠ .tick reading) : Remains dungeon dungeon' := by
  cases h with
  | same => exact .refl dungeon
  | rejoined hremains => exact hremains
  | swept | started | played | finished => exact absurd rfl (hstep _)

end Stays

/-! ## Players in the last room -/

theorem playersGathered_iff : Service.playersGathered dungeon = true ↔
    (∃ s : SessionId, s ∈ dungeon.players) ∧ Gathered dungeon := by
  unfold Service.playersGathered Gathered
  cases dungeon.dungeonTemplate.rooms.getLast? with
  | none => simp
  | some finalRoom =>
    have hall : dungeon.players.toList.all (·.2.roomId = finalRoom.id) = true ↔
        ∀ (s : SessionId) (player : DungeonPlayerState), dungeon.players[s]? = some player →
          player.roomId = finalRoom.id := by
      simp [List.all_eq_true, ExtTreeMap.mem_toList_iff_getElem?_eq_some]
    have hnonempty : dungeon.players.isEmpty = false ↔ ∃ s : SessionId, s ∈ dungeon.players := by
      rw [← ExtTreeMap.isEmpty_keys, List.isEmpty_eq_false_iff_exists_mem]
      simp only [ExtTreeMap.mem_keys]
    rw [Bool.and_eq_true, hall, Bool.not_eq_true', hnonempty]
    simp

theorem Gathered.descends (h : Gathered dungeon) (hd : Descends dungeon dungeon') :
    Gathered dungeon' := by
  obtain ⟨finalRoom, hlast, hplayers⟩ := h
  refine ⟨finalRoom, hd.dungeonTemplate ▸ hlast, ?_⟩
  intro s player' hs
  obtain ⟨t, player, ht, heq⟩ := hd.players s player' hs
  rw [heq]
  exact hplayers t player ht

theorem Clearing.remains {rooms : List RoomId} (h : Clearing rooms dungeon)
    (hc : Consistent dungeon) (hc' : Consistent dungeon') (hr : Remains dungeon dungeon') :
    Clearing rooms dungeon' := by
  obtain ⟨hgathered, hrooms⟩ := h
  obtain ⟨⟨s, hs⟩, hgathered⟩ := playersGathered_iff.mp hgathered
  refine ⟨playersGathered_iff.mpr ⟨?_, hgathered.descends hr.toDescends⟩, hr.rooms ▸ hrooms⟩
  have hne : dungeon'.participants ≠ [] := by
    have hpos := List.length_pos_of_mem ((hc.listed s).mpr hs)
    rw [← hr.length] at hpos
    exact List.ne_nil_of_length_pos hpos
  obtain ⟨t, ht⟩ := List.exists_mem_of_ne_nil _ hne
  exact ⟨t, (hc'.listed t).mp ht⟩

/-! ## What the tick relies on -/

theorem AllRunnable.moves (hg : Good config w) (hm : Moves skillCatalog config w w' step) :
    AllRunnable w.content.enemies w'.manager := by
  intro d dungeon' hd
  rcases stays_of_effect hg hm.effect hd with ⟨-, -, hrunnable⟩ | ⟨dungeon, hold, hstays⟩
  · exact hrunnable
  · have h := hg.runnable d dungeon hold
    have hlast := hstays.steps.invariant (fun _ _ h hstep => h.step hstep) h
    exact hlast.sameTemplate ▸ hlast

theorem AllGathered.moves (hg : Good config w) (hm : Moves skillCatalog config w w' step) :
    AllGathered w'.manager := by
  intro d dungeon' hd hstate'
  rcases stays_of_effect hg hm.effect hd with ⟨-, hwaiting, -⟩ | ⟨dungeon, hold, hstays⟩
  · rw [hstate'] at hwaiting
    cases hwaiting
  by_cases hstate : dungeon.state = .finished
  · exact (hg.gathered d dungeon hold hstate).descends (hstays.descends hstate)
  cases hstays with
  | same => exact absurd hstate' hstate
  | rejoined hremains => exact absurd (hremains.state.symm.trans hstate') hstate
  | swept _ hdescends => exact absurd (hdescends.state.symm.trans hstate') hstate
  | started hwaiting =>
    rw [start_state hwaiting] at hstate'
    cases hstate'
  | played _ hplay => exact absurd ((PlaySteps.frame hplay).1.symm.trans hstate') hstate
  | finished hplace =>
    have hplaceOk := hg.place
    rw [PlaceOk, hplace] at hplaceOk
    obtain ⟨-, hgathered⟩ := playersGathered_iff.mp (hplaceOk.2.2 dungeon hold).1
    exact hgathered

/-- A property of a dungeon that is live at most since before the step. -/
theorem Holds.moves (hg : Good config w) (hm : Moves skillCatalog config w w' step)
    {P P' : DungeonInstance → Prop} (h : Holds P w.threads.history d)
    (hP : ∀ dungeon dungeon', w.manager.dungeons[d]? = some dungeon →
      w'.manager.dungeons[d]? = some dungeon' → Stays skillCatalog w d dungeon dungeon' step →
      P dungeon → P' dungeon') : Holds P' w'.threads.history d := by
  refine ⟨hm.issued d h.1, fun dungeon' hd => ?_⟩
  rcases stays_of_effect hg hm.effect hd with ⟨hnew, -⟩ | ⟨dungeon, hold, hstays⟩
  · exact absurd h.1 hnew
  · exact hP dungeon dungeon' hold hd hstays (h.2 dungeon hold)

theorem Batch.running (hg : Good config w) (hm : Moves skillCatalog config w w' step)
    {ids : List DungeonId} (h : Batch Running w.threads.history ids)
    (hplace : ∀ d ∈ ids, ∀ rest, w.place ≠ .finish d rest) :
    Batch Running w'.threads.history ids :=
  ⟨h.1, fun d hd => (h.2 d hd).moves hg hm fun _ _ _ _ hs hstate => hs.running (hplace d hd) hstate⟩

theorem Batch.finished (hg : Good config w) (hm : Moves skillCatalog config w w' step)
    {ids : List DungeonId} (h : Batch Finished w.threads.history ids) :
    Batch Finished w'.threads.history ids :=
  ⟨h.1, fun d hd => (h.2 d hd).moves hg hm fun _ _ _ _ hs hstate =>
    (hs.descends hstate).state.trans hstate⟩

theorem Batch.remains (hg : Good config w) (hm : Moves skillCatalog config w w' step)
    (hstep : ∀ reading, step ≠ .tick reading) {state : DungeonState} {ids : List DungeonId}
    (h : Batch (·.state = state) w.threads.history ids) :
    Batch (·.state = state) w'.threads.history ids :=
  ⟨h.1, fun d hd => (h.2 d hd).moves hg hm fun _ _ _ _ hs hstate =>
    (hs.remains hstep).state.trans hstate⟩

theorem Holds.clearing (hg : Good config w) (hm : Moves skillCatalog config w w' step)
    (hstep : ∀ reading, step ≠ .tick reading) {rooms : List RoomId}
    (h : Holds (Clearing rooms) w.threads.history d) :
    Holds (Clearing rooms) w'.threads.history d :=
  h.moves hg hm fun dungeon dungeon' hd hd' hs hclearing =>
    hclearing.remains (hg.indexed.index.consistent d dungeon hd)
      (hm.indexed.index.consistent d dungeon' hd') (hs.remains hstep)

theorem Batch.tail {P : DungeonInstance → Prop} {h : Manager.History} {rest : List DungeonId}
    (hb : Batch P h (d :: rest)) : Batch P h rest :=
  ⟨hb.1.of_cons, fun e he => hb.2 e (List.mem_cons_of_mem d he)⟩

/-- A list that the tick has just read. -/
theorem batch_of_ids (hg : Good config w) {state : DungeonState} {ids : List DungeonId}
    (hperm : ids.Perm (w.manager.dungeonIdsIn state)) :
    Batch (·.state = state) w.threads.history ids := by
  refine ⟨hperm.nodup_iff.mpr ?_, ?_⟩
  · exact ((nodup_map_fst_toList w.manager.dungeons).sublist (List.filter_sublist.map _))
  · intro d hd
    have hmem := hperm.mem_iff.mp hd
    simp only [DungeonManager.dungeonIdsIn, List.mem_map, List.mem_filter, decide_eq_true_eq,
      Prod.exists, ExtTreeMap.mem_toList_iff_getElem?_eq_some] at hmem
    obtain ⟨e, dungeon, ⟨hlive, hstate⟩, rfl⟩ := hmem
    refine ⟨hg.indexed.index.live e ?_, ?_⟩
    · exact mem_of_entry hlive
    · intro other hother
      obtain rfl := Option.some.inj (hlive.symm.trans hother)
      exact hstate

/-! ## The place of the tick -/

/-- The requests under way are where they were, or some thread has made its next call. -/
def TasksGo (w w' : Service) : Prop :=
  w'.threads.tasks = w.threads.tasks ∨ ∃ step, w.threads.next step = some w'.threads

/-- The catalogs are not written, and the processors are where they were. -/
structure Frame (w w' : Service) : Prop where
  content : w'.content = w.content
  processing : w'.processing = w.processing
  tasks : TasksGo w w'

theorem Frame.same (hcontent : w'.content = w.content) (hprocessing : w'.processing = w.processing)
    (htasks : w'.threads.tasks = w.threads.tasks) : Frame w w' :=
  ⟨hcontent, hprocessing, .inl htasks⟩

theorem frame_thread {step : ThreadStep} {place : TickPlace} (hn : w.thread step place = some w') :
    Frame w w' := by
  obtain ⟨hnext, he⟩ := thread_spec hn
  exact ⟨by rw [he], by rw [he], .inr ⟨_, hnext⟩⟩

theorem frame_drain {after : Service} (hn : w.drain after = some w') (ha : Frame w after) :
    Frame w w' := by
  rcases drain_cases hn with rfl | ⟨hnext, -, he⟩
  · exact ha
  · exact ⟨by rw [he], by rw [he], .inr hnext⟩

theorem frame_readIds {state : DungeonState} {ids : List DungeonId} {place : TickPlace}
    (hn : w.readIds state ids place = some w') : Frame w w' := by
  rw [(readIds_spec hn).2]
  exact .same rfl rfl rfl

/-- Apart from the processors no call of the tick writes the catalogs or the processing. -/
theorem frame_tick {reading : TickReading} (hidle : ∀ d rest, w.place ≠ .processing d rest)
    (hn : w.tick arithmetic skillCatalog config reading = some w') : Frame w w' := by
  cases hplace : w.place with
  | processing d rest => exact absurd hplace (hidle d rest)
  | idle =>
    simp only [Service.tick, hplace, Option.map_eq_some_iff] at hn
    obtain ⟨w₁, hthread, rfl⟩ := hn
    exact { frame_thread hthread with }
  | start ids d rest =>
    simp only [Service.tick, hplace, Option.map_eq_some_iff] at hn
    obtain ⟨w₁, hthread, rfl⟩ := hn
    split <;> exact { frame_thread hthread with }
  | cancel ids d rest | finishDungeon d rest =>
    simp only [Service.tick, hplace] at hn
    exact frame_thread hn
  | sweeping released | cancelled ids d rest | released d rest =>
    simp only [Service.tick, hplace] at hn
    exact frame_drain hn (.same rfl rfl rfl)
  | readWaiting | readRunning | readFinished =>
    simp only [Service.tick, hplace] at hn
    exact frame_readIds hn
  | waiting ids rest | running rest | finished rest =>
    cases rest <;> simp only [Service.tick, hplace] at hn
    all_goals
      repeat' split at hn
      all_goals
        obtain rfl := Option.some.inj hn
        exact .same rfl rfl rfl
  | checkRooms d rest rooms =>
    cases rooms <;> simp only [Service.tick, hplace] at hn
    all_goals
      repeat' split at hn
      all_goals
        obtain rfl := Option.some.inj hn
        exact .same rfl rfl rfl
  | readPlayers d rest =>
    simp only [Service.tick, hplace] at hn
    repeat' split at hn
    all_goals
      cases hn
      try exact .same rfl rfl rfl
  | checkDisconnected | checkAuthenticated | refresh | waves | finish | checkState =>
    simp only [Service.tick, hplace] at hn
    repeat' split at hn
    all_goals
      obtain rfl := Option.some.inj hn
      exact .same rfl rfl rfl

/-- The processors are done with the dungeon of the loop, or still at it. -/
theorem process_place {rest : List DungeonId} {order : List SessionId} (h : ProcessingOk w)
    (hplace : w.place = .processing d rest)
    (hn : some (w.process arithmetic skillCatalog d rest order) = some w') :
    (w'.place = .waves d rest ∧ w'.processing = .idle) ∨
      (w'.place = .processing d rest ∧ target w'.processing = some d) := by
  obtain rfl := Option.some.inj hn
  have htarget : (w.process arithmetic skillCatalog d rest order).processing = .idle ∨
      target (w.process arithmetic skillCatalog d rest order).processing = some d :=
    (playedAt_process h hplace order).1
  unfold Service.process at htarget ⊢
  simp only
  split
  · rename_i hidle
    exact .inl ⟨rfl, hidle⟩
  · rename_i hbusy
    exact .inr ⟨rfl, htarget.resolve_left hbusy⟩

/-- What the tick knows at the place that it goes to. -/
theorem placeOk_tick (hg : Good config w) {reading : TickReading}
    (hn : w.tick arithmetic skillCatalog config reading = some w') : PlaceOk config w' := by
  have hm := moves_tick hg hn
  have hok := hg.place
  have hdrained {after : Service} (hn : w.drain after = some w') (hafter : PlaceOk config after) :
      PlaceOk config w' := by
    rcases drain_cases hn with rfl | ⟨-, hhistory, he⟩
    · exact hafter
    · rw [he]
      unfold PlaceOk at hok ⊢
      simp only [hhistory]
      exact hok
  cases hplace : w.place with
  | idle =>
    simp only [Service.tick, hplace, Option.map_eq_some_iff] at hn
    obtain ⟨w₁, hthread, rfl⟩ := hn
    rw [(thread_spec hthread).2]
    trivial
  | sweeping released | cancelled ids d rest =>
    simp only [Service.tick, hplace] at hn
    exact hdrained hn trivial
  | released d rest =>
    simp only [Service.tick, hplace] at hn
    rw [PlaceOk, hplace] at hok
    exact hdrained hn hok
  | readWaiting =>
    simp only [Service.tick, hplace] at hn
    rw [(readIds_spec hn).2]
    trivial
  | readRunning =>
    simp only [Service.tick, hplace] at hn
    obtain ⟨hperm, rfl⟩ := readIds_spec hn
    exact batch_of_ids hg hperm
  | readFinished =>
    simp only [Service.tick, hplace] at hn
    obtain ⟨hperm, rfl⟩ := readIds_spec hn
    exact batch_of_ids hg hperm
  | waiting ids rest =>
    cases rest with
    | nil | cons d rest =>
      simp only [Service.tick, hplace] at hn
      obtain rfl := Option.some.inj hn
      trivial
  | checkDisconnected ids d rest found =>
    simp only [Service.tick, hplace] at hn
    split at hn <;> obtain rfl := Option.some.inj hn <;> trivial
  | checkAuthenticated ids d rest =>
    simp only [Service.tick, hplace] at hn
    split at hn
    · obtain rfl := Option.some.inj hn
      trivial
    split at hn
    · obtain rfl := Option.some.inj hn
      trivial
    rename_i since hsince
    split at hn
    · rename_i htime
      obtain rfl := Option.some.inj hn
      exact ⟨since, hsince, htime⟩
    · obtain rfl := Option.some.inj hn
      trivial
  | start ids d rest =>
    simp only [Service.tick, hplace, Option.map_eq_some_iff] at hn
    obtain ⟨w₁, hthread, rfl⟩ := hn
    split
    · rw [(thread_spec hthread).2]
      trivial
    · trivial
  | refresh ids d rest =>
    simp only [Service.tick, hplace] at hn
    obtain rfl := Option.some.inj hn
    trivial
  | cancel ids d rest =>
    simp only [Service.tick, hplace] at hn
    rw [(thread_spec hn).2]
    trivial
  | running rest =>
    rw [PlaceOk, hplace] at hok
    cases rest with
    | nil =>
      simp only [Service.tick, hplace] at hn
      obtain rfl := Option.some.inj hn
      trivial
    | cons d rest =>
      simp only [Service.tick, hplace] at hn
      obtain rfl := Option.some.inj hn
      exact hok
  | processing d rest =>
    rw [PlaceOk, hplace] at hok
    have hbatch := hok.running hg hm fun _ _ _ => by simp [hplace]
    simp only [Service.tick, hplace] at hn
    have hplace' := process_place hg.processing hplace hn
    unfold PlaceOk
    rcases hplace' with ⟨he, -⟩ | ⟨he, -⟩
    all_goals
      rw [he]
      exact hbatch
  | waves d rest =>
    rw [PlaceOk, hplace] at hok
    have hbatch := hok.running hg hm fun _ _ _ => by simp [hplace]
    simp only [Service.tick, hplace] at hn
    split at hn
    · obtain rfl := Option.some.inj hn
      exact hbatch.tail
    · obtain rfl := Option.some.inj hn
      exact hbatch
  | readPlayers d rest =>
    rw [PlaceOk, hplace] at hok
    simp only [Service.tick, hplace] at hn
    split at hn
    · obtain rfl := Option.some.inj hn
      exact hok.tail
    rename_i dungeon hd
    split at hn
    · obtain rfl := Option.some.inj hn
      exact hok.tail
    rename_i hgathered
    split at hn
    · rename_i hperm
      obtain rfl := Option.some.inj hn
      refine ⟨hok, (hok.2 d List.mem_cons_self).1, fun other hother => ?_⟩
      obtain rfl := Option.some.inj (hd.symm.trans hother)
      simp only [not_or, not_not] at hgathered
      refine ⟨hgathered.2, fun id room hroom hnot => absurd ?_ hnot⟩
      rw [hperm.mem_iff, ExtTreeMap.mem_keys]
      exact mem_of_entry hroom
    · cases hn
  | checkRooms d rest rooms =>
    rw [PlaceOk, hplace] at hok
    obtain ⟨hbatch, hissued, hclearing⟩ := hok
    cases rooms with
    | nil =>
      simp only [Service.tick, hplace] at hn
      obtain rfl := Option.some.inj hn
      exact ⟨hbatch, hissued, hclearing⟩
    | cons room rooms =>
      simp only [Service.tick, hplace] at hn
      split at hn
      · rename_i hcleared
        obtain rfl := Option.some.inj hn
        refine ⟨hbatch, hissued, fun dungeon hd => ⟨(hclearing dungeon hd).1, ?_⟩⟩
        intro id state hstate hnot
        by_cases hroom : id = room
        · subst hroom
          have hfound : w.manager.findDungeon d = some dungeon := hd
          simpa [hfound, DungeonInstance.findRoom, hstate] using hcleared
        · exact (hclearing dungeon hd).2 id state hstate (by simp [hroom, hnot])
      · obtain rfl := Option.some.inj hn
        exact hbatch.tail
  | finish d rest =>
    rw [PlaceOk, hplace] at hok
    have hnodup := List.nodup_cons.mp hok.1.1
    have hbatch := hok.1.tail.running hg hm fun e he _ => by
      rw [hplace]
      rintro ⟨⟩
      exact hnodup.1 he
    simp only [Service.tick, hplace] at hn
    obtain rfl := Option.some.inj hn
    exact hbatch
  | checkState d rest =>
    rw [PlaceOk, hplace] at hok
    simp only [Service.tick, hplace] at hn
    obtain rfl := Option.some.inj hn
    exact hok
  | finished rest =>
    rw [PlaceOk, hplace] at hok
    cases rest with
    | nil =>
      simp only [Service.tick, hplace] at hn
      obtain rfl := Option.some.inj hn
      trivial
    | cons d rest =>
      simp only [Service.tick, hplace] at hn
      split at hn
      · obtain rfl := Option.some.inj hn
        exact hok.tail
      split at hn
      · rename_i hover
        obtain rfl := Option.some.inj hn
        simp only [Option.any_eq_true, decide_eq_true_eq] at hover
        exact ⟨hok, hover⟩
      · obtain rfl := Option.some.inj hn
        exact hok.tail
  | finishDungeon d rest =>
    rw [PlaceOk, hplace] at hok
    have hbatch := hok.1.tail.finished hg hm
    simp only [Service.tick, hplace] at hn
    have hw := (thread_spec hn).2
    rw [hw]
    exact hbatch

/-- Other threads leave the place of the tick and what it has noted alone. -/
theorem frame_of_next (hn : w.next arithmetic skillCatalog config parse step = some w')
    (hstep : ∀ reading, step ≠ .tick reading) :
    w'.place = w.place ∧ w'.processing = w.processing ∧ w'.now = w.now ∧
      (w.place = .idle ∨
        w'.waitingSince = w.waitingSince ∧ w'.finishedSince = w.finishedSince) := by
  cases step with
  | tick reading => exact absurd rfl (hstep reading)
  | createDungeon s parties partyId templateId now =>
    rw [(thread_spec hn).2]
    exact ⟨rfl, rfl, rfl, .inr ⟨rfl, rfl⟩⟩
  | request step =>
    simp only [Service.next] at hn
    split at hn
    · rw [(thread_spec hn).2]
      exact ⟨rfl, rfl, rfl, .inr ⟨rfl, rfl⟩⟩
    · cases hn
  | receive serverTick d datagram | addContent op | stopUdp =>
    obtain rfl := Option.some.inj hn
    exact ⟨rfl, rfl, rfl, .inr ⟨rfl, rfl⟩⟩
  | stopTick =>
    simp only [Service.next] at hn
    split at hn
    · rename_i hidle
      obtain rfl := Option.some.inj hn
      exact ⟨rfl, rfl, rfl, .inl hidle⟩
    · cases hn
  | stopManager =>
    simp only [Service.next, Option.map_eq_some_iff] at hn
    obtain ⟨threads, -, rfl⟩ := hn
    exact ⟨rfl, rfl, rfl, .inr ⟨rfl, rfl⟩⟩

theorem placeOk_other (hg : Good config w)
    (hn : w.next arithmetic skillCatalog config parse step = some w')
    (hstep : ∀ reading, step ≠ .tick reading) : PlaceOk config w' := by
  have hm := moves_of_next hg hn
  have hok := hg.place
  obtain ⟨hsame, -, hnow, hnoted⟩ := frame_of_next hn hstep
  unfold PlaceOk at hok ⊢
  rw [hsame]
  cases hplace : w.place with
  | cancel ids d rest =>
    rw [hplace] at hok hnoted
    obtain ⟨hwaiting, -⟩ := hnoted.resolve_left (by simp)
    rw [hwaiting, hnow]
    exact hok
  | finishDungeon d rest =>
    rw [hplace] at hok hnoted
    obtain ⟨-, hfinished⟩ := hnoted.resolve_left (by simp)
    rw [hfinished, hnow]
    exact ⟨hok.1.remains hg hm hstep, hok.2⟩
  | running rest | processing d rest | waves d rest | readPlayers d rest | checkState d rest
  | finished rest | released d rest =>
    rw [hplace] at hok
    exact Batch.remains hg hm hstep hok
  | checkRooms d rest rooms | finish d rest =>
    rw [hplace] at hok
    exact ⟨hok.1.remains hg hm hstep, hok.2.clearing hg hm hstep⟩
  | _ => trivial

theorem processingOk_of_next (hg : Good config w)
    (hn : w.next arithmetic skillCatalog config parse step = some w') : ProcessingOk w' := by
  by_cases hstep : ∃ reading, step = .tick reading
  · obtain ⟨reading, rfl⟩ := hstep
    by_cases hplace : ∃ d rest, w.place = .processing d rest
    · obtain ⟨d, rest, hplace⟩ := hplace
      simp only [Service.next, Service.tick, hplace] at hn
      rcases process_place hg.processing hplace hn with ⟨-, hidle⟩ | ⟨hat, htarget⟩
      · exact .inl hidle
      · exact .inr ⟨d, rest, hat, htarget⟩
    · have hne : ∀ d rest, w.place ≠ .processing d rest := fun d rest he => hplace ⟨d, rest, he⟩
      rcases hg.processing with hidle | ⟨d, rest, he, -⟩
      · exact .inl ((frame_tick hne hn).processing.trans hidle)
      · exact absurd he (hne d rest)
  · obtain ⟨hplace, hprocessing, -⟩ := frame_of_next hn fun reading he => hstep ⟨reading, he⟩
    unfold ProcessingOk
    rw [hplace, hprocessing]
    exact hg.processing

/-- The catalogs grow by the calls that add to them. -/
theorem content_of_next (hn : w.next arithmetic skillCatalog config parse step = some w') :
    w'.content = w.content ∨ ∃ op : ContentOp, w'.content = op.apply w.content := by
  cases step with
  | tick reading =>
    by_cases hplace : ∃ d rest, w.place = .processing d rest
    · obtain ⟨d, rest, hplace⟩ := hplace
      simp only [Service.next, Service.tick, hplace] at hn
      obtain rfl := Option.some.inj hn
      exact .inl rfl
    · exact .inl (frame_tick (fun d rest he => hplace ⟨d, rest, he⟩) hn).content
  | createDungeon s parties partyId templateId now => exact .inl (frame_thread hn).content
  | request step =>
    simp only [Service.next] at hn
    split at hn
    · exact .inl (frame_thread hn).content
    · cases hn
  | addContent op =>
    obtain rfl := Option.some.inj hn
    exact .inr ⟨op, rfl⟩
  | receive serverTick d datagram | stopUdp =>
    obtain rfl := Option.some.inj hn
    exact .inl rfl
  | stopTick =>
    simp only [Service.next] at hn
    split at hn
    · obtain rfl := Option.some.inj hn
      exact .inl rfl
    · cases hn
  | stopManager =>
    simp only [Service.next, Option.map_eq_some_iff] at hn
    obtain ⟨threads, -, rfl⟩ := hn
    exact .inl rfl

theorem tasks_of_next (hn : w.next arithmetic skillCatalog config parse step = some w') :
    TasksGo w w' := by
  cases step with
  | tick reading =>
    by_cases hplace : ∃ d rest, w.place = .processing d rest
    · obtain ⟨d, rest, hplace⟩ := hplace
      simp only [Service.next, Service.tick, hplace] at hn
      obtain rfl := Option.some.inj hn
      exact .inl rfl
    · exact (frame_tick (fun d rest he => hplace ⟨d, rest, he⟩) hn).tasks
  | createDungeon s parties partyId templateId now => exact (frame_thread hn).tasks
  | request step =>
    simp only [Service.next] at hn
    split at hn
    · exact (frame_thread hn).tasks
    · cases hn
  | receive serverTick d datagram | addContent op | stopUdp =>
    obtain rfl := Option.some.inj hn
    exact .inl rfl
  | stopTick =>
    simp only [Service.next] at hn
    split at hn
    · obtain rfl := Option.some.inj hn
      exact .inl rfl
    · cases hn
  | stopManager =>
    simp only [Service.next, Option.map_eq_some_iff] at hn
    obtain ⟨threads, hmanage, rfl⟩ := hn
    exact .inl (Threads.manage_spec hmanage).2.2.1

def isCreation : ThreadStep → Bool
  | .createDungeon .. => true
  | _ => false

/-- Only a creation hands out an id. -/
theorem issued_thread {step : ThreadStep} {place : TickPlace} (hn : w.thread step place = some w')
    (hstep : isCreation step = false) :
    w'.threads.history.issued = w.threads.history.issued := by
  obtain ⟨hsome, hnone⟩ := Threads.history_of_next (thread_spec hn).1
  cases hc : w.threads.call step with
  | none => rw [hnone hc]
  | some call =>
    have hnext := hsome call hc
    cases call with
    | createDungeon parties catalog partyId templateId now =>
      cases step <;> simp only [Threads.call, reduceCtorEq] at hc <;> grind [isCreation]
    | registerPlayerSession | rollbackPlayerReconnect | disconnectPlayerSession =>
      simp only [Manager.History.next] at hnext
      split at hnext
      · exact (congrArg Manager.History.issued (Option.some.inj hnext)).symm
      · cases hnext
    | sweepAbandonedParticipants | startDungeon | cancelDungeon | finishCleared | finishDungeon
    | stop =>
      exact (congrArg Manager.History.issued (Option.some.inj hnext)).symm

theorem issued_drain {after : Service} (hn : w.drain after = some w')
    (hafter : after.threads = w.threads) :
    w'.threads.history.issued = w.threads.history.issued := by
  rcases drain_cases hn with rfl | ⟨-, hhistory, -⟩
  · rw [hafter]
  · rw [hhistory]

theorem issued_tick {reading : TickReading}
    (hn : w.tick arithmetic skillCatalog config reading = some w') :
    w'.threads.history.issued = w.threads.history.issued := by
  cases hplace : w.place with
  | idle =>
    simp only [Service.tick, hplace, Option.map_eq_some_iff] at hn
    obtain ⟨w₁, hthread, rfl⟩ := hn
    exact (issued_thread hthread rfl :)
  | start ids d rest =>
    simp only [Service.tick, hplace, Option.map_eq_some_iff] at hn
    obtain ⟨w₁, hthread, rfl⟩ := hn
    split <;> exact (issued_thread hthread rfl :)
  | cancel ids d rest | finishDungeon d rest =>
    simp only [Service.tick, hplace] at hn
    exact issued_thread hn rfl
  | sweeping released | cancelled ids d rest | released d rest =>
    simp only [Service.tick, hplace] at hn
    exact issued_drain hn rfl
  | readWaiting | readRunning | readFinished =>
    simp only [Service.tick, hplace] at hn
    rw [(readIds_spec hn).2]
  | waiting ids rest | running rest | finished rest =>
    cases rest <;> simp only [Service.tick, hplace] at hn
    all_goals
      repeat' split at hn
      all_goals
        obtain rfl := Option.some.inj hn
        rfl
  | checkRooms d rest rooms =>
    cases rooms <;> simp only [Service.tick, hplace] at hn
    all_goals
      repeat' split at hn
      all_goals
        obtain rfl := Option.some.inj hn
        rfl
  | readPlayers d rest =>
    simp only [Service.tick, hplace] at hn
    repeat' split at hn
    all_goals
      cases hn
      try rfl
  | checkDisconnected | checkAuthenticated | refresh | waves | finish | checkState | processing =>
    simp only [Service.tick, hplace] at hn
    repeat' split at hn
    all_goals
      obtain rfl := Option.some.inj hn
      rfl

theorem issued_of_service (hn : w.next arithmetic skillCatalog config parse step = some w')
    (hstep : ∀ s parties partyId templateId now,
      step ≠ .createDungeon s parties partyId templateId now) :
    w'.threads.history.issued = w.threads.history.issued := by
  cases step with
  | createDungeon s parties partyId templateId now => exact absurd rfl (hstep _ _ _ _ _)
  | tick reading => exact issued_tick hn
  | request step =>
    simp only [Service.next] at hn
    split at hn
    · rename_i hreq
      refine issued_thread hn ?_
      cases step <;> first | rfl | cases hreq
    · cases hn
  | receive serverTick d datagram | addContent op | stopUdp =>
    obtain rfl := Option.some.inj hn
    rfl
  | stopTick =>
    simp only [Service.next] at hn
    split at hn
    · obtain rfl := Option.some.inj hn
      rfl
    · cases hn
  | stopManager =>
    simp only [Service.next, Option.map_eq_some_iff] at hn
    obtain ⟨threads, hmanage, rfl⟩ := hn
    exact (congrArg Manager.History.issued (Option.some.inj (Threads.manage_spec hmanage).1)).symm

theorem good_next (hg : Good config w)
    (hn : w.next arithmetic skillCatalog config parse step = some w') : Good config w' := by
  have hm := moves_of_next hg hn
  have hrunnable := AllRunnable.moves hg hm
  have hplace : PlaceOk config w' := by
    by_cases hstep : ∃ reading, step = .tick reading
    · obtain ⟨reading, rfl⟩ := hstep
      exact placeOk_tick hg hn
    · exact placeOk_other hg hn fun reading he => hstep ⟨reading, he⟩
  refine ⟨hm.indexed, ?_, ?_, AllGathered.moves hg hm, hplace, processingOk_of_next hg hn⟩
  · rcases content_of_next hn with he | ⟨op, he⟩ <;> rw [he]
    · exact hg.content
    · exact hg.content.apply op
  · rcases content_of_next hn with he | ⟨op, he⟩ <;> rw [he]
    · exact hrunnable
    · exact fun d dungeon hd => (hrunnable d dungeon hd).mono (extends_apply op w.content)

theorem good_start : Good config {} where
  indexed := .start
  content := sound_of_run ⟨[], rfl⟩
  runnable := fun d dungeon hd => by simp [Service.manager] at hd
  gathered := fun d dungeon hd => by simp [Service.manager] at hd
  place := trivial
  processing := .inl rfl

theorem good_of_run (h : Reachable (Service.next arithmetic skillCatalog config parse) {} w) :
    Good config w :=
  reachable_invariant (Good config) (fun _ _ _ hg hn => good_next hg hn) good_start h

end

end DnfServer.Tick
