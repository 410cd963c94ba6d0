import DnfServer.Tick.Waiting

/-!
# The timestamps of the finished dungeons

`finishedSince_` gets a dungeon at the tick that finds it finished, and every tick from this one on
broadcasts it until it is released or swept. With the timestamps of the waiting dungeons this says what
a tick has waited for when it cancels, starts or releases a dungeon.
-/

namespace DnfServer.Tick

open Std DnfServer.Library DnfServer.Participants DnfServer.Manager DnfServer.Dungeons DnfServer.Udp
set_option autoImplicit false

def IsFinished (w : Service) (d : DungeonId) : Prop :=
  ∃ dungeon, w.manager.dungeons[d]? = some dungeon ∧ dungeon.state = .finished

/-- The dungeon was live once and is so no more. -/
def Gone (w : Service) (d : DungeonId) : Prop :=
  d ∈ w.threads.history.issued ∧ w.manager.dungeons[d]? = none

namespace TickPlace

/-- The tick has not entered the record yet, or is over. -/
def between : TickPlace → Bool
  | .idle | .sweeping _ | .readWaiting => true
  | _ => false

/-- The broadcast of the dungeon as a finished one is still to come. -/
def Unsent (d : DungeonId) : TickPlace → Prop
  | .finished rest | .finishDungeon _ rest | .released _ rest => d ∈ rest
  | _ => True

/-- The loop over the finished dungeons has still to come to the dungeon. -/
def Listed (d : DungeonId) : TickPlace → Prop
  | .finished rest | .finishDungeon _ rest | .released _ rest => d ∈ rest
  | _ => False

/-- The dungeon is out of the manager, and its timestamp is about to go. -/
def Outdated (d : DungeonId) : TickPlace → Prop
  | .sweeping ids => d ∈ ids
  | .released e _ => d = e
  | _ => False

/-- The tick is under way, and not yet at the finished dungeons. -/
def early : TickPlace → Bool
  | .idle | .sweeping _ | .readWaiting | .finished _ | .finishDungeon .. | .released .. => false
  | _ => true

theorem early_spec {place : TickPlace} (h : place.early = true) : place ≠ .idle ∧
    (∀ d rest, place ≠ .finishDungeon d rest) ∧ place.between = false ∧
      (∀ d, place.Unsent d) ∧ (∀ d, ¬ place.Outdated d) ∧ ∀ d, ¬ place.Listed d := by
  cases place <;> simp_all [early, between, Unsent, Outdated, Listed]

/-- The dungeon that the tick has found in the manager. -/
def held : TickPlace → Option DungeonId
  | .checkRooms d _ _ | .finish d _ | .checkState d _ => some d
  | _ => none

end TickPlace

/-- The timestamps of the finished dungeons, and what the ticks have found and broadcast. Only the last
tick may have found a dungeon of which it has taken no note yet. -/
structure Recorded.FinishedOk (w : Recorded) : Prop where
  keys : ∀ d ∈ w.service.finishedSince, w.service.place.Outdated d ∨ IsFinished w.service d
  outdated : ∀ d, w.service.place.Outdated d → Gone w.service d
  noted : ∀ (i : Nat) (record : TickRecord), w.ticks[i]? = some record → ∀ d ∈ record.finished,
    d ∈ w.service.finishedSince ∨ Gone w.service d ∨ i = 0 ∧ w.service.place.Listed d
  held : ∀ d, w.service.place.held = some d → d ∈ w.service.manager.dungeons
  between : w.service.place.between = true → ∀ (d : DungeonId) (since : Int),
    w.service.finishedSince[d]? = some since → BroadcastSince d since w.ticks
  during : w.service.place.between = false → ∃ record tail, w.ticks = record :: tail ∧
    record.now = w.service.now ∧ (∀ d, w.service.place.Listed d → d ∈ record.finished) ∧
      ∀ (d : DungeonId) (since : Int), w.service.finishedSince[d]? = some since →
        (¬ w.service.place.Unsent d → BroadcastSince d since w.ticks) ∧
        (w.service.place.Unsent d → BroadcastSince d since tail ∨
          since = record.now ∧ d ∈ record.finished ∧ ∀ other ∈ tail, d ∉ other.finished)

section

variable {arithmetic : Arithmetic} {skillCatalog : SkillCatalog} {config : TickConfig} {parse : Parse}
  {w w' : Service} {d : DungeonId} {step : ServiceStep} {reading : TickReading}
  {ticks : List TickRecord}

theorem Gone.moves (hg : Good config w) (hm : Moves skillCatalog config w w' step) (h : Gone w d) :
    Gone w' d := by
  refine ⟨hm.issued d h.1, ?_⟩
  cases hd' : w'.manager.dungeons[d]? with
  | none => rfl
  | some dungeon' =>
    rcases stays_of_effect hg hm.effect hd' with ⟨hnew, -⟩ | ⟨dungeon, hd, -⟩
    · exact absurd h.1 hnew
    · rw [h.2] at hd
      cases hd

/-- A finished dungeon stays or is taken out. -/
theorem IsFinished.moves (hg : Good config w) (hm : Moves skillCatalog config w w' step)
    (h : IsFinished w d) : IsFinished w' d ∨ Gone w' d ∧ ∃ dungeon, dungeon.state = .finished ∧
      Removal config w d dungeon step := by
  obtain ⟨dungeon, hd, hstate⟩ := h
  cases hd' : w'.manager.dungeons[d]? with
  | none =>
    have hissued := hm.issued d (hg.indexed.index.live d (mem_of_entry hd))
    exact .inr ⟨⟨hissued, hd'⟩, dungeon, hstate, removal_of_effect hm.effect hd hd'⟩
  | some dungeon' =>
    rcases stays_of_effect hg hm.effect hd' with ⟨hnew, -⟩ | ⟨old, hold, hstays⟩
    · exact absurd (hg.indexed.index.live d (mem_of_entry hd)) hnew
    · obtain rfl := Option.some.inj (hd.symm.trans hold)
      exact .inl ⟨dungeon', hd', (hstays.descends hstate).state.trans hstate⟩

/-- Behind its sweep the tick takes a finished dungeon out at one place. -/
theorem IsFinished.tick (hg : Good config w)
    (hn : w.tick arithmetic skillCatalog config reading = some w') (hidle : w.place ≠ .idle)
    (hover : ∀ rest, w.place ≠ .finishDungeon d rest) (h : IsFinished w d) : IsFinished w' d := by
  rcases h.moves hg (moves_tick hg hn) with hstays | ⟨-, dungeon, hstate, hwhy⟩
  · exact hstays
  · cases hwhy with
    | readyTimeout _ hother =>
      rw [hstate] at hother
      cases hother
    | swept hplace => exact absurd hplace hidle
    | broadcastOver hplace => exact absurd hplace (hover _)

/-- A dungeon with a timestamp is finished, but where the tick is about to take the timestamp away. -/
theorem Recorded.FinishedOk.finished (h : Recorded.FinishedOk ⟨w, ticks⟩) (hin : ¬ w.place.Outdated d)
    (hd : d ∈ w.finishedSince) : IsFinished w d :=
  (h.keys d hd).resolve_left hin

/-- A dungeon that was found finished has a timestamp or is gone, unless the tick has still to visit it. -/
theorem Recorded.FinishedOk.known (h : Recorded.FinishedOk ⟨w, ticks⟩) (hout : ¬ w.place.Listed d)
    {i : Nat} {record : TickRecord} (hrecord : ticks[i]? = some record) (hd : d ∈ record.finished) :
    d ∈ w.finishedSince ∨ Gone w d :=
  (h.noted i record hrecord d hd).imp_right fun hrest => hrest.resolve_right fun hlisted => hout hlisted.2

/-- A live dungeon without a timestamp was found finished by no tick before. -/
theorem Recorded.FinishedOk.unfound {record : TickRecord} {tail : List TickRecord}
    (h : Recorded.FinishedOk ⟨w, record :: tail⟩) (hnot : d ∉ w.finishedSince)
    (hlive : d ∈ w.manager.dungeons) : ∀ other ∈ tail, d ∉ other.finished := by
  intro other hother hd
  obtain ⟨i, hi⟩ := List.getElem?_of_mem hother
  rcases h.noted (i + 1) other (by simpa using hi) d hd with hmem | hgone | ⟨hzero, -⟩
  · exact hnot hmem
  · obtain ⟨dungeon, hentry⟩ := exists_of_mem hlive
    rw [hgone.2] at hentry
    cases hentry
  · cases hzero

/-- A call that has nothing to do with the finished dungeons. -/
theorem Recorded.FinishedOk.quiet (hg : Good config w) (h : Recorded.FinishedOk ⟨w, ticks⟩)
    (hn : w.tick arithmetic skillCatalog config reading = some w') (hidle : w.place ≠ .idle)
    (hover : ∀ d rest, w.place ≠ .finishDungeon d rest)
    (hnoted : w'.finishedSince = w.finishedSince) (hnow : w'.now = w.now)
    (hbetween : w'.place.between = w.place.between)
    (hunsent : ∀ d, w'.place.Unsent d ↔ w.place.Unsent d)
    (houtdated : ∀ d, w'.place.Outdated d ↔ w.place.Outdated d)
    (hlisted : ∀ d, w'.place.Listed d ↔ w.place.Listed d)
    (hheld : ∀ d, w'.place.held = some d → d ∈ w'.manager.dungeons) :
    Recorded.FinishedOk ⟨w', ticks⟩ := by
  have hm := moves_tick hg hn
  refine ⟨?_, ?_, ?_, hheld, ?_, ?_⟩
  · intro d hd
    rw [houtdated]
    refine (h.keys d (hnoted ▸ hd)).imp_right ?_
    exact IsFinished.tick hg hn hidle (hover d)
  · exact fun d hd => (h.outdated d ((houtdated d).mp hd)).moves hg hm
  · intro i record hrecord d hd
    rw [hnoted, hlisted]
    exact (h.noted i record hrecord d hd).imp_right (Or.imp_left (Gone.moves hg hm))
  · intro hb
    rw [hnoted]
    exact h.between (hbetween ▸ hb)
  · intro hb
    simp only [hnoted, hnow, hunsent, hlisted]
    exact h.during (hbetween ▸ hb)

theorem Recorded.FinishedOk.early (hg : Good config w) (h : Recorded.FinishedOk ⟨w, ticks⟩)
    (hn : w.tick arithmetic skillCatalog config reading = some w') (hbefore : w.place.early = true)
    (hafter : w'.place.early = true) (hnoted : w'.finishedSince = w.finishedSince)
    (hnow : w'.now = w.now) (hheld : ∀ d, w'.place.held = some d → d ∈ w'.manager.dungeons) :
    Recorded.FinishedOk ⟨w', ticks⟩ := by
  obtain ⟨hidle, hover, hbetween, hunsent, houtdated, hlisted⟩ := TickPlace.early_spec hbefore
  obtain ⟨-, -, hbetween', hunsent', houtdated', hlisted'⟩ := TickPlace.early_spec hafter
  exact h.quiet hg hn hidle hover hnoted hnow (hbetween'.trans hbetween.symm)
    (fun d => iff_of_true (hunsent' d) (hunsent d))
    (fun d => iff_of_false (houtdated' d) (houtdated d))
    (fun d => iff_of_false (hlisted' d) (hlisted d)) hheld

theorem mem_foldl_erase {noted : IdMap Int} {released : List DungeonId} :
    d ∈ released.foldl (·.erase ·) noted ↔ d ∉ released ∧ d ∈ noted := by
  constructor
  · intro h
    obtain ⟨since, hsince⟩ := exists_of_mem h
    obtain ⟨hnot, hold⟩ := foldl_erase_eq_some.mp hsince
    exact ⟨hnot, mem_of_entry hold⟩
  · rintro ⟨hnot, h⟩
    obtain ⟨since, hsince⟩ := exists_of_mem h
    exact mem_of_entry (foldl_erase_eq_some.mpr ⟨hnot, hsince⟩)

/-- The sweep releases the dungeons that it takes out. -/
theorem finishedOk_sweep (hg : Good config w) (h : Recorded.FinishedOk ⟨w, ticks⟩)
    (hplace : w.place = .idle) (hn : w.tick arithmetic skillCatalog config reading = some w') :
    Recorded.FinishedOk ⟨w', ticks⟩ := by
  have hm := moves_tick hg hn
  simp only [Service.tick, hplace, Option.map_eq_some_iff] at hn
  obtain ⟨w₁, hthread, hw'⟩ := hn
  have hcall := (thread_history hthread rfl).1
  have hw₁ := (thread_spec hthread).2
  have hmanager : w'.manager = (w.manager.sweepAbandonedParticipants reading.now config.reconnectGrace
      config.maxDungeonLifetime).2 := by
    rw [← hw']
    exact congrArg Manager.History.manager (Option.some.inj hcall).symm
  have hplace' : w'.place = .sweeping (w.manager.sweepAbandonedParticipants reading.now
      config.reconnectGrace config.maxDungeonLifetime).1.releasedDungeons := by rw [← hw', hw₁]
  have hnoted : w'.finishedSince = w.finishedSince := by rw [← hw', hw₁]
  -- what is live before the sweep is released or still live
  have hreleased {d : DungeonId} (hlive : d ∈ w.manager.dungeons) : w'.place.Outdated d ↔
      w'.manager.dungeons[d]? = none := by
    obtain ⟨dungeon, hd⟩ := exists_of_mem hlive
    rw [hplace', hmanager, TickPlace.Outdated]
    by_cases hpos : 0 < config.reconnectGrace ∧ 0 < config.maxDungeonLifetime
    · have hsweep := sweep_effect hpos.1 hpos.2 reading.now w.manager
      rw [hsweep.released, hsweep.dungeons, hd, Option.bind_some]
      constructor
      · rintro ⟨other, hother, hnone⟩
        obtain rfl := Option.some.inj hother
        exact hnone
      · exact fun hnone => ⟨dungeon, rfl, hnone⟩
    · rw [sweep_idle hpos, hd]
      simp
  refine ⟨?_, ?_, ?_, ?_, ?_, ?_⟩
  · intro d hd
    have hfinished : IsFinished w d := h.finished (by rw [hplace]; exact id) (hnoted ▸ hd)
    rcases hfinished.moves hg hm with hstays | ⟨hgone, -⟩
    · exact .inr hstays
    · obtain ⟨dungeon, hlive, -⟩ := hfinished
      exact .inl ((hreleased (mem_of_entry hlive)).mpr hgone.2)
  · intro d hd
    have hlive : d ∈ w.manager.dungeons := by
      simp only [hplace', TickPlace.Outdated] at hd
      by_cases hpos : 0 < config.reconnectGrace ∧ 0 < config.maxDungeonLifetime
      · obtain ⟨dungeon, hlive, -⟩ :=
          ((sweep_effect hpos.1 hpos.2 reading.now w.manager).released d).mp hd
        exact mem_of_entry hlive
      · rw [sweep_idle hpos] at hd
        simp at hd
    exact ⟨hm.issued d (hg.indexed.index.live d hlive), (hreleased hlive).mp hd⟩
  · intro i record hrecord d hd
    rw [hnoted]
    rcases h.known (by rw [hplace]; exact id) hrecord hd with hmem | hgone
    · exact .inl hmem
    · exact .inr (.inl (hgone.moves hg hm))
  · intro d hd
    simp only [hplace', TickPlace.held] at hd
    cases hd
  · intro _
    rw [hnoted]
    exact h.between (by simp only [hplace, TickPlace.between])
  · intro hb
    simp only [hplace', TickPlace.between] at hb
    cases hb

/-- The finished dungeon `d` is broadcast, with its timestamp in `noted`. -/
theorem finishedOk_broadcast (hg : Good config w) (h : Recorded.FinishedOk ⟨w, ticks⟩)
    {rest : List DungeonId} (hplace : w.place = .finished (d :: rest)) (hlive : d ∈ w.manager.dungeons)
    (hthreads : w'.threads = w.threads) (hnow : w'.now = w.now)
    (hnoted : w'.finishedSince = w.finishedSince.insertIfNew d w.now)
    (hplace' : w'.place = .finished rest ∨ w'.place = .finishDungeon d rest) :
    Recorded.FinishedOk ⟨w', ticks.modifyHead (·.send d)⟩ := by
  have hok := hg.place
  rw [PlaceOk, hplace] at hok
  have hnodup := List.nodup_cons.mp hok.1
  have hmanager : w'.manager = w.manager := congrArg (·.history.manager) hthreads
  have hgone (e : DungeonId) : Gone w' e ↔ Gone w e := by
    rw [Gone, Gone, hmanager, hthreads]
  have hunsent (e : DungeonId) : w'.place.Unsent e ↔ e ∈ rest := by
    rcases hplace' with he | he <;> rw [he] <;> rfl
  obtain ⟨record, tail, rfl, hrecord, hfound, hall⟩ :=
    h.during (by simp only [hplace, TickPlace.between])
  simp only [hplace, TickPlace.Unsent, TickPlace.Listed, List.mem_cons] at hfound hall
  have hlisted (e : DungeonId) : w'.place.Listed e ↔ e ∈ rest := by
    rcases hplace' with he | he <;> rw [he] <;> rfl
  have hsent : d ∈ (record.send d).broadcast := List.mem_cons_self
  refine ⟨?_, ?_, ?_, ?_, ?_, ?_⟩
  · intro e he
    rw [hnoted, ExtTreeMap.mem_insertIfNew] at he
    refine .inr ?_
    rw [IsFinished, hmanager]
    rcases he with hsame | hold
    · obtain rfl : d = e := by simpa using hsame
      obtain ⟨dungeon, hentry⟩ := exists_of_mem hlive
      exact ⟨dungeon, hentry, (hok.2 d List.mem_cons_self).2 dungeon hentry⟩
    · exact h.finished (by rw [hplace]; exact id) hold
  · intro e he
    rcases hplace' with hat | hat <;> simp only [hat, TickPlace.Outdated] at he
  · intro i other hother e he
    rw [hgone, hnoted, hlisted, ExtTreeMap.mem_insertIfNew]
    have hold : e ∈ w.finishedSince ∨ Gone w e ∨ i = 0 ∧ w.place.Listed e := by
      cases i with
      | zero =>
        obtain rfl := Option.some.inj hother
        exact h.noted 0 record rfl e he
      | succ i => exact h.noted (i + 1) other hother e he
    rcases hold with hmem | hout | ⟨hzero, hlist⟩
    · exact .inl (.inr hmem)
    · exact .inr (.inl hout)
    · rw [hplace] at hlist
      rcases List.mem_cons.mp hlist with rfl | hrest
      · exact .inl (.inl (by simp))
      · exact .inr (.inr ⟨hzero, hrest⟩)
  · intro e he
    rcases hplace' with hat | hat <;> simp only [hat, TickPlace.held] at he <;> cases he
  · intro hb
    rcases hplace' with hat | hat <;> simp only [hat, TickPlace.between] at hb <;> cases hb
  · intro _
    refine ⟨record.send d, tail, rfl, hrecord.trans hnow.symm, ?_, ?_⟩
    · exact fun e he => hfound e (.inr ((hlisted e).mp he))
    intro e since hsince
    rw [hnoted, ExtTreeMap.getElem?_insertIfNew] at hsince
    simp only [hunsent]
    by_cases he : e = d
    · subst he
      refine ⟨fun _ => ?_, fun hrest => absurd hrest hnodup.1⟩
      split at hsince
      · rename_i hnew
        obtain rfl := Option.some.inj hsince
        rw [← show record.now = w.now from hrecord]
        exact .first (hfound e (.inl rfl)) hsent (h.unfound hnew.2 hlive)
      · rcases (hall e since hsince).2 (.inl rfl) with hbefore | ⟨rfl, hsaw, hnever⟩
        · exact hbefore.cons hsent
        · exact .first hsaw hsent hnever
    · rw [if_neg (by simp [Ne.symm he])] at hsince
      obtain ⟨hdone, htodo⟩ := hall e since hsince
      exact ⟨fun hnot => (hdone (by simp [he, hnot])).modifyHead (·.extends_send d),
        fun hrest => htodo (.inr hrest)⟩

theorem finishedOk_sweeping (hg : Good config w) (h : Recorded.FinishedOk ⟨w, ticks⟩)
    {released : List DungeonId} (hplace : w.place = .sweeping released)
    (hn : w.tick arithmetic skillCatalog config reading = some w') :
    Recorded.FinishedOk ⟨w', w.record ticks (.tick reading)⟩ := by
  simp only [Service.record, hplace]
  have hquiet := h.quiet hg hn (by simp [hplace]) (by simp [hplace])
  simp only [Service.tick, hplace] at hn
  rcases drain_cases hn with rfl | ⟨-, hhistory, he⟩
  · have hold := h.between (by simp only [hplace, TickPlace.between])
    refine ⟨?_, (fun _ hd => by cases hd), ?_, (fun _ hd => by cases hd), ?_, (fun hb => by cases hb)⟩
    · intro d hd
      obtain ⟨hnot, hd⟩ := mem_foldl_erase.mp hd
      exact .inr (h.finished (by rw [hplace]; exact hnot) hd)
    · intro i record hrecord d hd
      rcases h.known (by rw [hplace]; exact id) hrecord hd with hmem | hgone
      · by_cases hout : d ∈ released
        · exact .inr (.inl (h.outdated d (by rw [hplace]; exact hout)))
        · exact .inl (mem_foldl_erase.mpr ⟨hout, hmem⟩)
      · exact .inr (.inl hgone)
    · exact fun _ d since hsince => hold d since (foldl_erase_eq_some.mp hsince).2
  · refine hquiet ?_ ?_ ?_ ?_ ?_ ?_ ?_
    all_goals rw [he]
    · exact fun _ => Iff.rfl
    · exact fun _ => Iff.rfl
    · exact fun _ => Iff.rfl
    · rw [hplace]
      exact fun _ hd => by cases hd

theorem finishedOk_readWaiting (h : Recorded.FinishedOk ⟨w, ticks⟩)
    (hplace : w.place = .readWaiting)
    (hn : w.tick arithmetic skillCatalog config reading = some w') :
    Recorded.FinishedOk ⟨w', w.record ticks (.tick reading)⟩ := by
  simp only [Service.record, hplace]
  simp only [Service.tick, hplace] at hn
  have hw' := (readIds_spec hn).2
  have hold := h.between (by simp only [hplace, TickPlace.between])
  rw [hw']
  refine ⟨?_, (fun _ hd => by cases hd), ?_, (fun _ hd => by cases hd), (fun hb => by cases hb), ?_⟩
  · exact fun d hd => .inr (h.finished (by rw [hplace]; exact id) hd)
  · intro i record hrecord d hd
    cases i with
    | zero =>
      obtain rfl := Option.some.inj hrecord
      cases hd
    | succ i => exact (h.known (by rw [hplace]; exact id) hrecord hd).imp_right .inl
  · exact fun _ => ⟨_, ticks, rfl, rfl, (fun _ hd => by cases hd), fun d since hsince =>
      ⟨fun hsent => absurd trivial hsent, fun _ => .inl (hold d since hsince)⟩⟩

/-- The tick looks at a dungeon that it has processed, and may find it finished. -/
theorem finishedOk_checkState (hg : Good config w) (h : Recorded.FinishedOk ⟨w, ticks⟩)
    {rest : List DungeonId} (hplace : w.place = .checkState d rest)
    (hn : w.tick arithmetic skillCatalog config reading = some w') :
    Recorded.FinishedOk ⟨w', w.record ticks (.tick reading)⟩ := by
  have hquiet := h.quiet hg hn (by simp [hplace]) (by simp [hplace])
  have hlive : d ∈ w.manager.dungeons := h.held d (by rw [hplace]; rfl)
  obtain ⟨dungeon, hd⟩ := exists_of_mem hlive
  have hpointer : w.pointer d = some dungeon := by
    rw [Service.pointer, show w.manager.findDungeon d = some dungeon from hd, Option.some_or]
  simp only [Service.tick, hplace, hpointer, Option.any_some, decide_eq_true_eq] at hn
  obtain rfl := Option.some.inj hn
  simp only [Service.record, hplace, hpointer, Option.any_some, decide_eq_true_eq]
  by_cases hstate : dungeon.state = .finished
  · obtain ⟨record, tail, rfl, hrecord, -, hall⟩ :=
      h.during (by simp only [hplace, TickPlace.between])
    simp only [hstate, if_true]
    refine ⟨?_, (fun _ he => by cases he), ?_, (fun _ he => by cases he), (fun hb => by cases hb), ?_⟩
    · intro e he
      refine .inr ?_
      rcases ExtTreeMap.mem_insertIfNew.mp he with hsame | hold
      · obtain rfl : d = e := by simpa using hsame
        exact ⟨dungeon, hd, hstate⟩
      · exact h.finished (by rw [hplace]; exact id) hold
    · intro i other hother e he
      rw [ExtTreeMap.mem_insertIfNew]
      have hold : d = e ∨ e ∈ w.finishedSince ∨ Gone w e := by
        have hnot : ¬ w.place.Listed e := by
          rw [hplace]
          exact id
        cases i with
        | zero =>
          obtain rfl := Option.some.inj hother
          exact (List.mem_cons.mp he).imp Eq.symm fun he => h.known hnot (i := 0) rfl he
        | succ i => exact .inr (h.known hnot (i := i + 1) hother he)
      rcases hold with rfl | hmem | hgone
      · exact .inl (.inl (by simp))
      · exact .inl (.inr hmem)
      · exact .inr (.inl hgone)
    · refine fun _ => ⟨record.see [d], tail, rfl, hrecord, (fun _ he => by cases he), ?_⟩
      intro e since hsince
      refine ⟨fun hsent => absurd trivial hsent, fun _ => ?_⟩
      rw [ExtTreeMap.getElem?_insertIfNew] at hsince
      split at hsince
      · rename_i hnew
        obtain rfl : d = e := by simpa using hnew.1
        exact .inr ⟨(Option.some.inj hsince).symm.trans hrecord.symm, List.mem_cons_self,
          h.unfound hnew.2 hlive⟩
      · rcases (hall e since hsince).2 (by rw [hplace]; trivial) with hbefore | ⟨hnow, hsaw, hnever⟩
        · exact .inl hbefore
        · exact .inr ⟨hnow, List.mem_cons_of_mem d hsaw, hnever⟩
  · have hafter := hquiet (by simp [hstate]) rfl (by rw [hplace]; rfl)
      (fun _ => by rw [hplace]; exact Iff.rfl) (fun _ => by rw [hplace]; exact Iff.rfl)
      (fun _ => by rw [hplace]; exact Iff.rfl) fun _ he => by cases he
    simp only [hstate, if_false] at hafter ⊢
    exact hafter

theorem finishedOk_readFinished (h : Recorded.FinishedOk ⟨w, ticks⟩)
    (hplace : w.place = .readFinished)
    (hn : w.tick arithmetic skillCatalog config reading = some w') :
    Recorded.FinishedOk ⟨w', w.record ticks (.tick reading)⟩ := by
  simp only [Service.record, hplace]
  simp only [Service.tick, hplace] at hn
  obtain ⟨hperm, rfl⟩ := readIds_spec hn
  obtain ⟨record, tail, rfl, hrecord, -, hall⟩ := h.during (by simp only [hplace, TickPlace.between])
  have hkeys (d : DungeonId) (hd : d ∈ w.finishedSince) : IsFinished w d :=
    h.finished (by rw [hplace]; exact id) hd
  refine ⟨fun d hd => .inr (hkeys d hd), (fun _ hd => by cases hd), ?_,
    (fun _ hd => by cases hd), (fun hb => by cases hb), fun _ => ?_⟩
  · intro i other hother d hd
    have hnot : ¬ w.place.Listed d := by
      rw [hplace]
      exact id
    cases i with
    | zero =>
      obtain rfl := Option.some.inj hother
      rcases List.mem_append.mp hd with hread | hd
      · exact .inr (.inr ⟨rfl, hread⟩)
      · exact (h.known hnot (i := 0) rfl hd).imp_right .inl
    | succ i => exact (h.known hnot (i := i + 1) hother hd).imp_right .inl
  · refine ⟨record.see reading.dungeons, tail, rfl, hrecord,
      fun d hd => List.mem_append_left record.finished hd, fun d since hsince => ?_⟩
    refine ⟨fun hsent => absurd ?_ hsent, fun _ => ?_⟩
    · exact (mem_of_ids hperm).mpr (hkeys d (mem_of_entry hsince))
    · rcases (hall d since hsince).2 (by rw [hplace]; trivial) with hbefore | ⟨hnow, hsaw, hnever⟩
      · exact .inl hbefore
      · exact .inr ⟨hnow, List.mem_append_right reading.dungeons hsaw, hnever⟩

/-- The next dungeon of the list of finished ones. -/
theorem finishedOk_finished (hg : Good config w) (h : Recorded.FinishedOk ⟨w, ticks⟩)
    {rest : List DungeonId} (hplace : w.place = .finished rest)
    (hn : w.tick arithmetic skillCatalog config reading = some w') :
    Recorded.FinishedOk ⟨w', w.record ticks (.tick reading)⟩ := by
  have hkeys (d : DungeonId) (hd : d ∈ w.finishedSince) : IsFinished w d :=
    h.finished (by rw [hplace]; exact id) hd
  simp only [Service.record, hplace]
  cases rest with
  | nil =>
    simp only [Service.tick, hplace] at hn
    obtain rfl := Option.some.inj hn
    obtain ⟨record, tail, rfl, hrecord, -, hall⟩ :=
      h.during (by simp only [hplace, TickPlace.between])
    refine ⟨fun d hd => .inr (hkeys d hd), (fun _ hd => by cases hd), ?_,
      (fun _ hd => by cases hd), fun _ d since hsince => ?_, (fun hb => by cases hb)⟩
    · intro i other hother d hd
      exact (h.known (by rw [hplace]; exact List.not_mem_nil) hother hd).imp_right .inl
    · refine (hall d since hsince).1 ?_
      rw [hplace]
      exact List.not_mem_nil
  | cons d rest =>
    simp only [Service.tick, hplace] at hn
    split at hn
    · rename_i hnone
      obtain rfl := Option.some.inj hn
      simp only [hnone, Option.isSome_none, Bool.false_eq_true, if_false]
      have hnot : d ∉ w.finishedSince := by
        intro hmem
        obtain ⟨dungeon, hd, -⟩ := hkeys d hmem
        rw [show w.manager.findDungeon d = some dungeon from hd] at hnone
        cases hnone
      obtain ⟨record, tail, rfl, hrecord, hfound, hall⟩ :=
        h.during (by simp only [hplace, TickPlace.between])
      simp only [hplace, TickPlace.Unsent, TickPlace.Listed, List.mem_cons] at hfound hall
      refine ⟨?_, (fun _ he => by cases he), ?_, (fun _ he => by cases he), (fun hb => by cases hb), ?_⟩
      · exact fun e he => .inr (hkeys e (ExtTreeMap.mem_of_mem_erase he))
      · intro i other hother e he
        rcases h.noted i other hother e he with hmem | hgone | ⟨hzero, hlisted⟩
        · refine .inl (ExtTreeMap.mem_erase.mpr ⟨?_, hmem⟩)
          simp only [ne_eq, Nat.compare_eq_eq]
          rintro rfl
          exact hnot hmem
        · exact .inr (.inl hgone)
        · rw [hplace] at hlisted
          rcases List.mem_cons.mp hlisted with rfl | hrest
          · -- a listed dungeon that the manager no longer has is gone
            have hok := hg.place
            rw [PlaceOk, hplace] at hok
            exact .inr (.inl ⟨(hok.2 e List.mem_cons_self).1, hnone⟩)
          · exact .inr (.inr ⟨hzero, hrest⟩)
      · refine fun _ => ⟨record, tail, rfl, hrecord, fun e he => hfound e (.inr he), ?_⟩
        intro e since hsince
        rw [ExtTreeMap.getElem?_erase] at hsince
        split at hsince
        · cases hsince
        · rename_i hne
          have hne : e ≠ d := fun he => hne (by simp [he])
          obtain ⟨hdone, htodo⟩ := hall e since hsince
          exact ⟨fun hsent => hdone (not_or.mpr ⟨hne, hsent⟩), fun hrest => htodo (.inr hrest)⟩
    · rename_i dungeon hd
      have hlive : d ∈ w.manager.dungeons := mem_of_entry hd
      simp only [hd, Option.isSome_some, if_true]
      split at hn
      all_goals
        obtain rfl := Option.some.inj hn
        refine finishedOk_broadcast hg h hplace hlive rfl rfl rfl ?_
      · exact .inr rfl
      · exact .inl rfl

/-- The dungeon has been broadcast long enough and is taken out. -/
theorem finishedOk_finishDungeon (hg : Good config w) (h : Recorded.FinishedOk ⟨w, ticks⟩)
    {rest : List DungeonId} (hplace : w.place = .finishDungeon d rest)
    (hn : w.tick arithmetic skillCatalog config reading = some w') :
    Recorded.FinishedOk ⟨w', w.record ticks (.tick reading)⟩ := by
  have hm := moves_tick hg hn
  simp only [Service.record, hplace]
  have hok := hg.place
  rw [PlaceOk, hplace] at hok
  obtain ⟨hbatch, since, hsince, -⟩ := hok
  have hfinished : IsFinished w d := h.finished (by rw [hplace]; exact id) (mem_of_entry hsince)
  have hgone : Gone w' d := by
    refine ⟨hm.issued d (hbatch.2 d List.mem_cons_self).1, ?_⟩
    simp only [Service.tick, hplace] at hn
    have hcall := (thread_history hn rfl).1
    have hmanager : w'.manager = (w.manager.finishDungeon d).2 :=
      congrArg Manager.History.manager (Option.some.inj hcall).symm
    obtain ⟨dungeon, hd, hstate⟩ := hfinished
    rw [hmanager, finish_eq hd, if_neg (by rw [hstate]; simp)]
    exact ExtTreeMap.getElem?_erase_self
  have hothers (e : DungeonId) (hne : e ≠ d) (hmem : e ∈ w.finishedSince) : IsFinished w' e := by
    have hold : IsFinished w e := h.finished (by rw [hplace]; exact id) hmem
    refine hold.tick hg hn (by simp [hplace]) fun others he => ?_
    rw [hplace] at he
    cases he
    exact hne rfl
  simp only [Service.tick, hplace] at hn
  have hw' := (thread_spec hn).2
  have hnoted : w'.finishedSince = w.finishedSince := by rw [hw']
  have hplace' : w'.place = .released d rest := by rw [hw']
  obtain ⟨record, tail, rfl, hrecord, hfound, hall⟩ :=
    h.during (by simp only [hplace, TickPlace.between])
  refine ⟨?_, ?_, ?_, ?_, ?_, ?_⟩
  · intro e he
    rw [hplace']
    by_cases hsame : e = d
    · exact .inl hsame
    · exact .inr (hothers e hsame (hnoted ▸ he))
  · intro e he
    rw [hplace'] at he
    obtain rfl : e = d := he
    exact hgone
  · intro i other hother e he
    rw [hnoted, hplace']
    have hold := h.noted i other hother e he
    rw [hplace] at hold
    exact hold.imp_right (Or.imp_left (Gone.moves hg hm))
  · intro e he
    rw [hplace'] at he
    cases he
  · intro hb
    rw [hplace'] at hb
    cases hb
  · refine fun _ => ⟨record, tail, rfl, hrecord.trans (by rw [hw']), ?_⟩
    simp only [hnoted, hplace']
    simp only [hplace] at hfound hall
    exact ⟨hfound, hall⟩

theorem finishedOk_released (hg : Good config w) (h : Recorded.FinishedOk ⟨w, ticks⟩)
    {rest : List DungeonId} (hplace : w.place = .released d rest)
    (hn : w.tick arithmetic skillCatalog config reading = some w') :
    Recorded.FinishedOk ⟨w', w.record ticks (.tick reading)⟩ := by
  simp only [Service.record, hplace]
  have hquiet := h.quiet hg hn (by simp [hplace]) (by simp [hplace])
  simp only [Service.tick, hplace] at hn
  rcases drain_cases hn with rfl | ⟨-, hhistory, he⟩
  · have hgone := h.outdated d (by rw [hplace]; rfl)
    obtain ⟨record, tail, rfl, hrecord, hfound, hall⟩ :=
      h.during (by simp only [hplace, TickPlace.between])
    simp only [hplace, TickPlace.Unsent, TickPlace.Listed] at hfound hall
    have hold {e : DungeonId} (he : e ∈ w.finishedSince.erase d) : e ≠ d ∧ e ∈ w.finishedSince := by
      rw [ExtTreeMap.mem_erase, ne_eq, Nat.compare_eq_eq] at he
      exact ⟨Ne.symm he.1, he.2⟩
    refine ⟨?_, (fun _ he => by cases he), ?_, (fun _ he => by cases he), (fun hb => by cases hb), ?_⟩
    · intro e he
      obtain ⟨hne, hmem⟩ := hold he
      exact .inr (h.finished (by rw [hplace]; exact hne) hmem)
    · intro i other hother e he
      by_cases hsame : e = d
      · exact .inr (.inl (hsame ▸ hgone))
      · have hold := h.noted i other hother e he
        rw [hplace] at hold
        refine hold.imp_left fun hmem => ?_
        exact ExtTreeMap.mem_erase.mpr ⟨by simpa using Ne.symm hsame, hmem⟩
    · refine fun _ => ⟨record, tail, rfl, hrecord, hfound, fun e since hsince => ?_⟩
      rw [ExtTreeMap.getElem?_erase] at hsince
      split at hsince
      · cases hsince
      · exact hall e since hsince
  · refine hquiet ?_ ?_ ?_ ?_ ?_ ?_ ?_
    all_goals rw [he]
    · exact fun _ => Iff.rfl
    · exact fun _ => Iff.rfl
    · exact fun _ => Iff.rfl
    · rw [hplace]
      exact fun _ hd => by cases hd

theorem finishedOk_tick (hg : Good config w) (h : Recorded.FinishedOk ⟨w, ticks⟩)
    (hn : w.tick arithmetic skillCatalog config reading = some w') :
    Recorded.FinishedOk ⟨w', w.record ticks (.tick reading)⟩ := by
  cases hplace : w.place with
  | idle =>
    simp only [Service.record, hplace]
    exact finishedOk_sweep hg h hplace hn
  | sweeping released => exact finishedOk_sweeping hg h hplace hn
  | readWaiting => exact finishedOk_readWaiting h hplace hn
  | checkState d rest => exact finishedOk_checkState hg h hplace hn
  | readFinished => exact finishedOk_readFinished h hplace hn
  | finished rest => exact finishedOk_finished hg h hplace hn
  | finishDungeon d rest => exact finishedOk_finishDungeon hg h hplace hn
  | released d rest => exact finishedOk_released hg h hplace hn
  | waiting ids rest | running rest =>
    simp only [Service.record, hplace]
    have hearly := h.early hg hn (by rw [hplace]; rfl)
    cases rest <;> simp only [Service.tick, hplace] at hn
    all_goals
      obtain rfl := Option.some.inj hn
      exact hearly rfl rfl rfl fun _ hd => by cases hd
  | readRunning =>
    simp only [Service.record, hplace]
    have hearly := h.early hg hn (by rw [hplace]; rfl)
    simp only [Service.tick, hplace] at hn
    have hw' := (readIds_spec hn).2
    rw [hw'] at hearly ⊢
    exact hearly rfl rfl rfl fun _ hd => by cases hd
  | start ids d rest =>
    simp only [Service.record, hplace]
    have hearly := h.early hg hn (by rw [hplace]; rfl)
    simp only [Service.tick, hplace, Option.map_eq_some_iff] at hn
    obtain ⟨w₁, hthread, hw'⟩ := hn
    have hw₁ := (thread_spec hthread).2
    split at hw' <;> rw [← hw', hw₁] at hearly ⊢
    · exact hearly rfl rfl rfl fun _ hd => by cases hd
    · exact hearly rfl rfl rfl fun _ hd => by cases hd
  | cancel ids d rest =>
    simp only [Service.record, hplace]
    have hearly := h.early hg hn (by rw [hplace]; rfl)
    simp only [Service.tick, hplace] at hn
    have hw' := (thread_spec hn).2
    rw [hw'] at hearly ⊢
    exact hearly rfl rfl rfl fun _ hd => by cases hd
  | cancelled ids d rest =>
    simp only [Service.record, hplace]
    have hearly := h.early hg hn (by rw [hplace]; rfl)
    simp only [Service.tick, hplace] at hn
    rcases drain_cases hn with rfl | ⟨-, -, he⟩
    · exact hearly rfl rfl rfl fun _ hd => by cases hd
    · rw [he] at hearly ⊢
      exact hearly (by rw [hplace]; rfl) rfl rfl (by rw [hplace]; exact fun _ hd => by cases hd)
  | processing d rest =>
    simp only [Service.record, hplace]
    have hearly := h.early hg hn (by rw [hplace]; rfl)
    simp only [Service.tick, hplace] at hn
    have hgoes := process_place hg.processing hplace hn
    obtain rfl := Option.some.inj hn
    rcases hgoes with ⟨hat, -⟩ | ⟨hat, -⟩
    all_goals
      refine hearly (by rw [hat]; rfl) rfl rfl ?_
      rw [hat]
      exact fun _ hd => by cases hd
  | readPlayers d rest =>
    simp only [Service.record, hplace]
    have hearly := h.early hg hn (by rw [hplace]; rfl)
    simp only [Service.tick, hplace] at hn
    split at hn
    · obtain rfl := Option.some.inj hn
      exact hearly rfl rfl rfl fun _ hd => by cases hd
    rename_i dungeon hd
    have hlive : d ∈ w.manager.dungeons := mem_of_entry hd
    repeat' split at hn
    all_goals
      cases hn
      try exact hearly rfl rfl rfl fun e he => by cases he; exact hlive
  | checkRooms d rest rooms =>
    simp only [Service.record, hplace]
    have hearly := h.early hg hn (by rw [hplace]; rfl)
    have hlive : d ∈ w.manager.dungeons := h.held d (by rw [hplace]; rfl)
    cases rooms <;> simp only [Service.tick, hplace] at hn
    all_goals
      repeat' split at hn
      all_goals
        obtain rfl := Option.some.inj hn
        exact hearly rfl rfl rfl fun e he => by cases he; exact hlive
  | finish d rest =>
    simp only [Service.record, hplace]
    have hearly := h.early hg hn (by rw [hplace]; rfl)
    obtain ⟨dungeon, hd⟩ := exists_of_mem (h.held d (by rw [hplace]; rfl))
    simp only [Service.tick, hplace] at hn
    obtain rfl := Option.some.inj hn
    refine hearly rfl rfl rfl fun e he => ?_
    cases he
    exact mem_of_entry (mem_modifyDungeon hd (·.finish.2))
  | checkDisconnected | checkAuthenticated | refresh | waves =>
    simp only [Service.record, hplace]
    have hearly := h.early hg hn (by rw [hplace]; rfl)
    simp only [Service.tick, hplace] at hn
    repeat' split at hn
    all_goals
      obtain rfl := Option.some.inj hn
      exact hearly rfl rfl rfl fun _ hd => by cases hd

/-! ## Between two ticks -/

/-- Other threads leave the timestamps alone, short of a shutdown. -/
theorem noted_of_next (hn : w.next arithmetic skillCatalog config parse step = some w')
    (hstep : ∀ reading, step ≠ .tick reading) (hstop : step ≠ .stopTick) :
    w'.waitingSince = w.waitingSince ∧ w'.finishedSince = w.finishedSince := by
  cases step with
  | tick reading => exact absurd rfl (hstep reading)
  | stopTick => exact absurd rfl hstop
  | createDungeon s parties partyId templateId now =>
    rw [(thread_spec hn).2]
    exact ⟨rfl, rfl⟩
  | request step =>
    simp only [Service.next] at hn
    split at hn
    · rw [(thread_spec hn).2]
      exact ⟨rfl, rfl⟩
    · cases hn
  | receive serverTick d datagram | addContent op | stopUdp =>
    obtain rfl := Option.some.inj hn
    exact ⟨rfl, rfl⟩
  | stopManager =>
    simp only [Service.next, Option.map_eq_some_iff] at hn
    obtain ⟨threads, -, rfl⟩ := hn
    exact ⟨rfl, rfl⟩

theorem waitingOk_other (h : Recorded.WaitingOk ⟨w, ticks⟩) (hidle : w.place = .idle)
    (hidle' : w'.place = .idle) (hnoted : w'.waitingSince = w.waitingSince) :
    Recorded.WaitingOk ⟨w', ticks⟩ := by
  simp only [Recorded.WaitingOk, hidle] at h
  simp only [Recorded.WaitingOk, hidle', hnoted]
  exact h

theorem finishedOk_other (hg : Good config w) (h : Recorded.FinishedOk ⟨w, ticks⟩)
    (hm : Moves skillCatalog config w w' step) (hstep : ∀ reading, step ≠ .tick reading)
    (hstop : step ≠ .stopManager) (hidle : w.place = .idle) (hidle' : w'.place = .idle)
    (hnoted : w'.finishedSince = w.finishedSince) : Recorded.FinishedOk ⟨w', ticks⟩ := by
  refine ⟨?_, ?_, ?_, ?_, ?_, ?_⟩
  · intro d hd
    rcases h.keys d (hnoted ▸ hd) with hout | hfinished
    · rw [hidle] at hout
      cases hout
    · rcases hfinished.moves hg hm with hstays | ⟨-, dungeon, hstate, hwhy⟩
      · exact .inr hstays
      · cases hwhy with
        | readyTimeout | swept | broadcastOver => exact absurd rfl (hstep _)
        | allocationFailed _ hother =>
          rw [hstate] at hother
          cases hother
        | stopped => exact absurd rfl hstop
  · intro d hd
    rw [hidle'] at hd
    cases hd
  · intro i record hrecord d hd
    rw [hnoted, hidle']
    have hold := h.noted i record hrecord d hd
    rw [hidle] at hold
    exact hold.imp_right (Or.imp_left (Gone.moves hg hm))
  · intro d hd
    rw [hidle'] at hd
    cases hd
  · intro _
    rw [hnoted]
    exact h.between (by rw [hidle]; rfl)
  · intro hb
    rw [hidle'] at hb
    cases hb

/-! ## Runs -/

/-- What holds after every step of an undisturbed run. -/
structure Kept (config : TickConfig) (w : Recorded) : Prop where
  good : Good config w.service
  bookkept : AllSessions Bookkept w.service.threads.udp
  waiting : w.WaitingOk
  finished : w.FinishedOk

theorem kept_start : Kept config {} where
  good := good_start
  bookkept := fun d session hs => by simp at hs
  waiting := fun d since hsince => by simp at hsince
  finished := by
    refine ⟨fun d hd => ?_, (fun d hd => by cases hd), (fun i record hrecord => by simp at hrecord),
      (fun d hd => by cases hd), fun _ d since hsince => ?_, (fun hb => by cases hb)⟩
    · simp at hd
    · simp at hsince

theorem kept_next {v v' : Recorded} (h : Kept config v) (hquiet : Undisturbed v step)
    (hn : v.next arithmetic skillCatalog config parse step = some v') : Kept config v' := by
  simp only [Recorded.next, Option.map_eq_some_iff] at hn
  obtain ⟨w', hnext, rfl⟩ := hn
  obtain ⟨w, ticks⟩ := v
  have hgood := good_next h.good hnext
  have hbookkept := sessions_next persistent_bookkept h.bookkept hnext
  by_cases hstep : ∃ reading, step = .tick reading
  · obtain ⟨reading, rfl⟩ := hstep
    exact ⟨hgood, hbookkept, waitingOk_tick h.good h.waiting hnext,
      finishedOk_tick h.good h.finished hnext⟩
  · have hother : ∀ reading, step ≠ .tick reading := fun reading he => hstep ⟨reading, he⟩
    have hrecord : w.record ticks step = ticks := by
      cases step with
      | tick reading => exact absurd rfl (hother reading)
      | _ => rfl
    have hstops : step ≠ .stopTick ∧ step ≠ .stopManager := by
      constructor
      all_goals
        rintro rfl
        exact hquiet
    have hidle : w.place = .idle := by
      cases step with
      | tick reading => exact absurd rfl (hother reading)
      | stopTick | stopManager => exact hquiet.elim
      | _ => exact hquiet
    have hidle' : w'.place = .idle := (frame_of_next hnext hother).1.trans hidle
    obtain ⟨hwaiting, hfinished⟩ := noted_of_next hnext hother hstops.1
    rw [hrecord]
    exact ⟨hgood, hbookkept, waitingOk_other h.waiting hidle hidle' hwaiting,
      finishedOk_other h.good h.finished (moves_of_next h.good hnext) hother hstops.2 hidle hidle'
        hfinished⟩

end

/-! ## What a call of the tick has waited for -/

/-- What holds of a call of the tick. The sweep is its first call, at the place `idle`. -/
structure Punctual (config : TickConfig) (w w' : Recorded) : Prop where
  waitingKeys : w.service.place = .finished [] → ∀ d ∈ w'.service.waitingSince, IsWaiting w'.service d
  finishedKeys : w.service.place = .finished [] → ∀ d ∈ w'.service.finishedSince, IsFinished w'.service d
  /-- A waiting dungeon is cancelled when a tick that is earlier by the timeout and all since then have
  found it unready. -/
  cancels : w.service.place ≠ .idle → ∀ d, IsWaiting w.service d →
    w'.service.manager.dungeons[d]? = none → ∃ current newer first older,
      w.ticks = current :: (newer ++ first :: older) ∧ config.readyTimeout ≤ current.now - first.now ∧
      Unready d current ∧ ∀ record ∈ first :: newer, Unready d record
  starts : ∀ (d : DungeonId) (dungeon dungeon' : DungeonInstance),
    w.service.manager.dungeons[d]? = some dungeon → dungeon.state = .waiting →
    w'.service.manager.dungeons[d]? = some dungeon' → dungeon'.state ≠ .waiting →
      dungeon.hasDisconnectedParticipants = false ∧ ∃ session,
        w.service.threads.udp.sessions[d]? = some session ∧ ∀ s ∈ session.tokens, s ∈ session.endpoints
  /-- A finished dungeon is released a second after the tick that was the first to find it finished, and
  every tick since then has broadcast it. -/
  releases : w.service.place ≠ .idle → ∀ d, IsFinished w.service d →
    w'.service.manager.dungeons[d]? = none → ∃ current newer first older,
      w.ticks = current :: (newer ++ first :: older) ∧
      finishedBroadcastDuration ≤ current.now - first.now ∧ d ∈ first.finished ∧
      (∀ record ∈ older, d ∉ record.finished) ∧ ∀ record ∈ current :: first :: newer,
        d ∈ record.broadcast

section

variable {arithmetic : Arithmetic} {skillCatalog : SkillCatalog} {config : TickConfig} {parse : Parse}
  {w w' : Service} {d : DungeonId} {reading : TickReading} {ticks : List TickRecord}
  {dungeon dungeon' : DungeonInstance}

/-- A waiting dungeon leaves this state in one call, or is taken out. -/
theorem start_of_tick (hg : Good config w)
    (hn : w.tick arithmetic skillCatalog config reading = some w')
    (hd : w.manager.dungeons[d]? = some dungeon) (hstate : dungeon.state = .waiting)
    (hd' : w'.manager.dungeons[d]? = some dungeon') (hstate' : dungeon'.state ≠ .waiting) :
    ∃ ids rest, w.place = .start ids d rest := by
  have hok := hg.place
  rw [PlaceOk] at hok
  have hclash {P : DungeonInstance → Prop} {e : DungeonId} (he : e = d)
      (hheld : Holds P w.threads.history e) (hP : P dungeon → dungeon.state ≠ .waiting) : False :=
    hP (hheld.2 dungeon (he ▸ hd)) hstate
  have hrunning (hrun : dungeon.state = .running) : dungeon.state ≠ .waiting := by
    rw [hrun]
    simp
  by_cases hidle : w.place = .idle
  · simp only [Service.tick, hidle, Option.map_eq_some_iff] at hn
    obtain ⟨w₁, hthread, rfl⟩ := hn
    have hcall := (thread_history hthread rfl).1
    have hmanager : w₁.manager = (w.manager.sweepAbandonedParticipants reading.now
        config.reconnectGrace config.maxDungeonLifetime).2 :=
      congrArg Manager.History.manager (Option.some.inj hcall).symm
    change w₁.manager.dungeons[d]? = some dungeon' at hd'
    rw [hmanager] at hd'
    by_cases hpos : 0 < config.reconnectGrace ∧ 0 < config.maxDungeonLifetime
    · rw [(sweep_effect hpos.1 hpos.2 reading.now w.manager).dungeons, hd, Option.bind_some] at hd'
      have hswept := (swept_some hpos.1 (hg.indexed.index.consistent d dungeon hd) hd').1
      rw [hswept, (descends_without _ dungeon).state] at hstate'
      exact absurd hstate hstate'
    · rw [sweep_idle hpos, hd] at hd'
      obtain rfl := Option.some.inj hd'
      exact absurd hstate hstate'
  by_cases hsubject : w.place.subject = some d
  · cases hplace : w.place with
    | start ids e rest =>
      rw [hplace] at hsubject
      obtain rfl : e = d := Option.some.inj hsubject
      exact ⟨ids, rest, rfl⟩
    | cancel ids e rest =>
      rw [hplace] at hsubject
      obtain rfl : e = d := Option.some.inj hsubject
      simp only [Service.tick, hplace] at hn
      have hcall := (thread_history hn rfl).1
      have hmanager : w'.manager = (w.manager.cancelDungeon e).2 :=
        congrArg Manager.History.manager (Option.some.inj hcall).symm
      rw [hmanager] at hd'
      rcases cancel_cases w.manager e with hc | ⟨other, -, -, hc⟩ <;> rw [hc] at hd'
      · obtain rfl := Option.some.inj (hd.symm.trans hd')
        exact absurd hstate hstate'
      · rw [show (w.manager.removeDungeon e other).dungeons[e]? = none from
          ExtTreeMap.getElem?_erase_self] at hd'
        cases hd'
    | processing e rest | waves e rest =>
      rw [hplace] at hok hsubject
      exact (hclash (Option.some.inj hsubject) (hok.2 e List.mem_cons_self) hrunning).elim
    | finish e rest =>
      rw [hplace] at hok hsubject
      exact (hclash (Option.some.inj hsubject) (hok.1.2 e List.mem_cons_self) hrunning).elim
    | finishDungeon e rest =>
      rw [hplace] at hok hsubject
      refine (hclash (Option.some.inj hsubject) (hok.1.2 e List.mem_cons_self) ?_).elim
      intro hfinished
      rw [show dungeon.state = .finished from hfinished]
      simp
    | _ =>
      rw [hplace] at hsubject
      cases hsubject
  · rw [dungeons_of_tick hg hn hidle hsubject, hd] at hd'
    obtain rfl := Option.some.inj hd'
    exact absurd hstate hstate'

theorem punctual_of_kept {v v' : Recorded} (h : Kept config v)
    (hn : v.next arithmetic skillCatalog config parse (.tick reading) = some v') :
    Punctual config v v' := by
  simp only [Recorded.next, Option.map_eq_some_iff] at hn
  obtain ⟨w', hnext, rfl⟩ := hn
  obtain ⟨w, ticks⟩ := v
  have hg : Good config w := h.good
  have hwaiting : Recorded.WaitingOk ⟨w, ticks⟩ := h.waiting
  have hfinished : Recorded.FinishedOk ⟨w, ticks⟩ := h.finished
  have hm := moves_of_next hg hnext
  have htick : w.tick arithmetic skillCatalog config reading = some w' := hnext
  refine ⟨?_, ?_, ?_, ?_, ?_⟩
  · intro hplace d hd
    have hplace : w.place = .finished [] := hplace
    simp only [Recorded.WaitingOk, hplace] at hwaiting
    simp only [Service.tick, hplace] at htick
    obtain rfl := Option.some.inj htick
    obtain ⟨since, hsince⟩ := exists_of_mem hd
    exact (hwaiting d since hsince).2
  · intro hplace d hd
    have hplace : w.place = .finished [] := hplace
    simp only [Service.tick, hplace] at htick
    obtain rfl := Option.some.inj htick
    rcases hfinished.keys d hd with hout | hkey
    · rw [hplace] at hout
      cases hout
    · exact hkey
  · rintro hidle d ⟨dungeon, hd, hstate⟩ hgone
    cases removal_of_effect hm.effect hd hgone with
    | swept hplace => exact absurd hplace hidle
    | broadcastOver _ hother =>
      rw [hstate] at hother
      cases hother
    | @readyTimeout _ ids rest since hplace _ hsince htime =>
      simp only [Recorded.WaitingOk, hplace] at hwaiting
      obtain ⟨current, tail, rfl, hloop, hattended, hauth⟩ := hwaiting
      obtain ⟨newer, first, older, rfl, rfl, hall⟩ := hloop.ahead d List.mem_cons_self since hsince
      refine ⟨current, newer, first, older, rfl, ?_, hloop.unready hattended hauth, hall⟩
      rw [hloop.now]
      exact htime
  · intro d dungeon dungeon' hd hstate hd' hstate'
    obtain ⟨ids, rest, hplace⟩ := start_of_tick hg htick hd hstate hd' hstate'
    simp only [Recorded.WaitingOk, hplace] at hwaiting
    obtain ⟨-, -, -, -, ⟨other, hother, hattended⟩, hauth⟩ := hwaiting
    obtain rfl := Option.some.inj (hd.symm.trans hother)
    refine ⟨hattended, ?_⟩
    simp only [DungeonUdpManager.allParticipantsAuthenticated, Option.any_eq_true] at hauth
    obtain ⟨session, hs, hall⟩ := hauth
    have hbook : Bookkept session := h.bookkept d session hs
    exact ⟨session, hs, hbook.allParticipantsAuthenticated_iff.mp hall⟩
  · rintro hidle d ⟨dungeon, hd, hstate⟩ hgone
    cases removal_of_effect hm.effect hd hgone with
    | swept hplace => exact absurd hplace hidle
    | readyTimeout _ hother =>
      rw [hstate] at hother
      cases hother
    | @broadcastOver _ rest since hplace _ hsince htime =>
      have hok := hg.place
      rw [PlaceOk, hplace] at hok
      have hsent : ¬ w.place.Unsent d := by
        rw [hplace]
        exact (List.nodup_cons.mp hok.1.1).1
      obtain ⟨current, tail, hticks, hnow, -, hall⟩ := hfinished.during (by rw [hplace]; rfl)
      obtain rfl : ticks = current :: tail := hticks
      obtain ⟨newer, first, older, hsplit, rfl, hsaw, hbroadcast, hnever⟩ :=
        (hall d since hsince).1 hsent
      have htime : finishedBroadcastDuration ≤ current.now - first.now := by
        rw [show current.now = w.now from hnow]
        exact htime
      cases newer with
      | nil =>
        -- the first tick to find the dungeon finished is not the tick that releases it
        obtain ⟨rfl, rfl⟩ := List.cons.inj hsplit
        rw [Int.sub_self] at htime
        exact absurd htime (by decide)
      | cons record newer =>
        obtain ⟨rfl, rfl⟩ := List.cons.inj hsplit
        refine ⟨current, newer, first, older, rfl, htime, hsaw, hnever, ?_⟩
        intro record hrecord
        refine hbroadcast record ?_
        simp only [List.mem_cons] at hrecord ⊢
        tauto

/-- With every operation between two ticks, each call of a tick is punctual. -/
theorem punctual_of_run {steps : List ServiceStep} {v v' : Recorded}
    (hm : Meets (Recorded.next arithmetic skillCatalog config parse) Undisturbed {} steps)
    (hr : run (Recorded.next arithmetic skillCatalog config parse) {} steps = some v)
    (hn : v.next arithmetic skillCatalog config parse (.tick reading) = some v') :
    Punctual config v v' :=
  punctual_of_kept (run_invariant (Kept config) (fun _ _ _ h hok hn => kept_next h hok hn)
    kept_start hm hr) hn

end

/-- The hall is finished, broadcast in this tick and in the next one, which comes two seconds later and
is about to release it. -/
def hallReleased : List ServiceStep :=
  let last : List TickReading := [{}, {}, {}, { dungeons := [1] }, {}, {}]
  let next : List TickReading := [{ now := 2000000000 }, {}, {}, {}, {}, {}, { dungeons := [1] }, {}]
  hallSteps ++ (last ++ next).map .tick

def patientNext : Recorded → ServiceStep → Option Recorded :=
  Recorded.next hallArithmetic {} { hallConfig with maxDungeonLifetime := 10000000000 } hallHello

theorem punctual_of_run_hallReleased :
    ∃ v v', run patientNext {} hallReleased = some v ∧ patientNext v (.tick {}) = some v' ∧
      v.service.place = .finishDungeon 1 [] ∧ v'.service.manager.dungeons[1]? = none ∧
      Punctual { hallConfig with maxDungeonLifetime := 10000000000 } v v' := by
  have hm : Meets patientNext Undisturbed {} hallReleased := by decide +kernel
  have hrun : (run patientNext {} hallReleased).map (·.service.place) = some (.finishDungeon 1 []) := by
    decide +kernel
  have hgone : ((run patientNext {} (hallReleased ++ [.tick {}])).map fun v' =>
      (v'.service.manager.dungeons[1]?).isNone) = some true := by decide +kernel
  obtain ⟨v, hr, hplace⟩ := Option.map_eq_some_iff.mp hrun
  obtain ⟨v', hr', hnone⟩ := Option.map_eq_some_iff.mp hgone
  obtain ⟨u, hu, hlast⟩ := run_append.mp hr'
  obtain rfl := Option.some.inj (hr.symm.trans hu)
  obtain ⟨last, hn, hnil⟩ := run_cons.mp hlast
  obtain rfl := Option.some.inj hnil
  exact ⟨v, last, hr, hn, hplace, Option.isNone_iff_eq_none.mp hnone, punctual_of_run hm hr hn⟩

end DnfServer.Tick
