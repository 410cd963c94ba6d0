import DnfServer.Tick.Lifecycle
import DnfServer.Tick.Sessions

/-!
# A record of the ticks

With every operation between two ticks, a tick sees the managers as its sweep leaves them. The record
keeps what each tick has seen, which dungeons it has found finished and, apart from that, which of them
it has broadcast. A call of the tick writes one dungeon at a time.
-/

namespace DnfServer.Tick

open Std DnfServer.Library DnfServer.Participants DnfServer.Manager DnfServer.Dungeons DnfServer.Udp
set_option autoImplicit false

/-- What one tick sees after its sweep, the dungeons that it finds finished, and the finished ones that
it broadcasts. -/
structure TickRecord where
  now : Int
  manager : DungeonManager
  udp : DungeonUdpManager
  finished : List DungeonId := []
  broadcast : List DungeonId := []

namespace TickRecord

def see (record : TickRecord) (ids : List DungeonId) : TickRecord :=
  { record with finished := ids ++ record.finished }

def send (record : TickRecord) (d : DungeonId) : TickRecord :=
  { record with broadcast := d :: record.broadcast }

/-- More was seen and sent in the same tick. -/
structure Extends (record record' : TickRecord) : Prop where
  now : record'.now = record.now
  manager : record'.manager = record.manager
  udp : record'.udp = record.udp
  finished : record.finished ⊆ record'.finished
  broadcast : record.broadcast ⊆ record'.broadcast

theorem extends_see (record : TickRecord) (ids : List DungeonId) : record.Extends (record.see ids) :=
  ⟨rfl, rfl, rfl, fun _ hd => List.mem_append_right ids hd, fun _ hd => hd⟩

theorem extends_send (record : TickRecord) (d : DungeonId) : record.Extends (record.send d) :=
  ⟨rfl, rfl, rfl, fun _ hd => hd, fun _ hd => List.mem_cons_of_mem d hd⟩

end TickRecord

/-- The service with a record of its ticks, the last one first. -/
structure Recorded where
  service : Service := {}
  ticks : List TickRecord := []

/-- The record after a step: a tick enters it behind its sweep. It finds a dungeon finished when it asks
for the state of one and when it reads the list of all. -/
def Service.record (w : Service) (ticks : List TickRecord) : ServiceStep → List TickRecord
  | .tick reading => match w.place with
    | .readWaiting => { now := w.now, manager := w.manager, udp := w.threads.udp } :: ticks
    | .checkState d _ =>
      if (w.pointer d).any (·.state = .finished) then ticks.modifyHead (·.see [d]) else ticks
    | .readFinished => ticks.modifyHead (·.see reading.dungeons)
    | .finished (d :: _) =>
      if (w.manager.findDungeon d).isSome then ticks.modifyHead (·.send d) else ticks
    | _ => ticks
  | _ => ticks

def Recorded.next (arithmetic : Arithmetic) (skillCatalog : SkillCatalog) (config : TickConfig)
    (parse : Parse) (w : Recorded) (step : ServiceStep) : Option Recorded :=
  (w.service.next arithmetic skillCatalog config parse step).map fun service =>
    { service, ticks := w.service.record w.ticks step }

/-- Operations come between two ticks, and nothing is shut down. -/
def Undisturbed (w : Recorded) : ServiceStep → Prop
  | .tick _ => True
  | .stopTick | .stopManager => False
  | _ => w.service.place = .idle

deriving instance DecidableEq for TickPlace

instance Undisturbed.decidable (w : Recorded) : (step : ServiceStep) → Decidable (Undisturbed w step)
  | .tick _ => isTrue trivial
  | .stopTick | .stopManager => isFalse id
  | .createDungeon .. | .request _ | .receive .. | .addContent _ | .stopUdp =>
    inferInstanceAs (Decidable (w.service.place = .idle))

/-- The dungeon is waiting, nobody of it is disconnected, and somebody has not authenticated. -/
def Unready (d : DungeonId) (record : TickRecord) : Prop :=
  (∃ dungeon, record.manager.dungeons[d]? = some dungeon ∧ dungeon.state = .waiting ∧
    dungeon.hasDisconnectedParticipants = false) ∧ record.udp.allParticipantsAuthenticated d = false

/-- A tick at the time `since` and every one after it has found the dungeon unready. -/
def WaitedSince (d : DungeonId) (since : Int) (ticks : List TickRecord) : Prop :=
  ∃ newer first older, ticks = newer ++ first :: older ∧ first.now = since ∧
    ∀ record ∈ first :: newer, Unready d record

/-- The first tick that has found the dungeon finished was at the time `since`, and it and every one
after it have broadcast the dungeon. -/
def BroadcastSince (d : DungeonId) (since : Int) (ticks : List TickRecord) : Prop :=
  ∃ newer first older, ticks = newer ++ first :: older ∧ first.now = since ∧ d ∈ first.finished ∧
    (∀ record ∈ first :: newer, d ∈ record.broadcast) ∧ ∀ record ∈ older, d ∉ record.finished

theorem WaitedSince.cons {d : DungeonId} {since : Int} {ticks : List TickRecord} {record : TickRecord}
    (h : WaitedSince d since ticks) (hr : Unready d record) : WaitedSince d since (record :: ticks) := by
  obtain ⟨newer, first, older, rfl, hnow, hall⟩ := h
  refine ⟨record :: newer, first, older, rfl, hnow, ?_⟩
  intro other hother
  simp only [List.mem_cons] at hother hall
  rcases hother with rfl | rfl | hnewer
  · exact hall other (.inl rfl)
  · exact hr
  · exact hall other (.inr hnewer)

theorem WaitedSince.first {d : DungeonId} {ticks : List TickRecord} {record : TickRecord}
    (hr : Unready d record) : WaitedSince d record.now (record :: ticks) :=
  ⟨[], record, ticks, rfl, rfl, fun _ hother => List.mem_singleton.mp hother ▸ hr⟩

theorem Unready.extends {d : DungeonId} {record record' : TickRecord} (h : Unready d record)
    (he : record.Extends record') : Unready d record' := by
  rw [Unready, he.manager, he.udp]
  exact h

/-- What a tick finds finished and broadcasts does not matter to the waiting dungeons. -/
theorem WaitedSince.modifyHead {d : DungeonId} {since : Int} {ticks : List TickRecord}
    {change : TickRecord → TickRecord} (h : WaitedSince d since ticks)
    (hc : ∀ record : TickRecord, record.Extends (change record)) :
    WaitedSince d since (ticks.modifyHead change) := by
  obtain ⟨newer, first, older, rfl, hnow, hall⟩ := h
  cases newer with
  | nil =>
    refine ⟨[], change first, older, rfl, (hc first).now.trans hnow, ?_⟩
    intro other hother
    obtain rfl := List.mem_singleton.mp hother
    exact (hall first List.mem_cons_self).extends (hc first)
  | cons record newer =>
    refine ⟨change record :: newer, first, older, rfl, hnow, ?_⟩
    intro other hother
    simp only [List.mem_cons] at hother hall
    rcases hother with rfl | rfl | hnewer
    · exact hall other (.inl rfl)
    · exact (hall record (.inr (.inl rfl))).extends (hc record)
    · exact hall other (.inr (.inr hnewer))

theorem BroadcastSince.cons {d : DungeonId} {since : Int} {ticks : List TickRecord} {record : TickRecord}
    (h : BroadcastSince d since ticks) (hd : d ∈ record.broadcast) :
    BroadcastSince d since (record :: ticks) := by
  obtain ⟨newer, first, older, rfl, hnow, hsaw, hall, hnever⟩ := h
  refine ⟨record :: newer, first, older, rfl, hnow, hsaw, ?_, hnever⟩
  intro other hother
  simp only [List.mem_cons] at hother hall
  rcases hother with rfl | rfl | hnewer
  · exact hall other (.inl rfl)
  · exact hd
  · exact hall other (.inr hnewer)

theorem BroadcastSince.first {d : DungeonId} {ticks : List TickRecord} {record : TickRecord}
    (hsaw : d ∈ record.finished) (hd : d ∈ record.broadcast)
    (hnever : ∀ other ∈ ticks, d ∉ other.finished) :
    BroadcastSince d record.now (record :: ticks) :=
  ⟨[], record, ticks, rfl, rfl, hsaw, fun _ hother => List.mem_singleton.mp hother ▸ hd, hnever⟩

theorem BroadcastSince.modifyHead {d : DungeonId} {since : Int} {ticks : List TickRecord}
    {change : TickRecord → TickRecord} (h : BroadcastSince d since ticks)
    (hc : ∀ record : TickRecord, record.Extends (change record)) :
    BroadcastSince d since (ticks.modifyHead change) := by
  obtain ⟨newer, first, older, rfl, hnow, hsaw, hall, hnever⟩ := h
  cases newer with
  | nil =>
    have hd := (hc first).broadcast (hall first List.mem_cons_self)
    have hfirst := BroadcastSince.first ((hc first).finished hsaw) hd hnever
    rwa [(hc first).now, hnow] at hfirst
  | cons record newer =>
    refine ⟨change record :: newer, first, older, rfl, hnow, hsaw, ?_, hnever⟩
    intro other hother
    simp only [List.mem_cons] at hother hall
    rcases hother with rfl | rfl | hnewer
    · exact hall other (.inl rfl)
    · exact (hc record).broadcast (hall record (.inr (.inl rfl)))
    · exact hall other (.inr (.inr hnewer))

/-! ## One call of the tick -/

/-- The dungeon that the next call may write. -/
def TickPlace.subject : TickPlace → Option DungeonId
  | .start _ d _ | .cancel _ d _ | .processing d _ | .waves d _ | .finish d _ | .finishDungeon d _ => some d
  | _ => none

section

variable {arithmetic : Arithmetic} {skillCatalog : SkillCatalog} {config : TickConfig} {parse : Parse}
  {w w' : Service} {d : DungeonId} {step : ServiceStep} {reading : TickReading}

theorem mem_modifyDungeon {m : DungeonManager} {dungeon : DungeonInstance}
    (hd : m.findDungeon d = some dungeon) (change : DungeonInstance → DungeonInstance) :
    (m.modifyDungeon d change).dungeons[d]? = some (change dungeon) := by
  unfold DungeonManager.findDungeon at hd
  simp only [DungeonManager.modifyDungeon, hd, ExtTreeMap.getElem?_insert_self]

theorem modifyDungeon_other {m : DungeonManager} {e : DungeonId} (change : DungeonInstance → DungeonInstance)
    (hne : d ≠ e) : (m.modifyDungeon d change).dungeons[e]? = m.dungeons[e]? := by
  unfold DungeonManager.modifyDungeon
  split
  · rfl
  · rw [ExtTreeMap.getElem?_insert, if_neg (by simpa using hne)]

theorem removed_other {m : DungeonManager} {e : DungeonId} (dungeon : DungeonInstance) (hne : d ≠ e) :
    (m.removeDungeon d dungeon).dungeons[e]? = m.dungeons[e]? := by
  change (m.dungeons.erase d)[e]? = m.dungeons[e]?
  rw [ExtTreeMap.getElem?_erase, if_neg (by simpa using hne)]

theorem manager_of_drain {after : Service} (hn : w.drain after = some w')
    (hafter : after.threads = w.threads) : w'.manager = w.manager := by
  rcases drain_cases hn with rfl | ⟨-, hhistory, -⟩
  · exact congrArg (·.history.manager) hafter
  · exact congrArg Manager.History.manager hhistory

/-- Behind its sweep the tick writes one dungeon at a time. -/
theorem dungeons_of_tick (hg : Good config w)
    (hn : w.tick arithmetic skillCatalog config reading = some w') (hidle : w.place ≠ .idle)
    {e : DungeonId} (he : w.place.subject ≠ some e) :
    w'.manager.dungeons[e]? = w.manager.dungeons[e]? := by
  cases hplace : w.place with
  | idle => exact absurd hplace hidle
  | start ids d rest =>
    simp only [Service.tick, hplace, Option.map_eq_some_iff] at hn
    obtain ⟨w₁, hthread, hw'⟩ := hn
    have hcall := (thread_history hthread rfl).1
    have hmanager : w'.manager = (w.manager.startDungeon w.content.enemies d).2 := by
      have hsame : w'.manager = w₁.manager := by
        rw [← hw']
        split <;> rfl
      exact hsame.trans (congrArg Manager.History.manager (Option.some.inj hcall).symm)
    have hne : d ≠ e := fun h => he (by rw [hplace, h]; rfl)
    rw [hmanager]
    unfold DungeonManager.startDungeon
    split
    · rfl
    · simp only
      rw [ExtTreeMap.getElem?_insert, if_neg (by simpa using hne)]
  | cancel ids d rest =>
    simp only [Service.tick, hplace] at hn
    have hcall := (thread_history hn rfl).1
    have hmanager : w'.manager = (w.manager.cancelDungeon d).2 :=
      congrArg Manager.History.manager (Option.some.inj hcall).symm
    have hne : d ≠ e := fun h => he (by rw [hplace, h]; rfl)
    rw [hmanager]
    rcases cancel_cases w.manager d with hc | ⟨dungeon, -, -, hc⟩ <;> rw [hc]
    exact removed_other dungeon hne
  | finishDungeon d rest =>
    simp only [Service.tick, hplace] at hn
    have hcall := (thread_history hn rfl).1
    have hmanager : w'.manager = (w.manager.finishDungeon d).2 :=
      congrArg Manager.History.manager (Option.some.inj hcall).symm
    have hne : d ≠ e := fun h => he (by rw [hplace, h]; rfl)
    rw [hmanager]
    rcases finish_cases w.manager d with hc | ⟨dungeon, -, -, hc⟩ <;> rw [hc]
    exact removed_other dungeon hne
  | sweeping | cancelled | released =>
    simp only [Service.tick, hplace] at hn
    rw [manager_of_drain hn rfl]
  | readWaiting | readRunning | readFinished =>
    simp only [Service.tick, hplace] at hn
    rw [(readIds_spec hn).2]
    rfl
  | processing d rest =>
    simp only [Service.tick, hplace] at hn
    obtain rfl := Option.some.inj hn
    have hne : d ≠ e := fun h => he (by rw [hplace, h]; rfl)
    rcases (playedAt_process hg.processing hplace reading.sessions).2 with
      hm | ⟨dungeon, dungeon', touched, -, -, -, hm⟩ <;> rw [hm]
    simp only
    rw [ExtTreeMap.getElem?_insert, if_neg (by simpa using hne)]
  | waves d rest | finish d rest =>
    have hne : d ≠ e := fun h => he (by rw [hplace, h]; rfl)
    simp only [Service.tick, hplace] at hn
    repeat' split at hn
    all_goals
      obtain rfl := Option.some.inj hn
      first
        | rfl
        | exact modifyDungeon_other _ hne
  | waiting ids rest | running rest | finished rest =>
    cases rest <;> simp only [Service.tick, hplace] at hn
    all_goals
      repeat' split at hn
      all_goals
        obtain rfl := Option.some.inj hn
        rfl
  | checkRooms d rest rooms =>
    cases rooms <;> simp only [Service.tick, hplace] at hn
    all_goals
      repeat' split at hn
      all_goals
        obtain rfl := Option.some.inj hn
        rfl
  | readPlayers d rest =>
    simp only [Service.tick, hplace] at hn
    repeat' split at hn
    all_goals
      cases hn
      try rfl
  | checkDisconnected | checkAuthenticated | refresh | checkState =>
    simp only [Service.tick, hplace] at hn
    repeat' split at hn
    all_goals
      obtain rfl := Option.some.inj hn
      rfl

/-- The timestamps that are left when those of the released dungeons are gone. -/
theorem foldl_erase_eq_some {noted : IdMap Int} {released : List DungeonId} {since : Int} :
    (released.foldl (·.erase ·) noted)[d]? = some since ↔ d ∉ released ∧ noted[d]? = some since := by
  induction released generalizing noted with
  | nil => simp
  | cons e rest ih =>
    rw [List.foldl_cons, ih, ExtTreeMap.getElem?_erase, List.mem_cons, not_or]
    by_cases hde : d = e
    · subst hde
      simp
    · have hne : ¬ compare e d = .eq := by simpa using Ne.symm hde
      rw [if_neg hne]
      tauto

theorem mem_of_ids {state : DungeonState} {ids : List DungeonId}
    (hperm : ids.Perm (w.manager.dungeonIdsIn state)) :
    d ∈ ids ↔ ∃ dungeon, w.manager.dungeons[d]? = some dungeon ∧ dungeon.state = state := by
  rw [hperm.mem_iff]
  simp only [DungeonManager.dungeonIdsIn, List.mem_map, List.mem_filter, decide_eq_true_eq,
    Prod.exists, ExtTreeMap.mem_toList_iff_getElem?_eq_some]
  constructor
  · rintro ⟨e, dungeon, ⟨hlive, hstate⟩, rfl⟩
    exact ⟨dungeon, hlive, hstate⟩
  · rintro ⟨dungeon, hlive, hstate⟩
    exact ⟨d, dungeon, ⟨hlive, hstate⟩, rfl⟩

end

end DnfServer.Tick
