import DnfServer.Tick.Records

/-!
# The timestamps of the waiting dungeons

`waitingSince_` is kept by insertions and removals in several branches of the loop over the waiting
dungeons. A timestamp in it is the time of a tick that has found the dungeon unready, as has every tick
since then.
-/

namespace DnfServer.Tick

open Std DnfServer.Library DnfServer.Participants DnfServer.Manager DnfServer.Dungeons DnfServer.Udp
set_option autoImplicit false

section

variable {arithmetic : Arithmetic} {skillCatalog : SkillCatalog} {config : TickConfig} {parse : Parse}
  {w w' : Service} {d : DungeonId} {step : ServiceStep} {reading : TickReading}

def IsWaiting (w : Service) (d : DungeonId) : Prop :=
  ∃ dungeon, w.manager.dungeons[d]? = some dungeon ∧ dungeon.state = .waiting

/-- The dungeon is live, and nobody of it is disconnected. -/
def Attended (w : Service) (d : DungeonId) : Prop :=
  ∃ dungeon, w.manager.dungeons[d]? = some dungeon ∧ dungeon.hasDisconnectedParticipants = false

/-- The dungeon is waiting and as the tick has found it. -/
structure Untouched (record : TickRecord) (w : Service) (d : DungeonId) : Prop where
  dungeon : w.manager.dungeons[d]? = record.manager.dungeons[d]?
  session : w.threads.udp.sessions[d]? = record.udp.sessions[d]?
  waiting : IsWaiting w d

/-- The loop over the waiting dungeons `ids` with `todo` still to come, and `noted` as the timestamps. -/
structure Looping (record : TickRecord) (tail : List TickRecord) (w : Service)
    (ids todo : List DungeonId) (noted : IdMap Int) : Prop where
  now : record.now = w.now
  nodup : todo.Nodup
  subset : ∀ d ∈ todo, d ∈ ids
  untouched : ∀ d ∈ todo, Untouched record w d
  ahead : ∀ d ∈ todo, ∀ since : Int, noted[d]? = some since → WaitedSince d since tail
  behind : ∀ d ∈ ids, d ∉ todo → ∀ since : Int, noted[d]? = some since →
    WaitedSince d since (record :: tail) ∧ IsWaiting w d

namespace Looping

variable {record : TickRecord} {tail : List TickRecord} {ids rest : List DungeonId} {noted : IdMap Int}

/-- Another state with the same dungeons, as far as they matter. -/
theorem move {todo : List DungeonId} (h : Looping record tail w ids todo noted) (hnow : w'.now = w.now)
    (hd : ∀ e, e ∈ todo ∨ e ∈ noted → w'.manager.dungeons[e]? = w.manager.dungeons[e]?)
    (hs : ∀ e ∈ todo, w'.threads.udp.sessions[e]? = w.threads.udp.sessions[e]?) :
    Looping record tail w' ids todo noted := by
  have hwaiting {e : DungeonId} (he : e ∈ todo ∨ e ∈ noted) (hw : IsWaiting w e) : IsWaiting w' e := by
    obtain ⟨dungeon, hlive, hstate⟩ := hw
    exact ⟨dungeon, (hd e he).trans hlive, hstate⟩
  refine ⟨h.now.trans hnow.symm, h.nodup, h.subset, fun e he => ?_, h.ahead, ?_⟩
  · have hu := h.untouched e he
    exact ⟨(hd e (.inl he)).trans hu.dungeon, (hs e he).trans hu.session, hwaiting (.inl he) hu.waiting⟩
  · intro e he hnot since hsince
    obtain ⟨hsaw, hw⟩ := h.behind e he hnot since hsince
    exact ⟨hsaw, hwaiting (.inr (mem_of_entry hsince)) hw⟩

theorem unready (h : Looping record tail w ids (d :: rest) noted) (ha : Attended w d)
    (hauth : w.threads.udp.allParticipantsAuthenticated d = false) : Unready d record := by
  have hu := h.untouched d List.mem_cons_self
  obtain ⟨dungeon, hlive, hstate⟩ := hu.waiting
  obtain ⟨other, hother, hattended⟩ := ha
  obtain rfl := Option.some.inj (hlive.symm.trans hother)
  refine ⟨⟨dungeon, hu.dungeon.symm.trans hlive, hstate, hattended⟩, ?_⟩
  unfold DungeonUdpManager.allParticipantsAuthenticated at hauth ⊢
  rwa [← hu.session]

/-- The timestamp of the next dungeon is dropped. -/
theorem drop (h : Looping record tail w ids (d :: rest) noted) :
    Looping record tail w ids rest (noted.erase d) := by
  have hnodup := List.nodup_cons.mp h.nodup
  have hold {e : DungeonId} {since : Int} (hsince : (noted.erase d)[e]? = some since) :
      e ≠ d ∧ noted[e]? = some since := by
    rw [ExtTreeMap.getElem?_erase] at hsince
    split at hsince
    · cases hsince
    · rename_i hne
      exact ⟨fun he => hne (by simp [he]), hsince⟩
  refine ⟨h.now, hnodup.2, ?_, ?_, ?_, ?_⟩
  · exact fun e he => h.subset e (List.mem_cons_of_mem d he)
  · exact fun e he => h.untouched e (List.mem_cons_of_mem d he)
  · exact fun e he since hsince => h.ahead e (List.mem_cons_of_mem d he) since (hold hsince).2
  · intro e he hnot since hsince
    obtain ⟨hne, hsince⟩ := hold hsince
    exact h.behind e he (by simp [hne, hnot]) since hsince

/-- The next dungeon is unready, and its timestamp is the first one or stays. -/
theorem keep (h : Looping record tail w ids (d :: rest) noted) (hu : Unready d record)
    {noted' : IdMap Int} (hother : ∀ e, e ≠ d → noted'[e]? = noted[e]?)
    (hd : noted'[d]? = noted[d]? ∨ noted'[d]? = some record.now) :
    Looping record tail w ids rest noted' := by
  have hnodup := List.nodup_cons.mp h.nodup
  have hne {e : DungeonId} (he : e ∈ rest) : e ≠ d := fun hsame => hnodup.1 (hsame ▸ he)
  refine ⟨h.now, hnodup.2, ?_, ?_, ?_, ?_⟩
  · exact fun e he => h.subset e (List.mem_cons_of_mem d he)
  · exact fun e he => h.untouched e (List.mem_cons_of_mem d he)
  · intro e he since hsince
    rw [hother e (hne he)] at hsince
    exact h.ahead e (List.mem_cons_of_mem d he) since hsince
  · intro e he hnot since hsince
    by_cases hsame : e = d
    · subst hsame
      refine ⟨?_, (h.untouched e List.mem_cons_self).waiting⟩
      rcases hd with hd | hd
      · rw [hd] at hsince
        exact (h.ahead e List.mem_cons_self since hsince).cons hu
      · obtain rfl := Option.some.inj (hd.symm.trans hsince)
        exact .first hu
    · rw [hother e hsame] at hsince
      exact h.behind e he (by simp [hsame, hnot]) since hsince

end Looping

/-- What is known of the timestamps of the waiting dungeons at each place. -/
def Recorded.WaitingOk (w : Recorded) : Prop :=
  match w.service.place with
  | .idle | .sweeping _ | .readWaiting => ∀ (d : DungeonId) (since : Int),
      w.service.waitingSince[d]? = some since → WaitedSince d since w.ticks
  | .waiting ids rest => ∃ record tail, w.ticks = record :: tail ∧
      Looping record tail w.service ids rest w.service.waitingSince
  | .checkDisconnected ids d rest found => ∃ record tail, w.ticks = record :: tail ∧
      Looping record tail w.service ids (d :: rest) w.service.waitingSince ∧ found = true
  | .checkAuthenticated ids d rest => ∃ record tail, w.ticks = record :: tail ∧
      Looping record tail w.service ids (d :: rest) w.service.waitingSince ∧ Attended w.service d
  | .start ids d rest => ∃ record tail, w.ticks = record :: tail ∧
      Looping record tail w.service ids (d :: rest) w.service.waitingSince ∧ Attended w.service d ∧
      w.service.threads.udp.allParticipantsAuthenticated d = true
  | .cancel ids d rest => ∃ record tail, w.ticks = record :: tail ∧
      Looping record tail w.service ids (d :: rest) w.service.waitingSince ∧ Attended w.service d ∧
      w.service.threads.udp.allParticipantsAuthenticated d = false
  | .refresh ids d rest => d ∉ rest ∧ ∃ record tail, w.ticks = record :: tail ∧
      Looping record tail w.service ids rest (w.service.waitingSince.erase d)
  | .cancelled ids d rest => d ∉ rest ∧ (∃ record tail, w.ticks = record :: tail ∧
      Looping record tail w.service ids rest (w.service.waitingSince.erase d)) ∧
      w.service.threads.removing = [] ∧ ∀ e ∈ w.service.threads.releasing, e = d
  | _ => ∀ (d : DungeonId) (since : Int), w.service.waitingSince[d]? = some since →
      WaitedSince d since w.ticks ∧ IsWaiting w.service d

theorem refreshed_other {u : DungeonUdpManager} {e : DungeonId} (now : Int) (hne : d ≠ e) :
    (u.refreshAllActivity d now).sessions[e]? = u.sessions[e]? := by
  unfold DungeonUdpManager.refreshAllActivity
  split
  · rfl
  · rw [ExtTreeMap.getElem?_insert, if_neg (by simpa using hne)]

theorem released_other {u : DungeonUdpManager} {e : DungeonId} (hne : d ≠ e) :
    (u.release d).2.sessions[e]? = u.sessions[e]? := by
  unfold DungeonUdpManager.release
  split
  · simp only
    rw [ExtTreeMap.getElem?_erase, if_neg (by simpa using hne)]
  · rfl

/-- After the waiting phase a waiting dungeon stays so to the end of the tick. -/
theorem isWaiting_of_tick (hg : Good config w)
    (hn : w.tick arithmetic skillCatalog config reading = some w') (hidle : w.place ≠ .idle)
    (hstart : ∀ ids e rest, w.place ≠ .start ids e rest)
    (hcancel : ∀ ids e rest, w.place ≠ .cancel ids e rest) (h : IsWaiting w d) : IsWaiting w' d := by
  obtain ⟨dungeon, hd, hstate⟩ := h
  refine ⟨dungeon, ?_, hstate⟩
  rw [dungeons_of_tick hg hn hidle, hd]
  intro hsubject
  have hok := hg.place
  rw [PlaceOk] at hok
  have hclash {P : DungeonInstance → Prop} {e : DungeonId} (he : e = d)
      (hheld : Holds P w.threads.history e) (hP : P dungeon → dungeon.state ≠ .waiting) : False :=
    hP (hheld.2 dungeon (he ▸ hd)) hstate
  have hrunning (hrun : dungeon.state = .running) : dungeon.state ≠ .waiting := by
    rw [hrun]
    simp
  cases hplace : w.place with
  | start ids e rest => exact hstart ids e rest hplace
  | cancel ids e rest => exact hcancel ids e rest hplace
  | processing e rest | waves e rest =>
    rw [hplace] at hok hsubject
    exact hclash (Option.some.inj hsubject) (hok.2 e List.mem_cons_self) hrunning
  | finish e rest =>
    rw [hplace] at hok hsubject
    exact hclash (Option.some.inj hsubject) (hok.1.2 e List.mem_cons_self) hrunning
  | finishDungeon e rest =>
    rw [hplace] at hok hsubject
    refine hclash (Option.some.inj hsubject) (hok.1.2 e List.mem_cons_self) ?_
    intro hfinished
    rw [show dungeon.state = .finished from hfinished]
    simp
  | _ =>
    rw [hplace] at hsubject
    cases hsubject

variable {ticks : List TickRecord}

/-- After the waiting phase no timestamp changes before the next tick. -/
theorem waited_late (hg : Good config w) (hn : w.tick arithmetic skillCatalog config reading = some w')
    (hplaces : w.place ≠ .idle ∧ (∀ ids e rest, w.place ≠ .start ids e rest) ∧
      ∀ ids e rest, w.place ≠ .cancel ids e rest) {ticks' : List TickRecord}
    (hticks : ∀ d since, WaitedSince d since ticks → WaitedSince d since ticks')
    (hall : ∀ (d : DungeonId) (since : Int), w.waitingSince[d]? = some since →
      WaitedSince d since ticks ∧ IsWaiting w d) (hsame : w'.waitingSince = w.waitingSince)
    (d : DungeonId) (since : Int) (hsince : w'.waitingSince[d]? = some since) :
    WaitedSince d since ticks' ∧ IsWaiting w' d := by
  rw [hsame] at hsince
  obtain ⟨hsaw, hwaiting⟩ := hall d since hsince
  exact ⟨hticks d since hsaw, isWaiting_of_tick hg hn hplaces.1 hplaces.2.1 hplaces.2.2 hwaiting⟩

/-- The step at the first dungeon of the loop leaves the others alone. -/
theorem Looping.others {record : TickRecord} {tail : List TickRecord} {ids rest : List DungeonId}
    (h : Looping record tail w ids (d :: rest) w.waitingSince) (hg : Good config w)
    (hn : w.tick arithmetic skillCatalog config reading = some w') (hidle : w.place ≠ .idle)
    (hsubject : w.place.subject = some d) (e : DungeonId) (he : e ∈ rest ∨ e ∈ w.waitingSince.erase d) :
    w'.manager.dungeons[e]? = w.manager.dungeons[e]? := by
  refine dungeons_of_tick hg hn hidle ?_
  rw [hsubject]
  rintro ⟨⟩
  rcases he with he | he
  · exact (List.nodup_cons.mp h.nodup).1 he
  · simp at he

/-- The tick reads the waiting dungeons and enters what it sees into the record. -/
theorem waitingOk_readWaiting (hg : Good config w) (h : Recorded.WaitingOk ⟨w, ticks⟩)
    (hplace : w.place = .readWaiting)
    (hn : w.tick arithmetic skillCatalog config reading = some w') :
    Recorded.WaitingOk ⟨w', w.record ticks (.tick reading)⟩ := by
  simp only [Recorded.WaitingOk, hplace] at h
  simp only [Service.tick, hplace] at hn
  obtain ⟨hperm, rfl⟩ := readIds_spec hn
  simp only [Recorded.WaitingOk, Service.record, hplace]
  refine ⟨_, ticks, rfl, rfl, (batch_of_ids hg hperm).1, fun d hd => hd, ?_, ?_, ?_⟩
  · intro d hd
    obtain ⟨dungeon, hlive, hstate⟩ := (mem_of_ids hperm).mp hd
    exact ⟨rfl, rfl, dungeon, hlive, hstate⟩
  · exact fun d _ since hsince => h d since hsince
  · exact fun d hd hnot => absurd hd hnot

theorem waitingOk_waiting (h : Recorded.WaitingOk ⟨w, ticks⟩) {ids rest : List DungeonId}
    (hplace : w.place = .waiting ids rest)
    (hn : w.tick arithmetic skillCatalog config reading = some w') :
    Recorded.WaitingOk ⟨w', w.record ticks (.tick reading)⟩ := by
  simp only [Recorded.WaitingOk, hplace] at h
  obtain ⟨record, tail, rfl, hloop⟩ := h
  cases rest with
  | nil =>
    simp only [Service.tick, hplace] at hn
    obtain rfl := Option.some.inj hn
    simp only [Recorded.WaitingOk, Service.record, hplace]
    intro d since hsince
    rw [ExtTreeMap.getElem?_filter', Option.filter_eq_some_iff, decide_eq_true_eq] at hsince
    exact hloop.behind d hsince.2 List.not_mem_nil since hsince.1
  | cons d rest =>
    simp only [Service.tick, hplace] at hn
    obtain rfl := Option.some.inj hn
    simp only [Recorded.WaitingOk, Service.record, hplace]
    obtain ⟨dungeon, hd, -⟩ := (hloop.untouched d List.mem_cons_self).waiting
    refine ⟨record, tail, rfl, hloop.move rfl (fun _ _ => rfl) (fun _ _ => rfl), ?_⟩
    rw [show w.manager.findDungeon d = some dungeon from hd, Option.isSome_some]

theorem waitingOk_checkDisconnected (h : Recorded.WaitingOk ⟨w, ticks⟩)
    {ids rest : List DungeonId} {found : Bool} (hplace : w.place = .checkDisconnected ids d rest found)
    (hn : w.tick arithmetic skillCatalog config reading = some w') :
    Recorded.WaitingOk ⟨w', w.record ticks (.tick reading)⟩ := by
  simp only [Recorded.WaitingOk, hplace] at h
  obtain ⟨record, tail, rfl, hloop, rfl⟩ := h
  obtain ⟨dungeon, hd, -⟩ := (hloop.untouched d List.mem_cons_self).waiting
  have hpointer : w.pointer d = some dungeon := by
    rw [Service.pointer, show w.manager.findDungeon d = some dungeon from hd, Option.some_or]
  simp only [Service.tick, hplace, hpointer, Option.any_some, true_and] at hn
  split at hn
  · obtain rfl := Option.some.inj hn
    simp only [Recorded.WaitingOk, Service.record, hplace]
    exact ⟨record, tail, rfl, hloop.drop.move rfl (fun _ _ => rfl) fun _ _ => rfl⟩
  · rename_i hattended
    obtain rfl := Option.some.inj hn
    simp only [Recorded.WaitingOk, Service.record, hplace]
    exact ⟨record, tail, rfl, hloop.move rfl (fun _ _ => rfl) fun _ _ => rfl, dungeon, hd,
      Bool.eq_false_iff.mpr hattended⟩

/-- The dungeon is ready, or its timestamp is set or stays, or it is to be cancelled. -/
theorem waitingOk_checkAuthenticated (h : Recorded.WaitingOk ⟨w, ticks⟩) {ids rest : List DungeonId}
    (hplace : w.place = .checkAuthenticated ids d rest)
    (hn : w.tick arithmetic skillCatalog config reading = some w') :
    Recorded.WaitingOk ⟨w', w.record ticks (.tick reading)⟩ := by
  simp only [Recorded.WaitingOk, hplace] at h
  obtain ⟨record, tail, rfl, hloop, hattended⟩ := h
  simp only [Service.tick, hplace] at hn
  split at hn
  · rename_i hauth
    obtain rfl := Option.some.inj hn
    simp only [Recorded.WaitingOk, Service.record, hplace]
    exact ⟨record, tail, rfl, hloop.move rfl (fun _ _ => rfl) fun _ _ => rfl, hattended, hauth⟩
  rename_i hauth
  have hauth : w.threads.udp.allParticipantsAuthenticated d = false := Bool.eq_false_iff.mpr hauth
  have hunready := hloop.unready hattended hauth
  split at hn
  · obtain rfl := Option.some.inj hn
    simp only [Recorded.WaitingOk, Service.record, hplace]
    have hkept : Looping record tail w ids rest (w.waitingSince.insert d w.now) := by
      refine hloop.keep hunready (fun e he => ?_) (.inr ?_)
      · rw [ExtTreeMap.getElem?_insert, if_neg (by simpa using he.symm)]
      · rw [ExtTreeMap.getElem?_insert_self, hloop.now]
    exact ⟨record, tail, rfl, hkept.move rfl (fun _ _ => rfl) fun _ _ => rfl⟩
  split at hn
  · obtain rfl := Option.some.inj hn
    simp only [Recorded.WaitingOk, Service.record, hplace]
    exact ⟨record, tail, rfl, hloop.move rfl (fun _ _ => rfl) fun _ _ => rfl, hattended, hauth⟩
  · obtain rfl := Option.some.inj hn
    simp only [Recorded.WaitingOk, Service.record, hplace]
    have hkept := hloop.keep hunready (fun _ _ => rfl) (.inl rfl)
    exact ⟨record, tail, rfl, hkept.move rfl (fun _ _ => rfl) fun _ _ => rfl⟩

theorem waitingOk_start (hg : Good config w) (h : Recorded.WaitingOk ⟨w, ticks⟩) {ids rest : List DungeonId}
    (hplace : w.place = .start ids d rest)
    (hn : w.tick arithmetic skillCatalog config reading = some w') :
    Recorded.WaitingOk ⟨w', w.record ticks (.tick reading)⟩ := by
  simp only [Recorded.WaitingOk, hplace] at h
  obtain ⟨record, tail, rfl, hloop, -, -⟩ := h
  have hnodup := List.nodup_cons.mp hloop.nodup
  have hframe := hloop.others hg hn (by simp [hplace]) (by rw [hplace]; rfl)
  simp only [Service.tick, hplace, Option.map_eq_some_iff] at hn
  obtain ⟨w₁, hthread, hw'⟩ := hn
  obtain ⟨hnext, hw₁⟩ := thread_spec hthread
  have hudp : w₁.threads.udp = w.threads.udp := by
    simp only [Threads.next] at hnext
    split at hnext
    · exact (Threads.manage_spec hnext).2.1
    · cases hnext
  have hmoved {v : Service} (hthreads : v.threads = w₁.threads) (hnow : v.now = w.now) :
      Looping record tail v ids rest (w.waitingSince.erase d) := by
    have hsame : w'.manager = w₁.manager := by
      rw [← hw']
      split <;> rfl
    refine hloop.drop.move hnow (fun e he => ?_) fun e _ => by rw [hthreads, hudp]
    rw [← hframe e he, hsame]
    exact congrArg (·.history.manager.dungeons[e]?) hthreads
  split at hw'
  · rw [← hw', hw₁]
    simp only [Recorded.WaitingOk, Service.record, hplace]
    exact ⟨hnodup.1, record, tail, rfl, hmoved rfl rfl⟩
  · rw [← hw', hw₁]
    simp only [Recorded.WaitingOk, Service.record, hplace]
    exact ⟨record, tail, rfl, hmoved rfl rfl⟩

theorem waitingOk_cancel (hg : Good config w) (h : Recorded.WaitingOk ⟨w, ticks⟩)
    {ids rest : List DungeonId} (hplace : w.place = .cancel ids d rest)
    (hn : w.tick arithmetic skillCatalog config reading = some w') :
    Recorded.WaitingOk ⟨w', w.record ticks (.tick reading)⟩ := by
  simp only [Recorded.WaitingOk, hplace] at h
  obtain ⟨record, tail, rfl, hloop, -, -⟩ := h
  have hnodup := List.nodup_cons.mp hloop.nodup
  have hframe := hloop.others hg hn (by simp [hplace]) (by rw [hplace]; rfl)
  simp only [Service.tick, hplace] at hn
  obtain ⟨hnext, hw'⟩ := thread_spec hn
  simp only [Threads.next] at hnext
  split at hnext
  · rename_i hidle
    simp only [Option.map_eq_some_iff] at hnext
    obtain ⟨w₁, hm, hthreads⟩ := hnext
    obtain ⟨-, hudp, -, hremoving, -⟩ := Threads.manage_spec hm
    have hmoved : Looping record tail w' ids rest (w.waitingSince.erase d) := by
      refine hloop.drop.move (by rw [hw']) hframe fun e _ => ?_
      rw [← hthreads]
      exact congrArg (·.sessions[e]?) hudp
    rw [hw'] at hmoved ⊢
    simp only [Recorded.WaitingOk, Service.record, hplace]
    refine ⟨hnodup.1, ⟨record, tail, rfl, hmoved⟩, ?_, ?_⟩
    · rw [← hthreads]
      exact hremoving.trans hidle.1
    · intro e he
      rw [← hthreads] at he
      simp only at he
      split at he
      · exact List.mem_singleton.mp he
      · cases he
  · cases hnext

/-- A cancelled dungeon gives back its UDP session. -/
theorem waitingOk_cancelled (h : Recorded.WaitingOk ⟨w, ticks⟩) {ids rest : List DungeonId}
    (hplace : w.place = .cancelled ids d rest)
    (hn : w.tick arithmetic skillCatalog config reading = some w') :
    Recorded.WaitingOk ⟨w', w.record ticks (.tick reading)⟩ := by
  simp only [Recorded.WaitingOk, hplace] at h
  obtain ⟨hnot, ⟨record, tail, rfl, hloop⟩, hremoving, hreleasing⟩ := h
  simp only [Service.tick, hplace] at hn
  unfold Service.drain at hn
  rw [if_neg (by simp [hremoving])] at hn
  split at hn
  · obtain ⟨hnext, hw'⟩ := thread_spec hn
    simp only [Threads.next] at hnext
    split at hnext
    · rename_i e others _ hlist
      obtain rfl := hreleasing e (by simp [hlist])
      have hthreads := Option.some.inj hnext
      rw [hw']
      simp only [Recorded.WaitingOk, Service.record, hplace]
      refine ⟨hnot, ⟨record, tail, rfl, hloop.move rfl ?_ ?_⟩, ?_, ?_⟩
      · intro x _
        rw [← hthreads]
        rfl
      · intro x hx
        rw [← hthreads]
        exact released_other fun hsame => hnot (hsame ▸ hx)
      · rw [← hthreads]
        exact hremoving
      · intro x hx
        rw [← hthreads] at hx
        exact hreleasing x (by rw [hlist]; exact List.mem_cons_of_mem _ hx)
    · cases hnext
  · obtain rfl := Option.some.inj hn
    simp only [Recorded.WaitingOk, Service.record, hplace]
    exact ⟨record, tail, rfl, hloop.move rfl (fun _ _ => rfl) fun _ _ => rfl⟩

/-- The next dungeon of the list of finished ones. -/
theorem waitingOk_finished (hg : Good config w) (h : Recorded.WaitingOk ⟨w, ticks⟩) {rest : List DungeonId}
    (hplace : w.place = .finished rest)
    (hn : w.tick arithmetic skillCatalog config reading = some w') :
    Recorded.WaitingOk ⟨w', w.record ticks (.tick reading)⟩ := by
  simp only [Recorded.WaitingOk, hplace] at h
  cases rest with
  | nil =>
    simp only [Service.tick, hplace] at hn
    obtain rfl := Option.some.inj hn
    simp only [Recorded.WaitingOk, Service.record, hplace]
    exact fun d since hsince => (h d since hsince).1
  | cons d rest =>
    have hafter := waited_late hg hn (by simp [hplace]) (fun _ _ hsaw => hsaw) h
    have hsent := waited_late hg hn (by simp [hplace]) (fun _ _ hsaw => hsaw.modifyHead (·.extends_send d)) h
    simp only [Service.tick, hplace] at hn
    split at hn
    · rename_i hnone
      obtain rfl := Option.some.inj hn
      simp only [Recorded.WaitingOk, Service.record, hplace, hnone, Option.isSome_none]
      exact hafter rfl
    · rename_i dungeon hd
      split at hn
      all_goals
        obtain rfl := Option.some.inj hn
        simp only [Recorded.WaitingOk, Service.record, hplace, hd, Option.isSome_some, if_true]
        exact hsent rfl

theorem waitingOk_tick (hg : Good config w) (h : Recorded.WaitingOk ⟨w, ticks⟩)
    (hn : w.tick arithmetic skillCatalog config reading = some w') :
    Recorded.WaitingOk ⟨w', w.record ticks (.tick reading)⟩ := by
  cases hplace : w.place with
  | idle =>
    simp only [Recorded.WaitingOk, hplace] at h
    simp only [Service.tick, hplace, Option.map_eq_some_iff] at hn
    obtain ⟨w₁, hthread, rfl⟩ := hn
    rw [(thread_spec hthread).2]
    simp only [Recorded.WaitingOk, Service.record, hplace]
    exact h
  | sweeping released =>
    simp only [Recorded.WaitingOk, hplace] at h
    simp only [Service.tick, hplace] at hn
    rcases drain_cases hn with rfl | ⟨-, -, he⟩
    · simp only [Recorded.WaitingOk, Service.record, hplace]
      intro d since hsince
      exact h d since (foldl_erase_eq_some.mp hsince).2
    · rw [he]
      simp only [Recorded.WaitingOk, Service.record, hplace]
      exact h
  | readWaiting => exact waitingOk_readWaiting hg h hplace hn
  | waiting ids rest => exact waitingOk_waiting h hplace hn
  | checkDisconnected ids d rest found => exact waitingOk_checkDisconnected h hplace hn
  | checkAuthenticated ids d rest => exact waitingOk_checkAuthenticated h hplace hn
  | start ids d rest => exact waitingOk_start hg h hplace hn
  | refresh ids d rest =>
    simp only [Recorded.WaitingOk, hplace] at h
    obtain ⟨hnot, record, tail, rfl, hloop⟩ := h
    simp only [Service.tick, hplace] at hn
    obtain rfl := Option.some.inj hn
    simp only [Recorded.WaitingOk, Service.record, hplace]
    refine ⟨record, tail, rfl, hloop.move rfl (fun _ _ => rfl) fun e he => ?_⟩
    exact refreshed_other reading.now fun hsame => hnot (hsame ▸ he)
  | cancel ids d rest => exact waitingOk_cancel hg h hplace hn
  | cancelled ids d rest => exact waitingOk_cancelled h hplace hn
  | readRunning =>
    simp only [Recorded.WaitingOk, hplace] at h
    have hafter := waited_late hg hn (by simp [hplace]) (fun _ _ hsaw => hsaw) h
    simp only [Service.tick, hplace] at hn
    have hw' := (readIds_spec hn).2
    rw [hw'] at hafter ⊢
    simp only [Recorded.WaitingOk, Service.record, hplace]
    exact hafter rfl
  | readFinished =>
    simp only [Recorded.WaitingOk, hplace] at h
    have hafter := waited_late hg hn (by simp [hplace])
      (fun _ _ hsaw => hsaw.modifyHead (·.extends_see reading.dungeons)) h
    simp only [Service.tick, hplace] at hn
    have hw' := (readIds_spec hn).2
    rw [hw'] at hafter ⊢
    simp only [Recorded.WaitingOk, Service.record, hplace]
    exact hafter rfl
  | running rest =>
    simp only [Recorded.WaitingOk, hplace] at h
    have hafter := waited_late hg hn (by simp [hplace]) (fun _ _ hsaw => hsaw) h
    cases rest <;> simp only [Service.tick, hplace] at hn <;> obtain rfl := Option.some.inj hn
    all_goals
      simp only [Recorded.WaitingOk, Service.record, hplace]
      exact hafter rfl
  | processing d rest =>
    simp only [Recorded.WaitingOk, hplace] at h
    have hafter := waited_late hg hn (by simp [hplace]) (fun _ _ hsaw => hsaw) h
    simp only [Service.tick, hplace] at hn
    have hgoes := process_place hg.processing hplace hn
    obtain rfl := Option.some.inj hn
    rcases hgoes with ⟨hwaves, -⟩ | ⟨hat, -⟩
    · simp only [Recorded.WaitingOk, Service.record, hplace, hwaves]
      exact hafter rfl
    · simp only [Recorded.WaitingOk, Service.record, hplace, hat]
      exact hafter rfl
  | checkRooms d rest rooms =>
    simp only [Recorded.WaitingOk, hplace] at h
    have hafter := waited_late hg hn (by simp [hplace]) (fun _ _ hsaw => hsaw) h
    cases rooms <;> simp only [Service.tick, hplace] at hn
    all_goals
      repeat' split at hn
      all_goals
        obtain rfl := Option.some.inj hn
        simp only [Recorded.WaitingOk, Service.record, hplace]
        exact hafter rfl
  | readPlayers d rest =>
    simp only [Recorded.WaitingOk, hplace] at h
    have hafter := waited_late hg hn (by simp [hplace]) (fun _ _ hsaw => hsaw) h
    simp only [Service.tick, hplace] at hn
    repeat' split at hn
    all_goals
      cases hn
      try
        simp only [Recorded.WaitingOk, Service.record, hplace]
        exact hafter rfl
  | checkState d rest =>
    simp only [Recorded.WaitingOk, hplace] at h
    have hafter := waited_late hg hn (by simp [hplace]) (fun _ _ hsaw => hsaw) h
    have hseen := waited_late hg hn (by simp [hplace]) (fun _ _ hsaw => hsaw.modifyHead (·.extends_see [d])) h
    simp only [Service.tick, hplace] at hn
    obtain rfl := Option.some.inj hn
    simp only [Recorded.WaitingOk, Service.record, hplace]
    split
    · exact hseen rfl
    · exact hafter rfl
  | waves d rest | finish d rest =>
    simp only [Recorded.WaitingOk, hplace] at h
    have hafter := waited_late hg hn (by simp [hplace]) (fun _ _ hsaw => hsaw) h
    simp only [Service.tick, hplace] at hn
    repeat' split at hn
    all_goals
      obtain rfl := Option.some.inj hn
      simp only [Recorded.WaitingOk, Service.record, hplace]
      exact hafter rfl
  | finished rest => exact waitingOk_finished hg h hplace hn
  | finishDungeon d rest =>
    simp only [Recorded.WaitingOk, hplace] at h
    have hafter := waited_late hg hn (by simp [hplace]) (fun _ _ hsaw => hsaw) h
    simp only [Service.tick, hplace] at hn
    have hw' := (thread_spec hn).2
    rw [hw'] at hafter ⊢
    simp only [Recorded.WaitingOk, Service.record, hplace]
    exact hafter rfl
  | released d rest =>
    simp only [Recorded.WaitingOk, hplace] at h
    have hafter := waited_late hg hn (by simp [hplace]) (fun _ _ hsaw => hsaw) h
    simp only [Service.tick, hplace] at hn
    rcases drain_cases hn with rfl | ⟨-, -, he⟩
    · simp only [Recorded.WaitingOk, Service.record, hplace]
      exact hafter rfl
    · rw [he] at hafter ⊢
      simp only [Recorded.WaitingOk, Service.record, hplace]
      exact hafter rfl

end

end DnfServer.Tick
