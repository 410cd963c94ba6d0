import DnfServer.Manager.Uniqueness

/-!
# The clock readings of a disconnect and of a registration

Both calls read the steady clock before they take the manager's lock, so the order of the
two readings says nothing about the order of the two critical sections. `Race` is one
disconnect of session `s` and one registration of its player `p` under session `new`, on
two threads, with every interleaving of reading and locking. `ReconnectParticipant`
refuses a registration whose reading lies before the disconnect's.
-/

namespace DnfServer.Manager

open Std DnfServer.Library DnfServer.Participants DungeonManager
set_option autoImplicit false

inductive Leaving where
  | idle
  | read (disconnectedAt : Int)
  | done (disconnectedAt : Int)
  deriving DecidableEq

/-- `afterLeaving` tells whether the disconnect had its critical section before. -/
inductive Joining where
  | idle
  | read (now : Int)
  | done (now : Int) (afterLeaving : Bool) (result : RegisterDungeonSessionResult)
  deriving DecidableEq

structure Race where
  clock : Int
  manager : DungeonManager
  leaving : Leaving := .idle
  joining : Joining := .idle

inductive RaceStep where
  | advance (elapsed : Nat)
  | readLeaving
  | leave
  | readJoining
  | join

/-- The call whose disconnect iterates in `order` and whose registration iterates in `order'`. -/
structure RaceCalls where
  sessionId : SessionId
  playerId : PlayerId
  newSessionId : SessionId
  reconnectGrace : Int
  order : List DungeonId
  order' : List DungeonId

def Leaving.isDone : Leaving → Bool
  | .done _ => true
  | _ => false

def Race.next (c : RaceCalls) (r : Race) : RaceStep → Option Race
  | .advance elapsed => some { r with clock := r.clock + elapsed }
  | .readLeaving => match r.leaving with
    | .idle => some { r with leaving := .read r.clock }
    | _ => none
  | .leave => match r.leaving with
    | .read t => some { r with
        manager := (r.manager.disconnectPlayerSession c.sessionId t c.order).2
        leaving := .done t }
    | _ => none
  | .readJoining => match r.joining with
    | .idle => some { r with joining := .read r.clock }
    | _ => none
  | .join => match r.joining with
    | .read u =>
      let out := r.manager.registerPlayerSession c.newSessionId c.playerId u c.reconnectGrace c.order'
      some { r with manager := out.2, joining := .done u r.leaving.isDone out.1 }
    | _ => none

/-! ## What a run of the two calls computes -/

/-- The result of the registration in a run whose disconnect has the lock first. -/
def raceResult (c : RaceCalls) (m : DungeonManager) (t u : Int) : RegisterDungeonSessionResult :=
  ((m.disconnectPlayerSession c.sessionId t c.order).2.registerPlayerSession c.newSessionId
    c.playerId u c.reconnectGrace c.order').1

/-- The manager of a race follows from which calls have had the lock. -/
structure Race.Follows (c : RaceCalls) (m : DungeonManager) (r : Race) : Prop where
  untouched : r.leaving.isDone = false → (∀ u b result, r.joining ≠ .done u b result) → r.manager = m
  left : ∀ t, r.leaving = .done t → (∀ u b result, r.joining ≠ .done u b result) →
    r.manager = (m.disconnectPlayerSession c.sessionId t c.order).2
  early : ∀ u b result, r.leaving.isDone = false → r.joining = .done u b result → b = false
  joined : ∀ t u result, r.leaving = .done t → r.joining = .done u true result →
    result = raceResult c m t u

theorem Race.follows_next {c : RaceCalls} {m : DungeonManager} {r r' : Race} {step : RaceStep}
    (h : r.Follows c m) (hn : r.next c step = some r') : r'.Follows c m := by
  obtain ⟨h1, h2, h3, h4⟩ := h
  obtain ⟨clock, manager, leaving, joining⟩ := r
  cases step with
  | advance elapsed =>
    obtain rfl := Option.some.inj hn
    exact ⟨h1, h2, h3, h4⟩
  | readLeaving =>
    cases leaving <;> simp only [Race.next, Option.some.injEq, reduceCtorEq] at hn
    subst hn
    refine ⟨fun _ hj => h1 rfl hj, ?_, fun u b result _ hj => h3 u b result rfl hj, ?_⟩
    · intro t ht
      cases ht
    · intro t u result ht
      cases ht
  | leave =>
    cases leaving <;> simp only [Race.next, Option.some.injEq, reduceCtorEq] at hn
    rename_i t
    subst hn
    refine ⟨?_, ?_, ?_, ?_⟩
    · intro hd
      cases hd
    · intro t' ht hj
      cases ht
      have hm : manager = m := h1 rfl hj
      rw [hm]
    · intro u b result hd
      cases hd
    · -- a registration that came before the disconnect is recorded as such
      intro t' u result _ hj
      have hb : true = false := h3 u true result rfl hj
      cases hb
  | readJoining =>
    cases joining <;> simp only [Race.next, Option.some.injEq, reduceCtorEq] at hn
    subst hn
    refine ⟨fun hl _ => h1 hl (by simp), fun t ht _ => h2 t ht (by simp), ?_, ?_⟩
    · intro u b result _ hj
      cases hj
    · intro t u result _ hj
      cases hj
  | join =>
    cases joining <;> simp only [Race.next, Option.some.injEq, reduceCtorEq] at hn
    rename_i u
    subst hn
    refine ⟨?_, ?_, ?_, ?_⟩
    · intro _ hj
      exact absurd rfl (hj u leaving.isDone _)
    · intro t _ hj
      exact absurd rfl (hj u leaving.isDone _)
    · intro u' b result hl hj
      simp only [Joining.done.injEq] at hj
      rw [← hj.2.1]
      exact hl
    · intro t u' result ht hj
      simp only [Joining.done.injEq] at hj
      obtain ⟨rfl, -, rfl⟩ := hj
      have hm := h2 t ht (by simp)
      simp only at hm
      rw [hm]
      rfl

theorem race_follows {c : RaceCalls} {m : DungeonManager} {clock : Int} {steps : List RaceStep}
    {r : Race} (hr : run (Race.next c) { clock, manager := m } steps = some r) : r.Follows c m := by
  refine reachable_invariant (Race.Follows c m) (fun _ _ _ h hn => Race.follows_next h hn) ?_ ⟨steps, hr⟩
  exact ⟨fun _ _ => rfl, by simp, by simp, by simp⟩

/-- Two readings of the monotone clock are met in some run, in either order, with the
disconnect first at the lock. -/
theorem race_exists (c : RaceCalls) (m : DungeonManager) {clock t u : Int} (ht : clock ≤ t)
    (hu : clock ≤ u) : ∃ steps r, run (Race.next c) { clock, manager := m } steps = some r ∧
      r.leaving = .done t ∧ r.joining = .done u true (raceResult c m t u) := by
  by_cases htu : t ≤ u
  · obtain ⟨i, hi⟩ := Int.le.dest ht
    obtain ⟨j, hj⟩ := Int.le.dest htu
    refine ⟨[.advance i, .readLeaving, .advance j, .readJoining, .leave, .join], _, rfl, ?_, ?_⟩
    · simp only [← hi]
    · simp only [← hj, ← hi, raceResult, Leaving.isDone]
  · obtain ⟨i, hi⟩ := Int.le.dest hu
    obtain ⟨j, hj⟩ := Int.le.dest (show u ≤ t by omega)
    refine ⟨[.advance i, .readJoining, .advance j, .readLeaving, .leave, .join], _, rfl, ?_, ?_⟩
    · simp only [← hj, ← hi]
    · simp only [← hj, ← hi, raceResult, Leaving.isDone]

/-! ## When the registration takes the slot back -/

/-- Player `p` is active on session `s` and bound through it in a live dungeon that is not
finished. -/
structure Online (m : DungeonManager) (d : DungeonId) (dungeon : DungeonInstance) (p s : Nat) :
    Prop where
  live : m.dungeons[d]? = some dungeon
  unfinished : dungeon.state ≠ .finished
  bound : dungeon.playerSessions[p]? = some s
  active : m.activePlayerSessions[p]? = some s

/-- A session that has not registered yet and is no participant, as every session is when
its login completes. -/
structure Fresh (m : DungeonManager) (new : SessionId) : Prop where
  nonzero : new ≠ 0
  unknown : new ∉ m.authenticatedPlayers
  absent : Absent m.dungeons new

/-- No unfinished dungeon other than `d` would take the player back. -/
def OnlySlot (m : DungeonManager) (d : DungeonId) (p new : Nat) (u grace : Int) : Prop :=
  ∀ (e : DungeonId) (other : DungeonInstance) (old : SessionId) (at' : Int),
    m.dungeons[e]? = some other → e ≠ d → other.state ≠ .finished →
    ¬ Reconnectable other p new u grace old at'

/-- The session is a participant of no live dungeon other than `d`. -/
def OnlyIn (m : DungeonManager) (d : DungeonId) (s : SessionId) : Prop :=
  ∀ (e : DungeonId) (other : DungeonInstance), m.dungeons[e]? = some other →
    s ∈ other.players → e = d

variable {h : History} {d : DungeonId} {dungeon : DungeonInstance} {p s new : Nat}
  {t u grace : Int} {order order' : List DungeonId}

namespace Online

theorem participant (hon : Online h.manager d dungeon p s) (hi : Indexed h) :
    s ∈ dungeon.players ∧ s ≠ 0 :=
  ⟨((hi.index.consistent d dungeon hon.live).bound_session hon.bound).1,
    ((hi.index.consistent d dungeon hon.live).bound_session hon.bound).2.2⟩

theorem connected (hon : Online h.manager d dungeon p s) (hi : Indexed h) :
    s ∉ dungeon.disconnectedSince := by
  intro hm
  have hauth := (hi.inverse s p).mpr hon.active
  exact hi.closed s (hi.marked d dungeon hon.live s hm) (by grind)

theorem player_ne (hon : Online h.manager d dungeon p s) (hi : Indexed h) : p ≠ 0 := by
  have := hi.nonzero.2
  have := hon.active
  grind

theorem running (hon : Online h.manager d dungeon p s) (hi : Indexed h) :
    h.manager.stopping = false := by
  by_contra hstop
  have hnone := hi.index.stopped (by simpa using hstop) d
  rw [hon.live] at hnone
  cases hnone

end Online

/-- The disconnect of a session that is in dungeon `d` only. -/
theorem disconnect_only (hi : Indexed h) (hon : Online h.manager d dungeon p s)
    (hin : OnlyIn h.manager d s) (ho : IterationOrder h.manager.dungeons order) :
    h.manager.disconnectPlayerSession s t order = (some d, { h.manager.forgetSession s with
      dungeons := h.manager.dungeons.insert d (marked s t dungeon) }) := by
  have hs := hon.participant hi
  rcases disconnectPlayer_cases ho s t with ⟨h0, -⟩ | ⟨-, hnone, -⟩ | ⟨-, e, other, he, hmem, heq⟩
  · exact absurd h0 hs.2
  · exact absurd hs.1 (hnone d dungeon hon.live)
  · obtain rfl := hin e other he hmem
    rw [hon.live] at he
    cases he
    exact heq

theorem insert_order {dungeons : IdMap DungeonInstance} {other : DungeonInstance}
    (hd : dungeons[d]? = some dungeon) (ho : IterationOrder dungeons order) :
    IterationOrder (dungeons.insert d other) order := by
  have hkeys : (dungeons.insert d other).keys.Perm dungeons.keys := by
    rw [List.perm_ext_iff_of_nodup ExtTreeMap.nodup_keys ExtTreeMap.nodup_keys]
    intro e
    rw [ExtTreeMap.mem_keys, ExtTreeMap.mem_keys]
    grind
  exact ho.trans hkeys.symm

/-- The checks of the registration pass once the disconnect has released the player. -/
theorem admitted_after_leave (hi : Indexed h) (hon : Online h.manager d dungeon p s)
    (hnew : Fresh h.manager new) (hg : 0 < grace) (dungeons : IdMap DungeonInstance) :
    Admitted { h.manager.forgetSession s with dungeons } new p grace := by
  obtain ⟨-, hauth, hact⟩ := hi.forget s
  have hunknown := hnew.unknown
  have hactive := hon.active
  refine ⟨hnew.nonzero, hon.player_ne hi, hg, ?_, ?_, ?_⟩
  · simpa using hon.running hi
  · intro q hq
    simp only [hauth] at hq
    grind
  · intro x hx
    simp only [hact] at hx
    grind

/-- A registration that reports a reconnect in `d` found the slot waiting there. -/
theorem reconnectable_of_result {m : DungeonManager} (hall : AllConsistent m.dungeons)
    (ho : IterationOrder m.dungeons order)
    (hs : (m.registerPlayerSession new p u grace order).1.status = .reconnected) :
    ∃ dungeon old at', m.dungeons[(m.registerPlayerSession new p u grace order).1.dungeonId]? =
      some dungeon ∧ Reconnectable dungeon p new u grace old at' := by
  cases register_outcome hall ho new p u grace with
  | refused ha he => simp [he] at hs
  | unbound ha e dungeon hd hmem hb he => simp [he] at hs
  | bound ha e dungeon hd hmem hb he => simp [he] at hs
  | newcomer ha hnone hr he => simp [he] at hs
  | back ha hnone e dungeon old at' player hd hf hr hp he =>
    rw [he]
    exact ⟨dungeon, old, at', hd, hr⟩

/-- A registration takes the slot of the first dungeon of the order, if it waits there. -/
theorem register_first {m : DungeonManager} (ha : Admitted m new p grace)
    (habsent : Absent m.dungeons new) {e : DungeonId} {other : DungeonInstance}
    (hc : Consistent other) (he : m.dungeons[e]? = some other) (hf : other.state ≠ .finished)
    {old : SessionId} {at' : Int} (hr : Reconnectable other p new u grace old at')
    (rest : List DungeonId) :
    (m.registerPlayerSession new p u grace (e :: rest)).1.dungeonId = e := by
  obtain ⟨player, hp, -⟩ := hc.player_of_session hr.bound
  have hnone : (signIn new p m).firstWithParticipant new (e :: rest) = none := by
    cases hfound : (signIn new p m).firstWithParticipant new (e :: rest) with
    | none => rfl
    | some found =>
      obtain ⟨hd, hmem⟩ := firstWithParticipant_some hfound
      exact absurd hmem (habsent _ _ hd)
  have hd : (signIn new p m).dungeons[e]? = some other := he
  rw [register_admitted ha, joinDungeon, hnone]
  simp only [reconnectLoop, hd, hf, ↓reduceIte, reconnect_some hc hr hp]

theorem order_from {dungeons : IdMap DungeonInstance} {e : DungeonId} {other : DungeonInstance}
    (he : dungeons[e]? = some other) : IterationOrder dungeons (e :: dungeons.keys.erase e) := by
  refine (List.perm_cons_erase ?_).symm
  rw [ExtTreeMap.mem_keys]
  grind

/-- With the readings in order, and the session and the player in dungeon `d` only, the
registration takes the slot back whatever the iteration orders are. -/
theorem raceResult_eq (hi : Indexed h) (hon : Online h.manager d dungeon p s)
    (hnew : Fresh h.manager new) (htu : t ≤ u) (hgap : u - t < grace)
    (hin : OnlyIn h.manager d s) (hslot : OnlySlot h.manager d p new u grace)
    (ho : IterationOrder h.manager.dungeons order)
    (ho' : IterationOrder h.manager.dungeons order') :
    raceResult ⟨s, p, new, grace, order, order'⟩ h.manager t u =
      { status := .reconnected, dungeonId := d, replacedSessionId := s, disconnectedAt := some t } := by
  have hleave := disconnect_only (t := t) hi hon hin ho
  have hall := (hi.index.disconnect ho s t).consistent
  have hg : 0 < grace := by omega
  have hadm := admitted_after_leave hi hon hnew hg (h.manager.dungeons.insert d (marked s t dungeon))
  have habsent := hnew.absent d dungeon hon.live
  have hconnected := hon.connected hi
  have hwaits : Reconnectable (marked s t dungeon) p new u grace s t := by
    refine ⟨hon.player_ne hi, hnew.nonzero, hg, hon.bound, ?_, habsent, htu, hgap⟩
    simp only [marked]
    grind
  simp only [raceResult]
  rw [hleave] at hall ⊢
  have ho1 : IterationOrder (h.manager.dungeons.insert d (marked s t dungeon)) order' :=
    insert_order hon.live ho'
  have hother : ∀ (e : DungeonId) (other : DungeonInstance),
      (h.manager.dungeons.insert d (marked s t dungeon))[e]? = some other →
      (e = d ∧ other = marked s t dungeon) ∨ (e ≠ d ∧ h.manager.dungeons[e]? = some other) := by
    intro e other he
    grind
  have habsent' : ∀ (e : DungeonId) (other : DungeonInstance),
      (h.manager.dungeons.insert d (marked s t dungeon))[e]? = some other → new ∉ other.players := by
    intro e other he
    rcases hother e other he with ⟨-, rfl⟩ | ⟨-, he⟩
    · exact habsent
    · exact hnew.absent e other he
  cases register_outcome hall ho1 new p u grace with
  | refused ha he => exact absurd hadm ha
  | unbound ha e other hd hmem hb he => exact absurd hmem (habsent' e other hd)
  | bound ha e other hd hmem hb he => exact absurd hmem (habsent' e other hd)
  | newcomer ha hnone hr he => exact absurd hwaits (hr d _ s t (by simp) hon.unfinished)
  | back ha hnone e other old at' player hd hf hr hp he =>
    rcases hother e other hd with ⟨rfl, rfl⟩ | ⟨hne, hd'⟩
    · have hold : old = s := by
        have := hr.bound
        have := hwaits.bound
        grind
      have hat : at' = t := by
        have := hr.since
        have := hwaits.since
        grind
      rw [he, hold, hat]
    · exact absurd hr (hslot e other old at' hd' hne hf)

/-! ## What the reconnect requires -/

/-- In another dungeon of the session, visited first, the disconnect leaves its mark, and `d` is
left without one. -/
theorem onlyIn_of_reconnected (hi : Indexed h) (hon : Online h.manager d dungeon p s)
    (hall : ∀ order order', IterationOrder h.manager.dungeons order →
      IterationOrder h.manager.dungeons order' →
      (raceResult ⟨s, p, new, grace, order, order'⟩ h.manager t u).status = .reconnected ∧
        (raceResult ⟨s, p, new, grace, order, order'⟩ h.manager t u).dungeonId = d) :
    OnlyIn h.manager d s := by
  intro e other he hmem
  by_contra hne
  have ho := order_from he
  have hkeys : IterationOrder h.manager.dungeons h.manager.dungeons.keys := List.Perm.refl _
  obtain ⟨hstatus, hid⟩ := hall _ _ ho hkeys
  have hfirst : h.manager.disconnectPlayerSession s t (e :: h.manager.dungeons.keys.erase e) =
      (some e, { h.manager.forgetSession s with
        dungeons := h.manager.dungeons.insert e (marked s t other) }) := by
    have hpart : other.hasParticipant s = true := by
      simpa [DungeonInstance.hasParticipant] using hmem
    rw [disconnectPlayerSession, if_neg (hon.participant hi).2]
    simp only [firstWithParticipant, List.findSome?_cons, forgetSession_dungeons, he,
      Option.bind_some, hpart, ↓reduceIte, disconnectParticipant_eq hmem]
  have hcons := (hi.index.disconnect ho s t).consistent
  simp only [raceResult] at hstatus hid
  rw [hfirst] at hcons hstatus hid
  obtain ⟨x, old, at', hx, hr⟩ :=
    reconnectable_of_result hcons (insert_order he hkeys) hstatus
  simp only [hid] at hx
  have hxd : x = dungeon := by
    have := hon.live
    grind
  rw [hxd] at hr
  have hold : old = s := by
    have := hr.bound
    have := hon.bound
    grind
  have hsince := hr.since
  have := hon.connected hi
  rw [hold] at hsince
  grind

/-- The mark that the registration finds carries the reading of the disconnect. -/
theorem le_of_reconnected (hi : Indexed h) (hon : Online h.manager d dungeon p s)
    (hin : OnlyIn h.manager d s) (ho : IterationOrder h.manager.dungeons order)
    (ho' : IterationOrder h.manager.dungeons order')
    (hstatus : (raceResult ⟨s, p, new, grace, order, order'⟩ h.manager t u).status = .reconnected)
    (hid : (raceResult ⟨s, p, new, grace, order, order'⟩ h.manager t u).dungeonId = d) : t ≤ u := by
  have hcons := (hi.index.disconnect ho s t).consistent
  simp only [raceResult] at hstatus hid
  rw [disconnect_only (t := t) hi hon hin ho] at hcons hstatus hid
  obtain ⟨x, old, at', hx, hr⟩ :=
    reconnectable_of_result hcons (insert_order hon.live ho') hstatus
  simp only [hid, ExtTreeMap.getElem?_insert_self, Option.some.injEq] at hx
  subst hx
  have hold : old = s := by
    have h1 := hr.bound
    have h2 := hon.bound
    simp only [marked] at h1
    grind
  have hsince := hr.since
  have := hon.connected hi
  have hat : at' = t := by
    simp only [marked, hold] at hsince
    grind
  rw [← hat]
  exact hr.after

/-- Another dungeon that would take the player back does so when it is visited first. -/
theorem onlySlot_of_reconnected (hi : Indexed h) (hon : Online h.manager d dungeon p s)
    (hnew : Fresh h.manager new) (hg : 0 < grace) (hin : OnlyIn h.manager d s)
    (hall : ∀ order', IterationOrder h.manager.dungeons order' →
      (raceResult ⟨s, p, new, grace, h.manager.dungeons.keys, order'⟩ h.manager t u).dungeonId = d) :
    OnlySlot h.manager d p new u grace := by
  intro e other old at' he hne hf hr
  have hid := hall _ (order_from he)
  simp only [raceResult] at hid
  rw [disconnect_only (t := t) hi hon hin (List.Perm.refl _)] at hid
  have hadm := admitted_after_leave hi hon hnew hg (h.manager.dungeons.insert d (marked s t dungeon))
  have habsent : Absent (h.manager.dungeons.insert d (marked s t dungeon)) new := by
    intro x y hx
    have h1 := hnew.absent x y
    have h2 := hnew.absent d dungeon hon.live
    by_cases hxd : x = d
    · subst hxd
      simp only [ExtTreeMap.getElem?_insert_self, Option.some.injEq] at hx
      subst hx
      exact h2
    · exact h1 (by grind)
  have he' : (h.manager.dungeons.insert d (marked s t dungeon))[e]? = some other := by grind
  have := register_first hadm habsent (hi.index.consistent e other he) he' hf hr
    (h.manager.dungeons.keys.erase e)
  exact hne (this.symm.trans hid)

/-- For readings less than the grace apart: every interleaving in which the disconnect has
the lock first, under every iteration order, makes the registration return a reconnect
to `d`, if and only if the disconnect's reading is not the later one, the session sits in
no other live dungeon, and no other unfinished dungeon would take the player back. -/
theorem reconnected_iff_readings_ordered {calls : List Call}
    (hrun : run History.next {} calls = some h) (hon : Online h.manager d dungeon p s)
    (hnew : Fresh h.manager new) {clock : Int} (ht : clock ≤ t) (hu : clock ≤ u)
    (hgap : u - t < grace) (hgap' : t - u < grace) :
    (∀ order order' steps r result, IterationOrder h.manager.dungeons order →
      IterationOrder h.manager.dungeons order' →
      run (Race.next ⟨s, p, new, grace, order, order'⟩) { clock, manager := h.manager } steps = some r →
      r.leaving = .done t → r.joining = .done u true result →
      result.status = .reconnected ∧ result.dungeonId = d) ↔
    t ≤ u ∧ OnlyIn h.manager d s ∧ OnlySlot h.manager d p new u grace := by
  have hi := indexed_of_reachable ⟨calls, hrun⟩
  have hg : 0 < grace := by omega
  constructor
  · intro hall
    -- it is enough to look at the results, since every pair of readings is met by a run
    have hresult : ∀ order order', IterationOrder h.manager.dungeons order →
        IterationOrder h.manager.dungeons order' →
        (raceResult ⟨s, p, new, grace, order, order'⟩ h.manager t u).status = .reconnected ∧
          (raceResult ⟨s, p, new, grace, order, order'⟩ h.manager t u).dungeonId = d := by
      intro order order' ho ho'
      obtain ⟨steps, r, hr, hl, hj⟩ :=
        race_exists ⟨s, p, new, grace, order, order'⟩ h.manager ht hu
      exact hall order order' steps r _ ho ho' hr hl hj
    have hkeys : IterationOrder h.manager.dungeons h.manager.dungeons.keys := List.Perm.refl _
    have hin := onlyIn_of_reconnected hi hon hresult
    obtain ⟨hstatus, hid⟩ := hresult _ _ hkeys hkeys
    exact ⟨le_of_reconnected hi hon hin hkeys hkeys hstatus hid, hin,
      onlySlot_of_reconnected hi hon hnew hg hin fun order' ho' => (hresult _ order' hkeys ho').2⟩
  · rintro ⟨htu, hin, hslot⟩ order order' steps r result ho ho' hr hl hj
    have hres := (race_follows hr).joined t u result hl hj
    rw [hres, raceResult_eq hi hon hnew htu hgap hin hslot ho ho']
    exact ⟨rfl, rfl⟩

/-- Two registered players in one dungeon. -/
def twoPlaying : List Call :=
  [.registerPlayerSession 100 5001 0 60 [], .registerPlayerSession 101 5002 0 60 [],
    .createDungeon partyOfTwo oneDungeonCatalog 7 1 1]

theorem twoPlaying_online : ∃ h dungeon, run History.next {} twoPlaying = some h ∧
    Online h.manager 1 dungeon 5001 100 ∧ Fresh h.manager 300 ∧
    ∀ (e : DungeonId) (other : DungeonInstance), h.manager.dungeons[e]? = some other → e = 1 := by
  obtain ⟨h, hrun⟩ : ∃ h, run History.next {} twoPlaying = some h :=
    Option.isSome_iff_exists.mp (by decide)
  obtain ⟨dungeon, hd, hs, hb⟩ : ∃ dungeon : DungeonInstance, h.manager.dungeons[1]? = some dungeon ∧
      dungeon.state ≠ .finished ∧ dungeon.playerSessions[5001]? = some 100 := by
    cases hrun
    decide
  have hactive : h.manager.activePlayerSessions[5001]? = some 100 := by
    cases hrun
    decide
  have hfresh : 300 ∉ h.manager.authenticatedPlayers ∧ Absent h.manager.dungeons 300 := by
    cases hrun
    decide
  have hone : ∀ (e : DungeonId) (other : DungeonInstance),
      h.manager.dungeons[e]? = some other → e = 1 := by
    cases hrun
    decide
  exact ⟨h, dungeon, hrun, ⟨hd, hs, hb, hactive⟩, ⟨by decide, hfresh.1, hfresh.2⟩, hone⟩

theorem reconnected_twoPlaying : ∃ h dungeon, run History.next {} twoPlaying = some h ∧
    Online h.manager 1 dungeon 5001 100 ∧ Fresh h.manager 300 ∧
    ∀ order order' steps r result, IterationOrder h.manager.dungeons order →
      IterationOrder h.manager.dungeons order' →
      run (Race.next ⟨100, 5001, 300, 60, order, order'⟩) ⟨10, h.manager, .idle, .idle⟩ steps = some r →
      r.leaving = .done 10 → r.joining = .done 11 true result →
      result.status = .reconnected ∧ result.dungeonId = 1 := by
  obtain ⟨h, dungeon, hrun, hon, hnew, hone⟩ := twoPlaying_online
  refine ⟨h, dungeon, hrun, hon, hnew, ?_⟩
  refine (reconnected_iff_readings_ordered hrun hon hnew (by decide) (by decide) (by decide)
    (by decide)).mpr ⟨by decide, ?_, ?_⟩
  · intro e other he _
    exact hone e other he
  · intro e other old at' he hne
    exact absurd (hone e other he) hne

/-- The registration reads the clock, the disconnect reads it one unit later and takes the
lock first: the registration is a plain one. -/
theorem registered_although_in_grace : ∃ h dungeon r result,
    run History.next {} twoPlaying = some h ∧ Online h.manager 1 dungeon 5001 100 ∧
    Fresh h.manager 300 ∧
    run (Race.next ⟨100, 5001, 300, 60, [1], [1]⟩) ⟨10, h.manager, .idle, .idle⟩
      [.readJoining, .advance 1, .readLeaving, .leave, .join] = some r ∧
    r.leaving = .done 11 ∧ r.joining = .done 10 true result ∧ result.status = .registered ∧
    result.dungeonId = 0 := by
  obtain ⟨h, dungeon, hrun, hon, hnew, -⟩ := twoPlaying_online
  refine ⟨h, dungeon, _, _, hrun, hon, hnew, rfl, rfl, rfl, ?_⟩
  cases hrun
  decide

end DnfServer.Manager
