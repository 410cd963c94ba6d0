import DnfServer.Manager.Effects

/-!
# The indices of the manager

`DungeonManager` keeps four maps: the live dungeons by id, the dungeon of each party, and
the two directions between sessions and players. A history is any sequence of calls of
its nine operations. Two rules come from the callers: a session that was disconnected is
not registered again, and a reconnect is rolled back only by the session that made it,
before that session calls the manager again. `closed` and `reconnects` record what these
rules speak of, and `issued` the dungeon ids handed out so far.
-/

namespace DnfServer.Manager

open Std DnfServer.Library DnfServer.Participants DungeonManager
set_option autoImplicit false

/-- What a registration that took a slot back returned. -/
structure PlayerReconnect where
  dungeonId : DungeonId
  playerId : PlayerId
  replacedSessionId : SessionId
  disconnectedAt : Int
  deriving DecidableEq

inductive Call where
  | createDungeon (parties : PartyManager) (catalog : DungeonCatalog) (partyId : PartyId)
      (templateId : DungeonTemplateId) (now : Int)
  | registerPlayerSession (sessionId : SessionId) (playerId : PlayerId) (now reconnectGrace : Int)
      (order : List DungeonId)
  | rollbackPlayerReconnect (newSessionId : SessionId) (reconnect : PlayerReconnect)
  | disconnectPlayerSession (sessionId : SessionId) (disconnectedAt : Int) (order : List DungeonId)
  | sweepAbandonedParticipants (now reconnectGrace maxDungeonLifetime : Int)
  | startDungeon (enemyCatalog : EnemyCatalog) (dungeonId : DungeonId)
  | cancelDungeon (dungeonId : DungeonId)
  | finishCleared (dungeonId : DungeonId)
  | finishDungeon (dungeonId : DungeonId)
  | stop

structure History where
  manager : DungeonManager := {}
  closed : List SessionId := []
  reconnects : IdMap PlayerReconnect := ∅
  issued : List DungeonId := []

/-- The ids that a call of `CreateDungeon` handed out. -/
def createdIds : Except Failure CreateDungeonResult → List DungeonId
  | .ok { status := .success, dungeon := some dungeon } => [dungeon.dungeonId]
  | _ => []

/-- The reconnect that a registration reports, if it made one. -/
def reconnectOf (playerId : PlayerId) (result : RegisterDungeonSessionResult) :
    Option PlayerReconnect :=
  match result.status, result.disconnectedAt with
  | .reconnected, some disconnectedAt => some
      { dungeonId := result.dungeonId, playerId
        replacedSessionId := result.replacedSessionId, disconnectedAt }
  | _, _ => none

namespace History

def next (h : History) : Call → Option History
  | .createDungeon parties catalog partyId templateId now =>
    let out := h.manager.createDungeon parties catalog partyId templateId now
    some { h with manager := out.2, issued := createdIds out.1 ++ h.issued }
  | .registerPlayerSession s p now grace order =>
    if s ∉ h.closed ∧ IterationOrder h.manager.dungeons order then
      let out := h.manager.registerPlayerSession s p now grace order
      some { h with
        manager := out.2
        reconnects := match reconnectOf p out.1 with
          | some reconnect => h.reconnects.insert s reconnect
          | none => h.reconnects.erase s }
    else none
  | .rollbackPlayerReconnect new reconnect =>
    if h.reconnects[new]? = some reconnect then
      some { h with
        manager := (h.manager.rollbackPlayerReconnect reconnect.dungeonId reconnect.playerId new
          reconnect.replacedSessionId reconnect.disconnectedAt).2
        reconnects := h.reconnects.erase new }
    else none
  | .disconnectPlayerSession s t order =>
    if IterationOrder h.manager.dungeons order then
      some { h with
        manager := (h.manager.disconnectPlayerSession s t order).2
        closed := s :: h.closed
        reconnects := h.reconnects.erase s }
    else none
  | .sweepAbandonedParticipants now grace lifetime =>
    some { h with manager := (h.manager.sweepAbandonedParticipants now grace lifetime).2 }
  | .startDungeon catalog d => some { h with manager := (h.manager.startDungeon catalog d).2 }
  | .cancelDungeon d => some { h with manager := (h.manager.cancelDungeon d).2 }
  | .finishCleared d => some { h with manager := finishCleared d h.manager }
  | .finishDungeon d => some { h with manager := (h.manager.finishDungeon d).2 }
  | .stop => some { h with manager := h.manager.stop }

end History

theorem issued_mono {h h' : History} {call : Call} (hn : h.next call = some h') {d : DungeonId}
    (hd : d ∈ h.issued) : d ∈ h'.issued := by
  cases call <;> simp only [History.next] at hn <;> grind

/-! ## The dungeons and the parties -/

/-- The live dungeons, the dungeons of the parties and the ids handed out agree. -/
structure DungeonIndex (m : DungeonManager) (issued : List DungeonId) : Prop where
  consistent : AllConsistent m.dungeons
  parties : ∀ (party : PartyId) (d : DungeonId), m.partyDungeons[party]? = some d ↔
    ∃ dungeon, m.dungeons[d]? = some dungeon ∧ dungeon.partyId = party
  keyed : ∀ (d : DungeonId) (dungeon : DungeonInstance), m.dungeons[d]? = some dungeon →
    dungeon.dungeonId = d
  live : ∀ d, d ∈ m.dungeons → d ∈ issued
  below : ∀ d ∈ issued, d < m.nextDungeonId
  distinct : issued.Nodup
  nonzero : 0 ∉ issued
  stopped : m.stopping = true → ∀ d : DungeonId, m.dungeons[d]? = none

namespace DungeonIndex

variable {m m' : DungeonManager} {issued : List DungeonId}

/-- Two dungeons of one party are the same. -/
theorem same_party (h : DungeonIndex m issued) {d e : DungeonId} {dungeon other : DungeonInstance}
    (hd : m.dungeons[d]? = some dungeon) (he : m.dungeons[e]? = some other)
    (hp : dungeon.partyId = other.partyId) : d = e := by
  have h1 := (h.parties dungeon.partyId d).mpr ⟨dungeon, hd, rfl⟩
  have h2 := (h.parties dungeon.partyId e).mpr ⟨other, he, hp.symm⟩
  rw [h1] at h2
  exact Option.some.inj h2

/-- Only the identities change. -/
theorem same (h : DungeonIndex m issued) (hd : m'.dungeons = m.dungeons)
    (hp : m'.partyDungeons = m.partyDungeons) (hn : m'.nextDungeonId = m.nextDungeonId)
    (hs : m'.stopping = m.stopping) : DungeonIndex m' issued := by
  obtain ⟨h1, h2, h3, h4, h5, h6, h7, h8⟩ := h
  exact ⟨by rwa [hd], by rwa [hd, hp], by rwa [hd], by rwa [hd], by rwa [hn], h6, h7, by rwa [hd, hs]⟩

/-- One live dungeon is rewritten. -/
theorem update (h : DungeonIndex m issued) {d : DungeonId} {dungeon dungeon' : DungeonInstance}
    (hd : m.dungeons[d]? = some dungeon) (hc : Consistent dungeon')
    (hid : dungeon'.dungeonId = dungeon.dungeonId) (hparty : dungeon'.partyId = dungeon.partyId)
    (hm : m'.dungeons = m.dungeons.insert d dungeon') (hp : m'.partyDungeons = m.partyDungeons)
    (hn : m'.nextDungeonId = m.nextDungeonId) (hs : m'.stopping = m.stopping) :
    DungeonIndex m' issued := by
  refine ⟨?_, ?_, ?_, ?_, ?_, h.distinct, h.nonzero, ?_⟩
  · rw [hm]
    exact allConsistent_insert h.consistent hc
  · intro party x
    rw [hm, hp, h.parties party x]
    grind
  · intro x y hx
    rw [hm] at hx
    have := h.keyed x y
    have := h.keyed d dungeon hd
    grind
  · intro x hx
    rw [hm] at hx
    have := h.live x
    grind
  · rw [hn]
    exact h.below
  · intro hstop
    rw [hs] at hstop
    have := h.stopped hstop d
    grind

theorem removeDungeon (h : DungeonIndex m issued) {d : DungeonId} {dungeon : DungeonInstance}
    (hd : m.dungeons[d]? = some dungeon) : DungeonIndex (m.removeDungeon d dungeon) issued := by
  refine ⟨?_, ?_, ?_, ?_, h.below, h.distinct, h.nonzero, ?_⟩
  · intro x y hx
    have := h.consistent x y
    simp only [DungeonManager.removeDungeon] at hx
    grind
  · intro party x
    have hx := h.parties party x
    have hsame := fun (other : DungeonInstance) (ho : m.dungeons[x]? = some other) =>
      h.same_party hd ho
    simp only [DungeonManager.removeDungeon]
    grind
  · intro x y hx
    have := h.keyed x y
    simp only [DungeonManager.removeDungeon] at hx
    grind
  · intro x hx
    have := h.live x
    simp only [DungeonManager.removeDungeon] at hx
    grind
  · intro hstop x
    have := h.stopped hstop x
    simp only [DungeonManager.removeDungeon]
    grind

/-- A new dungeon under the next id. -/
theorem insertDungeon (h : DungeonIndex m issued) (partyId : PartyId) (party : PartyInfo)
    (template : DungeonTemplate) (now : Int) :
    DungeonIndex (m.insertDungeon partyId party template now).2
      (createdIds (m.insertDungeon partyId party template now).1 ++ issued) := by
  rcases insert_cases m partyId party template now with
    ⟨status, -, he⟩ | ⟨failure, he⟩ | ⟨built, dungeon, ⟨hrun, hp, -⟩, hnew, hb, he⟩
  · rw [he]
    have hc : createdIds (.ok { status }) = [] := by cases status <;> rfl
    rw [hc]
    exact h
  · rw [he]
    refine ⟨h.consistent, h.parties, h.keyed, h.live, ?_, h.distinct, h.nonzero, h.stopped⟩
    intro d hd
    exact Nat.lt_succ_of_lt (h.below d hd)
  · rw [he]
    have hbinds : Binds m.authenticatedPlayers built dungeon := hb ▸ binds_bindMembers _ _
    obtain ⟨hid, hparty, -⟩ := new_spec hnew
    have hdid : dungeon.dungeonId = m.nextDungeonId := hbinds.dungeonId.trans hid
    have hfree : m.nextDungeonId ∉ issued := fun hm => Nat.lt_irrefl _ (h.below _ hm)
    have hlive : m.nextDungeonId ∉ m.dungeons := fun hm => hfree (h.live _ hm)
    have hpartyId : dungeon.partyId = partyId := hbinds.partyId.trans hparty
    have hnext : m.nextDungeonId ≠ 0 := by
      intro h0
      rw [DungeonInstance.new, if_pos (Or.inl h0)] at hnew
      cases hnew
    simp only [createdIds, hdid, List.singleton_append]
    refine ⟨?_, ?_, ?_, ?_, ?_, List.nodup_cons.mpr ⟨hfree, h.distinct⟩, ?_, ?_⟩
    · intro x y hx
      have := h.consistent x y
      have := hbinds.consistent (new_consistent hnew)
      simp only at hx
      grind
    · intro q x
      have := h.parties q x
      have := h.parties partyId x
      simp only
      grind
    · intro x y hx
      have := h.keyed x y
      simp only at hx
      grind
    · intro x hx
      have := h.live x
      simp only at hx
      grind
    · intro x hx
      have := h.below x
      simp only
      grind
    · have := h.nonzero
      grind
    · intro hstop
      rw [hrun] at hstop
      cases hstop

theorem sweep (h : DungeonIndex m issued) (now grace lifetime : Int) :
    DungeonIndex (m.sweepAbandonedParticipants now grace lifetime).2 issued := by
  by_cases hpos : 0 < grace ∧ 0 < lifetime
  · have heff := sweep_effect hpos.1 hpos.2 now m
    refine ⟨?_, ?_, ?_, ?_, ?_, h.distinct, h.nonzero, ?_⟩
    · intro d dungeon' hd'
      obtain ⟨dungeon, hd, -, rfl⟩ := heff.kept h.consistent hpos.1 hd'
      exact without_consistent (h.consistent d dungeon hd) _
    · intro party d
      constructor
      · -- the entry survived, so the dungeon of the party was not dropped
        intro hp
        have hold : m.partyDungeons[party]? = some d := by
          by_cases hall : ∀ (e : DungeonId) (dungeon : DungeonInstance),
              m.dungeons[e]? = some dungeon → dungeon.partyId = party →
              swept now grace lifetime dungeon ≠ none
          · rw [← heff.parties party hall]
            exact hp
          · simp only [not_forall, not_not] at hall
            obtain ⟨e, dungeon, he, rfl, hs⟩ := hall
            rw [heff.dropped e dungeon he hs] at hp
            cases hp
        obtain ⟨dungeon, hd, hparty⟩ := (h.parties party d).mp hold
        cases hs : swept now grace lifetime dungeon with
        | none =>
          rw [← hparty, heff.dropped d dungeon hd hs] at hp
          cases hp
        | some dungeon' =>
          refine ⟨dungeon', ?_, ?_⟩
          · rw [heff.dungeons d, hd, Option.bind_some, hs]
          · rw [(swept_some hpos.1 (h.consistent d dungeon hd) hs).1]
            exact hparty
      · rintro ⟨dungeon', hd', hparty⟩
        obtain ⟨dungeon, hd, hs, rfl⟩ := heff.kept h.consistent hpos.1 hd'
        have hparty : dungeon.partyId = party := hparty
        rw [heff.parties party]
        · exact (h.parties party d).mpr ⟨dungeon, hd, hparty⟩
        · intro e other he hp
          have : d = e := h.same_party hd he (hparty.trans hp.symm)
          subst this
          rw [hd] at he
          cases he
          rw [hs]
          exact Option.some_ne_none _
    · intro d dungeon' hd'
      obtain ⟨dungeon, hd, -, rfl⟩ := heff.kept h.consistent hpos.1 hd'
      exact h.keyed d dungeon hd
    · intro d hd'
      obtain ⟨dungeon, hd, -⟩ :=
        heff.kept h.consistent hpos.1 (ExtTreeMap.getElem?_eq_some_getElem hd')
      exact h.live d (by grind)
    · rw [heff.nextDungeonId]
      exact h.below
    · intro hstop d
      rw [heff.stopping] at hstop
      rw [heff.dungeons d, h.stopped hstop d]
      rfl
  · rw [sweep_idle hpos]
    exact h

theorem register (h : DungeonIndex m issued) {order : List DungeonId}
    (ho : IterationOrder m.dungeons order) (s p : Nat) (now grace : Int) :
    DungeonIndex (m.registerPlayerSession s p now grace order).2 issued := by
  cases register_outcome h.consistent ho s p now grace with
  | refused ha he =>
    rw [he]
    exact h
  | unbound ha d dungeon hd hs hb he =>
    rw [he]
    exact h.same rfl rfl rfl rfl
  | bound ha d dungeon hd hs hb he =>
    rw [he]
    have hsp : (signIn s p m).authenticatedPlayers[s]? = some p := by simp [signIn]
    have hbinds := binds_bindParticipantPlayer _ hsp dungeon
    exact h.update hd (hbinds.consistent (h.consistent d dungeon hd)) hbinds.dungeonId
      hbinds.partyId rfl rfl rfl rfl
  | newcomer ha hnone hr he =>
    rw [he]
    exact h.same rfl rfl rfl rfl
  | back ha hnone d dungeon old t player hd hf hr hp he =>
    rw [he]
    exact h.update hd (reconnected_consistent (h.consistent d dungeon hd) hr) rfl rfl rfl rfl rfl rfl

theorem disconnect (h : DungeonIndex m issued) {order : List DungeonId}
    (ho : IterationOrder m.dungeons order) (s : SessionId) (t : Int) :
    DungeonIndex (m.disconnectPlayerSession s t order).2 issued := by
  rcases disconnectPlayer_cases ho s t with ⟨-, he⟩ | ⟨-, -, he⟩ | ⟨-, d, dungeon, hd, hs, he⟩
  · rw [he]
    exact h
  · rw [he]
    exact h.same (by simp) (by simp) (by simp) (by simp)
  · rw [he]
    exact h.update hd (marked_consistent (h.consistent d dungeon hd) hs t) rfl rfl rfl (by simp)
      (by simp) (by simp)

theorem startDungeon (h : DungeonIndex m issued) (catalog : EnemyCatalog) (d : DungeonId) :
    DungeonIndex (m.startDungeon catalog d).2 issued := by
  rcases startDungeon_cases catalog d m with he | ⟨dungeon, state, rooms, hd, -, he⟩
  · rw [he]
    exact h
  · rw [he]
    exact h.update hd ((h.consistent d dungeon hd).with_rooms state rooms) rfl rfl rfl rfl rfl rfl

theorem finishCleared (h : DungeonIndex m issued) (d : DungeonId) :
    DungeonIndex (Manager.finishCleared d m) issued := by
  rcases finishCleared_cases d m with he | ⟨dungeon, hd, -, he⟩
  · rw [he]
    exact h
  · rw [he]
    exact h.update hd ((h.consistent d dungeon hd).with_rooms .finished dungeon.rooms) rfl rfl rfl
      rfl rfl rfl

theorem cancelDungeon (h : DungeonIndex m issued) (d : DungeonId) :
    DungeonIndex (m.cancelDungeon d).2 issued := by
  rcases cancel_cases m d with he | ⟨dungeon, hd, -, he⟩
  · rw [he]
    exact h
  · rw [he]
    exact h.removeDungeon hd

theorem finishDungeon (h : DungeonIndex m issued) (d : DungeonId) :
    DungeonIndex (m.finishDungeon d).2 issued := by
  rcases finish_cases m d with he | ⟨dungeon, hd, -, he⟩
  · rw [he]
    exact h
  · rw [he]
    exact h.removeDungeon hd

end DungeonIndex

/-! ## The sessions and the players -/

/-- The two directions between sessions and players agree, a closed session has no
identity, and the session of a reconnect still has the identity it was made under. -/
structure IdentityIndex (h : History) : Prop where
  inverse : Inverse h.manager.authenticatedPlayers h.manager.activePlayerSessions
  nonzero : 0 ∉ h.manager.authenticatedPlayers ∧ 0 ∉ h.manager.activePlayerSessions
  closed : ∀ s ∈ h.closed, s ∉ h.manager.authenticatedPlayers
  marked : ∀ (d : DungeonId) (dungeon : DungeonInstance), h.manager.dungeons[d]? = some dungeon →
    ∀ s, s ∈ dungeon.disconnectedSince → s ∈ h.closed
  opened : ∀ (new : SessionId) (reconnect : PlayerReconnect),
    h.reconnects[new]? = some reconnect → new ∉ h.closed ∧ reconnect.replacedSessionId ∈ h.closed
  identified : ∀ (new : SessionId) (reconnect : PlayerReconnect),
    h.reconnects[new]? = some reconnect → h.manager.stopping = false →
      h.manager.authenticatedPlayers[new]? = some reconnect.playerId

/-- The invariant of the manager. -/
structure Indexed (h : History) : Prop extends IdentityIndex h where
  index : DungeonIndex h.manager h.issued

namespace Indexed

variable {h h' : History}

theorem start : Indexed {} := by
  refine { index := ⟨?_, ?_, ?_, ?_, ?_, ?_, ?_, ?_⟩, inverse := Inverse.empty, nonzero := ?_,
           closed := ?_, marked := ?_, opened := ?_, identified := ?_ } <;> simp [AllConsistent]

/-- The locked part of `CreateDungeon`, on any party and template read before. -/
theorem insertDungeon (hi : Indexed h) (partyId : PartyId) (party : PartyInfo)
    (template : DungeonTemplate) (now : Int) :
    Indexed { h with
      manager := (h.manager.insertDungeon partyId party template now).2
      issued := createdIds (h.manager.insertDungeon partyId party template now).1 ++ h.issued } := by
  have hindex := hi.index.insertDungeon partyId party template now
  rcases insert_cases h.manager partyId party template now with
    ⟨status, -, he⟩ | ⟨failure, he⟩ | ⟨built, dungeon, -, hnew, hb, he⟩
  · rw [he] at hindex ⊢
    exact { hi with index := hindex }
  · rw [he] at hindex ⊢
    exact { hi with index := hindex }
  · rw [he] at hindex ⊢
    refine { hi with index := hindex, marked := ?_ }
    have hsince : dungeon.disconnectedSince = ∅ := by
      have hbinds : Binds h.manager.authenticatedPlayers built dungeon := hb ▸ binds_bindMembers _ _
      rw [hbinds.disconnectedSince]
      exact (new_spec hnew).2.2.2.2.2.1
    intro x y hx s hs
    have := hi.marked x y
    simp only at hx
    grind

theorem create (hi : Indexed h) {parties : PartyManager} {catalog : DungeonCatalog}
    {partyId : PartyId} {templateId : DungeonTemplateId} {now : Int}
    (hn : h.next (.createDungeon parties catalog partyId templateId now) = some h') :
    Indexed h' := by
  obtain rfl := Option.some.inj hn
  rcases create_cases h.manager parties catalog partyId templateId now with
    ⟨status, hstatus, he⟩ | ⟨party, template, -, -, he⟩
  · have hc : createdIds (.ok { status }) = [] := by cases status <;> rfl
    rw [he]
    simp only [hc, List.nil_append]
    exact hi
  · rw [he]
    exact hi.insertDungeon partyId party template now

theorem register (hi : Indexed h) {s p : Nat} {now grace : Int} {order : List DungeonId}
    (hn : h.next (.registerPlayerSession s p now grace order) = some h') : Indexed h' := by
  simp only [History.next] at hn
  split at hn
  · rename_i hopen
    obtain rfl := Option.some.inj hn
    have hindex := hi.index.register hopen.2 s p now grace
    cases register_outcome hi.index.consistent hopen.2 s p now grace with
    | refused ha he =>
      rw [he]
      refine { hi with opened := ?_, identified := ?_ }
      · intro new reconnect hr
        exact hi.opened new reconnect (by grind [reconnectOf])
      · intro new reconnect hr
        exact hi.identified new reconnect (by grind [reconnectOf])
    | unbound ha d dungeon hd hs hb he =>
      rw [he] at hindex ⊢
      refine { index := hindex, marked := hi.marked
               inverse := hi.inverse.erase ha.identity ha.active, nonzero := ?_, closed := ?_
               opened := ?_, identified := ?_ }
      · have := hi.nonzero
        grind
      · intro x hx
        have := hi.closed x hx
        grind
      · intro new reconnect hr
        exact hi.opened new reconnect (by grind [reconnectOf])
      · intro new reconnect hr hstop
        have := hi.identified new reconnect (by grind [reconnectOf]) hstop
        grind [reconnectOf]
    | bound ha d dungeon hd hs hb he =>
      rw [he] at hindex ⊢
      have hsp : (signIn s p h.manager).authenticatedPlayers[s]? = some p := by simp [signIn]
      have hbinds := binds_bindParticipantPlayer _ hsp dungeon
      refine { index := hindex, inverse := hi.inverse.insert ha.identity ha.active, nonzero := ?_
               closed := ?_, marked := ?_, opened := ?_, identified := ?_ }
      · have := hi.nonzero
        have := ha.session
        have := ha.player
        simp only [signIn]
        grind
      · intro x hx
        have := hi.closed x hx
        simp only [signIn]
        grind
      · intro x y hx
        have := hi.marked x y
        have := hi.marked d dungeon hd
        have := hbinds.disconnectedSince
        simp only at hx
        grind
      · intro new reconnect hr
        exact hi.opened new reconnect (by grind [reconnectOf])
      · intro new reconnect hr hstop
        have := hi.identified new reconnect (by grind [reconnectOf]) hstop
        simp only [signIn]
        grind [reconnectOf]
    | newcomer ha hnone hr he =>
      rw [he] at hindex ⊢
      refine { index := hindex, marked := hi.marked
               inverse := hi.inverse.insert ha.identity ha.active, nonzero := ?_, closed := ?_
               opened := ?_, identified := ?_ }
      · have := hi.nonzero
        have := ha.session
        have := ha.player
        simp only [signIn]
        grind
      · intro x hx
        have := hi.closed x hx
        simp only [signIn]
        grind
      · intro new reconnect hr
        exact hi.opened new reconnect (by grind [reconnectOf])
      · intro new reconnect hr hstop
        have := hi.identified new reconnect (by grind [reconnectOf]) hstop
        simp only [signIn]
        grind [reconnectOf]
    | back ha hnone d dungeon old t player hd hf hr hp he =>
      rw [he] at hindex ⊢
      have hold : old ∈ h.closed := hi.marked d dungeon hd old (by have := hr.since; grind)
      have hauth : old ∉ h.manager.authenticatedPlayers := hi.closed old hold
      have hne : old ≠ s := fun heq => hopen.1 (heq ▸ hold)
      have hkeep : (h.manager.authenticatedPlayers.insert s p).erase old =
          h.manager.authenticatedPlayers.insert s p := by
        ext k v
        grind
      refine { index := hindex, inverse := ?_, nonzero := ?_, closed := ?_, marked := ?_
               opened := ?_, identified := ?_ }
      · simp only [reconnected, signIn, hkeep]
        exact hi.inverse.insert ha.identity ha.active
      · have := hi.nonzero
        have := ha.session
        have := ha.player
        simp only [reconnected, signIn, hkeep]
        grind
      · intro x hx
        have := hi.closed x hx
        simp only [reconnected, signIn, hkeep]
        grind
      · intro x y hx
        have := hi.marked x y
        have := hi.marked d dungeon hd
        simp only [reconnected, signIn] at hx
        grind [moved]
      · intro new reconnect hret
        have := hi.opened new reconnect
        simp only [reconnectOf] at hret
        grind
      · intro new reconnect hret hstop
        have := hi.identified new reconnect
        simp only [reconnectOf] at hret
        simp only [reconnected, signIn, hkeep] at hstop ⊢
        grind
  · cases hn

theorem rollback (hi : Indexed h) {new : SessionId} {reconnect : PlayerReconnect}
    (hn : h.next (.rollbackPlayerReconnect new reconnect) = some h') : Indexed h' := by
  obtain ⟨d, p, old, t⟩ := reconnect
  simp only [History.next] at hn
  split at hn
  · rename_i hret
    obtain rfl := Option.some.inj hn
    obtain ⟨hopen, hold⟩ := hi.opened new _ hret
    rcases rollbackPlayer_cases hi.index.consistent d p new old t with
      ⟨-, he⟩ | ⟨dungeon, player, hd, hr, hp, he⟩
    · rw [he]
      refine { hi with opened := ?_, identified := ?_ }
      · intro new' reconnect hr
        exact hi.opened new' reconnect (by grind)
      · intro new' reconnect hr
        exact hi.identified new' reconnect (by grind)
    · rw [he]
      have hrun : h.manager.stopping = false := by
        by_contra hstop
        rw [hi.index.stopped (by simpa using hstop) d] at hd
        cases hd
      have hauth := hi.identified new _ hret hrun
      have hact : h.manager.activePlayerSessions[p]? = some new := (hi.inverse new p).mp hauth
      have hc : Consistent (moved p new old player (dungeon.disconnectedSince.insertIfNew old t) dungeon) :=
        rolledBack_consistent (hi.index.consistent d dungeon hd) hr
          fun hm => hopen (hi.marked d dungeon hd new hm)
      simp only [hact, ↓reduceIte]
      refine { index := hi.index.update hd hc rfl rfl rfl rfl rfl rfl
               inverse := hi.inverse.erase (by grind) (by grind), nonzero := ?_, closed := ?_
               marked := ?_, opened := ?_, identified := ?_ }
      · have := hi.nonzero
        grind
      · intro x hx
        have := hi.closed x hx
        grind
      · intro x y hx
        have := hi.marked x y
        have := hi.marked d dungeon hd
        simp only at hx
        grind [moved]
      · intro new' reconnect hr
        exact hi.opened new' reconnect (by grind)
      · intro new' reconnect hr hstop
        have := hi.identified new' reconnect (by grind) hstop
        grind
  · cases hn

theorem forget (hi : Indexed h) (s : SessionId) :
    Inverse (h.manager.forgetSession s).authenticatedPlayers
        (h.manager.forgetSession s).activePlayerSessions ∧
      (h.manager.forgetSession s).authenticatedPlayers = h.manager.authenticatedPlayers.erase s ∧
      (h.manager.forgetSession s).activePlayerSessions =
        h.manager.activePlayerSessions.filter fun _ x => x ≠ s := by
  unfold forgetSession
  cases hs : h.manager.authenticatedPlayers[s]? with
  | none =>
    refine ⟨hi.inverse, ?_, ?_⟩
    · ext k v
      grind
    · ext k v
      have := hi.inverse s k
      grind
  | some p =>
    have hact := (hi.inverse s p).mp hs
    simp only [hact, ↓reduceIte]
    refine ⟨hi.inverse.erase (by grind) (by grind), trivial, ?_⟩
    ext k v
    have := hi.inverse s k
    grind

theorem disconnect (hi : Indexed h) {s : SessionId} {t : Int} {order : List DungeonId}
    (hn : h.next (.disconnectPlayerSession s t order) = some h') : Indexed h' := by
  simp only [History.next] at hn
  split at hn
  · rename_i ho
    obtain rfl := Option.some.inj hn
    have hindex := hi.index.disconnect ho s t
    obtain ⟨hinv, hauth, hact⟩ := hi.forget s
    have hopened : ∀ (new : SessionId) (reconnect : PlayerReconnect),
        (h.reconnects.erase s)[new]? = some reconnect →
        new ∉ s :: h.closed ∧ reconnect.replacedSessionId ∈ s :: h.closed := by
      intro new reconnect hr
      have := hi.opened new reconnect
      grind
    have hidentified : ∀ (new : SessionId) (reconnect : PlayerReconnect),
        (h.reconnects.erase s)[new]? = some reconnect → h.manager.stopping = false →
        (h.manager.authenticatedPlayers.erase s)[new]? = some reconnect.playerId := by
      intro new reconnect hr hstop
      have := hi.identified new reconnect
      grind
    have hclosed : ∀ x ∈ s :: h.closed, x ∉ h.manager.authenticatedPlayers.erase s := by
      intro x hx
      have := hi.closed x
      grind
    have hmarked : ∀ (d : DungeonId) (dungeon : DungeonInstance),
        h.manager.dungeons[d]? = some dungeon →
        ∀ x, x ∈ dungeon.disconnectedSince → x ∈ s :: h.closed := by
      intro d dungeon hd x hx
      exact List.mem_cons_of_mem _ (hi.marked d dungeon hd x hx)
    have hzero : 0 ∉ (h.manager.forgetSession s).authenticatedPlayers ∧
        0 ∉ (h.manager.forgetSession s).activePlayerSessions := by
      have := hi.nonzero
      rw [hauth, hact]
      grind
    rcases disconnectPlayer_cases ho s t with ⟨rfl, he⟩ | ⟨-, hnone, he⟩ | ⟨-, d, dungeon, hd, hs, he⟩
    · -- a call for session `0` returns at once, and `0` has no identity anyway
      have hself : h.manager.authenticatedPlayers.erase 0 = h.manager.authenticatedPlayers := by
        ext k v
        have := hi.nonzero
        grind
      rw [hself] at hidentified hclosed
      rw [he]
      exact { index := hi.index, inverse := hi.inverse, nonzero := hi.nonzero, closed := hclosed
              marked := hmarked, opened := hopened, identified := hidentified }
    · rw [he] at hindex ⊢
      refine { index := hindex, inverse := hinv
               nonzero := hzero, closed := by rwa [hauth], marked := by simpa using hmarked
               opened := hopened, identified := ?_ }
      rw [hauth, forgetSession_stopping]
      exact hidentified
    · rw [he] at hindex ⊢
      refine { index := hindex, inverse := hinv, nonzero := hzero, closed := by rwa [hauth]
               marked := ?_, opened := hopened, identified := ?_ }
      · intro x y hx k hk
        have := hmarked x y
        have := hmarked d dungeon hd k
        simp only [marked] at hx
        grind
      · simp only [hauth, forgetSession_stopping]
        exact hidentified
  · cases hn

theorem sweep (hi : Indexed h) {now grace lifetime : Int}
    (hn : h.next (.sweepAbandonedParticipants now grace lifetime) = some h') : Indexed h' := by
  obtain rfl := Option.some.inj hn
  have hindex := hi.index.sweep now grace lifetime
  by_cases hpos : 0 < grace ∧ 0 < lifetime
  · have heff := sweep_effect hpos.1 hpos.2 now h.manager
    refine { index := hindex, inverse := ?_, nonzero := ?_, closed := ?_, marked := ?_
             opened := hi.opened, identified := ?_ }
    · rw [heff.authenticatedPlayers, heff.activePlayerSessions]
      exact hi.inverse
    · rw [heff.authenticatedPlayers, heff.activePlayerSessions]
      exact hi.nonzero
    · rw [heff.authenticatedPlayers]
      exact hi.closed
    · intro d dungeon' hd' s hs
      obtain ⟨dungeon, hd, -, rfl⟩ := heff.kept hi.index.consistent hpos.1 hd'
      refine hi.marked d dungeon hd s ?_
      simp only [without] at hs
      grind
    · rw [heff.authenticatedPlayers, heff.stopping]
      exact hi.identified
  · rw [sweep_idle hpos]
    exact hi

theorem startDungeon (hi : Indexed h) {catalog : EnemyCatalog} {d : DungeonId}
    (hn : h.next (.startDungeon catalog d) = some h') : Indexed h' := by
  obtain rfl := Option.some.inj hn
  have hindex := hi.index.startDungeon catalog d
  rcases startDungeon_cases catalog d h.manager with he | ⟨dungeon, state, rooms, hd, -, he⟩
  · rw [he]
    exact hi
  · rw [he] at hindex ⊢
    refine { hi with index := hindex, marked := ?_ }
    intro x y hx
    have := hi.marked x y
    have := hi.marked d dungeon hd
    simp only at hx
    grind

theorem finishCleared (hi : Indexed h) (d : DungeonId) :
    Indexed { h with manager := Manager.finishCleared d h.manager } := by
  have hindex := hi.index.finishCleared d
  rcases finishCleared_cases d h.manager with he | ⟨dungeon, hd, -, he⟩
  · rw [he]
    exact hi
  · rw [he] at hindex ⊢
    refine { hi with index := hindex, marked := ?_ }
    intro x y hx
    have := hi.marked x y
    have := hi.marked d dungeon hd
    simp only at hx
    grind

theorem removeDungeon (hi : Indexed h) {d : DungeonId} {dungeon : DungeonInstance}
    (hd : h.manager.dungeons[d]? = some dungeon) :
    Indexed { h with manager := h.manager.removeDungeon d dungeon } := by
  refine { hi with index := hi.index.removeDungeon hd, marked := ?_ }
  intro x y hx
  have := hi.marked x y
  simp only [DungeonManager.removeDungeon] at hx
  grind

theorem stop (hi : Indexed h) : Indexed { h with manager := h.manager.stop } := by
  unfold DungeonManager.stop
  split
  · exact hi
  · refine { index := ⟨?_, ?_, ?_, ?_, hi.index.below, hi.index.distinct, hi.index.nonzero, ?_⟩
             inverse := Inverse.empty, nonzero := ?_, closed := ?_, marked := ?_
             opened := hi.opened, identified := ?_ } <;> simp [AllConsistent]

/-- Every call keeps the invariant. -/
theorem next {call : Call} (hi : Indexed h) (hn : h.next call = some h') : Indexed h' := by
  cases call with
  | createDungeon parties catalog partyId templateId now => exact hi.create hn
  | registerPlayerSession s p now grace order => exact hi.register hn
  | rollbackPlayerReconnect new reconnect => exact hi.rollback hn
  | disconnectPlayerSession s t order => exact hi.disconnect hn
  | sweepAbandonedParticipants now grace lifetime => exact hi.sweep hn
  | startDungeon catalog d => exact hi.startDungeon hn
  | cancelDungeon d =>
    obtain rfl := Option.some.inj hn
    rcases cancel_cases h.manager d with he | ⟨dungeon, hd, -, he⟩
    · rw [he]
      exact hi
    · rw [he]
      exact hi.removeDungeon hd
  | finishCleared d =>
    obtain rfl := Option.some.inj hn
    exact hi.finishCleared d
  | finishDungeon d =>
    obtain rfl := Option.some.inj hn
    rcases finish_cases h.manager d with he | ⟨dungeon, hd, -, he⟩
    · rw [he]
      exact hi
    · rw [he]
      exact hi.removeDungeon hd
  | stop =>
    obtain rfl := Option.some.inj hn
    exact hi.stop

end Indexed

theorem indexed_of_reachable {h : History} (hr : Reachable History.next {} h) : Indexed h :=
  reachable_invariant Indexed (fun _ _ _ hi hn => hi.next hn) Indexed.start hr

/-- In every reachable state the two identity maps are inverse to one another, the parties
and the live dungeons correspond one to one, so that the lookup by party does not throw,
and the ids handed out are all different and below the counter. -/
theorem indices_agree {calls : List Call} {h : History} (hr : run History.next {} calls = some h) :
    Inverse h.manager.authenticatedPlayers h.manager.activePlayerSessions ∧
    (∀ (party : PartyId) (d : DungeonId), h.manager.partyDungeons[party]? = some d ↔
      ∃ dungeon, h.manager.dungeons[d]? = some dungeon ∧ dungeon.partyId = party) ∧
    (∀ party, ∃ found, h.manager.findDungeonByParty party = .ok found) ∧
    (∀ d, d ∈ h.manager.dungeons → d < h.manager.nextDungeonId ∧ d ∈ h.issued) ∧
    h.issued.Nodup := by
  have hi := indexed_of_reachable ⟨calls, hr⟩
  refine ⟨hi.inverse, hi.index.parties, ?_, ?_, hi.index.distinct⟩
  · intro party
    unfold findDungeonByParty
    cases hp : h.manager.partyDungeons[party]? with
    | none => exact ⟨none, rfl⟩
    | some d =>
      obtain ⟨dungeon, hd, -⟩ := (hi.index.parties party d).mp hp
      exact ⟨some dungeon, by simp only [hd]⟩
  · intro d hd
    exact ⟨hi.index.below d (hi.index.live d hd), hi.index.live d hd⟩

/-- Party `7` of the sessions `100` and `101`, and a catalog of one template. -/
def partyOfTwo : PartyManager :=
  { nextPartyId := 8
    parties := (∅ : IdMap PartyInfo).insert 7
      { id := 7, leaderSessionId := 100, members := [100, 101] }
    joinedParties := ((∅ : IdMap PartyId).insert 100 7).insert 101 7 }

def oneDungeonCatalog : DungeonCatalog :=
  { dungeons := (∅ : ExtTreeMap UInt32 DungeonTemplate).insert 1 oneRoomTemplate }

/-- A player takes its slot back under a new session, and the reconnect is undone. -/
def reconnectAndRollback : List Call :=
  [.registerPlayerSession 100 5001 0 60 [], .createDungeon partyOfTwo oneDungeonCatalog 7 1 1,
    .disconnectPlayerSession 100 10 [1], .registerPlayerSession 300 5001 20 60 [1],
    .rollbackPlayerReconnect 300 ⟨1, 5001, 100, 10⟩, .cancelDungeon 1,
    .createDungeon partyOfTwo oneDungeonCatalog 7 1 30]

theorem indices_agree_reconnectAndRollback :
    ∃ h, run History.next {} reconnectAndRollback = some h ∧ h.issued = [2, 1] ∧
      Inverse h.manager.authenticatedPlayers h.manager.activePlayerSessions ∧ h.issued.Nodup := by
  obtain ⟨h, hr⟩ : ∃ h, run History.next {} reconnectAndRollback = some h :=
    Option.isSome_iff_exists.mp (by decide)
  have hid : h.issued = [2, 1] := by
    cases hr
    rfl
  obtain ⟨hinv, -, -, -, hnodup⟩ := indices_agree hr
  exact ⟨h, hr, hid, hinv, hnodup⟩

end DnfServer.Manager
