import DnfServer.Library.Runs
import DnfServer.Manager.Indices
import DnfServer.Participants.Simulation
import DnfServer.Participants.TakeBack
import DnfServer.Udp.Effects

/-!
# The two managers agree

The dungeon manager and the UDP manager are updated one after the other by every operation
of the lifecycle service. When each operation runs to its end before the next one starts,
the dungeons with a UDP session are the live dungeons, and the holders of tokens are the
participants. Datagrams, the steps of the processors, waves and the end of a cleared
dungeon may come anywhere between the operations.
-/

namespace DnfServer.Udp

open Std DnfServer.Library DnfServer.Participants DnfServer.Manager
set_option autoImplicit false

/-- What the server reads and does not write. -/
structure Environment where
  parse : Parse
  arithmetic : Arithmetic
  skillCatalog : SkillCatalog
  enemyCatalog : EnemyCatalog

inductive Operation where
  | enterDungeon (sessionId : SessionId) (templateId : DungeonTemplateId) (parties : PartyManager)
      (catalog : DungeonCatalog) (now : Int) (socket : Option UInt16) (draws : List DungeonUdpToken)
  | registerPlayerSession (sessionId : SessionId) (playerId : PlayerId) (reconnectGrace : Int)
      (inputs : RegisterInputs)
  | disconnectPlayerSession (sessionId : SessionId) (disconnectedAt : Int) (order : List DungeonId)
  | sweepAbandonedParticipants (now reconnectGrace maxDungeonLifetime : Int)
  | cancelWaitingDungeon (dungeonId : DungeonId)
  | finishDungeon (dungeonId : DungeonId)
  | startDungeon (dungeonId : DungeonId) (now : Int)
  | removeInactiveEndpoints (dungeonId : DungeonId) (idleTimeout now : Int)
  | receive (dungeonId : DungeonId) (serverTick : UInt32) (datagram : DungeonUdpSession.Datagram)
  | process (target : DungeonId) (order : List SessionId)
  | advanceRoomWaves (dungeonId : DungeonId)
  | tryFinishIfCleared (dungeonId : DungeonId)

/-- The tick starts a waiting dungeon and then refreshes the activity of its endpoints. -/
def startWaiting (catalog : EnemyCatalog) (d : DungeonId) (now : Int) (m : Managers) : Managers :=
  let started := m.dungeons.startDungeon catalog d
  { dungeons := started.2
    udp := match started.1 with
      | .ok true => m.udp.refreshAllActivity d now
      | _ => m.udp }

/-- One operation, run to its end. An iteration order that is none is not enabled, nor a tape
of draws on which the allocation has not ended. -/
def next (env : Environment) (server : Server) : Operation → Option Server
  | .enterDungeon sessionId templateId parties catalog now socket draws =>
    (PacketDispatcher.handleEnterDungeonRequest sessionId templateId parties catalog now socket draws
      server.managers).map fun out => { server with managers := out.2 }
  | .registerPlayerSession sessionId playerId grace inputs =>
    if IterationOrder server.managers.dungeons.dungeons inputs.order then
      some { server with
        managers := (DungeonLifecycleService.registerPlayerSession sessionId playerId grace inputs
          server.managers).2 }
    else none
  | .disconnectPlayerSession sessionId disconnectedAt order =>
    if IterationOrder server.managers.dungeons.dungeons order then
      some { server with
        managers := (DungeonLifecycleService.disconnectPlayerSession sessionId disconnectedAt order
          server.managers).2 }
    else none
  | .sweepAbandonedParticipants now grace lifetime =>
    some { server with
      managers := (DungeonLifecycleService.sweepAbandonedParticipants now grace lifetime
        server.managers).2 }
  | .cancelWaitingDungeon d =>
    some { server with
      managers := (DungeonLifecycleService.cancelWaitingDungeon d server.managers).2 }
  | .finishDungeon d =>
    some { server with managers := (DungeonLifecycleService.finishDungeon d server.managers).2 }
  | .startDungeon d now =>
    some { server with managers := startWaiting env.enemyCatalog d now server.managers }
  | .removeInactiveEndpoints d idleTimeout now =>
    some { server with
      managers := { server.managers with
        udp := (server.managers.udp.removeInactiveEndpoints d idleTimeout now).2 } }
  | .receive d serverTick datagram =>
    some { server with
      managers := { server.managers with
        udp := (server.managers.udp.handleReceive env.parse serverTick d datagram).2 } }
  | .process target order =>
    some (DungeonTickService.processStep env.arithmetic env.skillCatalog env.enemyCatalog target order
      server)
  | .advanceRoomWaves d =>
    some { server with
      managers := { server.managers with
        dungeons := server.managers.dungeons.modifyDungeon d
          fun dungeon => (dungeon.advanceRoomWaves env.enemyCatalog).2 } }
  | .tryFinishIfCleared d =>
    some { server with
      managers := { server.managers with
        dungeons := server.managers.dungeons.modifyDungeon d (·.tryFinishIfCleared.2) } }

/-! ## The invariant -/

/-- The two managers agree on dungeon `d`. -/
def AgreedAt (m : Managers) (d : DungeonId) : Prop :=
  (d ∈ m.udp.sessions ↔ d ∈ m.dungeons.dungeons) ∧
    ∀ dungeon, m.dungeons.dungeons[d]? = some dungeon →
      ∀ s, HasToken m.udp d s ↔ s ∈ DungeonInstance.participants dungeon

structure Agreed (m : Managers) : Prop where
  index : ∃ issued, DungeonIndex m.dungeons issued
  agreed : ∀ d, AgreedAt m d

namespace Agreed

variable {m : Managers}

theorem consistent (h : Agreed m) : AllConsistent m.dungeons.dungeons := by
  obtain ⟨issued, hi⟩ := h.index
  exact hi.consistent

/-- A live dungeon has a UDP session whose holders of tokens are its participants. -/
theorem session (h : Agreed m) {d : DungeonId} {dungeon : DungeonInstance}
    (hd : m.dungeons.dungeons[d]? = some dungeon) :
    ∃ session, m.udp.sessions[d]? = some session ∧
      ∀ s, s ∈ DungeonUdpSession.tokens session ↔ s ∈ dungeon.participants := by
  have hm : d ∈ m.udp.sessions := (h.agreed d).1.mpr (by grind)
  have hs : m.udp.sessions[d]? = some m.udp.sessions[d] := by grind
  refine ⟨_, hs, ?_⟩
  intro s
  rw [← hasToken_iff hs]
  exact (h.agreed d).2 dungeon hd s

theorem sameTokens (h : Agreed m) {u : DungeonUdpManager} (hu : SameTokens m.udp u) :
    Agreed { m with udp := u } := by
  refine ⟨h.index, ?_⟩
  intro d
  refine ⟨(hu.opened d).trans (h.agreed d).1, ?_⟩
  intro dungeon hd s
  exact (hu.tokens d s).trans ((h.agreed d).2 dungeon hd s)

/-- The dungeons change and keep their participants. -/
theorem sameParticipants (h : Agreed m) {n : DungeonManager} {issued : List DungeonId}
    (hi : DungeonIndex n issued)
    (hp : ∀ d : DungeonId, (n.dungeons[d]?).map (·.participants) =
      (m.dungeons.dungeons[d]?).map (·.participants)) : Agreed { m with dungeons := n } := by
  refine ⟨⟨issued, hi⟩, ?_⟩
  intro d
  have hd := hp d
  obtain ⟨ho, ht⟩ := h.agreed d
  refine ⟨?_, ?_⟩
  · rw [ho]
    simp only
    cases h1 : n.dungeons[d]? <;> cases h2 : m.dungeons.dungeons[d]? <;> rw [h1, h2] at hd <;> grind
  · intro dungeon' hd' s
    rw [hd', Option.map_some, eq_comm, Option.map_eq_some_iff] at hd
    obtain ⟨dungeon, hdungeon, he⟩ := hd
    rw [← he]
    exact ht dungeon hdungeon s

/-- One dungeon is rewritten and keeps its participants. -/
theorem update (h : Agreed m) {n : DungeonManager} {d : DungeonId} {dungeon dungeon' : DungeonInstance}
    (hd : m.dungeons.dungeons[d]? = some dungeon) (hc : Consistent dungeon')
    (hid : dungeon'.dungeonId = dungeon.dungeonId) (hparty : dungeon'.partyId = dungeon.partyId)
    (hparts : dungeon'.participants = dungeon.participants)
    (hm : n.dungeons = m.dungeons.dungeons.insert d dungeon')
    (hp : n.partyDungeons = m.dungeons.partyDungeons)
    (hn : n.nextDungeonId = m.dungeons.nextDungeonId) (hs : n.stopping = m.dungeons.stopping) :
    Agreed { m with dungeons := n } := by
  obtain ⟨issued, hi⟩ := h.index
  refine h.sameParticipants (hi.update hd hc hid hparty hm hp hn hs) ?_
  intro x
  rw [hm]
  grind

theorem simulated (h : Agreed m) (touched : SessionId → Prop) {d : DungeonId}
    {change : DungeonInstance → DungeonInstance}
    (hc : ∀ dungeon, m.dungeons.dungeons[d]? = some dungeon →
      Simulated touched dungeon (change dungeon)) :
    Agreed { m with dungeons := m.dungeons.modifyDungeon d change } := by
  unfold DungeonManager.modifyDungeon
  cases hd : m.dungeons.dungeons[d]? with
  | none => exact h
  | some dungeon =>
    have hsim := hc dungeon hd
    exact h.update hd (hsim.consistent (h.consistent d dungeon hd)) hsim.dungeonId hsim.partyId
      hsim.participants rfl rfl rfl rfl

/-- A dungeon leaves both managers; it is enough that they agreed on the others. -/
theorem removeDungeon {issued : List DungeonId} (hi : DungeonIndex m.dungeons issued) {d : DungeonId}
    {dungeon : DungeonInstance} (hd : m.dungeons.dungeons[d]? = some dungeon)
    (ha : ∀ x, x ≠ d → AgreedAt m x) :
    Agreed { dungeons := m.dungeons.removeDungeon d dungeon, udp := (m.udp.release d).2 } := by
  refine ⟨⟨issued, hi.removeDungeon hd⟩, ?_⟩
  intro x
  by_cases hx : x = d
  · subst hx
    refine ⟨?_, ?_⟩
    · rw [release_opened]
      simp only [DungeonManager.removeDungeon]
      grind
    · intro other ho
      simp only [DungeonManager.removeDungeon] at ho
      grind
  · obtain ⟨ho, ht⟩ := ha x hx
    refine ⟨?_, ?_⟩
    · rw [release_opened, ho]
      simp only [DungeonManager.removeDungeon]
      grind
    · intro other hother s
      rw [release_tokens]
      simp only [DungeonManager.removeDungeon] at hother
      have := ht other (by grind) s
      grind

/-! ## The operations of the lifecycle service -/

theorem cancelWaitingDungeon (h : Agreed m) (d : DungeonId) :
    Agreed (DungeonLifecycleService.cancelWaitingDungeon d m).2 := by
  obtain ⟨issued, hi⟩ := h.index
  unfold DungeonLifecycleService.cancelWaitingDungeon
  rcases cancel_cases m.dungeons d with he | ⟨dungeon, hd, -, he⟩
  · rw [he]
    exact h
  · rw [he]
    exact removeDungeon hi hd fun x _ => h.agreed x

theorem finishDungeon (h : Agreed m) (d : DungeonId) :
    Agreed (DungeonLifecycleService.finishDungeon d m).2 := by
  obtain ⟨issued, hi⟩ := h.index
  unfold DungeonLifecycleService.finishDungeon
  rcases finish_cases m.dungeons d with he | ⟨dungeon, hd, -, he⟩
  · rw [he]
    exact h
  · rw [he]
    exact removeDungeon hi hd fun x _ => h.agreed x

theorem disconnectPlayerSession (h : Agreed m) {order : List DungeonId}
    (ho : IterationOrder m.dungeons.dungeons order) (s : SessionId) (t : Int) :
    Agreed (DungeonLifecycleService.disconnectPlayerSession s t order m).2 := by
  obtain ⟨issued, hi⟩ := h.index
  have hindex := hi.disconnect ho s t
  unfold DungeonLifecycleService.disconnectPlayerSession
  rcases disconnectPlayer_cases ho s t with ⟨-, he⟩ | ⟨-, -, he⟩ | ⟨-, d, dungeon, hd, hs, he⟩
  · rw [he]
    exact h
  · rw [he] at hindex ⊢
    exact h.sameParticipants hindex (by simp)
  · rw [he] at hindex ⊢
    have hdungeons : Agreed { m with
        dungeons := { m.dungeons.forgetSession s with
          dungeons := m.dungeons.dungeons.insert d (marked s t dungeon) } } := by
      refine h.sameParticipants hindex ?_
      intro x
      simp only
      grind [marked]
    exact hdungeons.sameTokens (disconnectParticipant_sameTokens d s m.udp)

/-- The sessions that the sweep reports are those that the dungeons lose. -/
theorem sweepAbandonedParticipants (h : Agreed m) (now grace lifetime : Int) :
    Agreed (DungeonLifecycleService.sweepAbandonedParticipants now grace lifetime m).2 := by
  obtain ⟨issued, hi⟩ := h.index
  have hindex := hi.sweep now grace lifetime
  simp only [DungeonLifecycleService.sweepAbandonedParticipants]
  by_cases hpos : 0 < grace ∧ 0 < lifetime
  · have heff := sweep_effect hpos.1 hpos.2 now m.dungeons
    refine ⟨⟨issued, hindex⟩, ?_⟩
    intro d
    obtain ⟨ho, ht⟩ := h.agreed d
    refine ⟨?_, ?_⟩
    · rw [(releaseDungeons_spec _ _).1, (removeParticipants_spec _ _).1, ho, heff.released,
        ← ExtTreeMap.isSome_getElem?_iff_mem, ← ExtTreeMap.isSome_getElem?_iff_mem, heff.dungeons d]
      cases hd : m.dungeons.dungeons[d]? with
      | none => simp
      | some dungeon => cases hs : swept now grace lifetime dungeon <;> simp [hs]
    · intro dungeon' hd' s
      obtain ⟨dungeon, hd, hs, rfl⟩ := heff.kept hi.consistent hpos.1 hd'
      have hexpired := (swept_some hpos.1 (hi.consistent d dungeon hd) hs).2.1
      rw [(releaseDungeons_spec _ _).2, (removeParticipants_spec _ _).2, heff.released, heff.removed,
        ht dungeon hd s]
      simp [hd, hs, hexpired, without]
  · rw [sweep_idle hpos]
    exact h

/-- What the registration of the lifecycle service can do. Unless a slot is taken back with a
new token, the dungeons keep their participants and players: a reconnect without a token is
undone on the spot, and it goes without one only when no draw was usable. -/
theorem register_cases (h : Agreed m) (s p : Nat) (grace : Int) (inputs : RegisterInputs)
    (ho : IterationOrder m.dungeons.dungeons inputs.order) :
    (∃ result n, DungeonLifecycleService.registerPlayerSession s p grace inputs m =
        (result, { m with dungeons := n }) ∧
      (∃ issued, DungeonIndex n issued) ∧
      (∀ d : DungeonId, (n.dungeons[d]?).map (·.participants) =
        (m.dungeons.dungeons[d]?).map (·.participants)) ∧
      (∀ d : DungeonId, (n.dungeons[d]?).map (·.players) =
        (m.dungeons.dungeons[d]?).map (·.players)) ∧
      (result.status = .reconnected → ∃ session, m.udp.sessions[result.dungeonId]? = some session ∧
        ∀ token ∈ inputs.draws.toList, token = 0 ∨ InUse session token)) ∨
    ∃ result d dungeon old t player token session,
      DungeonLifecycleService.registerPlayerSession s p grace inputs m = (result,
        { dungeons := reconnected d dungeon p s old player (signIn s p m.dungeons)
          udp := { m.udp with
            sessions := m.udp.sessions.insert d (rotated old s token session) } }) ∧
      (∃ issued, DungeonIndex (reconnected d dungeon p s old player (signIn s p m.dungeons)) issued) ∧
      m.dungeons.dungeons[d]? = some dungeon ∧ m.udp.sessions[d]? = some session ∧
      Reconnectable dungeon p s inputs.now grace old t ∧ result.freshUdpToken = some token := by
  obtain ⟨issued, hi⟩ := h.index
  have hindex := hi.register ho s p inputs.now grace
  unfold DungeonLifecycleService.registerPlayerSession
  cases register_outcome hi.consistent ho s p inputs.now grace with
  | refused ha he =>
    rw [he]
    exact Or.inl ⟨_, _, rfl, h.index, fun _ => rfl, fun _ => rfl, by simp⟩
  | unbound ha d dungeon hd hs hb he =>
    rw [he] at hindex ⊢
    exact Or.inl ⟨_, _, rfl, ⟨issued, hindex⟩, fun _ => rfl, fun _ => rfl, by simp⟩
  | bound ha d dungeon hd hs hb he =>
    rw [he] at hindex ⊢
    have hsp : (signIn s p m.dungeons).authenticatedPlayers[s]? = some p := by simp [signIn]
    have hbinds := binds_bindParticipantPlayer _ hsp dungeon
    refine Or.inl ⟨_, _, rfl, ⟨issued, hindex⟩, ?_, ?_, by simp⟩
    · intro x
      have := hbinds.participants
      simp only
      grind
    · intro x
      have := hbinds.players
      simp only
      grind
  | newcomer ha hnone hr he =>
    rw [he] at hindex ⊢
    exact Or.inl ⟨_, _, rfl, ⟨issued, hindex⟩, fun _ => rfl, fun _ => rfl, by simp⟩
  | back ha hnone d dungeon old t player hd hf hr hp he =>
    rw [he] at hindex ⊢
    have hc := hi.consistent d dungeon hd
    obtain ⟨session, hsession, htokens⟩ := h.session hd
    obtain ⟨-, hpart, hold0⟩ := hc.bound_session hr.bound
    have hold : old ∈ session.tokens := (htokens old).mpr hpart
    have hnew : s ∉ session.tokens := by
      rw [htokens, hc.listed]
      exact hnone d dungeon hd
    simp only [ne_eq, not_true_eq_false, ↓reduceIte]
    rcases replaceParticipant_cases d old s inputs.draws m.udp with
      hu | ⟨token, session', hs', -, -, hu⟩
    · -- no draw was usable: the rollback finds what the reconnect has left
      have hfailed : (m.udp.replaceParticipant d old s inputs.draws).1 = none := by rw [hu]
      have hdraws := replaceParticipant_none hsession hold hnew hold0 ha.session hfailed
      have hvacant : Vacant p old s t dungeon :=
        ⟨hc, hr.bound, hr.since, hr.fresh, hr.session, hr.player⟩
      have hback := hvacant.rollback_takeBack
      simp only [takeBack, hp] at hback
      have hlook : (reconnected d dungeon p s old player (signIn s p m.dungeons)).dungeons[d]? =
          some (moved p old s player (dungeon.disconnectedSince.erase old) dungeon) := by
        simp [reconnected]
      have hdungeons : (reconnected d dungeon p s old player (signIn s p m.dungeons)).dungeons.insert
          d dungeon = m.dungeons.dungeons := by
        simp only [reconnected, signIn]
        ext k v
        grind
      rw [hu]
      simp only [DungeonManager.rollbackPlayerReconnect, hlook, hback, Option.isSome_none,
        Bool.false_eq_true, ↓reduceIte, hdungeons]
      exact Or.inl ⟨_, _, rfl, ⟨issued, hi.same rfl rfl rfl rfl⟩, fun _ => rfl, fun _ => rfl,
        fun _ => ⟨session, hsession, hdraws⟩⟩
    · rw [hu]
      rw [hsession] at hs'
      cases hs'
      simp only [Option.isSome_some, ↓reduceIte]
      exact Or.inr ⟨_, d, dungeon, old, t, player, token, session, rfl, ⟨issued, hindex⟩, hd,
        hsession, hr, rfl⟩

theorem registerPlayerSession (h : Agreed m) (s p : Nat) (grace : Int) (inputs : RegisterInputs)
    (ho : IterationOrder m.dungeons.dungeons inputs.order) :
    Agreed (DungeonLifecycleService.registerPlayerSession s p grace inputs m).2 := by
  rcases h.register_cases s p grace inputs ho with ⟨result, n, he, ⟨issued, hi⟩, hp, -⟩ |
    ⟨result, d, dungeon, old, t, player, token, session, he, hi, hd, hsession, hr, -⟩
  · rw [he]
    exact h.sameParticipants hi hp
  · rw [he]
    refine ⟨hi, ?_⟩
    intro x
    obtain ⟨hopen, ht⟩ := h.agreed x
    refine ⟨?_, ?_⟩
    · simp only [reconnected, signIn]
      grind
    · intro dungeon' hd' y
      rw [rotated_tokens hsession]
      simp only [reconnected, signIn] at hd'
      by_cases hx : x = d
      · subst hx
        have hc := h.consistent x dungeon hd
        have hpart := (hc.bound_session hr.bound).2.1
        have hfresh : s ∉ dungeon.participants := by
          rw [hc.listed]
          exact hr.fresh
        have hd'' : dungeon' = moved p old s player (dungeon.disconnectedSince.erase old) dungeon := by
          grind
        rw [hd'', moved, mem_replace hc.nodup hpart hfresh, ht dungeon hd]
        grind
      · have := ht dungeon' (by grind) y
        grind

/-! ## The EnterDungeon request -/

/-- What follows the insertion of a dungeon: a UDP session for its participants, or the
dungeon is taken out again. -/
theorem openDungeon_cases {dungeon : DungeonInstance}
    (hd : m.dungeons.dungeons[dungeon.dungeonId]? = some dungeon) (hw : dungeon.state = .waiting)
    {s : SessionId} {socket : Option UInt16} {draws : List DungeonUdpToken}
    {out : Except Failure EnterDungeonResponse × Managers}
    (h : PacketDispatcher.openDungeon s dungeon socket draws m = some out) :
    (∃ port tokens, (∀ x, x ∈ tokens ↔ x ∈ dungeon.participants) ∧
      out.2 = { m with udp := { m.udp with
        sessions := m.udp.sessions.insert dungeon.dungeonId
          { dungeonId := dungeon.dungeonId, port, tokens } } }) ∨
    ∃ u, (∀ x : DungeonId, x ≠ dungeon.dungeonId → u.sessions[x]? = m.udp.sessions[x]?) ∧
      out.2 = { dungeons := m.dungeons.removeDungeon dungeon.dungeonId dungeon
                udp := (DungeonUdpManager.release dungeon.dungeonId u).2 } := by
  simp only [PacketDispatcher.openDungeon, Option.map_eq_some_iff] at h
  obtain ⟨⟨port, u⟩, halloc, rfl⟩ := h
  have hcancel : DungeonLifecycleService.cancelWaitingDungeon dungeon.dungeonId { m with udp := u } =
      (true, { dungeons := m.dungeons.removeDungeon dungeon.dungeonId dungeon
               udp := (u.release dungeon.dungeonId).2 }) := by
    simp [DungeonLifecycleService.cancelWaitingDungeon, DungeonManager.cancelDungeon, hd, hw]
  simp only [hcancel]
  split
  · rcases allocate_cases halloc with he | ⟨port', tokens, -, -, -, htokens, he⟩
    · cases he
    · cases he
      exact Or.inl ⟨_, tokens, htokens, rfl⟩
  · refine Or.inr ⟨u, ?_, rfl⟩
    rcases allocate_cases halloc with he | ⟨port', tokens, -, -, -, -, he⟩
    · cases he
      exact fun _ _ => rfl
    · cases he
      intro x hx
      simp only
      grind

/-- What an EnterDungeon request can do: nothing but advance the counter, or insert a dungeon
under the next id and go on from there. -/
theorem enterDungeon_cases {issued : List DungeonId} (hi : DungeonIndex m.dungeons issued)
    {s : SessionId} {templateId : DungeonTemplateId} {parties : PartyManager}
    {catalog : DungeonCatalog} {now : Int} {socket : Option UInt16} {draws : List DungeonUdpToken}
    {out : Except Failure EnterDungeonResponse × Managers}
    (hn : PacketDispatcher.handleEnterDungeonRequest s templateId parties catalog now socket draws m =
      some out) :
    (∃ n issued, out.2 = { m with dungeons := n } ∧ n.dungeons = m.dungeons.dungeons ∧
      DungeonIndex n issued) ∨
    ∃ n dungeon issued, DungeonIndex n issued ∧
      dungeon.dungeonId ∉ m.dungeons.dungeons ∧ dungeon.state = .waiting ∧
      n.dungeons = m.dungeons.dungeons.insert dungeon.dungeonId dungeon ∧
      PacketDispatcher.openDungeon s dungeon socket draws { m with dungeons := n } = some out := by
  unfold PacketDispatcher.handleEnterDungeonRequest at hn
  split at hn
  · cases hn
    exact Or.inl ⟨_, issued, rfl, rfl, hi⟩
  · rename_i partyId hparty
    split at hn
    · cases hn
      exact Or.inl ⟨_, issued, rfl, rfl, hi⟩
    · split at hn
      · cases hn
        exact Or.inl ⟨_, issued, rfl, rfl, hi⟩
      · have hrefused : ∀ status, status ≠ CreateDungeonStatus.success →
            m.dungeons.createDungeon parties catalog partyId templateId now =
              (.ok { status }, m.dungeons) → out.2 = m := by
          intro status hs he
          rw [he] at hn
          cases status <;> first | exact absurd rfl hs | (cases hn; rfl)
        rcases create_cases m.dungeons parties catalog partyId templateId now with
          ⟨status, hs, he⟩ | ⟨party, template, -, -, he⟩
        · exact Or.inl ⟨_, issued, hrefused status hs he, rfl, hi⟩
        · have hindex := hi.insertDungeon partyId party template now
          rcases insert_cases m.dungeons partyId party template now with
            ⟨status, hs, hins⟩ | ⟨failure, hins⟩ | ⟨built, dungeon, ⟨-, hp, -⟩, hnew, hb, hins⟩
          · exact Or.inl ⟨_, issued, hrefused status hs (he.trans hins), rfl, hi⟩
          · rw [he, hins] at hn
            rw [hins] at hindex
            cases hn
            exact Or.inl ⟨_, _, rfl, rfl, hindex⟩
          · rw [he, hins] at hn
            rw [hins] at hindex
            have hbinds : Binds m.dungeons.authenticatedPlayers built dungeon :=
              hb ▸ binds_bindMembers _ _
            have hspec := new_spec hnew
            have hid : dungeon.dungeonId = m.dungeons.nextDungeonId :=
              hbinds.dungeonId.trans hspec.1
            have hfree : m.dungeons.nextDungeonId ∉ m.dungeons.dungeons := by
              intro hm
              exact Nat.lt_irrefl _ (hi.below _ (hi.live _ hm))
            have hstate : dungeon.state = .waiting := by
              rw [hbinds.state]
              exact hspec.2.2.2.2.2.2.2.1
            refine Or.inr ⟨_, dungeon, _, hindex, hid ▸ hfree, hstate, ?_, hn⟩
            rw [hid]
            ext k v
            simp only
            grind

theorem enterDungeon (h : Agreed m) {s : SessionId} {templateId : DungeonTemplateId}
    {parties : PartyManager} {catalog : DungeonCatalog} {now : Int} {socket : Option UInt16}
    {draws : List DungeonUdpToken} {out : Except Failure EnterDungeonResponse × Managers}
    (hn : PacketDispatcher.handleEnterDungeonRequest s templateId parties catalog now socket draws m =
      some out) : Agreed out.2 := by
  obtain ⟨issued, hi⟩ := h.index
  rcases enterDungeon_cases hi hn with ⟨n, issued, he, hn, hi⟩ | ⟨n, dungeon, issued, hi, hfree, hw, hn, hopen⟩
  · rw [he]
    exact h.sameParticipants hi fun d => by rw [hn]
  · have hd : n.dungeons[dungeon.dungeonId]? = some dungeon := by
      rw [hn]
      simp
    -- the managers disagree on the new dungeon alone
    have hothers : ∀ x, x ≠ dungeon.dungeonId → AgreedAt { m with dungeons := n } x := by
      intro x hx
      have := h.agreed x
      simp only [AgreedAt, hn] at this ⊢
      grind
    rcases openDungeon_cases (m := { m with dungeons := n }) hd hw hopen with
      ⟨port, tokens, ht, he⟩ | ⟨u, hu, he⟩
    · rw [he]
      refine ⟨⟨issued, hi⟩, ?_⟩
      intro x
      by_cases hx : x = dungeon.dungeonId
      · subst hx
        refine ⟨?_, ?_⟩
        · simp only
          grind
        · intro other ho y
          rw [hd] at ho
          cases ho
          simp [HasToken, ht]
      · have := hothers x hx
        simp only [AgreedAt, HasToken] at this ⊢
        grind
    · rw [he]
      refine removeDungeon (m := { dungeons := n, udp := u }) hi hd ?_
      intro x hx
      have := hothers x hx
      have := hu x hx
      simp only [AgreedAt, HasToken] at *
      grind

/-! ## Datagrams and the tick -/

theorem startWaiting (h : Agreed m) (catalog : EnemyCatalog) (d : DungeonId) (now : Int) :
    Agreed (Udp.startWaiting catalog d now m) := by
  have hdungeons : Agreed { m with dungeons := (m.dungeons.startDungeon catalog d).2 } := by
    rcases startDungeon_cases catalog d m.dungeons with he | ⟨dungeon, state, rooms, hd, -, he⟩
    · rw [he]
      exact h
    · rw [he]
      exact h.update hd ((h.consistent d dungeon hd).with_rooms state rooms) rfl rfl rfl rfl rfl rfl rfl
  simp only [Udp.startWaiting]
  split
  · exact hdungeons.sameTokens (refreshAllActivity_sameTokens d now m.udp)
  · exact hdungeons

theorem resolvePendingHits (h : Agreed m) (arithmetic : Arithmetic) (d : DungeonId)
    (processing : Processing) (hits : IdMap (IdMap PendingSkillHit)) :
    Agreed (DungeonCombatProcessor.resolvePendingHits arithmetic d ⟨m, processing, hits⟩).managers := by
  unfold DungeonCombatProcessor.resolvePendingHits
  split
  · rename_i hits dungeon hh hd
    refine h.simulated (fun _ => False) ?_
    intro other ho
    rw [DungeonManager.findDungeon, ho] at hd
    cases hd
    exact resolveHits_simulated _ _ _ _
  · exact h

theorem beginAttack (h : Agreed m) (catalog : SkillCatalog) (d : DungeonId)
    (queued : AuthenticatedPlayerAttack) (processing : Processing)
    (hits : IdMap (IdMap PendingSkillHit)) :
    Agreed (DungeonCombatProcessor.beginAttack catalog d queued ⟨m, processing, hits⟩).managers := by
  unfold DungeonCombatProcessor.beginAttack
  split
  · rename_i player skill hp hskill
    split
    · rename_i player' he
      refine h.simulated (· = queued.sessionId) ?_
      intro dungeon hd
      refine modifyPlayer_simulated _ _ ?_
      intro other ho
      rw [DungeonManager.findDungeon, hd] at hp
      have : other = player := by simpa [DungeonInstance.findPlayer, ho] using hp
      rw [beginSkill_sessionId he, this]
    · exact h
  · exact h

theorem processStep {server : Server} (h : Agreed server.managers) (env : Environment)
    (target : DungeonId) (order : List SessionId) :
    Agreed (DungeonTickService.processStep env.arithmetic env.skillCatalog env.enemyCatalog target
      order server).managers := by
  unfold DungeonTickService.processStep
  split
  · split
    · exact h
    · exact h
  · rename_i d latest hprocessing
    have hpop := h.sameTokens (tryPopMovement_sameTokens d server.managers.udp)
    simp only
    split
    · exact hpop
    · exact hpop
  · exact h.simulated (· = _) fun dungeon _ => applyMovement_simulated _ _ _ _ _
  · split
    · split
      · exact h
      · exact h
    · exact h
  · exact h.simulated (· = _) fun dungeon _ =>
      modifyPlayer_simulated _ _ fun player _ => advanceCombatTick_sessionId player
  · exact h.resolvePendingHits env.arithmetic _ _ _
  · rename_i d hprocessing
    have hpop := h.sameTokens (tryPopAttack_sameTokens d server.managers.udp)
    simp only
    split
    · exact hpop
    · exact hpop.resolvePendingHits env.arithmetic d _ _
  · exact h.beginAttack env.skillCatalog _ _ _ _

end Agreed

/-- Every operation keeps the agreement. -/
theorem agreed_next {env : Environment} {server server' : Server} {op : Operation}
    (h : Agreed server.managers) (hn : next env server op = some server') :
    Agreed server'.managers := by
  cases op with
  | enterDungeon s templateId parties catalog now socket draws =>
    simp only [next, Option.map_eq_some_iff] at hn
    obtain ⟨out, hout, rfl⟩ := hn
    exact h.enterDungeon hout
  | registerPlayerSession s p grace inputs =>
    simp only [next] at hn
    split at hn
    · rename_i ho
      obtain rfl := Option.some.inj hn
      exact h.registerPlayerSession s p grace inputs ho
    · cases hn
  | disconnectPlayerSession s t order =>
    simp only [next] at hn
    split at hn
    · rename_i ho
      obtain rfl := Option.some.inj hn
      exact h.disconnectPlayerSession ho s t
    · cases hn
  | sweepAbandonedParticipants now grace lifetime =>
    obtain rfl := Option.some.inj hn
    exact h.sweepAbandonedParticipants now grace lifetime
  | cancelWaitingDungeon d =>
    obtain rfl := Option.some.inj hn
    exact h.cancelWaitingDungeon d
  | finishDungeon d =>
    obtain rfl := Option.some.inj hn
    exact h.finishDungeon d
  | startDungeon d now =>
    obtain rfl := Option.some.inj hn
    exact h.startWaiting env.enemyCatalog d now
  | removeInactiveEndpoints d idleTimeout now =>
    obtain rfl := Option.some.inj hn
    exact h.sameTokens (removeInactiveEndpoints_sameTokens d idleTimeout now _)
  | receive d serverTick datagram =>
    obtain rfl := Option.some.inj hn
    exact h.sameTokens (handleReceive_sameTokens env.parse serverTick d datagram _)
  | process target order =>
    obtain rfl := Option.some.inj hn
    exact h.processStep env target order
  | advanceRoomWaves d =>
    obtain rfl := Option.some.inj hn
    exact h.simulated (fun _ => False) fun dungeon _ => advanceRoomWaves_simulated _ _
  | tryFinishIfCleared d =>
    obtain rfl := Option.some.inj hn
    exact h.simulated (fun _ => False) fun dungeon _ => tryFinishIfCleared_simulated _

theorem agreed_start : Agreed {} := by
  refine ⟨⟨[], Indexed.start.index⟩, ?_⟩
  intro d
  refine ⟨?_, ?_⟩ <;> simp

theorem agreed_of_run {env : Environment} {ops : List Operation} {server : Server}
    (hr : run (next env) {} ops = some server) : Agreed server.managers :=
  reachable_invariant (fun server => Agreed server.managers) (fun _ _ _ h hn => agreed_next h hn)
    agreed_start ⟨ops, hr⟩

/-- After every operation of every sequential run the dungeons with a UDP session are the live
dungeons and the holders of tokens are the participants, disconnected ones included. So a
registration that takes a slot back fails to produce a token only when each of its draws is
zero or in use. -/
theorem managers_agree {env : Environment} {ops : List Operation} {server : Server}
    (hr : run (next env) {} ops = some server) :
    (∀ d, d ∈ server.managers.udp.sessions ↔ d ∈ server.managers.dungeons.dungeons) ∧
    (∀ (d : DungeonId) (session : DungeonUdpSession) (dungeon : DungeonInstance),
      server.managers.udp.sessions[d]? = some session →
      server.managers.dungeons.dungeons[d]? = some dungeon →
      ∀ s, s ∈ session.tokens ↔ s ∈ dungeon.participants) ∧
    ∀ (s : SessionId) (p : PlayerId) (grace : Int) (inputs : RegisterInputs)
      (result : DungeonSessionRegistration) (after : Managers),
      IterationOrder server.managers.dungeons.dungeons inputs.order →
      DungeonLifecycleService.registerPlayerSession s p grace inputs server.managers =
        (result, after) →
      result.status = .reconnected → result.freshUdpToken = none →
      ∃ session, server.managers.udp.sessions[result.dungeonId]? = some session ∧
        ∀ token ∈ inputs.draws.toList, token = 0 ∨ InUse session token := by
  have h := agreed_of_run hr
  refine ⟨fun d => (h.agreed d).1, ?_, ?_⟩
  · intro d session dungeon hs hd s
    rw [← hasToken_iff hs]
    exact (h.agreed d).2 dungeon hd s
  · intro s p grace inputs result after ho he hstatus htoken
    rcases h.register_cases s p grace inputs ho with ⟨result', n, he', -, -, -, hdraws⟩ |
      ⟨result', d, dungeon, old, t, player, token, session, he', -, -, -, -, hfresh⟩
    · rw [he] at he'
      cases he'
      exact hdraws hstatus
    · rw [he] at he'
      cases he'
      rw [htoken] at hfresh
      cases hfresh

/-- A parser that accepts nothing, and empty catalogs. -/
def silentEnvironment : Environment :=
  { parse := fun _ => none
    arithmetic := ⟨fun _ _ position => position, fun _ _ _ _ _ => false⟩
    skillCatalog := {}
    enemyCatalog := {} }

/-- A dungeon without a socket is cancelled. In the next one the second participant drops out
and comes back twice, first with sixteen draws that are in use and then with a usable one. -/
def rotationAfterFailure : List Operation :=
  [.registerPlayerSession 101 5001 60 ⟨0, [], .replicate _ 0, 0, []⟩,
    .enterDungeon 100 1 partyOfTwo oneDungeonCatalog 1 none [],
    .enterDungeon 100 1 partyOfTwo oneDungeonCatalog 2 (some 7000) [0, 11, 11, 12],
    .disconnectPlayerSession 101 10 [2],
    .registerPlayerSession 300 5001 60 ⟨20, [2], .replicate _ 12, 0, []⟩,
    .registerPlayerSession 301 5001 60 ⟨30, [2], .replicate _ 13, 0, []⟩]

theorem managers_agree_rotationAfterFailure :
    ∃ server, run (next silentEnvironment) {} rotationAfterFailure = some server ∧
      (∃ dungeon, server.managers.dungeons.dungeons[2]? = some dungeon ∧
        DungeonInstance.participants dungeon = [100, 301]) ∧
      ∀ d, d ∈ server.managers.udp.sessions ↔ d ∈ server.managers.dungeons.dungeons := by
  obtain ⟨server, hr⟩ : ∃ server, run (next silentEnvironment) {} rotationAfterFailure = some server :=
    Option.isSome_iff_exists.mp (by decide)
  refine ⟨server, hr, ?_, (managers_agree hr).1⟩
  cases hr
  decide

end DnfServer.Udp
