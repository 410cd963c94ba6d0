import Mathlib.Logic.Function.Iterate
import DnfServer.Model.Datagrams
import DnfServer.Udp.Agreement

/-!
# A disconnected session stays silent

`DisconnectParticipant` drops the endpoint and the queued inputs of a session but leaves
its token, so a Hello with that token, late or replayed, registers an endpoint again. In
every run in which no such Hello arrives the session stays without an endpoint and without
inputs until it is replaced or removed, and its player stands still: the combat tick only
counts its cooldowns and its running action down.
-/

namespace DnfServer.Udp

open Std DnfServer.Library DnfServer.Participants DnfServer.Manager
open DungeonMovementProcessor DungeonCombatProcessor
set_option autoImplicit false

/-! ## One UDP session -/

/-- The session has no endpoint and no queued input. -/
structure Quiet (s : SessionId) (session : DungeonUdpSession) : Prop where
  endpoint : s ∉ session.endpoints
  movements : ∀ queued ∈ session.pendingMovements, queued.sessionId ≠ s
  attacks : ∀ queued ∈ session.pendingAttacks, queued.sessionId ≠ s

namespace Quiet

variable {s : SessionId} {session : DungeonUdpSession}

theorem removeParticipantRuntimeState (h : Quiet s session) (x : SessionId) :
    Quiet s (session.removeParticipantRuntimeState x) := by
  refine ⟨?_, ?_, ?_⟩
  · have := h.endpoint
    simp only [DungeonUdpSession.removeParticipantRuntimeState]
    grind
  · intro queued hq
    exact h.movements queued (List.mem_filter.mp hq).1
  · intro queued hq
    exact h.attacks queued (List.mem_filter.mp hq).1

theorem of_removed (s : SessionId) (session : DungeonUdpSession) :
    Quiet s (session.removeParticipantRuntimeState s) := by
  refine ⟨?_, ?_, ?_⟩
  · simp [DungeonUdpSession.removeParticipantRuntimeState]
  · intro queued hq
    simpa using (List.mem_filter.mp hq).2
  · intro queued hq
    simpa using (List.mem_filter.mp hq).2

theorem disconnectParticipant (h : Quiet s session) (x : SessionId) :
    Quiet s (session.disconnectParticipant x).2 := by
  unfold DungeonUdpSession.disconnectParticipant
  split
  · exact h
  · exact h.removeParticipantRuntimeState x

theorem removeParticipant (h : Quiet s session) (x : SessionId) :
    Quiet s (session.removeParticipant x).2 := by
  unfold DungeonUdpSession.removeParticipant
  split
  · exact h
  · obtain ⟨h1, h2, h3⟩ := h.removeParticipantRuntimeState x
    exact ⟨h1, h2, h3⟩

theorem rotated (h : Quiet s session) (old new : SessionId) (token : DungeonUdpToken) :
    Quiet s (rotated old new token session) := by
  obtain ⟨h1, h2, h3⟩ := h.removeParticipantRuntimeState old
  exact ⟨h1, h2, h3⟩

theorem removeInactiveEndpoints (h : Quiet s session) (idleTimeout now : Int) :
    Quiet s (session.removeInactiveEndpoints idleTimeout now).2 :=
  removeInactiveEndpoints_keeps (fun _ x hv => hv.removeParticipantRuntimeState x) h idleTimeout now

theorem tryPopMovement (h : Quiet s session) : Quiet s session.tryPopMovement.2 ∧
    ∀ queued, session.tryPopMovement.1 = some queued → queued.sessionId ≠ s := by
  have hm := h.movements
  unfold DungeonUdpSession.tryPopMovement
  split
  · exact ⟨h, by simp⟩
  · rename_i queued rest he
    rw [he] at hm
    refine ⟨⟨h.endpoint, fun x hx => hm x (List.mem_cons_of_mem _ hx), h.attacks⟩, ?_⟩
    rintro x hx
    obtain rfl := Option.some.inj hx
    exact hm _ List.mem_cons_self

theorem tryPopAttack (h : Quiet s session) : Quiet s session.tryPopAttack.2 ∧
    ∀ queued, session.tryPopAttack.1 = some queued → queued.sessionId ≠ s := by
  have hm := h.attacks
  unfold DungeonUdpSession.tryPopAttack
  split
  · exact ⟨h, by simp⟩
  · rename_i queued rest he
    rw [he] at hm
    refine ⟨⟨h.endpoint, h.movements, fun x hx => hm x (List.mem_cons_of_mem _ hx)⟩, ?_⟩
    rintro x hx
    obtain rfl := Option.some.inj hx
    exact hm _ List.mem_cons_self

/-! ### Datagrams -/

/-- Only the session's own Hello with its token registers an endpoint for it. -/
theorem handleHello (h : Quiet s session) (sender : Endpoint) (now : Int) {hello : UdpHelloMessage}
    (hh : hello.sessionId = s → session.tokens[s]? ≠ some hello.token) :
    Quiet s (session.handleHello sender now hello).2 := by
  unfold DungeonUdpSession.handleHello
  split
  · rename_i htoken
    have hne : hello.sessionId ≠ s := fun he => hh he (he ▸ htoken)
    split
    · refine ⟨?_, h.movements, h.attacks⟩
      have := h.endpoint
      simp only
      grind
    · split
      · exact ⟨h.endpoint, h.movements, h.attacks⟩
      · exact h
  · exact h

theorem handleHeartbeat (h : Quiet s session) (sender : Endpoint) (now : Int)
    (heartbeat : UdpHeartbeatMessage) : Quiet s (session.handleHeartbeat sender now heartbeat) := by
  unfold DungeonUdpSession.handleHeartbeat
  split
  · exact ⟨h.endpoint, h.movements, h.attacks⟩
  · exact h

/-- The sender of an input is looked up among the endpoints. -/
theorem sessionAt_ne (h : Quiet s session) {sender : Endpoint} {order : List SessionId}
    (h0 : session.sessionAt sender order ≠ 0) : session.sessionAt sender order ≠ s := by
  have hs := h.endpoint
  unfold DungeonUdpSession.sessionAt at h0 ⊢
  cases hf : order.find? fun s => session.endpoints[s]? = some sender with
  | none => simp [hf] at h0
  | some x =>
    have hx := List.find?_some hf
    simp only [decide_eq_true_eq] at hx
    simp only [Option.getD_some]
    rintro rfl
    grind

theorem handlePlayerMovement (h : Quiet s session) (sender : Endpoint) (now : Int)
    (order : List SessionId) (movement : PlayerMovementMessage) :
    Quiet s (session.handlePlayerMovement sender now order movement) := by
  unfold DungeonUdpSession.handlePlayerMovement
  simp only
  split
  · exact h
  · rename_i h0
    split
    · exact ⟨h.endpoint, h.movements, h.attacks⟩
    · split
      · exact ⟨h.endpoint, h.movements, h.attacks⟩
      · refine ⟨h.endpoint, ?_, h.attacks⟩
        intro queued hq
        rcases List.mem_append.mp hq with hq | hq
        · exact h.movements queued hq
        · obtain rfl := List.mem_singleton.mp hq
          exact h.sessionAt_ne h0

theorem handlePlayerAttack (h : Quiet s session) (sender : Endpoint) (now : Int)
    (order : List SessionId) (attack : PlayerAttackMessage) :
    Quiet s (session.handlePlayerAttack sender now order attack) := by
  unfold DungeonUdpSession.handlePlayerAttack
  simp only
  split
  · exact h
  · rename_i h0
    split
    · exact ⟨h.endpoint, h.movements, h.attacks⟩
    · split
      · exact ⟨h.endpoint, h.movements, h.attacks⟩
      · refine ⟨h.endpoint, h.movements, ?_⟩
        intro queued hq
        rcases List.mem_append.mp hq with hq | hq
        · exact h.attacks queued hq
        · obtain rfl := List.mem_singleton.mp hq
          exact h.sessionAt_ne h0

end Quiet

/-- The datagram is a Hello of this dungeon and session with the token the session holds, and the UDP
session still reads it. -/
def Greets (parse : Parse) (s : SessionId) (session : DungeonUdpSession)
    (datagram : DungeonUdpSession.Datagram) : Prop :=
  session.stopped = false ∧ ∃ hello, decodeUdpHello parse datagram.bytes = some hello ∧
    (hello.dungeonId = session.dungeonId ∧ hello.sessionId = s ∧
      session.tokens[s]? = some hello.token)

instance (parse : Parse) (s : SessionId) (session : DungeonUdpSession)
    (datagram : DungeonUdpSession.Datagram) : Decidable (Greets parse s session datagram) :=
  inferInstanceAs (Decidable (session.stopped = false ∧
    ∃ hello, decodeUdpHello parse datagram.bytes = some hello ∧
      (hello.dungeonId = session.dungeonId ∧ hello.sessionId = s ∧
        session.tokens[s]? = some hello.token)))

/-- No datagram of any kind but the session's own Hello breaks the silence. -/
theorem Quiet.handleReceive {s : SessionId} {session : DungeonUdpSession} (h : Quiet s session)
    {parse : Parse} {datagram : DungeonUdpSession.Datagram}
    (hg : ¬ Greets parse s session datagram) (serverTick : UInt32) :
    Quiet s (session.handleReceive parse serverTick datagram).2 := by
  unfold DungeonUdpSession.handleReceive
  split
  · exact h
  · rename_i hreads
    split
    · rename_i hello hh
      split
      · rename_i hid
        refine h.handleHello _ _ ?_
        intro hs ht
        exact hg ⟨(Bool.not_eq_true _).mp hreads, hello, hh, hid, hs, ht⟩
      · exact h
    · split
      · exact h.handlePlayerMovement _ _ _ _
      · split
        · exact h.handlePlayerAttack _ _ _ _
        · split
          · exact h.handleHeartbeat _ _ _
          · exact h

/-! ## The UDP manager -/

/-- The UDP session of dungeon `d`, if there is one, is quiet. -/
def QuietIn (u : DungeonUdpManager) (d : DungeonId) (s : SessionId) : Prop :=
  ∀ session, u.sessions[d]? = some session → Quiet s session

namespace QuietIn

variable {u : DungeonUdpManager} {d : DungeonId} {s : SessionId}

theorem insert (h : QuietIn u d s) {x : DungeonId} {session : DungeonUdpSession}
    (hq : x = d → Quiet s session) :
    QuietIn { u with sessions := u.sessions.insert x session } d s := by
  intro other ho
  have := h other
  simp only at ho
  grind

theorem onSession {α : Type} (h : QuietIn u d s) (x : DungeonId) (missing : α)
    {call : DungeonUdpSession → α × DungeonUdpSession}
    (hc : ∀ session, u.sessions[d]? = some session → Quiet s session → Quiet s (call session).2) :
    QuietIn (u.onSession x missing call).2 d s := by
  unfold DungeonUdpManager.onSession
  cases hx : u.sessions[x]? with
  | none => exact h
  | some session =>
    refine h.insert ?_
    rintro rfl
    exact hc session hx (h session hx)

theorem disconnectParticipant (h : QuietIn u d s) (x : DungeonId) (y : SessionId) :
    QuietIn (u.disconnectParticipant x y).2 d s := by
  unfold DungeonUdpManager.disconnectParticipant
  cases hx : u.sessions[x]? with
  | none => exact h
  | some session =>
    refine h.insert ?_
    rintro rfl
    exact (h session hx).disconnectParticipant y

theorem removeParticipant (h : QuietIn u d s) (x : DungeonId) (y : SessionId) :
    QuietIn (u.removeParticipant x y).2 d s := by
  unfold DungeonUdpManager.removeParticipant
  cases hx : u.sessions[x]? with
  | none => exact h
  | some session =>
    refine h.insert ?_
    rintro rfl
    exact (h session hx).removeParticipant y

theorem release (h : QuietIn u d s) (x : DungeonId) : QuietIn (u.release x).2 d s := by
  unfold DungeonUdpManager.release
  split
  · intro session hs
    have := h session
    simp only at hs
    grind
  · exact h

theorem sweep (h : QuietIn u d s) (removed : List AbandonedDungeonParticipant)
    (released : List DungeonId) :
    QuietIn (released.foldl (fun udp d => (udp.release d).2) (removed.foldl (fun udp participant =>
      (udp.removeParticipant participant.dungeonId participant.sessionId).2) u)) d s := by
  have hremoved : QuietIn (removed.foldl (fun udp participant =>
      (udp.removeParticipant participant.dungeonId participant.sessionId).2) u) d s := by
    induction removed generalizing u with
    | nil => exact h
    | cons participant rest ih => exact ih (h.removeParticipant _ _)
  generalize removed.foldl (fun udp participant =>
    (udp.removeParticipant participant.dungeonId participant.sessionId).2) u = v at hremoved
  induction released generalizing v with
  | nil => exact hremoved
  | cons x rest ih => exact ih _ (hremoved.release x)

theorem refreshAllActivity (h : QuietIn u d s) (x : DungeonId) (now : Int) :
    QuietIn (u.refreshAllActivity x now) d s := by
  unfold DungeonUdpManager.refreshAllActivity
  cases hx : u.sessions[x]? with
  | none => exact h
  | some session =>
    refine h.insert ?_
    rintro rfl
    obtain ⟨h1, h2, h3⟩ := h session hx
    exact ⟨h1, h2, h3⟩

theorem removeInactiveEndpoints (h : QuietIn u d s) (x : DungeonId) (idleTimeout now : Int) :
    QuietIn (u.removeInactiveEndpoints x idleTimeout now).2 d s := by
  unfold DungeonUdpManager.removeInactiveEndpoints
  cases hx : u.sessions[x]? with
  | none => exact h
  | some session =>
    refine h.insert ?_
    rintro rfl
    exact (h session hx).removeInactiveEndpoints idleTimeout now

theorem tryPopMovement (h : QuietIn u d s) (x : DungeonId) : QuietIn (u.tryPopMovement x).2 d s ∧
    ∀ queued, x = d → (u.tryPopMovement x).1 = some queued → queued.sessionId ≠ s := by
  refine ⟨h.onSession x none fun session _ hq => hq.tryPopMovement.1, ?_⟩
  rintro queued rfl hpop
  simp only [DungeonUdpManager.tryPopMovement, DungeonUdpManager.onSession] at hpop
  split at hpop
  · cases hpop
  · rename_i session hs
    exact (h session hs).tryPopMovement.2 queued hpop

theorem tryPopAttack (h : QuietIn u d s) (x : DungeonId) : QuietIn (u.tryPopAttack x).2 d s ∧
    ∀ queued, x = d → (u.tryPopAttack x).1 = some queued → queued.sessionId ≠ s := by
  refine ⟨h.onSession x none fun session _ hq => hq.tryPopAttack.1, ?_⟩
  rintro queued rfl hpop
  simp only [DungeonUdpManager.tryPopAttack, DungeonUdpManager.onSession] at hpop
  split at hpop
  · cases hpop
  · rename_i session hs
    exact (h session hs).tryPopAttack.2 queued hpop

end QuietIn

/-! ## The tick -/

/-- The tick holds no input of session `s` that it has still to apply in dungeon `d`. An attack
with a skill that the catalog does not have is dropped, whoever sent it. -/
def NoInput (skillCatalog : SkillCatalog) (d : DungeonId) (s : SessionId) : Processing → Prop
  | .popMovements x latestMovements => x = d → s ∉ latestMovements
  | .applyMovements x rest => x = d → ∀ entry ∈ rest, entry.1 ≠ s
  | .beginAttack x queuedAttack => x = d → queuedAttack.sessionId = s →
    skillCatalog.getSkill queuedAttack.attack.skillId = none
  | _ => True

/-- Since it was in state `start`, the player of session `s` in dungeon `d` has only been
counted down. -/
def Resting (start : DungeonPlayerState) (d : DungeonId) (s : SessionId) (m : DungeonManager) : Prop :=
  ∀ dungeon, m.dungeons[d]? = some dungeon → ∀ player,
    (DungeonInstance.players dungeon)[s]? = some player →
    ∃ n, player = DungeonPlayerState.advanceCombatTick^[n] start

theorem advanceCombatTick_place (player : DungeonPlayerState) :
    player.advanceCombatTick.roomId = player.roomId ∧
      player.advanceCombatTick.position = player.position := by
  unfold DungeonPlayerState.advanceCombatTick
  simp only
  split
  · exact ⟨rfl, rfl⟩
  · split
    · exact ⟨rfl, rfl⟩
    · split
      · exact ⟨rfl, rfl⟩
      · split <;> exact ⟨rfl, rfl⟩

theorem advanceCombatTicks_place (n : Nat) (player : DungeonPlayerState) :
    (DungeonPlayerState.advanceCombatTick^[n] player).roomId = player.roomId ∧
      (DungeonPlayerState.advanceCombatTick^[n] player).position = player.position := by
  induction n with
  | zero => exact ⟨rfl, rfl⟩
  | succ n ih =>
    rw [Function.iterate_succ_apply']
    obtain ⟨hr, hp⟩ := advanceCombatTick_place (DungeonPlayerState.advanceCombatTick^[n] player)
    exact ⟨hr.trans ih.1, hp.trans ih.2⟩

namespace Resting

variable {start : DungeonPlayerState} {d : DungeonId} {s : SessionId} {m m' : DungeonManager}

/-- The player is not touched. -/
theorem same (h : Resting start d s m)
    (hp : ∀ (dungeon' : DungeonInstance) (player : DungeonPlayerState),
      m'.dungeons[d]? = some dungeon' → dungeon'.players[s]? = some player →
      ∃ dungeon, m.dungeons[d]? = some dungeon ∧
        (DungeonInstance.players dungeon)[s]? = some player) : Resting start d s m' := by
  intro dungeon' hd' player hplayer
  obtain ⟨dungeon, hd, hs⟩ := hp dungeon' player hd' hplayer
  exact h dungeon hd player hs

theorem modifyDungeon (h : Resting start d s m) {x : DungeonId}
    {change : DungeonInstance → DungeonInstance}
    (hc : ∀ dungeon, x = d → m.dungeons[d]? = some dungeon →
      (change dungeon).players[s]? = (DungeonInstance.players dungeon)[s]?) :
    Resting start d s (m.modifyDungeon x change) := by
  refine h.same ?_
  intro dungeon' player hd' hplayer
  unfold DungeonManager.modifyDungeon at hd'
  split at hd'
  · exact ⟨dungeon', hd', hplayer⟩
  · rename_i dungeon hd
    by_cases hx : x = d
    · subst hx
      have he : dungeon' = change dungeon := by simpa using hd'.symm
      exact ⟨dungeon, hd, by rw [← hc dungeon rfl hd, ← he]; exact hplayer⟩
    · exact ⟨dungeon', by grind, hplayer⟩

/-- One combat tick of some player, possibly of this one. -/
theorem advanceCombatTick (h : Resting start d s m) (x : DungeonId) (y : SessionId) :
    Resting start d s (m.modifyDungeon x (modifyPlayer y (·.advanceCombatTick))) := by
  by_cases hxy : x = d ∧ y = s
  · obtain ⟨rfl, rfl⟩ := hxy
    unfold DungeonManager.modifyDungeon
    split
    · exact h
    · rename_i dungeon hd
      intro dungeon' hd' player hplayer
      have he : dungeon' = modifyPlayer y (·.advanceCombatTick) dungeon := by simpa using hd'.symm
      rw [he, modifyPlayer, DungeonInstance.findPlayer] at hplayer
      split at hplayer
      · exact h dungeon hd player hplayer
      · rename_i before hbefore
        obtain ⟨n, hn⟩ := h dungeon hd before hbefore
        refine ⟨n + 1, ?_⟩
        rw [Function.iterate_succ_apply', ← hn]
        simpa using hplayer.symm
  · refine h.modifyDungeon ?_
    intro dungeon hx hd
    have hne : s ≠ y := fun he => hxy ⟨hx, he.symm⟩
    exact (modifyPlayer_simulated y dungeon fun player _ => advanceCombatTick_sessionId player).others
      s hne

end Resting

/-! ## The invariant -/

/-- Session `s` is a participant of dungeon `d`. -/
def Present (d : DungeonId) (s : SessionId) (server : Server) : Prop :=
  ∃ dungeon, server.managers.dungeons.dungeons[d]? = some dungeon ∧
    s ∈ DungeonInstance.players dungeon

instance (d : DungeonId) (s : SessionId) (server : Server) : Decidable (Present d s server) :=
  inferInstanceAs (Decidable (∃ dungeon, server.managers.dungeons.dungeons[d]? = some dungeon ∧
    s ∈ DungeonInstance.players dungeon))

/-- The operation comes before `s` is replaced or removed, and it is no datagram by which `s`
registers an endpoint. -/
def Unprovoked (env : Environment) (d : DungeonId) (s : SessionId) (server : Server)
    (op : Operation) : Prop :=
  Present d s server ∧ match op with
    | .receive x _ datagram => x = d → ∀ session, server.managers.udp.sessions[d]? = some session →
        ¬ Greets env.parse s session datagram
    | _ => True

instance (env : Environment) (d : DungeonId) (s : SessionId) (server : Server) (op : Operation) :
    Decidable (Unprovoked env d s server op) := by
  cases op <;> dsimp only [Unprovoked] <;> infer_instance

/-- The invariant: session `s` is silent in dungeon `d`. -/
structure Silent (skillCatalog : SkillCatalog) (start : DungeonPlayerState) (d : DungeonId)
    (s : SessionId) (server : Server) : Prop where
  agreed : Agreed server.managers
  quiet : QuietIn server.managers.udp d s
  input : NoInput skillCatalog d s server.processing
  resting : Resting start d s server.managers.dungeons

namespace Silent

variable {skillCatalog : SkillCatalog} {start : DungeonPlayerState} {d : DungeonId}
  {s : SessionId} {server : Server} {env : Environment}

theorem enterDungeon (h : Silent skillCatalog start d s server) (hp : Present d s server) {x : SessionId}
    {templateId : DungeonTemplateId} {parties : PartyManager} {catalog : DungeonCatalog} {now : Int}
    {socket : Option UInt16} {draws : List DungeonUdpToken}
    {out : Except Failure EnterDungeonResponse × Managers}
    (hn : PacketDispatcher.handleEnterDungeonRequest x templateId parties catalog now socket draws
      server.managers = some out) :
    QuietIn out.2.udp d s ∧ Resting start d s out.2.dungeons := by
  obtain ⟨dungeon, hd, -⟩ := hp
  obtain ⟨issued, hi⟩ := h.agreed.index
  rcases Agreed.enterDungeon_cases hi hn with
    ⟨n, issued, he, hn, hi⟩ | ⟨n, created, issued, hi, hfree, hw, hn, hopen⟩
  · rw [he]
    exact ⟨h.quiet, h.resting.same fun other player ho hplayer => ⟨other, hn ▸ ho, hplayer⟩⟩
  · have hne : created.dungeonId ≠ d := by grind
    have hcreated : n.dungeons[created.dungeonId]? = some created := by
      rw [hn]
      simp
    have hresting : Resting start d s n := by
      refine h.resting.same fun other player ho hplayer => ⟨other, ?_, hplayer⟩
      rw [hn] at ho
      grind
    rcases Agreed.openDungeon_cases (m := { server.managers with dungeons := n }) hcreated hw hopen with
      ⟨port, tokens, -, he⟩ | ⟨u, hu, he⟩
    · rw [he]
      exact ⟨h.quiet.insert fun hx => absurd hx hne, hresting⟩
    · rw [he]
      refine ⟨?_, ?_⟩
      · apply QuietIn.release
        intro session hs
        exact h.quiet session (by rw [← hu d hne.symm]; exact hs)
      · refine hresting.same fun other player ho hplayer => ⟨other, ?_, hplayer⟩
        simp only [DungeonManager.removeDungeon] at ho
        grind

theorem registerPlayerSession (h : Silent skillCatalog start d s server) (hp : Present d s server) (x p : Nat)
    (grace : Int) (inputs : RegisterInputs)
    (ho : IterationOrder server.managers.dungeons.dungeons inputs.order) :
    QuietIn (DungeonLifecycleService.registerPlayerSession x p grace inputs server.managers).2.udp d s ∧
      Resting start d s
        (DungeonLifecycleService.registerPlayerSession x p grace inputs server.managers).2.dungeons := by
  obtain ⟨dungeon, hd, hs⟩ := hp
  rcases h.agreed.register_cases x p grace inputs ho with ⟨result, n, he, -, -, hplayers, -⟩ |
    ⟨result, y, other, old, t, player, token, session, he, -, hy, hsession, hr, -⟩
  · rw [he]
    refine ⟨h.quiet, h.resting.same ?_⟩
    intro dungeon' player hd' hplayer
    have hsame := hplayers d
    rw [hd', hd] at hsame
    exact ⟨dungeon, hd, by grind⟩
  · rw [he]
    refine ⟨h.quiet.insert ?_, h.resting.same ?_⟩
    · rintro rfl
      exact (h.quiet session hsession).rotated old x token
    · intro dungeon' player' hd' hplayer
      simp only [reconnected, signIn] at hd'
      by_cases hyd : y = d
      · subst hyd
        rw [hd] at hy
        cases hy
        have hfresh := hr.fresh
        have he' : dungeon' = moved p old x player (dungeon.disconnectedSince.erase old) dungeon := by
          grind
        rw [he', moved] at hplayer
        exact ⟨dungeon, hd, by grind⟩
      · exact ⟨dungeon', by grind, hplayer⟩

theorem disconnectPlayerSession (h : Silent skillCatalog start d s server) {order : List DungeonId}
    (ho : IterationOrder server.managers.dungeons.dungeons order) (x : SessionId) (t : Int) :
    QuietIn (DungeonLifecycleService.disconnectPlayerSession x t order server.managers).2.udp d s ∧
      Resting start d s
        (DungeonLifecycleService.disconnectPlayerSession x t order server.managers).2.dungeons := by
  unfold DungeonLifecycleService.disconnectPlayerSession
  rcases disconnectPlayer_cases ho x t with ⟨-, he⟩ | ⟨-, -, he⟩ | ⟨-, y, dungeon, hd, hs, he⟩
  · rw [he]
    exact ⟨h.quiet, h.resting⟩
  · rw [he]
    exact ⟨h.quiet, h.resting.same fun other player hother hplayer =>
      ⟨other, by simpa using hother, hplayer⟩⟩
  · rw [he]
    refine ⟨h.quiet.disconnectParticipant y x, h.resting.same ?_⟩
    intro dungeon' player hd' hplayer
    simp only [marked] at hd'
    by_cases hy : y = d
    · subst hy
      exact ⟨dungeon, hd, by grind⟩
    · exact ⟨dungeon', by grind, hplayer⟩

theorem sweep (h : Silent skillCatalog start d s server) (now grace lifetime : Int) :
    QuietIn (DungeonLifecycleService.sweepAbandonedParticipants now grace lifetime
        server.managers).2.udp d s ∧
      Resting start d s (DungeonLifecycleService.sweepAbandonedParticipants now grace lifetime
        server.managers).2.dungeons := by
  refine ⟨h.quiet.sweep _ _, ?_⟩
  simp only [DungeonLifecycleService.sweepAbandonedParticipants]
  by_cases hpos : 0 < grace ∧ 0 < lifetime
  · have heff := sweep_effect hpos.1 hpos.2 now server.managers.dungeons
    refine h.resting.same ?_
    intro dungeon' player hd' hplayer
    obtain ⟨dungeon, hd, -, rfl⟩ := heff.kept h.agreed.consistent hpos.1 hd'
    simp only [without] at hplayer
    exact ⟨dungeon, hd, by grind⟩
  · rw [sweep_idle hpos]
    exact h.resting

theorem removeDungeon (h : Silent skillCatalog start d s server) (x : DungeonId) (dungeon : DungeonInstance) :
    Resting start d s (server.managers.dungeons.removeDungeon x dungeon) := by
  refine h.resting.same fun other player ho hplayer => ⟨other, ?_, hplayer⟩
  simp only [DungeonManager.removeDungeon] at ho
  grind

theorem startWaiting (h : Silent skillCatalog start d s server) (catalog : EnemyCatalog) (x : DungeonId)
    (now : Int) : QuietIn (startWaiting catalog x now server.managers).udp d s ∧
      Resting start d s (startWaiting catalog x now server.managers).dungeons := by
  refine ⟨?_, ?_⟩
  · simp only [Udp.startWaiting]
    split
    · exact h.quiet.refreshAllActivity x now
    · exact h.quiet
  · simp only [Udp.startWaiting]
    rcases startDungeon_cases catalog x server.managers.dungeons with
      he | ⟨dungeon, state, rooms, hd, -, he⟩
    · rw [he]
      exact h.resting
    · rw [he]
      refine h.resting.same ?_
      intro dungeon' player hd' hplayer
      by_cases hx : x = d
      · subst hx
        exact ⟨dungeon, hd, by grind⟩
      · exact ⟨dungeon', by grind, hplayer⟩

theorem resolvePendingHits {m : Managers} (h : Resting start d s m.dungeons) (arithmetic : Arithmetic)
    (x : DungeonId) (processing : Processing) (hits : IdMap (IdMap PendingSkillHit)) :
    Resting start d s
      (DungeonCombatProcessor.resolvePendingHits arithmetic x ⟨m, processing, hits⟩).managers.dungeons ∧
    (DungeonCombatProcessor.resolvePendingHits arithmetic x ⟨m, processing, hits⟩).managers.udp =
      m.udp := by
  unfold DungeonCombatProcessor.resolvePendingHits
  split
  · rename_i pending dungeon hh hd
    refine ⟨h.modifyDungeon ?_, rfl⟩
    rintro other rfl ho
    rw [DungeonManager.findDungeon, ho] at hd
    cases hd
    exact (resolveHits_simulated arithmetic _ _ _).others s not_false
  · exact ⟨h, rfl⟩

theorem beginAttack (h : Silent skillCatalog start d s server) (x : DungeonId)
    {queued : AuthenticatedPlayerAttack} (hq : x = d → queued.sessionId = s →
      skillCatalog.getSkill queued.attack.skillId = none) :
    Resting start d s
      (DungeonCombatProcessor.beginAttack skillCatalog x queued server).managers.dungeons ∧
    (DungeonCombatProcessor.beginAttack skillCatalog x queued server).managers.udp =
      server.managers.udp := by
  unfold DungeonCombatProcessor.beginAttack
  split
  · rename_i hskill
    split
    · rename_i player he
      refine ⟨h.resting.modifyDungeon ?_, rfl⟩
      intro dungeon hx hd
      have hne : queued.sessionId ≠ s := by
        intro hs
        rw [hq hx hs] at hskill
        cases hskill
      unfold modifyPlayer
      split
      · rfl
      · simp only
        grind
    · exact ⟨h.resting, rfl⟩
  · exact ⟨h.resting, rfl⟩

/-- No step of the processors takes an input of the session, moves its player or starts a
skill for it. -/
theorem processStep (h : Silent skillCatalog start d s server) {arithmetic : Arithmetic}
    {enemyCatalog : EnemyCatalog} {target : DungeonId}
    {order : List SessionId} {server' : Server}
    (hs : DungeonTickService.processStep arithmetic skillCatalog enemyCatalog target order server =
      server') :
    QuietIn server'.managers.udp d s ∧ NoInput skillCatalog d s server'.processing ∧
      Resting start d s server'.managers.dungeons := by
  have hinput := h.input
  subst hs
  unfold DungeonTickService.processStep
  split
  · split
    · exact ⟨h.quiet, by simp [NoInput], h.resting⟩
    · exact ⟨h.quiet, hinput, h.resting⟩
  · rename_i x latest hprocessing
    rw [hprocessing] at hinput
    obtain ⟨hquiet, hne⟩ := h.quiet.tryPopMovement x
    simp only
    split
    · rename_i queued hpop
      refine ⟨hquiet, ?_, h.resting⟩
      intro hx
      have := hinput hx
      have := hne queued hx hpop
      grind
    · refine ⟨hquiet, ?_, h.resting⟩
      intro hx entry he
      have hlatest := hinput hx
      simp only [List.mem_filterMap, Option.map_eq_some_iff] at he
      obtain ⟨y, -, movement, hy, rfl⟩ := he
      rintro rfl
      grind
  · rename_i x y movement rest hprocessing
    rw [hprocessing] at hinput
    refine ⟨h.quiet, fun hx entry he => hinput hx entry (List.mem_cons_of_mem _ he), ?_⟩
    refine h.resting.modifyDungeon ?_
    intro dungeon hx hd
    have hne : s ≠ y := fun he => hinput hx (y, movement) List.mem_cons_self he.symm
    exact (applyMovement_simulated arithmetic enemyCatalog y movement dungeon).others s hne
  · split
    · split
      · exact ⟨h.quiet, trivial, h.resting⟩
      · exact ⟨h.quiet, trivial, h.resting⟩
    · exact ⟨h.quiet, trivial, h.resting⟩
  · exact ⟨h.quiet, trivial, h.resting.advanceCombatTick _ _⟩
  · rename_i x hprocessing
    obtain ⟨hr, hu⟩ := resolvePendingHits h.resting arithmetic x server.processing
      server.pendingHits
    exact ⟨by rw [hu]; exact h.quiet, trivial, hr⟩
  · rename_i x hprocessing
    obtain ⟨hquiet, hne⟩ := h.quiet.tryPopAttack x
    simp only
    split
    · rename_i queued hpop
      exact ⟨hquiet, fun hx hs => absurd hs (hne queued hx hpop), h.resting⟩
    · obtain ⟨hr, hu⟩ := resolvePendingHits
        (m := { server.managers with udp := (server.managers.udp.tryPopAttack x).2 }) h.resting
        arithmetic x server.processing server.pendingHits
      exact ⟨by rw [hu]; exact hquiet, trivial, hr⟩
  · rename_i x queued hprocessing
    rw [hprocessing] at hinput
    obtain ⟨hr, hu⟩ := h.beginAttack x hinput
    exact ⟨by rw [hu]; exact h.quiet, trivial, hr⟩

/-- Every operation that does not provoke it keeps the silence. -/
theorem next {server' : Server} {op : Operation} (h : Silent env.skillCatalog start d s server)
    (hop : Unprovoked env d s server op) (hn : next env server op = some server') :
    Silent env.skillCatalog start d s server' := by
  have hagreed := agreed_next h.agreed hn
  obtain ⟨hp, hreceive⟩ := hop
  cases op with
  | enterDungeon x templateId parties catalog now socket draws =>
    simp only [Udp.next, Option.map_eq_some_iff] at hn
    obtain ⟨out, hout, rfl⟩ := hn
    obtain ⟨hquiet, hresting⟩ := h.enterDungeon hp hout
    exact ⟨hagreed, hquiet, h.input, hresting⟩
  | registerPlayerSession x p grace inputs =>
    simp only [Udp.next] at hn
    split at hn
    · rename_i ho
      obtain rfl := Option.some.inj hn
      obtain ⟨hquiet, hresting⟩ := h.registerPlayerSession hp x p grace inputs ho
      exact ⟨hagreed, hquiet, h.input, hresting⟩
    · cases hn
  | disconnectPlayerSession x t order =>
    simp only [Udp.next] at hn
    split at hn
    · rename_i ho
      obtain rfl := Option.some.inj hn
      obtain ⟨hquiet, hresting⟩ := h.disconnectPlayerSession ho x t
      exact ⟨hagreed, hquiet, h.input, hresting⟩
    · cases hn
  | sweepAbandonedParticipants now grace lifetime =>
    obtain rfl := Option.some.inj hn
    obtain ⟨hquiet, hresting⟩ := h.sweep now grace lifetime
    exact ⟨hagreed, hquiet, h.input, hresting⟩
  | cancelWaitingDungeon x =>
    obtain rfl := Option.some.inj hn
    refine ⟨hagreed, ?_, h.input, ?_⟩
    all_goals
      simp only [DungeonLifecycleService.cancelWaitingDungeon]
      rcases cancel_cases server.managers.dungeons x with he | ⟨dungeon, hd, -, he⟩ <;> rw [he]
    · exact h.quiet
    · exact h.quiet.release x
    · exact h.resting
    · exact h.removeDungeon x dungeon
  | finishDungeon x =>
    obtain rfl := Option.some.inj hn
    refine ⟨hagreed, ?_, h.input, ?_⟩
    all_goals
      simp only [DungeonLifecycleService.finishDungeon]
      rcases finish_cases server.managers.dungeons x with he | ⟨dungeon, hd, -, he⟩ <;> rw [he]
    · exact h.quiet
    · exact h.quiet.release x
    · exact h.resting
    · exact h.removeDungeon x dungeon
  | startDungeon x now =>
    obtain rfl := Option.some.inj hn
    obtain ⟨hquiet, hresting⟩ := h.startWaiting env.enemyCatalog x now
    exact ⟨hagreed, hquiet, h.input, hresting⟩
  | removeInactiveEndpoints x idleTimeout now =>
    obtain rfl := Option.some.inj hn
    exact ⟨hagreed, h.quiet.removeInactiveEndpoints x idleTimeout now, h.input, h.resting⟩
  | receive x serverTick datagram =>
    obtain rfl := Option.some.inj hn
    refine ⟨hagreed, ?_, h.input, h.resting⟩
    by_cases hx : x = d
    · exact h.quiet.onSession x none fun session hs hq =>
        hq.handleReceive (hreceive hx session hs) serverTick
    · intro session hs
      apply h.quiet session
      simp only [DungeonUdpManager.handleReceive, DungeonUdpManager.onSession] at hs
      split at hs
      · exact hs
      · simp only at hs
        grind
  | process target order =>
    obtain rfl := Option.some.inj hn
    obtain ⟨hquiet, hinput, hresting⟩ := h.processStep rfl
    exact ⟨hagreed, hquiet, hinput, hresting⟩
  | advanceRoomWaves x =>
    obtain rfl := Option.some.inj hn
    exact ⟨hagreed, h.quiet, h.input, h.resting.modifyDungeon fun dungeon _ _ =>
      (advanceRoomWaves_simulated env.enemyCatalog dungeon).others s not_false⟩
  | tryFinishIfCleared x =>
    obtain rfl := Option.some.inj hn
    exact ⟨hagreed, h.quiet, h.input, h.resting.modifyDungeon fun dungeon _ _ =>
      (tryFinishIfCleared_simulated dungeon).others s not_false⟩

end Silent

/-- The disconnect itself drops the endpoint and the queued inputs. -/
theorem disconnect_quiet {m : Managers} (h : Agreed m) {s : SessionId} {t : Int}
    {order : List DungeonId} {d : DungeonId} (ho : IterationOrder m.dungeons.dungeons order)
    (hd : (m.dungeons.disconnectPlayerSession s t order).1 = some d) :
    QuietIn (DungeonLifecycleService.disconnectPlayerSession s t order m).2.udp d s ∧
    ∃ dungeon player, (DungeonLifecycleService.disconnectPlayerSession s t order
        m).2.dungeons.dungeons[d]? = some dungeon ∧
      (DungeonInstance.players dungeon)[s]? = some player := by
  unfold DungeonLifecycleService.disconnectPlayerSession
  rcases disconnectPlayer_cases ho s t with ⟨-, he⟩ | ⟨-, -, he⟩ | ⟨-, x, dungeon, hx, hs, he⟩
  · rw [he] at hd
    cases hd
  · rw [he] at hd
    cases hd
  · rw [he] at hd
    obtain rfl : x = d := Option.some.inj hd
    rw [he]
    refine ⟨?_, marked s t dungeon, dungeon.players[s], by simp, by simp [marked]⟩
    obtain ⟨session, hsession, htokens⟩ := h.session hx
    have htoken : s ∈ session.tokens := by
      rw [htokens, (h.consistent x dungeon hx).listed]
      exact hs
    simp only [DungeonUdpManager.disconnectParticipant, hsession,
      DungeonUdpSession.disconnectParticipant, htoken, not_true_eq_false, ↓reduceIte]
    intro other hother
    have heq : other = session.removeParticipantRuntimeState s := by simpa using hother.symm
    rw [heq]
    exact Quiet.of_removed s session

/-- From a completed disconnect until the session is replaced or removed, in every run without
a Hello that carries the token of the session: it has no endpoint and no queued input, and its
player stays where it is and is only counted down, so that no skill is started for it. The
tick that was under way must not hold an input of the session that it took before, unless it is
an attack with an unknown skill. -/
theorem disconnected_stays_silent {env : Environment} {ops ops' : List Operation}
    {before server after : Server} {s : SessionId} {t : Int} {order : List DungeonId} {d : DungeonId}
    (hr : run (next env) {} ops = some before)
    (hn : next env before (.disconnectPlayerSession s t order) = some server)
    (hd : (before.managers.dungeons.disconnectPlayerSession s t order).1 = some d)
    (hi : NoInput env.skillCatalog d s before.processing)
    (hm : Meets (next env) (Unprovoked env d s) server ops')
    (hr' : run (next env) server ops' = some after) :
    (∀ session, after.managers.udp.sessions[d]? = some session → s ∉ session.endpoints ∧
      (∀ queued ∈ session.pendingMovements, queued.sessionId ≠ s) ∧
      ∀ queued ∈ session.pendingAttacks, queued.sessionId ≠ s) ∧
    ∃ dungeon player, server.managers.dungeons.dungeons[d]? = some dungeon ∧
      (DungeonInstance.players dungeon)[s]? = some player ∧
      ∀ dungeon' player', after.managers.dungeons.dungeons[d]? = some dungeon' →
        (DungeonInstance.players dungeon')[s]? = some player' →
        player'.roomId = player.roomId ∧ player'.position = player.position ∧
        ∃ n, player' = DungeonPlayerState.advanceCombatTick^[n] player := by
  have hagreed := agreed_of_run hr
  have hserver := agreed_next hagreed hn
  simp only [next] at hn
  split at hn
  · rename_i ho
    obtain rfl := Option.some.inj hn
    obtain ⟨hquiet, dungeon, player, hdungeon, hplayer⟩ := disconnect_quiet hagreed ho hd
    have hstart : Silent env.skillCatalog player d s { before with
        managers := (DungeonLifecycleService.disconnectPlayerSession s t order before.managers).2 } := by
      refine ⟨hserver, hquiet, hi, ?_⟩
      intro other hother player' hplayer'
      rw [hdungeon] at hother
      cases hother
      rw [hplayer] at hplayer'
      exact ⟨0, (Option.some.inj hplayer').symm⟩
    have hsilent := run_invariant (Silent env.skillCatalog player d s) (fun _ _ _ h hop hn => h.next hop hn) hstart hm hr'
    refine ⟨?_, dungeon, player, hdungeon, hplayer, ?_⟩
    · intro session hs
      exact ⟨(hsilent.quiet session hs).endpoint, (hsilent.quiet session hs).movements,
        (hsilent.quiet session hs).attacks⟩
    · intro dungeon' player' hd' hp'
      obtain ⟨n, rfl⟩ := hsilent.resting dungeon' hd' player' hp'
      obtain ⟨hroom, hposition⟩ := advanceCombatTicks_place n player
      exact ⟨hroom, hposition, n, rfl⟩
  · cases hn

def helloEnvironment : Environment := { silentEnvironment with parse := readDungeonMessage }

def clientEndpoint : Endpoint := { address := 0x7f000001, port := 50000 }

/-- The session enters a dungeon and greets. -/
def greeted : List Operation :=
  [.enterDungeon 100 1 partyOfTwo oneDungeonCatalog 1 (some 7000) [11, 12],
    .receive 1 0 ⟨clientEndpoint, 2, [], helloBytes 101 12⟩, .startDungeon 1 3]

/-- After the disconnect only heartbeats arrive, and a whole tick passes. -/
def lateHeartbeat : List Operation :=
  [.receive 1 0 ⟨clientEndpoint, 11, [], heartbeatBytes 101⟩, .process 1 [], .process 1 [], .process 1 [],
    .process 1 [], .process 1 [], .process 1 [], .process 1 []]

theorem disconnected_stays_silent_lateHeartbeat :
    ∃ before server after, run (next helloEnvironment) {} greeted = some before ∧
      next helloEnvironment before (.disconnectPlayerSession 101 10 [1]) = some server ∧
      run (next helloEnvironment) server lateHeartbeat = some after ∧
      ∀ session, after.managers.udp.sessions[1]? = some session → 101 ∉ session.endpoints := by
  obtain ⟨before, hr⟩ : ∃ before, run (next helloEnvironment) {} greeted = some before :=
    Option.isSome_iff_exists.mp (by decide)
  obtain ⟨server, hn⟩ : ∃ server, next helloEnvironment before
      (.disconnectPlayerSession 101 10 [1]) = some server := by
    cases hr
    exact Option.isSome_iff_exists.mp (by decide)
  have hd : (before.managers.dungeons.disconnectPlayerSession 101 10 [1]).1 = some 1 := by
    cases hr
    decide
  have hi : NoInput helloEnvironment.skillCatalog 1 101 before.processing := by
    cases hr
    trivial
  obtain ⟨after, hr'⟩ : ∃ after, run (next helloEnvironment) server lateHeartbeat = some after := by
    cases hr
    cases hn
    exact Option.isSome_iff_exists.mp (by decide)
  have hm : Meets (next helloEnvironment) (Unprovoked helloEnvironment 1 101) server lateHeartbeat := by
    cases hr
    cases hn
    decide
  have h := (disconnected_stays_silent hr hn hd hi hm hr').1
  exact ⟨before, server, after, hr, hn, hr', fun session hs => (h session hs).1⟩

/-- The same Hello, replayed after the disconnect, registers the endpoint again, while the
session is still a participant that is marked disconnected. -/
theorem replayed_hello_registers_endpoint :
    ∃ before server after, run (next helloEnvironment) {} greeted = some before ∧
      next helloEnvironment before (.disconnectPlayerSession 101 10 [1]) = some server ∧
      (before.managers.dungeons.disconnectPlayerSession 101 10 [1]).1 = some 1 ∧
      NoInput helloEnvironment.skillCatalog 1 101 before.processing ∧
      run (next helloEnvironment) server [.receive 1 0 ⟨clientEndpoint, 11, [], helloBytes 101 12⟩] = some after ∧
      (∃ dungeon, after.managers.dungeons.dungeons[1]? = some dungeon ∧
        101 ∈ DungeonInstance.participants dungeon ∧ 101 ∈ dungeon.disconnectedSince) ∧
      ∃ session, after.managers.udp.sessions[1]? = some session ∧
        101 ∈ DungeonUdpSession.endpoints session := by
  obtain ⟨before, hr⟩ : ∃ before, run (next helloEnvironment) {} greeted = some before :=
    Option.isSome_iff_exists.mp (by decide)
  obtain ⟨server, hn⟩ : ∃ server, next helloEnvironment before
      (.disconnectPlayerSession 101 10 [1]) = some server := by
    cases hr
    exact Option.isSome_iff_exists.mp (by decide)
  obtain ⟨after, hr'⟩ : ∃ after, run (next helloEnvironment) server
      [.receive 1 0 ⟨clientEndpoint, 11, [], helloBytes 101 12⟩] = some after := by
    cases hr
    cases hn
    exact Option.isSome_iff_exists.mp (by decide)
  refine ⟨before, server, after, hr, hn, ?_, ?_, hr', ?_, ?_⟩
  all_goals
    cases hr
    cases hn
    cases hr'
  · decide
  · trivial
  · decide
  · decide

end DnfServer.Udp
