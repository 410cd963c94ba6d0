import DnfServer.Udp.Bookkeeping

/-!
# Whose input a datagram is

A movement or an attack carries no session id. Its handler takes the first session of the
endpoint map that is registered at the sender, in the iteration order of a hash map. Nothing
keeps a client from greeting with two tokens from one socket: `HandleHello` looks at the
former endpoint of the session it names, not at the other sessions. As long as no Hello
registers a second session at an endpoint, the session is determined by the sender.
-/

namespace DnfServer.Udp

open Std DnfServer.Library
set_option autoImplicit false

/-- The condition on one operation: a Hello that registers its session does not come from an
endpoint that another session is registered at. After `Stop` no Hello registers anything. -/
def Unshared (parse : Parse) (session : DungeonUdpSession) : SessionOp → Prop
  | .receive _ datagram => session.stopped = false →
      ∀ hello, decodeUdpHello parse datagram.bytes = some hello →
      hello.dungeonId = session.dungeonId → session.tokens[hello.sessionId]? = some hello.token →
      hello.sessionId ∉ session.endpoints → ∀ e ∈ session.endpoints.toList, e.2 ≠ datagram.sender
  | _ => True

instance (parse : Parse) (session : DungeonUdpSession) :
    (op : SessionOp) → Decidable (Unshared parse session op)
  | .receive _ datagram =>
    inferInstanceAs (Decidable (session.stopped = false →
      ∀ hello, decodeUdpHello parse datagram.bytes = some hello →
      hello.dungeonId = session.dungeonId → session.tokens[hello.sessionId]? = some hello.token →
      hello.sessionId ∉ session.endpoints → ∀ e ∈ session.endpoints.toList, e.2 ≠ datagram.sender))
  | .disconnectParticipant _ | .replaceParticipant _ _ _ | .removeParticipant _
  | .refreshAllActivity _ | .removeInactiveEndpoints _ _ | .tryPopMovement
  | .tryPopAttack | .stop => instDecidableTrue

/-- No two sessions are registered at one endpoint, and session `0` is not registered. -/
structure Injective (session : DungeonUdpSession) : Prop where
  endpoints : ∀ (s x : SessionId) (endpoint : Endpoint), session.endpoints[s]? = some endpoint →
    session.endpoints[x]? = some endpoint → s = x
  nonzero : 0 ∉ session.endpoints

namespace Injective

variable {session session' : DungeonUdpSession}

/-- The endpoints are a part of those before. -/
theorem subset (h : Injective session)
    (hs : ∀ (s : SessionId) (endpoint : Endpoint), session'.endpoints[s]? = some endpoint →
      session.endpoints[s]? = some endpoint) : Injective session' := by
  refine ⟨?_, ?_⟩
  · intro s x endpoint h1 h2
    exact h.endpoints s x endpoint (hs s endpoint h1) (hs x endpoint h2)
  · intro h0
    have := hs 0 _ (ExtTreeMap.getElem?_eq_some_getElem h0)
    have := h.nonzero
    grind

end Injective

/-! ## Operations that only drop endpoints -/

theorem removeParticipantRuntimeState_endpoints (x s : SessionId) (session : DungeonUdpSession) :
    (session.removeParticipantRuntimeState x).endpoints[s]? =
      if x = s then none else session.endpoints[s]? := by
  simp only [DungeonUdpSession.removeParticipantRuntimeState]
  grind

theorem replaceParticipant_endpoints (old new s : SessionId) (token : DungeonUdpToken)
    (session : DungeonUdpSession) :
    (session.replaceParticipant old new token).2.endpoints[s]? = session.endpoints[s]? ∨
      (session.replaceParticipant old new token).2.endpoints[s]? = none := by
  unfold DungeonUdpSession.replaceParticipant
  split
  · exact Or.inl rfl
  · split
    · exact Or.inl rfl
    · split
      · exact Or.inl rfl
      · have := removeParticipantRuntimeState_endpoints old s session
        simp only
        grind

/-- Every operation but a datagram keeps an endpoint or drops it. -/
theorem apply_endpoints (parse : Parse) (session : DungeonUdpSession) (s : SessionId)
    {op : SessionOp} (ho : ∀ serverTick datagram, op ≠ .receive serverTick datagram) :
    (op.apply parse session).endpoints[s]? = session.endpoints[s]? ∨
      (op.apply parse session).endpoints[s]? = none := by
  cases op with
  | receive serverTick datagram => exact absurd rfl (ho serverTick datagram)
  | disconnectParticipant x =>
    simp only [SessionOp.apply, DungeonUdpSession.disconnectParticipant]
    split
    · exact Or.inl rfl
    · have := removeParticipantRuntimeState_endpoints x s session
      grind
  | replaceParticipant old new token => exact replaceParticipant_endpoints old new s token session
  | removeParticipant x =>
    simp only [SessionOp.apply, DungeonUdpSession.removeParticipant]
    split
    · exact Or.inl rfl
    · have := removeParticipantRuntimeState_endpoints x s session
      simp only
      grind
  | refreshAllActivity now => exact Or.inl rfl
  | removeInactiveEndpoints idleTimeout now =>
    refine removeInactiveEndpoints_keeps
      (P := fun v => v.endpoints[s]? = session.endpoints[s]? ∨ v.endpoints[s]? = none)
      ?_ (Or.inl rfl) idleTimeout now
    intro v x hv
    rw [removeParticipantRuntimeState_endpoints]
    split
    · exact Or.inr rfl
    · exact hv
  | tryPopMovement =>
    simp only [SessionOp.apply, DungeonUdpSession.tryPopMovement]
    split <;> exact Or.inl rfl
  | tryPopAttack =>
    simp only [SessionOp.apply, DungeonUdpSession.tryPopAttack]
    split <;> exact Or.inl rfl
  | stop => exact Or.inl rfl

/-! ## The invariant -/

theorem decodeUdpHello_session {parse : Parse} {bytes : List UInt8} {hello : UdpHelloMessage}
    (h : decodeUdpHello parse bytes = some hello) : hello.sessionId ≠ 0 := by
  unfold decodeUdpHello at h
  split at h
  · have hv := (Option.filter_eq_some_iff.mp h).2
    simp only [UdpHelloMessage.isValid, Bool.and_eq_true, bne_iff_ne] at hv
    exact hv.1.2
  · cases h

namespace Injective

variable {session session' : DungeonUdpSession}

theorem received {parse : Parse} {serverTick : UInt32} {datagram : DungeonUdpSession.Datagram}
    (h : Injective session) (hok : Unshared parse session (.receive serverTick datagram))
    (hopen : session.stopped = false) (hr : Received parse session datagram session') :
    Injective session' := by
  cases hr with
  | ignored => exact h
  | registered hello hd hid ht hnew =>
    have hfree : ∀ x : SessionId, session.endpoints[x]? ≠ some datagram.sender := by
      intro x hx
      exact hok hopen hello hd hid ht (by grind) (x, datagram.sender)
        (ExtTreeMap.mem_toList_iff_getElem?_eq_some.mpr hx) rfl
    refine ⟨?_, ?_⟩
    · intro s x endpoint hs hx
      have := h.endpoints s x endpoint
      have := hfree s
      have := hfree x
      simp only at hs hx
      grind
    · have := h.nonzero
      have := decodeUdpHello_session hd
      simp only
      grind
  | active s hs => exact ⟨h.endpoints, h.nonzero⟩
  | moved s movement hs hat hd hl hn => exact ⟨h.endpoints, h.nonzero⟩
  | attacked s attack hs hat hd hl hn => exact ⟨h.endpoints, h.nonzero⟩

theorem next {parse : Parse} {op : SessionOp} (h : Injective session)
    (hok : Unshared parse session op) (hn : op.next parse session = some session') :
    Injective session' := by
  unfold SessionOp.next at hn
  split at hn
  · obtain rfl := Option.some.inj hn
    by_cases hop : ∃ serverTick datagram, op = .receive serverTick datagram
    · obtain ⟨serverTick, datagram, rfl⟩ := hop
      cases hopen : session.stopped with
      | false => exact h.received hok hopen (received_of_receive parse serverTick session datagram)
      | true =>
        have hsame : SessionOp.apply parse session (.receive serverTick datagram) = session := by
          simp [SessionOp.apply, DungeonUdpSession.handleReceive, hopen]
        rwa [hsame]
    · simp only [not_exists] at hop
      refine h.subset ?_
      intro s endpoint hs
      rcases apply_endpoints parse session s hop with he | he
      · exact he ▸ hs
      · rw [he] at hs
        cases hs
  · cases hn

/-- The session that the inputs of a sender are attributed to, whatever the order. -/
theorem sessionAt_eq (h : Injective session) {sender : Endpoint} {s : SessionId}
    (hs : session.endpoints[s]? = some sender) {order : List SessionId}
    (ho : IterationOrder session.endpoints order) : session.sessionAt sender order = s := by
  unfold DungeonUdpSession.sessionAt
  cases hf : order.find? fun x => session.endpoints[x]? = some sender with
  | none =>
    have hmem : s ∈ order := by
      rw [ho.mem_iff, ExtTreeMap.mem_keys]
      grind
    have := List.find?_eq_none.mp hf s hmem
    simp [hs] at this
  | some x =>
    have hx : session.endpoints[x]? = some sender := by simpa using List.find?_some hf
    exact h.endpoints x s sender hx hs

theorem sessionAt_none {sender : Endpoint}
    (hs : ∀ s : SessionId, session.endpoints[s]? ≠ some sender) (order : List SessionId) :
    session.sessionAt sender order = 0 := by
  unfold DungeonUdpSession.sessionAt
  rw [List.find?_eq_none.mpr (by simpa using fun s _ => hs s)]
  rfl

theorem sessionAt_order (h : Injective session) (sender : Endpoint) {order order' : List SessionId}
    (ho : IterationOrder session.endpoints order) (ho' : IterationOrder session.endpoints order') :
    session.sessionAt sender order = session.sessionAt sender order' := by
  by_cases hs : ∃ s : SessionId, session.endpoints[s]? = some sender
  · obtain ⟨s, hs⟩ := hs
    rw [h.sessionAt_eq hs ho, h.sessionAt_eq hs ho']
  · simp only [not_exists] at hs
    rw [sessionAt_none hs, sessionAt_none hs]

/-- The iteration order makes no difference to the handling of a datagram. -/
theorem handleReceive_order (h : Injective session) (parse : Parse) (serverTick : UInt32)
    (datagram : DungeonUdpSession.Datagram) {order order' : List SessionId}
    (ho : IterationOrder session.endpoints order) (ho' : IterationOrder session.endpoints order') :
    session.handleReceive parse serverTick { datagram with order := order } =
      session.handleReceive parse serverTick { datagram with order := order' } := by
  have hat := h.sessionAt_order datagram.sender ho ho'
  simp only [DungeonUdpSession.handleReceive, DungeonUdpSession.handlePlayerMovement,
    DungeonUdpSession.handlePlayerAttack, hat]

end Injective

theorem endpoints_allocated {session : DungeonUdpSession} (h : Allocated session) (s : SessionId) :
    session.endpoints[s]? = none := by
  obtain ⟨manager, participants, port, draws, after, halloc, hs⟩ := h
  rcases allocate_cases halloc with he | ⟨port', tokens, -, -, -, -, he⟩
  · cases he
  · obtain ⟨-, rfl⟩ := Prod.mk.inj he
    have hsession : ({ dungeonId := session.dungeonId, port := port', tokens } :
        DungeonUdpSession) = session := by
      simp only at hs
      grind
    rw [← hsession]
    simp

theorem injective_allocated {session : DungeonUdpSession} (h : Allocated session) :
    Injective session := by
  refine ⟨?_, ?_⟩
  · intro s x endpoint hs
    rw [endpoints_allocated h s] at hs
    cases hs
  · have := endpoints_allocated h 0
    grind

/-- In every run without a second session at an endpoint, the endpoints are pairwise different
and every input is attributed to the session registered at its sender, whatever the iteration
order of the map. -/
theorem attribution_determined {parse : Parse} {session session' : DungeonUdpSession}
    {ops : List SessionOp} (ha : Allocated session)
    (hm : Meets (SessionOp.next parse) (Unshared parse) session ops)
    (hr : run (SessionOp.next parse) session ops = some session') :
    Injective session' ∧
    ∀ order, IterationOrder session'.endpoints order →
      (∀ (s : SessionId) (sender : Endpoint), session'.endpoints[s]? = some sender →
        session'.sessionAt sender order = s) ∧
      ∀ (serverTick : UInt32) (datagram : DungeonUdpSession.Datagram) (order' : List SessionId),
        IterationOrder session'.endpoints order' →
        session'.handleReceive parse serverTick { datagram with order := order } =
          session'.handleReceive parse serverTick { datagram with order := order' } := by
  have h : Injective session' :=
    run_invariant Injective (fun _ _ _ h hok hn => h.next hok hn) (injective_allocated ha) hm hr
  refine ⟨h, ?_⟩
  intro order ho
  refine ⟨fun s sender hs => h.sessionAt_eq hs ho, ?_⟩
  intro serverTick datagram order' ho'
  exact h.handleReceive_order parse serverTick datagram ho ho'

/-- Both participants greet, each from its own socket, and one of them moves. -/
def greetedApart : List SessionOp :=
  [.receive 0 ⟨firstEndpoint, 1, [], helloBytes 100 11⟩,
    .receive 0 ⟨secondEndpoint, 2, [100], helloBytes 101 12⟩,
    .receive 0 ⟨secondEndpoint, 3, [100, 101], movementBytes 1⟩]

theorem attribution_determined_greetedApart :
    ∃ session, run (SessionOp.next readDungeonMessage) sessionForTwo greetedApart = some session ∧
      session.endpoints[101]? = some secondEndpoint ∧
      session.sessionAt secondEndpoint [100, 101] = 101 ∧
      session.sessionAt secondEndpoint [101, 100] = 101 := by
  obtain ⟨session, hr⟩ : ∃ session, run (SessionOp.next readDungeonMessage) sessionForTwo
      greetedApart = some session := Option.isSome_iff_exists.mp (by decide)
  have hstate : session.endpoints[101]? = some secondEndpoint ∧
      IterationOrder session.endpoints [100, 101] ∧ IterationOrder session.endpoints [101, 100] := by
    cases hr
    decide
  have h := (attribution_determined allocated_sessionForTwo (by decide) hr).2
  exact ⟨session, hr, hstate.1, (h _ hstate.2.1).1 101 secondEndpoint hstate.1,
    (h _ hstate.2.2).1 101 secondEndpoint hstate.1⟩

/-- Both participants greet from the same socket. -/
def greetedTogether : List SessionOp :=
  [.receive 0 ⟨firstEndpoint, 1, [], helloBytes 100 11⟩,
    .receive 0 ⟨firstEndpoint, 2, [100], helloBytes 101 12⟩]

/-- Two sessions are registered at one endpoint, and the iteration order decides whose movement
a datagram from there is. -/
theorem endpoint_shared :
    ∃ session, run (SessionOp.next readDungeonMessage) sessionForTwo greetedTogether = some session ∧
      session.endpoints[100]? = some firstEndpoint ∧ session.endpoints[101]? = some firstEndpoint ∧
      IterationOrder session.endpoints [100, 101] ∧ IterationOrder session.endpoints [101, 100] ∧
      ((session.handleReceive readDungeonMessage 0
        ⟨firstEndpoint, 3, [100, 101], movementBytes 1⟩).2.pendingMovements.map (·.sessionId) = [100]) ∧
      (session.handleReceive readDungeonMessage 0
        ⟨firstEndpoint, 3, [101, 100], movementBytes 1⟩).2.pendingMovements.map (·.sessionId) = [101] := by
  obtain ⟨session, hr⟩ : ∃ session, run (SessionOp.next readDungeonMessage) sessionForTwo
      greetedTogether = some session := Option.isSome_iff_exists.mp (by decide)
  refine ⟨session, hr, ?_⟩
  cases hr
  decide

end DnfServer.Udp
