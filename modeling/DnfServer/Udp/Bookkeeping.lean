import DnfServer.Udp.Operations

/-!
# The containers of a UDP session agree

The tokens, the endpoints, their activity, the last sequence numbers and the two input
queues are separate containers. Endpoints and activity have the same keys, all of them
holders of tokens, and everything else belongs to a registered endpoint. So the readiness
test, which compares two sizes, holds exactly when every holder of a token is registered.
-/

namespace DnfServer.Udp

open Std DnfServer.Library
set_option autoImplicit false

structure Bookkept (session : DungeonUdpSession) : Prop where
  activity : ∀ s, s ∈ session.endpoints ↔ s ∈ session.lastActivity
  holders : ∀ s, s ∈ session.endpoints → s ∈ session.tokens
  movementSequences : ∀ s, s ∈ session.lastMovementSequences → s ∈ session.endpoints
  attackSequences : ∀ s, s ∈ session.lastAttackSequences → s ∈ session.endpoints
  movements : ∀ queued ∈ session.pendingMovements, queued.sessionId ∈ session.endpoints
  attacks : ∀ queued ∈ session.pendingAttacks, queued.sessionId ∈ session.endpoints
  nonzero : ∀ (s : SessionId) (token : DungeonUdpToken), session.tokens[s]? = some token → token ≠ 0
  distinct : ∀ (s x : SessionId) (token : DungeonUdpToken), session.tokens[s]? = some token →
    session.tokens[x]? = some token → s = x
  movementCount : session.pendingMovements.length ≤ maxPendingDungeonMovements
  attackCount : session.pendingAttacks.length ≤ maxPendingDungeonAttacks

/-! ## Allocation -/

theorem drawToken_fresh {usedTokens draws rest : List DungeonUdpToken} {token : DungeonUdpToken}
    (h : DungeonUdpManager.drawToken usedTokens draws = some (token, rest)) :
    token ≠ 0 ∧ token ∉ usedTokens := by
  induction draws with
  | nil => cases h
  | cons x draws ih =>
    simp only [DungeonUdpManager.drawToken] at h
    split at h
    · exact ih h
    · rename_i hx
      obtain ⟨rfl, rfl⟩ := Prod.mk.inj (Option.some.inj h)
      exact not_or.mp hx

/-- The tokens drawn so far are nonzero, distinct and in use. -/
theorem drawTokens_distinct {participants : List SessionId} {usedTokens draws : List DungeonUdpToken}
    {tokens result : IdMap DungeonUdpToken}
    (h : DungeonUdpManager.drawTokens participants usedTokens tokens draws = some result)
    (hused : ∀ (s : SessionId) (token : DungeonUdpToken), tokens[s]? = some token →
      token ≠ 0 ∧ token ∈ usedTokens)
    (hdistinct : ∀ (s x : SessionId) (token : DungeonUdpToken), tokens[s]? = some token →
      tokens[x]? = some token → s = x) :
    (∀ (s : SessionId) (token : DungeonUdpToken), result[s]? = some token → token ≠ 0) ∧
      ∀ (s x : SessionId) (token : DungeonUdpToken), result[s]? = some token →
        result[x]? = some token → s = x := by
  induction participants generalizing usedTokens draws tokens with
  | nil =>
    obtain rfl := Option.some.inj h
    exact ⟨fun s token hs => (hused s token hs).1, hdistinct⟩
  | cons y rest ih =>
    simp only [DungeonUdpManager.drawTokens, Option.bind_eq_some_iff] at h
    obtain ⟨⟨drawn, draws⟩, hdraw, h⟩ := h
    obtain ⟨hzero, hfresh⟩ := drawToken_fresh hdraw
    refine ih h ?_ ?_
    · intro s token hs
      have := hused s token
      grind
    · intro s x token hs hx
      have := hused s token
      have := hused x token
      have := hdistinct s x token
      grind

theorem bookkept_allocated {session : DungeonUdpSession} (h : Allocated session) :
    Bookkept session := by
  obtain ⟨manager, participants, port, draws, after, halloc, hs⟩ := h
  simp only [DungeonUdpManager.allocate] at halloc
  split at halloc
  · cases halloc
  · rename_i hguard
    split at halloc
    · cases halloc
    · obtain ⟨tokens, ht, he⟩ := Option.map_eq_some_iff.mp halloc
      obtain ⟨-, rfl⟩ := Prod.mk.inj he
      have hfree : session.dungeonId ∉ manager.sessions := fun hm =>
        hguard (Or.inr (Or.inr (Or.inr hm)))
      have hsession : ({ dungeonId := session.dungeonId, port, tokens } : DungeonUdpSession) =
          session := by
        simp only at hs
        grind
      rw [← hsession]
      obtain ⟨hzero, hdistinct⟩ := drawTokens_distinct ht (by simp) (by simp)
      exact ⟨by simp, by simp, by simp, by simp, by simp, by simp, hzero, hdistinct, by simp, by simp⟩

/-! ## Every operation -/

namespace Bookkept

variable {session : DungeonUdpSession}

theorem removeParticipantRuntimeState (h : Bookkept session) (x : SessionId) :
    Bookkept (session.removeParticipantRuntimeState x) := by
  refine ⟨?_, ?_, ?_, ?_, ?_, ?_, h.nonzero, h.distinct, ?_, ?_⟩
  · intro s
    have := h.activity s
    simp only [DungeonUdpSession.removeParticipantRuntimeState]
    grind
  · intro s
    have := h.holders s
    simp only [DungeonUdpSession.removeParticipantRuntimeState]
    grind
  · intro s
    have := h.movementSequences s
    simp only [DungeonUdpSession.removeParticipantRuntimeState]
    grind
  · intro s
    have := h.attackSequences s
    simp only [DungeonUdpSession.removeParticipantRuntimeState]
    grind
  · intro queued hq
    obtain ⟨hin, hne⟩ := List.mem_filter.mp hq
    have := h.movements queued hin
    simp only [DungeonUdpSession.removeParticipantRuntimeState]
    grind
  · intro queued hq
    obtain ⟨hin, hne⟩ := List.mem_filter.mp hq
    have := h.attacks queued hin
    simp only [DungeonUdpSession.removeParticipantRuntimeState]
    grind
  · exact Nat.le_trans (List.length_filter_le _ _) h.movementCount
  · exact Nat.le_trans (List.length_filter_le _ _) h.attackCount

theorem not_registered (x : SessionId) :
    x ∉ (session.removeParticipantRuntimeState x).endpoints := by
  simp [DungeonUdpSession.removeParticipantRuntimeState]

theorem disconnectParticipant (h : Bookkept session) (x : SessionId) :
    Bookkept (session.disconnectParticipant x).2 := by
  unfold DungeonUdpSession.disconnectParticipant
  split
  · exact h
  · exact h.removeParticipantRuntimeState x

theorem removeParticipant (h : Bookkept session) (x : SessionId) :
    Bookkept (session.removeParticipant x).2 := by
  unfold DungeonUdpSession.removeParticipant
  split
  · exact h
  · have hremoved := h.removeParticipantRuntimeState x
    refine { hremoved with holders := ?_, nonzero := ?_, distinct := ?_ }
    · intro s hs
      have hne : s ≠ x := fun heq => not_registered x (heq ▸ hs)
      have := hremoved.holders s hs
      simp only
      grind
    · intro s token hs
      exact hremoved.nonzero s token (by simp only at hs; grind)
    · intro s y token hs hy
      exact hremoved.distinct s y token (by simp only at hs; grind) (by simp only at hy; grind)

theorem replaceParticipant (h : Bookkept session) (old new : SessionId) (token : DungeonUdpToken) :
    Bookkept (session.replaceParticipant old new token).2 := by
  by_cases hrefused : old ∉ session.tokens ∨ new ∈ session.tokens ∨ old = 0 ∨ new = 0 ∨
      InUse session token
  · rw [replaceParticipant_refused hrefused]
    exact h
  · simp only [not_or, not_not] at hrefused
    obtain ⟨hold, hnew, h0, hn0, hunused⟩ := hrefused
    by_cases ht : token = 0
    · rw [DungeonUdpSession.replaceParticipant, if_pos (by simp [ht])]
      exact h
    · rw [replaceParticipant_eq hold hnew h0 hn0 ht hunused]
      have hremoved := h.removeParticipantRuntimeState old
      refine { hremoved with holders := ?_, nonzero := ?_, distinct := ?_ }
      · intro s hs
        have hne : s ≠ old := fun heq => not_registered old (heq ▸ hs)
        have := hremoved.holders s hs
        simp only [rotated, removeParticipantRuntimeState_tokens] at this ⊢
        grind
      · intro s token' hs
        have := h.nonzero s token'
        simp only [rotated] at hs
        grind
      · -- the new token is in use by nobody else
        intro s x token' hs hx
        have hunused : ∀ y : SessionId, session.tokens[y]? ≠ some token := fun y hy => hunused ⟨y, hy⟩
        have := hunused s
        have := hunused x
        have := h.distinct s x token'
        clear h hremoved
        simp only [rotated] at hs hx
        grind

theorem mem_refreshed (keys : List SessionId) (now : Int) (activity : IdMap Int) (s : SessionId) :
    s ∈ keys.foldl (fun activity x => activity.insert x now) activity ↔ s ∈ keys ∨ s ∈ activity := by
  induction keys generalizing activity with
  | nil => simp
  | cons x rest ih =>
    rw [List.foldl_cons, ih]
    grind

theorem refreshAllActivity (h : Bookkept session) (now : Int) :
    Bookkept (session.refreshAllActivity now) := by
  refine { h with activity := ?_ }
  intro s
  have := h.activity s
  simp only [DungeonUdpSession.refreshAllActivity, mem_refreshed, ExtTreeMap.mem_keys]
  grind

theorem removeInactiveEndpoints (h : Bookkept session) (idleTimeout now : Int) :
    Bookkept (session.removeInactiveEndpoints idleTimeout now).2 :=
  removeInactiveEndpoints_keeps (fun _ x hv => hv.removeParticipantRuntimeState x) h idleTimeout now

theorem tryPopMovement (h : Bookkept session) : Bookkept session.tryPopMovement.2 := by
  have hm := h.movements
  have hc := h.movementCount
  unfold DungeonUdpSession.tryPopMovement
  split
  · exact h
  · rename_i queued rest he
    rw [he] at hm hc
    refine { h with movements := fun x hx => hm x (List.mem_cons_of_mem _ hx), movementCount := ?_ }
    rw [List.length_cons] at hc
    exact Nat.le_of_succ_le hc

theorem tryPopAttack (h : Bookkept session) : Bookkept session.tryPopAttack.2 := by
  have hm := h.attacks
  have hc := h.attackCount
  unfold DungeonUdpSession.tryPopAttack
  split
  · exact h
  · rename_i queued rest he
    rw [he] at hm hc
    refine { h with attacks := fun x hx => hm x (List.mem_cons_of_mem _ hx), attackCount := ?_ }
    rw [List.length_cons] at hc
    exact Nat.le_of_succ_le hc

theorem received {parse : Parse} {datagram : DungeonUdpSession.Datagram}
    {session' : DungeonUdpSession} (h : Bookkept session)
    (hr : Received parse session datagram session') : Bookkept session' := by
  cases hr with
  | ignored => exact h
  | registered hello hd hid ht hnew =>
    refine { h with activity := ?_, holders := ?_, movementSequences := ?_, attackSequences := ?_
                    movements := ?_, attacks := ?_ }
    · intro s
      have := h.activity s
      simp only
      grind
    · intro s
      have := h.holders s
      simp only
      grind
    · intro s hs
      have := h.movementSequences s hs
      simp only
      grind
    · intro s hs
      have := h.attackSequences s hs
      simp only
      grind
    · intro queued hq
      have := h.movements queued hq
      simp only
      grind
    · intro queued hq
      have := h.attacks queued hq
      simp only
      grind
  | active s hs =>
    refine { h with activity := ?_ }
    intro x
    have := h.activity x
    simp only
    grind
  | moved s movement hs hat hd hl hn =>
    refine { h with activity := ?_, movementSequences := ?_, movements := ?_, movementCount := ?_ }
    · intro x
      have := h.activity x
      simp only
      grind
    · intro x
      have := h.movementSequences x
      simp only
      grind
    · intro queued hq
      rcases List.mem_append.mp hq with hq | hq
      · exact h.movements queued hq
      · obtain rfl := List.mem_singleton.mp hq
        simp only
        grind
    · rw [List.length_append, List.length_singleton]
      exact hl
  | attacked s attack hs hat hd hl hn =>
    refine { h with activity := ?_, attackSequences := ?_, attacks := ?_, attackCount := ?_ }
    · intro x
      have := h.activity x
      simp only
      grind
    · intro x
      have := h.attackSequences x
      simp only
      grind
    · intro queued hq
      rcases List.mem_append.mp hq with hq | hq
      · exact h.attacks queued hq
      · obtain rfl := List.mem_singleton.mp hq
        simp only
        grind
    · rw [List.length_append, List.length_singleton]
      exact hl

theorem apply (h : Bookkept session) (parse : Parse) (op : SessionOp) :
    Bookkept (op.apply parse session) := by
  cases op with
  | receive serverTick datagram => exact h.received (received_of_receive parse serverTick session datagram)
  | disconnectParticipant s => exact h.disconnectParticipant s
  | replaceParticipant old new token => exact h.replaceParticipant old new token
  | removeParticipant s => exact h.removeParticipant s
  | refreshAllActivity now => exact h.refreshAllActivity now
  | removeInactiveEndpoints idleTimeout now => exact h.removeInactiveEndpoints idleTimeout now
  | tryPopMovement => exact h.tryPopMovement
  | tryPopAttack => exact h.tryPopAttack
  | stop => exact { h with }

theorem next {parse : Parse} {op : SessionOp} {session' : DungeonUdpSession} (h : Bookkept session)
    (hn : op.next parse session = some session') : Bookkept session' := by
  unfold SessionOp.next at hn
  split at hn
  · obtain rfl := Option.some.inj hn
    exact h.apply parse op
  · cases hn

/-- A participant that is not registered has no last numbers and nothing queued. -/
theorem unregistered (h : Bookkept session) {s : SessionId} (hs : s ∉ session.endpoints) :
    session.lastMovementSequences[s]? = none ∧ session.lastAttackSequences[s]? = none ∧
      session.pendingMovements.filter (·.sessionId = s) = [] := by
  refine ⟨?_, ?_, List.filter_eq_nil_iff.mpr ?_⟩
  · have := h.movementSequences s
    grind
  · have := h.attackSequences s
    grind
  · intro queued hq hqs
    exact hs (of_decide_eq_true hqs ▸ h.movements queued hq)

/-- The size comparison of the readiness test. -/
theorem allParticipantsAuthenticated_iff (h : Bookkept session) :
    session.allParticipantsAuthenticated = true ↔
      ∀ s, s ∈ session.tokens → s ∈ session.endpoints := by
  have hsub : session.endpoints.keys ⊆ session.tokens.keys := by
    intro s hs
    rw [ExtTreeMap.mem_keys] at hs ⊢
    exact h.holders s hs
  have hperm := List.subperm_of_subset ExtTreeMap.nodup_keys hsub
  simp only [DungeonUdpSession.allParticipantsAuthenticated, decide_eq_true_eq]
  rw [← ExtTreeMap.length_keys, ← ExtTreeMap.length_keys]
  constructor
  · intro hlen s hs
    have hmem := (hperm.perm_of_length_le (Nat.le_of_eq hlen.symm)).mem_iff (a := s)
    rw [ExtTreeMap.mem_keys, ExtTreeMap.mem_keys] at hmem
    exact hmem.mpr hs
  · intro hall
    refine Nat.le_antisymm hperm.length_le ?_
    refine (List.subperm_of_subset ExtTreeMap.nodup_keys ?_).length_le
    intro s hs
    rw [ExtTreeMap.mem_keys] at hs ⊢
    exact hall s hs

end Bookkept

theorem bookkept_of_run {parse : Parse} {session session' : DungeonUdpSession}
    {ops : List SessionOp} (ha : Allocated session)
    (hr : run (SessionOp.next parse) session ops = some session') : Bookkept session' :=
  reachable_invariant Bookkept (fun _ _ _ h hn => h.next hn) (bookkept_allocated ha) ⟨ops, hr⟩

/-- After every interleaving on an allocated session the containers agree, tokens are nonzero
and distinct, the queues are bounded, and the readiness test says what it is meant to say. -/
theorem session_bookkept {parse : Parse} {session session' : DungeonUdpSession}
    {ops : List SessionOp} (ha : Allocated session)
    (hr : run (SessionOp.next parse) session ops = some session') :
    Bookkept session' ∧ (session'.allParticipantsAuthenticated = true ↔
      ∀ s, s ∈ session'.tokens → s ∈ session'.endpoints) := by
  have h := bookkept_of_run ha hr
  exact ⟨h, h.allParticipantsAuthenticated_iff⟩

/-- Both participants greet and move, one of them drops out and is replaced. -/
def greetedAndReplaced : List SessionOp :=
  [.receive 0 ⟨firstEndpoint, 1, [], helloBytes 100 11⟩,
    .receive 0 ⟨secondEndpoint, 2, [100], helloBytes 101 12⟩,
    .receive 0 ⟨secondEndpoint, 3, [100, 101], movementBytes 1⟩,
    .receive 0 ⟨firstEndpoint, 4, [101, 100], movementBytes 1⟩,
    .disconnectParticipant 101, .replaceParticipant 101 102 13]

theorem session_bookkept_greetedAndReplaced :
    ∃ session, run (SessionOp.next readDungeonMessage) sessionForTwo greetedAndReplaced = some session ∧
      session.pendingMovements.length = 1 ∧ session.allParticipantsAuthenticated = false ∧
      Bookkept session ∧ ¬ ∀ s, s ∈ session.tokens → s ∈ session.endpoints := by
  obtain ⟨session, hr⟩ : ∃ session, run (SessionOp.next readDungeonMessage) sessionForTwo
      greetedAndReplaced = some session := Option.isSome_iff_exists.mp (by decide)
  have hstate : session.pendingMovements.length = 1 ∧
      session.allParticipantsAuthenticated = false := by
    cases hr
    decide
  obtain ⟨hb, hall⟩ := session_bookkept allocated_sessionForTwo hr
  refine ⟨session, hr, hstate.1, hstate.2, hb, ?_⟩
  rw [← hall, hstate.2]
  exact Bool.false_ne_true

end DnfServer.Udp
