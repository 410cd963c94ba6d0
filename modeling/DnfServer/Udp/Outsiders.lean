import Mathlib.Data.Set.Insert
import DnfServer.Udp.Attribution

/-!
# Datagrams of strangers leave no trace

A sender that never presents a current pair of session id and token is never registered, and
every handler looks the sender up before it touches the state. So the datagrams of such
senders can be taken out of a run, whatever they contain, and neither the state of the
session nor the result of any pop changes.
-/

namespace DnfServer.Udp

open Std DnfServer.Library
set_option autoImplicit false

/-- What a call of `TryPopMovement` or `TryPopAttack` returns. -/
inductive PopResult where
  | movement (result : Option AuthenticatedPlayerMovement)
  | attack (result : Option AuthenticatedPlayerAttack)
  deriving DecidableEq

/-- A UDP session and the results of the pops so far, the latest first. -/
structure Observed where
  session : DungeonUdpSession
  pops : List PopResult := []

namespace Observed

def popOf (session : DungeonUdpSession) : SessionOp → List PopResult
  | .tryPopMovement => [.movement session.tryPopMovement.1]
  | .tryPopAttack => [.attack session.tryPopAttack.1]
  | _ => []

def next (parse : Parse) (w : Observed) (op : SessionOp) : Option Observed :=
  (op.next parse w.session).map fun session => { session, pops := popOf w.session op ++ w.pops }

end Observed

/-- The datagram is a Hello of this dungeon that carries the current token of its session. -/
def Authentic (parse : Parse) (session : DungeonUdpSession)
    (datagram : DungeonUdpSession.Datagram) : Prop :=
  ∃ hello, decodeUdpHello parse datagram.bytes = some hello ∧
    (hello.dungeonId = session.dungeonId ∧ session.tokens[hello.sessionId]? = some hello.token)

instance (parse : Parse) (session : DungeonUdpSession) (datagram : DungeonUdpSession.Datagram) :
    Decidable (Authentic parse session datagram) :=
  inferInstanceAs (Decidable (∃ hello, decodeUdpHello parse datagram.bytes = some hello ∧
    (hello.dungeonId = session.dungeonId ∧ session.tokens[hello.sessionId]? = some hello.token)))

section Strangers

variable (parse : Parse) (strangers : Set Endpoint)

/-- The operation is a datagram sent from the set. -/
def SentFrom : SessionOp → Prop
  | .receive _ datagram => datagram.sender ∈ strangers
  | _ => False

instance [DecidablePred (· ∈ strangers)] : (op : SessionOp) → Decidable (SentFrom strangers op)
  | .receive _ datagram => inferInstanceAs (Decidable (datagram.sender ∈ strangers))
  | .disconnectParticipant _ | .replaceParticipant _ _ _ | .removeParticipant _
  | .refreshAllActivity _ | .removeInactiveEndpoints _ _ | .tryPopMovement
  | .tryPopAttack | .stop => instDecidableFalse

/-- A datagram sent from the set is no authentic Hello. -/
def Unauthentic (w : Observed) : SessionOp → Prop
  | .receive _ datagram => datagram.sender ∈ strangers → ¬ Authentic parse w.session datagram
  | _ => True

instance [DecidablePred (· ∈ strangers)] (w : Observed) :
    (op : SessionOp) → Decidable (Unauthentic parse strangers w op)
  | .receive _ datagram =>
    inferInstanceAs (Decidable (datagram.sender ∈ strangers → ¬ Authentic parse w.session datagram))
  | .disconnectParticipant _ | .replaceParticipant _ _ _ | .removeParticipant _
  | .refreshAllActivity _ | .removeInactiveEndpoints _ _ | .tryPopMovement
  | .tryPopAttack | .stop => instDecidableTrue

/-- No endpoint of the set is registered. -/
def Outside (session : DungeonUdpSession) : Prop :=
  ∀ (s : SessionId) (endpoint : Endpoint), session.endpoints[s]? = some endpoint →
    endpoint ∉ strangers

end Strangers

section Steps

variable {parse : Parse} {strangers : Set Endpoint} {session session' : DungeonUdpSession}

/-- A datagram of a stranger changes nothing. -/
theorem received_stranger {datagram : DungeonUdpSession.Datagram} (h : Outside strangers session)
    (hs : datagram.sender ∈ strangers) (hok : ¬ Authentic parse session datagram)
    (hr : Received parse session datagram session') : session' = session := by
  cases hr with
  | ignored => rfl
  | registered hello hd hid ht hnew => exact absurd ⟨hello, hd, hid, ht⟩ hok
  | active s he => exact absurd hs (h s _ he)
  | moved s movement he hat hd hl hn => exact absurd hs (h s _ he)
  | attacked s attack he hat hd hl hn => exact absurd hs (h s _ he)

/-- A datagram registers an endpoint for its sender at most, and keeps every other one. -/
theorem received_endpoints {datagram : DungeonUdpSession.Datagram} {s : SessionId}
    {endpoint : Endpoint} (hr : Received parse session datagram session') :
    (session.endpoints[s]? = some endpoint → session'.endpoints[s]? = some endpoint) ∧
      (session'.endpoints[s]? = some endpoint →
        session.endpoints[s]? = some endpoint ∨ endpoint = datagram.sender) := by
  cases hr with
  | ignored => exact ⟨id, Or.inl⟩
  | registered hello hd hid ht hnew =>
    simp only
    grind
  | active x he => exact ⟨id, Or.inl⟩
  | moved x movement he hat hd hl hn => exact ⟨id, Or.inl⟩
  | attacked x attack he hat hd hl hn => exact ⟨id, Or.inl⟩

theorem Outside.apply (h : Outside strangers session) {op : SessionOp} {pops : List PopResult}
    (hok : Unauthentic parse strangers ⟨session, pops⟩ op) :
    Outside strangers (op.apply parse session) := by
  by_cases hop : ∃ serverTick datagram, op = .receive serverTick datagram
  · obtain ⟨serverTick, datagram, rfl⟩ := hop
    have hr := received_of_receive parse serverTick session datagram
    by_cases hs : datagram.sender ∈ strangers
    · rw [SessionOp.apply, received_stranger h hs (hok hs) hr]
      exact h
    · intro s endpoint he
      rcases (received_endpoints hr).2 he with he | rfl
      · exact h s endpoint he
      · exact hs
  · simp only [not_exists] at hop
    intro s endpoint he
    rcases apply_endpoints parse session s hop with heq | heq
    · exact h s endpoint (heq ▸ he)
    · rw [heq] at he
      cases he

theorem outside_next {w w' : Observed} (h : Outside strangers w.session) {op : SessionOp}
    (hok : Unauthentic parse strangers w op) (hn : w.next parse op = some w') :
    Outside strangers w'.session ∧ (SentFrom strangers op → w' = w) := by
  obtain ⟨session', hs, rfl⟩ := Option.map_eq_some_iff.mp hn
  unfold SessionOp.next at hs
  split at hs
  · obtain rfl := Option.some.inj hs
    refine ⟨h.apply hok, ?_⟩
    intro hfrom
    cases op with
    | receive serverTick datagram =>
      have hsame := received_stranger h hfrom (hok hfrom)
        (received_of_receive parse serverTick w.session datagram)
      simp only [SessionOp.apply, Observed.popOf, List.nil_append, hsame]
    | _ => exact hfrom.elim
  · cases hs

/-- An endpoint goes through the four calls that drop one, and through nothing else. -/
theorem endpoint_dropped {s : SessionId} {endpoint : Endpoint} {op : SessionOp}
    (hs : session.endpoints[s]? = some endpoint)
    (hgone : (op.apply parse session).endpoints[s]? ≠ some endpoint) :
    (∃ x, op = .disconnectParticipant x) ∨ (∃ old new token, op = .replaceParticipant old new token) ∨
      (∃ x, op = .removeParticipant x) ∨
      ∃ idleTimeout now, op = .removeInactiveEndpoints idleTimeout now := by
  cases op with
  | receive serverTick datagram =>
    exact absurd ((received_endpoints (received_of_receive parse serverTick session datagram)).1 hs)
      hgone
  | disconnectParticipant x => exact Or.inl ⟨x, rfl⟩
  | replaceParticipant old new token => exact Or.inr (Or.inl ⟨old, new, token, rfl⟩)
  | removeParticipant x => exact Or.inr (Or.inr (Or.inl ⟨x, rfl⟩))
  | refreshAllActivity now => exact absurd hs hgone
  | removeInactiveEndpoints idleTimeout now =>
    exact Or.inr (Or.inr (Or.inr ⟨idleTimeout, now, rfl⟩))
  | tryPopMovement =>
    refine absurd ?_ hgone
    simp only [SessionOp.apply, DungeonUdpSession.tryPopMovement]
    split <;> exact hs
  | tryPopAttack =>
    refine absurd ?_ hgone
    simp only [SessionOp.apply, DungeonUdpSession.tryPopAttack]
    split <;> exact hs
  | stop => exact absurd hs hgone

end Steps

/-- Without the datagrams of senders that never present a current pair of session id and token
the run ends in the same session with the same results of every pop; and a registered endpoint
changes only through the calls that drop one. -/
theorem strangers_leave_no_trace {parse : Parse} {session : DungeonUdpSession}
    (strangers : Set Endpoint) [DecidablePred (· ∈ strangers)] {ops : List SessionOp} {w : Observed}
    (ha : Allocated session)
    (hm : Meets (Observed.next parse) (Unauthentic parse strangers) { session } ops)
    (hr : run (Observed.next parse) { session } ops = some w) :
    run (Observed.next parse) { session } (ops.filter fun op => ¬ SentFrom strangers op) = some w ∧
      ∀ (before : DungeonUdpSession) (s : SessionId) (endpoint : Endpoint) (op : SessionOp),
        before.endpoints[s]? = some endpoint →
        (op.apply parse before).endpoints[s]? ≠ some endpoint →
        (∃ x, op = .disconnectParticipant x) ∨
          (∃ old new token, op = .replaceParticipant old new token) ∨
          (∃ x, op = .removeParticipant x) ∨
          ∃ idleTimeout now, op = .removeInactiveEndpoints idleTimeout now := by
  refine ⟨?_, fun before s endpoint op hs hgone => endpoint_dropped hs hgone⟩
  have hempty : Outside strangers session := by
    intro s endpoint hs
    rw [endpoints_allocated ha s] at hs
    cases hs
  refine run_filter (fun w => Outside strangers w.session) ?_ ?_ hempty hm hr
  · intro w op w' h hok hn
    exact (outside_next h hok hn).1
  · intro w op w' h hok hn hfrom
    exact (outside_next h hok hn).2 (by simpa using hfrom)

/-- One participant greets and moves, and a stranger sends a Hello with a wrong token, a
heartbeat for the participant, a movement and rubbish. -/
def strangerCalls : List SessionOp :=
  [.receive 0 ⟨secondEndpoint, 1, [], helloBytes 100 12⟩,
    .receive 0 ⟨firstEndpoint, 2, [], helloBytes 100 11⟩,
    .receive 0 ⟨secondEndpoint, 3, [100], heartbeatBytes 100⟩,
    .receive 0 ⟨firstEndpoint, 4, [100], movementBytes 1⟩,
    .receive 0 ⟨secondEndpoint, 5, [100], movementBytes 9⟩,
    .receive 0 ⟨secondEndpoint, 6, [100], [1, 2, 3]⟩, .tryPopMovement]

theorem strangers_leave_no_trace_strangerCalls :
    ∃ w, run (Observed.next readDungeonMessage) { session := sessionForTwo } strangerCalls = some w ∧
      w.pops.length = 1 ∧
      run (Observed.next readDungeonMessage) { session := sessionForTwo }
        [.receive 0 ⟨firstEndpoint, 2, [], helloBytes 100 11⟩,
          .receive 0 ⟨firstEndpoint, 4, [100], movementBytes 1⟩, .tryPopMovement] = some w := by
  obtain ⟨w, hr⟩ : ∃ w, run (Observed.next readDungeonMessage) { session := sessionForTwo }
      strangerCalls = some w := Option.isSome_iff_exists.mp (by decide)
  have hpops : w.pops.length = 1 := by
    cases hr
    decide
  have hm : Meets (Observed.next readDungeonMessage) (Unauthentic readDungeonMessage {secondEndpoint})
      { session := sessionForTwo } strangerCalls := by decide
  exact ⟨w, hr, hpops, (strangers_leave_no_trace {secondEndpoint} allocated_sessionForTwo hm hr).1⟩

end DnfServer.Udp
