import DnfServer.Udp.Outsiders

/-!
# Inputs of one participant beside those of another

The two input queues of a dungeon are shared by its participants and hold 256 entries each,
so a participant that sends enough inputs between two ticks leaves no room for the others.
That is the only influence it has: when the queues have room for the inputs of one
participant, the inputs from another endpoint can be taken out of a trace of datagrams and
pops, and the same inputs of the first are accepted in the same order. The two runs agree on
all that an input is checked against, the queues apart.
-/

namespace DnfServer.Udp

open Std DnfServer.Library
set_option autoImplicit false

inductive PlayerInput where
  | movement (movement : PlayerMovementMessage)
  | attack (attack : PlayerAttackMessage)
  deriving DecidableEq

/-- The inputs of the session that one operation has added to the queues. -/
def acceptedInputs (a : SessionId) (before after : DungeonUdpSession) : List PlayerInput :=
  ((after.pendingMovements.drop before.pendingMovements.length).filter (·.sessionId = a)).map
      (fun queued => .movement queued.movement) ++
    ((after.pendingAttacks.drop before.pendingAttacks.length).filter (·.sessionId = a)).map
      fun queued => .attack queued.attack

/-- A UDP session and the inputs of one participant that it has accepted so far, in order. -/
structure Recorded where
  session : DungeonUdpSession
  inputs : List PlayerInput := []

def Recorded.next (parse : Parse) (a : SessionId) (w : Recorded) (op : SessionOp) : Option Recorded :=
  (op.next parse w.session).map fun session =>
    { session, inputs := w.inputs ++ acceptedInputs a w.session session }

section Conditions

variable (parse : Parse)

/-- The operation is a movement or an attack from the endpoint. -/
def InputFrom (sender : Endpoint) : SessionOp → Prop
  | .receive _ datagram => datagram.sender = sender ∧
      ((decodePlayerMovement parse datagram.bytes).isSome ∨
        (decodePlayerAttack parse datagram.bytes).isSome)
  | _ => False

instance (sender : Endpoint) : (op : SessionOp) → Decidable (InputFrom parse sender op)
  | .receive _ datagram => inferInstanceAs (Decidable (datagram.sender = sender ∧
      ((decodePlayerMovement parse datagram.bytes).isSome ∨
        (decodePlayerAttack parse datagram.bytes).isSome)))
  | .disconnectParticipant _ | .replaceParticipant _ _ _ | .removeParticipant _
  | .refreshAllActivity _ | .removeInactiveEndpoints _ _ | .tryPopMovement
  | .tryPopAttack | .stop => instDecidableFalse

/-- The condition on one operation of a trace of datagrams and pops: a movement or an attack of
the session finds room in its queue. -/
def Roomy (a : SessionId) (w : Recorded) : SessionOp → Prop
  | .receive _ datagram => w.session.sessionAt datagram.sender datagram.order = a →
      ((decodePlayerMovement parse datagram.bytes).isSome →
        w.session.pendingMovements.length < maxPendingDungeonMovements) ∧
      ((decodePlayerAttack parse datagram.bytes).isSome →
        w.session.pendingAttacks.length < maxPendingDungeonAttacks)
  | .tryPopMovement | .tryPopAttack => True
  | _ => False

instance (a : SessionId) (w : Recorded) : (op : SessionOp) → Decidable (Roomy parse a w op)
  | .receive _ datagram =>
    inferInstanceAs (Decidable (w.session.sessionAt datagram.sender datagram.order = a →
      ((decodePlayerMovement parse datagram.bytes).isSome →
        w.session.pendingMovements.length < maxPendingDungeonMovements) ∧
      ((decodePlayerAttack parse datagram.bytes).isSome →
        w.session.pendingAttacks.length < maxPendingDungeonAttacks)))
  | .tryPopMovement | .tryPopAttack => instDecidableTrue
  | .disconnectParticipant _ | .replaceParticipant _ _ _ | .removeParticipant _
  | .refreshAllActivity _ | .removeInactiveEndpoints _ _ | .stop => instDecidableFalse

end Conditions

/-! ## What an input is checked against -/

/-- The two sessions check an input of session `a` against the same values, the room in the
queues apart. -/
structure Agree (a : SessionId) (u v : DungeonUdpSession) : Prop where
  dungeonId : v.dungeonId = u.dungeonId
  tokens : v.tokens = u.tokens
  endpoints : v.endpoints = u.endpoints
  stopped : v.stopped = u.stopped
  movementSequence : v.lastMovementSequences[a]? = u.lastMovementSequences[a]?
  attackSequence : v.lastAttackSequences[a]? = u.lastAttackSequences[a]?

/-- The step from `u` to `u'` adds no input of session `a` and leaves what they are checked
against. -/
def Unaffected (a : SessionId) (u u' : DungeonUdpSession) : Prop :=
  Agree a u u' ∧ acceptedInputs a u u' = []

/-- Agreement after a step of both with the same inputs accepted. -/
def AgreeAfter (a : SessionId) (u u' v v' : DungeonUdpSession) : Prop :=
  Agree a u' v' ∧ acceptedInputs a u u' = acceptedInputs a v v'

variable {parse : Parse} {a : SessionId} {u u' v v' : DungeonUdpSession}

theorem acceptedInputs_eq_nil (hm : u'.pendingMovements.length ≤ u.pendingMovements.length)
    (ha : u'.pendingAttacks.length ≤ u.pendingAttacks.length) : acceptedInputs a u u' = [] := by
  simp [acceptedInputs, List.drop_eq_nil_of_le hm, List.drop_eq_nil_of_le ha]

theorem unaffected_of_active (activity : IdMap Int) :
    Unaffected a u { u with lastActivity := activity } :=
  ⟨⟨rfl, rfl, rfl, rfl, rfl, rfl⟩, acceptedInputs_eq_nil (Nat.le_refl _) (Nat.le_refl _)⟩

/-- An input of another session. -/
theorem unaffected_of_received {datagram : DungeonUdpSession.Datagram}
    (hr : Received parse u datagram u') (hhello : decodeUdpHello parse datagram.bytes = none)
    (ha : u.endpoints[a]? = some datagram.sender →
      u.sessionAt datagram.sender datagram.order ≠ a) : Unaffected a u u' := by
  cases hr with
  | ignored => exact unaffected_of_active u.lastActivity
  | registered hello hd hid ht hnew =>
    rw [hhello] at hd
    cases hd
  | active s he => exact unaffected_of_active _
  | moved s movement he hat hd hl hn =>
    have hne : s ≠ a := by
      rintro rfl
      exact ha he hat.symm
    refine ⟨⟨rfl, rfl, rfl, rfl, ?_, rfl⟩, by simp [acceptedInputs, hne]⟩
    simp only
    grind
  | attacked s attack he hat hd hl hn =>
    have hne : s ≠ a := by
      rintro rfl
      exact ha he hat.symm
    refine ⟨⟨rfl, rfl, rfl, rfl, rfl, ?_⟩, by simp [acceptedInputs, hne]⟩
    simp only
    grind

theorem unaffected_of_tryPopMovement : Unaffected a u u.tryPopMovement.2 := by
  unfold DungeonUdpSession.tryPopMovement
  split
  · exact unaffected_of_active u.lastActivity
  · rename_i hq
    refine ⟨⟨rfl, rfl, rfl, rfl, rfl, rfl⟩, acceptedInputs_eq_nil ?_ (Nat.le_refl _)⟩
    simp [hq]

theorem unaffected_of_tryPopAttack : Unaffected a u u.tryPopAttack.2 := by
  unfold DungeonUdpSession.tryPopAttack
  split
  · exact unaffected_of_active u.lastActivity
  · rename_i hq
    refine ⟨⟨rfl, rfl, rfl, rfl, rfl, rfl⟩, acceptedInputs_eq_nil (Nat.le_refl _) ?_⟩
    simp [hq]

namespace Agree

theorem symm (h : Agree a u v) : Agree a v u :=
  ⟨h.dungeonId.symm, h.tokens.symm, h.endpoints.symm, h.stopped.symm, h.movementSequence.symm,
    h.attackSequence.symm⟩

theorem trans {w : DungeonUdpSession} (h : Agree a u v) (h' : Agree a v w) : Agree a u w :=
  ⟨h'.dungeonId.trans h.dungeonId, h'.tokens.trans h.tokens, h'.endpoints.trans h.endpoints,
    h'.stopped.trans h.stopped, h'.movementSequence.trans h.movementSequence,
    h'.attackSequence.trans h.attackSequence⟩

theorem unaffected (h : Agree a u v) (hu : Unaffected a u u') (hv : Unaffected a v v') :
    AgreeAfter a u u' v v' :=
  ⟨hu.1.symm.trans (h.trans hv.1), hu.2.trans hv.2.symm⟩

theorem active (h : Agree a u v) (activity activity' : IdMap Int) :
    AgreeAfter a u { u with lastActivity := activity } v { v with lastActivity := activity' } :=
  h.unaffected (unaffected_of_active activity) (unaffected_of_active activity')

theorem same (h : Agree a u v) : AgreeAfter a u u v v := h.active u.lastActivity v.lastActivity

theorem sessionAt (h : Agree a u v) (sender : Endpoint) (order : List SessionId) :
    v.sessionAt sender order = u.sessionAt sender order := by
  unfold DungeonUdpSession.sessionAt
  rw [h.endpoints]

theorem handleHello (h : Agree a u v) (sender : Endpoint) (now : Int) (hello : UdpHelloMessage) :
    AgreeAfter a u (u.handleHello sender now hello).2 v (v.handleHello sender now hello).2 := by
  unfold DungeonUdpSession.handleHello
  rw [h.tokens, h.endpoints]
  split
  · cases u.endpoints[hello.sessionId]? with
    | none =>
      refine ⟨{ h with tokens := rfl, endpoints := rfl }, ?_⟩
      simp [acceptedInputs]
    | some registered =>
      simp only
      split
      · exact ⟨{ h with tokens := rfl, endpoints := rfl }, by simp [acceptedInputs]⟩
      · exact h.same
  · exact h.same

theorem handleHeartbeat (h : Agree a u v) (sender : Endpoint) (now : Int)
    (heartbeat : UdpHeartbeatMessage) :
    AgreeAfter a u (u.handleHeartbeat sender now heartbeat) v
      (v.handleHeartbeat sender now heartbeat) := by
  unfold DungeonUdpSession.handleHeartbeat
  rw [h.endpoints]
  split
  · exact ⟨{ h with endpoints := rfl }, by simp [acceptedInputs]⟩
  · exact h.same

/-- A movement of the session that finds room in both queues. -/
theorem handlePlayerMovement (h : Agree a u v) {sender : Endpoint} {order : List SessionId}
    (hat : u.sessionAt sender order = a)
    (hu : u.pendingMovements.length < maxPendingDungeonMovements)
    (hv : v.pendingMovements.length < maxPendingDungeonMovements) (now : Int)
    (movement : PlayerMovementMessage) :
    AgreeAfter a u (u.handlePlayerMovement sender now order movement) v
      (v.handlePlayerMovement sender now order movement) := by
  unfold DungeonUdpSession.handlePlayerMovement
  simp only [h.sessionAt sender order, hat, if_neg (Nat.not_le.mpr hu), if_neg (Nat.not_le.mpr hv),
    h.movementSequence]
  split
  · exact h.same
  · split
    · exact h.active _ _
    · refine ⟨{ h with movementSequence := ?_ }, by simp [acceptedInputs]⟩
      simp only
      grind

theorem handlePlayerAttack (h : Agree a u v) {sender : Endpoint} {order : List SessionId}
    (hat : u.sessionAt sender order = a)
    (hu : u.pendingAttacks.length < maxPendingDungeonAttacks)
    (hv : v.pendingAttacks.length < maxPendingDungeonAttacks) (now : Int)
    (attack : PlayerAttackMessage) :
    AgreeAfter a u (u.handlePlayerAttack sender now order attack) v
      (v.handlePlayerAttack sender now order attack) := by
  unfold DungeonUdpSession.handlePlayerAttack
  simp only [h.sessionAt sender order, hat, if_neg (Nat.not_le.mpr hu), if_neg (Nat.not_le.mpr hv),
    h.attackSequence]
  split
  · exact h.same
  · split
    · exact h.active _ _
    · refine ⟨{ h with attackSequence := ?_ }, by simp [acceptedInputs]⟩
      simp only
      grind

/-- The same datagram in both runs. -/
theorem handleReceive (h : Agree a u v) {serverTick : UInt32}
    {datagram : DungeonUdpSession.Datagram} {inputs inputs' : List PlayerInput}
    (hu : Roomy parse a ⟨u, inputs⟩ (.receive serverTick datagram))
    (hv : Roomy parse a ⟨v, inputs'⟩ (.receive serverTick datagram)) :
    AgreeAfter a u (u.handleReceive parse serverTick datagram).2 v
      (v.handleReceive parse serverTick datagram).2 := by
  cases hhello : decodeUdpHello parse datagram.bytes with
  | some hello =>
    simp only [DungeonUdpSession.handleReceive, hhello, h.stopped, h.dungeonId]
    split
    · exact h.same
    · split
      · exact h.handleHello _ _ hello
      · exact h.same
  | none =>
    by_cases hat : u.sessionAt datagram.sender datagram.order = a
    · have hat' : v.sessionAt datagram.sender datagram.order = a := h.sessionAt _ _ ▸ hat
      simp only [DungeonUdpSession.handleReceive, hhello, h.stopped, h.dungeonId]
      split
      · exact h.same
      · split
        · rename_i movement hd
          have hsome : (decodePlayerMovement parse datagram.bytes).isSome := by
            simp [(Option.filter_eq_some_iff.mp hd).1]
          exact h.handlePlayerMovement hat ((hu hat).1 hsome) ((hv hat').1 hsome) _ _
        · split
          · rename_i attack hd
            have hsome : (decodePlayerAttack parse datagram.bytes).isSome := by
              simp [(Option.filter_eq_some_iff.mp hd).1]
            exact h.handlePlayerAttack hat ((hu hat).2 hsome) ((hv hat').2 hsome) _ _
          · split
            · exact h.handleHeartbeat _ _ _
            · exact h.same
    · have hat' : v.sessionAt datagram.sender datagram.order ≠ a := h.sessionAt _ _ ▸ hat
      exact h.unaffected (unaffected_of_received (received_of_receive parse _ u _) hhello fun _ => hat)
        (unaffected_of_received (received_of_receive parse _ v _) hhello fun _ => hat')

/-- The same operation of a trace in both runs. -/
theorem apply (h : Agree a u v) {op : SessionOp} {inputs inputs' : List PlayerInput}
    (hu : Roomy parse a ⟨u, inputs⟩ op) (hv : Roomy parse a ⟨v, inputs'⟩ op) :
    AgreeAfter a u (op.apply parse u) v (op.apply parse v) := by
  cases op with
  | receive serverTick datagram => exact h.handleReceive hu hv
  | tryPopMovement => exact h.unaffected unaffected_of_tryPopMovement unaffected_of_tryPopMovement
  | tryPopAttack => exact h.unaffected unaffected_of_tryPopAttack unaffected_of_tryPopAttack
  | _ => exact hu.elim

end Agree

/-! ## Traces -/

/-- Datagrams and pops leave the registered endpoints alone. -/
theorem endpoint_kept {op : SessionOp} {inputs : List PlayerInput} {endpoint : Endpoint}
    (hu : Roomy parse a ⟨u, inputs⟩ op) (he : u.endpoints[a]? = some endpoint) :
    (op.apply parse u).endpoints[a]? = some endpoint := by
  by_contra hgone
  rcases endpoint_dropped he hgone with ⟨x, rfl⟩ | ⟨old, new, token, rfl⟩ | ⟨x, rfl⟩ |
    ⟨idleTimeout, now, rfl⟩ <;> exact hu

/-- An input from an endpoint at which the session is not registered. -/
theorem unaffected_of_inputFrom {op : SessionOp} {sender : Endpoint}
    (hin : InputFrom parse sender op) (he : u.endpoints[a]? ≠ some sender) :
    Unaffected a u (op.apply parse u) := by
  cases op with
  | receive serverTick datagram =>
    obtain ⟨rfl, hinput⟩ := hin
    have hhello : decodeUdpHello parse datagram.bytes = none := by
      rcases hinput with hd | hd
      · obtain ⟨movement, hd⟩ := Option.isSome_iff_exists.mp hd
        exact decodeUdpHello_of_movement hd
      · obtain ⟨attack, hd⟩ := Option.isSome_iff_exists.mp hd
        exact (decodePlayerMovement_of_attack hd).1
    exact unaffected_of_received (received_of_receive parse serverTick u datagram) hhello
      fun ha => absurd ha he
  | _ => exact hin.elim

theorem recorded_next {w w' : Recorded} {op : SessionOp} :
    w.next parse a op = some w' ↔ op.Enabled w.session ∧
      w' = ⟨op.apply parse w.session,
        w.inputs ++ acceptedInputs a w.session (op.apply parse w.session)⟩ := by
  unfold Recorded.next SessionOp.next
  split <;> simp_all [eq_comm]

/-- Of a trace of datagrams and pops that leaves a session registered at one endpoint, the
movements and attacks from another endpoint can be taken out, and the same movements and attacks
of the session are accepted in the same order, provided that each of them finds room in its queue
in both traces. -/
theorem inputs_isolated {session : DungeonUdpSession} {endpoint sender : Endpoint}
    {ops : List SessionOp} {w : Recorded} (hr : run (Recorded.next parse a) { session } ops = some w)
    (he : w.session.endpoints[a]? = some endpoint) (hne : endpoint ≠ sender)
    (hm : Meets (Recorded.next parse a) (Roomy parse a) { session } ops)
    (hm' : Meets (Recorded.next parse a) (Roomy parse a) { session }
      (ops.filter fun op => ¬ InputFrom parse sender op)) :
    ∃ w', run (Recorded.next parse a) { session }
        (ops.filter fun op => ¬ InputFrom parse sender op) = some w' ∧ w'.inputs = w.inputs := by
  -- the session is nowhere registered at the sender of the inputs that are taken out
  have hapart : Meets (Recorded.next parse a)
      (fun w op => w.session.endpoints[a]? ≠ some sender ∧ Roomy parse a w op) { session } ops := by
    refine meets_of_last (fun w => w.session.endpoints[a]? ≠ some sender) ?_ hm hr (by simp [he, hne])
    intro w op w' hok hn hlast hs
    obtain ⟨-, rfl⟩ := recorded_next.mp hn
    exact hlast (endpoint_kept hok hs)
  have hrelated : ∃ w', run (Recorded.next parse a) { session }
      (ops.filter fun op => ¬ InputFrom parse sender op) = some w' ∧
      (Agree a w.session w'.session ∧ w'.inputs = w.inputs) := by
    refine run_filter_related (fun w w' => Agree a w.session w'.session ∧ w'.inputs = w.inputs)
      ?_ ?_ ⟨⟨rfl, rfl, rfl, rfl, rfl, rfl⟩, rfl⟩ hapart hm' hr
    · rintro w op w' v ⟨hagree, hinputs⟩ ⟨-, hok⟩ hok' hn -
      obtain ⟨hen, rfl⟩ := recorded_next.mp hn
      obtain ⟨hafter, haccepted⟩ := hagree.apply hok hok'
      have hen' : op.Enabled v.session := by
        cases op <;> simp_all [SessionOp.Enabled, hagree.endpoints]
      exact ⟨_, recorded_next.mpr ⟨hen', rfl⟩, hafter, by simp only [hinputs, haccepted]⟩
    · rintro w op w' v ⟨hagree, hinputs⟩ ⟨hs, hok⟩ hn hskip
      obtain ⟨-, rfl⟩ := recorded_next.mp hn
      have hin : InputFrom parse sender op := by simpa using hskip
      have hun := unaffected_of_inputFrom hin hs
      exact ⟨hun.1.symm.trans hagree, by simp [hinputs, hun.2]⟩
  obtain ⟨w', hrun, -, hinputs⟩ := hrelated
  exact ⟨w', hrun, hinputs⟩

/-- Two participants greet and send inputs by turns. -/
def turnCalls : List SessionOp :=
  [.receive 0 ⟨firstEndpoint, 1, [], helloBytes 100 11⟩,
    .receive 0 ⟨secondEndpoint, 2, [100], helloBytes 101 12⟩,
    .receive 0 ⟨secondEndpoint, 3, [101, 100], movementBytes 5⟩,
    .receive 0 ⟨firstEndpoint, 4, [100, 101], movementBytes 1⟩, .tryPopMovement,
    .receive 0 ⟨secondEndpoint, 5, [100, 101], attackBytes 1⟩,
    .receive 0 ⟨firstEndpoint, 6, [100, 101], attackBytes 1⟩, .tryPopAttack]

theorem inputs_isolated_turnCalls :
    ∃ w w', run (Recorded.next readDungeonMessage 100) { session := sessionForTwo } turnCalls = some w ∧
      run (Recorded.next readDungeonMessage 100) { session := sessionForTwo }
        (turnCalls.filter fun op => ¬ InputFrom readDungeonMessage secondEndpoint op) = some w' ∧
      w'.inputs = w.inputs ∧ w.inputs.length = 2 := by
  obtain ⟨w, hr⟩ : ∃ w, run (Recorded.next readDungeonMessage 100) { session := sessionForTwo }
      turnCalls = some w := Option.isSome_iff_exists.mp (by decide)
  have hw : w.session.endpoints[100]? = some firstEndpoint ∧ w.inputs.length = 2 := by
    cases hr
    decide
  obtain ⟨w', hr', hinputs⟩ := inputs_isolated hr hw.1 (by decide : firstEndpoint ≠ secondEndpoint)
    (by decide) (by decide)
  exact ⟨w, w', hr, hr', hinputs, hw.2⟩

/-! ## A full queue -/

def greetingCalls : List SessionOp :=
  [.receive 0 ⟨firstEndpoint, 1, [], helloBytes 100 11⟩,
    .receive 0 ⟨secondEndpoint, 2, [100], helloBytes 101 12⟩]

/-- Three sequence numbers in turn, each newer than the one before. -/
def floodSequence (i : Nat) : UInt32 := 1 + 0x55555555 * .ofNat (i % 3)

def floodMovement (i : Nat) : SessionOp :=
  .receive 0 ⟨secondEndpoint, 3, [100, 101], movementBytes (floodSequence i)⟩

/-- The second participant fills the queue before the first one moves. -/
def floodCalls : List SessionOp :=
  greetingCalls ++ (List.range maxPendingDungeonMovements).map floodMovement ++
    [.receive 0 ⟨firstEndpoint, 4, [100, 101], movementBytes 1⟩]

/-- Both are registered, and `count` movements of the second participant are queued. -/
structure Flooded (count : Nat) (w : Recorded) : Prop where
  dungeonId : w.session.dungeonId = 1
  endpoints : w.session.endpoints =
    (ExtTreeMap.insertIfNew ∅ 100 firstEndpoint).insertIfNew 101 secondEndpoint
  stopped : w.session.stopped = false
  sequence : ∀ previous, w.session.lastMovementSequences[101]? = some previous →
    isNewerSequence (floodSequence count) previous = true
  queued : w.session.pendingMovements.length = count
  inputs : w.inputs = []

theorem decodePlayerMovement_floodSequence (i : Nat) :
    decodePlayerMovement readDungeonMessage (movementBytes (floodSequence i)) =
      some ⟨1, floodSequence i, ⟨0⟩, ⟨1065353216⟩, false⟩ := by
  have hi : i % 3 = 0 ∨ i % 3 = 1 ∨ i % 3 = 2 := by omega
  rcases hi with hi | hi | hi <;> rw [floodSequence, hi] <;> decide

theorem isNewerSequence_floodSequence (i : Nat) :
    isNewerSequence (floodSequence (i + 1)) (floodSequence i) = true := by
  have hi : i % 3 = 0 ∧ (i + 1) % 3 = 1 ∨ i % 3 = 1 ∧ (i + 1) % 3 = 2 ∨
      i % 3 = 2 ∧ (i + 1) % 3 = 0 := by omega
  rcases hi with ⟨hi, hj⟩ | ⟨hi, hj⟩ | ⟨hi, hj⟩ <;> rw [floodSequence, floodSequence, hi, hj] <;> decide

namespace Flooded

variable {count : Nat} {w : Recorded}

theorem sessionAt (h : Flooded count w) :
    w.session.sessionAt firstEndpoint [100, 101] = 100 ∧
      w.session.sessionAt secondEndpoint [100, 101] = 101 ∧
      IterationOrder w.session.endpoints [100, 101] := by
  unfold DungeonUdpSession.sessionAt
  rw [h.endpoints]
  decide

theorem next (h : Flooded count w) (hc : count < maxPendingDungeonMovements) :
    ∃ w', w.next readDungeonMessage 100 (floodMovement count) = some w' ∧ Flooded (count + 1) w' := by
  obtain ⟨-, hat, hen⟩ := h.sessionAt
  refine ⟨_, recorded_next.mpr ⟨hen, rfl⟩, ?_⟩
  have happly : (floodMovement count).apply readDungeonMessage w.session = { w.session with
      lastActivity := w.session.lastActivity.insert 101 3
      lastMovementSequences := w.session.lastMovementSequences.insert 101 (floodSequence count)
      pendingMovements := w.session.pendingMovements ++
        [⟨101, ⟨1, floodSequence count, ⟨0⟩, ⟨1065353216⟩, false⟩⟩] } := by
    have hreceive := @handleReceive_movement readDungeonMessage w.session
      ⟨secondEndpoint, 3, [100, 101], movementBytes (floodSequence count)⟩ _ h.stopped
      (decodePlayerMovement_floodSequence count) h.dungeonId.symm 0
    rw [floodMovement, SessionOp.apply, hreceive, handlePlayerMovement_accepted (by simp [hat]) (by rw [h.queued]; exact hc)
      (by simpa only [hat] using h.sequence), hat]
  rw [happly]
  refine { h with sequence := ?_, queued := ?_, inputs := ?_ }
  · intro previous hp
    have : floodSequence count = previous := by grind
    exact this ▸ isNewerSequence_floodSequence count
  · simp [h.queued]
  · simp [acceptedInputs, h.inputs]

theorem run (h : Flooded 0 w) (hc : count ≤ maxPendingDungeonMovements) :
    ∃ w', Library.run (Recorded.next readDungeonMessage 100) w
      ((List.range count).map floodMovement) = some w' ∧ Flooded count w' := by
  induction count with
  | zero => exact ⟨w, rfl, h⟩
  | succ count ih =>
    obtain ⟨v, hv, hflooded⟩ := ih (by omega)
    obtain ⟨w', hnext, hlast⟩ := hflooded.next hc
    refine ⟨w', ?_, hlast⟩
    rw [List.range_succ, List.map_append]
    exact run_append.mpr ⟨v, hv, run_cons.mpr ⟨w', hnext, rfl⟩⟩

/-- A movement that finds the queue full. -/
theorem dropped (h : Flooded maxPendingDungeonMovements w) :
    ∃ w', w.next readDungeonMessage 100
        (.receive 0 ⟨firstEndpoint, 4, [100, 101], movementBytes 1⟩) = some w' ∧
      w'.session.endpoints = w.session.endpoints ∧ w'.inputs = [] := by
  obtain ⟨hat, -, hen⟩ := h.sessionAt
  refine ⟨_, recorded_next.mpr ⟨hen, rfl⟩, ?_⟩
  have happly : SessionOp.apply readDungeonMessage w.session
      (.receive 0 ⟨firstEndpoint, 4, [100, 101], movementBytes 1⟩) =
        { w.session with lastActivity := w.session.lastActivity.insert 100 4 } := by
    have hd : decodePlayerMovement readDungeonMessage (movementBytes 1) =
        some ⟨1, 1, ⟨0⟩, ⟨1065353216⟩, false⟩ := by decide
    have hreceive := @handleReceive_movement readDungeonMessage w.session
      ⟨firstEndpoint, 4, [100, 101], movementBytes 1⟩ _ h.stopped hd h.dungeonId.symm 0
    simp only [SessionOp.apply, hreceive, DungeonUdpSession.handlePlayerMovement, hat, h.queued]
    rfl
  rw [happly]
  exact ⟨rfl, by simp [acceptedInputs, h.inputs]⟩

end Flooded

/-- Two participants are registered at different endpoints, and the movements of the second keep
the movement of the first out of the queue. -/
theorem inputs_flooded :
    ∃ w w', run (Recorded.next readDungeonMessage 100) { session := sessionForTwo } floodCalls = some w ∧
      run (Recorded.next readDungeonMessage 100) { session := sessionForTwo }
        (floodCalls.filter fun op => ¬ InputFrom readDungeonMessage secondEndpoint op) = some w' ∧
      w.session.endpoints[100]? = some firstEndpoint ∧
      w.session.endpoints[101]? = some secondEndpoint ∧
      w.inputs = [] ∧ w'.inputs = [.movement ⟨1, 1, ⟨0⟩, ⟨1065353216⟩, false⟩] := by
  obtain ⟨v, hv⟩ : ∃ v, run (Recorded.next readDungeonMessage 100) { session := sessionForTwo }
      greetingCalls = some v := Option.isSome_iff_exists.mp (by decide)
  have hgreeted : Flooded 0 v := by
    cases hv
    refine ⟨by decide, ?_, by decide, ?_, by decide, by decide⟩
    · rfl
    · intro previous hp
      cases hp
  obtain ⟨u, hu, hflooded⟩ := hgreeted.run (Nat.le_refl maxPendingDungeonMovements)
  obtain ⟨w, hw, hendpoints, hinputs⟩ := hflooded.dropped
  have hfilter : (floodCalls.filter fun op => ¬ InputFrom readDungeonMessage secondEndpoint op) =
      greetingCalls ++ [.receive 0 ⟨firstEndpoint, 4, [100, 101], movementBytes 1⟩] := by
    have hflood : (((List.range maxPendingDungeonMovements).map floodMovement).filter fun op =>
        ¬ InputFrom readDungeonMessage secondEndpoint op) = [] := by
      simp [floodMovement, InputFrom, decodePlayerMovement_floodSequence]
    rw [floodCalls, List.filter_append, List.filter_append, hflood]
    rfl
  obtain ⟨w', hw'⟩ : ∃ w', run (Recorded.next readDungeonMessage 100) { session := sessionForTwo }
      (greetingCalls ++ [.receive 0 ⟨firstEndpoint, 4, [100, 101], movementBytes 1⟩]) = some w' :=
    Option.isSome_iff_exists.mp (by decide)
  refine ⟨w, w', ?_, hfilter ▸ hw', ?_, ?_, hinputs, ?_⟩
  · exact run_append.mpr ⟨u, run_append.mpr ⟨v, hv, hu⟩, run_cons.mpr ⟨w, hw, rfl⟩⟩
  · rw [hendpoints, hflooded.endpoints]
    decide
  · rw [hendpoints, hflooded.endpoints]
    decide
  · cases hw'
    decide

end DnfServer.Udp
