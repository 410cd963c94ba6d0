import DnfServer.Model.Processors
import DnfServer.Model.UdpClient
import DnfServer.Udp.Bookkeeping

/-!
# Numbered inputs over a lossy network

A client numbers its inputs with a counter that skips zero, and the network loses, duplicates
and reorders what it sends. The server keeps the number of the last accepted input and takes
what lies less than half the range ahead of it. As long as the inputs delivered within one
registration are fewer than `2 ^ 31 - 1` sends apart, this is the comparison of send indices:
the accepted inputs are in send order, none is accepted twice, and one that is newer than all
accepted ones is accepted when there is room.
-/

namespace DnfServer.Udp

open Std DnfServer.Library DungeonUdpService
set_option autoImplicit false

/-! ## Numbers and send indices -/

/-- The counter of a client after the given number of sends. -/
def sequenceOf : Nat → UInt32
  | 0 => 0
  | n + 1 => nextSequence (sequenceOf n)

/-- The counter runs through the nonzero numbers in a circle. -/
theorem toNat_sequenceOf (n : Nat) : (sequenceOf (n + 1)).toNat = n % 4294967295 + 1 := by
  induction n with
  | zero => rfl
  | succ n ih =>
    have hsum : (sequenceOf (n + 1) + 1).toNat = (n % 4294967295 + 1 + 1) % 4294967296 := by
      rw [UInt32.toNat_add, ih]
      rfl
    rw [sequenceOf, nextSequence]
    split
    · rename_i h0
      have hzero : (sequenceOf (n + 1) + 1).toNat = 0 := by rw [h0]; rfl
      have hone : (1 : UInt32).toNat = 1 := rfl
      rw [hone]
      omega
    · rename_i h0
      have hzero : (sequenceOf (n + 1) + 1).toNat ≠ 0 := fun h => h0 (UInt32.toNat_inj.mp h)
      rw [hsum] at hzero ⊢
      omega

/-- The server's comparison is the one of send indices that are less than half the range apart.
Between two numbers lies their distance, or one more when the counter has skipped zero. -/
theorem isNewerSequence_iff {i j : Nat} (hij : i - j < 2147483647) (hji : j - i < 2147483647) :
    isNewerSequence (sequenceOf (i + 1)) (sequenceOf (j + 1)) = true ↔ j < i := by
  have hi := toNat_sequenceOf i
  have hj := toNat_sequenceOf j
  have hd : (sequenceOf (i + 1) - sequenceOf (j + 1)).toNat =
      (4294967296 - (j % 4294967295 + 1) + (i % 4294967295 + 1)) % 4294967296 := by
    rw [UInt32.toNat_sub, hi, hj]
  have hhalf : sequenceHalfRange.toNat = 2147483648 := rfl
  have hne : sequenceOf (i + 1) - sequenceOf (j + 1) ≠ 0 ↔
      (sequenceOf (i + 1) - sequenceOf (j + 1)).toNat ≠ 0 := by
    rw [ne_eq, ne_eq, ← UInt32.toNat_inj]
    rfl
  simp only [isNewerSequence, Bool.and_eq_true, bne_iff_ne, decide_eq_true_eq, hne,
    UInt32.lt_iff_toNat_lt, hhalf, hd]
  have hround : i / 4294967295 = j / 4294967295 ∨ i / 4294967295 = j / 4294967295 + 1 ∨
      j / 4294967295 = i / 4294967295 + 1 := by omega
  rcases hround with hround | hround | hround <;> omega

/-! ## One kind of input -/

/-- One kind of input of a client: the inputs sent since the connection, and the send indices of
those delivered and accepted within the current registration, with what was accepted. -/
structure Channel (α : Type) where
  sent : List α := []
  delivered : List Nat := []
  accepted : List (Nat × α) := []

namespace Channel

variable {α : Type}

def send (input : α) (channel : Channel α) : Channel α :=
  { channel with sent := channel.sent ++ [input] }

def deliver (i : Nat) (taken : List α) (channel : Channel α) : Channel α :=
  { channel with
    delivered := channel.delivered ++ [i]
    accepted := channel.accepted ++ taken.map (i, ·) }

/-- The registration has ended. -/
def restart (channel : Channel α) : Channel α := { sent := channel.sent }

/-- Fewer than `2 ^ 31 - 1` sends lie between the input and every one delivered so far. -/
def InWindow (channel : Channel α) (i : Nat) : Prop :=
  ∀ j ∈ channel.delivered, i - j < 2147483647 ∧ j - i < 2147483647

instance (channel : Channel α) (i : Nat) : Decidable (channel.InWindow i) :=
  inferInstanceAs (Decidable (∀ j ∈ channel.delivered, i - j < 2147483647 ∧ j - i < 2147483647))

/-- The counter of the client and the number that the server keeps stand for send indices, and
the accepted inputs are in send order. -/
structure InOrder (sequence : α → UInt32) (counter : UInt32) (last : Option UInt32)
    (channel : Channel α) : Prop where
  counter : counter = sequenceOf channel.sent.length
  numbered : ∀ (i : Nat) (input : α), channel.sent[i]? = some input →
    sequence input = sequenceOf (i + 1)
  last : last = channel.accepted.getLast?.map fun input => sequenceOf (input.1 + 1)
  increasing : channel.accepted.Pairwise fun a b => a.1 < b.1
  delivered : ∀ input ∈ channel.accepted, input.1 ∈ channel.delivered
  authentic : ∀ input ∈ channel.accepted, channel.sent[input.1]? = some input.2

namespace InOrder

variable {sequence : α → UInt32} {counter : UInt32} {last : Option UInt32} {channel : Channel α}

theorem empty (sequence : α → UInt32) : ({} : Channel α).InOrder sequence 0 none where
  counter := rfl
  numbered := fun _ _ hi => nomatch hi
  last := rfl
  increasing := .nil
  delivered := fun _ ha => absurd ha List.not_mem_nil
  authentic := fun _ ha => absurd ha List.not_mem_nil

theorem send (h : channel.InOrder sequence counter last) {input : α}
    (hinput : sequence input = nextSequence counter) :
    (channel.send input).InOrder sequence (nextSequence counter) last := by
  refine { h with counter := ?_, numbered := ?_, authentic := ?_ }
  · rw [h.counter]
    simp [Channel.send, sequenceOf]
  · intro i x hx
    simp only [Channel.send, List.getElem?_append] at hx
    split at hx
    · exact h.numbered i x hx
    · rename_i hi
      obtain ⟨hi0, rfl⟩ : i - channel.sent.length = 0 ∧ input = x := by
        simpa [List.getElem?_singleton] using hx
      rw [hinput, h.counter, show i = channel.sent.length by omega]
      rfl
  · intro a ha
    have hsent := h.authentic a ha
    have hlt := (List.getElem?_eq_some_iff.mp hsent).1
    simpa only [Channel.send, List.getElem?_append_left hlt] using hsent

theorem restart (h : channel.InOrder sequence counter last) :
    channel.restart.InOrder sequence counter none :=
  { counter := h.counter, numbered := h.numbered, last := rfl, increasing := .nil
    delivered := fun _ ha => absurd ha List.not_mem_nil
    authentic := fun _ ha => absurd ha List.not_mem_nil }

/-- The accepted inputs lie before the last one. -/
theorem le_getLast (h : channel.InOrder sequence counter last) {a b : Nat × α}
    (ha : channel.accepted.getLast? = some a) (hb : b ∈ channel.accepted) : b.1 ≤ a.1 := by
  obtain ⟨rest, hrest⟩ := List.getLast?_eq_some_iff.mp ha
  have hincreasing := h.increasing
  rw [hrest] at hb hincreasing
  rcases List.mem_append.mp hb with hb | hb
  · exact Nat.le_of_lt ((List.pairwise_append.mp hincreasing).2.2 b hb a (by simp))
  · obtain rfl := List.mem_singleton.mp hb
    exact Nat.le_refl _

/-- The test of the server says whether the input is newer than all accepted ones. -/
theorem newer_iff (h : channel.InOrder sequence counter last) {i : Nat} {input : α}
    (hw : channel.InWindow i) (hi : channel.sent[i]? = some input) :
    (∀ previous, last = some previous → isNewerSequence (sequence input) previous = true) ↔
      ∀ a ∈ channel.accepted, a.1 < i := by
  rw [h.last, h.numbered i input hi]
  cases hlast : channel.accepted.getLast? with
  | none => simp [List.getLast?_eq_none_iff.mp hlast]
  | some a =>
    have hmem := List.mem_of_getLast? hlast
    obtain ⟨hij, hji⟩ := hw a.1 (h.delivered a hmem)
    simp only [Option.map_some, Option.some.injEq, forall_eq', isNewerSequence_iff hij hji]
    constructor
    · intro hlt b hb
      exact Nat.lt_of_le_of_lt (h.le_getLast hlast hb) hlt
    · intro hall
      exact hall a hmem

theorem ignore (h : channel.InOrder sequence counter last) (i : Nat) :
    (channel.deliver i []).InOrder sequence counter last := by
  refine { h with last := ?_, increasing := ?_, delivered := ?_, authentic := ?_ }
  · simpa [Channel.deliver] using h.last
  · simpa [Channel.deliver] using h.increasing
  · intro a ha
    simp only [Channel.deliver, List.map_nil, List.append_nil] at ha ⊢
    exact List.mem_append_left _ (h.delivered a ha)
  · simpa [Channel.deliver] using h.authentic

theorem accept (h : channel.InOrder sequence counter last) {i : Nat} {input : α}
    (hw : channel.InWindow i) (hi : channel.sent[i]? = some input)
    (hnewer : ∀ previous, last = some previous → isNewerSequence (sequence input) previous = true) :
    (channel.deliver i [input]).InOrder sequence counter (some (sequence input)) := by
  have hall := (h.newer_iff hw hi).mp hnewer
  have hmem (a : Nat × α) (ha : a ∈ (channel.deliver i [input]).accepted) :
      a ∈ channel.accepted ∨ a = (i, input) := by
    simpa [Channel.deliver] using ha
  refine { h with last := ?_, increasing := ?_, delivered := ?_, authentic := ?_ }
  · simp [Channel.deliver, h.numbered i input hi]
  · simp only [Channel.deliver, List.map_cons, List.map_nil]
    refine List.pairwise_append.mpr ⟨h.increasing, List.pairwise_singleton _ _, ?_⟩
    intro a ha b hb
    obtain rfl := List.mem_singleton.mp hb
    exact hall a ha
  · intro a ha
    rcases hmem a ha with ha | rfl
    · exact List.mem_append_left _ (h.delivered a ha)
    · simp [Channel.deliver]
  · intro a ha
    rcases hmem a ha with ha | rfl
    · exact h.authentic a ha
    · exact hi

end InOrder

end Channel

/-! ## Client, network and server -/

/-- A client, the UDP session it talks to, the movements of its participant that were popped in
the current registration, and what the movement processor has collected in its current call.
The flag says that the participant has not lost its registration since the call began. -/
structure Link where
  client : DungeonUdpService
  session : DungeonUdpSession
  movements : Channel PlayerMovementMessage := {}
  attacks : Channel PlayerAttackMessage := {}
  popped : List PlayerMovementMessage := []
  latestMovements : IdMap PlayerMovementMessage := ∅
  undisturbed : Bool := true

/-- A step of the client, the arrival of an input that it has sent, a step of the movement
processor, or any other operation on the UDP session. -/
inductive LinkOp where
  | sendMovement (moveX moveY : Single) (jump : Bool)
  | sendAttack (skillId : SkillId) (directionX directionY : Single)
  | movement (i : Nat) (serverTick : UInt32) (datagram : DungeonUdpSession.Datagram)
  | attack (i : Nat) (serverTick : UInt32) (datagram : DungeonUdpSession.Datagram)
  | beginTick
  | popMovement
  | other (op : SessionOp)

section

variable (parse : Parse) (s : SessionId)

/-- The running session attributes the datagram to the participant. -/
def Attributed (session : DungeonUdpSession) (datagram : DungeonUdpSession.Datagram) : Prop :=
  session.stopped = false ∧ IterationOrder session.endpoints datagram.order ∧
    session.sessionAt datagram.sender datagram.order = s

instance (session : DungeonUdpSession) (datagram : DungeonUdpSession.Datagram) :
    Decidable (Attributed s session datagram) :=
  inferInstanceAs (Decidable (_ ∧ _ ∧ _))

/-- The operation is no input of the participant and no pop of the movement processor. -/
def Foreign (session : DungeonUdpSession) : SessionOp → Prop
  | .receive _ datagram => session.sessionAt datagram.sender datagram.order = s →
      (decodePlayerMovement parse datagram.bytes).filter (·.dungeonId = session.dungeonId) = none ∧
        (decodePlayerAttack parse datagram.bytes).filter (·.dungeonId = session.dungeonId) = none
  | .tryPopMovement => False
  | _ => True

instance (session : DungeonUdpSession) : (op : SessionOp) → Decidable (Foreign parse s session op)
  | .receive _ datagram =>
    inferInstanceAs (Decidable (session.sessionAt datagram.sender datagram.order = s →
      (decodePlayerMovement parse datagram.bytes).filter (·.dungeonId = session.dungeonId) = none ∧
        (decodePlayerAttack parse datagram.bytes).filter (·.dungeonId = session.dungeonId) = none))
  | .tryPopMovement => instDecidableFalse
  | .disconnectParticipant _ | .replaceParticipant _ _ _ | .removeParticipant _
  | .refreshAllActivity _ | .removeInactiveEndpoints _ _ | .tryPopAttack
  | .stop => instDecidableTrue

/-- The movements of the participant that a step has added to the queue. -/
def takenMovements (before after : DungeonUdpSession) : List PlayerMovementMessage :=
  ((after.pendingMovements.drop before.pendingMovements.length).filter (·.sessionId = s)).map
    (·.movement)

def takenAttacks (before after : DungeonUdpSession) : List PlayerAttackMessage :=
  ((after.pendingAttacks.drop before.pendingAttacks.length).filter (·.sessionId = s)).map (·.attack)

def Link.next (w : Link) : LinkOp → Option Link
  | .sendMovement moveX moveY jump =>
    let sent := w.client.sendMovement moveX moveY jump
    some { w with client := sent.2, movements := w.movements.send sent.1 }
  | .sendAttack skillId directionX directionY =>
    let sent := w.client.sendAttack skillId directionX directionY
    some { w with client := sent.2, attacks := w.attacks.send sent.1 }
  | .movement i serverTick datagram =>
    if Attributed s w.session datagram ∧ (decodePlayerMovement parse datagram.bytes).isSome ∧
        w.movements.sent[i]? = decodePlayerMovement parse datagram.bytes then
      let session := (w.session.handleReceive parse serverTick datagram).2
      some { w with session, movements := w.movements.deliver i (takenMovements s w.session session) }
    else none
  | .attack i serverTick datagram =>
    if Attributed s w.session datagram ∧ (decodePlayerAttack parse datagram.bytes).isSome ∧
        w.attacks.sent[i]? = decodePlayerAttack parse datagram.bytes then
      let session := (w.session.handleReceive parse serverTick datagram).2
      some { w with session, attacks := w.attacks.deliver i (takenAttacks s w.session session) }
    else none
  | .beginTick => some { w with latestMovements := ∅, undisturbed := true }
  | .popMovement =>
    let popped := w.session.tryPopMovement
    match popped.1 with
    | none => some { w with session := popped.2 }
    | some queued => some { w with
        session := popped.2
        popped := w.popped ++ if queued.sessionId = s then [queued.movement] else []
        latestMovements := w.latestMovements.insert queued.sessionId queued.movement }
  | .other op =>
    if op.Enabled w.session ∧ Foreign parse s w.session op then
      let session := op.apply parse w.session
      if s ∈ session.endpoints then some { w with session }
      else some { w with
        session, movements := w.movements.restart, attacks := w.attacks.restart, popped := []
        undisturbed := w.undisturbed && decide (s ∉ w.session.endpoints) }
    else none

/-- An arriving input is fewer than `2 ^ 31 - 1` sends apart from all that have arrived in this
registration. -/
def Recent (w : Link) : LinkOp → Prop
  | .movement i _ _ => w.movements.InWindow i
  | .attack i _ _ => w.attacks.InWindow i
  | _ => True

instance (w : Link) (op : LinkOp) : Decidable (Recent w op) := by
  cases op <;> simp only [Recent] <;> infer_instance

end

/-- What holds of the participant throughout. -/
structure Sequenced (s : SessionId) (w : Link) : Prop where
  bookkept : Bookkept w.session
  dungeon : w.client.dungeonId = w.session.dungeonId
  movements : w.movements.InOrder (·.sequence) w.client.movementSequence
    w.session.lastMovementSequences[s]?
  attacks : w.attacks.InOrder (·.sequence) w.client.attackSequence w.session.lastAttackSequences[s]?
  sentMovements : ∀ movement ∈ w.movements.sent, movement.dungeonId = w.session.dungeonId
  sentAttacks : ∀ attack ∈ w.attacks.sent, attack.dungeonId = w.session.dungeonId
  queued : w.movements.accepted.map (·.2) =
    w.popped ++ (w.session.pendingMovements.filter (·.sessionId = s)).map (·.movement)
  latest : w.undisturbed = true → ∀ movement, w.latestMovements[s]? = some movement →
    w.popped.getLast? = some movement

/-! ## Operations that are no inputs of the participant -/

theorem apply_dungeonId (parse : Parse) (u : DungeonUdpSession) (op : SessionOp) :
    (op.apply parse u).dungeonId = u.dungeonId := by
  cases op with
  | receive serverTick datagram =>
    have hr := received_of_receive parse serverTick u datagram
    rw [SessionOp.apply]
    generalize (u.handleReceive parse serverTick datagram).2 = v at hr ⊢
    cases hr <;> rfl
  | disconnectParticipant x =>
    simp only [SessionOp.apply, DungeonUdpSession.disconnectParticipant]
    split <;> rfl
  | replaceParticipant old new token =>
    simp only [SessionOp.apply, DungeonUdpSession.replaceParticipant]
    split <;> [rfl; split] <;> [rfl; split] <;> rfl
  | removeParticipant x =>
    simp only [SessionOp.apply, DungeonUdpSession.removeParticipant]
    split <;> rfl
  | refreshAllActivity now => rfl
  | removeInactiveEndpoints idleTimeout now =>
    exact removeInactiveEndpoints_keeps (P := fun v => v.dungeonId = u.dungeonId)
      (fun _ _ hv => hv) rfl idleTimeout now
  | tryPopMovement =>
    simp only [SessionOp.apply, DungeonUdpSession.tryPopMovement]
    split <;> rfl
  | tryPopAttack =>
    simp only [SessionOp.apply, DungeonUdpSession.tryPopAttack]
    split <;> rfl
  | stop => rfl

/-- The inputs of the participant are checked and queued as before. -/
structure Kept (s : SessionId) (before after : DungeonUdpSession) : Prop where
  movementSequence : after.lastMovementSequences[s]? = before.lastMovementSequences[s]?
  attackSequence : after.lastAttackSequences[s]? = before.lastAttackSequences[s]?
  queued : after.pendingMovements.filter (·.sessionId = s) =
    before.pendingMovements.filter (·.sessionId = s)

namespace Kept

variable {s : SessionId} {u v : DungeonUdpSession}

theorem refl (s : SessionId) (u : DungeonUdpSession) : Kept s u u := ⟨rfl, rfl, rfl⟩

theorem trans {w : DungeonUdpSession} (h : Kept s u v) (h' : Kept s v w) : Kept s u w :=
  ⟨h'.movementSequence.trans h.movementSequence, h'.attackSequence.trans h.attackSequence,
    h'.queued.trans h.queued⟩

theorem removeParticipantRuntimeState {x : SessionId} (hx : x ≠ s) :
    Kept s u (u.removeParticipantRuntimeState x) := by
  refine ⟨?_, ?_, ?_⟩
  · simp only [DungeonUdpSession.removeParticipantRuntimeState]
    grind
  · simp only [DungeonUdpSession.removeParticipantRuntimeState]
    grind
  · simp only [DungeonUdpSession.removeParticipantRuntimeState, List.filter_filter]
    refine List.filter_congr ?_
    intro queued _
    by_cases hq : queued.sessionId = s
    · simp [hq, hx.symm]
    · simp [hq]

/-- A participant that is still registered afterwards was not among the idle ones. -/
theorem removeInactiveEndpoints (u : DungeonUdpSession) (idleTimeout now : Int) :
    s ∈ (u.removeInactiveEndpoints idleTimeout now).2.endpoints →
      Kept s u (u.removeInactiveEndpoints idleTimeout now).2 := by
  refine removeInactiveEndpoints_keeps (P := fun v => s ∈ v.endpoints → Kept s u v) ?_
    (fun _ => refl s u) idleTimeout now
  intro v x hv hmem
  simp only [DungeonUdpSession.removeParticipantRuntimeState, ExtTreeMap.mem_erase] at hmem
  have hx : x ≠ s := by
    rintro rfl
    simp at hmem
  exact (hv hmem.2).trans (removeParticipantRuntimeState hx)

theorem received {parse : Parse} {datagram : DungeonUdpSession.Datagram} {serverTick : UInt32}
    (hr : Received parse u datagram v) (hf : Foreign parse s u (.receive serverTick datagram)) :
    Kept s u v := by
  cases hr with
  | ignored => exact refl s u
  | registered hello hd hid ht hnew => exact ⟨rfl, rfl, rfl⟩
  | active x he => exact ⟨rfl, rfl, rfl⟩
  | moved x movement he hat hd hl hn hid =>
    have hx : x ≠ s := by
      rintro rfl
      have hnone := (hf hat.symm).1
      rw [hd, Option.filter_some_pos (by simpa using hid)] at hnone
      cases hnone
    refine ⟨?_, rfl, by simp [hx]⟩
    simp only
    grind
  | attacked x attack he hat hd hl hn hid =>
    have hx : x ≠ s := by
      rintro rfl
      have hnone := (hf hat.symm).2
      rw [hd, Option.filter_some_pos (by simpa using hid)] at hnone
      cases hnone
    refine ⟨rfl, ?_, rfl⟩
    simp only
    grind

/-- An operation that leaves the participant registered. -/
theorem apply {parse : Parse} {op : SessionOp} (hf : Foreign parse s u op)
    (hs : s ∈ (op.apply parse u).endpoints) : Kept s u (op.apply parse u) := by
  have hremoved {x : SessionId} (hs : s ∈ (u.removeParticipantRuntimeState x).endpoints) : x ≠ s := by
    rintro rfl
    simp [DungeonUdpSession.removeParticipantRuntimeState] at hs
  cases op with
  | receive serverTick datagram => exact received (received_of_receive parse serverTick u datagram) hf
  | disconnectParticipant x =>
    simp only [SessionOp.apply, DungeonUdpSession.disconnectParticipant] at hs ⊢
    split
    · exact refl s u
    · rename_i hx
      rw [if_neg hx] at hs
      exact removeParticipantRuntimeState (hremoved hs)
  | replaceParticipant old new token =>
    simp only [SessionOp.apply, DungeonUdpSession.replaceParticipant] at hs ⊢
    split
    · exact refl s u
    · split
      · exact refl s u
      · split
        · exact refl s u
        · rename_i h1 h2 h3
          simp only [if_neg h1, if_neg h2, if_neg h3] at hs
          have hkept := removeParticipantRuntimeState (u := u) (hremoved hs)
          exact ⟨hkept.movementSequence, hkept.attackSequence, hkept.queued⟩
  | removeParticipant x =>
    simp only [SessionOp.apply, DungeonUdpSession.removeParticipant] at hs ⊢
    split
    · exact refl s u
    · rename_i hx
      rw [if_neg hx] at hs
      have hkept := removeParticipantRuntimeState (u := u) (hremoved hs)
      exact ⟨hkept.movementSequence, hkept.attackSequence, hkept.queued⟩
  | refreshAllActivity now => exact ⟨rfl, rfl, rfl⟩
  | removeInactiveEndpoints idleTimeout now =>
    exact removeInactiveEndpoints u idleTimeout now hs
  | tryPopMovement => exact hf.elim
  | tryPopAttack =>
    simp only [SessionOp.apply, DungeonUdpSession.tryPopAttack]
    split <;> exact ⟨rfl, rfl, rfl⟩
  | stop => exact ⟨rfl, rfl, rfl⟩

end Kept

/-! ## One step -/

section Steps

variable {parse : Parse} {s : SessionId} {w w' : Link}

/-- A movement of the participant is queued when there is room and it is newer than the last one,
and else only counts as activity. -/
theorem handlePlayerMovement_cases {u : DungeonUdpSession} {sender : Endpoint}
    {order : List SessionId} (hat : u.sessionAt sender order = s) (hs : s ≠ 0) (now : Int)
    (movement : PlayerMovementMessage) :
    u.handlePlayerMovement sender now order movement =
        { u with lastActivity := u.lastActivity.insert s now } ∨
      (∀ previous, u.lastMovementSequences[s]? = some previous →
        isNewerSequence movement.sequence previous = true) ∧
      u.handlePlayerMovement sender now order movement = { u with
        lastActivity := u.lastActivity.insert s now
        lastMovementSequences := u.lastMovementSequences.insert s movement.sequence
        pendingMovements := u.pendingMovements ++ [⟨s, movement⟩] } := by
  unfold DungeonUdpSession.handlePlayerMovement
  simp only [hat, if_neg hs]
  split
  · exact Or.inl rfl
  · split
    · exact Or.inl rfl
    · rename_i hn
      refine Or.inr ⟨?_, rfl⟩
      intro previous hp
      simpa [hp] using hn

theorem handlePlayerAttack_cases {u : DungeonUdpSession} {sender : Endpoint}
    {order : List SessionId} (hat : u.sessionAt sender order = s) (hs : s ≠ 0) (now : Int)
    (attack : PlayerAttackMessage) :
    u.handlePlayerAttack sender now order attack =
        { u with lastActivity := u.lastActivity.insert s now } ∨
      (∀ previous, u.lastAttackSequences[s]? = some previous →
        isNewerSequence attack.sequence previous = true) ∧
      u.handlePlayerAttack sender now order attack = { u with
        lastActivity := u.lastActivity.insert s now
        lastAttackSequences := u.lastAttackSequences.insert s attack.sequence
        pendingAttacks := u.pendingAttacks ++ [⟨s, attack⟩] } := by
  unfold DungeonUdpSession.handlePlayerAttack
  simp only [hat, if_neg hs]
  split
  · exact Or.inl rfl
  · split
    · exact Or.inl rfl
    · rename_i hn
      refine Or.inr ⟨?_, rfl⟩
      intro previous hp
      simpa [hp] using hn

/-- The arrival of a movement, as the server handles it. -/
theorem next_movement (h : Sequenced s w) {i : Nat} {serverTick : UInt32}
    {datagram : DungeonUdpSession.Datagram}
    (hn : w.next parse s (.movement i serverTick datagram) = some w') :
    ∃ movement, w.movements.sent[i]? = some movement ∧
      w.session.sessionAt datagram.sender datagram.order = s ∧
      Bookkept (w.session.handlePlayerMovement datagram.sender datagram.now datagram.order movement) ∧
      w' = { w with
        session := w.session.handlePlayerMovement datagram.sender datagram.now datagram.order movement
        movements := w.movements.deliver i (takenMovements s w.session
          (w.session.handlePlayerMovement datagram.sender datagram.now datagram.order movement)) } := by
  simp only [Link.next] at hn
  split at hn
  · rename_i hen
    obtain ⟨⟨hrun, -, hat⟩, hsome, hsent⟩ := hen
    obtain ⟨movement, hd⟩ := Option.isSome_iff_exists.mp hsome
    rw [hd] at hsent
    have hid := h.sentMovements movement (List.mem_of_getElem? hsent)
    have hb := h.bookkept.apply parse (.receive serverTick datagram)
    rw [SessionOp.apply, handleReceive_movement hrun hd hid] at hb
    rw [handleReceive_movement hrun hd hid] at hn
    exact ⟨movement, hsent, hat, hb, (Option.some.inj hn).symm⟩
  · cases hn

theorem next_attack (h : Sequenced s w) {i : Nat} {serverTick : UInt32}
    {datagram : DungeonUdpSession.Datagram}
    (hn : w.next parse s (.attack i serverTick datagram) = some w') :
    ∃ attack, w.attacks.sent[i]? = some attack ∧
      w.session.sessionAt datagram.sender datagram.order = s ∧
      Bookkept (w.session.handlePlayerAttack datagram.sender datagram.now datagram.order attack) ∧
      w' = { w with
        session := w.session.handlePlayerAttack datagram.sender datagram.now datagram.order attack
        attacks := w.attacks.deliver i (takenAttacks s w.session
          (w.session.handlePlayerAttack datagram.sender datagram.now datagram.order attack)) } := by
  simp only [Link.next] at hn
  split at hn
  · rename_i hen
    obtain ⟨⟨hrun, -, hat⟩, hsome, hsent⟩ := hen
    obtain ⟨attack, hd⟩ := Option.isSome_iff_exists.mp hsome
    rw [hd] at hsent
    have hid := h.sentAttacks attack (List.mem_of_getElem? hsent)
    have hb := h.bookkept.apply parse (.receive serverTick datagram)
    rw [SessionOp.apply, handleReceive_attack hrun hd hid] at hb
    rw [handleReceive_attack hrun hd hid] at hn
    exact ⟨attack, hsent, hat, hb, (Option.some.inj hn).symm⟩
  · cases hn

namespace Sequenced

/-- Nothing of an unregistered participant is accepted or popped. -/
theorem unregistered (h : Sequenced s w) (hs : s ∉ w.session.endpoints) :
    w.movements.accepted = [] ∧ w.popped = [] := by
  have hnone := (h.bookkept.unregistered hs).1
  have hlast := h.movements.last
  rw [hnone, eq_comm, Option.map_eq_none_iff, List.getLast?_eq_none_iff] at hlast
  have hqueued := h.queued
  rw [hlast, List.map_nil, eq_comm, List.append_eq_nil_iff] at hqueued
  exact ⟨hlast, hqueued.1⟩

theorem movement (h : Sequenced s w) (hs : s ≠ 0) {i : Nat} {serverTick : UInt32}
    {datagram : DungeonUdpSession.Datagram} (hw : w.movements.InWindow i)
    (hn : w.next parse s (.movement i serverTick datagram) = some w') : Sequenced s w' := by
  obtain ⟨movement, hsent, hat, hb, rfl⟩ := next_movement h hn
  rcases handlePlayerMovement_cases hat hs datagram.now movement with heq | ⟨hnewer, heq⟩
  · rw [heq] at hb ⊢
    have htaken : takenMovements s w.session { w.session with
        lastActivity := w.session.lastActivity.insert s datagram.now } = [] := by
      simp [takenMovements]
    rw [htaken]
    refine { h with bookkept := hb, movements := h.movements.ignore i, queued := ?_ }
    simpa [Channel.deliver] using h.queued
  · rw [heq] at hb ⊢
    have htaken : takenMovements s w.session { w.session with
        lastActivity := w.session.lastActivity.insert s datagram.now
        lastMovementSequences := w.session.lastMovementSequences.insert s movement.sequence
        pendingMovements := w.session.pendingMovements ++ [⟨s, movement⟩] } = [movement] := by
      simp [takenMovements]
    rw [htaken]
    refine { h with bookkept := hb, movements := ?_, queued := ?_ }
    · simp only [ExtTreeMap.getElem?_insert_self]
      exact h.movements.accept hw hsent hnewer
    · simp [Channel.deliver, h.queued]

theorem attack (h : Sequenced s w) (hs : s ≠ 0) {i : Nat} {serverTick : UInt32}
    {datagram : DungeonUdpSession.Datagram} (hw : w.attacks.InWindow i)
    (hn : w.next parse s (.attack i serverTick datagram) = some w') : Sequenced s w' := by
  obtain ⟨attack, hsent, hat, hb, rfl⟩ := next_attack h hn
  rcases handlePlayerAttack_cases hat hs datagram.now attack with heq | ⟨hnewer, heq⟩
  · rw [heq] at hb ⊢
    have htaken : takenAttacks s w.session { w.session with
        lastActivity := w.session.lastActivity.insert s datagram.now } = [] := by
      simp [takenAttacks]
    rw [htaken]
    exact { h with bookkept := hb, attacks := h.attacks.ignore i }
  · rw [heq] at hb ⊢
    have htaken : takenAttacks s w.session { w.session with
        lastActivity := w.session.lastActivity.insert s datagram.now
        lastAttackSequences := w.session.lastAttackSequences.insert s attack.sequence
        pendingAttacks := w.session.pendingAttacks ++ [⟨s, attack⟩] } = [attack] := by
      simp [takenAttacks]
    rw [htaken]
    refine { h with bookkept := hb, attacks := ?_ }
    simp only [ExtTreeMap.getElem?_insert_self]
    exact h.attacks.accept hw hsent hnewer

theorem popMovement (h : Sequenced s w) (hn : w.next parse s .popMovement = some w') :
    Sequenced s w' := by
  have hb := h.bookkept.tryPopMovement
  simp only [Link.next, DungeonUdpSession.tryPopMovement] at hn hb
  cases hq : w.session.pendingMovements with
  | nil =>
    simp only [hq] at hn
    obtain rfl := Option.some.inj hn
    exact { h with }
  | cons queued rest =>
    have hqueued := h.queued
    simp only [hq] at hn hb hqueued
    obtain rfl := Option.some.inj hn
    by_cases hs : queued.sessionId = s
    · refine { h with bookkept := hb, queued := ?_, latest := ?_ }
      · simpa [hs] using hqueued
      · intro _ movement hm
        simp only [hs, ExtTreeMap.getElem?_insert_self] at hm
        simpa [hs] using hm
    · refine { h with bookkept := hb, queued := ?_, latest := ?_ }
      · simpa [hs] using hqueued
      · intro hun movement hm
        simp only [if_neg hs, List.append_nil]
        exact h.latest hun movement (by grind)

theorem other (h : Sequenced s w) {op : SessionOp} (hn : w.next parse s (.other op) = some w') :
    Sequenced s w' := by
  simp only [Link.next] at hn
  split at hn
  · rename_i hen
    have hb := h.bookkept.apply parse op
    have hid := apply_dungeonId parse w.session op
    split at hn
    · rename_i hs
      obtain rfl := Option.some.inj hn
      have hkept := Kept.apply hen.2 hs
      exact { h with
        bookkept := hb
        dungeon := h.dungeon.trans hid.symm
        movements := hkept.movementSequence ▸ h.movements
        attacks := hkept.attackSequence ▸ h.attacks
        sentMovements := hid ▸ h.sentMovements
        sentAttacks := hid ▸ h.sentAttacks
        queued := hkept.queued ▸ h.queued }
    · rename_i hs
      obtain rfl := Option.some.inj hn
      obtain ⟨hmovement, hattack, hnone⟩ := hb.unregistered hs
      refine {
        bookkept := hb
        dungeon := h.dungeon.trans hid.symm
        movements := hmovement ▸ h.movements.restart
        attacks := hattack ▸ h.attacks.restart
        sentMovements := hid ▸ h.sentMovements
        sentAttacks := hid ▸ h.sentAttacks
        queued := ?_
        latest := ?_ }
      · simp [Channel.restart, hnone]
      · -- the flag is still set only for a participant that was not registered before
        intro hun movement hm
        simp only [Bool.and_eq_true, decide_eq_true_eq] at hun
        have hlast := h.latest hun.1 movement hm
        rw [(h.unregistered hun.2).2] at hlast
        cases hlast
  · cases hn

/-- What one step preserves. -/
theorem next (h : Sequenced s w) (hs : s ≠ 0) {op : LinkOp} (hok : Recent w op)
    (hn : w.next parse s op = some w') : Sequenced s w' := by
  cases op with
  | sendMovement moveX moveY jump =>
    obtain rfl := Option.some.inj hn
    refine { h with movements := h.movements.send rfl, sentMovements := ?_ }
    intro movement hm
    rcases List.mem_append.mp hm with hm | hm
    · exact h.sentMovements movement hm
    · rw [List.mem_singleton.mp hm]
      exact h.dungeon
  | sendAttack skillId directionX directionY =>
    obtain rfl := Option.some.inj hn
    refine { h with attacks := h.attacks.send rfl, sentAttacks := ?_ }
    intro attack ha
    rcases List.mem_append.mp ha with ha | ha
    · exact h.sentAttacks attack ha
    · rw [List.mem_singleton.mp ha]
      exact h.dungeon
  | movement i serverTick datagram => exact h.movement hs hok hn
  | attack i serverTick datagram => exact h.attack hs hok hn
  | beginTick =>
    obtain rfl := Option.some.inj hn
    refine { h with latest := ?_ }
    intro _ movement hm
    cases hm
  | popMovement => exact h.popMovement hn
  | other op => exact h.other hn

end Sequenced

/-- An input that is newer than all accepted ones finds room and is accepted. -/
theorem Sequenced.accepts_movement (h : Sequenced s w) (hs : s ≠ 0) {i : Nat} {serverTick : UInt32}
    {datagram : DungeonUdpSession.Datagram} (hw : w.movements.InWindow i)
    (hn : w.next parse s (.movement i serverTick datagram) = some w')
    (hnew : ∀ a ∈ w.movements.accepted, a.1 < i)
    (hroom : w.session.pendingMovements.length < maxPendingDungeonMovements) :
    ∃ movement, w.movements.sent[i]? = some movement ∧
      w'.session.pendingMovements = w.session.pendingMovements ++ [⟨s, movement⟩] := by
  obtain ⟨movement, hsent, hat, -, rfl⟩ := next_movement h hn
  have hnewer := (h.movements.newer_iff hw hsent).mpr hnew
  refine ⟨movement, hsent, ?_⟩
  simp only
  rw [handlePlayerMovement_accepted (by rwa [hat]) hroom (by rwa [hat]), hat]

theorem Sequenced.accepts_attack (h : Sequenced s w) (hs : s ≠ 0) {i : Nat} {serverTick : UInt32}
    {datagram : DungeonUdpSession.Datagram} (hw : w.attacks.InWindow i)
    (hn : w.next parse s (.attack i serverTick datagram) = some w')
    (hnew : ∀ a ∈ w.attacks.accepted, a.1 < i)
    (hroom : w.session.pendingAttacks.length < maxPendingDungeonAttacks) :
    ∃ attack, w.attacks.sent[i]? = some attack ∧
      w'.session.pendingAttacks = w.session.pendingAttacks ++ [⟨s, attack⟩] := by
  obtain ⟨attack, hsent, hat, -, rfl⟩ := next_attack h hn
  have hnewer := (h.attacks.newer_iff hw hsent).mpr hnew
  refine ⟨attack, hsent, ?_⟩
  simp only
  rw [handlePlayerAttack_accepted (by rwa [hat]) hroom (by rwa [hat]), hat]

end Steps

/-! ## The movement processor -/

/-- While the queue holds movements, the processor does what the pop of a link does. -/
theorem processStep_popMovement {arithmetic : Arithmetic} {skillCatalog : SkillCatalog}
    {enemyCatalog : EnemyCatalog} {target : DungeonId} {order : List SessionId} {server : Server}
    {parse : Parse} {s : SessionId} {w w' : Link} {dungeonId : DungeonId}
    (hp : server.processing = .popMovements dungeonId w.latestMovements)
    (hsession : server.managers.udp.sessions[dungeonId]? = some w.session)
    (hne : w.session.pendingMovements ≠ []) (hn : w.next parse s .popMovement = some w') :
    let after := DungeonTickService.processStep arithmetic skillCatalog enemyCatalog target order server
    after.processing = .popMovements dungeonId w'.latestMovements ∧
      after.managers.udp.sessions[dungeonId]? = some w'.session := by
  obtain ⟨queued, rest, hq⟩ := List.exists_cons_of_ne_nil hne
  simp only [Link.next, DungeonUdpSession.tryPopMovement, hq] at hn
  obtain rfl := Option.some.inj hn
  simp only [DungeonTickService.processStep, hp, DungeonUdpManager.tryPopMovement,
    DungeonUdpManager.onSession, hsession, DungeonUdpSession.tryPopMovement, hq,
    ExtTreeMap.getElem?_insert_self, and_self]

/-- When the queue is empty, the processor goes on to apply what it has collected. -/
theorem processStep_applyMovements {arithmetic : Arithmetic} {skillCatalog : SkillCatalog}
    {enemyCatalog : EnemyCatalog} {target : DungeonId} {order : List SessionId} {server : Server}
    {session : DungeonUdpSession} {dungeonId : DungeonId} {latestMovements : IdMap PlayerMovementMessage}
    (hp : server.processing = .popMovements dungeonId latestMovements)
    (hsession : server.managers.udp.sessions[dungeonId]? = some session)
    (hempty : session.pendingMovements = []) :
    (DungeonTickService.processStep arithmetic skillCatalog enemyCatalog target order server).processing =
      .applyMovements dungeonId
        (order.filterMap fun sessionId => latestMovements[sessionId]?.map (sessionId, ·)) := by
  simp only [DungeonTickService.processStep, hp, DungeonUdpManager.tryPopMovement,
    DungeonUdpManager.onSession, hsession, DungeonUdpSession.tryPopMovement, hempty]

/-- The processor goes on to apply only when the queue is empty, and it applies what it has
collected, in the iteration order of the map. -/
theorem collected_of_processStep {arithmetic : Arithmetic} {skillCatalog : SkillCatalog}
    {enemyCatalog : EnemyCatalog} {target dungeonId : DungeonId} {order : List SessionId}
    {server : Server} {w : Link} {rest : List (SessionId × PlayerMovementMessage)}
    (hp : server.processing = .popMovements dungeonId w.latestMovements)
    (hsession : server.managers.udp.sessions[dungeonId]? = some w.session)
    (hdone : (DungeonTickService.processStep arithmetic skillCatalog enemyCatalog target order
      server).processing = .applyMovements dungeonId rest) :
    w.session.pendingMovements = [] ∧
      rest = order.filterMap fun sessionId => w.latestMovements[sessionId]?.map (sessionId, ·) := by
  by_cases hempty : w.session.pendingMovements = []
  · rw [processStep_applyMovements hp hsession hempty] at hdone
    exact ⟨hempty, (Processing.applyMovements.inj hdone).2.symm⟩
  · obtain ⟨w', hn⟩ : ∃ w', w.next (fun _ => none) 0 .popMovement = some w' := by
      simp only [Link.next]
      split <;> exact ⟨_, rfl⟩
    rw [(processStep_popMovement hp hsession hempty hn).1] at hdone
    cases hdone

theorem mem_collected {latestMovements : IdMap PlayerMovementMessage} {order : List SessionId}
    {s : SessionId} {movement : PlayerMovementMessage} :
    (s, movement) ∈ (order.filterMap fun sessionId =>
      latestMovements[sessionId]?.map (sessionId, ·)) ↔
        s ∈ order ∧ latestMovements[s]? = some movement := by
  simp only [List.mem_filterMap, Option.map_eq_some_iff]
  constructor
  · rintro ⟨x, hx, y, hy, heq⟩
    obtain ⟨rfl, rfl⟩ := Prod.mk.inj heq
    exact ⟨hx, hy⟩
  · rintro ⟨hs, hm⟩
    exact ⟨s, hs, movement, hm, rfl⟩

/-- What was popped last when the queue is empty is what was accepted last. -/
theorem Sequenced.newest {s : SessionId} {w : Link} (h : Sequenced s w) (hun : w.undisturbed = true)
    (hempty : w.session.pendingMovements = []) {movement : PlayerMovementMessage}
    (hlatest : w.latestMovements[s]? = some movement) :
    ∃ i, (i, movement) ∈ w.movements.accepted ∧ ∀ a ∈ w.movements.accepted, a.1 ≤ i := by
  have hqueued := h.queued
  rw [hempty, List.filter_nil, List.map_nil, List.append_nil] at hqueued
  have hlast := h.latest hun movement hlatest
  rw [← hqueued, List.getLast?_map, Option.map_eq_some_iff] at hlast
  obtain ⟨⟨i, x⟩, hlast, rfl⟩ := hlast
  exact ⟨i, List.mem_of_getLast? hlast, fun a ha => h.movements.le_getLast hlast ha⟩

/-! ## Runs -/

theorem sequenced_of_run {parse : Parse} {s : SessionId} {session : DungeonUdpSession}
    {ops : List LinkOp} {w : Link} (hb : Bookkept session) (hs : s ≠ 0) (hout : s ∉ session.endpoints)
    (hm : Meets (Link.next parse s) Recent
      { client := { dungeonId := session.dungeonId }, session } ops)
    (hr : run (Link.next parse s) { client := { dungeonId := session.dungeonId }, session } ops =
      some w) : Sequenced s w := by
  refine run_invariant (Sequenced s) (fun _ _ _ h hok hn => h.next hs hok hn) ?_ hm hr
  obtain ⟨hmovement, hattack, hqueued⟩ := hb.unregistered hout
  refine {
    bookkept := hb
    dungeon := rfl
    movements := hmovement ▸ .empty _
    attacks := hattack ▸ .empty _
    sentMovements := fun _ hsent => absurd hsent List.not_mem_nil
    sentAttacks := fun _ hsent => absurd hsent List.not_mem_nil
    queued := by simp [hqueued]
    latest := ?_ }
  intro _ movement hm
  cases hm

/-- The accepted inputs of one kind are in send order, so none is accepted twice, and each is the
input that was sent. -/
def Channel.AcceptedInOrder {α : Type} (channel : Channel α) : Prop :=
  (channel.accepted.Pairwise fun a b => a.1 < b.1) ∧
    ∀ a ∈ channel.accepted, channel.sent[a.1]? = some a.2

/-- When the movement processor has emptied the queue in one call, during which the participant
has not lost its registration, what it is about to apply for the participant is the newest
accepted movement. If the call took a movement of the participant at all, it is about to apply one,
whatever the iteration order of the map. -/
def AppliesNewest (s : SessionId) (w : Link) : Prop :=
  ∀ (arithmetic : Arithmetic) (skillCatalog : SkillCatalog) (enemyCatalog : EnemyCatalog)
    (target dungeonId : DungeonId) (order : List SessionId) (server : Server)
    (rest : List (SessionId × PlayerMovementMessage)),
    server.processing = .popMovements dungeonId w.latestMovements →
    server.managers.udp.sessions[dungeonId]? = some w.session →
    (DungeonTickService.processStep arithmetic skillCatalog enemyCatalog target order
      server).processing = .applyMovements dungeonId rest →
    (w.undisturbed = true → ∀ movement, (s, movement) ∈ rest →
      ∃ i, (i, movement) ∈ w.movements.accepted ∧ ∀ a ∈ w.movements.accepted, a.1 ≤ i) ∧
    (IterationOrder w.latestMovements order → s ∈ w.latestMovements →
      ∃ movement, (s, movement) ∈ rest)

/-- However the network loses, duplicates and reorders the inputs of a client, as long as those
delivered within one registration are fewer than `2 ^ 31 - 1` sends apart: the accepted ones are in
send order, an input that is newer than all accepted ones is accepted when its queue is not full,
and the movement applied in a tick is the newest accepted one. -/
theorem inputs_in_sequence {parse : Parse} {s : SessionId} {start session : DungeonUdpSession}
    {before : List SessionOp} {ops : List LinkOp} {w : Link} (ha : Allocated start)
    (hbefore : run (SessionOp.next parse) start before = some session) (hs : s ≠ 0)
    (hout : s ∉ session.endpoints)
    (hm : Meets (Link.next parse s) Recent
      { client := { dungeonId := session.dungeonId }, session } ops)
    (hr : run (Link.next parse s) { client := { dungeonId := session.dungeonId }, session } ops =
      some w) :
    w.movements.AcceptedInOrder ∧ w.attacks.AcceptedInOrder ∧
      (∀ (i : Nat) (serverTick : UInt32) (datagram : DungeonUdpSession.Datagram) (w' : Link),
        w.movements.InWindow i → w.next parse s (.movement i serverTick datagram) = some w' →
        (∀ a ∈ w.movements.accepted, a.1 < i) →
        w.session.pendingMovements.length < maxPendingDungeonMovements →
        ∃ movement, w.movements.sent[i]? = some movement ∧
          w'.session.pendingMovements = w.session.pendingMovements ++ [⟨s, movement⟩]) ∧
      (∀ (i : Nat) (serverTick : UInt32) (datagram : DungeonUdpSession.Datagram) (w' : Link),
        w.attacks.InWindow i → w.next parse s (.attack i serverTick datagram) = some w' →
        (∀ a ∈ w.attacks.accepted, a.1 < i) →
        w.session.pendingAttacks.length < maxPendingDungeonAttacks →
        ∃ attack, w.attacks.sent[i]? = some attack ∧
          w'.session.pendingAttacks = w.session.pendingAttacks ++ [⟨s, attack⟩]) ∧
      AppliesNewest s w := by
  have h := sequenced_of_run (bookkept_of_run ha hbefore) hs hout hm hr
  refine ⟨⟨h.movements.increasing, h.movements.authentic⟩,
    ⟨h.attacks.increasing, h.attacks.authentic⟩, ?_, ?_, ?_⟩
  · intro i serverTick datagram w' hw hn hnew hroom
    exact h.accepts_movement hs hw hn hnew hroom
  · intro i serverTick datagram w' hw hn hnew hroom
    exact h.accepts_attack hs hw hn hnew hroom
  · intro arithmetic skillCatalog enemyCatalog target dungeonId order server rest hp hsession hdone
    obtain ⟨hempty, rfl⟩ := collected_of_processStep hp hsession hdone
    refine ⟨?_, ?_⟩
    · intro hun movement hmem
      exact h.newest hun hempty (mem_collected.mp hmem).2
    · intro horder hin
      have hs : s ∈ order := horder.mem_iff.mpr (ExtTreeMap.mem_keys.mpr hin)
      exact ⟨_, mem_collected.mpr ⟨hs, ExtTreeMap.getElem?_eq_some_getElem hin⟩⟩

/-- The first participant greets and sends two movements and an attack. The second movement
arrives twice and before the first, the attack twice, and the processor empties the queue. -/
def reorderedCalls : List LinkOp :=
  [.other (.receive 0 ⟨firstEndpoint, 1, [], helloBytes 100 11⟩), .sendMovement ⟨0⟩ ⟨1065353216⟩ false,
    .sendAttack 7 ⟨1065353216⟩ ⟨0⟩, .sendMovement ⟨0⟩ ⟨1065353216⟩ false,
    .movement 1 0 ⟨firstEndpoint, 2, [100], movementBytes 2⟩,
    .movement 0 0 ⟨firstEndpoint, 3, [100], movementBytes 1⟩,
    .movement 1 0 ⟨firstEndpoint, 4, [100], movementBytes 2⟩,
    .attack 0 0 ⟨firstEndpoint, 5, [100], attackBytes 1⟩,
    .attack 0 0 ⟨firstEndpoint, 6, [100], attackBytes 1⟩, .beginTick, .popMovement]

theorem inputs_in_sequence_reorderedCalls :
    ∃ w, run (Link.next readDungeonMessage 100)
        { client := { dungeonId := 1 }, session := sessionForTwo } reorderedCalls = some w ∧
      w.movements.delivered = [1, 0, 1] ∧ w.movements.accepted.map (·.1) = [1] ∧
      w.attacks.accepted.map (·.1) = [0] ∧ w.latestMovements[100]?.map (·.sequence) = some 2 ∧
      w.movements.AcceptedInOrder ∧ AppliesNewest 100 w := by
  obtain ⟨w, hr⟩ : ∃ w, run (Link.next readDungeonMessage 100)
      { client := { dungeonId := 1 }, session := sessionForTwo } reorderedCalls = some w :=
    Option.isSome_iff_exists.mp (by decide)
  have hw : w.movements.delivered = [1, 0, 1] ∧ w.movements.accepted.map (·.1) = [1] ∧
      w.attacks.accepted.map (·.1) = [0] ∧ w.latestMovements[100]?.map (·.sequence) = some 2 := by
    cases hr
    decide
  have hm : Meets (Link.next readDungeonMessage 100) Recent
      { client := { dungeonId := 1 }, session := sessionForTwo } reorderedCalls := by decide
  have hstart : run (SessionOp.next readDungeonMessage) sessionForTwo [] = some sessionForTwo := rfl
  have h := inputs_in_sequence allocated_sessionForTwo hstart (by decide) (by decide) hm hr
  exact ⟨w, hr, hw.1, hw.2.1, hw.2.2.1, hw.2.2.2, h.1, h.2.2.2.2⟩

end DnfServer.Udp
