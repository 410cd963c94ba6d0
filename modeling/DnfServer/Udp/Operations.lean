import DnfServer.Library.Runs
import DnfServer.Model.Datagrams
import DnfServer.Udp.Effects

/-!
# The operations on one UDP session

A UDP session is a state machine: datagrams arrive on its socket, and the manager and the
tick call its functions. All of them hold the same mutex, so an interleaving is a list of
operations. The clock readings and the iteration orders of the endpoints are arguments of
the operations that meet them.
-/

namespace DnfServer.Udp

open Std DnfServer.Library
set_option autoImplicit false

inductive SessionOp where
  | receive (serverTick : UInt32) (datagram : DungeonUdpSession.Datagram)
  | disconnectParticipant (sessionId : SessionId)
  | replaceParticipant (oldSessionId newSessionId : SessionId) (newToken : DungeonUdpToken)
  | removeParticipant (sessionId : SessionId)
  | refreshAllActivity (now : Int)
  | removeInactiveEndpoints (idleTimeout now : Int)
  | tryPopMovement
  | tryPopAttack
  | stop

namespace SessionOp

/-- The effect of one operation. -/
def apply (parse : Parse) (session : DungeonUdpSession) : SessionOp → DungeonUdpSession
  | .receive serverTick datagram => (session.handleReceive parse serverTick datagram).2
  | .disconnectParticipant s => (session.disconnectParticipant s).2
  | .replaceParticipant old new token => (session.replaceParticipant old new token).2
  | .removeParticipant s => (session.removeParticipant s).2
  | .refreshAllActivity now => session.refreshAllActivity now
  | .removeInactiveEndpoints idleTimeout now => (session.removeInactiveEndpoints idleTimeout now).2
  | .tryPopMovement => session.tryPopMovement.2
  | .tryPopAttack => session.tryPopAttack.2
  | .stop => session.stop

/-- The handler of a datagram walks the endpoints in an order of the map. -/
def Enabled (session : DungeonUdpSession) : SessionOp → Prop
  | .receive _ datagram => IterationOrder session.endpoints datagram.order
  | _ => True

instance (session : DungeonUdpSession) : (op : SessionOp) → Decidable (op.Enabled session)
  | .receive _ datagram =>
    inferInstanceAs (Decidable (IterationOrder session.endpoints datagram.order))
  | .disconnectParticipant _ | .replaceParticipant _ _ _ | .removeParticipant _
  | .refreshAllActivity _ | .removeInactiveEndpoints _ _ | .tryPopMovement
  | .tryPopAttack | .stop => instDecidableTrue

def next (parse : Parse) (session : DungeonUdpSession) (op : SessionOp) :
    Option DungeonUdpSession :=
  if op.Enabled session then some (op.apply parse session) else none

end SessionOp

/-- The session is one that `Allocate` has just put into its manager. -/
def Allocated (session : DungeonUdpSession) : Prop :=
  ∃ (manager : DungeonUdpManager) (participants : List SessionId) (port : UInt16)
    (draws : List DungeonUdpToken) (after : DungeonUdpManager),
    manager.allocate session.dungeonId participants (some port) draws = some (some port, after) ∧
      after.sessions[session.dungeonId]? = some session

/-- The UDP session of dungeon `1` as `Allocate` makes it for two participants. -/
def sessionForTwo : DungeonUdpSession where
  dungeonId := 1
  port := 7000
  tokens := (ExtTreeMap.insertIfNew ∅ 100 11).insertIfNew 101 12

theorem allocated_sessionForTwo : Allocated sessionForTwo := by
  refine ⟨{}, [100, 101], 7000, [11, 12], _, rfl, ?_⟩
  simp only [sessionForTwo]
  grind

def firstEndpoint : Endpoint := { address := 0x7f000001, port := 50000 }

def secondEndpoint : Endpoint := { address := 0x7f000001, port := 50001 }

/-! ## What a datagram can do -/

theorem sessionAt_registered {session : DungeonUdpSession} {sender : Endpoint}
    {order : List SessionId} (h : session.sessionAt sender order ≠ 0) :
    session.endpoints[session.sessionAt sender order]? = some sender := by
  unfold DungeonUdpSession.sessionAt at h ⊢
  cases hf : order.find? fun s => session.endpoints[s]? = some sender with
  | none => simp [hf] at h
  | some s => simpa using List.find?_some hf

/-- The session after a datagram: unchanged, with a new endpoint, with a new reading of the
activity of a registered sender, or with one more input of it. -/
inductive Received (parse : Parse) (session : DungeonUdpSession)
    (datagram : DungeonUdpSession.Datagram) : DungeonUdpSession → Prop
  | ignored : Received parse session datagram session
  | registered (hello : UdpHelloMessage) (hd : decodeUdpHello parse datagram.bytes = some hello)
      (hid : hello.dungeonId = session.dungeonId)
      (ht : session.tokens[hello.sessionId]? = some hello.token)
      (hnew : session.endpoints[hello.sessionId]? = none) :
      Received parse session datagram { session with
        endpoints := session.endpoints.insert hello.sessionId datagram.sender
        lastActivity := session.lastActivity.insert hello.sessionId datagram.now }
  | active (s : SessionId) (hs : session.endpoints[s]? = some datagram.sender) :
      Received parse session datagram
        { session with lastActivity := session.lastActivity.insert s datagram.now }
  | moved (s : SessionId) (movement : PlayerMovementMessage)
      (hs : session.endpoints[s]? = some datagram.sender)
      (hat : s = session.sessionAt datagram.sender datagram.order)
      (hd : decodePlayerMovement parse datagram.bytes = some movement)
      (hl : session.pendingMovements.length < maxPendingDungeonMovements)
      (hn : ∀ previous, session.lastMovementSequences[s]? = some previous →
        isNewerSequence movement.sequence previous = true)
      (hid : movement.dungeonId = session.dungeonId) :
      Received parse session datagram { session with
        lastActivity := session.lastActivity.insert s datagram.now
        lastMovementSequences := session.lastMovementSequences.insert s movement.sequence
        pendingMovements := session.pendingMovements ++ [⟨s, movement⟩] }
  | attacked (s : SessionId) (attack : PlayerAttackMessage)
      (hs : session.endpoints[s]? = some datagram.sender)
      (hat : s = session.sessionAt datagram.sender datagram.order)
      (hd : decodePlayerAttack parse datagram.bytes = some attack)
      (hl : session.pendingAttacks.length < maxPendingDungeonAttacks)
      (hn : ∀ previous, session.lastAttackSequences[s]? = some previous →
        isNewerSequence attack.sequence previous = true)
      (hid : attack.dungeonId = session.dungeonId) :
      Received parse session datagram { session with
        lastActivity := session.lastActivity.insert s datagram.now
        lastAttackSequences := session.lastAttackSequences.insert s attack.sequence
        pendingAttacks := session.pendingAttacks ++ [⟨s, attack⟩] }

section Datagrams

variable {parse : Parse} {session : DungeonUdpSession} {datagram : DungeonUdpSession.Datagram}

theorem received_hello {hello : UdpHelloMessage}
    (hd : decodeUdpHello parse datagram.bytes = some hello)
    (hid : hello.dungeonId = session.dungeonId) :
    Received parse session datagram
      (session.handleHello datagram.sender datagram.now hello).2 := by
  unfold DungeonUdpSession.handleHello
  split
  · rename_i ht
    cases hnew : session.endpoints[hello.sessionId]? with
    | none =>
      have hinsert : session.endpoints.insertIfNew hello.sessionId datagram.sender =
          session.endpoints.insert hello.sessionId datagram.sender := by
        ext k v
        grind
      simp only [hinsert]
      exact .registered hello hd hid ht hnew
    | some endpoint =>
      by_cases he : endpoint = datagram.sender
      · simp only [if_pos he]
        exact .active hello.sessionId (he ▸ hnew)
      · simp only [if_neg he]
        exact .ignored
  · exact .ignored

theorem received_movement {movement : PlayerMovementMessage}
    (hd : decodePlayerMovement parse datagram.bytes = some movement)
    (hid : movement.dungeonId = session.dungeonId) :
    Received parse session datagram
      (session.handlePlayerMovement datagram.sender datagram.now datagram.order movement) := by
  unfold DungeonUdpSession.handlePlayerMovement
  simp only
  split
  · exact .ignored
  · rename_i h0
    have hs := sessionAt_registered h0
    split
    · exact .active _ hs
    · rename_i hl
      split
      · exact .active _ hs
      · rename_i hn
        refine .moved _ movement hs rfl hd (by simpa using hl) ?_ hid
        intro previous hp
        simpa [hp] using hn

theorem received_attack {attack : PlayerAttackMessage}
    (hd : decodePlayerAttack parse datagram.bytes = some attack)
    (hid : attack.dungeonId = session.dungeonId) :
    Received parse session datagram
      (session.handlePlayerAttack datagram.sender datagram.now datagram.order attack) := by
  unfold DungeonUdpSession.handlePlayerAttack
  simp only
  split
  · exact .ignored
  · rename_i h0
    have hs := sessionAt_registered h0
    split
    · exact .active _ hs
    · rename_i hl
      split
      · exact .active _ hs
      · rename_i hn
        refine .attacked _ attack hs rfl hd (by simpa using hl) ?_ hid
        intro previous hp
        simpa [hp] using hn

/-- What `HandleReceive` can do. -/
theorem received_of_receive (parse : Parse) (serverTick : UInt32) (session : DungeonUdpSession)
    (datagram : DungeonUdpSession.Datagram) :
    Received parse session datagram (session.handleReceive parse serverTick datagram).2 := by
  unfold DungeonUdpSession.handleReceive
  split
  · exact .ignored
  · split
    · rename_i hello hd
      split
      · rename_i hid
        exact received_hello hd hid
      · exact .ignored
    · split
      · rename_i movement hd
        obtain ⟨hd, hid⟩ := Option.filter_eq_some_iff.mp hd
        exact received_movement hd (by simpa using hid)
      · split
        · rename_i attack hd
          obtain ⟨hd, hid⟩ := Option.filter_eq_some_iff.mp hd
          exact received_attack hd (by simpa using hid)
        · split
          · rename_i heartbeat hd
            unfold DungeonUdpSession.handleHeartbeat
            split
            · rename_i hs
              exact .active _ hs
            · exact .ignored
          · exact .ignored

/-! ### Inputs -/

theorem decodeUdpHello_of_movement {bytes : List UInt8} {movement : PlayerMovementMessage}
    (h : decodePlayerMovement parse bytes = some movement) : decodeUdpHello parse bytes = none := by
  unfold decodePlayerMovement at h
  unfold decodeUdpHello
  split at h
  · rename_i he
    rw [he]
  · cases h

theorem decodePlayerMovement_of_attack {bytes : List UInt8} {attack : PlayerAttackMessage}
    (h : decodePlayerAttack parse bytes = some attack) :
    decodeUdpHello parse bytes = none ∧ decodePlayerMovement parse bytes = none := by
  unfold decodePlayerAttack at h
  unfold decodeUdpHello decodePlayerMovement
  split at h
  · rename_i he
    rw [he]
    exact ⟨rfl, rfl⟩
  · cases h

/-- A movement of this dungeon goes to its handler. -/
theorem handleReceive_movement {movement : PlayerMovementMessage} (hrun : session.stopped = false)
    (hd : decodePlayerMovement parse datagram.bytes = some movement)
    (hid : movement.dungeonId = session.dungeonId) (serverTick : UInt32) :
    (session.handleReceive parse serverTick datagram).2 =
      session.handlePlayerMovement datagram.sender datagram.now datagram.order movement := by
  have hfilter : (decodePlayerMovement parse datagram.bytes).filter
      (·.dungeonId = session.dungeonId) = some movement := by
    rw [hd, Option.filter_some_pos (by simpa using hid)]
  rw [DungeonUdpSession.handleReceive, if_neg (by simp [hrun]), decodeUdpHello_of_movement hd]
  simp only [hfilter]

/-- An attack of this dungeon goes to its handler. -/
theorem handleReceive_attack {attack : PlayerAttackMessage} (hrun : session.stopped = false)
    (hd : decodePlayerAttack parse datagram.bytes = some attack)
    (hid : attack.dungeonId = session.dungeonId) (serverTick : UInt32) :
    (session.handleReceive parse serverTick datagram).2 =
      session.handlePlayerAttack datagram.sender datagram.now datagram.order attack := by
  obtain ⟨hhello, hmovement⟩ := decodePlayerMovement_of_attack hd
  have hfilter : (decodePlayerAttack parse datagram.bytes).filter
      (·.dungeonId = session.dungeonId) = some attack := by
    rw [hd, Option.filter_some_pos (by simpa using hid)]
  rw [DungeonUdpSession.handleReceive, if_neg (by simp [hrun]), hhello]
  simp only [hmovement, Option.filter_none, hfilter]

/-- A movement of a registered sender is queued when there is room and it is newer than the last
one. -/
theorem handlePlayerMovement_accepted {sender : Endpoint} {now : Int} {order : List SessionId}
    {movement : PlayerMovementMessage} (h0 : session.sessionAt sender order ≠ 0)
    (hl : session.pendingMovements.length < maxPendingDungeonMovements)
    (hn : ∀ previous, session.lastMovementSequences[session.sessionAt sender order]? = some previous →
      isNewerSequence movement.sequence previous = true) :
    session.handlePlayerMovement sender now order movement = { session with
      lastActivity := session.lastActivity.insert (session.sessionAt sender order) now
      lastMovementSequences :=
        session.lastMovementSequences.insert (session.sessionAt sender order) movement.sequence
      pendingMovements := session.pendingMovements ++ [⟨session.sessionAt sender order, movement⟩] } := by
  have hany : ¬ session.lastMovementSequences[session.sessionAt sender order]?.any
      (fun previous => !isNewerSequence movement.sequence previous) := by
    cases hp : session.lastMovementSequences[session.sessionAt sender order]? with
    | none => simp
    | some previous => simp [hn previous hp]
  simp only [DungeonUdpSession.handlePlayerMovement, if_neg h0, if_neg (Nat.not_le.mpr hl), if_neg hany]

theorem handlePlayerAttack_accepted {sender : Endpoint} {now : Int} {order : List SessionId}
    {attack : PlayerAttackMessage} (h0 : session.sessionAt sender order ≠ 0)
    (hl : session.pendingAttacks.length < maxPendingDungeonAttacks)
    (hn : ∀ previous, session.lastAttackSequences[session.sessionAt sender order]? = some previous →
      isNewerSequence attack.sequence previous = true) :
    session.handlePlayerAttack sender now order attack = { session with
      lastActivity := session.lastActivity.insert (session.sessionAt sender order) now
      lastAttackSequences :=
        session.lastAttackSequences.insert (session.sessionAt sender order) attack.sequence
      pendingAttacks := session.pendingAttacks ++ [⟨session.sessionAt sender order, attack⟩] } := by
  have hany : ¬ session.lastAttackSequences[session.sessionAt sender order]?.any
      (fun previous => !isNewerSequence attack.sequence previous) := by
    cases hp : session.lastAttackSequences[session.sessionAt sender order]? with
    | none => simp
    | some previous => simp [hn previous hp]
  simp only [DungeonUdpSession.handlePlayerAttack, if_neg h0, if_neg (Nat.not_le.mpr hl), if_neg hany]

end Datagrams

end DnfServer.Udp
