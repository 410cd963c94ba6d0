import DnfServer.Model.Manager

/-!
# The UDP session of one dungeon

`DungeonUdpSession` and the decoding part of `DungeonProtocol`. All functions that touch
the tokens, the endpoints and the input queues hold `stateMutex_` throughout, and the
receive handler runs on the strand of the session, so each is one atomic step. The
FlatBuffers library and the header it generates lie outside the repository: what they
make of the bytes of a datagram is the argument `parse`, and the decoders apply the
repository's own checks to its result. The snapshot pump is not part of this module.
-/

namespace DnfServer

open Std

abbrev DungeonUdpToken := UInt64

def dungeonProtocolVersion : UInt16 := 2

def maxPendingDungeonMovements : Nat := 256

def maxPendingDungeonAttacks : Nat := 256

/-- A single-precision number, by its bit pattern. -/
structure Single where
  bits : UInt32
  deriving DecidableEq, Repr

namespace Single

def isNegative (x : Single) : Bool := x.bits >>> 31 = 1

def exponent (x : Single) : Nat := (x.bits >>> 23 &&& 255).toNat

def fraction (x : Single) : Nat := (x.bits &&& 8388607).toNat

def isFinite (x : Single) : Bool := x.exponent ≠ 255

/-- The absolute value of a finite number, in units of the least positive one. -/
def magnitude (x : Single) : Nat :=
  if x.exponent = 0 then x.fraction else (8388608 + x.fraction) <<< (x.exponent - 1)

/-- A finite number, in the same units. -/
def value (x : Single) : Int := if x.isNegative then -x.magnitude else x.magnitude

/-- The number one, in the same units. -/
def one : Int := (1 <<< 149 : Nat)

/-- The square is positive after rounding to nearest: it exceeds half of the least positive
number. -/
def squareIsPositive (x : Single) : Bool := x.magnitude * x.magnitude > 1 <<< 148

end Single

structure PlayerMovementMessage where
  dungeonId : DungeonId
  sequence : UInt32
  moveX : Single
  moveY : Single
  jump : Bool
  deriving DecidableEq, Repr

structure PlayerAttackMessage where
  dungeonId : DungeonId
  sequence : UInt32
  skillId : SkillId
  directionX : Single
  directionY : Single
  deriving DecidableEq, Repr

structure UdpHelloMessage where
  dungeonId : DungeonId
  sessionId : SessionId
  token : DungeonUdpToken
  deriving DecidableEq, Repr

inductive UdpHelloResult where
  | success | invalidDungeon | authenticationFailed
  deriving DecidableEq, Repr

structure UdpHelloAckMessage where
  dungeonId : DungeonId
  result : UdpHelloResult
  serverTick : UInt32
  deriving DecidableEq, Repr

structure UdpHeartbeatMessage where
  dungeonId : DungeonId
  sessionId : SessionId
  deriving DecidableEq, Repr

/-- The payload union of a verified message, as far as the server reads it. -/
inductive DungeonPayload where
  | playerMovement (sequence : UInt32) (moveX moveY : Single) (jump : Bool)
  | playerAttack (sequence skillId : UInt32) (directionX directionY : Single)
  | udpHello (sessionId : SessionId) (token : DungeonUdpToken)
  | udpHeartbeat (sessionId : SessionId)
  | other
  deriving DecidableEq, Repr

/-- A message that the verifier has accepted. -/
structure DungeonMessage where
  protocolVersion : UInt16
  dungeonId : DungeonId
  payload : DungeonPayload

/-- Verification and access by the FlatBuffers library. -/
abbrev Parse := List UInt8 → Option DungeonMessage

/-! ## Decoding -/

def PlayerMovementMessage.isValid (movement : PlayerMovementMessage) : Bool :=
  movement.dungeonId != 0 && movement.moveX.isFinite && movement.moveY.isFinite &&
    movement.moveX.value ≥ -Single.one && movement.moveX.value ≤ Single.one &&
    movement.moveY.value ≥ -Single.one && movement.moveY.value ≤ Single.one

/-- The squared length of the direction is the sum of two rounded squares, which is positive
when one of them is. -/
def PlayerAttackMessage.isValid (attack : PlayerAttackMessage) : Bool :=
  attack.dungeonId != 0 && attack.skillId != 0 && attack.directionX.isFinite &&
    attack.directionY.isFinite && attack.directionX.value ≥ -Single.one &&
    attack.directionX.value ≤ Single.one && attack.directionY.value ≥ -Single.one &&
    attack.directionY.value ≤ Single.one &&
    (attack.directionX.squareIsPositive || attack.directionY.squareIsPositive)

def UdpHelloMessage.isValid (hello : UdpHelloMessage) : Bool :=
  hello.dungeonId != 0 && hello.sessionId != 0 && hello.token != 0

def UdpHeartbeatMessage.isValid (heartbeat : UdpHeartbeatMessage) : Bool :=
  heartbeat.dungeonId != 0 && heartbeat.sessionId != 0

/-- The common part of the decoders: a nonempty datagram that verifies, of this version. -/
def decodeMessage (parse : Parse) (bytes : List UInt8) : Option DungeonMessage :=
  if bytes.isEmpty then none
  else (parse bytes).filter fun message => message.protocolVersion = dungeonProtocolVersion

def decodePlayerMovement (parse : Parse) (bytes : List UInt8) : Option PlayerMovementMessage :=
  match decodeMessage parse bytes with
  | some { dungeonId, payload := .playerMovement sequence moveX moveY jump, .. } =>
    some { dungeonId, sequence, moveX, moveY, jump } |>.filter (·.isValid)
  | _ => none

def decodePlayerAttack (parse : Parse) (bytes : List UInt8) : Option PlayerAttackMessage :=
  match decodeMessage parse bytes with
  | some { dungeonId, payload := .playerAttack sequence skillId directionX directionY, .. } =>
    some { dungeonId, sequence, skillId, directionX, directionY } |>.filter (·.isValid)
  | _ => none

def decodeUdpHello (parse : Parse) (bytes : List UInt8) : Option UdpHelloMessage :=
  match decodeMessage parse bytes with
  | some { dungeonId, payload := .udpHello sessionId token, .. } =>
    some { dungeonId, sessionId, token } |>.filter (·.isValid)
  | _ => none

def decodeUdpHeartbeat (parse : Parse) (bytes : List UInt8) : Option UdpHeartbeatMessage :=
  match decodeMessage parse bytes with
  | some { dungeonId, payload := .udpHeartbeat sessionId, .. } =>
    some { dungeonId, sessionId } |>.filter (·.isValid)
  | _ => none

/-! ## The session -/

/-- The sender of a datagram, an IPv4 address and a port. -/
structure Endpoint where
  address : UInt32
  port : UInt16
  deriving DecidableEq, Repr

structure AuthenticatedPlayerMovement where
  sessionId : SessionId
  movement : PlayerMovementMessage
  deriving DecidableEq, Repr

structure AuthenticatedPlayerAttack where
  sessionId : SessionId
  attack : PlayerAttackMessage
  deriving DecidableEq, Repr

structure DungeonUdpSession where
  dungeonId : DungeonId
  port : UInt16
  tokens : IdMap DungeonUdpToken
  endpoints : IdMap Endpoint := ∅
  lastActivity : IdMap Int := ∅
  lastMovementSequences : IdMap UInt32 := ∅
  lastAttackSequences : IdMap UInt32 := ∅
  pendingMovements : List AuthenticatedPlayerMovement := []
  pendingAttacks : List AuthenticatedPlayerAttack := []
  stopped : Bool := false

def sequenceHalfRange : UInt32 := (1 : UInt32) <<< (31 : UInt32)

/-- Unsigned subtraction wraps, and only a lead of less than half the range is newer. -/
def isNewerSequence (candidate previous : UInt32) : Bool :=
  let distance := candidate - previous
  distance != 0 && distance < sequenceHalfRange

namespace DungeonUdpSession

def findToken (sessionId : SessionId) (session : DungeonUdpSession) : Option DungeonUdpToken :=
  session.tokens[sessionId]?

def removeParticipantRuntimeState (sessionId : SessionId) (session : DungeonUdpSession) :
    DungeonUdpSession :=
  { session with
    endpoints := session.endpoints.erase sessionId
    lastActivity := session.lastActivity.erase sessionId
    lastMovementSequences := session.lastMovementSequences.erase sessionId
    lastAttackSequences := session.lastAttackSequences.erase sessionId
    pendingMovements := session.pendingMovements.filter (·.sessionId ≠ sessionId)
    pendingAttacks := session.pendingAttacks.filter (·.sessionId ≠ sessionId) }

def disconnectParticipant (sessionId : SessionId) (session : DungeonUdpSession) :
    Bool × DungeonUdpSession :=
  if sessionId ∉ session.tokens then (false, session)
  else (true, session.removeParticipantRuntimeState sessionId)

def replaceParticipant (oldSessionId newSessionId : SessionId) (newToken : DungeonUdpToken)
    (session : DungeonUdpSession) : Bool × DungeonUdpSession :=
  if oldSessionId = 0 ∨ newSessionId = 0 ∨ newToken = 0 ∨ oldSessionId = newSessionId then
    (false, session)
  else if oldSessionId ∉ session.tokens ∨ newSessionId ∈ session.tokens then (false, session)
  else if session.tokens.toList.any (·.2 = newToken) then (false, session)
  else
    let session := session.removeParticipantRuntimeState oldSessionId
    (true, { session with
      tokens := (session.tokens.erase oldSessionId).insertIfNew newSessionId newToken })

def removeParticipant (sessionId : SessionId) (session : DungeonUdpSession) :
    Bool × DungeonUdpSession :=
  if sessionId ∉ session.tokens then (false, session)
  else
    let session := session.removeParticipantRuntimeState sessionId
    (true, { session with tokens := session.tokens.erase sessionId })

def allParticipantsAuthenticated (session : DungeonUdpSession) : Bool :=
  session.endpoints.size = session.tokens.size

def refreshAllActivity (now : Int) (session : DungeonUdpSession) : DungeonUdpSession :=
  { session with
    lastActivity := session.endpoints.keys.foldl (fun activity s => activity.insert s now)
      session.lastActivity }

/-- The sessions that have been idle for at least the timeout. -/
def inactiveSessions (idleTimeout now : Int) (session : DungeonUdpSession) : List SessionId :=
  (session.lastActivity.toList.filter fun activity => ¬ now - activity.2 < idleTimeout).map (·.1)

def removeInactiveEndpoints (idleTimeout now : Int) (session : DungeonUdpSession) :
    List SessionId × DungeonUdpSession :=
  if idleTimeout ≤ 0 then ([], session)
  else
    let removedSessions := session.inactiveSessions idleTimeout now
    (removedSessions, removedSessions.foldl (fun session s => session.removeParticipantRuntimeState s)
      session)

def tryPopMovement (session : DungeonUdpSession) :
    Option AuthenticatedPlayerMovement × DungeonUdpSession :=
  match session.pendingMovements with
  | [] => (none, session)
  | movement :: rest => (some movement, { session with pendingMovements := rest })

def tryPopAttack (session : DungeonUdpSession) :
    Option AuthenticatedPlayerAttack × DungeonUdpSession :=
  match session.pendingAttacks with
  | [] => (none, session)
  | attack :: rest => (some attack, { session with pendingAttacks := rest })

/-- `Stop` as far as the state of the participants is concerned. -/
def stop (session : DungeonUdpSession) : DungeonUdpSession := { session with stopped := true }

/-! ## Datagrams -/

def handleHello (sender : Endpoint) (now : Int) (hello : UdpHelloMessage)
    (session : DungeonUdpSession) : UdpHelloResult × DungeonUdpSession :=
  if session.tokens[hello.sessionId]? = some hello.token then
    match session.endpoints[hello.sessionId]? with
    | none => (.success, { session with
        endpoints := session.endpoints.insertIfNew hello.sessionId sender
        lastActivity := session.lastActivity.insert hello.sessionId now })
    | some endpoint =>
      if endpoint = sender then
        (.success, { session with lastActivity := session.lastActivity.insert hello.sessionId now })
      else (.authenticationFailed, session)
  else (.authenticationFailed, session)

def handleHeartbeat (sender : Endpoint) (now : Int) (heartbeat : UdpHeartbeatMessage)
    (session : DungeonUdpSession) : DungeonUdpSession :=
  if session.endpoints[heartbeat.sessionId]? = some sender then
    { session with lastActivity := session.lastActivity.insert heartbeat.sessionId now }
  else session

/-- The first session of the iteration order that is registered at the sender, `0` if there
is none. -/
def sessionAt (sender : Endpoint) (order : List SessionId) (session : DungeonUdpSession) :
    SessionId :=
  (order.find? fun s => session.endpoints[s]? = some sender).getD 0

def handlePlayerMovement (sender : Endpoint) (now : Int) (order : List SessionId)
    (movement : PlayerMovementMessage) (session : DungeonUdpSession) : DungeonUdpSession :=
  let sessionId := session.sessionAt sender order
  if sessionId = 0 then session
  else
    let session := { session with lastActivity := session.lastActivity.insert sessionId now }
    if session.pendingMovements.length ≥ maxPendingDungeonMovements then session
    else if session.lastMovementSequences[sessionId]?.any
        (fun previous => !isNewerSequence movement.sequence previous) then session
    else { session with
      lastMovementSequences := session.lastMovementSequences.insert sessionId movement.sequence
      pendingMovements := session.pendingMovements ++ [{ sessionId, movement }] }

def handlePlayerAttack (sender : Endpoint) (now : Int) (order : List SessionId)
    (attack : PlayerAttackMessage) (session : DungeonUdpSession) : DungeonUdpSession :=
  let sessionId := session.sessionAt sender order
  if sessionId = 0 then session
  else
    let session := { session with lastActivity := session.lastActivity.insert sessionId now }
    if session.pendingAttacks.length ≥ maxPendingDungeonAttacks then session
    else if session.lastAttackSequences[sessionId]?.any
        (fun previous => !isNewerSequence attack.sequence previous) then session
    else { session with
      lastAttackSequences := session.lastAttackSequences.insert sessionId attack.sequence
      pendingAttacks := session.pendingAttacks ++ [{ sessionId, attack }] }

/-- One received datagram: its sender, the clock reading of its handler, the iteration order
of the endpoints in it, and its bytes. -/
structure Datagram where
  sender : Endpoint
  now : Int
  order : List SessionId
  bytes : List UInt8

/-- The acknowledgement that `SendHelloAck` sends to the sender of the datagram. -/
def helloAck (requestedDungeonId : DungeonId) (result : UdpHelloResult) (serverTick : UInt32) :
    UdpHelloAckMessage :=
  { dungeonId := requestedDungeonId, result
    serverTick := if result = .success then serverTick else 0 }

/-- `HandleReceive` for a datagram received without an error. -/
def handleReceive (parse : Parse) (serverTick : UInt32) (datagram : Datagram)
    (session : DungeonUdpSession) : Option UdpHelloAckMessage × DungeonUdpSession :=
  if session.stopped then (none, session)
  else match decodeUdpHello parse datagram.bytes with
    | some hello =>
      if hello.dungeonId = session.dungeonId then
        let handled := session.handleHello datagram.sender datagram.now hello
        (some (helloAck hello.dungeonId handled.1 serverTick), handled.2)
      else (some (helloAck hello.dungeonId .invalidDungeon serverTick), session)
    | none =>
      match (decodePlayerMovement parse datagram.bytes).filter (·.dungeonId = session.dungeonId) with
      | some movement =>
        (none, session.handlePlayerMovement datagram.sender datagram.now datagram.order movement)
      | none =>
        match (decodePlayerAttack parse datagram.bytes).filter (·.dungeonId = session.dungeonId) with
        | some attack =>
          (none, session.handlePlayerAttack datagram.sender datagram.now datagram.order attack)
        | none =>
          match (decodeUdpHeartbeat parse datagram.bytes).filter
              (·.dungeonId = session.dungeonId) with
          | some heartbeat =>
            (none, session.handleHeartbeat datagram.sender datagram.now heartbeat)
          | none => (none, session)

end DungeonUdpSession

end DnfServer
