import DnfServer.Model.Snapshot

/-!
# The sending of snapshots by a UDP session

What the tick thread, the strand and `Stop` do with the snapshot of a `DungeonUdpSession`, one step for
each lock they take. `SendSnapshot` looks at `stopped_` once more before it locks; nothing resets the flag,
so that one look under the lock says the same. The iteration order of the endpoints comes with the step
that copies them. `accepted`, `settled`, `finished`, `active` and `sent` are a record of the run.
-/

namespace DnfServer

/-- The call that a handler of the pump makes next. -/
inductive PumpPlace where
  /-- `PumpSnapshotOnStrand` -/
  | pump
  /-- Its branch for a stopped session. -/
  | discard
  | take
  | copy
  /-- `SendSnapshotToNextEndpoint` -/
  | send
  /-- `FinishSnapshotOnStrand` -/
  | finish
  deriving DecidableEq

inductive StopPlace where
  | idle | exchanged | cleared | closed
  deriving DecidableEq

inductive SnapshotFate where
  | replaced | taken | discarded
  deriving DecidableEq

/-- A snapshot that the pump has taken. -/
structure SnapshotBroadcast where
  snapshot : List UInt8
  /-- The endpoints when it was taken, when they were copied, and whether they changed in between. -/
  registered : List Endpoint
  copied : List Endpoint := []
  changed : Bool := false
  destinations : List Endpoint := []
  issued : List Endpoint := []
  deriving DecidableEq

structure SnapshotSender where
  pump : SnapshotPump := {}
  snapshotPending : Bool := false
  snapshotSendInProgress : Bool := false
  sentSnapshotDatagramCount : Nat := 0
  snapshotSendErrorCount : Nat := 0
  endpoints : IdMap Endpoint := ∅
  activeSnapshot : Option (List UInt8) := none
  snapshotDestinations : List Endpoint := []
  nextSnapshotDestination : Nat := 0
  /-- `SendSnapshot` has still to dispatch the pump. -/
  dispatching : Bool := false
  /-- The pumps that wait for the strand. -/
  pumps : Nat := 0
  running : Option PumpPlace := none
  /-- The sends whose completion has not run. -/
  sends : List (List UInt8 × Endpoint) := []
  stopping : StopPlace := .idle
  accepted : List (List UInt8) := []
  settled : List (List UInt8 × SnapshotFate) := []
  finished : List SnapshotBroadcast := []
  active : Option SnapshotBroadcast := none
  sent : List (List UInt8 × Endpoint) := []

namespace SnapshotSender

/-- The pending snapshot goes. -/
def settle (fate : SnapshotFate) (sender : SnapshotSender) : List (List UInt8 × SnapshotFate) :=
  sender.settled ++ (sender.pump.pendingSnapshot.map (·, fate)).toList

def addresses (sender : SnapshotSender) : List Endpoint := sender.endpoints.toList.map (·.2)

/-- `SendSnapshot` up to the dispatch. -/
def sendSnapshot (bytes : List UInt8) (sender : SnapshotSender) : Bool × SnapshotSender :=
  let out := sender.pump.sendSnapshot bytes
  if out.1 then
    (true, { sender with
      pump := out.2
      snapshotPending := true
      dispatching := !sender.pump.snapshotPumpScheduled
      accepted := sender.accepted ++ [bytes]
      settled := sender.settle .replaced })
  else (false, { sender with pump := out.2 })

/-- The part of `Stop` and of the pump of a stopped session that drops the pending snapshot. -/
def dropPending (sender : SnapshotSender) : SnapshotSender :=
  { sender with
    pump := { sender.pump with pendingSnapshot := none, snapshotPumpScheduled := false }
    snapshotPending := false
    settled := sender.settle .discarded }

/-- `PumpSnapshotOnStrand` under the lock. -/
def takePending (sender : SnapshotSender) : SnapshotSender :=
  match sender.pump.pendingSnapshot with
  | none => { sender with
      pump := { sender.pump with snapshotPumpScheduled := false }
      activeSnapshot := none
      snapshotPending := false
      snapshotSendInProgress := false
      running := none }
  | some snapshot => { sender with
      pump := { sender.pump with pendingSnapshot := none }
      activeSnapshot := some snapshot
      snapshotPending := false
      snapshotSendInProgress := true
      running := some .copy
      settled := sender.settle .taken
      active := some { snapshot, registered := sender.addresses } }

def sendToNextEndpoint (sender : SnapshotSender) : SnapshotSender :=
  if sender.pump.stopped ∨ sender.nextSnapshotDestination ≥ sender.snapshotDestinations.length then
    { sender with
      activeSnapshot := none
      snapshotDestinations := []
      nextSnapshotDestination := 0
      running := some .finish
      finished := sender.finished ++ sender.active.toList
      active := none }
  else
    let sends := (sender.snapshotDestinations[sender.nextSnapshotDestination]?).toList.map
      (sender.activeSnapshot.getD [], ·)
    { sender with
      running := none
      sends := sender.sends ++ sends
      active := sender.active.map fun broadcast =>
        { broadcast with issued := broadcast.issued ++ sends.map (·.2) }
      sent := sender.sent ++ sends }

/-- The next call of the handler on the strand. -/
def advance (order : List Endpoint) (place : PumpPlace) (sender : SnapshotSender) : Option SnapshotSender :=
  match place with
  | .pump => some { sender with running := some (if sender.pump.stopped then .discard else .take) }
  | .discard => some { sender.dropPending with snapshotSendInProgress := false, running := none }
  | .take => some sender.takePending
  | .copy =>
    if order.Perm sender.addresses then some { sender with
      snapshotDestinations := order
      nextSnapshotDestination := 0
      running := some .send
      active := sender.active.map fun broadcast =>
        { broadcast with copied := sender.addresses, destinations := order } }
    else none
  | .send => some sender.sendToNextEndpoint
  | .finish => some { sender with snapshotSendInProgress := false, running := some .pump }

/-- The completion of a send, up to `SendSnapshotToNextEndpoint`. -/
def completeSend (index : Nat) (error : Bool) (sender : SnapshotSender) : SnapshotSender :=
  { sender with
    sentSnapshotDatagramCount := sender.sentSnapshotDatagramCount + if error then 0 else 1
    snapshotSendErrorCount := sender.snapshotSendErrorCount + if error then 1 else 0
    nextSnapshotDestination := sender.nextSnapshotDestination + 1
    sends := sender.sends.eraseIdx index
    running := some .send }

end SnapshotSender

inductive SenderStep where
  | sendSnapshot (bytes : List UInt8)
  | dispatchPump
  | beginPump
  | advance (order : List Endpoint)
  | completeSend (index : Nat) (error : Bool)
  /-- `Stop` sets the flag, drops the pending snapshot and closes the socket. -/
  | stop
  | clearPending
  | closeSocket
  /-- A client registers or an endpoint is removed. -/
  | setEndpoints (endpoints : IdMap Endpoint)

/-- The strand runs one handler at a time, and the tick thread makes one call after the other. -/
def SnapshotSender.next (sender : SnapshotSender) : SenderStep → Option SnapshotSender
  | .sendSnapshot bytes => if sender.dispatching then none else some (sender.sendSnapshot bytes).2
  | .dispatchPump =>
    if sender.dispatching then some { sender with dispatching := false, pumps := sender.pumps + 1 }
    else none
  | .beginPump =>
    if sender.running = none ∧ sender.pumps ≠ 0 then
      some { sender with pumps := sender.pumps - 1, running := some .pump }
    else none
  | .advance order => sender.running.bind fun place => sender.advance order place
  | .completeSend index error =>
    if sender.running = none ∧ index < sender.sends.length then some (sender.completeSend index error)
    else none
  | .stop =>
    if sender.pump.stopped then some sender
    else some { sender with pump := { sender.pump with stopped := true }, stopping := .exchanged }
  | .clearPending =>
    if sender.stopping = .exchanged then some { sender.dropPending with stopping := .cleared } else none
  | .closeSocket =>
    if sender.stopping = .cleared ∧ sender.running = none then some { sender with stopping := .closed }
    else none
  | .setEndpoints endpoints => some { sender with
      endpoints
      active := if sender.running = some .copy then
          sender.active.map fun broadcast => { broadcast with changed := true }
        else sender.active }

end DnfServer
