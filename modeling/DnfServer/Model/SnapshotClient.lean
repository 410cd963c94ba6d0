import DnfServer.Model.Snapshot
import Mathlib.Algebra.Order.Field.Rat

/-!
# Snapshots at a client

From the receive loop of `DungeonUdpService` over the mailbox to the buffer between whose last two
snapshots the view interpolates. Rational numbers stand for the doubles of the buffer.
-/

namespace DnfServer.Client

/-! ## The receive loop -/

structure ServerTickTracker where
  hasAcceptedTick : Bool := false
  lastAcceptedTick : UInt32 := 0

def ServerTickTracker.halfRange : UInt32 := (1 : UInt32) <<< 31

def ServerTickTracker.tryAccept (serverTick : UInt32) (tracker : ServerTickTracker) :
    Bool × ServerTickTracker :=
  if ¬ tracker.hasAcceptedTick then (true, { hasAcceptedTick := true, lastAcceptedTick := serverTick })
  else
    let forwardDistance := serverTick - tracker.lastAcceptedTick
    if forwardDistance = 0 ∨ forwardDistance ≥ halfRange then (false, tracker)
    else (true, { tracker with lastAcceptedTick := serverTick })

/-- A datagram, and what the two decoders make of it. -/
structure Received where
  size : Nat
  helloAck : Option UdpHelloAckMessage
  snapshot : Option DungeonSnapshotData

/-- What `ReceiveLoopAsync` reads and writes of a `DungeonUdpService`. -/
structure SnapshotReceiver where
  dungeonId : DungeonId
  authenticated : Bool := false
  snapshotTickTracker : ServerTickTracker := {}

/-- `ConnectAsync`, which begins with a `Disconnect`, up to the start of the loop. -/
def SnapshotReceiver.connect (dungeonId : DungeonId) : SnapshotReceiver := { dungeonId }

/-- One round of `ReceiveLoopAsync`, with the snapshot that it reports. -/
def SnapshotReceiver.receive (received : Received) (receiver : SnapshotReceiver) :
    Option DungeonSnapshotData × SnapshotReceiver :=
  if received.size > maxDatagramSize then (none, receiver)
  else match received.helloAck.filter (·.dungeonId = receiver.dungeonId) with
    | some ack =>
      (none, if ack.result = .success then { receiver with authenticated := true } else receiver)
    | none => match received.snapshot with
      | none => (none, receiver)
      | some snapshot =>
        if receiver.authenticated ∧ snapshot.dungeonId = receiver.dungeonId then
          let accepted := receiver.snapshotTickTracker.tryAccept snapshot.serverTick
          (if accepted.1 then some snapshot else none,
            { receiver with snapshotTickTracker := accepted.2 })
        else (none, receiver)

/-! ## The mailbox -/

structure DungeonUdpMailbox where
  snapshot : Option DungeonSnapshotData := none
  error : Option String := none

def DungeonUdpMailbox.publishSnapshot (snapshot : DungeonSnapshotData) (mailbox : DungeonUdpMailbox) :
    DungeonUdpMailbox :=
  { mailbox with snapshot := some snapshot }

def DungeonUdpMailbox.publishError (error : String) (mailbox : DungeonUdpMailbox) : DungeonUdpMailbox :=
  { mailbox with error := some error }

def DungeonUdpMailbox.drain (mailbox : DungeonUdpMailbox) :
    (Option DungeonSnapshotData × Option String) × DungeonUdpMailbox :=
  ((mailbox.snapshot, mailbox.error), {})

/-! ## The buffer -/

structure DungeonSnapshotBuffer where
  ticksPerSecond : Rat
  positive : 0 < ticksPerSecond
  previous : Option DungeonSnapshotData := none
  current : Option DungeonSnapshotData := none
  elapsedSeconds : Rat := 0

namespace DungeonSnapshotBuffer

def maxInterpolationSeconds : Rat := 1 / 4

def push (snapshot : DungeonSnapshotData) (buffer : DungeonSnapshotBuffer) : DungeonSnapshotBuffer :=
  { buffer with
    previous := buffer.current.filter (·.dungeonId = snapshot.dungeonId)
    current := some snapshot
    elapsedSeconds := 0 }

def tickDistance (previous current : DungeonSnapshotData) : UInt32 :=
  current.serverTick - previous.serverTick

def interpolationDuration (buffer : DungeonSnapshotBuffer) : Rat :=
  match buffer.previous, buffer.current with
  | some previous, some current =>
    if tickDistance previous current = 0 ∨ tickDistance previous current ≥ 0x80000000 then 0
    else min ((tickDistance previous current).toNat / buffer.ticksPerSecond) maxInterpolationSeconds
  | _, _ => 0

/-- `Advance`, or nothing where it throws. -/
def advance (deltaSeconds : Rat) (buffer : DungeonSnapshotBuffer) : Option (Bool × DungeonSnapshotBuffer) :=
  if deltaSeconds < 0 then none
  else
    let duration := buffer.interpolationDuration
    if duration ≤ 0 ∨ buffer.elapsedSeconds ≥ duration then some (false, buffer)
    else some (true, { buffer with elapsedSeconds := min (buffer.elapsedSeconds + deltaSeconds) duration })

def reset (buffer : DungeonSnapshotBuffer) : DungeonSnapshotBuffer :=
  { buffer with previous := none, current := none, elapsedSeconds := 0 }

end DungeonSnapshotBuffer

/-! ## The client -/

inductive BufferStep where
  | push (snapshot : DungeonSnapshotData)
  | advance (deltaSeconds : Rat)
  | reset

def DungeonSnapshotBuffer.step (buffer : DungeonSnapshotBuffer) : BufferStep → DungeonSnapshotBuffer
  | .push snapshot => buffer.push snapshot
  | .advance deltaSeconds => ((buffer.advance deltaSeconds).map (·.2)).getD buffer
  | .reset => buffer.reset

/-- One connection with the mailbox and the buffer that its snapshots go to. -/
structure SnapshotView where
  receiver : SnapshotReceiver
  mailbox : DungeonUdpMailbox := {}
  buffer : DungeonSnapshotBuffer

inductive ViewStep where
  | receive (received : Received)
  | publishError (error : String)
  | applyPendingUdpData
  | process (deltaSeconds : Rat)
  | clearStaticData

namespace SnapshotView

/-- What a step does to the buffer. -/
def bufferStep (view : SnapshotView) : ViewStep → Option BufferStep
  | .receive _ | .publishError _ => none
  | .applyPendingUdpData => view.mailbox.drain.1.1.map .push
  | .process deltaSeconds => some (.advance deltaSeconds)
  | .clearStaticData => some .reset

def step (view : SnapshotView) (step : ViewStep) : SnapshotView :=
  let view := { view with buffer := (view.bufferStep step).elim view.buffer view.buffer.step }
  match step with
  | .receive received =>
    let out := view.receiver.receive received
    { view with receiver := out.2, mailbox := out.1.elim view.mailbox view.mailbox.publishSnapshot }
  | .publishError error => { view with mailbox := view.mailbox.publishError error }
  | .applyPendingUdpData => { view with mailbox := view.mailbox.drain.2 }
  | .process _ | .clearStaticData => view

end SnapshotView

end DnfServer.Client
