import DnfServer.Model.TcpSession

/-!
# The write queue of a session

The queue that `TcpSession` and `AuthTlsSession` share word for word, in the 64-bit arithmetic of the
source. A message is any value with a size. The two classes differ in how they close. `accepted`, `started`
and `written` are a record of the run.
-/

namespace DnfServer

inductive SessionKind where
  | tcp
  | authTls
  deriving DecidableEq

/-- The write limits of `NetworkSessionOptions`. -/
structure WriteLimits where
  maxPendingWriteMessages : UInt64 := 64
  maxPendingWriteBytes : UInt64 := 512 * 1024

structure WriteSide (α : Type) where
  options : WriteLimits
  writeQueue : List α := []
  pendingWriteBytes : UInt64 := 0
  closed : Bool := false
  /-- The calls of `RemoveSession`. -/
  removals : Nat := 0
  /-- The asynchronous writes whose completion has not run. -/
  writes : List α := []
  accepted : List α := []
  started : List α := []
  written : List α := []

namespace WriteSide

variable {α : Type} (size : α → UInt64) (kind : SessionKind)

/-- `TcpSession::CloseOnStrand` or `AuthTlsSession::Close`. -/
def close (side : WriteSide α) : WriteSide α :=
  if side.closed then side
  else match kind with
    | .tcp => { side with closed := true, removals := side.removals + 1 }
    | .authTls => { side with closed := true }

/-- `StartWrite`, which is only called when there is a front. -/
def startWrite (side : WriteSide α) : WriteSide α :=
  match side.writeQueue with
  | [] => side
  | front :: _ => { side with writes := side.writes ++ [front], started := side.started ++ [front] }

def queueWrite (data : α) (side : WriteSide α) : Bool × WriteSide α :=
  let messageLimitReached := UInt64.ofNat side.writeQueue.length ≥ side.options.maxPendingWriteMessages
  let byteLimitReached := size data > side.options.maxPendingWriteBytes ∨
    side.pendingWriteBytes > side.options.maxPendingWriteBytes - size data
  if messageLimitReached ∨ byteLimitReached then (false, side.close kind)
  else
    let queued := { side with
      pendingWriteBytes := side.pendingWriteBytes + size data
      writeQueue := side.writeQueue ++ [data]
      accepted := side.accepted ++ [data] }
    (true, if side.writeQueue.isEmpty then queued.startWrite else queued)

/-- The completion handler of a write. -/
def completeWrite (error : Bool) (side : WriteSide α) : WriteSide α :=
  let side := { side with writes := side.writes.tail }
  if error then side.close kind
  else match side.writeQueue with
    | [] => side
    | front :: writeQueue =>
      let side := { side with
        pendingWriteBytes := side.pendingWriteBytes - size front
        writeQueue
        written := side.written ++ [front] }
      if writeQueue.isEmpty then side else side.startWrite

inductive Event (α : Type) where
  | queueWrite (data : α)
  | completeWrite (error : Bool)
  /-- A deadline that has expired, or any other reason to close. -/
  | close

/-- A completion runs for a write that is outstanding. -/
def next (side : WriteSide α) : Event α → Option (WriteSide α)
  | .queueWrite data => some (side.queueWrite size kind data).2
  | .completeWrite error => if side.writes = [] then none else some (side.completeWrite size kind error)
  | .close => some (side.close kind)

end WriteSide

end DnfServer
