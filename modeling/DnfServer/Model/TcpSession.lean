import DnfServer.Model.SessionAuth

/-!
# A TCP session of the game server

`TcpSession` with its deadlines, and the part of `PacketDispatcher` that is asynchronous. Handlers
run on the strand of the session one after the other; the completion of a login runs on another
thread, and so does what comes between its two steps. `DispatchNextPacket` is a step of its own, so
that a completion can come between it and the handler that calls it.

The answers of the managers come with the events: the payload that a request handler encodes, and the
result of `RegisterAuthenticatedPlayer`. A generation counter does not come round while a wait of
its deadline is to be handled. `calls`, `requests` and `written` are a record of the run.
-/

namespace DnfServer

open Std

structure NetworkSessionOptions where
  maxPendingWriteMessages : Nat := 64
  maxPendingWriteBytes : Nat := 524288
  deriving DecidableEq, Repr

/-! ## Deadlines -/

/-- A wait whose handler has not run. Whether a later start or cancel has come is a record of the
run; the handler only knows the generation. -/
structure DeadlineWait where
  generation : Nat
  superseded : Bool := false
  deriving DecidableEq, Repr

structure SessionDeadline where
  generation : Nat := 0
  waits : List DeadlineWait := []
  deriving DecidableEq, Repr

namespace SessionDeadline

def supersede (waits : List DeadlineWait) : List DeadlineWait :=
  waits.map fun wait => { wait with superseded := true }

def start (deadline : SessionDeadline) : SessionDeadline :=
  let generation := deadline.generation + 1
  { generation, waits := supersede deadline.waits ++ [{ generation }] }

def cancel (deadline : SessionDeadline) : SessionDeadline :=
  { generation := deadline.generation + 1, waits := supersede deadline.waits }

end SessionDeadline

/-! ## The session -/

/-- A call that leaves the session. -/
inductive SessionCall where
  | dispatch (request : Packet)
  | login (requestId : UInt32) (ticket : AuthTicket)
  | registerAuthenticatedPlayer (playerId : PlayerId) (registered : Bool)
  | removeSession
  deriving DecidableEq, Repr

structure TcpSession where
  options : NetworkSessionOptions := {}
  authenticationDeadline : SessionDeadline := {}
  readDeadline : SessionDeadline := {}
  writeDeadline : SessionDeadline := {}
  receiveBuffer : ReceiveBuffer := {}
  authState : SessionAuthState := {}
  writeQueue : List (List UInt8) := []
  pendingWriteBytes : Nat := 0
  requestInProgress : Bool := false
  authenticationRegistered : Bool := false
  closed : Bool := false
  /-- `Start` has run on the strand. -/
  started : Bool := false
  /-- The handler on the strand goes on with `DispatchNextPacket`. -/
  dispatching : Bool := false
  /-- Reads and writes whose completion has not run. -/
  reads : Nat := 0
  writes : Nat := 0
  /-- Requests whose login has not completed. -/
  logins : List UInt32 := []
  /-- Responses of logins that are still to be posted. -/
  completing : List (List UInt8) := []
  /-- Responses posted to the strand. -/
  posted : List (List UInt8) := []
  requests : List Packet := []
  written : List (List UInt8) := []
  calls : List SessionCall := []
  deriving DecidableEq

namespace TcpSession

def call (sessionCall : SessionCall) (session : TcpSession) : TcpSession :=
  { session with calls := session.calls ++ [sessionCall] }

def closeOnStrand (session : TcpSession) : TcpSession :=
  if session.closed then session
  else { session with
    closed := true
    authenticationDeadline := session.authenticationDeadline.cancel
    readDeadline := session.readDeadline.cancel
    writeDeadline := session.writeDeadline.cancel }.call .removeSession

def startRead (session : TcpSession) : TcpSession :=
  if session.closed then session
  else { session with readDeadline := session.readDeadline.start, reads := session.reads + 1 }

def startWrite (session : TcpSession) : TcpSession :=
  { session with writeDeadline := session.writeDeadline.start, writes := session.writes + 1 }

/-- The function that `Start` dispatches to the strand. -/
def start (session : TcpSession) : TcpSession :=
  let session := { session with started := true }
  if session.closed then session
  else { session with authenticationDeadline := session.authenticationDeadline.start }.startRead

/-- The completion of a read: what was received, or an error. -/
def completeRead (received : Option (List UInt8)) (session : TcpSession) : TcpSession :=
  let session := { session with readDeadline := session.readDeadline.cancel, reads := session.reads - 1 }
  match received with
  | none => session.closeOnStrand
  | some bytes => { session with
      receiveBuffer := session.receiveBuffer.append bytes, dispatching := true }

/-- The response type of the handler that `Dispatch` finds for a request. -/
def responseType : PacketType → Option PacketType
  | .channelListRequest => some .channelListResponse
  | .joinChannelRequest => some .joinChannelResponse
  | .createPartyRequest => some .createPartyResponse
  | .joinPartyRequest => some .joinPartyResponse
  | .leavePartyRequest => some .leavePartyResponse
  | .partySnapshotRequest => some .partySnapshotResponse
  | .enterDungeonRequest => some .enterDungeonResponse
  | .dungeonConnectionInfoRequest => some .dungeonConnectionInfoResponse
  | .dungeonCatalogRequest => some .dungeonCatalogResponse
  | .dungeonStaticDataRequest => some .dungeonStaticDataResponse
  | _ => none

/-- `Dispatch`, where the handler has encoded a payload or thrown. -/
def dispatch (request : Packet) (payload : Except Failure (List UInt8)) :
    Except Failure (List UInt8) :=
  match responseType request.header.type with
  | none => .error (.runtimeError "No handler for packet type")
  | some type => payload.bind (encodePacket type request.header.requestId)

/-- `DispatchAsync`; the response of every request but a login is posted at once. -/
def dispatchAsync (format : LoginFormat) (request : Packet) (payload : Except Failure (List UInt8))
    (session : TcpSession) : Except Failure Unit × TcpSession :=
  if request.header.type = .loginRequest then
    if session.authState.isAuthenticated then
      (.error (.runtimeError "Session is already authenticated"), session)
    else match decodeLoginRequestPayload format request.payload with
      | .error failure => (.error failure, session)
      | .ok ticket => (.ok (), { session with
          logins := session.logins ++ [request.header.requestId] }.call
            (.login request.header.requestId ticket))
  else if ¬ session.authState.isAuthenticated then
    (.error (.runtimeError "Authentication is required"), session)
  else
    let session := session.call (.dispatch request)
    match dispatch request payload with
    | .error failure => (.error failure, session)
    | .ok response => (.ok (), { session with posted := session.posted ++ [response] })

/-- An exception closes the session. -/
def dispatchNextPacket (format : LoginFormat) (payload : Except Failure (List UInt8))
    (session : TcpSession) : TcpSession :=
  let session := { session with dispatching := false }
  if session.closed ∨ session.requestInProgress then session
  else match session.receiveBuffer.tryPop with
    | (.error _, receiveBuffer) =>
      { session with receiveBuffer, requestInProgress := false }.closeOnStrand
    | (.ok none, receiveBuffer) => { session with receiveBuffer }.startRead
    | (.ok (some packet), receiveBuffer) =>
      match dispatchAsync format packet payload { session with
          receiveBuffer, requestInProgress := true, requests := session.requests ++ [packet] } with
      | (.ok (), session) => session
      | (.error _, session) => { session with requestInProgress := false }.closeOnStrand

def queueWrite (data : List UInt8) (session : TcpSession) : Bool × TcpSession :=
  let messageLimitReached := session.writeQueue.length ≥ session.options.maxPendingWriteMessages
  let byteLimitReached := data.length > session.options.maxPendingWriteBytes ∨
    session.pendingWriteBytes > session.options.maxPendingWriteBytes - data.length
  if messageLimitReached ∨ byteLimitReached then (false, session.closeOnStrand)
  else
    let queued := { session with
      pendingWriteBytes := session.pendingWriteBytes + data.length
      writeQueue := session.writeQueue ++ [data] }
    (true, if session.writeQueue.isEmpty then queued.startWrite else queued)

/-- The first part of `HandleResponse`: whether the session goes on, with the result that
`RegisterAuthenticatedPlayer` gives if it is called. -/
def registerPlayer (registered : Bool) (session : TcpSession) : Bool × TcpSession :=
  match session.authState.snapshot with
  | none => (true, session)
  | some snapshot =>
    let session := { session with authenticationDeadline := session.authenticationDeadline.cancel }
    if session.authenticationRegistered then (true, session)
    else
      let session := session.call (.registerAuthenticatedPlayer snapshot.profile.playerId registered)
      if registered then (true, { session with authenticationRegistered := true })
      else (false, session.closeOnStrand)

def handleResponse (response : List UInt8) (registered : Bool) (session : TcpSession) : TcpSession :=
  if session.closed then session
  else match { session with requestInProgress := false }.registerPlayer registered with
    | (false, session) => session
    | (true, session) => match session.queueWrite response with
      | (false, session) => session
      | (true, session) => { session with dispatching := true }

/-- The completion of a write, which takes the front of the queue. -/
def completeWrite (error : Bool) (session : TcpSession) : TcpSession :=
  let session :=
    { session with writeDeadline := session.writeDeadline.cancel, writes := session.writes - 1 }
  if error then session.closeOnStrand
  else match session.writeQueue with
    | [] => session
    | front :: writeQueue =>
      let session := { session with
        pendingWriteBytes := session.pendingWriteBytes - front.length
        writeQueue, written := session.written ++ [front] }
      if writeQueue.isEmpty then session else session.startWrite

inductive DeadlineName where
  | authentication | read | write
  deriving DecidableEq, Repr

def deadline (session : TcpSession) : DeadlineName → SessionDeadline
  | .authentication => session.authenticationDeadline
  | .read => session.readDeadline
  | .write => session.writeDeadline

def withDeadline (name : DeadlineName) (deadline : SessionDeadline) (session : TcpSession) :
    TcpSession :=
  match name with
  | .authentication => { session with authenticationDeadline := deadline }
  | .read => { session with readDeadline := deadline }
  | .write => { session with writeDeadline := deadline }

/-- The handler of a wait, by its place among those that have not run. -/
def expire (name : DeadlineName) (index : Nat) (error : Bool) (session : TcpSession) :
    Option TcpSession :=
  let deadline := session.deadline name
  (deadline.waits[index]?).map fun wait =>
    let session :=
      session.withDeadline name { deadline with waits := deadline.waits.eraseIdx index }
    if ¬ error ∧ wait.generation = deadline.generation then session.closeOnStrand else session

/-- The first step of the completion of a login. An exception ends it without a response. -/
def completeLogin (format : LoginFormat) (sessionId : SessionId) (index : Nat)
    (loginResult : PlayerLoginResult) (session : TcpSession) : Option TcpSession :=
  (session.logins[index]?).map fun requestId =>
    let authenticated := authenticateLogin loginResult session.authState
    let session := { session with
      logins := session.logins.eraseIdx index, authState := authenticated.2 }
    match encodeLogin format sessionId requestId authenticated.1 with
    | .ok response => { session with completing := session.completing ++ [response] }
    | .error _ => session

inductive SessionEvent where
  | start
  | stop
  | completeRead (received : Option (List UInt8))
  | dispatchNextPacket (payload : Except Failure (List UInt8))
  | handleResponse (index : Nat) (registered : Bool)
  | completeWrite (error : Bool)
  | expire (name : DeadlineName) (index : Nat) (error : Bool)
  | completeLogin (index : Nat) (loginResult : PlayerLoginResult)
  | postResponse (index : Nat)

/-- A handler starts when no other is on the strand. `SessionManager` starts a session once. -/
def next (format : LoginFormat) (sessionId : SessionId) (session : TcpSession) :
    SessionEvent → Option TcpSession
  | .start => if session.dispatching ∨ session.started then none else some session.start
  | .stop => if session.dispatching then none else some session.closeOnStrand
  | .completeRead received =>
    if session.dispatching ∨ session.reads = 0 then none else some (session.completeRead received)
  | .dispatchNextPacket payload =>
    if session.dispatching then some (session.dispatchNextPacket format payload) else none
  | .handleResponse index registered =>
    if session.dispatching then none
    else (session.posted[index]?).map fun response =>
      { session with posted := session.posted.eraseIdx index }.handleResponse response registered
  | .completeWrite error =>
    if session.dispatching ∨ session.writes = 0 then none else some (session.completeWrite error)
  | .expire name index error => if session.dispatching then none else session.expire name index error
  | .completeLogin index loginResult => session.completeLogin format sessionId index loginResult
  | .postResponse index => (session.completing[index]?).map fun response =>
    { session with
      completing := session.completing.eraseIdx index, posted := session.posted ++ [response] }

end TcpSession

end DnfServer
