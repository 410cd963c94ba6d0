import DnfServer.Model.ServiceCalls
import DnfServer.Model.TcpSession

/-!
# A TLS session of the authentication server

`AuthTlsSession` with its deadlines, and `AuthPacketDispatcher` from the request to the response. Handlers
run on the strand of the session one after the other; the completion handlers of the services run on other
threads of the io context, and so does what comes between their two steps. As in `TcpSession`,
`DispatchNextPacket` is a step of its own.

What the services answer comes with the events. `calls`, `requests`, `received` and `written` are a record
of the run.
-/

namespace DnfServer

open Auth

/-! ## Requests -/

/-- The payload of an `AuthMessage`; `other` are the messages of the server. -/
inductive AuthPayload where
  | loginRequest (loginId password : Bytes)
  | characterListRequest
  | characterSelectionRequest (playerId : PlayerId)
  | other
  deriving DecidableEq, Repr

structure AuthMessage where
  protocolVersion : UInt16
  payload : AuthPayload
  deriving DecidableEq, Repr

def authPayloadProtocolVersion : UInt16 := 1

/-- What the FlatBuffers library reads, once the verifier has taken the bytes. -/
abbrev AuthFormat : Type := List UInt8 → Option AuthMessage

/-- `DecodeAuthPayload`, where `expected` picks the payload of the expected type. -/
def decodeAuthPayload {α : Type} (format : AuthFormat) (bytes : List UInt8) (expected : AuthPayload → Option α) :
    Except Failure α :=
  if bytes.isEmpty then .error (.runtimeError "Auth FlatBuffer payload is empty")
  else match format bytes with
    | none => .error (.runtimeError "Invalid Auth FlatBuffer payload")
    | some message =>
      if message.protocolVersion ≠ authPayloadProtocolVersion then
        .error (.runtimeError "Unsupported Auth payload protocol version")
      else match expected message.payload with
        | none => .error (.runtimeError "Unexpected Auth FlatBuffer payload type")
        | some payload => .ok payload

namespace AuthPayload

def asLoginRequest : AuthPayload → Option (Bytes × Bytes)
  | loginRequest loginId password => some (loginId, password)
  | _ => none

def asCharacterListRequest : AuthPayload → Option Unit
  | characterListRequest => some ()
  | _ => none

def asCharacterSelectionRequest : AuthPayload → Option PlayerId
  | characterSelectionRequest playerId => some playerId
  | _ => none

end AuthPayload

/-! ## The session -/

/-- A call of a service whose completion handler has not run. -/
inductive AuthJob where
  | login (requestId : UInt32)
  | characterList (requestId : UInt32)
  | characterSelection (requestId : UInt32)
  deriving DecidableEq, Repr

/-- A call that leaves the session, or the authentication of it. -/
inductive AuthCall where
  | authenticate (clientAddress loginId password : Bytes)
  | loadCharacters (accountId : AccountId)
  | selectCharacter (accountId : AccountId) (playerId : PlayerId)
  | markAuthenticated (accountId : AccountId)
  deriving DecidableEq, Repr

structure AuthTlsSession where
  options : NetworkSessionOptions := {}
  gameServerAddress : GameServerAddress
  clientAddress : Bytes := ascii "unknown".toList
  handshakeDeadline : SessionDeadline := {}
  authenticationDeadline : SessionDeadline := {}
  readDeadline : SessionDeadline := {}
  writeDeadline : SessionDeadline := {}
  receiveBuffer : ReceiveBuffer := {}
  sessionState : AuthServerSessionState := {}
  loginInProgress : Bool := false
  writeQueue : List (List UInt8) := []
  pendingWriteBytes : Nat := 0
  requestInProgress : Bool := false
  closed : Bool := false
  /-- `StartHandshake` has run. -/
  started : Bool := false
  /-- The handler on the strand goes on with `DispatchNextPacket`. -/
  dispatching : Bool := false
  /-- Operations whose completion has not run. -/
  handshakes : Nat := 0
  reads : Nat := 0
  writes : Nat := 0
  jobs : List AuthJob := []
  /-- Responses that are still to be posted. -/
  completing : List (List UInt8) := []
  /-- Responses posted to the strand. -/
  posted : List (List UInt8) := []
  received : List UInt8 := []
  requests : List Packet := []
  written : List (List UInt8) := []
  calls : List AuthCall := []
  deriving DecidableEq

namespace AuthTlsSession

def call (authCall : AuthCall) (session : AuthTlsSession) : AuthTlsSession :=
  { session with calls := session.calls ++ [authCall] }

def close (session : AuthTlsSession) : AuthTlsSession :=
  if session.closed then session
  else { session with
    closed := true
    handshakeDeadline := session.handshakeDeadline.cancel
    authenticationDeadline := session.authenticationDeadline.cancel
    readDeadline := session.readDeadline.cancel
    writeDeadline := session.writeDeadline.cancel }

def startRead (session : AuthTlsSession) : AuthTlsSession :=
  if session.closed then session
  else { session with readDeadline := session.readDeadline.start, reads := session.reads + 1 }

def startWrite (session : AuthTlsSession) : AuthTlsSession :=
  { session with writeDeadline := session.writeDeadline.start, writes := session.writes + 1 }

def startHandshake (session : AuthTlsSession) : AuthTlsSession :=
  { session with
    started := true
    handshakeDeadline := session.handshakeDeadline.start
    handshakes := session.handshakes + 1 }

/-- The completion of the handshake, which does not look at `closed_`. -/
def completeHandshake (error : Bool) (session : AuthTlsSession) : AuthTlsSession :=
  let session := { session with
    handshakeDeadline := session.handshakeDeadline.cancel, handshakes := session.handshakes - 1 }
  if error then session.close
  else { session with authenticationDeadline := session.authenticationDeadline.start }.startRead

/-- The completion of a read: what was received, or an error. -/
def completeRead (received : Option (List UInt8)) (session : AuthTlsSession) : AuthTlsSession :=
  let session := { session with readDeadline := session.readDeadline.cancel, reads := session.reads - 1 }
  match received with
  | none => session.close
  | some bytes => { session with
      receiveBuffer := session.receiveBuffer.append bytes, dispatching := true
      received := session.received ++ bytes }

/-- A response that is made while the request is dispatched is posted at once. -/
def respond (response : Except Failure (List UInt8)) (session : AuthTlsSession) :
    Except Failure Unit × AuthTlsSession :=
  match response with
  | .error failure => (.error failure, session)
  | .ok response => (.ok (), { session with posted := session.posted ++ [response] })

def handleLoginRequestAsync (format : AuthFormat) (request : Packet) (session : AuthTlsSession) :
    Except Failure Unit × AuthTlsSession :=
  if session.loginInProgress then (.error (.runtimeError "Auth login is already in progress"), session)
  else match decodeAuthPayload format request.payload AuthPayload.asLoginRequest with
    | .error failure => (.error failure, { session with loginInProgress := false })
    | .ok (loginId, password) => (.ok (), { session with
        loginInProgress := true, jobs := session.jobs ++ [AuthJob.login request.header.requestId] }.call
          (.authenticate session.clientAddress loginId password))

def handleCharacterListRequestAsync (format : AuthFormat) (encoding : AuthEncoding) (request : Packet)
    (session : AuthTlsSession) : Except Failure Unit × AuthTlsSession :=
  match decodeAuthPayload format request.payload AuthPayload.asCharacterListRequest with
  | .error failure => (.error failure, session)
  | .ok () => match session.sessionState.accountId with
    | none => session.respond
        (encodeCharacterListResponse encoding request.header.requestId .notAuthenticated [])
    | some accountId => (.ok (), { session with
        jobs := session.jobs ++ [AuthJob.characterList request.header.requestId] }.call (.loadCharacters accountId))

def handleCharacterSelectionRequestAsync (format : AuthFormat) (encoding : AuthEncoding) (request : Packet)
    (session : AuthTlsSession) : Except Failure Unit × AuthTlsSession :=
  match decodeAuthPayload format request.payload AuthPayload.asCharacterSelectionRequest with
  | .error failure => (.error failure, session)
  | .ok selectedPlayerId => match session.sessionState.accountId with
    | none => session.respond (encodeCharacterSelectionResponse encoding request.header.requestId
        .notAuthenticated session.gameServerAddress none)
    | some accountId => (.ok (), { session with
        jobs := session.jobs ++ [AuthJob.characterSelection request.header.requestId] }.call
          (.selectCharacter accountId selectedPlayerId))

def dispatchAsync (format : AuthFormat) (encoding : AuthEncoding) (request : Packet)
    (session : AuthTlsSession) : Except Failure Unit × AuthTlsSession :=
  if request.header.type = .authLoginRequest then
    if session.sessionState.accountId.isSome then
      (.error (.runtimeError "Auth session is already authenticated"), session)
    else session.handleLoginRequestAsync format request
  else if request.header.type = .authCharacterListRequest then
    session.handleCharacterListRequestAsync format encoding request
  else if request.header.type = .authCharacterSelectionRequest then
    session.handleCharacterSelectionRequestAsync format encoding request
  else (.error (.runtimeError "No auth handler for packet type"), session)

/-- An exception closes the session. -/
def dispatchNextPacket (format : AuthFormat) (encoding : AuthEncoding) (session : AuthTlsSession) :
    AuthTlsSession :=
  let session := { session with dispatching := false }
  if session.closed ∨ session.requestInProgress then session
  else match session.receiveBuffer.tryPop with
    | (.error _, receiveBuffer) => { session with receiveBuffer, requestInProgress := false }.close
    | (.ok none, receiveBuffer) => { session with receiveBuffer }.startRead
    | (.ok (some packet), receiveBuffer) =>
      match dispatchAsync format encoding packet { session with
          receiveBuffer, requestInProgress := true, requests := session.requests ++ [packet] } with
      | (.ok (), session) => session
      | (.error _, session) => { session with requestInProgress := false }.close

def queueWrite (data : List UInt8) (session : AuthTlsSession) : Bool × AuthTlsSession :=
  let messageLimitReached := session.writeQueue.length ≥ session.options.maxPendingWriteMessages
  let byteLimitReached := data.length > session.options.maxPendingWriteBytes ∨
    session.pendingWriteBytes > session.options.maxPendingWriteBytes - data.length
  if messageLimitReached ∨ byteLimitReached then (false, session.close)
  else
    let queued := { session with
      pendingWriteBytes := session.pendingWriteBytes + data.length
      writeQueue := session.writeQueue ++ [data] }
    (true, if session.writeQueue.isEmpty then queued.startWrite else queued)

/-- A response that is queued is followed by `DispatchNextPacket`. -/
def afterQueueWrite : Bool × AuthTlsSession → AuthTlsSession
  | (false, session) => session
  | (true, session) => { session with dispatching := true }

def handleResponse (response : List UInt8) (session : AuthTlsSession) : AuthTlsSession :=
  if session.closed then session
  else
    let session := { session with
      requestInProgress := false
      authenticationDeadline := if session.sessionState.accountId.isSome then
        session.authenticationDeadline.cancel else session.authenticationDeadline }
    afterQueueWrite (session.queueWrite response)

/-- The completion of a write, which takes the front of the queue. -/
def completeWrite (error : Bool) (session : AuthTlsSession) : AuthTlsSession :=
  let session :=
    { session with writeDeadline := session.writeDeadline.cancel, writes := session.writes - 1 }
  if error then session.close
  else match session.writeQueue with
    | [] => session
    | front :: writeQueue =>
      let session := { session with
        pendingWriteBytes := session.pendingWriteBytes - front.length
        writeQueue, written := session.written ++ [front] }
      if writeQueue.isEmpty then session else session.startWrite

inductive DeadlineName where
  | handshake | authentication | read | write
  deriving DecidableEq, Repr

def deadline (session : AuthTlsSession) : DeadlineName → SessionDeadline
  | .handshake => session.handshakeDeadline
  | .authentication => session.authenticationDeadline
  | .read => session.readDeadline
  | .write => session.writeDeadline

def withDeadline (name : DeadlineName) (deadline : SessionDeadline) (session : AuthTlsSession) :
    AuthTlsSession :=
  match name with
  | .handshake => { session with handshakeDeadline := deadline }
  | .authentication => { session with authenticationDeadline := deadline }
  | .read => { session with readDeadline := deadline }
  | .write => { session with writeDeadline := deadline }

/-- The handler of a wait, by its place among those that have not run. A wait fails only when a later
start or cancel has come. -/
def expire (name : DeadlineName) (index : Nat) (error : Bool) (session : AuthTlsSession) :
    Option AuthTlsSession :=
  let deadline := session.deadline name
  (deadline.waits[index]?).bind fun wait =>
    if error ∧ ¬ wait.superseded then none
    else
      let session :=
        session.withDeadline name { deadline with waits := deadline.waits.eraseIdx index }
      some (if ¬ error ∧ wait.generation = deadline.generation then session.close else session)

/-- A response that a completion handler has made; an exception ends it without one. -/
def completed (response : Except Failure (List UInt8)) (session : AuthTlsSession) : AuthTlsSession :=
  match response with
  | .ok response => { session with completing := session.completing ++ [response] }
  | .error _ => session

/-- The completion handler of a login, up to the response. -/
def completeLogin (encoding : AuthEncoding) (requestId : UInt32)
    (authenticationResult : AccountAuthenticationResult) (session : AuthTlsSession) : AuthTlsSession :=
  let outcome := Auth.completeLogin encoding requestId authenticationResult session.sessionState
  let marked := match outcome.2.accountId with
    | none => session
    | some accountId =>
      if session.sessionState.accountId.isSome then session else session.call (.markAuthenticated accountId)
  { marked with sessionState := outcome.2, loginInProgress := false }.completed outcome.1

/-- The completion handler of a call, by its place among those that have not run. -/
def complete (encoding : AuthEncoding) (index : Nat) (result : ServiceResult) (session : AuthTlsSession) :
    Option AuthTlsSession :=
  (session.jobs[index]?).bind fun job =>
    let rest := { session with jobs := session.jobs.eraseIdx index }
    match job, result with
    | .login requestId, .authentication authenticationResult =>
      some (rest.completeLogin encoding requestId authenticationResult)
    | .characterList requestId, .characterList listResult =>
      some (rest.completed (completeCharacterList encoding requestId listResult))
    | .characterSelection requestId, .characterSelection selectionResult =>
      some (rest.completed (completeCharacterSelection encoding session.gameServerAddress requestId
        selectionResult))
    | _, _ => none

inductive Event where
  | start
  | completeHandshake (error : Bool)
  | completeRead (received : Option (List UInt8))
  | dispatchNextPacket
  | handleResponse (index : Nat)
  | completeWrite (error : Bool)
  | expire (name : DeadlineName) (index : Nat) (error : Bool)
  | complete (index : Nat) (result : ServiceResult)
  | postResponse (index : Nat)

/-- A handler starts when no other is on the strand. `AuthTlsServer` starts a session once. -/
def next (format : AuthFormat) (encoding : AuthEncoding) (session : AuthTlsSession) :
    Event → Option AuthTlsSession
  | .start => if session.dispatching ∨ session.started then none else some session.startHandshake
  | .completeHandshake error =>
    if session.dispatching ∨ session.handshakes = 0 then none else some (session.completeHandshake error)
  | .completeRead received =>
    if session.dispatching ∨ session.reads = 0 then none else some (session.completeRead received)
  | .dispatchNextPacket =>
    if session.dispatching then some (session.dispatchNextPacket format encoding) else none
  | .handleResponse index =>
    if session.dispatching then none
    else (session.posted[index]?).map fun response =>
      { session with posted := session.posted.eraseIdx index }.handleResponse response
  | .completeWrite error =>
    if session.dispatching ∨ session.writes = 0 then none else some (session.completeWrite error)
  | .expire name index error => if session.dispatching then none else session.expire name index error
  | .complete index result => session.complete encoding index result
  | .postResponse index => (session.completing[index]?).map fun response =>
    { session with
      completing := session.completing.eraseIdx index, posted := session.posted ++ [response] }

end AuthTlsSession

end DnfServer
