import DnfServer.Model.AuthTlsSession
import DnfServer.Tcp.Framing
import DnfServer.Tcp.Sessions

/-!
# What a TLS session does in any order of completions

An open session waits for one thing: the handshake, a read, or the response to the one request in progress.
Whatever it waits for at the network has a deadline that will close it, and until a login has succeeded so
has the session as a whole. Characters are only asked for with the account of the login.
-/

namespace DnfServer.Auth.TlsSessions

open DnfServer.Library AuthTlsSession
open Tcp (Numbered numbered_new Message)
set_option autoImplicit false

/-! ## Deadlines -/

section

variable {deadline : SessionDeadline}

/-- There is a wait that nothing has superseded. -/
def Live (deadline : SessionDeadline) : Prop :=
  ∃ wait ∈ deadline.waits, wait.generation = deadline.generation

theorem live_start (deadline : SessionDeadline) : Live deadline.start :=
  ⟨_, List.mem_append_right _ List.mem_cons_self, rfl⟩

theorem not_live_cancel (h : Numbered deadline) : ¬ Live deadline.cancel := by
  rintro ⟨wait, hwait, hgeneration⟩
  obtain ⟨old, hold, rfl⟩ := List.mem_map.mp hwait
  have hle := (h old hold).1
  have heq : old.generation = deadline.generation + 1 := hgeneration
  omega

theorem Live.erase (h : Live deadline) {index : Nat} {wait : DeadlineWait}
    (hwait : deadline.waits[index]? = some wait) (hold : wait.generation ≠ deadline.generation) :
    Live { deadline with waits := deadline.waits.eraseIdx index } := by
  obtain ⟨live, hlive, hgeneration⟩ := h
  obtain ⟨place, hplace⟩ := List.mem_iff_getElem?.mp hlive
  refine ⟨live, List.mem_eraseIdx_iff_getElem?.mpr ⟨place, ?_, hplace⟩, hgeneration⟩
  rintro rfl
  rw [hwait] at hplace
  exact hold (Option.some.inj hplace ▸ hgeneration)

theorem not_live_erase (h : ¬ Live deadline) (index : Nat) :
    ¬ Live { deadline with waits := deadline.waits.eraseIdx index } :=
  fun ⟨wait, hwait, hgeneration⟩ => h ⟨wait, List.mem_of_mem_eraseIdx hwait, hgeneration⟩

end

/-! ## Calls -/

/-- The calls of a session, by the account of the login. -/
inductive CallLog : Option AccountId → List AuthCall → Prop where
  | nil : CallLog none []
  | authenticate {calls : List AuthCall} (clientAddress loginId password : Bytes) (h : CallLog none calls) :
      CallLog none (calls ++ [.authenticate clientAddress loginId password])
  | marked {calls : List AuthCall} (accountId : AccountId) (h : CallLog none calls) :
      CallLog (some accountId) (calls ++ [.markAuthenticated accountId])
  | loaded {accountId : AccountId} {calls : List AuthCall} (h : CallLog (some accountId) calls) :
      CallLog (some accountId) (calls ++ [.loadCharacters accountId])
  | selected {accountId : AccountId} {calls : List AuthCall} (playerId : PlayerId)
      (h : CallLog (some accountId) calls) :
      CallLog (some accountId) (calls ++ [.selectCharacter accountId playerId])

/-- A call may follow those before it: the password is checked before the login has succeeded, which it does
once, and the characters asked for are those of its account. -/
def Follows (before : List AuthCall) : AuthCall → Prop
  | .authenticate _ _ _ => ∀ accountId, .markAuthenticated accountId ∉ before
  | .markAuthenticated _ => ∀ accountId, .markAuthenticated accountId ∉ before
  | .loadCharacters accountId => .markAuthenticated accountId ∈ before
  | .selectCharacter accountId _ => .markAuthenticated accountId ∈ before

namespace CallLog

variable {account : Option AccountId} {calls : List AuthCall}

theorem marked_iff (h : CallLog account calls) (accountId : AccountId) :
    .markAuthenticated accountId ∈ calls ↔ account = some accountId := by
  induction h with
  | nil => simp
  | marked other hlog ih => simp [ih, eq_comm]
  | authenticate | loaded | selected => simp_all

theorem follows (h : CallLog account calls) {before : List AuthCall} {authCall : AuthCall}
    (hb : before ++ [authCall] <+: calls) : Follows before authCall := by
  have hnone {calls : List AuthCall} (hlog : CallLog none calls) (accountId : AccountId) :
      .markAuthenticated accountId ∉ calls := fun hmem => by simpa using (hlog.marked_iff accountId).mp hmem
  induction h with
  | nil => simp at hb
  | authenticate _ _ _ hlog ih | marked _ hlog ih =>
    rcases List.prefix_concat_iff.mp hb with he | hb
    · obtain ⟨rfl, hcall⟩ := List.append_inj' he rfl
      cases hcall
      exact hnone hlog
    · exact ih hb
  | loaded hlog ih | selected _ hlog ih =>
    rcases List.prefix_concat_iff.mp hb with he | hb
    · obtain ⟨rfl, hcall⟩ := List.append_inj' he rfl
      cases hcall
      exact (hlog.marked_iff _).mpr rfl
    · exact ih hb

end CallLog

/-! ## The invariant -/

/-- The type of the response to a request. -/
def answerType : PacketType → Option PacketType
  | .authLoginRequest => some .authLoginResponse
  | .authCharacterListRequest => some .authCharacterListResponse
  | .authCharacterSelectionRequest => some .authCharacterSelectionResponse
  | _ => none

/-- The job of a request. -/
def jobOf (request : Packet) : Option AuthJob :=
  match request.header.type with
  | .authLoginRequest => some (.login request.header.requestId)
  | .authCharacterListRequest => some (.characterList request.header.requestId)
  | .authCharacterSelectionRequest => some (.characterSelection request.header.requestId)
  | _ => none

/-- The response is a packet of the type that answers the request, with its id. -/
def Responds (request : Packet) (response : List UInt8) : Prop :=
  ∃ (type : PacketType) (payload : List UInt8), answerType request.header.type = some type ∧
    encodePacket type request.header.requestId payload = .ok response

/-- Responses have been queued to all requests but the last ones. -/
def Answered (session : AuthTlsSession) (pending : List Packet) : Prop :=
  ∃ answered, session.requests = answered ++ pending ∧
    List.Forall₂ Responds answered (session.written ++ session.writeQueue)

theorem type_of_login {request : Packet} {requestId : UInt32} (h : jobOf request = some (.login requestId)) :
    request.header.type = .authLoginRequest := by
  unfold jobOf at h
  split at h
  · assumption
  · cases Option.some.inj h
  · cases Option.some.inj h
  · cases h

/-- What is under way is the response to the request. -/
def Awaiting (session : AuthTlsSession) (request : Packet) : Prop :=
  (∀ job ∈ session.jobs, jobOf request = some job) ∧
    ∀ response ∈ session.completing ++ session.posted, Responds request response

/-- The requests are the packets of the bytes received, up to those that are still in the buffer. -/
def Streamed (session : AuthTlsSession) : Prop :=
  ∃ (messages : List Message) (rest : List UInt8), session.requests = messages.map (·.packet) ∧
    session.received = messages.flatMap (·.bytes) ++ rest ∧ Tcp.Holds session.receiveBuffer rest

/-- The last request is a login, and its response is not handled yet. -/
def LoggingIn (session : AuthTlsSession) : Prop :=
  session.requestInProgress = true ∧
    ∃ request ∈ session.requests.getLast?, request.header.type = .authLoginRequest

/-- An open session. -/
structure Open (session : AuthTlsSession) : Prop where
  flow : session.handshakes + session.reads + session.dispatching.toNat + session.requestInProgress.toNat =
    session.started.toNat
  flight : session.jobs.length + session.completing.length + session.posted.length ≤
    session.requestInProgress.toNat
  pending : ∃ pending, Answered session pending ∧
    pending.length = session.requestInProgress.toNat ∧ ∀ request ∈ pending, Awaiting session request
  login : session.loginInProgress = true → ∃ requestId, .login requestId ∈ session.jobs
  writes : session.writes = (!session.writeQueue.isEmpty).toNat
  early : session.sessionState.accountId.isSome = true → session.started = true ∧ session.handshakes = 0
  handshake : session.handshakes ≠ 0 → Live session.handshakeDeadline
  read : session.reads ≠ 0 → Live session.readDeadline
  write : session.writeQueue ≠ [] → Live session.writeDeadline
  unauthenticated : session.started = true → session.handshakes = 0 →
    session.sessionState.accountId = none → Live session.authenticationDeadline
  authenticated : session.sessionState.accountId.isSome = true →
    LoggingIn session ∨ ¬ Live session.authenticationDeadline

/-- What also holds in the middle of a handler, and of a closed session. -/
structure Base (session : AuthTlsSession) : Prop where
  answered : ∃ pending, Answered session pending
  deadlines : ∀ name, Numbered (session.deadline name)
  log : CallLog session.sessionState.accountId session.calls
  streamed : Streamed session

structure Inv (session : AuthTlsSession) : Prop extends Base session where
  opened : session.closed = false → Open session

section

variable {session : AuthTlsSession}

/-- While the handler is on the strand nothing else is under way. -/
theorem Open.idle (ho : Open session) (hd : session.dispatching = true) :
    session.handshakes = 0 ∧ session.reads = 0 ∧ session.requestInProgress = false ∧
      session.started = true ∧ session.jobs = [] ∧ session.completing = [] ∧ session.posted = [] := by
  have hflow := ho.flow
  have hflight := ho.flight
  have hstarted := Bool.toNat_le session.started
  rw [hd, Bool.toNat_true] at hflow
  have hprogress : session.requestInProgress = false := Bool.toNat_eq_zero.mp (by omega)
  rw [hprogress, Bool.toNat_false] at hflow hflight
  refine ⟨by omega, by omega, hprogress, Bool.toNat_eq_one.mp (by omega), ?_, ?_, ?_⟩ <;>
    exact List.eq_nil_of_length_eq_zero (by omega)

/-- What is under way is for the one request in progress. -/
theorem Open.busy (ho : Open session)
    (hf : 0 < session.jobs.length + session.completing.length + session.posted.length) :
    session.requestInProgress = true ∧ session.handshakes = 0 ∧ session.reads = 0 ∧
      session.dispatching = false ∧ session.started = true ∧
      session.jobs.length + session.completing.length + session.posted.length = 1 := by
  have hflow := ho.flow
  have hflight := ho.flight
  have hstarted := Bool.toNat_le session.started
  have hprogress : session.requestInProgress = true := by
    have hle := Bool.toNat_le session.requestInProgress
    exact Bool.toNat_eq_one.mp (by omega)
  rw [hprogress, Bool.toNat_true] at hflow hflight
  refine ⟨hprogress, by omega, by omega, Bool.toNat_eq_zero.mp (by omega), Bool.toNat_eq_one.mp (by omega), ?_⟩
  omega

end

variable {format : AuthFormat} {encoding : AuthEncoding} {session session' : AuthTlsSession}

theorem inv_new (options : NetworkSessionOptions) (gameServerAddress : GameServerAddress)
    (clientAddress : Bytes) : Inv { options, gameServerAddress, clientAddress } where
  answered := ⟨[], [], rfl, .nil⟩
  deadlines := fun name => by cases name <;> exact numbered_new
  log := .nil
  streamed := ⟨[], [], rfl, rfl, Nat.le_refl 0, rfl⟩
  opened := fun _ =>
    { flow := rfl, flight := Nat.le_refl 0, pending := ⟨[], ⟨[], rfl, .nil⟩, rfl, by simp⟩
      login := fun h => by cases h
      writes := rfl, early := fun h => by cases h
      handshake := fun h => absurd rfl h, read := fun h => absurd rfl h, write := fun h => absurd rfl h
      unauthenticated := fun h => by cases h
      authenticated := fun h => by cases h }

/-- A handler that closes the session. -/
theorem Base.close (h : Base session) : Inv session.close := by
  unfold AuthTlsSession.close
  split
  · rename_i hclosed
    exact { h with opened := fun hopen => by simp [hclosed] at hopen }
  · refine ⟨⟨h.answered, ?_, h.log, h.streamed⟩, fun hc => by cases hc⟩
    intro name
    cases name
    · exact (h.deadlines .handshake).cancel
    · exact (h.deadlines .authentication).cancel
    · exact (h.deadlines .read).cancel
    · exact (h.deadlines .write).cancel

/-- The session was closed before. -/
theorem Base.closed (h : Base session) (hc : session.closed = true) : Inv session :=
  { h with opened := fun hopen => by simp [hc] at hopen }

theorem Base.startRead (h : Base session) (ho : session.closed = false → Open { session with
    readDeadline := session.readDeadline.start, reads := session.reads + 1 }) :
    Inv session.startRead := by
  unfold AuthTlsSession.startRead
  split
  · rename_i hc
    exact h.closed hc
  · refine ⟨⟨h.answered, ?_, h.log, h.streamed⟩, fun hc => ho hc⟩
    intro name
    cases name
    · exact h.deadlines .handshake
    · exact h.deadlines .authentication
    · exact (h.deadlines .read).start
    · exact h.deadlines .write

theorem Base.startWrite (h : Base session) : Base session.startWrite := by
  refine ⟨h.answered, ?_, h.log, h.streamed⟩
  intro name
  cases name
  · exact h.deadlines .handshake
  · exact h.deadlines .authentication
  · exact h.deadlines .read
  · exact (h.deadlines .write).start

/-! ## Handlers -/

namespace Inv

theorem startHandshake (h : Inv session) (hd : session.dispatching = false)
    (hs : session.started = false) : Inv session.startHandshake := by
  refine ⟨⟨h.answered, ?_, h.log, h.streamed⟩, fun hc => ?_⟩
  · intro name
    cases name
    · exact (h.deadlines .handshake).start
    · exact h.deadlines .authentication
    · exact h.deadlines .read
    · exact h.deadlines .write
  have ho := h.opened hc
  have hflow := ho.flow
  rw [hs, hd, Bool.toNat_false] at hflow
  have hnone : session.sessionState.accountId.isSome ≠ true := fun hsome => by
    rw [(ho.early hsome).1] at hs
    cases hs
  refine { ho with flow := ?_, early := fun h => absurd h hnone, handshake := fun _ => live_start _
                   unauthenticated := fun _ h => absurd h (Nat.succ_ne_zero _)
                   authenticated := fun h => absurd h hnone }
  show session.handshakes + 1 + session.reads + session.dispatching.toNat +
    session.requestInProgress.toNat = 1
  rw [hd, Bool.toNat_false]
  omega

theorem completeHandshake (h : Inv session) (hhandshakes : session.handshakes ≠ 0) (error : Bool) :
    Inv (session.completeHandshake error) := by
  have hbase : Base { session with
      handshakeDeadline := session.handshakeDeadline.cancel, handshakes := session.handshakes - 1 } := by
    refine ⟨h.answered, ?_, h.log, h.streamed⟩
    intro name
    cases name
    · exact (h.deadlines .handshake).cancel
    · exact h.deadlines .authentication
    · exact h.deadlines .read
    · exact h.deadlines .write
  unfold AuthTlsSession.completeHandshake
  cases error with
  | true => exact hbase.close
  | false =>
    refine Base.startRead ⟨hbase.answered, ?_, hbase.log, hbase.streamed⟩ fun hc => ?_
    · intro name
      cases name
      · exact hbase.deadlines .handshake
      · exact (hbase.deadlines .authentication).start
      · exact hbase.deadlines .read
      · exact hbase.deadlines .write
    have ho := h.opened hc
    have hflow := ho.flow
    have hstarted := Bool.toNat_le session.started
    have hone : session.handshakes - 1 = 0 := by omega
    have hnone : session.sessionState.accountId.isSome ≠ true := fun hsome =>
      hhandshakes (ho.early hsome).2
    refine { ho with flow := ?_, early := fun h => absurd h hnone, handshake := fun h => absurd hone h
                     read := fun _ => live_start _, unauthenticated := fun _ _ _ => live_start _
                     authenticated := fun h => absurd h hnone }
    show session.handshakes - 1 + (session.reads + 1) + session.dispatching.toNat +
      session.requestInProgress.toNat = session.started.toNat
    omega

theorem completeRead (h : Inv session) (hd : session.dispatching = false) (hr : session.reads ≠ 0)
    (received : Option (List UInt8)) : Inv (session.completeRead received) := by
  have hbase : Base { session with
      readDeadline := session.readDeadline.cancel, reads := session.reads - 1 } := by
    refine ⟨h.answered, ?_, h.log, h.streamed⟩
    intro name
    cases name
    · exact h.deadlines .handshake
    · exact h.deadlines .authentication
    · exact (h.deadlines .read).cancel
    · exact h.deadlines .write
  unfold AuthTlsSession.completeRead
  cases received with
  | none => exact hbase.close
  | some bytes =>
    refine ⟨⟨hbase.answered, hbase.deadlines, hbase.log, ?_⟩, fun hc => ?_⟩
    · obtain ⟨messages, rest, hrequests, hreceived, hholds⟩ := h.streamed
      refine ⟨messages, rest ++ bytes, hrequests, ?_, Tcp.holds_append hholds bytes⟩
      show session.received ++ bytes = _
      rw [hreceived, List.append_assoc]
    have ho := h.opened hc
    have hflow := ho.flow
    have hstarted := Bool.toNat_le session.started
    rw [hd, Bool.toNat_false] at hflow
    have hone : session.reads - 1 = 0 := by omega
    refine { ho with flow := ?_, read := fun h => absurd hone h }
    show session.handshakes + (session.reads - 1) + 1 + session.requestInProgress.toNat =
      session.started.toNat
    omega

end Inv

/-! ### The next packet -/

/-- What `DispatchAsync` leaves of a session without a request under way. -/
inductive Dispatched (request : Packet) (session : AuthTlsSession) :
    Except Failure Unit × AuthTlsSession → Prop where
  | failed (failure : Failure) (loginInProgress : Bool) :
      Dispatched request session (.error failure, { session with loginInProgress })
  | posted {response : List UInt8} (answer : Responds request response) :
      Dispatched request session (.ok (), { session with posted := session.posted ++ [response] })
  | login {loginId password : Bytes} (none : session.sessionState.accountId = none)
      (type : request.header.type = .authLoginRequest) :
      Dispatched request session (.ok (), { session with
        loginInProgress := true, jobs := session.jobs ++ [AuthJob.login request.header.requestId]
        calls := session.calls ++ [.authenticate session.clientAddress loginId password] })
  | asked {job : AuthJob} {authCall : AuthCall} (account : jobOf request = some job)
      (log : CallLog session.sessionState.accountId session.calls →
        CallLog session.sessionState.accountId (session.calls ++ [authCall]))
      (mark : ∀ accountId, authCall ≠ .markAuthenticated accountId) :
      Dispatched request session (.ok (), { session with
        jobs := session.jobs ++ [job], calls := session.calls ++ [authCall] })

theorem dispatched_respond {request : Packet} {response : Except Failure (List UInt8)}
    (h : ∀ bytes, response = .ok bytes → Responds request bytes) :
    Dispatched request session (session.respond response) := by
  unfold AuthTlsSession.respond
  cases response with
  | error failure => exact .failed failure session.loginInProgress
  | ok bytes => exact .posted (h bytes rfl)

theorem dispatched (request : Packet) (session : AuthTlsSession) :
    Dispatched request session (session.dispatchAsync format encoding request) := by
  unfold AuthTlsSession.dispatchAsync
  split
  · rename_i htype
    split
    · exact .failed _ session.loginInProgress
    rename_i hnone
    have hnone : session.sessionState.accountId = none := by simpa using hnone
    unfold AuthTlsSession.handleLoginRequestAsync
    split
    · exact .failed _ session.loginInProgress
    split
    · exact .failed _ false
    · exact .login hnone htype
  split
  · rename_i htype
    unfold AuthTlsSession.handleCharacterListRequestAsync
    split
    · exact .failed _ session.loginInProgress
    cases haccount : session.sessionState.accountId with
    | none =>
      exact dispatched_respond fun bytes hbytes => ⟨.authCharacterListResponse, _, by rw [htype]; rfl, hbytes⟩
    | some accountId =>
      refine .asked (by rw [jobOf, htype]) (fun hlog => ?_) fun _ => AuthCall.noConfusion
      rw [haccount] at hlog ⊢
      exact hlog.loaded
  split
  · rename_i htype
    unfold AuthTlsSession.handleCharacterSelectionRequestAsync
    split
    · exact .failed _ session.loginInProgress
    rename_i selectedPlayerId _
    cases haccount : session.sessionState.accountId with
    | none =>
      exact dispatched_respond fun bytes hbytes =>
        ⟨.authCharacterSelectionResponse, _, by rw [htype]; rfl, hbytes⟩
    | some accountId =>
      refine .asked (by rw [jobOf, htype]) (fun hlog => ?_) fun _ => AuthCall.noConfusion
      rw [haccount] at hlog ⊢
      exact hlog.selected selectedPlayerId
  · exact .failed _ session.loginInProgress

/-- What the buffer gives next of the bytes received. -/
theorem Streamed.pop (h : Streamed session) {outcome : Except Failure (Option Packet)}
    {receiveBuffer : ReceiveBuffer} (hpop : session.receiveBuffer.tryPop = (outcome, receiveBuffer)) :
    (∀ packet, outcome ≠ .ok (some packet)) ∧ Streamed { session with receiveBuffer } ∨
      ∃ packet, outcome = .ok (some packet) ∧
        Streamed { session with receiveBuffer, requests := session.requests ++ [packet] } := by
  obtain ⟨messages, rest, hrequests, hreceived, hholds⟩ := h
  obtain ⟨hanswer, hafter⟩ := Tcp.holds_tryPop hholds
  rw [hpop] at hanswer hafter
  rcases Tcp.popFront_cases rest with hnone | ⟨failure, herror⟩ | ⟨message, left, hrest, hsome⟩
  · rw [hnone] at hanswer hafter
    exact Or.inl ⟨fun _ h => (nomatch hanswer.symm.trans h), messages, rest, hrequests, hreceived, hafter⟩
  · rw [herror] at hanswer hafter
    exact Or.inl ⟨fun _ h => (nomatch hanswer.symm.trans h), messages, rest, hrequests, hreceived, hafter⟩
  · rw [hsome] at hanswer hafter
    refine Or.inr ⟨message.packet, hanswer, messages ++ [message], left, ?_, ?_, hafter⟩
    · show session.requests ++ [message.packet] = _
      rw [hrequests, List.map_append]
      rfl
    · show session.received = _
      rw [hreceived, hrest]
      simp

theorem Inv.dispatchNextPacket (h : Inv session) (hd : session.dispatching = true) :
    Inv (session.dispatchNextPacket format encoding) := by
  have hbase : Base { session with dispatching := false } :=
    ⟨h.answered, h.deadlines, h.log, h.streamed⟩
  unfold AuthTlsSession.dispatchNextPacket
  dsimp only
  by_cases hc : session.closed = true
  · rw [if_pos (.inl hc)]
    exact hbase.closed hc
  have hopen : session.closed = false := Bool.not_eq_true _ ▸ hc
  have ho := h.opened hopen
  obtain ⟨hhandshakes, hreads, hprogress, hstarted, hjobs, hcompleting, hposted⟩ := ho.idle hd
  obtain ⟨pending, hanswered, hlength, -⟩ := ho.pending
  obtain rfl : pending = [] := List.eq_nil_of_length_eq_zero (by rw [hlength, hprogress]; rfl)
  rw [if_neg (by simp [hc, hprogress])]
  have hdead (hsome : session.sessionState.accountId.isSome = true) : ¬ Live session.authenticationDeadline :=
    (ho.authenticated hsome).resolve_left fun hlogging => absurd hlogging.1 (by simp [hprogress])
  rcases hpop : session.receiveBuffer.tryPop with ⟨outcome, receiveBuffer⟩
  rcases h.streamed.pop hpop with ⟨hnone, hstreamed⟩ | ⟨packet, rfl, hstreamed⟩
  · cases outcome with
    | error failure => exact Base.close ⟨h.answered, h.deadlines, h.log, hstreamed⟩
    | ok popped =>
      cases popped with
      | some packet => exact absurd rfl (hnone packet)
      | none =>
        refine Base.startRead ⟨h.answered, h.deadlines, h.log, hstreamed⟩ fun _ => ?_
        refine { ho with flow := ?_, read := fun _ => live_start _ }
        simp [hhandshakes, hreads, hprogress, hstarted]
  -- the packet is the request that is in progress from here on
  obtain ⟨answered, hrequests, hall⟩ := hanswered
  have hnow : Base { session with
      dispatching := false, receiveBuffer, requestInProgress := true
      requests := session.requests ++ [packet] } := by
    refine ⟨⟨[packet], answered, ?_, hall⟩, h.deadlines, h.log, hstreamed⟩
    simp [hrequests]
  have hcases : Dispatched packet _ _ := @dispatched format encoding packet { session with
    dispatching := false, receiveBuffer, requestInProgress := true
    requests := session.requests ++ [packet] }
  have hpending : Answered { session with requests := session.requests ++ [packet] } [packet] :=
    ⟨answered, by simp [hrequests], hall⟩
  dsimp only
  generalize AuthTlsSession.dispatchAsync format encoding packet _ = out at hcases ⊢
  cases hcases with
  | failed failure loginInProgress =>
    exact Base.close ⟨hnow.answered, hnow.deadlines, hnow.log, hnow.streamed⟩
  | @posted response hanswer =>
    refine ⟨⟨hnow.answered, hnow.deadlines, hnow.log, hnow.streamed⟩, fun _ =>
      { ho with flow := ?_, flight := ?_, pending := ?_, authenticated := fun hsome => .inr (hdead hsome) }⟩
    · simp [hhandshakes, hreads, hstarted]
    · simp [hjobs, hcompleting, hposted]
    · refine ⟨[packet], hpending, rfl, fun request hm => ?_⟩
      obtain rfl := List.mem_singleton.mp hm
      simp [Awaiting, hjobs, hcompleting, hposted, hanswer]
  | @login loginId password hnone htype =>
    have hlog := h.log
    rw [hnone] at hlog
    have hcalled := hlog.authenticate session.clientAddress loginId password
    rw [← hnone] at hcalled
    refine ⟨⟨hnow.answered, hnow.deadlines, hcalled, hnow.streamed⟩, fun _ =>
      { ho with flow := ?_, flight := ?_, pending := ?_, login := ?_, authenticated := fun hsome => .inr (hdead hsome) }⟩
    · simp [hhandshakes, hreads, hstarted]
    · simp [hjobs, hcompleting, hposted]
    · refine ⟨[packet], hpending, rfl, fun request hm => ?_⟩
      obtain rfl := List.mem_singleton.mp hm
      simp [Awaiting, jobOf, hjobs, hcompleting, hposted, htype]
    · exact fun _ => ⟨packet.header.requestId, List.mem_append_right _ List.mem_cons_self⟩
  | @asked job authCall haccount hlog hmark =>
    refine ⟨⟨hnow.answered, hnow.deadlines, hlog h.log, hnow.streamed⟩, fun _ =>
      { ho with flow := ?_, flight := ?_, pending := ?_, login := ?_, authenticated := fun hsome => .inr (hdead hsome) }⟩
    · simp [hhandshakes, hreads, hstarted]
    · simp [hjobs, hcompleting, hposted]
    · refine ⟨[packet], hpending, rfl, fun request hm => ?_⟩
      obtain rfl := List.mem_singleton.mp hm
      simp [Awaiting, hjobs, hcompleting, hposted, haccount]
    · intro hlogging
      obtain ⟨requestId, hmem⟩ := ho.login hlogging
      exact ⟨requestId, List.mem_append_left _ hmem⟩

/-! ### Responses -/

theorem queueWrite_cases (data : List UInt8) (session : AuthTlsSession) :
    session.queueWrite data = (false, session.close) ∨
      ∃ pendingWriteBytes : Nat, session.queueWrite data = (true,
        if session.writeQueue.isEmpty then
          { session with pendingWriteBytes, writeQueue := session.writeQueue ++ [data] }.startWrite
        else { session with pendingWriteBytes, writeQueue := session.writeQueue ++ [data] }) := by
  unfold AuthTlsSession.queueWrite
  dsimp only
  split
  · exact Or.inl rfl
  · exact Or.inr ⟨_, rfl⟩

/-- Neither the handshake nor a read nor a request is under way. -/
structure Resting (session : AuthTlsSession) : Prop where
  handshakes : session.handshakes = 0
  reads : session.reads = 0
  progress : session.requestInProgress = false
  started : session.started = true
  jobs : session.jobs = []
  completing : session.completing = []
  posted : session.posted = []
  login : session.loginInProgress = false
  writes : session.writes = (!session.writeQueue.isEmpty).toNat
  write : session.writeQueue ≠ [] → Live session.writeDeadline
  unauthenticated : session.sessionState.accountId = none → Live session.authenticationDeadline
  authenticated : session.sessionState.accountId.isSome = true → ¬ Live session.authenticationDeadline

theorem Resting.dispatching (h : Resting session) (hanswered : Answered session [])
    (hd : session.dispatching = true) : Open session where
  flow := by simp [h.handshakes, h.reads, h.progress, h.started, hd]
  flight := by simp [h.jobs, h.completing, h.posted]
  pending := ⟨[], hanswered, by simp [h.progress], by simp⟩
  login := fun hlogin => by simp [h.login] at hlogin
  writes := h.writes
  early := fun _ => ⟨h.started, h.handshakes⟩
  handshake := fun hne => absurd h.handshakes hne
  read := fun hne => absurd h.reads hne
  write := h.write
  unauthenticated := fun _ _ => h.unauthenticated
  authenticated := fun hsome => Or.inr (h.authenticated hsome)

/-- The handler of a response goes on with the next packet after the response is queued. -/
theorem Base.queueWrite (h : Base session) (hrest : Resting session) {data : List UInt8}
    (hanswered : Answered { session with writeQueue := session.writeQueue ++ [data] } []) :
    Inv (afterQueueWrite (session.queueWrite data)) := by
  rcases queueWrite_cases data session with he | ⟨pendingWriteBytes, he⟩ <;> rw [he]
  · exact h.close
  have hbase : Base { session with
      pendingWriteBytes, writeQueue := session.writeQueue ++ [data], dispatching := true } :=
    ⟨⟨[], hanswered⟩, h.deadlines, h.log, h.streamed⟩
  have hwrites := hrest.writes
  have hqueued : (session.writeQueue ++ [data]).isEmpty = false := by simp
  dsimp only [afterQueueWrite]
  split
  · rename_i hempty
    rw [hempty] at hwrites
    refine ⟨hbase.startWrite, fun _ => Resting.dispatching { hrest with writes := ?_, write := ?_ } hanswered rfl⟩
    · show session.writes + 1 = (!(session.writeQueue ++ [data]).isEmpty).toNat
      rw [hwrites, hqueued]
      rfl
    · exact fun _ => live_start _
  · rename_i hnonempty
    rw [Bool.not_eq_true] at hnonempty
    rw [hnonempty] at hwrites
    refine ⟨hbase, fun _ => Resting.dispatching { hrest with writes := ?_, write := ?_ } hanswered rfl⟩
    · show session.writes = (!(session.writeQueue ++ [data]).isEmpty).toNat
      rw [hwrites, hqueued]
    · exact fun _ => hrest.write fun hnil => by simp [hnil] at hnonempty

/-- The response ends the request in progress. -/
theorem Inv.handleResponse (h : Inv session) {index : Nat} {response : List UInt8}
    (hresponse : session.posted[index]? = some response) :
    Inv ({ session with posted := session.posted.eraseIdx index }.handleResponse response) := by
  have hbase : Base { session with posted := session.posted.eraseIdx index } :=
    ⟨h.answered, h.deadlines, h.log, h.streamed⟩
  unfold AuthTlsSession.handleResponse
  dsimp only
  by_cases hc : session.closed = true
  · rw [if_pos hc]
    exact hbase.closed hc
  rw [if_neg hc]
  have ho := h.opened (Bool.not_eq_true _ ▸ hc)
  have hmem := List.mem_of_getElem? hresponse
  have hpos := List.length_pos_of_mem hmem
  obtain ⟨hprogress, hhandshakes, hreads, -, hstarted, hone⟩ := ho.busy (by omega)
  have hjobs : session.jobs = [] := List.eq_nil_of_length_eq_zero (by omega)
  have hcompleting : session.completing = [] := List.eq_nil_of_length_eq_zero (by omega)
  have herased : session.posted.eraseIdx index = [] := by
    refine List.eq_nil_of_length_eq_zero ?_
    have hlt := (List.getElem?_eq_some_iff.mp hresponse).1
    rw [List.length_eraseIdx_of_lt hlt]
    omega
  have hlogin : session.loginInProgress = false := by
    rw [Bool.eq_false_iff]
    intro hlogging
    obtain ⟨requestId, hjob⟩ := ho.login hlogging
    rw [hjobs] at hjob
    cases hjob
  -- the response answers the request in progress
  obtain ⟨pending, ⟨answered, hrequests, hall⟩, hlength, hawaiting⟩ := ho.pending
  rw [hprogress] at hlength
  obtain ⟨request, rfl⟩ := List.length_eq_one_iff.mp hlength
  have hanswer := (hawaiting request List.mem_cons_self).2 response (List.mem_append_right _ hmem)
  have hqueued : List.Forall₂ Responds (answered ++ [request])
      (session.written ++ (session.writeQueue ++ [response])) := by
    rw [← List.append_assoc]
    exact List.rel_append hall (.cons hanswer .nil)
  refine Base.queueWrite ?_ ?_ ⟨answered ++ [request], hrequests.trans (List.append_nil _).symm, hqueued⟩
  · refine ⟨h.answered, fun name => ?_, h.log, h.streamed⟩
    cases name
    · exact h.deadlines .handshake
    · dsimp only [AuthTlsSession.deadline]
      split
      · exact (h.deadlines .authentication).cancel
      · exact h.deadlines .authentication
    · exact h.deadlines .read
    · exact h.deadlines .write
  · refine { handshakes := hhandshakes, reads := hreads, progress := rfl, started := hstarted, jobs := hjobs
             completing := hcompleting, posted := herased, login := hlogin, writes := ho.writes
             write := ho.write, unauthenticated := fun hnone => ?_, authenticated := fun hsome => ?_ }
    · show Live (if session.sessionState.accountId.isSome then _ else _)
      have hnone' : session.sessionState.accountId = none := hnone
      rw [hnone', if_neg (by simp)]
      exact ho.unauthenticated hstarted hhandshakes hnone'
    · show ¬ Live (if session.sessionState.accountId.isSome then _ else _)
      rw [if_pos hsome]
      exact not_live_cancel (h.deadlines .authentication)

/-! ### Writes, deadlines and completions -/

namespace Inv

theorem completeWrite (h : Inv session) (hwrites : session.writes ≠ 0) (error : Bool) :
    Inv (session.completeWrite error) := by
  have hdeadlines (name : DeadlineName) : Numbered
      (({ session with writeDeadline := session.writeDeadline.cancel } : AuthTlsSession).deadline name) := by
    cases name
    · exact h.deadlines .handshake
    · exact h.deadlines .authentication
    · exact h.deadlines .read
    · exact (h.deadlines .write).cancel
  unfold AuthTlsSession.completeWrite
  dsimp only
  split
  · exact Base.close ⟨h.answered, hdeadlines, h.log, h.streamed⟩
  split
  · rename_i hqueue
    refine ⟨⟨h.answered, hdeadlines, h.log, h.streamed⟩, fun hc => absurd ?_ hwrites⟩
    have hcount := (h.opened hc).writes
    rw [hqueue] at hcount
    exact hcount
  rename_i front writeQueue hqueue
  have hmoved {pending : List Packet} (hp : Answered session pending) :
      Answered { session with writeQueue, written := session.written ++ [front] } pending := by
    obtain ⟨answered, hrequests, hall⟩ := hp
    refine ⟨answered, hrequests, ?_⟩
    rw [hqueue] at hall
    show List.Forall₂ Responds answered (session.written ++ [front] ++ writeQueue)
    rw [List.append_assoc]
    exact hall
  obtain ⟨pending, hp⟩ := h.answered
  have hbase : Base { session with
      writeDeadline := session.writeDeadline.cancel, writes := session.writes - 1
      pendingWriteBytes := session.pendingWriteBytes - front.length
      writeQueue, written := session.written ++ [front] } :=
    ⟨⟨pending, hmoved hp⟩, hdeadlines, h.log, h.streamed⟩
  have hone (hc : session.closed = false) : session.writes - 1 = 0 := by
    have hcount := (h.opened hc).writes
    rw [hqueue] at hcount
    rw [hcount]
    rfl
  split
  · rename_i hempty
    refine ⟨hbase, fun hc => ?_⟩
    have ho := h.opened hc
    obtain ⟨pending, hanswered, hrest⟩ := ho.pending
    refine { ho with pending := ⟨pending, hmoved hanswered, hrest⟩, writes := ?_, write := fun hne => ?_ }
    · show session.writes - 1 = (!writeQueue.isEmpty).toNat
      rw [hone hc, hempty]
      rfl
    · exact absurd (List.isEmpty_iff.mp hempty) hne
  · rename_i hnonempty
    rw [Bool.not_eq_true] at hnonempty
    refine ⟨hbase.startWrite, fun hc => ?_⟩
    have ho := h.opened hc
    obtain ⟨pending, hanswered, hrest⟩ := ho.pending
    refine { ho with pending := ⟨pending, hmoved hanswered, hrest⟩, writes := ?_, write := fun _ => live_start _ }
    show session.writes - 1 + 1 = (!writeQueue.isEmpty).toNat
    rw [hone hc, hnonempty]
    rfl

/-- A wait that is the current one closes the session; another one, or one that fails, changes nothing else. -/
theorem expire (h : Inv session) {name : DeadlineName} {index : Nat} {error : Bool}
    (hn : session.expire name index error = some session') : Inv session' := by
  simp only [AuthTlsSession.expire, Option.bind_eq_some_iff] at hn
  obtain ⟨wait, hwait, hn⟩ := hn
  have herased := (h.deadlines name).erase index
  have hbase : Base (session.withDeadline name
      { session.deadline name with waits := (session.deadline name).waits.eraseIdx index }) := by
    cases name
    all_goals
      refine ⟨h.answered, fun other => ?_, h.log, h.streamed⟩
      cases other
      all_goals first
        | exact herased
        | exact h.deadlines .handshake
        | exact h.deadlines .authentication
        | exact h.deadlines .read
        | exact h.deadlines .write
  split at hn
  · cases hn
  rename_i herror
  obtain rfl := Option.some.inj hn
  split
  · exact hbase.close
  rename_i hstale
  have hold : wait.generation ≠ (session.deadline name).generation := by
    intro hcurrent
    have hcurrent' : ¬ wait.superseded = true := fun hsuperseded =>
      (h.deadlines name wait (List.mem_of_getElem? hwait)).2.mp hsuperseded hcurrent
    cases error with
    | false => exact hstale ⟨Bool.false_ne_true, hcurrent⟩
    | true => exact herror ⟨rfl, hcurrent'⟩
  refine ⟨hbase, fun hc => ?_⟩
  have hlive (hlive : Live (session.deadline name)) : Live
      { session.deadline name with waits := (session.deadline name).waits.eraseIdx index } :=
    hlive.erase hwait hold
  cases name with
  | handshake =>
    have ho := h.opened hc
    exact { ho with handshake := fun hne => hlive (ho.handshake hne) }
  | authentication =>
    have ho := h.opened hc
    refine { ho with unauthenticated := fun hs hh hnone => hlive (ho.unauthenticated hs hh hnone)
                     authenticated := fun hsome => ?_ }
    exact (ho.authenticated hsome).imp_right fun hdead => not_live_erase hdead index
  | read =>
    have ho := h.opened hc
    exact { ho with read := fun hne => hlive (ho.read hne) }
  | write =>
    have ho := h.opened hc
    exact { ho with write := fun hne => hlive (ho.write hne) }

end Inv

theorem markAuthenticated_cases (accountId : AccountId) (state : AuthServerSessionState) :
    state.markAuthenticated accountId = (false, state) ∨
      state.accountId = none ∧ state.markAuthenticated accountId = (true, { accountId := some accountId }) := by
  unfold AuthServerSessionState.markAuthenticated
  by_cases hzero : accountId = 0
  · exact Or.inl (if_pos hzero)
  rw [if_neg hzero]
  by_cases hsome : state.accountId.isSome = true
  · exact Or.inl (if_pos hsome)
  · exact Or.inr ⟨by simpa using hsome, if_neg hsome⟩

/-- A login marks the session for the account that the service has found, if it is not marked yet. -/
theorem completeLogin_cases (encoding : AuthEncoding) (requestId : UInt32)
    (result : AccountAuthenticationResult) (state : AuthServerSessionState) :
    (Auth.completeLogin encoding requestId result state).2 = state ∨
      ∃ accountId, state.accountId = none ∧ result = { status := .success, accountId := some accountId } ∧
        (Auth.completeLogin encoding requestId result state).2 = { accountId := some accountId } := by
  obtain ⟨status, account⟩ := result
  unfold Auth.completeLogin
  dsimp only
  split
  · rename_i hsuccess
    have hstatus : status = .success := by cases status <;> first | rfl | cases hsuccess
    subst hstatus
    cases account with
    | none => exact Or.inl rfl
    | some accountId =>
      dsimp only
      rcases markAuthenticated_cases accountId state with he | ⟨hnone, he⟩ <;> rw [he]
      · exact Or.inl rfl
      · exact Or.inr ⟨accountId, hnone, rfl, rfl⟩
  · exact Or.inl rfl

theorem completeLogin_response {encoding : AuthEncoding} {requestId : UInt32}
    {result : AccountAuthenticationResult} {state : AuthServerSessionState} {response : List UInt8}
    (h : (Auth.completeLogin encoding requestId result state).1 = .ok response) :
    ∃ payload, encodePacket .authLoginResponse requestId payload = .ok response := by
  unfold Auth.completeLogin at h
  dsimp only at h
  split at h
  · split at h
    · exact ⟨_, h⟩
    · split at h
      · exact ⟨_, h⟩
      · exact ⟨_, h⟩
  · exact ⟨_, h⟩

theorem completeCharacterSelection_response {encoding : AuthEncoding} {gameServerAddress : GameServerAddress}
    {requestId : UInt32} {result : CharacterSelectionResult} {response : List UInt8}
    (h : completeCharacterSelection encoding gameServerAddress requestId result = .ok response) :
    ∃ payload, encodePacket .authCharacterSelectionResponse requestId payload = .ok response := by
  unfold completeCharacterSelection at h
  dsimp only at h
  split at h
  · exact ⟨_, h⟩
  · exact ⟨_, h⟩

/-- What the completion handler of a login changes before the response. -/
theorem completeLogin_marks (encoding : AuthEncoding) (requestId : UInt32)
    (result : AccountAuthenticationResult) (session : AuthTlsSession) :
    ∃ (sessionState : AuthServerSessionState) (calls : List AuthCall),
      session.completeLogin encoding requestId result =
        { session with sessionState, calls, loginInProgress := false }.completed
          (Auth.completeLogin encoding requestId result session.sessionState).1 ∧
      (sessionState = session.sessionState ∧ calls = session.calls ∨
        ∃ accountId, session.sessionState.accountId = none ∧
          result = { status := .success, accountId := some accountId } ∧
          sessionState = { accountId := some accountId } ∧
          calls = session.calls ++ [.markAuthenticated accountId]) := by
  unfold AuthTlsSession.completeLogin
  dsimp only
  rcases completeLogin_cases encoding requestId result session.sessionState with
    hsame | ⟨accountId, hnone, hresult, hmarked⟩
  · rw [hsame]
    refine ⟨_, session.calls, ?_, Or.inl ⟨rfl, rfl⟩⟩
    cases haccount : session.sessionState.accountId with
    | none => rfl
    | some accountId => rfl
  · rw [hmarked, hnone]
    exact ⟨_, _, rfl, Or.inr ⟨accountId, rfl, hresult, rfl, rfl⟩⟩

/-- The response to a job: its type and its request. -/
def jobResponse : AuthJob → PacketType × UInt32
  | .login requestId => (.authLoginResponse, requestId)
  | .characterList requestId => (.authCharacterListResponse, requestId)
  | .characterSelection requestId => (.authCharacterSelectionResponse, requestId)

theorem responds_of_job {request : Packet} {job : AuthJob} (hjob : jobOf request = some job)
    {response : List UInt8}
    (h : ∃ payload, encodePacket (jobResponse job).1 (jobResponse job).2 payload = .ok response) :
    Responds request response := by
  obtain ⟨payload, hencoded⟩ := h
  unfold jobOf at hjob
  unfold Responds answerType
  split at hjob
  · rename_i htype
    obtain rfl := Option.some.inj hjob
    exact ⟨_, payload, rfl, hencoded⟩
  · rename_i htype
    obtain rfl := Option.some.inj hjob
    exact ⟨_, payload, rfl, hencoded⟩
  · rename_i htype
    obtain rfl := Option.some.inj hjob
    exact ⟨_, payload, rfl, hencoded⟩
  · cases hjob

namespace Inv

/-- The completion of a job leaves at most the response to the request in progress. -/
theorem completed (h : Inv session) {index : Nat} {job : AuthJob} (hjob : session.jobs[index]? = some job)
    {outcome : Except Failure (List UInt8)}
    (hresponds : ∀ request response, jobOf request = some job → outcome = .ok response →
      Responds request response) {loginInProgress : Bool}
    (hlogin : loginInProgress = true → loginInProgress = session.loginInProgress ∧
      ∀ requestId, job ≠ .login requestId)
    {sessionState : AuthServerSessionState} {calls : List AuthCall}
    (hkept : sessionState.accountId = none → session.sessionState.accountId = none)
    (hlogged : sessionState.accountId.isSome = true →
      session.sessionState.accountId.isSome = true ∨ ∃ requestId, job = .login requestId)
    (hlog : CallLog sessionState.accountId calls) :
    Inv ({ session with
      jobs := session.jobs.eraseIdx index, loginInProgress, sessionState, calls }.completed outcome) := by
  have hlt := (List.getElem?_eq_some_iff.mp hjob).1
  have hlength := List.length_eraseIdx_of_lt hlt
  have hbase : Base { session with
      jobs := session.jobs.eraseIdx index, loginInProgress, sessionState, calls } :=
    ⟨h.answered, h.deadlines, hlog, h.streamed⟩
  have hopened (hc : session.closed = false) {completing : List (List UInt8)}
      (hcount : completing.length ≤ session.completing.length + 1)
      (hanswers : ∀ response ∈ completing, response ∈ session.completing ∨ outcome = .ok response) :
      Open { session with
        jobs := session.jobs.eraseIdx index, loginInProgress, sessionState, calls, completing } := by
    have ho := h.opened hc
    obtain ⟨hprogress, hhandshakes, -, -, hstarted, hone⟩ := ho.busy (by omega)
    have hflight := ho.flight
    obtain ⟨pending, hanswered, hcounted, hawaiting⟩ := ho.pending
    refine { ho with flight := ?_, pending := ⟨pending, hanswered, hcounted, ?_⟩, login := ?_
                     early := fun _ => ⟨hstarted, hhandshakes⟩, unauthenticated := ?_
                     authenticated := fun hsome => ?_ }
    · show (session.jobs.eraseIdx index).length + completing.length + session.posted.length ≤
        session.requestInProgress.toNat
      omega
    · intro request hr
      obtain ⟨hjobs, hresponses⟩ := hawaiting request hr
      refine ⟨fun other hother => hjobs other (List.mem_of_mem_eraseIdx hother), fun response hm => ?_⟩
      rcases List.mem_append.mp hm with hm | hm
      · rcases hanswers response hm with hold | hencoded
        · exact hresponses response (List.mem_append_left _ hold)
        · exact hresponds request response (hjobs job (List.mem_of_getElem? hjob)) hencoded
      · exact hresponses response (List.mem_append_right _ hm)
    · intro hlogging
      obtain ⟨hsame, hother⟩ := hlogin hlogging
      obtain ⟨requestId, hmem⟩ := ho.login (hsame.symm.trans hlogging)
      have hsingle : session.jobs.length = 1 := by omega
      obtain ⟨only, honly⟩ := List.length_eq_one_iff.mp hsingle
      have hmem' := List.mem_of_getElem? hjob
      rw [honly] at hmem hmem'
      obtain rfl := List.mem_singleton.mp hmem'
      exact absurd (List.mem_singleton.mp hmem).symm (hother requestId)
    · exact fun hs hh hnone => ho.unauthenticated hs hh (hkept hnone)
    · rcases hlogged hsome with hold | ⟨requestId, rfl⟩
      · exact ho.authenticated hold
      -- the request in progress is the one whose job has ended
      obtain ⟨answered, hrequests, -⟩ := hanswered
      rw [hprogress] at hcounted
      obtain ⟨request, rfl⟩ := List.length_eq_one_iff.mp hcounted
      have hrequest := (hawaiting request List.mem_cons_self).1 _ (List.mem_of_getElem? hjob)
      have hlast : session.requests.getLast? = some request := by rw [hrequests, List.getLast?_concat]
      exact Or.inl ⟨hprogress, request, hlast, type_of_login hrequest⟩
  unfold AuthTlsSession.completed
  split
  · rename_i response
    refine ⟨⟨h.answered, h.deadlines, hlog, h.streamed⟩, fun hc => hopened hc ?_ ?_⟩
    · simp
    · intro other hm
      rcases List.mem_append.mp hm with hm | hm
      · exact Or.inl hm
      · obtain rfl := List.mem_singleton.mp hm
        exact Or.inr rfl
  · exact ⟨hbase, fun hc => hopened hc (Nat.le_succ _) fun _ => Or.inl⟩

theorem complete (h : Inv session) {index : Nat} {result : ServiceResult}
    (hn : session.complete encoding index result = some session') : Inv session' := by
  simp only [AuthTlsSession.complete, Option.bind_eq_some_iff] at hn
  obtain ⟨job, hjob, hn⟩ := hn
  split at hn
  · rename_i requestId authenticationResult
    obtain rfl := Option.some.inj hn
    obtain ⟨sessionState, calls, he, hmarks⟩ := completeLogin_marks encoding requestId authenticationResult
      { session with jobs := session.jobs.eraseIdx index }
    rw [he]
    have hresponds (request : Packet) (response : List UInt8) (hrequest : jobOf request = some (.login requestId))
        (hresponse : (Auth.completeLogin encoding requestId authenticationResult session.sessionState).1 =
          .ok response) : Responds request response :=
      responds_of_job hrequest (completeLogin_response hresponse)
    rcases hmarks with ⟨rfl, rfl⟩ | ⟨accountId, hnone, -, rfl, rfl⟩
    · exact h.completed hjob hresponds (fun h => by cases h) id Or.inl h.log
    · have hlog : CallLog none session.calls := by
        have hlog := h.log
        rwa [show session.sessionState.accountId = none from hnone] at hlog
      exact h.completed hjob hresponds (fun h => by cases h) (fun _ => hnone) (fun _ => Or.inr ⟨requestId, rfl⟩)
        (.marked accountId hlog)
  · obtain rfl := Option.some.inj hn
    exact h.completed hjob (fun _ _ hrequest hresponse => responds_of_job hrequest ⟨_, hresponse⟩)
      (fun _ => ⟨rfl, fun _ => AuthJob.noConfusion⟩) id Or.inl h.log
  · obtain rfl := Option.some.inj hn
    exact h.completed hjob (fun _ _ hrequest hresponse =>
      responds_of_job hrequest (completeCharacterSelection_response hresponse))
      (fun _ => ⟨rfl, fun _ => AuthJob.noConfusion⟩) id Or.inl h.log
  · cases hn

theorem postResponse (h : Inv session) {index : Nat} {response : List UInt8}
    (hresponse : session.completing[index]? = some response) :
    Inv { session with
      completing := session.completing.eraseIdx index, posted := session.posted ++ [response] } := by
  refine ⟨⟨h.answered, h.deadlines, h.log, h.streamed⟩, fun hc => ?_⟩
  have ho := h.opened hc
  have hflight := ho.flight
  have hlt := (List.getElem?_eq_some_iff.mp hresponse).1
  obtain ⟨pending, hanswered, hone, hawaiting⟩ := ho.pending
  refine { ho with flight := ?_, pending := ⟨pending, hanswered, hone, ?_⟩ }
  · simp only [List.length_eraseIdx_of_lt hlt, List.length_append, List.length_singleton]
    omega
  · intro request hr
    obtain ⟨hjobs, hresponses⟩ := hawaiting request hr
    refine ⟨hjobs, fun other hm => hresponses other ?_⟩
    have hmem := List.mem_of_getElem? hresponse
    simp only [List.mem_append, List.mem_singleton] at hm ⊢
    rcases hm with hm | hm | rfl
    · exact Or.inl (List.mem_of_mem_eraseIdx hm)
    · exact Or.inr hm
    · exact Or.inl hmem

theorem next (h : Inv session) {event : Event}
    (hn : session.next format encoding event = some session') : Inv session' := by
  cases event with
  | start =>
    simp only [AuthTlsSession.next] at hn
    split at hn
    · cases hn
    · rename_i hfree
      obtain rfl := Option.some.inj hn
      simp only [not_or, Bool.not_eq_true] at hfree
      exact h.startHandshake hfree.1 hfree.2
  | completeHandshake error =>
    simp only [AuthTlsSession.next] at hn
    split at hn
    · cases hn
    · rename_i hfree
      obtain rfl := Option.some.inj hn
      exact h.completeHandshake (not_or.mp hfree).2 error
  | completeRead received =>
    simp only [AuthTlsSession.next] at hn
    split at hn
    · cases hn
    · rename_i hfree
      obtain rfl := Option.some.inj hn
      simp only [not_or, Bool.not_eq_true] at hfree
      exact h.completeRead hfree.1 hfree.2 received
  | dispatchNextPacket =>
    simp only [AuthTlsSession.next] at hn
    split at hn
    · rename_i hd
      obtain rfl := Option.some.inj hn
      exact h.dispatchNextPacket hd
    · cases hn
  | handleResponse index =>
    simp only [AuthTlsSession.next] at hn
    split at hn
    · cases hn
    · obtain ⟨response, hposted, rfl⟩ := Option.map_eq_some_iff.mp hn
      exact h.handleResponse hposted
  | completeWrite error =>
    simp only [AuthTlsSession.next] at hn
    split at hn
    · cases hn
    · rename_i hfree
      obtain rfl := Option.some.inj hn
      exact h.completeWrite (not_or.mp hfree).2 error
  | expire name index error =>
    simp only [AuthTlsSession.next] at hn
    split at hn
    · cases hn
    · exact h.expire hn
  | complete index result => exact h.complete hn
  | postResponse index =>
    obtain ⟨response, hresponse, rfl⟩ := Option.map_eq_some_iff.mp hn
    exact h.postResponse hresponse

end Inv

/-! ## One step -/

/-- What an event changes of the calls, and what it leaves of a session that is closed. -/
structure Advances (event : Event) (session session' : AuthTlsSession) : Prop where
  closed : session.closed = true → session'.closed = true
  requests : session.closed = true → session'.requests = session.requests
  queued : session.closed = true →
    session'.written ++ session'.writeQueue = session.written ++ session.writeQueue
  reads : session.closed = true → session'.reads ≤ session.reads
  calls : ∀ authCall ∈ session'.calls, authCall ∈ session.calls ∨
    (session.closed = false ∧ ∀ accountId, authCall ≠ .markAuthenticated accountId) ∨
    ∃ index accountId, authCall = .markAuthenticated accountId ∧
      event = .complete index (.authentication { status := .success, accountId := some accountId })

namespace Advances

variable {event : Event} {session'' : AuthTlsSession}

theorem of_eq (closed : session.closed = true → session'.closed = true)
    (requests : session'.requests = session.requests)
    (queued : session'.written ++ session'.writeQueue = session.written ++ session.writeQueue)
    (reads : session.closed = true → session'.reads ≤ session.reads) (calls : session'.calls = session.calls) :
    Advances event session session' where
  closed := closed
  requests := fun _ => requests
  queued := fun _ => queued
  reads := reads
  calls := fun _ hcall => Or.inl (calls ▸ hcall)

/-- Of an open session only the calls matter. -/
theorem of_open (hopen : session.closed ≠ true) (hcalls : ∀ authCall ∈ session'.calls,
    authCall ∈ session.calls ∨ ∀ accountId, authCall ≠ .markAuthenticated accountId) :
    Advances event session session' where
  closed := fun hc => absurd hc hopen
  requests := fun hc => absurd hc hopen
  queued := fun hc => absurd hc hopen
  reads := fun hc => absurd hc hopen
  calls := fun authCall hcall =>
    (hcalls authCall hcall).imp_right fun hother => Or.inl ⟨Bool.not_eq_true _ ▸ hopen, hother⟩

theorem close (h : Advances event session session') : Advances event session session'.close := by
  unfold AuthTlsSession.close
  split
  · exact h
  · exact { h with closed := fun _ => rfl }

theorem startRead (h : Advances event session session') : Advances event session session'.startRead := by
  unfold AuthTlsSession.startRead
  split
  · exact h
  · rename_i hopen
    exact { h with reads := fun hc => absurd (h.closed hc) hopen }

end Advances

theorem advances_dispatchNextPacket (event : Event) (session : AuthTlsSession) :
    Advances event session (session.dispatchNextPacket format encoding) := by
  have hkept (receiveBuffer : ReceiveBuffer) (requestInProgress : Bool) : Advances event session
      { session with dispatching := false, receiveBuffer, requestInProgress } :=
    .of_eq id rfl rfl (fun _ => Nat.le_refl _) rfl
  unfold AuthTlsSession.dispatchNextPacket
  dsimp only
  split
  · exact .of_eq id rfl rfl (fun _ => Nat.le_refl _) rfl
  rename_i hfree
  have hopen : session.closed ≠ true := (not_or.mp hfree).1
  split
  · exact (hkept _ _).close
  · exact (hkept _ _).startRead
  rename_i packet receiveBuffer _
  have hcases : Dispatched packet _ _ := @dispatched format encoding packet { session with
    dispatching := false, receiveBuffer, requestInProgress := true
    requests := session.requests ++ [packet] }
  generalize AuthTlsSession.dispatchAsync format encoding packet _ = out at hcases ⊢
  cases hcases with
  | failed failure loginInProgress =>
    refine Advances.close ?_
    exact .of_open hopen fun _ => Or.inl
  | posted answer => exact .of_open hopen fun _ => Or.inl
  | login hnone htype =>
    refine .of_open hopen fun authCall hcall => (List.mem_append.mp hcall).imp_right fun hnew => ?_
    obtain rfl := List.mem_singleton.mp hnew
    exact fun _ => AuthCall.noConfusion
  | asked haccount hlog hmark =>
    refine .of_open hopen fun authCall hcall => (List.mem_append.mp hcall).imp_right fun hnew => ?_
    obtain rfl := List.mem_singleton.mp hnew
    exact hmark

theorem advances_handleResponse (event : Event) (response : List UInt8) (session : AuthTlsSession) :
    Advances event session (session.handleResponse response) := by
  unfold AuthTlsSession.handleResponse
  dsimp only
  split
  · exact .of_eq id rfl rfl (fun _ => Nat.le_refl _) rfl
  rename_i hopen
  rcases queueWrite_cases response { session with
      requestInProgress := false
      authenticationDeadline := if session.sessionState.accountId.isSome then
        session.authenticationDeadline.cancel else session.authenticationDeadline } with
    he | ⟨pendingWriteBytes, he⟩ <;> rw [he]
  · refine Advances.close ?_
    exact .of_open hopen fun _ => Or.inl
  · refine .of_open hopen fun authCall hcall => Or.inl ?_
    dsimp only [afterQueueWrite] at hcall
    split at hcall <;> exact hcall

theorem advances_completeWrite (event : Event) (error : Bool) (session : AuthTlsSession) :
    Advances event session (session.completeWrite error) := by
  unfold AuthTlsSession.completeWrite
  dsimp only
  split
  · exact Advances.close (.of_eq id rfl rfl (fun _ => Nat.le_refl _) rfl)
  split
  · exact .of_eq id rfl rfl (fun _ => Nat.le_refl _) rfl
  rename_i front writeQueue hqueue
  have hqueued : session.written ++ [front] ++ writeQueue = session.written ++ session.writeQueue := by
    rw [hqueue, List.append_assoc, List.singleton_append]
  split
  · exact .of_eq id rfl hqueued (fun _ => Nat.le_refl _) rfl
  · exact .of_eq id rfl hqueued (fun _ => Nat.le_refl _) rfl

theorem advances_complete {index : Nat} {result : ServiceResult}
    (hn : session.complete encoding index result = some session') :
    Advances (.complete index result) session session' := by
  simp only [AuthTlsSession.complete, Option.bind_eq_some_iff] at hn
  obtain ⟨job, -, hn⟩ := hn
  have hcompleted {event : Event} {session' : AuthTlsSession} (h : Advances event session session')
      (outcome : Except Failure (List UInt8)) : Advances event session (session'.completed outcome) := by
    unfold AuthTlsSession.completed
    cases outcome with
    | error failure => exact h
    | ok response => exact { h with }
  have hkept (event : Event) : Advances event session { session with jobs := session.jobs.eraseIdx index } :=
    .of_eq id rfl rfl (fun _ => Nat.le_refl _) rfl
  split at hn
  · rename_i requestId authenticationResult
    obtain rfl := Option.some.inj hn
    obtain ⟨sessionState, calls, he, hmarks⟩ := completeLogin_marks encoding requestId authenticationResult
      { session with jobs := session.jobs.eraseIdx index }
    rw [he]
    have hstate := hkept (.complete index (.authentication authenticationResult))
    refine hcompleted ?_ _
    refine { hstate with calls := fun authCall hcall => ?_ }
    rcases hmarks with ⟨-, rfl⟩ | ⟨accountId, -, rfl, -, rfl⟩
    · exact Or.inl hcall
    · refine (List.mem_append.mp hcall).imp_right fun hmark => Or.inr ?_
      exact ⟨index, accountId, List.mem_singleton.mp hmark, rfl⟩
  · obtain rfl := Option.some.inj hn
    exact hcompleted (hkept _) _
  · obtain rfl := Option.some.inj hn
    exact hcompleted (hkept _) _
  · cases hn

theorem advances_next {event : Event} (hn : session.next format encoding event = some session') :
    Advances event session session' := by
  cases event with
  | start =>
    simp only [AuthTlsSession.next] at hn
    split at hn
    · cases hn
    · obtain rfl := Option.some.inj hn
      exact .of_eq id rfl rfl (fun _ => Nat.le_refl _) rfl
  | completeHandshake error =>
    simp only [AuthTlsSession.next] at hn
    split at hn
    · cases hn
    · obtain rfl := Option.some.inj hn
      unfold AuthTlsSession.completeHandshake
      cases error with
      | true => exact Advances.close (.of_eq id rfl rfl (fun _ => Nat.le_refl _) rfl)
      | false => exact Advances.startRead (.of_eq id rfl rfl (fun _ => Nat.le_refl _) rfl)
  | completeRead received =>
    simp only [AuthTlsSession.next] at hn
    split at hn
    · cases hn
    · obtain rfl := Option.some.inj hn
      unfold AuthTlsSession.completeRead
      cases received with
      | none => exact Advances.close (.of_eq id rfl rfl (fun _ => Nat.sub_le _ _) rfl)
      | some bytes => exact .of_eq id rfl rfl (fun _ => Nat.sub_le _ _) rfl
  | dispatchNextPacket =>
    simp only [AuthTlsSession.next] at hn
    split at hn
    · obtain rfl := Option.some.inj hn
      exact advances_dispatchNextPacket _ session
    · cases hn
  | handleResponse index =>
    simp only [AuthTlsSession.next] at hn
    split at hn
    · cases hn
    · obtain ⟨response, -, rfl⟩ := Option.map_eq_some_iff.mp hn
      have hadvances := advances_handleResponse (.handleResponse index) response
        { session with posted := session.posted.eraseIdx index }
      exact { hadvances with }
  | completeWrite error =>
    simp only [AuthTlsSession.next] at hn
    split at hn
    · cases hn
    · obtain rfl := Option.some.inj hn
      exact advances_completeWrite _ error session
  | expire name index error =>
    simp only [AuthTlsSession.next, AuthTlsSession.expire] at hn
    split at hn
    · cases hn
    obtain ⟨wait, -, hn⟩ := Option.bind_eq_some_iff.mp hn
    split at hn
    · cases hn
    obtain rfl := Option.some.inj hn
    have hkept (deadline : SessionDeadline) :
        Advances (.expire name index error) session (session.withDeadline name deadline) := by
      cases name <;> exact .of_eq id rfl rfl (fun _ => Nat.le_refl _) rfl
    split
    · exact (hkept _).close
    · exact hkept _
  | complete index result => exact advances_complete hn
  | postResponse index =>
    obtain ⟨response, -, rfl⟩ := Option.map_eq_some_iff.mp hn
    exact .of_eq id rfl rfl (fun _ => Nat.le_refl _) rfl

/-! ## Every run -/

/-- What holds of a session in every order of its completions. -/
structure Served (session : AuthTlsSession) : Prop where
  /-- Between handlers an open session has the handshake, a read or a request under way, and one of them only. -/
  flow : session.started = true → session.dispatching = false → session.closed = false →
    (session.handshakes, session.reads, session.requestInProgress) ∈
      [(1, 0, false), (0, 1, false), (0, 0, true)]
  /-- The responses queued so far answer the first requests, one by one. -/
  answered : ∃ pending, Answered session pending ∧
    (session.closed = false → pending.length = session.requestInProgress.toNat)
  streamed : Streamed session
  follows : ∀ (before : List AuthCall) (authCall : AuthCall), before ++ [authCall] <+: session.calls →
    Follows before authCall
  /-- No login is refused because of another one. -/
  login : session.closed = false → session.dispatching = true → session.loginInProgress = false

theorem Inv.served (h : Inv session) : Served session where
  flow := by
    intro hstarted hd hc
    have hflow := (h.opened hc).flow
    rw [hstarted, hd, Bool.toNat_true, Bool.toNat_false] at hflow
    cases hprogress : session.requestInProgress with
    | false =>
      rw [hprogress, Bool.toNat_false] at hflow
      rcases Nat.eq_zero_or_pos session.handshakes with hzero | hpos
      · have hreads : session.reads = 1 := by omega
        simp [hzero, hreads]
      · have hhandshakes : session.handshakes = 1 := by omega
        have hreads : session.reads = 0 := by omega
        simp [hhandshakes, hreads]
    | true =>
      rw [hprogress, Bool.toNat_true] at hflow
      have hhandshakes : session.handshakes = 0 := by omega
      have hreads : session.reads = 0 := by omega
      simp [hhandshakes, hreads]
  answered := by
    by_cases hc : session.closed = true
    · obtain ⟨pending, hanswered⟩ := h.answered
      exact ⟨pending, hanswered, fun hopen => by simp [hc] at hopen⟩
    · obtain ⟨pending, hanswered, hlength, -⟩ := (h.opened (Bool.not_eq_true _ ▸ hc)).pending
      exact ⟨pending, hanswered, fun _ => hlength⟩
  streamed := h.streamed
  follows := fun _ _ hb => h.log.follows hb
  login := by
    intro hc hd
    have ho := h.opened hc
    rw [Bool.eq_false_iff]
    intro hlogging
    obtain ⟨requestId, hjob⟩ := ho.login hlogging
    obtain ⟨-, -, -, -, hjobs, -⟩ := ho.idle hd
    rw [hjobs] at hjob
    cases hjob

theorem inv_of_run {options : NetworkSessionOptions} {gameServerAddress : GameServerAddress}
    {clientAddress : Bytes}
    (h : Reachable (AuthTlsSession.next format encoding) { options, gameServerAddress, clientAddress } session) :
    Inv session :=
  reachable_invariant Inv (fun _ _ _ hi hn => hi.next hn) (inv_new options gameServerAddress clientAddress) h

/-- In every run the requests are the packets received, they are answered one by one, and the account whose
characters are asked for is one that the service has found for a login. -/
theorem served_of_run {options : NetworkSessionOptions} {gameServerAddress : GameServerAddress}
    {clientAddress : Bytes} {events : List Event}
    (h : run (AuthTlsSession.next format encoding) { options, gameServerAddress, clientAddress } events =
      some session) :
    Served session ∧ ∀ accountId, .markAuthenticated accountId ∈ session.calls →
      ∃ index, Event.complete index (.authentication { status := .success, accountId := some accountId }) ∈
        events := by
  refine ⟨(inv_of_run ⟨events, h⟩).served, fun accountId hmark => ?_⟩
  obtain ⟨event, hevent, u, v, hn, hbefore, hafter⟩ :=
    run_gains (fun s => .markAuthenticated accountId ∈ s.calls) h List.not_mem_nil hmark
  rcases (advances_next hn).calls _ hafter with hold | ⟨-, hother⟩ | ⟨index, account, hcall, rfl⟩
  · exact absurd hold hbefore
  · exact absurd rfl (hother accountId)
  · obtain rfl := AuthCall.markAuthenticated.inj hcall
    exact ⟨index, hevent⟩

/-- The payload `[1]` is a login, every other one asks for the characters. -/
def loginFormat : AuthFormat := fun bytes =>
  some { protocolVersion := 1, payload := if bytes = [1] then .loginRequest [97] [98] else .characterListRequest }

def terseEncoding : AuthEncoding where
  loginResponse _ := [1]
  characterListResponse _ characters := [characters.length.toUInt8]
  characterSelectionResponse _ := [3]

/-- A login, the end of the wait for it, and the list of its characters. -/
def loginEvents : List Event :=
  [.start, .completeHandshake false, .completeRead (some [0, 9, 0, 201, 0, 0, 0, 5, 1]), .dispatchNextPacket,
    .complete 0 (.authentication { status := .success, accountId := some 7 }), .postResponse 0,
    .handleResponse 0, .dispatchNextPacket, .expire .authentication 0 true, .completeWrite false,
    .completeRead (some [0, 9, 0, 202, 0, 0, 0, 6, 2]), .dispatchNextPacket,
    .complete 0 (.characterList { status := .success, characters := [⟨1, "Hero", 3⟩] }), .postResponse 0,
    .handleResponse 0, .dispatchNextPacket]

def newSession : AuthTlsSession := { gameServerAddress := { host := "game", port := 9000 } }

theorem served_of_run_login :
    ∃ session, run (AuthTlsSession.next loginFormat terseEncoding) newSession loginEvents = some session ∧
      session.closed = false ∧
      session.written ++ session.writeQueue =
        [[0, 9, 1, 45, 0, 0, 0, 5, 1], [0, 9, 1, 46, 0, 0, 0, 6, 1]] ∧
      Served session := by
  have hrun : (run (AuthTlsSession.next loginFormat terseEncoding) newSession loginEvents).any (fun session =>
      !session.closed && decide (session.written ++ session.writeQueue =
        [[0, 9, 1, 45, 0, 0, 0, 5, 1], [0, 9, 1, 46, 0, 0, 0, 6, 1]])) = true := by decide +kernel
  obtain ⟨session, hr, hstate⟩ := Option.any_eq_true .. |>.mp hrun
  simp only [Bool.and_eq_true, Bool.not_eq_true', decide_eq_true_eq] at hstate
  exact ⟨session, hr, hstate.1, hstate.2, (served_of_run hr).1⟩

/-! ### Deadlines and the end -/

/-- A session after others of its events, once it is closed: it stays closed and takes, reads and queues
nothing. A login that is under way may still be marked. -/
structure Settled (session session' : AuthTlsSession) : Prop where
  closed : session'.closed = true
  requests : session'.requests = session.requests
  queued : session'.written ++ session'.writeQueue = session.written ++ session.writeQueue
  reads : session'.reads ≤ session.reads
  calls : ∀ authCall ∈ session'.calls, authCall ∈ session.calls ∨
    ∃ accountId, authCall = .markAuthenticated accountId

theorem settled_of_run (hc : session.closed = true) {events : List Event}
    (hr : run (AuthTlsSession.next format encoding) session events = some session') : Settled session session' := by
  refine reachable_invariant (Settled session) (fun u event v hi hn => ?_)
    ⟨hc, rfl, rfl, Nat.le_refl _, fun _ => Or.inl⟩ ⟨events, hr⟩
  have hstep := advances_next hn
  refine ⟨hstep.closed hi.closed, (hstep.requests hi.closed).trans hi.requests,
    (hstep.queued hi.closed).trans hi.queued, (hstep.reads hi.closed).trans hi.reads, fun authCall hcall => ?_⟩
  rcases hstep.calls authCall hcall with hold | ⟨hopen, -⟩ | ⟨-, accountId, hmark, -⟩
  · exact hi.calls authCall hold
  · rw [hi.closed] at hopen
    cases hopen
  · exact Or.inr ⟨accountId, hmark⟩

theorem close_closed (session : AuthTlsSession) : session.close.closed = true := by
  unfold AuthTlsSession.close
  split
  · assumption
  · rfl

theorem expires_of_live (hd : session.dispatching = false) {name : DeadlineName}
    (h : Live (session.deadline name)) :
    ∃ index session', session.next format encoding (.expire name index false) = some session' ∧
      session'.closed = true := by
  obtain ⟨wait, hwait, hcurrent⟩ := h
  obtain ⟨index, hindex⟩ := List.mem_iff_getElem?.mp hwait
  refine ⟨index, _, ?_, close_closed (session.withDeadline name
    { session.deadline name with waits := (session.deadline name).waits.eraseIdx index })⟩
  simp [AuthTlsSession.next, AuthTlsSession.expire, hindex, hd, hcurrent]

/-- What a handler does whose wait is not the current one. -/
theorem expire_stale {name : DeadlineName} {index : Nat} {error : Bool}
    (hn : session.next format encoding (.expire name index error) = some session')
    (hstale : ∀ wait, (session.deadline name).waits[index]? = some wait →
      wait.generation ≠ (session.deadline name).generation) :
    session' = session.withDeadline name
      { session.deadline name with waits := (session.deadline name).waits.eraseIdx index } := by
  simp only [AuthTlsSession.next, AuthTlsSession.expire] at hn
  split at hn
  · cases hn
  obtain ⟨wait, hwait, hn⟩ := Option.bind_eq_some_iff.mp hn
  split at hn
  · cases hn
  rw [if_neg fun hcurrent => hstale wait hwait hcurrent.2] at hn
  exact (Option.some.inj hn).symm

structure Guarded (format : AuthFormat) (encoding : AuthEncoding) (session : AuthTlsSession) : Prop where
  /-- An open session that waits for its client, or has no login, is closed when one of its waits ends. -/
  expires : session.closed = false → session.started = true → session.dispatching = false →
    session.requestInProgress = false ∨ session.sessionState.accountId = none ∨ session.writeQueue ≠ [] →
      ∃ name index session', session.next format encoding (.expire name index false) = some session' ∧
        session'.closed = true
  /-- The time that a login may take does not close a session that has answered one. -/
  authenticated : session.sessionState.accountId.isSome = true → ¬ LoggingIn session →
    ∀ (index : Nat) (error : Bool) (session' : AuthTlsSession),
      session.next format encoding (.expire .authentication index error) = some session' →
        session'.closed = session.closed
  /-- The handler of a wait that was cancelled or restarted changes nothing else. -/
  stale : ∀ (name : DeadlineName) (index : Nat) (error : Bool) (wait : DeadlineWait)
    (session' : AuthTlsSession), (session.deadline name).waits[index]? = some wait →
      wait.superseded = true →
        session.next format encoding (.expire name index error) = some session' →
          session' = session.withDeadline name { session.deadline name with
            waits := (session.deadline name).waits.eraseIdx index }
  settled : session.closed = true → ∀ (events : List Event) (session' : AuthTlsSession),
    run (AuthTlsSession.next format encoding) session events = some session' → Settled session session'

theorem Inv.guarded (h : Inv session) : Guarded format encoding session where
  expires := by
    intro hc hstarted hd hwaits
    have ho := h.opened hc
    rcases Nat.eq_zero_or_pos session.handshakes with hzero | hpos
    · rcases hwaits with hprogress | hnone | hqueue
      · have hflow := ho.flow
        rw [hstarted, hd, hprogress, Bool.toNat_true, Bool.toNat_false] at hflow
        have hlive : Live (session.deadline .read) := ho.read (by omega)
        exact ⟨_, expires_of_live hd hlive⟩
      · have hlive : Live (session.deadline .authentication) := ho.unauthenticated hstarted hzero hnone
        exact ⟨_, expires_of_live hd hlive⟩
      · have hlive : Live (session.deadline .write) := ho.write hqueue
        exact ⟨_, expires_of_live hd hlive⟩
    · have hlive : Live (session.deadline .handshake) := ho.handshake (Nat.ne_of_gt hpos)
      exact ⟨_, expires_of_live hd hlive⟩
  authenticated := by
    intro hsome hanswered index error session' hn
    cases hc : session.closed with
    | true => exact (advances_next hn).closed hc
    | false =>
      have hdead : ¬ Live (session.deadline .authentication) :=
        ((h.opened hc).authenticated hsome).resolve_left hanswered
      rw [expire_stale hn fun wait hwait hcurrent => hdead ⟨wait, List.mem_of_getElem? hwait, hcurrent⟩]
      exact hc
  stale := by
    intro name index error wait session' hwait hsuperseded hn
    refine expire_stale hn fun other hother => ?_
    obtain rfl := Option.some.inj (hwait.symm.trans hother)
    exact (h.deadlines name wait (List.mem_of_getElem? hwait)).2.mp hsuperseded
  settled := fun hc _ _ hr => settled_of_run hc hr

/-- In every run an open session is left waiting only where a deadline ends the wait, and a closed one is left
alone. -/
theorem guarded_of_run {options : NetworkSessionOptions} {gameServerAddress : GameServerAddress}
    {clientAddress : Bytes}
    (h : Reachable (AuthTlsSession.next format encoding) { options, gameServerAddress, clientAddress } session) :
    Guarded format encoding session :=
  (inv_of_run h).guarded

theorem guarded_of_run_login :
    ∃ session, run (AuthTlsSession.next loginFormat terseEncoding) newSession loginEvents = some session ∧
      session.closed = false ∧ session.sessionState.accountId = some 7 ∧
      Guarded loginFormat terseEncoding session := by
  have hrun : (run (AuthTlsSession.next loginFormat terseEncoding) newSession loginEvents).any (fun session =>
      !session.closed && decide (session.sessionState.accountId = some 7)) = true := by decide +kernel
  obtain ⟨session, hr, hstate⟩ := Option.any_eq_true .. |>.mp hrun
  simp only [Bool.and_eq_true, Bool.not_eq_true', decide_eq_true_eq] at hstate
  exact ⟨session, hr, hstate.1, hstate.2, guarded_of_run ⟨loginEvents, hr⟩⟩

end DnfServer.Auth.TlsSessions
