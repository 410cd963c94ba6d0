import DnfServer.Library.Runs
import DnfServer.Model.TcpSession
import Mathlib.Data.List.Infix

/-!
# What a session does in any order of completions

An open session has one read, one request or the handler that goes on with the next packet, and never
two of them. While a request is in progress at most one response to it is under way, so the
responses are queued in the order of the requests. The player is registered in the same handler that
ends the login, before the next packet is looked at.
-/

namespace DnfServer.Tcp

open DnfServer.Library TcpSession
set_option autoImplicit false

/-! ## Calls -/

/-- The calls of a session, by whether its player is registered and whether it is closed. -/
inductive CallLog : Bool → Bool → List SessionCall → Prop where
  | nil : CallLog false false []
  | login {registered : Bool} {calls : List SessionCall} (requestId : UInt32) (ticket : AuthTicket)
      (h : CallLog registered false calls) :
      CallLog registered false (calls ++ [.login requestId ticket])
  | dispatch {calls : List SessionCall} (request : Packet) (h : CallLog true false calls) :
      CallLog true false (calls ++ [.dispatch request])
  | accepted {calls : List SessionCall} (playerId : PlayerId) (h : CallLog false false calls) :
      CallLog true false (calls ++ [.registerAuthenticatedPlayer playerId true])
  | refused {calls : List SessionCall} (playerId : PlayerId) (h : CallLog false false calls) :
      CallLog false true (calls ++ [.registerAuthenticatedPlayer playerId false] ++ [.removeSession])
  | removed {registered : Bool} {calls : List SessionCall} (h : CallLog registered false calls) :
      CallLog registered true (calls ++ [.removeSession])

namespace CallLog

variable {registered closed : Bool} {calls : List SessionCall}

theorem count_removeSession (h : CallLog registered closed calls) :
    calls.count .removeSession = closed.toNat := by
  induction h with
  | nil => rfl
  | login | dispatch | accepted | refused | removed => simp_all [List.count_append]

/-- The player of a registered session was registered with success, that of another was not
registered at all unless the session is closed. -/
theorem registered_iff (h : CallLog registered closed calls) :
    (registered = true → ∃ playerId, .registerAuthenticatedPlayer playerId true ∈ calls) ∧
      (registered = false → closed = false → ∀ (playerId : PlayerId) (ok : Bool),
        .registerAuthenticatedPlayer playerId ok ∉ calls) := by
  induction h with
  | nil => simp
  | login | dispatch | accepted | refused | removed => simp_all

theorem dispatch_registered (h : CallLog registered closed calls) {before : List SessionCall}
    {request : Packet} (hb : before ++ [.dispatch request] <+: calls) :
    ∃ playerId, .registerAuthenticatedPlayer playerId true ∈ before := by
  induction h with
  | nil => simp at hb
  | login _ _ _ ih | accepted _ _ ih | removed _ ih =>
    rcases List.prefix_concat_iff.mp hb with he | hb
    · cases (List.append_inj' he rfl).2
    · exact ih hb
  | refused _ _ ih =>
    rcases List.prefix_concat_iff.mp hb with he | hb
    · cases (List.append_inj' he rfl).2
    rcases List.prefix_concat_iff.mp hb with he | hb
    · cases (List.append_inj' he rfl).2
    · exact ih hb
  | dispatch _ hlog ih =>
    rcases List.prefix_concat_iff.mp hb with he | hb
    · obtain ⟨rfl, -⟩ := List.append_inj' he rfl
      exact hlog.registered_iff.1 rfl
    · exact ih hb

/-- Before the player is registered there was neither another registration nor the removal. -/
theorem register_first (h : CallLog registered closed calls) {before : List SessionCall}
    {playerId : PlayerId} {ok : Bool}
    (hb : before ++ [.registerAuthenticatedPlayer playerId ok] <+: calls) :
    .removeSession ∉ before ∧
      ∀ (other : PlayerId) (ok' : Bool), .registerAuthenticatedPlayer other ok' ∉ before := by
  have hfirst {calls : List SessionCall} (hlog : CallLog false false calls) :
      .removeSession ∉ calls ∧
        ∀ (other : PlayerId) (ok' : Bool), .registerAuthenticatedPlayer other ok' ∉ calls :=
    ⟨List.count_eq_zero.mp hlog.count_removeSession, hlog.registered_iff.2 rfl rfl⟩
  induction h with
  | nil => simp at hb
  | login _ _ _ ih | dispatch _ _ ih | removed _ ih =>
    rcases List.prefix_concat_iff.mp hb with he | hb
    · cases (List.append_inj' he rfl).2
    · exact ih hb
  | accepted _ hlog ih =>
    rcases List.prefix_concat_iff.mp hb with he | hb
    · obtain ⟨rfl, -⟩ := List.append_inj' he rfl
      exact hfirst hlog
    · exact ih hb
  | refused _ hlog ih =>
    rcases List.prefix_concat_iff.mp hb with he | hb
    · cases (List.append_inj' he rfl).2
    rcases List.prefix_concat_iff.mp hb with he | hb
    · obtain ⟨rfl, -⟩ := List.append_inj' he rfl
      exact hfirst hlog
    · exact ih hb

end CallLog

/-! ## Deadlines -/

/-- The wait of the current generation is the one that nothing has superseded. -/
def Numbered (deadline : SessionDeadline) : Prop :=
  ∀ wait ∈ deadline.waits, wait.generation ≤ deadline.generation ∧
    (wait.superseded = true ↔ wait.generation ≠ deadline.generation)

theorem numbered_new : Numbered {} := fun wait hw => by simp at hw

namespace Numbered

variable {deadline : SessionDeadline}

theorem older (h : Numbered deadline) :
    ∀ wait ∈ SessionDeadline.supersede deadline.waits,
      wait.generation ≤ deadline.generation ∧ wait.superseded = true := by
  intro wait hw
  obtain ⟨old, hold, rfl⟩ := List.mem_map.mp hw
  exact ⟨(h old hold).1, rfl⟩

theorem cancel (h : Numbered deadline) : Numbered deadline.cancel := by
  intro wait hw
  obtain ⟨hle, hs⟩ := h.older wait hw
  have hlt : wait.generation < deadline.generation + 1 := Nat.lt_succ_of_le hle
  exact ⟨Nat.le_of_lt hlt, iff_of_true hs (Nat.ne_of_lt hlt)⟩

theorem start (h : Numbered deadline) : Numbered deadline.start := by
  intro wait hw
  simp only [SessionDeadline.start, List.mem_append, List.mem_singleton] at hw ⊢
  rcases hw with hw | rfl
  · obtain ⟨hle, hs⟩ := h.older wait hw
    have hlt : wait.generation < deadline.generation + 1 := Nat.lt_succ_of_le hle
    exact ⟨Nat.le_of_lt hlt, iff_of_true hs (Nat.ne_of_lt hlt)⟩
  · simp

theorem erase (h : Numbered deadline) (index : Nat) :
    Numbered { deadline with waits := deadline.waits.eraseIdx index } :=
  fun wait hw => h wait (List.mem_of_mem_eraseIdx hw)

end Numbered

/-! ## The invariant -/

/-- The type of the response to a request. -/
def answerType : PacketType → Option PacketType
  | .loginRequest => some .loginResponse
  | type => responseType type

/-- The response is a packet of the type that answers the request, with its id. -/
def Responds (request : Packet) (response : List UInt8) : Prop :=
  ∃ (type : PacketType) (payload : List UInt8), answerType request.header.type = some type ∧
    encodePacket type request.header.requestId payload = .ok response

/-- Responses have been queued to all requests but the last ones. -/
def Answered (session : TcpSession) (pending : List Packet) : Prop :=
  ∃ answered, session.requests = answered ++ pending ∧
    List.Forall₂ Responds answered (session.written ++ session.writeQueue)

/-- What is under way is the response to the request. -/
def Awaiting (session : TcpSession) (request : Packet) : Prop :=
  (∀ requestId ∈ session.logins,
      request.header.type = .loginRequest ∧ requestId = request.header.requestId) ∧
    ∀ response ∈ session.completing ++ session.posted, Responds request response

/-- An open session. -/
structure Open (session : TcpSession) : Prop where
  flow : session.reads + session.dispatching.toNat + session.requestInProgress.toNat =
    session.started.toNat
  flight : session.logins.length + session.completing.length + session.posted.length ≤
    session.requestInProgress.toNat
  pending : ∃ pending, Answered session pending ∧
    pending.length = session.requestInProgress.toNat ∧ ∀ request ∈ pending, Awaiting session request
  auth : session.authState.isAuthenticated = true →
    session.authenticationRegistered = true ∨ session.requestInProgress = true

/-- What also holds in the middle of a handler. -/
structure Base (session : TcpSession) : Prop where
  answered : ∃ pending, Answered session pending
  deadlines : ∀ name, Numbered (session.deadline name)
  log : CallLog session.authenticationRegistered session.closed session.calls

structure Inv (session : TcpSession) : Prop extends Base session where
  opened : session.closed = false → Open session

section

variable {session : TcpSession}

/-- While the handler is on the strand nothing else is under way. -/
theorem Open.idle (ho : Open session) (hd : session.dispatching = true) :
    session.reads = 0 ∧ session.requestInProgress = false ∧ session.started = true ∧
      session.logins = [] ∧ session.completing = [] ∧ session.posted = [] := by
  have hflow := ho.flow
  have hflight := ho.flight
  have hstarted := Bool.toNat_le session.started
  rw [hd, Bool.toNat_true] at hflow
  have hprogress : session.requestInProgress = false := Bool.toNat_eq_zero.mp (by omega)
  rw [hprogress, Bool.toNat_false] at hflow hflight
  refine ⟨by omega, hprogress, Bool.toNat_eq_one.mp (by omega), ?_, ?_, ?_⟩ <;>
    exact List.eq_nil_of_length_eq_zero (by omega)

/-- A response under way is the only one, and a request is in progress. -/
theorem Open.busy (ho : Open session)
    (hf : 0 < session.logins.length + session.completing.length + session.posted.length) :
    session.requestInProgress = true ∧ session.reads = 0 ∧ session.dispatching = false ∧
      session.started = true ∧
      session.logins.length + session.completing.length + session.posted.length = 1 := by
  have hflow := ho.flow
  have hflight := ho.flight
  have hstarted := Bool.toNat_le session.started
  have hprogress : session.requestInProgress = true := by
    have hle := Bool.toNat_le session.requestInProgress
    exact Bool.toNat_eq_one.mp (by omega)
  rw [hprogress, Bool.toNat_true] at hflow hflight
  refine ⟨hprogress, by omega, Bool.toNat_eq_zero.mp (by omega), Bool.toNat_eq_one.mp (by omega), ?_⟩
  omega

end

variable {format : LoginFormat} {sessionId : SessionId} {session session' : TcpSession}

theorem inv_new (options : NetworkSessionOptions) : Inv { options } where
  answered := ⟨[], [], rfl, .nil⟩
  deadlines := fun name => by cases name <;> exact numbered_new
  log := .nil
  opened := fun _ => ⟨rfl, Nat.le_refl 0, ⟨[], ⟨[], rfl, .nil⟩, rfl, by simp⟩, by simp [SessionAuthState.isAuthenticated]⟩

/-- A handler that closes the session. -/
theorem Base.close (h : Base session) : Inv session.closeOnStrand := by
  unfold closeOnStrand
  split
  · rename_i hclosed
    exact { h with opened := fun hopen => by simp [hclosed] at hopen }
  · rename_i hopen
    have hlog := h.log
    rw [Bool.not_eq_true] at hopen
    rw [hopen] at hlog
    refine ⟨⟨h.answered, ?_, hlog.removed⟩, fun hc => by simp [call] at hc⟩
    intro name
    cases name
    · exact (h.deadlines .authentication).cancel
    · exact (h.deadlines .read).cancel
    · exact (h.deadlines .write).cancel

/-- The session was closed before. -/
theorem Base.closed (h : Base session) (hc : session.closed = true) : Inv session :=
  { h with opened := fun hopen => by simp [hc] at hopen }

theorem Base.startRead (h : Base session) (ho : session.closed = false → Open { session with
    readDeadline := session.readDeadline.start, reads := session.reads + 1 }) :
    Inv session.startRead := by
  unfold TcpSession.startRead
  split
  · rename_i hc
    exact h.closed hc
  · refine ⟨⟨h.answered, ?_, h.log⟩, ho⟩
    intro name
    cases name
    · exact h.deadlines .authentication
    · exact (h.deadlines .read).start
    · exact h.deadlines .write

theorem Base.startWrite (h : Base session) (ho : session.closed = false → Open session) :
    Inv session.startWrite := by
  refine ⟨⟨h.answered, ?_, h.log⟩, fun hc => { ho hc with }⟩
  intro name
  cases name
  · exact h.deadlines .authentication
  · exact h.deadlines .read
  · exact (h.deadlines .write).start

/-! ## Handlers -/

namespace Inv

/-- An open session without the handler on the strand, whose read has completed. -/
theorem completeRead (h : Inv session) (hd : session.dispatching = false) (hr : session.reads ≠ 0)
    (received : Option (List UInt8)) : Inv (session.completeRead received) := by
  have hbase : Base { session with
      readDeadline := session.readDeadline.cancel, reads := session.reads - 1 } := by
    refine ⟨h.answered, ?_, h.log⟩
    intro name
    cases name
    · exact h.deadlines .authentication
    · exact (h.deadlines .read).cancel
    · exact h.deadlines .write
  unfold TcpSession.completeRead
  cases received with
  | none => exact hbase.close
  | some bytes =>
    refine ⟨⟨hbase.answered, hbase.deadlines, hbase.log⟩, fun hc => ?_⟩
    have ho := h.opened hc
    refine { ho with flow := ?_ }
    have hflow := ho.flow
    simp only [hd, Bool.toNat_false, Bool.toNat_true] at hflow ⊢
    omega

theorem start (h : Inv session) (hd : session.dispatching = false) (hs : session.started = false) :
    Inv session.start := by
  unfold TcpSession.start
  dsimp only
  split
  · rename_i hc
    exact Base.closed ⟨h.answered, h.deadlines, h.log⟩ hc
  · refine Base.startRead ⟨h.answered, ?_, h.log⟩ fun hc => ?_
    · intro name
      cases name
      · exact (h.deadlines .authentication).start
      · exact h.deadlines .read
      · exact h.deadlines .write
    · have ho := h.opened hc
      refine { ho with flow := ?_ }
      have hflow := ho.flow
      simp only [hd, hs, Bool.toNat_false, Bool.toNat_true] at hflow ⊢
      omega

end Inv

/-! ### The next packet -/

/-- What `DispatchAsync` leaves of a session. -/
inductive Dispatched (format : LoginFormat) (request : Packet) (session : TcpSession) :
    Except Failure Unit × TcpSession → Prop where
  | rejected (failure : Failure) : Dispatched format request session (.error failure, session)
  | failed (failure : Failure) (hauth : session.authState.isAuthenticated = true) :
      Dispatched format request session (.error failure, session.call (.dispatch request))
  | login (ticket : AuthTicket) (htype : request.header.type = .loginRequest) :
      Dispatched format request session (.ok (), { session with
        logins := session.logins ++ [request.header.requestId] }.call
          (.login request.header.requestId ticket))
  | answered {response : List UInt8} (hauth : session.authState.isAuthenticated = true)
      (hanswer : Responds request response) :
      Dispatched format request session (.ok (), { session.call (.dispatch request) with
        posted := session.posted ++ [response] })

theorem answers_dispatch {request : Packet} {payload : Except Failure (List UInt8)}
    {response : List UInt8} (h : dispatch request payload = .ok response) : Responds request response := by
  unfold TcpSession.dispatch at h
  split at h
  · cases h
  · rename_i type htype
    cases payload with
    | error failure => cases h
    | ok bytes =>
      refine ⟨type, bytes, ?_, h⟩
      cases hrequest : request.header.type <;> rw [hrequest] at htype <;>
        first
          | exact htype
          | cases htype

theorem dispatched (request : Packet) (payload : Except Failure (List UInt8)) (session : TcpSession) :
    Dispatched format request session (session.dispatchAsync format request payload) := by
  unfold TcpSession.dispatchAsync
  split
  · rename_i htype
    split
    · exact .rejected _
    split
    · exact .rejected _
    · rename_i ticket _
      exact .login ticket htype
  split
  · exact .rejected _
  rename_i hauth
  have hauth : session.authState.isAuthenticated = true := by simpa using hauth
  dsimp only
  split
  · exact .failed _ hauth
  · rename_i response hresponse
    exact .answered hauth (answers_dispatch hresponse)

theorem Inv.dispatchNextPacket (h : Inv session) (hd : session.dispatching = true)
    (payload : Except Failure (List UInt8)) : Inv (session.dispatchNextPacket format payload) := by
  have hbase : Base { session with dispatching := false } := ⟨h.answered, h.deadlines, h.log⟩
  unfold TcpSession.dispatchNextPacket
  dsimp only
  by_cases hc : session.closed = true
  · rw [if_pos (.inl hc)]
    exact hbase.closed hc
  have hopen : session.closed = false := Bool.not_eq_true _ ▸ hc
  have ho := h.opened hopen
  obtain ⟨hreads, hprogress, hstarted, hlogins, hcompleting, hposted⟩ := ho.idle hd
  obtain ⟨pending, hanswered, hlength, -⟩ := ho.pending
  obtain rfl : pending = [] := List.eq_nil_of_length_eq_zero (by rw [hlength, hprogress]; rfl)
  rw [if_neg (by simp [hc, hprogress])]
  split
  · exact Base.close ⟨hbase.answered, hbase.deadlines, hbase.log⟩
  · refine Base.startRead ⟨hbase.answered, hbase.deadlines, hbase.log⟩ fun _ => ?_
    refine { ho with flow := ?_ }
    simp [hreads, hprogress, hstarted]
  -- the packet is the request that is in progress from here on
  rename_i packet receiveBuffer _
  obtain ⟨answered, hrequests, hall⟩ := hanswered
  have hnow : Base { session with
      dispatching := false, receiveBuffer, requestInProgress := true
      requests := session.requests ++ [packet] } := by
    refine ⟨⟨[packet], answered, ?_, hall⟩, h.deadlines, h.log⟩
    simp [hrequests]
  have hlog := h.log
  rw [hopen] at hlog
  have hregistered (hauth : session.authState.isAuthenticated = true) :
      CallLog session.authenticationRegistered false (session.calls ++ [.dispatch packet]) := by
    have hreg := (ho.auth hauth).resolve_right (by simp [hprogress])
    rw [hreg] at hlog ⊢
    exact hlog.dispatch packet
  have hcases : Dispatched format packet _ _ := dispatched packet payload { session with
    dispatching := false, receiveBuffer, requestInProgress := true
    requests := session.requests ++ [packet] }
  generalize TcpSession.dispatchAsync format packet payload _ = out at hcases ⊢
  cases hcases with
  | rejected failure => exact Base.close ⟨hnow.answered, hnow.deadlines, h.log⟩
  | failed failure hauth =>
    refine Base.close ⟨hnow.answered, hnow.deadlines, ?_⟩
    have hcalled := hregistered hauth
    rw [← hopen] at hcalled
    exact hcalled
  | login ticket htype =>
    have hcalled := hlog.login packet.header.requestId ticket
    rw [← hopen] at hcalled
    refine ⟨⟨hnow.answered, hnow.deadlines, hcalled⟩, fun _ => ⟨?_, ?_, ?_, fun _ => .inr rfl⟩⟩
    · simp [call, hreads, hstarted]
    · simp [call, hlogins, hcompleting, hposted]
    · refine ⟨[packet], ⟨answered, by simp [call, hrequests], hall⟩, rfl, ?_⟩
      intro request hm
      obtain rfl := List.mem_singleton.mp hm
      simp [Awaiting, call, hlogins, hcompleting, hposted, htype]
  | @answered response hauth hanswer =>
    have hcalled := hregistered hauth
    rw [← hopen] at hcalled
    refine ⟨⟨hnow.answered, hnow.deadlines, hcalled⟩, fun _ => ⟨?_, ?_, ?_, fun _ => .inr rfl⟩⟩
    · simp [call, hreads, hstarted]
    · simp [call, hlogins, hcompleting, hposted]
    · refine ⟨[packet], ⟨answered, by simp [call, hrequests], hall⟩, rfl, ?_⟩
      intro request hm
      obtain rfl := List.mem_singleton.mp hm
      simp [Awaiting, call, hlogins, hcompleting, hposted, hanswer]

/-! ### Responses -/

theorem queueWrite_cases (data : List UInt8) (session : TcpSession) :
    session.queueWrite data = (false, session.closeOnStrand) ∨
      ∃ pendingWriteBytes : Nat, session.queueWrite data = (true,
        if session.writeQueue.isEmpty then
          { session with pendingWriteBytes, writeQueue := session.writeQueue ++ [data] }.startWrite
        else { session with pendingWriteBytes, writeQueue := session.writeQueue ++ [data] }) := by
  unfold TcpSession.queueWrite
  dsimp only
  split
  · exact .inl rfl
  · exact .inr ⟨_, rfl⟩

/-- No read and no request is under way, and a player who has logged in is registered. -/
structure Resting (session : TcpSession) : Prop where
  reads : session.reads = 0
  progress : session.requestInProgress = false
  started : session.started = true
  logins : session.logins = []
  completing : session.completing = []
  posted : session.posted = []
  auth : session.authState.isAuthenticated = true → session.authenticationRegistered = true

theorem Resting.dispatching (h : Resting session) (hanswered : Answered session [])
    (hd : session.dispatching = true) : Open session where
  flow := by simp [h.reads, h.progress, h.started, hd]
  flight := by simp [h.logins, h.completing, h.posted]
  pending := ⟨[], hanswered, by simp [h.progress], by simp⟩
  auth := fun ha => .inl (h.auth ha)

/-- The handler of a response goes on with the next packet after the response is queued. -/
theorem Base.queueWrite (h : Base session) (hrest : Resting session) {data : List UInt8}
    (hanswered : Answered { session with writeQueue := session.writeQueue ++ [data] } []) :
    Inv (match session.queueWrite data with
      | (false, session) => session
      | (true, session) => { session with dispatching := true }) := by
  rcases queueWrite_cases data session with he | ⟨pendingWriteBytes, he⟩ <;> rw [he]
  · exact h.close
  have hopen : Open { session with
      pendingWriteBytes, writeQueue := session.writeQueue ++ [data], dispatching := true } :=
    Resting.dispatching { hrest with } hanswered rfl
  dsimp only
  split
  · have hwritten : Inv ({ session with
        pendingWriteBytes, writeQueue := session.writeQueue ++ [data]
        dispatching := true } : TcpSession).startWrite :=
      Base.startWrite ⟨⟨[], hanswered⟩, h.deadlines, h.log⟩ fun _ => hopen
    exact hwritten
  · exact ⟨⟨⟨[], hanswered⟩, h.deadlines, h.log⟩, fun _ => hopen⟩

/-- What the first part of `HandleResponse` leaves of an open session. -/
inductive Registers (session : TcpSession) : Bool × TcpSession → Prop where
  | anonymous (hauth : session.authState.isAuthenticated = false) : Registers session (true, session)
  | known (hregistered : session.authenticationRegistered = true) :
      Registers session (true, { session with
        authenticationDeadline := session.authenticationDeadline.cancel })
  | accepted (playerId : PlayerId) (hregistered : session.authenticationRegistered = false) :
      Registers session (true, { session with
        authenticationDeadline := session.authenticationDeadline.cancel
        authenticationRegistered := true
        calls := session.calls ++ [.registerAuthenticatedPlayer playerId true] })
  | refused (playerId : PlayerId) (hregistered : session.authenticationRegistered = false) :
      Registers session (false, ({ session with
        authenticationDeadline := session.authenticationDeadline.cancel } : TcpSession).call
          (.registerAuthenticatedPlayer playerId false) |>.closeOnStrand)

theorem registers (registered : Bool) (session : TcpSession) :
    Registers session (session.registerPlayer registered) := by
  unfold TcpSession.registerPlayer
  split
  · rename_i hnone
    exact .anonymous (by simp [SessionAuthState.isAuthenticated, hnone])
  dsimp only
  split
  · rename_i hregistered
    exact .known hregistered
  rename_i hregistered
  rw [Bool.not_eq_true] at hregistered
  cases registered with
  | true => exact .accepted _ hregistered
  | false => exact .refused _ hregistered

theorem Inv.handleResponse (h : Inv session) {index : Nat}
    {response : List UInt8} (hposted : session.posted[index]? = some response) (registered : Bool) :
    Inv ({ session with posted := session.posted.eraseIdx index }.handleResponse response
      registered) := by
  unfold TcpSession.handleResponse
  dsimp only
  by_cases hc : session.closed = true
  · rw [if_pos hc]
    exact Base.closed ⟨h.answered, h.deadlines, h.log⟩ hc
  rw [if_neg hc]
  have hopen : session.closed = false := Bool.not_eq_true _ ▸ hc
  have ho := h.opened hopen
  have hmem := List.mem_of_getElem? hposted
  have hpos := List.length_pos_of_mem hmem
  obtain ⟨hprogress, hreads, -, hstarted, hone⟩ := ho.busy (by omega)
  have hlogins : session.logins = [] := List.eq_nil_of_length_eq_zero (by omega)
  have hcompleting : session.completing = [] := List.eq_nil_of_length_eq_zero (by omega)
  have herased : session.posted.eraseIdx index = [] := by
    refine List.eq_nil_of_length_eq_zero ?_
    have hlt := (List.getElem?_eq_some_iff.mp hposted).1
    rw [List.length_eraseIdx_of_lt hlt]
    omega
  -- the response answers the request in progress
  obtain ⟨pending, ⟨answered, hrequests, hall⟩, hlength, hawaiting⟩ := ho.pending
  rw [hprogress] at hlength
  obtain ⟨request, rfl⟩ := List.length_eq_one_iff.mp hlength
  have hanswer := (hawaiting request List.mem_cons_self).2 response (List.mem_append_right _ hmem)
  have hqueued : List.Forall₂ Responds (answered ++ [request])
      (session.written ++ (session.writeQueue ++ [response])) := by
    rw [← List.append_assoc]
    exact List.rel_append hall (.cons hanswer .nil)
  have hnext (last : TcpSession) (hw : last.written = session.written)
      (hq : last.writeQueue = session.writeQueue ++ [response])
      (hr : last.requests = session.requests) : Answered last [] := by
    refine ⟨answered ++ [request], ?_, ?_⟩
    · rw [hr, hrequests, List.append_nil]
    · rw [hw, hq]
      exact hqueued
  have hlog := h.log
  rw [hopen] at hlog
  have hregisters := registers registered { session with
    posted := session.posted.eraseIdx index, requestInProgress := false }
  generalize TcpSession.registerPlayer registered _ = out at hregisters ⊢
  have hcancelled (last : TcpSession) (ha : last.authenticationDeadline =
      session.authenticationDeadline.cancel) (hr : last.readDeadline = session.readDeadline)
      (hw : last.writeDeadline = session.writeDeadline) (name : DeadlineName) :
      Numbered (last.deadline name) := by
    cases name
    · rw [deadline, ha]
      exact (h.deadlines .authentication).cancel
    · rw [deadline, hr]
      exact h.deadlines .read
    · rw [deadline, hw]
      exact h.deadlines .write
  cases hregisters with
  | anonymous hauth =>
    refine Base.queueWrite ?_ ?_ (hnext _ rfl rfl rfl)
    · exact ⟨h.answered, h.deadlines, h.log⟩
    · exact ⟨hreads, rfl, hstarted, hlogins, hcompleting, herased, fun ha => by simp [hauth] at ha⟩
  | known hregistered =>
    refine Base.queueWrite ?_ ?_ (hnext _ rfl rfl rfl)
    · exact ⟨h.answered, hcancelled _ rfl rfl rfl, h.log⟩
    · exact ⟨hreads, rfl, hstarted, hlogins, hcompleting, herased, fun _ => hregistered⟩
  | accepted playerId hregistered =>
    have hlog' : CallLog true session.closed
        (session.calls ++ [.registerAuthenticatedPlayer playerId true]) := by
      rw [hopen]
      exact .accepted playerId (hregistered ▸ hlog)
    refine Base.queueWrite ?_ ?_ (hnext _ rfl rfl rfl)
    · exact ⟨h.answered, hcancelled _ rfl rfl rfl, hlog'⟩
    · exact ⟨hreads, rfl, hstarted, hlogins, hcompleting, herased, fun _ => rfl⟩
  | refused playerId hregistered =>
    dsimp only [closeOnStrand, call]
    rw [if_neg hc]
    refine ⟨⟨h.answered, ?_, ?_⟩, fun hclosed => by simp at hclosed⟩
    · intro name
      cases name
      · exact (h.deadlines .authentication).cancel.cancel
      · exact (h.deadlines .read).cancel
      · exact (h.deadlines .write).cancel
    · have hunregistered : session.authenticationRegistered = false := hregistered
      rw [hunregistered] at hlog ⊢
      exact .refused playerId hlog

/-! ### Writes, deadlines and logins -/

theorem answers_encodeLogin {request : Packet} {requestId : UInt32} {result : LoginResult}
    {response : List UInt8}
    (hid : request.header.type = .loginRequest ∧ requestId = request.header.requestId)
    (h : encodeLogin format sessionId requestId result = .ok response) : Responds request response := by
  obtain ⟨htype, rfl⟩ := hid
  unfold encodeLogin at h
  dsimp only at h
  cases hpayload : encodeLoginResponsePayload format result
      (if result = .loginSuccess then sessionId else 0) with
  | error failure =>
    rw [hpayload] at h
    cases h
  | ok payload =>
    rw [hpayload] at h
    exact ⟨.loginResponse, payload, by rw [htype]; rfl, h⟩

namespace Inv

theorem completeWrite (h : Inv session) (error : Bool) : Inv (session.completeWrite error) := by
  have hdeadlines (last : TcpSession) (ha : last.authenticationDeadline =
      session.authenticationDeadline) (hr : last.readDeadline = session.readDeadline)
      (hw : last.writeDeadline = session.writeDeadline.cancel) (name : DeadlineName) :
      Numbered (last.deadline name) := by
    cases name
    · rw [deadline, ha]
      exact h.deadlines .authentication
    · rw [deadline, hr]
      exact h.deadlines .read
    · rw [deadline, hw]
      exact (h.deadlines .write).cancel
  unfold TcpSession.completeWrite
  dsimp only
  split
  · exact Base.close ⟨h.answered, hdeadlines _ rfl rfl rfl, h.log⟩
  split
  · exact ⟨⟨h.answered, hdeadlines _ rfl rfl rfl, h.log⟩, fun hc => { h.opened hc with }⟩
  rename_i front writeQueue hqueue
  have hmoved {pending : List Packet} (hp : Answered session pending) :
      ∃ answered, session.requests = answered ++ pending ∧
        List.Forall₂ Responds answered (session.written ++ [front] ++ writeQueue) := by
    obtain ⟨answered, hrequests, hall⟩ := hp
    refine ⟨answered, hrequests, ?_⟩
    rw [hqueue] at hall
    rw [List.append_assoc]
    exact hall
  obtain ⟨pending, hp⟩ := h.answered
  split
  · refine ⟨⟨⟨pending, hmoved hp⟩, hdeadlines _ rfl rfl rfl, h.log⟩, fun hc => ?_⟩
    have ho := h.opened hc
    obtain ⟨pending, hanswered, hrest⟩ := ho.pending
    exact ⟨ho.flow, ho.flight, ⟨pending, hmoved hanswered, hrest⟩, ho.auth⟩
  · refine Base.startWrite ⟨⟨pending, hmoved hp⟩, hdeadlines _ rfl rfl rfl, h.log⟩ fun hc => ?_
    have ho := h.opened hc
    obtain ⟨pending, hanswered, hrest⟩ := ho.pending
    exact ⟨ho.flow, ho.flight, ⟨pending, hmoved hanswered, hrest⟩, ho.auth⟩

theorem expire (h : Inv session) {name : DeadlineName} {index : Nat} {error : Bool}
    (hn : session.expire name index error = some session') : Inv session' := by
  simp only [TcpSession.expire, Option.map_eq_some_iff] at hn
  obtain ⟨wait, -, rfl⟩ := hn
  have hbase : Base (session.withDeadline name
      { session.deadline name with waits := (session.deadline name).waits.eraseIdx index }) := by
    have herased := (h.deadlines name).erase index
    cases name
    all_goals
      refine ⟨h.answered, ?_, h.log⟩
      intro other
      cases other
      all_goals first
        | exact herased
        | exact h.deadlines .authentication
        | exact h.deadlines .read
        | exact h.deadlines .write
  split
  · exact hbase.close
  · refine ⟨hbase, fun hc => ?_⟩
    cases name <;> exact { h.opened hc with }

theorem completeLogin (h : Inv session) {index : Nat} {loginResult : PlayerLoginResult}
    (hn : session.completeLogin format sessionId index loginResult = some session') : Inv session' := by
  simp only [TcpSession.completeLogin, Option.map_eq_some_iff] at hn
  obtain ⟨requestId, hlogin, rfl⟩ := hn
  have hmem := List.mem_of_getElem? hlogin
  have hlt := (List.getElem?_eq_some_iff.mp hlogin).1
  have hlength := List.length_eraseIdx_of_lt hlt
  have hopened (hc : session.closed = false) {completing : List (List UInt8)}
      (hcount : completing.length ≤ session.completing.length + 1)
      (hanswers : ∀ response ∈ completing, response ∈ session.completing ∨
        ∃ result, encodeLogin format sessionId requestId result = .ok response) :
      Open { session with
        logins := session.logins.eraseIdx index, completing
        authState := (authenticateLogin loginResult session.authState).2 } := by
    have ho := h.opened hc
    obtain ⟨hprogress, -, -, -, -⟩ := ho.busy (by omega)
    have hflight := ho.flight
    obtain ⟨pending, hanswered, hone, hawaiting⟩ := ho.pending
    refine ⟨ho.flow, ?_, ⟨pending, hanswered, hone, ?_⟩, fun _ => .inr hprogress⟩
    · simp only [hlength]
      omega
    · intro request hr
      obtain ⟨hids, hresponses⟩ := hawaiting request hr
      refine ⟨fun id hid => hids id (List.mem_of_mem_eraseIdx hid), fun response hm => ?_⟩
      rcases List.mem_append.mp hm with hm | hm
      · rcases hanswers response hm with hold | ⟨result, hencoded⟩
        · exact hresponses response (List.mem_append_left _ hold)
        · exact answers_encodeLogin (hids requestId hmem) hencoded
      · exact hresponses response (List.mem_append_right _ hm)
  split
  · rename_i response hencoded
    refine ⟨⟨h.answered, h.deadlines, h.log⟩, fun hc => hopened hc ?_ ?_⟩
    · simp
    · intro other hm
      rcases List.mem_append.mp hm with hm | hm
      · exact .inl hm
      · obtain rfl := List.mem_singleton.mp hm
        exact .inr ⟨_, hencoded⟩
  · exact ⟨⟨h.answered, h.deadlines, h.log⟩, fun hc => hopened hc (Nat.le_succ _) fun _ => .inl⟩

theorem postResponse (h : Inv session) {index : Nat} {response : List UInt8}
    (hresponse : session.completing[index]? = some response) :
    Inv { session with
      completing := session.completing.eraseIdx index, posted := session.posted ++ [response] } := by
  refine ⟨⟨h.answered, h.deadlines, h.log⟩, fun hc => ?_⟩
  have ho := h.opened hc
  have hflight := ho.flight
  have hlt := (List.getElem?_eq_some_iff.mp hresponse).1
  obtain ⟨pending, hanswered, hone, hawaiting⟩ := ho.pending
  refine ⟨ho.flow, ?_, ⟨pending, hanswered, hone, ?_⟩, ho.auth⟩
  · simp only [List.length_eraseIdx_of_lt hlt, List.length_append, List.length_singleton]
    omega
  · intro request hr
    obtain ⟨hids, hresponses⟩ := hawaiting request hr
    refine ⟨hids, fun other hm => hresponses other ?_⟩
    have hmem := List.mem_of_getElem? hresponse
    simp only [List.mem_append, List.mem_singleton] at hm ⊢
    rcases hm with hm | hm | rfl
    · exact .inl (List.mem_of_mem_eraseIdx hm)
    · exact .inr hm
    · exact .inl hmem

theorem next (h : Inv session) {event : SessionEvent}
    (hn : session.next format sessionId event = some session') : Inv session' := by
  cases event with
  | start =>
    simp only [TcpSession.next] at hn
    split at hn
    · cases hn
    · rename_i hfree
      obtain rfl := Option.some.inj hn
      simp only [not_or, Bool.not_eq_true] at hfree
      exact h.start hfree.1 hfree.2
  | stop =>
    simp only [TcpSession.next] at hn
    split at hn
    · cases hn
    · obtain rfl := Option.some.inj hn
      exact h.close
  | completeRead received =>
    simp only [TcpSession.next] at hn
    split at hn
    · cases hn
    · rename_i hfree
      obtain rfl := Option.some.inj hn
      simp only [not_or, Bool.not_eq_true] at hfree
      exact h.completeRead hfree.1 hfree.2 received
  | dispatchNextPacket payload =>
    simp only [TcpSession.next] at hn
    split at hn
    · rename_i hd
      obtain rfl := Option.some.inj hn
      exact h.dispatchNextPacket hd payload
    · cases hn
  | handleResponse index registered =>
    simp only [TcpSession.next] at hn
    split at hn
    · cases hn
    · obtain ⟨response, hposted, rfl⟩ := Option.map_eq_some_iff.mp hn
      exact h.handleResponse hposted registered
  | completeWrite error =>
    simp only [TcpSession.next] at hn
    split at hn
    · cases hn
    · obtain rfl := Option.some.inj hn
      exact h.completeWrite error
  | expire name index error =>
    simp only [TcpSession.next] at hn
    split at hn
    · cases hn
    · exact h.expire hn
  | completeLogin index loginResult => exact h.completeLogin hn
  | postResponse index =>
    obtain ⟨response, hresponse, rfl⟩ := Option.map_eq_some_iff.mp hn
    exact h.postResponse hresponse

end Inv

/-! ## Every run -/

/-- What holds of a session in every order of its completions. -/
structure Orderly (format : LoginFormat) (sessionId : SessionId) (session : TcpSession) : Prop where
  /-- Between handlers an open session has one read or one request, and not both. -/
  flow : session.started = true → session.dispatching = false → session.closed = false →
    (session.reads = 1 ∧ session.requestInProgress = false) ∨
      (session.reads = 0 ∧ session.requestInProgress = true)
  /-- The responses queued so far answer the first requests, one by one. -/
  answered : ∃ pending, Answered session pending ∧
    (session.closed = false → pending.length = session.requestInProgress.toNat)
  registered : ∀ (before : List SessionCall) (request : Packet),
    before ++ [.dispatch request] <+: session.calls →
      ∃ playerId, .registerAuthenticatedPlayer playerId true ∈ before
  once : ∀ (before : List SessionCall) (playerId : PlayerId) (ok : Bool),
    before ++ [.registerAuthenticatedPlayer playerId ok] <+: session.calls →
      .removeSession ∉ before ∧
        ∀ (other : PlayerId) (ok' : Bool), .registerAuthenticatedPlayer other ok' ∉ before
  removed : session.calls.count .removeSession = session.closed.toNat
  /-- The handler of a wait that was cancelled or restarted changes nothing else. -/
  stale : ∀ (name : DeadlineName) (index : Nat) (error : Bool) (wait : DeadlineWait)
    (session' : TcpSession), (session.deadline name).waits[index]? = some wait →
      wait.superseded = true → session.next format sessionId (.expire name index error) = some session' →
        session' = session.withDeadline name { session.deadline name with
          waits := (session.deadline name).waits.eraseIdx index } ∧
        session'.closed = session.closed

theorem Inv.orderly (h : Inv session) : Orderly format sessionId session where
  flow := by
    intro hstarted hd hc
    have hflow := (h.opened hc).flow
    rw [hstarted, hd, Bool.toNat_true, Bool.toNat_false] at hflow
    cases hprogress : session.requestInProgress with
    | false =>
      rw [hprogress, Bool.toNat_false] at hflow
      exact .inl ⟨by omega, rfl⟩
    | true =>
      rw [hprogress, Bool.toNat_true] at hflow
      exact .inr ⟨by omega, rfl⟩
  answered := by
    by_cases hc : session.closed = true
    · obtain ⟨pending, hanswered⟩ := h.answered
      exact ⟨pending, hanswered, fun hopen => by simp [hc] at hopen⟩
    · obtain ⟨pending, hanswered, hlength, -⟩ := (h.opened (Bool.not_eq_true _ ▸ hc)).pending
      exact ⟨pending, hanswered, fun _ => hlength⟩
  registered := fun _ _ hb => h.log.dispatch_registered hb
  once := fun _ _ _ hb => h.log.register_first hb
  removed := h.log.count_removeSession
  stale := by
    intro name index error wait session' hwait hsuperseded hn
    simp only [TcpSession.next] at hn
    split at hn
    · cases hn
    simp only [TcpSession.expire, hwait, Option.map_some, Option.some.injEq] at hn
    have hne := (h.deadlines name wait (List.mem_of_getElem? hwait)).2.mp hsuperseded
    rw [if_neg (fun hlive => hne hlive.2)] at hn
    subst hn
    exact ⟨rfl, by cases name <;> rfl⟩

/-- A session is orderly in whatever order its reads, responses, logins, writes, deadlines and
`Stop` come. -/
theorem orderly_of_run {options : NetworkSessionOptions}
    (h : Reachable (TcpSession.next format sessionId) { options } session) :
    Orderly format sessionId session :=
  (reachable_invariant Inv (fun _ _ _ hi hn => hi.next hn) (inv_new options) h).orderly

/-- Every payload holds the ticket `t`. -/
def heroFormat : LoginFormat where
  authTicket _ := .ok [116]
  loginResponse _ _ := [1]

/-- A login, a channel list, and a read deadline that comes after its read is done. -/
def heroEvents : List SessionEvent :=
  let hero : PlayerLoginResult :=
    { status := .success, authContext := some ⟨1, 1⟩, profile := some { playerId := 1, name := "Hero" } }
  [.start, .completeRead (some [0, 8, 0, 1, 0, 0, 0, 5]), .dispatchNextPacket (.ok []),
    .completeLogin 0 hero, .postResponse 0, .handleResponse 0 true, .dispatchNextPacket (.ok []),
    .expire .read 0 false, .completeWrite false, .completeRead (some [0, 8, 0, 2, 0, 0, 0, 6]),
    .dispatchNextPacket (.ok [7]), .handleResponse 0 true, .dispatchNextPacket (.ok [])]

theorem orderly_of_run_hero :
    ∃ session, run (TcpSession.next heroFormat 100) {} heroEvents = some session ∧
      session.closed = false ∧
      session.written ++ session.writeQueue =
        [[0, 9, 0, 101, 0, 0, 0, 5, 1], [0, 9, 0, 102, 0, 0, 0, 6, 7]] ∧
      Orderly heroFormat 100 session := by
  have hrun : (run (TcpSession.next heroFormat 100) {} heroEvents).any (fun session =>
      !session.closed && decide (session.written ++ session.writeQueue =
        [[0, 9, 0, 101, 0, 0, 0, 5, 1], [0, 9, 0, 102, 0, 0, 0, 6, 7]])) = true := by decide +kernel
  obtain ⟨session, hr, hstate⟩ := Option.any_eq_true .. |>.mp hrun
  simp only [Bool.and_eq_true, Bool.not_eq_true', decide_eq_true_eq] at hstate
  exact ⟨session, hr, hstate.1, hstate.2, orderly_of_run ⟨heroEvents, hr⟩⟩

end DnfServer.Tcp
