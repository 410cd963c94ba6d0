import DnfServer.Auth.Handoff

/-!
# One ticket, one session

What the calls of a run say of the records that it has left: a selection, a ticket in the table, a
login and a session each go back to calls in a fixed order (`Traced`), and no ticket is deleted
twice (`SingleUse`). The hand-off follows for every run in which the generated tickets are distinct.
-/

namespace DnfServer.Auth

open Std DnfServer.Library
set_option autoImplicit false

/-! ## How a session comes to be authenticated -/

/-- The calls through which `Issue` returns a ticket, in their order. -/
def issueCalls (authSession : AuthSessionId) (selection : SelectionId) (context : AuthContext)
    (issued : IssuedAuthTicket) : List Call :=
  [.markAuthenticated authSession context.accountId true, .ownsPlayer selection context true,
    .issue selection context (some issued)]

/-- The calls through which a login with an issued ticket goes on with its context. -/
def consumeCalls (authSession : AuthSessionId) (selection : SelectionId) (context : AuthContext)
    (issued : IssuedAuthTicket) (login : LoginId) (nowUnix : Int) : List Call :=
  issueCalls authSession selection context issued ++
    [.consumeTicket login (ticketBytes issued.ticket) nowUnix (some ⟨context, issued.expiresAtUnix⟩)]

/-- The login has consumed the ticket in time, after it was issued for the context. -/
def Consumed (calls : List Call) (login : LoginId) (ticket : AuthTicket) (context : AuthContext) :
    Prop :=
  ∃ (authSession : AuthSessionId) (selection : SelectionId) (issued : IssuedAuthTicket) (nowUnix : Int),
    ticketBytes issued.ticket = ticket ∧ nowUnix < issued.expiresAtUnix ∧
      (consumeCalls authSession selection context issued login nowUnix).Sublist calls

theorem Consumed.append {calls : List Call} {login : LoginId} {ticket : AuthTicket}
    {context : AuthContext} (h : Consumed calls login ticket context) (later : List Call) :
    Consumed (calls ++ later) login ticket context := by
  obtain ⟨authSession, selection, issued, nowUnix, hticket, hnow, hcalls⟩ := h
  exact ⟨authSession, selection, issued, nowUnix, hticket, hnow,
    hcalls.trans (List.sublist_append_left calls later)⟩

namespace Handoff

def SelectionTraced (calls : List Call) (id : SelectionId) (selection : Selection) : Prop :=
  match selection.stage with
  | .queued => .markAuthenticated selection.authSession selection.context.accountId true ∈ calls
  | .owned => [.markAuthenticated selection.authSession selection.context.accountId true,
      .ownsPlayer id selection.context true].Sublist calls
  | .ended => True

def TicketTraced (calls : List Call) (ticket : AuthTicket) (row : TicketRow) : Prop :=
  ∃ (authSession : AuthSessionId) (selection : SelectionId) (issued : IssuedAuthTicket),
    ticketBytes issued.ticket = ticket ∧ issued.expiresAtUnix = row.expiresAtUnix ∧
      (issueCalls authSession selection row.context issued).Sublist calls

def LoginTraced (calls : List Call) (id : LoginId) (login : TicketLogin) : Prop :=
  match login.stage with
  | .verified context => Consumed calls id login.ticket context
  | .posted result => result.status = .success →
      ∃ context, result.authContext = some context ∧ Consumed calls id login.ticket context
  | .queued | .completed => True

/-- The completion of a login that has succeeded, and what led to it. -/
def CompletionTraced (s : Handoff) (call : Call) : Prop :=
  ∀ (login : LoginId) (sessionId : SessionId) (authContext : Option AuthContext),
    call = .completeLogin login sessionId authContext .loginSuccess →
      ∃ (before : List Call) (ticket : AuthTicket) (context : AuthContext),
        authContext = some context ∧ (before ++ [call]).Sublist s.calls ∧
        s.logins[login]? = some ⟨sessionId, ticket, .completed⟩ ∧ Consumed before login ticket context

structure Traced (s : Handoff) : Prop where
  authSessions : ∀ (authSession : AuthSessionId) (state : AuthServerSessionState),
    s.authSessions[authSession]? = some state → ∀ accountId, state.accountId = some accountId →
      .markAuthenticated authSession accountId true ∈ s.calls
  selections : ∀ (id : SelectionId) (selection : Selection),
    s.selections[id]? = some selection → SelectionTraced s.calls id selection
  tickets : ∀ (ticket : AuthTicket) (row : TicketRow),
    s.tickets[ticket]? = some row → TicketTraced s.calls ticket row
  logins : ∀ (id : LoginId) (login : TicketLogin),
    s.logins[id]? = some login → LoginTraced s.calls id login
  completions : ∀ call ∈ s.calls, CompletionTraced s call
  sessions : ∀ (sessionId : SessionId) (state : SessionAuthState),
    s.sessions[sessionId]? = some state → ∀ snapshot, state.snapshot = some snapshot →
      ∃ login : LoginId,
        .completeLogin login sessionId (some snapshot.authContext) .loginSuccess ∈ s.calls

theorem SelectionTraced.append {calls : List Call} {id : SelectionId} {selection : Selection}
    (h : SelectionTraced calls id selection) (later : List Call) :
    SelectionTraced (calls ++ later) id selection := by
  unfold SelectionTraced at h ⊢
  split at h
  · exact List.mem_append_left _ h
  · exact h.trans (List.sublist_append_left calls later)
  · trivial

theorem TicketTraced.append {calls : List Call} {ticket : AuthTicket} {row : TicketRow}
    (h : TicketTraced calls ticket row) (later : List Call) :
    TicketTraced (calls ++ later) ticket row := by
  obtain ⟨authSession, selection, issued, hticket, hexpires, hcalls⟩ := h
  exact ⟨authSession, selection, issued, hticket, hexpires,
    hcalls.trans (List.sublist_append_left calls later)⟩

theorem LoginTraced.append {calls : List Call} {id : LoginId} {login : TicketLogin}
    (h : LoginTraced calls id login) (later : List Call) :
    LoginTraced (calls ++ later) id login := by
  unfold LoginTraced at h ⊢
  split at h
  · exact h.append later
  · intro hsuccess
    obtain ⟨context, hcontext, hconsumed⟩ := h hsuccess
    exact ⟨context, hcontext, hconsumed.append later⟩
  · trivial
  · trivial

/-! ### One step -/

theorem markAuthenticated_cases (accountId : AccountId) (state : AuthServerSessionState) :
    state.markAuthenticated accountId = (false, state) ∨
      state.markAuthenticated accountId = (true, { accountId := some accountId }) := by
  unfold AuthServerSessionState.markAuthenticated
  split_ifs
  · exact .inl rfl
  · exact .inl rfl
  · exact .inr rfl

theorem authenticateLogin_cases (loginResult : PlayerLoginResult) (authState : SessionAuthState) :
    (authenticateLogin loginResult authState).1 ≠ .loginSuccess ∧
      (authenticateLogin loginResult authState).2 = authState ∨
    ∃ snapshot : SessionAuthSnapshot, loginResult.status = .success ∧
      loginResult.authContext = some snapshot.authContext ∧ authState.snapshot = none ∧
      authenticateLogin loginResult authState = (.loginSuccess, { snapshot := some snapshot }) := by
  rcases loginResult with ⟨status, authContext, profile⟩
  cases status with
  | success =>
    rcases authContext with _ | authContext
    · exact .inl ⟨DnfServer.LoginResult.noConfusion, rfl⟩
    rcases profile with _ | profile
    · exact .inl ⟨DnfServer.LoginResult.noConfusion, rfl⟩
    cases hout : authState.authenticate authContext profile with
    | mk authenticated after =>
      have heq : authenticateLogin ⟨.success, some authContext, some profile⟩ authState =
          (if authenticated then .loginSuccess else .loginStorageError, after) := by
        simp only [authenticateLogin, hout]
        cases authenticated <;> rfl
      rw [heq]
      unfold SessionAuthState.authenticate at hout
      split_ifs at hout with hinvalid hlatched <;> cases hout
      · exact .inl ⟨DnfServer.LoginResult.noConfusion, rfl⟩
      · exact .inl ⟨DnfServer.LoginResult.noConfusion, rfl⟩
      · exact .inr ⟨⟨authContext, profile⟩, rfl, rfl, by simpa using hlatched, rfl⟩
  | invalidTicket | playerNotFound | serviceBusy | storageError =>
    exact .inl ⟨DnfServer.LoginResult.noConfusion, rfl⟩

variable {s t : Handoff}

theorem authSession_some {authSession : AuthSessionId} {accountId : AccountId}
    (h : (s.authSession authSession).accountId = some accountId) :
    ∃ state, s.authSessions[authSession]? = some state ∧ state.accountId = some accountId := by
  rw [Handoff.authSession, ExtTreeMap.getD_eq_getD_getElem?] at h
  cases hstate : s.authSessions[authSession]? with
  | none => simp [hstate] at h
  | some state => exact ⟨state, rfl, by simpa [hstate] using h⟩

theorem session_some {sessionId : SessionId} {snapshot : SessionAuthSnapshot}
    (h : (s.session sessionId).snapshot = some snapshot) :
    ∃ state, s.sessions[sessionId]? = some state ∧ state.snapshot = some snapshot := by
  rw [Handoff.session, ExtTreeMap.getD_eq_getD_getElem?] at h
  cases hstate : s.sessions[sessionId]? with
  | none => simp [hstate] at h
  | some state => exact ⟨state, rfl, by simpa [hstate] using h⟩

namespace Effect

theorem calls_eq (e : Effect s t) : ∃ later, t.calls = s.calls ++ later := by
  cases e with
  | unchanged | database | selected | presented | found => exact ⟨[], (List.append_nil _).symm⟩
  | marked | owned | ended | issued | refused | consumed | completed => exact ⟨_, rfl⟩

/-- A login that has completed stays so. -/
theorem completed_kept (e : Effect s t) {login : LoginId} {sessionId : SessionId} {ticket : AuthTicket}
    (h : s.logins[login]? = some ⟨sessionId, ticket, .completed⟩) :
    t.logins[login]? = some ⟨sessionId, ticket, .completed⟩ := by
  cases e with
  | unchanged | database | marked | selected | owned | ended | issued => exact h
  | presented => grind
  | refused other _ _ _ hl =>
    obtain ⟨stage, hl, hstage⟩ := hl
    grind
  | consumed | found | completed => grind

theorem authSessions (e : Effect s t) (h : Traced s) :
    ∀ (authSession : AuthSessionId) (state : AuthServerSessionState),
      t.authSessions[authSession]? = some state → ∀ accountId, state.accountId = some accountId →
        .markAuthenticated authSession accountId true ∈ t.calls := by
  have hold (later : List Call) (authSession : AuthSessionId) (state : AuthServerSessionState)
      (hs : s.authSessions[authSession]? = some state) (accountId : AccountId)
      (ha : state.accountId = some accountId) :
      .markAuthenticated authSession accountId true ∈ s.calls ++ later :=
    List.mem_append_left _ (h.authSessions authSession state hs accountId ha)
  cases e with
  | unchanged | database | selected | presented | found => exact h.authSessions
  | owned | ended | issued | refused | consumed | completed => exact hold _
  | marked authSession accountId marked state hm =>
    refine forall_entries_insert (hold _) ?_
    intro other ho
    rcases markAuthenticated_cases accountId (s.authSession authSession) with heq | heq
    · obtain ⟨rfl, rfl⟩ := Prod.mk.inj (hm.symm.trans heq)
      obtain ⟨state, hstate, haccount⟩ := authSession_some ho
      exact hold _ authSession state hstate other haccount
    · obtain ⟨rfl, rfl⟩ := Prod.mk.inj (hm.symm.trans heq)
      obtain rfl := Option.some.inj ho
      simp

theorem selections (e : Effect s t) (h : Traced s) :
    ∀ (id : SelectionId) (selection : Selection),
      t.selections[id]? = some selection → SelectionTraced t.calls id selection := by
  have hold (later : List Call) (id : SelectionId) (selection : Selection)
      (hs : s.selections[id]? = some selection) : SelectionTraced (s.calls ++ later) id selection :=
    (h.selections id selection hs).append later
  cases e with
  | unchanged | database | presented | found => exact h.selections
  | marked | refused | consumed | completed => exact hold _
  | selected selection authSession context ha =>
    obtain ⟨state, hstate, haccount⟩ := authSession_some ha
    exact forall_entries_insert h.selections (h.authSessions authSession state hstate _ haccount)
  | owned selection authSession context hs ho =>
    refine forall_entries_insert (hold _) ?_
    exact (List.singleton_sublist.mpr (h.selections selection _ hs)).append_right _
  | ended => exact forall_entries_insert (hold _) trivial
  | issued => exact forall_entries_insert (hold _) trivial

theorem tickets (e : Effect s t) (h : Traced s) :
    ∀ (ticket : AuthTicket) (row : TicketRow),
      t.tickets[ticket]? = some row → TicketTraced t.calls ticket row := by
  have hold (later : List Call) (ticket : AuthTicket) (row : TicketRow)
      (ht : s.tickets[ticket]? = some row) : TicketTraced (s.calls ++ later) ticket row :=
    (h.tickets ticket row ht).append later
  cases e with
  | unchanged | database | selected | presented | found => exact h.tickets
  | marked | owned | ended | refused | completed => exact hold _
  | issued selection authSession context issued hs hfresh =>
    refine forall_entries_insert (hold _) ?_
    have howned := h.selections selection _ hs
    exact ⟨authSession, selection, issued, rfl, rfl, List.Sublist.append_right howned _⟩
  | consumed => exact forall_entries_erase (hold _)

theorem logins (e : Effect s t) (h : Traced s) :
    ∀ (id : LoginId) (login : TicketLogin), t.logins[id]? = some login → LoginTraced t.calls id login := by
  have hold (later : List Call) (id : LoginId) (login : TicketLogin)
      (hl : s.logins[id]? = some login) : LoginTraced (s.calls ++ later) id login :=
    (h.logins id login hl).append later
  have hfails {calls : List Call} {id : LoginId} {sessionId : SessionId} {ticket : AuthTicket}
      {stage : LoginStage} (hf : Fails stage) : LoginTraced calls id ⟨sessionId, ticket, stage⟩ := by
    cases stage with
    | posted result => exact fun hsuccess => absurd hsuccess hf
    | verified => exact hf.elim
    | queued | completed => trivial
  cases e with
  | unchanged | database | selected => exact h.logins
  | marked | owned | ended | issued => exact hold _
  | presented login sessionId ticket stage hl hs =>
    refine forall_entries_insert h.logins ?_
    rcases hs with rfl | hf
    · trivial
    · exact hfails hf
  | refused _ _ _ _ _ hf => exact forall_entries_insert (hold _) (hfails hf)
  | consumed login sessionId ticket nowUnix row stage hl ht hs =>
    refine forall_entries_insert (hold _) ?_
    rcases hs with hf | ⟨hnow, rfl⟩
    · exact hfails hf
    · obtain ⟨authSession, selection, issued, rfl, hexpires, hcalls⟩ := h.tickets ticket row ht
      refine ⟨authSession, selection, issued, nowUnix, rfl, hexpires ▸ hnow, ?_⟩
      rw [consumeCalls, hexpires]
      exact hcalls.append_right _
  | found login sessionId ticket context profile hl =>
    exact forall_entries_insert h.logins fun _ => ⟨context, rfl, h.logins login _ hl⟩
  | completed => exact forall_entries_insert (hold _) trivial

theorem completions (e : Effect s t) (h : Traced s) : ∀ call ∈ t.calls, CompletionTraced t call := by
  have hold (call : Call) (hc : call ∈ s.calls) : CompletionTraced t call := by
    intro login sessionId authContext heq
    obtain ⟨before, ticket, context, hcontext, hcalls, hl, hconsumed⟩ :=
      h.completions call hc login sessionId authContext heq
    obtain ⟨later, hlater⟩ := e.calls_eq
    refine ⟨before, ticket, context, hcontext, ?_, e.completed_kept hl, hconsumed⟩
    rw [hlater]
    exact hcalls.trans (List.sublist_append_left _ later)
  have hnew {later : List Call} (hcalls : t.calls = s.calls ++ later)
      (hc : ∀ call ∈ later, CompletionTraced t call) : ∀ call ∈ t.calls, CompletionTraced t call := by
    intro call hm
    rw [hcalls] at hm
    rcases List.mem_append.mp hm with hm | hm
    · exact hold call hm
    · exact hc call hm
  cases e with
  | unchanged | database | selected | presented | found => exact hold
  | marked | owned | issued | consumed =>
    refine hnew rfl fun call hm => ?_
    obtain rfl := List.mem_singleton.mp hm
    exact fun _ _ _ heq => by cases heq
  | ended _ _ _ call hcall =>
    refine hnew rfl fun call hm => ?_
    obtain rfl := List.mem_singleton.mp hm
    rintro login sessionId authContext rfl
    rcases hcall with ⟨owned, heq⟩ | heq <;> cases heq
  | refused _ _ _ _ _ _ calls hcall =>
    refine hnew rfl fun call hm => ?_
    rintro login sessionId authContext rfl
    rcases hcall with rfl | ⟨nowUnix, rfl⟩
    · cases hm
    · cases List.mem_singleton.mp hm
  | completed login sessionId ticket loginResult result authState hl ha =>
    refine hnew rfl fun call hm => ?_
    obtain rfl := List.mem_singleton.mp hm
    intro login' sessionId' authContext heq
    obtain ⟨rfl, rfl, rfl, rfl⟩ := Call.completeLogin.inj heq
    rcases authenticateLogin_cases loginResult (s.session sessionId) with ⟨hresult, -⟩ |
      ⟨snapshot, hstatus, hcontext, -, -⟩
    · rw [ha] at hresult
      exact absurd rfl hresult
    · obtain ⟨context, hsome, hconsumed⟩ := h.logins login _ hl hstatus
      exact ⟨s.calls, ticket, context, hsome, List.Sublist.refl _, by grind, hconsumed⟩

theorem sessions (e : Effect s t) (h : Traced s) :
    ∀ (sessionId : SessionId) (state : SessionAuthState),
      t.sessions[sessionId]? = some state → ∀ snapshot, state.snapshot = some snapshot →
        ∃ login : LoginId,
          .completeLogin login sessionId (some snapshot.authContext) .loginSuccess ∈ t.calls := by
  have hold (later : List Call) (sessionId : SessionId) (state : SessionAuthState)
      (hs : s.sessions[sessionId]? = some state) (snapshot : SessionAuthSnapshot)
      (hsnapshot : state.snapshot = some snapshot) : ∃ login : LoginId,
        .completeLogin login sessionId (some snapshot.authContext) .loginSuccess ∈ s.calls ++ later := by
    obtain ⟨login, hlogin⟩ := h.sessions sessionId state hs snapshot hsnapshot
    exact ⟨login, List.mem_append_left _ hlogin⟩
  cases e with
  | unchanged | database | selected | presented | found => exact h.sessions
  | marked | owned | ended | issued | refused | consumed => exact hold _
  | completed login sessionId ticket loginResult result authState hl ha =>
    refine forall_entries_insert (hold _) ?_
    intro snapshot hsnapshot
    rcases authenticateLogin_cases loginResult (s.session sessionId) with ⟨-, hsame⟩ |
      ⟨latched, -, hcontext, -, heq⟩
    · rw [ha] at hsame
      obtain rfl : authState = s.session sessionId := hsame
      obtain ⟨state, hstate, hlatched⟩ := session_some hsnapshot
      exact hold _ sessionId state hstate snapshot hlatched
    · obtain ⟨rfl, rfl⟩ := Prod.mk.inj (ha.symm.trans heq)
      obtain rfl := Option.some.inj hsnapshot
      exact ⟨login, by simp [hcontext]⟩

theorem traced (e : Effect s t) (h : Traced s) : Traced t :=
  ⟨e.authSessions h, e.selections h, e.tickets h, e.logins h, e.completions h, e.sessions h⟩

end Effect

/-! ## A ticket is used once -/

structure SingleUse (s : Handoff) : Prop where
  stored : ∀ (ticket : AuthTicket) (row : TicketRow),
    s.tickets[ticket]? = some row → ticket ∈ s.issuedTickets
  deleted : ∀ call ∈ s.calls, ∀ ticket, call.deletedTicket = some ticket →
    ticket ∈ s.issuedTickets ∧ ticket ∉ s.tickets
  once : ∀ call ∈ s.calls, ∀ call' ∈ s.calls, ∀ ticket, call.deletedTicket = some ticket →
    call'.deletedTicket = some ticket → call = call'

theorem mem_issuedTickets {later : List Call} (hcalls : t.calls = s.calls ++ later)
    {ticket : AuthTicket} (h : ticket ∈ s.issuedTickets) : ticket ∈ t.issuedTickets := by
  rw [issuedTickets, hcalls, List.filterMap_append]
  exact List.mem_append_left _ h

/-- Calls that neither issue nor delete a ticket. -/
theorem SingleUse.quiet (h : SingleUse s) {later : List Call} (ht : t.tickets = s.tickets)
    (hcalls : t.calls = s.calls ++ later) (hl : ∀ call ∈ later, call.deletedTicket = none) :
    SingleUse t := by
  have hold {call : Call} {ticket : AuthTicket} (hm : call ∈ t.calls)
      (hd : call.deletedTicket = some ticket) : call ∈ s.calls := by
    rw [hcalls] at hm
    rcases List.mem_append.mp hm with hm | hm
    · exact hm
    · rw [hl call hm] at hd
      cases hd
  refine ⟨?_, ?_, ?_⟩
  · intro ticket row hrow
    exact mem_issuedTickets hcalls (h.stored ticket row (ht ▸ hrow))
  · intro call hm ticket hd
    obtain ⟨hissued, hgone⟩ := h.deleted call (hold hm hd) ticket hd
    exact ⟨mem_issuedTickets hcalls hissued, ht ▸ hgone⟩
  · intro call hm call' hm' ticket hd hd'
    exact h.once call (hold hm hd) call' (hold hm' hd') ticket hd hd'

theorem SingleUse.issue (h : SingleUse s) {ticket : AuthTicket} {row : TicketRow} {call : Call}
    (hfresh : ticket ∉ s.issuedTickets) (hc : call.issuedTicket = some ticket)
    (hd : call.deletedTicket = none) (ht : t.tickets = s.tickets.insert ticket row)
    (hcalls : t.calls = s.calls ++ [call]) : SingleUse t := by
  have hnew : ticket ∈ t.issuedTickets := by
    simp [issuedTickets, hcalls, hc]
  have hold {other : Call} {gone : AuthTicket} (hm : other ∈ t.calls)
      (hgone : other.deletedTicket = some gone) : other ∈ s.calls := by
    rw [hcalls] at hm
    rcases List.mem_append.mp hm with hm | hm
    · exact hm
    · rw [List.mem_singleton.mp hm, hd] at hgone
      cases hgone
  refine ⟨?_, ?_, ?_⟩
  · rw [ht]
    exact forall_entries_insert
      (fun other row hrow => mem_issuedTickets hcalls (h.stored other row hrow)) hnew
  · intro other hm gone hgone
    obtain ⟨hissued, hout⟩ := h.deleted other (hold hm hgone) gone hgone
    refine ⟨mem_issuedTickets hcalls hissued, ?_⟩
    have hne : ticket ≠ gone := fun heq => hfresh (heq ▸ hissued)
    rw [ht]
    grind
  · intro call hm call' hm' gone hgone hgone'
    exact h.once call (hold hm hgone) call' (hold hm' hgone') gone hgone hgone'

theorem SingleUse.delete (h : SingleUse s) {ticket : AuthTicket} {row : TicketRow} {call : Call}
    (hrow : s.tickets[ticket]? = some row) (hd : call.deletedTicket = some ticket)
    (ht : t.tickets = s.tickets.erase ticket) (hcalls : t.calls = s.calls ++ [call]) :
    SingleUse t := by
  have hin : ticket ∈ s.tickets := by grind
  have hold {other : Call} (hm : other ∈ s.calls) : other.deletedTicket ≠ some ticket :=
    fun hgone => (h.deleted other hm ticket hgone).2 hin
  refine ⟨?_, ?_, ?_⟩
  · rw [ht]
    exact forall_entries_erase fun other row hrow => mem_issuedTickets hcalls (h.stored other row hrow)
  · intro other hm gone hgone
    rw [ht]
    rw [hcalls] at hm
    rcases List.mem_append.mp hm with hm | hm
    · obtain ⟨hissued, hout⟩ := h.deleted other hm gone hgone
      exact ⟨mem_issuedTickets hcalls hissued, by grind⟩
    · obtain rfl := List.mem_singleton.mp hm
      obtain rfl := Option.some.inj (hd.symm.trans hgone)
      exact ⟨mem_issuedTickets hcalls (h.stored ticket row hrow), by grind⟩
  · intro other hm other' hm' gone hgone hgone'
    rw [hcalls] at hm hm'
    rcases List.mem_append.mp hm with hm | hm <;> rcases List.mem_append.mp hm' with hm' | hm'
    · exact h.once other hm other' hm' gone hgone hgone'
    · have hsame := List.mem_singleton.mp hm'
      exact absurd (hgone.trans (hgone'.symm.trans (hsame ▸ hd))) (hold hm)
    · have hsame := List.mem_singleton.mp hm
      exact absurd (hgone'.trans (hgone.symm.trans (hsame ▸ hd))) (hold hm')
    · exact (List.mem_singleton.mp hm).trans (List.mem_singleton.mp hm').symm

theorem Effect.singleUse (e : Effect s t) (h : SingleUse s) : SingleUse t := by
  cases e with
  | unchanged | database | selected | presented | found =>
    exact h.quiet rfl (List.append_nil _).symm (by simp)
  | marked | owned | completed =>
    refine h.quiet rfl rfl fun call hm => ?_
    obtain rfl := List.mem_singleton.mp hm
    rfl
  | ended _ _ _ call hc =>
    refine h.quiet rfl rfl fun call hm => ?_
    obtain rfl := List.mem_singleton.mp hm
    rcases hc with ⟨owned, rfl⟩ | rfl <;> rfl
  | refused _ _ _ _ _ _ calls hc =>
    refine h.quiet rfl rfl fun call hm => ?_
    rcases hc with rfl | ⟨nowUnix, rfl⟩
    · cases hm
    · obtain rfl := List.mem_singleton.mp hm
      rfl
  | issued _ _ _ _ _ hfresh => exact h.issue hfresh rfl rfl rfl rfl
  | consumed _ _ _ _ _ _ _ ht => exact h.delete ht rfl rfl rfl

/-! ## Every run -/

/-- The calls through which a session comes to play for an account, in their order. -/
def authenticateCalls (authSession : AuthSessionId) (selection : SelectionId) (context : AuthContext)
    (issued : IssuedAuthTicket) (login : LoginId) (nowUnix : Int) (sessionId : SessionId) : List Call :=
  consumeCalls authSession selection context issued login nowUnix ++
    [.completeLogin login sessionId (some context) .loginSuccess]

/-- The login has authenticated the session with the ticket. -/
def Authenticates (s : Handoff) (ticket : AuthTicket) (login : LoginId) (sessionId : SessionId) : Prop :=
  (∃ authContext, Call.completeLogin login sessionId authContext .loginSuccess ∈ s.calls) ∧
    ∃ stage, s.logins[login]? = some ⟨sessionId, ticket, stage⟩

/-- What the hand-off guarantees of a state and of the runs that go on from it. -/
structure HandedOff (s : Handoff) : Prop where
  /-- A session plays for an account only with a ticket that was issued to that account for a player
  of its own, and that its login has consumed in time. -/
  authenticated : ∀ (sessionId : SessionId) (snapshot : SessionAuthSnapshot),
    (s.session sessionId).snapshot = some snapshot →
      ∃ (authSession : AuthSessionId) (selection : SelectionId) (issued : IssuedAuthTicket)
        (login : LoginId) (nowUnix : Int),
        nowUnix < issued.expiresAtUnix ∧
        s.logins[login]? = some ⟨sessionId, ticketBytes issued.ticket, .completed⟩ ∧
        (authenticateCalls authSession selection snapshot.authContext issued login nowUnix
          sessionId).Sublist s.calls
  /-- A ticket authenticates at most one session, by one login. -/
  single : ∀ (ticket : AuthTicket) (login login' : LoginId) (sessionId sessionId' : SessionId),
    s.Authenticates ticket login sessionId → s.Authenticates ticket login' sessionId' →
      login = login' ∧ sessionId = sessionId'
  /-- A ticket that was presented too late is gone, and has authenticated nobody. -/
  expired : ∀ (login : LoginId) (ticket : AuthTicket) (nowUnix : Int) (row : TicketRow),
    .consumeTicket login ticket nowUnix (some row) ∈ s.calls → row.expiresAtUnix ≤ nowUnix →
      ticket ∉ s.tickets ∧
        ∀ (login' : LoginId) (sessionId : SessionId), ¬ s.Authenticates ticket login' sessionId
  latched : ∀ (actions : List Action) (t : Handoff),
    Meets next Distinct s actions → run next s actions = some t →
      ∀ (sessionId : SessionId) (snapshot : SessionAuthSnapshot),
        (s.session sessionId).snapshot = some snapshot → (t.session sessionId).snapshot = some snapshot

/-- The consumption behind an authentication. -/
theorem consumed_of_authenticates (h : Traced s) {ticket : AuthTicket} {login : LoginId}
    {sessionId : SessionId} (ha : s.Authenticates ticket login sessionId) :
    ∃ (nowUnix : Int) (row : TicketRow), nowUnix < row.expiresAtUnix ∧
      .consumeTicket login ticket nowUnix (some row) ∈ s.calls := by
  obtain ⟨⟨authContext, hcall⟩, stage, hl⟩ := ha
  obtain ⟨before, ticket', context, -, hbefore, hl', hconsumed⟩ :=
    h.completions _ hcall login sessionId authContext rfl
  obtain ⟨rfl, -⟩ : ticket = ticket' ∧ stage = .completed := by
    simpa using hl.symm.trans hl'
  obtain ⟨authSession, selection, issued, nowUnix, rfl, hnow, hcalls⟩ := hconsumed
  refine ⟨nowUnix, ⟨context, issued.expiresAtUnix⟩, hnow, ?_⟩
  exact hbefore.subset (List.mem_append_left _ (hcalls.subset (by simp [consumeCalls])))

theorem Effect.snapshot_kept (e : Effect s t) {sessionId : SessionId} {snapshot : SessionAuthSnapshot}
    (h : (s.session sessionId).snapshot = some snapshot) :
    (t.session sessionId).snapshot = some snapshot := by
  cases e with
  | unchanged | database | marked | selected | owned | ended | issued | presented | refused | consumed |
      found => exact h
  | completed login other ticket loginResult result authState hl ha =>
    by_cases hs : other = sessionId
    · subst hs
      rcases authenticateLogin_cases loginResult (s.session other) with ⟨-, hsame⟩ |
        ⟨latched, -, -, hnone, -⟩
      · rw [ha] at hsame
        obtain rfl : authState = s.session other := hsame
        simpa [Handoff.session] using h
      · rw [h] at hnone
        cases hnone
    · have hkept : (s.sessions.insert other authState).getD sessionId {} = s.session sessionId := by
        rw [ExtTreeMap.getD_insert, if_neg (by simpa using hs)]
        rfl
      exact (congrArg SessionAuthState.snapshot hkept).trans h

theorem HandedOff.of_invariants (htraced : Traced s) (hsingle : SingleUse s) : HandedOff s where
  authenticated := by
    intro sessionId snapshot hsnapshot
    obtain ⟨state, hstate, hlatched⟩ := session_some hsnapshot
    obtain ⟨login, hcall⟩ := htraced.sessions sessionId state hstate snapshot hlatched
    obtain ⟨before, ticket, context, hcontext, hbefore, hl, hconsumed⟩ :=
      htraced.completions _ hcall login sessionId _ rfl
    obtain rfl := Option.some.inj hcontext
    obtain ⟨authSession, selection, issued, nowUnix, rfl, hnow, hcalls⟩ := hconsumed
    exact ⟨authSession, selection, issued, login, nowUnix, hnow, hl,
      (hcalls.append_right _).trans hbefore⟩
  single := by
    intro ticket login login' sessionId sessionId' ha ha'
    obtain ⟨nowUnix, row, -, hcall⟩ := consumed_of_authenticates htraced ha
    obtain ⟨nowUnix', row', -, hcall'⟩ := consumed_of_authenticates htraced ha'
    obtain ⟨rfl, -, -, -⟩ :=
      Call.consumeTicket.inj (hsingle.once _ hcall _ hcall' ticket rfl rfl)
    obtain ⟨⟨-, stage, hl⟩, -, stage', hl'⟩ := And.intro ha ha'
    exact ⟨rfl, congrArg TicketLogin.sessionId (Option.some.inj (hl.symm.trans hl'))⟩
  expired := by
    intro login ticket nowUnix row hcall hexpired
    refine ⟨(hsingle.deleted _ hcall ticket rfl).2, ?_⟩
    intro login' sessionId ha
    obtain ⟨nowUnix', row', hnow, hcall'⟩ := consumed_of_authenticates htraced ha
    obtain ⟨-, -, rfl, hrow⟩ :=
      Call.consumeTicket.inj (hsingle.once _ hcall _ hcall' ticket rfl rfl)
    obtain rfl := Option.some.inj hrow
    omega
  latched := by
    intro actions t hm hr sessionId snapshot hsnapshot
    exact run_invariant (fun s => (s.session sessionId).snapshot = some snapshot)
      (fun s a t hs hd hn => (next_effect hd hn).snapshot_kept hs) hsnapshot hm hr

theorem traced_initial : Traced {} where
  authSessions _ _ h := by simp at h
  selections _ _ h := by simp at h
  tickets _ _ h := by simp at h
  logins _ _ h := by simp at h
  completions _ h := by simp at h
  sessions _ _ h := by simp at h

theorem singleUse_initial : SingleUse {} where
  stored _ _ h := by simp at h
  deleted _ h := by simp at h
  once _ h := by simp at h

/-- The hand-off keeps its promise in every run. -/
theorem handedOff_of_run {actions : List Action} (hm : Meets next Distinct {} actions)
    (hr : run next {} actions = some s) : HandedOff s := by
  have hboth : Traced s ∧ SingleUse s := by
    refine run_invariant (fun s => Traced s ∧ SingleUse s) ?_ ⟨traced_initial, singleUse_initial⟩ hm hr
    intro s a t h hd hn
    have heffect := next_effect hd hn
    exact ⟨heffect.traced h.1, heffect.singleUse h.2⟩
  exact .of_invariants hboth.1 hboth.2

/-- Two sessions present one ticket, and the first of them plays. -/
def heroActions : List Action :=
  let randomBytes := Vector.replicate 32 0
  let ticket := ticketBytes (generateTicket randomBytes)
  [.changeDatabase (.createAccount "alice" "scrypt"), .changeDatabase (.createOwnedPlayer 1 "hero"),
    .markAuthenticated 7 1, .selectCharacter 0 7 1, .ownsPlayer 0, .issueTicket 0 randomBytes 100 false,
    .login 0 5 ticket true, .login 1 6 ticket true, .verify 0 120 false, .verify 1 121 false,
    .findPlayer 0 false, .complete 0, .complete 1]

theorem handedOff_of_run_hero :
    ∃ s, run next {} heroActions = some s ∧
      (s.session 5).snapshot = some ⟨⟨1, 1⟩, { playerId := 1, name := "hero" }⟩ ∧ s.session 6 = {} ∧
      HandedOff s := by
  have hm : Meets next Distinct {} heroActions := by decide +kernel
  obtain ⟨s, hr⟩ : ∃ s, run next {} heroActions = some s :=
    Option.isSome_iff_exists.mp (by decide +kernel)
  have hsessions : (run next {} heroActions).map (fun s => (s.session 5, s.session 6)) =
      some (⟨some ⟨⟨1, 1⟩, { playerId := 1, name := "hero" }⟩⟩, {}) := by decide +kernel
  rw [hr] at hsessions
  obtain ⟨hfirst, hsecond⟩ := Prod.mk.inj (Option.some.inj hsessions)
  exact ⟨s, hr, congrArg SessionAuthState.snapshot hfirst, hsecond, handedOff_of_run hm hr⟩

end Handoff

end DnfServer.Auth
