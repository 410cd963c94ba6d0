import Mathlib.Data.List.Basic
import DnfServer.Auth.Accounts
import DnfServer.Model.Tickets

/-!
# From the authentication server to the game server

The two servers share a database and nothing else. A step is a transaction of one of them, a
completion, or a request that queues work; work that is never taken up again stands for a server
that stops. Whoever presents a ticket need not be the one it was issued for, and may guess it.
`calls` records the calls that decide, each with what it returned.
-/

namespace DnfServer.Auth

open Std DnfServer.Library
open SqliteAuthTicketStore (selectTicket consumeTicket)
set_option autoImplicit false

abbrev AuthSessionId := Nat
abbrev SelectionId := Nat
abbrev LoginId := Nat

inductive SelectionStage where
  | queued | owned | ended
  deriving DecidableEq, Repr

/-- A selection of a character that has been queued, with the context that `Issue` is called with. -/
structure Selection where
  authSession : AuthSessionId
  context : AuthContext
  stage : SelectionStage
  deriving DecidableEq, Repr

structure TicketLogin where
  sessionId : SessionId
  ticket : AuthTicket
  stage : LoginStage
  deriving DecidableEq, Repr

/-- A call and its result. An exception of `Issue` counts as nothing issued, and `consumeTicket` is
recorded with the row that it has deleted. -/
inductive Call where
  | markAuthenticated (authSession : AuthSessionId) (accountId : AccountId) (marked : Bool)
  | ownsPlayer (selection : SelectionId) (context : AuthContext) (owned : Bool)
  | issue (selection : SelectionId) (context : AuthContext) (issued : Option IssuedAuthTicket)
  | consumeTicket (login : LoginId) (ticket : AuthTicket) (nowUnix : Int)
      (deleted : Option TicketRow)
  | completeLogin (login : LoginId) (sessionId : SessionId) (authContext : Option AuthContext)
      (result : DnfServer.LoginResult)
  deriving DecidableEq

def Call.issuedTicket : Call → Option AuthTicket
  | .issue _ _ (some issued) => some (ticketBytes issued.ticket)
  | _ => none

/-- The ticket whose row the call has deleted. -/
def Call.deletedTicket : Call → Option AuthTicket
  | .consumeTicket _ ticket _ (some _) => some ticket
  | _ => none

structure Handoff where
  database : Database := {}
  tickets : AuthTickets := ∅
  authSessions : IdMap AuthServerSessionState := ∅
  selections : IdMap Selection := ∅
  sessions : IdMap SessionAuthState := ∅
  logins : IdMap TicketLogin := ∅
  calls : List Call := []

namespace Handoff

def authSession (s : Handoff) (authSession : AuthSessionId) : AuthServerSessionState :=
  s.authSessions.getD authSession {}

def session (s : Handoff) (sessionId : SessionId) : SessionAuthState := s.sessions.getD sessionId {}

/-- A database error is one that the environment decides on. -/
inductive Action where
  | changeDatabase (op : DatabaseOp)
  | markAuthenticated (authSession : AuthSessionId) (accountId : AccountId)
  | selectCharacter (selection : SelectionId) (authSession : AuthSessionId) (playerId : PlayerId)
  | ownsPlayer (selection : SelectionId)
  | issueTicket (selection : SelectionId) (randomBytes : Vector UInt8 32) (nowUnix : Int)
      (throws : Bool)
  | login (login : LoginId) (sessionId : SessionId) (ticket : AuthTicket) (queued : Bool)
  | verify (login : LoginId) (nowUnix : Int) (throws : Bool)
  | findPlayer (login : LoginId) (throws : Bool)
  | complete (login : LoginId)

/-- What `Issue` returns, when it returns. -/
def returned : Except Failure (Option IssuedAuthTicket) → Option IssuedAuthTicket
  | .ok issued => issued
  | .error _ => none

def databaseError : Failure := .runtimeError "disk I/O error"

def next (s : Handoff) : Action → Option Handoff
  | .changeDatabase op => some { s with database := op.apply s.database }
  | .markAuthenticated authSession accountId =>
    let (marked, state) := (s.authSession authSession).markAuthenticated accountId
    some { s with
      authSessions := s.authSessions.insert authSession state
      calls := s.calls ++ [.markAuthenticated authSession accountId marked] }
  | .selectCharacter selection authSession playerId =>
    if selection ∈ s.selections then none
    else match (s.authSession authSession).accountId with
      | none => some s
      | some accountId =>
        if accountId = 0 ∨ playerId = 0 then some s
        else some { s with
          selections := s.selections.insert selection ⟨authSession, ⟨accountId, playerId⟩, .queued⟩ }
  | .ownsPlayer selection => match s.selections[selection]? with
    | some ⟨authSession, context, .queued⟩ =>
      let stage := if issuable context s.database then .owned else .ended
      some { s with
        selections := s.selections.insert selection ⟨authSession, context, stage⟩
        calls := s.calls ++ [.ownsPlayer selection context
          (s.database.ownsPlayer context.accountId context.playerId)] }
    | _ => none
  | .issueTicket selection randomBytes nowUnix throws => match s.selections[selection]? with
    | some ⟨authSession, context, .owned⟩ =>
      let (result, tickets) :=
        if throws then (.error databaseError, s.tickets)
        else issueOwned randomBytes nowUnix context s.database s.tickets
      some { s with
        tickets
        selections := s.selections.insert selection ⟨authSession, context, .ended⟩
        calls := s.calls ++ [.issue selection context (returned result)] }
    | _ => none
  | .login login sessionId ticket queued =>
    if login ∈ s.logins ∨ ¬ isValidAuthTicket ticket ∨ (s.session sessionId).isAuthenticated then none
    else
      let stage := if queued then .queued else .posted { status := .serviceBusy }
      some { s with logins := s.logins.insert login ⟨sessionId, ticket, stage⟩ }
  | .verify login nowUnix throws => match s.logins[login]? with
    | some ⟨sessionId, ticket, .queued⟩ =>
      if throws then
        let stage := PlayerLoginService.verified (.error databaseError)
        some { s with logins := s.logins.insert login ⟨sessionId, ticket, stage⟩ }
      else
        let (context, tickets) := consumeTicket ticket nowUnix s.tickets
        let stage := PlayerLoginService.verified (.ok context)
        some { s with
          tickets
          logins := s.logins.insert login ⟨sessionId, ticket, stage⟩
          calls := s.calls ++
            [.consumeTicket login ticket nowUnix (selectTicket ticket nowUnix s.tickets)] }
    | _ => none
  | .findPlayer login throws => match s.logins[login]? with
    | some ⟨sessionId, ticket, .verified authContext⟩ =>
      let profile :=
        if throws then .error databaseError else s.database.findPlayer authContext.playerId
      let stage := PlayerLoginService.found authContext profile
      some { s with logins := s.logins.insert login ⟨sessionId, ticket, stage⟩ }
    | _ => none
  | .complete login => match s.logins[login]? with
    | some ⟨sessionId, ticket, .posted loginResult⟩ =>
      let (result, authState) := authenticateLogin loginResult (s.session sessionId)
      some { s with
        sessions := s.sessions.insert sessionId authState
        logins := s.logins.insert login ⟨sessionId, ticket, .completed⟩
        calls := s.calls ++ [.completeLogin login sessionId loginResult.authContext result] }
    | _ => none

def issuedTickets (s : Handoff) : List AuthTicket := s.calls.filterMap Call.issuedTicket

/-- No ticket is generated that was issued before. -/
def Distinct (s : Handoff) : Action → Prop
  | .issueTicket _ randomBytes _ _ => ticketBytes (generateTicket randomBytes) ∉ s.issuedTickets
  | _ => True

instance (s : Handoff) : (a : Action) → Decidable (s.Distinct a)
  | .issueTicket _ randomBytes _ _ =>
    inferInstanceAs (Decidable (ticketBytes (generateTicket randomBytes) ∉ s.issuedTickets))
  | .changeDatabase _ | .markAuthenticated _ _ | .selectCharacter _ _ _ | .ownsPlayer _
  | .login _ _ _ _ | .verify _ _ _ | .findPlayer _ _ | .complete _ => isTrue trivial

end Handoff

/-! ## What a step does -/

namespace Handoff

/-- The login fails with this stage. -/
def Fails : LoginStage → Prop
  | .posted result => result.status ≠ .success
  | _ => False

/-- What a step leaves, with what it has checked. -/
inductive Effect (s : Handoff) : Handoff → Prop
  | unchanged : Effect s s
  | database (database : Database) : Effect s { s with database }
  | marked (authSession : AuthSessionId) (accountId : AccountId) (marked : Bool)
      (state : AuthServerSessionState)
      (hm : (s.authSession authSession).markAuthenticated accountId = (marked, state)) :
      Effect s { s with
        authSessions := s.authSessions.insert authSession state
        calls := s.calls ++ [.markAuthenticated authSession accountId marked] }
  | selected (selection : SelectionId) (authSession : AuthSessionId) (context : AuthContext)
      (ha : (s.authSession authSession).accountId = some context.accountId) :
      Effect s { s with
        selections := s.selections.insert selection ⟨authSession, context, .queued⟩ }
  | owned (selection : SelectionId) (authSession : AuthSessionId) (context : AuthContext)
      (hs : s.selections[selection]? = some ⟨authSession, context, .queued⟩)
      (ho : s.database.ownsPlayer context.accountId context.playerId = true) :
      Effect s { s with
        selections := s.selections.insert selection ⟨authSession, context, .owned⟩
        calls := s.calls ++ [.ownsPlayer selection context true] }
  | ended (selection : SelectionId) (authSession : AuthSessionId) (context : AuthContext) (call : Call)
      (hc : (∃ owned, call = .ownsPlayer selection context owned) ∨
        call = .issue selection context none) :
      Effect s { s with
        selections := s.selections.insert selection ⟨authSession, context, .ended⟩
        calls := s.calls ++ [call] }
  | issued (selection : SelectionId) (authSession : AuthSessionId) (context : AuthContext)
      (issued : IssuedAuthTicket)
      (hs : s.selections[selection]? = some ⟨authSession, context, .owned⟩)
      (hfresh : ticketBytes issued.ticket ∉ s.issuedTickets) :
      Effect s { s with
        tickets := s.tickets.insert (ticketBytes issued.ticket) ⟨context, issued.expiresAtUnix⟩
        selections := s.selections.insert selection ⟨authSession, context, .ended⟩
        calls := s.calls ++ [.issue selection context (some issued)] }
  | presented (login : LoginId) (sessionId : SessionId) (ticket : AuthTicket) (stage : LoginStage)
      (hl : login ∉ s.logins) (hs : stage = .queued ∨ Fails stage) :
      Effect s { s with logins := s.logins.insert login ⟨sessionId, ticket, stage⟩ }
  | refused (login : LoginId) (sessionId : SessionId) (ticket : AuthTicket) (stage : LoginStage)
      (hl : ∃ stage, s.logins[login]? = some ⟨sessionId, ticket, stage⟩ ∧ stage ≠ .completed)
      (hf : Fails stage) (calls : List Call)
      (hc : calls = [] ∨ ∃ nowUnix, calls = [.consumeTicket login ticket nowUnix none]) :
      Effect s { s with
        logins := s.logins.insert login ⟨sessionId, ticket, stage⟩, calls := s.calls ++ calls }
  | consumed (login : LoginId) (sessionId : SessionId) (ticket : AuthTicket) (nowUnix : Int)
      (row : TicketRow) (stage : LoginStage)
      (hl : s.logins[login]? = some ⟨sessionId, ticket, .queued⟩) (ht : s.tickets[ticket]? = some row)
      (hs : Fails stage ∨ nowUnix < row.expiresAtUnix ∧ stage = .verified row.context) :
      Effect s { s with
        tickets := s.tickets.erase ticket
        logins := s.logins.insert login ⟨sessionId, ticket, stage⟩
        calls := s.calls ++ [.consumeTicket login ticket nowUnix (some row)] }
  | found (login : LoginId) (sessionId : SessionId) (ticket : AuthTicket) (context : AuthContext)
      (profile : PlayerProfile)
      (hl : s.logins[login]? = some ⟨sessionId, ticket, .verified context⟩) :
      Effect s { s with logins := s.logins.insert login ⟨sessionId, ticket,
        .posted { status := .success, authContext := some context, profile := some profile }⟩ }
  | completed (login : LoginId) (sessionId : SessionId) (ticket : AuthTicket)
      (loginResult : PlayerLoginResult) (result : DnfServer.LoginResult) (authState : SessionAuthState)
      (hl : s.logins[login]? = some ⟨sessionId, ticket, .posted loginResult⟩)
      (ha : authenticateLogin loginResult (s.session sessionId) = (result, authState)) :
      Effect s { s with
        sessions := s.sessions.insert sessionId authState
        logins := s.logins.insert login ⟨sessionId, ticket, .completed⟩
        calls := s.calls ++ [.completeLogin login sessionId loginResult.authContext result] }

theorem fails_verified_none : Fails (PlayerLoginService.verified (.ok none)) := by
  simp [PlayerLoginService.verified, Fails]

theorem fails_verified_error (failure : Failure) :
    Fails (PlayerLoginService.verified (.error failure)) := by
  simp [PlayerLoginService.verified, Fails]

theorem issuable_owns {context : AuthContext} {database : Database}
    (h : issuable context database = true) :
    database.ownsPlayer context.accountId context.playerId = true := by
  simp only [issuable, Bool.and_eq_true] at h
  exact h.2

/-- Either nothing is issued and the table stays, or the ticket is new in it. -/
theorem issueOwned_cases (randomBytes : Vector UInt8 32) (nowUnix : Int) (context : AuthContext)
    (database : Database) (tickets : AuthTickets) :
    (∃ result, issueOwned randomBytes nowUnix context database tickets = (result, tickets) ∧
      returned result = none) ∨
    ∃ issued : IssuedAuthTicket, issued.ticket = generateTicket randomBytes ∧
      issueOwned randomBytes nowUnix context database tickets = (.ok (some issued),
        tickets.insert (ticketBytes issued.ticket) ⟨context, issued.expiresAtUnix⟩) := by
  unfold issueOwned
  by_cases hoverflow : defaultAuthTicketLifetime > 9223372036854775807 - nowUnix
  · exact .inl ⟨_, if_pos hoverflow, rfl⟩
  · rw [if_neg hoverflow]
    dsimp only
    unfold SqliteAuthTicketStore.issueTicket
    split_ifs
    · exact .inl ⟨_, rfl, rfl⟩
    · exact .inl ⟨_, rfl, rfl⟩
    · exact .inr ⟨⟨generateTicket randomBytes, nowUnix + defaultAuthTicketLifetime⟩, rfl, rfl⟩

/-- What `ConsumeTicket` deletes, and what it returns of it. -/
theorem consumeTicket_cases (ticket : AuthTicket) (nowUnix : Int) (tickets : AuthTickets) :
    selectTicket ticket nowUnix tickets = none ∧ consumeTicket ticket nowUnix tickets = (none, tickets) ∨
    ∃ row, selectTicket ticket nowUnix tickets = some row ∧ tickets[ticket]? = some row ∧
      (consumeTicket ticket nowUnix tickets = (none, tickets.erase ticket) ∨
        nowUnix < row.expiresAtUnix ∧
          consumeTicket ticket nowUnix tickets = (some row.context, tickets.erase ticket)) := by
  unfold consumeTicket
  cases hselect : selectTicket ticket nowUnix tickets with
  | none => exact .inl ⟨rfl, rfl⟩
  | some row =>
    refine .inr ⟨row, rfl, ?_, ?_⟩
    · unfold selectTicket at hselect
      split at hselect
      · cases hselect
      · exact hselect
    · dsimp only
      split
      · exact .inl rfl
      · rename_i hvalid
        exact .inr ⟨by omega, rfl⟩

theorem found_cases (context : AuthContext) (answer : Except Failure (Option PlayerProfile)) :
    Fails (PlayerLoginService.found context answer) ∨
      ∃ profile, PlayerLoginService.found context answer = .posted
        { status := .success, authContext := some context, profile := some profile } := by
  rcases answer with failure | _ | profile
  · exact .inl (by simp [PlayerLoginService.found, Fails])
  · exact .inl (by simp [PlayerLoginService.found, Fails])
  · exact .inr ⟨profile, rfl⟩

theorem next_effect {s t : Handoff} {a : Action} (hd : s.Distinct a) (hn : s.next a = some t) :
    Effect s t := by
  cases a with
  | changeDatabase op =>
    obtain rfl := Option.some.inj hn
    exact .database _
  | markAuthenticated authSession accountId =>
    obtain rfl := Option.some.inj hn
    exact .marked authSession accountId _ _ rfl
  | selectCharacter selection authSession playerId =>
    simp only [next] at hn
    split at hn
    · cases hn
    · split at hn
      · obtain rfl := Option.some.inj hn
        exact .unchanged
      · rename_i accountId ha
        split at hn
        · obtain rfl := Option.some.inj hn
          exact .unchanged
        · obtain rfl := Option.some.inj hn
          exact .selected selection authSession ⟨accountId, playerId⟩ ha
  | ownsPlayer selection =>
    simp only [next] at hn
    split at hn
    · rename_i authSession context hs
      obtain rfl := Option.some.inj hn
      by_cases hi : issuable context s.database = true
      · have howns := issuable_owns hi
        rw [if_pos hi, howns]
        exact .owned selection authSession context hs howns
      · rw [if_neg hi]
        exact .ended selection authSession context _ (.inl ⟨_, rfl⟩)
    · cases hn
  | issueTicket selection randomBytes nowUnix throws =>
    simp only [next] at hn
    split at hn
    · rename_i authSession context hs
      obtain rfl := Option.some.inj hn
      cases throws with
      | true => exact .ended selection authSession context _ (.inr rfl)
      | false =>
        rw [if_neg Bool.false_ne_true]
        rcases issueOwned_cases randomBytes nowUnix context s.database s.tickets with
          ⟨result, hresult, hnone⟩ | ⟨issued, hticket, hresult⟩
        · rw [hresult, hnone]
          exact .ended selection authSession context _ (.inr rfl)
        · rw [hresult]
          refine .issued selection authSession context issued hs ?_
          rw [hticket]
          exact hd
    · cases hn
  | login login sessionId ticket queued =>
    simp only [next] at hn
    split at hn
    · cases hn
    · rename_i hguard
      obtain rfl := Option.some.inj hn
      refine .presented login sessionId ticket _ (fun hl => hguard (.inl hl)) ?_
      cases queued with
      | true => exact .inl rfl
      | false => exact .inr (by simp [Fails])
  | verify login nowUnix throws =>
    simp only [next] at hn
    split at hn
    · rename_i sessionId ticket hl
      have hwaiting : ∃ stage, s.logins[login]? = some ⟨sessionId, ticket, stage⟩ ∧ stage ≠ .completed :=
        ⟨_, hl, LoginStage.noConfusion⟩
      cases throws with
      | true =>
        obtain rfl := Option.some.inj hn
        simpa only [List.append_nil] using
          Effect.refused login sessionId ticket _ hwaiting (fails_verified_error databaseError) [] (.inl rfl)
      | false =>
        obtain rfl := Option.some.inj hn
        rcases consumeTicket_cases ticket nowUnix s.tickets with
          ⟨hselect, heq⟩ | ⟨row, hselect, ht, heq | ⟨hvalid, heq⟩⟩
        · rw [heq, hselect]
          exact .refused login sessionId ticket _ hwaiting fails_verified_none _ (.inr ⟨nowUnix, rfl⟩)
        · rw [heq, hselect]
          exact .consumed login sessionId ticket nowUnix row _ hl ht (.inl fails_verified_none)
        · rw [heq, hselect]
          exact .consumed login sessionId ticket nowUnix row _ hl ht (.inr ⟨hvalid, rfl⟩)
    · cases hn
  | findPlayer login throws =>
    simp only [next] at hn
    split at hn
    · rename_i sessionId ticket context hl
      obtain rfl := Option.some.inj hn
      generalize (if throws = true then Except.error databaseError
        else s.database.findPlayer context.playerId) = answer
      rcases found_cases context answer with hf | ⟨profile, heq⟩
      · simpa only [List.append_nil] using
          Effect.refused login sessionId ticket _ ⟨_, hl, LoginStage.noConfusion⟩ hf [] (.inl rfl)
      · rw [heq]
        exact .found login sessionId ticket context profile hl
    · cases hn
  | complete login =>
    simp only [next] at hn
    split at hn
    · rename_i sessionId ticket loginResult hl
      obtain rfl := Option.some.inj hn
      exact .completed login sessionId ticket loginResult _ _ hl rfl
    · cases hn

end Handoff

end DnfServer.Auth
