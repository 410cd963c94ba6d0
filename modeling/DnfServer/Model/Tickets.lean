import DnfServer.Model.AuthDispatcher
import DnfServer.Model.LoginAttempts
import DnfServer.Model.SessionAuth

/-!
# Auth tickets

The table `auth_tickets`, which the authentication server writes through `AuthTicketIssuer` and the
game server reads through `SqliteAuthTicketVerifier`, and the work of `PlayerLoginService`. The
ticket is the primary key. A transaction that an exception ends leaves the table as it was, so the
functions here are those of a transaction that is committed.
-/

namespace DnfServer

open Std

/-- A row of `auth_tickets` without its key. -/
structure TicketRow where
  context : AuthContext
  expiresAtUnix : Int
  deriving DecidableEq, Repr

abbrev AuthTickets := ExtTreeMap AuthTicket TicketRow

namespace SqliteAuthTicketStore

def canStoreContext (context : AuthContext) : Bool :=
  isValidAuthContext context && context.accountId ≤ maxRowId && context.playerId ≤ maxRowId

/-- The primary key and the foreign key of the player are the constraints that can fail. -/
def issueTicket (ticket : AuthTicket) (row : TicketRow) (database : Database) (tickets : AuthTickets) :
    Bool × AuthTickets :=
  if ¬ isValidAuthTicket ticket ∨ ¬ canStoreContext row.context ∨ row.expiresAtUnix ≤ 0 then
    (false, tickets)
  else if ticket ∈ tickets ∨ row.context.playerId ∉ database.players then (false, tickets)
  else (true, tickets.insert ticket row)

/-- The row that `ConsumeTicket` selects and deletes. -/
def selectTicket (ticket : AuthTicket) (nowUnix : Int) (tickets : AuthTickets) : Option TicketRow :=
  if ¬ isValidAuthTicket ticket ∨ nowUnix < 0 then none else tickets[ticket]?

def consumeTicket (ticket : AuthTicket) (nowUnix : Int) (tickets : AuthTickets) :
    Option AuthContext × AuthTickets :=
  match selectTicket ticket nowUnix tickets with
  | none => (none, tickets)
  | some row =>
    let tickets := tickets.erase ticket
    if row.expiresAtUnix ≤ nowUnix ∨ row.context.accountId = 0 ∨ row.context.playerId = 0 then
      (none, tickets)
    else (some row.context, tickets)

end SqliteAuthTicketStore

/-! ## Issuing a ticket -/

namespace Auth

/-- The bytes of a ticket, which are hexadecimal digits. -/
def ticketBytes (ticket : String) : AuthTicket := ascii ticket.toList

/-- `AuthTicketIssuer::Issue` holds the database twice. The first time it asks for the owner. -/
def issuable (context : AuthContext) (database : Database) : Bool :=
  isValidAuthContext context && database.ownsPlayer context.accountId context.playerId

/-- What `Issue` does after that; between the clock and the store nothing is shared. -/
def issueOwned (randomBytes : Vector UInt8 32) (nowUnix : Int) (context : AuthContext)
    (database : Database) (tickets : AuthTickets) :
    Except Failure (Option IssuedAuthTicket) × AuthTickets :=
  if defaultAuthTicketLifetime > 9223372036854775807 - nowUnix then
    (.error (.runtimeError "Auth ticket expiry time overflowed"), tickets)
  else
    let issuedTicket : IssuedAuthTicket :=
      { ticket := generateTicket randomBytes
        expiresAtUnix := nowUnix + defaultAuthTicketLifetime }
    match SqliteAuthTicketStore.issueTicket (ticketBytes issuedTicket.ticket)
        ⟨context, issuedTicket.expiresAtUnix⟩ database tickets with
    | (true, tickets) => (.ok (some issuedTicket), tickets)
    | (false, tickets) => (.ok none, tickets)

end Auth

/-! ## Logging in with a ticket -/

/-- How far a login has come: its work is queued, goes on with the context of its ticket, or has
posted its result to the io context, where the completion runs. -/
inductive LoginStage where
  | queued
  | verified (authContext : AuthContext)
  | posted (result : PlayerLoginResult)
  | completed
  deriving DecidableEq, Repr

namespace PlayerLoginService

/-- What the work makes of the answer of `Verify`. -/
def verified : Except Failure (Option AuthContext) → LoginStage
  | .error _ => .posted { status := .storageError }
  | .ok none => .posted { status := .invalidTicket }
  | .ok (some authContext) => .verified authContext

/-- What it makes of the answer of `FindPlayer`; the ticket is gone by then. -/
def found (authContext : AuthContext) : Except Failure (Option PlayerProfile) → LoginStage
  | .error _ => .posted { status := .storageError, authContext := some authContext }
  | .ok none => .posted { status := .playerNotFound, authContext := some authContext }
  | .ok (some profile) =>
    .posted { status := .success, authContext := some authContext, profile := some profile }

end PlayerLoginService

end DnfServer
