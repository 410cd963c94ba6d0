import DnfServer.Model.Instance

/-!
# Parties

`PartyManager` of the server. Every function holds the manager's mutex from its first
access to its return and is one atomic step.
-/

namespace DnfServer

open Std

structure PartyInfo where
  id : PartyId
  leaderSessionId : SessionId
  members : List SessionId
  deriving DecidableEq, Repr

inductive JoinPartyResult where
  | success | partyNotFound | partyFull | alreadyJoined
  deriving DecidableEq, Repr

structure PartyManager where
  nextPartyId : PartyId := 1
  parties : IdMap PartyInfo := ∅
  joinedParties : IdMap PartyId := ∅
  deriving DecidableEq

namespace PartyManager

def createParty (leaderSessionId : SessionId) (manager : PartyManager) :
    Option PartyId × PartyManager :=
  if leaderSessionId ∈ manager.joinedParties then (none, manager)
  else
    let partyId := manager.nextPartyId
    let party : PartyInfo := { id := partyId, leaderSessionId, members := [leaderSessionId] }
    (some partyId,
      { nextPartyId := manager.nextPartyId + 1
        parties := manager.parties.insertIfNew partyId party
        joinedParties := manager.joinedParties.insertIfNew leaderSessionId partyId })

def joinParty (partyId : PartyId) (sessionId : SessionId) (manager : PartyManager) :
    JoinPartyResult × PartyManager :=
  match manager.parties[partyId]? with
  | none => (.partyNotFound, manager)
  | some party =>
    if sessionId ∈ manager.joinedParties then (.alreadyJoined, manager)
    else if party.members.length ≥ maxPartyMembers then (.partyFull, manager)
    else (.success, { manager with
      parties := manager.parties.insert partyId { party with members := party.members ++ [sessionId] }
      joinedParties := manager.joinedParties.insertIfNew sessionId partyId })

def leaveParty (sessionId : SessionId) (manager : PartyManager) : Bool × PartyManager :=
  match manager.joinedParties[sessionId]? with
  | none => (false, manager)
  | some partyId =>
    let joinedParties := manager.joinedParties.erase sessionId
    match manager.parties[partyId]? with
    | none => (false, { manager with joinedParties })
    | some party => match party.members.filter (· ≠ sessionId) with
      | [] => (true, { manager with parties := manager.parties.erase partyId, joinedParties })
      | first :: rest =>
        let leaderSessionId :=
          if party.leaderSessionId = sessionId then first else party.leaderSessionId
        (true, { manager with
          parties := manager.parties.insert partyId
            { party with leaderSessionId, members := first :: rest }
          joinedParties })

def getParty (partyId : PartyId) (manager : PartyManager) : Option PartyInfo :=
  manager.parties[partyId]?

def getJoinedParty (sessionId : SessionId) (manager : PartyManager) : Option PartyId :=
  manager.joinedParties[sessionId]?

end PartyManager

end DnfServer
