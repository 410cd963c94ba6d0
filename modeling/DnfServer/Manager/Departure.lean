import DnfServer.Manager.Uniqueness

/-!
# A session that leaves while its party enters a dungeon

`RemoveSession` marks a session disconnected in its dungeon and only then takes it out of
its party. `CreateDungeon` reads the members of the party before it takes the lock under
which it inserts the dungeon. Between these steps a dungeon can be inserted with a member
whose disconnect is over: nobody marks it there, and no sweep removes it.

Each request and each removal runs on the strand of its session, so a session has one of
them under way at most and makes no request once its removal has begun.
-/

namespace DnfServer.Manager

open Std DnfServer.Library DnfServer.Participants DungeonManager
set_option autoImplicit false

/-- Where an EnterDungeon request is: after `GetJoinedParty`, after `GetParty` and the check
of the leader, and after the reads of `CreateDungeon`. -/
inductive EnterPlace where
  | joined (partyId : PartyId)
  | leader (partyId : PartyId)
  | read (partyId : PartyId) (party : PartyInfo) (dungeonTemplate : DungeonTemplate)
  deriving DecidableEq

/-- How far `RemoveSession` has come. -/
inductive RemovalPlace where
  | disconnected | leftChannel | removed
  deriving DecidableEq

structure Lobby where
  parties : PartyManager := {}
  history : History := {}
  requests : IdMap EnterPlace := ∅
  removals : IdMap RemovalPlace := ∅

/-- A dungeon is created by the steps of a request only. -/
def Call.createsDungeon : Call → Bool
  | .createDungeon .. => true
  | _ => false

inductive LobbyStep where
  | createParty (sessionId : SessionId)
  | joinParty (partyId : PartyId) (sessionId : SessionId)
  | leaveParty (sessionId : SessionId)
  | getJoinedParty (sessionId : SessionId)
  | getParty (sessionId : SessionId)
  | readParty (sessionId : SessionId) (catalog : DungeonCatalog) (templateId : DungeonTemplateId)
  | insertDungeon (sessionId : SessionId) (now : Int)
  | removeDisconnect (sessionId : SessionId) (disconnectedAt : Int) (order : List DungeonId)
  | removeLeaveChannel (sessionId : SessionId)
  | removeLeaveParty (sessionId : SessionId)
  | call (call : Call)

namespace Lobby

/-- The session has no request under way and is not being removed. -/
def Free (w : Lobby) (s : SessionId) : Prop := s ∉ w.requests ∧ s ∉ w.removals

instance (w : Lobby) (s : SessionId) : Decidable (w.Free s) :=
  inferInstanceAs (Decidable (_ ∧ _))

/-- The reads of `CreateDungeon`: the stop flag, the party and the template. -/
def readParty (w : Lobby) (partyId : PartyId) (catalog : DungeonCatalog)
    (templateId : DungeonTemplateId) : Option EnterPlace :=
  if w.history.manager.stopping then none
  else (w.parties.getParty partyId).bind fun party =>
    (catalog.getDungeon templateId).map fun dungeonTemplate => .read partyId party dungeonTemplate

/-- A request goes to its next place, or ends. -/
def request (w : Lobby) (s : SessionId) (place : Option EnterPlace) : Lobby :=
  { w with requests := match place with
      | some place => w.requests.insert s place
      | none => w.requests.erase s }

def next (w : Lobby) : LobbyStep → Option Lobby
  | .createParty s =>
    if w.Free s then some { w with parties := (w.parties.createParty s).2 } else none
  | .joinParty partyId s =>
    if w.Free s then some { w with parties := (w.parties.joinParty partyId s).2 } else none
  | .leaveParty s =>
    if w.Free s then some { w with parties := (w.parties.leaveParty s).2 } else none
  | .getJoinedParty s =>
    if w.Free s then some (w.request s ((w.parties.getJoinedParty s).map .joined)) else none
  | .getParty s => match w.requests[s]? with
    | some (.joined partyId) =>
      some (w.request s (((w.parties.getParty partyId).filter (·.leaderSessionId = s)).map
        fun _ => .leader partyId))
    | _ => none
  | .readParty s catalog templateId => match w.requests[s]? with
    | some (.leader partyId) => some (w.request s (w.readParty partyId catalog templateId))
    | _ => none
  | .insertDungeon s now => match w.requests[s]? with
    | some (.read partyId party dungeonTemplate) =>
      let out := w.history.manager.insertDungeon partyId party dungeonTemplate now
      some { w.request s none with
        history := { w.history with
          manager := out.2, issued := createdIds out.1 ++ w.history.issued } }
    | _ => none
  | .removeDisconnect s t order =>
    if w.Free s then
      (w.history.next (.disconnectPlayerSession s t order)).map fun history =>
        { w with history, removals := w.removals.insert s .disconnected }
    else none
  | .removeLeaveChannel s =>
    if w.removals[s]? = some .disconnected then
      some { w with removals := w.removals.insert s .leftChannel }
    else none
  | .removeLeaveParty s =>
    if w.removals[s]? = some .leftChannel then
      some { w with
        parties := (w.parties.leaveParty s).2, removals := w.removals.insert s .removed }
    else none
  | .call call =>
    if call.createsDungeon then none
    else (w.history.next call).map fun history => { w with history }

end Lobby

/-- The condition on one step: an insertion that goes through with session `t` among the members
that were read comes before the disconnect of `t`, and while `t` is in no live dungeon. -/
def InTime (t : SessionId) (w : Lobby) : LobbyStep → Prop
  | .insertDungeon s now => match w.requests[s]? with
    | some (.read partyId party template) =>
      t ∈ party.members → Inserts w.history.manager partyId party template now →
        t ∉ w.history.closed ∧ Absent w.history.manager.dungeons t
    | _ => True
  | _ => True

instance (t : SessionId) (w : Lobby) (step : LobbyStep) : Decidable (InTime t w step) := by
  cases step with
  | insertDungeon s now =>
    dsimp only [InTime]
    split <;> infer_instance
  | _ => exact instDecidableTrue

/-! ## One session in the history of the manager -/

/-- Until its disconnect session `t` is in one live dungeon at most; from then on it is marked
in each live dungeon that lists it. -/
structure Settled (t : SessionId) (h : History) : Prop where
  indexed : Indexed h
  once : t ∉ h.closed → ∀ (d e : DungeonId) (dungeon other : DungeonInstance),
    h.manager.dungeons[d]? = some dungeon → h.manager.dungeons[e]? = some other →
    t ∈ dungeon.players → t ∈ other.players → d = e
  marked : t ∈ h.closed → ∀ (d : DungeonId) (dungeon : DungeonInstance),
    h.manager.dungeons[d]? = some dungeon → t ∈ dungeon.players → t ∈ dungeon.disconnectedSince

namespace Settled

variable {t : SessionId} {h h' : History}

/-- A step that adds `t` to no dungeon and takes no mark away. -/
theorem shrink (hs : Settled t h) (hi : Indexed h') (hclosed : h'.closed = h.closed)
    (hd : ∀ (d : DungeonId) (dungeon' : DungeonInstance), h'.manager.dungeons[d]? = some dungeon' →
      t ∈ dungeon'.players → ∃ dungeon, h.manager.dungeons[d]? = some dungeon ∧
        t ∈ DungeonInstance.players dungeon ∧
        (t ∈ dungeon.disconnectedSince → t ∈ dungeon'.disconnectedSince)) : Settled t h' := by
  refine ⟨hi, ?_, ?_⟩
  · intro hc d e dungeon' other' h1 h2 ht ht'
    obtain ⟨dungeon, h1, ht, -⟩ := hd d dungeon' h1 ht
    obtain ⟨other, h2, ht', -⟩ := hd e other' h2 ht'
    exact hs.once (hclosed ▸ hc) d e dungeon other h1 h2 ht ht'
  · intro hc d dungeon' h1 ht
    obtain ⟨dungeon, h1, ht, hkeep⟩ := hd d dungeon' h1 ht
    exact hkeep (hs.marked (hclosed ▸ hc) d dungeon h1 ht)

theorem insertDungeon (hs : Settled t h) {partyId : PartyId} {party : PartyInfo}
    (template : DungeonTemplate) (now : Int)
    (hok : t ∈ party.members → Inserts h.manager partyId party template now →
      t ∉ h.closed ∧ Absent h.manager.dungeons t) :
    Settled t { h with
      manager := (h.manager.insertDungeon partyId party template now).2
      issued := createdIds (h.manager.insertDungeon partyId party template now).1 ++ h.issued } := by
  have hi := hs.indexed.insertDungeon partyId party template now
  refine ⟨hi, ?_, ?_⟩
  all_goals
    rcases insert_cases h.manager partyId party template now with
      ⟨status, -, he⟩ | ⟨failure, he⟩ | ⟨built, created, hinserts, hnew, hb, he⟩ <;>
    rw [he]
  · exact hs.once
  · exact hs.once
  · have hbinds : Binds h.manager.authenticatedPlayers built created := hb ▸ binds_bindMembers _ _
    obtain ⟨-, -, -, -, -, -, -, -, -, -, hplayers, -⟩ := new_spec hnew
    intro hc d e dungeon other h1 h2 ht ht'
    have habsent : t ∈ created.players → Absent h.manager.dungeons t := by
      intro hin
      rw [hbinds.players, hplayers] at hin
      exact (hok hin hinserts).2
    have := hs.once hc d e dungeon other
    simp only [Absent] at habsent
    simp only at h1 h2
    grind
  · exact hs.marked
  · exact hs.marked
  · have hbinds : Binds h.manager.authenticatedPlayers built created := hb ▸ binds_bindMembers _ _
    obtain ⟨-, -, -, -, -, -, -, -, -, -, hplayers, -⟩ := new_spec hnew
    intro hc d dungeon h1 ht
    have hout : t ∉ created.players := by
      intro hin
      rw [hbinds.players, hplayers] at hin
      exact (hok hin hinserts).1 hc
    have := hs.marked hc d dungeon
    simp only at h1
    grind

theorem register (hs : Settled t h) {s p : Nat} {now grace : Int} {order : List DungeonId}
    (hn : h.next (.registerPlayerSession s p now grace order) = some h') : Settled t h' := by
  have hi := hs.indexed.next hn
  simp only [History.next] at hn
  split at hn
  · rename_i hopen
    obtain rfl := Option.some.inj hn
    cases register_outcome hs.indexed.index.consistent hopen.2 s p now grace with
    | refused ha he =>
      refine hs.shrink hi rfl fun d dungeon hd ht => ⟨dungeon, ?_, ht, id⟩
      rwa [he] at hd
    | unbound ha d dungeon hd hin hb he =>
      refine hs.shrink hi rfl fun d dungeon hd ht => ⟨dungeon, ?_, ht, id⟩
      rwa [he] at hd
    | newcomer ha hnone hr he =>
      refine hs.shrink hi rfl fun d dungeon hd ht => ⟨dungeon, ?_, ht, id⟩
      rwa [he] at hd
    | bound ha x other hx hin hb he =>
      have hsp : (signIn s p h.manager).authenticatedPlayers[s]? = some p := by simp [signIn]
      have hbinds := binds_bindParticipantPlayer _ hsp other
      refine hs.shrink hi rfl ?_
      intro d dungeon' hd ht
      rw [he] at hd
      by_cases hxd : x = d
      · subst hxd
        have heq : dungeon' = (other.bindParticipantPlayer s p).2 := by simpa using hd.symm
        rw [heq] at ht ⊢
        rw [hbinds.players] at ht
        exact ⟨other, hx, ht, by rw [hbinds.disconnectedSince]; exact id⟩
      · exact ⟨dungeon', by simp only at hd; grind, ht, id⟩
    | back ha hnone x other old at' player hx hf hr hp he =>
      have hlook : ∀ (d : DungeonId) (dungeon' : DungeonInstance),
          (h.manager.registerPlayerSession s p now grace order).2.dungeons[d]? = some dungeon' →
          (d = x ∧ dungeon' = moved p old s player (other.disconnectedSince.erase old) other) ∨
            (d ≠ x ∧ h.manager.dungeons[d]? = some dungeon') := by
        intro d dungeon' hd
        rw [he] at hd
        simp only [reconnected, signIn] at hd
        grind
      by_cases hst : s = t
      · -- the session comes into its first dungeon
        subst hst
        refine ⟨hi, ?_, fun hc => absurd hc hopen.1⟩
        intro hc d e dungeon' other' hd he' ht ht'
        rcases hlook d dungeon' hd with ⟨rfl, -⟩ | ⟨-, hd⟩
        · rcases hlook e other' he' with ⟨rfl, -⟩ | ⟨-, he'⟩
          · rfl
          · exact absurd ht' (hnone e other' he')
        · exact absurd ht (hnone d dungeon' hd)
      · refine hs.shrink hi rfl ?_
        intro d dungeon' hd ht
        rcases hlook d dungeon' hd with ⟨rfl, rfl⟩ | ⟨-, hd⟩
        · simp only [moved] at ht ⊢
          exact ⟨other, hx, by grind, by grind⟩
        · exact ⟨dungeon', hd, ht, id⟩
  · cases hn

theorem rollback (hs : Settled t h) {new : SessionId} {reconnect : PlayerReconnect}
    (hn : h.next (.rollbackPlayerReconnect new reconnect) = some h') : Settled t h' := by
  have hi := hs.indexed.next hn
  obtain ⟨x, p, old, at'⟩ := reconnect
  simp only [History.next] at hn
  split at hn
  · rename_i hret
    obtain rfl := Option.some.inj hn
    obtain ⟨hnew, hold⟩ := hs.indexed.opened new _ hret
    rcases rollbackPlayer_cases hs.indexed.index.consistent x p new old at' with
      ⟨-, he⟩ | ⟨other, player, hx, hr, hp, he⟩
    · refine hs.shrink hi rfl fun d dungeon hd ht => ⟨dungeon, ?_, ht, id⟩
      rwa [he] at hd
    · have hlook : ∀ (d : DungeonId) (dungeon' : DungeonInstance),
          (h.manager.rollbackPlayerReconnect x p new old at').2.dungeons[d]? = some dungeon' →
          (d = x ∧ dungeon' = moved p new old player (other.disconnectedSince.insertIfNew old at')
              other) ∨ (d ≠ x ∧ h.manager.dungeons[d]? = some dungeon') := by
        intro d dungeon' hd
        rw [he] at hd
        simp only at hd
        grind
      by_cases hot : old = t
      · -- the slot of `t` comes back, with its mark
        subst hot
        refine ⟨hi, fun hc => absurd hold hc, ?_⟩
        intro hc d dungeon' hd ht
        rcases hlook d dungeon' hd with ⟨rfl, rfl⟩ | ⟨-, hd⟩
        · simp only [moved]
          grind
        · exact hs.marked hc d dungeon' hd ht
      · refine hs.shrink hi rfl ?_
        intro d dungeon' hd ht
        rcases hlook d dungeon' hd with ⟨rfl, rfl⟩ | ⟨-, hd⟩
        · simp only [moved] at ht ⊢
          exact ⟨other, hx, by grind, by grind⟩
        · exact ⟨dungeon', hd, ht, id⟩
  · cases hn

/-- The disconnect of `t` marks the one dungeon that it is in. -/
theorem disconnect (hs : Settled t h) {s : SessionId} {at' : Int} {order : List DungeonId}
    (hn : h.next (.disconnectPlayerSession s at' order) = some h') : Settled t h' := by
  have hi := hs.indexed.next hn
  simp only [History.next] at hn
  split at hn
  · rename_i ho
    obtain rfl := Option.some.inj hn
    have hlook : ∀ (d : DungeonId) (dungeon' : DungeonInstance),
        (h.manager.disconnectPlayerSession s at' order).2.dungeons[d]? = some dungeon' →
        ∃ dungeon, h.manager.dungeons[d]? = some dungeon ∧
          DungeonInstance.players dungeon = dungeon'.players ∧
          ∀ x, x ∈ dungeon.disconnectedSince → x ∈ dungeon'.disconnectedSince := by
      intro d dungeon' hd
      rcases disconnectPlayer_cases ho s at' with ⟨-, he⟩ | ⟨-, -, he⟩ | ⟨-, x, other, hx, -, he⟩
      · rw [he] at hd
        exact ⟨dungeon', hd, rfl, fun _ hx => hx⟩
      · rw [he] at hd
        exact ⟨dungeon', by simpa using hd, rfl, fun _ hx => hx⟩
      · rw [he] at hd
        simp only [Manager.marked] at hd
        by_cases hxd : x = d
        · subst hxd
          exact ⟨other, hx, by grind, by grind⟩
        · exact ⟨dungeon', by grind, rfl, fun _ hx => hx⟩
    refine ⟨hi, ?_, ?_⟩
    · intro hc d e dungeon' other' hd he ht ht'
      obtain ⟨dungeon, hd, hp, -⟩ := hlook d dungeon' hd
      obtain ⟨other, he, hp', -⟩ := hlook e other' he
      exact hs.once (fun hin => hc (List.mem_cons_of_mem _ hin)) d e dungeon other hd he
        (hp ▸ ht) (hp' ▸ ht')
    · intro hc d dungeon' hd ht
      obtain ⟨dungeon, hold, hp, hkeep⟩ := hlook d dungeon' hd
      rw [← hp] at ht
      by_cases hclosed : t ∈ h.closed
      · exact hkeep t (hs.marked hclosed d dungeon hold ht)
      · obtain rfl : t = s := by simpa [hclosed] using hc
        have hzero := (hs.indexed.index.consistent d dungeon hold).nonzero
        rcases disconnectPlayer_cases ho t at' with
          ⟨rfl, he⟩ | ⟨-, hnone, he⟩ | ⟨-, x, other, hx, hin, he⟩
        · exact absurd ht hzero
        · exact absurd ht (hnone d dungeon hold)
        · have hdx := hs.once hclosed d x dungeon other hold hx ht hin
          subst hdx
          rw [he] at hd
          have heq : dungeon' = Manager.marked t at' other := by simpa using hd.symm
          rw [heq]
          simp only [Manager.marked]
          grind
  · cases hn

/-- Every call but the creation of a dungeon. -/
theorem call (hs : Settled t h) {call : Call} (hn : h.next call = some h')
    (hcreate : call.createsDungeon = false) : Settled t h' := by
  have hi := hs.indexed.next hn
  cases call with
  | createDungeon parties catalog partyId templateId now => cases hcreate
  | registerPlayerSession s p now grace order => exact hs.register hn
  | rollbackPlayerReconnect new reconnect => exact hs.rollback hn
  | disconnectPlayerSession s at' order => exact hs.disconnect hn
  | sweepAbandonedParticipants now grace lifetime =>
    obtain rfl := Option.some.inj hn
    refine hs.shrink hi rfl ?_
    intro d dungeon' hd ht
    by_cases hpos : 0 < grace ∧ 0 < lifetime
    · obtain ⟨dungeon, hold, -, rfl⟩ :=
        (sweep_effect hpos.1 hpos.2 now h.manager).kept hs.indexed.index.consistent hpos.1 hd
      simp only [without] at ht ⊢
      exact ⟨dungeon, hold, by grind, by grind⟩
    · simp only [sweep_idle hpos] at hd
      exact ⟨dungeon', hd, ht, id⟩
  | startDungeon catalog x =>
    obtain rfl := Option.some.inj hn
    refine hs.shrink hi rfl ?_
    intro d dungeon' hd ht
    rcases startDungeon_cases catalog x h.manager with he | ⟨dungeon, state, rooms, hx, -, he⟩
    · rw [he] at hd
      exact ⟨dungeon', hd, ht, id⟩
    · rw [he] at hd
      simp only at hd
      by_cases hxd : x = d
      · subst hxd
        exact ⟨dungeon, hx, by grind, by grind⟩
      · exact ⟨dungeon', by grind, ht, id⟩
  | cancelDungeon x =>
    obtain rfl := Option.some.inj hn
    refine hs.shrink hi rfl fun d dungeon' hd ht => ⟨dungeon', ?_, ht, id⟩
    rcases cancel_cases h.manager x with he | ⟨dungeon, hx, -, he⟩
    · rwa [he] at hd
    · rw [he] at hd
      simp only [removeDungeon] at hd
      grind
  | finishCleared x =>
    obtain rfl := Option.some.inj hn
    refine hs.shrink hi rfl ?_
    intro d dungeon' hd ht
    rcases finishCleared_cases x h.manager with he | ⟨dungeon, hx, -, he⟩
    · rw [he] at hd
      exact ⟨dungeon', hd, ht, id⟩
    · rw [he] at hd
      simp only at hd
      by_cases hxd : x = d
      · subst hxd
        exact ⟨dungeon, hx, by grind, by grind⟩
      · exact ⟨dungeon', by grind, ht, id⟩
  | finishDungeon x =>
    obtain rfl := Option.some.inj hn
    refine hs.shrink hi rfl fun d dungeon' hd ht => ⟨dungeon', ?_, ht, id⟩
    rcases finish_cases h.manager x with he | ⟨dungeon, hx, -, he⟩
    · rwa [he] at hd
    · rw [he] at hd
      simp only [removeDungeon] at hd
      grind
  | stop =>
    obtain rfl := Option.some.inj hn
    refine hs.shrink hi rfl fun d dungeon' hd ht => ⟨dungeon', ?_, ht, id⟩
    simp only [DungeonManager.stop] at hd
    split at hd
    · exact hd
    · simp at hd

end Settled

/-! ## Whole runs -/

/-- The invariant: the manager is settled on `t`, and a removal has closed its session. -/
structure Lobby.Orderly (t : SessionId) (w : Lobby) : Prop where
  settled : Settled t w.history
  closed : t ∈ w.removals → t ∈ w.history.closed

theorem closed_mono {h h' : History} {call : Call} (hn : h.next call = some h') {s : SessionId}
    (hs : s ∈ h.closed) : s ∈ h'.closed := by
  cases call <;> simp only [History.next] at hn <;> grind

theorem Lobby.Orderly.next {t : SessionId} {w w' : Lobby} {step : LobbyStep} (h : w.Orderly t)
    (hok : InTime t w step) (hn : w.next step = some w') : w'.Orderly t := by
  cases step with
  | createParty s | joinParty partyId s | leaveParty s | getJoinedParty s | getParty s
  | readParty s catalog templateId =>
    -- the parties and the requests are no part of the invariant
    simp only [Lobby.next] at hn
    split at hn
    · obtain rfl := Option.some.inj hn
      exact ⟨h.settled, h.closed⟩
    · cases hn
  | insertDungeon s now =>
    simp only [Lobby.next] at hn
    dsimp only [InTime] at hok
    split at hn
    · rename_i partyId party template hrequest
      obtain rfl := Option.some.inj hn
      rw [hrequest] at hok
      exact ⟨h.settled.insertDungeon template now hok, h.closed⟩
    · cases hn
  | removeDisconnect s at' order =>
    simp only [Lobby.next] at hn
    split at hn
    · simp only [Option.map_eq_some_iff] at hn
      obtain ⟨history, hcall, rfl⟩ := hn
      refine ⟨h.settled.disconnect hcall, ?_⟩
      intro ht
      by_cases hts : t = s
      · subst hts
        simp only [History.next] at hcall
        grind
      · exact closed_mono hcall (h.closed (by simp only at ht; grind))
    · cases hn
  | removeLeaveChannel s | removeLeaveParty s =>
    simp only [Lobby.next] at hn
    split at hn
    · obtain rfl := Option.some.inj hn
      exact ⟨h.settled, fun ht => h.closed (by simp only at ht; grind)⟩
    · cases hn
  | call call =>
    simp only [Lobby.next] at hn
    split at hn
    · cases hn
    · rename_i hcreate
      simp only [Option.map_eq_some_iff] at hn
      obtain ⟨history, hcall, rfl⟩ := hn
      exact ⟨h.settled.call hcall (by simpa using hcreate),
        fun ht => closed_mono hcall (h.closed ht)⟩

/-- In every interleaving in which the dungeons are inserted in time: once `RemoveSession` has
completed for session `t`, each live dungeon that lists `t` has it marked disconnected. -/
theorem removed_session_marked {t : SessionId} {steps : List LobbyStep} {w : Lobby}
    (hm : Meets Lobby.next (InTime t) {} steps) (hr : run Lobby.next {} steps = some w)
    (hremoved : w.removals[t]? = some .removed) :
    ∀ (d : DungeonId) (dungeon : DungeonInstance), w.history.manager.dungeons[d]? = some dungeon →
      t ∈ dungeon.participants → dungeon.isParticipantDisconnected t = true := by
  have hstart : Lobby.Orderly t {} :=
    ⟨⟨Indexed.start, by simp, by simp⟩, by simp⟩
  have h := run_invariant (Lobby.Orderly t) (fun _ _ _ h hok hn => h.next hok hn) hstart hm hr
  intro d dungeon hd ht
  rw [(h.settled.indexed.index.consistent d dungeon hd).listed] at ht
  exact ExtTreeMap.contains_iff_mem.mpr
    (h.settled.marked (h.closed (by grind)) d dungeon hd ht)

/-- Session `100` asks for a dungeon for the party that it has with `101`, and the members are
read. -/
def membersRead : List LobbyStep :=
  [.createParty 100, .joinParty 1 101, .getJoinedParty 100, .getParty 100,
    .readParty 100 oneDungeonCatalog 1]

/-- The dungeon goes in before the disconnect. -/
def insertedBefore : List LobbyStep :=
  membersRead ++ [.insertDungeon 100 5, .removeDisconnect 101 6 [1], .removeLeaveChannel 101,
    .removeLeaveParty 101]

theorem removed_session_marked_insertedBefore :
    ∃ w, run Lobby.next {} insertedBefore = some w ∧
      (∃ dungeon, w.history.manager.dungeons[1]? = some dungeon ∧
        101 ∈ DungeonInstance.participants dungeon) ∧
      ∀ (d : DungeonId) (dungeon : DungeonInstance), w.history.manager.dungeons[d]? = some dungeon →
        101 ∈ dungeon.participants → dungeon.isParticipantDisconnected 101 = true := by
  obtain ⟨w, hr⟩ : ∃ w, run Lobby.next {} insertedBefore = some w :=
    Option.isSome_iff_exists.mp (by decide)
  refine ⟨w, hr, ?_, removed_session_marked (by decide) hr ?_⟩
  all_goals
    cases hr
    decide

/-- The dungeon goes in after the disconnect, and then the session leaves its party. -/
theorem removed_session_unmarked :
    ∃ w, run Lobby.next {} (membersRead ++ [.removeDisconnect 101 6 [], .insertDungeon 100 7,
        .removeLeaveChannel 101, .removeLeaveParty 101]) = some w ∧
      w.removals[101]? = some .removed ∧ w.requests = ∅ ∧
      ∃ dungeon, w.history.manager.dungeons[1]? = some dungeon ∧
        101 ∈ DungeonInstance.participants dungeon ∧
        dungeon.isParticipantDisconnected 101 = false := by
  obtain ⟨w, hr⟩ : ∃ w, run Lobby.next {} (membersRead ++ [.removeDisconnect 101 6 [],
      .insertDungeon 100 7, .removeLeaveChannel 101, .removeLeaveParty 101]) = some w :=
    Option.isSome_iff_exists.mp (by decide)
  refine ⟨w, hr, ?_, ?_, ?_⟩
  all_goals
    cases hr
    decide

end DnfServer.Manager
