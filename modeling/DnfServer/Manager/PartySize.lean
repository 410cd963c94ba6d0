import DnfServer.Dungeons.Creation
import DnfServer.Manager.Departure
import DnfServer.Manager.Descent
import DnfServer.Model.Catalog

/-!
# The party size of a template

`AddDungeon` checks `maxPartySize` against the size of a party, and the catalog tells it to the
clients. No step of an EnterDungeon request compares it with the party that enters. Once a dungeon
is there its participants only become fewer.
-/

namespace DnfServer.Manager

open Std DnfServer.Library DnfServer.Participants DungeonManager
open DnfServer.Dungeons (Descends)
set_option autoImplicit false

/-- No live dungeon has more participants than its template allows. -/
def WithinPartySize (m : DungeonManager) : Prop :=
  ∀ (d : DungeonId) (dungeon : DungeonInstance), m.dungeons[d]? = some dungeon →
    dungeon.participants.length ≤ dungeon.dungeonTemplate.maxPartySize.toNat

/-- A party that is about to get a dungeon fits its template. -/
def EnterPlace.Fits (m : DungeonManager) (now : Int) : EnterPlace → Prop
  | .read partyId party dungeonTemplate =>
    Inserts m partyId party dungeonTemplate now →
      party.members.length ≤ dungeonTemplate.maxPartySize.toNat
  | _ => True

instance (m : DungeonManager) (now : Int) : (place : EnterPlace) → Decidable (place.Fits m now)
  | .read partyId party dungeonTemplate =>
    inferInstanceAs (Decidable (Inserts m partyId party dungeonTemplate now →
      party.members.length ≤ dungeonTemplate.maxPartySize.toNat))
  | .joined _ | .leader _ => isTrue trivial

/-- The condition on one step: the party that gets a dungeon fits its template. -/
def FitsTemplate (w : Lobby) : LobbyStep → Prop
  | .insertDungeon s now => ∀ place ∈ w.requests[s]?, place.Fits w.history.manager now
  | _ => True

instance (w : Lobby) (step : LobbyStep) : Decidable (FitsTemplate w step) :=
  match step with
  | .insertDungeon s now =>
    inferInstanceAs (Decidable (∀ place ∈ w.requests[s]?, place.Fits w.history.manager now))
  | .createParty .. | .joinParty .. | .leaveParty .. | .getJoinedParty .. | .getParty ..
  | .readParty .. | .removeDisconnect .. | .removeLeaveChannel .. | .removeLeaveParty ..
  | .call .. => isTrue trivial

variable {m m' : DungeonManager}

theorem WithinPartySize.descends (h : WithinPartySize m) (hm : DescendsAll m m') :
    WithinPartySize m' := by
  intro d dungeon' hd
  obtain ⟨dungeon, hold, hdesc⟩ := hm d dungeon' hd
  rw [hdesc.dungeonTemplate]
  exact Nat.le_trans hdesc.size (h d dungeon hold)

theorem WithinPartySize.insertDungeon (h : WithinPartySize m) {partyId : PartyId}
    {party : PartyInfo} {template : DungeonTemplate} (now : Int)
    (hfits : Inserts m partyId party template now →
      party.members.length ≤ template.maxPartySize.toNat) :
    WithinPartySize (m.insertDungeon partyId party template now).2 := by
  rcases insert_cases m partyId party template now with
    ⟨status, -, he⟩ | ⟨failure, he⟩ | ⟨built, created, hinserts, hnew, hb, he⟩ <;> rw [he]
  · exact h
  · exact h
  · intro d dungeon hd
    simp only at hd
    by_cases hnext : m.nextDungeonId = d ∧ m.nextDungeonId ∉ m.dungeons
    · obtain rfl : created = dungeon := by grind
      have hparticipants : created.participants = party.members := by
        rw [hb, (binds_bindMembers party.members built).participants, (new_spec hnew).2.2.1]
      have htemplate : created.dungeonTemplate = template := by
        rw [hb, (Remains.bindMembers _ _ built).dungeonTemplate, (Dungeons.created_new hnew).dungeonTemplate]
      rw [hparticipants, htemplate]
      exact hfits hinserts
    · exact h d dungeon (by grind)

/-- The invariant of the lobby. -/
structure Lobby.Sized (w : Lobby) : Prop where
  indexed : Indexed w.history
  within : WithinPartySize w.history.manager

theorem Lobby.Sized.call {w : Lobby} (h : w.Sized) {call : Call} {history : History}
    (hn : w.history.next call = some history) (hc : call.createsDungeon = false) :
    Indexed history ∧ WithinPartySize history.manager := by
  refine ⟨h.indexed.next hn, ?_⟩
  cases hk : call.keepsStates with
  | true => exact h.within.descends (descendsAll_of_next h.indexed hn hk)
  | false =>
    cases call with
    | startDungeon catalog d =>
      obtain rfl := Option.some.inj hn
      rcases startDungeon_cases catalog d w.history.manager with
        he | ⟨dungeon, state, rooms, hd, -, he⟩
      · simpa only [he] using h.within
      · intro e other hother
        simp only [he] at hother
        by_cases hde : d = e
        · subst hde
          obtain rfl : { dungeon with state, rooms } = other := by simpa using hother
          exact h.within d dungeon hd
        · exact h.within e other (by grind)
    | finishCleared d =>
      obtain rfl := Option.some.inj hn
      rcases finishCleared_cases d w.history.manager with he | ⟨dungeon, hd, -, he⟩
      · simpa only [he] using h.within
      · intro e other hother
        simp only [he] at hother
        by_cases hde : d = e
        · subst hde
          obtain rfl : { dungeon with state := .finished } = other := by simpa using hother
          exact h.within d dungeon hd
        · exact h.within e other (by grind)
    | _ => simp_all [Call.keepsStates, Call.createsDungeon]

theorem Lobby.Sized.next {w w' : Lobby} {step : LobbyStep} (h : w.Sized)
    (hok : FitsTemplate w step) (hn : w.next step = some w') : w'.Sized := by
  cases step with
  | createParty s | joinParty partyId s | leaveParty s | getJoinedParty s | getParty s
  | readParty s catalog templateId | removeLeaveChannel s | removeLeaveParty s =>
    -- the manager is no part of these steps
    simp only [Lobby.next] at hn
    split at hn
    · obtain rfl := Option.some.inj hn
      exact ⟨h.indexed, h.within⟩
    · cases hn
  | insertDungeon s now =>
    simp only [Lobby.next] at hn
    split at hn
    · rename_i partyId party template hrequest
      obtain rfl := Option.some.inj hn
      replace hok := hok (.read partyId party template) hrequest
      exact ⟨h.indexed.insertDungeon partyId party template now, h.within.insertDungeon now hok⟩
    · cases hn
  | removeDisconnect s at' order =>
    simp only [Lobby.next] at hn
    split at hn
    · simp only [Option.map_eq_some_iff] at hn
      obtain ⟨history, hcall, rfl⟩ := hn
      obtain ⟨hi, hw⟩ := h.call hcall rfl
      exact ⟨hi, hw⟩
    · cases hn
  | call call =>
    simp only [Lobby.next] at hn
    split at hn
    · cases hn
    · rename_i hcreate
      simp only [Option.map_eq_some_iff] at hn
      obtain ⟨history, hcall, rfl⟩ := hn
      obtain ⟨hi, hw⟩ := h.call hcall (by simpa using hcreate)
      exact ⟨hi, hw⟩

/-- In every run in which each party that gets a dungeon fits its template, no live dungeon has
more participants than its template allows. -/
theorem within_partySize_of_run {steps : List LobbyStep} {w : Lobby}
    (hm : Meets Lobby.next FitsTemplate {} steps) (hr : run Lobby.next {} steps = some w)
    (d : DungeonId) (dungeon : DungeonInstance) (hd : w.history.manager.dungeons[d]? = some dungeon) :
    dungeon.participants.length ≤ dungeon.dungeonTemplate.maxPartySize.toNat := by
  have hstart : Lobby.Sized {} := ⟨Indexed.start, by simp [WithinPartySize]⟩
  exact (run_invariant Lobby.Sized (fun _ _ _ h hok hn => h.next hok hn) hstart hm hr).within d
    dungeon hd

/-- A catalog with a training room for one player, as `AddDungeon` takes it. -/
def soloAdmission : Bool × DungeonCatalog :=
  DungeonCatalog.addDungeon {} 1 "Training"
    [{ id := 1, width := 10, depth := 10, playerSpawn := {} }] 1 1 {}

/-- A party of the given members asks for the training room. -/
def enterSolo (members : List LobbyStep) : List LobbyStep :=
  .createParty 100 :: members ++ [.getJoinedParty 100, .getParty 100,
    .readParty 100 soloAdmission.2 1, .insertDungeon 100 5]

theorem within_partySize_of_solo :
    ∃ w, run Lobby.next {} (enterSolo []) = some w ∧
      (∃ dungeon, w.history.manager.dungeons[1]? = some dungeon ∧
        DungeonInstance.participants dungeon = [100]) ∧
      ∀ (d : DungeonId) (dungeon : DungeonInstance), w.history.manager.dungeons[d]? = some dungeon →
        dungeon.participants.length ≤ dungeon.dungeonTemplate.maxPartySize.toNat := by
  obtain ⟨w, hr⟩ : ∃ w, run Lobby.next {} (enterSolo []) = some w :=
    Option.isSome_iff_exists.mp (by decide +kernel)
  refine ⟨w, hr, ?_, within_partySize_of_run (by decide +kernel) hr⟩
  cases hr
  decide +kernel

/-- A party of two enters a dungeon that is for one. -/
theorem not_within_partySize :
    soloAdmission.1 = true ∧
    ∃ w, run Lobby.next {} (enterSolo [.joinParty 1 101]) = some w ∧
      ∃ dungeon, w.history.manager.dungeons[1]? = some dungeon ∧
        dungeon.participants = [100, 101] ∧ dungeon.dungeonTemplate.maxPartySize = 1 ∧
        ¬ dungeon.participants.length ≤ dungeon.dungeonTemplate.maxPartySize.toNat := by
  obtain ⟨w, hr⟩ : ∃ w, run Lobby.next {} (enterSolo [.joinParty 1 101]) = some w :=
    Option.isSome_iff_exists.mp (by decide +kernel)
  refine ⟨by decide +kernel, w, hr, ?_⟩
  cases hr
  decide +kernel

end DnfServer.Manager
