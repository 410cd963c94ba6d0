import DnfServer.Model.ChannelParty
import DnfServer.Parties.Membership

/-!
# Channel and party requests of many sessions

`HandleJoinPartyRequest` and `HandlePartySnapshotRequest` take the lock of `PartyManager` twice,
and other sessions act in between. The encoders throw when the two reads do not fit together.
They fit because nobody but a session itself takes it out of its party: its own requests run one
at a time on its strand, and its removal comes after them.
-/

namespace DnfServer.Parties

open Std DnfServer.Library PartyManager ChannelPartyRequestHandler
set_option autoImplicit false

/-- Where a request is between its two reads. -/
inductive RequestPlace where
  | joined (requestedPartyId : PartyId)
  | snapshot (joinedPartyId : PartyId)
  deriving DecidableEq

def RequestPlace.partyId : RequestPlace → PartyId
  | joined p | snapshot p => p

/-- How far `RemoveSession` has come. -/
inductive Removal where
  | leftChannel | removed
  deriving DecidableEq

structure Answer where
  sessionId : SessionId
  request : ChannelPartyRequest
  response : Except Failure ChannelPartyResponse

structure Lobbies where
  channels : ChannelManager := {}
  parties : PartyManager := {}
  places : IdMap RequestPlace := ∅
  removals : IdMap Removal := ∅
  answers : List Answer := []

inductive LobbyEvent where
  | addChannel (channelId : ChannelId) (name : String) (maxPlayers : Nat)
  | request (sessionId : SessionId) (request : ChannelPartyRequest)
  | getParty (sessionId : SessionId)
  | removeLeaveChannel (sessionId : SessionId)
  | removeLeaveParty (sessionId : SessionId)

namespace Lobbies

/-- The session exists, has no request under way and is not being removed. -/
def Free (w : Lobbies) (s : SessionId) : Prop := s ≠ 0 ∧ s ∉ w.places ∧ s ∉ w.removals

instance (w : Lobbies) (s : SessionId) : Decidable (w.Free s) :=
  inferInstanceAs (Decidable (_ ∧ _ ∧ _))

def answer (w : Lobbies) (s : SessionId) (request : ChannelPartyRequest)
    (response : Except Failure ChannelPartyResponse) : Lobbies :=
  { w with places := w.places.erase s, answers := ⟨s, request, response⟩ :: w.answers }

/-- A request up to its answer or to its second read. -/
def handle (w : Lobbies) (s : SessionId) : ChannelPartyRequest → Lobbies
  | .channelList => w.answer s .channelList (handleChannelListRequest w.channels)
  | .joinChannel channelId =>
    let out := handleJoinChannelRequest s channelId w.channels
    { w with channels := out.2 }.answer s (.joinChannel channelId) out.1
  | .createParty =>
    let out := handleCreatePartyRequest s w.parties
    { w with parties := out.2 }.answer s .createParty out.1
  | .joinParty partyId =>
    let out := beginJoinPartyRequest s partyId w.parties
    match out.1 with
    | .inl response => { w with parties := out.2 }.answer s (.joinParty partyId) response
    | .inr partyId => { w with parties := out.2, places := w.places.insert s (.joined partyId) }
  | .leaveParty =>
    let out := handleLeavePartyRequest s w.parties
    { w with parties := out.2 }.answer s .leaveParty out.1
  | .partySnapshot => match beginPartySnapshotRequest s w.parties with
    | .inl response => w.answer s .partySnapshot response
    | .inr partyId => { w with places := w.places.insert s (.snapshot partyId) }

def next (w : Lobbies) : LobbyEvent → Option Lobbies
  | .addChannel channelId name maxPlayers =>
    some { w with channels := (w.channels.addChannel channelId name maxPlayers).2 }
  | .request s request => if w.Free s then some (w.handle s request) else none
  | .getParty s => match w.places[s]? with
    | some (.joined p) => some (w.answer s (.joinParty p) (finishJoinPartyRequest p w.parties))
    | some (.snapshot p) => some (w.answer s .partySnapshot (finishPartySnapshotRequest p w.parties))
    | none => none
  | .removeLeaveChannel s =>
    if w.Free s then some { w with
      channels := (w.channels.leaveChannel s).2, removals := w.removals.insert s .leftChannel }
    else none
  | .removeLeaveParty s =>
    if w.removals[s]? = some .leftChannel then some { w with
      parties := (w.parties.leaveParty s).2, removals := w.removals.insert s .removed }
    else none

end Lobbies

/-! ## A call changes the membership of its session only -/

variable {m : PartyManager}

theorem createParty_other (m : PartyManager) {s t : SessionId} (hne : t ≠ s) :
    (m.createParty s).2.joinedParties[t]? = m.joinedParties[t]? := by
  rcases createParty_cases m s with ⟨-, he⟩ | ⟨-, he⟩ <;> rw [he]
  grind

theorem joinParty_other (m : PartyManager) (p : PartyId) {s t : SessionId} (hne : t ≠ s) :
    (m.joinParty p s).2.joinedParties[t]? = m.joinedParties[t]? := by
  rcases joinParty_cases m p s with ⟨-, he⟩ | ⟨party, -, -, -, he⟩ <;> rw [he]
  grind

theorem leaveParty_other (h : Membership m) {s t : SessionId} (hne : t ≠ s) :
    (m.leaveParty s).2.joinedParties[t]? = m.joinedParties[t]? := by
  rw [leaveParty_joinedParties h]
  grind

theorem ne_zero_of_mem (h : Membership m) (h0 : 0 ∉ m.joinedParties) {p : PartyId}
    {party : PartyInfo} {s : SessionId} (hp : m.parties[p]? = some party) (hs : s ∈ party.members) :
    s ≠ 0 := by
  have := (h.joined s p).mpr ⟨party, hp, hs⟩
  grind

/-! ## The encoders -/

theorem areValidMembers_of_nodup {leader : SessionId} {found : Bool}
    {previous members : List SessionId} (hnd : (previous ++ members).Nodup) (h0 : 0 ∉ members)
    (hled : found = true ∨ leader ∈ members) :
    areValidMembers leader found previous members = true := by
  induction members generalizing found previous with
  | nil => simpa [areValidMembers] using hled
  | cons member members ih =>
    have hnew : member ∉ previous := by
      intro hin
      exact (List.nodup_append.mp hnd).2.2 member hin member (by simp) rfl
    have hrest : areValidMembers leader (if member = leader then true else found)
        (previous ++ [member]) members = true := by
      apply ih
      · simpa using hnd
      · simp at h0
        exact h0.2
      · grind
    simp at h0
    simpa [areValidMembers, hnew, Ne.symm h0.1] using hrest

theorem finishJoinPartyRequest_ok {p : PartyId} {party : PartyInfo} (h : Membership m)
    (h0 : 0 ∉ m.joinedParties) (hp : m.parties[p]? = some party) :
    finishJoinPartyRequest p m = .ok (.joinParty .success p party.leaderSessionId) := by
  have hf := h.formed p party hp
  have hid := hf.keyed
  have hpos : p ≠ 0 := Nat.ne_of_gt hf.pos
  have hleader : party.leaderSessionId ≠ 0 := ne_zero_of_mem h h0 hp hf.leader_mem
  simp [finishJoinPartyRequest, getParty, hp, hid, encodeJoinPartyResponse,
    isValidJoinPartyResponse, hpos, hleader]

theorem finishPartySnapshotRequest_ok {p : PartyId} {party : PartyInfo} (h : Membership m)
    (h0 : 0 ∉ m.joinedParties) (hp : m.parties[p]? = some party) :
    finishPartySnapshotRequest p m =
      .ok (.partySnapshot .success p party.leaderSessionId party.members) := by
  have hf := h.formed p party hp
  have hid := hf.keyed
  have hpos : p ≠ 0 := Nat.ne_of_gt hf.pos
  have hleader : party.leaderSessionId ≠ 0 := ne_zero_of_mem h h0 hp hf.leader_mem
  have hmembers : areValidMembers party.leaderSessionId false [] party.members = true := by
    apply areValidMembers_of_nodup
    · simpa using hf.nodup
    · exact fun hin => ne_zero_of_mem h h0 hp hin rfl
    · exact .inr hf.leader_mem
  have hsize : ¬ (p = 0 ∨ party.leaderSessionId = 0 ∨ party.members = [] ∨
      party.members.length > maxPartyMembers) := by
    rintro (hzero | hzero | hempty | hlarge)
    · exact hpos hzero
    · exact hleader hzero
    · exact absurd hf.nonempty (by simp [hempty])
    · exact Nat.not_lt.mpr hf.size hlarge
  simp [finishPartySnapshotRequest, getParty, hp, hid, encodePartySnapshotResponse,
    isValidPartySnapshot, hsize, hmembers]

/-- A join is answered at once and changes nothing, or makes the session a member. -/
theorem beginJoinPartyRequest_cases (m : PartyManager) (s : SessionId) (p : PartyId) :
    (∃ response, (p ≠ 0 → ∃ result, response = .ok (.joinParty result 0 0)) ∧
      (∀ q leader, response ≠ .ok (.joinParty .success q leader)) ∧
      beginJoinPartyRequest s p m = (.inl response, m)) ∨
    (∃ party, (m.joinParty p s).2.parties[p]? = some party ∧ s ∈ party.members ∧
      beginJoinPartyRequest s p m = (.inr p, (m.joinParty p s).2)) := by
  by_cases h0 : p = 0
  · refine .inl ⟨.error (.runtimeError "Invalid join party request data"),
      fun h => absurd h0 h, by simp, ?_⟩
    simp [beginJoinPartyRequest, decodeJoinPartyRequest, h0]
  · have hdecode : decodeJoinPartyRequest p = .ok p := by simp [decodeJoinPartyRequest, h0]
    rcases joinParty_cases m p s with ⟨hfail, he⟩ | ⟨party, hp, hs, hroom, he⟩
    · refine .inl ⟨.ok (.joinParty (m.joinParty p s).1 0 0), fun _ => ⟨_, rfl⟩, ?_, ?_⟩
      · rintro q leader hq
        simp at hq
        exact hfail hq.1
      · obtain ⟨result, m', hj⟩ : ∃ result m', m.joinParty p s = (result, m') := ⟨_, _, rfl⟩
        rw [hj] at hfail he ⊢
        obtain rfl : m' = m := he
        cases result <;> simp [beginJoinPartyRequest, hdecode, hj, encodeJoinPartyResponse,
          isValidJoinPartyResponse] at hfail ⊢
    · refine .inr ⟨{ party with members := party.members ++ [s] }, ?_, by simp, ?_⟩
      · rw [he]
        simp
      · simp [beginJoinPartyRequest, hdecode, he]

/-! ## Over a run -/

/-- What the answer to a join or a snapshot promises. -/
structure Answered (a : Answer) : Prop where
  join : ∀ p, a.request = .joinParty p → p ≠ 0 → ∃ response, a.response = .ok response
  snapshot : a.request = .partySnapshot → ∃ response, a.response = .ok response
  joined : ∀ (p q : PartyId) (leader : SessionId), a.request = .joinParty p →
    a.response = .ok (.joinParty .success q leader) → q = p
  listed : ∀ (p : PartyId) (leader : SessionId) (members : List SessionId),
    a.request = .partySnapshot → a.response = .ok (.partySnapshot .success p leader members) →
    members.Nodup ∧ a.sessionId ∈ members ∧ leader ∈ members

/-- A session whose request is between its reads stays in the party it is about to read. -/
structure Stable (w : Lobbies) : Prop where
  membership : Membership w.parties
  nonzero : 0 ∉ w.parties.joinedParties
  placed : ∀ (s : SessionId) (place : RequestPlace), w.places[s]? = some place →
    s ∉ w.removals ∧ w.parties.joinedParties[s]? = some place.partyId
  answered : ∀ a ∈ w.answers, Answered a

namespace Stable

variable {w w' : Lobbies}

theorem initial : Stable {} := by
  refine ⟨Membership.initial, ?_, ?_, ?_⟩ <;> simp

/-- A call of a session without a place. -/
theorem parties (h : Stable w) {s : SessionId} {m : PartyManager} (hs : s ≠ 0) (hfree : s ∉ w.places)
    (hm : Membership m) (hother : ∀ t, t ≠ s → m.joinedParties[t]? = w.parties.joinedParties[t]?) :
    Stable { w with parties := m } := by
  refine ⟨hm, ?_, ?_, h.answered⟩
  · have := hother 0 hs.symm
    have := h.nonzero
    grind
  · intro t place ht
    have hne : t ≠ s := by grind
    rw [hother t hne]
    exact h.placed t place ht

theorem answer (h : Stable w) {s : SessionId} {request : ChannelPartyRequest}
    {response : Except Failure ChannelPartyResponse} (ha : Answered ⟨s, request, response⟩) :
    Stable (w.answer s request response) := by
  refine ⟨h.membership, h.nonzero, ?_, ?_⟩
  · intro t place ht
    exact h.placed t place (by simp only [Lobbies.answer] at ht; grind)
  · intro a ha'
    rcases List.mem_cons.mp ha' with rfl | ha'
    · exact ha
    · exact h.answered a ha'

theorem place (h : Stable w) {s : SessionId} {place : RequestPlace} (hs : s ∉ w.removals)
    (hp : w.parties.joinedParties[s]? = some place.partyId) :
    Stable { w with places := w.places.insert s place } := by
  refine ⟨h.membership, h.nonzero, ?_, h.answered⟩
  intro t place' ht
  have := h.placed t place'
  grind

theorem handle (h : Stable w) {s : SessionId} (hfree : w.Free s) (request : ChannelPartyRequest) :
    Stable (w.handle s request) := by
  obtain ⟨hs, hplace, hrem⟩ := hfree
  cases request with
  | channelList => exact h.answer ⟨by simp, by simp, by simp, by simp⟩
  | joinChannel channelId =>
    have hkeep : Stable { w with channels := (handleJoinChannelRequest s channelId w.channels).2 } :=
      ⟨h.membership, h.nonzero, h.placed, h.answered⟩
    exact hkeep.answer ⟨by simp, by simp, by simp, by simp⟩
  | createParty =>
    have hkeep : Stable { w with parties := (handleCreatePartyRequest s w.parties).2 } := by
      have he : (handleCreatePartyRequest s w.parties).2 = (w.parties.createParty s).2 := by
        simp only [handleCreatePartyRequest]
        split <;> simp_all
      rw [he]
      exact h.parties hs hplace (h.membership.createParty s) fun t ht => createParty_other _ ht
    exact hkeep.answer ⟨by simp, by simp, by simp, by simp⟩
  | joinParty p =>
    rcases beginJoinPartyRequest_cases w.parties s p with
      ⟨response, hp, hanswer, he⟩ | ⟨party, hp, hin, he⟩ <;> simp only [Lobbies.handle, he]
    · refine h.answer ⟨?_, by simp, ?_, by simp⟩
      · rintro q hq hzero
        obtain rfl : p = q := by simpa using hq
        exact ⟨_, (hp hzero).choose_spec⟩
      · intro q q' leader _ hr
        exact absurd hr (hanswer q' leader)
    · have hkeep : Stable { w with parties := (w.parties.joinParty p s).2 } :=
        h.parties hs hplace (h.membership.joinParty p s) fun t ht => joinParty_other _ p ht
      refine hkeep.place hrem ?_
      exact (hkeep.membership.joined s p).mpr ⟨party, hp, hin⟩
  | leaveParty =>
    have hkeep : Stable { w with parties := (w.parties.leaveParty s).2 } :=
      h.parties hs hplace (h.membership.leaveParty s) fun t ht => leaveParty_other h.membership ht
    exact hkeep.answer ⟨by simp, by simp, by simp, by simp⟩
  | partySnapshot =>
    cases hp : w.parties.joinedParties[s]? with
    | none =>
      have hbegin : beginPartySnapshotRequest s w.parties =
          .inl (.ok (.partySnapshot .notInParty 0 0 [])) := by
        simp [beginPartySnapshotRequest, getJoinedParty, hp, encodePartySnapshotResponse,
          isValidPartySnapshot]
      simp only [Lobbies.handle, hbegin]
      exact h.answer ⟨by simp, by simp, by simp, by simp⟩
    | some p =>
      simp only [Lobbies.handle, beginPartySnapshotRequest, getJoinedParty, hp]
      exact h.place hrem hp

/-- The second read finds the party with the session in it. -/
theorem getParty (h : Stable w) {s : SessionId} (hn : w.next (.getParty s) = some w') :
    Stable w' := by
  have hread (p : PartyId) (hw : w.places[s]? = some (.joined p) ∨
      w.places[s]? = some (.snapshot p)) :
      ∃ party, w.parties.parties[p]? = some party ∧ s ∈ PartyInfo.members party := by
    apply (h.membership.joined s p).mp
    rcases hw with hw | hw <;> exact (h.placed s _ hw).2
  simp only [Lobbies.next] at hn
  split at hn
  · rename_i p hw
    obtain rfl := Option.some.inj hn
    obtain ⟨party, hp, hin⟩ := hread p (.inl hw)
    rw [finishJoinPartyRequest_ok h.membership h.nonzero hp]
    refine h.answer ⟨fun q _ _ => ⟨_, rfl⟩, by simp, ?_, by simp⟩
    intro q q' leader hq hr
    simp at hq hr
    exact hr.1.symm.trans hq
  · rename_i p hw
    obtain rfl := Option.some.inj hn
    obtain ⟨party, hp, hin⟩ := hread p (.inr hw)
    rw [finishPartySnapshotRequest_ok h.membership h.nonzero hp]
    refine h.answer ⟨by simp, fun _ => ⟨_, rfl⟩, by simp, ?_⟩
    intro q leader members _ hr
    simp at hr
    obtain ⟨-, rfl, rfl⟩ := hr
    have hf := h.membership.formed _ party hp
    exact ⟨hf.nodup, hin, hf.leader_mem⟩
  · cases hn

theorem next (h : Stable w) {event : LobbyEvent} (hn : w.next event = some w') : Stable w' := by
  cases event with
  | addChannel channelId name maxPlayers =>
    obtain rfl := Option.some.inj hn
    exact ⟨h.membership, h.nonzero, h.placed, h.answered⟩
  | request s request =>
    simp only [Lobbies.next] at hn
    split at hn
    · rename_i hfree
      obtain rfl := Option.some.inj hn
      exact h.handle hfree request
    · cases hn
  | getParty s => exact h.getParty hn
  | removeLeaveChannel s =>
    simp only [Lobbies.next] at hn
    split at hn
    · rename_i hfree
      obtain rfl := Option.some.inj hn
      refine ⟨h.membership, h.nonzero, ?_, h.answered⟩
      intro t place ht
      have := h.placed t place ht
      have := hfree.2.1
      grind
    · cases hn
  | removeLeaveParty s =>
    simp only [Lobbies.next] at hn
    split at hn
    · rename_i hleft
      obtain rfl := Option.some.inj hn
      have hout (t : SessionId) (place : RequestPlace) (ht : w.places[t]? = some place) : t ≠ s := by
        have := (h.placed t place ht).1
        grind
      refine ⟨h.membership.leaveParty s, ?_, ?_, h.answered⟩
      · rw [leaveParty_joinedParties h.membership]
        have := h.nonzero
        grind
      · intro t place ht
        have := h.placed t place ht
        have := hout t place ht
        rw [leaveParty_other h.membership this]
        grind
    · cases hn

end Stable

/-- However the requests of the sessions interleave, a join of a party and a snapshot are
answered and throw nothing, a join reports the party that was asked for, and a snapshot lists
distinct members among whom are the session and the leader. -/
theorem answers_of_reachable {w : Lobbies} (hr : Reachable Lobbies.next {} w) {a : Answer}
    (ha : a ∈ w.answers) :
    (∀ p, a.request = .joinParty p → p ≠ 0 → ∃ response, a.response = .ok response) ∧
    (a.request = .partySnapshot → ∃ response, a.response = .ok response) ∧
    (∀ (p q : PartyId) (leader : SessionId), a.request = .joinParty p →
      a.response = .ok (.joinParty .success q leader) → q = p) ∧
    ∀ (p : PartyId) (leader : SessionId) (members : List SessionId),
      a.request = .partySnapshot → a.response = .ok (.partySnapshot .success p leader members) →
      members.Nodup ∧ a.sessionId ∈ members ∧ leader ∈ members := by
  have hs : Stable w :=
    reachable_invariant Stable (fun _ _ _ hi hn => hi.next hn) Stable.initial hr
  obtain ⟨hjoin, hsnapshot, hjoined, hlisted⟩ := hs.answered a ha
  exact ⟨hjoin, hsnapshot, hjoined, hlisted⟩

/-- The leader leaves between the two reads of a newcomer, who is told the next leader. -/
theorem answers_of_three :
    ∃ w, run Lobbies.next {} [.request 100 .createParty, .request 101 (.joinParty 1),
        .request 102 (.joinParty 1), .removeLeaveChannel 100, .getParty 101, .removeLeaveParty 100,
        .getParty 102] = some w ∧
      ∃ a ∈ w.answers, a = ⟨102, .joinParty 1, .ok (.joinParty .success 1 101)⟩ ∧
        ∃ response, a.response = .ok response := by
  have hr : ∃ w, run Lobbies.next {} [.request 100 .createParty, .request 101 (.joinParty 1),
      .request 102 (.joinParty 1), .removeLeaveChannel 100, .getParty 101, .removeLeaveParty 100,
      .getParty 102] = some w ∧ ∃ rest, w.answers =
        ⟨102, .joinParty 1, .ok (.joinParty .success 1 101)⟩ :: rest := ⟨_, rfl, _, rfl⟩
  obtain ⟨w, hr, rest, ha⟩ := hr
  have hin : (⟨102, .joinParty 1, .ok (.joinParty .success 1 101)⟩ : Answer) ∈ w.answers := by
    simp [ha]
  exact ⟨w, hr, _, hin, rfl, (answers_of_reachable ⟨_, hr⟩ hin).1 1 rfl (by decide)⟩

end DnfServer.Parties
