import DnfServer.Model.Party
import DnfServer.Library.Runs

/-!
# Parties and their members

`PartyManager` keeps the members of each party in a list and, in a second map, the party of
each session. The invariant says that the two agree. It also fixes the order of the list:
members stand in the order in which they joined, so the leader, who is always the first of
them, is the one who has been in the party longest.

A history is any sequence of calls of the three operations. `issued` records the party ids
handed out, and `joinedAt` at which call a session joined the party it is in.
-/

namespace DnfServer.Parties

open Std DnfServer.Library PartyManager
set_option autoImplicit false

inductive PartyCall where
  | createParty (leaderSessionId : SessionId)
  | joinParty (partyId : PartyId) (sessionId : SessionId)
  | leaveParty (sessionId : SessionId)

structure PartyHistory where
  parties : PartyManager := {}
  issued : List PartyId := []
  calls : Nat := 0
  joinedAt : IdMap Nat := ∅

namespace PartyHistory

def step (h : PartyHistory) : PartyCall → PartyHistory
  | .createParty s =>
    let out := h.parties.createParty s
    { parties := out.2
      issued := out.1.toList ++ h.issued
      calls := h.calls + 1
      joinedAt := if out.1.isSome then h.joinedAt.insert s h.calls else h.joinedAt }
  | .joinParty p s =>
    let out := h.parties.joinParty p s
    { h with
      parties := out.2
      calls := h.calls + 1
      joinedAt := if out.1 = .success then h.joinedAt.insert s h.calls else h.joinedAt }
  | .leaveParty s =>
    { h with
      parties := (h.parties.leaveParty s).2
      calls := h.calls + 1
      joinedAt := h.joinedAt.erase s }

/-- Every call is possible in every state. -/
def next (h : PartyHistory) (call : PartyCall) : Option PartyHistory := some (h.step call)

end PartyHistory

/-! ## The members and the leader -/

/-- A party under id `p`: its members are distinct and are led by the first of them. -/
structure Formed (nextPartyId p : PartyId) (party : PartyInfo) : Prop where
  keyed : party.id = p
  pos : 0 < p
  below : p < nextPartyId
  nodup : party.members.Nodup
  size : party.members.length ≤ maxPartyMembers
  led : party.members.head? = some party.leaderSessionId

/-- The two maps of the manager agree. -/
structure Membership (m : PartyManager) : Prop where
  opened : 0 < m.nextPartyId
  joined : ∀ (s : SessionId) (p : PartyId), m.joinedParties[s]? = some p ↔
    ∃ party, m.parties[p]? = some party ∧ s ∈ PartyInfo.members party
  formed : ∀ (p : PartyId) (party : PartyInfo), m.parties[p]? = some party →
    Formed m.nextPartyId p party

namespace Formed

variable {bound bound' p : PartyId} {party : PartyInfo}

theorem leader_mem (h : Formed bound p party) : party.leaderSessionId ∈ party.members :=
  List.mem_of_mem_head? h.led

theorem nonempty (h : Formed bound p party) : 0 < party.members.length :=
  List.length_pos_of_mem h.leader_mem

theorem mono (h : Formed bound p party) (hb : bound ≤ bound') : Formed bound' p party :=
  { h with below := Nat.lt_of_lt_of_le h.below hb }

end Formed

namespace Membership

variable {m : PartyManager} {s t : SessionId} {p q : PartyId} {party : PartyInfo}

theorem initial : Membership {} := by
  constructor <;> simp

/-- A session is in one party at most. -/
theorem same_party (h : Membership m) {other : PartyInfo} (hp : m.parties[p]? = some party)
    (hq : m.parties[q]? = some other) (hs : s ∈ party.members) (hs' : s ∈ other.members) :
    p = q := by
  have h1 := (h.joined s p).mpr ⟨party, hp, hs⟩
  have h2 := (h.joined s q).mpr ⟨other, hq, hs'⟩
  rw [h1] at h2
  exact Option.some.inj h2

theorem not_mem (h : Membership m) (hs : s ∉ m.joinedParties) (hp : m.parties[p]? = some party) :
    s ∉ party.members := by
  intro hin
  have := (h.joined s p).mpr ⟨party, hp, hin⟩
  grind

theorem absent_nextPartyId (h : Membership m) : m.parties[m.nextPartyId]? = none := by
  cases hp : m.parties[m.nextPartyId]? with
  | none => rfl
  | some party => exact absurd (h.formed _ party hp).below (Nat.lt_irrefl _)

end Membership

/-! ## What each call does -/

variable {m : PartyManager}

theorem createParty_cases (m : PartyManager) (s : SessionId) :
    (s ∈ m.joinedParties ∧ m.createParty s = (none, m)) ∨
    (s ∉ m.joinedParties ∧ m.createParty s = (some m.nextPartyId,
      { nextPartyId := m.nextPartyId + 1
        parties := m.parties.insertIfNew m.nextPartyId
          { id := m.nextPartyId, leaderSessionId := s, members := [s] }
        joinedParties := m.joinedParties.insertIfNew s m.nextPartyId })) := by
  by_cases hs : s ∈ m.joinedParties
  · exact .inl ⟨hs, by simp [createParty, hs]⟩
  · exact .inr ⟨hs, by simp [createParty, hs]⟩

theorem joinParty_cases (m : PartyManager) (p : PartyId) (s : SessionId) :
    ((m.joinParty p s).1 ≠ .success ∧ (m.joinParty p s).2 = m) ∨
    ∃ party, m.parties[p]? = some party ∧ s ∉ m.joinedParties ∧
      party.members.length < maxPartyMembers ∧
      m.joinParty p s = (.success, { m with
        parties := m.parties.insert p { party with members := party.members ++ [s] }
        joinedParties := m.joinedParties.insertIfNew s p }) := by
  cases hp : m.parties[p]? with
  | none => exact .inl (by simp [joinParty, hp])
  | some party =>
    by_cases hs : s ∈ m.joinedParties
    · exact .inl (by simp [joinParty, hp, hs])
    · by_cases hfull : party.members.length ≥ maxPartyMembers
      · exact .inl (by simp [joinParty, hp, hs, hfull])
      · exact .inr ⟨party, rfl, hs, by omega, by simp [joinParty, hp, hs, hfull]⟩

/-- A session that joined a party is taken out of it. The party ends with its last member, and
goes to the next one in line when its leader leaves. -/
theorem leaveParty_cases (h : Membership m) (s : SessionId) :
    (s ∉ m.joinedParties ∧ m.leaveParty s = (false, m)) ∨
    (∃ p party, m.joinedParties[s]? = some p ∧ m.parties[p]? = some party ∧
      party.members = [s] ∧ m.leaveParty s = (true, { m with
        parties := m.parties.erase p, joinedParties := m.joinedParties.erase s })) ∨
    (∃ p party first rest, m.joinedParties[s]? = some p ∧ m.parties[p]? = some party ∧
      party.members.filter (· ≠ s) = first :: rest ∧ m.leaveParty s = (true, { m with
        parties := m.parties.insert p
          { party with leaderSessionId := first, members := first :: rest }
        joinedParties := m.joinedParties.erase s })) := by
  cases hs : m.joinedParties[s]? with
  | none => exact .inl ⟨by grind, by simp [leaveParty, hs]⟩
  | some p =>
    obtain ⟨party, hp, hin⟩ := (h.joined s p).mp hs
    refine .inr ?_
    have hled := (h.formed p party hp).led
    have hnd := (h.formed p party hp).nodup
    cases hf : party.members.filter (· ≠ s) with
    | nil =>
      refine .inl ⟨p, party, rfl, hp, ?_, by simp only [leaveParty, hs, hp, hf]⟩
      have hall : ∀ x ∈ party.members, x = s := by simpa using hf
      have hrep : party.members = List.replicate party.members.length s :=
        List.eq_replicate_of_mem hall
      rw [hrep] at hnd
      have := List.nodup_replicate.mp hnd
      have := (h.formed p party hp).nonempty
      rw [hrep, show party.members.length = 1 by omega]
      rfl
    | cons first rest =>
      refine .inr ⟨p, party, first, rest, rfl, hp, hf, ?_⟩
      have hfirst : (if party.leaderSessionId = s then first else party.leaderSessionId) = first := by
        split
        · rfl
        · rename_i hne
          obtain ⟨tail, htail⟩ := List.head?_eq_some_iff.mp hled
          rw [htail, List.filter_cons_of_pos (by simpa using hne)] at hf
          exact (List.cons.inj hf).1
      simp only [leaveParty, hs, hp, hf, hfirst]

/-- After `LeaveParty` each party is left with its members except for the one that left. -/
theorem leaveParty_remaining (h : Membership m) (s : SessionId) {p : PartyId} {party' : PartyInfo}
    (hp : (m.leaveParty s).2.parties[p]? = some party') :
    ∃ party, m.parties[p]? = some party ∧ party'.members = party.members.filter (· ≠ s) := by
  have hother (party : PartyInfo) (hs : s ∉ party.members) :
      party.members = party.members.filter (· ≠ s) := by
    refine (List.filter_eq_self.mpr ?_).symm
    grind
  rcases leaveParty_cases h s with ⟨hs, he⟩ | ⟨q, party, hs, hq, hmem, he⟩ |
    ⟨q, party, first, rest, hs, hq, hf, he⟩ <;> rw [he] at hp
  · exact ⟨party', hp, hother party' (h.not_mem hs hp)⟩
  · have hold : m.parties[p]? = some party' := by grind
    refine ⟨party', hold, hother party' fun hin => ?_⟩
    have := h.same_party hq hold (s := s) (by simp [hmem]) hin
    grind
  · by_cases hne : q = p
    · subst hne
      exact ⟨party, hq, by grind⟩
    · have hold : m.parties[p]? = some party' := by grind
      refine ⟨party', hold, hother party' fun hin => ?_⟩
      have := (h.joined s p).mpr ⟨party', hold, hin⟩
      grind

theorem leaveParty_joinedParties (h : Membership m) (s : SessionId) :
    (m.leaveParty s).2.joinedParties = m.joinedParties.erase s := by
  rcases leaveParty_cases h s with ⟨hs, he⟩ | ⟨p, party, -, -, -, he⟩ |
    ⟨p, party, first, rest, -, -, -, he⟩ <;> rw [he]
  ext t p
  grind

theorem leaveParty_nextPartyId (h : Membership m) (s : SessionId) :
    (m.leaveParty s).2.nextPartyId = m.nextPartyId := by
  rcases leaveParty_cases h s with ⟨-, he⟩ | ⟨p, party, -, -, -, he⟩ |
    ⟨p, party, first, rest, -, -, -, he⟩ <;> rw [he]

/-- `LeaveParty` finds the party of every session that joined one. -/
theorem leaveParty_eq_true_iff (h : Membership m) (s : SessionId) :
    (m.leaveParty s).1 = true ↔ s ∈ m.joinedParties := by
  rcases leaveParty_cases h s with ⟨hs, he⟩ | ⟨p, party, hs, -, -, he⟩ |
    ⟨p, party, first, rest, hs, -, -, he⟩ <;> grind

namespace Membership

theorem createParty (h : Membership m) (s : SessionId) : Membership (m.createParty s).2 := by
  rcases createParty_cases m s with ⟨-, he⟩ | ⟨hs, he⟩ <;> rw [he]
  · exact h
  · have hnew := h.absent_nextPartyId
    refine ⟨Nat.succ_pos _, ?_, ?_⟩
    · intro t q
      have hj := h.joined t q
      have hjs := h.joined s q
      have hlook : (m.parties.insertIfNew m.nextPartyId
          { id := m.nextPartyId, leaderSessionId := s, members := [s] })[q]? =
          if m.nextPartyId = q then some { id := m.nextPartyId, leaderSessionId := s, members := [s] }
          else m.parties[q]? := by grind
      by_cases hne : m.nextPartyId = q
      · subst hne
        grind
      · simp only [hlook, if_neg hne, ← hj]
        grind
    · intro q party hq
      by_cases hne : m.nextPartyId = q
      · have hparty : party = { id := m.nextPartyId, leaderSessionId := s, members := [s] } := by
          grind
        subst hparty
        exact ⟨hne, hne ▸ h.opened, by simp [hne], by simp, by simp [maxPartyMembers], rfl⟩
      · exact (h.formed q party (by grind)).mono (Nat.le_succ _)

theorem joinParty (h : Membership m) (p : PartyId) (s : SessionId) :
    Membership (m.joinParty p s).2 := by
  rcases joinParty_cases m p s with ⟨-, he⟩ | ⟨party, hp, hs, hroom, he⟩ <;> rw [he]
  · exact h
  · have hout := h.not_mem hs hp
    refine ⟨h.opened, ?_, ?_⟩
    · intro t q
      have hj := h.joined t q
      have hn : ∀ party, m.parties[q]? = some party → s ∉ party.members :=
        fun party => h.not_mem hs
      grind
    · intro q other hq
      by_cases hne : p = q
      · subst hne
        have hother : other = { party with members := party.members ++ [s] } := by grind
        have hf := h.formed p party hp
        subst hother
        refine { hf with nodup := ?_, size := ?_, led := ?_ }
        · exact List.nodup_append.mpr ⟨hf.nodup, by simp, by grind⟩
        · simpa using Nat.succ_le_of_lt hroom
        · simp [List.head?_append, hf.led]
      · exact h.formed q other (by grind)

theorem leaveParty (h : Membership m) (s : SessionId) : Membership (m.leaveParty s).2 := by
  rcases leaveParty_cases h s with ⟨-, he⟩ | ⟨p, party, hs, hp, hmem, he⟩ |
    ⟨p, party, first, rest, hs, hp, hf, he⟩ <;> rw [he]
  · exact h
  · refine ⟨h.opened, ?_, fun q other hq => h.formed q other (by grind)⟩
    intro t q
    have hj := h.joined t q
    have hsame : ∀ other, m.parties[q]? = some other → s ∈ party.members → s ∈ other.members → p = q :=
      fun other => h.same_party hp
    grind
  · have hmem : ∀ t, t ∈ first :: rest ↔ t ∈ party.members ∧ t ≠ s := by
      intro t
      rw [← hf]
      simp
    refine ⟨h.opened, ?_, ?_⟩
    · intro t q
      have hj := h.joined t q
      have hsame : ∀ other, m.parties[q]? = some other → s ∈ party.members → s ∈ other.members →
          p = q := fun other => h.same_party hp
      grind
    · intro q other hq
      by_cases hne : p = q
      · subst hne
        have hother : other =
            { party with leaderSessionId := first, members := first :: rest } := by grind
        have hparty := h.formed p party hp
        subst hother
        exact { hparty with
          nodup := hf ▸ hparty.nodup.filter _
          size := hf ▸ Nat.le_trans (List.length_filter_le ..) hparty.size
          led := rfl }
      · exact h.formed q other (by grind)

end Membership

/-! ## Over a history -/

/-- Session `s` joined its party before session `t` joined its own. -/
def Before (joinedAt : IdMap Nat) (s t : SessionId) : Prop :=
  ∃ m n, joinedAt[s]? = some m ∧ joinedAt[t]? = some n ∧ m < n

theorem pairwise_before_congr {joinedAt joinedAt' : IdMap Nat} {members : List SessionId}
    (hb : members.Pairwise (Before joinedAt))
    (hj : ∀ s ∈ members, joinedAt'[s]? = joinedAt[s]?) : members.Pairwise (Before joinedAt') := by
  refine hb.imp_of_mem ?_
  rintro s t hs ht ⟨m, n, hm, hn, hlt⟩
  exact ⟨m, n, (hj s hs).trans hm, (hj t ht).trans hn, hlt⟩

/-- The members stand in the order in which they joined, and no party id is handed out twice. -/
structure PartyIndex (h : PartyHistory) : Prop where
  membership : Membership h.parties
  live : ∀ p, p ∈ h.parties.parties → p ∈ h.issued
  below : ∀ p ∈ h.issued, p < h.parties.nextPartyId
  distinct : h.issued.Nodup
  joinedAt : ∀ s, s ∈ h.joinedAt ↔ s ∈ h.parties.joinedParties
  past : ∀ (s : SessionId) (n : Nat), h.joinedAt[s]? = some n → n < h.calls
  standing : ∀ (p : PartyId) (party : PartyInfo), h.parties.parties[p]? = some party →
    party.members.Pairwise (Before h.joinedAt)

namespace PartyIndex

variable {h : PartyHistory}

theorem initial : PartyIndex {} := by
  refine ⟨Membership.initial, ?_, ?_, ?_, ?_, ?_, ?_⟩ <;> simp

theorem createParty (hi : PartyIndex h) (s : SessionId) : PartyIndex (h.step (.createParty s)) := by
  have hm := hi.membership.createParty s
  rcases createParty_cases h.parties s with ⟨-, he⟩ | ⟨hs, he⟩
  · simp only [PartyHistory.step, he] at hm ⊢
    exact ⟨hm, hi.live, hi.below, hi.distinct, hi.joinedAt,
      fun t n ht => Nat.lt_succ_of_lt (hi.past t n ht), hi.standing⟩
  · simp only [PartyHistory.step, he] at hm ⊢
    refine ⟨hm, ?_, ?_, ?_, ?_, ?_, ?_⟩
    · intro p hp
      have := hi.live p
      simp
      grind
    · intro p hp
      have := hi.below p
      simp at hp ⊢
      grind
    · simpa using ⟨fun hin => Nat.lt_irrefl _ (hi.below _ hin), hi.distinct⟩
    · intro t
      have := hi.joinedAt t
      grind
    · intro t n ht
      have := hi.past t n
      grind
    · intro p party hp
      by_cases hne : h.parties.nextPartyId = p
      · have hparty : party = { id := p, leaderSessionId := s, members := [s] } := by
          have := hi.membership.absent_nextPartyId
          grind
        simp [hparty]
      · have hold : h.parties.parties[p]? = some party := by grind
        refine pairwise_before_congr (hi.standing p party hold) ?_
        intro t ht
        have := hi.membership.not_mem hs hold
        grind

theorem joinParty (hi : PartyIndex h) (p : PartyId) (s : SessionId) :
    PartyIndex (h.step (.joinParty p s)) := by
  have hm := hi.membership.joinParty p s
  rcases joinParty_cases h.parties p s with ⟨hfail, he⟩ | ⟨party, hp, hs, hroom, he⟩
  · simp only [PartyHistory.step, he, if_neg hfail] at hm ⊢
    exact ⟨hm, hi.live, hi.below, hi.distinct, hi.joinedAt,
      fun t n ht => Nat.lt_succ_of_lt (hi.past t n ht), hi.standing⟩
  · simp only [PartyHistory.step, he] at hm ⊢
    refine ⟨hm, ?_, hi.below, hi.distinct, ?_, ?_, ?_⟩
    · intro q hq
      have := hi.live q
      grind
    · intro t
      have := hi.joinedAt t
      grind
    · intro t n ht
      have := hi.past t n
      grind
    · intro q other hq
      have hkeep (q : PartyId) (other : PartyInfo) (hq : h.parties.parties[q]? = some other) :
          other.members.Pairwise (Before (h.joinedAt.insert s h.calls)) := by
        refine pairwise_before_congr (hi.standing q other hq) ?_
        intro t ht
        have := hi.membership.not_mem hs hq
        grind
      by_cases hne : p = q
      · subst hne
        have hother : other = { party with members := party.members ++ [s] } := by grind
        rw [hother]
        refine List.pairwise_append.mpr ⟨hkeep p party hp, by simp, ?_⟩
        -- the newcomer comes after everyone who is there
        intro t ht u hu
        obtain rfl : u = s := by simpa using hu
        have hjoined := (hi.membership.joined t p).mpr ⟨party, hp, ht⟩
        obtain ⟨n, hn⟩ := exists_of_mem ((hi.joinedAt t).mpr (by grind))
        have hout := hi.membership.not_mem hs hp
        exact ⟨n, h.calls, by grind, by grind, hi.past t n hn⟩
      · exact hkeep q other (by grind)

theorem leaveParty (hi : PartyIndex h) (s : SessionId) : PartyIndex (h.step (.leaveParty s)) := by
  refine ⟨hi.membership.leaveParty s, ?_, ?_, hi.distinct, ?_, ?_, ?_⟩
  · intro p hp
    obtain ⟨party', hp⟩ := exists_of_mem hp
    obtain ⟨party, hold, -⟩ := leaveParty_remaining hi.membership s hp
    exact hi.live p (by grind)
  · intro p hp
    rw [PartyHistory.step, leaveParty_nextPartyId hi.membership]
    exact hi.below p hp
  · intro t
    have := hi.joinedAt t
    simp only [PartyHistory.step, leaveParty_joinedParties hi.membership]
    grind
  · intro t n ht
    have := hi.past t n
    simp only [PartyHistory.step] at ht ⊢
    grind
  · intro p party' hp
    obtain ⟨party, hold, hmembers⟩ := leaveParty_remaining hi.membership s hp
    rw [hmembers]
    refine pairwise_before_congr ((hi.standing p party hold).filter _) ?_
    intro t ht
    simp only [PartyHistory.step]
    grind

theorem next (hi : PartyIndex h) {call : PartyCall} {h' : PartyHistory}
    (hn : h.next call = some h') : PartyIndex h' := by
  obtain rfl := Option.some.inj hn
  cases call with
  | createParty s => exact hi.createParty s
  | joinParty p s => exact hi.joinParty p s
  | leaveParty s => exact hi.leaveParty s

end PartyIndex

theorem partyIndex_of_reachable {h : PartyHistory} (hr : Reachable PartyHistory.next {} h) :
    PartyIndex h :=
  reachable_invariant PartyIndex (fun _ _ _ hi hn => hi.next hn) PartyIndex.initial hr

/-- In every history the two maps agree, each party has between one and four distinct members
and is led by the one who has been in it longest, no party id comes twice, and `LeaveParty`
always finds the party of a session that joined one. -/
theorem parties_of_reachable {h : PartyHistory} (hr : Reachable PartyHistory.next {} h) :
    (∀ (s : SessionId) (p : PartyId), h.parties.joinedParties[s]? = some p ↔
      ∃ party, h.parties.parties[p]? = some party ∧ s ∈ PartyInfo.members party) ∧
    (∀ (p : PartyId) (party : PartyInfo), h.parties.parties[p]? = some party →
      party.id = p ∧ party.members.Nodup ∧ 1 ≤ party.members.length ∧
      party.members.length ≤ maxPartyMembers ∧
      party.members.head? = some party.leaderSessionId ∧
      ∀ s ∈ party.members, s ≠ party.leaderSessionId →
        Before h.joinedAt party.leaderSessionId s) ∧
    (∀ p, p ∈ h.parties.parties → p ∈ h.issued) ∧
    (∀ p ∈ h.issued, p < h.parties.nextPartyId) ∧ h.issued.Nodup ∧
    (∀ (s : SessionId) (p : PartyId), h.parties.joinedParties[s]? = some p →
      p ∈ h.parties.parties) ∧
    ∀ s, (h.parties.leaveParty s).1 = true ↔ s ∈ h.parties.joinedParties := by
  have hi := partyIndex_of_reachable hr
  refine ⟨hi.membership.joined, ?_, hi.live, hi.below, hi.distinct, ?_,
    leaveParty_eq_true_iff hi.membership⟩
  · intro p party hp
    have hf := hi.membership.formed p party hp
    refine ⟨hf.keyed, hf.nodup, hf.nonempty, hf.size, hf.led, ?_⟩
    intro s hs hne
    have hstanding := hi.standing p party hp
    obtain ⟨rest, hmembers⟩ := List.head?_eq_some_iff.mp hf.led
    rw [hmembers] at hs hstanding
    exact (List.pairwise_cons.mp hstanding).1 s ((List.mem_cons.mp hs).resolve_left hne)
  · intro s p hs
    obtain ⟨party, hp, -⟩ := (hi.membership.joined s p).mp hs
    exact ExtTreeMap.mem_iff_isSome_getElem?.mpr (by rw [hp]; rfl)

/-- The leader leaves, and the one who joined second leads. -/
theorem parties_of_three :
    ∃ h party, run PartyHistory.next {} [.createParty 100, .joinParty 1 101, .joinParty 1 102,
        .leaveParty 100] = some h ∧ h.parties.parties[1]? = some party ∧
      party = { id := 1, leaderSessionId := 101, members := [101, 102] } ∧
      ((h.parties.leaveParty 102).1 = true ↔ 102 ∈ h.parties.joinedParties) := by
  have hr : run PartyHistory.next {} [.createParty 100, .joinParty 1 101, .joinParty 1 102,
      .leaveParty 100] = some (((({} : PartyHistory).step (.createParty 100)).step
        (.joinParty 1 101)).step (.joinParty 1 102) |>.step (.leaveParty 100)) := rfl
  exact ⟨_, _, hr, by decide +kernel, rfl, (parties_of_reachable ⟨_, hr⟩).2.2.2.2.2.2 102⟩

end DnfServer.Parties
