import DnfServer.Participants.Consistency

/-!
# Every history of one dungeon

A history is any sequence of the six participant operations on a constructed dungeon,
with any arguments. The one discipline is on rollbacks: the caller passes back what the
reconnect of that player under that new session returned, and the strand of the new
session keeps a disconnect of it out of the time between. `returned` holds the
reconnects that may still be rolled back, by their new session.
-/

namespace DnfServer.Participants

open Std DnfServer.Library DungeonInstance
set_option autoImplicit false

inductive Op where
  | bind (sessionId : SessionId) (playerId : PlayerId)
  | disconnect (sessionId : SessionId) (disconnectedAt : Int)
  | reconnect (playerId : PlayerId) (newSessionId : SessionId) (now reconnectGrace : Int)
  | rollback (playerId : PlayerId) (newSessionId : SessionId)
      (reconnect : DungeonParticipantReconnect)
  | removeExpired (now reconnectGrace : Int)
  | removeAll

structure History where
  dungeon : DungeonInstance
  returned : IdMap (PlayerId × DungeonParticipantReconnect) := ∅

namespace History

def next (h : History) : Op → Option History
  | .bind s p => some { h with dungeon := (h.dungeon.bindParticipantPlayer s p).2 }
  | .disconnect s t => some
      { dungeon := (h.dungeon.disconnectParticipant s t).2, returned := h.returned.erase s }
  | .reconnect p new now grace =>
      match h.dungeon.reconnectParticipant p new now grace with
      | (none, d) => some { h with dungeon := d }
      | (some reconnect, d) => some { dungeon := d, returned := h.returned.insert new (p, reconnect) }
  | .rollback p new reconnect =>
      if h.returned[new]? = some (p, reconnect) then some
        { h with dungeon := (h.dungeon.rollbackParticipantReconnect p new reconnect).2 }
      else none
  | .removeExpired now grace => some
      { h with dungeon := (h.dungeon.removeExpiredDisconnectedParticipants now grace).2 }
  | .removeAll => some { h with dungeon := h.dungeon.removeAllParticipants.2 }

/-- The invariant of a history. A player that sits on the new session of its reconnect is
connected there, and no reconnect of its own leads on from the session it would be rolled
back to. -/
structure Good (h : History) : Prop where
  consistent : Consistent h.dungeon
  connected : ∀ (p new : Nat) (reconnect : DungeonParticipantReconnect),
    h.returned[new]? = some (p, reconnect) → h.dungeon.playerSessions[p]? = some new →
      new ∉ h.dungeon.disconnectedSince
  replaced : ∀ (p new : Nat) (reconnect next : DungeonParticipantReconnect),
    h.returned[new]? = some (p, reconnect) → h.dungeon.playerSessions[p]? = some new →
      h.returned[reconnect.replacedSessionId]? ≠ some (p, next)
  slots : ∀ new, new ∈ h.returned → new ∈ h.dungeon.players →
    new ∈ h.dungeon.participantPlayerIds

theorem good_bind {h : History} (hg : Good h) (s p : Nat) :
    Good { h with dungeon := (h.dungeon.bindParticipantPlayer s p).2 } := by
  have hc := bind_consistent hg.consistent s p
  rcases bind_cases s p h.dungeon with he | ⟨hs, hsn, hpn, he⟩
  · rw [he] at hc ⊢
    exact ⟨hc, hg.connected, hg.replaced, hg.slots⟩
  · -- the session bound now was in no reconnect, since its slot was free of a player
    have hfree : s ∉ h.returned := fun hr => hsn (hg.slots s hr hs)
    rw [he] at hc ⊢
    refine ⟨hc, ?_, ?_, ?_⟩
    · intro q new reconnect hr hq
      have := hg.connected q new reconnect hr
      grind
    · intro q new reconnect next hr hq
      have := hg.replaced q new reconnect next hr
      grind
    · intro new hr hm
      have := hg.slots new hr hm
      grind

theorem good_disconnect {h : History} (hg : Good h) (s : SessionId) (t : Int) :
    Good { dungeon := (h.dungeon.disconnectParticipant s t).2, returned := h.returned.erase s } := by
  have hc := disconnect_consistent hg.consistent s t
  unfold disconnectParticipant at hc ⊢
  split
  · rename_i hs
    rw [if_pos hs] at hc
    refine ⟨hc, ?_, ?_, ?_⟩
    · intro q new reconnect hr
      exact hg.connected q new reconnect (by grind)
    · intro q new reconnect next hr hq
      have := hg.replaced q new reconnect next (by grind) hq
      grind
    · intro new hr
      exact hg.slots new (by grind)
  · rename_i hs
    rw [if_neg hs] at hc
    refine ⟨hc, ?_, ?_, ?_⟩
    · intro q new reconnect hr hq
      have := hg.connected q new reconnect (by grind) hq
      grind
    · intro q new reconnect next hr hq
      have := hg.replaced q new reconnect next (by grind) hq
      grind
    · intro new hr
      exact hg.slots new (by grind)

theorem good_reconnect {h h' : History} (hg : Good h) {p new : Nat} {now grace : Int}
    (hn : h.next (.reconnect p new now grace) = some h') : Good h' := by
  have hc := hg.consistent
  rcases reconnect_cases hc p new now grace with ⟨-, he⟩ | ⟨old, t, player, hr, hp, he⟩
  · simp only [next, he, Option.some.injEq] at hn
    subst hn
    exact hg
  · simp only [next, he, Option.some.injEq] at hn
    subst hn
    have hfresh := hr.fresh
    have hbound := hr.bound
    have hdisc : old ∈ h.dungeon.disconnectedSince := by have := hr.since; grind
    have hnew := hc.disconnected new
    have hold := (hc.bound_session hbound).1
    -- the player was disconnected on `old`, so none of its own reconnects led there
    have hnone : ∀ reconnect, h.returned[old]? ≠ some (p, reconnect) :=
      fun reconnect hret => hg.connected p old reconnect hret hbound hdisc
    refine ⟨reconnected_consistent hc hr, ?_, ?_, ?_⟩
    · intro q new' reconnect hret hq
      have := hg.connected q new' reconnect
      simp only [moved] at hq ⊢
      grind
    · intro q new' reconnect next hret hq
      have := hg.replaced q new' reconnect next
      have := hnone next
      simp only [moved] at hq
      grind
    · intro new' hret hm
      have := hg.slots new'
      simp only [moved] at hm ⊢
      grind

theorem good_rollback {h h' : History} (hg : Good h) {p new : Nat}
    {reconnect : DungeonParticipantReconnect}
    (hn : h.next (.rollback p new reconnect) = some h') : Good h' := by
  have hc := hg.consistent
  obtain ⟨old, t⟩ := reconnect
  simp only [next] at hn
  split at hn
  · rename_i hret
    obtain rfl := Option.some.inj hn
    have hcon : Consistent (h.dungeon.rollbackParticipantReconnect p new ⟨old, t⟩).2 :=
      rollback_consistent hc (hg.connected p new ⟨old, t⟩ hret)
    rcases rollback_cases hc p new old t with ⟨-, he⟩ | ⟨player, hr, -, he⟩
    · rw [he] at hcon ⊢
      exact ⟨hcon, hg.connected, hg.replaced, hg.slots⟩
    · have hfree := hr.free
      have hbound := hr.bound
      have hnone := hg.replaced p new ⟨old, t⟩
      rw [he] at hcon ⊢
      refine ⟨hcon, ?_, ?_, ?_⟩
      · intro q new' reconnect hret' hq
        have := hg.connected q new' reconnect hret'
        have := hnone reconnect hret hbound
        have hq' := fun hb => (hc.bound_session (p := q) (s := new') hb).1
        simp only [moved] at hq ⊢
        grind
      · intro q new' reconnect next hret' hq
        have := hg.replaced q new' reconnect next hret'
        have := hnone reconnect hret hbound
        simp only [moved] at hq
        grind
      · intro new' hret' hm
        have := hg.slots new' hret'
        simp only [moved] at hm ⊢
        grind
  · cases hn

/-- Dropping whole slots keeps the invariant. -/
theorem good_without {h : History} (hg : Good h) (sessions : List SessionId) :
    Good { h with dungeon := without sessions h.dungeon } := by
  refine ⟨without_consistent hg.consistent sessions, ?_, ?_, ?_⟩
  · intro q new reconnect hr hq
    have := hg.connected q new reconnect hr
    simp only [without] at hq ⊢
    grind
  · intro q new reconnect next hr hq
    have := hg.replaced q new reconnect next hr
    simp only [without] at hq
    grind
  · intro new hr hm
    have := hg.slots new hr
    simp only [without] at hm ⊢
    grind

theorem good_removeExpired {h : History} (hg : Good h) (now grace : Int) :
    Good { h with dungeon := (h.dungeon.removeExpiredDisconnectedParticipants now grace).2 } := by
  by_cases hpos : 0 < grace
  · rw [removeExpired_eq hg.consistent now hpos]
    exact good_without hg _
  · rw [removeExpiredDisconnectedParticipants, if_pos (by omega)]
    exact hg

theorem good_removeAll (h : History) :
    Good { h with dungeon := h.dungeon.removeAllParticipants.2 } := by
  refine ⟨removeAll_consistent _, ?_, ?_, ?_⟩ <;> simp [removeAllParticipants]

/-- Every operation keeps the invariant. -/
theorem good_next {h h' : History} {op : Op} (hg : Good h) (hn : h.next op = some h') : Good h' := by
  cases op with
  | bind s p =>
    obtain rfl := Option.some.inj hn
    exact good_bind hg s p
  | disconnect s t =>
    obtain rfl := Option.some.inj hn
    exact good_disconnect hg s t
  | reconnect p new now grace => exact good_reconnect hg hn
  | rollback p new reconnect => exact good_rollback hg hn
  | removeExpired now grace =>
    obtain rfl := Option.some.inj hn
    exact good_removeExpired hg now grace
  | removeAll =>
    obtain rfl := Option.some.inj hn
    exact good_removeAll h

/-! ## The number of participants -/

theorem participants_length_le {h h' : History} {op : Op} (hg : Good h)
    (hn : h.next op = some h') :
    h'.dungeon.participants.length ≤ h.dungeon.participants.length := by
  have hc := hg.consistent
  cases op with
  | bind s p =>
    obtain rfl := Option.some.inj hn
    rcases bind_cases s p h.dungeon with he | ⟨-, -, -, he⟩
    · simp [he]
    · simp [he]
  | disconnect s t =>
    obtain rfl := Option.some.inj hn
    unfold disconnectParticipant
    split <;> simp
  | reconnect p new now grace =>
    rcases reconnect_cases hc p new now grace with ⟨-, he⟩ | ⟨old, t, player, -, -, he⟩
    · simp only [next, he, Option.some.injEq] at hn
      subst hn
      exact Nat.le_refl _
    · simp only [next, he, Option.some.injEq] at hn
      subst hn
      exact Nat.le_of_eq (moved_participants_length _ _ _ _ _ _)
  | rollback p new reconnect =>
    obtain ⟨old, t⟩ := reconnect
    simp only [next] at hn
    split at hn
    · obtain rfl := Option.some.inj hn
      rcases rollback_cases hc p new old t with ⟨-, he⟩ | ⟨player, -, -, he⟩
      · simp [he]
      · rw [he]
        exact Nat.le_of_eq (moved_participants_length _ _ _ _ _ _)
    · cases hn
  | removeExpired now grace =>
    obtain rfl := Option.some.inj hn
    by_cases hpos : 0 < grace
    · rw [removeExpired_eq hc now hpos]
      exact List.length_filter_le _ _
    · exact Nat.le_of_eq (by rw [removeExpiredDisconnectedParticipants, if_pos (by omega)])
  | removeAll =>
    obtain rfl := Option.some.inj hn
    simp [removeAllParticipants]

/-- The invariant together with the bound that the constructor enforces. -/
theorem good_of_run {d : DungeonInstance} (hd : Consistent d)
    (hl : d.participants.length ≤ maxPartyMembers) {h : History}
    (hr : Reachable next { dungeon := d } h) :
    Good h ∧ h.dungeon.participants.length ≤ maxPartyMembers := by
  have hstart : Good { dungeon := d } := ⟨hd, by simp, by simp, by simp⟩
  refine reachable_invariant (fun h => Good h ∧ h.dungeon.participants.length ≤ maxPartyMembers)
    ?_ ⟨hstart, hl⟩ hr
  intro h op h' hi hn
  exact ⟨good_next hi.1 hn, Nat.le_trans (participants_length_le hi.1 hn) hi.2⟩

end History

open History

/-- The subtraction of `ConnectedParticipantCount` is exact. -/
theorem connectedParticipantCount_eq {d : DungeonInstance} (hd : Consistent d)
    (hl : d.participants.length ≤ maxPartyMembers) :
    d.connectedParticipantCount + d.disconnectedSince.size = d.players.size := by
  have hsize : d.players.size ≤ d.participants.length := by
    rw [← ExtTreeMap.length_keys]
    apply List.Subperm.length_le
    apply List.subperm_of_subset ExtTreeMap.nodup_keys
    intro s hs
    exact (hd.listed s).mpr (ExtTreeMap.mem_keys.mp hs)
  have hle := hd.disconnectedSince_size_le
  have h4 : maxPartyMembers = 4 := rfl
  unfold connectedParticipantCount UInt64.size
  omega

/-- After any history the five containers agree. Hence the connected count is a true
difference, a bound player always has a node to extract and an entry to replace, and no
operation adds a participant. -/
theorem participants_agree {id : DungeonId} {template : DungeonTemplate} {party : PartyId}
    {members : List SessionId} {now : Int} {d : DungeonInstance}
    (hnew : DungeonInstance.new id template party members now = .ok d) {ops : List Op}
    {h : History} (hrun : run next { dungeon := d } ops = some h) :
    Consistent h.dungeon ∧
    h.dungeon.connectedParticipantCount + h.dungeon.disconnectedSince.size =
      h.dungeon.players.size ∧
    (∀ (p s : Nat), h.dungeon.playerSessions[p]? = some s →
      s ∈ h.dungeon.players ∧ s ∈ h.dungeon.participants) ∧
    ∀ op h', h.next op = some h' →
      h'.dungeon.participants.length ≤ h.dungeon.participants.length := by
  obtain ⟨hg, hl⟩ := good_of_run (new_consistent hnew) (new_participants_length hnew) ⟨ops, hrun⟩
  refine ⟨hg.consistent, connectedParticipantCount_eq hg.consistent hl, ?_, ?_⟩
  · intro p s hp
    exact ⟨(hg.consistent.bound_session hp).1, (hg.consistent.bound_session hp).2.1⟩
  · intro op h' hn
    exact participants_length_le hg hn

/-- One participant leaves and comes back, the reconnect is taken back, and its slot runs
out of grace. -/
def rolledBackOps : List Op :=
  [.bind 100 5001, .disconnect 100 10, .reconnect 5001 300 20 60, .disconnect 101 30,
    .rollback 5001 300 ⟨100, 10⟩, .removeExpired 80 60]

theorem participants_agree_rolledBackOps :
    ∃ d h, DungeonInstance.new 1 oneRoomTemplate 7 [100, 101] 0 = .ok d ∧
      run next { dungeon := d } rolledBackOps = some h ∧
      h.dungeon.participants = [101] ∧ Consistent h.dungeon := by
  obtain ⟨d, hnew⟩ : ∃ d, DungeonInstance.new 1 oneRoomTemplate 7 [100, 101] 0 = .ok d := ⟨_, rfl⟩
  obtain ⟨h, hrun⟩ : ∃ h, run next { dungeon := d } rolledBackOps = some h := by
    cases hnew
    exact ⟨_, rfl⟩
  have hp : h.dungeon.participants = [101] := by
    cases hnew
    cases hrun
    decide
  exact ⟨d, h, hnew, hrun, hp, (participants_agree hnew hrun).1⟩

end DnfServer.Participants
