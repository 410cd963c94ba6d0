import DnfServer.Participants.Consistency

/-!
# A reconnect commutes with what concerns others

`takeBack` is the whole effect of a successful reconnect on one dungeon. It commutes with
every participant operation that names neither the player nor one of the two sessions,
and the rollback undoes it.
-/

namespace DnfServer.Participants

open Std DnfServer.Library DungeonInstance
set_option autoImplicit false

section

variable (p s new : Nat) (t : Int)

/-- Player `p` takes back its slot, from session `s` to session `new`. -/
def takeBack (d : DungeonInstance) : DungeonInstance :=
  match d.players[s]? with
  | some player => moved p s new player (d.disconnectedSince.erase s) d
  | none => d

/-- The slot that is taken back: `p` is bound through `s`, marked disconnected at `t`, and
`new` is no participant. -/
structure Vacant (d : DungeonInstance) : Prop where
  consistent : Consistent d
  bound : d.playerSessions[p]? = some s
  since : d.disconnectedSince[s]? = some t
  fresh : new ∉ d.players
  session : new ≠ 0
  player : p ≠ 0

end

variable {p s new : Nat} {t : Int} {d : DungeonInstance}

namespace Vacant

theorem slot (h : Vacant p s new t d) : ∃ player, d.players[s]? = some player ∧
    player.sessionId = s ∧
    takeBack p s new d = moved p s new player (d.disconnectedSince.erase s) d := by
  obtain ⟨player, hg, hs⟩ := h.consistent.player_of_session h.bound
  exact ⟨player, hg, hs, by simp only [takeBack, hg]⟩

theorem ne (h : Vacant p s new t d) : s ≠ new := by
  rintro rfl
  exact h.fresh (h.consistent.bound_session h.bound).1

theorem takeBack_consistent (h : Vacant p s new t d) : Consistent (takeBack p s new d) := by
  obtain ⟨player, -, -, he⟩ := h.slot
  rw [he]
  apply moved_consistent h.consistent h.bound h.fresh h.session
  intro x hx
  have := h.consistent.disconnected x
  grind

/-- The rollback undoes the reconnect. -/
theorem rollback_takeBack (h : Vacant p s new t d) :
    (takeBack p s new d).rollbackParticipantReconnect p new ⟨s, t⟩ = (true, d) := by
  have hc := h.takeBack_consistent
  obtain ⟨player, hg, hps, he⟩ := h.slot
  have hin := (h.consistent.bound_session h.bound)
  have hne := h.ne
  have hfresh := h.fresh
  have hsince := h.since
  have hbound := h.bound
  have hlist : new ∉ d.participants := fun hm => hfresh ((h.consistent.listed new).mp hm)
  have hids : new ∉ d.participantPlayerIds := fun hm => hfresh (h.consistent.bound new hm)
  have hid : d.participantPlayerIds[s]? = some p := (h.consistent.inverse s p).mpr hbound
  have hdisc : new ∉ d.disconnectedSince := fun hm => hfresh (h.consistent.disconnected new hm)
  have hr : Rollbackable (takeBack p s new d) p new s := by
    refine ⟨h.player, hin.2.2, ?_, ?_⟩
    · rw [he]
      simp [moved]
    · rw [he]
      simp only [moved]
      grind
  rcases rollback_cases hc p new s t with ⟨hnot, -⟩ | ⟨player', -, hp', heq⟩
  · exact absurd hr hnot
  · rw [heq]
    rw [he] at hp' ⊢
    have hplayer' : player' = { player with sessionId := new } := by
      simp only [moved] at hp'
      grind
    subst hplayer'
    have hback : { player with sessionId := s } = player := by
      rw [← hps]
    congr 1
    simp only [moved, hback, replace_replace_cancel hlist]
    congr 1
    · ext k v
      grind
    · ext k v
      grind
    · ext k v
      grind
    · ext k v
      grind

/-! ## What other players and sessions see -/

section Others

variable {x q : Nat}

theorem mem_players (h : Vacant p s new t d) (hx : x ≠ s) (hx' : x ≠ new) :
    x ∈ (takeBack p s new d).players ↔ x ∈ d.players := by
  obtain ⟨player, -, -, he⟩ := h.slot
  rw [he]
  simp only [moved]
  grind

theorem getElem_players (h : Vacant p s new t d) (hx : x ≠ s) (hx' : x ≠ new) :
    (takeBack p s new d).players[x]? = d.players[x]? := by
  obtain ⟨player, -, -, he⟩ := h.slot
  rw [he]
  simp only [moved]
  grind

theorem getElem_participantPlayerIds (h : Vacant p s new t d) (hx : x ≠ s) (hx' : x ≠ new) :
    (takeBack p s new d).participantPlayerIds[x]? = d.participantPlayerIds[x]? := by
  obtain ⟨player, -, -, he⟩ := h.slot
  rw [he]
  simp only [moved]
  grind

theorem getElem_playerSessions (h : Vacant p s new t d) (hq : q ≠ p) :
    (takeBack p s new d).playerSessions[q]? = d.playerSessions[q]? := by
  obtain ⟨player, -, -, he⟩ := h.slot
  rw [he]
  simp only [moved]
  grind

theorem disconnectedSince_takeBack (h : Vacant p s new t d) :
    (takeBack p s new d).disconnectedSince = d.disconnectedSince.erase s := by
  obtain ⟨player, -, -, he⟩ := h.slot
  rw [he]
  rfl

/-- Another player's session is not the vacant one. -/
theorem session_ne (h : Vacant p s new t d) (hq : q ≠ p) (hx : d.playerSessions[q]? = some x) :
    x ≠ s ∧ x ≠ new := by
  refine ⟨?_, ?_⟩
  · rintro rfl
    exact hq (h.consistent.session_unique hx h.bound)
  · rintro rfl
    exact h.fresh (h.consistent.bound_session hx).1

/-- A binding of another player in another slot. -/
theorem bind (h : Vacant p s new t d) (hx : x ≠ s) (hx' : x ≠ new) (hq : q ≠ p) :
    (takeBack p s new d).bindParticipantPlayer x q =
        ((d.bindParticipantPlayer x q).1, takeBack p s new (d.bindParticipantPlayer x q).2) ∧
      Vacant p s new t (d.bindParticipantPlayer x q).2 := by
  obtain ⟨player, hg, -, he⟩ := h.slot
  have hmem := h.mem_players hx hx'
  have hids := h.getElem_participantPlayerIds hx hx'
  have hsess := h.getElem_playerSessions hq
  refine ⟨?_, ?_⟩
  · unfold bindParticipantPlayer
    rw [hids, hsess]
    simp only [hmem]
    split
    · rfl
    · split
      · rfl
      · cases hb : d.participantPlayerIds[x]? with
        | some existing => rfl
        | none =>
          cases hp : d.playerSessions[q]? with
          | some existing => rfl
          | none =>
            simp only
            rw [he]
            simp only [takeBack, hg, moved]
            congr 2
            · ext k v
              grind
            · ext k v
              grind
  · have hc := bind_consistent h.consistent x q
    have hbound := h.bound
    rcases bind_cases x q d with he' | ⟨-, -, -, he'⟩
    · rw [he']
      exact h
    · rw [he'] at hc ⊢
      refine ⟨hc, ?_, h.since, h.fresh, h.session, h.player⟩
      simp only
      grind

/-- A disconnect of another session. -/
theorem disconnect (h : Vacant p s new t d) (hx : x ≠ s) (hx' : x ≠ new) (at' : Int) :
    (takeBack p s new d).disconnectParticipant x at' =
        ((d.disconnectParticipant x at').1, takeBack p s new (d.disconnectParticipant x at').2) ∧
      Vacant p s new t (d.disconnectParticipant x at').2 := by
  obtain ⟨player, hg, -, he⟩ := h.slot
  have hmem := h.mem_players hx hx'
  refine ⟨?_, ?_⟩
  · unfold disconnectParticipant
    simp only [hmem]
    split
    · rfl
    · rw [he]
      simp only [takeBack, hg, moved]
      congr 2
      ext k v
      grind
  · have hc := disconnect_consistent h.consistent x at'
    have hsince := h.since
    unfold disconnectParticipant at hc ⊢
    split
    · exact h
    · rename_i hn
      rw [if_neg hn] at hc
      refine ⟨hc, h.bound, ?_, h.fresh, h.session, h.player⟩
      simp only
      grind

/-- Moving another player between two other sessions commutes with the reconnect. -/
theorem moved_takeBack (h : Vacant p s new t d) {y y' : Nat} (other : DungeonPlayerState)
    (since : IdMap Int) (hg : d.playerSessions[q]? = some y) (hq : q ≠ p) (hy : y ≠ s ∧ y ≠ new)
    (hy' : y' ≠ s ∧ y' ≠ new) (hsince : since[s]? = some t) (hfree : y' ∉ d.players)
    (h0 : y' ≠ 0) (hs : ∀ z, z ∈ since → z = y' ∨ (z ∈ d.players ∧ z ≠ y)) :
    moved q y y' other (since.erase s) (takeBack p s new d) =
        takeBack p s new (moved q y y' other since d) ∧
      Vacant p s new t (moved q y y' other since d) := by
  obtain ⟨player, hp, -, he⟩ := h.slot
  have hbound := h.bound
  have hfresh := h.fresh
  have hslot : (moved q y y' other since d).players[s]? = some player := by
    simp only [moved]
    grind
  refine ⟨?_, ?_⟩
  · rw [he]
    simp only [takeBack, hslot]
    simp only [moved]
    congr 1
    · exact replace_comm _ hy.1.symm hy.2.symm hy'.1
    · ext k v
      grind
    · ext k v
      grind
    · ext k v
      grind
  · refine ⟨moved_consistent h.consistent hg hfree h0 hs, ?_, hsince, ?_, h.session, h.player⟩
    · simp only [moved]
      grind
    · simp only [moved]
      grind

theorem reconnectable_iff (h : Vacant p s new t d) (hx : x ≠ s) (hx' : x ≠ new) (hq : q ≠ p)
    {now grace at' : Int} {y : Nat} :
    Reconnectable (takeBack p s new d) q x now grace y at' ↔ Reconnectable d q x now grace y at' := by
  have hmem := h.mem_players hx hx'
  have hsess := h.getElem_playerSessions hq
  have hdisc := h.disconnectedSince_takeBack
  constructor
  · rintro ⟨h1, h2, h3, h4, h5, h6, h7, h8⟩
    rw [hsess] at h4
    have hne := h.session_ne hq h4
    refine ⟨h1, h2, h3, h4, ?_, by rwa [hmem] at h6, h7, h8⟩
    rw [hdisc] at h5
    grind
  · rintro ⟨h1, h2, h3, h4, h5, h6, h7, h8⟩
    have hne := h.session_ne hq h4
    refine ⟨h1, h2, h3, by rwa [hsess], ?_, by rwa [hmem], h7, h8⟩
    rw [hdisc]
    grind

/-- A reconnect of another player under another session. -/
theorem reconnect (h : Vacant p s new t d) (hx : x ≠ s) (hx' : x ≠ new) (hq : q ≠ p)
    (now grace : Int) :
    (takeBack p s new d).reconnectParticipant q x now grace =
        ((d.reconnectParticipant q x now grace).1,
          takeBack p s new (d.reconnectParticipant q x now grace).2) ∧
      Vacant p s new t (d.reconnectParticipant q x now grace).2 := by
  rcases reconnect_cases h.consistent q x now grace with ⟨hr, he⟩ | ⟨y, at', player, hr, hp, he⟩
  · rw [he]
    refine ⟨?_, h⟩
    apply reconnect_none
    intro y at' hr'
    exact hr y at' ((h.reconnectable_iff hx hx' hq).mp hr')
  · have hne := h.session_ne hq hr.bound
    have hr' := (h.reconnectable_iff hx hx' hq).mpr hr
    have hp' : (takeBack p s new d).players[y]? = some player := by
      rw [h.getElem_players hne.1 hne.2]
      exact hp
    have hsince := h.since
    obtain ⟨hcomm, hvac⟩ := h.moved_takeBack player (d.disconnectedSince.erase y) hr.bound hq hne ⟨hx, hx'⟩ (by grind) hr.fresh
      hr.session (by
        intro z hz
        have := h.consistent.disconnected z
        grind)
    rw [he, reconnect_some h.takeBack_consistent hr' hp']
    refine ⟨?_, hvac⟩
    rw [← hcomm, h.disconnectedSince_takeBack]
    congr 2
    ext k v
    grind

theorem rollbackable_iff (h : Vacant p s new t d) (hq : q ≠ p) {y : Nat} (hy : y ≠ s)
    (hy' : y ≠ new) : Rollbackable (takeBack p s new d) q x y ↔ Rollbackable d q x y := by
  have hmem := h.mem_players hy hy'
  have hsess := h.getElem_playerSessions hq
  constructor
  · rintro ⟨h1, h2, h3, h4⟩
    exact ⟨h1, h2, by rwa [hsess] at h3, by rwa [hmem] at h4⟩
  · rintro ⟨h1, h2, h3, h4⟩
    exact ⟨h1, h2, by rwa [hsess], by rwa [hmem]⟩

/-- A rollback of another player between two other sessions. -/
theorem rollback (h : Vacant p s new t d) (hq : q ≠ p) {y : Nat} (hy : y ≠ s) (hy' : y ≠ new)
    (at' : Int) (hn : d.playerSessions[q]? = some x → x ∉ d.disconnectedSince) :
    (takeBack p s new d).rollbackParticipantReconnect q x ⟨y, at'⟩ =
        ((d.rollbackParticipantReconnect q x ⟨y, at'⟩).1,
          takeBack p s new (d.rollbackParticipantReconnect q x ⟨y, at'⟩).2) ∧
      Vacant p s new t (d.rollbackParticipantReconnect q x ⟨y, at'⟩).2 := by
  rcases rollback_cases h.consistent q x y at' with ⟨hr, he⟩ | ⟨player, hr, hp, he⟩
  · rw [he]
    refine ⟨?_, h⟩
    rcases rollback_cases h.takeBack_consistent q x y at' with ⟨-, he'⟩ | ⟨player, hr', -, -⟩
    · exact he'
    · exact absurd ((h.rollbackable_iff hq hy hy').mp hr') hr
  · have hne := h.session_ne hq hr.bound
    have hsince := h.since
    have hx := hn hr.bound
    obtain ⟨hcomm, hvac⟩ := h.moved_takeBack player (d.disconnectedSince.insertIfNew y at') hr.bound hq hne ⟨hy, hy'⟩ (by grind) hr.free
      hr.replaced (by
        intro z hz
        have := h.consistent.disconnected z
        grind)
    rcases rollback_cases h.takeBack_consistent q x y at' with ⟨hnot, -⟩ | ⟨player', -, hp', he'⟩
    · exact absurd ((h.rollbackable_iff hq hy hy').mpr hr) hnot
    · rw [h.getElem_players hne.1 hne.2, hp] at hp'
      cases hp'
      rw [he, he']
      refine ⟨?_, hvac⟩
      rw [← hcomm, h.disconnectedSince_takeBack]
      congr 2
      ext k v
      grind

/-- Dropping other slots. -/
theorem without_takeBack (h : Vacant p s new t d) {sessions : List SessionId} (hs : s ∉ sessions)
    (hn : new ∉ sessions) :
    without sessions (takeBack p s new d) = takeBack p s new (without sessions d) ∧
      Vacant p s new t (without sessions d) := by
  obtain ⟨player, hg, -, he⟩ := h.slot
  have hbound := h.bound
  have hsince := h.since
  have hfresh := h.fresh
  have hslot : (without sessions d).players[s]? = some player := by
    simp only [without]
    grind
  refine ⟨?_, ?_⟩
  · rw [he]
    simp only [takeBack, hslot]
    simp only [without, moved]
    congr 1
    · apply filter_replace
      · simpa using hs
      · simpa using hn
    · ext k v
      grind
    · ext k v
      grind
    · ext k v
      grind
    · ext k v
      grind
  · refine ⟨without_consistent h.consistent sessions, ?_, ?_, ?_, h.session, h.player⟩
    · simp only [without]
      grind
    · simp only [without]
      grind
    · simp only [without]
      grind

end Others

/-- The state and the rooms of the dungeon play no part. -/
theorem with_rooms (h : Vacant p s new t d) (state : DungeonState)
    (rooms : ExtTreeMap UInt32 RoomState) : Vacant p s new t { d with state, rooms } :=
  ⟨h.consistent.with_rooms state rooms, h.bound, h.since, h.fresh, h.session, h.player⟩

end Vacant

end DnfServer.Participants
