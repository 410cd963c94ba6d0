import DnfServer.Library.Containers
import DnfServer.Library.Runs
import DnfServer.Model.Instance

/-!
# The five participant containers stay in step

`Consistent` relates the list of participants, the player states, the two bindings
between sessions and players and the disconnect times of one dungeon. Each operation
is described once, by what it does when it succeeds; its effect on `Consistent` is
read off that description.
-/

namespace DnfServer.Participants

open Std DnfServer.Library DungeonInstance
set_option autoImplicit false

/-- The five containers describe one set of participants. -/
structure Consistent (d : DungeonInstance) : Prop where
  nodup : d.participants.Nodup
  listed : ∀ s, s ∈ d.participants ↔ s ∈ d.players
  session : ∀ (s : SessionId) (player : DungeonPlayerState), d.players[s]? = some player → player.sessionId = s
  inverse : Inverse d.participantPlayerIds d.playerSessions
  bound : ∀ s, s ∈ d.participantPlayerIds → s ∈ d.players
  disconnected : ∀ s, s ∈ d.disconnectedSince → s ∈ d.players
  nonzero : 0 ∉ d.players

namespace Consistent

variable {d : DungeonInstance}

/-- A bound player's session is a participant. -/
theorem player_of_session (h : Consistent d) {p s : Nat} (hp : d.playerSessions[p]? = some s) :
    ∃ player, d.players[s]? = some player ∧ player.sessionId = s := by
  have hs : s ∈ d.participantPlayerIds := by
    have := (h.inverse s p).mpr hp
    grind
  have hm := h.bound s hs
  have hg : d.players[s]? = some d.players[s] := by grind
  exact ⟨d.players[s], hg, h.session s _ hg⟩

theorem bound_session (h : Consistent d) {p s : Nat} (hp : d.playerSessions[p]? = some s) :
    s ∈ d.players ∧ s ∈ d.participants ∧ s ≠ 0 := by
  obtain ⟨player, hg, _⟩ := h.player_of_session hp
  have hm : s ∈ d.players := by grind
  refine ⟨hm, (h.listed s).mpr hm, ?_⟩
  rintro rfl
  exact h.nonzero hm

/-- Two players are never bound through one session. -/
theorem session_unique (h : Consistent d) {p q s : Nat} (hp : d.playerSessions[p]? = some s)
    (hq : d.playerSessions[q]? = some s) : p = q := by
  have h1 := (h.inverse s p).mpr hp
  have h2 := (h.inverse s q).mpr hq
  rw [h1] at h2
  exact Option.some.inj h2

theorem disconnectedSince_size_le (h : Consistent d) :
    d.disconnectedSince.size ≤ d.players.size :=
  size_le_of_keys h.disconnected

/-- The state and the rooms play no part. -/
theorem with_rooms (h : Consistent d) (state : DungeonState) (rooms : ExtTreeMap UInt32 RoomState) :
    Consistent { d with state, rooms } :=
  ⟨h.nodup, h.listed, h.session, h.inverse, h.bound, h.disconnected, h.nonzero⟩

end Consistent

/-! ## The constructor -/

theorem addPlayers_spec {room : RoomTemplate} {sessions : List SessionId}
    {players result : IdMap DungeonPlayerState}
    (h : addPlayers room sessions players = .ok result) :
    (∀ s, s ∈ result ↔ s ∈ sessions ∨ s ∈ players) ∧
      ∀ (s : SessionId) (player : DungeonPlayerState), result[s]? = some player → players[s]? = some player ∨ player.sessionId = s := by
  induction sessions generalizing players with
  | nil =>
    simp only [addPlayers, Except.ok.injEq] at h
    subst h
    simp_all
  | cons s rest ih =>
    unfold addPlayers at h
    cases hn : DungeonPlayerState.new s room.id room.playerSpawn with
    | error e => simp [hn] at h
    | ok player =>
      rw [hn] at h
      have hs : player.sessionId = s := by
        unfold DungeonPlayerState.new at hn
        split at hn
        · cases hn
        · cases hn; rfl
      obtain ⟨hk, hv⟩ := ih h
      refine ⟨?_, ?_⟩
      · intro x
        rw [hk x]
        grind
      · intro x y hx
        rcases hv x y hx with hy | hy
        · grind
        · exact Or.inr hy

theorem new_spec {id : DungeonId} {template : DungeonTemplate} {party : PartyId}
    {members : List SessionId} {now : Int} {d : DungeonInstance}
    (h : DungeonInstance.new id template party members now = .ok d) :
    d.dungeonId = id ∧ d.partyId = party ∧ d.participants = members ∧
      d.participantPlayerIds = ∅ ∧ d.playerSessions = ∅ ∧ d.disconnectedSince = ∅ ∧
      d.createdAt = now ∧ d.state = .waiting ∧ members.Nodup ∧ 0 ∉ members ∧
      (∀ s, s ∈ d.players ↔ s ∈ members) ∧
      ∀ (s : SessionId) (player : DungeonPlayerState), d.players[s]? = some player → player.sessionId = s := by
  unfold DungeonInstance.new at h
  split at h
  · cases h
  · split at h
    · cases h
    · split at h
      · cases h
      · split at h
        · cases h
        · rename_i hv
          split at h
          · cases h
          · split at h
            · cases h
            · rename_i players hp
              obtain ⟨hk, hs⟩ := addPlayers_spec hp
              cases h
              refine ⟨rfl, rfl, rfl, rfl, rfl, rfl, rfl, rfl, ?_, ?_, ?_, ?_⟩
              · grind
              · grind
              · intro s
                simpa using hk s
              · intro s player hg
                simpa using hs s player hg

theorem new_participants_length {id : DungeonId} {template : DungeonTemplate} {party : PartyId}
    {members : List SessionId} {now : Int} {d : DungeonInstance}
    (h : DungeonInstance.new id template party members now = .ok d) :
    d.participants.length ≤ maxPartyMembers := by
  have hm := (new_spec h).2.2.1
  unfold DungeonInstance.new at h
  grind

theorem new_consistent {id : DungeonId} {template : DungeonTemplate} {party : PartyId}
    {members : List SessionId} {now : Int} {d : DungeonInstance}
    (h : DungeonInstance.new id template party members now = .ok d) : Consistent d := by
  obtain ⟨-, -, hm, hb, hp, hd, -, -, hn, h0, hk, hs⟩ := new_spec h
  refine ⟨by rwa [hm], fun s => by rw [hm, hk s], hs, ?_, ?_, ?_, ?_⟩
  · rw [hb, hp]; exact Inverse.empty
  · intro s; rw [hb]; simp
  · intro s; rw [hd]; simp
  · rw [hk]; exact h0

/-- A dungeon of one empty room, for concrete runs. -/
def oneRoomTemplate : DungeonTemplate :=
  { id := 1, name := "Training", rooms := [{ id := 1, width := 10, depth := 10, playerSpawn := {} }] }

/-! ## Binding and disconnecting -/

theorem bind_cases (s p : Nat) (d : DungeonInstance) :
    (d.bindParticipantPlayer s p).2 = d ∨
      (s ∈ d.players ∧ s ∉ d.participantPlayerIds ∧ p ∉ d.playerSessions ∧
        d.bindParticipantPlayer s p = (true, { d with
          participantPlayerIds := d.participantPlayerIds.insert s p
          playerSessions := d.playerSessions.insert p s })) := by
  unfold bindParticipantPlayer
  split
  · exact Or.inl rfl
  · split
    · exact Or.inl rfl
    · rename_i hs
      split
      · exact Or.inl rfl
      · rename_i hb
        split
        · exact Or.inl rfl
        · rename_i hp
          have hb' : s ∉ d.participantPlayerIds := by grind
          have hp' : p ∉ d.playerSessions := by grind
          right
          refine ⟨by simpa using hs, hb', hp', ?_⟩
          congr 2
          · ext k v; grind
          · ext k v; grind

theorem bind_consistent {d : DungeonInstance} (h : Consistent d) (s p : Nat) :
    Consistent (d.bindParticipantPlayer s p).2 := by
  rcases bind_cases s p d with he | ⟨hs, hb, hp, he⟩
  · rwa [he]
  · rw [he]
    refine ⟨h.nodup, h.listed, h.session, h.inverse.insert (by grind) (by grind), ?_, h.disconnected, h.nonzero⟩
    intro x hx
    rcases ExtTreeMap.mem_insert.mp hx with hx | hx
    · rwa [← LawfulEqOrd.compare_eq_iff_eq.mp hx]
    · exact h.bound x hx

theorem disconnect_consistent {d : DungeonInstance} (h : Consistent d) (s : SessionId)
    (t : Int) : Consistent (d.disconnectParticipant s t).2 := by
  unfold disconnectParticipant
  split
  · exact h
  · rename_i hs
    refine ⟨h.nodup, h.listed, h.session, h.inverse, h.bound, ?_, h.nonzero⟩
    intro x hx
    have := h.disconnected x
    grind

/-! ## Moving a participant to another session -/

/-- The dungeon after a participant has moved to another session, with the disconnect times given. -/
def moved (p old new : Nat) (player : DungeonPlayerState) (since : IdMap Int)
    (d : DungeonInstance) : DungeonInstance :=
  { d with
    players := (d.players.erase old).insert new { player with sessionId := new }
    participantPlayerIds := (d.participantPlayerIds.erase old).insert new p
    playerSessions := d.playerSessions.insert p new
    participants := d.participants.replace old new
    disconnectedSince := since }

theorem moveParticipant_of_free {d : DungeonInstance} {p old new : Nat} {player : DungeonPlayerState}
    (hb : new ∉ d.participantPlayerIds) (hg : d.players[old]? = some player) (hn : new ∉ d.players)
    (h0 : new ≠ 0) :
    d.moveParticipant p old new = (true, moved p old new player d.disconnectedSince d) := by
  simp only [moveParticipant, hg, DungeonPlayerState.rebindSession, h0, ↓reduceIte, moved]
  congr 2
  · ext k v; grind
  · ext k v; grind

theorem moveParticipant_eq {d : DungeonInstance} (h : Consistent d) {p old new : Nat}
    {player : DungeonPlayerState} (hg : d.players[old]? = some player) (hn : new ∉ d.players)
    (h0 : new ≠ 0) :
    d.moveParticipant p old new = (true, moved p old new player d.disconnectedSince d) :=
  moveParticipant_of_free (fun hm => hn (h.bound new hm)) hg hn h0

theorem moved_consistent {d : DungeonInstance} (h : Consistent d) {p old new : Nat}
    {player : DungeonPlayerState} {since : IdMap Int}
    (hp : d.playerSessions[p]? = some old) (hn : new ∉ d.players)
    (h0 : new ≠ 0) (hs : ∀ s, s ∈ since → s = new ∨ (s ∈ d.players ∧ s ≠ old)) :
    Consistent (moved p old new player since d) := by
  obtain ⟨hold, hlist, -⟩ := h.bound_session hp
  have hn' : new ∉ d.participants := fun hm => hn ((h.listed new).mp hm)
  have hnb : new ∉ d.participantPlayerIds := fun hm => hn (h.bound new hm)
  have hb := (h.inverse old p).mpr hp
  refine ⟨nodup_replace h.nodup hn', ?_, ?_, h.inverse.rename hb hnb, ?_, ?_, ?_⟩
  · intro s
    have := h.listed s
    simp only [moved]
    rw [mem_replace h.nodup hlist hn']
    grind
  · intro s q hq
    have := h.session s q
    simp only [moved] at hq
    grind
  · intro s hm
    have := h.bound s
    simp only [moved] at hm ⊢
    grind
  · intro s hm
    have := hs s hm
    simp only [moved]
    grind
  · have := h.nonzero
    simp only [moved]
    grind

theorem moved_participants_length (p old new : Nat) (player : DungeonPlayerState)
    (since : IdMap Int) (d : DungeonInstance) :
    (moved p old new player since d).participants.length = d.participants.length := by
  simp [moved, List.length_replace]

/-! ## Reconnecting and rolling back -/

/-- The guards of `ReconnectParticipant` for a player bound through `old` and marked
disconnected at `t`. -/
structure Reconnectable (d : DungeonInstance) (p new : Nat) (now : Int) (grace : Int)
    (old : SessionId) (t : Int) : Prop where
  player : p ≠ 0
  session : new ≠ 0
  grace_pos : 0 < grace
  bound : d.playerSessions[p]? = some old
  since : d.disconnectedSince[old]? = some t
  fresh : new ∉ d.players
  after : t ≤ now
  within : now - t < grace

theorem reconnect_of_free {d : DungeonInstance} {p new old : Nat} {now t : Int} {grace : Int}
    {player : DungeonPlayerState} (hb : new ∉ d.participantPlayerIds)
    (hr : Reconnectable d p new now grace old t) (hg : d.players[old]? = some player) :
    d.reconnectParticipant p new now grace =
      (some ⟨old, t⟩, moved p old new player (d.disconnectedSince.erase old) d) := by
  have h1 : ¬ (p = 0 ∨ new = 0 ∨ grace ≤ 0) := by
    rintro (he | he | he)
    · exact hr.player he
    · exact hr.session he
    · have := hr.grace_pos; omega
  have h2 : ¬ (new ∈ d.players ∨ now < t ∨ now - t ≥ grace) := by
    rintro (he | he | he)
    · exact hr.fresh he
    · have := hr.after; omega
    · have := hr.within; omega
  simp only [reconnectParticipant, h1, hr.bound, hr.since, h2, ↓reduceIte,
    moveParticipant_of_free hb hg hr.fresh hr.session]
  rfl

theorem reconnect_some {d : DungeonInstance} (h : Consistent d) {p new old : Nat}
    {now t : Int} {grace : Int} {player : DungeonPlayerState}
    (hr : Reconnectable d p new now grace old t) (hg : d.players[old]? = some player) :
    d.reconnectParticipant p new now grace =
      (some ⟨old, t⟩, moved p old new player (d.disconnectedSince.erase old) d) :=
  reconnect_of_free (fun hm => hr.fresh (h.bound new hm)) hr hg

theorem reconnect_none {d : DungeonInstance} {p new : Nat}
    {now : Int} {grace : Int} (hr : ∀ old t, ¬ Reconnectable d p new now grace old t) :
    d.reconnectParticipant p new now grace = (none, d) := by
  unfold reconnectParticipant
  split
  · rfl
  · rename_i h1
    split
    · rfl
    · rename_i old hb
      split
      · rfl
      · rename_i t hs
        split
        · rfl
        · rename_i h2
          exact absurd ⟨by grind, by grind, by omega, hb, hs, by grind, by omega, by omega⟩ (hr old t)

/-- What one call of `ReconnectParticipant` can do. -/
theorem reconnect_cases {d : DungeonInstance} (h : Consistent d) (p new : Nat)
    (now : Int) (grace : Int) :
    ((∀ old t, ¬ Reconnectable d p new now grace old t) ∧
      d.reconnectParticipant p new now grace = (none, d)) ∨
    ∃ old t player, Reconnectable d p new now grace old t ∧ d.players[old]? = some player ∧
      d.reconnectParticipant p new now grace =
        (some ⟨old, t⟩, moved p old new player (d.disconnectedSince.erase old) d) := by
  by_cases hr : ∃ old t, Reconnectable d p new now grace old t
  · obtain ⟨old, t, hr⟩ := hr
    obtain ⟨player, hg, -⟩ := h.player_of_session hr.bound
    exact Or.inr ⟨old, t, player, hr, hg, reconnect_some h hr hg⟩
  · simp only [not_exists] at hr
    exact Or.inl ⟨hr, reconnect_none hr⟩

theorem reconnected_consistent {d : DungeonInstance} (h : Consistent d) {p new old : Nat}
    {now t : Int} {grace : Int} {player : DungeonPlayerState}
    (hr : Reconnectable d p new now grace old t) :
    Consistent (moved p old new player (d.disconnectedSince.erase old) d) := by
  apply moved_consistent h hr.bound hr.fresh hr.session
  intro s hs
  have := h.disconnected s
  grind

/-- The guards of `RollbackParticipantReconnect`. -/
structure Rollbackable (d : DungeonInstance) (p new old : Nat) : Prop where
  player : p ≠ 0
  replaced : old ≠ 0
  bound : d.playerSessions[p]? = some new
  free : old ∉ d.players

/-- What one call of `RollbackParticipantReconnect` can do. -/
theorem rollback_cases {d : DungeonInstance} (h : Consistent d) (p new old : Nat) (t : Int) :
    (¬ Rollbackable d p new old ∧ d.rollbackParticipantReconnect p new ⟨old, t⟩ = (false, d)) ∨
    ∃ player, Rollbackable d p new old ∧ d.players[new]? = some player ∧
      d.rollbackParticipantReconnect p new ⟨old, t⟩ =
        (true, moved p new old player (d.disconnectedSince.insertIfNew old t) d) := by
  by_cases hr : Rollbackable d p new old
  · obtain ⟨hn, -, hn0⟩ := h.bound_session hr.bound
    obtain ⟨player, hg, -⟩ := h.player_of_session hr.bound
    have h1 : ¬ (p = 0 ∨ new = 0 ∨ old = 0) := by
      have := hr.player
      have := hr.replaced
      omega
    have h2 : ¬ (d.playerSessions[p]? ≠ some new ∨ new ∉ d.players ∨ old ∈ d.players) := by
      have := hr.bound
      have := hr.free
      grind
    refine Or.inr ⟨player, hr, hg, ?_⟩
    simp only [rollbackParticipantReconnect, h1, h2, ↓reduceIte,
      moveParticipant_eq h hg hr.free hr.replaced]
    rfl
  · refine Or.inl ⟨hr, ?_⟩
    unfold rollbackParticipantReconnect
    split
    · rfl
    · rename_i h1
      split
      · rfl
      · rename_i h2
        exact absurd ⟨by grind, by grind, by grind, by grind⟩ hr

theorem rolledBack_consistent {d : DungeonInstance} (h : Consistent d) {p new old : Nat}
    {t : Int} {player : DungeonPlayerState} (hr : Rollbackable d p new old)
    (hn : new ∉ d.disconnectedSince) :
    Consistent (moved p new old player (d.disconnectedSince.insertIfNew old t) d) := by
  apply moved_consistent h hr.bound hr.free hr.replaced
  intro s hs
  have := h.disconnected s
  grind

theorem rollback_consistent {d : DungeonInstance} (h : Consistent d) {p new old : Nat}
    {t : Int} (hn : d.playerSessions[p]? = some new → new ∉ d.disconnectedSince) :
    Consistent (d.rollbackParticipantReconnect p new ⟨old, t⟩).2 := by
  rcases rollback_cases h p new old t with ⟨-, he⟩ | ⟨player, hr, -, he⟩
  · rwa [he]
  · rw [he]
    exact rolledBack_consistent h hr (hn hr.bound)

/-! ## Removing participants -/

/-- The dungeon without the listed sessions. -/
def without (sessions : List SessionId) (d : DungeonInstance) : DungeonInstance :=
  { d with
    participants := d.participants.filter (· ∉ sessions)
    players := d.players.filter fun s _ => s ∉ sessions
    participantPlayerIds := d.participantPlayerIds.filter fun s _ => s ∉ sessions
    playerSessions := d.playerSessions.filter fun _ s => s ∉ sessions
    disconnectedSince := d.disconnectedSince.filter fun s _ => s ∉ sessions }

theorem without_nil (d : DungeonInstance) : without [] d = d := by
  simp only [without]
  congr 1
  · simp
  · ext k v; grind
  · ext k v; grind
  · ext k v; grind
  · ext k v; grind

theorem dropParticipant_eq {d : DungeonInstance} (h : Consistent d) (s : SessionId) :
    d.dropParticipant s = without [s] d := by
  have hi := h.inverse s
  simp only [dropParticipant, without]
  congr 1
  · grind
  · ext k v; grind
  · ext k v; grind
  · ext k v
    have := h.inverse s k
    have := h.inverse v k
    cases hb : d.participantPlayerIds[s]? <;> grind
  · ext k v; grind

theorem without_consistent {d : DungeonInstance} (h : Consistent d) (sessions : List SessionId) :
    Consistent (without sessions d) := by
  refine ⟨h.nodup.filter _, ?_, ?_, ?_, ?_, ?_, ?_⟩
  · intro s
    have := h.listed s
    simp only [without]
    grind
  · intro s player hg
    have := h.session s player
    simp only [without] at hg
    grind
  · intro s p
    have := h.inverse s p
    simp only [without]
    grind
  · intro s hs
    have := h.bound s
    simp only [without] at hs ⊢
    grind
  · intro s hs
    have := h.disconnected s
    simp only [without] at hs ⊢
    grind
  · have := h.nonzero
    simp only [without]
    grind

theorem without_without (xs ys : List SessionId) (d : DungeonInstance) :
    without ys (without xs d) = without (xs ++ ys) d := by
  simp only [without]
  congr 1
  · rw [List.filter_filter]
    apply List.filter_congr
    intro s _
    grind
  · ext k v; grind
  · ext k v; grind
  · ext k v; grind
  · ext k v; grind

/-- Dropping sessions one by one is leaving them all out. -/
theorem foldl_dropParticipant {d : DungeonInstance} (h : Consistent d) (sessions : List SessionId) :
    sessions.foldl dropParticipant d = without sessions d := by
  induction sessions generalizing d with
  | nil => exact (without_nil d).symm
  | cons s rest ih =>
    rw [List.foldl_cons, dropParticipant_eq h, ih (without_consistent h [s]), without_without]
    rfl

/-- The sessions whose grace has run out, as the sweep reports them. -/
def expiredSessions (now : Int) (grace : Int) (d : DungeonInstance) : List SessionId :=
  (d.disconnectedSince.toList.filter fun e => graceExpired now grace e.2).map (·.1)

theorem mem_expiredSessions {now : Int} {grace : Int} {d : DungeonInstance}
    {s : SessionId} : s ∈ expiredSessions now grace d ↔
      ∃ t, d.disconnectedSince[s]? = some t ∧ graceExpired now grace t = true := by
  simp only [expiredSessions, List.mem_map, List.mem_filter, Prod.exists, exists_and_right,
    exists_eq_right, ExtTreeMap.mem_toList_iff_getElem?_eq_some]

theorem removeExpiredLoop_eq (now : Int) (grace : Int) (entries : List (SessionId × Int))
    (removed : List SessionId) (d : DungeonInstance) :
    removeExpiredLoop now grace entries (removed, d) =
      (removed ++ (entries.filter fun e => graceExpired now grace e.2).map (·.1),
        ((entries.filter fun e => graceExpired now grace e.2).map (·.1)).foldl dropParticipant d) := by
  induction entries generalizing removed d with
  | nil => simp [removeExpiredLoop]
  | cons e rest ih =>
    obtain ⟨s, t⟩ := e
    cases hg : graceExpired now grace t with
    | true => simp [removeExpiredLoop, hg, ih]
    | false => simp [removeExpiredLoop, hg, ih]

theorem removeExpired_eq {d : DungeonInstance} (h : Consistent d) (now : Int)
    {grace : Int} (hg : 0 < grace) :
    d.removeExpiredDisconnectedParticipants now grace =
      (expiredSessions now grace d, without (expiredSessions now grace d) d) := by
  have hn : ¬ grace ≤ 0 := by omega
  rw [removeExpiredDisconnectedParticipants, if_neg hn, removeExpiredLoop_eq, ← expiredSessions,
    foldl_dropParticipant h, List.nil_append]

theorem removeAll_consistent (d : DungeonInstance) : Consistent d.removeAllParticipants.2 := by
  refine ⟨List.nodup_nil, ?_, ?_, Inverse.empty, ?_, ?_, ?_⟩ <;> simp [removeAllParticipants]

end DnfServer.Participants
