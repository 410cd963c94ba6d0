import DnfServer.Model.Instance

/-!
# A new dungeon

What the constructor of `DungeonInstance` builds: a fresh room for every room of the template, and
every participant at the spawn of the first one. It throws nothing when the room ids are distinct,
the first room can be entered and the participants are a party.
-/

namespace DnfServer.Dungeons

open Std
set_option autoImplicit false

theorem addRooms_spec {roomTemplates : List RoomTemplate} :
    ∀ {rooms result : ExtTreeMap UInt32 RoomState},
      DungeonInstance.addRooms roomTemplates rooms = .ok result →
      ∀ (id : RoomId) (room : RoomState), result[id]? = some room ↔ rooms[id]? = some room ∨
        ∃ roomTemplate ∈ roomTemplates, room = RoomState.new roomTemplate ∧ roomTemplate.id = id := by
  induction roomTemplates with
  | nil =>
    intro rooms result h id room
    obtain rfl := Except.ok.inj h
    simp
  | cons first rest ih =>
    intro rooms result h id room
    simp only [DungeonInstance.addRooms] at h
    split at h
    · cases h
    rename_i hnew
    rw [ih h id room]
    by_cases hid : first.id = id
    · subst hid
      grind
    · grind

theorem addRooms_ok {roomTemplates : List RoomTemplate} (hd : (roomTemplates.map (·.id)).Nodup) :
    ∀ {rooms : ExtTreeMap UInt32 RoomState}, (∀ roomTemplate ∈ roomTemplates, roomTemplate.id ∉ rooms) →
      ∃ result, DungeonInstance.addRooms roomTemplates rooms = .ok result := by
  induction roomTemplates with
  | nil => exact fun {rooms} _ => ⟨rooms, rfl⟩
  | cons first rest ih =>
    intro rooms hnew
    simp only [List.map_cons, List.nodup_cons] at hd
    have hrest : ∀ roomTemplate ∈ rest,
        roomTemplate.id ∉ rooms.insertIfNew first.id (RoomState.new first) := by
      intro roomTemplate hm
      have hne : first.id ≠ roomTemplate.id := fun he => hd.1 (he ▸ List.mem_map_of_mem hm)
      have hout := hnew roomTemplate (List.mem_cons_of_mem _ hm)
      simpa [hne] using hout
    obtain ⟨result, hresult⟩ := ih hd.2 hrest
    refine ⟨result, ?_⟩
    rw [DungeonInstance.addRooms, if_neg (hnew first List.mem_cons_self), hresult]

theorem addPlayers_spawn {firstRoom : RoomTemplate} {participants : List SessionId} :
    ∀ {players result : IdMap DungeonPlayerState},
      DungeonInstance.addPlayers firstRoom participants players = .ok result →
      ∀ (s : SessionId) (player : DungeonPlayerState), result[s]? = some player →
        players[s]? = some player ∨
          DungeonPlayerState.new s firstRoom.id firstRoom.playerSpawn = .ok player := by
  induction participants with
  | nil =>
    intro players result h s player hs
    obtain rfl := Except.ok.inj h
    exact .inl hs
  | cons first rest ih =>
    intro players result h s player hs
    simp only [DungeonInstance.addPlayers] at h
    split at h
    · cases h
    rename_i added hadded
    rcases ih h s player hs with hs | hs
    · by_cases hfirst : first = s
      · grind
      · exact .inl (by grind)
    · exact .inr hs

theorem addPlayers_ok {firstRoom : RoomTemplate} {participants : List SessionId}
    (hid : firstRoom.id ≠ 0) (hz : 0 ≤ firstRoom.playerSpawn.z) (h0 : 0 ∉ participants) :
    ∀ {players : IdMap DungeonPlayerState},
      ∃ result, DungeonInstance.addPlayers firstRoom participants players = .ok result := by
  induction participants with
  | nil => exact fun {players} => ⟨players, rfl⟩
  | cons first rest ih =>
    intro players
    simp only [List.mem_cons, not_or] at h0
    have hvalid : ¬ (first = 0 ∨ firstRoom.id = 0 ∨ firstRoom.playerSpawn.z < 0 ∨
        (100 : UInt32) = 0 ∨ (100 : UInt32) = 0) := by
      simp only [not_or, Rat.not_lt]
      exact ⟨Ne.symm h0.1, hid, hz, by decide, by decide⟩
    simp only [DungeonInstance.addPlayers, DungeonPlayerState.new, if_neg hvalid]
    exact ih h0.2

section

variable {dungeonId : DungeonId} {template : DungeonTemplate} {partyId : PartyId}
  {participants : List SessionId} {createdAt : Int} {dungeon : DungeonInstance}

/-- What the constructor has put into the rooms and the players of a dungeon. -/
structure Created (template : DungeonTemplate) (dungeon : DungeonInstance) : Prop where
  dungeonTemplate : dungeon.dungeonTemplate = template
  state : dungeon.state = .waiting
  rooms : ∀ (id : RoomId) (room : RoomState), dungeon.rooms[id]? = some room ↔
    ∃ roomTemplate ∈ template.rooms, room = RoomState.new roomTemplate ∧ roomTemplate.id = id
  size : dungeon.participants.length ≤ maxPartyMembers
  players : ∃ (firstRoom : RoomTemplate) (otherRooms : List RoomTemplate),
    template.rooms = firstRoom :: otherRooms ∧
      ∀ (s : SessionId) (player : DungeonPlayerState), dungeon.players[s]? = some player →
        DungeonPlayerState.new s firstRoom.id firstRoom.playerSpawn = .ok player

theorem created_new
    (h : DungeonInstance.new dungeonId template partyId participants createdAt = .ok dungeon) :
    Created template dungeon := by
  unfold DungeonInstance.new at h
  split at h
  · cases h
  split at h
  · cases h
  rename_i firstRoom otherRooms hrooms
  split at h
  · cases h
  rename_i hparticipants
  split at h
  · cases h
  split at h
  · cases h
  rename_i rooms haddRooms
  split at h
  · cases h
  rename_i players haddPlayers
  obtain rfl := Except.ok.inj h
  refine ⟨rfl, rfl, ?_, ?_, firstRoom, otherRooms, hrooms, ?_⟩
  · intro id room
    rw [hrooms]
    simpa using addRooms_spec haddRooms id room
  · simp only [not_or, Nat.not_lt] at hparticipants
    exact hparticipants.2
  · intro s player hs
    simpa using addPlayers_spawn haddPlayers s player hs

theorem new_ok (hid : dungeonId ≠ 0) (htemplate : template.id ≠ 0) (hparty : partyId ≠ 0)
    {firstRoom : RoomTemplate} {otherRooms : List RoomTemplate}
    (hrooms : template.rooms = firstRoom :: otherRooms) (hd : (template.rooms.map (·.id)).Nodup)
    (hfirst : firstRoom.id ≠ 0) (hz : 0 ≤ firstRoom.playerSpawn.z) (hne : participants ≠ [])
    (hsize : participants.length ≤ maxPartyMembers) (h0 : 0 ∉ participants)
    (hnodup : participants.Nodup) (createdAt : Int) :
    ∃ dungeon, DungeonInstance.new dungeonId template partyId participants createdAt = .ok dungeon := by
  obtain ⟨rooms, haddRooms⟩ : ∃ rooms, DungeonInstance.addRooms template.rooms ∅ = .ok rooms :=
    addRooms_ok hd (by simp)
  obtain ⟨players, haddPlayers⟩ : ∃ players,
      DungeonInstance.addPlayers firstRoom participants ∅ = .ok players := addPlayers_ok hfirst hz h0
  rw [hrooms] at haddRooms
  have hids : ¬ (dungeonId = 0 ∨ template.id = 0 ∨ partyId = 0) := by simp [hid, htemplate, hparty]
  have hcontents : ¬ (participants = [] ∨ participants.length > maxPartyMembers) := by
    simp [hne, hsize]
  have hvalid : ¬ (0 ∈ participants ∨ ¬ participants.Nodup) := by simp [h0, hnodup]
  simp only [DungeonInstance.new, if_neg hids, hrooms, if_neg hcontents, if_neg hvalid, haddRooms,
    haddPlayers]
  exact ⟨_, rfl⟩

end

end DnfServer.Dungeons
