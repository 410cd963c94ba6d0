import DnfServer.Model.Manager
import DnfServer.Participants.Consistency

/-!
# What each call of the manager can do

One description for each locked function of `DungeonManager`, on a manager whose live
dungeons are consistent: the guards it has passed and the state it leaves. The
invariants of the later modules are read off these descriptions.
-/

namespace DnfServer.Manager

open Std DnfServer.Library DnfServer.Participants DungeonManager
set_option autoImplicit false

/-- Every live dungeon is consistent. -/
def AllConsistent (dungeons : IdMap DungeonInstance) : Prop :=
  ∀ (d : DungeonId) (dungeon : DungeonInstance), dungeons[d]? = some dungeon → Consistent dungeon

theorem allConsistent_insert {dungeons : IdMap DungeonInstance} (h : AllConsistent dungeons)
    {d : DungeonId} {dungeon : DungeonInstance} (hd : Consistent dungeon) :
    AllConsistent (dungeons.insert d dungeon) := by
  intro x y hx
  have := h x y
  grind

theorem mem_order {dungeons : IdMap DungeonInstance} {order : List DungeonId}
    (ho : IterationOrder dungeons order) {d : DungeonId} {dungeon : DungeonInstance}
    (h : dungeons[d]? = some dungeon) : d ∈ order := by
  rw [ho.mem_iff, ExtTreeMap.mem_keys]
  grind

/-! ## Creating a dungeon -/

section Create

variable {auth : IdMap PlayerId}

/-- What the binding loop leaves alone, and which bindings it makes. -/
structure Binds (auth : IdMap PlayerId) (d d' : DungeonInstance) : Prop where
  participants : d'.participants = d.participants
  players : d'.players = d.players
  disconnectedSince : d'.disconnectedSince = d.disconnectedSince
  dungeonId : d'.dungeonId = d.dungeonId
  partyId : d'.partyId = d.partyId
  state : d'.state = d.state
  createdAt : d'.createdAt = d.createdAt
  consistent : Consistent d → Consistent d'
  bindings : ∀ (p s : Nat), d'.playerSessions[p]? = some s →
    d.playerSessions[p]? = some s ∨ auth[s]? = some p

theorem Binds.refl (d : DungeonInstance) : Binds auth d d :=
  ⟨rfl, rfl, rfl, rfl, rfl, rfl, rfl, id, fun _ _ h => Or.inl h⟩

theorem Binds.trans {d d' d'' : DungeonInstance} (h : Binds auth d d') (h' : Binds auth d' d'') :
    Binds auth d d'' := by
  refine ⟨h'.participants.trans h.participants, h'.players.trans h.players,
    h'.disconnectedSince.trans h.disconnectedSince, h'.dungeonId.trans h.dungeonId,
    h'.partyId.trans h.partyId, h'.state.trans h.state, h'.createdAt.trans h.createdAt,
    fun hc => h'.consistent (h.consistent hc), ?_⟩
  intro p s hp
  rcases h'.bindings p s hp with hp | hp
  · exact h.bindings p s hp
  · exact Or.inr hp

theorem binds_bindParticipantPlayer (auth : IdMap PlayerId) {s p : Nat} (h : auth[s]? = some p)
    (d : DungeonInstance) :
    Binds auth d (d.bindParticipantPlayer s p).2 := by
  rcases bind_cases s p d with he | ⟨-, -, -, he⟩
  · rw [he]
    exact Binds.refl d
  · refine ⟨by rw [he], by rw [he], by rw [he], by rw [he], by rw [he], by rw [he], by rw [he],
      fun hc => bind_consistent hc s p, ?_⟩
    intro q x hq
    rw [he] at hq
    grind

theorem binds_bindMembers (members : List SessionId) (d : DungeonInstance) :
    Binds auth d (bindMembers auth members d) := by
  induction members generalizing d with
  | nil => exact Binds.refl d
  | cons s rest ih =>
    rw [bindMembers, List.foldl_cons]
    cases hs : auth[s]? with
    | none => exact ih d
    | some p => exact (binds_bindParticipantPlayer auth hs d).trans (ih _)

end Create

/-- The locked part of `CreateDungeon` puts a dungeon in: the manager is not stopping, the
party has no dungeon, and the constructor accepts the party and the template. -/
def Inserts (m : DungeonManager) (partyId : PartyId) (party : PartyInfo)
    (template : DungeonTemplate) (now : Int) : Prop :=
  m.stopping = false ∧ partyId ∉ m.partyDungeons ∧
    (DungeonInstance.new m.nextDungeonId template partyId party.members now).isOk = true

instance (m : DungeonManager) (partyId : PartyId) (party : PartyInfo) (template : DungeonTemplate)
    (now : Int) : Decidable (Inserts m partyId party template now) :=
  inferInstanceAs (Decidable (_ ∧ _ ∧ _))

/-- What the locked part of `CreateDungeon` can do. -/
theorem insert_cases (m : DungeonManager) (partyId : PartyId) (party : PartyInfo)
    (template : DungeonTemplate) (now : Int) :
    (∃ status, status ≠ .success ∧
      m.insertDungeon partyId party template now = (.ok { status }, m)) ∨
    (∃ failure, m.insertDungeon partyId party template now =
      (.error failure, { m with nextDungeonId := m.nextDungeonId + 1 })) ∨
    ∃ built dungeon, Inserts m partyId party template now ∧
      DungeonInstance.new m.nextDungeonId template partyId party.members now = .ok built ∧
      dungeon = bindMembers m.authenticatedPlayers party.members built ∧
      m.insertDungeon partyId party template now =
        (.ok { status := .success, dungeon := some dungeon },
          { m with
            nextDungeonId := m.nextDungeonId + 1
            dungeons := m.dungeons.insertIfNew m.nextDungeonId dungeon
            partyDungeons := m.partyDungeons.insertIfNew partyId m.nextDungeonId }) := by
  unfold insertDungeon
  split
  · exact Or.inl ⟨_, by decide, rfl⟩
  · rename_i hs
    split
    · exact Or.inl ⟨_, by decide, rfl⟩
    · rename_i hp
      cases hn : DungeonInstance.new m.nextDungeonId template partyId party.members now with
      | error failure => exact Or.inr (Or.inl ⟨failure, by simp only [hn]⟩)
      | ok built =>
        have hinserts : Inserts m partyId party template now :=
          ⟨by simpa using hs, hp, by rw [hn]; rfl⟩
        exact Or.inr (Or.inr ⟨built, _, hinserts, rfl, rfl, by simp only [hn]⟩)

/-- `CreateDungeon` run without interruption either stops at a check or is its locked part
on the party and the template it has read. -/
theorem create_cases (m : DungeonManager) (parties : PartyManager) (catalog : DungeonCatalog)
    (partyId : PartyId) (templateId : DungeonTemplateId) (now : Int) :
    (∃ status, status ≠ .success ∧
      m.createDungeon parties catalog partyId templateId now = (.ok { status }, m)) ∨
    ∃ party template, parties.getParty partyId = some party ∧
      catalog.getDungeon templateId = some template ∧
      m.createDungeon parties catalog partyId templateId now =
        m.insertDungeon partyId party template now := by
  unfold createDungeon
  split
  · exact Or.inl ⟨_, by decide, rfl⟩
  · cases hp : parties.getParty partyId with
    | none => exact Or.inl ⟨_, by decide, rfl⟩
    | some party =>
      cases ht : catalog.getDungeon templateId with
      | none => exact Or.inl ⟨_, by decide, rfl⟩
      | some template => exact Or.inr ⟨party, template, rfl, rfl, rfl⟩

/-! ## The two loops over the dungeons -/

theorem firstWithParticipant_some {m : DungeonManager} {s : SessionId} {order : List DungeonId}
    {d : DungeonId} {dungeon : DungeonInstance}
    (h : m.firstWithParticipant s order = some (d, dungeon)) :
    m.dungeons[d]? = some dungeon ∧ s ∈ dungeon.players := by
  obtain ⟨x, -, hx⟩ := List.exists_of_findSome?_eq_some h
  simp only [DungeonInstance.hasParticipant, Option.bind_eq_some_iff] at hx
  obtain ⟨y, hy, hs⟩ := hx
  by_cases hc : s ∈ y.players
  · simp only [ExtTreeMap.contains_iff_mem.mpr hc, ↓reduceIte, Option.some.injEq,
      Prod.mk.injEq] at hs
    obtain ⟨rfl, rfl⟩ := hs
    exact ⟨hy, hc⟩
  · simp [hc] at hs

theorem firstWithParticipant_none {m : DungeonManager} {s : SessionId} {order : List DungeonId}
    (ho : IterationOrder m.dungeons order) (h : m.firstWithParticipant s order = none)
    {d : DungeonId} {dungeon : DungeonInstance} (hd : m.dungeons[d]? = some dungeon) :
    s ∉ dungeon.players := by
  have hx := List.findSome?_eq_none_iff.mp h d (mem_order ho hd)
  simp only [hd, Option.bind_some, DungeonInstance.hasParticipant] at hx
  intro hs
  simp [hs] at hx

/-- What the second loop of `RegisterPlayerSession` can do. -/
theorem reconnectLoop_cases {dungeons : IdMap DungeonInstance} (hall : AllConsistent dungeons)
    (s p : Nat) (now grace : Int) (order : List DungeonId) :
    ((∀ (d : DungeonId) (dungeon : DungeonInstance) (old : SessionId) (t : Int), d ∈ order →
        dungeons[d]? = some dungeon → dungeon.state ≠ .finished →
        ¬ Reconnectable dungeon p s now grace old t) ∧
      reconnectLoop s p now grace order dungeons = (none, dungeons)) ∨
    ∃ d dungeon old t player, dungeons[d]? = some dungeon ∧ dungeon.state ≠ .finished ∧
      Reconnectable dungeon p s now grace old t ∧ dungeon.players[old]? = some player ∧
      reconnectLoop s p now grace order dungeons =
        (some (d, ⟨old, t⟩), dungeons.insert d
          (moved p old s player (dungeon.disconnectedSince.erase old) dungeon)) := by
  induction order with
  | nil => exact Or.inl ⟨by simp, rfl⟩
  | cons d rest ih =>
    cases hd : dungeons[d]? with
    | none =>
      simp only [reconnectLoop, hd]
      rcases ih with ⟨hnone, he⟩ | hsome
      · refine Or.inl ⟨?_, he⟩
        intro x y old t hx hy
        have := hnone x y old t
        grind
      · exact Or.inr hsome
    | some dungeon =>
      by_cases hf : dungeon.state = .finished
      · simp only [reconnectLoop, hd, hf, ↓reduceIte]
        rcases ih with ⟨hnone, he⟩ | hsome
        · refine Or.inl ⟨?_, he⟩
          intro x y old t hx hy
          have := hnone x y old t
          grind
        · exact Or.inr hsome
      · rcases reconnect_cases (hall d dungeon hd) p s now grace with
          ⟨hr, he⟩ | ⟨old, t, player, hr, hp, he⟩
        · simp only [reconnectLoop, hd, hf, ↓reduceIte, he, insert_self hd]
          rcases ih with ⟨hnone, he⟩ | hsome
          · refine Or.inl ⟨?_, he⟩
            intro x y old t hx hy
            have := hnone x y old t
            have := hr old t
            grind
          · exact Or.inr hsome
        · refine Or.inr ⟨d, dungeon, old, t, player, hd, hf, hr, hp, ?_⟩
          simp only [reconnectLoop, hd, hf, ↓reduceIte, he]

/-! ## Registering a session -/

/-- The checks that `RegisterPlayerSession` makes before it records the identity. -/
structure Admitted (m : DungeonManager) (s p : Nat) (grace : Int) : Prop where
  session : s ≠ 0
  player : p ≠ 0
  grace_pos : 0 < grace
  running : m.stopping = false
  identity : ∀ q, m.authenticatedPlayers[s]? = some q → q = p
  active : ∀ x, m.activePlayerSessions[p]? = some x → x = s

instance (m : DungeonManager) (s p : Nat) (grace : Int) : Decidable (Admitted m s p grace) :=
  decidable_of_iff (s ≠ 0 ∧ p ≠ 0 ∧ 0 < grace ∧ m.stopping = false ∧
      (∀ q, m.authenticatedPlayers[s]? = some q → q = p) ∧
      ∀ x, m.activePlayerSessions[p]? = some x → x = s)
    ⟨fun ⟨h1, h2, h3, h4, h5, h6⟩ => ⟨h1, h2, h3, h4, h5, h6⟩,
      fun h => ⟨h.session, h.player, h.grace_pos, h.running, h.identity, h.active⟩⟩

/-- The manager once the identity is recorded. -/
def signIn (s p : Nat) (m : DungeonManager) : DungeonManager :=
  { m with
    authenticatedPlayers := m.authenticatedPlayers.insert s p
    activePlayerSessions := m.activePlayerSessions.insert p s }

theorem insertIfNew_eq_insert {m : IdMap Nat} {k v : Nat} (h : ∀ w, m[k]? = some w → w = v) :
    m.insertIfNew k v = m.insert k v := by
  ext a b
  have := h
  by_cases hk : k ∈ m
  · have hg : m[k]? = some m[k] := by grind
    have := h m[k] hg
    grind
  · grind

theorem register_admitted {m : DungeonManager} {s p : Nat} {grace : Int}
    (ha : Admitted m s p grace) (now : Int) (order : List DungeonId) :
    m.registerPlayerSession s p now grace order = (signIn s p m).joinDungeon s p now grace order := by
  have h1 : ¬ (s = 0 ∨ p = 0 ∨ grace ≤ 0) := by
    have := ha.session
    have := ha.player
    have := ha.grace_pos
    omega
  have h2 : ¬ m.authenticatedPlayers[s]?.any (· ≠ p) := by
    have := ha.identity
    cases h : m.authenticatedPlayers[s]? <;> simp_all
  have h3 : ¬ m.activePlayerSessions[p]?.any (· ≠ s) := by
    have := ha.active
    cases h : m.activePlayerSessions[p]? <;> simp_all
  rw [registerPlayerSession, if_neg h1, if_neg (by simp [ha.running]), if_neg h2, if_neg h3,
    insertIfNew_eq_insert ha.identity, insertIfNew_eq_insert ha.active]
  rfl

theorem register_refused {m : DungeonManager} {s p : Nat} {grace : Int}
    (ha : ¬ Admitted m s p grace) (now : Int) (order : List DungeonId) :
    m.registerPlayerSession s p now grace order = ({}, m) := by
  unfold registerPlayerSession
  split
  · rfl
  · rename_i h1
    split
    · rfl
    · rename_i h2
      split
      · rfl
      · rename_i h3
        split
        · rfl
        · rename_i h4
          refine absurd ⟨by grind, by grind, by omega, by simpa using h2, ?_, ?_⟩ ha
          · intro q hq
            simpa [hq] using h3
          · intro x hx
            simpa [hx] using h4

theorem bind_refused {s p : Nat} {dungeon : DungeonInstance}
    (h : (dungeon.bindParticipantPlayer s p).1 = false) :
    dungeon.bindParticipantPlayer s p = (false, dungeon) := by
  rcases bind_cases s p dungeon with he | ⟨-, -, -, he⟩
  · exact Prod.ext h he
  · rw [he] at h
    cases h

/-- The session is a participant already. -/
theorem join_participant {m : DungeonManager} {s : SessionId} {order : List DungeonId}
    {d : DungeonId} {dungeon : DungeonInstance}
    (hf : m.firstWithParticipant s order = some (d, dungeon)) (p : PlayerId) (now grace : Int) :
    (dungeon.bindParticipantPlayer s p = (false, dungeon) ∧
      m.joinDungeon s p now grace order = ({}, { m with
        authenticatedPlayers := m.authenticatedPlayers.erase s
        activePlayerSessions := m.activePlayerSessions.erase p })) ∨
    ((dungeon.bindParticipantPlayer s p).1 = true ∧
      m.joinDungeon s p now grace order = ({ status := .registered, dungeonId := d }, { m with
        dungeons := m.dungeons.insert d (dungeon.bindParticipantPlayer s p).2 })) := by
  cases hb : (dungeon.bindParticipantPlayer s p).1 with
  | false =>
    have he := bind_refused hb
    refine Or.inl ⟨he, ?_⟩
    simp only [joinDungeon, hf, he, insert_self (firstWithParticipant_some hf).1]
  | true =>
    have he : dungeon.bindParticipantPlayer s p = (true, (dungeon.bindParticipantPlayer s p).2) :=
      Prod.ext hb rfl
    refine Or.inr ⟨rfl, ?_⟩
    rw [joinDungeon, hf]
    simp only
    rw [he]

/-- The reconnect of a player that one dungeon takes back. -/
def reconnected (d : DungeonId) (dungeon : DungeonInstance) (p s old : Nat)
    (player : DungeonPlayerState) (m : DungeonManager) : DungeonManager :=
  { m with
    dungeons := m.dungeons.insert d
      (moved p old s player (dungeon.disconnectedSince.erase old) dungeon)
    authenticatedPlayers := m.authenticatedPlayers.erase old }

/-- The session is no participant. -/
theorem join_newcomer {m : DungeonManager} (hall : AllConsistent m.dungeons) {s : SessionId}
    {order : List DungeonId} (ho : IterationOrder m.dungeons order)
    (hf : m.firstWithParticipant s order = none) (p : PlayerId) (now grace : Int) :
    ((∀ (d : DungeonId) (dungeon : DungeonInstance) (old : SessionId) (t : Int),
        m.dungeons[d]? = some dungeon → dungeon.state ≠ .finished →
        ¬ Reconnectable dungeon p s now grace old t) ∧
      m.joinDungeon s p now grace order = ({ status := .registered }, m)) ∨
    ∃ d dungeon old t player, m.dungeons[d]? = some dungeon ∧ dungeon.state ≠ .finished ∧
      Reconnectable dungeon p s now grace old t ∧ dungeon.players[old]? = some player ∧
      m.joinDungeon s p now grace order =
        ({ status := .reconnected, dungeonId := d, replacedSessionId := old
           disconnectedAt := some t }, reconnected d dungeon p s old player m) := by
  rcases reconnectLoop_cases hall s p now grace order with
    ⟨hnone, he⟩ | ⟨d, dungeon, old, t, player, hd, hs, hr, hp, he⟩
  · refine Or.inl ⟨?_, ?_⟩
    · intro d dungeon old t hd
      exact hnone d dungeon old t (mem_order ho hd) hd
    · simp only [joinDungeon, hf, he]
  · refine Or.inr ⟨d, dungeon, old, t, player, hd, hs, hr, hp, ?_⟩
    simp only [joinDungeon, hf, he, reconnected]

theorem erase_insert_self {m : IdMap Nat} {k v : Nat} : (m.insert k v).erase k = m.erase k := by
  ext a b
  grind

/-- The outcomes of `RegisterPlayerSession`. -/
inductive RegisterOutcome (m : DungeonManager) (s p : Nat) (now grace : Int)
    (out : RegisterDungeonSessionResult × DungeonManager) : Prop
  /-- A check fails. -/
  | refused (ha : ¬ Admitted m s p grace) (he : out = ({}, m))
  /-- The session is a participant and cannot be bound there. -/
  | unbound (ha : Admitted m s p grace) (d : DungeonId) (dungeon : DungeonInstance)
      (hd : m.dungeons[d]? = some dungeon) (hs : s ∈ dungeon.players)
      (hb : dungeon.bindParticipantPlayer s p = (false, dungeon))
      (he : out = ({}, { m with
        authenticatedPlayers := m.authenticatedPlayers.erase s
        activePlayerSessions := m.activePlayerSessions.erase p }))
  /-- The session is a participant and is bound there. -/
  | bound (ha : Admitted m s p grace) (d : DungeonId) (dungeon : DungeonInstance)
      (hd : m.dungeons[d]? = some dungeon) (hs : s ∈ dungeon.players)
      (hb : (dungeon.bindParticipantPlayer s p).1 = true)
      (he : out = ({ status := .registered, dungeonId := d }, { signIn s p m with
        dungeons := m.dungeons.insert d (dungeon.bindParticipantPlayer s p).2 }))
  /-- The session is no participant and no dungeon takes the player back. -/
  | newcomer (ha : Admitted m s p grace)
      (hnone : ∀ (d : DungeonId) (dungeon : DungeonInstance),
        m.dungeons[d]? = some dungeon → s ∉ dungeon.players)
      (hr : ∀ (d : DungeonId) (dungeon : DungeonInstance) (old : SessionId) (t : Int),
        m.dungeons[d]? = some dungeon → dungeon.state ≠ .finished →
        ¬ Reconnectable dungeon p s now grace old t)
      (he : out = ({ status := .registered }, signIn s p m))
  /-- The session is no participant and one dungeon takes the player back. -/
  | back (ha : Admitted m s p grace)
      (hnone : ∀ (d : DungeonId) (dungeon : DungeonInstance),
        m.dungeons[d]? = some dungeon → s ∉ dungeon.players)
      (d : DungeonId) (dungeon : DungeonInstance) (old : SessionId) (t : Int)
      (player : DungeonPlayerState) (hd : m.dungeons[d]? = some dungeon)
      (hf : dungeon.state ≠ .finished) (hr : Reconnectable dungeon p s now grace old t)
      (hp : dungeon.players[old]? = some player)
      (he : out = ({ status := .reconnected, dungeonId := d, replacedSessionId := old
                     disconnectedAt := some t }, reconnected d dungeon p s old player (signIn s p m)))

theorem register_outcome {m : DungeonManager} (hall : AllConsistent m.dungeons)
    {order : List DungeonId} (ho : IterationOrder m.dungeons order) (s p : Nat) (now grace : Int) :
    RegisterOutcome m s p now grace (m.registerPlayerSession s p now grace order) := by
  by_cases ha : Admitted m s p grace
  · rw [register_admitted ha]
    cases hf : (signIn s p m).firstWithParticipant s order with
    | some found =>
      obtain ⟨d, dungeon⟩ := found
      obtain ⟨hd, hs⟩ := firstWithParticipant_some hf
      rcases join_participant hf p now grace with ⟨hb, he⟩ | ⟨hb, he⟩
      · refine .unbound ha d dungeon hd hs hb ?_
        rw [he]
        simp only [signIn, erase_insert_self]
      · exact .bound ha d dungeon hd hs hb he
    | none =>
      have hnone : ∀ (d : DungeonId) (dungeon : DungeonInstance), m.dungeons[d]? = some dungeon →
          s ∉ dungeon.players := fun d dungeon hd => firstWithParticipant_none ho hf hd
      have hall' : AllConsistent (signIn s p m).dungeons := hall
      rcases join_newcomer hall' ho hf p now grace with
        ⟨hr, he⟩ | ⟨d, dungeon, old, t, player, hd, hfin, hr, hp, he⟩
      · exact .newcomer ha hnone hr he
      · exact .back ha hnone d dungeon old t player hd hfin hr hp he
  · exact .refused ha (register_refused ha now order)

/-! ## Rolling back, disconnecting and removing -/

/-- What `RollbackPlayerReconnect` can do. -/
theorem rollbackPlayer_cases {m : DungeonManager} (hall : AllConsistent m.dungeons)
    (d : DungeonId) (p new old : Nat) (t : Int) :
    ((∀ dungeon, m.dungeons[d]? = some dungeon → ¬ Rollbackable dungeon p new old) ∧
      m.rollbackPlayerReconnect d p new old t = (false, m)) ∨
    ∃ dungeon player, m.dungeons[d]? = some dungeon ∧ Rollbackable dungeon p new old ∧
      dungeon.players[new]? = some player ∧
      m.rollbackPlayerReconnect d p new old t = (true, { m with
        dungeons := m.dungeons.insert d
          (moved p new old player (dungeon.disconnectedSince.insertIfNew old t) dungeon)
        authenticatedPlayers := m.authenticatedPlayers.erase new
        activePlayerSessions :=
          if m.activePlayerSessions[p]? = some new then m.activePlayerSessions.erase p
          else m.activePlayerSessions }) := by
  cases hd : m.dungeons[d]? with
  | none =>
    refine Or.inl ⟨by simp, ?_⟩
    simp only [rollbackPlayerReconnect, hd]
  | some dungeon =>
    rcases rollback_cases (hall d dungeon hd) p new old t with ⟨hr, he⟩ | ⟨player, hr, hp, he⟩
    · refine Or.inl ⟨by simpa using hr, ?_⟩
      simp only [rollbackPlayerReconnect, hd, he, insert_self hd]
    · refine Or.inr ⟨dungeon, player, rfl, hr, hp, ?_⟩
      simp only [rollbackPlayerReconnect, hd, he]

@[simp] theorem forgetSession_dungeons (s : SessionId) (m : DungeonManager) :
    (m.forgetSession s).dungeons = m.dungeons := by
  unfold forgetSession
  split <;> rfl

@[simp] theorem forgetSession_partyDungeons (s : SessionId) (m : DungeonManager) :
    (m.forgetSession s).partyDungeons = m.partyDungeons := by
  unfold forgetSession
  split <;> rfl

@[simp] theorem forgetSession_nextDungeonId (s : SessionId) (m : DungeonManager) :
    (m.forgetSession s).nextDungeonId = m.nextDungeonId := by
  unfold forgetSession
  split <;> rfl

@[simp] theorem forgetSession_stopping (s : SessionId) (m : DungeonManager) :
    (m.forgetSession s).stopping = m.stopping := by
  unfold forgetSession
  split <;> rfl

/-- A participant marked disconnected, unless it is marked already. -/
def marked (s : SessionId) (t : Int) (d : DungeonInstance) : DungeonInstance :=
  { d with disconnectedSince := d.disconnectedSince.insertIfNew s t }

theorem disconnectParticipant_eq {s : SessionId} {d : DungeonInstance} (hs : s ∈ d.players)
    (t : Int) : (d.disconnectParticipant s t).2 = marked s t d := by
  rw [DungeonInstance.disconnectParticipant, if_neg (by simpa using hs)]
  rfl

theorem marked_consistent {d : DungeonInstance} (h : Consistent d) {s : SessionId}
    (hs : s ∈ d.players) (t : Int) : Consistent (marked s t d) := by
  rw [← disconnectParticipant_eq hs]
  exact disconnect_consistent h s t

/-- What `DisconnectPlayerSession` can do. -/
theorem disconnectPlayer_cases {m : DungeonManager} {order : List DungeonId}
    (ho : IterationOrder m.dungeons order) (s : SessionId) (t : Int) :
    (s = 0 ∧ m.disconnectPlayerSession s t order = (none, m)) ∨
    (s ≠ 0 ∧ (∀ (d : DungeonId) (dungeon : DungeonInstance), m.dungeons[d]? = some dungeon →
        s ∉ dungeon.players) ∧
      m.disconnectPlayerSession s t order = (none, m.forgetSession s)) ∨
    (s ≠ 0 ∧ ∃ d dungeon, m.dungeons[d]? = some dungeon ∧ s ∈ DungeonInstance.players dungeon ∧
      m.disconnectPlayerSession s t order = (some d, { m.forgetSession s with
        dungeons := m.dungeons.insert d (marked s t dungeon) })) := by
  by_cases h0 : s = 0
  · exact Or.inl ⟨h0, by rw [disconnectPlayerSession, if_pos h0]⟩
  · rw [disconnectPlayerSession, if_neg h0]
    cases hf : (m.forgetSession s).firstWithParticipant s order with
    | none =>
      have hnone : ∀ (d : DungeonId) (dungeon : DungeonInstance), m.dungeons[d]? = some dungeon →
          s ∉ dungeon.players := by
        intro d dungeon hd
        exact firstWithParticipant_none (m := m.forgetSession s) (by simpa using ho) hf (by simpa using hd)
      exact Or.inr (Or.inl ⟨h0, hnone, by simp only [hf]⟩)
    | some found =>
      obtain ⟨d, dungeon⟩ := found
      obtain ⟨hd, hs⟩ := firstWithParticipant_some hf
      rw [forgetSession_dungeons] at hd
      refine Or.inr (Or.inr ⟨h0, d, dungeon, hd, hs, ?_⟩)
      simp only [hf, forgetSession_dungeons, disconnectParticipant_eq hs]

theorem cancel_cases (m : DungeonManager) (d : DungeonId) :
    m.cancelDungeon d = (false, m) ∨
    ∃ dungeon, m.dungeons[d]? = some dungeon ∧ dungeon.state = .waiting ∧
      m.cancelDungeon d = (true, m.removeDungeon d dungeon) := by
  unfold cancelDungeon
  cases hd : m.dungeons[d]? with
  | none => exact Or.inl rfl
  | some dungeon =>
    by_cases hw : dungeon.state = .waiting
    · exact Or.inr ⟨dungeon, rfl, hw, by simp [hw]⟩
    · exact Or.inl (by simp [hw])

/-- `FinishDungeon` finishes a running dungeon on the way and refuses a waiting one only. -/
theorem finish_eq {m : DungeonManager} {d : DungeonId} {dungeon : DungeonInstance}
    (hd : m.dungeons[d]? = some dungeon) : m.finishDungeon d =
      if dungeon.state = .waiting then (false, m) else (true, m.removeDungeon d dungeon) := by
  unfold finishDungeon
  rw [hd]
  cases hs : dungeon.state with
  | waiting => simp [hs]
  | running => simp [hs, DungeonInstance.finish, removeDungeon]
  | finished => simp [hs]

theorem finish_cases (m : DungeonManager) (d : DungeonId) :
    m.finishDungeon d = (false, m) ∨
    ∃ dungeon, m.dungeons[d]? = some dungeon ∧ dungeon.state ≠ .waiting ∧
      m.finishDungeon d = (true, m.removeDungeon d dungeon) := by
  cases hd : m.dungeons[d]? with
  | none => exact Or.inl (by simp only [finishDungeon, hd])
  | some dungeon =>
    by_cases hs : dungeon.state = .waiting
    · exact Or.inl (by rw [finish_eq hd, if_pos hs])
    · exact Or.inr ⟨dungeon, rfl, hs, by rw [finish_eq hd, if_neg hs]⟩

/-- Starting a dungeon touches its state and its rooms only. -/
theorem start_frame (catalog : EnemyCatalog) (d : DungeonInstance) :
    ∃ state rooms, (d.start catalog).2 = { d with state, rooms } ∧
      (state = .finished → d.state = .finished) := by
  unfold DungeonInstance.start
  split
  · exact ⟨d.state, d.rooms, rfl, id⟩
  · simp only
    split
    · exact ⟨.running, d.rooms, rfl, by simp⟩
    · split
      · exact ⟨.running, d.rooms, rfl, by simp⟩
      · split
        · exact ⟨.running, _, rfl, by simp⟩
        · exact ⟨.running, _, rfl, by simp⟩

theorem startDungeon_cases (catalog : EnemyCatalog) (d : DungeonId) (m : DungeonManager) :
    (m.startDungeon catalog d).2 = m ∨
    ∃ dungeon state rooms, m.dungeons[d]? = some dungeon ∧
      (state = .finished → dungeon.state = .finished) ∧
      (m.startDungeon catalog d).2 =
        { m with dungeons := m.dungeons.insert d { dungeon with state, rooms } } := by
  unfold startDungeon
  cases hd : m.dungeons[d]? with
  | none => exact Or.inl rfl
  | some dungeon =>
    obtain ⟨state, rooms, he, hf⟩ := start_frame catalog dungeon
    exact Or.inr ⟨dungeon, state, rooms, rfl, hf, by simp only [he]⟩

/-- `TryFinishIfCleared` of the tick, on a dungeon that has been cleared. What clears a dungeon is
no part of the manager, so that any running dungeon may be. -/
def finishCleared (d : DungeonId) (m : DungeonManager) : DungeonManager :=
  match m.dungeons[d]? with
  | none => m
  | some dungeon => { m with dungeons := m.dungeons.insert d dungeon.finish.2 }

theorem finishCleared_cases (d : DungeonId) (m : DungeonManager) :
    finishCleared d m = m ∨
    ∃ dungeon, m.dungeons[d]? = some dungeon ∧ dungeon.state = .running ∧
      finishCleared d m =
        { m with dungeons := m.dungeons.insert d { dungeon with state := .finished } } := by
  unfold finishCleared
  cases hd : m.dungeons[d]? with
  | none => exact Or.inl rfl
  | some dungeon =>
    by_cases hr : dungeon.state = .running
    · exact Or.inr ⟨dungeon, rfl, hr, by simp [DungeonInstance.finish, hr]⟩
    · refine Or.inl ?_
      have hsame : m.dungeons.insert d dungeon = m.dungeons := by
        ext x y
        grind
      simp only [DungeonInstance.finish, ne_eq, hr, not_false_eq_true, ↓reduceIte, hsame]

/-! ## The sweep -/

section Sweep

variable (now grace lifetime : Int)

/-- What the sweep leaves of one dungeon. -/
def swept (d : DungeonInstance) : Option DungeonInstance :=
  if keptBySweep now grace lifetime d then some (sweepDungeon now grace lifetime d).2 else none

theorem sweepDungeon_partyId (d : DungeonInstance) :
    (sweepDungeon now grace lifetime d).2.partyId = d.partyId := by
  have hloop : ∀ (entries : List (SessionId × Int)) (removed : List SessionId) (d : DungeonInstance),
      (DungeonInstance.removeExpiredLoop now grace entries (removed, d)).2.partyId = d.partyId := by
    intro entries
    induction entries with
    | nil => intro removed d; rfl
    | cons e rest ih =>
      intro removed d
      obtain ⟨s, t⟩ := e
      rw [DungeonInstance.removeExpiredLoop]
      split
      · exact ih _ _
      · exact ih _ _
  unfold sweepDungeon
  split
  · rfl
  · unfold DungeonInstance.removeExpiredDisconnectedParticipants
    split
    · rfl
    · exact hloop _ _ _

/-- The sweep loop treats each dungeon it visits by itself. -/
theorem sweepLoop_dungeons (entries : List (DungeonId × DungeonInstance))
    (hn : (entries.map (·.1)).Nodup) (sweep : DungeonAbandonmentSweep) (m : DungeonManager)
    (d : DungeonId) :
    (∀ dungeon, (d, dungeon) ∈ entries →
      (sweepLoop now grace lifetime entries (sweep, m)).2.dungeons[d]? =
        swept now grace lifetime dungeon) ∧
    (d ∉ entries.map (·.1) →
      (sweepLoop now grace lifetime entries (sweep, m)).2.dungeons[d]? = m.dungeons[d]?) := by
  induction entries generalizing sweep m with
  | nil => simp [sweepLoop]
  | cons e rest ih =>
    obtain ⟨x, y⟩ := e
    simp only [List.map_cons, List.nodup_cons] at hn
    by_cases hk : keptBySweep now grace lifetime y
    · simp only [sweepLoop, hk, ↓reduceIte]
      have h := fun sweep => ih hn.2 sweep
        { m with dungeons := m.dungeons.insert x (sweepDungeon now grace lifetime y).2 }
      refine ⟨?_, ?_⟩
      · intro dungeon hm
        rcases List.mem_cons.mp hm with hm | hm
        · cases hm
          rw [(h _).2 hn.1, swept, if_pos hk]
          simp
        · exact (h _).1 dungeon hm
      · intro hm
        simp only [List.map_cons, List.mem_cons, not_or] at hm
        rw [(h _).2 hm.2]
        grind
    · simp only [sweepLoop, hk]
      have h := fun sweep => ih hn.2 sweep (m.removeDungeon x (sweepDungeon now grace lifetime y).2)
      refine ⟨?_, ?_⟩
      · intro dungeon hm
        rcases List.mem_cons.mp hm with hm | hm
        · cases hm
          refine ((h _).2 hn.1).trans ?_
          rw [swept, if_neg hk]
          simp [removeDungeon]
        · exact (h _).1 dungeon hm
      · intro hm
        simp only [List.map_cons, List.mem_cons, not_or] at hm
        refine ((h _).2 hm.2).trans ?_
        simp only [removeDungeon]
        grind

/-- The sweep loop drops a party's entry when it drops a dungeon of that party. -/
theorem sweepLoop_partyDungeons (entries : List (DungeonId × DungeonInstance))
    (sweep : DungeonAbandonmentSweep) (m : DungeonManager) (party : PartyId) :
    ((∃ e ∈ entries, ¬ keptBySweep now grace lifetime e.2 ∧ e.2.partyId = party) →
      (sweepLoop now grace lifetime entries (sweep, m)).2.partyDungeons[party]? = none) ∧
    ((∀ e ∈ entries, e.2.partyId = party → keptBySweep now grace lifetime e.2) →
      (sweepLoop now grace lifetime entries (sweep, m)).2.partyDungeons[party]? =
        m.partyDungeons[party]?) := by
  induction entries generalizing sweep m with
  | nil => simp [sweepLoop]
  | cons e rest ih =>
    obtain ⟨x, y⟩ := e
    by_cases hk : keptBySweep now grace lifetime y
    · simp only [sweepLoop, hk, ↓reduceIte]
      have h := fun sweep => ih sweep
        { m with dungeons := m.dungeons.insert x (sweepDungeon now grace lifetime y).2 }
      refine ⟨?_, ?_⟩
      · rintro ⟨e, he, hek, hep⟩
        rcases List.mem_cons.mp he with rfl | he
        · exact absurd hk hek
        · exact (h _).1 ⟨e, he, hek, hep⟩
      · intro hall
        exact (h _).2 fun e he => hall e (List.mem_cons_of_mem _ he)
    · simp only [sweepLoop, hk]
      have h := fun sweep => ih sweep (m.removeDungeon x (sweepDungeon now grace lifetime y).2)
      have herase : y.partyId ≠ party →
          (m.removeDungeon x (sweepDungeon now grace lifetime y).2).partyDungeons[party]? =
            m.partyDungeons[party]? := by
        intro hne
        simp only [removeDungeon, sweepDungeon_partyId]
        grind
      refine ⟨?_, ?_⟩
      · rintro ⟨e, he, hek, hep⟩
        rcases List.mem_cons.mp he with rfl | he
        · -- the entry goes now, and a later drop of the same party finds it gone
          by_cases hr : ∃ e ∈ rest, ¬ keptBySweep now grace lifetime e.2 ∧ e.2.partyId = party
          · exact (h _).1 hr
          · refine ((h _).2 ?_).trans ?_
            · intro e he hp
              by_contra hc
              exact hr ⟨e, he, hc, hp⟩
            · simp only [removeDungeon, sweepDungeon_partyId]
              grind
        · exact (h _).1 ⟨e, he, hek, hep⟩
      · intro hall
        have hy : y.partyId ≠ party := fun hp => hk (hall (x, y) (by simp) hp)
        exact ((h _).2 fun e he => hall e (List.mem_cons_of_mem _ he)).trans (herase hy)

/-- The sweep loop leaves the identities, the counter and the stop flag alone. -/
theorem sweepLoop_frame (entries : List (DungeonId × DungeonInstance))
    (sweep : DungeonAbandonmentSweep) (m : DungeonManager) :
    (sweepLoop now grace lifetime entries (sweep, m)).2.authenticatedPlayers =
        m.authenticatedPlayers ∧
      (sweepLoop now grace lifetime entries (sweep, m)).2.activePlayerSessions =
        m.activePlayerSessions ∧
      (sweepLoop now grace lifetime entries (sweep, m)).2.nextDungeonId = m.nextDungeonId ∧
      (sweepLoop now grace lifetime entries (sweep, m)).2.stopping = m.stopping := by
  induction entries generalizing sweep m with
  | nil => exact ⟨rfl, rfl, rfl, rfl⟩
  | cons e rest ih =>
    obtain ⟨x, y⟩ := e
    by_cases hk : keptBySweep now grace lifetime y
    · simp only [sweepLoop, hk, ↓reduceIte]
      exact ih _ _
    · simp only [sweepLoop, hk]
      exact ih _ _

/-- The report of the sweep loop. -/
theorem sweepLoop_report (entries : List (DungeonId × DungeonInstance))
    (sweep : DungeonAbandonmentSweep) (m : DungeonManager) :
    (sweepLoop now grace lifetime entries (sweep, m)).1 =
      { removedParticipants := sweep.removedParticipants ++ entries.flatMap fun e =>
          (sweepDungeon now grace lifetime e.2).1.map fun sessionId => { dungeonId := e.1, sessionId }
        releasedDungeons := sweep.releasedDungeons ++
          (entries.filter fun e => !keptBySweep now grace lifetime e.2).map (·.1) } := by
  induction entries generalizing sweep m with
  | nil => simp [sweepLoop]
  | cons e rest ih =>
    obtain ⟨x, y⟩ := e
    by_cases hk : keptBySweep now grace lifetime y
    · simp [sweepLoop, hk, ih]
    · simp only [Bool.not_eq_true] at hk
      simp [sweepLoop, hk, ih]

end Sweep

/-- What one sweep with positive limits does: it treats every dungeon by itself, and takes
a dropped dungeon out of both indices. -/
structure SweepEffect (now grace lifetime : Int) (m : DungeonManager)
    (out : DungeonAbandonmentSweep × DungeonManager) : Prop where
  dungeons : ∀ d : DungeonId, out.2.dungeons[d]? = (m.dungeons[d]?).bind (swept now grace lifetime)
  dropped : ∀ (d : DungeonId) (dungeon : DungeonInstance), m.dungeons[d]? = some dungeon →
    swept now grace lifetime dungeon = none → out.2.partyDungeons[dungeon.partyId]? = none
  parties : ∀ party : PartyId, (∀ (d : DungeonId) (dungeon : DungeonInstance), m.dungeons[d]? = some dungeon →
      dungeon.partyId = party → swept now grace lifetime dungeon ≠ none) →
    out.2.partyDungeons[party]? = m.partyDungeons[party]?
  authenticatedPlayers : out.2.authenticatedPlayers = m.authenticatedPlayers
  activePlayerSessions : out.2.activePlayerSessions = m.activePlayerSessions
  nextDungeonId : out.2.nextDungeonId = m.nextDungeonId
  stopping : out.2.stopping = m.stopping
  removed : ∀ (d : DungeonId) (s : SessionId), ⟨d, s⟩ ∈ out.1.removedParticipants ↔
    ∃ dungeon, m.dungeons[d]? = some dungeon ∧ s ∈ (sweepDungeon now grace lifetime dungeon).1
  released : ∀ d : DungeonId, d ∈ out.1.releasedDungeons ↔
    ∃ dungeon, m.dungeons[d]? = some dungeon ∧ swept now grace lifetime dungeon = none

theorem swept_eq_none {now grace lifetime : Int} {d : DungeonInstance} :
    swept now grace lifetime d = none ↔ ¬ keptBySweep now grace lifetime d := by
  unfold swept
  split <;> simp_all

theorem sweep_effect {grace lifetime : Int} (hg : 0 < grace) (hl : 0 < lifetime) (now : Int)
    (m : DungeonManager) :
    SweepEffect now grace lifetime m (m.sweepAbandonedParticipants now grace lifetime) := by
  have hn : ¬ (grace ≤ 0 ∨ lifetime ≤ 0) := by omega
  rw [sweepAbandonedParticipants, if_neg hn]
  have hmem : ∀ (d : DungeonId) (dungeon : DungeonInstance),
      (d, dungeon) ∈ m.dungeons.toList ↔ m.dungeons[d]? = some dungeon := by
    intro d dungeon
    exact ExtTreeMap.mem_toList_iff_getElem?_eq_some
  obtain ⟨hauth, hact, hnext, hstop⟩ := sweepLoop_frame now grace lifetime m.dungeons.toList {} m
  refine ⟨?_, ?_, ?_, hauth, hact, hnext, hstop, ?_, ?_⟩
  · intro d
    obtain ⟨h1, h2⟩ := sweepLoop_dungeons now grace lifetime _ (nodup_map_fst_toList m.dungeons) {} m d
    cases hd : m.dungeons[d]? with
    | none =>
      rw [h2, hd]
      · rfl
      · rw [ExtTreeMap.map_fst_toList_eq_keys, ExtTreeMap.mem_keys]
        grind
    | some dungeon => exact h1 dungeon ((hmem d dungeon).mpr hd)
  · intro d dungeon hd hs
    exact (sweepLoop_partyDungeons now grace lifetime _ {} m _).1
      ⟨(d, dungeon), (hmem d dungeon).mpr hd, swept_eq_none.mp hs, rfl⟩
  · intro party hp
    refine (sweepLoop_partyDungeons now grace lifetime _ {} m party).2 ?_
    rintro ⟨d, dungeon⟩ he hparty
    have := hp d dungeon ((hmem d dungeon).mp he) hparty
    rw [Ne, swept_eq_none, not_not] at this
    exact this
  · intro d s
    rw [sweepLoop_report]
    simp only [List.nil_append, List.mem_flatMap, List.mem_map, Prod.exists]
    constructor
    · rintro ⟨x, y, he, s', hs, heq⟩
      cases heq
      exact ⟨y, (hmem _ _).mp he, hs⟩
    · rintro ⟨dungeon, hd, hs⟩
      exact ⟨d, dungeon, (hmem _ _).mpr hd, s, hs, rfl⟩
  · intro d
    rw [sweepLoop_report]
    simp only [List.nil_append, List.mem_map, List.mem_filter, Prod.exists, exists_and_right,
      exists_eq_right, hmem, swept_eq_none, Bool.not_eq_true, Bool.not_eq_eq_eq_not, Bool.not_true]

/-- A sweep without positive limits does nothing. -/
theorem sweep_idle {grace lifetime : Int} (h : ¬ (0 < grace ∧ 0 < lifetime)) (now : Int)
    (m : DungeonManager) : m.sweepAbandonedParticipants now grace lifetime = ({}, m) := by
  rw [sweepAbandonedParticipants, if_pos (by omega)]

/-- The part of a dungeon that a sweep keeps. -/
theorem swept_some {now grace lifetime : Int} (hg : 0 < grace) {d d' : DungeonInstance}
    (hc : Consistent d) (h : swept now grace lifetime d = some d') :
    d' = without (expiredSessions now grace d) d ∧
      (sweepDungeon now grace lifetime d).1 = expiredSessions now grace d ∧
      lifetimeExpired now lifetime d = false ∧ d'.participants ≠ [] := by
  unfold swept at h
  split at h
  · rename_i hk
    cases h
    simp only [keptBySweep, Bool.and_eq_true, Bool.not_eq_eq_eq_not, Bool.not_true] at hk
    have he : sweepDungeon now grace lifetime d =
        (expiredSessions now grace d, without (expiredSessions now grace d) d) := by
      rw [sweepDungeon, if_neg (by simp [hk.1]), removeExpired_eq hc now hg]
    refine ⟨by rw [he], by rw [he], hk.1, ?_⟩
    intro hnil
    simp [hnil] at hk
  · cases h

theorem SweepEffect.kept {now grace lifetime : Int} {m : DungeonManager}
    {out : DungeonAbandonmentSweep × DungeonManager} (h : SweepEffect now grace lifetime m out)
    (hall : AllConsistent m.dungeons) (hg : 0 < grace) {d : DungeonId} {dungeon' : DungeonInstance}
    (hd : out.2.dungeons[d]? = some dungeon') :
    ∃ dungeon, m.dungeons[d]? = some dungeon ∧ swept now grace lifetime dungeon = some dungeon' ∧
      dungeon' = without (expiredSessions now grace dungeon) dungeon := by
  rw [h.dungeons d, Option.bind_eq_some_iff] at hd
  obtain ⟨dungeon, hd, hs⟩ := hd
  exact ⟨dungeon, hd, hs, (swept_some hg (hall d dungeon hd) hs).1⟩

end DnfServer.Manager
