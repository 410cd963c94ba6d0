import DnfServer.Manager.Indices

/-!
# One dungeon for each session and each player

`CreateDungeon` rejects a second dungeon of the same party, but it never asks whether a
member already sits in a dungeon, and members change parties while a dungeon is live.
`splitParty` uses this to put one session into two live dungeons. `Exclusive` names the
condition on the two operations that add a session or a player to a dungeon under which
no run gets there.
-/

namespace DnfServer.Manager

open Std DnfServer.Library DnfServer.Participants DungeonManager
set_option autoImplicit false

structure World where
  parties : PartyManager := {}
  manager : DungeonManager := {}

inductive WorldCall where
  | createParty (leaderSessionId : SessionId)
  | joinParty (partyId : PartyId) (sessionId : SessionId)
  | leaveParty (sessionId : SessionId)
  | createDungeon (catalog : DungeonCatalog) (partyId : PartyId) (templateId : DungeonTemplateId)
      (now : Int)
  | registerPlayerSession (sessionId : SessionId) (playerId : PlayerId) (now reconnectGrace : Int)
      (order : List DungeonId)
  | disconnectPlayerSession (sessionId : SessionId) (disconnectedAt : Int) (order : List DungeonId)
  | sweepAbandonedParticipants (now reconnectGrace maxDungeonLifetime : Int)
  | cancelDungeon (dungeonId : DungeonId)
  | startDungeon (enemyCatalog : EnemyCatalog) (dungeonId : DungeonId)
  | finishCleared (dungeonId : DungeonId)
  | finishDungeon (dungeonId : DungeonId)

def World.next (w : World) : WorldCall → Option World
  | .createParty s => some { w with parties := (w.parties.createParty s).2 }
  | .joinParty party s => some { w with parties := (w.parties.joinParty party s).2 }
  | .leaveParty s => some { w with parties := (w.parties.leaveParty s).2 }
  | .createDungeon catalog party template now =>
    some { w with manager := (w.manager.createDungeon w.parties catalog party template now).2 }
  | .registerPlayerSession s p now grace order =>
    if IterationOrder w.manager.dungeons order then
      some { w with manager := (w.manager.registerPlayerSession s p now grace order).2 }
    else none
  | .disconnectPlayerSession s t order =>
    if IterationOrder w.manager.dungeons order then
      some { w with manager := (w.manager.disconnectPlayerSession s t order).2 }
    else none
  | .sweepAbandonedParticipants now grace lifetime =>
    some { w with manager := (w.manager.sweepAbandonedParticipants now grace lifetime).2 }
  | .cancelDungeon d => some { w with manager := (w.manager.cancelDungeon d).2 }
  | .startDungeon catalog d => some { w with manager := (w.manager.startDungeon catalog d).2 }
  | .finishCleared d => some { w with manager := finishCleared d w.manager }
  | .finishDungeon d => some { w with manager := (w.manager.finishDungeon d).2 }

/-- A session is a participant of one live dungeon at most, and a player is bound in one
live dungeon at most. -/
structure Unique (dungeons : IdMap DungeonInstance) : Prop where
  session : ∀ (d e : DungeonId) (dungeon other : DungeonInstance) (s : SessionId),
    dungeons[d]? = some dungeon → dungeons[e]? = some other →
    s ∈ dungeon.players → s ∈ other.players → d = e
  player : ∀ (d e : DungeonId) (dungeon other : DungeonInstance) (p : PlayerId),
    dungeons[d]? = some dungeon → dungeons[e]? = some other →
    p ∈ dungeon.playerSessions → p ∈ other.playerSessions → d = e

/-- The session is a participant of no live dungeon. -/
def Absent (dungeons : IdMap DungeonInstance) (s : SessionId) : Prop :=
  ∀ (d : DungeonId) (dungeon : DungeonInstance), dungeons[d]? = some dungeon → s ∉ dungeon.players

/-- The player is bound in no live dungeon. -/
def Unbound (dungeons : IdMap DungeonInstance) (p : PlayerId) : Prop :=
  ∀ (d : DungeonId) (dungeon : DungeonInstance), dungeons[d]? = some dungeon →
    p ∉ dungeon.playerSessions

/-- The condition on one call. A creation that goes through is for members none of whom is in a
live dungeon, under this session or as a player; and a session that is a participant already passes
the checks of a registration only for a player who is bound in no other dungeon. -/
def Exclusive (w : World) : WorldCall → Prop
  | .createDungeon catalog partyId templateId now =>
      ∀ party ∈ w.parties.getParty partyId, ∀ template ∈ catalog.getDungeon templateId,
      Inserts w.manager partyId party template now →
      ∀ s ∈ party.members, Absent w.manager.dungeons s ∧
        ∀ p : PlayerId, w.manager.authenticatedPlayers[s]? = some p → Unbound w.manager.dungeons p
  | .registerPlayerSession s p _ grace _ => Admitted w.manager s p grace →
      ∀ (d : DungeonId) (dungeon : DungeonInstance), w.manager.dungeons[d]? = some dungeon →
      ∀ (e : DungeonId) (other : DungeonInstance), w.manager.dungeons[e]? = some other →
      s ∈ dungeon.players → p ∈ other.playerSessions → d = e
  | _ => True

instance (dungeons : IdMap DungeonInstance) (s : SessionId) : Decidable (Absent dungeons s) :=
  inferInstanceAs (Decidable (∀ (d : DungeonId) (dungeon : DungeonInstance),
    dungeons[d]? = some dungeon → s ∉ dungeon.players))

instance (dungeons : IdMap DungeonInstance) (p : PlayerId) : Decidable (Unbound dungeons p) :=
  inferInstanceAs (Decidable (∀ (d : DungeonId) (dungeon : DungeonInstance),
    dungeons[d]? = some dungeon → p ∉ dungeon.playerSessions))

instance (w : World) (call : WorldCall) : Decidable (Exclusive w call) := by
  cases call <;> dsimp only [Exclusive] <;> infer_instance

/-! ## The operations that add nobody -/

/-- Every dungeon after the step was there before, with at least the same participants and
players. -/
def Shrinks (dungeons dungeons' : IdMap DungeonInstance) : Prop :=
  ∀ (d : DungeonId) (dungeon' : DungeonInstance), dungeons'[d]? = some dungeon' →
    ∃ dungeon, dungeons[d]? = some dungeon ∧
      (∀ s, s ∈ dungeon'.players → s ∈ dungeon.players) ∧
      ∀ p, p ∈ dungeon'.playerSessions → p ∈ dungeon.playerSessions

section

variable {dungeons dungeons' : IdMap DungeonInstance}

theorem shrinks_refl (dungeons : IdMap DungeonInstance) : Shrinks dungeons dungeons :=
  fun _ dungeon hd => ⟨dungeon, hd, fun _ h => h, fun _ h => h⟩

theorem shrinks_insert {d : DungeonId} {dungeon dungeon' : DungeonInstance}
    (hd : dungeons[d]? = some dungeon) (hs : ∀ s, s ∈ dungeon'.players → s ∈ dungeon.players)
    (hp : ∀ p, p ∈ dungeon'.playerSessions → p ∈ dungeon.playerSessions) :
    Shrinks dungeons (dungeons.insert d dungeon') := by
  intro x y hx
  by_cases hdx : d = x
  · subst hdx
    rw [ExtTreeMap.getElem?_insert_self] at hx
    cases hx
    exact ⟨dungeon, hd, hs, hp⟩
  · refine ⟨y, ?_, fun _ h => h, fun _ h => h⟩
    grind

theorem shrinks_erase (dungeons : IdMap DungeonInstance) (d : DungeonId) :
    Shrinks dungeons (dungeons.erase d) := by
  intro x y hx
  refine ⟨y, ?_, fun _ h => h, fun _ h => h⟩
  grind

theorem Unique.shrinks (h : Unique dungeons) (hs : Shrinks dungeons dungeons') :
    Unique dungeons' := by
  refine ⟨?_, ?_⟩
  · intro d e dungeon' other' s hd he h1 h2
    obtain ⟨dungeon, hd, hin, -⟩ := hs d dungeon' hd
    obtain ⟨other, he, hin', -⟩ := hs e other' he
    exact h.session d e dungeon other s hd he (hin s h1) (hin' s h2)
  · intro d e dungeon' other' p hd he h1 h2
    obtain ⟨dungeon, hd, -, hin⟩ := hs d dungeon' hd
    obtain ⟨other, he, -, hin'⟩ := hs e other' he
    exact h.player d e dungeon other p hd he (hin p h1) (hin' p h2)

end

variable {m : DungeonManager}

theorem disconnect_shrinks {order : List DungeonId} (ho : IterationOrder m.dungeons order)
    (s : SessionId) (t : Int) :
    Shrinks m.dungeons (m.disconnectPlayerSession s t order).2.dungeons := by
  rcases disconnectPlayer_cases ho s t with ⟨-, he⟩ | ⟨-, -, he⟩ | ⟨-, d, dungeon, hd, -, he⟩
  · rw [he]
    exact shrinks_refl _
  · rw [he, forgetSession_dungeons]
    exact shrinks_refl _
  · rw [he]
    exact shrinks_insert hd (fun _ h => h) fun _ h => h

theorem sweep_shrinks (hall : AllConsistent m.dungeons) (now grace lifetime : Int) :
    Shrinks m.dungeons (m.sweepAbandonedParticipants now grace lifetime).2.dungeons := by
  by_cases hpos : 0 < grace ∧ 0 < lifetime
  · intro d dungeon' hd'
    obtain ⟨dungeon, hd, -, rfl⟩ := (sweep_effect hpos.1 hpos.2 now m).kept hall hpos.1 hd'
    refine ⟨dungeon, hd, ?_, ?_⟩
    · intro s hs
      simp only [without] at hs
      grind
    · intro p hp
      simp only [without] at hp
      grind
  · rw [sweep_idle hpos]
    exact shrinks_refl _

theorem start_shrinks (catalog : EnemyCatalog) (d : DungeonId) :
    Shrinks m.dungeons (m.startDungeon catalog d).2.dungeons := by
  rcases startDungeon_cases catalog d m with he | ⟨dungeon, state, rooms, hd, -, he⟩
  · rw [he]
    exact shrinks_refl _
  · rw [he]
    exact shrinks_insert hd (fun _ h => h) fun _ h => h

theorem finishCleared_shrinks (d : DungeonId) :
    Shrinks m.dungeons (finishCleared d m).dungeons := by
  rcases finishCleared_cases d m with he | ⟨dungeon, hd, -, he⟩
  · rw [he]
    exact shrinks_refl _
  · rw [he]
    exact shrinks_insert hd (fun _ h => h) fun _ h => h

theorem cancel_shrinks (d : DungeonId) : Shrinks m.dungeons (m.cancelDungeon d).2.dungeons := by
  rcases cancel_cases m d with he | ⟨dungeon, -, -, he⟩
  · rw [he]
    exact shrinks_refl _
  · rw [he]
    exact shrinks_erase _ d

theorem finish_shrinks (d : DungeonId) : Shrinks m.dungeons (m.finishDungeon d).2.dungeons := by
  rcases finish_cases m d with he | ⟨dungeon, -, -, he⟩
  · rw [he]
    exact shrinks_refl _
  · rw [he]
    exact shrinks_erase _ d

/-! ## The two operations that add somebody -/

theorem unique_create (hu : Unique m.dungeons) {parties : PartyManager} {catalog : DungeonCatalog}
    {partyId : PartyId} {templateId : DungeonTemplateId} {now : Int}
    (hok : Exclusive ⟨parties, m⟩ (.createDungeon catalog partyId templateId now)) :
    Unique (m.createDungeon parties catalog partyId templateId now).2.dungeons := by
  rcases create_cases m parties catalog partyId templateId now with
    ⟨status, -, he⟩ | ⟨party, template, hparty, htemplate, he⟩
  · rw [he]
    exact hu
  · rw [he]
    rcases insert_cases m partyId party template now with
      ⟨status, -, he⟩ | ⟨failure, he⟩ | ⟨built, dungeon, hinserts, hnew, hb, he⟩
    · rw [he]
      exact hu
    · rw [he]
      exact hu
    · rw [he]
      have hmembers := hok party hparty template htemplate hinserts
      have hbinds : Binds m.authenticatedPlayers built dungeon := hb ▸ binds_bindMembers _ _
      obtain ⟨-, -, -, -, hsessions, -, -, -, -, -, hplayers, -⟩ := new_spec hnew
      -- whoever is in the new dungeon is a member, and whoever is bound there is a member's player
      have habsent : ∀ s, s ∈ dungeon.players → Absent m.dungeons s := by
        intro s hs
        rw [hbinds.players, hplayers s] at hs
        exact (hmembers s hs).1
      have hunbound : ∀ p, p ∈ dungeon.playerSessions → Unbound m.dungeons p := by
        intro p hp
        have hg := ExtTreeMap.getElem?_eq_some_getElem hp
        have hconsistent := hbinds.consistent (new_consistent hnew)
        have hs := (hconsistent.bound_session hg).1
        rw [hbinds.players, hplayers] at hs
        rcases hbinds.bindings p _ hg with h | h
        · rw [hsessions] at h
          simp at h
        · exact (hmembers _ hs).2 p h
      refine ⟨?_, ?_⟩
      · intro d e x y s hd he hs hs'
        have := hu.session d e x y s
        have h1 := habsent s
        simp only [Absent] at h1
        simp only at hd he
        grind
      · intro d e x y p hd he hs hs'
        have := hu.player d e x y p
        have h1 := hunbound p
        simp only [Unbound] at h1
        simp only at hd he
        grind

theorem unique_register (hu : Unique m.dungeons) (hall : AllConsistent m.dungeons)
    {parties : PartyManager} {s p : Nat} {now grace : Int} {order : List DungeonId}
    (ho : IterationOrder m.dungeons order)
    (hok : Exclusive ⟨parties, m⟩ (.registerPlayerSession s p now grace order)) :
    Unique (m.registerPlayerSession s p now grace order).2.dungeons := by
  cases register_outcome hall ho s p now grace with
  | refused ha he =>
    rw [he]
    exact hu
  | unbound ha d dungeon hd hs hb he =>
    rw [he]
    exact hu
  | bound ha d dungeon hd hs hb he =>
    rw [he]
    rcases bind_cases s p dungeon with he' | ⟨-, -, -, he'⟩
    · rw [he', insert_self hd]
      exact hu
    · rw [he']
      refine ⟨?_, ?_⟩
      · intro d1 d2 x y k h1 h2 hx hy
        have := hu.session d1 d2
        simp only at h1 h2
        grind
      · intro d1 d2 x y q h1 h2 hx hy
        have := hu.player d1 d2
        have := hok ha d dungeon hd d1 x
        have := hok ha d dungeon hd d2 y
        simp only at h1 h2
        grind
  | newcomer ha hnone hr he =>
    rw [he]
    exact hu
  | back ha hnone d dungeon old t player hd hf hr hp he =>
    rw [he]
    have hin : p ∈ dungeon.playerSessions := by have := hr.bound; grind
    simp only [reconnected]
    refine ⟨?_, ?_⟩
    · intro d1 d2 x y k h1 h2 hx hy
      have := hu.session d1 d2
      have := hnone d1 x
      have := hnone d2 y
      simp only [signIn] at h1 h2
      grind [moved]
    · intro d1 d2 x y q h1 h2 hx hy
      have := hu.player d1 d2
      simp only [signIn] at h1 h2
      grind [moved]

/-! ## Whole runs -/

/-- The invariant of a run that keeps the condition. -/
structure World.Good (w : World) : Prop where
  index : ∃ issued, DungeonIndex w.manager issued
  unique : Unique w.manager.dungeons

theorem World.good_next {w w' : World} {call : WorldCall} (hg : w.Good) (hok : Exclusive w call)
    (hn : w.next call = some w') : w'.Good := by
  obtain ⟨⟨issued, hi⟩, hu⟩ := hg
  cases call with
  | createParty s =>
    obtain rfl := Option.some.inj hn
    exact ⟨⟨issued, hi⟩, hu⟩
  | joinParty party s =>
    obtain rfl := Option.some.inj hn
    exact ⟨⟨issued, hi⟩, hu⟩
  | leaveParty s =>
    obtain rfl := Option.some.inj hn
    exact ⟨⟨issued, hi⟩, hu⟩
  | createDungeon catalog partyId templateId now =>
    obtain rfl := Option.some.inj hn
    refine ⟨?_, unique_create hu hok⟩
    rcases create_cases w.manager w.parties catalog partyId templateId now with
      ⟨status, -, he⟩ | ⟨party, template, -, -, he⟩
    · exact ⟨issued, by rwa [he]⟩
    · exact ⟨_, by rw [he]; exact hi.insertDungeon partyId party template now⟩
  | registerPlayerSession s p now grace order =>
    simp only [World.next] at hn
    split at hn
    · rename_i ho
      obtain rfl := Option.some.inj hn
      exact ⟨⟨issued, hi.register ho s p now grace⟩, unique_register hu hi.consistent ho hok⟩
    · cases hn
  | disconnectPlayerSession s t order =>
    simp only [World.next] at hn
    split at hn
    · rename_i ho
      obtain rfl := Option.some.inj hn
      exact ⟨⟨issued, hi.disconnect ho s t⟩, hu.shrinks (disconnect_shrinks ho s t)⟩
    · cases hn
  | sweepAbandonedParticipants now grace lifetime =>
    obtain rfl := Option.some.inj hn
    exact ⟨⟨issued, hi.sweep now grace lifetime⟩,
      hu.shrinks (sweep_shrinks hi.consistent now grace lifetime)⟩
  | cancelDungeon d =>
    obtain rfl := Option.some.inj hn
    exact ⟨⟨issued, hi.cancelDungeon d⟩, hu.shrinks (cancel_shrinks d)⟩
  | startDungeon catalog d =>
    obtain rfl := Option.some.inj hn
    exact ⟨⟨issued, hi.startDungeon catalog d⟩, hu.shrinks (start_shrinks catalog d)⟩
  | finishCleared d =>
    obtain rfl := Option.some.inj hn
    exact ⟨⟨issued, hi.finishCleared d⟩, hu.shrinks (finishCleared_shrinks d)⟩
  | finishDungeon d =>
    obtain rfl := Option.some.inj hn
    exact ⟨⟨issued, hi.finishDungeon d⟩, hu.shrinks (finish_shrinks d)⟩

theorem World.good_start : World.Good {} :=
  ⟨⟨[], Indexed.start.index⟩, by constructor <;> simp⟩

/-- Stopping at the first dungeon that knows the session marks it wherever it is listed. -/
theorem disconnect_marks_all (hu : Unique m.dungeons) (hall : AllConsistent m.dungeons)
    {order : List DungeonId} (ho : IterationOrder m.dungeons order) {s : SessionId} {t : Int}
    {d : DungeonId} {dungeon : DungeonInstance}
    (hd : (m.disconnectPlayerSession s t order).2.dungeons[d]? = some dungeon)
    (hs : s ∈ dungeon.players) : s ∈ dungeon.disconnectedSince := by
  rcases disconnectPlayer_cases ho s t with ⟨rfl, he⟩ | ⟨-, hnone, he⟩ | ⟨-, e, other, ho', hs', he⟩
  · rw [he] at hd
    exact absurd hs (hall d dungeon hd).nonzero
  · rw [he, forgetSession_dungeons] at hd
    exact absurd hs (hnone d dungeon hd)
  · rw [he] at hd
    by_cases hde : e = d
    · subst hde
      simp only [ExtTreeMap.getElem?_insert_self, Option.some.injEq] at hd
      subst hd
      simp only [marked]
      grind
    · have hd' : m.dungeons[d]? = some dungeon := by grind
      exact absurd (hu.session e d other dungeon s ho' hd' hs' hs) hde

theorem find_order_irrelevant (hu : Unique m.dungeons) {order order' : List DungeonId}
    (ho : IterationOrder m.dungeons order) (ho' : IterationOrder m.dungeons order')
    (s : SessionId) :
    m.findDungeonByParticipant s order = m.findDungeonByParticipant s order' := by
  unfold findDungeonByParticipant
  cases h : m.firstWithParticipant s order with
  | none =>
    cases h' : m.firstWithParticipant s order' with
    | none => rfl
    | some found =>
      obtain ⟨hd, hs⟩ := firstWithParticipant_some h'
      exact absurd hs (firstWithParticipant_none ho h hd)
  | some found =>
    obtain ⟨d, dungeon⟩ := found
    obtain ⟨hd, hs⟩ := firstWithParticipant_some h
    cases h' : m.firstWithParticipant s order' with
    | none => exact absurd hs (firstWithParticipant_none ho' h' hd)
    | some found' =>
      obtain ⟨e, other⟩ := found'
      obtain ⟨he, hs'⟩ := firstWithParticipant_some h'
      obtain rfl := hu.session d e dungeon other s hd he hs hs'
      rw [hd] at he
      exact he

/-- In every run whose calls meet the condition, every state has each session and each
player in one live dungeon at most. Then a disconnect marks the session in every dungeon
that lists it, and the lookup by participant does not depend on the iteration order. -/
theorem participant_unique {calls : List WorldCall} {w : World}
    (hm : Meets World.next Exclusive {} calls) (hr : run World.next {} calls = some w) :
    Unique w.manager.dungeons ∧
    (∀ (s : SessionId) (t : Int) (order : List DungeonId) (d : DungeonId)
      (dungeon : DungeonInstance), IterationOrder w.manager.dungeons order →
      (w.manager.disconnectPlayerSession s t order).2.dungeons[d]? = some dungeon →
      s ∈ dungeon.players → s ∈ dungeon.disconnectedSince) ∧
    ∀ (s : SessionId) (order order' : List DungeonId), IterationOrder w.manager.dungeons order →
      IterationOrder w.manager.dungeons order' →
      w.manager.findDungeonByParticipant s order = w.manager.findDungeonByParticipant s order' := by
  have hg := run_invariant World.Good (fun _ _ _ hg hok hn => World.good_next hg hok hn)
    World.good_start hm hr
  obtain ⟨issued, hi⟩ := hg.index
  refine ⟨hg.unique, ?_, ?_⟩
  · intro s t order d dungeon ho hd hs
    exact disconnect_marks_all hg.unique hi.consistent ho hd hs
  · intro s order order' ho ho'
    exact find_order_irrelevant hg.unique ho ho' s

/-- Session `101` leaves party `1` while its dungeon is live and founds party `2`. -/
def splitParty : List WorldCall :=
  [.createParty 100, .joinParty 1 101, .createDungeon oneDungeonCatalog 1 1 0, .leaveParty 101,
    .createParty 101, .createDungeon oneDungeonCatalog 2 1 1]

/-- Session `101` is a participant of both dungeons, and the lookup by participant depends
on the iteration order. -/
theorem participant_twice : ∃ w, run World.next {} splitParty = some w ∧
    ¬ Unique w.manager.dungeons ∧
    w.manager.findDungeonByParticipant 101 [1, 2] ≠ w.manager.findDungeonByParticipant 101 [2, 1] := by
  obtain ⟨w, hr⟩ : ∃ w, run World.next {} splitParty = some w :=
    Option.isSome_iff_exists.mp (by decide)
  have h1 : (w.manager.dungeons[1]?.any fun dungeon => dungeon.players.contains 101) = true := by
    cases hr
    decide
  have h2 : (w.manager.dungeons[2]?.any fun dungeon => dungeon.players.contains 101) = true := by
    cases hr
    decide
  have hfind : w.manager.findDungeonByParticipant 101 [1, 2] ≠
      w.manager.findDungeonByParticipant 101 [2, 1] := by
    cases hr
    decide
  refine ⟨w, hr, ?_, hfind⟩
  intro hu
  obtain ⟨x, hx, hx'⟩ := (Option.any_eq_true _ _).mp h1
  obtain ⟨y, hy, hy'⟩ := (Option.any_eq_true _ _).mp h2
  have h12 := hu.session 1 2 x y 101 hx hy (by simpa using hx') (by simpa using hy')
  cases h12

/-- The same two parties, the second dungeon created after the first is cancelled. -/
def splitPartyLater : List WorldCall :=
  [.createParty 100, .joinParty 1 101, .createDungeon oneDungeonCatalog 1 1 0, .leaveParty 101,
    .createParty 101, .cancelDungeon 1, .createDungeon oneDungeonCatalog 2 1 1]

theorem participant_unique_splitPartyLater :
    ∃ w, Meets World.next Exclusive {} splitPartyLater ∧
      run World.next {} splitPartyLater = some w ∧ Unique w.manager.dungeons := by
  obtain ⟨w, hr⟩ : ∃ w, run World.next {} splitPartyLater = some w :=
    Option.isSome_iff_exists.mp (by decide)
  have hm : Meets World.next Exclusive {} splitPartyLater := by decide
  exact ⟨w, hm, hr, (participant_unique hm hr).1⟩

end DnfServer.Manager
