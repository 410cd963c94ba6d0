import DnfServer.Manager.Indices
import DnfServer.Participants.TakeBack

/-!
# Undoing a reconnect

Two runs of the same calls, one after a reconnect of player `p` from session `s` to
session `new` in dungeon `d` and one without it. As long as the calls concern others and
leave the slot where it is, the first run differs from the second by `afterReconnect`
alone, so that rolling the reconnect back at the end gives the state of the second.
-/

namespace DnfServer.Manager

open Std DnfServer.Library DnfServer.Participants DungeonManager
set_option autoImplicit false

section

variable (d : DungeonId) (p s new : Nat) (t : Int)

/-- What the run with the reconnect has in the place of dungeon `e`. -/
def seen (e : DungeonId) (dungeon : DungeonInstance) : DungeonInstance :=
  if e = d then takeBack p s new dungeon else dungeon

def takeBackIn (dungeons : IdMap DungeonInstance) : IdMap DungeonInstance :=
  match dungeons[d]? with
  | some dungeon => dungeons.insert d (takeBack p s new dungeon)
  | none => dungeons

/-- The whole effect of the registration. -/
def afterReconnect (m : DungeonManager) : DungeonManager :=
  { m with
    dungeons := takeBackIn d p s new m.dungeons
    authenticatedPlayers := m.authenticatedPlayers.insert new p
    activePlayerSessions := m.activePlayerSessions.insert p new }

/-- The slot in dungeon `d`, if the dungeon is live, waits for its player. -/
def VacantIn (dungeons : IdMap DungeonInstance) : Prop :=
  ∀ dungeon, dungeons[d]? = some dungeon → Vacant p s new t dungeon

/-! ## The map of dungeons -/

theorem getElem_takeBackIn (dungeons : IdMap DungeonInstance) (e : DungeonId) :
    (takeBackIn d p s new dungeons)[e]? = (dungeons[e]?).map (seen d p s new e) := by
  unfold takeBackIn seen
  cases hd : dungeons[d]? with
  | none =>
    by_cases he : e = d
    · subst he
      simp [hd]
    · simp [he]
  | some dungeon =>
    by_cases he : e = d
    · subst he
      simp [hd]
    · simp only [he, ↓reduceIte, Option.map_id_fun', id_eq]
      grind

theorem mem_takeBackIn (dungeons : IdMap DungeonInstance) (e : DungeonId) :
    e ∈ takeBackIn d p s new dungeons ↔ e ∈ dungeons := by
  have h := getElem_takeBackIn d p s new dungeons e
  constructor
  · intro he
    rw [ExtTreeMap.getElem?_eq_some_getElem he] at h
    cases hd : dungeons[e]? with
    | none => simp [hd] at h
    | some x => grind
  · intro he
    rw [ExtTreeMap.getElem?_eq_some_getElem he] at h
    grind

theorem takeBackIn_insert (dungeons : IdMap DungeonInstance) (e : DungeonId)
    (dungeon : DungeonInstance) :
    takeBackIn d p s new (dungeons.insert e dungeon) =
      (takeBackIn d p s new dungeons).insert e (seen d p s new e dungeon) := by
  ext k v
  rw [getElem_takeBackIn]
  have := getElem_takeBackIn d p s new dungeons k
  by_cases hk : e = k
  · subst hk
    simp
  · grind

theorem takeBackIn_insertIfNew (dungeons : IdMap DungeonInstance) {e : DungeonId} (he : e ≠ d)
    (dungeon : DungeonInstance) :
    takeBackIn d p s new (dungeons.insertIfNew e dungeon) =
      (takeBackIn d p s new dungeons).insertIfNew e dungeon := by
  ext k v
  rw [getElem_takeBackIn]
  have := getElem_takeBackIn d p s new dungeons k
  have hm := mem_takeBackIn d p s new dungeons e
  have hseen : seen d p s new e dungeon = dungeon := by simp [seen, he]
  by_cases hk : e = k
  · subst hk
    grind
  · grind

theorem takeBackIn_erase (dungeons : IdMap DungeonInstance) (e : DungeonId) :
    takeBackIn d p s new (dungeons.erase e) = (takeBackIn d p s new dungeons).erase e := by
  ext k v
  rw [getElem_takeBackIn]
  have := getElem_takeBackIn d p s new dungeons k
  by_cases hk : e = k
  · subst hk
    simp
  · grind

theorem iterationOrder_takeBackIn (dungeons : IdMap DungeonInstance) (order : List DungeonId) :
    IterationOrder (takeBackIn d p s new dungeons) order ↔ IterationOrder dungeons order := by
  have hkeys : (takeBackIn d p s new dungeons).keys.Perm dungeons.keys := by
    rw [List.perm_ext_iff_of_nodup ExtTreeMap.nodup_keys ExtTreeMap.nodup_keys]
    intro e
    rw [ExtTreeMap.mem_keys, ExtTreeMap.mem_keys, mem_takeBackIn]
  exact ⟨fun h => h.trans hkeys, fun h => h.trans hkeys.symm⟩

end

variable {d : DungeonId} {p s new : Nat} {t : Int}

/-! ## One dungeon -/

section Seen

variable {e : DungeonId} {dungeon : DungeonInstance} {x q : Nat}

theorem seen_ne (he : e ≠ d) : seen d p s new e = id := by
  funext dungeon
  simp [seen, he]

@[simp] theorem seen_state (e : DungeonId) (dungeon : DungeonInstance) :
    (seen d p s new e dungeon).state = dungeon.state := by
  unfold seen takeBack
  split
  · split <;> rfl
  · rfl

@[simp] theorem seen_partyId (e : DungeonId) (dungeon : DungeonInstance) :
    (seen d p s new e dungeon).partyId = dungeon.partyId := by
  unfold seen takeBack
  split
  · split <;> rfl
  · rfl

theorem hasParticipant_seen (hv : e = d → Vacant p s new t dungeon) (hx : x ≠ s) (hx' : x ≠ new) :
    (seen d p s new e dungeon).hasParticipant x = dungeon.hasParticipant x := by
  unfold seen
  split
  · rename_i he
    have := (hv he).mem_players hx hx'
    simp only [DungeonInstance.hasParticipant]
    rw [Bool.eq_iff_iff, ExtTreeMap.contains_iff_mem, ExtTreeMap.contains_iff_mem]
    exact this
  · rfl

theorem bind_seen (hv : e = d → Vacant p s new t dungeon) (hx : x ≠ s) (hx' : x ≠ new)
    (hq : q ≠ p) :
    (seen d p s new e dungeon).bindParticipantPlayer x q =
        ((dungeon.bindParticipantPlayer x q).1,
          seen d p s new e (dungeon.bindParticipantPlayer x q).2) ∧
      (e = d → Vacant p s new t (dungeon.bindParticipantPlayer x q).2) := by
  unfold seen
  split
  · rename_i he
    obtain ⟨h1, h2⟩ := (hv he).bind hx hx' hq
    exact ⟨h1, fun _ => h2⟩
  · exact ⟨rfl, fun he => absurd he ‹_›⟩

theorem disconnect_seen (hv : e = d → Vacant p s new t dungeon) (hx : x ≠ s) (hx' : x ≠ new)
    (at' : Int) :
    (seen d p s new e dungeon).disconnectParticipant x at' =
        ((dungeon.disconnectParticipant x at').1,
          seen d p s new e (dungeon.disconnectParticipant x at').2) ∧
      (e = d → Vacant p s new t (dungeon.disconnectParticipant x at').2) := by
  unfold seen
  split
  · rename_i he
    obtain ⟨h1, h2⟩ := (hv he).disconnect hx hx' at'
    exact ⟨h1, fun _ => h2⟩
  · exact ⟨rfl, fun he => absurd he ‹_›⟩

theorem reconnect_seen (hv : e = d → Vacant p s new t dungeon) (hx : x ≠ s) (hx' : x ≠ new)
    (hq : q ≠ p) (now grace : Int) :
    (seen d p s new e dungeon).reconnectParticipant q x now grace =
        ((dungeon.reconnectParticipant q x now grace).1,
          seen d p s new e (dungeon.reconnectParticipant q x now grace).2) ∧
      (e = d → Vacant p s new t (dungeon.reconnectParticipant q x now grace).2) := by
  unfold seen
  split
  · rename_i he
    obtain ⟨h1, h2⟩ := (hv he).reconnect hx hx' hq now grace
    exact ⟨h1, fun _ => h2⟩
  · exact ⟨rfl, fun he => absurd he ‹_›⟩

theorem rollback_seen (hv : e = d → Vacant p s new t dungeon) (hq : q ≠ p) {y : Nat} (hy : y ≠ s)
    (hy' : y ≠ new) (at' : Int)
    (hn : dungeon.playerSessions[q]? = some x → x ∉ dungeon.disconnectedSince) :
    (seen d p s new e dungeon).rollbackParticipantReconnect q x ⟨y, at'⟩ =
        ((dungeon.rollbackParticipantReconnect q x ⟨y, at'⟩).1,
          seen d p s new e (dungeon.rollbackParticipantReconnect q x ⟨y, at'⟩).2) ∧
      (e = d → Vacant p s new t (dungeon.rollbackParticipantReconnect q x ⟨y, at'⟩).2) := by
  unfold seen
  split
  · rename_i he
    obtain ⟨h1, h2⟩ := (hv he).rollback hq hy hy' at' hn
    exact ⟨h1, fun _ => h2⟩
  · exact ⟨rfl, fun he => absurd he ‹_›⟩

end Seen

theorem VacantIn.insert {dungeons : IdMap DungeonInstance} (h : VacantIn d p s new t dungeons)
    {e : DungeonId} {dungeon : DungeonInstance} (he : e = d → Vacant p s new t dungeon) :
    VacantIn d p s new t (dungeons.insert e dungeon) := by
  intro x hx
  have := h x
  grind

theorem VacantIn.at {dungeons : IdMap DungeonInstance} (h : VacantIn d p s new t dungeons)
    {e : DungeonId} {dungeon : DungeonInstance} (hd : dungeons[e]? = some dungeon) :
    e = d → Vacant p s new t dungeon := by
  rintro rfl
  exact h dungeon hd

/-! ## Registrations of others -/

section Register

variable {m : DungeonManager} {x q : Nat}

theorem firstWithParticipant_after (hv : VacantIn d p s new t m.dungeons) (hx : x ≠ s)
    (hx' : x ≠ new) (order : List DungeonId) :
    (afterReconnect d p s new m).firstWithParticipant x order =
      (m.firstWithParticipant x order).map fun found => (found.1, seen d p s new found.1 found.2) := by
  unfold firstWithParticipant
  induction order with
  | nil => rfl
  | cons e rest ih =>
    simp only [List.findSome?_cons]
    rw [ih]
    simp only [afterReconnect, getElem_takeBackIn]
    cases hd : m.dungeons[e]? with
    | none => rfl
    | some dungeon =>
      simp only [Option.map_some, Option.bind_some, hasParticipant_seen (hv.at hd) hx hx']
      cases dungeon.hasParticipant x <;> rfl

theorem reconnectLoop_after {dungeons : IdMap DungeonInstance}
    (hv : VacantIn d p s new t dungeons) (hx : x ≠ s) (hx' : x ≠ new) (hq : q ≠ p)
    (now grace : Int) (order : List DungeonId) :
    reconnectLoop x q now grace order (takeBackIn d p s new dungeons) =
        ((reconnectLoop x q now grace order dungeons).1,
          takeBackIn d p s new (reconnectLoop x q now grace order dungeons).2) ∧
      VacantIn d p s new t (reconnectLoop x q now grace order dungeons).2 := by
  induction order generalizing dungeons with
  | nil => exact ⟨rfl, hv⟩
  | cons e rest ih =>
    simp only [reconnectLoop, getElem_takeBackIn]
    cases hd : dungeons[e]? with
    | none => exact ih hv
    | some dungeon =>
      simp only [Option.map_some, seen_state]
      by_cases hf : dungeon.state = .finished
      · simp only [hf, ↓reduceIte]
        exact ih hv
      · obtain ⟨hr, hvac⟩ := reconnect_seen (hv.at hd) hx hx' hq now grace
        simp only [hf, ↓reduceIte, hr]
        cases hres : dungeon.reconnectParticipant q x now grace with
        | mk found dungeon' =>
          rw [hres] at hvac
          cases found with
          | none =>
            simp only
            rw [← takeBackIn_insert]
            exact ih (hv.insert hvac)
          | some reconnect =>
            simp only [takeBackIn_insert]
            exact ⟨trivial, hv.insert hvac⟩

theorem join_after (hv : VacantIn d p s new t m.dungeons) (hall : AllConsistent m.dungeons)
    (hmark : ∀ (e : DungeonId) (dungeon : DungeonInstance), m.dungeons[e]? = some dungeon →
      new ∉ dungeon.disconnectedSince)
    (hx : x ≠ s) (hx' : x ≠ new) (hq : q ≠ p) (now grace : Int) (order : List DungeonId) :
    (afterReconnect d p s new m).joinDungeon x q now grace order =
        ((m.joinDungeon x q now grace order).1,
          afterReconnect d p s new (m.joinDungeon x q now grace order).2) ∧
      VacantIn d p s new t (m.joinDungeon x q now grace order).2.dungeons := by
  unfold joinDungeon
  rw [firstWithParticipant_after hv hx hx']
  cases hf : m.firstWithParticipant x order with
  | some found =>
    obtain ⟨e, dungeon⟩ := found
    have hd := (firstWithParticipant_some hf).1
    obtain ⟨hb, hvac⟩ := bind_seen (hv.at hd) hx hx' hq
    simp only [Option.map_some, hb]
    cases hres : dungeon.bindParticipantPlayer x q with
    | mk accepted dungeon' =>
      rw [hres] at hvac
      cases accepted with
      | false =>
        simp only [afterReconnect, takeBackIn_insert, Prod.mk.injEq, true_and]
        refine ⟨?_, hv.insert hvac⟩
        congr 1
        · ext k v
          grind
        · ext k v
          grind
      | true =>
        simp only [afterReconnect, takeBackIn_insert, true_and]
        exact hv.insert hvac
  | none =>
    obtain ⟨hl, hvac⟩ := reconnectLoop_after hv hx hx' hq now grace order
    simp only [Option.map_none]
    rw [show (afterReconnect d p s new m).dungeons = takeBackIn d p s new m.dungeons from rfl, hl]
    rcases reconnectLoop_cases hall x q now grace order with
      ⟨-, he⟩ | ⟨e, dungeon, old, at', player, hd, -, hr, -, he⟩
    · rw [he] at hvac ⊢
      exact ⟨rfl, hvac⟩
    · rw [he] at hvac ⊢
      have hold : old ≠ new := by
        rintro rfl
        have := hmark e dungeon hd
        have := hr.since
        grind
      refine ⟨?_, hvac⟩
      simp only [afterReconnect, Prod.mk.injEq, true_and]
      congr 1
      ext k v
      grind

theorem register_after (hv : VacantIn d p s new t m.dungeons) (hall : AllConsistent m.dungeons)
    (hmark : ∀ (e : DungeonId) (dungeon : DungeonInstance), m.dungeons[e]? = some dungeon →
      new ∉ dungeon.disconnectedSince)
    (hx : x ≠ s) (hx' : x ≠ new) (hq : q ≠ p) (now grace : Int) (order : List DungeonId) :
    (afterReconnect d p s new m).registerPlayerSession x q now grace order =
        ((m.registerPlayerSession x q now grace order).1,
          afterReconnect d p s new (m.registerPlayerSession x q now grace order).2) ∧
      VacantIn d p s new t (m.registerPlayerSession x q now grace order).2.dungeons := by
  have hadm : Admitted (afterReconnect d p s new m) x q grace ↔ Admitted m x q grace := by
    have hauth : (afterReconnect d p s new m).authenticatedPlayers[x]? =
        m.authenticatedPlayers[x]? := by
      simp only [afterReconnect]
      grind
    have hact : (afterReconnect d p s new m).activePlayerSessions[q]? =
        m.activePlayerSessions[q]? := by
      simp only [afterReconnect]
      grind
    constructor
    · rintro ⟨h1, h2, h3, h4, h5, h6⟩
      exact ⟨h1, h2, h3, h4, by rwa [hauth] at h5, by rwa [hact] at h6⟩
    · rintro ⟨h1, h2, h3, h4, h5, h6⟩
      exact ⟨h1, h2, h3, h4, by rwa [hauth], by rwa [hact]⟩
  by_cases ha : Admitted m x q grace
  · rw [register_admitted ha, register_admitted (hadm.mpr ha)]
    have hsign : signIn x q (afterReconnect d p s new m) = afterReconnect d p s new (signIn x q m) := by
      simp only [signIn, afterReconnect]
      congr 1
      · ext k v
        grind
      · ext k v
        grind
    rw [hsign]
    exact join_after (m := signIn x q m) hv hall hmark hx hx' hq now grace order
  · rw [register_refused ha, register_refused (fun h => ha (hadm.mp h))]
    exact ⟨rfl, hv⟩

end Register

/-! ## The other operations -/

section Others

variable {m : DungeonManager} {x q : Nat}

theorem disconnect_after (hv : VacantIn d p s new t m.dungeons)
    (hinv : Inverse m.authenticatedPlayers m.activePlayerSessions)
    (hp : p ∉ m.activePlayerSessions) (hx : x ≠ s) (hx' : x ≠ new) (at' : Int)
    (order : List DungeonId) :
    (afterReconnect d p s new m).disconnectPlayerSession x at' order =
        ((m.disconnectPlayerSession x at' order).1,
          afterReconnect d p s new (m.disconnectPlayerSession x at' order).2) ∧
      VacantIn d p s new t (m.disconnectPlayerSession x at' order).2.dungeons := by
  have hforget : (afterReconnect d p s new m).forgetSession x =
      afterReconnect d p s new (m.forgetSession x) := by
    have hauth : (afterReconnect d p s new m).authenticatedPlayers[x]? =
        m.authenticatedPlayers[x]? := by
      simp only [afterReconnect]
      grind
    unfold forgetSession
    rw [hauth]
    cases hq : m.authenticatedPlayers[x]? with
    | none => rfl
    | some q =>
      have hact := (hinv x q).mp hq
      have hqp : p ≠ q := by
        rintro rfl
        grind
      have hact' : (m.activePlayerSessions.insert p new)[q]? = some x := by grind
      simp only [afterReconnect, hact, hact', ↓reduceIte]
      congr 1
      · ext k v
        grind
      · ext k v
        grind
  unfold disconnectPlayerSession
  split
  · exact ⟨rfl, hv⟩
  · have hv' : VacantIn d p s new t (m.forgetSession x).dungeons := by
      rwa [forgetSession_dungeons]
    simp only [hforget]
    rw [firstWithParticipant_after hv' hx hx']
    cases hf : (m.forgetSession x).firstWithParticipant x order with
    | none => exact ⟨rfl, hv'⟩
    | some found =>
      obtain ⟨e, dungeon⟩ := found
      obtain ⟨hd, hvac⟩ := disconnect_seen (hv'.at (firstWithParticipant_some hf).1) hx hx' at'
      simp only [Option.map_some, hd]
      refine ⟨?_, hv'.insert hvac⟩
      simp only [afterReconnect, takeBackIn_insert]

theorem rollback_after (hv : VacantIn d p s new t m.dungeons) (hx' : x ≠ new) (hq : q ≠ p) {y : Nat}
    (hy : y ≠ s) (hy' : y ≠ new) (e : DungeonId) (at' : Int)
    (hn : ∀ dungeon, m.dungeons[e]? = some dungeon → x ∉ dungeon.disconnectedSince) :
    (afterReconnect d p s new m).rollbackPlayerReconnect e q x y at' =
        ((m.rollbackPlayerReconnect e q x y at').1,
          afterReconnect d p s new (m.rollbackPlayerReconnect e q x y at').2) ∧
      VacantIn d p s new t (m.rollbackPlayerReconnect e q x y at').2.dungeons := by
  unfold rollbackPlayerReconnect
  rw [show (afterReconnect d p s new m).dungeons = takeBackIn d p s new m.dungeons from rfl,
    getElem_takeBackIn]
  cases hd : m.dungeons[e]? with
  | none => exact ⟨rfl, hv⟩
  | some dungeon =>
    obtain ⟨hr, hvac⟩ := rollback_seen (hv.at hd) hq hy hy' at' (fun _ => hn dungeon hd)
    simp only [Option.map_some, hr]
    cases hres : dungeon.rollbackParticipantReconnect q x ⟨y, at'⟩ with
    | mk done dungeon' =>
      rw [hres] at hvac
      cases done with
      | false =>
        simp only [afterReconnect, takeBackIn_insert]
        exact ⟨trivial, hv.insert hvac⟩
      | true =>
        refine ⟨?_, hv.insert hvac⟩
        have hact : (m.activePlayerSessions.insert p new)[q]? = m.activePlayerSessions[q]? := by grind
        simp only [afterReconnect, takeBackIn_insert, hact, Prod.mk.injEq, true_and]
        congr 1
        · ext k v
          grind
        · split
          · ext k v
            grind
          · rfl

theorem bindMembers_congr {auth auth' : IdMap PlayerId} {members : List SessionId}
    (h : ∀ x ∈ members, auth'[x]? = auth[x]?) (dungeon : DungeonInstance) :
    bindMembers auth' members dungeon = bindMembers auth members dungeon := by
  induction members generalizing dungeon with
  | nil => rfl
  | cons x rest ih =>
    have hrest := ih fun y hy => h y (List.mem_cons_of_mem _ hy)
    simp only [bindMembers, List.foldl_cons, h x List.mem_cons_self] at hrest ⊢
    exact hrest _

theorem insert_after (hv : VacantIn d p s new t m.dungeons) (hnext : m.nextDungeonId ≠ d)
    {party : PartyInfo} (hm : new ∉ party.members) (partyId : PartyId) (template : DungeonTemplate)
    (now : Int) :
    (afterReconnect d p s new m).insertDungeon partyId party template now =
        ((m.insertDungeon partyId party template now).1,
          afterReconnect d p s new (m.insertDungeon partyId party template now).2) ∧
      VacantIn d p s new t (m.insertDungeon partyId party template now).2.dungeons := by
  have hauth : ∀ x ∈ party.members,
      (afterReconnect d p s new m).authenticatedPlayers[x]? = m.authenticatedPlayers[x]? := by
    intro x hx
    simp only [afterReconnect]
    grind
  unfold insertDungeon
  rw [show (afterReconnect d p s new m).stopping = m.stopping from rfl,
    show (afterReconnect d p s new m).partyDungeons = m.partyDungeons from rfl,
    show (afterReconnect d p s new m).nextDungeonId = m.nextDungeonId from rfl]
  split
  · exact ⟨rfl, hv⟩
  · split
    · exact ⟨rfl, hv⟩
    · cases hn : DungeonInstance.new m.nextDungeonId template partyId party.members now with
      | error failure => simpa only [hn] using ⟨rfl, hv⟩
      | ok built =>
        simp only [hn, bindMembers_congr hauth]
        refine ⟨?_, ?_⟩
        · simp only [afterReconnect, takeBackIn_insertIfNew d p s new _ hnext]
        · intro dungeon hd
          exact hv dungeon (by grind)

theorem create_after (hv : VacantIn d p s new t m.dungeons) (hnext : m.nextDungeonId ≠ d)
    {parties : PartyManager} {partyId : PartyId}
    (hm : ∀ party, parties.getParty partyId = some party → new ∉ party.members)
    (catalog : DungeonCatalog) (templateId : DungeonTemplateId) (now : Int) :
    (afterReconnect d p s new m).createDungeon parties catalog partyId templateId now =
        ((m.createDungeon parties catalog partyId templateId now).1,
          afterReconnect d p s new (m.createDungeon parties catalog partyId templateId now).2) ∧
      VacantIn d p s new t (m.createDungeon parties catalog partyId templateId now).2.dungeons := by
  unfold createDungeon
  rw [show (afterReconnect d p s new m).stopping = m.stopping from rfl]
  split
  · exact ⟨rfl, hv⟩
  · cases hparty : parties.getParty partyId with
    | none => exact ⟨rfl, hv⟩
    | some party =>
      cases catalog.getDungeon templateId with
      | none => exact ⟨rfl, hv⟩
      | some template => exact insert_after hv hnext (hm party hparty) partyId template now

theorem start_takeBack (catalog : EnemyCatalog) (dungeon : DungeonInstance) :
    (takeBack p s new dungeon).start catalog =
      ((dungeon.start catalog).1, takeBack p s new (dungeon.start catalog).2) := by
  cases hp : dungeon.players[s]? with
  | none =>
    obtain ⟨state, rooms, he, -⟩ := start_frame catalog dungeon
    simp only [he, takeBack, hp]
    rw [← he]
  | some player =>
    simp only [takeBack, hp, DungeonInstance.start, moved]
    split
    · simp only [hp]
    · cases hrooms : dungeon.dungeonTemplate.rooms with
      | nil => simp only [hp]
      | cons firstRoom rest =>
        cases hroom : dungeon.rooms[firstRoom.id]? with
        | none => simp only [hroom, hp]
        | some room =>
          cases hw : room.startNextWave catalog with
          | mk result room' => cases result <;> simp only [hroom, hw, hp]

theorem start_after (hv : VacantIn d p s new t m.dungeons) (catalog : EnemyCatalog)
    (e : DungeonId) :
    (afterReconnect d p s new m).startDungeon catalog e =
        ((m.startDungeon catalog e).1, afterReconnect d p s new (m.startDungeon catalog e).2) ∧
      VacantIn d p s new t (m.startDungeon catalog e).2.dungeons := by
  unfold startDungeon
  rw [show (afterReconnect d p s new m).dungeons = takeBackIn d p s new m.dungeons from rfl,
    getElem_takeBackIn]
  cases hd : m.dungeons[e]? with
  | none => exact ⟨rfl, hv⟩
  | some dungeon =>
    have hseen : (seen d p s new e dungeon).start catalog =
        ((dungeon.start catalog).1, seen d p s new e (dungeon.start catalog).2) := by
      unfold seen
      split
      · exact start_takeBack catalog dungeon
      · rfl
    simp only [Option.map_some, hseen]
    refine ⟨?_, ?_⟩
    · simp only [afterReconnect, takeBackIn_insert]
    · apply hv.insert
      intro he
      obtain ⟨state, rooms, hs, -⟩ := start_frame catalog dungeon
      rw [hs]
      exact (hv.at hd he).with_rooms state rooms

theorem remove_after (e : DungeonId) (dungeon : DungeonInstance) :
    (afterReconnect d p s new m).removeDungeon e (seen d p s new e dungeon) =
      afterReconnect d p s new (m.removeDungeon e dungeon) := by
  simp only [removeDungeon, afterReconnect, seen_partyId, takeBackIn_erase]

theorem VacantIn.remove (hv : VacantIn d p s new t m.dungeons) (e : DungeonId)
    (dungeon : DungeonInstance) : VacantIn d p s new t (m.removeDungeon e dungeon).dungeons := by
  intro x hx
  refine hv x ?_
  simp only [removeDungeon] at hx
  grind

theorem cancel_after (hv : VacantIn d p s new t m.dungeons) (e : DungeonId) :
    (afterReconnect d p s new m).cancelDungeon e =
        ((m.cancelDungeon e).1, afterReconnect d p s new (m.cancelDungeon e).2) ∧
      VacantIn d p s new t (m.cancelDungeon e).2.dungeons := by
  unfold cancelDungeon
  rw [show (afterReconnect d p s new m).dungeons = takeBackIn d p s new m.dungeons from rfl,
    getElem_takeBackIn]
  cases hd : m.dungeons[e]? with
  | none => exact ⟨rfl, hv⟩
  | some dungeon =>
    simp only [Option.map_some, seen_state]
    split
    · exact ⟨rfl, hv⟩
    · exact ⟨by rw [remove_after], hv.remove e dungeon⟩

theorem finish_takeBack (dungeon : DungeonInstance) :
    (takeBack p s new dungeon).finish =
      (dungeon.finish.1, takeBack p s new dungeon.finish.2) := by
  cases hp : dungeon.players[s]? with
  | none =>
    simp only [takeBack, hp, DungeonInstance.finish]
    split <;> simp only [hp]
  | some player =>
    simp only [takeBack, hp, DungeonInstance.finish, moved]
    split <;> simp only [hp]

theorem finishCleared_after (hv : VacantIn d p s new t m.dungeons) (e : DungeonId) :
    finishCleared e (afterReconnect d p s new m) = afterReconnect d p s new (finishCleared e m) ∧
      VacantIn d p s new t (finishCleared e m).dungeons := by
  unfold finishCleared
  rw [show (afterReconnect d p s new m).dungeons = takeBackIn d p s new m.dungeons from rfl,
    getElem_takeBackIn]
  cases hd : m.dungeons[e]? with
  | none => exact ⟨rfl, hv⟩
  | some dungeon =>
    have hseen : (seen d p s new e dungeon).finish.2 = seen d p s new e dungeon.finish.2 := by
      unfold seen
      split
      · rw [finish_takeBack]
      · rfl
    simp only [Option.map_some, hseen]
    refine ⟨?_, ?_⟩
    · simp only [afterReconnect, takeBackIn_insert]
    · apply hv.insert
      intro he
      unfold DungeonInstance.finish
      split
      · exact hv.at hd he
      · exact (hv.at hd he).with_rooms .finished dungeon.rooms

theorem finish_after (hv : VacantIn d p s new t m.dungeons) (e : DungeonId) :
    (afterReconnect d p s new m).finishDungeon e =
        ((m.finishDungeon e).1, afterReconnect d p s new (m.finishDungeon e).2) ∧
      VacantIn d p s new t (m.finishDungeon e).2.dungeons := by
  have hd' : (afterReconnect d p s new m).dungeons[e]? = (m.dungeons[e]?).map (seen d p s new e) :=
    getElem_takeBackIn d p s new m.dungeons e
  cases hd : m.dungeons[e]? with
  | none =>
    rw [hd] at hd'
    simp only [finishDungeon, hd, hd', Option.map_none]
    exact ⟨trivial, hv⟩
  | some dungeon =>
    rw [hd] at hd'
    rw [finish_eq hd, finish_eq hd', seen_state]
    split
    · exact ⟨rfl, hv⟩
    · exact ⟨by rw [remove_after], hv.remove e dungeon⟩

end Others

/-! ## The sweep -/

theorem without_congr {sessions sessions' : List SessionId}
    (h : ∀ x, x ∈ sessions ↔ x ∈ sessions') (dungeon : DungeonInstance) :
    without sessions dungeon = without sessions' dungeon := by
  simp only [without, h]

/-- A sweep that leaves the slot where it is. -/
theorem swept_takeBack {now grace lifetime : Int} (hg : 0 < grace)
    {dungeon dungeon' : DungeonInstance} (hv : Vacant p s new t dungeon)
    (hs : swept now grace lifetime dungeon = some dungeon')
    (hslot : dungeon'.playerSessions[p]? = some s) :
    swept now grace lifetime (takeBack p s new dungeon) = some (takeBack p s new dungeon') ∧
      Vacant p s new t dungeon' := by
  obtain ⟨he, -, hlife, hne⟩ := swept_some hg hv.consistent hs
  have hsE : s ∉ expiredSessions now grace dungeon := by
    rw [he] at hslot
    simp only [without] at hslot
    grind
  have hnE : new ∉ expiredSessions now grace dungeon := by
    intro hm
    obtain ⟨at', hat, -⟩ := mem_expiredSessions.mp hm
    exact hv.fresh (hv.consistent.disconnected new (by grind))
  obtain ⟨hcomm, hvac⟩ := hv.without_takeBack hsE hnE
  rw [← he] at hcomm hvac
  have hexp : ∀ x, x ∈ expiredSessions now grace (takeBack p s new dungeon) ↔
      x ∈ expiredSessions now grace dungeon := by
    intro x
    have hx : x = s → x ∉ expiredSessions now grace dungeon := by
      rintro rfl
      exact hsE
    rw [mem_expiredSessions] at hx ⊢
    rw [mem_expiredSessions, hv.disconnectedSince_takeBack]
    grind
  obtain ⟨player, -, -, htb⟩ := hv.slot
  have hlife' : lifetimeExpired now lifetime (takeBack p s new dungeon) = false := by
    rw [htb]
    exact hlife
  have hsweep : sweepDungeon now grace lifetime (takeBack p s new dungeon) =
      (expiredSessions now grace (takeBack p s new dungeon), takeBack p s new dungeon') := by
    rw [sweepDungeon, if_neg (by simp [hlife']), removeExpired_eq hv.takeBack_consistent now hg,
      without_congr hexp, hcomm]
  have hparts : (takeBack p s new dungeon').participants ≠ [] := by
    obtain ⟨player', -, -, htb'⟩ := hvac.slot
    rw [htb', ← List.length_pos_iff, moved_participants_length, List.length_pos_iff]
    exact hne
  have hkept : keptBySweep now grace lifetime (takeBack p s new dungeon) = true := by
    rw [keptBySweep, hlife', hsweep]
    simp [hparts]
  refine ⟨?_, hvac⟩
  rw [swept, if_pos hkept, hsweep]

theorem sweep_after {m : DungeonManager} {issued : List DungeonId}
    (hv : VacantIn d p s new t m.dungeons) (hi : DungeonIndex m issued)
    (hi' : DungeonIndex (afterReconnect d p s new m) issued) {now grace lifetime : Int}
    {dungeon' : DungeonInstance}
    (hlive : (m.sweepAbandonedParticipants now grace lifetime).2.dungeons[d]? = some dungeon')
    (hslot : dungeon'.playerSessions[p]? = some s) :
    ((afterReconnect d p s new m).sweepAbandonedParticipants now grace lifetime).2 =
        afterReconnect d p s new (m.sweepAbandonedParticipants now grace lifetime).2 ∧
      VacantIn d p s new t (m.sweepAbandonedParticipants now grace lifetime).2.dungeons := by
  by_cases hpos : 0 < grace ∧ 0 < lifetime
  · have heff := sweep_effect hpos.1 hpos.2 now m
    have heff' := sweep_effect hpos.1 hpos.2 now (afterReconnect d p s new m)
    obtain ⟨dungeon, hd, hs, -⟩ := heff.kept hi.consistent hpos.1 hlive
    obtain ⟨hswept, hvac⟩ := swept_takeBack hpos.1 (hv dungeon hd) hs hslot
    have hdungeons : ∀ e : DungeonId,
        ((afterReconnect d p s new m).sweepAbandonedParticipants now grace lifetime).2.dungeons[e]? =
          ((m.sweepAbandonedParticipants now grace lifetime).2.dungeons[e]?).map
            (seen d p s new e) := by
      intro e
      rw [heff'.dungeons e, heff.dungeons e]
      simp only [afterReconnect, getElem_takeBackIn]
      by_cases he : e = d
      · subst he
        simp only [hd, Option.map_some, Option.bind_some, hs, seen, ↓reduceIte, hswept]
      · simp only [seen_ne he, Option.map_id, id_eq]
    refine ⟨?_, ?_⟩
    · have hd1 : ((afterReconnect d p s new m).sweepAbandonedParticipants now grace lifetime).2.dungeons =
          takeBackIn d p s new (m.sweepAbandonedParticipants now grace lifetime).2.dungeons := by
        ext e v
        rw [hdungeons e, getElem_takeBackIn]
      have hp1 : ((afterReconnect d p s new m).sweepAbandonedParticipants now grace lifetime).2.partyDungeons =
          (m.sweepAbandonedParticipants now grace lifetime).2.partyDungeons := by
        -- both indices are determined by the dungeons, and these have the same parties
        ext party e
        rw [(hi'.sweep now grace lifetime).parties party e, (hi.sweep now grace lifetime).parties party e,
          hdungeons e]
        simp only [Option.map_eq_some_iff]
        constructor
        · rintro ⟨x, ⟨y, hy, rfl⟩, hx⟩
          exact ⟨y, hy, by simpa using hx⟩
        · rintro ⟨y, hy, hparty⟩
          exact ⟨_, ⟨y, hy, rfl⟩, by simpa using hparty⟩
      unfold afterReconnect at heff' hd1 hp1 ⊢
      rw [DungeonManager.mk.injEq]
      refine ⟨?_, hd1, hp1, ?_, ?_, ?_⟩
      · rw [heff'.nextDungeonId, heff.nextDungeonId]
      · rw [heff'.authenticatedPlayers, heff.authenticatedPlayers]
      · rw [heff'.activePlayerSessions, heff.activePlayerSessions]
      · rw [heff'.stopping, heff.stopping]
    · intro x hx
      rw [hlive] at hx
      cases hx
      exact hvac
  · rw [sweep_idle hpos, sweep_idle hpos]
    exact ⟨rfl, hv⟩

/-! ## Two runs side by side -/

section Runs

variable (d p s new t)

/-- The call names neither the player nor one of the two sessions. -/
def ConcernsOthers : Call → Prop
  | .createDungeon parties _ partyId _ _ =>
      ∀ party, parties.getParty partyId = some party → new ∉ party.members
  | .registerPlayerSession x q _ _ _ => x ≠ s ∧ x ≠ new ∧ q ≠ p
  | .rollbackPlayerReconnect x reconnect => x ≠ s ∧ x ≠ new ∧ reconnect.playerId ≠ p ∧
      reconnect.replacedSessionId ≠ s ∧ reconnect.replacedSessionId ≠ new
  | .disconnectPlayerSession x _ _ => x ≠ s ∧ x ≠ new
  | _ => True

/-- The slot of the player is there, on session `s`. -/
def SlotKept (h : History) : Prop :=
  ∃ dungeon, h.manager.dungeons[d]? = some dungeon ∧ dungeon.playerSessions[p]? = some s

/-- The call concerns others and removes neither the slot nor the dungeon. -/
def Elsewhere (h : History) (call : Call) : Prop :=
  ConcernsOthers p s new call ∧ ∀ h', h.next call = some h' → SlotKept d p s h'

instance (call : Call) : Decidable (ConcernsOthers p s new call) := by
  cases call <;> dsimp only [ConcernsOthers] <;> infer_instance

instance (h : History) : Decidable (SlotKept d p s h) :=
  inferInstanceAs (Decidable (∃ dungeon : DungeonInstance,
    h.manager.dungeons[d]? = some dungeon ∧ dungeon.playerSessions[p]? = some s))

instance (h : History) (call : Call) : Decidable (Elsewhere d p s new h call) :=
  inferInstanceAs (Decidable (_ ∧ ∀ h', h.next call = some h' → SlotKept d p s h'))

/-- The run with the reconnect, `h'`, next to the run without it, `h`. -/
structure Mirror (h h' : History) : Prop where
  without : Indexed h
  after : Indexed h'
  kept : SlotKept d p s h
  vacant : VacantIn d p s new t h.manager.dungeons
  unknown : new ∉ h.manager.authenticatedPlayers
  opened : new ∉ h.closed
  manager : h'.manager = afterReconnect d p s new h.manager
  closed : h'.closed = h.closed
  issued : h'.issued = h.issued
  reconnects : ∀ x, x ≠ new → h'.reconnects[x]? = h.reconnects[x]?

end Runs

namespace Mirror

variable {h h' k k' : History}

/-- The player is inactive in the run without the reconnect. -/
theorem inactive (hm : Mirror d p s new t h h') : p ∉ h.manager.activePlayerSessions := by
  intro hp
  have hg := ExtTreeMap.getElem?_eq_some_getElem hp
  have hauth := (hm.without.inverse _ p).mpr hg
  have hne : h.manager.activePlayerSessions[p] ≠ new := by
    have := hm.unknown
    grind
  have hinv := hm.after.inverse h.manager.activePlayerSessions[p] p
  rw [hm.manager] at hinv
  simp only [afterReconnect] at hinv
  grind

theorem unmarked (hm : Mirror d p s new t h h') (e : DungeonId) (dungeon : DungeonInstance)
    (hd : h.manager.dungeons[e]? = some dungeon) : new ∉ dungeon.disconnectedSince :=
  fun hmem => hm.opened (hm.without.marked e dungeon hd new hmem)

theorem next_ne (hm : Mirror d p s new t h h') : h.manager.nextDungeonId ≠ d := by
  obtain ⟨dungeon, hd, -⟩ := hm.kept
  exact Nat.ne_of_gt (hm.without.index.below d (hm.without.index.live d (by grind)))

theorem unknown_register (hm : Mirror d p s new t h h') {x q : Nat} (hx : x ≠ new)
    {order : List DungeonId} (ho : IterationOrder h.manager.dungeons order) (now grace : Int) :
    new ∉ (h.manager.registerPlayerSession x q now grace order).2.authenticatedPlayers := by
  have hu := hm.unknown
  cases register_outcome hm.without.index.consistent ho x q now grace with
  | refused ha he => rwa [he]
  | unbound ha e dungeon hd hs hb he =>
    rw [he]
    grind
  | bound ha e dungeon hd hs hb he =>
    rw [he]
    simp only [signIn]
    grind
  | newcomer ha hnone hr he =>
    rw [he]
    simp only [signIn]
    grind
  | back ha hnone e dungeon old at' player hd hf hr hp he =>
    rw [he]
    simp only [reconnected, signIn]
    grind

/-- No call of others makes the new session known in the run without the reconnect. -/
theorem unknown_next {call : Call} (hm : Mirror d p s new t h h')
    (hothers : ConcernsOthers p s new call) (hn : h.next call = some k) :
    new ∉ k.manager.authenticatedPlayers := by
  have hu := hm.unknown
  cases call with
  | createDungeon parties catalog partyId templateId now =>
    obtain rfl := Option.some.inj hn
    rcases create_cases h.manager parties catalog partyId templateId now with
      ⟨status, -, he⟩ | ⟨party, template, -, -, he⟩
    · rwa [he]
    · rw [he]
      rcases insert_cases h.manager partyId party template now with
        ⟨status, -, he⟩ | ⟨failure, he⟩ | ⟨built, dungeon, -, -, -, he⟩ <;>
      rwa [he]
  | registerPlayerSession x q now grace order =>
    simp only [History.next] at hn
    split at hn
    · rename_i hopen
      obtain rfl := Option.some.inj hn
      exact hm.unknown_register hothers.2.1 hopen.2 now grace
    · cases hn
  | rollbackPlayerReconnect x reconnect =>
    obtain ⟨e, q, y, at'⟩ := reconnect
    simp only [History.next] at hn
    split at hn
    · obtain rfl := Option.some.inj hn
      rcases rollbackPlayer_cases hm.without.index.consistent e q x y at' with
        ⟨-, he⟩ | ⟨dungeon, player, -, -, -, he⟩
      · rwa [he]
      · rw [he]
        grind
    · cases hn
  | disconnectPlayerSession x at' order =>
    simp only [History.next] at hn
    split at hn
    · rename_i ho
      obtain rfl := Option.some.inj hn
      have hf := (hm.without.forget x).2.1
      rcases disconnectPlayer_cases ho x at' with ⟨-, he⟩ | ⟨-, -, he⟩ | ⟨-, e, dungeon, -, -, he⟩
      · rwa [he]
      · rw [he, hf]
        grind
      · rw [he]
        simp only [hf]
        grind
    · cases hn
  | sweepAbandonedParticipants now grace lifetime =>
    obtain rfl := Option.some.inj hn
    by_cases hpos : 0 < grace ∧ 0 < lifetime
    · rwa [(sweep_effect hpos.1 hpos.2 now h.manager).authenticatedPlayers]
    · rwa [sweep_idle hpos]
  | startDungeon catalog e =>
    obtain rfl := Option.some.inj hn
    rcases startDungeon_cases catalog e h.manager with he | ⟨dungeon, state, rooms, -, -, he⟩ <;>
    rwa [he]
  | cancelDungeon e =>
    obtain rfl := Option.some.inj hn
    rcases cancel_cases h.manager e with he | ⟨dungeon, -, -, he⟩ <;>
    rwa [he]
  | finishCleared e =>
    obtain rfl := Option.some.inj hn
    rcases finishCleared_cases e h.manager with he | ⟨dungeon, -, -, he⟩ <;>
    rwa [he]
  | finishDungeon e =>
    obtain rfl := Option.some.inj hn
    rcases finish_cases h.manager e with he | ⟨dungeon, -, -, he⟩ <;>
    rwa [he]
  | stop =>
    obtain rfl := Option.some.inj hn
    simp only [DungeonManager.stop]
    split
    · exact hu
    · simp

/-- One call in both runs. -/
theorem next {call : Call} (hm : Mirror d p s new t h h') (he : Elsewhere d p s new h call)
    (hn : h.next call = some k) : ∃ k', h'.next call = some k' ∧ Mirror d p s new t k k' := by
  obtain ⟨hothers, hkept⟩ := he
  have hk := hm.without.next hn
  have hslot := hkept k hn
  have hret := hm.reconnects
  -- it is enough to give the next state of the second run and to compare the managers
  suffices hsuff : ∃ k', h'.next call = some k' ∧ k'.manager = afterReconnect d p s new k.manager ∧
      VacantIn d p s new t k.manager.dungeons ∧ new ∉ k.closed ∧ k'.closed = k.closed ∧
      k'.issued = k.issued ∧ ∀ x, x ≠ new → k'.reconnects[x]? = k.reconnects[x]? by
    obtain ⟨k', hn', h1, h2, h3, h4, h5, h6⟩ := hsuff
    exact ⟨k', hn', hk, hm.after.next hn', hslot, h2, hm.unknown_next hothers hn, h3, h1, h4, h5, h6⟩
  cases call with
  | createDungeon parties catalog partyId templateId now =>
    obtain ⟨hc, hv⟩ := create_after hm.vacant hm.next_ne hothers catalog templateId now
    obtain rfl := Option.some.inj hn
    refine ⟨_, rfl, ?_, hv, hm.opened, hm.closed, ?_, hret⟩
    · simp only [hm.manager, hc]
    · simp only [hm.manager, hc, hm.issued]
  | registerPlayerSession x q now grace order =>
    simp only [History.next] at hn
    split at hn
    · rename_i hopen
      obtain rfl := Option.some.inj hn
      obtain ⟨hr, hv⟩ := register_after hm.vacant hm.without.index.consistent hm.unmarked
        hothers.1 hothers.2.1 hothers.2.2 now grace order
      have hopen' : x ∉ h'.closed ∧ IterationOrder h'.manager.dungeons order := by
        rw [hm.closed, hm.manager]
        exact ⟨hopen.1, (iterationOrder_takeBackIn d p s new _ order).mpr hopen.2⟩
      refine ⟨_, if_pos hopen', ?_, hv, hm.opened, hm.closed, hm.issued, ?_⟩
      · simp only [hm.manager, hr]
      · intro y hy
        have := hret y hy
        simp only [hm.manager, hr]
        cases reconnectOf q (h.manager.registerPlayerSession x q now grace order).1 <;> grind
    · cases hn
  | rollbackPlayerReconnect x reconnect =>
    obtain ⟨e, q, y, at'⟩ := reconnect
    obtain ⟨hx, hx', hq, hy, hy'⟩ := hothers
    simp only [History.next] at hn
    split at hn
    · rename_i hrec
      obtain rfl := Option.some.inj hn
      have hunmarked : ∀ dungeon, h.manager.dungeons[e]? = some dungeon →
          x ∉ dungeon.disconnectedSince := fun dungeon hd hmem =>
        (hm.without.opened x _ hrec).1 (hm.without.marked e dungeon hd x hmem)
      obtain ⟨hr, hv⟩ := rollback_after hm.vacant hx' hq hy hy' e at' hunmarked
      have hrec' : h'.reconnects[x]? = some ⟨e, q, y, at'⟩ := by
        rw [hret x hx']
        exact hrec
      refine ⟨_, if_pos hrec', ?_, hv, hm.opened, hm.closed, hm.issued, ?_⟩
      · simp only [hm.manager, hr]
      · intro z hz
        have := hret z hz
        grind
    · cases hn
  | disconnectPlayerSession x at' order =>
    simp only [History.next] at hn
    split at hn
    · rename_i ho
      obtain rfl := Option.some.inj hn
      obtain ⟨hd, hv⟩ := disconnect_after hm.vacant hm.without.inverse hm.inactive hothers.1
        hothers.2 at' order
      have ho' : IterationOrder h'.manager.dungeons order := by
        rw [hm.manager]
        exact (iterationOrder_takeBackIn d p s new _ order).mpr ho
      refine ⟨_, if_pos ho', ?_, hv, ?_, ?_, hm.issued, ?_⟩
      · simp only [hm.manager, hd]
      · have := hm.opened
        have := hothers.2
        simp only [List.mem_cons]
        grind
      · rw [hm.closed]
      · intro z hz
        have := hret z hz
        grind
    · cases hn
  | sweepAbandonedParticipants now grace lifetime =>
    obtain rfl := Option.some.inj hn
    obtain ⟨dungeon', hlive, hbound⟩ := hslot
    have hindex : DungeonIndex (afterReconnect d p s new h.manager) h.issued := by
      have := hm.after.index
      rwa [hm.manager, hm.issued] at this
    obtain ⟨hs, hv⟩ := sweep_after hm.vacant hm.without.index hindex hlive hbound
    refine ⟨_, rfl, ?_, hv, hm.opened, hm.closed, hm.issued, hret⟩
    simp only [hm.manager, hs]
  | startDungeon catalog e =>
    obtain rfl := Option.some.inj hn
    obtain ⟨hs, hv⟩ := start_after hm.vacant catalog e
    refine ⟨_, rfl, ?_, hv, hm.opened, hm.closed, hm.issued, hret⟩
    simp only [hm.manager, hs]
  | cancelDungeon e =>
    obtain rfl := Option.some.inj hn
    obtain ⟨hc, hv⟩ := cancel_after hm.vacant e
    refine ⟨_, rfl, ?_, hv, hm.opened, hm.closed, hm.issued, hret⟩
    simp only [hm.manager, hc]
  | finishCleared e =>
    obtain rfl := Option.some.inj hn
    obtain ⟨hc, hv⟩ := finishCleared_after hm.vacant e
    refine ⟨_, rfl, ?_, hv, hm.opened, hm.closed, hm.issued, hret⟩
    simp only [hm.manager, hc]
  | finishDungeon e =>
    obtain rfl := Option.some.inj hn
    obtain ⟨hc, hv⟩ := finish_after hm.vacant e
    refine ⟨_, rfl, ?_, hv, hm.opened, hm.closed, hm.issued, hret⟩
    simp only [hm.manager, hc]
  | stop =>
    -- a stop removes every dungeon, so it does not keep the slot
    exfalso
    obtain rfl := Option.some.inj hn
    obtain ⟨dungeon, hd, -⟩ := hslot
    unfold DungeonManager.stop at hd
    split at hd
    · rename_i hstop
      rw [hm.without.index.stopped hstop d] at hd
      cases hd
    · simp at hd

theorem run {calls : List Call} (hm : Mirror d p s new t h h')
    (he : Meets History.next (Elsewhere d p s new) h calls)
    (hr : Library.run History.next h calls = some k) :
    ∃ k', Library.run History.next h' calls = some k' ∧ Mirror d p s new t k k' := by
  induction calls generalizing h h' with
  | nil =>
    obtain rfl := Option.some.inj hr
    exact ⟨h', rfl, hm⟩
  | cons call rest ih =>
    obtain ⟨j, hj, hr⟩ := run_cons.mp hr
    obtain ⟨j', hj', hm'⟩ := hm.next he.1 hj
    obtain ⟨k', hk', hm''⟩ := ih hm' (he.2 j hj) hr
    exact ⟨k', run_cons.mpr ⟨j', hj', hk'⟩, hm''⟩

/-- The rollback gives the state of the run without the reconnect. -/
theorem rollback (hm : Mirror d p s new t h h') :
    h'.manager.rollbackPlayerReconnect d p new s t = (true, h.manager) := by
  obtain ⟨dungeon, hd, -⟩ := hm.kept
  have hv := hm.vacant dungeon hd
  have hu := hm.unknown
  have hp := hm.inactive
  rw [hm.manager]
  simp only [rollbackPlayerReconnect, afterReconnect, getElem_takeBackIn, hd, Option.map_some, seen,
    ↓reduceIte, hv.rollback_takeBack, ExtTreeMap.getElem?_insert_self]
  have hdungeons : (takeBackIn d p s new h.manager.dungeons).insert d dungeon = h.manager.dungeons := by
    ext e v
    have := getElem_takeBackIn d p s new h.manager.dungeons e
    by_cases he : e = d
    · subst he
      simp [hd]
    · simp only [seen_ne he, Option.map_id, id_eq] at this
      grind
  have hauth : (h.manager.authenticatedPlayers.insert new p).erase new =
      h.manager.authenticatedPlayers := by
    ext e v
    grind
  have hact : (h.manager.activePlayerSessions.insert p new).erase p =
      h.manager.activePlayerSessions := by
    ext e v
    grind
  rw [hdungeons, hauth, hact]

/-- The two runs right after the registration. -/
theorem start (hi : Indexed h) {order : List DungeonId} {now grace : Int}
    (hreg : h.next (.registerPlayerSession new p now grace order) = some h')
    (hres : (h.manager.registerPlayerSession new p now grace order).1 =
      { status := .reconnected, dungeonId := d, replacedSessionId := s, disconnectedAt := some t })
    (hfirst : new ∉ h.manager.authenticatedPlayers) : Mirror d p s new t h h' := by
  have hi' := hi.next hreg
  simp only [History.next] at hreg
  split at hreg
  · rename_i hopen
    obtain rfl := Option.some.inj hreg
    cases register_outcome hi.index.consistent hopen.2 new p now grace with
    | refused ha he => simp [he] at hres
    | unbound ha e dungeon hd hs hb he => simp [he] at hres
    | bound ha e dungeon hd hs hb he => simp [he] at hres
    | newcomer ha hnone hr he => simp [he] at hres
    | back ha hnone e dungeon old at' player hd hf hr hp he =>
      rw [he] at hres
      simp only [RegisterDungeonSessionResult.mk.injEq, Option.some.injEq, true_and] at hres
      obtain ⟨rfl, rfl, rfl⟩ := hres
      have hclosed : old ∈ h.closed := hi.marked e dungeon hd old (by have := hr.since; grind)
      have hauth := hi.closed old hclosed
      have hne : old ≠ new := fun heq => hopen.1 (heq ▸ hclosed)
      have hvac : Vacant p old new at' dungeon :=
        ⟨hi.index.consistent e dungeon hd, hr.bound, hr.since, hr.fresh, ha.session, ha.player⟩
      refine ⟨hi, hi', ⟨dungeon, hd, hr.bound⟩, ?_, hfirst, hopen.1, ?_, rfl, rfl, ?_⟩
      · intro x hx
        rw [hd] at hx
        cases hx
        exact hvac
      · simp only [he, reconnected, signIn, afterReconnect, takeBackIn, hd, takeBack, hp]
        congr 1
        ext k v
        grind
      · intro x hx
        simp only [he, reconnectOf]
        grind
  · cases hreg

end Mirror

end DnfServer.Manager
