import Mathlib.Data.List.Nodup
import DnfServer.Manager.Uniqueness

/-!
# The grace period and the sweep

A disconnected player can come back while the grace lasts, and the sweep removes the participants whose
grace has run out. The two tests are written apart, in `ReconnectParticipant` and in
`RemoveExpiredDisconnectedParticipants`; up to the lifetime of a dungeon they decide the same instant. What
the sweep does not remove it does not touch.
-/

namespace DnfServer.Manager

open Std DnfServer.Library DnfServer.Participants DungeonManager
set_option autoImplicit false

/-! ## Bound players -/

/-- No dungeon binds the player id zero. -/
def BoundNonzero (m : DungeonManager) : Prop :=
  ∀ (d : DungeonId) (dungeon : DungeonInstance), m.dungeons[d]? = some dungeon →
    0 ∉ dungeon.playerSessions

section

variable {m m' : DungeonManager} {h h' : History}

theorem BoundNonzero.shrinks (hb : BoundNonzero m) (hs : Shrinks m.dungeons m'.dungeons) :
    BoundNonzero m' := by
  intro d dungeon hd hzero
  obtain ⟨before, hbefore, -, hplayers⟩ := hs d dungeon hd
  exact hb d before hbefore (hplayers 0 hzero)

theorem BoundNonzero.same (hb : BoundNonzero m) (hd : m'.dungeons = m.dungeons) : BoundNonzero m' := by
  intro d dungeon hdungeon
  exact hb d dungeon (hd ▸ hdungeon)

theorem BoundNonzero.insert (hb : BoundNonzero m) {d : DungeonId} {dungeon : DungeonInstance}
    (hd : m'.dungeons = m.dungeons.insert d dungeon) (hdungeon : 0 ∉ dungeon.playerSessions) :
    BoundNonzero m' := by
  intro e other he
  rw [hd, ExtTreeMap.getElem?_insert] at he
  split at he
  · obtain rfl := Option.some.inj he
    exact hdungeon
  · exact hb e other he

theorem boundNonzero_create (hi : Indexed h) (hb : BoundNonzero h.manager) (parties : PartyManager)
    (catalog : DungeonCatalog) (partyId : PartyId) (templateId : DungeonTemplateId) (now : Int) :
    BoundNonzero (h.manager.createDungeon parties catalog partyId templateId now).2 := by
  rcases create_cases h.manager parties catalog partyId templateId now with
    ⟨status, -, he⟩ | ⟨party, template, -, -, he⟩
  · rw [he]
    exact hb
  · rw [he]
    rcases insert_cases h.manager partyId party template now with
      ⟨status, -, he⟩ | ⟨failure, he⟩ | ⟨built, dungeon, -, hnew, hbuilt, he⟩
    · rw [he]
      exact hb
    · rw [he]
      exact hb
    · rw [he]
      have hbinds : Binds h.manager.authenticatedPlayers built dungeon := hbuilt ▸ binds_bindMembers _ _
      obtain ⟨-, -, -, -, hsessions, -⟩ := new_spec hnew
      have hdungeon : 0 ∉ dungeon.playerSessions := by
        intro hzero
        -- a binding of the new dungeon comes from the identities, and those are not zero
        rcases hbinds.bindings 0 _ (ExtTreeMap.getElem?_eq_some_getElem hzero) with hold | hauth
        · rw [hsessions] at hold
          simp at hold
        · exact hi.nonzero.2 (ExtTreeMap.mem_iff_isSome_getElem?.mpr
            (Option.isSome_of_eq_some ((hi.inverse _ 0).mp hauth)))
      intro e other he'
      rw [ExtTreeMap.getElem?_insertIfNew] at he'
      split at he'
      · obtain rfl := Option.some.inj he'
        exact hdungeon
      · exact hb e other he'

theorem boundNonzero_register (hi : Indexed h) (hb : BoundNonzero h.manager) {order : List DungeonId}
    (ho : IterationOrder h.manager.dungeons order) (s p : Nat) (now grace : Int) :
    BoundNonzero (h.manager.registerPlayerSession s p now grace order).2 := by
  cases register_outcome hi.index.consistent ho s p now grace with
  | refused ha he =>
    rw [he]
    exact hb
  | unbound ha d dungeon hd hs hbind he =>
    rw [he]
    exact hb.same rfl
  | bound ha d dungeon hd hs hbind he =>
    rw [he]
    refine hb.insert rfl ?_
    have hplayer := ha.player
    have hold := hb d dungeon hd
    rcases bind_cases s p dungeon with heq | ⟨-, -, -, heq⟩
    · rw [heq]
      exact hold
    · rw [heq]
      exact fun hzero => (ExtTreeMap.mem_insert.mp hzero).elim
        (fun hp => hplayer (LawfulEqOrd.compare_eq_iff_eq.mp hp)) hold
  | newcomer ha hnone hr he =>
    rw [he]
    exact hb.same rfl
  | back ha hnone d dungeon old t player hd hf hr hp he =>
    rw [he]
    refine hb.insert rfl ?_
    exact fun hzero => (ExtTreeMap.mem_insert.mp hzero).elim
      (fun hp => hr.player (LawfulEqOrd.compare_eq_iff_eq.mp hp)) (hb d dungeon hd)

theorem boundNonzero_of_next (hi : Indexed h) (hb : BoundNonzero h.manager) {call : Call}
    (hn : h.next call = some h') : BoundNonzero h'.manager := by
  cases call with
  | createDungeon parties catalog partyId templateId now =>
    obtain rfl := Option.some.inj hn
    exact boundNonzero_create hi hb parties catalog partyId templateId now
  | registerPlayerSession s p now grace order =>
    obtain ⟨hguard, heq⟩ := Option.ite_none_right_eq_some.mp hn
    obtain rfl := Option.some.inj heq
    exact boundNonzero_register hi hb hguard.2 s p now grace
  | rollbackPlayerReconnect new reconnect =>
    obtain ⟨-, heq⟩ := Option.ite_none_right_eq_some.mp hn
    obtain rfl := Option.some.inj heq
    obtain ⟨d, p, old, t⟩ := reconnect
    rcases rollbackPlayer_cases hi.index.consistent d p new old t with
      ⟨-, he⟩ | ⟨dungeon, player, hd, hr, -, he⟩
    · exact hb.same (by rw [he])
    · refine hb.insert (by rw [he]) ?_
      exact fun hzero => (ExtTreeMap.mem_insert.mp hzero).elim
        (fun hp => hr.player (LawfulEqOrd.compare_eq_iff_eq.mp hp)) (hb d dungeon hd)
  | disconnectPlayerSession s t order =>
    obtain ⟨horder, heq⟩ := Option.ite_none_right_eq_some.mp hn
    obtain rfl := Option.some.inj heq
    exact hb.shrinks (disconnect_shrinks horder s t)
  | sweepAbandonedParticipants now grace lifetime =>
    obtain rfl := Option.some.inj hn
    exact hb.shrinks (sweep_shrinks hi.index.consistent now grace lifetime)
  | startDungeon catalog d =>
    obtain rfl := Option.some.inj hn
    exact hb.shrinks (start_shrinks catalog d)
  | cancelDungeon d =>
    obtain rfl := Option.some.inj hn
    exact hb.shrinks (cancel_shrinks d)
  | finishCleared d =>
    obtain rfl := Option.some.inj hn
    exact hb.shrinks (finishCleared_shrinks d)
  | finishDungeon d =>
    obtain rfl := Option.some.inj hn
    exact hb.shrinks (finish_shrinks d)
  | stop =>
    obtain rfl := Option.some.inj hn
    intro d dungeon hd
    simp only [DungeonManager.stop] at hd
    split at hd
    · exact hb d dungeon hd
    · simp at hd

theorem boundNonzero_of_run {calls : List Call} (hrun : run History.next {} calls = some h) :
    Indexed h ∧ BoundNonzero h.manager := by
  refine reachable_invariant (fun h => Indexed h ∧ BoundNonzero h.manager) ?_ ⟨Indexed.start, ?_⟩
    ⟨calls, hrun⟩
  · intro h call h' hinv hn
    exact ⟨hinv.1.next hn, boundNonzero_of_next hinv.1 hinv.2 hn⟩
  · intro d dungeon hd
    simp at hd

end

/-! ## One slot -/

section

variable {now grace lifetime t : Int} {d : DungeonInstance} {p s new : Nat}

theorem graceExpired_iff (hnow : t ≤ now) :
    DungeonInstance.graceExpired now grace t = true ↔ grace ≤ now - t := by
  unfold DungeonInstance.graceExpired
  simp only [Bool.not_eq_true', Bool.or_eq_false_iff, decide_eq_false_iff_not]
  omega

theorem lifetimeExpired_iff (hlifetime : 0 < lifetime) :
    lifetimeExpired now lifetime d = true ↔ lifetime ≤ now - d.createdAt := by
  unfold lifetimeExpired
  simp only [Bool.and_eq_true, decide_eq_true_eq]
  omega

/-- The slot of a disconnected player is given back exactly while the grace lasts. -/
theorem reconnect_iff (hplayer : p ≠ 0) (hnew : new ≠ 0) (hc : Consistent d) (hgrace : 0 < grace)
    (hbound : d.playerSessions[p]? = some s) (hsince : d.disconnectedSince[s]? = some t)
    (hfresh : new ∉ d.players) (hnow : t ≤ now) :
    (d.reconnectParticipant p new now grace).1 = some ⟨s, t⟩ ↔ now - t < grace := by
  rcases reconnect_cases hc p new now grace with ⟨hnone, heq⟩ | ⟨old, t', player, hr, -, heq⟩
  · rw [heq]
    refine iff_of_false (fun hsome => by cases hsome) ?_
    intro hwithin
    exact hnone s t ⟨hplayer, hnew, hgrace, hbound, hsince, hfresh, hnow, hwithin⟩
  · obtain rfl := Option.some.inj (hbound.symm.trans hr.bound)
    obtain rfl := Option.some.inj (hsince.symm.trans hr.since)
    rw [heq]
    exact iff_of_true rfl hr.within

/-- So does the manager, when the player is bound in this dungeon alone. -/
theorem register_reconnects_iff {m : DungeonManager} {order : List DungeonId} {id : DungeonId}
    (hall : AllConsistent m.dungeons) (ho : IterationOrder m.dungeons order)
    (honly : ∀ (e : DungeonId) (other : DungeonInstance), m.dungeons[e]? = some other →
      p ∈ other.playerSessions → e = id)
    (ha : Admitted m new p grace) (habsent : Absent m.dungeons new) (hd : m.dungeons[id]? = some d)
    (hstate : d.state ≠ .finished) (hbound : d.playerSessions[p]? = some s)
    (hsince : d.disconnectedSince[s]? = some t) (hnow : t ≤ now) :
    (m.registerPlayerSession new p now grace order).1 =
      { status := .reconnected, dungeonId := id, replacedSessionId := s, disconnectedAt := some t } ↔
      now - t < grace := by
  cases register_outcome hall ho new p now grace with
  | refused hrefused he => exact absurd ha hrefused
  | unbound _ e other he hs hb heq => exact absurd hs (habsent e other he)
  | bound _ e other he hs hb heq => exact absurd hs (habsent e other he)
  | newcomer _ hnone hr heq =>
    rw [heq]
    refine iff_of_false (fun hsame => by cases hsame) ?_
    intro hwithin
    exact hr id d s t hd hstate
      ⟨ha.player, ha.session, ha.grace_pos, hbound, hsince, habsent id d hd, hnow, hwithin⟩
  | back _ hnone e other old t' player he hf hr hp heq =>
    obtain rfl := honly e other he
      (ExtTreeMap.mem_iff_isSome_getElem?.mpr (Option.isSome_of_eq_some hr.bound))
    obtain rfl := Option.some.inj (hd.symm.trans he)
    obtain rfl := Option.some.inj (hbound.symm.trans hr.bound)
    obtain rfl := Option.some.inj (hsince.symm.trans hr.since)
    rw [heq]
    exact iff_of_true rfl hr.within

end

/-! ## One dungeon -/

section

variable {now grace lifetime : Int} {d : DungeonInstance}

theorem sweepDungeon_of_expired (hexpired : lifetimeExpired now lifetime d = true) :
    sweepDungeon now grace lifetime d = d.removeAllParticipants := by
  rw [sweepDungeon, if_pos hexpired]

theorem sweepDungeon_of_live (hc : Consistent d) (hgrace : 0 < grace)
    (hlive : lifetimeExpired now lifetime d = false) :
    sweepDungeon now grace lifetime d =
      (expiredSessions now grace d, without (expiredSessions now grace d) d) := by
  rw [sweepDungeon, hlive, if_neg Bool.false_ne_true, removeExpired_eq hc now hgrace]

theorem nodup_sweepDungeon (hc : Consistent d) (hgrace : 0 < grace) :
    (sweepDungeon now grace lifetime d).1.Nodup := by
  cases hexpired : lifetimeExpired now lifetime d with
  | true =>
    rw [sweepDungeon_of_expired hexpired]
    exact hc.nodup
  | false =>
    rw [sweepDungeon_of_live hc hgrace hexpired]
    exact (nodup_map_fst_toList d.disconnectedSince).sublist (List.filter_sublist.map _)

/-- Whom the sweep removes from a dungeon. -/
theorem mem_sweepDungeon (hc : Consistent d) (hgrace : 0 < grace) (s : SessionId) :
    s ∈ (sweepDungeon now grace lifetime d).1 ↔ s ∈ d.players ∧
      (lifetimeExpired now lifetime d = true ∨
        ∃ t, d.disconnectedSince[s]? = some t ∧ DungeonInstance.graceExpired now grace t = true) := by
  cases hexpired : lifetimeExpired now lifetime d with
  | true =>
    rw [sweepDungeon_of_expired hexpired]
    exact (hc.listed s).trans (and_iff_left (.inl rfl)).symm
  | false =>
    rw [sweepDungeon_of_live hc hgrace hexpired, mem_expiredSessions]
    simp only [Bool.false_eq_true, false_or]
    refine ⟨fun hs => ⟨?_, hs⟩, And.right⟩
    obtain ⟨t, hsince, -⟩ := hs
    exact hc.disconnected s (ExtTreeMap.mem_iff_isSome_getElem?.mpr (Option.isSome_of_eq_some hsince))

/-- A dungeon goes when its lifetime is over or when all its participants are removed. -/
theorem swept_none_iff (hc : Consistent d) (hgrace : 0 < grace) :
    swept now grace lifetime d = none ↔ lifetimeExpired now lifetime d = true ∨
      ∀ s ∈ d.participants, ∃ t, d.disconnectedSince[s]? = some t ∧
        DungeonInstance.graceExpired now grace t = true := by
  rw [swept_eq_none, keptBySweep]
  cases hexpired : lifetimeExpired now lifetime d with
  | true => simp
  | false =>
    rw [sweepDungeon_of_live hc hgrace hexpired]
    simp only [without, Bool.not_false, Bool.true_and, Bool.not_eq_true', Bool.not_eq_false,
      Bool.false_eq_true, false_or, List.isEmpty_iff, List.filter_eq_nil_iff, decide_eq_true_eq,
      not_not, mem_expiredSessions]

/-- What is left of a dungeon: the participants that are not removed, as they were. -/
structure Untouched (removed : SessionId → Prop) (d d' : DungeonInstance) : Prop where
  order : List.Sublist d'.participants d.participants
  participants : ∀ s, s ∈ d'.participants ↔ s ∈ d.participants ∧ ¬ removed s
  players : ∀ s : SessionId, ¬ removed s → d'.players[s]? = d.players[s]?
  playerIds : ∀ s : SessionId, ¬ removed s → d'.participantPlayerIds[s]? = d.participantPlayerIds[s]?
  sessions : ∀ (p : PlayerId) (s : SessionId), ¬ removed s →
    (d'.playerSessions[p]? = some s ↔ d.playerSessions[p]? = some s)
  times : ∀ s : SessionId, ¬ removed s → d'.disconnectedSince[s]? = d.disconnectedSince[s]?
  rest : { d' with
    participants := d.participants
    players := d.players
    participantPlayerIds := d.participantPlayerIds
    playerSessions := d.playerSessions
    disconnectedSince := d.disconnectedSince } = d

theorem untouched_without (removed : List SessionId) (d : DungeonInstance) :
    Untouched (· ∈ removed) d (without removed d) := by
  refine ⟨List.filter_sublist, ?_, ?_, ?_, ?_, ?_, rfl⟩
  · intro s
    simp [without]
  · intro s hs
    simp only [without]
    grind
  · intro s hs
    simp only [without]
    grind
  · intro p s hs
    simp only [without]
    grind
  · intro s hs
    simp only [without]
    grind

end

/-! ## The whole sweep -/

section

variable {now grace lifetime : Int} {m : DungeonManager}

theorem nodup_report (hall : AllConsistent m.dungeons) (hgrace : 0 < grace) (hlifetime : 0 < lifetime) :
    (m.sweepAbandonedParticipants now grace lifetime).1.removedParticipants.Nodup ∧
      (m.sweepAbandonedParticipants now grace lifetime).1.releasedDungeons.Nodup := by
  have hkeys := nodup_map_fst_toList m.dungeons
  rw [sweepAbandonedParticipants, if_neg (by omega), sweepLoop_report]
  simp only [List.nil_append]
  constructor
  · refine List.nodup_flatMap.mpr ⟨?_, ?_⟩
    · intro entry hentry
      have hc := hall entry.1 entry.2 (ExtTreeMap.mem_toList_iff_getElem?_eq_some.mp hentry)
      exact (nodup_sweepDungeon hc hgrace).map fun s s' hsame => by cases hsame; rfl
    · refine (List.pairwise_map.mp hkeys).imp ?_
      intro entry other hne participant hmem hmem'
      obtain ⟨s, -, rfl⟩ := List.mem_map.mp hmem
      obtain ⟨s', -, heq⟩ := List.mem_map.mp hmem'
      exact hne (congrArg AbandonedDungeonParticipant.dungeonId heq.symm)
  · exact hkeys.sublist (List.filter_sublist.map _)

/-- What the report says about one dungeon, and what is left of it. -/
structure SweptDungeon (now grace lifetime : Int) (d : DungeonId) (dungeon : DungeonInstance)
    (out : DungeonAbandonmentSweep × DungeonManager) : Prop where
  removed : ∀ s, ⟨d, s⟩ ∈ out.1.removedParticipants ↔ s ∈ dungeon.players ∧
    (lifetime ≤ now - dungeon.createdAt ∨ ∃ t, dungeon.disconnectedSince[s]? = some t ∧ grace ≤ now - t)
  released : d ∈ out.1.releasedDungeons ↔ lifetime ≤ now - dungeon.createdAt ∨
    ∀ s ∈ dungeon.participants, ∃ t, dungeon.disconnectedSince[s]? = some t ∧ grace ≤ now - t
  gone : d ∈ out.1.releasedDungeons → out.2.dungeons[d]? = none
  kept : d ∉ out.1.releasedDungeons → ∃ dungeon', out.2.dungeons[d]? = some dungeon' ∧
    Untouched (fun s => ⟨d, s⟩ ∈ out.1.removedParticipants) dungeon dungeon'

theorem sweptDungeon (hall : AllConsistent m.dungeons) (hgrace : 0 < grace) (hlifetime : 0 < lifetime)
    {d : DungeonId} {dungeon : DungeonInstance} (hd : m.dungeons[d]? = some dungeon)
    (hnow : ∀ (s : SessionId) (t : Int), dungeon.disconnectedSince[s]? = some t → t ≤ now) :
    SweptDungeon now grace lifetime d dungeon (m.sweepAbandonedParticipants now grace lifetime) := by
  have hc := hall d dungeon hd
  have hsweep := sweep_effect hgrace hlifetime now m
  have hexpired (s : SessionId) : (∃ t, dungeon.disconnectedSince[s]? = some t ∧
      DungeonInstance.graceExpired now grace t = true) ↔
      ∃ t, dungeon.disconnectedSince[s]? = some t ∧ grace ≤ now - t := by
    refine exists_congr fun t => and_congr_right fun hsince => ?_
    exact graceExpired_iff (hnow s t hsince)
  have honly {other : DungeonInstance} (hother : m.dungeons[d]? = some other) : other = dungeon :=
    Option.some.inj (hother.symm.trans hd)
  have hremoved (s : SessionId) : ⟨d, s⟩ ∈
      (m.sweepAbandonedParticipants now grace lifetime).1.removedParticipants ↔
      s ∈ (sweepDungeon now grace lifetime dungeon).1 := by
    rw [hsweep.removed]
    constructor
    · intro hmem
      obtain ⟨other, hother, hs⟩ := hmem
      exact honly hother ▸ hs
    · exact fun hs => ⟨dungeon, hd, hs⟩
  have hreleased : d ∈ (m.sweepAbandonedParticipants now grace lifetime).1.releasedDungeons ↔
      swept now grace lifetime dungeon = none := by
    rw [hsweep.released]
    constructor
    · intro hmem
      obtain ⟨other, hother, hs⟩ := hmem
      exact honly hother ▸ hs
    · exact fun hs => ⟨dungeon, hd, hs⟩
  constructor
  · intro s
    rw [hremoved, mem_sweepDungeon hc hgrace, lifetimeExpired_iff hlifetime, hexpired]
  · rw [hreleased, swept_none_iff hc hgrace, lifetimeExpired_iff hlifetime]
    simp only [hexpired]
  · intro hgone
    rw [hsweep.dungeons, hd]
    exact hreleased.mp hgone
  · intro hkept
    obtain ⟨dungeon', hdungeon'⟩ := Option.ne_none_iff_exists'.mp (mt hreleased.mpr hkept)
    obtain ⟨heq, hsessions, -⟩ := swept_some hgrace hc hdungeon'
    refine ⟨dungeon', ?_, ?_⟩
    · rw [hsweep.dungeons, hd]
      exact hdungeon'
    · simp only [hremoved, hsessions, heq]
      exact untouched_without _ dungeon

/-- The parties that have a dungeon after the sweep. -/
theorem mem_partyDungeons_sweep {issued : List DungeonId} (hindex : DungeonIndex m issued)
    (hgrace : 0 < grace) (hlifetime : 0 < lifetime) (party : PartyId) :
    party ∈ (m.sweepAbandonedParticipants now grace lifetime).2.partyDungeons ↔
      ∃ d, m.partyDungeons[party]? = some d ∧
        d ∉ (m.sweepAbandonedParticipants now grace lifetime).1.releasedDungeons := by
  have hsweep := sweep_effect hgrace hlifetime now m
  have hreleased {d : DungeonId} {dungeon : DungeonInstance} (hd : m.dungeons[d]? = some dungeon) :
      d ∈ (m.sweepAbandonedParticipants now grace lifetime).1.releasedDungeons ↔
        swept now grace lifetime dungeon = none := by
    rw [hsweep.released]
    constructor
    · intro hmem
      obtain ⟨other, hother, hs⟩ := hmem
      exact Option.some.inj (hother.symm.trans hd) ▸ hs
    · exact fun hs => ⟨dungeon, hd, hs⟩
  constructor
  · intro hparty
    have hkept : ∀ (d : DungeonId) (dungeon : DungeonInstance), m.dungeons[d]? = some dungeon →
        dungeon.partyId = party → swept now grace lifetime dungeon ≠ none := by
      intro d dungeon hd hof hnone
      have hgone := hsweep.dropped d dungeon hd hnone
      rw [hof] at hgone
      rw [ExtTreeMap.mem_iff_isSome_getElem?, hgone] at hparty
      cases hparty
    rw [ExtTreeMap.mem_iff_isSome_getElem?, hsweep.parties party hkept] at hparty
    obtain ⟨d, hd⟩ := Option.isSome_iff_exists.mp hparty
    obtain ⟨dungeon, hdungeon, hof⟩ := (hindex.parties party d).mp hd
    exact ⟨d, hd, fun hgone => hkept d dungeon hdungeon hof ((hreleased hdungeon).mp hgone)⟩
  · intro hlive
    obtain ⟨d, hd, hkept⟩ := hlive
    obtain ⟨dungeon, hdungeon, hof⟩ := (hindex.parties party d).mp hd
    -- the dungeon of the party is kept, and it is the only one of the party
    have hall : ∀ (e : DungeonId) (other : DungeonInstance), m.dungeons[e]? = some other →
        other.partyId = party → swept now grace lifetime other ≠ none := by
      intro e other he hof' hnone
      obtain rfl := hindex.same_party hdungeon he (hof.trans hof'.symm)
      exact hkept ((hreleased he).mpr hnone)
    rw [ExtTreeMap.mem_iff_isSome_getElem?, hsweep.parties party hall, hd]
    rfl

/-- A party can create a dungeon from content that can be built, if the index does not have it. -/
theorem create_succeeds_iff {parties : PartyManager} {catalog : DungeonCatalog} {partyId : PartyId}
    {templateId : DungeonTemplateId} {info : PartyInfo} {template : DungeonTemplate} {created : Int}
    {built : DungeonInstance} (hrunning : m.stopping = false) (hparty : parties.getParty partyId = some info)
    (htemplate : catalog.getDungeon templateId = some template)
    (hbuilt : DungeonInstance.new m.nextDungeonId template partyId info.members created = .ok built) :
    (∃ dungeon, (m.createDungeon parties catalog partyId templateId created).1 =
      .ok { status := .success, dungeon := some dungeon }) ↔ partyId ∉ m.partyDungeons := by
  have hopen : ¬ (m.stopping = true) := hrunning ▸ Bool.false_ne_true
  rw [createDungeon, if_neg hopen, hparty]
  simp only [htemplate]
  rw [insertDungeon, if_neg hopen]
  by_cases hlisted : partyId ∈ m.partyDungeons
  · rw [if_pos hlisted]
    refine iff_of_false ?_ (not_not.mpr hlisted)
    intro hcreated
    obtain ⟨dungeon, heq⟩ := hcreated
    cases heq
  · rw [if_neg hlisted]
    simp only [hbuilt]
    exact iff_of_true ⟨_, rfl⟩ hlisted

end

/-- In every reachable state in which no player is bound twice, and for every reading of the clock that is
not before a recorded disconnect: the slot of a disconnected player can be taken back exactly while its grace
lasts, and the sweep removes it exactly when the grace or the lifetime of the dungeon is over. The sweep
reports each removal once, touches nobody else, releases the dungeons that are empty or too old, and frees
the parties of these and of no others. -/
theorem abandonment_of_run {calls : List Call} {h : History} {now grace lifetime : Int}
    (hrun : run History.next {} calls = some h) (hgrace : 0 < grace) (hlifetime : 0 < lifetime)
    (hunique : ∀ (d e : DungeonId) (dungeon other : DungeonInstance) (p : PlayerId),
      h.manager.dungeons[d]? = some dungeon → h.manager.dungeons[e]? = some other →
      p ∈ dungeon.playerSessions → p ∈ other.playerSessions → d = e)
    (hnow : ∀ (d : DungeonId) (dungeon : DungeonInstance), h.manager.dungeons[d]? = some dungeon →
      ∀ (s : SessionId) (t : Int), dungeon.disconnectedSince[s]? = some t → t ≤ now) :
    let out := h.manager.sweepAbandonedParticipants now grace lifetime
    (∀ (d : DungeonId) (dungeon : DungeonInstance) (p s : Nat) (t : Int),
      h.manager.dungeons[d]? = some dungeon → dungeon.playerSessions[p]? = some s →
      dungeon.disconnectedSince[s]? = some t →
      (∀ new : SessionId, new ≠ 0 → new ∉ dungeon.players →
        ((dungeon.reconnectParticipant p new now grace).1 = some ⟨s, t⟩ ↔ now - t < grace)) ∧
      (dungeon.state ≠ .finished → ∀ (new : SessionId) (order : List DungeonId),
        Admitted h.manager new p grace → Absent h.manager.dungeons new →
        IterationOrder h.manager.dungeons order →
        ((h.manager.registerPlayerSession new p now grace order).1 =
          { status := .reconnected, dungeonId := d, replacedSessionId := s, disconnectedAt := some t } ↔
          now - t < grace)) ∧
      (⟨d, s⟩ ∈ out.1.removedParticipants ↔ grace ≤ now - t ∨ lifetime ≤ now - dungeon.createdAt) ∧
      (now - dungeon.createdAt < lifetime → (⟨d, s⟩ ∈ out.1.removedParticipants ↔ ¬ now - t < grace))) ∧
    out.1.removedParticipants.Nodup ∧ out.1.releasedDungeons.Nodup ∧
    (∀ (d : DungeonId) (dungeon : DungeonInstance), h.manager.dungeons[d]? = some dungeon →
      SweptDungeon now grace lifetime d dungeon out) ∧
    (∀ d : DungeonId, d ∉ h.manager.dungeons → out.2.dungeons[d]? = none ∧
      d ∉ out.1.releasedDungeons ∧ ∀ s, ⟨d, s⟩ ∉ out.1.removedParticipants) ∧
    (out.2.authenticatedPlayers = h.manager.authenticatedPlayers ∧
      out.2.activePlayerSessions = h.manager.activePlayerSessions ∧
      out.2.nextDungeonId = h.manager.nextDungeonId ∧ out.2.stopping = h.manager.stopping) ∧
    (∀ party, party ∈ out.2.partyDungeons ↔
      ∃ d, h.manager.partyDungeons[party]? = some d ∧ d ∉ out.1.releasedDungeons) ∧
    (∀ (party : PartyId) (d : DungeonId), h.manager.partyDungeons[party]? = some d →
      ∀ (parties : PartyManager) (catalog : DungeonCatalog) (templateId : DungeonTemplateId)
        (info : PartyInfo) (template : DungeonTemplate) (created : Int) (built : DungeonInstance),
      out.2.stopping = false → parties.getParty party = some info →
      catalog.getDungeon templateId = some template →
      DungeonInstance.new out.2.nextDungeonId template party info.members created = .ok built →
      ((∃ dungeon, (out.2.createDungeon parties catalog party templateId created).1 =
        .ok { status := .success, dungeon := some dungeon }) ↔ d ∈ out.1.releasedDungeons)) := by
  intro out
  obtain ⟨hi, hnonzero⟩ := boundNonzero_of_run hrun
  have hall := hi.index.consistent
  have hsweep := sweep_effect hgrace hlifetime now h.manager
  have hswept (d : DungeonId) (dungeon : DungeonInstance) (hd : h.manager.dungeons[d]? = some dungeon) :
      SweptDungeon now grace lifetime d dungeon out :=
    sweptDungeon hall hgrace hlifetime hd (hnow d dungeon hd)
  have hparties (party : PartyId) : party ∈ out.2.partyDungeons ↔
      ∃ d, h.manager.partyDungeons[party]? = some d ∧ d ∉ out.1.releasedDungeons :=
    mem_partyDungeons_sweep hi.index hgrace hlifetime party
  refine ⟨?_, (nodup_report hall hgrace hlifetime).1, (nodup_report hall hgrace hlifetime).2, hswept, ?_,
    ⟨hsweep.authenticatedPlayers, hsweep.activePlayerSessions, hsweep.nextDungeonId, hsweep.stopping⟩,
    hparties, ?_⟩
  · intro d dungeon p s t hd hbound hsince
    have hc := hall d dungeon hd
    have hle := hnow d dungeon hd s t hsince
    have hmem : p ∈ dungeon.playerSessions :=
      ExtTreeMap.mem_iff_isSome_getElem?.mpr (Option.isSome_of_eq_some hbound)
    have hplayer : p ≠ 0 := fun hzero => hnonzero d dungeon hd (hzero ▸ hmem)
    have honly : ∀ (e : DungeonId) (other : DungeonInstance), h.manager.dungeons[e]? = some other →
        p ∈ other.playerSessions → e = d := fun e other he hp => hunique e d other dungeon p he hd hp hmem
    have hremoved : ⟨d, s⟩ ∈ out.1.removedParticipants ↔
        grace ≤ now - t ∨ lifetime ≤ now - dungeon.createdAt := by
      rw [(hswept d dungeon hd).removed, and_iff_right (hc.bound_session hbound).1, or_comm]
      refine or_congr_left ⟨?_, fun hover => ⟨t, hsince, hover⟩⟩
      intro hover
      obtain ⟨t', hsince', hover⟩ := hover
      exact Option.some.inj (hsince'.symm.trans hsince) ▸ hover
    refine ⟨?_, ?_, hremoved, ?_⟩
    · intro new hnew hfresh
      exact reconnect_iff hplayer hnew hc hgrace hbound hsince hfresh hle
    · intro hstate new order ha habsent ho
      exact register_reconnects_iff hall ho honly ha habsent hd hstate hbound hsince hle
    · intro hlive
      rw [hremoved]
      omega
  · intro d hd
    have hnone : h.manager.dungeons[d]? = none := ExtTreeMap.getElem?_eq_none hd
    refine ⟨?_, ?_, ?_⟩
    · exact (hsweep.dungeons d).trans (by rw [hnone]; rfl)
    · intro hreleased
      obtain ⟨dungeon, hsome, -⟩ := (hsweep.released d).mp hreleased
      rw [hnone] at hsome
      cases hsome
    · intro s hremoved
      obtain ⟨dungeon, hsome, -⟩ := (hsweep.removed d s).mp hremoved
      rw [hnone] at hsome
      cases hsome
  · intro party d hd parties catalog templateId info template created built hrunning hparty htemplate hbuilt
    rw [create_succeeds_iff hrunning hparty htemplate hbuilt, hparties]
    constructor
    · intro hfree
      by_contra hkept
      exact hfree ⟨d, hd, hkept⟩
    · intro hreleased hlive
      obtain ⟨e, he, hkept⟩ := hlive
      exact hkept (Option.some.inj (hd.symm.trans he) ▸ hreleased)

/-- Two players of one dungeon who have dropped out, the second of them later. -/
def bothDroppedOut : List Call :=
  [.registerPlayerSession 100 5001 0 60 [], .registerPlayerSession 101 5002 0 60 [],
    .createDungeon partyOfTwo oneDungeonCatalog 7 1 1, .disconnectPlayerSession 100 10 [1],
    .disconnectPlayerSession 101 40 [1]]

/-- At the end of the first grace the first player is removed, and the second can still come back. -/
theorem abandonment_of_run_bothDroppedOut : ∃ h dungeon, run History.next {} bothDroppedOut = some h ∧
    h.manager.dungeons[1]? = some dungeon ∧
    ⟨1, 100⟩ ∈ (h.manager.sweepAbandonedParticipants 70 60 1000).1.removedParticipants ∧
    ⟨1, 101⟩ ∉ (h.manager.sweepAbandonedParticipants 70 60 1000).1.removedParticipants ∧
    (dungeon.reconnectParticipant 5002 300 70 60).1 = some ⟨101, 40⟩ := by
  obtain ⟨h, hr⟩ : ∃ h, run History.next {} bothDroppedOut = some h :=
    Option.isSome_iff_exists.mp (by decide)
  have hone : ∀ (d : DungeonId) (dungeon : DungeonInstance), h.manager.dungeons[d]? = some dungeon →
      d = 1 := by
    cases hr
    decide
  have hfacts : ∃ dungeon, h.manager.dungeons[1]? = some dungeon ∧
      dungeon.playerSessions[5001]? = some 100 ∧ dungeon.playerSessions[5002]? = some 101 ∧
      dungeon.disconnectedSince[100]? = some 10 ∧ dungeon.disconnectedSince[101]? = some 40 ∧
      dungeon.createdAt = 1 ∧ 300 ∉ dungeon.players := by
    cases hr
    decide
  have hnow : ∀ (d : DungeonId) (dungeon : DungeonInstance), h.manager.dungeons[d]? = some dungeon →
      ∀ (s : SessionId) (t : Int), dungeon.disconnectedSince[s]? = some t → t ≤ 70 := by
    cases hr
    decide
  obtain ⟨dungeon, hd, hfirst, hsecond, hearly, hlate, hcreated, hfresh⟩ := hfacts
  obtain ⟨hslots, -⟩ := abandonment_of_run hr (by decide : (0 : Int) < 60) (by decide : (0 : Int) < 1000)
    (fun d e dungeon other _ hd he _ _ => (hone d dungeon hd).trans (hone e other he).symm) hnow
  obtain ⟨-, -, hremoved, -⟩ := hslots 1 dungeon 5001 100 10 hd hfirst hearly
  obtain ⟨hback, -, hstays, -⟩ := hslots 1 dungeon 5002 101 40 hd hsecond hlate
  refine ⟨h, dungeon, hr, hd, hremoved.mpr (.inl (by decide)), ?_, ?_⟩
  · rw [hstays, hcreated]
    decide
  · exact (hback 300 (by decide) hfresh).mpr (by decide)

end DnfServer.Manager
