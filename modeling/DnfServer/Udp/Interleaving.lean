import DnfServer.Udp.Threads

/-!
# Agreement when nothing is under way

`Allocate` takes a list of participants that was read earlier. If the dungeon is gone by
then and released, its UDP session is left over; if a participant is between its reconnect
and the rotation of its token, the token goes to the wrong session id. `Timely` rules out
these two cases at the one step where they go wrong, and then the managers agree whenever
no operation is under way.
-/

namespace DnfServer.Udp

open Std DnfServer.Library DnfServer.Participants DnfServer.Manager
set_option autoImplicit false

instance (w : Threads) (d : DungeonId) : Decidable (w.Releasing d) :=
  decidable_of_iff (d ∈ w.releasing ∨ ∃ entry ∈ w.tasks.toList, entry.2 = .releasing d) <|
    or_congr_right
      ⟨fun ⟨entry, hin, he⟩ =>
        ⟨entry.1, he ▸ ExtTreeMap.mem_toList_iff_getElem?_eq_some.mp hin⟩,
      fun ⟨s, hs⟩ => ⟨(s, .releasing d), ExtTreeMap.mem_toList_iff_getElem?_eq_some.mpr hs, rfl⟩⟩

/-- The list of participants that was read for a UDP session is still in time. The dungeon is live
and the list names the holders of tokens that its participants call for, but for participants
that the sweep under way is about to remove; or the dungeon is gone and its release is still
to come. -/
def Threads.Current (w : Threads) (d : DungeonId) (participants : List SessionId) : Prop :=
  match w.history.manager.dungeons[d]? with
  | some dungeon => ∀ x ∈ participants ++ w.holders d dungeon, ⟨d, x⟩ ∉ w.removing →
      (x ∈ participants ↔ x ∈ w.holders d dungeon)
  | none => w.Releasing d

instance (w : Threads) (d : DungeonId) (participants : List SessionId) :
    Decidable (w.Current d participants) := by
  unfold Threads.Current
  split <;> infer_instance

/-- The condition on one step: a UDP session is opened on a list that is still in time. -/
def Timely (w : Threads) : ThreadStep → Prop
  | .allocate s (some _) _ => match w.tasks[s]? with
    | some (.listed d participants) =>
      participants ≠ [] → d ∉ w.udp.sessions → w.Current d participants
    | _ => True
  | _ => True

instance (w : Threads) (step : ThreadStep) : Decidable (Timely w step) := by
  unfold Timely
  split
  · split <;> infer_instance
  · exact instDecidableTrue

/-! ## The requests under way -/

/-- The dungeon that a request is to open a UDP session for. -/
def Task.asks : Task → Option DungeonId
  | .created d | .listed d _ => some d
  | _ => none

/-- Every dungeon that a request is to open a UDP session for was issued. -/
def Asked (w : Threads) : Prop :=
  ∀ (s : SessionId) (task : Task) (d : DungeonId), w.tasks[s]? = some task →
    task.asks = some d → d ∈ w.history.issued

namespace Asked

variable {w w' w₁ : Threads}

theorem mono (h : Asked w) (ht : w'.tasks = w.tasks)
    (hi : ∀ d ∈ w.history.issued, d ∈ w'.history.issued) : Asked w' := by
  intro s task d hs hd
  rw [ht] at hs
  exact hi d (h s task d hs hd)

/-- A request goes on to a task that asks for an issued dungeon, or for none. -/
theorem assign (h : Asked w) (ht : w₁.tasks = w.tasks)
    (hi : ∀ d ∈ w.history.issued, d ∈ w₁.history.issued) {s : SessionId} {task : Option Task}
    (hnew : ∀ d, task.bind Task.asks = some d → d ∈ w₁.history.issued) :
    Asked (w₁.assign s task) := by
  intro x other d hx hd
  rw [Threads.assign_history]
  rw [Threads.task_assign] at hx
  split at hx
  · exact hnew d (by rw [hx]; exact hd)
  · exact h.mono ht hi x other d hx hd

/-- A call of the manager issues ids and takes none back. -/
theorem issued_of_manage {call : Call} (hm : w.manage call = some w') :
    ∀ d ∈ w.history.issued, d ∈ w'.history.issued :=
  fun _ hd => issued_mono (Threads.manage_spec hm).1 hd

/-- A step at the UDP manager. -/
theorem udp_assign (h : Asked w) (udp : DungeonUdpManager) {s : SessionId} {task : Option Task}
    (hnew : task.bind Task.asks = none) : Asked ({ w with udp }.assign s task) := by
  refine h.assign rfl (fun _ hd => hd) ?_
  intro d hd
  rw [hnew] at hd
  cases hd

theorem managed (h : Asked w) {call : Call} (hm : w.manage call = some w₁) {s : SessionId}
    {task : Option Task} (hnew : task.bind Task.asks = none) : Asked (w₁.assign s task) := by
  refine h.assign (Threads.manage_spec hm).2.2.1 (issued_of_manage hm) ?_
  intro d hd
  rw [hnew] at hd
  cases hd

theorem createDungeon (h : Asked w) {s : SessionId} {parties : PartyManager}
    {catalog : DungeonCatalog} {partyId : PartyId} {templateId : DungeonTemplateId} {now : Int}
    (hn : w.next (.createDungeon s parties catalog partyId templateId now) = some w') :
    Asked w' := by
  simp only [Threads.next] at hn
  split at hn
  · cases hn
  · obtain ⟨w₁, hm, rfl⟩ := Option.map_eq_some_iff.mp hn
    have hnext := (Threads.manage_spec hm).1
    split
    · rename_i dungeon hcreated
      refine h.assign (Threads.manage_spec hm).2.2.1 (issued_of_manage hm) ?_
      rintro d ⟨⟩
      simp only [Manager.History.next, Option.some.injEq] at hnext
      rw [← hnext]
      simp [hcreated, createdIds]
    · exact h.mono (Threads.manage_spec hm).2.2.1 (issued_of_manage hm)

theorem next {step : ThreadStep} (h : Asked w) (hn : w.next step = some w') : Asked w' := by
  cases step with
  | createDungeon s parties catalog partyId templateId now => exact h.createDungeon hn
  | readParticipants s =>
    simp only [Threads.next] at hn
    split at hn
    · rename_i d ht
      obtain rfl := Option.some.inj hn
      refine h.assign rfl (fun _ hd => hd) ?_
      rintro e ⟨⟩
      exact h s (.created d) d ht rfl
    · cases hn
  | allocate s socket draws =>
    simp only [Threads.next] at hn
    split at hn
    · obtain ⟨out, -, rfl⟩ := Option.map_eq_some_iff.mp hn
      exact h.udp_assign out.2 rfl
    · cases hn
  | findToken s | release s | replaceParticipant s draws | disconnectParticipant s =>
    simp only [Threads.next] at hn
    split at hn
    · obtain rfl := Option.some.inj hn
      first
        | exact h.udp_assign _ rfl
        | (refine h.udp_assign _ ?_
           split <;> rfl)
    · cases hn
  | cancelDungeon s | rollbackPlayerReconnect s | giveUp s t order =>
    simp only [Threads.next] at hn
    split at hn
    · obtain ⟨w₁, hm, rfl⟩ := Option.map_eq_some_iff.mp hn
      refine h.managed hm ?_
      first
        | rfl
        | (split <;> rfl)
    · cases hn
  | registerPlayerSession s p now grace order =>
    simp only [Threads.next] at hn
    split at hn
    · cases hn
    · obtain ⟨w₁, hm, rfl⟩ := Option.map_eq_some_iff.mp hn
      refine h.managed hm ?_
      cases reconnectOf p (w.history.manager.registerPlayerSession s p now grace order).1 <;> rfl
  | disconnectPlayerSession s t order =>
    simp only [Threads.next] at hn
    split at hn
    · cases hn
    · obtain ⟨w₁, hm, rfl⟩ := Option.map_eq_some_iff.mp hn
      refine h.managed hm ?_
      cases (w.history.manager.disconnectPlayerSession s t order).1 <;> rfl
  | tickSweep now grace lifetime | tickCancel d | tickFinish d =>
    simp only [Threads.next] at hn
    split at hn
    · obtain ⟨w₁, hm, rfl⟩ := Option.map_eq_some_iff.mp hn
      exact h.mono (Threads.manage_spec hm).2.2.1 fun e he => issued_of_manage hm e he
    · cases hn
  | tickStart catalog d =>
    simp only [Threads.next] at hn
    split at hn
    · exact h.mono (Threads.manage_spec hn).2.2.1 (issued_of_manage hn)
    · cases hn
  | tickRemoveParticipant | tickRelease =>
    simp only [Threads.next] at hn
    split at hn
    · obtain rfl := Option.some.inj hn
      exact h.mono rfl fun _ hd => hd
    · cases hn

end Asked

/-! ## The invariant -/

/-- The slot that session `new` took back is as the reconnect left it. -/
structure Rebound (h : Manager.History) (new : SessionId) (reconnect : PlayerReconnect) : Prop where
  recorded : h.reconnects[new]? = some reconnect
  issued : reconnect.dungeonId ∈ h.issued
  slot : ∀ dungeon, h.manager.dungeons[reconnect.dungeonId]? = some dungeon →
    Rollbackable dungeon reconnect.playerId new reconnect.replacedSessionId

/-- Every difference between the two managers belongs to an operation under way. -/
structure Accounted (w : Threads) : Prop where
  indexed : Indexed w.history
  rebound : ∀ new reconnect, w.unsettled new = some reconnect → Rebound w.history new reconnect
  distinct : ∀ new other reconnect reconnect', w.unsettled new = some reconnect →
    w.unsettled other = some reconnect' → reconnect.dungeonId = reconnect'.dungeonId →
    reconnect.replacedSessionId = reconnect'.replacedSessionId → new = other
  opened : ∀ d, d ∈ w.udp.sessions → d ∈ w.history.manager.dungeons ∨ w.Releasing d
  tokens : ∀ (d : DungeonId) (dungeon : DungeonInstance), d ∈ w.udp.sessions →
    w.history.manager.dungeons[d]? = some dungeon →
    ∀ x, ⟨d, x⟩ ∉ w.removing → (HasToken w.udp d x ↔ x ∈ w.holders d dungeon)
  removed : ∀ (d : DungeonId) (x : SessionId) (dungeon : DungeonInstance), ⟨d, x⟩ ∈ w.removing →
    w.history.manager.dungeons[d]? = some dungeon → x ∈ w.history.closed ∧ x ∉ w.holders d dungeon
  known : ∀ d, d ∈ w.udp.sessions → d ∈ w.history.issued
  swept : ∀ participant ∈ w.removing, participant.dungeonId ∈ w.history.issued

namespace Accounted

variable {w w' : Threads}

theorem start : Accounted {} := by
  refine ⟨Indexed.start, ?_, ?_, ?_, ?_, ?_, ?_, ?_⟩ <;> simp [Threads.unsettled]

/-- The new session of an unsettled reconnect is open and its old one closed. -/
theorem open_closed (h : Accounted w) {new : SessionId} {reconnect : PlayerReconnect}
    (hr : w.unsettled new = some reconnect) :
    new ∉ w.history.closed ∧ reconnect.replacedSessionId ∈ w.history.closed :=
  h.indexed.opened new reconnect (h.rebound new reconnect hr).recorded

/-- A closed session has no reconnect of its own. -/
theorem unsettled_closed (h : Accounted w) {s : SessionId} (hs : s ∈ w.history.closed) :
    w.unsettled s = none := by
  cases hu : w.unsettled s with
  | none => rfl
  | some reconnect => exact absurd hs (h.open_closed hu).1

/-- A step whose call moves nobody and that leaves the UDP manager alone. -/
theorem calm (h : Accounted w) (hc : Calm w.history w'.history)
    (hrec : ∀ new reconnect, w.unsettled new = some reconnect →
      w'.history.reconnects[new]? = w.history.reconnects[new]?)
    (hun : ∀ s, w'.unsettled s = w.unsettled s) (hudp : w'.udp = w.udp)
    (hrem : w'.removing = w.removing) (hrel : ∀ d, w.Releasing d → w'.Releasing d)
    (hdrop : ∀ d, d ∈ w.history.manager.dungeons → d ∉ w'.history.manager.dungeons →
      w'.Releasing d) : Accounted w' := by
  refine ⟨hc.indexed, ?_, ?_, ?_, ?_, ?_, ?_, ?_⟩
  · intro new reconnect hr
    rw [hun] at hr
    obtain ⟨hrecorded, hissued, hslot⟩ := h.rebound new reconnect hr
    refine ⟨(hrec new reconnect hr).trans hrecorded, hc.issued _ hissued, ?_⟩
    intro dungeon' hd'
    obtain ⟨dungeon, hd, hp, hb⟩ := hc.dungeons _ dungeon' hissued hd'
    obtain ⟨h1, h2, h3, h4⟩ := hslot dungeon hd
    refine ⟨h1, h2, hb _ _ h3, ?_⟩
    rw [← (hc.indexed.index.consistent _ dungeon' hd').listed, hp,
      (h.indexed.index.consistent _ dungeon hd).listed]
    exact h4
  · intro new other reconnect reconnect' h1 h2
    rw [hun] at h1 h2
    exact h.distinct new other reconnect reconnect' h1 h2
  · intro d hd
    rw [hudp] at hd
    by_cases hlive : d ∈ w'.history.manager.dungeons
    · exact Or.inl hlive
    · rcases h.opened d hd with hold | hold
      · exact Or.inr (hdrop d hold hlive)
      · exact Or.inr (hrel d hold)
  · intro d dungeon' hs hd' x hx
    rw [hudp] at hs ⊢
    rw [hrem] at hx
    obtain ⟨dungeon, hd, hp, -⟩ := hc.dungeons d dungeon' (h.known d hs) hd'
    rw [Threads.holders_congr hun d hp]
    exact h.tokens d dungeon hs hd x hx
  · intro d x dungeon' hx hd'
    rw [hrem] at hx
    obtain ⟨dungeon, hd, hp, -⟩ := hc.dungeons d dungeon' (h.swept _ hx) hd'
    rw [Threads.holders_congr hun d hp]
    exact (h.removed d x dungeon hx hd).imp_left (hc.closed x)
  · intro d hd
    rw [hudp] at hd
    exact hc.issued d (h.known d hd)
  · intro participant hp
    rw [hrem] at hp
    exact hc.issued _ (h.swept participant hp)

/-- A step at the UDP manager that leaves the tokens alone. -/
theorem sameTokens (h : Accounted w) (hh : w'.history = w.history)
    (hun : ∀ s, w'.unsettled s = w.unsettled s) (hudp : SameTokens w.udp w'.udp)
    (hrem : w'.removing = w.removing) (hrel : ∀ d, w.Releasing d → w'.Releasing d) :
    Accounted w' := by
  refine ⟨hh ▸ h.indexed, ?_, ?_, ?_, ?_, ?_, ?_, ?_⟩
  · intro new reconnect hr
    rw [hun] at hr
    exact hh ▸ h.rebound new reconnect hr
  · intro new other reconnect reconnect' h1 h2
    rw [hun] at h1 h2
    exact h.distinct new other reconnect reconnect' h1 h2
  · intro d hd
    rw [hudp.opened] at hd
    rw [hh]
    exact (h.opened d hd).imp_right (hrel d)
  · intro d dungeon hs hd x hx
    rw [hudp.opened] at hs
    rw [hh] at hd
    rw [hrem] at hx
    rw [hudp.tokens, Threads.holders_congr hun d rfl]
    exact h.tokens d dungeon hs hd x hx
  · intro d x dungeon hx hd
    rw [hrem] at hx
    rw [hh] at hd
    rw [Threads.holders_congr hun d rfl, hh]
    exact h.removed d x dungeon hx hd
  · intro d hd
    rw [hudp.opened] at hd
    rw [hh]
    exact h.known d hd
  · rw [hrem, hh]
    exact h.swept

/-- The UDP session of a dungeon is released. -/
theorem release (h : Accounted w) {d : DungeonId} (hh : w'.history = w.history)
    (hun : ∀ s, w'.unsettled s = w.unsettled s) (hudp : w'.udp = (w.udp.release d).2)
    (hrem : w'.removing = w.removing) (hrel : ∀ x, x ≠ d → w.Releasing x → w'.Releasing x) :
    Accounted w' := by
  refine ⟨hh ▸ h.indexed, ?_, ?_, ?_, ?_, ?_, ?_, ?_⟩
  · intro new reconnect hr
    rw [hun] at hr
    exact hh ▸ h.rebound new reconnect hr
  · intro new other reconnect reconnect' h1 h2
    rw [hun] at h1 h2
    exact h.distinct new other reconnect reconnect' h1 h2
  · intro x hx
    rw [hudp, release_opened] at hx
    rw [hh]
    exact (h.opened x hx.1).imp_right (hrel x hx.2)
  · intro x dungeon hs hd y hy
    rw [hudp, release_opened] at hs
    rw [hh] at hd
    rw [hrem] at hy
    rw [hudp, release_tokens, Threads.holders_congr hun x rfl, ← h.tokens x dungeon hs.1 hd y hy]
    simp [hs.2]
  · intro x y dungeon hx hd
    rw [hrem] at hx
    rw [hh] at hd
    rw [Threads.holders_congr hun x rfl, hh]
    exact h.removed x y dungeon hx hd
  · intro x hx
    rw [hudp, release_opened] at hx
    rw [hh]
    exact h.known x hx.1
  · rw [hrem, hh]
    exact h.swept

/-- The tick removes the next participant of its list. -/
theorem removeParticipant (h : Accounted w) {d : DungeonId} {x : SessionId}
    {rest : List AbandonedDungeonParticipant} (hr : w.removing = ⟨d, x⟩ :: rest) :
    Accounted { w with udp := (w.udp.removeParticipant d x).2, removing := rest } := by
  have hun : ∀ s, Threads.unsettled
      { w with udp := (w.udp.removeParticipant d x).2, removing := rest } s = w.unsettled s :=
    fun _ => rfl
  refine ⟨h.indexed, h.rebound, h.distinct, ?_, ?_, ?_, ?_, ?_⟩
  · intro e he
    exact h.opened e ((removeParticipant_opened d x w.udp e).mp he)
  · intro e dungeon hs hd y hy
    replace hs := (removeParticipant_opened d x w.udp e).mp hs
    rw [removeParticipant_tokens, Threads.holders_congr hun e rfl]
    by_cases heq : e = d ∧ y = x
    · -- its token goes now, and it was no holder any more
      obtain ⟨rfl, rfl⟩ := heq
      have hnot := h.removed e y dungeon (by rw [hr]; exact List.mem_cons_self) hd
      simp [hnot.2]
    · have hin : ⟨e, y⟩ ∉ w.removing := by
        rw [hr, List.mem_cons, AbandonedDungeonParticipant.mk.injEq, not_or]
        exact ⟨heq, hy⟩
      rw [← h.tokens e dungeon hs hd y hin]
      simp [heq]
  · intro e y dungeon hy hd
    rw [Threads.holders_congr hun e rfl]
    exact h.removed e y dungeon (by rw [hr]; exact List.mem_cons_of_mem _ hy) hd
  · intro e he
    exact h.known e ((removeParticipant_opened d x w.udp e).mp he)
  · intro participant hp
    exact h.swept participant (by rw [hr]; exact List.mem_cons_of_mem _ hp)

/-- The allocation, at a time that the condition allows. -/
theorem allocate (h : Accounted w) {s : SessionId} {d : DungeonId} {participants : List SessionId}
    {socket : Option UInt16} {draws : List DungeonUdpToken} {out : Option UInt16 × DungeonUdpManager}
    (ht : w.tasks[s]? = some (.listed d participants))
    (hout : w.udp.allocate d participants socket draws = some out)
    (hok : Timely w (.allocate s socket draws)) (hissued : d ∈ w.history.issued) :
    Accounted ({ w with udp := out.2 }.assign s (some (.allocated d out.1.isSome))) := by
  have hun : ∀ x, ({ w with udp := out.2 }.assign s (some (.allocated d out.1.isSome))).unsettled x =
      w.unsettled x :=
    Threads.unsettled_assign_same (w := { w with udp := out.2 }) (by simp [Threads.unsettled, ht, Task.reconnect])
  have hrel : ∀ x, w.Releasing x →
      ({ w with udp := out.2 }.assign s (some (.allocated d out.1.isSome))).Releasing x := by
    intro x hx
    exact Threads.releasing_assign (w := { w with udp := out.2 }) (by simp [ht]) hx
  rcases allocate_cases hout with rfl | ⟨port, tokens, rfl, hne, hfree, htokens, rfl⟩
  · exact h.sameTokens rfl hun (SameTokens.refl _) rfl hrel
  · simp only [Timely, ht] at hok
    have hcurrent := hok hne hfree
    refine ⟨h.indexed, ?_, ?_, ?_, ?_, ?_, ?_, h.swept⟩
    · intro new reconnect hr
      rw [hun] at hr
      exact h.rebound new reconnect hr
    · intro new other reconnect reconnect' h1 h2
      rw [hun] at h1 h2
      exact h.distinct new other reconnect reconnect' h1 h2
    · intro x hx
      by_cases hxd : x = d
      · subst hxd
        by_cases hlive : x ∈ w.history.manager.dungeons
        · exact Or.inl hlive
        · have hgone : w.history.manager.dungeons[x]? = none := by grind
          simp only [Threads.Current, hgone] at hcurrent
          exact Or.inr (hrel x hcurrent)
      · exact (h.opened x (by simp only [Threads.assign] at hx; grind)).imp_right (hrel x)
    · intro x other hs ho y hy
      rw [Threads.holders_congr hun x rfl]
      by_cases hxd : x = d
      · subst hxd
        simp only [Threads.assign] at ho
        simp only [Threads.Current, ho] at hcurrent
        have hhas : HasToken ({ w with udp := { w.udp with
            sessions := w.udp.sessions.insert x { dungeonId := x, port, tokens } } }.assign s
              (some (.allocated x (some port).isSome))).udp x y ↔ y ∈ participants := by
          simp [HasToken, Threads.assign, htokens]
        rw [hhas]
        by_cases hin : y ∈ participants ++ w.holders x other
        · exact hcurrent y hin hy
        · simp only [List.mem_append, not_or] at hin
          simp [hin.1, hin.2]
      · have hold := h.tokens x other (by simp only [Threads.assign] at hs; grind) ho y hy
        rw [← hold]
        simp only [HasToken, Threads.assign]
        grind
    · intro x y other hx ho
      rw [Threads.holders_congr hun x rfl]
      exact h.removed x y other hx ho
    · intro x hx
      by_cases hxd : x = d
      · rw [hxd]
        exact hissued
      · exact h.known x (by simp only [Threads.assign] at hx; grind)

/-! ### The token of a reconnect -/

/-- The slot of an unsettled reconnect in a live dungeon: the new session is a participant and
the old one is none. -/
theorem slot (h : Accounted w) {new : SessionId} {reconnect : PlayerReconnect}
    (hr : w.unsettled new = some reconnect) {dungeon : DungeonInstance}
    (hd : w.history.manager.dungeons[reconnect.dungeonId]? = some dungeon) :
    new ∈ dungeon.participants ∧ reconnect.replacedSessionId ∉ dungeon.participants := by
  have hc := h.indexed.index.consistent _ dungeon hd
  have hslot := (h.rebound new reconnect hr).slot dungeon hd
  refine ⟨(hc.bound_session hslot.bound).2.1, ?_⟩
  rw [hc.listed]
  exact hslot.free

/-- No other participant is held under the old id. -/
theorem heldAs_ne (h : Accounted w) {new : SessionId} {reconnect : PlayerReconnect}
    (hr : w.unsettled new = some reconnect) {dungeon : DungeonInstance}
    (hd : w.history.manager.dungeons[reconnect.dungeonId]? = some dungeon) {y : SessionId}
    (hy : y ∈ dungeon.participants) (hne : y ≠ new) :
    w.heldAs reconnect.dungeonId y ≠ reconnect.replacedSessionId := by
  intro heq
  rcases w.heldAs_cases reconnect.dungeonId y with hself | ⟨reconnect', hr', hd', hheld⟩
  · rw [hself] at heq
    exact (h.slot hr hd).2 (heq ▸ hy)
  · exact hne (h.distinct y new reconnect' reconnect hr' hr hd' (hheld.symm.trans heq))

/-- The holders once the reconnect of `new` is settled: `new` in the place of its old id. -/
theorem holders_settled (h : Accounted w) {new : SessionId} {reconnect : PlayerReconnect}
    (hr : w.unsettled new = some reconnect) {dungeon : DungeonInstance}
    (hd : w.history.manager.dungeons[reconnect.dungeonId]? = some dungeon)
    (hw' : ∀ y, w'.unsettled y = if y = new then none else w.unsettled y) (x : SessionId) :
    x ∈ w'.holders reconnect.dungeonId dungeon ↔
      x = new ∨ (x ∈ w.holders reconnect.dungeonId dungeon ∧ x ≠ reconnect.replacedSessionId) := by
  have hnew : w'.heldAs reconnect.dungeonId new = new :=
    Threads.heldAs_of_none (by rw [hw', if_pos rfl]) _
  have hother : ∀ y, y ≠ new → w'.heldAs reconnect.dungeonId y = w.heldAs reconnect.dungeonId y := by
    intro y hy
    unfold Threads.heldAs
    rw [hw', if_neg hy]
  rw [Threads.mem_holders, Threads.mem_holders]
  constructor
  · rintro ⟨y, hy, hheld⟩
    by_cases hyn : y = new
    · rw [hyn, hnew] at hheld
      exact Or.inl hheld.symm
    · rw [hother y hyn] at hheld
      exact Or.inr ⟨⟨y, hy, hheld⟩, hheld ▸ h.heldAs_ne hr hd hy hyn⟩
  · rintro (rfl | ⟨⟨y, hy, hheld⟩, hne⟩)
    · exact ⟨x, (h.slot hr hd).1, hnew⟩
    · refine ⟨y, hy, ?_⟩
      rw [hother y, hheld]
      rintro rfl
      exact hne (hheld.symm.trans (Threads.heldAs_of_some hr))

/-- The participants of the other dungeons are held as before. -/
theorem holders_elsewhere {new : SessionId} {reconnect : PlayerReconnect}
    (hr : w.unsettled new = some reconnect)
    (hw' : ∀ y, w'.unsettled y = if y = new then none else w.unsettled y) {d : DungeonId}
    (hd : d ≠ reconnect.dungeonId) (dungeon : DungeonInstance) :
    w'.holders d dungeon = w.holders d dungeon := by
  unfold Threads.holders
  refine List.map_congr_left fun y _ => ?_
  unfold Threads.heldAs
  rw [hw']
  by_cases hy : y = new
  · subst hy
    simp only [↓reduceIte, hr, if_neg (Ne.symm hd)]
  · rw [if_neg hy]

/-- The rotation succeeds. -/
theorem rotate (h : Accounted w) {new : SessionId} {reconnect : PlayerReconnect}
    (ht : w.tasks[new]? = some (.replacing reconnect)) {token : DungeonUdpToken}
    {session : DungeonUdpSession} (hs : w.udp.sessions[reconnect.dungeonId]? = some session) :
    Accounted ({ w with udp := { w.udp with
      sessions := w.udp.sessions.insert reconnect.dungeonId
        (rotated reconnect.replacedSessionId new token session) } }.assign new none) := by
  have hr : w.unsettled new = some reconnect := by simp [Threads.unsettled, ht, Task.reconnect]
  have hun : ∀ y, ({ w with udp := { w.udp with
      sessions := w.udp.sessions.insert reconnect.dungeonId
        (rotated reconnect.replacedSessionId new token session) } }.assign new none).unsettled y =
      if y = new then none else w.unsettled y := by
    intro y
    rw [Threads.unsettled_assign]
    rfl
  have hopened : ∀ x, x ∈ w.udp.sessions.insert reconnect.dungeonId
      (rotated reconnect.replacedSessionId new token session) ↔ x ∈ w.udp.sessions := by
    intro x
    grind
  refine ⟨h.indexed, ?_, ?_, ?_, ?_, ?_, ?_, h.swept⟩
  · intro x reconnect' hx
    rw [hun] at hx
    split at hx
    · cases hx
    · exact h.rebound x reconnect' hx
  · intro x y r r' hx hy
    rw [hun] at hx hy
    split at hx
    · cases hx
    · split at hy
      · cases hy
      · exact h.distinct x y r r' hx hy
  · intro x hx
    refine (h.opened x ((hopened x).mp hx)).imp_right fun hrel => ?_
    exact Threads.releasing_assign (w := { w with udp := _ }) (by simp [ht]) hrel
  · intro x dungeon hx hd y hy
    have hx' := (hopened x).mp hx
    have hhas := rotated_tokens hs reconnect.replacedSessionId new token x y
    refine hhas.trans ?_
    by_cases hxd : x = reconnect.dungeonId
    · subst hxd
      rw [h.holders_settled hr hd hun, ← h.tokens _ dungeon hx' hd y hy]
      simp
    · rw [holders_elsewhere hr hun hxd, ← h.tokens x dungeon hx' hd y hy]
      simp [hxd]
  · intro x y dungeon hx hd
    obtain ⟨hclosed, hnot⟩ := h.removed x y dungeon hx hd
    refine ⟨hclosed, ?_⟩
    by_cases hxd : x = reconnect.dungeonId
    · subst hxd
      rw [h.holders_settled hr hd hun]
      rintro (rfl | ⟨hin, -⟩)
      · exact (h.open_closed hr).1 hclosed
      · exact hnot hin
    · rwa [holders_elsewhere hr hun hxd]
  · intro x hx
    exact h.known x ((hopened x).mp hx)

/-! ### Slots that change hands -/

/-- A participant is replaced in its slot, and the token of the slot stays where it is. -/
theorem move (h : Accounted w) {d : DungeonId} {dungeon : DungeonInstance} {p x y : Nat}
    {player : DungeonPlayerState} {since : IdMap Int} (hi : Indexed w'.history)
    (hissued : w'.history.issued = w.history.issued) (hclosed : w'.history.closed = w.history.closed)
    (hd : w.history.manager.dungeons[d]? = some dungeon)
    (hb : dungeon.playerSessions[p]? = some x) (hfree : y ∉ dungeon.players)
    (hdungeons : w'.history.manager.dungeons =
      w.history.manager.dungeons.insert d (moved p x y player since dungeon))
    (hrebound : ∀ new reconnect, w'.unsettled new = some reconnect → Rebound w'.history new reconnect)
    (hdistinct : ∀ new other reconnect reconnect', w'.unsettled new = some reconnect →
      w'.unsettled other = some reconnect' → reconnect.dungeonId = reconnect'.dungeonId →
      reconnect.replacedSessionId = reconnect'.replacedSessionId → new = other)
    (hheld : w'.heldAs d y = w.heldAs d x)
    (hothers : ∀ e s, (e = d → s ∈ dungeon.participants ∧ s ≠ x) → w'.heldAs e s = w.heldAs e s)
    (hudp : w'.udp = w.udp) (hrem : w'.removing = w.removing)
    (hrel : ∀ e, w.Releasing e → w'.Releasing e) : Accounted w' := by
  have hc := h.indexed.index.consistent d dungeon hd
  have hx : x ∈ dungeon.participants := (hc.bound_session hb).2.1
  have hy : y ∉ dungeon.participants := by rwa [hc.listed]
  -- every dungeon is still there, and calls for the same tokens
  have hlive : ∀ e, e ∈ w'.history.manager.dungeons ↔ e ∈ w.history.manager.dungeons := by
    intro e
    rw [hdungeons]
    grind
  have hslot : ∀ z, z ∈ w'.holders d (moved p x y player since dungeon) ↔ z ∈ w.holders d dungeon := by
    intro z
    simp only [Threads.mem_holders, moved, mem_replace hc.nodup hx hy]
    constructor
    · rintro ⟨u, rfl | ⟨hu, hux⟩, rfl⟩
      · exact ⟨x, hx, hheld.symm⟩
      · exact ⟨u, hu, (hothers d u fun _ => ⟨hu, hux⟩).symm⟩
    · rintro ⟨u, hu, rfl⟩
      by_cases hux : u = x
      · subst hux
        exact ⟨y, Or.inl rfl, hheld⟩
      · exact ⟨u, Or.inr ⟨hu, hux⟩, hothers d u fun _ => ⟨hu, hux⟩⟩
  have hsame : ∀ (e : DungeonId) (dungeon' : DungeonInstance),
      w'.history.manager.dungeons[e]? = some dungeon' →
      ∃ before, w.history.manager.dungeons[e]? = some before ∧
        ∀ z, z ∈ w'.holders e dungeon' ↔ z ∈ w.holders e before := by
    intro e dungeon' he
    rw [hdungeons] at he
    by_cases hed : d = e
    · subst hed
      obtain rfl : moved p x y player since dungeon = dungeon' := by simpa using he
      exact ⟨dungeon, hd, hslot⟩
    · refine ⟨dungeon', by grind, ?_⟩
      intro z
      unfold Threads.holders
      rw [List.map_congr_left fun s _ => hothers e s fun heq => absurd heq.symm hed]
  refine ⟨hi, hrebound, hdistinct, ?_, ?_, ?_, ?_, ?_⟩
  · intro e he
    rw [hudp] at he
    rw [hlive]
    exact (h.opened e he).imp_right (hrel e)
  · intro e dungeon' hs he z hz
    rw [hudp] at hs ⊢
    rw [hrem] at hz
    obtain ⟨before, hbefore, hh⟩ := hsame e dungeon' he
    rw [hh]
    exact h.tokens e before hs hbefore z hz
  · intro e z dungeon' hz he
    rw [hrem] at hz
    obtain ⟨before, hbefore, hh⟩ := hsame e dungeon' he
    rw [hh, hclosed]
    exact h.removed e z before hz hbefore
  · intro e he
    rw [hudp] at he
    rw [hissued]
    exact h.known e he
  · rw [hrem, hissued]
    exact h.swept

/-- The slot of another reconnect while `x` is replaced by `y` in dungeon `d`. -/
theorem rebound_moved (h : Accounted w) {d : DungeonId} {dungeon : DungeonInstance} {p x y : Nat}
    {player : DungeonPlayerState} {since : IdMap Int} {new : SessionId} {reconnect : PlayerReconnect}
    (hr : w.unsettled new = some reconnect) (hissued : w'.history.issued = w.history.issued)
    (hrec : w'.history.reconnects[new]? = w.history.reconnects[new]?)
    (hd : w.history.manager.dungeons[d]? = some dungeon)
    (hb : dungeon.playerSessions[p]? = some x) (hx : x ≠ new)
    (hy : reconnect.dungeonId = d → reconnect.replacedSessionId ≠ y)
    (hdungeons : w'.history.manager.dungeons =
      w.history.manager.dungeons.insert d (moved p x y player since dungeon)) :
    Rebound w'.history new reconnect := by
  obtain ⟨hrecorded, hknown, hslot⟩ := h.rebound new reconnect hr
  refine ⟨hrec.trans hrecorded, hissued ▸ hknown, ?_⟩
  intro dungeon' hd'
  rw [hdungeons] at hd'
  by_cases heq : d = reconnect.dungeonId
  · subst heq
    obtain rfl : moved p x y player since dungeon = dungeon' := by simpa using hd'
    obtain ⟨h1, h2, h3, h4⟩ := hslot dungeon hd
    have hp : p ≠ reconnect.playerId := by
      rintro rfl
      rw [hb] at h3
      exact hx (Option.some.inj h3)
    have := hy rfl
    refine ⟨h1, h2, ?_, ?_⟩
    · simp only [moved]
      grind
    · simp only [moved]
      grind
  · exact hslot dungeon' (by grind)

/-- A registration takes a slot back: the token of the slot stays under the old id. -/
theorem takeBack (h : Accounted w) {s d p old : Nat} {t now grace : Int} {dungeon : DungeonInstance}
    {player : DungeonPlayerState} (hi : Indexed w'.history)
    (hissued : w'.history.issued = w.history.issued) (hclosed : w'.history.closed = w.history.closed)
    (hrec : w'.history.reconnects = w.history.reconnects.insert s ⟨d, p, old, t⟩)
    (hd : w.history.manager.dungeons[d]? = some dungeon)
    (hr : Reconnectable dungeon p s now grace old t)
    (hdungeons : w'.history.manager.dungeons = w.history.manager.dungeons.insert d
      (moved p old s player (dungeon.disconnectedSince.erase old) dungeon))
    (hs : w.unsettled s = none)
    (hun : ∀ x, w'.unsettled x = if x = s then some ⟨d, p, old, t⟩ else w.unsettled x)
    (hudp : w'.udp = w.udp) (hrem : w'.removing = w.removing)
    (hrel : ∀ e, w.Releasing e → w'.Releasing e) : Accounted w' := by
  have hc := h.indexed.index.consistent d dungeon hd
  have hold : old ∈ dungeon.players := (hc.bound_session hr.bound).1
  have holdclosed : old ∈ w.history.closed := h.indexed.marked d dungeon hd old (by
    have := hr.since
    grind)
  have hopen : s ∉ w'.history.closed := (hi.opened s ⟨d, p, old, t⟩ (by rw [hrec]; simp)).1
  rw [hclosed] at hopen
  have hother : ∀ x, x ≠ s → w'.unsettled x = w.unsettled x := by
    intro x hx
    rw [hun, if_neg hx]
  have hself : w'.unsettled s = some ⟨d, p, old, t⟩ := by rw [hun, if_pos rfl]
  -- the slot was the slot of no reconnect under way
  have hnone : ∀ new reconnect, w.unsettled new = some reconnect → reconnect.dungeonId = d →
      reconnect.replacedSessionId ≠ old := by
    rintro new reconnect hnew rfl heq
    exact (h.rebound new reconnect hnew).slot dungeon hd |>.free (heq ▸ hold)
  refine h.move hi hissued hclosed hd hr.bound hr.fresh hdungeons ?_ ?_ ?_ ?_ hudp hrem hrel
  · intro new reconnect hnew
    by_cases hns : new = s
    · subst hns
      rw [hself] at hnew
      obtain rfl := Option.some.inj hnew
      refine ⟨by rw [hrec]; simp, ?_, ?_⟩
      · rw [hissued]
        exact h.indexed.index.live d (by grind)
      · intro dungeon' hd'
        rw [hdungeons] at hd'
        obtain rfl : moved p old new player (dungeon.disconnectedSince.erase old) dungeon = dungeon' := by
          simpa using hd'
        have hne : new ≠ old := fun heq => hr.fresh (heq ▸ hold)
        refine ⟨hr.player, (hc.bound_session hr.bound).2.2, ?_, ?_⟩
        · simp [moved]
        · simp only [moved]
          grind
    · rw [hother new hns] at hnew
      refine h.rebound_moved hnew hissued ?_ hd hr.bound ?_ ?_ hdungeons
      · rw [hrec]
        grind
      · rintro rfl
        exact (h.open_closed hnew).1 holdclosed
      · rintro - rfl
        exact hopen (h.open_closed hnew).2
  · intro new other reconnect reconnect' h1 h2 hde hoe
    rw [hun] at h1 h2
    split at h1
    · split at h2
      · simp_all
      · obtain rfl := Option.some.inj h1
        exact absurd hoe.symm (hnone other reconnect' h2 hde.symm)
    · split at h2
      · obtain rfl := Option.some.inj h2
        exact absurd hoe (hnone new reconnect h1 hde)
      · exact h.distinct new other reconnect reconnect' h1 h2 hde hoe
  · rw [Threads.heldAs_of_none (h.unsettled_closed holdclosed)]
    exact Threads.heldAs_of_some hself
  · intro e x hx
    by_cases hxs : x = s
    · subst hxs
      have hed : e ≠ d := by
        intro hed
        exact hr.fresh ((hc.listed x).mp (hx hed).1)
      rw [Threads.heldAs_of_none hs]
      simp only [Threads.heldAs, hself, if_neg hed.symm]
    · simp only [Threads.heldAs, hother x hxs]

/-- A rollback gives the slot back to the old id, under which the token still is. -/
theorem giveBack (h : Accounted w) {new : SessionId} {reconnect : PlayerReconnect}
    {dungeon : DungeonInstance} {player : DungeonPlayerState} {since : IdMap Int}
    (hi : Indexed w'.history) (hissued : w'.history.issued = w.history.issued)
    (hclosed : w'.history.closed = w.history.closed)
    (hrec : w'.history.reconnects = w.history.reconnects.erase new)
    (hd : w.history.manager.dungeons[reconnect.dungeonId]? = some dungeon)
    (hdungeons : w'.history.manager.dungeons = w.history.manager.dungeons.insert reconnect.dungeonId
      (moved reconnect.playerId new reconnect.replacedSessionId player since dungeon))
    (hr : w.unsettled new = some reconnect)
    (hun : ∀ x, w'.unsettled x = if x = new then none else w.unsettled x)
    (hudp : w'.udp = w.udp) (hrem : w'.removing = w.removing)
    (hrel : ∀ e, w.Releasing e → w'.Releasing e) : Accounted w' := by
  have hslot := (h.rebound new reconnect hr).slot dungeon hd
  have hother : ∀ x, x ≠ new → w'.unsettled x = w.unsettled x := by
    intro x hx
    rw [hun, if_neg hx]
  have hold : w.unsettled reconnect.replacedSessionId = none :=
    h.unsettled_closed (h.open_closed hr).2
  have hne : reconnect.replacedSessionId ≠ new := by
    intro heq
    rw [heq, hr] at hold
    cases hold
  refine h.move hi hissued hclosed hd hslot.bound hslot.free hdungeons ?_ ?_ ?_ ?_ hudp hrem hrel
  · intro x reconnect' hx
    rw [hun] at hx
    split at hx
    · cases hx
    · rename_i hxn
      refine h.rebound_moved hx hissued ?_ hd hslot.bound (Ne.symm hxn) ?_ hdungeons
      · rw [hrec]
        grind
      · intro hde hoe
        exact hxn (h.distinct x new reconnect' reconnect hx hr hde hoe)
  · intro x y r r' hx hy
    rw [hun] at hx hy
    split at hx
    · cases hx
    · split at hy
      · cases hy
      · exact h.distinct x y r r' hx hy
  · rw [Threads.heldAs_of_some hr]
    exact Threads.heldAs_of_none (by rw [hother _ hne, hold]) _
  · intro e x hx
    by_cases hxn : x = new
    · subst hxn
      have hed : reconnect.dungeonId ≠ e := fun hed => (hx hed.symm).2 rfl
      rw [Threads.heldAs_of_none (by rw [hun, if_pos rfl])]
      simp only [Threads.heldAs, hr, if_neg hed]
    · simp only [Threads.heldAs, hother x hxn]

/-- The sweep: a participant that goes was held under its own id, and its token is on the list
of the tick. -/
theorem sweep (h : Accounted w) (report : DungeonAbandonmentSweep)
    (hs : Swept w.history w'.history report) (hidle : w.TickIdle) (hudp : w'.udp = w.udp)
    (htasks : w'.tasks = w.tasks) :
    Accounted { w' with removing := report.removedParticipants
                        releasing := report.releasedDungeons } := by
  have hun : ∀ s, Threads.unsettled { w' with removing := report.removedParticipants
                                              releasing := report.releasedDungeons } s =
      w.unsettled s := by
    intro s
    rw [Threads.unsettled, Threads.unsettled, htasks]
  refine ⟨hs.indexed, ?_, ?_, ?_, ?_, ?_, ?_, ?_⟩
  · intro new reconnect hr
    rw [hun] at hr
    obtain ⟨hrecorded, hknown, hslot⟩ := h.rebound new reconnect hr
    refine ⟨hs.reconnects ▸ hrecorded, hs.issued ▸ hknown, ?_⟩
    intro dungeon' hd'
    obtain ⟨dungeon, gone, hd, rfl, hgone⟩ := hs.kept _ dungeon' hd'
    obtain ⟨h1, h2, h3, h4⟩ := hslot dungeon hd
    have hnew : new ∉ gone := fun hm => (h.open_closed hr).1 ((hgone new).2 hm).2
    refine ⟨h1, h2, ?_, ?_⟩
    · simp only [without]
      grind
    · simp only [without]
      grind
  · intro new other reconnect reconnect' h1 h2
    rw [hun] at h1 h2
    exact h.distinct new other reconnect reconnect' h1 h2
  · intro d hd
    replace hd : d ∈ w.udp.sessions := hudp ▸ hd
    by_cases hlive : d ∈ w'.history.manager.dungeons
    · exact Or.inl hlive
    · refine Or.inr ?_
      rcases h.opened d hd with hold | hold | ⟨s, hold⟩
      · exact Or.inl (hs.dropped d hold hlive)
      · rw [hidle.2] at hold
        cases hold
      · exact Or.inr ⟨s, htasks ▸ hold⟩
  · intro d dungeon' hopen hd' x hx
    obtain ⟨dungeon, gone, hd, rfl, hgone⟩ := hs.kept d dungeon' hd'
    have hold := h.tokens d dungeon (hudp ▸ hopen) hd x (by simp [hidle.1])
    rw [Threads.holders_congr hun d rfl, hudp, hold, Threads.mem_holders, Threads.mem_holders]
    constructor
    · rintro ⟨y, hy, rfl⟩
      refine ⟨y, List.mem_filter.mpr ⟨hy, ?_⟩, rfl⟩
      -- a closed participant is held under its own id
      have hnot : y ∉ gone := by
        intro hm
        have hself := Threads.heldAs_of_none (h.unsettled_closed ((hgone y).2 hm).2) d
        exact hx ((hgone _).1.mpr (hself.symm ▸ hm))
      simpa using hnot
    · rintro ⟨y, hy, rfl⟩
      exact ⟨y, List.mem_of_mem_filter hy, rfl⟩
  · intro d x dungeon' hx hd'
    obtain ⟨dungeon, gone, hd, rfl, hgone⟩ := hs.kept d dungeon' hd'
    have hm := (hgone x).1.mp hx
    obtain ⟨hlisted, hclosed⟩ := (hgone x).2 hm
    refine ⟨hs.closed ▸ hclosed, ?_⟩
    rw [Threads.holders_congr hun d rfl, Threads.mem_holders]
    rintro ⟨y, hy, hheld⟩
    rcases w.heldAs_cases d y with hself | ⟨reconnect, hr, rfl, hreplaced⟩
    · rw [hself] at hheld
      subst hheld
      simp [without, hm] at hy
    · rw [hreplaced] at hheld
      exact (h.slot hr hd).2 (hheld ▸ hlisted)
  · intro d hd
    rw [hs.issued]
    exact h.known d (hudp ▸ hd)
  · intro participant hp
    rw [hs.issued]
    exact hs.removed participant hp

/-- The reconnect of a dungeon that is gone has no token left to settle. -/
theorem forget (h : Accounted w) {new : SessionId} {reconnect : PlayerReconnect} {task : Option Task}
    (hr : w.unsettled new = some reconnect)
    (hgone : reconnect.dungeonId ∉ w.history.manager.dungeons)
    (ht : task.bind Task.reconnect = none) : Accounted (w.assign new task) := by
  have hun : ∀ y, (w.assign new task).unsettled y = if y = new then none else w.unsettled y := by
    intro y
    rw [Threads.unsettled_assign, ht]
  have hholders : ∀ (d : DungeonId) (dungeon : DungeonInstance),
      w.history.manager.dungeons[d]? = some dungeon →
      (w.assign new task).holders d dungeon = w.holders d dungeon := by
    intro d dungeon hd
    refine holders_elsewhere hr hun ?_ dungeon
    rintro rfl
    exact hgone (by grind)
  refine ⟨h.indexed, ?_, ?_, ?_, ?_, ?_, h.known, h.swept⟩
  · intro x reconnect' hx
    rw [hun] at hx
    split at hx
    · cases hx
    · exact h.rebound x reconnect' hx
  · intro x y r r' hx hy
    rw [hun] at hx hy
    split at hx
    · cases hx
    · split at hy
      · cases hy
      · exact h.distinct x y r r' hx hy
  · intro d hd
    refine (h.opened d hd).imp_right (Threads.releasing_assign ?_)
    intro hrel
    simp [Threads.unsettled, hrel, Task.reconnect] at hr
  · intro d dungeon hs hd x hx
    rw [hholders d dungeon hd]
    exact h.tokens d dungeon hs hd x hx
  · intro d x dungeon hx hd
    rw [hholders d dungeon hd]
    exact h.removed d x dungeon hx hd

/-! ### Every step -/

/-- A step of a session whose call moves nobody. -/
theorem calm_assign (h : Accounted w) (hc : Calm w.history w'.history) (hudp : w'.udp = w.udp)
    (htasks : w'.tasks = w.tasks) (hrem : w'.removing = w.removing)
    (hrel : w'.releasing = w.releasing) {s : SessionId} {task : Option Task}
    (hs : w.unsettled s = task.bind Task.reconnect)
    (hnot : ∀ d, w.tasks[s]? ≠ some (.releasing d))
    (hrec : ∀ new reconnect, w.unsettled new = some reconnect →
      w'.history.reconnects[new]? = w.history.reconnects[new]?)
    (hdrop : ∀ d, d ∈ w.history.manager.dungeons → d ∉ w'.history.manager.dungeons →
      (w'.assign s task).Releasing d) : Accounted (w'.assign s task) := by
  refine h.calm hc hrec ?_ hudp hrem ?_ hdrop
  · intro x
    rw [Threads.unsettled_assign_same]
    · rw [Threads.unsettled, Threads.unsettled, htasks]
    · rw [← hs, Threads.unsettled, Threads.unsettled, htasks]
  · intro d hd
    refine Threads.releasing_assign (htasks ▸ hnot d) ?_
    rwa [Threads.Releasing, htasks, hrel]

/-- A step of a session that calls no manager, or one that leaves the tokens alone. -/
theorem udp_assign (h : Accounted w) {u : DungeonUdpManager} (hu : SameTokens w.udp u)
    {s : SessionId} {task : Option Task} (hs : w.unsettled s = task.bind Task.reconnect)
    (hnot : ∀ d, w.tasks[s]? ≠ some (.releasing d)) :
    Accounted ({ w with udp := u }.assign s task) :=
  h.sameTokens rfl (Threads.unsettled_assign_same (w := { w with udp := u }) hs) hu rfl
    fun d hd => Threads.releasing_assign (w := { w with udp := u }) (hnot d) hd

theorem registerPlayerSession (h : Accounted w) {s p : Nat} {now grace : Int}
    {order : List DungeonId} (hs : s ∉ w.tasks)
    (hn : w.manage (.registerPlayerSession s p now grace order) = some w') :
    Accounted (w'.assign s ((reconnectOf p
      (w.history.manager.registerPlayerSession s p now grace order).1).map .replacing)) := by
  obtain ⟨hnext, hudp, htasks, hrem, hrel⟩ := Threads.manage_spec hn
  have hfree : w.tasks[s]? = none := by grind
  have hsettled : w.unsettled s = none := by simp [Threads.unsettled, hfree]
  rcases Calm.register h.indexed hnext with ⟨hnone, hc, hrec, hlive⟩ |
    ⟨d, dungeon, old, t, player, hback, hrec, hissued, hclosed, hd, hr, hdungeons⟩
  · rw [hnone]
    refine h.calm_assign hc hudp htasks hrem hrel (by simp [hsettled]) (by simp [hfree]) ?_ ?_
    · intro new reconnect hnew
      have hne : s ≠ new := by
        rintro rfl
        rw [hsettled] at hnew
        cases hnew
      rw [hrec]
      grind
    · intro d hd hgone
      exact absurd (hlive d hd) hgone
  · rw [hback]
    refine h.takeBack (h.indexed.next hnext) hissued hclosed hrec hd hr hdungeons hsettled ?_ hudp
      hrem ?_
    · intro x
      rw [Threads.unsettled_assign, Threads.unsettled, Threads.unsettled, htasks]
      rfl
    · intro e he
      refine Threads.releasing_assign (by simp [htasks, hfree]) ?_
      rwa [Threads.Releasing, htasks, hrel]

theorem rollbackPlayerReconnect (h : Accounted w) {new : SessionId} {reconnect : PlayerReconnect}
    (ht : w.tasks[new]? = some (.rollingBack reconnect))
    (hn : w.manage (.rollbackPlayerReconnect new reconnect) = some w') :
    Accounted (w'.assign new (if (w.history.manager.rollbackPlayerReconnect reconnect.dungeonId
        reconnect.playerId new reconnect.replacedSessionId reconnect.disconnectedAt).1 then none
      else some .givingUp)) := by
  obtain ⟨hnext, hudp, htasks, hrem, hrel⟩ := Threads.manage_spec hn
  have hr : w.unsettled new = some reconnect := by simp [Threads.unsettled, ht, Task.reconnect]
  rcases Calm.rollback h.indexed hnext (h.rebound new reconnect hr).slot with
    ⟨hgone, hfalse, hc, hrec, hsame⟩ | ⟨dungeon, player, since, hd, htrue, hrec, hissued, hclosed, hdungeons⟩
  · rw [hfalse, if_neg Bool.false_ne_true]
    have hforgotten : Accounted (w.assign new (some .givingUp)) := h.forget hr hgone rfl
    refine hforgotten.calm hc ?_ ?_ hudp hrem ?_ ?_
    · intro x reconnect' hx
      have hne : new ≠ x := by
        rintro rfl
        rw [Threads.unsettled_assign, if_pos rfl] at hx
        cases hx
      simp only [Threads.assign, hrec]
      grind
    · intro x
      rw [Threads.unsettled_assign, Threads.unsettled_assign, Threads.unsettled, Threads.unsettled,
        htasks]
    · rintro d (hd | ⟨x, hx⟩)
      · exact Or.inl (hrel ▸ hd)
      · refine Or.inr ⟨x, ?_⟩
        rw [Threads.task_assign] at hx ⊢
        rwa [htasks]
    · intro d hd hd'
      exact absurd (hsame ▸ hd) hd'
  · rw [htrue]
    refine h.giveBack (h.indexed.next hnext) hissued hclosed hrec hd hdungeons hr ?_ hudp hrem ?_
    · intro x
      rw [if_pos rfl, Threads.unsettled_assign, Threads.unsettled, Threads.unsettled, htasks]
      rfl
    · intro e he
      refine Threads.releasing_assign (by simp [htasks, ht]) ?_
      rwa [Threads.Releasing, htasks, hrel]

/-- A session without an unsettled reconnect is disconnected. -/
theorem disconnect (h : Accounted w) {s : SessionId} {t : Int} {order : List DungeonId}
    {task : Option Task} (hs : w.unsettled s = none) (hnot : ∀ d, w.tasks[s]? ≠ some (.releasing d))
    (ht : task.bind Task.reconnect = none)
    (hn : w.manage (.disconnectPlayerSession s t order) = some w') : Accounted (w'.assign s task) := by
  obtain ⟨hnext, hudp, htasks, hrem, hrel⟩ := Threads.manage_spec hn
  obtain ⟨hc, hrec, hlive⟩ := Calm.disconnect h.indexed hnext
  refine h.calm_assign hc hudp htasks hrem hrel (hs.trans ht.symm) hnot ?_ ?_
  · intro new reconnect hnew
    have hne : s ≠ new := by
      rintro rfl
      rw [hs] at hnew
      cases hnew
    rw [hrec]
    grind
  · intro d hd hgone
    exact absurd (hlive d hd) hgone

/-- The tick calls the dungeon manager; `released` is what it has to release then. -/
theorem tick (h : Accounted w) (hidle : w.TickIdle) (hc : Calm w.history w'.history)
    (hudp : w'.udp = w.udp) (htasks : w'.tasks = w.tasks) (hrem : w'.removing = w.removing)
    (hrec : w'.history.reconnects = w.history.reconnects) (released : List DungeonId)
    (hdrop : ∀ d, d ∈ w.history.manager.dungeons → d ∉ w'.history.manager.dungeons → d ∈ released) :
    Accounted { w' with releasing := released } := by
  refine h.calm hc (fun _ _ _ => by rw [hrec]) ?_ hudp hrem ?_ fun d hd hgone => Or.inl (hdrop d hd hgone)
  · intro s
    rw [Threads.unsettled, Threads.unsettled, htasks]
  · rintro d (hd | ⟨s, hs⟩)
    · rw [hidle.2] at hd
      cases hd
    · exact Or.inr ⟨s, htasks ▸ hs⟩

theorem createDungeon (h : Accounted w) {s : SessionId} {parties : PartyManager}
    {catalog : DungeonCatalog} {partyId : PartyId} {templateId : DungeonTemplateId} {now : Int}
    (hs : s ∉ w.tasks)
    (hn : w.manage (.createDungeon parties catalog partyId templateId now) = some w') :
    Accounted w' ∧ ∀ d, Accounted (w'.assign s (some (.created d))) := by
  obtain ⟨hnext, hudp, htasks, hrem, hrel⟩ := Threads.manage_spec hn
  obtain ⟨hc, hrec, hlive⟩ := Calm.create h.indexed hnext
  have hfree : w.tasks[s]? = none := by grind
  refine ⟨?_, ?_⟩
  · refine h.calm hc (fun _ _ _ => by rw [hrec]) ?_ hudp hrem ?_ fun d hd hgone =>
      absurd (hlive d hd) hgone
    · intro x
      rw [Threads.unsettled, Threads.unsettled, htasks]
    · intro d hd
      rwa [Threads.Releasing, htasks, hrel]
  · intro d
    exact h.calm_assign hc hudp htasks hrem hrel (by simp [Threads.unsettled, hfree, Task.reconnect])
      (by simp [hfree]) (fun _ _ _ => by rw [hrec]) fun d hd hgone => absurd (hlive d hd) hgone

/-- Every step that meets the condition keeps the account. -/
theorem next {step : ThreadStep} (h : Accounted w) (hasked : Asked w) (hok : Timely w step)
    (hn : w.next step = some w') : Accounted w' := by
  cases step with
  | createDungeon s parties catalog partyId templateId now =>
    simp only [Threads.next] at hn
    split at hn
    · cases hn
    · rename_i hs
      obtain ⟨w1, hm, rfl⟩ := Option.map_eq_some_iff.mp hn
      split
      · exact (h.createDungeon hs hm).2 _
      · exact (h.createDungeon hs hm).1
  | readParticipants s =>
    simp only [Threads.next] at hn
    split at hn
    · rename_i d ht
      obtain rfl := Option.some.inj hn
      exact h.udp_assign (SameTokens.refl _) (by simp [Threads.unsettled, ht, Task.reconnect])
        (by simp [ht])
    · cases hn
  | allocate s socket draws =>
    simp only [Threads.next] at hn
    split at hn
    · rename_i d participants ht
      obtain ⟨out, hout, rfl⟩ := Option.map_eq_some_iff.mp hn
      exact h.allocate ht hout hok (hasked s (.listed d participants) d ht rfl)
    · cases hn
  | findToken s =>
    simp only [Threads.next] at hn
    split at hn
    · rename_i d success ht
      obtain rfl := Option.some.inj hn
      refine h.udp_assign (SameTokens.refl _) ?_ (by simp [ht])
      split <;> simp [Threads.unsettled, ht, Task.reconnect]
    · cases hn
  | cancelDungeon s =>
    simp only [Threads.next] at hn
    split at hn
    · rename_i d ht
      obtain ⟨w1, hm, rfl⟩ := Option.map_eq_some_iff.mp hn
      obtain ⟨hnext, hudp, htasks, hrem, hrel⟩ := Threads.manage_spec hm
      obtain ⟨hc, hrec, hdrop⟩ := Calm.cancel h.indexed hnext
      refine h.calm_assign hc hudp htasks hrem hrel ?_ (by simp [ht]) (fun _ _ _ => by rw [hrec]) ?_
      · split <;> simp [Threads.unsettled, ht, Task.reconnect]
      · intro e he hgone
        obtain ⟨rfl, hcancelled⟩ := hdrop e he hgone
        exact Or.inr ⟨s, by rw [Threads.task_assign, if_pos rfl, if_pos hcancelled]⟩
    · cases hn
  | release s =>
    simp only [Threads.next] at hn
    split at hn
    · rename_i d ht
      obtain rfl := Option.some.inj hn
      refine h.release (d := d) rfl ?_ rfl rfl ?_
      · exact Threads.unsettled_assign_same (w := { w with udp := (w.udp.release d).2 })
          (by simp [Threads.unsettled, ht, Task.reconnect])
      · intro x hx hrel
        refine Threads.releasing_assign (w := { w with udp := (w.udp.release d).2 }) ?_ hrel
        simpa [ht] using Ne.symm hx
    · cases hn
  | registerPlayerSession s p now grace order =>
    simp only [Threads.next] at hn
    split at hn
    · cases hn
    · rename_i hs
      obtain ⟨w1, hm, rfl⟩ := Option.map_eq_some_iff.mp hn
      exact h.registerPlayerSession hs hm
  | replaceParticipant s draws =>
    simp only [Threads.next] at hn
    split at hn
    · rename_i reconnect ht
      obtain rfl := Option.some.inj hn
      rcases replaceParticipant_cases reconnect.dungeonId reconnect.replacedSessionId s draws w.udp with
        he | ⟨token, session, hsession, -, -, he⟩
      · rw [he]
        exact h.udp_assign (SameTokens.refl _) (by simp [Threads.unsettled, ht, Task.reconnect])
          (by simp [ht])
      · rw [he]
        exact h.rotate ht hsession
    · cases hn
  | rollbackPlayerReconnect s =>
    simp only [Threads.next] at hn
    split at hn
    · rename_i reconnect ht
      obtain ⟨w1, hm, rfl⟩ := Option.map_eq_some_iff.mp hn
      exact h.rollbackPlayerReconnect ht hm
    · cases hn
  | giveUp s t order =>
    simp only [Threads.next] at hn
    split at hn
    · rename_i ht
      obtain ⟨w1, hm, rfl⟩ := Option.map_eq_some_iff.mp hn
      exact h.disconnect (by simp [Threads.unsettled, ht, Task.reconnect]) (by simp [ht]) rfl hm
    · cases hn
  | disconnectPlayerSession s t order =>
    simp only [Threads.next] at hn
    split at hn
    · cases hn
    · rename_i hs
      obtain ⟨w1, hm, rfl⟩ := Option.map_eq_some_iff.mp hn
      have hfree : w.tasks[s]? = none := by grind
      refine h.disconnect (by simp [Threads.unsettled, hfree]) (by simp [hfree]) ?_ hm
      cases (w.history.manager.disconnectPlayerSession s t order).1 <;> rfl
  | disconnectParticipant s =>
    simp only [Threads.next] at hn
    split at hn
    · rename_i d ht
      obtain rfl := Option.some.inj hn
      exact h.udp_assign (disconnectParticipant_sameTokens d s w.udp)
        (by simp [Threads.unsettled, ht, Task.reconnect]) (by simp [ht])
    · cases hn
  | tickSweep now grace lifetime =>
    simp only [Threads.next] at hn
    split at hn
    · rename_i hidle
      obtain ⟨w1, hm, rfl⟩ := Option.map_eq_some_iff.mp hn
      obtain ⟨hnext, hudp, htasks, -, -⟩ := Threads.manage_spec hm
      exact h.sweep _ (swept_of_next h.indexed hnext) hidle hudp htasks
    · cases hn
  | tickRemoveParticipant =>
    simp only [Threads.next] at hn
    split at hn
    · rename_i participant rest hr
      obtain rfl := Option.some.inj hn
      exact h.removeParticipant hr
    · cases hn
  | tickStart catalog d =>
    simp only [Threads.next] at hn
    split at hn
    · rename_i hidle
      obtain ⟨hnext, hudp, htasks, hrem, hrel⟩ := Threads.manage_spec hn
      obtain ⟨hc, hrec, hlive⟩ := Calm.start h.indexed hnext
      exact h.tick hidle hc hudp htasks hrem hrec w'.releasing fun d hd hgone =>
        absurd (hlive d hd) hgone
    · cases hn
  | tickCancel d =>
    simp only [Threads.next] at hn
    split at hn
    · rename_i hidle
      obtain ⟨w1, hm, rfl⟩ := Option.map_eq_some_iff.mp hn
      obtain ⟨hnext, hudp, htasks, hrem, -⟩ := Threads.manage_spec hm
      obtain ⟨hc, hrec, hdrop⟩ := Calm.cancel h.indexed hnext
      refine h.tick hidle hc hudp htasks hrem hrec _ ?_
      intro e he hgone
      obtain ⟨rfl, hcancelled⟩ := hdrop e he hgone
      simp [hcancelled]
    · cases hn
  | tickFinish d =>
    simp only [Threads.next] at hn
    split at hn
    · rename_i hidle
      obtain ⟨w1, hm, rfl⟩ := Option.map_eq_some_iff.mp hn
      obtain ⟨hnext, hudp, htasks, hrem, -⟩ := Threads.manage_spec hm
      obtain ⟨hc, hrec, hdrop⟩ := Calm.finish h.indexed hnext
      refine h.tick hidle hc hudp htasks hrem hrec _ ?_
      intro e he hgone
      obtain ⟨rfl, hfinished⟩ := hdrop e he hgone
      simp [hfinished]
    · cases hn
  | tickRelease =>
    simp only [Threads.next] at hn
    split at hn
    · rename_i d rest hrem hrel
      obtain rfl := Option.some.inj hn
      refine h.release (d := d) rfl (fun _ => rfl) rfl rfl ?_
      rintro x hx (hin | htask)
      · rw [hrel] at hin
        exact Or.inl (List.mem_of_ne_of_mem hx hin)
      · exact Or.inr htask
    · cases hn

/-- When nothing is under way, nothing is left to account for. -/
theorem quiescent (h : Accounted w) (hq : w.Quiescent) {d : DungeonId} {session : DungeonUdpSession}
    (hs : w.udp.sessions[d]? = some session) :
    ∃ dungeon, w.history.manager.dungeons[d]? = some dungeon ∧
      ∀ x, x ∈ session.tokens ↔ x ∈ dungeon.participants := by
  obtain ⟨htasks, hrem, hrel⟩ := hq
  have hopen : d ∈ w.udp.sessions := by grind
  have hlive : d ∈ w.history.manager.dungeons := by
    rcases h.opened d hopen with hd | hd | ⟨s, hd⟩
    · exact hd
    · rw [hrel] at hd
      cases hd
    · simp [htasks] at hd
  have hd : w.history.manager.dungeons[d]? = some w.history.manager.dungeons[d] := by grind
  refine ⟨_, hd, ?_⟩
  intro x
  rw [← hasToken_iff hs, h.tokens d _ hopen hd x (by simp [hrem]), Threads.mem_holders]
  have hheld : ∀ y, w.heldAs d y = y := fun y =>
    Threads.heldAs_of_none (by simp [Threads.unsettled, htasks]) d
  simp [hheld]

end Accounted

/-- In every interleaving in which each allocation is timely, once no operation is under way
every dungeon with a UDP session is live and the holders of its tokens are its participants. -/
theorem udp_sessions_settle {steps : List ThreadStep} {w : Threads}
    (hm : Meets Threads.next Timely {} steps) (hr : run Threads.next {} steps = some w)
    (hq : w.Quiescent) :
    ∀ (d : DungeonId) (session : DungeonUdpSession), w.udp.sessions[d]? = some session →
      ∃ dungeon, w.history.manager.dungeons[d]? = some dungeon ∧
        ∀ s, s ∈ session.tokens ↔ s ∈ dungeon.participants := by
  have hstart : Accounted {} ∧ Asked {} := ⟨Accounted.start, by simp [Asked]⟩
  have h : Accounted w ∧ Asked w :=
    run_invariant (fun w => Accounted w ∧ Asked w)
      (fun _ _ _ h hok hn => ⟨h.1.next h.2 hok hn, h.2.next hn⟩) hstart hm hr
  intro d session hs
  exact h.1.quiescent hq hs

/-- The second participant drops out and comes back between the two calls of the allocation's
request, and its token is rotated once it is there. -/
def rotatedAfterAllocate : List ThreadStep :=
  [.registerPlayerSession 101 5001 0 60 [],
    .createDungeon 100 partyOfTwo oneDungeonCatalog 7 1 1,
    .readParticipants 100,
    .disconnectPlayerSession 101 2 [1], .disconnectParticipant 101,
    .registerPlayerSession 300 5001 3 60 [1],
    .allocate 100 (some 7000) [11, 12],
    .replaceParticipant 300 (.replicate _ 13),
    .findToken 100,
    .tickSweep 4 60 3600]

theorem udp_sessions_settle_rotatedAfterAllocate :
    ∃ w, run Threads.next {} rotatedAfterAllocate = some w ∧ w.Quiescent ∧ 1 ∈ w.udp.sessions ∧
      HasToken w.udp 1 300 ∧
      ∀ (d : DungeonId) (session : DungeonUdpSession), w.udp.sessions[d]? = some session →
        ∃ dungeon, w.history.manager.dungeons[d]? = some dungeon ∧
          ∀ s, s ∈ session.tokens ↔ s ∈ dungeon.participants := by
  obtain ⟨w, hr⟩ : ∃ w, run Threads.next {} rotatedAfterAllocate = some w :=
    Option.isSome_iff_exists.mp (by decide)
  have hstate : w.Quiescent ∧ 1 ∈ w.udp.sessions ∧ HasToken w.udp 1 300 := by
    cases hr
    decide
  exact ⟨w, hr, hstate.1, hstate.2.1, hstate.2.2, udp_sessions_settle (by decide) hr hstate.1⟩

/-- The tick cancels the dungeon before its UDP session is allocated. -/
def cancelledBeforeAllocate : List ThreadStep :=
  [.createDungeon 100 partyOfTwo oneDungeonCatalog 7 1 1, .readParticipants 100, .tickCancel 1,
    .tickRelease, .allocate 100 (some 7000) [11, 12], .findToken 100]

/-- The list is read while a reconnect has no token to rotate yet, and the reconnect is rolled
back afterwards. -/
def allocatedBeforeRollback : List ThreadStep :=
  [.registerPlayerSession 101 5001 0 60 [],
    .createDungeon 100 partyOfTwo oneDungeonCatalog 7 1 1,
    .disconnectPlayerSession 101 2 [1], .disconnectParticipant 101,
    .registerPlayerSession 300 5001 3 60 [1],
    .readParticipants 100, .allocate 100 (some 7000) [11, 12], .findToken 100,
    .replaceParticipant 300 (.replicate _ 13), .rollbackPlayerReconnect 300]

/-- All operations have completed and a UDP session is left without a dungeon; in the other run
a session that is no participant holds a token and a participant holds none. -/
theorem udp_session_left_over :
    (∃ w, run Threads.next {} cancelledBeforeAllocate = some w ∧ w.Quiescent ∧
      1 ∈ w.udp.sessions ∧ 1 ∉ w.history.manager.dungeons) ∧
    ∃ w, run Threads.next {} allocatedBeforeRollback = some w ∧ w.Quiescent ∧
      HasToken w.udp 1 300 ∧ ¬ HasToken w.udp 1 101 ∧
      ∃ dungeon, w.history.manager.dungeons[1]? = some dungeon ∧
        DungeonInstance.participants dungeon = [100, 101] := by
  constructor
  · obtain ⟨w, hr⟩ : ∃ w, run Threads.next {} cancelledBeforeAllocate = some w :=
      Option.isSome_iff_exists.mp (by decide)
    refine ⟨w, hr, ?_⟩
    cases hr
    decide
  · obtain ⟨w, hr⟩ : ∃ w, run Threads.next {} allocatedBeforeRollback = some w :=
      Option.isSome_iff_exists.mp (by decide)
    refine ⟨w, hr, ?_⟩
    cases hr
    decide

end DnfServer.Udp
