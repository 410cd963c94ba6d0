import DnfServer.Manager.Indices

/-!
# A snapshot against a reconnect

`EncodeDungeonSnapshot` copies the participants of a dungeon under its lock and then looks
up one player after the other, each under the lock again, and throws when one is missing.
Between two of these steps other threads call the manager, and a registration or a
rollback that moves a participant to another session id takes away the key that is looked
up next. The combat processor walks the same copy and skips a missing player instead.

The tick holds a pointer to the dungeon that it encodes. The model keeps the dungeon
behind the pointer beside the manager and lets it follow the manager's entry; once the
entry is gone nobody writes the dungeon any more.
-/

namespace DnfServer.Manager

open Std DnfServer.Library DnfServer.Participants DungeonManager
set_option autoImplicit false

/-- Where the tick is in `EncodeDungeonSnapshot`. -/
inductive Encoding where
  | outside
  | found (dungeonId : DungeonId) (dungeon : DungeonInstance)
  | lookups (dungeonId : DungeonId) (dungeon : DungeonInstance) (remaining : List SessionId)
  | threw
  deriving DecidableEq

structure Snapshots where
  history : History := {}
  encoding : Encoding := .outside

/-- The calls that other threads make. The others are made by the tick itself. -/
def Call.ofOtherThread : Call → Bool
  | .sweepAbandonedParticipants .. | .startDungeon .. | .finishCleared .. | .finishDungeon .. => false
  | _ => true

inductive SnapshotStep where
  | call (call : Call)
  | findDungeon (dungeonId : DungeonId)
  | copyParticipants
  | findPlayer

/-- The dungeon behind a pointer after a call: the entry of the manager, if it is there. -/
def Encoding.follow (m : DungeonManager) : Encoding → Encoding
  | .found d dungeon => .found d (m.dungeons[d]?.getD dungeon)
  | .lookups d dungeon remaining => .lookups d (m.dungeons[d]?.getD dungeon) remaining
  | place => place

/-- The snapshot loops visit running and finished dungeons. -/
def Snapshots.next (w : Snapshots) : SnapshotStep → Option Snapshots
  | .call call =>
    if call.ofOtherThread ∨ w.encoding = .outside then
      (w.history.next call).map fun history =>
        { history, encoding := w.encoding.follow history.manager }
    else none
  | .findDungeon d => match w.encoding, w.history.manager.findDungeon d with
    | .outside, some dungeon =>
      if dungeon.state ≠ .waiting then some { w with encoding := .found d dungeon } else none
    | _, _ => none
  | .copyParticipants => match w.encoding with
    | .found d dungeon => some { w with encoding := .lookups d dungeon dungeon.participants }
    | _ => none
  | .findPlayer => match w.encoding with
    | .lookups d dungeon (s :: remaining) => match dungeon.findPlayer s with
      | some _ => some { w with encoding := .lookups d dungeon remaining }
      | none => some { w with encoding := .threw }
    | .lookups _ _ [] => some { w with encoding := .outside }
    | _ => none

/-- The participant that a call moves to another session id. -/
def rebinds (m : DungeonManager) : Call → Option (DungeonId × SessionId)
  | .registerPlayerSession s p now grace order =>
    let result := (m.registerPlayerSession s p now grace order).1
    if result.status = .reconnected then some (result.dungeonId, result.replacedSessionId) else none
  | .rollbackPlayerReconnect new reconnect =>
    if (m.rollbackPlayerReconnect reconnect.dungeonId reconnect.playerId new
        reconnect.replacedSessionId reconnect.disconnectedAt).1 then
      some (reconnect.dungeonId, new)
    else none
  | _ => none

/-- The condition on one step: no call moves a participant of the dungeon that is being encoded
while its session id has been copied and not yet looked up. -/
def SparesSnapshot (w : Snapshots) : SnapshotStep → Prop
  | .call call => match w.encoding with
    | .lookups d _ remaining => ∀ s ∈ remaining, rebinds w.history.manager call ≠ some (d, s)
    | _ => True
  | _ => True

instance (w : Snapshots) (step : SnapshotStep) : Decidable (SparesSnapshot w step) := by
  cases step with
  | call call =>
    dsimp only [SparesSnapshot]
    split <;> infer_instance
  | _ => exact instDecidableTrue

/-! ## What a call does to one dungeon -/

section

variable {h h' : History} {call : Call} {d : DungeonId}

/-- What a call does to the record of one dungeon whose id was handed out. -/
inductive Altered (m m' : DungeonManager) (call : Call) (d : DungeonId) : Prop
  | same (h : m'.dungeons[d]? = m.dungeons[d]?)
  | gone (h : m'.dungeons[d]? = none)
  /-- A call of another thread keeps every key of the players, but for the participant that it
  moves. -/
  | changed (dungeon dungeon' : DungeonInstance) (h : m.dungeons[d]? = some dungeon)
      (h' : m'.dungeons[d]? = some dungeon')
      (hplayers : call.ofOtherThread = true → ∀ x ∈ dungeon.players,
        x ∈ dungeon'.players ∨ rebinds m call = some (d, x))

/-- A call that replaces the record of one dungeon. -/
theorem altered_insert {m m' : DungeonManager} {y : DungeonId} {dungeon dungeon' : DungeonInstance}
    (hy : m.dungeons[y]? = some dungeon) (hm : m'.dungeons = m.dungeons.insert y dungeon')
    (hplayers : call.ofOtherThread = true → ∀ x ∈ dungeon.players,
      x ∈ dungeon'.players ∨ rebinds m call = some (y, x)) : Altered m m' call d := by
  by_cases hyd : y = d
  · subst hyd
    exact .changed dungeon dungeon' hy (by simp [hm]) hplayers
  · refine .same ?_
    rw [hm, ExtTreeMap.getElem?_insert]
    simp [hyd]

theorem altered_removeDungeon {m : DungeonManager} (y : DungeonId) (dungeon : DungeonInstance) :
    Altered m (m.removeDungeon y dungeon) call d := by
  by_cases hyd : y = d
  · refine .gone ?_
    simp [removeDungeon, hyd]
  · refine .same ?_
    simp only [removeDungeon, ExtTreeMap.getElem?_erase]
    simp [hyd]

theorem altered_of_next (hi : Indexed h) (hn : h.next call = some h') (hissued : d ∈ h.issued) :
    Altered h.manager h'.manager call d := by
  cases call with
  | createDungeon parties catalog partyId templateId now =>
    obtain rfl := Option.some.inj hn
    have hfree : h.manager.nextDungeonId ≠ d := fun he =>
      Nat.lt_irrefl _ (hi.index.below _ (he ▸ hissued))
    refine .same ?_
    rcases create_cases h.manager parties catalog partyId templateId now with
      ⟨status, -, he⟩ | ⟨party, template, -, -, he⟩
    · rw [he]
    · rcases insert_cases h.manager partyId party template now with
        ⟨status, -, he'⟩ | ⟨failure, he'⟩ | ⟨built, other, -, -, -, he'⟩
      · rw [he, he']
      · rw [he, he']
      · rw [he, he']
        simp only
        grind
  | registerPlayerSession s p now grace order =>
    simp only [History.next] at hn
    split at hn
    · rename_i horder
      obtain rfl := Option.some.inj hn
      cases register_outcome hi.index.consistent horder.2 s p now grace with
      | refused ha he => exact .same (by rw [he])
      | unbound ha y other hy hs hb he => exact .same (by rw [he])
      | bound ha y other hy hs hb he =>
        have hsp : (signIn s p h.manager).authenticatedPlayers[s]? = some p := by simp [signIn]
        have hplayers := (binds_bindParticipantPlayer _ hsp other).players
        refine altered_insert hy (by rw [he]) ?_
        intro _ x hx
        rw [hplayers]
        exact Or.inl hx
      | newcomer ha hnone hr he => exact .same (by rw [he]; rfl)
      | back ha hnone y other old t player hy hf hr hp he =>
        refine altered_insert hy (by rw [he]; rfl) ?_
        intro _ x hx
        by_cases hold : x = old
        · right
          simp [rebinds, he, hold]
        · left
          rw [moved]
          grind
    · cases hn
  | rollbackPlayerReconnect new reconnect =>
    obtain ⟨y, p, old, t⟩ := reconnect
    simp only [History.next] at hn
    split at hn
    · obtain rfl := Option.some.inj hn
      rcases rollbackPlayer_cases hi.index.consistent y p new old t with
        ⟨-, he⟩ | ⟨other, player, hy, hr, hp, he⟩
      · exact .same (by rw [he])
      · refine altered_insert hy (by rw [he]) ?_
        intro _ x hx
        by_cases hnew : x = new
        · right
          simp [rebinds, he, hnew]
        · left
          rw [moved]
          grind
    · cases hn
  | disconnectPlayerSession s t order =>
    simp only [History.next] at hn
    split at hn
    · rename_i horder
      obtain rfl := Option.some.inj hn
      rcases disconnectPlayer_cases horder s t with
        ⟨-, he⟩ | ⟨-, -, he⟩ | ⟨-, y, other, hy, hs, he⟩
      · exact .same (by rw [he])
      · exact .same (by rw [he]; simp)
      · refine altered_insert hy (by rw [he]) ?_
        intro _ x hx
        exact Or.inl hx
    · cases hn
  | sweepAbandonedParticipants now grace lifetime =>
    obtain rfl := Option.some.inj hn
    by_cases hpos : 0 < grace ∧ 0 < lifetime
    · have hswept := (sweep_effect hpos.1 hpos.2 now h.manager).dungeons d
      cases hd : h.manager.dungeons[d]? with
      | none => exact .gone (by simp only [hswept, hd, Option.bind_none])
      | some dungeon =>
        rw [hd, Option.bind_some] at hswept
        cases hkept : swept now grace lifetime dungeon with
        | none => exact .gone (hswept.trans hkept)
        | some dungeon' =>
          refine .changed dungeon dungeon' hd (hswept.trans hkept) ?_
          intro ho
          cases ho
    · exact .same (by simp only [sweep_idle hpos])
  | startDungeon catalog y =>
    obtain rfl := Option.some.inj hn
    rcases startDungeon_cases catalog y h.manager with he | ⟨dungeon, state, rooms, hy, -, he⟩
    · exact .same (by simp only [he])
    · refine altered_insert hy (by rw [he]) ?_
      intro ho
      cases ho
  | cancelDungeon y =>
    obtain rfl := Option.some.inj hn
    rcases cancel_cases h.manager y with he | ⟨dungeon, hy, -, he⟩
    · exact .same (by rw [he])
    · rw [he]
      exact altered_removeDungeon y dungeon
  | finishCleared y =>
    obtain rfl := Option.some.inj hn
    rcases finishCleared_cases y h.manager with he | ⟨dungeon, hy, -, he⟩
    · exact .same (by simp only [he])
    · refine altered_insert hy (by rw [he]) ?_
      intro ho
      cases ho
  | finishDungeon y =>
    obtain rfl := Option.some.inj hn
    rcases finish_cases h.manager y with he | ⟨dungeon, hy, -, he⟩
    · exact .same (by rw [he])
    · rw [he]
      exact altered_removeDungeon y dungeon
  | stop =>
    obtain rfl := Option.some.inj hn
    by_cases hstop : h.manager.stopping = true
    · exact .same (by simp only [DungeonManager.stop, if_pos hstop])
    · refine .gone ?_
      simp [DungeonManager.stop, hstop]

end

/-! ## The run -/

/-- The dungeon behind the tick's pointer. -/
structure Held (h : History) (d : DungeonId) (dungeon : DungeonInstance) : Prop where
  issued : d ∈ h.issued
  consistent : Consistent dungeon
  live : ∀ live, h.manager.dungeons[d]? = some live → live = dungeon

/-- What holds at each place of the tick. -/
def Held.At (h : History) : Encoding → Prop
  | .outside => True
  | .found d dungeon => Held h d dungeon
  | .lookups d dungeon remaining => Held h d dungeon ∧ ∀ s ∈ remaining, s ∈ dungeon.players
  | .threw => False

theorem Held.call {h h' : History} {d : DungeonId} {dungeon : DungeonInstance} (hh : Held h d dungeon)
    (hi : Indexed h) {call : Call} (hn : h.next call = some h') :
    Held h' d (h'.manager.dungeons[d]?.getD dungeon) := by
  refine ⟨issued_mono hn hh.issued, ?_, ?_⟩
  · cases hd : h'.manager.dungeons[d]? with
    | none => exact hh.consistent
    | some dungeon' => exact (hi.next hn).index.consistent d dungeon' hd
  · intro live hl
    rw [hl]
    rfl

/-- The keys that were copied survive a call that spares them. -/
theorem Held.remaining {h h' : History} {d : DungeonId} {dungeon : DungeonInstance}
    (hh : Held h d dungeon) (hi : Indexed h) {call : Call} (hn : h.next call = some h')
    (ho : call.ofOtherThread = true) {s : SessionId} (hs : s ∈ dungeon.players)
    (hspared : rebinds h.manager call ≠ some (d, s)) :
    s ∈ (h'.manager.dungeons[d]?.getD dungeon).players := by
  cases altered_of_next hi hn hh.issued with
  | same he =>
    rw [he]
    cases hd : h.manager.dungeons[d]? with
    | none => exact hs
    | some live => rwa [Option.getD_some, hh.live live hd]
  | gone he => rwa [he]
  | changed live dungeon' hd hd' hplayers =>
    obtain rfl := hh.live live hd
    rw [hd']
    exact (hplayers ho s hs).resolve_right hspared

/-- The invariant of the interleaving. -/
structure Encodable (w : Snapshots) : Prop where
  indexed : Indexed w.history
  place : Held.At w.history w.encoding

theorem Encodable.call {w w' : Snapshots} (h : Encodable w) {call : Call}
    (hok : SparesSnapshot w (.call call)) (hn : w.next (.call call) = some w') : Encodable w' := by
  simp only [Snapshots.next] at hn
  split at hn
  · rename_i hthread
    simp only [Option.map_eq_some_iff] at hn
    obtain ⟨history, hcall, rfl⟩ := hn
    refine ⟨h.indexed.next hcall, ?_⟩
    have hplace := h.place
    dsimp only [SparesSnapshot] at hok
    cases he : w.encoding with
    | outside => trivial
    | found d dungeon =>
      rw [he] at hplace
      exact Held.call hplace h.indexed hcall
    | lookups d dungeon remaining =>
      rw [he] at hplace hok hthread
      obtain ⟨hheld, hkeys⟩ := hplace
      refine ⟨hheld.call h.indexed hcall, ?_⟩
      intro s hs
      exact hheld.remaining h.indexed hcall (by simpa using hthread) (hkeys s hs) (hok s hs)
    | threw =>
      rw [he] at hplace
      exact hplace
  · cases hn

theorem Encodable.next {w w' : Snapshots} {step : SnapshotStep} (h : Encodable w)
    (hok : SparesSnapshot w step) (hn : w.next step = some w') : Encodable w' := by
  have hplace := h.place
  cases step with
  | call call => exact h.call hok hn
  | findDungeon d =>
    simp only [Snapshots.next] at hn
    split at hn
    · rename_i dungeon he hd
      split at hn
      · obtain rfl := Option.some.inj hn
        have hd : w.history.manager.dungeons[d]? = some dungeon := hd
        refine ⟨h.indexed, h.indexed.index.live d (by grind), h.indexed.index.consistent d dungeon hd, ?_⟩
        intro live hl
        rw [hd] at hl
        exact (Option.some.inj hl).symm
      · cases hn
    · cases hn
  | copyParticipants =>
    simp only [Snapshots.next] at hn
    split at hn
    · rename_i d dungeon he
      obtain rfl := Option.some.inj hn
      rw [he] at hplace
      exact ⟨h.indexed, hplace, fun s hs => (hplace.consistent.listed s).mp hs⟩
    · cases hn
  | findPlayer =>
    simp only [Snapshots.next] at hn
    split at hn
    · rename_i d dungeon s remaining he
      rw [he] at hplace
      obtain ⟨hheld, hkeys⟩ := hplace
      split at hn
      · obtain rfl := Option.some.inj hn
        exact ⟨h.indexed, hheld, fun x hx => hkeys x (List.mem_cons_of_mem _ hx)⟩
      · rename_i hnone
        have hs := hkeys s List.mem_cons_self
        simp only [DungeonInstance.findPlayer] at hnone
        grind
    · obtain rfl := Option.some.inj hn
      exact ⟨h.indexed, trivial⟩
    · cases hn

/-- In every interleaving whose calls spare the snapshot the tick never throws: each session id
that it has copied is a key of the players when it is looked up. -/
theorem snapshot_never_throws {steps : List SnapshotStep} {w : Snapshots}
    (hm : Meets Snapshots.next SparesSnapshot {} steps)
    (hr : run Snapshots.next {} steps = some w) :
    w.encoding ≠ .threw ∧ ∀ d dungeon remaining, w.encoding = .lookups d dungeon remaining →
      ∀ s ∈ remaining, ∃ player, dungeon.findPlayer s = some player := by
  have hstart : Encodable {} := ⟨Indexed.start, trivial⟩
  have h := run_invariant Encodable (fun _ _ _ h hok hn => h.next hok hn) hstart hm hr
  have hplace := h.place
  refine ⟨?_, ?_⟩
  · intro he
    rw [he] at hplace
    exact hplace
  · intro d dungeon remaining he s hs
    rw [he] at hplace
    have hkey := hplace.2 s hs
    exact ⟨dungeon.players[s], by simp only [DungeonInstance.findPlayer]; grind⟩

/-- Two players are in a running dungeon, and the first drops out. The tick takes the dungeon
and copies the participants `100` and `101`. -/
def copiedBoth : List SnapshotStep :=
  [.call (.registerPlayerSession 100 5001 0 60 []),
    .call (.createDungeon partyOfTwo oneDungeonCatalog 7 1 1), .call (.startDungeon {} 1),
    .call (.disconnectPlayerSession 100 10 [1]), .findDungeon 1, .copyParticipants]

/-- The player comes back after its old id was looked up. -/
def lookedUpBefore : List SnapshotStep :=
  copiedBoth ++ [.findPlayer, .call (.registerPlayerSession 300 5001 20 60 [1]), .findPlayer,
    .findPlayer]

theorem snapshot_never_throws_lookedUpBefore :
    ∃ w, run Snapshots.next {} lookedUpBefore = some w ∧ w.encoding ≠ .threw := by
  obtain ⟨w, hr⟩ : ∃ w, run Snapshots.next {} lookedUpBefore = some w :=
    Option.isSome_iff_exists.mp (by decide)
  exact ⟨w, hr, (snapshot_never_throws (by decide) hr).1⟩

/-- The player comes back between the copy and the lookup of its old id. -/
theorem snapshot_throws :
    ∃ w, run Snapshots.next {}
        (copiedBoth ++ [.call (.registerPlayerSession 300 5001 20 60 [1]), .findPlayer]) = some w ∧
      w.encoding = .threw := by
  obtain ⟨w, hr⟩ : ∃ w, run Snapshots.next {}
      (copiedBoth ++ [.call (.registerPlayerSession 300 5001 20 60 [1]), .findPlayer]) = some w :=
    Option.isSome_iff_exists.mp (by decide)
  refine ⟨w, hr, ?_⟩
  cases hr
  decide

end DnfServer.Manager
