import DnfServer.Library.Runs
import DnfServer.Manager.Indices
import DnfServer.Udp.Effects

/-!
# The two managers under interleaving

An EnterDungeon request, a registration, a disconnect and each operation of the tick call
the dungeon manager and the UDP manager one after the other, and other threads run in
between. Each call of a manager is one step here. A session has one operation under way
at most (it runs on the strand of the session), and so has the tick.
-/

namespace DnfServer.Udp

open Std DnfServer.Library DnfServer.Participants DnfServer.Manager DungeonManager
set_option autoImplicit false

/-- What an operation of a session has still to do. -/
inductive Task where
  /-- `CreateDungeon` is done; next are `Participants` and `Allocate`. -/
  | created (dungeonId : DungeonId)
  | listed (dungeonId : DungeonId) (participants : List SessionId)
  | allocated (dungeonId : DungeonId) (success : Bool)
  /-- The dungeon is not ready and is cancelled. -/
  | cancelling (dungeonId : DungeonId)
  | releasing (dungeonId : DungeonId)
  /-- A registration took a slot back; next is the token. -/
  | replacing (reconnect : PlayerReconnect)
  | rollingBack (reconnect : PlayerReconnect)
  | givingUp
  /-- The session is marked disconnected; next is its runtime state. -/
  | leaving (dungeonId : DungeonId)
  deriving DecidableEq

/-- The reconnect whose token the operation has still to settle. -/
def Task.reconnect : Task → Option PlayerReconnect
  | .replacing reconnect => some reconnect
  | .rollingBack reconnect => some reconnect
  | _ => none

/-- The managers and the operations under way. `removing` and `releasing` are what the tick has
still to do; `retired` holds the dungeons that were taken out of the manager, to which a
request may still have a pointer. -/
structure Threads where
  history : Manager.History := {}
  udp : DungeonUdpManager := {}
  tasks : IdMap Task := ∅
  removing : List AbandonedDungeonParticipant := []
  releasing : List DungeonId := []
  retired : IdMap DungeonInstance := ∅

inductive ThreadStep where
  | createDungeon (sessionId : SessionId) (parties : PartyManager) (catalog : DungeonCatalog)
      (partyId : PartyId) (templateId : DungeonTemplateId) (now : Int)
  | readParticipants (sessionId : SessionId)
  | allocate (sessionId : SessionId) (socket : Option UInt16) (draws : List DungeonUdpToken)
  | findToken (sessionId : SessionId)
  | cancelDungeon (sessionId : SessionId)
  | release (sessionId : SessionId)
  | registerPlayerSession (sessionId : SessionId) (playerId : PlayerId) (now reconnectGrace : Int)
      (order : List DungeonId)
  | replaceParticipant (sessionId : SessionId) (draws : Vector DungeonUdpToken maxTokenAttempts)
  | rollbackPlayerReconnect (sessionId : SessionId)
  | giveUp (sessionId : SessionId) (disconnectedAt : Int) (order : List DungeonId)
  | disconnectPlayerSession (sessionId : SessionId) (disconnectedAt : Int) (order : List DungeonId)
  | disconnectParticipant (sessionId : SessionId)
  | tickSweep (now reconnectGrace maxDungeonLifetime : Int)
  | tickRemoveParticipant
  | tickStart (enemyCatalog : EnemyCatalog) (dungeonId : DungeonId)
  | tickCancel (dungeonId : DungeonId)
  | tickFinish (dungeonId : DungeonId)
  | tickRelease

/-- The dungeon that a call which takes it out of the manager leaves to its other holders. -/
def lastState : Call → DungeonInstance → DungeonInstance
  | .sweepAbandonedParticipants now grace lifetime, dungeon =>
    (sweepDungeon now grace lifetime dungeon).2
  | _, dungeon => dungeon

namespace Threads

def assign (w : Threads) (s : SessionId) (task : Option Task) : Threads :=
  { w with tasks := match task with
      | some task => w.tasks.insert s task
      | none => w.tasks.erase s }

/-- One call of the dungeon manager. -/
def manage (w : Threads) (call : Call) : Option Threads :=
  (w.history.next call).map fun history =>
    { w with
      history
      retired := w.history.manager.dungeons.toList.foldl (fun retired entry =>
        if entry.1 ∈ history.manager.dungeons then retired
        else retired.insert entry.1 (lastState call entry.2)) w.retired }

/-- The participants that a pointer to the dungeon shows. -/
def participantsOf (w : Threads) (d : DungeonId) : List SessionId :=
  ((w.history.manager.findDungeon d).or w.retired[d]?).elim [] (·.participants)

/-- The tick has finished its last operation. -/
def TickIdle (w : Threads) : Prop := w.removing = [] ∧ w.releasing = []

instance (w : Threads) : Decidable w.TickIdle := inferInstanceAs (Decidable (_ ∧ _))

def next (w : Threads) : ThreadStep → Option Threads
  | .createDungeon s parties catalog partyId templateId now =>
    if s ∈ w.tasks then none
    else (w.manage (.createDungeon parties catalog partyId templateId now)).map fun w' =>
      match (w.history.manager.createDungeon parties catalog partyId templateId now).1 with
      | .ok { status := .success, dungeon := some dungeon } =>
        w'.assign s (some (.created dungeon.dungeonId))
      | _ => w'
  | .readParticipants s => match w.tasks[s]? with
    | some (.created d) => some (w.assign s (some (.listed d (w.participantsOf d))))
    | _ => none
  | .allocate s socket draws => match w.tasks[s]? with
    | some (.listed d participants) =>
      (w.udp.allocate d participants socket draws).map fun out =>
        { w with udp := out.2 }.assign s (some (.allocated d out.1.isSome))
    | _ => none
  | .findToken s => match w.tasks[s]? with
    | some (.allocated d success) =>
      some (w.assign s (if success ∧ (w.udp.findToken d s).isSome then none
        else some (.cancelling d)))
    | _ => none
  | .cancelDungeon s => match w.tasks[s]? with
    | some (.cancelling d) => (w.manage (.cancelDungeon d)).map fun w' =>
        w'.assign s (if (w.history.manager.cancelDungeon d).1 then some (.releasing d) else none)
    | _ => none
  | .release s => match w.tasks[s]? with
    | some (.releasing d) => some ({ w with udp := (w.udp.release d).2 }.assign s none)
    | _ => none
  | .registerPlayerSession s p now grace order =>
    if s ∈ w.tasks then none
    else (w.manage (.registerPlayerSession s p now grace order)).map fun w' =>
      w'.assign s ((reconnectOf p
        (w.history.manager.registerPlayerSession s p now grace order).1).map .replacing)
  | .replaceParticipant s draws => match w.tasks[s]? with
    | some (.replacing reconnect) =>
      let out := w.udp.replaceParticipant reconnect.dungeonId reconnect.replacedSessionId s draws
      some ({ w with udp := out.2 }.assign s
        (if out.1.isSome then none else some (.rollingBack reconnect)))
    | _ => none
  | .rollbackPlayerReconnect s => match w.tasks[s]? with
    | some (.rollingBack reconnect) =>
      (w.manage (.rollbackPlayerReconnect s reconnect)).map fun w' =>
        w'.assign s (if (w.history.manager.rollbackPlayerReconnect reconnect.dungeonId
            reconnect.playerId s reconnect.replacedSessionId reconnect.disconnectedAt).1 then none
          else some .givingUp)
    | _ => none
  | .giveUp s t order => match w.tasks[s]? with
    | some .givingUp =>
      (w.manage (.disconnectPlayerSession s t order)).map fun w' => w'.assign s none
    | _ => none
  | .disconnectPlayerSession s t order =>
    if s ∈ w.tasks then none
    else (w.manage (.disconnectPlayerSession s t order)).map fun w' =>
      w'.assign s ((w.history.manager.disconnectPlayerSession s t order).1.map .leaving)
  | .disconnectParticipant s => match w.tasks[s]? with
    | some (.leaving d) => some ({ w with udp := (w.udp.disconnectParticipant d s).2 }.assign s none)
    | _ => none
  | .tickSweep now grace lifetime =>
    if w.TickIdle then
      (w.manage (.sweepAbandonedParticipants now grace lifetime)).map fun w' =>
        let sweep := (w.history.manager.sweepAbandonedParticipants now grace lifetime).1
        { w' with removing := sweep.removedParticipants, releasing := sweep.releasedDungeons }
    else none
  | .tickRemoveParticipant => match w.removing with
    | participant :: rest => some { w with
        udp := (w.udp.removeParticipant participant.dungeonId participant.sessionId).2
        removing := rest }
    | [] => none
  | .tickStart catalog d => if w.TickIdle then w.manage (.startDungeon catalog d) else none
  | .tickCancel d =>
    if w.TickIdle then
      (w.manage (.cancelDungeon d)).map fun w' =>
        { w' with releasing := if (w.history.manager.cancelDungeon d).1 then [d] else [] }
    else none
  | .tickFinish d =>
    if w.TickIdle then
      (w.manage (.finishDungeon d)).map fun w' =>
        { w' with releasing := if (w.history.manager.finishDungeon d).1 then [d] else [] }
    else none
  | .tickRelease => match w.removing, w.releasing with
    | [], d :: rest => some { w with udp := (w.udp.release d).2, releasing := rest }
    | _, _ => none

/-- All operations that were started have completed. -/
def Quiescent (w : Threads) : Prop := w.tasks = ∅ ∧ w.TickIdle

instance (w : Threads) : Decidable w.Quiescent := inferInstanceAs (Decidable (_ ∧ _))

/-- The reconnect of a session whose token is not settled yet. -/
def unsettled (w : Threads) (s : SessionId) : Option PlayerReconnect :=
  (w.tasks[s]?).bind Task.reconnect

/-- The session id under which the token of a participant of dungeon `d` is kept: the old one,
as long as its reconnect is not settled. -/
def heldAs (w : Threads) (d : DungeonId) (s : SessionId) : SessionId :=
  match w.unsettled s with
  | some reconnect => if reconnect.dungeonId = d then reconnect.replacedSessionId else s
  | none => s

/-- The holders of tokens that the participants of a dungeon call for. -/
def holders (w : Threads) (d : DungeonId) (dungeon : DungeonInstance) : List SessionId :=
  dungeon.participants.map (w.heldAs d)

/-- The dungeon is out of the manager, and the operation that took it out will release its UDP
session. -/
def Releasing (w : Threads) (d : DungeonId) : Prop :=
  d ∈ w.releasing ∨ ∃ s : SessionId, w.tasks[s]? = some (.releasing d)

variable {w w' : Threads}

theorem task_assign (w : Threads) (s : SessionId) (task : Option Task) (x : SessionId) :
    (w.assign s task).tasks[x]? = if x = s then task else w.tasks[x]? := by
  unfold assign
  cases task with
  | none =>
    simp only
    grind
  | some task =>
    simp only
    grind

theorem unsettled_assign (w : Threads) (s : SessionId) (task : Option Task) (x : SessionId) :
    (w.assign s task).unsettled x = if x = s then task.bind Task.reconnect else w.unsettled x := by
  rw [unsettled, task_assign]
  split <;> rfl

/-- A task that neither settles a reconnect nor starts one. -/
theorem unsettled_assign_same {s : SessionId} {task : Option Task}
    (h : w.unsettled s = task.bind Task.reconnect) (x : SessionId) :
    (w.assign s task).unsettled x = w.unsettled x := by
  rw [unsettled_assign]
  split
  · rename_i hx
    rw [hx, h]
  · rfl

/-- A task other than the release of a dungeon is replaced. -/
theorem releasing_assign {s : SessionId} {task : Option Task} {d : DungeonId}
    (hs : w.tasks[s]? ≠ some (.releasing d)) (h : w.Releasing d) : (w.assign s task).Releasing d := by
  rcases h with h | ⟨x, hx⟩
  · exact Or.inl h
  · refine Or.inr ⟨x, ?_⟩
    rw [task_assign, if_neg]
    · exact hx
    · rintro rfl
      exact hs hx

theorem heldAs_congr (h : ∀ s, w'.unsettled s = w.unsettled s) (d : DungeonId) (s : SessionId) :
    w'.heldAs d s = w.heldAs d s := by
  unfold heldAs
  rw [h]

theorem holders_congr (h : ∀ s, w'.unsettled s = w.unsettled s) (d : DungeonId)
    {dungeon dungeon' : DungeonInstance} (hp : dungeon'.participants = dungeon.participants) :
    w'.holders d dungeon' = w.holders d dungeon := by
  unfold holders
  rw [hp]
  exact List.map_congr_left fun s _ => heldAs_congr h d s

theorem mem_holders {d : DungeonId} {dungeon : DungeonInstance} {x : SessionId} :
    x ∈ w.holders d dungeon ↔ ∃ y ∈ dungeon.participants, w.heldAs d y = x :=
  List.mem_map

theorem heldAs_of_none {s : SessionId} (h : w.unsettled s = none) (d : DungeonId) :
    w.heldAs d s = s := by
  simp only [heldAs, h]

theorem heldAs_of_some {s : SessionId} {reconnect : PlayerReconnect}
    (h : w.unsettled s = some reconnect) :
    w.heldAs reconnect.dungeonId s = reconnect.replacedSessionId := by
  simp only [heldAs, h, ↓reduceIte]

/-- A participant is held under its own id, or under the old one of its unsettled reconnect. -/
theorem heldAs_cases (w : Threads) (d : DungeonId) (s : SessionId) :
    w.heldAs d s = s ∨ ∃ reconnect, w.unsettled s = some reconnect ∧ reconnect.dungeonId = d ∧
      w.heldAs d s = reconnect.replacedSessionId := by
  unfold heldAs
  cases h : w.unsettled s with
  | none => exact Or.inl rfl
  | some reconnect =>
    by_cases hd : reconnect.dungeonId = d
    · exact Or.inr ⟨reconnect, rfl, hd, by simp [hd]⟩
    · exact Or.inl (by simp [hd])

theorem manage_spec {call : Call} (h : w.manage call = some w') :
    w.history.next call = some w'.history ∧ w'.udp = w.udp ∧ w'.tasks = w.tasks ∧
      w'.removing = w.removing ∧ w'.releasing = w.releasing := by
  simp only [manage, Option.map_eq_some_iff] at h
  obtain ⟨history, hn, rfl⟩ := h
  exact ⟨hn, rfl, rfl, rfl, rfl⟩

/-- The call of the dungeon manager that a step makes. -/
def call (w : Threads) : ThreadStep → Option Call
  | .createDungeon _ parties catalog partyId templateId now =>
    some (.createDungeon parties catalog partyId templateId now)
  | .cancelDungeon s => match w.tasks[s]? with
    | some (.cancelling d) => some (.cancelDungeon d)
    | _ => none
  | .registerPlayerSession s p now grace order => some (.registerPlayerSession s p now grace order)
  | .rollbackPlayerReconnect s => match w.tasks[s]? with
    | some (.rollingBack reconnect) => some (.rollbackPlayerReconnect s reconnect)
    | _ => none
  | .giveUp s t order => some (.disconnectPlayerSession s t order)
  | .disconnectPlayerSession s t order => some (.disconnectPlayerSession s t order)
  | .tickSweep now grace lifetime => some (.sweepAbandonedParticipants now grace lifetime)
  | .tickStart catalog d => some (.startDungeon catalog d)
  | .tickCancel d => some (.cancelDungeon d)
  | .tickFinish d => some (.finishDungeon d)
  | _ => none

theorem assign_history (w : Threads) (s : SessionId) (task : Option Task) :
    (w.assign s task).history = w.history := rfl

/-- The history goes on by the call of the step, or not at all. -/
theorem history_of_next {step : ThreadStep} (hn : w.next step = some w') :
    (∀ call, w.call step = some call → w.history.next call = some w'.history) ∧
      (w.call step = none → w'.history = w.history) := by
  cases step with
  | createDungeon s parties catalog partyId templateId now =>
    simp only [next] at hn
    split at hn
    · cases hn
    simp only [Option.map_eq_some_iff] at hn
    obtain ⟨w₁, hm, rfl⟩ := hn
    refine ⟨?_, nofun⟩
    rintro call ⟨⟩
    split <;> exact (manage_spec hm).1
  | readParticipants s | allocate s socket draws | findToken s | release s
  | replaceParticipant s draws | disconnectParticipant s =>
    refine ⟨nofun, fun _ => ?_⟩
    simp only [next] at hn
    split at hn
    · simp only [Option.map_eq_some_iff, Option.some.injEq] at hn
      first
        | (obtain rfl := hn; rfl)
        | (obtain ⟨out, -, rfl⟩ := hn; rfl)
    · cases hn
  | cancelDungeon s =>
    simp only [next] at hn
    split at hn
    · rename_i d htask
      simp only [Option.map_eq_some_iff] at hn
      obtain ⟨w₁, hm, rfl⟩ := hn
      simp only [call, htask, Option.some.injEq, forall_eq', assign_history, reduceCtorEq,
        false_implies, and_true]
      exact (manage_spec hm).1
    · cases hn
  | registerPlayerSession s p now grace order | disconnectPlayerSession s t order =>
    simp only [next] at hn
    split at hn
    · cases hn
    simp only [Option.map_eq_some_iff] at hn
    obtain ⟨w₁, hm, rfl⟩ := hn
    refine ⟨?_, nofun⟩
    rintro call ⟨⟩
    exact (manage_spec hm).1
  | rollbackPlayerReconnect s =>
    simp only [next] at hn
    split at hn
    · rename_i reconnect htask
      simp only [Option.map_eq_some_iff] at hn
      obtain ⟨w₁, hm, rfl⟩ := hn
      simp only [call, htask, Option.some.injEq, forall_eq', assign_history, reduceCtorEq,
        false_implies, and_true]
      exact (manage_spec hm).1
    · cases hn
  | giveUp s t order =>
    simp only [next] at hn
    split at hn
    · simp only [Option.map_eq_some_iff] at hn
      obtain ⟨w₁, hm, rfl⟩ := hn
      refine ⟨?_, nofun⟩
      rintro call ⟨⟩
      exact (manage_spec hm).1
    · cases hn
  | tickSweep now grace lifetime | tickCancel d | tickFinish d =>
    simp only [next] at hn
    split at hn
    · simp only [Option.map_eq_some_iff] at hn
      obtain ⟨w₁, hm, rfl⟩ := hn
      refine ⟨?_, nofun⟩
      rintro call ⟨⟩
      exact (manage_spec hm).1
    · cases hn
  | tickStart catalog d =>
    simp only [next] at hn
    split at hn
    · refine ⟨?_, nofun⟩
      rintro call ⟨⟩
      exact (manage_spec hn).1
    · cases hn
  | tickRemoveParticipant | tickRelease =>
    refine ⟨nofun, fun _ => ?_⟩
    simp only [next] at hn
    split at hn
    · obtain rfl := Option.some.inj hn
      rfl
    · cases hn

/-- Another task does not turn a request to cancelling. -/
theorem cancelling_assign {w₁ : Threads} {task : Option Task} {x s : SessionId} {d : DungeonId}
    (hs : (w₁.assign x task).tasks[s]? = some (.cancelling d)) (ht : w₁.tasks = w.tasks)
    (hne : ∀ d, task ≠ some (.cancelling d)) : w.tasks[s]? = some (.cancelling d) := by
  rw [task_assign, ht] at hs
  split at hs
  · exact absurd hs (hne d)
  · exact hs

/-- A request turns to the cancelling of a dungeon when its allocation has failed. -/
theorem cancelling_of_next {step : ThreadStep} (hn : w.next step = some w') {s : SessionId}
    {d : DungeonId} (hs : w'.tasks[s]? = some (.cancelling d)) :
    w.tasks[s]? = some (.cancelling d) ∨
      ∃ success, w.tasks[s]? = some (.allocated d success) ∧
        ¬ (success = true ∧ (w.udp.findToken d s).isSome = true) := by
  cases step with
  | findToken x =>
    simp only [next] at hn
    split at hn
    · rename_i e success htask
      obtain rfl := Option.some.inj hn
      rw [task_assign] at hs
      split at hs
      · rename_i hx
        subst hx
        split at hs
        · cases hs
        · rename_i hfailed
          obtain rfl : e = d := by simpa using hs
          exact .inr ⟨success, htask, hfailed⟩
      · exact .inl hs
    · cases hn
  | createDungeon x parties catalog partyId templateId now =>
    simp only [next] at hn
    split at hn
    · cases hn
    simp only [Option.map_eq_some_iff] at hn
    obtain ⟨w₁, hm, rfl⟩ := hn
    have ht := (manage_spec hm).2.2.1
    split at hs
    · exact .inl (cancelling_assign hs ht (by simp))
    · exact .inl (ht ▸ hs)
  | readParticipants x | release x | disconnectParticipant x =>
    simp only [next] at hn
    split at hn
    · obtain rfl := Option.some.inj hn
      exact .inl (cancelling_assign hs rfl (by simp))
    · cases hn
  | allocate x socket draws =>
    simp only [next] at hn
    split at hn
    · simp only [Option.map_eq_some_iff] at hn
      obtain ⟨out, -, rfl⟩ := hn
      exact .inl (cancelling_assign hs rfl (by simp))
    · cases hn
  | replaceParticipant x draws =>
    simp only [next] at hn
    split at hn
    · obtain rfl := Option.some.inj hn
      refine .inl (cancelling_assign hs rfl ?_)
      intro e
      split <;> simp
    · cases hn
  | cancelDungeon x | rollbackPlayerReconnect x =>
    simp only [next] at hn
    split at hn
    · simp only [Option.map_eq_some_iff] at hn
      obtain ⟨w₁, hm, rfl⟩ := hn
      refine .inl (cancelling_assign hs (manage_spec hm).2.2.1 ?_)
      intro e
      split <;> simp
    · cases hn
  | registerPlayerSession x p now grace order | disconnectPlayerSession x t order =>
    simp only [next] at hn
    split at hn
    · cases hn
    simp only [Option.map_eq_some_iff] at hn
    obtain ⟨w₁, hm, rfl⟩ := hn
    exact .inl (cancelling_assign hs (manage_spec hm).2.2.1 (by simp))
  | giveUp x t order =>
    simp only [next] at hn
    split at hn
    · simp only [Option.map_eq_some_iff] at hn
      obtain ⟨w₁, hm, rfl⟩ := hn
      exact .inl (cancelling_assign hs (manage_spec hm).2.2.1 (by simp))
    · cases hn
  | tickSweep now grace lifetime | tickCancel e | tickFinish e =>
    simp only [next] at hn
    split at hn
    · simp only [Option.map_eq_some_iff] at hn
      obtain ⟨w₁, hm, rfl⟩ := hn
      exact .inl ((manage_spec hm).2.2.1 ▸ hs)
    · cases hn
  | tickStart catalog e =>
    simp only [next] at hn
    split at hn
    · exact .inl ((manage_spec hn).2.2.1 ▸ hs)
    · cases hn
  | tickRemoveParticipant | tickRelease =>
    simp only [next] at hn
    split at hn
    · obtain rfl := Option.some.inj hn
      exact .inl hs
    · cases hn

end Threads

/-! ## Calls that move nobody -/

/-- A step of the history after which each dungeon that was there before lists the same
participants and keeps its bindings. -/
structure Calm (h h' : Manager.History) : Prop where
  indexed : Indexed h'
  issued : ∀ d ∈ h.issued, d ∈ h'.issued
  closed : ∀ s ∈ h.closed, s ∈ h'.closed
  dungeons : ∀ (d : DungeonId) (dungeon' : DungeonInstance), d ∈ h.issued →
    h'.manager.dungeons[d]? = some dungeon' →
    ∃ dungeon, h.manager.dungeons[d]? = some dungeon ∧
      dungeon'.participants = dungeon.participants ∧
      ∀ (p : PlayerId) (s : SessionId), (DungeonInstance.playerSessions dungeon)[p]? = some s →
        dungeon'.playerSessions[p]? = some s

namespace Calm

variable {h h' : Manager.History}

/-- The dungeons are a part of those before. -/
theorem of_subset (hi : Indexed h') (hissued : h'.issued = h.issued)
    (hclosed : ∀ s ∈ h.closed, s ∈ h'.closed)
    (hd : ∀ (d : DungeonId) (dungeon : DungeonInstance), h'.manager.dungeons[d]? = some dungeon →
      h.manager.dungeons[d]? = some dungeon) : Calm h h' := by
  refine ⟨hi, fun d h => hissued ▸ h, hclosed, ?_⟩
  intro d dungeon _ hlive
  exact ⟨dungeon, hd d dungeon hlive, rfl, fun _ _ hp => hp⟩

/-- One dungeon is rewritten. -/
theorem of_insert (after : DungeonInstance) (hi : Indexed h') (hissued : h'.issued = h.issued)
    (hclosed : ∀ s ∈ h.closed, s ∈ h'.closed)
    {x : DungeonId} {before : DungeonInstance} (hx : h.manager.dungeons[x]? = some before)
    (hp : after.participants = before.participants)
    (hb : ∀ (p : PlayerId) (s : SessionId), before.playerSessions[p]? = some s →
      after.playerSessions[p]? = some s)
    (hd : h'.manager.dungeons = h.manager.dungeons.insert x after) : Calm h h' := by
  refine ⟨hi, fun d h => hissued ▸ h, hclosed, ?_⟩
  intro d dungeon _ hlive
  rw [hd] at hlive
  by_cases hxd : x = d
  · subst hxd
    obtain rfl : after = dungeon := by simpa using hlive
    exact ⟨before, hx, hp, hb⟩
  · exact ⟨dungeon, by grind, rfl, fun _ _ hp => hp⟩

theorem create (hi : Indexed h) {parties : PartyManager} {catalog : DungeonCatalog}
    {partyId : PartyId} {templateId : DungeonTemplateId} {now : Int}
    (hn : h.next (.createDungeon parties catalog partyId templateId now) = some h') :
    Calm h h' ∧ h'.reconnects = h.reconnects ∧
      ∀ d, d ∈ h.manager.dungeons → d ∈ h'.manager.dungeons := by
  have hi' := hi.next hn
  obtain rfl := Option.some.inj hn
  rcases create_cases h.manager parties catalog partyId templateId now with
    ⟨status, -, he⟩ | ⟨party, template, -, -, he⟩
  · refine ⟨⟨hi', fun d hd => List.mem_append_right _ hd, fun _ hs => hs, ?_⟩, rfl, ?_⟩
    · intro d dungeon _ hlive
      rw [he] at hlive
      exact ⟨dungeon, hlive, rfl, fun _ _ hp => hp⟩
    · intro d hd
      rwa [he]
  · rcases insert_cases h.manager partyId party template now with
      ⟨status, -, he'⟩ | ⟨failure, he'⟩ | ⟨built, created, -, -, -, he'⟩
    · refine ⟨⟨hi', fun d hd => List.mem_append_right _ hd, fun _ hs => hs, ?_⟩, rfl, ?_⟩
      · intro d dungeon _ hlive
        rw [he, he'] at hlive
        exact ⟨dungeon, hlive, rfl, fun _ _ hp => hp⟩
      · intro d hd
        rwa [he, he']
    · refine ⟨⟨hi', fun d hd => List.mem_append_right _ hd, fun _ hs => hs, ?_⟩, rfl, ?_⟩
      · intro d dungeon _ hlive
        rw [he, he'] at hlive
        exact ⟨dungeon, hlive, rfl, fun _ _ hp => hp⟩
      · intro d hd
        rwa [he, he']
    · refine ⟨⟨hi', fun d hd => List.mem_append_right _ hd, fun _ hs => hs, ?_⟩, rfl, ?_⟩
      · intro d dungeon hissued hlive
        rw [he, he'] at hlive
        have hne : h.manager.nextDungeonId ≠ d := fun heq =>
          Nat.lt_irrefl _ (hi.index.below _ (heq ▸ hissued))
        exact ⟨dungeon, by simp only at hlive; grind, rfl, fun _ _ hp => hp⟩
      · intro d hd
        rw [he, he']
        simp only
        grind

theorem disconnect (hi : Indexed h) {s : SessionId} {t : Int} {order : List DungeonId}
    (hn : h.next (.disconnectPlayerSession s t order) = some h') :
    Calm h h' ∧ h'.reconnects = h.reconnects.erase s ∧
      ∀ d, d ∈ h.manager.dungeons → d ∈ h'.manager.dungeons := by
  have hi' := hi.next hn
  simp only [Manager.History.next] at hn
  split at hn
  · rename_i ho
    obtain rfl := Option.some.inj hn
    have hclosed : ∀ x ∈ h.closed, x ∈ s :: h.closed := fun _ hx => List.mem_cons_of_mem _ hx
    rcases disconnectPlayer_cases ho s t with ⟨-, he⟩ | ⟨-, -, he⟩ | ⟨-, x, dungeon, hx, hs, he⟩
    · exact ⟨of_subset hi' rfl hclosed (by simp [he]), rfl, by simp [he]⟩
    · exact ⟨of_subset hi' rfl hclosed (by simp [he]), rfl, by simp [he]⟩
    · refine ⟨of_insert (marked s t dungeon) hi' rfl hclosed hx rfl (fun _ _ hp => hp) ?_, rfl, ?_⟩
      · simp only [he]
      · intro d hd
        simp only [he]
        grind
  · cases hn

theorem start (hi : Indexed h) {catalog : EnemyCatalog} {x : DungeonId}
    (hn : h.next (.startDungeon catalog x) = some h') :
    Calm h h' ∧ h'.reconnects = h.reconnects ∧
      ∀ d, d ∈ h.manager.dungeons → d ∈ h'.manager.dungeons := by
  have hi' := hi.next hn
  obtain rfl := Option.some.inj hn
  rcases startDungeon_cases catalog x h.manager with he | ⟨dungeon, state, rooms, hx, -, he⟩
  · exact ⟨of_subset hi' rfl (fun _ hs => hs) (by simp [he]), rfl, by simp [he]⟩
  · refine ⟨of_insert { dungeon with state, rooms } hi' rfl (fun _ hs => hs) hx rfl (fun _ _ hp => hp) ?_,
      rfl, ?_⟩
    · simp only [he]
    · intro d hd
      simp only [he]
      grind

theorem cancel (hi : Indexed h) {x : DungeonId} (hn : h.next (.cancelDungeon x) = some h') :
    Calm h h' ∧ h'.reconnects = h.reconnects ∧
      ∀ d, d ∈ h.manager.dungeons → d ∉ h'.manager.dungeons →
        d = x ∧ (h.manager.cancelDungeon x).1 = true := by
  have hi' := hi.next hn
  obtain rfl := Option.some.inj hn
  rcases cancel_cases h.manager x with he | ⟨dungeon, hx, -, he⟩
  · exact ⟨of_subset hi' rfl (fun _ hs => hs) (by simp [he]), rfl, by simp [he]⟩
  · refine ⟨of_subset hi' rfl (fun _ hs => hs) ?_, rfl, ?_⟩
    · intro d other hd
      simp only [he, removeDungeon] at hd
      grind
    · intro d hd hgone
      simp only [he, removeDungeon, and_true] at hgone ⊢
      grind

theorem finish (hi : Indexed h) {x : DungeonId} (hn : h.next (.finishDungeon x) = some h') :
    Calm h h' ∧ h'.reconnects = h.reconnects ∧
      ∀ d, d ∈ h.manager.dungeons → d ∉ h'.manager.dungeons →
        d = x ∧ (h.manager.finishDungeon x).1 = true := by
  have hi' := hi.next hn
  obtain rfl := Option.some.inj hn
  rcases finish_cases h.manager x with he | ⟨dungeon, hx, -, he⟩
  · exact ⟨of_subset hi' rfl (fun _ hs => hs) (by simp [he]), rfl, by simp [he]⟩
  · refine ⟨of_subset hi' rfl (fun _ hs => hs) ?_, rfl, ?_⟩
    · intro d other hd
      simp only [he, removeDungeon] at hd
      grind
    · intro d hd hgone
      simp only [he, removeDungeon, and_true] at hgone ⊢
      grind

/-- A registration moves nobody, or it takes a slot back. -/
theorem register (hi : Indexed h) {s p : Nat} {now grace : Int} {order : List DungeonId}
    (hn : h.next (.registerPlayerSession s p now grace order) = some h') :
    (reconnectOf p (h.manager.registerPlayerSession s p now grace order).1 = none ∧ Calm h h' ∧
      h'.reconnects = h.reconnects.erase s ∧
      ∀ d, d ∈ h.manager.dungeons → d ∈ h'.manager.dungeons) ∨
    ∃ d dungeon old t player,
      reconnectOf p (h.manager.registerPlayerSession s p now grace order).1 = some ⟨d, p, old, t⟩ ∧
      h'.reconnects = h.reconnects.insert s ⟨d, p, old, t⟩ ∧ h'.issued = h.issued ∧
      h'.closed = h.closed ∧
      h.manager.dungeons[d]? = some dungeon ∧ Reconnectable dungeon p s now grace old t ∧
      h'.manager.dungeons = h.manager.dungeons.insert d
        (moved p old s player (dungeon.disconnectedSince.erase old) dungeon) := by
  have hi' := hi.next hn
  simp only [Manager.History.next] at hn
  split at hn
  · rename_i hopen
    obtain rfl := Option.some.inj hn
    cases register_outcome hi.index.consistent hopen.2 s p now grace with
    | refused ha he =>
      refine Or.inl ⟨by simp [he, reconnectOf], of_subset hi' rfl (fun _ hs => hs) (by simp [he]), ?_, by simp [he]⟩
      simp [he, reconnectOf]
    | unbound ha d dungeon hd hs hb he =>
      refine Or.inl ⟨by simp [he, reconnectOf], of_subset hi' rfl (fun _ hs => hs) (by simp [he]), ?_, by simp [he]⟩
      simp [he, reconnectOf]
    | newcomer ha hnone hr he =>
      refine Or.inl ⟨by simp [he, reconnectOf], of_subset hi' rfl (fun _ hs => hs) (by simp [he, signIn]), ?_,
        by simp [he, signIn]⟩
      simp [he, reconnectOf]
    | bound ha d dungeon hd hs hb he =>
      have hsp : (signIn s p h.manager).authenticatedPlayers[s]? = some p := by simp [signIn]
      have hbinds := binds_bindParticipantPlayer _ hsp dungeon
      have hkept : ∀ (q : PlayerId) (x : SessionId), dungeon.playerSessions[q]? = some x →
          (dungeon.bindParticipantPlayer s p).2.playerSessions[q]? = some x := by
        intro q x hq
        rcases bind_cases s p dungeon with hb | ⟨-, -, hp, hb⟩
        · rwa [hb]
        · rw [hb]
          simp only
          grind
      refine Or.inl ⟨by simp [he, reconnectOf], ?_, by simp [he, reconnectOf], ?_⟩
      · exact of_insert (dungeon.bindParticipantPlayer s p).2 hi' rfl (fun _ hs => hs) hd hbinds.participants hkept
          (by simp only [he])
      · intro x hx
        simp only [he]
        grind
    | back ha hnone d dungeon old t player hd hf hr hp he =>
      refine Or.inr ⟨d, dungeon, old, t, player, by simp [he, reconnectOf], ?_, rfl, rfl, hd, hr, ?_⟩
      · simp [he, reconnectOf]
      · simp only [he, reconnected, signIn]
  · cases hn

/-- A rollback of a reconnect whose slot is as the reconnect left it. -/
theorem rollback (hi : Indexed h) {new : SessionId} {reconnect : PlayerReconnect}
    (hn : h.next (.rollbackPlayerReconnect new reconnect) = some h')
    (hslot : ∀ dungeon, h.manager.dungeons[reconnect.dungeonId]? = some dungeon →
      Rollbackable dungeon reconnect.playerId new reconnect.replacedSessionId) :
    (reconnect.dungeonId ∉ h.manager.dungeons ∧
      (h.manager.rollbackPlayerReconnect reconnect.dungeonId reconnect.playerId new
        reconnect.replacedSessionId reconnect.disconnectedAt).1 = false ∧ Calm h h' ∧
      h'.reconnects = h.reconnects.erase new ∧ h'.manager.dungeons = h.manager.dungeons) ∨
    ∃ dungeon player since, h.manager.dungeons[reconnect.dungeonId]? = some dungeon ∧
      (h.manager.rollbackPlayerReconnect reconnect.dungeonId reconnect.playerId new
        reconnect.replacedSessionId reconnect.disconnectedAt).1 = true ∧
      h'.reconnects = h.reconnects.erase new ∧ h'.issued = h.issued ∧ h'.closed = h.closed ∧
      h'.manager.dungeons = h.manager.dungeons.insert reconnect.dungeonId
        (moved reconnect.playerId new reconnect.replacedSessionId player since dungeon) := by
  have hi' := hi.next hn
  obtain ⟨d, p, old, t⟩ := reconnect
  simp only [Manager.History.next] at hn
  split at hn
  · obtain rfl := Option.some.inj hn
    rcases rollbackPlayer_cases hi.index.consistent d p new old t with
      ⟨hnot, he⟩ | ⟨dungeon, player, hd, hr, hp, he⟩
    · refine Or.inl ⟨?_, by simp [he], of_subset hi' rfl (fun _ hs => hs) (by simp [he]), rfl, by simp [he]⟩
      intro hm
      have hlive : h.manager.dungeons[d]? = some h.manager.dungeons[d] := by grind
      exact hnot _ hlive (hslot _ hlive)
    · exact Or.inr ⟨dungeon, player, dungeon.disconnectedSince.insertIfNew old t, hd, by simp [he],
        rfl, rfl, rfl, by simp only [he]⟩
  · cases hn

end Calm

/-! ## The sweep -/

/-- A sweep takes closed sessions out of the dungeons it keeps, and reports them and the
dungeons it drops. -/
structure Swept (h h' : Manager.History) (report : DungeonAbandonmentSweep) : Prop where
  indexed : Indexed h'
  issued : h'.issued = h.issued
  closed : h'.closed = h.closed
  reconnects : h'.reconnects = h.reconnects
  kept : ∀ (d : DungeonId) (dungeon' : DungeonInstance), h'.manager.dungeons[d]? = some dungeon' →
    ∃ dungeon gone, h.manager.dungeons[d]? = some dungeon ∧ dungeon' = without gone dungeon ∧
      ∀ x, (⟨d, x⟩ ∈ report.removedParticipants ↔ x ∈ gone) ∧
        (x ∈ gone → x ∈ dungeon.participants ∧ x ∈ h.closed)
  dropped : ∀ d, d ∈ h.manager.dungeons → d ∉ h'.manager.dungeons → d ∈ report.releasedDungeons
  removed : ∀ participant ∈ report.removedParticipants, participant.dungeonId ∈ h.issued

theorem swept_of_next {h h' : Manager.History} (hi : Indexed h) {now grace lifetime : Int}
    (hn : h.next (.sweepAbandonedParticipants now grace lifetime) = some h') :
    Swept h h' (h.manager.sweepAbandonedParticipants now grace lifetime).1 := by
  have hi' := hi.next hn
  obtain rfl := Option.some.inj hn
  refine ⟨hi', rfl, rfl, rfl, ?_, ?_, ?_⟩
  · intro d dungeon' hd'
    by_cases hpos : 0 < grace ∧ 0 < lifetime
    · have heff := sweep_effect hpos.1 hpos.2 now h.manager
      obtain ⟨dungeon, hd, hs, rfl⟩ := heff.kept hi.index.consistent hpos.1 hd'
      have hc := hi.index.consistent d dungeon hd
      refine ⟨dungeon, _, hd, rfl, ?_⟩
      intro x
      refine ⟨?_, ?_⟩
      · rw [heff.removed, hd]
        simp [(swept_some hpos.1 hc hs).2.1]
      · intro hx
        obtain ⟨t, ht, -⟩ := mem_expiredSessions.mp hx
        have hm : x ∈ dungeon.disconnectedSince := by grind
        exact ⟨(hc.listed x).mpr (hc.disconnected x hm), hi.marked d dungeon hd x hm⟩
    · simp only [sweep_idle hpos] at hd' ⊢
      exact ⟨dungeon', [], hd', (without_nil dungeon').symm, by simp⟩
  · intro d hd hgone
    by_cases hpos : 0 < grace ∧ 0 < lifetime
    · have heff := sweep_effect hpos.1 hpos.2 now h.manager
      rw [heff.released]
      refine ⟨h.manager.dungeons[d], by grind, ?_⟩
      rw [← ExtTreeMap.isSome_getElem?_iff_mem, heff.dungeons d,
        ExtTreeMap.getElem?_eq_some_getElem hd, Option.bind_some] at hgone
      simpa using hgone
    · simp only [sweep_idle hpos] at hgone
      exact absurd hd hgone
  · rintro ⟨d, x⟩ hx
    by_cases hpos : 0 < grace ∧ 0 < lifetime
    · obtain ⟨dungeon, hd, -⟩ := ((sweep_effect hpos.1 hpos.2 now h.manager).removed d x).mp hx
      exact hi.index.live d (by grind)
    · simp [sweep_idle hpos] at hx

end DnfServer.Udp
