import DnfServer.Library.Runs
import DnfServer.Model.SnapshotSender

/-!
# No snapshot is lost or overtaken

The slot, the flag and the counters of the pump over any order of its steps, of `SendSnapshot` and of
`Stop`. At most one of the following exists at a time: a dispatch still to be made, a pump that waits for
the strand, a handler of the pump on the strand, and a send without its completion. While the session is
not stopped, the flag says that one does.
-/

namespace DnfServer.Snapshots

open DnfServer.Library SnapshotSender
set_option autoImplicit false

/-! ## One pump at a time -/

def activity (w : SnapshotSender) : Nat :=
  w.dispatching.toNat + w.pumps + w.running.toList.length + w.sends.length

structure Paced (w : SnapshotSender) : Prop where
  one : activity w ≤ 1
  flag : w.pump.stopped = false → (w.pump.snapshotPumpScheduled = true ↔ activity w = 1)
  wake : w.pump.stopped = false → w.pump.pendingSnapshot.isSome → w.pump.snapshotPumpScheduled = true
  stopping : w.pump.stopped = false ↔ w.stopping = .idle
  cleared : w.stopping = .cleared ∨ w.stopping = .closed → w.pump.pendingSnapshot = none
  discards : w.running = some .discard → w.pump.stopped = true

/-! ## The fate of each snapshot -/

def count (fate : SnapshotFate) (w : SnapshotSender) : Nat := w.settled.countP (·.2 = fate)

structure Logged (w : SnapshotSender) : Prop where
  pending : w.snapshotPending = w.pump.pendingSnapshot.isSome
  accepted : w.accepted = w.settled.map (·.1) ++ w.pump.pendingSnapshot.toList
  acceptedCount : w.pump.acceptedSnapshotCount = w.accepted.length
  replacedCount : w.pump.replacedSnapshotCount = count .replaced w
  taken : (w.settled.filter (·.2 = .taken)).map (·.1) = (w.finished ++ w.active.toList).map (·.snapshot)
  kept : w.pump.stopped = false → count .discarded w = 0
  last : w.pump.pendingSnapshot = none → ∀ entry, w.settled.getLast? = some entry → entry.2 ≠ .replaced

/-! ## The broadcast under way -/

/-- What the strand knows of the snapshot it sends. -/
structure Current (w : SnapshotSender) (broadcast : SnapshotBroadcast) : Prop where
  snapshot : w.activeSnapshot = some broadcast.snapshot
  copying : w.running = some .copy → broadcast.destinations = [] ∧ broadcast.issued = [] ∧
    (broadcast.changed = false → broadcast.registered = w.addresses)
  copied : w.running ≠ some .copy → broadcast.destinations = w.snapshotDestinations ∧
    broadcast.destinations.Perm broadcast.copied ∧
    (broadcast.changed = false → broadcast.destinations.Perm broadcast.registered)
  sending : w.running = some .send →
    broadcast.issued = w.snapshotDestinations.take w.nextSnapshotDestination
  outstanding : w.sends ≠ [] → w.nextSnapshotDestination < w.snapshotDestinations.length ∧
    broadcast.issued = w.snapshotDestinations.take (w.nextSnapshotDestination + 1)

/-- A broadcast that has gone to all its destinations. -/
structure Complete (broadcast : SnapshotBroadcast) : Prop where
  issued : broadcast.issued = broadcast.destinations
  copied : broadcast.destinations.Perm broadcast.copied
  registered : broadcast.changed = false → broadcast.destinations.Perm broadcast.registered

structure Broadcasting (w : SnapshotSender) : Prop where
  busy : w.active.isSome ↔ w.running = some .copy ∨ w.running = some .send ∨ w.sends ≠ []
  current : ∀ broadcast, w.active = some broadcast → Current w broadcast
  complete : w.pump.stopped = false → ∀ broadcast ∈ w.finished, Complete broadcast
  sent : w.sent = (w.finished ++ w.active.toList).flatMap fun broadcast =>
    broadcast.issued.map (broadcast.snapshot, ·)

structure Pumping (w : SnapshotSender) : Prop where
  paced : Paced w
  logged : Logged w
  broadcasting : Broadcasting w

theorem pumping_new : Pumping {} := by
  have hnone {P : SnapshotBroadcast → Prop} : ∀ b, (none : Option SnapshotBroadcast) = some b → P b := by
    intro b h
    cases h
  refine ⟨⟨Nat.zero_le _, ?_, ?_, ?_, fun _ => rfl, ?_⟩, ⟨rfl, rfl, rfl, rfl, rfl, fun _ => rfl, ?_⟩,
    ⟨?_, hnone, fun _ => List.forall_mem_nil _, rfl⟩⟩
  · exact fun _ => by decide
  · intro _ h
    cases h
  · decide
  · intro h
    cases h
  · intro _ entry h
    cases h
  · decide

/-! ## Steps -/

/-- What a step can do. -/
inductive Moves (w : SnapshotSender) : SnapshotSender → Prop where
  | refused (count : Nat) : Moves w { w with pump := { w.pump with oversizedSnapshotCount := count } }
  | accepted (bytes : List UInt8) (hstopped : w.pump.stopped = false) (hidle : w.dispatching = false) :
    Moves w { w with
      pump := { w.pump with
        acceptedSnapshotCount := w.pump.acceptedSnapshotCount + 1
        replacedSnapshotCount := w.pump.replacedSnapshotCount +
          if w.pump.pendingSnapshot.isSome then 1 else 0
        pendingSnapshot := some bytes
        snapshotPumpScheduled := true }
      snapshotPending := true
      dispatching := !w.pump.snapshotPumpScheduled
      accepted := w.accepted ++ [bytes]
      settled := w.settle .replaced }
  | dispatch (hdispatching : w.dispatching = true) :
    Moves w { w with dispatching := false, pumps := w.pumps + 1 }
  | begin (hrunning : w.running = none) (hpumps : w.pumps ≠ 0) :
    Moves w { w with pumps := w.pumps - 1, running := some .pump }
  | pump (hrunning : w.running = some .pump) :
    Moves w { w with running := some (if w.pump.stopped then .discard else .take) }
  | discard (hrunning : w.running = some .discard) :
    Moves w { w.dropPending with snapshotSendInProgress := false, running := none }
  | take (hrunning : w.running = some .take) : Moves w w.takePending
  | copy (order : List Endpoint) (hrunning : w.running = some .copy) (hperm : order.Perm w.addresses) :
    Moves w { w with
      snapshotDestinations := order
      nextSnapshotDestination := 0
      running := some .send
      active := w.active.map fun broadcast =>
        { broadcast with copied := w.addresses, destinations := order } }
  | send (hrunning : w.running = some .send) : Moves w w.sendToNextEndpoint
  | finish (hrunning : w.running = some .finish) :
    Moves w { w with snapshotSendInProgress := false, running := some .pump }
  | complete (index : Nat) (error : Bool) (hrunning : w.running = none) (hindex : index < w.sends.length) :
    Moves w (w.completeSend index error)
  | stop (hstopped : w.pump.stopped = false) :
    Moves w { w with pump := { w.pump with stopped := true }, stopping := .exchanged }
  | clear (hstopping : w.stopping = .exchanged) : Moves w { w.dropPending with stopping := .cleared }
  | close (hstopping : w.stopping = .cleared) : Moves w { w with stopping := .closed }
  | setEndpoints (endpoints : IdMap Endpoint) :
    Moves w { w with
      endpoints
      active := if w.running = some .copy then
          w.active.map fun broadcast => { broadcast with changed := true }
        else w.active }

variable {w w' : SnapshotSender}

theorem moves_sendSnapshot (bytes : List UInt8) (hidle : w.dispatching = false) :
    Moves w (w.sendSnapshot bytes).2 := by
  have hsame : Moves w w := Moves.refused w.pump.oversizedSnapshotCount
  unfold SnapshotSender.sendSnapshot SnapshotPump.sendSnapshot
  split
  · exact hsame
  split
  · exact .refused (w.pump.oversizedSnapshotCount + 1)
  split
  · exact hsame
  · rename_i hstopped
    exact .accepted bytes (Bool.eq_false_iff.mpr hstopped) hidle

theorem moves_of_next {step : SenderStep} (h : w.next step = some w') : Moves w w' := by
  cases step with
  | sendSnapshot bytes =>
    obtain ⟨hidle, heq⟩ := Option.ite_none_left_eq_some.mp h
    obtain rfl := Option.some.inj heq
    exact moves_sendSnapshot bytes (Bool.eq_false_iff.mpr hidle)
  | dispatchPump =>
    obtain ⟨hdispatching, heq⟩ := Option.ite_none_right_eq_some.mp h
    obtain rfl := Option.some.inj heq
    exact .dispatch hdispatching
  | beginPump =>
    obtain ⟨⟨hrunning, hpumps⟩, heq⟩ := Option.ite_none_right_eq_some.mp h
    obtain rfl := Option.some.inj heq
    exact .begin hrunning hpumps
  | advance order =>
    obtain ⟨place, hrunning, h⟩ := Option.bind_eq_some_iff.mp h
    cases place with
    | pump =>
      obtain rfl := Option.some.inj h
      exact .pump hrunning
    | discard =>
      obtain rfl := Option.some.inj h
      exact .discard hrunning
    | take =>
      obtain rfl := Option.some.inj h
      exact .take hrunning
    | copy =>
      obtain ⟨hperm, heq⟩ := Option.ite_none_right_eq_some.mp h
      obtain rfl := Option.some.inj heq
      exact .copy order hrunning hperm
    | send =>
      obtain rfl := Option.some.inj h
      exact .send hrunning
    | finish =>
      obtain rfl := Option.some.inj h
      exact .finish hrunning
  | completeSend index error =>
    obtain ⟨⟨hrunning, hindex⟩, heq⟩ := Option.ite_none_right_eq_some.mp h
    obtain rfl := Option.some.inj heq
    exact .complete index error hrunning hindex
  | stop =>
    rw [SnapshotSender.next] at h
    split at h
    · obtain rfl := Option.some.inj h
      exact .refused w.pump.oversizedSnapshotCount
    · rename_i hstopped
      obtain rfl := Option.some.inj h
      exact .stop (Bool.eq_false_iff.mpr hstopped)
  | clearPending =>
    obtain ⟨hstopping, heq⟩ := Option.ite_none_right_eq_some.mp h
    obtain rfl := Option.some.inj heq
    exact .clear hstopping
  | closeSocket =>
    obtain ⟨⟨hstopping, -⟩, heq⟩ := Option.ite_none_right_eq_some.mp h
    obtain rfl := Option.some.inj heq
    exact .close hstopping
  | setEndpoints endpoints =>
    obtain rfl := Option.some.inj h
    exact .setEndpoints endpoints

/-! ## The pace -/

theorem Paced.of_activity (h : Paced w) (hactivity : activity w' = activity w) (hpump : w'.pump = w.pump)
    (hstopping : w'.stopping = w.stopping)
    (hdiscards : w'.running = some .discard → w.pump.stopped = true) : Paced w' := by
  constructor
  · rw [hactivity]
    exact h.one
  · rw [hpump, hactivity]
    exact h.flag
  · rw [hpump]
    exact h.wake
  · rw [hpump, hstopping]
    exact h.stopping
  · rw [hpump, hstopping]
    exact h.cleared
  · rw [hpump]
    exact hdiscards

/-- While a handler of the pump is on the strand nothing else is under way. -/
theorem Paced.alone (h : Paced w) {place : PumpPlace} (hrunning : w.running = some place) :
    w.dispatching = false ∧ w.pumps = 0 ∧ w.sends = [] ∧ activity w = 1 := by
  have hone := h.one
  unfold activity at hone ⊢
  rw [hrunning, Option.toList_some, List.length_singleton] at hone ⊢
  have hsends : w.sends.length = 0 := by omega
  have hdispatching : w.dispatching.toNat = 0 := by omega
  rw [hsends, hdispatching]
  exact ⟨Bool.toNat_eq_zero.mp hdispatching, by omega, List.length_eq_zero_iff.mp hsends, by omega⟩

theorem Paced.sendToNextEndpoint (h : Paced w) (hrunning : w.running = some .send) :
    Paced w.sendToNextEndpoint := by
  obtain ⟨hdispatching, hpumps, hsends, hactivity⟩ := h.alone hrunning
  unfold SnapshotSender.sendToNextEndpoint
  split
  · refine h.of_activity ?_ rfl rfl ?_
    · rw [hactivity]
      unfold activity
      rw [hdispatching, hpumps, hsends]
      rfl
    · intro hdiscard
      cases hdiscard
  · rename_i hgoes
    have hlt : w.nextSnapshotDestination < w.snapshotDestinations.length :=
      Nat.not_le.mp (not_or.mp hgoes).2
    refine h.of_activity ?_ rfl rfl ?_
    · rw [hactivity]
      unfold activity
      rw [hdispatching, hpumps, hsends, List.getElem?_eq_getElem hlt]
      rfl
    · intro hdiscard
      cases hdiscard

theorem Paced.moves (h : Paced w) (hm : Moves w w') : Paced w' := by
  have hone := h.one
  unfold activity at hone
  cases hm with
  | refused count => exact ⟨h.one, h.flag, h.wake, h.stopping, h.cleared, h.discards⟩
  | accepted bytes hstopped hidle =>
    have hidle' : w.stopping ≠ .cleared ∧ w.stopping ≠ .closed := by
      rw [h.stopping.mp hstopped]
      exact ⟨by decide, by decide⟩
    have hflag := h.flag hstopped
    unfold activity at hflag
    have hactivity : (!w.pump.snapshotPumpScheduled).toNat + w.pumps + w.running.toList.length +
        w.sends.length = 1 := by
      rw [hidle] at hflag hone
      cases hscheduled : w.pump.snapshotPumpScheduled with
      | true => exact hflag.mp hscheduled
      | false =>
        rw [hscheduled] at hflag
        have hzero := mt hflag.mpr Bool.false_ne_true
        simp only [Bool.toNat_false, Bool.not_false, Bool.toNat_true] at *
        omega
    refine ⟨Nat.le_of_eq hactivity, fun _ => ?_, fun _ _ => rfl, h.stopping, ?_, h.discards⟩
    · exact iff_of_true rfl hactivity
    · rintro (hcleared | hclosed)
      · exact absurd hcleared hidle'.1
      · exact absurd hclosed hidle'.2
  | dispatch hdispatching =>
    refine h.of_activity ?_ rfl rfl h.discards
    unfold activity
    rw [hdispatching, Bool.toNat_true]
    show 0 + (w.pumps + 1) + w.running.toList.length + w.sends.length = _
    omega
  | begin hrunning hpumps =>
    refine h.of_activity ?_ rfl rfl ?_
    · unfold activity
      rw [hrunning, Option.toList_some, Option.toList_none, List.length_singleton, List.length_nil]
      show w.dispatching.toNat + (w.pumps - 1) + 1 + w.sends.length = _
      omega
    · intro hdiscard
      cases hdiscard
  | pump hrunning =>
    refine h.of_activity ?_ rfl rfl ?_
    · unfold activity
      rw [hrunning]
      rfl
    · intro hdiscard
      by_contra hstopped
      rw [if_neg hstopped] at hdiscard
      cases hdiscard
  | discard hrunning =>
    obtain ⟨hdispatching, hpumps, hsends, -⟩ := h.alone hrunning
    have hstopped := h.discards hrunning
    have hactivity : activity { w.dropPending with snapshotSendInProgress := false, running := none } = 0 := by
      unfold activity
      show w.dispatching.toNat + w.pumps + 0 + w.sends.length = 0
      rw [hdispatching, hpumps, hsends]
      rfl
    refine ⟨by rw [hactivity]; exact Nat.zero_le _, ?_, ?_, h.stopping, fun _ => rfl, ?_⟩
    · intro hrunning'
      exact absurd (hstopped.symm.trans hrunning') (by decide)
    · intro hrunning'
      exact absurd (hstopped.symm.trans hrunning') (by decide)
    · intro hdiscard
      cases hdiscard
  | take hrunning =>
    obtain ⟨hdispatching, hpumps, hsends, hactivity⟩ := h.alone hrunning
    unfold SnapshotSender.takePending
    split
    · rename_i hpending
      refine ⟨?_, fun _ => ?_, ?_, h.stopping, fun _ => hpending, ?_⟩
      · unfold activity
        rw [hdispatching, hpumps, hsends]
        exact Nat.zero_le _
      · unfold activity
        rw [hdispatching, hpumps, hsends]
        exact iff_of_false Bool.false_ne_true Nat.zero_ne_one
      · intro _ hsome
        rw [hpending] at hsome
        cases hsome
      · intro hdiscard
        cases hdiscard
    · have hsame : activity w = activity { w with running := some .copy } := by
        unfold activity
        rw [hrunning]
        rfl
      refine ⟨?_, fun hstopped => ?_, ?_, h.stopping, fun _ => rfl, ?_⟩
      · exact Nat.le_of_eq (hsame.symm.trans hactivity)
      · exact (h.flag hstopped).trans (iff_of_true hactivity (hsame.symm.trans hactivity))
      · intro _ hsome
        cases hsome
      · intro hdiscard
        cases hdiscard
  | copy order hrunning hperm =>
    refine h.of_activity ?_ rfl rfl ?_
    · unfold activity
      rw [hrunning]
      rfl
    · intro hdiscard
      cases hdiscard
  | send hrunning => exact h.sendToNextEndpoint hrunning
  | finish hrunning =>
    refine h.of_activity ?_ rfl rfl ?_
    · unfold activity
      rw [hrunning]
      rfl
    · intro hdiscard
      cases hdiscard
  | complete index error hrunning hindex =>
    refine h.of_activity ?_ rfl rfl ?_
    · unfold activity SnapshotSender.completeSend
      rw [hrunning, Option.toList_some, Option.toList_none, List.length_singleton, List.length_nil,
        List.length_eraseIdx_of_lt hindex]
      show w.dispatching.toNat + w.pumps + 1 + (w.sends.length - 1) = _
      omega
    · intro hdiscard
      cases hdiscard
  | stop hstopped =>
    refine ⟨h.one, ?_, ?_, iff_of_false (fun h => by cases h) (fun h => by cases h), ?_, fun _ => rfl⟩
    · intro hrunning
      cases hrunning
    · intro hrunning
      cases hrunning
    · rintro (hcleared | hclosed)
      · cases hcleared
      · cases hclosed
  | clear hstopping =>
    have hstopped : w.pump.stopped = true := by
      by_contra hrunning
      rw [h.stopping.mp (Bool.eq_false_iff.mpr hrunning)] at hstopping
      cases hstopping
    refine ⟨h.one, ?_, ?_, ?_, fun _ => rfl, h.discards⟩
    · intro hrunning
      exact absurd (hstopped.symm.trans hrunning) (by decide)
    · intro hrunning
      exact absurd (hstopped.symm.trans hrunning) (by decide)
    · constructor
      · intro hrunning
        exact absurd (hstopped.symm.trans hrunning) (by decide)
      · intro hidle
        cases hidle
  | close hstopping =>
    refine ⟨h.one, h.flag, h.wake, ?_, fun _ => h.cleared (.inl hstopping), h.discards⟩
    rw [h.stopping, hstopping]
    exact iff_of_false (fun h => by cases h) (fun h => by cases h)
  | setEndpoints endpoints => exact ⟨h.one, h.flag, h.wake, h.stopping, h.cleared, h.discards⟩

/-! ## The log -/

theorem map_fst_settle (fate : SnapshotFate) (w : SnapshotSender) :
    (w.settle fate).map (·.1) = w.settled.map (·.1) ++ w.pump.pendingSnapshot.toList := by
  unfold settle
  rw [List.map_append]
  cases w.pump.pendingSnapshot with
  | none => rfl
  | some snapshot => rfl

theorem count_settle_self (fate : SnapshotFate) (w : SnapshotSender) :
    (w.settle fate).countP (·.2 = fate) = count fate w + if w.pump.pendingSnapshot.isSome then 1 else 0 := by
  unfold settle count
  rw [List.countP_append]
  cases w.pump.pendingSnapshot with
  | none => rfl
  | some snapshot => simp

theorem count_settle_of_ne {fate other : SnapshotFate} (hne : other ≠ fate) (w : SnapshotSender) :
    (w.settle other).countP (·.2 = fate) = count fate w := by
  unfold settle count
  rw [List.countP_append]
  cases w.pump.pendingSnapshot with
  | none => rfl
  | some snapshot => simp [hne]

theorem filter_settle_of_ne {fate : SnapshotFate} (hne : fate ≠ .taken) (w : SnapshotSender) :
    (w.settle fate).filter (·.2 = .taken) = w.settled.filter (·.2 = .taken) := by
  unfold settle
  rw [List.filter_append]
  cases w.pump.pendingSnapshot with
  | none => exact List.append_nil _
  | some snapshot => simp [hne]

/-- What is settled last was not replaced, unless it is replaced. -/
theorem last_settle {fate : SnapshotFate} (hfate : fate ≠ .replaced) (h : Logged w) :
    ∀ entry, (w.settle fate).getLast? = some entry → entry.2 ≠ .replaced := by
  intro entry hentry
  unfold settle at hentry
  cases hpending : w.pump.pendingSnapshot with
  | none =>
    rw [hpending, Option.map_none, Option.toList_none, List.append_nil] at hentry
    exact h.last hpending entry hentry
  | some snapshot =>
    rw [hpending, Option.map_some, Option.toList_some, List.getLast?_concat] at hentry
    obtain rfl := Option.some.inj hentry
    exact hfate

theorem Logged.drop (h : Logged w) (hstopped : w.pump.stopped = true) : Logged w.dropPending := by
  refine ⟨rfl, ?_, h.acceptedCount, ?_, ?_, ?_, fun _ => last_settle (by decide) h⟩
  · show w.accepted = (w.settle .discarded).map (·.1) ++ []
    rw [map_fst_settle, List.append_nil]
    exact h.accepted
  · show w.pump.replacedSnapshotCount = (w.settle .discarded).countP (·.2 = .replaced)
    rw [count_settle_of_ne (by decide)]
    exact h.replacedCount
  · show ((w.settle .discarded).filter (·.2 = .taken)).map (·.1) = _
    rw [filter_settle_of_ne (by decide)]
    exact h.taken
  · intro hrunning
    exact absurd (hstopped.symm.trans hrunning) (by decide)

theorem Logged.of_same (h : Logged w) (hpump : w'.pump = w.pump) (hpending : w'.snapshotPending = w.snapshotPending)
    (haccepted : w'.accepted = w.accepted) (hsettled : w'.settled = w.settled)
    (hbroadcasts : (w'.finished ++ w'.active.toList).map (·.snapshot) =
      (w.finished ++ w.active.toList).map (·.snapshot)) : Logged w' := by
  constructor
  · rw [hpending, hpump]
    exact h.pending
  · rw [haccepted, hsettled, hpump]
    exact h.accepted
  · rw [hpump, haccepted]
    exact h.acceptedCount
  · unfold count
    rw [hpump, hsettled]
    exact h.replacedCount
  · rw [hsettled, hbroadcasts]
    exact h.taken
  · unfold count
    rw [hpump, hsettled]
    exact h.kept
  · rw [hpump, hsettled]
    exact h.last

theorem map_snapshot_map {f : SnapshotBroadcast → SnapshotBroadcast}
    (hf : ∀ broadcast, (f broadcast).snapshot = broadcast.snapshot) (finished : List SnapshotBroadcast)
    (active : Option SnapshotBroadcast) :
    (finished ++ (active.map f).toList).map (·.snapshot) =
      (finished ++ active.toList).map (·.snapshot) := by
  cases active with
  | none => rfl
  | some broadcast => simp [hf]

/-- Before a snapshot is taken and after it has gone out there is none under way. -/
theorem Broadcasting.inactive (h : Broadcasting w) (hp : Paced w) {place : PumpPlace}
    (hrunning : w.running = some place) (hcopy : place ≠ .copy) (hsend : place ≠ .send) :
    w.active = none := by
  obtain ⟨-, -, hsends, -⟩ := hp.alone hrunning
  by_contra hsome
  rcases h.busy.mp (Option.isSome_iff_ne_none.mpr hsome) with hplace | hplace | houtstanding
  · exact hcopy (Option.some.inj (hrunning.symm.trans hplace))
  · exact hsend (Option.some.inj (hrunning.symm.trans hplace))
  · exact houtstanding hsends

theorem Logged.moves (h : Logged w) (hp : Paced w) (hb : Broadcasting w) (hm : Moves w w') : Logged w' := by
  cases hm with
  | refused count =>
    exact ⟨h.pending, h.accepted, h.acceptedCount, h.replacedCount, h.taken, h.kept, h.last⟩
  | accepted bytes hstopped hidle =>
    refine ⟨rfl, ?_, ?_, ?_, ?_, ?_, fun hnone => by cases hnone⟩
    · show w.accepted ++ [bytes] = (w.settle .replaced).map (·.1) ++ [bytes]
      rw [map_fst_settle, ← h.accepted]
    · show w.pump.acceptedSnapshotCount + 1 = (w.accepted ++ [bytes]).length
      rw [List.length_append, h.acceptedCount]
      rfl
    · show w.pump.replacedSnapshotCount + _ = (w.settle .replaced).countP (·.2 = .replaced)
      rw [count_settle_self, h.replacedCount]
    · show ((w.settle .replaced).filter (·.2 = .taken)).map (·.1) = _
      rw [filter_settle_of_ne (by decide)]
      exact h.taken
    · intro hrunning
      show (w.settle .replaced).countP (·.2 = .discarded) = 0
      rw [count_settle_of_ne (by decide)]
      exact h.kept hstopped
  | dispatch hdispatching => exact h.of_same rfl rfl rfl rfl rfl
  | begin hrunning hpumps => exact h.of_same rfl rfl rfl rfl rfl
  | pump hrunning => exact h.of_same rfl rfl rfl rfl rfl
  | discard hrunning =>
    exact (h.drop (hp.discards hrunning)).of_same rfl rfl rfl rfl rfl
  | take hrunning =>
    have hactive := hb.inactive hp hrunning (by decide) (by decide)
    unfold SnapshotSender.takePending
    split
    · rename_i hpending
      refine ⟨?_, h.accepted, h.acceptedCount, h.replacedCount, h.taken, h.kept, h.last⟩
      show false = w.pump.pendingSnapshot.isSome
      rw [hpending]
      rfl
    · rename_i snapshot hpending
      refine ⟨rfl, ?_, h.acceptedCount, ?_, ?_, ?_, fun _ => last_settle (by decide) h⟩
      · show w.accepted = (w.settle .taken).map (·.1) ++ []
        rw [map_fst_settle, List.append_nil]
        exact h.accepted
      · show w.pump.replacedSnapshotCount = (w.settle .taken).countP (·.2 = .replaced)
        rw [count_settle_of_ne (by decide)]
        exact h.replacedCount
      · have htaken := h.taken
        rw [hactive, Option.toList_none, List.append_nil] at htaken
        show ((w.settle .taken).filter (·.2 = .taken)).map (·.1) = _
        unfold settle
        rw [List.filter_append, List.map_append, htaken, List.map_append, hpending]
        rfl
      · intro hstopped
        show (w.settle .taken).countP (·.2 = .discarded) = 0
        rw [count_settle_of_ne (by decide)]
        exact h.kept hstopped
  | copy order hrunning hperm =>
    refine h.of_same rfl rfl rfl rfl (map_snapshot_map ?_ _ _)
    exact fun _ => rfl
  | send hrunning =>
    unfold SnapshotSender.sendToNextEndpoint
    split
    · refine h.of_same rfl rfl rfl rfl ?_
      rw [Option.toList_none, List.append_nil]
    · refine h.of_same rfl rfl rfl rfl (map_snapshot_map ?_ _ _)
      exact fun _ => rfl
  | finish hrunning => exact h.of_same rfl rfl rfl rfl rfl
  | complete index error hrunning hindex => exact h.of_same rfl rfl rfl rfl rfl
  | stop hstopped =>
    refine ⟨h.pending, h.accepted, h.acceptedCount, h.replacedCount, h.taken, ?_, h.last⟩
    intro hrunning
    cases hrunning
  | clear hstopping =>
    have hstopped : w.pump.stopped = true := by
      by_contra hrunning
      rw [hp.stopping.mp (Bool.eq_false_iff.mpr hrunning)] at hstopping
      cases hstopping
    exact (h.drop hstopped).of_same rfl rfl rfl rfl rfl
  | close hstopping => exact h.of_same rfl rfl rfl rfl rfl
  | setEndpoints endpoints =>
    refine h.of_same rfl rfl rfl rfl ?_
    dsimp only
    split
    · refine map_snapshot_map ?_ _ _
      exact fun _ => rfl
    · rfl

/-! ## The broadcasts -/

/-- A step that leaves what the strand sends alone. -/
theorem Broadcasting.of_same (h : Broadcasting w) (hrunning : w'.running = w.running)
    (hsends : w'.sends = w.sends) (hactive : w'.active = w.active)
    (hsnapshot : w'.activeSnapshot = w.activeSnapshot)
    (hdestinations : w'.snapshotDestinations = w.snapshotDestinations)
    (hnext : w'.nextSnapshotDestination = w.nextSnapshotDestination) (hendpoints : w'.endpoints = w.endpoints)
    (hfinished : w'.finished = w.finished) (hsent : w'.sent = w.sent)
    (hstopped : w'.pump.stopped = false → w.pump.stopped = false) : Broadcasting w' := by
  constructor
  · rw [hactive, hrunning, hsends]
    exact h.busy
  · rw [hactive]
    intro broadcast hbroadcast
    have hc := h.current broadcast hbroadcast
    constructor
    · rw [hsnapshot]
      exact hc.snapshot
    · unfold addresses
      rw [hrunning, hendpoints]
      exact hc.copying
    · rw [hrunning, hdestinations]
      exact hc.copied
    · rw [hrunning, hdestinations, hnext]
      exact hc.sending
    · rw [hsends, hdestinations, hnext]
      exact hc.outstanding
  · rw [hfinished]
    exact fun hrunning => h.complete (hstopped hrunning)
  · rw [hsent, hfinished, hactive]
    exact h.sent

/-- A step before or after a broadcast. -/
theorem Broadcasting.of_inactive (h : Broadcasting w) (hactive : w.active = none) (hactive' : w'.active = none)
    (hcopy : w'.running ≠ some .copy) (hsend : w'.running ≠ some .send) (hsends : w'.sends = [])
    (hfinished : w'.finished = w.finished) (hsent : w'.sent = w.sent)
    (hstopped : w'.pump.stopped = false → w.pump.stopped = false) : Broadcasting w' := by
  constructor
  · rw [hactive', hsends]
    simp [hcopy, hsend]
  · rw [hactive']
    intro broadcast hbroadcast
    cases hbroadcast
  · rw [hfinished]
    exact fun hrunning => h.complete (hstopped hrunning)
  · rw [hsent, hfinished, hactive', ← hactive]
    exact h.sent

theorem Broadcasting.takePending (h : Broadcasting w) (hp : Paced w) (hrunning : w.running = some .take) :
    Broadcasting w.takePending := by
  have hactive := h.inactive hp hrunning (by decide) (by decide)
  obtain ⟨-, -, hsends, -⟩ := hp.alone hrunning
  unfold SnapshotSender.takePending
  split
  · exact h.of_inactive hactive hactive (by simp) (by simp) hsends rfl rfl id
  · rename_i snapshot hpending
    have hsent := h.sent
    rw [hactive, Option.toList_none, List.append_nil] at hsent
    refine ⟨iff_of_true rfl (.inl rfl), ?_, h.complete, ?_⟩
    · intro broadcast hbroadcast
      obtain rfl := Option.some.inj hbroadcast
      refine ⟨rfl, fun _ => ⟨rfl, rfl, fun _ => rfl⟩, fun hcopy => absurd rfl hcopy, ?_, ?_⟩
      · intro hsend
        cases hsend
      · intro houtstanding
        exact absurd hsends houtstanding
    · show w.sent = _
      rw [hsent, Option.toList_some, List.flatMap_append, List.flatMap_singleton]
      exact (List.append_nil _).symm

theorem Broadcasting.copy (h : Broadcasting w) (hp : Paced w) {order : List Endpoint}
    (hrunning : w.running = some .copy) (hperm : order.Perm w.addresses) :
    Broadcasting { w with
      snapshotDestinations := order
      nextSnapshotDestination := 0
      running := some .send
      active := w.active.map fun broadcast =>
        { broadcast with copied := w.addresses, destinations := order } } := by
  obtain ⟨-, -, hsends, -⟩ := hp.alone hrunning
  obtain ⟨broadcast, hactive⟩ := Option.isSome_iff_exists.mp (h.busy.mpr (.inl hrunning))
  have hc := h.current broadcast hactive
  obtain ⟨-, hissued, hregistered⟩ := hc.copying hrunning
  have hsent := h.sent
  rw [hactive] at hsent
  rw [hactive]
  refine ⟨iff_of_true rfl (.inr (.inl rfl)), ?_, h.complete, ?_⟩
  · intro other hother
    obtain rfl := Option.some.inj hother
    refine ⟨hc.snapshot, ?_, fun _ => ⟨rfl, hperm, ?_⟩, fun _ => hissued, ?_⟩
    · intro hcopy
      cases hcopy
    · intro hchanged
      rw [hregistered hchanged]
      exact hperm
    · intro houtstanding
      exact absurd hsends houtstanding
  · rw [hsent]
    simp only [Option.toList_some, List.flatMap_append, List.flatMap_singleton, Option.map_some]

theorem Broadcasting.sendToNextEndpoint (h : Broadcasting w) (hp : Paced w)
    (hrunning : w.running = some .send) : Broadcasting w.sendToNextEndpoint := by
  obtain ⟨-, -, hsends, -⟩ := hp.alone hrunning
  obtain ⟨broadcast, hactive⟩ := Option.isSome_iff_exists.mp (h.busy.mpr (.inr (.inl hrunning)))
  have hc := h.current broadcast hactive
  have hnotCopy : w.running ≠ some .copy := by
    rw [hrunning]
    simp
  obtain ⟨hdestinations, hregistered⟩ := hc.copied hnotCopy
  have hissued := hc.sending hrunning
  have hsent := h.sent
  rw [hactive] at hsent
  unfold SnapshotSender.sendToNextEndpoint
  rw [hactive]
  split
  · rename_i hends
    refine ⟨?_, ?_, ?_, ?_⟩
    · rw [hsends]
      simp
    · intro other hother
      cases hother
    · intro hstopped
      refine List.forall_mem_append.mpr ⟨h.complete hstopped, ?_⟩
      intro other hother
      obtain rfl := List.mem_singleton.mp hother
      have hall : w.nextSnapshotDestination ≥ w.snapshotDestinations.length :=
        hends.resolve_left fun htrue => absurd (hstopped.symm.trans htrue) (by decide)
      refine ⟨?_, hregistered.1, hregistered.2⟩
      rw [hissued, hdestinations, List.take_of_length_le hall]
    · rw [Option.toList_none, List.append_nil]
      exact hsent
  · rename_i hgoes
    have hlt : w.nextSnapshotDestination < w.snapshotDestinations.length :=
      Nat.not_le.mp (not_or.mp hgoes).2
    have hgoing : (w.snapshotDestinations[w.nextSnapshotDestination]?).toList =
        [w.snapshotDestinations[w.nextSnapshotDestination]] := by
      rw [List.getElem?_eq_getElem hlt]
      rfl
    rw [hgoing, hsends, hc.snapshot]
    refine ⟨iff_of_true rfl (.inr (.inr (List.cons_ne_nil _ _))), ?_, h.complete, ?_⟩
    · intro other hother
      obtain rfl := Option.some.inj hother
      refine ⟨rfl, ?_, fun _ => ⟨hdestinations, hregistered⟩, ?_, fun _ => ⟨hlt, ?_⟩⟩
      · intro hcopy
        cases hcopy
      · intro hsend
        cases hsend
      · show broadcast.issued ++ _ = _
        rw [hissued, List.take_add_one, hgoing]
        rfl
    · show w.sent ++ _ = _
      rw [hsent]
      simp

theorem Broadcasting.completeSend (h : Broadcasting w) (hp : Paced w) {index : Nat} {error : Bool}
    (hrunning : w.running = none) (hindex : index < w.sends.length) :
    Broadcasting (w.completeSend index error) := by
  have hne : w.sends ≠ [] := List.length_pos_iff.mp (Nat.zero_lt_of_lt hindex)
  have hrest : w.sends.eraseIdx index = [] := by
    have hone := hp.one
    unfold activity at hone
    have hlength := List.length_eraseIdx_of_lt hindex
    exact List.length_eq_zero_iff.mp (by omega)
  obtain ⟨broadcast, hactive⟩ := Option.isSome_iff_exists.mp (h.busy.mpr (.inr (.inr hne)))
  have hc := h.current broadcast hactive
  have hnotCopy : w.running ≠ some .copy := by
    rw [hrunning]
    simp
  obtain ⟨hdestinations, hregistered⟩ := hc.copied hnotCopy
  obtain ⟨-, hissued⟩ := hc.outstanding hne
  unfold SnapshotSender.completeSend
  refine ⟨iff_of_true (hactive ▸ rfl) (.inr (.inl rfl)), ?_, h.complete, h.sent⟩
  intro other hother
  obtain rfl := Option.some.inj (hactive.symm.trans hother)
  refine ⟨hc.snapshot, ?_, fun _ => ⟨hdestinations, hregistered⟩, fun _ => hissued, ?_⟩
  · intro hcopy
    cases hcopy
  · intro houtstanding
    exact absurd hrest houtstanding

theorem Broadcasting.setEndpoints (h : Broadcasting w) (endpoints : IdMap Endpoint) :
    Broadcasting { w with
      endpoints
      active := if w.running = some .copy then
          w.active.map fun broadcast => { broadcast with changed := true }
        else w.active } := by
  have hsent := h.sent
  by_cases hcopy : w.running = some .copy
  · obtain ⟨broadcast, hactive⟩ := Option.isSome_iff_exists.mp (h.busy.mpr (.inl hcopy))
    have hc := h.current broadcast hactive
    rw [hactive] at hsent
    simp only [if_pos hcopy, hactive]
    refine ⟨iff_of_true rfl (.inl hcopy), ?_, h.complete, ?_⟩
    · intro other hother
      obtain rfl := Option.some.inj hother
      obtain ⟨hdestinations, hissued, -⟩ := hc.copying hcopy
      refine ⟨hc.snapshot, fun _ => ⟨hdestinations, hissued, ?_⟩, ?_, hc.sending, hc.outstanding⟩
      · intro hchanged
        cases hchanged
      · intro hother
        exact absurd hcopy hother
    · rw [hsent]
      simp only [Option.toList_some, List.flatMap_append, List.flatMap_singleton, Option.map_some]
  · simp only [if_neg hcopy]
    refine ⟨h.busy, ?_, h.complete, hsent⟩
    intro broadcast hactive
    have hc := h.current broadcast hactive
    exact ⟨hc.snapshot, fun hother => absurd hother hcopy, hc.copied, hc.sending, hc.outstanding⟩

theorem Broadcasting.moves (h : Broadcasting w) (hp : Paced w) (hm : Moves w w') : Broadcasting w' := by
  cases hm with
  | refused count => exact h.of_same rfl rfl rfl rfl rfl rfl rfl rfl rfl id
  | accepted bytes hstopped hidle => exact h.of_same rfl rfl rfl rfl rfl rfl rfl rfl rfl id
  | dispatch hdispatching => exact h.of_same rfl rfl rfl rfl rfl rfl rfl rfl rfl id
  | begin hrunning hpumps =>
    have hsends : w.sends = [] := by
      have hone := hp.one
      unfold activity at hone
      exact List.length_eq_zero_iff.mp (by omega)
    have hactive : w.active = none := by
      by_contra hsome
      have hbusy := h.busy.mp (Option.isSome_iff_ne_none.mpr hsome)
      rw [hrunning, hsends] at hbusy
      simp at hbusy
    exact h.of_inactive hactive hactive (by simp) (by simp) hsends rfl rfl id
  | pump hrunning =>
    have hactive := h.inactive hp hrunning (by decide) (by decide)
    obtain ⟨-, -, hsends, -⟩ := hp.alone hrunning
    refine h.of_inactive hactive hactive ?_ ?_ hsends rfl rfl id
    · dsimp only
      split
      · simp
      · simp
    · dsimp only
      split
      · simp
      · simp
  | discard hrunning =>
    have hactive := h.inactive hp hrunning (by decide) (by decide)
    obtain ⟨-, -, hsends, -⟩ := hp.alone hrunning
    exact h.of_inactive hactive hactive (by simp) (by simp) hsends rfl rfl id
  | take hrunning => exact h.takePending hp hrunning
  | copy order hrunning hperm => exact h.copy hp hrunning hperm
  | send hrunning => exact h.sendToNextEndpoint hp hrunning
  | finish hrunning =>
    have hactive := h.inactive hp hrunning (by decide) (by decide)
    obtain ⟨-, -, hsends, -⟩ := hp.alone hrunning
    exact h.of_inactive hactive hactive (by simp) (by simp) hsends rfl rfl id
  | complete index error hrunning hindex => exact h.completeSend hp hrunning hindex
  | stop hstopped => exact h.of_same rfl rfl rfl rfl rfl rfl rfl rfl rfl fun _ => hstopped
  | clear hstopping => exact h.of_same rfl rfl rfl rfl rfl rfl rfl rfl rfl id
  | close hstopping => exact h.of_same rfl rfl rfl rfl rfl rfl rfl rfl rfl id
  | setEndpoints endpoints => exact h.setEndpoints endpoints

/-! ## Any interleaving -/

theorem pumping_of_run {steps : List SenderStep} (hrun : run SnapshotSender.next {} steps = some w) :
    Pumping w := by
  refine reachable_invariant Pumping ?_ pumping_new ⟨steps, hrun⟩
  intro w step w' h hnext
  have hm := moves_of_next hnext
  exact ⟨h.paced.moves hm, h.logged.moves h.paced h.broadcasting hm, h.broadcasting.moves h.paced hm⟩

/-- No dispatch, handler or completion of the pump can run. -/
structure Quiescent (w : SnapshotSender) : Prop where
  dispatch : w.next .dispatchPump = none
  begin : w.next .beginPump = none
  advance : ∀ order, w.next (.advance order) = none
  complete : ∀ index error, w.next (.completeSend index error) = none

theorem Quiescent.activity_eq (h : Quiescent w) : activity w = 0 := by
  have hdispatching : w.dispatching = false := by
    by_contra htrue
    have hnone := h.dispatch
    rw [SnapshotSender.next, if_pos (Bool.not_eq_false _ ▸ htrue)] at hnone
    cases hnone
  have hrunning : w.running = none := by
    by_contra hsome
    obtain ⟨place, hplace⟩ := Option.ne_none_iff_exists'.mp hsome
    have hnone := h.advance w.addresses
    rw [SnapshotSender.next, hplace, Option.bind_some] at hnone
    cases place with
    | copy =>
      rw [SnapshotSender.advance, if_pos (List.Perm.refl _)] at hnone
      cases hnone
    | pump => cases hnone
    | discard => cases hnone
    | take => cases hnone
    | send => cases hnone
    | finish => cases hnone
  have hpumps : w.pumps = 0 := by
    by_contra hpositive
    have hnone := h.begin
    rw [SnapshotSender.next, if_pos ⟨hrunning, hpositive⟩] at hnone
    cases hnone
  have hsends : w.sends = [] := by
    by_contra hne
    have hnone := h.complete 0 false
    rw [SnapshotSender.next, if_pos ⟨hrunning, List.length_pos_iff.mpr hne⟩] at hnone
    cases hnone
  unfold activity
  rw [hdispatching, hrunning, hpumps, hsends]
  rfl

theorem quiescent_of_activity (h : activity w = 0) : Quiescent w := by
  unfold activity at h
  have hdispatching : w.dispatching = false := Bool.toNat_eq_zero.mp (by omega)
  have hrunning : w.running = none := Option.toList_eq_nil_iff.mp (List.length_eq_zero_iff.mp (by omega))
  have hpumps : w.pumps = 0 := by omega
  have hsends : w.sends = [] := List.length_eq_zero_iff.mp (by omega)
  constructor
  · rw [SnapshotSender.next, hdispatching]
    rfl
  · rw [SnapshotSender.next, hpumps]
    exact if_neg fun hbegins => hbegins.2 rfl
  · intro order
    rw [SnapshotSender.next, hrunning]
    rfl
  · intro index error
    rw [SnapshotSender.next, hsends]
    exact if_neg fun hcompletes => Nat.not_lt_zero _ hcompletes.2

/-- The snapshots that the pump has taken, oldest first. -/
def broadcasts (w : SnapshotSender) : List SnapshotBroadcast := w.finished ++ w.active.toList

theorem Pumping.last_taken (h : Pumping w) (hstopped : w.pump.stopped = false) (hactivity : activity w = 0)
    {snapshot : List UInt8} (hlast : w.accepted.getLast? = some snapshot) :
    w.pump.pendingSnapshot = none ∧
      ∃ broadcast, w.finished.getLast? = some broadcast ∧ broadcast.snapshot = snapshot ∧
        Complete broadcast := by
  have hpending : w.pump.pendingSnapshot = none := by
    by_contra hsome
    have hscheduled := h.paced.wake hstopped (Option.isSome_iff_ne_none.mpr hsome)
    rw [h.paced.flag hstopped, hactivity] at hscheduled
    cases hscheduled
  have hactive : w.active = none := by
    unfold activity at hactivity
    by_contra hsome
    have hbusy := h.broadcasting.busy.mp (Option.isSome_iff_ne_none.mpr hsome)
    have hrunning : w.running = none := Option.toList_eq_nil_iff.mp (List.length_eq_zero_iff.mp (by omega))
    have hsends : w.sends = [] := List.length_eq_zero_iff.mp (by omega)
    rw [hrunning, hsends] at hbusy
    simp at hbusy
  refine ⟨hpending, ?_⟩
  have haccepted := h.logged.accepted
  rw [hpending, Option.toList_none, List.append_nil] at haccepted
  rw [haccepted, List.getLast?_map] at hlast
  obtain ⟨entry, hentry, hsnapshot⟩ := Option.map_eq_some_iff.mp hlast
  obtain ⟨before, hbefore⟩ := List.getLast?_eq_some_iff.mp hentry
  -- an open session has discarded nothing, and what was replaced is not last
  have hfate : entry.2 = .taken := by
    have hkept := h.logged.kept hstopped
    unfold count at hkept
    have hdiscarded := List.countP_eq_zero.mp hkept entry (List.mem_of_getLast? hentry)
    have hreplaced := h.logged.last hpending entry hentry
    cases hentry' : entry.2 with
    | taken => rfl
    | replaced => exact absurd hentry' hreplaced
    | discarded => exact absurd (decide_eq_true hentry') hdiscarded
  have htaken := h.logged.taken
  rw [hactive, Option.toList_none, List.append_nil, hbefore, List.filter_append, List.map_append] at htaken
  have hlastTaken : (w.finished.map (·.snapshot)).getLast? = some snapshot := by
    rw [← htaken, ← hsnapshot]
    simp [hfate]
  rw [List.getLast?_map] at hlastTaken
  obtain ⟨broadcast, hbroadcast, hsame⟩ := Option.map_eq_some_iff.mp hlastTaken
  exact ⟨broadcast, hbroadcast, hsame,
    h.broadcasting.complete hstopped broadcast (List.mem_of_getLast? hbroadcast)⟩

/-- Every settled snapshot has one fate. -/
theorem length_settled (w : SnapshotSender) :
    w.settled.length = count .replaced w + count .taken w + count .discarded w := by
  unfold count
  induction w.settled with
  | nil => rfl
  | cons entry settled ih =>
    simp only [List.length_cons, List.countP_cons, ih, decide_eq_true_eq]
    cases entry.2 with
    | replaced => simp; omega
    | taken => simp; omega
    | discarded => simp; omega

theorem Pumping.accounted (h : Pumping w) :
    w.pump.acceptedSnapshotCount = w.pump.replacedSnapshotCount + (broadcasts w).length +
      (if w.snapshotPending then 1 else 0) + count .discarded w := by
  have htaken : count .taken w = (broadcasts w).length := by
    have hmap := congrArg List.length h.logged.taken
    rw [List.length_map, List.length_map] at hmap
    rw [count, List.countP_eq_length_filter]
    exact hmap
  have hpending : w.pump.pendingSnapshot.toList.length = if w.snapshotPending then 1 else 0 := by
    rw [h.logged.pending]
    cases w.pump.pendingSnapshot with
    | none => rfl
    | some snapshot => rfl
  rw [h.logged.acceptedCount, h.logged.accepted, List.length_append, List.length_map, hpending,
    length_settled, h.logged.replacedCount, htaken]
  omega

theorem Pumping.ordered (h : Pumping w) :
    List.Sublist ((broadcasts w).map (·.snapshot)) w.accepted := by
  unfold broadcasts
  rw [← h.logged.taken, h.logged.accepted]
  exact (List.filter_sublist.map _).trans (List.sublist_append_left _ _)

/-- Over any interleaving one send is outstanding at most, the slot holds the latest snapshot, none is
forgotten, they go out in the order of acceptance, each of them is counted once, and after `Stop` none is
left. -/
theorem pumped_of_run {steps : List SenderStep} (hrun : run SnapshotSender.next {} steps = some w) :
    w.sends.length ≤ 1 ∧
    (∀ snapshot, w.pump.pendingSnapshot = some snapshot → w.accepted = w.settled.map (·.1) ++ [snapshot]) ∧
    (w.pump.stopped = false → w.pump.pendingSnapshot.isSome →
      w.pump.snapshotPumpScheduled = true ∧
        (w.dispatching = true ∨ w.pumps ≠ 0 ∨ w.running ≠ none ∨ w.sends ≠ [])) ∧
    (w.pump.stopped = false → Quiescent w → ∀ snapshot, w.accepted.getLast? = some snapshot →
      w.pump.pendingSnapshot = none ∧
        ∃ broadcast, w.finished.getLast? = some broadcast ∧ broadcast.snapshot = snapshot ∧
          Complete broadcast) ∧
    w.sent = (broadcasts w).flatMap (fun broadcast => broadcast.issued.map (broadcast.snapshot, ·)) ∧
    List.Sublist ((broadcasts w).map (·.snapshot)) w.accepted ∧
    w.pump.acceptedSnapshotCount = w.pump.replacedSnapshotCount + (broadcasts w).length +
      (if w.snapshotPending then 1 else 0) + count .discarded w ∧
    (w.pump.stopped = false → count .discarded w = 0) ∧
    (w.stopping = .cleared ∨ w.stopping = .closed → w.pump.pendingSnapshot = none ∧
      ∀ bytes, (w.sendSnapshot bytes).1 = false) := by
  have h := pumping_of_run hrun
  have hone := h.paced.one
  refine ⟨?_, ?_, ?_, ?_, h.broadcasting.sent, h.ordered, h.accounted, h.logged.kept, ?_⟩
  · unfold activity at hone
    omega
  · intro snapshot hpending
    have haccepted := h.logged.accepted
    rw [hpending] at haccepted
    exact haccepted
  · intro hstopped hpending
    have hscheduled := h.paced.wake hstopped hpending
    refine ⟨hscheduled, ?_⟩
    have hactivity := (h.paced.flag hstopped).mp hscheduled
    by_contra hidle
    simp only [not_or, not_not] at hidle
    obtain ⟨hdispatching, hpumps, hrunning, hsends⟩ := hidle
    unfold activity at hactivity
    rw [Bool.eq_false_iff.mpr hdispatching, hpumps, hrunning, hsends] at hactivity
    cases hactivity
  · intro hstopped hquiescent snapshot hlast
    exact h.last_taken hstopped hquiescent.activity_eq hlast
  · intro hcleared
    have hstopped : w.pump.stopped = true := by
      by_contra hrunning
      have hidle := h.paced.stopping.mp (Bool.eq_false_iff.mpr hrunning)
      rw [hidle] at hcleared
      rcases hcleared with hcleared | hclosed
      · cases hcleared
      · cases hclosed
    refine ⟨h.paced.cleared hcleared, fun bytes => ?_⟩
    unfold SnapshotSender.sendSnapshot SnapshotPump.sendSnapshot
    rw [if_pos hstopped]
    split
    · rfl
    split
    · rfl
    · rfl

/-- Two endpoints, a snapshot that is replaced while the first goes out, and an error on the way. -/
theorem pumped_of_run_replaced : ∃ w, (∃ steps, run SnapshotSender.next {} steps = some w) ∧
    w.sent = [([1], ⟨1, 1⟩), ([1], ⟨2, 2⟩), ([3], ⟨1, 1⟩), ([3], ⟨2, 2⟩)] ∧
    w.pump.acceptedSnapshotCount = 3 ∧ w.pump.replacedSnapshotCount = 1 ∧
    ∃ broadcast, w.finished.getLast? = some broadcast ∧ broadcast.snapshot = [3] ∧ Complete broadcast := by
  let order : List Endpoint := [⟨1, 1⟩, ⟨2, 2⟩]
  let endpoints : IdMap Endpoint := (((∅ : IdMap Endpoint).insert 4 ⟨1, 1⟩).insert 5 ⟨2, 2⟩)
  let send : List SenderStep := [.advance [], .completeSend 0 false]
  let steps : List SenderStep :=
    [.setEndpoints endpoints, .sendSnapshot [1], .dispatchPump, .beginPump, .advance [], .advance [],
      .sendSnapshot [2], .sendSnapshot [3], .advance order, .advance [], .completeSend 0 true] ++ send ++
    [.advance [], .advance [], .advance [], .advance [], .advance order] ++ send ++ send ++
    [.advance [], .advance [], .advance [], .advance []]
  have hsome : (run SnapshotSender.next {} steps).map (fun w => (w.sent, w.accepted,
        [w.pump.acceptedSnapshotCount, w.pump.replacedSnapshotCount, activity w], w.pump.stopped)) =
      some ([([1], ⟨1, 1⟩), ([1], ⟨2, 2⟩), ([3], ⟨1, 1⟩), ([3], ⟨2, 2⟩)], [[1], [2], [3]], [3, 1, 0], false) := by
    decide +kernel
  obtain ⟨w, hrun, hw⟩ := Option.map_eq_some_iff.mp hsome
  simp only [Prod.mk.injEq, List.cons.injEq] at hw
  obtain ⟨hsent, hlast, ⟨haccepted, hreplaced, hactivity, -⟩, hstopped⟩ := hw
  obtain ⟨-, -, -, hbroadcast, -⟩ := pumped_of_run hrun
  have hcomplete := hbroadcast hstopped (quiescent_of_activity hactivity) [3] (by rw [hlast]; rfl)
  exact ⟨w, ⟨steps, hrun⟩, hsent, haccepted, hreplaced, hcomplete.2⟩

end DnfServer.Snapshots
