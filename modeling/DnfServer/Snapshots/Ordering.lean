import DnfServer.Model.SnapshotClient
import Mathlib.Algebra.Group.Nat.Defs
import Mathlib.Data.List.Induction

/-!
# A client takes snapshots in the order of the server

The tag of a snapshot is the low half of the tick of the server. As long as the ticks of the snapshots
that arrive are less than half the range of a tag apart, comparing with the last tag accepted is comparing
ticks, and the difference of two tags is the difference of the ticks.
-/

namespace DnfServer.Snapshots

open Client
set_option autoImplicit false

/-! ## Tags and ticks -/

/-- Snapshots of these ticks can arrive in one connection. -/
def Near (a b : UInt64) : Prop := a.toNat < b.toNat + 2 ^ 31 ∧ b.toNat < a.toNat + 2 ^ 31

theorem toNat_sub_toUInt32 (a b : UInt64) :
    (b.toUInt32 - a.toUInt32).toNat = (2 ^ 32 - a.toNat % 2 ^ 32 + b.toNat % 2 ^ 32) % 2 ^ 32 := by
  rw [UInt32.toNat_sub, UInt64.toNat_toUInt32, UInt64.toNat_toUInt32]

/-- Forward from `a` to `b`, the distance of the tags is that of the ticks. -/
theorem distance_of_lt {a b : UInt64} (hnear : Near a b) (hlt : a.toNat < b.toNat) :
    (b.toUInt32 - a.toUInt32).toNat = b.toNat - a.toNat := by
  have hdistance := hnear.2
  rw [toNat_sub_toUInt32]
  omega

theorem forward_iff {a b : UInt64} (hnear : Near a b) :
    ¬ (b.toUInt32 - a.toUInt32 = 0 ∨ b.toUInt32 - a.toUInt32 ≥ ServerTickTracker.halfRange) ↔
      a.toNat < b.toNat := by
  have hhalf : ServerTickTracker.halfRange.toNat = 2 ^ 31 := by decide
  have hzero : b.toUInt32 - a.toUInt32 = 0 ↔ (b.toUInt32 - a.toUInt32).toNat = 0 := by
    rw [← UInt32.toNat_inj]
    rfl
  rw [hzero, ge_iff_le, UInt32.le_iff_toNat_le, hhalf, toNat_sub_toUInt32]
  obtain ⟨hab, hba⟩ := hnear
  omega

/-! ## The receive loop -/

/-- A datagram that the network delivers. The tick is that of the snapshot in it, if there is one. -/
structure Delivery where
  tick : UInt64
  received : Received

def Delivery.Tagged (delivery : Delivery) : Prop :=
  ∀ snapshot ∈ delivery.received.snapshot, snapshot.serverTick = delivery.tick.toUInt32

structure TickedSnapshot where
  tick : UInt64
  snapshot : DungeonSnapshotData

/-- A connection with the snapshots it has accepted. -/
structure Connection where
  receiver : SnapshotReceiver
  accepted : List TickedSnapshot := []

namespace Connection

def deliver (connection : Connection) (delivery : Delivery) : Connection :=
  let out := connection.receiver.receive delivery.received
  { receiver := out.2
    accepted := connection.accepted ++ (out.1.map fun snapshot => ⟨delivery.tick, snapshot⟩).toList }

def after (dungeonId : DungeonId) (deliveries : List Delivery) : Connection :=
  deliveries.foldl deliver { receiver := .connect dungeonId }

theorem after_concat (dungeonId : DungeonId) (deliveries : List Delivery) (delivery : Delivery) :
    after dungeonId (deliveries ++ [delivery]) = (after dungeonId deliveries).deliver delivery :=
  List.foldl_concat ..

end Connection

/-- The datagram gets as far as the tracker. -/
structure Reaches (received : Received) (receiver : SnapshotReceiver) (snapshot : DungeonSnapshotData) :
    Prop where
  size : received.size ≤ maxDatagramSize
  notAck : received.helloAck.filter (·.dungeonId = receiver.dungeonId) = none
  decoded : received.snapshot = some snapshot
  authenticated : receiver.authenticated = true
  dungeonId : snapshot.dungeonId = receiver.dungeonId

theorem receive_of_reaches {received : Received} {receiver : SnapshotReceiver}
    {snapshot : DungeonSnapshotData} (h : Reaches received receiver snapshot) :
    receiver.receive received =
      (if (receiver.snapshotTickTracker.tryAccept snapshot.serverTick).1 then some snapshot else none,
        { receiver with
          snapshotTickTracker := (receiver.snapshotTickTracker.tryAccept snapshot.serverTick).2 }) := by
  unfold SnapshotReceiver.receive
  rw [if_neg (Nat.not_lt.mpr h.size), h.notAck, h.decoded]
  exact if_pos ⟨h.authenticated, h.dungeonId⟩

theorem receive_of_not_reaches {received : Received} {receiver : SnapshotReceiver}
    (h : ∀ snapshot, ¬ Reaches received receiver snapshot) :
    (receiver.receive received).1 = none ∧
      (receiver.receive received).2.snapshotTickTracker = receiver.snapshotTickTracker ∧
      (receiver.receive received).2.dungeonId = receiver.dungeonId := by
  unfold SnapshotReceiver.receive
  split
  · exact ⟨rfl, rfl, rfl⟩
  rename_i hsize
  split
  · split
    · exact ⟨rfl, rfl, rfl⟩
    · exact ⟨rfl, rfl, rfl⟩
  rename_i hack
  split
  · exact ⟨rfl, rfl, rfl⟩
  rename_i snapshot hsnapshot
  split
  · rename_i hpasses
    exact absurd ⟨Nat.not_lt.mp hsize, hack, hsnapshot, hpasses.1, hpasses.2⟩ (h snapshot)
  · exact ⟨rfl, rfl, rfl⟩

theorem tryAccept_of_fresh {tracker : ServerTickTracker} (h : tracker.hasAcceptedTick = false)
    (tick : UInt32) : tracker.tryAccept tick = (true, ⟨true, tick⟩) := by
  unfold ServerTickTracker.tryAccept
  rw [h]
  rfl

/-- After `a`, a tag near to it is accepted when its tick is later. -/
theorem tryAccept_of_last {a b : UInt64} (hnear : Near a b) :
    ServerTickTracker.tryAccept b.toUInt32 ⟨true, a.toUInt32⟩ =
      if a.toNat < b.toNat then (true, ⟨true, b.toUInt32⟩) else (false, ⟨true, a.toUInt32⟩) := by
  have hforward := forward_iff hnear
  unfold ServerTickTracker.tryAccept
  rw [if_neg (not_not_intro rfl)]
  by_cases hlt : a.toNat < b.toNat
  · rw [if_pos hlt]
    exact if_neg (hforward.mpr hlt)
  · rw [if_neg hlt]
    exact if_pos (not_not.mp (mt hforward.mp hlt))

/-! ## Accepted snapshots -/

/-- The accepted ticks increase, and the tracker holds the tag of the last one. -/
structure Tracks (connection : Connection) : Prop where
  increasing : connection.accepted.Pairwise fun a b => a.tick.toNat < b.tick.toNat
  first : connection.accepted = [] → connection.receiver.snapshotTickTracker.hasAcceptedTick = false
  last : ∀ a, connection.accepted.getLast? = some a →
    connection.receiver.snapshotTickTracker = ⟨true, a.tick.toUInt32⟩
  dungeon : ∀ a ∈ connection.accepted, a.snapshot.dungeonId = connection.receiver.dungeonId

theorem tracks_connect (dungeonId : DungeonId) : Tracks { receiver := .connect dungeonId } := by
  refine ⟨List.Pairwise.nil, fun _ => rfl, ?_, List.forall_mem_nil _⟩
  intro a ha
  cases ha

variable {connection : Connection} {delivery : Delivery} {snapshot : DungeonSnapshotData}

theorem Tracks.lt_iff (h : Tracks connection) {a : TickedSnapshot}
    (ha : connection.accepted.getLast? = some a) {tick : Nat} :
    a.tick.toNat < tick ↔ ∀ b ∈ connection.accepted, b.tick.toNat < tick := by
  constructor
  · intro hlt b hb
    obtain ⟨before, hbefore⟩ := List.getLast?_eq_some_iff.mp ha
    have hincreasing := h.increasing
    rw [hbefore] at hincreasing hb
    rcases List.mem_append.mp hb with hb | hb
    · have hba := (List.pairwise_append.mp hincreasing).2.2 b hb a (List.mem_singleton.mpr rfl)
      omega
    · obtain rfl := List.mem_singleton.mp hb
      exact hlt
  · intro hall
    exact hall a (List.mem_of_getLast? ha)

/-- A snapshot that reaches the tracker is accepted when it is newer than all before. -/
theorem Tracks.tryAccept (h : Tracks connection) (htagged : delivery.Tagged)
    (hnear : ∀ a ∈ connection.accepted, Near a.tick delivery.tick)
    (hreaches : Reaches delivery.received connection.receiver snapshot) :
    connection.receiver.snapshotTickTracker.tryAccept snapshot.serverTick =
      if ∀ a ∈ connection.accepted, a.tick.toNat < delivery.tick.toNat then
        (true, ⟨true, delivery.tick.toUInt32⟩)
      else (false, connection.receiver.snapshotTickTracker) := by
  rw [htagged snapshot hreaches.decoded]
  cases hlast : connection.accepted.getLast? with
  | none =>
    have hempty := List.getLast?_eq_none_iff.mp hlast
    rw [tryAccept_of_fresh (h.first hempty), hempty, if_pos (List.forall_mem_nil _)]
  | some a =>
    have hiff : a.tick.toNat < delivery.tick.toNat ↔ _ := h.lt_iff hlast
    rw [h.last a hlast, tryAccept_of_last (hnear a (List.mem_of_getLast? hlast))]
    exact if_congr hiff rfl rfl

theorem Tracks.deliver (h : Tracks connection) (htagged : delivery.Tagged)
    (hnear : delivery.received.snapshot.isSome → ∀ a ∈ connection.accepted, Near a.tick delivery.tick) :
    Tracks (connection.deliver delivery) := by
  by_cases hreaches : ∃ snapshot, Reaches delivery.received connection.receiver snapshot
  · obtain ⟨snapshot, hreaches⟩ := hreaches
    have hsome : delivery.received.snapshot.isSome := by
      rw [hreaches.decoded]
      rfl
    have haccept := h.tryAccept htagged (hnear hsome) hreaches
    unfold Connection.deliver
    rw [receive_of_reaches hreaches]
    by_cases hnewer : ∀ a ∈ connection.accepted, a.tick.toNat < delivery.tick.toNat
    · rw [if_pos hnewer] at haccept
      simp only [haccept, if_true, Option.map_some, Option.toList_some]
      refine ⟨?_, ?_, ?_, ?_⟩
      · exact List.pairwise_append.mpr ⟨h.increasing, List.pairwise_singleton _ _,
          fun a ha b hb => (List.mem_singleton.mp hb) ▸ hnewer a ha⟩
      · intro hnil
        exact absurd hnil (List.append_ne_nil_of_right_ne_nil _ (List.cons_ne_nil _ _))
      · intro a ha
        rw [List.getLast?_concat] at ha
        obtain rfl := Option.some.inj ha
        rfl
      · intro a ha
        rcases List.mem_append.mp ha with ha | ha
        · exact h.dungeon a ha
        · obtain rfl := List.mem_singleton.mp ha
          exact hreaches.dungeonId
    · rw [if_neg hnewer] at haccept
      simp only [haccept, Bool.false_eq_true, if_false, Option.map_none, Option.toList_none,
        List.append_nil]
      exact h
  · obtain ⟨hnone, htracker, hdungeon⟩ := receive_of_not_reaches (not_exists.mp hreaches)
    unfold Connection.deliver
    simp only [hnone, Option.map_none, Option.toList_none, List.append_nil]
    refine ⟨h.increasing, ?_, ?_, ?_⟩
    · rw [htracker]
      exact h.first
    · rw [htracker]
      exact h.last
    · rw [hdungeon]
      exact h.dungeon

/-- Every accepted snapshot was delivered. -/
theorem mem_of_accepted (dungeonId : DungeonId) (deliveries : List Delivery) :
    ∀ a ∈ (Connection.after dungeonId deliveries).accepted,
      ∃ delivery ∈ deliveries, delivery.tick = a.tick ∧ delivery.received.snapshot.isSome := by
  induction deliveries using List.reverseRecOn with
  | nil => exact List.forall_mem_nil _
  | append_singleton deliveries delivery ih =>
    intro a ha
    rw [Connection.after_concat] at ha
    rcases List.mem_append.mp ha with ha | ha
    · obtain ⟨earlier, hmem, htick⟩ := ih a ha
      exact ⟨earlier, List.mem_append_left _ hmem, htick⟩
    · obtain ⟨snapshot, hsnapshot, rfl⟩ := Option.map_eq_some_iff.mp (Option.mem_toList.mp ha)
      refine ⟨delivery, List.mem_append_right _ (List.mem_singleton.mpr rfl), rfl, ?_⟩
      by_cases hreaches : ∃ s, Reaches delivery.received (Connection.after dungeonId deliveries).receiver s
      · obtain ⟨s, hreaches⟩ := hreaches
        rw [hreaches.decoded]
        rfl
      · rw [(receive_of_not_reaches (not_exists.mp hreaches)).1] at hsnapshot
        cases hsnapshot

/-- Any two snapshots of one connection are less than half the range of a tag apart. -/
def AllNear (deliveries : List Delivery) : Prop :=
  ∀ a ∈ deliveries, ∀ b ∈ deliveries, a.received.snapshot.isSome → b.received.snapshot.isSome →
    Near a.tick b.tick

theorem AllNear.of_subset {deliveries deliveries' : List Delivery} (h : AllNear deliveries)
    (hsub : deliveries' ⊆ deliveries) : AllNear deliveries' :=
  fun a ha b hb => h a (hsub ha) b (hsub hb)

theorem tracks_after (dungeonId : DungeonId) {deliveries : List Delivery}
    (htagged : ∀ delivery ∈ deliveries, delivery.Tagged) (hnear : AllNear deliveries) :
    Tracks (Connection.after dungeonId deliveries) := by
  induction deliveries using List.reverseRecOn with
  | nil => exact tracks_connect dungeonId
  | append_singleton deliveries delivery ih =>
    have hlast : delivery ∈ deliveries ++ [delivery] :=
      List.mem_append_right _ (List.mem_singleton.mpr rfl)
    have hearlier : deliveries ⊆ deliveries ++ [delivery] := List.subset_append_left _ _
    rw [Connection.after_concat]
    apply (ih (fun d hd => htagged d (hearlier hd)) (hnear.of_subset hearlier)).deliver
      (htagged delivery hlast)
    intro hsome a ha
    obtain ⟨d, hd, htick, hsnapshot⟩ := mem_of_accepted dungeonId deliveries a ha
    rw [← htick]
    exact hnear d (hearlier hd) delivery hlast hsnapshot hsome

/-! ## The buffer -/

def pushesOf (steps : List BufferStep) : List DungeonSnapshotData :=
  steps.flatMap fun step => match step with
    | .push snapshot => [snapshot]
    | .advance _ | .reset => []

/-- The snapshots pushed since the last reset. -/
def recentOf (steps : List BufferStep) : List DungeonSnapshotData :=
  steps.foldl (fun recent step => match step with
    | .push snapshot => recent ++ [snapshot]
    | .advance _ => recent
    | .reset => []) []

theorem recentOf_suffix (steps : List BufferStep) : recentOf steps <:+ pushesOf steps := by
  induction steps using List.reverseRecOn with
  | nil => exact List.suffix_refl _
  | append_singleton steps step ih =>
    unfold recentOf pushesOf
    rw [List.foldl_concat, List.flatMap_append]
    cases step with
    | push snapshot =>
      obtain ⟨before, hbefore⟩ := ih
      refine ⟨before, ?_⟩
      rw [← List.append_assoc]
      exact congrArg (· ++ [snapshot]) hbefore
    | advance deltaSeconds =>
      simp only [List.flatMap_cons, List.flatMap_nil, List.append_nil]
      exact ih
    | reset => exact List.nil_suffix

theorem advance_snapshots (buffer : DungeonSnapshotBuffer) (deltaSeconds : Rat) :
    (buffer.step (.advance deltaSeconds)).previous = buffer.previous ∧
      (buffer.step (.advance deltaSeconds)).current = buffer.current := by
  have hadvanced : ∀ out, buffer.advance deltaSeconds = some out →
      out.2.previous = buffer.previous ∧ out.2.current = buffer.current := by
    intro out hout
    unfold DungeonSnapshotBuffer.advance at hout
    split at hout
    · cases hout
    dsimp only at hout
    split at hout
    · obtain rfl := Option.some.inj hout
      exact ⟨rfl, rfl⟩
    · obtain rfl := Option.some.inj hout
      exact ⟨rfl, rfl⟩
  show (((buffer.advance deltaSeconds).map (·.2)).getD buffer).previous = _ ∧
    (((buffer.advance deltaSeconds).map (·.2)).getD buffer).current = _
  cases hout : buffer.advance deltaSeconds with
  | none => exact ⟨rfl, rfl⟩
  | some out => exact hadvanced out hout

/-- Between snapshots of one dungeon the buffer holds the last two since its reset. -/
structure Holds (recent : List DungeonSnapshotData) (buffer : DungeonSnapshotBuffer) : Prop where
  current : buffer.current = recent.getLast?
  previous : buffer.previous = recent.dropLast.getLast?

theorem Holds.of_eq {recent : List DungeonSnapshotData} {buffer buffer' : DungeonSnapshotBuffer}
    (h : Holds recent buffer) (hprevious : buffer'.previous = buffer.previous)
    (hcurrent : buffer'.current = buffer.current) : Holds recent buffer' :=
  ⟨hcurrent.trans h.current, hprevious.trans h.previous⟩

theorem holds_steps {buffer : DungeonSnapshotBuffer} (hempty : Holds [] buffer) (dungeonId : DungeonId)
    {steps : List BufferStep} (hone : ∀ s ∈ pushesOf steps, s.dungeonId = dungeonId) :
    Holds (recentOf steps) (steps.foldl DungeonSnapshotBuffer.step buffer) := by
  induction steps using List.reverseRecOn with
  | nil => exact hempty
  | append_singleton steps step ih =>
    unfold pushesOf at hone
    rw [List.flatMap_append, List.forall_mem_append] at hone
    obtain ⟨hearlier, hlast⟩ := hone
    have hheld := ih hearlier
    unfold recentOf
    rw [List.foldl_concat, List.foldl_concat]
    cases step with
    | push snapshot =>
      have hsnapshot : snapshot.dungeonId = dungeonId := hlast snapshot (by simp)
      refine ⟨?_, ?_⟩
      · exact (List.getLast?_concat).symm
      · show Option.filter _ _ = (recentOf steps ++ [snapshot]).dropLast.getLast?
        rw [List.dropLast_concat, hheld.current]
        cases hcurrent : (recentOf steps).getLast? with
        | none => rfl
        | some current =>
          have hmem : current ∈ pushesOf steps :=
            (recentOf_suffix steps).subset (List.mem_of_getLast? hcurrent)
          rw [Option.filter_some, if_pos]
          rw [hearlier current hmem, hsnapshot]
          exact decide_eq_true rfl
    | advance deltaSeconds =>
      obtain ⟨hprevious, hcurrent⟩ :=
        advance_snapshots (steps.foldl DungeonSnapshotBuffer.step buffer) deltaSeconds
      exact hheld.of_eq hprevious hcurrent
    | reset => exact ⟨rfl, rfl⟩

/-! ## The mailbox -/

def receivedOf (steps : List ViewStep) : List Received :=
  steps.flatMap fun step => match step with
    | .receive received => [received]
    | _ => []

/-- A view with what its steps have done to the buffer. -/
structure ViewRun where
  view : SnapshotView
  bufferSteps : List BufferStep := []

def ViewRun.step (run : ViewRun) (step : ViewStep) : ViewRun where
  view := run.view.step step
  bufferSteps := run.bufferSteps ++ (run.view.bufferStep step).toList

def ViewRun.after (dungeonId : DungeonId) (buffer : DungeonSnapshotBuffer) (steps : List ViewStep) : ViewRun :=
  steps.foldl ViewRun.step { view := { receiver := .connect dungeonId, buffer } }

/-- What is pushed and what waits in the mailbox is in the order of acceptance. -/
structure Follows (buffer : DungeonSnapshotBuffer) (run : ViewRun) (connection : Connection) : Prop where
  receiver : run.view.receiver = connection.receiver
  buffer : run.view.buffer = run.bufferSteps.foldl DungeonSnapshotBuffer.step buffer
  pushed : List.Sublist (pushesOf run.bufferSteps ++ run.view.mailbox.snapshot.toList)
    (connection.accepted.map (·.snapshot))

theorem pushesOf_append (steps steps' : List BufferStep) :
    pushesOf (steps ++ steps') = pushesOf steps ++ pushesOf steps' :=
  List.flatMap_append

variable {buffer : DungeonSnapshotBuffer} {run : ViewRun}

theorem Follows.receive (h : Follows buffer run connection) (delivery : Delivery) :
    Follows buffer (run.step (.receive delivery.received)) (connection.deliver delivery) := by
  have hpushed := h.pushed
  have hbuffer := h.buffer
  have hsteps : (run.step (.receive delivery.received)).bufferSteps = run.bufferSteps := List.append_nil _
  refine ⟨?_, ?_, ?_⟩
  · show (run.view.receiver.receive delivery.received).2 = _
    rw [h.receiver]
    rfl
  · rw [hsteps]
    exact hbuffer
  · rw [hsteps]
    show List.Sublist (_ ++ ((run.view.receiver.receive delivery.received).1.elim run.view.mailbox
      run.view.mailbox.publishSnapshot).snapshot.toList) (List.map _ (connection.accepted ++ _))
    rw [h.receiver, List.map_append]
    cases (connection.receiver.receive delivery.received).1 with
    | none =>
      rw [Option.map_none, Option.toList_none, List.map_nil, List.append_nil]
      exact hpushed
    | some snapshot =>
      have hearlier := (List.sublist_append_left _ _).trans hpushed
      exact hearlier.append (List.Sublist.refl [snapshot])

theorem Follows.of_bufferStep (h : Follows buffer run connection) {step : ViewStep}
    (hreceiver : (run.view.step step).receiver = run.view.receiver)
    (hmailbox : (run.view.step step).mailbox.snapshot = run.view.mailbox.snapshot)
    (hpushes : pushesOf (run.view.bufferStep step).toList = [])
    (hbuffer : (run.view.step step).buffer =
      (run.view.bufferStep step).toList.foldl DungeonSnapshotBuffer.step run.view.buffer) :
    Follows buffer (run.step step) connection := by
  refine ⟨hreceiver.trans h.receiver, ?_, ?_⟩
  · show (run.view.step step).buffer = (run.bufferSteps ++ _).foldl _ _
    rw [hbuffer, List.foldl_append, h.buffer]
  · show List.Sublist (pushesOf (run.bufferSteps ++ _) ++ (run.view.step step).mailbox.snapshot.toList) _
    rw [pushesOf_append, hpushes, List.append_nil, hmailbox]
    exact h.pushed

/-- The deferred call pushes what waits in the mailbox. -/
theorem Follows.apply (h : Follows buffer run connection) :
    Follows buffer (run.step .applyPendingUdpData) connection := by
  have hpushed := h.pushed
  have hbuffer := h.buffer
  refine ⟨h.receiver, ?_, ?_⟩
  · show Option.elim (run.view.mailbox.snapshot.map _) _ _ =
      (run.bufferSteps ++ (run.view.mailbox.snapshot.map _).toList).foldl _ _
    cases run.view.mailbox.snapshot with
    | none => simpa using hbuffer
    | some snapshot =>
      rw [Option.map_some, Option.toList_some, List.foldl_concat, ← hbuffer]
      rfl
  · show List.Sublist (pushesOf (run.bufferSteps ++ (run.view.mailbox.snapshot.map _).toList) ++ []) _
    rw [List.append_nil, pushesOf_append]
    cases hmailbox : run.view.mailbox.snapshot with
    | none =>
      rw [hmailbox] at hpushed
      exact hpushed
    | some snapshot =>
      rw [hmailbox] at hpushed
      exact hpushed

theorem follows_after (dungeonId : DungeonId) (buffer : DungeonSnapshotBuffer) {steps : List ViewStep}
    {deliveries : List Delivery} (hdelivered : receivedOf steps = deliveries.map (·.received)) :
    Follows buffer (ViewRun.after dungeonId buffer steps) (Connection.after dungeonId deliveries) := by
  induction steps using List.reverseRecOn generalizing deliveries with
  | nil =>
    obtain rfl := List.map_eq_nil_iff.mp hdelivered.symm
    exact ⟨rfl, rfl, List.Sublist.refl _⟩
  | append_singleton steps step ih =>
    have hrun : ViewRun.after dungeonId buffer (steps ++ [step]) =
        (ViewRun.after dungeonId buffer steps).step step := List.foldl_concat ..
    unfold receivedOf at hdelivered
    rw [List.flatMap_append] at hdelivered
    rw [hrun]
    cases step with
    | receive received =>
      obtain ⟨earlier, last, rfl, hearlier, hlast⟩ := List.map_eq_append_iff.mp hdelivered.symm
      obtain ⟨delivery, rest, rfl, hreceived, hrest⟩ := List.map_eq_cons_iff.mp hlast
      obtain rfl := List.map_eq_nil_iff.mp hrest
      obtain rfl := hreceived
      rw [Connection.after_concat]
      exact (ih hearlier.symm).receive delivery
    | publishError error =>
      exact (ih ((List.append_nil _).symm.trans hdelivered)).of_bufferStep rfl rfl rfl rfl
    | applyPendingUdpData => exact (ih ((List.append_nil _).symm.trans hdelivered)).apply
    | process deltaSeconds =>
      exact (ih ((List.append_nil _).symm.trans hdelivered)).of_bufferStep rfl rfl rfl rfl
    | clearStaticData =>
      exact (ih ((List.append_nil _).symm.trans hdelivered)).of_bufferStep rfl rfl rfl rfl

/-! ## The order of the ticks -/

/-- What the buffer interpolates over: two snapshots of its pushes, their distance that of their ticks. -/
structure Interpolates (pushed : List TickedSnapshot) (buffer : DungeonSnapshotBuffer)
    (previous current : DungeonSnapshotData) : Prop where
  held : buffer.previous = some previous ∧ buffer.current = some current
  ticks : ∃ a b : TickedSnapshot, List.Sublist [a, b] pushed ∧ a.snapshot = previous ∧
    b.snapshot = current ∧ a.tick.toNat < b.tick.toNat ∧
    (DungeonSnapshotBuffer.tickDistance previous current).toNat = b.tick.toNat - a.tick.toNat ∧
    buffer.interpolationDuration =
      min (((b.tick.toNat - a.tick.toNat : Nat) : Rat) / buffer.ticksPerSecond)
        DungeonSnapshotBuffer.maxInterpolationSeconds

theorem interpolationDuration_of {buffer : DungeonSnapshotBuffer} {previous current : DungeonSnapshotData}
    (hprevious : buffer.previous = some previous) (hcurrent : buffer.current = some current) {distance : Nat}
    (hdistance : (DungeonSnapshotBuffer.tickDistance previous current).toNat = distance)
    (hpos : 0 < distance) (hlt : distance < 2 ^ 31) :
    buffer.interpolationDuration =
      min ((distance : Rat) / buffer.ticksPerSecond) DungeonSnapshotBuffer.maxInterpolationSeconds := by
  have hhalf : (0x80000000 : UInt32).toNat = 2 ^ 31 := by decide
  have hforward : ¬ (DungeonSnapshotBuffer.tickDistance previous current = 0 ∨
      DungeonSnapshotBuffer.tickDistance previous current ≥ 0x80000000) := by
    rw [← UInt32.toNat_inj, ge_iff_le, UInt32.le_iff_toNat_le, hdistance, hhalf, UInt32.toNat_zero]
    omega
  unfold DungeonSnapshotBuffer.interpolationDuration
  rw [hprevious, hcurrent]
  dsimp only
  rw [if_neg hforward, hdistance]

/-- A tag of an accepted snapshot is that of its tick. -/
theorem tagged_accepted (dungeonId : DungeonId) {deliveries : List Delivery}
    (htagged : ∀ delivery ∈ deliveries, delivery.Tagged) :
    ∀ a ∈ (Connection.after dungeonId deliveries).accepted, a.snapshot.serverTick = a.tick.toUInt32 := by
  induction deliveries using List.reverseRecOn with
  | nil => exact List.forall_mem_nil _
  | append_singleton deliveries delivery ih =>
    obtain ⟨hearlier, hlast⟩ := List.forall_mem_append.mp htagged
    intro a ha
    rw [Connection.after_concat] at ha
    rcases List.mem_append.mp ha with ha | ha
    · exact ih hearlier a ha
    · obtain ⟨snapshot, hsnapshot, rfl⟩ := Option.map_eq_some_iff.mp (Option.mem_toList.mp ha)
      by_cases hreaches : ∃ s, Reaches delivery.received (Connection.after dungeonId deliveries).receiver s
      · obtain ⟨s, hreaches⟩ := hreaches
        rw [receive_of_reaches hreaches] at hsnapshot
        obtain ⟨-, heq⟩ := Option.ite_none_right_eq_some.mp hsnapshot
        obtain rfl := Option.some.inj heq
        exact hlast delivery (List.mem_singleton.mpr rfl) s hreaches.decoded
      · rw [(receive_of_not_reaches (not_exists.mp hreaches)).1] at hsnapshot
        cases hsnapshot

theorem interpolates_of_pushed (dungeonId : DungeonId) {deliveries : List Delivery}
    (htagged : ∀ delivery ∈ deliveries, delivery.Tagged) (hnear : AllNear deliveries)
    {pushed : List TickedSnapshot}
    (hpushed : List.Sublist pushed (Connection.after dungeonId deliveries).accepted)
    {buffer : DungeonSnapshotBuffer} (hempty : Holds [] buffer) {steps : List BufferStep}
    (hsteps : pushesOf steps = pushed.map (·.snapshot)) {earlier : List DungeonSnapshotData}
    {previous current : DungeonSnapshotData} (hrecent : recentOf steps = earlier ++ [previous, current]) :
    Interpolates pushed (steps.foldl DungeonSnapshotBuffer.step buffer) previous current := by
  have htracks := tracks_after dungeonId htagged hnear
  have hone : ∀ s ∈ pushesOf steps, s.dungeonId =
      (Connection.after dungeonId deliveries).receiver.dungeonId := by
    intro s hs
    rw [hsteps] at hs
    obtain ⟨a, ha, rfl⟩ := List.mem_map.mp hs
    exact htracks.dungeon a (hpushed.subset ha)
  have hholds := holds_steps hempty _ hone
  rw [hrecent] at hholds
  have hcurrent := hholds.current
  have hprevious := hholds.previous
  rw [List.getLast?_append_of_ne_nil _ (List.cons_ne_nil _ _)] at hcurrent
  rw [List.dropLast_append_of_ne_nil (List.cons_ne_nil _ _)] at hprevious
  have hheld : (steps.foldl DungeonSnapshotBuffer.step buffer).previous = some previous :=
    hprevious.trans List.getLast?_concat
  -- the last two pushes since the reset are two of the accepted snapshots
  obtain ⟨before, hbefore⟩ := recentOf_suffix steps
  rw [hrecent, hsteps, ← List.append_assoc] at hbefore
  obtain ⟨front, lasts, hsplit, -, hlasts⟩ := List.map_eq_append_iff.mp hbefore.symm
  obtain ⟨a, rest, rfl, rfl, hrest⟩ := List.map_eq_cons_iff.mp hlasts
  obtain ⟨b, last, rfl, rfl, hlast⟩ := List.map_eq_cons_iff.mp hrest
  obtain rfl := List.map_eq_nil_iff.mp hlast
  have hpair : List.Sublist [a, b] pushed := hsplit ▸ List.sublist_append_right _ _
  have hincreasing := htracks.increasing.sublist (hpair.trans hpushed)
  have hlt : a.tick.toNat < b.tick.toNat :=
    List.rel_of_pairwise_cons hincreasing (List.mem_singleton.mpr rfl)
  have hmem : ∀ c ∈ [a, b], c ∈ (Connection.after dungeonId deliveries).accepted :=
    fun c hc => (hpair.trans hpushed).subset hc
  have ha := hmem a List.mem_cons_self
  have hb := hmem b (List.mem_cons_of_mem _ (List.mem_singleton.mpr rfl))
  have hnearTicks : Near a.tick b.tick := by
    obtain ⟨d, hd, htick, hsnapshot⟩ := mem_of_accepted dungeonId deliveries a ha
    obtain ⟨d', hd', htick', hsnapshot'⟩ := mem_of_accepted dungeonId deliveries b hb
    rw [← htick, ← htick']
    exact hnear d hd d' hd' hsnapshot hsnapshot'
  have hdistance : (DungeonSnapshotBuffer.tickDistance a.snapshot b.snapshot).toNat =
      b.tick.toNat - a.tick.toNat := by
    unfold DungeonSnapshotBuffer.tickDistance
    rw [tagged_accepted dungeonId htagged a ha, tagged_accepted dungeonId htagged b hb]
    exact distance_of_lt hnearTicks hlt
  refine ⟨⟨hheld, hcurrent⟩, a, b, hpair, rfl, rfl, hlt, hdistance, ?_⟩
  have hfar := hnearTicks.2
  exact interpolationDuration_of hheld hcurrent hdistance (by omega) (by omega)

/-- Accepted ticks increase, the tracker accepts what is newer than all before, the buffer interpolates
over the true distance of two accepted snapshots, and the mailbox only thins the snapshots out. -/
theorem snapshots_ordered (dungeonId : DungeonId) {deliveries : List Delivery}
    (htagged : ∀ delivery ∈ deliveries, delivery.Tagged) (hnear : AllNear deliveries) :
    (Connection.after dungeonId deliveries).accepted.Pairwise (fun a b => a.tick.toNat < b.tick.toNat) ∧
    (∀ earlier delivery later snapshot, deliveries = earlier ++ delivery :: later →
      Reaches delivery.received (Connection.after dungeonId earlier).receiver snapshot →
      ((∀ a ∈ (Connection.after dungeonId earlier).accepted, a.tick.toNat < delivery.tick.toNat) ↔
        ((Connection.after dungeonId earlier).receiver.snapshotTickTracker.tryAccept
          snapshot.serverTick).1 = true) ∧
      ((∀ a ∈ (Connection.after dungeonId earlier).accepted, a.tick.toNat < delivery.tick.toNat) →
        (Connection.after dungeonId (earlier ++ [delivery])).accepted =
          (Connection.after dungeonId earlier).accepted ++ [⟨delivery.tick, snapshot⟩])) ∧
    (∀ pushed, List.Sublist pushed (Connection.after dungeonId deliveries).accepted →
      ∀ buffer steps, Holds [] buffer → pushesOf steps = pushed.map (·.snapshot) →
      ∀ earlier previous current, recentOf steps = earlier ++ [previous, current] →
        Interpolates pushed (steps.foldl DungeonSnapshotBuffer.step buffer) previous current) ∧
    ∀ buffer steps, receivedOf steps = deliveries.map (·.received) →
      Follows buffer (ViewRun.after dungeonId buffer steps) (Connection.after dungeonId deliveries) := by
  refine ⟨(tracks_after dungeonId htagged hnear).increasing, ?_, ?_, ?_⟩
  · intro earlier delivery later snapshot hsplit hreaches
    subst hsplit
    obtain ⟨htaggedEarlier, htaggedLater⟩ := List.forall_mem_append.mp htagged
    have hearlier : earlier ⊆ earlier ++ delivery :: later := List.subset_append_left _ _
    have hmem : delivery ∈ earlier ++ delivery :: later := List.mem_append_right _ List.mem_cons_self
    have htracks := tracks_after dungeonId htaggedEarlier (hnear.of_subset hearlier)
    have hsome : delivery.received.snapshot.isSome := by
      rw [hreaches.decoded]
      rfl
    have hnearEarlier : ∀ a ∈ (Connection.after dungeonId earlier).accepted, Near a.tick delivery.tick := by
      intro a ha
      obtain ⟨d, hd, htick, hsnapshot⟩ := mem_of_accepted dungeonId earlier a ha
      rw [← htick]
      exact hnear d (hearlier hd) delivery hmem hsnapshot hsome
    have haccept := htracks.tryAccept (htagged delivery hmem) hnearEarlier hreaches
    refine ⟨?_, ?_⟩
    · rw [haccept]
      split
      · rename_i hnewer
        exact iff_of_true hnewer rfl
      · rename_i hnewer
        exact iff_of_false hnewer Bool.false_ne_true
    · intro hnewer
      rw [if_pos hnewer] at haccept
      rw [Connection.after_concat]
      unfold Connection.deliver
      rw [receive_of_reaches hreaches, haccept]
      rfl
  · intro pushed hpushed buffer steps hempty hsteps earlier previous current hrecent
    exact interpolates_of_pushed dungeonId htagged hnear hpushed hempty hsteps hrecent
  · intro buffer steps hdelivered
    exact follows_after dungeonId buffer hdelivered

/-- Three snapshots around the wrap of the tag, the second of them overtaken. -/
theorem snapshots_ordered_wrap : ∃ deliveries : List Delivery,
    (Connection.after 7 deliveries).accepted.map (·.tick) = [4294967295, 4294967298] ∧
    (Connection.after 7 deliveries).accepted.Pairwise (fun a b => a.tick.toNat < b.tick.toNat) ∧
    ∃ buffer steps previous current, Interpolates (Connection.after 7 deliveries).accepted
      (List.foldl DungeonSnapshotBuffer.step buffer steps) previous current ∧
      (DungeonSnapshotBuffer.tickDistance previous current).toNat = 3 := by
  let snapshot (tick : UInt64) : DungeonSnapshotData := ⟨7, tick.toUInt32, .running, [], []⟩
  let delivery (tick : UInt64) : Delivery := ⟨tick, ⟨100, none, some (snapshot tick)⟩⟩
  let deliveries : List Delivery :=
    [⟨0, ⟨20, some ⟨7, .success, 0⟩, none⟩⟩, delivery 4294967295, delivery 4294967298,
      delivery 4294967297]
  have htagged : ∀ d ∈ deliveries, d.Tagged := by
    simp [deliveries, delivery, snapshot, Delivery.Tagged]
  have hnear : AllNear deliveries := by
    unfold AllNear Near
    decide
  have hordered := snapshots_ordered 7 htagged hnear
  let steps := [BufferStep.push (snapshot 4294967295), .advance (1 / 60), .push (snapshot 4294967298)]
  refine ⟨deliveries, by decide, hordered.1, ⟨30, by decide +kernel, none, none, 0⟩, steps, snapshot 4294967295,
    snapshot 4294967298, ?_, by decide⟩
  exact hordered.2.2.1 _ (List.Sublist.refl _) _ steps ⟨rfl, rfl⟩ (by decide) [] _ _ (by decide)

end DnfServer.Snapshots
