import DnfServer.Library.Runs
import DnfServer.Model.WriteQueue
import Mathlib.Algebra.GroupWithZero.Nat

/-!
# The write queue stays within its limits

For both kinds of session and any order of writes, completions and closings. The limits are tested by a
subtraction that cannot wrap, so that a message is refused exactly if it would exceed one of them. What is
written is a prefix of what was queued, and an open session has one write outstanding while its queue is
not empty.
-/

namespace DnfServer.Tcp

open DnfServer.Library WriteSide
set_option autoImplicit false

variable {α : Type} (size : α → UInt64)

/-- The sizes of the messages together. -/
def total (messages : List α) : Nat := (messages.map fun message => (size message).toNat).sum

structure WithinLimits (side : WriteSide α) : Prop where
  sum : side.pendingWriteBytes.toNat = total size side.writeQueue
  bytes : side.pendingWriteBytes ≤ side.options.maxPendingWriteBytes
  messages : side.writeQueue.length ≤ side.options.maxPendingWriteMessages.toNat
  order : side.accepted = side.written ++ side.writeQueue
  started : side.started = side.written ++ side.writeQueue.head?.toList
  outstanding : side.writes = [] ∨ side.writes = side.writeQueue.head?.toList
  flight : side.closed = false → side.writes = side.writeQueue.head?.toList

section

variable {size} {kind : SessionKind} {side : WriteSide α} {data : α}

theorem total_concat (messages : List α) (data : α) :
    total size (messages ++ [data]) = total size messages + (size data).toNat := by
  simp [total]

theorem bounded_new (options : WriteLimits) : WithinLimits size ({ options } : WriteSide α) :=
  ⟨rfl, UInt64.zero_le, Nat.zero_le _, rfl, rfl, .inl rfl, fun _ => rfl⟩

/-- The two limits as numbers. -/
def Exceeds (size : α → UInt64) (side : WriteSide α) (data : α) : Prop :=
  side.writeQueue.length + 1 > side.options.maxPendingWriteMessages.toNat ∨
    total size side.writeQueue + (size data).toNat > side.options.maxPendingWriteBytes.toNat

theorem WithinLimits.length_toNat (h : WithinLimits size side) :
    (UInt64.ofNat side.writeQueue.length).toNat = side.writeQueue.length :=
  UInt64.toNat_ofNat_of_lt' (Nat.lt_of_le_of_lt h.messages (UInt64.toNat_lt _))

theorem WithinLimits.exceeds_iff (h : WithinLimits size side) (data : α) :
    (UInt64.ofNat side.writeQueue.length ≥ side.options.maxPendingWriteMessages ∨
      size data > side.options.maxPendingWriteBytes ∨
      side.pendingWriteBytes > side.options.maxPendingWriteBytes - size data) ↔
    Exceeds size side data := by
  have hlength := h.length_toNat
  unfold Exceeds
  rw [ge_iff_le, gt_iff_lt, gt_iff_lt, UInt64.le_iff_toNat_le, hlength, UInt64.lt_iff_toNat_lt,
    UInt64.lt_iff_toNat_lt, ← h.sum]
  by_cases hfits : size data ≤ side.options.maxPendingWriteBytes
  · have hsub := UInt64.toNat_sub_of_le _ _ hfits
    have hle := UInt64.le_iff_toNat_le.mp hfits
    rw [hsub]
    omega
  · have hlt := UInt64.lt_iff_toNat_lt.mp (UInt64.not_le.mp hfits)
    omega

theorem close_same (kind : SessionKind) (side : WriteSide α) :
    (side.close kind).closed = true ∧ (side.close kind).options = side.options ∧
      (side.close kind).writeQueue = side.writeQueue ∧
      (side.close kind).pendingWriteBytes = side.pendingWriteBytes ∧
      (side.close kind).writes = side.writes ∧ (side.close kind).accepted = side.accepted ∧
      (side.close kind).started = side.started ∧ (side.close kind).written = side.written := by
  unfold WriteSide.close
  split
  · rename_i hclosed
    exact ⟨hclosed, rfl, rfl, rfl, rfl, rfl, rfl, rfl⟩
  · cases kind with
    | tcp => exact ⟨rfl, rfl, rfl, rfl, rfl, rfl, rfl, rfl⟩
    | authTls => exact ⟨rfl, rfl, rfl, rfl, rfl, rfl, rfl, rfl⟩

/-- What the invariant says of a session whether it is open or not. -/
theorem WithinLimits.close (h : WithinLimits size side) {side' : WriteSide α}
    (hside : side' = side ∨ side' = { side with writes := [] }) : WithinLimits size (side'.close kind) := by
  obtain ⟨hclosed, hoptions, hqueue, hbytes, hwrites, haccepted, hstarted, hwritten⟩ :=
    close_same kind side'
  have hflight : side'.writes = [] ∨ side'.writes = side'.writeQueue.head?.toList := by
    rcases hside with rfl | rfl
    · exact h.outstanding
    · exact .inl rfl
  have hsame : side'.options = side.options ∧ side'.writeQueue = side.writeQueue ∧
      side'.pendingWriteBytes = side.pendingWriteBytes ∧ side'.accepted = side.accepted ∧
      side'.started = side.started ∧ side'.written = side.written := by
    rcases hside with rfl | rfl
    · exact ⟨rfl, rfl, rfl, rfl, rfl, rfl⟩
    · exact ⟨rfl, rfl, rfl, rfl, rfl, rfl⟩
  obtain ⟨hoptions', hqueue', hbytes', haccepted', hstarted', hwritten'⟩ := hsame
  constructor
  · rw [hbytes, hqueue, hbytes', hqueue']
    exact h.sum
  · rw [hbytes, hoptions, hbytes', hoptions']
    exact h.bytes
  · rw [hqueue, hoptions, hqueue', hoptions']
    exact h.messages
  · rw [haccepted, hwritten, hqueue, haccepted', hwritten', hqueue']
    exact h.order
  · rw [hstarted, hwritten, hqueue, hstarted', hwritten', hqueue']
    exact h.started
  · rw [hwrites, hqueue]
    exact hflight
  · intro hopen
    rw [hclosed] at hopen
    cases hopen

/-! ## Queueing -/

theorem WithinLimits.refused (h : WithinLimits size side) (hexceeds : Exceeds size side data) :
    side.queueWrite size kind data = (false, side.close kind) :=
  if_pos ((h.exceeds_iff data).mpr hexceeds)

/-- The two operations on the counter as numbers. -/
structure Unwrapped (size : α → UInt64) (side : WriteSide α) (data : α) : Prop where
  subtraction : (side.options.maxPendingWriteBytes - size data).toNat =
    side.options.maxPendingWriteBytes.toNat - (size data).toNat
  limit : (size data).toNat ≤ side.options.maxPendingWriteBytes.toNat
  addition : (side.pendingWriteBytes + size data).toNat =
    side.pendingWriteBytes.toNat + (size data).toNat

theorem WithinLimits.unwrapped (h : WithinLimits size side) (hfits : ¬ Exceeds size side data) :
    Unwrapped size side data := by
  obtain ⟨-, hbytes⟩ := not_or.mp hfits
  have hsum := h.sum
  have hlt := UInt64.toNat_lt side.options.maxPendingWriteBytes
  have hlimit : (size data).toNat ≤ side.options.maxPendingWriteBytes.toNat := by omega
  refine ⟨UInt64.toNat_sub_of_le _ _ (UInt64.le_iff_toNat_le.mpr hlimit), hlimit, ?_⟩
  rw [UInt64.toNat_add]
  exact Nat.mod_eq_of_lt (by omega)

theorem WithinLimits.queued (h : WithinLimits size side) (hfits : ¬ Exceeds size side data) :
    (side.queueWrite size kind data).1 = true ∧ WithinLimits size (side.queueWrite size kind data).2 := by
  have hsum := h.sum
  have hunwrapped := h.unwrapped hfits
  have hreachable := mt (h.exceeds_iff data).mp hfits
  obtain ⟨hmessages, hbytes⟩ := not_or.mp hfits
  have hcounted : (side.pendingWriteBytes + size data).toNat =
      total size (side.writeQueue ++ [data]) := by
    rw [hunwrapped.addition, total_concat, hsum]
  have hlimit : side.pendingWriteBytes + size data ≤ side.options.maxPendingWriteBytes := by
    rw [UInt64.le_iff_toNat_le, hunwrapped.addition]
    omega
  have hlength : (side.writeQueue ++ [data]).length ≤ side.options.maxPendingWriteMessages.toNat := by
    rw [List.length_append, List.length_singleton]
    omega
  have horder : side.accepted ++ [data] = side.written ++ (side.writeQueue ++ [data]) := by
    rw [h.order, List.append_assoc]
  unfold WriteSide.queueWrite
  rw [if_neg hreachable]
  refine ⟨rfl, ?_⟩
  cases hqueue : side.writeQueue with
  | nil =>
    have hstarted := h.started
    have hwrites : side.writes = [] := by
      have houtstanding := h.outstanding
      rw [hqueue] at houtstanding
      exact houtstanding.elim id id
    rw [hqueue] at hcounted hlength horder hstarted
    rw [List.head?_nil, Option.toList_none, List.append_nil] at hstarted
    have hstart : side.started ++ [data] = side.written ++ [data] := by rw [hstarted]
    have hwrite : side.writes ++ [data] = [data] := by rw [hwrites, List.nil_append]
    exact ⟨hcounted, hlimit, hlength, horder, hstart, .inr hwrite, fun _ => hwrite⟩
  | cons front rest =>
    have hstarted := h.started
    have houtstanding := h.outstanding
    have hflight := h.flight
    rw [hqueue] at hcounted hlength horder hstarted houtstanding hflight
    exact ⟨hcounted, hlimit, hlength, horder, hstarted, houtstanding, hflight⟩

/-! ## Completions -/

/-- What a completion takes from the counter is there. -/
theorem WithinLimits.front (h : WithinLimits size side) {front : α} {rest : List α}
    (hqueue : side.writeQueue = front :: rest) :
    (size front).toNat ≤ side.pendingWriteBytes.toNat ∧
      (side.pendingWriteBytes - size front).toNat = total size rest := by
  have hsum := h.sum
  have htotal : total size (front :: rest) = (size front).toNat + total size rest := List.sum_cons
  rw [hqueue, htotal] at hsum
  have hle : (size front).toNat ≤ side.pendingWriteBytes.toNat := by omega
  refine ⟨hle, ?_⟩
  rw [UInt64.toNat_sub_of_le _ _ (UInt64.le_iff_toNat_le.mpr hle), hsum]
  omega

theorem WithinLimits.completed (h : WithinLimits size side) (hwrites : side.writes ≠ []) (error : Bool) :
    WithinLimits size (side.completeWrite size kind error) := by
  have hflight : side.writes = side.writeQueue.head?.toList := h.outstanding.resolve_left hwrites
  have htail : side.writes.tail = [] := by
    rw [hflight]
    cases side.writeQueue with
    | nil => rfl
    | cons front rest => rfl
  unfold WriteSide.completeWrite
  rw [htail]
  dsimp only
  split
  · exact h.close (.inr rfl)
  cases hqueue : side.writeQueue with
  | nil =>
    rw [hqueue] at hflight
    exact absurd hflight hwrites
  | cons front rest =>
    obtain ⟨hle, hrest⟩ := h.front hqueue
    have hbytes : side.pendingWriteBytes - size front ≤ side.options.maxPendingWriteBytes := by
      have hlimit := UInt64.le_iff_toNat_le.mp h.bytes
      rw [UInt64.le_iff_toNat_le, UInt64.toNat_sub_of_le _ _ (UInt64.le_iff_toNat_le.mpr hle)]
      omega
    have hmessages := h.messages
    have horder := h.order
    have hstarted := h.started
    rw [hqueue] at hmessages horder hstarted
    have hlength : rest.length ≤ side.options.maxPendingWriteMessages.toNat :=
      Nat.le_trans (Nat.le_succ _) hmessages
    have hwritten : side.accepted = side.written ++ [front] ++ rest := by
      rw [horder, List.append_assoc]
      rfl
    cases rest with
    | nil =>
      have hall : side.started = side.written ++ [front] ++ [] := by
        rw [hstarted, List.append_nil]
        rfl
      exact ⟨hrest, hbytes, hlength, hwritten, hall, .inl rfl, fun _ => rfl⟩
    | cons next rest =>
      have hall : side.started ++ [next] = side.written ++ [front] ++ [next] := by
        rw [hstarted]
        rfl
      exact ⟨hrest, hbytes, hlength, hwritten, hall, .inr rfl, fun _ => rfl⟩

/-! ## Any order of events -/

theorem WithinLimits.next (h : WithinLimits size side) {event : Event α} {side' : WriteSide α}
    (hnext : side.next size kind event = some side') : WithinLimits size side' := by
  cases event with
  | queueWrite data =>
    obtain rfl := Option.some.inj hnext
    by_cases hexceeds : Exceeds size side data
    · rw [h.refused hexceeds]
      exact h.close (.inl rfl)
    · exact (h.queued hexceeds).2
  | completeWrite error =>
    simp only [WriteSide.next] at hnext
    split at hnext
    · cases hnext
    · rename_i hwrites
      obtain rfl := Option.some.inj hnext
      exact h.completed hwrites error
  | close =>
    obtain rfl := Option.some.inj hnext
    exact h.close (.inl rfl)

theorem WithinLimits.started_prefix (h : WithinLimits size side) : side.started <+: side.accepted := by
  rw [h.started, h.order, List.prefix_append_right_inj]
  cases side.writeQueue with
  | nil => exact List.nil_prefix
  | cons front rest => exact List.cons_prefix_cons.mpr ⟨rfl, List.nil_prefix⟩

/-- In every reachable state the queue is within its limits, the write outstanding is that of the front,
a message is refused exactly if it would exceed a limit, and no operation on a size wraps. -/
theorem bounded_of_run (kind : SessionKind) {options : WriteLimits} {events : List (Event α)}
    (hrun : run (WriteSide.next size kind) ({ options } : WriteSide α) events = some side) :
    WithinLimits size side ∧ side.started <+: side.accepted ∧
    (UInt64.ofNat side.writeQueue.length).toNat = side.writeQueue.length ∧
    (∀ data, ((side.queueWrite size kind data).1 = false ↔ Exceeds size side data) ∧
      ((side.queueWrite size kind data).1 = false → (side.queueWrite size kind data).2.closed = true) ∧
      ((side.queueWrite size kind data).1 = true → Unwrapped size side data)) ∧
    ∀ front rest, side.writeQueue = front :: rest →
      (size front).toNat ≤ side.pendingWriteBytes.toNat ∧
        (side.pendingWriteBytes - size front).toNat = total size rest := by
  have hbounded : WithinLimits size side := reachable_invariant (WithinLimits size)
    (fun _ _ _ h hnext => h.next hnext) (bounded_new options) ⟨events, hrun⟩
  refine ⟨hbounded, hbounded.started_prefix, hbounded.length_toNat, ?_, fun front rest hqueue => hbounded.front hqueue⟩
  intro data
  by_cases hexceeds : Exceeds size side data
  · rw [hbounded.refused hexceeds]
    exact ⟨iff_of_true rfl hexceeds, fun _ => (close_same kind side).1, fun htrue => absurd htrue (by simp)⟩
  · have haccepted : (side.queueWrite size kind data).1 = true := (hbounded.queued hexceeds).1
    rw [haccepted]
    exact ⟨iff_of_false (by simp) hexceeds, fun hfalse => absurd hfalse (by simp),
      fun _ => hbounded.unwrapped hexceeds⟩

theorem bounded_of_run_refused : ∃ side : WriteSide UInt64,
    run (WriteSide.next id .authTls) { options := { maxPendingWriteMessages := 2, maxPendingWriteBytes := 10 } }
      [.queueWrite 4, .queueWrite 6, .completeWrite false, .queueWrite 5] = some side ∧
      side.closed = true ∧ WithinLimits id side ∧ Exceeds id side 5 := by
  have hbounded := bounded_of_run .authTls (show run (WriteSide.next id .authTls)
    { options := { maxPendingWriteMessages := 2, maxPendingWriteBytes := 10 } }
    [.queueWrite 4, .queueWrite 6, .completeWrite false, .queueWrite 5] = some _ from rfl)
  exact ⟨_, rfl, by decide, hbounded.1, (hbounded.2.2.2.1 5).1.mp (by decide)⟩

end

/-! ## The session of the game server -/

def byteCount (data : List UInt8) : UInt64 := UInt64.ofNat data.length

/-- The part of a `TcpSession` that writes, with the counter as a number. -/
structure Represents (side : WriteSide (List UInt8)) (session : TcpSession) : Prop where
  messages : side.options.maxPendingWriteMessages.toNat = session.options.maxPendingWriteMessages
  bytes : side.options.maxPendingWriteBytes.toNat = session.options.maxPendingWriteBytes
  queue : side.writeQueue = session.writeQueue
  pending : side.pendingWriteBytes.toNat = session.pendingWriteBytes
  closed : side.closed = session.closed
  writes : side.writes.length = session.writes
  written : side.written = session.written

section

variable {side : WriteSide (List UInt8)} {session : TcpSession} {data : List UInt8}

theorem toNat_byteCount (h : data.length < 2 ^ 64) : (byteCount data).toNat = data.length :=
  UInt64.toNat_ofNat_of_lt' h

theorem Represents.close (h : Represents side session) :
    Represents (side.close .tcp) session.closeOnStrand := by
  unfold WriteSide.close TcpSession.closeOnStrand
  by_cases hclosed : session.closed = true
  · rw [if_pos (h.closed.trans hclosed), if_pos hclosed]
    exact h
  · rw [if_neg (h.closed ▸ hclosed), if_neg hclosed]
    exact ⟨h.messages, h.bytes, h.queue, h.pending, rfl, h.writes, h.written⟩

theorem Represents.startWrite (h : Represents side session) (hqueue : side.writeQueue ≠ []) :
    Represents side.startWrite session.startWrite := by
  unfold WriteSide.startWrite TcpSession.startWrite
  split
  · rename_i hnil
    exact absurd hnil hqueue
  · have hwrites := h.writes
    refine ⟨h.messages, h.bytes, h.queue, h.pending, h.closed, ?_, h.written⟩
    show (side.writes ++ [_]).length = session.writes + 1
    rw [List.length_append, List.length_singleton, hwrites]

/-- The session queues and refuses as its queue does. -/
theorem Represents.queueWrite (h : Represents side session) (hbounded : WithinLimits byteCount side)
    (hdata : data.length < 2 ^ 64) :
    (side.queueWrite byteCount .tcp data).1 = (session.queueWrite data).1 ∧
      Represents (side.queueWrite byteCount .tcp data).2 (session.queueWrite data).2 := by
  have hsize := toNat_byteCount hdata
  have hmessages := h.messages
  have hbytes := h.bytes
  have hpending := h.pending
  have hsum := hbounded.sum
  have hlimits : (session.writeQueue.length ≥ session.options.maxPendingWriteMessages ∨
      data.length > session.options.maxPendingWriteBytes ∨
      session.pendingWriteBytes > session.options.maxPendingWriteBytes - data.length) ↔
        Exceeds byteCount side data := by
    unfold Exceeds
    rw [← hsum, hsize, h.queue]
    omega
  by_cases hexceeds : Exceeds byteCount side data
  · have hrefused : session.queueWrite data = (false, session.closeOnStrand) :=
      if_pos (hlimits.mpr hexceeds)
    rw [hbounded.refused hexceeds, hrefused]
    exact ⟨rfl, h.close⟩
  · have hunwrapped := hbounded.unwrapped hexceeds
    have hqueued : Represents
        { side with
          pendingWriteBytes := side.pendingWriteBytes + byteCount data
          writeQueue := side.writeQueue ++ [data]
          accepted := side.accepted ++ [data] }
        { session with
          pendingWriteBytes := session.pendingWriteBytes + data.length
          writeQueue := session.writeQueue ++ [data] } := by
      refine ⟨hmessages, hbytes, ?_, ?_, h.closed, h.writes, h.written⟩
      · show side.writeQueue ++ [data] = session.writeQueue ++ [data]
        rw [h.queue]
      · show (side.pendingWriteBytes + byteCount data).toNat = session.pendingWriteBytes + data.length
        rw [hunwrapped.addition, hsize, hpending]
    unfold WriteSide.queueWrite TcpSession.queueWrite
    rw [if_neg (mt (hbounded.exceeds_iff data).mp hexceeds)]
    dsimp only
    rw [if_neg (mt hlimits.mp hexceeds), h.queue]
    refine ⟨rfl, ?_⟩
    rw [h.queue] at hqueued
    dsimp only
    split
    · exact hqueued.startWrite (List.append_ne_nil_of_right_ne_nil _ (List.cons_ne_nil _ _))
    · exact hqueued

theorem Represents.completeWrite (h : Represents side session) (hbounded : WithinLimits byteCount side)
    (hsizes : ∀ message ∈ side.writeQueue, message.length < 2 ^ 64) (error : Bool) :
    Represents (side.completeWrite byteCount .tcp error) (session.completeWrite error) := by
  have hwrites : side.writes.tail.length = session.writes - 1 := by
    rw [List.length_tail, h.writes]
  have hdone : Represents { side with writes := side.writes.tail }
      { session with writeDeadline := session.writeDeadline.cancel, writes := session.writes - 1 } :=
    ⟨h.messages, h.bytes, h.queue, h.pending, h.closed, hwrites, h.written⟩
  unfold WriteSide.completeWrite TcpSession.completeWrite
  dsimp only
  split
  · exact hdone.close
  cases hqueue : side.writeQueue with
  | nil =>
    rw [← h.queue, hqueue]
    exact ⟨h.messages, h.bytes, rfl, h.pending, h.closed, hwrites, h.written⟩
  | cons front rest =>
    obtain ⟨hle, -⟩ := hbounded.front hqueue
    have hsize := toNat_byteCount (hsizes front (hqueue ▸ List.mem_cons_self))
    have hrest : Represents
        { side with
          writes := side.writes.tail
          pendingWriteBytes := side.pendingWriteBytes - byteCount front
          writeQueue := rest
          written := side.written ++ [front] }
        { session with
          writeDeadline := session.writeDeadline.cancel
          writes := session.writes - 1
          pendingWriteBytes := session.pendingWriteBytes - front.length
          writeQueue := rest
          written := session.written ++ [front] } := by
      refine ⟨h.messages, h.bytes, rfl, ?_, h.closed, hwrites, ?_⟩
      · show (side.pendingWriteBytes - byteCount front).toNat = session.pendingWriteBytes - front.length
        rw [UInt64.toNat_sub_of_le _ _ (UInt64.le_iff_toNat_le.mpr hle), hsize, h.pending]
      · show side.written ++ [front] = session.written ++ [front]
        rw [h.written]
    rw [← h.queue, hqueue]
    dsimp only
    cases rest with
    | nil => exact hrest
    | cons next rest => exact hrest.startWrite (List.cons_ne_nil _ _)

end

end DnfServer.Tcp
