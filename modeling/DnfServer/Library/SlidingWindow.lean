import DnfServer.Library.Containers
import Mathlib.Data.List.Dedup
import Mathlib.Data.List.DropRight

/-!
# Sliding windows

A log lists keys with the times of their events, oldest first; the live events of a key are
those of the window `(cutoff, now]`. A program that limits them keeps, for each key, only
recent times, and drops the old ones when it happens to look at them. `Mirrors` says that such
a map, whatever it still holds of older times, has the events after `cutoff` of the log, and
the rules below say that trimming keys, noting an event and moving the cutoff on keep this.
-/

namespace DnfServer.Library

open Std

variable {κ : Type} [DecidableEq κ]

abbrev DatedLog (κ : Type) := List (κ × Int)

namespace DatedLog

/-- The times of the events of one key. -/
def times (log : DatedLog κ) (key : κ) : List Int := (log.filter (·.1 = key)).map (·.2)

/-- The events of the key in `(cutoff, now]`. -/
def live (log : DatedLog κ) (cutoff now : Int) (key : κ) : List Int :=
  (log.times key).filter fun time => cutoff < time ∧ time ≤ now

/-- The keys with an event in `(cutoff, now]`. -/
def liveKeys (log : DatedLog κ) (cutoff now : Int) : List κ :=
  ((log.filter fun event => cutoff < event.2 ∧ event.2 ≤ now).map (·.1)).dedup

/-- Every window of the length has at most `limit` events of each key. -/
def Within (window : Int) (limit : Nat) (log : DatedLog κ) : Prop :=
  ∀ (key : κ) (now : Int), (log.live (now - window) now key).length ≤ limit

/-- No event is later than `now`. -/
def UpTo (now : Int) (log : DatedLog κ) : Prop := ∀ event ∈ log, event.2 ≤ now

variable {log : DatedLog κ} {key other : κ} {cutoff now time window : Int} {limit : Nat}

theorem mem_times : time ∈ log.times key ↔ (key, time) ∈ log := by
  simp [times]

theorem times_append_self : DatedLog.times (log ++ [(key, time)]) key = log.times key ++ [time] := by
  simp [times]

theorem times_append_other (hne : other ≠ key) :
    DatedLog.times (log ++ [(key, time)]) other = log.times other := by
  simp [times, Ne.symm hne]

theorem live_eq (h : UpTo now log) :
    log.live cutoff now key = (log.times key).filter (cutoff < ·) := by
  refine List.filter_congr ?_
  intro time ht
  have := h (key, time) (mem_times.mp ht)
  simp [this]

theorem mem_liveKeys : key ∈ log.liveKeys cutoff now ↔ log.live cutoff now key ≠ [] := by
  simp only [liveKeys, live, times, List.mem_dedup, List.mem_map, List.mem_filter, ne_eq,
    List.filter_eq_nil_iff]
  grind

theorem nodup_liveKeys : (log.liveKeys cutoff now).Nodup := List.nodup_dedup _

theorem within_nil : Within window limit ([] : DatedLog κ) := by
  intro key now
  exact Nat.zero_le _

/-- An event that finds room in the window up to its own time keeps every window within the
limit: a later window that has it has nothing older than this one. -/
theorem Within.append (h : Within window limit log) (hlast : UpTo now log)
    (hroom : (log.live (now - window) now key).length < limit) :
    Within window limit (log ++ [(key, now)]) := by
  intro other until'
  by_cases hne : other = key
  · subst hne
    have hlater : (log.live (until' - window) until' other).length ≤ limit := h other until'
    simp only [live, times_append_self, List.filter_append, List.length_append] at hlater ⊢
    by_cases hin : until' - window < now ∧ now ≤ until'
    · have hsub : ((log.times other).filter fun time => until' - window < time ∧ time ≤ until').length
          ≤ (log.live (now - window) now other).length := by
        rw [live_eq hlast]
        refine List.Sublist.length_le (List.monotone_filter_right _ fun time ht => ?_)
        simp only [decide_eq_true_eq] at ht ⊢
        omega
      have hone : ([now].filter fun time => until' - window < time ∧ time ≤ until').length ≤ 1 :=
        List.length_filter_le ..
      omega
    · simpa [hin] using hlater
  · simpa only [live, times_append_other hne] using h other until'

end DatedLog

/-! ## A map of recent times -/

variable {cmp : κ → κ → Ordering} [TransCmp cmp] [LawfulEqCmp cmp]

abbrev RecentTimes (κ : Type) (cmp : κ → κ → Ordering) := ExtTreeMap κ (List Int) cmp

/-- What is left of the times of a key once those up to the cutoff are dropped from the front. -/
def trimmed (cutoff : Int) : Option (List Int) → Option (List Int)
  | none => none
  | some times =>
    if times.dropWhile (· ≤ cutoff) = [] then none else some (times.dropWhile (· ≤ cutoff))

/-- The map has the events after `cutoff` of the log, and maybe older ones. -/
structure Mirrors (log : DatedLog κ) (cutoff : Int) (m : RecentTimes κ cmp) : Prop where
  sorted : ∀ (key : κ) (times : List Int), m[key]? = some times → times.Pairwise (· ≤ ·)
  nonempty : ∀ key : κ, m[key]? ≠ some []
  noted : ∀ (key : κ) (times : List Int), m[key]? = some times → times ⊆ log.times key
  recent : ∀ key : κ, (m[key]?.getD []).filter (cutoff < ·) = (log.times key).filter (cutoff < ·)

/-- The second map is the first with some of its keys trimmed. -/
def Trims (cutoff : Int) (m m' : RecentTimes κ cmp) : Prop :=
  ∀ key : κ, m'[key]? = m[key]? ∨ m'[key]? = trimmed cutoff m[key]?

theorem dropWhile_le_eq_filter {cutoff : Int} {times : List Int} (h : times.Pairwise (· ≤ ·)) :
    times.dropWhile (· ≤ cutoff) = times.filter (cutoff < ·) := by
  induction times with
  | nil => rfl
  | cons time times ih =>
    obtain ⟨hle, h⟩ := List.pairwise_cons.mp h
    by_cases ht : time ≤ cutoff
    · rw [List.dropWhile_cons_of_pos (by simpa using ht), ih h,
        List.filter_cons_of_neg (by simpa using ht)]
    · rw [List.dropWhile_cons_of_neg (by simpa using ht)]
      refine (List.filter_eq_self.mpr ?_).symm
      intro later hl
      rcases List.mem_cons.mp hl with rfl | hl
      · simpa using ht
      · have := hle later hl
        simp only [decide_eq_true_eq]
        omega

theorem trimmed_ne_nil (cutoff : Int) (times : Option (List Int)) : trimmed cutoff times ≠ some [] := by
  cases times with
  | none => simp [trimmed]
  | some times => by_cases hnil : times.dropWhile (· ≤ cutoff) = [] <;> simp [trimmed, hnil]

theorem trimmed_trimmed (cutoff : Int) (times : Option (List Int)) :
    trimmed cutoff (trimmed cutoff times) = trimmed cutoff times := by
  cases times with
  | none => rfl
  | some times =>
    by_cases hnil : times.dropWhile (· ≤ cutoff) = []
    · simp [trimmed, hnil]
    · simp [trimmed, hnil, List.dropWhile_idempotent]

namespace Mirrors

variable {log : DatedLog κ} {cutoff cutoff' now : Int} {m m' : RecentTimes κ cmp} {key : κ}

omit [LawfulEqCmp cmp] in
theorem empty (cutoff : Int) : Mirrors [] cutoff (∅ : RecentTimes κ cmp) := by
  refine ⟨?_, ?_, ?_, ?_⟩ <;> simp [DatedLog.times]

omit [LawfulEqCmp cmp] in
theorem mono (h : Mirrors log cutoff m) (hle : cutoff ≤ cutoff') : Mirrors log cutoff' m := by
  refine ⟨h.sorted, h.nonempty, h.noted, ?_⟩
  intro key
  have hr := congrArg (List.filter (cutoff' < ·)) (h.recent key)
  simp only [List.filter_filter] at hr
  have hboth (time : Int) : (decide (cutoff' < time) && decide (cutoff < time)) =
      decide (cutoff' < time) := by
    by_cases ht : cutoff' < time
    · simp [ht, Int.lt_of_le_of_lt hle ht]
    · simp [ht]
  simpa only [hboth] using hr

omit [LawfulEqCmp cmp] in
theorem trimmed_eq (h : Mirrors log cutoff m) (key : κ) :
    (trimmed cutoff m[key]?).getD [] = (log.times key).filter (cutoff < ·) := by
  rw [← h.recent key]
  cases hm : m[key]? with
  | none => rfl
  | some times =>
    simp only [trimmed, dropWhile_le_eq_filter (h.sorted key times hm), Option.getD_some]
    split
    · rename_i hnil
      rw [hnil]
      rfl
    · rfl

omit [LawfulEqCmp cmp] in
/-- Trimming drops nothing that counts. -/
theorem trims (h : Mirrors log cutoff m) (ht : Trims cutoff m m') : Mirrors log cutoff m' := by
  have hsub (key : κ) (times : List Int) (hm : m'[key]? = some times) :
      ∃ old, m[key]? = some old ∧ times.Sublist old := by
    rcases ht key with he | he
    · exact ⟨times, he ▸ hm, List.Sublist.refl _⟩
    · rw [hm] at he
      cases hold : m[key]? with
      | none => simp [hold, trimmed] at he
      | some old =>
        simp only [hold, trimmed] at he
        split at he
        · cases he
        · exact ⟨old, rfl, Option.some.inj he ▸ List.dropWhile_sublist _⟩
  refine ⟨?_, ?_, ?_, ?_⟩
  · intro key times hm
    obtain ⟨old, hold, hs⟩ := hsub key times hm
    exact (h.sorted key old hold).sublist hs
  · intro key hm
    rcases ht key with he | he
    · exact h.nonempty key (he ▸ hm)
    · exact trimmed_ne_nil cutoff m[key]? (he ▸ hm)
  · intro key times hm
    obtain ⟨old, hold, hs⟩ := hsub key times hm
    exact fun time hin => h.noted key old hold (hs.subset hin)
  · intro key
    rcases ht key with he | he
    · rw [he, h.recent key]
    · rw [he, h.trimmed_eq key, List.filter_filter]
      simp

omit [LawfulEqCmp cmp] in
theorem noted_getD (h : Mirrors log cutoff m) (key : κ) : m[key]?.getD [] ⊆ log.times key := by
  cases hm : m[key]? with
  | none => simp
  | some times => exact h.noted key times hm

omit [LawfulEqCmp cmp] in
theorem sorted_getD (h : Mirrors log cutoff m) (key : κ) :
    (m[key]?.getD []).Pairwise (· ≤ ·) := by
  cases hm : m[key]? with
  | none => simp
  | some times => exact h.sorted key times hm

/-- An event noted at its key. -/
theorem push (h : Mirrors log cutoff m) (hlast : DatedLog.UpTo now log) (key : κ) :
    Mirrors (log ++ [(key, now)]) cutoff (m.insert key (m[key]?.getD [] ++ [now])) := by
  have hother (other : κ) (hne : key ≠ other) :
      (m.insert key (m[key]?.getD [] ++ [now]))[other]? = m[other]? := by
    have : cmp key other = .eq ↔ key = other := LawfulEqCmp.compare_eq_iff_eq
    grind
  refine ⟨?_, ?_, ?_, ?_⟩
  · intro other times hm
    by_cases hne : key = other
    · subst hne
      obtain rfl : m[key]?.getD [] ++ [now] = times := by simpa using hm
      refine List.pairwise_append.mpr ⟨h.sorted_getD key, by simp, ?_⟩
      intro time ht later hl
      obtain rfl : later = now := by simpa using hl
      exact hlast (key, time) (DatedLog.mem_times.mp (h.noted_getD key ht))
    · exact h.sorted other times (hother other hne ▸ hm)
  · intro other hm
    by_cases hne : key = other
    · subst hne
      simp at hm
    · exact h.nonempty other (hother other hne ▸ hm)
  · intro other times hm
    by_cases hne : key = other
    · subst hne
      obtain rfl : m[key]?.getD [] ++ [now] = times := by simpa using hm
      rw [DatedLog.times_append_self]
      exact List.append_subset.mpr ⟨fun time ht => List.mem_append_left _ (h.noted_getD key ht),
        List.subset_append_right ..⟩
    · rw [DatedLog.times_append_other (Ne.symm hne)]
      exact h.noted other times (hother other hne ▸ hm)
  · intro other
    by_cases hne : key = other
    · subst hne
      rw [DatedLog.times_append_self, List.filter_append, ← h.recent key]
      simp
    · rw [DatedLog.times_append_other (Ne.symm hne), ← h.recent other, hother other hne]

omit [LawfulEqCmp cmp] in
theorem mem_liveKeys (h : Mirrors log cutoff m) (hlast : DatedLog.UpTo now log) :
    key ∈ log.liveKeys cutoff now ↔ (m[key]?.getD []).filter (cutoff < ·) ≠ [] := by
  rw [DatedLog.mem_liveKeys, DatedLog.live_eq hlast, h.recent key]

theorem liveKeys_le_size (h : Mirrors log cutoff m) (hlast : DatedLog.UpTo now log) :
    (log.liveKeys cutoff now).length ≤ m.size := by
  rw [← ExtTreeMap.length_keys]
  apply List.Subperm.length_le
  apply List.subperm_of_subset DatedLog.nodup_liveKeys
  intro key hk
  have := (h.mem_liveKeys hlast).mp hk
  rw [ExtTreeMap.mem_keys]
  grind

/-- Once every key is trimmed the map has the live keys only. -/
theorem size_eq_liveKeys (h : Mirrors log cutoff m) (hlast : DatedLog.UpTo now log)
    (hall : ∀ key : κ, m[key]? = trimmed cutoff m[key]?) :
    m.size = (log.liveKeys cutoff now).length := by
  refine Nat.le_antisymm ?_ (h.liveKeys_le_size hlast)
  rw [← ExtTreeMap.length_keys]
  apply List.Subperm.length_le
  apply List.subperm_of_subset ExtTreeMap.nodup_keys
  intro key hk
  obtain ⟨times, ht⟩ := exists_of_mem (ExtTreeMap.mem_keys.mp hk)
  have htrim := h.trimmed_eq key
  rw [← hall key, ht, Option.getD_some] at htrim
  rw [DatedLog.mem_liveKeys, DatedLog.live_eq hlast, ← htrim]
  rintro rfl
  exact h.nonempty key ht

end Mirrors

end DnfServer.Library
