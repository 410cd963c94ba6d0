import Mathlib.Data.List.Basic

/-!
# Dictionaries that a checking loop builds

A validator goes through the entries of a list, refuses the list at the first entry that fails a
check or whose key has come before, and keeps what it has seen for the checks that follow. The
dictionary is the list of the entries added so far; a lookup finds an entry by its key.
-/

namespace DnfServer.Library

variable {α β γ : Type} [DecidableEq β]

/-- The loop, from the entries that are added already. -/
def addEach (key : α → β) (accept : α → Bool) : List α → List α → Option (List α)
  | added, [] => some added
  | added, entry :: entries =>
    if accept entry && !added.any (key · = key entry) then addEach key accept (entry :: added) entries
    else none

/-- An entry whose key has come before is refused when the loop reaches it, if not earlier. -/
theorem addEach_eq_none {key : α → β} {accept : α → Bool} {entries added : List α}
    {entry earlier : α} (he : entry ∈ entries) (ha : earlier ∈ added)
    (heq : key earlier = key entry) : addEach key accept added entries = none := by
  induction entries generalizing added with
  | nil => cases he
  | cons other entries ih =>
    rw [addEach]
    split
    · rename_i hother
      rcases List.mem_cons.mp he with rfl | he
      · simp only [Bool.and_eq_true, Bool.not_eq_true', List.any_eq_false, decide_eq_true_eq]
          at hother
        exact absurd heq (hother.2 earlier ha)
      · exact ih he (List.mem_cons_of_mem _ ha)
    · rfl

/-- The loop comes to its end when every entry is accepted and no key comes twice. -/
theorem addEach_eq_some_iff {key : α → β} {accept : α → Bool} {entries added result : List α}
    (hnew : ∀ entry ∈ entries, ∀ other ∈ added, key other ≠ key entry) :
    addEach key accept added entries = some result ↔
      (∀ entry ∈ entries, accept entry = true) ∧ (entries.map key).Nodup ∧
        result = entries.reverse ++ added := by
  induction entries generalizing added with
  | nil => simpa [addEach] using eq_comm
  | cons entry entries ih =>
    have hfresh : added.any (key · = key entry) = false := by
      simpa using hnew entry List.mem_cons_self
    simp only [addEach, hfresh, Bool.not_false, Bool.and_true, List.forall_mem_cons, List.map_cons,
      List.nodup_cons, List.reverse_cons, List.append_assoc, List.singleton_append]
    by_cases haccept : accept entry = true
    · by_cases hkey : key entry ∈ entries.map key
      · obtain ⟨other, ho, heq⟩ := List.mem_map.mp hkey
        have hnone : addEach key accept (entry :: added) entries = none :=
          addEach_eq_none ho List.mem_cons_self heq.symm
        simp [haccept, hnone, hkey]
      · rw [if_pos haccept, ih]
        · simp [haccept, hkey]
        · intro other ho earlier he
          rcases List.mem_cons.mp he with rfl | he
          · exact fun heq => hkey (heq ▸ List.mem_map_of_mem ho)
          · exact hnew other (List.mem_cons_of_mem _ ho) earlier he
    · simp [haccept]

theorem addEach_nil_eq_some_iff {key : α → β} {accept : α → Bool} {entries result : List α} :
    addEach key accept [] entries = some result ↔
      (∀ entry ∈ entries, accept entry = true) ∧ (entries.map key).Nodup ∧
        result = entries.reverse := by
  rw [addEach_eq_some_iff (by simp), List.append_nil]

/-- A loop over translated entries ends as the loop over the entries does. -/
theorem addEach_map {key : α → β} {accept : α → Bool} {key' : γ → β} {accept' : γ → Bool}
    {f : α → γ} {entries : List α} (hkey : ∀ entry, key' (f entry) = key entry)
    (haccept : ∀ entry ∈ entries, accept' (f entry) = accept entry) (added : List α) :
    addEach key' accept' (added.map f) (entries.map f) =
      (addEach key accept added entries).map (List.map f) := by
  induction entries generalizing added with
  | nil => rfl
  | cons entry entries ih =>
    have hany : (added.map f).any (key' · = key' (f entry)) = added.any (key · = key entry) := by
      simp only [List.any_map, Function.comp_def, hkey]
    rw [List.map_cons, addEach, addEach, haccept entry List.mem_cons_self, hany]
    split
    · exact ih (fun other ho => haccept other (List.mem_cons_of_mem _ ho)) (entry :: added)
    · rfl

/-- In a dictionary whose keys are distinct the order of the entries does not matter. -/
theorem find?_reverse_of_nodup {key : α → β} {entries : List α} (h : (entries.map key).Nodup)
    (wanted : β) : entries.reverse.find? (key · = wanted) = entries.find? (key · = wanted) := by
  induction entries with
  | nil => rfl
  | cons entry entries ih =>
    obtain ⟨hhead, htail⟩ := List.nodup_cons.mp h
    rw [List.reverse_cons, List.find?_append, ih htail, List.find?_cons, List.find?_cons]
    by_cases heq : key entry = wanted
    · have hnone : entries.find? (key · = wanted) = none := by
        simp only [List.find?_eq_none, decide_eq_true_eq]
        intro other ho ho'
        exact hhead (heq.trans ho'.symm ▸ List.mem_map_of_mem ho)
      simp [heq, hnone]
    · simp [heq]

end DnfServer.Library
