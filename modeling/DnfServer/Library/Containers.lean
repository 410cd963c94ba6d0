import Mathlib.Data.List.Perm.Basic

/-!
# Containers that mirror one another

Facts about the extensional tree maps of the standard library, and about lists without
duplicates, that a program with several hand-maintained indices needs: two maps that
are inverse to one another, the rewriting of one key of a map or of one element of a
list, and the comparison of sizes by keys.
-/

namespace DnfServer.Library

open Std

variable {α β : Type} {cmp : α → α → Ordering} {cmp' : β → β → Ordering}
  [TransCmp cmp] [LawfulEqCmp cmp] [TransCmp cmp'] [LawfulEqCmp cmp']

/-- The two maps are inverse to one another. -/
def Inverse (m : ExtTreeMap α β cmp) (n : ExtTreeMap β α cmp') : Prop :=
  ∀ (a : α) (b : β), m[a]? = some b ↔ n[b]? = some a

namespace Inverse

variable {m : ExtTreeMap α β cmp} {n : ExtTreeMap β α cmp'} {a a' : α} {b : β}

omit [LawfulEqCmp cmp] [LawfulEqCmp cmp'] in
theorem empty : Inverse (∅ : ExtTreeMap α β cmp) (∅ : ExtTreeMap β α cmp') := by
  intro a b
  simp

/-- A pair goes into both maps when neither holds another pair in its place. -/
theorem insert (h : Inverse m n) (ha : ∀ b', m[a]? = some b' → b' = b)
    (hb : ∀ a', n[b]? = some a' → a' = a) : Inverse (m.insert a b) (n.insert b a) := by
  intro x y
  have hxy := h x y
  have hxb := h x b
  have hay := h a y
  have hax : cmp a x = .eq ↔ a = x := LawfulEqCmp.compare_eq_iff_eq
  have hby : cmp' b y = .eq ↔ b = y := LawfulEqCmp.compare_eq_iff_eq
  grind

/-- A pair leaves both maps when neither holds another pair in its place. -/
theorem erase (h : Inverse m n) (ha : ∀ b', m[a]? = some b' → b' = b)
    (hb : ∀ a', n[b]? = some a' → a' = a) : Inverse (m.erase a) (n.erase b) := by
  intro x y
  have hxy := h x y
  have hxb := h x b
  have hay := h a y
  have hax : cmp a x = .eq ↔ a = x := LawfulEqCmp.compare_eq_iff_eq
  have hby : cmp' b y = .eq ↔ b = y := LawfulEqCmp.compare_eq_iff_eq
  grind

/-- Rewriting the key of one entry on one side is changing its value on the other. -/
theorem rename (h : Inverse m n) (hab : m[a]? = some b) (ha' : a' ∉ m) :
    Inverse ((m.erase a).insert a' b) (n.insert b a') := by
  intro x y
  have hx := h x y
  have ha := h a b
  have hy := h a y
  have hz := h x b
  have hw := h a' y
  have hax' : cmp a' x = .eq ↔ a' = x := LawfulEqCmp.compare_eq_iff_eq
  have hax : cmp a x = .eq ↔ a = x := LawfulEqCmp.compare_eq_iff_eq
  have hby : cmp' b y = .eq ↔ b = y := LawfulEqCmp.compare_eq_iff_eq
  grind

end Inverse

omit [LawfulEqCmp cmp] in
theorem exists_of_mem {m : ExtTreeMap α β cmp} {a : α} (h : a ∈ m) : ∃ b, m[a]? = some b :=
  ⟨m[a], ExtTreeMap.getElem?_eq_some_getElem h⟩

omit [LawfulEqCmp cmp] in
theorem mem_of_entry {m : ExtTreeMap α β cmp} {a : α} {b : β} (h : m[a]? = some b) : a ∈ m :=
  ExtTreeMap.isSome_getElem?_iff_mem.mp (Option.isSome_of_eq_some h)

omit [LawfulEqCmp cmp] in
theorem nodup_map_fst_toList (m : ExtTreeMap α β cmp) : (m.toList.map (·.1)).Nodup := by
  rw [ExtTreeMap.map_fst_toList_eq_keys]
  exact ExtTreeMap.nodup_keys

/-- The list of a map has at most one entry under a key. -/
theorem filter_fst_toList [DecidableEq α] (m : ExtTreeMap α β cmp) (a : α) :
    m.toList.filter (·.1 = a) = (m[a]?.map fun b => (a, b)).toList := by
  have hnodup : (m.toList.filter (·.1 = a)).Nodup :=
    ((List.pairwise_map.mp (nodup_map_fst_toList m)).imp fun hne heq =>
      hne (congrArg Prod.fst heq)).filter _
  have hmem {entry : α × β} :
      entry ∈ m.toList.filter (·.1 = a) ↔ entry.1 = a ∧ m[a]? = some entry.2 := by
    rw [List.mem_filter, ExtTreeMap.mem_toList_iff_getElem?_eq_some, decide_eq_true_eq, and_comm]
    exact and_congr_right fun h => by rw [h]
  cases hb : m[a]? with
  | none =>
    refine List.eq_nil_iff_forall_not_mem.mpr fun entry he => ?_
    have hentry := (hmem.mp he).2
    rw [hb] at hentry
    cases hentry
  | some b =>
    have hperm : (m.toList.filter (·.1 = a)).Perm [(a, b)] := by
      rw [List.perm_ext_iff_of_nodup hnodup (List.pairwise_singleton _ _)]
      intro entry
      rw [hmem, hb, List.mem_singleton]
      constructor
      · rintro ⟨hkey, hvalue⟩
        exact Prod.ext hkey (Option.some.inj hvalue).symm
      · rintro rfl
        exact ⟨rfl, rfl⟩
    exact List.perm_singleton.mp hperm

/-- A map with fewer keys is smaller. -/
theorem size_le_of_keys {m : ExtTreeMap α β cmp} {γ : Type} {n : ExtTreeMap α γ cmp}
    (h : ∀ k, k ∈ m → k ∈ n) : m.size ≤ n.size := by
  rw [← ExtTreeMap.length_keys, ← ExtTreeMap.length_keys]
  apply List.Subperm.length_le
  apply List.subperm_of_subset ExtTreeMap.nodup_keys
  intro k hk
  exact ExtTreeMap.mem_keys.mpr (h k (ExtTreeMap.mem_keys.mp hk))

/-- Writing an entry back changes nothing. -/
theorem insert_self {m : ExtTreeMap α β cmp} {a : α} {b : β}
    (h : m[a]? = some b) : m.insert a b = m := by
  ext k v
  have hk : cmp a k = .eq ↔ a = k := LawfulEqCmp.compare_eq_iff_eq
  grind

/-- A property of all entries is a property of the listed entries. -/
theorem forall_entries_iff {m : ExtTreeMap α β cmp} {P : α → β → Prop} :
    (∀ e ∈ m.toList, P e.1 e.2) ↔ ∀ (a : α) (b : β), m[a]? = some b → P a b := by
  constructor
  · intro h a b hab
    exact h (a, b) (ExtTreeMap.mem_toList_iff_getElem?_eq_some.mpr hab)
  · intro h e he
    exact h e.1 e.2 (ExtTreeMap.mem_toList_iff_getElem?_eq_some.mp he)

theorem forall_entries_insert {m : ExtTreeMap α β cmp} {P : α → β → Prop} {a : α} {b : β}
    (h : ∀ (x : α) (y : β), m[x]? = some y → P x y) (hp : P a b) :
    ∀ (x : α) (y : β), (m.insert a b)[x]? = some y → P x y := by
  intro x y hx
  rw [ExtTreeMap.getElem?_insert] at hx
  split at hx
  · rename_i hax
    obtain rfl : a = x := LawfulEqCmp.compare_eq_iff_eq.mp hax
    exact Option.some.inj hx ▸ hp
  · exact h x y hx

omit [LawfulEqCmp cmp] in
theorem forall_entries_erase {m : ExtTreeMap α β cmp} {P : α → β → Prop} {a : α}
    (h : ∀ (x : α) (y : β), m[x]? = some y → P x y) :
    ∀ (x : α) (y : β), (m.erase a)[x]? = some y → P x y := by
  intro x y hx
  rw [ExtTreeMap.getElem?_erase] at hx
  split at hx
  · cases hx
  · exact h x y hx

instance decidableForallEntries {m : ExtTreeMap α β cmp} {P : α → β → Prop}
    [∀ a b, Decidable (P a b)] : Decidable (∀ (a : α) (b : β), m[a]? = some b → P a b) :=
  decidable_of_iff _ forall_entries_iff

instance decidableForallSome {o : Option β} {P : β → Prop} [DecidablePred P] :
    Decidable (∀ b, o = some b → P b) :=
  match o with
  | none => isTrue (by simp)
  | some b => decidable_of_iff (P b) (by simp)

instance decidableExistsSome {o : Option β} {P : β → Prop} [DecidablePred P] :
    Decidable (∃ b, o = some b ∧ P b) :=
  match o with
  | none => isFalse (by simp)
  | some b => decidable_of_iff (P b) (by simp)

theorem forall₂_modify {α β : Type} {R : α → β → Prop} {f : α → α} (hf : ∀ a b, R a b → R (f a) b)
    {as : List α} {bs : List β} (h : List.Forall₂ R as bs) (index : Nat) :
    List.Forall₂ R (as.modify index f) bs := by
  induction h generalizing index with
  | nil => cases index <;> exact .nil
  | cons hab hrest ih =>
    cases index with
    | zero => exact .cons (hf _ _ hab) hrest
    | succ index => exact .cons hab (ih index)

theorem exists_of_forall₂ {α β : Type} {R : α → β → Prop} {as : List α} {bs : List β}
    (h : List.Forall₂ R as bs) {a : α} (ha : a ∈ as) : ∃ b ∈ bs, R a b := by
  induction h with
  | nil => cases ha
  | cons hab _ ih =>
    rcases List.mem_cons.mp ha with rfl | ha
    · exact ⟨_, List.mem_cons_self, hab⟩
    · obtain ⟨b, hb, hab⟩ := ih ha
      exact ⟨b, List.mem_cons_of_mem _ hb, hab⟩

section Replace

variable [DecidableEq α] {l : List α} {a b : α}

theorem mem_replace (hl : l.Nodup) (ha : a ∈ l) (hb : b ∉ l) (x : α) :
    x ∈ l.replace a b ↔ x = b ∨ (x ∈ l ∧ x ≠ a) := by
  induction l with
  | nil => simp at ha
  | cons y l ih =>
    obtain ⟨hy, hl'⟩ := List.nodup_cons.mp hl
    rw [List.replace_cons]
    by_cases hay : a = y
    · subst hay
      simp only [beq_self_eq_true, List.mem_cons]
      grind
    · have hf : (a == y) = false := by simpa using hay
      simp only [hf, List.mem_cons]
      rw [ih hl' (by simpa [hay] using ha) (by grind)]
      grind

theorem nodup_replace (hl : l.Nodup) (hb : b ∉ l) : (l.replace a b).Nodup := by
  induction l with
  | nil => exact hl
  | cons y l ih =>
    obtain ⟨hy, hl'⟩ := List.nodup_cons.mp hl
    have hb' : b ∉ l := by grind
    rw [List.replace_cons]
    split
    · exact List.nodup_cons.mpr ⟨hb', hl'⟩
    · refine List.nodup_cons.mpr ⟨?_, ih hl' hb'⟩
      by_cases ha : a ∈ l
      · rw [mem_replace hl' ha hb']
        grind
      · rwa [List.replace_of_not_mem ha]

/-- Replacements of different elements commute. -/
theorem replace_comm {a a' b b' : α} (l : List α) (hab : a ≠ b) (hab' : a' ≠ b) (hba' : b' ≠ a) :
    (l.replace a a').replace b b' = (l.replace b b').replace a a' := by
  induction l with
  | nil => rfl
  | cons y l ih =>
    by_cases ha : a = y
    · subst ha
      have h1 : (b == a) = false := by simpa using hab.symm
      have h2 : (b == a') = false := by simpa using hab'.symm
      simp [List.replace_cons, h1, h2]
    · by_cases hb : b = y
      · subst hb
        have h1 : (a == b') = false := by simpa using hba'.symm
        have h2 : (a == b) = false := by simpa using hab
        simp [List.replace_cons, h1, h2]
      · have h1 : (a == y) = false := by simpa using ha
        have h2 : (b == y) = false := by simpa using hb
        simp [List.replace_cons, h1, h2, ih]

/-- A replacement is undone by the reverse one. -/
theorem replace_replace_cancel {l : List α} {a b : α} (hb : b ∉ l) :
    (l.replace a b).replace b a = l := by
  induction l with
  | nil => rfl
  | cons y l ih =>
    have hby : (b == y) = false := by
      simp only [List.mem_cons, not_or] at hb
      simpa using hb.1
    have hl : b ∉ l := by simp_all
    by_cases ha : a = y
    · subst ha
      simp
    · have h1 : (a == y) = false := by simpa using ha
      simp [List.replace_cons, h1, hby, ih hl]

/-- A replacement between two elements that a filter keeps commutes with it. -/
theorem filter_replace {P : α → Bool} {a b : α} (l : List α) (ha : P a = true) (hb : P b = true) :
    (l.replace a b).filter P = (l.filter P).replace a b := by
  induction l with
  | nil => rfl
  | cons y l ih =>
    by_cases hay : a = y
    · subst hay
      simp [ha, hb]
    · have h1 : (a == y) = false := by simpa using hay
      cases hy : P y <;> simp [List.replace_cons, h1, hy, ih]

end Replace

/-! ## One place of a list -/

section Place

variable {l : List α} {i : Nat} {a : α}

theorem perm_of_getElem? (h : l[i]? = some a) : l.Perm (a :: l.eraseIdx i) := by
  obtain ⟨hi, rfl⟩ := List.getElem?_eq_some_iff.mp h
  exact (List.getElem_cons_eraseIdx_perm hi).symm

theorem perm_set (h : l[i]? = some a) (b : α) : (l.set i b).Perm (b :: l.eraseIdx i) :=
  List.set_perm_cons_eraseIdx (List.getElem?_eq_some_iff.mp h).1 b

end Place

end DnfServer.Library
