import DnfServer.Library.Containers
import Mathlib.Logic.Equiv.Basic

/-!
# Maps under other keys

`Renames ρ f m m'` says that `m'` is `m` with every key `k` under `ρ k` and every value changed by `f`,
where `ρ` is its own inverse. The operations of a map keep it, and the two lists of entries agree up to
their order, which is all that a loop over an unordered map can use.
-/

namespace DnfServer.Library

open Std

variable {α β γ : Type} {cmp : α → α → Ordering} [TransCmp cmp] [LawfulEqCmp cmp]

/-- The second map is the first under other keys. -/
def Renames (ρ : α → α) (f : β → γ) (m : ExtTreeMap α β cmp) (m' : ExtTreeMap α γ cmp) : Prop :=
  ∀ k, m'[ρ k]? = m[k]?.map f

omit [LawfulEqCmp cmp] in
theorem nodup_toList (m : ExtTreeMap α β cmp) : m.toList.Nodup :=
  (List.pairwise_map.mp (nodup_map_fst_toList m)).imp fun hne heq => hne (congrArg Prod.fst heq)

namespace Renames

variable {ρ : α → α} {f : β → γ} {m : ExtTreeMap α β cmp} {m' : ExtTreeMap α γ cmp}

omit [LawfulEqCmp cmp] in
theorem empty : Renames ρ f (∅ : ExtTreeMap α β cmp) (∅ : ExtTreeMap α γ cmp) := by
  intro k
  simp

omit [LawfulEqCmp cmp] in
theorem mem_iff (h : Renames ρ f m m') (k : α) : ρ k ∈ m' ↔ k ∈ m := by
  rw [← ExtTreeMap.isSome_getElem?_iff_mem, ← ExtTreeMap.isSome_getElem?_iff_mem, h k,
    Option.isSome_map]

omit [TransCmp cmp] in
theorem compare_iff (hρ : Function.Involutive ρ) (k x : α) : cmp (ρ k) (ρ x) = .eq ↔ cmp k x = .eq := by
  rw [LawfulEqCmp.compare_eq_iff_eq, LawfulEqCmp.compare_eq_iff_eq, hρ.injective.eq_iff]

theorem insert (h : Renames ρ f m m') (hρ : Function.Involutive ρ) (k : α) (v : β) :
    Renames ρ f (m.insert k v) (m'.insert (ρ k) (f v)) := by
  intro x
  simp only [ExtTreeMap.getElem?_insert, compare_iff hρ]
  split
  · rfl
  · exact h x

theorem erase (h : Renames ρ f m m') (hρ : Function.Involutive ρ) (k : α) :
    Renames ρ f (m.erase k) (m'.erase (ρ k)) := by
  intro x
  simp only [ExtTreeMap.getElem?_erase, compare_iff hρ]
  split
  · rfl
  · exact h x

theorem insertIfNew (h : Renames ρ f m m') (hρ : Function.Involutive ρ) (k : α) (v : β) :
    Renames ρ f (m.insertIfNew k v) (m'.insertIfNew (ρ k) (f v)) := by
  intro x
  simp only [ExtTreeMap.getElem?_insertIfNew, compare_iff hρ, h.mem_iff]
  split
  · rfl
  · exact h x

/-- The entries are the same up to their order. -/
theorem perm_toList (h : Renames ρ f m m') (hρ : Function.Involutive ρ) :
    m'.toList.Perm (m.toList.map fun entry => (ρ entry.1, f entry.2)) := by
  have hkeys : ((m.toList.map fun entry => (ρ entry.1, f entry.2)).map (·.1)).Nodup := by
    have hmap : (m.toList.map fun entry => (ρ entry.1, f entry.2)).map (·.1) =
        (m.toList.map (·.1)).map ρ := by
      rw [List.map_map, List.map_map]
      rfl
    rw [hmap]
    refine List.pairwise_map.mpr ((nodup_map_fst_toList m).imp ?_)
    exact fun hne heq => hne (hρ.injective heq)
  refine (List.perm_ext_iff_of_nodup (nodup_toList m') ((List.pairwise_map.mp hkeys).imp
    fun hne heq => hne (congrArg Prod.fst heq))).mpr fun entry => ?_
  have hentry := h (ρ entry.1)
  rw [hρ] at hentry
  rw [ExtTreeMap.mem_toList_iff_getElem?_eq_some, hentry, List.mem_map]
  constructor
  · intro hvalue
    obtain ⟨v, hv, heq⟩ := Option.map_eq_some_iff.mp hvalue
    exact ⟨(ρ entry.1, v), ExtTreeMap.mem_toList_iff_getElem?_eq_some.mpr hv,
      Prod.ext (hρ entry.1) heq⟩
  · rintro ⟨old, hold, rfl⟩
    rw [ExtTreeMap.mem_toList_iff_getElem?_eq_some] at hold
    rw [hρ, hold]
    rfl

theorem isEmpty_eq (h : Renames ρ f m m') (hρ : Function.Involutive ρ) : m'.isEmpty = m.isEmpty := by
  have hlength := (h.perm_toList hρ).length_eq
  rw [List.length_map, ExtTreeMap.length_toList, ExtTreeMap.length_toList] at hlength
  rw [ExtTreeMap.isEmpty_eq_size_beq_zero, ExtTreeMap.isEmpty_eq_size_beq_zero, hlength]

end Renames

omit [LawfulEqCmp cmp] in
/-- Two keys change places. -/
theorem renames_swap [DecidableEq α] {f : β → γ} {m : ExtTreeMap α β cmp} {m' : ExtTreeMap α γ cmp}
    {a b : α} (ha : m'[b]? = m[a]?.map f) (hb : m'[a]? = m[b]?.map f)
    (hother : ∀ k, k ≠ a → k ≠ b → m'[k]? = m[k]?.map f) : Renames (Equiv.swap a b) f m m' := by
  intro k
  by_cases hka : k = a
  · rw [hka, Equiv.swap_apply_left, ha]
  by_cases hkb : k = b
  · rw [hkb, Equiv.swap_apply_right, hb]
  · rw [Equiv.swap_apply_of_ne_of_ne hka hkb, hother k hka hkb]

/-- Two steps that can be swapped: a loop gives the same result in any order. -/
theorem foldl_perm {σ τ : Type} {step : σ → τ → σ}
    (hstep : ∀ s a b, step (step s a) b = step (step s b) a) {as bs : List τ} (h : as.Perm bs) (s : σ) :
    as.foldl step s = bs.foldl step s :=
  h.foldl_eq' (fun a _ b _ s => hstep s a b) s

/-- The entries with one of them in front. -/
theorem perm_cons_erase {m : ExtTreeMap α β cmp} {k : α} {v : β} (h : m[k]? = some v) :
    m.toList.Perm ((k, v) :: (m.erase k).toList) := by
  have hfresh : (k, v) ∉ (m.erase k).toList := by
    rw [ExtTreeMap.mem_toList_iff_getElem?_eq_some, ExtTreeMap.getElem?_erase_self]
    exact Option.some_ne_none v ∘ Eq.symm
  refine (List.perm_ext_iff_of_nodup (nodup_toList m)
    (List.nodup_cons.mpr ⟨hfresh, nodup_toList _⟩)).mpr fun entry => ?_
  rw [List.mem_cons, ExtTreeMap.mem_toList_iff_getElem?_eq_some,
    ExtTreeMap.mem_toList_iff_getElem?_eq_some, ExtTreeMap.getElem?_erase]
  by_cases hk : k = entry.1
  · rw [if_pos (LawfulEqCmp.compare_eq_iff_eq.mpr hk), ← hk, h]
    constructor
    · intro hv
      exact .inl (Prod.ext hk.symm (Option.some.inj hv).symm)
    · rintro (rfl | hv)
      · rfl
      · cases hv
  · rw [if_neg (mt LawfulEqCmp.compare_eq_iff_eq.mp hk)]
    exact ⟨.inr, fun hmem => hmem.resolve_left fun heq => hk (congrArg Prod.fst heq).symm⟩

/-- A loop over a map can leave out an entry that changes nothing. -/
theorem foldl_toList_erase {σ : Type} {step : σ → α × β → σ}
    (hstep : ∀ s a b, step (step s a) b = step (step s b) a) {m : ExtTreeMap α β cmp} {k : α} {s : σ}
    (hk : ∀ v, m[k]? = some v → step s (k, v) = s) :
    m.toList.foldl step s = (m.erase k).toList.foldl step s := by
  cases hentry : m[k]? with
  | none =>
    have hsame : m.erase k = m := by
      refine ExtTreeMap.ext_getElem? fun x => ?_
      rw [ExtTreeMap.getElem?_erase]
      split
      · rename_i hx
        rw [← LawfulEqCmp.compare_eq_iff_eq.mp hx, hentry]
      · rfl
    rw [hsame]
  | some v =>
    rw [foldl_perm hstep (perm_cons_erase hentry), List.foldl_cons, hk v hentry]

section Replace

variable [DecidableEq α] {δ : Type} [DecidableEq δ]

theorem map_replace {g : α → δ} (hg : Function.Injective g) (l : List α) (a b : α) :
    (l.replace a b).map g = (l.map g).replace (g a) (g b) := by
  induction l with
  | nil => rfl
  | cons x l ih =>
    by_cases hx : a = x
    · subst hx
      rw [List.replace_cons_self, List.map_cons, List.map_cons, List.replace_cons_self]
    · have hne : ¬ g a = g x := fun heq => hx (hg heq)
      rw [List.map_cons, List.replace_cons, List.replace_cons, beq_false_of_ne hx, beq_false_of_ne hne]
      exact congrArg _ ih

theorem replace_eq_map_swap {l : List α} {a b : α} (hnodup : l.Nodup) (hb : b ∉ l) :
    l.replace a b = l.map (Equiv.swap a b) := by
  induction l with
  | nil => rfl
  | cons x l ih =>
    obtain ⟨hx, hrest⟩ := List.nodup_cons.mp hnodup
    obtain ⟨hbx, hbl⟩ := not_or.mp (mt List.mem_cons.mpr hb)
    by_cases hax : a = x
    · subst hax
      have hsame : l.map (Equiv.swap a b) = l := by
        refine (List.map_congr_left fun y hy => ?_).trans l.map_id
        exact Equiv.swap_apply_of_ne_of_ne (fun h => hx (h ▸ hy)) fun h => hbl (h ▸ hy)
      rw [List.replace_cons_self, List.map_cons, Equiv.swap_apply_left, hsame]
    · rw [List.replace_cons, beq_false_of_ne hax, List.map_cons,
        Equiv.swap_apply_of_ne_of_ne (Ne.symm hax) (Ne.symm hbx), ← ih hrest hbl]

end Replace

end DnfServer.Library
