import DnfServer.Library.Containers

/-!
# Runs of a labelled transition system

A system is given by its step function: `next s a` is the state after action `a`,
or `none` when `a` is not enabled in `s`. A run is the list of its actions, so a
schedule of several threads is a list of labels that name the thread. `Meets ok`
says of a list of actions that each one is taken in a state in which `ok` holds
of it. The invariant rules turn a fact about one step into a fact about every state
of every run; the last rules compare a run with the same run without some actions.
-/

namespace DnfServer.Library

variable {σ τ ι : Type}

/-- The state after a list of actions, or `none` when one of them is not enabled. -/
def run (next : σ → ι → Option σ) : σ → List ι → Option σ
  | s, [] => some s
  | s, a :: as => (next s a).bind fun t => run next t as

/-- Every action of the list meets `ok` in the state it is taken in. -/
def Meets (next : σ → ι → Option σ) (ok : σ → ι → Prop) : σ → List ι → Prop
  | _, [] => True
  | s, a :: as => ok s a ∧ ∀ t, next s a = some t → Meets next ok t as

instance Meets.decidable (next : σ → ι → Option σ) (ok : σ → ι → Prop)
    [∀ s a, Decidable (ok s a)] : (s : σ) → (as : List ι) → Decidable (Meets next ok s as)
  | _, [] => isTrue trivial
  | s, a :: as =>
    have (t : σ) : Decidable (Meets next ok t as) := Meets.decidable next ok t as
    inferInstanceAs (Decidable (ok s a ∧ ∀ t, next s a = some t → Meets next ok t as))

/-- The states some run from `s` ends in. -/
def Reachable (next : σ → ι → Option σ) (s t : σ) : Prop :=
  ∃ as, run next s as = some t

variable {next : σ → ι → Option σ} {ok : σ → ι → Prop} {s t u : σ}

theorem run_cons {a : ι} {as : List ι} :
    run next s (a :: as) = some u ↔ ∃ t, next s a = some t ∧ run next t as = some u := by
  simp [run, Option.bind_eq_some_iff]

theorem run_append {as bs : List ι} :
    run next s (as ++ bs) = some u ↔ ∃ t, run next s as = some t ∧ run next t bs = some u := by
  induction as generalizing s with
  | nil => simp [run]
  | cons a as ih =>
    simp only [List.cons_append, run_cons, ih]
    constructor
    · rintro ⟨t, ha, v, hv, hu⟩
      exact ⟨v, ⟨t, ha, hv⟩, hu⟩
    · rintro ⟨v, ⟨t, ha, hv⟩, hu⟩
      exact ⟨t, ha, v, hv, hu⟩

/-- A property kept by every step that meets `ok` holds in every state that a run
of such steps reaches. -/
theorem run_invariant (Inv : σ → Prop)
    (hstep : ∀ s a t, Inv s → ok s a → next s a = some t → Inv t)
    {as : List ι} (hs : Inv s) (hm : Meets next ok s as) (hr : run next s as = some t) : Inv t := by
  induction as generalizing s with
  | nil =>
    obtain rfl := Option.some.inj hr
    exact hs
  | cons a as ih =>
    obtain ⟨v, hv, hr⟩ := run_cons.mp hr
    exact ih (hstep s a v hs hm.1 hv) (hm.2 v hv) hr

theorem meets_true (as : List ι) : Meets next (fun _ _ => True) s as := by
  induction as generalizing s with
  | nil => trivial
  | cons a as ih => exact ⟨trivial, fun t _ => ih⟩

theorem reachable_invariant (Inv : σ → Prop)
    (hstep : ∀ s a t, Inv s → next s a = some t → Inv t)
    (hs : Inv s) (h : Reachable next s t) : Inv t := by
  obtain ⟨as, hr⟩ := h
  exact run_invariant Inv (fun s a t hi _ ha => hstep s a t hi ha) hs (meets_true as) hr

/-- What holds in the last state of a run and not in the first is gained in a step. -/
theorem run_gains (P : σ → Prop) {as : List ι} (hr : run next s as = some t) (hs : ¬ P s) (ht : P t) :
    ∃ a ∈ as, ∃ u v, next u a = some v ∧ ¬ P u ∧ P v := by
  induction as generalizing s with
  | nil =>
    obtain rfl := Option.some.inj hr
    exact absurd ht hs
  | cons a as ih =>
    obtain ⟨v, hv, hr⟩ := run_cons.mp hr
    by_cases hgained : P v
    · exact ⟨a, List.mem_cons_self, s, v, hv, hs, hgained⟩
    · obtain ⟨b, hb, hstep⟩ := ih hr hgained
      exact ⟨b, List.mem_cons_of_mem a hb, hstep⟩

/-- Two runs of two systems, where each action of the first has an image: a relation that an action
and its image keep holds between the last states. -/
theorem run_map_related {τ κ : Type} {next' : τ → κ → Option τ} (R : σ → τ → Prop) (image : ι → κ)
    (hstep : ∀ s a s' t, R s t → ok s a → next s a = some s' →
      ∃ t', next' t (image a) = some t' ∧ R s' t')
    {as : List ι} {s s' : σ} {t : τ} (hst : R s t) (hm : Meets next ok s as)
    (hr : run next s as = some s') : ∃ t', run next' t (as.map image) = some t' ∧ R s' t' := by
  induction as generalizing s t with
  | nil =>
    obtain rfl := Option.some.inj hr
    exact ⟨t, rfl, hst⟩
  | cons a as ih =>
    obtain ⟨v, hv, hr⟩ := run_cons.mp hr
    obtain ⟨x, hx, hvx⟩ := hstep s a v t hst hm.1 hv
    obtain ⟨t', hrun, hlast⟩ := ih hvx (hm.2 v hv) hr
    exact ⟨t', run_cons.mpr ⟨x, hx, hrun⟩, hlast⟩

/-- Two runs, the second without some of the actions: a relation that the common actions keep
and the left out ones of the first run keep too holds between the last states. -/
theorem run_filter_related (R : σ → σ → Prop) {ok' : σ → ι → Prop} {keep : ι → Bool}
    (hkeep : ∀ s a s' t, R s t → ok s a → ok' t a → next s a = some s' → keep a = true →
      ∃ t', next t a = some t' ∧ R s' t')
    (hskip : ∀ s a s' t, R s t → ok s a → next s a = some s' → keep a = false → R s' t)
    {as : List ι} {s' : σ} (hst : R s t) (hm : Meets next ok s as)
    (hm' : Meets next ok' t (as.filter keep)) (hr : run next s as = some s') :
    ∃ t', run next t (as.filter keep) = some t' ∧ R s' t' := by
  induction as generalizing s t with
  | nil =>
    obtain rfl := Option.some.inj hr
    exact ⟨t, rfl, hst⟩
  | cons a as ih =>
    obtain ⟨v, hv, hr⟩ := run_cons.mp hr
    cases hk : keep a with
    | true =>
      rw [List.filter_cons_of_pos hk] at hm' ⊢
      obtain ⟨x, hx, hvx⟩ := hkeep s a v t hst hm.1 hm'.1 hv hk
      obtain ⟨t', hrun, hlast⟩ := ih hvx (hm.2 v hv) (hm'.2 x hx) hr
      exact ⟨t', run_cons.mpr ⟨x, hx, hrun⟩, hlast⟩
    | false =>
      rw [List.filter_cons_of_neg (by simp [hk])] at hm' ⊢
      exact ih (hskip s a v t hst hm.1 hv hk) (hm.2 v hv) hm' hr

/-- What holds in the last state of a run and is never gained in a step holds throughout. -/
theorem meets_of_last (P : σ → Prop) (hback : ∀ s a t, ok s a → next s a = some t → P t → P s)
    {as : List ι} (hm : Meets next ok s as) (hr : run next s as = some t) (hlast : P t) :
    Meets next (fun s a => P s ∧ ok s a) s as := by
  have hfirst {s : σ} {as : List ι} (hm : Meets next ok s as) (hr : run next s as = some t) : P s := by
    induction as generalizing s with
    | nil =>
      obtain rfl := Option.some.inj hr
      exact hlast
    | cons a as ih =>
      obtain ⟨v, hv, hr⟩ := run_cons.mp hr
      exact hback s a v hm.1 hv (ih (hm.2 v hv) hr)
  induction as generalizing s with
  | nil => trivial
  | cons a as ih =>
    refine ⟨⟨hfirst hm hr, hm.1⟩, ?_⟩
    intro v hv
    obtain ⟨v', hv', hr⟩ := run_cons.mp hr
    obtain rfl := Option.some.inj (hv.symm.trans hv')
    exact ih (hm.2 v hv) hr

/-- Actions that leave the state alone can be taken out of a run. -/
theorem run_filter (Inv : σ → Prop) {keep : ι → Bool}
    (hstep : ∀ s a t, Inv s → ok s a → next s a = some t → Inv t)
    (hskip : ∀ s a t, Inv s → ok s a → next s a = some t → keep a = false → t = s)
    {as : List ι} (hs : Inv s) (hm : Meets next ok s as) (hr : run next s as = some t) :
    run next s (as.filter keep) = some t := by
  have hrelated : ∃ t', run next s (as.filter keep) = some t' ∧ t' = t ∧ Inv t := by
    refine run_filter_related (fun s t => t = s ∧ Inv s) ?_ ?_ ⟨rfl, hs⟩ hm (meets_true _) hr
    · rintro s a s' t ⟨rfl, hi⟩ hok - hn -
      exact ⟨s', hn, rfl, hstep t a s' hi hok hn⟩
    · rintro s a s' t ⟨rfl, hi⟩ hok hn hk
      exact ⟨(hskip t a s' hi hok hn hk).symm, hstep t a s' hi hok hn⟩
  obtain ⟨t', hrun, rfl, -⟩ := hrelated
  exact hrun

end DnfServer.Library
