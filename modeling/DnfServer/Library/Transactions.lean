import Mathlib.Data.List.Basic

/-!
# Transactions over a connection

A program speaks to a database through calls of a connection, and each call may fail by itself.
The tables `τ` are durable, or those of an open transaction, which a rollback throws away and a
commit makes durable. `faults` says which calls fail, `others` what other connections commit
while the program pauses. The rules below say what holds of a transaction whatever call of it
fails, and reduce what a successful one did to the same work on a connection without faults.
-/

namespace DnfServer.Library

set_option autoImplicit false

variable {τ φ ε α β : Type}

/-- The tables, and those of the transaction that is open. -/
structure Store (τ : Type) where
  durable : τ
  working : Option τ := none
  deriving DecidableEq

/-- The tables that a statement reads and writes. -/
def Store.current (store : Store τ) : τ := store.working.getD store.durable

/-- A statement outside of a transaction commits by itself. -/
def Store.write (store : Store τ) (tables : τ) : Store τ :=
  if store.working.isSome then { store with working := some tables } else { store with durable := tables }

structure Connection (τ φ : Type) where
  store : Store τ
  calls : Nat := 0
  pauses : Nat := 0
  faults : Nat → Option φ := fun _ => none
  others : Nat → τ → τ := fun _ => id

/-- The calls with numbers in `[first, last)` do not fail. -/
def Connection.Unfaulted (connection : Connection τ φ) (first last : Nat) : Prop :=
  ∀ call, first ≤ call → call < last → connection.faults call = none

def Connection.paused (connection : Connection τ φ) : Connection τ φ :=
  { connection with
    store := { connection.store with
      durable := connection.others connection.pauses connection.store.durable }
    pauses := connection.pauses + 1 }

/-- The durable tables after the first pauses, in each of which the others commit. -/
def Connection.afterPauses (connection : Connection τ φ) : Nat → τ
  | 0 => connection.store.durable
  | pauses + 1 => connection.others (connection.pauses + pauses) (connection.afterPauses pauses)

def Connection.faultless (connection : Connection τ φ) : Connection τ φ :=
  { connection with faults := fun _ => none }

/-- A program that calls the connection; an exception of it does not take back the calls made. -/
abbrev Work (τ φ ε α : Type) := ExceptT ε (StateM (Connection τ φ)) α

namespace Work

def on (work : Work τ φ ε α) (connection : Connection τ φ) : Except ε α × Connection τ φ :=
  StateT.run (ExceptT.run work) connection

/-- One call, which fails by itself or does `act`; a failed one leaves the tables. -/
def call (raise : φ → ε) (act : Store τ → Except φ (α × Store τ)) : Work τ φ ε α :=
  fun connection =>
    let called := { connection with calls := connection.calls + 1 }
    match connection.faults connection.calls with
    | some fault => (.error (raise fault), called)
    | none => match act connection.store with
      | .error fault => (.error (raise fault), called)
      | .ok (result, store) => (.ok result, { called with store })

/-- A call that leaves the tables as they are, such as one that prepares a statement. -/
def touch (raise : φ → ε) : Work τ φ ε Unit := call raise fun store => .ok ((), store)

def touches (raise : φ → ε) (count : Nat) : Work τ φ ε Unit :=
  (List.replicate count ()).forM fun _ => touch raise

def query (raise : φ → ε) (read : τ → α) : Work τ φ ε α :=
  call raise fun store => .ok (read store.current, store)

/-- The database refuses tables that violate a constraint. -/
def execute (violated : τ → Option φ) (raise : φ → ε) (update : τ → τ) : Work τ φ ε Unit :=
  call raise fun store =>
    match violated (update store.current) with
    | some fault => .error fault
    | none => .ok ((), store.write (update store.current))

def begin (raise : φ → ε) : Work τ φ ε Unit :=
  call raise fun store => .ok ((), { store with working := some store.durable })

def commit (raise : φ → ε) : Work τ φ ε Unit :=
  call raise fun store => .ok ((), { durable := store.current })

/-- The destructor of a transaction ends what is still open, however the body ends. -/
def guarded (body : Work τ φ ε α) : Work τ φ ε α :=
  fun connection =>
    let ended := body.on connection
    (ended.1, { ended.2 with store := { durable := ended.2.store.durable } })

def transaction (raise : φ → ε) (body : Work τ φ ε α) : Work τ φ ε α := do
  begin raise
  guarded body

/-- Between two attempts the others commit. -/
def pause : Work τ φ ε Unit := fun connection => (.ok (), connection.paused)

/-- A retryable failure is followed by another attempt, `left` times at most. -/
def retry (retryable : ε → Bool) (body : Work τ φ ε α) : Nat → Work τ φ ε α
  | 0 => body
  | left + 1 => tryCatch body fun failure =>
    if retryable failure then do
      pause
      retry retryable body left
    else throw failure

/-! ## One call after the other -/

variable {work : Work τ φ ε α} {next : α → Work τ φ ε β} {connection middle ended : Connection τ φ}
  {raise : φ → ε} {act : Store τ → Except φ (α × Store τ)} {result : α} {failure : ε}

theorem on_eq {outcome : Except ε α} (h : (work.on connection).1 = outcome) :
    work.on connection = (outcome, (work.on connection).2) := by
  rw [← h]

theorem on_bind_ok (h : work.on connection = (.ok result, middle)) :
    (work >>= next).on connection = (next result).on middle := by
  unfold on at h ⊢
  rw [ExceptT.run_bind, StateT.run_bind, h]
  rfl

theorem on_bind_error (h : work.on connection = (.error failure, ended)) :
    (work >>= next).on connection = (.error failure, ended) := by
  unfold on at h ⊢
  rw [ExceptT.run_bind, StateT.run_bind, h]
  rfl

/-- A sequence ends in its second part, or in a failure of its first. -/
theorem of_on_bind {outcome : Except ε β} (h : (work >>= next).on connection = (outcome, ended)) :
    (∃ result middle, work.on connection = (.ok result, middle) ∧
      (next result).on middle = (outcome, ended)) ∨
    ∃ failure, work.on connection = (.error failure, ended) ∧ outcome = .error failure := by
  rcases hfirst : work.on connection with ⟨first, middle⟩
  cases first with
  | ok result =>
    rw [on_bind_ok hfirst] at h
    exact Or.inl ⟨result, middle, rfl, h⟩
  | error failure =>
    rw [on_bind_error hfirst] at h
    obtain ⟨rfl, rfl⟩ := Prod.mk.inj h
    exact Or.inr ⟨failure, rfl, rfl⟩

theorem on_call_fault {fault : φ} (h : connection.faults connection.calls = some fault) :
    (call raise act).on connection =
      (.error (raise fault), { connection with calls := connection.calls + 1 }) := by
  show call raise act connection = _
  unfold call
  simp only [h]

theorem on_call_refused {fault : φ} (h : connection.faults connection.calls = none)
    (hact : act connection.store = .error fault) :
    (call raise act).on connection =
      (.error (raise fault), { connection with calls := connection.calls + 1 }) := by
  show call raise act connection = _
  unfold call
  simp only [h, hact]

theorem on_call_ok {store : Store τ} (h : connection.faults connection.calls = none)
    (hact : act connection.store = .ok (result, store)) :
    (call raise act).on connection =
      (.ok result, { connection with calls := connection.calls + 1, store := store }) := by
  show call raise act connection = _
  unfold call
  simp only [h, hact]

/-- What a call has done. -/
theorem of_on_call {outcome : Except ε α} (h : (call raise act).on connection = (outcome, ended)) :
    (∃ failure, outcome = .error failure ∧ ended = { connection with calls := connection.calls + 1 }) ∨
    ∃ result store, connection.faults connection.calls = none ∧
      act connection.store = .ok (result, store) ∧ outcome = .ok result ∧
      ended = { connection with calls := connection.calls + 1, store := store } := by
  cases hfault : connection.faults connection.calls with
  | some fault =>
    rw [on_call_fault hfault] at h
    obtain ⟨rfl, rfl⟩ := Prod.mk.inj h
    exact Or.inl ⟨_, rfl, rfl⟩
  | none =>
    cases hact : act connection.store with
    | error fault =>
      rw [on_call_refused hfault hact] at h
      obtain ⟨rfl, rfl⟩ := Prod.mk.inj h
      exact Or.inl ⟨_, rfl, rfl⟩
    | ok pair =>
      rw [on_call_ok hfault hact] at h
      obtain ⟨rfl, rfl⟩ := Prod.mk.inj h
      exact Or.inr ⟨_, _, rfl, rfl, rfl, rfl⟩

theorem on_guarded {outcome : Except ε α} (h : work.on connection = (outcome, ended)) :
    (guarded work).on connection =
      (outcome, { ended with store := { durable := ended.store.durable } }) := by
  show guarded work connection = _
  unfold guarded
  rw [h]

theorem of_on_guarded {outcome : Except ε α} (h : (guarded work).on connection = (outcome, ended)) :
    ∃ left, work.on connection = (outcome, left) ∧
      ended = { left with store := { durable := left.store.durable } } := by
  rcases hleft : work.on connection with ⟨first, left⟩
  rw [on_guarded hleft] at h
  obtain ⟨rfl, rfl⟩ := Prod.mk.inj h
  exact ⟨left, rfl, rfl⟩

/-! ## Faults -/

/-- Work that only calls the connection: it succeeds only when no call of it has failed by itself, and
where none has, it did what it does on a connection without faults. -/
structure Regular (work : Work τ φ ε α) : Prop where
  same : ∀ {connection outcome ended}, work.on connection = (outcome, ended) →
    ended = { connection with store := ended.store, calls := ended.calls }
  later : ∀ {connection outcome ended}, work.on connection = (outcome, ended) →
    connection.calls ≤ ended.calls
  unfaulted : ∀ {connection result ended}, work.on connection = (.ok result, ended) →
    connection.Unfaulted connection.calls ended.calls
  faultless : ∀ {connection outcome ended}, work.on connection = (outcome, ended) →
    connection.Unfaulted connection.calls ended.calls →
    work.on connection.faultless = (outcome, ended.faultless)

theorem Regular.pure (result : α) : Regular (pure result : Work τ φ ε α) where
  same h := by cases h; rfl
  later h := by cases h; exact Nat.le_refl _
  unfaulted h := by
    cases h
    intro call hfirst hlast
    omega
  faultless h _ := by cases h; rfl

theorem Regular.throw (failure : ε) : Regular (throw failure : Work τ φ ε α) where
  same h := by cases h; rfl
  later h := by cases h; exact Nat.le_refl _
  unfaulted h := by cases h
  faultless h _ := by cases h; rfl

theorem Regular.call (raise : φ → ε) (act : Store τ → Except φ (α × Store τ)) :
    Regular (call raise act) where
  same h := by
    obtain ⟨_, _, rfl⟩ | ⟨_, _, _, _, _, rfl⟩ := of_on_call h <;> rfl
  later h := by
    obtain ⟨_, _, rfl⟩ | ⟨_, _, _, _, _, rfl⟩ := of_on_call h <;> exact Nat.le_succ _
  unfaulted h := by
    obtain ⟨_, herror, _⟩ | ⟨_, _, hfault, _, _, rfl⟩ := of_on_call h
    · cases herror
    · intro call hfirst hlast
      have hcall : call = _ := Nat.le_antisymm (Nat.lt_succ_iff.mp hlast) hfirst
      rw [hcall]
      exact hfault
  faultless {connection} {outcome} {ended} h hnone := by
    have hcalls : ended.calls = connection.calls + 1 := by
      obtain ⟨_, _, rfl⟩ | ⟨_, _, _, _, _, rfl⟩ := of_on_call h <;> rfl
    have hfault : connection.faults connection.calls = none := hnone _ (Nat.le_refl _) (by omega)
    cases hact : act connection.store with
    | error fault =>
      rw [on_call_refused hfault hact] at h
      obtain ⟨rfl, rfl⟩ := Prod.mk.inj h
      exact on_call_refused rfl hact
    | ok pair =>
      rw [on_call_ok hfault hact] at h
      obtain ⟨rfl, rfl⟩ := Prod.mk.inj h
      exact on_call_ok rfl hact

theorem Regular.touch (raise : φ → ε) : Regular (touch raise : Work τ φ ε Unit) :=
  Regular.call raise _

theorem Regular.query (raise : φ → ε) (read : τ → α) : Regular (query raise read) :=
  Regular.call raise _

theorem Regular.execute (violated : τ → Option φ) (raise : φ → ε) (update : τ → τ) :
    Regular (execute violated raise update) :=
  Regular.call raise _

theorem Regular.commit (raise : φ → ε) : Regular (commit raise : Work τ φ ε Unit) :=
  Regular.call raise _

theorem Regular.bind (hwork : Regular work) (hnext : ∀ result, Regular (next result)) :
    Regular (work >>= next) where
  same h := by
    obtain ⟨_, middle, hfirst, hsecond⟩ | ⟨_, hfirst, _⟩ := of_on_bind h
    · rw [(hnext _).same hsecond, hwork.same hfirst]
    · exact hwork.same hfirst
  later h := by
    obtain ⟨_, middle, hfirst, hsecond⟩ | ⟨_, hfirst, _⟩ := of_on_bind h
    · exact Nat.le_trans (hwork.later hfirst) ((hnext _).later hsecond)
    · exact hwork.later hfirst
  unfaulted h := by
    obtain ⟨_, middle, hfirst, hsecond⟩ | ⟨_, _, herror⟩ := of_on_bind h
    · intro call hcall hlast
      by_cases hmiddle : call < middle.calls
      · exact hwork.unfaulted hfirst call hcall hmiddle
      · have hrest := (hnext _).unfaulted hsecond call (by omega) hlast
        rw [hwork.same hfirst] at hrest
        exact hrest
    · cases herror
  faultless h hnone := by
    obtain ⟨_, middle, hfirst, hsecond⟩ | ⟨_, hfirst, rfl⟩ := of_on_bind h
    · have hbefore := hwork.later hfirst
      have hafter := (hnext _).later hsecond
      have hclear := hwork.faultless hfirst fun call hcall hlast => hnone call hcall (by omega)
      rw [on_bind_ok hclear]
      refine (hnext _).faultless hsecond fun call hcall hlast => ?_
      rw [hwork.same hfirst]
      exact hnone call (by omega) hlast
    · exact on_bind_error (hwork.faultless hfirst hnone)

theorem Regular.ite {other : Work τ φ ε α} (c : Prop) [Decidable c] (hwork : Regular work)
    (hother : Regular other) : Regular (if c then work else other) := by
  by_cases hc : c
  · rwa [if_pos hc]
  · rwa [if_neg hc]

theorem Regular.forM {ι : Type} {body : ι → Work τ φ ε Unit} (hbody : ∀ i, Regular (body i))
    (list : List ι) : Regular (list.forM body) := by
  induction list with
  | nil => exact Regular.pure ()
  | cons i list ih => exact (hbody i).bind fun _ => ih

theorem Regular.mapM {ι : Type} {body : ι → Work τ φ ε α} (hbody : ∀ i, Regular (body i))
    (list : List ι) : Regular (list.mapM body) := by
  induction list with
  | nil => exact Regular.pure []
  | cons i list ih =>
    rw [List.mapM_cons]
    exact (hbody i).bind fun _ => ih.bind fun _ => Regular.pure _

theorem Regular.touches (raise : φ → ε) (count : Nat) :
    Regular (touches raise count : Work τ φ ε Unit) :=
  Regular.forM (fun _ => Regular.touch raise) _

theorem Regular.guarded (hwork : Regular work) : Regular (guarded work) where
  same h := by
    obtain ⟨left, hleft, rfl⟩ := of_on_guarded h
    rw [hwork.same hleft]
  later h := by
    obtain ⟨left, hleft, rfl⟩ := of_on_guarded h
    have hlater := hwork.later hleft
    exact hlater
  unfaulted h := by
    obtain ⟨left, hleft, rfl⟩ := of_on_guarded h
    have hnone := hwork.unfaulted hleft
    exact hnone
  faultless h hnone := by
    obtain ⟨left, hleft, rfl⟩ := of_on_guarded h
    exact on_guarded (hwork.faultless hleft hnone)

theorem Regular.transaction (hwork : Regular work) : Regular (transaction raise work) :=
  (Regular.call raise _).bind fun _ => hwork.guarded

/-! ## Atomicity -/

/-- Work inside of a transaction leaves it open and the durable tables as they are. -/
def Inside (work : Work τ φ ε α) : Prop :=
  ∀ ⦃connection outcome ended⦄, work.on connection = (outcome, ended) →
    connection.store.working.isSome = true →
    ended.store.working.isSome = true ∧ ended.store.durable = connection.store.durable

/-- Work that changes the durable tables inside of a transaction only when it returns `done`. -/
def Commits (done : α) (work : Work τ φ ε α) : Prop :=
  ∀ ⦃connection outcome ended⦄, work.on connection = (outcome, ended) →
    connection.store.working.isSome = true → outcome ≠ .ok done →
    ended.store.durable = connection.store.durable

theorem Inside.pure (result : α) : Inside (pure result : Work τ φ ε α) := by
  intro connection outcome ended h hopen
  cases h
  exact ⟨hopen, rfl⟩

theorem Inside.query (raise : φ → ε) (read : τ → α) : Inside (query raise read) := by
  intro connection outcome ended h hopen
  obtain ⟨_, _, rfl⟩ | ⟨_, _, _, hact, _, rfl⟩ := of_on_call h
  · exact ⟨hopen, rfl⟩
  · cases hact
    exact ⟨hopen, rfl⟩

theorem Inside.touch (raise : φ → ε) : Inside (touch raise : Work τ φ ε Unit) :=
  Inside.query raise fun _ => ()

theorem Inside.execute (violated : τ → Option φ) (raise : φ → ε) (update : τ → τ) :
    Inside (execute violated raise update) := by
  intro connection outcome ended h hopen
  obtain ⟨_, _, rfl⟩ | ⟨_, _, _, hact, _, rfl⟩ := of_on_call h
  · exact ⟨hopen, rfl⟩
  · cases hviolated : violated (update connection.store.current) with
    | some fault => simp [hviolated] at hact
    | none =>
      simp only [hviolated, Store.write, hopen, if_true] at hact
      cases hact
      exact ⟨rfl, rfl⟩

theorem Inside.bind (hwork : Inside work) (hnext : ∀ result, Inside (next result)) :
    Inside (work >>= next) := by
  intro connection outcome ended h hopen
  obtain ⟨_, middle, hfirst, hsecond⟩ | ⟨_, hfirst, _⟩ := of_on_bind h
  · obtain ⟨hstill, hdurable⟩ := hwork hfirst hopen
    obtain ⟨hlast, hlastDurable⟩ := hnext _ hsecond hstill
    exact ⟨hlast, hlastDurable.trans hdurable⟩
  · exact hwork hfirst hopen

theorem Inside.forM {ι : Type} {body : ι → Work τ φ ε Unit} (hbody : ∀ i, Inside (body i))
    (list : List ι) : Inside (list.forM body) := by
  induction list with
  | nil => exact Inside.pure ()
  | cons i list ih => exact Inside.bind (hbody i) fun _ => ih

theorem Inside.touches (raise : φ → ε) (count : Nat) :
    Inside (touches raise count : Work τ φ ε Unit) :=
  Inside.forM (fun _ => Inside.touch raise) _

theorem Inside.commits (hwork : Inside work) (done : α) : Commits done work :=
  fun _ _ _ h hopen _ => (hwork h hopen).2

theorem Commits.bind {done : β} (hwork : Inside work) (hnext : ∀ result, Commits done (next result)) :
    Commits done (work >>= next) := by
  intro connection outcome ended h hopen hne
  obtain ⟨_, middle, hfirst, hsecond⟩ | ⟨_, hfirst, _⟩ := of_on_bind h
  · obtain ⟨hstill, hdurable⟩ := hwork hfirst hopen
    exact (hnext _ hsecond hstill hne).trans hdurable
  · exact (hwork hfirst hopen).2

theorem Commits.ite {done : α} {other : Work τ φ ε α} (c : Prop) [Decidable c]
    (hwork : Commits done work) (hother : Commits done other) :
    Commits done (if c then work else other) := by
  by_cases hc : c
  · rwa [if_pos hc]
  · rwa [if_neg hc]

theorem Commits.commit (raise : φ → ε) (done : α) :
    Commits done (commit raise >>= fun _ => pure done : Work τ φ ε α) := by
  intro connection outcome ended h hopen hne
  obtain ⟨_, middle, _, hsecond⟩ | ⟨_, hfirst, _⟩ := of_on_bind h
  · obtain ⟨rfl, _⟩ := Prod.mk.inj hsecond
    exact absurd rfl hne
  · obtain ⟨_, _, rfl⟩ | ⟨_, _, _, _, hok, _⟩ := of_on_call hfirst
    · rfl
    · cases hok

/-- A transaction that does not return `done` leaves the durable tables, and none stays open. -/
theorem transaction_unchanged {done : α} (hwork : Commits done work) {outcome : Except ε α}
    (h : (transaction raise work).on connection = (outcome, ended)) (hne : outcome ≠ .ok done) :
    ended.store.durable = connection.store.durable := by
  obtain ⟨_, middle, hbegin, hguarded⟩ | ⟨_, hbegin, _⟩ := of_on_bind h
  · obtain ⟨_, herror, _⟩ | ⟨_, _, _, hact, _, rfl⟩ := of_on_call hbegin
    · cases herror
    · cases hact
      obtain ⟨left, hleft, rfl⟩ := of_on_guarded hguarded
      have hdurable := hwork hleft rfl hne
      exact hdurable
  · obtain ⟨_, _, rfl⟩ | ⟨_, _, _, _, hok, _⟩ := of_on_call hbegin
    · rfl
    · cases hok

theorem transaction_closed {outcome : Except ε α} (hclosed : connection.store.working = none)
    (h : (transaction raise work).on connection = (outcome, ended)) : ended.store.working = none := by
  obtain ⟨_, middle, hbegin, hguarded⟩ | ⟨_, hbegin, _⟩ := of_on_bind h
  · obtain ⟨left, hleft, rfl⟩ := of_on_guarded hguarded
    rfl
  · obtain ⟨_, _, rfl⟩ | ⟨_, _, _, _, hok, _⟩ := of_on_call hbegin
    · exact hclosed
    · cases hok

/-! ## What successful work has written -/

/-- Inside of a transaction, the work has done `update` to the tables when it succeeds. -/
def Writes (work : Work τ φ ε α) (update : τ → τ) : Prop :=
  ∀ ⦃connection result ended⦄, work.on connection = (.ok result, ended) →
    ∀ ⦃tables⦄, connection.store.working = some tables →
    ended.store = { connection.store with working := some (update tables) }

theorem Writes.pure (result : α) : Writes (pure result : Work τ φ ε α) id := by
  intro connection outcome ended h tables hopen
  cases h
  show connection.store = { connection.store with working := some tables }
  rw [← hopen]

theorem Writes.execute (violated : τ → Option φ) (raise : φ → ε) (update : τ → τ) :
    Writes (execute violated raise update) update := by
  intro connection result ended h tables hopen
  have hcurrent : connection.store.current = tables := by simp [Store.current, hopen]
  obtain ⟨_, herror, _⟩ | ⟨_, _, _, hact, _, rfl⟩ := of_on_call h
  · cases herror
  · rw [hcurrent] at hact
    cases hviolated : violated (update tables) with
    | some fault => simp [hviolated] at hact
    | none =>
      simp only [hviolated, Store.write, hopen, Option.isSome_some, if_true] at hact
      cases hact
      rfl

theorem Writes.bind {first second : τ → τ} (hwork : Writes work first)
    (hnext : ∀ result, Writes (next result) second) : Writes (work >>= next) (second ∘ first) := by
  intro connection result ended h tables hopen
  obtain ⟨_, middle, hfirst, hsecond⟩ | ⟨_, _, herror⟩ := of_on_bind h
  · have hmiddle := hwork hfirst hopen
    have hended := hnext _ hsecond (by rw [hmiddle])
    rw [hended, hmiddle]
    rfl
  · cases herror

theorem Writes.forM {ι : Type} {body : ι → Work τ φ ε Unit} {update : τ → ι → τ}
    (hbody : ∀ i, Writes (body i) fun tables => update tables i) (list : List ι) :
    Writes (list.forM body) fun tables => list.foldl update tables := by
  induction list with
  | nil => exact Writes.pure ()
  | cons i list ih => exact Writes.bind (hbody i) fun _ => ih

/-- What the question has found is what the work goes on with. -/
theorem of_on_query {read : τ → α} {outcome : Except ε β} {tables : τ}
    (h : (query raise read >>= next).on connection = (outcome, ended))
    (hopen : connection.store.working = some tables) :
    (∃ middle, (next (read tables)).on middle = (outcome, ended) ∧ middle.store = connection.store) ∨
    ∃ failure, outcome = .error failure := by
  obtain ⟨_, middle, hfirst, hsecond⟩ | ⟨failure, _, herror⟩ := of_on_bind h
  · obtain ⟨_, herror, _⟩ | ⟨_, _, _, hact, hok, rfl⟩ := of_on_call hfirst
    · cases herror
    · cases hact
      cases hok
      have hcurrent : connection.store.current = tables := by simp [Store.current, hopen]
      rw [hcurrent] at hsecond
      exact Or.inl ⟨_, hsecond, rfl⟩
  · exact Or.inr ⟨failure, herror⟩

theorem of_on_writes {update : τ → τ} {tables : τ} {last : β} (hwork : Writes work update)
    (h : (work >>= next).on connection = (.ok last, ended))
    (hopen : connection.store.working = some tables) :
    ∃ result middle, (next result).on middle = (.ok last, ended) ∧
      middle.store = { connection.store with working := some (update tables) } := by
  obtain ⟨result, middle, hfirst, hsecond⟩ | ⟨_, _, herror⟩ := of_on_bind h
  · exact ⟨result, middle, hsecond, hwork hfirst hopen⟩
  · cases herror

/-- What was written is durable when the work goes on after the commit. -/
theorem of_on_commit {next : Unit → Work τ φ ε β} {tables : τ} {last : β}
    (h : (commit raise >>= next).on connection = (.ok last, ended))
    (hopen : connection.store.working = some tables) :
    ∃ middle, (next ()).on middle = (.ok last, ended) ∧ middle.store = { durable := tables } := by
  obtain ⟨_, middle, hfirst, hsecond⟩ | ⟨_, _, herror⟩ := of_on_bind h
  · obtain ⟨_, herror, _⟩ | ⟨_, _, _, hact, _, rfl⟩ := of_on_call hfirst
    · cases herror
    · cases hact
      refine ⟨_, hsecond, ?_⟩
      show Store.mk connection.store.current none = _
      simp [Store.current, hopen]
  · cases herror

/-- A transaction that succeeds has begun with the durable tables. -/
theorem of_on_transaction (h : (transaction raise work).on connection = (.ok result, ended)) :
    ∃ begun left, begun.store = { durable := connection.store.durable
                                  working := some connection.store.durable } ∧
      work.on begun = (.ok result, left) ∧ ended.store = { durable := left.store.durable } := by
  obtain ⟨_, middle, hbegin, hguarded⟩ | ⟨_, _, herror⟩ := of_on_bind h
  · obtain ⟨_, herror, _⟩ | ⟨_, _, _, hact, _, rfl⟩ := of_on_call hbegin
    · cases herror
    · cases hact
      obtain ⟨left, hleft, rfl⟩ := of_on_guarded hguarded
      exact ⟨_, left, rfl, hleft, rfl⟩
  · cases herror

/-! ## Work without faults -/

/-- On every connection without faults that has these tables, the work ends so. -/
def Yields (work : Work τ φ ε α) (before : Store τ) (outcome : Except ε α) (after : Store τ) : Prop :=
  ∀ ⦃connection : Connection τ φ⦄, connection.store = before →
    (∀ call, connection.faults call = none) →
    ∃ ended, work.on connection = (outcome, ended) ∧ ended.store = after ∧
      ∀ call, ended.faults call = none

variable {before between after : Store τ}

theorem Yields.pure (result : α) : Yields (pure result : Work τ φ ε α) before (.ok result) before :=
  fun connection hstore hnone => ⟨connection, rfl, hstore, hnone⟩

theorem Yields.throw (failure : ε) :
    Yields (throw failure : Work τ φ ε α) before (.error failure) before :=
  fun connection hstore hnone => ⟨connection, rfl, hstore, hnone⟩

theorem Yields.call (raise : φ → ε) (hact : act before = .ok (result, after)) :
    Yields (call raise act) before (.ok result) after := by
  intro connection hstore hnone
  rw [← hstore] at hact
  exact ⟨_, on_call_ok (hnone _) hact, rfl, hnone⟩

theorem Yields.refused {fault : φ} (raise : φ → ε) (hact : act before = .error fault) :
    Yields (Work.call raise act) before (.error (raise fault)) before := by
  intro connection hstore hnone
  rw [← hstore] at hact
  exact ⟨_, on_call_refused (hnone _) hact, hstore, hnone⟩

theorem Yields.query (raise : φ → ε) (read : τ → α) :
    Yields (query raise read) before (.ok (read before.current)) before :=
  Yields.call raise rfl

theorem Yields.touch (raise : φ → ε) : Yields (touch raise) before (.ok ()) before :=
  Yields.call raise rfl

theorem Yields.bind {outcome : Except ε β} (hwork : Yields work before (.ok result) between)
    (hnext : Yields (next result) between outcome after) : Yields (work >>= next) before outcome after := by
  intro connection hstore hnone
  obtain ⟨middle, hmiddle, hbetween, hstill⟩ := hwork hstore hnone
  obtain ⟨ended, hended, hafter, hlast⟩ := hnext hbetween hstill
  exact ⟨ended, (on_bind_ok hmiddle).trans hended, hafter, hlast⟩

theorem Yields.failed (hwork : Yields work before (.error failure) after) :
    Yields (work >>= next) before (.error failure) after := by
  intro connection hstore hnone
  obtain ⟨ended, hended, hafter, hlast⟩ := hwork hstore hnone
  exact ⟨ended, on_bind_error hended, hafter, hlast⟩

theorem Yields.touches (raise : φ → ε) (count : Nat) :
    Yields (touches raise count) before (.ok ()) before := by
  unfold Work.touches
  induction count with
  | zero => exact Yields.pure ()
  | succ count ih => exact Yields.bind (Yields.touch raise) ih

theorem Yields.execute {violated : τ → Option φ} (raise : φ → ε) {update : τ → τ} {tables : τ}
    (hopen : before.working = some tables) (hsound : violated (update tables) = none) :
    Yields (execute violated raise update) before (.ok ())
      { before with working := some (update tables) } := by
  refine Yields.call raise ?_
  have hcurrent : before.current = tables := by simp [Store.current, hopen]
  simp [hcurrent, hsound, Store.write, hopen]

theorem Yields.execute_refused {violated : τ → Option φ} (raise : φ → ε) {update : τ → τ} {fault : φ}
    (hviolated : violated (update before.current) = some fault) :
    Yields (Work.execute violated raise update) before (.error (raise fault)) before := by
  refine Yields.refused raise ?_
  simp [hviolated]

/-- What the statements of a transaction without faults leave is durable when it commits. -/
theorem Yields.commit (raise : φ → ε) {tables : τ} (hopen : before.working = some tables) :
    Yields (Work.commit raise) before (.ok ()) { durable := tables } := by
  refine Yields.call raise ?_
  simp [Store.current, hopen]

theorem Yields.transaction (raise : φ → ε) {tables : τ} {outcome : Except ε α}
    (hwork : Yields work { durable := tables, working := some tables } outcome after) :
    Yields (transaction raise work) { durable := tables } outcome { durable := after.durable } := by
  refine Yields.bind (Yields.call raise rfl) fun connection hstore hnone => ?_
  obtain ⟨ended, hended, hafter, hlast⟩ := hwork hstore hnone
  exact ⟨_, on_guarded hended, by rw [← hafter], hlast⟩

/-- Where no call of the work failed by itself, it did what it does without faults. -/
theorem Yields.of_unfaulted {outcome outcome' : Except ε α} (hyields : Yields work before outcome after)
    (hwork : Regular work) (hstore : connection.store = before)
    (h : work.on connection = (outcome', ended))
    (hnone : connection.Unfaulted connection.calls ended.calls) :
    outcome' = outcome ∧ ended.store = after := by
  have hclear := hwork.faultless h hnone
  obtain ⟨other, hother, hafter, _⟩ :=
    @hyields connection.faultless hstore fun _ => rfl
  obtain ⟨rfl, rfl⟩ := Prod.mk.inj (hclear.symm.trans hother)
  exact ⟨rfl, hafter⟩

/-! ## Attempts -/

variable {retryable : ε → Bool} {left : Nat}

theorem on_retry_ok (h : work.on connection = (.ok result, ended)) :
    (retry retryable work left).on connection = (.ok result, ended) := by
  cases left with
  | zero => exact h
  | succ left =>
    unfold on at h ⊢
    simp only [retry, tryCatch, tryCatchThe, MonadExceptOf.tryCatch, ExceptT.tryCatch, ExceptT.run,
      ExceptT.mk, StateT.run_bind] at h ⊢
    rw [h]
    rfl

theorem on_retry_again (h : work.on connection = (.error failure, middle))
    (hretry : retryable failure = true) :
    (retry retryable work (left + 1)).on connection =
      (retry retryable work left).on middle.paused := by
  unfold on at h ⊢
  simp only [retry, tryCatch, tryCatchThe, MonadExceptOf.tryCatch, ExceptT.tryCatch, ExceptT.run,
    ExceptT.mk, StateT.run_bind] at h ⊢
  rw [h]
  show (if retryable failure then (do pause; retry retryable work left : Work τ φ ε α)
    else throw failure).on middle = _
  rw [if_pos hretry]
  rfl

theorem on_retry_error (h : work.on connection = (.error failure, ended))
    (hretry : retryable failure = false ∨ left = 0) :
    (retry retryable work left).on connection = (.error failure, ended) := by
  cases left with
  | zero => exact h
  | succ left =>
    have hfinal : retryable failure = false := by simpa using hretry
    unfold on at h ⊢
    simp only [retry, tryCatch, tryCatchThe, MonadExceptOf.tryCatch, ExceptT.tryCatch, ExceptT.run,
      ExceptT.mk, StateT.run_bind] at h ⊢
    rw [h]
    show (if retryable failure then (do pause; retry retryable work left : Work τ φ ε α)
      else throw failure).on ended = _
    rw [hfinal]
    rfl

/-- Work that leaves the tables and the environment when it fails. -/
def Restores (work : Work τ φ ε α) : Prop :=
  ∀ ⦃connection failure ended⦄, work.on connection = (.error failure, ended) →
    connection.store.working = none →
    ended = { connection with calls := ended.calls }

theorem afterPauses_paused {calls : Nat} (pauses : Nat) :
    Connection.afterPauses (Connection.paused { connection with calls := calls }) pauses =
      connection.afterPauses (pauses + 1) := by
  induction pauses with
  | zero => rfl
  | succ pauses ih =>
    show connection.others (connection.pauses + 1 + pauses) _ =
      connection.others (connection.pauses + (pauses + 1)) _
    rw [ih, Nat.add_assoc, Nat.add_comm 1 pauses]

/-- Attempts end in the last of them, which finds what the others committed in the pauses before it. -/
theorem of_on_retry {outcome : Except ε α} (hwork : Restores work)
    (hclosed : connection.store.working = none)
    (h : (retry retryable work left).on connection = (outcome, ended)) :
    ∃ pauses found, pauses ≤ left ∧ found.store = { durable := connection.afterPauses pauses } ∧
      found.faults = connection.faults ∧ work.on found = (outcome, ended) := by
  induction left generalizing connection with
  | zero => exact ⟨0, connection, Nat.le_refl _, by rw [← hclosed]; rfl, rfl, h⟩
  | succ left ih =>
    rcases hfirst : work.on connection with ⟨first, middle⟩
    cases first with
    | ok result =>
      rw [on_retry_ok hfirst] at h
      exact ⟨0, connection, Nat.zero_le _, by rw [← hclosed]; rfl, rfl, hfirst.trans h⟩
    | error failure =>
      cases hretry : retryable failure with
      | false =>
        rw [on_retry_error hfirst (Or.inl hretry)] at h
        exact ⟨0, connection, Nat.zero_le _, by rw [← hclosed]; rfl, rfl, hfirst.trans h⟩
      | true =>
        rw [on_retry_again hfirst hretry, hwork hfirst hclosed] at h
        obtain ⟨pauses, found, hpauses, hstore, hfaults, hlast⟩ :=
          @ih (Connection.paused { connection with calls := middle.calls }) hclosed h
        rw [afterPauses_paused] at hstore
        exact ⟨pauses + 1, found, Nat.succ_le_succ hpauses, hstore, hfaults, hlast⟩

/-! ## The effect of whole calls -/

/-- Work that leaves the durable tables inside of a transaction when it fails. -/
def Withdraws (work : Work τ φ ε α) : Prop :=
  ∀ ⦃connection failure ended⦄, work.on connection = (.error failure, ended) →
    connection.store.working.isSome = true → ended.store.durable = connection.store.durable

theorem Inside.withdraws (hwork : Inside work) : Withdraws work :=
  fun _ _ _ h hopen => (hwork h hopen).2

theorem Withdraws.bind (hwork : Inside work) (hnext : ∀ result, Withdraws (next result)) :
    Withdraws (work >>= next) := by
  intro connection failure ended h hopen
  obtain ⟨_, middle, hfirst, hsecond⟩ | ⟨_, hfirst, _⟩ := of_on_bind h
  · obtain ⟨hstill, hdurable⟩ := hwork hfirst hopen
    exact (hnext _ hsecond hstill).trans hdurable
  · exact (hwork hfirst hopen).2

theorem Withdraws.commit (raise : φ → ε) (done : α) :
    Withdraws (commit raise >>= fun _ => pure done : Work τ φ ε α) :=
  fun _ _ _ h hopen => Commits.commit raise done h hopen fun hok => by cases hok

theorem Inside.throw (failure : ε) : Inside (throw failure : Work τ φ ε α) := by
  intro connection outcome ended h hopen
  cases h
  exact ⟨hopen, rfl⟩

theorem transaction_withdrawn {failure : ε} (hwork : Withdraws work)
    (h : (transaction raise work).on connection = (.error failure, ended)) :
    ended.store.durable = connection.store.durable := by
  obtain ⟨_, middle, hbegin, hguarded⟩ | ⟨_, hbegin, _⟩ := of_on_bind h
  · obtain ⟨_, herror, _⟩ | ⟨_, _, _, hact, _, rfl⟩ := of_on_call hbegin
    · cases herror
    · cases hact
      obtain ⟨left, hleft, rfl⟩ := of_on_guarded hguarded
      have hdurable := hwork hleft rfl
      exact hdurable
  · obtain ⟨_, _, rfl⟩ | ⟨_, _, _, _, hok, _⟩ := of_on_call hbegin
    · rfl
    · cases hok

/-- Outside of a transaction, with these tables, work that fails leaves them. -/
def Spares (work : Work τ φ ε α) (tables : τ) : Prop :=
  ∀ ⦃connection failure ended⦄, work.on connection = (.error failure, ended) →
    connection.store = { durable := tables } → ended.store = { durable := tables }

theorem Spares.transaction (hwork : Withdraws work) (tables : τ) :
    Spares (transaction raise work) tables := by
  intro connection failure ended h hstore
  have hdurable := transaction_withdrawn hwork h
  have hstill := transaction_closed (by rw [hstore]) h
  rw [hstore] at hdurable
  exact congrArg₂ Store.mk hdurable hstill

/-- Work that leaves the tables as they are. -/
def Reads (work : Work τ φ ε α) : Prop :=
  ∀ ⦃connection outcome ended⦄, work.on connection = (outcome, ended) → ended.store = connection.store

theorem Reads.pure (result : α) : Reads (pure result : Work τ φ ε α) := by
  intro connection outcome ended h
  cases h
  rfl

theorem Reads.throw (failure : ε) : Reads (throw failure : Work τ φ ε α) := by
  intro connection outcome ended h
  cases h
  rfl

theorem Reads.query (raise : φ → ε) (read : τ → α) : Reads (query raise read) := by
  intro connection outcome ended h
  obtain ⟨_, _, rfl⟩ | ⟨_, _, _, hact, _, rfl⟩ := of_on_call h
  · rfl
  · cases hact
    rfl

theorem Reads.touch (raise : φ → ε) : Reads (touch raise : Work τ φ ε Unit) :=
  Reads.query raise fun _ => ()

theorem Reads.bind (hwork : Reads work) (hnext : ∀ result, Reads (next result)) :
    Reads (work >>= next) := by
  intro connection outcome ended h
  obtain ⟨_, middle, hfirst, hsecond⟩ | ⟨_, hfirst, _⟩ := of_on_bind h
  · exact (hnext _ hsecond).trans (hwork hfirst)
  · exact hwork hfirst

theorem Reads.touches (raise : φ → ε) (count : Nat) :
    Reads (touches raise count : Work τ φ ε Unit) := by
  unfold Work.touches
  induction count with
  | zero => exact Reads.pure ()
  | succ count ih => exact Reads.bind (Reads.touch raise) fun _ => ih

theorem Reads.mapM {ι : Type} {body : ι → Work τ φ ε α} (hbody : ∀ i, Reads (body i))
    (list : List ι) : Reads (list.mapM body) := by
  induction list with
  | nil => exact Reads.pure []
  | cons i list ih =>
    rw [List.mapM_cons]
    exact Reads.bind (hbody i) fun _ => Reads.bind ih fun _ => Reads.pure _

theorem Reads.spares (hwork : Reads work) (tables : τ) : Spares work tables :=
  fun _ _ _ h hstore => (hwork h).trans hstore

/-- A reading part in front of work that spares the tables. -/
theorem Spares.bind {tables : τ} (hwork : Reads work) (hnext : ∀ result, Spares (next result) tables) :
    Spares (work >>= next) tables := by
  intro connection failure ended h hstore
  obtain ⟨_, middle, hfirst, hsecond⟩ | ⟨_, hfirst, _⟩ := of_on_bind h
  · exact hnext _ hsecond ((hwork hfirst).trans hstore)
  · exact (hwork hfirst).trans hstore

/-- A call that the work does not fail after. -/
theorem Spares.call {tables : τ} (hnext : ∀ result store, act { durable := tables } = .ok (result, store) →
    ∃ last, next result = pure last) : Spares (Work.call raise act >>= next) tables := by
  intro connection failure ended h hstore
  obtain ⟨result, middle, hfirst, hsecond⟩ | ⟨_, hfirst, _⟩ := of_on_bind h
  · obtain ⟨_, herror, _⟩ | ⟨_, _, _, hact, hok, rfl⟩ := of_on_call hfirst
    · cases herror
    · rw [hstore] at hact
      obtain ⟨last, hlast⟩ := hnext _ _ hact
      cases hok
      rw [hlast] at hsecond
      cases hsecond
  · obtain ⟨_, _, rfl⟩ | ⟨_, _, _, _, hok, _⟩ := of_on_call hfirst
    · exact hstore
    · cases hok

/-- What the work has done to a connection without an open transaction: it has failed and left the
tables, or it has the outcome and leaves the tables, and does so if no call of it failed by itself. -/
structure Effect (work : Work τ φ ε α) (tables : τ) (outcome : Except ε α) (after : τ) : Prop where
  atomic : ∀ {connection : Connection τ φ} {result ended}, connection.store = { durable := tables } →
    work.on connection = (result, ended) →
    (∃ failure, result = .error failure ∧ ended.store = { durable := tables }) ∨
      result = outcome ∧ ended.store = { durable := after }
  whole : ∀ {connection : Connection τ φ} {result ended}, connection.store = { durable := tables } →
    work.on connection = (result, ended) → connection.Unfaulted connection.calls ended.calls →
    result = outcome ∧ ended.store = { durable := after }

theorem Yields.effect {tables after : τ} {outcome : Except ε α}
    (hyields : Yields work { durable := tables } outcome { durable := after }) (hwork : Regular work)
    (hspares : Spares work tables) : Effect work tables outcome after where
  atomic {connection} {result} {ended} hstore h := by
    cases result with
    | ok result => exact Or.inr (hyields.of_unfaulted hwork hstore h (hwork.unfaulted h))
    | error failure => exact Or.inl ⟨failure, rfl, hspares h hstore⟩
  whole hstore h hnone := hyields.of_unfaulted hwork hstore h hnone

/-- Work that turns every failure into a result of its own. -/
theorem on_caught (work : Work τ φ ε α) (f : α → β) (caught : β) (connection : Connection τ φ) :
    (tryCatch (f <$> work) fun _ => (pure caught : Work τ φ ε β)).on connection =
      (.ok ((work.on connection).1.toOption.elim caught f), (work.on connection).2) := by
  unfold on
  simp only [tryCatch, tryCatchThe, MonadExceptOf.tryCatch, ExceptT.tryCatch, ExceptT.run, ExceptT.mk,
    StateT.run_bind, Functor.map, ExceptT.map]
  rcases StateT.run work connection with ⟨first, middle⟩
  cases first <;> rfl

/-- Reading work that turns every failure into a result of its own leaves the tables. -/
theorem Effect.caught {tables : τ} {outcome : Except ε α} (h : Effect work tables outcome tables)
    {f : α → β} {caught : β} {connection ended : Connection τ φ} {result : Except ε β}
    (hstore : connection.store = { durable := tables })
    (hrun : (tryCatch (f <$> work) fun _ => (pure caught : Work τ φ ε β)).on connection = (result, ended)) :
    ended.store = { durable := tables } ∧
      (result = .ok caught ∨ ∃ value, outcome = .ok value ∧ result = .ok (f value)) ∧
      ((∃ value, outcome = .ok value) → connection.Unfaulted connection.calls ended.calls →
        ∃ value, outcome = .ok value ∧ result = .ok (f value)) := by
  rcases hwork : work.on connection with ⟨first, middle⟩
  have hcaught := on_caught work f caught connection
  rw [hwork] at hcaught
  obtain ⟨rfl, rfl⟩ := Prod.mk.inj (hcaught.symm.trans hrun)
  have hended : middle.store = { durable := tables } := by
    rcases h.atomic hstore hwork with ⟨_, _, hended⟩ | ⟨_, hended⟩
    · exact hended
    · exact hended
  refine ⟨hended, ?_, ?_⟩
  · rcases h.atomic hstore hwork with ⟨_, rfl, _⟩ | ⟨rfl, _⟩
    · exact Or.inl rfl
    · cases first with
      | error failure => exact Or.inl rfl
      | ok value => exact Or.inr ⟨value, rfl, rfl⟩
  · rintro ⟨value, rfl⟩ hnone
    obtain ⟨rfl, _⟩ := h.whole hstore hwork hnone
    exact ⟨value, rfl, rfl⟩

/-! ## Work on a part of the tables -/

variable {σ : Type}

/-- The connection as work on a part of the tables sees it; such work does not pause. -/
def view (part : σ → τ) (connection : Connection σ φ) : Connection τ φ where
  store :=
    { durable := part connection.store.durable, working := connection.store.working.map part }
  calls := connection.calls
  faults := connection.faults

/-- The rest of the tables stays as it is. -/
def focus (part : σ → τ) (replace : τ → σ → σ) (work : Work τ φ ε α) : Work σ φ ε α :=
  fun connection =>
    let ended := work.on (view part connection)
    (ended.1, { connection with
      store :=
        { durable := replace ended.2.store.durable connection.store.durable
          working := ended.2.store.working.map fun tables => replace tables connection.store.current }
      calls := ended.2.calls })

theorem of_on_focus {part : σ → τ} {replace : τ → σ → σ} {connection ended : Connection σ φ}
    {outcome : Except ε α} (h : (focus part replace work).on connection = (outcome, ended)) :
    ∃ left, work.on (view part connection) = (outcome, left) ∧ ended.calls = left.calls ∧
      ended.store.durable = replace left.store.durable connection.store.durable ∧
      ended.store.working =
        left.store.working.map fun tables => replace tables connection.store.current := by
  have hrun : focus part replace work connection = (outcome, ended) := h
  unfold focus at hrun
  obtain ⟨rfl, rfl⟩ := Prod.mk.inj hrun
  exact ⟨_, rfl, rfl, rfl, rfl⟩

theorem Effect.focus {part : σ → τ} {replace : τ → σ → σ} {tables : σ} {after : τ}
    {outcome : Except ε α} (h : Effect work (part tables) outcome after)
    (hsame : replace (part tables) tables = tables) :
    Effect (Work.focus part replace work) tables outcome (replace after tables) := by
  have hview {connection : Connection σ φ} (hstore : connection.store = { durable := tables }) :
      (view part connection).store = { durable := part tables } := by
    simp [view, hstore]
  have hended {connection ended : Connection σ φ} {left : Connection τ φ} {last : τ}
      (hstore : connection.store = { durable := tables }) (hleft : left.store = { durable := last })
      (hdurable : ended.store.durable = replace left.store.durable connection.store.durable)
      (hworking : ended.store.working =
        left.store.working.map fun tables => replace tables connection.store.current) :
      ended.store = { durable := replace last tables } := by
    rw [hleft, hstore] at hdurable
    rw [hleft] at hworking
    exact (congrArg₂ Store.mk hdurable hworking)
  constructor
  · intro connection result ended hstore hrun
    obtain ⟨left, hinner, _, hdurable, hworking⟩ := of_on_focus hrun
    rcases h.atomic (hview hstore) hinner with ⟨failure, rfl, hleft⟩ | ⟨rfl, hleft⟩
    · have hkept := hended hstore hleft hdurable hworking
      rw [hsame] at hkept
      exact Or.inl ⟨failure, rfl, hkept⟩
    · exact Or.inr ⟨rfl, hended hstore hleft hdurable hworking⟩
  · intro connection result ended hstore hrun hnone
    obtain ⟨left, hinner, hcalls, hdurable, hworking⟩ := of_on_focus hrun
    rw [hcalls] at hnone
    obtain ⟨rfl, hleft⟩ := h.whole (hview hstore) hinner hnone
    exact ⟨rfl, hended hstore hleft hdurable hworking⟩

end Work

end DnfServer.Library
