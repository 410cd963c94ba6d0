import DnfServer.Library.Runs

/-!
# Frames in a stream of bytes

A reader takes bytes in pieces and is asked for frames in between. It is given by what it does
with new bytes and with the question for the next frame; its record keeps what went in and what
came out. The simplest reader is the queue of the bytes not yet used. Two readers whose steps
correspond give the same answers. A queue whose `pop` finds a whole frame at the front,
and waits for the rest of a part of one, returns the frames of the stream in order however the
stream is cut.
-/

namespace DnfServer.Library

inductive StreamOp (β : Type) where
  | append (data : List β)
  | pop
  deriving DecidableEq, Repr

/-- A reader with all bytes that went in and the answers that came out. -/
structure Reader (σ β α : Type) where
  state : σ
  appended : List β := []
  answers : List α := []
  deriving DecidableEq

namespace Reader

variable {σ τ β α α' ω : Type}

def next (append : List β → σ → σ) (pop : σ → α × σ) (reader : Reader σ β α) :
    StreamOp β → Option (Reader σ β α)
  | .append data => some { reader with
      state := append data reader.state
      appended := reader.appended ++ data }
  | .pop => some { reader with
      state := (pop reader.state).2
      answers := reader.answers ++ [(pop reader.state).1] }

variable {append : List β → σ → σ} {pop : σ → α × σ} {append' : List β → τ → τ} {pop' : τ → α' × τ}

/-- Every list of operations has a run. -/
theorem run_isSome (ops : List (StreamOp β)) :
    ∀ reader : Reader σ β α, ∃ reader', run (next append pop) reader ops = some reader' := by
  induction ops with
  | nil => exact fun reader => ⟨reader, rfl⟩
  | cons op ops ih =>
    intro reader
    cases op with
    | append data => exact ih _
    | pop => exact ih _

/-- The readers are in corresponding states after the same bytes and the same answers, up to
the views on both sides. -/
structure Related (R : σ → τ → Prop) (view : α → ω) (view' : α' → ω) (reader : Reader σ β α)
    (reader' : Reader τ β α') : Prop where
  state : R reader.state reader'.state
  appended : reader.appended = reader'.appended
  answers : reader.answers.map view = reader'.answers.map view'

/-- Two readers whose steps correspond stay related. -/
theorem run_related {R : σ → τ → Prop} {view : α → ω} {view' : α' → ω}
    (happend : ∀ (data : List β) (s : σ) (t : τ), R s t → R (append data s) (append' data t))
    (hpop : ∀ (s : σ) (t : τ), R s t →
      view (pop s).1 = view' (pop' t).1 ∧ R (pop s).2 (pop' t).2)
    {ops : List (StreamOp β)} :
    ∀ {reader last : Reader σ β α} {reader' last' : Reader τ β α'},
      Related R view view' reader reader' → run (next append pop) reader ops = some last →
      run (next append' pop') reader' ops = some last' → Related R view view' last last' := by
  induction ops with
  | nil =>
    intro reader last reader' last' h hrun hrun'
    obtain rfl := Option.some.inj hrun
    obtain rfl := Option.some.inj hrun'
    exact h
  | cons op ops ih =>
    intro reader last reader' last' h hrun hrun'
    obtain ⟨middle, hn, hrun⟩ := run_cons.mp hrun
    obtain ⟨middle', hn', hrun'⟩ := run_cons.mp hrun'
    refine ih ?_ hrun hrun'
    cases op with
    | append data =>
      obtain rfl := Option.some.inj hn
      obtain rfl := Option.some.inj hn'
      refine ⟨happend data _ _ h.state, ?_, h.answers⟩
      simp only [h.appended]
    | pop =>
      obtain rfl := Option.some.inj hn
      obtain rfl := Option.some.inj hn'
      obtain ⟨hview, hR⟩ := hpop _ _ h.state
      refine ⟨hR, h.appended, ?_⟩
      simp only [List.map_append, List.map_cons, List.map_nil, h.answers, hview]

end Reader

/-! ## Frames -/

variable {β μ φ ε : Type}

/-- The frames among the answers. -/
def framesOf (answers : List (Except ε (Option φ))) : List φ :=
  answers.filterMap fun answer => match answer with
    | .ok frame => frame
    | .error _ => none

/-- A whole message at the front is found as its frame, and a part of one is left alone. -/
structure Frames (frame : μ → φ) (encode : μ → List β)
    (pop : List β → Except ε (Option φ) × List β) : Prop where
  empty : pop [] = (.ok none, [])
  whole : ∀ (message : μ) (rest : List β),
    pop (encode message ++ rest) = (.ok (some (frame message)), rest)
  part : ∀ (message : μ) (queue : List β), queue <+: encode message → queue ≠ encode message →
    pop queue = (.ok none, queue)

namespace Frames

variable {frame : μ → φ} {encode : μ → List β} {pop : List β → Except ε (Option φ) × List β}
  {messages sent rest : List μ} {reader reader' : Reader (List β) β (Except ε (Option φ))}

/-- The reader that keeps the bytes themselves. -/
abbrev next (pop : List β → Except ε (Option φ) × List β) :
    Reader (List β) β (Except ε (Option φ)) → StreamOp β →
      Option (Reader (List β) β (Except ε (Option φ))) :=
  Reader.next (fun data queue => queue ++ data) pop

/-- The answers so far are the frames of the messages in front of the rest, and the queue
continues them. -/
structure Following (frame : μ → φ) (encode : μ → List β) (sent rest : List μ)
    (reader : Reader (List β) β (Except ε (Option φ))) : Prop where
  answers : framesOf reader.answers = sent.map frame
  accepted : ∀ answer ∈ reader.answers, ∃ found, answer = .ok found
  appended : reader.appended = sent.flatMap encode ++ reader.state

/-- The step of an answer without a frame. -/
theorem Following.skip (hf : Following frame encode sent rest reader) {state : List β}
    (hs : state = reader.state) : Following frame encode sent rest
      { reader with state, answers := reader.answers ++ [.ok none] } := by
  refine ⟨?_, ?_, ?_⟩
  · simpa [framesOf] using hf.answers
  · simpa [or_imp, forall_and] using hf.accepted
  · simpa [hs] using hf.appended

/-- The step of an answer with the next frame. -/
theorem Following.take {message : μ} {state : List β}
    (hf : Following frame encode sent (message :: rest) reader)
    (hs : reader.state = encode message ++ state) :
    Following frame encode (sent ++ [message]) rest
      { reader with state, answers := reader.answers ++ [.ok (some (frame message))] } := by
  refine ⟨?_, ?_, ?_⟩
  · simpa [framesOf] using hf.answers
  · simpa [or_imp, forall_and] using hf.accepted
  · simpa [hs] using hf.appended

/-- What the next question finds in the queue. -/
theorem pop_cases (h : Frames frame encode pop) {queue : List β}
    (hq : queue <+: rest.flatMap encode) :
    pop queue = (.ok none, queue) ∨ ∃ (message : μ) (others : List μ) (queue' : List β),
      rest = message :: others ∧ queue = encode message ++ queue' ∧
        pop queue = (.ok (some (frame message)), queue') := by
  cases rest with
  | nil =>
    obtain rfl : queue = [] := List.prefix_nil.mp hq
    exact Or.inl h.empty
  | cons message others =>
    rw [List.flatMap_cons] at hq
    by_cases hwhole : encode message <+: queue
    · obtain ⟨queue', rfl⟩ := hwhole
      exact Or.inr ⟨message, others, queue', rfl, rfl, h.whole message queue'⟩
    · refine Or.inl (h.part message queue ?_ ?_)
      · rcases List.prefix_or_prefix_of_prefix hq (List.prefix_append _ _) with hpart | hover
        · exact hpart
        · exact absurd hover hwhole
      · rintro rfl
        exact hwhole List.prefix_rfl

theorem following_next (h : Frames frame encode pop) {op : StreamOp β}
    (hfollow : reader.appended <+: messages.flatMap encode →
      ∃ sent rest, messages = sent ++ rest ∧ Following frame encode sent rest reader)
    (hn : next pop reader op = some reader')
    (hb : reader'.appended <+: messages.flatMap encode) :
    ∃ sent rest, messages = sent ++ rest ∧ Following frame encode sent rest reader' := by
  cases op with
  | append data =>
    obtain rfl := Option.some.inj hn
    obtain ⟨sent, rest, rfl, hf⟩ := hfollow ((List.prefix_append _ _).trans hb)
    refine ⟨sent, rest, rfl, hf.answers, hf.accepted, ?_⟩
    simp only [hf.appended, List.append_assoc]
  | pop =>
    obtain rfl := Option.some.inj hn
    obtain ⟨sent, rest, rfl, hf⟩ := hfollow hb
    have hq : reader.state <+: rest.flatMap encode := by
      simp only [hf.appended, List.flatMap_append] at hb
      exact (List.prefix_append_right_inj _).mp hb
    rcases h.pop_cases hq with hnone | ⟨message, others, queue', rfl, hqueue, hsome⟩
    · rw [hnone]
      exact ⟨sent, rest, rfl, hf.skip rfl⟩
    · rw [hsome]
      exact ⟨sent ++ [message], others, by simp, hf.take hqueue⟩

/-- However a stream of messages is cut, the answers so far are the first frames of it. -/
theorem following_of_run (h : Frames frame encode pop) {ops : List (StreamOp β)}
    (hr : run (next pop) ⟨[], [], []⟩ ops = some reader)
    (hb : reader.appended <+: messages.flatMap encode) :
    ∃ sent rest, messages = sent ++ rest ∧ Following frame encode sent rest reader := by
  refine reachable_invariant (fun reader => reader.appended <+: messages.flatMap encode →
    ∃ sent rest, messages = sent ++ rest ∧ Following frame encode sent rest reader) ?_ ?_ ⟨ops, hr⟩ hb
  · intro reader op reader' hfollow hn
    exact h.following_next hfollow hn
  · exact fun _ => ⟨[], messages, rfl, rfl, fun _ ha => absurd ha List.not_mem_nil, rfl⟩

/-- With the whole stream in, the queue holds exactly the messages left. -/
theorem Following.state_eq (hf : Following frame encode sent rest reader)
    (hall : reader.appended = (sent ++ rest).flatMap encode) : reader.state = rest.flatMap encode := by
  have happended := hf.appended
  rw [hall, List.flatMap_append, List.append_cancel_left_eq] at happended
  exact happended.symm

/-- With the whole stream in, the questions left return the messages left and empty the queue. -/
theorem run_pops (h : Frames frame encode pop) :
    ∀ {sent : List μ} {reader : Reader (List β) β (Except ε (Option φ))},
      Following frame encode sent rest reader →
      reader.appended = (sent ++ rest).flatMap encode →
      ∃ last, run (next pop) reader (List.replicate rest.length .pop) = some last ∧
        Following frame encode (sent ++ rest) [] last ∧
        last.appended = (sent ++ rest).flatMap encode := by
  induction rest with
  | nil =>
    intro sent reader hf hall
    rw [List.append_nil] at hall ⊢
    exact ⟨reader, rfl, hf, hall⟩
  | cons message others ih =>
    intro sent reader hf hall
    have hstate := hf.state_eq hall
    have hpop := h.whole message (others.flatMap encode)
    rw [List.flatMap_cons] at hstate
    rw [← hstate] at hpop
    rw [List.append_cons] at hall ⊢
    obtain ⟨last, hrun, hlast⟩ := ih (hf.take hstate) hall
    refine ⟨last, run_cons.mpr ⟨_, ?_, hrun⟩, hlast⟩
    simp only [next, Reader.next, hpop]

/-- With the whole stream in, a question finds nothing only when all frames have come out. -/
theorem rest_eq_nil (h : Frames frame encode pop) (hf : Following frame encode sent rest reader)
    (hall : reader.appended = (sent ++ rest).flatMap encode)
    (hnone : (pop reader.state).1 = .ok none) : rest = [] := by
  rw [hf.state_eq hall] at hnone
  cases rest with
  | nil => rfl
  | cons message others =>
    rw [List.flatMap_cons, h.whole] at hnone
    cases hnone

end Frames

end DnfServer.Library
