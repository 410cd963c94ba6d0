import DnfServer.Model.Processors
import DnfServer.Library.Containers

/-!
# What each call of the UDP manager can do

The dungeon manager has to agree with two things of the UDP manager: which dungeons have
a UDP session, and which sessions hold a token there. Each call is described by its
effect on these two. Endpoints, activity and queued inputs play no part.
-/

namespace DnfServer.Udp

open Std DnfServer.Library DungeonUdpManager
set_option autoImplicit false

/-- Session `s` holds a token in the UDP session of dungeon `d`. -/
def HasToken (u : DungeonUdpManager) (d : DungeonId) (s : SessionId) : Prop :=
  ∃ session, u.sessions[d]? = some session ∧ s ∈ DungeonUdpSession.tokens session

instance (u : DungeonUdpManager) (d : DungeonId) (s : SessionId) : Decidable (HasToken u d s) :=
  inferInstanceAs (Decidable (∃ session, u.sessions[d]? = some session ∧
    s ∈ DungeonUdpSession.tokens session))

theorem hasToken_iff {u : DungeonUdpManager} {d : DungeonId} {session : DungeonUdpSession}
    (h : u.sessions[d]? = some session) (s : SessionId) : HasToken u d s ↔ s ∈ session.tokens := by
  simp [HasToken, h]

/-- The token is used by some session of the dungeon. -/
def InUse (session : DungeonUdpSession) (token : DungeonUdpToken) : Prop :=
  ∃ x : SessionId, session.tokens[x]? = some token

theorem any_token_iff (session : DungeonUdpSession) (token : DungeonUdpToken) :
    session.tokens.toList.any (·.2 = token) = true ↔ InUse session token := by
  simp only [List.any_eq_true, decide_eq_true_eq, Prod.exists,
    ExtTreeMap.mem_toList_iff_getElem?_eq_some, InUse]
  constructor
  · rintro ⟨x, y, hx, rfl⟩
    exact ⟨x, hx⟩
  · rintro ⟨x, hx⟩
    exact ⟨x, token, hx, rfl⟩

@[simp] theorem removeParticipantRuntimeState_tokens (s : SessionId) (session : DungeonUdpSession) :
    (session.removeParticipantRuntimeState s).tokens = session.tokens := rfl

/-- What clearing the runtime state of one participant keeps, dropping the idle ones keeps. -/
theorem removeInactiveEndpoints_keeps {P : DungeonUdpSession → Prop}
    (hremove : ∀ session s, P session → P (session.removeParticipantRuntimeState s))
    {session : DungeonUdpSession} (h : P session) (idleTimeout now : Int) :
    P (session.removeInactiveEndpoints idleTimeout now).2 := by
  unfold DungeonUdpSession.removeInactiveEndpoints
  split
  · exact h
  · exact List.foldlRecOn _ _ h fun session hp s _ => hremove session s hp

/-! ## Calls that leave the tokens alone -/

/-- The same UDP sessions, with the same holders of tokens. -/
structure SameTokens (u u' : DungeonUdpManager) : Prop where
  opened : ∀ d, d ∈ u'.sessions ↔ d ∈ u.sessions
  tokens : ∀ d s, HasToken u' d s ↔ HasToken u d s

theorem SameTokens.refl (u : DungeonUdpManager) : SameTokens u u :=
  ⟨fun _ => Iff.rfl, fun _ _ => Iff.rfl⟩

theorem sameTokens_insert {u : DungeonUdpManager} {d : DungeonId} {session : DungeonUdpSession}
    (hd : u.sessions[d]? = some session) (session' : DungeonUdpSession)
    (ht : session'.tokens = session.tokens) :
    SameTokens u { u with sessions := u.sessions.insert d session' } := by
  refine ⟨?_, ?_⟩
  · intro x
    grind
  · intro x s
    simp only [HasToken]
    grind

theorem disconnectParticipant_sameTokens (d : DungeonId) (s : SessionId) (u : DungeonUdpManager) :
    SameTokens u (u.disconnectParticipant d s).2 := by
  unfold disconnectParticipant
  cases hd : u.sessions[d]? with
  | none => exact SameTokens.refl u
  | some session =>
    refine sameTokens_insert hd _ ?_
    unfold DungeonUdpSession.disconnectParticipant
    split <;> rfl

theorem refreshAllActivity_sameTokens (d : DungeonId) (now : Int) (u : DungeonUdpManager) :
    SameTokens u (u.refreshAllActivity d now) := by
  unfold refreshAllActivity
  cases hd : u.sessions[d]? with
  | none => exact SameTokens.refl u
  | some session => exact sameTokens_insert hd _ rfl

theorem removeInactiveEndpoints_sameTokens (d : DungeonId) (idleTimeout now : Int)
    (u : DungeonUdpManager) : SameTokens u (u.removeInactiveEndpoints d idleTimeout now).2 := by
  unfold removeInactiveEndpoints
  cases hd : u.sessions[d]? with
  | none => exact SameTokens.refl u
  | some session =>
    refine sameTokens_insert hd _ ?_
    exact removeInactiveEndpoints_keeps (P := fun v => v.tokens = session.tokens)
      (fun _ _ hv => hv) rfl idleTimeout now

theorem onSession_sameTokens {α : Type} (d : DungeonId) (missing : α)
    {call : DungeonUdpSession → α × DungeonUdpSession}
    (hc : ∀ session, (call session).2.tokens = session.tokens) (u : DungeonUdpManager) :
    SameTokens u (u.onSession d missing call).2 := by
  unfold onSession
  cases hd : u.sessions[d]? with
  | none => exact SameTokens.refl u
  | some session => exact sameTokens_insert hd _ (hc session)

theorem tryPopMovement_sameTokens (d : DungeonId) (u : DungeonUdpManager) :
    SameTokens u (u.tryPopMovement d).2 := by
  refine onSession_sameTokens d none ?_ u
  intro session
  unfold DungeonUdpSession.tryPopMovement
  split <;> rfl

theorem tryPopAttack_sameTokens (d : DungeonId) (u : DungeonUdpManager) :
    SameTokens u (u.tryPopAttack d).2 := by
  refine onSession_sameTokens d none ?_ u
  intro session
  unfold DungeonUdpSession.tryPopAttack
  split <;> rfl

theorem handleHello_tokens (sender : Endpoint) (now : Int) (hello : UdpHelloMessage)
    (session : DungeonUdpSession) :
    (session.handleHello sender now hello).2.tokens = session.tokens := by
  unfold DungeonUdpSession.handleHello
  split
  · split
    · rfl
    · split <;> rfl
  · rfl

theorem handleHeartbeat_tokens (sender : Endpoint) (now : Int) (heartbeat : UdpHeartbeatMessage)
    (session : DungeonUdpSession) :
    (session.handleHeartbeat sender now heartbeat).tokens = session.tokens := by
  unfold DungeonUdpSession.handleHeartbeat
  split <;> rfl

theorem handlePlayerMovement_tokens (sender : Endpoint) (now : Int) (order : List SessionId)
    (movement : PlayerMovementMessage) (session : DungeonUdpSession) :
    (session.handlePlayerMovement sender now order movement).tokens = session.tokens := by
  unfold DungeonUdpSession.handlePlayerMovement
  simp only
  split
  · rfl
  · split
    · rfl
    · split <;> rfl

theorem handlePlayerAttack_tokens (sender : Endpoint) (now : Int) (order : List SessionId)
    (attack : PlayerAttackMessage) (session : DungeonUdpSession) :
    (session.handlePlayerAttack sender now order attack).tokens = session.tokens := by
  unfold DungeonUdpSession.handlePlayerAttack
  simp only
  split
  · rfl
  · split
    · rfl
    · split <;> rfl

/-- No datagram changes a token. -/
theorem handleReceive_tokens (parse : Parse) (serverTick : UInt32)
    (datagram : DungeonUdpSession.Datagram) (session : DungeonUdpSession) :
    (session.handleReceive parse serverTick datagram).2.tokens = session.tokens := by
  unfold DungeonUdpSession.handleReceive
  split
  · rfl
  · split
    · split
      · exact handleHello_tokens _ _ _ _
      · rfl
    · split
      · exact handlePlayerMovement_tokens _ _ _ _ _
      · split
        · exact handlePlayerAttack_tokens _ _ _ _ _
        · split
          · exact handleHeartbeat_tokens _ _ _ _
          · rfl

theorem handleReceive_sameTokens (parse : Parse) (serverTick : UInt32) (d : DungeonId)
    (datagram : DungeonUdpSession.Datagram) (u : DungeonUdpManager) :
    SameTokens u (u.handleReceive parse serverTick d datagram).2 :=
  onSession_sameTokens d none (handleReceive_tokens parse serverTick datagram) u

/-! ## Removing participants and dungeons -/

theorem removeParticipant_opened (d : DungeonId) (s : SessionId) (u : DungeonUdpManager)
    (x : DungeonId) : x ∈ (u.removeParticipant d s).2.sessions ↔ x ∈ u.sessions := by
  unfold removeParticipant
  cases hd : u.sessions[d]? with
  | none => exact Iff.rfl
  | some session =>
    simp only
    grind

theorem removeParticipant_tokens (d : DungeonId) (s : SessionId) (u : DungeonUdpManager)
    (x : DungeonId) (y : SessionId) :
    HasToken (u.removeParticipant d s).2 x y ↔ HasToken u x y ∧ ¬ (x = d ∧ y = s) := by
  unfold removeParticipant
  cases hd : u.sessions[d]? with
  | none =>
    simp only [HasToken]
    grind
  | some session =>
    simp only [HasToken, DungeonUdpSession.removeParticipant]
    split
    · grind
    · simp only [removeParticipantRuntimeState_tokens]
      grind

theorem release_opened (d : DungeonId) (u : DungeonUdpManager) (x : DungeonId) :
    x ∈ (u.release d).2.sessions ↔ x ∈ u.sessions ∧ x ≠ d := by
  unfold release
  split
  · simp only
    grind
  · simp only
    grind

theorem release_tokens (d : DungeonId) (u : DungeonUdpManager) (x : DungeonId) (y : SessionId) :
    HasToken (u.release d).2 x y ↔ HasToken u x y ∧ x ≠ d := by
  unfold release
  split
  · simp only [HasToken]
    grind
  · simp only [HasToken]
    grind

/-- The loop over the removed participants of a sweep. -/
theorem removeParticipants_spec (removed : List AbandonedDungeonParticipant)
    (u : DungeonUdpManager) :
    (∀ x, x ∈ (removed.foldl (fun udp participant =>
        (udp.removeParticipant participant.dungeonId participant.sessionId).2) u).sessions ↔
      x ∈ u.sessions) ∧
    ∀ x y, HasToken (removed.foldl (fun udp participant =>
        (udp.removeParticipant participant.dungeonId participant.sessionId).2) u) x y ↔
      HasToken u x y ∧ ⟨x, y⟩ ∉ removed := by
  induction removed generalizing u with
  | nil => simp
  | cons participant rest ih =>
    obtain ⟨d, s⟩ := participant
    obtain ⟨ho, ht⟩ := ih (u.removeParticipant d s).2
    simp only [List.foldl_cons]
    refine ⟨?_, ?_⟩
    · intro x
      rw [ho, removeParticipant_opened]
    · intro x y
      rw [ht, removeParticipant_tokens]
      simp only [List.mem_cons, AbandonedDungeonParticipant.mk.injEq]
      grind

/-- The loop over the released dungeons of a sweep. -/
theorem releaseDungeons_spec (released : List DungeonId) (u : DungeonUdpManager) :
    (∀ x, x ∈ (released.foldl (fun udp d => (udp.release d).2) u).sessions ↔
      x ∈ u.sessions ∧ x ∉ released) ∧
    ∀ x y, HasToken (released.foldl (fun udp d => (udp.release d).2) u) x y ↔
      HasToken u x y ∧ x ∉ released := by
  induction released generalizing u with
  | nil => simp
  | cons d rest ih =>
    obtain ⟨ho, ht⟩ := ih (u.release d).2
    simp only [List.foldl_cons]
    refine ⟨?_, ?_⟩
    · intro x
      rw [ho, release_opened]
      simp only [List.mem_cons]
      grind
    · intro x y
      rw [ht, release_tokens]
      simp only [List.mem_cons]
      grind

/-! ## Rotating a token -/

/-- The UDP session once the token of `old` has gone to `new`. -/
def rotated (old new : SessionId) (token : DungeonUdpToken) (session : DungeonUdpSession) :
    DungeonUdpSession :=
  { session.removeParticipantRuntimeState old with
    tokens := (session.tokens.erase old).insert new token }

/-- One attempt succeeds with any token that is nonzero and not in use. -/
theorem replaceParticipant_eq {session : DungeonUdpSession} {old new : SessionId}
    (hold : old ∈ session.tokens) (hnew : new ∉ session.tokens) (h0 : old ≠ 0) (hn0 : new ≠ 0)
    {token : DungeonUdpToken} (ht : token ≠ 0) (hu : ¬ InUse session token) :
    session.replaceParticipant old new token = (true, rotated old new token session) := by
  have hne : old ≠ new := fun h => hnew (h ▸ hold)
  have hany : ¬ session.tokens.toList.any (·.2 = token) := by rwa [any_token_iff]
  rw [DungeonUdpSession.replaceParticipant, if_neg (by simp [h0, hn0, ht, hne]),
    if_neg (by simp [hold, hnew]), if_neg hany]
  simp only [rotated, removeParticipantRuntimeState_tokens]
  congr 2
  ext k v
  grind

theorem replaceParticipant_refused {session : DungeonUdpSession} {old new : SessionId}
    {token : DungeonUdpToken}
    (h : old ∉ session.tokens ∨ new ∈ session.tokens ∨ old = 0 ∨ new = 0 ∨ InUse session token) :
    session.replaceParticipant old new token = (false, session) := by
  unfold DungeonUdpSession.replaceParticipant
  split
  · rfl
  · rename_i h1
    split
    · rfl
    · rename_i h2
      rw [if_pos]
      rw [any_token_iff]
      grind

theorem replaceAttempts_cases (old new : SessionId) (draws : List DungeonUdpToken)
    (session : DungeonUdpSession) :
    replaceAttempts old new draws session = (none, session) ∨
    ∃ token, token ≠ 0 ∧ ¬ InUse session token ∧ old ∈ session.tokens ∧ new ∉ session.tokens ∧
      replaceAttempts old new draws session = (some token, rotated old new token session) := by
  induction draws with
  | nil => exact Or.inl rfl
  | cons token rest ih =>
    rw [replaceAttempts]
    split
    · exact ih
    · rename_i ht
      by_cases h : old ∉ session.tokens ∨ new ∈ session.tokens ∨ old = 0 ∨ new = 0 ∨
          InUse session token
      · rw [replaceParticipant_refused h]
        exact ih
      · simp only [not_or, not_not] at h
        obtain ⟨hold, hnew, h0, hn0, hu⟩ := h
        rw [replaceParticipant_eq hold hnew h0 hn0 ht hu]
        exact Or.inr ⟨token, ht, hu, hold, hnew, rfl⟩

/-- The attempts fail only when every draw is zero or in use. -/
theorem replaceAttempts_none {session : DungeonUdpSession} {old new : SessionId}
    (hold : old ∈ session.tokens) (hnew : new ∉ session.tokens) (h0 : old ≠ 0) (hn0 : new ≠ 0)
    {draws : List DungeonUdpToken} (h : (replaceAttempts old new draws session).1 = none) :
    ∀ token ∈ draws, token = 0 ∨ InUse session token := by
  induction draws with
  | nil => simp
  | cons token rest ih =>
    rw [replaceAttempts] at h
    have hall : (token = 0 ∨ InUse session token) ∧
        (replaceAttempts old new rest session).1 = none := by
      split at h
      · rename_i ht
        exact ⟨Or.inl ht, h⟩
      · rename_i ht
        by_cases hu : InUse session token
        · rw [replaceParticipant_refused (Or.inr (Or.inr (Or.inr (Or.inr hu))))] at h
          exact ⟨Or.inr hu, h⟩
        · rw [replaceParticipant_eq hold hnew h0 hn0 ht hu] at h
          cases h
    intro x hx
    rcases List.mem_cons.mp hx with rfl | hx
    · exact hall.1
    · exact ih hall.2 x hx

/-- What `ReplaceParticipant` can do. -/
theorem replaceParticipant_cases (d : DungeonId) (old new : SessionId)
    (draws : Vector DungeonUdpToken maxTokenAttempts) (u : DungeonUdpManager) :
    u.replaceParticipant d old new draws = (none, u) ∨
    ∃ token session, u.sessions[d]? = some session ∧ old ∈ session.tokens ∧ new ∉ session.tokens ∧
      u.replaceParticipant d old new draws =
        (some token, { u with sessions := u.sessions.insert d (rotated old new token session) }) := by
  unfold replaceParticipant
  cases hd : u.sessions[d]? with
  | none => exact Or.inl rfl
  | some session =>
    simp only
    split
    · exact Or.inl rfl
    · rcases replaceAttempts_cases old new draws.toList session with
        he | ⟨token, -, -, hold, hnew, he⟩
      · rw [he, insert_self hd]
        exact Or.inl rfl
      · rw [he]
        exact Or.inr ⟨token, session, rfl, hold, hnew, rfl⟩

theorem replaceParticipant_none {u : DungeonUdpManager} {d : DungeonId} {session : DungeonUdpSession}
    (hd : u.sessions[d]? = some session) {old new : SessionId} (hold : old ∈ session.tokens)
    (hnew : new ∉ session.tokens) (h0 : old ≠ 0) (hn0 : new ≠ 0)
    {draws : Vector DungeonUdpToken maxTokenAttempts}
    (h : (u.replaceParticipant d old new draws).1 = none) :
    ∀ token ∈ draws.toList, token = 0 ∨ InUse session token := by
  have hguard : ¬ ((session.findToken old).isNone ∨ (session.findToken new).isSome) := by
    simp only [DungeonUdpSession.findToken]
    grind
  simp only [DungeonUdpManager.replaceParticipant, hd, if_neg hguard] at h
  exact replaceAttempts_none hold hnew h0 hn0 h

/-- The holders of tokens after a rotation. -/
theorem rotated_tokens {u : DungeonUdpManager} {d : DungeonId} {session : DungeonUdpSession}
    (hd : u.sessions[d]? = some session) (old new : SessionId) (token : DungeonUdpToken)
    (x : DungeonId) (y : SessionId) :
    HasToken { u with sessions := u.sessions.insert d (rotated old new token session) } x y ↔
      (x = d ∧ y = new) ∨ (HasToken u x y ∧ ¬ (x = d ∧ y = old)) := by
  simp only [HasToken, rotated]
  grind

/-! ## Allocating a UDP session -/

theorem drawTokens_mem {participants : List SessionId} {usedTokens draws : List DungeonUdpToken}
    {tokens result : IdMap DungeonUdpToken}
    (h : drawTokens participants usedTokens tokens draws = some result) (s : SessionId) :
    s ∈ result ↔ s ∈ participants ∨ s ∈ tokens := by
  induction participants generalizing usedTokens draws tokens with
  | nil =>
    obtain rfl := Option.some.inj h
    simp
  | cons x rest ih =>
    simp only [drawTokens, Option.bind_eq_some_iff] at h
    obtain ⟨⟨token, draws⟩, -, h⟩ := h
    rw [ih h]
    grind

/-- What `Allocate` can do once its loops have ended. -/
theorem allocate_cases {d : DungeonId} {participants : List SessionId} {socket : Option UInt16}
    {draws : List DungeonUdpToken} {u : DungeonUdpManager} {out : Option UInt16 × DungeonUdpManager}
    (h : u.allocate d participants socket draws = some out) :
    out = (none, u) ∨
    ∃ port tokens, socket = some port ∧ participants ≠ [] ∧ d ∉ u.sessions ∧
      (∀ s, s ∈ tokens ↔ s ∈ participants) ∧
      out = (some port,
        { u with sessions := u.sessions.insert d { dungeonId := d, port, tokens } }) := by
  unfold allocate at h
  split at h
  · exact Or.inl (Option.some.inj h).symm
  · rename_i h1
    split at h
    · exact Or.inl (Option.some.inj h).symm
    · cases socket with
      | none => exact Or.inl (Option.some.inj h).symm
      | some port =>
        simp only [Option.map_eq_some_iff] at h
        obtain ⟨tokens, ht, rfl⟩ := h
        refine Or.inr ⟨port, tokens, rfl, by simp_all, by simp_all, ?_, ?_⟩
        · intro s
          simpa using drawTokens_mem ht s
        · have hnew : d ∉ u.sessions := by simp_all
          congr 2
          ext k v
          grind

end DnfServer.Udp
