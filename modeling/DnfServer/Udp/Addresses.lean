import DnfServer.Library.Containers
import DnfServer.Udp.Bookkeeping
import DnfServer.Udp.Threads

/-!
# Ports and tokens are never zero

A response that names a port or a token of zero is not valid. The operating system binds no socket to
port zero, and both draws of a token leave out zero; everything else keeps the port of a UDP session
and the tokens that it does not take out.
-/

namespace DnfServer.Udp

open Std DnfServer.Library DungeonUdpManager
set_option autoImplicit false

/-- The port and the tokens of the session can be sent to a client. -/
structure Addressed (session : DungeonUdpSession) : Prop where
  port : session.port ≠ 0
  tokens : ∀ (s : SessionId) (token : DungeonUdpToken), session.tokens[s]? = some token → token ≠ 0

def AllAddressed (u : DungeonUdpManager) : Prop :=
  ∀ (d : DungeonId) (session : DungeonUdpSession), u.sessions[d]? = some session → Addressed session

/-- A socket that is bound to a port of the system's choice has one. -/
def BindsPort : ThreadStep → Prop
  | .allocate _ socket _ => socket ≠ some 0
  | _ => True

instance : (step : ThreadStep) → Decidable (BindsPort step)
  | .allocate _ socket _ => inferInstanceAs (Decidable (socket ≠ some 0))
  | .createDungeon .. | .readParticipants _ | .findToken _ | .cancelDungeon _ | .release _
  | .registerPlayerSession .. | .replaceParticipant .. | .rollbackPlayerReconnect _ | .giveUp ..
  | .disconnectPlayerSession .. | .disconnectParticipant _ | .tickSweep .. | .tickRemoveParticipant
  | .tickStart .. | .tickCancel _ | .tickFinish _ | .tickRelease => isTrue trivial

/-! ## One session -/

namespace Addressed

variable {session session' : DungeonUdpSession}

theorem same (h : Addressed session) (hport : session'.port = session.port)
    (htokens : session'.tokens = session.tokens) : Addressed session' :=
  ⟨hport ▸ h.port, htokens ▸ h.tokens⟩

theorem erase (h : Addressed session) (hport : session'.port = session.port) {s : SessionId}
    (htokens : session'.tokens = session.tokens.erase s) : Addressed session' := by
  refine ⟨hport ▸ h.port, ?_⟩
  rw [htokens]
  exact forall_entries_erase h.tokens

theorem disconnectParticipant (h : Addressed session) (s : SessionId) :
    Addressed (session.disconnectParticipant s).2 := by
  unfold DungeonUdpSession.disconnectParticipant
  split
  · exact h
  · exact h.same rfl rfl

theorem removeParticipant (h : Addressed session) (s : SessionId) :
    Addressed (session.removeParticipant s).2 := by
  unfold DungeonUdpSession.removeParticipant
  split
  · exact h
  · exact h.erase rfl rfl

theorem rotated (h : Addressed session) (old new : SessionId) {token : DungeonUdpToken}
    (ht : token ≠ 0) : Addressed (rotated old new token session) :=
  ⟨h.port, forall_entries_insert (forall_entries_erase h.tokens) ht⟩

theorem replaceAttempts (h : Addressed session) (old new : SessionId) (draws : List DungeonUdpToken) :
    Addressed (DungeonUdpManager.replaceAttempts old new draws session).2 := by
  rcases replaceAttempts_cases old new draws session with he | ⟨token, ht, -, -, -, he⟩ <;> rw [he]
  · exact h
  · exact h.rotated old new ht

theorem handleHello (h : Addressed session) (sender : Endpoint) (now : Int) (hello : UdpHelloMessage) :
    Addressed (session.handleHello sender now hello).2 := by
  unfold DungeonUdpSession.handleHello
  split
  · split
    · exact h.same rfl rfl
    · split
      · exact h.same rfl rfl
      · exact h
  · exact h

theorem handleHeartbeat (h : Addressed session) (sender : Endpoint) (now : Int)
    (heartbeat : UdpHeartbeatMessage) : Addressed (session.handleHeartbeat sender now heartbeat) := by
  unfold DungeonUdpSession.handleHeartbeat
  split
  · exact h.same rfl rfl
  · exact h

theorem handlePlayerMovement (h : Addressed session) (sender : Endpoint) (now : Int)
    (order : List SessionId) (movement : PlayerMovementMessage) :
    Addressed (session.handlePlayerMovement sender now order movement) := by
  unfold DungeonUdpSession.handlePlayerMovement
  dsimp only
  split_ifs
  · exact h
  all_goals exact h.same rfl rfl

theorem handlePlayerAttack (h : Addressed session) (sender : Endpoint) (now : Int)
    (order : List SessionId) (attack : PlayerAttackMessage) :
    Addressed (session.handlePlayerAttack sender now order attack) := by
  unfold DungeonUdpSession.handlePlayerAttack
  dsimp only
  split_ifs
  · exact h
  all_goals exact h.same rfl rfl

theorem handleReceive (h : Addressed session) (parse : Parse) (serverTick : UInt32)
    (datagram : DungeonUdpSession.Datagram) :
    Addressed (session.handleReceive parse serverTick datagram).2 := by
  unfold DungeonUdpSession.handleReceive
  split
  · exact h
  split
  · split
    · exact h.handleHello _ _ _
    · exact h
  split
  · exact h.handlePlayerMovement _ _ _ _
  split
  · exact h.handlePlayerAttack _ _ _ _
  split
  · exact h.handleHeartbeat _ _ _
  · exact h

theorem tryPopMovement (h : Addressed session) : Addressed session.tryPopMovement.2 := by
  unfold DungeonUdpSession.tryPopMovement
  split
  · exact h
  · exact h.same rfl rfl

theorem tryPopAttack (h : Addressed session) : Addressed session.tryPopAttack.2 := by
  unfold DungeonUdpSession.tryPopAttack
  split
  · exact h
  · exact h.same rfl rfl

end Addressed

/-! ## The manager -/

namespace AllAddressed

variable {u : DungeonUdpManager}

theorem onSession {α : Type} (h : AllAddressed u) (d : DungeonId) (missing : α)
    {call : DungeonUdpSession → α × DungeonUdpSession}
    (hc : ∀ session, Addressed session → Addressed (call session).2) :
    AllAddressed (u.onSession d missing call).2 := by
  unfold DungeonUdpManager.onSession
  split
  · exact h
  · rename_i session hd
    exact forall_entries_insert h (hc session (h d session hd))

theorem disconnectParticipant (h : AllAddressed u) (d : DungeonId) (s : SessionId) :
    AllAddressed (u.disconnectParticipant d s).2 := by
  unfold DungeonUdpManager.disconnectParticipant
  split
  · exact h
  · rename_i session hd
    exact forall_entries_insert h ((h d session hd).disconnectParticipant s)

theorem removeParticipant (h : AllAddressed u) (d : DungeonId) (s : SessionId) :
    AllAddressed (u.removeParticipant d s).2 := by
  unfold DungeonUdpManager.removeParticipant
  split
  · exact h
  · rename_i session hd
    exact forall_entries_insert h ((h d session hd).removeParticipant s)

theorem replaceParticipant (h : AllAddressed u) (d : DungeonId) (old new : SessionId)
    (draws : Vector DungeonUdpToken maxTokenAttempts) :
    AllAddressed (u.replaceParticipant d old new draws).2 := by
  unfold DungeonUdpManager.replaceParticipant
  split
  · exact h
  · rename_i session hd
    split
    · exact h
    · exact forall_entries_insert h ((h d session hd).replaceAttempts old new _)

theorem refreshAllActivity (h : AllAddressed u) (d : DungeonId) (now : Int) :
    AllAddressed (u.refreshAllActivity d now) := by
  unfold DungeonUdpManager.refreshAllActivity
  split
  · exact h
  · rename_i session hd
    exact forall_entries_insert h ((h d session hd).same rfl rfl)

theorem removeInactiveEndpoints (h : AllAddressed u) (d : DungeonId) (idleTimeout now : Int) :
    AllAddressed (u.removeInactiveEndpoints d idleTimeout now).2 := by
  unfold DungeonUdpManager.removeInactiveEndpoints
  split
  · exact h
  · rename_i session hd
    refine forall_entries_insert h (removeInactiveEndpoints_keeps ?_ (h d session hd) idleTimeout now)
    exact fun session s hs => hs.same rfl rfl

theorem release (h : AllAddressed u) (d : DungeonId) : AllAddressed (u.release d).2 := by
  unfold DungeonUdpManager.release
  split
  · exact forall_entries_erase h
  · exact h

theorem stop (h : AllAddressed u) : AllAddressed u.stop := by
  unfold DungeonUdpManager.stop
  split
  · exact h
  · intro d session hd
    simp at hd

theorem allocate (h : AllAddressed u) {d : DungeonId} {participants : List SessionId}
    {socket : Option UInt16} {draws : List DungeonUdpToken} {out : Option UInt16 × DungeonUdpManager}
    (hn : u.allocate d participants socket draws = some out) (hs : socket ≠ some 0) :
    AllAddressed out.2 := by
  unfold DungeonUdpManager.allocate at hn
  split at hn
  · obtain rfl := Option.some.inj hn
    exact h
  split at hn
  · obtain rfl := Option.some.inj hn
    exact h
  cases socket with
  | none =>
    obtain rfl := Option.some.inj hn
    exact h
  | some port =>
    obtain ⟨tokens, ht, rfl⟩ := Option.map_eq_some_iff.mp hn
    have hnew : Addressed { dungeonId := d, port, tokens } :=
      ⟨fun hzero => hs (congrArg some hzero), (drawTokens_distinct ht (by simp) (by simp)).1⟩
    intro x session hx
    have hold := h x session
    simp only at hx
    grind

/-- The processors take inputs out of a UDP session and no more. -/
theorem processStep {arithmetic : Arithmetic} {skillCatalog : SkillCatalog} {enemyCatalog : EnemyCatalog}
    {target : DungeonId} {order : List SessionId} {server : Server}
    (h : AllAddressed server.managers.udp) :
    AllAddressed (DungeonTickService.processStep arithmetic skillCatalog enemyCatalog target order
      server).managers.udp := by
  have hresolve (d : DungeonId) (server : Server) :
      (DungeonCombatProcessor.resolvePendingHits arithmetic d server).managers.udp =
        server.managers.udp := by
    unfold DungeonCombatProcessor.resolvePendingHits
    split <;> rfl
  have hbegin (d : DungeonId) (queued : AuthenticatedPlayerAttack) :
      (DungeonCombatProcessor.beginAttack skillCatalog d queued server).managers.udp =
        server.managers.udp := by
    unfold DungeonCombatProcessor.beginAttack
    split
    · split <;> rfl
    · rfl
  have hmovement (d : DungeonId) : AllAddressed (server.managers.udp.tryPopMovement d).2 :=
    h.onSession d none fun session hs => hs.tryPopMovement
  have hattack (d : DungeonId) : AllAddressed (server.managers.udp.tryPopAttack d).2 :=
    h.onSession d none fun session hs => hs.tryPopAttack
  unfold DungeonTickService.processStep
  split
  · split <;> exact h
  · dsimp only
    split <;> exact hmovement _
  · exact h
  · split
    · split <;> exact h
    · exact h
  · exact h
  · rw [hresolve]
    exact h
  · dsimp only
    split
    · exact hattack _
    · rw [hresolve]
      exact hattack _
  · rw [hbegin]
    exact h

/-- A step of the threads, where no socket is bound to port zero. -/
theorem next {w w' : Threads} (h : AllAddressed w.udp) {step : ThreadStep} (hp : BindsPort step)
    (hn : w.next step = some w') : AllAddressed w'.udp := by
  have hmanage {call : Manager.Call} {w₁ : Threads} (hm : w.manage call = some w₁) :
      AllAddressed w₁.udp := by
    rw [(Threads.manage_spec hm).2.1]
    exact h
  cases step with
  | createDungeon s parties catalog partyId templateId now =>
    simp only [Threads.next] at hn
    split at hn
    · cases hn
    obtain ⟨w₁, hm, rfl⟩ := Option.map_eq_some_iff.mp hn
    have hmanaged := hmanage hm
    split <;> exact hmanaged
  | readParticipants s | findToken s =>
    simp only [Threads.next] at hn
    split at hn
    · obtain rfl := Option.some.inj hn
      exact h
    · cases hn
  | allocate s socket draws =>
    simp only [Threads.next] at hn
    split at hn
    · obtain ⟨out, hout, rfl⟩ := Option.map_eq_some_iff.mp hn
      exact h.allocate hout hp
    · cases hn
  | release s =>
    simp only [Threads.next] at hn
    split at hn
    · obtain rfl := Option.some.inj hn
      exact h.release _
    · cases hn
  | replaceParticipant s draws =>
    simp only [Threads.next] at hn
    split at hn
    · obtain rfl := Option.some.inj hn
      exact h.replaceParticipant _ _ _ _
    · cases hn
  | disconnectParticipant s =>
    simp only [Threads.next] at hn
    split at hn
    · obtain rfl := Option.some.inj hn
      exact h.disconnectParticipant _ _
    · cases hn
  | cancelDungeon s | rollbackPlayerReconnect s | giveUp s t order =>
    simp only [Threads.next] at hn
    split at hn
    · obtain ⟨w₁, hm, rfl⟩ := Option.map_eq_some_iff.mp hn
      have hmanaged := hmanage hm
      exact hmanaged
    · cases hn
  | registerPlayerSession s p now grace order | disconnectPlayerSession s t order =>
    simp only [Threads.next] at hn
    split at hn
    · cases hn
    obtain ⟨w₁, hm, rfl⟩ := Option.map_eq_some_iff.mp hn
    have hmanaged := hmanage hm
    exact hmanaged
  | tickSweep now grace lifetime | tickCancel d | tickFinish d =>
    simp only [Threads.next] at hn
    split at hn
    · obtain ⟨w₁, hm, rfl⟩ := Option.map_eq_some_iff.mp hn
      have hmanaged := hmanage hm
      exact hmanaged
    · cases hn
  | tickStart catalog d =>
    simp only [Threads.next] at hn
    split at hn
    · exact hmanage hn
    · cases hn
  | tickRemoveParticipant =>
    simp only [Threads.next] at hn
    split at hn
    · obtain rfl := Option.some.inj hn
      exact h.removeParticipant _ _
    · cases hn
  | tickRelease =>
    simp only [Threads.next] at hn
    split at hn
    · obtain rfl := Option.some.inj hn
      exact h.release _
    · cases hn

end AllAddressed

end DnfServer.Udp
