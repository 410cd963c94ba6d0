import DnfServer.Tick.Lifecycle
import DnfServer.Udp.Bookkeeping

/-!
# The UDP sessions of the service

Whatever the service does to a UDP session is one of the session's own operations: it is allocated,
receives datagrams, loses or changes participants, and is popped by the processors. So a property that
these operations keep holds of every session in every state that the service reaches.
-/

namespace DnfServer.Tick

open Std DnfServer.Library DnfServer.Udp
set_option autoImplicit false

/-- A property of a session from its allocation on. -/
structure Persistent (parse : Parse) (P : DungeonUdpSession → Prop) : Prop where
  allocated : ∀ session, Allocated session → P session
  apply : ∀ session op, P session → P (SessionOp.apply parse session op)

def AllSessions (P : DungeonUdpSession → Prop) (u : DungeonUdpManager) : Prop :=
  ∀ (d : DungeonId) (session : DungeonUdpSession), u.sessions[d]? = some session → P session

section

variable {parse : Parse} {P : DungeonUdpSession → Prop} {u : DungeonUdpManager}

theorem AllSessions.insert (h : AllSessions P u) (d : DungeonId) {session : DungeonUdpSession}
    (hs : P session) : AllSessions P { u with sessions := u.sessions.insert d session } := by
  intro e other hother
  rw [ExtTreeMap.getElem?_insert] at hother
  split at hother
  · exact Option.some.inj hother ▸ hs
  · exact h e other hother

theorem AllSessions.onSession {α : Type} (h : AllSessions P u) (d : DungeonId) (missing : α)
    {call : DungeonUdpSession → α × DungeonUdpSession}
    (hc : ∀ session, P session → P (call session).2) :
    AllSessions P (u.onSession d missing call).2 := by
  unfold DungeonUdpManager.onSession
  split
  · exact h
  · rename_i session hd
    exact h.insert d (hc session (h d session hd))

namespace Persistent

theorem received (hp : Persistent parse P) (h : AllSessions P u) (serverTick : UInt32) (d : DungeonId)
    (datagram : DungeonUdpSession.Datagram) :
    AllSessions P (u.handleReceive parse serverTick d datagram).2 :=
  h.onSession d none fun session hs => hp.apply session (.receive serverTick datagram) hs

theorem poppedMovement (hp : Persistent parse P) (h : AllSessions P u) (d : DungeonId) :
    AllSessions P (u.tryPopMovement d).2 :=
  h.onSession d none fun session hs => hp.apply session .tryPopMovement hs

theorem poppedAttack (hp : Persistent parse P) (h : AllSessions P u) (d : DungeonId) :
    AllSessions P (u.tryPopAttack d).2 :=
  h.onSession d none fun session hs => hp.apply session .tryPopAttack hs

theorem disconnected (hp : Persistent parse P) (h : AllSessions P u) (d : DungeonId) (s : SessionId) :
    AllSessions P (u.disconnectParticipant d s).2 := by
  unfold DungeonUdpManager.disconnectParticipant
  split
  · exact h
  · rename_i session hd
    exact h.insert d (hp.apply session (.disconnectParticipant s) (h d session hd))

theorem removedParticipant (hp : Persistent parse P) (h : AllSessions P u) (d : DungeonId)
    (s : SessionId) : AllSessions P (u.removeParticipant d s).2 := by
  unfold DungeonUdpManager.removeParticipant
  split
  · exact h
  · rename_i session hd
    exact h.insert d (hp.apply session (.removeParticipant s) (h d session hd))

theorem refreshed (hp : Persistent parse P) (h : AllSessions P u) (d : DungeonId) (now : Int) :
    AllSessions P (u.refreshAllActivity d now) := by
  unfold DungeonUdpManager.refreshAllActivity
  split
  · exact h
  · rename_i session hd
    exact h.insert d (hp.apply session (.refreshAllActivity now) (h d session hd))

theorem removedInactive (hp : Persistent parse P) (h : AllSessions P u) (d : DungeonId)
    (idleTimeout now : Int) : AllSessions P (u.removeInactiveEndpoints d idleTimeout now).2 := by
  unfold DungeonUdpManager.removeInactiveEndpoints
  split
  · exact h
  · rename_i session hd
    exact h.insert d (hp.apply session (.removeInactiveEndpoints idleTimeout now) (h d session hd))

theorem released (h : AllSessions P u) (d : DungeonId) : AllSessions P (u.release d).2 := by
  unfold DungeonUdpManager.release
  split
  · intro e session hs
    simp only [ExtTreeMap.getElem?_erase] at hs
    split at hs
    · cases hs
    · exact h e session hs
  · exact h

theorem stopped (h : AllSessions P u) : AllSessions P u.stop := by
  unfold DungeonUdpManager.stop
  split
  · exact h
  · intro e session hs
    simp at hs

theorem replaced_attempts (hp : Persistent parse P) (old new : SessionId)
    (draws : List DungeonUdpToken) {session : DungeonUdpSession} (hs : P session) :
    P (DungeonUdpManager.replaceAttempts old new draws session).2 := by
  induction draws generalizing session with
  | nil => exact hs
  | cons token draws ih =>
    have hnext : P (session.replaceParticipant old new token).2 :=
      hp.apply session (.replaceParticipant old new token) hs
    rw [DungeonUdpManager.replaceAttempts]
    split
    · exact ih hs
    · split
      · rename_i session' hr
        rw [hr] at hnext
        exact hnext
      · rename_i session' hr
        rw [hr] at hnext
        exact ih hnext

theorem replaced (hp : Persistent parse P) (h : AllSessions P u) (d : DungeonId) (old new : SessionId)
    (draws : Vector DungeonUdpToken maxTokenAttempts) :
    AllSessions P (u.replaceParticipant d old new draws).2 := by
  unfold DungeonUdpManager.replaceParticipant
  split
  · exact h
  · rename_i session hd
    split
    · exact h
    · exact h.insert d (hp.replaced_attempts old new draws.toList (h d session hd))

theorem opened (hp : Persistent parse P) (h : AllSessions P u) {d : DungeonId}
    {participants : List SessionId} {socket : Option UInt16} {draws : List DungeonUdpToken}
    {out : Option UInt16 × DungeonUdpManager}
    (ho : u.allocate d participants socket draws = some out) : AllSessions P out.2 := by
  rcases allocate_cases ho with rfl | ⟨port, tokens, rfl, -, -, -, rfl⟩
  · exact h
  · refine h.insert d (hp.allocated _ ⟨u, participants, port, draws, _, ho, ?_⟩)
    simp

/-- The calls that several threads make of the two managers. -/
theorem thread {w w' : Threads} {step : ThreadStep} (hp : Persistent parse P)
    (h : AllSessions P w.udp) (hn : w.next step = some w') : AllSessions P w'.udp := by
  have hmanaged {call : Manager.Call} {w₁ : Threads} (hm : w.manage call = some w₁) :
      AllSessions P w₁.udp := (Threads.manage_spec hm).2.1 ▸ h
  cases step with
  | createDungeon s parties catalog partyId templateId now =>
    simp only [Threads.next] at hn
    split at hn
    · cases hn
    simp only [Option.map_eq_some_iff] at hn
    obtain ⟨w₁, hm, rfl⟩ := hn
    have hsame := hmanaged hm
    split <;> exact hsame
  | registerPlayerSession | disconnectPlayerSession =>
    simp only [Threads.next] at hn
    split at hn
    · cases hn
    simp only [Option.map_eq_some_iff] at hn
    obtain ⟨w₁, hm, rfl⟩ := hn
    have hsame := hmanaged hm
    exact hsame
  | cancelDungeon s | rollbackPlayerReconnect s | giveUp s =>
    simp only [Threads.next] at hn
    split at hn
    · simp only [Option.map_eq_some_iff] at hn
      obtain ⟨w₁, hm, rfl⟩ := hn
      have hsame := hmanaged hm
      exact hsame
    · cases hn
  | readParticipants s | findToken s =>
    simp only [Threads.next] at hn
    split at hn
    · obtain rfl := Option.some.inj hn
      exact h
    · cases hn
  | allocate s socket draws =>
    simp only [Threads.next] at hn
    split at hn
    · simp only [Option.map_eq_some_iff] at hn
      obtain ⟨out, ho, rfl⟩ := hn
      exact hp.opened h ho
    · cases hn
  | release s =>
    simp only [Threads.next] at hn
    split at hn
    · obtain rfl := Option.some.inj hn
      exact released h _
    · cases hn
  | replaceParticipant s draws =>
    simp only [Threads.next] at hn
    split at hn
    · obtain rfl := Option.some.inj hn
      exact hp.replaced h _ _ _ _
    · cases hn
  | disconnectParticipant s =>
    simp only [Threads.next] at hn
    split at hn
    · obtain rfl := Option.some.inj hn
      exact hp.disconnected h _ _
    · cases hn
  | tickSweep | tickCancel | tickFinish =>
    simp only [Threads.next] at hn
    split at hn
    · simp only [Option.map_eq_some_iff] at hn
      obtain ⟨w₁, hm, rfl⟩ := hn
      have hsame := hmanaged hm
      exact hsame
    · cases hn
  | tickStart =>
    simp only [Threads.next] at hn
    split at hn
    · exact hmanaged hn
    · cases hn
  | tickRemoveParticipant =>
    simp only [Threads.next] at hn
    split at hn
    · obtain rfl := Option.some.inj hn
      exact hp.removedParticipant h _ _
    · cases hn
  | tickRelease =>
    simp only [Threads.next] at hn
    split at hn
    · obtain rfl := Option.some.inj hn
      exact released h _
    · cases hn

theorem processed (hp : Persistent parse P) {arithmetic : Arithmetic} {skillCatalog : SkillCatalog}
    {enemyCatalog : EnemyCatalog} {d : DungeonId} {order : List SessionId} {server : Server}
    (h : AllSessions P server.managers.udp) :
    AllSessions P (DungeonTickService.processStep arithmetic skillCatalog enemyCatalog d order
      server).managers.udp := by
  have hresolved {e : DungeonId} {server : Server} (h : AllSessions P server.managers.udp) :
      AllSessions P (DungeonCombatProcessor.resolvePendingHits arithmetic e server).managers.udp := by
    unfold DungeonCombatProcessor.resolvePendingHits
    split <;> exact h
  simp only [DungeonTickService.processStep]
  split
  · split <;> exact h
  · split <;> exact hp.poppedMovement h _
  · exact h
  · split
    · split <;> exact h
    · exact h
  · exact h
  · exact hresolved h
  · split
    · exact hp.poppedAttack h _
    · exact hresolved (hp.poppedAttack h _)
  · unfold DungeonCombatProcessor.beginAttack
    split
    · split <;> exact h
    · exact h

end Persistent

/-! ## Every state of the service -/

variable {arithmetic : Arithmetic} {skillCatalog : SkillCatalog} {config : TickConfig} {w w' : Service}

theorem sessions_thread (hp : Persistent parse P) (h : AllSessions P w.threads.udp)
    {step : ThreadStep} {place : TickPlace} (hn : w.thread step place = some w') :
    AllSessions P w'.threads.udp :=
  hp.thread h (thread_spec hn).1

theorem sessions_drain (hp : Persistent parse P) (h : AllSessions P w.threads.udp) {after : Service}
    (hn : w.drain after = some w') (hafter : after.threads = w.threads) :
    AllSessions P w'.threads.udp := by
  rcases drain_cases hn with rfl | ⟨⟨step, hnext⟩, -, -⟩
  · rw [hafter]
    exact h
  · exact hp.thread h hnext

theorem sessions_tick (hp : Persistent parse P) (h : AllSessions P w.threads.udp)
    {reading : TickReading} (hn : w.tick arithmetic skillCatalog config reading = some w') :
    AllSessions P w'.threads.udp := by
  cases hplace : w.place with
  | idle =>
    simp only [Service.tick, hplace, Option.map_eq_some_iff] at hn
    obtain ⟨w₁, hthread, rfl⟩ := hn
    have hafter := sessions_thread hp h hthread
    exact hafter
  | start ids d rest =>
    simp only [Service.tick, hplace, Option.map_eq_some_iff] at hn
    obtain ⟨w₁, hthread, rfl⟩ := hn
    have hafter := sessions_thread hp h hthread
    split <;> exact hafter
  | cancel ids d rest | finishDungeon d rest =>
    simp only [Service.tick, hplace] at hn
    exact sessions_thread hp h hn
  | sweeping | cancelled | released =>
    simp only [Service.tick, hplace] at hn
    exact sessions_drain hp h hn rfl
  | readWaiting | readRunning | readFinished =>
    simp only [Service.tick, hplace] at hn
    rw [(readIds_spec hn).2]
    exact h
  | refresh ids d rest =>
    simp only [Service.tick, hplace] at hn
    obtain rfl := Option.some.inj hn
    exact hp.refreshed h d reading.now
  | running rest =>
    cases rest <;> simp only [Service.tick, hplace] at hn <;> obtain rfl := Option.some.inj hn
    · exact h
    · exact hp.removedInactive h _ _ _
  | processing d rest =>
    simp only [Service.tick, hplace] at hn
    obtain rfl := Option.some.inj hn
    exact hp.processed h
  | waiting ids rest | finished rest =>
    cases rest <;> simp only [Service.tick, hplace] at hn
    all_goals
      repeat' split at hn
      all_goals
        obtain rfl := Option.some.inj hn
        exact h
  | checkRooms d rest rooms =>
    cases rooms <;> simp only [Service.tick, hplace] at hn
    all_goals
      repeat' split at hn
      all_goals
        obtain rfl := Option.some.inj hn
        exact h
  | readPlayers d rest =>
    simp only [Service.tick, hplace] at hn
    repeat' split at hn
    all_goals
      cases hn
      try exact h
  | checkDisconnected | checkAuthenticated | waves | finish | checkState =>
    simp only [Service.tick, hplace] at hn
    repeat' split at hn
    all_goals
      obtain rfl := Option.some.inj hn
      exact h

theorem sessions_next (hp : Persistent parse P) (h : AllSessions P w.threads.udp) {step : ServiceStep}
    (hn : w.next arithmetic skillCatalog config parse step = some w') : AllSessions P w'.threads.udp := by
  cases step with
  | createDungeon s parties partyId templateId now => exact sessions_thread hp h hn
  | request step =>
    simp only [Service.next] at hn
    split at hn
    · exact sessions_thread hp h hn
    · cases hn
  | receive serverTick d datagram =>
    obtain rfl := Option.some.inj hn
    exact hp.received h serverTick d datagram
  | addContent op =>
    obtain rfl := Option.some.inj hn
    exact h
  | stopTick =>
    simp only [Service.next] at hn
    split at hn
    · obtain rfl := Option.some.inj hn
      exact h
    · cases hn
  | stopManager =>
    simp only [Service.next, Option.map_eq_some_iff] at hn
    obtain ⟨threads, hmanage, rfl⟩ := hn
    exact (Threads.manage_spec hmanage).2.1 ▸ h
  | stopUdp =>
    obtain rfl := Option.some.inj hn
    exact Persistent.stopped h
  | tick reading => exact sessions_tick hp h hn

/-- The sessions of every state that the service reaches have what their operations keep. -/
theorem sessions_of_run (hp : Persistent parse P)
    (h : Reachable (Service.next arithmetic skillCatalog config parse) {} w) :
    AllSessions P w.threads.udp := by
  refine reachable_invariant (fun w => AllSessions P w.threads.udp) ?_ ?_ h
  · exact fun w step w' h hn => sessions_next hp h hn
  · intro d session hs
    simp at hs

theorem persistent_bookkept : Persistent parse Bookkept :=
  ⟨fun _ h => bookkept_allocated h, fun _ op h => h.apply parse op⟩

/-- In every state of the service the containers of every UDP session agree, and its readiness test
says that every holder of a token is registered. -/
theorem bookkept_of_service (h : Reachable (Service.next arithmetic skillCatalog config parse) {} w)
    {d : DungeonId} {session : DungeonUdpSession} (hs : w.threads.udp.sessions[d]? = some session) :
    Bookkept session ∧ (session.allParticipantsAuthenticated = true ↔
      ∀ s, s ∈ session.tokens → s ∈ session.endpoints) := by
  have hb := sessions_of_run persistent_bookkept h d session hs
  exact ⟨hb, hb.allParticipantsAuthenticated_iff⟩

end

theorem bookkept_of_service_hall :
    ∃ w session, run hallNext {} hallSteps = some w ∧ w.threads.udp.sessions[1]? = some session ∧
      session.endpoints.toList = [(100, ⟨1, 2⟩)] ∧ Bookkept session ∧
      (session.allParticipantsAuthenticated = true ↔ ∀ s, s ∈ session.tokens → s ∈ session.endpoints) := by
  have hgreeted : ((run hallNext {} hallSteps).bind fun w =>
      (w.threads.udp.sessions[1]?).map (·.endpoints.toList)) = some [(100, ⟨1, 2⟩)] := by decide +kernel
  obtain ⟨w, hr, hsession⟩ := Option.bind_eq_some_iff.mp hgreeted
  obtain ⟨session, hs, hendpoints⟩ := Option.map_eq_some_iff.mp hsession
  exact ⟨w, session, hr, hs, hendpoints, bookkept_of_service ⟨hallSteps, hr⟩ hs⟩

end DnfServer.Tick
