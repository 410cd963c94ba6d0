import DnfServer.Model.ConnectionInfo
import DnfServer.Parties.Membership
import DnfServer.Tick.Lifecycle
import DnfServer.Udp.Addresses

/-!
# Finding one's dungeon again

A session asks where its dungeon is. Its party and the dungeons that know it can go different ways:
it leaves the party and joins another, or it takes a slot back without being in any. The request asks
the party first and turns to the dungeons only when the party has none, so a party whose dungeon does
not know the session hides the one that does.
-/

namespace DnfServer.Parties

open Std DnfServer.Library DnfServer.Manager DnfServer.Tick DnfServer.Udp
open PacketDispatcher (connectionDungeon connectionInfo handleDungeonConnectionInfoRequest)
set_option autoImplicit false

/-- The parties beside the tick and the requests. `CreateDungeon` reads a party before it takes the
lock of its manager, so it may use one of the past. -/
structure GameServer where
  service : Service := {}
  lobby : PartyHistory := {}
  pastParties : List PartyManager := []

inductive GameStep where
  | party (call : PartyCall)
  | service (step : ServiceStep)

namespace GameServer

def Possible (w : GameServer) : ServiceStep → Prop
  | .createDungeon _ parties _ _ _ => parties ∈ w.lobby.parties :: w.pastParties
  | .request step => BindsPort step
  | _ => True

instance (w : GameServer) : (step : ServiceStep) → Decidable (w.Possible step)
  | .createDungeon _ parties _ _ _ =>
    inferInstanceAs (Decidable (parties ∈ w.lobby.parties :: w.pastParties))
  | .request step => inferInstanceAs (Decidable (BindsPort step))
  | .receive .. | .addContent _ | .stopTick | .stopManager | .stopUdp | .tick _ => isTrue trivial

def manager (w : GameServer) : DungeonManager := w.service.manager

def udp (w : GameServer) : DungeonUdpManager := w.service.threads.udp

/-- What a request of the session is answered now, under an iteration order of the dungeons. -/
def answer (w : GameServer) (s : SessionId) (order : List DungeonId) :
    Except Failure DungeonConnectionInfoData :=
  handleDungeonConnectionInfoRequest s order w.lobby.parties w.manager w.udp

/-- The session is a participant of the live dungeon. -/
def Participates (w : GameServer) (s : SessionId) (d : DungeonId) : Prop :=
  ∃ dungeon, w.manager.dungeons[d]? = some dungeon ∧ DungeonInstance.hasParticipant s dungeon = true

/-- Some live dungeon knows the session and holds a token for it. -/
def Entitled (w : GameServer) (s : SessionId) : Prop :=
  ∃ d, w.Participates s d ∧ HasToken w.udp d s

/-- The answer names a live dungeon of the session, its port and the token of the session. -/
def Answered (w : GameServer) (s : SessionId) (order : List DungeonId) : Prop :=
  ∃ (d : DungeonId) (udpPort : UInt16) (udpToken : DungeonUdpToken),
    w.Participates s d ∧ w.udp.findPort d = some udpPort ∧ w.udp.findToken d s = some udpToken ∧
      w.answer s order = .ok { result := .success, dungeonId := d, udpPort, udpToken }

/-- The dungeon of the party of the session. -/
def partyDungeon (w : GameServer) (s : SessionId) : Option DungeonId :=
  (w.lobby.parties.getJoinedParty s).bind fun partyId => w.manager.partyDungeons[partyId]?

/-- The dungeon of the party, if it has one, knows the session and holds a token for it; if it has
none, so does every dungeon that knows the session. -/
def Unhidden (w : GameServer) (s : SessionId) : Prop :=
  (∀ d, w.partyDungeon s = some d → w.Participates s d ∧ HasToken w.udp d s) ∧
    (w.partyDungeon s = none → ∀ d, w.Participates s d → HasToken w.udp d s)

section

variable (arithmetic : Arithmetic) (skillCatalog : SkillCatalog) (config : TickConfig) (parse : Parse)

def next (w : GameServer) : GameStep → Option GameServer
  | .party call => some { w with
      lobby := w.lobby.step call, pastParties := w.lobby.parties :: w.pastParties }
  | .service step =>
    if w.Possible step then
      (w.service.next arithmetic skillCatalog config parse step).map fun service => { w with service }
    else none

end

end GameServer

/-! ## What every reachable state keeps -/

section

variable {arithmetic : Arithmetic} {skillCatalog : SkillCatalog} {config : TickConfig} {parse : Parse}

variable {w w' : Service}

theorem addressed_thread (h : AllAddressed w.threads.udp) {step : ThreadStep} {place : TickPlace}
    (hn : w.thread step place = some w') (hp : BindsPort step) : AllAddressed w'.threads.udp :=
  h.next hp (thread_spec hn).1

theorem addressed_drain (h : AllAddressed w.threads.udp) {after : Service}
    (hn : w.drain after = some w') (ha : after.threads = w.threads) : AllAddressed w'.threads.udp := by
  unfold Service.drain at hn
  split at hn
  · exact addressed_thread h hn trivial
  split at hn
  · exact addressed_thread h hn trivial
  · obtain rfl := Option.some.inj hn
    exact ha ▸ h

theorem addressed_readIds (h : AllAddressed w.threads.udp) {state : DungeonState}
    {ids : List DungeonId} {place : TickPlace} (hn : w.readIds state ids place = some w') :
    AllAddressed w'.threads.udp := by
  obtain ⟨-, rfl⟩ := readIds_spec hn
  exact h

theorem addressed_tick (h : AllAddressed w.threads.udp) {reading : TickReading}
    (hn : w.tick arithmetic skillCatalog config reading = some w') : AllAddressed w'.threads.udp := by
  cases hplace : w.place with
  | idle =>
    simp only [Service.tick, hplace, Option.map_eq_some_iff] at hn
    obtain ⟨w₁, hthread, rfl⟩ := hn
    have hswept := addressed_thread h hthread trivial
    exact hswept
  | sweeping released | cancelled ids d rest | released d rest =>
    simp only [Service.tick, hplace] at hn
    exact addressed_drain h hn rfl
  | readWaiting | readRunning | readFinished =>
    simp only [Service.tick, hplace] at hn
    exact addressed_readIds h hn
  | start ids d rest =>
    simp only [Service.tick, hplace, Option.map_eq_some_iff] at hn
    obtain ⟨w₁, hthread, rfl⟩ := hn
    have hstarted := addressed_thread h hthread trivial
    split <;> exact hstarted
  | cancel ids d rest | finishDungeon d rest =>
    simp only [Service.tick, hplace] at hn
    exact addressed_thread h hn trivial
  | refresh ids d rest =>
    simp only [Service.tick, hplace] at hn
    obtain rfl := Option.some.inj hn
    exact h.refreshAllActivity d reading.now
  | running rest =>
    cases rest with
    | nil =>
      simp only [Service.tick, hplace] at hn
      obtain rfl := Option.some.inj hn
      exact h
    | cons d rest =>
      simp only [Service.tick, hplace] at hn
      obtain rfl := Option.some.inj hn
      exact h.removeInactiveEndpoints d _ _
  | processing d rest =>
    simp only [Service.tick, hplace] at hn
    obtain rfl := Option.some.inj hn
    have hserver : AllAddressed ({
        managers := { dungeons := w.manager, udp := w.threads.udp }
        processing := w.processing, pendingHits := w.pendingHits } : Server).managers.udp := h
    exact hserver.processStep
  | waiting ids rest =>
    cases rest <;> simp only [Service.tick, hplace] at hn <;> obtain rfl := Option.some.inj hn <;>
      exact h
  | checkDisconnected ids d rest found =>
    simp only [Service.tick, hplace] at hn
    split at hn <;> obtain rfl := Option.some.inj hn <;> exact h
  | checkAuthenticated ids d rest =>
    simp only [Service.tick, hplace] at hn
    split at hn
    · obtain rfl := Option.some.inj hn
      exact h
    split at hn
    · obtain rfl := Option.some.inj hn
      exact h
    · split at hn <;> obtain rfl := Option.some.inj hn <;> exact h
  | waves d rest =>
    simp only [Service.tick, hplace] at hn
    split at hn <;> obtain rfl := Option.some.inj hn <;> exact h
  | readPlayers d rest =>
    simp only [Service.tick, hplace] at hn
    split at hn
    · obtain rfl := Option.some.inj hn
      exact h
    split at hn
    · obtain rfl := Option.some.inj hn
      exact h
    · split at hn
      · obtain rfl := Option.some.inj hn
        exact h
      · cases hn
  | checkRooms d rest rooms =>
    cases rooms with
    | nil =>
      simp only [Service.tick, hplace] at hn
      obtain rfl := Option.some.inj hn
      exact h
    | cons room rooms =>
      simp only [Service.tick, hplace] at hn
      split at hn <;> obtain rfl := Option.some.inj hn <;> exact h
  | finish d rest | checkState d rest =>
    simp only [Service.tick, hplace] at hn
    obtain rfl := Option.some.inj hn
    exact h
  | finished rest =>
    cases rest with
    | nil =>
      simp only [Service.tick, hplace] at hn
      obtain rfl := Option.some.inj hn
      exact h
    | cons d rest =>
      simp only [Service.tick, hplace] at hn
      split at hn
      · obtain rfl := Option.some.inj hn
        exact h
      · split at hn <;> obtain rfl := Option.some.inj hn <;> exact h

theorem addressed_next (h : AllAddressed w.threads.udp) {step : ServiceStep}
    (hp : ∀ call, step = .request call → BindsPort call)
    (hn : w.next arithmetic skillCatalog config parse step = some w') :
    AllAddressed w'.threads.udp := by
  cases step with
  | createDungeon s parties partyId templateId now =>
    exact addressed_thread h hn trivial
  | request call =>
    simp only [Service.next] at hn
    split at hn
    · exact addressed_thread h hn (hp call rfl)
    · cases hn
  | receive serverTick d datagram =>
    obtain rfl := Option.some.inj hn
    exact h.onSession d _ fun session hs => hs.handleReceive parse serverTick datagram
  | addContent op =>
    obtain rfl := Option.some.inj hn
    exact h
  | stopTick =>
    simp only [Service.next] at hn
    split at hn
    · obtain rfl := Option.some.inj hn
      exact h
    · cases hn
  | stopManager =>
    simp only [Service.next, Option.map_eq_some_iff] at hn
    obtain ⟨threads, hm, rfl⟩ := hn
    have hudp := (Threads.manage_spec hm).2.1
    exact hudp ▸ h
  | stopUdp =>
    obtain rfl := Option.some.inj hn
    exact h.stop
  | tick reading => exact addressed_tick h hn

/-- The places of the tick are sound, and every port and token can be sent. -/
structure Kept (config : TickConfig) (w : GameServer) : Prop where
  good : Good config w.service
  addressed : AllAddressed w.udp

theorem kept_next {w w' : GameServer} (h : Kept config w) {step : GameStep}
    (hn : w.next arithmetic skillCatalog config parse step = some w') : Kept config w' := by
  cases step with
  | party call =>
    obtain rfl := Option.some.inj hn
    exact ⟨h.good, h.addressed⟩
  | service step =>
    simp only [GameServer.next] at hn
    split at hn
    · rename_i hpossible
      obtain ⟨service, hservice, rfl⟩ := Option.map_eq_some_iff.mp hn
      refine ⟨good_next h.good hservice, addressed_next h.addressed ?_ hservice⟩
      rintro call rfl
      exact hpossible
    · cases hn

theorem kept_of_run {w : GameServer}
    (h : Reachable (GameServer.next arithmetic skillCatalog config parse) {} w) : Kept config w := by
  refine reachable_invariant (Kept config) (fun _ _ _ hk hn => kept_next hk hn) ⟨good_start, ?_⟩ h
  intro d session hd
  simp [GameServer.udp] at hd

end

/-! ## The answer -/

section

variable {u : DungeonUdpManager} {dungeon : DungeonInstance} {d : DungeonId} {s : SessionId}

theorem findToken_of_hasToken (h : HasToken u d s) : ∃ session token, u.sessions[d]? = some session ∧
    session.tokens[s]? = some token ∧ u.findPort d = some session.port ∧
    u.findToken d s = some token := by
  obtain ⟨session, hd, hs⟩ := h
  obtain ⟨token, ht⟩ := exists_of_mem hs
  refine ⟨session, token, hd, ht, ?_, ?_⟩
  · simp [DungeonUdpManager.findPort, hd]
  · simp [DungeonUdpManager.findToken, DungeonUdpSession.findToken, hd, ht]

theorem hasToken_of_findToken {token : DungeonUdpToken} (h : u.findToken d s = some token) :
    HasToken u d s := by
  obtain ⟨session, hd, hs⟩ := Option.bind_eq_some_iff.mp h
  exact ⟨session, hd, mem_of_entry hs⟩

/-- A participant with a token gets a response that is valid. -/
theorem connectionInfo_success (ha : AllAddressed u) (hid : dungeon.dungeonId = d) (hnonzero : d ≠ 0)
    (hs : dungeon.hasParticipant s = true) (ht : HasToken u d s) :
    ∃ (udpPort : UInt16) (udpToken : DungeonUdpToken), u.findPort d = some udpPort ∧
      u.findToken d s = some udpToken ∧
      encodeDungeonConnectionInfoResponse (connectionInfo s u dungeon) =
        .ok { result := .success, dungeonId := d, udpPort, udpToken } := by
  obtain ⟨session, token, hd, hs', hport, htoken⟩ := findToken_of_hasToken ht
  have haddressed := ha d session hd
  refine ⟨session.port, token, hport, htoken, ?_⟩
  have hinfo : connectionInfo s u dungeon =
      { result := .success, dungeonId := d, udpPort := session.port, udpToken := token } := by
    simp [connectionInfo, hs, hid, hport, htoken]
  have hvalid : (connectionInfo s u dungeon).isValid = true := by
    simp [hinfo, DungeonConnectionInfoData.isValid, hnonzero, haddressed.port,
      haddressed.tokens s token hs']
  rw [encodeDungeonConnectionInfoResponse, if_pos hvalid, hinfo]

/-- A response of success is one to a participant with a token. -/
theorem of_connectionInfo_success {response : DungeonConnectionInfoData} (hid : dungeon.dungeonId = d)
    (h : encodeDungeonConnectionInfoResponse (connectionInfo s u dungeon) = .ok response)
    (hsuccess : response.result = .success) :
    dungeon.hasParticipant s = true ∧ HasToken u d s := by
  unfold encodeDungeonConnectionInfoResponse at h
  split at h
  · obtain rfl := Except.ok.inj h
    unfold connectionInfo at hsuccess
    split at hsuccess
    · cases hsuccess
    · rename_i hs
      split at hsuccess
      · rename_i port token hport htoken
        exact ⟨by simpa using hs, hasToken_of_findToken (hid ▸ htoken)⟩
      · cases hsuccess
  · cases h

end

section

variable {config : TickConfig} {w : GameServer} {s : SessionId} {order : List DungeonId}
  {d : DungeonId} {dungeon : DungeonInstance} {issued : List DungeonId}

theorem answer_of_partyDungeon (hi : DungeonIndex w.manager issued) (order : List DungeonId)
    (hd : w.partyDungeon s = some d) : ∃ dungeon, w.manager.dungeons[d]? = some dungeon ∧ w.answer s order =
      encodeDungeonConnectionInfoResponse (connectionInfo s w.udp dungeon) := by
  obtain ⟨partyId, hjoined, hparty⟩ := Option.bind_eq_some_iff.mp hd
  obtain ⟨dungeon, hdungeon, -⟩ := (hi.parties partyId d).mp hparty
  have hfound : connectionDungeon s order (some partyId) w.manager = .ok (some dungeon) := by
    simp only [connectionDungeon, DungeonManager.findDungeonByParty, hparty, hdungeon]
    rfl
  exact ⟨dungeon, hdungeon,
    by simp only [GameServer.answer, handleDungeonConnectionInfoRequest, hjoined, hfound]⟩

theorem answer_of_participant (hd : w.partyDungeon s = none)
    (hf : w.manager.firstWithParticipant s order = some (d, dungeon)) :
    w.answer s order = encodeDungeonConnectionInfoResponse (connectionInfo s w.udp dungeon) := by
  have hfound : connectionDungeon s order (w.lobby.parties.getJoinedParty s) w.manager =
      .ok (some dungeon) := by
    unfold GameServer.partyDungeon at hd
    simp only [connectionDungeon, DungeonManager.findDungeonByParticipant, hf]
    cases hjoined : w.lobby.parties.getJoinedParty s with
    | none => rfl
    | some partyId =>
      have hparty : w.manager.partyDungeons[partyId]? = none := by simpa [hjoined] using hd
      simp only [DungeonManager.findDungeonByParty, hparty]
      rfl
  simp only [GameServer.answer, handleDungeonConnectionInfoRequest, hfound]

/-- The answer for a dungeon that serves the session is the right one. -/
theorem answered_of_served (hk : Kept config w) (hd : w.manager.dungeons[d]? = some dungeon)
    (hs : dungeon.hasParticipant s = true) (ht : HasToken w.udp d s) (ha : w.answer s order =
      encodeDungeonConnectionInfoResponse (connectionInfo s w.udp dungeon)) :
    w.Answered s order := by
  have hi := hk.good.indexed.index
  have hnonzero : d ≠ 0 := by
    rintro rfl
    exact hi.nonzero (hi.live 0 (mem_of_entry hd))
  obtain ⟨udpPort, udpToken, hport, htoken, hok⟩ :=
    connectionInfo_success hk.addressed (hi.keyed d dungeon hd) hnonzero hs ht
  exact ⟨d, udpPort, udpToken, ⟨dungeon, hd, hs⟩, hport, htoken, ha.trans hok⟩

theorem served_of_answered (hk : Kept config w) (hd : w.manager.dungeons[d]? = some dungeon)
    (ha : w.answer s order = encodeDungeonConnectionInfoResponse (connectionInfo s w.udp dungeon))
    (h : w.Answered s order) : dungeon.hasParticipant s = true ∧ HasToken w.udp d s := by
  obtain ⟨x, udpPort, udpToken, -, -, -, hok⟩ := h
  have hid := hk.good.indexed.index.keyed d dungeon hd
  exact of_connectionInfo_success hid (ha.symm.trans hok) rfl

theorem answered_iff_unhidden (hk : Kept config w) (he : w.Entitled s) :
    (∀ order, IterationOrder w.manager.dungeons order → w.Answered s order) ↔ w.Unhidden s := by
  have hi := hk.good.indexed.index
  constructor
  · intro hall
    refine ⟨fun d hparty => ?_, fun hnone d hparticipates => ?_⟩
    · obtain ⟨dungeon, hd, ha⟩ := answer_of_partyDungeon hi w.manager.dungeons.keys hparty
      obtain ⟨hs, ht⟩ := served_of_answered hk hd ha (hall _ (List.Perm.refl _))
      exact ⟨⟨dungeon, hd, hs⟩, ht⟩
    · -- the search may come to this dungeon first
      obtain ⟨dungeon, hd, hs⟩ := hparticipates
      have hkey : d ∈ w.manager.dungeons.keys :=
        ExtTreeMap.mem_keys.mpr (mem_of_entry hd)
      have hfirst : w.manager.firstWithParticipant s (d :: w.manager.dungeons.keys.erase d) =
          some (d, dungeon) := by
        simp [DungeonManager.firstWithParticipant, hd, hs]
      have horder := (List.perm_cons_erase hkey).symm
      exact (served_of_answered hk hd (answer_of_participant hnone hfirst) (hall _ horder)).2
  · rintro ⟨hparty, hnone⟩ order horder
    cases hd : w.partyDungeon s with
    | some d =>
      obtain ⟨dungeon, hdungeon, ha⟩ := answer_of_partyDungeon hi order hd
      obtain ⟨⟨found, hfound, hs⟩, ht⟩ := hparty d hd
      obtain rfl := Option.some.inj (hdungeon.symm.trans hfound)
      exact answered_of_served hk hdungeon hs ht ha
    | none =>
      obtain ⟨d, ⟨dungeon, hdungeon, hs⟩, -⟩ := he
      cases hf : w.manager.firstWithParticipant s order with
      | none =>
        have hmissing := firstWithParticipant_none horder hf hdungeon
        exact absurd (ExtTreeMap.contains_iff_mem.mp hs) hmissing
      | some found =>
        obtain ⟨hfound, hmem⟩ := firstWithParticipant_some hf
        have hknows : found.2.hasParticipant s = true := ExtTreeMap.contains_iff_mem.mpr hmem
        have ht := hnone hd found.1 ⟨found.2, hfound, hknows⟩
        exact answered_of_served hk hfound hknows ht (answer_of_participant hd hf)

/-- In every reachable state, a session that a live dungeon knows and holds a token for is sent to a
dungeon of its own, whatever the iteration order, exactly when no dungeon of its party hides it. -/
theorem answered_of_run {arithmetic : Arithmetic} {skillCatalog : SkillCatalog} {parse : Parse}
    (h : Reachable (GameServer.next arithmetic skillCatalog config parse) {} w)
    (he : w.Entitled s) :
    (∀ order, IterationOrder w.manager.dungeons order → w.Answered s order) ↔ w.Unhidden s :=
  answered_iff_unhidden (kept_of_run h) he

end

def hallGame : GameServer → GameStep → Option GameServer :=
  GameServer.next hallArithmetic {} hallConfig hallHello

/-- The session enters a dungeon with its party of one. -/
def enterSteps (s : SessionId) (parties : PartyManager) (partyId : PartyId) (port : UInt16)
    (token : DungeonUdpToken) : List GameStep :=
  [.service (.createDungeon s parties partyId 1 0), .service (.request (.readParticipants s)),
    .service (.request (.allocate s (some port) [token])), .service (.request (.findToken s))]

/-- The first session enters a dungeon and leaves its party. -/
def leavingSteps : List GameStep :=
  let hall : RoomTemplate := { id := 1, width := 10, depth := 10, playerSpawn := {} }
  let lobby : PartyHistory := ({} : PartyHistory).step (.createParty 100)
  [.service (.addContent (.addDungeon 1 "Hall" [hall] 1 4)), .party (.createParty 100)] ++
    enterSteps 100 lobby.parties 1 40000 7 ++ [.party (.leaveParty 100)]

/-- The second session enters a dungeon of its own, and the first one joins its party. -/
def joiningSteps : List GameStep :=
  let lobby : PartyHistory :=
    ((({} : PartyHistory).step (.createParty 100)).step (.leaveParty 100)).step (.createParty 200)
  leavingSteps ++ [.party (.createParty 200)] ++ enterSteps 200 lobby.parties 2 40001 9 ++
    [.party (.joinParty 2 100)]

/-- Without a party, the first session is sent back to its dungeon. -/
theorem answered_of_run_leaving :
    ∃ w, run hallGame {} leavingSteps = some w ∧ w.Entitled 100 ∧
      ∀ order, IterationOrder w.manager.dungeons order → w.Answered 100 order := by
  have hfound : ((run hallGame {} leavingSteps).any fun w =>
      decide (HasToken w.udp 1 100) && decide (w.partyDungeon 100 = none) &&
      decide (w.manager.dungeons.keys = [1]) &&
      (w.manager.dungeons[1]?).any (·.hasParticipant 100)) = true := by decide +kernel
  obtain ⟨w, hr, hw⟩ := (Option.any_eq_true _ _).mp hfound
  simp only [Bool.and_eq_true, decide_eq_true_eq] at hw
  obtain ⟨⟨⟨htoken, hparty⟩, hkeys⟩, hknows⟩ := hw
  obtain ⟨dungeon, hd, hs⟩ := (Option.any_eq_true _ _).mp hknows
  have he : w.Entitled 100 := ⟨1, ⟨dungeon, hd, hs⟩, htoken⟩
  refine ⟨w, hr, he, (answered_of_run ⟨leavingSteps, hr⟩ he).mpr ⟨fun d hparty' => ?_, ?_⟩⟩
  · rw [hparty] at hparty'
    cases hparty'
  · rintro - d ⟨dungeon', hd', -⟩
    have hmem : d ∈ w.manager.dungeons.keys := ExtTreeMap.mem_keys.mpr (mem_of_entry hd')
    obtain rfl := List.mem_singleton.mp (hkeys ▸ hmem)
    exact htoken

/-- In the party of the second session, the first one is told that it is no participant. -/
theorem not_answered_joining :
    ∃ w, run hallGame {} joiningSteps = some w ∧ w.Entitled 100 ∧
      IterationOrder w.manager.dungeons [1, 2] ∧
      w.answer 100 [1, 2] = .ok { result := .notDungeonParticipant } ∧ ¬ w.Answered 100 [1, 2] := by
  have hfound : ((run hallGame {} joiningSteps).any fun w =>
      decide (HasToken w.udp 1 100) && decide (IterationOrder w.manager.dungeons [1, 2]) &&
      decide ((w.answer 100 [1, 2]).toOption = some { result := .notDungeonParticipant }) &&
      (w.manager.dungeons[1]?).any (·.hasParticipant 100)) = true := by decide +kernel
  obtain ⟨w, hr, hw⟩ := (Option.any_eq_true _ _).mp hfound
  simp only [Bool.and_eq_true, decide_eq_true_eq] at hw
  obtain ⟨⟨⟨htoken, horder⟩, hanswer⟩, hknows⟩ := hw
  obtain ⟨dungeon, hd, hs⟩ := (Option.any_eq_true _ _).mp hknows
  have hok : w.answer 100 [1, 2] = .ok { result := .notDungeonParticipant } := by
    cases ha : w.answer 100 [1, 2] with
    | error failure => simp [ha, Except.toOption] at hanswer
    | ok response => simpa [ha, Except.toOption] using hanswer
  refine ⟨w, hr, ⟨1, ⟨dungeon, hd, hs⟩, htoken⟩, horder, hok, ?_⟩
  rintro ⟨d, udpPort, udpToken, -, -, -, hanswered⟩
  rw [hok] at hanswered
  cases hanswered

end DnfServer.Parties
