import DnfServer.Library.Renaming
import DnfServer.Library.Runs
import DnfServer.Model.ChannelList

/-!
# The players of a channel and the channel list

The counter of a channel is the number of sessions that have joined it, over any calls. The list of the
channels fits into the response exactly if no channel was added with more players than the response can
say: adding a channel and loading it take any number.
-/

namespace DnfServer.Parties

open Std DnfServer.Library ChannelManager
set_option autoImplicit false

/-! ## The counters -/

def sessionsIn (joinedChannels : IdMap ChannelId) (c : ChannelId) : Nat :=
  joinedChannels.toList.countP (·.2 = c)

/-- A listed channel, under its own identifier and counted right. -/
structure Listed (manager : ChannelManager) (c : ChannelId) (channel : ChannelInfo) : Prop where
  id : channel.id = c
  id_ne : c ≠ 0
  name : channel.name.isEmpty = false
  capacity : channel.maxPlayers ≠ 0
  players : channel.currentPlayers = sessionsIn manager.joinedChannels c
  bounded : channel.currentPlayers ≤ channel.maxPlayers

structure Tallied (manager : ChannelManager) : Prop where
  listed : ∀ (c : ChannelId) (channel : ChannelInfo), manager.channels[c]? = some channel →
    Listed manager c channel
  joined : ∀ (s : SessionId) (c : ChannelId), manager.joinedChannels[s]? = some c → c ∈ manager.channels

theorem tallied_empty : Tallied {} := by
  constructor
  · intro c channel h
    rw [ExtTreeMap.getElem?_empty] at h
    cases h
  · intro s c h
    rw [ExtTreeMap.getElem?_empty] at h
    cases h

variable {manager : ChannelManager} {s : SessionId} {c : ChannelId} {channel : ChannelInfo}

theorem sessionsIn_join {joined : IdMap ChannelId} (hs : s ∉ joined) (d : ChannelId) :
    sessionsIn (joined.insertIfNew s c) d = sessionsIn joined d + if c = d then 1 else 0 := by
  have hentry : (joined.insertIfNew s c)[s]? = some c := by
    rw [ExtTreeMap.getElem?_insertIfNew, if_pos ⟨compare_self, hs⟩]
  have herased : (joined.insertIfNew s c).erase s = joined := by
    refine ExtTreeMap.ext_getElem? fun k => ?_
    rw [ExtTreeMap.getElem?_erase]
    split
    · rename_i hk
      obtain rfl : s = k := LawfulEqCmp.compare_eq_iff_eq.mp hk
      exact (ExtTreeMap.getElem?_eq_none hs).symm
    · rename_i hk
      rw [ExtTreeMap.getElem?_insertIfNew, if_neg fun h => hk h.1]
  unfold sessionsIn
  rw [(perm_cons_erase hentry).countP_eq, herased, List.countP_cons]
  simp only [decide_eq_true_eq]

theorem sessionsIn_leave {joined : IdMap ChannelId} (hs : joined[s]? = some c) (d : ChannelId) :
    sessionsIn joined d = sessionsIn (joined.erase s) d + if c = d then 1 else 0 := by
  unfold sessionsIn
  rw [(perm_cons_erase hs).countP_eq, List.countP_cons]
  simp only [decide_eq_true_eq]

theorem Listed.of_joined {manager' : ChannelManager} (h : Listed manager c channel)
    (hjoined : manager'.joinedChannels = manager.joinedChannels) : Listed manager' c channel :=
  ⟨h.id, h.id_ne, h.name, h.capacity, by rw [h.players, hjoined], h.bounded⟩

theorem Tallied.addChannel (h : Tallied manager) (channelId : ChannelId) (name : String)
    (maxPlayers : Nat) : Tallied (manager.addChannel channelId name maxPlayers).2 := by
  unfold ChannelManager.addChannel
  split
  · exact h
  rename_i hvalid
  simp only [not_or] at hvalid
  obtain ⟨hid, hname, hcapacity, hfresh⟩ := hvalid
  have hempty : sessionsIn manager.joinedChannels channelId = 0 := by
    unfold sessionsIn
    rw [List.countP_eq_zero]
    intro entry hentry heq
    have hmem := h.joined entry.1 entry.2 (ExtTreeMap.mem_toList_iff_getElem?_eq_some.mp hentry)
    exact hfresh (of_decide_eq_true heq ▸ hmem)
  constructor
  · intro c channel hc
    rw [ExtTreeMap.getElem?_insertIfNew] at hc
    split at hc
    · rename_i hsame
      obtain rfl : channelId = c := LawfulEqCmp.compare_eq_iff_eq.mp hsame.1
      obtain rfl := Option.some.inj hc
      exact ⟨rfl, hid, Bool.eq_false_of_not_eq_true hname, hcapacity, hempty.symm, Nat.zero_le _⟩
    · exact (h.listed c channel hc).of_joined rfl
  · intro s c hs
    exact ExtTreeMap.mem_insertIfNew.mpr (.inr (h.joined s c hs))

theorem Tallied.joinChannel (h : Tallied manager) (s : SessionId) (c : ChannelId) :
    Tallied (manager.joinChannel s c).2 := by
  unfold ChannelManager.joinChannel
  split
  · exact h
  rename_i channel hchannel
  split
  · exact h
  rename_i hs
  split
  · exact h
  rename_i hfull
  have hlisted := h.listed c channel hchannel
  constructor
  · intro d other hd
    rw [ExtTreeMap.getElem?_insert] at hd
    split at hd
    · rename_i hsame
      obtain rfl : c = d := LawfulEqCmp.compare_eq_iff_eq.mp hsame
      obtain rfl := Option.some.inj hd
      refine ⟨hlisted.id, hlisted.id_ne, hlisted.name, hlisted.capacity, ?_, Nat.not_le.mp hfull⟩
      show channel.currentPlayers + 1 = _
      rw [sessionsIn_join hs, if_pos rfl, hlisted.players]
    · rename_i hother
      have hne : c ≠ d := fun heq => hother (LawfulEqCmp.compare_eq_iff_eq.mpr heq)
      have hd' := h.listed d other hd
      refine ⟨hd'.id, hd'.id_ne, hd'.name, hd'.capacity, ?_, hd'.bounded⟩
      rw [sessionsIn_join hs, if_neg hne, hd'.players]
      rfl
  · intro s' d hs'
    rw [ExtTreeMap.getElem?_insertIfNew] at hs'
    split at hs'
    · obtain rfl := Option.some.inj hs'
      exact ExtTreeMap.mem_insert_self
    · exact ExtTreeMap.mem_insert.mpr (.inr (h.joined s' d hs'))

/-- The guards of `leaveChannel` hold: the channel is there and its counter is not zero. -/
theorem Tallied.counted (h : Tallied manager) (hs : manager.joinedChannels[s]? = some c) :
    ∃ channel, manager.channels[c]? = some channel ∧ 0 < channel.currentPlayers := by
  obtain ⟨channel, hchannel⟩ := exists_of_mem (h.joined s c hs)
  refine ⟨channel, hchannel, ?_⟩
  rw [(h.listed c channel hchannel).players, sessionsIn_leave hs, if_pos rfl]
  exact Nat.succ_pos _

theorem Tallied.leaveChannel (h : Tallied manager) (s : SessionId) :
    Tallied (manager.leaveChannel s).2 := by
  unfold ChannelManager.leaveChannel
  split
  · exact h
  rename_i c hs
  obtain ⟨channel, hchannel, hpositive⟩ := h.counted hs
  have hlisted := h.listed c channel hchannel
  simp only [hchannel, gt_iff_lt, hpositive, if_true]
  constructor
  · intro d other hd
    rw [ExtTreeMap.getElem?_insert] at hd
    split at hd
    · rename_i hsame
      obtain rfl : c = d := LawfulEqCmp.compare_eq_iff_eq.mp hsame
      obtain rfl := Option.some.inj hd
      have hbounded : channel.currentPlayers - 1 ≤ channel.maxPlayers :=
        Nat.le_trans (Nat.sub_le _ _) hlisted.bounded
      refine ⟨hlisted.id, hlisted.id_ne, hlisted.name, hlisted.capacity, ?_, hbounded⟩
      show channel.currentPlayers - 1 = _
      rw [hlisted.players, sessionsIn_leave hs, if_pos rfl, Nat.add_sub_cancel]
    · rename_i hother
      have hne : c ≠ d := fun heq => hother (LawfulEqCmp.compare_eq_iff_eq.mpr heq)
      have hd' := h.listed d other hd
      refine ⟨hd'.id, hd'.id_ne, hd'.name, hd'.capacity, ?_, hd'.bounded⟩
      rw [hd'.players, sessionsIn_leave hs, if_neg hne]
      rfl
  · intro s' d hs'
    rw [ExtTreeMap.getElem?_erase] at hs'
    split at hs'
    · cases hs'
    · exact ExtTreeMap.mem_insert.mpr (.inr (h.joined s' d hs'))

theorem Tallied.call (h : Tallied manager) (call : ChannelCall) : Tallied (manager.call call) := by
  cases call with
  | addChannel channelId name maxPlayers => exact h.addChannel channelId name maxPlayers
  | joinChannel sessionId channelId => exact h.joinChannel sessionId channelId
  | leaveChannel sessionId => exact h.leaveChannel sessionId

/-! ## The list -/

/-- What the client knows of a channel is what the server says of it. -/
structure Shows (channel : ChannelInfo) (info : Client.ChannelInfo) : Prop where
  id : info.id = channel.id
  name : info.displayName = channel.name
  currentPlayers : info.currentPlayers.toNat = channel.currentPlayers
  maxPlayers : info.maxPlayers.toNat = channel.maxPlayers

/-- The list is encoded, and the client decodes the same channels. -/
def Transmitted (channels : List ChannelInfo) : Prop :=
  ∃ entries infos, encodeChannelListResponsePayload channels = .ok entries ∧
    Client.decodeChannelListResponse entries = .ok infos ∧ List.Forall₂ Shows channels infos

theorem valid_of_encode : ∀ {channels : List ChannelInfo} {entries : List Protocol.ChannelInfo},
    encodeChannelListResponsePayload channels = .ok entries →
      ∀ channel ∈ channels, isValidChannelListEntry channel = true
  | [], _, _ => List.forall_mem_nil _
  | channel :: channels, entries, h => by
    unfold encodeChannelListResponsePayload at h
    split at h
    · cases h
    rename_i hvalid
    cases hrest : encodeChannelListResponsePayload channels with
    | error failure =>
      rw [hrest] at h
      cases h
    | ok rest =>
      exact List.forall_mem_cons.mpr ⟨not_not.mp hvalid, valid_of_encode hrest⟩

theorem transmitted_of_valid : ∀ {channels : List ChannelInfo},
    (∀ channel ∈ channels, isValidChannelListEntry channel = true) → Transmitted channels
  | [], _ => ⟨[], [], rfl, rfl, .nil⟩
  | channel :: channels, h => by
    obtain ⟨hvalid, hrest⟩ := List.forall_mem_cons.mp h
    obtain ⟨entries, infos, hentries, hinfos, hshows⟩ := transmitted_of_valid hrest
    have hfields := hvalid
    simp only [isValidChannelListEntry, decide_eq_true_eq, not_or, gt_iff_lt, Nat.not_lt] at hfields
    obtain ⟨hid, hname, hcapacity, hbounded, hcurrent, hmax⟩ := hfields
    have hcurrentNat : (UInt32.ofNat channel.currentPlayers).toNat = channel.currentPlayers :=
      UInt32.toNat_ofNat_of_lt' (Nat.lt_succ_of_le hcurrent)
    have hmaxNat : (UInt32.ofNat channel.maxPlayers).toNat = channel.maxPlayers :=
      UInt32.toNat_ofNat_of_lt' (Nat.lt_succ_of_le hmax)
    refine ⟨⟨channel.id, channel.name, UInt32.ofNat channel.currentPlayers,
      UInt32.ofNat channel.maxPlayers⟩ :: entries, ⟨channel.id, channel.name,
      UInt32.ofNat channel.currentPlayers, UInt32.ofNat channel.maxPlayers⟩ :: infos, ?_, ?_,
      .cons ⟨rfl, rfl, hcurrentNat, hmaxNat⟩ hshows⟩
    · unfold encodeChannelListResponsePayload
      rw [if_neg (not_not_intro hvalid), hentries]
      rfl
    · have haccepted : ¬ (channel.id = 0 ∨ channel.name.isEmpty = true ∨
          UInt32.ofNat channel.maxPlayers = 0 ∨
          UInt32.ofNat channel.currentPlayers > UInt32.ofNat channel.maxPlayers) := by
        rw [← UInt32.toNat_inj (a := UInt32.ofNat channel.maxPlayers), gt_iff_lt,
          UInt32.lt_iff_toNat_lt, hcurrentNat, hmaxNat, UInt32.toNat_zero]
        simp only [not_or, Nat.not_lt]
        exact ⟨hid, hname, hcapacity, hbounded⟩
      unfold Client.decodeChannelListResponse
      rw [if_neg haccepted, hinfos]
      rfl

/-- Every channel has a capacity that the response can say. -/
def Within (manager : ChannelManager) : Prop :=
  ∀ (c : ChannelId) (channel : ChannelInfo), manager.channels[c]? = some channel →
    channel.maxPlayers ≤ maxUInt32

theorem mem_getChannelList :
    channel ∈ manager.getChannelList ↔ ∃ c : ChannelId, manager.channels[c]? = some channel := by
  unfold getChannelList
  rw [List.mem_mergeSort, List.mem_map]
  constructor
  · rintro ⟨entry, hentry, rfl⟩
    exact ⟨entry.1, ExtTreeMap.mem_toList_iff_getElem?_eq_some.mp hentry⟩
  · rintro ⟨c, hc⟩
    exact ⟨(c, channel), ExtTreeMap.mem_toList_iff_getElem?_eq_some.mpr hc, rfl⟩

theorem Listed.valid_iff (h : Listed manager c channel) :
    isValidChannelListEntry channel = true ↔ channel.maxPlayers ≤ maxUInt32 := by
  have hbounded := h.bounded
  simp only [isValidChannelListEntry, decide_eq_true_eq, h.id, h.id_ne, h.name, h.capacity,
    Bool.false_eq_true, false_or, not_or, gt_iff_lt, Nat.not_lt]
  constructor
  · intro hall
    exact hall.2.2
  · intro hmax
    exact ⟨hbounded, Nat.le_trans hbounded hmax, hmax⟩

theorem Tallied.transmitted_iff (h : Tallied manager) :
    Transmitted manager.getChannelList ↔ Within manager := by
  constructor
  · rintro ⟨entries, -, hentries, -⟩ c channel hc
    have hvalid := valid_of_encode hentries channel (mem_getChannelList.mpr ⟨c, hc⟩)
    exact (h.listed c channel hc).valid_iff.mp hvalid
  · intro hwithin
    apply transmitted_of_valid
    intro channel hchannel
    obtain ⟨c, hc⟩ := mem_getChannelList.mp hchannel
    exact (h.listed c channel hc).valid_iff.mpr (hwithin c channel hc)

/-! ## Any calls -/

/-- A channel that is added has a capacity that the response can say. -/
def Fits (manager : ChannelManager) : ChannelCall → Prop
  | .addChannel channelId name maxPlayers =>
    channelId ≠ 0 → name.isEmpty = false → channelId ∉ manager.channels → maxPlayers ≤ maxUInt32
  | .joinChannel .. | .leaveChannel _ => True

/-- A call other than `addChannel` keeps the channels and their capacities. -/
theorem within_insert (hc : manager.channels[c]? = some channel) (players : Nat)
    (joinedChannels : IdMap ChannelId) :
    Within { channels := manager.channels.insert c { channel with currentPlayers := players }
             joinedChannels } ↔ Within manager := by
  constructor
  · intro h d other hd
    by_cases hsame : c = d
    · subst hsame
      obtain rfl := Option.some.inj (hc.symm.trans hd)
      exact h c { channel with currentPlayers := players } ExtTreeMap.getElem?_insert_self
    · apply h d other
      rw [ExtTreeMap.getElem?_insert, if_neg (mt LawfulEqCmp.compare_eq_iff_eq.mp hsame)]
      exact hd
  · intro h
    exact forall_entries_insert h (h c channel hc)

theorem within_addChannel (channelId : ChannelId) (name : String) (maxPlayers : Nat) :
    Within (manager.addChannel channelId name maxPlayers).2 ↔
      Within manager ∧ Fits manager (.addChannel channelId name maxPlayers) := by
  unfold ChannelManager.addChannel Fits
  split
  · rename_i hinvalid
    refine (and_iff_left ?_).symm
    intro hid hname hfresh
    rcases hinvalid with h | h | h | h
    · exact absurd h hid
    · rw [hname] at h
      cases h
    · exact h ▸ Nat.zero_le _
    · exact absurd h hfresh
  · rename_i hvalid
    simp only [not_or, Bool.not_eq_true] at hvalid
    obtain ⟨hid, hname, -, hfresh⟩ := hvalid
    constructor
    · intro h
      refine ⟨?_, fun _ _ _ => h channelId ⟨channelId, name, 0, maxPlayers⟩ ?_⟩
      · intro c channel hc
        have hold : ¬ (compare channelId c = .eq ∧ channelId ∉ manager.channels) := by
          rintro ⟨hsame, hnew⟩
          obtain rfl : channelId = c := LawfulEqCmp.compare_eq_iff_eq.mp hsame
          exact hnew (mem_of_entry hc)
        apply h c channel
        rw [ExtTreeMap.getElem?_insertIfNew, if_neg hold]
        exact hc
      · rw [ExtTreeMap.getElem?_insertIfNew, if_pos ⟨compare_self, hfresh⟩]
    · rintro ⟨h, hfits⟩ c channel hc
      rw [ExtTreeMap.getElem?_insertIfNew] at hc
      split at hc
      · obtain rfl := Option.some.inj hc
        exact hfits hid hname hfresh
      · exact h c channel hc

theorem Tallied.within_call (h : Tallied manager) (call : ChannelCall) :
    Within (manager.call call) ↔ Within manager ∧ Fits manager call := by
  cases call with
  | addChannel channelId name maxPlayers => exact within_addChannel channelId name maxPlayers
  | joinChannel s c =>
    refine Iff.trans ?_ (and_iff_left trivial).symm
    show Within (manager.joinChannel s c).2 ↔ _
    unfold ChannelManager.joinChannel
    split
    · rfl
    rename_i channel hchannel
    split
    · rfl
    split
    · rfl
    · exact within_insert hchannel _ _
  | leaveChannel s =>
    refine Iff.trans ?_ (and_iff_left trivial).symm
    show Within (manager.leaveChannel s).2 ↔ _
    unfold ChannelManager.leaveChannel
    split
    · rfl
    rename_i c hs
    obtain ⟨channel, hchannel, hpositive⟩ := h.counted hs
    simp only [hchannel, gt_iff_lt, hpositive, if_true]
    exact within_insert hchannel _ _

def next (manager : ChannelManager) (call : ChannelCall) : Option ChannelManager := some (manager.call call)

theorem tallied_of_run {calls : List ChannelCall} {manager' : ChannelManager} (h : Tallied manager)
    (hrun : run next manager calls = some manager') :
    Tallied manager' ∧ (Within manager' ↔ Within manager ∧ Meets next Fits manager calls) := by
  induction calls generalizing manager with
  | nil =>
    obtain rfl := Option.some.inj hrun
    exact ⟨h, (and_iff_left trivial).symm⟩
  | cons call calls ih =>
    obtain ⟨hlast, hwithin⟩ := ih (h.call call) hrun
    refine ⟨hlast, ?_⟩
    rw [hwithin, h.within_call call, and_assoc]
    refine and_congr_right fun _ => and_congr_right fun _ => ?_
    constructor
    · intro hmeets t ht
      obtain rfl := Option.some.inj ht
      exact hmeets
    · intro hmeets
      exact hmeets _ rfl

/-- Over any calls the counters are right, and the list reaches the client exactly if every channel was
added with a capacity that the response can say. -/
theorem listed_of_run {calls : List ChannelCall} {manager : ChannelManager}
    (hrun : run next {} calls = some manager) :
    (∀ (c : ChannelId) (channel : ChannelInfo), manager.channels[c]? = some channel →
      channel.currentPlayers = sessionsIn manager.joinedChannels c ∧
        channel.currentPlayers ≤ channel.maxPlayers) ∧
    (∀ (s : SessionId) (c : ChannelId), manager.joinedChannels[s]? = some c →
      ∃ channel, manager.channels[c]? = some channel ∧ 0 < channel.currentPlayers) ∧
    (Transmitted manager.getChannelList ↔ Meets next Fits {} calls) := by
  obtain ⟨htallied, hwithin⟩ := tallied_of_run tallied_empty hrun
  refine ⟨?_, fun s c hs => htallied.counted hs, ?_⟩
  · intro c channel hc
    have hlisted := htallied.listed c channel hc
    exact ⟨hlisted.players, hlisted.bounded⟩
  · rw [htallied.transmitted_iff, hwithin]
    refine and_iff_right fun c channel hc => ?_
    rw [ExtTreeMap.getElem?_empty] at hc
    cases hc

theorem listed_of_run_town : ∃ manager,
    run next {} [.addChannel 1 "Town" 2, .joinChannel 7 1, .joinChannel 8 1, .leaveChannel 7] = some manager ∧
      sessionsIn manager.joinedChannels 1 = 1 ∧ Transmitted manager.getChannelList := by
  have hmeets : Meets next Fits {}
      [.addChannel 1 "Town" 2, .joinChannel 7 1, .joinChannel 8 1, .leaveChannel 7] := by
    refine ⟨fun _ _ _ => by decide, ?_⟩
    rintro _ - 
    exact ⟨trivial, fun _ _ => ⟨trivial, fun _ _ => ⟨trivial, fun _ _ => trivial⟩⟩⟩
  exact ⟨_, rfl, by decide +kernel, (listed_of_run rfl).2.2.mpr hmeets⟩

/-- One more player than the response can say. -/
theorem channelList_refused : ∃ manager, run next {} [.addChannel 1 "Town" 4294967296] = some manager ∧
    manager.channels[(1 : ChannelId)]? = some { id := 1, name := "Town", maxPlayers := 4294967296 } ∧
    ¬ Transmitted manager.getChannelList := by
  have htallied := (tallied_empty.call (.addChannel 1 "Town" 4294967296))
  have hlisted : (({} : ChannelManager).call (.addChannel 1 "Town" 4294967296)).channels[(1 : ChannelId)]? =
      some { id := 1, name := "Town", maxPlayers := 4294967296 } := by
    decide +kernel
  refine ⟨_, rfl, hlisted, ?_⟩
  intro htransmitted
  have hmax := htallied.transmitted_iff.mp htransmitted 1 _ hlisted
  exact absurd hmax (by decide)

end DnfServer.Parties
