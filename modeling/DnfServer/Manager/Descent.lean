import DnfServer.Dungeons.Steps
import DnfServer.Manager.Indices

/-!
# What a call leaves of a dungeon

Apart from the creation, the start and the end of a dungeon no call of the manager writes the
template, the state or the rooms of one. A reconnect and its rollback move a player to another session, and a
sweep takes participants out. `Descends` says so of a dungeon before and after a call.
-/

namespace DnfServer.Manager

open Std DnfServer.Library DnfServer.Participants DungeonManager
open DnfServer.Dungeons (Descends)
set_option autoImplicit false

theorem descends_moved {d : DungeonInstance} {p old new : Nat} {player : DungeonPlayerState}
    (hp : d.players[old]? = some player) (since : IdMap Int) :
    Descends d (Participants.moved p old new player since d) := by
  refine ⟨rfl, rfl, rfl, rfl, rfl, Nat.le_of_eq List.length_replace, ?_⟩
  intro s player' hs
  simp only [Participants.moved] at hs
  by_cases hnew : new = s
  · subst hnew
    obtain rfl : { player with sessionId := new } = player' := by simpa using hs
    exact ⟨old, player, hp, rfl⟩
  · exact ⟨s, player', by grind, rfl⟩

theorem descends_without (sessions : List SessionId) (d : DungeonInstance) :
    Descends d (Participants.without sessions d) := by
  refine ⟨rfl, rfl, rfl, rfl, rfl, List.length_filter_le .., ?_⟩
  intro s player hs
  simp only [Participants.without] at hs
  exact ⟨s, player, by grind, rfl⟩

/-- Nobody is taken out. -/
structure Remains (d d' : DungeonInstance) : Prop extends Descends d d' where
  length : d'.participants.length = d.participants.length

namespace Remains

theorem refl (d : DungeonInstance) : Remains d d := ⟨Descends.refl d, rfl⟩

theorem bind (s p : Nat) (d : DungeonInstance) : Remains d (d.bindParticipantPlayer s p).2 := by
  refine ⟨.bindParticipantPlayer s p d, ?_⟩
  rcases bind_cases s p d with he | ⟨-, -, -, he⟩ <;> rw [he]

theorem moved {d : DungeonInstance} {p old new : Nat} {player : DungeonPlayerState}
    (hp : d.players[old]? = some player) (since : IdMap Int) :
    Remains d (Participants.moved p old new player since d) :=
  ⟨descends_moved hp since, moved_participants_length p old new player since d⟩

theorem trans {d d' d'' : DungeonInstance} (h : Remains d d') (h' : Remains d' d'') : Remains d d'' :=
  ⟨h.toDescends.trans h'.toDescends, h'.length.trans h.length⟩

theorem bindMembers (auth : IdMap PlayerId) (members : List SessionId) (d : DungeonInstance) :
    Remains d (DungeonManager.bindMembers auth members d) := by
  induction members generalizing d with
  | nil => exact refl d
  | cons s members ih =>
    rw [DungeonManager.bindMembers, List.foldl_cons]
    cases auth[s]? with
    | none => exact ih d
    | some p => exact (bind s p d).trans (ih _)

end Remains

/-- The two managers have the same dungeons, related one by one. -/
def Pointwise (R : DungeonInstance → DungeonInstance → Prop) (m m' : DungeonManager) : Prop :=
  ∀ d : DungeonId, Option.Rel R m.dungeons[d]? m'.dungeons[d]?

namespace Pointwise

variable {R : DungeonInstance → DungeonInstance → Prop} {m m' : DungeonManager} {d : DungeonId}
  {dungeon dungeon' : DungeonInstance}

theorem same (hR : ∀ d, R d d) (h : m'.dungeons = m.dungeons) : Pointwise R m m' := by
  intro d
  rw [h]
  cases m.dungeons[d]? with
  | none => exact .none
  | some dungeon => exact .some (hR dungeon)

theorem insert (hR : ∀ d, R d d) (hd : m.dungeons[d]? = some dungeon)
    (hm : m'.dungeons = m.dungeons.insert d dungeon') (h : R dungeon dungeon') : Pointwise R m m' := by
  intro e
  by_cases hde : d = e
  · subst hde
    rw [hd, hm, ExtTreeMap.getElem?_insert_self]
    exact .some h
  · have he : m'.dungeons[e]? = m.dungeons[e]? := by grind
    rw [he]
    cases m.dungeons[e]? with
    | none => exact .none
    | some other => exact .some (hR other)

theorem before (h : Pointwise R m m') (hd : m'.dungeons[d]? = some dungeon') :
    ∃ dungeon, m.dungeons[d]? = some dungeon ∧ R dungeon dungeon' := by
  have hrel := h d
  rw [hd] at hrel
  cases hm : m.dungeons[d]? with
  | none =>
    rw [hm] at hrel
    cases hrel
  | some dungeon =>
    rw [hm] at hrel
    cases hrel with
    | some hR => exact ⟨dungeon, rfl, hR⟩

theorem after (h : Pointwise R m m') (hd : m.dungeons[d]? = some dungeon) :
    ∃ dungeon', m'.dungeons[d]? = some dungeon' ∧ R dungeon dungeon' := by
  have hrel := h d
  rw [hd] at hrel
  cases hm : m'.dungeons[d]? with
  | none =>
    rw [hm] at hrel
    cases hrel
  | some dungeon' =>
    rw [hm] at hrel
    cases hrel with
    | some hR => exact ⟨dungeon', rfl, hR⟩

end Pointwise

/-- The dungeons of the second manager descend from those of the first. -/
def DescendsAll (m m' : DungeonManager) : Prop :=
  ∀ (d : DungeonId) (dungeon' : DungeonInstance), m'.dungeons[d]? = some dungeon' →
    ∃ dungeon, m.dungeons[d]? = some dungeon ∧ Descends dungeon dungeon'

namespace DescendsAll

variable {m m' : DungeonManager}

theorem same (h : m'.dungeons = m.dungeons) : DescendsAll m m' := by
  intro d dungeon hd
  exact ⟨dungeon, h ▸ hd, Descends.refl dungeon⟩

theorem remove (d : DungeonId) (dungeon : DungeonInstance) :
    DescendsAll m (m.removeDungeon d dungeon) := by
  intro e other he
  simp only [removeDungeon] at he
  exact ⟨other, by grind, Descends.refl other⟩

end DescendsAll

/-- The calls by which a session comes and goes. -/
def Call.rejoins : Call → Bool
  | .registerPlayerSession .. | .rollbackPlayerReconnect .. | .disconnectPlayerSession .. => true
  | _ => false

/-- The calls that write neither a state nor a room. -/
def Call.keepsStates : Call → Bool
  | .createDungeon .. | .startDungeon .. | .finishCleared .. => false
  | _ => true

theorem remains_of_next {h h' : History} (hi : Indexed h) {call : Call}
    (hn : h.next call = some h') (hcall : call.rejoins = true) :
    Pointwise Remains h.manager h'.manager := by
  cases call with
  | registerPlayerSession s p now grace order =>
    simp only [History.next] at hn
    split at hn
    · rename_i horder
      obtain rfl := Option.some.inj hn
      cases register_outcome hi.index.consistent horder.2 s p now grace with
      | refused ha he => exact .same Remains.refl (by rw [he])
      | unbound ha d dungeon hd hs hb he => exact .same Remains.refl (by rw [he])
      | bound ha d dungeon hd hs hb he => exact .insert Remains.refl hd (by rw [he]) (.bind s p dungeon)
      | newcomer ha hnone hr he => exact .same Remains.refl (by rw [he]; rfl)
      | back ha hnone d dungeon old t player hd hf hr hp he =>
        exact .insert Remains.refl hd (by rw [he]; rfl) (.moved hp _)
    · cases hn
  | rollbackPlayerReconnect new reconnect =>
    obtain ⟨d, p, old, t⟩ := reconnect
    simp only [History.next] at hn
    split at hn
    · obtain rfl := Option.some.inj hn
      rcases rollbackPlayer_cases hi.index.consistent d p new old t with
        ⟨-, he⟩ | ⟨dungeon, player, hd, -, hp, he⟩
      · exact .same Remains.refl (by rw [he])
      · exact .insert Remains.refl hd (by rw [he]) (.moved hp _)
    · cases hn
  | disconnectPlayerSession s t order =>
    simp only [History.next] at hn
    split at hn
    · rename_i horder
      obtain rfl := Option.some.inj hn
      rcases disconnectPlayer_cases horder s t with ⟨-, he⟩ | ⟨-, -, he⟩ | ⟨-, d, dungeon, hd, -, he⟩
      · exact .same Remains.refl (by rw [he])
      · exact .same Remains.refl (by rw [he]; simp)
      · have hmarked : Remains dungeon (marked s t dungeon) :=
          ⟨(Descends.refl dungeon).since _, rfl⟩
        exact .insert Remains.refl hd (by rw [he]) hmarked
    · cases hn
  | _ => cases hcall

theorem descendsAll_of_next {h h' : History} (hi : Indexed h) {call : Call}
    (hn : h.next call = some h') (hkeeps : call.keepsStates = true) :
    DescendsAll h.manager h'.manager := by
  cases call with
  | createDungeon parties catalog partyId templateId now => cases hkeeps
  | startDungeon catalog d => cases hkeeps
  | finishCleared d => cases hkeeps
  | registerPlayerSession | rollbackPlayerReconnect | disconnectPlayerSession =>
    intro d dungeon' hd
    obtain ⟨dungeon, hold, hremains⟩ := (remains_of_next hi hn rfl).before hd
    exact ⟨dungeon, hold, hremains.toDescends⟩
  | sweepAbandonedParticipants now grace lifetime =>
    obtain rfl := Option.some.inj hn
    by_cases hpos : 0 < grace ∧ 0 < lifetime
    · intro d dungeon' hd
      obtain ⟨dungeon, hold, -, rfl⟩ :=
        (sweep_effect hpos.1 hpos.2 now h.manager).kept hi.index.consistent hpos.1 hd
      exact ⟨dungeon, hold, descends_without _ dungeon⟩
    · exact .same (by simp only [sweep_idle hpos])
  | cancelDungeon d =>
    obtain rfl := Option.some.inj hn
    rcases cancel_cases h.manager d with he | ⟨dungeon, -, -, he⟩
    · exact .same (by rw [he])
    · rw [he]
      exact .remove d dungeon
  | finishDungeon d =>
    obtain rfl := Option.some.inj hn
    rcases finish_cases h.manager d with he | ⟨dungeon, -, -, he⟩
    · exact .same (by rw [he])
    · rw [he]
      exact .remove d dungeon
  | stop =>
    obtain rfl := Option.some.inj hn
    intro d dungeon hd
    simp only [DungeonManager.stop] at hd
    split at hd
    · exact ⟨dungeon, hd, Descends.refl dungeon⟩
    · simp at hd

end DnfServer.Manager
