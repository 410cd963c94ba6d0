import DnfServer.Dungeons.Safety
import DnfServer.Udp.Threads

/-!
# The tick over all dungeons

`DungeonTickService::HandleTick` as a sequence of calls: the sweep, then the waiting, the running and
the finished dungeons, each list read at once and gone through afterwards. Requests, datagrams and
the shutdown come between any two calls. `TickPlace` is the call that is next. Loops over unordered
maps take their order from a reading, and so does every look at a clock.

`TryFinishIfCleared` is taken apart: the rooms of the players, the state of each room and `Finish`
are read and written one after the other. Snapshots are broadcast without a trace in the state.
-/

namespace DnfServer.Tick

open Std DnfServer.Library DnfServer.Dungeons DnfServer.Udp
set_option autoImplicit false

/-- One second, in the nanoseconds of the steady clock. -/
def finishedBroadcastDuration : Int := 1000000000

structure TickConfig where
  reconnectGrace : Int
  maxDungeonLifetime : Int
  readyTimeout : Int
  udpIdleTimeout : Int

inductive TickPlace where
  | idle
  /-- The sweep is done, and its participants and dungeons leave the UDP manager. -/
  | sweeping (released : List DungeonId)
  | readWaiting
  | waiting (ids rest : List DungeonId)
  | checkDisconnected (ids : List DungeonId) (d : DungeonId) (rest : List DungeonId) (found : Bool)
  | checkAuthenticated (ids : List DungeonId) (d : DungeonId) (rest : List DungeonId)
  | start (ids : List DungeonId) (d : DungeonId) (rest : List DungeonId)
  | refresh (ids : List DungeonId) (d : DungeonId) (rest : List DungeonId)
  | cancel (ids : List DungeonId) (d : DungeonId) (rest : List DungeonId)
  | cancelled (ids : List DungeonId) (d : DungeonId) (rest : List DungeonId)
  | readRunning
  | running (rest : List DungeonId)
  | processing (d : DungeonId) (rest : List DungeonId)
  | waves (d : DungeonId) (rest : List DungeonId)
  | readPlayers (d : DungeonId) (rest : List DungeonId)
  | checkRooms (d : DungeonId) (rest : List DungeonId) (rooms : List RoomId)
  | finish (d : DungeonId) (rest : List DungeonId)
  | checkState (d : DungeonId) (rest : List DungeonId)
  | readFinished
  | finished (rest : List DungeonId)
  | finishDungeon (d : DungeonId) (rest : List DungeonId)
  | released (d : DungeonId) (rest : List DungeonId)

/-- What one call of the tick finds: a clock reading and the iteration orders of its containers. -/
structure TickReading where
  now : Int := 0
  dungeons : List DungeonId := []
  sessions : List SessionId := []
  rooms : List RoomId := []

/-- The managers with the operations under way, the catalogs and the members of the tick service. -/
structure Service where
  threads : Threads := {}
  content : Content := {}
  processing : Processing := .idle
  pendingHits : IdMap (IdMap PendingSkillHit) := ∅
  place : TickPlace := .idle
  now : Int := 0
  waitingSince : IdMap Int := ∅
  finishedSince : IdMap Int := ∅

/-- The calls that a session makes, apart from the one that reads the catalog. -/
def isRequest : ThreadStep → Bool
  | .createDungeon .. => false
  | .tickSweep .. | .tickRemoveParticipant | .tickStart .. | .tickCancel _ | .tickFinish _
  | .tickRelease => false
  | _ => true

inductive ServiceStep where
  | createDungeon (sessionId : SessionId) (parties : PartyManager) (partyId : PartyId)
      (templateId : DungeonTemplateId) (now : Int)
  | request (step : ThreadStep)
  | receive (serverTick : UInt32) (dungeonId : DungeonId) (datagram : DungeonUdpSession.Datagram)
  | addContent (op : ContentOp)
  | stopTick
  | stopManager
  | stopUdp
  | tick (reading : TickReading)

namespace Service

/-- Every player is in the last room of the template, and there is one. -/
def playersGathered (dungeon : DungeonInstance) : Bool :=
  match dungeon.dungeonTemplate.rooms.getLast? with
  | none => false
  | some finalRoom =>
    !dungeon.players.isEmpty && dungeon.players.toList.all (·.2.roomId = finalRoom.id)

def manager (w : Service) : DungeonManager := w.threads.history.manager

/-- A pointer that the tick has got from `FindDungeon`. -/
def pointer (w : Service) (d : DungeonId) : Option DungeonInstance :=
  (w.manager.findDungeon d).or w.threads.retired[d]?

def withManager (w : Service) (manager : DungeonManager) : Service :=
  { w with threads := { w.threads with history := { w.threads.history with manager } } }

def withUdp (w : Service) (udp : DungeonUdpManager) : Service :=
  { w with threads := { w.threads with udp } }

/-- A call of the tick that other threads know of. -/
def thread (w : Service) (step : ThreadStep) (place : TickPlace) : Option Service :=
  (w.threads.next step).map fun threads => { w with threads, place }

/-- The rest of an operation in the UDP manager, then what comes after it. -/
def drain (w : Service) (after : Service) : Option Service :=
  if w.threads.removing ≠ [] then w.thread .tickRemoveParticipant w.place
  else if w.threads.releasing ≠ [] then w.thread .tickRelease w.place
  else some after

/-- A list of dungeons, as the manager reports it. -/
def readIds (w : Service) (state : DungeonState) (ids : List DungeonId) (place : TickPlace) :
    Option Service :=
  if ids.Perm (w.manager.dungeonIdsIn state) then some { w with place } else none

section

variable (arithmetic : Arithmetic) (skillCatalog : SkillCatalog) (config : TickConfig)

/-- The next step of the processors on the dungeon of the loop. -/
def process (w : Service) (d : DungeonId) (rest : List DungeonId) (order : List SessionId) : Service :=
  let server := DungeonTickService.processStep arithmetic skillCatalog w.content.enemies d order
    { managers := { dungeons := w.manager, udp := w.threads.udp }
      processing := w.processing, pendingHits := w.pendingHits }
  let w := (w.withManager server.managers.dungeons).withUdp server.managers.udp
  { w with
    processing := server.processing
    pendingHits := server.pendingHits
    place := match server.processing with
      | .idle => .waves d rest
      | _ => .processing d rest }

/-- The next call of `HandleTick`. -/
def tick (w : Service) (reading : TickReading) : Option Service :=
  match w.place with
  | .idle =>
    let swept := w.manager.sweepAbandonedParticipants reading.now config.reconnectGrace
      config.maxDungeonLifetime
    (w.thread (.tickSweep reading.now config.reconnectGrace config.maxDungeonLifetime)
      (.sweeping swept.1.releasedDungeons)).map fun w => { w with now := reading.now }
  | .sweeping released => w.drain { w with
      waitingSince := released.foldl (·.erase ·) w.waitingSince
      finishedSince := released.foldl (·.erase ·) w.finishedSince
      place := .readWaiting }
  | .readWaiting =>
    w.readIds .waiting reading.dungeons (.waiting reading.dungeons reading.dungeons)
  | .waiting ids [] => some { w with
      waitingSince := w.waitingSince.filter fun d _ => d ∈ ids
      place := .readRunning }
  | .waiting ids (d :: rest) =>
    some { w with place := .checkDisconnected ids d rest (w.manager.findDungeon d).isSome }
  | .checkDisconnected ids d rest found =>
    if found ∧ (w.pointer d).any (·.hasDisconnectedParticipants) then
      some { w with waitingSince := w.waitingSince.erase d, place := .waiting ids rest }
    else some { w with place := .checkAuthenticated ids d rest }
  | .checkAuthenticated ids d rest =>
    if w.threads.udp.allParticipantsAuthenticated d then some { w with place := .start ids d rest }
    else match w.waitingSince[d]? with
      | none => some { w with
          waitingSince := w.waitingSince.insert d w.now, place := .waiting ids rest }
      | some since =>
        if w.now - since ≥ config.readyTimeout then some { w with place := .cancel ids d rest }
        else some { w with place := .waiting ids rest }
  | .start ids d rest =>
    (w.thread (.tickStart w.content.enemies d) (.refresh ids d rest)).map fun w' =>
      match (w.manager.startDungeon w.content.enemies d).1 with
      | .ok true => w'
      | _ => { w' with waitingSince := w.waitingSince.erase d, place := .waiting ids rest }
  | .refresh ids d rest => some { w.withUdp (w.threads.udp.refreshAllActivity d reading.now) with
      waitingSince := w.waitingSince.erase d, place := .waiting ids rest }
  | .cancel ids d rest => w.thread (.tickCancel d) (.cancelled ids d rest)
  | .cancelled ids d rest => w.drain { w with
      waitingSince := w.waitingSince.erase d, place := .waiting ids rest }
  | .readRunning => w.readIds .running reading.dungeons (.running reading.dungeons)
  | .running [] => some { w with place := .readFinished }
  | .running (d :: rest) => some { w.withUdp
      (w.threads.udp.removeInactiveEndpoints d config.udpIdleTimeout reading.now).2 with
      place := .processing d rest }
  | .processing d rest => some (w.process arithmetic skillCatalog d rest reading.sessions)
  | .waves d rest => match w.manager.findDungeon d with
    | none => some { w with place := .running rest }
    | some _ => some { w.withManager (w.manager.modifyDungeon d
        fun dungeon => (dungeon.advanceRoomWaves w.content.enemies).2) with
        place := .readPlayers d rest }
  | .readPlayers d rest => match w.manager.findDungeon d with
    | none => some { w with place := .running rest }
    | some dungeon =>
      if dungeon.state ≠ .running ∨ ¬ playersGathered dungeon then
        some { w with place := .checkState d rest }
      else if reading.rooms.Perm dungeon.rooms.keys then
        some { w with place := .checkRooms d rest reading.rooms }
      else none
  | .checkRooms d rest [] => some { w with place := .finish d rest }
  | .checkRooms d rest (room :: rooms) =>
    if ((w.manager.findDungeon d).bind (·.findRoom room)).any (·.isCleared) then
      some { w with place := .checkRooms d rest rooms }
    else some { w with place := .checkState d rest }
  | .finish d rest => some { w.withManager (w.manager.modifyDungeon d (·.finish.2)) with
      place := .checkState d rest }
  | .checkState d rest => some { w with
      finishedSince :=
        if (w.pointer d).any (·.state = .finished) then w.finishedSince.insertIfNew d w.now
        else w.finishedSince
      place := .running rest }
  | .readFinished => w.readIds .finished reading.dungeons (.finished reading.dungeons)
  | .finished [] => some { w with place := .idle }
  | .finished (d :: rest) => match w.manager.findDungeon d with
    | none => some { w with finishedSince := w.finishedSince.erase d, place := .finished rest }
    | some _ =>
      let finishedSince := w.finishedSince.insertIfNew d w.now
      if finishedSince[d]?.any fun since => w.now - since ≥ finishedBroadcastDuration then
        some { w with finishedSince, place := .finishDungeon d rest }
      else some { w with finishedSince, place := .finished rest }
  | .finishDungeon d rest => w.thread (.tickFinish d) (.released d rest)
  | .released d rest => w.drain { w with
      finishedSince := w.finishedSince.erase d, place := .finished rest }

/-- One call. The readings of the tick come from its own thread, and the shutdown is the only
caller of the three `Stop` functions. -/
def next (parse : Parse) (w : Service) : ServiceStep → Option Service
  | .createDungeon s parties partyId templateId now =>
    w.thread (.createDungeon s parties w.content.dungeons partyId templateId now) w.place
  | .request step => if isRequest step then w.thread step w.place else none
  | .receive serverTick d datagram =>
    some (w.withUdp (w.threads.udp.handleReceive parse serverTick d datagram).2)
  | .addContent op => some { w with content := op.apply w.content }
  | .stopTick => match w.place with
    | .idle => some { w with waitingSince := ∅, finishedSince := ∅ }
    | _ => none
  | .stopManager => (w.threads.manage .stop).map fun threads => { w with threads }
  | .stopUdp => some (w.withUdp w.threads.udp.stop)
  | .tick reading => w.tick arithmetic skillCatalog config reading

end

end Service

end DnfServer.Tick
