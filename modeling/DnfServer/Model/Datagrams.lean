import DnfServer.Model.UdpSession

/-!
# Reading the datagrams of a client

The layout of a FlatBuffers buffer as far as the four messages of a client need it: the
position of the root table, the table's offset to its vtable, and the position of each
field there, with the schema's default for a field that is left out. A read outside of the
buffer fails. This is a `Parse` that treats the buffers made by a FlatBuffers builder as the
library does, and the bytes below are the buffers that a builder makes.
-/

namespace DnfServer

namespace FlatBuffer

/-- A little-endian number. -/
def readNat (width : Nat) (bytes : List UInt8) (position : Nat) : Option Nat :=
  let field := (bytes.drop position).take width
  if field.length = width then some (field.foldr (fun byte rest => byte.toNat + 256 * rest) 0)
  else none

/-- Where the table keeps a field, `some none` when it leaves the field out. -/
def fieldPosition (bytes : List UInt8) (table slot : Nat) : Option (Option Nat) := do
  let back ← readNat 4 bytes table
  let vtable := table - back
  let size ← readNat 2 bytes vtable
  if 4 + 2 * slot < size then
    let offset ← readNat 2 bytes (vtable + 4 + 2 * slot)
    return if offset = 0 then none else some (table + offset)
  else return none

def readField (width default : Nat) (bytes : List UInt8) (table slot : Nat) : Option Nat := do
  match ← fieldPosition bytes table slot with
  | none => return default
  | some position => readNat width bytes position

end FlatBuffer

open FlatBuffer

def readPayload (bytes : List UInt8) (payloadType payload : Nat) : Option DungeonPayload := do
  match payloadType with
  | 1 =>
    let sequence ← readField 4 0 bytes payload 0
    let moveX ← readField 4 0 bytes payload 1
    let moveY ← readField 4 0 bytes payload 2
    let jump ← readField 1 0 bytes payload 3
    return .playerMovement (.ofNat sequence) ⟨.ofNat moveX⟩ ⟨.ofNat moveY⟩ (jump ≠ 0)
  | 3 =>
    let sessionId ← readField 8 0 bytes payload 0
    let token ← readField 8 0 bytes payload 1
    return .udpHello sessionId (.ofNat token)
  | 4 =>
    let sessionId ← readField 8 0 bytes payload 0
    return .udpHeartbeat sessionId
  | 5 =>
    let sequence ← readField 4 0 bytes payload 0
    let skillId ← readField 4 0 bytes payload 1
    let directionX ← readField 4 0 bytes payload 2
    let directionY ← readField 4 0 bytes payload 3
    return .playerAttack (.ofNat sequence) (.ofNat skillId) ⟨.ofNat directionX⟩ ⟨.ofNat directionY⟩
  | _ => return .other

/-- A `DungeonMessage` with the file identifier "DNFD". -/
def readDungeonMessage : Parse := fun bytes => do
  if (bytes.drop 4).take 4 ≠ [68, 78, 70, 68] then none
  else
    let root ← readNat 4 bytes 0
    let protocolVersion ← readField 2 2 bytes root 0
    let dungeonId ← readField 8 0 bytes root 1
    let payloadType ← readField 1 0 bytes root 2
    match ← fieldPosition bytes root 3 with
    | none => return { protocolVersion := .ofNat protocolVersion, dungeonId, payload := .other }
    | some position =>
      let offset ← readNat 4 bytes position
      let payload ← readPayload bytes payloadType (position + offset)
      return { protocolVersion := .ofNat protocolVersion, dungeonId, payload }

/-! ## Datagrams to dungeon `1` -/

/-- A Hello of the session with the token. -/
def helloBytes (sessionId token : UInt8) : List UInt8 :=
  [20, 0, 0, 0, 68, 78, 70, 68, 12, 0, 24, 0, 0, 0, 12, 0, 7, 0, 8, 0, 12, 0, 0, 0, 0, 0, 0, 3,
    24, 0, 0, 0, 1, 0, 0, 0, 0, 0, 0, 0, 0, 0, 0, 0, 8, 0, 20, 0, 4, 0, 12, 0, 8, 0, 0, 0,
    sessionId, 0, 0, 0, 0, 0, 0, 0, token, 0, 0, 0, 0, 0, 0, 0]

/-- A heartbeat of the session. -/
def heartbeatBytes (sessionId : UInt8) : List UInt8 :=
  [20, 0, 0, 0, 68, 78, 70, 68, 12, 0, 26, 0, 0, 0, 12, 0, 7, 0, 8, 0, 12, 0, 0, 0, 0, 0, 0, 4,
    24, 0, 0, 0, 1, 0, 0, 0, 0, 0, 0, 0, 0, 0, 0, 0, 0, 0, 6, 0, 12, 0, 4, 0, 6, 0, 0, 0,
    sessionId, 0, 0, 0, 0, 0, 0, 0]

/-- The four bytes of a sequence number. -/
def sequenceBytes (sequence : UInt32) : List UInt8 :=
  [sequence.toUInt8, (sequence >>> (8 : UInt32)).toUInt8, (sequence >>> (16 : UInt32)).toUInt8,
    (sequence >>> (24 : UInt32)).toUInt8]

/-- A movement of length one along the second axis. -/
def movementBytes (sequence : UInt32) : List UInt8 :=
  [20, 0, 0, 0, 68, 78, 70, 68, 12, 0, 22, 0, 0, 0, 12, 0, 7, 0, 8, 0, 12, 0, 0, 0, 0, 0, 0, 1,
    24, 0, 0, 0, 1, 0, 0, 0, 0, 0, 0, 0, 0, 0, 10, 0, 12, 0, 4, 0, 0, 0, 8, 0, 10, 0, 0, 0] ++
    sequenceBytes sequence ++ [0, 0, 128, 63]

/-- An attack with skill `7` along the first axis. -/
def attackBytes (sequence : UInt32) : List UInt8 :=
  [20, 0, 0, 0, 68, 78, 70, 68, 12, 0, 26, 0, 0, 0, 12, 0, 7, 0, 8, 0, 12, 0, 0, 0, 0, 0, 0, 5,
    28, 0, 0, 0, 1, 0, 0, 0, 0, 0, 0, 0, 0, 0, 0, 0, 0, 0, 10, 0, 16, 0, 4, 0, 8, 0, 12, 0,
    10, 0, 0, 0] ++ sequenceBytes sequence ++ [7, 0, 0, 0, 0, 0, 128, 63]

example : decodeUdpHello readDungeonMessage (helloBytes 101 12) = some ⟨1, 101, 12⟩ := by decide

example : decodePlayerMovement readDungeonMessage (movementBytes 258) =
    some ⟨1, 258, ⟨0⟩, ⟨1065353216⟩, false⟩ := by decide

example : decodePlayerAttack readDungeonMessage (attackBytes 258) =
    some ⟨1, 258, 7, ⟨1065353216⟩, ⟨0⟩⟩ := by decide

end DnfServer
