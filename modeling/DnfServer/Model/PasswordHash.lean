import DnfServer.Model.Accounts
import Mathlib.Algebra.Group.Nat.Defs

/-!
# The text of a password hash

What `ScryptPasswordHasher` writes into the accounts and reads back. A `std::string` is here the list of
its characters, one for each byte. The key derivation itself is left out.
-/

namespace DnfServer

namespace ScryptPasswordHasher

def scryptMaxMemory : UInt64 := 256 * 1024 * 1024
def saltByteCount : Nat := 16
def hashByteCount : Nat := 32

/-- `HEX_DIGITS` -/
def hexDigits : List Char := "0123456789abcdef".toList

structure ScryptHashData where
  n : UInt64 := 0
  r : UInt64 := 0
  p : UInt64 := 0
  salt : Vector UInt8 saltByteCount
  hash : Vector UInt8 hashByteCount
  deriving DecidableEq

/-- `IsValidEncodedPasswordHash`, where the size is the number of bytes. -/
def isValidEncodedPasswordHash (encodedPasswordHash : List Char) : Bool :=
  !encodedPasswordHash.isEmpty && encodedPasswordHash.length ≤ maxEncodedPasswordHashLength

def encodeHex {size : Nat} (bytes : Vector UInt8 size) : List Char :=
  bytes.toList.flatMap fun byte : UInt8 =>
    [hexDigits.getD (byte >>> 4).toNat '0', hexDigits.getD (byte &&& 0x0F).toNat '0']

def hexValue (character : Char) : Option UInt8 :=
  if '0' ≤ character ∧ character ≤ '9' then some (character.toNat - '0'.toNat).toUInt8
  else if 'a' ≤ character ∧ character ≤ 'f' then some (character.toNat - 'a'.toNat + 10).toUInt8
  else none

/-- The loop of `DecodeHex`. -/
def decodeBytes : List Char → Option (List UInt8)
  | [] => some []
  | [_] => none
  | first :: second :: encoded => do
    let high ← hexValue first
    let low ← hexValue second
    let bytes ← decodeBytes encoded
    return (high <<< 4 ||| low) :: bytes

theorem length_decodeBytes : ∀ {encoded : List Char} {bytes : List UInt8},
    decodeBytes encoded = some bytes → encoded.length = bytes.length * 2
  | [], bytes, h => by
    obtain rfl := Option.some.inj h
    rfl
  | [_], _, h => by cases h
  | first :: second :: encoded, bytes, h => by
    simp only [decodeBytes, Option.bind_eq_bind, Option.bind_eq_some_iff] at h
    obtain ⟨high, -, low, -, rest, hrest, heq⟩ := h
    obtain rfl := Option.some.inj heq
    have hlength := length_decodeBytes hrest
    simp only [List.length_cons]
    omega

def decodeHex (size : Nat) (encoded : List Char) : Option (Vector UInt8 size) :=
  if hsize : encoded.length = size * 2 then
    match hbytes : decodeBytes encoded with
    | none => none
    | some bytes => some ⟨bytes.toArray, by
        have hlength := length_decodeBytes hbytes
        rw [List.size_toArray]
        omega⟩
  else none

/-- `Split` from a start, where `part` is what it has passed since the last delimiter. -/
def splitFrom (part : List Char) : List Char → List (List Char)
  | [] => [part]
  | character :: rest =>
    if character = '$' then part :: splitFrom [] rest else splitFrom (part ++ [character]) rest

def split (value : List Char) : List (List Char) := splitFrom [] value

/-- `std::from_chars` for an unsigned number of 64 bits: the number, unless there is no digit or it is
too large, and what follows the digits. -/
def fromChars (text : List Char) : Option UInt64 × List Char :=
  let digits := text.takeWhile Char.isDigit
  let value := Nat.ofDigitChars 10 digits 0
  (if digits.isEmpty ∨ value ≥ 2 ^ 64 then none else some (UInt64.ofNat value),
    text.dropWhile Char.isDigit)

def parseUint64 (text : List Char) : Option UInt64 :=
  if text.isEmpty then none
  else
    let parsed := fromChars text
    if parsed.2.isEmpty then parsed.1 else none

def hasSafeScryptParameters (n r p : UInt64) : Bool :=
  if n < (1 : UInt64) <<< 14 ∨ n > (1 : UInt64) <<< 20 ∨ n &&& (n - 1) ≠ 0 ∨ r = 0 ∨ r > 32 ∨ p = 0 ∨ p > 16 then false
  else if n > 0xFFFFFFFFFFFFFFFF / 128 / r then false
  else 128 * n * r ≤ scryptMaxMemory

def parseEncodedHash (encodedPasswordHash : List Char) : Option ScryptHashData :=
  if ¬ isValidEncodedPasswordHash encodedPasswordHash then none
  else match split encodedPasswordHash with
    | [scheme, n, r, p, salt, hash] =>
      if scheme ≠ "scrypt".toList then none
      else do
        let n ← parseUint64 n
        let r ← parseUint64 r
        let p ← parseUint64 p
        if ¬ hasSafeScryptParameters n r p then none
        else
          let salt ← decodeHex saltByteCount salt
          let hash ← decodeHex hashByteCount hash
          return { n, r, p, salt, hash }
    | _ => none

/-- `std::to_string` -/
def toDecimal (value : UInt64) : List Char := Nat.toDigits 10 value.toNat

def encodeHash (data : ScryptHashData) : List Char :=
  "scrypt$".toList ++ toDecimal data.n ++ ['$'] ++ toDecimal data.r ++ ['$'] ++ toDecimal data.p ++
    ['$'] ++ encodeHex data.salt ++ ['$'] ++ encodeHex data.hash

end ScryptPasswordHasher

end DnfServer
