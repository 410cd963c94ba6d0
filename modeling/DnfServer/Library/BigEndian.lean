/-!
# Big-endian numbers

Fixed-width numbers and their bytes, the most significant byte first. Reading is inverse to
writing in both directions.
-/

namespace DnfServer.Library

def readUInt16 (b0 b1 : UInt8) : UInt16 := b0.toUInt16 <<< 8 ||| b1.toUInt16

def readUInt32 (b0 b1 b2 b3 : UInt8) : UInt32 :=
  b0.toUInt32 <<< 24 ||| b1.toUInt32 <<< 16 ||| b2.toUInt32 <<< 8 ||| b3.toUInt32

theorem toNat_readUInt16 (b0 b1 : UInt8) : (readUInt16 b0 b1).toNat = b0.toNat * 256 + b1.toNat := by
  have h0 := b0.toNat_lt
  have hshift : (b0.toUInt16 <<< 8).toNat = b0.toNat <<< 8 := by
    simp [Nat.shiftLeft_eq]
    omega
  rw [readUInt16, UInt16.toNat_or, hshift, UInt8.toNat_toUInt16,
    ← Nat.shiftLeft_add_eq_or_of_lt b1.toNat_lt, Nat.shiftLeft_eq]

theorem toNat_readUInt32 (b0 b1 b2 b3 : UInt8) : (readUInt32 b0 b1 b2 b3).toNat =
    ((b0.toNat * 256 + b1.toNat) * 256 + b2.toNat) * 256 + b3.toNat := by
  have h0 := b0.toNat_lt
  have h1 := b1.toNat_lt
  have h2 := b2.toNat_lt
  have h3 := b3.toNat_lt
  have hshift0 : (b0.toUInt32 <<< 24).toNat = b0.toNat <<< 24 := by
    simp [Nat.shiftLeft_eq]
    omega
  have hshift1 : (b1.toUInt32 <<< 16).toNat = b1.toNat <<< 16 := by
    simp [Nat.shiftLeft_eq]
    omega
  have hshift2 : (b2.toUInt32 <<< 8).toNat = b2.toNat <<< 8 := by
    simp [Nat.shiftLeft_eq]
    omega
  -- each byte fills the zeros that the shift before it has left
  have hor1 : b0.toNat <<< 24 ||| b1.toNat <<< 16 = (b0.toNat * 256 + b1.toNat) <<< 16 := by
    rw [← Nat.shiftLeft_add_eq_or_of_lt (by rw [Nat.shiftLeft_eq]; omega)]
    simp only [Nat.shiftLeft_eq]
    omega
  have hor2 (high : Nat) : high <<< 16 ||| b2.toNat <<< 8 = (high * 256 + b2.toNat) <<< 8 := by
    rw [← Nat.shiftLeft_add_eq_or_of_lt (by rw [Nat.shiftLeft_eq]; omega)]
    simp only [Nat.shiftLeft_eq]
    omega
  have hor3 (high : Nat) : high <<< 8 ||| b3.toNat = high * 256 + b3.toNat := by
    rw [← Nat.shiftLeft_add_eq_or_of_lt h3, Nat.shiftLeft_eq]
  simp only [readUInt32, UInt32.toNat_or, hshift0, hshift1, hshift2, UInt8.toNat_toUInt32, hor1, hor2,
    hor3]

/-! ## Reading what was written -/

theorem readUInt16_bytes (n : UInt16) : readUInt16 (n >>> 8).toUInt8 n.toUInt8 = n := by
  have hlt := n.toNat_lt
  refine UInt16.toNat_inj.mp ?_
  simp only [toNat_readUInt16, UInt16.toNat_toUInt8, UInt16.toNat_shiftRight, UInt16.reduceToNat,
    Nat.shiftRight_eq_div_pow, Nat.reduceMod, Nat.reducePow]
  omega

theorem readUInt32_bytes (n : UInt32) :
    readUInt32 (n >>> 24).toUInt8 (n >>> 16).toUInt8 (n >>> 8).toUInt8 n.toUInt8 = n := by
  have hlt := n.toNat_lt
  refine UInt32.toNat_inj.mp ?_
  simp only [toNat_readUInt32, UInt32.toNat_toUInt8, UInt32.toNat_shiftRight, UInt32.reduceToNat,
    Nat.shiftRight_eq_div_pow, Nat.reduceMod, Nat.reducePow]
  omega

/-! ## Writing what was read -/

theorem bytes_readUInt16 (b0 b1 : UInt8) :
    (readUInt16 b0 b1 >>> 8).toUInt8 = b0 ∧ (readUInt16 b0 b1).toUInt8 = b1 := by
  have h0 := b0.toNat_lt
  have h1 := b1.toNat_lt
  refine ⟨UInt8.toNat_inj.mp ?_, UInt8.toNat_inj.mp ?_⟩ <;>
    simp only [UInt16.toNat_toUInt8, UInt16.toNat_shiftRight, UInt16.reduceToNat,
      Nat.shiftRight_eq_div_pow, Nat.reduceMod, Nat.reducePow, toNat_readUInt16] <;>
    omega

theorem bytes_readUInt32 (b0 b1 b2 b3 : UInt8) :
    (readUInt32 b0 b1 b2 b3 >>> 24).toUInt8 = b0 ∧ (readUInt32 b0 b1 b2 b3 >>> 16).toUInt8 = b1 ∧
      (readUInt32 b0 b1 b2 b3 >>> 8).toUInt8 = b2 ∧ (readUInt32 b0 b1 b2 b3).toUInt8 = b3 := by
  have h0 := b0.toNat_lt
  have h1 := b1.toNat_lt
  have h2 := b2.toNat_lt
  have h3 := b3.toNat_lt
  refine ⟨UInt8.toNat_inj.mp ?_, UInt8.toNat_inj.mp ?_, UInt8.toNat_inj.mp ?_, UInt8.toNat_inj.mp ?_⟩ <;>
    simp only [UInt32.toNat_toUInt8, UInt32.toNat_shiftRight, UInt32.reduceToNat,
      Nat.shiftRight_eq_div_pow, Nat.reduceMod, Nat.reducePow, toNat_readUInt32] <;>
    omega

end DnfServer.Library
