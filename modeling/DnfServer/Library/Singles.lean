import Mathlib.Algebra.Group.Nat.Defs

/-!
# Single-precision numbers above one

A number above one converts to a positive integer: its exponent is at least that of one, so its
mantissa has the leading bit, and the truncation keeps that bit.
-/

namespace DnfServer.Library

open Float.Model Float.Model.UnpackedFloat
set_option autoImplicit false

theorem mantissa_shift (em : ExtendedMantissa) (n : Nat) : (em >>> n).mantissa = em.mantissa / 2 ^ n := by
  have hrepeat : (Nat.repeat ExtendedMantissa.shiftRightOne n em).mantissa = em.mantissa / 2 ^ n := by
    induction n with
    | zero => simp [Nat.repeat]
    | succ n ih =>
      rw [Nat.repeat, ExtendedMantissa.shiftRightOne, ih, Nat.pow_succ, Nat.div_div_eq_div_mul]
  exact hrepeat

theorem roundToInt_pos {mantissa : Nat} {exponent : Int} (hm : 2 ^ 23 ≤ mantissa)
    (he : -23 ≤ exponent) : 0 < (roundToInt .positive mantissa exponent).toNat := by
  simp only [roundToInt, shiftToExponent, decreaseExponent, mantissa_shift,
    ExtendedMantissa.ofMantissaAndAccuracy, Sign.apply, Int.toNat_natCast]
  refine Nat.div_pos ?_ (Nat.two_pow_pos _)
  calc 2 ^ (0 - (exponent - (exponent - 0).toNat)).toNat
      ≤ 2 ^ 23 := Nat.pow_le_pow_right (by decide) (by omega)
    _ ≤ mantissa := hm
    _ ≤ mantissa <<< (exponent - 0).toNat :=
        Nat.shiftLeft_eq _ _ ▸ Nat.le_mul_of_pos_right _ (Nat.two_pow_pos _)

/-- A number with the exponent of one or more is not subnormal. -/
theorem mantissa_of_unpack {b : BitVec Format.binary32.numBits} {s : Sign} {m : Nat} {e : Int}
    {h : 0 < m} (hb : UnpackedFloat.unpack Format.binary32 b = .finite s m e h) (he : -23 ≤ e) :
    2 ^ 23 ≤ m := by
  unfold UnpackedFloat.unpack at hb
  dsimp only at hb
  by_cases hmax : unpackExponent b = -1#_
  · rw [if_pos hmax] at hb
    by_cases hzero : unpackMantissa b = 0#_
    · rw [if_pos hzero] at hb
      cases hb
    · rw [if_neg hzero] at hb
      cases hb
  rw [if_neg hmax] at hb
  by_cases hmin : unpackExponent b = 0#_
  · rw [if_pos hmin] at hb
    by_cases hzero : unpackMantissa b = 0#_
    · rw [dif_pos hzero] at hb
      cases hb
    · rw [dif_neg hzero] at hb
      injection hb with _ _ hexponent
      rw [hmin] at hexponent
      simp [Format.exponentBias] at hexponent
      omega
  · rw [if_neg hmin] at hb
    injection hb with _ hmantissa
    rw [← hmantissa, BitVec.toNat_append]
    exact Nat.le_trans (by decide) Nat.left_le_or

theorem toUInt32_pos {d : Float32} (hd : (1 : Float32) < d) : 0 < d.toUInt32 := by
  have hone : (1 : Float32).toModel.unpack = .finite .positive (2 ^ 23) (-23) (by decide) := by
    rfl
  have hlt : UnpackedFloat.compare (1 : Float32).toModel.unpack d.toModel.unpack = some .lt := by
    have h : UnpackedFloat.lt (1 : Float32).toModel.unpack d.toModel.unpack = true :=
      of_decide_eq_true hd
    simpa [UnpackedFloat.lt] using h
  have hclamp {n : Nat} (hn : 0 < n) : 0 < UInt32.ofNatClamp n := by
    unfold UInt32.ofNatClamp
    split <;> simp [UInt32.lt_iff_toNat_lt, hn]
  refine hclamp ?_
  rw [hone] at hlt
  cases hd : d.toModel.unpack with
  | notANumber =>
    rw [hd] at hlt
    cases hlt
  | infinity s =>
    rw [hd] at hlt
    cases s with
    | negative => cases hlt
    | positive => decide
  | zero s =>
    rw [hd] at hlt
    cases hlt
  | finite s m e hm =>
    rw [hd] at hlt
    cases s with
    | negative => cases hlt
    | positive =>
      have he : -23 ≤ e := by
        refine Int.not_lt.mp fun hlow => ?_
        have hgt : Ord.compare (-23 : Int) e = .gt := Int.compare_eq_gt.mpr (by omega)
        have hexponent : some ((Ord.compare (-23 : Int) e).then (Ord.compare (2 ^ 23) m)) = some .lt := hlt
        rw [hgt] at hexponent
        cases hexponent
      exact roundToInt_pos (mantissa_of_unpack hd he) he

end DnfServer.Library
