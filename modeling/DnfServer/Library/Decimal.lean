import Mathlib.Data.List.Induction

/-!
# Decimal texts

The digits of a number are read back as that number, and a text of digits is the digits of its number
after some leading zeros. A text of ASCII characters has as many bytes as characters.
-/

namespace DnfServer.Library

set_option autoImplicit false

theorem utf8ByteSize_ofList {text : List Char} (h : ∀ c ∈ text, c.utf8Size = 1) :
    (String.ofList text).utf8ByteSize = text.length := by
  induction text with
  | nil => rfl
  | cons c text ih =>
    obtain ⟨hc, htext⟩ := List.forall_mem_cons.mp h
    rw [String.ofList_cons, String.utf8ByteSize_append, String.utf8ByteSize_singleton, hc, ih htext,
      List.length_cons, Nat.add_comm]

theorem isDigit_toDigits {n : Nat} {c : Char} (h : c ∈ Nat.toDigits 10 n) : c.isDigit = true :=
  Nat.isDigit_of_mem_toDigits (by decide) (by decide) h

/-- A digit is the digit of its value, which is below ten. -/
theorem digitChar_of_isDigit {c : Char} (h : c.isDigit = true) :
    c.toNat - '0'.toNat < 10 ∧ Nat.digitChar (c.toNat - '0'.toNat) = c := by
  simp only [Char.isDigit, Bool.and_eq_true, decide_eq_true_eq] at h
  have hlow : 48 ≤ c.toNat := UInt32.le_iff_toNat_le.mp h.1
  have hhigh : c.toNat ≤ 57 := UInt32.le_iff_toNat_le.mp h.2
  have hzero : '0'.toNat = 48 := rfl
  refine ⟨by omega, Char.toNat_inj.mp ?_⟩
  rw [Nat.toNat_digitChar_of_lt_ten (by omega)]
  omega

/-- Leading zeros are all that two texts of the same number can differ in. -/
theorem exists_leading_zeros {text : List Char} (hdigits : ∀ c ∈ text, c.isDigit = true)
    (hne : text ≠ []) :
    ∃ k, text = List.replicate k '0' ++ Nat.toDigits 10 (Nat.ofDigitChars 10 text 0) := by
  induction text using List.reverseRecOn with
  | nil => exact absurd rfl hne
  | append_singleton text c ih =>
    obtain ⟨hlt, hchar⟩ := digitChar_of_isDigit (hdigits c (by simp))
    have hvalue : Nat.ofDigitChars 10 (text ++ [c]) 0 =
        10 * Nat.ofDigitChars 10 text 0 + (c.toNat - '0'.toNat) := by
      rw [Nat.ofDigitChars_append, Nat.ofDigitChars_cons, Nat.ofDigitChars_nil]
    have hlast : Nat.toDigits 10 (c.toNat - '0'.toNat) = [c] := by
      rw [Nat.toDigits_of_lt_base hlt, hchar]
    rw [hvalue]
    by_cases htext : text = []
    · subst htext
      exact ⟨0, by rw [Nat.ofDigitChars_nil, Nat.mul_zero, Nat.zero_add, hlast]; rfl⟩
    obtain ⟨k, hk⟩ := ih (fun x hx => hdigits x (List.mem_append_left _ hx)) htext
    rcases Nat.eq_zero_or_pos (Nat.ofDigitChars 10 text 0) with hzero | hpos
    · refine ⟨k + 1, ?_⟩
      rw [hzero, Nat.toDigits_zero] at hk
      rw [hzero, Nat.mul_zero, Nat.zero_add, hlast, hk, List.replicate_succ']
    · refine ⟨k, ?_⟩
      rw [← Nat.toDigits_append_toDigits (by decide) hpos hlt, hlast, ← List.append_assoc, ← hk]

end DnfServer.Library
