import DnfServer.Library.Decimal
import DnfServer.Model.PasswordHash
import Mathlib.Data.List.TakeWhile

/-!
# The text of a password hash round-trips

What is written for safe parameters is read back, and what is read was written but for leading zeros of
the three numbers. No field contains the delimiter, so splitting a text undoes joining the fields.
-/

namespace DnfServer.Auth

open DnfServer.Library ScryptPasswordHasher
set_option autoImplicit false

/-! ## Fields -/

theorem splitFrom_append {part : List Char} (h : '$' ∉ part) (passed value : List Char) :
    splitFrom passed (part ++ value) = splitFrom (passed ++ part) value := by
  induction part generalizing passed with
  | nil => rw [List.nil_append, List.append_nil]
  | cons c part ih =>
    obtain ⟨hc, hpart⟩ := not_or.mp (mt List.mem_cons.mpr h)
    rw [List.cons_append, splitFrom, if_neg (Ne.symm hc), ih hpart, List.append_assoc]
    rfl

theorem split_delimited {part : List Char} (h : '$' ∉ part) (value : List Char) :
    split (part ++ '$' :: value) = part :: split value := by
  rw [split, splitFrom_append h, splitFrom, if_pos rfl]
  rfl

theorem split_last {part : List Char} (h : '$' ∉ part) : split part = [part] := by
  have hsplit := splitFrom_append h [] []
  rw [List.append_nil, List.nil_append] at hsplit
  exact hsplit

/-- The first field of a text, and what follows the delimiter. -/
theorem eq_of_split {value part : List Char} {parts : List (List Char)}
    (h : split value = part :: parts) :
    '$' ∉ part ∧
      (value = part ∧ parts = [] ∨ ∃ rest, value = part ++ '$' :: rest ∧ split rest = parts) := by
  have hfrom (value : List Char) : ∀ passed : List Char, '$' ∉ passed →
      splitFrom passed value = part :: parts → '$' ∉ part ∧
        (passed ++ value = part ∧ parts = [] ∨
          ∃ rest, passed ++ value = part ++ '$' :: rest ∧ split rest = parts) := by
    induction value with
    | nil =>
      intro passed hpassed h
      obtain ⟨rfl, hparts⟩ := List.cons.inj h
      exact ⟨hpassed, .inl ⟨List.append_nil _, hparts.symm⟩⟩
    | cons c value ih =>
      intro passed hpassed h
      rw [splitFrom] at h
      split at h
      · rename_i hc
        obtain ⟨rfl, hparts⟩ := List.cons.inj h
        exact ⟨hpassed, .inr ⟨value, by rw [hc], hparts⟩⟩
      · rename_i hc
        have hnext : '$' ∉ passed ++ [c] := by
          simp [hpassed, Ne.symm hc]
        have hrest := ih (passed ++ [c]) hnext h
        rwa [List.append_assoc, List.singleton_append] at hrest
  have hvalue := hfrom value [] List.not_mem_nil h
  rwa [List.nil_append] at hvalue

/-! ## Numbers -/

theorem delimiter_notMem_toDecimal (value : UInt64) : '$' ∉ toDecimal value := by
  intro h
  exact absurd (isDigit_toDigits h) (by decide)

theorem parseUint64_digits {text : List Char} (hdigits : ∀ c ∈ text, c.isDigit = true) (hne : text ≠ [])
    (hlt : Nat.ofDigitChars 10 text 0 < 2 ^ 64) :
    parseUint64 text = some (UInt64.ofNat (Nat.ofDigitChars 10 text 0)) := by
  have htake : text.takeWhile Char.isDigit = text := List.takeWhile_eq_self_iff.mpr hdigits
  have hdrop : text.dropWhile Char.isDigit = [] := List.dropWhile_eq_nil_iff.mpr hdigits
  have hempty : text.isEmpty = false := List.isEmpty_eq_false_iff.mpr hne
  have hvalid : ¬ (text.isEmpty = true ∨ Nat.ofDigitChars 10 text 0 ≥ 2 ^ 64) := by
    rw [hempty]
    exact not_or.mpr ⟨Bool.false_ne_true, Nat.not_le.mpr hlt⟩
  simp only [parseUint64, fromChars, htake, hdrop]
  rw [hempty, if_neg Bool.false_ne_true, if_pos List.isEmpty_nil, if_neg (hempty ▸ hvalid)]

theorem parseUint64_toDecimal (value : UInt64) : parseUint64 (toDecimal value) = some value := by
  have hvalue : Nat.ofDigitChars 10 (toDecimal value) 0 = value.toNat := Nat.ofDigitChars_ten_toDigits
  have hdigits : ∀ c ∈ toDecimal value, c.isDigit = true := fun c hc => isDigit_toDigits hc
  rw [parseUint64_digits hdigits Nat.toDigits_ne_nil (hvalue ▸ value.toNat_lt), hvalue,
    UInt64.ofNat_toNat]

/-- A text that is read as a number is its digits after some leading zeros. -/
theorem eq_of_parseUint64 {text : List Char} {value : UInt64} (h : parseUint64 text = some value) :
    ∃ k, text = List.replicate k '0' ++ toDecimal value := by
  unfold parseUint64 at h
  by_cases hempty : text.isEmpty = true
  · rw [if_pos hempty] at h
    cases h
  rw [if_neg hempty] at h
  by_cases hrest : (fromChars text).2.isEmpty = true
  · have hdigits : ∀ c ∈ text, c.isDigit = true :=
      List.dropWhile_eq_nil_iff.mp (List.isEmpty_iff.mp hrest)
    have hne : text ≠ [] := fun hnil => hempty (hnil ▸ rfl)
    rw [if_pos hrest, fromChars, List.takeWhile_eq_self_iff.mpr hdigits] at h
    by_cases hinvalid : text.isEmpty = true ∨ Nat.ofDigitChars 10 text 0 ≥ 2 ^ 64
    · rw [if_pos hinvalid] at h
      cases h
    · rw [if_neg hinvalid] at h
      obtain rfl := Option.some.inj h
      have hlt : Nat.ofDigitChars 10 text 0 < 2 ^ 64 := Nat.not_le.mp (not_or.mp hinvalid).2
      obtain ⟨k, hk⟩ := exists_leading_zeros hdigits hne
      refine ⟨k, ?_⟩
      rwa [toDecimal, UInt64.toNat_ofNat_of_lt' hlt]
  · rw [if_neg hrest] at h
    cases h

/-! ## Bytes -/

theorem hexValue_hexDigits {value : UInt8} (h : value.toNat < 16) :
    hexValue (ScryptPasswordHasher.hexDigits.getD value.toNat '0') = some value := by
  have hdigits : ∀ k : Fin 16,
      hexValue (ScryptPasswordHasher.hexDigits.getD k '0') = some (UInt8.ofNat k) := by decide
  have hvalue := hdigits ⟨value.toNat, h⟩
  rwa [UInt8.ofNat_toNat] at hvalue

/-- A hexadecimal digit is the digit of its value. -/
theorem hexDigits_of_hexValue {c : Char} {value : UInt8} (h : hexValue c = some value) :
    value.toNat < 16 ∧ ScryptPasswordHasher.hexDigits.getD value.toNat '0' = c := by
  unfold hexValue at h
  have hdigit : ∀ k : Fin 10, ScryptPasswordHasher.hexDigits.getD k '0' = Char.ofNat (48 + k) := by decide
  have hletter : ∀ k : Fin 6,
      ScryptPasswordHasher.hexDigits.getD (k + 10) '0' = Char.ofNat (97 + k) := by decide
  split at h
  · rename_i hrange
    obtain rfl := Option.some.inj h
    have hlow : 48 ≤ c.toNat := UInt32.le_iff_toNat_le.mp hrange.1
    have hhigh : c.toNat ≤ 57 := UInt32.le_iff_toNat_le.mp hrange.2
    have hchar := hdigit ⟨c.toNat - 48, by omega⟩
    have hvalue : (c.toNat - 48).toUInt8.toNat = c.toNat - 48 :=
      UInt8.toNat_ofNat_of_lt' (show _ < 256 by omega)
    rw [show '0'.toNat = 48 from rfl]
    rw [hvalue, hchar, Nat.add_sub_cancel' hlow, Char.ofNat_toNat]
    exact ⟨by omega, rfl⟩
  split at h
  · rename_i hrange
    obtain rfl := Option.some.inj h
    have hlow : 97 ≤ c.toNat := UInt32.le_iff_toNat_le.mp hrange.1
    have hhigh : c.toNat ≤ 102 := UInt32.le_iff_toNat_le.mp hrange.2
    have hchar := hletter ⟨c.toNat - 97, by omega⟩
    have hvalue : (c.toNat - 97 + 10).toUInt8.toNat = c.toNat - 97 + 10 :=
      UInt8.toNat_ofNat_of_lt' (show _ < 256 by omega)
    rw [show 'a'.toNat = 97 from rfl]
    rw [hvalue, hchar, Nat.add_sub_cancel' hlow, Char.ofNat_toNat]
    exact ⟨by omega, rfl⟩
  · cases h

/-- The two halves of a byte. -/
theorem halves (byte : UInt8) : (byte >>> 4).toNat < 16 ∧ (byte &&& 0x0F).toNat < 16 ∧
    (byte >>> 4) <<< 4 ||| (byte &&& 0x0F) = byte := by
  have hbytes : ∀ k : Fin 256, (UInt8.ofNat k >>> 4).toNat < 16 ∧ (UInt8.ofNat k &&& 0x0F).toNat < 16 ∧
      (UInt8.ofNat k >>> 4) <<< 4 ||| (UInt8.ofNat k &&& 0x0F) = UInt8.ofNat k := by
    decide +kernel
  have hbyte := hbytes ⟨byte.toNat, byte.toNat_lt⟩
  rwa [UInt8.ofNat_toNat] at hbyte

theorem halves_of (high low : UInt8) (hhigh : high.toNat < 16) (hlow : low.toNat < 16) :
    (high <<< 4 ||| low) >>> 4 = high ∧ (high <<< 4 ||| low) &&& 0x0F = low := by
  have hbytes : ∀ a b : Fin 16, (UInt8.ofNat a <<< 4 ||| UInt8.ofNat b) >>> 4 = UInt8.ofNat a ∧
      (UInt8.ofNat a <<< 4 ||| UInt8.ofNat b) &&& 0x0F = UInt8.ofNat b := by
    decide +kernel
  have hbyte := hbytes ⟨high.toNat, hhigh⟩ ⟨low.toNat, hlow⟩
  rwa [UInt8.ofNat_toNat, UInt8.ofNat_toNat] at hbyte

theorem decodeBytes_encode (bytes : List UInt8) :
    decodeBytes (bytes.flatMap fun byte : UInt8 =>
      [ScryptPasswordHasher.hexDigits.getD (byte >>> 4).toNat '0',
        ScryptPasswordHasher.hexDigits.getD (byte &&& 0x0F).toNat '0']) = some bytes := by
  induction bytes with
  | nil => rfl
  | cons byte bytes ih =>
    obtain ⟨hhigh, hlow, hbyte⟩ := halves byte
    rw [List.flatMap_cons, List.cons_append, List.cons_append, List.nil_append, decodeBytes,
      hexValue_hexDigits hhigh, hexValue_hexDigits hlow, ih]
    simp only [Option.bind_eq_bind, Option.bind_some, hbyte]
    rfl

theorem length_encodeHex {size : Nat} (bytes : Vector UInt8 size) : (encodeHex bytes).length = size * 2 := by
  have hlength := length_decodeBytes (decodeBytes_encode bytes.toList)
  rwa [Vector.length_toList] at hlength

theorem decodeHex_encodeHex {size : Nat} (bytes : Vector UInt8 size) :
    decodeHex size (encodeHex bytes) = some bytes := by
  have hdecoded := decodeBytes_encode bytes.toList
  unfold decodeHex
  rw [dif_pos (length_encodeHex bytes)]
  split
  · rename_i hnone
    rw [encodeHex, hdecoded] at hnone
    cases hnone
  · rename_i decoded hsome
    rw [encodeHex, hdecoded] at hsome
    obtain rfl := Option.some.inj hsome
    exact congrArg some (Vector.toArray_inj.mp (Array.toList_inj.mp rfl))

theorem encode_of_decodeBytes : ∀ {encoded : List Char} {bytes : List UInt8},
    decodeBytes encoded = some bytes → (bytes.flatMap fun byte : UInt8 =>
      [ScryptPasswordHasher.hexDigits.getD (byte >>> 4).toNat '0',
        ScryptPasswordHasher.hexDigits.getD (byte &&& 0x0F).toNat '0']) = encoded
  | [], bytes, h => by
    obtain rfl := Option.some.inj h
    rfl
  | [_], _, h => by cases h
  | first :: second :: encoded, bytes, h => by
    simp only [decodeBytes, Option.bind_eq_bind, Option.bind_eq_some_iff] at h
    obtain ⟨high, hhigh, low, hlow, rest, hrest, heq⟩ := h
    obtain rfl := Option.some.inj heq
    obtain ⟨hhigh, hfirst⟩ := hexDigits_of_hexValue hhigh
    obtain ⟨hlow, hsecond⟩ := hexDigits_of_hexValue hlow
    obtain ⟨hshift, hmask⟩ := halves_of high low hhigh hlow
    rw [List.flatMap_cons, hshift, hmask, hfirst, hsecond, encode_of_decodeBytes hrest]
    rfl

theorem encodeHex_of_decodeHex {size : Nat} {encoded : List Char} {bytes : Vector UInt8 size}
    (h : decodeHex size encoded = some bytes) : encodeHex bytes = encoded := by
  unfold decodeHex at h
  split at h
  · split at h
    · cases h
    · rename_i decoded hdecoded
      obtain rfl := Option.some.inj h
      exact encode_of_decodeBytes hdecoded
  · cases h

theorem delimiter_notMem_encodeHex {size : Nat} (bytes : Vector UInt8 size) : '$' ∉ encodeHex bytes := by
  have hdigits : ∀ k : Fin 16, ScryptPasswordHasher.hexDigits.getD k '0' ≠ '$' := by decide
  intro h
  obtain ⟨byte, -, hmem⟩ := List.mem_flatMap.mp h
  obtain ⟨hhigh, hlow, -⟩ := halves byte
  rcases List.mem_pair.mp hmem with heq | heq
  · exact hdigits ⟨_, hhigh⟩ heq.symm
  · exact hdigits ⟨_, hlow⟩ heq.symm

/-! ## The text -/

/-- The fields with a delimiter between them. -/
def joined (scheme n r p salt hash : List Char) : List Char :=
  scheme ++ '$' :: (n ++ '$' :: (r ++ '$' :: (p ++ '$' :: (salt ++ '$' :: hash))))

/-- The text of a hash with leading zeros in its three numbers. -/
def padded (a b c : Nat) (data : ScryptHashData) : List Char :=
  joined "scrypt".toList (List.replicate a '0' ++ toDecimal data.n)
    (List.replicate b '0' ++ toDecimal data.r) (List.replicate c '0' ++ toDecimal data.p)
    (encodeHex data.salt) (encodeHex data.hash)

theorem scheme_toList : "scrypt$".toList = "scrypt".toList ++ ['$'] := by decide

theorem encodeHash_eq (data : ScryptHashData) : encodeHash data = padded 0 0 0 data := by
  unfold encodeHash padded joined
  simp only [scheme_toList, List.append_assoc, List.cons_append, List.replicate_zero, List.nil_append]

theorem split_joined {scheme n r p salt hash : List Char} (hscheme : '$' ∉ scheme) (hn : '$' ∉ n)
    (hr : '$' ∉ r) (hp : '$' ∉ p) (hsalt : '$' ∉ salt) (hhash : '$' ∉ hash) :
    split (joined scheme n r p salt hash) = [scheme, n, r, p, salt, hash] := by
  rw [joined, split_delimited hscheme, split_delimited hn, split_delimited hr, split_delimited hp,
    split_delimited hsalt, split_last hhash]

/-- The field in front of at least one other. -/
theorem cons_of_split {value part next : List Char} {parts : List (List Char)}
    (h : split value = part :: next :: parts) :
    ∃ rest, value = part ++ '$' :: rest ∧ split rest = next :: parts := by
  rcases (eq_of_split h).2 with ⟨-, hnil⟩ | hrest
  · cases hnil
  · exact hrest

theorem eq_joined_of_split {text scheme n r p salt hash : List Char}
    (h : split text = [scheme, n, r, p, salt, hash]) : text = joined scheme n r p salt hash := by
  obtain ⟨rest, rfl, hn⟩ := cons_of_split h
  obtain ⟨rest, rfl, hr⟩ := cons_of_split hn
  obtain ⟨rest, rfl, hp⟩ := cons_of_split hr
  obtain ⟨rest, rfl, hsalt⟩ := cons_of_split hp
  obtain ⟨rest, rfl, hhash⟩ := cons_of_split hsalt
  rcases (eq_of_split hhash).2 with ⟨rfl, -⟩ | ⟨last, hlast', hlast⟩
  · rfl
  · have hne : split last ≠ [] := by
      have hfrom (value : List Char) : ∀ passed, splitFrom passed value ≠ [] := by
        induction value with
        | nil => exact fun passed => List.cons_ne_nil _ _
        | cons c value ih =>
          intro passed
          rw [splitFrom]
          split
          · exact List.cons_ne_nil _ _
          · exact ih _
      exact hfrom last []
    exact absurd hlast hne

/-- The parameters as numbers: the product of the last test does not wrap around. -/
structure Safe (n r p : UInt64) : Prop where
  cost : n.toNat ≤ 2 ^ 20
  blocks : r.toNat ≤ 32
  lanes : p.toNat ≤ 16
  product : (128 * n * r).toNat = 128 * n.toNat * r.toNat
  memory : 128 * n.toNat * r.toNat ≤ scryptMaxMemory.toNat

theorem safe_of_parameters {n r p : UInt64} (h : hasSafeScryptParameters n r p = true) : Safe n r p := by
  unfold hasSafeScryptParameters at h
  split at h
  · cases h
  rename_i hranges
  simp only [not_or, UInt64.not_lt, gt_iff_lt] at hranges
  obtain ⟨-, hn, -, -, hr, -, hp⟩ := hranges
  split at h
  · cases h
  have hn : n.toNat ≤ 2 ^ 20 := UInt64.le_iff_toNat_le.mp hn
  have hr : r.toNat ≤ 32 := UInt64.le_iff_toNat_le.mp hr
  have hsmall : 128 * n.toNat * r.toNat ≤ 128 * 2 ^ 20 * 32 :=
    Nat.mul_le_mul (Nat.mul_le_mul_left 128 hn) hr
  have hproduct : (128 * n * r).toNat = 128 * n.toNat * r.toNat := by
    have hfactor : (128 : UInt64).toNat = 128 := rfl
    rw [UInt64.toNat_mul, UInt64.toNat_mul, hfactor, Nat.mod_mul_mod]
    exact Nat.mod_eq_of_lt (by omega)
  refine ⟨hn, hr, UInt64.le_iff_toNat_le.mp hp, hproduct, ?_⟩
  rw [← hproduct]
  exact UInt64.le_iff_toNat_le.mp (of_decide_eq_true h)

/-! ## The round trip -/

theorem length_toDecimal (value : UInt64) : (toDecimal value).length ≤ 20 :=
  (Nat.length_toDigits_le_iff (by decide) (by decide)).mpr
    (Nat.lt_of_lt_of_le value.toNat_lt (by decide))

theorem isValid_encodeHash (data : ScryptHashData) :
    ScryptPasswordHasher.isValidEncodedPasswordHash (encodeHash data) = true := by
  have hn := length_toDecimal data.n
  have hr := length_toDecimal data.r
  have hp := length_toDecimal data.p
  have hsum : ∀ a b c : Nat, a ≤ 20 → b ≤ 20 → c ≤ 20 →
      7 + a + 1 + b + 1 + c + 1 + saltByteCount * 2 + 1 + hashByteCount * 2 ≤
        maxEncodedPasswordHashLength := by
    simp only [saltByteCount, hashByteCount, maxEncodedPasswordHashLength]
    omega
  have hscheme : "scrypt$".toList.length = 7 := by decide
  have hsalt := length_encodeHex data.salt
  have hhash := length_encodeHex data.hash
  have hlength : (encodeHash data).length ≤ maxEncodedPasswordHashLength := by
    unfold encodeHash
    simp only [List.length_append, List.length_singleton, hscheme, hsalt, hhash]
    exact hsum _ _ _ hn hr hp
  have hne : (encodeHash data).isEmpty = false := by
    rw [encodeHash_eq, padded, joined]
    exact List.isEmpty_eq_false_iff.mpr (List.append_ne_nil_of_right_ne_nil _ (List.cons_ne_nil _ _))
  unfold ScryptPasswordHasher.isValidEncodedPasswordHash
  rw [hne, decide_eq_true hlength]
  rfl

theorem split_encodeHash (data : ScryptHashData) :
    split (encodeHash data) = ["scrypt".toList, toDecimal data.n, toDecimal data.r, toDecimal data.p,
      encodeHex data.salt, encodeHex data.hash] := by
  have hscheme : '$' ∉ "scrypt".toList := by decide
  rw [encodeHash_eq, padded]
  simp only [List.replicate_zero, List.nil_append]
  exact split_joined hscheme (delimiter_notMem_toDecimal _) (delimiter_notMem_toDecimal _)
    (delimiter_notMem_toDecimal _) (delimiter_notMem_encodeHex _) (delimiter_notMem_encodeHex _)

theorem parse_encodeHash {data : ScryptHashData}
    (h : hasSafeScryptParameters data.n data.r data.p = true) :
    parseEncodedHash (encodeHash data) = some data := by
  unfold parseEncodedHash
  rw [if_neg (not_not_intro (isValid_encodeHash data)), split_encodeHash]
  simp only [parseUint64_toDecimal, decodeHex_encodeHex, Option.bind_eq_bind, Option.bind_some, h,
    ne_eq, not_true_eq_false, if_false]
  rfl

/-- What a text that is read consists of. -/
structure Written (text : List Char) (data : ScryptHashData) : Prop where
  fields : (split text).length = 6
  parameters : hasSafeScryptParameters data.n data.r data.p = true
  safe : Safe data.n data.r data.p
  zeros : ∃ a b c, text = padded a b c data

theorem written_of_parse {text : List Char} {data : ScryptHashData}
    (h : parseEncodedHash text = some data) : Written text data := by
  unfold parseEncodedHash at h
  split at h
  · cases h
  split at h
  · rename_i scheme n r p salt hash hsplit
    by_cases hscheme : scheme = "scrypt".toList
    · rw [if_neg (not_not_intro hscheme)] at h
      obtain ⟨n', hn, h⟩ := Option.bind_eq_some_iff.mp h
      obtain ⟨r', hr, h⟩ := Option.bind_eq_some_iff.mp h
      obtain ⟨p', hp, h⟩ := Option.bind_eq_some_iff.mp h
      by_cases hsafe : hasSafeScryptParameters n' r' p' = true
      · rw [if_neg (not_not_intro hsafe)] at h
        obtain ⟨salt', hsalt, h⟩ := Option.bind_eq_some_iff.mp h
        obtain ⟨hash', hhash, h⟩ := Option.bind_eq_some_iff.mp h
        obtain rfl := Option.some.inj h
        obtain ⟨a, ha⟩ := eq_of_parseUint64 hn
        obtain ⟨b, hb⟩ := eq_of_parseUint64 hr
        obtain ⟨c, hc⟩ := eq_of_parseUint64 hp
        have htext := eq_joined_of_split hsplit
        refine ⟨by rw [hsplit]; rfl, hsafe, safe_of_parameters hsafe, a, b, c, ?_⟩
        rw [htext, hscheme, ha, hb, hc, ← encodeHex_of_decodeHex hsalt,
          ← encodeHex_of_decodeHex hhash]
        rfl
      · rw [if_pos hsafe] at h
        cases h
    · rw [if_pos hscheme] at h
      cases h
  · cases h

/-! ## The stored string -/

theorem ascii_encodeHash (data : ScryptHashData) : ∀ c ∈ encodeHash data, c.utf8Size = 1 := by
  have hdecimal (value : UInt64) : ∀ c ∈ toDecimal value, c.utf8Size = 1 := by
    intro c hc
    have hdigit := Char.isDigit_iff_toNat.mp (isDigit_toDigits hc)
    have hlow : c.toNat ≤ 127 := Nat.le_trans hdigit.2 (by decide)
    exact Char.utf8Size_eq_one_iff.mpr (UInt32.le_iff_toNat_le.mpr hlow)
  have hhex {size : Nat} (bytes : Vector UInt8 size) : ∀ c ∈ encodeHex bytes, c.utf8Size = 1 := by
    have hdigits : ∀ k : Fin 16, (ScryptPasswordHasher.hexDigits.getD k '0').utf8Size = 1 := by
      decide
    intro c hc
    obtain ⟨byte, -, hmem⟩ := List.mem_flatMap.mp hc
    obtain ⟨hhigh, hlow, -⟩ := halves byte
    rcases List.mem_pair.mp hmem with rfl | rfl
    · exact hdigits ⟨_, hhigh⟩
    · exact hdigits ⟨_, hlow⟩
  have hscheme : ∀ c ∈ "scrypt$".toList, c.utf8Size = 1 := by
    have hall : ("scrypt$".toList.all fun c => c.utf8Size == 1) = true := by decide
    intro c hc
    exact eq_of_beq (List.all_eq_true.mp hall c hc)
  have hdelimiter : ∀ c ∈ ['$'], c.utf8Size = 1 := by
    intro c hc
    rw [List.mem_singleton.mp hc]
    rfl
  unfold encodeHash
  simp only [List.forall_mem_append]
  exact ⟨⟨⟨⟨⟨⟨⟨⟨⟨hscheme, hdecimal _⟩, hdelimiter⟩, hdecimal _⟩, hdelimiter⟩, hdecimal _⟩, hdelimiter⟩,
    hhex _⟩, hdelimiter⟩, hhex _⟩

/-- An account can hold what is written. -/
theorem isValid_stored (data : ScryptHashData) :
    DnfServer.isValidEncodedPasswordHash (String.ofList (encodeHash data)) = true := by
  have hvalid := isValid_encodeHash data
  unfold ScryptPasswordHasher.isValidEncodedPasswordHash at hvalid
  obtain ⟨hne, hlength⟩ := Bool.and_eq_true_iff.mp hvalid
  have hsize := utf8ByteSize_ofList (ascii_encodeHash data)
  unfold DnfServer.isValidEncodedPasswordHash
  rw [String.isEmpty_eq_utf8ByteSize_beq_zero, hsize, hlength, Bool.and_true]
  cases htext : encodeHash data with
  | nil =>
    rw [htext] at hne
    cases hne
  | cons c text => rfl

/-- Safe parameters are read back as they were written. A text that is read has six fields, safe
parameters whose product does not wrap around, and is what is written but for leading zeros. -/
theorem hash_roundTrip (data : ScryptHashData) :
    (hasSafeScryptParameters data.n data.r data.p = true →
      parseEncodedHash (encodeHash data) = some data ∧
        ScryptPasswordHasher.isValidEncodedPasswordHash (encodeHash data) = true ∧
        DnfServer.isValidEncodedPasswordHash (String.ofList (encodeHash data)) = true) ∧
      ∀ text, parseEncodedHash text = some data →
        Written text data ∧ encodeHash data = padded 0 0 0 data :=
  ⟨fun h => ⟨parse_encodeHash h, isValid_encodeHash data, isValid_stored data⟩,
    fun _ h => ⟨written_of_parse h, encodeHash_eq data⟩⟩

theorem hash_roundTrip_zeros : ∃ data text, parseEncodedHash (encodeHash data) = some data ∧
    Written text data ∧ text ≠ encodeHash data :=
  ⟨{ n := 16384, r := 8, p := 1, salt := Vector.replicate 16 0xA5, hash := Vector.replicate 32 0x0F },
    padded 2 1 0
      { n := 16384, r := 8, p := 1, salt := Vector.replicate 16 0xA5, hash := Vector.replicate 32 0x0F },
    ((hash_roundTrip _).1 (by decide +kernel)).1, ((hash_roundTrip _).2 _ (by decide +kernel)).1,
    by decide +kernel⟩

end DnfServer.Auth
