import Sip3.Text.Utf8

/-!
# Decoding is the inverse of encoding

The decoder of `Sip3.Text.Utf8` is written as the standard library's validation goes, byte by byte
with its ranges. Here it meets the encoder: the bytes of a text decode to the text
(`decodeParts_encode`), and bytes that decode without an invalid part are the bytes of a text
(`fromUtf8_eq_some`). Both go character by character, by the number of bytes it takes.
-/

namespace Sip3.Text

open UInt8 Char String

section Bytes

variable {code : Nat} {bound low high byte lead second third fourth : UInt8}

theorem toNat_ofNat_of_byte (small : code < 256) : (UInt8.ofNat code).toNat = code := by
  rw [toNat_ofNat', Nat.mod_eq_of_lt small]

theorem ofNat_of_toNat_eq (byte : UInt8) (same : byte.toNat = code) : UInt8.ofNat code = byte := by
  rw [← same, UInt8.ofNat_toNat]

theorem between_iff : (decide (low ≤ byte) && decide (byte ≤ high)) = true ↔
    low.toNat ≤ byte.toNat ∧ byte.toNat ≤ high.toNat := by
  rw [Bool.and_eq_true, decide_eq_true_iff, decide_eq_true_iff, le_iff_toNat_le,
    le_iff_toNat_le]

theorem isContinuation_iff : isContinuation byte = true ↔ 128 ≤ byte.toNat ∧ byte.toNat ≤ 191 :=
  between_iff

/-- The second byte, with two lead bytes that have a range of their own. -/
theorem second_iff {first other lowFirst highFirst lowOther highOther : UInt8} :
    (if lead == first then decide (lowFirst ≤ second) && decide (second ≤ highFirst)
      else if lead == other then decide (lowOther ≤ second) && decide (second ≤ highOther)
      else isContinuation second) = true ↔
    if lead.toNat = first.toNat then lowFirst.toNat ≤ second.toNat ∧ second.toNat ≤ highFirst.toNat
    else if lead.toNat = other.toNat then
      lowOther.toNat ≤ second.toNat ∧ second.toNat ≤ highOther.toNat
    else 128 ≤ second.toNat ∧ second.toNat ≤ 191 := by
  simp only [beq_iff_eq, ← UInt8.toNat_inj]
  split
  · exact between_iff
  · split
    · exact between_iff
    · exact isContinuation_iff

theorem secondOfThree_iff : secondOfThree lead second = true ↔
    if lead.toNat = 224 then 160 ≤ second.toNat ∧ second.toNat ≤ 191
    else if lead.toNat = 237 then 128 ≤ second.toNat ∧ second.toNat ≤ 159
    else 128 ≤ second.toNat ∧ second.toNat ≤ 191 :=
  second_iff

theorem secondOfFour_iff : secondOfFour lead second = true ↔
    if lead.toNat = 240 then 144 ≤ second.toNat ∧ second.toNat ≤ 191
    else if lead.toNat = 244 then 128 ≤ second.toNat ∧ second.toNat ≤ 143
    else 128 ≤ second.toNat ∧ second.toNat ≤ 191 :=
  second_iff

end Bytes

section Decode

variable {code : Nat}

theorem isContinuation_ofNat (code : Nat) : isContinuation (.ofNat (code % 64 + 128)) = true := by
  rw [isContinuation_iff, toNat_ofNat_of_byte (by omega)]
  omega

theorem payload_ofNat (code : Nat) : payload (.ofNat (code % 64 + 128)) = code % 64 := by
  rw [payload, toNat_ofNat_of_byte (by omega)]
  omega

theorem secondOfThree_ofNat (long : 2047 < code) (short : code ≤ 65535)
    (valid : code < 55296 ∨ 57343 < code) :
    secondOfThree (.ofNat (code / 4096 % 16 + 224)) (.ofNat (code / 64 % 64 + 128)) = true := by
  rw [secondOfThree_iff, toNat_ofNat_of_byte (by omega), toNat_ofNat_of_byte (by omega)]
  split
  · omega
  · split <;> omega

/-- No overlong form, and no code beyond the last one. -/
theorem secondOfFour_ofNat (long : 65535 < code) (valid : code < 1114112) :
    secondOfFour (.ofNat (code / 262144 % 8 + 240)) (.ofNat (code / 4096 % 64 + 128)) = true := by
  rw [secondOfFour_iff, toNat_ofNat_of_byte (by omega), toNat_ofNat_of_byte (by omega)]
  split
  · omega
  · split <;> omega

/-- The lead byte of a longer character is not in the range of a shorter one. -/
theorem not_between {low high byte : UInt8} (above : high.toNat < byte.toNat) :
    ¬ (decide (low ≤ byte) && decide (byte ≤ high)) = true :=
  fun range => absurd (between_iff.mp range).2 (Nat.not_le.mpr above)

theorem not_ascii {byte : UInt8} (above : 128 ≤ byte.toNat) : ¬ byte < 0x80 := by
  rw [lt_iff_toNat_lt]
  exact Nat.not_lt.mpr above

theorem decodeParts_two (long : 127 < code) (short : code ≤ 2047) (rest : List UInt8) :
    decodeParts (.ofNat (code / 64 % 32 + 192) :: .ofNat (code % 64 + 128) :: rest) =
      some (Char.ofNat code) :: decodeParts rest := by
  have lead : (UInt8.ofNat (code / 64 % 32 + 192)).toNat = code / 64 % 32 + 192 :=
    toNat_ofNat_of_byte (by omega)
  have value : (code / 64 % 32 + 192) % 32 * 64 + code % 64 = code := by omega
  rw [decodeParts.eq_def]
  dsimp only
  rw [if_neg (not_ascii (by omega)),
    if_pos (between_iff.mpr (show 194 ≤ _ ∧ _ ≤ 223 by omega))]
  simp only [isContinuation_ofNat, payload_ofNat, lead, value, if_true]

theorem decodeParts_three (long : 2047 < code) (short : code ≤ 65535)
    (valid : code < 55296 ∨ 57343 < code) (rest : List UInt8) :
    decodeParts (.ofNat (code / 4096 % 16 + 224) :: .ofNat (code / 64 % 64 + 128) ::
      .ofNat (code % 64 + 128) :: rest) = some (Char.ofNat code) :: decodeParts rest := by
  have lead : (UInt8.ofNat (code / 4096 % 16 + 224)).toNat = code / 4096 % 16 + 224 :=
    toNat_ofNat_of_byte (by omega)
  have value : ((code / 4096 % 16 + 224) % 16 * 64 + code / 64 % 64) * 64 + code % 64 = code := by
    omega
  rw [decodeParts.eq_def]
  dsimp only
  rw [if_neg (not_ascii (by omega)), if_neg (not_between (show 223 < _ by omega)),
    if_pos (between_iff.mpr (show 224 ≤ _ ∧ _ ≤ 239 by omega))]
  simp only [secondOfThree_ofNat long short valid, isContinuation_ofNat, payload_ofNat, lead, value,
    if_true]

theorem decodeParts_four (long : 65535 < code) (valid : code < 1114112) (rest : List UInt8) :
    decodeParts (.ofNat (code / 262144 % 8 + 240) :: .ofNat (code / 4096 % 64 + 128) ::
      .ofNat (code / 64 % 64 + 128) :: .ofNat (code % 64 + 128) :: rest) =
        some (Char.ofNat code) :: decodeParts rest := by
  have lead : (UInt8.ofNat (code / 262144 % 8 + 240)).toNat = code / 262144 % 8 + 240 :=
    toNat_ofNat_of_byte (by omega)
  have value : (((code / 262144 % 8 + 240) % 8 * 64 + code / 4096 % 64) * 64 + code / 64 % 64) * 64 +
      code % 64 = code := by omega
  rw [decodeParts.eq_def]
  dsimp only
  rw [if_neg (not_ascii (by omega)), if_neg (not_between (show 223 < _ by omega)),
    if_neg (not_between (show 239 < _ by omega)),
    if_pos (between_iff.mpr (show 240 ≤ _ ∧ _ ≤ 244 by omega))]
  simp only [secondOfFour_ofNat long valid, isContinuation_ofNat, payload_ofNat, lead, value, if_true]

/-- The bytes of a character are read as that character. -/
theorem decodeParts_utf8EncodeChar (char : Char) (rest : List UInt8) :
    decodeParts (utf8EncodeChar char ++ rest) = some char :: decodeParts rest := by
  have whole : Char.ofNat char.toNat = char := Char.ofNat_toNat char
  have valid : char.toNat < 55296 ∨ 57343 < char.toNat ∧ char.toNat < 1114112 := char.valid
  unfold utf8EncodeChar
  rw [toNat_val]
  generalize char.toNat = code at whole valid
  subst whole
  dsimp only
  split
  · next one =>
      have byte : (UInt8.ofNat code).toNat = code := toNat_ofNat_of_byte (by omega)
      have small : UInt8.ofNat code < 0x80 := by
        rw [lt_iff_toNat_lt, byte]
        exact Nat.lt_succ_of_le one
      rw [List.singleton_append, decodeParts.eq_def]
      dsimp only
      rw [if_pos small, byte]
  · split
    · exact decodeParts_two (by omega) (by omega) rest
    · split
      · exact decodeParts_three (by omega) (by omega) (by omega) rest
      · exact decodeParts_four (by omega) (by omega) rest

theorem decodeParts_encode (text : Str) : decodeParts (Str.encode text) = text.map some := by
  induction text with
  | nil => rfl
  | cons char text ih => rw [Str.encode_cons, decodeParts_utf8EncodeChar, ih, List.map_cons]

@[simp] theorem fromUtf8Lossy_encode (text : Str) : fromUtf8Lossy (Str.encode text) = text := by
  simp [fromUtf8Lossy, decodeParts_encode]

end Decode

section Encode

variable {code : Nat} {lead second third fourth : UInt8}

theorem toNat_char_ofNat (valid : code.isValidChar) : (Char.ofNat code).toNat = code := by
  rw [Char.ofNat, dif_pos valid]
  rfl

theorem utf8EncodeChar_one (range : lead < 0x80) :
    utf8EncodeChar (Char.ofNat lead.toNat) = [lead] := by
  have small : lead.toNat < 128 := lt_iff_toNat_lt.mp range
  unfold utf8EncodeChar
  rw [toNat_val, toNat_char_ofNat (.inl (by omega))]
  dsimp only
  rw [if_pos (by omega), ofNat_of_toNat_eq lead rfl]

theorem utf8EncodeChar_two (range : (decide (0xC2 ≤ lead) && decide (lead ≤ 0xDF)) = true)
    (next : isContinuation second = true) :
    utf8EncodeChar (Char.ofNat (lead.toNat % 32 * 64 + payload second)) = [lead, second] := by
  obtain ⟨low, high⟩ : 194 ≤ lead.toNat ∧ lead.toNat ≤ 223 := between_iff.mp range
  rw [isContinuation_iff] at next
  unfold utf8EncodeChar payload
  rw [toNat_val, toNat_char_ofNat (.inl (by omega))]
  dsimp only
  rw [if_neg (by omega), if_pos (by omega), ofNat_of_toNat_eq lead (by omega),
    ofNat_of_toNat_eq second (by omega)]

theorem utf8EncodeChar_three (range : (decide (0xE0 ≤ lead) && decide (lead ≤ 0xEF)) = true)
    (next : secondOfThree lead second = true) (last : isContinuation third = true) :
    utf8EncodeChar (Char.ofNat ((lead.toNat % 16 * 64 + payload second) * 64 + payload third)) =
      [lead, second, third] := by
  obtain ⟨low, high⟩ : 224 ≤ lead.toNat ∧ lead.toNat ≤ 239 := between_iff.mp range
  rw [secondOfThree_iff] at next
  rw [isContinuation_iff] at last
  have allowed : 128 ≤ second.toNat ∧ second.toNat ≤ 191 ∧ (lead.toNat = 224 → 160 ≤ second.toNat) ∧
      (lead.toNat = 237 → second.toNat ≤ 159) := by
    split at next
    · omega
    · split at next <;> omega
  clear next
  have valid : ((lead.toNat % 16 * 64 + second.toNat % 64) * 64 + third.toNat % 64).isValidChar := by
    unfold Nat.isValidChar
    omega
  unfold utf8EncodeChar payload
  rw [toNat_val, toNat_char_ofNat valid]
  dsimp only
  rw [if_neg (by omega), if_neg (by omega), if_pos (by omega), ofNat_of_toNat_eq lead (by omega),
    ofNat_of_toNat_eq second (by omega), ofNat_of_toNat_eq third (by omega)]

theorem utf8EncodeChar_four (range : (decide (0xF0 ≤ lead) && decide (lead ≤ 0xF4)) = true)
    (next : secondOfFour lead second = true) (later : isContinuation third = true)
    (last : isContinuation fourth = true) :
    utf8EncodeChar (Char.ofNat (((lead.toNat % 8 * 64 + payload second) * 64 +
      payload third) * 64 + payload fourth)) = [lead, second, third, fourth] := by
  obtain ⟨low, high⟩ : 240 ≤ lead.toNat ∧ lead.toNat ≤ 244 := between_iff.mp range
  rw [secondOfFour_iff] at next
  rw [isContinuation_iff] at later last
  have allowed : 128 ≤ second.toNat ∧ second.toNat ≤ 191 ∧ (lead.toNat = 240 → 144 ≤ second.toNat) ∧
      (lead.toNat = 244 → second.toNat ≤ 143) := by
    split at next
    · omega
    · split at next <;> omega
  clear next
  have valid : (((lead.toNat % 8 * 64 + second.toNat % 64) * 64 + third.toNat % 64) * 64 +
      fourth.toNat % 64).isValidChar := by
    unfold Nat.isValidChar
    omega
  unfold utf8EncodeChar payload
  rw [toNat_val, toNat_char_ofNat valid]
  dsimp only
  rw [if_neg (by omega), if_neg (by omega), if_neg (by omega), ofNat_of_toNat_eq lead (by omega),
    ofNat_of_toNat_eq second (by omega), ofNat_of_toNat_eq third (by omega),
    ofNat_of_toNat_eq fourth (by omega)]

theorem encode_of_cons {char : Char} {text : Str} {rest bytes : List UInt8}
    (ih : ∀ {text : Str}, decodeParts rest = text.map some → Str.encode text = rest)
    (encoded : utf8EncodeChar char = bytes)
    (read : some char :: decodeParts rest = text.map some) : Str.encode text = bytes ++ rest := by
  cases text with
  | nil => cases read
  | cons first text =>
    obtain ⟨same, later⟩ := List.cons.inj read
    rw [Str.encode_cons, ih later, ← Option.some.inj same, encoded]

/-- Bytes without an invalid part are the bytes of a text. -/
theorem encode_of_decodeParts {bytes : List UInt8} {text : Str}
    (read : decodeParts bytes = text.map some) : Str.encode text = bytes := by
  have invalid {parts : List (Option Char)} {text : Str} (read : none :: parts = text.map some) :
      False := by
    cases text with
    | nil => cases read
    | cons char text => exact nomatch (List.cons.inj read).1
  fun_induction decodeParts bytes generalizing text with
  | case1 =>
    obtain rfl := List.map_eq_nil_iff.mp read.symm
    rfl
  | case2 lead rest ascii ih => exact encode_of_cons ih (utf8EncodeChar_one ascii) read
  | case3 lead _ range second more next ih =>
    exact encode_of_cons ih (utf8EncodeChar_two range next) read
  | case6 lead _ _ range second next third more last ih =>
    exact encode_of_cons ih (utf8EncodeChar_three range next last) read
  | case11 lead _ _ _ range second next third later fourth more last ih =>
    exact encode_of_cons ih (utf8EncodeChar_four range next later last) read
  | _ => exact (invalid read).elim

end Encode

theorem mapM_id_eq_some {parts : List (Option Char)} {text : Str} :
    parts.mapM id = some text ↔ parts = text.map some := by
  induction parts generalizing text with
  | nil => cases text <;> simp
  | cons part parts ih => cases text <;> simp [List.mapM_cons, Option.bind_eq_some_iff, ih]

/-- `str::from_utf8` succeeds exactly on the bytes of a text. -/
theorem fromUtf8_eq_some {bytes : List UInt8} {text : Str} :
    fromUtf8 bytes = some text ↔ bytes = Str.encode text := by
  rw [fromUtf8, mapM_id_eq_some]
  constructor
  · exact fun read => (encode_of_decodeParts read).symm
  · rintro rfl
    exact decodeParts_encode text

end Sip3.Text
