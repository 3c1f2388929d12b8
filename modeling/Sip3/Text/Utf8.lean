import Sip3.Text.Str

/-!
# UTF-8 and byte offsets

Rust addresses texts by byte offsets: `find` returns one, and a slice whose ends
are outside the text, in the wrong order or inside a character panics. `slice`
returns `none` exactly then. Decoding is byte by byte as in `core::str`: one
invalid part is a maximal prefix of an encoded character.
-/

namespace Sip3.Text

open List Option

namespace Str

/-- The UTF-8 encoding. -/
def encode (text : Str) : List UInt8 :=
  text.flatMap String.utf8EncodeChar

/-- `str::len`: the number of bytes. -/
def byteLength : Str → Nat
  | [] => 0
  | char :: rest => char.utf8Size + byteLength rest

/-- Cut a text at a byte offset, if the offset is a character boundary. -/
def splitAtByte : Str → Nat → Option (Str × Str)
  | [], offset => if offset = 0 then some ([], []) else none
  | char :: rest, offset =>
    if offset = 0 then some ([], char :: rest)
    else if char.utf8Size ≤ offset then
      (splitAtByte rest (offset - char.utf8Size)).map fun parts => (char :: parts.1, parts.2)
    else none

/-- `text[start..stop]`, or `none` where Rust panics. -/
def slice (text : Str) (start stop : Nat) : Option Str :=
  if stop < start then none
  else do
    let upTo ← splitAtByte text stop
    let cut ← splitAtByte upTo.1 start
    return cut.2

/-- `str::find` on a character: the byte offset of its first occurrence. -/
def find (target : Char) : Str → Option Nat
  | [] => none
  | char :: rest => if char = target then some 0 else (find target rest).map (· + char.utf8Size)

@[simp] theorem byteLength_append (left right : Str) :
    byteLength (left ++ right) = byteLength left + byteLength right := by
  induction left with
  | nil => simp [byteLength]
  | cons char rest ih => simp [byteLength, ih, Nat.add_assoc]

variable {text : Str} {char : Char} {offset : Nat} {start stop : Nat} {target : Char}

theorem byteLength_eq_zero : byteLength text = 0 ↔ text = [] := by
  cases text with
  | nil => simp [byteLength]
  | cons char rest => simp [byteLength, (Char.utf8Size_pos char).ne']

@[simp] theorem length_encode (text : Str) : (encode text).length = byteLength text := by
  induction text with
  | nil => rfl
  | cons char rest ih =>
    rw [encode, flatMap_cons, length_append, String.length_utf8EncodeChar]
    exact congrArg _ ih

@[simp] theorem encode_cons (char : Char) (rest : Str) :
    encode (char :: rest) = String.utf8EncodeChar char ++ encode rest := rfl

@[simp] theorem encode_append (left right : Str) :
    encode (left ++ right) = encode left ++ encode right := by
  simp [encode]

/-- An ASCII character is encoded as the byte of its code. -/
theorem utf8EncodeChar_ascii (ascii : char.toNat < 128) :
    String.utf8EncodeChar char = [UInt8.ofNat char.toNat] := by
  have small : char.toNat ≤ 127 := Nat.le_of_lt_succ ascii
  simp [String.utf8EncodeChar, small]

/-- Every byte of another character has its high bit set. -/
theorem utf8EncodeChar_high (high : ¬ char.toNat < 128) {byte : UInt8}
    (member : byte ∈ String.utf8EncodeChar char) : 128 ≤ byte.toNat := by
  have large : ¬ char.toNat ≤ 127 := fun small => high (Nat.lt_succ_of_le small)
  simp only [String.utf8EncodeChar, Char.toNat_val, large, ↓reduceIte] at member
  split at member
  · simp only [mem_cons, not_mem_nil, or_false] at member
    rcases member with rfl | rfl <;> simp <;> omega
  · split at member
    · simp only [mem_cons, not_mem_nil, or_false] at member
      rcases member with rfl | rfl | rfl <;> simp <;> omega
    · simp only [mem_cons, not_mem_nil, or_false] at member
      rcases member with rfl | rfl | rfl | rfl <;> simp <;> omega

/-- The two sides of a cut make up the text, and the left one has as many bytes
as the offset says. -/
theorem splitAtByte_eq_some {text left right : Str} :
    splitAtByte text offset = some (left, right) ↔
      text = left ++ right ∧ byteLength left = offset := by
  induction text generalizing left offset with
  | nil =>
    by_cases zero : offset = 0
    · subst zero
      simp only [splitAtByte, ↓reduceIte, some.injEq, Prod.mk.injEq]
      constructor
      · rintro ⟨rfl, rfl⟩
        exact ⟨rfl, rfl⟩
      · rintro ⟨whole, _⟩
        obtain ⟨rfl, rfl⟩ := append_eq_nil_iff.mp whole.symm
        exact ⟨rfl, rfl⟩
    · simp only [splitAtByte, if_neg zero, reduceCtorEq, false_iff, not_and]
      rintro whole
      obtain ⟨rfl, rfl⟩ := append_eq_nil_iff.mp whole.symm
      exact fun length => zero length.symm
  | cons char rest ih =>
    have positive : 0 < char.utf8Size := Char.utf8Size_pos char
    by_cases zero : offset = 0
    · subst zero
      simp only [splitAtByte, ↓reduceIte, some.injEq, Prod.mk.injEq]
      cases left with
      | nil => simp [byteLength, eq_comm]
      | cons first others =>
        simp only [reduceCtorEq, false_and, byteLength, false_iff, not_and]
        rintro whole
        obtain ⟨rfl, _⟩ := cons.inj whole
        omega
    · simp only [splitAtByte, if_neg zero]
      cases left with
      | nil =>
        split <;> simp [byteLength, zero, eq_comm]
      | cons first others =>
        by_cases fits : char.utf8Size ≤ offset
        · simp only [if_pos fits, map_eq_some_iff, Prod.mk.injEq, cons.injEq,
            cons_append, byteLength, Prod.exists]
          constructor
          · rintro ⟨_, _, cut, ⟨rfl, rfl⟩, rfl⟩
            obtain ⟨whole, length⟩ := ih.mp cut
            exact ⟨⟨rfl, whole⟩, by omega⟩
          · rintro ⟨⟨rfl, whole⟩, length⟩
            exact ⟨others, right, ih.mpr ⟨whole, by omega⟩, ⟨rfl, rfl⟩, rfl⟩
        · simp only [if_neg fits, reduceCtorEq, cons_append, cons.injEq, byteLength,
            false_iff, not_and, and_imp]
          rintro rfl _
          omega

/-- A slice between two cuts of a text is the part between them. -/
theorem slice_append (left middle right : Str) :
    slice (left ++ (middle ++ right)) (byteLength left) (byteLength left + byteLength middle) =
      some middle := by
  have upTo : splitAtByte (left ++ (middle ++ right)) (byteLength left + byteLength middle) =
      some (left ++ middle, right) :=
    splitAtByte_eq_some.mpr ⟨by simp, by simp⟩
  have cut : splitAtByte (left ++ middle) (byteLength left) = some (left, middle) :=
    splitAtByte_eq_some.mpr ⟨rfl, rfl⟩
  simp [slice, upTo, cut]

theorem slice_eq_some {text piece : Str} (cut : slice text start stop = some piece) :
    ∃ left right, text = left ++ (piece ++ right) ∧ byteLength left = start ∧
      start + byteLength piece = stop := by
  unfold slice at cut
  split at cut
  · cases cut
  · obtain ⟨⟨front, right⟩, upTo, cut⟩ := bind_eq_some_iff.mp cut
    obtain ⟨⟨left, kept⟩, onward, cut⟩ := bind_eq_some_iff.mp cut
    cases cut
    obtain ⟨rfl, total⟩ := splitAtByte_eq_some.mp upTo
    obtain ⟨rfl, skipped⟩ := splitAtByte_eq_some.mp onward
    rw [byteLength_append, skipped] at total
    exact ⟨left, right, append_assoc _ _ _, skipped, total⟩

theorem slice_past_end (past : byteLength text < stop) : slice text start stop = none := by
  have noCut : splitAtByte text stop = none := by
    rw [eq_none_iff_forall_ne_some]
    rintro ⟨left, right⟩ cut
    obtain ⟨rfl, length⟩ := splitAtByte_eq_some.mp cut
    simp only [byteLength_append] at past
    omega
  simp [slice, noCut]

/-- The first occurrence of a character cuts the text there. -/
theorem find_eq_some (found : find target text = some offset) :
    ∃ left right, text = left ++ target :: right ∧ target ∉ left ∧ byteLength left = offset := by
  induction text generalizing offset with
  | nil => simp [find] at found
  | cons char rest ih =>
    by_cases same : char = target
    · subst same
      simp only [find, ↓reduceIte, some.injEq] at found
      exact ⟨[], rest, rfl, not_mem_nil, found⟩
    · simp only [find, if_neg same, map_eq_some_iff] at found
      obtain ⟨inner, foundRest, rfl⟩ := found
      obtain ⟨left, right, rfl, absent, length⟩ := ih foundRest
      refine ⟨char :: left, right, rfl, ?_, by simp [byteLength, length, Nat.add_comm]⟩
      simp only [mem_cons, not_or]
      exact ⟨Ne.symm same, absent⟩

theorem find_append {left : Str} (absent : target ∉ left) (right : Str) :
    find target (left ++ target :: right) = some (byteLength left) := by
  induction left with
  | nil => simp [find, byteLength]
  | cons char rest ih =>
    simp only [mem_cons, not_or] at absent
    simp [find, Ne.symm absent.1, ih absent.2, byteLength, Nat.add_comm]

theorem not_mem_of_find_eq_none (missing : find target text = none) : target ∉ text := by
  induction text with
  | nil => exact not_mem_nil
  | cons char rest ih =>
    by_cases same : char = target
    · simp [find, same] at missing
    · simp only [find, if_neg same, map_eq_none_iff] at missing
      simp only [mem_cons, not_or]
      exact ⟨Ne.symm same, ih missing⟩

end Str

/-- A continuation byte. -/
def isContinuation (byte : UInt8) : Bool :=
  0x80 ≤ byte && byte ≤ 0xBF

/-- Whether a second byte may follow the lead byte of a three-byte character. -/
def secondOfThree (lead byte : UInt8) : Bool :=
  if lead == 0xE0 then 0xA0 ≤ byte && byte ≤ 0xBF
  else if lead == 0xED then 0x80 ≤ byte && byte ≤ 0x9F
  else isContinuation byte

/-- Whether a second byte may follow the lead byte of a four-byte character. -/
def secondOfFour (lead byte : UInt8) : Bool :=
  if lead == 0xF0 then 0x90 ≤ byte && byte ≤ 0xBF
  else if lead == 0xF4 then 0x80 ≤ byte && byte ≤ 0x8F
  else isContinuation byte

/-- The payload bits of a continuation byte. -/
def payload (byte : UInt8) : Nat :=
  byte.toNat % 64

/-- Decode byte by byte: a character, or `none` for one invalid part. -/
def decodeParts : List UInt8 → List (Option Char)
  | [] => []
  | lead :: rest =>
    if lead < 0x80 then some (Char.ofNat lead.toNat) :: decodeParts rest
    else if 0xC2 ≤ lead && lead ≤ 0xDF then
      match rest with
      | second :: more =>
        if isContinuation second then
          some (Char.ofNat (lead.toNat % 32 * 64 + payload second)) :: decodeParts more
        else none :: decodeParts (second :: more)
      | [] => [none]
    else if 0xE0 ≤ lead && lead ≤ 0xEF then
      match rest with
      | second :: more =>
        if secondOfThree lead second then
          match more with
          | third :: tail =>
            if isContinuation third then
              some (Char.ofNat ((lead.toNat % 16 * 64 + payload second) * 64 +
                payload third)) :: decodeParts tail
            else none :: decodeParts (third :: tail)
          | [] => [none]
        else none :: decodeParts (second :: more)
      | [] => [none]
    else if 0xF0 ≤ lead && lead ≤ 0xF4 then
      match rest with
      | second :: more =>
        if secondOfFour lead second then
          match more with
          | third :: tail =>
            if isContinuation third then
              match tail with
              | fourth :: end' =>
                if isContinuation fourth then
                  some (Char.ofNat (((lead.toNat % 8 * 64 + payload second) * 64 +
                    payload third) * 64 + payload fourth)) :: decodeParts end'
                else none :: decodeParts (fourth :: end')
              | [] => [none]
            else none :: decodeParts (third :: tail)
          | [] => [none]
        else none :: decodeParts (second :: more)
      | [] => [none]
    else none :: decodeParts rest

/-- `String::from_utf8_lossy`. -/
def fromUtf8Lossy (bytes : List UInt8) : Str :=
  (decodeParts bytes).map fun part => part.getD '�'

/-- `str::from_utf8`: `none` for a text with an invalid part. -/
def fromUtf8 (bytes : List UInt8) : Option Str :=
  (decodeParts bytes).mapM id

end Sip3.Text
