import Sip3.Platform

/-!
# Case conversion

`str::to_lowercase` and `str::to_uppercase` convert the characters of a text one by one with the
tables of Unicode; only a final sigma depends on its neighbours. ASCII characters are converted as
in ASCII. A character that is not ASCII becomes characters that are not ASCII or letters (the Kelvin
sign becomes a `k`), and white space comes from white space only.
-/

namespace Sip3

open Text List

/-- What a character can become in lower case. -/
structure Lowers (char : Char) (converted : Str) : Prop where
  ascii : char.toNat < 128 → converted = [char.toLower]
  other : 128 ≤ char.toNat →
    converted ≠ [] ∧ ∀ made ∈ converted, 128 ≤ made.toNat ∨ made.isLower = true
  blank : ∀ made ∈ converted, isWhitespace made = true → isWhitespace char = true

/-- What a character can become in upper case. -/
structure Uppers (char : Char) (converted : Str) : Prop where
  ascii : char.toNat < 128 → converted = [char.toUpper]
  other : 128 ≤ char.toNat → ∀ made ∈ converted, 128 ≤ made.toNat ∨ made.isUpper = true

/-- The tables of the platform are those of Unicode, as far as this is told here. -/
structure Platform.CaseTables (platform : Platform) : Prop where
  lower : ∀ text, ∃ converted : List Str,
    platform.toLowercase text = converted.flatten ∧ List.Forall₂ Lowers text converted
  upper : ∀ char, Uppers char (platform.toUppercase [char])

section Ascii

/-- A property of ASCII characters, checked code by code. -/
theorem forall_ascii {property : Char → Prop} (checked : ∀ code < 128, property (Char.ofNat code))
    {char : Char} (ascii : char.toNat < 128) : property char := by
  have same := checked char.toNat ascii
  rwa [Char.ofNat_toNat] at same

section

variable {char : Char} (other : 128 ≤ char.toNat)

include other

theorem toLower_of_not_ascii : char.toLower = char := by
  refine dif_neg fun ⟨_, atMost⟩ => ?_
  have small : char.toNat ≤ 90 := UInt32.le_iff_toNat_le.mp atMost
  omega

theorem toUpper_of_not_ascii : char.toUpper = char := by
  refine dif_neg fun ⟨_, atMost⟩ => ?_
  have small : char.toNat ≤ 122 := UInt32.le_iff_toNat_le.mp atMost
  omega

theorem isUpper_of_not_ascii : char.isUpper = false := by
  refine decide_eq_false fun ⟨_, atMost⟩ => ?_
  have small : char.toNat ≤ 90 := UInt32.le_iff_toNat_le.mp atMost
  omega

end

theorem isUpper_toLower (char : Char) : char.toLower.isUpper = false := by
  by_cases ascii : char.toNat < 128
  · exact @forall_ascii (fun char => char.toLower.isUpper = false) (by decide) char ascii
  · rw [toLower_of_not_ascii (Nat.le_of_not_lt ascii)]
    exact isUpper_of_not_ascii (Nat.le_of_not_lt ascii)

theorem isUpper_of_isLower {char : Char} (lower : char.isLower = true) : char.isUpper = false := by
  by_cases ascii : char.toNat < 128
  · exact @forall_ascii (fun char => char.isLower = true → char.isUpper = false) (by decide) char
      ascii lower
  · exact isUpper_of_not_ascii (Nat.le_of_not_lt ascii)

theorem toLower_eq_self_or_isLower (char : Char) :
    char.toLower = char ∨ char.toLower.isLower = true := by
  by_cases ascii : char.toNat < 128
  · exact @forall_ascii (fun char => char.toLower = char ∨ char.toLower.isLower = true) (by decide)
      char ascii
  · exact .inl (toLower_of_not_ascii (Nat.le_of_not_lt ascii))

theorem lowers_toLower (char : Char) : Lowers char [char.toLower] where
  ascii _ := rfl
  other high := by simp [toLower_of_not_ascii high, high]
  blank made member blank := by
    rw [mem_singleton.mp member] at blank
    by_cases ascii : char.toNat < 128
    · exact @forall_ascii (fun char => isWhitespace char.toLower = true → isWhitespace char = true)
        (by decide) char ascii blank
    · rwa [toLower_of_not_ascii (Nat.le_of_not_lt ascii)] at blank

theorem uppers_toUpper (char : Char) : Uppers char [char.toUpper] where
  ascii _ := rfl
  other high := by simp [toUpper_of_not_ascii high, high]

theorem Platform.caseTables_ascii (parseSocketAddr : Str → Option SocketAddr) :
    (Platform.ascii parseSocketAddr).CaseTables where
  lower text := by
    refine ⟨text.map fun char => [char.toLower], ?_, ?_⟩
    · induction text with
      | nil => rfl
      | cons char text ih => exact congrArg (char.toLower :: ·) ih
    · induction text with
      | nil => exact .nil
      | cons char text ih => exact .cons (lowers_toLower char) ih
  upper := uppers_toUpper

end Ascii

theorem Lowers.ne_nil {char : Char} {converted : Str} (lowers : Lowers char converted) :
    converted ≠ [] := by
  by_cases ascii : char.toNat < 128
  · rw [lowers.ascii ascii]
    exact cons_ne_nil _ _
  · exact (lowers.other (Nat.le_of_not_lt ascii)).1

section

variable {char made : Char} {converted : Str} (lowers : Lowers char converted)
  (member : made ∈ converted)

include lowers member

theorem Lowers.isUpper : made.isUpper = false := by
  by_cases ascii : char.toNat < 128
  · rw [lowers.ascii ascii] at member
    rw [mem_singleton.mp member]
    exact isUpper_toLower char
  · rcases (lowers.other (Nat.le_of_not_lt ascii)).2 made member with high | lower
    · exact isUpper_of_not_ascii high
    · exact isUpper_of_isLower lower

/-- An ASCII character that is not a letter comes from itself only. -/
theorem Lowers.eq_of_plain (ascii : made.toNat < 128) (plain : made.isLower = false) :
    made = char := by
  by_cases given : char.toNat < 128
  · rw [lowers.ascii given, mem_singleton] at member
    rcases toLower_eq_self_or_isLower char with same | lower
    · rw [member, same]
    · rw [← member, plain] at lower
      cases lower
  · rcases (lowers.other (Nat.le_of_not_lt given)).2 made member with high | lower
    · omega
    · rw [plain] at lower
      cases lower

end

namespace Platform.CaseTables

variable {platform : Platform} (tables : platform.CaseTables)
include tables

section

variable {text : Str} {made : Char} (member : made ∈ platform.toLowercase text)

include member

/-- Every character of a text in lower case was made from one of the text. -/
theorem mem_toLowercase : ∃ char ∈ text, ∃ converted, Lowers char converted ∧ made ∈ converted := by
  obtain ⟨parts, whole, lowers⟩ := tables.lower text
  rw [whole] at member
  clear whole
  induction lowers with
  | nil => exact absurd member not_mem_nil
  | @cons char converted text parts first rest ih =>
    rw [flatten_cons, mem_append] at member
    rcases member with here | later
    · exact ⟨char, .head _, converted, first, here⟩
    · obtain ⟨other, inside, found⟩ := ih later
      exact ⟨other, .tail _ inside, found⟩

theorem isUpper_toLowercase : made.isUpper = false := by
  obtain ⟨char, -, converted, lowers, inside⟩ := tables.mem_toLowercase member
  exact lowers.isUpper inside

theorem mem_of_mem_toLowercase (ascii : made.toNat < 128) (plain : made.isLower = false) :
    made ∈ text := by
  obtain ⟨char, given, converted, lowers, inside⟩ := tables.mem_toLowercase member
  rwa [lowers.eq_of_plain inside ascii plain]

end

/-- Lower case does not start with white space unless the text does. -/
theorem head?_toLowercase {text : Str} (first : ∀ char ∈ text.head?, isWhitespace char = false) :
    ∀ made ∈ (platform.toLowercase text).head?, isWhitespace made = false := by
  obtain ⟨parts, whole, lowers⟩ := tables.lower text
  rw [whole]
  cases lowers with
  | nil => exact fun made none => nomatch none
  | @cons char converted text parts lowers rest =>
    intro made head
    rw [flatten_cons, head?_append_of_ne_nil _ lowers.ne_nil] at head
    by_contra blank
    have given := lowers.blank made (mem_of_mem_head? head) (by simpa using blank)
    rw [first char rfl] at given
    cases given

/-- Lower case does not end in white space unless the text does. -/
theorem getLast?_toLowercase {text : Str}
    (last : ∀ char ∈ text.getLast?, isWhitespace char = false) :
    ∀ made ∈ (platform.toLowercase text).getLast?, isWhitespace made = false := by
  obtain ⟨parts, whole, lowers⟩ := tables.lower text
  rw [whole]
  obtain rfl | ⟨start, char, rfl⟩ := eq_nil_or_concat text
  · cases lowers
    exact fun made none => nomatch none
  · have back : List.Forall₂ Lowers (char :: start.reverse) parts.reverse := by
      simpa using forall₂_reverse_iff.mpr lowers
    cases shape : parts.reverse with
    | nil => exact nomatch shape ▸ back
    | cons converted others =>
      rw [shape] at back
      have lowered : Lowers char converted := (forall₂_cons.mp back).1
      have split : parts = others.reverse ++ [converted] := by
        rw [← reverse_reverse parts, shape, reverse_cons]
      intro made found
      rw [split, flatten_append, flatten_singleton,
        getLast?_append_of_ne_nil _ lowered.ne_nil] at found
      by_contra blank
      have given := lowered.blank made (mem_of_getLast? found) (by simpa using blank)
      rw [last char (by simp)] at given
      cases given

end Platform.CaseTables

end Sip3
