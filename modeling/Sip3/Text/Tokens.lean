import Sip3.Text.Lines

/-!
# Ends, numbers and words of a text

What `str::trim`, `str::parse` and `str::split_whitespace` leave or find.
-/

namespace Sip3.Text.Str

open List

section Ends

theorem head?_dropWhile {test : Char → Bool} {text : Str} :
    ∀ char ∈ (text.dropWhile test).head?, test char = false := by
  intro char first
  have stops := head?_dropWhile_not test text
  rwa [Option.mem_def.mp first] at stops

theorem head?_trim (text : Str) : ∀ char ∈ (trim text).head?, isWhitespace char = false := by
  intro char head
  obtain ⟨rest, whole⟩ : trim text <+: trimStart text := rdropWhile_prefix _ _
  have start : (trimStart text).head? = some char := by
    rw [← whole, head?_append, Option.mem_def.mp head, Option.some_or]
  exact head?_dropWhile char start

theorem trim_eq_nil_iff {text : Str} : trim text = [] ↔ ∀ char ∈ text, isWhitespace char = true := by
  rw [trim, trimEnd, rdropWhile_eq_nil_iff, trimStart]
  constructor
  · intro blank
    apply dropWhile_eq_nil_iff.mp
    cases kept : text.dropWhile isWhitespace with
    | nil => rfl
    | cons char rest =>
      have first : isWhitespace char = false := head?_dropWhile char (by rw [kept]; rfl)
      rw [kept] at blank
      cases first.symm.trans (blank char (.head _))
  · exact fun blank char member => blank char ((dropWhile_suffix _).subset member)

theorem getLast?_trim (text : Str) : ∀ char ∈ (trim text).getLast?, isWhitespace char = false := by
  intro char found
  have filled : trim text ≠ [] := by
    intro empty
    rw [empty] at found
    cases found
  have last : (trim text).getLast filled = char := by
    rwa [Option.mem_def, getLast?_eq_some_getLast filled, Option.some_inj] at found
  have plain := rdropWhile_last_not isWhitespace (trimStart text) filled
  rw [← last]
  exact Bool.eq_false_iff.mpr plain

theorem trim_trim (text : Str) : trim (trim text) = trim text :=
  trim_of_ends (head?_trim text) (getLast?_trim text)

end Ends

theorem splitOnce_eq_some {separator : Char} {text left right : Str}
    (cut : splitOnce separator text = some (left, right)) :
    text = left ++ separator :: right ∧ separator ∉ left := by
  by_cases member : separator ∈ text
  · obtain ⟨front, back, rfl, absent⟩ := eq_append_cons_of_mem member
    rw [splitOnce_append absent] at cut
    cases cut
    exact ⟨rfl, absent⟩
  · rw [splitOnce_eq_none member] at cut
    cases cut

section Numbers

variable {text : Str} {value bound : Nat}

theorem isDigit_of_digits? (read : digits? text = some value) :
    ∀ char ∈ text, char.isDigit = true := by
  unfold digits? at read
  split at read
  · next checked => exact all_eq_true.mp checked.2
  · cases read

theorem not_mem_of_digits? {char : Char} (read : digits? text = some value)
    (other : char.isDigit = false) : char ∉ text := by
  intro member
  rw [isDigit_of_digits? read char member] at other
  cases other

/-- Digits are parsed as their number if it is small enough. -/
theorem parseUnsigned_of_digits? (read : digits? text = some value) (small : value < bound) :
    parseUnsigned bound text = some value := by
  have unsigned : '+' ∉ text := not_mem_of_digits? read (by decide)
  unfold parseUnsigned
  split
  · exact absurd mem_cons_self unsigned
  · simp only [read, if_pos small]

end Numbers

section Words

variable {word rest : Str} {blank : Char}

theorem splitWhitespace_blank (space : isWhitespace blank = true) (rest : Str) :
    splitWhitespace (blank :: rest) = splitWhitespace rest := by
  rw [splitWhitespace, splitOnP_cons_eq_if_modifyHead, if_pos space]
  simp [splitWhitespace]

theorem splitWhitespace_trimStart (text : Str) :
    splitWhitespace (trimStart text) = splitWhitespace text := by
  induction text with
  | nil => rfl
  | cons char text ih =>
    by_cases space : isWhitespace char = true
    · rw [splitWhitespace_blank space, trimStart, dropWhile_cons_of_pos space]
      exact ih
    · rw [trimStart, dropWhile_cons_of_neg space]

theorem splitWhitespace_word (some : word ≠ []) (solid : ∀ char ∈ word, isWhitespace char = false)
    (space : isWhitespace blank = true) (rest : Str) :
    splitWhitespace (word ++ blank :: rest) = word :: splitWhitespace rest := by
  rw [splitWhitespace, splitOnP_append_cons_of_forall_mem (by simpa using solid) blank space,
    filter_cons_of_pos (by simpa using some), splitWhitespace]

theorem splitWhitespace_of_solid (some : word ≠ [])
    (solid : ∀ char ∈ word, isWhitespace char = false) : splitWhitespace word = [word] := by
  rw [splitWhitespace, splitOnP_eq_singleton (by simpa using solid)]
  simp [some]

/-- The first word of a text that does not start with white space. -/
theorem splitWhitespace_first {char : Char} (solid : isWhitespace char = false) (rest : Str) :
    ∃ more, splitWhitespace (char :: rest) =
      (char :: rest).takeWhile (fun char => !isWhitespace char) :: more := by
  have whole := @List.takeWhile_append_dropWhile _ (fun char => !isWhitespace char) (char :: rest)
  have word : ∀ other ∈ (char :: rest).takeWhile (fun char => !isWhitespace char),
      isWhitespace other = false := fun other member => by
    simpa using mem_takeWhile_imp member
  have some : (char :: rest).takeWhile (fun char => !isWhitespace char) ≠ [] := by
    simp [solid]
  cases found : (char :: rest).dropWhile (fun char => !isWhitespace char) with
  | nil =>
    rw [found, append_nil] at whole
    refine ⟨[], ?_⟩
    rw [whole] at word some ⊢
    exact splitWhitespace_of_solid some word
  | cons blank tail =>
    have stop := head?_dropWhile blank (congrArg head? found)
    have space : isWhitespace blank = true := by simpa using stop
    rw [found] at whole
    refine ⟨splitWhitespace tail, ?_⟩
    have cut := splitWhitespace_word some word space tail
    rwa [whole] at cut

end Words

end Sip3.Text.Str
