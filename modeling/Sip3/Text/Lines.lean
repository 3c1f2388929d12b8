import Sip3.Text.Utf8

/-!
# Texts on one line

A text without a line feed can be written into a line-oriented message and read
back. The operations here only select characters of a text, so they keep it on one
line; `lines_crlf` reads a written line back.
-/

namespace Sip3.Text.Str

open List Nat

/-- The text has no line feed. -/
def OneLine (text : Str) : Prop :=
  '\n' ∉ text

instance (text : Str) : Decidable (OneLine text) :=
  inferInstanceAs (Decidable ('\n' ∉ text))

section OneLine

variable {text left right : Str} {char : Char}

@[simp] theorem oneLine_nil : OneLine [] :=
  not_mem_nil

@[simp] theorem oneLine_cons : OneLine (char :: text) ↔ char ≠ '\n' ∧ OneLine text := by
  simp [OneLine, eq_comm]

@[simp] theorem oneLine_append : OneLine (left ++ right) ↔ OneLine left ∧ OneLine right := by
  simp [OneLine]

theorem OneLine.subset (whole : OneLine text) (part : left ⊆ text) : OneLine left :=
  fun member => whole (part member)

/-- A text over an alphabet without line feed is on one line. -/
theorem oneLine_of_alphabet {alphabet : List Char} (within : ∀ char ∈ text, char ∈ alphabet)
    (absent : '\n' ∉ alphabet) : OneLine text :=
  fun member => absent (within _ member)

/-- A property of every character of a text, checked one by one. -/
theorem forall_mem_of_all {property : Char → Prop} [DecidablePred property] {text : Str}
    (checked : text.all (fun char => decide (property char)) = true) :
    ∀ char ∈ text, property char :=
  fun char member => of_decide_eq_true (all_eq_true.mp checked char member)

theorem oneLine_ofNat (value : Nat) : OneLine (ofNat value) := by
  intro member
  exact absurd (isDigit_of_mem_toDigits (by decide) (by decide) member) (by decide)

theorem digitChar_mem_hexDigits : ∀ digit < 16, digitChar digit ∈ hexDigits := by
  decide

/-- A number in a base up to 16 is written with hexadecimal digits. -/
theorem mem_hexDigits_of_mem_toDigits {base value : Nat} (several : 1 < base) (most : base ≤ 16)
    (member : char ∈ toDigits base value) : char ∈ hexDigits := by
  induction value using Nat.strongRecOn with
  | ind value ih =>
    rw [Nat.toDigits_eq_if several] at member
    split at member
    · next small =>
        exact mem_singleton.mp member ▸ digitChar_mem_hexDigits _ (by omega)
    · next large =>
        have digit : value % base < 16 := (mod_lt value (by omega)).trans_le most
        obtain inside | last := mem_append.mp member
        · exact ih _ (div_lt_self (by omega) several) inside
        · exact mem_singleton.mp last ▸ digitChar_mem_hexDigits _ digit

theorem mem_hexDigits_of_mem_ofHex {width value : Nat} (member : char ∈ ofHex width value) :
    char ∈ hexDigits := by
  obtain padding | digit := mem_append.mp member
  · rw [eq_of_mem_replicate padding]
    decide
  · exact mem_hexDigits_of_mem_toDigits (by decide) (by decide) digit

/-- A number that fits is written with as many digits as the width. -/
theorem length_ofHex {width value : Nat} (positive : 0 < width) (fits : value < 16 ^ width) :
    (ofHex width value).length = width := by
  have short := (length_toDigits_le_iff (by decide) positive).mpr fits
  simp only [ofHex, length_append, length_replicate]
  omega

theorem length_ofBytes (bytes : List UInt8) : (ofBytes bytes).length = 2 * bytes.length := by
  have digits : ∀ byte ∈ bytes, (ofHex 2 byte.toNat).length = 2 := fun byte _ =>
    length_ofHex (by decide) byte.toNat_lt
  rw [ofBytes, length_flatMap, map_congr_left digits]
  simp [mul_comm]

theorem mem_hexDigits_of_mem_ofBytes {bytes : List UInt8} (member : char ∈ ofBytes bytes) :
    char ∈ hexDigits := by
  obtain ⟨byte, -, inside⟩ := mem_flatMap.mp member
  exact mem_hexDigits_of_mem_ofHex inside

theorem oneLine_ofHex (width value : Nat) : OneLine (ofHex width value) :=
  oneLine_of_alphabet (fun _ => mem_hexDigits_of_mem_ofHex) (by decide)

theorem oneLine_ofBytes (bytes : List UInt8) : OneLine (ofBytes bytes) := by
  intro member
  obtain ⟨byte, -, inside⟩ := mem_flatMap.mp member
  exact oneLine_ofHex 2 byte.toNat inside

end OneLine

section Selection

variable {text left right piece : Str} {separator : Char}

theorem trimStart_subset (text : Str) : trimStart text ⊆ text :=
  (dropWhile_suffix _).subset

theorem trimEnd_subset (text : Str) : trimEnd text ⊆ text :=
  (List.rdropWhile_prefix _ _).subset

theorem trim_subset (text : Str) : trim text ⊆ text :=
  List.Subset.trans (trimEnd_subset _) (trimStart_subset _)

theorem splitOnce_subset (cut : splitOnce separator text = some (left, right)) :
    left ⊆ text ∧ right ⊆ text := by
  unfold splitOnce at cut
  split at cut
  · cases cut
  · next first rest found =>
      cases cut
      refine ⟨(List.takeWhile_prefix _).subset, ?_⟩
      intro char member
      exact (dropWhile_suffix _).subset (found ▸ mem_cons_of_mem first member)

theorem splitn_subset {count : Nat} (member : piece ∈ splitn count separator text) :
    piece ⊆ text := by
  induction count generalizing text with
  | zero => cases member
  | succ count ih =>
    cases count with
    | zero => exact mem_singleton.mp member ▸ List.Subset.refl _
    | succ count =>
      unfold splitn at member
      split at member
      · exact mem_singleton.mp member ▸ List.Subset.refl _
      · next first rest cut =>
          obtain rfl | later := mem_cons.mp member
          · exact (splitOnce_subset cut).1
          · exact List.Subset.trans (ih later) (splitOnce_subset cut).2

theorem slice_subset {first last : Nat} (cut : slice text first last = some piece) :
    piece ⊆ text := by
  obtain ⟨left, right, rfl, -, -⟩ := slice_eq_some cut
  exact subset_append_of_subset_right _ (subset_append_left _ _)

theorem split_subset (member : piece ∈ split separator text) : piece ⊆ text := by
  induction text generalizing piece with
  | nil =>
    rw [split, splitOn_nil, mem_singleton] at member
    exact member ▸ List.Subset.refl _
  | cons char rest ih =>
    rw [split, splitOn_cons_eq_if_modifyHead] at member
    split at member
    · obtain rfl | later := mem_cons.mp member
      · exact nil_subset _
      · exact subset_cons_of_subset _ (ih later)
    · cases pieces : splitOn separator rest with
      | nil => exact absurd pieces (splitOn_ne_nil _ _)
      | cons first others =>
        rw [pieces, modifyHead_cons] at member
        obtain rfl | later := mem_cons.mp member
        · have inside : first ⊆ rest := ih (by rw [split, pieces]; exact .head _)
          exact cons_subset_cons _ inside
        · exact subset_cons_of_subset _ (ih (by rw [split, pieces]; exact .tail _ later))

theorem not_mem_of_mem_split (member : piece ∈ split separator text) : separator ∉ piece := by
  induction text generalizing piece with
  | nil =>
    rw [split, splitOn_nil, mem_singleton] at member
    exact member ▸ not_mem_nil
  | cons char rest ih =>
    rw [split, splitOn_cons_eq_if_modifyHead] at member
    split at member
    · obtain rfl | later := mem_cons.mp member
      · exact not_mem_nil
      · exact ih later
    · next different =>
        cases pieces : splitOn separator rest with
        | nil => exact absurd pieces (splitOn_ne_nil _ _)
        | cons first others =>
          rw [pieces, modifyHead_cons] at member
          obtain rfl | later := mem_cons.mp member
          · have absent : separator ∉ first := ih (by rw [split, pieces]; exact .head _)
            simp only [mem_cons, not_or]
            exact ⟨fun same => different (by simp [same]), absent⟩
          · exact ih (by rw [split, pieces]; exact .tail _ later)

theorem trimStartMatches_subset (text pattern : Str) : trimStartMatches text pattern ⊆ text := by
  have go : ∀ fuel rest, trimStartMatches.go pattern fuel rest ⊆ rest := by
    intro fuel
    induction fuel with
    | zero => exact fun rest => List.Subset.refl _
    | succ fuel ih =>
      intro rest
      unfold trimStartMatches.go
      split
      · exact List.Subset.refl _
      · split
        · exact List.Subset.trans (ih _) (drop_suffix _ _).subset
        · exact List.Subset.refl _
  exact go _ _

end Selection

section Lines

variable {line rest : Str}

theorem split_of_not_mem {separator : Char} {text : Str} (absent : separator ∉ text) :
    split separator text = [text] := by
  have alone := @List.splitOn_intercalate _ [text] _ _ separator (by simpa using absent) (by simp)
  simpa [split] using alone

theorem lines_of_oneLine (single : OneLine line) :
    lines line = if line = [] then [] else [line] := by
  have whole : line.splitOn '\n' = [line] := split_of_not_mem single
  rw [lines, whole]
  by_cases empty : line = [] <;> simp [empty]

theorem lines_lf (single : OneLine line) (rest : Str) :
    lines (line ++ '\n' :: rest) = stripCarriageReturn line :: lines rest := by
  rw [lines, splitOn_append_cons_self_of_not_mem single,
    dropLast_cons_of_ne_nil (splitOn_ne_nil _ _),
    getLast?_cons_of_ne_nil (splitOn_ne_nil _ _), map_cons, cons_append, lines]

/-- A line written with its end is the first line read. -/
theorem lines_crlf (single : OneLine line) (rest : Str) :
    lines (line ++ '\r' :: '\n' :: rest) = line :: lines rest := by
  have whole : line ++ '\r' :: '\n' :: rest = (line ++ ['\r']) ++ '\n' :: rest := by simp
  have stripped : stripCarriageReturn (line ++ ['\r']) = line := by simp [stripCarriageReturn]
  have ended : OneLine (line ++ ['\r']) := oneLine_append.mpr ⟨single, by decide⟩
  rw [whole, lines_lf ended, stripped]

theorem oneLine_of_mem_lines {text : Str} (member : line ∈ lines text) : OneLine line := by
  obtain ended | last := mem_append.mp member
  · obtain ⟨piece, inside, rfl⟩ := mem_map.mp ended
    refine OneLine.subset (not_mem_of_mem_split (dropLast_subset _ inside)) ?_
    unfold stripCarriageReturn
    split
    · exact dropLast_subset _
    · exact List.Subset.refl _
  · obtain ⟨inside, -⟩ := mem_filter.mp last
    exact not_mem_of_mem_split (mem_of_getLast? (Option.mem_toList.mp inside))

theorem join_cons_cons (separator first second : Str) (rest : List Str) :
    join separator (first :: second :: rest) = first ++ separator ++ join separator (second :: rest) :=
  intercalate_cons_cons

/-- Lines that are joined are read back, up to an empty last one. -/
theorem lines_join {texts : List Str} (single : ∀ text ∈ texts, OneLine text) :
    lines (join "\r\n".toList texts) =
      if texts.getLast? = some [] then texts.dropLast else texts := by
  induction texts with
  | nil => rfl
  | cons text rest ih =>
    have head : OneLine text := single text (.head _)
    cases rest with
    | nil =>
      have alone : join "\r\n".toList [text] = text := by simp [join]
      rw [alone, lines_of_oneLine head]
      by_cases empty : text = [] <;> simp [empty]
    | cons next others =>
      have tail := ih fun other member => single other (.tail _ member)
      have shape : join "\r\n".toList (text :: next :: others) =
          text ++ '\r' :: '\n' :: join "\r\n".toList (next :: others) := by
        rw [join_cons_cons, append_assoc]
        rfl
      rw [shape, lines_crlf head, tail, getLast?_cons_cons, dropLast_cons_cons]
      split <;> rfl

theorem splitCrLf_go {current line : Str} (single : OneLine line) (rest : Str) :
    splitCrLf.go current (line ++ '\r' :: '\n' :: rest) =
      (current.reverse ++ line) :: splitCrLf.go [] rest := by
  induction line generalizing current with
  | nil => simp [splitCrLf.go]
  | cons char line ih =>
    have later := @ih (char :: current) (oneLine_cons.mp single).2
    have step : splitCrLf.go current (char :: (line ++ '\r' :: '\n' :: rest)) =
        splitCrLf.go (char :: current) (line ++ '\r' :: '\n' :: rest) := by
      cases line with
      | nil =>
        rw [splitCrLf.go]
        intro _ _ same
        simp at same
      | cons second line =>
        rw [splitCrLf.go]
        intro _ _ same
        have feed : second = '\n' := (cons.inj same).1
        have plain := (oneLine_cons.mp (oneLine_cons.mp single).2).1
        exact plain feed
    rw [cons_append, step, later]
    simp

theorem splitCrLf_crlf {line : Str} (single : OneLine line) (rest : Str) :
    splitCrLf (line ++ '\r' :: '\n' :: rest) = line :: splitCrLf rest :=
  splitCrLf_go single rest

/-- Every line feed follows a carriage return, and none is the last character. -/
structure CrLfBetween (text : Str) : Prop where
  paired : ∀ front back, text = front ++ '\n' :: back → front.getLast? = some '\r'
  unended : text.getLast? ≠ some '\n'

/-- A text is on one line, or starts with a line that is ended. -/
theorem oneLine_or_ended (text : Str) :
    OneLine text ∨ ∃ line rest, OneLine line ∧ text = line ++ '\n' :: rest := by
  by_cases member : '\n' ∈ text
  · obtain ⟨line, rest, rfl, single⟩ := eq_append_cons_of_mem member
    exact .inr ⟨line, rest, single, rfl⟩
  · exact .inl member

theorem crLfBetween_of_oneLine {text : Str} (single : OneLine text) : CrLfBetween text where
  paired front back shape := by
    rw [shape] at single
    exact absurd (mem_append_right _ mem_cons_self) single
  unended ends := single (mem_of_getLast? ends)

theorem getLast?_ended {line rest : Str} (some : rest ≠ []) :
    (line ++ '\n' :: rest).getLast? = rest.getLast? := by
  rw [getLast?_append_cons, getLast?_cons_of_ne_nil some]

theorem crLfBetween_ended {line rest : Str} (single : OneLine line) :
    CrLfBetween (line ++ '\n' :: rest) ↔
      line.getLast? = some '\r' ∧ rest ≠ [] ∧ CrLfBetween rest := by
  constructor
  · rintro ⟨paired, unended⟩
    have some : rest ≠ [] := by
      rintro rfl
      simp at unended
    refine ⟨paired line rest rfl, some, ?_, ?_⟩
    · rintro front back rfl
      have later := paired (line ++ '\n' :: front) back (by simp)
      cases front with
      | nil => simp at later
      | cons first front => rwa [getLast?_ended (cons_ne_nil _ _)] at later
    · rwa [getLast?_ended some] at unended
  · rintro ⟨paired, some, between⟩
    constructor
    · intro front back shape
      -- The line feed is the first one, or one of the rest.
      rcases append_eq_append_iff.mp shape with ⟨middle, whole, inner⟩ | ⟨middle, whole, inner⟩
      · cases middle with
        | nil =>
          rw [append_nil] at whole
          exact whole ▸ paired
        | cons char middle =>
          obtain ⟨rfl, tail⟩ := cons.inj inner
          have last := between.paired middle back tail
          have nonempty : middle ≠ [] := by
            rintro rfl
            simp at last
          rw [whole, getLast?_ended nonempty, last]
      · cases middle with
        | nil =>
          rw [append_nil] at whole
          exact whole ▸ paired
        | cons char middle =>
          obtain ⟨rfl, -⟩ := cons.inj inner
          exact absurd (whole ▸ mem_append_right _ mem_cons_self) single
    · rw [getLast?_ended some]
      exact between.unended

/-- Cutting a text into lines and joining them again gives the text exactly when its lines are
separated by CRLF and the last one is not ended. -/
theorem join_lines_eq_iff (text : Str) :
    join "\r\n".toList (lines text) = text ↔ CrLfBetween text := by
  induction length : text.length using Nat.strongRecOn generalizing text with
  | ind size ih =>
    obtain single | ⟨line, rest, single, rfl⟩ := oneLine_or_ended text
    · rw [lines_of_oneLine single]
      refine ⟨fun _ => crLfBetween_of_oneLine single, fun _ => ?_⟩
      by_cases empty : text = [] <;> simp [empty, join]
    · have shorter := ih rest.length (by rw [← length, length_append]; simp; omega) rest rfl
      rw [lines_lf single, crLfBetween_ended single, ← shorter]
      have stripped : (stripCarriageReturn line).length ≤ line.length := by
        unfold stripCarriageReturn
        split <;> simp
      cases pieces : lines rest with
      | nil =>
        have short : join "\r\n".toList [stripCarriageReturn line] ≠ line ++ '\n' :: rest := by
          intro same
          have lengths := congrArg List.length same
          simp [join] at lengths
          omega
        refine ⟨fun same => absurd same short, fun ⟨_, given, same⟩ => ?_⟩
        exact absurd same.symm given
      | cons first others =>
        have given : rest ≠ [] := by
          rintro rfl
          cases pieces
        have separator : "\r\n".toList = ['\r', '\n'] := rfl
        rw [join_cons_cons, separator]
        by_cases ends : line.getLast? = some '\r'
        · obtain ⟨start, rfl⟩ := getLast?_eq_some_iff.mp ends
          have start_eq : stripCarriageReturn (start ++ ['\r']) = start := by
            simp [stripCarriageReturn]
          rw [start_eq]
          simp [given]
        · rw [stripCarriageReturn, if_neg ends]
          simp [ends]

end Lines

/-- There is nothing to trim where neither end is white space. -/
theorem trim_of_ends {text : Str} (first : ∀ char ∈ text.head?, isWhitespace char = false)
    (last : ∀ char ∈ text.getLast?, isWhitespace char = false) : trim text = text := by
  have front : text.dropWhile isWhitespace = text := by
    cases text with
    | nil => rfl
    | cons char rest => simp [first char rfl]
  have back : text.rdropWhile isWhitespace = text :=
    rdropWhile_eq_self_iff.mpr fun nonempty => by
      simp [last _ (getLast?_eq_some_getLast nonempty)]
  rw [trim, trimEnd, trimStart, front, back]

theorem trim_eq_self {text : Str} (solid : ∀ char ∈ text, isWhitespace char = false) :
    trim text = text :=
  trim_of_ends (fun char first => solid char (mem_of_mem_head? first))
    fun char last => solid char (mem_of_getLast? last)

theorem isWhitespace_of_isDigit {char : Char} (digit : char.isDigit = true) :
    isWhitespace char = false := by
  have range : 48 ≤ char.toNat ∧ char.toNat ≤ 57 := by
    simpa [Char.isDigit, UInt32.le_iff_toNat_le] using digit
  simp only [isWhitespace, Bool.or_eq_false_iff, Bool.and_eq_false_iff, decide_eq_false_iff_not,
    beq_eq_false_iff_ne]
  omega

theorem isDigit_of_mem_ofNat {char : Char} {value : Nat} (member : char ∈ ofNat value) :
    char.isDigit = true :=
  isDigit_of_mem_toDigits (by decide) (by decide) member

theorem trim_ofNat (value : Nat) : trim (ofNat value) = ofNat value :=
  trim_eq_self fun _ member => isWhitespace_of_isDigit (isDigit_of_mem_ofNat member)

/-- The digits of a decimal rendering add up to the number. -/
theorem foldl_ofNat (value : Nat) :
    (ofNat value).foldl (fun sum digit => sum * 10 + (digit.toNat - '0'.toNat)) 0 = value := by
  have read : ofDigitChars 10 (toDigits 10 value) 0 = value :=
    ofDigitChars_ten_toDigits
  simpa only [ofDigitChars, mul_comm, ofNat] using read

theorem digits?_ofNat (value : Nat) : digits? (ofNat value) = some value := by
  have digits : ∀ char ∈ ofNat value, char.isDigit = true := fun _ => isDigit_of_mem_ofNat
  rw [digits?, if_pos ⟨toDigits_ne_nil, all_eq_true.mpr digits⟩, foldl_ofNat]

theorem parseUnsigned_ofNat {bound value : Nat} (small : value < bound) :
    parseUnsigned bound (ofNat value) = some value := by
  have unsigned : ∀ rest, ofNat value ≠ '+' :: rest := by
    intro rest same
    have digit : '+'.isDigit = true := isDigit_of_mem_ofNat (same ▸ mem_cons_self)
    exact absurd digit (by decide)
  unfold parseUnsigned
  split
  · next rest same => exact absurd same (unsigned rest)
  · simp only [digits?_ofNat, if_pos small]

end Sip3.Text.Str
