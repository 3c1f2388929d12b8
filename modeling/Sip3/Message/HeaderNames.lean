import Sip3.CaseTables
import Sip3.Message.Forwarding
import Sip3.Message.RoundTrip
import Sip3.Text.Tokens

/-!
# Names of headers

The parser files a header under a normalised name, and a forwarded request writes the name with
capitals. An ASCII name is normalised to itself again (`normalizeHeaderName_capitalizeHeader`), and
no name breaks its line (`oneLine_capitalizeHeader`).
-/

namespace Sip3

open Text Str List

variable {platform : Platform} {name label : Str}

/-- What the names under which headers are filed have in common. -/
structure NormalName (name : Str) : Prop where
  oneLine : Str.OneLine name
  noColon : ':' ∉ name
  lower : ∀ char ∈ name, char.isUpper = false
  first : ∀ char ∈ name.head?, isWhitespace char = false
  last : ∀ char ∈ name.getLast?, isWhitespace char = false
  expanded : expandCompact name = name

/-- The long forms of the compact names. -/
def longNames : List Str :=
  ["from".toList, "to".toList, "via".toList, "content-type".toList, "content-length".toList,
    "call-id".toList, "contact".toList, "content-encoding".toList]

theorem expandCompact_cases (name : Str) :
    expandCompact name = name ∨ expandCompact name ∈ longNames := by
  unfold expandCompact longNames
  split <;> simp

theorem normalName_of_mem_longNames (member : name ∈ longNames) : NormalName name := by
  have checked : ∀ name ∈ longNames, Str.OneLine name ∧ ':' ∉ name ∧
      name.all (!Char.isUpper ·) = true ∧ name.head?.all (!isWhitespace ·) = true ∧
      name.getLast?.all (!isWhitespace ·) = true ∧ expandCompact name = name := by
    decide
  obtain ⟨oneLine, noColon, lower, first, last, expanded⟩ := checked name member
  simp only [all_eq_true, Option.all_eq_true, Bool.not_eq_true'] at lower first last
  exact ⟨oneLine, noColon, lower, first, last, expanded⟩

/-- A label without line feed or colon has such a name. -/
theorem normalName_normalizeHeaderName (tables : platform.CaseTables) (single : Str.OneLine label)
    (noColon : ':' ∉ label) : NormalName (normalizeHeaderName platform label) := by
  rcases expandCompact_cases (platform.toLowercase (trim label)) with same | long
  · rw [normalizeHeaderName, same]
    have back : ∀ char ∈ platform.toLowercase (trim label), char.toNat < 128 →
        char.isLower = false → char ∈ label := fun char member ascii plain =>
      trim_subset label (tables.mem_of_mem_toLowercase member ascii plain)
    exact
      { oneLine := fun member => single (back _ member (by decide) (by decide))
        noColon := fun member => noColon (back _ member (by decide) (by decide))
        lower := fun char member => tables.isUpper_toLowercase member
        first := tables.head?_toLowercase (head?_trim label)
        last := tables.getLast?_toLowercase (getLast?_trim label)
        expanded := same }
  · exact normalName_of_mem_longNames long

theorem normalName_of_headerName? (tables : platform.CaseTables) {line : Str}
    (single : Str.OneLine line) (found : headerName? platform line = some name) :
    NormalName name := by
  obtain ⟨⟨given, value⟩, header, rfl⟩ := Option.map_eq_some_iff.mp found
  obtain ⟨label, text, cut, named, -⟩ := splitOnce_of_headerOf? header
  obtain ⟨part, -⟩ := splitOnce_subset cut
  rw [← named]
  exact normalName_normalizeHeaderName tables (single.subset part) (splitOnce_eq_some cut).2

section Capitals

theorem toAsciiLowercase_join (separator : Str) (texts : List Str) :
    toAsciiLowercase (join separator texts) =
      join (toAsciiLowercase separator) (texts.map toAsciiLowercase) := by
  induction texts with
  | nil => rfl
  | cons text texts ih =>
    cases texts with
    | nil => simp [join, toAsciiLowercase]
    | cons next others =>
      rw [map_cons, map_cons, join_cons_cons, join_cons_cons, ← map_cons,
        ← ih]
      simp [toAsciiLowercase]

variable {char : Char}

theorem toLower_toUpper (ascii : char.toNat < 128) (lower : char.isUpper = false) :
    char.toUpper.toLower = char :=
  @forall_ascii (fun char => char.isUpper = false → char.toUpper.toLower = char) (by decide) char
    ascii lower

theorem toLower_of_not_upper (lower : char.isUpper = false) : char.toLower = char :=
  dif_neg (of_decide_eq_false lower)

/-- The capitals of an ASCII name are taken back by lower case. -/
theorem toAsciiLowercase_capitalizeHeader (tables : platform.CaseTables)
    (ascii : ∀ char ∈ name, char.toNat < 128) (lower : ∀ char ∈ name, char.isUpper = false) :
    toAsciiLowercase (capitalizeHeader platform name) = name := by
  have word : ∀ piece ∈ split '-' name,
      toAsciiLowercase (capitalizeHeader.capitalizeWord platform piece) = piece := by
    intro piece member
    have inside := split_subset member
    cases piece with
    | nil => rfl
    | cons first rest =>
      have head := (tables.upper first).ascii (ascii first (inside (.head _)))
      have tail : ∀ char ∈ rest, char.toLower = char := fun char found =>
        toLower_of_not_upper (lower char (inside (.tail _ found)))
      calc toAsciiLowercase (platform.toUppercase [first] ++ rest)
          = first.toUpper.toLower :: rest.map Char.toLower := by rw [head]; rfl
        _ = first :: rest := by
          rw [toLower_toUpper (ascii first (inside (.head _))) (lower first (inside (.head _))),
            map_congr_left tail, map_id']
  have words : toAsciiLowercase (join ['-'] ((split '-' name).map
      (capitalizeHeader.capitalizeWord platform))) = name := by
    have same : (split '-' name).map (toAsciiLowercase ∘
        capitalizeHeader.capitalizeWord platform) = split '-' name :=
      (map_congr_left word).trans (map_id' _)
    rw [toAsciiLowercase_join, map_map, same]
    exact intercalate_splitOn '-'
  unfold capitalizeHeader
  split_ifs with callId cseq authenticate type length agent
  · rw [callId]; rfl
  · rw [cseq]; rfl
  · rw [authenticate]; rfl
  · rw [type]; rfl
  · rw [length]; rfl
  · rw [agent]; rfl
  · exact words

theorem isWhitespace_toLower (blank : isWhitespace char = true) :
    isWhitespace char.toLower = true := by
  have lower : char.isUpper = false := by
    by_cases ascii : char.toNat < 128
    · exact @forall_ascii (fun char => isWhitespace char = true → char.isUpper = false) (by decide)
        char ascii blank
    · exact isUpper_of_not_ascii (Nat.le_of_not_lt ascii)
  rwa [toLower_of_not_upper lower]

section Lowered

variable {text : Str} (back : Str.toAsciiLowercase text = name)
include back

theorem toLower_mem_of_lowered {char : Char} (member : char ∈ text) : char.toLower ∈ name :=
  back ▸ mem_map_of_mem member

theorem ascii_of_lowered (ascii : ∀ char ∈ name, char.toNat < 128) :
    ∀ char ∈ text, char.toNat < 128 := by
  intro char member
  by_contra other
  have found := toLower_mem_of_lowered back member
  rw [toLower_of_not_ascii (Nat.le_of_not_lt other)] at found
  exact other (ascii char found)

/-- A text whose lower case starts with no white space does not. -/
theorem head?_of_lowered (first : ∀ char ∈ name.head?, isWhitespace char = false) :
    ∀ char ∈ text.head?, isWhitespace char = false := by
  intro char found
  by_contra blank
  have head : name.head? = some char.toLower := by
    rw [← back, toAsciiLowercase, head?_map, Option.mem_def.mp found, Option.map_some]
  have plain := first char.toLower head
  rw [isWhitespace_toLower (by simpa using blank)] at plain
  cases plain

theorem getLast?_of_lowered (last : ∀ char ∈ name.getLast?, isWhitespace char = false) :
    ∀ char ∈ text.getLast?, isWhitespace char = false := by
  intro char found
  by_contra blank
  have ends : name.getLast? = some char.toLower := by
    rw [← back, toAsciiLowercase, getLast?_map, Option.mem_def.mp found, Option.map_some]
  have plain := last char.toLower ends
  rw [isWhitespace_toLower (by simpa using blank)] at plain
  cases plain

end Lowered

section

variable (tables : platform.CaseTables) (normal : NormalName name)
  (ascii : ∀ char ∈ name, char.toNat < 128)

include tables normal ascii

/-- A capitalised ASCII name can start a header line. -/
theorem headerName_capitalizeHeader : HeaderName (capitalizeHeader platform name) := by
  have back := toAsciiLowercase_capitalizeHeader tables ascii normal.lower
  have first := head?_of_lowered back normal.first
  refine ⟨fun member => ?_, fun member => ?_, fun found => ?_, fun found => ?_⟩
  · exact normal.oneLine (toLower_mem_of_lowered back member)
  · exact normal.noColon (toLower_mem_of_lowered back member)
  · exact absurd (first _ found) (by decide)
  · exact absurd (first _ found) (by decide)

/-- An ASCII name is read back from its capitalised form. -/
theorem normalizeHeaderName_capitalizeHeader :
    normalizeHeaderName platform (capitalizeHeader platform name) = name := by
  have back := toAsciiLowercase_capitalizeHeader tables ascii normal.lower
  have trimmed : trim (capitalizeHeader platform name) = capitalizeHeader platform name :=
    trim_of_ends (head?_of_lowered back normal.first) (getLast?_of_lowered back normal.last)
  rw [normalizeHeaderName, trimmed, platform.toLowercase_ascii _ (ascii_of_lowered back ascii), back,
    normal.expanded]

end

theorem oneLine_join {separator : Str} {texts : List Str} (between : Str.OneLine separator)
    (single : ∀ text ∈ texts, Str.OneLine text) : Str.OneLine (join separator texts) := by
  induction texts with
  | nil => exact oneLine_nil
  | cons text texts ih =>
    have head := single text (.head _)
    have tail := ih fun other member => single other (.tail _ member)
    cases texts with
    | nil => simpa [join] using head
    | cons next others =>
      rw [join_cons_cons]
      exact oneLine_append.mpr ⟨oneLine_append.mpr ⟨head, between⟩, tail⟩

theorem Uppers.oneLine {converted : Str} (uppers : Uppers char converted) (plain : char ≠ '\n') :
    Str.OneLine converted := by
  intro member
  by_cases ascii : char.toNat < 128
  · rw [uppers.ascii ascii, mem_singleton] at member
    exact plain (@forall_ascii (fun char => '\n' = char.toUpper → char = '\n') (by decide) char
      ascii member)
  · rcases uppers.other (Nat.le_of_not_lt ascii) '\n' member with high | upper
    · exact absurd high (by decide)
    · exact absurd upper (by decide)

theorem oneLine_capitalizeHeader (tables : platform.CaseTables) (single : Str.OneLine name) :
    Str.OneLine (capitalizeHeader platform name) := by
  have word : ∀ piece ∈ split '-' name,
      Str.OneLine (capitalizeHeader.capitalizeWord platform piece) := by
    intro piece member
    have inside := single.subset (split_subset member)
    cases piece with
    | nil => exact oneLine_nil
    | cons first rest =>
      obtain ⟨plain, others⟩ := oneLine_cons.mp inside
      exact oneLine_append.mpr ⟨(tables.upper first).oneLine plain, others⟩
  have words : Str.OneLine (join ['-'] ((split '-' name).map
      (capitalizeHeader.capitalizeWord platform))) :=
    oneLine_join (by decide) (forall_mem_map.mpr word)
  unfold capitalizeHeader
  split_ifs
  iterate 6 decide
  exact words

end Capitals

end Sip3
