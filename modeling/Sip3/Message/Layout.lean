import Sip3.Media.Sdp
import Sip3.Text.Lines

/-!
# The text of a message

A message is a first line, header lines, a blank line and a body, with CRLF after each line. Here is
how such a text is taken apart again: into its lines, into the pieces between two CRLF, and at its
first blank line.
-/

namespace Sip3

open Text Str List

/-- Lines with their ends. -/
def crlfLines (lines : List Str) : Str :=
  lines.flatMap (· ++ "\r\n".toList)

/-- A message from its first line, header lines and body. -/
def messageText (firstLine : Str) (headers : List Str) (body : Str) : Str :=
  crlfLines (firstLine :: headers) ++ "\r\n".toList ++ body

/-- The line that separates headers and body, with the end of the line before it. -/
def blankLine : Str := "\r\n\r\n".toList

/-- Header lines that neither break nor end the head of a message. -/
structure HeaderLines (headers : List Str) : Prop where
  single : ∀ line ∈ headers, Str.OneLine line
  filled : ∀ line ∈ headers, line ≠ []

instance (headers : List Str) : Decidable (HeaderLines headers) :=
  decidable_of_iff ((∀ line ∈ headers, Str.OneLine line) ∧ ∀ line ∈ headers, line ≠ [])
    ⟨fun ⟨single, filled⟩ => ⟨single, filled⟩, fun ⟨single, filled⟩ => ⟨single, filled⟩⟩

variable {firstLine : Str} {headers lines : List Str}

theorem HeaderLines.subset {kept : List Str} (valid : HeaderLines headers)
    (part : kept ⊆ headers) : HeaderLines kept where
  single line member := valid.single line (part member)
  filled line member := valid.filled line (part member)

theorem crlfLines_cons (line : Str) (lines : List Str) (rest : Str) :
    crlfLines (line :: lines) ++ rest = line ++ '\r' :: '\n' :: (crlfLines lines ++ rest) := by
  simp [crlfLines]

theorem lines_crlfLines (single : ∀ line ∈ lines, Str.OneLine line) (rest : Str) :
    Str.lines (crlfLines lines ++ rest) = lines ++ Str.lines rest := by
  induction lines with
  | nil => rfl
  | cons line lines ih =>
    rw [crlfLines_cons, lines_crlf (single line (.head _)),
      ih fun other member => single other (.tail _ member)]
    rfl

theorem splitCrLf_of_oneLine {line : Str} (single : Str.OneLine line) :
    splitCrLf line = [line] := by
  have go : ∀ current, splitCrLf.go current line = [current.reverse ++ line] := by
    induction line with
    | nil => simp [splitCrLf.go]
    | cons char line ih =>
      intro current
      have later := ih (oneLine_cons.mp single).2 (char :: current)
      rw [splitCrLf.go, later]
      · simp
      · rintro rest rfl rfl
        simp at single
  exact go []

theorem splitCrLf_join (some : lines ≠ []) (single : ∀ line ∈ lines, Str.OneLine line) :
    splitCrLf (join "\r\n".toList lines) = lines := by
  induction lines with
  | nil => exact absurd rfl some
  | cons line lines ih =>
    cases lines with
    | nil =>
      have alone : join "\r\n".toList [line] = line := by simp [join]
      rw [alone, splitCrLf_of_oneLine (single line (.head _))]
    | cons next others =>
      have shape : join "\r\n".toList (line :: next :: others) =
          line ++ '\r' :: '\n' :: join "\r\n".toList (next :: others) := by
        rw [join_cons_cons, append_assoc]
        rfl
      rw [shape, splitCrLf_crlf (single line (.head _)),
        ih (cons_ne_nil _ _) fun other member => single other (.tail _ member)]

theorem join_append_crlf (some : lines ≠ []) :
    join "\r\n".toList lines ++ "\r\n".toList = crlfLines lines := by
  induction lines with
  | nil => exact absurd rfl some
  | cons line lines ih =>
    cases lines with
    | nil => simp [join, crlfLines]
    | cons next others =>
      rw [join_cons_cons, append_assoc, ih (cons_ne_nil _ _)]
      rfl

theorem messageText_concat (firstLine line : Str) (headers : List Str) (body : Str) :
    messageText firstLine (headers ++ [line]) body =
      join "\r\n".toList (firstLine :: headers) ++ "\r\n".toList ++ line ++ blankLine ++
        body := by
  rw [join_append_crlf (cons_ne_nil firstLine headers)]
  simp [messageText, crlfLines, blankLine]

theorem lines_messageText (first : Str.OneLine firstLine) (valid : HeaderLines headers)
    (body : Str) :
    Str.lines (messageText firstLine headers body) =
      firstLine :: (headers ++ [] :: Str.lines body) := by
  have single : ∀ line ∈ firstLine :: headers, Str.OneLine line :=
    forall_mem_cons.mpr ⟨first, valid.single⟩
  have blank : Str.lines ("\r\n".toList ++ body) = [] :: Str.lines body :=
    lines_crlf oneLine_nil body
  rw [messageText, append_assoc, lines_crlfLines single, blank]
  rfl

/-- A text that can be cut at a separator contains it. -/
theorem containsStr_of_splitOnceStr {separator text : Str} {parts : Str × Str}
    (cut : Sdp.splitOnceStr separator text = some parts) :
    containsStr text separator = true := by
  induction text generalizing parts with
  | nil =>
    unfold Sdp.splitOnceStr at cut
    split at cut
    · next empty => simp [containsStr, empty]
    · cases cut
  | cons char text ih =>
    rw [containsStr, tails, any_cons, Bool.or_eq_true]
    unfold Sdp.splitOnceStr at cut
    split at cut
    · next here => exact .inl here
    · obtain ⟨later, found, -⟩ := Option.map_eq_some_iff.mp cut
      exact .inr (ih found)

theorem splitOnceStr_blankLine {line : Str} (single : Str.OneLine line) (rest : Str) :
    Sdp.splitOnceStr blankLine (line ++ '\r' :: rest) =
      (Sdp.splitOnceStr blankLine ('\r' :: rest)).map fun parts => (line ++ parts.1, parts.2) := by
  induction line with
  | nil => simp
  | cons char line ih =>
    obtain ⟨-, single⟩ := oneLine_cons.mp single
    have inside : startsWith (char :: (line ++ '\r' :: rest)) blankLine = false := by
      cases line with
      | nil => simp [startsWith, blankLine, isPrefixOf]
      | cons second others =>
        obtain ⟨other, -⟩ := oneLine_cons.mp single
        simp [startsWith, blankLine, isPrefixOf, Ne.symm other]
    rw [cons_append, Sdp.splitOnceStr, inside, ih single]
    simp [Function.comp_def]

/-- A line that is not empty does not start with the end of a line. -/
theorem startsWith_crlf_eq_false {line : Str} (single : Str.OneLine line) (filled : line ≠ [])
    (rest : Str) : startsWith (line ++ '\r' :: rest) "\r\n".toList = false := by
  match line with
  | [] => exact absurd rfl filled
  | [char] => simp [startsWith, isPrefixOf]
  | char :: second :: others =>
    have other : second ≠ '\n' := (oneLine_cons.mp (oneLine_cons.mp single).2).1
    simp [startsWith, isPrefixOf, Ne.symm other]

/-- The first blank line of a message separates its head from its body. -/
theorem splitOnceStr_messageText (first : Str.OneLine firstLine) (valid : HeaderLines headers)
    (body : Str) :
    Sdp.splitOnceStr blankLine (messageText firstLine headers body) =
      some (join "\r\n".toList (firstLine :: headers), body) := by
  induction headers generalizing firstLine with
  | nil =>
    have shape : messageText firstLine [] body =
        firstLine ++ '\r' :: ('\n' :: '\r' :: '\n' :: body) := by
      simp [messageText, crlfLines]
    rw [shape, splitOnceStr_blankLine first]
    simp [Sdp.splitOnceStr, startsWith, blankLine, isPrefixOf, join]
  | cons line headers ih =>
    have single := valid.single line (.head _)
    have shape : messageText firstLine (line :: headers) body =
        firstLine ++ '\r' :: ('\n' :: messageText line headers body) := by
      simp [messageText, crlfLines]
    have continues : startsWith (messageText line headers body) "\r\n".toList = false := by
      simpa [messageText, crlfLines] using
        startsWith_crlf_eq_false single (valid.filled line (.head _)) _
    have atReturn : startsWith ('\r' :: '\n' :: messageText line headers body) blankLine =
        false := by
      simpa [startsWith, blankLine, isPrefixOf] using continues
    have atFeed : startsWith ('\n' :: messageText line headers body) blankLine = false := by
      simp [startsWith, blankLine, isPrefixOf]
    rw [shape, splitOnceStr_blankLine first, join_cons_cons, append_assoc]
    simp [Sdp.splitOnceStr, atReturn, atFeed, ih single (valid.subset (subset_cons_self _ _))]

end Sip3
