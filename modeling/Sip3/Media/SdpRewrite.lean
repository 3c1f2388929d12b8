import Sip3.Media.Sdp
import Sip3.Text.Tokens

/-!
# Rewriting a session description

`rewrite_sdp_media` goes through the lines of a description once, and counts the media lines it has
passed. What it does to a line depends on that number and on two facts about the whole description;
`LineRewritten` tells the outcomes apart, and `Rewritten` follows the loop. From it come the three
results of this module: which lines are touched, which ports the sections have afterwards, and which
addresses.
-/

namespace Sip3.Sdp

open Text List Str Option

variable {sdp newIp line : Str} {mediaPorts : List (Nat × Nat)} {count : Nat}

/-- The connection line with the new address. -/
def connectionLine (newIp : Str) : Str :=
  "c=IN IP4 ".toList ++ newIp

/-- The number of media lines up to and including a line. -/
def countAfter (count : Nat) (line : Str) : Nat :=
  if isMediaLine line then count + 1 else count

theorem countAfter_of_media (opens : isMediaLine line = true) : countAfter count line = count + 1 :=
  if_pos opens

theorem countAfter_of_not_media (other : isMediaLine line = false) : countAfter count line = count :=
  if_neg (Bool.not_eq_true _ ▸ other)

/-- The section of a line that is not a media line. -/
def currentSection (count : Nat) : Option Nat :=
  if count = 0 then none else some (count - 1)

@[simp] theorem currentSection_succ : currentSection (count + 1) = some count := rfl

/-- A media line gets a connection line after it. -/
def NeedsConnection (sdp : Str) (count : Nat) : Prop :=
  hasUnsupportedMedia sdp = true ∧ count ∉ sectionsWithConnection sdp

instance (sdp : Str) (count : Nat) : Decidable (NeedsConnection sdp count) :=
  inferInstanceAs (Decidable (_ ∧ _))

/-- A connection line gets the new address. -/
def Replaces (sdp : Str) (mediaPorts : List (Nat × Nat)) (count : Nat) : Prop :=
  hasUnsupportedMedia sdp = false ∨
    ((currentSection count).any fun index => (portFor mediaPorts index).isSome) = true

instance (sdp : Str) (mediaPorts : List (Nat × Nat)) (count : Nat) :
    Decidable (Replaces sdp mediaPorts count) :=
  inferInstanceAs (Decidable (_ ∨ _))

/-- What the loop writes for a line after `count` media lines. -/
inductive LineRewritten (sdp newIp : Str) (mediaPorts : List (Nat × Nat)) (count : Nat) (line : Str) :
    List Str → Prop
  | media {port oldPort : Nat} (opens : isMediaLine line = true)
      (mapped : portFor mediaPorts count = some port) (old : mLinePort line = some oldPort)
      (active : oldPort ≠ 0) :
      LineRewritten sdp newIp mediaPorts count line
        (rewriteMPort line port :: if NeedsConnection sdp count then [connectionLine newIp] else [])
  | connection (other : isMediaLine line = false) (names : isConnectionLine line = true)
      (replaced : Replaces sdp mediaPorts count) :
      LineRewritten sdp newIp mediaPorts count line [connectionLine newIp]
  | kept
      (untouched : isMediaLine line = true → ∀ port oldPort, portFor mediaPorts count = some port →
        mLinePort line = some oldPort → oldPort = 0)
      (unchanged : isMediaLine line = false → isConnectionLine line = true →
        ¬ Replaces sdp mediaPorts count) :
      LineRewritten sdp newIp mediaPorts count line [line]

/-- What the loop writes for the lines that follow `count` media lines. -/
inductive Rewritten (sdp newIp : Str) (mediaPorts : List (Nat × Nat)) : Nat → List Str → List Str → Prop
  | done {count : Nat} : Rewritten sdp newIp mediaPorts count [] []
  | line {count : Nat} {line : Str} {lines written rest : List Str}
      (first : LineRewritten sdp newIp mediaPorts count line written)
      (later : Rewritten sdp newIp mediaPorts (countAfter count line) lines rest) :
      Rewritten sdp newIp mediaPorts count (line :: lines) (written ++ rest)

theorem rewritten_go (sdp newIp : Str) (mediaPorts : List (Nat × Nat)) (count : Nat)
    (lines : List Str) :
    Rewritten sdp newIp mediaPorts count lines
      (rewriteMedia.go sdp newIp mediaPorts (currentSection count) count lines) := by
  induction lines generalizing count with
  | nil => exact .done
  | cons line lines ih =>
    rw [rewriteMedia.go]
    by_cases opens : isMediaLine line = true
    · have later : Rewritten sdp newIp mediaPorts (countAfter count line) lines
          (rewriteMedia.go sdp newIp mediaPorts (some count) (count + 1) lines) := by
        rw [countAfter_of_media opens]
        exact ih (count + 1)
      rw [if_pos opens]
      cases mapped : portFor mediaPorts count with
      | none =>
        refine .line (.kept (fun _ port _ found => ?_) fun other => ?_) later
        · rw [mapped] at found
          cases found
        · rw [opens] at other
          cases other
      | some port =>
        by_cases active : (mLinePort line).any (· ≠ 0) = true
        · obtain ⟨oldPort, old, nonzero⟩ := (any_eq_true _ _).mp active
          simp only [if_pos active]
          exact .line (.media opens mapped old (of_decide_eq_true nonzero)) later
        · simp only [if_neg active]
          refine .line (.kept (fun _ port oldPort _ old => ?_) fun other => ?_) later
          · rw [old] at active
            simpa using active
          · rw [opens] at other
            cases other
    · have other : isMediaLine line = false := by simpa using opens
      have later : Rewritten sdp newIp mediaPorts (countAfter count line) lines
          (rewriteMedia.go sdp newIp mediaPorts (currentSection count) count lines) := by
        rw [countAfter_of_not_media other]
        exact ih count
      have media : isMediaLine line = true → ∀ port oldPort, portFor mediaPorts count = some port →
          mLinePort line = some oldPort → oldPort = 0 := fun is => absurd is opens
      rw [if_neg opens]
      by_cases names : isConnectionLine line = true
      · by_cases all : hasUnsupportedMedia sdp = true
        · by_cases inside : ((currentSection count).any fun index =>
              (portFor mediaPorts index).isSome) = true
          · rw [if_pos names, if_neg (not_not_intro all), if_pos inside]
            exact .line (.connection other names (.inr inside)) later
          · rw [if_pos names, if_neg (not_not_intro all), if_neg inside]
            refine .line (.kept media fun _ _ => ?_) later
            rintro (supported | relayed)
            · rw [all] at supported
              cases supported
            · exact inside relayed
        · rw [if_pos names, if_pos all]
          exact .line (.connection other names (.inl (by simpa using all))) later
      · rw [if_neg names]
        exact .line (.kept media fun _ is => absurd is names) later

section MediaLine

/-- The text before the first blank is the first of the parts of a line. -/
theorem splitn_head (line : Str) :
    (splitn 4 ' ' line).getD 0 [] = line.takeWhile (· ≠ ' ') := by
  by_cases member : ' ' ∈ line
  · obtain ⟨front, back, rfl, absent⟩ := eq_append_cons_of_mem member
    have before : ∀ char ∈ front, decide (char ≠ ' ') = true :=
      fun char inside => decide_eq_true fun same => absent (same ▸ inside)
    rw [splitn, splitOnce_append absent, takeWhile_append_of_pos before]
    simp
  · have all : ∀ char ∈ line, decide (char ≠ ' ') = true :=
      fun char inside => decide_eq_true fun same => member (same ▸ inside)
    rw [splitn, splitOnce_eq_none member, takeWhile_eq_self_iff.mpr all]
    rfl

theorem oneLine_splitn_getD (single : Str.OneLine line) (index : Nat) {default : Str}
    (other : Str.OneLine default) : Str.OneLine ((splitn 4 ' ' line).getD index default) := by
  rw [getD_eq_getElem?_getD]
  cases found : (splitn 4 ' ' line)[index]? with
  | none => exact other
  | some part => exact single.subset (splitn_subset (mem_of_getElem? found))

theorem dropWhile_slash (text : Str) :
    text.dropWhile (· ≠ '/') = [] ∨ ∃ more, text.dropWhile (· ≠ '/') = '/' :: more := by
  cases found : text.dropWhile (· ≠ '/') with
  | nil => exact .inl rfl
  | cons char more =>
    obtain rfl : char = '/' := by simpa using head?_dropWhile char (congrArg head? found)
    exact .inr ⟨more, rfl⟩

/-- A rewritten media line: its first part, a blank and the new port, which nothing but a count can
follow before the next blank. -/
theorem rewriteMPort_eq (line : Str) (newPort : Nat) :
    ∃ suffix rest, rewriteMPort line newPort = line.takeWhile (· ≠ ' ') ++
        ' ' :: (ofNat newPort ++ suffix ++ ' ' :: rest) ∧
      (suffix = [] ∨ ∃ more, suffix = '/' :: more) ∧
      (Str.OneLine line → Str.OneLine suffix ∧ Str.OneLine rest) := by
  let portField := (splitn 4 ' ' line).getD 1 "0".toList
  let rest := (splitn 4 ' ' line).getD 2 []
  let fmt := (splitn 4 ' ' line).getD 3 []
  refine ⟨portField.dropWhile (· ≠ '/'), if fmt = [] then rest else rest ++ ' ' :: fmt, ?_,
    dropWhile_slash _, fun single => ⟨?_, ?_⟩⟩
  · have written : rewriteMPort line newPort =
        if fmt = [] then (splitn 4 ' ' line).getD 0 [] ++ ' ' :: ofNat newPort ++
          portField.dropWhile (· ≠ '/') ++ ' ' :: rest
        else (splitn 4 ' ' line).getD 0 [] ++ ' ' :: ofNat newPort ++
          portField.dropWhile (· ≠ '/') ++ ' ' :: rest ++ ' ' :: fmt := rfl
    rw [written, splitn_head]
    generalize ofNat newPort = port
    split <;> simp
  · exact (oneLine_splitn_getD single 1 (by decide)).subset (dropWhile_suffix _).subset
  · have tail := oneLine_splitn_getD single 2 oneLine_nil
    split
    · exact tail
    · rw [oneLine_append, oneLine_cons]
      exact ⟨tail, by decide, oneLine_splitn_getD single 3 oneLine_nil⟩

theorem oneLine_rewriteMPort (single : Str.OneLine line) (newPort : Nat) :
    Str.OneLine (rewriteMPort line newPort) := by
  obtain ⟨suffix, rest, shape, -, parts⟩ := rewriteMPort_eq line newPort
  obtain ⟨suffixLine, restLine⟩ := parts single
  rw [shape]
  simp only [oneLine_append, oneLine_cons]
  exact ⟨single.subset (List.takeWhile_prefix _).subset, by decide,
    ⟨oneLine_ofNat _, suffixLine⟩, by decide, restLine⟩

/-- A line that starts with `m=` is a media line, and stays one. -/
theorem isMediaLine_of_startsWith (start : Str.startsWith line "m=".toList = true) :
    isMediaLine line = true := by
  obtain ⟨rest, rfl⟩ := isPrefixOf_iff_prefix.mp start
  rfl

theorem startsWith_rewriteMPort (start : Str.startsWith line "m=".toList = true) (newPort : Nat) :
    Str.startsWith (rewriteMPort line newPort) "m=".toList = true := by
  obtain ⟨rest, rfl⟩ := isPrefixOf_iff_prefix.mp start
  obtain ⟨suffix, tail, shape, -⟩ := rewriteMPort_eq ("m=".toList ++ rest) newPort
  rw [shape]
  rfl

end MediaLine

section Frame

variable {lines written : List Str}

theorem oneLine_connectionLine (single : Str.OneLine newIp) : Str.OneLine (connectionLine newIp) :=
  oneLine_append.mpr ⟨by decide, single⟩

theorem LineRewritten.oneLine (rewritten : LineRewritten sdp newIp mediaPorts count line written)
    (address : Str.OneLine newIp) (single : Str.OneLine line) :
    ∀ text ∈ written, Str.OneLine text := by
  have connection := oneLine_connectionLine address
  cases rewritten with
  | media opens mapped old active =>
    refine forall_mem_cons.mpr ⟨oneLine_rewriteMPort single _, ?_⟩
    split
    · exact forall_mem_singleton.mpr connection
    · exact forall_mem_nil _
  | connection other names replaced => exact forall_mem_singleton.mpr connection
  | kept untouched unchanged => exact forall_mem_singleton.mpr single

theorem LineRewritten.ne_nil (rewritten : LineRewritten sdp newIp mediaPorts count line written) :
    written ≠ [] := by
  cases rewritten <;> exact cons_ne_nil _ _

theorem Rewritten.oneLine (rewritten : Rewritten sdp newIp mediaPorts count lines written)
    (address : Str.OneLine newIp) (single : ∀ line ∈ lines, Str.OneLine line) :
    ∀ text ∈ written, Str.OneLine text := by
  induction rewritten with
  | done => exact forall_mem_nil _
  | line first later ih =>
    have here := first.oneLine address (single _ (.head _))
    have rest := ih fun line member => single line (.tail _ member)
    exact forall_mem_append.mpr ⟨here, rest⟩

theorem Rewritten.length_le (rewritten : Rewritten sdp newIp mediaPorts count lines written) :
    lines.length ≤ written.length := by
  induction rewritten with
  | done => exact Nat.le_refl _
  | line first later ih =>
    have some := length_pos_iff.mpr first.ne_nil
    rw [length_cons, length_append]
    omega

/-- The lines of the rewritten description are those the loop writes, but for an empty last one. -/
theorem lines_rewriteMedia (sdp : Str) (mediaPorts : List (Nat × Nat)) (address : Str.OneLine newIp) :
    ∃ written, Rewritten sdp newIp mediaPorts 0 (Str.lines sdp) written ∧
      (Str.lines (rewriteMedia sdp newIp mediaPorts) = written ∨
        Str.lines (rewriteMedia sdp newIp mediaPorts) ++ [[]] = written) := by
  obtain ⟨written, text, rewritten⟩ : ∃ written,
      rewriteMedia sdp newIp mediaPorts = Str.join "\r\n".toList written ∧
        Rewritten sdp newIp mediaPorts 0 (Str.lines sdp) written :=
    ⟨_, rfl, rewritten_go sdp newIp mediaPorts 0 (Str.lines sdp)⟩
  have read := lines_join (rewritten.oneLine address fun line => oneLine_of_mem_lines)
  refine ⟨written, rewritten, ?_⟩
  rw [text, read]
  by_cases empty : written.getLast? = some []
  · rw [if_pos empty]
    exact .inr (dropLast_append_getLast? [] empty)
  · rw [if_neg empty]
    exact .inl rfl

/-- An `a=crypto` line. -/
def isCryptoLine (line : Str) : Bool :=
  Str.startsWith line "a=crypto".toList

theorem head?_of_isCryptoLine (crypto : isCryptoLine line = true) : line.head? = some 'a' := by
  obtain ⟨rest, rfl⟩ := isPrefixOf_iff_prefix.mp crypto
  rfl

/-- A line that starts with another letter after white space does not start with `a`. -/
theorem head?_of_trimStart {first : Char} {more : Str}
    (starts : Str.startsWith (trimStart line) (first :: more) = true) (other : first ≠ 'a') :
    line.head? ≠ some 'a' := by
  intro head
  obtain ⟨rest, rfl⟩ : ∃ rest, line = 'a' :: rest := head?_eq_some_iff.mp head
  have trimmed : trimStart ('a' :: rest) = 'a' :: rest := rfl
  rw [trimmed, Str.startsWith, isPrefixOf, Bool.and_eq_true, beq_iff_eq] at starts
  exact other starts.1

theorem isCryptoLine_of_isMediaLine (opens : isMediaLine line = true) :
    isCryptoLine line = false := by
  by_contra crypto
  exact head?_of_trimStart opens (by decide) (head?_of_isCryptoLine (by simpa using crypto))

theorem isCryptoLine_of_isConnectionLine (names : isConnectionLine line = true) :
    isCryptoLine line = false := by
  by_contra crypto
  exact head?_of_trimStart names (by decide) (head?_of_isCryptoLine (by simpa using crypto))

theorem isCryptoLine_rewriteMPort (opens : isMediaLine line = true) (newPort : Nat) :
    isCryptoLine (rewriteMPort line newPort) = false := by
  by_contra crypto
  have head := head?_of_isCryptoLine (Bool.not_eq_false _ ▸ crypto)
  obtain ⟨suffix, rest, shape, -⟩ := rewriteMPort_eq line newPort
  rw [shape] at head
  cases line with
  | nil => exact absurd head (by simp)
  | cons char tail =>
    by_cases blank : char = ' '
    · simp [blank] at head
    · rw [takeWhile_cons_of_pos (by simpa using blank)] at head
      exact head?_of_trimStart opens (by decide) head

theorem Rewritten.filter_isCryptoLine (rewritten : Rewritten sdp newIp mediaPorts count lines written) :
    written.filter isCryptoLine = lines.filter isCryptoLine := by
  induction rewritten with
  | done => rfl
  | @line count line lines written rest first later ih =>
    have connection : isCryptoLine (connectionLine newIp) = false := rfl
    have here : written.filter isCryptoLine = [line].filter isCryptoLine := by
      cases first with
      | media opens mapped old active =>
        rw [filter_cons_of_neg (by simp [isCryptoLine_rewriteMPort opens]),
          filter_cons_of_neg (by simp [isCryptoLine_of_isMediaLine opens])]
        split <;> simp [connection]
      | connection other names replaced =>
        simp [connection, isCryptoLine_of_isConnectionLine names]
      | kept untouched unchanged => rfl
    rw [filter_append, here, ih, ← filter_append]
    rfl

/-- The rewritten description has the lines of the description, in order and but for an empty last
one, where media lines with a mapped section and a port have a new port and connection lines a new
address, and a new connection line can follow such a media line; its `a=crypto` lines are the same. -/
theorem rewriteMedia_frame (sdp : Str) (mediaPorts : List (Nat × Nat)) (address : Str.OneLine newIp) :
    (∃ written, Rewritten sdp newIp mediaPorts 0 (Str.lines sdp) written ∧
      (Str.lines (rewriteMedia sdp newIp mediaPorts) = written ∨
        Str.lines (rewriteMedia sdp newIp mediaPorts) ++ [[]] = written)) ∧
    (Str.lines (rewriteMedia sdp newIp mediaPorts)).filter isCryptoLine =
      (Str.lines sdp).filter isCryptoLine := by
  obtain ⟨written, rewritten, read⟩ := lines_rewriteMedia sdp mediaPorts address
  refine ⟨⟨written, rewritten, read⟩, ?_⟩
  rw [← rewritten.filter_isCryptoLine]
  rcases read with same | shorter
  · rw [same]
  · rw [← shorter, List.filter_append]
    exact (List.append_nil _).symm

/-- A description with an encrypted audio section. -/
theorem rewriteMedia_frame_crypto :
    let sdp := "c=IN IP4 1.1.1.1\r\nm=audio 40 RTP/SAVP 0\r\na=crypto:1 x\r\n".toList
    Str.OneLine "2.2.2.2".toList ∧
    (Str.lines (rewriteMedia sdp "2.2.2.2".toList [(0, 90)])).filter isCryptoLine =
      ["a=crypto:1 x".toList] := by
  intro sdp
  exact ⟨by decide, (rewriteMedia_frame sdp [(0, 90)] (by decide)).2.trans (by decide)⟩

/-- An empty last line is lost. -/
theorem rewriteMedia_drops_empty_line :
    ¬ Rewritten "v=0\r\n\r\n".toList "2.2.2.2".toList [] 0 (Str.lines "v=0\r\n\r\n".toList)
      (Str.lines (rewriteMedia "v=0\r\n\r\n".toList "2.2.2.2".toList [])) := by
  intro rewritten
  exact absurd rewritten.length_le (by decide)

end Frame

section Ports

variable {lines written : List Str} {port oldPort : Nat}

/-- The lines with the number of media lines before each. -/
def numbered : Nat → List Str → List (Nat × Str)
  | _, [] => []
  | count, line :: rest => (count, line) :: numbered (countAfter count line) rest

/-- The line starts with `m=`, and the first white space in it is a blank. -/
def BlankAfterMedia (line : Str) : Prop :=
  Str.startsWith line "m=".toList = true ∧
    ∀ char ∈ line.takeWhile (· ≠ ' '), isWhitespace char = false

instance (line : Str) : Decidable (BlankAfterMedia line) :=
  @instDecidableAnd _ _ inferInstance (List.decidableBAll _ _)

/-- Every media line that gets a new port is written as the rewriter expects it. -/
def PortsWritable (sdp : Str) (mediaPorts : List (Nat × Nat)) : Prop :=
  ∀ entry ∈ numbered 0 (Str.lines sdp), isMediaLine entry.2 = true →
    (portFor mediaPorts entry.1).isSome = true → (mLinePort entry.2).any (· ≠ 0) = true →
      BlankAfterMedia entry.2

instance (sdp : Str) (mediaPorts : List (Nat × Nat)) : Decidable (PortsWritable sdp mediaPorts) :=
  inferInstanceAs (Decidable (∀ entry ∈ _, _ → _ → _ → _))

/-- An active section with the port that the map has for it. -/
def reassigned (mediaPorts : List (Nat × Nat)) (media : SdpMediaDescriptor) : SdpMediaDescriptor :=
  if media.active then
    match portFor mediaPorts media.mediaIndex with
    | some port => { media with port := port }
    | none => media
  else media

theorem section?_eq (count : Nat) (line : Str) :
    (section? count line) = match splitWhitespace line with
      | mediaToken :: portToken :: _ =>
        match mediaKind mediaToken, mediaPort portToken with
        | some kind, some port => some ⟨kind, count, port, port ≠ 0⟩
        | _, _ => none
      | _ => none := by
  rw [← splitWhitespace_trimStart]
  rfl

theorem section?_of_words {mediaToken portToken : Str} {more : List Str}
    (words : splitWhitespace line = mediaToken :: portToken :: more)
    (read : mediaPort portToken = some port) :
    (section? count line) =
      (mediaKind mediaToken).map fun kind => ⟨kind, count, port, decide (port ≠ 0)⟩ := by
  rw [section?_eq, words]
  simp only [read]
  cases mediaKind mediaToken <;> rfl

theorem of_section? {media : SdpMediaDescriptor} (found : section? count line = some media) :
    media.mediaIndex = count ∧ mLinePort line = some media.port ∧
      media.active = decide (media.port ≠ 0) := by
  rw [section?_eq] at found
  split at found
  · next mediaToken portToken more words =>
      split at found
      · next kind port named given =>
          cases found
          refine ⟨rfl, ?_, rfl⟩
          rw [mLinePort, words]
          exact given
      · cases found
  · cases found

theorem mediaPort_ofNat (fits : port < 2 ^ 16) {suffix : Str}
    (shape : suffix = [] ∨ ∃ more, suffix = '/' :: more) :
    mediaPort (ofNat port ++ suffix) = some port := by
  have digits : '/' ∉ ofNat port := fun member =>
    absurd (isDigit_of_mem_ofNat member) (by decide)
  have first : (split '/' (ofNat port ++ suffix)).head? = some (ofNat port) := by
    rcases shape with rfl | ⟨more, rfl⟩
    · rw [append_nil, split_of_not_mem digits, head?_cons]
    · rw [split, splitOn_append_cons_self_of_not_mem digits, head?_cons]
  rw [mediaPort, first, bind_some, parseUnsigned_ofNat fits]

theorem splitWhitespace_rewriteMPort (writable : BlankAfterMedia line) (port : Nat) :
    ∃ suffix more, splitWhitespace (rewriteMPort line port) =
        line.takeWhile (· ≠ ' ') :: (ofNat port ++ suffix) :: more ∧
      (suffix = [] ∨ ∃ more, suffix = '/' :: more) := by
  obtain ⟨start, solid⟩ := writable
  obtain ⟨suffix, rest, shape, slash, -⟩ := rewriteMPort_eq line port
  have media : line.takeWhile (· ≠ ' ') ≠ [] := by
    obtain ⟨tail, rfl⟩ := isPrefixOf_iff_prefix.mp start
    exact cons_ne_nil _ _
  have number : ∀ char ∈ ofNat port, (!isWhitespace char) = true := fun char member => by
    rw [isWhitespace_of_isDigit (isDigit_of_mem_ofNat member)]
    rfl
  obtain ⟨digit, digits, shown⟩ : ∃ digit digits, ofNat port = digit :: digits :=
    exists_cons_of_ne_nil Nat.toDigits_ne_nil
  have first : isWhitespace digit = false := by
    simpa using number digit (shown ▸ mem_cons_self)
  obtain ⟨more, words⟩ := splitWhitespace_first first (digits ++ suffix ++ ' ' :: rest)
  have text : digit :: (digits ++ suffix ++ ' ' :: rest) =
      ofNat port ++ (suffix ++ ' ' :: rest) := by
    rw [shown]
    simp
  rw [text, takeWhile_append_of_pos number] at words
  refine ⟨(suffix ++ ' ' :: rest).takeWhile fun char => !isWhitespace char, more, ?_, ?_⟩
  · rw [shape, splitWhitespace_word media solid (by decide), append_assoc, words]
  · rcases slash with rfl | ⟨tail, rfl⟩
    · exact .inl rfl
    · exact .inr ⟨_, rfl⟩

/-- A media line with two words or more, cut at its first blank. -/
theorem splitWhitespace_mediaLine (writable : BlankAfterMedia line)
    (old : mLinePort line = some oldPort) :
    ∃ portToken more, splitWhitespace line =
      line.takeWhile (· ≠ ' ') :: portToken :: more ∧ mediaPort portToken = some oldPort := by
  obtain ⟨start, solid⟩ := writable
  obtain ⟨portToken, second, read⟩ := bind_eq_some_iff.mp old
  have media : line.takeWhile (· ≠ ' ') ≠ [] := by
    obtain ⟨tail, rfl⟩ := isPrefixOf_iff_prefix.mp start
    exact cons_ne_nil _ _
  by_cases blank : ' ' ∈ line
  · obtain ⟨front, back, rfl, absent⟩ := eq_append_cons_of_mem blank
    have before : ∀ char ∈ front, decide (char ≠ ' ') = true :=
      fun char inside => decide_eq_true fun same => absent (same ▸ inside)
    have part : (front ++ ' ' :: back).takeWhile (· ≠ ' ') = front := by
      rw [takeWhile_append_of_pos before]
      simp
    rw [part] at media solid ⊢
    have words := splitWhitespace_word media solid (by decide : isWhitespace ' ' = true) back
    rw [words] at second ⊢
    obtain ⟨more, tail⟩ : ∃ more, splitWhitespace back = portToken :: more := by
      cases tail : splitWhitespace back with
      | nil => simp [tail] at second
      | cons word more =>
        obtain rfl : word = portToken := by simpa [tail] using second
        exact ⟨more, rfl⟩
    exact ⟨portToken, more, by rw [tail], read⟩
  · -- A line without a blank is one word.
    have all : ∀ char ∈ line, decide (char ≠ ' ') = true :=
      fun char inside => decide_eq_true fun same => blank (same ▸ inside)
    have part : line.takeWhile (· ≠ ' ') = line := takeWhile_eq_self_iff.mpr all
    rw [part] at media solid
    rw [splitWhitespace_of_solid media solid] at second
    cases second

/-- A rewritten media line opens the same section with the new port. -/
theorem section?_rewriteMPort (writable : BlankAfterMedia line) (old : mLinePort line = some oldPort)
    (active : oldPort ≠ 0) (mapped : portFor mediaPorts count = some port) (fits : port < 2 ^ 16)
    (assigned : ∀ media, section? count line = some media → port ≠ 0) :
    (section? count (rewriteMPort line port)) =
      (section? count line).map (reassigned mediaPorts) := by
  obtain ⟨portToken, more, words, read⟩ := splitWhitespace_mediaLine writable old
  obtain ⟨suffix, others, written, slash⟩ := splitWhitespace_rewriteMPort writable port
  rw [section?_of_words words read] at assigned ⊢
  rw [section?_of_words written (mediaPort_ofNat fits slash)]
  cases kind : mediaKind (line.takeWhile (· ≠ ' ')) with
  | none => rfl
  | some kind =>
    rw [kind] at assigned
    have nonzero : port ≠ 0 := assigned _ rfl
    simp [reassigned, active, mapped, nonzero]

theorem isMediaLine_connectionLine (newIp : Str) : isMediaLine (connectionLine newIp) = false := rfl

theorem parse_go_of_not_media {rest : List Str} (other : isMediaLine line = false) :
    parseMediaSections.go count (line :: rest) = parseMediaSections.go count rest := by
  rw [parseMediaSections.go, if_neg (by rw [other]; exact Bool.false_ne_true)]

theorem parse_go_of_media {rest : List Str} (opens : isMediaLine line = true) :
    parseMediaSections.go count (line :: rest) =
      (section? count line).toList ++ parseMediaSections.go (count + 1) rest := by
  rw [parseMediaSections.go, if_pos opens]

section Assigned

variable (assigned : ∀ media, section? count line = some media → media.active = true →
  ∃ port, portFor mediaPorts media.mediaIndex = some port ∧ port ≠ 0)
include assigned

/-- An active section is not written with port zero. -/
theorem port_ne_zero_of_assigned (mapped : portFor mediaPorts count = some port)
    (old : mLinePort line = some oldPort) (active : oldPort ≠ 0) :
    ∀ media, section? count line = some media → port ≠ 0 := by
  intro media found
  obtain ⟨index, read, alive⟩ := of_section? found
  obtain rfl : oldPort = media.port := some.inj (old.symm.trans read)
  obtain ⟨given, known, nonzero⟩ := assigned media found (by simpa [alive] using active)
  rw [index, mapped] at known
  exact some.inj known ▸ nonzero

/-- A media line that is left as it is opens no active section. -/
theorem reassigned_of_untouched (untouched : ∀ port oldPort, portFor mediaPorts count = some port →
    mLinePort line = some oldPort → oldPort = 0) :
    (section? count line).map (reassigned mediaPorts) = section? count line := by
  cases found : section? count line with
  | none => rfl
  | some media =>
    obtain ⟨index, read, alive⟩ := of_section? found
    have inactive : media.active = false := by
      by_contra active
      obtain ⟨port, known, -⟩ := assigned media found (by simpa using active)
      have zero := untouched port media.port (index ▸ known) read
      simp [alive, zero] at active
    simp [reassigned, inactive]

end Assigned

theorem Rewritten.parse_go (rewritten : Rewritten sdp newIp mediaPorts count lines written)
    (fits : ∀ index port, portFor mediaPorts index = some port → port < 2 ^ 16)
    (assigned : ∀ media ∈ parseMediaSections.go count lines, media.active = true →
      ∃ port, portFor mediaPorts media.mediaIndex = some port ∧ port ≠ 0)
    (writable : ∀ entry ∈ numbered count lines, isMediaLine entry.2 = true →
      (portFor mediaPorts entry.1).isSome = true → (mLinePort entry.2).any (· ≠ 0) = true →
        BlankAfterMedia entry.2) :
    parseMediaSections.go count written =
      (parseMediaSections.go count lines).map (reassigned mediaPorts) := by
  induction rewritten with
  | done => rfl
  | @line count line lines written rest first later ih =>
    have numbers := fun entry member => writable entry (mem_cons_of_mem (count, line) member)
    cases opens : isMediaLine line with
    | true =>
      rw [parse_go_of_media opens] at assigned ⊢
      rw [countAfter_of_media opens] at ih numbers
      have own : ∀ media, section? count line = some media → media.active = true →
          ∃ port, portFor mediaPorts media.mediaIndex = some port ∧ port ≠ 0 := fun media found =>
        assigned media (mem_append_left _ (by rw [found]; exact .head _))
      rw [map_append, ← toList_map,
        ← ih (fun media member => assigned media (mem_append_right _ member)) numbers]
      cases first with
      | @media port oldPort _ mapped old active =>
        have blank := writable (count, line) (.head _) opens (by rw [mapped]; rfl)
          (by rw [old]; simpa using active)
        have opened := isMediaLine_of_startsWith (startsWith_rewriteMPort blank.1 port)
        rw [cons_append, parse_go_of_media opened, section?_rewriteMPort blank old active mapped
          (fits count port mapped) (port_ne_zero_of_assigned own mapped old active)]
        -- A connection line that is added opens no section.
        split
        · rw [singleton_append, parse_go_of_not_media (isMediaLine_connectionLine newIp)]
        · rfl
      | connection other => exact nomatch opens.symm.trans other
      | kept untouched unchanged =>
        rw [singleton_append, parse_go_of_media opens,
          reassigned_of_untouched own (untouched opens)]
    | false =>
      rw [parse_go_of_not_media opens] at assigned ⊢
      rw [countAfter_of_not_media opens] at ih numbers
      rw [← ih assigned numbers]
      cases first with
      | media media => exact nomatch opens.symm.trans media
      | connection other names replaced =>
        exact parse_go_of_not_media (isMediaLine_connectionLine newIp)
      | kept untouched unchanged => exact parse_go_of_not_media opens

theorem parse_go_concat_nil (count : Nat) (lines : List Str) :
    parseMediaSections.go count (lines ++ [[]]) = parseMediaSections.go count lines := by
  induction lines generalizing count with
  | nil => rfl
  | cons line lines ih =>
    rw [cons_append, parseMediaSections.go, parseMediaSections.go, ih, ih]

theorem portFor_mem {index : Nat} (found : portFor mediaPorts index = some port) :
    (index, port) ∈ mediaPorts := by
  obtain ⟨entry, listed, rfl⟩ := map_eq_some_iff.mp found
  have same := find?_some listed
  obtain rfl : entry.1 = index := by simpa using same
  exact mem_reverse.mp (mem_of_find?_eq_some listed)

/-- Where the media lines that get a new port are written as the rewriter expects them, the sections
of the rewritten description are those of the description with the new ports. -/
theorem parseMediaSections_rewriteMedia (address : Str.OneLine newIp)
    (fits : ∀ entry ∈ mediaPorts, entry.2 < 2 ^ 16)
    (assigned : ∀ media ∈ parseMediaSections sdp, media.active = true →
      ∃ port, portFor mediaPorts media.mediaIndex = some port ∧ port ≠ 0)
    (writable : PortsWritable sdp mediaPorts) :
    parseMediaSections (rewriteMedia sdp newIp mediaPorts) =
      (parseMediaSections sdp).map (reassigned mediaPorts) := by
  obtain ⟨written, rewritten, read⟩ := lines_rewriteMedia sdp mediaPorts address
  have sections := rewritten.parse_go (fun index port found => fits _ (portFor_mem found)) assigned
    writable
  rw [parseMediaSections, parseMediaSections, ← sections]
  rcases read with same | shorter
  · rw [same]
  · rw [← shorter, parse_go_concat_nil]

/-- An active audio, an inactive video and an application section. -/
theorem parseMediaSections_rewriteMedia_audio :
    let sdp := "m=audio 40/2 RTP/AVP 0\r\nm=video 0 RTP/AVP 96\r\nm=application 9 x y\r\n".toList
    PortsWritable sdp [(0, 90)] ∧
      parseMediaSections (rewriteMedia sdp "2.2.2.2".toList [(0, 90)]) =
        [⟨.audio, 0, 90, true⟩, ⟨.video, 1, 0, false⟩] := by
  intro sdp
  have writable : PortsWritable sdp [(0, 90)] := by decide +kernel
  have sections : parseMediaSections sdp = [⟨.audio, 0, 40, true⟩, ⟨.video, 1, 0, false⟩] := by
    decide +kernel
  refine ⟨writable, (parseMediaSections_rewriteMedia (by decide) (by decide) ?_ writable).trans ?_⟩
  · rw [sections]
    intro media member active
    rcases List.mem_cons.mp member with rfl | later
    · exact ⟨90, by decide, by decide⟩
    · rw [List.mem_singleton.mp later] at active
      cases active
  · rw [sections]
    decide

/-- With a tab before the port, the new port is written after the old one. -/
theorem parseMediaSections_rewriteMedia_tab :
    let sdp := "m=audio\t40 RTP/AVP 0".toList
    parseMediaSections sdp = [⟨.audio, 0, 40, true⟩] ∧
      rewriteMedia sdp "2.2.2.2".toList [(0, 90)] = "m=audio\t40 90/AVP 0".toList ∧
      parseMediaSections (rewriteMedia sdp "2.2.2.2".toList [(0, 90)]) ≠
        (parseMediaSections sdp).map (reassigned [(0, 90)]) := by
  decide +kernel

end Ports

section Addresses

variable {lines written rest : List Str} {place index oldPort : Nat}

/-- The address of a connection line. -/
def address? (line : Str) : Option Str :=
  Str.stripLead (Str.trimStart line) "c=IN IP4 ".toList

/-- The address that a line gives to the lines after `place` media lines. -/
def addressAt (place count : Nat) (line : Str) : List Str :=
  if isMediaLine line = false ∧ count = place then (address? line).toList else []

/-- The addresses of the connection lines after `place` media lines. -/
def addressesAt (place : Nat) : Nat → List Str → List Str
  | _, [] => []
  | count, line :: rest => addressAt place count line ++ addressesAt place (countAfter count line) rest

/-- The address of a section: its own one, or that of the session. -/
def effectiveAddress (lines : List Str) (index : Nat) : Option Str :=
  (addressesAt (index + 1) 0 lines).head?.or (addressesAt 0 0 lines).head?

theorem address?_of_not_connection (other : isConnectionLine line = false) :
    address? line = none := by
  rw [isConnectionLine] at other
  rw [address?, stripLead, other]
  rfl

theorem isSome_address? (names : isConnectionLine line = true) : (address? line).isSome = true := by
  rw [isConnectionLine] at names
  rw [address?, stripLead, names]
  rfl

theorem address?_connectionLine (newIp : Str) : address? (connectionLine newIp) = some newIp := rfl

theorem addressAt_connectionLine (place count : Nat) (newIp : Str) :
    addressAt place count (connectionLine newIp) = if count = place then [newIp] else [] := by
  rw [addressAt, isMediaLine_connectionLine, address?_connectionLine]
  by_cases same : count = place <;> simp [same]

theorem addressAt_of_media (opens : isMediaLine line = true) : addressAt place count line = [] := by
  simp [addressAt, opens]

/-- What happens to the addresses at one place: they stay, or they become the new one and none
disappears. -/
structure Readdressed (sdp newIp : Str) (mediaPorts : List (Nat × Nat)) (place : Nat)
    (old new : List Str) : Prop where
  keeps : ¬ Replaces sdp mediaPorts place → new = old
  replaces : Replaces sdp mediaPorts place → ∀ address ∈ new, address = newIp
  present : old ≠ [] → new ≠ []

theorem Readdressed.append {oldFront oldBack newFront newBack : List Str}
    (front : Readdressed sdp newIp mediaPorts place oldFront newFront)
    (back : Readdressed sdp newIp mediaPorts place oldBack newBack) :
    Readdressed sdp newIp mediaPorts place (oldFront ++ oldBack) (newFront ++ newBack) where
  keeps not := by rw [front.keeps not, back.keeps not]
  replaces does := forall_mem_append.mpr ⟨front.replaces does, back.replaces does⟩
  present some := by
    intro empty
    obtain ⟨first, second⟩ := append_eq_nil_iff.mp empty
    refine some (append_eq_nil_iff.mpr ⟨?_, ?_⟩)
    · exact not_not.mp fun given => front.present given first
    · exact not_not.mp fun given => back.present given second

theorem readdressed_nil : Readdressed sdp newIp mediaPorts place [] [] where
  keeps _ := rfl
  replaces _ := forall_mem_nil _
  present some := some

theorem replaces_succ {port : Nat} (mapped : portFor mediaPorts count = some port) :
    Replaces sdp mediaPorts (count + 1) := by
  right
  rw [currentSection_succ, any_some, mapped]
  rfl

theorem readdressed_connectionLine
    (replaced : count = place → Replaces sdp mediaPorts place)
    {old : List Str} (here : count ≠ place → old = []) :
    Readdressed sdp newIp mediaPorts place old (addressAt place count (connectionLine newIp)) := by
  rw [addressAt_connectionLine]
  by_cases same : count = place
  · rw [if_pos same]
    exact ⟨fun not => absurd (replaced same) not, fun _ => forall_mem_singleton.mpr rfl,
      fun _ => cons_ne_nil _ _⟩
  · rw [if_neg same, here same]
    exact readdressed_nil

/-- A line that is kept is a connection line only where the addresses stay. -/
theorem readdressed_kept (unchanged : isMediaLine line = false → isConnectionLine line = true →
      ¬ Replaces sdp mediaPorts count) :
    Readdressed sdp newIp mediaPorts place (addressAt place count line) (addressAt place count line) where
  keeps _ := rfl
  present some := some
  replaces does := by
    rw [addressAt]
    split
    · next here =>
        cases names : isConnectionLine line with
        | true => exact absurd (here.2 ▸ does) (unchanged here.1 names)
        | false =>
          rw [address?_of_not_connection names]
          exact forall_mem_nil _
    · exact forall_mem_nil _

/-- A section that gets a connection line of its own. -/
structure Inserts (sdp : Str) (mediaPorts : List (Nat × Nat)) (index : Nat) (line : Str) : Prop where
  opens : isMediaLine line = true
  mapped : (portFor mediaPorts index).isSome = true
  active : (mLinePort line).any (· ≠ 0) = true
  needs : NeedsConnection sdp index

/-- What the lines written for a line add to the addresses at a place. -/
theorem LineRewritten.readdressed (first : LineRewritten sdp newIp mediaPorts count line written)
    (plain : isMediaLine line = true → Str.startsWith line "m=".toList = true) (place : Nat) :
    ∃ new, (∀ rest, addressesAt place count (written ++ rest) =
        new ++ addressesAt place (countAfter count line) rest) ∧
      Readdressed sdp newIp mediaPorts place (addressAt place count line) new ∧
      (Inserts sdp mediaPorts count line → place = count + 1 → new ≠ []) := by
  cases first with
  | @media port oldPort opens mapped old active =>
    have opened := isMediaLine_of_startsWith (startsWith_rewriteMPort (plain opens) port)
    rw [addressAt_of_media opens, countAfter_of_media opens]
    by_cases needs : NeedsConnection sdp count
    · refine ⟨addressAt place (count + 1) (connectionLine newIp), fun rest => ?_,
        readdressed_connectionLine (fun same => same ▸ replaces_succ mapped) fun _ => rfl, ?_⟩
      · rw [if_pos needs, cons_append, addressesAt, addressAt_of_media opened,
          countAfter_of_media opened]
        rfl
      · rintro - rfl
        rw [addressAt_connectionLine, if_pos rfl]
        exact cons_ne_nil _ _
    · refine ⟨[], fun rest => ?_, readdressed_nil, fun inserts => absurd inserts.needs needs⟩
      rw [if_neg needs, cons_append, addressesAt, addressAt_of_media opened,
        countAfter_of_media opened]
      rfl
  | connection other names replaced =>
    rw [countAfter_of_not_media other]
    refine ⟨addressAt place count (connectionLine newIp), fun rest => rfl,
      readdressed_connectionLine (fun same => same ▸ replaced) fun elsewhere => ?_,
      fun inserts => ?_⟩
    · rw [addressAt, if_neg fun both => elsewhere both.2]
    · exact absurd inserts.opens (by simp [other])
  | kept untouched unchanged =>
    refine ⟨addressAt place count line, fun rest => rfl, readdressed_kept unchanged,
      fun inserts => ?_⟩
    obtain ⟨port, mapped⟩ := isSome_iff_exists.mp inserts.mapped
    obtain ⟨oldPort, old, nonzero⟩ := (any_eq_true _ _).mp inserts.active
    exact absurd (untouched inserts.opens port oldPort mapped old) (of_decide_eq_true nonzero)

section

variable (rewritten : Rewritten sdp newIp mediaPorts count lines written)
  (plain : ∀ line ∈ lines, isMediaLine line = true → Str.startsWith line "m=".toList = true)

include rewritten plain

/-- At every place, the loop keeps the addresses or makes them the new one. -/
theorem Rewritten.readdressed (place : Nat) :
    Readdressed sdp newIp mediaPorts place (addressesAt place count lines)
      (addressesAt place count written) := by
  induction rewritten with
  | done => exact readdressed_nil
  | line first later ih =>
    obtain ⟨new, added, here, -⟩ := first.readdressed (plain _ (.head _)) place
    rw [added, addressesAt]
    exact here.append (ih fun line member => plain line (.tail _ member))

/-- A section that gets a connection line has an address afterwards. -/
theorem Rewritten.addressesAt_ne_nil (listed : (index, line) ∈ numbered count lines)
    (inserts : Inserts sdp mediaPorts index line) : addressesAt (index + 1) count written ≠ [] := by
  induction rewritten with
  | done => cases listed
  | line first later ih =>
    obtain ⟨new, added, -, inserted⟩ := first.readdressed (plain _ (.head _)) (index + 1)
    rw [added]
    rcases mem_cons.mp listed with same | after
    · cases same
      exact append_ne_nil_of_left_ne_nil (inserted inserts rfl) _
    · exact append_ne_nil_of_right_ne_nil _
        (ih (fun line member => plain line (.tail _ member)) after)

end

theorem addressesAt_concat_nil (place count : Nat) (lines : List Str) :
    addressesAt place count (lines ++ [[]]) = addressesAt place count lines := by
  induction lines generalizing count with
  | nil =>
    have empty : addressAt place count [] = [] := by
      rw [addressAt]
      split <;> rfl
    rw [nil_append, addressesAt, addressesAt, empty]
    rfl
  | cons line lines ih => rw [cons_append, addressesAt, addressesAt, ih]

/-- The sections in the table of `sdp_media_sections_with_connection` have an address. -/
theorem addressesAt_of_mem_sections
    (listed : index ∈ sectionsWithConnection.go (currentSection count) count lines) :
    addressesAt (index + 1) count lines ≠ [] := by
  induction lines generalizing count with
  | nil => cases listed
  | cons line lines ih =>
    rw [sectionsWithConnection.go] at listed
    rw [addressesAt]
    cases opens : isMediaLine line with
    | true =>
      rw [if_pos opens] at listed
      rw [countAfter_of_media opens]
      exact append_ne_nil_of_right_ne_nil _ (ih listed)
    | false =>
      rw [if_neg (Bool.not_eq_true _ ▸ opens)] at listed
      rw [countAfter_of_not_media opens]
      by_cases names : isConnectionLine line = true
      · rw [if_pos names] at listed
        rcases mem_append.mp listed with own | later
        · -- The line itself stands in the section.
          obtain ⟨address, given⟩ := isSome_iff_exists.mp (isSome_address? names)
          have place : count = index + 1 := by
            cases count with
            | zero => cases own
            | succ before => simpa [eq_comm] using own
          rw [addressAt, if_pos ⟨opens, place⟩, given]
          exact cons_ne_nil _ _
        · exact append_ne_nil_of_right_ne_nil _ (ih later)
      · rw [if_neg names] at listed
        exact append_ne_nil_of_right_ne_nil _ (ih listed)

/-- A media line whose first word names neither audio nor video. -/
def OtherMedia (line : Str) : Prop :=
  isMediaLine line = true ∧ (Str.splitWhitespace line).head?.bind mediaKind = none

instance (line : Str) : Decidable (OtherMedia line) :=
  inferInstanceAs (Decidable (_ ∧ _))

theorem not_otherMedia_of_word (word : Str) (blank : Char)
    (starts : Str.startsWith (trimStart line) (word ++ [blank]) = true)
    (filled : word ≠ []) (solid : ∀ char ∈ word, isWhitespace char = false)
    (space : isWhitespace blank = true) (named : mediaKind word ≠ none) : ¬ OtherMedia line := by
  rintro ⟨-, other⟩
  obtain ⟨rest, shape⟩ := isPrefixOf_iff_prefix.mp starts
  rw [← splitWhitespace_trimStart, ← shape, append_assoc, singleton_append,
    splitWhitespace_word filled solid space] at other
  exact named other

theorem not_otherMedia_of_supported (supported : isSupportedMediaLine (trimStart line) = true) :
    ¬ OtherMedia line := by
  simp only [isSupportedMediaLine, Bool.or_eq_true] at supported
  have solid {word : Str} (checked : word.all (!isWhitespace ·) = true) :
      ∀ char ∈ word, isWhitespace char = false := by
    simpa using checked
  rcases supported with ((starts | starts) | starts) | starts
  · exact not_otherMedia_of_word "m=audio".toList ' ' starts nofun (solid (by decide)) (by decide) (by decide)
  · exact not_otherMedia_of_word "m=audio".toList '\t' starts nofun (solid (by decide)) (by decide) (by decide)
  · exact not_otherMedia_of_word "m=video".toList ' ' starts nofun (solid (by decide)) (by decide) (by decide)
  · exact not_otherMedia_of_word "m=video".toList '\t' starts nofun (solid (by decide)) (by decide) (by decide)

theorem hasUnsupportedMedia_of_otherMedia (listed : line ∈ Str.lines sdp) (other : OtherMedia line) :
    hasUnsupportedMedia sdp = true := by
  refine any_eq_true.mpr ⟨line, listed, ?_⟩
  rw [other.1, Bool.true_and, Bool.not_eq_true']
  by_contra supported
  exact not_otherMedia_of_supported (by simpa using supported) other

/-- No line starts with white space. -/
def NoIndent (sdp : Str) : Prop :=
  ∀ line ∈ Str.lines sdp, ∀ char ∈ line.head?, isWhitespace char = false

instance (sdp : Str) : Decidable (NoIndent sdp) :=
  @List.decidableBAll _ (fun line : Str => ∀ char ∈ line.head?, isWhitespace char = false)
    (fun line => Option.decidableForallMem line.head?) (Str.lines sdp)

theorem startsWith_of_noIndent (plain : NoIndent sdp) :
    ∀ line ∈ Str.lines sdp, isMediaLine line = true → Str.startsWith line "m=".toList = true := by
  intro line listed opens
  rw [isMediaLine] at opens
  cases line with
  | nil => cases opens
  | cons char rest =>
    have solid := plain _ listed char rfl
    rwa [trimStart, dropWhile_cons_of_neg (by rw [solid]; exact Bool.false_ne_true)] at opens

theorem head?_of_forall_eq {addresses : List Str} (all : ∀ address ∈ addresses, address = newIp)
    (filled : addresses ≠ []) : addresses.head? = some newIp := by
  obtain ⟨first, rest, rfl⟩ := exists_cons_of_ne_nil filled
  rw [head?_cons, all first (.head _)]

/-- Where no line starts with white space, a mapped section with a port gets the new address if it
had one; and if there is another kind of media, a section that is not mapped keeps its address. -/
theorem effectiveAddress_rewriteMedia (address : Str.OneLine newIp) (plain : NoIndent sdp) :
    (∀ entry ∈ numbered 0 (Str.lines sdp), isMediaLine entry.2 = true →
      (portFor mediaPorts entry.1).isSome = true → (mLinePort entry.2).any (· ≠ 0) = true →
      effectiveAddress (Str.lines sdp) entry.1 ≠ none →
      effectiveAddress (Str.lines (rewriteMedia sdp newIp mediaPorts)) entry.1 = some newIp) ∧
    ((∃ line ∈ Str.lines sdp, OtherMedia line) → ∀ index, portFor mediaPorts index = none →
      effectiveAddress (Str.lines (rewriteMedia sdp newIp mediaPorts)) index =
        effectiveAddress (Str.lines sdp) index) := by
  obtain ⟨written, rewritten, read⟩ := lines_rewriteMedia sdp mediaPorts address
  have lead := startsWith_of_noIndent plain
  have same : ∀ place, addressesAt place 0 (Str.lines (rewriteMedia sdp newIp mediaPorts)) =
      addressesAt place 0 written := by
    intro place
    rcases read with same | shorter
    · rw [same]
    · rw [← shorter, addressesAt_concat_nil]
  constructor
  · rintro ⟨index, line⟩ listed opens mapped active given
    rw [effectiveAddress] at given
    rw [effectiveAddress, same, same]
    obtain ⟨port, found⟩ := Option.isSome_iff_exists.mp mapped
    have own := rewritten.readdressed lead (index + 1)
    have session := rewritten.readdressed lead 0
    by_cases empty : addressesAt (index + 1) 0 written = []
    · have before : addressesAt (index + 1) 0 (Str.lines sdp) = [] :=
        not_not.mp fun some => own.present some empty
      -- The section has no connection line afterwards, so that all media are supported.
      have supported : hasUnsupportedMedia sdp = false := by
        by_contra other
        have table : index ∉ sectionsWithConnection sdp :=
          fun member => addressesAt_of_mem_sections member before
        exact rewritten.addressesAt_ne_nil lead listed
          ⟨opens, mapped, active, by simpa using other, table⟩ empty
      rw [before] at given
      have some : addressesAt 0 0 (Str.lines sdp) ≠ [] := by
        intro none
        rw [none] at given
        exact given rfl
      rw [empty, head?_of_forall_eq (session.replaces (.inl supported)) (session.present some)]
      rfl
    · rw [head?_of_forall_eq (own.replaces (replaces_succ found)) empty]
      rfl
  · rintro ⟨line, listed, other⟩ index unmapped
    have unsupported := hasUnsupportedMedia_of_otherMedia listed other
    have stays : ∀ place, ((currentSection place).any fun index =>
        (portFor mediaPorts index).isSome) = false → ¬ Replaces sdp mediaPorts place := by
      rintro place outside (supported | inside)
      · rw [unsupported] at supported
        cases supported
      · rw [outside] at inside
        cases inside
    have own := stays (index + 1) (by rw [currentSection_succ, Option.any_some, unmapped]; rfl)
    rw [effectiveAddress, effectiveAddress, same, same, (rewritten.readdressed lead _).keeps own,
      (rewritten.readdressed lead 0).keeps (stays 0 rfl)]

/-- A session address, a relayed audio section and an application section. -/
theorem effectiveAddress_rewriteMedia_audio :
    let sdp := "c=IN IP4 1.1.1.1\r\nm=audio 40 RTP/AVP 0\r\nm=application 9 x y\r\n".toList
    let output := Str.lines (rewriteMedia sdp "2.2.2.2".toList [(0, 90)])
    NoIndent sdp ∧ effectiveAddress output 0 = some "2.2.2.2".toList ∧
      effectiveAddress output 1 = some "1.1.1.1".toList := by
  intro sdp output
  have plain : NoIndent sdp := by decide +kernel
  obtain ⟨relayed, others⟩ := @effectiveAddress_rewriteMedia sdp "2.2.2.2".toList [(0, 90)] (by decide) plain
  refine ⟨plain, ?_, ?_⟩
  · exact relayed (0, "m=audio 40 RTP/AVP 0".toList) (by decide +kernel) (by decide +kernel)
      (by decide) (by decide +kernel) (by decide +kernel)
  · exact (others ⟨"m=application 9 x y".toList, by decide +kernel, by decide +kernel⟩ 1 (by decide)).trans
      (by decide +kernel)

end Addresses

end Sip3.Sdp
