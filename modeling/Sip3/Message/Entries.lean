import Sip3.Message
import Sip3.Semantics.History
import Sip3.Text.Lines

/-!
# The headers of a message in order

The parser keeps the values of a header by its name, and adds a continuation line to the last value
of the name it read last. Here the same headers are a list, in the order of their lines:
`SipMessage.parse_lines` says that the values under a name are those the list has for it. What a
function does to the lines of a message can then be followed line by line.
-/

namespace Sip3

open Text Str List Semantics

/-- A line that continues the header before it. -/
def isFoldedLine (line : Str) : Bool :=
  Str.startsWith line [' '] || Str.startsWith line ['\t']

/-- The header that a line starts, by its normalised name and its trimmed value. -/
def headerOf? (platform : Platform) (line : Str) : Option (Str × Str) :=
  if isFoldedLine line then none
  else (Str.splitOnce ':' line).map fun parts =>
    (normalizeHeaderName platform parts.1, Str.trim parts.2)

/-- The name under which the parser files a line. -/
def headerName? (platform : Platform) (line : Str) : Option Str :=
  (headerOf? platform line).map Prod.fst

/-- Headers, the last one with a continuation line added. -/
def foldInto (line : Str) : List (Str × Str) → List (Str × Str)
  | [] => []
  | [(name, value)] => [(name, value ++ ' ' :: Str.trim line)]
  | entry :: next :: rest => entry :: foldInto line (next :: rest)

/-- The headers after one more line. -/
def nextEntries (platform : Platform) (entries : List (Str × Str)) (line : Str) :
    List (Str × Str) :=
  if isFoldedLine line then foldInto line entries else entries ++ (headerOf? platform line).toList

/-- The headers of the lines between the first one and the blank one. -/
def headerEntries (platform : Platform) (lines : List Str) : List (Str × Str) :=
  lines.foldl (nextEntries platform) []

/-- The values under a name. -/
def valuesUnder (entries : List (Str × Str)) (key : Str) : List Str :=
  (entries.filter fun entry => entry.1 = key).map Prod.snd

/-- No continuation line comes before the first header of these lines. -/
def unattached (platform : Platform) : List Str → Bool
  | [] => true
  | line :: rest =>
    !isFoldedLine line && ((headerName? platform line).isSome || unattached platform rest)

section Entries

variable {platform : Platform} {entries front back : List (Str × Str)} {line key name value : Str}

@[simp] theorem valuesUnder_append :
    valuesUnder (front ++ back) key = valuesUnder front key ++ valuesUnder back key := by
  simp [valuesUnder]

@[simp] theorem valuesUnder_singleton :
    valuesUnder [(name, value)] key = if name = key then [value] else [] := by
  by_cases same : name = key <;> simp [valuesUnder, same]

theorem valuesUnder_cons_self :
    valuesUnder ((key, value) :: entries) key = value :: valuesUnder entries key := by
  simp [valuesUnder]

theorem foldInto_concat :
    foldInto line (entries ++ [(name, value)]) =
      entries ++ [(name, value ++ ' ' :: trim line)] := by
  induction entries with
  | nil => rfl
  | cons entry entries ih =>
    cases entries with
    | nil => rfl
    | cons next rest => exact congrArg (entry :: ·) ih

/-- A continuation line only changes the last header. -/
theorem foldInto_append (some : back ≠ []) :
    foldInto line (front ++ back) = front ++ foldInto line back := by
  obtain ⟨start, ⟨name, value⟩, rfl⟩ := eq_nil_or_concat back |>.resolve_left some
  rw [concat_eq_append, foldInto_concat, ← append_assoc, foldInto_concat,
    append_assoc]

theorem foldInto_ne_nil (some : entries ≠ []) : foldInto line entries ≠ [] := by
  obtain ⟨start, ⟨name, value⟩, rfl⟩ := eq_nil_or_concat entries |>.resolve_left some
  rw [concat_eq_append, foldInto_concat]
  simp

theorem nextEntries_append (some : back ≠ []) :
    nextEntries platform (front ++ back) line = front ++ nextEntries platform back line := by
  unfold nextEntries
  split
  · exact foldInto_append some
  · rw [append_assoc]

theorem nextEntries_ne_nil (some : entries ≠ []) : nextEntries platform entries line ≠ [] := by
  unfold nextEntries
  split
  · exact foldInto_ne_nil some
  · simp [some]

variable {lines : List Str}

/-- Lines after a header leave those before it alone. -/
theorem foldl_nextEntries_append (some : back ≠ []) :
    lines.foldl (nextEntries platform) (front ++ back) =
      front ++ lines.foldl (nextEntries platform) back := by
  induction lines generalizing back with
  | nil => rfl
  | cons line lines ih =>
    rw [foldl_cons, nextEntries_append some, ih (nextEntries_ne_nil some), foldl_cons]

/-- Without a continuation line of an earlier header, lines add just their own headers. -/
theorem foldl_nextEntries (entries : List (Str × Str)) (own : unattached platform lines = true) :
    lines.foldl (nextEntries platform) entries = entries ++ headerEntries platform lines := by
  induction lines with
  | nil => simp [headerEntries]
  | cons line lines ih =>
    have whole : isFoldedLine line = false := by
      by_contra folded
      simp [unattached, folded] at own
    have step : ∀ given, nextEntries platform given line =
        given ++ (headerOf? platform line).toList := by
      intro given
      simp [nextEntries, whole]
    rw [foldl_cons, step, headerEntries, foldl_cons, step, nil_append]
    cases found : headerOf? platform line with
    | none =>
      have later : unattached platform lines = true := by
        simpa [unattached, whole, headerName?, found] using own
      rw [Option.toList_none, append_nil, ih later, headerEntries]
    | some entry => exact foldl_nextEntries_append (cons_ne_nil _ _)

theorem map_fst_foldInto (line : Str) (entries : List (Str × Str)) :
    (foldInto line entries).map Prod.fst = entries.map Prod.fst := by
  obtain rfl | ⟨start, ⟨name, value⟩, rfl⟩ := eq_nil_or_concat entries
  · rfl
  · rw [concat_eq_append, foldInto_concat]
    simp

theorem headerOf?_of_folded (folded : isFoldedLine line = true) :
    headerOf? platform line = none := by
  simp [headerOf?, folded]

/-- A header is cut from its line at the first colon. -/
theorem splitOnce_of_headerOf? (found : headerOf? platform line = some (name, value)) :
    ∃ label text, splitOnce ':' line = some (label, text) ∧
      normalizeHeaderName platform label = name ∧ trim text = value := by
  unfold headerOf? at found
  split at found
  · cases found
  · obtain ⟨⟨label, text⟩, cut, same⟩ := Option.map_eq_some_iff.mp found
    obtain ⟨named, trimmed⟩ := Prod.mk.inj same
    exact ⟨label, text, cut, named, trimmed⟩

/-- Every header was started by one line, and continuation lines keep its name. -/
theorem map_fst_foldl_nextEntries (entries : List (Str × Str)) (lines : List Str) :
    (lines.foldl (nextEntries platform) entries).map Prod.fst =
      entries.map Prod.fst ++ lines.filterMap (headerName? platform) := by
  induction lines generalizing entries with
  | nil => simp
  | cons line lines ih =>
    rw [foldl_cons, ih]
    cases folded : isFoldedLine line with
    | true => simp [nextEntries, folded, map_fst_foldInto, headerName?, headerOf?_of_folded folded]
    | false =>
      cases found : headerOf? platform line <;>
        simp [nextEntries, folded, found, headerName?]

theorem map_fst_headerEntries (lines : List Str) :
    (headerEntries platform lines).map Prod.fst = lines.filterMap (headerName? platform) :=
  map_fst_foldl_nextEntries [] lines

theorem valuesUnder_headerEntries_eq_nil_iff :
    valuesUnder (headerEntries platform lines) key = [] ↔
      ∀ line ∈ lines, headerName? platform line ≠ some key := by
  have absent : valuesUnder (headerEntries platform lines) key = [] ↔
      key ∉ (headerEntries platform lines).map Prod.fst := by
    simp only [valuesUnder, map_eq_nil_iff, filter_eq_nil_iff, decide_eq_true_eq, mem_map,
      not_exists, not_and]
  rw [absent, map_fst_headerEntries, mem_filterMap]
  simp

/-- The first header stays the first one, with the continuation lines that belong to it. -/
theorem foldl_nextEntries_cons (name value : Str) (entries : List (Str × Str)) (lines : List Str) :
    ∃ folded rest, lines.foldl (nextEntries platform) ((name, value) :: entries) =
        (name, folded) :: rest ∧ (folded = value ∨ ' ' ∈ folded) := by
  induction lines generalizing value entries with
  | nil => exact ⟨value, entries, rfl, .inl rfl⟩
  | cons line lines ih =>
    have first : ∃ next others, nextEntries platform ((name, value) :: entries) line =
        (name, next) :: others ∧ (next = value ∨ ' ' ∈ next) := by
      cases folded : isFoldedLine line with
      | false => exact ⟨value, _, by simp [nextEntries, folded]; rfl, .inl rfl⟩
      | true =>
        cases entries with
        | nil =>
          exact ⟨value ++ ' ' :: trim line, [], by simp [nextEntries, folded, foldInto],
            .inr (by simp)⟩
        | cons entry entries =>
          exact ⟨value, foldInto line (entry :: entries),
            by simp [nextEntries, folded, foldInto], .inl rfl⟩
    obtain ⟨next, others, step, kept⟩ := first
    obtain ⟨folded, rest, shape, same⟩ := ih next others
    rw [foldl_cons, step]
    refine ⟨folded, rest, shape, ?_⟩
    rcases same with rfl | blank
    · exact kept
    · exact .inr blank

/-- A name occurs on no line, or there is a first line of that name. -/
theorem first_named (platform : Platform) (key : Str) (lines : List Str) :
    (∀ line ∈ lines, headerName? platform line ≠ some key) ∨
      ∃ front line back value, lines = front ++ line :: back ∧
        headerOf? platform line = some (key, value) ∧
        ∀ other ∈ front, headerName? platform other ≠ some key := by
  cases search : lines.find? fun line => headerName? platform line = some key with
  | none => exact .inl (by simpa using find?_eq_none.mp search)
  | some line =>
    obtain ⟨named, front, back, shape, before⟩ := find?_eq_some_iff_append.mp search
    obtain ⟨⟨name, value⟩, found, rfl⟩ := Option.map_eq_some_iff.mp (of_decide_eq_true named)
    exact .inr ⟨front, line, back, value, shape, found, by simpa using before⟩

/-- The headers of lines around one that starts a header. -/
theorem headerEntries_cut {entry : Str × Str} (front back : List Str)
    (found : headerOf? platform line = some entry) :
    headerEntries platform (front ++ line :: back) =
      headerEntries platform front ++ back.foldl (nextEntries platform) [entry] := by
  have whole : isFoldedLine line = false := by
    by_contra folded
    simp [headerOf?, folded] at found
  have started : nextEntries platform (headerEntries platform front) line =
      headerEntries platform front ++ [entry] := by
    simp [nextEntries, whole, found]
  rw [headerEntries, foldl_append, foldl_cons, ← headerEntries, started,
    foldl_nextEntries_append (cons_ne_nil _ _)]

/-- The headers without those of a name. -/
def dropName (key : Str) (entries : List (Str × Str)) : List (Str × Str) :=
  entries.filter fun entry => entry.1 ≠ key

theorem valuesUnder_dropName {other : Str} (different : other ≠ key) :
    valuesUnder (dropName key entries) other = valuesUnder entries other := by
  rw [valuesUnder, valuesUnder, dropName, filter_filter]
  congr 2
  funext entry
  by_cases same : entry.1 = other
  · simp [same, different]
  · simp [same]

theorem valuesUnder_dropName_self : valuesUnder (dropName key entries) key = [] := by
  simp [valuesUnder, dropName, filter_filter]

/-- A continuation line of a header of the name has only headers of that name before it. -/
def Separate (platform : Platform) (key : Str) (lines : List Str) : Prop :=
  Throughout (fun front line => isFoldedLine line = true →
    (front.filterMap (headerName? platform)).getLast? = some key →
      ∀ name ∈ front.filterMap (headerName? platform), name = key) lines

/-- A line adds to the headers without a name what it adds to the headers, unless it starts or
continues one of the name. -/
theorem dropName_nextEntries (entries : List (Str × Str)) (line : Str) :
    dropName key (nextEntries platform entries line) =
      if headerName? platform line = some key ∨
          isFoldedLine line = true ∧ (entries.map Prod.fst).getLast? = some key then
        dropName key entries
      else nextEntries platform (dropName key entries) line := by
  cases folded : isFoldedLine line with
  | true =>
    have unnamed : headerName? platform line = none := by
      rw [headerName?, headerOf?_of_folded folded, Option.map_none]
    obtain rfl | ⟨start, ⟨name, value⟩, rfl⟩ := eq_nil_or_concat entries
    · simp [nextEntries, folded, foldInto, dropName, unnamed]
    · by_cases same : name = key
      · simp [nextEntries, folded, foldInto_concat, dropName, unnamed, same]
      · have kept : dropName key (start ++ [(name, value)]) =
            dropName key start ++ [(name, value)] := by simp [dropName, same]
        simp only [nextEntries, folded, if_true, concat_eq_append, foldInto_concat, kept]
        simp [dropName, unnamed, same]
  | false =>
    cases found : headerOf? platform line with
    | none => simp [nextEntries, folded, found, headerName?]
    | some entry =>
      by_cases same : entry.1 = key <;>
        simp [nextEntries, folded, found, headerName?, dropName, same]

/-- Leaving out the lines of a name leaves out its headers, if no continuation line of them goes
to another header. -/
theorem headerEntries_dropName (separate : Separate platform key lines) :
    headerEntries platform (lines.filter fun line => headerName? platform line ≠ some key) =
      dropName key (headerEntries platform lines) := by
  induction lines using List.reverseRecOn with
  | nil => rfl
  | append_singleton lines line ih =>
    obtain ⟨before, last⟩ := throughout_concat_iff.mp separate
    have step : ∀ more, headerEntries platform (more ++ [line]) =
        nextEntries platform (headerEntries platform more) line := by simp [headerEntries]
    rw [step, dropName_nextEntries, map_fst_headerEntries, filter_append]
    by_cases named : headerName? platform line = some key
    · rw [if_pos (.inl named), ← ih before]
      simp [named]
    rw [filter_singleton, decide_eq_true named, cond_true, step, ih before]
    split
    · next either =>
      obtain ⟨folded, attached⟩ := either.resolve_left named
      -- There is no header that the line could be added to.
      have bare : dropName key (headerEntries platform lines) = [] := by
        have names := last folded attached
        rw [← map_fst_headerEntries] at names
        rw [dropName, filter_eq_nil_iff]
        intro entry member
        simpa using names entry.1 (mem_map_of_mem member)
      rw [bare, nextEntries, if_pos folded, foldInto]
    · rfl

end Entries

namespace SipMessage

variable {platform : Platform} {reading : Reading} {entries : List (Str × Str)} {line : Str}

/-- The parser's state holds these headers and waits for more. -/
structure Reading.Shows (reading : Reading) (entries : List (Str × Str)) : Prop where
  inHeaders : reading.inHeaders = true
  bodyLines : reading.bodyLines = []
  values : ∀ key, (reading.headers.lookup key).getD [] = valuesUnder entries key
  lastKey : reading.lastKey = entries.getLast?.map Prod.fst

theorem Reading.shows_start : Reading.start.Shows [] where
  inHeaders := rfl
  bodyLines := rfl
  values _ := rfl
  lastKey := rfl

theorem Reading.Shows.push (shows : reading.Shows entries) (name value : Str) :
    (reading.push name value).Shows (entries ++ [(name, value)]) where
  inHeaders := shows.inHeaders
  bodyLines := shows.bodyLines
  values key := by
    by_cases same : name = key
    · subst same
      simp [Reading.push, shows.values]
    · simp [Reading.push, AList.lookup_insert_ne (Ne.symm same), shows.values, same]
  lastKey := by simp [Reading.push]

theorem Reading.Shows.fold (shows : reading.Shows entries) (line : Str) :
    (reading.fold line).Shows (foldInto line entries) := by
  obtain rfl | ⟨start, ⟨name, value⟩, rfl⟩ := eq_nil_or_concat entries
  · have none : reading.lastKey = none := shows.lastKey
    simpa [Reading.fold, none, foldInto] using shows
  · rw [concat_eq_append] at shows ⊢
    have last : reading.lastKey = some name := by simpa using shows.lastKey
    have values : (reading.headers.lookup name).getD [] = valuesUnder start name ++ [value] := by
      simpa using shows.values name
    have found : reading.headers.lookup name = some (valuesUnder start name ++ [value]) := by
      cases lookup : reading.headers.lookup name with
      | none => simp [lookup] at values
      | some given => simpa [lookup] using values
    have folded : reading.fold line = { reading with
        headers := reading.headers.insert name
          (valuesUnder start name ++ [value ++ ' ' :: trim line]) } := by
      simp [Reading.fold, last, found]
    rw [folded, foldInto_concat]
    refine ⟨shows.inHeaders, shows.bodyLines, fun key => ?_, by simpa using last⟩
    by_cases same : name = key
    · subst same
      simp
    · have others := shows.values key
      simp only [valuesUnder_append, valuesUnder_singleton, if_neg same, append_nil] at others
      simp [AList.lookup_insert_ne (Ne.symm same), others, same]

theorem Reading.readLine_of_not_folded (inside : reading.inHeaders = true) (filled : line ≠ [])
    (whole : isFoldedLine line = false) :
    reading.readLine platform line = some (match headerOf? platform line with
      | none => reading
      | some (name, value) => reading.push name value) := by
  have unfolded : ¬ (startsWith line [' '] = true ∨ startsWith line ['\t'] = true) := by
    simpa [isFoldedLine] using whole
  cases found : find ':' line with
  | none =>
    have missing := splitOnce_eq_none (not_mem_of_find_eq_none found)
    simp [Reading.readLine, inside, filled, unfolded, found, headerOf?, missing]
  | some colon =>
    obtain ⟨name, value, rfl, absent, rfl⟩ := find_eq_some found
    have nameSlice := slice_append [] name (':' :: value)
    have valueSlice := slice_append (name ++ [':']) value []
    have colonSize : (':' : Char).utf8Size = 1 := by decide
    simp only [byteLength, byteLength_append, nil_append, Nat.zero_add,
      append_nil, append_assoc, cons_append, Nat.add_zero, colonSize]
      at nameSlice valueSlice
    rw [Nat.add_assoc] at valueSlice
    simp [Reading.readLine, inside, unfolded, found, headerOf?, whole,
      splitOnce_append absent, byteLength, colonSize, nameSlice, valueSlice]

theorem Reading.Shows.readLine (shows : reading.Shows entries) (filled : line ≠ []) :
    ∃ next, reading.readLine platform line = some next ∧
      next.Shows (nextEntries platform entries line) := by
  cases folded : isFoldedLine line with
  | true =>
    have starts : startsWith line [' '] = true ∨ startsWith line ['\t'] = true := by
      simpa [isFoldedLine] using folded
    refine ⟨reading.fold line, ?_, ?_⟩
    · simp [Reading.readLine, shows.inHeaders, filled, starts]
    · simpa [nextEntries, folded] using shows.fold line
  | false =>
    refine ⟨_, Reading.readLine_of_not_folded shows.inHeaders filled folded, ?_⟩
    cases found : headerOf? platform line with
    | none => simpa [nextEntries, folded, found] using shows
    | some entry => simpa [nextEntries, folded, found] using shows.push entry.1 entry.2

theorem Reading.Shows.foldlM {lines : List Str} (shows : reading.Shows entries)
    (filled : ∀ line ∈ lines, line ≠ []) :
    ∃ final, lines.foldlM (Reading.readLine platform) reading = some final ∧
      final.Shows (lines.foldl (nextEntries platform) entries) := by
  induction lines generalizing reading entries with
  | nil => exact ⟨reading, rfl, shows⟩
  | cons line lines ih =>
    obtain ⟨next, read, nextShows⟩ := shows.readLine (filled line (.head _))
    obtain ⟨final, readRest, finalShows⟩ :=
      ih nextShows fun other member => filled other (.tail _ member)
    refine ⟨final, ?_, finalShows⟩
    rw [foldlM_cons, read]
    exact readRest

/-- After the blank line every line is one of the body. -/
theorem Reading.foldlM_bodyLines {reading : Reading} (outside : reading.inHeaders = false)
    (lines : List Str) :
    lines.foldlM (Reading.readLine platform) reading =
      some { reading with bodyLines := reading.bodyLines ++ lines } := by
  induction lines generalizing reading with
  | nil => simp
  | cons line lines ih =>
    have read : reading.readLine platform line =
        some { reading with bodyLines := reading.bodyLines ++ [line] } := by
      simp [Reading.readLine, outside]
    have later := @ih { reading with bodyLines := reading.bodyLines ++ [line] } outside
    rw [foldlM_cons, read, Option.bind_eq_bind, Option.bind_some, later]
    simp

/-- The fields of a message that its first line tells, with the headers and body given. -/
def ofParts (firstLine : Str) (headers : Headers) (body raw : Str) : SipMessage :=
  let parts := Str.splitn 3 ' ' firstLine
  let isResponse := Str.startsWith firstLine "SIP/2.0".toList
  { method := if isResponse then none else parts[0]?
    requestUri := if isResponse then none else parts[1]?
    statusCode := if isResponse then parts[1]?.bind (Str.parseUnsigned (2 ^ 16)) else none
    headers := headers
    body := body
    raw := raw }

variable {raw firstLine : Str} {headers rest : List Str} {msg : SipMessage}

theorem parse_lines (platform : Platform)
    (lines : lines raw = firstLine :: (headers ++ [] :: rest))
    (filled : ∀ line ∈ headers, line ≠ []) (parts : 2 ≤ (splitn 3 ' ' firstLine).length) :
    ∃ table, parse platform raw =
        .ok (ofParts firstLine table (join "\r\n".toList rest) raw) ∧
      ∀ key, (table.lookup key).getD [] = valuesUnder (headerEntries platform headers) key := by
  obtain ⟨reading, read, shows⟩ :
      ∃ reading, headers.foldlM (Reading.readLine platform) Reading.start = some reading ∧
        reading.Shows (headerEntries platform headers) := Reading.shows_start.foldlM filled
  have blank : reading.readLine platform [] = some { reading with inHeaders := false } := by
    simp [Reading.readLine, shows.inHeaders]
  have whole : (headers ++ [] :: rest).foldlM (Reading.readLine platform) Reading.start =
      some { reading with inHeaders := false, bodyLines := rest } := by
    rw [foldlM_append, read, Option.bind_eq_bind, Option.bind_some, foldlM_cons, blank,
      Option.bind_eq_bind, Option.bind_some, Reading.foldlM_bodyLines rfl]
    simp [shows.bodyLines]
  refine ⟨reading.headers, ?_, shows.values⟩
  simp only [parse, lines, if_neg (Nat.not_lt.mpr parts), whole]
  rfl

theorem parse_lines_ok (lines : lines raw = firstLine :: (headers ++ [] :: rest))
    (filled : ∀ line ∈ headers, line ≠ []) (parsed : parse platform raw = .ok msg) :
    2 ≤ (splitn 3 ' ' firstLine).length ∧
      ∃ table, msg = ofParts firstLine table (join "\r\n".toList rest) raw ∧
        ∀ key, msg.values key = valuesUnder (headerEntries platform headers) key := by
  have parts : 2 ≤ (splitn 3 ' ' firstLine).length := by
    by_contra few
    simp [parse, lines, Nat.not_le.mp few] at parsed
  obtain ⟨table, read, values⟩ := parse_lines platform lines filled parts
  obtain rfl := Except.ok.inj (read.symm.trans parsed)
  exact ⟨parts, table, rfl, values⟩

/-- Every parsed message has the headers of lines of its text. -/
theorem exists_headers_of_parse {raw : Str} (parsed : parse platform raw = .ok msg) :
    ∃ headers, headers ⊆ lines raw ∧
      ∀ key, msg.values key = valuesUnder (headerEntries platform headers) key := by
  cases lines : lines raw with
  | nil => simp [parse, lines] at parsed
  | cons firstLine others =>
    by_cases blank : [] ∈ others
    · obtain ⟨headers, rest, rfl, filled⟩ := eq_append_cons_of_mem blank
      have given : ∀ line ∈ headers, line ≠ [] := fun line member empty =>
        filled (empty ▸ member)
      obtain ⟨-, table, -, values⟩ := parse_lines_ok lines given parsed
      refine ⟨headers, fun line member => ?_, values⟩
      exact mem_cons_of_mem _ (mem_append_left _ member)
    · have given : ∀ line ∈ others, line ≠ [] := fun line member empty => blank (empty ▸ member)
      obtain ⟨reading, read, shows⟩ :
          ∃ reading, others.foldlM (Reading.readLine platform) Reading.start = some reading ∧
            reading.Shows (headerEntries platform others) := Reading.shows_start.foldlM given
      refine ⟨others, fun line member => mem_cons_of_mem _ member, fun key => ?_⟩
      simp only [parse, lines, read] at parsed
      split at parsed
      · cases parsed
      · cases parsed
        exact shows.values key

/-- A name with values is the name of one of the lines. -/
theorem headerName?_of_values {raw key value : Str} (parsed : parse platform raw = .ok msg)
    (member : value ∈ msg.values key) :
    ∃ line, Str.OneLine line ∧ headerName? platform line = some key := by
  obtain ⟨headers, inside, values⟩ := exists_headers_of_parse parsed
  by_contra absent
  have none : ∀ line ∈ headers, headerName? platform line ≠ some key := fun line found named =>
    absent ⟨line, oneLine_of_mem_lines (inside found), named⟩
  rw [values, valuesUnder_headerEntries_eq_nil_iff.mpr none] at member
  cases member

end SipMessage

end Sip3
