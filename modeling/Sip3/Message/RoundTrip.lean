import Sip3.Message.Entries
import Sip3.Message.Layout

/-!
# Reading back what was written

A message written as a first line, header lines, a blank line and a body is read
back by the parser: the values under a name are those written under it, trimmed and
in order. This needs that no name and no value breaks its line.
-/

namespace Sip3

open Text Str List

variable {platform : Platform}

/-- A name that a header line can start with. -/
structure HeaderName (name : Str) : Prop where
  oneLine : Str.OneLine name
  noColon : ':' ∉ name
  notFolded : name.head? ≠ some ' ' ∧ name.head? ≠ some '\t'

instance (name : Str) : Decidable (HeaderName name) :=
  decidable_of_iff
    (Str.OneLine name ∧ ':' ∉ name ∧ name.head? ≠ some ' ' ∧ name.head? ≠ some '\t')
    ⟨fun ⟨oneLine, noColon, notFolded⟩ => ⟨oneLine, noColon, notFolded⟩,
      fun ⟨oneLine, noColon, notFolded⟩ => ⟨oneLine, noColon, notFolded⟩⟩

/-- A header whose line reads back. -/
structure HeaderEntry (entry : Str × Str) : Prop where
  name : HeaderName entry.1
  value : Str.OneLine entry.2

/-- A header line without its end. -/
def headerLine (entry : Str × Str) : Str :=
  entry.1 ++ ": ".toList ++ entry.2

/-- Header lines. -/
def renderHeaders (entries : List (Str × Str)) : Str :=
  entries.flatMap fun entry => headerLine entry ++ "\r\n".toList

/-- A message from its first line, headers and body. -/
def renderMessage (firstLine : Str) (entries : List (Str × Str)) (body : Str) : Str :=
  firstLine ++ "\r\n".toList ++ renderHeaders entries ++ "\r\n".toList ++ body

/-- The values written under a name, as they are read. -/
def writtenValues (platform : Platform) (entries : List (Str × Str)) (key : Str) : List Str :=
  (entries.filter fun entry => normalizeHeaderName platform entry.1 = key).map fun entry =>
    Str.trim entry.2

@[simp] theorem writtenValues_append (front back : List (Str × Str)) (key : Str) :
    writtenValues platform (front ++ back) key =
      writtenValues platform front key ++ writtenValues platform back key := by
  simp [writtenValues]

variable {entry : Str × Str} {entries : List (Str × Str)}

theorem oneLine_headerLine (valid : HeaderEntry entry) : Str.OneLine (headerLine entry) := by
  simp only [headerLine, oneLine_append]
  exact ⟨⟨valid.name.oneLine, by decide⟩, valid.value⟩

theorem renderMessage_eq (firstLine : Str) (entries : List (Str × Str)) (body : Str) :
    renderMessage firstLine entries body =
      messageText firstLine (entries.map headerLine) body := by
  simp [renderMessage, renderHeaders, messageText, crlfLines, flatMap_map]

theorem headerLines_map (valid : ∀ entry ∈ entries, HeaderEntry entry) :
    HeaderLines (entries.map headerLine) where
  single := forall_mem_map.mpr fun entry member => oneLine_headerLine (valid entry member)
  filled := forall_mem_map.mpr fun entry _ => by simp [headerLine]

/-- The text after the blank line of a written message is its body. -/
theorem splitOnceStr_renderMessage {firstLine : Str} (body : Str) (single : Str.OneLine firstLine)
    (valid : ∀ entry ∈ entries, HeaderEntry entry) :
    Sdp.splitOnceStr blankLine (renderMessage firstLine entries body) =
      some (join "\r\n".toList (firstLine :: entries.map headerLine), body) := by
  rw [renderMessage_eq, splitOnceStr_messageText single (headerLines_map valid)]

theorem isFoldedLine_headerLine (named : HeaderName entry.1) :
    isFoldedLine (headerLine entry) = false := by
  obtain ⟨name, value⟩ := entry
  cases name with
  | nil => simp [isFoldedLine, headerLine, startsWith, isPrefixOf]
  | cons first rest =>
    have notSpace : first ≠ ' ' := fun same => named.notFolded.1 (congrArg some same)
    have notTab : first ≠ '\t' := fun same => named.notFolded.2 (congrArg some same)
    simp [isFoldedLine, headerLine, startsWith, isPrefixOf, Ne.symm notSpace,
      Ne.symm notTab]

/-- A header line is read as its name and its trimmed value. -/
theorem headerOf?_headerLine (named : HeaderName entry.1) :
    headerOf? platform (headerLine entry) =
      some (normalizeHeaderName platform entry.1, trim entry.2) := by
  have shape : headerLine entry = entry.1 ++ ':' :: ' ' :: entry.2 := by simp [headerLine]
  have blank : trim (' ' :: entry.2) = trim entry.2 := by
    simp [trim, trimStart, isWhitespace]
  rw [headerOf?, isFoldedLine_headerLine named, shape, splitOnce_append named.noColon]
  simp [blank]

theorem headerEntries_map (valid : ∀ entry ∈ entries, HeaderEntry entry) :
    headerEntries platform (entries.map headerLine) =
      entries.map fun entry => (normalizeHeaderName platform entry.1, trim entry.2) := by
  induction entries with
  | nil => rfl
  | cons entry entries ih =>
    have named := (valid entry (.head _)).name
    have first : nextEntries platform [] (headerLine entry) =
        [(normalizeHeaderName platform entry.1, trim entry.2)] := by
      simp [nextEntries, isFoldedLine_headerLine named, headerOf?_headerLine named]
    have own : unattached platform (entries.map headerLine) = true := by
      cases entries with
      | nil => rfl
      | cons next others =>
        have nextNamed := (valid next (.tail _ (.head _))).name
        simp [unattached, isFoldedLine_headerLine nextNamed, headerName?,
          headerOf?_headerLine nextNamed]
    rw [map_cons, headerEntries, foldl_cons, first, foldl_nextEntries _ own,
      ih fun other member => valid other (.tail _ member)]
    rfl

theorem valuesUnder_map (entries : List (Str × Str)) (key : Str) :
    valuesUnder (entries.map fun entry =>
      (normalizeHeaderName platform entry.1, trim entry.2)) key =
      writtenValues platform entries key := by
  simp [valuesUnder, writtenValues, filter_map, Function.comp_def]

namespace SipMessage

theorem parse_renderMessage (platform : Platform) {firstLine : Str} {entries : List (Str × Str)} (body : Str)
    (single : Str.OneLine firstLine) (parts : 2 ≤ (splitn 3 ' ' firstLine).length)
    (valid : ∀ entry ∈ entries, HeaderEntry entry) :
    ∃ msg, parse platform (renderMessage firstLine entries body) = .ok msg ∧
      (startsWith firstLine "SIP/2.0".toList → msg.method = none ∧
        msg.statusCode = (splitn 3 ' ' firstLine)[1]?.bind (parseUnsigned (2 ^ 16))) ∧
      (¬ startsWith firstLine "SIP/2.0".toList →
        msg.method = (splitn 3 ' ' firstLine)[0]? ∧
        msg.requestUri = (splitn 3 ' ' firstLine)[1]?) ∧
      ∀ key, msg.values key = writtenValues platform entries key := by
  have written := headerLines_map valid
  have lines : lines (renderMessage firstLine entries body) =
      firstLine :: (entries.map headerLine ++ [] :: lines body) := by
    rw [renderMessage_eq, lines_messageText single written]
  obtain ⟨table, parsed, values⟩ := parse_lines platform lines written.filled parts
  refine ⟨_, parsed, ?_, ?_, ?_⟩
  · intro status
    simp only [ofParts, status, if_true, and_self]
  · intro request
    simp only [ofParts, request, if_false, Bool.false_eq_true, and_self]
  · intro key
    refine (values key).trans ?_
    rw [headerEntries_map valid, valuesUnder_map]

theorem value_eq_head? (msg : SipMessage) (key : Str) : msg.value key = (msg.values key).head? := by
  unfold value values
  cases msg.headers.lookup key <;> rfl

/-- The reading holds values without line feeds. -/
def Reading.LineSafe (reading : Reading) : Prop :=
  ∀ key values, reading.headers.lookup key = some values → ∀ value ∈ values, Str.OneLine value

variable {reading next : Reading} {line : Str} {msg : SipMessage}

/-- Replacing the values under a key keeps them on one line if the new ones are. -/
theorem Reading.LineSafe.insert (safe : reading.LineSafe) {key : Str} {values : List Str}
    (single : ∀ value ∈ values, Str.OneLine value)
    (same : next.headers = reading.headers.insert key values) : next.LineSafe := by
  intro other found lookup value member
  rw [same] at lookup
  by_cases here : other = key
  · subst here
    rw [AList.lookup_insert] at lookup
    exact single value (Option.some.inj lookup ▸ member)
  · rw [AList.lookup_insert_ne here] at lookup
    exact safe other found lookup value member

theorem Reading.LineSafe.fold {reading : Reading} (safe : reading.LineSafe)
    (single : Str.OneLine line) : (reading.fold line).LineSafe := by
  unfold Reading.fold
  split
  · exact safe
  · next key _ =>
      split
      · exact safe
      · next values lookup =>
          split
          · exact safe
          · next last found =>
              refine safe.insert ?_ rfl
              intro value member
              obtain kept | rfl := mem_append.mp member |>.imp_right mem_singleton.mp
              · exact safe key values lookup value (dropLast_subset _ kept)
              · have lastLine := safe key values lookup last (mem_of_getLast? found)
                simp only [oneLine_append, oneLine_cons]
                exact ⟨lastLine, by decide, single.subset (trim_subset line)⟩

theorem Reading.LineSafe.readLine (safe : reading.LineSafe) (single : Str.OneLine line)
    (read : reading.readLine platform line = some next) : next.LineSafe := by
  unfold Reading.readLine at read
  split at read
  · split at read
    · exact Option.some.inj read ▸ safe
    · split at read
      · exact Option.some.inj read ▸ safe.fold single
      · split at read
        · exact Option.some.inj read ▸ safe
        · next colon _ =>
            obtain ⟨name, -, read⟩ := Option.bind_eq_some_iff.mp read
            obtain ⟨value, slice, read⟩ := Option.bind_eq_some_iff.mp read
            cases read
            refine safe.insert ?_ rfl
            intro other member
            obtain before | rfl := mem_append.mp member |>.imp_right mem_singleton.mp
            · cases lookup : reading.headers.lookup (normalizeHeaderName platform name) with
              | none => simp [lookup] at before
              | some values => exact safe _ values lookup other (by simpa [lookup] using before)
            · exact single.subset (List.Subset.trans (trim_subset _) (slice_subset slice))
  · exact Option.some.inj read ▸ safe

theorem Reading.LineSafe.foldlM {lines : List Str} {reading final : Reading}
    (safe : reading.LineSafe) (single : ∀ line ∈ lines, Str.OneLine line)
    (read : lines.foldlM (Reading.readLine platform) reading = some final) : final.LineSafe := by
  induction lines generalizing reading with
  | nil => exact Option.some.inj read ▸ safe
  | cons line lines ih =>
    rw [foldlM_cons] at read
    obtain ⟨next, first, rest⟩ := Option.bind_eq_some_iff.mp read
    exact ih (safe.readLine (single line (.head _)) first)
      (fun other member => single other (.tail _ member)) rest

/-- Nothing a parsed message holds breaks a line. -/
structure LineSafe (msg : SipMessage) : Prop where
  values : ∀ key, ∀ value ∈ msg.values key, Str.OneLine value
  requestUri : ∀ uri, msg.requestUri = some uri → Str.OneLine uri

theorem LineSafe.value (safe : msg.LineSafe) {key value : Str}
    (present : msg.value key = some value) : Str.OneLine value :=
  safe.values key value (mem_of_mem_head? (msg.value_eq_head? key ▸ present))

theorem lineSafe_of_parse {raw : Str} (parsed : parse platform raw = .ok msg) : msg.LineSafe := by
  unfold parse at parsed
  split at parsed
  · cases parsed
  · next firstLine lines whole =>
      have single : ∀ line ∈ firstLine :: lines, Str.OneLine line :=
        fun line member => oneLine_of_mem_lines (whole ▸ member)
      obtain ⟨reading, read⟩ := Reading.foldlM_readLine_isSome platform .start lines
      have safe : reading.LineSafe := by
        refine Reading.LineSafe.foldlM ?_ (fun line member => single line (.tail _ member)) read
        intro key values lookup
        cases lookup
      simp only [read] at parsed
      split at parsed
      · cases parsed
      · cases parsed
        constructor
        · intro key value member
          unfold SipMessage.values at member
          cases lookup : reading.headers.lookup key with
          | none => simp [lookup] at member
          | some values => exact safe key values lookup value (by simpa [lookup] using member)
        · intro uri found
          dsimp only at found
          split at found
          · cases found
          · exact (single firstLine (.head _)).subset
              (splitn_subset (mem_of_getElem? found))

end SipMessage

end Sip3
