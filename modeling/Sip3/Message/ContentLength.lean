import Sip3.Message.Reply
import Sip3.Text.Tokens
import Sip3.Transport.TlsPump

/-!
# The length of a body

Three functions look for the Content-Length header, each in its own way. The parser normalises the
name before the first colon and adds continuation lines; the TLS framing and the rewriter of relayed
messages compare how a line starts. `AgreesOnLength` and `LengthRewritten` say that they understand
each other. They do where the header is spelled as all of them expect.
-/

namespace Sip3

open Text Str List Semantics

namespace TlsPump

variable {platform : Platform}

/-- The framing takes the line for a Content-Length header. -/
def isLengthLine (platform : Platform) (line : Str) : Bool :=
  let lower := platform.toLowercase line
  Str.startsWith lower "content-length:".toList || Str.startsWith lower "l:".toList

theorem isLengthLine_nil : isLengthLine platform [] = false := by
  have empty : platform.toLowercase [] = [] := platform.toLowercase_ascii [] (by simp)
  simp [isLengthLine, empty, startsWith]

theorem go_append {front : List Str} (others : ∀ line ∈ front, isLengthLine platform line = false)
    (back : List Str) :
    extractContentLength.go platform (front ++ back) = extractContentLength.go platform back := by
  induction front with
  | nil => rfl
  | cons line front ih =>
    have other : ¬ (startsWith (platform.toLowercase line) "content-length:".toList = true ∨
        startsWith (platform.toLowercase line) "l:".toList = true) := by
      simpa [isLengthLine] using others line (.head _)
    rw [cons_append, extractContentLength.go, if_neg other]
    exact ih fun next member => others next (.tail _ member)

theorem go_length {line name value : Str} {length : Nat} (found : isLengthLine platform line = true)
    (cut : splitOnce ':' line = some (name, value))
    (read : parseUnsigned (2 ^ 64) (trim value) = some length) (rest : List Str) :
    extractContentLength.go platform (line :: rest) = length := by
  have given : startsWith (platform.toLowercase line) "content-length:".toList = true ∨
      startsWith (platform.toLowercase line) "l:".toList = true := by
    simpa [isLengthLine] using found
  simp only [extractContentLength.go, if_pos given, cut, read]

/-- The framing reads from a header block the length that the parser sees: the first Content-Length
value if it is a number, and 0 without the header. -/
def AgreesOnLength (platform : Platform) (block : Str) : Prop :=
  ∀ msg, SipMessage.parse platform block = .ok msg →
    (∀ length, (msg.value "content-length".toList).bind Str.digits? = some length →
      extractContentLength platform block = length) ∧
    (msg.value "content-length".toList = none → extractContentLength platform block = 0)

/-- The parser sees no Content-Length header before this line. -/
def Leading (platform : Platform) (headers : List Str) (line : Str) : Prop :=
  ∃ front back, headers = front ++ line :: back ∧
    ∀ other ∈ front, headerName? platform other ≠ some "content-length".toList

/-- The lines of a block up to the first Content-Length header spell it as the framing expects. -/
structure SpelledForFraming (platform : Platform) (firstLine : Str) (headers : List Str) : Prop where
  start : isLengthLine platform firstLine = false
  named : ∀ line, Leading platform headers line → (isLengthLine platform line = true ↔
    headerName? platform line = some "content-length".toList)
  fits : ∀ line, Leading platform headers line → ∀ value length,
    headerOf? platform line = some ("content-length".toList, value) →
      Str.digits? value = some length → length < 2 ^ 64

theorem SpelledForFraming.others {firstLine : Str} {front back : List Str}
    (spelled : SpelledForFraming platform firstLine (front ++ back))
    (absent : ∀ line ∈ front, headerName? platform line ≠ some "content-length".toList) :
    ∀ line ∈ front, isLengthLine platform line = false := by
  intro line member
  obtain ⟨before, after, rfl⟩ := append_of_mem member
  have leading : Leading platform (before ++ line :: after ++ back) line :=
    ⟨before, after ++ back, by simp, fun other inside => absent other (mem_append_left _ inside)⟩
  have other := absent line member
  rwa [ne_eq, ← spelled.named line leading, Bool.not_eq_true] at other

/-- Where the first Content-Length is spelled as the framing expects it, and no line before it could
be taken for one, framing and parser agree. -/
theorem agreesOnLength_of_spelled (platform : Platform) {block firstLine : Str} {headers : List Str}
    (lines : Str.lines block = firstLine :: (headers ++ [[]]))
    (filled : ∀ line ∈ headers, line ≠ [])
    (spelled : SpelledForFraming platform firstLine headers) : AgreesOnLength platform block := by
  intro msg parsed
  obtain ⟨-, table, -, values⟩ := SipMessage.parse_lines_ok lines filled parsed
  have skipped : extractContentLength platform block =
      extractContentLength.go platform (headers ++ [[]]) := by
    rw [extractContentLength, lines]
    exact @go_append platform [firstLine] (by simpa using spelled.start) _
  rw [skipped, msg.value_eq_head?, values]
  rcases first_named platform "content-length".toList headers with
    absent | ⟨front, line, back, value, rfl, found, absent⟩
  · have others : ∀ line ∈ headers ++ [[]], isLengthLine platform line = false := by
      intro line member
      rcases List.mem_append.mp member with inside | last
      · exact (append_nil headers ▸ spelled).others absent line inside
      · rw [List.mem_singleton.mp last]
        exact isLengthLine_nil
    have zero : extractContentLength.go platform (headers ++ [[]]) = 0 := by
      rw [← List.append_nil (headers ++ [[]]), go_append others]
      rfl
    rw [valuesUnder_headerEntries_eq_nil_iff.mpr absent, zero]
    refine ⟨fun length given => ?_, fun _ => rfl⟩
    cases given
  · have leading : Leading platform (front ++ line :: back) line := ⟨front, back, rfl, absent⟩
    have named : headerName? platform line = some "content-length".toList := by
      rw [headerName?, found, Option.map_some]
    obtain ⟨folded, rest, shape, unfolded⟩ :=
      @foldl_nextEntries_cons platform "content-length".toList value [] back
    have first : (valuesUnder (headerEntries platform (front ++ line :: back))
        "content-length".toList).head? = some folded := by
      rw [headerEntries_cut front back found, shape, valuesUnder_append,
        valuesUnder_headerEntries_eq_nil_iff.mpr absent, valuesUnder_cons_self]
      rfl
    rw [first]
    refine ⟨fun length number => ?_, fun none => by cases none⟩
    replace number : Str.digits? folded = some length := number
    -- A continued value has a space, so it is not a number.
    obtain rfl : folded = value := unfolded.resolve_right (Str.not_mem_of_digits? number (by decide))
    have small := spelled.fits line leading folded length found number
    obtain ⟨label, text, cut, -, trimmed⟩ := splitOnce_of_headerOf? found
    rw [List.append_assoc, go_append (spelled.others absent)]
    refine go_length ((spelled.named line leading).mpr named) cut ?_ _
    rw [trimmed]
    exact Str.parseUnsigned_of_digits? number small

/-- A block with the compact form of Content-Length, and a spelling that the framing does not know
after it. -/
theorem agreesOnLength_compact :
    let headers := ["l: 5".toList, "Content-Length : 7".toList]
    SpelledForFraming (.ascii fun _ => none) "INVITE sip:a SIP/2.0".toList headers ∧
      AgreesOnLength (.ascii fun _ => none) (messageText "INVITE sip:a SIP/2.0".toList headers []) := by
  intro headers
  have first : ∀ line, Leading (.ascii fun _ => none) headers line → line = "l: 5".toList := by
    rintro line ⟨front, back, shape, absent⟩
    cases front with
    | nil => exact (cons.inj shape).1.symm
    | cons other front =>
      cases (cons.inj shape).1
      exact absurd (by decide +kernel) (absent _ (.head _))
  have spelled : SpelledForFraming (.ascii fun _ => none) "INVITE sip:a SIP/2.0".toList headers := by
    refine ⟨by decide +kernel, fun line leading => ?_, fun line leading => ?_⟩
    · rw [first line leading]
      decide +kernel
    intro value length found number
    have read : headerOf? (.ascii fun _ => none) line =
        some ("content-length".toList, "5".toList) := by
      rw [first line leading]
      decide +kernel
    rw [read] at found
    cases found
    obtain rfl : 5 = length := Option.some.inj ((by decide : some 5 = _).trans number)
    decide
  exact ⟨spelled, agreesOnLength_of_spelled _ (by decide +kernel) (by decide) spelled⟩

/-- With a blank before the colon the parser sees the header and the framing does not. -/
theorem not_agreesOnLength_blank :
    ¬ AgreesOnLength (.ascii fun _ => none)
      (messageText "INVITE sip:a SIP/2.0".toList ["Content-Length : 5".toList] []) := by
  intro agrees
  obtain ⟨msg, parsed, value⟩ : ∃ msg, SipMessage.parse (.ascii fun _ => none)
      (messageText "INVITE sip:a SIP/2.0".toList ["Content-Length : 5".toList] []) = .ok msg ∧
      (msg.value "content-length".toList).bind Str.digits? = some 5 := ⟨_, rfl, by decide +kernel⟩
  exact absurd ((agrees msg parsed).1 5 value) (by decide +kernel)

end TlsPump

namespace Sdp

variable {platform : Platform} {firstLine body newBody : Str} {headers : List Str}

/-- The rewriter takes the line for a Content-Length header. -/
def isLengthLine (platform : Platform) (line : Str) : Bool :=
  Str.startsWith (platform.toLowercase line) "content-length:".toList

/-- The header that the rewriter writes. -/
def lengthHeader (newBody : Str) : Str × Str :=
  ("Content-Length".toList, Str.ofNat (Str.byteLength newBody))

theorem headerLine_lengthHeader (newBody : Str) :
    headerLine (lengthHeader newBody) =
      "Content-Length: ".toList ++ ofNat (byteLength newBody) := rfl

theorem headerEntry_lengthHeader (newBody : Str) : HeaderEntry (lengthHeader newBody) where
  name := by
    have valid : HeaderName "Content-Length".toList := by decide
    exact valid
  value := oneLine_ofNat _

theorem headerOf?_lengthHeader (newBody : Str) :
    headerOf? platform (headerLine (lengthHeader newBody)) =
      some ("content-length".toList, ofNat (byteLength newBody)) := by
  have normal : normalizeHeaderName platform "Content-Length".toList = "content-length".toList := by
    rw [normalizeHeaderName_of_ascii (by decide)]
    decide
  have read : headerOf? platform (headerLine (lengthHeader newBody)) =
      some (normalizeHeaderName platform "Content-Length".toList,
        trim (ofNat (byteLength newBody))) :=
    headerOf?_headerLine (headerEntry_lengthHeader newBody).name
  rw [read, normal, trim_ofNat]

/-- Leaving out header lines and adding the new length. -/
theorem headerLines_rewritten (valid : HeaderLines headers) (newBody : Str) (kept : Str → Bool) :
    HeaderLines (headers.filter kept ++ [headerLine (lengthHeader newBody)]) := by
  have left := valid.subset (filter_sublist.subset : headers.filter kept ⊆ headers)
  constructor
  · intro line member
    rcases mem_append.mp member with inside | last
    · exact left.single line inside
    · rw [mem_singleton.mp last]
      exact oneLine_headerLine (headerEntry_lengthHeader newBody)
  · intro line member
    rcases mem_append.mp member with inside | last
    · exact left.filled line inside
    · rw [mem_singleton.mp last]
      exact cons_ne_nil _ _

/-- The rewritten message has one length, that of the new body, all other headers of the message,
and the new body after its blank line. -/
def LengthRewritten (platform : Platform) (raw newBody : Str) : Prop :=
  ∀ msg, SipMessage.parse platform raw = .ok msg →
    (∃ out, SipMessage.parse platform (rewriteContentLength platform raw newBody) = .ok out ∧
      out.values "content-length".toList = [Str.ofNat (Str.byteLength newBody)] ∧
      ∀ key ≠ "content-length".toList, out.values key = msg.values key) ∧
    ∃ head, splitOnceStr blankLine (rewriteContentLength platform raw newBody) = some (head, newBody)

/-- The header lines of a message spell Content-Length as the rewriter expects it, and none of them
is continued after another header. -/
structure SpelledForRewrite (platform : Platform) (firstLine : Str) (headers : List Str) : Prop where
  start : isLengthLine platform firstLine = false
  named : ∀ line ∈ headers, isLengthLine platform line = true ↔
    headerName? platform line = some "content-length".toList
  separate : Separate platform "content-length".toList headers

/-- The rewriter leaves out length lines and writes one of its own at the end. -/
theorem rewriteContentLength_messageText (first : Str.OneLine firstLine) (filled : firstLine ≠ [])
    (start : isLengthLine platform firstLine = false) (valid : HeaderLines headers) :
    rewriteContentLength platform (messageText firstLine headers body) newBody =
      messageText firstLine ((headers.filter fun line => !isLengthLine platform line) ++
        [headerLine (lengthHeader newBody)]) newBody := by
  have cut : splitOnceStr "\r\n\r\n".toList (messageText firstLine headers body) = _ :=
    splitOnceStr_messageText first valid body
  have contains := containsStr_of_splitOnceStr cut
  have lines : splitCrLf (join "\r\n".toList (firstLine :: headers)) =
      firstLine :: headers :=
    splitCrLf_join (cons_ne_nil _ _) (forall_mem_cons.mpr ⟨first, valid.single⟩)
  have same : ∀ line ∈ firstLine :: headers,
      (!startsWith (platform.toLowercase line) "content-length:".toList && decide (line ≠ [])) =
        !isLengthLine platform line := by
    intro line member
    have given : line ≠ [] := by
      rcases mem_cons.mp member with rfl | inside
      · exact filled
      · exact valid.filled line inside
    rw [isLengthLine, decide_eq_true given, Bool.and_true]
  have kept : (firstLine :: headers).filter (fun line => !isLengthLine platform line) =
      firstLine :: headers.filter fun line => !isLengthLine platform line :=
    filter_cons_of_pos (by rw [start]; rfl)
  rw [rewriteContentLength]
  simp only [contains, if_true, cut, lines]
  rw [filter_congr same, kept, messageText_concat, headerLine_lengthHeader,
    ← append_assoc, blankLine]

/-- Where Content-Length is spelled as the rewriter expects it, the rewritten message has the new
length and nothing else has changed. -/
theorem lengthRewritten_of_spelled (platform : Platform) {firstLine : Str} {headers : List Str}
    (body newBody : Str) (first : Str.OneLine firstLine) (valid : HeaderLines headers)
    (spelled : SpelledForRewrite platform firstLine headers) :
    LengthRewritten platform (messageText firstLine headers body) newBody := by
  intro msg parsed
  obtain ⟨parts, table, -, values⟩ :=
    SipMessage.parse_lines_ok (lines_messageText first valid body) valid.filled parsed
  have filled : firstLine ≠ [] := by
    rintro rfl
    exact absurd parts (by decide)
  have kept : (headers.filter fun line => !isLengthLine platform line) =
      headers.filter fun line => headerName? platform line ≠ some "content-length".toList := by
    refine List.filter_congr fun line member => ?_
    rw [Bool.eq_iff_iff, Bool.not_eq_true', decide_eq_true_eq, ne_eq, ← spelled.named line member,
      Bool.not_eq_true]
  have written := headerLines_rewritten valid newBody fun line => !isLengthLine platform line
  obtain ⟨outTable, read, outValues⟩ :=
    SipMessage.parse_lines platform (lines_messageText first written newBody) written.filled parts
  have entries : headerEntries platform ((headers.filter fun line => !isLengthLine platform line) ++
      [headerLine (lengthHeader newBody)]) =
      dropName "content-length".toList (headerEntries platform headers) ++
        [("content-length".toList, Str.ofNat (Str.byteLength newBody))] := by
    rw [headerEntries_cut _ [] (headerOf?_lengthHeader newBody), kept,
      headerEntries_dropName spelled.separate]
    rfl
  rw [rewriteContentLength_messageText first filled spelled.start valid]
  refine ⟨⟨_, read, ?_, ?_⟩, _, splitOnceStr_messageText first written newBody⟩
  · refine (outValues _).trans ?_
    rw [entries, valuesUnder_append, valuesUnder_dropName_self, valuesUnder_cons_self]
    rfl
  · intro key other
    refine (outValues key).trans ?_
    rw [entries, valuesUnder_append, valuesUnder_dropName other, valuesUnder_singleton,
      if_neg (Ne.symm other), List.append_nil, values]

/-- A length that is continued is replaced, when it is the first header. -/
theorem lengthRewritten_invite :
    let headers := ["Content-Length: 5".toList, " 6".toList, "To: b".toList]
    SpelledForRewrite (.ascii fun _ => none) "INVITE sip:a SIP/2.0".toList headers ∧
      LengthRewritten (.ascii fun _ => none)
        (messageText "INVITE sip:a SIP/2.0".toList headers "hello".toList) "bye".toList := by
  intro headers
  have separate : Separate (.ascii fun _ => none) "content-length".toList headers := by
    have lines : headers = (["Content-Length: 5".toList] ++ [" 6".toList]) ++ ["To: b".toList] := rfl
    rw [lines, Separate, throughout_concat_iff, throughout_concat_iff, ← nil_append [_],
      throughout_concat_iff]
    exact ⟨⟨⟨throughout_nil, by decide⟩, by decide +kernel⟩, by decide⟩
  have spelled : SpelledForRewrite (.ascii fun _ => none) "INVITE sip:a SIP/2.0".toList headers :=
    ⟨by decide +kernel, by decide +kernel, separate⟩
  exact ⟨spelled, lengthRewritten_of_spelled _ _ _ (by decide) (by decide) spelled⟩

/-- The compact form of Content-Length stays in the message, before the new length. -/
theorem not_lengthRewritten_compact :
    ¬ LengthRewritten (.ascii fun _ => none)
      (messageText "INVITE sip:a SIP/2.0".toList ["l: 5".toList] "hello".toList) [] := by
  intro rewritten
  obtain ⟨⟨out, read, one, -⟩, -⟩ := rewritten _ rfl
  have values : ((SipMessage.parse (.ascii fun _ => none) (rewriteContentLength (.ascii fun _ => none)
      (messageText "INVITE sip:a SIP/2.0".toList ["l: 5".toList] "hello".toList) [])).toOption.map
        fun msg => msg.values "content-length".toList) = some ["5".toList, "0".toList] := by
    decide +kernel
  rw [read] at values
  exact absurd (one.symm.trans (Option.some.inj values)) (by decide)

end Sdp

end Sip3
