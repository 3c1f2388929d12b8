import Mathlib.Data.List.Infix
import Sip3.Message.Layout
import Sip3.Text.Tokens
import Sip3.Text.Utf8Codec
import Sip3.Transport.TlsPump

/-!
# Framing of a byte stream

One call of `read_next_sip_message` on a stream whose bytes come in any number of reads. `consume`
is what a call does with the bytes there are, and `readNextSipMessage` asks for more reads until the
call is done. The reads do not matter (`readNextSipMessage_eq`), so that the results are about bytes:
what a stream of messages is read as, and how much memory a call takes for a body.
-/

namespace Sip3.TlsPump

open Text Str List Reader

/-- How a call of `read_next_sip_message` ends: with a message, with `None`, with an error, or in a
panic. -/
inductive Outcome where
  | message (raw : Str)
  | closed
  | failed
  | panicked
  deriving DecidableEq

/-- How a call ends that does not wait for more bytes. -/
def Ending.outcome : Ending → Outcome
  | .endOfStream => .closed
  | .invalidUtf8 => .failed
  | .capacityOverflow => .panicked

/-- A call that has been given some bytes: it waits for more, or it is done and has left the rest. -/
inductive Consumed where
  | pending (reader : Reader)
  | done (outcome : Outcome) (rest : List UInt8)
  deriving DecidableEq

/-- What a call does with the bytes there are. -/
def Reader.consume (platform : Platform) : Reader → List UInt8 → Consumed
  | reader, [] => .pending reader
  | reader, byte :: rest =>
    match reader.feed platform byte with
    | .pending next => next.consume platform rest
    | .message raw => .done (.message raw) rest
    | .stop ending => .done ending.outcome rest

/-- The end of the stream. A last line without its end still has to be a text, and then ends the
headers in `None`; a body that is not complete is an error. -/
def Reader.atEnd : Reader → Outcome
  | .headers _ line => if (fromUtf8 line).isSome then .closed else .failed
  | .body _ _ _ => .failed

/-- The bytes of one read. A read of no bytes is the end of the stream. -/
structure Chunk where
  bytes : List UInt8
  filled : bytes ≠ []

/-- A buffered reader: bytes that are not yet consumed, and the reads to come. -/
structure Source where
  buffered : List UInt8
  reads : List Chunk

/-- All bytes to come. -/
def Source.bytes (source : Source) : List UInt8 :=
  source.buffered ++ source.reads.flatMap Chunk.bytes

/-- `read_next_sip_message`. -/
def readNextSipMessage (platform : Platform) (source : Source) : Outcome × Source :=
  go source.reads .fresh source.buffered
where
  go : List Chunk → Reader → List UInt8 → Outcome × Source
    | [], reader, buffered =>
      match reader.consume platform buffered with
      | .done outcome rest => (outcome, ⟨rest, []⟩)
      | .pending next => (next.atEnd, ⟨[], []⟩)
    | chunk :: reads, reader, buffered =>
      match reader.consume platform buffered with
      | .done outcome rest => (outcome, ⟨rest, chunk :: reads⟩)
      | .pending next => go reads next chunk.bytes

/-- The outcomes of a number of calls, one after the other. -/
def calls (platform : Platform) : Nat → Source → List Outcome
  | 0, _ => []
  | count + 1, source =>
    let (outcome, after) := readNextSipMessage platform source
    outcome :: calls platform count after

variable {platform : Platform} {raw line : Str} {front rest : List UInt8}

theorem calls_succ (count : Nat) (source : Source) :
    calls platform (count + 1) source = (readNextSipMessage platform source).1 ::
      calls platform count (readNextSipMessage platform source).2 := rfl

/-- A call goes on with what a byte or a header block has led to. -/
def Fed.resume (platform : Platform) (rest : List UInt8) : Fed → Consumed
  | .pending next => next.consume platform rest
  | .message raw => .done (.message raw) rest
  | .stop ending => .done ending.outcome rest

theorem Reader.consume_cons (reader : Reader) (byte : UInt8) (rest : List UInt8) :
    reader.consume platform (byte :: rest) = (reader.feed platform byte).resume platform rest := by
  rw [consume]
  cases reader.feed platform byte <;> rfl

/-- More bytes go to the call if it still waits, and to the rest otherwise. -/
def Consumed.more (platform : Platform) (later : List UInt8) : Consumed → Consumed
  | .pending next => next.consume platform later
  | .done outcome rest => .done outcome (rest ++ later)

theorem Reader.consume_append (reader : Reader) (front rest : List UInt8) :
    reader.consume platform (front ++ rest) =
      (reader.consume platform front).more platform rest := by
  induction front generalizing reader with
  | nil => rfl
  | cons byte front ih =>
    rw [cons_append, consume_cons, consume_cons]
    cases reader.feed platform byte with
    | pending next => exact ih next
    | message raw => rfl
    | stop ending => rfl

section Reads

/-- What a call returns, from what it does with all bytes to come. -/
def Consumed.outcome : Consumed → Outcome
  | .pending next => next.atEnd
  | .done outcome _ => outcome

/-- What a call leaves of them. -/
def Consumed.left : Consumed → List UInt8
  | .pending _ => []
  | .done _ rest => rest

theorem readNextSipMessage_go (reads : List Chunk) (reader : Reader) (buffered : List UInt8) :
    let consumed := reader.consume platform (buffered ++ reads.flatMap Chunk.bytes)
    (readNextSipMessage.go platform reads reader buffered).1 = consumed.outcome ∧
      (readNextSipMessage.go platform reads reader buffered).2.bytes = consumed.left := by
  induction reads generalizing reader buffered with
  | nil =>
    rw [flatMap_nil, append_nil, readNextSipMessage.go]
    cases reader.consume platform buffered with
    | pending next => exact ⟨rfl, rfl⟩
    | done outcome rest => exact ⟨rfl, append_nil rest⟩
  | cons chunk reads ih =>
    rw [consume_append, readNextSipMessage.go]
    cases reader.consume platform buffered with
    | pending next => exact ih next chunk.bytes
    | done outcome rest => exact ⟨rfl, rfl⟩

/-- A call does not depend on how the bytes are split into reads. -/
theorem readNextSipMessage_eq (source : Source) :
    let consumed := fresh.consume platform source.bytes
    (readNextSipMessage platform source).1 = consumed.outcome ∧
      (readNextSipMessage platform source).2.bytes = consumed.left :=
  readNextSipMessage_go source.reads .fresh source.buffered

end Reads

section Lines

/-- A line of text with its line feed. -/
def IsLine (line : Str) : Prop :=
  ∃ content, Str.OneLine content ∧ line = content ++ ['\n']

/-- The lines that end the headers. -/
def EndsHeaders (line : Str) : Prop :=
  line = "\r\n".toList ∨ line = "\n".toList

instance (line : Str) : Decidable (EndsHeaders line) :=
  inferInstanceAs (Decidable (_ ∨ _))

theorem EndsHeaders.isLine (ends : EndsHeaders line) : IsLine line := by
  rcases ends with rfl | rfl
  · exact ⟨['\r'], by decide, rfl⟩
  · exact ⟨[], by decide, rfl⟩

theorem feed_other {byte : UInt8} (line : List UInt8) (other : byte ≠ 0x0A) :
    (headers raw line).feed platform byte = .pending (.headers raw (line ++ [byte])) :=
  if_neg other

theorem feed_lineFeed {line : List UInt8} {text : Str} (read : fromUtf8 (line ++ [0x0A]) = some text) :
    (headers raw line).feed platform 0x0A =
      if EndsHeaders text then headersDone platform (raw ++ text)
      else .pending (.headers (raw ++ text) []) := by
  rw [Reader.feed, if_pos rfl, read]
  rfl

theorem consume_of_no_lineFeed (line : List UInt8) (single : 0x0A ∉ front) :
    (headers raw line).consume platform (front ++ rest) =
      (headers raw (line ++ front)).consume platform rest := by
  induction front generalizing line with
  | nil => rw [append_nil, nil_append]
  | cons byte front ih =>
    have other : byte ≠ 0x0A := fun same => single (same ▸ .head _)
    have later := ih (line ++ [byte]) fun member => single (.tail _ member)
    rw [append_assoc, singleton_append] at later
    rw [cons_append, consume_cons, feed_other line other]
    exact later

theorem lineFeed_mem_utf8EncodeChar {char : Char} :
    0x0A ∈ String.utf8EncodeChar char ↔ char = '\n' := by
  constructor
  · intro member
    by_cases ascii : char.toNat < 128
    · rw [utf8EncodeChar_ascii ascii, mem_singleton] at member
      have code : 10 = char.toNat :=
        (congrArg UInt8.toNat member).trans (toNat_ofNat_of_byte (by omega))
      rw [← Char.ofNat_toNat char, ← code]
    · exact absurd (utf8EncodeChar_high ascii member) (by decide)
  · rintro rfl
    decide

theorem lineFeed_not_mem_encode {text : Str} : 0x0A ∉ encode text ↔ Str.OneLine text := by
  rw [Str.OneLine, not_iff_not, encode, mem_flatMap]
  simp only [lineFeed_mem_utf8EncodeChar, exists_eq_right]

/-- The bytes up to the first line feed are those of a line, if they are a text. -/
theorem isLine_of_encode {text : Str} (single : 0x0A ∉ front)
    (whole : front ++ [0x0A] = encode text) : IsLine text := by
  rcases eq_nil_or_concat text with rfl | ⟨content, last, rfl⟩
  · exact absurd whole (by simp [encode])
  · rw [concat_eq_append] at whole ⊢
    rw [encode_append] at whole
    have encoded : encode [last] = String.utf8EncodeChar last := append_nil _
    have filled : encode [last] ≠ [] := encoded ▸ String.utf8EncodeChar_ne_nil
    have ends : (encode [last]).getLast? = some 0x0A := by
      rw [← getLast?_append_of_ne_nil _ filled, ← whole, getLast?_concat]
    have member := mem_of_getLast? ends
    rw [encoded] at member
    obtain rfl := lineFeed_mem_utf8EncodeChar.mp member
    obtain rfl : front = encode content := append_cancel_right whole
    exact ⟨content, lineFeed_not_mem_encode.mp single, rfl⟩

theorem consume_line (valid : IsLine line) :
    (headers raw []).consume platform (encode line ++ rest) =
      if EndsHeaders line then (headersDone platform (raw ++ line)).resume platform rest
      else (headers (raw ++ line) []).consume platform rest := by
  obtain ⟨content, single, rfl⟩ := valid
  have split : encode (content ++ ['\n']) ++ rest = encode content ++ 0x0A :: rest := by
    rw [encode_append, append_assoc]
    rfl
  have whole : encode content ++ [0x0A] = encode (content ++ ['\n']) := by
    rw [encode_append]
    rfl
  rw [split, consume_of_no_lineFeed [] (lineFeed_not_mem_encode.mpr single), nil_append,
    consume_cons, feed_lineFeed (fromUtf8_eq_some.mpr whole)]
  split <;> rfl

end Lines

section Blocks

variable {block : Str} {lines skipped : List Str} {contentLength : Nat}

/-- A header block: lines, of which only the last one ends it. -/
def IsBlock (block : Str) : Prop :=
  ∃ (lines : List Str) (last : Str), (∀ line ∈ lines, IsLine line ∧ ¬ EndsHeaders line) ∧
    EndsHeaders last ∧ block = lines.flatten ++ last

/-- A block of white space, which a call skips. -/
def IsBlank (block : Str) : Prop :=
  IsBlock block ∧ Str.trim block = []

theorem consume_lines (valid : ∀ line ∈ lines, IsLine line ∧ ¬ EndsHeaders line) :
    (headers raw []).consume platform (encode lines.flatten ++ rest) =
      (headers (raw ++ lines.flatten) []).consume platform rest := by
  induction lines generalizing raw with
  | nil =>
    rw [flatten_nil, append_nil]
    rfl
  | cons line lines ih =>
    obtain ⟨⟨single, inside⟩, later⟩ := forall_mem_cons.mp valid
    rw [flatten_cons, encode_append, append_assoc, consume_line single,
      if_neg inside, ih later, append_assoc]

theorem consume_block (valid : IsBlock block) :
    fresh.consume platform (encode block ++ rest) =
      (headersDone platform block).resume platform rest := by
  obtain ⟨lines, last, inside, ends, rfl⟩ := valid
  rw [encode_append, append_assoc, fresh, consume_lines inside,
    consume_line ends.isLine, if_pos ends, nil_append]

theorem consume_skipped (blank : ∀ block ∈ skipped, IsBlank block) :
    fresh.consume platform (encode skipped.flatten ++ rest) =
      fresh.consume platform rest := by
  induction skipped with
  | nil => rfl
  | cons block skipped ih =>
    obtain ⟨⟨valid, empty⟩, later⟩ := forall_mem_cons.mp blank
    rw [flatten_cons, encode_append, append_assoc, consume_block valid, headersDone,
      if_pos empty]
    exact ih later

theorem consume_body {got body : List UInt8} (length : got.length + body.length = contentLength)
    (filled : body ≠ []) :
    (Reader.body raw contentLength got).consume platform (body ++ rest) =
      .done (.message (raw ++ fromUtf8Lossy (got ++ body))) rest := by
  induction body generalizing got with
  | nil => exact absurd rfl filled
  | cons byte body ih =>
    have whole : got ++ byte :: body = (got ++ [byte]) ++ body := by simp
    have taken : (got ++ [byte]).length + body.length = contentLength := by
      rw [← length, length_append, length_singleton, length_cons]
      omega
    rw [cons_append, consume_cons, Reader.feed, whole]
    cases body with
    | nil =>
      have complete : (got ++ [byte]).length = contentLength := taken
      rw [if_pos complete, append_nil]
      rfl
    | cons next body =>
      rw [length_cons] at taken
      have partly : (got ++ [byte]).length ≠ contentLength := by omega
      rw [if_neg partly]
      exact ih (by rw [length_cons]; omega) (cons_ne_nil _ _)

theorem resume_headersDone {body : List UInt8} (filled : trim block ≠ [])
    (length : body.length = extractContentLength platform block) (fits : body.length < 2 ^ 63) :
    (headersDone platform block).resume platform (body ++ rest) =
      .done (.message (block ++ fromUtf8Lossy body)) rest := by
  rw [headersDone, if_neg filled]
  simp only [← length]
  rw [if_neg (Nat.not_le.mpr fits)]
  cases body with
  | nil => rfl
  | cons byte body =>
    rw [if_neg (length_pos_of_mem (.head _)).ne']
    exact consume_body (Nat.zero_add _) (cons_ne_nil _ _)

end Blocks

section Messages

/-- A message of a stream, with the number of keep-alive lines before it. Its body has the length
that its headers declare, and as a text of the source it has at most `isize::MAX` bytes. -/
structure Framed (platform : Platform) where
  keepAlives : Nat
  firstLine : Str
  headers : List Str
  body : Str
  named : Str.trim firstLine ≠ []
  single : Str.OneLine firstLine
  further : HeaderLines headers
  length : Str.byteLength body =
    extractContentLength platform (crlfLines (firstLine :: headers) ++ "\r\n".toList)
  fits : Str.byteLength body < 2 ^ 63

/-- The message itself. -/
def Framed.text (framed : Framed platform) : Str :=
  messageText framed.firstLine framed.headers framed.body

/-- Its bytes in the stream. -/
def Framed.bytes (framed : Framed platform) : List UInt8 :=
  Str.encode (crlfLines (List.replicate framed.keepAlives []) ++ framed.text)

theorem isBlank_crlf : IsBlank "\r\n".toList :=
  ⟨⟨[], _, forall_mem_nil _, .inl rfl, rfl⟩, by decide⟩

theorem isLine_crlf (single : Str.OneLine line) (filled : line ≠ []) :
    IsLine (line ++ "\r\n".toList) ∧ ¬ EndsHeaders (line ++ "\r\n".toList) := by
  refine ⟨⟨line ++ ['\r'], oneLine_append.mpr ⟨single, by decide⟩, by simp⟩, ?_⟩
  have longer : 2 < (line ++ "\r\n".toList).length := by
    have length : 0 < line.length := length_pos_iff.mpr filled
    rw [length_append]
    exact Nat.lt_add_of_pos_left length
  rintro (same | same)
  · rw [same] at longer
    exact absurd longer (by decide)
  · rw [same] at longer
    exact absurd longer (by decide)

theorem isBlock_crlfLines {lines : List Str} (valid : HeaderLines lines) :
    IsBlock (crlfLines lines ++ "\r\n".toList) := by
  refine ⟨lines.map (· ++ "\r\n".toList), "\r\n".toList, ?_, .inl rfl, ?_⟩
  · intro line member
    obtain ⟨content, listed, rfl⟩ := mem_map.mp member
    exact isLine_crlf (valid.single content listed) (valid.filled content listed)
  · rw [crlfLines, flatMap_def]

theorem Framed.headerLines (framed : Framed platform) :
    HeaderLines (framed.firstLine :: framed.headers) where
  single := forall_mem_cons.mpr ⟨framed.single, framed.further.single⟩
  filled := forall_mem_cons.mpr
    ⟨fun empty => framed.named (by rw [empty]; rfl), framed.further.filled⟩

/-- A call on a stream that starts with a message returns it and leaves what follows. -/
theorem Framed.consume (framed : Framed platform) (rest : List UInt8) :
    fresh.consume platform (framed.bytes ++ rest) = .done (.message framed.text) rest := by
  have filled : trim (crlfLines (framed.firstLine :: framed.headers) ++ "\r\n".toList) ≠ [] := by
    intro empty
    refine framed.named (trim_eq_nil_iff.mpr fun char member => ?_)
    exact trim_eq_nil_iff.mp empty char (by simp [crlfLines, member])
  have skipped : crlfLines (replicate framed.keepAlives []) =
      (replicate framed.keepAlives "\r\n".toList).flatten := by
    rw [crlfLines, flatMap_def, map_replicate]
    rfl
  have size : (encode framed.body).length = byteLength framed.body := length_encode _
  rw [bytes, encode_append, skipped, append_assoc,
    consume_skipped fun block member => eq_of_mem_replicate member ▸ isBlank_crlf, text,
    messageText, encode_append, append_assoc,
    consume_block (isBlock_crlfLines framed.headerLines),
    resume_headersDone filled (size.trans framed.length) (size.trans_lt framed.fits),
    fromUtf8Lossy_encode]

/-- Calls on a stream of messages return these messages and then `None`, however the bytes are split
into reads. -/
theorem calls_framed (messages : List (Framed platform)) (source : Source)
    (sent : source.bytes = messages.flatMap Framed.bytes) :
    calls platform (messages.length + 1) source =
      messages.map (fun framed => .message framed.text) ++ [.closed] := by
  induction messages generalizing source with
  | nil =>
    obtain ⟨outcome, -⟩ := @readNextSipMessage_eq platform source
    rw [sent] at outcome
    rw [List.length_nil, calls_succ, outcome]
    rfl
  | cons framed messages ih =>
    obtain ⟨outcome, left⟩ := @readNextSipMessage_eq platform source
    rw [sent, List.flatMap_cons, framed.consume] at outcome left
    rw [List.length_cons, calls_succ, outcome, ih _ left]
    rfl

/-- Two messages, the first with a body and after a keep-alive line, in three reads. -/
theorem calls_framed_two :
    let platform : Platform := .ascii fun _ => none
    let source : Source := ⟨[], [⟨Str.encode "\r\nA\r\nl: 2\r".toList, by decide⟩,
      ⟨Str.encode "\n\r\nhiB\r".toList, by decide⟩, ⟨Str.encode "\n\r\n".toList, by decide⟩]⟩
    calls platform 3 source =
      [.message "A\r\nl: 2\r\n\r\nhi".toList, .message "B\r\n\r\n".toList, .closed] := by
  intro platform source
  let first : Framed platform := ⟨1, "A".toList, ["l: 2".toList], "hi".toList, by decide, by decide,
    by decide, by decide +kernel, by decide⟩
  let second : Framed platform := ⟨0, "B".toList, [], [], by decide, by decide, by decide,
    by decide +kernel, by decide⟩
  exact calls_framed [first, second] source (by decide +kernel)

/-- The uninterrupted reader of a connection takes a message as one call does. -/
theorem Progress.foldl_take_message {reader : Reader} {bytes : List UInt8} (delivered : List Str)
    (read : reader.consume platform bytes = .done (.message raw) rest) :
    bytes.foldl (Progress.take platform) ⟨reader, delivered, none⟩ =
      rest.foldl (Progress.take platform) ⟨.fresh, delivered ++ [raw], none⟩ := by
  induction bytes generalizing reader with
  | nil => cases read
  | cons byte bytes ih =>
    rw [consume_cons] at read
    rw [foldl_cons, Progress.take, if_pos rfl]
    cases fed : reader.feed platform byte with
    | pending next =>
      rw [fed] at read
      exact ih read
    | message text =>
      rw [fed] at read
      obtain ⟨same, rfl⟩ := Consumed.done.inj read
      rw [Outcome.message.inj same]
    | stop ending =>
      rw [fed] at read
      cases ending <;> cases (Consumed.done.inj read).1

theorem frames_framed (messages : List (Framed platform)) :
    frames platform (messages.flatMap Framed.bytes) = messages.map Framed.text := by
  have run : ∀ delivered, ((messages.flatMap Framed.bytes).foldl (Progress.take platform)
      ⟨.fresh, delivered, none⟩).delivered = delivered ++ messages.map Framed.text := by
    induction messages with
    | nil => exact fun delivered => (append_nil delivered).symm
    | cons framed messages ih =>
      intro delivered
      rw [flatMap_cons, Progress.foldl_take_message delivered (framed.consume _), ih,
        map_cons, append_assoc, singleton_append]
  exact run []

/-- A connection that is undisturbed and has read all bytes of a stream of messages has delivered
these messages. -/
theorem delivered_framed {turns : List Turn} (undisturbed : Undisturbed platform turns)
    (drained : (run platform turns).Drained) (messages : List (Framed platform))
    (arrived : (run platform turns).arrived = messages.flatMap Framed.bytes) :
    (run platform turns).delivered = messages.map Framed.text := by
  rw [delivered_eq_frames undisturbed drained, arrived, frames_framed]

/-- A request in two pieces, with outbound messages before and after it. -/
theorem delivered_framed_options :
    let turns : List Turn := [.outbound [], .arrive optionsStart, .poll, .arrive optionsEnd, .poll,
      .outbound []]
    (run (.ascii fun _ => none) turns).delivered = ["OPTIONS sip:a SIP/2.0\r\n\r\n".toList] := by
  intro turns
  have undisturbed : Undisturbed (.ascii fun _ => none) turns :=
    ⟨rfl, trivial, trivial, trivial, trivial, by decide +kernel, trivial⟩
  exact delivered_framed undisturbed (by decide +kernel) [⟨0, "OPTIONS sip:a SIP/2.0".toList, [],
    [], by decide, by decide, by decide, by decide +kernel, by decide⟩] (by decide +kernel)

end Messages

section Memory

variable {limit : Nat} {bytes : List UInt8} {block : Str}

/-- The body buffer that a waiting call has allocated is longer by at most `limit` than what has
arrived for it, and a call that is done has not panicked. -/
def Consumed.Within (limit : Nat) : Consumed → Prop
  | .pending (.headers _ _) => True
  | .pending (.body _ contentLength got) => contentLength ≤ got.length + limit
  | .done outcome _ => outcome ≠ .panicked

instance (limit : Nat) : (consumed : Consumed) → Decidable (consumed.Within limit)
  | .pending (.headers _ _) => .isTrue trivial
  | .pending (.body _ contentLength got) =>
    inferInstanceAs (Decidable (contentLength ≤ got.length + limit))
  | .done outcome _ => inferInstanceAs (Decidable (outcome ≠ .panicked))

/-- At every moment of a call on a stream, its memory is bounded. -/
def BoundedMemory (platform : Platform) (limit : Nat) (bytes : List UInt8) : Prop :=
  ∀ front, front <+: bytes → (Reader.fresh.consume platform front).Within limit

instance (platform : Platform) (limit : Nat) (bytes : List UInt8) :
    Decidable (BoundedMemory platform limit bytes) :=
  decidable_of_iff (∀ front ∈ bytes.inits, (Reader.fresh.consume platform front).Within limit)
    (forall_congr' fun _ => imp_congr_left (List.mem_inits _ _))

/-- The header block that a call finds in a stream: the first one that is not blank. -/
def FindsBlock (bytes : List UInt8) (block : Str) (rest : List UInt8) : Prop :=
  ∃ skipped : List Str, (∀ other ∈ skipped, IsBlank other) ∧ IsBlock block ∧ Str.trim block ≠ [] ∧
    bytes = Str.encode (skipped.flatten ++ block) ++ rest

/-- That block declares a body of at most `limit` bytes. -/
def DeclaresAtMost (platform : Platform) (limit : Nat) (bytes : List UInt8) : Prop :=
  ∀ block rest, FindsBlock bytes block rest → extractContentLength platform block ≤ limit

theorem FindsBlock.consume (found : FindsBlock bytes block rest) :
    fresh.consume platform bytes = (headersDone platform block).resume platform rest := by
  obtain ⟨skipped, blank, valid, -, rfl⟩ := found
  rw [encode_append, append_assoc, consume_skipped blank, consume_block valid]

theorem findsBlock_encode (valid : IsBlock block) (filled : trim block ≠ []) :
    FindsBlock (encode block) block [] :=
  ⟨[], forall_mem_nil _, valid, filled, (append_nil _).symm⟩

theorem FindsBlock.append (found : FindsBlock bytes block rest) (more : List UInt8) :
    FindsBlock (bytes ++ more) block (rest ++ more) := by
  obtain ⟨skipped, blank, valid, filled, rfl⟩ := found
  exact ⟨skipped, blank, valid, filled, append_assoc _ _ _⟩

/-- Where a call stands after some bytes. -/
def Stands (platform : Platform) (bytes : List UInt8) : Consumed → Prop
  | .pending (.headers raw line) => ∃ skipped lines : List Str,
      (∀ other ∈ skipped, IsBlank other) ∧ (∀ line ∈ lines, IsLine line ∧ ¬ EndsHeaders line) ∧
        raw = lines.flatten ∧ 0x0A ∉ line ∧
          bytes = Str.encode (skipped.flatten ++ raw) ++ line
  | .pending (.body raw contentLength got) =>
    FindsBlock bytes raw got ∧ contentLength = extractContentLength platform raw
  | .done .panicked rest =>
    ∃ block, FindsBlock bytes block rest ∧ 2 ^ 63 ≤ extractContentLength platform block
  | .done _ _ => True

/-- The end of a header block: it is skipped, or the block that the call finds. -/
theorem stands_headersDone {skipped : List Str} (blank : ∀ other ∈ skipped, IsBlank other)
    (valid : IsBlock block) (whole : bytes = encode (skipped.flatten ++ block)) :
    Stands platform bytes ((headersDone platform block).resume platform []) := by
  rw [headersDone]
  by_cases empty : trim block = []
  · rw [if_pos empty]
    refine ⟨skipped ++ [block], [], ?_, forall_mem_nil _, rfl, not_mem_nil, ?_⟩
    · exact forall_mem_append.mpr ⟨blank, forall_mem_singleton.mpr ⟨valid, empty⟩⟩
    · rw [whole, flatten_append, flatten_singleton, append_nil, append_nil]
  · have found : FindsBlock bytes block [] :=
      ⟨skipped, blank, valid, empty, whole.trans (append_nil _).symm⟩
    rw [if_neg empty]
    dsimp only
    split
    · next large => exact ⟨block, found, large⟩
    · split
      · exact trivial
      · exact ⟨found, rfl⟩

theorem Stands.feed {reader : Reader} (stands : Stands platform bytes (.pending reader)) (byte : UInt8) :
    Stands platform (bytes ++ [byte]) ((reader.feed platform byte).resume platform []) := by
  cases reader with
  | headers raw line =>
    obtain ⟨skipped, lines, blank, valid, rfl, single, rfl⟩ := stands
    by_cases ends : byte = 0x0A
    · subst ends
      cases read : fromUtf8 (line ++ [0x0A]) with
      | none =>
        rw [Reader.feed, if_pos rfl, read]
        exact trivial
      | some text =>
        have encoded := fromUtf8_eq_some.mp read
        have isLine := isLine_of_encode single encoded
        have whole : encode (skipped.flatten ++ lines.flatten) ++ line ++ [0x0A] =
            encode (skipped.flatten ++ (lines.flatten ++ text)) := by
          rw [append_assoc, encoded, ← encode_append, append_assoc]
        rw [whole, feed_lineFeed read]
        by_cases last : EndsHeaders text
        · rw [if_pos last]
          exact stands_headersDone blank ⟨lines, text, valid, last, rfl⟩ rfl
        · rw [if_neg last]
          refine ⟨skipped, lines ++ [text], blank, ?_, ?_, not_mem_nil,
            (append_nil _).symm⟩
          · exact forall_mem_append.mpr ⟨valid, forall_mem_singleton.mpr ⟨isLine, last⟩⟩
          · rw [flatten_append, flatten_singleton]
    · rw [feed_other line ends]
      refine ⟨skipped, lines, blank, valid, rfl, ?_, append_assoc _ _ _⟩
      exact fun member => (mem_append.mp member).elim single fun same =>
        ends (mem_singleton.mp same).symm
  | body raw contentLength got =>
    obtain ⟨found, length⟩ := stands
    rw [Reader.feed]
    split
    · exact trivial
    · exact ⟨found.append [byte], length⟩

theorem stands_consume (bytes : List UInt8) :
    Stands platform bytes (fresh.consume platform bytes) := by
  induction bytes using reverseRecOn with
  | nil => exact ⟨[], [], forall_mem_nil _, forall_mem_nil _, rfl, not_mem_nil, rfl⟩
  | append_singleton bytes byte ih =>
    rw [consume_append]
    cases consumed : fresh.consume platform bytes with
    | pending reader =>
      rw [consumed] at ih
      rw [Consumed.more, consume_cons]
      exact ih.feed byte
    | done outcome rest =>
      rw [consumed] at ih
      cases outcome with
      | panicked =>
        obtain ⟨block, found, large⟩ := ih
        exact ⟨block, found.append [byte], large⟩
      | message raw => exact trivial
      | closed => exact trivial
      | failed => exact trivial

/-- The bound holds for the declared length, as nothing of the body has arrived when the buffer is
allocated. -/
theorem BoundedMemory.declared_le (bounded : BoundedMemory platform limit bytes)
    (found : FindsBlock bytes block rest) : extractContentLength platform block ≤ limit := by
  obtain ⟨skipped, blank, valid, filled, rfl⟩ := found
  have here : FindsBlock (encode (skipped.flatten ++ block)) block [] :=
    ⟨skipped, blank, valid, filled, (append_nil _).symm⟩
  have within := bounded _ (prefix_append _ rest)
  rw [here.consume, headersDone, if_neg filled] at within
  dsimp only at within
  split at within
  · exact absurd rfl within
  · split at within
    · next zero => exact zero ▸ Nat.zero_le limit
    · exact within.trans_eq (Nat.zero_add limit)

theorem BoundedMemory.not_panicked (bounded : BoundedMemory platform limit bytes) :
    fresh.consume platform bytes ≠ .done .panicked rest := by
  intro panics
  have within := bounded bytes prefix_rfl
  rw [panics] at within
  exact within rfl

/-- The memory of a call is bounded exactly on the streams whose header block declares no more. -/
theorem boundedMemory_iff (platform : Platform) (bytes : List UInt8) (fits : limit < 2 ^ 63) :
    BoundedMemory platform limit bytes ↔ DeclaresAtMost platform limit bytes := by
  constructor
  · exact fun bounded block rest found => bounded.declared_le found
  · intro declared front part
    obtain ⟨more, rfl⟩ := part
    have stands := @stands_consume platform front
    cases consumed : Reader.fresh.consume platform front with
    | pending reader =>
      rw [consumed] at stands
      cases reader with
      | headers raw line => exact trivial
      | body raw contentLength got =>
        obtain ⟨found, rfl⟩ := stands
        have small := declared raw _ (found.append more)
        exact small.trans (Nat.le_add_left limit got.length)
    | done outcome rest =>
      rintro rfl
      rw [consumed] at stands
      obtain ⟨block, found, large⟩ := stands
      have small := declared block _ (found.append more)
      omega

/-- A message with a body of two bytes. -/
theorem boundedMemory_iff_small :
    let bytes := Str.encode "A\r\nl: 2\r\n\r\nhi".toList
    BoundedMemory (.ascii fun _ => none) 2 bytes ∧ DeclaresAtMost (.ascii fun _ => none) 2 bytes := by
  intro bytes
  have bounded : BoundedMemory (.ascii fun _ => none) 2 bytes := by decide +kernel
  exact ⟨bounded, (boundedMemory_iff _ bytes (by decide)).mp bounded⟩

/-- A declared length alone makes a call panic, or allocate nearly half of the address space. -/
theorem not_boundedMemory_declared :
    (∀ limit, ¬ BoundedMemory (.ascii fun _ => none) limit
      (Str.encode "A\r\nl: 9223372036854775808\r\n\r\n".toList)) ∧
    ∀ limit, limit < 9223372036854775807 → ¬ BoundedMemory (.ascii fun _ => none) limit
      (Str.encode "A\r\nl: 9223372036854775807\r\n\r\n".toList) := by
  constructor
  · intro limit bounded
    have panics : Reader.fresh.consume (.ascii fun _ => none)
        (Str.encode "A\r\nl: 9223372036854775808\r\n\r\n".toList) = .done .panicked [] := by
      decide +kernel
    exact bounded.not_panicked panics
  · intro limit small bounded
    have lines : HeaderLines ["A".toList, "l: 9223372036854775807".toList] := by decide
    have length : extractContentLength (.ascii fun _ => none)
        "A\r\nl: 9223372036854775807\r\n\r\n".toList = 9223372036854775807 := by decide +kernel
    have declared := bounded.declared_le (findsBlock_encode (isBlock_crlfLines lines) (by decide))
    rw [length] at declared
    omega

end Memory

end Sip3.TlsPump
