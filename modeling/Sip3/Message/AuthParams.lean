import Sip3.Message
import Sip3.Text.Tokens

/-!
# Credential parameters

`parse_auth_params` walks over the bytes of an `Authorization` value with a
cursor and slices the text at the positions where its loops stop. The model
keeps the byte cursor, so a slice can fail as it does in Rust.

What the loops do is described a second time, on characters, by `Lexing`: a
finite automaton that says in which part of a parameter list a text ends. Parsing
panics for exactly the texts that end right after a backslash that has nothing
to escape.
-/

namespace Sip3

open Text Str List

namespace AuthParams

/-- The parameters by lower-case name. -/
abbrev Params := AList fun _ : Str => Str

/-- How the parser can fail to return: a slice panics, or the loop is not done
within its bound. -/
inductive Failure where
  | panicked
  | unfinished
  deriving DecidableEq

/-- The byte of an ASCII character, as in `b','`. -/
def byteOf (char : Char) : UInt8 :=
  UInt8.ofNat char.toNat

/-- `while pos < len && keep(bytes[pos]) { pos += 1 }` over the bytes from `pos`. -/
def skipWhile (keep : UInt8 → Bool) : List UInt8 → Nat → Nat
  | [], pos => pos
  | byte :: rest, pos => if keep byte then skipWhile keep rest (pos + 1) else pos

/-- The loop over a quoted value, up to the closing quote. A backslash moves the
cursor over the next byte unread; the flag says that this is due, and it happens
even when there is no next byte. -/
def closeQuote : Bool → List UInt8 → Nat → Nat
  | false, [], pos => pos
  | true, [], pos => pos + 1
  | true, _ :: rest, pos => closeQuote false rest (pos + 1)
  | false, byte :: rest, pos =>
    if byte = byteOf '"' then pos else closeQuote (byte = byteOf '\\') rest (pos + 1)

/-- The bytes between two parameters. -/
def isSeparator (byte : UInt8) : Bool :=
  byte = byteOf ',' || byte = byteOf ' ' || byte = byteOf '\t'

/-- The value at byte `value`, after an equals sign, and the loop after it. -/
def readValue (rest key : Str) (value : Nat) (params : Params)
    (next : Nat → Params → Except Failure Params) : Except Failure Params :=
  let bytes := Str.encode rest
  let len := bytes.length
  if bytes[value]? = some (byteOf '"') then
    let start := value + 1
    let close := closeQuote false (bytes.drop start) start
    match Str.slice rest start close with
    | none => .error .panicked
    | some text => next (if close < len then close + 1 else close) (params.insert key text)
  else
    let stop := skipWhile (· ≠ byteOf ',') (bytes.drop value) value
    match Str.slice rest value stop with
    | none => .error .panicked
    | some text => next stop (params.insert key (Str.trim text))

/-- The main loop, from byte `pos` on. -/
def loop (platform : Platform) (rest : Str) : Nat → Nat → Params → Except Failure Params
  | 0, _, _ => .error .unfinished
  | fuel + 1, pos, params =>
    let bytes := Str.encode rest
    let len := bytes.length
    if pos < len then
      let keyStart := skipWhile isSeparator (bytes.drop pos) pos
      if len ≤ keyStart then .ok params
      else
        let equals := skipWhile (· ≠ byteOf '=') (bytes.drop keyStart) keyStart
        if len ≤ equals then .ok params
        else
          match Str.slice rest keyStart equals with
          | none => .error .panicked
          | some name =>
            let key := platform.toLowercase (Str.trim name)
            readValue rest key (equals + 1) params (loop platform rest fuel)
    else .ok params

end AuthParams

/-- `parse_auth_params`. The bound on the loop is one more than the number of
bytes, since every round consumes at least one. -/
def parseAuthParams (platform : Platform) (header : Str) :
    Except AuthParams.Failure AuthParams.Params :=
  match Str.find ' ' header with
  | none => .ok ∅
  | some space =>
    match Str.slice header (space + 1) (Str.byteLength header) with
    | none => .error .panicked
    | some after =>
      let rest := Str.trim after
      AuthParams.loop platform rest (Str.byteLength rest + 1) 0 ∅

namespace AuthParams

/-- The characters between two parameters. -/
def isSeparatorChar (char : Char) : Bool :=
  char = ',' || char = ' ' || char = '\t'

/-- Where in a parameter list a text ends. -/
inductive Lexing where
  | separator
  | key
  | valueStart
  | quoted
  | escaped
  | unquoted
  deriving DecidableEq

/-- The part of the list reached with one more character. -/
def Lexing.next : Lexing → Char → Lexing
  | .separator, char =>
    if isSeparatorChar char then .separator
    else if char = '=' then .valueStart
    else .key
  | .key, char => if char = '=' then .valueStart else .key
  | .valueStart, char =>
    if char = '"' then .quoted else if char = ',' then .separator else .unquoted
  | .quoted, char =>
    if char = '"' then .separator else if char = '\\' then .escaped else .quoted
  | .escaped, _ => .quoted
  | .unquoted, char => if char = ',' then .separator else .unquoted

/-- The part of the list in which a text ends. -/
def Lexing.scan (lexing : Lexing) (text : Str) : Lexing :=
  text.foldl Lexing.next lexing

/-- The parameters of a credential end inside a quoted value, right after a
backslash with nothing to escape. -/
def EndsInEscape (header : Str) : Prop :=
  match Str.splitOnce ' ' header with
  | none => False
  | some (_, after) => Lexing.scan .separator (Str.trim after) = .escaped

instance (header : Str) : Decidable (EndsInEscape header) := by
  unfold EndsInEscape
  cases Str.splitOnce ' ' header with
  | none => exact inferInstanceAs (Decidable False)
  | some parts => exact inferInstanceAs (Decidable (Lexing.scan _ _ = _))

section Scan

variable (lexing : Lexing)

@[simp] theorem scan_nil : lexing.scan [] = lexing := rfl

@[simp] theorem scan_cons (char : Char) (rest : Str) :
    lexing.scan (char :: rest) = (lexing.next char).scan rest := rfl

theorem scan_append (left right : Str) :
    lexing.scan (left ++ right) = (lexing.scan left).scan right :=
  foldl_append

theorem scan_of_all {lexing : Lexing} {text : Str}
    (stays : ∀ char ∈ text, lexing.next char = lexing) : lexing.scan text = lexing := by
  induction text with
  | nil => rfl
  | cons char rest ih =>
    rw [scan_cons, stays char mem_cons_self]
    exact ih fun other member => stays other (mem_cons_of_mem _ member)

end Scan

section Bytes

/-- Bytes of ASCII characters are as different as the characters. -/
theorem byteOf_eq_iff {left right : Char} (leftAscii : left.toNat < 128)
    (rightAscii : right.toNat < 128) : byteOf left = byteOf right ↔ left = right := by
  constructor
  · intro same
    have codes := congrArg UInt8.toNat same
    simp only [byteOf, UInt8.toNat_ofNat'] at codes
    rw [Nat.mod_eq_of_lt (by omega), Nat.mod_eq_of_lt (by omega)] at codes
    exact Char.toNat_inj.mp codes
  · exact congrArg byteOf

variable {char : Char} {keep : UInt8 → Bool} {bytes : List UInt8} {more : List UInt8}

/-- A byte of a longer encoding is not the byte of an ASCII character. -/
theorem ne_byteOf_of_high {byte : UInt8} (high : 128 ≤ byte.toNat) (ascii : char.toNat < 128) :
    byte ≠ byteOf char := by
  rintro rfl
  simp only [byteOf, UInt8.toNat_ofNat'] at high
  omega

theorem skipWhile_append (kept : ∀ byte ∈ bytes, keep byte = true) (tail : List UInt8) (pos : Nat) :
    skipWhile keep (bytes ++ tail) pos = skipWhile keep tail (pos + bytes.length) := by
  induction bytes generalizing pos with
  | nil => rfl
  | cons byte rest ih =>
    have keepRest := ih (fun other member => kept other (mem_cons_of_mem _ member)) (pos + 1)
    simp only [cons_append, skipWhile, kept byte mem_cons_self, if_true, keepRest,
      length_cons]
    congr 1
    omega

/-- A character is encoded in at least one byte. -/
theorem exists_utf8EncodeChar_cons (char : Char) :
    ∃ lead more, String.utf8EncodeChar char = lead :: more := by
  refine exists_cons_of_ne_nil fun empty => ?_
  have length := String.length_utf8EncodeChar char
  have positive := Char.utf8Size_pos char
  rw [empty, length_nil] at length
  omega

/-- A byte loop over an encoded text stops where the corresponding character loop
does, if it treats all longer encodings alike. -/
theorem skipWhile_encode {keepChar : Char → Bool} (stay : Bool)
    (ascii : ∀ char : Char, char.toNat < 128 → keep (byteOf char) = keepChar char)
    (highByte : ∀ byte : UInt8, 128 ≤ byte.toNat → keep byte = stay)
    (highChar : ∀ char : Char, ¬ char.toNat < 128 → keepChar char = stay) (text : Str) (pos : Nat) :
    skipWhile keep (encode text) pos = pos + byteLength (text.takeWhile keepChar) := by
  induction text generalizing pos with
  | nil => rfl
  | cons char rest ih =>
    rw [encode_cons]
    have alike : ∀ byte ∈ String.utf8EncodeChar char, keep byte = keepChar char := by
      intro byte member
      by_cases small : char.toNat < 128
      · rw [utf8EncodeChar_ascii small, mem_singleton] at member
        subst member
        exact ascii char small
      · rw [highByte byte (utf8EncodeChar_high small member), highChar char small]
    cases kept : keepChar char with
    | true =>
      rw [skipWhile_append fun byte member => (alike byte member).trans kept, ih,
        String.length_utf8EncodeChar, takeWhile_cons_of_pos kept, byteLength]
      omega
    | false =>
      obtain ⟨byte, more, encoding⟩ := exists_utf8EncodeChar_cons char
      have stop := (alike byte (by simp [encoding])).trans kept
      rw [takeWhile_cons_of_neg (by simp [kept]), encoding]
      simp [skipWhile, stop, byteLength]

/-- Bytes that are neither a quote nor a backslash are skipped in a quoted value. -/
theorem closeQuote_append (plain : ∀ byte ∈ bytes, byte ≠ byteOf '"' ∧ byte ≠ byteOf '\\')
    (tail : List UInt8) (pos : Nat) :
    closeQuote false (bytes ++ tail) pos = closeQuote false tail (pos + bytes.length) := by
  induction bytes generalizing pos with
  | nil => rfl
  | cons byte rest ih =>
    obtain ⟨notQuote, notBackslash⟩ := plain byte mem_cons_self
    have skipped := ih (fun other member => plain other (mem_cons_of_mem _ member)) (pos + 1)
    simp only [cons_append, closeQuote, if_neg notQuote, decide_eq_false notBackslash,
      skipped, length_cons]
    congr 1
    omega

/-- The bytes after the first one of an encoded character are no quote and no
backslash. -/
theorem plain_of_mem_tail {lead byte : UInt8}
    (encoding : String.utf8EncodeChar char = lead :: more) (member : byte ∈ more) :
    byte ≠ byteOf '"' ∧ byte ≠ byteOf '\\' := by
  by_cases small : char.toNat < 128
  · rw [utf8EncodeChar_ascii small] at encoding
    obtain ⟨_, rfl⟩ := cons.inj encoding
    exact absurd member not_mem_nil
  · have high := utf8EncodeChar_high small (encoding ▸ mem_cons_of_mem lead member)
    exact ⟨ne_byteOf_of_high high (by decide), ne_byteOf_of_high high (by decide)⟩

/-- The first byte of an encoded character is that of an ASCII character only for
that character. -/
theorem lead_eq_byteOf_iff {char ascii : Char} {lead : UInt8}
    (encoding : String.utf8EncodeChar char = lead :: more) (small : ascii.toNat < 128) :
    lead = byteOf ascii ↔ char = ascii := by
  by_cases charSmall : char.toNat < 128
  · rw [utf8EncodeChar_ascii charSmall] at encoding
    obtain ⟨rfl, _⟩ := cons.inj encoding
    exact byteOf_eq_iff charSmall small
  · have high := utf8EncodeChar_high charSmall (encoding ▸ mem_cons_self)
    constructor
    · exact fun same => absurd same (ne_byteOf_of_high high small)
    · rintro rfl
      exact absurd small charSmall

/-- The quoted-value loop takes an encoded character as a whole. -/
theorem closeQuote_char (escaped : Bool) (char : Char) (tail : List UInt8) (pos : Nat) :
    closeQuote escaped (String.utf8EncodeChar char ++ tail) pos =
      if escaped = false ∧ char = '"' then pos
      else closeQuote (!escaped && char = '\\') tail (pos + char.utf8Size) := by
  have length := String.length_utf8EncodeChar char
  obtain ⟨lead, more, encoding⟩ := exists_utf8EncodeChar_cons char
  rw [encoding, length_cons] at length
  rw [encoding]
  have skipMore : closeQuote false (more ++ tail) (pos + 1) =
      closeQuote false tail (pos + char.utf8Size) := by
    rw [closeQuote_append fun byte member => plain_of_mem_tail encoding member]
    congr 1
    omega
  cases escaped with
  | true => simpa [closeQuote] using skipMore
  | false =>
    by_cases quote : char = '"'
    · have same : lead = byteOf '"' := (lead_eq_byteOf_iff encoding (by decide)).mpr quote
      simp [closeQuote, same, quote]
    · have notQuote : lead ≠ byteOf '"' :=
        fun same => quote ((lead_eq_byteOf_iff encoding (by decide)).mp same)
      by_cases backslash : char = '\\'
      · have same : lead = byteOf '\\' :=
          (lead_eq_byteOf_iff encoding (by decide)).mpr backslash
        subst backslash
        -- A backslash is a single byte, so nothing is left of its encoding.
        have single : more = [] := by
          have ascii := utf8EncodeChar_ascii (show ('\\' : Char).toNat < 128 by decide)
          exact (cons.inj (encoding.symm.trans ascii)).2
        have size : ('\\' : Char).utf8Size = 1 := by decide
        rw [same] at notQuote
        simp [closeQuote, notQuote, same, single, quote, size]
      · have notBackslash : lead ≠ byteOf '\\' :=
          fun same => backslash ((lead_eq_byteOf_iff encoding (by decide)).mp same)
        simpa [closeQuote, notQuote, notBackslash, quote, backslash] using skipMore

end Bytes

/-- The part of a quoted value in which the loop stands. -/
def Lexing.ofEscaped (escaped : Bool) : Lexing :=
  if escaped then .escaped else .quoted

/-- How the loop over a quoted value ends: at a closing quote, at the end of the
text, or one byte past it. -/
theorem closeQuote_encode (escaped : Bool) (text : Str) (pos : Nat) :
    (∃ value more, text = value ++ '"' :: more ∧
      (Lexing.ofEscaped escaped).scan value = .quoted ∧
      closeQuote escaped (encode text) pos = pos + byteLength value) ∨
    ((Lexing.ofEscaped escaped).scan text = .quoted ∧
      closeQuote escaped (encode text) pos = pos + byteLength text) ∨
    ((Lexing.ofEscaped escaped).scan text = .escaped ∧
      closeQuote escaped (encode text) pos = pos + byteLength text + 1) := by
  induction text generalizing escaped pos with
  | nil =>
    cases escaped with
    | false => exact .inr (.inl ⟨rfl, rfl⟩)
    | true => exact .inr (.inr ⟨rfl, rfl⟩)
  | cons char rest ih =>
    rw [encode_cons, closeQuote_char]
    by_cases closes : escaped = false ∧ char = '"'
    · rw [if_pos closes]
      obtain ⟨rfl, rfl⟩ := closes
      exact .inl ⟨[], rest, rfl, rfl, rfl⟩
    · rw [if_neg closes]
      have next : (Lexing.ofEscaped escaped).next char =
          Lexing.ofEscaped (!escaped && char = '\\') := by
        cases escaped with
        | true => rfl
        | false =>
          have notQuote : char ≠ '"' := fun same => closes ⟨rfl, same⟩
          by_cases backslash : char = '\\' <;>
            simp [Lexing.ofEscaped, Lexing.next, notQuote, backslash]
      simp only [scan_cons, next, byteLength]
      rcases ih (!escaped && char = '\\') (pos + char.utf8Size) with
        ⟨value, more, rfl, inside, stop⟩ | ⟨inside, stop⟩ | ⟨inside, stop⟩
      · refine .inl ⟨char :: value, more, rfl, ?_, ?_⟩
        · rw [scan_cons, next, inside]
        · rw [stop, byteLength, Nat.add_assoc]
      · exact .inr (.inl ⟨inside, by rw [stop, Nat.add_assoc]⟩)
      · exact .inr (.inr ⟨inside, by rw [stop]; omega⟩)

theorem drop_encode (done todo : Str) :
    (encode (done ++ todo)).drop (byteLength done) = encode todo := by
  rw [encode_append, ← length_encode, drop_left]

theorem skip_separators (todo : Str) (pos : Nat) :
    skipWhile isSeparator (encode todo) pos = pos + byteLength
      (todo.takeWhile isSeparatorChar) := by
  refine skipWhile_encode false ?_ ?_ ?_ todo pos
  · intro char small
    simp only [isSeparator, isSeparatorChar, byteOf_eq_iff small (show (',' : Char).toNat < 128 by decide),
      byteOf_eq_iff small (show (' ' : Char).toNat < 128 by decide),
      byteOf_eq_iff small (show ('\t' : Char).toNat < 128 by decide)]
  · intro byte high
    simp [isSeparator, ne_byteOf_of_high high (show (',' : Char).toNat < 128 by decide),
      ne_byteOf_of_high high (show (' ' : Char).toNat < 128 by decide),
      ne_byteOf_of_high high (show ('\t' : Char).toNat < 128 by decide)]
  · intro char large
    have notComma : char ≠ ',' := by rintro rfl; exact large (by decide)
    have notSpace : char ≠ ' ' := by rintro rfl; exact large (by decide)
    have notTab : char ≠ '\t' := by rintro rfl; exact large (by decide)
    simp [isSeparatorChar, notComma, notSpace, notTab]

/-- The characters before the next occurrence of an ASCII character. -/
theorem skip_until {stop : Char} (small : stop.toNat < 128) (todo : Str) (pos : Nat) :
    skipWhile (· ≠ byteOf stop) (encode todo) pos =
      pos + byteLength (todo.takeWhile (· ≠ stop)) := by
  refine skipWhile_encode true ?_ ?_ ?_ todo pos
  · intro char charSmall
    simp [byteOf_eq_iff charSmall small]
  · intro byte high
    simp [ne_byteOf_of_high high small]
  · intro char large
    have different : char ≠ stop := by rintro rfl; exact large small
    simp [different]

/-- Characters up to the next equals sign lead to the start of a value. -/
theorem scan_key {name : Str} (noEquals : ∀ char ∈ name, char ≠ '=')
    (notSeparator : ∀ char ∈ name.head?, isSeparatorChar char = false) (rest : Str) :
    Lexing.separator.scan (name ++ '=' :: rest) = Lexing.valueStart.scan rest := by
  cases name with
  | nil => rfl
  | cons char more =>
    have first : Lexing.separator.next char = .key := by
      rw [Lexing.next, if_neg (by simp [notSeparator char rfl]), if_neg (noEquals char mem_cons_self)]
    have others : Lexing.key.scan more = .key := scan_of_all fun other member => by
      rw [Lexing.next, if_neg (noEquals other (mem_cons_of_mem _ member))]
    rw [cons_append, scan_cons, first, scan_append, others]
    rfl

/-- An unquoted value ends at a comma or with the text, and never in an escape. -/
theorem scan_unquoted {value rest : Str} (noComma : ∀ char ∈ value, char ≠ ',')
    (notQuoted : ∀ char ∈ value.head?, char ≠ '"') (atComma : ∀ char ∈ rest.head?, char = ',') :
    Lexing.valueStart.scan (value ++ rest) = .escaped ↔ Lexing.separator.scan rest = .escaped := by
  have atEnd : ∀ lexing : Lexing, lexing = .valueStart ∨ lexing = .unquoted →
      (lexing.scan rest = .escaped ↔ Lexing.separator.scan rest = .escaped) := by
    intro lexing start
    cases rest with
    | nil => rcases start with rfl | rfl <;> simp
    | cons char more =>
      obtain rfl : char = ',' := atComma char rfl
      rcases start with rfl | rfl <;> rfl
  cases value with
  | nil => exact atEnd .valueStart (.inl rfl)
  | cons char more =>
    have first : Lexing.valueStart.next char = .unquoted := by
      rw [Lexing.next, if_neg (notQuoted char rfl), if_neg (noComma char mem_cons_self)]
    have others : Lexing.unquoted.scan more = .unquoted := scan_of_all fun other member => by
      rw [Lexing.next, if_neg (noComma other (mem_cons_of_mem _ member))]
    rw [cons_append, scan_cons, first, scan_append, others]
    exact atEnd .unquoted (.inr rfl)

/-- What the loop returns from a character boundary on. -/
def Settles (result : Except Failure Params) (lexing : Lexing) : Prop :=
  (lexing = .escaped ∧ result = .error .panicked) ∨
    (lexing ≠ .escaped ∧ ∃ params, result = .ok params)

theorem takeWhile_separators {seps body : Str}
    (separators : ∀ char ∈ seps, isSeparatorChar char = true)
    (notSeparator : ∀ char ∈ body.head?, isSeparatorChar char = false) :
    (seps ++ body).takeWhile isSeparatorChar = seps := by
  rw [takeWhile_append_of_pos separators]
  cases body with
  | nil => simp
  | cons char more => simp [notSeparator char rfl]

/-- Without an equals sign there is no further parameter. -/
theorem loop_stops (platform : Platform) (fuel : Nat) (done seps body : Str) (params : Params)
    (separators : ∀ char ∈ seps, isSeparatorChar char = true)
    (notSeparator : ∀ char ∈ body.head?, isSeparatorChar char = false)
    (noEquals : ∀ char ∈ body, char ≠ '=') :
    loop platform (done ++ (seps ++ body)) (fuel + 1) (byteLength done) params = .ok params := by
  have keyStart : skipWhile isSeparator ((encode (done ++ (seps ++ body))).drop
      (byteLength done)) (byteLength done) = byteLength (done ++ seps) := by
    rw [drop_encode, skip_separators, takeWhile_separators separators notSeparator,
      byteLength_append]
  have takeBody : body.takeWhile (· ≠ '=') = body :=
    takeWhile_eq_self_iff.mpr (by simpa using noEquals)
  have equals : skipWhile (· ≠ byteOf '=')
      ((encode (done ++ (seps ++ body))).drop (byteLength (done ++ seps)))
      (byteLength (done ++ seps)) = byteLength (done ++ (seps ++ body)) := by
    rw [← append_assoc, drop_encode, skip_until (by decide), takeBody,
      byteLength_append (done ++ seps)]
  rw [loop]
  simp only [keyStart, equals, length_encode, le_refl, if_true]
  split
  · split <;> rfl
  · rfl

/-- One round of the loop: separators, a name, an equals sign and a value. -/
theorem loop_round (platform : Platform) (fuel : Nat) (done seps name after : Str) (params : Params)
    (separators : ∀ char ∈ seps, isSeparatorChar char = true)
    (notSeparator : ∀ char ∈ (name ++ '=' :: after).head?, isSeparatorChar char = false)
    (noEquals : ∀ char ∈ name, char ≠ '=') :
    loop platform (done ++ (seps ++ (name ++ '=' :: after))) (fuel + 1) (byteLength done) params =
      readValue (done ++ (seps ++ (name ++ '=' :: after))) (platform.toLowercase (trim name))
        (byteLength (done ++ (seps ++ (name ++ ['='])))) params
        (loop platform (done ++ (seps ++ (name ++ '=' :: after))) fuel) := by
  have equalsSize : ('=' : Char).utf8Size = 1 := by decide
  have takeSeps := takeWhile_separators separators notSeparator
  have takeName : (name ++ '=' :: after).takeWhile (· ≠ '=') = name := by
    rw [takeWhile_append_of_pos (by simpa using noEquals)]
    simp
  have keyStart : skipWhile isSeparator ((encode (done ++ (seps ++ (name ++ '=' :: after)))).drop
      (byteLength done)) (byteLength done) = byteLength (done ++ seps) := by
    rw [drop_encode, skip_separators, takeSeps, byteLength_append]
  have equals : skipWhile (· ≠ byteOf '=')
      ((encode (done ++ (seps ++ (name ++ '=' :: after)))).drop (byteLength (done ++ seps)))
      (byteLength (done ++ seps)) = byteLength (done ++ seps) + byteLength name := by
    rw [← append_assoc, drop_encode, skip_until (by decide), takeName]
  have named := slice_append (done ++ seps) name ('=' :: after)
  rw [append_assoc] at named
  have len : (encode (done ++ (seps ++ (name ++ '=' :: after)))).length =
      byteLength (done ++ seps) + byteLength name + 1 + byteLength after := by
    simp only [length_encode, byteLength_append, byteLength, equalsSize]
    omega
  have position : byteLength (done ++ (seps ++ (name ++ ['=']))) =
      byteLength (done ++ seps) + byteLength name + 1 := by
    simp only [byteLength_append, byteLength, equalsSize]
    omega
  have inside : byteLength done <
      (encode (done ++ (seps ++ (name ++ '=' :: after)))).length := by
    rw [len, byteLength_append]
    omega
  rw [loop, position]
  simp only [if_pos inside, keyStart, equals, named]
  rw [if_neg (by omega), if_neg (by omega)]

/-- The byte at a character boundary is that of an ASCII character exactly when
the character there is. -/
theorem getElem?_encode_iff {ascii : Char} (small : ascii.toNat < 128) (done after : Str) :
    (encode (done ++ after))[byteLength done]? = some (byteOf ascii) ↔
      after.head? = some ascii := by
  rw [← Nat.add_zero (byteLength done), ← getElem?_drop, drop_encode]
  cases after with
  | nil => simp [encode]
  | cons char rest =>
    obtain ⟨lead, more, encoding⟩ := exists_utf8EncodeChar_cons char
    simp [encoding, lead_eq_byteOf_iff encoding small]

/-- Where a quoted value ends: before its closing quote there is text, and after it the quoted
value is done. -/
theorem quoted_position (done value more : Str) :
    byteLength (done ++ ['"']) + byteLength value <
        (encode (done ++ ['"'] ++ (value ++ '"' :: more))).length ∧
      byteLength (done ++ ['"']) + byteLength value + 1 =
        byteLength (done ++ '"' :: (value ++ ['"'])) := by
  have quoteSize : ('"' : Char).utf8Size = 1 := by decide
  simp only [length_encode, byteLength_append, byteLength, quoteSize]
  omega

section ReadValue

variable {next : Nat → Params → Except Failure Params} {done key : Str} {params : Params}

theorem readValue_quoted_settles {inner : Str}
    (settles : ∀ front back, '"' :: inner = front ++ back → ∀ params,
      Settles (next (byteLength (done ++ front)) params) (Lexing.separator.scan back)) :
    Settles (readValue (done ++ '"' :: inner) key (byteLength done) params next)
      (Lexing.quoted.scan inner) := by
  have quoteSize : ('"' : Char).utf8Size = 1 := by decide
  have startsQuoted := (getElem?_encode_iff (by decide) done ('"' :: inner)).mpr rfl
  have start : byteLength done + 1 = byteLength (done ++ ['"']) := by
    simp [byteLength, quoteSize]
  have whole : done ++ '"' :: inner = (done ++ ['"']) ++ inner := by simp
  rw [readValue, if_pos startsQuoted, start, whole]
  simp only [drop_encode]
  rcases closeQuote_encode false inner (byteLength (done ++ ['"'])) with
    ⟨value, more, rfl, inside, close⟩ | ⟨inside, close⟩ | ⟨inside, close⟩
  · have text := slice_append (done ++ ['"']) value ('"' :: more)
    obtain ⟨short, position⟩ := quoted_position done value more
    simp only [close, text, if_pos short, position]
    have rest := settles ('"' :: (value ++ ['"'])) more (by simp) (params.insert key value)
    have scan : Lexing.quoted.scan (value ++ '"' :: more) = Lexing.separator.scan more := by
      have closed : Lexing.quoted.scan value = .quoted := inside
      rw [scan_append, closed]
      rfl
    rw [scan]
    exact rest
  · have text := slice_append (done ++ ['"']) inner []
    rw [append_nil] at text
    have atEnd : ¬ byteLength (done ++ ['"']) + byteLength inner <
        (encode (done ++ ['"'] ++ inner)).length := by
      rw [length_encode, byteLength_append (done ++ ['"'])]
      omega
    have position : byteLength (done ++ ['"']) + byteLength inner =
        byteLength (done ++ '"' :: inner) := by
      simp only [byteLength_append, byteLength, quoteSize]
      omega
    simp only [close, text, if_neg atEnd]
    rw [position]
    have rest := settles ('"' :: inner) [] (by simp) (params.insert key inner)
    have scan : Lexing.quoted.scan inner = .quoted := inside
    rw [scan]
    rcases rest with ⟨impossible, _⟩ | ⟨_, returned⟩
    · exact absurd impossible (by decide)
    · exact .inr ⟨by decide, returned⟩
  · have past : slice (done ++ ['"'] ++ inner) (byteLength (done ++ ['"']))
        (byteLength (done ++ ['"']) + byteLength inner + 1) = none := by
      refine slice_past_end ?_
      rw [byteLength_append (done ++ ['"'])]
      omega
    simp only [close, past]
    exact .inl ⟨inside, rfl⟩

theorem readValue_unquoted_settles {after : Str} (unquoted : after.head? ≠ some '"')
    (settles : ∀ front back, after = front ++ back → ∀ params,
      Settles (next (byteLength (done ++ front)) params) (Lexing.separator.scan back)) :
    Settles (readValue (done ++ after) key (byteLength done) params next)
      (Lexing.valueStart.scan after) := by
  have notQuoted : ¬(encode (done ++ after))[byteLength done]? = some (byteOf '"') :=
    fun quoted => unquoted ((getElem?_encode_iff (by decide) done after).mp quoted)
  have split : after = after.takeWhile (· ≠ ',') ++ after.dropWhile (· ≠ ',') :=
    takeWhile_append_dropWhile.symm
  have text := slice_append done (after.takeWhile (· ≠ ',')) (after.dropWhile (· ≠ ','))
  rw [← split] at text
  rw [readValue, if_neg notQuoted]
  simp only [drop_encode, skip_until (show (',' : Char).toNat < 128 by decide), text]
  rw [← byteLength_append]
  have rest := settles (after.takeWhile (· ≠ ',')) (after.dropWhile (· ≠ ',')) split
    (params.insert key (trim (after.takeWhile (· ≠ ','))))
  have scan : Lexing.valueStart.scan after = .escaped ↔
      Lexing.separator.scan (after.dropWhile (· ≠ ',')) = .escaped := by
    conv_lhs => rw [split]
    refine scan_unquoted ?_ ?_ ?_
    · intro char member
      simpa using mem_takeWhile_imp member
    · intro char first quote
      subst quote
      cases after with
      | nil => simp at first
      | cons head more =>
        by_cases comma : head = ','
        · simp [comma] at first
        · rw [takeWhile_cons_of_pos (by simpa using comma)] at first
          exact unquoted first
    · intro char first
      simpa using head?_dropWhile char first
  simpa only [Settles, scan, Ne] using rest

end ReadValue

/-- The loop returns within its bound, and panics exactly when the text ends in an
escape. -/
theorem loop_settles (platform : Platform) (fuel : Nat) (done todo : Str) (params : Params)
    (enough : byteLength todo < fuel) :
    Settles (loop platform (done ++ todo) fuel (byteLength done) params)
      (Lexing.separator.scan todo) := by
  induction fuel generalizing done todo params with
  | zero => omega
  | succ fuel ih =>
    obtain ⟨seps, body, rfl, separators, notSeparator⟩ : ∃ seps body, todo = seps ++ body ∧
        (∀ char ∈ seps, isSeparatorChar char = true) ∧
        ∀ char ∈ body.head?, isSeparatorChar char = false := by
      refine ⟨todo.takeWhile isSeparatorChar, todo.dropWhile isSeparatorChar,
        takeWhile_append_dropWhile.symm, fun _ member => mem_takeWhile_imp member,
        head?_dropWhile⟩
    have skipped : Lexing.separator.scan seps = .separator :=
      scan_of_all fun char member => if_pos (separators char member)
    rw [scan_append, skipped]
    by_cases hasEquals : '=' ∈ body
    · obtain ⟨name, after, rfl, absent⟩ := eq_append_cons_of_mem hasEquals
      have noEquals : ∀ char ∈ name, char ≠ '=' := fun char member same => absent (same ▸ member)
      have nameStart : ∀ char ∈ name.head?, isSeparatorChar char = false := by
        intro char first
        refine notSeparator char ?_
        rw [head?_append, Option.mem_def.mp first]
        rfl
      rw [scan_key noEquals nameStart, loop_round platform fuel done seps name after params
        separators notSeparator noEquals]
      have whole : done ++ (seps ++ (name ++ '=' :: after)) =
          (done ++ (seps ++ (name ++ ['=']))) ++ after := by simp
      have equalsSize : ('=' : Char).utf8Size = 1 := by decide
      -- The equals sign is consumed, so the rest is shorter than the bound.
      have rest : ∀ front back, after = front ++ back → ∀ params,
          Settles (loop platform ((done ++ (seps ++ (name ++ ['=']))) ++ after) fuel
            (byteLength ((done ++ (seps ++ (name ++ ['=']))) ++ front)) params)
            (Lexing.separator.scan back) := by
        rintro front back rfl params
        rw [← append_assoc _ front]
        refine ih _ back params ?_
        simp only [byteLength_append, byteLength, equalsSize] at enough
        omega
      rw [whole]
      by_cases quoted : after.head? = some '"'
      · cases after with
        | nil => simp at quoted
        | cons char inner =>
          obtain rfl : char = '"' := by simpa using quoted
          exact readValue_quoted_settles rest
      · exact readValue_unquoted_settles quoted rest
    · have noEquals : ∀ char ∈ body, char ≠ '=' := fun char member same => hasEquals (same ▸ member)
      rw [loop_stops platform fuel done seps body params separators notSeparator noEquals]
      refine .inr ⟨?_, params, rfl⟩
      cases body with
      | nil => simp
      | cons char more =>
        have first : Lexing.separator.next char = .key := by
          rw [Lexing.next, if_neg (by simp [notSeparator char rfl]),
            if_neg (noEquals char mem_cons_self)]
        have others : Lexing.key.scan more = .key :=
          scan_of_all fun other member => if_neg (noEquals other (mem_cons_of_mem _ member))
        rw [scan_cons, first, others]
        decide

/-- The parameters are what follows the first blank, trimmed. -/
theorem parseAuthParams_append (platform : Platform) {left : Str} (absent : ' ' ∉ left)
    (right : Str) : parseAuthParams platform (left ++ ' ' :: right) =
      loop platform (trim right) (byteLength (trim right) + 1) 0 ∅ := by
  have spaceSize : (' ' : Char).utf8Size = 1 := by decide
  have after : slice (left ++ ' ' :: right) (byteLength left + 1)
      (byteLength (left ++ ' ' :: right)) = some right := by
    have cut := slice_append (left ++ [' ']) right []
    simp only [byteLength_append, byteLength, spaceSize, append_nil,
      append_assoc, singleton_append, Nat.add_zero] at cut ⊢
    rwa [Nat.add_assoc] at cut
  simp only [parseAuthParams, find_append absent, after]

/-- Parsing credentials returns parameters, unless they end in an escape; then it
panics. -/
theorem parseAuthParams_settles (platform : Platform) (header : Str) :
    (EndsInEscape header ∧ parseAuthParams platform header = .error .panicked) ∨
      (¬ EndsInEscape header ∧ ∃ params, parseAuthParams platform header = .ok params) := by
  cases found : find ' ' header with
  | none =>
    have missing := splitOnce_eq_none (not_mem_of_find_eq_none found)
    exact .inr ⟨by simp [EndsInEscape, missing], ∅, by simp [parseAuthParams, found]⟩
  | some space =>
    obtain ⟨left, right, rfl, absent, rfl⟩ := find_eq_some found
    have settled := loop_settles platform (byteLength (trim right) + 1) [] (trim right)
      ∅ (Nat.lt_succ_self _)
    have escapes : EndsInEscape (left ++ ' ' :: right) ↔
        Lexing.separator.scan (trim right) = .escaped := by
      rw [EndsInEscape, splitOnce_append absent]
    rw [parseAuthParams_append platform absent, escapes]
    exact settled

end AuthParams

/-- Text as it reaches the server: a datagram, decoded lossily, or stream text. -/
inductive Received where
  | datagram (bytes : List UInt8)
  | stream (text : Str)

/-- The text handed to the parser. -/
def Received.text : Received → Str
  | .datagram bytes => fromUtf8Lossy bytes
  | .stream text => text

/-- Parsing a received text and then its credentials returns in every case: no
slice panics, and the credential loop ends. -/
def CredentialParsingReturns (platform : Platform) (raw : Str) : Prop :=
  SipMessage.parse platform raw ≠ .error .panicked ∧
    ∀ msg auth, SipMessage.parse platform raw = .ok msg → msg.authorization = some auth →
      ∃ params, parseAuthParams platform auth = .ok params

/-- Parsing returns exactly for the texts whose credentials do not end inside a
quoted value right after a backslash. -/
theorem credentialParsingReturns_iff (platform : Platform) (input : Received) :
    CredentialParsingReturns platform input.text ↔
      ∀ msg auth, SipMessage.parse platform input.text = .ok msg →
        msg.authorization = some auth → ¬ AuthParams.EndsInEscape auth := by
  constructor
  · rintro ⟨_, returns⟩ msg auth parsed present
    obtain ⟨params, returned⟩ := returns msg auth parsed present
    rcases AuthParams.parseAuthParams_settles platform auth with ⟨_, panicked⟩ | ⟨safe, _⟩
    · rw [returned] at panicked
      cases panicked
    · exact safe
  · intro safe
    refine ⟨SipMessage.parse_ne_panicked platform input.text, fun msg auth parsed present => ?_⟩
    rcases AuthParams.parseAuthParams_settles platform auth with ⟨escape, _⟩ | ⟨_, returned⟩
    · exact absurd escape (safe msg auth parsed present)
    · exact returned

/-- The datagram of a REGISTER whose credentials are `Digest a="\`. -/
def unpairedBackslash : Received :=
  .datagram (Str.encode
    "REGISTER sip:a SIP/2.0\r\nAuthorization: Digest a=\"\\\r\n\r\n".toList)

/-- Credentials that end in a lone backslash panic the parser. -/
theorem credentialParsing_unpairedBackslash :
    ¬ CredentialParsingReturns (.ascii fun _ => none) unpairedBackslash.text := by
  have credentials : (SipMessage.parse (.ascii fun _ => none) unpairedBackslash.text).toOption.bind
      (·.authorization) = some "Digest a=\"\\".toList := by decide +kernel
  have escape : AuthParams.EndsInEscape "Digest a=\"\\".toList := by decide
  rintro ⟨_, returns⟩
  cases parsed : SipMessage.parse (.ascii fun _ => none) unpairedBackslash.text with
  | error failure => simp [parsed, Except.toOption] at credentials
  | ok msg =>
    have present : msg.authorization = some "Digest a=\"\\".toList := by
      simpa [parsed, Except.toOption] using credentials
    obtain ⟨params, returned⟩ := returns msg _ parsed present
    rcases AuthParams.parseAuthParams_settles (.ascii fun _ => none) "Digest a=\"\\".toList with
      ⟨_, panicked⟩ | ⟨safe, _⟩
    · rw [returned] at panicked
      cases panicked
    · exact safe escape

end Sip3
