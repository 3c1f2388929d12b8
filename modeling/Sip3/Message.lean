import Sip3.Platform
import Mathlib.Data.List.AList

/-!
# SIP messages

The message parser of `message.rs` and the accessors over a parsed message.
A Rust slice that would panic is a `none` of `Str.slice`, so the parser reports
it as the failure `panicked`; `SipMessage.parse_ne_panicked` shows that no input
reaches it.
-/

namespace Sip3

open Text Str

/-- Header values by normalised name, in the order they appear. -/
abbrev Headers := AList fun _ : Str => List Str

/-- A parsed request or response. -/
structure SipMessage where
  method : Option Str
  requestUri : Option Str
  statusCode : Option Nat
  headers : Headers
  body : Str
  raw : Str
  deriving DecidableEq

/-- Why a text is not a message. -/
inductive ParseFailure where
  | emptyMessage
  | invalidFirstLine (line : Str)
  | panicked
  deriving DecidableEq

/-- The long form of a compact header name. -/
def expandCompact : Str → Str
  | ['f'] => "from".toList
  | ['t'] => "to".toList
  | ['v'] => "via".toList
  | ['c'] => "content-type".toList
  | ['l'] => "content-length".toList
  | ['i'] => "call-id".toList
  | ['m'] => "contact".toList
  | ['e'] => "content-encoding".toList
  | other => other

/-- `normalize_header_name`. -/
def normalizeHeaderName (platform : Platform) (name : Str) : Str :=
  expandCompact (platform.toLowercase (Str.trim name))

namespace SipMessage

/-- The parser's state between two lines. -/
structure Reading where
  headers : Headers
  inHeaders : Bool
  bodyLines : List Str
  lastKey : Option Str

/-- Before the second line. -/
def Reading.start : Reading where
  headers := ∅
  inHeaders := true
  bodyLines := []
  lastKey := none

/-- Append a continuation line to the last value of the last header. -/
def Reading.fold (reading : Reading) (line : Str) : Reading :=
  match reading.lastKey with
  | none => reading
  | some key =>
    match reading.headers.lookup key with
    | none => reading
    | some values =>
      match values.getLast? with
      | none => reading
      | some last =>
        let folded := last ++ ' ' :: Str.trim line
        { reading with headers := reading.headers.insert key (values.dropLast ++ [folded]) }

/-- Add a value under a header name. -/
def Reading.push (reading : Reading) (name value : Str) : Reading :=
  { reading with
    headers := reading.headers.insert name ((reading.headers.lookup name).getD [] ++ [value])
    lastKey := some name }

/-- One line after the first; `none` where a slice panics. -/
def Reading.readLine (platform : Platform) (reading : Reading) (line : Str) : Option Reading :=
  if reading.inHeaders then
    if line = [] then some { reading with inHeaders := false }
    else if Str.startsWith line [' '] ∨ Str.startsWith line ['\t'] then some (reading.fold line)
    else
      match Str.find ':' line with
      | none => some reading
      | some colon => do
          let name ← Str.slice line 0 colon
          let value ← Str.slice line (colon + 1) (Str.byteLength line)
          return reading.push (normalizeHeaderName platform name) (Str.trim value)
  else some { reading with bodyLines := reading.bodyLines ++ [line] }

/-- `SipMessage::parse`. -/
def parse (platform : Platform) (raw : Str) : Except ParseFailure SipMessage :=
  match Str.lines raw with
  | [] => .error .emptyMessage
  | firstLine :: lines =>
    let parts := Str.splitn 3 ' ' firstLine
    if parts.length < 2 then .error (.invalidFirstLine firstLine)
    else
      match lines.foldlM (Reading.readLine platform) Reading.start with
      | none => .error .panicked
      | some reading =>
        let isResponse := Str.startsWith firstLine "SIP/2.0".toList
        .ok
          { method := if isResponse then none else parts[0]?
            requestUri := if isResponse then none else parts[1]?
            statusCode :=
              if isResponse then parts[1]?.bind (Str.parseUnsigned (2 ^ 16)) else none
            headers := reading.headers
            body := Str.join "\r\n".toList reading.bodyLines
            raw := raw }

/-- A colon found in a line cuts it into slices that exist. -/
theorem Reading.readLine_isSome (platform : Platform) (reading : Reading) (line : Str) :
    ∃ next, reading.readLine platform line = some next := by
  unfold Reading.readLine
  split
  · split
    · exact ⟨_, rfl⟩
    · split
      · exact ⟨_, rfl⟩
      · cases found : find ':' line with
        | none => exact ⟨_, rfl⟩
        | some colon =>
          obtain ⟨left, right, rfl, _, rfl⟩ := find_eq_some found
          have name := slice_append [] left (':' :: right)
          have value := slice_append (left ++ [':']) right []
          have colonSize : (':' : Char).utf8Size = 1 := by decide
          simp only [byteLength, byteLength_append, List.nil_append, Nat.zero_add,
            List.append_nil, List.append_assoc, List.cons_append, Nat.add_zero, colonSize]
            at name value ⊢
          rw [Nat.add_assoc] at value
          simp [name, value]
  · exact ⟨_, rfl⟩

theorem Reading.foldlM_readLine_isSome (platform : Platform) (reading : Reading)
    (lines : List Str) : ∃ final, lines.foldlM (Reading.readLine platform) reading = some final := by
  induction lines generalizing reading with
  | nil => exact ⟨reading, rfl⟩
  | cons line rest ih =>
    obtain ⟨next, read⟩ := reading.readLine_isSome platform line
    obtain ⟨final, readRest⟩ := ih next
    exact ⟨final, by simpa [List.foldlM_cons, read] using readRest⟩

theorem parse_ne_panicked (platform : Platform) (raw : Str) :
    parse platform raw ≠ .error .panicked := by
  unfold parse
  split
  · exact fun equal => nomatch equal
  · rename_i firstLine lines _
    obtain ⟨final, read⟩ := Reading.foldlM_readLine_isSome platform .start lines
    simp only [read]
    split
    · exact fun equal => nomatch equal
    · exact fun equal => nomatch equal

/-- `SipMessage::all_headers_vec` under an already normalised name. -/
def values (msg : SipMessage) (key : Str) : List Str :=
  (msg.headers.lookup key).getD []

/-- `SipMessage::header` under an already normalised name. -/
def value (msg : SipMessage) (key : Str) : Option Str :=
  (msg.headers.lookup key).bind List.head?

/-- `SipMessage::header`. -/
def header (platform : Platform) (msg : SipMessage) (name : Str) : Option Str :=
  msg.value (normalizeHeaderName platform name)

/-- Every accessor below asks for a lower-case ASCII literal, whose normal form is
the same on every platform. -/
theorem header_eq_value (platform : Platform) (msg : SipMessage) (name : Str)
    (ascii : ∀ char ∈ trim name, char.toNat < 128)
    (normal : expandCompact (toAsciiLowercase (trim name)) = name) :
    msg.header platform name = msg.value name := by
  rw [header, normalizeHeaderName, platform.toLowercase_ascii _ ascii, normal]

/-- `SipMessage::call_id`. -/
def callId (msg : SipMessage) : Option Str := msg.value "call-id".toList

/-- `SipMessage::from_header`. -/
def fromHeader (msg : SipMessage) : Option Str := msg.value "from".toList

/-- `SipMessage::to_header`. -/
def toHeader (msg : SipMessage) : Option Str := msg.value "to".toList

/-- `SipMessage::contact`. -/
def contact (msg : SipMessage) : Option Str := msg.value "contact".toList

/-- `SipMessage::via_headers`. -/
def viaHeaders (msg : SipMessage) : List Str := msg.values "via".toList

/-- `SipMessage::cseq`. -/
def cseq (msg : SipMessage) : Option Str := msg.value "cseq".toList

/-- `SipMessage::expires`. -/
def expires (msg : SipMessage) : Option Nat :=
  (msg.value "expires".toList).bind (Str.parseUnsigned (2 ^ 32))

/-- `SipMessage::user_agent`. -/
def userAgent (msg : SipMessage) : Option Str := msg.value "user-agent".toList

/-- `SipMessage::authorization`. -/
def authorization (msg : SipMessage) : Option Str := msg.value "authorization".toList

example (platform : Platform) (msg : SipMessage) :
    msg.header platform "call-id".toList = msg.callId := by
  have ascii : (Str.trim "call-id".toList).all (·.toNat < 128) = true := by decide +kernel
  exact msg.header_eq_value platform _
    (fun char member => of_decide_eq_true (List.all_eq_true.mp ascii char member))
    (by decide +kernel)

end SipMessage

/-- The text between the first `<` and the next `>`. -/
def bracketed (addr : Str) : Option Str :=
  match addr.dropWhile (· ≠ '<') with
  | [] => none
  | _ :: rest => if '>' ∈ rest then some (rest.takeWhile (· ≠ '>')) else none

/-- `extract_uri`. -/
def extractUri (addr : Str) : Option Str :=
  match bracketed addr with
  | some uri => some (Str.trim uri)
  | none =>
    let uri := Str.trim ((Str.split ';' addr).headD addr)
    if Str.startsWith uri "sip:".toList ∨ Str.startsWith uri "sips:".toList ∨
        Str.startsWith uri "tel:".toList then some uri
    else none

/-- The URI without its leading schemes, as `uri_username` and `uri_host` strip them. -/
def withoutScheme (uri : Str) : Str :=
  Str.trimStartMatches (Str.trimStartMatches uri "sip:".toList) "sips:".toList

/-- `uri_username`. -/
def uriUsername (uri : Str) : Option Str :=
  let rest := withoutScheme uri
  if '@' ∈ rest then (Str.split '@' rest).head? else none

/-- `uri_host`. -/
def uriHost (uri : Str) : Option Str :=
  let rest := withoutScheme uri
  let part := if '@' ∈ rest then (Str.split '@' rest).getD 1 rest else rest
  let host := (Str.split ';' part).headD part
  some ((Str.split '?' host).headD host)

/-- `make_www_authenticate`. -/
def makeWwwAuthenticate (realm nonce : Str) : Str :=
  "Digest realm=\"".toList ++ realm ++ "\", nonce=\"".toList ++ nonce ++
    "\", algorithm=MD5, qop=\"auth\"".toList

/-- `strip_proxy_via`: the first Via line that names the domain is left out. -/
def stripProxyVia (platform : Platform) (raw sipDomain : Str) : Str :=
  Str.join "\r\n".toList (go (Str.splitCrLf raw))
where
  go : List Str → List Str
    | [] => []
    | line :: rest =>
      let lower := platform.toLowercase (Str.trimStart line)
      if (Str.startsWith lower "via:".toList ∨ Str.startsWith lower "v:".toList) ∧
          Str.containsStr line sipDomain then rest
      else line :: go rest

end Sip3
