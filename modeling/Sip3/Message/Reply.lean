import Sip3.Response
import Sip3.Message.ContactRewrite
import Sip3.Message.RoundTrip

/-!
# Replies that can be correlated

What the handlers answer with is written by one builder: the Via, From, To, Call-ID
and CSeq headers of the request, and a few headers of the server's own. `IsReply`
says so of a text, and `IsReply.answers` that such a text reads back as a response to
the request, because nothing a parsed request holds can break a line.
-/

namespace Sip3

open Text Str List

section Uris

variable {text part : Str}

theorem bracketed_subset (found : bracketed text = some part) : part ⊆ text := by
  unfold bracketed at found
  split at found
  · cases found
  · next first rest cut =>
      split at found
      · cases found
        have inside : rest ⊆ text := fun char member =>
          (dropWhile_suffix _).subset (cut ▸ mem_cons_of_mem first member)
        exact List.Subset.trans (List.takeWhile_prefix _).subset inside
      · cases found

theorem split_headD_subset (separator : Char) (text : Str) :
    (split separator text).headD text ⊆ text := by
  cases pieces : split separator text with
  | nil => exact List.Subset.refl _
  | cons first others =>
    have member : first ∈ split separator text := pieces ▸ mem_cons_self
    exact split_subset member

theorem extractUri_subset (found : extractUri text = some part) : part ⊆ text := by
  unfold extractUri at found
  split at found
  · next uri inside =>
      cases found
      exact List.Subset.trans (trim_subset _) (bracketed_subset inside)
  · dsimp only at found
    split at found
    · cases found
      exact List.Subset.trans (trim_subset _) (split_headD_subset ';' text)
    · cases found

theorem uriUsername_subset (found : uriUsername text = some part) : part ⊆ text := by
  unfold uriUsername at found
  dsimp only at found
  split at found
  · exact List.Subset.trans (split_subset (mem_of_mem_head? found))
      (withoutScheme_subset text)
  · cases found

theorem oneLine_headerUser {value : Option Str} (single : ∀ text, value = some text → Str.OneLine text)
    {user : Str} (found : headerUser value = some user) : Str.OneLine user := by
  obtain ⟨uri, extracted, named⟩ := Option.bind_eq_some_iff.mp found
  obtain ⟨text, present, inside⟩ := Option.bind_eq_some_iff.mp extracted
  exact (single text present).subset
    (List.Subset.trans (uriUsername_subset named) (extractUri_subset inside))

theorem oneLine_contactUriPreservingUriParams {contact : Str} (single : Str.OneLine contact) :
    Str.OneLine (contactUriPreservingUriParams contact) := by
  have fromParts : Str.OneLine (contactUriPreservingUriParams.fromParts contact) := by
    have trimmed : Str.OneLine (trim contact) := single.subset (trim_subset contact)
    unfold contactUriPreservingUriParams.fromParts
    split
    · exact oneLine_nil
    · next head params pieces =>
        have piece : ∀ part ∈ head :: params, Str.OneLine (trim part) := fun part member =>
          trimmed.subset (List.Subset.trans (trim_subset part)
            (split_subset (pieces ▸ member)))
        refine oneLine_append.mpr ⟨piece head (.head _), ?_⟩
        intro member
        obtain ⟨param, kept, inside⟩ := mem_flatMap.mp member
        have later := piece param (.tail _ (mem_filter.mp kept).1)
        exact (oneLine_cons.mpr ⟨by decide, later⟩ : Str.OneLine (';' :: trim param)) inside
  unfold contactUriPreservingUriParams
  split
  · next uri found =>
      split
      · exact single.subset (extractUri_subset found)
      · exact fromParts
  · exact fromParts

theorem oneLine_socketAddrUriHostPort (platform : Platform) (src : SocketAddr) :
    Str.OneLine (socketAddrUriHostPort platform src) := by
  have text : Str.OneLine (platform.ipText src.ip) :=
    oneLine_of_alphabet (platform.ipText_chars src.ip) (by decide)
  have port := oneLine_ofNat src.port.toNat
  unfold socketAddrUriHostPort
  split <;> simp [Sdp.hostPort, text, port]

theorem oneLine_routableContactUri (platform : Platform) {contact username : Str}
    (src : SocketAddr) (single : Str.OneLine contact) (named : Str.OneLine username) :
    Str.OneLine (routableContactUri platform contact username src) := by
  have uri := oneLine_contactUriPreservingUriParams single
  have user : Str.OneLine (((uriUsername (contactUriPreservingUriParams contact)).filter
      (· ≠ [])).getD username) := by
    cases found : uriUsername (contactUriPreservingUriParams contact) with
    | none => exact named
    | some user =>
      have inside := uri.subset (uriUsername_subset found)
      by_cases empty : user = []
      · simpa [Option.filter, empty] using named
      · simpa [Option.filter, empty] using inside
  have scheme : ∀ condition : Prop, ∀ _ : Decidable condition,
      Str.OneLine (if condition then "sips".toList else "sip".toList) := by
    intro condition _
    split <;> decide
  simp only [routableContactUri, oneLine_append, oneLine_cons]
  exact ⟨⟨⟨scheme _ _, by decide, user⟩, by decide, oneLine_socketAddrUriHostPort platform src⟩,
    uri.subset (uriParamSuffix_suffix _).subset⟩

end Uris

section Written

variable {platform : Platform}

/-- The normal form of an ASCII name is the same on every platform. -/
theorem normalizeHeaderName_of_ascii {name : Str} (ascii : name.all (·.toNat < 128) = true) :
    normalizeHeaderName platform name =
      expandCompact (toAsciiLowercase (trim name)) := by
  rw [normalizeHeaderName, platform.toLowercase_ascii]
  intro char member
  exact of_decide_eq_true (all_eq_true.mp ascii char (trim_subset name member))

theorem writtenValues_map {name : Str} {values : List Str} {key : Str} :
    writtenValues platform (values.map fun value => (name, value)) key =
      if normalizeHeaderName platform name = key then values.map trim else [] := by
  by_cases same : normalizeHeaderName platform name = key
  · simp [writtenValues, same, filter_map, Function.comp_def]
  · simp [writtenValues, same]

/-- Nothing is written under a name that no entry has. -/
theorem writtenValues_eq_nil {entries : List (Str × Str)} {key : Str}
    (absent : ∀ entry ∈ entries, normalizeHeaderName platform entry.1 ≠ key) :
    writtenValues platform entries key = [] := by
  simpa [writtenValues] using absent

end Written

/-- The headers of the server's own that replies carry. -/
def ownNames : List Str :=
  ["Server".toList, "Allow".toList, "Accept".toList, "WWW-Authenticate".toList,
    "Contact".toList, "Content-Type".toList, "Expires".toList]

/-- The characters of the server's tags: lower-case letters, digits and dashes. -/
def isTagChar (char : Char) : Bool :=
  char.isLower || char.isDigit || char == '-'

/-- A tag of the server's. -/
def IsTag (tag : Str) : Prop :=
  tag ≠ [] ∧ tag.all isTagChar = true

/-- The To header of a reply: that of the request, or that with a tag appended. -/
def AnswersTo (request reply : Option Str) : Prop :=
  reply.getD [] = request.getD [] ∨
    ∃ tag, IsTag tag ∧ reply = some (request.getD [] ++ ";tag=".toList ++ tag)

/-- The headers of a reply with a To header and headers of the server's own. -/
def replyHeaders (msg : SipMessage) (toValue : Option Str) (own : List (Str × Str)) :
    List (Str × Str) :=
  msg.viaHeaders.map (fun value => ("Via".toList, value)) ++
    msg.fromHeader.toList.map (fun value => ("From".toList, value)) ++
    toValue.toList.map (fun value => ("To".toList, value)) ++
    msg.callId.toList.map (fun value => ("Call-ID".toList, value)) ++
    msg.cseq.toList.map (fun value => ("CSeq".toList, value)) ++ own

/-- The builder holds a reply to the request. -/
structure ResponseBuilder.Replies (msg : SipMessage) (builder : ResponseBuilder) : Prop where
  code : 100 ≤ builder.statusCode ∧ builder.statusCode < 700
  reason : Str.OneLine builder.reason
  headers : ∃ toValue own, builder.headers = replyHeaders msg toValue own ∧
    AnswersTo msg.toHeader toValue ∧ ∀ entry ∈ own, entry.1 ∈ ownNames ∧ Str.OneLine entry.2

/-- The text is a reply to the request. -/
def IsReply (msg : SipMessage) (text : Str) : Prop :=
  ∃ builder : ResponseBuilder, builder.Replies msg ∧ text = builder.build

/-- Read back, the text is a response that answers the request: a status line, the whole Via
list, the first From, Call-ID and CSeq, the To with at most one tag appended, and the one
Content-Length counts the text after the blank line. -/
def Answers (platform : Platform) (msg : SipMessage) (text : Str) : Prop :=
  ∃ response head after, SipMessage.parse platform text = .ok response ∧
    response.method = none ∧
    (∃ code, response.statusCode = some code ∧ 100 ≤ code ∧ code < 700) ∧
    response.viaHeaders = msg.viaHeaders.map Str.trim ∧
    response.fromHeader = msg.fromHeader.map Str.trim ∧
    response.callId = msg.callId.map Str.trim ∧
    response.cseq = msg.cseq.map Str.trim ∧
    (∃ toValue, AnswersTo msg.toHeader toValue ∧ response.toHeader = toValue.map Str.trim) ∧
    Sdp.splitOnceStr blankLine text = some (head, after) ∧
    response.values "content-length".toList = [Str.ofNat (Str.byteLength after)]

namespace ResponseBuilder

variable {platform : Platform} {msg : SipMessage} {builder : ResponseBuilder}

theorem headerIf_eq (builder : ResponseBuilder) (name : Str) (value : Option Str) :
    builder.headerIf name value =
      { builder with headers := builder.headers ++ value.toList.map fun value => (name, value) } := by
  cases value <;> simp [headerIf, header]

theorem foldl_via (builder : ResponseBuilder) (vias : List Str) :
    vias.foldl (fun builder via => builder.header "Via".toList via) builder =
      { builder with headers := builder.headers ++ vias.map fun via => ("Via".toList, via) } := by
  induction vias generalizing builder with
  | nil => simp
  | cons via vias ih =>
    rw [foldl_cons, ih]
    simp [header]

/-- The header every reply carries. -/
def serverHeader : Str × Str := ("Server".toList, "SIP3/0.1.0".toList)

theorem serverHeader_own : ∀ entry ∈ [serverHeader], entry.1 ∈ ownNames ∧ Str.OneLine entry.2 := by
  decide

theorem baseResponse_eq (msg : SipMessage) (code : Nat) (reason : Str) :
    baseResponse msg code reason =
      ⟨code, reason, replyHeaders msg msg.toHeader [serverHeader], []⟩ := by
  rw [baseResponse, foldl_via]
  simp only [headerIf_eq, header, new, replyHeaders, nil_append]
  rfl

theorem baseResponseWithTo_eq (msg : SipMessage) (code : Nat) (reason toValue : Str) :
    baseResponseWithTo msg code reason toValue =
      ⟨code, reason, replyHeaders msg (some toValue) [serverHeader], []⟩ := by
  rw [baseResponseWithTo, foldl_via]
  simp only [headerIf_eq, header, new, replyHeaders, nil_append]
  rfl

theorem replies_baseResponse {code : Nat} {reason : Str} (valid : 100 ≤ code ∧ code < 700)
    (single : Str.OneLine reason) : (baseResponse msg code reason).Replies msg := by
  rw [baseResponse_eq]
  exact ⟨valid, single, msg.toHeader, [serverHeader], rfl, .inl rfl, serverHeader_own⟩

theorem replies_baseResponseWithTo {code : Nat} {reason toValue : Str}
    (valid : 100 ≤ code ∧ code < 700) (single : Str.OneLine reason)
    (answers : AnswersTo msg.toHeader (some toValue)) :
    (baseResponseWithTo msg code reason toValue).Replies msg := by
  rw [baseResponseWithTo_eq]
  exact ⟨valid, single, some toValue, [serverHeader], rfl, answers, serverHeader_own⟩

theorem Replies.header (replies : builder.Replies msg) {name value : Str}
    (own : name ∈ ownNames) (single : Str.OneLine value) :
    (builder.header name value).Replies msg where
  code := replies.code
  reason := replies.reason
  headers := by
    obtain ⟨toValue, before, shape, answers, safe⟩ := replies.headers
    refine ⟨toValue, before ++ [(name, value)], ?_, answers, ?_⟩
    · simp [ResponseBuilder.header, shape, replyHeaders]
    · intro entry member
      obtain kept | rfl := mem_append.mp member |>.imp_right mem_singleton.mp
      · exact safe entry kept
      · exact ⟨own, single⟩

theorem Replies.withBody (replies : builder.Replies msg) (body : Str) :
    (builder.withBody body).Replies msg where
  code := replies.code
  reason := replies.reason
  headers := replies.headers

/-- The status line. -/
def statusLine (builder : ResponseBuilder) : Str :=
  "SIP/2.0 ".toList ++ Str.ofNat builder.statusCode ++ ' ' :: builder.reason

/-- The headers with the length of the body. -/
def allHeaders (builder : ResponseBuilder) : List (Str × Str) :=
  builder.headers ++ [("Content-Length".toList, Str.ofNat (Str.byteLength builder.body))]

theorem build_eq (builder : ResponseBuilder) :
    builder.build = renderMessage builder.statusLine builder.allHeaders builder.body := by
  have length : "Content-Length: ".toList = "Content-Length".toList ++ ": ".toList := by decide
  have ending : "\r\n\r\n".toList = "\r\n".toList ++ "\r\n".toList := by decide
  unfold build renderMessage allHeaders renderHeaders
  rw [flatMap_append, length, ending, flatMap_singleton]
  unfold statusLine headerLine
  simp only [append_assoc]

theorem splitn_statusLine (builder : ResponseBuilder) :
    splitn 3 ' ' builder.statusLine =
      ["SIP/2.0".toList, ofNat builder.statusCode, builder.reason] := by
  have digits : ' ' ∉ ofNat builder.statusCode := fun member =>
    absurd (Nat.isDigit_of_mem_toDigits (by decide) (by decide) member) (by decide)
  have shape : builder.statusLine = "SIP/2.0".toList ++
      ' ' :: (ofNat builder.statusCode ++ ' ' :: builder.reason) := by
    have version : "SIP/2.0 ".toList = "SIP/2.0".toList ++ [' '] := by decide
    unfold statusLine
    rw [version, append_assoc, append_assoc]
    rfl
  rw [shape, splitn, splitOnce_append (by decide)]
  simp only [splitn, splitOnce_append digits]

theorem statusText_build (builder : ResponseBuilder) :
    statusText builder.build = ofNat builder.statusCode := by
  have digits : ∀ char ∈ ofNat builder.statusCode, decide (char ≠ ' ') = true := by
    intro char member
    have digit := Nat.isDigit_of_mem_toDigits (by decide) (by decide) member
    refine decide_eq_true fun space => ?_
    rw [space] at digit
    cases digit
  have lead : "SIP/2.0 ".toList.length = 8 := by decide
  unfold statusText build
  simp only [append_assoc, ← lead, drop_left]
  rw [takeWhile_append_of_pos digits]
  simp

theorem statusText_plainResponse (msg : SipMessage) (code : Nat) (reason : String) :
    statusText (plainResponse msg code reason) = ofNat code := by
  rw [plainResponse, statusText_build, baseResponse_eq]

/-- What a reply writes under a name, if the server's own headers do not have it. -/
theorem writtenValues_allHeaders {toValue : Option Str} {own : List (Str × Str)} {key : Str}
    (shape : builder.headers = replyHeaders msg toValue own)
    (foreign : ∀ entry ∈ own, normalizeHeaderName platform entry.1 ≠ key) :
    writtenValues platform builder.allHeaders key =
      (if "via".toList = key then msg.viaHeaders.map trim else []) ++
      (if "from".toList = key then msg.fromHeader.toList.map trim else []) ++
      (if "to".toList = key then toValue.toList.map trim else []) ++
      (if "call-id".toList = key then msg.callId.toList.map trim else []) ++
      (if "cseq".toList = key then msg.cseq.toList.map trim else []) ++
      (if "content-length".toList = key then [ofNat (byteLength builder.body)] else []) := by
  have via : normalizeHeaderName platform "Via".toList = "via".toList :=
    normalizeHeaderName_of_ascii (by decide)
  have sender : normalizeHeaderName platform "From".toList = "from".toList :=
    normalizeHeaderName_of_ascii (by decide)
  have recipient : normalizeHeaderName platform "To".toList = "to".toList :=
    normalizeHeaderName_of_ascii (by decide)
  have callId : normalizeHeaderName platform "Call-ID".toList = "call-id".toList :=
    normalizeHeaderName_of_ascii (by decide)
  have cseq : normalizeHeaderName platform "CSeq".toList = "cseq".toList :=
    normalizeHeaderName_of_ascii (by decide)
  have length : normalizeHeaderName platform "Content-Length".toList = "content-length".toList :=
    normalizeHeaderName_of_ascii (by decide)
  have last : writtenValues platform
      [("Content-Length".toList, ofNat (byteLength builder.body))] key =
        if "content-length".toList = key then [ofNat (byteLength builder.body)] else [] := by
    have single := @writtenValues_map platform "Content-Length".toList
      [ofNat (byteLength builder.body)] key
    rwa [map_singleton, length, map_singleton, trim_ofNat] at single
  unfold allHeaders
  rw [shape, replyHeaders]
  simp only [writtenValues_append, writtenValues_map, via, sender, recipient, callId, cseq, last,
    writtenValues_eq_nil foreign, append_nil]

theorem oneLine_of_isTag {tag : Str} (valid : IsTag tag) : Str.OneLine tag := by
  intro member
  exact absurd (all_eq_true.mp valid.2 _ member) (by decide)

/-- The To header of a reply is on one line, as that of the request is. -/
theorem oneLine_of_answersTo {request reply : Option Str} (answers : AnswersTo request reply)
    (single : ∀ value, request = some value → Str.OneLine value) {value : Str}
    (present : reply = some value) : Str.OneLine value := by
  have before : Str.OneLine (request.getD []) := by
    cases request with
    | none => exact oneLine_nil
    | some value => exact single value rfl
  obtain same | ⟨tag, valid, appended⟩ := answers
  · rw [present, Option.getD_some] at same
    exact same ▸ before
  · cases present.symm.trans appended
    simp only [oneLine_append]
    exact ⟨⟨before, by decide⟩, oneLine_of_isTag valid⟩

theorem headerName_of_mem : ∀ name ∈ "Via".toList :: "From".toList :: "To".toList ::
    "Call-ID".toList :: "CSeq".toList :: "Content-Length".toList :: ownNames, HeaderName name := by
  decide

/-- The server's own names are not those of the request's headers. -/
theorem ownNames_foreign {key : Str}
    (requested : key ∈ ["via".toList, "from".toList, "to".toList, "call-id".toList, "cseq".toList,
      "content-length".toList]) :
    ∀ name ∈ ownNames, normalizeHeaderName platform name ≠ key := by
  have ascii : ∀ name ∈ ownNames, name.all (·.toNat < 128) = true := by decide
  have foreign : ∀ name ∈ ownNames, expandCompact (toAsciiLowercase (trim name)) ∉
      ["via".toList, "from".toList, "to".toList, "call-id".toList, "cseq".toList,
        "content-length".toList] := by
    decide
  intro name member same
  rw [normalizeHeaderName_of_ascii (ascii name member)] at same
  exact foreign name member (same ▸ requested)

theorem Replies.headerEntry (safe : msg.LineSafe) {toValue : Option Str} {own : List (Str × Str)}
    (shape : builder.headers = replyHeaders msg toValue own)
    (answers : AnswersTo msg.toHeader toValue)
    (ownSafe : ∀ entry ∈ own, entry.1 ∈ ownNames ∧ Str.OneLine entry.2) :
    ∀ entry ∈ builder.allHeaders, HeaderEntry entry := by
  have named := headerName_of_mem
  simp only [forall_mem_cons] at named
  obtain ⟨via, sender, recipient, callId, cseq, length, own'⟩ := named
  intro entry member
  simp only [allHeaders, shape, replyHeaders, mem_append, mem_map, Option.mem_toList,
    mem_singleton] at member
  rcases member with (((((⟨value, present, rfl⟩ | ⟨value, present, rfl⟩) | ⟨value, present, rfl⟩) |
    ⟨value, present, rfl⟩) | ⟨value, present, rfl⟩) | inside) | rfl
  · exact ⟨via, safe.values _ value present⟩
  · exact ⟨sender, safe.value present⟩
  · exact ⟨recipient, oneLine_of_answersTo answers (fun _ found => safe.value found) present⟩
  · exact ⟨callId, safe.value present⟩
  · exact ⟨cseq, safe.value present⟩
  · exact ⟨own' _ (ownSafe entry inside).1, (ownSafe entry inside).2⟩
  · exact ⟨length, oneLine_ofNat _⟩

theorem Replies.answers (safe : msg.LineSafe) (replies : builder.Replies msg) :
    Answers platform msg builder.build := by
  obtain ⟨toValue, own, shape, answersTo, ownSafe⟩ := replies.headers
  have valid := Replies.headerEntry safe shape answersTo ownSafe
  have single : Str.OneLine builder.statusLine := by
    unfold statusLine
    simp only [oneLine_append, oneLine_cons]
    exact ⟨⟨by decide, oneLine_ofNat _⟩, by decide, replies.reason⟩
  have parts := builder.splitn_statusLine
  obtain ⟨response, parsed, status, -, values⟩ :=
    SipMessage.parse_renderMessage platform builder.body single (by simp [parts]) valid
  have cut := splitOnceStr_renderMessage builder.body single valid
  rw [← build_eq] at parsed cut
  have written : ∀ key ∈ ["via".toList, "from".toList, "to".toList, "call-id".toList,
      "cseq".toList, "content-length".toList], response.values key = _ := fun key requested =>
    (values key).trans (writtenValues_allHeaders shape fun entry member =>
      ownNames_foreign requested entry.1 (ownSafe entry member).1)
  have isStatus : startsWith builder.statusLine "SIP/2.0".toList = true := by
    unfold statusLine
    rfl
  obtain ⟨noMethod, code⟩ := status isStatus
  have read : response.statusCode = some builder.statusCode := by
    rw [code, parts]
    exact parseUnsigned_ofNat (by have := replies.code.2; omega)
  refine ⟨response, _, builder.body, parsed, noMethod, ⟨_, read, replies.code⟩, ?_, ?_, ?_, ?_,
    ⟨toValue, answersTo, ?_⟩, cut, ?_⟩
  · refine (written _ (by decide)).trans ?_
    simp
  · refine (response.value_eq_head? _).trans ((congrArg _ (written _ (by decide))).trans ?_)
    cases msg.fromHeader <;> simp
  · refine (response.value_eq_head? _).trans ((congrArg _ (written _ (by decide))).trans ?_)
    cases msg.callId <;> simp
  · refine (response.value_eq_head? _).trans ((congrArg _ (written _ (by decide))).trans ?_)
    cases msg.cseq <;> simp
  · refine (response.value_eq_head? _).trans ((congrArg _ (written _ (by decide))).trans ?_)
    cases toValue <;> simp
  · refine (written _ (by decide)).trans ?_
    simp

end ResponseBuilder

end Sip3
