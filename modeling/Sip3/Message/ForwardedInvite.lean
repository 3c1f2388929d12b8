import Sip3.Message.HeaderNames
import Sip3.Message.ViaStrip

/-!
# Forwarded INVITE requests

What `build_forwarded_invite_for_target` writes is a request line, this proxy's Via above those
received, a few headers of its own, and the other headers of the request in the order of the hash
map. Read back, it has the headers of the request (`forwardedInvite_read_back`).
-/

namespace Sip3

open Text Str List SipMessage

variable {platform : Platform} {msg : SipMessage} {targetUri sipDomain : Str}

/-- The headers of a message in hash-map order, without the skipped ones. -/
def copiedEntries (platform : Platform) (msg : SipMessage) (skipped : List Str) :
    List (Str × Str) :=
  let entries := msg.headers.entries.map fun entry => (entry.1, entry.2)
  ((platform.headerOrder entries).filter fun entry => entry.1 ∉ skipped).flatMap fun entry =>
    entry.2.map fun value => (capitalizeHeader platform entry.1, value)

/-- The headers that a forwarded INVITE does not copy. -/
def inviteSkipped : List Str :=
  ["via".toList, "max-forwards".toList, "content-length".toList, "record-route".toList]

/-- The headers of a forwarded INVITE. -/
def inviteEntries (platform : Platform) (msg : SipMessage) (maxFwd : Nat) (sipDomain body : Str) :
    List (Str × Str) :=
  ("Via".toList, proxyVia platform (msg.callId.getD []) sipDomain) ::
    ((msg.viaHeaders.map fun via => ("Via".toList, via)) ++
      (("Max-Forwards".toList, Str.ofNat maxFwd) ::
        ("Record-Route".toList, "<sip:".toList ++ sipDomain ++ ";lr>".toList) ::
        (copiedEntries platform msg inviteSkipped ++
          [("Content-Length".toList, Str.ofNat (Str.byteLength body))])))

/-- The request line of a forwarded INVITE. -/
def inviteLine (targetUri : Str) : Str :=
  "INVITE ".toList ++ targetUri ++ " SIP/2.0".toList

theorem copiedHeaders_eq (msg : SipMessage) (skipped : List Str) :
    copiedHeaders platform msg skipped = renderHeaders (copiedEntries platform msg skipped) := by
  simp only [copiedHeaders, renderHeaders, copiedEntries, flatMap_assoc, flatMap_map,
    headerLine]

theorem renderHeaders_cons (entry : Str × Str) (entries : List (Str × Str)) :
    renderHeaders (entry :: entries) =
      headerLine entry ++ "\r\n".toList ++ renderHeaders entries := rfl

theorem renderHeaders_append (front back : List (Str × Str)) :
    renderHeaders (front ++ back) = renderHeaders front ++ renderHeaders back :=
  flatMap_append

theorem renderHeaders_vias (vias : List Str) :
    renderHeaders (vias.map fun via => ("Via".toList, via)) =
      vias.flatMap fun via => "Via: ".toList ++ via ++ "\r\n".toList := by
  simp [renderHeaders, headerLine, flatMap_map]

/-- A forwarded INVITE is its request line, headers and body. -/
theorem buildForwardedInviteForTarget_render (msg : SipMessage) (maxFwd : Nat)
    (rewritten : Option Str) :
    buildForwardedInviteForTarget platform msg targetUri maxFwd sipDomain rewritten =
      renderMessage (inviteLine targetUri)
        (inviteEntries platform msg maxFwd sipDomain (rewritten.getD msg.body))
        (rewritten.getD msg.body) := by
  show forwardedHead platform msg "INVITE".toList targetUri maxFwd sipDomain ++
    "Record-Route: <sip:".toList ++ sipDomain ++ ";lr>\r\n".toList ++
    copiedHeaders platform msg inviteSkipped ++ "Content-Length: ".toList ++
    ofNat (byteLength (rewritten.getD msg.body)) ++ "\r\n\r\n".toList ++
    rewritten.getD msg.body = _
  unfold forwardedHead renderMessage inviteEntries proxyVia inviteLine
  rewrite [renderHeaders_cons, renderHeaders_append, renderHeaders_cons, renderHeaders_cons,
    renderHeaders_append, renderHeaders_vias, ← copiedHeaders_eq]
  -- What is left is to compare the fixed texts around these parts.
  generalize copiedHeaders platform msg _ = copied
  generalize msg.viaHeaders.flatMap _ = vias
  generalize ofNat maxFwd = hops
  generalize ofNat (byteLength (rewritten.getD msg.body)) = length
  generalize rewritten.getD msg.body = body
  generalize proxyViaBranch platform _ = branch
  simp [renderHeaders, headerLine]

section Copied

variable {raw key : Str} {skipped : List Str}

/-- The table of headers in hash-map order, without the skipped ones. -/
def copiedTable (platform : Platform) (msg : SipMessage) (skipped : List Str) :
    List (Str × List Str) :=
  (platform.headerOrder (msg.headers.entries.map fun entry => (entry.1, entry.2))).filter
    fun entry => entry.1 ∉ skipped

theorem copiedEntries_eq (platform : Platform) (msg : SipMessage) (skipped : List Str) :
    copiedEntries platform msg skipped = (copiedTable platform msg skipped).flatMap fun entry =>
      entry.2.map fun value => (capitalizeHeader platform entry.1, value) := rfl

variable {values : List Str} {entry : Str × List Str} {value : Str}

/-- The copied table has the headers of the message that are not skipped. -/
theorem mem_copiedTable :
    (key, values) ∈ copiedTable platform msg skipped ↔
      msg.headers.lookup key = some values ∧ key ∉ skipped := by
  rw [copiedTable, mem_filter, (platform.headerOrder_perm _).mem_iff, mem_map,
    ← Option.mem_def, AList.mem_lookup_iff, decide_eq_true_eq]
  refine and_congr_left fun _ => ⟨?_, fun member => ⟨⟨key, values⟩, member, rfl⟩⟩
  rintro ⟨⟨name, given⟩, member, same⟩
  cases same
  exact member

theorem nodup_copiedTable : ((copiedTable platform msg skipped).map Prod.fst).Nodup := by
  have keys : ((msg.headers.entries.map fun entry => (entry.1, entry.2)).map Prod.fst).Nodup := by
    rw [map_map]
    exact msg.headers.nodupKeys
  have ordered := ((platform.headerOrder_perm _).map Prod.fst).nodup_iff.mpr keys
  exact ordered.sublist (filter_sublist.map Prod.fst)

/-- What a list of headers with different names gives for one name. -/
theorem flatMap_of_nodup {table : List (Str × List Str)} (different : (table.map Prod.fst).Nodup)
    (member : (key, values) ∈ table) (written : List Str → List Str) :
    (table.flatMap fun entry => if entry.1 = key then written entry.2 else []) = written values := by
  induction table with
  | nil => cases member
  | cons entry table ih =>
    rw [map_cons, nodup_cons] at different
    rw [flatMap_cons]
    rcases mem_cons.mp member with rfl | later
    · have others : (table.flatMap fun entry => if entry.1 = key then written entry.2 else []) =
          [] := by
        refine flatMap_eq_nil_iff.mpr fun entry inside => if_neg fun same => ?_
        have named : entry.1 ∈ table.map Prod.fst := mem_map_of_mem inside
        exact different.1 (same ▸ named)
      rw [if_pos rfl, others, append_nil]
    · have other : entry.1 ≠ key := fun same =>
        different.1 (same ▸ mem_map_of_mem later)
      rw [if_neg other, nil_append, ih different.2 later]

theorem writtenValues_flatMap {α : Type} (items : List α) (write : α → List (Str × Str)) :
    writtenValues platform (items.flatMap write) key =
      items.flatMap fun item => writtenValues platform (write item) key := by
  induction items with
  | nil => rfl
  | cons item items ih =>
    rw [flatMap_cons, writtenValues_append, ih, flatMap_cons]

theorem ascii_of_mem_copiedTable
    (ascii : ∀ key ∈ msg.headers.keys, ∀ char ∈ key, char.toNat < 128)
    (member : entry ∈ copiedTable platform msg skipped) : ∀ char ∈ entry.1, char.toNat < 128 := by
  obtain ⟨found, -⟩ := mem_copiedTable.mp member
  exact ascii entry.1 (AList.lookup_isSome.mp (by rw [found]; rfl))

variable (parsed : SipMessage.parse platform raw = .ok msg)
include parsed

theorem oneLine_of_mem_copiedTable (member : entry ∈ copiedTable platform msg skipped)
    (given : value ∈ entry.2) : Str.OneLine value := by
  obtain ⟨found, -⟩ := mem_copiedTable.mp member
  refine (lineSafe_of_parse parsed).values entry.1 value ?_
  rw [SipMessage.values, found]
  exact given

theorem normalName_of_mem_copiedTable (tables : platform.CaseTables)
    (member : entry ∈ copiedTable platform msg skipped) (given : value ∈ entry.2) :
    NormalName entry.1 := by
  obtain ⟨found, -⟩ := mem_copiedTable.mp member
  have present : value ∈ msg.values entry.1 := by
    rw [SipMessage.values, found]
    exact given
  obtain ⟨line, single, named⟩ := headerName?_of_values parsed present
  exact normalName_of_headerName? tables single named

/-- The copied headers are read back under their names. -/
theorem writtenValues_copiedEntries (tables : platform.CaseTables)
    (ascii : ∀ key ∈ msg.headers.keys, ∀ char ∈ key, char.toNat < 128) :
    writtenValues platform (copiedEntries platform msg skipped) key =
      if key ∈ skipped then [] else (msg.values key).map trim := by
  have lists : ∀ entry ∈ copiedTable platform msg skipped,
      writtenValues platform (entry.2.map fun value => (capitalizeHeader platform entry.1, value))
        key = if entry.1 = key then entry.2.map trim else [] := by
    intro entry member
    rw [writtenValues_map]
    cases given : entry.2 with
    | nil => simp
    | cons value rest =>
      have inside : value ∈ entry.2 := given ▸ mem_cons_self
      rw [normalizeHeaderName_capitalizeHeader tables
        (normalName_of_mem_copiedTable parsed tables member inside)
        (ascii_of_mem_copiedTable ascii member)]
  rw [copiedEntries_eq, writtenValues_flatMap, flatMap_congr lists]
  by_cases skip : key ∈ skipped
  · rw [if_pos skip]
    refine flatMap_eq_nil_iff.mpr fun entry member => if_neg fun same => ?_
    exact (mem_copiedTable.mp member).2 (same ▸ skip)
  · rw [if_neg skip]
    cases found : msg.headers.lookup key with
    | none =>
      have absent : msg.values key = [] := by rw [SipMessage.values, found]; rfl
      rw [absent, map_nil]
      refine flatMap_eq_nil_iff.mpr fun entry member => if_neg fun same => ?_
      rw [← same, (mem_copiedTable.mp member).1] at found
      cases found
    | some values =>
      have listed : msg.values key = values := by rw [SipMessage.values, found]; rfl
      rw [listed, flatMap_of_nodup nodup_copiedTable (mem_copiedTable.mpr ⟨found, skip⟩)]

end Copied

section ReadBack

variable {raw key : Str} {body : Str} {maxFwd : Nat}

theorem mem_copiedEntries {skipped : List Str} {entry : Str × Str}
    (member : entry ∈ copiedEntries platform msg skipped) :
    ∃ row ∈ copiedTable platform msg skipped, ∃ value ∈ row.2,
      entry = (capitalizeHeader platform row.1, value) := by
  rw [copiedEntries_eq] at member
  obtain ⟨row, inside, written⟩ := mem_flatMap.mp member
  obtain ⟨value, given, rfl⟩ := mem_map.mp written
  exact ⟨row, inside, value, given, rfl⟩

theorem oneLine_proxyVia (platform : Platform) (callId : Str) (single : Str.OneLine sipDomain) :
    Str.OneLine (proxyVia platform callId sipDomain) := by
  have digest : Str.OneLine (platform.md5Hex callId) :=
    oneLine_of_alphabet (platform.md5Hex_hex callId) (by decide)
  have branch : Str.OneLine (proxyViaBranch platform callId) := by
    unfold proxyViaBranch
    exact oneLine_append.mpr ⟨by decide, digest.subset (take_subset _ _)⟩
  unfold proxyVia
  simp only [oneLine_append]
  exact ⟨⟨⟨⟨by decide, single⟩, by decide⟩, branch⟩, by decide⟩

/-- The names that the proxy writes itself. -/
def inviteNames : List Str :=
  ["Via".toList, "Max-Forwards".toList, "Record-Route".toList, "Content-Length".toList]

/-- A header of a forwarded INVITE is the proxy's own or copied, with a value on one line. -/
theorem mem_inviteEntries (parsed : parse platform raw = .ok msg)
    (single : Str.OneLine sipDomain) {entry : Str × Str}
    (member : entry ∈ inviteEntries platform msg maxFwd sipDomain body) :
    Str.OneLine entry.2 ∧ (entry.1 ∈ inviteNames ∨ ∃ row ∈ copiedTable platform msg inviteSkipped,
      ∃ value ∈ row.2, entry.1 = capitalizeHeader platform row.1) := by
  simp only [inviteEntries, mem_cons, mem_append, mem_map, not_mem_nil,
    or_false] at member
  rcases member with rfl | ⟨via, received, rfl⟩ | rfl | rfl | copied | rfl
  · exact ⟨oneLine_proxyVia platform _ single, .inl (.head _)⟩
  · exact ⟨(lineSafe_of_parse parsed).values _ via received, .inl (.head _)⟩
  · exact ⟨oneLine_ofNat _, .inl (.tail _ (.head _))⟩
  · have route : Str.OneLine ("<sip:".toList ++ sipDomain ++ ";lr>".toList) := by
      simp only [oneLine_append]
      exact ⟨⟨by decide, single⟩, by decide⟩
    exact ⟨route, .inl (.tail _ (.tail _ (.head _)))⟩
  · obtain ⟨row, inside, value, given, rfl⟩ := mem_copiedEntries copied
    exact ⟨oneLine_of_mem_copiedTable parsed inside given, .inr ⟨row, inside, value, given, rfl⟩⟩
  · exact ⟨oneLine_ofNat _, .inl (.tail _ (.tail _ (.tail _ (.head _))))⟩

theorem headerEntry_inviteEntries (tables : platform.CaseTables)
    (parsed : parse platform raw = .ok msg)
    (ascii : ∀ key ∈ msg.headers.keys, ∀ char ∈ key, char.toNat < 128)
    (single : Str.OneLine sipDomain) :
    ∀ entry ∈ inviteEntries platform msg maxFwd sipDomain body, HeaderEntry entry := by
  have named : ∀ name ∈ inviteNames, HeaderName name := by decide
  intro entry member
  obtain ⟨value, own | ⟨row, inside, given, listed, copied⟩⟩ := mem_inviteEntries parsed single member
  · exact ⟨named entry.1 own, value⟩
  · have normal := normalName_of_mem_copiedTable parsed tables inside listed
    have read := headerName_capitalizeHeader tables normal (ascii_of_mem_copiedTable ascii inside)
    exact ⟨copied ▸ read, value⟩

theorem writtenValues_cons {name value : Str} {entries : List (Str × Str)} :
    writtenValues platform ((name, value) :: entries) key =
      (if normalizeHeaderName platform name = key then [trim value] else []) ++
        writtenValues platform entries key := by
  by_cases same : normalizeHeaderName platform name = key <;> simp [writtenValues, same]

theorem trim_recordRoute (sipDomain : Str) :
    trim ("<sip:".toList ++ sipDomain ++ ";lr>".toList) =
      "<sip:".toList ++ sipDomain ++ ";lr>".toList := by
  refine trim_of_ends (fun char first => ?_) fun char last => ?_
  · obtain rfl : '<' = char := by simpa using first
    decide
  · rw [getLast?_append_of_ne_nil _ (by decide)] at last
    obtain rfl : '>' = char := by simpa using last
    decide

theorem writtenValues_inviteEntries (tables : platform.CaseTables)
    (parsed : parse platform raw = .ok msg)
    (ascii : ∀ key ∈ msg.headers.keys, ∀ char ∈ key, char.toNat < 128) :
    writtenValues platform (inviteEntries platform msg maxFwd sipDomain body) key =
      (if "via".toList = key then
        trim (proxyVia platform (msg.callId.getD []) sipDomain) ::
          msg.viaHeaders.map trim else []) ++
      ((if "max-forwards".toList = key then [ofNat maxFwd] else []) ++
      ((if "record-route".toList = key then ["<sip:".toList ++ sipDomain ++ ";lr>".toList] else []) ++
      ((if key ∈ inviteSkipped then [] else (msg.values key).map trim) ++
      (if "content-length".toList = key then [ofNat (byteLength body)] else [])))) := by
  have via : normalizeHeaderName platform "Via".toList = "via".toList :=
    (normalizeHeaderName_of_ascii (by decide)).trans (by decide)
  have hops : normalizeHeaderName platform "Max-Forwards".toList = "max-forwards".toList :=
    (normalizeHeaderName_of_ascii (by decide)).trans (by decide)
  have route : normalizeHeaderName platform "Record-Route".toList = "record-route".toList :=
    (normalizeHeaderName_of_ascii (by decide)).trans (by decide)
  have length : normalizeHeaderName platform "Content-Length".toList = "content-length".toList :=
    (normalizeHeaderName_of_ascii (by decide)).trans (by decide)
  unfold inviteEntries
  rewrite [writtenValues_cons, writtenValues_append, writtenValues_map, writtenValues_cons,
    writtenValues_cons, writtenValues_append, writtenValues_copiedEntries parsed tables ascii,
    writtenValues_cons, via, hops, route, length, trim_ofNat, trim_ofNat,
    trim_recordRoute]
  have none : writtenValues platform [] key = [] := rfl
  rewrite [none, append_nil, ← append_assoc]
  refine congrArg (· ++ _) ?_
  by_cases same : "via".toList = key
  · rewrite [if_pos same, if_pos same, if_pos same]
    rfl
  · rewrite [if_neg same, if_neg same, if_neg same]
    rfl

theorem inviteLine_eq (targetUri : Str) :
    inviteLine targetUri =
      "INVITE".toList ++ ' ' :: (targetUri ++ ' ' :: "SIP/2.0".toList) := by
  unfold inviteLine
  simp

theorem oneLine_inviteLine (single : Str.OneLine targetUri) :
    Str.OneLine (inviteLine targetUri) := by
  rw [inviteLine_eq, oneLine_append, oneLine_cons, oneLine_append]
  exact ⟨by decide, by decide, single, by decide⟩

theorem splitn_inviteLine (noBlank : ' ' ∉ targetUri) :
    splitn 3 ' ' (inviteLine targetUri) =
      ["INVITE".toList, targetUri, "SIP/2.0".toList] := by
  rw [inviteLine_eq, splitn, splitOnce_append (by decide)]
  simp only
  rw [splitn, splitOnce_append noBlank]
  rfl

/-- What the parser sees in a forwarded INVITE. -/
structure ForwardsInvite (platform : Platform) (msg : SipMessage) (targetUri : Str) (maxFwd : Nat)
    (sipDomain body : Str) (out : SipMessage) : Prop where
  method : out.method = some "INVITE".toList
  requestUri : out.requestUri = some targetUri
  viaHeaders : out.viaHeaders =
    Str.trim (proxyVia platform (msg.callId.getD []) sipDomain) :: msg.viaHeaders.map Str.trim
  maxForwards : out.values "max-forwards".toList = [Str.ofNat maxFwd]
  recordRoute : out.values "record-route".toList =
    ["<sip:".toList ++ sipDomain ++ ";lr>".toList]
  contentLength : out.values "content-length".toList = [Str.ofNat (Str.byteLength body)]
  others : ∀ key ∉ inviteSkipped, out.values key = (msg.values key).map Str.trim

/-- A forwarded INVITE reads back as the request it was made from, under any order of the headers. -/
theorem forwardedInvite_read_back (tables : platform.CaseTables)
    (parsed : SipMessage.parse platform raw = .ok msg)
    (ascii : ∀ key ∈ msg.headers.keys, ∀ char ∈ key, char.toNat < 128)
    (solid : ∀ char ∈ targetUri, isWhitespace char = false) (single : Str.OneLine sipDomain)
    (maxFwd : Nat) (rewritten : Option Str) :
    ∃ out, SipMessage.parse platform
        (buildForwardedInviteForTarget platform msg targetUri maxFwd sipDomain rewritten) = .ok out ∧
      ForwardsInvite platform msg targetUri maxFwd sipDomain (rewritten.getD msg.body) out := by
  have noBlank : ' ' ∉ targetUri := fun member => absurd (solid ' ' member) (by decide)
  have noFeed : Str.OneLine targetUri := fun member => absurd (solid '\n' member) (by decide)
  have parts := splitn_inviteLine noBlank
  have request : ¬ Str.startsWith (inviteLine targetUri) "SIP/2.0".toList = true := by
    rw [inviteLine_eq]
    simp [Str.startsWith]
  have several : 2 ≤ (Str.splitn 3 ' ' (inviteLine targetUri)).length := by
    rw [parts]
    exact Nat.le_succ 2
  have valid : ∀ entry ∈ inviteEntries platform msg maxFwd sipDomain (rewritten.getD msg.body),
      HeaderEntry entry := headerEntry_inviteEntries tables parsed ascii single
  obtain ⟨out, read, -, line, values⟩ := SipMessage.parse_renderMessage platform
    (rewritten.getD msg.body) (oneLine_inviteLine noFeed) several valid
  rw [← buildForwardedInviteForTarget_render] at read
  obtain ⟨method, uri⟩ := line request
  have listed := fun key => (values key).trans (writtenValues_inviteEntries tables parsed ascii)
  refine ⟨out, read, method.trans ?_, uri.trans ?_, (listed _).trans ?_, (listed _).trans ?_,
    (listed _).trans ?_, (listed _).trans ?_, fun key other => (listed key).trans ?_⟩
  · rw [parts]
    rfl
  · rw [parts]
    rfl
  · simp [inviteSkipped]
  · simp [inviteSkipped]
  · simp [inviteSkipped]
  · simp [inviteSkipped]
  · have different : ∀ name ∈ inviteSkipped, name ≠ key := fun name member same =>
      other (same ▸ member)
    rw [if_neg other, if_neg (different _ (.head _)), if_neg (different _ (.tail _ (.head _))),
      if_neg (different _ (.tail _ (.tail _ (.tail _ (.head _))))),
      if_neg (different _ (.tail _ (.tail _ (.head _)))), List.append_nil]
    rfl

/-- A small request with a compact and an unknown header. -/
theorem forwardedInvite_read_back_small :
    let raw := messageText "INVITE sip:b SIP/2.0".toList
      ["Via: SIP/2.0/UDP c".toList, "x-call-note:  kept ".toList, "i: 7".toList] "hi".toList
    ∃ msg out, SipMessage.parse (.ascii fun _ => none) raw = .ok msg ∧
      msg.values "x-call-note".toList = ["kept".toList] ∧
      SipMessage.parse (.ascii fun _ => none) (buildForwardedInviteForTarget (.ascii fun _ => none)
        msg "sip:b@host".toList 69 "d".toList none) = .ok out ∧
      ForwardsInvite (.ascii fun _ => none) msg "sip:b@host".toList 69 "d".toList msg.body out := by
  intro raw
  obtain ⟨msg, parsed, names, note⟩ : ∃ msg, SipMessage.parse (.ascii fun _ => none) raw = .ok msg ∧
      (∀ key ∈ msg.headers.keys, ∀ char ∈ key, char.toNat < 128) ∧
      msg.values "x-call-note".toList = ["kept".toList] :=
    ⟨_, rfl, fun key listed => Str.forall_mem_of_all (by revert key listed; decide +kernel),
      by decide +kernel⟩
  obtain ⟨out, read, forwards⟩ := forwardedInvite_read_back (Platform.caseTables_ascii _) parsed names
    (Str.forall_mem_of_all (by decide) : ∀ char ∈ "sip:b@host".toList, isWhitespace char = false)
    (by decide : Str.OneLine "d".toList) 69 none
  exact ⟨msg, out, parsed, note, read, forwards⟩

end ReadBack

section Body

variable {firstLine body : Str} {headers : List Str}

/-- The text after the first blank line. -/
def sentBody (text : Str) : Option Str :=
  (Sdp.splitOnceStr blankLine text).map Prod.snd

/-- The header lines of a forwarded INVITE stay lines, whatever the names of the request are. -/
theorem headerLines_inviteEntries (tables : platform.CaseTables) {raw : Str}
    (parsed : parse platform raw = .ok msg) (single : Str.OneLine sipDomain)
    (maxFwd : Nat) (body : Str) :
    HeaderLines ((inviteEntries platform msg maxFwd sipDomain body).map headerLine) := by
  have named : ∀ name ∈ inviteNames, Str.OneLine name := by decide
  constructor
  · refine forall_mem_map.mpr fun entry member => ?_
    obtain ⟨value, own | ⟨row, inside, given, listed, copied⟩⟩ :=
      mem_inviteEntries parsed single member
    · exact oneLine_append.mpr ⟨oneLine_append.mpr ⟨named _ own, by decide⟩, value⟩
    · have normal := normalName_of_mem_copiedTable parsed tables inside listed
      have name : Str.OneLine entry.1 := copied ▸ oneLine_capitalizeHeader tables normal.oneLine
      exact oneLine_append.mpr ⟨oneLine_append.mpr ⟨name, by decide⟩, value⟩
  · refine forall_mem_map.mpr fun entry _ => ?_
    simp [headerLine]

/-- The body of a forwarded INVITE is the body of the request exactly when the lines of the body are
separated by CRLF and its last line is not ended. -/
theorem sentBody_forwardedInvite_iff (tables : platform.CaseTables)
    (first : Str.OneLine firstLine) (valid : HeaderLines headers)
    (parsed : SipMessage.parse platform (messageText firstLine headers body) = .ok msg)
    (target : Str.OneLine targetUri) (domain : Str.OneLine sipDomain) (maxFwd : Nat) :
    sentBody (buildForwardedInviteForTarget platform msg targetUri maxFwd sipDomain none) =
      some body ↔ Str.CrLfBetween body := by
  obtain ⟨-, table, read, -⟩ :=
    SipMessage.parse_lines_ok (lines_messageText first valid body) valid.filled parsed
  have joined : msg.body = Str.join "\r\n".toList (Str.lines body) := by rw [read]; rfl
  have written := headerLines_inviteEntries tables parsed domain maxFwd msg.body
  have sent : sentBody (buildForwardedInviteForTarget platform msg targetUri maxFwd sipDomain none) =
      some msg.body := by
    rw [buildForwardedInviteForTarget_render, renderMessage_eq, sentBody, Option.getD_none,
      splitOnceStr_messageText (oneLine_inviteLine target) written, Option.map_some]
  rw [sent, joined, Option.some_inj, Str.join_lines_eq_iff]

/-- A body of two lines, the last one not ended, arrives as it is. -/
theorem sentBody_forwardedInvite_lines :
    let body := "v=0\r\ns=-".toList
    Str.CrLfBetween body ∧ ∃ msg, SipMessage.parse (.ascii fun _ => none)
        (messageText "INVITE sip:b SIP/2.0".toList ["To: b".toList] body) = .ok msg ∧
      sentBody (buildForwardedInviteForTarget (.ascii fun _ => none) msg "sip:b".toList 70 "d".toList
        none) = some body := by
  intro body
  have between : Str.CrLfBetween body := (Str.join_lines_eq_iff body).mp (by decide)
  obtain ⟨msg, parsed⟩ : ∃ msg, SipMessage.parse (.ascii fun _ => none)
      (messageText "INVITE sip:b SIP/2.0".toList ["To: b".toList] body) = .ok msg := ⟨_, rfl⟩
  exact ⟨between, msg, parsed, (sentBody_forwardedInvite_iff (Platform.caseTables_ascii _) (by decide)
    (by decide) parsed (by decide) (by decide) 70).mpr between⟩

/-- A body that ends with CRLF, as a session description does, loses it. -/
theorem sentBody_forwardedInvite_ended :
    ∃ msg, SipMessage.parse (.ascii fun _ => none)
        (messageText "INVITE sip:b SIP/2.0".toList ["To: b".toList] "v=0\r\n".toList) = .ok msg ∧
      sentBody (buildForwardedInviteForTarget (.ascii fun _ => none) msg "sip:b".toList 70 "d".toList
        none) = some "v=0".toList :=
  ⟨_, rfl, by decide +kernel⟩

end Body

end Sip3
