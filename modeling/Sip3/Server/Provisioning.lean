import Sip3.Api.Accounts
import Sip3.Semantics.Ensures
import Sip3.Server.DigestClient
import Sip3.Server.Nonce
import Sip3.Server.Scenario

/-!
# Accounts that register

An account that is created over the API, a challenge of the registrar, and a client that answers
it. The client takes the realm from the challenge, where it is `server.sip_domain`; the digest of
the account was made with `auth.realm`. The two agree when the configuration gives them one value.
-/

namespace Sip3

open Text Semantics System Registrar Accounts

/-! ### The challenge and its answer -/

open AuthParams

theorem generateNonce_quotable (server : Server) (issued : Nat) (random : Vector UInt8 8) :
    Quotable (generateNonce server issued (Str.ofBytes random.toList)) := by
  intro char member
  rcases List.mem_append.mp member with data | rest
  · exact quotable_of_hex (nonceData_hex issued random) char data
  · rcases List.mem_cons.mp rest with rfl | mac
    · decide
    · exact quotable_of_hex (server.platform.md5Hex_hex _) char mac

/-- The parameters of a challenge. -/
def challengeParameters (platform : Platform) {realm nonce : Str} (realmPlain : Quotable realm)
    (noncePlain : Quotable nonce) : List (Parameter platform) :=
  [quote "realm".toList realm (.refl true) realmPlain,
    quote "nonce".toList nonce (.refl true) noncePlain,
    bare "algorithm".toList "MD5".toList (.refl true) md5_plain,
    quote "qop".toList "auth".toList (.refl true) (Str.forall_mem_of_all (by decide))]

theorem parseAuthParams_makeWwwAuthenticate (platform : Platform) {realm nonce : Str}
    (realmPlain : Quotable realm) (noncePlain : Quotable nonce) :
    parseAuthParams platform (makeWwwAuthenticate realm nonce) =
      .ok (store (challengeParameters platform realmPlain noncePlain) ∅) := by
  have written : makeWwwAuthenticate realm nonce =
      headerText "Digest".toList (challengeParameters platform realmPlain noncePlain) := by
    have lead : "Digest realm=\"".toList =
        "Digest".toList ++ ' ' :: ("realm".toList ++ ['=', '"']) := by decide
    have middle : "\", nonce=\"".toList =
        '"' :: (", ".toList ++ ("nonce".toList ++ ['=', '"'])) := by decide
    have last : "\", algorithm=MD5, qop=\"auth\"".toList = '"' :: (", ".toList ++
        ("algorithm".toList ++ '=' :: ("MD5".toList ++ (", ".toList ++
          ("qop".toList ++ '=' :: '"' :: ("auth".toList ++ ['"'])))))) := by decide
    have join : ∀ {first second third first' second' third' : Str}, first = first' →
        second = second' → third = third' →
        first ++ realm ++ second ++ nonce ++ third =
          first' ++ realm ++ second' ++ nonce ++ third' := by
      rintro first second third _ _ _ rfl rfl rfl
      rfl
    refine (join lead middle last).trans ?_
    simp only [headerText, listText, moreText, challengeParameters, Parameter.text,
      Parameter.valueText, quote, bare, List.flatMap_cons, List.flatMap_nil, List.append_assoc,
      List.cons_append, List.nil_append, List.append_nil, ↓reduceIte, Bool.false_eq_true]
  rw [written]
  exact parseAuthParams_headerText (by decide) _

/-- The realm and the nonce that a client reads from a challenge. -/
theorem param_challenge (platform : Platform) {realm nonce : Str} (realmPlain : Quotable realm)
    (noncePlain : Quotable nonce) :
    param (store (challengeParameters platform realmPlain noncePlain) ∅) "realm" = realm ∧
      param (store (challengeParameters platform realmPlain noncePlain) ∅) "nonce" = nonce := by
  have distinct : ((challengeParameters platform realmPlain noncePlain).map (·.name)).Nodup := by
    change ["realm".toList, "nonce".toList, "algorithm".toList, "qop".toList].Nodup
    decide
  have realmStored := lookup_store distinct (.head _) ∅
  have nonceStored := lookup_store distinct (.tail _ (.head _)) ∅
  exact ⟨congrArg (·.getD []) realmStored, congrArg (·.getD []) nonceStored⟩

/-- The digest of a client for a REGISTER with `qop=auth`. -/
def clientResponse (platform : Platform) (username realm password nonce nc cnonce uri : Str) : Str :=
  let colon (left right : Str) : Str := left ++ ':' :: right
  let a1 := platform.md5Hex (colon username (colon realm password))
  let a2 := platform.md5Hex (colon "REGISTER".toList uri)
  platform.md5Hex (colon a1 (colon nonce (colon nc (colon cnonce (colon "auth".toList a2)))))

/-- Credentials that answer a challenge by the digest rules: the client takes realm and nonce from
the parameters of the challenge, and chooses the rest. -/
structure AnswersChallenge (platform : Platform) (challenge username password header : Str)
    (params : AuthParams.Params) : Prop where
  parsed : parseAuthParams platform header = .ok params
  qop : Registrar.param params "qop" = "auth".toList
  digest : ∃ offer, parseAuthParams platform challenge = .ok offer ∧
    Registrar.param params "nonce" = Registrar.param offer "nonce" ∧
    Registrar.param params "response" = clientResponse platform username
      (Registrar.param offer "realm") password (Registrar.param offer "nonce")
      (Registrar.param params "nc") (Registrar.param params "cnonce")
      (Registrar.param params "uri")

open DigestClient in
/-- The header of the test client answers a challenge with the same realm and nonce. -/
theorem answers_buildRegisterAuthorization (platform : Platform) {cfg : SipEndpointConfig}
    {nonce realm nc cnonce : Str} (writable : Writable cfg nonce realm nc cnonce) :
    AnswersChallenge platform (makeWwwAuthenticate realm nonce) cfg.username cfg.password
      (buildRegisterAuthorization platform cfg nonce realm nc cnonce)
      (store (parameters writable platform) ∅) := by
  have stored := @param_parameters _ _ _ _ _ writable platform
  set params := store (parameters writable platform) ∅
  have uriRead : Registrar.param params "uri" = uri cfg := stored (List.mem_of_getElem? (i := 3) rfl)
  have ncRead : Registrar.param params "nc" = nc := stored (List.mem_of_getElem? (i := 7) rfl)
  have cnonceRead : Registrar.param params "cnonce" = cnonce :=
    stored (List.mem_of_getElem? (i := 8) rfl)
  obtain ⟨realmRead, nonceRead⟩ := param_challenge platform writable.realm writable.nonce
  refine ⟨?parsed, ?qop, _, parseAuthParams_makeWwwAuthenticate platform writable.realm
    writable.nonce, ?nonce, ?response⟩
  case parsed =>
    rw [buildRegisterAuthorization_eq writable]
    exact parseAuthParams_headerText (by decide) _
  case qop => exact stored (List.mem_of_getElem? (i := 6) rfl)
  case nonce =>
    rw [nonceRead]
    exact stored (List.mem_of_getElem? (i := 2) rfl)
  case response =>
    rw [realmRead, nonceRead, ncRead, cnonceRead, uriRead]
    exact stored (List.mem_of_getElem? (i := 4) rfl)

/-- An account made over the API in the domain of the server, a challenge of the registrar, and the
credentials of a client that answer it with the password of the account. Other accounts may have
changed in between. -/
structure Attempt (server : Server) where
  realm : Str
  outcome : Accounts.Outcome
  table : Accounts.Table
  body : Accounts.CreateAccount
  id : Nat
  after : Accounts.Table
  created : Accounts.create server.platform realm outcome table body = (.ok id, after)
  domain : body.domain.getD realm = server.cfg.sipDomain
  requests : List (Accounts.Request × Accounts.Outcome)
  untouched : ∀ entry ∈ requests, entry.1.target? ≠ some id
  issued : Nat
  random : Vector UInt8 8
  header : Str
  params : AuthParams.Params
  answers : AnswersChallenge server.platform
    (makeWwwAuthenticate server.cfg.sipDomain
      (Registrar.generateNonce server issued (Str.ofBytes random.toList)))
    body.username body.password header params

namespace Attempt

variable {server : Server} (attempt : Attempt server)

/-- The accounts when the client answers. -/
def accounts : Accounts.Table :=
  Accounts.applyAll server.platform attempt.realm attempt.after attempt.requests

/-- The row that the registrar finds. -/
def row : Option (Str × Int) :=
  attempt.accounts.lookup attempt.body.username server.cfg.sipDomain

theorem username_ne : attempt.body.username ≠ [] :=
  (row_of_create attempt.created).1

/-- The registrar finds the digest of the password under the realm of the API. -/
theorem row_eq : attempt.row = some
    (ha1 server.platform attempt.body.username attempt.realm attempt.body.password, 1) := by
  obtain ⟨-, passwordHash, created⟩ := row_of_create attempt.created
  have kept : attempt.accounts.rows.lookup attempt.id = some _ :=
    lookup_applyAll created attempt.untouched
  have found := Accounts.Table.lookup_of_row kept
  rw [createdRow, attempt.domain] at found
  exact found

/-- The client computes its digest with the domain of the server as the realm. -/
theorem params_eq (plain : Quotable server.cfg.sipDomain) :
    param attempt.params "nonce" =
        generateNonce server attempt.issued (Str.ofBytes attempt.random.toList) ∧
      param attempt.params "response" = clientResponse server.platform
        attempt.body.username server.cfg.sipDomain attempt.body.password
        (param attempt.params "nonce") (param attempt.params "nc")
        (param attempt.params "cnonce") (param attempt.params "uri") := by
  have noncePlain := generateNonce_quotable server attempt.issued attempt.random
  obtain ⟨offer, offered, nonce, response⟩ := attempt.answers.digest
  rw [parseAuthParams_makeWwwAuthenticate server.platform plain noncePlain] at offered
  cases offered
  obtain ⟨realmRead, nonceRead⟩ := param_challenge server.platform plain noncePlain
  rw [realmRead, ← nonce] at response
  exact ⟨nonce.trans nonceRead, response⟩

theorem validateNonce_eq (digits : server.platform.Md5Digits)
    (plain : Quotable server.cfg.sipDomain) (now : Nat) :
    validateNonce server now (param attempt.params "nonce") =
      some (decide (now - attempt.issued % 2 ^ 32 < server.cfg.nonceMaxAgeSecs)) := by
  rw [(attempt.params_eq plain).1]
  exact validateNonce_generateNonce digits attempt.issued now attempt.random

/-- The digest of a client that uses a realm. -/
def response (realm : Str) : Str :=
  clientResponse server.platform attempt.body.username realm attempt.body.password
    (param attempt.params "nonce") (param attempt.params "nc") (param attempt.params "cnonce")
    (param attempt.params "uri")

theorem accountMatches_row (digits : server.platform.Md5Digits)
    (plain : Quotable server.cfg.sipDomain) :
    accountMatches server attempt.params attempt.row =
      decide (attempt.response attempt.realm = attempt.response server.cfg.sipDomain) := by
  have nonempty : ha1 server.platform attempt.body.username attempt.realm
      attempt.body.password ≠ [] := by
    intro empty
    have length := digits (attempt.body.username ++ ':' :: (attempt.realm ++
      ':' :: attempt.body.password))
    rw [← ha1, empty] at length
    cases length
  have verified : verifyDigestWithHa1 server attempt.params
      (ha1 server.platform attempt.body.username attempt.realm attempt.body.password)
      "REGISTER".toList =
        decide (attempt.response attempt.realm = attempt.response server.cfg.sipDomain) := by
    have qop := attempt.answers.qop
    unfold verifyDigestWithHa1
    dsimp only
    rw [if_pos qop, (attempt.params_eq plain).2, qop]
    rfl
  rw [row_eq, accountMatches, verified, decide_eq_true nonempty]
  rfl

/-- The outside while the answer is handled: the source is not blocked, the database answers with
the row, and the clock is within the lifetime of the nonce. -/
structure Within (src : SocketAddr) (occurrences : List (Occurrence signature)) : Prop where
  admitted : ∀ blocked, ⟨.ask (.isBlocked .sipRegister (server.platform.ipText src.ip)), blocked⟩ ∈
    occurrences → blocked = false
  found : ∀ answer, ⟨.ask (.query (.accountLookup attempt.body.username server.cfg.sipDomain)),
    answer⟩ ∈ occurrences → answer = .ok attempt.row
  timely : ∀ now, ⟨.ask .clock, now⟩ ∈ occurrences →
    now - attempt.issued < server.cfg.nonceMaxAgeSecs

end Attempt

/-- The registrar accepted the credentials of a user. -/
def Authenticated (username : Str) (occurrences : List (Occurrence signature)) : Prop :=
  ∃ ip, ⟨.ask (.recordSuccess ip username), ()⟩ ∈ occurrences

/-- The step that accepts credentials. -/
def Op.authenticates : Op → Bool
  | .ask (.recordSuccess ..) => true
  | _ => false

theorem rejectCredentials_refuses {server : Server} {msg : SipMessage} {src : SocketAddr}
    (username : Str) (detail : String) :
    (Registrar.rejectCredentials server msg src username detail).Uses
      (Op.authenticates · = false) := by
  refine ⟨rfl, fun blocked => ⟨rfl, fun _ => ?_⟩⟩
  dsimp only [Program.bind]
  split
  · exact ⟨rfl, fun _ => ⟨rfl, fun _ => ⟨rfl, fun _ => ⟨rfl, fun _ => trivial⟩⟩⟩⟩
  · exact ⟨rfl, fun _ => ⟨rfl, fun _ => trivial⟩⟩

/-- Credentials are not accepted where no step accepts them. -/
theorem not_authenticated {username : Str} {occurrences : List (Occurrence signature)}
    (refuses : ∀ occurrence ∈ occurrences, Op.authenticates occurrence.op = false) :
    ¬ Authenticated username occurrences := fun ⟨_, member⟩ => by
  cases refuses _ member

/-- The time the nonce is compared with: the registrar reads the clock in its second step. -/
def Attempt.Fresh {server : Server} (attempt : Attempt server)
    (occurrences : List (Occurrence signature)) : Prop :=
  ∀ now, occurrences[1]? = some ⟨.ask .clock, now⟩ →
    now - attempt.issued % 2 ^ 32 < server.cfg.nonceMaxAgeSecs

theorem Attempt.fresh_iff {server : Server} (attempt : Attempt server) {now : Nat}
    {first : Occurrence signature} {rest : List (Occurrence signature)} :
    attempt.Fresh (first :: ⟨.ask .clock, now⟩ :: rest) ↔
      now - attempt.issued % 2 ^ 32 < server.cfg.nonceMaxAgeSecs := by
  refine ⟨fun fresh => fresh now rfl, fun holds other same => ?_⟩
  cases same
  exact holds

/-- The answer of a client within the lifetime of the nonce passes both checks exactly when the 32
bits of the issue time that the nonce has are within the lifetime as well, and the digest made with
`auth.realm` is the one made with `server.sip_domain`; so with one value for both, before 2106. -/
theorem provisioned_account_registers_iff {server : Server} (digits : server.platform.Md5Digits)
    (plain : Quotable server.cfg.sipDomain) (attempt : Attempt server)
    {msg : SipMessage} (user : headerUser msg.fromHeader = some attempt.body.username)
    (authorization : msg.authorization = some attempt.header) (src : SocketAddr)
    (state : ServerState) :
    server.system.Ensures state (Registrar.handleRegister server msg src) fun occurrences _ _ =>
      attempt.Within src occurrences →
        (Authenticated attempt.body.username occurrences ↔ attempt.Fresh occurrences ∧
          attempt.response attempt.realm = attempt.response server.cfg.sipDomain) ∧
        (attempt.realm = server.cfg.sipDomain → attempt.issued < 2 ^ 32 →
          Authenticated attempt.body.username occurrences) := by
  intro occurrences final value execution within
  have named : (headerUser msg.fromHeader).getD [] = attempt.body.username := by rw [user]; rfl
  unfold Registrar.handleRegister at execution
  dsimp only at execution
  rw [named, if_neg attempt.username_ne] at execution
  obtain ⟨blocked, _, _, rfl, -, admitted⟩ := exec_perform_iff.mp execution
  obtain rfl := within.admitted blocked (.head _)
  rw [if_neg Bool.false_ne_true, authorization] at admitted
  dsimp only at admitted
  rw [attempt.answers.parsed] at admitted
  -- The nonce is the registrar's own and not too old.
  obtain ⟨now, _, rest, rfl, -, validated⟩ := exec_perform_iff.mp admitted
  have timely := within.timely now (.tail _ (.head _))
  suffices exact : Authenticated attempt.body.username _ ↔ attempt.Fresh _ ∧
      attempt.response attempt.realm = attempt.response server.cfg.sipDomain by
    refine ⟨exact, fun same early => exact.mpr ⟨attempt.fresh_iff.mpr ?_, congrArg _ same⟩⟩
    rwa [Nat.mod_eq_of_lt early]
  rw [attempt.fresh_iff]
  rw [attempt.validateNonce_eq digits plain now] at validated
  by_cases fresh : now - attempt.issued % 2 ^ 32 < server.cfg.nonceMaxAgeSecs
  · rw [decide_eq_true fresh] at validated
    -- The row has the digest of the password.
    obtain ⟨answer, _, _, rfl, -, matched⟩ := exec_perform_iff.mp validated
    obtain rfl := within.found answer (.tail _ (.tail _ (.head _)))
    dsimp only at matched
    rw [attempt.accountMatches_row digits plain] at matched
    by_cases agrees : attempt.response attempt.realm = attempt.response server.cfg.sipDomain
    · rw [decide_eq_true agrees, if_pos rfl] at matched
      obtain ⟨_, _, _, rfl, -, -⟩ := exec_perform_iff.mp matched
      exact iff_of_true ⟨server.platform.ipText src.ip, .tail _ (.tail _ (.tail _ (.head _)))⟩
        ⟨fresh, agrees⟩
    · rw [decide_eq_false agrees, if_neg Bool.false_ne_true] at matched
      refine iff_of_false (not_authenticated ?_) fun both => agrees both.2
      exact List.forall_mem_cons.mpr ⟨rfl, List.forall_mem_cons.mpr ⟨rfl,
        List.forall_mem_cons.mpr ⟨rfl, matched.within (rejectCredentials_refuses _ _)⟩⟩⟩
  · rw [decide_eq_false fresh] at validated
    refine iff_of_false (not_authenticated ?_) fun both => fresh both.1
    exact List.forall_mem_cons.mpr ⟨rfl, List.forall_mem_cons.mpr ⟨rfl,
      validated.within (rejectCredentials_refuses _ _)⟩⟩

namespace ProvisioningSample

open DigestSample

theorem plain : Quotable server.cfg.sipDomain := Str.forall_mem_of_all (by decide)

/-- An account in the domain of the server. -/
def body : Accounts.CreateAccount :=
  ⟨"100".toList, "pw".toList, none, some "t".toList⟩

/-- The database works. -/
def outcome : Accounts.Outcome := ⟨fun _ => .ok [], none, []⟩

/-- The random part of the nonce. -/
def random : Vector UInt8 8 := Vector.replicate 8 0

/-- The client of the account. -/
def endpoint : DigestClient.SipEndpointConfig := ⟨"t".toList, body.username, body.password⟩

/-- The nonce of the challenge. -/
def nonce : Str := Registrar.generateNonce server 0 (Str.ofBytes random.toList)

theorem writable : DigestClient.Writable endpoint nonce server.cfg.sipDomain "00000001".toList
    "x".toList where
  domain := plain
  username := Str.forall_mem_of_all (by decide)
  nonce := generateNonce_quotable server 0 random
  realm := plain
  cnonce := Str.forall_mem_of_all (by decide)
  nc := ⟨Str.forall_mem_of_all (by decide), by decide⟩

/-- The credentials of the client. -/
def credentials : Str :=
  DigestClient.buildRegisterAuthorization platform endpoint nonce server.cfg.sipDomain
    "00000001".toList "x".toList

/-- The account is made with a value of `auth.realm`, and the client answers a challenge. -/
def attempt (realm : Str) : Attempt server where
  realm := realm
  outcome := outcome
  table := .empty
  body := body
  id := 1
  after := (Accounts.create platform realm outcome .empty body).2
  created := rfl
  domain := rfl
  requests := []
  untouched := nofun
  issued := 0
  random := random
  header := credentials
  params := store (DigestClient.parameters writable platform) ∅
  answers := answers_buildRegisterAuthorization platform writable

/-- The REGISTER of the client. -/
def message : SipMessage :=
  match SipMessage.parse platform (Scenario.headerLines ["REGISTER sip:t SIP/2.0",
      "From: <sip:100@t>"] ++ "Authorization: ".toList ++ credentials ++
      Scenario.headerLines ["", ""]) with
  | .ok msg => msg
  | .error _ => ⟨none, none, none, ∅, [], []⟩

/-- The answers of the outside, with a row for the account. -/
def world (row : Option (Str × Int)) : Outside
  | .query (.accountLookup _ _) => .ok row
  | request => Scenario.outside none request

/-- Whether a step of the registrar is answered as it should be, and is not the end of an
authentication. -/
def unsuccessful (row : Option (Str × Int)) : Occurrence signature → Bool
  | ⟨.ask (.isBlocked _ _), blocked⟩ => !blocked
  | ⟨.ask (.query (.accountLookup _ _)), answer⟩ => decide (answer = .ok row)
  | ⟨.ask .clock, now⟩ => decide (now - 0 < server.cfg.nonceMaxAgeSecs)
  | ⟨.ask (.recordSuccess _ _), _⟩ => false
  | _ => true

end ProvisioningSample

open DigestSample ProvisioningSample in
/-- An account of a server whose realm is its domain. -/
theorem provisioned_account_registers_iff_sample :
    server.platform.Md5Digits ∧ Quotable server.cfg.sipDomain ∧
    headerUser message.fromHeader = some (attempt "t".toList).body.username ∧
    message.authorization = some (attempt "t".toList).header ∧
    ∀ src state, server.system.Ensures state (Registrar.handleRegister server message src)
      fun occurrences _ _ => (attempt "t".toList).Within src occurrences →
        Authenticated (attempt "t".toList).body.username occurrences := by
  have user : headerUser message.fromHeader = some (attempt "t".toList).body.username := by
    decide +kernel
  have authorization : message.authorization = some (attempt "t".toList).header := by
    decide +kernel
  refine ⟨md5Digits, plain, user, authorization, fun src state => ?_⟩
  intro occurrences final value execution within
  exact (provisioned_account_registers_iff md5Digits plain (attempt "t".toList) user authorization
    src state _ _ _ execution within).2 rfl (by decide)

open DigestSample ProvisioningSample in
/-- With another realm than the domain, the same client is rejected: the outside is as it should
be, and the registrar counts a failure. -/
theorem provisioned_account_rejected : Quotable "example".toList ∧ Quotable server.cfg.sipDomain ∧
    server.platform.Md5Digits ∧
    headerUser message.fromHeader = some (attempt "example".toList).body.username ∧
    message.authorization = some (attempt "example".toList).header ∧
    ∃ occurrences final value,
      server.system.Exec .initial (Registrar.handleRegister server message Scenario.caller)
        occurrences final value ∧
      (attempt "example".toList).Within Scenario.caller occurrences ∧
      ¬ Authenticated (attempt "example".toList).body.username occurrences := by
  have user : headerUser message.fromHeader = some (attempt "example".toList).body.username := by
    decide +kernel
  have authorization : message.authorization = some (attempt "example".toList).header := by
    decide +kernel
  have computed : (((world (attempt "example".toList).row).resolver server).run .initial
      (Registrar.handleRegister server message Scenario.caller)).any (fun (occurrences, _, _) =>
        occurrences.all (unsuccessful (attempt "example".toList).row)) = true := by
    decide +kernel
  obtain ⟨occurrences, final, value, execution, computed⟩ := Resolver.exists_exec computed
  have each := List.all_eq_true.mp computed
  refine ⟨Str.forall_mem_of_all (by decide), plain, md5Digits, user, authorization, occurrences,
    final, value, execution, ⟨fun blocked asked => ?_, fun answer looked => ?_, fun now read => ?_⟩, ?_⟩
  · simpa [unsuccessful] using each _ asked
  · exact of_decide_eq_true (each _ looked)
  · exact of_decide_eq_true (each _ read)
  · rintro ⟨ip, success⟩
    exact nomatch each _ success

end Sip3
