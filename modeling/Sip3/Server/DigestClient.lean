import Sip3.Message.AuthHeader
import Sip3.Server.Scenario

/-!
# The client of the registrar's challenge

`build_register_authorization` of the test client. It writes nine parameters into a header, where
`parse_auth_params` of the server has to find them again, and computes the digest on its own.
-/

namespace Sip3.DigestClient

open Text AuthParams

/-- The fields of `SipEndpointConfig` that the credentials use. -/
structure SipEndpointConfig where
  domain : Str
  username : Str
  password : Str

section Authorization

variable (platform : Platform) (cfg : SipEndpointConfig) (nonce realm nc cnonce : Str)

/-- The URI of the client's REGISTER. -/
def uri : Str :=
  "sip:".toList ++ cfg.domain

/-- The digest that the client computes. -/
def response : Str :=
  let ha1 := platform.md5Hex (cfg.username ++ ':' :: (realm ++ ':' :: cfg.password))
  let ha2 := platform.md5Hex ("REGISTER:".toList ++ uri cfg)
  platform.md5Hex (ha1 ++ ':' :: (nonce ++ ':' :: (nc ++ ':' :: (cnonce ++
    (":auth:".toList ++ ha2)))))

/-- `build_register_authorization`. -/
def buildRegisterAuthorization : Str :=
  "Digest username=\"".toList ++ cfg.username ++ "\", realm=\"".toList ++ realm ++
    "\", nonce=\"".toList ++ nonce ++ "\", uri=\"".toList ++ uri cfg ++
    "\", response=\"".toList ++ response platform cfg nonce realm nc cnonce ++
    "\", algorithm=MD5, qop=auth, nc=".toList ++ nc ++ ", cnonce=\"".toList ++ cnonce ++
    "\"".toList

end Authorization

/-- What the client needs for its header to be read back: nothing in quotes holds a quote or a
backslash, and the count, which stands without quotes, is one word. -/
structure Writable (cfg : SipEndpointConfig) (nonce realm nc cnonce : Str) : Prop where
  domain : Quotable cfg.domain
  username : Quotable cfg.username
  nonce : Quotable nonce
  realm : Quotable realm
  cnonce : Quotable cnonce
  nc : (∀ char ∈ nc, isWhitespace char = false ∧ char ≠ ',') ∧ nc.head? ≠ some '"'

section Written

variable {cfg : SipEndpointConfig} {nonce realm nc cnonce : Str}
  (writable : Writable cfg nonce realm nc cnonce)

theorem quotable_append {left right : Str} (first : Quotable left) (second : Quotable right) :
    Quotable (left ++ right) := by
  intro char member
  rcases List.mem_append.mp member with front | back
  · exact first char front
  · exact second char back

/-- The parameters that the client writes. -/
def parameters (platform : Platform) : List (Parameter platform) :=
  [quote "username".toList cfg.username (.refl true) writable.username,
    quote "realm".toList realm (.refl true) writable.realm,
    quote "nonce".toList nonce (.refl true) writable.nonce,
    quote "uri".toList (uri cfg) (by decide)
      (quotable_append (Str.forall_mem_of_all (by decide)) writable.domain),
    quote "response".toList (response platform cfg nonce realm nc cnonce) (by decide)
      (quotable_of_hex (platform.md5Hex_hex _)),
    bare "algorithm".toList "MD5".toList (.refl true) md5_plain,
    bare "qop".toList "auth".toList (.refl true) ⟨Str.forall_mem_of_all (by decide), by decide⟩,
    bare "nc".toList nc (.refl true) writable.nc,
    quote "cnonce".toList cnonce (.refl true) writable.cnonce]

theorem buildRegisterAuthorization_eq (platform : Platform) :
    buildRegisterAuthorization platform cfg nonce realm nc cnonce =
      headerText "Digest".toList (parameters writable platform) := by
  have join {a b c d e f g h a' b' c' d' e' f' g' h' : Str} (first : a = a') (second : b = b')
      (third : c = c') (fourth : d = d') (fifth : e = e') (sixth : f = f') (seventh : g = g')
      (eighth : h = h') (digest : Str) :
      a ++ cfg.username ++ b ++ realm ++ c ++ nonce ++ d ++ uri cfg ++ e ++ digest ++ f ++ nc ++ g ++
        cnonce ++ h = a' ++ cfg.username ++ b' ++ realm ++ c' ++ nonce ++ d' ++ uri cfg ++ e' ++
        digest ++ f' ++ nc ++ g' ++ cnonce ++ h' := by
    subst first second third fourth fifth sixth seventh eighth
    rfl
  have lead : "Digest username=\"".toList =
      "Digest".toList ++ ' ' :: ("username".toList ++ ['=', '"']) := by decide
  have realmLead : "\", realm=\"".toList =
      '"' :: (", ".toList ++ ("realm".toList ++ ['=', '"'])) := by decide
  have nonceLead : "\", nonce=\"".toList =
      '"' :: (", ".toList ++ ("nonce".toList ++ ['=', '"'])) := by decide
  have uriLead : "\", uri=\"".toList =
      '"' :: (", ".toList ++ ("uri".toList ++ ['=', '"'])) := by decide
  have responseLead : "\", response=\"".toList =
      '"' :: (", ".toList ++ ("response".toList ++ ['=', '"'])) := by decide
  have ncLead : "\", algorithm=MD5, qop=auth, nc=".toList =
      '"' :: (", ".toList ++ ("algorithm".toList ++ '=' :: ("MD5".toList ++ (", ".toList ++
        ("qop".toList ++ '=' :: ("auth".toList ++ (", ".toList ++ ("nc".toList ++ ['='])))))))) := by
    decide
  have cnonceLead : ", cnonce=\"".toList = ", ".toList ++ ("cnonce".toList ++ ['=', '"']) := by
    decide
  have close : "\"".toList = ['"'] := by decide
  refine (join lead realmLead nonceLead uriLead responseLead ncLead cnonceLead close _).trans ?_
  simp only [headerText, listText, moreText, parameters, Parameter.text,
    Parameter.valueText, quote, bare, List.flatMap_cons, List.flatMap_nil, List.append_assoc,
    List.cons_append, List.nil_append, List.append_nil, ↓reduceIte, Bool.false_eq_true]

/-- Each value is found under its name. -/
theorem param_parameters (platform : Platform) {parameter : Parameter platform}
    (written : parameter ∈ parameters writable platform) :
    ((store (parameters writable platform) ∅).lookup parameter.name).getD [] = parameter.value := by
  have distinct : ((parameters writable platform).map (·.name)).Nodup := by
    change ["username".toList, "realm".toList, "nonce".toList, "uri".toList, "response".toList,
      "algorithm".toList, "qop".toList, "nc".toList, "cnonce".toList].Nodup
    decide
  rw [lookup_store distinct written]
  rfl

end Written

/-- The header of the client is read by the server, and its digest is the one that the server
expects for the same user, realm and password. -/
theorem verifyDigest_buildRegisterAuthorization (server : Server) {cfg : SipEndpointConfig}
    {nonce realm nc cnonce : Str} (writable : Writable cfg nonce realm nc cnonce) :
    ∃ params, parseAuthParams server.platform
        (buildRegisterAuthorization server.platform cfg nonce realm nc cnonce) = .ok params ∧
      Registrar.verifyDigestWithHa1 server params
        (server.platform.md5Hex (cfg.username ++ ':' :: (realm ++ ':' :: cfg.password)))
        "REGISTER".toList = true := by
  have stored := @param_parameters _ _ _ _ _ writable server.platform
  refine ⟨store (parameters writable server.platform) ∅, ?parsed, ?verified⟩
  case parsed =>
    rw [buildRegisterAuthorization_eq writable]
    exact parseAuthParams_headerText (by decide) _
  case verified =>
    set params := store (parameters writable server.platform) ∅
    have nonceRead : Registrar.param params "nonce" = nonce :=
      stored (List.mem_of_getElem? (i := 2) rfl)
    have uriRead : Registrar.param params "uri" = uri cfg :=
      stored (List.mem_of_getElem? (i := 3) rfl)
    have qopRead : Registrar.param params "qop" = "auth".toList :=
      stored (List.mem_of_getElem? (i := 6) rfl)
    have ncRead : Registrar.param params "nc" = nc := stored (List.mem_of_getElem? (i := 7) rfl)
    have cnonceRead : Registrar.param params "cnonce" = cnonce :=
      stored (List.mem_of_getElem? (i := 8) rfl)
    have responseRead : Registrar.param params "response" =
        response server.platform cfg nonce realm nc cnonce :=
      stored (List.mem_of_getElem? (i := 4) rfl)
    unfold Registrar.verifyDigestWithHa1
    dsimp only
    rw [responseRead, qopRead, if_pos rfl, nonceRead, uriRead, ncRead, cnonceRead]
    exact decide_eq_true rfl

/-- The endpoint of the source's own test. -/
def testEndpoint : SipEndpointConfig :=
  ⟨"sip.air32.cn".toList, "1001".toList, "secret1".toList⟩

theorem testEndpoint_writable : Writable testEndpoint "abc123".toList "sip.air32.cn".toList
    "00000001".toList "deadbeef".toList where
  domain := Str.forall_mem_of_all (by decide)
  username := Str.forall_mem_of_all (by decide)
  nonce := Str.forall_mem_of_all (by decide)
  realm := Str.forall_mem_of_all (by decide)
  cnonce := Str.forall_mem_of_all (by decide)
  nc := ⟨Str.forall_mem_of_all (by decide), by decide⟩

theorem verifyDigest_testEndpoint : ∃ params, parseAuthParams Scenario.server.platform
      (buildRegisterAuthorization Scenario.server.platform testEndpoint "abc123".toList
        "sip.air32.cn".toList "00000001".toList "deadbeef".toList) = .ok params ∧
    Registrar.verifyDigestWithHa1 Scenario.server params
      (Scenario.server.platform.md5Hex (testEndpoint.username ++ ':' ::
        ("sip.air32.cn".toList ++ ':' :: testEndpoint.password))) "REGISTER".toList = true :=
  verifyDigest_buildRegisterAuthorization Scenario.server testEndpoint_writable

end Sip3.DigestClient
