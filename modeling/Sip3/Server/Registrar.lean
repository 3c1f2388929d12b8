import Sip3.Server.Presence
import Sip3.Message.AuthParams

/-!
# Registration

`registrar.rs`: digest authentication with signed nonces, and the registration
table in the database. Parsing the credentials can panic, which ends the task.
-/

namespace Sip3.Registrar

open Text Semantics Sip3.Action

variable (server : Server)

/-- `generate_nonce` at a time, with its random part. -/
def generateNonce (time : Nat) (randomHex : Str) : Str :=
  let data := Str.ofHex 8 (time % 2 ^ 32) ++ randomHex
  data ++ ':' :: server.platform.md5Hex (server.cfg.nonceSecret ++ ':' :: data)

/-- The value of a hexadecimal digit. -/
def hexDigit (char : Char) : Option Nat :=
  if char.isDigit then some (char.toNat - '0'.toNat)
  else if 'a' ≤ char ∧ char ≤ 'f' then some (char.toNat - 'a'.toNat + 10)
  else if 'A' ≤ char ∧ char ≤ 'F' then some (char.toNat - 'A'.toNat + 10)
  else none

/-- `u64::from_str_radix` to base 16, of a text too short to overflow. -/
def parseHex (text : Str) : Option Nat :=
  let body := match text with
    | '+' :: rest => rest
    | other => other
  if body = [] then none
  else body.foldlM (fun value char => (hexDigit char).map (value * 16 + ·)) 0

/-- `validate_nonce` at a time. `none` stands for a slice off a boundary. -/
def validateNonce (time : Nat) (nonce : Str) : Option Bool :=
  if Str.byteLength nonce < 57 then some false
  else if (Str.encode nonce)[24]? ≠ some ':'.toNat.toUInt8 then some false
  else do
    let data ← Str.slice nonce 0 24
    let mac ← Str.slice nonce 25 (Str.byteLength nonce)
    if Str.byteLength mac ≠ 32 then some false
    else if server.platform.md5Hex (server.cfg.nonceSecret ++ ':' :: data) ≠ mac then some false
    else do
      let stamp ← Str.slice data 0 8
      match parseHex stamp with
      | none => some false
      | some issued => some (decide (time - issued < server.cfg.nonceMaxAgeSecs))

/-- A credential parameter, empty when it is missing. -/
def param (params : AuthParams.Params) (name : String) : Str :=
  (params.lookup name.toList).getD []

/-- `verify_digest_with_ha1`. -/
def verifyDigestWithHa1 (params : AuthParams.Params) (ha1 method : Str) : Bool :=
  let colon (left right : Str) : Str := left ++ ':' :: right
  let ha2 := server.platform.md5Hex (colon method (param params "uri"))
  let nonce := param params "nonce"
  let expected :=
    if param params "qop" = "auth".toList then
      server.platform.md5Hex (colon ha1 (colon nonce (colon (param params "nc")
        (colon (param params "cnonce") (colon (param params "qop") ha2)))))
    else server.platform.md5Hex (colon ha1 (colon nonce ha2))
  expected = param params "response"

/-- `unauthorized_response`. -/
def unauthorizedResponse (msg : SipMessage) : Action (Fallible Str) := do
  let time ← ask .clock
  let bytes ← ask (.randomBytes 8)
  return .ok ((baseResponse msg 401 "Unauthorized".toList).header "WWW-Authenticate".toList
    (makeWwwAuthenticate server.cfg.sipDomain
      (generateNonce server time (Str.ofBytes bytes.toList)))).build

/-- Count and store a failed authentication, ban the source when it is blocked, and
challenge again. -/
def rejectCredentials (msg : SipMessage) (src : SocketAddr) (username : Str) (detail : String) :
    Action (Fallible Str) := do
  let sourceIp := server.platform.ipText src.ip
  let blocked ← ask (.recordFailure .sipRegister sourceIp (some username))
  let _ ← query (.securityEvent .sipRegister .authFailed sourceIp (some username) detail.toList)
  if blocked ∧ server.cfg.persistAclBans then
    let _ ← query (.aclBan src.ip server.cfg.aclBanPriority
      "auto-ban: sip register brute force".toList)
    let _ ← query (.securityEvent .sipRegister .ipBlocked sourceIp (some username)
      "register source blocked by threshold".toList)
    unauthorizedResponse server msg
  else unauthorizedResponse server msg

/-- The lifetime a request asks for: its Expires header, or the parameter of its Contact. -/
def requestedExpires (msg : SipMessage) (contact : Str) : Nat :=
  let fromContact := ((Str.split ';' contact).find? fun part =>
    Str.startsWith (server.platform.toLowercase (Str.trim part)) "expires=".toList).bind fun part =>
      ((Str.split '=' part)[1]?).bind fun value => Str.parseUnsigned (2 ^ 32) (Str.trim value)
  (msg.expires.or fromContact).getD server.cfg.registrationExpires

/-- The part of `handle_register` after authentication. -/
def register (msg : SipMessage) (src : SocketAddr) (username : Str) : Action (Fallible Str) :=
  let domain := server.cfg.sipDomain
  let contact := msg.contact.getD "*".toList
  let expires := requestedExpires server msg contact
  if Str.trim contact = "*".toList ∨ expires = 0 then do
    match ← query (.deleteRegistration username domain) with
    | .error error => return .error error
    | .ok _ =>
      Presence.notifyStatusChange server username domain .closed
      return .ok (plainResponse msg 200 "OK")
  else do
    let contactUri := routableContactUri server.platform contact username src
    match ← query (.upsertRegistration username domain contactUri (msg.userAgent.getD []) expires
        (server.platform.ipText src.ip) src.port) with
    | .error error => return .error error
    | .ok _ =>
      Presence.notifyStatusChange server username domain .opened
      let _ ← query (.webhook "registration.changed".toList)
      return .ok ((baseResponse msg 200 "OK".toList).header "Contact".toList
        ('<' :: contactUri ++ ">;expires=".toList ++ Str.ofNat expires)).build

/-- Whether an account row is enabled, has a hash, and matches the credentials. -/
def accountMatches (params : AuthParams.Params) : Option (Str × Int) → Bool
  | none => false
  | some (ha1, enabled) =>
    decide (enabled ≠ 0) && decide (ha1 ≠ []) &&
      verifyDigestWithHa1 server params ha1 "REGISTER".toList

/-- The part of `handle_register` with parsed credentials. -/
def authenticate (msg : SipMessage) (src : SocketAddr) (username : Str)
    (params : AuthParams.Params) : Action (Fallible Str) := do
  let sourceIp := server.platform.ipText src.ip
  let time ← ask .clock
  match validateNonce server time (param params "nonce") with
  | none => panic
  | some false =>
    rejectCredentials server msg src username "register auth failed: stale or invalid nonce"
  | some true =>
    match ← query (.accountLookup username server.cfg.sipDomain) with
    | .error error => return .error error
    | .ok row =>
      if accountMatches server params row then
        let _ ← ask (.recordSuccess sourceIp username)
        let _ ← query (.securityEvent .sipRegister .authSucceeded sourceIp (some username)
          "register auth succeeded".toList)
        register server msg src username
      else
        rejectCredentials server msg src username
          "register auth failed: invalid account or digest"

/-- `Registrar::handle_register`. -/
def handleRegister (msg : SipMessage) (src : SocketAddr) : Action (Fallible Str) :=
  let username := (headerUser msg.fromHeader).getD []
  if username = [] then return .ok (plainResponse msg 400 "Bad Request")
  else do
    if ← ask (.isBlocked .sipRegister (server.platform.ipText src.ip)) then
      return .ok (plainResponse msg 403 "Forbidden")
    else
      match msg.authorization with
      | none => unauthorizedResponse server msg
      | some header =>
        match parseAuthParams server.platform header with
        | .error _ => panic
        | .ok params => authenticate server msg src username params

end Sip3.Registrar
