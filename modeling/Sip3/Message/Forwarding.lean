import Sip3.Message
import Sip3.Media.Sdp

/-!
# Texts the proxy sends on

The parts of `proxy.rs` and `registrar.rs` that compute texts: forwarded INVITE
and CANCEL requests, routable contact URIs, and the tests on contact URIs that
choose the media path.
-/

namespace Sip3

open Text

/-- `is_websocket_contact_uri`. -/
def isWebsocketContactUri (contactUri : Str) : Bool :=
  Str.containsStr (Str.toAsciiLowercase contactUri) "transport=ws".toList

/-- `should_preserve_webrtc_sdp_for_target`. -/
def shouldPreserveWebRtcSdpForTarget (platform : Platform) (contactUri body : Str) : Bool :=
  isWebsocketContactUri contactUri && Sdp.isWebRtc platform body

/-- `should_bridge_plain_sip_to_websocket_target`. -/
def shouldBridgePlainSipToWebsocketTarget (platform : Platform) (contactUri body : Str) : Bool :=
  isWebsocketContactUri contactUri && body ≠ [] && !Sdp.isWebRtc platform body

/-- `is_contact_uri_param`. -/
def isContactUriParam (key : Str) : Bool :=
  key ∈ ["transport".toList, "user".toList, "method".toList, "maddr".toList, "ttl".toList,
    "lr".toList, "ob".toList, "gr".toList, "alias".toList]

/-- The lower-case name of a URI parameter. -/
def uriParamKey (param : Str) : Str :=
  let name := match Str.splitOnce '=' param with
    | some (name, _) => name
    | none => param
  Str.toAsciiLowercase (Str.trim name)

/-- `contact_uri_preserving_uri_params`. -/
def contactUriPreservingUriParams (contact : Str) : Str :=
  match extractUri contact with
  | some uri =>
    if Str.startsWith (Str.trimStart contact) ['<'] then uri else fromParts
  | none => fromParts
where
  fromParts : Str :=
    match Str.split ';' (Str.trim contact) with
    | [] => []
    | head :: params =>
      Str.trim head ++ (params.filter fun param => isContactUriParam (uriParamKey param)).flatMap
        fun param => ';' :: Str.trim param

/-- `uri_param_suffix`. -/
def uriParamSuffix (uri : Str) : Str :=
  let withoutScheme := ((Str.stripLead uri "sip:".toList).or
    (Str.stripLead uri "sips:".toList)).getD uri
  let hostAndParams := match Str.splitOnce '@' withoutScheme with
    | some (_, rest) => rest
    | none => withoutScheme
  hostAndParams.dropWhile (· ≠ ';')

/-- `socket_addr_uri_host_port`. -/
def socketAddrUriHostPort (platform : Platform) (src : SocketAddr) : Str :=
  match src.ip with
  | .v4 _ => Sdp.hostPort (platform.ipText src.ip) src.port.toNat
  | .v6 _ => Sdp.hostPort ('[' :: platform.ipText src.ip ++ "]".toList) src.port.toNat

/-- `routable_contact_uri`. -/
def routableContactUri (platform : Platform) (contact fallbackUsername : Str) (src : SocketAddr) :
    Str :=
  let uri := contactUriPreservingUriParams contact
  let scheme :=
    if Str.startsWith (Str.toAsciiLowercase uri) "sips:".toList then "sips".toList else "sip".toList
  let username := ((uriUsername uri).filter (· ≠ [])).getD fallbackUsername
  scheme ++ ':' :: username ++ '@' :: socketAddrUriHostPort platform src ++ uriParamSuffix uri

/-- `registered_target_uri`. -/
def registeredTargetUri (platform : Platform) (username contactUri : Str)
    (targetAddr : SocketAddr) : Str :=
  if isWebsocketContactUri contactUri then contactUri
  else routableContactUri platform contactUri username targetAddr

/-- `should_refresh_registration_source`. -/
def shouldRefreshRegistrationSource (platform : Platform) (registeredIp : Str)
    (registeredPort : Nat) (src : SocketAddr) : Bool :=
  decide (platform.parseIpAddr registeredIp = some src.ip) &&
    decide (registeredPort ≠ src.port.toNat)

/-- `proxy_via_branch`. -/
def proxyViaBranch (platform : Platform) (callId : Str) : Str :=
  "z9hG4bKproxy".toList ++ (platform.md5Hex callId).take 16

/-- `capitalize_header`. -/
def capitalizeHeader (platform : Platform) (name : Str) : Str :=
  if name = "call-id".toList then "Call-ID".toList
  else if name = "cseq".toList then "CSeq".toList
  else if name = "www-authenticate".toList then "WWW-Authenticate".toList
  else if name = "content-type".toList then "Content-Type".toList
  else if name = "content-length".toList then "Content-Length".toList
  else if name = "user-agent".toList then "User-Agent".toList
  else Str.join ['-'] ((Str.split '-' name).map capitalizeWord)
where
  capitalizeWord : Str → Str
    | [] => []
    | first :: rest => platform.toUppercase [first] ++ rest

/-- `cancel_cseq_value`. -/
def cancelCseqValue (cseq : Option Str) : Str :=
  (cseq.bind fun value => (Str.splitWhitespace value).head?).getD ['1'] ++ " CANCEL".toList

/-- The header lines of a message in hash-map order, without the skipped ones. -/
def copiedHeaders (platform : Platform) (msg : SipMessage) (skipped : List Str) : Str :=
  let entries := msg.headers.entries.map fun entry => (entry.1, entry.2)
  ((platform.headerOrder entries).filter fun entry => entry.1 ∉ skipped).flatMap fun entry =>
    entry.2.flatMap fun value =>
      capitalizeHeader platform entry.1 ++ ": ".toList ++ value ++ "\r\n".toList

/-- The request line, this proxy's Via, the Vias received, and Max-Forwards. -/
def forwardedHead (platform : Platform) (msg : SipMessage) (method targetUri : Str) (maxFwd : Nat)
    (sipDomain : Str) : Str :=
  method ++ ' ' :: targetUri ++ " SIP/2.0\r\n".toList ++
    "Via: SIP/2.0/UDP ".toList ++ sipDomain ++ ";branch=".toList ++
    proxyViaBranch platform (msg.callId.getD []) ++ ";rport\r\n".toList ++
    (msg.viaHeaders.flatMap fun via => "Via: ".toList ++ via ++ "\r\n".toList) ++
    "Max-Forwards: ".toList ++ Str.ofNat maxFwd ++ "\r\n".toList

/-- `build_forwarded_cancel_for_target`. -/
def buildForwardedCancelForTarget (platform : Platform) (msg : SipMessage) (targetUri : Str)
    (maxFwd : Nat) (sipDomain : Str) : Str :=
  forwardedHead platform msg "CANCEL".toList targetUri maxFwd sipDomain ++
    "CSeq: ".toList ++ cancelCseqValue msg.cseq ++ "\r\n".toList ++
    copiedHeaders platform msg
      ["via".toList, "max-forwards".toList, "cseq".toList, "content-length".toList] ++
    "Content-Length: 0\r\n\r\n".toList

/-- `build_forwarded_invite_for_target`. -/
def buildForwardedInviteForTarget (platform : Platform) (msg : SipMessage) (targetUri : Str)
    (maxFwd : Nat) (sipDomain : Str) (rewrittenBody : Option Str) : Str :=
  let body := rewrittenBody.getD msg.body
  forwardedHead platform msg "INVITE".toList targetUri maxFwd sipDomain ++
    "Record-Route: <sip:".toList ++ sipDomain ++ ";lr>\r\n".toList ++
    copiedHeaders platform msg
      ["via".toList, "max-forwards".toList, "content-length".toList, "record-route".toList] ++
    "Content-Length: ".toList ++ Str.ofNat (Str.byteLength body) ++ "\r\n\r\n".toList ++ body

/-- The Max-Forwards value of a request, 70 when it is missing or not a `u32`. -/
def SipMessage.maxForwards (msg : SipMessage) : Nat :=
  ((msg.value "max-forwards".toList).bind (Str.parseUnsigned (2 ^ 32))).getD 70

/-- The user of the address in a header. -/
def headerUser (value : Option Str) : Option Str :=
  (value.bind extractUri).bind uriUsername

end Sip3
