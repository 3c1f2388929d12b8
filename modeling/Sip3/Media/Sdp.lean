import Sip3.Message

/-!
# Session descriptions

The SDP helpers of `media.rs`: finding the media sections of an offer, and
rewriting ports, addresses and the content length of a relayed message.
-/

namespace Sip3

open Text

/-- `SdpMediaKind`. -/
inductive SdpMediaKind where
  | audio
  | video
  deriving DecidableEq

/-- `SdpMediaDescriptor`: an audio or video section and its index among all
sections. -/
structure SdpMediaDescriptor where
  kind : SdpMediaKind
  mediaIndex : Nat
  port : Nat
  active : Bool
  deriving DecidableEq

namespace Sdp

/-- Whether a line opens a media section. -/
def isMediaLine (line : Str) : Bool :=
  Str.startsWith (Str.trimStart line) "m=".toList

/-- `sdp_media_port`. -/
def mediaPort (token : Str) : Option Nat :=
  (Str.split '/' token).head?.bind (Str.parseUnsigned (2 ^ 16))

/-- The kind named by the first token of a media line. -/
def mediaKind (token : Str) : Option SdpMediaKind :=
  if Str.stripLead token "m=".toList = some "audio".toList then some .audio
  else if Str.stripLead token "m=".toList = some "video".toList then some .video
  else none

/-- The supported section a media line opens, if it is one. -/
def section? (mediaIndex : Nat) (line : Str) : Option SdpMediaDescriptor :=
  match Str.splitWhitespace (Str.trimStart line) with
  | mediaToken :: portToken :: _ =>
    match mediaKind mediaToken, mediaPort portToken with
    | some kind, some port => some ⟨kind, mediaIndex, port, port ≠ 0⟩
    | _, _ => none
  | _ => none

/-- `parse_sdp_media_sections`. -/
def parseMediaSections (sdp : Str) : List SdpMediaDescriptor :=
  go 0 (Str.lines sdp)
where
  go : Nat → List Str → List SdpMediaDescriptor
    | _, [] => []
    | mediaIndex, line :: rest =>
      if isMediaLine line then (section? mediaIndex line).toList ++ go (mediaIndex + 1) rest
      else go mediaIndex rest

/-- Whether the offer has an active section of a kind. -/
def hasActive (kind : SdpMediaKind) (sdp : Str) : Bool :=
  (parseMediaSections sdp).any fun media => media.kind = kind && media.active

/-- A line that opens an audio or video section with a blank after the kind. -/
def isSupportedMediaLine (trimmed : Str) : Bool :=
  Str.startsWith trimmed "m=audio ".toList || Str.startsWith trimmed "m=audio\t".toList ||
    Str.startsWith trimmed "m=video ".toList || Str.startsWith trimmed "m=video\t".toList

/-- The offer has a section that is neither audio nor video. -/
def hasUnsupportedMedia (sdp : Str) : Bool :=
  (Str.lines sdp).any fun line => isMediaLine line && !isSupportedMediaLine (Str.trimStart line)

/-- A connection line for an IPv4 address. -/
def isConnectionLine (line : Str) : Bool :=
  Str.startsWith (Str.trimStart line) "c=IN IP4 ".toList

/-- `sdp_media_sections_with_connection`: the sections with a connection line of
their own. -/
def sectionsWithConnection (sdp : Str) : List Nat :=
  go none 0 (Str.lines sdp)
where
  go : Option Nat → Nat → List Str → List Nat
    | _, _, [] => []
    | current, next, line :: rest =>
      if isMediaLine line then go (some next) (next + 1) rest
      else if isConnectionLine line then current.toList ++ go current next rest
      else go current next rest

/-- `sdp_m_line_port`. -/
def mLinePort (line : Str) : Option Nat :=
  ((Str.splitWhitespace line)[1]?).bind mediaPort

/-- `rewrite_m_port`: the port field replaced, a `/count` after it kept. -/
def rewriteMPort (line : Str) (newPort : Nat) : Str :=
  let parts := Str.splitn 4 ' ' line
  let media := parts.getD 0 []
  let portField := parts.getD 1 "0".toList
  let rest := parts.getD 2 []
  let fmt := parts.getD 3 []
  let countSuffix := portField.dropWhile (· ≠ '/')
  let head := media ++ ' ' :: Str.ofNat newPort ++ countSuffix ++ ' ' :: rest
  if fmt = [] then head else head ++ ' ' :: fmt

/-- The relay port of a section. A later pair for the same index wins, as when the
pairs are collected into a map. -/
def portFor (mediaPorts : List (Nat × Nat)) (mediaIndex : Nat) : Option Nat :=
  (mediaPorts.reverse.find? fun entry => entry.1 = mediaIndex).map (·.2)

/-- `rewrite_sdp_media`. -/
def rewriteMedia (sdp newIp : Str) (mediaPorts : List (Nat × Nat)) : Str :=
  Str.join "\r\n".toList (go none 0 (Str.lines sdp))
where
  connection : Str := "c=IN IP4 ".toList ++ newIp
  go : Option Nat → Nat → List Str → List Str
    | _, _, [] => []
    | current, next, line :: rest =>
      if isMediaLine line then
        match portFor mediaPorts next with
        | some newPort =>
          if (mLinePort line).any (· ≠ 0) then
            rewriteMPort line newPort ::
              ((if hasUnsupportedMedia sdp ∧ next ∉ sectionsWithConnection sdp then
                [connection] else []) ++ go (some next) (next + 1) rest)
          else line :: go (some next) (next + 1) rest
        | none => line :: go (some next) (next + 1) rest
      else if isConnectionLine line then
        if ¬ hasUnsupportedMedia sdp then connection :: go current next rest
        else if current.any fun index => (portFor mediaPorts index).isSome then
          connection :: go current next rest
        else line :: go current next rest
      else line :: go current next rest

/-- Split a text at the first occurrence of a separator text. -/
def splitOnceStr (separator : Str) : Str → Option (Str × Str)
  | [] => if separator = [] then some ([], []) else none
  | char :: rest =>
    if Str.startsWith (char :: rest) separator then
      some ([], (char :: rest).drop separator.length)
    else (splitOnceStr separator rest).map fun parts => (char :: parts.1, parts.2)

/-- `rewrite_content_length`: the body replaced and its length stated last. -/
def rewriteContentLength (platform : Platform) (raw newBody : Str) : Str :=
  let crlf := Str.containsStr raw "\r\n\r\n".toList
  let sep := if crlf then "\r\n\r\n".toList else "\n\n".toList
  let headerSep := if crlf then "\r\n".toList else "\n".toList
  match splitOnceStr sep raw with
  | none => raw
  | some (headersRaw, _) =>
    let lines := if crlf then Str.splitCrLf headersRaw else Str.split '\n' headersRaw
    let kept := lines.filter fun line =>
      !Str.startsWith (platform.toLowercase line) "content-length:".toList && line ≠ []
    Str.join headerSep kept ++ headerSep ++ "Content-Length: ".toList ++
      Str.ofNat (Str.byteLength newBody) ++ sep ++ newBody

/-- `is_invite_200_ok_with_sdp`. -/
def isInvite200OkWithSdp (platform : Platform) (msg : SipMessage) : Bool :=
  msg.statusCode = some 200 &&
    (msg.cseq.any fun cseq => Str.endsWith (platform.toUppercase cseq) "INVITE".toList) &&
    (msg.body ≠ [] && (msg.value "content-type".toList).any fun contentType =>
      Str.containsStr (platform.toLowercase contentType) "application/sdp".toList)

/-- `is_webrtc_sdp`. -/
def isWebRtc (platform : Platform) (sdp : Str) : Bool :=
  (Str.lines sdp).any fun line =>
    let lower := platform.toLowercase (Str.trim line)
    Str.startsWith lower "a=ice-ufrag:".toList || Str.startsWith lower "a=fingerprint:".toList

/-- `make_plain_rtp_sdp`, at a time in seconds. -/
def makePlainRtp (time : Nat) (serverIp : Str) (audioPort : Nat) (videoPort : Option Nat) : Str :=
  let ts := Str.ofNat time
  let audio := "v=0\r\no=- ".toList ++ ts ++ ' ' :: ts ++ " IN IP4 ".toList ++ serverIp ++
    "\r\ns=-\r\nc=IN IP4 ".toList ++ serverIp ++ "\r\nt=0 0\r\nm=audio ".toList ++
    Str.ofNat audioPort ++
    " RTP/AVP 0 8\r\na=rtpmap:0 PCMU/8000\r\na=rtpmap:8 PCMA/8000\r\na=sendrecv\r\n".toList
  match videoPort with
  | none => audio
  | some port => audio ++ "m=video ".toList ++ Str.ofNat port ++
      " RTP/AVP 96 97\r\na=rtpmap:96 H264/90000\r\na=rtpmap:97 VP8/90000\r\na=sendrecv\r\n".toList

/-- `sdp_connection_ip`. -/
def connectionIp (sdp : Str) : Option Str :=
  (Str.lines sdp).findSome? fun line =>
    (Str.stripLead line "c=IN IP4 ".toList).map Str.trim

/-- The port of the first media line that starts with one of two texts. -/
def firstPort (space tab : Str) (sdp : Str) : Option Nat :=
  match (Str.lines sdp).find? fun line => Str.startsWith line space || Str.startsWith line tab with
  | none => none
  | some line => mLinePort line

/-- `sdp_audio_port`. -/
def audioPort (sdp : Str) : Option Nat :=
  firstPort "m=audio ".toList "m=audio\t".toList sdp

/-- `sdp_video_port`. -/
def videoPort (sdp : Str) : Option Nat :=
  firstPort "m=video ".toList "m=video\t".toList sdp

/-- An address text of a host and a port. -/
def hostPort (host : Str) (port : Nat) : Str :=
  host ++ ':' :: Str.ofNat port

/-- `sdp_rtp_addr`. -/
def rtpAddr (platform : Platform) (sdp : Str) : Option SocketAddr := do
  let ip ← connectionIp sdp
  let port ← audioPort sdp
  platform.parseSocketAddr (hostPort ip port)

/-- The video address an answer or offer names, as the handlers compute it. -/
def videoAddr (platform : Platform) (sdp : Str) : Option SocketAddr := do
  let ip ← connectionIp sdp
  let port ← videoPort sdp
  platform.parseSocketAddr (hostPort ip port)

end Sdp

end Sip3
