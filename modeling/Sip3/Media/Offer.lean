import Sip3.Media.Sdp

/-!
# Audio offers to the local endpoints

Voicemail and conference answer G.711 offers themselves. `voicemail_sdp.rs` and
`conference_sdp.rs` read an offer in the same way; they differ in the payload
type they pick and in the name of the session they answer with.
-/

namespace Sip3

open Text

/-- `VoicemailCodec` and `ConferenceCodec`. -/
inductive Codec where
  | pcmu
  | pcma
  deriving DecidableEq

/-- `VoicemailNegotiation` and `ConferenceNegotiation`. -/
structure Negotiation where
  codec : Codec
  audioPt : Nat
  telephoneEventPt : Option Nat
  deriving DecidableEq

/-- What an advertised payload type stands for. -/
inductive Payload where
  | audio (codec : Codec)
  | telephoneEvent
  deriving DecidableEq

namespace Offer

/-- The first audio section of an offer. -/
structure Audio where
  profileOk : Bool
  pts : List Nat
  rtpmaps : List (Nat × Str × Nat)

/-- An `m=` line, if it opens an audio section. -/
def openAudio (rest : Str) : Option Audio :=
  match Str.splitWhitespace rest with
  | kind :: parts =>
    if kind = "audio".toList then
      some ⟨parts.getD 1 [] = "RTP/AVP".toList,
        (parts.drop 2).filterMap (Str.parseUnsigned (2 ^ 8)), []⟩
    else none
  | [] => none

/-- Read a line inside the audio section. -/
def Audio.readLine (audio : Audio) (trimmed : Str) : Audio :=
  match Str.stripLead trimmed "a=rtpmap:".toList with
  | none => audio
  | some rest =>
    let tokens := Str.splitWhitespace rest
    match Str.parseUnsigned (2 ^ 8) (tokens.getD 0 []) with
    | none => audio
    | some pt =>
      let mapping := Str.split '/' (tokens.getD 1 [])
      let name := (mapping.getD 0 []).map Char.toUpper
      let clock := ((mapping[1]?).bind (Str.parseUnsigned (2 ^ 32))).getD 0
      { audio with rtpmaps := audio.rtpmaps ++ [(pt, name, clock)] }

/-- Read the lines of an offer up to the section after the first audio one. -/
def scan : Option Audio → List Str → Option Audio
  | audio, [] => audio
  | audio, line :: rest =>
    match Str.stripLead (Str.trim line) "m=".toList, audio with
    | some _, some audio => some audio
    | some media, none => scan (openAudio media) rest
    | none, none => scan none rest
    | none, some audio => scan (some (audio.readLine (Str.trim line))) rest

/-- What a payload type stands for at 8000 Hz: by its `rtpmap` line, or by RFC 3551. -/
def Audio.resolve (audio : Audio) (pt : Nat) : Option Payload :=
  match audio.rtpmaps.find? fun entry => entry.1 = pt with
  | some (_, name, clock) =>
    if clock ≠ 8000 then none
    else if name = "PCMU".toList then some (.audio .pcmu)
    else if name = "PCMA".toList then some (.audio .pcma)
    else if name = "TELEPHONE-EVENT".toList then some .telephoneEvent
    else none
  | none =>
    if pt = 0 then some (.audio .pcmu)
    else if pt = 8 then some (.audio .pcma)
    else none

/-- The advertised types that stand for a payload, in order. -/
def Audio.offering (audio : Audio) (payload : Payload) : List Nat :=
  audio.pts.filter fun pt => audio.resolve pt = some payload

/-- `negotiate_offer` with a choice among the advertised audio types. -/
def negotiate (choose : Audio → Option (Codec × Nat)) (sdp : Str) : Option Negotiation :=
  match scan none (Str.lines sdp) with
  | none => none
  | some audio =>
    if audio.profileOk then
      (choose audio).map fun (codec, audioPt) =>
        ⟨codec, audioPt, (audio.offering .telephoneEvent).head?⟩
    else none

/-- `build_answer` of a session name. -/
def buildAnswer (session publicIp : Str) (relayPort : Nat) (negotiation : Negotiation)
    (sessionId : Nat) : Str :=
  let id := Str.ofNat sessionId
  let audioPt := Str.ofNat negotiation.audioPt
  let codec := match negotiation.codec with
    | .pcmu => "PCMU/8000".toList
    | .pcma => "PCMA/8000".toList
  let events := negotiation.telephoneEventPt.map Str.ofNat
  "v=0\r\no=sip3 ".toList ++ id ++ ' ' :: id ++ " IN IP4 ".toList ++ publicIp ++
    "\r\ns=".toList ++ session ++ "\r\nc=IN IP4 ".toList ++ publicIp ++
    "\r\nt=0 0\r\nm=audio ".toList ++ Str.ofNat relayPort ++ " RTP/AVP ".toList ++ audioPt ++
    (events.elim [] fun pt => ' ' :: pt) ++ "\r\na=rtpmap:".toList ++ audioPt ++ ' ' :: codec ++
    "\r\n".toList ++
    (events.elim [] fun pt => "a=rtpmap:".toList ++ pt ++ " telephone-event/8000\r\na=fmtp:".toList ++
      pt ++ " 0-15\r\n".toList) ++
    "a=ptime:20\r\na=sendrecv\r\n".toList

end Offer

/-- `negotiate_offer` of voicemail: the last PCMU type, else the first PCMA type. -/
def negotiateVoicemailOffer (sdp : Str) : Option Negotiation :=
  Offer.negotiate
    (fun audio =>
      match (audio.offering (.audio .pcmu)).getLast? with
      | some pt => some (.pcmu, pt)
      | none => (audio.offering (.audio .pcma)).head?.map fun pt => (.pcma, pt))
    sdp

/-- `negotiate_offer` of the conference: the first PCMU or PCMA type. -/
def negotiateConferenceOffer (sdp : Str) : Option Negotiation :=
  Offer.negotiate
    (fun audio =>
      audio.pts.findSome? fun pt =>
        match audio.resolve pt with
        | some (.audio codec) => some (codec, pt)
        | _ => none)
    sdp

/-- `build_answer` of voicemail. -/
def buildVoicemailAnswer : Str → Nat → Negotiation → Nat → Str :=
  Offer.buildAnswer "SIP3 Voicemail".toList

/-- `build_answer` of the conference. -/
def buildConferenceAnswer : Str → Nat → Negotiation → Nat → Str :=
  Offer.buildAnswer "SIP3 Conference".toList

end Sip3
