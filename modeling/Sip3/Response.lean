import Sip3.Message

/-!
# Building responses

`response.rs`: the response builder and the headers every response copies from
its request.
-/

namespace Sip3

open Text

/-- `SIP_ALLOW_METHODS`. -/
def sipAllowMethods : Str :=
  ("REGISTER, INVITE, ACK, BYE, CANCEL, OPTIONS, INFO, REFER, NOTIFY, SUBSCRIBE, MESSAGE").toList

/-- `SipResponseBuilder`. -/
structure ResponseBuilder where
  statusCode : Nat
  reason : Str
  headers : List (Str × Str)
  body : Str

namespace ResponseBuilder

/-- `SipResponseBuilder::new`. -/
def new (statusCode : Nat) (reason : Str) : ResponseBuilder :=
  ⟨statusCode, reason, [], []⟩

/-- `SipResponseBuilder::header`. -/
def header (builder : ResponseBuilder) (name value : Str) : ResponseBuilder :=
  { builder with headers := builder.headers ++ [(name, value)] }

/-- Add a header if its value is present. -/
def headerIf (builder : ResponseBuilder) (name : Str) : Option Str → ResponseBuilder
  | none => builder
  | some value => builder.header name value

/-- `SipResponseBuilder::body`. -/
def withBody (builder : ResponseBuilder) (body : Str) : ResponseBuilder :=
  { builder with body := body }

/-- `SipResponseBuilder::build`. -/
def build (builder : ResponseBuilder) : Str :=
  "SIP/2.0 ".toList ++ Str.ofNat builder.statusCode ++ ' ' :: builder.reason ++ "\r\n".toList ++
    (builder.headers.flatMap fun entry => entry.1 ++ ": ".toList ++ entry.2 ++ "\r\n".toList) ++
    "Content-Length: ".toList ++ Str.ofNat (Str.byteLength builder.body) ++ "\r\n\r\n".toList ++
    builder.body

end ResponseBuilder

/-- The status code a response text shows. -/
def statusText (response : Str) : Str :=
  (response.drop 8).takeWhile (· ≠ ' ')

/-- `base_response`. -/
def baseResponse (req : SipMessage) (statusCode : Nat) (reason : Str) : ResponseBuilder :=
  let withVia := req.viaHeaders.foldl (fun builder via => builder.header "Via".toList via)
    (ResponseBuilder.new statusCode reason)
  ((((withVia.headerIf "From".toList req.fromHeader).headerIf "To".toList req.toHeader).headerIf
    "Call-ID".toList req.callId).headerIf "CSeq".toList req.cseq).header
      "Server".toList "SIP3/0.1.0".toList

/-- `base_response_with_to`: the same with the To header replaced. -/
def baseResponseWithTo (req : SipMessage) (statusCode : Nat) (reason toValue : Str) : ResponseBuilder :=
  let withVia := req.viaHeaders.foldl (fun builder via => builder.header "Via".toList via)
    (ResponseBuilder.new statusCode reason)
  ((((withVia.headerIf "From".toList req.fromHeader).header "To".toList toValue).headerIf
    "Call-ID".toList req.callId).headerIf "CSeq".toList req.cseq).header
      "Server".toList "SIP3/0.1.0".toList

/-- A response without further headers or body. -/
def plainResponse (req : SipMessage) (statusCode : Nat) (reason : String) : Str :=
  (baseResponse req statusCode reason.toList).build

/-- Why a handler returns an error. The reason is only logged: every error is
answered with 500. -/
inductive HandlerError where
  | database
  | socket
  | addressSyntax
  | media
  | storage
  | noActiveMedia
  deriving DecidableEq

/-- `finalize_response`. -/
def finalizeResponse (msg : SipMessage) : Except HandlerError Str → Option Str
  | .ok response => some response
  | .error _ => some (plainResponse msg 500 "Internal Server Error")

/-- The status and the text of an API response that reports an error. -/
structure ApiError where
  status : Nat
  text : Str
  deriving DecidableEq

/-- A rejected API request. -/
def badRequest (text : String) : ApiError := ⟨400, text.toList⟩

end Sip3
