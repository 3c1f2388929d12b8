import Sip3.Server.Mwi

/-!
# Presence subscriptions

`presence.rs`: subscriptions to the registration state of a user. They live in
the database; a change is sent to every subscriber as NOTIFY.
-/

namespace Sip3.Presence

open Text Semantics Sip3.Action

variable (server : Server)

/-- `PresenceStatus`. -/
inductive PresenceStatus where
  | opened
  | closed
  deriving DecidableEq

/-- `extract_param`: the parameter is recognised in the lower-case copy of a part and its
value is sliced from the part itself. `none` stands for a slice off a boundary. -/
def extractParam (headerValue param : Str) : Option (Option Str) :=
  go (Str.split ';' headerValue)
where
  go : List Str → Option (Option Str)
    | [] => some none
    | part :: rest =>
      let trimmed := Str.trim part
      if Str.startsWith (server.platform.toLowercase trimmed)
          (server.platform.toLowercase param ++ "=".toList) then
        (Str.slice trimmed (Str.byteLength param + 1) (Str.byteLength trimmed)).map fun value =>
          some (Str.trimMatches '"' value)
      else go rest

/-- `build_pidf`. -/
def buildPidf (target domain : Str) (status : PresenceStatus) : Str :=
  ("<?xml version=\"1.0\" encoding=\"UTF-8\"?>\n" ++
    "<presence xmlns=\"urn:ietf:params:xml:ns:pidf\"\nentity=\"sip:").toList ++ target ++
    '@' :: domain ++ "\">\n<tuple id=\"1\">\n<status><basic>".toList ++
    (match status with
      | .opened => "open".toList
      | .closed => "closed".toList) ++
    "</basic></status>\n</tuple>\n</presence>".toList

/-- The dialog a NOTIFY is sent in. -/
structure Subscription where
  subscriber : Str
  tag : Str
  target : Str
  domain : Str
  callId : Str

/-- `build_notify` with its random branch. -/
def buildNotify (branch : Str) (subscription : Subscription) (cseq : Nat) (subState : Str)
    (status : PresenceStatus) : Str :=
  let pidf := buildPidf subscription.target subscription.domain status
  let watcher := "sip:".toList ++ subscription.subscriber ++ '@' :: subscription.domain
  let watched := "sip:".toList ++ subscription.target ++ '@' :: subscription.domain
  let toTag := if subscription.tag = [] then [] else ";tag=".toList ++ subscription.tag
  "NOTIFY ".toList ++ watcher ++ " SIP/2.0\r\nVia: SIP/2.0/UDP ".toList ++ server.cfg.sipDomain ++
    ";branch=z9hG4bKpres".toList ++ branch ++ "\r\nFrom: <".toList ++ watched ++
    ">;tag=pres-srv-1\r\nTo: <".toList ++ watcher ++ ">".toList ++ toTag ++
    "\r\nCall-ID: ".toList ++ subscription.callId ++ "\r\nCSeq: ".toList ++ Str.ofNat cseq ++
    " NOTIFY\r\nEvent: presence\r\nSubscription-State: ".toList ++ subState ++
    "\r\nContent-Type: application/pidf+xml\r\nContent-Length: ".toList ++
    Str.ofNat (Str.byteLength pidf) ++ "\r\n\r\n".toList ++ pidf

/-- Build a NOTIFY and send it. -/
def sendNotify (subscription : Subscription) (cseq : Nat) (subState : Str)
    (status : PresenceStatus) (dest : SocketAddr) : Action Unit := do
  let bytes ← ask (.randomBytes 4)
  let _ ← send .notify dest
    (buildNotify server (Str.ofBytes bytes.toList) subscription cseq subState status)
  return ()

/-- `get_status`. -/
def getStatus (username domain : Str) : Action PresenceStatus := do
  match ← query (.registrationCount username domain) with
  | .ok count => return if count > 0 then .opened else .closed
  | .error _ => return .closed

/-- The loop of `notify_status_change`. -/
def notifyWatchers (username domain : Str) (status : PresenceStatus) :
    List PresenceRow → Action Unit
  | [] => return ()
  | row :: rest => do
      let newCseq := min (row.cseq + 1) (2 ^ 32 - 1)
      let _ ← query (.presenceSetCseq newCseq row.subscriber username domain)
      match server.platform.parseSocketAddr (Sdp.hostPort row.ip row.port) with
      | none => notifyWatchers username domain status rest
      | some addr =>
        sendNotify server ⟨row.subscriber, row.tag, username, domain, row.callId⟩ newCseq
          ("active;expires=".toList ++ Str.ofNat row.remaining) status addr
        notifyWatchers username domain status rest

/-- `notify_status_change`. -/
def notifyStatusChange (username domain : Str) (status : PresenceStatus) : Action Unit := do
  match ← query (.presenceSubscriptions username domain) with
  | .error _ => return ()
  | .ok rows => notifyWatchers server username domain status rows

/-- The part of `handle_subscribe` after its parameters are read. -/
def subscribe (msg : SipMessage) (src : SocketAddr) (subscription : Subscription) :
    Action (Fallible Str) :=
  let ⟨subscriber, tag, target, domain, callId⟩ := subscription
  let expires := msg.expires.getD 300
  if expires = 0 then do
    match ← query (.presenceDelete subscriber target domain) with
    | .error error => return .error error
    | .ok _ =>
      sendNotify server subscription 1 "terminated;reason=timeout".toList .closed src
      return .ok (plainResponse msg 200 "OK")
  else do
    match ← query (.presenceUpsert subscriber target domain callId tag
        (server.platform.ipText src.ip) src.port expires) with
    | .error error => return .error error
    | .ok _ =>
      let stored ← query (.presenceCseq subscriber target domain)
      let cseq := match stored with
        | .ok value => value
        | .error _ => 1
      let status ← getStatus target domain
      sendNotify server subscription cseq ("active;expires=".toList ++ Str.ofNat expires) status
        src
      return .ok (plainResponse msg 200 "OK")

/-- `Presence::handle_subscribe`. -/
def handleSubscribe (msg : SipMessage) (src : SocketAddr) : Action (Fallible Str) :=
  let eventValue := server.platform.toLowercase ((msg.value "event".toList).getD "presence".toList)
  let event := Str.trim ((Str.split ';' eventValue).headD "presence".toList)
  if event ≠ "presence".toList ∧ event ≠ "dialog".toList then
    return .ok (plainResponse msg 489 "Bad Event")
  else
    let subscriber := (headerUser msg.fromHeader).getD []
    let target := (uriUsername (msg.requestUri.getD [])).getD []
    match extractParam server (msg.fromHeader.getD []) "tag".toList with
    | none => panic
    | some tag =>
      if subscriber = [] ∨ target = [] then return .ok (plainResponse msg 400 "Bad Request")
      else
        subscribe server msg src
          ⟨subscriber, tag.getD [], target, server.cfg.sipDomain, msg.callKey⟩

end Sip3.Presence
