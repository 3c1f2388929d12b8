import Sip3.Server.Scenario
import Sip3.Message.Reply

/-!
# Every request is answered

Each handler returns a reply to its request on every path that does not panic, and
an error of a handler becomes a reply of its own. The texts that handlers add to a
reply come from the request, from the configuration, or are rendered here, so they
stay on their line.
-/

namespace Sip3

open Text Semantics Program Conference Registrar Handler Str ResponseBuilder Proxy Voicemail

/-- The configured texts that replies carry are on one line. -/
structure ServerConfig.LineSafe (cfg : ServerConfig) : Prop where
  sipDomain : Str.OneLine cfg.sipDomain
  publicIp : Str.OneLine cfg.publicIp
  voicemailAccessExtension : Str.OneLine cfg.voicemailAccessExtension

/-- A handler's result is an error or a reply. -/
def Replying (msg : SipMessage) : Fallible Str → Prop
  | .ok text => IsReply msg text
  | .error _ => True

section Handlers

variable {server : Server} {msg : SipMessage} {src : SocketAddr} {code : Nat} {reason : String}

theorem isReply_plain (valid : (100 ≤ code ∧ code < 700) ∧ Str.OneLine reason.toList) :
    IsReply msg (plainResponse msg code reason) :=
  ⟨_, replies_baseResponse valid.1 valid.2, rfl⟩

theorem returns_plain (valid : (100 ≤ code ∧ code < 700) ∧ Str.OneLine reason.toList) :
    (pure (.ok (plainResponse msg code reason)) : Action (Fallible Str)).Returns (Replying msg) :=
  isReply_plain valid

theorem returns_error {error : HandlerError} :
    (pure (.error error) : Action (Fallible Str)).Returns (Replying msg) :=
  trivial

namespace Proxy

theorem rejectInvalidInvite_returns (caller : Option Str) (detail : Str) :
    (rejectInvalidInvite server msg src caller detail).Returns (Replying msg) := by
  refine Returns.then fun blocked => Returns.then fun _ => ?_
  split
  · exact Returns.then fun _ => Returns.then fun _ => returns_plain (by decide)
  · exact returns_plain (by decide)

theorem forwardInDialog_returns {forwarded missing : Str} (found : IsReply msg forwarded)
    (absent : IsReply msg missing) :
    (forwardInDialog msg src forwarded missing).Returns (Replying msg) := by
  refine Returns.then fun dialog => ?_
  split
  · exact Returns.then fun _ => found
  · exact absent

theorem handleBye_returns : (handleBye server msg src).Returns (Replying msg) := by
  refine Returns.then fun _ => Returns.then fun _ => Returns.then fun dialog => Returns.then fun _ =>
    Returns.then fun _ => Returns.then fun _ => ?_
  split
  · exact Returns.then fun _ => returns_plain (by decide)
  · exact Returns.then fun _ => returns_plain (by decide)

theorem handleCancel_returns : (handleCancel server msg).Returns (Replying msg) :=
  Returns.then fun _ => Returns.then fun _ => Returns.then fun _ => Returns.then fun _ =>
    Returns.then fun _ => Returns.then fun _ => Returns.then fun _ => Returns.then fun _ =>
      returns_plain (by decide)

theorem deliverMessage_returns (sender callee : Str) :
    (deliverMessage server msg src sender callee).Returns (Replying msg) := by
  refine Returns.then fun target => ?_
  split
  · exact Returns.then fun _ => returns_plain (by decide)
  · refine Returns.then fun sent => ?_
    split
    · exact Returns.then fun _ => returns_plain (by decide)
    · exact Returns.then fun _ => returns_plain (by decide)

theorem handleMessage_returns : (handleMessage server msg src).Returns (Replying msg) := by
  dsimp only [handleMessage]
  split
  · exact returns_plain (by decide)
  refine Returns.then fun enabled => ?_
  split
  · exact returns_error
  · exact returns_plain (by decide)
  refine Returns.then fun refreshed => ?_
  split
  · exact returns_error
  split
  · exact returns_plain (by decide)
  · exact deliverMessage_returns _ _

theorem armAndAnswer_returns (callee : Callee) :
    (armAndAnswer server msg src callee).Returns (Replying msg) := by
  unfold armAndAnswer
  split
  · exact returns_plain (by decide)
  · exact Returns.then fun _ => returns_plain (by decide)

theorem forwardInvite_returns (callee : Callee) (callerIsStream calleeIsStream : Bool) :
    (forwardInvite server msg src callee callerIsStream calleeIsStream).Returns (Replying msg) := by
  refine Returns.then fun _ => Returns.then fun _ => Returns.then fun _ => Returns.then fun _ =>
    Returns.then fun sent => ?_
  split
  · exact armAndAnswer_returns callee
  · exact returns_error

theorem inviteRegistered_returns (caller callee contactUri sourceIp : Str) (sourcePort : Nat) :
    (inviteRegistered server msg src caller callee contactUri sourceIp sourcePort).Returns
      (Replying msg) := by
  refine Returns.then fun mailbox => ?_
  split
  · exact returns_error
  · exact Returns.then fun _ => Returns.then fun _ => Returns.then fun _ =>
      forwardInvite_returns _ _ _

end Proxy

section Tags

theorem isTag_append {lead digits : Str} (literal : lead ≠ [] ∧ lead.all isTagChar = true)
    (hex : ∀ char ∈ digits, char ∈ hexDigits) : IsTag (lead ++ digits) := by
  have hexTag : hexDigits.all isTagChar = true := by decide
  refine ⟨fun empty => literal.1 (List.append_eq_nil_iff.mp empty).1, ?_⟩
  rw [List.all_append, Bool.and_eq_true]
  refine ⟨literal.2, List.all_eq_true.mpr fun char member => ?_⟩
  exact List.all_eq_true.mp hexTag char (hex char member)

variable {tag : Str}

theorem Voicemail.answersTo_withToTag (msg : SipMessage) (valid : IsTag tag) :
    AnswersTo msg.toHeader (some (withToTag (msg.toHeader.getD []) tag)) := by
  unfold withToTag
  split
  · exact .inl rfl
  · exact .inr ⟨tag, valid, rfl⟩

theorem Conference.answersTo_withToTag (server : Server) (msg : SipMessage) (valid : IsTag tag) :
    AnswersTo msg.toHeader (some (withToTag server (msg.toHeader.getD []) tag)) := by
  unfold withToTag
  split
  · next empty => exact .inr ⟨tag, valid, by rw [empty]; rfl⟩
  · split
    · exact .inl rfl
    · exact .inr ⟨tag, valid, rfl⟩

theorem Mwi.answersTo_mwiSubscribeToHeader (server : Server) (msg : SipMessage) (callId : Str) :
    AnswersTo msg.toHeader
      (some (Mwi.mwiSubscribeToHeader server (msg.toHeader.getD []) callId)) := by
  have hex : ∀ char ∈ (server.platform.sha1Hex callId).take 16, char ∈ hexDigits :=
    fun char member => server.platform.sha1Hex_hex callId char (List.mem_of_mem_take member)
  unfold Mwi.mwiSubscribeToHeader
  split
  · exact .inl rfl
  · exact .inr ⟨Mwi.mwiServerTag server callId, isTag_append (by decide) hex, rfl⟩

end Tags

/-- A contact of the server's own: a user at the public address. -/
theorem oneLine_ownContact (safe : server.cfg.LineSafe) {user : Str} (single : Str.OneLine user) :
    Str.OneLine ("<sip:".toList ++ user ++ '@' :: server.cfg.publicIp ++
      ':' :: ofNat server.cfg.sipPort ++ ">".toList) := by
  simp only [oneLine_append, oneLine_cons]
  exact ⟨⟨⟨⟨by decide, single⟩, by decide, safe.publicIp⟩, by decide, oneLine_ofNat _⟩,
    by decide⟩

namespace Voicemail

variable (safe : server.cfg.LineSafe)

include safe

theorem buildLocalOk_returns {localUser : Str} (single : Str.OneLine localUser)
    (relayPort : Nat) (negotiation : Negotiation) :
    (buildLocalOk server msg localUser relayPort negotiation).Returns (IsReply msg) := by
  intro sessionId
  have tagged : IsTag ("vm-".toList ++ ofHex 0 sessionId) :=
    isTag_append (by decide) fun _ => mem_hexDigits_of_mem_ofHex
  have answersTo := answersTo_withToTag msg tagged
  have base : (baseResponseWithTo msg 200 "OK".toList _).Replies msg :=
    replies_baseResponseWithTo (by decide) (by decide) answersTo
  exact ⟨_, (((base.header (by decide) (oneLine_ownContact safe single)).header (by decide)
    (by decide)).header (by decide) (by decide)).withBody _, rfl⟩

variable {callee : Str}

theorem recordDelivery_returns (single : Str.OneLine callee) (caller : Str)
    (settings : MailboxSettings) :
    (recordDelivery server msg callee caller settings).Returns (Replying msg) := by
  unfold recordDelivery
  split
  · exact Returns.then fun _ => returns_plain (by decide)
  refine Returns.then fun allocated => ?_
  split
  · exact Returns.then fun _ => returns_plain (by decide)
  refine (buildLocalOk_returns safe single _ _).bind fun response reply => ?_
  exact Returns.then fun _ => Returns.then fun _ => reply

theorem deliverTracked_returns (single : Str.OneLine callee) :
    (deliverTracked server msg callee).Returns (Replying msg) := by
  unfold deliverTracked
  split
  · exact Returns.then fun _ => returns_plain (by decide)
  refine Returns.then fun enabled => ?_
  split
  · exact Returns.then fun _ => returns_error
  · exact Returns.then fun _ => returns_plain (by decide)
  refine Returns.then fun box => ?_
  split
  · exact Returns.then fun _ => returns_plain (by decide)
  refine Returns.then fun full => ?_
  split
  · exact Returns.then fun _ => returns_error
  · exact Returns.then fun _ => returns_plain (by decide)
  · exact recordDelivery_returns safe single _ _

theorem handleDeliveryInvite_returns (single : Str.OneLine callee) :
    (handleDeliveryInvite server msg callee).Returns (Replying msg) := by
  dsimp only [handleDeliveryInvite]
  split
  · exact returns_plain (by decide)
  refine Returns.then fun tracked => ?_
  split
  · exact deliverTracked_returns safe single
  · exact returns_plain (by decide)

theorem openAccess_returns (caller : Str) (settings : MailboxSettings) :
    (openAccess server msg caller settings).Returns (Replying msg) := by
  unfold openAccess
  split
  · exact Returns.then fun _ => returns_plain (by decide)
  refine Returns.then fun allocated => ?_
  split
  · exact Returns.then fun _ => returns_plain (by decide)
  refine (buildLocalOk_returns safe safe.voicemailAccessExtension _ _).bind
    fun response reply => ?_
  split
  · exact Returns.then fun _ => Returns.then fun _ => reply
  refine Returns.then fun _ => Returns.then fun _ => Returns.then fun _ => ?_
  split
  · exact Returns.then fun _ => reply
  · exact reply

theorem accessTracked_returns : (accessTracked server msg src).Returns (Replying msg) := by
  dsimp only [accessTracked]
  split
  · exact Returns.then fun _ => returns_plain (by decide)
  refine Returns.then fun box => ?_
  split
  · exact Returns.then fun _ => returns_plain (by decide)
  refine Returns.then fun registered => ?_
  split
  · exact returns_error
  · exact Returns.then fun _ => returns_plain (by decide)
  · exact openAccess_returns safe _ _

theorem handleAccessInvite_returns :
    (handleAccessInvite server msg src).Returns (Replying msg) := by
  dsimp only [handleAccessInvite]
  split
  · exact returns_plain (by decide)
  split
  · exact returns_plain (by decide)
  refine Returns.then fun tracked => ?_
  split
  · exact accessTracked_returns safe
  · exact returns_plain (by decide)

omit safe

theorem endCall_returns : (endCall msg).Returns (Replying msg) :=
  Returns.then fun _ => Returns.then fun _ => Returns.then fun _ => returns_plain (by decide)

theorem handleCancel_returns : (handleCancel msg).Returns (Replying msg) := by
  unfold handleCancel
  split
  · exact endCall_returns
  · exact Returns.then fun _ => endCall_returns

theorem handleInfo_returns : (handleInfo server msg).Returns (Replying msg) := by
  refine Returns.then fun call => ?_
  split
  · exact returns_plain (by decide)
  split
  · exact returns_plain (by decide)
  · exact Returns.then fun _ => returns_plain (by decide)

end Voicemail

theorem isReply_of_pinRejection {pinHash : Option Str} {response : Str}
    (rejected : pinRejection server msg pinHash = some response) :
    IsReply msg response := by
  unfold pinRejection at rejected
  split at rejected
  · cases rejected
  split at rejected
  · split at rejected
    · cases rejected
    · exact Option.some.inj rejected ▸ isReply_plain (by decide)
  · exact Option.some.inj rejected ▸ isReply_plain (by decide)

section Invite

variable (safe : server.cfg.LineSafe) (lines : msg.LineSafe)

include lines

theorem oneLine_requestUser : Str.OneLine ((uriUsername (msg.requestUri.getD [])).getD []) := by
  cases found : uriUsername (msg.requestUri.getD []) with
  | none => exact oneLine_nil
  | some user =>
    cases present : msg.requestUri with
    | none =>
      have nobody : uriUsername [] = none := by decide
      rw [present, Option.getD_none, nobody] at found
      cases found
    | some uri =>
      rw [present] at found
      exact (lines.requestUri uri present).subset (uriUsername_subset found)

theorem oneLine_sender {fallback : Str} (single : Str.OneLine fallback) :
    Str.OneLine ((headerUser msg.fromHeader).getD fallback) := by
  cases found : headerUser msg.fromHeader with
  | none => exact single
  | some user => exact oneLine_headerUser (fun _ present => lines.value present) found

include safe

theorem Proxy.handleInvite_returns : (handleInvite server msg src).Returns (Replying msg) := by
  dsimp only [handleInvite]
  split
  · exact returns_plain (by decide)
  split
  · exact returns_plain (by decide)
  refine Returns.then fun blocked => ?_
  split
  · exact returns_plain (by decide)
  split
  · exact rejectInvalidInvite_returns _ _
  refine Returns.then fun enabled => ?_
  split
  · exact returns_error
  · exact rejectInvalidInvite_returns _ _
  refine Returns.then fun refreshed => ?_
  split
  · exact returns_error
  refine Returns.then fun contact => ?_
  split
  · exact returns_error
  · refine Returns.then fun box => ?_
    split
    · exact handleDeliveryInvite_returns safe (oneLine_requestUser lines)
    · exact returns_plain (by decide)
  · exact inviteRegistered_returns _ _ _ _ _

theorem Conference.enterConference_returns (roomId : Nat) (caller : Str) (negotiation : Negotiation)
    (relayPort : Nat) :
    (enterConference server msg src roomId caller negotiation relayPort).Returns
      (Replying msg) := by
  refine Returns.then fun sessionId => Returns.then fun inserted => Returns.then fun _ => ?_
  have tagged : IsTag ("conf-".toList ++ ofHex 0 sessionId) :=
    isTag_append (by decide) fun _ => mem_hexDigits_of_mem_ofHex
  have answersTo := answersTo_withToTag server msg tagged
  have base : (baseResponseWithTo msg 200 "OK".toList _).Replies msg :=
    replies_baseResponseWithTo (by decide) (by decide) answersTo
  exact ⟨_, (((base.header (by decide) (oneLine_ownContact safe (oneLine_requestUser lines))).header
    (by decide) (by decide)).header (by decide) (by decide)).withBody _, rfl⟩

theorem Conference.joinRoom_returns (roomId : Nat) (caller : Str) :
    (joinRoom server msg src roomId caller).Returns (Replying msg) := by
  unfold joinRoom
  split
  · exact returns_plain (by decide)
  refine Returns.then fun port => ?_
  split
  · exact returns_plain (by decide)
  · exact Returns.then fun _ => enterConference_returns safe lines _ _ _ _

theorem Conference.enterRoom_returns (roomId maxParticipants : Nat) (caller : Str) :
    (enterRoom server msg src roomId maxParticipants caller).Returns (Replying msg) := by
  refine Returns.then fun pinHash => ?_
  split
  · exact returns_error
  split
  · next response rejected => exact isReply_of_pinRejection rejected
  refine Returns.then fun count => ?_
  split
  · exact returns_error
  split
  · exact returns_plain (by decide)
  · exact joinRoom_returns safe lines _ _

theorem Conference.handleInvite_returns (roomId maxParticipants : Nat) :
    (handleInvite server msg src roomId maxParticipants).Returns (Replying msg) := by
  dsimp only [handleInvite]
  split
  · exact returns_plain (by decide)
  refine Returns.then fun _ => ?_
  split
  · exact returns_plain (by decide)
  refine Returns.then fun enabled => ?_
  split
  · exact returns_error
  · exact returns_plain (by decide)
  · exact enterRoom_returns safe lines _ _ _

end Invite

namespace Conference

theorem handleBye_returns : (handleBye msg).Returns (Replying msg) := by
  refine Returns.then fun call => ?_
  split
  · exact returns_plain (by decide)
  · exact Returns.then fun _ => Returns.then fun _ => returns_plain (by decide)

theorem handleInfo_returns : (handleInfo server msg).Returns (Replying msg) := by
  dsimp only [handleInfo]
  split
  · exact returns_plain (by decide)
  refine Returns.then fun call => ?_
  split
  · exact returns_plain (by decide)
  refine Returns.then fun muted => ?_
  split
  · exact returns_plain (by decide)
  · exact Returns.then fun _ => returns_plain (by decide)

end Conference

section Registrar

variable (safe : server.cfg.LineSafe) (lines : msg.LineSafe)

theorem Registrar.oneLine_generateNonce (server : Server) (time : Nat) (bytes : List UInt8) :
    Str.OneLine (generateNonce server time (ofBytes bytes)) := by
  have digest : ∀ text, Str.OneLine (server.platform.md5Hex text) := fun text =>
    oneLine_of_alphabet (server.platform.md5Hex_hex text) (by decide)
  unfold generateNonce
  simp only [oneLine_append, oneLine_cons]
  exact ⟨⟨oneLine_ofHex _ _, oneLine_ofBytes _⟩, by decide, digest _⟩

theorem oneLine_makeWwwAuthenticate {realm nonce : Str} (realmLine : Str.OneLine realm)
    (nonceLine : Str.OneLine nonce) : Str.OneLine (makeWwwAuthenticate realm nonce) := by
  unfold makeWwwAuthenticate
  simp only [oneLine_append]
  exact ⟨⟨⟨⟨by decide, realmLine⟩, by decide⟩, nonceLine⟩, by decide⟩

include safe in
theorem Registrar.unauthorizedResponse_returns :
    (Registrar.unauthorizedResponse server msg).Returns (Replying msg) := by
  refine Returns.then fun time => Returns.then fun bytes => ?_
  have challenge := oneLine_makeWwwAuthenticate safe.sipDomain
    (Registrar.oneLine_generateNonce server time bytes.toList)
  have base : (baseResponse msg 401 "Unauthorized".toList).Replies msg :=
    ResponseBuilder.replies_baseResponse (by decide) (by decide)
  exact ⟨_, base.header (by decide) challenge, rfl⟩

include safe in
theorem Registrar.rejectCredentials_returns (username : Str) (detail : String) :
    (Registrar.rejectCredentials server msg src username detail).Returns (Replying msg) := by
  refine Returns.then fun blocked => Returns.then fun _ => ?_
  split
  · exact Returns.then fun _ => Returns.then fun _ => Registrar.unauthorizedResponse_returns safe
  · exact Registrar.unauthorizedResponse_returns safe

include lines in
theorem Registrar.register_returns {username : Str} (single : Str.OneLine username) :
    (Registrar.register server msg src username).Returns (Replying msg) := by
  have contact : Str.OneLine (msg.contact.getD "*".toList) := by
    cases present : msg.contact with
    | none => decide
    | some value => exact lines.value present
  dsimp only [Registrar.register]
  split
  · refine Returns.then fun deleted => ?_
    split
    · exact returns_error
    · exact Returns.then fun _ => returns_plain (by decide)
  · refine Returns.then fun stored => ?_
    split
    · exact returns_error
    refine Returns.then fun _ => Returns.then fun _ => ?_
    have uri := oneLine_routableContactUri server.platform src contact single
    have base : (baseResponse msg 200 "OK".toList).Replies msg :=
      ResponseBuilder.replies_baseResponse (by decide) (by decide)
    refine ⟨_, base.header (by decide) ?_, rfl⟩
    simp only [Str.oneLine_append, Str.oneLine_cons]
    exact ⟨⟨⟨by decide, uri⟩, by decide⟩, Str.oneLine_ofNat _⟩

include safe lines

theorem Registrar.authenticate_returns {username : Str} (single : Str.OneLine username)
    (params : AuthParams.Params) :
    (authenticate server msg src username params).Returns (Replying msg) := by
  refine Returns.then fun time => ?_
  split
  · exact fun never => nomatch never
  · exact rejectCredentials_returns safe _ _
  refine Returns.then fun row => ?_
  split
  · exact returns_error
  split
  · exact Returns.then fun _ => Returns.then fun _ => register_returns lines single
  · exact rejectCredentials_returns safe _ _

theorem Registrar.handleRegister_returns :
    (handleRegister server msg src).Returns (Replying msg) := by
  dsimp only [handleRegister]
  split
  · exact returns_plain (by decide)
  refine Returns.then fun blocked => ?_
  split
  · exact returns_plain (by decide)
  split
  · exact unauthorizedResponse_returns safe
  split
  · exact fun never => nomatch never
  · exact authenticate_returns safe lines (oneLine_sender lines oneLine_nil) _

theorem Mwi.handleSubscribe_returns :
    (Mwi.handleSubscribe server msg src).Returns (Replying msg) := by
  have accepted : ∀ granted : Nat, IsReply msg
      ((baseResponseWithTo msg 200 "OK".toList
        (Mwi.mwiSubscribeToHeader server (msg.toHeader.getD []) msg.callKey)).header "Contact".toList
          ("<sip:".toList ++ (headerUser msg.fromHeader).getD [] ++ '@' :: server.cfg.publicIp ++
            ':' :: ofNat server.cfg.sipPort ++ ">".toList) |>.header
          "Expires".toList (ofNat granted)).build := by
    intro granted
    have base : (baseResponseWithTo msg 200 "OK".toList _).Replies msg :=
      replies_baseResponseWithTo (by decide) (by decide)
        (Mwi.answersTo_mwiSubscribeToHeader server msg msg.callKey)
    exact ⟨_, (base.header (by decide)
      (oneLine_ownContact safe (oneLine_sender lines oneLine_nil))).header (by decide)
        (oneLine_ofNat granted), rfl⟩
  dsimp only [Mwi.handleSubscribe]
  split
  · exact returns_plain (by decide)
  split
  · exact returns_plain (by decide)
  refine Returns.then fun registered => ?_
  split
  · exact returns_error
  · exact returns_plain (by decide)
  split
  · refine Returns.then fun deleted => ?_
    split
    · exact returns_error
    · exact accepted 0
  · refine Returns.then fun stored => ?_
    split
    · exact returns_error
    · exact Returns.then fun _ => accepted _

end Registrar

namespace Presence

theorem subscribe_returns (subscription : Subscription) :
    (subscribe server msg src subscription).Returns (Replying msg) := by
  dsimp only [subscribe]
  split
  · refine Returns.then fun deleted => ?_
    split
    · exact returns_error
    · exact Returns.then fun _ => returns_plain (by decide)
  · refine Returns.then fun stored => ?_
    split
    · exact returns_error
    · exact Returns.then fun _ => Returns.then fun _ => Returns.then fun _ =>
        returns_plain (by decide)

theorem handleSubscribe_returns : (handleSubscribe server msg src).Returns (Replying msg) := by
  dsimp only [handleSubscribe]
  split
  · exact returns_plain (by decide)
  split
  · exact fun never => nomatch never
  split
  · exact returns_plain (by decide)
  · exact subscribe_returns _

end Presence

section Requests

/-- The one text a request is answered with. -/
def Answered (msg : SipMessage) (answer : Option Str) : Prop :=
  ∃ text, answer = some text ∧ IsReply msg text

theorem Handler.finish_returns {handler : Action (Fallible Str)}
    (replies : handler.Returns (Replying msg)) :
    (finish msg handler).Returns (Answered msg) := by
  refine replies.bind fun result replying => ?_
  cases result with
  | ok text => exact ⟨text, rfl, replying⟩
  | error _ => exact ⟨_, rfl, isReply_plain (by decide)⟩

theorem Handler.isReply_handleOptions : IsReply msg (handleOptions msg) := by
  have base : (baseResponse msg 200 "OK".toList).Replies msg :=
    replies_baseResponse (by decide) (by decide)
  exact ⟨_, (base.header (by decide) (by decide)).header (by decide) (by decide), rfl⟩

theorem Handler.isReply_methodNotAllowed : IsReply msg (methodNotAllowed msg) := by
  have base : (baseResponse msg 405 "Method Not Allowed".toList).Replies msg :=
    replies_baseResponse (by decide) (by decide)
  exact ⟨_, base.header (by decide) (by decide), rfl⟩

variable (safe : server.cfg.LineSafe) (lines : msg.LineSafe) {method : Handler.Method}
  (other : method ≠ .ack)

include safe lines other

theorem Handler.routeToProxy_returns :
    (routeToProxy server msg src method).Returns (Answered msg) := by
  cases method with
  | register => exact finish_returns (handleRegister_returns safe lines)
  | invite => exact finish_returns (handleInvite_returns safe lines)
  | options => exact ⟨_, rfl, isReply_handleOptions⟩
  | info =>
    exact finish_returns (forwardInDialog_returns (isReply_plain (by decide))
      (isReply_plain (by decide)))
  | message => exact finish_returns handleMessage_returns
  | refer =>
    exact finish_returns (forwardInDialog_returns (isReply_plain (by decide))
      (isReply_plain (by decide)))
  | notify =>
    exact finish_returns (forwardInDialog_returns (isReply_plain (by decide))
      (isReply_plain (by decide)))
  | subscribe => exact finish_returns Presence.handleSubscribe_returns
  | ack => exact absurd rfl other
  | bye => exact finish_returns handleBye_returns
  | cancel => exact finish_returns handleCancel_returns
  | other => exact ⟨_, rfl, isReply_methodNotAllowed⟩

theorem Handler.routeConference_returns (isConference : Bool) :
    (routeConference server msg src method isConference).Returns (Answered msg) := by
  unfold routeConference
  split
  · split
    · exact absurd rfl other
    · exact finish_returns handleBye_returns
    · exact finish_returns handleBye_returns
    · exact finish_returns handleInfo_returns
    · exact routeToProxy_returns safe lines other
  · exact routeToProxy_returns safe lines other

theorem Handler.routeAfterVoicemail_returns :
    (routeAfterVoicemail server msg src method).Returns (Answered msg) := by
  have continues : ∀ isConference, (routeAfterVoicemail.continueWith server msg src method
      isConference).Returns (Answered msg) := by
    intro isConference
    unfold routeAfterVoicemail.continueWith
    split
    · refine Returns.then fun room => ?_
      split
      · exact finish_returns (handleInvite_returns safe lines _ _)
      · exact finish_returns (handleInvite_returns safe lines)
    · exact routeConference_returns safe lines other isConference
  unfold routeAfterVoicemail
  split
  · exact continues false
  · exact Returns.then fun found => continues _

theorem Handler.routeRequest_returns (isVoicemail : Bool) :
    (routeRequest server msg src method isVoicemail).Returns (Answered msg) := by
  have later := @Handler.routeAfterVoicemail_returns server msg src safe lines method other
  unfold routeRequest
  split
  · exact finish_returns (Mwi.handleSubscribe_returns safe lines)
  split
  · exact finish_returns (handleAccessInvite_returns safe)
  unfold routeVoicemail
  split
  · split
    · exact absurd rfl other
    · exact finish_returns endCall_returns
    · exact finish_returns handleCancel_returns
    · exact finish_returns handleInfo_returns
    · exact later
  · exact later

theorem Handler.processRequest_returns :
    (processRequest server msg src method).Returns (Answered msg) := by
  unfold processRequest
  split
  · exact routeRequest_returns safe lines other false
  · exact Returns.then fun _ => routeRequest_returns safe lines other _

end Requests

theorem Handler.ofText_ne_ack {text : Str} (other : text ≠ "ACK".toList) :
    Handler.Method.ofText text ≠ .ack := by
  have branch : ∀ {named : Prop} [Decidable named] {first rest : Handler.Method},
      first ≠ .ack → rest ≠ .ack → (if named then first else rest) ≠ .ack := by
    intro named _ first rest
    split
    · exact fun apart _ => apart
    · exact fun _ apart => apart
  unfold Handler.Method.ofText
  iterate 8 refine branch nofun ?_
  rw [if_neg other]
  exact branch nofun (branch nofun nofun)

/-- Whatever the steps of a request other than ACK answer, if they all return, then the request
is answered with one text, which reads back as a response to it. -/
theorem request_answered_once {raw text : Str} (safe : server.cfg.LineSafe)
    (parsed : SipMessage.parse server.platform raw = .ok msg) (request : msg.method = some text)
    (other : text ≠ "ACK".toList) (src : SocketAddr) (responses : Responses signature) :
    (∃ op past, (Handler.processMsg server msg src).outcome responses [] = .error op ∧
      responses past op = none) ∨
    ∃ reply, (Handler.processMsg server msg src).outcome responses [] = .ok (some reply) ∧
      Answers server.platform msg reply := by
  have lines := SipMessage.lineSafe_of_parse parsed
  have returns : (Handler.processMsg server msg src).Returns (Answered msg) := by
    unfold Handler.processMsg
    rw [request]
    exact Handler.processRequest_returns safe lines (Handler.ofText_ne_ack other)
  obtain stopped | ⟨answer, finished, reply, rfl, builder, replies, rfl⟩ :=
    returns.outcome responses []
  · exact .inl stopped
  · exact .inr ⟨builder.build, finished, replies.answers lines⟩

end Handlers

namespace Scenario

/-- The answers of the world of the scenarios, at startup. -/
def responses : Responses signature :=
  fun _ op => (op.resolve (outside none) .initial).map Prod.fst

/-- A text is a request with a method, and its steps all return. -/
def returnsFor (raw method : Str) : Bool :=
  match SipMessage.parse server.platform raw with
  | .error _ => false
  | .ok msg => decide (msg.method = some method) &&
      ((Handler.processMsg server msg caller).outcome responses []).isOk

/-- An OPTIONS request is answered. -/
theorem request_answered_once_options :
    ∃ msg reply, SipMessage.parse server.platform (request "OPTIONS") = .ok msg ∧
      (Handler.processMsg server msg caller).outcome responses [] = .ok (some reply) ∧
      Answers server.platform msg reply := by
  have computed : returnsFor (request "OPTIONS") "OPTIONS".toList = true := by decide +kernel
  unfold returnsFor at computed
  split at computed
  · cases computed
  · next msg parsed =>
      obtain ⟨named, returned⟩ := (Bool.and_eq_true _ _).mp computed
      obtain ⟨op, past, stopped, -⟩ | ⟨reply, finished, answers⟩ :=
        request_answered_once ⟨by decide, by decide, by decide⟩ parsed (of_decide_eq_true named)
          (by decide) caller responses
      · rw [stopped] at returned
        cases returned
      · exact ⟨msg, reply, parsed, finished, answers⟩

end Scenario

end Sip3
