import Sip3.Server.Flow.Follows

/-!
# The control flow of a mailbox access call

The tasks of the server seen from the Call-ID of a call to the voicemail extension:
the INVITE that opens the mailbox, the INFO requests of its menu, the audio tasks
they start, and the requests that acknowledge the call or hang it up. A task stands at
a control point, and `Edge` lists the steps that lead from one point to another. The
list of messages is only loaded, and a message only saved or deleted, at a point where
the mailbox is open.
-/

namespace Sip3

open Text Semantics Program Handler Voicemail Endpoint

/-- The task handles an INFO request of the call with this signal. -/
def Task.Signals (server : Server) (callId : CallId) (signal : Option Voicemail.Dtmf)
    (task : Task) : Prop :=
  ∃ msg text, task.message server = some msg ∧ msg.callKey = callId ∧ msg.method = some text ∧
    Method.ofText text = .info ∧ Voicemail.parseDtmfRelay msg.body = signal

/-- The task handles a request that hangs the call up. -/
def Task.Hangs (server : Server) (callId : CallId) (task : Task) : Prop :=
  task.Handles server callId .bye ∨ task.Handles server callId .cancel

instance (server : Server) (callId : CallId) (task : Task) :
    Decidable (task.Hangs server callId) :=
  inferInstanceAs (Decidable (_ ∨ _))

/-- Whether a call records a message. -/
def VoicemailMode.isRecording : VoicemailMode → Bool
  | recording _ _ => true
  | _ => false

/-- Whether a signal moves playback to another message. -/
def Voicemail.moves : VoicemailMode → Voicemail.Dtmf → Bool
  | .playback _ _ messages currentIndex, .one => messages ≠ [] ∧ currentIndex > 0
  | .playback _ _ messages currentIndex, .two
  | .playback _ _ messages currentIndex, .pound =>
    messages ≠ [] ∧ currentIndex + 1 < messages.length
  | _, _ => false

namespace Access

/-- The control points of a task, for one access call. -/
inductive Point where
  /-- A task of another call, or of none. -/
  | foreign
  /-- Nothing that matters for the call, or nothing more. -/
  | plain
  /-- A BYE or a CANCEL. -/
  | hanging
  /-- An audio task of the call. -/
  | player
  /-- The INVITE before its mailbox is found. -/
  | calling
  /-- The INVITE has found its mailbox. -/
  | located (settings : MailboxSettings)
  /-- The INVITE has entered a media session. -/
  | allocated (settings : MailboxSettings)
  /-- An INFO request before it has found the call. -/
  | info (signal : Option Voicemail.Dtmf)
  /-- A key of PIN entry, or a PIN that was not accepted. -/
  | entering
  /-- `#` in PIN entry. -/
  | pounding
  /-- `#` has found the digits that were entered for a mailbox. -/
  | checking (boxId : Nat) (digits : Str)
  /-- The mailbox is open. -/
  | opened
  /-- A key that moves to another message. -/
  | moving
  /-- `#` during recording. -/
  | stopping
  deriving DecidableEq

/-- The routine steps on the call at each point. -/
def Point.loops : Point → List Kind
  | .foreign => []
  | .plain =>
    [.voicemailGet, .conference, .rooms, .ask, .timerCancel, .dialogGet, .sendForward,
      .sendReply, .access]
  | .hanging =>
    [.voicemailGet, .voicemailRemove, .registryRemove, .recordingMark, .timerCancel,
      .timerCancelForCaller, .conference, .rooms, .ask, .dialogGet, .dialogRemove,
      .pendingRemove, .mediaRemove, .webrtc, .sendForward, .sendReply]
  | .player => [.registryGet, .ask]
  | .calling | .located _ | .allocated _ => [.voicemailGet, .access, .ask, .sendReply]
  | .info _ => [.voicemailGet, .conference, .rooms, .ask, .dialogGet, .sendForward, .sendReply]
  | .entering | .pounding | .checking _ _ => [.ask, .sendReply]
  | .opened =>
    [.voicemailGet, .voicemailUpdate, .access, .ask, .sendNotify, .spawnOther, .sendReply]
  | .moving => [.voicemailGet, .voicemailUpdate, .registryRemove, .ask, .sendNotify, .spawnOther,
      .sendReply]
  | .stopping => [.registryRemove, .ask, .sendReply]

/-- Whether the messages of the mailbox may be touched at a point. -/
def Point.touches : Point → Bool
  | .foreign | .opened | .moving => true
  | _ => false

/-- Topics of statements that touch the messages of a mailbox. -/
abbrev guardedTopics : List Topic := [.messageList, .messageStatus]

/-- Where a signal leads in the mode a call was found in. -/
def menu : VoicemailMode → Voicemail.Dtmf → Point
  | .recording _ _, .pound => .stopping
  | .recording _ _, _ => .plain
  | .pinEntry _ _, .pound => .pounding
  | .pinEntry _ _, _ => .entering
  | mode, signal => if Voicemail.moves mode signal then .moving else .opened

variable {signal : Voicemail.Dtmf} {task : Task}

theorem menu_of_moves {mode : VoicemailMode} (moves : moves mode signal = true) :
    menu mode signal = .moving := by
  cases mode with
  | playback mailbox boxId messages currentIndex => exact if_pos moves
  | _ => cases moves

theorem menu_of_stays {mailbox : Str} {boxId currentIndex : Nat}
    {messages : List VoicemailMessage}
    (stays : moves (.playback mailbox boxId messages currentIndex) signal = false) :
    menu (.playback mailbox boxId messages currentIndex) signal = .opened :=
  if_neg (Bool.eq_false_iff.mp stays)

/-- The graph of an access call. -/
inductive Edge (server : Server) (callId : CallId) :
    Point → (op : Op) → op.Answer → Point → Prop where
  | loop {point : Point} {op : Op} {answer : op.Answer}
      (quiet : op.key? = some callId → op.kind ∈ point.loops)
      (inside : op.kind ≠ .spawnExternal)
      (gated : point.touches = true ∨
        ∀ statement ∈ op.statement?, statement.topic ∉ guardedTopics) :
      Edge server callId point op answer point
  | locate {username domain : Str} {settings : MailboxSettings} :
      Edge server callId .calling (.ask (.query (.voicemailBox username domain)))
        (.ok (some settings)) (.located settings)
  | allocate {settings : MailboxSettings} {session : VoicemailSession} :
      Edge server callId (.located settings) (.voicemailMedia (.allocate callId session)) none
        (.allocated settings)
  | occupied {settings : MailboxSettings} {session : VoicemailSession}
      {found : VoicemailSession} :
      Edge server callId (.located settings) (.voicemailMedia (.allocate callId session))
        (some found) .plain
  | guard {settings : MailboxSettings} {mailbox caller callee : Str} {answer : Option VoicemailCall}
      (locked : settings.pinHash.any (· ≠ []) = true) :
      Edge server callId (.allocated settings)
        (.voicemailActive (.insert callId ⟨.pinEntry settings.id mailbox, caller, callee, []⟩))
        answer .plain
  | list {settings : MailboxSettings} {answer : Fallible (List VoicemailMessage)}
      (unlocked : settings.pinHash.any (· ≠ []) = false) :
      Edge server callId (.allocated settings) (.ask (.query (.boxMessages settings.id))) answer
        .opened
  | present {mailbox caller callee : Str} {boxId : Nat} {messages : List VoicemailMessage}
      {answer : Option VoicemailCall} :
      Edge server callId .opened
        (.voicemailActive (.insert callId
          ⟨.playback mailbox boxId messages 0, caller, callee, []⟩)) answer .opened
  | find {signal : Voicemail.Dtmf} {call : VoicemailCall} :
      Edge server callId (.info (some signal)) (.voicemailActive (.get callId)) (some call)
        (menu call.mode signal)
  | type {op : VoicemailCallOp} {answer : Option VoicemailCall}
      (typed : op = .clearPin callId ∨ ∃ digit, op = .pushPin callId digit) :
      Edge server callId .entering (.voicemailActive op) answer .plain
  | lose : Edge server callId .pounding (.voicemailActive (.get callId)) none .plain
  | read {boxId : Nat} {mailbox : Str} {call : VoicemailCall}
      (waiting : call.mode = .pinEntry boxId mailbox) :
      Edge server callId .pounding (.voicemailActive (.get callId)) (some call)
        (.checking boxId call.pinBuffer)
  | pass {call : VoicemailCall} (beyond : ∀ boxId mailbox, call.mode ≠ .pinEntry boxId mailbox) :
      Edge server callId .pounding (.voicemailActive (.get callId)) (some call) .opened
  | verify {boxId : Nat} {digits hash : Str}
      (verified : server.platform.bcryptVerify digits hash = some true) :
      Edge server callId (.checking boxId digits) (.ask (.query (.boxPinHash boxId)))
        (.ok (some hash)) .opened
  | refuse {boxId : Nat} {digits : Str} {answer : Fallible (Option Str)} :
      Edge server callId (.checking boxId digits) (.ask (.query (.boxPinHash boxId))) answer
        .entering

/-- A task may answer its message at a point. -/
def Point.replies (point : Point) : Prop :=
  .sendReply ∈ point.loops

/-- The message tasks of the call may answer anywhere. -/
theorem replies_of_ne {point : Point} (ours : point ≠ .foreign) (handles : point ≠ .player) :
    point.replies := by
  cases point <;> simp_all [Point.replies, Point.loops]

theorem replies_opened : Point.replies .opened :=
  replies_of_ne (by simp) (by simp)

theorem spawnExternal_not_mem_loops (point : Point) : Kind.spawnExternal ∉ point.loops := by
  cases point <;> simp [Point.loops]

section Routine

variable {server : Server} {callId : CallId} {point : Point} {kinds : List Kind}
  {topics : List Topic} {α β : Type}

theorem edge_of_keeps {op : Op} (keeps : Op.Keeps callId kinds topics op)
    (routine : kinds ⊆ point.loops)
    (gated : point.touches = true ∨ ∀ topic ∈ topics, topic ∉ guardedTopics) (answer : op.Answer) :
    Edge server callId point op answer point := by
  refine .loop (fun _ => routine keeps.within.2) ?_ (gated.imp_right fun free statement made => ?_)
  · exact fun external => spawnExternal_not_mem_loops point (external ▸ routine keeps.within.2)
  · exact free _ (keeps.states statement made).2

variable {program : Action α} {exit : α → Point → Prop}

theorem follows_of_keeps (uses : program.Uses (Op.Keeps callId kinds topics))
    (routine : kinds ⊆ point.loops)
    (gated : point.touches = true ∨ ∀ topic ∈ topics, topic ∉ guardedTopics)
    (stops : ∀ value, exit value point) : program.Follows (Edge server callId) point exit :=
  uses.follows (fun _ keeps answer => edge_of_keeps keeps routine gated answer) stops

/-- Routine steps, and then a program from the same point. -/
theorem follows_bind_of_keeps {next : α → Action β} {exit : β → Point → Prop}
    (uses : program.Uses (Op.Keeps callId kinds topics)) (routine : kinds ⊆ point.loops)
    (gated : point.touches = true ∨ ∀ topic ∈ topics, topic ∉ guardedTopics)
    (rest : ∀ value, (next value).Follows (Edge server callId) point exit) :
    (program >>= next).Follows (Edge server callId) point exit :=
  uses.follows_bind (fun _ keeps answer => edge_of_keeps keeps routine gated answer) rest

/-- A routine step, and then a program from the same point. -/
theorem follows_request {op : Op} {next : op.Answer → Action α} (routine : op.kind ∈ point.loops)
    (gated : point.touches = true ∨ ∀ statement ∈ op.statement?, statement.topic ∉ guardedTopics)
    (rest : ∀ answer, (next answer).Follows (Edge server callId) point exit) :
    (request op next : Action α).Follows (Edge server callId) point exit :=
  fun answer => ⟨point, .loop (fun _ => routine)
    (fun external => spawnExternal_not_mem_loops point (external ▸ routine)) gated, rest answer⟩

end Routine

section Handlers

variable (server : Server) (msg : SipMessage) (src : SocketAddr) {callId : CallId}

/-- A session that could be entered belongs to the call. -/
theorem allocateMedia_follows (settings : MailboxSettings) (negotiation : Negotiation) :
    (allocateMedia callId negotiation).Follows (Edge server callId) (.located settings)
      fun value stop => match value with
        | .error _ => stop = .located settings ∨ stop = .plain
        | .ok _ => stop = .allocated settings := by
  unfold allocateMedia
  split
  · exact .inl rfl
  refine follows_request (by simp [Point.loops]) (.inr (by simp)) fun port => ?_
  cases port with
  | error error => exact .inl rfl
  | ok port =>
    intro found
    cases found with
    | some session => exact ⟨_, .occupied, .inr rfl⟩
    | none => exact ⟨_, .allocate, rfl⟩

theorem discardAccessAnd_follows {point : Point} (result : Fallible Str)
    (routine : .access ∈ point.loops) (replies : point.replies) :
    (discardAccessAnd callId result).Follows (Edge server callId) point
      fun _ stop => stop.replies :=
  follows_request routine (.inr (by simp)) fun _ => replies

theorem presentMessages_follows (caller : Str) (settings : MailboxSettings) (response : Str)
    (unlocked : settings.pinHash.any (· ≠ []) = false) :
    (do
      let messages ← listMessagesForMailbox settings.id
      let _ ← Action.insertVoicemailCall callId
        ⟨.playback caller settings.id messages 0, caller, settings.username, []⟩
      let _ ← Action.discardAccessCandidate callId
      match settings.greetingStorageKey with
      | some greetingKey =>
        let _ ← Action.spawn (.playWav callId greetingKey)
        return .ok response
      | none => return .ok response : Action (Fallible Str)).Follows (Edge server callId)
      (.allocated settings) fun _ stop => stop.replies := by
  have listed : (listMessagesForMailbox settings.id).Follows (Edge server callId)
      (.allocated settings) fun _ stop => stop = .opened := by
    intro answer
    refine ⟨_, .list unlocked, ?_⟩
    cases answer <;> exact rfl
  refine listed.bind ?_
  rintro messages _ rfl
  refine fun _ => ⟨_, .present, ?_⟩
  refine follows_request (by simp [Point.loops]) (.inl rfl) fun _ => ?_
  split
  · exact follows_request (by simp [Point.loops]) (.inl rfl) fun _ => replies_opened
  · exact replies_opened

/-- Opening a mailbox: a call that waits for a PIN, or the list of messages. -/
theorem openAccess_follows (caller : Str) (settings : MailboxSettings) :
    (openAccess server msg caller settings).Follows (Edge server msg.callKey)
      (.located settings) fun _ stop => stop.replies := by
  dsimp only [openAccess]
  split
  · exact discardAccessAnd_follows server _ (by simp [Point.loops])
      (replies_of_ne nofun nofun)
  next negotiation _ =>
    refine (allocateMedia_follows server settings negotiation).bind ?_
    rintro (error | port) stop reached
    · obtain rfl | rfl := reached <;>
        exact discardAccessAnd_follows server _ (by simp [Point.loops])
          (replies_of_ne nofun nofun)
    obtain rfl := reached
    refine follows_bind_of_keeps (buildLocalOk_uses server msg _ _ _)
      (by simp [Point.loops]) (.inr (by simp)) fun response => ?_
    split
    · next locked =>
        exact fun _ => ⟨_, .guard locked, discardAccessAnd_follows server _ (by decide)
          (replies_of_ne nofun nofun)⟩
    · next unlocked =>
        exact presentMessages_follows server caller settings response
          (Bool.eq_false_iff.mpr unlocked)

theorem handleAccessInvite_follows :
    (handleAccessInvite server msg src).Follows (Edge server msg.callKey) .calling
      fun _ stop => stop.replies := by
  have stays : Point.replies .calling := replies_of_ne nofun nofun
  have waits : ∀ settings, Point.replies (.located settings) := fun _ => replies_of_ne nofun nofun
  dsimp only [handleAccessInvite]
  split
  · exact stays
  split
  · exact stays
  have tracked : (trackAccessCandidate msg.callKey).Uses
      (Op.Keeps msg.callKey [.voicemailGet, .access] []) := by
    refine Uses.bind (by simp) fun found => ?_
    split <;> simp
  refine follows_bind_of_keeps tracked (by decide) (.inr (by simp)) fun tracked => ?_
  split
  swap
  · exact stays
  dsimp only [accessTracked]
  split
  · exact discardAccessAnd_follows server _ (by decide) stays
  have box : (lookupEnabledBox ((headerUser msg.fromHeader).getD [])
      server.cfg.sipDomain).Follows (Edge server msg.callKey) .calling fun value stop =>
        stop = value.elim .calling .located := by
    rintro (error | _ | settings)
    · exact ⟨.calling, .loop (fun own => by cases own) (fun same => by cases same) (.inr (by simp)), rfl⟩
    · exact ⟨.calling, .loop (fun own => by cases own) (fun same => by cases same) (.inr (by simp)), rfl⟩
    · exact ⟨_, .locate, rfl⟩
  refine box.bind ?_
  rintro (_ | settings) stop reached
  · obtain rfl : stop = .calling := reached
    exact discardAccessAnd_follows server _ (by decide) stays
  · obtain rfl : stop = .located settings := reached
    refine follows_bind_of_keeps (Mwi.sourceIsRegistered_uses server src _ _)
      (by simp [Point.loops]) (.inr (by simp)) fun registered => ?_
    split
    · exact waits settings
    · exact discardAccessAnd_follows server _ (by simp [Point.loops]) (waits settings)
    · exact openAccess_follows server msg _ settings

theorem clearPin_follows :
    (do
      let _ ← Action.updateVoicemailCall (.clearPin callId)
      return () : Action Unit).Follows (Edge server callId) .entering fun _ stop => stop.replies :=
  fun _ => ⟨_, .type (.inl rfl), replies_of_ne nofun nofun⟩

/-- `#` in PIN entry. A call found beyond PIN entry has been unlocked by another request. -/
theorem verifyPin_follows :
    (verifyPin server callId).Follows (Edge server callId) .pounding
      fun _ stop => stop.replies := by
  have opened : ∀ {α : Type} {program : Action α},
      program.Uses (Op.Keeps callId [.voicemailGet, .voicemailUpdate, .ask, .spawnOther]
        menuTopics) →
      program.Follows (Edge server callId) .opened fun _ stop => stop.replies :=
    fun uses => follows_of_keeps uses (by decide) (.inl rfl) fun _ => replies_opened
  have uses : (verifyPin server callId).Uses _ := verifyPin_uses server
  rintro (_ | ⟨mode, caller, callee, digits⟩)
  · exact ⟨_, .lose, replies_of_ne nofun nofun⟩
  cases mode with
  | recording boxId mailbox => exact ⟨_, .pass nofun, opened (uses.2 (some _))⟩
  | playback mailbox boxId messages currentIndex =>
    exact ⟨_, .pass nofun, opened (uses.2 (some _))⟩
  | pinEntry boxId mailbox =>
    have rest := uses.2 (some ⟨.pinEntry boxId mailbox, caller, callee, digits⟩)
    refine ⟨_, .read rfl, ?_⟩
    rintro (error | _ | hash)
    · exact ⟨.entering, .refuse, replies_of_ne nofun nofun⟩
    · exact ⟨.entering, .refuse, replies_of_ne nofun nofun⟩
    · by_cases verified : server.platform.bcryptVerify digits hash = some true
      · exact ⟨_, .verify verified, opened (rest.2 (.ok (some hash)))⟩
      · refine ⟨_, .refuse, ?_⟩
        have refused : (server.platform.bcryptVerify digits hash).getD false = false := by
          cases result : server.platform.bcryptVerify digits hash with
          | none => rfl
          | some accepted => cases accepted <;> simp_all
        simp only [Program.bind, refused, Bool.false_eq_true, if_false]
        exact clearPin_follows server

theorem menu_replies (mode : VoicemailMode) (signal : Voicemail.Dtmf) :
    (menu mode signal).replies := by
  apply replies_of_ne <;> unfold menu <;> split <;> try split
  all_goals simp

theorem menuSignal_follows (mode : VoicemailMode) (signal : Voicemail.Dtmf) :
    (menuSignal server callId mode signal).Follows (Edge server callId)
      (menu mode signal) fun _ stop => stop.replies := by
  have edits : ∀ {program : Action Unit}, program.Uses (Op.Keeps callId editKinds menuTopics) →
      program.Follows (Edge server callId) .opened fun _ stop => stop.replies :=
    fun uses => follows_of_keeps uses (by decide) (.inl rfl) fun _ => replies_opened
  have moved : ∀ index, (moveTo callId index).Follows (Edge server callId) .moving
      fun _ stop => stop.replies := fun index =>
    follows_of_keeps (moveTo_uses index) (by decide) (.inl rfl)
      fun _ => replies_of_ne (by simp) (by simp)
  cases mode with
  | recording boxId mailbox =>
    cases signal with
    | pound =>
      exact follows_request (by simp [menu, Point.loops]) (.inr (by simp))
        fun _ => menu_replies _ _
    | _ => exact menu_replies _ _
  | pinEntry boxId mailbox =>
    cases signal with
    | pound => exact verifyPin_follows server
    | star => exact clearPin_follows server
    | digit char => exact fun _ => ⟨_, .type (.inr ⟨char, rfl⟩), replies_of_ne (by simp) (by simp)⟩
    | _ => exact menu_replies _ _
  | playback mailbox boxId messages currentIndex =>
    cases signal with
    | seven =>
      dsimp only [menuSignal, playbackSignal]
      split
      · exact edits (deleteMessageAtIndex_uses server _)
      · exact menu_replies _ _
    | nine =>
      dsimp only [menuSignal, playbackSignal]
      split
      · exact edits (saveMessageAtIndex_uses server _)
      · exact menu_replies _ _
    | star => exact menu_replies _ _
    | digit char => exact menu_replies _ _
    | _ =>
      dsimp only [menuSignal, playbackSignal]
      split
      · next moves =>
          rw [menu_of_moves (by exact decide_eq_true moves)]
          exact moved _
      · exact menu_replies _ _

theorem handleInfo_follows :
    (handleInfo server msg).Follows (Edge server msg.callKey)
      (.info (parseDtmfRelay msg.body)) fun _ stop => stop.replies := by
  have stays : ∀ signal, Point.replies (.info signal) := fun _ => replies_of_ne nofun nofun
  cases signal : parseDtmfRelay msg.body with
  | none =>
    simp only [handleInfo, request_bind, done_bind, signal]
    refine follows_request (by simp [Point.loops]) (.inr (by simp)) fun found => ?_
    cases found <;> exact stays _
  | some signal' =>
    simp only [handleInfo, request_bind, done_bind, signal]
    rintro (_ | call)
    · exact ⟨_, .loop (fun _ => by simp [Point.loops]) (fun same => by cases same) (.inr (by simp)), stays _⟩
    · refine ⟨_, .find, ?_⟩
      exact (menuSignal_follows server call.mode signal').bind fun _ stop replies => replies

/-- Where the task of a request of the call begins. -/
def startOf (msg : SipMessage) : Method → Point
  | .invite => .calling
  | .info => .info (Voicemail.parseDtmfRelay msg.body)
  | .bye | .cancel => .hanging
  | _ => .plain

/-- The requests inside an access call. -/
abbrev insideMethods : List Method := [.info, .ack, .bye, .cancel]

/-- A request inside an access call, whichever endpoint it reaches. -/
theorem processRequest_follows {method : Method} (listed : method ∈ insideMethods) :
    (processRequest server msg src method).Follows (Edge server msg.callKey) (startOf msg method)
      fun _ stop => stop.replies := by
  have covers : routingKinds ⊆ (startOf msg method).loops := by
    cases method <;> simp_all [startOf, Point.loops]
  have stays : (startOf msg method).replies := by
    cases method <;> simp_all [startOf, Point.replies, Point.loops]
  refine Handler.processRequest_follows server msg src method
    (fun op route answer => ?_) fun endpoint serves => ?_
  · have gated : ∀ statement ∈ op.statement?, statement.topic ∉ guardedTopics := by
      cases route <;> simp
    have inside := covers route.within.2
    exact .loop (fun _ => inside)
      (fun external => spawnExternal_not_mem_loops _ (external ▸ inside)) (.inr gated)
  subst serves
  have routine : endpoint.kinds ⊆ (startOf msg endpoint.method).loops →
      (∀ topic ∈ endpoint.topics, topic ∉ guardedTopics) →
      (endpoint.run server msg src).Follows (Edge server msg.callKey)
        (startOf msg endpoint.method) fun _ stop => stop.replies := fun covered free =>
    follows_of_keeps (endpoint.run_uses server msg src) covered (.inr free) fun _ => stays
  cases endpoint with
  | voicemailInfo =>
    exact (handleInfo_follows server msg).bind fun _ stop replies => replies
  | proxy method =>
    cases method <;> first
      | exact absurd listed (by decide)
      | exact routine (by simp [kinds, method, startOf, Point.loops])
          (by simp [topics])
  | messageSummary => exact absurd listed (by decide)
  | voicemailAccess => exact absurd listed (by decide)
  | conferenceInvite roomId maxParticipants => exact absurd listed (by simp [method])
  | _ =>
    exact routine (by simp [kinds, method, startOf, Point.loops])
      (by simp [topics])

/-- The INVITE of an access call goes to the mailbox. -/
theorem processRequest_follows_access (access : isAccessInvite server msg = true) :
    (processRequest server msg src .invite).Follows (Edge server msg.callKey) .calling
      fun _ stop => stop.replies := by
  have routed : ∀ isVoicemail, (routeRequest server msg src .invite isVoicemail).Follows
      (Edge server msg.callKey) .calling fun _ stop => stop.replies := by
    intro isVoicemail
    rw [routeRequest, if_neg (by simp), if_pos ⟨rfl, access⟩]
    exact (handleAccessInvite_follows server msg src).bind fun _ stop replies => replies
  unfold processRequest
  split
  · exact routed false
  · exact follows_request (by simp [Point.loops]) (.inr (by simp)) fun _ => routed _

/-- A message of the call is answered where its handler stops. -/
theorem replyTo_follows {result : Option Str} {point : Point} (replies : point.replies) :
    (replyTo msg src result).Follows (Edge server callId) point fun _ _ => True := by
  cases result with
  | none => exact trivial
  | some response => exact follows_request replies (.inr (by simp)) fun _ => trivial

end Handlers

variable (server : Server) (callId : CallId)

/-- The tasks that may arrive at the server with an access call: the INVITE to the extension
and the requests inside the call, and anything that does not belong to it. -/
inductive Admitted (task : Task) : Prop where
  | foreign (other : task.call? server ≠ some callId)
  | invite {msg : SipMessage} (received : task.message server = some msg)
      (own : msg.callKey = callId) (access : Voicemail.isAccessInvite server msg = true)
  | inside {method : Method} (handles : task.Handles server callId method)
      (listed : method ∈ insideMethods)

/-- The test that a message belongs to an access call. -/
def admits (task : Task) : Bool :=
  (task.message server).any fun msg => msg.callKey = callId &&
    (Voicemail.isAccessInvite server msg ||
      msg.method.any fun text => Method.ofText text ∈ insideMethods)

theorem admitted_of_admits (passed : admits server callId task = true) :
    Admitted server callId task := by
  obtain ⟨msg, received, checked⟩ := (Option.any_eq_true _ _).mp passed
  obtain ⟨own, kind⟩ := Bool.and_eq_true_iff.mp checked
  rcases Bool.or_eq_true_iff.mp kind with access | inside
  · exact .invite received (of_decide_eq_true own) access
  · obtain ⟨text, named, listed⟩ := (Option.any_eq_true _ _).mp inside
    exact .inside ⟨msg, text, received, of_decide_eq_true own, named, rfl⟩
      (of_decide_eq_true listed)

/-- The tasks of a server with an access call. -/
def Covered (task : Task) : Prop :=
  Admitted server callId task ∨ ∃ storageKey, task = .playWav callId storageKey

/-- Where a task begins. -/
def start (task : Task) : Point :=
  if task.call? server = some callId then
    match task with
    | .playWav _ _ => .player
    | _ => ((task.message server).bind fun msg =>
      msg.method.map fun text => startOf msg (Method.ofText text)).getD .plain
  else .foreign

variable {server callId}

theorem start_of_message {msg : SipMessage} {text : Str}
    (received : task.message server = some msg) (own : msg.callKey = callId)
    (named : msg.method = some text) :
    start server callId task = startOf msg (Method.ofText text) := by
  have ours : task.call? server = some callId := by
    cases task <;> simp_all [Task.call?, Task.message]
  unfold start
  rw [if_pos ours]
  cases task <;> simp_all [Task.message]

theorem start_of_other (other : task.call? server ≠ some callId) :
    start server callId task = .foreign := by
  unfold start
  exact if_neg other

theorem start_player (storageKey : Str) :
    start server callId (.playWav callId storageKey) = .player :=
  if_pos rfl

theorem not_admitted_playWav {storageKey : Str} :
    ¬ Admitted server callId (.playWav callId storageKey) := by
  rintro (other | ⟨received, -, -⟩ | ⟨⟨msg, text, received, -⟩, -⟩)
  · exact other rfl
  · cases received
  · cases received

/-- Every task of a server with an access call follows its graph. -/
theorem body_follows (covered : Covered server callId task) :
    (task.body server).Follows (Edge server callId) (start server callId task)
      fun _ _ => True := by
  have message : ∀ {msg : SipMessage} {text : Str}, task.message server = some msg →
      msg.callKey = callId → msg.method = some text →
      (∀ src, (processRequest server msg src (.ofText text)).Follows (Edge server msg.callKey)
        (startOf msg (.ofText text)) fun _ stop => stop.replies) →
      (task.body server).Follows (Edge server callId) (start server callId task)
        fun _ _ => True := by
    intro msg text received own named follows
    obtain ⟨src, -, body⟩ := Task.body_of_message received
    rw [start_of_message received own named, body, processMsg, named, ← own]
    exact (follows src).bind fun _ stop replies => replyTo_follows server msg src replies
  obtain (other | ⟨received, own, access⟩ | ⟨⟨msg, text, received, own, named, rfl⟩, listed⟩) |
    ⟨storageKey, rfl⟩ := covered
  · rw [start_of_other other]
    refine (task.body_uses server).follows (fun op within answer => ?_) fun _ => trivial
    refine .loop (fun here => ?_) within.2 (.inl rfl)
    rcases within.1 with none | own
    · cases here.symm.trans none
    · exact absurd (own.symm.trans here) other
  · next msg =>
      have invites : msg.method = some "INVITE".toList :=
        of_decide_eq_true (Bool.and_eq_true_iff.mp access).1
      refine message received own invites fun src => ?_
      exact processRequest_follows_access server msg src access
  · exact message received own named fun src => processRequest_follows server msg src listed
  · rw [start_player]
    exact follows_of_keeps (playWav_uses storageKey) (by decide) (.inr (by simp))
      fun _ => trivial

variable (server callId) in
/-- Where a task begins, and what it is when that matters. -/
inductive Starts (task : Task) : Point → Prop where
  | foreign (other : task.call? server ≠ some callId) : Starts task .foreign
  | plain : Starts task .plain
  | hanging (hangs : task.Hangs server callId) : Starts task .hanging
  | player {storageKey : Str} (same : task = .playWav callId storageKey) : Starts task .player
  | calling (handles : task.Handles server callId .invite) : Starts task .calling
  | info {signal : Option Voicemail.Dtmf} (signals : task.Signals server callId signal) :
      Starts task (.info signal)

theorem starts (covered : Covered server callId task) :
    Starts server callId task (start server callId task) := by
  obtain (other | ⟨received, own, access⟩ | ⟨⟨msg, text, received, own, named, rfl⟩, listed⟩) |
    ⟨storageKey, rfl⟩ := covered
  · exact start_of_other other ▸ .foreign other
  · next msg =>
      have invites : msg.method = some "INVITE".toList :=
        of_decide_eq_true (Bool.and_eq_true_iff.mp access).1
      rw [start_of_message received own invites]
      exact .calling ⟨msg, _, received, own, invites, by decide⟩
  · rw [start_of_message received own named]
    have handles : task.Handles server callId (Method.ofText text) :=
      ⟨msg, text, received, own, named, rfl⟩
    cases method : Method.ofText text with
    | info => exact .info ⟨msg, text, received, own, named, method, rfl⟩
    | bye => exact .hanging (.inl (method ▸ handles))
    | cancel => exact .hanging (.inr (method ▸ handles))
    | ack => exact .plain
    | _ => exact absurd (method ▸ listed) (by decide)
  · exact start_player storageKey ▸ .player rfl

theorem start_ne_player (admitted : Admitted server callId task) :
    start server callId task ≠ .player := by
  have begins := starts (.inl admitted)
  generalize start server callId task = point at begins
  cases begins with
  | player same => exact absurd (same ▸ admitted) not_admitted_playWav
  | _ => exact nofun

section Steps

variable {point target : Point} {op : Op} {answer : op.Answer} {state after : ServerState}

theorem voicemailUpdate_mem_loops (routine : .voicemailUpdate ∈ point.loops) :
    point = .opened ∨ point = .moving := by
  cases point <;> simp_all [Point.loops]

theorem spawnOther_mem_loops (routine : .spawnOther ∈ point.loops) :
    point = .opened ∨ point = .moving := by
  cases point <;> simp_all [Point.loops]

theorem registryRemove_mem_loops (routine : .registryRemove ∈ point.loops) :
    point = .hanging ∨ point = .moving ∨ point = .stopping := by
  cases point <;> simp_all [Point.loops]

theorem registryGet_mem_loops (routine : .registryGet ∈ point.loops) : point = .player := by
  cases point <;> simp_all [Point.loops]

/-- The kinds of steps on the call that are routine nowhere. -/
theorem not_mem_loops (point : Point) :
    ∀ kind ∈ [Kind.voicemailInsert, .registryAllocate, .spawnTimer, .spawnRecording],
      kind ∉ point.loops := by
  cases point <;> simp [Point.loops]

variable {call : VoicemailCall}

/-- An edit changes a call that is there, and starts no recording. -/
theorem entryAfter_of_edit {edit : VoicemailCallOp}
    (edits : (Op.voicemailActive edit).kind = .voicemailUpdate) {found : Option VoicemailCall}
    (edited : edit.entryAfter found = some call) :
    ∃ before, found = some before ∧
      (call.mode.isRecording = true → before.mode.isRecording = true) := by
  cases edit with
  | get callId => cases edits
  | insert callId entered => cases edits
  | remove callId => cases edits
  | _ =>
    obtain ⟨before, rfl, rfl⟩ := Option.map_eq_some_iff.mp edited
    refine ⟨before, rfl, ?_⟩
    obtain ⟨mode, caller, callee, digits⟩ := before
    cases mode <;> first | exact id | exact nofun

/-- The call that is there after a step was there before in the same mode, or it waits for the
PIN of the mailbox just found, or the mailbox is open. -/
theorem voicemailCall_of_edge (edge : Edge server callId point op answer target)
    (performed : op.Perform state answer after)
    (found : after.voicemailActive.lookup callId = some call) :
    (∃ before, state.voicemailActive.lookup callId = some before ∧ before.mode = call.mode) ∨
      (∃ settings mailbox, point = .allocated settings ∧
        call.mode = .pinEntry settings.id mailbox) ∨
      (point = .opened ∨ point = .moving) ∧ (call.mode.isRecording = false ∧ point = .opened ∨
        ∃ before, state.voicemailActive.lookup callId = some before ∧
          (call.mode.isRecording = true → before.mode.isRecording = true)) := by
  obtain ⟨edit, rfl, own, entry⟩ | same := performed.voicemailCall_cases callId
  swap
  · exact .inl ⟨call, same ▸ found, rfl⟩
  rw [entry] at found
  cases edge with
  | guard locked =>
    cases found
    exact .inr (.inl ⟨_, _, rfl, rfl⟩)
  | present =>
    cases found
    exact .inr (.inr ⟨.inl rfl, .inl ⟨rfl, rfl⟩⟩)
  | find => exact .inl ⟨call, found, rfl⟩
  | lose => exact .inl ⟨call, found, rfl⟩
  | read waiting => exact .inl ⟨call, found, rfl⟩
  | pass beyond => exact .inl ⟨call, found, rfl⟩
  | type typed =>
    obtain rfl | ⟨digit, rfl⟩ := typed
    · obtain ⟨before, there, rfl⟩ := Option.map_eq_some_iff.mp found
      exact .inl ⟨before, there, rfl⟩
    · obtain ⟨before, there, rfl⟩ := Option.map_eq_some_iff.mp found
      exact .inl ⟨before, there, rfl⟩
  | loop quiet inside gated =>
    have routine := quiet (congrArg some own)
    cases edit with
    | get call => exact .inl ⟨_, found, rfl⟩
    | remove call => cases found
    | insert call entered => exact absurd routine (not_mem_loops point _ (by simp))
    | _ =>
      exact .inr (.inr ⟨voicemailUpdate_mem_loops routine,
        .inr (entryAfter_of_edit rfl found)⟩)

theorem edge_registryRemove {answer : Option VoicemailSession}
    (edge : Edge server callId point (.voicemailMedia (.remove callId)) answer target) :
    point = .hanging ∨ point = .moving ∨ point = .stopping := by
  cases edge with
  | loop quiet inside gated => exact registryRemove_mem_loops (quiet rfl)

theorem edge_registryGet {answer : Option VoicemailSession}
    (edge : Edge server callId point (.voicemailMedia (.get callId)) answer target) :
    point = .player := by
  cases edge with
  | loop quiet inside gated => exact registryGet_mem_loops (quiet rfl)

/-- What a step starts: audio of the call where its mailbox is open, and nothing else that
belongs to the call. -/
theorem covered_spawned {child : Task} (edge : Edge server callId point op answer target)
    (spawned : op.spawned = some child) :
    Covered server callId child ∧ (start server callId child = .foreign ∨
      start server callId child = .player ∧ target = point ∧
        (point = .opened ∨ point = .moving)) := by
  have other : child.call? server ≠ some callId → Covered server callId child ∧
      (start server callId child = .foreign ∨ start server callId child = .player ∧
        target = point ∧ (point = .opened ∨ point = .moving)) :=
    fun apart => ⟨.inl (.foreign apart), .inl (start_of_other apart)⟩
  cases op with
  | spawn task =>
    obtain rfl := Option.some.inj spawned
    cases edge with
    | loop quiet inside gated =>
      cases task with
      | noAnswerTimer timer =>
        exact other fun own => absurd (quiet own) (not_mem_loops point _ (by simp))
      | recording start =>
        exact other fun own => absurd (quiet own) (not_mem_loops point _ (by simp))
      | playWav playing storageKey =>
        by_cases own : playing = callId
        · subst own
          exact ⟨.inr ⟨storageKey, rfl⟩,
            .inr ⟨start_player storageKey, rfl, spawnOther_mem_loops (quiet rfl)⟩⟩
        · exact other fun same => own (Option.some.inj same)
      | notifyMailbox username domain => exact other nofun
      | datagram data src => exact absurd rfl inside
      | stream raw src => exact absurd rfl inside
      | staleMedia stale => exact absurd rfl inside
      | staleWebRtc stale => exact absurd rfl inside
      | cleanUp sweep => exact absurd rfl inside
  | _ => cases spawned

end Steps

end Access

end Sip3
