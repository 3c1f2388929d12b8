import Sip3.Server.Routing
import Sip3.Semantics.Schedule

/-!
# Computed runs of the server

A schedule of the server needs an answer for everything outside it. `Outside` gives
one answer to each question; with it a run can be computed, and
`Scenario.exists_run` says that what is computed is a run.

The scenarios of this development share one small world: a caller, a callee
registered under `b`, and a mailbox for the callee or none.
-/

namespace Sip3

open Text Semantics

/-- One answer to each question to the outside. -/
abbrev Outside := (request : Ask) → request.Answer

/-- A question to the outside was answered as this world answers it. -/
def Outside.Gives (outside : Outside) : System.Occurrence signature → Prop
  | ⟨.ask request, answer⟩ => answer = outside request
  | _ => True

/-- The answer to a step that has none of its own. Every send succeeds. -/
def Op.answerFrom (outside : Outside) : (op : Op) → Option op.Answer
  | .send _ _ _ => some true
  | .ask request => some (outside request)
  | _ => none

/-- The outcome of a step in a given world. -/
def Op.resolve (outside : Outside) (state : ServerState) (op : Op) :
    Option (op.Answer × ServerState) :=
  match op.effect state with
  | .settled answer after => some (answer, after)
  | .asked => (op.answerFrom outside).map fun answer => (answer, state)
  | .never => none

theorem Op.perform_of_resolve {outside : Outside} {state after : ServerState} {op : Op}
    {answer : op.Answer} (resolved : op.resolve outside state = some (answer, after)) :
    op.Perform state answer after := by
  unfold Op.resolve at resolved
  unfold Op.Perform
  cases effect : op.effect state with
  | settled expected next =>
    rw [effect] at resolved
    cases resolved
    exact ⟨rfl, rfl⟩
  | asked =>
    rw [effect] at resolved
    obtain ⟨_, _, same⟩ := Option.map_eq_some_iff.mp resolved
    exact (congrArg Prod.snd same).symm
  | never =>
    rw [effect] at resolved
    cases resolved

/-- The outcomes of steps in a given world. -/
def Outside.resolver (outside : Outside) (server : Server) : server.system.Resolver where
  resolve := fun state op => op.resolve outside state
  sound := Op.perform_of_resolve

/-- The outcomes in a given world in which nothing can be sent. -/
def Outside.unsending (outside : Outside) (server : Server) : server.system.Resolver where
  resolve := fun state op =>
    match op with
    | .send _ _ _ => some (false, state)
    | other => other.resolve outside state
  sound := fun {state op answer after} resolved => by
    cases op with
    | send site dest text =>
      obtain ⟨-, rfl⟩ := Prod.mk.inj (Option.some.inj resolved)
      exact rfl
    | _ => exact Op.perform_of_resolve resolved

/-- Parse a text, run a handler on the message alone, and test how it ends. -/
def Server.handles {α : Type} (server : Server) (raw : Str) (resolver : server.system.Resolver) (state : ServerState)
    (handler : SipMessage → Action α)
    (check : SipMessage → List (System.Occurrence signature) → ServerState → α → Bool) : Bool :=
  match SipMessage.parse server.platform raw with
  | .error _ => false
  | .ok msg => (resolver.run state (handler msg)).any fun (occurrences, final, value) =>
    check msg occurrences final value

theorem exists_exec_of_handles {α : Type} {server : Server} {raw : Str} {resolver : server.system.Resolver}
    {state : ServerState} {handler : SipMessage → Action α}
    {check : SipMessage → List (System.Occurrence signature) → ServerState → α → Bool}
    (computed : server.handles raw resolver state handler check = true) :
    ∃ msg occurrences final value, SipMessage.parse server.platform raw = .ok msg ∧
      server.system.Exec state (handler msg) occurrences final value ∧
      check msg occurrences final value = true := by
  unfold Server.handles at computed
  split at computed
  · cases computed
  · next msg parsed =>
      obtain ⟨occurrences, final, value, execution, checked⟩ :=
        System.Resolver.exists_exec computed
      exact ⟨msg, occurrences, final, value, parsed, execution, checked⟩

namespace Scenario

/-- No rows. -/
def noRows : (statement : Query) → statement.Rows
  | .accountEnabled _ _ => false
  | .accountLookup _ _ => none
  | .registrationSource _ _ => none
  | .registrationSources _ _ => []
  | .registrationContact _ _ => none
  | .registrationCount _ _ => 0
  | .contactBySource _ _ => none
  | .voicemailBox _ _ => none
  | .boxMessages _ => []
  | .boxMessageCount _ => 0
  | .boxPinHash _ => none
  | .boxGreeting _ => none
  | .mwiCounts _ _ => none
  | .mwiSubscriptions _ _ => []
  | .presenceSubscriptions _ _ => []
  | .presenceCseq _ _ _ => 0
  | .conferenceRoom _ _ => none
  | .roomPinHash _ => none
  | .roomActiveCount _ => 0
  | .insertParticipant .. | .cleanUp _ => 0
  | .refreshSourcePort .. | .upsertRegistration .. | .deleteRegistration .. | .recordCall ..
  | .setCallStatus .. | .persistMessage .. | .securityEvent .. | .aclBan .. | .webhook ..
  | .setMessageStatus .. | .insertVoicemail .. | .mwiUpsert .. | .mwiDelete .. | .mwiSetCseq ..
  | .presenceUpsert .. | .presenceDelete .. | .presenceSetCseq .. | .participantLeft ..
  | .participantMuted .. => ()

/-- The database of the scenarios: every account is enabled, the callee is registered, and
has the given mailbox. -/
def rows (mailbox : Option MailboxSettings) : (statement : Query) → statement.Rows
  | .accountEnabled _ _ => true
  | .registrationContact _ _ => some ("sip:b@b".toList, "b".toList, 5060)
  | .voicemailBox _ _ => mailbox
  | statement => noRows statement

/-- The world of the scenarios. -/
def outside (mailbox : Option MailboxSettings) : Outside
  | .query statement => .ok (rows mailbox statement)
  | .isBlocked _ _ => false
  | .recordFailure _ _ _ => false
  | .recordSuccess _ _ => ()
  | .streamRegistered _ => false
  | .clock => 0
  | .instant => 0
  | .randomBytes count => Vector.replicate count 0
  | .randomId => 0
  | .bindPortPair => .ok (10000, 10002)
  | .bindVoicemailPort => .ok 20000
  | .bindConferencePort => .ok 30000
  | .webrtcConnect => .ok ()
  | .webrtcPrepare _ _ => .error .media
  | .webrtcNegotiate _ => .error .media
  | .webrtcApplyAnswer _ _ => .ok ()
  | .recordAudio .. => .ok ("audio".toList, 5)
  | .deleteAudio _ => .ok ()
  | .playAudio _ _ => .ok ()
  | .sleep _ => ()

/-- A mailbox with room. -/
def mailbox : MailboxSettings :=
  ⟨1, "b".toList, "t".toList, 20, 60, 10, none, none⟩

/-- The caller's address. -/
def caller : SocketAddr := ⟨.v4 #v[10, 0, 0, 1], 5060⟩

/-- The callee's address. -/
def callee : SocketAddr := ⟨.v4 #v[10, 0, 0, 2], 5060⟩

/-- The server of the scenarios. Every address text is the callee's. -/
def server : Server where
  platform := .ascii fun _ => some callee
  cfg :=
    { sipDomain := "t".toList
      sipPort := 5060
      publicIp := "10.0.0.9".toList
      voicemailAccessExtension := "*97".toList
      voicemailIdleTimeoutSecs := 10
      registrationExpires := 3600
      nonceSecret := "secret".toList
      nonceMaxAgeSecs := 300
      persistAclBans := false
      aclBanPriority := 0 }

/-- The Call-ID of the scenarios. -/
def callId : CallId := "c".toList

/-- Header lines. -/
def headerLines (lines : List String) : Str :=
  lines.flatMap fun line => line.toList ++ ['\r', '\n']

/-- The header lines after the Via headers, for a request of the given method. -/
def callHeaders (method : String) : Str :=
  headerLines ["From: <sip:a@t>", "To: <sip:b@t>", "Call-ID: c"] ++ "CSeq: 1 ".toList ++
    headerLines [method, ""]

/-- A request of the call. -/
def request (method : String) : Str :=
  method.toList ++ headerLines [" sip:b@t SIP/2.0", "Via: SIP/2.0/UDP a"] ++ callHeaders method

/-- A response to a request of the call. -/
def response (status method : String) : Str :=
  "SIP/2.0 ".toList ++ headerLines [status, "Via: SIP/2.0/UDP t", "Via: SIP/2.0/UDP a"] ++
    callHeaders method

/-- A server that knows the caller's address and whose PIN hashes are the PINs. -/
def mailServer : Server :=
  { server with platform := { server.platform with
      bcryptVerify := fun pin hash => some (decide (pin = hash))
      parseIpAddr := fun _ => some caller.ip } }

/-- The world of a registered caller whose mailbox has two messages, a greeting, and a PIN or
none. -/
def mailWorld (pin : Option Str) : Outside
  | .query (.voicemailBox _ _) =>
    .ok (some { mailbox with greetingStorageKey := some "hello".toList, pinHash := pin })
  | .query (.registrationSources _ _) => .ok [("10.0.0.1".toList, 5060)]
  | .query (.boxMessages _) =>
    .ok [⟨1, "first".toList, "new".toList⟩, ⟨2, "second".toList, "new".toList⟩]
  | .query (.boxPinHash _) => .ok pin
  | .query (.boxGreeting _) => .ok (some "hello".toList)
  | request => outside none request

/-- The text of the INVITE with which the caller opens the mailbox. -/
def accessText : Str :=
  "INVITE".toList ++ headerLines [" sip:*97@t SIP/2.0", "Via: SIP/2.0/UDP a"] ++
    callHeaders "INVITE" ++ headerLines ["m=audio 4000 RTP/AVP 0"]

/-- The INVITE with which the caller opens the mailbox. -/
def accessInvite : Task := .stream accessText caller

/-- The INFO request for a key the caller presses. -/
def keyPress (key : Char) : Task :=
  .stream (request "INFO" ++ "Signal=".toList ++ [key]) caller

/-- A thread runs in the world of the mailbox. -/
def mailSteps (index : Nat) (pin : Option Str) : mailServer.system.Turn :=
  .act index 100 ((mailWorld pin).resolver mailServer)

/-- The server with the mailbox at startup. -/
def mailStart : mailServer.Config := ⟨.initial, [], []⟩

/-- A turn of the scenarios. -/
abbrev Turn := server.system.Turn

/-- A request of the caller. -/
def fromCaller (method : String) : Task := .stream (request method) caller

/-- A response of the callee. -/
def fromCallee (status method : String) : Task := .stream (response status method) callee

/-- A thread makes a number of steps. -/
def steps (index count : Nat) (box : Option MailboxSettings) : Turn :=
  .act index count ((outside box).resolver server)

/-- The server at startup. -/
def start : server.Config := ⟨.initial, [], []⟩

/-- The INVITE of the call, before its handler runs. -/
def invited : server.Config := ⟨.initial, [], [fromCaller "INVITE"].map System.launch⟩

/-- The call rings: its timer is armed and its caller pending. -/
def ringing : ServerState :=
  { ServerState.initial with
    pendingDialogs := AList.singleton callId caller
    noAnswer := AList.singleton callId (.ringing 0) }

theorem run_of_play {turns : List Turn} {config final : server.Config}
    (played : config.play turns = some final) :
    System.Steps (.free server.system) config final :=
  System.Config.playUnder_steps (fun _ _ _ _ => trivial) (fun _ _ => trivial) played

/-- A scenario that leads to a configuration with a computed property. -/
theorem exists_run {turns : List Turn} {config : server.Config} {check : server.Config → Bool}
    (computed : (config.play turns).any check = true) :
    ∃ final, System.Steps (.free server.system) config final ∧ check final = true := by
  obtain ⟨final, played, checked⟩ := (Option.any_eq_true _ _).mp computed
  exact ⟨final, run_of_play played, checked⟩

end Scenario

end Sip3
