import Sip3.Server.Flow.Access
import Sip3.Semantics.History

/-!
# The PIN of a mailbox

Whether the messages of a mailbox are open to a call is recorded only in the mode of
the call, and a handler works with a copy of it. The mode leaves PIN entry in one place,
after `#` has checked the digits that were entered; so whatever touches the messages
comes later than such a check, however the handlers of the call are interleaved.
-/

namespace Sip3

open Text Semantics System Access

section Statements

variable (server : Server) (callId : CallId) (boxId : Nat)

/-- The access calls whose INVITE finds this mailbox, and finds it with a PIN. -/
def lockedAtAccess : Discipline server.system where
  Admits := Admitted server callId
  Allows _ _ event := ∀ task username domain settings,
    event = ⟨task, .ask (.query (.voicemailBox username domain)), .ok (some settings)⟩ →
    task.Handles server callId .invite →
    settings.id = boxId ∧ settings.pinHash.any (· ≠ []) = true

/-- A step of the call that opens its messages: audio is started or looks for the session, a list
of messages is entered into the call or loaded, or a message is saved or deleted. -/
inductive OpensMailbox : server.Event → Prop where
  | starts {task : Task} {storageKey : Str} {answer : Nat} :
      OpensMailbox ⟨task, .spawn (.playWav callId storageKey), answer⟩
  | plays {task : Task} {answer : Option VoicemailSession} :
      OpensMailbox ⟨task, .voicemailMedia (.get callId), answer⟩
  | unlocks {task : Task} {mailbox : Str} {box : Nat} {messages : List VoicemailMessage}
      {answer : Option VoicemailCall} :
      OpensMailbox ⟨task, .voicemailActive (.unlock callId mailbox box messages), answer⟩
  | enters {task : Task} {call : VoicemailCall} {answer : Option VoicemailCall}
      {mailbox : Str} {box index : Nat} {messages : List VoicemailMessage}
      (mode : call.mode = .playback mailbox box messages index) :
      OpensMailbox ⟨task, .voicemailActive (.insert callId call), answer⟩
  | lists {task : Task} {box : Nat} {answer : Fallible (List VoicemailMessage)}
      (own : task.call? server = some callId) :
      OpensMailbox ⟨task, .ask (.query (.boxMessages box)), answer⟩
  | marks {task : Task} {message : Nat} {status : Str} {answer : Fallible Unit}
      (own : task.call? server = some callId) :
      OpensMailbox ⟨task, .ask (.query (.setMessageStatus message status)), answer⟩

/-- A task of the call has read its digits while a PIN of the mailbox is entered. -/
def ReadDigits (events : List server.Event) (task : Task) (digits : Str) : Prop :=
  ∃ call mailbox, ⟨task, .voicemailActive (.get callId), some call⟩ ∈ events ∧
    call.mode = .pinEntry boxId mailbox ∧ call.pinBuffer = digits

/-- `#` has been processed with digits that a PIN hash of the mailbox verifies. -/
def PinVerified (events : List server.Event) : Prop :=
  ∃ front back task digits hash,
    events = front ++ ⟨task, .ask (.query (.boxPinHash boxId)), .ok (some hash)⟩ :: back ∧
    task.Signals server callId (some .pound) ∧ ReadDigits server callId boxId front task digits ∧
    server.platform.bcryptVerify digits hash = some true

end Statements

namespace PinGate

variable {server : Server} {callId : CallId} {boxId : Nat} {event : server.Event}

theorem PinVerified.concat {events : List server.Event}
    (verified : PinVerified server callId boxId events) :
    PinVerified server callId boxId (events ++ [event]) := by
  obtain ⟨front, back, task, digits, hash, rfl, checked⟩ := verified
  exact ⟨front, back ++ [event], task, digits, hash, by simp, checked⟩

theorem ReadDigits.concat {events : List server.Event} {task : Task} {digits : Str}
    (read : ReadDigits server callId boxId events task digits) :
    ReadDigits server callId boxId (events ++ [event]) task digits := by
  obtain ⟨call, mailbox, member, entered⟩ := read
  exact ⟨call, mailbox, List.mem_append_left _ member, entered⟩

variable (server callId boxId) in
/-- Until the PIN is verified, a call in the active map waits for the PIN of the mailbox. -/
structure Sealed (state : ServerState) (events : List server.Event) : Prop where
  calls : PinVerified server callId boxId events ∨
    ∀ call, state.voicemailActive.lookup callId = some call →
      ∃ mailbox, call.mode = .pinEntry boxId mailbox
  gate : Throughout (fun front event => OpensMailbox server callId event →
    PinVerified server callId boxId front) events

variable (server callId boxId) in
/-- What a task may assume at a control point. -/
def Assertion (events : List server.Event) (task : Task) : Point → Prop
  | .foreign => task.call? server ≠ some callId
  | .calling => task.Handles server callId .invite
  | .located settings | .allocated settings =>
    settings.id = boxId ∧ settings.pinHash.any (· ≠ []) = true
  | .info signal => task.Signals server callId signal
  | .pounding => task.Signals server callId (some .pound)
  | .checking box digits => task.Signals server callId (some .pound) ∧
      ReadDigits server callId box events task digits ∧
      (PinVerified server callId boxId events ∨ box = boxId)
  | .opened | .moving | .player => PinVerified server callId boxId events
  | .plain | .hanging | .entering | .stopping => True

variable (server callId boxId) in
/-- The proof outline of an access call to a mailbox with a PIN. -/
def outline : Outline server.system (lockedAtAccess server callId boxId) Point where
  graph := Edge server callId
  start := start server callId
  Covers := Covered server callId
  Exits _ _ := True
  Global := Sealed server callId boxId
  Local _ := Assertion server callId boxId
  Apart _ _ := True

/-- Assertions are about what has happened, and stay true. -/
theorem Assertion.concat {events : List server.Event} {task : Task} {point : Point}
    (here : Assertion server callId boxId events task point) :
    Assertion server callId boxId (events ++ [event]) task point := by
  cases point with
  | checking box digits =>
    exact ⟨here.1, ReadDigits.concat here.2.1, here.2.2.imp_left PinVerified.concat⟩
  | opened => exact PinVerified.concat here
  | moving => exact PinVerified.concat here
  | player => exact PinVerified.concat here
  | _ => exact here

section Move

variable {state after : ServerState} {events : List server.Event} {task : Task}
  {point target : Point} {op : Op} {answer : op.Answer}
  (move : (outline server callId boxId).Move state events task point op answer target after)

include move

variable {call : VoicemailCall}

theorem move_verified (found : state.voicemailActive.lookup callId = some call)
    (beyond : ∀ box mailbox, call.mode ≠ .pinEntry box mailbox) :
    PinVerified server callId boxId events := by
  rcases move.global.calls with verified | calls
  · exact verified
  · obtain ⟨mailbox, waits⟩ := calls call found
    exact absurd waits (beyond boxId mailbox)

/-- A call that is found leads to its messages only when the PIN has been verified. -/
theorem move_find {signal : Voicemail.Dtmf} (signals : task.Signals server callId (some signal))
    (found : state.voicemailActive.lookup callId = some call) :
    Assertion server callId boxId events task (menu call.mode signal) := by
  have verified := move_verified move found
  cases mode : call.mode with
  | recording box mailbox => cases signal <;> exact trivial
  | pinEntry box mailbox =>
    cases signal with
    | pound => exact signals
    | _ => exact trivial
  | playback mailbox box messages index =>
    rw [mode] at verified
    by_cases moves : Voicemail.moves (.playback mailbox box messages index) signal = true
    · rw [menu_of_moves moves]
      exact verified nofun
    · rw [menu_of_stays (Bool.eq_false_iff.mpr moves)]
      exact verified nofun

/-- The acting task reaches the assertion of its next point. -/
theorem move_assertion :
    Assertion server callId boxId (events ++ [⟨task, op, answer⟩]) task target := by
  have here : Assertion server callId boxId events task point := move.here
  have edge : Edge server callId point op answer target := move.edge
  have performed : op.Perform state answer after := move.performed
  cases edge with
  | loop quiet inside gated => exact Assertion.concat here
  | locate => exact move.allowed _ _ _ _ rfl here
  | allocate => exact here
  | occupied => exact trivial
  | guard locked => exact trivial
  | list unlocked => cases unlocked.symm.trans here.2
  | present => exact PinVerified.concat here
  | find =>
    obtain ⟨found, -⟩ := Op.perform_voicemailGet_iff.mp performed
    exact Assertion.concat (move_find move here found.symm)
  | type typed => exact trivial
  | lose => exact trivial
  | @read box mailbox call waiting =>
    obtain ⟨found, -⟩ := Op.perform_voicemailGet_iff.mp performed
    refine ⟨here, ⟨call, mailbox, by simp, waiting, rfl⟩, ?_⟩
    refine move.global.calls.imp PinVerified.concat fun calls => ?_
    obtain ⟨_, waits⟩ := calls call found.symm
    exact (VoicemailMode.pinEntry.inj (waiting.symm.trans waits)).1
  | pass beyond =>
    obtain ⟨found, -⟩ := Op.perform_voicemailGet_iff.mp performed
    exact PinVerified.concat (move_verified move found.symm beyond)
  | @verify box digits hash verified =>
    obtain ⟨signals, read, done | rfl⟩ := here
    · exact PinVerified.concat done
    · exact ⟨events, [], task, digits, hash, rfl, signals, read, verified⟩
  | refuse => exact trivial

/-- A step that opens the messages is made where the PIN has been verified. -/
theorem move_opens (opens : OpensMailbox server callId ⟨task, op, answer⟩) :
    PinVerified server callId boxId events := by
  have here : Assertion server callId boxId events task point := move.here
  have edge : Edge server callId point op answer target := move.edge
  have open_here : point = .opened ∨ point = .moving → PinVerified server callId boxId events := by
    rintro (rfl | rfl)
    · exact here
    · exact here
  have untouched : ∀ {statement : Query}, point.touches = true ∨
      (∀ asked ∈ (Op.ask (.query statement)).statement?, asked.topic ∉ guardedTopics) →
      statement.topic ∈ guardedTopics → task.call? server = some callId →
      PinVerified server callId boxId events := by
    rintro statement (touches | free) guarded own
    · cases point with
      | foreign => exact absurd own here
      | opened => exact here
      | moving => exact here
      | _ => cases touches
    · exact absurd guarded (free statement rfl)
  cases opens with
  | starts =>
    cases edge with
    | loop quiet inside gated => exact open_here (spawnOther_mem_loops (quiet rfl))
  | plays =>
    obtain rfl := edge_registryGet edge
    exact here
  | unlocks =>
    cases edge with
    | loop quiet inside gated => exact open_here (voicemailUpdate_mem_loops (quiet rfl))
    | type typed => exact absurd typed (by simp)
  | enters mode =>
    cases edge with
    | loop quiet inside gated => exact absurd (quiet rfl) (not_mem_loops point _ (by simp))
    | guard locked => cases mode
    | present => exact here
    | type typed => exact absurd typed (by simp)
  | lists own =>
    cases edge with
    | loop quiet inside gated => exact untouched gated (by simp) own
    | list unlocked => cases unlocked.symm.trans here.2
  | marks own =>
    cases edge with
    | loop quiet inside gated => exact untouched gated (by simp) own

/-- Until the PIN is verified, a call in the active map waits for it. -/
theorem move_calls : PinVerified server callId boxId (events ++ [⟨task, op, answer⟩]) ∨
    ∀ call, after.voicemailActive.lookup callId = some call →
      ∃ mailbox, call.mode = .pinEntry boxId mailbox := by
  have here : Assertion server callId boxId events task point := move.here
  rcases move.global.calls with verified | calls
  · exact .inl (PinVerified.concat verified)
  by_cases verified : PinVerified server callId boxId events
  · exact .inl (PinVerified.concat verified)
  refine .inr fun call found => ?_
  obtain ⟨before, there, same⟩ | ⟨settings, mailbox, rfl, waits⟩ | ⟨rfl | rfl, -⟩ :=
    voicemailCall_of_edge move.edge move.performed found
  · exact same ▸ calls before there
  · exact ⟨mailbox, here.1 ▸ waits⟩
  · exact absurd here verified
  · exact absurd here verified

theorem move_sealed : Sealed server callId boxId after (events ++ [⟨task, op, answer⟩]) :=
  ⟨move_calls move, throughout_concat_iff.mpr ⟨move.global.gate, move_opens move⟩⟩

end Move

/-- A task begins at a point whose assertion holds; audio begins when the PIN is verified. -/
theorem assertion_starts {events : List server.Event} {task : Task}
    (covered : Covered server callId task)
    (audio : start server callId task = .player → PinVerified server callId boxId events) :
    Assertion server callId boxId events task (start server callId task) := by
  have begins := starts covered
  generalize start server callId task = point at begins audio
  cases begins with
  | foreign other => exact other
  | plain => exact trivial
  | hanging hangs => exact trivial
  | player same => exact audio rfl
  | calling handles => exact handles
  | info signals => exact signals

variable (server callId boxId) in
theorem valid : (outline server callId boxId).Valid where
  follows _ covered := body_follows covered
  apart_symm _ := trivial
  arrives admitted _ := ⟨.inl admitted, assertion_starts (.inl admitted)
    fun player => absurd player (start_ne_player admitted)⟩
  arrives_apart _ _ _ := trivial
  acts move := ⟨move_sealed move, move_assertion move⟩
  frames _ there _ := Assertion.concat there
  separates _ _ _ := trivial
  spawns move spawned := by
    obtain ⟨covered, place⟩ := covered_spawned move.edge spawned
    refine ⟨covered, assertion_starts covered fun player => PinVerified.concat ?_⟩
    have here := move.here
    obtain foreign | ⟨-, -, rfl | rfl⟩ := place
    · exact nomatch foreign.symm.trans player
    · exact here
    · exact here
  spawns_apart _ _ _ := trivial

end PinGate

open PinGate in
/-- In every run of an access call that finds its mailbox with a PIN, every step that opens the
messages comes after `#` with digits that a PIN hash of the mailbox verifies. -/
theorem mailbox_opened_after_pin {server : Server} {callId : CallId} {boxId : Nat}
    {before : ServerState} (fresh : before.voicemailActive.lookup callId = none)
    {config : server.Config}
    (run : Steps (lockedAtAccess server callId boxId) ⟨before, [], []⟩ config) :
    ∀ front event back, config.events = front ++ event :: back →
      OpensMailbox server callId event → PinVerified server callId boxId front := by
  have sealed : Sealed server callId boxId before ([] : List server.Event) :=
    ⟨.inr fun call found => (nomatch found.symm.trans fresh), throughout_nil⟩
  have holds : (outline server callId boxId).Holds ⟨before, [], ([] : List Task).map launch⟩ :=
    (valid server callId boxId).holds_launch sealed nofun nofun .nil
  exact ((valid server callId boxId).holds_of_steps holds run).global.gate

open Scenario

/-- A box that the scenario finds is the first one and has a PIN. -/
def Scenario.findsLocked : mailServer.Event → Bool
  | ⟨_, .ask (.query (.voicemailBox _ _)), .ok (some settings)⟩ =>
    settings.id = 1 && settings.pinHash.any (· ≠ [])
  | _ => true

/-- Whether a step looks up the media of the scenario's call. -/
def Scenario.looksUpMedia : Op → Bool
  | .voicemailMedia (.get call) => call = callId
  | _ => false

/-- The caller enters the PIN 0 and hears the greeting. -/
theorem mailbox_opened_after_zero :
    ∃ config : mailServer.Config,
      Steps (lockedAtAccess mailServer callId 1) mailStart config ∧
      ∃ front event back, config.events = front ++ event :: back ∧
        OpensMailbox mailServer callId event ∧
        PinVerified mailServer callId 1 front := by
  let permit : Permit mailServer.system := fun _ _ event => findsLocked event
  let pin := some "0".toList
  have computed : ((mailStart.playUnder permit
      [.arrive accessInvite, mailSteps 0 pin, .arrive (keyPress '0'),
        mailSteps 1 pin, .arrive (keyPress '#'), mailSteps 2 pin,
        mailSteps 3 pin]).any fun config => config.events.any fun event =>
      looksUpMedia event.op) = true := by decide +kernel
  obtain ⟨config, played, looks⟩ := (Option.any_eq_true _ _).mp computed
  have admitted : [accessInvite, keyPress '0', keyPress '#'].all
      (admits mailServer callId) = true := by decide +kernel
  have run : Steps (lockedAtAccess mailServer callId 1) mailStart
      config := by
    refine Config.playUnder_steps ?_ ?_ played
    · rintro state events event permitted task username domain settings rfl -
      obtain ⟨same, locked⟩ := Bool.and_eq_true_iff.mp permitted
      exact ⟨of_decide_eq_true same, locked⟩
    · intro task member
      refine admitted_of_admits _ _ (List.all_eq_true.mp admitted task ?_)
      simpa [mailSteps] using member
  obtain ⟨⟨task, op, answer⟩, member, found⟩ := List.any_eq_true.mp looks
  have opens : OpensMailbox mailServer callId ⟨task, op, answer⟩ := by
    simp only [looksUpMedia] at found
    split at found
    · next call =>
        obtain rfl := of_decide_eq_true found
        exact .plays
    · cases found
  obtain ⟨front, back, split⟩ := List.append_of_mem member
  exact ⟨config, run, front, _, back, split, opens,
    mailbox_opened_after_pin rfl run front _ back split opens⟩

end Sip3
