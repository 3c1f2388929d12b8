import Sip3.Server.Execution
import Mathlib.Tactic.IntervalCases

/-!
# Entering a PIN

A voicemail call that waits for a PIN gets one INFO request for each key. The keys
1, 2, 7 and 9 are read as commands of the menu before the mode of the call is looked
at, and PIN entry drops them, so exactly a PIN without them is checked as it was
entered. `#` checks the digits, and clears them only when a hash was there to check
against.
-/

namespace Sip3

open Text Semantics System Voicemail Program Scenario List Handler Option

section Entering

variable {server : Server} {callId : CallId} {state : ServerState} {call : VoicemailCall}
  {key : Char} {input : Str × SocketAddr} {occurrences front back : List (Occurrence signature)}

/-- The input is an INFO request of the call with this key in its body. -/
def Presses (server : Server) (callId : CallId) (key : Char) (input : Str × SocketAddr) : Prop :=
  ∃ msg, SipMessage.parse server.platform input.1 = .ok msg ∧ msg.method = some "INFO".toList ∧
    msg.callKey = callId ∧ msg.body = "Signal=".toList ++ [key]

/-- The PIN hashes that were asked for, with the mailbox and the answer. -/
def pinChecks (occurrences : List (Occurrence signature)) :
    List (Nat × Fallible (Option Str)) :=
  occurrences.filterMap fun occurrence =>
    match occurrence with
    | ⟨.ask (.query (.boxPinHash boxId)), answer⟩ => some (boxId, answer)
    | _ => none

@[simp] theorem pinChecks_append :
    pinChecks (front ++ back) = pinChecks front ++ pinChecks back :=
  filterMap_append

/-- An INFO request of a call that voicemail owns is a signal for its menu. -/
theorem ensures_press {signal : Voicemail.Dtmf}
    (post : List (Nat × Fallible (Option Str)) → ServerState → Prop) (present : callId ≠ [])
    (found : state.voicemailActive.lookup callId = some call)
    (pressed : Presses server callId key input)
    (signals : parseDtmfRelay ("Signal=".toList ++ [key]) = some signal)
    (menu : server.system.Ensures state (menuSignal server callId call.mode signal)
      fun occurrences final _ => post (pinChecks occurrences) final) :
    server.system.Ensures state (handleText server input.1 input.2)
      fun occurrences final _ => post (pinChecks occurrences) final := by
  obtain ⟨msg, parsed, requested, rfl, body⟩ := pressed
  have method : Handler.Method.ofText "INFO".toList = .info := by decide
  simp only [handleText, parsed, processMsg, requested, method,
    processRequest, if_neg present, request_bind, done_bind,
    ensures_request]
  rintro owner _ performed
  obtain ⟨rfl, rfl⟩ := Op.perform_voicemailGet_iff.mp performed
  simp only [found, isSome_some, routeRequest,
    routeVoicemail, finish, handleInfo, body, signals, reduceCtorEq,
    false_and, if_false, if_true, request_bind, done_bind, ensures_request]
  rintro again _ performed
  obtain ⟨rfl, rfl⟩ := Op.perform_voicemailGet_iff.mp performed
  simp only [found, ensures_bind]
  refine menu.mono fun occurrences final _ holds => ?_
  simp only [ensures_pure, finalizeResponse, ensures_request]
  rintro _ _ rfl
  simpa [pinChecks] using holds

/-- No PIN was checked, and the call is as given. -/
def Unchecked (callId : CallId) (call : VoicemailCall) (checks : List (Nat × Fallible (Option Str)))
    (final : ServerState) : Prop :=
  checks = [] ∧ final.voicemailActive.lookup callId = some call

/-- The digits that PIN entry takes. -/
abbrev pinDigits : List Char := ['0', '3', '4', '5', '6', '8']

theorem parseDtmfRelay_pinDigit (taken : key ∈ pinDigits) :
    parseDtmfRelay ("Signal=".toList ++ [key]) = some (.digit key) := by
  simp only [mem_cons, not_mem_nil, or_false] at taken
  obtain rfl | rfl | rfl | rfl | rfl | rfl := taken <;> decide +kernel

/-- The digits that are keys of the menu. -/
abbrev menuDigits : List Char := ['1', '2', '7', '9']

theorem mem_pinDigits (digit : key.isDigit = true) (free : key ∉ menuDigits) : key ∈ pinDigits := by
  have bounds : 48 ≤ key.toNat ∧ key.toNat ≤ 57 := by
    simp only [Char.isDigit, Bool.and_eq_true, decide_eq_true_eq] at digit
    exact digit
  have same : key = Char.ofNat key.toNat := (Char.ofNat_toNat key).symm
  obtain ⟨lower, upper⟩ := bounds
  generalize key.toNat = code at *
  subst same
  interval_cases code <;> first | decide | exact absurd (by decide) free

section Keys

variable {boxId : Nat} {mailbox : Str} (present : callId ≠ [])
  (found : state.voicemailActive.lookup callId = some call)
  (entering : call.mode = .pinEntry boxId mailbox)

include present found entering

/-- A key that only changes the entry of the call, so that nothing is checked. -/
theorem ensures_press_update {signal : Dtmf} {op : VoicemailCallOp}
    {change : VoicemailCall → VoicemailCall} (pressed : Presses server callId key input)
    (signals : parseDtmfRelay ("Signal=".toList ++ [key]) = some signal)
    (updates : pinSignal server callId signal =
      Action.updateVoicemailCall op >>= fun _ => (pure () : Action Unit))
    (changes : ∀ table, op.next table = modifyEntry table callId change) :
    server.system.Ensures state (handleText server input.1 input.2)
      fun occurrences final _ =>
        Unchecked callId (change call) (pinChecks occurrences) final := by
  refine ensures_press (Unchecked callId _) present found pressed signals ?_
  simp only [entering, menuSignal, updates, request_bind, done_bind, ensures_request, ensures_pure]
  rintro _ _ performed
  obtain ⟨-, -, rfl⟩ := Op.perform_voicemailActive_iff.mp performed
  refine ⟨rfl, ?_⟩
  rw [changes, lookup_modifyEntry, found, map_some]

/-- A digit that PIN entry takes is added to the buffer, and nothing is checked. -/
theorem ensures_press_digit (taken : key ∈ pinDigits)
    (pressed : Presses server callId key input) :
    server.system.Ensures state (handleText server input.1 input.2)
      fun occurrences final _ => Unchecked callId
        { call with pinBuffer := call.pinBuffer ++ [key] } (pinChecks occurrences) final :=
  ensures_press_update present found entering pressed (parseDtmfRelay_pinDigit taken) rfl
    fun _ => rfl

/-- A digit that is a key of the menu is dropped. -/
theorem ensures_press_menuDigit (menu : key ∈ menuDigits)
    (pressed : Presses server callId key input) :
    server.system.Ensures state (handleText server input.1 input.2)
      fun occurrences final _ => Unchecked callId call (pinChecks occurrences) final := by
  have signals : ∃ signal ∈ [Dtmf.one, .two, .seven, .nine],
      parseDtmfRelay ("Signal=".toList ++ [key]) = some signal := by
    simp only [mem_cons, not_mem_nil, or_false] at menu
    obtain rfl | rfl | rfl | rfl := menu <;> decide +kernel
  obtain ⟨signal, listed, signals⟩ := signals
  refine ensures_press (Unchecked callId call) present found pressed signals ?_
  simp only [mem_cons, not_mem_nil, or_false] at listed
  obtain rfl | rfl | rfl | rfl := listed <;>
    exact entering ▸ ensures_pure.mpr ⟨rfl, found⟩

/-- Digits are collected in the order they are pressed, but for the keys of the menu. -/
theorem ensures_receive_digits {digits : Str} {inputs : List (Str × SocketAddr)}
    (decimal : ∀ digit ∈ digits, digit.isDigit = true)
    (pressed : List.Forall₂ (Presses server callId) digits inputs) :
    server.system.Ensures state (server.receive inputs) fun occurrences final _ =>
      Unchecked callId { call with pinBuffer := call.pinBuffer ++ digits.filter (· ∉ menuDigits) }
        (pinChecks occurrences) final := by
  induction pressed generalizing state call with
  | nil =>
    refine ensures_pure.mpr ⟨rfl, ?_⟩
    rw [found, filter_nil, append_nil]
  | @cons digit input digits inputs first rest ih =>
    obtain ⟨raw, src⟩ := input
    have others : ∀ other ∈ digits, other.isDigit = true :=
      fun other member => decimal other (.tail _ member)
    rw [Server.receive, ensures_bind]
    by_cases menu : digit ∈ menuDigits
    · refine (ensures_press_menuDigit present found entering menu first).mono ?_
      rintro front middle _ ⟨unchecked, kept⟩
      refine (ih kept entering others).mono ?_
      rintro back final _ ⟨none, collected⟩
      refine ⟨by rw [pinChecks_append, unchecked, none, append_nil], ?_⟩
      rwa [filter_cons_of_neg (by simp only [menu]; decide)]
    · refine (ensures_press_digit present found entering
        (mem_pinDigits (decimal digit (.head _)) menu) first).mono ?_
      rintro front middle _ ⟨unchecked, added⟩
      refine (ih added entering others).mono ?_
      rintro back final _ ⟨none, collected⟩
      refine ⟨by rw [pinChecks_append, unchecked, none, append_nil], ?_⟩
      rw [filter_cons_of_pos (by simpa using menu)]
      simpa using collected

theorem ensures_press_star (pressed : Presses server callId '*' input) :
    server.system.Ensures state (handleText server input.1 input.2)
      fun occurrences final _ =>
        Unchecked callId { call with pinBuffer := [] } (pinChecks occurrences) final := by
  have signals : parseDtmfRelay ("Signal=".toList ++ ['*']) = some .star := by
    decide +kernel
  exact ensures_press_update present found entering pressed signals rfl fun _ => rfl

end Keys

/-- Digits that verify against the hash of the mailbox unlock the call; after others it waits
with an empty buffer. -/
def PinOutcome (server : Server) (callId : CallId) (call : VoicemailCall) (boxId : Nat)
    (mailbox digits hash : Str) (final : ServerState) : Prop :=
  if server.platform.bcryptVerify digits hash = some true then
    ∃ messages, final.voicemailActive.lookup callId =
      some { call with mode := .playback mailbox boxId messages 0, pinBuffer := [] }
  else final.voicemailActive.lookup callId = some { call with pinBuffer := [] }

/-- One PIN hash was asked for, that of the mailbox, and if there is one the digits were
checked against it. -/
def PinChecked (server : Server) (callId : CallId) (call : VoicemailCall) (boxId : Nat)
    (mailbox digits : Str) (checks : List (Nat × Fallible (Option Str))) (final : ServerState) :
    Prop :=
  ∃ answer, checks = [(boxId, answer)] ∧ ∀ hash, answer = .ok (some hash) →
    PinOutcome server callId call boxId mailbox digits hash final

theorem PinOutcome.checked {server : Server} {boxId : Nat} {mailbox digits hash : Str}
    {checks : List (Nat × Fallible (Option Str))} {final : ServerState}
    (outcome : PinOutcome server callId call boxId mailbox digits hash final)
    (once : checks = [(boxId, .ok (some hash))]) :
    PinChecked server callId call boxId mailbox digits checks final := by
  refine ⟨.ok (some hash), once, ?_⟩
  rintro _ ⟨⟩
  exact outcome

/-- Listing the messages of a mailbox checks nothing. -/
theorem ensures_listMessages (boxId : Nat) :
    server.system.Ensures state (listMessagesForMailbox boxId)
      fun occurrences final _ => final = state ∧ pinChecks occurrences = [] := by
  simp only [listMessagesForMailbox, request_bind, done_bind,
    ensures_request]
  rintro rows _ rfl
  cases rows with
  | error error => exact ensures_pure.mpr ⟨rfl, rfl⟩
  | ok messages => exact ensures_pure.mpr ⟨rfl, rfl⟩

theorem pinChecks_around {first second : Occurrence signature} (unchecked : pinChecks front = []) :
    pinChecks (first :: second :: (front ++ back)) = pinChecks [first, second] ++ pinChecks back := by
  calc pinChecks (first :: second :: (front ++ back))
      = pinChecks ([first, second] ++ (front ++ back)) := rfl
    _ = pinChecks [first, second] ++ pinChecks back := by
        rw [pinChecks_append, pinChecks_append, unchecked, nil_append]

theorem ensures_press_pound (present : callId ≠ [])
    (found : state.voicemailActive.lookup callId = some call) {boxId : Nat} {mailbox : Str}
    (entering : call.mode = .pinEntry boxId mailbox) (pressed : Presses server callId '#' input) :
    server.system.Ensures state (handleText server input.1 input.2)
      fun occurrences final _ => PinChecked server callId call boxId mailbox call.pinBuffer
        (pinChecks occurrences) final := by
  have signals : parseDtmfRelay ("Signal=".toList ++ ['#']) = some .pound := by
    decide +kernel
  obtain ⟨mode, caller, callee, buffer⟩ := call
  obtain rfl : mode = .pinEntry boxId mailbox := entering
  refine ensures_press (PinChecked server callId _ boxId mailbox buffer) present found pressed
    signals ?_
  simp only [menuSignal, pinSignal, verifyPin,
    request_bind, done_bind, ensures_request]
  rintro _ _ performed
  obtain ⟨rfl, rfl⟩ := Op.perform_voicemailGet_iff.mp performed
  simp only [found, pinTarget, ensures_request]
  rintro answer _ rfl
  rcases answer with error | _ | hash
  · exact ensures_pure.mpr ⟨.error error, rfl, by simp⟩
  · exact ensures_pure.mpr ⟨.ok none, rfl, by simp⟩
  · by_cases verified : server.platform.bcryptVerify buffer hash = some true
    · simp only [verified, getD_some, if_true]
      rw [ensures_bind]
      refine (ensures_listMessages boxId).mono ?_
      rintro asked reached messages ⟨rfl, unasked⟩
      simp only [ensures_request]
      rintro _ opened performed greeting _ rfl
      obtain ⟨-, -, rfl⟩ := Op.perform_voicemailActive_iff.mp performed
      have unlocked : (VoicemailCallOp.next reached.voicemailActive
          (.unlock callId mailbox boxId messages)).lookup callId =
          some ⟨.playback mailbox boxId messages 0, caller, callee, []⟩ := by
        rw [VoicemailCallOp.next, lookup_modifyEntry, found, map_some]
      split
      · simp only [ensures_request, ensures_pure]
        rintro _ _ ⟨-, rfl⟩
        refine PinOutcome.checked ?_ (pinChecks_around unasked)
        rw [PinOutcome, if_pos verified]
        exact ⟨messages, unlocked⟩
      · refine ensures_pure.mpr (PinOutcome.checked ?_ (pinChecks_around unasked))
        rw [PinOutcome, if_pos verified]
        exact ⟨messages, unlocked⟩
    · have rejected : (server.platform.bcryptVerify buffer hash).getD false = false := by
        cases outcome : server.platform.bcryptVerify buffer hash with
        | none => rfl
        | some accepted =>
          rw [outcome, some.injEq, Bool.not_eq_true] at verified
          exact verified
      simp only [rejected, Bool.false_eq_true, if_false, ensures_request, ensures_pure]
      rintro _ _ performed
      obtain ⟨-, -, rfl⟩ := Op.perform_voicemailActive_iff.mp performed
      refine PinOutcome.checked ?_ rfl
      rw [PinOutcome, if_neg verified, VoicemailCallOp.next, lookup_modifyEntry, found,
        map_some]

/-- The digits are those the call has collected, there is a hash for its mailbox, and the digits
were checked against it. -/
def ChecksExactly (server : Server) (callId : CallId) (call : VoicemailCall) (boxId : Nat)
    (mailbox digits : Str) (before : ServerState) (checks : List (Nat × Fallible (Option Str)))
    (final : ServerState) : Prop :=
  before.voicemailActive.lookup callId = some { call with pinBuffer := digits } ∧
    ∃ hash, checks = [(boxId, .ok (some hash))] ∧
      PinOutcome server callId call boxId mailbox digits hash final

/-- A PIN is checked as it was entered exactly when it has no menu digit and the mailbox has a hash
that can be read. `*` instead of `#` always leaves the call as it was before. -/
theorem pin_checked_as_entered_iff {boxId : Nat} {mailbox pin : Str}
    {inputs : List (Str × SocketAddr)} {middle : ServerState} (present : callId ≠ [])
    (found : state.voicemailActive.lookup callId = some call)
    (entering : call.mode = .pinEntry boxId mailbox) (empty : call.pinBuffer = [])
    (digits : ∀ digit ∈ pin, digit.isDigit = true)
    (pressed : List.Forall₂ (Presses server callId) pin inputs)
    (entered : server.system.Exec state (server.receive inputs) occurrences middle ()) :
    pinChecks occurrences = [] ∧
      (∀ pound later final, Presses server callId '#' pound →
        server.system.Exec middle (server.receive [pound]) later final () →
        (ChecksExactly server callId call boxId mailbox pin middle (pinChecks later) final ↔
          (∀ digit ∈ pin, digit ∉ menuDigits) ∧
            ∃ hash, (boxId, .ok (some hash)) ∈ pinChecks later)) ∧
      ∀ star later final, Presses server callId '*' star →
        server.system.Exec middle (server.receive [star]) later final () →
        final.voicemailActive.lookup callId = some call := by
  obtain ⟨unchecked, collected⟩ :=
    ensures_receive_digits present found entering digits pressed _ _ _ entered
  rw [empty, nil_append] at collected
  have once : ∀ {input later final}, server.system.Exec middle (server.receive [input]) later
      final () → server.system.Exec middle (handleText server input.1 input.2) later final
        () := by
    intro input later final execution
    obtain ⟨_, _, front, back, rfl, handled, ended⟩ := exec_bind_iff.mp execution
    obtain ⟨rfl, rfl, -⟩ := exec_done_iff.mp ended
    rwa [append_nil]
  refine ⟨unchecked, ?_, ?_⟩
  · intro pound later final pressed execution
    obtain ⟨answer, asked, outcome⟩ :=
      ensures_press_pound present collected entering pressed _ _ _ (once execution)
    constructor
    · rintro ⟨buffered, hash, checks, -⟩
      have whole : pin.filter (· ∉ menuDigits) = pin :=
        congrArg VoicemailCall.pinBuffer (some.inj (collected.symm.trans buffered))
      refine ⟨fun digit member => ?_, hash, checks ▸ .head _⟩
      simpa using filter_eq_self.mp whole digit member
    · rintro ⟨free, hash, member⟩
      rw [asked, mem_singleton, Prod.mk.injEq] at member
      rw [filter_eq_self.mpr fun digit member => by simpa using free digit member]
        at collected outcome
      exact ⟨collected, hash, member.2 ▸ asked, outcome hash member.2.symm⟩
  · intro star later final pressed execution
    rw [(ensures_press_star present collected entering pressed _ _ _ (once execution)).2, ← empty]

end Entering

namespace Scenario

/-- A server whose PIN hashes are the PINs. -/
def pinServer : Server :=
  { server with platform := { server.platform with
      bcryptVerify := fun pin hash => some (decide (pin = hash)) } }

/-- A world in which every mailbox has this PIN. -/
def protectedBy (pin : Str) : Outside
  | .query (.boxPinHash _) => .ok (some pin)
  | request => outside none request

/-- A call that waits for the PIN of the mailbox. -/
def waiting : VoicemailCall := ⟨.pinEntry 1 "b".toList, "b".toList, "b".toList, []⟩

/-- The call is the only one. -/
def locked : ServerState :=
  { ServerState.initial with voicemailActive := AList.singleton callId waiting }

/-- The INFO request for a key. -/
def keyInput (key : Char) : Str × SocketAddr :=
  (request "INFO" ++ "Signal=".toList ++ [key], caller)

/-- The test that the INFO request is one for the key. -/
def pressesKey (key : Char) : Bool :=
  match SipMessage.parse pinServer.platform (keyInput key).1 with
  | .error _ => false
  | .ok msg => decide (msg.method = some "INFO".toList ∧ msg.callKey = callId ∧
      msg.body = "Signal=".toList ++ [key])

theorem presses_of_pressesKey {key : Char} (computed : pressesKey key = true) :
    Presses pinServer callId key (keyInput key) := by
  unfold pressesKey at computed
  split at computed
  · cases computed
  · next msg parsed => exact ⟨msg, parsed, of_decide_eq_true computed⟩

/-- Two keys are pressed one after the other. -/
def twoKeys (pin : Str) (first second : Char)
    (check : List (Occurrence signature) → ServerState → Bool) : Bool :=
  (((protectedBy pin).resolver pinServer).run locked (pinServer.receive [keyInput first])).any
    fun (_, middle, _) =>
      (((protectedBy pin).resolver pinServer).run middle (pinServer.receive [keyInput second])).any
        fun (later, final, _) => check later final

theorem exists_exec_of_twoKeys {pin : Str} {first second : Char}
    {check : List (Occurrence signature) → ServerState → Bool}
    (computed : twoKeys pin first second check = true) :
    ∃ earlier middle later final,
      pinServer.system.Exec locked (pinServer.receive [keyInput first]) earlier middle () ∧
      pinServer.system.Exec middle (pinServer.receive [keyInput second]) later final () ∧
      check later final = true := by
  obtain ⟨earlier, middle, _, one, rest⟩ := Resolver.exists_exec computed
  obtain ⟨later, final, _, two, checked⟩ := Resolver.exists_exec rest
  exact ⟨earlier, middle, later, final, one, two, checked⟩

end Scenario

/-- The PIN 0 is checked when 0 and `#` are pressed. -/
theorem pin_checked_as_entered_iff_zero :
    ∃ earlier middle later final,
      pinServer.system.Exec locked
        (pinServer.receive [keyInput '0']) earlier middle () ∧
      pinServer.system.Exec middle
        (pinServer.receive [keyInput '#']) later final () ∧
      ChecksExactly pinServer callId waiting 1 "b".toList "0".toList
        middle (pinChecks later) final := by
  have computed : twoKeys "0".toList '0' '#' (fun later _ =>
      decide ((1, .ok (some "0".toList)) ∈ pinChecks later)) = true := by
    decide +kernel
  obtain ⟨earlier, middle, later, final, one, two, checked⟩ :=
    exists_exec_of_twoKeys computed
  have zero : pressesKey '0' = true := by decide +kernel
  have pound : pressesKey '#' = true := by decide +kernel
  have found : locked.voicemailActive.lookup callId = some waiting := by
    decide +kernel
  have single : ∀ {good : Char → Prop}, good '0' → ∀ digit ∈ "0".toList, good digit :=
    fun holds digit member => mem_singleton.mp member ▸ holds
  have entered := pin_checked_as_entered_iff (by decide) found rfl rfl (single (by decide))
    (.cons (presses_of_pressesKey zero) .nil) one
  exact ⟨earlier, middle, later, final, one, two,
    (entered.2.1 _ _ _ (presses_of_pressesKey pound) two).mpr
      ⟨single (by decide), _, of_decide_eq_true checked⟩⟩

/-- With the PIN 1 the keys 1 and `#` check an empty PIN: the call stays locked. -/
theorem pin_one_dropped :
    ∃ earlier middle later final,
      Presses Scenario.pinServer Scenario.callId '1' (Scenario.keyInput '1') ∧
      Presses Scenario.pinServer Scenario.callId '#' (Scenario.keyInput '#') ∧
      Scenario.pinServer.system.Exec Scenario.locked
        (Scenario.pinServer.receive [Scenario.keyInput '1']) earlier middle () ∧
      Scenario.pinServer.system.Exec middle
        (Scenario.pinServer.receive [Scenario.keyInput '#']) later final () ∧
      pinChecks later = [(1, .ok (some "1".toList))] ∧
      Scenario.pinServer.platform.bcryptVerify "1".toList "1".toList = some true ∧
      final.voicemailActive.lookup Scenario.callId = some Scenario.waiting := by
  have computed : Scenario.twoKeys "1".toList '1' '#' (fun later final =>
      decide (pinChecks later = [(1, .ok (some "1".toList))]) &&
        decide (final.voicemailActive.lookup Scenario.callId = some Scenario.waiting)) = true := by
    decide +kernel
  obtain ⟨earlier, middle, later, final, one, two, checked⟩ :=
    Scenario.exists_exec_of_twoKeys computed
  obtain ⟨asked, unchanged⟩ := Bool.and_eq_true_iff.mp checked
  have first : Scenario.pressesKey '1' = true := by decide +kernel
  have second : Scenario.pressesKey '#' = true := by decide +kernel
  exact ⟨earlier, middle, later, final, Scenario.presses_of_pressesKey first,
    Scenario.presses_of_pressesKey second, one, two, of_decide_eq_true asked, rfl,
    of_decide_eq_true unchanged⟩

end Sip3
