import Sip3.Server.Voicemail

/-!
# The voicemail menu

`Voicemail::handle_info`: DTMF signals in INFO requests of a voicemail call. They
stop a recording, move through the messages of a mailbox, delete or save the
current one, and enter the PIN. The digits 1, 2, 7 and 9 are menu keys, and PIN
entry takes only the others.
-/

namespace Sip3.Voicemail

open Text Semantics Sip3.Action

variable (server : Server)

/-- `VoicemailDtmf`. -/
inductive Dtmf where
  | one
  | two
  | seven
  | nine
  | pound
  | star
  | digit (char : Char)
  deriving DecidableEq

/-- The signal a value stands for. -/
def dtmfOf (value : Str) : Option Dtmf :=
  match value with
  | ['1'] => some .one
  | ['2'] => some .two
  | ['7'] => some .seven
  | ['9'] => some .nine
  | ['#'] => some .pound
  | ['*'] => some .star
  | [char] => if char.isDigit then some (.digit char) else none
  | _ => none

/-- `parse_dtmf_relay`. -/
def parseDtmfRelay (body : Str) : Option Dtmf :=
  (Str.lines body).findSome? fun line =>
    match Str.splitOnce '=' line with
    | some (name, value) =>
      if Str.eqIgnoreAsciiCase (Str.trim name) "Signal".toList then dtmfOf (Str.trim value)
      else none
    | none => none

/-- The mailbox and the message at an index of a call that is in playback. -/
def messageAt (call : Option VoicemailCall) (index : Nat) : Option (Str × VoicemailMessage) :=
  match call with
  | some ⟨.playback mailbox _ messages _, _, _, _⟩ =>
    (messages[index]?).map fun message => (mailbox, message)
  | _ => none

/-- `play_message_at_index`. -/
def playMessageAtIndex (callId : CallId) (index : Nat) : Action Unit := do
  match messageAt (← getVoicemailCall callId) index with
  | none => return ()
  | some (_, message) =>
    let _ ← removeVoicemailMedia callId
    let _ ← spawn (.playWav callId message.storageKey)
    return ()

/-- `delete_message_at_index`. -/
def deleteMessageAtIndex (callId : CallId) (index : Nat) : Action Unit := do
  match messageAt (← getVoicemailCall callId) index with
  | none => return ()
  | some (mailbox, message) =>
    match ← query (.setMessageStatus message.id "deleted".toList) with
    | .error _ => return ()
    | .ok _ =>
      let _ ← updateVoicemailCall (.removeMessage callId index)
      let _ ← Mwi.notifyMailbox server mailbox server.cfg.sipDomain
      return ()

/-- `save_message_at_index`. -/
def saveMessageAtIndex (callId : CallId) (index : Nat) : Action Unit := do
  match messageAt (← getVoicemailCall callId) index with
  | none => return ()
  | some (mailbox, message) =>
    match ← query (.setMessageStatus message.id "saved".toList) with
    | .error _ => return ()
    | .ok _ =>
      let _ ← updateVoicemailCall (.markSaved callId index)
      let _ ← Mwi.notifyMailbox server mailbox server.cfg.sipDomain
      return ()

/-- Move to a message and play it. -/
def moveTo (callId : CallId) (index : Nat) : Action Unit := do
  let _ ← updateVoicemailCall (.setIndex callId index)
  playMessageAtIndex callId index

/-- A signal during playback. -/
def playbackSignal (callId : CallId) (messages : List VoicemailMessage) (currentIndex : Nat) :
    Dtmf → Action Unit
  | .one =>
    if messages ≠ [] ∧ currentIndex > 0 then moveTo callId (currentIndex - 1) else return ()
  | .two | .pound =>
    if messages ≠ [] ∧ currentIndex + 1 < messages.length then moveTo callId (currentIndex + 1)
    else return ()
  | .seven =>
    if messages ≠ [] then deleteMessageAtIndex server callId currentIndex else return ()
  | .nine =>
    if messages ≠ [] then saveMessageAtIndex server callId currentIndex else return ()
  | .star | .digit _ => return ()

/-- The mailbox a PIN is entered for; a call in another mode gives the defaults. -/
def pinTarget : VoicemailMode → Nat × Str
  | .pinEntry boxId mailbox => (boxId, mailbox)
  | _ => (0, [])

/-- `#` during PIN entry: check the PIN and open the mailbox. -/
def verifyPin (callId : CallId) : Action Unit := do
  match ← getVoicemailCall callId with
  | none => return ()
  | some call =>
    let (boxId, mailbox) := pinTarget call.mode
    match ← query (.boxPinHash boxId) with
    | .ok (some expectedHash) =>
      if (server.platform.bcryptVerify call.pinBuffer expectedHash).getD false then
        let messages ← listMessagesForMailbox boxId
        let _ ← updateVoicemailCall (.unlock callId mailbox boxId messages)
        match ← query (.boxGreeting boxId) with
        | .ok (some key) =>
          let _ ← spawn (.playWav callId key)
          return ()
        | _ => return ()
      else
        let _ ← updateVoicemailCall (.clearPin callId)
        return ()
    | _ => return ()

/-- A signal during PIN entry. -/
def pinSignal (callId : CallId) : Dtmf → Action Unit
  | .pound => verifyPin server callId
  | .star => do
      let _ ← updateVoicemailCall (.clearPin callId)
      return ()
  | .digit char => do
      let _ ← updateVoicemailCall (.pushPin callId char)
      return ()
  | .one | .two | .seven | .nine => return ()

/-- A signal during recording. -/
def recordingSignal (callId : CallId) : Dtmf → Action Unit
  | .pound => do
      let _ ← removeVoicemailMedia callId
      return ()
  | _ => return ()

/-- A signal in the mode a call was found in. -/
def menuSignal (callId : CallId) (mode : VoicemailMode) (signal : Dtmf) : Action Unit :=
  match mode with
  | .recording _ _ => recordingSignal callId signal
  | .playback _ _ messages currentIndex =>
    playbackSignal server callId messages currentIndex signal
  | .pinEntry _ _ => pinSignal server callId signal

/-- `Voicemail::handle_info`. -/
def handleInfo (msg : SipMessage) : Action (Fallible Str) := do
  match ← getVoicemailCall msg.callKey with
  | none => return .ok (plainResponse msg 481 "Call/Transaction Does Not Exist")
  | some call =>
    match parseDtmfRelay msg.body with
    | none => return .ok (plainResponse msg 200 "OK")
    | some signal =>
      menuSignal server msg.callKey call.mode signal
      return .ok (plainResponse msg 200 "OK")

end Sip3.Voicemail
