import Sip3.Server.Scenario
import Sip3.Text.Utf8Codec

/-!
# The track labels of a WebRTC session

The local tracks of a WebRTC session are named after the first eight bytes of the Call-ID. Rust
cuts a text only between two characters, and the Call-ID is whatever the sender wrote.
-/

namespace Sip3

open Text Semantics Program Sip3.Action

theorem Text.Str.slice_zero (front back : Str) :
    slice (front ++ back) 0 (byteLength front) = some front := by
  simpa only [List.nil_append, byteLength, Nat.zero_add] using slice_append [] front back

/-- A text can be cut after a number of bytes, if it has them, exactly when a character ends
there. -/
theorem Text.Str.isSome_slice_min_iff (text : Str) (count : Nat) :
    (slice text 0 (min (byteLength text) count)).isSome = true ↔
      byteLength text < count ∨ ∃ front back, text = front ++ back ∧ byteLength front = count := by
  constructor
  · intro cut
    obtain ⟨piece, cut⟩ := Option.isSome_iff_exists.mp cut
    obtain ⟨left, right, whole, before, length⟩ := slice_eq_some cut
    rcases Nat.lt_or_ge (byteLength text) count with short | long
    · exact .inl short
    · refine .inr ⟨left ++ piece, right, by simp [whole], ?_⟩
      rw [byteLength_append, before, length, Nat.min_eq_right long]
  · rintro (short | ⟨front, back, rfl, length⟩)
    · have cut := slice_zero text []
      rw [List.append_nil] at cut
      rw [Nat.min_eq_left short.le, cut]
      rfl
    · rw [byteLength_append, length, Nat.min_eq_right (Nat.le_add_right _ _), ← length,
        slice_zero]
      rfl

namespace Proxy

variable (server : Server) (msg : SipMessage) (contactUri : Str) (calleeIsStream : Bool)

/-- `handle_invite` creates a WebRTC session for the call, from either side. -/
def Bridges : Prop :=
  shouldPreserveWebRtcSdpForTarget server.platform contactUri msg.body = false ∧
    (calleeIsStream = true ∧
        shouldBridgePlainSipToWebsocketTarget server.platform contactUri msg.body = true ∨
      msg.body ≠ [] ∧ Sdp.isWebRtc server.platform msg.body = true)

instance : Decidable (Bridges server msg contactUri calleeIsStream) :=
  inferInstanceAs (Decidable (_ ∧ _))

variable {server msg contactUri calleeIsStream} {callId : CallId} {withVideo : Bool}

/-- The session is prepared without a panic exactly when the Call-ID can be cut. -/
theorem prepareWebRtcSession_uses_ne_panic_iff :
    (prepareWebRtcSession callId withVideo).Uses (· ≠ Op.panic) ↔
      (Str.slice callId 0 (min (Str.byteLength callId) 8)).isSome = true := by
  unfold prepareWebRtcSession
  cases Str.slice callId 0 (min (Str.byteLength callId) 8) with
  | none => exact iff_of_false (fun uses => (uses.2 (.ok ())).1 rfl) (by simp)
  | some piece =>
    refine iff_of_true (Uses.bind (by simp) fun connected => ?_) rfl
    split <;> simp

/-- Nothing else that `handle_invite` does for a bridge panics. -/
theorem setOfferPeers_uses_ne_panic (body : Str) :
    (setOfferPeers server callId body).Uses (· ≠ Op.panic) := by
  refine (setOfferPeers_uses server body).mono fun op keeps => ?_
  rintro rfl
  exact absurd keeps.within.2 (by decide)

theorem createWebRtcSession_uses_ne_panic (offer : Str)
    (cut : (Str.slice callId 0 (min (Str.byteLength callId) 8)).isSome = true) :
    (createWebRtcSession callId offer withVideo).Uses (· ≠ Op.panic) := by
  refine Uses.bind (prepareWebRtcSession_uses_ne_panic_iff.mpr cut) fun ports => ?_
  split
  · simp
  · refine Uses.bind (by simp) fun answer => ?_
    split <;> simp

theorem createWebRtcSessionForSipCaller_uses_ne_panic
    (cut : (Str.slice callId 0 (min (Str.byteLength callId) 8)).isSome = true) :
    (createWebRtcSessionForSipCaller server callId withVideo).Uses (· ≠ Op.panic) := by
  refine Uses.bind (prepareWebRtcSession_uses_ne_panic_iff.mpr cut) fun ports => ?_
  split
  · simp
  · refine Uses.bind (by simp) fun offer => ?_
    split <;> simp

/-- In both bridging branches of `handle_invite`, no slice of the Call-ID panics exactly when the
Call-ID is shorter than eight bytes or a character ends at the eighth one. -/
theorem setUpMedia_cuts_iff (bridges : Bridges server msg contactUri calleeIsStream) :
    (setUpMedia server msg contactUri calleeIsStream).Uses (· ≠ Op.panic) ↔
      Str.byteLength msg.callKey < 8 ∨
        ∃ front back, msg.callKey = front ++ back ∧ Str.byteLength front = 8 := by
  rw [← Str.isSome_slice_min_iff]
  obtain ⟨rewritten, branch⟩ := bridges
  dsimp only [setUpMedia]
  rw [if_neg (by simp [rewritten])]
  constructor
  · -- Both branches begin with the session.
    intro uses
    split at uses
    · exact prepareWebRtcSession_uses_ne_panic_iff.mp uses.of_bind.of_bind
    · next apart =>
      rw [if_pos (branch.resolve_left apart)] at uses
      exact prepareWebRtcSession_uses_ne_panic_iff.mp uses.of_bind.of_bind
  · intro cut
    split
    · refine Uses.bind (createWebRtcSessionForSipCaller_uses_ne_panic cut) fun offer => ?_
      split
      · simp
      · exact Uses.bind (setOfferPeers_uses_ne_panic _) fun _ => by simp
    · next apart =>
      rw [if_pos (branch.resolve_left apart)]
      refine Uses.bind (createWebRtcSession_uses_ne_panic _ cut) fun ports => ?_
      split <;> simp

end Proxy

namespace Scenario

/-- An INVITE of a browser with the given Call-ID. -/
def browserInvite (callId : Str) : Str :=
  "INVITE".toList ++ headerLines [" sip:b@t SIP/2.0", "Via: SIP/2.0/UDP a", "From: <sip:a@t>",
    "To: <sip:b@t>"] ++ "Call-ID: ".toList ++ callId ++
    headerLines ["", "CSeq: 1 INVITE", "", "a=ice-ufrag:x"]

/-- The only thread is the task of a datagram, and it panics. -/
def panics (data : List UInt8) (config : server.Config) : Bool :=
  match config.threads with
  | [⟨.datagram received _, .request .panic _⟩] => decide (received = data)
  | _ => false

end Scenario

open Scenario

/-- A call of a browser with a Call-ID of which the eighth byte ends a character is bridged
without a panic. -/
theorem setUpMedia_cuts_short : ∃ msg,
    (Task.stream (browserInvite "123456éa@host".toList) caller).message server = some msg ∧
    (Proxy.setUpMedia server msg "sip:b@b".toList false).Uses (· ≠ Op.panic) := by
  have computed : ((Task.stream (browserInvite "123456éa@host".toList) caller).message server).any
      (fun msg => decide (Proxy.Bridges server msg "sip:b@b".toList false ∧
        msg.callKey = "123456é".toList ++ "a@host".toList)) = true := by
    decide +kernel
  obtain ⟨msg, received, checked⟩ := (Option.any_eq_true _ _).mp computed
  obtain ⟨bridges, named⟩ := of_decide_eq_true checked
  exact ⟨msg, received,
    (Proxy.setUpMedia_cuts_iff bridges).mpr (.inr ⟨_, _, named, by decide +kernel⟩)⟩

/-- A Call-ID of eight characters, the last one of two bytes, arrives in a datagram. The handler
of the INVITE panics when it prepares the session. -/
theorem setUpMedia_torn : ∃ data config,
    fromUtf8Lossy data = browserInvite "1234567é".toList ∧
    System.Steps (.free server.system) start config ∧
    panics data config = true := by
  have computed : (start.play [.arrive (.datagram
      (Str.encode (browserInvite "1234567é".toList)) caller),
      steps 0 14 none]).any (panics
        (Str.encode (browserInvite "1234567é".toList))) = true := by
    decide +kernel
  obtain ⟨config, run, panics⟩ := exists_run computed
  exact ⟨_, config, fromUtf8Lossy_encode _, run, panics⟩

end Sip3
