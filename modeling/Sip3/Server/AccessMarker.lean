import Sip3.Server.Scenario
import Sip3.Server.Execution
import Sip3.Semantics.Ensures
import Sip3.Message.Reply

/-!
# The marker of a mailbox access call

`handle_access_invite` marks its Call-ID as pending, so that a second INVITE is answered
with 491, and takes the mark back where it answers. The lookup of the caller's source
leaves the handler by `?`: when that query fails, the mark stays, and later INVITEs of
the Call-ID are answered with 491 although no call is being set up.
-/

namespace Sip3

open Text Semantics System Voicemail Scenario Program ResponseBuilder

/-- The lookup of the registered sources of a caller failed. -/
def SourceLookupFails : Occurrence signature → Prop
  | ⟨.ask (.query (.registrationSources _ _)), .error _⟩ => True
  | _ => False

/-- The handler marks the call as pending. -/
def Marks (callId : CallId) (occurrences : List (Occurrence signature)) : Prop :=
  ⟨.accessPending (.track callId), true⟩ ∈ occurrences

section Marker

variable {server : Server} {callId : CallId} {state : ServerState} {α : Type}

theorem discardAccessAnd_unmarks (result : α) :
    server.system.EnsuresUnless SourceLookupFails state (discardAccessAnd callId result)
      fun final _ => callId ∉ final.accessPending := by
  refine ensuresUnless_request ?_
  rintro _ _ ⟨-, rfl⟩
  exact .inr (ensuresUnless_done (Finset.notMem_erase callId _))

theorem spawn_unmarks {task : Task} {result : α} (unmarked : callId ∉ state.accessPending) :
    server.system.EnsuresUnless SourceLookupFails state
      (do
        let _ ← Action.spawn task
        return result : Action α)
      fun final _ => callId ∉ final.accessPending := by
  refine ensuresUnless_request ?_
  rintro _ _ ⟨-, rfl⟩
  exact .inr (ensuresUnless_done unmarked)

variable (msg : SipMessage) (src : SocketAddr)

theorem openAccess_unmarks (caller : Str) (settings : MailboxSettings) :
    server.system.EnsuresUnless SourceLookupFails state
      (openAccess server msg caller settings)
      fun final _ => msg.callKey ∉ final.accessPending := by
  dsimp only [openAccess]
  split
  · exact discardAccessAnd_unmarks _
  refine ensuresUnless_then fun _ port => ?_
  split
  · exact discardAccessAnd_unmarks _
  refine ensuresUnless_then fun _ response => ?_
  split
  · exact ensuresUnless_request fun _ _ _ => .inr (discardAccessAnd_unmarks _)
  refine ensuresUnless_then fun _ messages => ?_
  refine ensuresUnless_request fun _ _ _ => .inr (ensuresUnless_request ?_)
  rintro _ entered ⟨-, rfl⟩
  refine .inr ?_
  have unmarked := Finset.notMem_erase msg.callKey
  split
  · exact spawn_unmarks (unmarked _)
  · exact ensuresUnless_done (unmarked _)

theorem accessTracked_unmarks :
    server.system.EnsuresUnless SourceLookupFails state (accessTracked server msg src)
      fun final _ => msg.callKey ∉ final.accessPending := by
  dsimp only [accessTracked]
  split
  · exact discardAccessAnd_unmarks _
  refine ensuresUnless_then fun _ box => ?_
  split
  · exact discardAccessAnd_unmarks _
  -- The lookup of the source is the one step whose failure leaves the handler at once.
  refine ensuresUnless_request fun rows _ _ => ?_
  cases rows with
  | error error => exact .inl trivial
  | ok rows =>
    refine .inr ?_
    cases registered : rows.any fun row => Mwi.registeredSourceMatches server row.1 row.2 src with
    | false =>
      simp only [registered, Program.pure_eq_done, Program.bind]
      exact discardAccessAnd_unmarks _
    | true =>
      simp only [registered, Program.pure_eq_done, Program.bind]
      exact openAccess_unmarks msg _ _

theorem not_sourceLookupFails {kinds : List Kind} {topics : List Topic}
    (other : .registration ∉ topics) {occurrence : Occurrence signature}
    (kept : Op.Keeps callId kinds topics occurrence.op) : ¬ SourceLookupFails occurrence := by
  unfold SourceLookupFails
  split
  · exact fun _ => other (kept.states _ rfl).2
  · exact id

theorem trackAccessCandidate_uses (callId : CallId) :
    (trackAccessCandidate callId).Uses (Op.Keeps callId accessKinds []) := by
  refine Program.Uses.bind (by simp) fun found => ?_
  split
  · exact uses_done _
  · simp

/-- After a failed lookup of the source the call is marked. -/
def KeepsMark (callId : CallId) (occurrences : List (Occurrence signature)) (final : ServerState)
    (_ : Fallible Str) : Prop :=
  (∃ occurrence ∈ occurrences, SourceLookupFails occurrence) → callId ∈ final.accessPending

theorem keepsMark_cons {occurrence : Occurrence signature} {rest : List (Occurrence signature)}
    {final : ServerState} {value : Fallible Str} (fine : ¬ SourceLookupFails occurrence) :
    KeepsMark callId (occurrence :: rest) final value ↔ KeepsMark callId rest final value := by
  simp [KeepsMark, fine]

/-- A part of the handler that looks up no source meets no such failure. -/
theorem ensures_keepsMark {program : Action (Fallible Str)} {kinds : List Kind}
    {topics : List Topic} (uses : program.Uses (Op.Keeps callId kinds topics))
    (other : .registration ∉ topics) :
    server.system.Ensures state program (KeepsMark callId) := by
  rintro occurrences final value execution ⟨occurrence, member, fails⟩
  exact absurd fails (not_sourceLookupFails other (execution.within uses occurrence member))

/-- A failed lookup ends the handler at once, with the mark in place. -/
theorem accessTracked_keepsMark (marked : msg.callKey ∈ state.accessPending) :
    server.system.Ensures state (accessTracked server msg src) (KeepsMark msg.callKey) := by
  have discarded : ∀ state result, server.system.Ensures state
      (discardAccessAnd msg.callKey result) (KeepsMark msg.callKey) :=
    fun _ result => ensures_keepsMark (discardAccessAnd_uses result) (by decide)
  have opened : ∀ state caller settings, server.system.Ensures state
      (openAccess server msg caller settings) (KeepsMark msg.callKey) :=
    fun _ caller settings => ensures_keepsMark (openAccess_uses server msg caller settings)
      (by decide)
  dsimp only [accessTracked]
  split
  · exact discarded _ _
  simp only [lookupEnabledBox, Mwi.sourceIsRegistered, request_bind, done_bind,
    ensures_request]
  rintro row _ rfl
  rcases row with error | _ | settings
  · exact (discarded _ _).mono fun _ _ _ => (keepsMark_cons id).mpr
  · exact (discarded _ _).mono fun _ _ _ => (keepsMark_cons id).mpr
  · simp only [Program.pure_eq_done, done_bind, ensures_request]
    rintro rows _ rfl
    cases rows with
    | error error => exact ensures_done.mpr fun _ => marked
    | ok rows =>
      dsimp only [Program.pure_eq_done, done_bind]
      split
      · next same => cases same
      · exact (discarded _ _).mono fun _ _ _ kept =>
          (keepsMark_cons id).mpr ((keepsMark_cons id).mpr kept)
      · exact (opened _ _ settings).mono fun _ _ _ kept =>
          (keepsMark_cons id).mpr ((keepsMark_cons id).mpr kept)

/-- Only a handler that marked the call runs past the check of its mark. -/
theorem trackAccessCandidate_cases {occurrences : List (Occurrence signature)}
    {final : ServerState} {tracked : Bool}
    (execution : server.system.Exec state (trackAccessCandidate callId) occurrences final
      tracked) :
    (tracked = true → callId ∈ final.accessPending) ∧
      (state.voicemailActive.lookup callId = none → callId ∉ state.accessPending →
        tracked = true) ∧
      (Marks callId occurrences → tracked = true) := by
  obtain ⟨found, middle, rest, rfl, looked, execution⟩ := exec_request_iff.mp execution
  obtain ⟨rfl, rfl⟩ := Op.perform_voicemailGet_iff.mp looked
  cases present : middle.voicemailActive.lookup callId with
  | some call =>
    rw [present] at execution
    obtain ⟨rfl, rfl, rfl⟩ := exec_done_iff.mp execution
    refine ⟨nofun, nofun, fun marks => ?_⟩
    simp [Marks] at marks
  | none =>
    rw [present] at execution
    obtain ⟨answer, after, rest, rfl, performed, execution⟩ := exec_request_iff.mp execution
    obtain ⟨rfl, rfl, rfl⟩ := exec_done_iff.mp execution
    obtain ⟨rfl, rfl⟩ := performed
    refine ⟨fun _ => Finset.mem_insert_self _ _, fun _ unmarked => decide_eq_true unmarked,
      fun marks => ?_⟩
    simpa [Marks] using marks

end Marker

/-- A handler that marked its call goes on with the mark in place. -/
theorem exec_accessTracked_of_marks {server : Server} {msg : SipMessage} {src : SocketAddr}
    {state final : ServerState} {occurrences : List (Occurrence signature)} {result : Fallible Str}
    (execution : server.system.Exec state (handleAccessInvite server msg src) occurrences final
      result) (marked : Marks msg.callKey occurrences) :
    ∃ middle front back, occurrences = front ++ back ∧
      (∀ occurrence ∈ front, ¬ SourceLookupFails occurrence) ∧
      msg.callKey ∈ middle.accessPending ∧
      server.system.Exec middle (accessTracked server msg src) back final result := by
  dsimp only [handleAccessInvite] at execution
  split at execution
  · obtain ⟨rfl, -, -⟩ := exec_done_iff.mp execution
    exact absurd marked List.not_mem_nil
  split at execution
  · obtain ⟨rfl, -, -⟩ := exec_done_iff.mp execution
    exact absurd marked List.not_mem_nil
  obtain ⟨tracked, middle, front, back, rfl, track, rest⟩ := exec_bind_iff.mp execution
  obtain ⟨pending, -, marks⟩ := trackAccessCandidate_cases track
  cases tracked with
  | false =>
    obtain ⟨rfl, -, -⟩ := exec_done_iff.mp rest
    rw [List.append_nil] at marked
    exact nomatch marks marked
  | true =>
    refine ⟨middle, front, back, rfl, fun occurrence member => ?_, pending rfl, rest⟩
    exact not_sourceLookupFails List.not_mem_nil
      (track.within (trackAccessCandidate_uses msg.callKey) occurrence member)

/-- A handler that answers shows one of these codes. -/
def Shows (codes : List Nat) (result : Fallible Str) : Prop :=
  ∀ response, result = .ok response → ∃ code ∈ codes, statusText response = Str.ofNat code

section Codes

variable {server : Server} {codes : List Nat}

theorem shows_plain {msg : SipMessage} {code : Nat} {reason : String} (listed : code ∈ codes) :
    Shows codes (.ok (plainResponse msg code reason)) := by
  rintro _ ⟨⟩
  exact ⟨code, listed, statusText_plainResponse msg code reason⟩

theorem shows_error {error : HandlerError} : Shows codes (.error error) :=
  nofun

/-- The codes of an access INVITE that was tracked. -/
abbrev accessCodes : List Nat := [200, 400, 403, 404, 488, 500]

variable (msg : SipMessage) (src : SocketAddr)

theorem buildLocalOk_shows (localUser : Str) (relayPort : Nat) (negotiation : Negotiation) :
    (buildLocalOk server msg localUser relayPort negotiation).Returns
      fun response => Shows accessCodes (.ok response) := by
  intro sessionId
  rintro _ ⟨⟩
  refine ⟨200, by decide, ?_⟩
  rw [statusText_build]
  simp only [withBody, header,
    baseResponseWithTo_eq]

theorem openAccess_shows (caller : Str) (settings : MailboxSettings) :
    (openAccess server msg caller settings).Returns (Shows accessCodes) := by
  dsimp only [openAccess]
  split
  · exact fun _ => shows_plain (by decide)
  refine Program.Returns.then fun port => ?_
  split
  · exact fun _ => shows_plain (by decide)
  refine (buildLocalOk_shows msg _ _ _).bind fun response shows => ?_
  split
  · exact fun _ _ => shows
  refine Program.Returns.then fun messages => ?_
  refine fun _ _ => ?_
  split
  · exact fun _ => shows
  · exact shows

theorem accessTracked_shows :
    (accessTracked server msg src).Returns (Shows accessCodes) := by
  dsimp only [accessTracked]
  split
  · exact fun _ => shows_plain (by decide)
  refine Program.Returns.then fun box => ?_
  split
  · exact fun _ => shows_plain (by decide)
  refine Program.Returns.then fun registered => ?_
  split
  · exact shows_error
  · exact fun _ => shows_plain (by decide)
  · exact openAccess_shows msg _ _

theorem statusText_ne_pending {response : Str} (shows : Shows accessCodes (.ok response)) :
    statusText response ≠ Str.ofNat 491 := by
  obtain ⟨code, listed, shown⟩ := shows response rfl
  rw [shown]
  intro same
  have distinct : ∀ code ∈ accessCodes, Str.ofNat code ≠ Str.ofNat 491 := by decide
  exact distinct code listed same

end Codes

/-- An access INVITE of a call that is neither active nor marked is not rejected as a duplicate. -/
theorem handleAccessInvite_admitted {server : Server} {msg : SipMessage} {src : SocketAddr}
    {state final : ServerState} {occurrences : List (Occurrence signature)} {response : Str}
    (inactive : state.voicemailActive.lookup msg.callKey = none)
    (unmarked : msg.callKey ∉ state.accessPending)
    (execution : server.system.Exec state (handleAccessInvite server msg src) occurrences
      final (.ok response)) :
    statusText response ≠ Str.ofNat 491 := by
  refine statusText_ne_pending ?_
  dsimp only [handleAccessInvite] at execution
  split at execution
  · obtain ⟨-, -, same⟩ := exec_done_iff.mp execution
    exact same ▸ shows_plain (by decide)
  split at execution
  · obtain ⟨-, -, same⟩ := exec_done_iff.mp execution
    exact same ▸ shows_plain (by decide)
  obtain ⟨tracked, middle, front, back, rfl, track, rest⟩ := exec_bind_iff.mp execution
  obtain rfl : tracked = true := (trackAccessCandidate_cases track).2.1 inactive unmarked
  exact rest.returned (accessTracked_shows msg src)

/-- An access INVITE that marked its call has taken the mark back when it returns, and then a later
access INVITE of the Call-ID is not rejected with 491 while nothing else has marked it and the call
has not become active, exactly when the lookup of the caller's source did not fail. -/
theorem access_marker_released_iff {server : Server} {msg : SipMessage} {src : SocketAddr}
    {state final : ServerState} {occurrences : List (Occurrence signature)} {result : Fallible Str}
    (execution : server.system.Exec state (Voicemail.handleAccessInvite server msg src) occurrences
      final result)
    (marked : Marks msg.callKey occurrences) :
    (msg.callKey ∉ final.accessPending ∧
      ∀ (later after : ServerState) (again : SipMessage) (source : SocketAddr)
        (steps : List (Occurrence signature)) (response : Str),
        again.callKey = msg.callKey →
        (msg.callKey ∈ later.accessPending ↔ msg.callKey ∈ final.accessPending) →
        later.voicemailActive.lookup msg.callKey = none →
        server.system.Exec later (Voicemail.handleAccessInvite server again source) steps after
          (.ok response) →
        statusText response ≠ Str.ofNat 491) ↔
      ∀ occurrence ∈ occurrences, ¬ SourceLookupFails occurrence := by
  obtain ⟨middle, front, back, rfl, untracked, pending, rest⟩ :=
    exec_accessTracked_of_marks execution marked
  constructor
  · rintro ⟨released, -⟩ occurrence member fails
    rcases List.mem_append.mp member with early | late
    · exact untracked occurrence early fails
    · exact released (accessTracked_keepsMark msg src pending _ _ _ rest ⟨occurrence, late, fails⟩)
  · intro lookedUp
    have released : msg.callKey ∉ final.accessPending := by
      rcases accessTracked_unmarks msg src _ _ _ rest with ⟨occurrence, member, fails⟩ | unmarked
      · exact absurd fails (lookedUp occurrence (List.mem_append_right _ member))
      · exact unmarked
    refine ⟨released, ?_⟩
    intro later after again source steps response same unchanged inactive repeated
    rw [← same] at unchanged released inactive
    exact handleAccessInvite_admitted inactive (unchanged.not.mpr released) repeated

namespace Scenario

/-- Whether every lookup of registered sources succeeded. -/
def looksUp (occurrences : List (Occurrence signature)) : Bool :=
  occurrences.all fun occurrence =>
    match occurrence with
    | ⟨.ask (.query (.registrationSources _ _)), .error _⟩ => false
    | _ => true

variable {occurrences : List (Occurrence signature)}

theorem not_fails_of_looksUp (passed : looksUp occurrences = true) :
    ∀ occurrence ∈ occurrences, ¬ SourceLookupFails occurrence := by
  intro occurrence member fails
  have succeeds := List.all_eq_true.mp passed occurrence member
  unfold SourceLookupFails at fails
  split at fails
  · cases succeeds
  · exact fails

/-- Whether a handler marked the call of the scenario. -/
def marks (occurrences : List (Occurrence signature)) : Bool :=
  occurrences.any fun occurrence =>
    match occurrence with
    | ⟨.accessPending (.track call), answer⟩ => call = callId && answer
    | _ => false

theorem marks_of_test (passed : marks occurrences = true) : Marks callId occurrences := by
  obtain ⟨⟨op, answer⟩, member, found⟩ := List.any_eq_true.mp passed
  split at found
  · next call answer same =>
      obtain ⟨own, rfl⟩ := Bool.and_eq_true_iff.mp found
      rw [same, of_decide_eq_true own] at member
      exact member
  · cases found

/-- The world of a database in which no registration can be looked up. -/
def sourceless : Outside
  | .query (.registrationSources _ _) => .error .database
  | request => mailWorld none request

end Scenario

/-- A caller whose source is not registered is rejected, and its mark is gone. -/
theorem access_marker_released_iff_forbidden :
    ∃ msg occurrences final result,
      mailServer.system.Exec .initial
        (Voicemail.handleAccessInvite mailServer msg callee) occurrences final
        result ∧
      Marks msg.callKey occurrences ∧ msg.callKey ∉ final.accessPending := by
  have computed : mailServer.handles accessText
      ((mailWorld none).resolver mailServer) .initial
      (fun msg => Voicemail.handleAccessInvite mailServer msg callee)
      (fun msg occurrences _ _ => msg.callKey = callId && marks occurrences &&
        looksUp occurrences) = true := by
    decide +kernel
  obtain ⟨msg, occurrences, final, result, -, execution, checked⟩ := exists_exec_of_handles computed
  simp only [Bool.and_eq_true, decide_eq_true_eq] at checked
  obtain ⟨⟨own, marked⟩, lookedUp⟩ := checked
  have marks : Marks msg.callKey occurrences := own ▸ marks_of_test marked
  exact ⟨msg, occurrences, final, result, execution, marks,
    ((access_marker_released_iff execution marks).mpr
      (not_fails_of_looksUp lookedUp)).1⟩

open Scenario

/-- The lookup of the source fails: the mark stays, and the next INVITE of the call is rejected
with 491 although the database is back. -/
theorem access_marker_left_behind :
    ∃ msg occurrences middle result later final response,
      mailServer.system.Exec .initial
        (Voicemail.handleAccessInvite mailServer msg caller) occurrences middle
        result ∧
      Marks msg.callKey occurrences ∧ msg.callKey ∈ middle.accessPending ∧
      middle.voicemailActive.lookup msg.callKey = none ∧
      mailServer.system.Exec middle
        (Voicemail.handleAccessInvite mailServer msg caller) later final
        (.ok response) ∧
      statusText response = Str.ofNat 491 := by
  have computed : mailServer.handles accessText
      (sourceless.resolver mailServer) .initial
      (fun msg => Voicemail.handleAccessInvite mailServer msg caller)
      (fun msg occurrences middle _ => msg.callKey = callId &&
        marks occurrences && msg.callKey ∈ middle.accessPending &&
        (middle.voicemailActive.lookup msg.callKey).isNone &&
        (((mailWorld none).resolver mailServer).run middle
          (Voicemail.handleAccessInvite mailServer msg caller)).any
            fun (_, _, result) => result.toOption.any fun response =>
              statusText response = Str.ofNat 491) = true := by
    decide +kernel
  obtain ⟨msg, occurrences, middle, result, -, execution, checked⟩ := exists_exec_of_handles computed
  obtain ⟨first, again⟩ := Bool.and_eq_true_iff.mp checked
  simp only [Bool.and_eq_true, decide_eq_true_eq, Option.isNone_iff_eq_none] at first
  obtain ⟨⟨⟨own, marked⟩, pending⟩, inactive⟩ := first
  obtain ⟨later, final, outcome, repeated, answered⟩ := Resolver.exists_exec again
  obtain ⟨response, answer, rejected⟩ := (Option.any_eq_true _ _).mp answered
  cases outcome with
  | error error => cases answer
  | ok text =>
    obtain rfl := Option.some.inj answer
    exact ⟨msg, occurrences, middle, result, later, final, text, execution,
      own ▸ marks_of_test marked, pending, inactive, repeated,
      of_decide_eq_true rejected⟩

end Sip3
