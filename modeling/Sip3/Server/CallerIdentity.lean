import Sip3.Message.ContactRewrite
import Sip3.Server.Footprint

/-!
# Whose request it is

The handlers take the caller from the From header: the user of the URI that `extract_uri` finds.
It looks for the first bracket of the header, also where that stands in the display name. So the
caller is the one in the address unless the name has a bracket.
-/

namespace Sip3

open Text Semantics Program List

section Address

/-- A From value with a quoted display name. -/
def quotedFrom (name uri params : Str) : Str :=
  '"' :: (name ++ '"' :: ' ' :: '<' :: (uri ++ '>' :: params))

variable {name uri params : Str}

theorem mem_trim {text : Str} {char : Char} (member : char ∈ text)
    (solid : isWhitespace char = false) : char ∈ Str.trim text := by
  have kept : ∀ other : Str, char ∈ other → char ∈ other.dropWhile isWhitespace := by
    intro other inside
    rw [← takeWhile_append_dropWhile (p := isWhitespace) (l := other)] at inside
    refine (mem_append.mp inside).resolve_left fun blank => ?_
    exact Bool.false_ne_true (solid.symm.trans (mem_takeWhile_imp blank))
  rw [Str.trim, Str.trimEnd, rdropWhile, mem_reverse]
  exact kept _ (mem_reverse.mpr (kept text member))

/-- The text from the first bracket to the next closing one. -/
theorem bracketed_append {before : Str} (first : '<' ∉ before) {inside : Str} (closed : '>' ∉ inside)
    (after : Str) : bracketed (before ++ '<' :: (inside ++ '>' :: after)) = some inside := by
  have skipped : ∀ char ∈ before, decide (char ≠ '<') = true :=
    fun char member => decide_eq_true fun same => first (same ▸ member)
  have taken : ∀ char ∈ inside, decide (char ≠ '>') = true :=
    fun char member => decide_eq_true fun same => closed (same ▸ member)
  rw [bracketed, dropWhile_append_of_pos skipped, dropWhile_cons_of_neg (by decide)]
  dsimp only
  rw [if_pos (by simp), takeWhile_append_of_pos taken]
  simp

/-- The URI is found where the name has no bracket, or has the same URI in its first brackets. -/
theorem extractUri_quotedFrom_iff (clean : '<' ∉ uri ∧ '>' ∉ uri) :
    extractUri (quotedFrom name uri params) = some uri ↔ Str.trim uri = uri ∧
      ('<' ∉ name ∨ ∃ before inside after, name = before ++ '<' :: (inside ++ '>' :: after) ∧
        '<' ∉ before ∧ '>' ∉ inside ∧ Str.trim inside = uri) := by
  have read : ∀ {before inside : Str} (after : Str), '<' ∉ before → '>' ∉ inside →
      quotedFrom name uri params = before ++ '<' :: (inside ++ '>' :: after) →
      extractUri (quotedFrom name uri params) = some (Str.trim inside) := by
    intro before inside after first closed shape
    rw [extractUri, shape, bracketed_append first closed]
  by_cases bracket : '<' ∈ name
  · obtain ⟨before, tail, rfl, first⟩ := eq_append_cons_of_mem bracket
    have quoted : '<' ∉ '"' :: before := by simp [first]
    by_cases close : '>' ∈ tail
    · obtain ⟨inside, after, rfl, closed⟩ := eq_append_cons_of_mem close
      rw [read (after ++ '"' :: ' ' :: '<' :: (uri ++ '>' :: params)) quoted closed
        (by simp [quotedFrom]), Option.some_inj]
      constructor
      · exact fun same => ⟨same ▸ Str.trim_trim inside,
          .inr ⟨before, inside, after, rfl, first, closed, same⟩⟩
      · rintro ⟨-, absent | ⟨before', inside', after', shape, first', closed', same⟩⟩
        · exact absurd bracket absent
        · obtain ⟨-, rest⟩ := append_inj_before first first' shape
          rw [(append_inj_before closed closed' rest).1, same]
    · -- Without a closing bracket the text runs on to the bracket of the address.
      have whole : '>' ∉ tail ++ '"' :: ' ' :: '<' :: uri := by simp [close, clean.2]
      rw [read params quoted whole (by simp [quotedFrom]), Option.some_inj]
      have marked : '<' ∈ Str.trim (tail ++ '"' :: ' ' :: '<' :: uri) :=
        mem_trim (by simp) (by decide)
      constructor
      · exact fun same => absurd (same ▸ marked) clean.1
      · rintro ⟨-, absent | ⟨before', inside', after', shape, first', -, -⟩⟩
        · exact absurd bracket absent
        · obtain ⟨-, rfl⟩ := append_inj_before first first' shape
          exact absurd (by simp) close
  · have quoted : '<' ∉ '"' :: (name ++ ['"', ' ']) := by simp [bracket]
    rw [read params quoted clean.2 (by simp [quotedFrom]), Option.some_inj]
    exact ⟨fun trimmed => ⟨trimmed, .inl bracket⟩, And.left⟩

end Address

/-- The account that a step checks is the user's. -/
def AsksFor (user : Str) (op : Op) : Prop :=
  ∀ username domain, op.statement? = some (.accountEnabled username domain) → username = user

/-- The mailbox and the registrations that a step looks up are the user's. -/
def LooksUp (user : Str) (op : Op) : Prop :=
  ∀ username domain, op.statement? = some (.voicemailBox username domain) ∨
    op.statement? = some (.registrationSources username domain) → username = user

section Handlers

variable {α : Type} {user : Str} (callId : CallId) {kinds : List Kind} {topics : List Topic}

theorem asksFor_of_keeps {program : Action α} (uses : program.Uses (Op.Keeps callId kinds topics))
    (other : Topic.account ∉ topics) : program.Uses (AsksFor user) := by
  refine uses.mono fun op keeps username domain asked => ?_
  exact absurd (keeps.states _ asked).2 other

variable (server : Server) {msg : SipMessage} (src : SocketAddr)
  (sender : headerUser msg.fromHeader = some user)

include sender in
theorem Voicemail.handleDeliveryInvite_asks (callee : Str) :
    (Voicemail.handleDeliveryInvite server msg callee).Uses (AsksFor user) := by
  have discarded : ∀ result : Fallible Str,
      (Voicemail.discardAnd msg.callKey result).Uses (AsksFor user) := fun result =>
    asksFor_of_keeps msg.callKey (Voicemail.discardAnd_uses result) (by decide : _ ∉ [])
  dsimp only [Voicemail.handleDeliveryInvite]
  split
  · exact uses_done _
  refine Uses.bind (by simp [AsksFor]) fun tracked => ?_
  split
  case isFalse => exact uses_done _
  dsimp only [Voicemail.deliverTracked, Voicemail.deliveryCaller]
  rw [sender]
  split
  · exact discarded _
  next caller named =>
    obtain ⟨same, -⟩ := Option.filter_eq_some_iff.mp named
    cases same
    refine Uses.bind (by simp [AsksFor]) fun account => ?_
    split
    · exact discarded _
    · exact discarded _
    refine Uses.bind (asksFor_of_keeps msg.callKey (Voicemail.lookupEnabledBox_uses _ _)
      (by decide)) fun box => ?_
    split
    · exact discarded _
    refine Uses.bind (Uses.bind (by simp [AsksFor]) fun count => ?_) fun full => ?_
    · split <;> exact uses_done _
    split
    · exact discarded _
    · exact discarded _
    dsimp only [Voicemail.recordDelivery]
    split
    · exact discarded _
    · refine Uses.bind (asksFor_of_keeps msg.callKey (Voicemail.allocateMedia_uses _) (by decide))
        fun port => ?_
      split
      · exact discarded _
      · refine Uses.bind (asksFor_of_keeps msg.callKey
          (Voicemail.buildLocalOk_uses server msg _ _ _) (by decide)) fun response => ?_
        simp [AsksFor]

include sender in
theorem Proxy.handleInvite_asks : (Proxy.handleInvite server msg src).Uses (AsksFor user) := by
  have rejected : ∀ caller detail,
      (Proxy.rejectInvalidInvite server msg src caller detail).Uses (AsksFor user) :=
    fun caller detail =>
      asksFor_of_keeps [] (Proxy.rejectInvalidInvite_uses server msg src caller detail) (by decide)
  have box : ∀ username domain, (Voicemail.lookupEnabledBox username domain).Uses (AsksFor user) :=
    fun username domain =>
      asksFor_of_keeps [] (Voicemail.lookupEnabledBox_uses username domain) (by decide)
  dsimp only [Proxy.handleInvite]
  rw [sender, Option.getD_some]
  split
  · exact uses_done _
  split
  · exact uses_done _
  refine Uses.bind (by simp [AsksFor]) fun blocked => ?_
  split
  · exact uses_done _
  split
  · exact rejected _ _
  refine Uses.bind (by simp [AsksFor]) fun account => ?_
  split
  · exact uses_done _
  · exact rejected _ _
  refine Uses.bind (asksFor_of_keeps []
    (Proxy.refreshSenderRegistrationSource_uses server src _ _) (by decide)) fun refreshed => ?_
  split
  · exact uses_done _
  refine Uses.bind (by simp [AsksFor]) fun row => ?_
  split
  · exact uses_done _
  · refine Uses.bind (box _ _) fun mailbox => ?_
    split
    · exact Voicemail.handleDeliveryInvite_asks server sender _
    · exact uses_done _
  · refine Uses.bind (box _ _) fun mailbox => ?_
    split
    · exact uses_done _
    · exact Uses.bind (by simp [AsksFor]) fun _ => Uses.bind (by simp [AsksFor]) fun _ =>
        Uses.bind (by simp [AsksFor]) fun _ =>
          asksFor_of_keeps msg.callKey (Proxy.forwardInvite_uses server msg src _ _ _) (by decide)

include sender in
theorem Proxy.handleMessage_asks : (Proxy.handleMessage server msg src).Uses (AsksFor user) := by
  have registered : ∀ username domain,
      (Proxy.lookupRegisteredTarget server username domain).Uses (AsksFor user) :=
    fun username domain =>
      asksFor_of_keeps [] (Proxy.lookupRegisteredTarget_uses server username domain) (by decide)
  dsimp only [Proxy.handleMessage]
  rw [sender, Option.getD_some]
  split
  · exact uses_done _
  refine Uses.bind (by simp [AsksFor]) fun account => ?_
  split
  · exact uses_done _
  · exact uses_done _
  refine Uses.bind (asksFor_of_keeps []
    (Proxy.refreshSenderRegistrationSource_uses server src _ _) (by decide)) fun refreshed => ?_
  split
  · exact uses_done _
  split
  · exact uses_done _
  refine Uses.bind ?_ fun target => ?_
  · dsimp only [Proxy.messageTarget]
    split
    · exact registered _ _
    · refine Uses.bind (by simp [AsksFor]) fun dialog => ?_
      split
      · exact uses_done _
      · exact registered _ _
  split
  · simp [AsksFor]
  · refine Uses.bind (by simp [AsksFor]) fun sent => ?_
    split <;> simp [AsksFor]

include sender in
theorem Conference.handleInvite_asks (roomId maxParticipants : Nat) :
    (Conference.handleInvite server msg src roomId maxParticipants).Uses (AsksFor user) := by
  dsimp only [Conference.handleInvite]
  rw [sender, Option.getD_some]
  split
  · exact uses_done _
  refine Uses.bind (by simp [AsksFor]) fun _ => ?_
  split
  · exact uses_done _
  refine Uses.bind (by simp [AsksFor]) fun account => ?_
  split
  · exact uses_done _
  · exact uses_done _
  refine Uses.bind (by simp [AsksFor]) fun pinHash => ?_
  split
  · exact uses_done _
  split
  · exact uses_done _
  refine Uses.bind (by simp [AsksFor]) fun count => ?_
  split
  · exact uses_done _
  split
  · exact uses_done _
  unfold Conference.joinRoom
  split
  · exact uses_done _
  refine Uses.bind (by simp [AsksFor]) fun port => ?_
  split
  · exact uses_done _
  · refine Uses.bind (by simp [AsksFor]) fun _ => ?_
    simp [Conference.enterConference, AsksFor]

include sender in
theorem Voicemail.handleAccessInvite_looksUp :
    (Voicemail.handleAccessInvite server msg src).Uses (LooksUp user) := by
  have others : ∀ {topics : List Topic} {kinds : List Kind} {program : Action (Fallible Str)},
      program.Uses (Op.Keeps msg.callKey kinds topics) → .mailbox ∉ topics →
      .registration ∉ topics → program.Uses (LooksUp user) := by
    intro topics kinds program uses mailbox registration
    refine uses.mono fun op keeps username domain asked => ?_
    rcases asked with asked | asked
    · exact absurd (keeps.states _ asked).2 mailbox
    · exact absurd (keeps.states _ asked).2 registration
  have discarded : ∀ result : Fallible Str,
      (Voicemail.discardAccessAnd msg.callKey result).Uses (LooksUp user) := fun result =>
    others (@Voicemail.discardAccessAnd_access [] msg result) (by decide) (by decide)
  dsimp only [Voicemail.handleAccessInvite]
  split
  · exact uses_done _
  split
  · exact uses_done _
  refine Uses.bind (Uses.bind (by simp [LooksUp]) fun call => ?_) fun tracked => ?_
  · cases call <;> simp [LooksUp]
  split
  case isFalse => exact uses_done _
  dsimp only [Voicemail.accessTracked]
  rw [sender, Option.getD_some]
  split
  · exact discarded _
  refine Uses.bind ⟨by simp [LooksUp], fun row => by cases row <;> exact uses_done _⟩
    fun settings => ?_
  split
  · exact discarded _
  refine Uses.bind ⟨by simp [LooksUp], fun rows => by cases rows <;> exact uses_done _⟩
    fun registered => ?_
  split
  · exact uses_done _
  · exact discarded _
  · exact others (Voicemail.openAccess_uses server msg _ _) (by decide) (by decide)

end Handlers

/-- The address decides: the URI is the one after the name, and the handlers check the account of
its user and no other. The INVITE to the voicemail system opens the mailbox of that user, whose
registration it checks. -/
structure Attributed (value uri : Str) : Prop where
  found : extractUri value = some uri
  checked : ∀ (server : Server) (msg : SipMessage) (src : SocketAddr) (user : Str),
    msg.fromHeader = some value → uriUsername uri = some user →
    (Proxy.handleInvite server msg src).Uses (AsksFor user) ∧
    (Proxy.handleMessage server msg src).Uses (AsksFor user) ∧
    (∀ callee, (Voicemail.handleDeliveryInvite server msg callee).Uses (AsksFor user)) ∧
    (Voicemail.handleAccessInvite server msg src).Uses (LooksUp user) ∧
    ∀ roomId maxParticipants,
      (Conference.handleInvite server msg src roomId maxParticipants).Uses (AsksFor user)

/-- A request belongs to the user in the address exactly when there is no white space around the
URI, and the display name has no bracket, or has the same URI in its first brackets. -/
theorem attributed_quotedFrom_iff {name uri params : Str} (clean : '<' ∉ uri ∧ '>' ∉ uri) :
    Attributed (quotedFrom name uri params) uri ↔ Str.trim uri = uri ∧
      ('<' ∉ name ∨ ∃ before inside after, name = before ++ '<' :: (inside ++ '>' :: after) ∧
        '<' ∉ before ∧ '>' ∉ inside ∧ Str.trim inside = uri) := by
  rw [← extractUri_quotedFrom_iff clean]
  refine ⟨Attributed.found, fun found => ⟨found, fun server msg src user value named => ?_⟩⟩
  have sender : headerUser msg.fromHeader = some user := by
    rw [value, headerUser, Option.bind_some, found, Option.bind_some, named]
  exact ⟨Proxy.handleInvite_asks server src sender, Proxy.handleMessage_asks server src sender,
    Voicemail.handleDeliveryInvite_asks server sender,
    Voicemail.handleAccessInvite_looksUp server src sender,
    Conference.handleInvite_asks server src sender⟩

theorem attributed_bob :
    Attributed (quotedFrom "Bob".toList "sip:bob@h".toList []) "sip:bob@h".toList :=
  (attributed_quotedFrom_iff (by decide)).mpr ⟨by decide, .inl (by decide)⟩

/-- With the name `a <sip:evil@x>` the request belongs to `evil`. -/
theorem not_attributed_bracket :
    extractUri (quotedFrom "a <sip:evil@x>".toList "sip:bob@h".toList []) =
      some "sip:evil@x".toList ∧
    ¬ Attributed (quotedFrom "a <sip:evil@x>".toList "sip:bob@h".toList []) "sip:bob@h".toList := by
  refine ⟨by decide, fun attributed => ?_⟩
  exact absurd attributed.found (by decide)

end Sip3
