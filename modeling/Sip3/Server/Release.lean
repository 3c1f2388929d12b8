import Sip3.Server.Flow.Follows

/-!
# What is left of a call that has ended

The handlers that end a call remove it from the pending dialogs and from the media
sessions, and all but the handler of a final response from the active dialogs. None
of them removes the stored INVITE, which only the diversion of a busy call takes.
-/

namespace Sip3

open Text Semantics System Sip3.Flow Handler

/-- Nothing of a call is left in the four maps. -/
structure ServerState.Released (state : ServerState) (callId : CallId) : Prop where
  pendingDialog : state.pendingDialogs.lookup callId = none
  pendingInvite : state.pendingInvites.lookup callId = none
  activeDialog : state.activeDialogs.lookup callId = none
  mediaSession : state.mediaSessions.lookup callId = none

/-- The step enters a call into one of the four maps. -/
def Op.Enters (callId : CallId) (op : Op) : Prop :=
  op.key? = some callId ∧ op.kind ∈ [Kind.pendingInsert, .inviteStore, .dialogInsert, .mediaInsert]

instance (callId : CallId) (op : Op) : Decidable (op.Enters callId) :=
  inferInstanceAs (Decidable (_ ∧ _))

namespace Release

variable {server : Server} {callId : CallId} {state after : ServerState}
  {events : List server.Event} {task : Task} {op : Op} {answer : op.Answer} {point target : Point}

variable (server callId) in
/-- No step enters the call. -/
abbrev noEntry : Discipline server.system where
  Admits _ := True
  Allows _ _ event := ¬ event.op.Enters callId

/-- The task has taken a step. -/
def Took (task : Task) (op : Op) (events : List server.Event) : Prop :=
  ∃ event ∈ events, event.task = task ∧ event.op = op

variable {event : server.Event}

theorem Took.append (took : Took task op events) : Took task op (events ++ [event]) :=
  let ⟨earlier, member, own⟩ := took
  ⟨earlier, List.mem_append_left _ member, own⟩

theorem took_last : Took task op (events ++ [⟨task, op, answer⟩] : List server.Event) :=
  ⟨_, List.mem_append_right _ (List.mem_singleton_self _), rfl, rfl⟩

/-- The assertion at a control point: what the task has removed so far, and what it is. -/
def Assertion (callId : CallId) (events : List server.Event) (task : Task) : Point → Prop
  | .stale => ∃ call, task = .staleMedia call
  | .responding | .diverting | .released | .holding _ | .relayed => task.HandlesFinal server callId
  | .diverted | .dropped =>
    task.HandlesFinal server callId ∧ Took task (.pendingDialogs (.remove callId)) events
  | .removing _ pending dialog =>
    (pending = true → Took task (.pendingDialogs (.remove callId)) events) ∧
      (dialog = true → Took task (.activeDialogs (.remove callId)) events)
  | .cleared => Took task (.pendingDialogs (.remove callId)) events
  | .parted =>
    Took task (.pendingDialogs (.remove callId)) events ∧
      Took task (.activeDialogs (.remove callId)) events
  | _ => True

/-- Whoever removes the media session of a call has removed its pending dialog, and its active
dialog unless it handles a response. The periodic cleanup is the exception. -/
def Ordered (callId : CallId) (events : List server.Event) : Prop :=
  ∀ event ∈ events, event.op = .mediaSessions (.remove callId) →
    (∃ call, event.task = .staleMedia call) ∨
      Took event.task (.pendingDialogs (.remove callId)) events ∧
        (event.task.HandlesFinal server callId ∨
          Took event.task (.activeDialogs (.remove callId)) events)

variable (server callId) in
/-- The outline of the removals. -/
def outline : Outline server.system (.free server.system) Point where
  graph := Edge callId
  start := start server callId
  Covers _ := True
  Exits task stop := (start server callId task).MayStop stop
  Global _ := Ordered callId
  Local _ := Assertion callId
  Apart _ _ := True

theorem assertion_append (here : Assertion callId events task point) :
    Assertion callId (events ++ [event]) task point := by
  cases point with
  | diverted => exact ⟨here.1, here.2.append⟩
  | dropped => exact ⟨here.1, here.2.append⟩
  | removing remover pending dialog =>
    exact ⟨fun removed => (here.1 removed).append, fun removed => (here.2 removed).append⟩
  | cleared => exact here.append
  | parted => exact ⟨here.1.append, here.2.append⟩
  | _ => exact here

section Moves

variable (move : (outline server callId).Move state events task point op answer target after)

include move

theorem move_ordered : Ordered callId (events ++ [⟨task, op, answer⟩]) := by
  intro event member removes
  rcases List.mem_append.mp member with earlier | last
  · exact (move.global event earlier removes).imp id
      (And.imp Took.append (Or.imp id Took.append))
  · obtain rfl := List.mem_singleton.mp last
    obtain rfl : op = .mediaSessions (.remove callId) := removes
    have here := move.here
    obtain rfl | rfl | rfl | rfl | ⟨remover, rfl⟩ := edge_mediaRemove move.edge
    · exact .inl here
    · exact .inr ⟨here.2.append, .inl here.1⟩
    · exact .inr ⟨here.2.append, .inl here.1⟩
    · exact .inr ⟨here.1.append, .inr here.2.append⟩
    · exact .inr ⟨(here.1 rfl).append, .inr (here.2 rfl).append⟩

theorem move_handlesFinal (relays : point.relays = true) : task.HandlesFinal server callId := by
  have here := move.here
  cases point with
  | responding => exact here
  | diverting => exact here
  | diverted => exact here.1
  | _ => cases relays

theorem move_assertion : Assertion callId (events ++ [⟨task, op, answer⟩]) task target := by
  have edge := move.edge
  have here := move.here
  cases edge with
  | loop quiet inside => exact assertion_append here
  | divert => exact here
  | removeDiverted => exact ⟨here, took_last⟩
  | fired relays => exact ⟨nofun, nofun⟩
  | release relays free => exact move_handlesFinal move relays
  | hold => exact here
  | relay => exact here
  | drop => exact ⟨here, took_last⟩
  | removePending => exact ⟨fun _ => took_last, fun removed => (here.2 removed).append⟩
  | removeDialog => exact ⟨fun removed => (here.1 removed).append, fun _ => took_last⟩
  | removeMedia => exact ⟨fun _ => (here.1 rfl).append, fun _ => (here.2 rfl).append⟩
  | cancelTimer => exact ⟨nofun, nofun⟩
  | clear => exact took_last
  | part => exact ⟨Took.append here, took_last⟩
  | _ => trivial

end Moves

theorem assertion_starts (begins : Starts server callId task point) :
    Assertion callId events task point := by
  cases begins with
  | stale same => exact ⟨_, same⟩
  | responding handles => exact handles
  | removing handles => exact ⟨nofun, nofun⟩
  | _ => trivial

variable (server callId) in
theorem valid : (outline server callId).Valid where
  follows task _ := body_follows server task
  apart_symm _ := trivial
  arrives _ _ := ⟨trivial, assertion_starts (starts server callId _)⟩
  arrives_apart _ _ _ := trivial
  acts move := ⟨move_ordered move, move_assertion move⟩
  frames _ there _ := assertion_append there
  separates _ _ _ := trivial
  spawns _ _ := ⟨trivial, assertion_starts (starts server callId _)⟩
  spawns_apart _ _ _ := trivial

section Tables

variable {first last : server.Config} {later : List server.Event}
  (steps : Steps (noEntry server callId) first last)
  (history : last.events = first.events ++ later)

include steps history

/-- An entry of the call is absent at the end exactly when it was absent before or has been
removed since. -/
theorem entry_eq_none_iff {β : Type} (entry : ServerState → Option β) (removal : Op)
    (clears : ∀ {state answer after}, Op.Perform state removal answer after → entry after = none)
    (keeps : ∀ {state op answer after}, Op.Perform state op answer after →
      op.Enters callId ∨ op = removal ∨ entry after = entry state) :
    entry last.shared = none ↔
      entry first.shared = none ∨ ∃ event ∈ later, event.op = removal := by
  refine steps.entry_eq_none_iff entry (fun op : Op => op = removal) ?_ ?_ history
  · rintro shared op answer after performed rfl
    exact clears performed
  · intro shared events task op answer after performed allowed stays
    exact ((keeps performed).resolve_left allowed).resolve_left stays

theorem pendingDialog_eq_none_iff : last.shared.pendingDialogs.lookup callId = none ↔
    first.shared.pendingDialogs.lookup callId = none ∨
      ∃ event ∈ later, event.op = .pendingDialogs (.remove callId) := by
  refine entry_eq_none_iff steps history (·.pendingDialogs.lookup callId) _ ?_ ?_
  · rintro state answer after ⟨-, rfl⟩
    exact TableOp.lookup_next_remove _ callId
  · intro state op answer after performed
    obtain ⟨addr, rfl, -⟩ | ⟨removes, -⟩ | same := performed.pendingDialog_cases callId
    · exact .inl ⟨rfl, by simp⟩
    · exact .inr (.inl removes)
    · exact .inr (.inr same)

theorem pendingInvite_eq_none_iff : last.shared.pendingInvites.lookup callId = none ↔
    first.shared.pendingInvites.lookup callId = none ∨
      ∃ event ∈ later, event.op = .pendingInvites (.take callId) := by
  refine entry_eq_none_iff steps history (·.pendingInvites.lookup callId) _ ?_ ?_
  · rintro state answer after ⟨-, rfl⟩
    exact AList.lookup_erase callId _
  · intro state op answer after performed
    obtain ⟨msg, rfl, own⟩ | ⟨removes, -⟩ | same := performed.pendingInvite_cases callId
    · exact .inl ⟨congrArg some own, by simp⟩
    · exact .inr (.inl removes)
    · exact .inr (.inr same)

theorem activeDialog_eq_none_iff : last.shared.activeDialogs.lookup callId = none ↔
    first.shared.activeDialogs.lookup callId = none ∨
      ∃ event ∈ later, event.op = .activeDialogs (.remove callId) := by
  refine entry_eq_none_iff steps history (·.activeDialogs.lookup callId) _ ?_ ?_
  · rintro state answer after ⟨-, rfl⟩
    exact TableOp.lookup_next_remove _ callId
  · intro state op answer after performed
    obtain ⟨dialog, rfl, -⟩ | ⟨removes, -⟩ | same := performed.activeDialog_cases callId
    · exact .inl ⟨rfl, by simp⟩
    · exact .inr (.inl removes)
    · exact .inr (.inr same)

theorem mediaSession_eq_none_iff : last.shared.mediaSessions.lookup callId = none ↔
    first.shared.mediaSessions.lookup callId = none ∨
      ∃ event ∈ later, event.op = .mediaSessions (.remove callId) := by
  refine entry_eq_none_iff steps history (·.mediaSessions.lookup callId) _ ?_ ?_
  · rintro state answer after ⟨-, rfl⟩
    exact TableOp.lookup_next_remove _ callId
  · intro state op answer after performed
    obtain ⟨session, rfl, -⟩ | ⟨removes, -⟩ | same := performed.mediaSession_cases callId
    · exact .inl ⟨rfl, by simp⟩
    · exact .inr (.inl removes)
    · exact .inr (.inr same)

end Tables

/-- Whether a step removes the media session of a call. -/
def removesMedia (callId : CallId) : Op → Bool
  | .mediaSessions (.remove call) => call = callId
  | _ => false

theorem eq_of_removesMedia (removes : removesMedia callId op = true) :
    op = .mediaSessions (.remove callId) := by
  unfold removesMedia at removes
  split at removes
  · next call => rw [of_decide_eq_true removes]
  · cases removes

/-- A step of a task that had not acted before is among the later events. -/
theorem mem_later {earlier later : List server.Event}
    (fresh : ∀ event ∈ earlier, event.task ≠ task) (member : event ∈ earlier ++ later)
    (own : event.task = task) : event ∈ later :=
  (List.mem_append.mp member).resolve_left fun before => fresh event before own

end Release

open Release

/-- A task other than the periodic cleanup has removed the media session of a call, which is the
last of its removals, and since before its first step nothing has entered the call. The call is
released exactly when its stored INVITE was gone before or has been taken by a diversion, and,
if the task handles a final response, its active dialog was gone before or has been removed by
somebody. -/
theorem released_iff {server : Server} {callId : CallId} {before : ServerState} {tasks : List Task}
    {middle final : server.Config}
    (run : Steps (.free server.system) ⟨before, [], tasks.map launch⟩ middle)
    (rest : Steps (noEntry server callId) middle final) {later : List server.Event}
    (history : final.events = middle.events ++ later) {ending : Task}
    (fresh : ∀ event ∈ middle.events, event.task ≠ ending)
    (ended : ∃ event ∈ later, event.task = ending ∧ event.op = .mediaSessions (.remove callId))
    (handler : ∀ call, ending ≠ .staleMedia call) :
    final.shared.Released callId ↔
      (middle.shared.pendingInvites.lookup callId = none ∨
        ∃ event ∈ later, event.op = .pendingInvites (.take callId)) ∧
      (ending.HandlesFinal server callId →
        middle.shared.activeDialogs.lookup callId = none ∨
          ∃ event ∈ later, event.op = .activeDialogs (.remove callId)) := by
  have holds : (outline server callId).Holds ⟨before, [], tasks.map launch⟩ := by
    refine (valid server callId).holds_launch (fun _ member => nomatch member)
      (fun _ _ => trivial) (fun task _ => assertion_starts (starts server callId task)) ?_
    exact List.pairwise_of_forall_mem_list fun _ _ _ _ => trivial
  have whole : Steps (.free server.system) ⟨before, [], tasks.map launch⟩ final :=
    run.trans (rest.mono (fun _ _ => trivial) fun _ _ _ _ => trivial)
  have ordered : Ordered callId final.events :=
    ((valid server callId).holds_of_steps holds whole).global
  obtain ⟨event, member, own, removes⟩ := ended
  have present : event ∈ final.events := history ▸ List.mem_append_right _ member
  obtain ⟨⟨pendingRemoval, pendingIn, pendingOwn, pendingOp⟩, dialog⟩ :=
    (ordered event present removes).resolve_left fun ⟨call, stale⟩ =>
      handler call (own.symm.trans stale)
  rw [own] at pendingOwn dialog
  have pendingGone : final.shared.pendingDialogs.lookup callId = none :=
    (pendingDialog_eq_none_iff rest history).mpr (.inr ⟨pendingRemoval,
      mem_later fresh (history ▸ pendingIn) pendingOwn, pendingOp⟩)
  have mediaGone : final.shared.mediaSessions.lookup callId = none :=
    (mediaSession_eq_none_iff rest history).mpr (.inr ⟨event, member, removes⟩)
  constructor
  · intro released
    exact ⟨(pendingInvite_eq_none_iff rest history).mp released.pendingInvite,
      fun _ => (activeDialog_eq_none_iff rest history).mp released.activeDialog⟩
  · rintro ⟨invite, answered⟩
    refine ⟨pendingGone, (pendingInvite_eq_none_iff rest history).mpr invite, ?_, mediaGone⟩
    refine (activeDialog_eq_none_iff rest history).mpr ?_
    rcases dialog with handles | ⟨removal, removalIn, removalOwn, removalOp⟩
    · exact answered handles
    · exact .inr ⟨removal, mem_later fresh (history ▸ removalIn) removalOwn, removalOp⟩

open Scenario

/-- The call of the scenario rings without a stored INVITE, and is released by a BYE. -/
theorem released_after_bye :
    ∃ final : server.Config,
      Steps (noEntry server callId)
        ⟨ringing, [], [fromCaller "BYE"].map launch⟩ final ∧
      final.shared.Released callId := by
  let permit : Permit server.system := fun _ _ event =>
    !decide (event.op.Enters callId)
  have computed : (((Config.mk ringing []
      ([fromCaller "BYE"].map launch) : server.Config).playUnder permit
        [steps 0 100 none]).any fun final => final.events.any fun event =>
      event.task = fromCaller "BYE" && Release.removesMedia callId event.op) =
      true := by decide +kernel
  obtain ⟨final, played, checked⟩ := (Option.any_eq_true _ _).mp computed
  have rest : Steps (noEntry server callId)
      ⟨ringing, [], [fromCaller "BYE"].map launch⟩ final := by
    refine Config.playUnder_steps (fun _ _ _ permitted => ?_) (by simp [steps]) played
    exact of_decide_eq_false ((Bool.not_eq_true' _).mp permitted)
  obtain ⟨event, member, ends⟩ := List.any_eq_true.mp checked
  obtain ⟨own, removes⟩ := Bool.and_eq_true_iff.mp ends
  refine ⟨final, rest, (released_iff .refl rest (List.nil_append _).symm
    (fun _ before => nomatch before)
    ⟨event, member, of_decide_eq_true own, eq_of_removesMedia removes⟩ (fun _ => nofun)).mpr
      ⟨.inl (by simp [ringing, ServerState.initial]), fun handles => ?_⟩⟩
  exact .inl (by simp [ringing, ServerState.initial])

/-- A call is set up by its INVITE and ended by a BYE that the proxy handles to its end: the
stored INVITE is still there. -/
theorem pendingInvite_left_by_bye :
    ∃ middle final : server.Config,
      Steps (.closed server.system) invited middle ∧
      Steps (.closed server.system)
        ⟨middle.shared, middle.events, middle.threads ++ [launch (fromCaller "BYE")]⟩
        final ∧
      (final.threads[middle.threads.length]?).any Thread.returned = true ∧
      (∃ event ∈ final.events, event.task = fromCaller "BYE" ∧
        event.op = .mediaSessions (.remove callId)) ∧
      final.shared.pendingInvites.lookup callId ≠ none := by
  have computed : ((invited.play [steps 0 100 none]).any fun middle =>
      ((Config.mk middle.shared middle.events
        (middle.threads ++ [launch (fromCaller "BYE")])).play
          [steps middle.threads.length 100 none]).any fun final =>
      (final.threads[middle.threads.length]?).any Thread.returned &&
        (final.events.any fun event =>
          event.task = fromCaller "BYE" && removesMedia callId event.op) &&
        (final.shared.pendingInvites.lookup callId).isSome) = true := by decide +kernel
  obtain ⟨middle, first, handled⟩ := (Option.any_eq_true _ _).mp computed
  have early : Steps (.closed server.system) invited middle :=
    Config.playUnder_steps (fun _ _ _ _ => trivial) (by simp [steps]) first
  obtain ⟨final, late, ended⟩ : ∃ final, Steps (.closed server.system) _ final ∧ _ :=
    Config.exists_steps_of_play (fun _ _ _ => trivial) (by simp [steps]) handled
  simp only [Bool.and_eq_true, Option.isSome_iff_ne_none] at ended
  obtain ⟨⟨returned, removed⟩, left⟩ := ended
  obtain ⟨event, member, ends⟩ := List.any_eq_true.mp removed
  obtain ⟨own, removes⟩ := Bool.and_eq_true_iff.mp ends
  exact ⟨middle, final, early, late, returned,
    ⟨event, member, of_decide_eq_true own, eq_of_removesMedia removes⟩, left⟩

end Sip3
