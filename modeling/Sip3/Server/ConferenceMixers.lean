import Sip3.Semantics.Trace
import Sip3.Server.Section

/-!
# The mixer tasks of conference rooms

`ConferenceMedia` keeps its rooms behind one lock. `join` starts a mixer task for a room that has
none, `leave` aborts the one of a room that it empties, and `shutdown_all` those of all rooms. A
mixer task looks at its room once a tick and returns when there is nothing to mix.

The participants change as in the server's sections on the rooms. Beside them stand the handles of
the mixer tasks, the field `mixer_task` of each room. `leave` and `shutdown_all` wait for the
handles of receive tasks while they hold the lock, so that they take more than one step; `join` does
not wait there. What is seen only under the lock is simplified: an emptied room leaves the map at
once. Receive tasks are left out, and mixing is taken to return, as it does where arithmetic wraps.
-/

namespace Sip3.ConferenceMixers

open Text Semantics AList Option List

/-- How far `run_mixer_loop` is: on its way to the next tick, past a tick at which it had nothing
to mix, or ended. -/
inductive Progress where
  | ticking
  | returning
  | ended
  deriving DecidableEq

/-- A mixer task, and whether it was aborted. An aborted task runs until it next waits. -/
structure MixerTask where
  room : Nat
  progress : Progress
  aborted : Bool
  deriving DecidableEq

/-- The operation that holds the lock: it closes a room that was left if it is empty, or aborts the
mixer tasks of the rooms that were drained. -/
inductive Holder where
  | leaving (room : Nat)
  | draining

/-- The rooms in the map, the mixer task of each room (in the map or taken out of it by the
operation that holds the lock), all mixer tasks that were started, and who holds the lock. -/
structure State where
  rooms : AList fun _ : Nat => Room
  mixers : AList fun _ : Nat => Nat
  tasks : List MixerTask
  holder : Option Holder

/-- An operation takes the lock, or the one that kept it goes on; a mixer task looks at its room
at a tick, or ends. -/
inductive Event where
  | join (room : Nat) (callId : CallId) (participant : Participant)
  | leave (room : Nat) (callId : CallId)
  | shutdownAll
  | proceed
  | tick (id : Nat)
  | finish (id : Nat)

/-- `JoinHandle::abort` on a handle, if there is one. -/
def abort (tasks : List MixerTask) : Option Nat → List MixerTask
  | none => tasks
  | some id => tasks.modify id fun task => { task with aborted := true }

namespace State

/-- No rooms. -/
def initial : State := ⟨∅, ∅, [], none⟩

variable (state : State)

/-- `join` under the lock: a room without a mixer task gets one. -/
def join (room : Nat) (callId : CallId) (participant : Participant) : State :=
  let rooms := (RoomOp.join room callId participant).next state.rooms
  match state.mixers.lookup room with
  | some _ => { state with rooms }
  | none =>
    { state with
      rooms
      mixers := state.mixers.insert room state.tasks.length
      tasks := state.tasks ++ [⟨room, .ticking, false⟩] }

/-- `leave` until it waits: the participant is removed, unless the room is not there. -/
def leave (room : Nat) (callId : CallId) : State :=
  if room ∈ state.rooms then
    { state with
      rooms := (RoomOp.leave room callId).next state.rooms
      holder := some (.leaving room) }
  else state

/-- The mixer task of a room that is gone is aborted. -/
def close (room : Nat) : State :=
  { state with
    mixers := state.mixers.erase room
    tasks := abort state.tasks (state.mixers.lookup room) }

/-- The next step of the operation that holds the lock. -/
def advance : Holder → State
  | .leaving room =>
    { (if room ∈ state.rooms then state else state.close room) with holder := none }
  | .draining =>
    match state.mixers.entries with
    | ⟨room, _⟩ :: _ => state.close room
    | [] => { state with holder := none }

/-- What a mixer task finds at a tick: it goes on while its room has participants. -/
def observed (room : Nat) : Progress :=
  if (members state.rooms room).entries = [] then .returning else .ticking

/-- One step. Only an operation or a mixer task that finds the lock free takes it; the look of a
mixer task is one step, since it does not wait in between. -/
def step : Event → Option State
  | .join room callId participant =>
    if state.holder.isNone then some (state.join room callId participant) else none
  | .leave room callId => if state.holder.isNone then some (state.leave room callId) else none
  | .shutdownAll =>
    if state.holder.isNone then some { state with rooms := ∅, holder := some .draining } else none
  | .proceed => state.holder.map state.advance
  | .tick id =>
    match state.holder, state.tasks[id]? with
    | none, some ⟨room, .ticking, aborted⟩ =>
      some { state with tasks := state.tasks.set id ⟨room, state.observed room, aborted⟩ }
    | _, _ => none
  | .finish id =>
    match state.tasks[id]? with
    | some ⟨room, progress, aborted⟩ =>
      if progress = .returning ∨ aborted = true then
        some { state with tasks := state.tasks.set id ⟨room, .ended, aborted⟩ }
      else none
    | none => none

end State

theorem getElem?_abort (tasks : List MixerTask) (handle : Option Nat) (id : Nat) :
    (abort tasks handle)[id]? = tasks[id]?.map fun task =>
      if handle = some id then { task with aborted := true } else task := by
  cases handle with
  | none => simp [abort]
  | some target => simp [abort, getElem?_modify]

/-- A task that is not aborted was not either before a handle was aborted, and has another
handle. -/
theorem of_getElem?_abort {tasks : List MixerTask} {handle : Option Nat} {id : Nat}
    {task : MixerTask} (there : (abort tasks handle)[id]? = some task)
    (running : task.aborted = false) : tasks[id]? = some task ∧ handle ≠ some id := by
  rw [getElem?_abort] at there
  obtain ⟨before, found, same⟩ := map_eq_some_iff.mp there
  by_cases target : handle = some id
  · rw [if_pos target] at same
    subst same
    cases running
  · rw [if_neg target] at same
    exact ⟨same ▸ found, target⟩

/-- The mixer tasks that were not aborted are those of the rooms that have one: the handle of a room
is that of such a task of its own, and every such task ticks and is that of its room. -/
structure Accounted (mixers : AList fun _ : Nat => Nat) (tasks : List MixerTask) : Prop where
  handle : ∀ {room id}, mixers.lookup room = some id →
    ∃ task, tasks[id]? = some task ∧ task.room = room ∧ task.aborted = false
  running : ∀ {id : Nat} {task : MixerTask}, tasks[id]? = some task → task.aborted = false →
    task.progress = .ticking ∧ mixers.lookup task.room = some id

namespace Accounted

variable {mixers : AList fun _ : Nat => Nat} {tasks : List MixerTask} {room : Nat}

variable (accounted : Accounted mixers tasks)

include accounted

/-- A room without a mixer task gets one. -/
theorem spawn (unmixed : mixers.lookup room = none) :
    Accounted (mixers.insert room tasks.length) (tasks ++ [⟨room, .ticking, false⟩]) := by
  constructor
  case handle =>
    intro other id mixer
    by_cases here : other = room
    · rw [here, lookup_insert] at mixer
      cases mixer
      exact ⟨_, getElem?_concat_length, here.symm, rfl⟩
    · rw [lookup_insert_ne here] at mixer
      obtain ⟨task, there, rest⟩ := accounted.handle mixer
      obtain ⟨inside, -⟩ := List.getElem?_eq_some_iff.mp there
      exact ⟨task, (List.getElem?_append_left inside).trans there, rest⟩
  case running =>
    intro id task there running
    rw [getElem?_append] at there
    split at there
    · obtain ⟨ticking, owner⟩ := accounted.running there running
      have away : task.room ≠ room := by
        rintro rfl
        cases unmixed.symm.trans owner
      exact ⟨ticking, (lookup_insert_ne away).trans owner⟩
    · next outside =>
      obtain ⟨first, same⟩ := ite_none_right_eq_some.mp (getElem?_singleton ▸ there)
      cases same
      have last : id = tasks.length := by omega
      exact ⟨rfl, last ▸ lookup_insert _⟩

/-- The mixer task of a room is aborted. No other room has its handle, since the task is one of
this room. -/
theorem close (room : Nat) : Accounted (mixers.erase room) (abort tasks (mixers.lookup room)) := by
  constructor
  case handle =>
    intro other id mixer
    have away : other ≠ room := by
      rintro rfl
      cases (lookup_erase _ _).symm.trans mixer
    rw [lookup_erase_ne away] at mixer
    obtain ⟨task, there, sameRoom, running⟩ := accounted.handle mixer
    have kept : mixers.lookup room ≠ some id := by
      intro target
      obtain ⟨closed, also, itsRoom, -⟩ := accounted.handle target
      cases there.symm.trans also
      exact away (sameRoom.symm.trans itsRoom)
    exact ⟨task, by rw [getElem?_abort, there, map_some, if_neg kept], sameRoom, running⟩
  case running =>
    intro id task there running
    obtain ⟨earlier, kept⟩ := of_getElem?_abort there running
    obtain ⟨ticking, owner⟩ := accounted.running earlier running
    have away : task.room ≠ room := fun here => kept (here ▸ owner)
    exact ⟨ticking, (lookup_erase_ne away).trans owner⟩

/-- A mixer task goes on, or ends after it was aborted. -/
theorem retask {id : Nat} {before progress : Progress} {aborted : Bool}
    (there : tasks[id]? = some ⟨room, before, aborted⟩)
    (ticking : aborted = false → progress = .ticking) :
    Accounted mixers (tasks.set id ⟨room, progress, aborted⟩) := by
  obtain ⟨inside, -⟩ := List.getElem?_eq_some_iff.mp there
  constructor
  case handle =>
    intro other target mixer
    obtain ⟨task, found, sameRoom, running⟩ := accounted.handle mixer
    by_cases here : id = target
    · subst here
      cases there.symm.trans found
      exact ⟨_, getElem?_set_self inside, sameRoom, running⟩
    · exact ⟨task, (getElem?_set_ne here).trans found, sameRoom, running⟩
  case running =>
    intro target task found running
    by_cases here : id = target
    · subst here
      rw [getElem?_set_self inside] at found
      cases found
      exact ⟨ticking running, (accounted.running there running).2⟩
    · exact accounted.running ((getElem?_set_ne here).symm.trans found) running

end Accounted

/-- What holds at every step. A mixer task whose room is gone is still to be aborted by the
operation that holds the lock. -/
structure Consistent (state : State) : Prop where
  accounted : Accounted state.mixers state.tasks
  filled : ∀ {room}, room ∈ state.rooms → (members state.rooms room).entries ≠ []
  mixed : ∀ {room}, room ∈ state.rooms → room ∈ state.mixers
  owed : ∀ {room}, room ∈ state.mixers →
    room ∈ state.rooms ∨ state.holder = some (.leaving room) ∨ state.holder = some .draining
  drained : state.holder = some .draining → state.rooms = ∅

namespace Consistent

variable {state after : State} {room : Nat}

theorem initial : Consistent .initial where
  accounted := ⟨by simp [State.initial], by simp [State.initial]⟩
  filled member := absurd member (notMem_empty _)
  mixed member := absurd member (notMem_empty _)
  owed member := absurd member (notMem_empty _)
  drained _ := rfl

variable (consistent : Consistent state)

include consistent

section

variable (free : state.holder = none)

include free

/-- While the lock is free, the rooms that have a mixer task are in the map. -/
theorem mem_rooms (member : room ∈ state.mixers) : room ∈ state.rooms :=
  (consistent.owed member).resolve_right (by simp [free])

/-- A room that has a mixer task is put into the map with its participants. -/
theorem replace {left : Room} (filled : left.entries ≠ []) {mixers : AList fun _ : Nat => Nat}
    {tasks : List MixerTask} (accounted : Accounted mixers tasks)
    (mixed : ∀ other, other ∈ mixers ↔ other = room ∨ other ∈ state.mixers)
    {holder : Option Holder} (kept : holder ≠ some .draining) :
    Consistent ⟨state.rooms.insert room left, mixers, tasks, holder⟩ := by
  refine ⟨accounted, ?_, ?_, ?_, fun draining => absurd draining kept⟩
  · intro other member
    rw [RoomOp.members_insert]
    split
    · exact filled
    · next away => exact consistent.filled (((mem_insert _).mp member).resolve_left away)
  · intro other member
    exact (mixed other).mpr (((mem_insert _).mp member).imp_right consistent.mixed)
  · intro other member
    exact .inl ((mem_insert _).mpr
      (((mixed other).mp member).imp_right (consistent.mem_rooms free)))

theorem join (callId : CallId) (participant : Participant) :
    Consistent (state.join room callId participant) := by
  have filled : ((members state.rooms room).insert callId participant).entries ≠ [] := by
    simp [entries_insert]
  simp only [State.join, RoomOp.next]
  split
  · next mixer =>
    have there : room ∈ state.mixers := lookup_isSome.mp (by rw [mixer]; rfl)
    refine consistent.replace free filled consistent.accounted ?_ (by simp [free])
    exact fun other => ⟨.inr, fun near => near.elim (· ▸ there) id⟩
  · next unmixed =>
    exact consistent.replace free filled (consistent.accounted.spawn unmixed)
      (fun _ => mem_insert _) (by simp [free])

theorem leave (callId : CallId) : Consistent (state.leave room callId) := by
  rw [State.leave]
  split
  · next there =>
    simp only [RoomOp.next]
    split
    · refine ⟨consistent.accounted, ?_, ?_, ?_, by simp⟩
      · intro other member
        obtain ⟨away, old⟩ := mem_erase.mp member
        rw [RoomOp.members_erase, if_neg away]
        exact consistent.filled old
      · intro other member
        exact consistent.mixed (mem_erase.mp member).2
      · intro other member
        by_cases here : other = room
        · exact .inr (.inl (by rw [here]))
        · exact .inl (mem_erase.mpr ⟨here, consistent.mem_rooms free member⟩)
    · next filled =>
      refine consistent.replace free filled consistent.accounted ?_ (by simp)
      exact fun other => ⟨.inr, fun near => near.elim (· ▸ consistent.mixed there) id⟩
  · exact consistent

end

theorem close (gone : room ∉ state.rooms) : Consistent (state.close room) where
  accounted := consistent.accounted.close room
  filled := consistent.filled
  mixed member := mem_erase.mpr
    ⟨fun here => gone (here ▸ member), consistent.mixed member⟩
  owed member := consistent.owed (mem_erase.mp member).2
  drained := consistent.drained

theorem release (settled : ∀ {room}, room ∈ state.mixers → room ∈ state.rooms) :
    Consistent { state with holder := none } :=
  { consistent with owed := fun member => .inl (settled member), drained := by simp }

theorem advance {holder : Holder} (held : state.holder = some holder) :
    Consistent (state.advance holder) := by
  cases holder with
  | leaving room =>
    have others : ∀ {other}, other ≠ room → other ∈ state.mixers → other ∈ state.rooms :=
      fun away member => (consistent.owed member).resolve_right (by simp [held, Ne.symm away])
    simp only [State.advance]
    split
    · next there =>
      refine consistent.release fun {other} member => ?_
      by_cases here : other = room
      · exact here ▸ there
      · exact others here member
    · next gone =>
      refine (consistent.close gone).release fun member => ?_
      obtain ⟨away, old⟩ := mem_erase.mp member
      exact others away old
  | draining =>
    have gone := consistent.drained held
    simp only [State.advance]
    split
    · exact consistent.close (by simp [gone])
    · next nothing =>
      have none_left : state.mixers = ∅ := ext nothing
      exact consistent.release fun member => by simp [none_left] at member

theorem step {event : Event} (taken : state.step event = some after) : Consistent after := by
  cases event with
  | join room callId participant =>
    obtain ⟨free, same⟩ := ite_none_right_eq_some.mp taken
    cases same
    exact consistent.join (isNone_iff_eq_none.mp free) callId participant
  | leave room callId =>
    obtain ⟨free, same⟩ := ite_none_right_eq_some.mp taken
    cases same
    exact consistent.leave (isNone_iff_eq_none.mp free) callId
  | shutdownAll =>
    obtain ⟨-, same⟩ := ite_none_right_eq_some.mp taken
    cases same
    exact ⟨consistent.accounted, fun member => absurd member (notMem_empty _),
      fun member => absurd member (notMem_empty _), fun _ => .inr (.inr rfl), fun _ => rfl⟩
  | proceed =>
    obtain ⟨holder, held, rfl⟩ := map_eq_some_iff.mp taken
    exact consistent.advance held
  | tick id =>
    simp only [State.step] at taken
    split at taken
    · next room aborted free found =>
      cases taken
      refine { consistent with accounted := consistent.accounted.retask found ?_ }
      -- the room of a task that was not aborted is in the map, since the lock is free
      rintro rfl
      obtain ⟨-, owner⟩ := consistent.accounted.running found rfl
      have member : room ∈ state.mixers := lookup_isSome.mp (by rw [owner]; rfl)
      exact if_neg (consistent.filled (consistent.mem_rooms free member))
    · cases taken
  | finish id =>
    simp only [State.step] at taken
    split at taken
    · next room progress aborted found =>
      obtain ⟨leaves, same⟩ := ite_none_right_eq_some.mp taken
      cases same
      refine { consistent with accounted := consistent.accounted.retask found ?_ }
      -- a task that was not aborted ticks, so that it is not this one
      rintro rfl
      have ticking : progress = .ticking := (consistent.accounted.running found rfl).1
      simp [ticking] at leaves
    · cases taken

end Consistent

/-- A mixer task of a room that was not aborted. -/
def Unaborted (state : State) (room id : Nat) : Prop :=
  ∃ task, state.tasks[id]? = some task ∧ task.room = room ∧ task.aborted = false

/-- Whenever the lock is free, every room has a participant and exactly one mixer task that was
not aborted. All those tasks are those of rooms that are there, and wait for their next tick. -/
theorem mixer_of_every_room {events : List Event} {state : State}
    (run : Trace State.step .initial events state) (free : state.holder = none) :
    (∀ {room participants}, state.rooms.lookup room = some participants →
      participants.entries ≠ [] ∧ ∃! id, Unaborted state room id) ∧
    ∀ {id : Nat} {task : MixerTask}, state.tasks[id]? = some task → task.aborted = false →
      task.progress = .ticking ∧ task.room ∈ state.rooms := by
  have consistent : Consistent state := run.invariant (fun taken held => held.step taken) .initial
  have accounted := consistent.accounted
  refine ⟨?_, ?_⟩
  · intro room participants found
    have member : room ∈ state.rooms := AList.lookup_isSome.mp (by rw [found]; rfl)
    have filled := consistent.filled member
    rw [members, found, Option.getD_some] at filled
    obtain ⟨id, mixer⟩ := Option.isSome_iff_exists.mp
      (AList.lookup_isSome.mpr (consistent.mixed member))
    refine ⟨filled, id, accounted.handle mixer, ?_⟩
    rintro other ⟨task, there, rfl, running⟩
    exact Option.some.inj ((accounted.running there running).2.symm.trans mixer)
  · intro id task found running
    obtain ⟨ticking, owner⟩ := accounted.running found running
    have member : task.room ∈ state.mixers := AList.lookup_isSome.mp (by rw [owner]; rfl)
    exact ⟨ticking, consistent.mem_rooms free member⟩

/-- A room is left by its last participant and joined again while its first mixer task ends. -/
def rejoined : List Event :=
  let participant : Participant := ⟨40000, .pcmu, 0, none, false, none⟩
  [.join 1 "a".toList participant, .join 1 "b".toList participant, .leave 1 "a".toList, .proceed,
    .tick 0, .leave 1 "b".toList, .proceed, .join 1 "a".toList participant, .finish 0]

theorem mixer_of_every_room_rejoined :
    ∃ state participants, playTrace State.step .initial rejoined = some state ∧
      state.holder = none ∧ state.rooms.lookup 1 = some participants ∧
      participants.entries ≠ [] ∧ ∃! id, Unaborted state 1 id := by
  have run : Trace State.step .initial rejoined _ := trace_of_playTrace rfl
  exact ⟨_, _, rfl, rfl, rfl, (mixer_of_every_room run rfl).1 rfl⟩

end Sip3.ConferenceMixers
