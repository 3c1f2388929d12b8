import Sip3.Semantics.Program

/-!
# Pools of interleaved tasks

A `System` gives requests a meaning on a shared state and tells which requests
start a further task. A `Config` is the shared state, the history of requests
answered so far, and the tasks with what is left of each. A step either admits
a new task or lets one task make its next request. Finished tasks stay in the
pool, so that a property can speak about handlers that have returned.

`Exec` is the sequential reading of one program; `Exec.steps` places it in the
pool as the run in which only that task is scheduled.
-/

namespace Sip3.Semantics

/-- Requests with a meaning on a shared state. `Perform shared op answer shared'`
relates the state before, the answer, and the state after; an environment that
may answer in several ways is a relation with several answers. -/
structure System (sig : Signature) where
  Shared : Type
  Task : Type
  body : Task → Program sig Unit
  Perform : Shared → (op : sig.Op) → sig.Answer op → Shared → Prop
  spawned : sig.Op → Option Task

namespace System

variable {sig : Signature} (sys : System sig)

/-- A request together with its answer. -/
structure Occurrence (sig : Signature) where
  op : sig.Op
  answer : sig.Answer op

/-- An answered request of a task. -/
structure Event where
  task : sys.Task
  op : sig.Op
  answer : sig.Answer op

/-- A task and the program it has still to run. -/
structure Thread where
  task : sys.Task
  program : Program sig Unit

/-- The shared state, the answered requests in order, and the threads. -/
structure Config where
  shared : sys.Shared
  events : List sys.Event
  threads : List sys.Thread

variable {sys}

/-- Whether a thread has returned. -/
def Thread.returned (thread : sys.Thread) : Bool :=
  match thread.program with
  | .done _ => true
  | .request _ _ => false

theorem Thread.eq_done {thread : sys.Thread} (returned : thread.returned = true) :
    thread = ⟨thread.task, .done ()⟩ := by
  obtain ⟨task, program⟩ := thread
  cases program with
  | done value => rfl
  | request op next => cases returned

/-- The thread of a task that has not run yet. -/
def launch (task : sys.Task) : sys.Thread :=
  ⟨task, sys.body task⟩

/-- The threads a request adds to the pool. -/
def children (op : sig.Op) : List sys.Thread :=
  (sys.spawned op).toList.map launch

variable (sys)

/-- Which tasks may arrive, and which events may happen in which situation. -/
structure Discipline where
  Admits : sys.Task → Prop
  Allows : sys.Shared → List sys.Event → sys.Event → Prop

/-- Any event may happen, and the given tasks may arrive. -/
def Discipline.admitting (admits : sys.Task → Prop) : Discipline sys where
  Admits := admits
  Allows _ _ _ := True

/-- Any task may arrive and any event may happen. -/
def Discipline.free : Discipline sys :=
  .admitting sys fun _ => True

/-- No task arrives; any event may happen. -/
def Discipline.closed : Discipline sys :=
  .admitting sys fun _ => False

variable {sys}

/-- One step of the pool. -/
inductive Step (rule : Discipline sys) : sys.Config → sys.Config → Prop where
  | arrive {shared : sys.Shared} {events : List sys.Event} {threads : List sys.Thread}
      (task : sys.Task) (admitted : rule.Admits task) :
      Step rule ⟨shared, events, threads⟩ ⟨shared, events, threads ++ [launch task]⟩
  | act {shared shared' : sys.Shared} {events : List sys.Event} {before after : List sys.Thread}
      {task : sys.Task} {op : sig.Op} {next : sig.Answer op → Program sig Unit}
      {answer : sig.Answer op} (performed : sys.Perform shared op answer shared')
      (allowed : rule.Allows shared events ⟨task, op, answer⟩) :
      Step rule ⟨shared, events, before ++ ⟨task, .request op next⟩ :: after⟩
        ⟨shared', events ++ [⟨task, op, answer⟩],
          before ++ ⟨task, next answer⟩ :: after ++ children op⟩

/-- Finitely many steps of the pool. -/
inductive Steps (rule : Discipline sys) (origin : sys.Config) : sys.Config → Prop where
  | refl : Steps rule origin origin
  | step {config next : sys.Config} :
      Steps rule origin config → Step rule config next → Steps rule origin next

variable {rule : Discipline sys} {first last : sys.Config} {config next : sys.Config}

/-- Runs compose. -/
theorem Steps.trans {first second third : sys.Config} (front : Steps rule first second)
    (back : Steps rule second third) : Steps rule first third := by
  induction back with
  | refl => exact front
  | step _ last ih => exact ih.step last

/-- A run only adds to the history. -/
theorem Steps.events_append (steps : Steps rule first last) :
    ∃ later, last.events = first.events ++ later := by
  induction steps with
  | refl => exact ⟨[], (List.append_nil _).symm⟩
  | step _ taken ih =>
    obtain ⟨later, history⟩ := ih
    cases taken with
    | arrive task admitted => exact ⟨later, history⟩
    | act performed allowed => exact ⟨later ++ [_], by rw [← List.append_assoc, ← history]⟩

/-- An entry that no allowed request adds is absent at the end of a run exactly when it was
absent at its beginning or has been removed since. -/
theorem Steps.entry_eq_none_iff {β : Type} (entry : sys.Shared → Option β)
    (Removes : sig.Op → Prop)
    (clears : ∀ {shared op answer after}, sys.Perform shared op answer after → Removes op →
      entry after = none)
    (keeps : ∀ {shared events task op answer after}, sys.Perform shared op answer after →
      rule.Allows shared events ⟨task, op, answer⟩ → ¬ Removes op → entry after = entry shared)
    (steps : Steps rule first last) {later : List sys.Event}
    (history : last.events = first.events ++ later) :
    entry last.shared = none ↔ entry first.shared = none ∨ ∃ event ∈ later, Removes event.op := by
  induction steps generalizing later with
  | refl =>
    obtain rfl := List.self_eq_append_right.mp history
    simp
  | step steps taken ih =>
    cases taken with
    | arrive task admitted => exact ih history
    | @act _ _ events _ _ task op _ answer performed allowed =>
      obtain ⟨earlier, before⟩ := steps.events_append
      have whole : first.events ++ (earlier ++ [⟨task, op, answer⟩]) = first.events ++ later := by
        rw [← List.append_assoc, ← before]
        exact history
      obtain rfl := List.append_cancel_left whole
      by_cases removes : Removes op
      · refine iff_of_true (clears performed removes)
          (.inr ⟨⟨task, op, answer⟩, ?_, removes⟩)
        exact List.mem_append_right _ (List.mem_singleton_self _)
      · rw [keeps performed allowed removes, ih before]
        simp [removes, or_and_right, exists_or]

section

variable {rule weaker : Discipline sys} (admits : ∀ task, rule.Admits task → weaker.Admits task)
  (allows : ∀ shared events event, rule.Allows shared events event →
    weaker.Allows shared events event)

include admits allows

/-- A step allowed under one discipline is allowed under every weaker one. -/
theorem Step.mono (step : Step rule config next) : Step weaker config next := by
  cases step with
  | arrive task admitted => exact .arrive task (admits task admitted)
  | act performed allowed => exact .act performed (allows _ _ _ allowed)

/-- A run under one discipline is a run under every weaker one. -/
theorem Steps.mono (steps : Steps rule config next) : Steps weaker config next := by
  induction steps with
  | refl => exact .refl
  | step _ last ih => exact ih.step (last.mono admits allows)

end

/-- Sequential execution of one program: the occurrences in order, the state
after them, and the value returned. -/
inductive Exec (sys : System sig) {α : Type} :
    sys.Shared → Program sig α → List (Occurrence sig) → sys.Shared → α → Prop where
  | done {shared : sys.Shared} {value : α} : Exec sys shared (.done value) [] shared value
  | request {shared middle final : sys.Shared} {op : sig.Op} {answer : sig.Answer op}
      {next : sig.Answer op → Program sig α} {rest : List (Occurrence sig)} {value : α} :
      sys.Perform shared op answer middle → Exec sys middle (next answer) rest final value →
      Exec sys shared (.request op next) (⟨op, answer⟩ :: rest) final value

section Exec

variable {α β : Type} {shared final : sys.Shared} {occurrences : List (Occurrence sig)}

@[simp] theorem exec_done_iff {returned value : α} :
    sys.Exec shared (.done returned) occurrences final value ↔
      occurrences = [] ∧ final = shared ∧ value = returned := by
  constructor
  · intro execution
    cases execution
    exact ⟨rfl, rfl, rfl⟩
  · rintro ⟨rfl, rfl, rfl⟩
    exact .done

@[simp] theorem exec_request_iff {op : sig.Op} {next : sig.Answer op → Program sig α} {value : α} :
    sys.Exec shared (.request op next) occurrences final value ↔
      ∃ answer middle rest, occurrences = ⟨op, answer⟩ :: rest ∧
        sys.Perform shared op answer middle ∧ sys.Exec middle (next answer) rest final value := by
  constructor
  · intro execution
    cases execution with
    | request performed rest => exact ⟨_, _, _, rfl, performed, rest⟩
  · rintro ⟨answer, middle, rest, rfl, performed, execution⟩
    exact .request performed execution

/-- An execution that starts with one request. -/
theorem exec_perform_iff {op : sig.Op} {next : sig.Answer op → Program sig α} {value : α} :
    sys.Exec shared (Program.request op .done >>= next) occurrences final value ↔
      ∃ answer middle rest, occurrences = ⟨op, answer⟩ :: rest ∧
        sys.Perform shared op answer middle ∧ sys.Exec middle (next answer) rest final value :=
  exec_request_iff

/-- An execution of a composition is an execution of each part. -/
theorem exec_bind_iff {program : Program sig α} {next : α → Program sig β} {value : β} :
    sys.Exec shared (program >>= next) occurrences final value ↔
      ∃ first middle front back, occurrences = front ++ back ∧
        sys.Exec shared program front middle first ∧
        sys.Exec middle (next first) back final value := by
  induction program generalizing shared occurrences with
  | done returned =>
    simp only [Program.done_bind, exec_done_iff]
    constructor
    · intro execution
      exact ⟨returned, shared, [], occurrences, rfl, ⟨rfl, rfl, rfl⟩, execution⟩
    · rintro ⟨_, _, _, back, rfl, ⟨rfl, rfl, rfl⟩, execution⟩
      exact execution
  | request op rest ih =>
    simp only [Program.request_bind, exec_request_iff, ih]
    constructor
    · rintro ⟨answer, middle, tail, rfl, performed, first, reached, front, back, rfl, one, two⟩
      exact ⟨first, reached, ⟨op, answer⟩ :: front, back, rfl,
        ⟨answer, middle, front, rfl, performed, one⟩, two⟩
    · rintro ⟨first, reached, front, back, rfl, ⟨answer, middle, tail, rfl, performed, one⟩, two⟩
      exact ⟨answer, middle, tail ++ back, rfl, performed, first, reached, tail, back, rfl,
        one, two⟩

section Uses

variable {allowed : sig.Op → Prop} {program : Program sig α} {value : α}

/-- Where every request within the bounds of a program has an acceptable answer, the
program has an execution with such answers only. -/
theorem exec_exists (sys : System sig) (Accepts : Occurrence sig → Prop)
    (enabled : ∀ (shared : sys.Shared) (op : sig.Op), allowed op → ∃ answer after,
      sys.Perform shared op answer after ∧ Accepts ⟨op, answer⟩)
    (uses : program.Uses allowed) (shared : sys.Shared) :
    ∃ occurrences final value, sys.Exec shared program occurrences final value ∧
      ∀ occurrence ∈ occurrences, Accepts occurrence := by
  induction program generalizing shared with
  | done value => exact ⟨[], shared, value, .done, nofun⟩
  | request op next ih =>
    obtain ⟨answer, middle, performed, accepted⟩ := enabled shared op uses.1
    obtain ⟨rest, final, value, execution, all⟩ := ih answer (uses.2 answer) middle
    exact ⟨⟨op, answer⟩ :: rest, final, value, .request performed execution,
      List.forall_mem_cons.mpr ⟨accepted, all⟩⟩

/-- An execution stays within the bounds of its program. -/
theorem Exec.within (execution : sys.Exec shared program occurrences final value)
    (uses : program.Uses allowed) : ∀ occurrence ∈ occurrences, allowed occurrence.op := by
  induction execution with
  | done => exact nofun
  | request performed _ ih => exact List.forall_mem_cons.mpr ⟨uses.1, ih (uses.2 _)⟩

/-- An execution returns one of the values of its program. -/
theorem Exec.returned {post : α → Prop}
    (execution : sys.Exec shared program occurrences final value)
    (returns : program.Returns post) : post value := by
  induction execution with
  | done => exact returns
  | request _ _ ih => exact ih (returns _)

/-- What every request within the bounds of a program keeps is kept by its executions. -/
theorem Exec.invariant (Invariant : sys.Shared → Prop)
    (keeps : ∀ shared op answer after, allowed op → sys.Perform shared op answer after →
      Invariant shared → Invariant after)
    (execution : sys.Exec shared program occurrences final value)
    (uses : program.Uses allowed) (initially : Invariant shared) : Invariant final := by
  induction execution with
  | done => exact initially
  | request performed _ ih => exact ih (uses.2 _) (keeps _ _ _ _ uses.1 performed initially)

end Uses

end Exec

end System

end Sip3.Semantics
