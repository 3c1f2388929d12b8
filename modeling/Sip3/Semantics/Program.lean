import Mathlib.Control.Monad.Basic

/-!
# Programs as sequences of atomic requests

A task of a concurrent server is a finite tree of requests to its environment.
Each request is one atomic step: one mutex-protected section, one send, one
query. What a request does is not said here; a `Program` only fixes the order
in which requests are made and how the rest depends on their answers.

Three ways of describing a program are used by the proofs. `Program.Uses` bounds
the requests it can ever make, whatever the answers are, and `Program.Returns` the
values it can return. `Program.Follows` walks the program through a graph of
control points, and says at which points it can stop. `Program.interpret` runs the
requests of a finer program as programs of a coarser one.
-/

namespace Sip3.Semantics

/-- The requests a program may make and the type of the answer to each. -/
structure Signature where
  Op : Type
  Answer : Op → Type

/-- A finite tree of requests. -/
inductive Program (sig : Signature) (α : Type) : Type where
  | done (value : α)
  | request (op : sig.Op) (next : sig.Answer op → Program sig α)

namespace Program

variable {sig : Signature} {α β : Type}

/-- Sequential composition. -/
def bind : Program sig α → (α → Program sig β) → Program sig β
  | .done value, next => next value
  | .request op rest, next => .request op fun answer => (rest answer).bind next

instance : Monad (Program sig) where
  pure := .done
  bind := .bind

/-- The program that makes one request and returns its answer. -/
def perform (op : sig.Op) : Program sig (sig.Answer op) :=
  .request op .done

@[simp] theorem pure_eq_done (value : α) : (pure value : Program sig α) = .done value := rfl

@[simp] theorem done_bind (value : α) (next : α → Program sig β) :
    (Program.done value >>= next) = next value := rfl

@[simp] theorem request_bind (op : sig.Op) (rest : sig.Answer op → Program sig α)
    (next : α → Program sig β) :
    (Program.request op rest >>= next) = .request op fun answer => rest answer >>= next := rfl

@[simp] theorem perform_bind (op : sig.Op) (next : sig.Answer op → Program sig α) :
    (perform op >>= next) = .request op next := rfl

/-- Binding with the terminal constructor changes nothing. -/
theorem bind_done (program : Program sig α) : (program >>= Program.done) = program := by
  induction program with
  | done value => rfl
  | request op rest ih =>
    rw [request_bind]
    exact congrArg (Program.request op) (funext ih)

/-- Sequential composition is associative. -/
theorem bind_assoc_program {γ : Type} (program : Program sig α) (first : α → Program sig β)
    (second : β → Program sig γ) :
    (program >>= first >>= second) = program >>= fun value => first value >>= second := by
  induction program with
  | done value => rfl
  | request op rest ih =>
    simp only [request_bind]
    exact congrArg (Program.request op) (funext ih)

instance : LawfulMonad (Program sig) :=
  LawfulMonad.mk' (Program sig) bind_done (fun _ _ => rfl) bind_assoc_program

section Interpret

variable {target : Signature}

/-- Run each request of a program as a program of another signature. -/
def interpret (handler : (op : sig.Op) → Program target (sig.Answer op)) :
    Program sig α → Program target α
  | .done value => .done value
  | .request op next => handler op >>= fun answer => (next answer).interpret handler

variable {handler : (op : sig.Op) → Program target (sig.Answer op)}

/-- Requests that stand one after the other are interpreted one after the other. -/
theorem interpret_bind (program : Program sig α) (next : α → Program sig β) :
    (program >>= next).interpret handler =
      program.interpret handler >>= fun value => (next value).interpret handler := by
  induction program with
  | done value => rfl
  | request op rest ih =>
    rw [request_bind, interpret, interpret, bind_assoc_program]
    exact congrArg _ (funext ih)

end Interpret

/-- Every request the program can make, whatever the answers, is allowed. -/
def Uses (allowed : sig.Op → Prop) : Program sig α → Prop
  | .done _ => True
  | .request op next => allowed op ∧ ∀ answer, (next answer).Uses allowed

section Uses

variable {allowed permitted : sig.Op → Prop}

@[simp] theorem uses_done (value : α) : (Program.done value : Program sig α).Uses allowed :=
  trivial

@[simp] theorem uses_pure (value : α) : (pure value : Program sig α).Uses allowed :=
  trivial

@[simp] theorem uses_request (op : sig.Op) (next : sig.Answer op → Program sig α) :
    (Program.request op next).Uses allowed ↔ allowed op ∧ ∀ answer, (next answer).Uses allowed :=
  Iff.rfl

variable {program : Program sig α}

/-- A composition makes the requests of both parts. -/
theorem Uses.bind {next : α → Program sig β} (first : program.Uses allowed)
    (second : ∀ value, (next value).Uses allowed) : (program >>= next).Uses allowed := by
  induction program with
  | done value => exact second value
  | request op rest ih => exact ⟨first.1, fun answer => ih answer (first.2 answer)⟩

/-- The first part of a composition makes no other requests. -/
theorem Uses.of_bind {next : α → Program sig β} (uses : (program >>= next).Uses allowed) :
    program.Uses allowed := by
  induction program with
  | done value => trivial
  | request op rest ih => exact ⟨uses.1, fun answer => ih answer (uses.2 answer)⟩

/-- A wider bound still holds. -/
theorem Uses.mono (uses : program.Uses allowed) (wider : ∀ op, allowed op → permitted op) :
    program.Uses permitted := by
  induction program with
  | done value => trivial
  | request op rest ih => exact ⟨wider op uses.1, fun answer => ih answer (uses.2 answer)⟩

end Uses

/-- Every value the program can return, whatever the answers, has the property. -/
def Returns (post : α → Prop) : Program sig α → Prop
  | .done value => post value
  | .request _ next => ∀ answer, (next answer).Returns post

section Returns

variable {post weaker : α → Prop} {program : Program sig α} {next : α → Program sig β}
  {result : β → Prop}

/-- A composition returns what its second part returns on the values of the first. -/
theorem Returns.bind (first : program.Returns post)
    (second : ∀ value, post value → (next value).Returns result) :
    (program >>= next).Returns result := by
  induction program with
  | done value => exact second value first
  | request op rest ih => exact fun answer => ih answer (first answer)

/-- Nothing need be known about the first part. -/
theorem Returns.then (second : ∀ value, (next value).Returns result) :
    (program >>= next).Returns result := by
  induction program with
  | done value => exact second value
  | request op rest ih => exact ih

/-- Answers to requests, each of which may depend on the answers before it. A request without
an answer never returns. -/
abbrev Responses (sig : Signature) :=
  List ((op : sig.Op) × sig.Answer op) → (op : sig.Op) → Option (sig.Answer op)

/-- The value a program returns with the given answers, or the request at which it stops. -/
def outcome (responses : Responses sig) :
    List ((op : sig.Op) × sig.Answer op) → Program sig α → Except sig.Op α
  | _, .done value => .ok value
  | past, .request op next =>
    match responses past op with
    | none => .error op
    | some answer => (next answer).outcome responses (past ++ [⟨op, answer⟩])

/-- A program with a property of its values returns such a value, unless one of its requests
never returns. -/
theorem Returns.outcome (returns : program.Returns post) (responses : Responses sig)
    (past : List ((op : sig.Op) × sig.Answer op)) :
    (∃ op before, program.outcome responses past = .error op ∧ responses before op = none) ∨
      ∃ value, program.outcome responses past = .ok value ∧ post value := by
  induction program generalizing past with
  | done value => exact .inr ⟨value, rfl, returns⟩
  | request op next ih =>
    cases answered : responses past op with
    | none =>
      refine .inl ⟨op, past, ?_, answered⟩
      simp only [Program.outcome, answered]
    | some answer =>
      have rest := ih answer (returns answer) (past ++ [⟨op, answer⟩])
      simpa only [Program.outcome, answered] using rest

end Returns

/-- A graph of control points: from a point, a request with its answer leads to
the next point. -/
abbrev Graph (sig : Signature) (Point : Type) :=
  Point → (op : sig.Op) → sig.Answer op → Point → Prop

/-- Started at a control point, the program makes only requests that have an edge
for every answer, and stops with a value and a point satisfying `exit`. -/
def Follows {Point : Type} (graph : Graph sig Point) :
    Program sig α → Point → (α → Point → Prop) → Prop
  | .done value, point, exit => exit value point
  | .request op next, point, exit =>
    ∀ answer, ∃ target, graph point op answer target ∧ (next answer).Follows graph target exit

section Follows

variable {Point : Type} {graph : Graph sig Point} {point : Point}

@[simp] theorem follows_done {value : α} {exit : α → Point → Prop} :
    (Program.done value : Program sig α).Follows graph point exit ↔ exit value point :=
  Iff.rfl

variable {program : Program sig α} {next : α → Program sig β} {exit : β → Point → Prop}

/-- A composition follows the graph when the second part takes over at every exit
of the first. -/
theorem Follows.bind {middle : α → Point → Prop} (first : program.Follows graph point middle)
    (second : ∀ value target, middle value target → (next value).Follows graph target exit) :
    (program >>= next).Follows graph point exit := by
  induction program generalizing point with
  | done value => exact second value point first
  | request op rest ih =>
    intro answer
    obtain ⟨target, edge, follows⟩ := first answer
    exact ⟨target, edge, ih answer follows⟩

/-- A weaker exit condition still holds. -/
theorem Follows.mono {exit weaker : α → Point → Prop} (follows : program.Follows graph point exit)
    (implies : ∀ value target, exit value target → weaker value target) :
    program.Follows graph point weaker := by
  induction program generalizing point with
  | done value => exact implies value point follows
  | request op rest ih =>
    intro answer
    obtain ⟨target, edge, rest⟩ := follows answer
    exact ⟨target, edge, ih answer rest⟩

/-- A program whose requests all loop at the current point stays there. -/
theorem Uses.follows {allowed : sig.Op → Prop} {exit : α → Point → Prop}
    (uses : program.Uses allowed)
    (loops : ∀ op, allowed op → ∀ answer, graph point op answer point)
    (stops : ∀ value, exit value point) : program.Follows graph point exit := by
  induction program with
  | done value => exact stops value
  | request op rest ih =>
    intro answer
    exact ⟨point, loops op uses.1 answer, ih answer (uses.2 answer)⟩

/-- A program that can only make requests that loop at a point, and then another one. -/
theorem Uses.follows_bind {allowed : sig.Op → Prop} (uses : program.Uses allowed)
    (loops : ∀ op, allowed op → ∀ answer, graph point op answer point)
    (rest : ∀ value, (next value).Follows graph point exit) :
    (program >>= next).Follows graph point exit := by
  have stays : program.Follows graph point fun _ target => target = point :=
    uses.follows loops fun _ => rfl
  exact stays.bind fun value target same => same ▸ rest value

end Follows

end Program

end Sip3.Semantics
