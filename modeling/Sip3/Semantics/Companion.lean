import Sip3.Semantics.Ensures
import Sip3.Semantics.Schedule

/-!
# Systems with a companion

Some of what a request touches is not part of the shared state: rows of a database, files,
background tasks. A companion says how each answered request moves such a thing, and with
that which answers are possible. `System.along` runs a system together with a companion, and
`System.under` keeps the steps that meet a condition; executions of both are executions of
the system itself.
-/

namespace Sip3.Semantics

/-- A state that moves with the answered requests. -/
structure Companion (sig : Signature) where
  State : Type
  Moves : State → (op : sig.Op) → sig.Answer op → State → Prop

namespace System

variable {sig : Signature} {sys : System sig} {α : Type}

/-- A system together with a companion. -/
abbrev along (sys : System sig) (companion : Companion sig) : System sig where
  Shared := sys.Shared × companion.State
  Task := sys.Task
  body := sys.body
  Perform shared op answer after :=
    sys.Perform shared.1 op answer after.1 ∧ companion.Moves shared.2 op answer after.2
  spawned := sys.spawned

/-- The steps of a system that meet a condition on the state before them. -/
abbrev under (sys : System sig) (Permits : sys.Shared → (op : sig.Op) → sig.Answer op → Prop) :
    System sig where
  Shared := sys.Shared
  Task := sys.Task
  body := sys.body
  Perform shared op answer after := sys.Perform shared op answer after ∧ Permits shared op answer
  spawned := sys.spawned

/-- Outcomes of a system, with the move of the companion if it permits the answer. -/
def Resolver.along (resolver : sys.Resolver) (companion : Companion sig)
    (move : companion.State → (op : sig.Op) → sig.Answer op → Option companion.State)
    (moves : ∀ {state op answer next}, move state op answer = some next →
      companion.Moves state op answer next) : (sys.along companion).Resolver where
  resolve shared op := (resolver.resolve shared.1 op).bind fun (answer, after) =>
    (move shared.2 op answer).map fun next => (answer, after, next)
  sound := by
    intro shared op answer after resolved
    obtain ⟨⟨found, next⟩, base, rest⟩ := Option.bind_eq_some_iff.mp resolved
    obtain ⟨moved, possible, same⟩ := Option.map_eq_some_iff.mp rest
    cases same
    exact ⟨resolver.sound base, moves possible⟩

/-- Outcomes that pass a test. -/
def Resolver.under (resolver : sys.Resolver)
    {Permits : sys.Shared → (op : sig.Op) → sig.Answer op → Prop}
    (permit : sys.Shared → (op : sig.Op) → sig.Answer op → Bool)
    (permits : ∀ {shared op answer}, permit shared op answer = true → Permits shared op answer) :
    (sys.under Permits).Resolver where
  resolve shared op := (resolver.resolve shared op).filter fun (answer, _) =>
    permit shared op answer
  sound := by
    intro shared op answer after resolved
    obtain ⟨base, passed⟩ := Option.filter_eq_some_iff.mp resolved
    exact ⟨resolver.sound base, permits passed⟩

end System

end Sip3.Semantics
