import Mathlib.Data.Set.Insert
import Sip3.Semantics.History
import Sip3.Semantics.Pool

/-!
# What a task has learned

A request can be justified by answers that its own thread got before. The control points of
`memory` are a task with answers it remembers. A program that follows this graph makes
only justified requests, and `justified_of_steps` says so of every event of every run. Two threads
can run the same task; the answers of one of them are those on its way through the body.
-/

namespace Sip3.Semantics.System

open List

variable {sig : Signature} {sys : System sig} {rule : Discipline sys}

/-- A request justified by what its task remembers. Afterwards the task may have forgotten some
of it, and knows nothing but the new answer in addition. -/
def memory {Task : Type} (Justified : Task → Set (Occurrence sig) → sig.Op → Prop) :
    Program.Graph sig (Task × Set (Occurrence sig)) :=
  fun point op answer target =>
    Justified point.1 point.2 op ∧ target.1 = point.1 ∧ target.2 ⊆ insert ⟨op, answer⟩ point.2

section

variable {Task α : Type} {Justified : Task → Set (Occurrence sig) → sig.Op → Prop} {task : Task}
  {past : Set (Occurrence sig)}

/-- A justified request, of which the answer is remembered. -/
theorem follows_remembered {op : sig.Op} {next : sig.Answer op → Program sig α}
    {exit : α → Task × Set (Occurrence sig) → Prop} (justified : Justified task past op)
    (rest : ∀ answer,
      (next answer).Follows (memory Justified) (task, insert ⟨op, answer⟩ past) exit) :
    (Program.request op next).Follows (memory Justified) (task, past) exit :=
  fun answer => ⟨(task, insert ⟨op, answer⟩ past), ⟨justified, rfl, fun _ known => known⟩,
    rest answer⟩

end

/-- A program that is answered in this way, request after request, has still to run `rest`. -/
inductive Reaches (program : Program sig Unit) :
    List (Occurrence sig) → Program sig Unit → Prop where
  | start : Reaches program [] program
  | answered {own : List (Occurrence sig)} {op : sig.Op} {next : sig.Answer op → Program sig Unit}
      (reached : Reaches program own (.request op next)) (answer : sig.Answer op) :
      Reaches program (own ++ [⟨op, answer⟩]) (next answer)

/-- What a program that follows the graph remembers was among its answers. -/
theorem Reaches.follows {Task : Type} {Justified : Task → Set (Occurrence sig) → sig.Op → Prop}
    {task : Task} {program rest : Program sig Unit} {own : List (Occurrence sig)}
    {exit : Unit → Task × Set (Occurrence sig) → Prop} (reached : Reaches program own rest)
    (follows : program.Follows (memory Justified) (task, ∅) exit) :
    ∃ past ⊆ {asked | asked ∈ own}, rest.Follows (memory Justified) (task, past) exit := by
  induction reached with
  | start => exact ⟨∅, Set.empty_subset _, follows⟩
  | answered _ answer ih =>
    obtain ⟨past, known, onward⟩ := ih
    obtain ⟨⟨same, later⟩, ⟨-, rfl, grown⟩, rest⟩ := onward answer
    refine ⟨later, fun asked member => ?_, rest⟩
    rcases grown member with rfl | old
    · exact mem_append_right _ (mem_singleton_self _)
    · exact mem_append_left _ (known old)

/-- One thread of the task got these answers, in this order, and has still to run `program`. -/
def Learned (events : List sys.Event) (task : sys.Task) (program : Program sig Unit)
    (own : List (Occurrence sig)) : Prop :=
  Reaches (sys.body task) own program ∧
    (own.map fun asked => (⟨task, asked.op, asked.answer⟩ : sys.Event)).Sublist events

/-- Every thread of a run has got the answers on its way, and so had the thread of every event. -/
theorem learned_of_steps {shared : sys.Shared} {config : sys.Config}
    (steps : Steps rule ⟨shared, [], []⟩ config) :
    (∀ thread ∈ config.threads, ∃ own, Learned config.events thread.task thread.program own) ∧
      Throughout (fun front event =>
        ∃ own next, Learned front event.task (.request event.op next) own) config.events := by
  have launched : ∀ (events : List sys.Event) (task : sys.Task),
      ∃ own, Learned events (launch task).task (launch task).program own :=
    fun _ _ => ⟨[], .start, nil_sublist _⟩
  induction steps with
  | refl => exact ⟨fun _ member => absurd member not_mem_nil, throughout_nil⟩
  | step _ taken ih =>
    obtain ⟨threads, past⟩ := ih
    cases taken with
    | arrive task admitted =>
      refine ⟨fun thread member => ?_, past⟩
      rcases mem_append.mp member with old | new
      · exact threads thread old
      · obtain rfl := mem_singleton.mp new
        exact launched _ task
    | @act _ _ events before after task op next answer performed allowed =>
      obtain ⟨own, reached, got⟩ := threads ⟨task, .request op next⟩ (by simp)
      refine ⟨fun thread member => ?_, throughout_concat_iff.mpr ⟨past, own, next, reached, got⟩⟩
      have still (old : thread ∈ before ++ ⟨task, .request op next⟩ :: after) :
          ∃ own, Learned (events ++ [⟨task, op, answer⟩]) thread.task thread.program own := by
        obtain ⟨path, there, earlier⟩ := threads thread old
        exact ⟨path, there, earlier.trans (sublist_append_left _ _)⟩
      rcases mem_append.mp member with inside | child
      · rcases mem_append.mp inside with front | back
        · exact still (mem_append_left _ front)
        · rcases mem_cons.mp back with rfl | later
          · exact ⟨own ++ [⟨op, answer⟩], reached.answered answer, by simpa using got⟩
          · exact still (mem_append_right _ (.tail _ later))
      · obtain ⟨spawned, -, rfl⟩ := mem_map.mp child
        exact launched _ spawned

/-- When every task follows the graph, every event of a run is justified by the answers that its
own thread had got before. -/
theorem justified_of_steps (Justified : sys.Task → Set (Occurrence sig) → sig.Op → Prop)
    (mono : ∀ {task past more op}, Justified task past op → past ⊆ more → Justified task more op)
    (follows : ∀ task, (sys.body task).Follows (memory Justified) (task, ∅) fun _ _ => True)
    {shared : sys.Shared} {config : sys.Config} (steps : Steps rule ⟨shared, [], []⟩ config) :
    Throughout (fun front event => ∃ own next,
      Learned front event.task (.request event.op next) own ∧
        Justified event.task {asked | asked ∈ own} event.op) config.events := by
  intro front event back split
  obtain ⟨own, next, reached, got⟩ := (learned_of_steps steps).2 front event back split
  obtain ⟨past, known, onward⟩ := reached.follows (follows event.task)
  obtain ⟨_, ⟨justified, -⟩, -⟩ := onward event.answer
  exact ⟨own, next, ⟨reached, got⟩, mono justified known⟩

end Sip3.Semantics.System
