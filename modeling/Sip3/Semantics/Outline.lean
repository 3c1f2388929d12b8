import Sip3.Semantics.Pool

/-!
# Proof outlines for interleaved tasks

An outline places every thread of a pool at a control point of a graph and
attaches an assertion to each point. Its obligations are about one request at a
time: the acting thread reaches the assertion of its next point, every other
thread keeps its own, and a started or arriving task begins at a point whose
assertion holds. From these, `Valid.holds_of_steps` gives the assertions in
every configuration of every run.

`Apart` records which points two different threads may occupy together; it is
how an outline says that a task exists only once.
-/

namespace Sip3.Semantics

open List

namespace System

variable {sig : Signature}

/-- The annotations of an outline: where tasks start, where they may stop, what
is true of the shared state and the history, and what a thread may assume at
each control point. -/
structure Outline (sys : System sig) (rule : Discipline sys) (Point : Type) where
  graph : Program.Graph sig Point
  start : sys.Task → Point
  Covers : sys.Task → Prop
  Exits : sys.Task → Point → Prop
  Global : sys.Shared → List sys.Event → Prop
  Local : sys.Shared → List sys.Event → sys.Task → Point → Prop
  Apart : Point → Point → Prop

namespace Outline

variable {sys : System sig} {rule : Discipline sys} {Point : Type}

/-- One request of a thread that stands at `point` under the outline's assertions. -/
structure Move (outline : Outline sys rule Point) (shared : sys.Shared)
    (events : List sys.Event) (task : sys.Task) (point : Point) (op : sig.Op)
    (answer : sig.Answer op) (target : Point) (after : sys.Shared) : Prop where
  covered : outline.Covers task
  global : outline.Global shared events
  here : outline.Local shared events task point
  edge : outline.graph point op answer target
  performed : sys.Perform shared op answer after
  allowed : rule.Allows shared events ⟨task, op, answer⟩

/-- The obligations of an outline. -/
structure Valid (outline : Outline sys rule Point) : Prop where
  follows : ∀ task, outline.Covers task → (sys.body task).Follows outline.graph
    (outline.start task) fun _ point => outline.Exits task point
  apart_symm : ∀ {first second}, outline.Apart first second → outline.Apart second first
  arrives : ∀ {shared events task}, rule.Admits task → outline.Global shared events →
    outline.Covers task ∧ outline.Local shared events task (outline.start task)
  arrives_apart : ∀ {shared events task other place}, rule.Admits task →
    outline.Global shared events → outline.Local shared events other place →
    outline.Apart (outline.start task) place
  acts : ∀ {shared events task point op answer target after},
    outline.Move shared events task point op answer target after →
    outline.Global after (events ++ [⟨task, op, answer⟩]) ∧
      outline.Local after (events ++ [⟨task, op, answer⟩]) task target
  frames : ∀ {shared events task point op answer target after other place},
    outline.Move shared events task point op answer target after →
    outline.Local shared events other place → outline.Apart point place →
    outline.Local after (events ++ [⟨task, op, answer⟩]) other place
  separates : ∀ {shared events task point op answer target after other place},
    outline.Move shared events task point op answer target after →
    outline.Local shared events other place → outline.Apart point place →
    outline.Apart target place
  spawns : ∀ {shared events task point op answer target after child},
    outline.Move shared events task point op answer target after →
    sys.spawned op = some child → outline.Covers child ∧
      outline.Local after (events ++ [⟨task, op, answer⟩]) child (outline.start child)
  spawns_apart : ∀ {shared events task point op answer target after child place},
    outline.Move shared events task point op answer target after →
    sys.spawned op = some child →
    (∃ other, outline.Local shared events other place ∧ outline.Apart point place) ∨
      target = place → outline.Apart (outline.start child) place

variable (outline : Outline sys rule Point)

/-- A thread sits at a point: it follows the graph from there, and the assertion
of the point holds for it. -/
structure Sits (shared : sys.Shared) (events : List sys.Event)
    (placed : sys.Thread × Point) : Prop where
  covered : outline.Covers placed.1.task
  follows : placed.1.program.Follows outline.graph placed.2
    fun _ point => outline.Exits placed.1.task point
  here : outline.Local shared events placed.1.task placed.2

/-- The global assertion holds, and the threads can be placed at points that are
pairwise apart with every local assertion true. -/
structure Holds (config : sys.Config) : Prop where
  global : outline.Global config.shared config.events
  placed : ∃ placed : List (sys.Thread × Point), config.threads = placed.map Prod.fst ∧
    (∀ entry ∈ placed, outline.Sits config.shared config.events entry) ∧
    placed.Pairwise fun first second => outline.Apart first.2 second.2

variable {outline} {shared : sys.Shared} {events : List sys.Event} {task : sys.Task}
  {config next : sys.Config}

section

variable (valid : outline.Valid)

include valid

/-- Every task starts at its own point. -/
theorem Valid.sits_launch (covered : outline.Covers task)
    (here : outline.Local shared events task (outline.start task)) :
    outline.Sits shared events (launch task, outline.start task) :=
  ⟨covered, valid.follows task covered, here⟩

/-- A pool of tasks that have not run yet satisfies the outline when each of them
may start and they are pairwise apart. -/
theorem Valid.holds_launch {tasks : List sys.Task} (global : outline.Global shared events)
    (covered : ∀ task ∈ tasks, outline.Covers task)
    (here : ∀ task ∈ tasks, outline.Local shared events task (outline.start task))
    (apart : tasks.Pairwise fun first second =>
      outline.Apart (outline.start first) (outline.start second)) :
    outline.Holds ⟨shared, events, tasks.map launch⟩ := by
  refine ⟨global, tasks.map fun task => (launch task, outline.start task), ?_, ?_, ?_⟩
  · simp
  · intro entry member
    obtain ⟨task, present, rfl⟩ := mem_map.mp member
    exact valid.sits_launch (covered task present) (here task present)
  · exact pairwise_map.mpr apart

/-- An admitted task joins the pool at its start point. -/
theorem Valid.holds_arrive {threads : List sys.Thread} (admitted : rule.Admits task)
    (holds : outline.Holds ⟨shared, events, threads⟩) :
    outline.Holds ⟨shared, events, threads ++ [launch task]⟩ := by
  obtain ⟨global, placed, shape, sits, apart⟩ := holds
  obtain ⟨covered, here⟩ := valid.arrives admitted global
  refine ⟨global, placed ++ [(launch task, outline.start task)], ?_, ?_, ?_⟩
  · simpa using shape
  · intro entry member
    rcases mem_append.mp member with old | new
    · exact sits entry old
    · rw [mem_singleton.mp new]
      exact valid.sits_launch covered here
  · rw [pairwise_append]
    refine ⟨apart, pairwise_singleton _ _, ?_⟩
    intro first present second last
    rw [mem_singleton.mp last]
    exact valid.apart_symm (valid.arrives_apart admitted global (sits first present).here)

/-- One request of one thread keeps the outline. -/
theorem Valid.holds_act {shared after : sys.Shared} {front back : List sys.Thread} {op : sig.Op}
    {next : sig.Answer op → Program sig Unit} {answer : sig.Answer op}
    (performed : sys.Perform shared op answer after)
    (allowed : rule.Allows shared events ⟨task, op, answer⟩)
    (holds : outline.Holds ⟨shared, events, front ++ ⟨task, .request op next⟩ :: back⟩) :
    outline.Holds ⟨after, events ++ [⟨task, op, answer⟩],
      front ++ ⟨task, next answer⟩ :: back ++ children op⟩ := by
  obtain ⟨global, placed, shape, sits, apart⟩ := holds
  obtain ⟨left, rest, rfl, leftShape, restShape⟩ := map_eq_append_iff.mp shape.symm
  obtain ⟨⟨_, point⟩, right, rfl, rfl, rightShape⟩ := map_eq_cons_iff.mp restShape
  have acting := sits (⟨task, .request op next⟩, point) (by simp)
  obtain ⟨target, edge, follows⟩ := acting.follows answer
  have move : outline.Move shared events task point op answer target after :=
    ⟨acting.covered, global, acting.here, edge, performed, allowed⟩
  obtain ⟨globalAfter, hereAfter⟩ := valid.acts move
  simp only [pairwise_append, pairwise_cons, mem_cons] at apart
  obtain ⟨apartLeft, ⟨apartHead, apartRight⟩, apartAcross⟩ := apart
  -- The acting thread was apart from every other thread, on either side of it.
  have apartOther : ∀ entry, entry ∈ left ∨ entry ∈ right → outline.Apart point entry.2 := by
    rintro entry (member | member)
    · exact valid.apart_symm (apartAcross entry member _ (.inl rfl))
    · exact apartHead entry member
  have sitsBefore : ∀ entry, entry ∈ left ∨ entry ∈ right →
      outline.Sits shared events entry := by
    intro entry member
    refine sits entry ?_
    simp only [mem_append, mem_cons]
    rcases member with inLeft | inRight
    · exact .inl inLeft
    · exact .inr (.inr inRight)
  have sitsOther : ∀ entry, entry ∈ left ∨ entry ∈ right →
      outline.Sits after (events ++ [⟨task, op, answer⟩]) entry := by
    intro entry member
    have before := sitsBefore entry member
    exact ⟨before.covered, before.follows, valid.frames move before.here (apartOther entry member)⟩
  have apartTarget : ∀ entry, entry ∈ left ∨ entry ∈ right → outline.Apart target entry.2 :=
    fun entry member =>
      valid.separates move (sitsBefore entry member).here (apartOther entry member)
  let started : List (sys.Thread × Point) :=
    (sys.spawned op).toList.map fun child => (launch child, outline.start child)
  refine ⟨globalAfter, left ++ (⟨task, next answer⟩, target) :: right ++ started, ?_, ?_, ?_⟩
  · simp [started, children, leftShape, rightShape, Function.comp_def]
  · intro entry member
    simp only [mem_append, mem_cons, started, mem_map, Option.mem_toList] at member
    rcases member with (inLeft | rfl | inRight) | ⟨child, spawned, rfl⟩
    · exact sitsOther entry (.inl inLeft)
    · exact ⟨acting.covered, follows, hereAfter⟩
    · exact sitsOther entry (.inr inRight)
    · obtain ⟨covered, here⟩ := valid.spawns move spawned
      exact valid.sits_launch covered here
  · have startedApart : ∀ entry ∈ started, ∀ place,
        (∃ other, outline.Local shared events other place ∧ outline.Apart point place) ∨
          target = place → outline.Apart entry.2 place := by
      intro entry member place near
      obtain ⟨child, spawned, rfl⟩ := mem_map.mp member
      exact valid.spawns_apart move (Option.mem_toList.mp spawned) near
    have startedApartOther : ∀ entry ∈ started, ∀ old, old ∈ left ∨ old ∈ right →
        outline.Apart entry.2 old.2 := fun entry member old present =>
      startedApart entry member old.2
        (.inl ⟨_, (sitsBefore old present).here, apartOther old present⟩)
    rw [pairwise_append]
    refine ⟨?_, ?_, ?_⟩
    · rw [pairwise_append, pairwise_cons]
      refine ⟨apartLeft, ⟨fun entry member => apartTarget entry (.inr member), apartRight⟩, ?_⟩
      intro first firstIn second secondIn
      rcases mem_cons.mp secondIn with rfl | inRight
      · exact valid.apart_symm (apartTarget first (.inl firstIn))
      · exact apartAcross first firstIn second (.inr inRight)
    · cases child : sys.spawned op <;> simp [started, child]
    · intro first firstIn second secondIn
      refine valid.apart_symm ?_
      simp only [mem_append, mem_cons] at firstIn
      rcases firstIn with inLeft | rfl | inRight
      · exact startedApartOther second secondIn first (.inl inLeft)
      · exact startedApart second secondIn _ (.inr rfl)
      · exact startedApartOther second secondIn first (.inr inRight)

/-- One step of the pool keeps the outline. -/
theorem Valid.holds_of_step (holds : outline.Holds config) (step : Step rule config next) :
    outline.Holds next := by
  cases step with
  | arrive task admitted => exact valid.holds_arrive admitted holds
  | act performed allowed => exact valid.holds_act performed allowed holds

/-- The outline holds along every run. -/
theorem Valid.holds_of_steps (holds : outline.Holds config) (steps : Steps rule config next) :
    outline.Holds next := by
  induction steps with
  | refl => exact holds
  | step _ last ih => exact valid.holds_of_step ih last

end

/-- A thread that has returned stands at an exit point of its task, with the
assertion of that point. -/
theorem Holds.returned {config : sys.Config} (holds : outline.Holds config)
    (returned : (⟨task, .done ()⟩ : sys.Thread) ∈ config.threads) :
    ∃ point, outline.Exits task point ∧
      outline.Local config.shared config.events task point := by
  obtain ⟨placed, shape, sits, _⟩ := holds.placed
  rw [shape] at returned
  obtain ⟨⟨thread, point⟩, member, rfl⟩ := mem_map.mp returned
  have seat := sits _ member
  exact ⟨point, seat.follows, seat.here⟩

end Outline

/-- An assertion about the shared state and the history that every allowed request within the
bounds of its task keeps is true along every run. -/
theorem holds_of_task_uses {sys : System sig} {rule : Discipline sys}
    {allowed : sys.Task → sig.Op → Prop} {Covers : sys.Task → Prop}
    (Invariant : sys.Shared → List sys.Event → Prop)
    (uses : ∀ task, Covers task → (sys.body task).Uses (allowed task))
    (admits : ∀ task, rule.Admits task → Covers task)
    (spawns : ∀ task op, allowed task op → ∀ child, sys.spawned op = some child → Covers child)
    (keeps : ∀ {shared events task op answer after}, allowed task op →
      sys.Perform shared op answer after → rule.Allows shared events ⟨task, op, answer⟩ →
      Invariant shared events → Invariant after (events ++ [⟨task, op, answer⟩]))
    {shared : sys.Shared} {tasks : List sys.Task} {events : List sys.Event}
    (covered : ∀ task ∈ tasks, Covers task) (initially : Invariant shared events)
    {config : sys.Config} (steps : Steps rule ⟨shared, events, tasks.map launch⟩ config) :
    Invariant config.shared config.events := by
  -- One control point for each task is enough: every request of the task loops there.
  let outline : Outline sys rule sys.Task :=
    { graph := fun point op _ target => allowed point op ∧ target = point
      start := id
      Covers := Covers
      Exits := fun _ _ => True
      Global := Invariant
      Local := fun _ _ task point => point = task
      Apart := fun _ _ => True }
  have valid : outline.Valid :=
    { follows := fun task within =>
        (uses task within).follows (fun _ ok _ => ⟨ok, rfl⟩) fun _ => trivial
      apart_symm := fun _ => trivial
      arrives := fun admitted _ => ⟨admits _ admitted, rfl⟩
      arrives_apart := fun _ _ _ => trivial
      acts := fun move => by
        obtain ⟨bound, rfl⟩ := move.edge
        obtain rfl := move.here
        exact ⟨keeps bound move.performed move.allowed move.global, rfl⟩
      frames := fun _ there _ => there
      separates := fun _ _ _ => trivial
      spawns := fun move spawned => ⟨spawns _ _ move.edge.1 _ spawned, rfl⟩
      spawns_apart := fun _ _ _ => trivial }
  have start : outline.Holds ⟨shared, events, tasks.map launch⟩ :=
    valid.holds_launch initially covered (fun _ _ => rfl)
      (by simp [outline, pairwise_iff_forall_sublist])
  exact (valid.holds_of_steps start steps).global

/-- An assertion about the shared state that every request within the bounds of the tasks keeps
is true along every run. -/
theorem holds_of_uses {sys : System sig} {rule : Discipline sys} {allowed : sig.Op → Prop}
    {Covers : sys.Task → Prop} (Invariant : sys.Shared → Prop)
    (uses : ∀ task, Covers task → (sys.body task).Uses allowed)
    (admits : ∀ task, rule.Admits task → Covers task)
    (spawns : ∀ op, allowed op → ∀ child, sys.spawned op = some child → Covers child)
    (keeps : ∀ shared op answer after, allowed op → sys.Perform shared op answer after →
      Invariant shared → Invariant after)
    {shared : sys.Shared} {tasks : List sys.Task} {events : List sys.Event}
    (covered : ∀ task ∈ tasks, Covers task) (initially : Invariant shared)
    {config : sys.Config} (steps : Steps rule ⟨shared, events, tasks.map launch⟩ config) :
    Invariant config.shared :=
  holds_of_task_uses (fun shared _ => Invariant shared) uses admits (fun _ => spawns)
    (fun bound performed _ => keeps _ _ _ _ bound performed) covered initially steps

end System

end Sip3.Semantics
