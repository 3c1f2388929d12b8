import Mathlib.Algebra.BigOperators.Group.List.Basic
import Mathlib.Algebra.Order.Group.Multiset
import Mathlib.Data.List.AList
import Sip3.Semantics.Pool

/-!
# Resources in the hands of tasks

A task takes resources, hands them over to the shared state, takes them out again and gives
them up. An account follows what each task holds along the requests it makes, and its balance
is a statement about the shared state and all that any task holds. A request keeps the balance
whatever the other tasks hold, so the balance holds along every run; once every task has
returned, nothing is held.
-/

namespace Sip3.Semantics

open List

namespace System

variable {sig : Signature} {Res : Type}

/-- What a task holds before and after a request, and what is true of the shared state and of all
that is held. -/
structure Account (sys : System sig) (rule : Discipline sys) (Res : Type) where
  moves : Program.Graph sig (Multiset Res)
  Balanced : sys.Shared → Multiset Res → Prop

namespace Account

variable {sys : System sig} {rule : Discipline sys}

/-- The obligations of an account: tasks start and return with empty hands, and one request keeps
the balance. -/
structure Valid (account : Account sys rule Res) : Prop where
  follows : ∀ task, (sys.body task).Follows account.moves 0 fun _ held => held = 0
  balances : ∀ {shared events task held op answer target after},
    account.moves held op answer target → sys.Perform shared op answer after →
    rule.Allows shared events ⟨task, op, answer⟩ → ∀ others,
    account.Balanced shared (held + others) → account.Balanced after (target + others)

/-- A thread that holds something, and will have given it up when it returns. -/
def Carries (account : Account sys rule Res) (carrier : sys.Thread × Multiset Res) : Prop :=
  carrier.1.program.Follows account.moves carrier.2 fun _ held => held = 0

/-- All that carriers hold. -/
def total (carriers : List (sys.Thread × Multiset Res)) : Multiset Res :=
  (carriers.map Prod.snd).sum

/-- Every thread carries something such that the account is balanced. -/
def Holds (account : Account sys rule Res) (config : sys.Config) : Prop :=
  ∃ carriers : List (sys.Thread × Multiset Res), config.threads = carriers.map Prod.fst ∧
    (∀ carrier ∈ carriers, account.Carries carrier) ∧
    account.Balanced config.shared (total carriers)

variable {account : Account sys rule Res}

theorem total_nil : total ([] : List (sys.Thread × Multiset Res)) = 0 := rfl

theorem total_append (first second : List (sys.Thread × Multiset Res)) :
    total (first ++ second) = total first + total second := by
  simp [total]

theorem total_cons (carrier : sys.Thread × Multiset Res)
    (carriers : List (sys.Thread × Multiset Res)) :
    total (carrier :: carriers) = carrier.2 + total carriers := by
  simp [total]

/-- Threads with empty hands. -/
theorem total_map_zero (threads : List sys.Thread) :
    total (threads.map fun thread => (thread, (0 : Multiset Res))) = 0 := by
  induction threads with
  | nil => rfl
  | cons thread threads ih => rw [map_cons, total_cons, ih, add_zero]

variable {tasks : List sys.Task} {config next : sys.Config}

theorem Valid.carries_launch (valid : account.Valid) :
    ∀ carrier ∈ (tasks.map launch).map fun thread => (thread, (0 : Multiset Res)),
      account.Carries carrier := by
  intro carrier member
  obtain ⟨thread, launched, rfl⟩ := mem_map.mp member
  obtain ⟨task, -, rfl⟩ := mem_map.mp launched
  exact valid.follows task

/-- Tasks that have not run yet hold nothing. -/
theorem Valid.holds_launch (valid : account.Valid) {shared : sys.Shared} {events : List sys.Event}
    (balanced : account.Balanced shared 0) : account.Holds ⟨shared, events, tasks.map launch⟩ := by
  refine ⟨(tasks.map launch).map fun thread => (thread, 0), ?_, valid.carries_launch, ?_⟩
  · simp [Function.comp_def]
  · rwa [total_map_zero]

/-- One step of the pool keeps the account. -/
theorem Valid.holds_of_step (valid : account.Valid) (holds : account.Holds config)
    (step : Step rule config next) : account.Holds next := by
  obtain ⟨carriers, shape, carries, balanced⟩ := holds
  cases step with
  | @arrive shared events threads task admitted =>
    refine ⟨carriers ++ [(launch task, 0)], ?_, ?_, ?_⟩
    · rw [map_append, ← shape]
      rfl
    · intro carrier member
      rcases mem_append.mp member with old | new
      · exact carries carrier old
      · rw [mem_singleton.mp new]
        exact valid.follows task
    · rwa [total_append, total_cons, total_nil, add_zero, add_zero]
  | @act shared after events front back task op rest answer performed allowed =>
    obtain ⟨left, others, rfl, leftShape, othersShape⟩ := map_eq_append_iff.mp shape.symm
    obtain ⟨⟨_, held⟩, right, rfl, rfl, rightShape⟩ := map_eq_cons_iff.mp othersShape
    have acting := carries (⟨task, .request op rest⟩, held) (by simp)
    obtain ⟨target, edge, follows⟩ := acting answer
    refine ⟨left ++ (⟨task, rest answer⟩, target) :: right ++
      (children op).map fun thread => (thread, 0), ?_, ?_, ?_⟩
    · simp [leftShape, rightShape, Function.comp_def]
    · intro carrier member
      rcases mem_append.mp member with present | started
      · rcases mem_append.mp present with inLeft | inRight
        · exact carries carrier (mem_append_left _ inLeft)
        · rcases mem_cons.mp inRight with rfl | inRight
          · exact follows
          · exact carries carrier (mem_append_right _ (mem_cons_of_mem _ inRight))
      · exact valid.carries_launch carrier started
    · have before : total (left ++ (⟨task, .request op rest⟩, held) :: right) =
          held + (total left + total right) := by
        rw [total_append, total_cons, add_left_comm]
      rw [before] at balanced
      rw [total_append, total_append, total_cons, total_map_zero, add_zero, add_left_comm]
      exact valid.balances edge performed allowed _ balanced

/-- The account is kept along every run. -/
theorem Valid.holds_of_steps (valid : account.Valid) (holds : account.Holds config)
    (steps : Steps rule config next) : account.Holds next := by
  induction steps with
  | refl => exact holds
  | step _ last ih => exact valid.holds_of_step ih last

/-- Nothing is held once every task has returned. -/
theorem Holds.balanced_of_returned {config : sys.Config} (holds : account.Holds config)
    (returned : ∀ thread ∈ config.threads, thread.returned = true) :
    account.Balanced config.shared 0 := by
  obtain ⟨carriers, shape, carries, balanced⟩ := holds
  have empty : ∀ held ∈ carriers.map Prod.snd, held = 0 := by
    intro held member
    obtain ⟨⟨thread, held⟩, present, rfl⟩ := mem_map.mp member
    have ended := returned thread (shape ▸ mem_map_of_mem present)
    have carried := carries _ present
    rw [Carries, Thread.eq_done ended] at carried
    exact carried
  rwa [total, sum_eq_zero empty] at balanced

end Account

end System

section Contents

variable {K V Res : Type} [DecidableEq K]

/-- What the entries of a map hold together. -/
def contents (holds : V → Multiset Res) (table : AList fun _ : K => V) : Multiset Res :=
  (table.entries.map fun entry => holds entry.2).sum

variable {holds : V → Multiset Res} {table : AList fun _ : K => V} {key : K} {value : V}

/-- A new entry adds what it holds. -/
theorem contents_insert (absent : table.lookup key = none) :
    contents holds (AList.insert key value table) = holds value + contents holds table := by
  have fresh : key ∉ table := AList.lookup_eq_none.mp absent
  rw [contents, AList.entries_insert_of_notMem fresh, map_cons, sum_cons]
  rfl

/-- Removing an absent key changes nothing. -/
theorem contents_erase_of_none (absent : table.lookup key = none) :
    contents holds (table.erase key) = contents holds table := by
  have fresh : key ∉ table.entries.keys := AList.lookup_eq_none.mp absent
  have same : (table.erase key).entries = table.entries := kerase_of_notMem_keys fresh
  rw [contents, same]
  rfl

/-- An entry that is removed takes out what it holds. -/
theorem contents_erase (present : table.lookup key = some value) :
    contents holds table = holds value + contents holds (table.erase key) := by
  have member : key ∈ table.entries.keys :=
    AList.lookup_isSome.mp (Option.isSome_of_eq_some present)
  obtain ⟨other, front, back, absent, shape, erased⟩ := exists_of_kerase member
  have same : value = other := by
    have found : table.lookup key = some other :=
      AList.mem_lookup_iff.mpr (shape ▸ mem_append_right _ mem_cons_self)
    exact Option.some.inj (present.symm.trans found)
  subst same
  have left : (table.erase key).entries = front ++ back := erased
  rw [contents, contents, left, shape]
  simp only [map_append, map_cons, sum_append, sum_cons]
  exact add_left_comm _ _ _

end Contents

end Sip3.Semantics
