import Sip3.Semantics.Pool

/-!
# Computed runs

A schedule says which task acts next and how its environment answers. Running a
schedule computes the configuration it leads to, and `Config.playUnder_steps` says that
this configuration is reached by steps of the pool.
-/

namespace Sip3.Semantics.System

variable {sig : Signature} (sys : System sig)

/-- A choice of one outcome for each request. -/
structure Resolver where
  resolve : sys.Shared → (op : sig.Op) → Option (sig.Answer op × sys.Shared)
  sound : ∀ {shared op answer after}, resolve shared op = some (answer, after) →
    sys.Perform shared op answer after

/-- A task arrives, or a thread makes up to a number of requests. -/
inductive Turn where
  | arrive (task : sys.Task)
  | act (index count : Nat) (resolver : sys.Resolver)

variable {sys}

/-- A test of the requests a schedule makes. -/
abbrev Permit (sys : System sig) := sys.Shared → List sys.Event → sys.Event → Bool

/-- Let one thread make up to a number of requests that pass a test. -/
def Config.advance (permit : Permit sys) (resolver : sys.Resolver) (index : Nat) :
    Nat → sys.Config → Option sys.Config
  | 0, config => some config
  | count + 1, config =>
    match config.threads[index]? with
    | none => none
    | some ⟨_, .done _⟩ => some config
    | some ⟨task, .request op next⟩ =>
      match resolver.resolve config.shared op with
      | none => none
      | some (answer, after) =>
        if permit config.shared config.events ⟨task, op, answer⟩ then
          Config.advance permit resolver index count
            ⟨after, config.events ++ [⟨task, op, answer⟩],
              config.threads.set index ⟨task, next answer⟩ ++ children op⟩
        else none

/-- Play one turn. -/
def Config.turn (permit : Permit sys) (config : sys.Config) : sys.Turn → Option sys.Config
  | .arrive task => some ⟨config.shared, config.events, config.threads ++ [launch task]⟩
  | .act index count resolver => config.advance permit resolver index count

/-- Play a schedule whose requests pass a test. -/
def Config.playUnder (permit : Permit sys) (config : sys.Config) :
    List sys.Turn → Option sys.Config
  | [] => some config
  | turn :: rest => (config.turn permit turn).bind fun next => next.playUnder permit rest

/-- Play a schedule. -/
def Config.play (config : sys.Config) (turns : List sys.Turn) : Option sys.Config :=
  config.playUnder (fun _ _ _ => true) turns

section Steps

variable {rule : Discipline sys} {permit : Permit sys} {resolver : sys.Resolver}
  {config final : sys.Config}

/-- A resolved request is a step of the pool. -/
theorem Step.of_resolve {config : sys.Config} {index : Nat} {task : sys.Task} {op : sig.Op}
    {next : sig.Answer op → Program sig Unit} {answer : sig.Answer op} {after : sys.Shared}
    (found : config.threads[index]? = some ⟨task, .request op next⟩)
    (resolved : resolver.resolve config.shared op = some (answer, after))
    (allowed : rule.Allows config.shared config.events ⟨task, op, answer⟩) :
    Step rule config ⟨after, config.events ++ [⟨task, op, answer⟩],
      config.threads.set index ⟨task, next answer⟩ ++ children op⟩ := by
  obtain ⟨inside, here⟩ := List.getElem?_eq_some_iff.mp found
  have shape : config.threads = config.threads.take index ++
      ⟨task, .request op next⟩ :: config.threads.drop (index + 1) := by
    rw [← here, List.getElem_cons_drop, List.take_append_drop]
  have performed : Step rule
      ⟨config.shared, config.events, config.threads.take index ++
        ⟨task, .request op next⟩ :: config.threads.drop (index + 1)⟩ _ :=
    .act (resolver.sound resolved) allowed
  rw [← shape] at performed
  rwa [List.set_eq_take_append_cons_drop, if_pos inside]

variable (allows : ∀ shared events event, permit shared events event = true →
  rule.Allows shared events event)

include allows

/-- Advancing a thread is a run of the pool. -/
theorem Config.advance_steps {index count : Nat}
    (played : config.advance permit resolver index count = some final) :
    Steps rule config final := by
  induction count generalizing config with
  | zero =>
    cases played
    exact .refl
  | succ count ih =>
    unfold Config.advance at played
    split at played
    · cases played
    · cases played
      exact .refl
    · next found =>
        split at played
        · cases played
        · next resolved =>
            split at played
            · next permitted =>
                exact (Steps.refl.step (.of_resolve found resolved
                  (allows _ _ _ permitted))).trans (ih played)
            · cases played

/-- The configuration a schedule leads to is reached in a run, if its arrivals are
admitted. -/
theorem Config.playUnder_steps {turns : List sys.Turn}
    (admits : ∀ task, .arrive task ∈ turns → rule.Admits task)
    (played : config.playUnder permit turns = some final) : Steps rule config final := by
  induction turns generalizing config with
  | nil =>
    cases played
    exact .refl
  | cons turn rest ih =>
    obtain ⟨middle, first, remaining⟩ := Option.bind_eq_some_iff.mp played
    have later := ih (fun task member => admits task (.tail _ member)) remaining
    cases turn with
    | arrive task =>
      cases first
      exact (Steps.refl.step (.arrive task (admits task (.head _)))).trans later
    | act index count resolver => exact (Config.advance_steps allows first).trans later

end Steps

/-- A schedule that leads to a configuration with a computed property shows a run that
reaches one. -/
theorem Config.exists_steps_of_play {rule : Discipline sys} (allows : ∀ shared events event,
      rule.Allows shared events event) {turns : List sys.Turn}
    (admits : ∀ task, .arrive task ∈ turns → rule.Admits task)
    {config : sys.Config} {check : sys.Config → Bool}
    (computed : (config.play turns).any check = true) :
    ∃ final, Steps rule config final ∧ check final = true := by
  obtain ⟨final, played, checked⟩ := (Option.any_eq_true _ _).mp computed
  exact ⟨final, Config.playUnder_steps (fun _ _ _ _ => allows _ _ _) admits played, checked⟩

/-- The execution of one program with the chosen outcomes: its requests, the state it ends
in, and its value. -/
def Resolver.run {α : Type} (resolver : sys.Resolver) :
    sys.Shared → Program sig α → Option (List (Occurrence sig) × sys.Shared × α)
  | shared, .done value => some ([], shared, value)
  | shared, .request op next =>
    match resolver.resolve shared op with
    | none => none
    | some (answer, after) =>
      (resolver.run after (next answer)).map fun (rest, outcome) =>
        (⟨op, answer⟩ :: rest, outcome)

variable {α : Type} {resolver : sys.Resolver} {program : Program sig α}

/-- A computed execution is an execution. -/
theorem Resolver.exec_of_run {shared final : sys.Shared} {occurrences : List (Occurrence sig)}
    {value : α} (computed : resolver.run shared program = some (occurrences, final, value)) :
    sys.Exec shared program occurrences final value := by
  induction program generalizing shared occurrences with
  | done returned =>
    obtain ⟨rfl, rfl, rfl⟩ := by simpa [Resolver.run] using computed
    exact .done
  | request op next ih =>
    unfold Resolver.run at computed
    split at computed
    · cases computed
    · next answer after resolved =>
        obtain ⟨⟨rest, outcome⟩, again, same⟩ := Option.map_eq_some_iff.mp computed
        cases same
        exact .request (resolver.sound resolved) (ih answer again)

/-- A test of a computed execution shows an execution that passes it. -/
theorem Resolver.exists_exec {shared : sys.Shared}
    {check : List (Occurrence sig) × sys.Shared × α → Bool}
    (computed : (resolver.run shared program).any check = true) :
    ∃ occurrences final value, sys.Exec shared program occurrences final value ∧
      check (occurrences, final, value) = true := by
  obtain ⟨⟨occurrences, final, value⟩, found, checked⟩ := (Option.any_eq_true _ _).mp computed
  exact ⟨occurrences, final, value, Resolver.exec_of_run found, checked⟩

end Sip3.Semantics.System
