import Mathlib.Data.List.Induction
import Sip3.Semantics.History

/-!
# Bounds that are checked before they are used

A task finds that a size is below a limit, and raises the size later. What it has found is
of use as long as nobody raises the size in between. `Upheld` says what the checks in a
history are good for, and `Undisturbed` is what a task needs to rely on its last one.
-/

namespace Sip3.Semantics

variable {α : Type} {Checks Raises : α → Prop} {events : List α} {event : α} {Below After : Prop}

/-- After every check the size is below its limit, unless it was raised since. -/
def Upheld (Checks Raises : α → Prop) (events : List α) (Below : Prop) : Prop :=
  ∀ front check back, events = front ++ check :: back → Checks check →
    (∀ later ∈ back, ¬ Raises later) → Below

/-- The size was not raised since the last check. -/
def Undisturbed (Checks Raises : α → Prop) (events : List α) : Prop :=
  ∀ front check back, events = front ++ check :: back → Checks check →
    (∀ later ∈ back, ¬ Checks later) → ∀ later ∈ back, ¬ Raises later

theorem upheld_nil : Upheld Checks Raises [] Below := by
  intro front check back split
  exact absurd split (by simp)

/-- A step that does not raise the size keeps it below the limit, and a check finds it there. -/
theorem Upheld.step (upheld : Upheld Checks Raises events Below)
    (keeps : ¬ Raises event → Below → After) (finds : Checks event → After) :
    Upheld Checks Raises (events ++ [event]) After := by
  intro front check back split checks quiet
  obtain ⟨rfl, rfl, rfl⟩ | ⟨rest, earlier, rfl⟩ := concat_eq_append_cons_iff.mp split
  · exact finds checks
  · refine keeps (quiet event (List.mem_append_right _ (List.mem_singleton_self event))) ?_
    exact upheld front check rest earlier checks fun later member =>
      quiet later (List.mem_append_left _ member)

/-- A history with an event of some kind has a last one. -/
theorem exists_last_of_mem {Kind : α → Prop} (found : ∃ event ∈ events, Kind event) :
    ∃ front last back, events = front ++ last :: back ∧ Kind last ∧
      ∀ later ∈ back, ¬ Kind later := by
  classical
  induction events using List.reverseRecOn with
  | nil =>
    obtain ⟨_, member, -⟩ := found
    exact absurd member List.not_mem_nil
  | append_singleton events event ih =>
    by_cases last : Kind event
    · exact ⟨events, event, [], rfl, last, nofun⟩
    · have earlier : ∃ event ∈ events, Kind event := by
        obtain ⟨other, member, kind⟩ := found
        rcases List.mem_append.mp member with here | there
        · exact ⟨other, here, kind⟩
        · exact absurd (List.mem_singleton.mp there ▸ kind) last
      obtain ⟨front, final, back, rfl, kind, none⟩ := ih earlier
      refine ⟨front, final, back ++ [event], by simp, kind, fun later member => ?_⟩
      rcases List.mem_append.mp member with here | there
      · exact none later here
      · exact List.mem_singleton.mp there ▸ last

/-- Who has checked, and was not disturbed since, can rely on it. -/
theorem Upheld.below (upheld : Upheld Checks Raises events Below)
    (checked : ∃ check ∈ events, Checks check)
    (undisturbed : Undisturbed Checks Raises events) : Below := by
  obtain ⟨front, check, back, split, checks, last⟩ := exists_last_of_mem checked
  exact upheld front check back split checks (undisturbed front check back split checks last)

end Sip3.Semantics
