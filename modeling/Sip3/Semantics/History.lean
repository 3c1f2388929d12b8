import Mathlib.Data.List.Basic

/-!
# Histories

A history grows at its end. `Throughout` says something about every event and the
events before it; it is true of a longer history when it was true before and the last
event satisfies it too.
-/

namespace Sip3.Semantics

variable {α : Type} {events front back : List α} {event last : α}

/-- A place in a history that has grown by one event is the new event, or a place it had
before. -/
theorem concat_eq_append_cons_iff : events ++ [last] = front ++ event :: back ↔
    (events = front ∧ last = event ∧ back = []) ∨
      ∃ rest, events = front ++ event :: rest ∧ back = rest ++ [last] := by
  constructor
  · intro split
    rcases List.eq_nil_or_concat back with rfl | ⟨rest, final, rfl⟩
    · obtain ⟨rfl, same⟩ := List.append_inj' split rfl
      exact .inl ⟨rfl, List.singleton_inj.mp same, rfl⟩
    · rw [List.concat_eq_append, ← List.cons_append, ← List.append_assoc] at split
      obtain ⟨rfl, same⟩ := List.append_inj' split rfl
      obtain rfl := List.singleton_inj.mp same
      exact .inr ⟨rest, rfl, List.concat_eq_append⟩
  · rintro (⟨rfl, rfl, rfl⟩ | ⟨rest, rfl, rfl⟩)
    · rfl
    · simp

/-- Every event satisfies a condition on the events before it. -/
def Throughout (Holds : List α → α → Prop) (events : List α) : Prop :=
  ∀ front event back, events = front ++ event :: back → Holds front event

variable {Holds : List α → α → Prop}

@[simp] theorem throughout_nil : Throughout Holds [] := by
  intro front event back split
  exact absurd split (by simp)

@[simp] theorem throughout_concat_iff :
    Throughout Holds (events ++ [last]) ↔ Throughout Holds events ∧ Holds events last := by
  constructor
  · intro throughout
    refine ⟨fun front event back split => throughout front event (back ++ [last]) ?_,
      throughout events last [] rfl⟩
    exact concat_eq_append_cons_iff.mpr (.inr ⟨back, split, rfl⟩)
  · rintro ⟨throughout, new⟩ front event back split
    obtain ⟨rfl, rfl, -⟩ | ⟨rest, earlier, -⟩ := concat_eq_append_cons_iff.mp split
    · exact new
    · exact throughout front event rest earlier

end Sip3.Semantics
