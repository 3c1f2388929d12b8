import Mathlib.Data.List.Induction

/-!
# Traces of a partial step function

A machine takes events one after another; an event it cannot take ends no trace. A value
that every event either writes or leaves alone is the last one written, and what a machine
puts out was put out by one of its steps.
-/

namespace Sip3.Semantics

open List

variable {State Event : Type} {step : State → Event → Option State} {start state : State}
  {events : List Event}

/-- The events a machine took from a state on, and the state it is in after them. -/
inductive Trace (step : State → Event → Option State) (start : State) :
    List Event → State → Prop where
  | start : Trace step start [] start
  | step {events : List Event} {before after : State} {event : Event}
      (prior : Trace step start events before) (taken : step before event = some after) :
      Trace step start (events ++ [event]) after

/-- Taking events one by one. -/
def playTrace (step : State → Event → Option State) (start : State) (events : List Event) :
    Option State :=
  events.foldlM step start

theorem trace_of_playTrace (played : playTrace step start events = some state) :
    Trace step start events state := by
  induction events using reverseRecOn generalizing state with
  | nil =>
    cases played
    exact .start
  | append_singleton events event ih =>
    rw [playTrace, foldlM_append] at played
    obtain ⟨before, earlier, last⟩ := Option.bind_eq_some_iff.mp played
    simp only [foldlM_cons, foldlM_nil, bind_pure] at last
    exact .step (ih earlier) last

variable {Holds : State → Prop} {Allowed : State → Event → Prop}

/-- An invariant holds in every state of a trace. -/
theorem Trace.invariant (trace : Trace step start events state)
    (keeps : ∀ {before after event}, step before event = some after → Holds before → Holds after)
    (initially : Holds start) : Holds state := by
  induction trace with
  | start => exact initially
  | step prior taken ih => exact keeps taken ih

/-- Every step of a trace met a condition on the state before it. -/
def Trace.Meets (step : State → Event → Option State) (start : State) (events : List Event)
    (Allowed : State → Event → Prop) : Prop :=
  ∀ front event back before, events = front ++ event :: back → Trace step start front before →
    Allowed before event

theorem playTrace_of_trace (trace : Trace step start events state) :
    playTrace step start events = some state := by
  induction trace with
  | start => rfl
  | step prior taken ih =>
    rw [playTrace, foldlM_append]
    exact Option.bind_eq_some_iff.mpr ⟨_, ih, by simpa using taken⟩

/-- Taking events one by one, with a condition on each. -/
def playMeets (step : State → Event → Option State) (Allowed : State → Event → Prop)
    [∀ state event, Decidable (Allowed state event)] (start : State) : List Event → Bool
  | [] => true
  | event :: rest => decide (Allowed start event) &&
      (step start event).all fun next => playMeets step Allowed next rest

theorem meets_of_playMeets [∀ state event, Decidable (Allowed state event)]
    (met : playMeets step Allowed start events = true) : Trace.Meets step start events Allowed := by
  rintro front event back before rfl earlier
  have played := playTrace_of_trace earlier
  clear earlier
  induction front generalizing start with
  | nil =>
    cases played
    exact of_decide_eq_true (Bool.and_eq_true_iff.mp met).1
  | cons first front ih =>
    rw [playTrace, foldlM_cons] at played
    obtain ⟨next, taken, rest⟩ := Option.bind_eq_some_iff.mp played
    have onward := (Bool.and_eq_true_iff.mp met).2
    rw [taken] at onward
    exact ih onward rest

/-- An invariant that is kept by the steps that meet a condition. -/
theorem Trace.invariant_of (trace : Trace step start events state)
    (meets : Trace.Meets step start events Allowed)
    (keeps : ∀ {before after event}, step before event = some after → Allowed before event →
      Holds before → Holds after) (initially : Holds start) : Holds state := by
  induction trace with
  | start => exact initially
  | @step events before after event prior taken ih =>
    have allowed := meets events event [] before rfl prior
    refine keeps taken allowed (ih fun front early back state split earlier => ?_)
    apply meets front early (back ++ [event]) state _ earlier
    rw [split, append_assoc, cons_append]

/-- A value that every event writes or leaves alone is the last one written. -/
theorem Trace.lastWritten {Value : Type} {read : State → Option Value}
    {written : Event → Option Value} (trace : Trace step start events state)
    (writes : ∀ {before after event}, step before event = some after →
      read after = (written event).or (read before)) :
    read state = (events.filterMap written).getLast?.or (read start) := by
  induction trace with
  | start => rfl
  | @step events before after event prior taken ih =>
    rw [writes taken, ih, filterMap_append, getLast?_append]
    cases new : written event <;> simp [new]

/-- What a machine has put out was there at the start, or a step of the trace put it out. -/
theorem Trace.putOut {Output : Type} {outputs : State → List Output}
    {Emits : State → Output → Prop} (trace : Trace step start events state)
    (emits : ∀ {before after event}, step before event = some after →
      ∃ fresh, outputs after = outputs before ++ fresh ∧ ∀ output ∈ fresh, Emits before output)
    {output : Output} (member : output ∈ outputs state) :
    output ∈ outputs start ∨
      ∃ earlier before, earlier <+: events ∧ Trace step start earlier before ∧
        Emits before output := by
  induction trace with
  | start => exact .inl member
  | @step events before after event prior taken ih =>
    obtain ⟨fresh, grown, emitted⟩ := emits taken
    rw [grown] at member
    rcases mem_append.mp member with old | new
    · rcases ih old with initial | ⟨earlier, source, part, trace, emitted⟩
      · exact .inl initial
      · exact .inr ⟨earlier, source, part.trans (prefix_append _ _), trace, emitted⟩
    · exact .inr ⟨events, before, prefix_append _ _, prior, emitted output new⟩

end Sip3.Semantics
