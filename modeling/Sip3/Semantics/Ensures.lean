import Sip3.Semantics.Pool

/-!
# What every execution of a program ensures

`Ensures` is the postcondition of a program run on its own: it speaks about the
requests made, the state reached and the value returned, and it holds of every
outcome the environment may choose. The equations for the two program forms and
for composition let a proof follow the text of a program.
-/

namespace Sip3.Semantics.System

variable {sig : Signature} {sys : System sig} {α β : Type}

/-- Every execution of a program from a state ends as the postcondition says. -/
def Ensures (sys : System sig) (shared : sys.Shared) (program : Program sig α)
    (post : List (Occurrence sig) → sys.Shared → α → Prop) : Prop :=
  ∀ occurrences final value, sys.Exec shared program occurrences final value →
    post occurrences final value

variable {shared : sys.Shared} {post weaker : List (Occurrence sig) → sys.Shared → α → Prop}

@[simp] theorem ensures_done {value : α} :
    sys.Ensures shared (.done value) post ↔ post [] shared value := by
  constructor
  · intro ensures
    exact ensures [] shared value .done
  · intro holds occurrences final returned execution
    obtain ⟨rfl, rfl, rfl⟩ := exec_done_iff.mp execution
    exact holds

@[simp] theorem ensures_pure {value : α} :
    sys.Ensures shared (pure value) post ↔ post [] shared value :=
  ensures_done

/-- A request ensures what its continuation ensures after every outcome. -/
@[simp] theorem ensures_request {op : sig.Op} {next : sig.Answer op → Program sig α} :
    sys.Ensures shared (.request op next) post ↔
      ∀ answer after, sys.Perform shared op answer after →
        sys.Ensures after (next answer) fun rest => post (⟨op, answer⟩ :: rest) := by
  constructor
  · intro ensures answer after performed rest final value execution
    exact ensures _ _ _ (.request performed execution)
  · intro ensures occurrences final value execution
    obtain ⟨answer, middle, rest, rfl, performed, execution⟩ := exec_request_iff.mp execution
    exact ensures answer middle performed rest final value execution

variable {program : Program sig α}

/-- The postcondition of the first part of a composition is what the second part needs. -/
theorem ensures_bind {next : α → Program sig β}
    {post : List (Occurrence sig) → sys.Shared → β → Prop} :
    sys.Ensures shared (program >>= next) post ↔
      sys.Ensures shared program fun front middle value =>
        sys.Ensures middle (next value) fun back => post (front ++ back) := by
  constructor
  · intro ensures front middle first execution back final value rest
    exact ensures _ _ _ (exec_bind_iff.mpr ⟨first, middle, front, back, rfl, execution, rest⟩)
  · intro ensures occurrences final value execution
    obtain ⟨first, middle, front, back, rfl, one, two⟩ := exec_bind_iff.mp execution
    exact ensures front middle first one back final value two

/-- A weaker postcondition still holds. -/
theorem Ensures.mono (ensures : sys.Ensures shared program post)
    (implies : ∀ occurrences final value, post occurrences final value →
      weaker occurrences final value) : sys.Ensures shared program weaker :=
  fun occurrences final value execution =>
    implies occurrences final value (ensures occurrences final value execution)

/-- Two postconditions hold together. -/
theorem Ensures.and (left : sys.Ensures shared program post)
    (right : sys.Ensures shared program weaker) :
    sys.Ensures shared program fun occurrences final value =>
      post occurrences final value ∧ weaker occurrences final value :=
  fun occurrences final value execution =>
    ⟨left occurrences final value execution, right occurrences final value execution⟩

/-- Every execution meets an occurrence of a given kind, or ends as the postcondition says. -/
def EnsuresUnless (sys : System sig) (Escapes : Occurrence sig → Prop) (shared : sys.Shared)
    (program : Program sig α) (post : sys.Shared → α → Prop) : Prop :=
  sys.Ensures shared program fun occurrences final value =>
    (∃ occurrence ∈ occurrences, Escapes occurrence) ∨ post final value

section Unless

variable {Escapes : Occurrence sig → Prop} {goal : sys.Shared → α → Prop}

theorem ensuresUnless_done {value : α} (holds : goal shared value) :
    sys.EnsuresUnless Escapes shared (.done value) goal :=
  ensures_done.mpr (.inr holds)

theorem ensuresUnless_request {op : sig.Op} {next : sig.Answer op → Program sig α}
    (rest : ∀ answer after, sys.Perform shared op answer after → Escapes ⟨op, answer⟩ ∨
      sys.EnsuresUnless Escapes after (next answer) goal) :
    sys.EnsuresUnless Escapes shared (.request op next) goal := by
  refine ensures_request.mpr fun answer after performed => ?_
  rcases rest answer after performed with escapes | ensures
  · exact fun occurrences final value execution => .inl ⟨_, .head _, escapes⟩
  · refine ensures.mono fun occurrences final value => ?_
    rintro (⟨occurrence, member, escapes⟩ | holds)
    · exact .inl ⟨occurrence, .tail _ member, escapes⟩
    · exact .inr holds

/-- Whatever the first part does, the second one ensures the goal. -/
theorem ensuresUnless_then {program : Program sig β} {next : β → Program sig α}
    (rest : ∀ middle value, sys.EnsuresUnless Escapes middle (next value) goal) :
    sys.EnsuresUnless Escapes shared (program >>= next) goal := by
  refine ensures_bind.mpr fun front middle value execution => ?_
  refine (rest middle value).mono fun back final result => ?_
  rintro (⟨occurrence, member, escapes⟩ | holds)
  · exact .inl ⟨occurrence, List.mem_append_right _ member, escapes⟩
  · exact .inr holds

end Unless

end Sip3.Semantics.System
