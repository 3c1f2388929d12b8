import Sip3.Server.Frame
import Sip3.Semantics.Ensures

/-!
# Handlers run alone

What a footprint says about the executions of a program: the entries of a call that
its steps do not write stay, and a program that only asks the outside leaves the
state as it is.
-/

namespace Sip3

open Text Semantics System

variable {server : Server} {callId : CallId} {state : ServerState} {α : Type}
  {kinds : List Kind} {program : Action α}

theorem Op.Perform.state_eq_of_ask {op : Op} {answer : op.Answer} {after : ServerState}
    (performed : op.Perform state answer after) (asks : op.kind = .ask) : after = state := by
  cases op with
  | ask request => exact performed
  | pendingDialogs table => cases table <;> cases asks
  | pendingInvites table => cases table <;> cases asks
  | activeDialogs table => cases table <;> cases asks
  | mediaSessions table => cases table <;> cases asks
  | noAnswer timer => cases timer <;> cases asks
  | recording set => cases set <;> cases asks
  | voicemailActive call => cases call <;> cases asks
  | voicemailMedia registry => cases registry <;> cases asks
  | send site dest text => cases site <;> cases asks
  | spawn task => cases task <;> cases asks
  | _ => cases asks

/-- A program that only asks leaves the state as it is. -/
theorem ensures_asks (callId : CallId) (uses : program.Uses (Op.Within callId [.ask])) :
    server.system.Ensures state program fun occurrences final _ =>
      final = state ∧ ∀ occurrence ∈ occurrences, occurrence.op.kind = .ask := by
  intro occurrences final value execution
  constructor
  · refine Exec.invariant (· = state) ?_ execution uses rfl
    rintro _ op answer after ⟨-, asks⟩ performed rfl
    exact performed.state_eq_of_ask (List.mem_singleton.mp asks)
  · intro occurrence member
    exact List.mem_singleton.mp (execution.within uses occurrence member).2

/-- A program that neither inserts nor removes pending dialogs keeps that of a call. -/
theorem ensures_pendingDialog {pending : Option SocketAddr}
    (uses : program.Uses (Op.Within callId kinds))
    (quiet : ∀ kind ∈ kinds, kind.writes ≠ some .pendingDialogs)
    (before : state.pendingDialogs.lookup callId = pending) :
    server.system.Ensures state program fun _ final _ =>
      final.pendingDialogs.lookup callId = pending := by
  intro occurrences final value execution
  refine Exec.invariant (fun shared : ServerState => shared.pendingDialogs.lookup callId = pending)
    ?_ execution uses before
  intro shared op answer after within performed kept
  exact ((Op.Perform.sameExcept performed callId).pendingDialog (quiet _ within.2)).trans kept

/-- The texts are received one after the other, each when the one before is handled. -/
def Server.receive (server : Server) : List (Str × SocketAddr) → Action Unit
  | [] => return ()
  | (raw, src) :: rest => do
      Handler.handleText server raw src
      server.receive rest

end Sip3
