import Sip3.Semantics.Memory
import Sip3.Server.ConferenceCapacity

/-!
# Admission to a conference room

A caller joins a room by an INVITE. The thread that handles it has then found the room under the
dialled extension, an enabled account of the caller and fewer rows than the room allows, and the
PIN was right.
-/

namespace Sip3

open Text Semantics Program System Conference

section Admission

variable (server : Server) (task : Task) (past : Set (Occurrence signature))

/-- A task knows from its message and the answers it got that the caller may join a room. -/
def MayJoin (room : Nat) : Prop :=
  ∃ msg caller most pinHash count, task.message server = some msg ∧
    headerUser msg.fromHeader = some caller ∧ pinRejection server msg pinHash = none ∧
    (count % 2 ^ 64).toNat < most ∧
    ⟨.ask (.query (.conferenceRoom ((uriUsername (msg.requestUri.getD [])).getD [])
      server.cfg.sipDomain)), .ok (some (room, most))⟩ ∈ past ∧
    ⟨.ask (.query (.accountEnabled caller server.cfg.sipDomain)), .ok true⟩ ∈ past ∧
    ⟨.ask (.query (.roomPinHash room)), .ok pinHash⟩ ∈ past ∧
    ⟨.ask (.query (.roomActiveCount room)), .ok count⟩ ∈ past

/-- A step joins only rooms to which the caller is admitted. -/
def JoinsAllowed (op : Op) : Prop :=
  ∀ room, op.Joins room → MayJoin server task past room

/-- Whatever a task knows, every join of the program is admitted. -/
abbrev Screened {α : Type} (program : Action α) : Prop :=
  ∀ past, program.Follows (memory (JoinsAllowed server)) (task, past)
    fun _ point => point.1 = task

variable {server task past}

theorem JoinsAllowed.mono {more : Set (Occurrence signature)} {op : Op}
    (admitted : JoinsAllowed server task past op) (wider : past ⊆ more) :
    JoinsAllowed server task more op := by
  intro room joins
  obtain ⟨msg, caller, most, pinHash, count, received, user, pin, space, found, enabled, hash,
    counted⟩ := admitted room joins
  exact ⟨msg, caller, most, pinHash, count, received, user, pin, space, wider found,
    wider enabled, wider hash, wider counted⟩

theorem Screened.of_uses {α : Type} {program : Action α}
    (uses : program.Uses fun op : Op => ∀ room, op.StaysOut room) : Screened server task program :=
  fun _ => uses.follows (fun _ elsewhere _ =>
    ⟨fun room joins => absurd joins (elsewhere room), rfl, Set.subset_insert _ _⟩) fun _ => rfl

theorem Screened.bind {α β : Type} {program : Action α} {next : α → Action β}
    (first : Screened server task program) (rest : ∀ value, Screened server task (next value)) :
    Screened server task (program >>= next) := by
  refine fun past => (first past).bind fun value point same => ?_
  obtain ⟨_, later⟩ := point
  cases same
  exact rest value later

variable {msg : SipMessage} {src : SocketAddr} (received : task.message server = some msg)

include received

omit received in
/-- A name that is not the default was in the header. -/
theorem headerUser_of_getD_ne {value : Option Str} {fallback : Str}
    (named : ¬(headerUser value).getD fallback = fallback) :
    headerUser value = some ((headerUser value).getD fallback) := by
  cases found : headerUser value with
  | none => exact absurd (by rw [found]; rfl) named
  | some user => rfl

theorem Conference.handleInvite_admits {room most : Nat} (found :
    ⟨.ask (.query (.conferenceRoom ((uriUsername (msg.requestUri.getD [])).getD [])
      server.cfg.sipDomain)), .ok (some (room, most))⟩ ∈ past) :
    (handleInvite server msg src room most).Follows (memory (JoinsAllowed server)) (task, past)
      fun _ point => point.1 = task := by
  have stays : ∀ {past op}, (∀ room, op.StaysOut room) → JoinsAllowed server task past op :=
    fun elsewhere room joins => absurd joins (elsewhere room)
  dsimp only [handleInvite]
  split
  · rfl
  next called =>
  simp only [request_bind, done_bind]
  refine follows_remembered (stays fun _ => id) fun active => ?_
  split
  · rfl
  next named =>
  refine follows_remembered (stays fun _ => id) fun enabled => ?_
  split
  · rfl
  · rfl
  dsimp only [enterRoom]
  simp only [request_bind, done_bind]
  refine follows_remembered (stays fun _ => id) fun pinHash => ?_
  split
  · rfl
  next pinHash =>
  split
  · rfl
  next pin =>
  refine follows_remembered (stays fun _ => id) fun counted => ?_
  split
  · rfl
  next count =>
  split
  · rfl
  next space =>
  refine (joinRoom_steps server msg src room called named).follows
    (fun op step _ => ⟨fun target joins => ?_, rfl, Set.subset_insert _ _⟩) fun _ => rfl
  cases step with
  | join participant =>
    cases joins
    exact ⟨msg, _, most, pinHash, count, received, headerUser_of_getD_ne named, pin,
      Nat.lt_of_not_le space, by simp [found], by simp, by simp, by simp⟩
  | _ => cases joins

theorem Handler.routeInvite_admits : Screened server task (routeInvite server msg src) := by
  have proxied : Screened server task (routeToProxy server msg src .invite) :=
    .of_uses ((Action.uses_spares (Action.within (Endpoint.run_uses server msg src
      (.proxy .invite))) (by decide) (by decide)).mono fun _ spares _ => spares.staysOut)
  intro past
  dsimp only [routeInvite, lookupRoom]
  split
  · simp only [request_bind, done_bind]
    refine follows_remembered (fun _ joins => by cases joins) fun answer => ?_
    rcases answer with failure | _ | ⟨room, most⟩
    · exact proxied _
    · exact proxied _
    · exact (handleInvite_admits received (.inl rfl)).bind fun _ _ same => same
  · exact proxied _

omit received in
theorem Task.body_admits (task : Task) : Screened server task (task.body server) := by
  refine Task.body_conference (Screened server task)
    (fun uses => .of_uses (uses.mono fun _ spares _ => spares.staysOut)) .bind (fun msg => ?_) task
    fun msg src received => Handler.routeInvite_admits received
  refine .of_uses ⟨fun _ => id, fun removed => ?_⟩
  cases removed with
  | none => exact uses_done _
  | some call => exact ⟨fun _ => id, fun _ => ⟨fun _ => id, fun _ => uses_done _⟩⟩

end Admission

/-- In every run, whoever joins a room has been admitted to it. -/
theorem joins_admitted {server : Server} (run : server.Run) :
    Throughout (fun front (event : server.Event) => ∃ own next,
      Learned front event.task (.request event.op next) own ∧
        ∀ room, event.op.Joins room → MayJoin server event.task {asked | asked ∈ own} room)
      run.config.events :=
  justified_of_steps (JoinsAllowed server) JoinsAllowed.mono
    (fun task => (Task.body_admits task ∅).mono fun _ _ _ => trivial) run.steps

end Sip3
