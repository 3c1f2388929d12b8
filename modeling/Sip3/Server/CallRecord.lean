import Sip3.Semantics.Memory
import Sip3.Server.Flow.Follows
import Sip3.Server.Scenario

/-!
# Call records

The `sip_calls` row of a call is written by the handlers of INVITE, ACK, BYE and
CANCEL, each on the Call-ID of its message, and by the clean-ups of stale and old rows:
`Task.body_records`. None of the handlers looks at the status the row has. The row says
`answered` only of answered calls, and stays closed, when an ACK and an INVITE are
handled only while the row is open and an ACK only after a relayed answer; a caller
acknowledges a refusal as well.
-/

namespace Sip3

open Text Semantics Program Handler List Endpoint

section Writers

variable (server : Server) {callId : CallId} {topics : List Topic}

/-- The method whose handler gives a call record a status. -/
def CallStatus.method : CallStatus → Method
  | answered => .ack
  | ended => .bye
  | cancelled => .cancel

/-- The call whose record a statement writes, and the method whose handler writes it so. -/
def Query.writes? : Query → Option (CallId × Method)
  | recordCall callId .. => some (callId, .invite)
  | setCallStatus callId status => some (callId, status.method)
  | _ => none

variable {statement : Query} {method : Method}

theorem Query.writes?_eq_some {callId : CallId}
    (writes : statement.writes? = some (callId, method)) :
    statement.record? = some callId ∧
      (statement.topic = .recordCall ∧ method = .invite ∨
        ∃ status, statement.topic = .callStatus status ∧ method = status.method) := by
  unfold Query.writes? at writes
  split at writes
  · cases writes
    exact ⟨rfl, .inl ⟨rfl, rfl⟩⟩
  · cases writes
    exact ⟨rfl, .inr ⟨_, rfl, rfl⟩⟩
  · cases writes

/-- An endpoint that writes a record serves the method that writes it so. -/
theorem Endpoint.method_of_writes {endpoint : Endpoint}
    (listed : statement.topic ∈ endpoint.topics)
    (writes : statement.writes? = some (callId, method)) : endpoint.method = method := by
  obtain ⟨-, ⟨topic, rfl⟩ | ⟨status, topic, rfl⟩⟩ := Query.writes?_eq_some writes
  · rw [topic] at listed
    cases endpoint with
    | proxy method => cases method <;> simp_all [topics, method]
    | _ => simp [topics] at listed
  · rw [topic] at listed
    cases endpoint with
    | proxy method => cases method <;> simp_all [topics, method, CallStatus.method]
    | _ => simp [topics] at listed

/-- The step writes the record of a call only when the task handles the matching request of that
call, and cleans up records only when the task is a clean-up. -/
def Op.Records (task : Task) (op : Op) : Prop :=
  ∀ statement ∈ op.statement?,
    (∀ callId method, statement.writes? = some (callId, method) →
      task.Handles server callId method) ∧
    (statement.topic = .cleanUp → ∃ sweep, task = .cleanUp sweep)

theorem Op.States.records {op : Op} {task : Task} (states : Op.States callId topics op)
    (unwritten : ∀ topic ∈ topics, topic ≠ .recordCall ∧ ∀ status, topic ≠ .callStatus status)
    (cleans : .cleanUp ∈ topics → ∃ sweep, task = .cleanUp sweep) :
    Op.Records server task op := by
  intro statement made
  have listed := (states statement made).2
  refine ⟨fun written method writes => ?_, fun topic => cleans (topic ▸ listed)⟩
  obtain ⟨-, ⟨topic, -⟩ | ⟨status, topic, -⟩⟩ := Query.writes?_eq_some writes
  · exact absurd topic (unwritten _ listed).1
  · exact absurd topic ((unwritten _ listed).2 status)

/-- A message writes the record of its own call, as its method does. -/
theorem Handler.processMsg_records {task : Task} {msg : SipMessage} (src : SocketAddr)
    (received : task.message server = some msg) :
    (processMsg server msg src).Uses (Op.Records server task) := by
  unfold processMsg
  split
  · exact (Action.states (Handler.processResponse_uses server msg)).mono fun _ states =>
      states.records server (by simp) (by simp)
  next text named =>
    refine Handler.processRequest_induction server msg src (·.Uses _) _
      (fun uses rest => Uses.bind (uses.mono fun op routes => ?_) rest) fun endpoint serves => ?_
    · cases routes <;> simp [Op.Records, Query.writes?]
    · refine (Action.states (endpoint.run_uses server msg src)).mono ?_
      intro op states statement made
      obtain ⟨own, listed⟩ := states statement made
      refine ⟨fun written method writes => ?_, fun topic => ?_⟩
      swap
      · exact absurd (topic ▸ listed) endpoint.cleanUp_not_mem_topics
      obtain rfl : msg.callKey = written := by
        rw [(Query.writes?_eq_some writes).1] at own
        exact (Option.some.inj (own.resolve_left (Option.some_ne_none _))).symm
      exact ⟨msg, text, received, rfl, named,
        serves.symm.trans (method_of_writes listed writes)⟩

/-- A call record is written by the handlers of the call's own requests, each in the way of
its method. -/
theorem Task.body_records (task : Task) : (task.body server).Uses (Op.Records server task) := by
  cases received : task.message server with
  | none =>
    obtain ⟨callId, uses⟩ := Task.body_background server received
    refine (Action.states uses).mono fun _ states => states.records server ?_ ?_
    · cases task <;> simp [Task.backgroundTopics]
    · cases task <;> simp [Task.backgroundTopics]
  | some msg =>
    obtain ⟨src, -, body⟩ := Task.body_of_message received
    rw [body]
    refine Uses.bind (Handler.processMsg_records server src received) fun result => ?_
    cases result <;> simp [replyTo, Op.Records]

end Writers

/-- `status` of a `sip_calls` row. -/
inductive RecordStatus where
  | trying
  | set (status : CallStatus)
  deriving DecidableEq

/-- Whether a row says that the call is over. -/
def RecordStatus.closed : RecordStatus → Bool
  | trying | set .answered => false
  | set .ended | set .cancelled => true

/-- The status of a row that was closed as stale. -/
def RecordStatus.close (status : RecordStatus) : RecordStatus :=
  if status.closed then status else set .ended

theorem RecordStatus.close_ne_answered (status : RecordStatus) : status.close ≠ set .answered := by
  cases status with
  | trying => decide
  | set status => cases status <;> decide

theorem RecordStatus.closed_close (status : RecordStatus) : status.close.closed = true := by
  cases status with
  | trying => rfl
  | set status => cases status <;> rfl

/-- The rows a statement can leave: one that failed may have been carried out. -/
def rowsLeft (answer : Fallible Unit) (row written : Option RecordStatus) :
    List (Option RecordStatus) :=
  match answer with
  | .ok _ => [written]
  | .error _ => [written, row]

/-- The rows of a call after an answered step. An INVITE inserts the row or sets it back, the
other requests update a row that is there. A clean-up may close an open row, or delete a closed
one. -/
def Op.recordRows (callId : CallId) (row : Option RecordStatus) :
    (op : Op) → op.Answer → List (Option RecordStatus)
  | .ask (.query (.recordCall call _ _)), answer =>
    if call = callId then rowsLeft answer row (some .trying) else [row]
  | .ask (.query (.setCallStatus call status)), answer =>
    if call = callId then rowsLeft answer row (row.map fun _ => .set status) else [row]
  | .ask (.query (.cleanUp (.staleCalls _))), _ => [row, row.map .close]
  | .ask (.query (.cleanUp (.oldRecords _))), _ => [row, row.filter (!·.closed)]
  | _, _ => [row]

/-- Whether the step deletes old call records. -/
def Op.purges : Op → Bool
  | .ask (.query (.cleanUp (.oldRecords _))) => true
  | _ => false

section Rows

variable {server : Server} {callId : CallId}

/-- The rows of a call after a history that starts with one of the given rows. -/
def rowsAfter (callId : CallId) (rows : List (Option RecordStatus)) (events : List server.Event) :
    List (Option RecordStatus) :=
  events.foldl (fun rows event => rows.flatMap fun row =>
    event.op.recordRows callId row event.answer) rows

variable {rows : List (Option RecordStatus)} {row later : Option RecordStatus}

theorem mem_rowsAfter_concat {events : List server.Event} {event : server.Event}
    {later : Option RecordStatus} :
    later ∈ rowsAfter callId rows (events ++ [event]) ↔
      ∃ row ∈ rowsAfter callId rows events, later ∈ event.op.recordRows callId row event.answer := by
  simp [rowsAfter]

/-- The rows of a longer history come from those in the middle of it. -/
theorem mem_rowsAfter_append {front back : List server.Event}
    (middle : row ∈ rowsAfter callId rows front) (reached : later ∈ rowsAfter callId [row] back) :
    later ∈ rowsAfter callId rows (front ++ back) := by
  induction back using reverseRecOn generalizing later with
  | nil =>
    obtain rfl : later = row := mem_singleton.mp reached
    rwa [append_nil]
  | append_singleton back event ih =>
    obtain ⟨before, earlier, written⟩ := mem_rowsAfter_concat.mp reached
    rw [← append_assoc]
    exact mem_rowsAfter_concat.mpr ⟨before, ih earlier, written⟩

/-- Whether a row says that the call is over. -/
def isOver (row : Option RecordStatus) : Bool :=
  row.any (·.closed)

/-- Whether a message answers an INVITE. -/
def answersInvite (platform : Platform) (msg : SipMessage) : Bool :=
  msg.cseq.any fun cseq => Str.endsWith (platform.toUppercase cseq) "INVITE".toList

variable (callId) in
/-- Whether a success response to the INVITE of the call is relayed to its caller. -/
def Server.Event.relaysAnswer (event : server.Event) : Bool :=
  match event with
  | ⟨task, .send (.relay call (some code)) _ _, sent⟩ =>
    call = callId && sent && 200 ≤ code && code < 300 &&
      (task.message server).any (answersInvite server.platform)
  | _ => false

variable (server callId) in
/-- The row of the call says `answered` only after an answer has been relayed, and once it says
that the call is over it goes on saying so. -/
structure FaithfulRecord (events : List server.Event) : Prop where
  answered : some (.set .answered) ∈ rowsAfter callId [none] events →
    ∃ event ∈ events, Server.Event.relaysAnswer callId event = true
  closed : ∀ front back row later, events = front ++ back →
    row ∈ rowsAfter callId [none] front → isOver row = true →
    later ∈ rowsAfter callId [row] back → isOver later = true

variable (server callId) in
/-- An ACK of the call is handled only after an answer has been relayed, and an ACK or an INVITE
only while the row does not say that the call is over. Old records are not deleted meanwhile. -/
def writtenInOrder : System.Discipline server.system where
  Admits _ := True
  Allows _ events event := event.op.purges = false ∧
    ∀ statement ∈ event.op.statement?, statement.record? = some callId →
    event.task.Handles server callId .ack ∨ event.task.Handles server callId .invite →
    (∀ row ∈ rowsAfter callId [none] events, isOver row = false) ∧
      (event.task.Handles server callId .ack →
        ∃ earlier ∈ events, Server.Event.relaysAnswer callId earlier = true)

instance (state : ServerState) (events : List server.Event) (event : server.Event) :
    Decidable ((writtenInOrder server callId).Allows state events event) := by
  dsimp only [writtenInOrder]
  infer_instance

theorem Op.recordRows_cases {op : Op} {answer : op.Answer}
    (left : later ∈ op.recordRows callId row answer) :
    later = row ∨ later = row.map .close ∨ (later = none ∧ op.purges = true) ∨
      (later = some .trying ∧
        ∃ statement ∈ op.statement?, statement.writes? = some (callId, .invite)) ∨
      ∃ status, later = row.map (fun _ => .set status) ∧
        ∃ statement ∈ op.statement?, statement.writes? = some (callId, status.method) := by
  unfold Op.recordRows at left
  have either : ∀ {answer : Fallible Unit} {written : Option RecordStatus},
      later ∈ rowsLeft answer row written → later = row ∨ later = written := by
    rintro (error | _) written member
    · simpa [rowsLeft, or_comm] using member
    · exact .inr (by simpa [rowsLeft] using member)
  split at left
  · next call caller callee answer =>
      split at left
      · next own =>
          subst own
          refine (either left).imp_right fun written => .inr (.inr (.inl ⟨written, ?_⟩))
          exact ⟨_, rfl, rfl⟩
      · exact .inl (mem_singleton.mp left)
  · next call status answer =>
      split at left
      · next own =>
          subst own
          refine (either left).imp_right fun written => .inr (.inr (.inr ⟨status, written, ?_⟩))
          exact ⟨_, rfl, rfl⟩
      · exact .inl (mem_singleton.mp left)
  · exact (mem_pair.mp left).imp_right .inl
  · rcases mem_pair.mp left with same | same
    · exact .inl same
    · cases row with
      | none => exact .inl same
      | some status =>
        cases closed : status.closed with
        | false => exact .inl (same.trans (by simp [Option.filter, closed]))
        | true => exact .inr (.inr (.inl ⟨same.trans (by simp [Option.filter, closed]), rfl⟩))
  · exact .inl (mem_singleton.mp left)

variable {task : Task} {op : Op} {answer : op.Answer} {state : ServerState}
  {events : List server.Event}

/-- An INVITE or an ACK writes the row while it is open. -/
theorem open_of_allowed (records : Op.Records server task op)
    (allowed : (writtenInOrder server callId).Allows state events ⟨task, op, answer⟩)
    {method : Method} (opens : method = .ack ∨ method = .invite)
    (writes : ∃ statement ∈ op.statement?, statement.writes? = some (callId, method)) :
    (∀ row ∈ rowsAfter callId [none] events, isOver row = false) ∧
      (method = .ack → ∃ earlier ∈ events, Server.Event.relaysAnswer callId earlier = true) := by
  obtain ⟨statement, made, written⟩ := writes
  have handles := (records statement made).1 callId method written
  have about := (Query.writes?_eq_some written).1
  rcases opens with rfl | rfl
  · obtain ⟨opened, relayed⟩ := allowed.2 statement made about (.inl handles)
    exact ⟨opened, fun _ => relayed handles⟩
  · exact ⟨(allowed.2 statement made about (.inr handles)).1, nofun⟩

theorem FaithfulRecord.concat (faithful : FaithfulRecord server callId events)
    (records : Op.Records server task op)
    (allowed : (writtenInOrder server callId).Allows state events ⟨task, op, answer⟩) :
    FaithfulRecord server callId (events ++ [⟨task, op, answer⟩]) := by
  constructor
  · intro answered
    obtain ⟨row, before, left⟩ := mem_rowsAfter_concat.mp answered
    have relayed : ∃ event ∈ events, Server.Event.relaysAnswer callId event = true := by
      rcases Op.recordRows_cases left with same | same | ⟨same, -⟩ | ⟨same, -⟩ |
          ⟨status, same, writes⟩
      · exact faithful.answered (same ▸ before)
      · obtain ⟨status, -, set⟩ := Option.map_eq_some_iff.mp same.symm
        exact absurd set status.close_ne_answered
      · cases same
      · cases same
      · obtain ⟨_, -, set⟩ := Option.map_eq_some_iff.mp same.symm
        obtain rfl : status = .answered := RecordStatus.set.inj set
        exact (open_of_allowed records allowed (.inl rfl) writes).2 rfl
    obtain ⟨event, member, relays⟩ := relayed
    exact ⟨event, mem_append_left _ member, relays⟩
  · intro front back row later split started closed reached
    -- The last event is the new one, unless the split is at the very end.
    rcases eq_nil_or_concat back with rfl | ⟨back, last, rfl⟩
    · obtain rfl : later = row := mem_singleton.mp reached
      exact closed
    rw [concat_eq_append] at split reached
    rw [← append_assoc] at split
    obtain ⟨rfl, same⟩ := append_inj' split rfl
    obtain rfl := (singleton_inj.mp same).symm
    obtain ⟨middle, between, left⟩ := mem_rowsAfter_concat.mp reached
    have ended : isOver middle = true :=
      faithful.closed front back row middle rfl started closed between
    have here : middle ∈ rowsAfter callId [none] (front ++ back) :=
      mem_rowsAfter_append started between
    have shut : ∀ {method : Method}, method = .ack ∨ method = .invite →
        ¬ ∃ statement ∈ op.statement?, statement.writes? = some (callId, method) := by
      intro method opens writes
      cases ended.symm.trans ((open_of_allowed records allowed opens writes).1 middle here)
    obtain ⟨current, rfl, -⟩ := (Option.any_eq_true _ _).mp ended
    rcases Op.recordRows_cases left with same | same | ⟨-, purges⟩ | ⟨-, writes⟩ |
      ⟨status, same, writes⟩
    · exact same ▸ ended
    · exact same ▸ current.closed_close
    · exact absurd (purges.symm.trans allowed.1) (by decide)
    · exact absurd writes (shut (.inr rfl))
    · cases status with
      | answered => exact absurd writes (shut (.inl rfl))
      | ended => exact same ▸ rfl
      | cancelled => exact same ▸ rfl

end Rows

open System

/-- In every run in which the handlers of ACK and INVITE write the row of a call in order, the
row is faithful. -/
theorem record_faithful_of_order {server : Server} {callId : CallId} {before : ServerState}
    {tasks : List Task} {config : server.Config}
    (run : Steps (writtenInOrder server callId) ⟨before, [], tasks.map launch⟩ config) :
    FaithfulRecord server callId config.events := by
  have uses : ∀ task : Task, True → (task.body server).Uses (Op.Records server task) :=
    fun task _ => task.body_records server
  refine holds_of_task_uses (fun _ events => FaithfulRecord server callId events) uses
    (fun _ _ => trivial) (fun _ _ _ _ _ => trivial)
    (fun records _ allowed faithful => faithful.concat records allowed) (fun _ _ => trivial) ?_ run
  refine ⟨fun answered => absurd answered (by simp [rowsAfter]), ?_⟩
  intro front back row later split started closed
  obtain ⟨rfl, rfl⟩ := List.append_eq_nil_iff.mp split.symm
  obtain rfl : row = none := List.mem_singleton.mp started
  cases closed

open Scenario

/-- The callee answers, the answer is relayed, and the caller acknowledges it. -/
theorem record_faithful_after_answer :
    ∃ config : server.Config,
      Steps (writtenInOrder server callId) invited config ∧
      rowsAfter callId [none] config.events = [some (.set .answered)] ∧
      FaithfulRecord server callId config.events := by
  let permit : Permit server.system := fun state events event =>
    decide ((writtenInOrder server callId).Allows state events event)
  have computed : ((invited.playUnder permit
      [steps 0 100 none, .arrive (fromCallee "200 OK" "INVITE"),
        steps 1 100 none, .arrive (fromCaller "ACK"),
        steps 2 100 none]).any fun config =>
      rowsAfter callId [none] config.events = [some (.set .answered)]) = true := by
    decide +kernel
  obtain ⟨config, played, answered⟩ := (Option.any_eq_true _ _).mp computed
  have run : Steps (writtenInOrder server callId) invited config :=
    Config.playUnder_steps (fun _ _ _ permitted => of_decide_eq_true permitted)
      (fun _ _ => trivial) played
  exact ⟨config, run, of_decide_eq_true answered, record_faithful_of_order run⟩

/-- The callee is busy, the caller acknowledges that, and the row says that the call was
answered. -/
theorem record_answered_by_refusal :
    ∃ config : server.Config,
      Steps (.free server.system) invited config ∧
      ¬ FaithfulRecord server callId config.events := by
  have computed : ((invited.play
      [steps 0 100 none, .arrive (fromCallee "486 Busy Here" "INVITE"),
        steps 1 100 none, .arrive (fromCaller "ACK"),
        steps 2 100 none]).any fun config =>
      some (.set .answered) ∈ rowsAfter callId [none] config.events &&
        !config.events.any (Server.Event.relaysAnswer callId)) = true := by
    decide +kernel
  obtain ⟨config, run, checked⟩ := exists_run computed
  obtain ⟨answered, refused⟩ := Bool.and_eq_true_iff.mp checked
  refine ⟨config, run, fun faithful => ?_⟩
  obtain ⟨event, member, relays⟩ := faithful.answered (of_decide_eq_true answered)
  rw [Bool.not_eq_true', List.any_eq_false] at refused
  exact refused event member relays

end Sip3
