import Mathlib.Tactic.Abel
import Sip3.Media.Relay
import Sip3.Semantics.Account
import Sip3.Semantics.Schedule
import Sip3.Server.Proxy

/-!
# The relay tasks of media sessions

`media.rs`: a stream of a session is relayed by two tasks, which run until they are aborted
through the handles in the session. Allocation starts the tasks of each stream before the
session is stored, and stops them when a later stream cannot be allocated. This module follows
the handles through every interleaving of allocations, removals and cleanups; the requests of
the server's own allocation are the same without the tasks.
-/

namespace Sip3.Relay

open Text Semantics System Multiset Program

/-- `MediaStreamSession`: a stream with the handles of its tasks. -/
structure StreamSession extends MediaStream where
  taskA : Handle
  taskB : Handle
  deriving DecidableEq

/-- `MediaSession`. -/
structure Session where
  streams : List StreamSession
  createdAt : Nat
  deriving DecidableEq

/-- What the relay asks its environment, and the sections on its map of sessions. -/
inductive Request where
  /-- `bind_port_pair`. -/
  | bindPortPair
  /-- `tokio::spawn` of `run_relay_loop` for one socket. -/
  | spawnRelay (side : Side)
  /-- `JoinHandle::abort`. A task whose socket fails stops in the same way. -/
  | stop (task : Handle)
  /-- `Instant::now`, in nanoseconds. -/
  | now
  | insert (callId : CallId) (session : Session)
  | remove (callId : CallId)
  /-- The locked section of `cleanup_stale_sessions`. -/
  | takeStale (maxAgeSecs : Nat)

/-- The type of the answer to a request. -/
@[reducible] def Request.Answer : Request → Type
  | .bindPortPair => Fallible (Nat × Nat)
  | .spawnRelay _ => Handle
  | .stop _ => Unit
  | .now => Nat
  | .insert _ _ => Unit
  | .remove _ => Option Session
  | .takeStale _ => List Session

abbrev signature : Signature := ⟨Request, Request.Answer⟩

abbrev Action (α : Type) := Program signature α

/-- Make one request. -/
abbrev ask (op : Request) : Action op.Answer :=
  .request op .done

/-- `MediaStreamSession::abort`. -/
def abortStream (stream : StreamSession) : Action Unit := do
  ask (.stop stream.taskA)
  ask (.stop stream.taskB)

/-- `MediaSession::abort`. -/
def abortStreams : List StreamSession → Action Unit
  | [] => return ()
  | stream :: rest => do
      abortStream stream
      abortStreams rest

/-- `allocate_stream`. -/
def allocateStream (descriptor : SdpMediaDescriptor) : Action (Fallible StreamSession) := do
  match ← ask .bindPortPair with
  | .error error => return .error error
  | .ok (relayPortA, relayPortB) =>
    let taskA ← ask (.spawnRelay .a)
    let taskB ← ask (.spawnRelay .b)
    return .ok ⟨⟨descriptor.kind, descriptor.mediaIndex, relayPortA, relayPortB⟩, taskA, taskB⟩

/-- The loop of `allocate_session_for_media` with the streams allocated so far. -/
def allocateStreams (streams : List StreamSession) :
    List SdpMediaDescriptor → Action (Fallible (List StreamSession))
  | [] => return .ok streams
  | descriptor :: rest => do
      match ← allocateStream descriptor with
      | .ok stream => allocateStreams (streams ++ [stream]) rest
      | .error error =>
        abortStreams streams
        return .error error

/-- `allocate_session_for_media`. -/
def allocateSessionForMedia (callId : CallId) (media : List SdpMediaDescriptor) :
    Action (Fallible (List MediaStream)) :=
  let activeMedia := media.filter (·.active)
  if activeMedia = [] then return .error .noActiveMedia
  else do
    match ← allocateStreams [] activeMedia with
    | .error error => return .error error
    | .ok streams =>
      let createdAt ← ask .now
      ask (.insert callId ⟨streams, createdAt⟩)
      return .ok (streams.map (·.toMediaStream))

/-- `remove_session`. -/
def removeSession (callId : CallId) : Action Unit := do
  match ← ask (.remove callId) with
  | none => return ()
  | some session => abortStreams session.streams

/-- Abort every session of a list. -/
def abortSessions : List Session → Action Unit
  | [] => return ()
  | session :: rest => do
      abortStreams session.streams
      abortSessions rest

/-- `cleanup_stale_sessions`. The sessions are removed under one lock; aborting them after it
is released allows more interleavings. -/
def cleanupStaleSessions (maxAgeSecs : Nat) : Action Unit := do
  abortSessions (← ask (.takeStale maxAgeSecs))

/-- The map of sessions, the relay tasks that still run, and the number of tasks started. -/
structure Relays where
  sessions : AList fun _ : CallId => Session
  running : Finset Handle
  started : Nat

def Relays.initial : Relays := ⟨∅, ∅, 0⟩

/-- Whether a session is older than a number of seconds. -/
def Session.stale (now maxAgeSecs : Nat) (session : Session) : Bool :=
  decide ((now - session.createdAt) / 1000000000 > maxAgeSecs)

/-- The Call-IDs of the stale sessions. -/
def staleKeys (now maxAgeSecs : Nat) (sessions : AList fun _ : CallId => Session) : List CallId :=
  (sessions.entries.filter fun entry => entry.2.stale now maxAgeSecs).map (·.1)

/-- Remove the sessions of some Call-IDs. -/
def takeAll (sessions : AList fun _ : CallId => Session) :
    List CallId → List Session × AList fun _ : CallId => Session
  | [] => ([], sessions)
  | callId :: rest =>
    match sessions.lookup callId with
    | none => takeAll sessions rest
    | some session =>
      let (taken, left) := takeAll (sessions.erase callId) rest
      (session :: taken, left)

/-- What a request does. A session that is replaced in the map drops the handles of its tasks,
which does not stop them. -/
def Perform (relays : Relays) : (op : Request) → op.Answer → Relays → Prop
  | .bindPortPair, _, after => after = relays
  | .spawnRelay _, task, after => task = relays.started ∧
      after = { relays with
        running := insert relays.started relays.running
        started := relays.started + 1 }
  | .stop task, _, after => after = { relays with running := relays.running.erase task }
  | .now, _, after => after = relays
  | .insert callId session, _, after =>
    after = { relays with sessions := AList.insert callId session relays.sessions }
  | .remove callId, found, after => found = relays.sessions.lookup callId ∧
      after = { relays with sessions := relays.sessions.erase callId }
  | .takeStale maxAgeSecs, taken, after => ∃ now,
      let result := takeAll relays.sessions (staleKeys now maxAgeSecs relays.sessions)
      taken = result.1 ∧ after = { relays with sessions := result.2 }

/-- The operations on the relay. -/
inductive Task where
  | allocate (callId : CallId) (media : List SdpMediaDescriptor)
  | remove (callId : CallId)
  | cleanup (maxAgeSecs : Nat)
  /-- The socket of a relay task fails, which ends its loop. -/
  | fail (task : Handle)

/-- What an operation runs. -/
def Task.body : Task → Action Unit
  | .allocate callId media => do
      let _ ← allocateSessionForMedia callId media
      return ()
  | .remove callId => removeSession callId
  | .cleanup maxAgeSecs => cleanupStaleSessions maxAgeSecs
  | .fail task => ask (.stop task)

/-- The relay as a system. -/
abbrev system : System signature where
  Shared := Relays
  Task := Task
  body := Task.body
  Perform := Perform
  spawned _ := none

/-- The tasks of a stream. -/
def StreamSession.tasks (stream : StreamSession) : Multiset Handle :=
  {stream.taskA, stream.taskB}

/-- The tasks of some streams. -/
def tasksOf (streams : List StreamSession) : Multiset Handle :=
  (streams.map (·.tasks)).sum

/-- The tasks of a session. -/
def Session.tasks (session : Session) : Multiset Handle :=
  tasksOf session.streams

/-- The tasks of all streams of all sessions in the map. -/
def Relays.owned (relays : Relays) : Multiset Handle :=
  contents Session.tasks relays.sessions

/-- The runs in which no session is stored for a Call-ID that has one. -/
def unrepeated : Discipline system where
  Admits _ := True
  Allows relays _ event := ∀ callId session, event.op = .insert callId session →
    relays.sessions.lookup callId = none

/-- What an operation holds: the tasks it has started and not stored yet, and those it has taken out
of the map and not stopped yet. -/
def Moves (held : Multiset Handle) : (op : Request) → op.Answer → Multiset Handle → Prop
  | .bindPortPair, _, target => target = held
  | .spawnRelay _, task, target => target = task ::ₘ held
  | .stop task, _, target => target = held.erase task
  | .now, _, target => target = held
  | .insert _ session, _, target => held = session.tasks + target
  | .remove _, found, target => target = (found.map Session.tasks).getD 0 + held
  | .takeStale _, taken, target => target = (taken.map Session.tasks).sum + held

/-- Every task that runs is held by one operation or belongs to one stream. -/
structure Accounted (relays : Relays) (held : Multiset Handle) : Prop where
  nodup : (relays.owned + held).Nodup
  known : ∀ task ∈ relays.owned + held, task < relays.started
  running : ∀ task ∈ relays.running, task ∈ relays.owned + held

/-- The account of the relay tasks. -/
def account : Account system unrepeated Handle where
  moves := Moves
  Balanced := Accounted

section Operations

theorem tasksOf_cons (stream : StreamSession) (streams : List StreamSession) :
    tasksOf (stream :: streams) = stream.taskA ::ₘ stream.taskB ::ₘ tasksOf streams := by
  rw [tasksOf, List.map_cons, List.sum_cons, StreamSession.tasks, insert_eq_cons,
    cons_add, singleton_add]
  rfl

theorem tasksOf_concat (streams : List StreamSession) (stream : StreamSession) :
    tasksOf (streams ++ [stream]) = stream.taskB ::ₘ stream.taskA ::ₘ tasksOf streams := by
  rw [cons_swap, ← tasksOf_cons]
  simp only [tasksOf, List.map_append, List.sum_append, List.map_cons, List.map_nil, List.sum_cons,
    List.sum_nil, add_zero]
  exact add_comm _ _

theorem abortStreams_follows (streams : List StreamSession) (rest : Multiset Handle) :
    (abortStreams streams).Follows Moves (tasksOf streams + rest) fun _ held => held = rest := by
  induction streams with
  | nil => exact zero_add rest
  | cons stream streams ih =>
    refine fun _ => ⟨_, rfl, fun _ => ⟨_, rfl, ?_⟩⟩
    rw [tasksOf_cons, cons_add, erase_cons_head, cons_add,
      erase_cons_head]
    exact ih

theorem allocateStream_follows (descriptor : SdpMediaDescriptor) (held : Multiset Handle) :
    (allocateStream descriptor).Follows Moves held fun result target =>
      match result with
      | .ok stream => target = stream.taskB ::ₘ stream.taskA ::ₘ held
      | .error _ => target = held := by
  intro bound
  refine ⟨held, rfl, ?_⟩
  cases bound with
  | error error => rfl
  | ok ports => exact fun _ => ⟨_, rfl, fun _ => ⟨_, rfl, rfl⟩⟩

/-- Streams are held until the session is stored, and none is when one cannot be allocated. -/
theorem allocateStreams_follows (streams : List StreamSession) (media : List SdpMediaDescriptor) :
    (allocateStreams streams media).Follows Moves (tasksOf streams) fun result target =>
      match result with
      | .ok allocated => target = tasksOf allocated
      | .error _ => target = 0 := by
  induction media generalizing streams with
  | nil => rfl
  | cons descriptor rest ih =>
    refine (allocateStream_follows descriptor _).bind fun result target held => ?_
    cases result with
    | ok stream =>
      obtain rfl : target = _ := held
      rw [← tasksOf_concat]
      exact ih _
    | error error =>
      obtain rfl : target = _ := held
      have aborted := abortStreams_follows streams 0
      rw [add_zero] at aborted
      exact aborted.bind fun _ _ none => none

theorem allocateSessionForMedia_follows (callId : CallId) (media : List SdpMediaDescriptor) :
    (allocateSessionForMedia callId media).Follows Moves 0 fun _ held => held = 0 := by
  dsimp only [allocateSessionForMedia]
  split
  · rfl
  refine (allocateStreams_follows [] _).bind fun result target held => ?_
  cases result with
  | error error => exact held
  | ok streams =>
    obtain rfl : target = _ := held
    exact fun _ => ⟨_, rfl, fun _ => ⟨0, (add_zero _).symm, rfl⟩⟩

theorem removeSession_follows (callId : CallId) :
    (removeSession callId).Follows Moves 0 fun _ held => held = 0 := by
  intro found
  refine ⟨_, rfl, ?_⟩
  cases found with
  | none => rfl
  | some session => exact abortStreams_follows session.streams 0

theorem abortSessions_follows (sessions : List Session) :
    (abortSessions sessions).Follows Moves ((sessions.map Session.tasks).sum) fun _ held =>
      held = 0 := by
  induction sessions with
  | nil => rfl
  | cons session sessions ih =>
    rw [List.map_cons, List.sum_cons]
    refine (abortStreams_follows session.streams _).bind fun _ held left => ?_
    rw [left]
    exact ih

theorem cleanupStaleSessions_follows (maxAgeSecs : Nat) :
    (cleanupStaleSessions maxAgeSecs).Follows Moves 0 fun _ held => held = 0 := by
  refine fun taken => ⟨_, rfl, ?_⟩
  rw [add_zero]
  exact abortSessions_follows taken

/-- Every operation starts and returns with empty hands. -/
theorem Task.body_follows (task : Task) : task.body.Follows Moves 0 fun _ held => held = 0 := by
  cases task with
  | allocate callId media =>
    exact (allocateSessionForMedia_follows callId media).bind fun _ _ none => none
  | remove callId => exact removeSession_follows callId
  | cleanup maxAgeSecs => exact cleanupStaleSessions_follows maxAgeSecs
  | fail task => exact fun _ => ⟨_, rfl, rfl⟩

end Operations

section Balance

variable {relays after : Relays} {held target others : Multiset Handle}

/-- Sessions that are taken out of the map take their tasks with them. -/
theorem contents_takeAll (keys : List CallId) (sessions : AList fun _ : CallId => Session) :
    contents Session.tasks sessions = ((takeAll sessions keys).1.map Session.tasks).sum +
      contents Session.tasks (takeAll sessions keys).2 := by
  induction keys generalizing sessions with
  | nil => exact (zero_add _).symm
  | cons callId rest ih =>
    unfold takeAll
    cases found : sessions.lookup callId with
    | none => exact ih sessions
    | some session =>
      dsimp only
      rw [contents_erase found, ih (sessions.erase callId), List.map_cons, List.sum_cons,
        add_assoc]

theorem Accounted.transfer (accounted : Accounted relays held)
    (same : after.owned + target = relays.owned + held) (tasks : after.running = relays.running)
    (number : after.started = relays.started) : Accounted after target := by
  obtain ⟨nodup, known, running⟩ := accounted
  rw [← same] at nodup known running
  rw [← tasks] at running
  rw [← number] at known
  exact ⟨nodup, known, running⟩

theorem Accounted.start (accounted : Accounted relays held) :
    Accounted { relays with
      running := insert relays.started relays.running
      started := relays.started + 1 } (relays.started ::ₘ held) := by
  obtain ⟨nodup, known, running⟩ := accounted
  have fresh : relays.started ∉ relays.owned + held := fun member =>
    absurd (known _ member) (Nat.lt_irrefl _)
  refine ⟨?_, ?_, ?_⟩
  · rw [add_cons]
    exact nodup_cons.mpr ⟨fresh, nodup⟩
  · intro task member
    rw [add_cons] at member
    rcases mem_cons.mp member with rfl | old
    · exact Nat.lt_succ_self _
    · exact (known task old).trans (Nat.lt_succ_self _)
  · intro task member
    rw [add_cons]
    rcases Finset.mem_insert.mp member with rfl | old
    · exact mem_cons_self _ _
    · exact mem_cons_of_mem (running task old)

theorem Accounted.stop {task : Handle} (accounted : Accounted relays (held + others)) :
    Accounted { relays with running := relays.running.erase task } (held.erase task + others) := by
  obtain ⟨nodup, known, running⟩ := accounted
  have fewer : relays.owned + (held.erase task + others) ≤ relays.owned + (held + others) :=
    add_le_add_right (add_le_add_left (erase_le task held) others) relays.owned
  refine ⟨nodup_of_le fewer nodup, ?_, ?_⟩
  · exact fun other member => known other (mem_of_le fewer member)
  · intro other member
    obtain ⟨different, present⟩ := Finset.mem_erase.mp member
    have before := running other present
    simp only [mem_add] at before ⊢
    rwa [mem_erase_of_ne different]

theorem account_valid : account.Valid where
  follows := Task.body_follows
  balances := by
    intro relays events task held op answer target after moves performed allowed others accounted
    cases op with
    | bindPortPair =>
      obtain rfl : target = held := moves
      obtain rfl : after = relays := performed
      exact accounted
    | spawnRelay side =>
      obtain ⟨rfl, rfl⟩ := performed
      obtain rfl : target = _ := moves
      rw [cons_add]
      exact accounted.start
    | stop stopped =>
      obtain rfl : after = _ := performed
      obtain rfl : target = _ := moves
      exact accounted.stop
    | now =>
      obtain rfl : target = held := moves
      obtain rfl : after = relays := performed
      exact accounted
    | insert callId session =>
      obtain rfl : after = _ := performed
      obtain rfl : held = _ := moves
      refine accounted.transfer ?_ rfl rfl
      rw [Relays.owned, contents_insert (allowed callId session rfl), Relays.owned]
      abel
    | remove callId =>
      obtain ⟨rfl, rfl⟩ := performed
      obtain rfl : target = _ := moves
      refine accounted.transfer ?_ rfl rfl
      cases found : relays.sessions.lookup callId with
      | none =>
        rw [Relays.owned, contents_erase_of_none found, Option.map_none, Option.getD_none,
          zero_add]
        rfl
      | some session =>
        rw [Relays.owned, Relays.owned, contents_erase found, Option.map_some,
          Option.getD_some]
        abel
    | takeStale maxAgeSecs =>
      obtain ⟨now, rfl, rfl⟩ := performed
      obtain rfl : target = _ := moves
      refine accounted.transfer ?_ rfl rfl
      rw [Relays.owned, Relays.owned,
        contents_takeAll (staleKeys now maxAgeSecs relays.sessions) relays.sessions]
      abel

end Balance

/-- In every interleaving of any allocations, with any failures to bind, removals, cleanups and
failures of relay sockets: when no session is stored for a Call-ID that has one, a running relay
task never belongs to two streams of the sessions in the map, and it belongs to exactly one once
every operation has returned. -/
theorem relay_tasks_owned {config : system.Config}
    (run : Steps unrepeated ⟨.initial, [], []⟩ config) :
    ∀ task ∈ config.shared.running, config.shared.owned.count task ≤ 1 ∧
      ((∀ thread ∈ config.threads, thread.returned = true) →
        config.shared.owned.count task = 1) := by
  have start : account.Holds ⟨.initial, [], ([] : List Task).map launch⟩ :=
    account_valid.holds_launch ⟨Multiset.nodup_zero, nofun, nofun⟩
  have holds := account_valid.holds_of_steps start run
  intro task running
  constructor
  · obtain ⟨carriers, -, -, balanced⟩ := holds
    have nodup := Multiset.nodup_of_le (Multiset.le_add_right _ _) balanced.nodup
    exact Multiset.nodup_iff_count_le_one.mp nodup task
  · intro returned
    have balanced : Accounted config.shared 0 := holds.balanced_of_returned returned
    have member := balanced.running task running
    have nodup := balanced.nodup
    rw [add_zero] at member nodup
    exact Multiset.count_eq_one_of_mem nodup member

namespace Sample

/-- One outcome for each request, with the result of binding. -/
def resolve (bound : Fallible (Nat × Nat)) (relays : Relays) :
    (op : Request) → Option (op.Answer × Relays)
  | .bindPortPair => some (bound, relays)
  | .spawnRelay _ => some (relays.started, { relays with
      running := insert relays.started relays.running
      started := relays.started + 1 })
  | .stop task => some ((), { relays with running := relays.running.erase task })
  | .now => some (0, relays)
  | .insert callId session =>
    some ((), { relays with sessions := AList.insert callId session relays.sessions })
  | .remove callId => some (relays.sessions.lookup callId,
      { relays with sessions := relays.sessions.erase callId })
  | .takeStale _ => none

/-- The outcomes with a result of binding. -/
def resolver (bound : Fallible (Nat × Nat)) : system.Resolver where
  resolve := resolve bound
  sound := by
    intro relays op answer after resolved
    cases op with
    | takeStale maxAgeSecs => cases resolved
    | bindPortPair => exact (congrArg Prod.snd (Option.some.inj resolved)).symm
    | now => exact (congrArg Prod.snd (Option.some.inj resolved)).symm
    | stop task => exact (congrArg Prod.snd (Option.some.inj resolved)).symm
    | insert callId session => exact (congrArg Prod.snd (Option.some.inj resolved)).symm
    | spawnRelay side =>
      obtain ⟨rfl, rfl⟩ := Prod.mk.inj (Option.some.inj resolved)
      exact ⟨rfl, rfl⟩
    | remove callId =>
      obtain ⟨rfl, rfl⟩ := Prod.mk.inj (Option.some.inj resolved)
      exact ⟨rfl, rfl⟩

/-- Binding succeeds. -/
def binds : system.Resolver := resolver (.ok (10000, 10001))

/-- No port pair is left. -/
def full : system.Resolver := resolver (.error .media)

/-- The allocation of an audio and a video stream. -/
def call (callId : String) : Task :=
  .allocate callId.toList [⟨.audio, 0, 4000, true⟩, ⟨.video, 1, 4002, true⟩]

/-- Whether no session is replaced. -/
def permit : Permit system := fun relays _ event =>
  match event.op with
  | .insert callId _ => (relays.sessions.lookup callId).isNone
  | _ => true

theorem permit_sound {relays : Relays} {events : List system.Event} {event : system.Event}
    (passed : permit relays events event = true) : unrepeated.Allows relays events event := by
  intro callId session same
  unfold permit at passed
  rw [same] at passed
  exact Option.isNone_iff_eq_none.mp passed

end Sample

open Sample in
theorem relay_tasks_owned_failed :
    ∃ config : system.Config, Steps unrepeated ⟨.initial, [], []⟩ config ∧
      config.shared.running = {0, 1, 2, 3} ∧ config.shared.started = 6 ∧
      ∀ task ∈ config.shared.running, config.shared.owned.count task = 1 := by
  have computed : (Config.playUnder permit ⟨.initial, [], []⟩
      [.arrive (call "c"), .act 0 100 binds, .arrive (call "d"), .act 1 3 binds,
        .act 1 100 full]).any (fun config => config.threads.all (·.returned) &&
          decide (config.shared.running = {0, 1, 2, 3} ∧ config.shared.started = 6)) = true := by
    decide +kernel
  obtain ⟨config, played, checked⟩ := (Option.any_eq_true _ _).mp computed
  obtain ⟨returned, shared⟩ := Bool.and_eq_true_iff.mp checked
  have run : Steps unrepeated ⟨.initial, [], []⟩ config :=
    Config.playUnder_steps (fun _ _ _ => permit_sound) (by simp [unrepeated]) played
  obtain ⟨running, started⟩ := of_decide_eq_true shared
  refine ⟨config, run, running, started, fun task member => ?_⟩
  exact (relay_tasks_owned run task member).2 (List.all_eq_true.mp returned)

open Sample in
/-- A second allocation for a Call-ID replaces the session of the first, whose tasks run on and
belong to no stream of the map. -/
theorem relay_tasks_orphaned :
    ∃ config : system.Config, Steps (.free system) ⟨.initial, [], []⟩ config ∧
      (∀ thread ∈ config.threads, thread.returned = true) ∧
      0 ∈ config.shared.running ∧ config.shared.owned.count 0 = 0 := by
  have allows : ∀ relays events event,
      (Discipline.free system).Allows relays events event := fun _ _ _ => trivial
  have computed : (Config.play (⟨.initial, [], []⟩ : system.Config)
      [.arrive (call "c"), .act 0 100 binds, .arrive (call "c"), .act 1 100 binds]).any
        (fun config => config.threads.all (·.returned) &&
          decide (0 ∈ config.shared.running ∧ config.shared.owned.count 0 = 0)) = true := by
    decide +kernel
  obtain ⟨config, run, checked⟩ :=
    Config.exists_steps_of_play allows (fun _ _ => trivial) computed
  obtain ⟨returned, orphaned⟩ := Bool.and_eq_true_iff.mp checked
  exact ⟨config, run, List.all_eq_true.mp returned, of_decide_eq_true orphaned⟩

section Server

/-- A session as the server's own table of sessions has it. -/
def Session.toMediaSession (session : Session) : MediaSession :=
  ⟨session.streams.map (·.toMediaStream)⟩

/-- A request of the relay as the server takes it: relay tasks and the age of a session are left
out, and stale sessions are removed call by call. -/
def serverRequest : (op : Request) → Sip3.Action op.Answer
  | .bindPortPair => Sip3.Action.ask .bindPortPair
  | .spawnRelay _ => return 0
  | .stop _ => return ()
  | .now => return 0
  | .insert callId session => do
      let _ ← Sip3.Action.insertMedia callId session.toMediaSession
      return ()
  | .remove callId => do
      let found ← Sip3.Action.removeMedia callId
      return found.map fun session => ⟨session.streams.map (⟨·, 0, 0⟩), 0⟩
  | .takeStale _ => return []

theorem abortStreams_interpret (streams : List StreamSession) :
    (abortStreams streams).interpret serverRequest = .done () := by
  induction streams with
  | nil => rfl
  | cons stream streams ih => exact ih

/-- The streams of an allocation are those of the server's. -/
theorem allocateStreams_interpret (streams : List StreamSession)
    (media : List SdpMediaDescriptor) :
    ((allocateStreams streams media).interpret serverRequest >>= fun result =>
      (done (result.map (·.map (·.toMediaStream))) : Sip3.Action _)) =
    Proxy.allocateStreams media >>= fun result =>
      done (result.map (streams.map (·.toMediaStream) ++ ·)) := by
  induction media generalizing streams with
  | nil => simp [allocateStreams, Proxy.allocateStreams, interpret, Except.map]
  | cons descriptor rest ih =>
    refine congrArg (request _) (funext fun bound => ?_)
    cases bound with
    | error error =>
      change ((abortStreams streams >>= fun _ => done
        (Except.error error : Fallible (List StreamSession))).interpret serverRequest >>= _) = _
      rw [interpret_bind, abortStreams_interpret]
      rfl
    | ok ports =>
      refine (ih _).trans ?_
      change _ = ((Proxy.allocateStreams rest >>= _) >>= _)
      rw [bind_assoc_program]
      refine congrArg _ (funext fun result => ?_)
      cases result with
      | error error => rfl
      | ok allocated => simp [Except.map]

/-- The server allocates a session as the relay does. -/
theorem allocateSessionForMedia_interpret (callId : CallId) (media : List SdpMediaDescriptor) :
    (allocateSessionForMedia callId media).interpret serverRequest =
      Proxy.allocateSessionForMedia callId media >>= fun result =>
        done (result.map (·.streams)) := by
  dsimp only [allocateSessionForMedia, Proxy.allocateSessionForMedia]
  split
  · rfl
  have streams := allocateStreams_interpret [] (media.filter (·.active))
  have empty : ∀ result : Fallible (List MediaStream), result.map ([] ++ ·) = result := by
    intro result
    cases result <;> rfl
  simp only [List.map_nil, empty, bind_done] at streams
  rw [← streams, interpret_bind, bind_assoc_program, bind_assoc_program]
  refine congrArg _ (funext fun result => ?_)
  cases result with
  | error error => rfl
  | ok allocated => rfl

theorem removeSession_interpret (callId : CallId) :
    (removeSession callId).interpret serverRequest =
      Sip3.Action.removeMedia callId >>= fun _ => done () := by
  refine congrArg (request _) (funext fun found => ?_)
  cases found with
  | none => rfl
  | some session => exact abortStreams_interpret _

end Server

end Sip3.Relay
