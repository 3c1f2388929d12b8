import Mathlib.Data.List.AList
import Sip3.Response
import Sip3.Semantics.Trace

/-!
# The webhook outbox

`api/webhooks.rs` and `api/webhook_dispatcher.rs`. Deliveries are rows of a table; one worker
selects a batch of those that are due, posts them one after another and records each outcome.
Requests of administrators come in between. The worker gets the URL and the secret of a webhook
as one text, joined by the database and split again.

`||` is a parameter of the outbox: concatenation where the server runs with `PIPES_AS_CONCAT`,
and a logical OR otherwise. A statement that fails changes no row, so that a request of the API
whose statement fails is left out of a run; for the worker it ends the batch.
-/

namespace Sip3.Webhooks

open Text Semantics

/-- A row of `sip_webhooks`. The column `events_json` is the list it encodes. -/
structure Webhook where
  name : Str
  url : Str
  secret : Str
  events : List Str
  active : Int
  deriving DecidableEq

/-- `UpdateWebhook`. -/
structure UpdateWebhook where
  name : Option Str
  url : Option Str
  secret : Option Str
  events : Option (List Str)
  active : Option Int
  deriving DecidableEq

/-- The column `status` of a delivery. -/
inductive Status where
  | pending
  | delivered
  | failed
  | dead
  deriving DecidableEq

/-- A row of `sip_webhook_deliveries`. Times are seconds. -/
structure Delivery where
  id : Nat
  webhookId : Nat
  eventType : Str
  payload : Str
  status : Status
  attempts : Nat
  lastError : Option Str
  nextRetryAt : Option Nat
  deriving DecidableEq

/-- Why an attempt failed. -/
inductive Failure where
  /-- A response whose status is not a success. -/
  | http (status : Nat)
  /-- No response: the URL is not one, or the connection fails. -/
  | transport (text : Str)
  deriving DecidableEq

/-- The text stored for a failure. -/
def Failure.text : Failure → Str
  | http status => "http ".toList ++ Str.ofNat status
  | transport text => text

/-- A row of a batch, with the webhook it was joined with. -/
structure Selected where
  id : Nat
  eventType : Str
  payload : Str
  urlSecret : Str
  attempts : Nat
  webhook : Webhook
  deriving DecidableEq

/-- How an attempt ended. -/
inductive Outcome where
  | delivered
  | refused (failure : Failure)
  /-- The text with the URL and the secret could not be split. -/
  | unusable
  deriving DecidableEq

/-- Where the worker is. -/
inductive Worker where
  | idle
  /-- The rows of the batch that are left. -/
  | draining (rows : List Selected)
  /-- A row was attempted, and its outcome is still to be recorded. -/
  | attempted (row : Selected) (outcome : Outcome) (rest : List Selected)
  deriving DecidableEq

/-- A request the worker made: its signature is the HMAC of the payload under the key. -/
structure Posting where
  id : Nat
  url : Str
  key : Str
  payload : Str
  webhook : Webhook
  deriving DecidableEq

/-- The two tables, with the next values of their `AUTO_INCREMENT` columns. Deliveries are in the
order of their ids. -/
structure Tables where
  webhooks : AList fun _ : Nat => Webhook
  nextWebhook : Nat
  deliveries : List Delivery
  nextDelivery : Nat

/-- `MAX_ATTEMPTS`. -/
def maxAttempts : Nat := 10

/-- The condition of `drain_once` on a row. -/
def Delivery.due (row : Delivery) (now : Nat) : Bool :=
  match row.status with
  | .pending => true
  | .failed => row.nextRetryAt.all fun time => decide (time ≤ now)
  | .delivered | .dead => false

/-- The backoff of `maybe_retry` in seconds. -/
def backoffSecs (nextAttempt : Nat) : Nat :=
  min 60 (60 * 2 ^ min nextAttempt 6)

/-- What `maybe_retry` writes, for the number of attempts the batch was selected with. -/
def Delivery.maybeRetry (row : Delivery) (attempts : Nat) (failure : Failure) (now : Nat) :
    Delivery :=
  let nextAttempt := attempts + 1
  if maxAttempts ≤ nextAttempt then
    { row with status := .dead, attempts := nextAttempt, lastError := some failure.text }
  else
    { row with
      status := .failed
      attempts := nextAttempt
      lastError := some failure.text
      nextRetryAt := some (now + backoffSecs nextAttempt) }

/-- What `mark_failed` writes. -/
def Delivery.markFailed (row : Delivery) : Delivery :=
  { row with status := .failed, lastError := some "invalid url|secret row".toList }

/-- What a success writes. -/
def Delivery.markDelivered (row : Delivery) : Delivery :=
  { row with status := .delivered, lastError := none }

/-- The statement for the outcome of a row. -/
def Outcome.write (outcome : Outcome) (attempts now : Nat) (row : Delivery) : Delivery :=
  match outcome with
  | delivered => row.markDelivered
  | refused failure => row.maybeRetry attempts failure now
  | unusable => row.markFailed

namespace Tables

variable (tables : Tables)

/-- Change the row of a delivery. -/
def modify (id : Nat) (change : Delivery → Delivery) : Tables :=
  { tables with deliveries := tables.deliveries.map fun row =>
      if row.id = id then change row else row }

/-- `webhooks::create`. -/
def create (body : Webhook) : Except ApiError Tables :=
  if Str.trim body.name = [] ∨ Str.trim body.url = [] ∨ body.secret = [] then
    .error (badRequest "name, url, and secret are required")
  else if body.events = [] then
    .error (badRequest "events must contain at least one event type")
  else if tables.webhooks.entries.any fun entry => decide (entry.2.name = body.name) then
    .error ⟨409, "webhook name '".toList ++ body.name ++ "' already exists".toList⟩
  else .ok { tables with
    webhooks := tables.webhooks.insert tables.nextWebhook body
    nextWebhook := tables.nextWebhook + 1 }

/-- `webhooks::update`, which checks nothing. The name of another webhook fails its transaction. -/
def update (id : Nat) (body : UpdateWebhook) : Tables :=
  match tables.webhooks.lookup id with
  | none => tables
  | some webhook =>
    if tables.webhooks.entries.any fun entry =>
        decide (entry.1 ≠ id ∧ some entry.2.name = body.name) then tables
    else { tables with
      webhooks := tables.webhooks.insert id
        { name := body.name.getD webhook.name
          url := body.url.getD webhook.url
          secret := body.secret.getD webhook.secret
          events := body.events.getD webhook.events
          active := body.active.getD webhook.active } }

/-- `webhooks::delete`, which takes the deliveries along. -/
def delete (id : Nat) : Tables :=
  { tables with
    webhooks := tables.webhooks.erase id
    deliveries := tables.deliveries.filter fun row => decide (row.webhookId ≠ id) }

/-- The insertion of `enqueue` for one webhook that subscribed to the event. -/
def enqueue (webhookId : Nat) (eventType payload : Str) : Tables :=
  match tables.webhooks.lookup webhookId with
  | none => tables
  | some webhook =>
    if webhook.active = 1 ∧ eventType ∈ webhook.events then { tables with
      deliveries := tables.deliveries ++
        [⟨tables.nextDelivery, webhookId, eventType, payload, .pending, 0, none, none⟩]
      nextDelivery := tables.nextDelivery + 1 }
    else tables

/-- `webhooks::retry_delivery`. -/
def retryDelivery (id : Nat) : Tables :=
  tables.modify id fun row =>
    if row.status = .failed ∨ row.status = .dead then
      { row with status := .pending, nextRetryAt := none }
    else row

/-- A row joined with its webhook, with a meaning of `||`. -/
def join (pipes : Str → Str → Str) (row : Delivery) : Option Selected :=
  (tables.webhooks.lookup row.webhookId).map fun webhook =>
    ⟨row.id, row.eventType, row.payload, pipes (pipes webhook.url ['|']) webhook.secret,
      row.attempts, webhook⟩

/-- The batch of `drain_once`. -/
def select (pipes : Str → Str → Str) (now : Nat) : List Selected :=
  ((tables.deliveries.filter (·.due now)).filterMap (tables.join pipes)).take 50

end Tables

/-- What business code and administrators ask for. -/
inductive Request where
  | create (body : Webhook)
  | update (id : Nat) (body : UpdateWebhook)
  | delete (id : Nat)
  | enqueue (webhookId : Nat) (eventType payload : Str)
  | retryDelivery (id : Nat)
  deriving DecidableEq

/-- The tables after a request. One that is refused changes nothing. -/
def Request.apply (tables : Tables) : Request → Tables
  | create body =>
    match tables.create body with
    | .ok next => next
    | .error _ => tables
  | update id body => tables.update id body
  | delete id => tables.delete id
  | enqueue webhookId eventType payload => tables.enqueue webhookId eventType payload
  | retryDelivery id => tables.retryDelivery id

/-- The tables and the worker, with the requests the worker made. -/
structure Outbox where
  tables : Tables
  worker : Worker
  posts : List Posting

/-- No webhooks. -/
def Outbox.empty : Outbox := ⟨⟨∅, 0, [], 0⟩, .idle, []⟩

/-- What happens to the outbox. -/
inductive Event where
  | request (request : Request)
  /-- A pass of the worker starts at a time. -/
  | select (now : Nat)
  /-- The worker posts the next row, if it can be split, with an outcome. -/
  | attempt (outcome : Option Failure)
  /-- The outcome is recorded at a time, or the statement fails. -/
  | record (now : Nat) (stored : Bool)
  /-- The batch is done. -/
  | finish
  deriving DecidableEq

/-- The rows of the batch whose outcome is not recorded yet. -/
def Worker.rows : Worker → List Selected
  | idle => []
  | draining rows => rows
  | attempted row _ rest => row :: rest

/-- The request for a row, with the parts it was split into. -/
def Selected.posting (row : Selected) (url secret : Str) : Posting :=
  ⟨row.id, url, secret, row.payload, row.webhook⟩

namespace Outbox

variable (outbox : Outbox)

/-- The worker attempts a row of its batch. A request has an outcome, with or without a failure. -/
def attempt (row : Selected) (result : Option Failure) (rest : List Selected) : Outbox :=
  match Str.splitOnce '|' row.urlSecret with
  | some (url, secret) => { outbox with
      posts := outbox.posts ++ [row.posting url secret]
      worker := .attempted row (result.elim .delivered .refused) rest }
  | none => { outbox with worker := .attempted row .unusable rest }

/-- The statement that records an outcome. When it fails, the pass ends. -/
def record (row : Selected) (outcome : Outcome) (rest : List Selected) (now : Nat)
    (stored : Bool) : Outbox :=
  if stored then { outbox with
    tables := outbox.tables.modify row.id (outcome.write row.attempts now)
    worker := .draining rest }
  else { outbox with worker := .idle }

/-- One step of the outbox. -/
def step (pipes : Str → Str → Str) : Event → Option Outbox
  | .request request => some { outbox with tables := request.apply outbox.tables }
  | .select now =>
    match outbox.worker with
    | .idle => some { outbox with worker := .draining (outbox.tables.select pipes now) }
    | _ => none
  | .attempt result =>
    match outbox.worker with
    | .draining (row :: rest) => some (outbox.attempt row result rest)
    | _ => none
  | .record now stored =>
    match outbox.worker with
    | .attempted row outcome rest => some (outbox.record row outcome rest now stored)
    | _ => none
  | .finish =>
    match outbox.worker with
    | .draining [] => some { outbox with worker := .idle }
    | _ => none

/-- A run of the outbox. -/
abbrev Run (pipes : Str → Str → Str) (events : List Event) (outbox : Outbox) : Prop :=
  Trace (fun outbox => Outbox.step outbox pipes) Outbox.empty events outbox

end Outbox

section Steps

variable {pipes : Str → Str → Str} {before after : Outbox} {event : Event}

theorem Outbox.step_cases (taken : before.step pipes event = some after) :
    (∃ request, event = .request request ∧
      after = { before with tables := request.apply before.tables }) ∨
    (∃ now, event = .select now ∧ before.worker = .idle ∧
      after = { before with worker := .draining (before.tables.select pipes now) }) ∨
    (∃ result row rest, event = .attempt result ∧ before.worker = .draining (row :: rest) ∧
      after = before.attempt row result rest) ∨
    (∃ now stored row outcome rest, event = .record now stored ∧
      before.worker = .attempted row outcome rest ∧
      after = before.record row outcome rest now stored) ∨
    (event = .finish ∧ before.worker = .draining [] ∧ after = { before with worker := .idle }) := by
  cases event with
  | request request => exact .inl ⟨request, rfl, (Option.some.inj taken).symm⟩
  | select now =>
    simp only [Outbox.step] at taken
    split at taken
    · next resting => exact .inr (.inl ⟨now, rfl, resting, (Option.some.inj taken).symm⟩)
    · cases taken
  | attempt result =>
    simp only [Outbox.step] at taken
    split at taken
    · next row rest working =>
        exact .inr (.inr (.inl ⟨result, row, rest, rfl, working, (Option.some.inj taken).symm⟩))
    · cases taken
  | record now stored =>
    simp only [Outbox.step] at taken
    split at taken
    · next row outcome rest working =>
        exact .inr (.inr (.inr (.inl
          ⟨now, stored, row, outcome, rest, rfl, working, (Option.some.inj taken).symm⟩)))
    · cases taken
  | finish =>
    simp only [Outbox.step] at taken
    split at taken
    · next working =>
        exact .inr (.inr (.inr (.inr ⟨rfl, working, (Option.some.inj taken).symm⟩)))
    · cases taken

theorem Outbox.step_attempt {result : Option Failure}
    (taken : before.step pipes (.attempt result) = some after) :
    ∃ row rest, before.worker = .draining (row :: rest) ∧
      after = before.attempt row result rest := by
  rcases Outbox.step_cases taken with ⟨request, other, -⟩ | ⟨now, other, -⟩ |
    ⟨_, row, rest, same, working, shape⟩ | ⟨now, stored, row, outcome, rest, other, -⟩ | ⟨other, -⟩
  · cases other
  · cases other
  · cases same
    exact ⟨row, rest, working, shape⟩
  · cases other
  · cases other

/-- A step selects a batch or adds no rows to the one there is. -/
theorem Outbox.step_rows (taken : before.step pipes event = some after) :
    (∃ now, event = .select now ∧ after.worker.rows = before.tables.select pipes now) ∨
      (∀ now, event ≠ .select now) ∧ after.worker.rows ⊆ before.worker.rows := by
  rcases Outbox.step_cases taken with ⟨request, rfl, rfl⟩ | ⟨now, rfl, -, rfl⟩ |
    ⟨result, row, rest, rfl, working, rfl⟩ | ⟨now, stored, row, outcome, rest, rfl, working, rfl⟩ |
    ⟨rfl, -, rfl⟩
  · exact .inr ⟨by simp, List.Subset.refl _⟩
  · exact .inl ⟨now, rfl, rfl⟩
  · refine .inr ⟨by simp, ?_⟩
    rw [working, Outbox.attempt]
    split <;> exact List.Subset.refl _
  · refine .inr ⟨by simp, ?_⟩
    rw [working, Outbox.record]
    split
    · exact List.subset_cons_self row rest
    · exact List.nil_subset _
  · exact .inr ⟨by simp, List.nil_subset _⟩

end Steps

/-- `||` as concatenation. -/
def concatenation (left right : Str) : Str := left ++ right

/-- A row of a batch is a row of the table that was due, joined with its webhook. -/
theorem Tables.mem_select {tables : Tables} {pipes : Str → Str → Str} {now : Nat} {row : Selected}
    (member : row ∈ tables.select pipes now) :
    ∃ delivery ∈ tables.deliveries, delivery.due now = true ∧
      tables.join pipes delivery = some row := by
  obtain ⟨delivery, kept, joined⟩ := List.mem_filterMap.mp (List.mem_of_mem_take member)
  obtain ⟨stored, due⟩ := List.mem_filter.mp kept
  exact ⟨delivery, stored, due, joined⟩

theorem Tables.join_eq_some {tables : Tables} {pipes : Str → Str → Str} {delivery : Delivery}
    {row : Selected} (joined : tables.join pipes delivery = some row) :
    tables.webhooks.lookup delivery.webhookId = some row.webhook ∧ row.id = delivery.id ∧
      row.payload = delivery.payload ∧ row.attempts = delivery.attempts ∧
      row.urlSecret = pipes (pipes row.webhook.url ['|']) row.webhook.secret := by
  obtain ⟨webhook, found, rfl⟩ := Option.map_eq_some_iff.mp joined
  exact ⟨found, rfl, rfl, rfl, rfl⟩

/-- A row of the batch that the worker selected last. -/
def FromBatch (pipes : Str → Str → Str) (events : List Event) (row : Selected) : Prop :=
  ∃ earlier later selecting delivery now, events = earlier ++ .select now :: later ∧
    (∀ other, .select other ∉ later) ∧ Outbox.Run pipes earlier selecting ∧
    delivery ∈ selecting.tables.deliveries ∧ delivery.due now = true ∧
    selecting.tables.join pipes delivery = some row

theorem Outbox.Run.fromBatch {pipes : Str → Str → Str} {events : List Event} {outbox : Outbox}
    (run : Outbox.Run pipes events outbox) :
    ∀ row ∈ outbox.worker.rows, FromBatch pipes events row := by
  induction run with
  | start =>
    intro row member
    cases member
  | @step events before after event prior taken ih =>
    intro row member
    rcases Outbox.step_rows taken with ⟨now, rfl, selected⟩ | ⟨other, fewer⟩
    · rw [selected] at member
      obtain ⟨delivery, stored, due, joined⟩ := Tables.mem_select member
      exact ⟨events, [], before, delivery, now, rfl, by simp, prior, stored, due, joined⟩
    · obtain ⟨earlier, later, selecting, delivery, now, rfl, last, rest⟩ := ih row (fewer member)
      refine ⟨earlier, later ++ [event], selecting, delivery, now, by simp, fun time => ?_, rest⟩
      simpa using ⟨last time, (other time).symm⟩

/-- A text joined from two parts is split into them when the first has no separator. Otherwise
the first part is cut short. -/
theorem splitOnce_joined_iff (url secret : Str) :
    ∃ first second, Str.splitOnce '|' (concatenation (concatenation url ['|']) secret) =
      some (first, second) ∧ ((first = url ∧ second = secret) ↔ '|' ∉ url) := by
  by_cases bar : '|' ∈ url
  · obtain ⟨left, right, rfl, clean⟩ := List.eq_append_cons_of_mem bar
    refine ⟨left, right ++ '|' :: secret, ?_, ?_⟩
    · have text : concatenation (concatenation (left ++ '|' :: right) ['|']) secret =
          left ++ '|' :: (right ++ '|' :: secret) := by
        simp [concatenation]
      rw [text, Str.splitOnce_append clean]
    · constructor
      · rintro ⟨short, -⟩
        have shorter := congrArg List.length short
        simp at shorter
      · exact fun absent => absurd bar absent
  · refine ⟨url, secret, ?_, fun _ => bar, fun _ => ⟨rfl, rfl⟩⟩
    have text : concatenation (concatenation url ['|']) secret = url ++ '|' :: secret := by
      simp [concatenation]
    rw [text, Str.splitOnce_append bar]

/-- Whatever happened before, an attempt makes a request for a delivery that was due when the worker
selected its batch. It goes to the URL of its webhook and is signed with its secret as they were then exactly
when no `|` is in the URL. -/
theorem webhook_target_exact_iff {events : List Event} {before after : Outbox}
    {result : Option Failure} (run : Outbox.Run concatenation events before)
    (taken : before.step concatenation (.attempt result) = some after) :
    ∃ earlier later selecting delivery now webhook posting,
      events = earlier ++ .select now :: later ∧ (∀ other, .select other ∉ later) ∧
      Outbox.Run concatenation earlier selecting ∧
      delivery ∈ selecting.tables.deliveries ∧ delivery.due now = true ∧
      selecting.tables.webhooks.lookup delivery.webhookId = some webhook ∧
      after.posts = before.posts ++ [posting] ∧ posting.webhook = webhook ∧
      posting.id = delivery.id ∧ posting.payload = delivery.payload ∧
      ((posting.url = webhook.url ∧ posting.key = webhook.secret) ↔ '|' ∉ webhook.url) := by
  obtain ⟨row, rest, working, rfl⟩ := Outbox.step_attempt taken
  have member : row ∈ before.worker.rows := by
    rw [working]
    exact List.mem_cons_self
  obtain ⟨earlier, later, selecting, delivery, now, part, last, selected, stored, due, joined⟩ :=
    run.fromBatch row member
  obtain ⟨found, sameId, samePayload, -, text⟩ := Tables.join_eq_some joined
  obtain ⟨first, second, halves, exact_iff⟩ :=
    splitOnce_joined_iff row.webhook.url row.webhook.secret
  refine ⟨earlier, later, selecting, delivery, now, row.webhook, row.posting first second, part,
    last, selected, stored, due, found, ?_, rfl, sameId, samePayload, exact_iff⟩
  rw [Outbox.attempt, text, halves]

/-- A webhook for one kind of event. -/
def sample (url : String) : Webhook :=
  ⟨"calls".toList, url.toList, "s3cret".toList, ["call.ended".toList], 1⟩

/-- A webhook is created, an event is delivered to it, and the worker selects the delivery. -/
def sampleEvents (url : String) : List Event :=
  [.request (.create (sample url)), .request (.enqueue 0 "call.ended".toList "\x7b\x7d".toList),
    .select 0]

theorem webhook_target_exact_plain :
    ∃ before after, Outbox.Run concatenation (sampleEvents "http://host/hook") before ∧
      before.step concatenation (.attempt none) = some after ∧
      ∃ posting, after.posts = before.posts ++ [posting] ∧
        posting.webhook = sample "http://host/hook" ∧
        ((posting.url = posting.webhook.url ∧ posting.key = posting.webhook.secret) ↔
          '|' ∉ posting.webhook.url) := by
  have played : (playTrace (fun outbox => Outbox.step outbox concatenation) Outbox.empty
      (sampleEvents "http://host/hook")).any
        (fun before => (before.step concatenation (.attempt none)).any fun after =>
          ∀ posting ∈ after.posts, posting.webhook = sample "http://host/hook") = true := by
    decide +kernel
  obtain ⟨before, steps, next⟩ := (Option.any_eq_true _ _).mp played
  obtain ⟨after, taken, shown⟩ := (Option.any_eq_true _ _).mp next
  have run := trace_of_playTrace steps
  obtain ⟨-, -, -, -, -, webhook, posting, -, -, -, -, -, -, posts, rfl, -, -, exact_iff⟩ :=
    webhook_target_exact_iff run taken
  refine ⟨before, after, run, taken, posting, posts, of_decide_eq_true shown posting ?_, exact_iff⟩
  rw [posts]
  exact List.mem_append_right _ List.mem_cons_self

/-- A URL with a `|` is accepted, and the part after it goes into the key of the signature. -/
theorem webhook_target_cut :
    ∃ outbox posting,
      Outbox.Run concatenation (sampleEvents "http://host/a|b" ++ [.attempt none]) outbox ∧
      outbox.tables.webhooks.lookup 0 = some (sample "http://host/a|b") ∧
      outbox.posts = [posting] ∧ posting.webhook = sample "http://host/a|b" ∧
      posting.url = "http://host/a".toList ∧ posting.key = "b|s3cret".toList := by
  have played : (playTrace (fun outbox => Outbox.step outbox concatenation) Outbox.empty
      (sampleEvents "http://host/a|b" ++ [.attempt none])).any (fun outbox =>
        decide (outbox.tables.webhooks.lookup 0 = some (sample "http://host/a|b") ∧
          outbox.posts = [⟨0, "http://host/a".toList, "b|s3cret".toList, "\x7b\x7d".toList,
            sample "http://host/a|b"⟩])) = true := by
    decide +kernel
  obtain ⟨outbox, steps, facts⟩ := (Option.any_eq_true _ _).mp played
  obtain ⟨stored, posts⟩ := of_decide_eq_true facts
  exact ⟨outbox, _, trace_of_playTrace steps, stored, posts, rfl, rfl, rfl⟩

end Sip3.Webhooks
