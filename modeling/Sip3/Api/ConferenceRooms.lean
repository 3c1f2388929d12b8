import Sip3.Server.Scenario

/-!
# Administration of conference rooms

`api/conferences.rs`: rooms are created and updated over the API, and the PIN of a room
is stored as a hash that the conference endpoint checks an INVITE against. An update
writes every column, and keeps a value that was not supplied by `COALESCE`, except for
the hash of the PIN: a request without a PIN sets it to NULL, and one with an empty PIN
to an empty text that no PIN verifies.
-/

namespace Sip3.ConferenceRooms

open Text

/-- A row of `sip_conference_rooms`. -/
structure RoomRow where
  extension : Str
  domain : Str
  name : Str
  enabled : Int
  maxParticipants : Nat
  pinHash : Option Str
  deriving DecidableEq

/-- `CreateConferenceRoom`. -/
structure CreateRoom where
  extension : Str
  name : Str
  domain : Option Str
  maxParticipants : Option Nat
  enabled : Option Int
  pin : Option Str

/-- `UpdateConferenceRoom`. -/
structure UpdateRoom where
  name : Option Str
  domain : Option Str
  maxParticipants : Option Nat
  enabled : Option Int
  pin : Option Str

/-- The table, with the next value of its `AUTO_INCREMENT` column. -/
structure Rooms where
  rows : AList fun _ : Nat => RoomRow
  nextId : Nat

/-- What is decided outside during a request: `bcrypt::hash`, which may fail, and the error of
the statement, if it is not carried out. -/
structure Outcome where
  hash : Str → Option Str
  failure : Option Str

/-- Whether a number of participants is within the limits. -/
def validParticipants (count : Nat) : Bool :=
  !(count = 0 || count > 200)

/-- The hash of a PIN of the right length. -/
def hashPin (outcome : Outcome) (pin : Str) : Except ApiError Str :=
  if Str.byteLength pin < 4 ∨ Str.byteLength pin > 16 then
    .error (badRequest "PIN must be between 4 and 16 characters")
  else
    match outcome.hash pin with
    | none => .error ⟨500, "Failed to hash PIN".toList⟩
    | some hash => .ok hash

/-- The hash `create` stores. -/
def createdHash (outcome : Outcome) : Option Str → Except ApiError (Option Str)
  | none => .ok none
  | some pin => (hashPin outcome pin).map some

/-- The hash `update` stores. -/
def updatedHash (outcome : Outcome) : Option Str → Except ApiError (Option Str)
  | none => .ok none
  | some pin => if pin = [] then .ok (some []) else (hashPin outcome pin).map some

/-- Whether a row other than the given one has the extension and the domain. -/
def Rooms.taken (rooms : Rooms) (own : Option Nat) (extension domain : Str) : Bool :=
  rooms.rows.entries.any fun entry =>
    some entry.1 ≠ own && entry.2.extension = extension && entry.2.domain = domain

/-- `create`. -/
def create (realm : Str) (outcome : Outcome) (rooms : Rooms) (body : CreateRoom) :
    Except ApiError Nat × Rooms :=
  let domain := body.domain.getD realm
  let maxParticipants := body.maxParticipants.getD 20
  if Str.trim body.name = [] then (.error (badRequest "name is required"), rooms)
  else if !Conference.validateConferenceExtension body.extension then
    (.error (badRequest "Conference extension must be exactly 9 digits"), rooms)
  else if !validParticipants maxParticipants then
    (.error (badRequest "max_participants must be between 1 and 200"), rooms)
  else
    match createdHash outcome body.pin with
    | .error error => (.error error, rooms)
    | .ok pinHash =>
      match outcome.failure with
      | some text => (.error ⟨500, text⟩, rooms)
      | none =>
        if rooms.taken none body.extension domain then
          (.error ⟨409, "Conference room already exists for this extension and domain".toList⟩,
            rooms)
        else
          (.ok rooms.nextId,
            ⟨rooms.rows.insert rooms.nextId ⟨body.extension, domain, Str.trim body.name,
              body.enabled.getD 1, maxParticipants, pinHash⟩, rooms.nextId + 1⟩)

/-- The columns of the `UPDATE`. -/
def updatedRow (row : RoomRow) (body : UpdateRoom) (pinHash : Option Str) : RoomRow :=
  { row with
    name := (body.name.map Str.trim).getD row.name
    domain := body.domain.getD row.domain
    maxParticipants := body.maxParticipants.getD row.maxParticipants
    enabled := body.enabled.getD row.enabled
    pinHash := pinHash }

@[simp] theorem updatedRow_pinHash (row : RoomRow) (body : UpdateRoom) (pinHash : Option Str) :
    (updatedRow row body pinHash).pinHash = pinHash :=
  rfl

/-- `update`. A row that would have the extension and the domain of another one is an error of
the statement. -/
def update (outcome : Outcome) (rooms : Rooms) (id : Nat) (body : UpdateRoom) :
    Except ApiError Nat × Rooms :=
  if body.maxParticipants.any (!validParticipants ·) then
    (.error (badRequest "max_participants must be between 1 and 200"), rooms)
  else
    match updatedHash outcome body.pin with
    | .error error => (.error error, rooms)
    | .ok pinHash =>
      match outcome.failure with
      | some text => (.error ⟨500, text⟩, rooms)
      | none =>
        match rooms.rows.lookup id with
        | none => (.error ⟨404, "Conference room not found".toList⟩, rooms)
        | some row =>
          if rooms.taken (some id) row.extension (body.domain.getD row.domain) then
            (.error ⟨500, "Duplicate entry".toList⟩, rooms)
          else (.ok id, { rooms with rows := rooms.rows.insert id (updatedRow row body pinHash) })

/-- A request to the API. -/
inductive Call where
  | create (body : CreateRoom)
  | update (id : Nat) (body : UpdateRoom)

/-- The PIN field of a request. -/
def Call.pin : Call → Option Str
  | create body => body.pin
  | update _ body => body.pin

/-- The response to a request, with the id of the room when it succeeds, and the table after it. -/
def handle (realm : Str) (outcome : Outcome) (rooms : Rooms) : Call → Except ApiError Nat × Rooms
  | .create body => create realm outcome rooms body
  | .update id body => update outcome rooms id body

/-- A request that fails leaves the table as it was. One that succeeds writes one row, with the
hash its PIN field asks for: the row of a new room, or of the room that was named. -/
theorem handle_cases (realm : Str) (outcome : Outcome) (rooms : Rooms) (call : Call) :
    (∃ error, handle realm outcome rooms call = (.error error, rooms)) ∨
      (∃ body row pinHash, call = .create body ∧ createdHash outcome body.pin = .ok pinHash ∧
        row.pinHash = pinHash ∧ handle realm outcome rooms call =
          (.ok rooms.nextId, ⟨rooms.rows.insert rooms.nextId row, rooms.nextId + 1⟩)) ∨
      ∃ id body row pinHash, call = .update id body ∧ rooms.rows.lookup id = some row ∧
        updatedHash outcome body.pin = .ok pinHash ∧ handle realm outcome rooms call =
          (.ok id, { rooms with rows := rooms.rows.insert id (updatedRow row body pinHash) }) := by
  cases call with
  | create body =>
    simp only [handle, create]
    split
    · exact .inl ⟨_, rfl⟩
    split
    · exact .inl ⟨_, rfl⟩
    split
    · exact .inl ⟨_, rfl⟩
    split
    · exact .inl ⟨_, rfl⟩
    · next pinHash hashed =>
        split
        · exact .inl ⟨_, rfl⟩
        split
        · exact .inl ⟨_, rfl⟩
        · exact .inr (.inl ⟨body, _, pinHash, rfl, hashed, rfl, rfl⟩)
  | update id body =>
    simp only [handle, update]
    split
    · exact .inl ⟨_, rfl⟩
    split
    · exact .inl ⟨_, rfl⟩
    · next pinHash hashed =>
        split
        · exact .inl ⟨_, rfl⟩
        split
        · exact .inl ⟨_, rfl⟩
        · next row found =>
            split
            · exact .inl ⟨_, rfl⟩
            · exact .inr (.inr ⟨id, body, row, pinHash, rfl, found, hashed, rfl⟩)

theorem hashPin_ok {outcome : Outcome} {pin hash : Str} (hashed : hashPin outcome pin = .ok hash) :
    pin ≠ [] ∧ outcome.hash pin = some hash := by
  unfold hashPin at hashed
  split at hashed
  · cases hashed
  · next length =>
      constructor
      · rintro rfl
        exact length (.inl (by decide))
      · split at hashed
        · cases hashed
        · next found => rw [found, Except.ok.inj hashed]

/-- The requests made so far with their responses, oldest first. -/
abbrev Trace := List (Call × Except ApiError Nat)

/-- The PIN field of the latest request for a room that supplied one and succeeded. -/
def lastPin (id : Nat) (trace : Trace) : Option Str :=
  trace.foldl (fun last entry => if entry.2 = .ok id then entry.1.pin.or last else last) none

theorem lastPin_concat (id : Nat) (trace : Trace) (call : Call) (response : Except ApiError Nat) :
    lastPin id (trace ++ [(call, response)]) =
      if response = .ok id then call.pin.or (lastPin id trace) else lastPin id trace := by
  simp [lastPin]

/-- The answer an administrator expects: no PIN was ever supplied, or the last one supplied was
empty, or the INVITE has it. -/
def Expected (last : Option Str) (msg : SipMessage) : Prop :=
  last = none ∨ last = some [] ∨ ∃ pin, last = some pin ∧ pin ≠ [] ∧
    Conference.extractPinFromUri (msg.requestUri.getD []) = some pin

section Runs

variable (server : Server) (realm : Str)

/-- `bcrypt::verify` accepts exactly the text that was hashed. -/
def Outcome.Verifiable (outcome : Outcome) : Prop :=
  ∀ pin hash, outcome.hash pin = some hash → ∀ typed,
    (server.platform.bcryptVerify typed hash).getD false = true ↔ typed = pin

/-- Requests handled one after another, each under a condition on the table before it. -/
inductive Administered (Meets : Rooms → Call → Prop) (start : Rooms) : Trace → Rooms → Prop where
  | start : Administered Meets start [] start
  | call {trace : Trace} {rooms : Rooms} (prior : Administered Meets start trace rooms)
      (request : Call) (outcome : Outcome) (verifiable : outcome.Verifiable server)
      (met : Meets rooms request) :
      Administered Meets start (trace ++ [(request, (handle realm outcome rooms request).1)])
        (handle realm outcome rooms request).2

/-- An update of the room supplies a PIN, or there is none to lose. -/
def KeepsPin (id : Nat) (rooms : Rooms) : Call → Prop
  | .create _ => True
  | .update room body => room = id → body.pin ≠ some [] ∧
      (body.pin = none → ∀ row, rooms.rows.lookup id = some row → row.pinHash = none)

/-- What is stored for a PIN: nothing when none was supplied, and otherwise a hash that verifies
the last one. -/
def Stores (last : Option Str) (pinHash : Option Str) : Prop :=
  (last = none ∧ pinHash = none) ∨ ∃ pin hash, last = some pin ∧ pin ≠ [] ∧ pinHash = some hash ∧
    ∀ typed, (server.platform.bcryptVerify typed hash).getD false = true ↔ typed = pin

variable {server realm} {id : Nat} {outcome : Outcome} {pin pinHash : Option Str} {trace : Trace}
  {rooms : Rooms} {request : Call}

theorem stores_of_hashPin {pin hash : Str} (verifiable : outcome.Verifiable server)
    (hashed : hashPin outcome pin = .ok hash) : Stores server (some pin) (some hash) := by
  obtain ⟨present, made⟩ := hashPin_ok hashed
  exact .inr ⟨pin, hash, rfl, present, rfl, verifiable pin hash made⟩

theorem stores_of_createdHash (verifiable : outcome.Verifiable server)
    (hashed : createdHash outcome pin = .ok pinHash) : Stores server pin pinHash := by
  cases pin with
  | none => exact .inl ⟨rfl, (Except.ok.inj hashed).symm⟩
  | some pin =>
    cases made : hashPin outcome pin with
    | error error =>
      rw [createdHash, made] at hashed
      cases hashed
    | ok hash =>
      rw [createdHash, made] at hashed
      cases hashed
      exact stores_of_hashPin verifiable made

theorem stores_of_updatedHash (verifiable : outcome.Verifiable server) (supplied : pin ≠ some [])
    (hashed : updatedHash outcome pin = .ok pinHash) : Stores server pin pinHash := by
  cases pin with
  | none => exact .inl ⟨rfl, (Except.ok.inj hashed).symm⟩
  | some pin =>
    rw [updatedHash, if_neg fun empty => supplied (congrArg some empty)] at hashed
    exact stores_of_createdHash verifiable hashed

theorem Stores.expected {last pinHash : Option Str} (stores : Stores server last pinHash)
    (msg : SipMessage) : Conference.pinRejection server msg pinHash = none ↔ Expected last msg := by
  obtain ⟨rfl, rfl⟩ | ⟨pin, hash, rfl, present, rfl, verifies⟩ := stores
  · exact iff_of_true rfl (.inl rfl)
  · have expected : Expected (some pin) msg ↔
        Conference.extractPinFromUri (msg.requestUri.getD []) = some pin := by
      constructor
      · rintro (none | empty | ⟨_, same, -, given⟩)
        · cases none
        · exact absurd (Option.some.inj empty) present
        · rw [given, Option.some.inj same]
      · intro given
        exact .inr (.inr ⟨pin, rfl, present, given⟩)
    rw [expected]
    unfold Conference.pinRejection
    cases Conference.extractPinFromUri (msg.requestUri.getD []) with
    | none => exact iff_of_false nofun nofun
    | some typed =>
      simp only [Option.some.injEq, ← verifies typed]
      split <;> simp_all

/-- The invariant of administration: ids are not used again, and every room stores its last
PIN. -/
structure Settled (server : Server) (id : Nat) (trace : Trace) (rooms : Rooms) : Prop where
  fresh : ∀ room ∈ rooms.rows, room < rooms.nextId
  unseen : rooms.nextId ≤ id → lastPin id trace = none
  stored : ∀ row, rooms.rows.lookup id = some row → Stores server (lastPin id trace) row.pinHash

/-- A request that writes one row, new or not, with what is to be stored when the row is that of
the room. -/
theorem Settled.write (settled : Settled server id trace rooms) {room nextId : Nat}
    {row : RoomRow} (fresh : room < nextId) (grows : rooms.nextId ≤ nextId)
    (stores : room = id → Stores server (request.pin.or (lastPin id trace)) row.pinHash) :
    Settled server id (trace ++ [(request, .ok room)]) ⟨rooms.rows.insert room row, nextId⟩ := by
  refine ⟨fun other member => ?_, fun unused => ?_, fun later found => ?_⟩
  · rcases AList.mem_insert _ |>.mp member with rfl | old
    · exact fresh
    · exact lt_of_lt_of_le (settled.fresh other old) grows
  · have other : (Except.ok room : Except ApiError Nat) ≠ .ok id := by
      rintro ⟨⟩
      exact absurd unused (Nat.not_le.mpr fresh)
    rw [lastPin_concat, if_neg other]
    exact settled.unseen (grows.trans unused)
  · rw [lastPin_concat]
    by_cases own : room = id
    · subst own
      cases (AList.lookup_insert _).symm.trans found
      rw [if_pos rfl]
      exact stores rfl
    · rw [if_neg fun same => own (Except.ok.inj same)]
      exact settled.stored later ((AList.lookup_insert_ne (Ne.symm own)).symm.trans found)

/-- A request that keeps the PIN of a room keeps the invariant. -/
theorem Settled.handle (settled : Settled server id trace rooms)
    (verifiable : outcome.Verifiable server) (met : KeepsPin id rooms request) :
    Settled server id (trace ++ [(request, (handle realm outcome rooms request).1)])
      (handle realm outcome rooms request).2 := by
  obtain ⟨error, failed⟩ | ⟨body, row, pinHash, rfl, hashed, rfl, created⟩ |
    ⟨room, body, row, pinHash, rfl, found, hashed, updated⟩ :=
      handle_cases realm outcome rooms request
  · rw [failed]
    refine ⟨settled.fresh, fun unused => ?_, fun row found => ?_⟩
    · rw [lastPin_concat, if_neg nofun]
      exact settled.unseen unused
    · rw [lastPin_concat, if_neg nofun]
      exact settled.stored row found
  · rw [created]
    refine settled.write (Nat.lt_succ_self _) (Nat.le_succ _) fun new => ?_
    rw [settled.unseen new.le, Option.or_none]
    exact stores_of_createdHash verifiable hashed
  · rw [updated]
    have present : room ∈ rooms.rows := AList.lookup_isSome.mp (by rw [found]; rfl)
    refine settled.write (settled.fresh _ present) le_rfl fun own => ?_
    subst own
    obtain ⟨supplied, kept⟩ := met rfl
    have stores := stores_of_updatedHash verifiable supplied hashed
    cases pin : body.pin with
    | some given =>
      rw [pin] at stores
      simpa [Call.pin, pin] using stores
    | none =>
      -- Nothing is supplied, so there was no PIN before, and the hash stays NULL.
      obtain ⟨last, -⟩ | ⟨_, _, -, -, stored, -⟩ := settled.stored row found
      · rw [pin] at stores
        simpa [Call.pin, pin, last] using stores
      · exact nomatch (kept pin row found).symm.trans stored

end Runs

/-- When no update clears the PIN of a room with an empty text, and none leaves the PIN out while
one is stored, the last PIN that was supplied decides about every INVITE to the room. -/
theorem pin_decides_admission {server : Server} {realm : Str} {id : Nat} {start rooms : Rooms}
    {trace : Trace} (numbered : ∀ room ∈ start.rows, room < start.nextId)
    (pinless : ∀ row, start.rows.lookup id = some row → row.pinHash = none)
    (administered : Administered server realm (KeepsPin id) start trace rooms) (row : RoomRow)
    (found : rooms.rows.lookup id = some row) (msg : SipMessage) :
    Conference.pinRejection server msg row.pinHash = none ↔ Expected (lastPin id trace) msg := by
  have settled : Settled server id trace rooms := by
    clear found
    induction administered with
    | start => exact ⟨numbered, fun _ => rfl, fun row found => .inl ⟨rfl, pinless row found⟩⟩
    | call prior request outcome verifiable met ih => exact ih.handle verifiable met
  exact (settled.stored row found).expected msg

namespace Sample

open Scenario

/-- A hash that is the PIN itself, and a database that works. -/
def plainHash : Outcome := ⟨some, none⟩

theorem plainHash_verifiable : plainHash.Verifiable mailServer := by
  rintro pin _ ⟨⟩ typed
  simp [mailServer]

/-- No rooms. -/
def noRooms : Rooms := ⟨∅, 1⟩

/-- A room with the PIN 1234. -/
def guarded : Call :=
  .create ⟨"900000001".toList, "Board".toList, none, none, none, some "1234".toList⟩

/-- A new name for the room, with or without a PIN field. -/
def renamed (pin : Option Str) : Call :=
  .update 1 ⟨some "Council".toList, none, none, none, pin⟩

/-- The table and the answers after requests. -/
def after (calls : List Call) : Trace × Rooms :=
  calls.foldl (fun (trace, rooms) call =>
    (trace ++ [(call, (handle [] plainHash rooms call).1)], (handle [] plainHash rooms call).2))
    ([], noRooms)

theorem administered_after {Meets : Rooms → Call → Prop} (calls : List Call) (call : Call)
    (prior : Administered mailServer [] Meets noRooms (after calls).1 (after calls).2)
    (met : Meets (after calls).2 call) :
    Administered mailServer [] Meets noRooms (after (calls ++ [call])).1
      (after (calls ++ [call])).2 := by
  simp only [after, List.foldl_append, List.foldl_cons, List.foldl_nil]
  exact prior.call call plainHash plainHash_verifiable met

theorem administered_any (calls : List Call) :
    Administered mailServer [] (fun _ _ => True) noRooms (after calls).1 (after calls).2 := by
  induction calls using List.reverseRecOn with
  | nil => exact .start
  | append_singleton calls call ih => exact administered_after calls call ih trivial

/-- An INVITE to the room, with the parameters of its URI. -/
def inviteRoom (parameters : String) : SipMessage :=
  ⟨some "INVITE".toList, some ("sip:900000001@t".toList ++ parameters.toList), none, ∅, [], []⟩

/-- The row of the room after requests. -/
def rowAfter (calls : List Call) : Option RoomRow := (after calls).2.rows.lookup 1

/-- Whether the INVITE passes the check of the PIN. -/
def admitted (row : Option RoomRow) (msg : SipMessage) : Bool :=
  row.any fun row => Conference.pinRejection mailServer msg row.pinHash = none

end Sample

open Scenario

open Sample in
/-- A room is created with the PIN 1234 and renamed with the PIN 5678, which admits the INVITE
that has it. -/
theorem pin_decides_admission_renamed :
    ∃ trace rooms row, Administered mailServer [] (KeepsPin 1) noRooms trace rooms ∧
      rooms.rows.lookup 1 = some row ∧ lastPin 1 trace = some "5678".toList ∧
      Conference.pinRejection mailServer (inviteRoom ";pin=5678") row.pinHash =
        none := by
  have first : Administered mailServer [] (KeepsPin 1) noRooms (after [guarded]).1
      (after [guarded]).2 := administered_after [] _ .start trivial
  have second := administered_after _ (renamed (some "5678".toList)) first
    fun _ => ⟨by decide, nofun⟩
  obtain ⟨row, found⟩ := Option.isSome_iff_exists.mp
    (show (rowAfter [guarded, renamed (some "5678".toList)]).isSome by decide +kernel)
  have supplied : lastPin 1 (after [guarded, renamed (some "5678".toList)]).1 =
      some "5678".toList := by decide +kernel
  have expected : Expected (some "5678".toList) (inviteRoom ";pin=5678") :=
    .inr (.inr ⟨_, rfl, by decide, by decide +kernel⟩)
  have numbered : ∀ room ∈ noRooms.rows, room < noRooms.nextId := fun room member =>
    absurd member (AList.notMem_empty room)
  have pinless : ∀ row, noRooms.rows.lookup 1 = some row → row.pinHash = none := fun _ present =>
    nomatch (AList.lookup_empty 1).symm.trans present
  refine ⟨_, _, row, second, found, supplied, ?_⟩
  exact (pin_decides_admission numbered pinless second row found _).mpr (supplied ▸ expected)

open Sample in
/-- A new name without a PIN field opens the room that was created with the PIN 1234 to an INVITE
without one, and a PIN that is cleared with an empty text closes it to every INVITE. -/
theorem pin_lost_by_update :
    (∃ trace rooms row, Administered mailServer [] (fun _ _ => True) noRooms trace
        rooms ∧
      rooms.rows.lookup 1 = some row ∧ lastPin 1 trace = some "1234".toList ∧
      Conference.pinRejection mailServer (inviteRoom "") row.pinHash = none ∧
      ¬ Expected (lastPin 1 trace) (inviteRoom "")) ∧
    ∃ trace rooms row, Administered mailServer [] (fun _ _ => True) noRooms trace
        rooms ∧
      rooms.rows.lookup 1 = some row ∧ lastPin 1 trace = some [] ∧
      Conference.pinRejection mailServer (inviteRoom "") row.pinHash ≠ none ∧
      Expected (lastPin 1 trace) (inviteRoom "") := by
  constructor
  · obtain ⟨row, found, passes⟩ := (Option.any_eq_true _ _).mp
      (show admitted (rowAfter [guarded, renamed none]) (inviteRoom "") by decide +kernel)
    have supplied : lastPin 1 (after [guarded, renamed none]).1 = some "1234".toList := by
      decide +kernel
    refine ⟨_, _, row, administered_any _, found, supplied, of_decide_eq_true passes, ?_⟩
    rw [supplied]
    rintro (none | cleared | ⟨_, _, _, given⟩)
    · cases none
    · exact absurd cleared (by decide)
    · exact absurd (Option.isSome_of_eq_some given) (by decide +kernel)
  · obtain ⟨row, found, rejected⟩ := (Option.any_eq_true _ _).mp
      (show (rowAfter [guarded, renamed (some [])]).any (fun row =>
        Conference.pinRejection mailServer (inviteRoom "") row.pinHash ≠ none) by
          decide +kernel)
    have supplied : lastPin 1 (after [guarded, renamed (some [])]).1 = some [] := by
      decide +kernel
    exact ⟨_, _, row, administered_any _, found, supplied, of_decide_eq_true rejected,
      .inr (.inl supplied)⟩

end Sip3.ConferenceRooms
