import Sip3.Response
import Sip3.Semantics.Ensures
import Sip3.Semantics.Schedule
import Sip3.Storage.Voicemail

/-!
# Greetings of a mailbox

`api/voicemail.rs`: a greeting is uploaded and deleted over the API. The file and the
reference to it in the mailbox's row are changed by separate steps, each of which can fail.
Both handlers delete the file of the reference before they change the reference.
-/

namespace Sip3.Greeting

open Text Semantics Storage System List

/-- What the handlers use of a row of `sip_voicemail_boxes`. -/
structure BoxRow where
  username : Str
  domain : Str
  greetingStorageKey : Option Str
  deriving DecidableEq

/-- A row of `sip_voicemail_greetings`. -/
structure GreetingRow where
  boxId : Nat
  storageKey : Str
  originalFilename : Str
  durationSecs : Nat
  deriving DecidableEq

/-- The steps of the handlers on the database and on the storage. -/
inductive Op where
  | selectBox (id : Nat)
  | writeMessage (mailbox callId : Str) (bytes : Bytes)
  | delete (key : Str)
  | updateBox (id : Nat) (key : Option Str)
  | insertGreeting (row : GreetingRow)

/-- The answers of the steps; an error has a text. -/
@[reducible] def Op.Answer : Op → Type
  | .selectBox _ => Except Str (Option BoxRow)
  | .writeMessage _ _ _ => Except Str Str
  | .delete _ | .updateBox _ _ | .insertGreeting _ => Except Str Unit

abbrev signature : Signature where
  Op := Op
  Answer := Op.Answer

/-- A handler. -/
abbrev Handler (α : Type) := Program signature α

/-- The handler that takes one step. -/
abbrev perform (op : Op) : Handler op.Answer :=
  .request op .done

/-- Delete the file of a reference; a failure is ignored. -/
def deleteReferenced : Option Str → Handler Unit
  | none => return ()
  | some key => do
      let _ ← perform (.delete key)
      return ()

/-- A field of a multipart body. -/
structure Field where
  name : Option Str
  fileName : Option Str
  bytes : Except Str Bytes

/-- The loop over the fields of a multipart body, which keeps the last field `file`. -/
def readFile : List (Except Str Field) → Option (Bytes × Option Str) →
    Except ApiError (Option (Bytes × Option Str))
  | [], file => .ok file
  | .error text :: _, _ => .error ⟨400, "multipart: ".toList ++ text⟩
  | .ok field :: rest, file =>
    if field.name = some "file".toList then
      match field.bytes with
      | .error text => .error ⟨400, "read field: ".toList ++ text⟩
      | .ok bytes => readFile rest (some (bytes, field.fileName))
    else readFile rest file

/-- The uploaded bytes and the name of their file. -/
def uploadedFile (fields : List (Except Str Field)) : Except ApiError (Bytes × Option Str) :=
  match readFile fields none with
  | .error error => .error error
  | .ok none => .error (badRequest "missing 'file' field")
  | .ok (some file) => .ok file

/-- The duration of a greeting in seconds, if it may be one. -/
def greetingDuration (bytes : Bytes) : Except ApiError Nat :=
  match readPcm16Wav bytes with
  | .error text => .error ⟨400, "not a valid PCM16 WAV: ".toList ++ text⟩
  | .ok decoded =>
    if decoded.sampleRate ≠ 8000 then .error (badRequest "greeting must be 8kHz mono PCM16 WAV")
    else
      let durationSecs := decoded.samples.length / decoded.sampleRate
      if durationSecs = 0 ∨ durationSecs > 60 then
        .error (badRequest "greeting duration must be between 1 and 60 seconds")
      else .ok durationSecs

/-- The answer to an upload. -/
structure Uploaded where
  id : Nat
  username : Str
  domain : Str
  storageKey : Str
  durationSecs : Nat

/-- Step 6 of `upload_greeting`: the rows. -/
def saveGreeting (uploaded : Uploaded) (fileName : Option Str) :
    Handler (Except ApiError Uploaded) := do
  match ← perform (.updateBox uploaded.id (some uploaded.storageKey)) with
  | .error text => return .error ⟨500, text⟩
  | .ok _ =>
    match ← perform (.insertGreeting ⟨uploaded.id, uploaded.storageKey,
      fileName.getD "greeting.wav".toList, uploaded.durationSecs⟩) with
    | .error text => return .error ⟨500, text⟩
    | .ok _ => return .ok uploaded

/-- Steps 4 to 6 of `upload_greeting`: the new file, the old file, and the rows. -/
def replaceGreeting (id : Nat) (row : BoxRow) (bytes : Bytes) (fileName : Option Str)
    (durationSecs : Nat) : Handler (Except ApiError Uploaded) := do
  match ← perform (.writeMessage row.username "greeting".toList bytes) with
  | .error text => return .error ⟨500, "write: ".toList ++ text⟩
  | .ok storageKey =>
    deleteReferenced row.greetingStorageKey
    saveGreeting ⟨id, row.username, row.domain, storageKey, durationSecs⟩ fileName

/-- `upload_greeting`. -/
def uploadGreeting (id : Nat) (fields : List (Except Str Field)) :
    Handler (Except ApiError Uploaded) := do
  match ← perform (.selectBox id) with
  | .error text => return .error ⟨500, text⟩
  | .ok none => return .error ⟨404, "Voicemail box not found".toList⟩
  | .ok (some row) =>
    match uploadedFile fields with
    | .error error => return .error error
    | .ok (bytes, fileName) =>
      match greetingDuration bytes with
      | .error error => return .error error
      | .ok durationSecs => replaceGreeting id row bytes fileName durationSecs

/-- `delete_greeting`. -/
def deleteGreeting (id : Nat) : Handler (Except ApiError Unit) := do
  match ← perform (.selectBox id) with
  | .error text => return .error ⟨500, text⟩
  | .ok none => return .error ⟨404, "Voicemail box not found".toList⟩
  | .ok (some row) =>
    deleteReferenced row.greetingStorageKey
    match ← perform (.updateBox id none) with
    | .error text => return .error ⟨500, text⟩
    | .ok _ => return .ok ()

/-- The mailboxes, the history of greetings, and the files of the storage. -/
structure Store where
  boxes : AList fun _ : Nat => BoxRow
  greetings : List GreetingRow
  files : Files

/-- The mailboxes after the reference of one of them is set. -/
def setReference (boxes : AList fun _ : Nat => BoxRow) (id : Nat) (key : Option Str) :
    AList fun _ : Nat => BoxRow :=
  match boxes.lookup id with
  | none => boxes
  | some row => boxes.insert id { row with greetingStorageKey := key }

/-- What a step does. A failed statement changes nothing; the steps on the storage fail as its
functions say. -/
def Effect (store : Store) : (op : Op) → op.Answer → Store → Prop
  | .selectBox id, answer, after => after = store ∧ ∀ row, answer = .ok row →
      row = store.boxes.lookup id
  | .writeMessage mailbox callId bytes, answer, after => ∃ writing,
      answer.toOption = (writeMessage store.files mailbox callId bytes writing).1 ∧
        after = { store with files := (writeMessage store.files mailbox callId bytes writing).2 }
  | .delete key, answer, after => ∃ fails,
      answer.toBool = (delete store.files key fails).1 ∧
        after = { store with files := (delete store.files key fails).2 }
  | .updateBox id key, answer, after => after =
      if answer.toBool then { store with boxes := setReference store.boxes id key } else store
  | .insertGreeting row, answer, after => after =
      if answer.toBool then { store with greetings := store.greetings ++ [row] } else store

/-- The reference of a mailbox names a file, or there is none. -/
def Referenced (store : Store) (id : Nat) : Prop :=
  ∀ row key, store.boxes.lookup id = some row → row.greetingStorageKey = some key →
    (read store.files key).isSome

/-- A step that is allowed when no update of a mailbox's row fails after the file it refers to is
gone, and no write succeeds with bytes missing. -/
def Timely (store : Store) : (op : Op) → op.Answer → Store → Prop
  | .updateBox id _, answer, _ => answer.toBool = false → Referenced store id
  | .writeMessage _ _ bytes, answer, after => ∀ key, answer = .ok key →
      read after.files key = some bytes
  | _, _, _ => True

/-- The handlers on the database and the storage, with a condition on each step. -/
abbrev system (Permits : Store → (op : Op) → op.Answer → Store → Prop) : System signature where
  Shared := Store
  Task := Empty
  body := nofun
  Perform store op answer after := Effect store op answer after ∧ Permits store op answer after
  spawned _ := none

/-- A call of the API. -/
inductive Call where
  | upload (id : Nat) (fields : List (Except Str Field))
  | delete (id : Nat)

/-- The mailbox of a call. -/
def Call.id : Call → Nat
  | upload id _ | delete id => id

/-- What a call runs. -/
def Call.body : Call → Handler (Except ApiError Unit)
  | upload id fields => do
      let result ← uploadGreeting id fields
      return result.map fun _ => ()
  | delete id => deleteGreeting id

/-- The bytes a call uploads. -/
def Call.bytes : Call → Option Bytes
  | upload _ fields => (uploadedFile fields).toOption.map Prod.fst
  | delete _ => none

/-- The steps of a call. -/
abbrev Steps := List (System.Occurrence signature)

/-- The key that a step stores in a mailbox. -/
def storedKey : System.Occurrence signature → Option Str
  | ⟨.updateBox _ (some key), .ok _⟩ => some key
  | _ => none

/-- The calls that were made, with their steps. -/
abbrev Trace := List (Call × Steps)

/-- The bytes of the last upload that stored a key, after a call. -/
def recordUpload (last : Str → Option Bytes) (call : Option Bytes) (steps : Steps) (key : Str) :
    Option Bytes :=
  if key ∈ steps.filterMap storedKey then call else last key

/-- The bytes of the last upload that stored a key. -/
def lastUpload (trace : Trace) : Str → Option Bytes :=
  trace.foldl (fun last entry => recordUpload last entry.1.bytes entry.2) fun _ => none

theorem lastUpload_concat (trace : Trace) (call : Call) (steps : Steps) :
    lastUpload (trace ++ [(call, steps)]) = recordUpload (lastUpload trace) call.bytes steps := by
  simp only [lastUpload, foldl_append, foldl_cons, foldl_nil]

/-- Calls on a mailbox, one after another. -/
inductive Served (Permits : Store → (op : Op) → op.Answer → Store → Prop) (id : Nat) (start : Store) :
    Trace → Store → Prop where
  | start : Served Permits id start [] start
  | call {trace : Trace} {store after : Store} {steps : Steps} {result : Except ApiError Unit}
      (prior : Served Permits id start trace store) (call : Call) (own : call.id = id)
      (execution : (system Permits).Exec store call.body steps after result) :
      Served Permits id start (trace ++ [(call, steps)]) after

/-- The reference of a mailbox is null, or it names a file with the bytes of the last upload that
stored it. -/
def Intact (id : Nat) (last : Str → Option Bytes) (store : Store) : Prop :=
  ∀ row key, store.boxes.lookup id = some row → row.greetingStorageKey = some key →
    ∃ bytes, last key = some bytes ∧ read store.files key = some bytes

section Steps

variable {Permits : Store → (op : Op) → op.Answer → Store → Prop} {id : Nat} {store : Store}
  {last : Str → Option Bytes}

/-- Steps that store no key do not count as an upload. -/
theorem Intact.quiet (intact : Intact id last store) {call : Option Bytes} {steps : Steps}
    (quiet : steps.filterMap storedKey = []) : Intact id (recordUpload last call steps) store := by
  have same : recordUpload last call steps = last := by
    funext key
    simp [recordUpload, quiet]
  rw [same]
  exact intact

theorem lookup_setReference (boxes : AList fun _ : Nat => BoxRow) (id : Nat) (key : Option Str) :
    (setReference boxes id key).lookup id =
      (boxes.lookup id).map fun row => { row with greetingStorageKey := key } := by
  unfold setReference
  split
  · next absent => rw [absent, Option.map_none]
  · next row found => rw [AList.lookup_insert, found, Option.map_some]

/-- Deleting a file leaves every key as it was, except those of that file, which may be gone. -/
theorem read_delete (files : Files) (key : Str) (fails : Bool) (other : Str) :
    read (delete files key fails).2 other = read files other ∨
      pathForKey other = pathForKey key ∧ read (delete files key fails).2 other = none := by
  unfold delete
  split
  · exact .inl rfl
  · next path named =>
      split
      · exact .inl rfl
      · unfold Storage.read
        cases target : pathForKey other with
        | none => exact .inl rfl
        | some otherPath =>
          by_cases same : otherPath = path
          · subst same
            exact .inr ⟨named.symm, AList.lookup_erase _ _⟩
          · exact .inl (AList.lookup_erase_ne same)

theorem ensures_deleteReferenced (reference : Option Str) :
    (system Permits).Ensures store (deleteReferenced reference) fun steps after _ =>
      steps.filterMap storedKey = [] ∧ after.boxes = store.boxes ∧
        ∀ key, read after.files key = read store.files key ∨
          ∃ prev, reference = some prev ∧ pathForKey key = pathForKey prev ∧
            read after.files key = none := by
  cases reference with
  | none => exact ensures_done.mpr ⟨rfl, rfl, fun _ => .inl rfl⟩
  | some prev =>
    refine ensures_request.mpr ?_
    rintro answer after ⟨⟨fails, -, rfl⟩, -⟩
    refine ensures_done.mpr ⟨rfl, rfl, fun key => ?_⟩
    rcases read_delete store.files prev fails key with same | ⟨path, gone⟩
    · exact .inl same
    · exact .inr ⟨prev, rfl, path, gone⟩

/-- A file that was deleted is not there, so a reference to a file that is there is still intact. -/
theorem Intact.of_referenced {after : Store} (intact : Intact id last store)
    (rows : after.boxes = store.boxes)
    (kept : ∀ key, read after.files key = read store.files key ∨ read after.files key = none)
    (referenced : Referenced after id) : Intact id last after := by
  intro row key found reference
  obtain ⟨bytes, uploaded, stored⟩ := intact row key (rows ▸ found) reference
  rcases kept key with same | gone
  · exact ⟨bytes, uploaded, same.trans stored⟩
  · have present := referenced row key found reference
    rw [gone] at present
    cases present

/-- The last two steps of an upload, after the new file is written and the old one is gone. -/
theorem ensures_saveGreeting {uploaded : Uploaded} (own : uploaded.id = id) {bytes : Bytes}
    (intact : Referenced store id → Intact id last store)
    (stored : Storage.read store.files uploaded.storageKey = some bytes) (fileName : Option Str) :
    (system Timely).Ensures store (saveGreeting uploaded fileName) fun steps after _ =>
      Intact id (recordUpload last (some bytes) steps) after := by
  subst own
  refine ensures_request.mpr ?_
  rintro (text | done) after ⟨updated, timely⟩
  · obtain rfl : after = store := updated
    exact ensures_done.mpr ((intact (timely rfl)).quiet rfl)
  · obtain rfl : after = ⟨setReference store.boxes uploaded.id (some uploaded.storageKey),
        store.greetings, store.files⟩ := updated
    -- The history of greetings does not matter for the reference.
    have settled : ∀ (steps : Steps) (greetings : List GreetingRow),
        steps.filterMap storedKey = [uploaded.storageKey] →
          Intact uploaded.id (recordUpload last (some bytes) steps)
            ⟨setReference store.boxes uploaded.id (some uploaded.storageKey), greetings,
              store.files⟩ := by
      intro steps greetings keys row other looked reference
      rw [lookup_setReference] at looked
      obtain ⟨_, -, rfl⟩ := Option.map_eq_some_iff.mp looked
      cases reference
      exact ⟨bytes, by simp [recordUpload, keys], stored⟩
    refine ensures_request.mpr ?_
    rintro (text | done) after ⟨inserted, -⟩
    · obtain rfl : after = _ := inserted
      exact ensures_done.mpr (settled _ _ rfl)
    · obtain rfl : after = _ := inserted
      exact ensures_done.mpr (settled _ _ rfl)

/-- An upload that has read the row: a reference that is set names the new file, and one that
cannot be set names the old one. -/
theorem ensures_replaceGreeting {row : BoxRow} (intact : Intact id last store)
    (found : store.boxes.lookup id = some row) (bytes : Bytes) (fileName : Option Str)
    (durationSecs : Nat) :
    (system Timely).Ensures store (replaceGreeting id row bytes fileName durationSecs)
      fun steps after _ => Intact id (recordUpload last (some bytes) steps) after := by
  refine ensures_request.mpr ?_
  rintro answer after ⟨⟨writing, written, rfl⟩, complete⟩
  have intactWritten : Intact id last { store with
      files := (writeMessage store.files row.username "greeting".toList bytes writing).2 } := by
    intro row key found reference
    obtain ⟨stored, uploaded, present⟩ := intact row key found reference
    exact ⟨stored, uploaded, read_writeMessage present _ _ _ _⟩
  cases answer with
  | error text =>
    exact ensures_done.mpr (intactWritten.quiet rfl)
  | ok key =>
    have there := complete key rfl
    change (system Timely).Ensures _ (deleteReferenced row.greetingStorageKey >>= _) _
    refine ensures_bind.mpr ((ensures_deleteReferenced row.greetingStorageKey).mono ?_)
    rintro front deleted - ⟨quiet, rows, gone⟩
    have erased : ∀ other, Storage.read deleted.files other = Storage.read _ other ∨
        Storage.read deleted.files other = none := fun other =>
      (gone other).imp_right fun ⟨_, _, _, absent⟩ => absent
    -- The deleted file is that of the reference, which was there before the new one.
    have newStored : Storage.read deleted.files key = some bytes := by
      rcases gone key with same | ⟨prev, reference, samePath, -⟩
      · exact same.trans there
      · obtain ⟨stored, -, present⟩ := intact row prev found reference
        exact absurd samePath (writeMessage_new written.symm present)
    refine (ensures_saveGreeting rfl (intactWritten.of_referenced rows erased) newStored _).mono ?_
    intro back after value settled
    have keys : (⟨.writeMessage row.username "greeting".toList bytes, .ok key⟩ :: (front ++ back) :
        Steps).filterMap storedKey = back.filterMap storedKey := by
      rw [filterMap_cons, filterMap_append, quiet]
      rfl
    simpa only [Intact, recordUpload, keys] using settled

theorem ensures_uploadGreeting (intact : Intact id last store)
    (fields : List (Except Str Field)) :
    (system Timely).Ensures store (uploadGreeting id fields) fun steps after _ =>
      Intact id (recordUpload last (Call.upload id fields).bytes steps) after := by
  refine ensures_request.mpr ?_
  rintro answer after ⟨⟨rfl, selected⟩, -⟩
  rcases answer with text | (_ | row)
  · exact ensures_done.mpr (intact.quiet rfl)
  · exact ensures_done.mpr (intact.quiet rfl)
  · have found := (selected _ rfl).symm
    simp only
    split
    · exact ensures_done.mpr (intact.quiet rfl)
    · next bytes fileName file =>
        split
        · exact ensures_done.mpr (intact.quiet rfl)
        · next durationSecs valid =>
            refine (ensures_replaceGreeting intact found bytes fileName durationSecs).mono ?_
            intro steps final value settled
            have uploaded : (Call.upload id fields).bytes = some bytes := by
              rw [Call.bytes, file]
              rfl
            rw [uploaded]
            exact settled

theorem ensures_deleteGreeting (intact : Intact id last store) :
    (system Timely).Ensures store (deleteGreeting id) fun steps after _ =>
      Intact id (recordUpload last none steps) after := by
  refine ensures_request.mpr ?_
  rintro answer after ⟨⟨rfl, selected⟩, -⟩
  rcases answer with text | (_ | row)
  · exact ensures_done.mpr (intact.quiet rfl)
  · exact ensures_done.mpr (intact.quiet rfl)
  · change (system Timely).Ensures _ (deleteReferenced row.greetingStorageKey >>= _) _
    refine ensures_bind.mpr ((ensures_deleteReferenced row.greetingStorageKey).mono ?_)
    rintro front deleted - ⟨quiet, rows, gone⟩
    have quietAll : ∀ answer, (⟨.selectBox id, .ok (some row)⟩ ::
        (front ++ [⟨.updateBox id none, answer⟩]) : Steps).filterMap storedKey = [] := by
      intro answer
      rw [filterMap_cons, filterMap_append, quiet]
      rfl
    refine ensures_request.mpr ?_
    rintro (text | done) after ⟨updated, timely⟩
    · obtain rfl : after = deleted := updated
      refine ensures_done.mpr (Intact.quiet ?_ (quietAll _))
      refine intact.of_referenced rows (fun other => ?_) (timely rfl)
      exact (gone other).imp_right fun ⟨_, _, _, absent⟩ => absent
    · obtain rfl : after = { deleted with boxes := setReference deleted.boxes id none } := updated
      refine ensures_done.mpr ?_
      intro row key looked reference
      rw [lookup_setReference] at looked
      obtain ⟨_, -, rfl⟩ := Option.map_eq_some_iff.mp looked
      cases reference

theorem ensures_call (intact : Intact id last store) {call : Call} (own : call.id = id) :
    (system Timely).Ensures store call.body fun steps after _ =>
      Intact id (recordUpload last call.bytes steps) after := by
  subst own
  cases call with
  | upload id fields =>
    refine ensures_bind.mpr ((ensures_uploadGreeting intact fields).mono ?_)
    intro front middle value settled
    refine ensures_done.mpr ?_
    rw [append_nil]
    exact settled
  | delete id => exact ensures_deleteGreeting intact

end Steps

/-- When no update of the mailbox's row fails after the file it refers to was deleted, and no write
succeeds with bytes missing, the reference is null or names a file with the bytes of the last upload
that stored it, after every call. -/
theorem greeting_reference_intact {id : Nat} {start store : Store} {trace : Trace}
    (unset : ∀ row, start.boxes.lookup id = some row → row.greetingStorageKey = none)
    (served : Served Timely id start trace store) : Intact id (lastUpload trace) store := by
  induction served with
  | start =>
    intro row key found reference
    rw [unset row found] at reference
    cases reference
  | call prior call own execution ih =>
    rw [lastUpload_concat]
    exact ensures_call ih own _ _ _ execution

namespace Sample

/-- Steps that all succeed, except that updates of a mailbox's row may fail. -/
def outcome (updates : Bool) (store : Store) : (op : Op) → op.Answer × Store
  | .selectBox id => (.ok (store.boxes.lookup id), store)
  | .writeMessage mailbox callId bytes =>
    let uuid := Str.ofNat store.files.entries.length
    let written := writeMessage store.files mailbox callId bytes
      ⟨true, Vector.replicate 8 ⟨uuid, .opens, none⟩⟩
    (match written.1 with
      | some key => .ok key
      | none => .error [], { store with files := written.2 })
  | .delete key =>
    (if (delete store.files key false).1 then .ok () else .error [],
      { store with files := (delete store.files key false).2 })
  | .updateBox id key =>
    if updates then (.ok (), { store with boxes := setReference store.boxes id key })
    else (.error "connection lost".toList, store)
  | .insertGreeting row => (.ok (), { store with greetings := store.greetings ++ [row] })

theorem effect_outcome (updates : Bool) (store : Store) (op : Op) :
    Effect store op (outcome updates store op).1 (outcome updates store op).2 := by
  cases op with
  | selectBox id => exact ⟨rfl, fun row same => (Except.ok.inj same).symm⟩
  | writeMessage mailbox callId bytes =>
    refine ⟨_, ?_, rfl⟩
    simp only [outcome]
    split <;> simp_all [Except.toOption]
  | delete key =>
    refine ⟨false, ?_, rfl⟩
    simp only [outcome]
    split <;> simp_all [Except.toBool]
  | updateBox id key => cases updates <;> rfl
  | insertGreeting row => rfl

/-- Every step succeeds. -/
def working : (system Timely).Resolver where
  resolve store op := some (outcome true store op)
  sound := by
    intro store op answer after resolved
    have effect := effect_outcome true store op
    rw [Option.some.inj resolved] at effect
    refine ⟨effect, ?_⟩
    cases op with
    | updateBox id key =>
      obtain rfl : answer = .ok () := (congrArg Prod.fst (Option.some.inj resolved)).symm
      exact nofun
    | writeMessage mailbox callId bytes =>
      rintro key rfl
      obtain ⟨same, rfl⟩ := Prod.mk.inj (Option.some.inj resolved)
      have complete (uuid : Str) : Writing.CompleteOnSuccess
          ⟨true, Vector.replicate 8 ⟨uuid, .opens, none⟩⟩ bytes := by
        intro attempt member count cut
        rw [List.eq_of_mem_replicate member] at cut
        cases cut
      refine read_writeMessage_self ?_ (complete _)
      split at same
      · next written =>
          cases same
          exact written
      · cases same
    | _ => trivial

/-- Updates of a mailbox's row may fail. -/
def failing (updates : Bool) : (system fun _ _ _ _ => True).Resolver where
  resolve store op := some (outcome updates store op)
  sound := by
    intro store op answer after resolved
    have effect := effect_outcome updates store op
    rw [Option.some.inj resolved] at effect
    exact ⟨effect, trivial⟩

/-- A mailbox without a greeting. -/
def empty : Store := ⟨AList.singleton 1 ⟨"1001".toList, "t".toList, none⟩, [], ∅⟩

/-- One second of silence. -/
def silence : Bytes := wavBytes (List.replicate 8000 0) 8000

theorem greetingDuration_of_read {bytes : Bytes} {samples : List Int16} {durationSecs : Nat}
    (read : readPcm16Wav bytes = .ok ⟨8000, samples⟩)
    (duration : samples.length / 8000 = durationSecs) (some : durationSecs ≠ 0)
    (short : durationSecs ≤ 60) : greetingDuration bytes = .ok durationSecs := by
  simp only [greetingDuration, read, duration]
  rw [if_neg (by simp), if_neg (by omega)]

theorem greetingDuration_silence : greetingDuration silence = .ok 1 := by
  have written : pcm16WavBytes (replicate 8000 0) 8000 = some silence := by
    rw [pcm16WavBytes, length_replicate]
    exact if_neg (by decide)
  have decoded := readPcm16Wav_of_pcm16WavBytes written (by
    rw [length_replicate]
    decide)
  exact greetingDuration_of_read decoded (by rw [length_replicate]) (by decide) (by decide)

/-- The upload of it. -/
def upload : Call := .upload 1 [.ok ⟨some "file".toList, none, .ok silence⟩]

/-- The upload after the checks of its body. -/
def checkedUpload : Handler (Except ApiError Unit) := do
  match ← perform (.selectBox 1) with
  | .error text => return .error ⟨500, text⟩
  | .ok none => return .error ⟨404, "Voicemail box not found".toList⟩
  | .ok (some row) => do
      let result ← replaceGreeting 1 row silence none 1
      return result.map fun _ => ()

/-- Uploads whose bodies are accepted with the same bytes and duration are the same from then on. -/
theorem body_upload_of {id durationSecs : Nat} {fields : List (Except Str Field)} {bytes : Bytes}
    {fileName : Option Str} (file : uploadedFile fields = .ok (bytes, fileName))
    (duration : greetingDuration bytes = .ok durationSecs) :
    (Call.upload id fields).body = do
      match ← perform (.selectBox id) with
      | .error text => return .error ⟨500, text⟩
      | .ok none => return .error ⟨404, "Voicemail box not found".toList⟩
      | .ok (some row) => do
          let result ← replaceGreeting id row bytes fileName durationSecs
          return result.map fun _ => () := by
  refine congrArg (fun next => (.request (.selectBox id) next : Handler (Except ApiError Unit)))
    (funext fun answer => ?_)
  rcases answer with text | (_ | row)
  · rfl
  · rfl
  · simp only [Program.bind, file, duration]
    rfl

theorem body_upload : upload.body = checkedUpload := by
  have file : uploadedFile [.ok ⟨some "file".toList, none, .ok silence⟩] = .ok (silence, none) :=
    rfl
  refine (body_upload_of file greetingDuration_silence).trans (congrArg (fun next =>
    (.request (.selectBox 1) next : Handler (Except ApiError Unit))) (funext fun answer => ?_))
  rcases answer with text | (_ | row) <;> rfl

/-- The reference is dangling. -/
def dangling (store : Store) : Bool :=
  (store.boxes.lookup 1).any fun row => row.greetingStorageKey.any fun key =>
    (Storage.read store.files key).isNone

theorem not_intact_of_dangling {store : Store} {last : Str → Option Bytes}
    (found : dangling store = true) : ¬ Intact 1 last store := by
  intro intact
  obtain ⟨row, here, named⟩ := (Option.any_eq_true _ _).mp found
  obtain ⟨key, reference, gone⟩ := (Option.any_eq_true _ _).mp named
  obtain ⟨bytes, -, stored⟩ := intact row key here reference
  rw [stored] at gone
  cases gone

end Sample

open Sample in
/-- Two uploads: the reference is intact, and it is not null. -/
theorem greeting_reference_intact_twice :
    ∃ trace store, Served Timely 1 empty trace store ∧ Intact 1 (lastUpload trace) store ∧
      ((store.boxes.lookup 1).bind BoxRow.greetingStorageKey).isSome := by
  obtain ⟨first, middle, _, one, rest⟩ := System.Resolver.exists_exec
    (show (working.run empty checkedUpload).any (fun (_, middle, _) =>
      (working.run middle checkedUpload).any fun (_, store, _) =>
        ((store.boxes.lookup 1).bind BoxRow.greetingStorageKey).isSome) by decide +kernel)
  obtain ⟨second, store, _, two, set⟩ := System.Resolver.exists_exec rest
  rw [← body_upload] at one two
  have served := (Served.start.call upload rfl one).call upload rfl two
  have unset : ∀ row, empty.boxes.lookup 1 = some row → row.greetingStorageKey = none := by
    rintro row ⟨⟩
    rfl
  exact ⟨_, store, served, greeting_reference_intact unset served, set⟩

open Sample in
/-- An upload, and then one whose update of the row fails: the first file is deleted, and the
row still refers to it. -/
theorem greeting_reference_dangling :
    ∃ trace store, Served (fun _ _ _ _ => True) 1 empty trace store ∧
      ¬ Intact 1 (lastUpload trace) store := by
  obtain ⟨first, middle, _, one, rest⟩ := System.Resolver.exists_exec
    (show ((failing true).run empty checkedUpload).any (fun (_, middle, _) =>
      ((failing false).run middle checkedUpload).any fun (_, store, _) => dangling store) by
        decide +kernel)
  obtain ⟨second, store, _, two, found⟩ := System.Resolver.exists_exec rest
  rw [← body_upload] at one two
  exact ⟨_, store, (Served.start.call upload rfl one).call upload rfl two,
    not_intact_of_dangling found⟩

end Sip3.Greeting
