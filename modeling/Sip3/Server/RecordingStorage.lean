import Sip3.Semantics.Ensures
import Sip3.Server.Scenario
import Sip3.Storage.Voicemail

/-!
# Recordings and their rows

The recording task of a delivery on the files of the storage and the rows of
`sip_voicemail_messages`. What the other tasks of the server do to the shared state shows
in the answers the task gets, which are arbitrary here; the steps on the storage and on
the rows do what `storage/voicemail.rs` and the statement say.

`write_message` creates the file before it writes it, and nobody removes the file of a
write that fails. Such a failure is only reported when more than one piece is written; one that is
not reported leaves a row for a file of which the end is missing.
-/

namespace Sip3

open Text Semantics Storage System List

/-- A row of `sip_voicemail_messages`, as it is inserted. -/
structure MessageRow where
  boxId : Nat
  caller : Str
  callee : Str
  callId : CallId
  durationSecs : Nat
  storageKey : Str
  deriving DecidableEq

/-- The files and the rows. -/
structure Archive where
  files : Files
  messages : List MessageRow

/-- `duration_secs` of a number of samples. -/
def durationSecs (samples : Nat) : Nat :=
  min ((samples + 7999) / 8000) (2 ^ 32 - 1)

/-- What the world does to a recording: the samples it is given, unless it fails before anything is
written, and what the file system does. -/
structure Recorded where
  samples : Option (List Int16)
  writing : Writing

/-- What a step does to the files and the rows. The samples of a recording are written by
`write_message`. Deleting a file succeeds. -/
def Archive.Moves (world : Recorded) (archive : Archive) :
    (op : Op) → op.Answer → Archive → Prop
  | .ask (.recordAudio callId mailbox maxSecs _), answer, after =>
    (world.samples = none ∧ answer.toBool = false ∧ after = archive) ∨
      ∃ (samples : List Int16) (wav : Bytes), world.samples = some samples ∧
        samples.length ≤ maxSecs * 8000 ∧ pcm16WavBytes samples 8000 = some wav ∧
        answer.toOption = (writeMessage archive.files mailbox callId wav world.writing).1.map
          (fun key => (key, durationSecs samples.length)) ∧
        after = { archive with
          files := (writeMessage archive.files mailbox callId wav world.writing).2 }
  | .ask (.deleteAudio key), answer, after =>
    answer.toBool = (delete archive.files key false).1 ∧
      after = { archive with files := (delete archive.files key false).2 }
  | .ask (.query (.insertVoicemail boxId caller callee callId secs key)), answer, after =>
    after = if answer.toBool then
      { archive with messages := archive.messages ++ [⟨boxId, caller, callee, callId, secs, key⟩] }
    else archive
  | _, _, after => after = archive

/-- The tasks of the server on the files and the rows. -/
abbrev Server.archiving (server : Server) (world : Recorded) : System signature where
  Shared := Archive
  Task := Task
  body := Task.body server
  Perform := Archive.Moves world
  spawned := Op.spawned

/-- The recording is longer than one piece, and writing a piece before the last one fails. -/
def Recorded.CutsShort (world : Recorded) (files : Files) (start : RecordingStart) : Prop :=
  ∃ samples wav, world.samples = some samples ∧ pcm16WavBytes samples 8000 = some wav ∧
    world.writing.CutsShort files start.mailbox start.callId wav

/-- The call was recorded. -/
def AsksRecording (steps : List (Occurrence signature)) : Prop :=
  ∃ occurrence ∈ steps, ∃ callId mailbox maxSecs idleSecs,
    occurrence.op = .ask (.recordAudio callId mailbox maxSecs idleSecs)

/-- Since some state, a file was made exactly when exactly one row with its key was inserted.
Files that were there before are not touched, and the rows are those of new files. -/
structure Archive.Agrees (before after : Archive) (inserted : List MessageRow) : Prop where
  rows : after.messages = before.messages ++ inserted
  file_iff_row : ∀ path ∉ before.files, path ∈ after.files ↔
    (inserted.filter fun row => pathForKey row.storageKey = some path).length = 1
  new : ∀ row ∈ inserted, ∃ path ∉ before.files, pathForKey row.storageKey = some path
  kept : ∀ path ∈ before.files, after.files.lookup path = before.files.lookup path

theorem Archive.Agrees.refl (archive : Archive) : archive.Agrees archive [] where
  rows := (append_nil _).symm
  file_iff_row _ absent := iff_of_false absent nofun
  new := nofun
  kept _ _ := rfl

/-- A file without a row. -/
theorem Archive.not_agrees {before : Archive} {path : Path} {part : Bytes}
    (absent : path ∉ before.files) (inserted : List MessageRow) :
    ¬ before.Agrees { before with files := before.files.insert path part } inserted := by
  intro agrees
  obtain rfl : inserted = [] := by simpa using agrees.rows
  exact nomatch (agrees.file_iff_row path absent).mp (by simp)

theorem Archive.agrees_of_row {before : Archive} {path : Path} {wav : Bytes} {row : MessageRow}
    (absent : path ∉ before.files) (named : pathForKey row.storageKey = some path) :
    before.Agrees ⟨before.files.insert path wav, before.messages ++ [row]⟩ [row] where
  rows := rfl
  file_iff_row other unseen := by
    by_cases same : path = other
    · simp [named, same]
    · have different : other ≠ path := Ne.symm same
      simp [named, same, different, unseen]
  new _ member := ⟨path, absent, mem_singleton.mp member ▸ named⟩
  kept other present := AList.lookup_insert_ne fun same => absent (same ▸ present)

theorem Archive.agrees_of_delete {before : Archive} {path : Path} {wav : Bytes} {key : Str}
    (absent : path ∉ before.files) (named : pathForKey key = some path) :
    before.Agrees ⟨(delete (before.files.insert path wav) key false).2, before.messages⟩ [] where
  rows := (append_nil _).symm
  file_iff_row other unseen := by
    refine iff_of_false ?_ nofun
    rw [delete, named]
    by_cases same : other = path
    · simp [same]
    · simp [same, unseen]
  new := nofun
  kept other present := by
    have different : other ≠ path := fun same => absent (same ▸ present)
    rw [delete, named]
    exact (AList.lookup_erase_ne different).trans (AList.lookup_insert_ne different)

section Task

variable (server : Server) {world : Recorded} {archive : Archive}

/-- A step that the files and the rows do not depend on. -/
def Op.SparesArchive : Op → Prop
  | .ask (.recordAudio ..) | .ask (.deleteAudio _) | .ask (.query (.insertVoicemail ..)) => False
  | _ => True

theorem Archive.moves_of_spares {op : Op} {answer : op.Answer} {after : Archive}
    (spares : op.SparesArchive) (moves : archive.Moves world op answer after) :
    after = archive := by
  unfold Archive.Moves at moves
  split at moves
  · exact spares.elim
  · exact spares.elim
  · exact spares.elim
  · exact moves

/-- A program that only makes such steps changes nothing. -/
theorem ensures_spares {α : Type} {program : Action α}
    (uses : program.Uses Op.SparesArchive) :
    (server.archiving world).Ensures archive program fun _ final _ => final = archive := by
  intro occurrences final value execution
  refine System.Exec.invariant (· = archive) ?_ execution uses rfl
  rintro _ op answer after spares moves rfl
  exact Archive.moves_of_spares spares moves

theorem Mwi.notifySubscribers_spares (username domain : Str) (newCount savedCount : Int)
    (rows : List MwiRow) :
    (Mwi.notifySubscribers server username domain newCount savedCount rows).Uses
      Op.SparesArchive := by
  induction rows with
  | nil => trivial
  | cons row rest ih =>
    unfold Mwi.notifySubscribers
    dsimp only
    split
    · trivial
    · refine ⟨trivial, fun sent => ?_⟩
      cases sent with
      | false => exact ih
      | true =>
        refine ⟨trivial, fun stored => ?_⟩
        cases stored with
        | error error => trivial
        | ok _ => exact ih

theorem Mwi.notifyMailbox_spares (username domain : Str) :
    (Mwi.notifyMailbox server username domain).Uses Op.SparesArchive := by
  refine ⟨trivial, fun counts => ?_⟩
  cases counts with
  | error error => trivial
  | ok counts =>
    refine ⟨trivial, fun _ => ⟨trivial, fun rows => ?_⟩⟩
    cases rows with
    | error error => trivial
    | ok rows => exact Mwi.notifySubscribers_spares server username domain _ _ rows

/-- A recording is not made, or it fails and leaves no file, or it makes a new file and returns its
key, or it is cut short and leaves a part of a file. -/
theorem ensures_recordToStorage (start : RecordingStart) :
    (server.archiving world).Ensures archive (Voicemail.recordToStorage server start)
      fun steps after result =>
        (¬ (AsksRecording steps ∧ world.CutsShort archive.files start) ∧
          result.toBool = false ∧ after = archive) ∨
        (¬ world.CutsShort archive.files start ∧ ∃ key secs path wav, result = .ok (key, secs) ∧
          pathForKey key = some path ∧ path ∉ archive.files ∧
          after = { archive with files := archive.files.insert path wav }) ∨
        (AsksRecording steps ∧ world.CutsShort archive.files start ∧ result.toBool = false ∧
          ∃ path part, path ∉ archive.files ∧
            after = { archive with files := archive.files.insert path part }) := by
  have unasked (key : CallId) (answer) : ¬ AsksRecording [⟨.voicemailMedia (.get key), answer⟩] := by
    rintro ⟨occurrence, member, _, _, _, _, asks⟩
    rw [mem_singleton.mp member] at asks
    cases asks
  refine ensures_request.mpr ?_
  rintro session archive rfl
  cases session with
  | none => exact ensures_done.mpr (.inl ⟨fun both => unasked _ _ both.1, rfl, rfl⟩)
  | some session =>
    change System.Ensures _ _ (if _ then _ else _) _
    split
    · exact ensures_done.mpr (.inl ⟨fun both => unasked _ _ both.1, rfl, rfl⟩)
    · refine ensures_request.mpr ?_
      rintro result after (⟨empty, failed, rfl⟩ | ⟨samples, wav, given, -, encoded, named, rfl⟩)
      · refine ensures_done.mpr (.inl ⟨?_, failed, rfl⟩)
        rintro ⟨-, samples, -, given, -⟩
        cases empty.symm.trans given
      · have asked (answer) : AsksRecording [⟨.voicemailMedia (.get start.callId), some session⟩,
            ⟨.ask (.recordAudio start.callId start.mailbox start.maxMessageSecs
              server.cfg.voicemailIdleTimeoutSecs), answer⟩] :=
          ⟨_, .tail _ (.head _), _, _, _, _, rfl⟩
        have short : world.CutsShort archive.files start ↔
            world.writing.CutsShort archive.files start.mailbox start.callId wav := by
          constructor
          · rintro ⟨_, _, same, code, cut⟩
            cases given.symm.trans same
            cases encoded.symm.trans code
            exact cut
          · exact fun cut => ⟨samples, wav, given, encoded, cut⟩
        have creates := creates_writeMessage archive.files start.mailbox start.callId wav
          world.writing
        refine ensures_done.mpr ?_
        generalize writeMessage archive.files start.mailbox start.callId wav world.writing = written
          at creates named ⊢
        rw [← short] at creates
        cases creates with
        | nothing whole =>
          cases result with
          | error error => exact .inl ⟨fun both => whole both.2, rfl, rfl⟩
          | ok recorded => cases named
        | part cut new =>
          cases result with
          | error error => exact .inr (.inr ⟨asked _, cut, rfl, _, _, new, rfl⟩)
          | ok recorded => cases named
        | file whole located new _ =>
          cases result with
          | error error => cases named
          | ok recorded =>
            cases named
            exact .inr (.inl ⟨whole, _, _, _, _, rfl, located, new, rfl⟩)

/-- The end of the task keeps the file exactly when it has inserted the row. -/
theorem ensures_storeRecording (start : RecordingStart) (shouldPersist : Bool) {key : Str}
    (secs : Nat) {path : Path} {wav : Bytes} (absent : path ∉ archive.files)
    (named : pathForKey key = some path) :
    (server.archiving world).Ensures { archive with files := archive.files.insert path wav }
      (Voicemail.storeRecording server start shouldPersist key secs)
      fun _ after _ => ∃ inserted, archive.Agrees after inserted := by
  unfold Voicemail.storeRecording
  split
  · refine ensures_request.mpr ?_
    rintro answer _ ⟨-, rfl⟩
    exact ensures_done.mpr ⟨_, Archive.agrees_of_delete absent named⟩
  · refine ensures_request.mpr ?_
    rintro (error | stored) after inserted
    · obtain rfl : after = _ := inserted
      refine ensures_request.mpr ?_
      rintro answer _ ⟨-, rfl⟩
      exact ensures_done.mpr ⟨_, Archive.agrees_of_delete absent named⟩
    · obtain rfl : after = _ := inserted
      change System.Ensures _ _ (Mwi.notifyMailbox server start.callee start.domain >>= _) _
      refine ensures_bind.mpr ((ensures_spares server
        (Mwi.notifyMailbox_spares server start.callee start.domain)).mono ?_)
      rintro front _ - rfl
      exact ensures_done.mpr ⟨_, Archive.agrees_of_row absent named⟩

end Task

/-- A recording task that has ended leaves an audio file exactly when it has inserted exactly one row
with its storage key, wherever it failed, unless the recording was made and cut short; and then it
does not. -/
theorem recording_matches_row_iff {server : Server} {start : RecordingStart} {world : Recorded}
    {before after : Archive} {steps : List (System.Occurrence signature)}
    (execution : (server.archiving world).Exec before
      (Voicemail.recordingTask server start) steps after ()) :
    (∃ inserted, before.Agrees after inserted) ↔
      ¬ (AsksRecording steps ∧ world.CutsShort before.files start) := by
  have ensures : (server.archiving world).Ensures before
      (Voicemail.recordingTask server start) fun steps after _ =>
        ((∃ inserted, before.Agrees after inserted) ↔
          ¬ (AsksRecording steps ∧ world.CutsShort before.files start)) := by
    refine System.ensures_bind.mpr ((ensures_recordToStorage server start).mono ?_)
    intro front middle result recorded
    refine System.ensures_request.mpr ?_
    rintro call _ rfl
    refine System.ensures_request.mpr ?_
    rintro session _ rfl
    refine System.ensures_request.mpr ?_
    rintro shouldPersist _ rfl
    rcases recorded with ⟨fine, failed, rfl⟩ | ⟨whole, key, secs, path, wav, rfl, named, new, rfl⟩ |
      ⟨asked, cut, failed, path, part, new, rfl⟩
    · cases result with
      | error error =>
        refine System.ensures_done.mpr (iff_of_true ⟨_, .refl _⟩ ?_)
        rintro ⟨⟨occurrence, member, asks⟩, cut⟩
        refine fine ⟨⟨occurrence, ?_, asks⟩, cut⟩
        rcases mem_append.mp member with early | late
        · exact early
        · obtain ⟨_, _, _, _, asks⟩ := asks
          simp only [mem_cons, not_mem_nil, or_false] at late
          rcases late with rfl | rfl | rfl <;> cases asks
      | ok recorded => cases failed
    · refine (ensures_storeRecording server start shouldPersist secs new named).mono ?_
      exact fun _ _ _ agrees => iff_of_true agrees fun both => whole both.2
    · cases result with
      | error error =>
        refine System.ensures_done.mpr (iff_of_false ?_ fun fine => fine ⟨?_, cut⟩)
        · rintro ⟨inserted, agrees⟩
          exact Archive.not_agrees new inserted agrees
        · obtain ⟨occurrence, member, asks⟩ := asked
          exact ⟨occurrence, mem_append_left _ member, asks⟩
      | ok recorded => cases failed
  exact ensures _ _ _ execution

namespace RecordingSample

/-- A recording of one sample, or one of more than two minutes that fails when it is written. -/
def world (fails : Bool) : Recorded where
  samples := some (List.replicate (if fails then 2 ^ 20 else 1) 0)
  writing := ⟨true, Vector.replicate 8 ⟨"7b21".toList, .opens, if fails then some 0 else none⟩⟩

/-- A recording for mailbox 1. -/
def start : RecordingStart :=
  ⟨"c".toList, 1, "1001".toList, "t".toList, "alice".toList, "1001".toList, 180⟩

/-- The file of the recording. -/
def path : Path := ["1001".toList, "c-7b21.wav".toList]

/-- A recording that is not canceled, with a database that works. -/
def resolve (fails : Bool) (archive : Archive) : (op : Op) → Option (op.Answer × Archive)
  | .ask (.recordAudio callId mailbox maxSecs _) =>
    if archive.files.entries = [] ∧ callId = start.callId ∧ mailbox = start.mailbox ∧
        maxSecs = 180 then
      some (if fails then .error .storage else .ok ("1001/c-7b21.wav".toList, 1),
        { archive with
          files := AList.singleton path <| if fails then [] else wavBytes [0] 8000 })
    else none
  | .ask (.query (.insertVoicemail boxId caller callee callId secs key)) =>
    some (.ok (), { archive with
      messages := archive.messages ++ [⟨boxId, caller, callee, callId, secs, key⟩] })
  | .ask (.query (.mwiCounts _ _)) => some (.error .database, archive)
  | .voicemailMedia _ => some (some ⟨40000, .pcmu, 0, none⟩, archive)
  | .voicemailActive _ => some (none, archive)
  | .recording _ => some (true, archive)
  | _ => none

/-- What `write_message` does to the long recording: the first piece fails, and the second one
reports it. -/
theorem writeMessage_long {wav : Bytes} (long : maxBufSize < wav.length) :
    writeMessage ∅ start.mailbox start.callId wav (world true).writing =
      (none, AList.singleton path []) := by
  have reported : Reported wav 0 := by simpa [Reported] using long
  have named : pathForKey (storageKey (sanitizeKeyPart start.mailbox)
      (sanitizeKeyPart start.callId) ⟨"7b21".toList, .opens, some 0⟩) = some path := by decide
  rw [writeMessage, if_neg (by decide)]
  change createFile ∅ _ _ wav (⟨"7b21".toList, .opens, some 0⟩ :: _) = _
  simp only [createFile, named]
  rw [if_neg (by decide), if_neg (by decide), if_pos reported]
  rfl

theorem resolve_sound {fails : Bool} {archive after : Archive} {op : Op} {answer : op.Answer}
    (resolved : resolve fails archive op = some (answer, after)) :
    archive.Moves (world fails) op answer after := by
  unfold resolve at resolved
  split at resolved
  · next callId mailbox maxSecs idleSecs =>
      split at resolved
      · next asked =>
          obtain ⟨empty, rfl, rfl, rfl⟩ := asked
          obtain ⟨files, messages⟩ := archive
          obtain rfl : files = ∅ := AList.ext empty
          cases resolved
          cases fails with
          | false => exact .inr ⟨[0], _, rfl, by decide, rfl, rfl, rfl⟩
          | true =>
            refine .inr ⟨_, _, rfl, ?_, pcm16WavBytes_eq_some ?_ (by decide) (by decide), ?_, ?_⟩
            · rw [length_replicate]
              decide
            · rw [length_replicate]
              decide
            all_goals
              rw [writeMessage_long (by rw [length_wavBytes, length_replicate]; decide)]
              rfl
      · cases resolved
  · cases resolved
    rfl
  · cases resolved
    rfl
  · cases resolved
    rfl
  · cases resolved
    rfl
  · cases resolved
    rfl
  · cases resolved

/-- The recording with a choice of answers. -/
def resolver (fails : Bool) : (Scenario.mailServer.archiving (world fails)).Resolver where
  resolve := resolve fails
  sound := resolve_sound

end RecordingSample

open RecordingSample in
/-- A recording of which both the file and the row are there at the end. -/
theorem recording_matches_row_iff_stored :
    ∃ steps after inserted, (Scenario.mailServer.archiving (world false)).Exec ⟨∅, []⟩
        (Voicemail.recordingTask Scenario.mailServer start) steps after () ∧
      Archive.Agrees ⟨∅, []⟩ after inserted ∧ after.messages.length = 1 := by
  obtain ⟨steps, after, _, execution, stored⟩ := System.Resolver.exists_exec
    (show ((resolver false).run ⟨∅, []⟩ (Voicemail.recordingTask Scenario.mailServer start)).any
      (fun (_, after, _) => after.messages.length = 1) by decide +kernel)
  have complete : ¬ (AsksRecording steps ∧ (world false).CutsShort ∅ start) := by
    rintro ⟨-, _, _, -, -, -, attempt, count, found, -, -, cut, -⟩
    rw [List.eq_of_mem_replicate (List.mem_of_find?_eq_some found)] at cut
    cases cut
  obtain ⟨inserted, agrees⟩ := (recording_matches_row_iff execution).mpr complete
  exact ⟨steps, after, inserted, execution, agrees, of_decide_eq_true stored⟩

open RecordingSample in
/-- A recording of 2 MiB whose first piece cannot be written: the task ends with a file, and without
a row. -/
theorem recording_without_row :
    ∃ steps after, (Scenario.mailServer.archiving (world true)).Exec ⟨∅, []⟩
        (Voicemail.recordingTask Scenario.mailServer start) steps after () ∧
      ∀ inserted, ¬ Archive.Agrees ⟨∅, []⟩ after inserted := by
  obtain ⟨steps, after, _, execution, left⟩ := System.Resolver.exists_exec
    (show ((resolver true).run ⟨∅, []⟩ (Voicemail.recordingTask Scenario.mailServer start)).any
      (fun (_, after, _) => after.messages = [] ∧ after.files.entries = [⟨path, []⟩]) by
        decide +kernel)
  obtain ⟨rowless, filed⟩ := of_decide_eq_true left
  refine ⟨steps, after, execution, fun inserted agrees => ?_⟩
  have whole : after = { (⟨∅, []⟩ : Archive) with files := AList.insert path [] ∅ } := by
    obtain ⟨files, messages⟩ := after
    cases rowless
    exact congrArg (Archive.mk · []) (AList.ext filed)
  exact Archive.not_agrees (AList.notMem_empty path) inserted (whole ▸ agrees)

end Sip3
