import Sip3.Storage.Wav
import Mathlib.Data.List.AList

/-!
# Files of the voicemail storage

`LocalVoicemailStorage`: messages and greetings are files below one directory. A key is
the path of a file below that directory. `write_message` creates a new file and then
writes it; a write that fails leaves the file behind.
-/

namespace Sip3.Storage

open Text Storage

/-- A path below the root of the storage, without empty and `.` components. -/
abbrev Path := List Str

/-- The files that exist. -/
abbrev Files := AList fun _ : Path => Bytes

/-- `path_for_key`. -/
def pathForKey (key : Str) : Option Path :=
  if Str.containsStr key "..".toList ∨ key.head? = some '/' then none
  else some ((Str.split '/' key).filter fun part => part ≠ [] ∧ part ≠ ".".toList)

/-- `sanitize_key_part`. -/
def sanitizeKeyPart (input : Str) : Str :=
  input.map fun char => if char ∈ ['/', '\\', ':', '\x00'] then '_' else char

/-- What opening a new file does when nothing is stored there. -/
inductive Opening where
  | opens
  | alreadyExists
  | fails
  deriving DecidableEq

/-- One attempt to create a file: the random part of its name, what opening it does, and how many
bytes are written when writing it fails. -/
structure Attempt where
  uuid : Str
  opening : Opening
  failsAfter : Option Nat
  deriving DecidableEq

/-- What the file system does during `write_message`. -/
structure Writing where
  directory : Bool
  attempts : Vector Attempt 8
  deriving DecidableEq

/-- A file takes this many bytes at a time and writes them in the background. -/
def maxBufSize : Nat := 2 * 1024 * 1024

/-- `write_all` learns that a piece could not be written when it hands over the next one. The file
is not flushed, so the last piece may fail unseen. -/
def Reported (bytes : Bytes) (count : Nat) : Prop :=
  (count / maxBufSize + 1) * maxBufSize < bytes.length

instance (bytes : Bytes) (count : Nat) : Decidable (Reported bytes count) :=
  inferInstanceAs (Decidable (_ < _))

/-- A write that succeeds has written all bytes. -/
def Writing.CompleteOnSuccess (writing : Writing) (bytes : Bytes) : Prop :=
  ∀ attempt ∈ writing.attempts.toList, ∀ count, attempt.failsAfter = some count →
    Reported bytes count ∨ bytes.length ≤ count

/-- The key of an attempt. -/
def storageKey (mailbox callId : Str) (attempt : Attempt) : Str :=
  mailbox ++ '/' :: callId ++ '-' :: attempt.uuid ++ ".wav".toList

/-- The loop of `write_message`. -/
def createFile (files : Files) (mailbox callId : Str) (bytes : Bytes) :
    List Attempt → Option Str × Files
  | [] => (none, files)
  | attempt :: rest =>
    let key := storageKey mailbox callId attempt
    match pathForKey key with
    | none => (none, files)
    | some path =>
      if path ∈ files ∨ attempt.opening = .alreadyExists then
        createFile files mailbox callId bytes rest
      else if attempt.opening = .fails then (none, files)
      else
        match attempt.failsAfter with
        | none => (some key, files.insert path bytes)
        | some count =>
          (if Reported bytes count then none else some key, files.insert path (bytes.take count))

/-- `write_message`: the key, unless it fails, and the files after it. -/
def writeMessage (files : Files) (mailbox callId : Str) (bytes : Bytes) (writing : Writing) :
    Option Str × Files :=
  let mailbox := sanitizeKeyPart mailbox
  if pathForKey mailbox = none ∨ !writing.directory then (none, files)
  else createFile files mailbox (sanitizeKeyPart callId) bytes writing.attempts.toList

/-- `read`. -/
def read (files : Files) (key : Str) : Option Bytes :=
  (pathForKey key).bind files.lookup

/-- `delete`: whether it succeeds, and the files after it. A file that does not exist counts as
deleted. -/
def delete (files : Files) (key : Str) (fails : Bool) : Bool × Files :=
  match pathForKey key with
  | none => (false, files)
  | some path => if fails then (false, files) else (true, files.erase path)

/-- The name of an attempt is in use, so that the next one is tried. -/
def Taken (files : Files) (mailbox callId : Str) (attempt : Attempt) : Bool :=
  (pathForKey (storageKey mailbox callId attempt)).any fun path =>
    path ∈ files ∨ attempt.opening = .alreadyExists

/-- A file is created under the first name that is not in use, and its writing fails before the
last piece. -/
def CutShort (files : Files) (mailbox callId : Str) (bytes : Bytes) (attempts : List Attempt) :
    Prop :=
  ∃ attempt count, attempts.find? (!Taken files mailbox callId ·) = some attempt ∧
    attempt.opening = .opens ∧ pathForKey (storageKey mailbox callId attempt) ≠ none ∧
    attempt.failsAfter = some count ∧ Reported bytes count

/-- `write_message` creates a file and fails to write it. -/
def Writing.CutsShort (writing : Writing) (files : Files) (mailbox callId : Str) (bytes : Bytes) :
    Prop :=
  (pathForKey (sanitizeKeyPart mailbox) ≠ none ∧ writing.directory = true) ∧
    CutShort files (sanitizeKeyPart mailbox) (sanitizeKeyPart callId) bytes writing.attempts.toList

/-- What creating a file does: it fails and changes nothing, or it leaves a part of a new file and
fails, or it makes a new file, of which the end may be missing. -/
inductive Creates (files : Files) (bytes : Bytes) (cut complete : Prop) : Option Str × Files → Prop
  | nothing (whole : ¬ cut) : Creates files bytes cut complete (none, files)
  | part {path : Path} {count : Nat} (short : cut) (new : path ∉ files) :
      Creates files bytes cut complete (none, files.insert path (bytes.take count))
  | file {key : Str} {path : Path} {stored : Bytes} (whole : ¬ cut)
      (named : pathForKey key = some path) (new : path ∉ files)
      (written : complete → stored = bytes) :
      Creates files bytes cut complete (some key, files.insert path stored)

/-- What is only known of complete writes may be known of fewer. -/
theorem Creates.mono {files : Files} {bytes : Bytes} {cut complete fewer : Prop}
    {result : Option Str × Files} (creates : Creates files bytes cut complete result)
    (implies : fewer → complete) : Creates files bytes cut fewer result := by
  cases creates with
  | nothing whole => exact .nothing whole
  | part short new => exact .part short new
  | file whole named new written => exact .file whole named new fun holds => written (implies holds)

section Creating

variable {files : Files} {mailbox callId : Str} {bytes : Bytes} {attempt : Attempt}
  {attempts : List Attempt}

theorem cutShort_cons_of_taken (taken : Taken files mailbox callId attempt = true) :
    CutShort files mailbox callId bytes (attempt :: attempts) =
      CutShort files mailbox callId bytes attempts := by
  rw [CutShort, List.find?_cons_of_neg (by simp [taken]), ← CutShort]

theorem cutShort_cons_of_free (free : Taken files mailbox callId attempt = false) :
    CutShort files mailbox callId bytes (attempt :: attempts) ↔ attempt.opening = .opens ∧
      pathForKey (storageKey mailbox callId attempt) ≠ none ∧
        ∃ count, attempt.failsAfter = some count ∧ Reported bytes count := by
  rw [CutShort, List.find?_cons_of_pos (by simp [free])]
  simp

variable (files mailbox callId bytes attempts)

/-- The loop creates the file of the first free name, or none. -/
theorem creates_createFile :
    Creates files bytes (CutShort files mailbox callId bytes attempts)
      (∀ attempt ∈ attempts, ∀ count, attempt.failsAfter = some count →
        Reported bytes count ∨ bytes.length ≤ count)
      (createFile files mailbox callId bytes attempts) := by
  induction attempts with
  | nil => exact .nothing fun ⟨_, _, found, _⟩ => by cases found
  | cons attempt rest ih =>
    simp only [createFile]
    split
    · next refused =>
        have free : Taken files mailbox callId attempt = false := by simp [Taken, refused]
        exact .nothing fun short => ((cutShort_cons_of_free free).mp short).2.1 refused
    · next path named =>
        split
        · next used =>
            have taken : Taken files mailbox callId attempt = true := by
              simpa [Taken, named] using used
            rw [cutShort_cons_of_taken taken]
            refine ih.mono fun complete other member => complete other (.tail _ member)
        · next absent =>
            have new : path ∉ files := fun present => absent (.inl present)
            have free : Taken files mailbox callId attempt = false := by
              simpa [Taken, named] using absent
            have located : pathForKey (storageKey mailbox callId attempt) ≠ none := by
              rw [named]
              exact Option.some_ne_none path
            rw [cutShort_cons_of_free free]
            split
            · next fails => exact .nothing fun short => by cases fails.symm.trans short.1
            · next unbroken =>
                have opens : attempt.opening = .opens := by
                  cases opening : attempt.opening <;> simp_all
                split
                · next whole =>
                    refine .file (fun short => ?_) named new fun _ => rfl
                    obtain ⟨count, cut, -⟩ := short.2.2
                    cases whole.symm.trans cut
                · next count cut =>
                    split
                    · next reported => exact .part ⟨opens, located, count, cut, reported⟩ new
                    · next unseen =>
                        refine .file (fun short => ?_) named new fun complete => ?_
                        · obtain ⟨_, same, reported⟩ := short.2.2
                          cases cut.symm.trans same
                          exact unseen reported
                        · exact List.take_of_length_le
                            ((complete attempt (.head _) count cut).resolve_left unseen)

end Creating

theorem creates_writeMessage (files : Files) (mailbox callId : Str) (bytes : Bytes)
    (writing : Writing) :
    Creates files bytes (writing.CutsShort files mailbox callId bytes)
      (writing.CompleteOnSuccess bytes) (writeMessage files mailbox callId bytes writing) := by
  unfold writeMessage
  simp only
  split
  · next unusable =>
      refine .nothing fun short => ?_
      rcases unusable with refused | missing
      · exact short.1.1 refused
      · rw [short.1.2] at missing
        cases missing
  · next usable =>
      have ready : pathForKey (sanitizeKeyPart mailbox) ≠ none ∧ writing.directory = true := by
        simpa [not_or] using usable
      rw [Writing.CutsShort, eq_true ready, true_and]
      exact creates_createFile files _ _ bytes _

variable {writing : Writing} {files : Files} {key : Str} {stored : Bytes} {mailbox callId : Str}
  {bytes : Bytes}

theorem exists_path_of_read (present : read files key = some stored) :
    ∃ path, pathForKey key = some path ∧ path ∈ files := by
  obtain ⟨path, named, there⟩ := Option.bind_eq_some_iff.mp present
  exact ⟨path, named, AList.lookup_isSome.mp (by rw [there]; rfl)⟩

/-- A new file leaves every key that could be read as it was. -/
theorem read_insert_of_read {path : Path} {stored bytes : Bytes} (new : path ∉ files)
    (present : read files key = some stored) :
    read (files.insert path bytes) key = some stored := by
  obtain ⟨other, named, there⟩ := Option.bind_eq_some_iff.mp present
  have different : other ≠ path := by
    rintro rfl
    exact new (AList.lookup_isSome.mp (by rw [there]; rfl))
  rw [read, named, Option.bind_some, AList.lookup_insert_ne different, there]

/-- `write_message` leaves every key that could be read as it was. -/
theorem read_writeMessage (present : read files key = some stored) (mailbox callId : Str)
    (bytes : Bytes) (writing : Writing) :
    read (writeMessage files mailbox callId bytes writing).2 key = some stored := by
  have creates := creates_writeMessage files mailbox callId bytes writing
  generalize writeMessage files mailbox callId bytes writing = result at creates ⊢
  cases creates with
  | nothing whole => exact present
  | part short new => exact read_insert_of_read new present
  | file whole named new written => exact read_insert_of_read new present

variable (written : (writeMessage files mailbox callId bytes writing).1 = some key)

include written

/-- A key that `write_message` returns is that of the file it has made. -/
theorem writeMessage_created :
    ∃ path stored, pathForKey key = some path ∧ path ∉ files ∧
      (writeMessage files mailbox callId bytes writing).2 = files.insert path stored ∧
      (writing.CompleteOnSuccess bytes → stored = bytes) := by
  have creates := creates_writeMessage files mailbox callId bytes writing
  generalize writeMessage files mailbox callId bytes writing = result at creates written ⊢
  cases creates with
  | nothing whole => cases written
  | part short new => cases written
  | file whole named new filled =>
    cases written
    exact ⟨_, _, named, new, rfl, filled⟩

/-- A key that `write_message` returns is that of a file that was not there. -/
theorem writeMessage_new {other : Str} {stored : Bytes}
    (present : read files other = some stored) : pathForKey key ≠ pathForKey other := by
  obtain ⟨path, _, named, new, -⟩ := writeMessage_created written
  intro samePath
  obtain ⟨otherPath, otherNamed, there⟩ := exists_path_of_read present
  cases named.symm.trans (samePath.trans otherNamed)
  exact new there

/-- A complete write is read back. -/
theorem read_writeMessage_self (complete : writing.CompleteOnSuccess bytes) :
    read (writeMessage files mailbox callId bytes writing).2 key = some bytes := by
  obtain ⟨path, stored, named, -, created, filled⟩ := writeMessage_created written
  rw [created, filled complete, read, named]
  exact AList.lookup_insert _

end Sip3.Storage
