import Sip3.Storage.Voicemail
import Sip3.Text.Lines

/-!
# Keys of the voicemail storage

A key is checked as a text: it may not be absolute and may not contain two dots in a row. What is
accepted stays below the root of the storage. Sanitising a Call-ID replaces separators and leaves
dots as they are, so the key of a Call-ID with two dots in a row is refused.
-/

namespace Sip3.Storage

open Text List

/-- Two dots in a row, as `path_for_key` looks for them. -/
abbrev hasDots (text : Str) : Bool := Str.containsStr text "..".toList

theorem hasDots_cons (char : Char) (rest : Str) :
    hasDots (char :: rest) = ((char == '.' && rest.head? == some '.') || hasDots rest) := by
  have first : isPrefixOf "..".toList (char :: rest) =
      (char == '.' && rest.head? == some '.') := by
    cases rest <;> simp [isPrefixOf, Bool.beq_comm]
  rw [← first]
  simp [hasDots, Str.containsStr]

/-- A character that is not a dot keeps the dots on its two sides apart. -/
theorem hasDots_append {char : Char} (other : char ≠ '.') (left right : Str) :
    hasDots (left ++ char :: right) = (hasDots left || hasDots right) := by
  induction left with
  | nil =>
    have none : hasDots [] = false := by decide
    rw [nil_append, hasDots_cons, beq_false_of_ne other, none]
    rfl
  | cons first left ih =>
    rw [cons_append, hasDots_cons, hasDots_cons, ih, Bool.or_assoc]
    cases left with
    | nil => simp [other]
    | cons second left => rfl

theorem hasDots_of_not_mem {text : Str} (absent : '.' ∉ text) : hasDots text = false := by
  induction text with
  | nil => decide
  | cons char rest ih =>
    rw [mem_cons, not_or] at absent
    rw [hasDots_cons, beq_false_of_ne (Ne.symm absent.1), ih absent.2]
    rfl

theorem hasDots_concat {text : Str} (absent : '.' ∉ text) : hasDots (text ++ ['.']) = false := by
  induction text with
  | nil => decide
  | cons char rest ih =>
    rw [mem_cons, not_or] at absent
    rw [cons_append, hasDots_cons, beq_false_of_ne (Ne.symm absent.1), ih absent.2]
    rfl

section Sanitising

variable {text : Str}

theorem hasDots_sanitizeKeyPart (text : Str) : hasDots (sanitizeKeyPart text) = hasDots text := by
  have dot : ∀ char : Char,
      ((if char ∈ ['/', '\\', ':', '\x00'] then '_' else char) == '.') = (char == '.') := by
    intro char
    split
    · next special =>
        have other : char ≠ '.' := by
          rintro rfl
          exact absurd special (by decide)
        rw [beq_false_of_ne other]
        rfl
    · rfl
  induction text with
  | nil => rfl
  | cons char rest ih =>
    have next : ((sanitizeKeyPart rest).head? == some '.') = (rest.head? == some '.') := by
      cases rest with
      | nil => rfl
      | cons second rest => exact dot second
    change hasDots (_ :: sanitizeKeyPart rest) = _
    rw [hasDots_cons, hasDots_cons, ih, next, dot char]

theorem slash_not_mem_sanitizeKeyPart (text : Str) : '/' ∉ sanitizeKeyPart text := by
  intro member
  obtain ⟨char, -, same⟩ := mem_map.mp member
  split at same
  · exact absurd same (by decide)
  · next plain => exact plain (by simp [same])

theorem sanitizeKeyPart_of_digits (digits : ∀ char ∈ text, char.isDigit = true) :
    sanitizeKeyPart text = text := by
  have same : ∀ char ∈ text, (if char ∈ ['/', '\\', ':', '\x00'] then '_' else char) = char := by
    intro char member
    refine if_neg fun special => ?_
    have digit := digits char member
    simp only [mem_cons, not_mem_nil, or_false] at special
    rcases special with rfl | rfl | rfl | rfl <;> exact absurd digit (by decide)
  exact (map_congr_left same).trans (map_id _)

end Sanitising

/-- `Uuid::simple`: thirty-two hexadecimal digits. -/
def isSimpleUuid (uuid : Str) : Bool :=
  uuid.length = 32 && uuid.all (· ∈ Str.hexDigits)

theorem not_mem_of_isSimpleUuid {uuid : Str} (simple : isSimpleUuid uuid = true) {char : Char}
    (other : char ∉ Str.hexDigits) : char ∉ uuid := by
  intro member
  obtain ⟨-, hexadecimal⟩ := Bool.and_eq_true_iff.mp simple
  exact other (of_decide_eq_true (all_eq_true.mp hexadecimal char member))

section Usable

variable {mailbox callId : Str} {attempt : Attempt}

/-- The name of the file of an attempt. -/
def fileName (callId : Str) (attempt : Attempt) : Str :=
  sanitizeKeyPart callId ++ '-' :: attempt.uuid ++ ".wav".toList

theorem storageKey_eq (mailbox callId : Str) (attempt : Attempt) :
    storageKey mailbox (sanitizeKeyPart callId) attempt =
      mailbox ++ '/' :: fileName callId attempt := by
  simp [storageKey, fileName]

theorem hasDots_storageKey (digits : ∀ char ∈ mailbox, char.isDigit = true)
    (simple : isSimpleUuid attempt.uuid = true) :
    hasDots (storageKey mailbox (sanitizeKeyPart callId) attempt) = hasDots callId := by
  have clean : hasDots mailbox = false :=
    hasDots_of_not_mem fun member => absurd (digits '.' member) (by decide)
  have ending : hasDots (attempt.uuid ++ ".wav".toList) = false := by
    have single : attempt.uuid ++ ".wav".toList =
        (attempt.uuid ++ ['.']) ++ 'w' :: "av".toList := by
      simp
    rw [single, hasDots_append (by decide),
      hasDots_concat (not_mem_of_isSimpleUuid simple (by decide))]
    decide
  rw [storageKey_eq, hasDots_append (by decide), clean, fileName, append_assoc,
    cons_append, hasDots_append (by decide), ending, hasDots_sanitizeKeyPart]
  simp

theorem pathForKey_storageKey (filled : mailbox ≠ [])
    (digits : ∀ char ∈ mailbox, char.isDigit = true) (simple : isSimpleUuid attempt.uuid = true) :
    pathForKey (storageKey mailbox (sanitizeKeyPart callId) attempt) =
      if hasDots callId then none else some [mailbox, fileName callId attempt] := by
  have dots : hasDots (storageKey mailbox (sanitizeKeyPart callId) attempt) = hasDots callId :=
    hasDots_storageKey digits simple
  have relative : (storageKey mailbox (sanitizeKeyPart callId) attempt).head? ≠ some '/' := by
    obtain ⟨digit, rest, rfl⟩ := exists_cons_of_ne_nil filled
    intro absolute
    cases absolute
    exact absurd (digits '/' (.head _)) (by decide)
  have separate : '/' ∉ mailbox := fun member => absurd (digits '/' member) (by decide)
  have file : '/' ∉ fileName callId attempt := by
    simp only [fileName, mem_append, mem_cons, not_or]
    exact ⟨⟨slash_not_mem_sanitizeKeyPart callId, by decide,
      not_mem_of_isSimpleUuid simple (by decide)⟩, by decide⟩
  have parts : Str.split '/' (storageKey mailbox (sanitizeKeyPart callId) attempt) =
      [mailbox, fileName callId attempt] := by
    rw [storageKey_eq, Str.split, splitOn_append_cons_self_of_not_mem separate]
    exact congrArg _ (Str.split_of_not_mem file)
  have named : mailbox ≠ ".".toList := by
    rintro rfl
    exact absurd (digits '.' (.head _)) (by decide)
  have long : 2 ≤ (fileName callId attempt).length := by
    have ending : ".wav".toList.length = 4 := rfl
    simp only [fileName, length_append, length_cons, ending]
    omega
  have whole : fileName callId attempt ≠ [] ∧ fileName callId attempt ≠ ".".toList := by
    constructor <;> intro same <;> rw [same] at long <;> exact absurd long (by decide)
  unfold pathForKey
  by_cases dotted : hasDots callId = true
  · rw [if_pos (.inl (dots.trans dotted)), if_pos dotted]
  · rw [if_neg (not_or.mpr ⟨fun found => dotted (dots.symm.trans found), relative⟩), if_neg dotted,
      parts]
    refine congrArg some (filter_eq_self.mpr ?_)
    simp only [forall_mem_cons, decide_eq_true_eq]
    exact ⟨⟨filled, named⟩, whole, forall_mem_nil _⟩

/-- With a file system that works, the loop creates a file, unless the keys are refused. -/
theorem createFile_isSome_iff (filled : mailbox ≠ [])
    (digits : ∀ char ∈ mailbox, char.isDigit = true) (files : Files) (bytes : Bytes)
    {attempts : List Attempt} (works : ∀ attempt ∈ attempts, isSimpleUuid attempt.uuid = true ∧
      attempt.opening = .opens ∧ attempt.failsAfter = none)
    (free : ∃ attempt ∈ attempts, [mailbox, fileName callId attempt] ∉ files) :
    (createFile files mailbox (sanitizeKeyPart callId) bytes attempts).1.isSome = true ↔
      hasDots callId = false := by
  induction attempts with
  | nil =>
    obtain ⟨attempt, member, -⟩ := free
    cases member
  | cons attempt rest ih =>
    obtain ⟨simple, opens, complete⟩ := works attempt (.head _)
    rw [createFile, pathForKey_storageKey filled digits simple]
    by_cases dotted : hasDots callId = true
    · simp [dotted]
    · rw [if_neg dotted]
      simp only [opens, complete]
      by_cases used : [mailbox, fileName callId attempt] ∈ files
      · rw [if_pos (.inl used)]
        refine ih (fun other member => works other (.tail _ member)) ?_
        obtain ⟨other, member, unused⟩ := free
        rcases mem_cons.mp member with rfl | later
        · exact absurd used unused
        · exact ⟨other, later, unused⟩
      · rw [if_neg (by simp [used]), if_neg (by decide)]
        simpa using dotted

/-- The keys that `write_message` builds for a mailbox of digits name a file directly in the
directory of the mailbox, and a file system that works stores the recording, exactly when the
Call-ID has no two dots in a row. -/
theorem storageKey_usable_iff (filled : mailbox ≠ [])
    (digits : ∀ char ∈ mailbox, char.isDigit = true) (callId : Str) :
    (∀ attempt : Attempt, isSimpleUuid attempt.uuid = true →
      (pathForKey (storageKey (sanitizeKeyPart mailbox) (sanitizeKeyPart callId) attempt) =
        some [mailbox, fileName callId attempt] ↔ hasDots callId = false)) ∧
    ∀ (files : Files) (bytes : Bytes) (writing : Writing), writing.directory = true →
      (∀ attempt ∈ writing.attempts.toList, isSimpleUuid attempt.uuid = true ∧
        attempt.opening = .opens ∧ attempt.failsAfter = none) →
      (∃ attempt ∈ writing.attempts.toList, [mailbox, fileName callId attempt] ∉ files) →
      ((writeMessage files mailbox callId bytes writing).1.isSome = true ↔
        hasDots callId = false) := by
  have same := sanitizeKeyPart_of_digits digits
  rw [same]
  constructor
  · intro attempt simple
    rw [pathForKey_storageKey filled digits simple]
    cases hasDots callId <;> simp
  · intro files bytes writing ready works free
    have accepted : pathForKey mailbox ≠ none := by
      have clean : hasDots mailbox = false :=
        hasDots_of_not_mem fun member => absurd (digits '.' member) (by decide)
      have relative : mailbox.head? ≠ some '/' := fun absolute =>
        absurd (digits '/' (List.mem_of_mem_head? absolute)) (by decide)
      unfold pathForKey
      rw [if_neg (not_or.mpr ⟨fun dots => absurd (dots.symm.trans clean) (by decide), relative⟩)]
      exact Option.some_ne_none _
    rw [writeMessage, same, if_neg (by simp [accepted, ready])]
    exact createFile_isSome_iff filled digits files bytes works free

end Usable

namespace Sample

/-- A file system that opens and writes every new file. -/
def working : Writing :=
  ⟨true, Vector.replicate 8 ⟨List.replicate 32 '0', .opens, none⟩⟩

end Sample

/-- The Call-ID has characters that are replaced. -/
theorem storageKey_usable_replaced :
    (writeMessage ∅ "1001".toList "a:/b".toList [] Sample.working).1.isSome = true :=
  ((storageKey_usable_iff (by decide) (Str.forall_mem_of_all (by decide)) "a:/b".toList).2 ∅ []
    Sample.working rfl (by decide) (by decide)).mpr (by decide)

/-- The Call-ID has two dots in a row: its key is refused, and nothing is stored. -/
theorem storageKey_refused :
    pathForKey (storageKey "1001".toList (sanitizeKeyPart "a..b".toList)
      ⟨List.replicate 32 '0', .opens, none⟩) = none ∧
    (writeMessage ∅ "1001".toList "a..b".toList [] Sample.working).1 = none := by
  decide

/-- A call of the storage. -/
inductive Call where
  | write (mailbox callId : Str) (bytes : Bytes) (writing : Writing)
  | read (key : Str)
  | delete (key : Str) (fails : Bool)

/-- The files after a call. -/
def Call.after (files : Files) : Call → Files
  | .write mailbox callId bytes writing => (writeMessage files mailbox callId bytes writing).2
  | .read _ => files
  | .delete key fails => (Storage.delete files key fails).2

/-- The files after a sequence of calls. -/
def run (files : Files) (calls : List Call) : Files :=
  calls.foldl Call.after files

/-- The paths below the root that a call may create, open, read or remove. -/
def Call.paths : Call → List Path
  | .write mailbox callId _ writing =>
    (sanitizeKeyPart mailbox :: writing.attempts.toList.map
      (storageKey (sanitizeKeyPart mailbox) (sanitizeKeyPart callId))).filterMap pathForKey
  | .read key | .delete key _ => (pathForKey key).toList

/-- Where the components of a path lead from a directory: `..` leads to its parent. -/
def descend (directory : Path) (parts : List Str) : Path :=
  parts.foldl (fun directory part =>
    if part = "..".toList then directory.dropLast else directory ++ [part]) directory

theorem descend_eq_append {parts : List Str} (down : "..".toList ∉ parts) (directory : Path) :
    descend directory parts = directory ++ parts := by
  induction parts generalizing directory with
  | nil => simp [descend]
  | cons part rest ih =>
    rw [mem_cons, not_or] at down
    rw [descend, foldl_cons, if_neg (Ne.symm down.1)]
    exact (ih down.2 _).trans (append_cons ..).symm

/-- A text without two dots in a row has no component `..`. -/
theorem dots_not_mem_split {key : Str} (clean : hasDots key = false) :
    "..".toList ∉ Str.split '/' key := by
  by_cases member : '/' ∈ key
  · obtain ⟨left, right, rfl, before⟩ := eq_append_cons_of_mem member
    rw [hasDots_append (by decide), Bool.or_eq_false_iff] at clean
    rw [Str.split, splitOn_append_cons_self_of_not_mem before, mem_cons, not_or]
    refine ⟨?_, dots_not_mem_split clean.2⟩
    rintro rfl
    exact absurd clean.1 (by decide)
  · rw [Str.split_of_not_mem member, mem_singleton]
    rintro rfl
    exact absurd clean (by decide)
termination_by key.length

/-- What `path_for_key` accepts leads to the root or below it. -/
theorem descend_pathForKey {key : Str} {path : Path} (accepted : pathForKey key = some path)
    (root : Path) : descend root path = root ++ path := by
  unfold pathForKey at accepted
  split at accepted
  · cases accepted
  · next usable =>
      cases accepted
      refine descend_eq_append (fun member => ?_) root
      rw [not_or, Bool.not_eq_true] at usable
      exact dots_not_mem_split usable.1 (mem_filter.mp member).1

theorem Call.confined {call : Call} {path : Path} (touched : path ∈ call.paths) (root : Path) :
    root <+: descend root path := by
  have accepted : ∃ key, pathForKey key = some path := by
    cases call with
    | write mailbox callId bytes writing =>
      obtain ⟨key, -, accepted⟩ := mem_filterMap.mp touched
      exact ⟨key, accepted⟩
    | read key => exact ⟨key, Option.mem_toList.mp touched⟩
    | delete key fails => exact ⟨key, Option.mem_toList.mp touched⟩
  obtain ⟨key, accepted⟩ := accepted
  rw [descend_pathForKey accepted]
  exact prefix_append root path

section History

variable {files : Files} {key : Str} {path : Path} {stored : Bytes}

/-- A call keeps what can be read, unless it deletes that file. -/
theorem Call.read_after {call : Call} (named : pathForKey key = some path)
    (spared : ∀ other fails, call = .delete other fails → pathForKey other ≠ some path)
    (present : Storage.read files key = some stored) :
    Storage.read (call.after files) key = some stored := by
  cases call with
  | write mailbox callId bytes writing =>
    exact read_writeMessage present mailbox callId bytes writing
  | read other => exact present
  | delete other fails =>
    have different := spared other fails rfl
    simp only [Call.after, Storage.delete]
    split
    · exact present
    · next removed found =>
        have apart : path ≠ removed := fun same => different (same ▸ found)
        split
        · exact present
        · rw [Storage.read, named, Option.bind_some] at present ⊢
          rw [AList.lookup_erase_ne apart]
          exact present

theorem read_run {calls : List Call} (named : pathForKey key = some path)
    (spared : ∀ other fails, Call.delete other fails ∈ calls → pathForKey other ≠ some path)
    (present : Storage.read files key = some stored) :
    Storage.read (run files calls) key = some stored := by
  induction calls generalizing files with
  | nil => exact present
  | cons call rest ih =>
    refine ih (fun other fails member => spared other fails (.tail _ member)) ?_
    refine Call.read_after named (fun other fails same => ?_) present
    exact spared other fails (same ▸ .head _)

end History

/-- In every history of the storage, whatever the mailboxes, Call-IDs, keys and random names are:
no path leads outside the root, and a write that succeeds makes a file that was not there, leaves
every other file as it was, and, when it is complete, is read back until a key of that file is
deleted. -/
theorem storage_history (root : Path) (files : Files) (calls : List Call) :
    (∀ call ∈ calls, ∀ path ∈ call.paths, root <+: descend root path) ∧
    ∀ front mailbox callId bytes writing back,
      calls = front ++ .write mailbox callId bytes writing :: back →
      ∀ key, (writeMessage (run files front) mailbox callId bytes writing).1 = some key →
      ∃ path, pathForKey key = some path ∧ path ∉ run files front ∧
        (∀ other, other ≠ path →
          (run files (front ++ [.write mailbox callId bytes writing])).lookup other =
            (run files front).lookup other) ∧
        (writing.CompleteOnSuccess bytes → ∀ middle rest, back = middle ++ rest →
          (∀ other fails, Call.delete other fails ∈ middle → pathForKey other ≠ some path) →
          Storage.read (run files (front ++ .write mailbox callId bytes writing :: middle)) key =
            some bytes) := by
  refine ⟨fun call _ path touched => call.confined touched root, ?_⟩
  intro front mailbox callId bytes writing back _ key written
  obtain ⟨path, _, named, new, created, -⟩ := writeMessage_created written
  refine ⟨path, named, new, fun other different => ?_, fun complete middle rest _ spared => ?_⟩
  · rw [run, List.foldl_append, List.foldl_cons, List.foldl_nil, Call.after]
    exact (congrArg _ created).trans (AList.lookup_insert_ne different)
  · rw [run, List.foldl_append, List.foldl_cons]
    exact read_run named spared (read_writeMessage_self written complete)

/-- The second write finds only the name of the first, and the key of another file is deleted. -/
theorem storage_history_repeated :
    Storage.read (run ∅ [.write "1".toList "c".toList [7] Sample.working,
      .write "1".toList "c".toList [8] Sample.working, .delete "1/c".toList false])
      (storageKey "1".toList "c".toList ⟨List.replicate 32 '0', .opens, none⟩) = some [7] := by
  obtain ⟨path, named, -, -, kept⟩ := (storage_history [] ∅ [.write "1".toList "c".toList [7]
    Sample.working, .write "1".toList "c".toList [8] Sample.working,
    .delete "1/c".toList false]).2 [] "1".toList "c".toList [7] Sample.working _ rfl
    (storageKey "1".toList "c".toList ⟨List.replicate 32 '0', .opens, none⟩) (by decide)
  have complete : Sample.working.CompleteOnSuccess [7] := fun attempt member count cut => by
    rw [List.eq_of_mem_replicate member] at cut
    cases cut
  refine kept complete _ [] (List.append_nil _).symm fun other fails member same => ?_
  have deleted : other = "1/c".toList ∧ fails = false := by simpa using member
  rw [deleted.1] at same
  exact absurd (same.trans named.symm) (by decide)

end Sip3.Storage
