import Sip3.Media.Rtp
import Sip3.Server.RecordingStorage

/-!
# Recording a message

`record_to_storage` of `voicemail_media.rs` reads packets from the socket of a session. The source
of the first valid packet becomes the peer, and only packets of the peer are recorded, until it
ends a `#` or there are enough samples.
-/

namespace Sip3.Recorder

open Mixer Rtp Text List

/-- What a recording uses of a session. -/
structure MediaSession where
  codec : Codec
  audioPt : Nat
  telephoneEventPt : Option Nat

/-- `validate_box_limits`. -/
def validateBoxLimits (noAnswerSecs maxMessageSecs maxMessages : Nat) : Except Str Unit :=
  if ¬ (1 ≤ noAnswerSecs ∧ noAnswerSecs ≤ 600) then
    .error "no_answer_secs must be between 1 and 600".toList
  else if ¬ (1 ≤ maxMessageSecs ∧ maxMessageSecs ≤ 1250) then
    .error "max_message_secs must be between 1 and 1250".toList
  else if ¬ (1 ≤ maxMessages ∧ maxMessages ≤ 10000) then
    .error "max_messages must be between 1 and 10000".toList
  else .ok ()

def sampleRate : Nat := 8000

def maxRecordSamplesLimit : Nat := 10000000

/-- `max_record_samples`. The product of 32 bits and the rate always fits. -/
def maxRecordSamples (maxSecs : Nat) : Except Str Nat :=
  if maxSecs = 0 then .error "voicemail max recording duration must be positive".toList
  else if maxSecs * sampleRate > maxRecordSamplesLimit then
    .error ("voicemail max recording duration exceeds ".toList ++
      (Nat.repr maxRecordSamplesLimit).toList ++ " samples".toList)
  else .ok (maxSecs * sampleRate)

/-- A recording: the peer of its session, its samples, and whether `#` was pressed. -/
structure Recording where
  peer : Option SocketAddr
  samples : List Int16
  stopped : Bool
  deriving DecidableEq

/-- The loop goes on. -/
def Recording.Running (recording : Recording) (maxSamples : Nat) : Prop :=
  recording.stopped = false ∧ recording.samples.length < maxSamples

instance (recording : Recording) (maxSamples : Nat) : Decidable (recording.Running maxSamples) :=
  inferInstanceAs (Decidable (_ ∧ _))

/-- The end of an event, which has to be `#`: event 11 is the only one that is mapped to it. -/
def isPoundEnd (payload : Packet) : Bool :=
  decide (payload.length ≥ 4) && byteAt payload 1 &&& 0x80 != 0 && byteAt payload 0 == 11

variable (session : MediaSession) (maxSamples : Nat)

/-- What the loop does with the payload of a packet of the peer. -/
def Recording.payload (recording : Recording) (media : Nat × Packet) : Recording :=
  if some media.1 = session.telephoneEventPt then
    if isPoundEnd media.2 then { recording with stopped := true } else recording
  else if media.1 ≠ session.audioPt then recording
  else
    let pcm := G711.decode session.codec media.2
    if pcm = [] then recording
    else { recording with
      samples := recording.samples ++ pcm.take (maxSamples - recording.samples.length) }

/-- One round of the loop: `validated_rtp_packet`, `learn_or_verify_peer`, and the payload. -/
def Recording.receive (recording : Recording) (datagram : SocketAddr × Packet) : Recording :=
  if recording.Running maxSamples then
    let packet := datagram.2.take rtpBufSize
    match Voicemail.validatedRtpPacket session.audioPt session.telephoneEventPt packet with
    | none => recording
    | some (pt, payloadOffset) =>
      match recording.peer with
      | some existing =>
        if existing ≠ datagram.1 then recording
        else recording.payload session maxSamples (pt, packet.drop payloadOffset)
      | none => { recording with peer := some datagram.1 }.payload session maxSamples
          (pt, packet.drop payloadOffset)
  else recording

variable {maxSamples}

/-- `record_to_storage` without time-outs: what is recorded and the duration that is reported. -/
def recordToStorage (peer : Option SocketAddr) (maxSecs : Nat)
    (datagrams : List (SocketAddr × Packet)) : Except Str (Recording × Nat) := do
  let maxSamples ← maxRecordSamples maxSecs
  let recording := datagrams.foldl (Recording.receive session maxSamples) ⟨peer, [], false⟩
  return (recording, durationSecs recording.samples.length)

/-- The payload type and the payload of a valid packet. -/
def validMedia (datagram : SocketAddr × Packet) : Option (Nat × Packet) :=
  Voicemail.mediaPayload session.audioPt session.telephoneEventPt datagram.2

/-- The source of the first valid packet. -/
def firstSource (datagrams : List (SocketAddr × Packet)) : Option SocketAddr :=
  (datagrams.find? fun datagram => (validMedia session datagram).isSome).map Prod.fst

/-- The valid packets of a source. -/
def mediaFrom (source : Option SocketAddr) (datagrams : List (SocketAddr × Packet)) :
    List (Nat × Packet) :=
  datagrams.filterMap fun datagram =>
    if some datagram.1 = source then validMedia session datagram else none

/-- The end of `#`. -/
def IsPound (media : Nat × Packet) : Bool :=
  decide (some media.1 = session.telephoneEventPt) && isPoundEnd media.2

/-- The samples of the audio packets before the first end of `#`. -/
def samplesBeforePound (media : List (Nat × Packet)) : List Int16 :=
  ((media.takeWhile fun media => !IsPound session media).filter (·.1 = session.audioPt)).flatMap
    fun media => G711.decode session.codec media.2

/-- A round with a packet of the peer. -/
def Recording.advance (maxSamples : Nat) (recording : Recording) (media : Nat × Packet) :
    Recording :=
  if recording.Running maxSamples then recording.payload session maxSamples media else recording

variable {session} {recording : Recording} {datagram : SocketAddr × Packet}
  {datagrams : List (SocketAddr × Packet)}

@[simp] theorem payload_peer (media : Nat × Packet) :
    (recording.payload session maxSamples media).peer = recording.peer := by
  simp only [Recording.payload]
  split
  · split <;> rfl
  · split
    · rfl
    · split <;> rfl

@[simp] theorem advance_peer (media : Nat × Packet) :
    (recording.advance session maxSamples media).peer = recording.peer := by
  rw [Recording.advance]
  split
  · exact payload_peer media
  · rfl

/-- A packet that is not valid changes nothing. -/
theorem receive_invalid (fits : datagram.2.length ≤ rtpBufSize)
    (invalid : validMedia session datagram = none) :
    recording.receive session maxSamples datagram = recording := by
  rw [validMedia, Voicemail.mediaPayload, Option.map_eq_none_iff] at invalid
  simp only [Recording.receive, take_of_length_le fits, invalid, ite_self]

/-- A valid packet is recorded when it is the first one or comes from the peer. -/
theorem receive_valid (fits : datagram.2.length ≤ rtpBufSize) {media : Nat × Packet}
    (valid : validMedia session datagram = some media) :
    recording.receive session maxSamples datagram =
      if recording.Running maxSamples then
        match recording.peer with
        | some existing => if existing ≠ datagram.1 then recording
            else recording.payload session maxSamples media
        | none => { recording with peer := some datagram.1 }.payload session maxSamples media
      else recording := by
  obtain ⟨⟨pt, offset⟩, validated, rfl⟩ := Option.map_eq_some_iff.mp valid
  simp only [Recording.receive, take_of_length_le fits, validated]

/-- Once the peer is known, only its packets count. -/
theorem foldl_receive_known {source : SocketAddr} (known : recording.peer = some source)
    (fits : ∀ datagram ∈ datagrams, datagram.2.length ≤ rtpBufSize) :
    datagrams.foldl (Recording.receive session maxSamples) recording =
      (mediaFrom session (some source) datagrams).foldl (Recording.advance session maxSamples)
        recording := by
  induction datagrams generalizing recording with
  | nil => rfl
  | cons datagram rest ih =>
    obtain ⟨here, later⟩ := forall_mem_cons.mp fits
    rw [foldl_cons]
    cases valid : validMedia session datagram with
    | none =>
      rw [receive_invalid here valid, ih known later, mediaFrom, mediaFrom,
        filterMap_cons_none (by rw [valid, ite_self])]
    | some media =>
      rw [receive_valid here valid, known]
      by_cases own : some datagram.1 = some source
      · have same : source = datagram.1 := (Option.some.inj own).symm
        dsimp only
        rw [if_neg (not_not.mpr same), ← Recording.advance, ih (by rw [advance_peer, known]) later,
          mediaFrom, mediaFrom, filterMap_cons_some (by rw [if_pos own, valid]),
          foldl_cons]
      · have other : source ≠ datagram.1 := fun same => own (congrArg some same.symm)
        dsimp only
        rw [if_pos other, ite_self, ih known later, mediaFrom, mediaFrom,
          filterMap_cons_none (by rw [if_neg own])]

/-- A recording depends on the packets of its source only. -/
theorem foldl_receive_eq (positive : 0 < maxSamples) (peer : Option SocketAddr)
    (fits : ∀ datagram ∈ datagrams, datagram.2.length ≤ rtpBufSize) :
    datagrams.foldl (Recording.receive session maxSamples) ⟨peer, [], false⟩ =
      (mediaFrom session (peer.or (firstSource session datagrams)) datagrams).foldl
        (Recording.advance session maxSamples)
        ⟨peer.or (firstSource session datagrams), [], false⟩ := by
  cases peer with
  | some source => exact foldl_receive_known rfl fits
  | none =>
    rw [Option.none_or]
    induction datagrams with
    | nil => rfl
    | cons datagram rest ih =>
      obtain ⟨here, later⟩ := forall_mem_cons.mp fits
      rw [foldl_cons]
      cases valid : validMedia session datagram with
      | none =>
        have first : firstSource session (datagram :: rest) = firstSource session rest := by
          rw [firstSource, firstSource, find?_cons_of_neg (by rw [valid]; exact nofun)]
        rw [receive_invalid here valid, ih later, first, mediaFrom, mediaFrom,
          filterMap_cons_none (by rw [valid, ite_self])]
      | some media =>
        have first : firstSource session (datagram :: rest) = some datagram.1 := by
          rw [firstSource, find?_cons_of_pos (by rw [valid]; rfl)]
          rfl
        have running : Recording.Running ⟨none, [], false⟩ maxSamples := ⟨rfl, positive⟩
        have running' : Recording.Running ⟨some datagram.1, [], false⟩ maxSamples := ⟨rfl, positive⟩
        rw [receive_valid here valid, if_pos running, first, foldl_receive_known
          (payload_peer media) later, mediaFrom, mediaFrom,
          filterMap_cons_some (by rw [if_pos rfl, valid]), foldl_cons, Recording.advance,
          if_pos running']

theorem foldl_advance_peer (media : List (Nat × Packet)) :
    (media.foldl (Recording.advance session maxSamples) recording).peer = recording.peer := by
  induction media generalizing recording with
  | nil => rfl
  | cons first rest ih => rw [foldl_cons, ih, advance_peer]

/-- When the loop has ended, nothing is recorded. -/
theorem foldl_advance_ended (ended : ¬ recording.Running maxSamples) (media : List (Nat × Packet)) :
    media.foldl (Recording.advance session maxSamples) recording = recording := by
  induction media with
  | nil => rfl
  | cons first rest ih => rw [foldl_cons, Recording.advance, if_neg ended, ih]

/-- Cutting samples before more are added does not change what is cut in the end. -/
theorem take_append_take {size : Nat} (start middle rest : List Int16)
    (fits : start.length ≤ size) :
    (start ++ middle.take (size - start.length) ++ rest).take size =
      (start ++ middle ++ rest).take size := by
  simp only [append_assoc, take_append, take_of_length_le fits, take_take,
    Nat.min_self, length_take]
  rcases Nat.le_total (size - start.length) middle.length with short | long
  · rw [Nat.min_eq_left short, Nat.sub_self, Nat.sub_eq_zero_of_le short]
  · rw [Nat.min_eq_right long]

theorem samplesBeforePound_cons (first : Nat × Packet) (rest : List (Nat × Packet)) :
    samplesBeforePound session (first :: rest) =
      if IsPound session first then []
      else if first.1 = session.audioPt then
        G711.decode session.codec first.2 ++ samplesBeforePound session rest
      else samplesBeforePound session rest := by
  by_cases pound : IsPound session first = true
  · simp [samplesBeforePound, pound]
  · by_cases audio : first.1 = session.audioPt <;> simp [samplesBeforePound, pound, audio]

/-- The samples of a recording that goes on. -/
theorem samples_foldl_advance (different : some session.audioPt ≠ session.telephoneEventPt)
    (media : List (Nat × Packet)) (going : recording.stopped = false)
    (bounded : recording.samples.length ≤ maxSamples) :
    (media.foldl (Recording.advance session maxSamples) recording).samples =
      (recording.samples ++ samplesBeforePound session media).take maxSamples := by
  induction media generalizing recording with
  | nil =>
    rw [foldl_nil, samplesBeforePound]
    simp [take_of_length_le bounded]
  | cons first rest ih =>
    by_cases running : recording.Running maxSamples
    · rw [foldl_cons, Recording.advance, if_pos running, Recording.payload,
        samplesBeforePound_cons]
      by_cases event : some first.1 = session.telephoneEventPt
      · have other : first.1 ≠ session.audioPt := fun audio => different (audio ▸ event)
        by_cases pound : isPoundEnd first.2 = true
        · have ends : IsPound session first = true := by simp [IsPound, event, pound]
          rw [if_pos event, if_pos pound, if_pos ends,
            foldl_advance_ended (fun running => Bool.noConfusion running.1), append_nil,
            take_of_length_le bounded]
        · have onward : ¬ IsPound session first = true := by simp [IsPound, pound]
          rw [if_pos event, if_neg pound, if_neg onward, if_neg other, ih going bounded]
      · have onward : ¬ IsPound session first = true := by simp [IsPound, event]
        rw [if_neg event, if_neg onward]
        by_cases audio : first.1 = session.audioPt
        · rw [if_neg (not_not.mpr audio), if_pos audio, ← append_assoc]
          by_cases empty : G711.decode session.codec first.2 = []
          · rw [if_pos empty, ih going bounded, empty, append_nil]
          · have grown : (recording.samples ++ (G711.decode session.codec first.2).take
                (maxSamples - recording.samples.length)).length ≤ maxSamples := by
              rw [length_append, length_take]
              omega
            rw [if_neg empty]
            exact (@ih ⟨recording.peer, recording.samples ++ _, recording.stopped⟩ going
              grown).trans (take_append_take _ _ _ bounded)
        · rw [if_pos audio, if_neg audio, ih going bounded]
    · have full : maxSamples = recording.samples.length :=
        Nat.le_antisymm (Nat.not_lt.mp fun room => running ⟨going, room⟩) bounded
      rw [foldl_advance_ended running, full, take_left]

theorem length_payload_le {media : Nat × Packet} (bounded : recording.samples.length ≤ maxSamples) :
    (recording.payload session maxSamples media).samples.length ≤ maxSamples := by
  simp only [Recording.payload]
  split
  · split <;> exact bounded
  · split
    · exact bounded
    · split
      · exact bounded
      · simp only [length_append, length_take]
        omega

theorem length_receive_le (bounded : recording.samples.length ≤ maxSamples) :
    (recording.receive session maxSamples datagram).samples.length ≤ maxSamples := by
  simp only [Recording.receive]
  split
  · split
    · exact bounded
    · split
      · split
        · exact bounded
        · exact length_payload_le bounded
      · exact length_payload_le bounded
  · exact bounded

/-- Whatever was received, a recording has the size that the tasks of the server rely on, and can
be written as a file. -/
theorem recordToStorage_storable {peer : Option SocketAddr} {maxSecs duration : Nat}
    (recorded : recordToStorage session peer maxSecs datagrams = .ok (recording, duration)) :
    recording.samples.length ≤ maxSecs * 8000 ∧
      (∃ wav, Storage.pcm16WavBytes recording.samples 8000 = some wav) ∧
      duration = durationSecs recording.samples.length := by
  have kept (maxSamples : Nat) : (datagrams.foldl (Recording.receive session maxSamples)
      ⟨peer, [], false⟩).samples.length ≤ maxSamples :=
    foldlRecOn (motive := fun held : Recording => held.samples.length ≤ maxSamples) datagrams _
      (Nat.zero_le _) fun _ bounded _ _ => length_receive_le bounded
  rw [recordToStorage] at recorded
  cases limit : maxRecordSamples maxSecs with
  | error text =>
    rw [limit] at recorded
    cases recorded
  | ok maxSamples =>
    rw [limit] at recorded
    cases recorded
    have size : maxSamples = maxSecs * 8000 ∧ maxSamples ≤ maxRecordSamplesLimit := by
      rw [maxRecordSamples] at limit
      split at limit
      · cases limit
      · split at limit
        · cases limit
        · next small =>
          cases limit
          exact ⟨rfl, Nat.not_lt.mp small⟩
    have few := (kept maxSamples).trans size.2
    exact ⟨(kept maxSamples).trans_eq size.1,
      ⟨_, Storage.pcm16WavBytes_eq_some few (by decide) (by decide)⟩, rfl⟩

/-- The packets of the source keep their order and their source when the others are left out. -/
theorem firstSource_filter (peer : Option SocketAddr) :
    let source := peer.or (firstSource session datagrams)
    let kept := datagrams.filter fun datagram =>
      some datagram.1 = source ∧ (validMedia session datagram).isSome
    peer.or (firstSource session kept) = source ∧
      mediaFrom session source kept = mediaFrom session source datagrams := by
  refine ⟨?_, ?_⟩
  · cases peer with
    | some source => rfl
    | none =>
      rw [Option.none_or, Option.none_or, firstSource, find?_filter]
      cases found : datagrams.find? fun datagram => (validMedia session datagram).isSome with
      | none =>
        rw [firstSource, found]
        refine Option.map_eq_none_iff.mpr (find?_eq_none.mpr fun datagram member both => ?_)
        exact find?_eq_none.mp found datagram member (of_decide_eq_true both).2
      | some first =>
        have source : firstSource session datagrams = some first.1 := by
          rw [firstSource, found]
          rfl
        obtain ⟨valid, front, back, rfl, earlier⟩ := find?_eq_some_iff_append.mp found
        rw [source]
        refine congrArg (Option.map Prod.fst) (find?_eq_some_iff_append.mpr
          ⟨by simp [valid], front, back, rfl, fun datagram member => ?_⟩)
        simp [Bool.not_eq_true' _ ▸ earlier datagram member]
  · rw [mediaFrom, mediaFrom, filterMap_filter]
    refine filterMap_congr fun datagram _ => ?_
    by_cases own : some datagram.1 = peer.or (firstSource session datagrams)
    · cases valid : validMedia session datagram <;> simp [own]
    · simp [own]

/-- For every limit that a mailbox may have, a recording of packets that fit the buffer takes the
source of the first valid packet as its peer, unless it had one, and records the audio of this
peer until it ends `#`, as long as there is room; the other packets do not matter. The reported
duration is the number of seconds that were begun. -/
theorem recordToStorage_spec {noAnswerSecs maxSecs maxMessages : Nat} (peer : Option SocketAddr)
    (admitted : validateBoxLimits noAnswerSecs maxSecs maxMessages = .ok ())
    (different : some session.audioPt ≠ session.telephoneEventPt)
    (fits : ∀ datagram ∈ datagrams, datagram.2.length ≤ 4096) :
    let source := peer.or (firstSource session datagrams)
    ∃ recording duration,
      recordToStorage session peer maxSecs datagrams = .ok (recording, duration) ∧
      recording.peer = source ∧
      recording.samples = (samplesBeforePound session (mediaFrom session source datagrams)).take
        (maxSecs * 8000) ∧
      duration = (recording.samples.length + 7999) / 8000 ∧ duration ≤ maxSecs ∧
      recordToStorage session peer maxSecs (datagrams.filter fun datagram =>
        some datagram.1 = source ∧ (validMedia session datagram).isSome) =
          .ok (recording, duration) := by
  intro source
  have range : 1 ≤ maxSecs ∧ maxSecs ≤ 1250 := by
    by_contra outside
    rw [validateBoxLimits, if_pos outside] at admitted
    split at admitted <;> cases admitted
  have limit : maxRecordSamples maxSecs = .ok (maxSecs * 8000) := by
    have small : ¬ maxSecs * sampleRate > maxRecordSamplesLimit := by
      simp only [sampleRate, maxRecordSamplesLimit]
      omega
    rw [maxRecordSamples, if_neg (by omega), if_neg small]
    rfl
  have positive : 0 < maxSecs * 8000 := by omega
  have outcome (packets : List (SocketAddr × Packet)) :
      recordToStorage session peer maxSecs packets =
        let recording :=
          packets.foldl (Recording.receive session (maxSecs * 8000)) ⟨peer, [], false⟩
        .ok (recording, durationSecs recording.samples.length) := by
    rw [recordToStorage, limit]
    rfl
  obtain ⟨sameSource, sameMedia⟩ := @firstSource_filter session datagrams peer
  have keptFits : ∀ datagram ∈ datagrams.filter (fun datagram =>
      some datagram.1 = source ∧ (validMedia session datagram).isSome),
      datagram.2.length ≤ rtpBufSize := fun datagram member =>
    fits datagram (List.mem_filter.mp member).1
  have kept := @foldl_receive_eq session (maxSecs * 8000) _ positive peer keptFits
  rw [sameSource, sameMedia] at kept
  have all := @foldl_receive_eq session (maxSecs * 8000) datagrams positive peer fits
  have samples := @samples_foldl_advance session (maxSecs * 8000) ⟨source, [], false⟩ different
    (mediaFrom session source datagrams) rfl (Nat.zero_le _)
  rw [List.nil_append] at samples
  have bounded : ((mediaFrom session source datagrams).foldl
      (Recording.advance session (maxSecs * 8000)) ⟨source, [], false⟩).samples.length ≤
      maxSecs * 8000 := samples ▸ List.length_take_le _ _
  have duration {count : Nat} (few : count ≤ maxSecs * 8000) :
      durationSecs count = (count + 7999) / 8000 := by
    rw [durationSecs]
    omega
  refine ⟨_, _, (outcome datagrams).trans (by rw [all]), foldl_advance_peer _, samples,
    duration bounded, ?_, (outcome _).trans (by rw [kept])⟩
  rw [duration bounded]
  omega

/-- Two packets of a caller with one of somebody else between them. -/
def callerPackets : List (SocketAddr × Packet) :=
  [(⟨.octets 192 0 2 7, 5000⟩, 0x80 :: List.replicate 12 0),
    (⟨.octets 198 51 100 9, 666⟩, 0x80 :: List.replicate 15 0),
    (⟨.octets 192 0 2 7, 5000⟩, 0x80 :: List.replicate 13 0)]

/-- They are recorded for at most a second. -/
theorem recordToStorage_spec_caller : ∃ recording duration,
    recordToStorage ⟨.pcmu, 0, some 101⟩ none 1 callerPackets = .ok (recording, duration) ∧
      recording.peer = some ⟨.v4 #v[192, 0, 2, 7], 5000⟩ ∧ duration ≤ 1 := by
  obtain ⟨recording, duration, recorded, peer, -, -, short, -⟩ := @recordToStorage_spec
    ⟨.pcmu, 0, some 101⟩ callerPackets 20 1 100 none rfl (by decide) (by decide)
  exact ⟨recording, duration, recorded, peer.trans (by decide), short⟩

theorem recordToStorage_storable_caller : ∃ recording duration,
    recordToStorage ⟨.pcmu, 0, some 101⟩ none 1 callerPackets = .ok (recording, duration) ∧
      recording.samples.length ≤ 1 * 8000 :=
  ⟨_, _, rfl, (recordToStorage_storable rfl).1⟩

end Sip3.Recorder
