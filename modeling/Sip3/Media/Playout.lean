import Sip3.Media.Mixing
import Sip3.Media.Rtp

/-!
# Which packets a receiver hears

A run of a room with a log: the audio packets in the order in which they arrived, and the packets
whose frames a tick mixed for a receiver. A tick copies the latest frame of a participant and
leaves it there, so a packet is heard in every tick until the next one of its sender arrives.
-/

namespace Sip3.Mixer

open Semantics List Option

/-- The frame that a datagram leaves with a participant, if it is audio. -/
def audioFrame (participant : MediaParticipant) (datagram : Packet) : Option Frame :=
  (Rtp.Conference.mediaPayload participant.audioPt participant.telephoneEventPt
      (datagram.take rtpBufSize)).bind fun media =>
    if some media.1 = participant.telephoneEventPt then none
    else some (fitFrame (G711.decode participant.codec media.2))

theorem handleDtmfPacket_latestFrame (participant : MediaParticipant) (packet payload : Packet)
    (now : Nat) :
    (handleDtmfPacket participant packet payload now).latestFrame = participant.latestFrame := by
  unfold handleDtmfPacket
  simp only
  split
  · rfl
  · split <;> rfl

/-- A datagram replaces the latest frame exactly when it is audio. -/
theorem receive_latestFrame (participant : MediaParticipant) (src : SocketAddr) (datagram : Packet)
    (now : Nat) : (receive participant src datagram now).latestFrame =
      (audioFrame participant datagram).getD participant.latestFrame := by
  rw [Rtp.receive_eq_mediaPayload, audioFrame]
  dsimp only
  cases media : Rtp.Conference.mediaPayload participant.audioPt participant.telephoneEventPt
      (datagram.take rtpBufSize) with
  | none =>
    dsimp only
    split <;> rfl
  | some found =>
    obtain ⟨long, inside, negotiated, rfl⟩ := Rtp.Conference.mediaPayload_eq_some_iff.mp media
    simp only [if_neg (Nat.not_lt.mpr long), bind_some, receivePayload]
    by_cases event : some (byteAt (datagram.take rtpBufSize) 1 &&& 0x7F).toNat =
        participant.telephoneEventPt
    · rw [if_pos event, if_pos event, handleDtmfPacket_latestFrame]
      rfl
    · have audio : (byteAt (datagram.take rtpBufSize) 1 &&& 0x7F).toNat = participant.audioPt := by
        by_contra other
        exact negotiated ⟨other, event⟩
      have content : G711.decode participant.codec ((datagram.take rtpBufSize).drop
          (rtpPayloadOffset (datagram.take rtpBufSize))) ≠ [] := by
        cases participant.codec <;>
          simpa only [G711.decode, ne_eq, map_eq_nil_iff, drop_eq_nil_iff, Nat.not_le]
            using inside
      rw [if_neg event, if_neg event, if_neg (not_not.mpr audio), if_neg content]
      rfl

/-- An audio packet, with the number of ticks before it. -/
structure AudioPacket where
  sender : ParticipantId
  frame : Frame
  ticks : Nat
  deriving DecidableEq

/-- A packet of the log was mixed for a receiver in a tick. -/
structure Played where
  receiver : ParticipantId
  sender : ParticipantId
  packet : Nat
  tick : Nat
  deriving DecidableEq

/-- A room with the log of its audio: the packets, the one that the frame of each participant is
of, those that the present tick took, and those that were sent. -/
structure Playout where
  room : MixedRoom
  ticks : Nat
  packets : List AudioPacket
  latest : ParticipantId → Option Nat
  mixed : List (ParticipantId × Nat)
  played : List Played

/-- A step of the room, and what it adds to the log. -/
def Playout.step (playout : Playout) (event : Event) : Option Playout := do
  let room ← playout.room.step event
  match event with
  | .datagram id _ bytes _ =>
    match (playout.room.participants.lookup id).bind (audioFrame · bytes) with
    | some frame => return { playout with
        room := room
        packets := playout.packets ++ [⟨id, frame, playout.ticks⟩]
        latest := Function.update playout.latest id (some playout.packets.length) }
    | none => return { playout with room := room }
  | .tick members locked => return { playout with
      room := room
      ticks := playout.ticks + 1
      mixed := members.filterMap fun id =>
        (voice playout.room.participants locked id).bind fun _ => (playout.latest id).map (id, ·) }
  | .send => return { playout with
      room := room
      played := playout.played ++ match playout.room.receivers with
        | receiver :: _ =>
          if (playout.room.peer receiver).isSome then
            (playout.mixed.filter (·.1 ≠ receiver)).map fun entry =>
              ⟨receiver, entry.1, entry.2, playout.ticks⟩
          else []
        | [] => [] }

/-- A room before its first audio packet. -/
def Playout.initial (room : MixedRoom) : Playout := ⟨room, 0, [], fun _ => none, [], []⟩

/-- A packet is the last one of its sender before a tick. -/
def LastBefore (packets : List AudioPacket) (sender : ParticipantId) (packet tick : Nat) : Prop :=
  (∃ found, packets[packet]? = some found ∧ found.sender = sender ∧ found.ticks < tick) ∧
    ∀ index other, packets[index]? = some other → other.sender = sender → other.ticks < tick →
      index ≤ packet

/-- The log is in order. -/
structure Playout.Consistent (playout : Playout) : Prop where
  bounded : ∀ packet ∈ playout.packets, packet.ticks ≤ playout.ticks
  ordered : playout.packets.Pairwise fun first second => first.ticks ≤ second.ticks
  latest : ∀ sender packet, playout.latest sender = some packet →
    LastBefore playout.packets sender packet (playout.ticks + 1)
  mixed : ∀ entry ∈ playout.mixed, LastBefore playout.packets entry.1 entry.2 playout.ticks
  played : ∀ entry ∈ playout.played, entry.tick ≤ playout.ticks ∧
    LastBefore playout.packets entry.sender entry.packet entry.tick

variable {packets : List AudioPacket} {sender : ParticipantId} {packet tick : Nat}
  {before after : Playout} {event : Event} {playout : Playout}

/-- A packet that comes later, or from somebody else, does not change which one was the last. -/
theorem LastBefore.append (last : LastBefore packets sender packet tick) {added : AudioPacket}
    (later : tick ≤ added.ticks ∨ added.sender ≠ sender) :
    LastBefore (packets ++ [added]) sender packet tick := by
  obtain ⟨⟨found, here, same, before⟩, latest⟩ := last
  refine ⟨⟨found, ?_, same, before⟩, fun index other member own early => ?_⟩
  · rw [List.getElem?_append_left (List.getElem?_eq_some_iff.mp here).1, here]
  · rcases Nat.lt_trichotomy index packets.length with old | new | outside
    · rw [List.getElem?_append_left old] at member
      exact latest index other member own early
    · rw [new, List.getElem?_concat_length] at member
      cases member
      exact absurd own (later.resolve_left (Nat.not_le.mpr early))
    · have inside := (List.getElem?_eq_some_iff.mp member).1
      rw [List.length_append, List.length_singleton] at inside
      omega

theorem LastBefore.mono (last : LastBefore packets sender packet tick)
    (all : ∀ packet ∈ packets, packet.ticks < tick) :
    LastBefore packets sender packet (tick + 1) := by
  obtain ⟨⟨found, here, same, before⟩, latest⟩ := last
  exact ⟨⟨found, here, same, Nat.lt_succ_of_lt before⟩, fun index other member own _ =>
    latest index other member own (all other (mem_of_getElem? member))⟩

/-- A packet that has just been added is the last one of its sender. -/
theorem lastBefore_added (packets : List AudioPacket) (added : AudioPacket) {tick : Nat}
    (early : added.ticks < tick) :
    LastBefore (packets ++ [added]) added.sender packets.length tick := by
  refine ⟨⟨added, List.getElem?_concat_length, rfl, early⟩, fun index other member _ _ => ?_⟩
  have inside := (List.getElem?_eq_some_iff.mp member).1
  rw [List.length_append, List.length_singleton] at inside
  omega

theorem Playout.Consistent.step (taken : before.step event = some after)
    (consistent : before.Consistent) : after.Consistent := by
  obtain ⟨bounded, ordered, latest, mixed, played⟩ := consistent
  obtain ⟨room, -, taken⟩ := bind_eq_some_iff.mp taken
  cases event with
  | datagram id src bytes now =>
    dsimp only at taken
    split at taken
    · next frame _ =>
      cases taken
      refine ⟨?_, ?_, ?_, ?_, ?_⟩
      · intro packet member
        rcases mem_append.mp member with old | new
        · exact bounded packet old
        · rw [mem_singleton.mp new]
      · refine pairwise_append.mpr ⟨ordered, pairwise_singleton _ _, ?_⟩
        intro first old second new
        rw [mem_singleton.mp new]
        exact bounded first old
      · intro sender packet found
        dsimp only at found
        by_cases own : sender = id
        · subst own
          rw [Function.update_self] at found
          cases found
          exact lastBefore_added before.packets ⟨sender, frame, before.ticks⟩ (Nat.lt_succ_self _)
        · rw [Function.update_of_ne own] at found
          exact (latest sender packet found).append (.inr (Ne.symm own))
      · exact fun entry member => (mixed entry member).append (.inl le_rfl)
      · intro entry member
        obtain ⟨early, last⟩ := played entry member
        exact ⟨early, last.append (.inl early)⟩
    · cases taken
      exact ⟨bounded, ordered, latest, mixed, played⟩
  | tick members locked =>
    cases taken
    have all : ∀ packet ∈ before.packets, packet.ticks < before.ticks + 1 := fun packet member =>
      Nat.lt_succ_of_le (bounded packet member)
    refine ⟨fun packet member => (all packet member).le, ordered, fun sender packet found =>
      (latest sender packet found).mono all, ?_, fun entry member => ?_⟩
    · intro entry member
      obtain ⟨id, -, taken⟩ := mem_filterMap.mp member
      obtain ⟨frame, -, taken⟩ := bind_eq_some_iff.mp taken
      obtain ⟨packet, found, rfl⟩ := map_eq_some_iff.mp taken
      exact latest id packet found
    · exact ⟨(played entry member).1.trans (Nat.le_succ _), (played entry member).2⟩
  | send =>
    cases taken
    refine ⟨bounded, ordered, latest, mixed, fun entry member => ?_⟩
    rcases mem_append.mp member with old | new
    · exact played entry old
    · split at new
      · split at new
        · obtain ⟨source, kept, rfl⟩ := mem_map.mp new
          exact ⟨le_rfl, mixed source (mem_filter.mp kept).1⟩
        · cases new
      · cases new

/-- Each packet is heard by a receiver in one tick at most. -/
def Playout.PlaysOnce (playout : Playout) : Prop :=
  ∀ first ∈ playout.played, ∀ second ∈ playout.played, first.receiver = second.receiver →
    first.packet = second.packet → first.tick = second.tick

/-- Between two ticks in which a receiver hears a participant, a packet of it arrived. -/
def Playout.Supplied (playout : Playout) : Prop :=
  ∀ first ∈ playout.played, ∀ second ∈ playout.played, first.receiver = second.receiver →
    first.sender = second.sender → first.tick < second.tick →
    ∃ packet ∈ playout.packets, packet.sender = first.sender ∧ first.tick ≤ packet.ticks ∧
      packet.ticks < second.tick

theorem Playout.Consistent.playsOnce_iff (consistent : playout.Consistent) :
    playout.PlaysOnce ↔ playout.Supplied := by
  constructor
  · intro once first firstPlayed second secondPlayed receiver sender earlier
    obtain ⟨-, ⟨old, oldHere, oldSender, oldTick⟩, oldLast⟩ := consistent.played first firstPlayed
    obtain ⟨-, ⟨new, newHere, newSender, newTick⟩, newLast⟩ := consistent.played second secondPlayed
    refine ⟨new, mem_of_getElem? newHere, newSender.trans sender.symm, ?_, newTick⟩
    by_contra early
    have below := oldLast _ new newHere (newSender.trans sender.symm) (Nat.not_le.mp early)
    have above := newLast _ old oldHere (oldSender.trans sender) (oldTick.trans earlier)
    have same := once first firstPlayed second secondPlayed receiver (Nat.le_antisymm above below)
    omega
  · intro supplied
    -- A packet that arrived in between comes after the first one and not after the second.
    have never : ∀ first ∈ playout.played, ∀ second ∈ playout.played,
        first.receiver = second.receiver → first.packet = second.packet →
        ¬ first.tick < second.tick := by
      intro first firstPlayed second secondPlayed receiver same earlier
      obtain ⟨-, ⟨old, oldHere, oldSender, oldTick⟩, -⟩ := consistent.played first firstPlayed
      obtain ⟨-, ⟨new, newHere, newSender, -⟩, newLast⟩ := consistent.played second secondPlayed
      rw [same, newHere] at oldHere
      cases oldHere
      obtain ⟨packet, member, sender, late, early⟩ := supplied first firstPlayed second
        secondPlayed receiver (oldSender.symm.trans newSender) earlier
      obtain ⟨index, here⟩ := mem_iff_getElem?.mp member
      have before := newLast index packet here (sender.trans (oldSender.symm.trans newSender)) early
      obtain ⟨inside, rfl⟩ := List.getElem?_eq_some_iff.mp here
      obtain ⟨newInside, rfl⟩ := List.getElem?_eq_some_iff.mp newHere
      rcases before.lt_or_eq with less | equal
      · have := pairwise_iff_getElem.mp consistent.ordered index second.packet inside
          newInside less
        omega
      · subst equal
        omega
    intro first firstPlayed second secondPlayed receiver same
    have notLess := never first firstPlayed second secondPlayed receiver same
    have notGreater := never second secondPlayed first firstPlayed receiver.symm same.symm
    omega

/-- The samples of a packet of the log. -/
def frameOf (packets : List AudioPacket) (packet : Option Nat) : Frame :=
  (packet.bind (packets[·]?)).elim [] AudioPacket.frame

/-- The log is about the samples of the room: the latest frame of a participant is that of its
last packet, and what a receiver hears in the present tick are the frames of the packets that
were taken. -/
structure Playout.Sound (playout : Playout) : Prop where
  latest : ∀ id participant, playout.room.participants.lookup id = some participant →
    participant.latestFrame = frameOf playout.packets (playout.latest id)
  heard : ∀ receiver, heard receiver playout.room.frames =
    (playout.mixed.filter (·.1 ≠ receiver)).map fun entry => frameOf playout.packets (some entry.2)

theorem LastBefore.frameOf_append (last : LastBefore packets sender packet tick)
    (added : AudioPacket) :
    frameOf (packets ++ [added]) (some packet) = frameOf packets (some packet) := by
  obtain ⟨⟨found, here, -⟩, -⟩ := last
  rw [frameOf, frameOf, bind_some, bind_some,
    List.getElem?_append_left (List.getElem?_eq_some_iff.mp here).1]

/-- A frame that is taken is that of the last packet. -/
theorem voice_eq_frameOf (sound : playout.Sound) {locked : ParticipantId → Bool}
    {id : ParticipantId} {frame : Frame}
    (taken : voice playout.room.participants locked id = some frame) :
    ∃ packet, playout.latest id = some packet ∧ frame = frameOf playout.packets (some packet) := by
  obtain ⟨participant, found, snapshot⟩ := bind_eq_some_iff.mp taken
  have same := sound.latest id participant found
  rw [snapshotFrame, ite_none_left_eq_some] at snapshot
  obtain ⟨ready, snapshot⟩ := snapshot
  cases snapshot
  cases last : playout.latest id with
  | none =>
    rw [last] at same
    exact absurd (.inr (.inr same)) ready
  | some packet => exact ⟨packet, rfl, last ▸ same⟩

theorem Playout.Sound.step (taken : before.step event = some after)
    (consistent : before.Consistent) (sound : before.Sound) : after.Sound := by
  obtain ⟨room, roomTaken, taken⟩ := bind_eq_some_iff.mp taken
  cases event with
  | datagram id src bytes now =>
    obtain ⟨participant, found, same⟩ := bind_eq_some_iff.mp roomTaken
    cases same
    have frame := receive_latestFrame participant src bytes now
    dsimp only at taken
    rw [found, bind_some] at taken
    cases audio : audioFrame participant bytes with
    | some samples =>
      rw [audio] at taken frame
      cases taken
      refine ⟨fun target other here => ?_, fun receiver => ?_⟩
      · dsimp only at here ⊢
        by_cases own : target = id
        · subst own
          rw [AList.lookup_insert] at here
          cases here
          rw [frame, Function.update_self, frameOf, bind_some, List.getElem?_concat_length]
          rfl
        · rw [AList.lookup_insert_ne own] at here
          rw [Function.update_of_ne own, sound.latest target other here]
          cases last : before.latest target with
          | none => rfl
          | some packet => exact ((consistent.latest target packet last).frameOf_append _).symm
      · rw [sound.heard receiver]
        exact map_congr_left fun entry member =>
          ((consistent.mixed entry (mem_filter.mp member).1).frameOf_append _).symm
    | none =>
      rw [audio] at taken frame
      cases taken
      refine ⟨fun target other here => ?_, sound.heard⟩
      dsimp only at here ⊢
      by_cases own : target = id
      · subst own
        rw [AList.lookup_insert] at here
        cases here
        exact frame.trans (sound.latest target participant found)
      · rw [AList.lookup_insert_ne own] at here
        exact sound.latest target other here
  | tick members locked =>
    cases taken
    have frames := frames_tick roomTaken
    have kept : room.participants = before.room.participants := by
      simp only [MixedRoom.step] at roomTaken
      split at roomTaken
      · cases roomTaken
        rfl
      · cases roomTaken
    refine ⟨fun id participant here => sound.latest id participant (kept ▸ here),
      fun receiver => ?_⟩
    dsimp only
    rw [frames, heard_takenFrames, filter_filterMap, map_filterMap]
    refine filterMap_congr fun id _ => ?_
    cases taken : voice before.room.participants locked id with
    | none => split <;> rfl
    | some frame =>
      obtain ⟨packet, last, rfl⟩ := voice_eq_frameOf sound taken
      rw [last]
      by_cases own : id = receiver <;> simp [own]
  | send =>
    cases taken
    simp only [MixedRoom.step] at roomTaken
    split at roomTaken
    · cases roomTaken
    · next target rest due =>
      obtain ⟨receiver, found, same⟩ := bind_eq_some_iff.mp roomTaken
      cases same
      refine ⟨fun id participant here => ?_, sound.heard⟩
      dsimp only at here ⊢
      by_cases own : id = target
      · subst own
        rw [AList.lookup_insert] at here
        cases here
        rw [← sound.latest id receiver found, advance]
        split <;> rfl
      · rw [AList.lookup_insert_ne own] at here
        exact sound.latest id participant here

/-- A room in which nobody has sent audio yet. -/
def MixedRoom.Silent (room : MixedRoom) : Prop :=
  (∀ id participant, room.participants.lookup id = some participant →
    participant.latestFrame = []) ∧ room.frames = []

/-- In every run of a room that was silent, what a receiver hears are the frames of the packets
of the log, and no packet is heard twice exactly when each participant that a receiver hears in
two ticks has sent a packet between them. -/
theorem playsOnce_iff_supplied {room : MixedRoom} {events : List Event} {playout : Playout}
    (silent : room.Silent) (run : Trace Playout.step (.initial room) events playout) :
    playout.Sound ∧ (playout.PlaysOnce ↔ playout.Supplied) := by
  have both : playout.Consistent ∧ playout.Sound := by
    induction run with
    | start =>
      refine ⟨⟨nofun, .nil, nofun, nofun, nofun⟩, ⟨silent.1, fun receiver => ?_⟩⟩
      rw [Playout.initial, silent.2]
      rfl
    | step _ taken ih => exact ⟨ih.1.step taken, ih.2.step taken ih.1⟩
  exact ⟨both.2, both.1.playsOnce_iff⟩

/-- Two participants who have joined. -/
def joinedRoom : MixedRoom :=
  ⟨(AList.singleton 0 (.joined ⟨40000, .pcmu, 0, some 101, false, none⟩ 0 0 0)).insert 1
    (.joined ⟨40001, .pcmu, 0, none, false, none⟩ 0 0 0), [], [], []⟩

theorem joinedRoom_silent : joinedRoom.Silent := by
  have all : ∀ entry ∈ joinedRoom.participants.entries, entry.2.latestFrame = [] := by decide
  exact ⟨fun id participant found => all ⟨id, participant⟩ (AList.mem_lookup_iff.mp found), rfl⟩

/-- A header makes the address of the first participant known, and a packet of the other one is
followed by two ticks. -/
def onePacket : List Event :=
  [.datagram 0 ⟨.octets 192 0 2 7, 5000⟩ (0x80 :: List.replicate 11 0) 0,
    .datagram 1 ⟨.octets 192 0 2 8, 5002⟩ (0x80 :: List.replicate 12 0) 0,
    .tick [0, 1] fun _ => false, .send, .send, .tick [0, 1] fun _ => false, .send]

theorem onePacket_played : ∃ playout, Trace Playout.step (.initial joinedRoom) onePacket playout ∧
    playout.played = [⟨0, 1, 0, 1⟩, ⟨0, 1, 0, 2⟩] := by
  obtain ⟨playout, played, same⟩ := map_eq_some_iff.mp
    (by decide +kernel : (playTrace Playout.step (.initial joinedRoom) onePacket).map
      Playout.played = some [⟨0, 1, 0, 1⟩, ⟨0, 1, 0, 2⟩])
  exact ⟨playout, trace_of_playTrace played, same⟩

/-- The run with one packet. -/
theorem playsOnce_iff_supplied_one : ∃ playout,
    Trace Playout.step (.initial joinedRoom) onePacket playout ∧
    (playout.PlaysOnce ↔ playout.Supplied) := by
  obtain ⟨playout, run, -⟩ := onePacket_played
  exact ⟨playout, run, (playsOnce_iff_supplied joinedRoom_silent run).2⟩

/-- The packet is heard in both ticks. -/
theorem packet_played_twice : ∃ playout,
    Trace Playout.step (.initial joinedRoom) onePacket playout ∧ ¬ playout.PlaysOnce := by
  obtain ⟨playout, run, played⟩ := onePacket_played
  refine ⟨playout, run, fun once => ?_⟩
  have same := once ⟨0, 1, 0, 1⟩ (by simp [played]) ⟨0, 1, 0, 2⟩ (by simp [played]) rfl rfl
  exact absurd same (by decide)

end Sip3.Mixer
