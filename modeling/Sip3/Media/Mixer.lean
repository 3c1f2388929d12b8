import Sip3.Media.G711
import Sip3.Semantics.Trace
import Sip3.Server.Section

/-!
# The mixer of a conference room

`conference_media.rs`: every participant has a socket and a task that runs
`run_recv_loop`, which learns the peer of the socket, counts telephone events and keeps the
latest frame. The mixer of the room takes the frames of its participants every 20 ms and
sends to each of them the sum of the others.
-/

namespace Sip3.Mixer

open Semantics

abbrev Packet := List UInt8

/-- The samples of 20 ms. -/
abbrev Frame := List Int16

def samplesPerFrame : Nat := 160

/-- The size of the receive buffer; a longer datagram is cut. -/
def rtpBufSize : Nat := 4096

def rtpHeaderLen : Nat := 12

/-- A participant as the media tasks see it, with what SIP handling uses of it. -/
structure MediaParticipant extends Participant where
  peer : Option SocketAddr
  latestFrame : Frame
  lastEventTs : Option UInt32
  outSeq : UInt16
  outTs : UInt32
  outSsrc : UInt32
  deriving DecidableEq

/-- A participant as `join` enters it, with the random starts of its numbers. -/
def MediaParticipant.joined (participant : Participant) (outSeq : UInt16) (outTs outSsrc : UInt32) :
    MediaParticipant :=
  { participant with
    peer := none, latestFrame := [], lastEventTs := none, outSeq := outSeq, outTs := outTs,
    outSsrc := outSsrc }

/-- A byte of a packet. -/
def byteAt (packet : Packet) (index : Nat) : UInt8 := packet.getD index 0

/-- `rtp_payload_offset`. -/
def rtpPayloadOffset (packet : Packet) : Nat :=
  let offset := rtpHeaderLen + 4 * (byteAt packet 0 &&& 0x0F).toNat
  if byteAt packet 0 &&& 0x10 ≠ 0 ∧ packet.length ≥ offset + 4 then
    offset + 4 + 4 * ((byteAt packet (offset + 2)).toNat * 256 + (byteAt packet (offset + 3)).toNat)
  else offset

/-- `u32::from_be_bytes` of the timestamp in a header. -/
def rtpTimestamp (packet : Packet) : UInt32 :=
  (byteAt packet 4).toUInt32 <<< 24 ||| (byteAt packet 5).toUInt32 <<< 16 |||
    (byteAt packet 6).toUInt32 <<< 8 ||| (byteAt packet 7).toUInt32

/-- `handle_dtmf_packet`: the end of an event counts once for a timestamp. -/
def handleDtmfPacket (participant : MediaParticipant) (packet payload : Packet) (now : Nat) :
    MediaParticipant :=
  let timestamp := rtpTimestamp packet
  if payload.length < 4 then participant
  else if byteAt payload 1 &&& 0x80 = 0 ∨ participant.lastEventTs = some timestamp then participant
  else
    { participant with
      toParticipant := (participant.recordDtmf (byteAt payload 0 &&& 0x0F).toNat now).2
      lastEventTs := some timestamp }

/-- The frame of a packet: its samples, cut or filled up with silence. -/
def fitFrame (pcm : Frame) : Frame :=
  pcm.take samplesPerFrame ++ List.replicate (samplesPerFrame - pcm.length) 0

/-- What `run_recv_loop` does with the payload of a packet. -/
def receivePayload (participant : MediaParticipant) (packet payload : Packet) (now : Nat) :
    MediaParticipant :=
  let pt := (byteAt packet 1 &&& 0x7F).toNat
  if some pt = participant.telephoneEventPt then handleDtmfPacket participant packet payload now
  else if pt ≠ participant.audioPt then participant
  else
    let pcm := G711.decode participant.codec payload
    if pcm = [] then participant else { participant with latestFrame := fitFrame pcm }

/-- One round of `run_recv_loop`. -/
def receive (participant : MediaParticipant) (src : SocketAddr) (datagram : Packet) (now : Nat) :
    MediaParticipant :=
  let packet := datagram.take rtpBufSize
  if packet.length < rtpHeaderLen then participant
  else
    let learned := { participant with peer := some src }
    let offset := rtpPayloadOffset packet
    if offset ≥ packet.length then learned
    else receivePayload learned packet (packet.drop offset) now

theorem receivePayload_peer (participant : MediaParticipant) (packet payload : Packet) (now : Nat) :
    (receivePayload participant packet payload now).peer = participant.peer := by
  unfold receivePayload handleDtmfPacket
  simp only
  split
  · split
    · rfl
    · split <;> rfl
  · split
    · rfl
    · split <;> rfl

/-- A packet with a header makes its source the peer. -/
theorem receive_peer (participant : MediaParticipant) (src : SocketAddr) (datagram : Packet)
    (now : Nat) : (receive participant src datagram now).peer =
      if datagram.length < rtpHeaderLen then participant.peer else some src := by
  have cut : (datagram.take rtpBufSize).length < rtpHeaderLen ↔ datagram.length < rtpHeaderLen := by
    simp only [List.length_take, rtpBufSize, rtpHeaderLen]
    omega
  unfold receive
  simp only [cut]
  split
  · rfl
  · split
    · rfl
    · exact receivePayload_peer _ _ _ _

/-- A receiver's sum of the frames of the others, clamped to sixteen bits: `mix_for_receiver`. -/
def mixForReceiver (receiver : ParticipantId) (frames : List (ParticipantId × Option Frame)) :
    Frame :=
  let add (acc : List Int32) (frame : Frame) : List Int32 :=
    acc.zipWith (fun sum sample => sum + sample.toInt32) frame ++ acc.drop frame.length
  let acc := frames.foldl (fun acc entry =>
    if entry.1 = receiver then acc else entry.2.elim acc (add acc))
      (List.replicate samplesPerFrame 0)
  acc.map fun sum => (max (-32768) (min 32767 sum)).toInt16

/-- Bytes of a number in network order. -/
def toBeBytes (width : Nat) (value : Nat) : Packet :=
  (List.range width).map fun index => UInt8.ofNat (value / 256 ^ (width - 1 - index))

/-- `build_rtp_packet`. -/
def buildRtpPacket (pt : Nat) (seq : UInt16) (ts ssrc : UInt32) (payload : Packet) : Packet :=
  [0x80, UInt8.ofNat pt &&& 0x7F] ++ toBeBytes 2 seq.toNat ++ toBeBytes 4 ts.toNat ++
    toBeBytes 4 ssrc.toNat ++ payload

/-- A packet the mixer sends out of a participant's socket. -/
structure Sending where
  receiver : ParticipantId
  dst : SocketAddr
  packet : Packet

/-- The participants of a room and its mixer: the frames of the tick that is being sent, with
the receivers that are left, and what was sent. -/
structure MixedRoom where
  participants : AList fun _ : ParticipantId => MediaParticipant
  frames : List (ParticipantId × Option Frame)
  receivers : List ParticipantId
  sent : List Sending

/-- The frame the mixer takes of a participant: none of a muted one, none while the frame is
being written, and none before the first one. -/
def snapshotFrame (participant : MediaParticipant) (locked : Bool) : Option Frame :=
  if participant.muted ∨ locked ∨ participant.latestFrame = [] then none
  else some participant.latestFrame

/-- What happens in a room. -/
inductive Event where
  /-- A datagram arrives at the socket of a participant. -/
  | datagram (id : ParticipantId) (src : SocketAddr) (bytes : Packet) (now : Nat)
  /-- A tick takes the frames of the participants that are in the room then. -/
  | tick (members : List ParticipantId) (locked : ParticipantId → Bool)
  /-- The tick goes on to its next receiver. -/
  | send

/-- What the mixer sends to a participant: nothing before its peer is known. -/
def sendTo (frames : List (ParticipantId × Option Frame)) (id : ParticipantId)
    (receiver : MediaParticipant) : Option Sending :=
  receiver.peer.map fun dst => ⟨id, dst, buildRtpPacket receiver.audioPt receiver.outSeq
    receiver.outTs receiver.outSsrc (G711.encode receiver.codec (mixForReceiver id frames))⟩

/-- A receiver after it was sent to. -/
def advance (receiver : MediaParticipant) : MediaParticipant :=
  if receiver.peer.isSome then
    { receiver with
      outSeq := receiver.outSeq + 1, outTs := receiver.outTs + UInt32.ofNat samplesPerFrame }
  else receiver

@[simp] theorem advance_peer (receiver : MediaParticipant) :
    (advance receiver).peer = receiver.peer := by
  unfold advance
  split <;> rfl

/-- One step of a receive loop or of `run_mixer_loop`. -/
def MixedRoom.step (room : MixedRoom) : Event → Option MixedRoom
  | .datagram id src bytes now => do
      let participant ← room.participants.lookup id
      return { room with
        participants := room.participants.insert id (receive participant src bytes now) }
  | .tick members locked =>
    if room.receivers = [] then some { room with
      frames := members.filterMap fun id => (room.participants.lookup id).map fun participant =>
        (id, snapshotFrame participant (locked id))
      receivers := members }
    else none
  | .send =>
    match room.receivers with
    | [] => none
    | id :: rest => do
        let receiver ← room.participants.lookup id
        return { room with
          participants := room.participants.insert id (advance receiver)
          receivers := rest
          sent := room.sent ++ (sendTo room.frames id receiver).toList }

/-- A run of a room from the participants that joined. -/
abbrev MixedRoom.Run (start : MixedRoom) (events : List Event) (room : MixedRoom) : Prop :=
  Trace MixedRoom.step start events room

/-- The source of a datagram with a header at the socket of a participant. -/
def Event.source (id : ParticipantId) : Event → Option SocketAddr
  | .datagram target src bytes _ =>
    if target = id ∧ rtpHeaderLen ≤ bytes.length then some src else none
  | .tick _ _ | .send => none

/-- The sources of the packets that arrived at the socket of a participant, in order. -/
def arrivals (id : ParticipantId) (events : List Event) : List SocketAddr :=
  events.filterMap (Event.source id)

/-- The peer that was learned for a participant. -/
def MixedRoom.peer (room : MixedRoom) (id : ParticipantId) : Option SocketAddr :=
  (room.participants.lookup id).bind MediaParticipant.peer

/-- The peer of a participant after one of the participants was replaced. -/
theorem peer_insert (room : MixedRoom) (target id : ParticipantId) (participant : MediaParticipant) :
    ((room.participants.insert target participant).lookup id).bind MediaParticipant.peer =
      if id = target then participant.peer else room.peer id := by
  split
  · next same => rw [same, AList.lookup_insert, Option.bind_some]
  · next other => rw [AList.lookup_insert_ne other, MixedRoom.peer]

/-- What one step does to the peer of a participant, and to what is sent. -/
theorem MixedRoom.step_cases {before after : MixedRoom} {event : Event}
    (taken : before.step event = some after) (id : ParticipantId) :
    after.peer id = (event.source id).or (before.peer id) ∧
      ∃ sent, after.sent = before.sent ++ sent ∧
        ∀ sending ∈ sent, before.peer sending.receiver = some sending.dst := by
  cases event with
  | datagram target src bytes now =>
    obtain ⟨participant, found, same⟩ := Option.bind_eq_some_iff.mp taken
    cases same
    refine ⟨?_, [], (List.append_nil _).symm, nofun⟩
    rw [MixedRoom.peer, peer_insert, receive_peer]
    have known : before.peer target = participant.peer := by rw [MixedRoom.peer, found]; rfl
    by_cases own : id = target
    · subst own
      by_cases short : bytes.length < rtpHeaderLen
      · simp [Event.source, short, Nat.not_le.mpr short, known]
      · simp [Event.source, short, Nat.not_lt.mp short]
    · simp [Event.source, own, Ne.symm own]
  | tick members locked =>
    simp only [MixedRoom.step] at taken
    split at taken
    · cases taken
      exact ⟨rfl, [], (List.append_nil _).symm, nofun⟩
    · cases taken
  | send =>
    simp only [MixedRoom.step] at taken
    split at taken
    · cases taken
    · next target rest due =>
        obtain ⟨receiver, found, same⟩ := Option.bind_eq_some_iff.mp taken
        cases same
        have known : before.peer target = receiver.peer := by rw [MixedRoom.peer, found]; rfl
        refine ⟨?_, _, rfl, fun sending member => ?_⟩
        · rw [MixedRoom.peer, peer_insert, advance_peer, ← known]
          split
          · next same => rw [same]; rfl
          · rfl
        · obtain ⟨dst, peer, rfl⟩ := Option.map_eq_some_iff.mp (Option.mem_toList.mp member)
          exact known.trans peer

variable {start room : MixedRoom} {events : List Event}

/-- The peer of a participant is the source of the last packet, if there was one. -/
theorem MixedRoom.peer_eq (run : Run start events room) (id : ParticipantId) :
    room.peer id = (arrivals id events).getLast?.or (start.peer id) :=
  run.lastWritten fun taken => (MixedRoom.step_cases taken id).1

/-- What is sent to a participant whose peer was not known at the start goes to the source of a
packet that arrived at its socket. -/
theorem MixedRoom.dst_mem_arrivals (run : Run start events room) (quiet : start.sent = [])
    {sending : Sending} (unknown : start.peer sending.receiver = none)
    (sent : sending ∈ room.sent) : sending.dst ∈ arrivals sending.receiver events := by
  obtain initial | ⟨earlier, before, part, prior, known⟩ :=
    run.putOut (fun taken => (MixedRoom.step_cases taken sending.receiver).2) sent
  · rw [quiet] at initial
    cases initial
  · rw [MixedRoom.peer_eq prior, unknown, Option.or_none] at known
    exact (part.filterMap _).subset (List.mem_of_getLast? known)

end Sip3.Mixer
