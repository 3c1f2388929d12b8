import Sip3.Media.Mixer

/-!
# RTP headers

The headers of version 2, as they are on the wire, and the two readers of the repository. The
voicemail's `rtp_payload_offset` accepts the packets that begin with a complete header and no
others. The conference's reader checks neither the version nor that an announced extension is
there, so it takes packets as media that the voicemail refuses.
-/

namespace Sip3.Rtp

open Mixer List Option Nat

/-- A header extension: its profile, and the words that it counts. -/
structure Extension where
  profile : UInt16
  words : List UInt32
  countable : words.length < 65536

/-- The header of a packet of version 2. The number of contributing sources has four bits. -/
structure Header where
  padding : Bool
  marker : Bool
  payloadType : Fin 128
  sequenceNumber : UInt16
  timestamp : UInt32
  ssrc : UInt32
  csrcs : List UInt32
  extension : Option Extension
  countable : csrcs.length ≤ 15

/-- Words in network order. -/
def wordBytes (words : List UInt32) : Packet :=
  words.flatMap fun word => toBeBytes 4 word.toNat

/-- The first byte of a header: the version, two flags and the number of sources. -/
def flagByte (padding extended : Bool) (sources : Nat) : UInt8 :=
  UInt8.ofNat (2 * 64 + padding.toNat * 32 + extended.toNat * 16 + sources)

/-- The bytes of an extension. -/
def Extension.encode (extension : Extension) : Packet :=
  toBeBytes 2 extension.profile.toNat ++ toBeBytes 2 extension.words.length ++
    wordBytes extension.words

/-- The header without its extension. -/
def Header.fixed (header : Header) : Packet :=
  [flagByte header.padding header.extension.isSome header.csrcs.length,
      UInt8.ofNat (header.marker.toNat * 128 + header.payloadType)] ++
    toBeBytes 2 header.sequenceNumber.toNat ++ toBeBytes 4 header.timestamp.toNat ++
    toBeBytes 4 header.ssrc.toNat ++ wordBytes header.csrcs

/-- The bytes of a header. -/
def Header.encode (header : Header) : Packet :=
  header.fixed ++ header.extension.elim [] Extension.encode

section Words

theorem toBeBytes_two (value : Nat) :
    toBeBytes 2 value = [UInt8.ofNat (value / 256), UInt8.ofNat value] := by
  simp [toBeBytes, range_succ]

theorem toBeBytes_four (value : Nat) :
    toBeBytes 4 value = [UInt8.ofNat (value / 16777216), UInt8.ofNat (value / 65536),
      UInt8.ofNat (value / 256), UInt8.ofNat value] := by
  simp [toBeBytes, range_succ]

@[simp] theorem length_toBeBytes (width value : Nat) : (toBeBytes width value).length = width := by
  simp [toBeBytes]

@[simp] theorem length_wordBytes (words : List UInt32) :
    (wordBytes words).length = 4 * words.length := by
  induction words with
  | nil => rfl
  | cons word rest ih =>
    rw [wordBytes, flatMap_cons, length_append, length_toBeBytes, ← wordBytes, ih,
      length_cons]
    omega

/-- Every two bytes are a number in network order. -/
theorem exists_toBeBytes_two (high low : UInt8) :
    ∃ value : UInt16, toBeBytes 2 value.toNat = [high, low] := by
  have highBelow := high.toNat_lt
  have lowBelow := low.toNat_lt
  refine ⟨.ofNat (high.toNat * 256 + low.toNat), ?_⟩
  rw [UInt16.toNat_ofNat_of_lt' (by simp only [UInt16.size]; omega), toBeBytes_two]
  simp only [cons.injEq, and_true, ← UInt8.toNat_inj, UInt8.toNat_ofNat']
  omega

/-- Every four bytes are a number in network order. -/
theorem exists_toBeBytes_four (first second third fourth : UInt8) :
    ∃ value : UInt32, toBeBytes 4 value.toNat = [first, second, third, fourth] := by
  have := first.toNat_lt
  have := second.toNat_lt
  have := third.toNat_lt
  have := fourth.toNat_lt
  refine ⟨.ofNat (first.toNat * 16777216 + second.toNat * 65536 + third.toNat * 256 +
    fourth.toNat), ?_⟩
  rw [UInt32.toNat_ofNat_of_lt' (by simp only [UInt32.size]; omega), toBeBytes_four]
  simp only [cons.injEq, and_true, ← UInt8.toNat_inj, UInt8.toNat_ofNat']
  omega

/-- A multiple of four bytes is a list of words. -/
theorem exists_wordBytes {count : Nat} {bytes : Packet} (length : bytes.length = 4 * count) :
    ∃ words, words.length = count ∧ wordBytes words = bytes := by
  induction count generalizing bytes with
  | zero => exact ⟨[], rfl, (length_eq_zero_iff.mp length).symm⟩
  | succ count ih =>
    match bytes, length with
    | first :: second :: third :: fourth :: rest, length =>
      obtain ⟨word, same⟩ := exists_toBeBytes_four first second third fourth
      simp only [length_cons] at length
      obtain ⟨words, counted, restSame⟩ := @ih rest (by omega)
      refine ⟨word :: words, by rw [length_cons, counted], ?_⟩
      rw [wordBytes, flatMap_cons, ← wordBytes, restSame, same]
      rfl

end Words

/-- The number of contributing sources that a first byte announces. -/
def sourceCount (packet : Packet) : Nat := (byteAt packet 0 &&& 0x0F).toNat

/-- A packet announces an extension. -/
def Extended (packet : Packet) : Prop := byteAt packet 0 &&& 0x10 ≠ 0

instance (packet : Packet) : Decidable (Extended packet) := inferInstanceAs (Decidable (_ ≠ _))

/-- The number of words of an extension at an offset. -/
def extensionWords (packet : Packet) (offset : Nat) : Nat :=
  (byteAt packet (offset + 2)).toNat * 256 + (byteAt packet (offset + 3)).toNat

/-- Where the header that a packet announces ends. -/
def headerEnd (packet : Packet) : Nat :=
  let offset := rtpHeaderLen + 4 * sourceCount packet
  if Extended packet then offset + 4 + 4 * extensionWords packet offset else offset

/-- `rtp_payload_offset` of `voicemail_media.rs`. -/
def Voicemail.rtpPayloadOffset (packet : Packet) : Option Nat :=
  if packet.length < rtpHeaderLen ∨ byteAt packet 0 >>> 6 ≠ 2 then none
  else
    let offset := rtpHeaderLen + 4 * sourceCount packet
    if packet.length < offset then none
    else if Extended packet then
      let headerEnd := offset + 4
      if packet.length < headerEnd then none
      else
        let offset := headerEnd + 4 * extensionWords packet offset
        if packet.length < offset then none else some offset
    else some offset

/-- The voicemail accepts the packets of version 2 that have the header they announce. -/
theorem Voicemail.rtpPayloadOffset_eq_some_iff {packet : Packet} {offset : Nat} :
    Voicemail.rtpPayloadOffset packet = some offset ↔
      rtpHeaderLen ≤ packet.length ∧ byteAt packet 0 >>> 6 = 2 ∧ headerEnd packet = offset ∧
        offset ≤ packet.length := by
  have short : packet.length < rtpHeaderLen ∨ byteAt packet 0 >>> 6 ≠ 2 ↔
      ¬ (rtpHeaderLen ≤ packet.length ∧ byteAt packet 0 >>> 6 = 2) := by
    rw [not_and_or, not_le]
  unfold Voicemail.rtpPayloadOffset headerEnd
  simp only [short]
  by_cases valid : rtpHeaderLen ≤ packet.length ∧ byteAt packet 0 >>> 6 = 2
  · rw [if_neg (not_not.mpr valid), ← and_assoc, and_iff_right valid]
    by_cases extended : Extended packet
    · simp only [if_pos extended]
      split
      · simp only [reduceCtorEq, false_iff]
        omega
      · split
        · simp only [reduceCtorEq, false_iff]
          omega
        · split
          · simp only [reduceCtorEq, false_iff]
            omega
          · simp only [some.injEq]
            omega
    · simp only [if_neg extended]
      split
      · simp only [reduceCtorEq, false_iff]
        omega
      · simp only [some.injEq]
        omega
  · rw [if_pos valid]
    exact iff_of_false nofun fun all => valid ⟨all.1, all.2.1⟩

theorem flagByte_version (padding extended : Bool) (sources : Fin 16) :
    flagByte padding extended sources >>> 6 = 2 ∧
      (flagByte padding extended sources &&& 0x10 ≠ 0 ↔ extended = true) ∧
      (flagByte padding extended sources &&& 0x0F).toNat = sources := by
  revert padding extended sources
  decide

/-- A first byte of version 2 is made of its parts. -/
theorem eq_flagByte {byte : UInt8} (version : byte >>> 6 = 2) :
    byte = flagByte (byte &&& 0x20 != 0) (byte &&& 0x10 != 0) (byte &&& 0x0F).toNat ∧
      (byte &&& 0x0F).toNat ≤ 15 := by
  have all : ∀ value : Fin 256, UInt8.ofNat value >>> 6 = 2 → UInt8.ofNat value =
      flagByte (UInt8.ofNat value &&& 0x20 != 0) (UInt8.ofNat value &&& 0x10 != 0)
        (UInt8.ofNat value &&& 0x0F).toNat ∧ (UInt8.ofNat value &&& 0x0F).toNat ≤ 15 := by
    decide +kernel
  have here := all ⟨byte.toNat, byte.toNat_lt⟩
  rw [UInt8.ofNat_toNat] at here
  exact here version

/-- A second byte is made of its parts. -/
theorem eq_markerByte (byte : UInt8) : ∃ (marker : Bool) (payloadType : Fin 128),
    byte = UInt8.ofNat (marker.toNat * 128 + payloadType) := by
  have small := byte.toNat_lt
  refine ⟨decide (128 ≤ byte.toNat), ⟨byte.toNat % 128, mod_lt _ (by decide)⟩, ?_⟩
  by_cases high : 128 ≤ byte.toNat
  · rw [decide_eq_true high, ← UInt8.toNat_inj, UInt8.toNat_ofNat']
    simp only [Bool.toNat_true]
    omega
  · rw [decide_eq_false high, ← UInt8.toNat_inj, UInt8.toNat_ofNat']
    simp only [Bool.toNat_false]
    omega

theorem byteAt_append (front rest : Packet) (index : Nat) :
    byteAt (front ++ rest) (front.length + index) = byteAt rest index := by
  rw [byteAt, getD_eq_getElem?_getD, getElem?_append_right (le_add_right _ _),
    Nat.add_sub_cancel_left, byteAt, getD_eq_getElem?_getD]

theorem length_fixed (header : Header) :
    header.fixed.length = rtpHeaderLen + 4 * header.csrcs.length := by
  simp [Header.fixed, rtpHeaderLen]
  omega

theorem length_encode_extension (extension : Extension) :
    extension.encode.length = 4 + 4 * extension.words.length := by
  simp [Extension.encode]
  omega

theorem extensionWords_append (front rest : Packet) :
    extensionWords (front ++ rest) front.length = extensionWords rest 0 := by
  rw [extensionWords, byteAt_append, byteAt_append, extensionWords]

/-- The count of an extension is read back. -/
theorem extensionWords_encode (extension : Extension) (rest : Packet) :
    extensionWords (extension.encode ++ rest) 0 = extension.words.length := by
  have few := extension.countable
  rw [extensionWords, Extension.encode, toBeBytes_two, toBeBytes_two]
  change (UInt8.ofNat (extension.words.length / 256)).toNat * 256 +
    (UInt8.ofNat extension.words.length).toNat = _
  rw [UInt8.toNat_ofNat', UInt8.toNat_ofNat']
  omega

/-- The header of an encoded packet ends where its payload begins. -/
theorem headerEnd_encode (header : Header) (payload : Packet) :
    headerEnd (header.encode ++ payload) = header.encode.length := by
  obtain ⟨-, flag, count⟩ := flagByte_version header.padding header.extension.isSome
    ⟨header.csrcs.length, lt_succ_of_le header.countable⟩
  have sources : sourceCount (header.encode ++ payload) = header.csrcs.length := count
  have extended : Extended (header.encode ++ payload) ↔ header.extension.isSome = true := flag
  rw [headerEnd, sources, Header.encode, length_append, length_fixed]
  rw [Header.encode] at extended
  cases found : header.extension with
  | none =>
    rw [found] at extended
    rw [if_neg (mt extended.mp nofun)]
    rfl
  | some extension =>
    rw [found] at extended
    rw [if_pos (extended.mpr rfl), elim_some, append_assoc, ← length_fixed,
      extensionWords_append, extensionWords_encode, length_encode_extension]
    omega

/-- Twelve bytes of version 2, sources and an extension as the first byte announces them are a
header. -/
theorem exists_encode_eq {b0 b1 b2 b3 b4 b5 b6 b7 b8 b9 b10 b11 : UInt8} {csrcs : List UInt32}
    {extension : Option Extension} (version : b0 >>> 6 = 2)
    (counted : csrcs.length = (b0 &&& 0x0F).toNat)
    (announced : (b0 &&& 0x10 != 0) = extension.isSome) :
    ∃ header : Header, header.encode =
      b0 :: b1 :: b2 :: b3 :: b4 :: b5 :: b6 :: b7 :: b8 :: b9 :: b10 :: b11 ::
        (wordBytes csrcs ++ extension.elim [] Extension.encode) := by
  obtain ⟨flags, few⟩ := eq_flagByte version
  obtain ⟨marker, payloadType, second⟩ := eq_markerByte b1
  obtain ⟨sequenceNumber, sequence⟩ := exists_toBeBytes_two b2 b3
  obtain ⟨timestamp, time⟩ := exists_toBeBytes_four b4 b5 b6 b7
  obtain ⟨ssrc, source⟩ := exists_toBeBytes_four b8 b9 b10 b11
  refine ⟨⟨b0 &&& 0x20 != 0, marker, payloadType, sequenceNumber, timestamp, ssrc, csrcs,
    extension, counted ▸ few⟩, ?_⟩
  rw [announced, ← counted] at flags
  simp only [Header.encode, Header.fixed, sequence, time, source, ← second, ← flags,
    cons_append, nil_append]

/-- An extension that is there as a whole. -/
theorem exists_extension {rest : Packet} (complete : 4 + 4 * extensionWords rest 0 ≤ rest.length) :
    ∃ extension : Extension, extension.encode = rest.take (4 + 4 * extensionWords rest 0) := by
  obtain ⟨p0, p1, c0, c1, more, rfl⟩ : ∃ p0 p1 c0 c1 more, rest = p0 :: p1 :: c0 :: c1 :: more := by
    have long : 4 ≤ rest.length := (le_add_right _ _).trans complete
    clear complete
    match rest, long with
    | p0 :: p1 :: c0 :: c1 :: more, _ => exact ⟨p0, p1, c0, c1, more, rfl⟩
  have count : extensionWords (p0 :: p1 :: c0 :: c1 :: more) 0 = c0.toNat * 256 + c1.toNat := rfl
  have highBelow := c0.toNat_lt
  have lowBelow := c1.toNat_lt
  rw [count] at complete ⊢
  simp only [length_cons] at complete
  obtain ⟨profile, same⟩ := exists_toBeBytes_two p0 p1
  obtain ⟨words, counted, content⟩ := @exists_wordBytes (c0.toNat * 256 + c1.toNat)
    (more.take (4 * (c0.toNat * 256 + c1.toNat))) (by rw [length_take]; omega)
  have bytes : toBeBytes 2 words.length = [c0, c1] := by
    rw [toBeBytes_two, counted]
    simp only [cons.injEq, and_true, ← UInt8.toNat_inj, UInt8.toNat_ofNat']
    omega
  refine ⟨⟨profile, words, by omega⟩, ?_⟩
  rw [Extension.encode, same, bytes, content, add_comm 4]
  rfl

/-- What an accepted packet begins with. -/
theorem exists_header {packet : Packet} (long : rtpHeaderLen ≤ packet.length)
    (version : byteAt packet 0 >>> 6 = 2) (complete : headerEnd packet ≤ packet.length) :
    ∃ header : Header, header.encode = packet.take (headerEnd packet) := by
  match packet, long with
  | b0 :: b1 :: b2 :: b3 :: b4 :: b5 :: b6 :: b7 :: b8 :: b9 :: b10 :: b11 :: rest, _ =>
    obtain ⟨sources, count⟩ : ∃ sources, sources = (b0 &&& 0x0F).toNat := ⟨_, rfl⟩
    let fixed := [b0, b1, b2, b3, b4, b5, b6, b7, b8, b9, b10, b11]
    have cut (size : Nat) : (fixed ++ rest).take (rtpHeaderLen + size) =
        fixed ++ rest.take size := by
      rw [rtpHeaderLen, add_comm]
      rfl
    change headerEnd (fixed ++ rest) ≤ (fixed ++ rest).length at complete
    change ∃ header : Header, header.encode = (fixed ++ rest).take (headerEnd (fixed ++ rest))
    have ends : headerEnd (fixed ++ rest) = if b0 &&& 0x10 ≠ 0 then
        rtpHeaderLen + 4 * sources + 4 +
          4 * extensionWords (fixed ++ rest) (rtpHeaderLen + 4 * sources)
        else rtpHeaderLen + 4 * sources := by
      rw [count]
      rfl
    have size : (fixed ++ rest).length = rtpHeaderLen + rest.length := length_append
    have enough : 4 * sources ≤ rest.length := by
      rw [ends, size] at complete
      split at complete <;> omega
    obtain ⟨csrcs, counted, content⟩ := @exists_wordBytes sources (rest.take (4 * sources))
      (by rw [length_take]; omega)
    by_cases extended : b0 &&& 0x10 ≠ 0
    · have front : (fixed ++ rest.take (4 * sources)).length = rtpHeaderLen + 4 * sources := by
        rw [length_append, length_take, min_eq_left enough]
        rfl
      have words : extensionWords (fixed ++ rest) (rtpHeaderLen + 4 * sources) =
          extensionWords (rest.drop (4 * sources)) 0 := by
        rw [← extensionWords_append (fixed ++ rest.take (4 * sources)), append_assoc,
          take_append_drop, front]
      rw [if_pos extended, words] at ends
      obtain ⟨extension, same⟩ := @exists_extension (rest.drop (4 * sources))
        (by rw [length_drop]; omega)
      obtain ⟨header, encoded⟩ := @exists_encode_eq b0 b1 b2 b3 b4 b5 b6 b7 b8 b9 b10 b11 csrcs
        (some extension) version (counted.trans count) (bne_iff_ne.mpr extended)
      refine ⟨header, encoded.trans ?_⟩
      rw [ends, add_assoc, add_assoc, cut, take_add, content, elim_some, same]
      rfl
    · rw [if_neg extended] at ends
      obtain ⟨header, encoded⟩ := @exists_encode_eq b0 b1 b2 b3 b4 b5 b6 b7 b8 b9 b10 b11 csrcs
        none version (counted.trans count) (by simpa using extended)
      refine ⟨header, encoded.trans ?_⟩
      rw [ends, cut, content, elim_none, append_nil]
      rfl

/-- The voicemail finds the payload of every packet of version 2, and what it accepts begins with
a header of version 2 that is there as a whole. -/
theorem Voicemail.rtpPayloadOffset_exact :
    (∀ (header : Header) (payload : Packet),
      Voicemail.rtpPayloadOffset (header.encode ++ payload) = some header.encode.length ∧
        (header.encode ++ payload).drop header.encode.length = payload) ∧
    ∀ (packet : Packet) (offset : Nat), Voicemail.rtpPayloadOffset packet = some offset →
      offset ≤ packet.length ∧ ∃ header : Header, header.encode = packet.take offset := by
  constructor
  · intro header payload
    refine ⟨Voicemail.rtpPayloadOffset_eq_some_iff.mpr ⟨?long, ?version, ?ends, ?complete⟩,
      List.drop_left⟩
    case long =>
      rw [Header.encode, List.length_append, List.length_append, length_fixed]
      omega
    case version =>
      exact (flagByte_version header.padding header.extension.isSome
        ⟨header.csrcs.length, Nat.lt_succ_of_le header.countable⟩).1
    case ends => exact headerEnd_encode header payload
    case complete =>
      rw [List.length_append]
      exact Nat.le_add_right _ _
  · intro packet offset found
    obtain ⟨long, version, rfl, complete⟩ := Voicemail.rtpPayloadOffset_eq_some_iff.mp found
    exact ⟨complete, exists_header long version complete⟩

/-- A packet with two sources, an extension of one word and two bytes of payload. -/
theorem Voicemail.rtpPayloadOffset_exact_sources :
    Voicemail.rtpPayloadOffset ([0x92, 0, 0, 1, 0, 0, 0, 2, 0, 0, 0, 3, 0, 0, 0, 4, 0, 0, 0, 5,
      0xBE, 0xDE, 0, 1, 1, 2, 3, 4] ++ [0xAA, 0xBB]) = some 28 ∧
    ∃ header : Header, header.encode = [0x92, 0, 0, 1, 0, 0, 0, 2, 0, 0, 0, 3, 0, 0, 0, 4,
      0, 0, 0, 5, 0xBE, 0xDE, 0, 1, 1, 2, 3, 4] := by
  have found : Voicemail.rtpPayloadOffset ([0x92, 0, 0, 1, 0, 0, 0, 2, 0, 0, 0, 3, 0, 0, 0, 4,
      0, 0, 0, 5, 0xBE, 0xDE, 0, 1, 1, 2, 3, 4] ++ [0xAA, 0xBB]) = some 28 := by decide
  exact ⟨found, (Voicemail.rtpPayloadOffset_exact.2 _ _ found).2⟩

/-- `validated_rtp_packet`: the payload type and where the payload begins. -/
def Voicemail.validatedRtpPacket (audioPt : Nat) (telephoneEventPt : Option Nat)
    (packet : Packet) : Option (Nat × Nat) := do
  let payloadOffset ← Voicemail.rtpPayloadOffset packet
  if payloadOffset ≥ packet.length then none
  else
    let pt := (byteAt packet 1 &&& 0x7F).toNat
    if pt ≠ audioPt ∧ some pt ≠ telephoneEventPt then none else some (pt, payloadOffset)

/-- The payload type and the payload of a packet that `run_recv_loop` of the conference takes as
audio or as a telephone event. -/
def Conference.mediaPayload (audioPt : Nat) (telephoneEventPt : Option Nat) (packet : Packet) :
    Option (Nat × Packet) :=
  if packet.length < rtpHeaderLen then none
  else
    let offset := Mixer.rtpPayloadOffset packet
    if offset ≥ packet.length then none
    else
      let pt := (byteAt packet 1 &&& 0x7F).toNat
      if pt ≠ audioPt ∧ some pt ≠ telephoneEventPt then none else some (pt, packet.drop offset)

/-- A round of `run_recv_loop` learns the peer, and uses a packet by this payload only. -/
theorem receive_eq_mediaPayload (participant : MediaParticipant) (src : SocketAddr)
    (datagram : Packet) (now : Nat) :
    receive participant src datagram now =
      let packet := datagram.take rtpBufSize
      let learned := if packet.length < rtpHeaderLen then participant
        else { participant with peer := some src }
      match Conference.mediaPayload participant.audioPt participant.telephoneEventPt packet with
      | some (_, payload) => receivePayload learned packet payload now
      | none => learned := by
  unfold receive Conference.mediaPayload
  simp only
  split
  · rfl
  · split
    · rfl
    · by_cases other : (byteAt (datagram.take rtpBufSize) 1 &&& 0x7F).toNat ≠ participant.audioPt ∧
          some (byteAt (datagram.take rtpBufSize) 1 &&& 0x7F).toNat ≠ participant.telephoneEventPt
      · rw [if_pos other, receivePayload, if_neg other.2, if_pos other.1]
      · rw [if_neg other]

/-- The conference's reader finds the end of the header, except where an extension is cut off. -/
theorem rtpPayloadOffset_eq_headerEnd {packet : Packet} (whole : ¬ Extended packet ∨
    rtpHeaderLen + 4 * sourceCount packet + 4 ≤ packet.length) :
    Mixer.rtpPayloadOffset packet = headerEnd packet := by
  unfold Mixer.rtpPayloadOffset headerEnd
  rcases whole with plain | enough
  · rw [if_neg fun both => plain both.1, if_neg plain]
    rfl
  · by_cases extended : Extended packet
    · rw [if_pos ⟨extended, enough⟩, if_pos extended]
      rfl
    · rw [if_neg fun both => extended both.1, if_neg extended]
      rfl

theorem whole_of_headerEnd_le {packet : Packet} (complete : headerEnd packet ≤ packet.length) :
    ¬ Extended packet ∨ rtpHeaderLen + 4 * sourceCount packet + 4 ≤ packet.length := by
  by_cases extended : Extended packet
  · rw [headerEnd, if_pos extended] at complete
    exact .inr (by omega)
  · exact .inl extended

section Receivers

variable (audioPt : Nat) (telephoneEventPt : Option Nat) (packet : Packet)

/-- The payload type of a packet was negotiated. -/
def Negotiated : Prop :=
  ¬ ((byteAt packet 1 &&& 0x7F).toNat ≠ audioPt ∧
    some (byteAt packet 1 &&& 0x7F).toNat ≠ telephoneEventPt)

instance : Decidable (Negotiated audioPt telephoneEventPt packet) :=
  inferInstanceAs (Decidable (¬ _))

/-- What the voicemail uses of a packet. -/
def Voicemail.mediaPayload : Option (Nat × Packet) :=
  (Voicemail.validatedRtpPacket audioPt telephoneEventPt packet).map fun found =>
    (found.1, packet.drop found.2)

variable {audioPt telephoneEventPt packet}

theorem Conference.mediaPayload_eq_some_iff {found : Nat × Packet} :
    Conference.mediaPayload audioPt telephoneEventPt packet = some found ↔
      rtpHeaderLen ≤ packet.length ∧ Mixer.rtpPayloadOffset packet < packet.length ∧
        Negotiated audioPt telephoneEventPt packet ∧
        ((byteAt packet 1 &&& 0x7F).toNat,
          packet.drop (Mixer.rtpPayloadOffset packet)) = found := by
  simp only [Conference.mediaPayload, ite_none_left_eq_some, not_lt, not_le,
    ge_iff_le, some.injEq, Negotiated]

/-- The conference ignores a packet that is short, of another type, or without payload. -/
theorem Conference.mediaPayload_eq_none_iff :
    Conference.mediaPayload audioPt telephoneEventPt packet = none ↔
      packet.length < rtpHeaderLen ∨ ¬ Negotiated audioPt telephoneEventPt packet ∨
        packet.length ≤ Mixer.rtpPayloadOffset packet := by
  rw [← not_iff_not, ← ne_eq, ne_none_iff_exists']
  simp only [Conference.mediaPayload_eq_some_iff, exists_and_left, exists_eq', and_true, not_or,
    not_lt, not_le, not_not]
  tauto

theorem Voicemail.validatedRtpPacket_eq_some_iff {found : Nat × Nat} :
    Voicemail.validatedRtpPacket audioPt telephoneEventPt packet = some found ↔
      (rtpHeaderLen ≤ packet.length ∧ byteAt packet 0 >>> 6 = 2) ∧
        headerEnd packet < packet.length ∧ Negotiated audioPt telephoneEventPt packet ∧
        ((byteAt packet 1 &&& 0x7F).toNat, headerEnd packet) = found := by
  simp only [Voicemail.validatedRtpPacket, bind_eq_bind, bind_eq_some_iff,
    Voicemail.rtpPayloadOffset_eq_some_iff, ite_none_left_eq_some, not_le, ge_iff_le,
    some.injEq, ← Negotiated.eq_def]
  constructor
  · rintro ⟨offset, ⟨long, version, rfl, -⟩, inside, negotiated, same⟩
    exact ⟨⟨long, version⟩, inside, negotiated, same⟩
  · rintro ⟨⟨long, version⟩, inside, negotiated, same⟩
    exact ⟨_, ⟨long, version, rfl, inside.le⟩, inside, negotiated, same⟩

theorem Voicemail.mediaPayload_eq_some_iff {found : Nat × Packet} :
    Voicemail.mediaPayload audioPt telephoneEventPt packet = some found ↔
      (rtpHeaderLen ≤ packet.length ∧ byteAt packet 0 >>> 6 = 2) ∧
        headerEnd packet < packet.length ∧ Negotiated audioPt telephoneEventPt packet ∧
        ((byteAt packet 1 &&& 0x7F).toNat, packet.drop (headerEnd packet)) = found := by
  simp only [Voicemail.mediaPayload, map_eq_some_iff,
    Voicemail.validatedRtpPacket_eq_some_iff]
  constructor
  · rintro ⟨_, ⟨valid, inside, negotiated, rfl⟩, same⟩
    exact ⟨valid, inside, negotiated, same⟩
  · rintro ⟨valid, inside, negotiated, same⟩
    exact ⟨_, ⟨valid, inside, negotiated, rfl⟩, same⟩

/-- Where the conference uses a packet, the voicemail does the same exactly for version 2 and a
header extension that is not cut off. -/
theorem mediaPayload_eq_iff : Conference.mediaPayload audioPt telephoneEventPt packet =
      Voicemail.mediaPayload audioPt telephoneEventPt packet ↔
    Conference.mediaPayload audioPt telephoneEventPt packet = none ∨
      byteAt packet 0 >>> 6 = 2 ∧ (¬ Extended packet ∨
        rtpHeaderLen + 4 * sourceCount packet + 4 ≤ packet.length) := by
  constructor
  · intro same
    rcases media : Conference.mediaPayload audioPt telephoneEventPt packet with - | found
    · exact .inl rfl
    · obtain ⟨⟨-, version⟩, complete, -⟩ := Voicemail.mediaPayload_eq_some_iff.mp (same ▸ media)
      exact .inr ⟨version, whole_of_headerEnd_le complete.le⟩
  · rintro (ignored | ⟨version, whole⟩)
    · rw [ignored]
      refine (eq_none_iff_forall_ne_some.mpr fun found media => ?_).symm
      obtain ⟨⟨long, -⟩, complete, negotiated, -⟩ := Voicemail.mediaPayload_eq_some_iff.mp media
      have ends := rtpPayloadOffset_eq_headerEnd (whole_of_headerEnd_le complete.le)
      have taken := Conference.mediaPayload_eq_some_iff.mpr
        ⟨long, ends.trans_lt complete, negotiated, rfl⟩
      rw [ignored] at taken
      cases taken
    · refine Option.ext fun found => ?_
      rw [Conference.mediaPayload_eq_some_iff, Voicemail.mediaPayload_eq_some_iff,
        rtpPayloadOffset_eq_headerEnd whole, and_iff_left version]

end Receivers

/-- The two receivers agree on a packet exactly when both ignore it (it is short, of a type that
was not negotiated, or ends with its sources), or when the extension it announces is not cut off
and its version is 2 or nothing follows its header. -/
theorem mediaPayload_agree_iff (audioPt : Nat) (telephoneEventPt : Option Nat)
    (packet : Packet) :
    Conference.mediaPayload audioPt telephoneEventPt packet =
        Voicemail.mediaPayload audioPt telephoneEventPt packet ↔
      packet.length < rtpHeaderLen ∨ ¬ Negotiated audioPt telephoneEventPt packet ∨
        packet.length ≤ rtpHeaderLen + 4 * sourceCount packet ∨
        (byteAt packet 0 >>> 6 = 2 ∨ packet.length ≤ headerEnd packet) ∧ (¬ Extended packet ∨
          rtpHeaderLen + 4 * sourceCount packet + 4 ≤ packet.length) := by
  rw [mediaPayload_eq_iff, Conference.mediaPayload_eq_none_iff]
  by_cases whole : ¬ Extended packet ∨
      rtpHeaderLen + 4 * sourceCount packet + 4 ≤ packet.length
  · have longer : rtpHeaderLen + 4 * sourceCount packet ≤ headerEnd packet := by
      unfold headerEnd
      dsimp only
      split <;> omega
    rw [rtpPayloadOffset_eq_headerEnd whole, and_iff_left whole, and_iff_left whole]
    have weaker : packet.length ≤ rtpHeaderLen + 4 * sourceCount packet →
      packet.length ≤ headerEnd packet := fun ends => ends.trans longer
    tauto
  · have cut : Mixer.rtpPayloadOffset packet = rtpHeaderLen + 4 * sourceCount packet :=
      if_neg fun both => whole (.inr both.2)
    rw [cut]
    tauto

/-- A packet whose version is 0 is audio for the conference and refused by the voicemail. -/
theorem mediaPayload_old_version :
    Conference.mediaPayload 0 (some 101) [0, 0, 0, 1, 0, 0, 0, 2, 0, 0, 0, 3, 0x7F] =
      some (0, [0x7F]) ∧
    Voicemail.mediaPayload 0 (some 101) [0, 0, 0, 1, 0, 0, 0, 2, 0, 0, 0, 3, 0x7F] = none := by
  decide

end Sip3.Rtp
