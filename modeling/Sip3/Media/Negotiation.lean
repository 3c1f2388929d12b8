import Sip3.Media.Mixer
import Sip3.Message.Layout
import Sip3.Text.Tokens

/-!
# What the local endpoints negotiate

Voicemail and conference read an offer in the same way and pick an audio payload type each in its
own way. `Picks` is what the two ways have in common: an advertised type that stands for the codec,
whenever there is one. That both accept the same offers, that what they return was offered, and
that an answer negotiates to itself all follow from it.
-/

namespace Sip3

open Text Str List Option

namespace Offer

/-- The first audio line of an offer, as it opens its section. -/
def firstAudio (lines : List Str) : Option Audio :=
  lines.findSome? fun line => (Str.stripLead (Str.trim line) "m=".toList).bind openAudio

/-- A choice among the advertised audio types: one that stands for the codec it comes with, if
there is any. -/
structure Picks (choose : Audio → Option (Codec × Nat)) : Prop where
  sound : ∀ {audio codec pt}, choose audio = some (codec, pt) → pt ∈ audio.offering (.audio codec)
  complete : ∀ {audio codec pt}, pt ∈ audio.offering (.audio codec) → (choose audio).isSome = true

section Reading

variable {audio opened : Audio} {lines : List Str} {payload : Payload} {pt : Nat}

theorem mem_offering :
    pt ∈ audio.offering payload ↔ pt ∈ audio.pts ∧ audio.resolve pt = some payload := by
  simp [Audio.offering]

/-- A type stands for one payload only. -/
theorem ne_of_mem_offering {codec : Codec} {other : Nat} (listed : pt ∈ audio.offering (.audio codec))
    (event : other ∈ audio.offering .telephoneEvent) : other ≠ pt := by
  rintro rfl
  have both := (mem_offering.mp event).2
  rw [(mem_offering.mp listed).2] at both
  cases both

theorem readLine_keeps (audio : Audio) (line : Str) :
    (audio.readLine line).profileOk = audio.profileOk ∧ (audio.readLine line).pts = audio.pts := by
  unfold Audio.readLine
  split
  · exact ⟨rfl, rfl⟩
  · dsimp only
    split <;> exact ⟨rfl, rfl⟩

/-- The lines of a section keep what its first line says. -/
theorem scan_opened (lines : List Str) (opened : Audio) : ∃ audio,
    scan (some opened) lines = some audio ∧ audio.profileOk = opened.profileOk ∧
      audio.pts = opened.pts := by
  induction lines generalizing opened with
  | nil => exact ⟨opened, rfl, rfl, rfl⟩
  | cons line rest ih =>
    unfold scan
    cases stripLead (trim line) "m=".toList with
    | some media => exact ⟨opened, rfl, rfl, rfl⟩
    | none =>
      obtain ⟨audio, found, profile, pts⟩ := ih (opened.readLine (trim line))
      obtain ⟨sameProfile, samePts⟩ := readLine_keeps opened (trim line)
      exact ⟨audio, found, profile.trans sameProfile, pts.trans samePts⟩

theorem firstAudio_of_scan (found : scan none lines = some audio) : ∃ opened,
    firstAudio lines = some opened ∧ audio.profileOk = opened.profileOk ∧
      audio.pts = opened.pts := by
  induction lines with
  | nil => cases found
  | cons line rest ih =>
    unfold scan at found
    rw [firstAudio, findSome?_cons]
    cases media : stripLead (trim line) "m=".toList with
    | none =>
      rw [media] at found
      exact ih found
    | some text =>
      rw [media] at found
      change scan (openAudio text) rest = some audio at found
      rw [bind_some]
      cases opens : openAudio text with
      | none =>
        rw [opens] at found
        exact ih found
      | some opened =>
        obtain ⟨other, same, kept⟩ := scan_opened rest opened
        rw [opens] at found
        cases found.symm.trans same
        exact ⟨opened, rfl, kept⟩

theorem lt_of_mem_pts (opens : firstAudio lines = some opened) (listed : pt ∈ opened.pts) :
    pt < 256 := by
  obtain ⟨line, -, opens⟩ := exists_of_findSome?_eq_some opens
  obtain ⟨media, -, opens⟩ := bind_eq_some_iff.mp opens
  unfold openAudio at opens
  split at opens
  · split at opens
    · cases opens
      obtain ⟨token, -, read⟩ := mem_filterMap.mp listed
      unfold parseUnsigned at read
      dsimp only at read
      split at read
      · next value _ =>
          by_cases small : value < 2 ^ 8
          · rw [if_pos small] at read
            cases read
            exact small
          · rw [if_neg small] at read
            cases read
      · cases read
    · cases opens
  · cases opens

end Reading

section Negotiating

variable {choose other : Audio → Option (Codec × Nat)} {sdp : Str} {negotiation : Negotiation}

theorem negotiate_eq_some_iff : negotiate choose sdp = some negotiation ↔
    ∃ audio, scan none (lines sdp) = some audio ∧ audio.profileOk = true ∧
      choose audio = some (negotiation.codec, negotiation.audioPt) ∧
      (audio.offering .telephoneEvent).head? = negotiation.telephoneEventPt := by
  obtain ⟨codec, audioPt, events⟩ := negotiation
  unfold negotiate
  cases scan none (lines sdp) with
  | none => simp
  | some audio =>
    cases profile : audio.profileOk with
    | false => simp [profile]
    | true => simp [profile]

/-- What is negotiated was offered. -/
theorem Picks.offered (picks : Picks choose) (success : negotiate choose sdp = some negotiation) :
    ∃ audio, scan none (lines sdp) = some audio ∧ audio.profileOk = true ∧
      negotiation.audioPt ∈ audio.offering (.audio negotiation.codec) ∧
      ∀ pt, negotiation.telephoneEventPt = some pt → pt ∈ audio.offering .telephoneEvent := by
  obtain ⟨audio, found, profile, chosen, events⟩ := negotiate_eq_some_iff.mp success
  refine ⟨audio, found, profile, picks.sound chosen, fun pt named => ?_⟩
  exact mem_of_mem_head? (events.trans named)

theorem Picks.isSome_eq (picks : Picks choose) (picksToo : Picks other) (audio : Audio) :
    (choose audio).isSome = (other audio).isSome := by
  rw [Bool.eq_iff_iff]
  constructor
  · intro chosen
    obtain ⟨⟨codec, pt⟩, same⟩ := isSome_iff_exists.mp chosen
    exact picksToo.complete (picks.sound same)
  · intro chosen
    obtain ⟨⟨codec, pt⟩, same⟩ := isSome_iff_exists.mp chosen
    exact picks.complete (picksToo.sound same)

theorem Picks.isSome_negotiate (picks : Picks choose) (picksToo : Picks other) (sdp : Str) :
    (negotiate choose sdp).isSome = (negotiate other sdp).isSome := by
  unfold negotiate
  cases scan none (lines sdp) with
  | none => rfl
  | some audio =>
    dsimp only
    split
    · rw [isSome_map, isSome_map, picks.isSome_eq picksToo]
    · rfl

end Negotiating

/-- The last PCMU type of an offer, else its first PCMA type. -/
def voicemailType (audio : Audio) : Option Nat :=
  (audio.offering (.audio .pcmu)).getLast?.or (audio.offering (.audio .pcma)).head?

/-- The first type of an offer that is PCMU or PCMA. -/
def conferenceType (audio : Audio) : Option Nat :=
  audio.pts.find? fun pt =>
    audio.resolve pt = some (.audio .pcmu) ∨ audio.resolve pt = some (.audio .pcma)

/-- Voicemail picks the last PCMU type, else the first PCMA type. -/
theorem picks_voicemail : ∃ choose, (Picks choose ∧ negotiateVoicemailOffer = negotiate choose) ∧
    ∀ audio, (choose audio).map Prod.snd = voicemailType audio := by
  refine ⟨_, ⟨?_, funext fun sdp => rfl⟩, fun audio => ?_⟩
  case refine_2 =>
    unfold voicemailType
    cases (audio.offering (.audio .pcmu)).getLast? with
    | some last => rfl
    | none => simp [Function.comp_def]
  constructor
  · intro audio codec pt chosen
    split at chosen
    · next last found =>
        cases chosen
        exact mem_of_getLast? found
    · obtain ⟨first, found, same⟩ := map_eq_some_iff.mp chosen
      cases same
      exact mem_of_mem_head? found
  · intro audio codec pt listed
    split
    · rfl
    · next none =>
        cases codec with
        | pcmu =>
          rw [getLast?_eq_none_iff.mp none] at listed
          cases listed
        | pcma =>
          rw [isSome_map, isSome_head?]
          simpa using ne_nil_of_mem listed

/-- The conference picks the first PCMU or PCMA type. -/
theorem picks_conference : ∃ choose, (Picks choose ∧ negotiateConferenceOffer = negotiate choose) ∧
    ∀ audio, (choose audio).map Prod.snd = conferenceType audio := by
  refine ⟨_, ⟨?_, funext fun sdp => rfl⟩, fun audio => ?_⟩
  case refine_2 =>
    unfold conferenceType
    induction audio.pts with
    | nil => rfl
    | cons pt rest ih =>
      rw [findSome?_cons, find?_cons]
      rcases audio.resolve pt with - | (_ | _) | -
      · simpa using ih
      · simp
      · simp
      · simpa using ih
  constructor
  · intro audio codec pt chosen
    obtain ⟨first, listed, found⟩ := exists_of_findSome?_eq_some chosen
    split at found
    · next resolved =>
        cases found
        exact mem_offering.mpr ⟨listed, resolved⟩
    · cases found
  · intro audio codec pt offered
    obtain ⟨listed, resolved⟩ := mem_offering.mp offered
    rw [findSome?_isSome_iff]
    exact ⟨pt, listed, by rw [resolved]; rfl⟩

end Offer

open Offer

/-- Both endpoints accept the same offers with the same telephone-event type, and with the same
codec where the first audio section does not offer both. -/
theorem negotiators_agree (sdp : Str) :
    (negotiateVoicemailOffer sdp).isSome = (negotiateConferenceOffer sdp).isSome ∧
    ∀ voicemail conference, negotiateVoicemailOffer sdp = some voicemail →
      negotiateConferenceOffer sdp = some conference →
      voicemail.telephoneEventPt = conference.telephoneEventPt ∧
      ((∀ audio, scan none (Str.lines sdp) = some audio →
        audio.offering (.audio .pcmu) = [] ∨ audio.offering (.audio .pcma) = []) →
        voicemail.codec = conference.codec) := by
  obtain ⟨choose, ⟨picks, same⟩, -⟩ := picks_voicemail
  obtain ⟨other, ⟨picksToo, sameToo⟩, -⟩ := picks_conference
  rw [same, sameToo]
  refine ⟨picks.isSome_negotiate picksToo sdp, ?_⟩
  intro voicemail conference first second
  obtain ⟨audio, found, -, chosen, events⟩ := negotiate_eq_some_iff.mp first
  obtain ⟨audio', found', -, chosen', events'⟩ := negotiate_eq_some_iff.mp second
  cases found.symm.trans found'
  refine ⟨events.symm.trans events', fun apart => ?_⟩
  have here := picks.sound chosen
  have there := picksToo.sound chosen'
  rcases apart audio found with none | none
  · have alone : ∀ {codec pt}, pt ∈ audio.offering (.audio codec) → codec = .pcma := by
      rintro (_ | _) pt offered
      · rw [none] at offered
        cases offered
      · rfl
    exact (alone here).trans (alone there).symm
  · have alone : ∀ {codec pt}, pt ∈ audio.offering (.audio codec) → codec = .pcmu := by
      rintro (_ | _) pt offered
      · rfl
      · rw [none] at offered
        cases offered
    exact (alone here).trans (alone there).symm

/-- The payload type in the header of a packet. -/
def headerPt (packet : List UInt8) : Nat := (packet.getD 1 0 &&& 0x7F).toNat

/-- The types of a negotiation can be used in RTP: they fit their field, are different, were listed
on the first audio line, stand for what they are taken for, and are sent as they are. -/
structure Negotiation.Usable (sdp : Str) (negotiation : Negotiation) : Prop where
  small : negotiation.audioPt ≤ 127 ∧ ∀ pt, negotiation.telephoneEventPt = some pt → pt ≤ 127
  different : negotiation.telephoneEventPt ≠ some negotiation.audioPt
  listed : ∃ opened, firstAudio (Str.lines sdp) = some opened ∧ opened.profileOk = true ∧
    negotiation.audioPt ∈ opened.pts ∧
      ∀ pt, negotiation.telephoneEventPt = some pt → pt ∈ opened.pts
  resolved : ∃ audio, scan none (Str.lines sdp) = some audio ∧
    audio.resolve negotiation.audioPt = some (.audio negotiation.codec) ∧
      ∀ pt, negotiation.telephoneEventPt = some pt → audio.resolve pt = some .telephoneEvent
  sent : ∀ seq ts ssrc payload,
    headerPt (Mixer.buildRtpPacket negotiation.audioPt seq ts ssrc payload) = negotiation.audioPt

theorem headerPt_buildRtpPacket {pt : Nat} (small : pt ≤ 127) (seq : UInt16) (ts ssrc : UInt32)
    (payload : List UInt8) : headerPt (Mixer.buildRtpPacket pt seq ts ssrc payload) = pt := by
  have masked : ∀ pt < 128, (UInt8.ofNat pt &&& 0x7F &&& 0x7F).toNat = pt := by decide
  exact masked pt (Nat.lt_succ_of_le small)

/-- A type, if there is one, fits its field of seven bits. -/
def Fits (pt : Option Nat) : Prop := ∀ value, pt = some value → value ≤ 127

/-- What a choice of `picked` types negotiates is usable exactly when the type it picks and the
first type of events fit. -/
theorem Offer.Picks.usable_iff {choose : Audio → Option (Codec × Nat)} (picks : Picks choose)
    {picked : Audio → Option Nat} (chooses : ∀ audio, (choose audio).map Prod.snd = picked audio)
    {sdp : Str} {negotiation : Negotiation} {audio : Audio}
    (found : scan none (Str.lines sdp) = some audio)
    (success : negotiate choose sdp = some negotiation) :
    negotiation.Usable sdp ↔
      Fits (picked audio) ∧ Fits (audio.offering .telephoneEvent).head? := by
  obtain ⟨_, same, profile, chosen, events⟩ := negotiate_eq_some_iff.mp success
  cases found.symm.trans same
  rw [← chooses, chosen, events]
  have listedEvents : ∀ pt, negotiation.telephoneEventPt = some pt →
      pt ∈ audio.offering .telephoneEvent := fun pt named => mem_of_mem_head? (events.trans named)
  obtain ⟨opened, opens, sameProfile, samePts⟩ := firstAudio_of_scan found
  obtain ⟨listed, resolved⟩ := mem_offering.mp (picks.sound chosen)
  constructor
  · rintro usable
    refine ⟨?_, usable.small.2⟩
    rintro _ ⟨⟩
    exact usable.small.1
  · rintro ⟨audioFits, eventsFit⟩
    have small : negotiation.audioPt ≤ 127 := audioFits _ rfl
    constructor
    case small => exact ⟨small, eventsFit⟩
    case different =>
      exact fun same => ne_of_mem_offering (picks.sound chosen) (listedEvents _ same) rfl
    case listed =>
      refine ⟨opened, opens, sameProfile ▸ profile, samePts ▸ listed, fun pt named => ?_⟩
      exact samePts ▸ (mem_offering.mp (listedEvents pt named)).1
    case resolved =>
      exact ⟨audio, found, resolved, fun pt named => (mem_offering.mp (listedEvents pt named)).2⟩
    case sent => exact headerPt_buildRtpPacket small

/-- Whatever either endpoint negotiates is usable exactly when two types of the offer fit the field
of seven bits: the one the endpoint takes for the audio and the first one of events. -/
theorem negotiated_usable_iff (sdp : Str) (audio : Audio) (negotiation : Negotiation)
    (found : scan none (Str.lines sdp) = some audio) :
    (negotiateVoicemailOffer sdp = some negotiation → (negotiation.Usable sdp ↔
      Fits (voicemailType audio) ∧ Fits (audio.offering .telephoneEvent).head?)) ∧
    (negotiateConferenceOffer sdp = some negotiation → (negotiation.Usable sdp ↔
      Fits (conferenceType audio) ∧ Fits (audio.offering .telephoneEvent).head?)) := by
  obtain ⟨choose, ⟨picks, same⟩, chooses⟩ := picks_voicemail
  obtain ⟨other, ⟨picksToo, sameToo⟩, choosesToo⟩ := picks_conference
  rw [same, sameToo]
  exact ⟨picks.usable_iff chooses found, picksToo.usable_iff choosesToo found⟩

theorem negotiated_usable_static :
    (⟨.pcma, 8, none⟩ : Negotiation).Usable "m=audio 4 RTP/AVP 8".toList := by
  refine ((negotiated_usable_iff _ ⟨true, [8], []⟩ _ rfl).1 (by decide)).mpr ⟨?_, ?_⟩
  · rintro _ ⟨⟩
    decide
  · rintro _ ⟨⟩

/-- Both endpoints accept a type of eight bits, and its packets carry another one. -/
theorem negotiated_out_of_range :
    negotiateVoicemailOffer "m=audio 4 RTP/AVP 200\na=rtpmap:200 PCMU/8000".toList =
      some ⟨.pcmu, 200, none⟩ ∧
    negotiateConferenceOffer "m=audio 4 RTP/AVP 200\na=rtpmap:200 PCMU/8000".toList =
      some ⟨.pcmu, 200, none⟩ ∧
    headerPt (Mixer.buildRtpPacket 200 0 0 0 []) = 72 := by
  decide

namespace Offer

section Answering

variable {audio : Audio} {line mapping : Str} {pt : Nat}

/-- A line that starts with another letter opens no section. -/
theorem stripLead_eq_none (char : Char) (begins : line.head? = some char)
    (solid : isWhitespace char = false) (other : char ≠ 'm') :
    stripLead (trim line) "m=".toList = none := by
  obtain ⟨rest, rfl⟩ := head?_eq_some_iff.mp begins
  have first : (trim (char :: rest)).head? = some char := by
    rw [trim, trimStart, dropWhile_cons_of_neg (by simp [solid]), trimEnd]
    obtain ⟨dropped, whole⟩ := rdropWhile_prefix isWhitespace (char :: rest)
    cases kept : (char :: rest).rdropWhile isWhitespace with
    | nil =>
      have blank := rdropWhile_eq_nil_iff.mp kept char (.head _)
      rw [solid] at blank
      cases blank
    | cons start more =>
      rw [kept] at whole
      exact congrArg some (cons.inj whole).1
  refine if_neg fun starts => ?_
  cases text : trim (char :: rest) with
  | nil =>
    rw [text] at first
    cases first
  | cons start more =>
    rw [text] at first starts
    obtain rfl := some.inj first
    have same : ('m' == start) = true := (Bool.and_eq_true_iff.mp starts).1
    exact other (eq_of_beq same).symm

theorem scan_skip (skipped : stripLead (trim line) "m=".toList = none) (rest : List Str) :
    scan none (line :: rest) = scan none rest := by
  simp only [scan, skipped]

theorem scan_read (inside : stripLead (trim line) "m=".toList = none) (rest : List Str) :
    scan (some audio) (line :: rest) = scan (some (audio.readLine (trim line))) rest := by
  simp only [scan, inside]

theorem ofNat_solid (value : Nat) : ofNat value ≠ [] ∧
    ∀ char ∈ ofNat value, isWhitespace char = false :=
  ⟨Nat.toDigits_ne_nil, fun _ member =>
    isWhitespace_of_isDigit (isDigit_of_mem_ofNat member)⟩

/-- A line that starts and ends with something that is not white space. -/
theorem trim_line {char : Char} {text word : Str} (first : isWhitespace char = false)
    (filled : word ≠ []) (solid : ∀ char ∈ word, isWhitespace char = false) :
    trim (char :: (text ++ word)) = char :: (text ++ word) := by
  refine trim_of_ends (by simp [first]) fun last ends => ?_
  rw [← cons_append, getLast?_append_of_ne_nil _ filled] at ends
  exact solid last (mem_of_getLast? ends)

/-- An `rtpmap` line as the answer has it. -/
theorem scan_rtpmap (small : pt < 256) (filled : mapping ≠ [])
    (solid : ∀ char ∈ mapping, isWhitespace char = false) (rest : List Str) :
    scan (some audio) (("a=rtpmap:".toList ++ (ofNat pt ++ ' ' :: mapping)) :: rest) =
      scan (some { audio with rtpmaps := audio.rtpmaps ++ [(pt,
        ((split '/' mapping).getD 0 []).map Char.toUpper,
        (((split '/' mapping)[1]?).bind (parseUnsigned (2 ^ 32))).getD 0)] }) rest := by
  have tokens : splitWhitespace (ofNat pt ++ ' ' :: mapping) = [ofNat pt, mapping] := by
    rw [splitWhitespace_word (ofNat_solid pt).1 (ofNat_solid pt).2 (by decide),
      splitWhitespace_of_solid filled solid]
  have whole : "a=rtpmap:".toList ++ (ofNat pt ++ ' ' :: mapping) =
      'a' :: (("=rtpmap:".toList ++ (ofNat pt ++ [' '])) ++ mapping) := by
    simp
  have trimmed : trim ("a=rtpmap:".toList ++ (ofNat pt ++ ' ' :: mapping)) =
      "a=rtpmap:".toList ++ (ofNat pt ++ ' ' :: mapping) := by
    rw [whole]
    exact trim_line (by decide) filled solid
  have lead : stripLead ("a=rtpmap:".toList ++ (ofNat pt ++ ' ' :: mapping))
      "a=rtpmap:".toList = some (ofNat pt ++ ' ' :: mapping) := rfl
  have read : parseUnsigned (2 ^ 8) (ofNat pt) = some pt := parseUnsigned_ofNat small
  rw [scan_read (stripLead_eq_none 'a' rfl (by decide) (by decide)), trimmed,
    Audio.readLine, lead]
  simp only [tokens, getD_cons_zero, getD_cons_succ, read]

/-- `rtpmap` of a codec. -/
def rtpmap : Codec → Str
  | .pcmu => "PCMU/8000".toList
  | .pcma => "PCMA/8000".toList

/-- The section that an answer opens. -/
def answered (negotiation : Negotiation) : Audio :=
  ⟨true, negotiation.audioPt :: negotiation.telephoneEventPt.toList,
    (negotiation.audioPt, match negotiation.codec with
      | .pcmu => "PCMU".toList
      | .pcma => "PCMA".toList, 8000) ::
      negotiation.telephoneEventPt.toList.map fun pt => (pt, "TELEPHONE-EVENT".toList, 8000)⟩

theorem splitWhitespace_pts (pts : List Nat) :
    splitWhitespace (pts.flatMap fun pt => ' ' :: ofNat pt) = pts.map ofNat := by
  induction pts with
  | nil => rfl
  | cons pt more ih =>
    rw [flatMap_cons, cons_append, splitWhitespace_blank (by decide), map_cons,
      ← ih]
    cases more with
    | nil =>
      rw [flatMap_nil, append_nil]
      exact splitWhitespace_of_solid (ofNat_solid pt).1 (ofNat_solid pt).2
    | cons second more =>
      rw [flatMap_cons, cons_append,
        splitWhitespace_word (ofNat_solid pt).1 (ofNat_solid pt).2 (by decide),
        splitWhitespace_blank (by decide)]

/-- The line that opens the section. -/
theorem scan_media {pts : List Nat} (filled : pts ≠ []) (small : ∀ pt ∈ pts, pt < 256) (port : Nat)
    (rest : List Str) :
    scan none (("m=audio ".toList ++ (ofNat port ++ (" RTP/AVP".toList ++
      pts.flatMap fun pt => ' ' :: ofNat pt))) :: rest) = scan (some ⟨true, pts, []⟩) rest := by
  have tokens : splitWhitespace ("audio ".toList ++ (ofNat port ++ (" RTP/AVP".toList ++
      pts.flatMap fun pt => ' ' :: ofNat pt))) =
      "audio".toList :: ofNat port :: "RTP/AVP".toList :: pts.map ofNat := by
    obtain ⟨pt, more, rfl⟩ := exists_cons_of_ne_nil filled
    have audio : "audio ".toList = "audio".toList ++ [' '] := by decide
    have profile : " RTP/AVP".toList = ' ' :: "RTP/AVP".toList := by decide
    rw [audio, profile, append_assoc, singleton_append,
      splitWhitespace_word (by decide) (forall_mem_of_all (by decide)) (by decide),
      cons_append,
      splitWhitespace_word (ofNat_solid port).1 (ofNat_solid port).2 (by decide),
      flatMap_cons, cons_append,
      splitWhitespace_word (by decide) (forall_mem_of_all (by decide)) (by decide),
      ← splitWhitespace_pts (pt :: more), flatMap_cons, cons_append,
      splitWhitespace_blank (by decide)]
  have trimmed : trim ("m=audio ".toList ++ (ofNat port ++ (" RTP/AVP".toList ++
      pts.flatMap fun pt => ' ' :: ofNat pt))) = "m=".toList ++ ("audio ".toList ++
        (ofNat port ++ (" RTP/AVP".toList ++ pts.flatMap fun pt => ' ' :: ofNat pt))) := by
    obtain ⟨front, last, rfl⟩ : ∃ front last, pts = front ++ [last] :=
      ⟨pts.dropLast, pts.getLast filled, (dropLast_append_getLast filled).symm⟩
    have whole : "m=audio ".toList ++ (ofNat port ++ (" RTP/AVP".toList ++
        (front ++ [last]).flatMap fun pt => ' ' :: ofNat pt)) =
        'm' :: (("=audio ".toList ++ (ofNat port ++ (" RTP/AVP".toList ++
          (front.flatMap (fun pt => ' ' :: ofNat pt) ++ [' '])))) ++ ofNat last) := by
      simp
    rw [whole, trim_line (by decide) (ofNat_solid last).1 (ofNat_solid last).2]
    simp
  have media : ∀ text : Str, stripLead ("m=".toList ++ text) "m=".toList = some text :=
    fun text => rfl
  have read : (pts.map ofNat).filterMap (parseUnsigned (2 ^ 8)) = pts := by
    rw [filterMap_map]
    refine (filterMap_congr fun pt member => ?_).trans filterMap_some
    exact parseUnsigned_ofNat (small pt member)
  simp only [scan, trimmed, media, openAudio, tokens, if_true, getD_cons_zero,
    getD_cons_succ, drop_succ_cons, drop_zero, read, decide_true]

/-- The lines of an answer. -/
def answerLines (session publicIp : Str) (port : Nat) (negotiation : Negotiation)
    (sessionId : Nat) : List Str :=
  ["v=0".toList, "o=sip3 ".toList ++ (Str.ofNat sessionId ++ ' ' :: (Str.ofNat sessionId ++
      (" IN IP4 ".toList ++ publicIp))), "s=".toList ++ session, "c=IN IP4 ".toList ++ publicIp,
    "t=0 0".toList, "m=audio ".toList ++ (Str.ofNat port ++ (" RTP/AVP".toList ++
      (negotiation.audioPt :: negotiation.telephoneEventPt.toList).flatMap fun pt =>
        ' ' :: Str.ofNat pt)),
    "a=rtpmap:".toList ++ (Str.ofNat negotiation.audioPt ++ ' ' :: rtpmap negotiation.codec)] ++
  (negotiation.telephoneEventPt.toList.flatMap fun pt =>
    ["a=rtpmap:".toList ++ (Str.ofNat pt ++ ' ' :: "telephone-event/8000".toList),
      "a=fmtp:".toList ++ (Str.ofNat pt ++ " 0-15".toList)]) ++
  ["a=ptime:20".toList, "a=sendrecv".toList]

/-- The layout of an answer, for any texts in it: what stands between two fields ends one line and
starts the next one. -/
theorem answer_layout {v o vo id net ip s ns session c nc t m tm port p ps a te r nr codec nl
    events e d ed : Str} {extra : List Str} (vo_eq : vo = v ++ '\r' :: '\n' :: o)
    (ns_eq : ns = '\r' :: '\n' :: s) (nc_eq : nc = '\r' :: '\n' :: c)
    (tm_eq : tm = '\r' :: '\n' :: (t ++ '\r' :: '\n' :: m)) (ps_eq : ps = p ++ [' '])
    (nr_eq : nr = '\r' :: '\n' :: r) (nl_eq : nl = ['\r', '\n'])
    (extra_eq : events = crlfLines extra)
    (ed_eq : ed = e ++ '\r' :: '\n' :: (d ++ ['\r', '\n'])) :
    vo ++ id ++ ' ' :: id ++ net ++ ip ++ ns ++ session ++ nc ++ ip ++ tm ++ port ++ ps ++ a ++
        te ++ nr ++ a ++ ' ' :: codec ++ nl ++ events ++ ed =
      crlfLines ([v, o ++ (id ++ ' ' :: (id ++ (net ++ ip))), s ++ session, c ++ ip, t,
        m ++ (port ++ (p ++ ' ' :: (a ++ te))), r ++ (a ++ ' ' :: codec)] ++ extra ++
        [e, d]) := by
  subst vo_eq ns_eq nc_eq tm_eq ps_eq nr_eq nl_eq extra_eq ed_eq
  simp [crlfLines]

/-- The two lines that map the type of events, when there is one. -/
theorem event_lines (pt : Nat) :
    "a=rtpmap:".toList ++ ofNat pt ++ " telephone-event/8000\r\na=fmtp:".toList ++
        ofNat pt ++ " 0-15\r\n".toList =
      crlfLines ["a=rtpmap:".toList ++ (ofNat pt ++ ' ' :: "telephone-event/8000".toList),
        "a=fmtp:".toList ++ (ofNat pt ++ " 0-15".toList)] := by
  have join {r pt t te f e el : Str} (te_eq : te = ' ' :: (t ++ '\r' :: '\n' :: f))
      (el_eq : el = e ++ ['\r', '\n']) : r ++ pt ++ te ++ pt ++ el =
        crlfLines [r ++ (pt ++ ' ' :: t), f ++ (pt ++ e)] := by
    subst te_eq el_eq
    simp [crlfLines]
  exact join rfl rfl

theorem buildAnswer_eq (session publicIp : Str) (port : Nat) (negotiation : Negotiation)
    (sessionId : Nat) : buildAnswer session publicIp port negotiation sessionId =
      crlfLines (answerLines session publicIp port negotiation sessionId) := by
  obtain ⟨codec, audioPt, events⟩ := negotiation
  have pts : (audioPt :: events.toList).flatMap (fun pt => ' ' :: ofNat pt) =
      ' ' :: (ofNat audioPt ++ (events.map ofNat).elim [] fun pt => ' ' :: pt) := by
    cases events <;> simp
  have extra : ((events.map ofNat).elim [] fun pt => "a=rtpmap:".toList ++ pt ++
        " telephone-event/8000\r\na=fmtp:".toList ++ pt ++ " 0-15\r\n".toList) =
      crlfLines (events.toList.flatMap fun pt =>
        ["a=rtpmap:".toList ++ (ofNat pt ++ ' ' :: "telephone-event/8000".toList),
          "a=fmtp:".toList ++ (ofNat pt ++ " 0-15".toList)]) := by
    cases events with
    | none => rfl
    | some pt => exact (event_lines pt).trans (by rw [toList_some, flatMap_singleton])
  simp only [answerLines, pts]
  exact answer_layout rfl rfl rfl rfl rfl rfl rfl extra rfl

theorem oneLine_answerLines {session publicIp : Str} (named : Str.OneLine session)
    (single : Str.OneLine publicIp) (port : Nat) (negotiation : Negotiation) (sessionId : Nat) :
    ∀ text ∈ answerLines session publicIp port negotiation sessionId, Str.OneLine text := by
  obtain ⟨codec, audioPt, events⟩ := negotiation
  have digits : ∀ value, Str.OneLine (ofNat value) := oneLine_ofNat
  have plain : Str.OneLine (rtpmap codec) := by cases codec <;> decide
  cases events <;> simp [answerLines, digits, plain, named, single]

/-- Reading an answer gives the section that was answered with. -/
theorem scan_answerLines {negotiation : Negotiation} (small : negotiation.audioPt < 256)
    (smallToo : ∀ pt ∈ negotiation.telephoneEventPt.toList, pt < 256) (session publicIp : Str)
    (port sessionId : Nat) :
    scan none (answerLines session publicIp port negotiation sessionId) =
      some (answered negotiation) := by
  obtain ⟨codec, audioPt, events⟩ := negotiation
  have solid : rtpmap codec ≠ [] ∧ ∀ char ∈ rtpmap codec, isWhitespace char = false := by
    cases codec <;> exact ⟨by decide, forall_mem_of_all (by decide)⟩
  have ending : ∀ audio : Audio, scan (some audio) ["a=ptime:20".toList, "a=sendrecv".toList] =
      some audio := fun audio => by
    rw [scan_read (by decide), scan_read (by decide)]
    rfl
  simp only [answerLines, cons_append, nil_append]
  rw [scan_skip (by decide), scan_skip (stripLead_eq_none 'o' rfl (by decide) (by decide)),
    scan_skip (stripLead_eq_none 's' rfl (by decide) (by decide)),
    scan_skip (stripLead_eq_none 'c' rfl (by decide) (by decide)),
    scan_skip (by decide),
    scan_media (by simp) (forall_mem_cons.mpr ⟨small, smallToo⟩),
    scan_rtpmap small solid.1 solid.2]
  cases events with
  | none =>
    refine (ending _).trans ?_
    cases codec <;> rfl
  | some pt =>
    rw [toList_some, flatMap_cons, flatMap_nil, append_nil, cons_append,
      cons_append, nil_append,
      scan_rtpmap (smallToo pt (by simp)) (by decide) (forall_mem_of_all (by decide)),
      scan_read (stripLead_eq_none 'a' rfl (by decide) (by decide))]
    have whole : "a=fmtp:".toList ++ (ofNat pt ++ " 0-15".toList) =
        'a' :: (("=fmtp:".toList ++ ofNat pt) ++ [' ']) ++ "0-15".toList := by
      simp
    have trimmed : trim ("a=fmtp:".toList ++ (ofNat pt ++ " 0-15".toList)) =
        "a=fmtp:".toList ++ (ofNat pt ++ " 0-15".toList) := by
      rw [whole]
      exact trim_line (by decide) (by decide) (forall_mem_of_all (by decide))
    rw [trimmed]
    have other : ∀ (audio : Audio) (rest : Str),
        audio.readLine ("a=fmtp:".toList ++ rest) = audio := fun audio rest => rfl
    rw [other]
    refine (ending _).trans ?_
    cases codec <;> rfl

/-- The answer to a negotiation negotiates to itself. -/
theorem Picks.renegotiate {choose : Audio → Option (Codec × Nat)} (picks : Picks choose)
    {offer : Str} {negotiation : Negotiation} (success : negotiate choose offer = some negotiation)
    {session publicIp : Str} (named : Str.OneLine session) (single : Str.OneLine publicIp)
    (port sessionId : Nat) :
    negotiate choose (buildAnswer session publicIp port negotiation sessionId) =
      some negotiation := by
  obtain ⟨audio, found, -, chosen, events⟩ := picks.offered success
  obtain ⟨opened, opens, -, samePts⟩ := firstAudio_of_scan found
  have small : ∀ {pt payload}, pt ∈ audio.offering payload → pt < 256 := fun offered =>
    lt_of_mem_pts opens (samePts ▸ (mem_offering.mp offered).1)
  have scanned := scan_answerLines (small chosen)
    (fun pt member => small (events pt (mem_toList.mp member)))
    session publicIp port sessionId
  have apart : ∀ pt, negotiation.telephoneEventPt = some pt → pt ≠ negotiation.audioPt :=
    fun pt same => ne_of_mem_offering chosen (events pt same)
  obtain ⟨codec, audioPt, telephone⟩ := negotiation
  have resolves : (answered ⟨codec, audioPt, telephone⟩).resolve audioPt = some (.audio codec) := by
    cases codec <;> simp [answered, Audio.resolve]
  have stands : ∀ pt, telephone = some pt →
      (answered ⟨codec, audioPt, telephone⟩).resolve pt = some .telephoneEvent := by
    rintro pt rfl
    have other : audioPt ≠ pt := (apart pt rfl).symm
    simp [answered, Audio.resolve, other]
  have offered : audioPt ∈ (answered ⟨codec, audioPt, telephone⟩).offering (.audio codec) :=
    mem_offering.mpr ⟨.head _, resolves⟩
  have answerText := lines_crlfLines (oneLine_answerLines named single port
    ⟨codec, audioPt, telephone⟩ sessionId) []
  rw [append_nil, show lines [] = [] from rfl, append_nil] at answerText
  rw [buildAnswer_eq, negotiate_eq_some_iff]
  refine ⟨_, (congrArg _ answerText).trans scanned, rfl, ?_, ?_⟩
  · obtain ⟨⟨codec', pt⟩, picked⟩ := isSome_iff_exists.mp (picks.complete offered)
    obtain ⟨listed, resolved⟩ := mem_offering.mp (picks.sound picked)
    rw [picked]
    rcases mem_cons.mp listed with rfl | event
    · rw [resolves] at resolved
      cases resolved
      rfl
    · rw [stands pt (mem_toList.mp event)] at resolved
      cases resolved
  · have kept : telephone.toList.filter (fun pt =>
        (answered ⟨codec, audioPt, telephone⟩).resolve pt = some .telephoneEvent) =
        telephone.toList :=
      filter_eq_self.mpr fun pt member =>
        decide_eq_true (stands pt (mem_toList.mp member))
    change (filter _ (audioPt :: telephone.toList)).head? = telephone
    rw [filter_cons_of_neg (by simp [resolves]), kept]
    cases telephone <;> rfl

end Answering

end Offer

/-- For both endpoints, the answer to an offer that was accepted negotiates to the same result,
whatever address without line breaks, port and session it names. -/
theorem answer_renegotiates (offer publicIp : Str) (single : '\n' ∉ publicIp)
    (port sessionId : Nat) (negotiation : Negotiation) :
    (negotiateVoicemailOffer offer = some negotiation →
      negotiateVoicemailOffer (buildVoicemailAnswer publicIp port negotiation sessionId) =
        some negotiation) ∧
    (negotiateConferenceOffer offer = some negotiation →
      negotiateConferenceOffer (buildConferenceAnswer publicIp port negotiation sessionId) =
        some negotiation) := by
  obtain ⟨choose, ⟨picks, same⟩, -⟩ := picks_voicemail
  obtain ⟨other, ⟨picksToo, sameToo⟩, -⟩ := picks_conference
  rw [same, sameToo]
  exact ⟨fun success => picks.renegotiate success (by decide) single port sessionId,
    fun success => picksToo.renegotiate success (by decide) single port sessionId⟩

/-- An offer that maps PCMU to a type of its own comes back with that type. -/
theorem answer_renegotiates_mapped :
    negotiateVoicemailOffer "m=audio 4 RTP/AVP 96 101\na=rtpmap:96 PCMU/8000".toList =
      some ⟨.pcmu, 96, none⟩ ∧
    negotiateVoicemailOffer (buildVoicemailAnswer "10.0.0.1".toList 10002 ⟨.pcmu, 96, none⟩ 1) =
      some ⟨.pcmu, 96, none⟩ :=
  have accepted := by decide
  ⟨accepted, (answer_renegotiates "m=audio 4 RTP/AVP 96 101\na=rtpmap:96 PCMU/8000".toList
    "10.0.0.1".toList (by decide) 10002 1 ⟨.pcmu, 96, none⟩).1 accepted⟩

end Sip3
