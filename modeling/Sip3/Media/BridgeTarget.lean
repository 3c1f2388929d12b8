import Sip3.Media.Sdp

/-!
# Where a bridge sends audio

`sdp_rtp_addr` takes the first connection line and the first audio line of a description. The
address of a section is its own connection line or, when it has none, that of the session. Both
are compared here for the first audio section.
-/

namespace Sip3.Sdp

open Text List Str

/-- The address a connection line names. -/
def connection? (line : Str) : Option Str :=
  (Str.stripLead line "c=IN IP4 ".toList).map Str.trim

/-- The line opens a section. -/
def opensSection (line : Str) : Bool :=
  Str.startsWith line "m=".toList

/-- The line opens an audio section. -/
def opensAudio (line : Str) : Bool :=
  Str.startsWith line "m=audio ".toList || Str.startsWith line "m=audio\t".toList

/-- The lines before every section. -/
def sessionLines (lines : List Str) : List Str :=
  lines.takeWhile (!opensSection ·)

/-- The sections in order: the line that opens each, and the lines up to the next one. -/
def mediaSections : List Str → List (Str × List Str)
  | [] => []
  | line :: rest =>
    if opensSection line then (line, sessionLines rest) :: mediaSections rest
    else mediaSections rest

/-- The first audio section. -/
def audioSection (lines : List Str) : Option (Str × List Str) :=
  (mediaSections lines).find? (opensAudio ·.1)

/-- The address of a section: its own one, or that of the session. -/
def sectionAddress (lines : List Str) (media : Str × List Str) : Option Str :=
  (media.2.findSome? connection?).or ((sessionLines lines).findSome? connection?)

/-- Where the first audio section receives. -/
def audioTarget (platform : Platform) (sdp : Str) : Option SocketAddr := do
  let media ← audioSection (Str.lines sdp)
  let ip ← sectionAddress (Str.lines sdp) media
  let port ← mLinePort media.1
  platform.parseSocketAddr (hostPort ip port)

theorem opensSection_of_opensAudio {line : Str} (audio : opensAudio line = true) :
    opensSection line = true := by
  have longer {start : Str} (opens : "m=".toList <+: start)
      (starts : startsWith line start = true) : opensSection line = true :=
    isPrefixOf_iff_prefix.mpr (opens.trans (List.isPrefixOf_iff_prefix.mp starts))
  rcases Bool.or_eq_true_iff.mp audio with blank | tab
  · exact longer (by decide) blank
  · exact longer (by decide) tab

/-- The first audio line opens the first audio section. -/
theorem find?_opensAudio (lines : List Str) :
    lines.find? opensAudio = (audioSection lines).map (·.1) := by
  unfold audioSection
  induction lines with
  | nil => rfl
  | cons line rest ih =>
    rw [find?_cons, mediaSections]
    cases audio : opensAudio line with
    | true => simp [opensSection_of_opensAudio audio, audio]
    | false =>
      cases opensSection line with
      | true => simp [audio, ih]
      | false => simpa using ih

theorem audioPort_eq (sdp : Str) :
    audioPort sdp = (audioSection (lines sdp)).bind fun media => mLinePort media.1 := by
  have first := find?_opensAudio (lines sdp)
  unfold audioPort firstPort
  unfold opensAudio at first
  rw [first]
  cases audioSection (lines sdp) <;> rfl

/-- The address that comes first in the sections before the first audio section. -/
def earlierAddress (lines : List Str) : Option Str :=
  ((mediaSections lines).takeWhile (!opensAudio ·.1)).findSome? (·.2.findSome? connection?)

/-- No address stands before the one of the first audio section but the same: it has no own one,
or its own one is that of the session, or the session has none and neither has an earlier section
another one. -/
def Leads (lines : List Str) (ip : Str) : Prop :=
  (((sessionLines lines).findSome? connection?).or (earlierAddress lines)).all (· = ip)

theorem not_opensSection_of_connection? {line ip : Str} (names : connection? line = some ip) :
    opensSection line = false := by
  obtain ⟨rest, strips, -⟩ := Option.map_eq_some_iff.mp names
  obtain ⟨starts, -⟩ := Option.ite_none_right_eq_some.mp strips
  obtain ⟨tail, rfl⟩ := isPrefixOf_iff_prefix.mp starts
  rfl

/-- The first connection line of a description stands in the session, or in the first section that
has one. -/
theorem findSome?_connection? (lines : List Str) : lines.findSome? connection? =
    ((sessionLines lines).findSome? connection?).or
      ((mediaSections lines).findSome? (·.2.findSome? connection?)) := by
  induction lines with
  | nil => rfl
  | cons line rest ih =>
    cases opens : opensSection line with
    | true =>
      have silent : connection? line = none := by
        refine Option.eq_none_iff_forall_ne_some.mpr fun ip names => ?_
        rw [not_opensSection_of_connection? names] at opens
        cases opens
      have opened : mediaSections (line :: rest) =
          (line, sessionLines rest) :: mediaSections rest := if_pos opens
      rw [findSome?_cons, silent, opened, findSome?_cons, ih]
      simp only [sessionLines, opens, Bool.not_true, Bool.false_eq_true, not_false_eq_true,
        takeWhile_cons_of_neg, findSome?_nil, Option.none_or]
      cases (rest.takeWhile (!opensSection ·)).findSome? connection? <;> rfl
    | false =>
      cases names : connection? line with
      | some ip => simp [sessionLines, opens, names]
      | none => simpa [sessionLines, mediaSections, opens, names] using ih

theorem findSome?_earlierAddress {lines : List Str} {media : Str × List Str}
    (audio : audioSection lines = some media) : ∃ later,
      (mediaSections lines).findSome? (·.2.findSome? connection?) =
        ((earlierAddress lines).or (media.2.findSome? connection?)).or later := by
  obtain ⟨opens, front, back, split, before⟩ := find?_eq_some_iff_append.mp audio
  have skipped : (mediaSections lines).takeWhile (!opensAudio ·.1) = front := by
    rw [split, takeWhile_append_of_pos (by simpa using before),
      takeWhile_cons_of_neg (by simpa using opens), append_nil]
  refine ⟨back.findSome? (·.2.findSome? connection?), ?_⟩
  rw [earlierAddress, skipped, split, findSome?_append, findSome?_cons]
  cases media.2.findSome? connection? <;> simp

section Target

variable {platform : Platform} {sdp ip : Str} {media : Str × List Str} {port : Nat}

/-- The address joins the first connection line of the text with the port of the audio section. -/
theorem rtpAddr_eq (audio : audioSection (lines sdp) = some media)
    (listens : mLinePort media.1 = some port) : rtpAddr platform sdp =
      (connectionIp sdp).bind fun ip => platform.parseSocketAddr (hostPort ip port) := by
  have found : audioPort sdp = some port := by rw [audioPort_eq, audio, Option.bind_some, listens]
  simp [rtpAddr, found]

theorem audioTarget_eq (audio : audioSection (lines sdp) = some media)
    (effective : sectionAddress (lines sdp) media = some ip)
    (listens : mLinePort media.1 = some port) :
    audioTarget platform sdp = platform.parseSocketAddr (hostPort ip port) := by
  simp [audioTarget, audio, effective, listens]

/-- The first connection line of the whole description names the address of the first audio section
exactly when no other address stands before it. -/
theorem connectionIp_eq_some_iff (audio : audioSection (lines sdp) = some media)
    (effective : sectionAddress (lines sdp) media = some ip) :
    connectionIp sdp = some ip ↔ Leads (lines sdp) ip := by
  obtain ⟨later, sections⟩ := findSome?_earlierAddress audio
  have first : connectionIp sdp = ((sessionLines (lines sdp)).findSome? connection?).or
      (((earlierAddress (lines sdp)).or (media.2.findSome? connection?)).or later) := by
    rw [← sections, ← findSome?_connection?]
    rfl
  rw [first, Leads]
  unfold sectionAddress at effective
  cases session : (sessionLines (lines sdp)).findSome? connection? with
  | some shared => simp
  | none =>
    rw [session, Option.or_none] at effective
    cases earlierAddress (lines sdp) with
    | some earlier => simp
    | none => simp [effective]

/-- The port is always the one of the first audio section. With it, `sdp_rtp_addr` gives the target
of that section exactly when no other address stands before its effective one. -/
theorem rtpAddr_eq_audioTarget_iff (audio : audioSection (Str.lines sdp) = some media)
    (effective : sectionAddress (Str.lines sdp) media = some ip)
    (listens : mLinePort media.1 = some port)
    (valid : (platform.parseSocketAddr (hostPort ip port)).isSome = true)
    (distinct : ∀ other, platform.parseSocketAddr (hostPort other port) =
      platform.parseSocketAddr (hostPort ip port) → other = ip) :
    rtpAddr platform sdp = audioTarget platform sdp ↔ Leads (Str.lines sdp) ip := by
  rw [rtpAddr_eq audio listens, audioTarget_eq audio effective listens,
    ← connectionIp_eq_some_iff audio effective]
  constructor
  · intro same
    obtain ⟨addr, read⟩ := Option.isSome_iff_exists.mp valid
    obtain ⟨first, found, firstRead⟩ := Option.bind_eq_some_iff.mp (same.trans read)
    rw [found, distinct first (firstRead.trans read.symm)]
  · intro names
    rw [names, Option.bind_some]

end Target

/-- A platform that reads the address of two hosts. -/
def twoHosts : Platform :=
  .ascii fun text =>
    if text = "10.0.0.1:4000".toList then some ⟨.octets 10 0 0 1, 4000⟩
    else if text = "10.0.0.2:4000".toList then some ⟨.octets 10 0 0 2, 4000⟩
    else none

theorem twoHosts_distinct (other : Str) (same : twoHosts.parseSocketAddr (hostPort other 4000) =
    some ⟨.octets 10 0 0 2, 4000⟩) : other = "10.0.0.2".toList := by
  simp only [twoHosts, Platform.ascii] at same
  split at same
  · cases same
  · split at same
    · next text => exact append_cancel_right text
    · cases same

/-- The section of a video with a connection line of its own may come after the audio. -/
theorem rtpAddr_eq_audioTarget_before_video :
    let sdp := "m=audio 4000 RTP/AVP 0\nc=IN IP4 10.0.0.2\nm=video 6 RTP/AVP 9\n".toList ++
      "c=IN IP4 10.0.0.1".toList
    rtpAddr twoHosts sdp = audioTarget twoHosts sdp :=
  (@rtpAddr_eq_audioTarget_iff twoHosts _ "10.0.0.2".toList ("m=audio 4000 RTP/AVP 0".toList,
    ["c=IN IP4 10.0.0.2".toList]) 4000 rfl rfl rfl rfl fun other same =>
      twoHosts_distinct other same).mpr rfl

/-- The audio section names another address than the session, and the session's one is taken. -/
theorem rtpAddr_of_session :
    let sdp := "c=IN IP4 10.0.0.1\nm=audio 4000 RTP/AVP 0\nc=IN IP4 10.0.0.2".toList
    rtpAddr twoHosts sdp = some ⟨.octets 10 0 0 1, 4000⟩ ∧
      audioTarget twoHosts sdp = some ⟨.octets 10 0 0 2, 4000⟩ := by
  decide

end Sip3.Sdp
