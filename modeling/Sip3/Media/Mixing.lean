import Mathlib.Algebra.BigOperators.Group.Finset.Basic
import Mathlib.Data.List.GetD
import Sip3.Media.Mixer

/-!
# Sums of frames and their encoding

In a build with overflow checks an operation whose exact result does not fit its type panics. The
sums of the mixer never do for as many participants as there are ports, so a receiver hears the
sum of the others, clamped to sixteen bits. Encoding a mix may: `linear_to_ulaw` negates the
smallest sample.
-/

namespace Sip3.Mixer

open List Option

/-- A sum of 32 bits, in a build with overflow checks. -/
def fit32 (exact : Int) : Option Int32 :=
  if -2 ^ 31 ≤ exact ∧ exact < 2 ^ 31 then some (.ofInt exact) else none

/-- The loop that adds a frame to the sums. -/
def addFrame (sums : List Int32) (frame : Frame) : List Int32 :=
  sums.zipWith (fun sum sample => sum + sample.toInt32) frame ++ sums.drop frame.length

/-- The same loop with overflow checks. -/
def addFrameChecked : List Int32 → Frame → Option (List Int32)
  | sum :: sums, sample :: frame => do
      let added ← fit32 (sum.toInt + sample.toInt)
      let rest ← addFrameChecked sums frame
      return added :: rest
  | sums, _ => some sums

/-- The cast to sixteen bits of a sum that was clamped to them. -/
def clampSample (sum : Int32) : Int16 := (max (-32768) (min 32767 sum)).toInt16

/-- `mix_for_receiver` with overflow checks. -/
def mixForReceiverChecked (receiver : ParticipantId)
    (frames : List (ParticipantId × Option Frame)) : Option Frame := do
  let sums ← frames.foldlM (fun sums entry =>
    if entry.1 = receiver then some sums else entry.2.elim (some sums) (addFrameChecked sums))
      (List.replicate samplesPerFrame 0)
  return sums.map clampSample

/-- The frames that a receiver hears. -/
def heard (receiver : ParticipantId) (frames : List (ParticipantId × Option Frame)) : List Frame :=
  frames.filterMap fun entry => if entry.1 = receiver then none else entry.2

section Sums

variable {sums : List Int32} {count : Nat}

/-- Sums of a number of samples each. -/
def Bounded (count : Nat) (sums : List Int32) : Prop :=
  ∀ sum ∈ sums, -(32768 * count : Int) ≤ sum.toInt ∧ sum.toInt ≤ 32768 * count

theorem fit32_add {sum : Int32} (bounded : -(32768 * count : Int) ≤ sum.toInt ∧
    sum.toInt ≤ 32768 * count) (few : count < 65535) (sample : Int16) :
    (sum + sample.toInt32).toInt = sum.toInt + sample.toInt ∧
      fit32 (sum.toInt + sample.toInt) = some (sum + sample.toInt32) := by
  have low := sample.le_toInt
  have high := sample.toInt_lt
  have exact : (sum + sample.toInt32).toInt = sum.toInt + sample.toInt := by
    rw [Int32.toInt_add, Int16.toInt_toInt32]
    exact Int.bmod_eq_of_le (by omega) (by omega)
  refine ⟨exact, ?_⟩
  rw [fit32, if_pos (by omega), ← exact, Int32.ofInt_toInt]

theorem addFrame_cons (sum : Int32) (sums : List Int32) (sample : Int16) (frame : Frame) :
    addFrame (sum :: sums) (sample :: frame) = (sum + sample.toInt32) :: addFrame sums frame :=
  rfl

@[simp] theorem length_addFrame (sums : List Int32) (frame : Frame) :
    (addFrame sums frame).length = sums.length := by
  simp only [addFrame, length_append, length_zipWith, length_drop]
  omega

/-- Adding a frame to sums of fewer samples than there are participants. -/
theorem addFrame_spec (bounded : Bounded count sums) (few : count < 65535) (frame : Frame) :
    addFrameChecked sums frame = some (addFrame sums frame) ∧
      Bounded (count + 1) (addFrame sums frame) ∧
      ∀ index < sums.length, ((addFrame sums frame).getD index 0).toInt =
        (sums.getD index 0).toInt + (frame.getD index 0).toInt := by
  induction sums generalizing frame with
  | nil =>
    have empty : addFrame [] frame = [] := by simp [addFrame]
    rw [empty]
    exact ⟨by cases frame <;> rfl, (fun _ member => nomatch member),
      (fun _ inside => nomatch inside)⟩
  | cons sum sums ih =>
    have here := bounded sum (.head _)
    have later : Bounded count sums := fun sum member => bounded sum (.tail _ member)
    cases frame with
    | nil =>
      refine ⟨rfl, fun sum member => ?_, fun index _ => by simp [addFrame]⟩
      have := bounded sum (by simpa [addFrame] using member)
      omega
    | cons sample frame =>
      obtain ⟨checked, bound, exact⟩ := ih later frame
      obtain ⟨added, fits⟩ := fit32_add here few sample
      have low := sample.le_toInt
      have high := sample.toInt_lt
      rw [addFrame_cons]
      refine ⟨?_, ?_, ?_⟩
      · simp only [addFrameChecked, fits, checked, bind_eq_bind, bind_some]
        rfl
      · intro other member
        rcases mem_cons.mp member with rfl | rest
        · omega
        · exact bound other rest
      · intro index inside
        cases index with
        | zero => exact added
        | succ index => exact exact index (Nat.lt_of_succ_lt_succ inside)

/-- Adding frames one after another. -/
theorem foldl_addFrame_spec {frames : List Frame} (bounded : Bounded count sums)
    (few : count + frames.length ≤ 65535) :
    frames.foldlM addFrameChecked sums = some (frames.foldl addFrame sums) ∧
      (frames.foldl addFrame sums).length = sums.length ∧
      ∀ index < sums.length, ((frames.foldl addFrame sums).getD index 0).toInt =
        (sums.getD index 0).toInt +
          (frames.map fun frame => (frame.getD index 0).toInt).sum := by
  induction frames generalizing count sums with
  | nil => exact ⟨rfl, rfl, fun index _ => by simp⟩
  | cons frame frames ih =>
    rw [length_cons] at few
    obtain ⟨checked, bound, exact⟩ := addFrame_spec bounded (by omega) frame
    obtain ⟨checkedRest, length, exactRest⟩ := ih bound (by omega)
    rw [length_addFrame] at length exactRest
    refine ⟨?_, length, fun index inside => ?_⟩
    · rw [foldlM_cons, checked]
      exact checkedRest
    · rw [foldl_cons, exactRest index inside, exact index inside, map_cons,
        sum_cons, Int.add_assoc]

theorem toInt_clampSample (sum : Int32) :
    (clampSample sum).toInt = max (-32768) (min 32767 sum.toInt) := by
  have value : (max (-32768) (min 32767 sum) : Int32).toInt =
      max (-32768) (min 32767 sum.toInt) := by
    have top : (32767 : Int32).toInt = 32767 := rfl
    have bottom : (-32768 : Int32).toInt = -32768 := rfl
    change (if (-32768 : Int32) ≤ (if 32767 ≤ sum then 32767 else sum) then
      (if 32767 ≤ sum then 32767 else sum) else -32768 : Int32).toInt = _
    simp only [Int32.le_iff_toInt_le, top, bottom]
    split <;> split <;> simp only [top, bottom] at * <;> omega
  rw [clampSample, Int32.toInt_toInt16, value]
  exact Int.bmod_eq_of_le (by omega) (by omega)

end Sums

theorem mixForReceiver_eq_heard (receiver : ParticipantId)
    (frames : List (ParticipantId × Option Frame)) :
    mixForReceiver receiver frames =
      ((heard receiver frames).foldl addFrame (replicate samplesPerFrame 0)).map
        clampSample := by
  have folded (sums : List Int32) : frames.foldl (fun sums entry =>
      if entry.1 = receiver then sums else entry.2.elim sums (addFrame sums)) sums =
      (heard receiver frames).foldl addFrame sums := by
    rw [heard, foldl_filterMap]
    congr
    funext sums entry
    split
    · rfl
    · cases entry.2 <;> rfl
  exact congrArg (map clampSample) (folded _)

theorem mixForReceiverChecked_eq_heard (receiver : ParticipantId)
    (frames : List (ParticipantId × Option Frame)) :
    mixForReceiverChecked receiver frames =
      ((heard receiver frames).foldlM addFrameChecked (replicate samplesPerFrame 0)).map
        (map clampSample) := by
  have folded (sums : List Int32) : frames.foldlM (fun sums entry =>
      if entry.1 = receiver then some sums
        else entry.2.elim (some sums) (addFrameChecked sums)) sums =
      (heard receiver frames).foldlM addFrameChecked sums := by
    rw [heard, foldlM_filterMap]
    congr
    funext sums entry
    split
    · rfl
    · cases entry.2 <;> rfl
  rw [mixForReceiverChecked, folded, map_eq_bind]
  rfl

variable {receiver : ParticipantId}

/-- Mixing for a receiver who hears fewer frames than there are ports. -/
theorem mixForReceiver_spec {frames : List (ParticipantId × Option Frame)}
    (few : frames.length ≤ 65535) :
    mixForReceiverChecked receiver frames = some (mixForReceiver receiver frames) ∧
      (mixForReceiver receiver frames).length = samplesPerFrame ∧
      ∀ index < samplesPerFrame, ((mixForReceiver receiver frames).getD index 0).toInt =
        max (-32768) (min 32767
          ((heard receiver frames).map fun frame => (frame.getD index 0).toInt).sum) := by
  have silent : Bounded 0 (replicate samplesPerFrame 0) := by
    intro sum member
    rw [eq_of_mem_replicate member]
    decide
  obtain ⟨checked, length, exact⟩ := @foldl_addFrame_spec _ _ (heard receiver frames) silent
    (by have := length_filterMap_le (fun entry : ParticipantId × Option Frame =>
          if entry.1 = receiver then none else entry.2) frames
        rw [heard]
        omega)
  rw [length_replicate] at length exact
  rw [mixForReceiverChecked_eq_heard, checked, mixForReceiver_eq_heard]
  refine ⟨rfl, by rw [length_map, length], fun index inside => ?_⟩
  have silence : clampSample 0 = 0 := by decide
  have mapped (sums : List Int32) :
      (sums.map clampSample).getD index 0 = clampSample (sums.getD index 0) :=
    (congrArg _ silence.symm).trans (getD_map _ _ clampSample)
  rw [mapped, toInt_clampSample, exact index inside, getD_replicate _ inside,
    Int32.toInt_zero, Int.zero_add]

/-- A mix depends on the frames that are heard, not on their order. -/
theorem mixForReceiver_congr {frames frames' : List (ParticipantId × Option Frame)}
    (few : frames.length ≤ 65535) (few' : frames'.length ≤ 65535)
    (same : (heard receiver frames').Perm (heard receiver frames)) :
    mixForReceiver receiver frames' = mixForReceiver receiver frames := by
  obtain ⟨-, length, exact⟩ := @mixForReceiver_spec receiver frames few
  obtain ⟨-, length', exact'⟩ := @mixForReceiver_spec receiver frames' few'
  refine ext_getElem (length'.trans length.symm) fun index inside' inside => ?_
  have sample := exact index (length ▸ inside)
  have sample' := exact' index (length' ▸ inside')
  rw [(same.map _).sum_eq, ← sample, Int16.toInt_inj] at sample'
  rwa [getD_eq_getElem _ _ inside, getD_eq_getElem _ _ inside'] at sample'

/-- The frames a tick takes, in the order in which the participants are enumerated. -/
def takenFrames (participants : AList fun _ : ParticipantId => MediaParticipant)
    (locked : ParticipantId → Bool) (order : List ParticipantId) :
    List (ParticipantId × Option Frame) :=
  order.filterMap fun id => (participants.lookup id).map fun participant =>
    (id, snapshotFrame participant (locked id))

theorem frames_tick {before after : MixedRoom} {members : List ParticipantId}
    {locked : ParticipantId → Bool} (taken : before.step (.tick members locked) = some after) :
    after.frames = takenFrames before.participants locked members := by
  simp only [MixedRoom.step] at taken
  split at taken
  · cases taken
    rfl
  · cases taken

theorem sum_map_filterMap {α β : Type} (taken : α → Option β) (value : β → Int) (items : List α) :
    ((items.filterMap taken).map value).sum =
      (items.map fun item => (taken item).elim 0 value).sum := by
  induction items with
  | nil => rfl
  | cons item items ih =>
    rw [map_cons, sum_cons, ← ih]
    cases found : taken item with
    | none => rw [filterMap_cons_none found, elim_none, Int.zero_add]
    | some part =>
      rw [filterMap_cons_some found, map_cons, sum_cons, elim_some]

section Room

variable (participants : AList fun _ : ParticipantId => MediaParticipant)
  (locked : ParticipantId → Bool)

/-- What a tick takes of a participant. -/
def voice (id : ParticipantId) : Option Frame :=
  (participants.lookup id).bind fun participant => snapshotFrame participant (locked id)

/-- A participant is not muted and has a frame that can be read. -/
def speaks (id : ParticipantId) : Bool :=
  (participants.lookup id).any fun participant =>
    !participant.muted && !locked id && decide (participant.latestFrame ≠ [])

/-- A sample of the frame of a participant. -/
def sampleAt (id : ParticipantId) (index : Nat) : Int :=
  (((participants.lookup id).elim [] MediaParticipant.latestFrame).getD index 0).toInt

variable {participants locked}

theorem voice_eq (id : ParticipantId) : voice participants locked id =
    if speaks participants locked id then
      some ((participants.lookup id).elim [] MediaParticipant.latestFrame) else none := by
  unfold voice speaks snapshotFrame
  cases participants.lookup id with
  | none => rfl
  | some participant =>
    have same : (!participant.muted && !locked id && decide (participant.latestFrame ≠ [])) = true ↔
        ¬ (participant.muted = true ∨ locked id = true ∨ participant.latestFrame = []) := by
      simp [not_or, and_assoc]
    simp only [bind_some, any_some, elim_some, same, ite_not]

theorem heard_takenFrames (receiver : ParticipantId) (order : List ParticipantId) :
    heard receiver (takenFrames participants locked order) =
      order.filterMap fun id => if id = receiver then none else voice participants locked id := by
  rw [heard, takenFrames, filterMap_filterMap]
  congr
  funext id
  rw [voice]
  cases participants.lookup id <;> simp

/-- The samples that are heard, summed up over the speakers. -/
theorem sum_heard {receiver : ParticipantId} {order : List ParticipantId}
    (enumerated : order.Perm participants.keys) (index : Nat) :
    ((heard receiver (takenFrames participants locked order)).map fun frame =>
        (frame.getD index 0).toInt).sum =
      ∑ id ∈ participants.keys.toFinset with id ≠ receiver ∧ speaks participants locked id,
        sampleAt participants id index := by
  have term (id : ParticipantId) :
      ((if id = receiver then none else voice participants locked id).elim 0 fun frame =>
        (frame.getD index 0).toInt) = if id ≠ receiver ∧ speaks participants locked id then
        sampleAt participants id index else 0 := by
    rw [voice_eq]
    by_cases own : id = receiver
    · rw [if_pos own, if_neg fun both => both.1 own, elim_none]
    · by_cases speaking : speaks participants locked id = true
      · rw [if_neg own, if_pos speaking, if_pos ⟨own, speaking⟩, elim_some, sampleAt]
      · rw [if_neg own, if_neg speaking, if_neg fun both => speaking both.2, elim_none]
  rw [heard_takenFrames, sum_map_filterMap, Finset.sum_filter,
    sum_toFinset _ participants.keys_nodup, funext term]
  exact (enumerated.map _).sum_eq

end Room

/-- What a tick sends to a receiver, whatever the order of the participants: each sample is the
sum of the others that speak, clamped to sixteen bits, and no sum of 32 bits overflows. It depends
on nothing but what is taken of the others. -/
theorem mixForReceiver_eq_sum {participants : AList fun _ : ParticipantId => MediaParticipant}
    {locked : ParticipantId → Bool} {order : List ParticipantId} (receiver : ParticipantId)
    (few : participants.keys.length ≤ 65535) (enumerated : order.Perm participants.keys) :
    let mixed := mixForReceiver receiver (takenFrames participants locked order)
    mixForReceiverChecked receiver (takenFrames participants locked order) = some mixed ∧
    mixed.length = 160 ∧
    (∀ index < 160, (mixed.getD index 0).toInt = max (-32768) (min 32767
      (∑ id ∈ participants.keys.toFinset with id ≠ receiver ∧ speaks participants locked id,
        sampleAt participants id index))) ∧
    ∀ (participants' : AList fun _ : ParticipantId => MediaParticipant)
      (locked' : ParticipantId → Bool) (order' : List ParticipantId), order'.Perm order →
      (∀ id ∈ order, id ≠ receiver →
        voice participants' locked' id = voice participants locked id) →
      mixForReceiver receiver (takenFrames participants' locked' order') = mixed := by
  have short (participants : AList fun _ : ParticipantId => MediaParticipant)
      (locked : ParticipantId → Bool) {entries : List ParticipantId} (perm : entries.Perm order) :
      (takenFrames participants locked entries).length ≤ 65535 :=
    (List.length_filterMap_le _ _).trans ((perm.trans enumerated).length_eq.trans_le few)
  obtain ⟨checked, length, exact⟩ := mixForReceiver_spec (short participants locked .rfl)
  refine ⟨checked, length, fun index inside => ?_, ?_⟩
  · rw [exact index inside, sum_heard enumerated]
  · intro participants' locked' order' perm same
    refine mixForReceiver_congr (short _ _ .rfl) (short _ _ perm) ?_
    rw [heard_takenFrames, heard_takenFrames]
    refine (perm.filterMap _).trans (.of_eq (List.filterMap_congr fun id member => ?_))
    by_cases own : id = receiver
    · rw [if_pos own, if_pos own]
    · rw [if_neg own, if_neg own, same id member own]

/-- A room of two, of whom one speaks. -/
def twoParticipants : AList fun _ : ParticipantId => MediaParticipant :=
  (AList.singleton 0 (.joined ⟨40000, .pcmu, 0, some 101, false, none⟩ 0 0 0)).insert 1
    { MediaParticipant.joined ⟨40001, .pcma, 8, none, false, none⟩ 0 0 0 with
      latestFrame := List.replicate samplesPerFrame 7 }

theorem mixForReceiver_eq_sum_two : [0, 1].Perm twoParticipants.keys ∧
    (mixForReceiver 0 (takenFrames twoParticipants (fun _ => false) [0, 1])).length = 160 :=
  ⟨by decide, (mixForReceiver_eq_sum 0 (by decide) (by decide)).2.1⟩

end Sip3.Mixer

namespace Sip3.G711

/-- A result of sixteen bits, in a build with overflow checks. -/
def fit16 (exact : Int) : Option Int16 :=
  if -2 ^ 15 ≤ exact ∧ exact < 2 ^ 15 then some (.ofInt exact) else none

/-- A shift by an amount that has to be smaller than the number of bits. -/
def shifted (shift : Int16 → Int16 → Int16) (value : Int16) (amount : Nat) : Option Int16 :=
  if amount < 16 then some (shift value (.ofNat amount)) else none

/-- `ulaw_to_linear` with overflow checks. -/
def ulawToLinearChecked (ulaw : UInt8) : Option Int16 := do
  let u := ~~~ulaw
  let exponent := (u >>> 4) &&& 0x07
  let mantissa ← shifted (· <<< ·) (Int16.ofNat (u &&& 0x0F).toNat) 3
  let magnitude ← shifted (· <<< ·) (mantissa ||| 0x84) exponent.toNat
  let sample ← fit16 (magnitude.toInt - bias.toInt)
  if u &&& 0x80 = 0 then return sample else fit16 (-sample.toInt)

/-- `alaw_to_linear` with overflow checks. -/
def alawToLinearChecked (alaw : UInt8) : Option Int16 := do
  let a := alaw ^^^ 0x55
  let exponent := (a >>> 4) &&& 0x07
  let mantissa ← shifted (· <<< ·) (Int16.ofNat (a &&& 0x0F).toNat) 4
  let magnitude ← if exponent = 0 then some (mantissa ||| 0x08)
    else shifted (· <<< ·) (mantissa ||| 0x108) (exponent.toNat - 1)
  if a &&& 0x80 = 0 then fit16 (-magnitude.toInt) else return magnitude

/-- The end of both encoders. The loop before it only lowers an exponent that is positive. -/
def segmentBitsChecked (pcm : Int16) : Option UInt8 := do
  let exponent := segment pcm 7 0x4000
  let mantissa ← shifted (· >>> ·) pcm (exponent + 3)
  return UInt8.ofNat exponent <<< 4 ||| (mantissa &&& 0x0F).toInt8.toUInt8

/-- `linear_to_ulaw` with overflow checks. -/
def linearToUlawChecked (pcm : Int16) : Option UInt8 := do
  let sign : UInt8 := if pcm < 0 then 0x80 else 0
  let magnitude ← if pcm < 0 then
      (fit16 (-(saturatingAdd pcm 0).toInt)).map fun negated =>
        if negated < 0 then Int16.maxValue else negated
    else some pcm
  let clipped := if magnitude > clip then clip else magnitude
  let bits ← segmentBitsChecked (saturatingAdd clipped bias)
  return ~~~(sign ||| bits)

/-- The exponent and the mantissa that `linear_to_alaw` writes, with overflow checks. -/
def alawBitsChecked (clipped : Int16) : Option UInt8 :=
  if clipped < 256 then
    (shifted (· >>> ·) clipped 4).map fun high => (high &&& 0x0F).toInt8.toUInt8
  else segmentBitsChecked clipped

/-- `linear_to_alaw` with overflow checks. -/
def linearToAlawChecked (pcm : Int16) : Option UInt8 := do
  let negated := saturatingNeg pcm
  let sign : UInt8 := if pcm < 0 then 0 else 0x80
  let magnitude := if pcm < 0 then (if negated < 0 then Int16.maxValue else negated) else pcm
  let clipped := if magnitude > clip then clip else magnitude
  let alaw ← alawBitsChecked clipped
  return (alaw ||| sign) ^^^ 0x55

/-- `encode_ulaw` and `encode_alaw` with overflow checks. -/
def encodeChecked : Codec → List Int16 → Option (List UInt8)
  | .pcmu => List.mapM linearToUlawChecked
  | .pcma => List.mapM linearToAlawChecked

/-- `decode_ulaw` and `decode_alaw` with overflow checks. -/
def decodeChecked : Codec → List UInt8 → Option (List Int16)
  | .pcmu => List.mapM ulawToLinearChecked
  | .pcma => List.mapM alawToLinearChecked

/-- Decoding never overflows. -/
theorem toLinearChecked_eq (byte : UInt8) : ulawToLinearChecked byte = some (ulawToLinear byte) ∧
    alawToLinearChecked byte = some (alawToLinear byte) := by
  have all : ∀ value : Fin 256,
      ulawToLinearChecked (.ofNat value) = some (ulawToLinear (.ofNat value)) ∧
      alawToLinearChecked (.ofNat value) = some (alawToLinear (.ofNat value)) := by
    decide +kernel
  have here := all ⟨byte.toNat, byte.toNat_lt⟩
  rwa [UInt8.ofNat_toNat] at here

theorem segment_le (pcm : Int16) (exponent : Nat) (mask : Int16) :
    segment pcm exponent mask ≤ exponent := by
  induction exponent generalizing mask with
  | zero => exact Nat.le_refl _
  | succ exponent ih =>
    rw [segment]
    split
    · exact (ih _).trans (Nat.le_succ _)
    · exact Nat.le_refl _

theorem segmentBitsChecked_eq (pcm : Int16) : segmentBitsChecked pcm = some (segmentBits pcm) := by
  have small := segment_le pcm 7 0x4000
  simp only [segmentBitsChecked, shifted, if_pos (by omega : segment pcm 7 0x4000 + 3 < 16)]
  rfl

theorem saturatingAdd_zero (pcm : Int16) : saturatingAdd pcm 0 = pcm := by
  have low := pcm.le_toInt
  have high := pcm.toInt_lt
  have zero : (0 : Int16).toInt = 0 := rfl
  rw [saturatingAdd, zero, show max (-32768) (min 32767 (pcm.toInt + 0)) = pcm.toInt by omega,
    Int16.ofInt_toInt]

theorem fit16_neg (pcm : Int16) :
    fit16 (-pcm.toInt) = if pcm = -32768 then none else some (-pcm) := by
  have low := pcm.le_toInt
  have high := pcm.toInt_lt
  have least : pcm = -32768 ↔ pcm.toInt = -32768 := Int16.toInt_inj.symm
  rw [fit16]
  by_cases smallest : pcm.toInt = -32768
  · rw [if_neg (by omega), if_pos (least.mpr smallest)]
  · rw [if_pos (by omega), if_neg (mt least.mp smallest), Int16.ofInt_neg, Int16.ofInt_toInt]

/-- The negation that `linear_to_ulaw` makes overflows for the smallest sample only. -/
theorem linearToUlawChecked_eq (pcm : Int16) :
    linearToUlawChecked pcm = if pcm = -32768 then none else some (linearToUlaw pcm) := by
  simp only [linearToUlawChecked, linearToUlaw, saturatingAdd_zero, fit16_neg,
    segmentBitsChecked_eq]
  by_cases negative : pcm < 0
  · simp only [if_pos negative]
    by_cases smallest : pcm = -32768
    · rw [if_pos smallest, if_pos smallest]
      rfl
    · rw [if_neg smallest, if_neg smallest]
      rfl
  · have other : pcm ≠ -32768 := fun smallest => negative (smallest ▸ by decide)
    simp only [if_neg negative, if_neg other]
    rfl

theorem linearToAlawChecked_eq (pcm : Int16) :
    linearToAlawChecked pcm = some (linearToAlaw pcm) := by
  have bits (clipped : Int16) : alawBitsChecked clipped =
      some (if clipped < 256 then ((clipped >>> 4) &&& 0x0F).toInt8.toUInt8
        else segmentBits clipped) := by
    rw [alawBitsChecked, segmentBitsChecked_eq]
    split <;> rfl
  simp only [linearToAlawChecked, bits]
  rfl

variable {α β : Type} {checked : α → Option β} {items : List α}

/-- Codes of a list in a build with overflow checks. -/
theorem mapM_eq_some_map {plain : α → β} (fits : ∀ item ∈ items, checked item = some (plain item)) :
    items.mapM checked = some (items.map plain) := by
  induction items with
  | nil => rfl
  | cons item items ih =>
    rw [List.mapM_cons, fits item (.head _), ih fun item member => fits item (.tail _ member)]
    rfl

theorem mapM_eq_none {item : α} (member : item ∈ items) (panics : checked item = none) :
    items.mapM checked = none := by
  induction member with
  | head items =>
    rw [List.mapM_cons, panics]
    rfl
  | tail first later ih =>
    rw [List.mapM_cons, ih]
    cases checked first <;> rfl

theorem decodeChecked_eq (codec : Codec) (payload : List UInt8) :
    decodeChecked codec payload = some (decode codec payload) := by
  cases codec with
  | pcmu => exact mapM_eq_some_map fun byte _ => (toLinearChecked_eq byte).1
  | pcma => exact mapM_eq_some_map fun byte _ => (toLinearChecked_eq byte).2

theorem encodeChecked_eq (codec : Codec) (frame : List Int16) :
    encodeChecked codec frame =
      if codec = .pcmu ∧ -32768 ∈ frame then none else some (encode codec frame) := by
  cases codec with
  | pcmu =>
    split
    · next panics =>
      exact mapM_eq_none panics.2 ((linearToUlawChecked_eq _).trans (if_pos rfl))
    · next fits =>
      refine mapM_eq_some_map fun sample member => (linearToUlawChecked_eq sample).trans (if_neg ?_)
      rintro rfl
      exact fits ⟨rfl, member⟩
  | pcma =>
    rw [if_neg fun both => nomatch both.1]
    exact mapM_eq_some_map fun sample _ => linearToAlawChecked_eq sample

end Sip3.G711

namespace Sip3.Mixer

/-- What the mixer holds of the participants: nothing, or the frame of a payload and a codec. -/
def inboundFrames (inbound : List (ParticipantId × Option (Codec × Packet))) :
    List (ParticipantId × Option Frame) :=
  inbound.map fun entry =>
    (entry.1, entry.2.map fun sent => fitFrame (G711.decode sent.1 sent.2))

/-- The way of payloads through the decoders, the mixer and an encoder, with overflow checks. -/
def mixAndEncodeChecked (receiver : ParticipantId) (codec : Codec)
    (inbound : List (ParticipantId × Option (Codec × Packet))) : Option Packet := do
  let frames ← inbound.mapM fun entry =>
    match entry.2 with
    | none => some (entry.1, none)
    | some (codec, payload) =>
      (G711.decodeChecked codec payload).map fun pcm => (entry.1, some (fitFrame pcm))
  let mixed ← mixForReceiverChecked receiver frames
  G711.encodeChecked codec mixed

/-- Nothing overflows on the way from the payloads to a packet, except that the μ-law encoder
negates a mixed sample that is the smallest of its type. -/
theorem mixAndEncodeChecked_isSome_iff {inbound : List (ParticipantId × Option (Codec × Packet))}
    (few : inbound.length ≤ 65535) (receiver : ParticipantId) (codec : Codec) :
    (mixAndEncodeChecked receiver codec inbound).isSome ↔
      codec = .pcma ∨ -32768 ∉ mixForReceiver receiver (inboundFrames inbound) := by
  have decoded : (inbound.mapM fun entry => match entry.2 with
      | none => some (entry.1, none)
      | some (codec, payload) =>
        (G711.decodeChecked codec payload).map fun pcm => (entry.1, some (fitFrame pcm))) =
      some (inboundFrames inbound) := by
    refine G711.mapM_eq_some_map ?_
    rintro ⟨id, - | ⟨codec, payload⟩⟩ -
    · rfl
    · simp only [G711.decodeChecked_eq]
      rfl
  have mixed := (@mixForReceiver_spec receiver (inboundFrames inbound)
    (by rwa [inboundFrames, List.length_map])).1
  rw [mixAndEncodeChecked, decoded, Option.bind_eq_bind, Option.bind_some, mixed,
    Option.bind_eq_bind, Option.bind_some, G711.encodeChecked_eq]
  cases codec <;> simp

/-- A quiet room, for a receiver with either codec. -/
theorem mixAndEncodeChecked_isSome_iff_quiet :
    (mixAndEncodeChecked 0 .pcma [(0, none), (1, some (.pcmu, [0xFF]))]).isSome ∧
      (mixAndEncodeChecked 0 .pcmu [(0, none), (1, some (.pcmu, [0xFF]))]).isSome :=
  ⟨(mixAndEncodeChecked_isSome_iff (by decide) 0 .pcma).mpr (.inl rfl),
    (mixAndEncodeChecked_isSome_iff (by decide) 0 .pcmu).mpr (.inr (by decide +kernel))⟩

/-- Two loud participants make the encoder of a third one panic. -/
theorem mixAndEncodeChecked_panics :
    mixAndEncodeChecked 0 .pcmu [(0, none), (1, some (.pcmu, [0])), (2, some (.pcmu, [0]))] =
      none := by
  decide +kernel

end Sip3.Mixer
