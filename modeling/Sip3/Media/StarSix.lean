import Mathlib.Logic.Function.Iterate
import Sip3.Media.Mixer

/-!
# Muting with `*6`

A participant presses keys with telephone-event packets and with INFO requests. The end of an
event is sent several times with one timestamp and counts once. A `*` that is followed by a `6`
in time turns the mute flag over.
-/

namespace Sip3.Mixer

open MediaParticipant

/-- A telephone-event packet with its payload, or a digit of an INFO request. -/
inductive Press where
  | packet (packet payload : Packet)
  | info (digit : Nat)

/-- What a press does to a participant: `handle_dtmf_packet` or `record_dtmf_for`. -/
def MediaParticipant.press (participant : MediaParticipant) (timed : Press × Nat) :
    MediaParticipant :=
  match timed.1 with
  | .packet packet payload => handleDtmfPacket participant packet payload timed.2
  | .info digit =>
    { participant with toParticipant := (participant.recordDtmf digit timed.2).2 }

/-- A packet that marks the end of an event with another timestamp than the last one. -/
def Counts (last : Option UInt32) (packet payload : Packet) : Prop :=
  4 ≤ payload.length ∧ byteAt payload 1 &&& 0x80 ≠ 0 ∧ last ≠ some (rtpTimestamp packet)

instance (last : Option UInt32) (packet payload : Packet) :
    Decidable (Counts last packet payload) :=
  inferInstanceAs (Decidable (_ ∧ _))

/-- The timestamp of the last packet that counted. -/
def lastCounted : Option UInt32 → List (Press × Nat) → Option UInt32
  | last, [] => last
  | last, (.packet packet payload, _) :: rest =>
    lastCounted (if Counts last packet payload then some (rtpTimestamp packet) else last) rest
  | last, (.info _, _) :: rest => lastCounted last rest

/-- The digits that count, with their times: those of the packets that count and all of INFO. -/
def acceptedDigits : Option UInt32 → List (Press × Nat) → List (Nat × Nat)
  | _, [] => []
  | last, (.packet packet payload, now) :: rest =>
    if Counts last packet payload then
      ((byteAt payload 0 &&& 0x0F).toNat, now) :: acceptedDigits (some (rtpTimestamp packet)) rest
    else acceptedDigits last rest
  | last, (.info digit, now) :: rest => (digit, now) :: acceptedDigits last rest

/-- A `*` and a `6` less than three seconds later. -/
def starSix (first second : Nat × Nat) : Bool :=
  decide (first.1 = 10 ∧ second.1 = 6 ∧ second.2 - first.2 < 3000000000)

/-- The number of places where a `6` follows a `*` at once and in time. -/
def starSixes (digits : List (Nat × Nat)) : Nat :=
  (digits.zip digits.tail).countP fun pair => starSix pair.1 pair.2

theorem starSixes_cons_cons (first second : Nat × Nat) (rest : List (Nat × Nat)) :
    starSixes (first :: second :: rest) =
      starSixes (second :: rest) + if starSix first second then 1 else 0 := by
  rw [starSixes, List.tail_cons, List.zip_cons_cons, List.countP_cons]
  rfl

/-- A digit other than `*` at the front does not matter. -/
theorem starSixes_cons {first : Nat × Nat} (other : first.1 ≠ 10) (rest : List (Nat × Nat)) :
    starSixes (first :: rest) = starSixes rest := by
  cases rest with
  | nil => rfl
  | cons second rest =>
    have none : starSix first second = false := decide_eq_false fun both => other both.1
    rw [starSixes_cons_cons, none]
    rfl

section Digit

variable {participant : Participant} {digit now : Nat} {later : List (Nat × Nat)}

/-- One digit keeps the count of what is to come. -/
theorem recordDtmf_starSixes :
    let after := (participant.recordDtmf digit now).2
    Bool.not^[starSixes (participant.lastDigit.toList ++ (digit, now) :: later)] participant.muted =
      Bool.not^[starSixes (after.lastDigit.toList ++ later)] after.muted := by
  have recent : participant.lastDigit.any (fun last =>
      decide (last.1 = 10 ∧ now - last.2 < star6Timeout)) ∧ digit = 6 ↔
      participant.lastDigit.any (fun last => starSix last (digit, now)) := by
    cases participant.lastDigit with
    | none => simp
    | some last =>
      simp only [Option.any_some, starSix, decide_eq_true_eq]
      exact ⟨fun ⟨⟨star, soon⟩, six⟩ => ⟨star, six, soon⟩,
        fun ⟨star, six, soon⟩ => ⟨⟨star, soon⟩, six⟩⟩
  rw [Participant.recordDtmf]
  simp only [recent]
  cases last : participant.lastDigit with
  | none => rfl
  | some last =>
    simp only [Option.any_some, Option.toList_some, List.cons_append, List.nil_append,
      starSixes_cons_cons]
    split
    · next turned =>
      have six : digit = 6 := (of_decide_eq_true turned).2.1
      rw [starSixes_cons (by omega), Function.iterate_succ_apply]
      rfl
    · rfl

end Digit

theorem handleDtmfPacket_eq (participant : MediaParticipant) (packet payload : Packet) (now : Nat) :
    handleDtmfPacket participant packet payload now =
      if Counts participant.lastEventTs packet payload then
        { participant with
          toParticipant := (participant.recordDtmf (byteAt payload 0 &&& 0x0F).toNat now).2
          lastEventTs := some (rtpTimestamp packet) }
      else participant := by
  rw [handleDtmfPacket]
  by_cases short : payload.length < 4
  · rw [if_pos short, if_neg fun counts => Nat.not_le.mpr short counts.1]
  · rw [if_neg short]
    by_cases ignored : byteAt payload 1 &&& 0x80 = 0 ∨
        participant.lastEventTs = some (rtpTimestamp packet)
    · rw [if_pos ignored, if_neg fun counts => ignored.elim counts.2.1 counts.2.2]
    · rw [if_neg ignored, if_pos ⟨Nat.not_lt.mp short, not_or.mp ignored⟩]

/-- The mute flag after a number of presses. -/
theorem muted_foldl_press (presses : List (Press × Nat)) (participant : MediaParticipant) :
    (presses.foldl press participant).muted =
      Bool.not^[starSixes (participant.lastDigit.toList ++
        acceptedDigits participant.lastEventTs presses)] participant.muted := by
  induction presses generalizing participant with
  | nil =>
    rw [acceptedDigits, List.append_nil]
    cases participant.lastDigit <;> rfl
  | cons timed rest ih =>
    obtain ⟨press, now⟩ := timed
    rw [List.foldl_cons, ih]
    cases press with
    | info digit => exact recordDtmf_starSixes.symm
    | packet packet payload =>
      rw [acceptedDigits, press]
      dsimp only
      rw [handleDtmfPacket_eq]
      split
      · exact recordDtmf_starSixes.symm
      · rfl

theorem lastEventTs_foldl_press (presses : List (Press × Nat)) (participant : MediaParticipant) :
    (presses.foldl press participant).lastEventTs =
      lastCounted participant.lastEventTs presses := by
  induction presses generalizing participant with
  | nil => rfl
  | cons timed rest ih =>
    obtain ⟨press, now⟩ := timed
    rw [List.foldl_cons, ih]
    cases press with
    | info digit => rfl
    | packet packet payload =>
      rw [lastCounted, press]
      dsimp only
      rw [handleDtmfPacket_eq]
      split <;> rfl

/-- A participant who has joined, after any presses: the mute flag was turned over once for each
`*` that a `6` followed in time, and a packet that repeats the last timestamp changes nothing. -/
theorem muted_presses (participant : Participant) (outSeq : UInt16) (outTs outSsrc : UInt32) :
    let joined :=
      MediaParticipant.joined { participant with lastDigit := none } outSeq outTs outSsrc
    (∀ presses : List (Press × Nat), (presses.foldl MediaParticipant.press joined).muted =
      Bool.not^[starSixes (acceptedDigits none presses)] participant.muted) ∧
    ∀ (front back : List (Press × Nat)) (packet payload : Packet) (now : Nat),
      lastCounted none front = some (rtpTimestamp packet) →
      (front ++ (.packet packet payload, now) :: back).foldl MediaParticipant.press joined =
        (front ++ back).foldl MediaParticipant.press joined := by
  refine ⟨fun presses => muted_foldl_press presses _, ?_⟩
  intro front back packet payload now repeated
  rw [List.foldl_append, List.foldl_append, List.foldl_cons, MediaParticipant.press]
  dsimp only
  rw [handleDtmfPacket_eq, if_neg]
  rintro ⟨-, -, fresh⟩
  exact fresh ((lastEventTs_foldl_press front _).trans repeated)

/-- A `*` and a `6` whose end is sent twice. -/
theorem muted_presses_repeated :
    let star : Press × Nat := (.packet [0x80, 101, 0, 1, 0, 0, 0, 1] [10, 0x80, 0, 0], 0)
    let six : Press × Nat := (.packet [0x80, 101, 0, 2, 0, 0, 0, 2] [6, 0x80, 0, 0], 1000000000)
    let joined := MediaParticipant.joined ⟨40000, .pcmu, 0, some 101, false, none⟩ 0 0 0
    ([star, six, six].foldl MediaParticipant.press joined).muted = true ∧
      [star, six, six].foldl MediaParticipant.press joined =
        [star, six].foldl MediaParticipant.press joined := by
  have result := muted_presses ⟨40000, .pcmu, 0, some 101, false, none⟩ 0 0 0
  refine ⟨(result.1 _).trans (by decide), ?_⟩
  exact result.2 [_, _] [] [0x80, 101, 0, 2, 0, 0, 0, 2] [6, 0x80, 0, 0] 1000000000 (by decide)

end Sip3.Mixer
