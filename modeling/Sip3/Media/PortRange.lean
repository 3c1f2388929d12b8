import Sip3.Media.PortSearch
import Sip3.Semantics.Trace
import Sip3.Text.Str

/-!
# The search for a port of a range

`bind_socket` of the voicemail and of the conference media look for a free port of a range. Both
draw numbers from a counter that all calls share, and between any two steps of a call others may
draw from it. The voicemail draws once and steps through the range from there, so it tries every
port. The conference draws for each attempt and takes remainders by a length that leaves the last
port out: that port is never tried, and others that draw in between make it skip ports.
-/

namespace Sip3.PortRange

open Semantics Text List Nat

/-- Where a call is: before its first step, in its loop, or done. A sum that does not fit its
type panics. -/
inductive Phase (Loop : Type) where
  | called
  | searching (loop : Loop)
  | bound (port : Nat)
  | failed (message : Str)
  | overflowed
  deriving DecidableEq

/-- A call, with the counter it shares, the ports it tried in turn, and whether each was free. -/
structure Search (Loop : Type) where
  counter : UInt32
  tried : List (Nat × Bool)
  phase : Phase Loop
  deriving DecidableEq

/-- What happens next: another call draws from the counter, this call is made, or it tries to
bind its next port, which is free or not. -/
inductive Event where
  | other
  | call
  | attempt (free : Bool)
  deriving DecidableEq

/-- A call that is about to be made. -/
def Search.initial {Loop : Type} (counter : UInt32) : Search Loop :=
  ⟨counter, [], .called⟩

/-- The call returned an error. -/
def Search.Failed {Loop : Type} (search : Search Loop) : Prop :=
  ∃ message, search.phase = .failed message

/-- Every port from one to another, both included, was tried and refused. -/
def Search.Refused {Loop : Type} (search : Search Loop) (portMin portMax : Nat) : Prop :=
  ∀ port, portMin ≤ port → port ≤ portMax → (port, false) ∈ search.tried

/-- The end of a message, with the two ends of a range. -/
def showRange (portMin portMax : UInt16) : Str :=
  (Nat.repr portMin.toNat).toList ++ '-' :: (Nat.repr portMax.toNat).toList

/-- What an attempt adds: the port was bound, or the loop goes on for as long as there are
attempts left. -/
def Search.record {Loop : Type} (search : Search Loop) (port : Nat) (free : Bool)
    (next : Option Loop) (message : Str) : Search Loop :=
  { search with
    tried := search.tried ++ [(port, free)]
    phase := if free then .bound port else
      match next with
      | some loop => .searching loop
      | none => .failed message }

/-- The first attempts of a search, all refused. -/
def refusals (portAt : Nat → Nat) (count : Nat) : List (Nat × Bool) :=
  (List.range count).map fun attempt => (portAt attempt, false)

theorem refusals_succ (portAt : Nat → Nat) (count : Nat) :
    refusals portAt (count + 1) = refusals portAt count ++ [(portAt count, false)] := by
  rw [refusals, refusals, range_succ, map_append]
  rfl

section Voicemail

/-- The loop of the voicemail: the offset it starts from, and the index of the attempt. -/
structure Walk where
  start : Nat
  attempt : Nat
  deriving DecidableEq

/-- `bind_socket` of `voicemail_media.rs`. -/
def Search.stepVoicemail (minPort maxPort : UInt16) (search : Search Walk) :
    Event → Option (Search Walk)
  | .other => some { search with counter := search.counter + 1 }
  | .call =>
    if search.phase = .called then
      if minPort.toNat = 0 then
        some { search with
          phase := .failed "voicemail RTP port range cannot start at 0".toList }
      else if minPort.toNat > maxPort.toNat then
        some { search with
          phase := .failed ("voicemail RTP port range is invalid: ".toList ++
            showRange minPort maxPort) }
      else
        let range := maxPort.toNat - minPort.toNat + 1
        some { search with
          counter := search.counter + 1
          phase := .searching ⟨search.counter.toNat % range, 0⟩ }
    else none
  | .attempt free =>
    match search.phase with
    | .searching ⟨start, attempt⟩ =>
      let range := maxPort.toNat - minPort.toNat + 1
      if start + attempt < 2 ^ 32 then
        let offset := (start + attempt) % range
        let port := minPort.toNat + offset
        if port < 2 ^ 32 then
          some (search.record port free
            (if attempt + 1 < range then some ⟨start, attempt + 1⟩ else none)
            ("no available voicemail RTP port in range ".toList ++ showRange minPort maxPort))
        else some { search with phase := .overflowed }
      else some { search with phase := .overflowed }
    | _ => none

/-- The port at a distance from the start, around the range. -/
def portAround (minPort maxPort start attempt : Nat) : Nat :=
  minPort + (start + attempt) % (maxPort - minPort + 1)

/-- What a search has tried in a phase. -/
def Walked (minPort maxPort : Nat) (tried : List (Nat × Bool)) : Phase Walk → Prop
  | .called => tried = []
  | .searching ⟨start, attempt⟩ => start < maxPort - minPort + 1 ∧
      attempt < maxPort - minPort + 1 ∧ tried = refusals (portAround minPort maxPort start) attempt
  | .bound port => ∃ start attempt, attempt < maxPort - minPort + 1 ∧
      port = portAround minPort maxPort start attempt ∧
      tried = refusals (portAround minPort maxPort start) attempt ++ [(port, true)]
  | .failed _ => ∃ start,
      tried = refusals (portAround minPort maxPort start) (maxPort - minPort + 1)
  | .overflowed => False

variable {minPort maxPort : UInt16} {before after : Search Walk} {event : Event}

/-- One step keeps to the walk around the range. -/
theorem walked_step (lower : 1 ≤ minPort.toNat) (ordered : minPort.toNat ≤ maxPort.toNat)
    (taken : before.stepVoicemail minPort maxPort event = some after)
    (walked : Walked minPort.toNat maxPort.toNat before.tried before.phase) :
    Walked minPort.toNat maxPort.toNat after.tried after.phase := by
  have small := maxPort.toNat_lt
  obtain ⟨counter, tried, phase⟩ := before
  cases event with
  | other =>
    cases taken
    exact walked
  | call =>
    simp only [Search.stepVoicemail] at taken
    split at taken
    case isFalse => cases taken
    case isTrue fresh =>
      rw [if_neg (by omega), if_neg (by omega)] at taken
      cases taken
      subst fresh
      exact ⟨Nat.mod_lt _ (succ_pos _), succ_pos _, walked⟩
  | attempt free =>
    simp only [Search.stepVoicemail] at taken
    split at taken
    case h_2 => cases taken
    case h_1 start attempt =>
      obtain ⟨startBelow, below, walked⟩ := walked
      have offset : (start + attempt) % (maxPort.toNat - minPort.toNat + 1) < _ :=
        Nat.mod_lt _ (succ_pos _)
      rw [if_pos (by omega), if_pos (by omega)] at taken
      cases taken
      subst walked
      cases free with
      | true => exact ⟨start, attempt, below, rfl, rfl⟩
      | false =>
        have grown := refusals_succ (portAround minPort.toNat maxPort.toNat start) attempt
        by_cases more : attempt + 1 < maxPort.toNat - minPort.toNat + 1
        · simp only [Search.record, if_pos more]
          exact ⟨startBelow, more, grown.symm⟩
        · simp only [Search.record, if_neg more]
          have last : maxPort.toNat - minPort.toNat + 1 = attempt + 1 := by omega
          have whole := congrArg (refusals (portAround minPort.toNat maxPort.toNat start)) last
          exact ⟨start, grown.symm.trans whole.symm⟩

/-- The ports a search tried are the first ones around the range from some start. -/
theorem Walked.ports {minPort maxPort : Nat} {tried : List (Nat × Bool)} {phase : Phase Walk}
    (walked : Walked minPort maxPort tried phase) :
    ∃ start count, count ≤ maxPort - minPort + 1 ∧
      tried.map Prod.fst = (range count).map (portAround minPort maxPort start) := by
  have refused (start count : Nat) :
      (refusals (portAround minPort maxPort start) count).map Prod.fst =
        (range count).map (portAround minPort maxPort start) := by
    rw [refusals, map_map]
    rfl
  cases phase with
  | called => exact ⟨0, 0, zero_le _, by rw [show tried = [] from walked]; rfl⟩
  | searching loop =>
    obtain ⟨-, below, same⟩ := walked
    exact ⟨loop.start, loop.attempt, below.le, by rw [same, refused]⟩
  | bound port =>
    obtain ⟨start, attempt, below, rfl, same⟩ := walked
    refine ⟨start, attempt + 1, below, ?_⟩
    rw [same, map_append, refused, range_succ, map_append]
    rfl
  | failed message =>
    obtain ⟨start, same⟩ := walked
    exact ⟨start, _, le_rfl, by rw [same, refused]⟩
  | overflowed => exact walked.elim

/-- No two attempts of a round around the range reach the same port. -/
theorem nodup_portAround {minPort maxPort start count : Nat}
    (round : count ≤ maxPort - minPort + 1) :
    ((range count).map (portAround minPort maxPort start)).Nodup := by
  refine List.Nodup.map_on ?_ nodup_range
  intro first firstBelow second secondBelow same
  rw [mem_range] at firstBelow secondBelow
  have alike : start + first ≡ start + second [MOD maxPort - minPort + 1] :=
    add_left_cancel same
  exact alike.add_left_cancel'.eq_of_lt_of_lt (by omega) (by omega)

/-- A full round around the range reaches every port of it. -/
theorem mem_refusals {minPort maxPort start port : Nat} (above : minPort ≤ port)
    (below : port ≤ maxPort) :
    (port, false) ∈ refusals (portAround minPort maxPort start) (maxPort - minPort + 1) := by
  obtain ⟨attempt, inside, reached⟩ := PortSearch.exists_step start (port - minPort)
    (by omega : port - minPort < maxPort - minPort + 1)
  refine mem_map.mpr ⟨attempt, mem_range.mpr inside, ?_⟩
  rw [portAround, reached, add_sub_of_le above]

/-- Whatever others draw and wherever the counter stands, a call of the voicemail tries ports of
its range only, one after another around it and none twice, computes nothing that does not fit,
and fails only when each port of the range was refused. -/
theorem voicemail_bindSocket_exhaustive {minPort maxPort : UInt16} {counter : UInt32}
    {events : List Event} {search : Search Walk} (lower : 1 ≤ minPort.toNat)
    (ordered : minPort.toNat ≤ maxPort.toNat)
    (run : Trace (Search.stepVoicemail minPort maxPort) (.initial counter) events search) :
    (∃ start, search.tried.map Prod.fst = (List.range search.tried.length).map
      (portAround minPort.toNat maxPort.toNat start)) ∧
    (search.tried.map Prod.fst).Nodup ∧
    (∀ port ∈ search.tried.map Prod.fst, minPort.toNat ≤ port ∧ port ≤ maxPort.toNat) ∧
    search.phase ≠ .overflowed ∧
    (search.Failed → search.Refused minPort.toNat maxPort.toNat) := by
  have walked : Walked minPort.toNat maxPort.toNat search.tried search.phase :=
    run.invariant (walked_step lower ordered) rfl
  obtain ⟨start, count, round, ports⟩ := walked.ports
  have length : search.tried.length = count := by
    rw [← List.length_map (f := Prod.fst), ports, List.length_map, List.length_range]
  refine ⟨⟨start, length.symm ▸ ports⟩, ports ▸ nodup_portAround round, ?_, ?_, ?_⟩
  · intro port member
    rw [ports] at member
    obtain ⟨attempt, -, rfl⟩ := List.mem_map.mp member
    have : (start + attempt) % (maxPort.toNat - minPort.toNat + 1) < _ :=
      Nat.mod_lt _ (Nat.succ_pos _)
    simp only [portAround]
    omega
  · intro overflowed
    rw [overflowed] at walked
    exact walked
  · rintro ⟨message, failed⟩ port above below
    rw [failed] at walked
    obtain ⟨first, same⟩ := walked
    exact same ▸ mem_refusals above below

/-- Three ports that are all taken, with the counter about to wrap around and another call in
between. -/
theorem voicemail_bindSocket_exhaustive_taken : ∃ search : Search Walk,
    playTrace (Search.stepVoicemail 20000 20002) (.initial 4294967295)
      [.call, .attempt false, .other, .attempt false, .attempt false] = some search ∧
    search.Failed ∧ search.Refused 20000 20002 := by
  have played : playTrace (Search.stepVoicemail 20000 20002) (.initial 4294967295)
      [.call, .attempt false, .other, .attempt false, .attempt false] =
      some ⟨1, [(20000, false), (20001, false), (20002, false)],
        .failed "no available voicemail RTP port in range 20000-20002".toList⟩ := by
    decide +kernel
  have result := voicemail_bindSocket_exhaustive (by decide) (by decide) (trace_of_playTrace played)
  exact ⟨_, played, ⟨_, rfl⟩, result.2.2.2.2 ⟨_, rfl⟩⟩

end Voicemail

section Conference

/-- `bind_socket` of `conference_media.rs`, whose loop counts its attempts. -/
def Search.stepConference (portMin portMax : UInt16) (search : Search Nat) :
    Event → Option (Search Nat)
  | .other => some { search with counter := search.counter + 1 }
  | .call =>
    if search.phase = .called then
      if portMax.toNat - portMin.toNat = 0 then
        some { search with phase := .failed "conference RTP port range is empty".toList }
      else some { search with phase := .searching 0 }
    else none
  | .attempt free =>
    match search.phase with
    | .searching attempt =>
      let range := portMax.toNat - portMin.toNat
      let drawn := { search with counter := search.counter + 1 }
      let port := portMin.toNat + search.counter.toNat % range % 2 ^ 16
      if port < 2 ^ 16 then
        some (drawn.record port free (if attempt + 1 < range then some (attempt + 1) else none)
          ("no available conference RTP port in range ".toList ++ showRange portMin portMax))
      else some { drawn with phase := .overflowed }
    | _ => none

variable {portMin portMax : UInt16} {before after : Search Nat} {event : Event}

/-- One attempt of a call whose range is not empty. -/
theorem stepConference_attempt {free : Bool} (wide : portMin.toNat < portMax.toNat)
    (taken : before.stepConference portMin portMax (.attempt free) = some after) :
    ∃ attempt, before.phase = .searching attempt ∧
      after = Search.record { before with counter := before.counter + 1 }
        (portMin.toNat + before.counter.toNat % (portMax.toNat - portMin.toNat)) free
        (if attempt + 1 < portMax.toNat - portMin.toNat then some (attempt + 1) else none)
        ("no available conference RTP port in range ".toList ++ showRange portMin portMax) := by
  have small := portMax.toNat_lt
  have offset : before.counter.toNat % (portMax.toNat - portMin.toNat) < _ :=
    Nat.mod_lt _ (Nat.sub_pos_of_lt wide)
  simp only [Search.stepConference] at taken
  split at taken
  case h_2 => cases taken
  case h_1 attempt searching =>
    rw [mod_eq_of_lt (offset.trans (by omega : portMax.toNat - portMin.toNat < 2 ^ 16)),
      if_pos (by omega)] at taken
    exact ⟨attempt, searching, (Option.some.inj taken).symm⟩

/-- The ports that were tried lie below the last port of the range. -/
theorem stepConference_tried (wide : portMin.toNat < portMax.toNat)
    (taken : before.stepConference portMin portMax event = some after)
    (below : ∀ entry ∈ before.tried, entry.1 < portMax.toNat) :
    ∀ entry ∈ after.tried, entry.1 < portMax.toNat := by
  cases event with
  | other =>
    cases taken
    exact below
  | call =>
    simp only [Search.stepConference] at taken
    split at taken
    case isFalse => cases taken
    case isTrue =>
      rw [if_neg (by omega)] at taken
      cases taken
      exact below
  | attempt free =>
    obtain ⟨attempt, -, rfl⟩ := stepConference_attempt wide taken
    have offset : before.counter.toNat % (portMax.toNat - portMin.toNat) < _ :=
      Nat.mod_lt _ (Nat.sub_pos_of_lt wide)
    intro entry member
    rcases mem_append.mp member with old | new
    · exact below entry old
    · rw [mem_singleton.mp new]
      dsimp only
      omega

/-- How many binds were refused to a call that is at a phase. -/
def Spent (range refused : Nat) : Phase Nat → Prop
  | .called => refused = 0
  | .searching attempt => refused = attempt ∧ attempt < range
  | .bound _ => refused < range
  | .failed _ => refused = range
  | .overflowed => False

/-- A call fails with the refusal of its last attempt, of which it makes one less than the range
has ports. -/
theorem spent_of_trace {counter : UInt32} {events : List Event}
    (wide : portMin.toNat < portMax.toNat)
    (run : Trace (Search.stepConference portMin portMax) (.initial counter) events after) :
    Spent (portMax.toNat - portMin.toNat) (events.count (.attempt false)) after.phase := by
  induction run with
  | start => rfl
  | @step events before after event prior taken ih =>
    rw [count_append]
    cases event with
    | other =>
      cases taken
      exact ih
    | call =>
      simp only [Search.stepConference] at taken
      split at taken
      case isFalse => cases taken
      case isTrue fresh =>
        rw [if_neg (by omega)] at taken
        cases taken
        rw [fresh] at ih
        exact ⟨ih, by omega⟩
    | attempt free =>
      obtain ⟨attempt, searching, rfl⟩ := stepConference_attempt wide taken
      rw [searching] at ih
      obtain ⟨refused, below⟩ := ih
      rw [refused]
      cases free with
      | true => exact below
      | false =>
        by_cases more : attempt + 1 < portMax.toNat - portMin.toNat
        · simp only [Search.record, if_pos more]
          exact ⟨rfl, more⟩
        · simp only [Search.record, if_neg more]
          exact le_antisymm below (not_lt.mp more)

theorem failed_iff_refused {counter : UInt32} {events : List Event}
    (wide : portMin.toNat < portMax.toNat)
    (run : Trace (Search.stepConference portMin portMax) (.initial counter) events after) :
    ¬ after.Failed ↔ events.count (.attempt false) < portMax.toNat - portMin.toNat := by
  have spent := spent_of_trace wide run
  unfold Search.Failed
  cases phase : after.phase with
  | called =>
    rw [phase] at spent
    exact ⟨fun _ => spent ▸ Nat.sub_pos_of_lt wide, fun _ ⟨_, failed⟩ => by cases failed⟩
  | searching attempt =>
    rw [phase] at spent
    exact ⟨fun _ => spent.1 ▸ spent.2, fun _ ⟨_, failed⟩ => by cases failed⟩
  | bound port =>
    rw [phase] at spent
    exact ⟨fun _ => spent, fun _ ⟨_, failed⟩ => by cases failed⟩
  | failed message =>
    rw [phase] at spent
    exact ⟨fun running => absurd ⟨message, rfl⟩ running, fun less => absurd spent less.ne⟩
  | overflowed =>
    rw [phase] at spent
    exact spent.elim

/-- The port of an attempt when nobody else draws. -/
def portDrawn (portMin range counter attempt : Nat) : Nat :=
  portMin + (counter + attempt) % 2 ^ 32 % range

/-- What a call has tried when nobody else draws. -/
def Drawn (portMin range : Nat) (counter : UInt32) (search : Search Nat) : Prop :=
  match search.phase with
  | .called => search.counter = counter ∧ search.tried = []
  | .searching attempt => attempt < range ∧ search.counter = counter + .ofNat attempt ∧
      search.tried = refusals (portDrawn portMin range counter.toNat) attempt
  | .failed _ => search.tried = refusals (portDrawn portMin range counter.toNat) range
  | .bound _ | .overflowed => True

theorem drawn_step {counter : UInt32} (wide : portMin.toNat < portMax.toNat)
    (taken : before.stepConference portMin portMax event = some after) (own : event ≠ .other)
    (drawn : Drawn portMin.toNat (portMax.toNat - portMin.toNat) counter before) :
    Drawn portMin.toNat (portMax.toNat - portMin.toNat) counter after := by
  have small := portMax.toNat_lt
  cases event with
  | other => exact absurd rfl own
  | call =>
    simp only [Search.stepConference] at taken
    split at taken
    case isFalse => cases taken
    case isTrue fresh =>
      rw [if_neg (by omega)] at taken
      cases taken
      rw [Drawn, fresh] at drawn
      exact ⟨by omega, by simpa using drawn.1, drawn.2⟩
  | attempt free =>
    obtain ⟨attempt, searching, rfl⟩ := stepConference_attempt wide taken
    rw [Drawn, searching] at drawn
    obtain ⟨below, counted, tried⟩ := drawn
    cases free with
    | true => trivial
    | false =>
      have value : before.counter.toNat = (counter.toNat + attempt) % 2 ^ 32 := by
        rw [counted, UInt32.toNat_add, UInt32.toNat_ofNat_of_lt' (by simp [UInt32.size]; omega)]
      have here : portMin.toNat + before.counter.toNat % (portMax.toNat - portMin.toNat) =
          portDrawn portMin.toNat (portMax.toNat - portMin.toNat) counter.toNat attempt := by
        rw [value, portDrawn]
      have grown := refusals_succ
        (portDrawn portMin.toNat (portMax.toNat - portMin.toNat) counter.toNat) attempt
      rw [← tried, ← here] at grown
      by_cases more : attempt + 1 < portMax.toNat - portMin.toNat
      · simp only [Search.record, if_pos more, Drawn]
        refine ⟨more, ?_, grown.symm⟩
        rw [counted, UInt32.ofNat_add, UInt32.add_assoc]
        rfl
      · have last : portMax.toNat - portMin.toNat = attempt + 1 := by omega
        have whole := congrArg (refusals (portDrawn portMin.toNat
          (portMax.toNat - portMin.toNat) counter.toNat)) last
        simp only [Search.record, if_neg more, Drawn]
        exact grown.symm.trans whole.symm

/-- A call that nobody disturbs reaches every port before the last one, unless the counter wraps
around and its values are not a multiple of the range. -/
theorem mem_refusals_portDrawn {portMin range counter port : Nat}
    (even : counter + range ≤ 2 ^ 32 ∨ range ∣ 2 ^ 32) (above : portMin ≤ port)
    (below : port < portMin + range) :
    (port, false) ∈ refusals (portDrawn portMin range counter) range := by
  obtain ⟨attempt, inside, reached⟩ := PortSearch.exists_step counter (port - portMin)
    (by omega : port - portMin < range)
  have same : (counter + attempt) % 2 ^ 32 % range = port - portMin := by
    rcases even with quiet | multiple
    · rw [mod_eq_of_lt (by omega : counter + attempt < 2 ^ 32), reached]
    · rw [mod_mod_of_dvd _ multiple, reached]
  refine mem_map.mpr ⟨attempt, mem_range.mpr inside, ?_⟩
  rw [portDrawn, same, add_sub_of_le above]

/-- A call fails only when each port of the inclusive range was refused exactly when fewer of its
binds are refused than the range has ports below the last one: the last port is never tried. What
a call does try, if nobody draws in between and the counter does not cut the range, is every other
port. -/
theorem conference_bindSocket_exhaustive_iff {portMin portMax : UInt16} {counter : UInt32}
    {events : List Event} {search : Search Nat} (wide : portMin.toNat < portMax.toNat)
    (run : Trace (Search.stepConference portMin portMax) (.initial counter) events search) :
    ((search.Failed → search.Refused portMin.toNat portMax.toNat) ↔
      events.count (.attempt false) < portMax.toNat - portMin.toNat) ∧
    (.other ∉ events →
      counter.toNat + (portMax.toNat - portMin.toNat) ≤ 2 ^ 32 ∨
        portMax.toNat - portMin.toNat ∣ 2 ^ 32 →
      search.Failed → search.Refused portMin.toNat (portMax.toNat - 1)) := by
  constructor
  · have below : ∀ entry ∈ search.tried, entry.1 < portMax.toNat :=
      run.invariant (stepConference_tried wide) nofun
    rw [← failed_iff_refused wide run]
    refine ⟨fun exhaustive failed => ?_, fun running failed => absurd failed running⟩
    exact absurd (below _ (exhaustive failed _ wide.le le_rfl)) (Nat.lt_irrefl _)
  · rintro alone even ⟨message, failed⟩ port above below
    have own : Trace.Meets (Search.stepConference portMin portMax) (.initial counter) events
        fun _ event => event ≠ .other := by
      rintro front event back before rfl - rfl
      exact alone (List.mem_append_right _ (.head _))
    have drawn : Drawn portMin.toNat (portMax.toNat - portMin.toNat) counter search :=
      run.invariant_of own (drawn_step wide) ⟨rfl, rfl⟩
    rw [Drawn, failed] at drawn
    exact drawn ▸ mem_refusals_portDrawn even above (by omega)

/-- Two ports, of which one is never tried. -/
theorem conference_bindSocket_exhaustive_iff_two : ∃ search : Search Nat,
    playTrace (Search.stepConference 10100 10101) (.initial 7) [.call, .attempt false] =
      some search ∧
    search.Failed ∧ search.Refused 10100 10100 ∧ ¬ search.Refused 10100 10101 := by
  have played : playTrace (Search.stepConference 10100 10101) (.initial 7)
      [.call, .attempt false] = some ⟨8, [(10100, false)],
        .failed "no available conference RTP port in range 10100-10101".toList⟩ := by
    decide +kernel
  have result := conference_bindSocket_exhaustive_iff (by decide) (trace_of_playTrace played)
  refine ⟨_, played, ⟨_, rfl⟩, result.2 (by decide) (.inl (by decide)) ⟨_, rfl⟩, fun refused => ?_⟩
  exact absurd (result.1.mp fun _ => refused) (by decide)

/-- In the documented range a call fails although the last port was never tried. -/
theorem conference_bindSocket_skips_last : ∃ search : Search Nat,
    Trace (Search.stepConference 10100 10199) (.initial 0)
      (.call :: List.replicate 99 (.attempt false)) search ∧
    search.Failed ∧ ∀ entry ∈ search.tried, entry.1 ≠ 10199 := by
  refine ⟨⟨99, (List.range 99).map fun index => (10100 + index, false),
    .failed "no available conference RTP port in range 10100-10199".toList⟩,
    trace_of_playTrace (by decide +kernel), ⟨_, rfl⟩, ?_⟩
  decide +kernel

end Conference
end Sip3.PortRange
