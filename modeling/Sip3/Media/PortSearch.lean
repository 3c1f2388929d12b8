import Mathlib.Data.Finset.Card
import Mathlib.Data.Fintype.EquivFin
import Mathlib.Data.Nat.ModEq

/-!
# The search for a pair of relay ports

`bind_port_pair` takes the ports of a stream from a range: a counter that all streams share is
increased by two for each attempt, and its remainder, made even, is added to the lower end. There
are half as many attempts as the range is long. The search keeps to even ports when the lower end
is even, and it misses a pair when the range is odd or when the counter wraps around in a search.
-/

namespace Sip3.PortSearch

open Nat Finset

/-- What a search comes to. A sum beyond 16 bits panics. -/
inductive Outcome where
  | tooSmall
  | bound (pair : Nat × Nat)
  | exhausted
  | overflowed
  deriving DecidableEq

/-- A search with the pairs it tried and the counter it left. -/
structure Search where
  tried : List (Nat × Nat)
  counter : Nat
  outcome : Outcome
  deriving DecidableEq

/-- The ports of one attempt: the offset is cast to 16 bits, and `& !1` clears its last bit. -/
def candidate (portMin range counter : Nat) : Option (Nat × Nat) :=
  let offset := counter % range
  let base := portMin + 2 * (offset % 2 ^ 16 / 2)
  if base + 1 < 2 ^ 16 then some (base, base + 1) else none

/-- The loop over the attempts. `fetch_add` wraps around at 32 bits, and the sockets of a pair
that is bound only in part are dropped. -/
def attempts (portMin range : Nat) (bindable : Nat → Bool) : Nat → Nat → Search
  | 0, counter => ⟨[], counter, .exhausted⟩
  | count + 1, counter =>
    let next := (counter + 2) % 2 ^ 32
    match candidate portMin range counter with
    | none => ⟨[], next, .overflowed⟩
    | some pair =>
      if bindable pair.1 && bindable pair.2 then ⟨[pair], next, .bound pair⟩
      else
        let rest := attempts portMin range bindable count next
        { rest with tried := pair :: rest.tried }

/-- `bind_port_pair`, without other callers. -/
def bindPortPair (portMin portMax : UInt16) (counter : UInt32) (bindable : Nat → Bool) : Search :=
  let range := portMax.toNat - portMin.toNat
  if range < 2 then ⟨[], counter.toNat, .tooSmall⟩
  else attempts portMin.toNat range bindable (range / 2) counter.toNat

/-- A pair of the range: an even port and its successor. -/
structure PairWithin (portMin portMax : Nat) (pair : Nat × Nat) : Prop where
  even : pair.1 % 2 = 0
  successor : pair.2 = pair.1 + 1
  above : portMin ≤ pair.1
  below : pair.2 ≤ portMax

/-- The search tries only pairs of the range, never overflows, and gives up only when no pair of
the range can be bound, whichever ports are taken. -/
def FindsPair (portMin portMax : UInt16) (counter : UInt32) : Prop :=
  ∀ bindable, let search := bindPortPair portMin portMax counter bindable
    (∀ pair ∈ search.tried, PairWithin portMin.toNat portMax.toNat pair) ∧
    search.outcome ≠ .overflowed ∧ search.outcome ≠ .tooSmall ∧
    (search.outcome = .exhausted → ∀ pair, PairWithin portMin.toNat portMax.toNat pair →
      ¬ (bindable pair.1 = true ∧ bindable pair.2 = true))

section Attempts

variable {portMin range : Nat} {bindable : Nat → Bool}

/-- Half the distance from the lower end to the pair of an attempt. -/
def halfAt (range counter index : Nat) : Nat :=
  (counter + 2 * index) % 2 ^ 32 % range / 2

/-- The pair at half a distance from the lower end. -/
def pairAt (portMin half : Nat) : Nat × Nat :=
  (portMin + 2 * half, portMin + 2 * half + 1)

theorem candidate_eq (fits : portMin + range < 2 ^ 16) (positive : 0 < range) (counter : Nat) :
    candidate portMin range counter = some (pairAt portMin (counter % range / 2)) := by
  have small : counter % range < range := mod_lt _ positive
  rw [candidate, mod_eq_of_lt (by omega : counter % range < 2 ^ 16), if_pos (by omega)]
  rfl

theorem halfAt_succ (counter index : Nat) :
    halfAt range ((counter + 2) % 2 ^ 32) index = halfAt range counter (index + 1) := by
  rw [halfAt, halfAt, mod_add_mod,
    show counter + 2 + 2 * index = counter + 2 * (index + 1) by omega]

/-- A pair that can be bound. -/
def Free (bindable : Nat → Bool) (pair : Nat × Nat) : Prop :=
  bindable pair.1 = true ∧ bindable pair.2 = true

/-- What a number of attempts comes to. -/
structure Tries (portMin range : Nat) (bindable : Nat → Bool) (count counter : Nat)
    (search : Search) : Prop where
  tried : ∀ pair ∈ search.tried, ∃ index < count, pair = pairAt portMin (halfAt range counter index)
  outcome : search.outcome ≠ .overflowed ∧ search.outcome ≠ .tooSmall
  exhausted : search.outcome = .exhausted ↔
    ∀ index < count, ¬ Free bindable (pairAt portMin (halfAt range counter index))
  all : search.outcome = .exhausted → ∀ index < count,
    pairAt portMin (halfAt range counter index) ∈ search.tried

theorem tries_attempts (fits : portMin + range < 2 ^ 16) (positive : 0 < range) (count : Nat)
    {counter : Nat} (small : counter < 2 ^ 32) :
    Tries portMin range bindable count counter
      (attempts portMin range bindable count counter) := by
  induction count generalizing counter with
  | zero => exact ⟨nofun, ⟨nofun, nofun⟩, ⟨fun _ => nofun, fun _ => rfl⟩, fun _ => nofun⟩
  | succ count ih =>
    have here : halfAt range counter 0 = counter % range / 2 := by
      rw [halfAt, mul_zero, add_zero, mod_eq_of_lt small]
    obtain ⟨tried, outcome, exhausted, all⟩ :=
      @ih ((counter + 2) % 2 ^ 32) (mod_lt _ (by decide))
    simp only [halfAt_succ] at tried exhausted all
    rw [attempts, candidate_eq fits positive, ← here]
    dsimp only
    split
    · next found =>
      have free : Free bindable (pairAt portMin (halfAt range counter 0)) :=
        Bool.and_eq_true_iff.mp found
      refine ⟨fun pair member => ⟨0, succ_pos _, List.mem_singleton.mp member⟩,
        ⟨nofun, nofun⟩, ⟨nofun, fun none => absurd free (none 0 (succ_pos _))⟩, nofun⟩
    · next missed =>
      have taken : ¬ Free bindable (pairAt portMin (halfAt range counter 0)) := fun free =>
        missed (Bool.and_eq_true_iff.mpr free)
      refine ⟨?tried, outcome, exhausted.trans ⟨?later, ?earlier⟩, ?all⟩
      case tried =>
        intro pair member
        rcases List.mem_cons.mp member with first | later
        · exact ⟨0, succ_pos _, first⟩
        · obtain ⟨index, below, same⟩ := tried pair later
          exact ⟨index + 1, succ_lt_succ below, same⟩
      case later =>
        intro none index below
        cases index with
        | zero => exact taken
        | succ index => exact none index (lt_of_succ_lt_succ below)
      case earlier => exact fun none index below => none (index + 1) (succ_lt_succ below)
      case all =>
        intro gaveUp index below
        cases index with
        | zero => exact .head _
        | succ index => exact .tail _ (all gaveUp index (lt_of_succ_lt_succ below))

end Attempts

section Coverage

variable {portMin portMax : UInt16} {counter : UInt32} {range : Nat}

/-- The attempts of a search reach every even distance at which a pair fits. -/
def Reaches (range counter : Nat) : Prop :=
  ∀ half, 2 * half + 1 ≤ range → ∃ index < range / 2, halfAt range counter index = half

theorem tries_bindPortPair (rangeEq : portMax.toNat - portMin.toNat = range) (wide : 2 ≤ range)
    (bindable : Nat → Bool) :
    Tries portMin.toNat range bindable (range / 2) counter.toNat
      (bindPortPair portMin portMax counter bindable) := by
  have fits : portMin.toNat + range < 2 ^ 16 := by
    have := portMax.toNat_lt
    omega
  rw [bindPortPair, rangeEq]
  exact (if_neg (not_lt.mpr wide)) ▸ tries_attempts fits (by omega) _ counter.toNat_lt

section

variable (finds : FindsPair portMin portMax counter)
  (rangeEq : portMax.toNat - portMin.toNat = range) (wide : 2 ≤ range)

include finds rangeEq wide

/-- With no port free, the first pair is among those tried. -/
theorem FindsPair.even : portMin.toNat % 2 = 0 := by
  have tries := @tries_bindPortPair _ _ counter _ rangeEq wide fun _ => false
  have none := tries.exhausted.mpr fun _ _ free => nomatch free.1
  have first := (finds fun _ => false).1 _ (tries.all none 0 (by omega))
  have lower : (portMin.toNat + 2 * _) % 2 = 0 := first.even
  omega

/-- With only one pair free, the search has to try it. -/
theorem FindsPair.reaches : Reaches range counter.toNat := by
  have even := finds.even rangeEq wide
  intro half inside
  let bindable (port : Nat) := decide (port = portMin.toNat + 2 * half ∨
    port = portMin.toNat + 2 * half + 1)
  have tries := @tries_bindPortPair _ _ counter _ rangeEq wide bindable
  by_contra missed
  have exhausted := tries.exhausted.mpr fun index below free => missed ⟨index, below, by
    simp only [Free, pairAt, bindable, decide_eq_true_eq] at free
    omega⟩
  have within : PairWithin portMin.toNat portMax.toNat (pairAt portMin.toNat half) := by
    refine ⟨?_, rfl, le_add_right _ _, ?_⟩
    · simp only [pairAt]
      omega
    · simp only [pairAt]
      omega
  exact (finds bindable).2.2.2 exhausted _ within (by simp [pairAt, bindable])

end

/-- The search finds pairs as it should when it starts from an even port and reaches all pairs. -/
theorem findsPair_iff_reaches (rangeEq : portMax.toNat - portMin.toNat = range) (wide : 2 ≤ range) :
    FindsPair portMin portMax counter ↔ portMin.toNat % 2 = 0 ∧ Reaches range counter.toNat := by
  constructor
  · exact fun finds => ⟨finds.even rangeEq wide, finds.reaches rangeEq wide⟩
  · rintro ⟨even, reaches⟩ bindable
    have tries := @tries_bindPortPair _ _ counter _ rangeEq wide bindable
    refine ⟨fun pair member => ?_, tries.outcome.1, tries.outcome.2,
      fun exhausted pair within free => ?_⟩
    · obtain ⟨index, -, rfl⟩ := tries.tried pair member
      have small : halfAt range counter.toNat index = _ / 2 := rfl
      have := mod_lt ((counter.toNat + 2 * index) % 2 ^ 32) (by omega : 0 < range)
      exact ⟨by simp only [pairAt]; omega, rfl, le_add_right _ _, by simp only [pairAt]; omega⟩
    · obtain ⟨low, high⟩ := pair
      obtain ⟨lowEven, successor, above, below⟩ := within
      dsimp only at lowEven successor above below
      obtain ⟨index, inside, reached⟩ := reaches ((low - portMin.toNat) / 2) (by omega)
      have same : pairAt portMin.toNat (halfAt range counter.toNat index) = (low, high) := by
        rw [reached, pairAt, Prod.mk.injEq]
        omega
      exact tries.exhausted.mp exhausted index inside (same ▸ free)

/-- An odd range has one pair more than the search has attempts. -/
theorem not_reaches_of_odd (odd : range % 2 = 1) (counter : Nat) : ¬ Reaches range counter := by
  intro reaches
  have covered : Finset.range (range / 2 + 1) ⊆
      (Finset.range (range / 2)).image (halfAt range counter) := by
    intro half member
    obtain ⟨index, below, same⟩ := reaches half (by have := Finset.mem_range.mp member; omega)
    exact mem_image.mpr ⟨index, Finset.mem_range.mpr below, same⟩
  have counted := (card_le_card covered).trans card_image_le
  rw [card_range, card_range] at counted
  omega

/-- In an even range the attempts step by one through the remainders, until the counter wraps
around. -/
theorem halfAt_even (half counter index : Nat) :
    halfAt (2 * half) counter index = (counter / 2 + index) % 2 ^ 31 % half := by
  rw [halfAt, mod_mul_right_div_self]
  congr 1
  omega

/-- Steps of one reach every remainder. -/
theorem exists_step {half : Nat} (start target : Nat) (below : target < half) :
    ∃ index < half, (start + index) % half = target := by
  have small := mod_lt start (by omega : 0 < half)
  refine ⟨(target + (half - start % half)) % half, mod_lt _ (by omega), ?_⟩
  rw [add_mod_mod, ← mod_add_mod, show start % half + (target + (half - start % half)) =
    target + half by omega, add_mod_right, mod_eq_of_lt below]

/-- Two attempts reach one remainder when the counter wraps around and its values are not a
multiple of the steps. -/
theorem exists_repeat {half start size : Nat} (positive : 0 < half) (before : start < size)
    (wraps : size < start + half) (uneven : size % half ≠ 0) :
    ∃ first < half, ∃ second < half, first ≠ second ∧
      (start + first) % size % half = (start + second) % size % half := by
  have rest := mod_lt size positive
  have whole := div_add_mod size half
  have wrapped (steps : Nat) (fits : steps < size) :
      (start + (size - start + steps)) % size = steps := by
    rw [show start + (size - start + steps) = steps + size by omega, add_mod_right,
      mod_eq_of_lt fits]
  by_cases early : size % half ≤ size - start
  · refine ⟨size - start - size % half, by omega, size - start, by omega, by omega, ?_⟩
    have zero := wrapped 0 (by omega)
    rw [add_zero] at zero
    rw [zero, mod_eq_of_lt (by omega : start + (size - start - size % half) < size),
      show start + (size - start - size % half) = half * (size / half) by omega,
      mul_mod_right, zero_mod]
  · refine ⟨0, positive, size % half, rest, by omega, ?_⟩
    have later := wrapped (size % half - (size - start)) (by omega)
    rw [show size - start + (size % half - (size - start)) = size % half by omega] at later
    have shifted : start % half = (size % half - (size - start)) % half := by
      conv_lhs => rw [show start = half * (size / half) + (size % half - (size - start)) by omega]
      rw [mul_add_mod]
    rw [later, add_zero, mod_eq_of_lt before, shifted]

/-- An even range is covered when the counter does not wrap around in the search, or when its
values are a multiple of the range. -/
theorem reaches_even_iff {half counter : Nat} (positive : 0 < half) (bounded : counter < 2 ^ 32) :
    Reaches (2 * half) counter ↔ counter / 2 + half ≤ 2 ^ 31 ∨ half ∣ 2 ^ 31 := by
  have count : 2 * half / 2 = half := by omega
  have reaches_iff : Reaches (2 * half) counter ↔
      ∀ target < half, ∃ index < half, (counter / 2 + index) % 2 ^ 31 % half = target := by
    simp only [Reaches, count, halfAt_even]
    exact forall_congr' fun target => imp_congr_left (by omega)
  rw [reaches_iff]
  constructor
  · intro reaches
    by_contra neither
    obtain ⟨wraps, uneven⟩ := not_or.mp neither
    obtain ⟨first, firstBelow, second, secondBelow, different, same⟩ := @exists_repeat half
      (counter / 2) (2 ^ 31) positive (by omega) (by omega)
      fun even => uneven (dvd_of_mod_eq_zero even)
    -- A step that is taken twice leaves a remainder out.
    let step (index : Fin half) : Fin half :=
      ⟨(counter / 2 + index) % 2 ^ 31 % half, mod_lt _ positive⟩
    have onto : Function.Surjective step := fun target => by
      obtain ⟨index, below, reached⟩ := reaches target target.2
      exact ⟨⟨index, below⟩, Fin.ext reached⟩
    have alike : step ⟨first, firstBelow⟩ = step ⟨second, secondBelow⟩ := Fin.ext same
    exact different (congrArg Fin.val (Finite.injective_iff_surjective.mpr onto alike))
  · rintro (quiet | multiple) target below
    · obtain ⟨index, inside, reached⟩ := exists_step (counter / 2) target below
      refine ⟨index, inside, ?_⟩
      rw [mod_eq_of_lt (by omega : counter / 2 + index < 2 ^ 31)]
      exact reached
    · obtain ⟨index, inside, reached⟩ := exists_step (counter / 2) target below
      exact ⟨index, inside, (mod_mod_of_dvd _ multiple).trans reached⟩

end Coverage

/-- The search keeps to even pairs and misses none of the range for exactly the ranges with two
even ends, as long as the counter does not wrap around before the last attempt; for a range whose
length is a power of two it may. -/
theorem findsPair_iff {portMin portMax : UInt16} (wide : portMin.toNat + 2 ≤ portMax.toNat)
    (counter : UInt32) : FindsPair portMin portMax counter ↔
      portMin.toNat % 2 = 0 ∧ portMax.toNat % 2 = 0 ∧
        (counter.toNat + (portMax.toNat - portMin.toNat) < 2 ^ 32 + 2 ∨
          portMax.toNat - portMin.toNat ∣ 2 ^ 32) := by
  have bounded := counter.toNat_lt
  have port := portMax.toNat_lt
  obtain ⟨range, rangeEq⟩ : ∃ range, portMax.toNat - portMin.toNat = range := ⟨_, rfl⟩
  rw [findsPair_iff_reaches rangeEq (by omega), rangeEq]
  refine and_congr_right fun even => ?_
  rcases Nat.mod_two_eq_zero_or_one range with rangeEven | rangeOdd
  · obtain ⟨half, rfl⟩ : ∃ half, range = 2 * half := ⟨range / 2, by omega⟩
    rw [reaches_even_iff (by omega) bounded, show (2 : Nat) ^ 32 = 2 * 2 ^ 31 by decide,
      Nat.mul_dvd_mul_iff_left (by decide)]
    constructor
    · rintro (quiet | multiple)
      · exact ⟨by omega, .inl (by omega)⟩
      · exact ⟨by omega, .inr multiple⟩
    · rintro ⟨-, quiet | multiple⟩
      · exact .inl (by omega)
      · exact .inr multiple
  · refine iff_of_false (not_reaches_of_odd rangeOdd _) ?_
    rintro ⟨maxEven, -⟩
    omega

/-- A range with even ends, and a counter that has just been set. -/
theorem findsPair_iff_aligned : (10000 : UInt16).toNat + 2 ≤ (10100 : UInt16).toNat ∧
    FindsPair 10000 10100 0 :=
  ⟨by decide, (findsPair_iff (by decide) 0).mpr (by decide)⟩

/-- In the default range the last pair is never tried from the first counter on, also when it is
the only one that is free. -/
theorem not_findsPair_default : ¬ FindsPair 10000 10099 0 := by
  intro finds
  have complete := (finds fun port => decide (10098 ≤ port)).2.2.2 (by decide +kernel) (10098, 10099)
  exact complete ⟨by decide, by decide, by decide, by decide⟩ (by decide)

end Sip3.PortSearch
