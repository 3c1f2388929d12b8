import Mathlib.Data.List.Basic

/-!
# Entries that count for a time

A limit on events in a sliding window keeps the times of the events and drops those that no
longer count. `Lifetime` says how long an entry counts; `recent` are the entries that count at a
time. Dropping entries early, or only from the front of a sorted queue, changes nothing that is
seen later: `Covers` says so of a queue and of all the entries there were.
-/

namespace Sip3.Semantics

/-- How long an entry counts after it was made: newer entries count longer, and what counts at a
time has counted since it was made. -/
structure Lifetime where
  counts : Nat → Nat → Bool
  newer : ∀ {made later now}, made ≤ later → counts made now = true → counts later now = true
  before : ∀ {made now after}, now ≤ after → counts made after = true → counts made now = true

namespace Lifetime

/-- An entry counts up to and including the end of its window. -/
def closed (window : Nat) : Lifetime where
  counts made now := decide (now - made ≤ window)
  newer := by
    intro made later now order counts
    simp only [decide_eq_true_eq] at counts ⊢
    omega
  before := by
    intro made now after order counts
    simp only [decide_eq_true_eq] at counts ⊢
    omega

/-- An entry counts until its window has passed. -/
def halfOpen (window : Nat) : Lifetime where
  counts made now := decide (now - made < window)
  newer := by
    intro made later now order counts
    simp only [decide_eq_true_eq] at counts ⊢
    omega
  before := by
    intro made now after order counts
    simp only [decide_eq_true_eq] at counts ⊢
    omega

variable (life : Lifetime) {times : List Nat} {now after : Nat}

/-- The entries that count at a time. -/
def recent (now : Nat) (times : List Nat) : List Nat :=
  times.filter (life.counts · now)

theorem recent_append (front back : List Nat) :
    life.recent now (front ++ back) = life.recent now front ++ life.recent now back :=
  List.filter_append ..

/-- Entries that were dropped earlier would not count later. -/
theorem recent_recent (order : now ≤ after) :
    life.recent after (life.recent now times) = life.recent after times := by
  unfold recent
  rw [List.filter_filter]
  apply List.filter_congr
  intro made _
  by_cases counts : life.counts made after = true
  · rw [counts, life.before order counts, Bool.and_self]
  · rw [Bool.not_eq_true] at counts
    rw [counts, Bool.false_and]

/-- In a sorted queue, the entries that no longer count are at its front. -/
theorem dropWhile_eq_recent (sorted : times.Pairwise (· ≤ ·)) :
    times.dropWhile (fun made => !life.counts made now) = life.recent now times := by
  induction times with
  | nil => rfl
  | cons first rest ih =>
    rw [List.pairwise_cons] at sorted
    by_cases counts : life.counts first now = true
    · -- The first entry counts, so every later one does.
      have all : ∀ made ∈ first :: rest, life.counts made now = true := by
        intro made member
        rcases List.mem_cons.mp member with rfl | later
        · exact counts
        · exact life.newer (sorted.1 made later) counts
      rw [List.dropWhile_cons_of_neg (by simp [counts])]
      exact (List.filter_eq_self.mpr all).symm
    · rw [Bool.not_eq_true] at counts
      rw [List.dropWhile_cons_of_pos (by simp [counts]), ih sorted.2, recent, recent,
        List.filter_cons_of_neg (by simp [counts])]

/-- A queue with some of the times: from a time on, those that are missing do not count. -/
structure Covers (queue times : List Nat) (since : Nat) : Prop where
  sublist : queue.Sublist times
  recent : ∀ now, since ≤ now → life.recent now queue = life.recent now times

theorem Covers.nil (since : Nat) : life.Covers [] [] since :=
  ⟨.slnil, fun _ _ => rfl⟩

variable {life} {queue : List Nat} {since : Nat}

section

variable (covers : life.Covers queue times since)

include covers

theorem Covers.mono (order : since ≤ now) : life.Covers queue times now :=
  ⟨covers.sublist, fun later passed => covers.recent later (Nat.le_trans order passed)⟩

/-- Dropping what no longer counts leaves what counts later. -/
theorem Covers.retain (order : since ≤ now) :
    life.Covers (life.recent now queue) times now where
  sublist := List.filter_sublist.trans covers.sublist
  recent later passed := by
    rw [life.recent_recent passed, covers.recent later (Nat.le_trans order passed)]

theorem Covers.append (made : Nat) :
    life.Covers (queue ++ [made]) (times ++ [made]) since where
  sublist := covers.sublist.append (.refl [made])
  recent later passed := by
    rw [life.recent_append, life.recent_append, covers.recent later passed]

/-- Entering a time at the back and dropping from the front leaves what counts. -/
theorem Covers.push (order : since ≤ now) (sorted : (times ++ [now]).Pairwise (· ≤ ·)) :
    (queue ++ [now]).dropWhile (fun made => !life.counts made now) =
        life.recent now (times ++ [now]) ∧
      life.Covers (life.recent now (times ++ [now])) (times ++ [now]) now := by
  constructor
  · have ordered : (queue ++ [now]).Pairwise (· ≤ ·) :=
      sorted.sublist (covers.sublist.append (List.Sublist.refl [now]))
    rw [life.dropWhile_eq_recent ordered, life.recent_append, life.recent_append,
      covers.recent now order]
  · exact ⟨List.filter_sublist, fun later passed => life.recent_recent passed⟩

end

end Lifetime

end Sip3.Semantics
