import Mathlib.Data.List.AList

/-!
# Keeping some entries of a map

`HashMap::retain` for maps as association lists.
-/

namespace Sip3.Semantics

variable {Key Value : Type}

/-- The entries that satisfy a predicate. -/
def retain (keep : Key → Value → Bool) (map : AList fun _ : Key => Value) :
    AList fun _ : Key => Value where
  entries := map.entries.filter fun entry => keep entry.1 entry.2
  nodupKeys := List.NodupKeys.sublist List.filter_sublist map.nodupKeys

theorem lookup_retain [DecidableEq Key] (keep : Key → Value → Bool)
    (map : AList fun _ : Key => Value) (key : Key) :
    (retain keep map).lookup key = (map.lookup key).filter (keep key) := by
  apply Option.ext
  intro value
  rw [← Option.mem_def, ← Option.mem_def, Option.mem_filter_iff, AList.mem_lookup_iff,
    AList.mem_lookup_iff]
  exact List.mem_filter

end Sip3.Semantics
