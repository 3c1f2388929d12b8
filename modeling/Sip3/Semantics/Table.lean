import Mathlib.Data.List.AList

/-!
# Requests to a locked map

A map behind a mutex is used through sections that read, insert or remove one
key. Each is one request; it changes the map at that key only.
-/

namespace Sip3.Semantics

/-- One locked section on a map from `K` to `V`. Each returns the entry that was
there before it. -/
inductive TableOp (K V : Type) where
  | get (key : K)
  | insert (key : K) (value : V)
  | remove (key : K)

namespace TableOp

variable {K V : Type}

/-- The key a section is about. -/
@[simp] def key : TableOp K V → K
  | get key => key
  | insert key _ => key
  | remove key => key

variable [DecidableEq K]

/-- The map after the section. -/
def next (table : AList fun _ : K => V) : TableOp K V → AList fun _ : K => V
  | get _ => table
  | insert key value => AList.insert key value table
  | remove key => table.erase key

/-- A section leaves every other key alone. -/
theorem lookup_next_of_ne {table : AList fun _ : K => V} {op : TableOp K V} {other : K}
    (different : op.key ≠ other) : (next table op).lookup other = table.lookup other := by
  cases op with
  | get key => rfl
  | insert key value => exact AList.lookup_insert_ne (Ne.symm different)
  | remove key => exact AList.lookup_erase_ne (Ne.symm different)

@[simp] theorem lookup_next_insert (table : AList fun _ : K => V) (key : K) (value : V) :
    (next table (.insert key value)).lookup key = some value :=
  AList.lookup_insert table

@[simp] theorem lookup_next_remove (table : AList fun _ : K => V) (key : K) :
    (next table (.remove key)).lookup key = none :=
  AList.lookup_erase key table

/-- What a section does to a key: it inserts it, removes it, or leaves its entry. -/
theorem lookup_next_cases (table : AList fun _ : K => V) (op : TableOp K V) (key : K) :
    (∃ value, op = .insert key value ∧ (next table op).lookup key = some value) ∨
      op = .remove key ∧ (next table op).lookup key = none ∨
      (next table op).lookup key = table.lookup key := by
  by_cases own : op.key = key
  · subst own
    cases op with
    | get key => exact .inr (.inr rfl)
    | insert key value => exact .inl ⟨value, rfl, lookup_next_insert table key value⟩
    | remove key => exact .inr (.inl ⟨rfl, lookup_next_remove table key⟩)
  · exact .inr (.inr (lookup_next_of_ne own))

end TableOp

end Sip3.Semantics
