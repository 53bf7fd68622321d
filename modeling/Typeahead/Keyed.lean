import Typeahead.Text.Basic

namespace Typeahead.Keyed

def find? (key : Text) : List (Text × α) → Option α
  | [] => none
  | (other, value) :: rest => if other = key then some value else find? key rest

def put (key : Text) (value : α) : List (Text × α) → List (Text × α)
  | [] => [(key, value)]
  | (other, old) :: rest =>
    if other = key then (other, value) :: rest else (other, old) :: put key value rest

theorem find?_put_same (key : Text) (value : α) (rows : List (Text × α)) :
    find? key (put key value rows) = some value := by
  induction rows with
  | nil => simp [put, find?]
  | cons row rest ih =>
    obtain ⟨other, old⟩ := row
    by_cases equal : other = key
    · simp [put, find?, equal]
    · simp [put, find?, equal, ih]

theorem find?_put_other (key other : Text) (value : α) (rows : List (Text × α))
    (different : other ≠ key) : find? other (put key value rows) = find? other rows := by
  induction rows with
  | nil => simp [put, find?, different.symm]
  | cons row rest ih =>
    obtain ⟨third, old⟩ := row
    by_cases equal : third = key
    · subst equal
      simp [put, find?, different.symm]
    · by_cases here : third = other
      · subst here
        simp [put, find?, equal]
      · simp [put, find?, equal, here, ih]

theorem put_keys (key : Text) (value : α) (rows : List (Text × α)) :
    (put key value rows).map Prod.fst =
      if key ∈ rows.map Prod.fst then rows.map Prod.fst else rows.map Prod.fst ++ [key] := by
  induction rows with
  | nil => rfl
  | cons row rest ih =>
    obtain ⟨other, old⟩ := row
    by_cases equal : other = key
    · simp [put, equal]
    · have apart : key ≠ other := fun same => equal same.symm
      simp only [put, equal, if_false, List.map_cons, ih, List.mem_cons, apart, false_or]
      split <;> rfl

theorem mem_put_keys (key other : Text) (value : α) (rows : List (Text × α)) :
    other ∈ (put key value rows).map Prod.fst ↔ other ∈ rows.map Prod.fst ∨ other = key := by
  rw [put_keys]
  split
  · rename_i known
    constructor
    · exact .inl
    · intro either
      rcases either with member | rfl
      · exact member
      · exact known
  · rw [List.mem_append, List.mem_singleton]

theorem put_nodup (key : Text) (value : α) (rows : List (Text × α))
    (distinct : (rows.map Prod.fst).Nodup) : ((put key value rows).map Prod.fst).Nodup := by
  rw [put_keys]
  split
  · exact distinct
  · rename_i new
    refine List.nodup_append.mpr ⟨distinct, List.pairwise_singleton _ _, ?_⟩
    intro other member last single equal
    exact new (List.mem_singleton.mp single ▸ equal ▸ member)

end Typeahead.Keyed
