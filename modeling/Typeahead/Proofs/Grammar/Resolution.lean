import Typeahead.Match

namespace Typeahead
variable {found : List (Node × Option Text.Span)} {node : Node} {span : Option Text.Span} {id : Nat}

-- The entry of an identity.
def entryOf? (id : Nat) (found : List (Node × Option Text.Span)) : Option (Node × Option Text.Span) :=
  found.find? fun entry => entry.1.id = id

theorem entryOf?_settle : entryOf? id (settle node span found) =
    if node.id = id then
      some (((entryOf? id found).map fun entry => (entry.1, entry.2 <|> span)).getD (node, span))
    else entryOf? id found := by
  induction found with
  | nil => by_cases same : node.id = id <;> simp [settle, entryOf?, same]
  | cons entry found ih =>
    obtain ⟨other, old⟩ := entry
    simp only [entryOf?] at ih
    by_cases here : other.id = node.id
    · by_cases same : node.id = id <;> simp [settle, entryOf?, here, same]
    · by_cases same : node.id = id
      · have different : other.id ≠ id := fun equal => here (equal.trans same.symm)
        rw [same] at here
        simp [settle, entryOf?, same, different, ih]
      · by_cases first : other.id = id
        · have apart : id ≠ node.id := fun equal => same equal.symm
          simp [settle, entryOf?, same, first, apart]
        · simp [settle, entryOf?, here, same, first, ih]

theorem settle_nodes : (settle node span found).map Prod.fst =
    if node.id ∈ found.map (·.1.id) then found.map Prod.fst else found.map Prod.fst ++ [node] := by
  induction found with
  | nil => rfl
  | cons entry found ih =>
    obtain ⟨other, old⟩ := entry
    by_cases here : other.id = node.id
    · simp [settle, here]
    · have apart : node.id ≠ other.id := fun equal => here equal.symm
      simp only [settle, here, if_false, List.map_cons, ih, List.mem_cons, apart, false_or]
      split <;> rfl

theorem settle_ids : (settle node span found).map (·.1.id) =
    if node.id ∈ found.map (·.1.id) then found.map (·.1.id) else found.map (·.1.id) ++ [node.id] := by
  have nodes := congrArg (List.map Node.id) (@settle_nodes found node span)
  rw [apply_ite (List.map Node.id), List.map_append, List.map_map, List.map_map] at nodes
  exact nodes

theorem settle_nodup (distinct : (found.map (·.1.id)).Nodup) :
    ((settle node span found).map (·.1.id)).Nodup := by
  rw [settle_ids]
  split
  · exact distinct
  · rename_i new
    exact List.nodup_append.mpr ⟨distinct, List.pairwise_singleton _ _, by
      intro a member b single equal
      subst equal
      exact new (List.mem_singleton.mp single ▸ member)⟩

section
variable (spanOf : GroupRow → Option Text.Span) (rows : List GroupRow)

def rowsOf (id : Nat) (rows : List GroupRow) : List GroupRow := rows.filter (·.node.id = id)

theorem entryOf?_foldl (found : List (Node × Option Text.Span)) :
    entryOf? id (rows.foldl (fun found row => settle row.node (spanOf row) found) found) =
      (((entryOf? id found).map Prod.fst).or ((rowsOf id rows).head?.map GroupRow.node)).map
        fun node => (node, ((entryOf? id found).bind Prod.snd).or ((rowsOf id rows).findSome? spanOf)) := by
  induction rows generalizing found with
  | nil =>
    rw [List.foldl_nil]
    cases entryOf? id found with
    | none => rfl
    | some entry => simp [rowsOf]
  | cons row rows ih =>
    rw [List.foldl_cons, ih, entryOf?_settle]
    by_cases here : row.node.id = id
    · have first : rowsOf id (row :: rows) = row :: rowsOf id rows := by simp [rowsOf, here]
      have either : (rowsOf id (row :: rows)).findSome? spanOf =
          (spanOf row).or ((rowsOf id rows).findSome? spanOf) := by
        rw [first, List.findSome?_cons]
        cases spanOf row <;> rfl
      rw [either, first]
      cases entryOf? id found with
      | none => simp [here]
      | some entry => simp [here, Option.or_assoc]
    · simp [rowsOf, here]

theorem foldl_settle_nodup (found : List (Node × Option Text.Span))
    (distinct : (found.map (·.1.id)).Nodup) :
    ((rows.foldl (fun found row => settle row.node (spanOf row) found) found).map (·.1.id)).Nodup := by
  induction rows generalizing found with
  | nil => exact distinct
  | cons row rows ih => exact ih _ (settle_nodup distinct)

end

theorem entryOf?_of_mem (distinct : (found.map (·.1.id)).Nodup) (member : (node, span) ∈ found) :
    entryOf? node.id found = some (node, span) := by
  induction found with
  | nil => cases member
  | cons entry found ih =>
    obtain ⟨first, others⟩ := List.nodup_cons.mp distinct
    rcases List.mem_cons.mp member with rfl | member
    · simp [entryOf?]
    · have apart : entry.1.id ≠ node.id := by
        intro equal
        exact first (List.mem_map.mpr ⟨_, member, equal.symm⟩)
      rw [entryOf?, List.find?_cons_of_neg (by simpa using apart)]
      exact ih others member

namespace Match
variable {m : Match}

theorem entryOf?_resolve : entryOf? id m.resolve = (rowsOf id m.rows).head?.map fun row =>
    (row.node, (rowsOf id m.rows).findSome? m.rowSpan?) := by
  rw [resolve, entryOf?_foldl]
  cases (rowsOf id m.rows).head? <;> rfl

theorem mem_resolve :
    (node, span) ∈ m.resolve ↔ entryOf? node.id m.resolve = some (node, span) := by
  constructor
  · intro member
    have distinct : (m.resolve.map (·.1.id)).Nodup := foldl_settle_nodup m.rowSpan? m.rows [] List.nodup_nil
    exact entryOf?_of_mem distinct member
  · exact List.mem_of_find?_eq_some

theorem row_of_mem_resolve (member : (node, span) ∈ m.resolve) : ∃ row ∈ m.rows, row.node = node := by
  rw [mem_resolve, entryOf?_resolve] at member
  obtain ⟨row, first, equal⟩ := Option.map_eq_some_iff.mp member
  exact ⟨row, (List.mem_filter.mp (List.mem_of_head? first)).1, (Prod.mk.inj equal).1⟩

end Match
end Typeahead
