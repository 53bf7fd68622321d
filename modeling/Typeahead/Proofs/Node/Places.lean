import Typeahead.Proofs.Node.Building

namespace Typeahead.Node

-- A place of a node in a tree, with the number of repetitions around it.
inductive Reaches : Node → Nat → Node → Prop
  | here : Reaches node 0 node
  | sequence (child : node ∈ nodes) (below : Reaches node rounds part) :
      Reaches (.sequence i written nodes) rounds part
  | any (child : node ∈ nodes) (below : Reaches node rounds part) : Reaches (.any i nodes) rounds part
  | var (below : Reaches child rounds part) : Reaches (.var i info child) rounds part
  | repetition (below : Reaches child rounds part) : Reaches (.repetition i child) (rounds + 1) part

-- The only node with its identity, at the only place.
def StandsOnce (places : List Node) (node : Node) : Prop := places.filter (·.id = node.id) = [node]

def VariablesOnce (places : List Node) : Prop :=
  ∀ node ∈ places, node.asVariable.isSome → StandsOnce places node

variable {root part node other : Node} {nodes places a b : List Node} {rounds i j : Nat}

theorem Reaches.walk_subset (reaches : Reaches root rounds part) : part.walk ⊆ root.walk := by
  induction reaches with
  | here => exact List.Subset.refl _
  | sequence child _ ih | any child _ ih =>
    exact List.Subset.trans ih (mem_walk_child child)
  | var _ ih | repetition _ ih =>
    exact List.Subset.trans ih (mem_walk_child (List.mem_singleton_self _))

theorem Reaches.mem_walk (reaches : Reaches root rounds part) : part ∈ root.walk :=
  reaches.walk_subset (self_mem_walk part)

mutual
theorem reaches_of_mem_walk : ∀ (root part : Node), part ∈ root.walk → ∃ rounds, Reaches root rounds part
  | .sequence i written nodes, part, member => by
    rcases List.mem_cons.mp member with rfl | member
    · exact ⟨0, .here⟩
    · obtain ⟨node, child, rounds, below⟩ := reaches_of_mem_walkAll nodes part member
      exact ⟨rounds, .sequence child below⟩
  | .any i nodes, part, member => by
    rcases List.mem_cons.mp member with rfl | member
    · exact ⟨0, .here⟩
    · obtain ⟨node, child, rounds, below⟩ := reaches_of_mem_walkAll nodes part member
      exact ⟨rounds, .any child below⟩
  | .single i c, part, member => by
    obtain rfl := List.mem_singleton.mp member
    exact ⟨0, .here⟩
  | .var i info child, part, member => by
    rcases List.mem_cons.mp member with rfl | member
    · exact ⟨0, .here⟩
    · obtain ⟨rounds, below⟩ := reaches_of_mem_walk child part member
      exact ⟨rounds, .var below⟩
  | .repetition i child, part, member => by
    rcases List.mem_cons.mp member with rfl | member
    · exact ⟨0, .here⟩
    · obtain ⟨rounds, below⟩ := reaches_of_mem_walk child part member
      exact ⟨rounds + 1, .repetition below⟩

theorem reaches_of_mem_walkAll : ∀ (nodes : List Node) (part : Node), part ∈ walkAll nodes →
    ∃ node ∈ nodes, ∃ rounds, Reaches node rounds part
  | node :: nodes, part, member => by
    cases List.mem_append.mp member with
    | inl member =>
      obtain ⟨rounds, below⟩ := reaches_of_mem_walk node part member
      exact ⟨node, List.mem_cons_self .., rounds, below⟩
    | inr member =>
      obtain ⟨child, among, below⟩ := reaches_of_mem_walkAll nodes part member
      exact ⟨child, List.mem_cons_of_mem _ among, below⟩
end

theorem walk_trans (known : part ∈ root.walk) : part.walk ⊆ root.walk := by
  obtain ⟨rounds, reaches⟩ := reaches_of_mem_walk root part known
  exact reaches.walk_subset

theorem standsOnce_of_nodup (distinct : (places.map Node.id).Nodup) (member : node ∈ places) :
    StandsOnce places node := by
  unfold StandsOnce
  induction places with
  | nil => cases member
  | cons first places ih =>
    obtain ⟨apart, distinct⟩ := List.nodup_cons.mp distinct
    rcases List.mem_cons.mp member with rfl | member
    · have others : places.filter (·.id = node.id) = [] := by
        refine List.filter_eq_nil_iff.mpr fun other among equal => apart ?_
        exact List.mem_map.mpr ⟨other, among, of_decide_eq_true equal⟩
      rw [List.filter_cons_of_pos (by simp), others]
    · have different : first.id ≠ node.id := fun equal => apart (equal ▸ List.mem_map_of_mem member)
      rw [List.filter_cons_of_neg (by simpa using different)]
      exact ih distinct member

theorem variablesOnce_of_nodup (distinct : (places.map Node.id).Nodup) : VariablesOnce places :=
  fun _ member _ => standsOnce_of_nodup distinct member

theorem StandsOnce.same (once : StandsOnce places node) (member : other ∈ places)
    (equal : other.id = node.id) : other = node := by
  have found : other ∈ places.filter (·.id = node.id) := by simpa [member] using equal
  rw [once] at found
  exact List.mem_singleton.mp found

theorem StandsOnce.append_cases (once : StandsOnce (a ++ b) node) :
    StandsOnce a node ∧ (∀ other ∈ b, other.id ≠ node.id) ∨
      StandsOnce b node ∧ ∀ other ∈ a, other.id ≠ node.id := by
  unfold StandsOnce at once
  rw [List.filter_append, List.append_eq_singleton_iff] at once
  rcases once with ⟨nowhere, there⟩ | ⟨there, nowhere⟩
  · exact .inr ⟨there, by simpa using nowhere⟩
  · exact .inl ⟨there, by simpa using nowhere⟩

theorem StandsOnce.left (once : StandsOnce (a ++ b) node) (member : node ∈ a) : StandsOnce a node := by
  rcases once.append_cases with ⟨there, _⟩ | ⟨_, apart⟩
  · exact there
  · exact absurd rfl (apart node member)

theorem StandsOnce.right (once : StandsOnce (a ++ b) node) (member : node ∈ b) : StandsOnce b node := by
  rcases once.append_cases with ⟨_, apart⟩ | ⟨there, _⟩
  · exact absurd rfl (apart node member)
  · exact there

namespace VariablesOnce

theorem same (once : VariablesOnce places) (member : node ∈ places) (isVariable : node.asVariable.isSome)
    (member' : other ∈ places) (equal : other.id = node.id) : other = node :=
  (once node member isVariable).same member' equal

theorem left (once : VariablesOnce (a ++ b)) : VariablesOnce a := fun node member isVariable =>
  (once node (List.mem_append_left _ member) isVariable).left member

theorem right (once : VariablesOnce (a ++ b)) : VariablesOnce b := fun node member isVariable =>
  (once node (List.mem_append_right _ member) isVariable).right member

theorem tail (once : VariablesOnce (node :: places)) : VariablesOnce places := right (a := [node]) once

theorem among (once : VariablesOnce (walkAll nodes)) (child : node ∈ nodes) :
    VariablesOnce node.walk := by
  induction nodes with
  | nil => cases child
  | cons first nodes ih =>
    rcases List.mem_cons.mp child with rfl | child
    · exact once.left
    · exact ih once.right child

theorem apart_of_left (once : VariablesOnce (a ++ b)) (member : node ∈ a)
    (isVariable : node.asVariable.isSome) : ∀ other ∈ b, other.id ≠ node.id := by
  rcases (once node (List.mem_append_left _ member) isVariable).append_cases with ⟨_, apart⟩ | ⟨_, apart⟩
  · exact apart
  · exact absurd rfl (apart node member)

theorem apart_of_right (once : VariablesOnce (a ++ b)) (member : node ∈ b)
    (isVariable : node.asVariable.isSome) : ∀ other ∈ a, other.id ≠ node.id := by
  rcases (once node (List.mem_append_right _ member) isVariable).append_cases with ⟨_, apart⟩ | ⟨_, apart⟩
  · exact absurd rfl (apart node member)
  · exact apart

end VariablesOnce

theorem Reaches.once (reaches : Reaches root rounds part) (once : VariablesOnce root.walk) :
    VariablesOnce part.walk := by
  induction reaches with
  | here => exact once
  | sequence child _ ih | any child _ ih => exact ih (once.tail.among child)
  | var _ ih | repetition _ ih => exact ih once.tail

-- A variable at one place, inside so many repetitions.
structure Sole (root : Node) (rounds : Nat) (node : Node) : Prop where
  isVariable : node.asVariable.isSome
  once : StandsOnce root.walk node
  reaches : Reaches root rounds node

end Typeahead.Node
