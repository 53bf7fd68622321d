import Typeahead.Proofs.Node.Fragment
import Typeahead.Proofs.Node.Places

namespace Typeahead.Node

def placesOf (id : Nat) (node : Node) : Nat := (node.variableNodes.filter (·.id = id)).length

def placesOfAll (id : Nat) : List Node → Nat
  | [] => 0
  | node :: rest => placesOf id node + placesOfAll id rest

mutual
def occasions (id : Nat) : Node → Nat
  | .sequence _ _ nodes => occasionsAll id nodes
  | .any _ nodes => occasionsAny id nodes
  | .single _ _ => 0
  | .var i _ child => (if i = id then 1 else 0) + occasions id child
  | .repetition _ child => placesOf id child

def occasionsAll (id : Nat) : List Node → Nat
  | [] => 0
  | node :: rest => occasions id node + occasionsAll id rest

def occasionsAny (id : Nat) : List Node → Nat
  | [] => 0
  | node :: rest => max (occasions id node) (occasionsAny id rest)
end

-- The most repetitions around a place.
mutual
def around (id : Nat) : Node → Nat
  | .sequence _ _ nodes => aroundMost id nodes
  | .any _ nodes => aroundMost id nodes
  | .single _ _ => 0
  | .var _ _ child => around id child
  | .repetition _ child => if placesOf id child = 0 then 0 else around id child + 1

def aroundMost (id : Nat) : List Node → Nat
  | [] => 0
  | node :: rest => max (around id node) (aroundMost id rest)
end

section
variable {node child v : Node} {nodes head tail : List Node} {id i rounds : Nat} {written : Option Text}
  {info : Variable}

theorem placesOf_var :
    placesOf id (.var i info child) = (if i = id then 1 else 0) + placesOf id child := by
  have below : variableNodes (.var i info child) = .var i info child :: child.variableNodes := rfl
  have own : (Node.var i info child).id = i := rfl
  rw [placesOf, below, List.filter_cons, own, placesOf]
  by_cases same : i = id
  · simp only [same, decide_true, if_true, List.length_cons, Nat.add_comm]
  · simp only [same, decide_false, if_false, Bool.false_eq_true, Nat.zero_add]

theorem placesOf_any : placesOf id (.any i nodes) = placesOfAll id nodes := by
  rw [placesOf, variableNodes_any]
  induction nodes with
  | nil => rfl
  | cons node nodes ih =>
    rw [List.flatMap_cons, List.filter_append, List.length_append, ih, placesOfAll, placesOf]

theorem placesOf_sequence : placesOf id (.sequence i written nodes) = placesOfAll id nodes :=
  placesOf_any (i := i)

theorem placesOfAll_append : placesOfAll id (head ++ tail) = placesOfAll id head + placesOfAll id tail := by
  induction head with
  | nil => rw [List.nil_append, placesOfAll, Nat.zero_add]
  | cons node head ih => rw [List.cons_append, placesOfAll, ih, placesOfAll, Nat.add_assoc]

theorem occasionsAll_append :
    occasionsAll id (head ++ tail) = occasionsAll id head + occasionsAll id tail := by
  induction head with
  | nil => rw [List.nil_append, occasionsAll, Nat.zero_add]
  | cons node head ih => rw [List.cons_append, occasionsAll, ih, occasionsAll, Nat.add_assoc]

theorem aroundMost_append :
    aroundMost id (head ++ tail) = max (aroundMost id head) (aroundMost id tail) := by
  induction head with
  | nil => rw [List.nil_append, aroundMost, Nat.zero_max]
  | cons node head ih => rw [List.cons_append, aroundMost, ih, aroundMost, Nat.max_assoc]

-- There are occasions where there are places, and no more of them.

mutual
theorem occasions_places : ∀ node : Node, occasions id node ≤ placesOf id node ∧
    (occasions id node = 0 → placesOf id node = 0)
  | .sequence _ _ nodes => by
    rw [placesOf_sequence]
    exact occasionsAll_places nodes
  | .any _ nodes => by
    rw [placesOf_any]
    exact occasionsAny_places nodes
  | .single _ _ => ⟨Nat.le_refl _, fun _ => rfl⟩
  | .var i info child => by
    obtain ⟨few, nowhere⟩ := occasions_places child
    rw [placesOf_var, occasions]
    omega
  | .repetition _ child => ⟨Nat.le_refl _, fun nowhere => nowhere⟩

theorem occasionsAll_places : ∀ nodes : List Node,
    occasionsAll id nodes ≤ placesOfAll id nodes ∧
      (occasionsAll id nodes = 0 → placesOfAll id nodes = 0)
  | [] => ⟨Nat.le_refl _, fun _ => rfl⟩
  | node :: nodes => by
    obtain ⟨few, nowhere⟩ := occasions_places node
    obtain ⟨fewer, nowhere'⟩ := occasionsAll_places nodes
    rw [placesOfAll, occasionsAll]
    omega

theorem occasionsAny_places : ∀ nodes : List Node,
    occasionsAny id nodes ≤ placesOfAll id nodes ∧
      (occasionsAny id nodes = 0 → placesOfAll id nodes = 0)
  | [] => ⟨Nat.le_refl _, fun _ => rfl⟩
  | node :: nodes => by
    obtain ⟨few, nowhere⟩ := occasions_places node
    obtain ⟨fewer, nowhere'⟩ := occasionsAny_places nodes
    rw [placesOfAll, occasionsAny]
    omega
end

mutual
theorem around_of_places : ∀ node : Node, placesOf id node = 0 → around id node = 0
  | .sequence _ _ nodes, nowhere => aroundMost_of_places nodes (placesOf_sequence ▸ nowhere)
  | .any _ nodes, nowhere => aroundMost_of_places nodes (placesOf_any ▸ nowhere)
  | .single _ _, _ => rfl
  | .var i info child, nowhere => by
    rw [placesOf_var] at nowhere
    exact around_of_places child (by omega)
  | .repetition _ _, nowhere => if_pos nowhere

theorem aroundMost_of_places : ∀ nodes : List Node, placesOfAll id nodes = 0 →
    aroundMost id nodes = 0
  | [], _ => rfl
  | node :: nodes, nowhere => by
    rw [placesOfAll] at nowhere
    rw [aroundMost, around_of_places node (by omega), aroundMost_of_places nodes (by omega)]
    rfl
end

theorem Reaches.placesOf_pos (reaches : Reaches node rounds v) (isVariable : v.asVariable.isSome) :
    0 < placesOf v.id node := by
  have known : v ∈ node.variableNodes := List.mem_filter.mpr ⟨reaches.mem_walk, isVariable⟩
  exact List.length_pos_of_mem (List.mem_filter.mpr ⟨known, decide_eq_true rfl⟩)

theorem around_among (child : node ∈ nodes) (own : 0 < placesOf id node)
    (only : placesOfAll id nodes ≤ 1) :
    placesOf id node ≤ 1 ∧ aroundMost id nodes = around id node := by
  obtain ⟨head, tail, rfl⟩ := List.append_of_mem child
  rw [placesOfAll_append, placesOfAll] at only
  refine ⟨by omega, ?_⟩
  rw [aroundMost_append, aroundMost, aroundMost_of_places head (by omega),
    aroundMost_of_places tail (by omega), Nat.zero_max, Nat.max_zero]

theorem Reaches.around_le (reaches : Reaches node rounds v) (isVariable : v.asVariable.isSome)
    (only : placesOf v.id node ≤ 1) : around v.id node ≤ rounds := by
  induction reaches with
  | here =>
    rename_i v
    cases v with
    | var i info child =>
      have few : placesOf i (.var i info child) ≤ 1 := only
      rw [placesOf_var, if_pos rfl] at few
      have outside : around i child = 0 := around_of_places child (by omega)
      exact Nat.le_of_eq outside
    | _ => cases isVariable
  | sequence child below ih =>
    rw [placesOf_sequence] at only
    obtain ⟨only, same⟩ := around_among child (below.placesOf_pos isVariable) only
    rw [around, same]
    exact ih isVariable only
  | any child below ih =>
    rw [placesOf_any] at only
    obtain ⟨only, same⟩ := around_among child (below.placesOf_pos isVariable) only
    rw [around, same]
    exact ih isVariable only
  | var below ih =>
    rw [placesOf_var] at only
    exact ih isVariable (by omega)
  | repetition below ih =>
    have inside := ih isVariable only
    rw [around]
    split <;> omega

theorem StandsOnce.placesOf_le (once : StandsOnce node.walk v) : placesOf v.id node ≤ 1 := by
  rw [placesOf, variableNodes, List.filter_comm, once]
  exact List.length_filter_le _ [v]

end

end Typeahead.Node
