import Mathlib.Data.List.Nodup
import Typeahead.Node.Basic

namespace Typeahead.Node

-- A step from a node to one of its children.
inductive Step where
  | sequence (count index : Nat)
  | any (index : Nat)
  | var
  | repetition
  deriving DecidableEq

-- A node where it stands in a tree, below these steps. The last step is the first of the list.
structure Position where
  above : List Step
  node : Node

mutual
def positions (above : List Step) : Node → List Position
  | .sequence i written nodes =>
    ⟨above, .sequence i written nodes⟩ :: positionsOfAll (.sequence nodes.length) above 0 nodes
  | .any i nodes => ⟨above, .any i nodes⟩ :: positionsOfAll .any above 0 nodes
  | .single i c => [⟨above, .single i c⟩]
  | .var i info child => ⟨above, .var i info child⟩ :: positions (.var :: above) child
  | .repetition i child => ⟨above, .repetition i child⟩ :: positions (.repetition :: above) child

def positionsOfAll (step : Nat → Step) (above : List Step) : Nat → List Node → List Position
  | _, [] => []
  | k, node :: rest => positions (step k :: above) node ++ positionsOfAll step above (k + 1) rest
end

mutual
theorem positions_nodes : ∀ (above : List Step) (node : Node),
    (positions above node).map Position.node = node.walk
  | above, .sequence i written nodes => by
    rw [positions, List.map_cons, positionsOfAll_nodes, walk]
  | above, .any i nodes => by rw [positions, List.map_cons, positionsOfAll_nodes, walk]
  | _, .single _ _ => rfl
  | above, .var i info child => by rw [positions, List.map_cons, positions_nodes, walk]
  | above, .repetition i child => by rw [positions, List.map_cons, positions_nodes, walk]

theorem positionsOfAll_nodes : ∀ (step : Nat → Step) (above : List Step) (k : Nat) (nodes : List Node),
    (positionsOfAll step above k nodes).map Position.node = walkAll nodes
  | _, _, _, [] => rfl
  | step, above, k, node :: nodes => by
    rw [positionsOfAll, List.map_append, positions_nodes, positionsOfAll_nodes, walkAll]
end

def Step.child? : Step → Node → Option Node
  | .sequence count index, .sequence _ _ nodes => if nodes.length = count then nodes[index]? else none
  | .any index, .any _ nodes => nodes[index]?
  | .var, .var _ _ child => some child
  | .repetition, .repetition _ child => some child
  | _, _ => none

-- From a node that is itself below some steps.
inductive Leads (root : Node) (start : List Step) : List Step → Node → Prop
  | here : Leads root start start root
  | child (above : Leads root start steps parent) (below : step.child? parent = some node) :
      Leads root start (step :: steps) node

theorem Leads.suffix {root node : Node} {start steps : List Step} (leads : Leads root start steps node) :
    start <:+ steps := by
  induction leads with
  | here => exact List.suffix_rfl
  | child _ _ ih => exact ih.trans (List.suffix_cons ..)

mutual
theorem positions_lead {root : Node} {start : List Step} : ∀ (above : List Step) (node : Node),
    Leads root start above node → ∀ p ∈ positions above node, Leads root start p.above p.node
  | above, .sequence i written nodes, leads, p, member => by
    rcases List.mem_cons.mp member with rfl | member
    · exact leads
    · refine positionsOfAll_lead _ above 0 nodes (fun j node found => ?_) p member
      exact leads.child (by rw [Nat.zero_add, Step.child?, if_pos rfl, found])
  | above, .any i nodes, leads, p, member => by
    rcases List.mem_cons.mp member with rfl | member
    · exact leads
    · refine positionsOfAll_lead _ above 0 nodes (fun j node found => ?_) p member
      exact leads.child (by rw [Nat.zero_add, Step.child?, found])
  | above, .single i c, leads, p, member => by
    obtain rfl := List.mem_singleton.mp member
    exact leads
  | above, .var i info child, leads, p, member => by
    rcases List.mem_cons.mp member with rfl | member
    · exact leads
    · exact positions_lead _ child (leads.child rfl) p member
  | above, .repetition i child, leads, p, member => by
    rcases List.mem_cons.mp member with rfl | member
    · exact leads
    · exact positions_lead _ child (leads.child rfl) p member

theorem positionsOfAll_lead {root : Node} {start : List Step} : ∀ (step : Nat → Step)
    (above : List Step) (k : Nat) (nodes : List Node),
    (∀ j node, nodes[j]? = some node → Leads root start (step (k + j) :: above) node) →
    ∀ p ∈ positionsOfAll step above k nodes, Leads root start p.above p.node
  | step, above, k, node :: nodes, each, p, member => by
    rcases List.mem_append.mp member with member | member
    · exact positions_lead _ node (each 0 node rfl) p member
    · refine positionsOfAll_lead step above (k + 1) nodes (fun j other found => ?_) p member
      have later := each (j + 1) other found
      rwa [Nat.add_left_comm, Nat.add_comm] at later
end

theorem positions_below (above : List Step) (node : Node) : ∀ p ∈ positions above node, above <:+ p.above :=
  fun p member => (positions_lead above node .here p member).suffix

theorem positionsOfAll_below (step : Nat → Step) (above : List Step) (k : Nat) (nodes : List Node) :
    ∀ p ∈ positionsOfAll step above k nodes, ∃ j, k ≤ j ∧ step j :: above <:+ p.above := by
  induction nodes generalizing k with
  | nil => exact List.forall_mem_nil _
  | cons node nodes ih =>
    intro p member
    rcases List.mem_append.mp member with member | member
    · exact ⟨k, Nat.le_refl k, positions_below _ node p member⟩
    · obtain ⟨j, later, below⟩ := ih (k + 1) p member
      exact ⟨j, Nat.le_of_succ_le later, below⟩

theorem not_mem_below {above : List Step} {places : List Position}
    (below : ∀ p ∈ places, ∃ step, step :: above <:+ p.above) :
    above ∉ places.map Position.above := by
  intro member
  obtain ⟨p, among, equal⟩ := List.mem_map.mp member
  obtain ⟨step, suffix⟩ := below p among
  have longer := suffix.length_le
  rw [equal, List.length_cons] at longer
  omega

mutual
theorem positions_distinct : ∀ (above : List Step) (node : Node),
    ((positions above node).map Position.above).Nodup
  | above, .sequence i written nodes => by
    refine List.nodup_cons.mpr ⟨not_mem_below fun p member => ?_, ?_⟩
    · obtain ⟨k, _, below⟩ := positionsOfAll_below _ _ _ nodes p member
      exact ⟨_, below⟩
    · exact positionsOfAll_distinct _ (fun _ _ equal => (Step.sequence.inj equal).2) _ _ nodes
  | above, .any i nodes => by
    refine List.nodup_cons.mpr ⟨not_mem_below fun p member => ?_, ?_⟩
    · obtain ⟨k, _, below⟩ := positionsOfAll_below _ _ _ nodes p member
      exact ⟨_, below⟩
    · exact positionsOfAll_distinct _ (fun _ _ equal => Step.any.inj equal) _ _ nodes
  | above, .single i c => List.nodup_singleton _
  | above, .var i info child =>
    List.nodup_cons.mpr ⟨not_mem_below fun p member => ⟨_, positions_below _ child p member⟩,
      positions_distinct _ child⟩
  | above, .repetition i child =>
    List.nodup_cons.mpr ⟨not_mem_below fun p member => ⟨_, positions_below _ child p member⟩,
      positions_distinct _ child⟩

theorem positionsOfAll_distinct : ∀ (step : Nat → Step) (_ : step.Injective) (above : List Step)
    (k : Nat) (nodes : List Node), ((positionsOfAll step above k nodes).map Position.above).Nodup
  | _, _, _, _, [] => List.nodup_nil
  | step, distinct, above, k, node :: nodes => by
    rw [positionsOfAll, List.map_append]
    refine List.Nodup.append (positions_distinct _ node)
      (positionsOfAll_distinct step distinct above (k + 1) nodes) ?_
    intro path first later
    obtain ⟨p, member, rfl⟩ := List.mem_map.mp first
    obtain ⟨q, member', equal⟩ := List.mem_map.mp later
    have one := positions_below _ node p member
    obtain ⟨j, after, other⟩ := positionsOfAll_below step above (k + 1) nodes q member'
    rw [equal] at other
    have same := (List.suffix_of_suffix_length_le one other (by simp)).eq_of_length (by simp)
    have index : k = j := distinct (List.cons.inj same).1
    omega
end

end Typeahead.Node
