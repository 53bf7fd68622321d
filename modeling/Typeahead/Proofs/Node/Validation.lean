import Typeahead.Node.Validation

namespace Typeahead.Node

def firstFault (nodes : List Node) : Except TreeError Unit :=
  match nodes.findSome? fault? with
  | some e => .error e
  | none => .ok ()

theorem firstFault_append (a b : List Node) :
    firstFault (a ++ b) = (do firstFault a; firstFault b) := by
  unfold firstFault
  rw [List.findSome?_append]
  cases a.findSome? fault? with
  | none => rfl
  | some e => rfl

theorem firstFault_cons (node : Node) (rest : List Node) :
    firstFault (node :: rest) = (do check node; firstFault rest) := by
  unfold firstFault check
  rw [List.findSome?_cons]
  cases node.fault? with
  | none => rfl
  | some e => rfl

mutual
theorem validate_eq : ∀ root : Node, root.validate = firstFault root.walk
  | .sequence i written nodes => by rw [validate, walk, firstFault_cons, validateAll_eq nodes]
  | .any i nodes => by rw [validate, walk, firstFault_cons, validateAll_eq nodes]
  | .single _ _ => rfl
  | .var i info child => by
    rw [validate, walk, firstFault_cons, validate_eq child]
    rfl
  | .repetition i child => by
    rw [validate, walk, firstFault_cons, validate_eq child]
    rfl

theorem validateAll_eq : ∀ nodes : List Node, validateAll nodes = firstFault (walkAll nodes)
  | [] => rfl
  | node :: nodes => by rw [validateAll, walkAll, firstFault_append, validate_eq node, validateAll_eq nodes]
end

theorem fault_none_of_validate {root : Node} (valid : root.validate = .ok ()) :
    ∀ node ∈ root.walk, node.fault? = none := by
  rw [validate_eq, firstFault] at valid
  split at valid
  · cases valid
  · rename_i nothing
    exact List.findSome?_eq_none_iff.mp nothing

theorem validate_of_fault_none {root : Node} (faultless : ∀ node ∈ root.walk, node.fault? = none) :
    root.validate = .ok () := by
  rw [validate_eq, firstFault, List.findSome?_eq_none_iff.mpr faultless]

theorem any_of_validate {root : Node} (valid : root.validate = .ok ()) {i : Nat} {nodes : List Node}
    (member : .any i nodes ∈ root.walk) : nodes ≠ [] := by
  intro equal
  subst equal
  exact nomatch fault_none_of_validate valid _ member

end Typeahead.Node
