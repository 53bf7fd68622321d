import Typeahead.Proofs.Node.Fragment

namespace Typeahead
namespace Node
variable {node : Node} {a a' b b' : List Node}

-- Each node at the first place where it stands.
def firsts : List Node → List Node
  | [] => []
  | node :: rest => node :: (firsts rest).filter (·.id ≠ node.id)

theorem firsts_ids (nodes : List Node) (i : Nat) :
    i ∈ (firsts nodes).map Node.id ↔ i ∈ nodes.map Node.id := by
  induction nodes with
  | nil => rfl
  | cons node rest ih =>
    by_cases here : i = node.id
    · simp [firsts, here]
    · simp only [firsts, List.map_cons, List.mem_cons, here, false_or, ← ih]
      simp only [List.mem_map, List.mem_filter]
      constructor
      · intro found
        obtain ⟨other, ⟨member, _⟩, same⟩ := found
        exact ⟨other, member, same⟩
      · intro found
        obtain ⟨other, member, same⟩ := found
        exact ⟨other, ⟨member, by simpa [same] using here⟩, same⟩

theorem firsts_append (a b : List Node) :
    firsts (a ++ b) = firsts a ++ (firsts b).filter (·.id ∉ a.map Node.id) := by
  induction a with
  | nil => simp [firsts]
  | cons node a ih =>
    rw [List.cons_append, firsts, ih, firsts, List.filter_append, List.filter_filter, List.cons_append]
    congr 2
    refine List.filter_congr fun other _ => ?_
    simp [not_or]

theorem firsts_append_congr (left : firsts a = firsts a') (right : firsts b = firsts b') :
    firsts (a ++ b) = firsts (a' ++ b') := by
  rw [firsts_append, firsts_append, left, right]
  congr 1
  refine List.filter_congr fun other _ => ?_
  simp only [← firsts_ids a, ← firsts_ids a', left]

theorem firsts_again (same : firsts a = firsts b) : firsts (a ++ b) = firsts b := by
  have nothing : (firsts b).filter (·.id ∉ a.map Node.id) = [] := by
    refine List.filter_eq_nil_iff.mpr fun other member => ?_
    have known := (firsts_ids a other.id).mp (List.mem_map_of_mem (same ▸ member))
    simpa using known
  rw [firsts_append, nothing, List.append_nil, same]

-- Induction on the fragment: where a part is named twice, the second time adds nothing.
theorem Started.firsts {f : Fragment} {rows : List (Text × Node)} (started : Started node f rows) :
    firsts (rows.map Prod.snd) = firsts node.variableNodes := by
  induction started with
  | single | sequenceNil | anyNil => rfl
  | var _ ih =>
    rename_i child _ _ i info _ _
    exact firsts_append_congr (a := [.var i info child]) rfl ih
  | sequenceOne _ ih => simpa [variableNodes_sequence] using ih
  | sequenceCut _ _ _ finished _ inside beyond =>
    rw [List.map_append, List.map_append, finished.nodes, ← List.append_assoc]
    simp only [variableNodes_sequence, List.flatMap_append] at inside beyond ⊢
    exact firsts_append_congr (firsts_again inside) beyond
  | anyCons _ _ first others =>
    have both := firsts_append_congr first others
    rw [variableNodes_any] at both ⊢
    rwa [← List.map_append] at both
  | repetition _ finished ih =>
    rw [List.map_append, finished.nodes]
    exact firsts_again ih

end Node
end Typeahead
