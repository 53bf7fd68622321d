import Typeahead.Proofs.Node.Correctness

namespace Typeahead

namespace Node

def orEmpty : List Node → List Node
  | [] => [.sequence 0 none []]
  | nodes => nodes

mutual
def filled : Node → Node
  | .sequence i written nodes => .sequence i written (filledAll nodes)
  | .any i nodes => .any i (orEmpty (filledAll nodes))
  | .single i c => .single i c
  | .var i info child => .var i info (filled child)
  | .repetition i child => .repetition i (filled child)

def filledAll : List Node → List Node
  | [] => []
  | node :: rest => filled node :: filledAll rest
end

theorem filledAll_eq (nodes : List Node) : filledAll nodes = nodes.map filled := by
  induction nodes with
  | nil => rfl
  | cons node nodes ih => rw [filledAll, ih, List.map_cons]

theorem filledAll_append (a b : List Node) : filledAll (a ++ b) = filledAll a ++ filledAll b := by
  simp only [filledAll_eq, List.map_append]

theorem filledAll_ne_nil {nodes : List Node} (some' : nodes ≠ []) : filledAll nodes ≠ [] := by
  rw [filledAll_eq]
  exact fun empty => some' (List.map_eq_nil_iff.mp empty)

theorem orEmpty_ne_nil (nodes : List Node) : orEmpty nodes ≠ [] := by
  cases nodes <;> exact List.cons_ne_nil _ _

theorem mem_walkAll_orEmpty {other : Node} {nodes : List Node} (member : other ∈ walkAll (orEmpty nodes)) :
    other = .sequence 0 none [] ∨ other ∈ walkAll nodes := by
  cases nodes with
  | nil => exact .inl (by simpa [orEmpty, walkAll, walk] using member)
  | cons node nodes => exact .inr member

mutual
theorem filled_readable {leaf : CharClass → Prop} : ∀ node : Node,
    (∀ i c, .single i c ∈ node.walk → leaf c) → node.filled.AllAreReadable leaf
  | .sequence i written nodes, leaves, other, member => by
    rcases List.mem_cons.mp member with rfl | member
    · trivial
    · exact filledAll_readable nodes
        (fun i c inside => leaves i c (List.mem_cons_of_mem _ inside)) other member
  | .any i nodes, leaves, other, member => by
    rcases List.mem_cons.mp member with rfl | member
    · exact orEmpty_ne_nil _
    · rcases mem_walkAll_orEmpty member with rfl | member
      · trivial
      · exact filledAll_readable nodes
          (fun i c inside => leaves i c (List.mem_cons_of_mem _ inside)) other member
  | .single i c, leaves, other, member => by
    obtain rfl : other = .single i c := by simpa [filled, walk] using member
    exact leaves i c (List.mem_singleton_self _)
  | .var i info child, leaves, other, member => by
    rcases List.mem_cons.mp member with rfl | member
    · trivial
    · exact filled_readable child
        (fun i c inside => leaves i c (List.mem_cons_of_mem _ inside)) other member
  | .repetition i child, leaves, other, member => by
    rcases List.mem_cons.mp member with rfl | member
    · trivial
    · exact filled_readable child
        (fun i c inside => leaves i c (List.mem_cons_of_mem _ inside)) other member

theorem filledAll_readable {leaf : CharClass → Prop} : ∀ nodes : List Node,
    (∀ i c, .single i c ∈ walkAll nodes → leaf c) →
    ∀ other ∈ walkAll (filledAll nodes), other.IsReadable leaf
  | node :: nodes, leaves, other, member => by
    cases List.mem_append.mp member with
    | inl member =>
      exact filled_readable node
        (fun i c inside => leaves i c (List.mem_append_left _ inside)) other member
    | inr member =>
      exact filledAll_readable nodes
        (fun i c inside => leaves i c (List.mem_append_right _ inside)) other member
end

end Node

namespace Fragment

def orEmpty : List Fragment → List Fragment
  | [] => [.sequence []]
  | branches => branches

mutual
def filled : Fragment → Fragment
  | .atom times c => .atom times c
  | .group times name node body => .group times name node.filled (filled body)
  | .sequence parts => .sequence (filledAll parts)
  | .choice times branches => .choice times (orEmpty (filledAll branches))

def filledAll : List Fragment → List Fragment
  | [] => []
  | f :: rest => filled f :: filledAll rest
end

theorem filledAll_append (a b : List Fragment) : filledAll (a ++ b) = filledAll a ++ filledAll b := by
  induction a with
  | nil => rfl
  | cons f a ih => rw [List.cons_append, filledAll, ih, filledAll, List.cons_append]

theorem joinBranches_orEmpty (branches : List Fragment) :
    Node.joinBranches (renderAll (orEmpty branches)) = Node.joinBranches (renderAll branches) := by
  cases branches <;> rfl

mutual
theorem filled_render : ∀ f : Fragment, f.filled.render = f.render
  | .atom _ _ => rfl
  | .group _ _ _ body => by rw [filled, render, filled_render body, render]
  | .sequence parts => by rw [filled, render, filledAll_render parts, render]
  | .choice _ branches => by
    rw [filled, render, joinBranches_orEmpty, filledAll_render branches, render]

theorem filledAll_render : ∀ parts : List Fragment, renderAll (filledAll parts) = renderAll parts
  | [] => rfl
  | f :: parts => by rw [filledAll, renderAll, filled_render f, filledAll_render parts, renderAll]
end

def fillRow (row : Text × Node) : Text × Node := (row.1, row.2.filled)

theorem rowsOfAll_orEmpty (branches : List Fragment) :
    rowsOfAll (orEmpty branches) = rowsOfAll branches := by
  cases branches <;> rfl

mutual
theorem filled_rows : ∀ f : Fragment, f.filled.rows = f.rows.map fillRow
  | .atom _ _ => rfl
  | .group _ _ _ body => congrArg (_ :: ·) (filled_rows body)
  | .sequence parts => filledAll_rows parts
  | .choice _ branches => (rowsOfAll_orEmpty _).trans (filledAll_rows branches)

theorem filledAll_rows : ∀ parts : List Fragment,
    rowsOfAll (filledAll parts) = (rowsOfAll parts).map fillRow
  | [] => rfl
  | f :: parts => by
    rw [filledAll, rowsOfAll, filled_rows f, filledAll_rows parts, rowsOfAll, List.map_append]
end

theorem filled_names (f : Fragment) : f.filled.names = f.names := by
  rw [names, filled_rows, List.map_map]
  rfl

end Fragment

namespace Node
variable {node : Node} {f : Fragment} {rows : List (Text × Node)}

-- While a choice is still being put together the others are empty or filled already.
theorem Whole.filled (whole : Whole node f) : Whole node.filled f.filled := by
  induction whole with
  | single => exact .single
  | var _ ih => exact .var ih
  | sequenceNil => exact .sequenceNil
  | sequenceCons _ _ first others => exact .sequenceCons first others
  | anyNil => exact .anyCons .sequenceNil .anyNil
  | anyCons _ rest first others =>
    cases rest with
    | anyNil => exact .anyCons first .anyNil
    | anyCons => exact .anyCons first others
  | repetition _ ih => exact .repetition ih

theorem Started.filled (started : Started node f rows) :
    Started node.filled f.filled (rows.map Fragment.fillRow) := by
  induction started with
  | single => exact .single
  | var _ ih => exact .var ih
  | sequenceNil => exact .sequenceNil
  | sequenceOne _ ih => exact .sequenceOne ih
  | sequenceCut someHead someTail _ finished _ inside beyond =>
    have cut := Started.sequenceCut (filledAll_ne_nil someHead) (filledAll_ne_nil someTail) inside
      finished.filled beyond
    simpa [Node.filled, filledAll_append, Fragment.filled, Fragment.filledAll, Fragment.orEmpty,
      Fragment.filledAll_append, Fragment.rows, Fragment.filledAll_rows] using cut
  | anyNil =>
    have nothing : Started (.sequence 0 none []) (.sequence []) [] := .sequenceNil
    exact .anyCons nothing .anyNil
  | anyCons _ rest first others =>
    rw [List.map_append]
    cases rest with
    | anyNil => exact .anyCons first .anyNil
    | anyCons => exact .anyCons first others
  | repetition _ finished ih =>
    rw [List.map_append, ← Fragment.filled_rows]
    exact .repetition ih finished.filled

end Node
end Typeahead
