import Typeahead.Proofs.Node.Reading

namespace Typeahead
namespace Pattern.Tree

-- The groups that record something, an outer one before those inside it.
mutual
def groups : Tree → List (Nat × Tree)
  | .empty => []
  | .char _ => []
  | .set _ => []
  | .look _ => []
  | .bracket _ _ => []
  | .repetition _ _ _ body => groups body
  | .plainGroup body => groups body
  | .group index body => (index, body) :: groups body
  | .concat items => groupsOfAll items
  | .choice branches => groupsOfAll branches

def groupsOfAll : List Tree → List (Nat × Tree)
  | [] => []
  | item :: rest => groups item ++ groupsOfAll rest
end

-- The tree of the same text where so many groups come before it.
mutual
def behind (before : Nat) : Tree → Tree
  | .empty => .empty
  | .char c => .char c
  | .set s => .set s
  | .look l => .look l
  | .bracket negated inner => .bracket negated inner
  | .repetition least most greedy body => .repetition least most greedy (behind before body)
  | .plainGroup body => .plainGroup (behind before body)
  | .group index body => .group (before + index) (behind before body)
  | .concat items => .concat (allBehind before items)
  | .choice branches => .choice (allBehind before branches)

def allBehind (before : Nat) : List Tree → List Tree
  | [] => []
  | item :: rest => behind before item :: allBehind before rest
end

variable {before : Nat} {tree : Tree}

theorem groupsOfAll_append (a b : List Tree) : groupsOfAll (a ++ b) = groupsOfAll a ++ groupsOfAll b := by
  induction a with
  | nil => rfl
  | cons item a ih => rw [List.cons_append, groupsOfAll, ih, groupsOfAll, List.append_assoc]

theorem ofItems_groups (items : List Tree) : (ofItems items).groups = groupsOfAll items := by
  unfold ofItems
  split <;> simp [groups, groupsOfAll]

theorem ofBranches_groups (branches : List Tree) : (ofBranches branches).groups = groupsOfAll branches := by
  unfold ofBranches
  split <;> simp [groups, groupsOfAll]

theorem allBehind_append (a b : List Tree) :
    allBehind before (a ++ b) = allBehind before a ++ allBehind before b := by
  induction a with
  | nil => rfl
  | cons item a ih => rw [List.cons_append, allBehind, ih, allBehind, List.cons_append]

theorem ofItems_behind (items : List Tree) :
    (ofItems items).behind before = ofItems (allBehind before items) := by
  match items with
  | [] | [_] | _ :: _ :: _ => simp [ofItems, behind, allBehind]

theorem ofBranches_behind (branches : List Tree) :
    (ofBranches branches).behind before = ofBranches (allBehind before branches) := by
  match branches with
  | [] | [_] | _ :: _ :: _ => simp [ofBranches, behind, allBehind]

theorem times_groups (times : Times) : (times.apply tree).groups = tree.groups := by
  cases times <;> rfl

theorem times_behind (times : Times) :
    (times.apply tree).behind before = times.apply (tree.behind before) := by
  cases times <;> rfl

end Pattern.Tree

open Pattern (Tree)

theorem CharClass.OneItem.bare {c : CharClass} (one : c.OneItem) :
    c.tree.groups = [] ∧ ∀ before, c.tree.behind before = c.tree := by
  rcases one.isItem.kind with character | ⟨l, look⟩
  · cases tree : c.tree with
    | char | set | bracket => exact ⟨rfl, fun _ => rfl⟩
    | _ => rw [tree] at character; cases character
  · rw [look]
    exact ⟨rfl, fun _ => rfl⟩

namespace Fragment

-- Where a group stands in a fragment.
inductive Holds : Fragment → Group → Prop
  | here : Holds (.group times name node body) ⟨name, node, body⟩
  | inside (below : Holds body g) : Holds (.group times name node body) g
  | sequence (part : f ∈ parts) (below : Holds f g) : Holds (.sequence parts) g
  | choice (branch : f ∈ branches) (below : Holds f g) : Holds (.choice times branches) g

variable {f : Fragment} {g : Group}

mutual
theorem groups_rows : ∀ f : Fragment, (f.groups.map fun g => (g.name, g.node)) = f.rows
  | .atom _ _ => rfl
  | .group _ _ _ body => congrArg (_ :: ·) (groups_rows body)
  | .sequence parts => groups_rowsOfAll parts
  | .choice _ branches => groups_rowsOfAll branches

theorem groups_rowsOfAll : ∀ parts : List Fragment,
    ((groupsOfAll parts).map fun g => (g.name, g.node)) = rowsOfAll parts
  | [] => rfl
  | f :: parts => by
    rw [groupsOfAll, List.map_append, groups_rows f, groups_rowsOfAll parts, rowsOfAll]
end

theorem groups_names (f : Fragment) : f.groups.map Group.name = f.names := by
  rw [names, ← groups_rows, List.map_map]
  rfl

mutual
theorem items_groups (index : Text → Nat) : ∀ f : Fragment, f.Readable CharClass.OneItem →
    Tree.groupsOfAll (f.items index) =
      f.groups.map fun g => (index g.name, Tree.ofItems (g.body.items index))
  | .atom times c, readable => by
    simp [items, Tree.groupsOfAll, Tree.times_groups, (CharClass.OneItem.bare readable).1, groups]
  | .group times name node body, readable => by
    simp [items, Tree.groupsOfAll, Tree.times_groups, Tree.groups, Tree.ofItems_groups, groups,
      items_groups index body readable.2]
  | .sequence parts, readable => itemsOfAll_groups index parts readable
  | .choice times branches, readable => by
    simp [items, Tree.groupsOfAll, Tree.times_groups, Tree.groups, Tree.ofBranches_groups, groups,
      trees_groups index branches readable.2]

theorem itemsOfAll_groups (index : Text → Nat) : ∀ parts : List Fragment,
    AllReadable CharClass.OneItem parts → Tree.groupsOfAll (itemsOfAll index parts) =
      (groupsOfAll parts).map fun g => (index g.name, Tree.ofItems (g.body.items index))
  | [], _ => rfl
  | f :: parts, readable => by
    rw [itemsOfAll, Tree.groupsOfAll_append, items_groups index f readable.1,
      itemsOfAll_groups index parts readable.2, groupsOfAll, List.map_append]

theorem trees_groups (index : Text → Nat) : ∀ branches : List Fragment,
    AllReadable CharClass.OneItem branches → Tree.groupsOfAll (trees index branches) =
      (groupsOfAll branches).map fun g => (index g.name, Tree.ofItems (g.body.items index))
  | [], _ => rfl
  | f :: branches, readable => by
    rw [trees, Tree.groupsOfAll, Tree.ofItems_groups, items_groups index f readable.1,
      trees_groups index branches readable.2, groupsOfAll, List.map_append]
end

mutual
theorem items_behind {index index' : Text → Nat} {before : Nat} : ∀ f : Fragment,
    f.Readable CharClass.OneItem → (∀ name ∈ f.names, index name = before + index' name) →
    f.items index = Tree.allBehind before (f.items index')
  | .atom times c, readable, _ => by
    simp [items, Tree.allBehind, Tree.times_behind, (CharClass.OneItem.bare readable).2]
  | .group times name node body, readable, later => by
    obtain ⟨own, later⟩ := List.forall_mem_cons.mp later
    simp [items, Tree.allBehind, Tree.times_behind, Tree.behind, Tree.ofItems_behind, own,
      items_behind body readable.2 later]
  | .sequence parts, readable, later => itemsOfAll_behind parts readable later
  | .choice times branches, readable, later => by
    simp [items, Tree.allBehind, Tree.times_behind, Tree.behind, Tree.ofBranches_behind,
      trees_behind branches readable.2 later]

theorem itemsOfAll_behind {index index' : Text → Nat} {before : Nat} : ∀ parts : List Fragment,
    AllReadable CharClass.OneItem parts → (∀ name ∈ namesOfAll parts, index name = before + index' name) →
    itemsOfAll index parts = Tree.allBehind before (itemsOfAll index' parts)
  | [], _, _ => rfl
  | f :: parts, readable, later => by
    rw [namesOfAll_cons] at later
    obtain ⟨first, others⟩ := List.forall_mem_append.mp later
    rw [itemsOfAll, itemsOfAll, Tree.allBehind_append, items_behind f readable.1 first,
      itemsOfAll_behind parts readable.2 others]

theorem trees_behind {index index' : Text → Nat} {before : Nat} : ∀ branches : List Fragment,
    AllReadable CharClass.OneItem branches →
    (∀ name ∈ namesOfAll branches, index name = before + index' name) →
    trees index branches = Tree.allBehind before (trees index' branches)
  | [], _, _ => rfl
  | f :: branches, readable, later => by
    rw [namesOfAll_cons] at later
    obtain ⟨first, others⟩ := List.forall_mem_append.mp later
    rw [trees, trees, Tree.allBehind, Tree.ofItems_behind, items_behind f readable.1 first,
      trees_behind branches readable.2 others]
end

mutual
theorem holds_of_mem : ∀ f : Fragment, g ∈ f.groups → Holds f g
  | .group times name node body, member => by
    rcases List.mem_cons.mp member with rfl | member
    · exact .here
    · exact .inside (holds_of_mem body member)
  | .sequence parts, member =>
    let ⟨_, part, below⟩ := holds_of_mem_all parts member
    .sequence part below
  | .choice times branches, member =>
    let ⟨_, branch, below⟩ := holds_of_mem_all branches member
    .choice branch below

theorem holds_of_mem_all : ∀ parts : List Fragment, g ∈ groupsOfAll parts → ∃ f ∈ parts, Holds f g
  | f :: parts, member => by
    cases List.mem_append.mp member with
    | inl member => exact ⟨f, List.mem_cons_self .., holds_of_mem f member⟩
    | inr member =>
      obtain ⟨other, part, below⟩ := holds_of_mem_all parts member
      exact ⟨other, List.mem_cons_of_mem _ part, below⟩
end

section
variable {parts : List Fragment} {leaf : CharClass → Prop}

theorem renderAll_eq (parts : List Fragment) : renderAll parts = parts.map render := by
  induction parts with
  | nil => rfl
  | cons f parts ih => rw [renderAll, ih, List.map_cons]

theorem namesOfAll_eq (parts : List Fragment) : namesOfAll parts = (parts.map names).flatten := by
  induction parts with
  | nil => rfl
  | cons f parts ih => rw [namesOfAll_cons, ih, List.map_cons, List.flatten_cons]

theorem names_part (part : f ∈ parts) : f.names <:+: namesOfAll parts := by
  rw [namesOfAll_eq]
  exact List.infix_of_mem_flatten (List.mem_map_of_mem part)

theorem render_part (part : f ∈ parts) : f.render <:+: (renderAll parts).flatten := by
  rw [renderAll_eq]
  exact List.infix_of_mem_flatten (List.mem_map_of_mem part)

theorem joinBranches_part {text : Text} {texts : List Text} (branch : text ∈ texts) :
    text <:+: Node.joinBranches texts := by
  match texts, branch with
  | [only], branch =>
    rw [List.mem_singleton.mp branch]
    exact List.infix_refl _
  | first :: second :: rest, branch =>
    rcases List.mem_cons.mp branch with rfl | branch
    · exact List.infix_append' [] _ _
    · refine (joinBranches_part branch).trans ?_
      exact (List.infix_cons_iff.mpr (.inr (List.infix_refl _))).trans (List.suffix_append ..).isInfix

theorem readable_part (part : f ∈ parts) (readable : AllReadable leaf parts) : f.Readable leaf := by
  induction parts with
  | nil => cases part
  | cons first parts ih =>
    rcases List.mem_cons.mp part with rfl | part
    · exact readable.1
    · exact ih part readable.2

theorem Holds.readable (holds : Holds f g) (readable : f.Readable leaf) : g.body.Readable leaf := by
  induction holds with
  | here => exact readable.2
  | inside _ ih => exact ih readable.2
  | sequence part _ ih => exact ih (readable_part part readable)
  | choice branch _ ih => exact ih (readable_part branch readable.2)

theorem Holds.names (holds : Holds f g) : (g.name :: g.body.names) <:+: f.names := by
  induction holds with
  | here => exact List.infix_refl _
  | inside _ ih => exact ih.trans (List.infix_cons_iff.mpr (.inr (List.infix_refl _)))
  | sequence part _ ih | choice part _ ih => exact ih.trans (names_part part)

theorem Holds.render (holds : Holds f g) : Node.namedGroup g.name g.body.render <:+: f.render := by
  induction holds with
  | here => exact (List.prefix_append ..).isInfix
  | inside _ ih =>
    rename_i body times name node _
    refine ih.trans ⟨"(?P<".toList ++ name ++ ">".toList, ")".toList ++ times.mark, ?_⟩
    exact (List.append_assoc _ ")".toList times.mark).symm
  | sequence part _ ih => exact ih.trans (render_part part)
  | choice branch _ ih =>
    rename_i branches f _ times _
    have among : f.render ∈ renderAll branches := renderAll_eq branches ▸ List.mem_map_of_mem branch
    refine (ih.trans (joinBranches_part among)).trans ⟨"(?:".toList, ")".toList ++ times.mark, ?_⟩
    exact (List.append_assoc _ ")".toList times.mark).symm

end

theorem anchored_groups (readable : f.Readable CharClass.OneItem) : f.anchoredTree.groups =
    f.groups.map fun g => (f.number g.name, Tree.ofItems (g.body.items f.number)) := by
  simp [anchoredTree, Tree.groups, Tree.groupsOfAll, Tree.ofItems_groups,
    items_groups f.number f readable]

-- What a group of the tree holds is the tree of its text alone, behind the groups before it.
theorem group_read (readable : f.Readable CharClass.OneItem) (distinct : f.names.Nodup)
    (member : g ∈ f.groups) : ∃ index alone, f.names[index]? = some g.name ∧
      Pattern.read g.body.render = .ok alone ∧
      (index, alone.tree.behind (index + 1)) ∈ f.anchoredTree.groups := by
  have holds := holds_of_mem f member
  obtain ⟨before, after, names⟩ := holds.names
  have below := holds.readable readable
  have own : g.body.names.Nodup := ((List.sublist_cons_self ..).trans holds.names.sublist).nodup distinct
  have numbered : Indexed f.number 0 (before ++ (g.name :: g.body.names) ++ after) :=
    names ▸ indexed_number distinct
  have place : f.number g.name = before.length := by simpa using numbered.left.right.head
  have later : ∀ name ∈ g.body.names, f.number name = before.length + 1 + g.body.number name := by
    intro name inside
    obtain ⟨i, found⟩ := List.getElem?_of_mem inside
    rw [indexed_number own i name found, numbered.left.right.tail i name found]
    omega
  refine ⟨before.length, _, ?_, read_render below own, ?_⟩
  · rw [← names]
    simp
  · rw [anchored_groups readable, List.mem_map]
    refine ⟨g, member, ?_⟩
    rw [place, Tree.ofItems_behind, ← items_behind g.body below later]

theorem groups_numbered (readable : f.Readable CharClass.OneItem) (distinct : f.names.Nodup) :
    f.anchoredTree.groups.map Prod.fst = List.range f.names.length := by
  have tree : f.anchoredTree.groups.map Prod.fst = f.names.map f.number := by
    rw [anchored_groups readable, ← groups_names, List.map_map, List.map_map]
    rfl
  rw [tree]
  refine List.ext_getElem (by simp) fun i inside _ => ?_
  rw [List.getElem_map, List.getElem_range]
  exact distinct.idxOf_getElem i (by simpa using inside)

end Fragment
end Typeahead
