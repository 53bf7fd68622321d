import Typeahead.Proofs.GroupTable.Names
import Typeahead.Proofs.Node.Fragment
import Typeahead.Proofs.Text.Number

namespace Typeahead

theorem Node.Numbered.nodup {rows : List (Text × Node)} {n : Nat} (numbered : Node.Numbered n rows) :
    (rows.map Prod.fst).Nodup := by
  rw [numbered]
  exact List.Nodup.map (fun _ _ => GroupTable.nameOf_injective) (List.nodup_range' ..)

namespace GroupTable
variable {table : GroupTable} {node found : Node} {name : Text} {i : Nat}

theorem stripBeginning?_append (a b : Text) : stripBeginning? a (a ++ b) = some b := by
  induction a with
  | nil => rfl
  | cons c a ih => rwa [List.cons_append, stripBeginning?, if_pos rfl]

-- Every row is named for its place.
def Placed (table : GroupTable) : Prop := Node.Numbered 0 table.rows

theorem placed_empty : empty.Placed := Node.numbered_nil 0

theorem Placed.allocate (placed : table.Placed) (node : Node) : (allocate node table).2.Placed := by
  have one : Node.Numbered (0 + table.rows.length) [(nameOf table.rows.length, node)] := by
    simp [Node.Numbered]
  exact Node.Numbered.append placed one

theorem Placed.name_eq (placed : table.Placed) {row : Text × Node} (here : table.rows[i]? = some row) :
    row.1 = nameOf i := by
  have named : (table.rows.map Prod.fst)[i]? = some row.1 := by rw [List.getElem?_map, here]; rfl
  obtain ⟨inside, _⟩ := List.getElem?_eq_some_iff.mp here
  rw [placed, List.getElem?_map, List.getElem?_range' inside] at named
  simpa using (Option.some.inj named).symm

def allocateAll (nodes : List Node) : StateM GroupTable (List Text) :=
  Node.emitAll (nodes.map Node.allocate)

structure Allocated (table : GroupTable) (nodes : List Node) (names : List Text) (after : GroupTable) :
    Prop where
  placed : after.Placed
  length : names.length = nodes.length
  rows : after.rows = table.rows ++ names.zip nodes

theorem allocated (placed : table.Placed) (nodes : List Node) :
    Allocated table nodes ((allocateAll nodes).run table).1 ((allocateAll nodes).run table).2 := by
  induction nodes generalizing table with
  | nil => exact ⟨placed, rfl, (List.append_nil _).symm⟩
  | cons node nodes ih =>
    have later := ih (placed.allocate node)
    refine ⟨later.placed, congrArg (· + 1) later.length, ?_⟩
    exact later.rows.trans (List.append_assoc ..)

theorem row_of_node? (known : table.node? name = some node) : (name, node) ∈ table.rows := by
  obtain ⟨_, _, known⟩ := Option.bind_eq_some_iff.mp known
  obtain ⟨_, _, known⟩ := Option.bind_eq_some_iff.mp known
  obtain ⟨row, here, known⟩ := Option.bind_eq_some_iff.mp known
  split at known
  · rename_i spelled
    rw [← spelled, ← Option.some.inj known]
    exact List.mem_of_getElem? here
  · cases known

-- A place that is no word of the machine would not be found again.
theorem Placed.node?_iff (placed : table.Placed) (fits : table.rows.length ≤ Text.count64) :
    table.node? name = some node ↔ (name, node) ∈ table.rows := by
  refine ⟨row_of_node?, fun member => ?_⟩
  obtain ⟨i, here⟩ := List.getElem?_of_mem member
  obtain ⟨inside, _⟩ := List.getElem?_eq_some_iff.mp here
  have spelled : name = nameOf i := placed.name_eq here
  subst spelled
  rw [node?, nameOf, stripBeginning?_append]
  have word := Text.word64?_toDigits (Nat.lt_of_lt_of_le inside fits)
  simp only [Option.bind_eq_bind, Option.bind_some, word, here]
  exact if_pos rfl

theorem mem_namesFor_iff :
    name ∈ table.namesFor node ↔ ∃ found, (name, found) ∈ table.rows ∧ found.id = node.id := by
  simp only [namesFor, List.mem_map, List.mem_filter, decide_eq_true_eq]
  constructor
  · rintro ⟨⟨_, found⟩, ⟨member, same⟩, rfl⟩
    exact ⟨found, member, same⟩
  · rintro ⟨found, member, same⟩
    exact ⟨(name, found), ⟨member, same⟩, rfl⟩

-- However often nodes come, every name finds the node it was given to and no other text finds any; the
-- names of a node are those that find it, as they were given. Nodes are told apart by their identity.
-- The place of a row is a word of the machine, so that a table has no more rows than there are words.
theorem names_found {nodes : List Node} {names : List Text}
    (run : (allocateAll nodes).run empty = (names, table)) (fits : nodes.length ≤ Text.count64) :
    names.length = nodes.length ∧ names.Nodup ∧
    (∀ name, (table.node? name).isSome ↔ name ∈ names) ∧
    (∀ name node, table.node? name = some node ↔
      ∃ i : Nat, names[i]? = some name ∧ nodes[i]? = some node) ∧
    (∀ name node, name ∈ table.namesFor node ↔
      ∃ found, table.node? name = some found ∧ found.id = node.id) ∧
    ∀ node, (table.namesFor node).Sublist names := by
  obtain ⟨placed, length, rows⟩ := allocated placed_empty nodes
  rw [run] at placed length rows
  have rows : table.rows = names.zip nodes := rows
  have keys : table.rows.map Prod.fst = names := by
    rw [rows]
    exact List.map_fst_zip (Nat.le_of_eq length)
  have known : ∀ name node, table.node? name = some node ↔ (name, node) ∈ table.rows := by
    have few : table.rows.length ≤ Text.count64 := by
      rw [← List.length_map Prod.fst, keys]
      exact length ▸ fits
    exact fun name node => placed.node?_iff few
  have distinct : names.Nodup := keys ▸ Node.Numbered.nodup placed
  refine ⟨length, distinct, fun name => ?_, fun name node => ?_, fun name node => ?_, fun node => ?_⟩
  · rw [← keys]
    simp [Option.isSome_iff_exists, known]
  · rw [known, rows, List.mem_iff_getElem?]
    simp [List.getElem?_zip_eq_some]
  · simp only [mem_namesFor_iff, known]
  · exact keys ▸ List.filter_sublist.map Prod.fst

-- A node that comes twice. A number with a sign or a zero in front leads to a row, but is no name.

def echo : List Node := [.single 0 .whitespace, .single 1 .whitespace, .single 0 .whitespace]

theorem echo_found : ∃ table,
    (allocateAll echo).run empty = (["node_0".toList, "node_1".toList, "node_2".toList], table) ∧
    echo.length ≤ Text.count64 ∧ table.node? "node_2".toList = some (.single 0 .whitespace) ∧
    table.node? "node_+1".toList = none ∧ table.node? "node_01".toList = none ∧
    table.node? "node_".toList = none ∧ table.node? "node_18446744073709551617".toList = none ∧
    "node_2".toList ∈ table.namesFor (.single 0 .whitespace) := by
  have run : (allocateAll echo).run empty =
      (["node_0".toList, "node_1".toList, "node_2".toList], ((allocateAll echo).run empty).2) :=
    Prod.ext (by decide +kernel) rfl
  have fits : echo.length ≤ Text.count64 := by decide
  obtain ⟨_, _, known, places, named, _⟩ := names_found run fits
  have unknown : ∀ name, name ∉ ["node_0".toList, "node_1".toList, "node_2".toList] →
      ((allocateAll echo).run empty).2.node? name = none :=
    fun name other => Option.not_isSome_iff_eq_none.mp fun found => other ((known name).mp found)
  have third := (places "node_2".toList (.single 0 .whitespace)).mpr ⟨2, rfl, rfl⟩
  exact ⟨_, run, fits, third, unknown _ (by decide), unknown _ (by decide), unknown _ (by decide),
    unknown _ (by decide), (named _ _).mpr ⟨_, third, rfl⟩⟩

end GroupTable
end Typeahead
