import Typeahead.Proofs.Grammar.Resolution
import Typeahead.Proofs.Grammar.Visits
import Typeahead.Proofs.Node.Firsts

namespace Typeahead

namespace GroupTable

def nodes (table : GroupTable) : List Node := table.rows.map Prod.snd

end GroupTable

namespace Node

def HasName (name : Text) (node : Node) : Prop := ∃ info, node.asVariable = some info ∧ info.name = name

instance (name : Text) (node : Node) : Decidable (node.HasName name) :=
  decidable_of_iff (node.asVariable.any (·.name = name)) (by simp [HasName, Option.any_eq_true])

-- Of the variables with one name the one that gives it a value.
def bearer? (name : Text) (nodes : List Node) : Option Node :=
  nodes.reverse.find? fun node => node.HasName name

theorem wholePattern_nodes (root : Node) : root.wholePattern.2.nodes = root.variableNodes := by
  obtain ⟨f, _, ⟨whole, rfl, _⟩, run, _⟩ := emits_whole root .empty
  rw [wholePattern, run]
  exact whole.nodes

theorem startedPattern_firsts (root : Node) :
    firsts root.startedPattern.2.nodes = firsts root.variableNodes := by
  obtain ⟨f, rows, ⟨started, _⟩, run, _⟩ := emits_started root .empty
  rw [startedPattern, run]
  exact started.firsts

end Node

namespace Match
variable {m : Match} {entries : List (Node × Option Text.Span)} {node : Node}
  {span : Option Text.Span} {name : Text}

theorem foldl_settle_nodes (spanOf : GroupRow → Option Text.Span) (rows : List GroupRow)
    (found : List (Node × Option Text.Span)) :
    (rows.foldl (fun found row => settle row.node (spanOf row) found) found).map Prod.fst =
      found.map Prod.fst ++
        (Node.firsts (rows.map GroupRow.node)).filter (·.id ∉ found.map (·.1.id)) := by
  induction rows generalizing found with
  | nil => simp [Node.firsts]
  | cons row rows ih =>
    rw [List.foldl_cons, ih, settle_nodes, settle_ids, List.map_cons, Node.firsts]
    by_cases known : row.node.id ∈ found.map (·.1.id)
    · rw [if_pos known, if_pos known, List.filter_cons_of_neg (by simpa using known), List.filter_filter]
      congr 1
      refine List.filter_congr fun other _ => ?_
      by_cases same : other.id = row.node.id
      · simp [same, known]
      · simp [same]
    · rw [if_neg known, if_neg known, List.filter_cons_of_pos (by simpa using known), List.filter_filter,
        List.append_assoc, List.singleton_append]
      congr 2
      refine List.filter_congr fun other _ => ?_
      simp only [List.mem_append, List.mem_singleton, not_or, Bool.decide_and, ne_eq]

theorem resolve_nodes : m.resolve.map Prod.fst = Node.firsts (m.rows.map GroupRow.node) := by
  rw [resolve, foldl_settle_nodes]
  simp

-- The names are given values one entry after the other, so that the last with a name has the word.

def valueOf (m : Match) (info : Variable) (span : Option Text.Span) : Option Text :=
  span.map fun s => info.unwrap (Text.slice s m.input)

def assigned (m : Match) (entries : List (Node × Option Text.Span)) : List (Text × Option Text) :=
  entries.foldl
    (fun found (node, span) =>
      match node.asVariable with
      | none => found
      | some info => Keyed.put info.name (m.valueOf info span) found)
    []

theorem assignments_eq : m.assignments = m.assigned m.resolve := rfl

theorem assigned_concat : m.assigned (entries ++ [(node, span)]) =
    match node.asVariable with
    | none => m.assigned entries
    | some info => Keyed.put info.name (m.valueOf info span) (m.assigned entries) := by
  rw [assigned, List.foldl_append]
  rfl

theorem assigned_nodup : ((m.assigned entries).map Prod.fst).Nodup := by
  induction entries using List.reverseRecOn with
  | nil => exact List.nodup_nil
  | append_singleton entries entry ih =>
    rw [assigned_concat]
    split
    · exact ih
    · exact Keyed.put_nodup _ _ _ ih

theorem mem_assigned :
    name ∈ (m.assigned entries).map Prod.fst ↔ ∃ node ∈ entries.map Prod.fst, node.HasName name := by
  induction entries using List.reverseRecOn with
  | nil => simp [assigned]
  | append_singleton entries entry ih =>
    obtain ⟨node, span⟩ := entry
    rw [assigned_concat, List.map_append]
    cases variable' : node.asVariable with
    | none => simp [ih, or_and_right, exists_or, Node.HasName, variable']
    | some info =>
      simp only [Keyed.mem_put_keys, ih, List.mem_append, or_and_right, exists_or]
      simp [Node.HasName, variable', eq_comm]

theorem find?_assigned (last : entries.reverse.find? (·.1.HasName name) = some (node, span)) :
    ∃ info, node.asVariable = some info ∧
      Keyed.find? name (m.assigned entries) = some (m.valueOf info span) := by
  induction entries using List.reverseRecOn with
  | nil => cases last
  | append_singleton entries entry ih =>
    obtain ⟨other, place⟩ := entry
    rw [List.reverse_concat] at last
    rw [assigned_concat]
    by_cases here : other.HasName name
    · rw [List.find?_cons_of_pos (by simpa using here)] at last
      cases last
      obtain ⟨info, variable', rfl⟩ := here
      refine ⟨info, variable', ?_⟩
      rw [variable']
      exact Keyed.find?_put_same _ _ _
    · rw [List.find?_cons_of_neg (by simpa using here)] at last
      obtain ⟨info, variable', value⟩ := ih last
      refine ⟨info, variable', ?_⟩
      cases variable'' : other.asVariable with
      | none => exact value
      | some info' =>
        have apart : name ≠ info'.name := fun equal => here ⟨info', variable'', equal.symm⟩
        rw [← value]
        exact Keyed.find?_put_other _ _ _ _ apart

-- What a match says of these variables, in this order.
structure Tells (m : Match) (nodes : List Node) : Prop where
  placed : m.resolve.map Prod.fst = nodes
  named : ∀ name, name ∈ m.assignments.map Prod.fst ↔ ∃ node ∈ nodes, node.HasName name
  once : (m.assignments.map Prod.fst).Nodup
  winner : ∀ name node, Node.bearer? name nodes = some node → ∃ info span,
    node.asVariable = some info ∧ (node, span) ∈ m.resolve ∧
    Keyed.find? name m.assignments = some (span.map fun s => info.unwrap (Text.slice s m.input))

theorem tells_rows : m.Tells (Node.firsts (m.rows.map GroupRow.node)) where
  placed := resolve_nodes
  named name := by
    rw [assignments_eq, mem_assigned, resolve_nodes]
  once := assigned_nodup
  winner := by
    intro name node bearer
    rw [← resolve_nodes, Node.bearer?, ← List.map_reverse, List.find?_map] at bearer
    obtain ⟨⟨_, span⟩, last, rfl⟩ := Option.map_eq_some_iff.mp bearer
    obtain ⟨info, variable', value⟩ := find?_assigned last
    exact ⟨info, span, variable', List.mem_reverse.mp (List.mem_of_find?_eq_some last), value⟩

end Match

namespace Derived

theorem build_rows {limits : Limits} {text : Text} {groups : GroupTable} {d : Derived}
    (built : build limits text groups = .ok d) :
    d.groups = groups ∧ d.rows.map GroupRow.node = groups.nodes := by
  unfold build at built
  split at built
  · cases built
  · simp only at built
    split at built
    · cases built
    · cases built
      refine ⟨rfl, ?_⟩
      rw [List.map_map]
      rfl

end Derived

namespace Grammar
variable {g : Grammar} {root : Node} {limits : Limits}

theorem tables_agree (compiled : compile limits root = .ok g) :
    g.variableNodes = root.variableNodes ∧ g.whole.groups.nodes = root.variableNodes ∧
    Node.firsts g.started.groups.nodes = Node.firsts root.variableNodes ∧
    ∀ mode input m, g.matchWith mode input = some m → m.Tells (Node.firsts root.variableNodes) := by
  obtain ⟨tree, _, whole, started⟩ := compile_built compiled
  obtain ⟨wholeGroups, wholeRows⟩ := Derived.build_rows (build_of_built whole)
  obtain ⟨startedGroups, startedRows⟩ := Derived.build_rows (build_of_built started)
  have nodes := Node.wholePattern_nodes root
  have firsts := Node.startedPattern_firsts root
  refine ⟨by rw [variableNodes, tree], by rw [wholeGroups, nodes], by rw [startedGroups, firsts], ?_⟩
  intro mode input m found
  -- either table puts the same nodes first
  have rows : Node.firsts (m.rows.map GroupRow.node) = Node.firsts root.variableNodes := by
    obtain ⟨_, ⟨_, made⟩ | ⟨_, _, made⟩⟩ := matchWith_made found
    · rw [made.rows, wholeRows, nodes]
    · rw [made.rows, startedRows, firsts]
  rw [← rows]
  exact Match.tells_rows

-- A node at two places, and another with its name.

def sound : Node := .var 1 { name := "sound".toList } (.single 0 ⟨"[a-z]".toList⟩)

def answer : Node := .var 3 { name := "sound".toList } (.single 2 ⟨"[a-z]".toList⟩)

def echoes : Node := .repetition 5 (.sequence 4 none [sound, answer, sound])

theorem echoes_tables : ∃ g m, compile {} echoes = .ok g ∧
    g.matchWith .started "abade".toList = some m ∧ m.resolve.map Prod.fst = [sound, answer] ∧
    ∃ span, (answer, span) ∈ m.resolve ∧
      Keyed.find? "sound".toList m.assignments = some (span.map fun s => Text.slice s m.input) := by
  have accepted :
      ((compile {} echoes).toOption.bind (·.matchWith .started "abade".toList)).isSome := by
    decide +kernel
  obtain ⟨m, run⟩ := Option.isSome_iff_exists.mp accepted
  obtain ⟨g, compiled, found⟩ := compile_of_run run
  obtain ⟨_, _, _, tells⟩ := tables_agree compiled
  have nodes : Node.firsts echoes.variableNodes = [sound, answer] := by
    simp [echoes, sound, answer, Node.variableNodes, Node.walk, Node.walkAll, Node.firsts,
      Node.asVariable, Node.id]
  have told := nodes ▸ tells .started _ m found
  have bearer : Node.bearer? "sound".toList [sound, answer] = some answer := by
    simp [Node.bearer?, Node.HasName, answer, Node.asVariable]
  obtain ⟨info, span, variable', member, value⟩ := told.winner _ _ bearer
  cases variable'
  exact ⟨g, m, compiled, found, told.placed, span, member, value⟩

end Grammar
end Typeahead
