import Typeahead.Proofs.Grammar.Visits

namespace Typeahead.Grammar
variable {g : Grammar} {root : Node} {mode : Mode} {input : Text} {m : Match} {limits : Limits}

-- What a match says of variables at one place each: one reading of the text, in which every span is
-- that of a visit and every variable that was visited has a span.
theorem Compiled.reading (compiled : g.Compiled root) (once : Node.VariablesOnce root.walk)
    (found : g.matchWith mode input = some m) :
    ∃ visits, root.Explains 0 input visits ∧
      (∀ node span, (node, some span) ∈ m.resolve → ⟨node, span⟩ ∈ visits) ∧
      ∀ visit ∈ visits, ∃ span, (visit.node, some span) ∈ m.resolve := by
  obtain ⟨_, _, captures, reads, explains⟩ := compiled.visits found
  refine ⟨_, explains, ?_, ?_⟩
  · intro node span member
    obtain ⟨c, captured, same, rfl⟩ := reads.captured member
    have visited : c.visit ∈ captures.map Capture.visit := List.mem_map_of_mem captured
    obtain ⟨known, isVariable⟩ := compiled.resolved found member
    obtain rfl := once.same known isVariable (explains.visited visited).1 same
    exact visited
  · intro visit visited
    obtain ⟨c, captured, rfl⟩ := List.mem_map.mp visited
    obtain ⟨node, span, member, same⟩ := reads.set_of_captured captured
    obtain ⟨known, isVariable⟩ := explains.visited visited
    obtain rfl := once.same known isVariable (compiled.resolved found member).1 same
    exact ⟨span, member⟩

theorem spans_nested (atoms : root.HasAtoms) (once : Node.VariablesOnce root.walk)
    (compiled : compile limits root = .ok g) (found : g.matchWith mode input = some m)
    {x : Node} {own : Text.Span} (set : (x, some own) ∈ m.resolve) :
    (∀ i info child, root.Reaches 0 (.var i info child) → x ∈ child.walk →
      ∃ outer, (.var i info child, some outer) ∈ m.resolve ∧
        outer.start ≤ own.start ∧ own.stop ≤ outer.stop) ∧
    ∀ y span, (y, some span) ∈ m.resolve →
      (∀ k written nodes (i j : Nat) (a b : Node), root.Reaches 0 (.sequence k written nodes) → i < j →
        nodes[i]? = some a → nodes[j]? = some b → x ∈ a.walk → y ∈ b.walk → own.stop ≤ span.start) ∧
      ∀ k nodes (i j : Nat) (a b : Node), root.Reaches 0 (.any k nodes) → i ≠ j →
        nodes[i]? = some a → nodes[j]? = some b → ¬(x ∈ a.walk ∧ y ∈ b.walk) := by
  obtain ⟨visits, explains, visited, resolved⟩ :=
    (Grammar.compiled atoms compiled).reading once found
  have first := visited x own set
  constructor
  · intro i info child reaches below
    obtain ⟨outer, member, variable', start, stop, only⟩ := explains.enclosed reaches once first below
    obtain ⟨span, set'⟩ := resolved outer member
    -- it is visited once, so this is the visit it is set to
    have same : (⟨outer.node, span⟩ : Visit) = outer :=
      only _ (visited _ _ set') (congrArg Node.id variable')
    exact ⟨span, variable' ▸ set', by rwa [← same] at start, by rwa [← same] at stop⟩
  · intro y span set'
    have second := visited y span set'
    constructor
    · intro k written nodes i j a b reaches earlier left right inFirst inSecond
      exact explains.ordered_at reaches once earlier left right first inFirst second inSecond
    · rintro k nodes i j a b reaches different left right ⟨inFirst, inSecond⟩
      exact different (explains.one_child_at reaches once left right first inFirst second inSecond)

theorem entry_nested : ∃ g m, compile {} entry = .ok g ∧ g.matchStarted "a=7,b;,c".toList = some m ∧
    (key, some ⟨0, 1⟩) ∈ m.resolve ∧ (number, some ⟨2, 3⟩) ∈ m.resolve ∧
    (∃ outer, (pair, some outer) ∈ m.resolve ∧ outer.start ≤ 0 ∧ 1 ≤ outer.stop) ∧
    ∀ span, (word, some span) ∉ m.resolve := by
  obtain ⟨g, m, compiled, found, _, spans⟩ := entry_run
  have once := Node.variablesOnce_of_nodup entry_distinct
  have setKey : (key, some ⟨0, 1⟩) ∈ m.resolve :=
    entry_resolved compiled found entry_walk.1 (spans ▸ by decide)
  have setNumber : (number, some ⟨2, 3⟩) ∈ m.resolve :=
    entry_resolved compiled found entry_walk.2.1 (spans ▸ by decide)
  obtain ⟨enclosed, _⟩ := spans_nested entry_characters.atoms once compiled found setKey
  obtain ⟨_, others⟩ := spans_nested entry_characters.atoms once compiled found setNumber
  refine ⟨g, m, compiled, found, setKey, setNumber, ?_, fun span set => ?_⟩
  · have outermost : entry.Reaches 0 pair := .sequence (List.mem_cons_self ..) .here
    refine enclosed 4 _ _ outermost ?_
    exact Node.mem_walk_child (List.mem_cons_self ..) (Node.self_mem_walk key)
  · obtain ⟨_, exclusive⟩ := others word span set
    have choice : entry.Reaches 0 (.any 16 [number, word]) :=
      .sequence (List.mem_cons_of_mem _ (List.mem_cons_self ..)) .here
    exact exclusive 16 _ 0 1 number word choice (by decide) rfl rfl
      ⟨Node.self_mem_walk _, Node.self_mem_walk _⟩

end Typeahead.Grammar
