import Typeahead.Proofs.Grammar.Matching
import Typeahead.Proofs.Node.Building
import Typeahead.Proofs.Node.Nesting

namespace Typeahead

-- A match that a pattern made.
structure Derived.Makes (d : Derived) (m : Match) : Prop where
  rows : m.rows = d.rows
  run : d.run m.input = some m.marks

theorem Match.set_of_row {m : Match} {row : GroupRow} (member : row ∈ m.rows)
    (took : (m.rowSpan? row).isSome) :
    ∃ node span, (node, some span) ∈ m.resolve ∧ node.id = row.node.id := by
  have own : row ∈ rowsOf row.node.id m.rows := by simp [rowsOf, member]
  obtain ⟨first, head⟩ := Option.isSome_iff_exists.mp
    (List.isSome_head?.mpr (List.ne_nil_of_mem own))
  have set := List.findSome?_isSome_iff.mpr ⟨row, own, took⟩
  obtain ⟨span, found⟩ := Option.isSome_iff_exists.mp set
  have identity : first.node.id = row.node.id := by
    have among := List.mem_of_head? head
    simpa using (List.mem_filter.mp among).2
  refine ⟨first.node, span, ?_, identity⟩
  rw [mem_resolve, identity, entryOf?_resolve, head, found]
  rfl

theorem Match.Reads.set_of_captured {m : Match} {captures : List Capture} {c : Capture}
    (reads : m.Reads captures) (member : c ∈ captures) :
    ∃ node span, (node, some span) ∈ m.resolve ∧ node.id = c.node.id := by
  obtain ⟨row, inside, named, stands⟩ := reads.among c member
  rw [← stands]
  refine Match.set_of_row inside ?_
  rw [reads.spans row inside, Option.isSome_map]
  exact List.find?_isSome.mpr ⟨c, List.mem_reverse.mpr member, by simp [named]⟩

namespace Grammar
variable {g : Grammar} {root node : Node} {mode : Mode} {input : Text} {m : Match}
  {span : Text.Span} {limits : Limits}

theorem matchWith_made (found : g.matchWith mode input = some m) :
    m.input = input ∧ (m.complete = true ∧ g.whole.Makes m ∨
      m.complete = false ∧ g.whole.run input = none ∧ g.started.Makes m) := by
  unfold matchWith at found
  split at found
  · rename_i marks run
    cases found
    exact ⟨rfl, .inl ⟨rfl, rfl, run⟩⟩
  · rename_i unfinished
    cases mode with
    | whole => cases found
    | started =>
      obtain ⟨marks, run, rfl⟩ := Option.map_eq_some_iff.mp found
      exact ⟨rfl, .inr ⟨rfl, unfinished, rfl, run⟩⟩

theorem Compiled.visits (compiled : g.Compiled root) (found : g.matchWith mode input = some m) :
    m.input = input ∧ m.rows.map GroupRow.node ⊆ root.variableNodes ∧ ∃ captures, m.Reads captures ∧
      root.Explains 0 input (captures.map Capture.visit) := by
  obtain ⟨rfl, ⟨_, made⟩ | ⟨_, _, made⟩⟩ := matchWith_made found
  · obtain ⟨f, whole, comes⟩ := compiled.whole
    obtain ⟨nodes, captures, reads, derives⟩ := comes.reads whole.agrees made.run made.rows
    exact ⟨rfl, by rw [nodes, whole.nodes]; exact List.Subset.refl _, captures, reads, .inl derives⟩
  · obtain ⟨f, rows, started, comes⟩ := compiled.started
    obtain ⟨nodes, captures, reads, begins⟩ := comes.reads started.agrees made.run made.rows
    exact ⟨rfl, by rw [nodes]; exact started.nodes, captures, reads, .inr begins⟩

theorem Compiled.resolved (compiled : g.Compiled root) (found : g.matchWith mode input = some m)
    {span : Option Text.Span} (member : (node, span) ∈ m.resolve) :
    node ∈ root.walk ∧ node.asVariable.isSome := by
  obtain ⟨_, nodes, _⟩ := compiled.visits found
  obtain ⟨row, inside, rfl⟩ := Match.row_of_mem_resolve member
  exact List.mem_filter.mp (nodes (List.mem_map_of_mem inside))

-- A variable has a text of its child wherever more of the input follows. At the end of the input it
-- has what can still become one.
theorem matchStarted_texts (characters : root.HasCharacters) (coherent : root.Coherent)
    (compiled : compile limits root = .ok g) (found : g.matchStarted input = some m)
    (member : (node, some span) ∈ m.resolve) :
    ∃ i info child own, node = .var i info child ∧ Text.slice? span input = some own ∧
      span.start ≤ span.stop ∧ span.stop ≤ Text.bytes input ∧
      (span.stop < Text.bytes input → own ∈ child.language) ∧
      (span.stop = Text.bytes input → ∃ rest, own ++ rest ∈ child.language) := by
  have made := Grammar.compiled characters.atoms compiled
  obtain ⟨_, _, captures, reads, explains⟩ := made.visits found
  obtain ⟨known, isVariable⟩ := made.resolved found member
  obtain ⟨c, captured, same, spans⟩ := reads.captured member
  have visited : c.visit ∈ captures.map Capture.visit := List.mem_map_of_mem captured
  obtain rfl : c.node = node := coherent _ (explains.visited visited).1 _ known same
  obtain ⟨before, own, after, covers, finished, unfinished⟩ :=
    explains.text_of_visit (characters.live made.valid) visited
  obtain ⟨_, order, inside⟩ := covers.within
  rw [Nat.zero_add] at inside
  have slice := covers.slice
  rw [← spans]
  cases variable' : c.node with
  | var i info child =>
    have stands : c.visit.node = .var i info child := variable'
    rw [stands] at finished unfinished
    refine ⟨i, info, child, own, rfl, slice, order, inside, fun before' => finished ?_, fun _ => unfinished⟩
    rintro rfl
    have stop : c.span.stop = 0 + Text.bytes input := covers.last
    omega
  | _ => rw [variable'] at isVariable; cases isVariable

def key : Node := .var 1 { name := "key".toList } (.single 0 ⟨"[a-c]".toList⟩)

def pair : Node := .var 4 { name := "pair".toList } (.sequence 3 none [key, .single 2 ⟨"[=]".toList⟩])

def number : Node := .var 6 { name := "number".toList } (.single 5 ⟨"[0-9]".toList⟩)

def word : Node := .var 8 { name := "word".toList } (.single 7 ⟨"[a-c]".toList⟩)

def another : Node := .var 11 { name := "another".toList } (.single 10 ⟨"[a-c]".toList⟩)

def entry : Node := .sequence 15 none [pair, .any 16 [number, word],
  .repetition 14 (.sequence 13 none [.single 9 ⟨"[,]".toList⟩, another, .single 12 ⟨"[;]".toList⟩])]

theorem entry_walk : key ∈ entry.walk ∧ number ∈ entry.walk ∧ another ∈ entry.walk := by
  simp [entry, pair, Node.walk, Node.walkAll, Node.self_mem_walk]

theorem entry_distinct : (entry.walk.map Node.id).Nodup := by decide

theorem entry_characters : entry.HasCharacters :=
  hasCharacters_of_samples "a=7,;".toList (by decide +kernel)

theorem entry_run : ∃ g m, compile {} entry = .ok g ∧ g.matchStarted "a=7,b;,c".toList = some m ∧
    m.complete = false ∧ m.resolve.map (fun found => (found.1.id, found.2)) =
      [(4, some ⟨0, 2⟩), (1, some ⟨0, 1⟩), (6, some ⟨2, 3⟩), (8, none), (11, some ⟨7, 8⟩)] := by
  have run : ((compile {} entry).toOption.bind fun g => (g.matchStarted "a=7,b;,c".toList).map
      fun m => (m.complete, m.resolve.map fun found => (found.1.id, found.2))) =
      some (false, [(4, some ⟨0, 2⟩), (1, some ⟨0, 1⟩), (6, some ⟨2, 3⟩), (8, none), (11, some ⟨7, 8⟩)]) := by
    decide +kernel
  obtain ⟨g, compiled, run⟩ := compile_of_run run
  obtain ⟨m, found, equal⟩ := Option.map_eq_some_iff.mp run
  exact ⟨g, m, compiled, found, (Prod.mk.inj equal).1, (Prod.mk.inj equal).2⟩

theorem entry_resolved (compiled : compile {} entry = .ok g) (found : g.matchWith mode input = some m)
    {span : Option Text.Span} (known : node ∈ entry.walk)
    (reported : (node.id, span) ∈ m.resolve.map fun found => (found.1.id, found.2)) :
    (node, span) ∈ m.resolve := by
  obtain ⟨⟨other, _⟩, member, equal⟩ := List.mem_map.mp reported
  obtain ⟨same, rfl⟩ := Prod.mk.inj equal
  have inside := ((Grammar.compiled entry_characters.atoms compiled).resolved found member).1
  obtain rfl := Node.coherent_of_nodup entry_distinct _ inside _ known same
  exact member

theorem entry_texts : ∃ g m, compile {} entry = .ok g ∧ g.matchStarted "a=7,b;,c".toList = some m ∧
    (another, some ⟨7, 8⟩) ∈ m.resolve ∧
    ∃ i info child own, another = .var i info child ∧
      Text.slice? ⟨7, 8⟩ "a=7,b;,c".toList = some own ∧ ∃ rest, own ++ rest ∈ child.language := by
  obtain ⟨g, m, compiled, found, _, spans⟩ := entry_run
  have member : (another, some ⟨7, 8⟩) ∈ m.resolve :=
    entry_resolved compiled found entry_walk.2.2 (spans ▸ by decide)
  obtain ⟨i, info, child, own, variable', slice, _, _, _, last⟩ := matchStarted_texts entry_characters
    (Node.coherent_of_nodup entry_distinct) compiled found member
  exact ⟨g, m, compiled, found, member, i, info, child, own, variable', slice, last (by decide)⟩

end Grammar
end Typeahead
