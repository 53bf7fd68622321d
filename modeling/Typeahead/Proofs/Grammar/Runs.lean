import Typeahead.Proofs.Grammar.Resolution
import Typeahead.Proofs.GroupTable.Lookup
import Typeahead.Proofs.Node.Correctness
import Typeahead.Proofs.Node.Validation

namespace Typeahead

-- Every leaf is read as one atom that takes one character.
def Node.HasAtoms (root : Node) : Prop := ∀ i c, .single i c ∈ root.walk → c.set?.isSome

def lastNamed? (name : Text) (captures : List Capture) : Option Capture :=
  captures.reverse.find? (·.name = name)

namespace Derived

-- The pattern of a fragment, whose groups were named in the order of the rows.
structure Comes (d : Derived) (f : Fragment) (rows : List (Text × Node)) : Prop where
  readable : f.Readable CharClass.OneAtom
  distinct : f.names.Nodup
  perm : rows.Perm f.rows
  program : d.program = (Pattern.ofTree f.anchoredTree).program
  rows : d.rows = rows.map fun (name, node) => ⟨name, node, (f.names.map some).idxOf? (some name)⟩

variable {d : Derived} {f : Fragment} {rows : List (Text × Node)} {limits : Limits} {kind : PatternKind}
  {input : Text} {marks : List Pattern.Mark} {captures : List Capture}

theorem build_comes (readable : f.Readable CharClass.OneAtom) (distinct : f.names.Nodup)
    (perm : rows.Perm f.rows)
    (built : Derived.build limits (Node.anchored f.render) ⟨rows⟩ = .ok d) : d.Comes f rows := by
  unfold Derived.build at built
  split at built
  · cases built
  · rename_i parsed within
    have read := Pattern.read_of_readWithin within
    rw [Fragment.read_anchored (Fragment.readable_mono (fun _ atom => atom.item) f readable) distinct] at read
    cases read
    simp only at built
    split at built
    · cases built
    · cases built
      exact ⟨readable, distinct, perm, rfl, rfl⟩

theorem idxOf?_some {name : Text} {names : List Text} (member : name ∈ names) :
    (names.map some).idxOf? (some name) = some (names.idxOf name) := by
  induction names with
  | nil => cases member
  | cons first names ih =>
    rw [List.map_cons, List.idxOf?_cons, List.idxOf_cons]
    by_cases here : first = name
    · simp [here]
    · rcases List.mem_cons.mp member with rfl | member
      · exact absurd rfl here
      · have apart : (first == name) = false := by simpa using here
        simp [apart, ih member]

theorem spanOf?_recorded {index : Text → Nat} {ms : List Pattern.Mark}
    (recorded : Recorded index captures ms) (group : Nat) :
    Pattern.spanOf? group ms.reverse = (lastOf? index group captures).map (·.span) := by
  obtain ⟨opens, closes⟩ := recorded group
  rw [Pattern.spanOf?, opens, closes]
  cases lastOf? index group captures <;> rfl

theorem lastOf?_number {name : Text}
    (among : ∀ c ∈ captures, (c.name, c.node) ∈ f.rows) :
    lastOf? f.number (f.number name) captures = lastNamed? name captures := by
  unfold lastOf? lastNamed?
  rw [← List.head?_filter, ← List.head?_filter]
  refine congrArg List.head? (List.filter_congr fun c reversed => ?_)
  have named : c.name ∈ f.names :=
    List.mem_map_of_mem (f := Prod.fst) (among c (List.mem_reverse.mp reversed))
  rw [decide_eq_decide]
  exact List.idxOf_inj named

namespace Comes

theorem run_isSome (comes : d.Comes f rows) (taken : f.taking 0 input captures) :
    (d.run input).isSome := by
  obtain ⟨b, ms, way, rest, _⟩ := f.complete f.number (.start input) input [] captures
    (by simp [Pattern.Place.start]) taken
  have ends : Pattern.Move.look .textEnd b b [] := ⟨rfl, rfl, by simp [Pattern.Look.holds, rest]⟩
  have starts : Pattern.Move.look .textStart (.start input) (.start input) [] := ⟨rfl, rfl, rfl⟩
  obtain ⟨ms', found⟩ := (Fragment.means_anchored comes.readable).refines.complete _ _ _
    (Pattern.Move.mul_intro starts (Pattern.Move.mul_intro way ends))
  rw [Derived.run, comes.program]
  exact Pattern.run_complete found

theorem numbers (comes : d.Comes f rows) : (f.names.map f.number).Nodup :=
  comes.distinct.map_on fun _ left _ _ equal => (List.idxOf_inj left).mp equal

theorem rowSpans (comes : d.Comes f rows) (found : d.run input = some marks) :
    ∃ captures, f.taking 0 input captures ∧ ∀ row ∈ d.rows,
      (do Pattern.spanOf? (← row.index) marks) = (lastNamed? row.name captures).map (·.span) := by
  rw [Derived.run, comes.program] at found
  obtain ⟨b, ms, way, rfl⟩ := Pattern.run_sound found
  obtain ⟨_, _, _, ⟨rfl, rfl, _⟩, ⟨c, first, second, between, ⟨rfl, rfl, ends⟩, rfl⟩, rfl⟩ :=
    (Fragment.means_anchored comes.readable).refines.sound _ _ _ way
  obtain ⟨text, captures, taken, whole, _, recorded⟩ := f.sound f.number comes.numbers _ _ _ between
  obtain rfl : input = text := by
    simpa [Pattern.Place.start, List.isEmpty_iff.mp ends] using whole
  refine ⟨captures, taken, fun row member => ?_⟩
  have among := f.among _ _ _ taken
  rw [comes.rows] at member
  obtain ⟨⟨name, node⟩, inside, rfl⟩ := List.mem_map.mp member
  have named : name ∈ f.names := List.mem_map_of_mem (f := Prod.fst) (comes.perm.mem_iff.mp inside)
  simp only [idxOf?_some named, bind, Option.bind, List.nil_append, List.append_nil]
  rw [← lastOf?_number among, ← spanOf?_recorded recorded]
  rfl

theorem run_iff {derives : Nat → Text → List Visit → Prop} (comes : d.Comes f rows)
    (agrees : Node.Agrees f.taking derives) :
    (d.run input).isSome ↔ ∃ visits, derives 0 input visits := by
  constructor
  · intro found
    obtain ⟨marks, found⟩ := Option.isSome_iff_exists.mp found
    obtain ⟨captures, taken, _⟩ := comes.rowSpans found
    exact ⟨_, agrees.1 _ _ _ taken⟩
  · intro given
    obtain ⟨visits, derived⟩ := given
    obtain ⟨captures, taken, _⟩ := agrees.2 _ _ _ derived
    exact comes.run_isSome taken

end Comes
end Derived

namespace Node
variable {f : Fragment} {rows : List (Text × Node)} {n : Nat}

theorem Numbered.named (numbered : Numbered n rows) (perm : rows.Perm f.rows) : Named f := by
  intro name member
  rw [Fragment.names, ← (perm.map Prod.fst).mem_iff, numbered] at member
  obtain ⟨number, _, rfl⟩ := List.mem_map.mp member
  exact Pattern.nameOf_groupName number

theorem Numbered.distinct (numbered : Numbered n rows) (perm : rows.Perm f.rows) : f.names.Nodup :=
  (perm.map Prod.fst).nodup_iff.mp numbered.nodup

theorem readable_of_validate {root : Node} {leaf : CharClass → Prop}
    (leaves : ∀ i c, .single i c ∈ root.walk → leaf c) (valid : root.validate = .ok ()) :
    root.AllAreReadable leaf := by
  intro node member
  cases node with
  | single i c => exact leaves i c member
  | any i nodes => exact any_of_validate valid member
  | _ => trivial

end Node

-- What a grammar is made of.
structure Grammar.Compiled (g : Grammar) (root : Node) : Prop where
  tree : g.root = root
  valid : root.validate = .ok ()
  whole : ∃ f, Node.Whole root f ∧ g.whole.Comes f f.rows
  started : ∃ f rows, Node.Started root f rows ∧ g.started.Comes f rows

theorem Node.Emits.written {e : Node.Emission} {fragment : Fragment → List (Text × Node) → Prop}
    {leaf : CharClass → Prop} (emits : Node.Emits e fragment)
    (perm : ∀ f rows, fragment f rows → rows.Perm f.rows)
    (readable : ∀ f rows, fragment f rows → Node.Named f → f.Readable leaf) (t : GroupTable) :
    ∃ f rows, fragment f rows ∧ e.run t = (f.render, ⟨t.rows ++ rows⟩) ∧ rows.Perm f.rows ∧
      f.names.Nodup ∧ f.Readable leaf := by
  obtain ⟨f, rows, one, run, numbered⟩ := emits t
  have order := perm f rows one
  exact ⟨f, rows, one, run, order, Node.Numbered.distinct numbered order,
    readable f rows one (Node.Numbered.named numbered order)⟩

theorem Grammar.build_of_built {kind : PatternKind} {limits : Limits} {source : Text × GroupTable}
    {d : Derived} (built : buildPattern kind limits source = .ok d) :
    Derived.build limits source.1 source.2 = .ok d := by
  unfold buildPattern at built
  split at built
  · rename_i derived
    cases built
    exact derived
  · cases built

theorem Grammar.compile_built {limits : Limits} {root : Node} {g : Grammar}
    (compiled : compile limits root = .ok g) :
    g.root = root ∧ root.validate = .ok () ∧
      buildPattern .whole limits root.wholePattern = .ok g.whole ∧
      buildPattern .started limits root.startedPattern = .ok g.started := by
  unfold compile at compiled
  cases valid : root.validate with
  | error cause => rw [valid] at compiled; cases compiled
  | ok nothing =>
    rw [valid] at compiled
    simp only at compiled
    cases whole : buildPattern .whole limits root.wholePattern with
    | error cause => rw [whole] at compiled; cases compiled
    | ok d =>
      rw [whole] at compiled
      cases started : buildPattern .started limits root.startedPattern with
      | error cause => rw [started] at compiled; cases compiled
      | ok d' =>
        rw [started] at compiled
        cases compiled
        exact ⟨rfl, rfl, rfl, rfl⟩

theorem Derived.comes_of_emits {e : Node.Emission} {fragment : Fragment → List (Text × Node) → Prop}
    {limits : Limits} {kind : PatternKind} {d : Derived} (emits : Node.Emits e fragment)
    (perm : ∀ f rows, fragment f rows → rows.Perm f.rows)
    (readable : ∀ f rows, fragment f rows → Node.Named f → f.Readable CharClass.OneAtom)
    (built : Grammar.buildPattern kind limits (Node.anchored (e.run .empty).1, (e.run .empty).2) = .ok d) :
    ∃ f rows, fragment f rows ∧ d.Comes f rows := by
  obtain ⟨f, rows, one, run, order, distinct, reads⟩ := emits.written perm readable .empty
  rw [run] at built
  exact ⟨f, rows, one, Derived.build_comes reads distinct order (Grammar.build_of_built built)⟩

theorem Grammar.compiled {limits : Limits} {root : Node} {g : Grammar} (atoms : root.HasAtoms)
    (compiled : Grammar.compile limits root = .ok g) : g.Compiled root := by
  obtain ⟨tree, valid, whole, started⟩ := compile_built compiled
  have readable : root.AllAreReadable CharClass.OneAtom := Node.readable_of_validate atoms valid
  refine ⟨tree, valid, ?_, ?_⟩
  · obtain ⟨f, _, ⟨one, rfl, _⟩, comes⟩ := Derived.comes_of_emits (Node.emits_whole root)
      (fun _ _ given => given.2.1 ▸ .refl _)
      (fun _ _ given named => given.1.readable readable named) whole
    exact ⟨f, one, comes⟩
  · obtain ⟨f, rows, ⟨one, _⟩, comes⟩ := Derived.comes_of_emits (Node.emits_started root)
      (fun _ _ given => given.1.perm)
      (fun _ _ given named => given.1.readable readable named) started
    exact ⟨f, rows, one, comes⟩

-- A match that was made over a text with these captures.
structure Match.Reads (m : Match) (captures : List Capture) : Prop where
  names : (m.rows.map GroupRow.name).Nodup
  among : ∀ c ∈ captures, ∃ row ∈ m.rows, row.name = c.name ∧ row.node = c.node
  spans : ∀ row ∈ m.rows, m.rowSpan? row = (lastNamed? row.name captures).map (·.span)

theorem Derived.Comes.nodes {d : Derived} {f : Fragment} {rows : List (Text × Node)}
    (comes : d.Comes f rows) : d.rows.map GroupRow.node = rows.map Prod.snd := by
  rw [comes.rows, List.map_map]
  rfl

theorem Derived.Comes.reads {d : Derived} {f : Fragment} {rows : List (Text × Node)} {m : Match}
    {derives : Nat → Text → List Visit → Prop} (comes : d.Comes f rows)
    (agrees : Node.Agrees f.taking derives) (found : d.run m.input = some m.marks)
    (table : m.rows = d.rows) :
    m.rows.map GroupRow.node = rows.map Prod.snd ∧
      ∃ captures, m.Reads captures ∧ derives 0 m.input (captures.map Capture.visit) := by
  obtain ⟨captures, taken, spans⟩ := comes.rowSpans found
  rw [← table] at spans
  refine ⟨table ▸ comes.nodes, captures, ⟨?_, fun c member => ?_, spans⟩, agrees.1 _ _ _ taken⟩
  · rw [table, comes.rows, List.map_map]
    exact (comes.perm.map Prod.fst).nodup_iff.mpr comes.distinct
  · rw [table, comes.rows]
    have inside := comes.perm.mem_iff.mpr (f.among _ _ _ taken c member)
    exact ⟨_, List.mem_map_of_mem inside, rfl, rfl⟩

namespace Match.Reads
variable {m : Match} {captures : List Capture} {node : Node} {span : Text.Span}

theorem name_iff (reads : m.Reads captures) {row : GroupRow} (member : row ∈ m.rows) {c : Capture}
    (captured : c ∈ captures) (named : c.name = row.name) : c.node = row.node := by
  obtain ⟨other, inside, sameName, sameNode⟩ := reads.among c captured
  rw [← sameNode, List.inj_on_of_nodup_map reads.names inside member (sameName.trans named)]

theorem captured_of_row (reads : m.Reads captures) {row : GroupRow} (member : row ∈ m.rows)
    (found : m.rowSpan? row = some span) : ∃ c ∈ captures, c.node = row.node ∧ c.span = span := by
  rw [reads.spans row member] at found
  obtain ⟨c, last, rfl⟩ := Option.map_eq_some_iff.mp found
  have captured := List.mem_reverse.mp (List.mem_of_find?_eq_some last)
  have named : c.name = row.name := by simpa using List.find?_some last
  exact ⟨c, captured, reads.name_iff member captured named, rfl⟩

theorem captured (reads : m.Reads captures) (member : (node, some span) ∈ m.resolve) :
    ∃ c ∈ captures, c.node.id = node.id ∧ c.span = span := by
  rw [mem_resolve, entryOf?_resolve] at member
  obtain ⟨first, _, equal⟩ := Option.map_eq_some_iff.mp member
  obtain ⟨row, inside, found⟩ := List.exists_of_findSome?_eq_some (Prod.mk.inj equal).2
  obtain ⟨among, same⟩ := List.mem_filter.mp inside
  obtain ⟨c, captured, stands, spans⟩ := reads.captured_of_row among found
  exact ⟨c, captured, by simpa [stands] using same, spans⟩

end Match.Reads
end Typeahead
