import Typeahead.Proofs.Grammar.Runs

namespace Typeahead

-- Every leaf has a character.
def Node.HasCharacters (root : Node) : Prop :=
  ∀ i c, .single i c ∈ root.walk → ∃ s, c.set? = some s ∧ ∃ x, x ∈ s

theorem Node.HasCharacters.atoms {root : Node} (characters : root.HasCharacters) :
    root.HasAtoms := by
  intro i c member
  obtain ⟨s, known, _⟩ := characters i c member
  exact Option.isSome_of_eq_some known

theorem Node.HasCharacters.live {root : Node} (characters : root.HasCharacters)
    (valid : root.validate = .ok ()) : root.Live := by
  intro node member
  cases node with
  | single i c => exact characters i c member
  | any i nodes => exact any_of_validate valid member
  | _ => trivial

namespace Grammar
variable {g : Grammar} {root : Node} {input : Text} {m : Match} {visits : List Visit}

theorem Compiled.whole_run (compiled : g.Compiled root) :
    (g.whole.run input).isSome ↔ ∃ visits, root.Derives 0 input visits := by
  obtain ⟨f, whole, comes⟩ := compiled.whole
  exact comes.run_iff whole.agrees

theorem Compiled.started_run (compiled : g.Compiled root) :
    (g.started.run input).isSome ↔ ∃ visits, root.Begins 0 input visits := by
  obtain ⟨f, rows, started, comes⟩ := compiled.started
  exact comes.run_iff started.agrees

theorem matchWhole_isSome : (g.matchWhole input).isSome = (g.whole.run input).isSome := by
  unfold matchWhole matchWith
  cases g.whole.run input <;> rfl

theorem matchStarted_isSome :
    (g.matchStarted input).isSome =
      ((g.whole.run input).isSome || (g.started.run input).isSome) := by
  unfold matchStarted matchWith
  cases g.whole.run input with
  | none => simp
  | some marks => rfl

theorem Compiled.started_iff (compiled : g.Compiled root) :
    (g.matchStarted input).isSome ↔ ∃ visits, root.Begins 0 input visits := by
  rw [matchStarted_isSome, Bool.or_eq_true, compiled.whole_run, compiled.started_run]
  constructor
  · intro either
    rcases either with ⟨visits, derives⟩ | begins
    · exact derives.begins input [] (by simp)
    · exact begins
  · exact .inr

theorem Compiled.whole_iff (compiled : g.Compiled root) :
    (g.matchWhole input).isSome ↔ input ∈ root.language := by
  rw [matchWhole_isSome, compiled.whole_run, Node.mem_language_iff 0]

theorem Compiled.started_of_mem (compiled : g.Compiled root) {rest : Text}
    (member : input ++ rest ∈ root.language) : (g.matchStarted input).isSome := by
  obtain ⟨visits, derives⟩ := (Node.mem_language_iff 0).mp member
  exact compiled.started_iff.mpr (derives.begins input rest rfl)

-- The prefix match is exact where no leaf is empty. Where one is, it accepts all beginnings still, and
-- the beginnings of what it accepts.
theorem matchStarted_exact {limits : Limits} (atoms : root.HasAtoms)
    (compiled : compile limits root = .ok g) :
    (root.HasCharacters →
      ∀ text, (g.matchStarted text).isSome ↔ ∃ rest, text ++ rest ∈ root.language) ∧
    (∀ text rest, text ++ rest ∈ root.language → (g.matchStarted text).isSome) ∧
    ∀ text rest, (g.matchStarted (text ++ rest)).isSome → (g.matchStarted text).isSome := by
  have made := Grammar.compiled atoms compiled
  refine ⟨fun characters text => ⟨fun accepted => ?_, fun ⟨rest, member⟩ => made.started_of_mem member⟩,
    fun text rest member => made.started_of_mem member, fun text rest accepted => ?_⟩
  · obtain ⟨visits, begins⟩ := made.started_iff.mp accepted
    exact begins.finish (characters.live made.valid)
  · obtain ⟨visits, begins⟩ := made.started_iff.mp accepted
    exact made.started_iff.mpr (begins.shortened text rest rfl)

def label : Node :=
  .var 3 { name := "label".toList, completer := some (.words ["ab".toList, "b".toList]) }
    (.repetition 2 (.single 1 ⟨"[a-c]".toList⟩))

def labels : Node := .repetition 5 (.sequence 4 none [.single 0 ⟨"[0-9]".toList⟩, label])

theorem takes_of_contains {c : CharClass} {x : Char}
    (takes : c.set?.map (·.contains x) = some true) :
    ∃ s, c.set? = some s ∧ x ∈ s := by
  obtain ⟨s, known, member⟩ := Option.map_eq_some_iff.mp takes
  exact ⟨s, known, member⟩

-- If it is a leaf, it takes one of these characters.
def takesOneOf (samples : Text) : Node → Bool
  | .single _ c => samples.any fun x => c.set?.map (·.contains x) = some true
  | _ => true

theorem hasCharacters_of_samples (samples : Text)
    (each : root.walk.all (takesOneOf samples) = true) : root.HasCharacters := by
  intro i c member
  have taken := List.all_eq_true.mp each _ member
  obtain ⟨x, _, takes⟩ := List.any_eq_true.mp taken
  obtain ⟨s, known, inside⟩ := takes_of_contains (of_decide_eq_true takes)
  exact ⟨s, known, x, inside⟩

theorem labels_characters : labels.HasCharacters :=
  hasCharacters_of_samples "7a".toList (by decide +kernel)

theorem compile_of_run {α : Type} {limits : Limits} {result : α} {f : Grammar → Option α}
    (run : (compile limits root).toOption.bind f = some result) :
    ∃ g, compile limits root = .ok g ∧ f g = some result := by
  cases compiled : compile limits root with
  | error cause => rw [compiled] at run; cases run
  | ok g => exact ⟨g, rfl, by rwa [compiled] at run⟩

theorem labels_compile : ∃ g, compile {} labels = .ok g := by
  have run : (compile {} labels).toOption.bind (fun _ => some ()) = some () := by decide +kernel
  obtain ⟨g, compiled, _⟩ := compile_of_run run
  exact ⟨g, compiled⟩

theorem labels_started : ∃ g, compile {} labels = .ok g ∧
    ∀ text, (g.matchStarted text).isSome ↔ ∃ rest, text ++ rest ∈ labels.language := by
  obtain ⟨g, compiled⟩ := labels_compile
  exact ⟨g, compiled, (matchStarted_exact labels_characters.atoms compiled).1 labels_characters⟩

theorem Compiled.matchWhole_reads (compiled : g.Compiled root)
    (found : g.matchWhole input = some m) :
    m.rows.map GroupRow.node = root.variableNodes ∧ ∃ captures, m.Reads captures ∧
      root.Derives 0 input (captures.map Capture.visit) := by
  obtain ⟨f, whole, comes⟩ := compiled.whole
  unfold matchWhole matchWith at found
  split at found
  · rename_i marks run
    cases found
    rw [← whole.nodes]
    apply comes.reads whole.agrees run rfl
  · cases found

def lastVisit? (node : Node) (visits : List Visit) : Option Visit :=
  visits.reverse.find? (·.node.id = node.id)

theorem lastVisit?_append {node : Node} {front back : List Visit} :
    lastVisit? node (front ++ back) = (lastVisit? node back).or (lastVisit? node front) := by
  rw [lastVisit?, List.reverse_append, List.find?_append]
  rfl

theorem lastVisit?_captures {node : Node} {captures : List Capture} :
    lastVisit? node (captures.map Capture.visit) =
    (captures.reverse.find? (·.node.id = node.id)).map Capture.visit := by
  rw [lastVisit?, ← List.map_reverse, List.find?_map]
  rfl

-- A variable that stands at one place has one group, whose captures are the visits to it.
theorem lastNamed?_visit {captures : List Capture} {node : Node} {row : GroupRow}
    (reads : m.Reads captures)
    (only : rowsOf node.id m.rows = [row]) :
    (lastNamed? row.name captures).map (·.span) =
      (lastVisit? node (captures.map Capture.visit)).map Visit.span := by
  have inside : row ∈ m.rows ∧ row.node.id = node.id := by
    have member : row ∈ rowsOf node.id m.rows := by rw [only]; exact List.mem_singleton_self _
    simpa [rowsOf] using member
  have same : ∀ c ∈ captures, c.name = row.name ↔ c.node.id = node.id := by
    intro c captured
    constructor
    · intro named
      rw [reads.name_iff inside.1 captured named, inside.2]
    · intro equal
      obtain ⟨other, member, named, stands⟩ := reads.among c captured
      have found : other ∈ rowsOf node.id m.rows := by simpa [rowsOf, member, stands] using equal
      rw [only, List.mem_singleton] at found
      rw [← named, found]
  unfold lastNamed?
  rw [lastVisit?_captures, Option.map_map, ← List.head?_filter, ← List.head?_filter]
  refine congrArg (fun l : List Capture => l.head?.map (·.span)) (List.filter_congr fun c reversed => ?_)
  exact decide_eq_decide.mpr (same c (List.mem_reverse.mp reversed))

theorem matchWhole_exact {limits : Limits} (atoms : root.HasAtoms)
    (compiled : compile limits root = .ok g) (text : Text) :
    ((g.matchWhole text).isSome ↔ text ∈ root.language) ∧
    ∀ m, g.matchWhole text = some m → ∃ visits, root.Derives 0 text visits ∧
      ∀ node, node.asVariable.isSome → root.walk.filter (·.id = node.id) = [node] →
        ∀ span, (node, span) ∈ m.resolve ↔ span = (lastVisit? node visits).map Visit.span := by
  have made := Grammar.compiled atoms compiled
  refine ⟨made.whole_iff, fun m found => ?_⟩
  obtain ⟨nodes, captures, reads, derives⟩ := made.matchWhole_reads found
  refine ⟨_, derives, fun node isVariable once span => ?_⟩
  -- one place in the tree, so one row
  have rows : (rowsOf node.id m.rows).map GroupRow.node = [node] := by
    have filtered : (rowsOf node.id m.rows).map GroupRow.node =
        (m.rows.map GroupRow.node).filter (·.id = node.id) := by
      rw [List.filter_map]
      rfl
    rw [filtered, nodes, Node.variableNodes, List.filter_comm, once]
    simp [isVariable]
  obtain ⟨row, only, stands⟩ := List.map_eq_singleton_iff.mp rows
  have own : row ∈ m.rows := (List.mem_filter.mp (only ▸ List.mem_singleton_self row)).1
  have single : [row].findSome? m.rowSpan? = m.rowSpan? row := by
    cases h : m.rowSpan? row <;> simp [h]
  rw [Match.mem_resolve, Match.entryOf?_resolve, only, ← lastNamed?_visit reads only, single,
    reads.spans row own]
  simp [stands, eq_comm]

theorem labels_whole : ∃ g m visits, compile {} labels = .ok g ∧
    g.matchWhole "7ab8".toList = some m ∧
    labels.Derives 0 "7ab8".toList visits ∧
    ∀ span, (label, span) ∈ m.resolve ↔ span = (lastVisit? label visits).map Visit.span := by
  obtain ⟨g, compiled⟩ := labels_compile
  have accepted : ((compile {} labels).toOption.bind (·.matchWhole "7ab8".toList)).isSome := by
    decide +kernel
  rw [compiled] at accepted
  obtain ⟨m, found⟩ := Option.isSome_iff_exists.mp accepted
  obtain ⟨visits, derives, spans⟩ :=
    (matchWhole_exact labels_characters.atoms compiled "7ab8".toList).2 m found
  have once : labels.walk.filter (·.id = label.id) = [label] := by
    simp [labels, label, Node.walk, Node.walkAll, Node.id]
  exact ⟨g, m, visits, compiled, found, derives, spans label rfl once⟩

end Grammar
end Typeahead
