import Typeahead.Proofs.Grammar.Visits
import Typeahead.Proofs.Node.Groups

namespace Typeahead
open Pattern (Parsed)

-- Every leaf is read as one item, which may take no character.
def Node.HasItems (root : Node) : Prop := ∀ i c, .single i c ∈ root.walk → c.OneItem

theorem Node.HasAtoms.items {root : Node} (atoms : root.HasAtoms) : root.HasItems :=
  fun i c member => CharClass.OneAtom.item (atoms i c member)

namespace PatternKind

def source (root : Node) : PatternKind → Text × GroupTable
  | .whole => root.wholePattern
  | .started => root.startedPattern

-- How the child of a variable may stand in its group.
def below : PatternKind → Node → List Node.Emission
  | .whole => Node.finished
  | .started => Node.finishedOrBegun

end PatternKind

-- The groups that are read of a source are the rows of its table. The group of a row holds a text of
-- the child of its node, and nothing else: its tree is that of this text, behind the groups before it.
structure Corresponds (kind : PatternKind) (source : Text × GroupTable) (parsed : Parsed) : Prop where
  distinct : parsed.names.Nodup
  named : (source.2.rows.map fun row => some row.1).Perm parsed.names
  numbered : parsed.tree.groups.map Prod.fst = List.range parsed.names.length
  encloses : ∀ name node, (name, node) ∈ source.2.rows → ∃ text index alone,
    Node.EmitsBelow kind.below node text ∧ Node.namedGroup name text <:+: source.1 ∧
    parsed.names[index]? = some (some name) ∧ Pattern.read text = .ok alone ∧
    (index, alone.tree.behind (index + 1)) ∈ parsed.tree.groups

variable {root : Node} {kind : PatternKind} {limits : Limits}

theorem PatternKind.fragment (items : root.HasItems) (valid : root.validate = .ok ())
    (kind : PatternKind) : ∃ (f : Fragment) (rows : List (Text × Node)),
      kind.source root = (Node.anchored f.render, ⟨rows⟩) ∧ rows.Perm f.rows ∧ f.names.Nodup ∧
      f.Readable CharClass.OneItem ∧ Node.Enclosing kind.below f.groups := by
  have readable := Node.readable_of_validate items valid
  cases kind with
  | whole =>
    obtain ⟨f, rows, ⟨_, _, enclosing⟩, run, order, distinct, reads⟩ :=
      (Node.emits_whole root).written (fun _ _ given => given.2.1 ▸ .refl _)
        (fun _ _ given named => given.1.readable readable named) .empty
    refine ⟨f, rows, ?_, order, distinct, reads, enclosing⟩
    rw [source, Node.wholePattern, run]
    rfl
  | started =>
    obtain ⟨f, rows, ⟨_, enclosing⟩, run, order, distinct, reads⟩ :=
      (Node.emits_started root).written (fun _ _ given => given.1.perm)
        (fun _ _ given named => given.1.readable readable named) .empty
    refine ⟨f, rows, ?_, order, distinct, reads, enclosing⟩
    rw [source, Node.startedPattern, run]
    rfl

theorem Fragment.corresponds {f : Fragment} {rows : List (Text × Node)} (perm : rows.Perm f.rows)
    (distinct : f.names.Nodup) (readable : f.Readable CharClass.OneItem)
    (enclosing : Node.Enclosing kind.below f.groups) :
    Corresponds kind (Node.anchored f.render, ⟨rows⟩) ⟨f.anchoredTree, f.names.map some⟩ where
  distinct := distinct.map (Option.some_injective _)
  named := by
    have names : f.names.map some = f.rows.map fun row => some row.1 := by
      rw [Fragment.names, List.map_map]
      rfl
    rw [names]
    exact perm.map _
  numbered := by
    rw [List.length_map]
    exact Fragment.groups_numbered readable distinct
  encloses := by
    intro name node member
    have row : (name, node) ∈ f.groups.map fun g => (g.name, g.node) :=
      f.groups_rows ▸ perm.mem_iff.mp member
    obtain ⟨g, inside, equal⟩ := List.mem_map.mp row
    obtain ⟨rfl, rfl⟩ := Prod.mk.inj equal
    obtain ⟨index, alone, place, read, group⟩ := Fragment.group_read readable distinct inside
    have text : f.render <:+: Node.anchored f.render := ⟨"^(?:".toList, ")$".toList, rfl⟩
    refine ⟨g.body.render, index, alone, enclosing g inside, ?_, ?_, read, group⟩
    · exact (Fragment.holds_of_mem f inside).render.trans text
    · simp [place]

-- What the limits have to say of a pattern that was read.
def Limits.Refuses (limits : Limits) (parsed : Parsed) (cause : PatternError) : Prop :=
  (cause = .unreadable (.nestedTooDeeply limits.nest) ∧ limits.nest < parsed.tree.depth) ∨
    (cause = .tooBig limits.size ∧ (Pattern.ofTree parsed.tree).exceeds limits.size)

theorem Derived.refused {text : Text} {groups : GroupTable} {parsed : Parsed} {cause : PatternError}
    (read : Pattern.read text = .ok parsed) (failed : build limits text groups = .error cause) :
    limits.Refuses parsed cause := by
  unfold build Pattern.readWithin at failed
  rw [read] at failed
  simp only [bind, Except.bind] at failed
  by_cases shallow : parsed.tree.depth ≤ limits.nest
  · simp only [shallow, if_true, pure, Except.pure] at failed
    split at failed
    · rename_i big
      cases failed
      exact .inr ⟨rfl, big⟩
    · cases failed
  · simp only [shallow, if_false] at failed
    cases failed
    exact .inl ⟨rfl, Nat.lt_of_not_le shallow⟩

theorem Grammar.build_of_buildPattern {kind' : PatternKind} {source : Text × GroupTable}
    {cause : PatternError} (failed : buildPattern kind limits source = .error (.badPattern kind' cause)) :
    kind = kind' ∧ Derived.build limits source.1 source.2 = .error cause := by
  unfold buildPattern at failed
  split at failed
  · cases failed
  · rename_i built
    cases failed
    exact ⟨rfl, built⟩

theorem Grammar.buildPattern_of_compile {cause : CompileError} (valid : root.validate = .ok ())
    (failed : compile limits root = .error cause) :
    ∃ kind : PatternKind, buildPattern kind limits (kind.source root) = .error cause := by
  unfold compile at failed
  rw [valid] at failed
  simp only at failed
  cases whole : buildPattern .whole limits root.wholePattern with
  | error error =>
    rw [whole] at failed
    cases failed
    exact ⟨.whole, whole⟩
  | ok d =>
    rw [whole] at failed
    cases started : buildPattern .started limits root.startedPattern with
    | error error =>
      rw [started] at failed
      cases failed
      exact ⟨.started, started⟩
    | ok d' =>
      rw [started] at failed
      cases failed

theorem Grammar.build_of_compile {cause : PatternError} (valid : root.validate = .ok ())
    (failed : compile limits root = .error (.badPattern kind cause)) :
    Derived.build limits (kind.source root).1 (kind.source root).2 = .error cause := by
  obtain ⟨_, made⟩ := buildPattern_of_compile valid failed
  obtain ⟨rfl, built⟩ := build_of_buildPattern made
  exact built

-- What was read of the source of a pattern, and a limit that it goes beyond.
def Limits.Forbids (limits : Limits) (root : Node) (cause : CompileError) : Prop :=
  ∃ kind reason parsed, cause = .badPattern kind reason ∧
    Pattern.read (kind.source root).1 = .ok parsed ∧ limits.Refuses parsed reason

theorem Grammar.badPattern_of_buildPattern {source : Text × GroupTable} {cause : CompileError}
    (failed : buildPattern kind limits source = .error cause) :
    ∃ reason, cause = .badPattern kind reason := by
  unfold buildPattern at failed
  split at failed
  · cases failed
  · rename_i reason _
    exact ⟨reason, (Except.error.inj failed).symm⟩

theorem Grammar.badPattern_of_compile {cause : CompileError} (valid : root.validate = .ok ())
    (failed : compile limits root = .error cause) : ∃ kind reason, cause = .badPattern kind reason := by
  obtain ⟨kind, built⟩ := buildPattern_of_compile valid failed
  exact ⟨kind, badPattern_of_buildPattern built⟩

theorem Grammar.forbidden_of_compile {cause : CompileError} (items : root.HasItems)
    (valid : root.validate = .ok ()) (failed : compile limits root = .error cause) :
    limits.Forbids root cause := by
  obtain ⟨kind, reason, rfl⟩ := badPattern_of_compile valid failed
  obtain ⟨f, rows, source, _, distinct, readable, _⟩ := kind.fragment items valid
  have built := build_of_compile valid failed
  have read := Fragment.read_anchored readable distinct
  rw [source] at built
  exact ⟨kind, reason, _, rfl, by rw [source]; exact read, Derived.refused read built⟩

-- A pattern can always be read, with a group for each row, so only a limit keeps it from compiling.
theorem patterns_correspond (items : root.HasItems) (valid : root.validate = .ok ())
    (kind : PatternKind) : ∃ parsed, Pattern.read (kind.source root).1 = .ok parsed ∧
      Corresponds kind (kind.source root) parsed ∧
      ∀ limits cause, Grammar.compile limits root = .error (.badPattern kind cause) →
        limits.Refuses parsed cause := by
  obtain ⟨f, rows, source, perm, distinct, readable, enclosing⟩ := kind.fragment items valid
  have read := Fragment.read_anchored readable distinct
  refine ⟨⟨f.anchoredTree, f.names.map some⟩, ?_, ?_, fun limits cause failed => ?_⟩
  · rw [source]
    exact read
  · rw [source]
    exact Fragment.corresponds perm distinct readable enclosing
  · have built := Grammar.build_of_compile valid failed
    rw [source] at built
    exact Derived.refused read built

theorem entry_corresponds : ∃ parsed,
    Corresponds .started Grammar.entry.startedPattern parsed ∧
    Grammar.compile { nest := 9 } Grammar.entry =
      .error (.badPattern .started (.unreadable (.nestedTooDeeply 9))) ∧ 9 < parsed.tree.depth := by
  have refused : (match Grammar.compile { nest := 9 } Grammar.entry with
      | .error cause => some cause
      | .ok _ => none) = some (.badPattern .started (.unreadable (.nestedTooDeeply 9))) := by
    decide +kernel
  have failed : Grammar.compile { nest := 9 } Grammar.entry =
      .error (.badPattern .started (.unreadable (.nestedTooDeeply 9))) := by
    split at refused
    · rename_i cause equal
      cases refused
      exact equal
    · cases refused
  obtain ⟨parsed, _, corresponds, refuses⟩ :=
    patterns_correspond Grammar.entry_characters.atoms.items (by decide +kernel) .started
  refine ⟨parsed, corresponds, failed, ?_⟩
  rcases refuses _ _ failed with ⟨_, deep⟩ | ⟨never, _⟩
  · exact deep
  · cases never

end Typeahead
