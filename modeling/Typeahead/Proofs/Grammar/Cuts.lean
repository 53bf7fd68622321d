import Typeahead.Proofs.Grammar.Matching
import Typeahead.Proofs.Node.Filled

namespace Typeahead

-- A pattern that was read takes the whole of a text.
def Pattern.Parsed.Accepts (parsed : Pattern.Parsed) (input : Text) : Prop :=
  ((Pattern.ofTree parsed.tree).program.run input).isSome

theorem Fragment.accepts_iff {f : Fragment} {derives : Nat → Text → List Visit → Prop}
    (readable : f.Readable CharClass.OneAtom) (distinct : f.names.Nodup)
    (agrees : Node.Agrees f.taking derives) :
    ∃ parsed, Pattern.read (Node.anchored f.render) = .ok parsed ∧
      ∀ input, parsed.Accepts input ↔ ∃ visits, derives 0 input visits := by
  have items := Fragment.readable_mono (fun _ atom => CharClass.OneAtom.item atom) f readable
  refine ⟨_, Fragment.read_anchored items distinct, fun input => ?_⟩
  let d : Derived := ⟨Node.anchored f.render, ⟨f.rows⟩, (Pattern.ofTree f.anchoredTree).program,
    f.rows.map fun row => ⟨row.1, row.2, (f.names.map some).idxOf? (some row.1)⟩⟩
  have comes : d.Comes f f.rows := ⟨readable, distinct, .refl _, rfl, rfl⟩
  exact comes.run_iff agrees

namespace Node

-- The children before the cut finished, the one at the cut begun.
def brokenOff (before : List Emission) (begun : Emission) : Emission :=
  return (← emitAll before).flatten ++ (← begun)

def cuts : List Emission → List Part → List Emission
  | _, [] => []
  | before, part :: rest => brokenOff before part.begun :: cuts (before ++ [part.finished]) rest

-- Every place where a sequence can be cut, one branch for each.
def listedSequence (parts : List Part) : Emission :=
  return plainGroup (joinBranches (← emitAll (cuts [] parts)))

inductive Cuts : List Node → List Node → List Fragment → Prop
  | nil : Cuts before [] []
  | cons (finished : Whole (.sequence 0 none before) (.sequence parts)) (begun : Started node f rows)
      (others : Cuts (before ++ [node]) nodes fs) :
      Cuts before (node :: nodes) (.sequence (parts ++ [f]) :: fs)

variable {node : Node} {nodes before : List Node} {fs : List Fragment} {offset : Nat} {text : Text}
  {visits : List Visit}

theorem emits_brokenOff (before : List Node) (node : Node) :
    Emits (brokenOff (wholes before) (started node)) fun f rows => ∃ parts begun rows',
      Whole (.sequence 0 none before) (.sequence parts) ∧ Started node begun rows' ∧
        f = .sequence (parts ++ [begun]) ∧ rows.Perm f.rows := by
  intro t
  obtain ⟨parts, rows, ⟨finished, _, rfl, _⟩, run, numbered⟩ := emitsAll_wholes before t
  obtain ⟨begun, rows', ⟨one, _⟩, run', numbered'⟩ :=
    emits_started node ⟨t.rows ++ Fragment.rowsOfAll parts⟩
  refine ⟨_, Fragment.rowsOfAll parts ++ rows', ⟨parts, begun, rows', finished 0 none, one, rfl, ?_⟩, ?_, ?_⟩
  · rw [rows_sequence_last]
    exact List.Perm.append_left _ one.perm
  · have step : (brokenOff (wholes before) (started node)).run t =
        (((emitAll (wholes before)).run t).1.flatten ++
            ((started node).run ((emitAll (wholes before)).run t).2).1,
          ((started node).run ((emitAll (wholes before)).run t).2).2) := rfl
    rw [step, run, run']
    simp [Fragment.render, renderAll_append, Fragment.renderAll]
  · rw [List.length_append] at numbered'
    exact numbered.append numbered'

theorem wholes_append (a b : List Node) : wholes (a ++ b) = wholes a ++ wholes b := by
  induction a with
  | nil => rfl
  | cons node a ih => rw [List.cons_append, wholes, ih, wholes, List.cons_append]

theorem emitsAll_cuts (before nodes : List Node) :
    EmitsAll (cuts (wholes before) (startedParts nodes)) fun fs rows =>
      Cuts before nodes fs ∧ rows.Perm (Fragment.rowsOfAll fs) := by
  induction nodes generalizing before with
  | nil => exact emitsAll_nil ⟨.nil, .refl _⟩
  | cons node nodes ih =>
    have others := ih (before ++ [node])
    rw [wholes_append] at others
    refine emitsAll_cons (emits_brokenOff before node) others ?_
    intro f fs rows rows' first rest
    obtain ⟨parts, begun, _, finished, one, rfl, order⟩ := first
    exact ⟨.cons finished one rest.1, order.append rest.2⟩

theorem emits_listedSequence (nodes : List Node) :
    Emits (listedSequence (startedParts nodes)) fun f rows =>
      ∃ fs, f = .choice .once fs ∧ Cuts [] nodes fs ∧ rows.Perm f.rows := by
  intro t
  obtain ⟨fs, rows, ⟨listed, order⟩, run, numbered⟩ := emitsAll_cuts [] nodes t
  refine ⟨_, rows, ⟨fs, rfl, listed, order⟩, ?_, numbered⟩
  have step : (listedSequence (startedParts nodes)).run t =
      (plainGroup (joinBranches ((emitAll (cuts (wholes []) (startedParts nodes))).run t).1),
        ((emitAll (cuts (wholes []) (startedParts nodes))).run t).2) := rfl
  rw [step, run, Fragment.render, Times.mark, List.append_nil]

theorem Cuts.filled (listed : Cuts before nodes fs) :
    Cuts (filledAll before) (filledAll nodes) (Fragment.filledAll fs) := by
  induction listed with
  | nil => exact .nil
  | cons finished begun _ ih =>
    rw [filledAll_append] at ih
    have first := Cuts.cons finished.filled begun.filled ih
    simpa [filledAll, Fragment.filledAll, Fragment.filled, Fragment.filledAll_append] using first

theorem Cuts.readable {leaf : CharClass → Prop} (listed : Cuts before nodes fs)
    (each : ∀ node ∈ before ++ nodes, node.AllAreReadable leaf)
    (named : ∀ name ∈ Fragment.namesOfAll fs, Pattern.GroupName name) :
    Fragment.AllReadable leaf fs := by
  induction listed with
  | nil => trivial
  | cons finished begun _ ih =>
    rename_i before parts node f _ nodes fs _
    obtain ⟨first, others⟩ := named_cons named
    obtain ⟨namedParts, namedBegun⟩ := named_append first
    refine ⟨allReadable_append.mpr ⟨?_, ?_, trivial⟩, ih (by simpa using each) others⟩
    · have readable : AllAreReadable leaf (.sequence 0 none before) :=
        .sequence ⟨by simp, fun node member => each node (List.mem_append_left _ member)⟩
      exact finished.readable readable namedParts
    · exact begun.readable (each node (by simp)) (named_cons namedBegun).1

-- A text that breaks off inside one of the nodes, all before it finished.
def BrokenOff (before nodes : List Node) (offset : Nat) (text : Text) (visits : List Visit) : Prop :=
  ∃ more node rest a b front back, nodes = more ++ node :: rest ∧
    Derives (.sequence 0 none (before ++ more)) offset a front ∧
    Begins node (offset + Text.bytes a) b back ∧ text = a ++ b ∧ visits = front ++ back

theorem brokenOff_cons_iff : BrokenOff before (node :: nodes) offset text visits ↔
    (∃ a b front back, Derives (.sequence 0 none before) offset a front ∧
      Begins node (offset + Text.bytes a) b back ∧ text = a ++ b ∧ visits = front ++ back) ∨
    BrokenOff (before ++ [node]) nodes offset text visits := by
  constructor
  · intro broken
    obtain ⟨more, last, rest, a, b, front, back, equal, finished, begun, rfl, rfl⟩ := broken
    cases more with
    | nil =>
      obtain ⟨rfl, rfl⟩ := List.cons.inj equal
      rw [List.append_nil] at finished
      exact .inl ⟨a, b, front, back, finished, begun, rfl, rfl⟩
    | cons first more =>
      obtain ⟨rfl, rfl⟩ := List.cons.inj equal
      rw [List.append_cons] at finished
      exact .inr ⟨more, last, rest, a, b, front, back, rfl, finished, begun, rfl, rfl⟩
  · intro either
    rcases either with ⟨a, b, front, back, finished, begun, rfl, rfl⟩ |
      ⟨more, last, rest, a, b, front, back, rfl, finished, begun, rfl, rfl⟩
    · exact ⟨[], node, nodes, a, b, front, back, rfl, by rwa [List.append_nil], begun, rfl, rfl⟩
    · rw [List.append_assoc] at finished
      exact ⟨node :: more, last, rest, a, b, front, back, rfl, finished, begun, rfl, rfl⟩

theorem Cuts.agrees (listed : Cuts before nodes fs) :
    Agrees (Fragment.takingAny fs) (BrokenOff before nodes) := by
  induction listed with
  | nil =>
    refine agrees_never.congr fun offset text visits => iff_false_intro ?_
    intro broken
    obtain ⟨more, node, rest, _, _, _, _, equal, _⟩ := broken
    simp at equal
  | cons finished begun _ ih =>
    rename_i parts _ f _ _ _ _
    have cut := finished.agrees.followedBy begun.agrees.alone
    have first : Agrees (Fragment.takingAll (parts ++ [f])) _ := takingAll_append parts [f] ▸ cut
    exact (first.or ih).congr fun _ _ _ => brokenOff_cons_iff

theorem brokenOff_of_begins {i : Nat} {written : Option Text} (some' : nodes ≠ [])
    (begins : Begins (.sequence i written nodes) offset text visits) :
    BrokenOff [] nodes offset text visits := by
  induction nodes generalizing offset text visits with
  | nil => exact absurd rfl some'
  | cons node nodes ih =>
    cases begins with
    | inside first => exact ⟨[], node, nodes, [], text, [], visits, rfl, .sequenceNil, first, rfl, rfl⟩
    | beyond more first others =>
      rename_i a front b back
      obtain ⟨within, last, rest, c, d, middle, end', rfl, finished, begun, rfl, rfl⟩ := ih more others
      rw [Nat.add_assoc, ← Text.bytes_append] at begun
      exact ⟨node :: within, last, rest, a ++ c, d, front ++ middle, end', rfl,
        .sequenceCons first finished, begun, by simp, by simp⟩

theorem brokenOff_iff (some' : nodes ≠ []) :
    BrokenOff [] nodes offset text visits ↔ Begins (.sequence 0 none nodes) offset text visits := by
  constructor
  · intro broken
    obtain ⟨more, node, rest, a, b, front, back, rfl, finished, begun, rfl, rfl⟩ := broken
    exact begins_append_right (List.cons_ne_nil _ _) finished (.inside begun)
  · exact brokenOff_of_begins some'

theorem Cuts.choice_agrees (listed : Cuts [] nodes fs) :
    Agrees (Fragment.choice .once (Fragment.orEmpty fs)).taking (Begins (.sequence 0 none nodes)) := by
  cases listed with
  | nil => exact (agrees_nothing.or agrees_never).congr fun _ _ _ => by simp [begins_sequence_nil_iff]
  | cons finished begun others =>
    have branches := (Cuts.cons finished begun others).agrees
    exact branches.congr fun _ _ _ => (brokenOff_iff (List.cons_ne_nil _ _)).symm

theorem Cuts.choice_readable {leaf : CharClass → Prop} (listed : Cuts [] nodes fs)
    (each : ∀ node ∈ nodes, node.AllAreReadable leaf)
    (named : ∀ name ∈ Fragment.namesOfAll fs, Pattern.GroupName name) :
    (Fragment.choice .once (Fragment.orEmpty fs)).Readable leaf := by
  have readable := listed.readable each named
  cases fs with
  | nil => exact ⟨List.cons_ne_nil _ _, trivial, trivial⟩
  | cons f fs => exact ⟨List.cons_ne_nil _ _, readable⟩

-- What was emitted is read as the filled fragment is, which has the same text.
theorem accepts_of_filled {f : Fragment} {rows : List (Text × Node)} {n : Nat}
    {derives : Nat → Text → List Visit → Prop} (numbered : Numbered n rows) (order : rows.Perm f.rows)
    (readable : Named f.filled → f.filled.Readable CharClass.OneAtom)
    (agrees : Agrees f.filled.taking derives) :
    ∃ parsed, Pattern.read (anchored f.render) = .ok parsed ∧
      ∀ input, parsed.Accepts input ↔ ∃ visits, derives 0 input visits := by
  have distinct : f.filled.names.Nodup := f.filled_names ▸ numbered.distinct order
  have named : Named f.filled := fun name member => numbered.named order name (f.filled_names ▸ member)
  rw [← Fragment.filled_render]
  exact Fragment.accepts_iff (readable named) distinct agrees

theorem halves_accept_cuts (atoms : ∀ child ∈ nodes, child.HasAtoms) (t t' : GroupTable) :
    ∃ halved listed,
      Pattern.read (anchored ((startedSequence (startedParts nodes)).run t).1) = .ok halved ∧
      Pattern.read (anchored ((listedSequence (startedParts nodes)).run t').1) = .ok listed ∧
      (∀ input, halved.Accepts input ↔ listed.Accepts input) ∧
      (nodes = [] → ∀ input, halved.Accepts input ↔ input = []) := by
  have each : ∀ node ∈ filledAll nodes, node.AllAreReadable CharClass.OneAtom := by
    intro node member
    rw [filledAll_eq] at member
    obtain ⟨child, below, rfl⟩ := List.mem_map.mp member
    exact filled_readable child (atoms child below)
  obtain ⟨f, rows, ⟨begun, _⟩, run, numbered⟩ := emits_started (.sequence 0 none nodes) t
  obtain ⟨_, rows', ⟨fs, rfl, cut, order⟩, run', numbered'⟩ := emits_listedSequence nodes t'
  have sequence : ((startedSequence (startedParts nodes)).run t).1 = f.render := congrArg Prod.fst run
  have choice : ((listedSequence (startedParts nodes)).run t').1 = _ := congrArg Prod.fst run'
  obtain ⟨halved, read, accepts⟩ := accepts_of_filled numbered begun.perm
    (begun.filled.readable (.sequence ⟨by simp, each⟩)) begun.filled.agrees
  obtain ⟨listed, read', accepts'⟩ := accepts_of_filled numbered' order
    (fun named => cut.filled.choice_readable each fun name member => named name (by
      rwa [Fragment.names, Fragment.filled, Fragment.rows, Fragment.rowsOfAll_orEmpty]))
    cut.filled.choice_agrees
  refine ⟨halved, listed, sequence ▸ read, choice ▸ read', fun input => ?_, ?_⟩
  · rw [accepts, accepts']
    rfl
  · rintro rfl input
    rw [accepts]
    simp [filled, filledAll, begins_sequence_nil_iff]

-- A digit and letters, then a class that no character is in.

def deadEnd : List Node :=
  [.single 0 ⟨"[0-9]".toList⟩, .repetition 2 (.single 1 ⟨"[a-c]".toList⟩), .single 3 ⟨"[a&&b]".toList⟩]

def isAtom : Node → Bool
  | .single _ c => c.set?.isSome
  | _ => true

theorem deadEnd_accepts : ∃ halved listed,
    Pattern.read "^(?:(?:[0-9](?:(?:[a-c])*[a&&b]?|(?:[a-c])*[a-c]?)|[0-9]?))$".toList = .ok halved ∧
    Pattern.read "^(?:(?:[0-9]?|[0-9](?:[a-c])*[a-c]?|[0-9](?:[a-c])*[a&&b]?))$".toList = .ok listed ∧
    ∀ input, halved.Accepts input ↔ listed.Accepts input := by
  have atoms : ∀ child ∈ deadEnd, child.HasAtoms := by
    have each : (deadEnd.all fun child => child.walk.all isAtom) = true := by decide +kernel
    intro child member i c inside
    exact List.all_eq_true.mp (List.all_eq_true.mp each child member) _ inside
  obtain ⟨halved, listed, read, read', same, _⟩ := halves_accept_cuts atoms .empty .empty
  exact ⟨halved, listed, read, read', same⟩

end Node
end Typeahead
