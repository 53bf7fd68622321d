import Mathlib.Tactic.Linarith
import Typeahead.Proofs.Node.Halving
import Typeahead.Proofs.Node.Recording

namespace Typeahead

namespace Node

def Step.cuts : Step → Nat
  | .sequence count index => halvings count index
  | _ => 0

-- How often a finished copy is made below a step.
def Step.copies : Step → Nat
  | .sequence count index => halvings count index
  | .any _ => 0
  | .var => 0
  | .repetition => 1

def copies (above : List Step) : Nat := (above.map Step.copies).sum

theorem copies_cons (step : Step) (above : List Step) :
    copies (step :: above) = step.copies + copies above := List.sum_cons

namespace Position

def isVariable (p : Position) : Bool := p.node.asVariable.isSome

def rounds (p : Position) : Nat := p.above.count .repetition

def cuts (p : Position) : Nat := (p.above.map Step.cuts).sum

theorem copies_eq (p : Position) : copies p.above = p.rounds + p.cuts := by
  obtain ⟨above, node⟩ := p
  simp only [rounds, cuts]
  induction above with
  | nil => rfl
  | cons step above ih =>
    rw [copies_cons, ih, List.count_cons, List.map_cons, List.sum_cons]
    cases step <;> simp [Step.copies, Step.cuts] <;> omega

end Position

end Node

namespace Outline
open Node

section
variable {kind : PatternKind} {above : List Step} [DecidableEq Position] {q : Position}

theorem count_halve {fuel : Nat} {parts : List Part} (enough : parts.length ≤ fuel) :
    ((halve fuel parts).calls kind above).count q =
      tally (fun part => (part.begun.calls kind above).count q)
        (fun part => (part.finished.calls kind above).count q) parts.length 0 parts := by
  refine halve_induct (M := fun parts o => (o.calls kind above).count q =
    tally (fun part => (part.begun.calls kind above).count q)
      (fun part => (part.finished.calls kind above).count q) parts.length 0 parts)
    rfl (fun part => ?_) ?_ fuel parts enough
  · simp [tally, halvings]
  · intro head tail inside beyond long half ihInside ihBeyond
    have finished : ((inRow (head.map Part.finished)).calls kind above).count q =
        (head.map fun part => (part.finished.calls kind above).count q).sum := by
      rw [calls_inRow, List.count_flatMap, List.map_map]
      rfl
    rw [tally_cut _ _ head tail long half, ← ihInside, ← ihBeyond, ← finished]
    simp only [cut, calls, List.count_append]
    omega

end

end Outline

namespace Node

-- A finished copy has a call for each of its nodes, and none of them is begun.

mutual
theorem calls_wholeOutline : ∀ (above : List Step) (node : Node),
    node.wholeOutline.calls .whole above = positions above node
  | above, .sequence i written nodes => by
    rw [wholeOutline, Outline.calls, Outline.calls_inRow, calls_wholeOutlines, positions]
    rfl
  | above, .any i nodes => by
    rw [wholeOutline, Outline.calls, Outline.calls, Outline.calls_branches, calls_wholeOutlines, positions]
    rfl
  | _, .single _ _ => rfl
  | above, .var i info child => by
    rw [wholeOutline, Outline.calls, Outline.calls, Outline.calls, calls_wholeOutline _ child, positions]
    rfl
  | above, .repetition i child => by
    rw [wholeOutline, Outline.calls, Outline.calls, Outline.calls, calls_wholeOutline _ child, positions]
    rfl

theorem calls_wholeOutlines : ∀ (step : Nat → Step) (above : List Step) (k : Nat) (nodes : List Node),
    (wholeOutlines step k nodes).flatMap (Outline.calls .whole above) = positionsOfAll step above k nodes
  | _, _, _, [] => rfl
  | step, above, k, node :: nodes => by
    rw [wholeOutlines, List.flatMap_cons, Outline.calls, calls_wholeOutline _ node, calls_wholeOutlines,
      positionsOfAll]
end

theorem closed_unbegun : Outline.Closed fun o => ∀ above, o.calls .started above = [] where
  nothing _ := rfl
  pair _ first second none none' above := by rw [Outline.calls, none above, none' above, List.append_nil]
  plain _ _ none above := none above

mutual
theorem wholeOutline_unbegun : ∀ (node : Node) (above : List Step),
    node.wholeOutline.calls .started above = []
  | .sequence _ _ nodes, above => closed_unbegun.inRow (wholeOutlines_unbegun _ _ nodes) above
  | .any _ nodes, above => closed_unbegun.branches (wholeOutlines_unbegun _ _ nodes) above
  | .single _ _, _ => rfl
  | .var _ _ child, above => wholeOutline_unbegun child (.var :: above)
  | .repetition _ child, above => wholeOutline_unbegun child (.repetition :: above)

theorem wholeOutlines_unbegun : ∀ (step : Nat → Step) (k : Nat) (nodes : List Node),
    ∀ o ∈ wholeOutlines step k nodes, ∀ above, o.calls .started above = []
  | step, k, node :: nodes, o, member, above => by
    rcases List.mem_cons.mp member with rfl | member
    · exact wholeOutline_unbegun node (step k :: above)
    · exact wholeOutlines_unbegun step (k + 1) nodes o member above
end

end Node

namespace PatternKind

-- How many calls of a node a finished copy adds.
def perCopy : PatternKind → Nat
  | .whole => 1
  | .started => 0

-- How many calls of a node there are if it is copied so often.
def callsFor (copies : Nat) : PatternKind → Nat
  | .whole => copies
  | .started => 1

end PatternKind

namespace Node

theorem outlineParts_length (count k : Nat) (nodes : List Node) :
    (outlineParts count k nodes).length = nodes.length := by
  induction nodes generalizing k with
  | nil => rfl
  | cons node nodes ih => rw [outlineParts, List.length_cons, ih, List.length_cons]

section
variable {kind : PatternKind} {above : List Step} {step : Step} {q : Position}
  {calls places calls' places' : Nat}

-- The calls that are made for a part of a tree, in which a position is found so often. The copies
-- that are made because of the steps above are not among them.
def Accounted (kind : PatternKind) (above : List Step) (q : Position) (calls places : Nat) : Prop :=
  calls + kind.perCopy * copies above * places = kind.callsFor (copies q.above) * places

theorem Accounted.nothing : Accounted kind above q 0 0 := by simp [Accounted]

theorem Accounted.add (known : Accounted kind above q calls places)
    (known' : Accounted kind above q calls' places') :
    Accounted kind above q (calls + calls') (places + places') := by
  unfold Accounted at *
  linarith

-- Going up a step, the copies for it are added.
theorem Accounted.up (known : Accounted kind (step :: above) q calls places) :
    Accounted kind above q (calls + step.copies * (kind.perCopy * places)) places := by
  unfold Accounted at *
  rw [copies_cons] at known
  linarith

variable [DecidableEq Position]

theorem Accounted.own (kind : PatternKind) (above : List Step) (q : Position) (node : Node) :
    Accounted kind above q
      ((if PatternKind.started = kind then [(⟨above, node⟩ : Position)] else []).count q)
      ([(⟨above, node⟩ : Position)].count q) := by
  by_cases here : q = ⟨above, node⟩
  · subst here
    cases kind <;> simp [Accounted, PatternKind.perCopy, PatternKind.callsFor]
  · have nowhere : [(⟨above, node⟩ : Position)].count q = 0 :=
      List.count_eq_zero.mpr fun member => here (List.mem_singleton.mp member)
    rw [nowhere]
    cases kind <;> simp [Accounted, nowhere]

theorem Accounted.call {node : Node} {body : Outline} {below : List Position}
    (inside : Accounted kind above q ((body.calls kind above).count q) (below.count q)) :
    Accounted kind above q (((Outline.call .started node body).calls kind above).count q)
      ((⟨above, node⟩ :: below : List Position).count q) := by
  have both := (Accounted.own kind above q node).add inside
  rw [← List.count_append, ← List.count_append] at both
  exact both

theorem count_wholeOutline (kind : PatternKind) (above : List Step) (q : Position) (node : Node) :
    (node.wholeOutline.calls kind above).count q = kind.perCopy * (positions above node).count q := by
  cases kind with
  | whole => rw [calls_wholeOutline, PatternKind.perCopy, Nat.one_mul]
  | started => rw [wholeOutline_unbegun, PatternKind.perCopy, Nat.zero_mul, List.count_nil]

mutual
theorem accounted_startedOutline (kind : PatternKind) (q : Position) : ∀ (above : List Step) (node : Node),
    Accounted kind above q ((node.startedOutline.calls kind above).count q) ((positions above node).count q)
  | above, .sequence i written nodes => by
    refine Accounted.call ?_
    rw [Outline.count_halve (Nat.le_refl _), outlineParts_length]
    exact accounted_outlineParts kind q above nodes.length 0 nodes
  | above, .any i nodes => by
    refine Accounted.call ?_
    rw [Outline.calls, Outline.calls_branches]
    exact accounted_startedOutlines kind q above 0 nodes
  | above, .single i c => Accounted.call Accounted.nothing
  | above, .var i info child => by
    have inside := (accounted_startedOutline kind q (.var :: above) child).up
    rw [Step.copies, Nat.zero_mul, Nat.add_zero] at inside
    exact Accounted.call inside
  | above, .repetition i child => by
    have inside := (accounted_startedOutline kind q (.repetition :: above) child).up
    rw [Step.copies, Nat.one_mul, ← count_wholeOutline, ← List.count_append] at inside
    exact Accounted.call inside

theorem accounted_startedOutlines (kind : PatternKind) (q : Position) :
    ∀ (above : List Step) (k : Nat) (nodes : List Node),
    Accounted kind above q (((startedOutlines k nodes).flatMap (Outline.calls kind above)).count q)
      ((positionsOfAll .any above k nodes).count q)
  | _, _, [] => Accounted.nothing
  | above, k, node :: nodes => by
    have first := (accounted_startedOutline kind q (.any k :: above) node).up
    have both := first.add (accounted_startedOutlines kind q above (k + 1) nodes)
    rw [Step.copies, Nat.zero_mul, Nat.add_zero, ← List.count_append, ← List.count_append] at both
    exact both

theorem accounted_outlineParts (kind : PatternKind) (q : Position) :
    ∀ (above : List Step) (count k : Nat) (nodes : List Node),
    Accounted kind above q
      (Outline.tally (fun part => (part.begun.calls kind above).count q)
        (fun part => (part.finished.calls kind above).count q) count k (outlineParts count k nodes))
      ((positionsOfAll (.sequence count) above k nodes).count q)
  | _, _, _, [] => Accounted.nothing
  | above, count, k, node :: nodes => by
    have first := (accounted_startedOutline kind q (.sequence count k :: above) node).up
    have both := first.add (accounted_outlineParts kind q above count (k + 1) nodes)
    rw [Step.copies, ← count_wholeOutline, ← List.count_append] at both
    rw [outlineParts, Outline.tally_cons]
    exact both
end

def NamesCalls (outline : Outline) : Prop := ∀ (above : List Step) (q : Position),
  (outline.groups above).count q =
    ((outline.calls .whole above ++ outline.calls .started above).filter Position.isVariable).count q

theorem closed_namesCalls : Outline.Closed NamesCalls where
  nothing _ _ := rfl
  pair joint first second names names' above q := by
    have one := names above q
    have other := names' above q
    simp only [Outline.groups, Outline.calls, List.filter_append, List.count_append] at *
    omega
  plain _ _ names above q := names above q

theorem NamesCalls.child {body : Outline} (names : NamesCalls body) (step : Step) :
    NamesCalls (.child step body) := fun above q => names (step :: above) q

theorem NamesCalls.call {body : Outline} (names : NamesCalls body) (kind : PatternKind) {node : Node}
    (noVariable : node.asVariable = none) : NamesCalls (.call kind node body) := by
  intro above q
  have inside := names above q
  cases kind <;> simpa [Outline.groups, Outline.calls, Position.isVariable, noVariable] using inside

theorem NamesCalls.var {body : Outline} (names : NamesCalls body) (kind : PatternKind) (times : Times)
    (i : Nat) (info : Variable) (child : Node) :
    NamesCalls (.call kind (.var i info child) (.named times (.var i info child) body)) := by
  intro above q
  have inside := names above q
  have counts : Position.isVariable ⟨above, .var i info child⟩ = true := rfl
  cases kind <;>
    simp [Outline.groups, Outline.calls, counts, List.count_cons] at * <;>
    omega

mutual
theorem wholeOutline_names : ∀ node : Node, NamesCalls node.wholeOutline
  | .sequence _ _ nodes => (closed_namesCalls.inRow (wholeOutlines_names _ _ nodes)).call .whole rfl
  | .any _ nodes => (closed_namesCalls.plain _ _
      (closed_namesCalls.branches (wholeOutlines_names _ _ nodes))).call .whole rfl
  | .single _ _ => NamesCalls.call (fun _ _ => rfl) .whole rfl
  | .var i info child => ((wholeOutline_names child).child .var).var .whole .once i info child
  | .repetition _ child => (closed_namesCalls.plain _ _
      ((wholeOutline_names child).child .repetition)).call .whole rfl

theorem wholeOutlines_names : ∀ (step : Nat → Step) (k : Nat) (nodes : List Node),
    ∀ o ∈ wholeOutlines step k nodes, NamesCalls o
  | step, k, node :: nodes, o, member => by
    rcases List.mem_cons.mp member with rfl | member
    · exact (wholeOutline_names node).child (step k)
    · exact wholeOutlines_names step (k + 1) nodes o member
end

mutual
theorem startedOutline_names : ∀ node : Node, NamesCalls node.startedOutline
  | .sequence _ _ nodes =>
    (closed_namesCalls.halve (Nat.le_refl _) (outlineParts_names _ _ nodes)).call .started rfl
  | .any _ nodes => (closed_namesCalls.plain _ _
      (closed_namesCalls.branches (startedOutlines_names _ nodes))).call .started rfl
  | .single _ _ => NamesCalls.call (fun _ _ => rfl) .started rfl
  | .var i info child => ((startedOutline_names child).child .var).var .started .optional i info child
  | .repetition _ child => (closed_namesCalls.pair _ _ _ ((startedOutline_names child).child .repetition)
      (closed_namesCalls.plain _ _ ((wholeOutline_names child).child .repetition))).call .started rfl

theorem startedOutlines_names : ∀ (k : Nat) (nodes : List Node),
    ∀ o ∈ startedOutlines k nodes, NamesCalls o
  | k, node :: nodes, o, member => by
    rcases List.mem_cons.mp member with rfl | member
    · exact (startedOutline_names node).child (.any k)
    · exact startedOutlines_names (k + 1) nodes o member

theorem outlineParts_names : ∀ (count k : Nat) (nodes : List Node),
    ∀ part ∈ outlineParts count k nodes, NamesCalls part.finished ∧ NamesCalls part.begun
  | count, k, node :: nodes, part, member => by
    rcases List.mem_cons.mp member with rfl | member
    · exact ⟨(wholeOutline_names node).child _, (startedOutline_names node).child _⟩
    · exact outlineParts_names count (k + 1) nodes part member
end

end

theorem count_replicates {α : Type} [DecidableEq α] (times : α → Nat) (places : List α) (q : α) :
    (places.flatMap fun p => List.replicate (times p) p).count q = times q * places.count q := by
  induction places with
  | nil => rfl
  | cons p places ih =>
    rw [List.flatMap_cons, List.count_append, ih, List.count_replicate, List.count_cons]
    by_cases here : p = q
    · subst here
      simp
      ring
    · simp [here]

theorem calls_started_perm (root : Node) :
    (root.startedOutline.calls .started []).Perm (positions [] root) := by
  classical
  refine List.perm_iff_count.mpr fun q => ?_
  have known := accounted_startedOutline .started q [] root
  simpa [Accounted, PatternKind.perCopy, PatternKind.callsFor] using known

theorem calls_whole_perm (root : Node) :
    (root.startedOutline.calls .whole []).Perm
      ((positions [] root).flatMap fun p => List.replicate (p.rounds + p.cuts) p) := by
  classical
  refine List.perm_iff_count.mpr fun q => ?_
  have known := accounted_startedOutline .whole q [] root
  rw [count_replicates, ← Position.copies_eq]
  simpa [Accounted, PatternKind.perCopy, PatternKind.callsFor, copies] using known

theorem groups_perm (root : Node) :
    (root.startedOutline.groups []).Perm
      (((positions [] root).filter Position.isVariable).flatMap fun p =>
        List.replicate (1 + p.rounds + p.cuts) p) := by
  classical
  refine List.perm_iff_count.mpr fun q => ?_
  have finished := (calls_whole_perm root).count_eq q
  have begun := (calls_started_perm root).count_eq q
  rw [count_replicates] at finished ⊢
  rw [startedOutline_names root [] q]
  by_cases isVariable : q.isVariable
  · rw [List.count_filter isVariable, List.count_filter isVariable, List.count_append, finished, begun]
    ring
  · have none (places : List Position) : (places.filter Position.isVariable).count q = 0 :=
      List.count_eq_zero.mpr fun member => isVariable (List.mem_filter.mp member).2
    rw [none, none, Nat.mul_zero]

theorem startedPattern_rows (root : Node) :
    root.startedPattern.2.rows.map Prod.snd = (root.startedOutline.groups []).map Position.node := by
  rw [startedPattern, ← emit_startedOutline]
  exact Outline.emit_rows root.startedOutline [] .empty

theorem namesFor_length (root node : Node) :
    (root.startedPattern.2.namesFor node).length =
      (((positions [] root).filter fun p => p.isVariable ∧ p.node.id = node.id).map fun p =>
        1 + p.rounds + p.cuts).sum := by
  have rows : (root.startedPattern.2.namesFor node).length =
      (root.startedPattern.2.rows.map Prod.snd).countP (·.id = node.id) := by
    rw [GroupTable.namesFor, List.length_map, ← List.countP_eq_length_filter, List.countP_map]
    rfl
  rw [rows, startedPattern_rows, List.countP_map, (groups_perm root).countP_eq, List.countP_flatMap]
  induction positions [] root with
  | nil => rfl
  | cons p places ih =>
    by_cases isVariable : p.isVariable <;> by_cases same : p.node.id = node.id <;>
      simp_all [Function.comp_def, List.countP_replicate]

-- The deepest of the fragments of these nodes, finished and begun.
def deepest (leaf : CharClass → Nat) : List Node → Nat
  | [] => 0
  | node :: rest =>
    max (max (node.wholeOutline.nesting leaf) (node.startedOutline.nesting leaf)) (deepest leaf rest)

theorem outlineParts_nesting (leaf : CharClass → Nat) : ∀ (count k : Nat) (nodes : List Node),
    ∀ part ∈ outlineParts count k nodes,
      part.finished.nesting leaf ≤ deepest leaf nodes ∧ part.begun.nesting leaf ≤ deepest leaf nodes
  | count, k, node :: nodes, part, member => by
    rw [deepest]
    rcases List.mem_cons.mp member with rfl | member
    · simp [Outline.nesting]
    · have below := outlineParts_nesting leaf count (k + 1) nodes part member
      omega

theorem startedOutline_nesting (leaf : CharClass → Nat) (i : Nat) (written : Option Text)
    (nodes : List Node) :
    (startedOutline (.sequence i written nodes)).nesting leaf ≤
      deepest leaf nodes + Nat.clog 2 nodes.length := by
  have bound := Outline.nesting_halve_le (Nat.le_refl _) (outlineParts_nesting leaf nodes.length 0 nodes)
  rw [outlineParts_length] at bound
  rw [startedOutline, Outline.nesting, outlineParts_length]
  exact bound

-- What is written for the positions of a tree when it is lowered for a text still being typed.
structure Written (root : Node) (outline : Outline) : Prop where
  -- each position has its own steps, and they lead there
  distinct : ((positions [] root).map Position.above).Nodup
  leads : ∀ p ∈ positions [] root, Leads root [] p.above p.node
  everyNode : (positions [] root).map Position.node = root.walk
  -- lowering makes the calls of the outline as it writes the text and fills the table
  recorded : (startedRecorded [] root).run .none =
    (·, fun kind => outline.calls kind []) <$> started root
  begun : (outline.calls .started []).Perm (positions [] root)
  finished : (outline.calls .whole []).Perm
    ((positions [] root).flatMap fun p => List.replicate (p.rounds + p.cuts) p)
  rows : root.startedPattern.2.rows.map Prod.snd = (outline.groups []).map Position.node
  groups : (outline.groups []).Perm
    (((positions [] root).filter Position.isVariable).flatMap fun p =>
      List.replicate (1 + p.rounds + p.cuts) p)
  names : ∀ node, (root.startedPattern.2.namesFor node).length =
    (((positions [] root).filter fun p => p.isVariable ∧ p.node.id = node.id).map fun p =>
      1 + p.rounds + p.cuts).sum

-- Each node is begun once, and its finished copies are few. A sequence adds few groups around those of
-- its children, and groups are what the brackets of the text enclose.
theorem started_growth (root : Node) :
    (∀ node : Node, node.wholeOutline.emit = whole node ∧ node.startedOutline.emit = started node) ∧
    Written root root.startedOutline ∧
    (∀ count index, halvings count index ≤ Nat.log 2 count) ∧
    (∀ leaf i written nodes, (startedOutline (.sequence i written nodes)).nesting leaf ≤
      deepest leaf nodes + Nat.clog 2 nodes.length) ∧
    ∀ leaf (outline : Outline), (∀ c ∈ outline.classes, Text.Nests (leaf c) c.text) →
      ∀ t, Text.Nests (outline.nesting leaf) (outline.emit.run t).1 :=
  ⟨fun node => ⟨emit_wholeOutline node, emit_startedOutline node⟩,
    { distinct := positions_distinct [] root
      leads := positions_lead [] root .here
      everyNode := positions_nodes [] root
      recorded := startedRecorded_calls root
      begun := calls_started_perm root
      finished := calls_whole_perm root
      rows := startedPattern_rows root
      groups := groups_perm root
      names := namesFor_length root },
    halvings_le_log, startedOutline_nesting, fun _ => Outline.nests⟩

-- A line that is sung again and again, and a pair of brackets behind it.

def line : Node := .var 1 { name := "line".toList } (.single 0 ⟨"[a-c]".toList⟩)

def song : Node :=
  .sequence 5 none [.repetition 2 line, .single 3 (.literal '('), .single 4 (.literal ')')]

theorem song_growth : (∀ c ∈ song.startedOutline.classes, Text.Nests 0 c.text) ∧
    Text.Nests 3 ((started song).run .empty).1 ∧
    Text.brackets 0 ((started song).run .empty).1 = (3, 0) ∧
    (song.startedPattern.2.namesFor line).length = 3 := by
  obtain ⟨emitted, written, _, _, nests⟩ := started_growth song
  have letters : Text.Nests 0 "[a-c]".toList := Text.Unbracketed.nests (by
    unfold Text.Unbracketed
    decide)
  have unbracketed : ∀ c ∈ song.startedOutline.classes, Text.Nests 0 c.text := by
    have classes : ∀ c ∈ song.startedOutline.classes,
        c = ⟨"[a-c]".toList⟩ ∨ c = .literal '(' ∨ c = .literal ')' := by
      decide
    intro c member
    rcases classes c member with rfl | rfl | rfl
    · exact letters
    · exact CharClass.literal_nests '('
    · exact CharClass.literal_nests ')'
  have text := nests (fun _ => 0) song.startedOutline unbracketed .empty
  rw [(emitted song).2] at text
  refine ⟨unbracketed, text, text.brackets 0, ?_⟩
  rw [written.names]
  simp [song, line, positions, positionsOfAll, Position.isVariable, asVariable, id, Position.rounds,
    Position.cuts, Step.cuts, halvings]

end Node
end Typeahead
