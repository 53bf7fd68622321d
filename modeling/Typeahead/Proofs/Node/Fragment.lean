import Typeahead.Node.Fragment
import Typeahead.Proofs.Node.Language

namespace Typeahead

-- What follows an item: nothing, a question mark or a star.
inductive Times where
  | once
  | optional
  | any

def Times.mark : Times → Text
  | .once => []
  | .optional => ['?']
  | .any => ['*']

inductive Fragment where
  | atom (times : Times) (charClass : CharClass)
  | group (times : Times) (name : Text) (node : Node) (body : Fragment)
  | sequence (parts : List Fragment)
  | choice (times : Times) (branches : List Fragment)

namespace Fragment

mutual
def render : Fragment → Text
  | .atom times c => c.text ++ times.mark
  | .group times name _ body => Node.namedGroup name (render body) ++ times.mark
  | .sequence parts => (renderAll parts).flatten
  | .choice times branches => Node.plainGroup (Node.joinBranches (renderAll branches)) ++ times.mark

def renderAll : List Fragment → List Text
  | [] => []
  | f :: rest => render f :: renderAll rest
end

mutual
def rows : Fragment → List (Text × Node)
  | .atom _ _ => []
  | .group _ name node body => (name, node) :: rows body
  | .sequence parts => rowsOfAll parts
  | .choice _ branches => rowsOfAll branches

def rowsOfAll : List Fragment → List (Text × Node)
  | [] => []
  | f :: rest => rows f ++ rowsOfAll rest
end

def names (f : Fragment) : List Text := f.rows.map Prod.fst

structure Group where
  name : Text
  node : Node
  body : Fragment

-- The groups again, each with what it encloses.
mutual
def groups : Fragment → List Group
  | .atom _ _ => []
  | .group _ name node body => ⟨name, node, body⟩ :: groups body
  | .sequence parts => groupsOfAll parts
  | .choice _ branches => groupsOfAll branches

def groupsOfAll : List Fragment → List Group
  | [] => []
  | f :: rest => groups f ++ groupsOfAll rest
end

theorem groupsOfAll_append (a b : List Fragment) :
    groupsOfAll (a ++ b) = groupsOfAll a ++ groupsOfAll b := by
  induction a with
  | nil => rfl
  | cons f a ih => rw [List.cons_append, groupsOfAll, ih, groupsOfAll, List.append_assoc]

end Fragment

namespace Node

inductive Whole : Node → Fragment → Prop
  | single : Whole (.single i c) (.atom .once c)
  | var (inner : Whole child body) :
      Whole (.var i info child) (.group .once name (.var i info child) body)
  | sequenceNil : Whole (.sequence i written []) (.sequence [])
  | sequenceCons (first : Whole node part) (others : Whole (.sequence i written nodes) (.sequence parts)) :
      Whole (.sequence i written (node :: nodes)) (.sequence (part :: parts))
  | anyNil : Whole (.any i []) (.choice .once [])
  | anyCons (first : Whole node branch) (others : Whole (.any i nodes) (.choice .once branches)) :
      Whole (.any i (node :: nodes)) (.choice .once (branch :: branches))
  | repetition (inner : Whole child body) : Whole (.repetition i child) (.choice .any [body])

-- The rows are in the order in which the names are handed out, which is not that of the text.
inductive Started : Node → Fragment → List (Text × Node) → Prop
  | single : Started (.single i c) (.atom .optional c) []
  | var (inner : Started child body rows) :
      Started (.var i info child) (.group .optional name (.var i info child) body)
        ((name, .var i info child) :: rows)
  | sequenceNil : Started (.sequence i written []) (.sequence []) []
  | sequenceOne (only : Started node f rows) : Started (.sequence i written [node]) f rows
  -- the first half finished and the second begun, or the first begun
  | sequenceCut (someHead : head ≠ []) (someTail : tail ≠ [])
      (inside : Started (.sequence i written head) begun rows)
      (finished : Whole (.sequence i written head) (.sequence parts))
      (beyond : Started (.sequence i written tail) rest rows') :
      Started (.sequence i written (head ++ tail))
        (.choice .once [.sequence (parts ++ [rest]), begun])
        (rows ++ (Fragment.rows (.sequence parts) ++ rows'))
  | anyNil : Started (.any i []) (.choice .optional []) []
  | anyCons (first : Started node branch rows)
      (others : Started (.any i nodes) (.choice .optional branches) rows') :
      Started (.any i (node :: nodes)) (.choice .optional (branch :: branches)) (rows ++ rows')
  | repetition (last : Started child begun rows) (finished : Whole child body) :
      Started (.repetition i child) (.sequence [.choice .any [body], begun])
        (rows ++ body.rows)

section
variable {node : Node} {f : Fragment} {parts : List Fragment} {rows rows' : List (Text × Node)}

theorem rowsOfAll_append (a b : List Fragment) :
    Fragment.rowsOfAll (a ++ b) = Fragment.rowsOfAll a ++ Fragment.rowsOfAll b := by
  induction a with
  | nil => rfl
  | cons f a ih => rw [List.cons_append, Fragment.rowsOfAll, ih, Fragment.rowsOfAll, List.append_assoc]

theorem rows_sequence_last : (Fragment.sequence (parts ++ [f])).rows = Fragment.rowsOfAll parts ++ f.rows := by
  rw [Fragment.rows, rowsOfAll_append, Fragment.rowsOfAll, Fragment.rowsOfAll, List.append_nil]

theorem rows_cut (begun : Fragment) : (Fragment.choice .once [f, begun]).rows = f.rows ++ begun.rows := by
  rw [Fragment.rows, Fragment.rowsOfAll, Fragment.rowsOfAll, Fragment.rowsOfAll, List.append_nil]

theorem Started.perm (started : Started node f rows) : rows.Perm f.rows := by
  induction started with
  | single | sequenceNil | anyNil => exact .refl _
  | var _ ih => exact ih.cons _
  | sequenceOne _ ih => exact ih
  | sequenceCut _ _ inside finished beyond ihInside ihBeyond =>
    rw [rows_cut, rows_sequence_last]
    exact List.perm_append_comm.trans ((List.Perm.append_left _ ihBeyond).append ihInside)
  | anyCons _ _ ihFirst ihOthers => exact ihFirst.append ihOthers
  | repetition _ finished ih =>
    simp only [Fragment.rows, Fragment.rowsOfAll, List.append_nil]
    exact List.perm_append_comm.trans (List.Perm.append_left _ ih)

theorem variableNodes_sequence (i : Nat) (written : Option Text) (nodes : List Node) :
    variableNodes (.sequence i written nodes) = nodes.flatMap variableNodes := by
  have all : (walkAll nodes).filter (·.asVariable.isSome) = nodes.flatMap variableNodes := by
    induction nodes with
    | nil => rfl
    | cons node nodes ih => rw [walkAll, List.filter_append, ih, List.flatMap_cons, variableNodes]
  rw [variableNodes, walk, List.filter_cons_of_neg (by simp [asVariable]), all]

theorem variableNodes_any {i : Nat} (nodes : List Node) :
    variableNodes (.any i nodes) = nodes.flatMap variableNodes := by
  rw [← variableNodes_sequence i none]
  rfl

theorem Whole.nodes (whole : Whole node f) : f.rows.map Prod.snd = node.variableNodes := by
  induction whole with
  | single | sequenceNil | anyNil => rfl
  | var _ ih => exact congrArg (_ :: ·) ih
  | sequenceCons _ _ first others =>
    rw [variableNodes_sequence] at others ⊢
    rw [Fragment.rows] at others ⊢
    rw [Fragment.rowsOfAll, List.map_append, first, others, List.flatMap_cons]
  | anyCons _ _ first others =>
    rw [variableNodes_any] at others ⊢
    rw [Fragment.rows] at others ⊢
    rw [Fragment.rowsOfAll, List.map_append, first, others, List.flatMap_cons]
  | repetition _ ih =>
    rw [Fragment.rows, Fragment.rowsOfAll, Fragment.rowsOfAll, List.append_nil, ih]
    rfl

theorem Started.nodes (started : Started node f rows) : rows.map Prod.snd ⊆ node.variableNodes := by
  induction started with
  | single | sequenceNil | anyNil => exact List.nil_subset _
  | var _ ih => exact List.cons_subset_cons _ ih
  | sequenceOne _ ih => simpa [variableNodes_sequence] using ih
  | sequenceCut _ _ _ finished _ inside beyond =>
    simp only [List.map_append, finished.nodes, variableNodes_sequence, List.flatMap_append] at *
    exact List.append_subset.mpr ⟨List.subset_append_of_subset_left _ inside,
      List.append_subset.mpr ⟨List.subset_append_left .., List.subset_append_of_subset_right _ beyond⟩⟩
  | anyCons _ _ first others =>
    simp only [List.map_append, variableNodes_any, List.flatMap_cons] at *
    exact List.append_subset.mpr ⟨List.subset_append_of_subset_left _ first,
      List.subset_append_of_subset_right _ others⟩
  | repetition _ finished ih =>
    rw [List.map_append, finished.nodes]
    exact List.append_subset.mpr ⟨ih, List.Subset.refl _⟩

theorem Started.nodes_all (started : Started node f rows) : node.variableNodes ⊆ rows.map Prod.snd := by
  induction started with
  | single | sequenceNil | anyNil => exact List.nil_subset _
  | var _ ih => exact List.cons_subset_cons _ ih
  | sequenceOne _ ih => simpa [variableNodes_sequence] using ih
  | sequenceCut _ _ _ finished _ _ beyond =>
    simp only [List.map_append, finished.nodes, variableNodes_sequence, List.flatMap_append] at *
    refine List.subset_append_of_subset_right _ (List.append_subset.mpr ⟨List.subset_append_left .., ?_⟩)
    exact List.subset_append_of_subset_right _ beyond
  | anyCons _ _ first others =>
    simp only [List.map_append, variableNodes_any, List.flatMap_cons] at *
    exact List.append_subset.mpr ⟨List.subset_append_of_subset_left _ first,
      List.subset_append_of_subset_right _ others⟩
  | repetition _ _ ih =>
    rw [List.map_append]
    exact List.subset_append_of_subset_left _ ih

-- Names are handed out one number after the other.
def Numbered (n : Nat) (rows : List (Text × Node)) : Prop :=
  rows.map Prod.fst = (List.range' n rows.length).map GroupTable.nameOf

theorem Numbered.append {n : Nat} (left : Numbered n rows)
    (right : Numbered (n + rows.length) rows') :
    Numbered n (rows ++ rows') := by
  unfold Numbered at *
  rw [List.map_append, left, right, List.length_append, ← List.map_append, List.range'_append_1]

-- Whatever names have been handed out before, one of these fragments is emitted and its rows are
-- added to the table.
def Emits (e : Emission) (fragment : Fragment → List (Text × Node) → Prop) : Prop :=
  ∀ t : GroupTable, ∃ f rows, fragment f rows ∧ e.run t = (f.render, ⟨t.rows ++ rows⟩) ∧
    Numbered t.rows.length rows

def EmitsAll (es : List Emission) (fragments : List Fragment → List (Text × Node) → Prop) : Prop :=
  ∀ t : GroupTable, ∃ fs rows, fragments fs rows ∧
    (emitAll es).run t = (Fragment.renderAll fs, ⟨t.rows ++ rows⟩) ∧ Numbered t.rows.length rows

theorem numbered_nil (n : Nat) : Numbered n [] := rfl

theorem emits_pure {e : Emission} {f : Fragment} {fragment : Fragment → List (Text × Node) → Prop}
    (written : e = pure f.render) (known : fragment f []) : Emits e fragment := by
  intro t
  refine ⟨f, [], known, ?_, numbered_nil _⟩
  rw [written, StateT.run_pure, List.append_nil]
  rfl

theorem emitsAll_nil {fragments : List Fragment → List (Text × Node) → Prop}
    (nothing : fragments [] []) : EmitsAll [] fragments := by
  intro t
  refine ⟨[], [], nothing, ?_, numbered_nil _⟩
  rw [emitAll, StateT.run_pure, List.append_nil]
  rfl

theorem emitsAll_cons {e : Emission} {es : List Emission}
    {first : Fragment → List (Text × Node) → Prop}
    {others fragments : List Fragment → List (Text × Node) → Prop} (emits : Emits e first)
    (emitsOthers : EmitsAll es others)
    (both : ∀ f fs rows rows', first f rows → others fs rows' → fragments (f :: fs) (rows ++ rows')) :
    EmitsAll (e :: es) fragments := by
  intro t
  obtain ⟨f, rows, one, run, numbered⟩ := emits t
  obtain ⟨fs, rows', rest, run', numbered'⟩ := emitsOthers ⟨t.rows ++ rows⟩
  refine ⟨f :: fs, rows ++ rows', both _ _ _ _ one rest, ?_, ?_⟩
  · have step : (emitAll (e :: es)).run t =
        ((e.run t).1 :: ((emitAll es).run (e.run t).2).1, ((emitAll es).run (e.run t).2).2) := rfl
    rw [step, run, run', Fragment.renderAll, List.append_assoc]
  · rw [List.length_append] at numbered'
    exact numbered.append numbered'

-- One of the emissions of the child of a variable emits this text, once some names are handed out.
def EmitsBelow (emissions : Node → List Emission) (node : Node) (text : Text) : Prop :=
  ∃ i info child, node = .var i info child ∧ ∃ e ∈ emissions child, ∃ t, (e.run t).1 = text

def Enclosing (emissions : Node → List Emission) (groups : List Fragment.Group) : Prop :=
  ∀ group ∈ groups, EmitsBelow emissions group.node group.body.render

def finished (node : Node) : List Emission := [whole node]

def finishedOrBegun (node : Node) : List Emission := [whole node, started node]

theorem Enclosing.weaken {groups : List Fragment.Group} (enclosing : Enclosing finished groups) :
    Enclosing finishedOrBegun groups := by
  intro group member
  obtain ⟨i, info, child, variable', e, among, text⟩ := enclosing group member
  exact ⟨i, info, child, variable', e, List.mem_singleton.mp among ▸ List.mem_cons_self .., text⟩

theorem emits_group {e : Emission} {inner : Fragment → List (Text × Node) → Prop}
    (emits : Emits e inner)
    (node : Node) (times : Times) :
    Emits (do
        let name ← allocate node
        return namedGroup name (← e) ++ times.mark)
      fun f rows => ∃ name body below, inner body below ∧ f = .group times name node body ∧
        rows = (name, node) :: below ∧ ∃ t, (e.run t).1 = body.render := by
  intro t
  obtain ⟨body, below, one, run, numbered⟩ :=
    emits ⟨t.rows ++ [(GroupTable.nameOf t.rows.length, node)]⟩
  refine ⟨_, _, ⟨GroupTable.nameOf t.rows.length, body, below, one, rfl, rfl, _, by rw [run]⟩, ?_, ?_⟩
  · have step : (do
        let name ← allocate node
        return namedGroup name (← e) ++ times.mark : Emission).run t =
        (namedGroup (GroupTable.nameOf t.rows.length)
          (e.run ⟨t.rows ++ [(GroupTable.nameOf t.rows.length, node)]⟩).1 ++ times.mark,
          (e.run ⟨t.rows ++ [(GroupTable.nameOf t.rows.length, node)]⟩).2) := rfl
    rw [step, run, Fragment.render, List.append_assoc, List.singleton_append]
  · have first : Numbered t.rows.length [(GroupTable.nameOf t.rows.length, node)] := by simp [Numbered]
    rw [List.length_append] at numbered
    exact first.append numbered

mutual
theorem emits_whole : ∀ node : Node, Emits (whole node) fun f rows =>
    Whole node f ∧ rows = f.rows ∧ Enclosing finished f.groups
  | .sequence i written nodes => by
    intro t
    obtain ⟨fs, rows, ⟨sequence, _, rfl, enclosing⟩, run, numbered⟩ := emitsAll_wholes nodes t
    refine ⟨.sequence fs, _, ⟨sequence i written, rfl, enclosing⟩, ?_, numbered⟩
    have step : (whole (.sequence i written nodes)).run t =
      (((emitAll (wholes nodes)).run t).1.flatten, ((emitAll (wholes nodes)).run t).2) := rfl
    rw [step, run, Fragment.render]
    rfl
  | .any i nodes => by
    intro t
    obtain ⟨fs, rows, ⟨_, choice, rfl, enclosing⟩, run, numbered⟩ := emitsAll_wholes nodes t
    refine ⟨.choice .once fs, _, ⟨choice i, rfl, enclosing⟩, ?_, numbered⟩
    have step : (whole (.any i nodes)).run t =
      (plainGroup (joinBranches ((emitAll (wholes nodes)).run t).1),
        ((emitAll (wholes nodes)).run t).2) := rfl
    rw [step, run, Fragment.render, Times.mark, List.append_nil]
    rfl
  | .single i c => by
    have text : (Fragment.atom .once c).render = c.text := List.append_nil c.text
    exact emits_pure (congrArg pure text.symm) ⟨.single, rfl, List.forall_mem_nil _⟩
  | .var i info child => by
    intro t
    obtain ⟨f, rows, ⟨name, body, below, ⟨inner, rfl, enclosing⟩, rfl, rfl, text⟩, run, numbered⟩ :=
      emits_group (emits_whole child) (.var i info child) .once t
    have own : EmitsBelow finished (.var i info child) body.render :=
      ⟨i, info, child, rfl, whole child, List.mem_singleton_self _, text⟩
    refine ⟨_, _, ⟨.var inner, rfl, List.forall_mem_cons.mpr ⟨own, enclosing⟩⟩, ?_, numbered⟩
    have unmarked : whole (.var i info child) = (do
        let name ← allocate (.var i info child)
        return namedGroup name (← whole child) ++ Times.once.mark) := by
      simp [whole, Times.mark]
    rw [unmarked]
    exact run
  | .repetition i child => by
    intro t
    obtain ⟨f, rows, ⟨inner, rfl, enclosing⟩, run, numbered⟩ := emits_whole child t
    have below : Enclosing finished (Fragment.choice .any [f]).groups := by
      simpa [Fragment.groups, Fragment.groupsOfAll] using enclosing
    refine ⟨.choice .any [f], _, ⟨.repetition inner, rfl, below⟩, ?_, ?_⟩
    · have step : (whole (.repetition i child)).run t =
        (plainGroup ((whole child).run t).1 ++ ['*'], ((whole child).run t).2) := rfl
      rw [step, run]
      simp [Fragment.render, Fragment.renderAll, joinBranches, Times.mark, Fragment.rows,
        Fragment.rowsOfAll]
    · simpa [Fragment.rows, Fragment.rowsOfAll] using numbered

theorem emitsAll_wholes : ∀ nodes : List Node, EmitsAll (wholes nodes) fun fs rows =>
    (∀ i written, Whole (.sequence i written nodes) (.sequence fs)) ∧
      (∀ i, Whole (.any i nodes) (.choice .once fs)) ∧ rows = Fragment.rowsOfAll fs ∧
        Enclosing finished (Fragment.groupsOfAll fs)
  | [] => emitsAll_nil ⟨fun _ _ => .sequenceNil, fun _ => .anyNil, rfl, List.forall_mem_nil _⟩
  | node :: nodes => emitsAll_cons (emits_whole node) (emitsAll_wholes nodes) <| by
    intro f fs rows rows' given given'
    obtain ⟨first, rfl, enclosing⟩ := given
    obtain ⟨sequence, choice, rfl, enclosing'⟩ := given'
    exact ⟨fun i written => .sequenceCons first (sequence i written),
      fun i => .anyCons first (choice i), rfl, List.forall_mem_append.mpr ⟨enclosing, enclosing'⟩⟩
end

theorem startedParts_eq (nodes : List Node) :
    startedParts nodes = nodes.map fun node => ⟨whole node, started node⟩ := by
  induction nodes with
  | nil => rfl
  | cons node nodes ih => rw [startedParts, ih, List.map_cons]

theorem wholes_eq (nodes : List Node) : (startedParts nodes).map Part.finished = wholes nodes := by
  induction nodes with
  | nil => rfl
  | cons node nodes ih => rw [startedParts, List.map_cons, ih, wholes]

-- The first half begun hands out its names first, and stands behind what is finished and the rest.
def cut (inside : Emission) (finished : List Emission) (beyond : Emission) : Emission := do
  let begun ← inside
  let texts ← emitAll finished
  let rest ← beyond
  return plainGroup (texts.flatten ++ rest ++ '|' :: begun)

theorem halve_cut (parts : List Part) (long : 2 ≤ parts.length) (fuel : Nat) :
    halve (fuel + 1) parts = cut (halve fuel (parts.take (parts.length / 2)))
      ((parts.take (parts.length / 2)).map Part.finished) (halve fuel (parts.drop (parts.length / 2))) := by
  match parts, long with
  | a :: b :: rest, _ => simp only [halve, cut, List.splitAt_eq]

-- Induction on the halves of a list.
theorem halves_induct {α : Type} {M : List α → Prop} (nothing : M []) (only : ∀ a, M [a])
    (both : ∀ l, 2 ≤ l.length → M (l.take (l.length / 2)) → M (l.drop (l.length / 2)) → M l)
    (l : List α) : M l := by
  induction size : l.length using Nat.strong_induction_on generalizing l with
  | h size' ih =>
    subst size
    match l with
    | [] => exact nothing
    | [a] => exact only a
    | a :: b :: l =>
      have headLength := List.length_take (i := (a :: b :: l).length / 2) (l := a :: b :: l)
      have tailLength := List.length_drop (i := (a :: b :: l).length / 2) (l := a :: b :: l)
      simp only [List.length_cons] at headLength tailLength
      exact both _ (by simp) (ih _ (by simp only [List.length_cons]; omega) _ rfl)
        (ih _ (by simp only [List.length_cons]; omega) _ rfl)

-- The fuel does not run out, for either half is shorter than the list.
theorem halve_induct {M : List Part → Emission → Prop} (nothing : M [] (return []))
    (only : ∀ part, M [part] part.begun)
    (both : ∀ head tail inside beyond, head ≠ [] → tail ≠ [] → M head inside → M tail beyond →
      M (head ++ tail) (cut inside (head.map Part.finished) beyond))
    (fuel : Nat) (parts : List Part) (enough : parts.length ≤ fuel) : M parts (halve fuel parts) := by
  induction parts using halves_induct generalizing fuel with
  | nothing => cases fuel <;> exact nothing
  | only part => cases fuel <;> exact only part
  | both parts long head tail =>
    obtain ⟨fuel, rfl⟩ : ∃ n, fuel = n + 1 := ⟨fuel - 1, by omega⟩
    have headLength := List.length_take (i := parts.length / 2) (l := parts)
    have tailLength := List.length_drop (i := parts.length / 2) (l := parts)
    have halves := both _ _ _ _ (List.ne_nil_of_length_pos (by omega))
      (List.ne_nil_of_length_pos (by omega)) (head fuel (by omega)) (tail fuel (by omega))
    rwa [List.take_append_drop, ← halve_cut parts long] at halves

theorem renderAll_append (a b : List Fragment) :
    Fragment.renderAll (a ++ b) = Fragment.renderAll a ++ Fragment.renderAll b := by
  induction a with
  | nil => rfl
  | cons f a ih => rw [List.cons_append, Fragment.renderAll, ih, Fragment.renderAll, List.cons_append]

-- A begun fragment, and what its groups enclose.
def Begun (node : Node) (f : Fragment) (rows : List (Text × Node)) : Prop :=
  Started node f rows ∧ Enclosing finishedOrBegun f.groups

theorem emits_cut {i : Nat} {written : Option Text} {head tail : List Node} {inside beyond : Emission}
    (someHead : head ≠ []) (someTail : tail ≠ [])
    (emitsInside : Emits inside (Begun (.sequence i written head)))
    (emitsBeyond : Emits beyond (Begun (.sequence i written tail))) :
    Emits (cut inside (wholes head) beyond) (Begun (.sequence i written (head ++ tail))) := by
  intro t
  obtain ⟨begun, rows, ⟨started, enclosing⟩, run, numbered⟩ := emitsInside t
  obtain ⟨parts, rows', ⟨finished, _, rfl, enclosing'⟩, run', numbered'⟩ :=
    emitsAll_wholes head ⟨t.rows ++ rows⟩
  obtain ⟨rest, rows'', ⟨further, enclosing''⟩, run'', numbered''⟩ :=
    emitsBeyond ⟨t.rows ++ rows ++ Fragment.rowsOfAll parts⟩
  have shape := Started.sequenceCut someHead someTail started (finished i written) further
  refine ⟨_, _, ⟨shape, ?_⟩, ?_, ?_⟩
  · have first := List.forall_mem_append.mpr ⟨enclosing'.weaken, enclosing''⟩
    have both := List.forall_mem_append.mpr ⟨first, enclosing⟩
    simpa [Enclosing, Fragment.groups, Fragment.groupsOfAll, Fragment.groupsOfAll_append] using both
  · have step : (cut inside (wholes head) beyond).run t =
        let one := inside.run t
        let two := (emitAll (wholes head)).run one.2
        let three := beyond.run two.2
        (plainGroup (two.1.flatten ++ three.1 ++ '|' :: one.1), three.2) := rfl
    rw [step]
    simp only [run, run', run'']
    simp [Fragment.render, Fragment.renderAll, renderAll_append, joinBranches, Times.mark, Fragment.rows]
  · refine numbered.append ?_
    rw [List.length_append] at numbered'
    refine Numbered.append numbered' ?_
    simpa [Nat.add_assoc, Fragment.rows] using numbered''

theorem emits_halve (i : Nat) (written : Option Text) (fuel : Nat) (nodes : List Node)
    (enough : nodes.length ≤ fuel) (each : ∀ node ∈ nodes, Emits (started node) (Begun node)) :
    Emits (halve fuel (startedParts nodes)) (Begun (.sequence i written nodes)) := by
  have count : (startedParts nodes).length ≤ fuel := by rwa [startedParts_eq, List.length_map]
  refine halve_induct (M := fun parts e => ∀ nodes, startedParts nodes = parts →
    (∀ node ∈ nodes, Emits (started node) (Begun node)) → Emits e (Begun (.sequence i written nodes)))
    ?nothing ?only ?both fuel _ count nodes rfl each
  case nothing =>
    intro nodes parts _
    obtain rfl : nodes = [] := by simpa [startedParts_eq] using parts
    exact @emits_pure _ (.sequence []) _ rfl ⟨.sequenceNil, List.forall_mem_nil _⟩
  case only =>
    intro part nodes parts each t
    rw [startedParts_eq] at parts
    obtain ⟨node, rfl, rfl⟩ := List.map_eq_singleton_iff.mp parts
    obtain ⟨f, rows, ⟨one, enclosing⟩, run, numbered⟩ := each node (List.mem_singleton_self _) t
    exact ⟨f, rows, ⟨.sequenceOne one, enclosing⟩, run, numbered⟩
  case both =>
    intro headParts tailParts inside beyond someHead someTail ihInside ihBeyond nodes parts each
    rw [startedParts_eq] at parts
    obtain ⟨head, tail, rfl, rfl, rfl⟩ := List.map_eq_append_iff.mp parts
    obtain ⟨eachHead, eachTail⟩ := List.forall_mem_append.mp each
    rw [← startedParts_eq, wholes_eq]
    exact emits_cut (by simpa using someHead) (by simpa using someTail)
      (ihInside head (startedParts_eq head) eachHead) (ihBeyond tail (startedParts_eq tail) eachTail)

mutual
theorem emits_started : ∀ node : Node, Emits (started node) (Begun node)
  | .sequence i written nodes => by
    have enough : nodes.length ≤ (startedParts nodes).length := by simp [startedParts_eq]
    exact emits_halve i written _ nodes enough (emits_each nodes)
  | .any i nodes => by
    intro t
    obtain ⟨fs, rows, choice, run, numbered⟩ := emitsAll_starteds i nodes t
    refine ⟨.choice .optional fs, rows, choice, ?_, numbered⟩
    have step : (started (.any i nodes)).run t =
      (plainGroup (joinBranches ((emitAll (starteds nodes)).run t).1) ++ ['?'],
        ((emitAll (starteds nodes)).run t).2) := rfl
    rw [step, run, Fragment.render, Times.mark]
  | .single i c => @emits_pure _ (.atom .optional c) _ rfl ⟨.single, List.forall_mem_nil _⟩
  | .var i info child => by
    intro t
    obtain ⟨f, rows, ⟨name, body, below, ⟨inner, enclosing⟩, rfl, rfl, text⟩, run, numbered⟩ :=
      emits_group (emits_started child) (.var i info child) .optional t
    have own : EmitsBelow finishedOrBegun (.var i info child) body.render :=
      ⟨i, info, child, rfl, started child, by simp [finishedOrBegun], text⟩
    exact ⟨_, _, ⟨.var inner, List.forall_mem_cons.mpr ⟨own, enclosing⟩⟩, run, numbered⟩
  | .repetition i child => by
    intro t
    obtain ⟨begun, rows, ⟨last, enclosing⟩, run, numbered⟩ := emits_started child t
    obtain ⟨body, rows', ⟨finished, rfl, enclosing'⟩, run', numbered'⟩ :=
      emits_whole child ⟨t.rows ++ rows⟩
    refine ⟨.sequence [.choice .any [body], begun], _, ⟨.repetition last finished, ?_⟩, ?_, ?_⟩
    · have both := List.forall_mem_append.mpr ⟨enclosing'.weaken, enclosing⟩
      simpa [Enclosing, Fragment.groups, Fragment.groupsOfAll] using both
    · have step : (started (.repetition i child)).run t =
          let one := (started child).run t
          let two := (whole child).run one.2
          (plainGroup two.1 ++ '*' :: one.1, two.2) := rfl
      rw [step]
      simp only [run, run']
      simp [Fragment.render, Fragment.renderAll, joinBranches, Times.mark]
    · rw [List.length_append] at numbered'
      exact numbered.append numbered'

theorem emits_each : ∀ nodes : List Node, ∀ node ∈ nodes, Emits (started node) (Begun node)
  | node :: _, _, .head _ => emits_started node
  | _ :: nodes, other, .tail _ member => emits_each nodes other member

theorem emitsAll_starteds (i : Nat) : ∀ nodes : List Node,
    EmitsAll (starteds nodes) fun fs rows => Begun (.any i nodes) (.choice .optional fs) rows
  | [] => emitsAll_nil ⟨.anyNil, List.forall_mem_nil _⟩
  | node :: nodes => emitsAll_cons (emits_started node) (emitsAll_starteds i nodes)
      fun _ _ _ _ ⟨first, enclosing⟩ ⟨others, enclosing'⟩ =>
        ⟨.anyCons first others, List.forall_mem_append.mpr ⟨enclosing, enclosing'⟩⟩
end

end
end Node
end Typeahead
