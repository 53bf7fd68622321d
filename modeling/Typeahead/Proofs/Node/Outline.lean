import Typeahead.Grammar
import Typeahead.Proofs.Node.Fragment
import Typeahead.Proofs.Node.Positions

namespace Typeahead
open Node (Step Position Emission)

-- How two pieces stand in the text. The first hands out its names first, wherever it stands.
inductive Joint where
  | row
  | rowBack
  | branch
  | branchBack

def Joint.text : Joint → Text → Text → Text
  | .row, a, b => a ++ b
  | .rowBack, a, b => b ++ a
  | .branch, a, b => a ++ '|' :: b
  | .branchBack, a, b => b ++ '|' :: a

-- Neither the text nor the table tells where in the tree a piece comes from, but this does.
inductive Outline where
  | nothing
  | item (times : Times) (charClass : CharClass)
  | pair (joint : Joint) (first second : Outline)
  | plain (times : Times) (body : Outline)
  | named (times : Times) (node : Node) (body : Outline)
  -- What lowering a node writes.
  | call (kind : PatternKind) (node : Node) (body : Outline)
  | child (step : Step) (body : Outline)

namespace Outline

def emit : Outline → Emission
  | .nothing => return []
  | .item times c => return c.text ++ times.mark
  | .pair joint first second => return joint.text (← emit first) (← emit second)
  | .plain times body => return Node.plainGroup (← emit body) ++ times.mark
  | .named times node body => do
    let name ← Node.allocate node
    return Node.namedGroup name (← emit body) ++ times.mark
  | .call _ _ body => emit body
  | .child _ body => emit body

-- Where lowering is called for this kind of pattern.
def calls (kind : PatternKind) (above : List Step) : Outline → List Position
  | .nothing => []
  | .item _ _ => []
  | .pair _ first second => calls kind above first ++ calls kind above second
  | .plain _ body => calls kind above body
  | .named _ _ body => calls kind above body
  | .call kind' node body => (if kind' = kind then [⟨above, node⟩] else []) ++ calls kind above body
  | .child step body => calls kind (step :: above) body

-- The named groups in the order in which their names are handed out.
def groups (above : List Step) : Outline → List Position
  | .nothing => []
  | .item _ _ => []
  | .pair _ first second => groups above first ++ groups above second
  | .plain _ body => groups above body
  | .named _ node body => ⟨above, node⟩ :: groups above body
  | .call _ _ body => groups above body
  | .child step body => groups (step :: above) body

-- How many groups are inside one another at most, where a class counts for so many.
def nesting (leaf : CharClass → Nat) : Outline → Nat
  | .nothing => 0
  | .item _ c => leaf c
  | .pair _ first second => max (nesting leaf first) (nesting leaf second)
  | .plain _ body => nesting leaf body + 1
  | .named _ _ body => nesting leaf body + 1
  | .call _ _ body => nesting leaf body
  | .child _ body => nesting leaf body

def inRow : List Outline → Outline
  | [] => .nothing
  | o :: rest => .pair .row o (inRow rest)

def branches : List Outline → Outline
  | [] => .nothing
  | [branch] => branch
  | branch :: rest => .pair .branch branch (branches rest)

-- The two ways to write one child of a sequence.
structure Part where
  finished : Outline
  begun : Outline

def Part.emit (part : Part) : Node.Part := ⟨part.finished.emit, part.begun.emit⟩

-- The first half finished and the rest begun, or the first half begun.
def cut (head : List Part) (inside beyond : Outline) : Outline :=
  .plain .once (.pair .branchBack inside (.pair .row (inRow (head.map Part.finished)) beyond))

def halve : Nat → List Part → Outline
  | _, [] => .nothing
  | _, [only] => only.begun
  | 0, _ => .nothing
  | fuel + 1, parts =>
    let (head, tail) := parts.splitAt (parts.length / 2)
    cut head (halve fuel head) (halve fuel tail)

end Outline

namespace Node

mutual
def wholeOutline : Node → Outline
  | .sequence i written nodes => .call .whole (.sequence i written nodes)
    (.inRow (wholeOutlines (.sequence nodes.length) 0 nodes))
  | .any i nodes => .call .whole (.any i nodes) (.plain .once (.branches (wholeOutlines .any 0 nodes)))
  | .single i c => .call .whole (.single i c) (.item .once c)
  | .var i info child => .call .whole (.var i info child)
    (.named .once (.var i info child) (.child .var (wholeOutline child)))
  | .repetition i child => .call .whole (.repetition i child)
    (.plain .any (.child .repetition (wholeOutline child)))

def wholeOutlines (step : Nat → Step) : Nat → List Node → List Outline
  | _, [] => []
  | k, node :: rest => .child (step k) (wholeOutline node) :: wholeOutlines step (k + 1) rest
end

mutual
def startedOutline : Node → Outline
  | .sequence i written nodes => .call .started (.sequence i written nodes)
    (.halve (outlineParts nodes.length 0 nodes).length (outlineParts nodes.length 0 nodes))
  | .any i nodes => .call .started (.any i nodes)
    (.plain .optional (.branches (startedOutlines 0 nodes)))
  | .single i c => .call .started (.single i c) (.item .optional c)
  | .var i info child => .call .started (.var i info child)
    (.named .optional (.var i info child) (.child .var (startedOutline child)))
  | .repetition i child => .call .started (.repetition i child)
    (.pair .rowBack (.child .repetition (startedOutline child))
      (.plain .any (.child .repetition (wholeOutline child))))

def startedOutlines : Nat → List Node → List Outline
  | _, [] => []
  | k, node :: rest => .child (.any k) (startedOutline node) :: startedOutlines (k + 1) rest

def outlineParts (count : Nat) : Nat → List Node → List Outline.Part
  | _, [] => []
  | k, node :: rest => ⟨.child (.sequence count k) (wholeOutline node),
    .child (.sequence count k) (startedOutline node)⟩ :: outlineParts count (k + 1) rest
end

end Node

namespace Outline

theorem emit_inRow (outlines : List Outline) :
    (inRow outlines).emit = (return (← Node.emitAll (outlines.map emit)).flatten) := by
  induction outlines with
  | nil => simp [inRow, emit, Node.emitAll]
  | cons o rest ih => simp [inRow, emit, Node.emitAll, ih, Joint.text]

theorem emit_branches (outlines : List Outline) :
    (branches outlines).emit = (return Node.joinBranches (← Node.emitAll (outlines.map emit))) := by
  induction outlines with
  | nil => simp [branches, emit, Node.emitAll, Node.joinBranches]
  | cons branch rest ih =>
    cases rest with
    | nil => simp [branches, Node.emitAll, Node.joinBranches]
    | cons next rest =>
      rw [branches, emit, ih]
      · simp [Node.emitAll, Node.joinBranches, Joint.text]
      · simp

theorem calls_inRow (kind : PatternKind) (above : List Step) (outlines : List Outline) :
    (inRow outlines).calls kind above = outlines.flatMap (calls kind above) := by
  induction outlines with
  | nil => rfl
  | cons o rest ih => rw [inRow, calls, ih, List.flatMap_cons]

theorem calls_branches (kind : PatternKind) (above : List Step) (outlines : List Outline) :
    (branches outlines).calls kind above = outlines.flatMap (calls kind above) := by
  induction outlines with
  | nil => rfl
  | cons branch rest ih =>
    cases rest with
    | nil => rw [branches, List.flatMap_singleton]
    | cons next rest =>
      rw [branches, calls, ih, ← List.flatMap_cons]
      exact List.cons_ne_nil _ _

theorem halve_cut (parts : List Part) (long : 2 ≤ parts.length) (fuel : Nat) :
    halve (fuel + 1) parts = cut (parts.take (parts.length / 2))
      (halve fuel (parts.take (parts.length / 2))) (halve fuel (parts.drop (parts.length / 2))) := by
  match parts, long with
  | a :: b :: rest, _ => simp only [halve, List.splitAt_eq]

theorem emit_halve (fuel : Nat) (parts : List Part) :
    (halve fuel parts).emit = Node.halve fuel (parts.map Part.emit) := by
  induction parts using Node.halves_induct generalizing fuel with
  | nothing => cases fuel <;> rfl
  | only part => cases fuel <;> rfl
  | both parts long head tail =>
    have long' : 2 ≤ (parts.map Part.emit).length := by rwa [List.length_map]
    have finished (head : List Part) :
        (head.map Part.finished).map emit = (head.map Part.emit).map Node.Part.finished := by
      simp [Part.emit]
    cases fuel with
    | zero =>
      cases parts with
      | nil => rfl
      | cons a rest => cases rest <;> rfl
    | succ fuel =>
      rw [halve_cut parts long, Node.halve_cut _ long', List.length_map, ← List.map_take,
        ← List.map_drop, ← head fuel, ← tail fuel, ← finished]
      simp [cut, Node.cut, emit, emit_inRow, Joint.text, Times.mark]

end Outline

namespace Node

mutual
theorem emit_wholeOutline : ∀ node : Node, node.wholeOutline.emit = whole node
  | .sequence i written nodes => by
    rw [wholeOutline, Outline.emit, Outline.emit_inRow, emit_wholeOutlines, whole]
  | .any i nodes => by
    simp only [wholeOutline, Outline.emit, Outline.emit_branches, emit_wholeOutlines, whole]
    simp [Times.mark]
  | .single i c => by simp [wholeOutline, Outline.emit, Times.mark, whole]
  | .var i info child => by
    simp only [wholeOutline, Outline.emit, emit_wholeOutline child, whole]
    simp [Times.mark]
  | .repetition i child => by
    simp only [wholeOutline, Outline.emit, emit_wholeOutline child, whole]
    rfl

theorem emit_wholeOutlines : ∀ (step : Nat → Step) (k : Nat) (nodes : List Node),
    (wholeOutlines step k nodes).map Outline.emit = wholes nodes
  | _, _, [] => rfl
  | step, k, node :: nodes => by
    rw [wholeOutlines, List.map_cons, Outline.emit, emit_wholeOutline node, emit_wholeOutlines, wholes]
end

mutual
theorem emit_startedOutline : ∀ node : Node, node.startedOutline.emit = started node
  | .sequence i written nodes => by
    have parts := emit_outlineParts nodes.length 0 nodes
    have count := congrArg List.length parts
    rw [List.length_map] at count
    rw [startedOutline, Outline.emit, Outline.emit_halve, parts, count, started, startedSequence]
  | .any i nodes => by
    simp only [startedOutline, Outline.emit, Outline.emit_branches, emit_startedOutlines, started]
    simp [Times.mark]
  | .single i c => rfl
  | .var i info child => by
    simp only [startedOutline, Outline.emit, emit_startedOutline child, started]
    rfl
  | .repetition i child => by
    simp only [startedOutline, Outline.emit, emit_startedOutline child, emit_wholeOutline child, started]
    simp [Joint.text, Times.mark]

theorem emit_startedOutlines : ∀ (k : Nat) (nodes : List Node),
    (startedOutlines k nodes).map Outline.emit = starteds nodes
  | _, [] => rfl
  | k, node :: nodes => by
    rw [startedOutlines, List.map_cons, Outline.emit, emit_startedOutline node, emit_startedOutlines,
      starteds]

theorem emit_outlineParts : ∀ (count k : Nat) (nodes : List Node),
    (outlineParts count k nodes).map Outline.Part.emit = startedParts nodes
  | _, _, [] => rfl
  | count, k, node :: nodes => by
    rw [outlineParts, List.map_cons, Outline.Part.emit, Outline.emit, Outline.emit,
      emit_wholeOutline node, emit_startedOutline node, emit_outlineParts, startedParts]
end

end Node

namespace Outline

theorem emit_rows (outline : Outline) (above : List Step) (t : GroupTable) :
    (outline.emit.run t).2.rows.map Prod.snd =
      t.rows.map Prod.snd ++ (outline.groups above).map Position.node := by
  induction outline generalizing above t with
  | nothing | item _ _ => exact (List.append_nil _).symm
  | pair joint first second ihFirst ihSecond =>
    have step : ((pair joint first second).emit.run t).2 =
        (second.emit.run (first.emit.run t).2).2 := rfl
    rw [step, ihSecond above, ihFirst above, groups, List.map_append, List.append_assoc]
  | plain times body ih => exact ih above t
  | named times node body ih =>
    have step : ((named times node body).emit.run t).2 =
        (body.emit.run ⟨t.rows ++ [(GroupTable.nameOf t.rows.length, node)]⟩).2 := rfl
    rw [step, ih above, groups, List.map_append, List.append_assoc]
    rfl
  | call kind node body ih => exact ih above t
  | child step body ih => exact ih (step :: above) t

end Outline

namespace Text

-- How deep the round brackets of a text go from this depth on, and how deep they are at its end. What
-- stands behind a backslash is no bracket.
def brackets : Nat → Text → Nat × Nat
  | depth, [] => (depth, depth)
  | depth, '\\' :: _ :: rest => brackets depth rest
  | depth, c :: rest =>
    let (most, last) :=
      brackets (if c = '(' then depth + 1 else if c = ')' then depth - 1 else depth) rest
    (max depth most, last)

-- So many brackets are inside one another, and all that are opened are closed, whatever stands behind.
def Nests (levels : Nat) (text : Text) : Prop := ∀ depth rest,
  brackets depth (text ++ rest) = (max (depth + levels) (brackets depth rest).1, (brackets depth rest).2)

theorem le_brackets (depth : Nat) (text : Text) : depth ≤ (brackets depth text).1 := by
  fun_induction brackets depth text with
  | case1 => exact Nat.le_refl _
  | case2 depth c rest ih => exact ih
  | case3 depth c rest => exact Nat.le_max_left ..

theorem brackets_cons {c : Char} (noSlash : c ≠ '\\') (depth : Nat) (rest : Text) :
    brackets depth (c :: rest) =
      (max depth (brackets (if c = '(' then depth + 1 else if c = ')' then depth - 1 else depth) rest).1,
        (brackets (if c = '(' then depth + 1 else if c = ')' then depth - 1 else depth) rest).2) := by
  rw [brackets]
  exact fun _ _ slash => absurd slash noSlash

def Unbracketed (text : Text) : Prop := '(' ∉ text ∧ ')' ∉ text ∧ '\\' ∉ text

theorem Unbracketed.nests {text : Text} (plain : text.Unbracketed) : Nests 0 text := by
  intro depth rest
  have deeper := le_brackets depth rest
  induction text with
  | nil => simp [deeper]
  | cons c text ih =>
    simp only [Unbracketed, List.mem_cons, not_or] at plain
    obtain ⟨⟨noOpening, one⟩, ⟨noClosing, other⟩, noSlash, last⟩ := plain
    rw [List.cons_append, brackets_cons (Ne.symm noSlash), if_neg (Ne.symm noOpening),
      if_neg (Ne.symm noClosing), ih ⟨one, other, last⟩]
    simp

theorem nests_escaped (c : Char) : Nests 0 ['\\', c] := by
  intro depth rest
  have deeper := le_brackets depth rest
  simp [brackets, deeper]

variable {a b plain : Text} {j k : Nat}

theorem Nests.brackets (nests : Nests k a) (depth : Nat) : brackets depth a = (depth + k, depth) := by
  have alone := nests depth []
  rw [List.append_nil] at alone
  simpa [Text.brackets] using alone

theorem Nests.append (first : Nests j a) (second : Nests k b) : Nests (max j k) (a ++ b) := by
  intro depth rest
  rw [List.append_assoc, first, second, ← Nat.max_assoc, Nat.add_max_add_left]

theorem Nests.before (after : Nests k a) (unbracketed : plain.Unbracketed) : Nests k (plain ++ a) := by
  simpa using unbracketed.nests.append after

theorem Nests.after (before : Nests k a) (unbracketed : plain.Unbracketed) : Nests k (a ++ plain) := by
  simpa using before.append unbracketed.nests

theorem Nests.enclosed (inside : Nests k a) : Nests (k + 1) ('(' :: (a ++ [')'])) := by
  intro depth rest
  have opened := inside (depth + 1) (')' :: rest)
  have closed := brackets_cons (c := ')') (by decide) (depth + 1) rest
  rw [List.cons_append, List.append_assoc, brackets_cons (by decide), if_pos rfl]
  simp [opened, closed]
  omega

end Text

namespace CharClass

theorem escape_nests (c : Char) : Text.Nests 0 (escape c) := by
  unfold escape
  split
  · exact Text.nests_escaped c
  · rename_i bare
    have plain : Text.Unbracketed [c] := by
      simp only [Text.Unbracketed, List.mem_singleton]
      refine ⟨?_, ?_, ?_⟩ <;> rintro rfl <;> exact bare (by decide)
    exact plain.nests

theorem literal_nests (c : Char) : Text.Nests 0 (literal c).text := by
  have opening : Text.Unbracketed ['['] := by simp [Text.Unbracketed]
  have closing : Text.Unbracketed [']'] := by simp [Text.Unbracketed]
  exact ((escape_nests c).before opening).after closing

end CharClass

theorem Times.mark_unbracketed (times : Times) : times.mark.Unbracketed := by
  cases times <;> simp [Times.mark, Text.Unbracketed]

theorem GroupTable.nameOf_unbracketed (n : Nat) : Text.Unbracketed (nameOf n) := by
  have stem : Text.Unbracketed nameStem := by
    unfold Text.Unbracketed
    decide
  have digits : ∀ c ∈ Nat.toDigits 10 n, c.isDigit = true := fun c member =>
    Nat.isDigit_of_mem_toDigits (by decide) (by decide) member
  have outside {c : Char} (noStem : c ∉ nameStem) (noDigit : c.isDigit = false) : c ∉ nameOf n := by
    intro member
    rcases List.mem_append.mp member with member | member
    · exact noStem member
    · exact absurd (digits c member) (by simp [noDigit])
  exact ⟨outside stem.1 rfl, outside stem.2.1 rfl, outside stem.2.2 rfl⟩

namespace Outline

def classes : Outline → List CharClass
  | .nothing => []
  | .item _ c => [c]
  | .pair _ first second => classes first ++ classes second
  | .plain _ body => classes body
  | .named _ _ body => classes body
  | .call _ _ body => classes body
  | .child _ body => classes body

-- The nesting of an outline is that of the brackets in its text, where the brackets in a class close
-- all that they open.
theorem nests {leaf : CharClass → Nat} (outline : Outline)
    (atoms : ∀ c ∈ outline.classes, Text.Nests (leaf c) c.text) (t : GroupTable) :
    Text.Nests (outline.nesting leaf) (outline.emit.run t).1 := by
  induction outline generalizing t with
  | nothing =>
    have empty : Text.Unbracketed [] := by simp [Text.Unbracketed]
    exact empty.nests
  | item times c => exact (atoms c (List.mem_singleton_self c)).after times.mark_unbracketed
  | pair joint first second ihFirst ihSecond =>
    obtain ⟨atoms, atoms'⟩ := List.forall_mem_append.mp atoms
    have one := ihFirst atoms t
    have other := ihSecond atoms' (first.emit.run t).2
    have bar : Text.Unbracketed ['|'] := by simp [Text.Unbracketed]
    rw [nesting]
    cases joint with
    | row => exact one.append other
    | rowBack =>
      rw [Nat.max_comm]
      exact other.append one
    | branch => exact one.append (other.before bar)
    | branchBack =>
      rw [Nat.max_comm]
      exact other.append (one.before bar)
  | plain times body ih =>
    have mark : Text.Unbracketed "?:".toList := by simp [Text.Unbracketed]
    exact ((ih atoms t).before mark).enclosed.after times.mark_unbracketed
  | named times node body ih =>
    have name : Text.Unbracketed ("?P<".toList ++ GroupTable.nameOf t.rows.length ++ ">".toList) := by
      have digits := GroupTable.nameOf_unbracketed t.rows.length
      simpa [Text.Unbracketed, or_imp, forall_and] using digits
    have inside := (ih atoms ⟨t.rows ++ [(GroupTable.nameOf t.rows.length, node)]⟩).before name
    exact inside.enclosed.after times.mark_unbracketed
  | call _ _ _ ih => exact ih atoms t
  | child _ _ ih => exact ih atoms t

end Outline
end Typeahead
