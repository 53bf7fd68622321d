import Mathlib.Data.List.Forall2
import Typeahead.Proofs.Node.Outline

namespace Typeahead
open Node (Step Position)

-- The calls that lowering has made, in their order, for either kind of pattern.
abbrev Calls := PatternKind → List Position

-- Lowering that keeps its calls.
abbrev Recording := StateT Calls (StateM GroupTable)

def Calls.none : Calls := fun _ => []

def Calls.single (kind : PatternKind) (p : Position) : Calls := fun kind' =>
  if kind = kind' then [p] else []

def Calls.append (made later : Calls) : Calls := fun kind => made kind ++ later kind

@[simp] theorem Calls.append_none (made : Calls) : made.append .none = made :=
  funext fun _ => List.append_nil _

@[simp] theorem Calls.none_append (made : Calls) : Calls.none.append made = made := rfl

theorem Calls.append_assoc (made later last : Calls) :
    (made.append later).append last = made.append (later.append last) :=
  funext fun _ => List.append_assoc ..

namespace Recording

def record (kind : PatternKind) (above : List Step) (node : Node) : Recording Unit :=
  modify fun made => made.append (.single kind ⟨above, node⟩)

def allocate (node : Node) : Recording Text := monadLift (Node.allocate node)

def all : List (Recording Text) → Recording (List Text)
  | [] => return []
  | r :: rest => return (← r) :: (← all rest)

structure Part where
  finished : Recording Text
  begun : Recording Text

def halve : Nat → List Part → Recording Text
  | _, [] => return []
  | _, [only] => only.begun
  | 0, _ => return []
  | fuel + 1, parts => do
    let (head, tail) := parts.splitAt (parts.length / 2)
    let inside ← halve fuel head
    let finished ← all (head.map Part.finished)
    let beyond ← halve fuel tail
    return Node.plainGroup (finished.flatten ++ beyond ++ '|' :: inside)

def halves (parts : List Part) : Recording Text := halve parts.length parts

end Recording

namespace Node

-- Lowering as it is, but for the first line: a call is recorded before anything is written for it.

mutual
def wholeRecorded (above : List Step) (node : Node) : Recording Text := do
  Recording.record .whole above node
  match node with
  | .sequence _ _ nodes =>
    return (← Recording.all (wholesRecorded above (.sequence nodes.length) 0 nodes)).flatten
  | .any _ nodes =>
    return plainGroup (joinBranches (← Recording.all (wholesRecorded above .any 0 nodes)))
  | .single _ c => return c.text
  | .var i info child => do
    let name ← Recording.allocate (.var i info child)
    return namedGroup name (← wholeRecorded (.var :: above) child)
  | .repetition _ child =>
    return plainGroup (← wholeRecorded (.repetition :: above) child) ++ ['*']

def wholesRecorded (above : List Step) (step : Nat → Step) : Nat → List Node → List (Recording Text)
  | _, [] => []
  | k, node :: rest => wholeRecorded (step k :: above) node :: wholesRecorded above step (k + 1) rest
end

mutual
def startedRecorded (above : List Step) (node : Node) : Recording Text := do
  Recording.record .started above node
  match node with
  | .sequence _ _ nodes => Recording.halves (partsRecorded above nodes.length 0 nodes)
  | .any _ nodes =>
    return plainGroup (joinBranches (← Recording.all (startedsRecorded above 0 nodes))) ++ ['?']
  | .single _ c => return c.text ++ ['?']
  | .var i info child => do
    let name ← Recording.allocate (.var i info child)
    return namedGroup name (← startedRecorded (.var :: above) child) ++ ['?']
  | .repetition _ child => do
    let last ← startedRecorded (.repetition :: above) child
    let finished ← wholeRecorded (.repetition :: above) child
    return plainGroup finished ++ '*' :: last

def startedsRecorded (above : List Step) : Nat → List Node → List (Recording Text)
  | _, [] => []
  | k, node :: rest => startedRecorded (.any k :: above) node :: startedsRecorded above (k + 1) rest

def partsRecorded (above : List Step) (count : Nat) : Nat → List Node → List Recording.Part
  | _, [] => []
  | k, node :: rest =>
    ⟨wholeRecorded (.sequence count k :: above) node, startedRecorded (.sequence count k :: above) node⟩ ::
      partsRecorded above count (k + 1) rest
end

end Node

namespace Recording
variable {α β : Type} {r : Recording α} {e : StateM GroupTable α} {made later : Calls}

-- The recording does what is done without it, and these calls come behind those made before.
def Adds (r : Recording α) (e : StateM GroupTable α) (made : Calls) : Prop :=
  ∀ before, r.run before = (·, before.append made) <$> e

theorem Adds.pure (a : α) : Adds (pure a) (pure a) .none := by
  intro before
  simp

theorem Adds.bind {f : α → Recording β} {g : α → StateM GroupTable β} (first : Adds r e made)
    (second : ∀ a, Adds (f a) (g a) later) : Adds (r >>= f) (e >>= g) (made.append later) := by
  intro before
  rw [StateT.run_bind, first before, bind_map_left, map_bind, ← Calls.append_assoc]
  exact bind_congr fun a => second a _

theorem Adds.map (f : α → β) (adds : Adds r e made) : Adds (f <$> r) (f <$> e) made := by
  intro before
  rw [StateT.run_map, adds before, Functor.map_map, Functor.map_map]

theorem adds_record (kind : PatternKind) (above : List Step) (node : Node) :
    Adds (record kind above node) (pure ()) (.single kind ⟨above, node⟩) := fun _ => rfl

theorem adds_allocate (node : Node) : Adds (allocate node) (Node.allocate node) .none := by
  intro before
  simp [allocate]

-- What is recorded of a piece of an outline that is written below these steps.
def Follows (above : List Step) (r : Recording Text) (outline : Outline) : Prop :=
  Adds r outline.emit fun kind => outline.calls kind above

variable {above : List Step} {a b : Recording Text} {o o' : Outline}

theorem Follows.nothing : Follows above (pure []) .nothing := Adds.pure []

theorem Follows.item (times : Times) (c : CharClass) :
    Follows above (pure (c.text ++ times.mark)) (.item times c) := Adds.pure _

theorem Follows.pair (joint : Joint) (first : Follows above a o) (second : Follows above b o') :
    Follows above (do return joint.text (← a) (← b)) (.pair joint o o') :=
  first.bind fun text => second.map (joint.text text)

theorem Follows.plain (times : Times) (body : Follows above a o) :
    Follows above (do return Node.plainGroup (← a) ++ times.mark) (.plain times o) :=
  body.map fun text => Node.plainGroup text ++ times.mark

theorem Follows.named (times : Times) (node : Node) (body : Follows above a o) :
    Follows above (do
      let name ← allocate node
      return Node.namedGroup name (← a) ++ times.mark) (.named times node o) :=
  (adds_allocate node).bind fun name => body.map fun text => Node.namedGroup name text ++ times.mark

theorem Follows.call (kind : PatternKind) (node : Node) (body : Follows above a o) :
    Follows above (do record kind above node; a) (.call kind node o) := by
  have both := (adds_record kind above node).bind fun _ => body
  rwa [pure_bind] at both

theorem Follows.child (step : Step) (body : Follows (step :: above) a o) :
    Follows above a (.child step o) := body

theorem adds_all {rs : List (Recording Text)} {outlines : List Outline}
    (each : List.Forall₂ (Follows above) rs outlines) :
    Adds (all rs) (Node.emitAll (outlines.map Outline.emit)) fun kind =>
      outlines.flatMap (Outline.calls kind above) := by
  induction each with
  | nil => exact Adds.pure []
  | cons first _ ih => exact first.bind fun text => ih.map (text :: ·)

theorem Follows.inRow {rs : List (Recording Text)} {outlines : List Outline}
    (each : List.Forall₂ (Follows above) rs outlines) :
    Follows above (do return (← all rs).flatten) (.inRow outlines) := by
  rw [Follows, Outline.emit_inRow]
  simp only [Outline.calls_inRow]
  exact (adds_all each).map List.flatten

theorem Follows.branches {rs : List (Recording Text)} {outlines : List Outline}
    (each : List.Forall₂ (Follows above) rs outlines) :
    Follows above (do return Node.joinBranches (← all rs)) (.branches outlines) := by
  rw [Follows, Outline.emit_branches]
  simp only [Outline.calls_branches]
  exact (adds_all each).map Node.joinBranches

def Part.Follows (above : List Step) (part : Part) (outlines : Outline.Part) : Prop :=
  Recording.Follows above part.finished outlines.finished ∧
    Recording.Follows above part.begun outlines.begun

theorem halve_cut (parts : List Part) (long : 2 ≤ parts.length) (fuel : Nat) :
    halve (fuel + 1) parts = do
      let inside ← halve fuel (parts.take (parts.length / 2))
      let finished ← all ((parts.take (parts.length / 2)).map Part.finished)
      let beyond ← halve fuel (parts.drop (parts.length / 2))
      return Node.plainGroup (finished.flatten ++ beyond ++ '|' :: inside) := by
  match parts, long with
  | a :: b :: rest, _ => simp only [halve, List.splitAt_eq]

theorem Follows.cut {head : List Part} {outlines : List Outline.Part} {inside beyond : Recording Text}
    (each : List.Forall₂ (Part.Follows above) head outlines) (first : Follows above inside o)
    (second : Follows above beyond o') :
    Follows above (do
      let inside ← inside
      let finished ← all (head.map Part.finished)
      let beyond ← beyond
      return Node.plainGroup (finished.flatten ++ beyond ++ '|' :: inside)) (.cut outlines o o') := by
  have finished : List.Forall₂ (Follows above) (head.map Part.finished)
      (outlines.map Outline.Part.finished) := by
    rw [List.forall₂_map_left_iff, List.forall₂_map_right_iff]
    exact each.imp fun _ _ both => both.1
  have group := (first.pair .branchBack ((Follows.inRow finished).pair .row second)).plain .once
  simpa [Outline.cut, Joint.text, Times.mark] using group

theorem Follows.halve {parts : List Part} {outlines : List Outline.Part} (fuel : Nat)
    (each : List.Forall₂ (Part.Follows above) parts outlines) :
    Follows above (halve fuel parts) (.halve fuel outlines) := by
  induction outlines using Node.halves_induct generalizing fuel parts with
  | nothing =>
    cases each
    cases fuel <;> exact .nothing
  | only outlines =>
    obtain ⟨part, rest, both, ended, rfl⟩ := List.forall₂_cons_right_iff.mp each
    cases ended
    cases fuel <;> exact both.2
  | both outlines long head tail =>
    cases fuel with
    | zero =>
      cases each with
      | nil => exact .nothing
      | cons first others =>
        cases others with
        | nil => simp at long
        | cons _ _ => exact .nothing
    | succ fuel =>
      have count := each.length_eq
      rw [halve_cut parts (by omega), Outline.halve_cut outlines long, count]
      have first := List.forall₂_take (outlines.length / 2) each
      exact .cut first (head fuel first) (tail fuel (List.forall₂_drop (outlines.length / 2) each))

end Recording

namespace Node
open Recording (Follows)

mutual
theorem wholeRecorded_follows : ∀ (above : List Step) (node : Node),
    Follows above (wholeRecorded above node) node.wholeOutline
  | above, .sequence i written nodes => by
    rw [wholeRecorded, wholeOutline]
    exact .call .whole _ (.inRow (wholesRecorded_follow above (.sequence nodes.length) 0 nodes))
  | above, .any i nodes => by
    have branches := Follows.branches (wholesRecorded_follow above .any 0 nodes)
    rw [wholeRecorded, wholeOutline]
    simpa [Times.mark] using (branches.plain .once).call .whole (.any i nodes)
  | above, .single i c => by
    have item : Follows above (pure (c.text ++ Times.once.mark)) (.item .once c) := Follows.item .once c
    rw [wholeRecorded, wholeOutline]
    simpa [Times.mark] using item.call .whole (.single i c)
  | above, .var i info child => by
    have inside := wholeRecorded_follows (.var :: above) child
    have group := Follows.named .once (.var i info child) (inside.child .var)
    rw [wholeRecorded, wholeOutline]
    simpa [Times.mark] using group.call .whole (.var i info child)
  | above, .repetition i child => by
    have inside := wholeRecorded_follows (.repetition :: above) child
    rw [wholeRecorded, wholeOutline]
    exact ((inside.child .repetition).plain .any).call .whole (.repetition i child)

theorem wholesRecorded_follow : ∀ (above : List Step) (step : Nat → Step) (k : Nat) (nodes : List Node),
    List.Forall₂ (Follows above) (wholesRecorded above step k nodes) (wholeOutlines step k nodes)
  | _, _, _, [] => .nil
  | above, step, k, node :: nodes =>
    .cons ((wholeRecorded_follows (step k :: above) node).child (step k))
      (wholesRecorded_follow above step (k + 1) nodes)
end

mutual
theorem startedRecorded_follows : ∀ (above : List Step) (node : Node),
    Follows above (startedRecorded above node) node.startedOutline
  | above, .sequence i written nodes => by
    have parts := partsRecorded_follow above nodes.length 0 nodes
    rw [startedRecorded, startedOutline, Recording.halves, parts.length_eq]
    exact (Follows.halve _ parts).call .started (.sequence i written nodes)
  | above, .any i nodes => by
    have branches := Follows.branches (startedsRecorded_follow above 0 nodes)
    rw [startedRecorded, startedOutline]
    simpa [Times.mark] using (branches.plain .optional).call .started (.any i nodes)
  | above, .single i c => by
    rw [startedRecorded, startedOutline]
    exact (Follows.item .optional c).call .started (.single i c)
  | above, .var i info child => by
    have inside := startedRecorded_follows (.var :: above) child
    rw [startedRecorded, startedOutline]
    exact (Follows.named .optional _ (inside.child .var)).call .started (.var i info child)
  | above, .repetition i child => by
    have last := startedRecorded_follows (.repetition :: above) child
    have finished := (wholeRecorded_follows (.repetition :: above) child).child .repetition
    have both := (last.child .repetition).pair .rowBack (finished.plain .any)
    rw [startedRecorded, startedOutline]
    simpa [Joint.text, Times.mark] using both.call .started (.repetition i child)

theorem startedsRecorded_follow : ∀ (above : List Step) (k : Nat) (nodes : List Node),
    List.Forall₂ (Follows above) (startedsRecorded above k nodes) (startedOutlines k nodes)
  | _, _, [] => .nil
  | above, k, node :: nodes =>
    .cons ((startedRecorded_follows (.any k :: above) node).child (.any k))
      (startedsRecorded_follow above (k + 1) nodes)

theorem partsRecorded_follow : ∀ (above : List Step) (count k : Nat) (nodes : List Node),
    List.Forall₂ (Recording.Part.Follows above) (partsRecorded above count k nodes)
      (outlineParts count k nodes)
  | _, _, _, [] => .nil
  | above, count, k, node :: nodes =>
    .cons ⟨(wholeRecorded_follows (.sequence count k :: above) node).child (.sequence count k),
        (startedRecorded_follows (.sequence count k :: above) node).child (.sequence count k)⟩
      (partsRecorded_follow above count (k + 1) nodes)
end

-- The recording writes what lowering writes, and its calls are those of the outline.
theorem startedRecorded_calls (root : Node) : (startedRecorded [] root).run .none =
    (·, fun kind => root.startedOutline.calls kind []) <$> started root := by
  have follows := startedRecorded_follows [] root .none
  rwa [emit_startedOutline, Calls.none_append] at follows

end Node
end Typeahead
