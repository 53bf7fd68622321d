import Typeahead.Grammar
import Typeahead.Keyed

namespace Typeahead

inductive Mode where
  | whole
  | started
  deriving DecidableEq, Repr

def Mode.word : Mode → String
  | .whole => "full"
  | .started => "prefix"

structure Match where
  mode : Mode
  complete : Bool
  input : Text
  rows : List GroupRow
  marks : List Pattern.Mark

structure VariableMatch where
  node : Node
  info : Variable
  span : Text.Span
  text : Text

-- The latest place of an edge; marks are kept with the latest in front.
def Pattern.placeOf? (edge : Pattern.Edge) (marks : List Pattern.Mark) : Option Nat :=
  (marks.find? fun mark => mark.edge = edge).map Pattern.Mark.offset

def Pattern.spanOf? (group : Nat) (marks : List Pattern.Mark) : Option Text.Span := do
  let stop ← Pattern.placeOf? (.closes group) marks
  let start ← Pattern.placeOf? (.opens group) marks
  return ⟨start, stop⟩

-- A node keeps its first place in the list and the first span it was given.
def settle (node : Node) (span : Option Text.Span) :
    List (Node × Option Text.Span) → List (Node × Option Text.Span)
  | [] => [(node, span)]
  | (other, found) :: rest =>
    if other.id = node.id then (other, found <|> span) :: rest
    else (other, found) :: settle node span rest

namespace Match

def rowSpan? (m : Match) (row : GroupRow) : Option Text.Span := do
  Pattern.spanOf? (← row.index) m.marks

def resolve (m : Match) : List (Node × Option Text.Span) :=
  m.rows.foldl (fun found row => settle row.node (m.rowSpan? row) found) []

def nodeValues (m : Match) : List (Node × Option Text) :=
  m.resolve.map fun (node, span) => (node, span.map fun s => Text.slice s m.input)

-- Of several variables with one name the last one counts, set or not.
def assignments (m : Match) : List (Text × Option Text) :=
  m.resolve.foldl
    (fun found (node, span) =>
      match node.asVariable with
      | none => found
      | some info =>
        Keyed.put info.name (span.map fun s => info.unwrap (Text.slice s m.input)) found)
    []

def variableMatches (m : Match) : List VariableMatch :=
  m.resolve.filterMap fun (node, span) => do
    let info ← node.asVariable
    let span ← span
    return ⟨node, info, span, Text.slice span m.input⟩

def shortest? : List VariableMatch → Option VariableMatch
  | [] => none
  | v :: rest =>
    match shortest? rest with
    | none => some v
    | some w => if v.span.length ≤ w.span.length then some v else some w

-- The innermost variable at an offset; of two with the same length, the one named later.
def variableAt? (m : Match) (offset : Nat) : Option VariableMatch :=
  shortest? (m.variableMatches.reverse.filter fun v => v.span.touches offset)

def trailing (m : Match) : List VariableMatch :=
  m.variableMatches.filter fun v => v.span.stop = m.input.bytes

def insertHighlight (h : Text.Span × Text) : List (Text.Span × Text) → List (Text.Span × Text)
  | [] => [h]
  | other :: rest =>
    if h.1.start < other.1.start ∨ h.1.start = other.1.start ∧ h.1.stop ≤ other.1.stop
    then h :: other :: rest
    else other :: insertHighlight h rest

-- Tagged variables by the place where they start, then where they end.
def highlights (m : Match) : List (Text.Span × Text) :=
  (m.variableMatches.filterMap fun v => v.info.tag.map fun tag => (v.span, tag)).foldr
    insertHighlight []

end Match

namespace Derived

def run (d : Derived) (input : Text) : Option (List Pattern.Mark) := d.program.run input

end Derived

namespace Grammar

def matchWith (g : Grammar) (mode : Mode) (input : Text) : Option Match :=
  match g.whole.run input with
  | some marks => some ⟨mode, true, input, g.whole.rows, marks⟩
  | none =>
    match mode with
    | .whole => none
    | .started =>
      (g.started.run input).map fun marks => ⟨mode, false, input, g.started.rows, marks⟩

def matchWhole (g : Grammar) (input : Text) : Option Match := g.matchWith .whole input

def matchStarted (g : Grammar) (input : Text) : Option Match := g.matchWith .started input

end Grammar
end Typeahead
