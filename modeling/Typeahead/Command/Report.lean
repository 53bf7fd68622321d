import Typeahead.Completion
import Typeahead.Json.Printer

namespace Typeahead.Command

def jsonText (text : Option Text) : Json :=
  match text with
  | none => .null
  | some text => .str text

def patternsReport (g : Grammar) : Json :=
  let names := (g.variableNodes.filterMap fun node => node.asVariable.map Variable.name).eraseDups
  .obj [("full".toList, .str g.whole.text), ("prefix".toList, .str g.started.text),
    ("variables".toList, .arr (names.map .str))]

-- Variables in the order of their names.
def matchReport (mode : Mode) (found : Option Match) : Json :=
  let values := ((found.map Match.assignments).getD []).mergeSort fun a b => Text.atMost a.1 b.1
  .obj [("matched".toList, .bool found.isSome), ("mode".toList, .str mode.word.toList),
    ("variables".toList, .obj (values.map fun (name, value) => (name, jsonText value)))]

def completionsReport (completions : List Completion) : Json :=
  .arr (completions.map fun c =>
    .obj [("variable".toList, .str c.variableName),
      ("start".toList, .number (Nat.toDigits 10 c.start)), ("text".toList, .str c.text)])

end Typeahead.Command
