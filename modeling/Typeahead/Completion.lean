import Typeahead.Match

namespace Typeahead

structure Completion where
  variableName : Text
  start : Nat
  text : Text
  deriving DecidableEq, Repr

-- A start that is no place in the input keeps all of the input.
def Completion.apply (c : Completion) (input : Text) : Text :=
  match Text.splitAtByte? c.start input with
  | some (kept, _) => kept ++ c.text
  | none => input ++ c.text

def VariableMatch.completions (v : VariableMatch) : List Completion :=
  match v.info.completer with
  | none => []
  | some completer =>
    (completer.complete (v.info.unwrap v.text)).map fun candidate =>
      ⟨v.info.name, v.span.start, v.info.wrap candidate⟩

def Match.completions (m : Match) : List Completion := m.trailing.flatMap VariableMatch.completions

def Grammar.complete (g : Grammar) (input : Text) : List Completion :=
  match g.matchStarted input with
  | none => []
  | some m => m.completions

end Typeahead
