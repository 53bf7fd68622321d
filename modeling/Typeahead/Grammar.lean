import Typeahead.Node.Fragment
import Typeahead.Node.Validation
import Typeahead.Pattern.Footprint
import Typeahead.Pattern.Machine
import Typeahead.Pattern.Reader

namespace Typeahead

structure Limits where
  size : Nat := 10485760
  dfaSize : Nat := 2097152
  nest : Nat := CharClass.defaultNestLimit
  deriving DecidableEq, Repr

inductive PatternKind where
  | whole
  | started
  deriving DecidableEq, Repr

def PatternKind.word : PatternKind → String
  | .whole => "full-match"
  | .started => "prefix-match"

inductive PatternError where
  | unreadable (cause : Pattern.ReadError)
  | tooBig (limit : Nat)
  deriving DecidableEq

inductive CompileError where
  | badTree (cause : TreeError)
  | badPattern (kind : PatternKind) (cause : PatternError)
  deriving DecidableEq

-- What the pattern reader has to say follows the last colon.
def CompileError.message : CompileError → String
  | .badTree cause => cause.message
  | .badPattern kind (.unreadable _) =>
    "failed to build the " ++ kind.word ++ " pattern: regex parse error:"
  | .badPattern kind (.tooBig limit) =>
    "failed to build the " ++ kind.word ++ " pattern: Compiled regex exceeds size limit of "
      ++ toString limit ++ " bytes."

structure GroupRow where
  name : Text
  node : Node
  index : Option Nat

structure Derived where
  text : Text
  groups : GroupTable
  program : Pattern.Program
  rows : List GroupRow

namespace Derived

def build (limits : Limits) (text : Text) (groups : GroupTable) : Except PatternError Derived :=
  match Pattern.readWithin limits.nest text with
  | .error cause => .error (.unreadable cause)
  | .ok parsed =>
    let pattern := Pattern.ofTree parsed.tree
    if pattern.exceeds limits.size then .error (.tooBig limits.size)
    else
      let rows := groups.rows.map fun (name, node) => ⟨name, node, parsed.names.idxOf? (some name)⟩
      .ok ⟨text, groups, pattern.program, rows⟩

end Derived

structure Grammar where
  root : Node
  whole : Derived
  started : Derived

namespace Grammar

def buildPattern (kind : PatternKind) (limits : Limits) (source : Text × GroupTable) :
    Except CompileError Derived :=
  match Derived.build limits source.1 source.2 with
  | .ok derived => .ok derived
  | .error cause => .error (.badPattern kind cause)

def compile (limits : Limits) (root : Node) : Except CompileError Grammar :=
  match root.validate with
  | .error cause => .error (.badTree cause)
  | .ok () => do
    let whole ← buildPattern .whole limits root.wholePattern
    let started ← buildPattern .started limits root.startedPattern
    return ⟨root, whole, started⟩

def variableNodes (g : Grammar) : List Node := g.root.variableNodes

end Grammar
end Typeahead
