import Typeahead.Node.Basic
import Typeahead.Text.Number

namespace Typeahead

structure GroupTable where
  rows : List (Text × Node)

namespace GroupTable

def empty : GroupTable := ⟨[]⟩

def nameStem : Text := "node_".toList

def nameOf (index : Nat) : Text := nameStem ++ Nat.toDigits 10 index

def allocate (node : Node) (table : GroupTable) : Text × GroupTable :=
  let name := nameOf table.rows.length
  (name, ⟨table.rows ++ [(name, node)]⟩)

def stripBeginning? : Text → Text → Option Text
  | [], text => some text
  | _ :: _, [] => none
  | a :: as, b :: bs => if a = b then stripBeginning? as bs else none

-- The number in a name finds its row; the name has to be spelled as the row has it.
def node? (table : GroupTable) (name : Text) : Option Node := do
  let index ← Text.word64? (← stripBeginning? nameStem name)
  let row ← table.rows[index]?
  if row.1 = name then some row.2 else none

def namesFor (table : GroupTable) (node : Node) : List Text :=
  (table.rows.filter fun row => row.2.id = node.id).map Prod.fst

def size (table : GroupTable) : Nat := table.rows.length

def isEmpty (table : GroupTable) : Bool := table.rows.isEmpty

end GroupTable
end Typeahead
