import Typeahead.CharSet

namespace Typeahead.Pattern

inductive SetOp where
  | inter
  | diff
  | symmDiff
  deriving DecidableEq, Repr

def SetOp.apply : SetOp → CharSet → CharSet → CharSet
  | .inter => CharSet.inter
  | .diff => CharSet.sdiff
  | .symmDiff => CharSet.symmDiff

-- What stands between brackets. A leaf is a character, a range, an escape or a named class.
inductive ClassTree where
  | empty
  | leaf (set : CharSet)
  | bracket (negated : Bool) (inner : ClassTree)
  | union (items : List ClassTree)
  | binary (op : SetOp) (left right : ClassTree)

namespace ClassTree

-- The runs are joined wherever a set is put together, and not once it has been negated.
mutual
def set : ClassTree → CharSet
  | .empty => .empty
  | .leaf s => s
  | .bracket negated inner => (set inner).joined.negateIf negated
  | .union items => setOfAll .empty items
  | .binary op left right => (op.apply (set left).joined (set right).joined).joined

def setOfAll (found : CharSet) : List ClassTree → CharSet
  | [] => found
  | item :: rest => setOfAll (found.union (set item)) rest
end

-- Leaves are free; a bracket, a union and an operator each add a level.
mutual
def depth : ClassTree → Nat
  | .empty => 0
  | .leaf _ => 0
  | .bracket _ inner => depth inner + 1
  | .union items => depthOfAll items + 1
  | .binary _ left right => max (depth left) (depth right) + 1

def depthOfAll : List ClassTree → Nat
  | [] => 0
  | item :: rest => max (depth item) (depthOfAll rest)
end

def ofItems : List ClassTree → ClassTree
  | [] => .empty
  | [item] => item
  | items => .union items

end ClassTree

inductive Look where
  | textStart
  | textEnd
  | wordStart
  | wordEnd
  | wordEdge
  | noWordEdge
  deriving DecidableEq, Repr

inductive Tree where
  | empty
  | char (c : Char)
  | set (s : CharSet)
  | look (l : Look)
  | bracket (negated : Bool) (inner : ClassTree)
  | repetition (least : Nat) (most : Option Nat) (greedy : Bool) (body : Tree)
  | plainGroup (body : Tree)
  | group (index : Nat) (body : Tree)
  | concat (items : List Tree)
  | choice (branches : List Tree)

namespace Tree

mutual
def depth : Tree → Nat
  | .empty => 0
  | .char _ => 0
  | .set _ => 0
  | .look _ => 0
  | .bracket _ inner => inner.depth + 1
  | .repetition _ _ _ body => depth body + 1
  | .plainGroup body => depth body + 1
  | .group _ body => depth body + 1
  | .concat items => depthOfAll items + 1
  | .choice branches => depthOfAll branches + 1

def depthOfAll : List Tree → Nat
  | [] => 0
  | item :: rest => max (depth item) (depthOfAll rest)
end

def ofItems : List Tree → Tree
  | [] => .empty
  | [item] => item
  | items => .concat items

def ofBranches : List Tree → Tree
  | [branch] => branch
  | branches => .choice branches

end Tree
end Typeahead.Pattern
