import Typeahead.Pattern.Tree

namespace Typeahead

inductive Pattern where
  | empty
  | literal (chars : List Char)
  | set (s : CharSet)
  | look (l : Pattern.Look)
  | repetition (least : Nat) (most : Option Nat) (greedy : Bool) (body : Pattern)
  | group (index : Nat) (body : Pattern)
  | concat (items : List Pattern)
  | choice (branches : List Pattern)

namespace Pattern

mutual
def same : Pattern → Pattern → Bool
  | .empty, .empty => true
  | .literal a, .literal b => a == b
  | .set a, .set b => a == b
  | .look a, .look b => a == b
  | .repetition l m g a, .repetition l' m' g' b => l == l' && m == m' && g == g' && same a b
  | .group i a, .group j b => i == j && same a b
  | .concat a, .concat b => sameAll a b
  | .choice a, .choice b => sameAll a b
  | _, _ => false

def sameAll : List Pattern → List Pattern → Bool
  | [], [] => true
  | a :: as, b :: bs => same a b && sameAll as bs
  | _, _ => false
end

mutual
def size : Pattern → Nat
  | .empty => 1
  | .literal chars => chars.length + 1
  | .set _ => 1
  | .look _ => 1
  | .repetition _ _ _ body => size body + 1
  | .group _ body => size body + 1
  | .concat items => sizeOfAll items + 1
  | .choice branches => sizeOfAll branches + 1

def sizeOfAll : List Pattern → Nat
  | [] => 0
  | p :: rest => size p + sizeOfAll rest
end

-- Can it match the empty text? A condition on a place counts as yes.
mutual
def nullable : Pattern → Bool
  | .empty => true
  | .literal chars => chars.isEmpty
  | .set _ => false
  | .look _ => true
  | .repetition least _ _ body => least == 0 || nullable body
  | .group _ body => nullable body
  | .concat items => allNullable items
  | .choice branches => someNullable branches

def allNullable : List Pattern → Bool
  | [] => true
  | p :: rest => nullable p && allNullable rest

def someNullable : List Pattern → Bool
  | [] => false
  | p :: rest => nullable p || someNullable rest
end

mutual
def onlyEmpty : Pattern → Bool
  | .empty => true
  | .literal chars => chars.isEmpty
  | .set _ => false
  | .look _ => true
  | .repetition _ most _ body => most == some 0 || onlyEmpty body
  | .group _ body => onlyEmpty body
  | .concat items => allOnlyEmpty items
  | .choice branches => allOnlyEmpty branches

def allOnlyEmpty : List Pattern → Bool
  | [] => true
  | p :: rest => onlyEmpty p && allOnlyEmpty rest
end

def ofSet (s : CharSet) : Pattern :=
  match s.only? with
  | some c => .literal [c]
  | none => .set s

-- A body that matches nothing but the empty text is never repeated more than once.
def ofRepetition (least : Nat) (most : Option Nat) (greedy : Bool) (body : Pattern) : Pattern :=
  let once := body.onlyEmpty
  let least := if once then min least 1 else least
  let most := if once then some ((most.map (min 1)).getD 1) else most
  if least = 0 ∧ most = some 0 then .empty
  else if least = 1 ∧ most = some 1 then body
  else .repetition least most greedy body

def parts : Pattern → List Pattern
  | .empty => []
  | .concat items => items
  | p => [p]

def joinLiterals : List Pattern → List Pattern
  | [] => []
  | .literal a :: rest =>
    match joinLiterals rest with
    | .literal b :: rest => .literal (a ++ b) :: rest
    | rest => .literal a :: rest
  | p :: rest => p :: joinLiterals rest

def ofParts (items : List Pattern) : Pattern :=
  match joinLiterals (items.flatMap parts) with
  | [] => .empty
  | [p] => p
  | ps => .concat ps

def alternatives : Pattern → List Pattern
  | .choice branches => branches
  | p => [p]

def singleChar? : Pattern → Option CharSet
  | .literal [c] => some (.single c)
  | _ => none

def set? : Pattern → Option CharSet
  | .set s => some s
  | _ => none

def unionOf? (view : Pattern → Option CharSet) (branches : List Pattern) : Option CharSet :=
  branches.foldlM (fun found p => (view p).map found.union) CharSet.empty

def items? : Pattern → Option (List Pattern)
  | .concat items => some items
  | _ => none

def sharedLength : List Pattern → List Pattern → Nat
  | a :: as, b :: bs => if same a b then sharedLength as bs + 1 else 0
  | _, _ => 0

-- The parts of each branch, if all are concatenations, and how many of them all branches share.
def shared? (branches : List Pattern) : Option (Nat × List (List Pattern)) :=
  match branches.mapM items? with
  | some (first :: rest) =>
    let n := rest.foldl (fun n items => min n (sharedLength first items)) first.length
    if n = 0 then none else some (n, first :: rest)
  | _ => none

-- Sharing decides between readings: `x(y|z)` tries `y` and `z` for the first way to match `x`, before it
-- goes on to the next way. The branches get smaller with each round of it.
def ofBranchesLoop : Nat → List Pattern → Pattern
  | fuel, branches =>
    match branches.flatMap alternatives with
    | [] => .set .empty
    | [p] => p
    | flat =>
      match unionOf? singleChar? flat with
      | some s => ofSet s
      | none =>
        match unionOf? set? flat with
        | some s => ofSet s
        | none =>
          match fuel, shared? flat with
          | fuel + 1, some (n, lists) =>
            let rest := ofBranchesLoop fuel (lists.map fun items => ofParts (items.drop n))
            ofParts ((lists.headD []).take n ++ [rest])
          | _, _ => .choice flat

def ofBranches (branches : List Pattern) : Pattern := ofBranchesLoop (sizeOfAll branches) branches

mutual
def ofTree : Tree → Pattern
  | .empty => .empty
  | .char c => .literal [c]
  | .set s => ofSet s
  | .look l => .look l
  | .bracket negated inner => ofSet (inner.set.negateIf negated)
  | .repetition least most greedy body => ofRepetition least most greedy (ofTree body)
  | .plainGroup body => ofTree body
  | .group index body => .group index (ofTree body)
  | .concat items => ofParts (ofTrees items)
  | .choice branches => ofBranches (ofTrees branches)

def ofTrees : List Tree → List Pattern
  | [] => []
  | t :: rest => ofTree t :: ofTrees rest
end

end Pattern
end Typeahead
