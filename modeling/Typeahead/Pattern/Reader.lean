import Typeahead.Pattern.ClassReader
import Typeahead.Text.Number
import Typeahead.Unicode.Name

namespace Typeahead.Pattern

inductive Token where
  | item (tree : Tree)
  | plainOpening
  | opening (name : Option (List Char))
  | closing
  | bar
  | times (least : Nat) (most : Option Nat) (greedy : Bool)

def isNameStart (c : Char) : Bool := c = '_' || Unicode.isNameLetter c

def isNamePart (c : Char) : Bool :=
  isNameStart c || c = '.' || c = '[' || c = ']' || Unicode.isNameDigit c

def isGroupName : List Char → Bool
  | [] => false
  | c :: rest => isNameStart c && rest.all isNamePart

def readGroupName (text : List Char) : Except ReadError (Token × List Char) :=
  match splitAt? '>' text with
  | none => .error .badGroupName
  | some (name, rest) =>
    if isGroupName name then .ok (.opening (some name), rest) else .error .badGroupName

-- The characters after `(`. Flags and look-around are not for these patterns.
def readOpening : List Char → Except ReadError (Token × List Char)
  | '?' :: ':' :: rest => .ok (.plainOpening, rest)
  | '?' :: 'P' :: '<' :: rest => readGroupName rest
  | '?' :: '<' :: rest => readGroupName rest
  | '?' :: _ => .error .unsupportedGroup
  | rest => .ok (.opening none, rest)

def readCount (text : List Char) : Except ReadError (Nat × List Char) :=
  let text := text.dropWhile Unicode.whiteSpace.contains
  let digits := text.takeWhile Text.isDigit
  let rest := (text.dropWhile Text.isDigit).dropWhile Unicode.whiteSpace.contains
  if digits.isEmpty || Text.count32 ≤ Text.decimalValue digits then .error .badRepetition
  else .ok (Text.decimalValue digits, rest)

-- A question mark after a repetition makes it prefer fewer rounds.
def timesToken (least : Nat) (most : Option Nat) : List Char → Token × List Char
  | '?' :: rest => (.times least most false, rest)
  | rest => (.times least most true, rest)

def readCounted (text : List Char) : Except ReadError (Token × List Char) := do
  let (least, rest) ← readCount text
  match rest with
  | '}' :: rest => return timesToken least (some least) rest
  | ',' :: '}' :: rest => return timesToken least none rest
  | ',' :: rest =>
    let (most, rest) ← readCount rest
    match rest with
    | '}' :: rest =>
      if least ≤ most then return timesToken least (some most) rest else .error .badRepetition
    | _ => .error .badRepetition
  | _ => .error .badRepetition

def atomTree : Atom → Tree
  | .char c => .char c
  | .set s => .set s
  | .look l => .look l

def dot : CharSet := (CharSet.single '\n').complement

-- `fuel` exceeds the number of characters.
def readToken (lexis : Lexis) (fuel : Nat) :
    List Char → Except ReadError (Option (Token × List Char))
  | [] => .ok none
  | '(' :: rest => (readOpening rest).map some
  | ')' :: rest => .ok (some (.closing, rest))
  | '|' :: rest => .ok (some (.bar, rest))
  | '[' :: rest =>
    (readClass lexis fuel rest).map fun (tree, rest) =>
      match tree with
      | .bracket negated inner => some (.item (.bracket negated inner), rest)
      | other => some (.item (.bracket false other), rest)
  | '?' :: rest => .ok (some (timesToken 0 (some 1) rest))
  | '*' :: rest => .ok (some (timesToken 0 none rest))
  | '+' :: rest => .ok (some (timesToken 1 none rest))
  | '{' :: rest => (readCounted rest).map some
  | '.' :: rest => .ok (some (.item (.set dot), rest))
  | '^' :: rest => .ok (some (.item (.look .textStart), rest))
  | '$' :: rest => .ok (some (.item (.look .textEnd), rest))
  | '\\' :: rest => (lexis.escape rest).map fun (atom, rest) => some (.item (atomTree atom), rest)
  | c :: rest => .ok (some (.item (.char c), rest))

-- What is open while a text is read: `index` is none for a group that records nothing.
structure OpenGroup where
  index : Option Nat
  branches : List Tree
  items : List Tree

structure Reading where
  branches : List Tree
  items : List Tree
  outer : List OpenGroup
  names : List (Option (List Char))

namespace Reading

def start : Reading := ⟨[], [], [], []⟩

def push (item : Tree) (r : Reading) : Reading := { r with items := item :: r.items }

def inside (r : Reading) : Tree :=
  Tree.ofBranches ((Tree.ofItems r.items.reverse :: r.branches).reverse)

def feed (r : Reading) : Token → Except ReadError Reading
  | .item tree => .ok (r.push tree)
  | .plainOpening => .ok ⟨[], [], ⟨none, r.branches, r.items⟩ :: r.outer, r.names⟩
  | .opening name =>
    if name.isSome && r.names.contains name then .error .repeatedGroupName
    else .ok ⟨[], [], ⟨some r.names.length, r.branches, r.items⟩ :: r.outer, r.names ++ [name]⟩
  | .closing =>
    match r.outer with
    | [] => .error .unopenedGroup
    | parent :: outer =>
      let group := match parent.index with
        | none => Tree.plainGroup r.inside
        | some index => Tree.group index r.inside
      .ok ⟨parent.branches, group :: parent.items, outer, r.names⟩
  | .bar => .ok ⟨Tree.ofItems r.items.reverse :: r.branches, [], r.outer, r.names⟩
  | .times least most greedy =>
    match r.items with
    | [] => .error .nothingToRepeat
    | item :: before => .ok { r with items := .repetition least most greedy item :: before }

end Reading

def readLoop : Nat → Reading → List Char → Except ReadError Reading
  | 0, r, _ => .ok r
  | fuel + 1, r, text => do
    match ← readToken .usual (fuel + 1) text with
    | none => return r
    | some (token, rest) => readLoop fuel (← r.feed token) rest

structure Parsed where
  tree : Tree
  names : List (Option (List Char))

-- Each token takes at least one character, so as many rounds as there are characters suffice.
def read (text : List Char) : Except ReadError Parsed := do
  let r ← readLoop (text.length + 1) .start text
  match r.outer with
  | [] => return ⟨r.inside, r.names⟩
  | _ => .error .unclosedGroup

def readWithin (limit : Nat) (text : List Char) : Except ReadError Parsed := do
  let parsed ← read text
  if parsed.tree.depth ≤ limit then return parsed else .error (.nestedTooDeeply limit)

end Typeahead.Pattern
