import Typeahead.Pattern.Escape

namespace Typeahead.Pattern

structure OpenClass where
  negated : Bool
  waiting : Option (SetOp × ClassTree)
  items : List ClassTree

namespace OpenClass

def push (item : ClassTree) (c : OpenClass) : OpenClass := { c with items := c.items ++ [item] }

def settled (c : OpenClass) : ClassTree :=
  let right := ClassTree.ofItems c.items
  match c.waiting with
  | none => right
  | some (op, left) => .binary op left right

def startOperator (op : SetOp) (c : OpenClass) : OpenClass :=
  ⟨c.negated, some (op, c.settled), []⟩

def close (c : OpenClass) : ClassTree := .bracket c.negated c.settled

end OpenClass

-- How a pattern is cut into parts: what may stand between two of them and count as nothing, and
-- what a backslash begins.
structure Lexis where
  skip : List Char → List Char
  escape : List Char → Except ReadError (Atom × List Char)

def Lexis.usual : Lexis := ⟨id, readEscape⟩

def takeDashes (lexis : Lexis) : Nat → List Char → List ClassTree × List Char
  | fuel + 1, '-' :: rest =>
    let (items, rest) := takeDashes lexis fuel (lexis.skip rest)
    (.leaf (.single '-') :: items, rest)
  | _, text => ([], text)

-- After `[`: a possible `^`, then dashes that stand for themselves, and a `]` that stands for
-- itself where nothing came before it.
def openClass (lexis : Lexis) (fuel : Nat) (text : List Char) : OpenClass × List Char :=
  let (negated, text) := match lexis.skip text with
    | '^' :: rest => (true, lexis.skip rest)
    | text => (false, text)
  match takeDashes lexis fuel text with
  | ([], ']' :: rest) => (⟨negated, none, [.leaf (.single ']')]⟩, rest)
  | (dashes, rest) => (⟨negated, none, dashes⟩, rest)

-- After `[`: a class such as `[:alpha:]`, if the name is known.
def posixClass? (text : List Char) : Option (CharSet × List Char) :=
  match text with
  | ':' :: rest =>
    let (negated, rest) := match rest with
      | '^' :: rest => (true, rest)
      | _ => (false, rest)
    match splitAt? ':' rest with
    | some (name, ']' :: rest) => (asciiClass? name).map fun s => (s.negateIf negated, rest)
    | _ => none
  | _ => none

def readMember (lexis : Lexis) : List Char → Except ReadError (Atom × List Char)
  | [] => .error .unclosedClass
  | '\\' :: rest => lexis.escape rest
  | c :: rest => .ok (.char c, rest)

def memberSet : Atom → Except ReadError CharSet
  | .char c => .ok (.single c)
  | .set s => .ok s
  | .look _ => .error .badEscape

def memberChar : Atom → Except ReadError Char
  | .char c => .ok c
  | _ => .error .badRange

-- One member, or a range: a dash before `]` or before another dash makes no range.
def readRange (lexis : Lexis) (text : List Char) : Except ReadError (ClassTree × List Char) := do
  let (first, rest) ← readMember lexis text
  let rest := lexis.skip rest
  match rest with
  | [] => .error .unclosedClass
  | '-' :: after =>
    match lexis.skip after with
    | ']' :: _ | '-' :: _ => return (.leaf (← memberSet first), rest)
    | after =>
      let (last, rest) ← readMember lexis after
      let lo ← memberChar first
      let hi ← memberChar last
      if lo ≤ hi then return (.leaf (.range lo hi), rest) else .error .badRange
  | _ => return (.leaf (← memberSet first), rest)

-- Each round reads at least one character, so `fuel` need not exceed their number by more than one.
def readClassLoop (lexis : Lexis) : Nat → OpenClass → List OpenClass → List Char →
    Except ReadError (ClassTree × List Char)
  | 0, _, _, _ => .error .unclosedClass
  | fuel + 1, inner, outer, text =>
    match lexis.skip text with
    | [] => .error .unclosedClass
    | '[' :: rest =>
      match posixClass? rest with
      | some (s, rest) => readClassLoop lexis fuel (inner.push (.leaf s)) outer rest
      | none =>
        let (nested, rest) := openClass lexis fuel rest
        readClassLoop lexis fuel nested (inner :: outer) rest
    | ']' :: rest =>
      match outer with
      | [] => .ok (inner.close, rest)
      | parent :: outer => readClassLoop lexis fuel (parent.push inner.close) outer rest
    | '&' :: '&' :: rest => readClassLoop lexis fuel (inner.startOperator .inter) outer rest
    | '-' :: '-' :: rest => readClassLoop lexis fuel (inner.startOperator .diff) outer rest
    | '~' :: '~' :: rest => readClassLoop lexis fuel (inner.startOperator .symmDiff) outer rest
    | text =>
      match readRange lexis text with
      | .error e => .error e
      | .ok (item, rest) => readClassLoop lexis fuel (inner.push item) outer rest

def readClass (lexis : Lexis) (fuel : Nat) (text : List Char) :
    Except ReadError (ClassTree × List Char) :=
  let (first, rest) := openClass lexis fuel text
  readClassLoop lexis fuel first [] rest

end Typeahead.Pattern
