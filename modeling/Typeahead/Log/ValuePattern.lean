import Typeahead.CharClass

namespace Typeahead.Log

-- The two flags that decide what can be read: blanks and comments may count as nothing, and a
-- character may be a byte only.
structure ReadMode where
  spaced : Bool
  bytes : Bool

namespace ReadMode

def usual : ReadMode := ⟨false, false⟩

def skipSpaces : Bool → List Char → List Char
  | _, [] => []
  | true, c :: rest => skipSpaces (c ≠ '\n') rest
  | false, c :: rest =>
    if Unicode.whiteSpace.contains c then skipSpaces false rest
    else if c = '#' then skipSpaces true rest
    else c :: rest

def skip (mode : ReadMode) (text : List Char) : List Char :=
  if mode.spaced then skipSpaces false text else text

def flagLetters : List Char := "imsUuRx".toList

def set (mode : ReadMode) (flag : Char) (on : Bool) : ReadMode :=
  if flag = 'x' then { mode with spaced := on }
  else if flag = 'u' then { mode with bytes := !on }
  else mode

-- Flags up to a colon or a closing bracket; those after a dash are taken away. None comes twice,
-- and a dash is not the last. `seen` has the latest in front.
def readFlags (mode : ReadMode) (seen : List Char) :
    List Char → Option (ReadMode × List Char × List Char)
  | [] => none
  | c :: rest =>
    if c = ':' ∨ c = ')' then
      if seen.head? = some '-' then none else some (mode, seen, c :: rest)
    else if seen.contains c then none
    else if c = '-' then readFlags mode ('-' :: seen) rest
    else if flagLetters.contains c then
      readFlags (mode.set c (!seen.contains '-')) (c :: seen) rest
    else none

def edgeNames : List (List Char) :=
  ["start".toList, "end".toList, "start-half".toList, "end-half".toList]

def isEdgeNameChar (c : Char) : Bool := c.isAlpha || c = '-'

def readEdge (mode : ReadMode) (text : List Char) :
    Except Pattern.ReadError (List Char) :=
  match text with
  | '\x7b' :: rest =>
    match mode.skip rest with
    | [] => .error .badEscape
    | c :: more =>
      if !isEdgeNameChar c then .ok text
      else
        let name := (c :: more).takeWhile isEdgeNameChar
        match mode.skip ((c :: more).dropWhile isEdgeNameChar) with
        | '\x7d' :: rest => if edgeNames.contains name then .ok rest else .error .badEscape
        | _ => .error .badEscape
  | _ => .ok text

def byteClass? : Char → Option CharSet
  | 'd' => Pattern.asciiClass? "digit".toList
  | 's' => Pattern.asciiClass? "space".toList
  | 'w' => Pattern.asciiClass? "word".toList
  | _ => none

def isBeyondAscii : Pattern.Atom → Bool
  | .char c => 0x80 ≤ c.toNat
  | .set s => !s.isAscii
  | .look _ => false

-- What a backslash begins. As bytes, edges of words are known, and nothing outside ASCII is.
def readEscape (mode : ReadMode) (text : List Char) :
    Except Pattern.ReadError (Pattern.Atom × List Char) :=
  let edge : Pattern.Look := if mode.bytes then .textStart else .wordEdge
  match text with
  | 'b' :: rest => (mode.readEdge rest).map fun rest => (.look edge, rest)
  | 'B' :: rest | '<' :: rest | '>' :: rest => .ok (.look edge, rest)
  | 'p' :: rest | 'P' :: rest =>
    if mode.bytes then .error .unknownProperty
    else Pattern.readEscape (text.take 1 ++ mode.skip rest)
  | 'x' :: rest =>
    match Pattern.readEscape ('x' :: mode.skip rest) with
    | .error e => .error e
    | .ok (atom, after) =>
      if mode.bytes && isBeyondAscii atom && (mode.skip rest).head? ≠ some '\x7b'
      then .error .badCodePoint else .ok (atom, after)
  | c :: rest =>
    if mode.bytes then
      match byteClass? c with
      | some s => .ok (.set s, rest)
      | none =>
        match Pattern.readEscape text with
        | .ok (.set _, _) => .error .badEscape
        | read => read
    else Pattern.readEscape text
  | [] => .error .badEscape

def lexis (mode : ReadMode) : Pattern.Lexis := ⟨mode.skip, mode.readEscape⟩

end ReadMode

-- As bytes, a class holds ASCII characters and is not negated.
mutual
def staysAscii : Pattern.ClassTree → Bool
  | .empty => true
  | .leaf s => s.isAscii
  | .bracket negated inner => !negated && staysAscii inner
  | .union items => allStayAscii items
  | .binary _ left right => staysAscii left && staysAscii right

def allStayAscii : List Pattern.ClassTree → Bool
  | [] => true
  | item :: rest => staysAscii item && allStayAscii rest
end

-- Can it be reached? What is repeated no times cannot.
mutual
def asksForWords : Pattern.Tree → Bool
  | .look l => l == .wordEdge
  | .repetition _ most _ body => most != some 0 && asksForWords body
  | .plainGroup body => asksForWords body
  | .group _ body => asksForWords body
  | .concat items => anyAsksForWords items
  | .choice branches => anyAsksForWords branches
  | _ => false

def anyAsksForWords : List Pattern.Tree → Bool
  | [] => false
  | item :: rest => asksForWords item || anyAsksForWords rest
end

structure Checking where
  reading : Pattern.Reading
  mode : ReadMode
  outer : List ReadMode

namespace Checking

def start : Checking := ⟨.start, .usual, []⟩

-- Flags stand in the list of items as something empty, which cannot be repeated.
def repeatsFlags (c : Checking) : Bool :=
  match c.reading.items with
  | .empty :: _ => true
  | _ => false

def feed (c : Checking) (token : Pattern.Token) : Option Checking := do
  let reading ← (c.reading.feed token).toOption
  match token with
  | .item (.set s) => if c.mode.bytes && !s.isAscii then none else some { c with reading }
  | .item (.bracket negated inner) =>
    if c.mode.bytes && !staysAscii (.bracket negated inner) then none
    else some { c with reading }
  | .plainOpening | .opening _ => some ⟨reading, c.mode, c.mode :: c.outer⟩
  | .closing =>
    match c.outer with
    | mode :: outer => some ⟨reading, mode, outer⟩
    | [] => none
  | .times _ _ _ => if c.repeatsFlags then none else some { c with reading }
  | _ => some { c with reading }

def isFlagStart : List Char → Bool
  | ':' :: _ => false
  | '<' :: _ => false
  | 'P' :: '<' :: _ => false
  | _ => true

def step (c : Checking) (fuel : Nat) (text : List Char) : Option (Checking × List Char) :=
  let token (text : List Char) : Option (Checking × List Char) := do
    match ← (Pattern.readToken c.mode.lexis fuel text).toOption with
    | none => none
    | some (token, rest) => return (← c.feed token, rest)
  match text with
  | '(' :: rest =>
    match c.mode.skip rest with
    | '?' :: more =>
      if isFlagStart more then do
        let (mode, seen, ending) ← c.mode.readFlags [] more
        match ending with
        | ')' :: rest =>
          if seen.isEmpty then none
          return ({ (← c.feed (.item .empty)) with mode }, rest)
        | _ => return ({ (← c.feed .plainOpening) with mode }, ending.drop 1)
      else token ('(' :: '?' :: more)
    | rest => token ('(' :: rest)
  | _ => token text

end Checking

def checkLoop : Nat → Checking → List Char → Option Checking
  | 0, _, _ => none
  | fuel + 1, c, text =>
    match c.mode.skip text with
    | [] => some c
    | text => do
      let (c, rest) ← c.step (fuel + 1) text
      checkLoop fuel c rest

-- No event shows a value to a filter, so a pattern for values is only checked, and never matched.
def isValuePattern (text : List Char) : Bool :=
  match checkLoop (text.length + 1) .start text with
  | none => false
  | some c =>
    let tree := c.reading.inside
    c.outer.isEmpty && decide (tree.depth ≤ CharClass.defaultNestLimit) && !asksForWords tree

end Typeahead.Log
