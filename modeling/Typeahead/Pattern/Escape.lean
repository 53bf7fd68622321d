import Typeahead.Pattern.Property
import Typeahead.Pattern.Tree
import Typeahead.Text.Digit

namespace Typeahead.Pattern

inductive ReadError where
  | unclosedClass
  | unclosedGroup
  | unopenedGroup
  | badEscape
  | badCodePoint
  | unknownProperty
  | badRange
  | nothingToRepeat
  | badRepetition
  | badGroupName
  | repeatedGroupName
  | unsupportedGroup
  | nestedTooDeeply (limit : Nat)
  deriving DecidableEq, Repr

inductive Atom where
  | char (c : Char)
  | set (s : CharSet)
  | look (l : Look)

def metaCharacters : List Char := "\\.+*?()|[]{}^$#&-~".toList

def isMeta (c : Char) : Bool := metaCharacters.contains c

-- Any ASCII character but letters, digits and the angle brackets may be escaped to mean itself.
def isEscapable (c : Char) : Bool :=
  c.toNat ≤ 0x7f && !c.isAlphanum && c ≠ '<' && c ≠ '>'

-- `\x`, `\u` and `\U`: two, four or eight digits, or any number of them between braces.
def readHex (count : Nat) (text : List Char) : Except ReadError (Char × List Char) :=
  let finish (digits rest : List Char) : Except ReadError (Char × List Char) :=
    match (Text.hexValue? digits).bind Text.charOfCode? with
    | some c => .ok (c, rest)
    | none => .error .badCodePoint
  match text with
  | '{' :: body =>
    match splitAt? '}' body with
    | none => .error .badEscape
    | some (digits, rest) => if digits.isEmpty then .error .badEscape else finish digits rest
  | _ =>
    let digits := text.take count
    if digits.length < count then .error .badEscape else finish digits (text.drop count)

def readProperty (negated : Bool) (text : List Char) : Except ReadError (CharSet × List Char) :=
  let finish (found : Option CharSet) (rest : List Char) : Except ReadError (CharSet × List Char) :=
    match found with
    | some s => .ok (s.negateIf negated, rest)
    | none => .error .unknownProperty
  match text with
  | [] => .error .badEscape
  | '{' :: body =>
    match splitAt? '}' body with
    | none => .error .badEscape
    | some (name, rest) => finish (bracedProperty? name) rest
  | c :: rest => if c = '\\' then .error .badEscape else finish (category? [c]) rest

def controlEscape? : Char → Option Char
  | 'a' => some '\x07'
  | 'f' => some '\x0c'
  | 't' => some '\t'
  | 'n' => some '\n'
  | 'r' => some '\r'
  | 'v' => some '\x0b'
  | _ => none

def lookEscape? : Char → Option Look
  | 'A' => some .textStart
  | 'z' => some .textEnd
  | 'b' => some .wordEdge
  | 'B' => some .noWordEdge
  | '<' => some .wordStart
  | '>' => some .wordEnd
  | _ => none

def readEscape : List Char → Except ReadError (Atom × List Char)
  | [] => .error .badEscape
  | 'x' :: rest => (readHex 2 rest).map fun (c, rest) => (.char c, rest)
  | 'u' :: rest => (readHex 4 rest).map fun (c, rest) => (.char c, rest)
  | 'U' :: rest => (readHex 8 rest).map fun (c, rest) => (.char c, rest)
  | 'p' :: rest => (readProperty false rest).map fun (s, rest) => (.set s, rest)
  | 'P' :: rest => (readProperty true rest).map fun (s, rest) => (.set s, rest)
  | c :: rest =>
    match letterEscape? c with
    | some s => .ok (.set s, rest)
    | none =>
      if isEscapable c then .ok (.char c, rest)
      else
        match controlEscape? c with
        | some d => .ok (.char d, rest)
        | none =>
          match lookEscape? c with
          | some l => .ok (.look l, rest)
          | none => .error .badEscape

end Typeahead.Pattern
