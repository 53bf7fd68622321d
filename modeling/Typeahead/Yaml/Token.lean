import Typeahead.Text.Digit
import Typeahead.Yaml.Basic

namespace Typeahead.Yaml

inductive Token where
  | versionDirective (major minor : Nat)
  | tagDirective (handle : Text) (leading : YamlTag)
  | documentStart
  | documentEnd
  | blockSequenceStart
  | blockMappingStart
  | blockEnd
  | flowSequenceStart
  | flowSequenceEnd
  | flowMappingStart
  | flowMappingEnd
  | blockEntry
  | flowEntry
  | key
  | value
  | alias (name : Text)
  | anchor (name : Text)
  | tag (handle : Text) (suffix : YamlTag)
  | scalar (text : Text) (plain : Bool)
  deriving DecidableEq, Repr

structure Cursor where
  rest : Text
  line : Nat
  column : Nat
  index : Nat

def isBlank (c : Char) : Bool := c = ' ' || c = '\t'

def isBreak (c : Char) : Bool :=
  c = '\n' || c = '\r' || c = '\x85' || c = '\u2028' || c = '\u2029'

def isWordChar (c : Char) : Bool := c.isAlphanum || c = '_' || c = '-'

def atLineEnd : Text → Bool
  | [] => true
  | c :: _ => isBreak c

def atBlankOrEnd : Text → Bool
  | [] => true
  | c :: _ => isBlank c || isBreak c

namespace Cursor

def start (text : Text) : Cursor := ⟨text, 0, 0, 0⟩

def skip (n : Nat) (c : Cursor) : Cursor :=
  ⟨c.rest.drop n, c.line, c.column + n, c.index + n⟩

def takeWhile (p : Char → Bool) (c : Cursor) : Text × Cursor :=
  let taken := c.rest.takeWhile p
  (taken, ⟨c.rest.dropWhile p, c.line, c.column + taken.length, c.index + taken.length⟩)

def skipWhile (p : Char → Bool) (c : Cursor) : Cursor := (c.takeWhile p).2

def nextLine (rest : Text) (n : Nat) (c : Cursor) : Cursor := ⟨rest, c.line + 1, 0, c.index + n⟩

-- One line break, if there is one, and what it counts as: a line feed, but for the separators of
-- lines and paragraphs.
def takeBreak (c : Cursor) : Text × Cursor :=
  match c.rest with
  | '\r' :: '\n' :: rest => (['\n'], c.nextLine rest 2)
  | d :: rest =>
    if d = '\u2028' || d = '\u2029' then ([d], c.nextLine rest 1)
    else if isBreak d then (['\n'], c.nextLine rest 1)
    else ([], c)
  | [] => ([], c)

def atDocumentMark (c : Cursor) : Bool :=
  c.column = 0 &&
    match c.rest with
    | '-' :: '-' :: '-' :: rest => atBlankOrEnd rest
    | '.' :: '.' :: '.' :: rest => atBlankOrEnd rest
    | _ => false

end Cursor
end Typeahead.Yaml
