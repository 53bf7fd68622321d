import Typeahead.Text.Digit
import Typeahead.Toml.Basic

namespace Typeahead.Toml

def namedEscape? : Char → Option Char
  | 'b' => some '\x08'
  | 't' => some '\t'
  | 'n' => some '\n'
  | 'f' => some '\x0c'
  | 'r' => some '\r'
  | '"' => some '"'
  | '\\' => some '\\'
  | _ => none

def readCode? (count : Nat) (text : Text) : Option (Char × Text) :=
  let digits := text.take count
  if digits.length < count then none
  else do
    let c ← (Text.hexValue? digits).bind Text.charOfCode?
    return (c, text.drop count)

def readEscape? : Text → Option (Char × Text)
  | 'u' :: rest => readCode? 4 rest
  | 'U' :: rest => readCode? 8 rest
  | c :: rest => (namedEscape? c).map fun meant => (meant, rest)
  | [] => none

def readLiteral : Text → Option (Text × Text)
  | [] => none
  | '\'' :: rest => some ([], rest)
  | c :: rest =>
    if isPlain c then (readLiteral rest).map fun (chars, rest) => (c :: chars, rest) else none

def readBasic : Nat → Text → Option (Text × Text)
  | 0, _ => none
  | fuel + 1, text =>
    match text with
    | [] => none
    | '"' :: rest => some ([], rest)
    | '\\' :: rest => do
      let (c, rest) ← readEscape? rest
      let (chars, rest) ← readBasic fuel rest
      return (c :: chars, rest)
    | c :: rest =>
      if isPlain c then (readBasic fuel rest).map fun (chars, rest) => (c :: chars, rest) else none

-- A run of marks closes the string if there are three; one or two more of them belong to it.
def closing? (mark : Char) (text : Text) : Option (Text × Text) :=
  let run := min 5 (text.takeWhile (· = mark)).length
  if run < 3 then none else some (List.replicate (run - 3) mark, text.drop run)

def skipBlanksAndBreaks : Nat → Text → Text
  | 0, text => text
  | fuel + 1, text =>
    match readBreak? (skipBlanks text) with
    | some rest => skipBlanksAndBreaks fuel rest
    | none => skipBlanks text

-- A backslash at the end of a line takes away the break and all blanks and breaks after it.
def joinedLine? (text : Text) : Option Text :=
  (readBreak? (skipBlanks text)).map fun rest => skipBlanksAndBreaks rest.length rest

def readLines (mark : Char) : Nat → Text → Option (Text × Text)
  | 0, _ => none
  | fuel + 1, text =>
    match closing? mark text with
    | some found => some found
    | none =>
      match readBreak? text with
      | some rest => (readLines mark fuel rest).map fun (chars, rest) => ('\n' :: chars, rest)
      | none =>
        match text with
        | [] => none
        | c :: rest =>
          if c = '\\' ∧ mark = '"' then
            match joinedLine? rest with
            | some rest => readLines mark fuel rest
            | none => do
              let (c, rest) ← readEscape? rest
              let (chars, rest) ← readLines mark fuel rest
              return (c :: chars, rest)
          else if isPlain c then
            (readLines mark fuel rest).map fun (chars, rest) => (c :: chars, rest)
          else none

-- A line break just after the opening marks does not count.
def readManyLines (mark : Char) (text : Text) : Option (Text × Text) :=
  let text := (readBreak? text).getD text
  readLines mark (text.length + 1) text

def readString? : Text → Option (Text × Text)
  | '"' :: '"' :: '"' :: rest => readManyLines '"' rest
  | '"' :: rest => readBasic (rest.length + 1) rest
  | '\'' :: '\'' :: '\'' :: rest => readManyLines '\'' rest
  | '\'' :: rest => readLiteral rest
  | _ => none

end Typeahead.Toml
