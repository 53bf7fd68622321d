import Typeahead.Toml.Entry
import Typeahead.Toml.Scalar

namespace Typeahead.Toml

def isBareKeyChar (c : Char) : Bool := c.isAlphanum || c = '_' || c = '-'

def readKeyPart : Text → Option (Text × Text)
  | '"' :: rest => readBasic (rest.length + 1) rest
  | '\'' :: rest => readLiteral rest
  | text =>
    let part := text.takeWhile isBareKeyChar
    if part.isEmpty then none else some (part, text.dropWhile isBareKeyChar)

def readKeyParts : Nat → Text → Option (List Text × Text)
  | 0, _ => none
  | fuel + 1, text => do
    let (part, rest) ← readKeyPart (skipBlanks text)
    match skipBlanks rest with
    | '.' :: rest =>
      let (parts, rest) ← readKeyParts fuel rest
      return (part :: parts, rest)
    | rest => return ([part], rest)

def depthLimit : Nat := 79

structure Key where
  path : List Text
  name : Text

def readKey (text : Text) : Option (Key × Text) := do
  let (parts, rest) ← readKeyParts (text.length + 1) text
  if depthLimit < parts.length then none
  return (⟨parts.dropLast, ← parts.getLast?⟩, rest)

def skipGaps : Nat → Text → Text
  | 0, text => text
  | fuel + 1, text =>
    let rest := skipComment (skipBlanks text)
    match readBreak? rest with
    | some rest => skipGaps fuel rest
    | none => rest

def skipAllGaps (text : Text) : Text := skipGaps (text.length + 1) text

-- Every call but one in a row reads a character, so `fuel` need not exceed twice their number.
mutual
def readValue : Nat → Nat → Text → Option (Toml × Text)
  | 0, _, _ => none
  | fuel + 1, depth, text =>
    match text with
    | '[' :: rest =>
      match depth with
      | 0 => none
      | depth + 1 => (readItems fuel depth rest).map fun (items, rest) => (.array items, rest)
    | '\x7b' :: rest =>
      match depth with
      | 0 => none
      | depth + 1 =>
        match skipBlanks rest with
        | '\x7d' :: rest => some (.table [], rest)
        | rest => (readMembers fuel depth [] rest).map fun (entries, rest) =>
          (.table (Entry.valuesOf entries), rest)
    | '"' :: _ => (readString? text).map fun (chars, rest) => (.string chars, rest)
    | '\'' :: _ => (readString? text).map fun (chars, rest) => (.string chars, rest)
    | _ => readScalar text

-- Items up to the closing bracket; a comma may stand after the last one.
def readItems : Nat → Nat → Text → Option (List Toml × Text)
  | 0, _, _ => none
  | fuel + 1, depth, text =>
    match skipAllGaps text with
    | ']' :: rest => some ([], rest)
    | text => do
      let (item, rest) ← readValue fuel depth text
      match skipAllGaps rest with
      | ',' :: rest =>
        let (items, rest) ← readItems fuel depth rest
        return (item :: items, rest)
      | ']' :: rest => return ([item], rest)
      | _ => none

-- Members up to the closing brace, all on one line; no comma may stand after the last one.
def readMembers : Nat → Nat → Entries → Text → Option (Entries × Text)
  | 0, _, _, _ => none
  | fuel + 1, depth, entries, text => do
    let (key, rest) ← readKey text
    let rest ← readMark '=' rest
    let (v, rest) ← readValue fuel depth (skipBlanks rest)
    let entries ← Entry.insert key.name v key.path entries
    match skipBlanks rest with
    | ',' :: rest => readMembers fuel depth entries rest
    | '\x7d' :: rest => return (entries, rest)
    | _ => none
end

structure Reading where
  opened : List Text
  entries : Entries

namespace Reading

def start : Reading := ⟨[], []⟩

def openTable (key : Key) (r : Reading) : Option Reading := do
  return ⟨key.path ++ [key.name], ← Entry.update (Entry.openTable key.name) key.path r.entries⟩

def openNextTable (key : Key) (r : Reading) : Option Reading := do
  return ⟨key.path ++ [key.name], ← Entry.update (Entry.openNextTable key.name) key.path r.entries⟩

def add (key : Key) (v : Toml) (r : Reading) : Option Reading := do
  return ⟨r.opened, ← Entry.update (Entry.insert key.name v key.path) r.opened r.entries⟩

def line (r : Reading) (text : Text) : Option (Reading × Text) :=
  match text with
  | '[' :: '[' :: rest => do
    let (key, rest) ← readKey rest
    let rest ← readLineEnd? (← readMark ']' (← readMark ']' rest))
    return (← r.openNextTable key, rest)
  | '[' :: rest => do
    let (key, rest) ← readKey rest
    let rest ← readLineEnd? (← readMark ']' rest)
    return (← r.openTable key, rest)
  | _ => do
    let (key, rest) ← readKey text
    let rest ← readMark '=' rest
    let (v, rest) ← readValue (2 * rest.length + 2) depthLimit (skipBlanks rest)
    return (← r.add key v, ← readLineEnd? rest)

end Reading

def readLines? : Nat → Reading → Text → Option Reading
  | 0, r, _ => some r
  | fuel + 1, r, text =>
    match skipBlanks text with
    | [] => some r
    | rest =>
      match readLineEnd? rest with
      | some rest => readLines? fuel r rest
      | none =>
        match r.line rest with
        | some (r, rest) => readLines? fuel r rest
        | none => none

def dropByteOrderMark : Text → Text
  | '\ufeff' :: rest => rest
  | text => text

def read? (text : Text) : Option (List (Text × Toml)) := do
  let text := dropByteOrderMark text
  let r ← readLines? (text.length + 1) .start text
  match ← withMoments? (.table (Entry.valuesOf r.entries)) with
  | .table entries => return entries
  | _ => none

end Typeahead.Toml
