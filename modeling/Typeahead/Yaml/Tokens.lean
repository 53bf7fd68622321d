import Typeahead.Yaml.Scalar

namespace Typeahead.Yaml

-- A place where a key may have begun, as only the colon behind it can tell.
structure KeyPlace where
  required : Bool
  position : Nat
  line : Nat
  column : Nat
  index : Nat

structure Scan where
  cursor : Cursor
  tokens : Array Token
  -- the column of the block around, none outside all blocks, and those of the blocks around it
  indent : Option Nat
  indents : List (Option Nat)
  -- one entry for the block context and one for each open flow collection
  keys : List (Option KeyPlace)
  keyAllowed : Bool

namespace Scan

def start (text : Text) : Scan := ⟨.start text, #[], none, [], [none], true⟩

def inFlow (s : Scan) : Bool := 1 < s.keys.length

def push (token : Token) (s : Scan) : Scan := { s with tokens := s.tokens.push token }

def allowKey (allowed : Bool) (s : Scan) : Scan := { s with keyAllowed := allowed }

def skip (n : Nat) (s : Scan) : Scan := { s with cursor := s.cursor.skip n }

-- A key has to stand on one line and be shorter than 1024 characters.
def isStale (c : Cursor) (k : KeyPlace) : Bool := k.line < c.line || k.index + 1024 < c.index

def dropStaleKeys (c : Cursor) : List (Option KeyPlace) → Option (List (Option KeyPlace))
  | [] => some []
  | none :: rest => (dropStaleKeys c rest).map (none :: ·)
  | some k :: rest =>
    if isStale c k then
      if k.required then none else (dropStaleKeys c rest).map (none :: ·)
    else (dropStaleKeys c rest).map (some k :: ·)

def dropKey (s : Scan) : Option Scan :=
  match s.keys with
  | some k :: rest => if k.required then none else some { s with keys := none :: rest }
  | _ => some s

-- In a block, what stands at the column of the block has to be a key.
def saveKey (s : Scan) : Option Scan :=
  if s.keyAllowed then do
    let c := s.cursor
    let required := !s.inFlow && s.indent = some c.column
    let s ← s.dropKey
    let key := ⟨required, s.tokens.size, c.line, c.column, c.index⟩
    return { s with keys := some key :: s.keys.tail }
  else some s

def rollIndent (column : Nat) (position : Nat) (token : Token) (s : Scan) : Scan :=
  if s.inFlow then s
  else if s.indent.all (· < column) then
    { s with
      indent := some column
      indents := s.indent :: s.indents
      tokens := s.tokens.insertIdx! position token }
  else s

def unrollTo (column : Option Nat) : List (Option Nat) → Option Nat → Array Token →
    List (Option Nat) × Option Nat × Array Token
  | indents, none, tokens => (indents, none, tokens)
  | [], some indent, tokens => ([], some indent, tokens)
  | outer :: indents, some indent, tokens =>
    if column.all (· < indent) then unrollTo column indents outer (tokens.push .blockEnd)
    else (outer :: indents, some indent, tokens)

-- `none` closes all of them.
def unrollIndent (column : Option Nat) (s : Scan) : Scan :=
  if s.inFlow then s
  else
    let (indents, indent, tokens) := unrollTo column s.indents s.indent s.tokens
    { s with indents, indent, tokens }

-- Blanks, comments and line breaks. A byte order mark may begin a line and takes its first column.
-- A tab is no blank where a key may begin in a block.
def skipToToken : Nat → Scan → Scan
  | 0, s => s
  | fuel + 1, s =>
    let tabs := s.inFlow || !s.keyAllowed
    let c := if s.cursor.column = 0 && s.cursor.rest.head? = some '\ufeff'
      then s.cursor.skip 1 else s.cursor
    let c := c.skipWhile fun d => d = ' ' || tabs && d = '\t'
    let c := if c.rest.head? = some '#' then c.skipWhile fun d => !isBreak d else c
    match c.rest with
    | d :: _ =>
      if isBreak d then
        skipToToken fuel { s with cursor := c.takeBreak.2, keyAllowed := s.keyAllowed || !s.inFlow }
      else { s with cursor := c }
    | [] => { s with cursor := c }

def readVersion (c : Cursor) : Option (Token × Cursor) := do
  let c := c.skipWhile isBlank
  let (major, c) := c.takeWhile Text.isDigit
  if major.isEmpty || 9 < major.length || c.rest.head? ≠ some '.' then none
  let (minor, c) := (c.skip 1).takeWhile Text.isDigit
  if minor.isEmpty || 9 < minor.length then none
  return (.versionDirective (Text.decimalValue major) (Text.decimalValue minor), c)

def isUriChar (flow : Bool) (c : Char) : Bool :=
  isWordChar c || ";/?:@&=+$.!~*'()%".toList.contains c || flow && (c = ',' || c = '[' || c = ']')

def trailingBytes? (first : Nat) : Option Nat :=
  if first < 0x80 then some 0
  else if first / 0x20 = 0x6 then some 1
  else if first / 0x10 = 0xe then some 2
  else if first / 0x8 = 0x1e then some 3
  else none

-- Percent escapes write bytes in groups that look like the characters of UTF-8; `pending` is how
-- many are still due in a group.
def uriBytes? (pending : Nat) : Text → Option YamlTag
  | '%' :: a :: b :: rest => do
    let n := (← Text.hexDigit? a) * 16 + (← Text.hexDigit? b)
    let pending ← match pending with
      | 0 => trailingBytes? n
      | pending + 1 => if n / 0x40 = 0x2 then some pending else none
    return n.toUInt8 :: (← uriBytes? pending rest)
  | '%' :: _ => none
  | c :: rest => if pending = 0 then (uriBytes? 0 rest).map (c.toNat.toUInt8 :: ·) else none
  | [] => if pending = 0 then some [] else none

-- A zero byte ends a tag, whatever follows it.
def untilZero (bytes : YamlTag) : YamlTag := bytes.takeWhile (· ≠ 0)

-- The characters of the URI may be none.
def readUri (flow : Bool) (c : Cursor) : Option (YamlTag × Cursor) := do
  let (raw, c) := c.takeWhile (isUriChar flow)
  return (untilZero (← uriBytes? 0 raw), c)

def atUri (flow : Bool) (c : Cursor) : Bool := c.rest.head?.any (isUriChar flow)

-- `!`, `!!` or `!word!`; without the last mark it is the beginning of a suffix.
def readHandle (c : Cursor) : Option (Text × Cursor) :=
  match c.rest with
  | '!' :: _ =>
    let (word, c) := (c.skip 1).takeWhile isWordChar
    if c.rest.head? = some '!' then some ('!' :: word ++ ['!'], c.skip 1)
    else some ('!' :: word, c)
  | _ => none

def readTagDirective (c : Cursor) : Option (Token × Cursor) := do
  let c := c.skipWhile isBlank
  let (handle, c) ← readHandle c
  if handle ≠ ['!'] && handle.getLast? ≠ some '!' then none
  if !(c.rest.head?.any isBlank) then none
  let c := c.skipWhile isBlank
  if !atUri true c then none
  let (leading, c) ← readUri true c
  if !atBlankOrEnd c.rest then none
  return (.tagDirective handle leading, c)

def readDirective (c : Cursor) : Option (Token × Cursor) := do
  let (name, c) := (c.skip 1).takeWhile isWordChar
  if name.isEmpty || !atBlankOrEnd c.rest then none
  let (token, c) ←
    if name = "YAML".toList then readVersion c
    else if name = "TAG".toList then readTagDirective c
    else none
  let c := c.skipWhile isBlank
  let c := if c.rest.head? = some '#' then c.skipWhile fun d => !isBreak d else c
  if !atLineEnd c.rest then none
  return (token, c.takeBreak.2)

def readAnchor (c : Cursor) : Option (Text × Cursor) := do
  let (name, c) := (c.skip 1).takeWhile isWordChar
  let ended := match c.rest with
    | [] => true
    | d :: _ => isBlank d || isBreak d || "?:,]\x7d%@\x60".toList.contains d
  if name.isEmpty || !ended then none
  return (name, c)

def readTag (flow : Bool) (c : Cursor) : Option (Token × Cursor) := do
  let (token, c) ←
    if c.rest[1]? = some '<' then do
      let c := c.skip 2
      if !atUri true c then none
      let (suffix, c) ← readUri true c
      if c.rest.head? ≠ some '>' then none
      some (Token.tag [] suffix, c.skip 1)
    else do
      let (handle, c) ← readHandle c
      if 1 < handle.length && handle.getLast? = some '!' then
        if !atUri false c then none
        let (suffix, c) ← readUri false c
        some (.tag handle suffix, c)
      else
        let (more, c) ← readUri false c
        let suffix := YamlTag.ofAscii handle.tail ++ more
        if suffix.isEmpty then some (.tag [] (.ofAscii ['!']), c) else some (.tag ['!'] suffix, c)
  if atBlankOrEnd c.rest || flow && c.rest.head? = some ',' then return (token, c) else none

def blockEntry (s : Scan) : Option Scan := do
  let s ←
    if s.inFlow then some s
    else if s.keyAllowed then
      some (s.rollIndent s.cursor.column s.tokens.size .blockSequenceStart)
    else none
  let s ← s.dropKey
  return ((s.allowKey true).skip 1).push .blockEntry

def explicitKey (s : Scan) : Option Scan := do
  let s ←
    if s.inFlow then some s
    else if s.keyAllowed then
      some (s.rollIndent s.cursor.column s.tokens.size .blockMappingStart)
    else none
  let s ← s.dropKey
  return ((s.allowKey !s.inFlow).skip 1).push .key

def colon (s : Scan) : Option Scan :=
  match s.keys with
  | some k :: rest =>
    let s := { s with keys := none :: rest, tokens := s.tokens.insertIdx! k.position .key }
    let s := s.rollIndent k.column k.position .blockMappingStart
    some (((s.allowKey false).skip 1).push .value)
  | _ => do
    let s ←
      if s.inFlow then some s
      else if s.keyAllowed then
        some (s.rollIndent s.cursor.column s.tokens.size .blockMappingStart)
      else none
    return ((s.allowKey !s.inFlow).skip 1).push .value

def openFlow (token : Token) (s : Scan) : Option Scan := do
  let s ← s.saveKey
  return (({ s with keys := none :: s.keys }).allowKey true |>.skip 1).push token

def closeFlow (token : Token) (s : Scan) : Option Scan := do
  let s ← s.dropKey
  let s := if s.inFlow then { s with keys := s.keys.tail } else s
  return ((s.allowKey false).skip 1).push token

def place (s : Scan) (token : Token) (c : Cursor) : Scan := { s.push token with cursor := c }

-- A token before which a key may have begun, and after which none may.
def inKey (read : Cursor → Option (Token × Cursor)) (s : Scan) : Option Scan := do
  let s ← s.saveKey
  let (token, c) ← read s.cursor
  return (s.allowKey false).place token c

def blockScalar (isLiteral : Bool) (s : Scan) : Option Scan := do
  let s ← s.dropKey
  let (text, c) ← readBlock isLiteral s.indent (s.cursor.skip 1)
  return (s.allowKey true).place (.scalar text false) c

def quotedScalar (single : Bool) (s : Scan) : Option Scan :=
  s.inKey fun c => do
    let (text, c) ← readQuoted single (c.rest.length + 1) [] (c.skip 1)
    return (.scalar text false, c)

def plainScalar (s : Scan) : Option Scan := do
  let s ← s.saveKey
  let indent := (s.indent.map (· + 1)).getD 0
  let (text, c, broken) ← readPlain s.inFlow indent (s.cursor.rest.length + 1) [] Gap.none s.cursor
  return (s.allowKey broken).place (.scalar text true) c

def atMargin (read : Cursor → Option (Token × Cursor)) (s : Scan) : Option Scan := do
  let s ← (s.unrollIndent none).dropKey
  let (token, c) ← read s.cursor
  return (s.allowKey false).place token c

def startsPlain (flow : Bool) (c : Char) (rest : Text) : Bool :=
  !isBlank c && !"-?:,[]\x7b\x7d#&*!|>'\"%@\x60".toList.contains c
    || c = '-' && !(rest.head?.any isBlank)
    || !flow && (c = '?' || c = ':') && !atBlankOrEnd rest

def next (s : Scan) (c : Char) (rest : Text) : Option Scan :=
  let flow := s.inFlow
  if s.cursor.column = 0 && c = '%' then s.atMargin readDirective
  else if s.cursor.atDocumentMark then
    s.atMargin fun cur =>
      some (if c = '-' then .documentStart else .documentEnd, cur.skip 3)
  else if c = '[' then s.openFlow .flowSequenceStart
  else if c = '\x7b' then s.openFlow .flowMappingStart
  else if c = ']' then s.closeFlow .flowSequenceEnd
  else if c = '\x7d' then s.closeFlow .flowMappingEnd
  else if c = ',' then do
    let s ← s.dropKey
    return ((s.allowKey true).skip 1).push .flowEntry
  else if c = '-' && atBlankOrEnd rest then s.blockEntry
  else if c = '?' && (flow || atBlankOrEnd rest) then s.explicitKey
  else if c = ':' && (flow || atBlankOrEnd rest) then s.colon
  else if c = '*' then
    s.inKey fun cur => (readAnchor cur).map fun (name, cur) => (.alias name, cur)
  else if c = '&' then
    s.inKey fun cur => (readAnchor cur).map fun (name, cur) => (.anchor name, cur)
  else if c = '!' then s.inKey (readTag flow)
  else if c = '|' && !flow then s.blockScalar true
  else if c = '>' && !flow then s.blockScalar false
  else if c = '\'' then s.quotedScalar true
  else if c = '"' then s.quotedScalar false
  else if startsPlain flow c rest then s.plainScalar
  else none

def finish (s : Scan) : Option (List Token) := do
  let s ← (s.unrollIndent none).dropKey
  return s.tokens.toList

-- Every token but those that indentation brings takes at least one character.
def run : Nat → Scan → Option (List Token)
  | 0, _ => none
  | fuel + 1, s => do
    let s := skipToToken (s.cursor.rest.length + 1) s
    let keys ← dropStaleKeys s.cursor s.keys
    let s := { s with keys }
    match s.cursor.rest with
    | [] => s.finish
    | c :: rest => do
      let s := s.unrollIndent (some s.cursor.column)
      run fuel (← s.next c rest)

end Scan

def isAllowed (c : Char) : Bool :=
  let n := c.toNat
  n = 9 || n = 10 || n = 13 || 0x20 ≤ n && n ≤ 0x7e || n = 0x85 || 0xa0 ≤ n && n ≤ 0xd7ff
    || 0xe000 ≤ n && n ≤ 0xfffd || 0x10000 ≤ n

def tokens? (text : Text) : Option (List Token) :=
  if text.all isAllowed then Scan.run (text.length + 2) (.start text) else none

end Typeahead.Yaml
