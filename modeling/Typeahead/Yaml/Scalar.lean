import Typeahead.Yaml.Token

namespace Typeahead.Yaml

structure Gap where
  blanks : Text
  firstBreak : Text
  moreBreaks : Text
  broken : Bool

namespace Gap

def none : Gap := ⟨[], [], [], false⟩

def fold (g : Gap) : Text :=
  if g.broken then
    if g.firstBreak = ['\n'] then
      if g.moreBreaks.isEmpty then [' '] else g.moreBreaks
    else g.firstBreak ++ g.moreBreaks
  else g.blanks

-- `tabStop` is the column that a tab may not stand before on a later line.
def read (tabStop : Option Nat) : Nat → Gap → Cursor → Option (Gap × Cursor)
  | 0, g, c => some (g, c)
  | fuel + 1, g, c =>
    match c.rest with
    | [] => some (g, c)
    | d :: _ =>
      if isBlank d then
        if g.broken then
          match tabStop with
          | some stop =>
            if d = '\t' && c.column < stop then Option.none else read tabStop fuel g (c.skip 1)
          | Option.none => read tabStop fuel g (c.skip 1)
        else read tabStop fuel { g with blanks := g.blanks ++ [d] } (c.skip 1)
      else if isBreak d then
        let (ending, next) := c.takeBreak
        if g.broken then read tabStop fuel { g with moreBreaks := g.moreBreaks ++ ending } next
        else read tabStop fuel ⟨[], ending, [], true⟩ next
      else some (g, c)

end Gap

def isFlowIndicator (c : Char) : Bool :=
  c = ',' || c = '[' || c = ']' || c = '\x7b' || c = '\x7d'

-- Up to a blank or a character that ends a plain scalar; a colon inside a flow collection may
-- not stand before an indicator.
def plainWord (flow : Bool) : Text → Option (Text × Text)
  | [] => some ([], [])
  | c :: rest =>
    if isBlank c || isBreak c then some ([], c :: rest)
    else if flow && c = ':' && (rest.head?.any fun d => isFlowIndicator d || d = '?') then none
    else if c = ':' && atBlankOrEnd rest then some ([], c :: rest)
    else if flow && isFlowIndicator c then some ([], c :: rest)
    else (plainWord flow rest).map fun (word, rest) => (c :: word, rest)

def atBlankOrBreak (text : Text) : Bool := !text.isEmpty && atBlankOrEnd text

def readPlain (flow : Bool) (indent : Nat) : Nat → Text → Gap → Cursor →
    Option (Text × Cursor × Bool)
  | 0, text, gap, c => some (text, c, gap.broken)
  | fuel + 1, text, gap, c =>
    if c.atDocumentMark || c.rest.head? = some '#' then some (text, c, gap.broken)
    else do
      let (word, _) ← plainWord flow c.rest
      let c := c.skip word.length
      let (text, gap) := if word.isEmpty then (text, gap) else (text ++ gap.fold ++ word, Gap.none)
      if !atBlankOrBreak c.rest then return (text, c, gap.broken)
      let (gap, c) ← Gap.read (some indent) (c.rest.length + 1) Gap.none c
      if !flow && c.column < indent then return (text, c, gap.broken)
      readPlain flow indent fuel text gap c

def namedEscape? : Char → Option Char
  | '0' => some '\x00'
  | 'a' => some '\x07'
  | 'b' => some '\x08'
  | 't' => some '\t'
  | '\t' => some '\t'
  | 'n' => some '\n'
  | 'v' => some '\x0b'
  | 'f' => some '\x0c'
  | 'r' => some '\r'
  | 'e' => some '\x1b'
  | ' ' => some ' '
  | '"' => some '"'
  | '/' => some '/'
  | '\\' => some '\\'
  | 'N' => some '\x85'
  | '_' => some '\xa0'
  | 'L' => some '\u2028'
  | 'P' => some '\u2029'
  | _ => none

def escapeLength? : Char → Option Nat
  | 'x' => some 2
  | 'u' => some 4
  | 'U' => some 8
  | _ => none

def readCode (count : Nat) (rest : Text) : Option Char :=
  let digits := rest.take count
  if digits.length < count then none
  else (Text.hexValue? digits).bind Text.charOfCode?

inductive WordEnd where
  | quote
  | gap
  | escapedBreak

-- The next word of a quoted scalar and what ended it; `none` for a bad escape.
def quotedWord (single : Bool) : Nat → Cursor → Option (Text × Cursor × WordEnd)
  | 0, c => some ([], c, .gap)
  | fuel + 1, c =>
    let goOn (meant : Char) (taken : Nat) : Option (Text × Cursor × WordEnd) :=
      (quotedWord single fuel (c.skip taken)).map fun (word, last, ending) =>
        (meant :: word, last, ending)
    match c.rest with
    | [] => some ([], c, .gap)
    | d :: rest =>
      if isBlank d || isBreak d then some ([], c, .gap)
      else if single then
        if d = '\'' then
          if rest.head? = some '\'' then goOn '\'' 2 else some ([], c, .quote)
        else goOn d 1
      else if d = '"' then some ([], c, .quote)
      else if d = '\\' then
        match rest with
        | [] => none
        | e :: body =>
          if isBreak e then some ([], (c.skip 1).takeBreak.2, .escapedBreak)
          else
            match namedEscape? e with
            | some meant => goOn meant 2
            | none => do
              let count ← escapeLength? e
              goOn (← readCode count body) (count + 2)
      else goOn d 1

def readQuoted (single : Bool) : Nat → Text → Cursor → Option (Text × Cursor)
  | 0, _, _ => none
  | fuel + 1, text, c =>
    if c.atDocumentMark || c.rest.isEmpty then none
    else do
      let (word, c, ending) ← quotedWord single (c.rest.length + 1) c
      let text := text ++ word
      match ending with
      | .quote => return (text, c.skip 1)
      | .gap =>
        let (gap, c) ← Gap.read none (c.rest.length + 1) Gap.none c
        readQuoted single fuel (text ++ gap.fold) c
      | .escapedBreak =>
        if c.rest.head? = some '"' then return (text, c.skip 1)
        let (gap, c) ← Gap.read none (c.rest.length + 1) { Gap.none with broken := true } c
        readQuoted single fuel (text ++ gap.fold) c

inductive Chomping where
  | strip
  | clip
  | keep
  deriving DecidableEq

structure BlockHeader where
  chomping : Chomping
  increment : Option Nat

def readChomping : Text → Option (Chomping × Text)
  | '+' :: rest => some (.keep, rest)
  | '-' :: rest => some (.strip, rest)
  | _ => none

def readIncrement : Text → Option (Option (Nat × Text))
  | c :: rest =>
    if c = '0' then none
    else if Text.isDigit c then some (some (Text.decimalValue [c], rest))
    else some none
  | [] => some none

-- A sign and a digit, in either order; the digit is not zero.
def readBlockHeader (text : Text) : Option (BlockHeader × Text) := do
  match readChomping text with
  | some (chomping, rest) =>
    match ← readIncrement rest with
    | some (n, rest) => return (⟨chomping, some n⟩, rest)
    | none => return (⟨chomping, none⟩, rest)
  | none =>
    match ← readIncrement text with
    | some (n, rest) =>
      match readChomping rest with
      | some (chomping, rest) => return (⟨chomping, some n⟩, rest)
      | none => return (⟨.clip, some n⟩, rest)
    | none => return (⟨.clip, none⟩, text)

-- Spaces of the indentation and empty lines; `indent` is zero while it is not known. Hands back
-- the deepest column that was reached.
def blockBreaks (indent : Nat) : Nat → Text → Nat → Cursor → Option (Text × Nat × Cursor)
  | 0, breaks, deepest, c => some (breaks, deepest, c)
  | fuel + 1, breaks, deepest, c =>
    let spaces := c.rest.takeWhile (· = ' ')
    let wanted := if indent = 0 then spaces.length else min spaces.length (indent - c.column)
    let c := c.skip wanted
    let deepest := max deepest c.column
    match c.rest with
    | [] => some (breaks, deepest, c)
    | d :: _ =>
      if d = '\t' && (indent = 0 || c.column < indent) then none
      else if isBreak d then
        let (ending, c) := c.takeBreak
        blockBreaks indent fuel (breaks ++ ending) deepest c
      else some (breaks, deepest, c)

structure BlockText where
  text : Text
  lastBreak : Text
  breaks : Text
  lastBlank : Bool

def readBlockLines (isLiteral : Bool) (indent : Nat) : Nat → BlockText → Cursor →
    Option (BlockText × Cursor)
  | 0, b, c => some (b, c)
  | fuel + 1, b, c =>
    if c.column ≠ indent || c.rest.isEmpty then some (b, c)
    else do
      let blank := c.rest.head?.any isBlank
      let joint :=
        if !isLiteral && b.lastBreak = ['\n'] && !b.lastBlank && !blank then
          if b.breaks.isEmpty then [' '] else []
        else b.lastBreak
      let (line, c) := c.takeWhile fun d => !isBreak d
      let (ending, c) := c.takeBreak
      let (breaks, _, c) ← blockBreaks indent (c.rest.length + 1) [] 0 c
      readBlockLines isLiteral indent fuel
        ⟨b.text ++ joint ++ b.breaks ++ line, ending, breaks, blank⟩ c

def readBlock (isLiteral : Bool) (parent : Option Nat) (c : Cursor) : Option (Text × Cursor) := do
  let (header, rest) ← readBlockHeader c.rest
  let c := c.skip (c.rest.length - rest.length)
  let c := c.skipWhile isBlank
  let c := if c.rest.head? = some '#' then c.skipWhile fun d => !isBreak d else c
  if !atLineEnd c.rest then none
  let (_, c) := c.takeBreak
  let given := (header.increment.map fun n => (parent.getD 0) + n).getD 0
  let (breaks, deepest, c) ← blockBreaks given (c.rest.length + 1) [] 0 c
  let least := (parent.map (· + 1)).getD 0
  let indent := if given = 0 then max 1 (max deepest least) else given
  let (b, c) ← readBlockLines isLiteral indent (c.rest.length + 1) ⟨[], [], breaks, false⟩ c
  let ending := match header.chomping with
    | .strip => []
    | .clip => b.lastBreak
    | .keep => b.lastBreak ++ b.breaks
  return (b.text ++ ending, c)

end Typeahead.Yaml
