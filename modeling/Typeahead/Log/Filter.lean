import Typeahead.Log.Event
import Typeahead.Log.ValuePattern

namespace Typeahead.Log

-- One that names a span or asks for the value of a field concerns no event by itself.
structure Directive where
  target : Option Text
  span : Option Text
  fields : List Text
  asksValue : Bool
  level : Level
  deriving DecidableEq, Repr

namespace Level

def ofText? (text : Text) : Option Level :=
  match Text.word64? text with
  | some n => all[n]?
  | none => all.find? fun level => level.word.toList = text.map Char.toUpper

end Level

namespace Directive

def isStart (c : Char) : Bool :=
  c = '-' || c = ':' || c = '_' || Unicode.isNameLetter c || Unicode.isNameDigit c

def isBlank (c : Char) : Bool := Unicode.whiteSpace.contains c

def trim (text : Text) : Text :=
  ((text.dropWhile isBlank).reverse.dropWhile isBlank).reverse

-- A part of a directive is walked through without the blanks around it, but what it consists of
-- is cut out of the part with its blanks, at the same offsets.
def cut (part : Text) (start stop : Nat) : Text := Text.slice ⟨start, stop⟩ part

def cutFrom (part : Text) (start : Nat) : Text := cut part start part.bytes

def everything (level : Level) : Directive := ⟨none, none, [], false, level⟩

def readLevel (part : Text) (start : Nat) (d : Directive) : Option Directive := do
  let text := cutFrom part start
  return { d with level := ← if text.isEmpty then some .trace else Level.ofText? text }

def readRest (part : Text) (offset : Nat) (d : Directive) : Text → Option Directive
  | [] => some d
  | '=' :: _ => readLevel part (offset + 1) d
  | _ => none

-- A value is a truth value, a number or a pattern; all of the first two are patterns as well, but
-- for numbers with a plus sign.
def isFieldValue (text : Text) : Bool :=
  isValuePattern text ||
    match text with
    | '+' :: rest => Text.isFloat rest
    | _ => false

def addField (field : Text) (d : Directive) : Option Directive :=
  match field.splitOn '=' with
  | name :: value :: _ =>
    if isFieldValue value then some { d with fields := d.fields ++ [name], asksValue := true }
    else none
  | _ => if field.isEmpty then none else some { d with fields := d.fields ++ [field] }

def readField (part : Text) (start offset : Nat) (d : Directive) : Text → Option Directive
  | [] => none
  | '\x7d' :: ']' :: rest => do
    readRest part (offset + 2) (← addField (cut part start offset) d) rest
  | '\x7d' :: _ => none
  | c :: rest => readField part start (offset + c.utf8Size) d rest

def readSpan (part : Text) (start offset : Nat) (d : Directive) : Text → Option Directive
  | [] => none
  | ']' :: rest => readRest part (offset + 1) { d with span := some (cut part start offset) } rest
  | '\x7b' :: rest =>
    let span := cut part start offset
    readField part (offset + 1) (offset + 1)
      { d with span := if span.isEmpty then none else some span } rest
  | c :: rest => readSpan part start (offset + c.utf8Size) d rest

-- A level by itself is for everything, a target by itself has all levels.
def readTarget (part : Text) (offset : Nat) : Text → Option Directive
  | [] =>
    match Level.ofText? (cutFrom part 0) with
    | some level => some (everything level)
    | none => some { everything .trace with target := some (cutFrom part 0) }
  | '=' :: _ =>
    readLevel part (offset + 1) { everything .trace with target := some (cut part 0 offset) }
  | '[' :: rest =>
    readSpan part (offset + 1) (offset + 1)
      { everything .trace with target := some (cut part 0 offset) } rest
  | c :: rest => readTarget part (offset + c.utf8Size) rest

def read (part : Text) : Option Directive :=
  match trim part with
  | [] => none
  | '[' :: rest => readSpan part 1 1 (everything .trace) rest
  | c :: rest => if isStart c then readTarget part c.utf8Size rest else none

def decides (d : Directive) : Bool := d.span.isNone && !d.asksValue

def concerns (e : Event) (d : Directive) : Bool :=
  (d.target.all fun target => Text.startsWith target e.target.toList)
    && d.fields.all fun name => e.hasField name

def reach (d : Directive) : Nat :=
  match d.target with
  | none => 0
  | some target => target.bytes + 1

-- A longer target, then more fields, then fields later in the order of texts.
def isMoreSpecific (a b : Directive) : Bool :=
  b.reach < a.reach ||
    (a.reach = b.reach && (b.fields.length < a.fields.length ||
      (a.fields.length = b.fields.length && decide (b.fields < a.fields))))

end Directive

structure Filter where
  directives : List Directive

namespace Filter

-- Without any directive errors are shown.
def read (text : Text) : Option Filter := do
  let directives ← ((text.splitOn ',').filter fun part => !part.isEmpty).mapM Directive.read
  return ⟨if directives.isEmpty then [Directive.everything .error] else directives⟩

-- Of two that are equally specific the later one holds.
def mostSpecific? : List Directive → Option Directive
  | [] => none
  | d :: rest =>
    match mostSpecific? rest with
    | none => some d
    | some best => if d.isMoreSpecific best then some d else some best

def shows (f : Filter) (e : Event) : Bool :=
  match mostSpecific? (f.directives.filter fun d => d.decides && d.concerns e) with
  | some d => e.level.rank ≤ d.level.rank
  | none => false

end Filter
end Typeahead.Log
