import Typeahead.Pattern.Reader
import Typeahead.Text.Basic

namespace Typeahead

inductive ClassError where
  | empty
  | notAClass (text : Text)
  | quantified (text : Text) (quantifier : Char)
  | malformed (text : Text) (cause : Pattern.ReadError)
  | unknownName (name : Text)
  deriving DecidableEq

structure CharClass where
  text : Text
  deriving DecidableEq, Repr

namespace CharClass

-- The byte offset of the bracket that closes the one the text begins with. A bracket right after
-- an opening one, or after the `^` that may follow it, stands for itself; escapes are skipped.
def closingBracket? (depth : Nat) (atStart : Bool) (offset : Nat) : Text → Option Nat
  | [] => none
  | '\\' :: [] => none
  | '\\' :: c :: rest => closingBracket? depth false (offset + 1 + c.utf8Size) rest
  | c :: rest =>
    if c = '[' then closingBracket? (depth + 1) true (offset + 1) rest
    else if c = '^' && atStart then closingBracket? depth true (offset + 1) rest
    else if c = ']' && !atStart then
      if depth ≤ 1 then some offset else closingBracket? (depth - 1) false (offset + 1) rest
    else closingBracket? depth false (offset + c.utf8Size) rest

def firstByteOf? (c : Char) : Text → Option Nat
  | [] => none
  | d :: rest => if d = c then some 0 else (firstByteOf? c rest).map (· + d.utf8Size)

def isPunctuation (c : Char) : Bool :=
  0x21 ≤ c.toNat && c.toNat ≤ 0x7e && !c.isAlphanum

def atomBytes (text : Text) : Except ClassError Nat :=
  match text with
  | [] => .error .empty
  | '.' :: _ => .ok 1
  | '[' :: _ =>
    match closingBracket? 0 false 0 text with
    | some offset => .ok (offset + 1)
    | none => .error (.notAClass text)
  | '\\' :: c :: rest =>
    if "sSdDwW".toList.contains c then .ok 2
    else if c = 'p' ∨ c = 'P' then
      match rest with
      | '{' :: _ =>
        match firstByteOf? '}' text with
        | some offset => .ok (offset + 1)
        | none => .error (.notAClass text)
      | d :: _ =>
        if Unicode.isNameLetter d then .ok (2 + d.utf8Size) else .error (.notAClass text)
      | [] => .error (.notAClass text)
    else if isPunctuation c then .ok 2
    else .error (.notAClass text)
  | _ => .error (.notAClass text)

def quantifiers : List Char := ['*', '?', '+', '{']

def defaultNestLimit : Nat := 250

-- A class is one atom and nothing after it, and a pattern of its own.
def ofText (text : Text) : Except ClassError CharClass := do
  let bytes ← atomBytes text
  match Text.splitAtByte? bytes text with
  | some (_, c :: _) =>
    if quantifiers.contains c then .error (.quantified text c) else .error (.notAClass text)
  | none => .error (.notAClass text)
  | some (_, []) =>
    match Pattern.readWithin defaultNestLimit text with
    | .ok _ => .ok ⟨text⟩
    | .error cause => .error (.malformed text cause)

def escape (c : Char) : Text := if Pattern.isMeta c then ['\\', c] else [c]

def escapeAll (chars : Text) : Text := chars.flatMap escape

def literal (c : Char) : CharClass := ⟨'[' :: escape c ++ [']']⟩

def anyOf (chars : Text) : Except ClassError CharClass :=
  if chars.isEmpty then .error .empty else .ok ⟨'[' :: escapeAll chars ++ [']']⟩

def noneOf (chars : Text) : Except ClassError CharClass :=
  if chars.isEmpty then .error .empty else .ok ⟨'[' :: '^' :: escapeAll chars ++ [']']⟩

def namedClasses : List (Text × Text) :=
  [("alnum".toList, "[[:alnum:]]".toList),
   ("alpha".toList, "[[:alpha:]]".toList),
   ("any".toList, "[\\s\\S]".toList),
   ("digit".toList, "[0-9]".toList),
   ("non-whitespace".toList, "[^\\s]".toList),
   ("whitespace".toList, "[\\s]".toList),
   ("word".toList, "[\\w]".toList)]

def names : List Text := namedClasses.map Prod.fst

def named (name : Text) : Except ClassError CharClass :=
  match namedClasses.lookup name with
  | some text => .ok ⟨text⟩
  | none => .error (.unknownName name)

def whitespace : CharClass := ⟨"[\\s]".toList⟩

end CharClass

-- The wording of a refusal; what the pattern reader has to say follows the last colon.
def ClassError.message : ClassError → String
  | .empty => "character class expression is empty"
  | .notAClass text => "\x60" ++ String.ofList text ++ "\x60 is not a single character class"
  | .quantified text c =>
    "quantifier \x60" ++ c.toString ++ "\x60 is not allowed in character class \x60"
      ++ String.ofList text ++ "\x60"
  | .malformed text _ => "character class \x60" ++ String.ofList text ++ "\x60 is malformed:"
  | .unknownName name => "unknown character class name \x60" ++ String.ofList name ++ "\x60"

end Typeahead
