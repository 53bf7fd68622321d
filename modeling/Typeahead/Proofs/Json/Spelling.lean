import Typeahead.Json.Basic

namespace Typeahead.Json

def blanks : List Char := [' ', '\t', '\n', '\r']

def Blank (gap : Text) : Prop := ∀ c ∈ gap, c ∈ blanks

instance (gap : Text) : Decidable (Blank gap) := List.decidableBAll (· ∈ blanks) gap

-- A digit of base sixteen, small or capital.
def HexDigit (value : Nat) (c : Char) : Prop :=
  c = Nat.digitChar value ∨ c = (Nat.digitChar value).toUpper

-- A number of sixteen bits.
inductive HexUnit : Nat → Text → Prop
  | digits (small : n < 0x10000) (first : HexDigit (n / 0x1000) a) (second : HexDigit (n / 0x100 % 0x10) b)
      (third : HexDigit (n / 0x10 % 0x10) c) (fourth : HexDigit (n % 0x10) d) : HexUnit n [a, b, c, d]

-- What may follow a backslash alone, with the character that it stands for.
def shortEscapes : List (Char × Char) :=
  [('"', '"'), ('\\', '\\'), ('/', '/'), ('b', '\x08'), ('f', '\x0c'), ('n', '\n'), ('r', '\r'), ('t', '\t')]

-- The two halves of a character above sixteen bits.
def highHalf (c : Char) : Nat := 0xd800 + (c.toNat - 0x10000) / 0x400

def lowHalf (c : Char) : Nat := 0xdc00 + (c.toNat - 0x10000) % 0x400

inductive SpellsChar : Char → Text → Prop
  | plain (shown : 0x20 ≤ c.toNat) (noQuote : c ≠ '"') (noEscape : c ≠ '\\') : SpellsChar c [c]
  | short (known : (sign, c) ∈ shortEscapes) : SpellsChar c ['\\', sign]
  | unit (small : c.toNat < 0x10000) (hex : HexUnit c.toNat digits) : SpellsChar c ('\\' :: 'u' :: digits)
  | pair (large : 0x10000 ≤ c.toNat) (high : HexUnit (highHalf c) digits)
      (low : HexUnit (lowHalf c) others) :
      SpellsChar c ('\\' :: 'u' :: digits ++ '\\' :: 'u' :: others)

-- What stands between the quotes.
inductive SpellsText : Text → Text → Prop
  | nil : SpellsText [] []
  | cons (first : SpellsChar c spelled) (others : SpellsText text written) :
      SpellsText (c :: text) (spelled ++ written)

def Digits (text : Text) : Prop := text ≠ [] ∧ ∀ c ∈ text, c.isDigit = true

inductive Whole : Text → Prop
  | zero : Whole ['0']
  | digits (digits : Digits text) (noZero : text.head? ≠ some '0') : Whole text

inductive Fraction : Text → Prop
  | none : Fraction []
  | digits (digits : Digits text) : Fraction ('.' :: text)

inductive Exponent : Text → Prop
  | none : Exponent []
  | digits (letter : e ∈ ['e', 'E']) (sign : signs ∈ [[], ['+'], ['-']]) (digits : Digits text) :
      Exponent (e :: signs ++ text)

inductive IsNumber : Text → Prop
  | parts (sign : signs ∈ [[], ['-']]) (whole : Whole a) (fraction : Fraction b) (exponent : Exponent c) :
      IsNumber (signs ++ a ++ b ++ c)

mutual
inductive Spells : Json → Text → Prop
  | null : Spells .null "null".toList
  | yes : Spells (.bool true) "true".toList
  | no : Spells (.bool false) "false".toList
  | number (number : IsNumber text) : Spells (.number text) text
  | str (inside : SpellsText text written) : Spells (.str text) ('"' :: written ++ ['"'])
  | noItems (gap : Blank a) : Spells (.arr []) ('[' :: a ++ [']'])
  | items (inside : SpellsItems items written) : Spells (.arr items) ('[' :: written ++ [']'])
  | noMembers (gap : Blank a) : Spells (.obj []) ('\x7b' :: a ++ ['\x7d'])
  | members (inside : SpellsMembers members written) : Spells (.obj members) ('\x7b' :: written ++ ['\x7d'])

inductive SpellsItems : List Json → Text → Prop
  | last (before : Blank a) (first : Spells item written) (behind : Blank b) :
      SpellsItems [item] (a ++ written ++ b)
  | cons (before : Blank a) (first : Spells item written) (behind : Blank b)
      (others : SpellsItems items more) : SpellsItems (item :: items) (a ++ written ++ b ++ ',' :: more)

inductive SpellsMember : Text → Json → Text → Prop
  | parts (before : Blank a) (key : SpellsText name inside) (behind : Blank b) (after : Blank c)
      (content : Spells value written) (last : Blank d) :
      SpellsMember name value (a ++ '"' :: inside ++ '"' :: b ++ ':' :: c ++ written ++ d)

inductive SpellsMembers : List (Text × Json) → Text → Prop
  | last (member : SpellsMember name value written) : SpellsMembers [(name, value)] written
  | cons (member : SpellsMember name value written) (others : SpellsMembers members more) :
      SpellsMembers ((name, value) :: members) (written ++ ',' :: more)
end

-- A text that writes a value and nothing else.
inductive TextOf : Json → Text → Prop
  | parts (before : Blank a) (content : Spells value written) (behind : Blank b) :
      TextOf value (a ++ written ++ b)

theorem Blank.none : Blank [] := fun _ nothing => nomatch nothing

-- Quotes, backslashes and control characters have to be escaped.
def isPlain (c : Char) : Bool := 0x20 ≤ c.toNat && c ≠ '"' && c ≠ '\\'

theorem SpellsText.plain {text : Text} (shown : text.all isPlain = true) : SpellsText text text := by
  induction text with
  | nil => exact .nil
  | cons c text ih =>
    rw [List.all_cons, Bool.and_eq_true] at shown
    obtain ⟨here, others⟩ := shown
    simp only [isPlain, Bool.and_eq_true, decide_eq_true_eq] at here
    exact .cons (.plain here.1.1 here.1.2 here.2) (ih others)

theorem SpellsMember.tight {name : Text} (shown : name.all isPlain = true)
    (content : Spells value written) :
    SpellsMember name value ('"' :: name ++ '"' :: ':' :: written) := by
  have parts := SpellsMember.parts .none (.plain shown) .none .none content .none
  simpa only [List.append_assoc, List.append_nil, List.nil_append, List.cons_append] using parts

-- How many brackets and braces are open at a time.
mutual
def depth : Json → Nat
  | .arr items => depthOfItems items + 1
  | .obj members => depthOfMembers members + 1
  | _ => 0

def depthOfItems : List Json → Nat
  | [] => 0
  | item :: rest => max (depth item) (depthOfItems rest)

def depthOfMembers : List (Text × Json) → Nat
  | [] => 0
  | (_, value) :: rest => max (depth value) (depthOfMembers rest)
end

end Typeahead.Json
