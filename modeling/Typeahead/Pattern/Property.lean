import Typeahead.Unicode.Alphabetic
import Typeahead.Unicode.Blank
import Typeahead.Unicode.Letter
import Typeahead.Unicode.Number
import Typeahead.Unicode.Punctuation
import Typeahead.Unicode.Script
import Typeahead.Unicode.Word

namespace Typeahead.Pattern

def letterEscape? : Char → Option CharSet
  | 'd' => some Unicode.decimalDigits
  | 'D' => some Unicode.decimalDigits.complement
  | 's' => some Unicode.whiteSpace
  | 'S' => some Unicode.whiteSpace.complement
  | 'w' => some Unicode.word
  | 'W' => some Unicode.word.complement
  | _ => none

def asciiRuns (name : String) : Option (List (Char × Char)) :=
  match name with
  | "alnum" => some [('0', '9'), ('A', 'Z'), ('a', 'z')]
  | "alpha" => some [('A', 'Z'), ('a', 'z')]
  | "ascii" => some [('\x00', '\x7f')]
  | "blank" => some [('\t', '\t'), (' ', ' ')]
  | "cntrl" => some [('\x00', '\x1f'), ('\x7f', '\x7f')]
  | "digit" => some [('0', '9')]
  | "graph" => some [('!', '~')]
  | "lower" => some [('a', 'z')]
  | "print" => some [(' ', '~')]
  | "punct" => some [('!', '/'), (':', '@'), ('[', '\x60'), ('\x7b', '~')]
  | "space" => some [('\t', '\r'), (' ', ' ')]
  | "upper" => some [('A', 'Z')]
  | "word" => some [('0', '9'), ('A', 'Z'), ('_', '_'), ('a', 'z')]
  | "xdigit" => some [('0', '9'), ('A', 'F'), ('a', 'f')]
  | _ => none

def asciiClass? (name : List Char) : Option CharSet :=
  (asciiRuns (String.ofList name)).map fun runs =>
    ⟨runs.map fun run => (run.1.toNat, run.2.toNat)⟩

-- Property names are compared in small letters, without blanks, dashes and underscores, without
-- characters outside ASCII, and without a leading `is`.
def looseName (name : List Char) : List Char :=
  let name := match name with
    | a :: b :: rest => if a.toLower = 'i' ∧ b.toLower = 's' then rest else name
    | _ => name
  (name.filter fun c => c.toNat ≤ 0x7f && c ≠ ' ' && c ≠ '_' && c ≠ '-').map Char.toLower

-- These categories are known, and two scripts and two properties; a text with another is refused.
def category? (name : List Char) : Option CharSet :=
  match String.ofList (looseName name) with
  | "any" => some .full
  | "ascii" => some (.range '\x00' '\x7f')
  | "l" | "letter" => some Unicode.letters
  | "lu" | "uppercaseletter" => some Unicode.upperCaseLetters
  | "ll" | "lowercaseletter" => some Unicode.lowerCaseLetters
  | "n" | "number" => some Unicode.numbers
  | "nd" | "decimalnumber" | "digit" => some Unicode.decimalDigits
  | "p" | "punctuation" | "punct" => some Unicode.punctuation
  | _ => none

def script? (name : List Char) : Option CharSet :=
  match String.ofList (looseName name) with
  | "greek" | "grek" => some Unicode.greek
  | "cyrillic" | "cyrl" => some Unicode.cyrillic
  | _ => none

def binary? (name : List Char) : Option CharSet :=
  match String.ofList (looseName name) with
  | "alphabetic" | "alpha" => some Unicode.alphabetic
  | "whitespace" | "wspace" | "space" => some Unicode.whiteSpace
  | _ => none

-- A lone name is looked for among the properties, then the categories, then the scripts.
def property? (name : List Char) : Option CharSet :=
  binary? name <|> category? name <|> script? name

-- `name=value`: the category or the script so called.
def propertyValue? (name value : List Char) : Option CharSet :=
  match String.ofList (looseName name) with
  | "gc" | "generalcategory" => category? value
  | "sc" | "script" => script? value
  | _ => none

def splitAt? (sep : Char) : List Char → Option (List Char × List Char)
  | [] => none
  | c :: rest =>
    if c = sep then some ([], rest) else (splitAt? sep rest).map fun (a, b) => (c :: a, b)

def splitAtNotEqual? : List Char → Option (List Char × List Char)
  | [] => none
  | '!' :: '=' :: rest => some ([], rest)
  | c :: rest => (splitAtNotEqual? rest).map fun (a, b) => (c :: a, b)

-- What stands between the braces of `\p{...}`; `!=` is tried before `:` and `=`.
def bracedProperty? (text : List Char) : Option CharSet :=
  match splitAtNotEqual? text with
  | some (name, value) => (propertyValue? name value).map CharSet.complement
  | none =>
    match splitAt? ':' text with
    | some (name, value) => propertyValue? name value
    | none =>
      match splitAt? '=' text with
      | some (name, value) => propertyValue? name value
      | none => property? text

end Typeahead.Pattern
