import Typeahead.Binary64.Basic
import Typeahead.Text.Basic

namespace Typeahead

inductive Toml where
  | string (text : Text)
  | integer (n : Int)
  | float (x : Binary64)
  | boolean (b : Bool)
  | moment (text : Text)
  | array (items : List Toml)
  | table (entries : List (Text × Toml))

namespace Toml

def isBlank (c : Char) : Bool := c = ' ' || c = '\t'

def skipBlanks (text : Text) : Text := text.dropWhile isBlank

def isPlain (c : Char) : Bool := c = '\t' || 0x20 ≤ c.toNat && c.toNat ≠ 0x7f

def readBreak? : Text → Option Text
  | '\n' :: rest => some rest
  | '\r' :: '\n' :: rest => some rest
  | _ => none

def skipComment : Text → Text
  | '#' :: rest => rest.dropWhile isPlain
  | text => text

-- Nothing but blanks and a comment may come before the end of a line.
def readLineEnd? (text : Text) : Option Text :=
  match skipComment (skipBlanks text) with
  | [] => some []
  | rest => readBreak? rest

end Toml
end Typeahead
