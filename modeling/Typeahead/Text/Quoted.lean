import Typeahead.Text.Basic
import Typeahead.Unicode.Display

namespace Typeahead.Text

def hexDigits (n : Nat) : Text := Nat.toDigits 16 n

def isShown (c : Char) : Bool := !Unicode.unseen.contains c && !Unicode.graphemeExtend.contains c

def quoteChar : Char → Text
  | '"' => ['\\', '"']
  | '\\' => ['\\', '\\']
  | '\n' => ['\\', 'n']
  | '\t' => ['\\', 't']
  | '\r' => ['\\', 'r']
  | '\x00' => ['\\', '0']
  | c =>
    if 0x20 ≤ c.toNat ∧ c.toNat < 0x7f ∨ 0x7f < c.toNat ∧ isShown c then [c]
    else '\\' :: 'u' :: '\x7b' :: hexDigits c.toNat ++ ['\x7d']

def quoted (text : Text) : Text := '"' :: text.flatMap quoteChar ++ ['"']

end Typeahead.Text
