import Typeahead.Json.Basic

namespace Typeahead.Json

def escapeChar : Char → Text
  | '"' => ['\\', '"']
  | '\\' => ['\\', '\\']
  | '\x08' => ['\\', 'b']
  | '\x0c' => ['\\', 'f']
  | '\n' => ['\\', 'n']
  | '\r' => ['\\', 'r']
  | '\t' => ['\\', 't']
  | c =>
    if c.toNat < 0x20 then
      ['\\', 'u', '0', '0', Nat.digitChar (c.toNat / 16), Nat.digitChar (c.toNat % 16)]
    else [c]

def quoted (text : Text) : Text := '"' :: text.flatMap escapeChar ++ ['"']

def margin (level : Nat) : Text := '\n' :: List.replicate (2 * level) ' '

mutual
def pretty (level : Nat) : Json → Text
  | .null => "null".toList
  | .bool b => (if b then "true" else "false").toList
  | .number text => text
  | .str text => quoted text
  | .arr [] => "[]".toList
  | .arr (item :: rest) =>
    '[' :: margin (level + 1) ++ pretty (level + 1) item ++ prettyItems level rest
      ++ margin level ++ [']']
  | .obj [] => ['\x7b', '\x7d']
  | .obj ((key, value) :: rest) =>
    '\x7b' :: margin (level + 1) ++ quoted key ++ ": ".toList ++ pretty (level + 1) value
      ++ prettyMembers level rest ++ margin level ++ ['\x7d']

def prettyItems (level : Nat) : List Json → Text
  | [] => []
  | item :: rest =>
    ',' :: margin (level + 1) ++ pretty (level + 1) item ++ prettyItems level rest

def prettyMembers (level : Nat) : List (Text × Json) → Text
  | [] => []
  | (key, value) :: rest =>
    ',' :: margin (level + 1) ++ quoted key ++ ": ".toList ++ pretty (level + 1) value
      ++ prettyMembers level rest
end

end Typeahead.Json
