import Typeahead.Text.Basic

namespace Typeahead

-- The bytes of a tag, which need not be text.
abbrev YamlTag := List UInt8

def YamlTag.ofAscii (text : Text) : YamlTag := text.map fun c => c.toNat.toUInt8

inductive Yaml where
  | scalar (tag : Option YamlTag) (text : Text) (plain : Bool)
  | seq (tag : Option YamlTag) (items : List Yaml)
  | map (tag : Option YamlTag) (entries : List (Yaml × Yaml))

end Typeahead
