import Typeahead.Node.Basic
import Typeahead.Text.Quoted

namespace Typeahead.Node

def commaSeparated : List Text → Text
  | [] => []
  | [text] => text
  | text :: rest => text ++ ", ".toList ++ commaSeparated rest

mutual
def inspect : Node → Text
  | .sequence _ (some text) _ => "Literal(".toList ++ Text.quoted text ++ ")".toList
  | .sequence _ none nodes =>
    "Sequence([".toList ++ commaSeparated (inspectAll nodes) ++ "])".toList
  | .any _ nodes => "Any([".toList ++ commaSeparated (inspectAll nodes) ++ "])".toList
  | .single _ c => "CharClass(".toList ++ Text.quoted c.text ++ ")".toList
  | .var _ info child =>
    "Variable \x7b name: ".toList ++ Text.quoted info.name ++ ", child: ".toList ++ inspect child
      ++ ", tag: ".toList
      ++ (match info.tag with
          | none => "None".toList
          | some tag => "Some(".toList ++ Text.quoted tag ++ ")".toList)
      ++ ", completer: ".toList ++ (if info.completer.isSome then "true" else "false").toList
      ++ " \x7d".toList
  | .repetition _ child => "Repeat(".toList ++ inspect child ++ ")".toList

def inspectAll : List Node → List Text
  | [] => []
  | node :: rest => inspect node :: inspectAll rest
end

end Typeahead.Node
