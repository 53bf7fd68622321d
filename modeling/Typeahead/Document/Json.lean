import Typeahead.Document.Basic
import Typeahead.Json.Reader

namespace Typeahead.Document

def jsonText? : Json → Option Text
  | .str text => some text
  | _ => none

def jsonOptionalText? : Option Json → Option (Option Text)
  | none => some none
  | some .null => some none
  | some (.str text) => some (some text)
  | _ => none

def jsonOptionalTexts? : Option Json → Option (Option (List Text))
  | none => some none
  | some .null => some none
  | some (.arr items) => (items.mapM jsonText?).map some
  | _ => none

def keysAmong (keys : List Text) : List Text → Bool
  | [] => true
  | key :: rest => keys.contains key && !rest.contains key && keysAmong keys rest

def variableKeys : List Text :=
  ["name".toList, "node".toList, "tag".toList, "completions".toList]

def documentKeys : List Text := ["description".toList, "grammar".toList]

def jsonVariable? (name : Option Json) (body : Definition) (tag completions : Option Json) :
    Option Definition := do
  let name ← jsonText? (← name)
  return .var name body (← jsonOptionalText? tag) (← jsonOptionalTexts? completions)

mutual
def definitionOfJson? : Json → Option Definition
  | .obj [(key, .arr items)] =>
    if key = "seq".toList then (definitionsOfJson? items).map .seq
    else if key = "alt".toList then (definitionsOfJson? items).map .alt
    else if key = "var".toList then
      match items with
      | name :: body :: more =>
        if more.length ≤ 2 then do
          jsonVariable? (some name) (← definitionOfJson? body) more[0]? more[1]?
        else none
      | _ => none
    else none
  | .obj [(key, .str text)] =>
    if key = "literal".toList then some (.literal text)
    else if key = "class".toList then some (.charClass text)
    else none
  | .obj [(key, .obj members)] =>
    if key = "repeat".toList then (definitionOfJson? (.obj members)).map .repetition
    else if key = "var".toList then
      if keysAmong variableKeys (members.map Prod.fst) then do
        jsonVariable? (members.lookup "name".toList) (← bodyOfMembers? members)
          (members.lookup "tag".toList) (members.lookup "completions".toList)
      else none
    else none
  | _ => none

def definitionsOfJson? : List Json → Option (List Definition)
  | [] => some []
  | item :: rest => do return (← definitionOfJson? item) :: (← definitionsOfJson? rest)

def bodyOfMembers? : List (Text × Json) → Option Definition
  | [] => none
  | (key, value) :: rest =>
    if key = "node".toList then definitionOfJson? value else bodyOfMembers? rest
end

def ofJson? : Json → Option Document
  | .obj members =>
    if keysAmong documentKeys (members.map Prod.fst) then do
      return ⟨← jsonOptionalText? (members.lookup "description".toList),
        ← definitionOfJson? (← members.lookup "grammar".toList)⟩
    else none
  | .arr [description, grammar] => do
    return ⟨← jsonOptionalText? (some description), ← definitionOfJson? grammar⟩
  | _ => none

def readJson? (text : Text) : Option Document := do ofJson? (← Json.read? text)

end Typeahead.Document
