import Typeahead.Document.Json
import Typeahead.Yaml.Reader

namespace Typeahead.Document

def yamlText? : Yaml → Option Text
  | .scalar _ text _ => some text
  | _ => none

def yamlTexts? : Yaml → Option (List Text)
  | .seq _ items => items.mapM yamlText?
  | .scalar _ [] true => some []
  | _ => none

def isNullWord (text : Text) : Bool :=
  text = "~".toList || text = "null".toList || text = "Null".toList || text = "NULL".toList

def nullTag : YamlTag := .ofAscii "tag:yaml.org,2002:null".toList

-- Is it null? `none` for a scalar that is said to be null and is not.
def yamlIsNull? : Yaml → Option Bool
  | .scalar tag text plain =>
    if !plain then some false
    else
      match tag with
      | none => some (text.isEmpty || isNullWord text)
      | some tag =>
        if tag = nullTag then if isNullWord text then some true else none else some false
  | _ => some false

def yamlOptional? (read : Yaml → Option α) : Option Yaml → Option (Option α)
  | none => some none
  | some value => do
    if ← yamlIsNull? value then return none
    return some (← read value)

def isLocalTag : Option YamlTag → Bool
  | some (first :: name) =>
    first = '!'.toNat.toUInt8 && (String.fromUTF8? ⟨name.toArray⟩).isSome
  | _ => false

def yamlKeys? (entries : List (Yaml × Yaml)) : Option (List Text) :=
  entries.mapM fun (key, _) => yamlText? key

def yamlFields? (keys : List Text) (entries : List (Yaml × Yaml)) :
    Option (List (Text × Yaml)) := do
  let found ← yamlKeys? entries
  if keysAmong keys found then some (found.zip (entries.map Prod.snd)) else none

def yamlVariable? (fields : List (Text × Yaml)) (body : Definition) : Option Definition := do
  let name ← yamlText? (← fields.lookup "name".toList)
  let tag ← yamlOptional? yamlText? (fields.lookup "tag".toList)
  let completions ← yamlOptional? yamlTexts? (fields.lookup "completions".toList)
  return .var name body tag completions

mutual
def definitionOfYaml? : Yaml → Option Definition
  | .map tag [(key, value)] =>
    if isLocalTag tag then none
    else do
      let key ← yamlText? key
      if key = "seq".toList then return .seq (← definitionsOfYaml? value)
      else if key = "alt".toList then return .alt (← definitionsOfYaml? value)
      else if key = "literal".toList then return .literal (← yamlText? value)
      else if key = "class".toList then return .charClass (← yamlText? value)
      else if key = "repeat".toList then return .repetition (← definitionOfYaml? value)
      else if key = "var".toList then variableOfYaml? value
      else none
  | _ => none

def definitionsOfYaml? : Yaml → Option (List Definition)
  | .seq _ items => definitionListOfYaml? items
  | .scalar _ [] true => some []
  | _ => none

def definitionListOfYaml? : List Yaml → Option (List Definition)
  | [] => some []
  | item :: rest => return (← definitionOfYaml? item) :: (← definitionListOfYaml? rest)

def variableOfYaml? : Yaml → Option Definition
  | .map _ entries => do
    yamlVariable? (← yamlFields? variableKeys entries) (← bodyOfEntries? entries)
  | _ => none

def bodyOfEntries? : List (Yaml × Yaml) → Option Definition
  | [] => none
  | (key, value) :: rest =>
    if yamlText? key = some "node".toList then definitionOfYaml? value else bodyOfEntries? rest
end

def ofYaml? : Yaml → Option Document
  | .map _ entries => do
    let fields ← yamlFields? documentKeys entries
    let description ← yamlOptional? yamlText? (fields.lookup "description".toList)
    return ⟨description, ← definitionOfYaml? (← fields.lookup "grammar".toList)⟩
  | _ => none

def readYaml? (text : Text) : Option Document := do ofYaml? (← Yaml.read? text)

end Typeahead.Document
