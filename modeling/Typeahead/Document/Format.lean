import Typeahead.Document.Yaml

namespace Typeahead

inductive DocumentFormat where
  | yaml
  | json
  deriving DecidableEq, Repr

namespace DocumentFormat

def components (path : Text) : List Text :=
  (path.splitOn '/').filter fun part => !part.isEmpty && part ≠ ['.']

-- What follows the last dot of a name, unless the dot comes first. Two dots name no file.
def extension? (name : Text) : Option Text :=
  if name = ['.', '.'] then none
  else
    let behind := name.reverse.takeWhile (· ≠ '.')
    if name.length ≤ behind.length + 1 then none else some behind.reverse

def ofPath (path : Text) : DocumentFormat :=
  match (components path).getLast?.bind extension? with
  | some ext => if ext.map Char.toLower = "json".toList then .json else .yaml
  | none => .yaml

end DocumentFormat

inductive DocumentError where
  | unreadable (format : DocumentFormat)
  deriving DecidableEq

def DocumentFormat.word : DocumentFormat → String
  | .yaml => "YAML"
  | .json => "JSON"

-- What the reader of the format has to say follows the last colon.
def DocumentError.message : DocumentError → String
  | .unreadable format => "invalid " ++ format.word ++ " grammar document:"

namespace Document

def read (format : DocumentFormat) (text : Text) : Except DocumentError Document :=
  let found := match format with
    | .json => readJson? text
    | .yaml => readYaml? text
  match found with
  | some document => .ok document
  | none => .error (.unreadable format)

end Document
end Typeahead
