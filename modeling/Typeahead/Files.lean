import Typeahead.Text.Basic

namespace Typeahead

inductive FileError where
  | missing
  | isDirectory
  | forbidden
  | notText
  | other (reason : Text)
  deriving DecidableEq, Repr

def FileError.message : FileError → String
  | .missing => "No such file or directory (os error 2)"
  | .isDirectory => "Is a directory (os error 21)"
  | .forbidden => "Permission denied (os error 13)"
  | .notText => "stream did not contain valid UTF-8"
  | .other reason => String.ofList reason

abbrev Files := Text → Except FileError Text

end Typeahead
