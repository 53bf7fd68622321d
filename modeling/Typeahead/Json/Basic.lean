import Typeahead.Text.Basic

namespace Typeahead

inductive Json where
  | null
  | bool (b : Bool)
  | number (text : Text)
  | str (text : Text)
  | arr (items : List Json)
  | obj (members : List (Text × Json))

end Typeahead
