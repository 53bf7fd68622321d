import Typeahead.Main
import Typeahead.Node.Inspect
import Typeahead.Proofs.CharClass.Brackets
import Typeahead.Proofs.CharClass.OneCharacter
import Typeahead.Proofs.CharClass.Unbroken
import Typeahead.Proofs.Document.Json
import Typeahead.Proofs.Document.Meaning
import Typeahead.Proofs.Grammar.Boundary
import Typeahead.Proofs.Grammar.Completing
import Typeahead.Proofs.Grammar.Correspondence
import Typeahead.Proofs.Grammar.Cuts
import Typeahead.Proofs.Grammar.Faults
import Typeahead.Proofs.Grammar.Innermost
import Typeahead.Proofs.Grammar.Latest
import Typeahead.Proofs.Grammar.Laws
import Typeahead.Proofs.Grammar.Nesting
import Typeahead.Proofs.Grammar.Rounds
import Typeahead.Proofs.Grammar.Tables
import Typeahead.Proofs.Grammar.Trailing
import Typeahead.Proofs.Grammar.Written
import Typeahead.Proofs.Node.Growth
import Typeahead.Proofs.Node.Recording
