import Typeahead.Command.Help
import Typeahead.Command.Report
import Typeahead.Document.Format
import Typeahead.Log.Filter
import Typeahead.Settings.Basic

namespace Typeahead.Command

inductive Failure where
  | settings (cause : SettingsError)
  | logFilter
  | file (path : Text) (cause : FileError)
  | document (cause : DocumentError)
  | definition (cause : DefinitionError)
  | compile (cause : CompileError)

def Failure.message : Failure → Text
  | .settings cause => cause.message.toList
  | .logFilter => "invalid log filter:".toList
  | .file path cause =>
    "failed to read grammar document ".toList ++ path ++ ": ".toList ++ cause.message.toList
  | .document cause => cause.message.toList
  | .definition cause => cause.message.toList
  | .compile cause => cause.message.toList

structure Answer where
  report : Json
  accepted : Bool

-- Events are kept even if what follows them fails.
abbrev Running := ExceptT Failure (StateM (List Log.Event))

def note (e : Log.Event) : Running Unit := modify (· ++ [e])

def orFail (failure : ε → Failure) : Except ε α → Running α
  | .ok a => return a
  | .error cause => throw (failure cause)

def noteCompiled : Except CompileError Grammar → Running Unit
  | .ok g => note (.compiled g)
  | .error (.badTree cause) => note (.badTree cause)
  | .error cause => note (.badPattern cause)

def loadGrammar (files : Files) (limits : Limits) (path : Text) : Running Grammar := do
  let text ← orFail (.file path) (files path)
  let document ← orFail .document (Document.read (.ofPath path) text)
  note (.loaded path)
  let (root, _) ← orFail .definition (document.grammar.toNode.run 0)
  let compiled := Grammar.compile limits root
  noteCompiled compiled
  orFail .compile compiled

-- A text that was not accepted was last held against the pattern that was asked for.
def noteMatched (mode : Mode) (input : Text) (found : Option Match) : Running Unit :=
  let complete := match found with
    | some m => m.complete
    | none => mode = .whole
  note (.matched mode input found.isSome complete)

def answer (g : Grammar) : Task → Running Answer
  | .patterns => return ⟨patternsReport g, true⟩
  | .matching started input => do
    let mode := if started then Mode.started else Mode.whole
    let found := g.matchWith mode input
    noteMatched mode input found
    return ⟨matchReport mode found, found.isSome⟩
  | .complete input => do
    noteMatched .started input (g.matchStarted input)
    return ⟨completionsReport (g.complete input), true⟩

structure Outcome where
  status : Nat
  output : Text
  log : List Text
  complaint : Option Text
  deriving DecidableEq, Repr

namespace Outcome

def printed (text : Text) : Outcome := ⟨0, text, [], none⟩

def misused (cause : UsageError) : Outcome :=
  ⟨2, [], [], some ("error: " ++ cause.message).toList⟩

def failed (log : List Text) (failure : Failure) : Outcome :=
  ⟨1, [], log, some ("Error: ".toList ++ failure.message)⟩

def answered (log : List Text) (answer : Answer) : Outcome :=
  ⟨if answer.accepted then 0 else 1, answer.report.pretty 0 ++ ['\n'], log, none⟩

end Outcome

def Order.paths (order : Order) : List Text :=
  order.grammar :: match order.config with
    | none => []
    | some path => [path, path ++ Settings.fileEnding]

def settingsFor (files : Files) (order : Order) : Except SettingsError Settings :=
  let overrides := order.logFilter.map fun filter => ("log.filter".toList, Setting.text filter)
  Settings.load files order.config overrides.toList

def carryOut (files : Files) (order : Order) : Outcome :=
  match settingsFor files order with
  | .error cause => .failed [] (.settings cause)
  | .ok settings =>
    match Log.Filter.read settings.logFilter with
    | none => .failed [] .logFilter
    | some filter =>
      let running := do answer (← loadGrammar files settings.limits order.grammar) order.task
      let (result, events) := running.run.run []
      let log := (events.filter filter.shows).map Log.Event.line
      match result with
      | .error failure => .failed log failure
      | .ok answer => .answered log answer

def run (files : Files) : Request → Outcome
  | .help task => .printed (helpText task)
  | .version => .printed versionText
  | .run order => carryOut files order

def runArguments (files : Files) (arguments : List Text) : Outcome :=
  match Request.ofArguments arguments with
  | .error cause => .misused cause
  | .ok request => run files request

end Typeahead.Command
