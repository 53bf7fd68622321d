import Typeahead.Text.Basic

namespace Typeahead.Command

inductive TaskName where
  | patterns
  | matching
  | complete
  deriving DecidableEq, Repr

def TaskName.word : TaskName → String
  | .patterns => "patterns"
  | .matching => "match"
  | .complete => "complete"

def TaskName.all : List TaskName := [.patterns, .matching, .complete]

inductive Flag where
  | config
  | logFilter
  | started
  | help
  | version
  deriving DecidableEq, Repr

namespace Flag

def takesValue : Flag → Bool
  | .config => true
  | .logFilter => true
  | _ => false

def long : Flag → String
  | .config => "config"
  | .logFilter => "log-filter"
  | .started => "prefix"
  | .help => "help"
  | .version => "version"

def short? : Flag → Option Char
  | .config => some 'c'
  | .logFilter => none
  | .started => some 'p'
  | .help => some 'h'
  | .version => some 'V'

-- What may be said before the name of the task, and after it.
def allowed : Option TaskName → List Flag
  | none => [.config, .logFilter, .help, .version]
  | some .matching => [.started, .config, .logFilter, .help]
  | some _ => [.config, .logFilter, .help]

def ofLong? (task : Option TaskName) (name : Text) : Option Flag :=
  (allowed task).find? fun flag => flag.long.toList = name

def ofShort? (task : Option TaskName) (c : Char) : Option Flag :=
  (allowed task).find? fun flag => flag.short? = some c

end Flag

inductive UsageError where
  | unknownFlag (argument : Text)
  | repeatedFlag (flag : Flag)
  | missingValue (flag : Flag)
  | unexpectedValue (flag : Flag)
  | unknownTask (argument : Text)
  | missingTask
  | unexpectedArgument (argument : Text)
  | missingArgument (task : TaskName)
  deriving DecidableEq, Repr

inductive Task where
  | patterns
  | matching (started : Bool) (input : Text)
  | complete (input : Text)
  deriving DecidableEq, Repr

structure Order where
  config : Option Text
  logFilter : Option Text
  grammar : Text
  task : Task
  deriving DecidableEq, Repr

inductive Request where
  | run (order : Order)
  | help (task : Option TaskName)
  | version
  deriving DecidableEq, Repr

structure Said where
  config : Option Text
  logFilter : Option Text
  started : Bool
  positional : List Text

namespace Said

def nothing : Said := ⟨none, none, false, []⟩

def once (flag : Flag) (old : Option Text) (value : Text) : Except UsageError (Option Text) :=
  match old with
  | none => .ok (some value)
  | some _ => .error (.repeatedFlag flag)

def setValue (flag : Flag) (value : Text) (s : Said) : Except UsageError Said :=
  match flag with
  | .config => do return { s with config := ← once flag s.config value }
  | .logFilter => do return { s with logFilter := ← once flag s.logFilter value }
  | _ => .error (.unexpectedValue flag)

def setStarted (s : Said) : Except UsageError Said :=
  if s.started then .error (.repeatedFlag .started) else .ok { s with started := true }

def addPositional (argument : Text) (s : Said) : Said :=
  { s with positional := s.positional ++ [argument] }

end Said

inductive Reply where
  | said (s : Said)
  | needsValue (flag : Flag) (s : Said)
  | help
  | version

def readSwitch (flag : Flag) (s : Said) : Except UsageError Reply :=
  match flag with
  | .help => .ok .help
  | .version => .ok .version
  | .started => (s.setStarted).map .said
  | _ => .ok (.needsValue flag s)

def readLong (task : Option TaskName) (argument : Text) (s : Said) : Except UsageError Reply :=
  let name := argument.takeWhile (· ≠ '=')
  match Flag.ofLong? task name, argument.dropWhile (· ≠ '=') with
  | none, _ => .error (.unknownFlag argument)
  | some flag, [] => readSwitch flag s
  | some flag, _ :: value => (s.setValue flag value).map .said

-- After one dash: several letters may share it, and a value may follow the last at once, with an
-- equals sign or without.
def readShort (task : Option TaskName) (s : Said) : Text → Except UsageError Reply
  | [] => .ok (.said s)
  | c :: rest =>
    match Flag.ofShort? task c with
    | none => .error (.unknownFlag [c])
    | some flag =>
      if flag.takesValue then
        match rest with
        | [] => .ok (.needsValue flag s)
        | '=' :: value => (s.setValue flag value).map .said
        | value => (s.setValue flag value).map .said
      else do
        match ← readSwitch flag s with
        | .said s => readShort task s rest
        | reply => return reply

def looksLikeFlag : Text → Bool
  | '-' :: _ :: _ => true
  | _ => false

def readFlag (task : Option TaskName) (argument : Text) (s : Said) : Except UsageError Reply :=
  match argument with
  | '-' :: '-' :: name => readLong task name s
  | _ => readShort task s (argument.drop 1)

inductive Ending where
  | finished (s : Said)
  | stopped (s : Said) (argument : Text) (rest : List Text)
  | help
  | version

def readTask? (argument : Text) : Option TaskName :=
  TaskName.all.find? fun name => name.word.toList = argument

def helpWord : Text := "help".toList

def endOfFlags : Text := ['-', '-']

def readHelp : List Text → Except UsageError (Option TaskName)
  | [] => .ok none
  | [argument] =>
    match readTask? argument with
    | some name => .ok (some name)
    | none => if argument = helpWord then .ok none else .error (.unknownTask argument)
  | argument :: _ => .error (.unknownTask argument)

def positionalCount : TaskName → Nat
  | .patterns => 1
  | _ => 2

def addArguments (name : TaskName) (s : Said) : List Text → Except UsageError Said
  | [] => .ok s
  | argument :: rest =>
    if s.positional.length < positionalCount name then
      addArguments name (s.addPositional argument) rest
    else .error (.unexpectedArgument argument)

-- Before the name of the task the first argument that is no option stops the reading; after it
-- such arguments are collected. `waiting` is an option whose value comes next.
def readSide (task : Option TaskName) (waiting : Option Flag) (s : Said) :
    List Text → Except UsageError Ending
  | [] =>
    match waiting with
    | none => .ok (.finished s)
    | some flag => .error (.missingValue flag)
  | argument :: rest =>
    match waiting with
    | some flag =>
      if looksLikeFlag argument then .error (.missingValue flag)
      else do readSide task none (← s.setValue flag argument) rest
    | none =>
      if looksLikeFlag argument && argument ≠ endOfFlags then do
        match ← readFlag task argument s with
        | .said s => readSide task none s rest
        | .needsValue flag s => readSide task (some flag) s rest
        | .help => return .help
        | .version => return .version
      else
        match task with
        | none => .ok (.stopped s argument rest)
        | some name =>
          if argument = endOfFlags then (addArguments name s rest).map .finished
          else do readSide task none (← addArguments name s [argument]) rest

def taskOf (name : TaskName) (s : Said) : Except UsageError (Text × Task) :=
  match name, s.positional with
  | .patterns, [grammar] => .ok (grammar, .patterns)
  | .matching, [grammar, input] => .ok (grammar, .matching s.started input)
  | .complete, [grammar, input] => .ok (grammar, .complete input)
  | _, _ => .error (.missingArgument name)

-- What is said after the name of the task goes before what is said in front of it.
def orderOf (name : TaskName) (front : Said) (rest : List Text) : Except UsageError Request := do
  match ← readSide (some name) none .nothing rest with
  | .help => return .help (some name)
  | .version => return .version
  | .stopped _ argument _ => .error (.unexpectedArgument argument)
  | .finished side =>
    let (grammar, task) ← taskOf name side
    return .run ⟨side.config <|> front.config, side.logFilter <|> front.logFilter, grammar, task⟩

def Request.ofArguments (arguments : List Text) : Except UsageError Request := do
  match ← readSide none none .nothing arguments with
  | .help => return .help none
  | .version => return .version
  | .finished _ => .error .missingTask
  | .stopped front argument rest =>
    if argument = helpWord then return .help (← readHelp rest)
    match readTask? argument with
    | some name => orderOf name front rest
    | none => .error (.unknownTask argument)

end Typeahead.Command
