import Typeahead.Match
import Typeahead.Text.Quoted

namespace Typeahead.Log

inductive Level where
  | off
  | error
  | warn
  | info
  | debug
  | trace
  deriving DecidableEq, Repr

namespace Level

def rank : Level → Nat
  | .off => 0
  | .error => 1
  | .warn => 2
  | .info => 3
  | .debug => 4
  | .trace => 5

def all : List Level := [.off, .error, .warn, .info, .debug, .trace]

def word : Level → String
  | .off => "OFF"
  | .error => "ERROR"
  | .warn => "WARN"
  | .info => "INFO"
  | .debug => "DEBUG"
  | .trace => "TRACE"

end Level

inductive Event where
  | loaded (path : Text)
  | badTree (cause : TreeError)
  | badPattern (cause : CompileError)
  | compiled (grammar : Grammar)
  | matched (mode : Mode) (input : Text) (accepted complete : Bool)

namespace Event

def level : Event → Level
  | .matched .. => .trace
  | _ => .debug

def target : Event → String
  | .loaded _ => "relang::definition"
  | _ => "relang::grammar::compiler"

def message : Event → String
  | .loaded _ => "loaded grammar document"
  | .badTree _ => "rejected grammar tree"
  | .badPattern _ => "regex engine refused derived pattern"
  | .compiled _ => "compiled grammar"
  | .matched .. => "matched input"

def modeWord : Mode → String
  | .whole => "Full"
  | .started => "Prefix"

def number (n : Nat) : Text := Nat.toDigits 10 n

def truth (b : Bool) : Text := (if b then "true" else "false").toList

def fields : Event → List (String × Text)
  | .loaded path => [("path", path)]
  | .badTree cause => [("error", cause.message.toList)]
  | .badPattern cause => [("error", cause.message.toList)]
  | .compiled g =>
    [("full", Text.quoted g.whole.text), ("prefix", Text.quoted g.started.text),
      ("full_groups", number g.whole.groups.size), ("prefix_groups", number g.started.groups.size)]
  | .matched mode input accepted complete =>
    [("mode", (modeWord mode).toList), ("input_len", number input.bytes),
      ("accepted", truth accepted), ("complete", truth complete)]

-- The message itself counts as a field.
def hasField (name : Text) (e : Event) : Bool :=
  name = "message".toList || e.fields.any fun field => field.1.toList = name

def line (e : Event) : Text :=
  (e.level.word ++ " " ++ e.target ++ ": " ++ e.message).toList
    ++ e.fields.flatMap fun (name, value) => ' ' :: name.toList ++ '=' :: value

end Event
end Typeahead.Log
