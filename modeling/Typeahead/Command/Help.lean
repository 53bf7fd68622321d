import Typeahead.Command.Arguments

namespace Typeahead.Command

def lines (texts : List String) : Text := texts.flatMap fun text => text.toList ++ ['\n']

def versionText : Text := lines ["relang 0.1.0"]

def sharedFlags : List String := [
  "  -c, --config <config>          TOML file layered over the built-in defaults",
  "      --log-filter <log-filter>  tracing filter directive, e.g. 'relang=debug'",
  "  -h, --help                     Print help"]

def grammarLine : String := "  <grammar>  Grammar document (.json for JSON, YAML otherwise)"

def inputLine : String := "  <input>    Text to match"

def helpText : Option TaskName → Text
  | none => lines ([
      "Compile grammars into full-match and prefix-match regular expressions", "",
      "Usage: relang [OPTIONS] <COMMAND>", "",
      "Commands:",
      "  patterns  Print the full-match and prefix-match patterns",
      "  match     Match input against the grammar",
      "  complete  List completions for input typed so far",
      "  help      Print this message or the help of the given subcommand(s)", "",
      "Options:"] ++ sharedFlags ++ ["  -V, --version                  Print version"])
  | some .patterns => lines ([
      "Print the full-match and prefix-match patterns", "",
      "Usage: relang patterns [OPTIONS] <grammar>", "",
      "Arguments:", grammarLine, "",
      "Options:"] ++ sharedFlags)
  | some .matching => lines ([
      "Match input against the grammar", "",
      "Usage: relang match [OPTIONS] <grammar> <input>", "",
      "Arguments:", grammarLine, inputLine, "",
      "Options:",
      "  -p, --prefix                   Accept any prefix of a valid input"] ++ sharedFlags)
  | some .complete => lines ([
      "List completions for input typed so far", "",
      "Usage: relang complete [OPTIONS] <grammar> <input>", "",
      "Arguments:", grammarLine, inputLine, "",
      "Options:"] ++ sharedFlags)

def UsageError.message : UsageError → String
  | .unknownFlag argument => "unexpected argument '" ++ String.ofList argument ++ "' found"
  | .repeatedFlag flag => "the argument '--" ++ flag.long ++ "' cannot be used multiple times"
  | .missingValue flag => "a value is required for '--" ++ flag.long ++ "' but none was supplied"
  | .unexpectedValue flag => "unexpected value for '--" ++ flag.long ++ "' found"
  | .unknownTask argument => "unrecognized subcommand '" ++ String.ofList argument ++ "'"
  | .missingTask => "'relang' requires a subcommand but one was not provided"
  | .unexpectedArgument argument => "unexpected argument '" ++ String.ofList argument ++ "' found"
  | .missingArgument _ => "the following required arguments were not provided"

end Typeahead.Command
