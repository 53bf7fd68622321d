import Typeahead.Command.Run

namespace Typeahead.Command

def readPath (path : Text) : IO (Except FileError Text) := do
  try
    match String.fromUTF8? (← IO.FS.readBinFile (String.ofList path)) with
    | some text => return .ok text.toList
    | none => return .error .notText
  catch
    | .noFileOrDirectory .. => return .error .missing
    | .permissionDenied .. => return .error .forbidden
    | .inappropriateType _ 21 _ => return .error .isDirectory
    | cause => return .error (.other (toString cause).toList)

def readPaths : List Text → IO (List (Text × Except FileError Text))
  | [] => return []
  | path :: rest => return (path, ← readPath path) :: (← readPaths rest)

def lookUp (found : List (Text × Except FileError Text)) : Files := fun path =>
  match found.find? fun file => file.1 = path with
  | some file => file.2
  | none => .error .missing

def outcomeOf (arguments : List Text) : IO Outcome := do
  match Request.ofArguments arguments with
  | .ok (.run order) => return run (lookUp (← readPaths order.paths)) (.run order)
  | _ => return runArguments (lookUp []) arguments

end Typeahead.Command

def main (arguments : List String) : IO UInt32 := do
  let outcome ← Typeahead.Command.outcomeOf (arguments.map String.toList)
  IO.print (String.ofList outcome.output)
  for line in outcome.log do
    IO.eprintln (String.ofList line)
  if let some complaint := outcome.complaint then
    IO.eprintln (String.ofList complaint)
  return outcome.status.toUInt32
