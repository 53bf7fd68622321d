import Typeahead.GroupTable

namespace Typeahead.Node

-- Text under way, together with the names handed out so far.
abbrev Emission := StateM GroupTable Text

def allocate (node : Node) : Emission := modifyGet (GroupTable.allocate node)

def namedGroup (name body : Text) : Text :=
  "(?P<".toList ++ name ++ ">".toList ++ body ++ ")".toList

def plainGroup (body : Text) : Text := "(?:".toList ++ body ++ ")".toList

def joinBranches : List Text → Text
  | [] => []
  | [branch] => branch
  | branch :: rest => branch ++ '|' :: joinBranches rest

def emitAll : List Emission → StateM GroupTable (List Text)
  | [] => return []
  | e :: rest => return (← e) :: (← emitAll rest)

mutual
def whole : Node → Emission
  | .sequence _ _ nodes => return (← emitAll (wholes nodes)).flatten
  | .any _ nodes => return plainGroup (joinBranches (← emitAll (wholes nodes)))
  | .single _ c => return c.text
  | .var i info child => do
    let name ← allocate (.var i info child)
    return namedGroup name (← whole child)
  | .repetition _ child => return plainGroup (← whole child) ++ ['*']

def wholes : List Node → List Emission
  | [] => []
  | node :: rest => whole node :: wholes rest
end

-- The two ways to write one child of a sequence.
structure Part where
  finished : Emission
  begun : Emission

-- The finished half comes first, so that a text which ends between two children has begun the later
-- one. `fuel` bounds the number of cuts; a list is cut less often than it has entries.
def halve : Nat → List Part → Emission
  | _, [] => return []
  | _, [only] => only.begun
  | 0, _ => return []
  | fuel + 1, parts => do
    let (head, tail) := parts.splitAt (parts.length / 2)
    let inside ← halve fuel head
    let finished ← emitAll (head.map Part.finished)
    let beyond ← halve fuel tail
    return plainGroup (finished.flatten ++ beyond ++ '|' :: inside)

def startedSequence (parts : List Part) : Emission := halve parts.length parts

mutual
def started : Node → Emission
  | .sequence _ _ nodes => startedSequence (startedParts nodes)
  | .any _ nodes => return plainGroup (joinBranches (← emitAll (starteds nodes))) ++ ['?']
  | .single _ c => return c.text ++ ['?']
  | .var i info child => do
    let name ← allocate (.var i info child)
    return namedGroup name (← started child) ++ ['?']
  | .repetition _ child => do
    -- named first, so that a variable is found here before it is found in a finished round
    let last ← started child
    let finished ← whole child
    return plainGroup finished ++ '*' :: last

def starteds : List Node → List Emission
  | [] => []
  | node :: rest => started node :: starteds rest

def startedParts : List Node → List Part
  | [] => []
  | node :: rest => ⟨whole node, started node⟩ :: startedParts rest
end

def anchored (body : Text) : Text := "^(?:".toList ++ body ++ ")$".toList

def wholePattern (root : Node) : Text × GroupTable :=
  let (body, groups) := (whole root).run .empty
  (anchored body, groups)

def startedPattern (root : Node) : Text × GroupTable :=
  let (body, groups) := (started root).run .empty
  (anchored body, groups)

end Typeahead.Node
