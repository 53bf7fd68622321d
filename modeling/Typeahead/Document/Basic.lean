import Typeahead.Node.Basic

namespace Typeahead

inductive Definition where
  | seq (items : List Definition)
  | alt (items : List Definition)
  | literal (text : Text)
  | charClass (text : Text)
  | repetition (body : Definition)
  | var (name : Text) (body : Definition) (tag : Option Text) (completions : Option (List Text))

structure Document where
  description : Option Text
  grammar : Definition

inductive ListForm where
  | seq
  | alt
  deriving DecidableEq, Repr

def ListForm.word : ListForm → String
  | .seq => "seq"
  | .alt => "alt"

inductive DefinitionError where
  | emptyList (form : ListForm)
  | construction (cause : BuildError)
  deriving DecidableEq

def DefinitionError.message : DefinitionError → String
  | .emptyList form => "\x60" ++ form.word ++ "\x60 needs at least one entry"
  | .construction cause => cause.message

namespace Definition

-- Every definition gives new nodes, or the first thing in it that cannot be built.
abbrev Construction := StateT Nat (Except DefinitionError)

def run (b : Node.Building α) : Construction α := fun n => .ok (b.run n)

def attempt (b : StateT Nat (Except BuildError) α) : Construction α := fun n =>
  match b.run n with
  | .ok result => .ok result
  | .error cause => .error (.construction cause)

-- Two or more letters and dashes name a class; anything else is class text.
def isClassName (text : Text) : Bool :=
  2 ≤ text.length && text.all fun c => c.isAlpha || c = '-'

def classOf (text : Text) : Except ClassError CharClass :=
  if isClassName text then CharClass.named text else CharClass.ofText text

-- A list of one entry stands for that entry.
def combine (form : ListForm) (nodes : List Node) : Construction Node :=
  match nodes with
  | [] => throw (.emptyList form)
  | [node] => return node
  | _ =>
    match form with
    | .seq => attempt (Node.sequenceOf nodes)
    | .alt => attempt (Node.anyOf nodes)

mutual
def toNode : Definition → Construction Node
  | .seq items => do combine .seq (← toNodes items)
  | .alt items => do combine .alt (← toNodes items)
  | .literal text => run (Node.literal text)
  | .charClass text =>
    match classOf text with
    | .ok c => run (Node.ofClass c)
    | .error cause => throw (.construction (.badClass cause))
  | .repetition body => do run (Node.repetitionOf (← toNode body))
  | .var name body tag completions => do
    let child ← toNode body
    run (Node.named { name, tag, completer := completions.map .words } child)

def toNodes : List Definition → Construction (List Node)
  | [] => return []
  | item :: rest => return (← toNode item) :: (← toNodes rest)
end

end Definition
end Typeahead
