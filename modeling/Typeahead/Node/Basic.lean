import Typeahead.CharClass

namespace Typeahead

inductive Completer where
  | words (candidates : List Text)
  | custom (complete : Text → List Text)

def Completer.complete : Completer → Text → List Text
  | .words candidates, typed => candidates.filter (Text.startsWith typed)
  | .custom complete, typed => complete typed

structure Variable where
  name : Text
  completer : Option Completer := none
  wrapper : Option (Text → Text) := none
  unwrapper : Option (Text → Text) := none
  tag : Option Text := none

namespace Variable

def wrap (v : Variable) (text : Text) : Text := (v.wrapper.map (· text)).getD text

def unwrap (v : Variable) (text : Text) : Text := (v.unwrapper.map (· text)).getD text

end Variable

-- Two nodes built alike are two nodes, and one node may stand at several places of a tree.
inductive Node where
  -- A literal is a sequence of one class for each character, and keeps its text.
  | sequence (id : Nat) (literal : Option Text) (children : List Node)
  | any (id : Nat) (children : List Node)
  | single (id : Nat) (charClass : CharClass)
  | var (id : Nat) (info : Variable) (child : Node)
  | repetition (id : Nat) (child : Node)

inductive ListKind where
  | sequence
  | alternation
  deriving DecidableEq, Repr

def ListKind.word : ListKind → String
  | .sequence => "sequence"
  | .alternation => "alternation"

inductive BuildError where
  | badClass (cause : ClassError)
  | tooFewChildren (kind : ListKind) (count : Nat)
  deriving DecidableEq

def BuildError.message : BuildError → String
  | .badClass cause => cause.message
  | .tooFewChildren kind count =>
    kind.word ++ " needs at least two children, got " ++ toString count

namespace Node

def id : Node → Nat
  | .sequence i _ _ => i
  | .any i _ => i
  | .single i _ => i
  | .var i _ _ => i
  | .repetition i _ => i

def children : Node → List Node
  | .sequence _ _ nodes => nodes
  | .any _ nodes => nodes
  | .single _ _ => []
  | .var _ _ child => [child]
  | .repetition _ child => [child]

def asVariable : Node → Option Variable
  | .var _ info _ => some info
  | _ => none

-- This node and all below it, each before what is below it, once for each path to it.
mutual
def walk : Node → List Node
  | .sequence i text nodes => .sequence i text nodes :: walkAll nodes
  | .any i nodes => .any i nodes :: walkAll nodes
  | .single i c => [.single i c]
  | .var i info child => .var i info child :: walk child
  | .repetition i child => .repetition i child :: walk child

def walkAll : List Node → List Node
  | [] => []
  | node :: rest => walk node ++ walkAll rest
end

def variableNodes (root : Node) : List Node := root.walk.filter (·.asVariable.isSome)

abbrev Building := StateM Nat

def fresh : Building Nat := modifyGet fun n => (n, n + 1)

def ofClass (c : CharClass) : Building Node := return .single (← fresh) c

def ofClasses : List CharClass → Building (List Node)
  | [] => return []
  | c :: rest => return (← ofClass c) :: (← ofClasses rest)

def literal (text : Text) : Building Node :=
  return .sequence (← fresh) (some text) (← ofClasses (text.map CharClass.literal))

def repetitionOf (child : Node) : Building Node := return .repetition (← fresh) child

def repeated : Nat → Node → Building Node
  | 0, node => return node
  | n + 1, node => do repeated n (← repetitionOf node)

def named (info : Variable) (child : Node) : Building Node :=
  return .var (← fresh) info child

-- A sequence that was put together, not a literal, gives its children to what follows it.
def openSequence : Node → List Node
  | .sequence _ none nodes => nodes
  | node => [node]

def openChoice : Node → List Node
  | .any _ nodes => nodes
  | node => [node]

def followedBy (a b : Node) : Building Node :=
  return .sequence (← fresh) none (openSequence a ++ [b])

def or (a b : Node) : Building Node := return .any (← fresh) (openChoice a ++ [b])

def sequenceOf (nodes : List Node) : StateT Nat (Except BuildError) Node :=
  if nodes.length < 2 then throw (.tooFewChildren .sequence nodes.length)
  else return .sequence (← modifyGet fun n => (n, n + 1)) none nodes

def anyOf (nodes : List Node) : StateT Nat (Except BuildError) Node :=
  if nodes.length < 2 then throw (.tooFewChildren .alternation nodes.length)
  else return .any (← modifyGet fun n => (n, n + 1)) nodes

end Node
end Typeahead
