import Typeahead.Node.Basic
import Typeahead.Text.Quoted

namespace Typeahead

inductive TreeError where
  | tooFewChildren (kind : ListKind) (count : Nat)
  | literalChild (text : Text)
  deriving DecidableEq

def TreeError.message : TreeError → String
  | .tooFewChildren kind count =>
    kind.word ++ " node has " ++ toString count ++ " children; at least two are required"
  | .literalChild text =>
    "literal " ++ String.ofList text.quoted ++ " contains a node that is not a character class"

namespace Node

def isSingle : Node → Bool
  | .single _ _ => true
  | _ => false

def fault? : Node → Option TreeError
  | .sequence _ (some text) nodes => if nodes.all isSingle then none else some (.literalChild text)
  | .sequence _ none nodes =>
    if nodes.length < 2 then some (.tooFewChildren .sequence nodes.length) else none
  | .any _ nodes =>
    if nodes.length < 2 then some (.tooFewChildren .alternation nodes.length) else none
  | _ => none

def check (node : Node) : Except TreeError Unit :=
  match node.fault? with
  | some e => .error e
  | none => .ok ()

mutual
def validate : Node → Except TreeError Unit
  | .sequence i text nodes => do
    check (.sequence i text nodes)
    validateAll nodes
  | .any i nodes => do
    check (.any i nodes)
    validateAll nodes
  | .single _ _ => .ok ()
  | .var _ _ child => validate child
  | .repetition _ child => validate child

def validateAll : List Node → Except TreeError Unit
  | [] => .ok ()
  | node :: rest => do
    validate node
    validateAll rest
end

end Node
end Typeahead
