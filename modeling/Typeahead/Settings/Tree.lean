import Typeahead.Keyed
import Typeahead.Text.Number
import Typeahead.Toml.Basic

namespace Typeahead

inductive Setting where
  | unset
  | boolean (b : Bool)
  | integer (n : Int)
  | float (x : Binary64)
  | text (t : Text)
  | list (items : List Setting)
  | table (entries : List (Text × Setting))

namespace Setting

mutual
def ofToml : Toml → Setting
  | .string t => .text t
  | .integer n => .integer n
  | .float x => .float x
  | .boolean b => .boolean b
  | .moment t => .text t
  | .array items => .list (ofItems items)
  | .table entries => .table (ofEntries entries)

def ofItems : List Toml → List Setting
  | [] => []
  | item :: rest => ofToml item :: ofItems rest

def ofEntries : List (Text × Toml) → List (Text × Setting)
  | [] => []
  | (name, value) :: rest => (name, ofToml value) :: ofEntries rest
end

def fold (name : Text) : Text := name.map Char.toLower

def entries : Setting → List (Text × Setting)
  | .table entries => entries
  | _ => []

def items : Setting → List Setting
  | .list items => items
  | _ => []

mutual
def put (name : Text) (base : Setting) : Setting → Setting
  | .table inner =>
    let under := (Keyed.find? (fold name) base.entries).getD (.table [])
    .table (Keyed.put (fold name) (putAll under inner) base.entries)
  | value => .table (Keyed.put (fold name) value base.entries)

def putAll (base : Setting) : List (Text × Setting) → Setting
  | [] => base
  | (name, value) :: rest => putAll (put name base value) rest
end

end Setting

-- A path into a tree: a name, then names and places in lists.
inductive PathStep where
  | name (text : Text)
  | place (index : Int)
  deriving DecidableEq, Repr

structure SettingPath where
  first : Text
  steps : List PathStep
  deriving DecidableEq, Repr

namespace SettingPath

def isNameChar (c : Char) : Bool := c.isAlphanum || c = ' ' || c = '_' || c = '-'

def readName (text : Text) : Option (Text × Text) :=
  let name := text.takeWhile isNameChar
  if name.isEmpty then none else some (name, text.dropWhile isNameChar)

def mostPlace : Int := 0x7fffffffffffffff

def readPlace (text : Text) : Option (Int × Text) := do
  let (negative, rest) := match Toml.skipBlanks text with
    | '-' :: rest => (true, rest)
    | rest => (false, rest)
  let n ← Text.digits? (rest.takeWhile Text.isDigit)
  let index : Int := if negative then -n else n
  if mostPlace < index ∨ index < -mostPlace - 1 then none
  return (index, Toml.skipBlanks (rest.dropWhile Text.isDigit))

def readSteps : Nat → Text → Option (List PathStep)
  | 0, _ => none
  | fuel + 1, text =>
    match text with
    | [] => some []
    | '.' :: rest => do
      let (name, rest) ← readName rest
      return .name name :: (← readSteps fuel rest)
    | '[' :: rest => do
      let (index, rest) ← readPlace rest
      match rest with
      | ']' :: rest => return .place index :: (← readSteps fuel rest)
      | _ => none
    | _ => none

def ofText? (text : Text) : Option SettingPath := do
  let (first, rest) ← readName text
  return ⟨first, ← readSteps (rest.length + 1) rest⟩

-- A place before the first item counts from the end.
def placeOf (length : Nat) : Int → Nat
  | .ofNat n => n
  | .negSucc n => length - (n + 1)

def setItem (n : Nat) (value : Setting) (items : List Setting) : List Setting :=
  (items ++ List.replicate (n + 1 - items.length) Setting.unset).set n value

-- Puts a value at the end of the steps; what stands in the way is replaced.
def putAt (value : Setting) : List PathStep → Setting → Setting
  | [], _ => value
  | [.name name], under => under.put name value
  | .name name :: steps, under =>
    let inner := (Keyed.find? (Setting.fold name) under.entries).getD .unset
    .table (Keyed.put (Setting.fold name) (putAt value steps inner) under.entries)
  | .place index :: steps, under =>
    let n := placeOf under.items.length index
    .list (setItem n (putAt value steps (under.items[n]?.getD Setting.unset)) under.items)

def put (path : SettingPath) (root value : Setting) : Setting :=
  putAt value (.name path.first :: path.steps) root

end SettingPath

-- A name at the top of a layer may be a path; one that is not stands for itself.
def Setting.putLayer (root : Setting) (layer : List (Text × Setting)) : Setting :=
  layer.foldl
    (fun root (name, value) => ((SettingPath.ofText? name).getD ⟨name, []⟩).put root value) root

end Typeahead
