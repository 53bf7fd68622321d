import Typeahead.Binary64.Shortest
import Typeahead.Files
import Typeahead.Grammar
import Typeahead.Settings.Tree
import Typeahead.Toml.Reader

namespace Typeahead

structure Settings where
  limits : Limits
  logFilter : Text
  deriving DecidableEq, Repr

inductive SettingsError where
  | badPath (path : Text)
  | noFile (path : Text)
  | badFile (path : Text)
  | badValue
  deriving DecidableEq, Repr

def SettingsError.message (_ : SettingsError) : String := "invalid configuration:"

namespace Setting

def truthWord? (word : Text) : Option Nat :=
  if word ∈ ["true".toList, "on".toList, "yes".toList] then some 1
  else if word ∈ ["false".toList, "off".toList, "no".toList] then some 0
  else none

def natural? : Setting → Option Nat
  | .boolean b => some b.toNat
  | .integer n => if 0 ≤ n then some n.toNat else none
  | .float x => some (x.toNatWithin (Text.count64 - 1))
  | .text t => truthWord? (fold t) <|> Text.word64? t
  | _ => none

def integerText (n : Int) : Text :=
  if n < 0 then '-' :: Nat.toDigits 10 n.natAbs else Nat.toDigits 10 n.natAbs

def text? : Setting → Option Text
  | .boolean b => some (if b then "true".toList else "false".toList)
  | .integer n => some (integerText n)
  | .float x => some x.text
  | .text t => some t
  | _ => none

-- The values of a record: by name from a table, or the first of a list in order.
def record? (names : List String) : Setting → Option (List Setting)
  | .table entries => names.mapM fun name => Keyed.find? name.toList entries
  | .list items => if names.length ≤ items.length then some (items.take names.length) else none
  | _ => none

end Setting

namespace Settings

def builtIn : List (Text × Setting) :=
  let limits : Limits := {}
  [("compile".toList, .table [
      ("size_limit".toList, .integer limits.size),
      ("dfa_size_limit".toList, .integer limits.dfaSize),
      ("nest_limit".toList, .integer limits.nest)]),
    ("log".toList, .table [("filter".toList, .text "warn".toList)])]

def limits? (s : Setting) : Option Limits := do
  match ← s.record? ["size_limit", "dfa_size_limit", "nest_limit"] with
  | [size, dfaSize, nest] =>
    let nest ← nest.natural?
    if Text.count32 ≤ nest then none
    return ⟨← size.natural?, ← dfaSize.natural?, nest⟩
  | _ => none

def logFilter? (s : Setting) : Option Text := do
  match ← s.record? ["filter"] with
  | [filter] => filter.text?
  | _ => none

def ofTree? (root : Setting) : Option Settings := do
  match ← root.record? ["compile", "log"] with
  | [compile, log] => return ⟨← limits? compile, ← logFilter? log⟩
  | _ => none

def readOverrides : List (Text × Setting) → Except SettingsError (List (SettingPath × Setting))
  | [] => .ok []
  | (path, value) :: rest =>
    match SettingPath.ofText? path with
    | none => .error (.badPath path)
    | some path => (readOverrides rest).map fun rest => (path, value) :: rest

def fileEnding : Text := ".toml".toList

-- A file is looked for under its path, then with the ending of a TOML file behind it.
def findFile (files : Files) (path : Text) : Except SettingsError Text :=
  match files path with
  | .ok text => .ok text
  | .error _ =>
    match files (path ++ fileEnding) with
    | .ok text => .ok text
    | .error _ => .error (.noFile path)

def readFile (files : Files) : Option Text → Except SettingsError (List (Text × Setting))
  | none => .ok []
  | some path => do
    match Toml.read? (← findFile files path) with
    | none => .error (.badFile path)
    | some entries => .ok (Setting.ofEntries entries)

def load (files : Files) (path : Option Text) (overrides : List (Text × Setting)) :
    Except SettingsError Settings := do
  let overrides ← readOverrides overrides
  let layer ← readFile files path
  let root := (Setting.table []).putLayer builtIn |>.putLayer layer
  match ofTree? (overrides.foldl (fun root (path, value) => path.put root value) root) with
  | some settings => .ok settings
  | none => .error .badValue

end Settings
end Typeahead
