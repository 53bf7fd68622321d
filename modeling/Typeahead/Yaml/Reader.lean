import Typeahead.Keyed
import Typeahead.Yaml.Tokens

namespace Typeahead.Yaml

inductive Draft where
  | scalar (tag : Option YamlTag) (text : Text) (plain : Bool)
  | seq (tag : Option YamlTag) (items : List Draft)
  | map (tag : Option YamlTag) (entries : List (Draft × Draft))
  | alias (number : Nat)

structure Composing where
  tokens : List Token
  -- the number of each name: how many came before, so that a later name may take it as well
  names : List (Text × Nat)
  -- the numbers of all anchors so far, the latest first
  anchors : List Nat
  -- the finished nodes that have anchors, each with how many anchors there were before its own
  nodes : List (Nat × Draft)
  handles : List (Text × YamlTag)
  -- scalars, aliases, and both ends of collections
  events : Nat

abbrev Compose := StateT Composing Option

def peek : Compose (Option Token) := return (← get).tokens.head?

def advance : Compose Unit := modify fun s => { s with tokens := s.tokens.tail }

def event : Compose Unit := modify fun s => { s with events := s.events + 1 }

def failed : Compose α := StateT.lift none

-- Numbers an anchor and hands back how many there were before it.
def openAnchor : Option Text → Compose (Option Nat)
  | none => return none
  | some name => do
    let s ← get
    let number := s.names.length
    set { s with names := Keyed.put name number s.names, anchors := number :: s.anchors }
    return some s.anchors.length

def closeAnchor (place : Option Nat) (node : Draft) : Compose Draft := do
  match place with
  | none => return node
  | some place =>
    modify fun s => { s with nodes := (place, node) :: s.nodes }
    return node

def emptyScalar : Compose Draft := do
  event
  return .scalar none [] true

def resolveTag (handle : Text) (suffix : YamlTag) : Compose YamlTag := do
  if handle.isEmpty then return suffix
  match (← get).handles.lookup handle with
  | some leading => return leading ++ suffix
  | none => failed

structure Properties where
  anchor : Option Text
  tag : Option YamlTag

def properties : Compose Properties := do
  match ← peek with
  | some (.anchor name) =>
    advance
    match ← peek with
    | some (.tag handle suffix) =>
      advance
      return ⟨some name, some (← resolveTag handle suffix)⟩
    | _ => return ⟨some name, none⟩
  | some (.tag handle suffix) =>
    advance
    let tag ← resolveTag handle suffix
    match ← peek with
    | some (.anchor name) =>
      advance
      return ⟨some name, some tag⟩
    | _ => return ⟨none, some tag⟩
  | _ => return ⟨none, none⟩

def bare (props : Properties) (place : Option Nat) : Compose Draft := do
  if props.anchor.isNone && props.tag.isNone then failed
  event
  closeAnchor place (.scalar props.tag [] true)

def endsBlockItem : Option Token → Bool
  | some .blockEntry | some .blockEnd | none => true
  | _ => false

def endsPlainItem : Option Token → Bool
  | some .blockEntry | some .key | some .value | some .blockEnd | none => true
  | _ => false

def endsBlockPart : Option Token → Bool
  | some .key | some .value | some .blockEnd | none => true
  | _ => false

-- `fuel` bounds the depth of the calls, which is at most a few for each token.
mutual
def node (block unindented : Bool) : Nat → Compose Draft
  | 0 => failed
  | fuel + 1 => do
    match ← peek with
    | some (.alias name) =>
      advance
      event
      match Keyed.find? name (← get).names with
      | some number => return .alias number
      | none => failed
    | _ =>
      let props ← properties
      let place ← openAnchor props.anchor
      match ← peek, block with
      | some .blockEntry, _ =>
        if unindented then
          event
          let items ← unindentedItems fuel
          event
          closeAnchor place (.seq props.tag items)
        else bare props place
      | some (.scalar text plain), _ =>
        advance
        event
        -- a tag that is an exclamation mark only says nothing of a scalar
        let tag := props.tag.filter fun tag => tag ≠ .ofAscii ['!']
        closeAnchor place (.scalar tag text plain)
      | some .flowSequenceStart, _ =>
        advance
        event
        let items ← flowItems true fuel
        event
        closeAnchor place (.seq props.tag items)
      | some .flowMappingStart, _ =>
        advance
        event
        let entries ← flowEntries true fuel
        event
        closeAnchor place (.map props.tag entries)
      | some .blockSequenceStart, true =>
        advance
        event
        let items ← blockItems fuel
        event
        closeAnchor place (.seq props.tag items)
      | some .blockMappingStart, true =>
        advance
        event
        let entries ← blockEntries fuel
        event
        closeAnchor place (.map props.tag entries)
      | _, _ => bare props place

def blockItems : Nat → Compose (List Draft)
  | 0 => failed
  | fuel + 1 => do
    match ← peek with
    | some .blockEntry =>
      advance
      let item ← if endsBlockItem (← peek) then emptyScalar else node true false fuel
      return item :: (← blockItems fuel)
    | some .blockEnd =>
      advance
      return []
    | _ => failed

-- A sequence at the column of the mapping that it is a value of has no end of its own.
def unindentedItems : Nat → Compose (List Draft)
  | 0 => failed
  | fuel + 1 => do
    match ← peek with
    | some .blockEntry =>
      advance
      let item ← if endsPlainItem (← peek) then emptyScalar else node true false fuel
      return item :: (← unindentedItems fuel)
    | _ => return []

def blockEntries : Nat → Compose (List (Draft × Draft))
  | 0 => failed
  | fuel + 1 => do
    match ← peek with
    | some .key =>
      advance
      let key ← if endsBlockPart (← peek) then emptyScalar else node true true fuel
      let value ← blockValue fuel
      return (key, value) :: (← blockEntries fuel)
    | some .blockEnd =>
      advance
      return []
    | _ => failed

def blockValue : Nat → Compose Draft
  | 0 => failed
  | fuel + 1 => do
    match ← peek with
    | some .value =>
      advance
      if endsBlockPart (← peek) then emptyScalar else node true true fuel
    | _ => emptyScalar

def flowItems (first : Bool) : Nat → Compose (List Draft)
  | 0 => failed
  | fuel + 1 => do
    if (← peek) = some .flowSequenceEnd then
      advance
      return []
    if !first then
      if (← peek) = some .flowEntry then advance else failed
    match ← peek with
    | some .flowSequenceEnd =>
      advance
      return []
    | some .key =>
      -- a mapping of one entry needs no braces
      advance
      event
      let key ←
        match ← peek with
        | some .value | some .flowEntry | some .flowSequenceEnd => failed
        | _ => node false false fuel
      let value ←
        match ← peek with
        | some .value =>
          advance
          match ← peek with
          | some .flowEntry | some .flowSequenceEnd => emptyScalar
          | _ => node false false fuel
        | _ => emptyScalar
      event
      return .map none [(key, value)] :: (← flowItems false fuel)
    | _ =>
      let item ← node false false fuel
      return item :: (← flowItems false fuel)

def flowEntries (first : Bool) : Nat → Compose (List (Draft × Draft))
  | 0 => failed
  | fuel + 1 => do
    if (← peek) = some .flowMappingEnd then
      advance
      return []
    if !first then
      if (← peek) = some .flowEntry then advance else failed
    match ← peek with
    | some .flowMappingEnd =>
      advance
      return []
    | some .key =>
      advance
      let key ←
        match ← peek with
        | some .value | some .flowEntry | some .flowMappingEnd => emptyScalar
        | _ => node false false fuel
      let value ← flowValue fuel
      return (key, value) :: (← flowEntries false fuel)
    | _ =>
      let key ← node false false fuel
      let value ← emptyScalar
      return (key, value) :: (← flowEntries false fuel)

def flowValue : Nat → Compose Draft
  | 0 => failed
  | fuel + 1 => do
    match ← peek with
    | some .value =>
      advance
      match ← peek with
      | some .flowEntry | some .flowMappingEnd => emptyScalar
      | _ => node false false fuel
    | _ => emptyScalar
end

def defaultHandles : List (Text × YamlTag) :=
  [("!".toList, .ofAscii "!".toList), ("!!".toList, .ofAscii "tag:yaml.org,2002:".toList)]

-- Versions 1.1 and 1.2, given once; a handle is given once.
def directives : Nat → Bool → List (Text × YamlTag) → Compose (List (Text × YamlTag))
  | 0, _, _ => failed
  | fuel + 1, versioned, handles => do
    match ← peek with
    | some (.versionDirective major minor) =>
      if versioned || major ≠ 1 || (minor ≠ 1 && minor ≠ 2) then failed
      advance
      directives fuel true handles
    | some (.tagDirective handle leading) =>
      if (handles.lookup handle).isSome then failed
      advance
      directives fuel versioned (handles ++ [(handle, leading)])
    | _ => return handles

def skipDocumentEnds : Nat → Compose Unit
  | 0 => return ()
  | fuel + 1 => do
    if (← peek) = some .documentEnd then
      advance
      skipDocumentEnds fuel

def isDirective : Token → Bool
  | .versionDirective _ _ => true
  | .tagDirective _ _ => true
  | _ => false

def document (fuel : Nat) : Compose Draft := do
  match ← peek with
  | none => failed
  | some token =>
    if isDirective token || token = .documentStart then
      let handles ← directives fuel false []
      modify fun s => { s with handles := handles ++ defaultHandles }
      if (← peek) ≠ some .documentStart then failed
      advance
      match ← peek with
      | none | some .documentStart | some .documentEnd => emptyScalar
      | some token => if isDirective token then emptyScalar else node true false fuel
    else node true false fuel

def wholeText (fuel : Nat) : Compose Draft := do
  let root ← document fuel
  skipDocumentEnds fuel
  if (← peek).isSome then failed
  return root

structure Measured where
  node : Yaml
  depth : Nat
  jumps : Nat

def depthOf (nodes : List Measured) : Nat := nodes.foldl (fun d n => max d n.depth) 0

def jumpsOf (nodes : List Measured) : Nat := nodes.foldl (fun j n => j + n.jumps) 0

abbrev Resolve := StateT (List (Nat × Measured)) Option

mutual
def resolve (follow : Nat → Resolve Measured) : Draft → Resolve Measured
  | .scalar tag text plain => return ⟨.scalar tag text plain, 0, 0⟩
  | .alias number => do
    let target ← follow number
    return { target with jumps := target.jumps + 1 }
  | .seq tag items => do
    let items ← resolveItems follow items
    return ⟨.seq tag (items.map Measured.node), depthOf items + 1, jumpsOf items⟩
  | .map tag entries => do
    let (keys, values) ← resolveEntries follow entries
    let nodes := keys ++ values
    return ⟨.map tag ((keys.map Measured.node).zip (values.map Measured.node)), depthOf nodes + 1,
      jumpsOf nodes⟩

def resolveItems (follow : Nat → Resolve Measured) : List Draft → Resolve (List Measured)
  | [] => return []
  | item :: rest => return (← resolve follow item) :: (← resolveItems follow rest)

def resolveEntries (follow : Nat → Resolve Measured) :
    List (Draft × Draft) → Resolve (List Measured × List Measured)
  | [] => return ([], [])
  | (key, value) :: rest => do
    let key ← resolve follow key
    let value ← resolve follow value
    let (keys, values) ← resolveEntries follow rest
    return (key :: keys, value :: values)
end

-- A node that holds itself is none: following it would not end before `fuel` does.
def followWithin (nodeOf? : Nat → Option Draft) : Nat → Nat → Resolve Measured
  | 0, _ => StateT.lift none
  | fuel + 1, number => do
    match (← get).lookup number with
    | some found => return found
    | none =>
      let found ← resolve (followWithin nodeOf? fuel) (← StateT.lift (nodeOf? number))
      modify ((number, found) :: ·)
      return found

def Composing.nodeOf? (s : Composing) (number : Nat) : Option Draft := do
  let later ← s.anchors.idxOf? number
  s.nodes.lookup (s.anchors.length - 1 - later)

structure Composed where
  root : Measured
  events : Nat

def compose? (text : Text) : Option Composed := do
  let tokens ← tokens? text
  let (draft, s) ←
    (wholeText (4 * tokens.length + 4)).run ⟨tokens, [], [], [], defaultHandles, 0⟩
  let (root, _) ← (resolve (followWithin s.nodeOf? (s.anchors.length + 1)) draft).run []
  return ⟨root, s.events⟩

def depthLimit : Nat := 128

-- The document, unless it nests too deeply or its aliases make too much of it.
def read? (text : Text) : Option Yaml := do
  let c ← compose? text
  if c.root.depth ≤ depthLimit && c.root.jumps ≤ 100 * c.events then some c.root.node else none

end Typeahead.Yaml
