import Typeahead.Pattern.Basic
import Typeahead.Unicode.Word

namespace Typeahead.Pattern

inductive Edge where
  | opens (group : Nat)
  | closes (group : Nat)
  deriving DecidableEq, Repr

structure Mark where
  edge : Edge
  offset : Nat
  deriving DecidableEq, Repr

inductive Code where
  | pass (label : Nat)
  | char (label : Nat) (set : CharSet)
  | look (label : Nat) (look : Look)
  | mark (label : Nat) (edge : Edge)
  | seq (label : Nat) (first second : Code)
  | alt (label : Nat) (first second : Code)
  | never (label : Nat)
  -- any number of rounds
  | star (label : Nat) (greedy : Bool) (body : Code)
  -- one round, then as `star` with the label `again`
  | plus (label again : Nat) (greedy : Bool) (body : Code)

namespace Code

def label : Code → Nat
  | .pass l => l
  | .char l _ => l
  | .look l _ => l
  | .mark l _ => l
  | .seq l _ _ => l
  | .alt l _ _ => l
  | .never l => l
  | .star l _ _ => l
  | .plus l _ _ _ => l

end Code

-- Labels are handed out in order; the number is the next free one.
abbrev Layout := StateM Nat

def fresh : Layout Nat := modifyGet fun n => (n, n + 1)

def layLiteral : List Char → Layout Code
  | [] => return .pass (← fresh)
  | [c] => return .char (← fresh) (.single c)
  | c :: rest => return .seq (← fresh) (.char (← fresh) (.single c)) (← layLiteral rest)

def prefer (greedy : Bool) (label : Nat) (more fewer : Code) : Code :=
  if greedy then .alt label more fewer else .alt label fewer more

def layTimes (lay : Layout Code) (rest : Layout Code) : Nat → Layout Code
  | 0 => rest
  | n + 1 => return .seq (← fresh) (← lay) (← layTimes lay rest n)

def layUpTo (greedy : Bool) (lay : Layout Code) : Nat → Layout Code
  | 0 => return .pass (← fresh)
  | n + 1 =>
    return prefer greedy (← fresh) (.seq (← fresh) (← lay) (← layUpTo greedy lay n))
      (.pass (← fresh))

def layPlus (greedy : Bool) (lay : Layout Code) : Layout Code :=
  return .plus (← fresh) (← fresh) greedy (← lay)

def layRepetition (least : Nat) (most : Option Nat) (greedy nullable : Bool) (lay : Layout Code) :
    Layout Code :=
  match most with
  | some most => layTimes lay (layUpTo greedy lay (most - least)) least
  | none =>
    match least with
    | 0 =>
      -- A body that can be empty runs once before the choice to leave: leaving is then one
      -- choice, made after the body's own.
      if nullable then
        return prefer greedy (← fresh) (← layPlus greedy lay) (.pass (← fresh))
      else return .star (← fresh) greedy (← lay)
    | least + 1 => layTimes lay (layPlus greedy lay) least

mutual
def lay : Pattern → Layout Code
  | .empty => return .pass (← fresh)
  | .literal chars => layLiteral chars
  | .set s => return .char (← fresh) s
  | .look l => return .look (← fresh) l
  | .repetition least most greedy body =>
    layRepetition least most greedy body.nullable (lay body)
  | .group index body =>
    return .seq (← fresh) (.mark (← fresh) (.opens index))
      (.seq (← fresh) (← lay body) (.mark (← fresh) (.closes index)))
  | .concat items => layAll items
  | .choice branches => layChoice branches

def layAll : List Pattern → Layout Code
  | [] => return .pass (← fresh)
  | p :: rest => return .seq (← fresh) (← lay p) (← layAll rest)

def layChoice : List Pattern → Layout Code
  | [] => return .never (← fresh)
  | p :: rest => return .alt (← fresh) (← lay p) (← layChoice rest)
end

structure Program where
  code : Code
  labels : Nat

def program (p : Pattern) : Program :=
  let (code, labels) := (lay p).run 0
  ⟨code, labels⟩

structure Thread where
  todo : List Code
  before : Option Char
  rest : List Char
  offset : Nat
  marks : List Mark

def inWord : Option Char → Bool
  | none => false
  | some c => Unicode.word.contains c

def Look.holds (before : Option Char) (rest : List Char) : Look → Bool
  | .textStart => before.isNone
  | .textEnd => rest.isEmpty
  | .wordStart => !inWord before && inWord rest.head?
  | .wordEnd => inWord before && !inWord rest.head?
  | .wordEdge => inWord before != inWord rest.head?
  | .noWordEdge => inWord before == inWord rest.head?

namespace Thread

def start (code : Code) (input : List Char) : Thread := ⟨[code], none, input, 0, []⟩

-- The threads that one instruction leads to, the preferred one first.
def step (t : Thread) : List Thread :=
  match t.todo with
  | [] => []
  | .pass _ :: k => [{ t with todo := k }]
  | .char _ s :: k =>
    match t.rest with
    | [] => []
    | c :: rest =>
      if s.contains c then [⟨k, some c, rest, t.offset + c.utf8Size, t.marks⟩] else []
  | .look _ l :: k => if l.holds t.before t.rest then [{ t with todo := k }] else []
  | .mark _ e :: k => [{ t with todo := k, marks := ⟨e, t.offset⟩ :: t.marks }]
  | .seq _ a b :: k => [{ t with todo := a :: b :: k }]
  | .alt _ a b :: k => [{ t with todo := a :: k }, { t with todo := b :: k }]
  | .never _ :: _ => []
  | .star l greedy a :: k =>
    let more := { t with todo := a :: .star l greedy a :: k }
    let fewer := { t with todo := k }
    if greedy then [more, fewer] else [fewer, more]
  | .plus _ again greedy a :: k => [{ t with todo := a :: .star again greedy a :: k }]

end Thread

-- For each label the offsets at which it was started, as the bits of a number.
structure Visited where
  rows : Array Nat

namespace Visited

def none (labels : Nat) : Visited := ⟨Array.replicate labels 0⟩

-- A label that there is not counts as started everywhere.
def has (v : Visited) (label offset : Nat) : Bool :=
  match v.rows[label]? with
  | some row => row.testBit offset
  | Option.none => true

def add (v : Visited) (label offset : Nat) : Visited :=
  ⟨v.rows.modify label fun row => row ||| (1 <<< offset)⟩

end Visited

-- An instruction is started once at each place: the first time has shown all that can come of it.
def search : Nat → Visited → List Thread → Option (List Mark)
  | 0, _, _ => none
  | _ + 1, _, [] => none
  | fuel + 1, visited, t :: stack =>
    match t.todo with
    | [] => some t.marks
    | code :: _ =>
      if visited.has code.label t.offset then search fuel visited stack
      else search fuel (visited.add code.label t.offset) (t.step ++ stack)

def byteLength (text : List Char) : Nat := text.foldl (fun n c => n + c.utf8Size) 0

-- A thread is dropped or visits a new place, and a visit leaves at most two threads.
def Program.run (p : Program) (input : List Char) : Option (List Mark) :=
  let places := p.labels * (byteLength input + 1)
  search (2 * places + 2) (Visited.none p.labels) [.start p.code input]

end Typeahead.Pattern
