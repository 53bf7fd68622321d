import Typeahead.Pattern.Basic
import Typeahead.Text.Basic

namespace Typeahead.Pattern

abbrev ByteRange := Nat × Nat

-- Numbers of `n + 1` digits with base 64 from `lo` to `hi`, as sequences of ranges of digits.
def digitRanges : Nat → Nat → Nat → List (List ByteRange)
  | 0, lo, hi => [[(lo, hi)]]
  | n + 1, lo, hi =>
    let base := Nat.pow 64 (n + 1)
    let first := lo / base
    let last := hi / base
    let under (digit lo hi : Nat) := (digitRanges n lo hi).map ((digit, digit) :: ·)
    if first = last then under first (lo % base) (hi % base)
    else
      let fromStart := lo % base = 0
      let toEnd := hi % base = base - 1
      let least := if fromStart then first else first + 1
      let most := if toEnd then last else last - 1
      (if fromStart then [] else under first (lo % base) (base - 1))
        ++ (if least ≤ most then [(least, most) :: List.replicate (n + 1) (0, 63)] else [])
        ++ (if toEnd then [] else under last 0 (hi % base))

-- The characters of UTF-8 by their length: how many bytes follow the first, what is added to the
-- first, and the least and the greatest code. Surrogates are left out.
def utf8Forms : List (Nat × Nat × Nat × Nat) :=
  [(0, 0, 0, 0x7f), (1, 0xc0, 0x80, 0x7ff), (2, 0xe0, 0x800, 0xd7ff), (2, 0xe0, 0xe000, 0xffff),
    (3, 0xf0, 0x10000, 0x10ffff)]

def shiftRange (n : Nat) (r : ByteRange) : ByteRange := (r.1 + n, r.2 + n)

def byteRanges (run : Nat × Nat) : List (List ByteRange) :=
  utf8Forms.flatMap fun (following, lead, least, most) =>
    let lo := max run.1 least
    let hi := min run.2 most
    if lo ≤ hi then
      (digitRanges following lo hi).map fun
        | [] => []
        | first :: rest => shiftRange lead first :: rest.map (shiftRange 0x80)
    else []

def gather : List (List ByteRange) → List (ByteRange × List (List ByteRange))
  | [] => []
  | [] :: rest => gather rest
  | (range :: tail) :: rest =>
    match gather rest with
    | (next, tails) :: more =>
      if next = range then (range, tail :: tails) :: more else (range, [tail]) :: (next, tails) :: more
    | [] => [(range, [tail])]

-- A state is the list of its transitions; a transition leads to a state by its number, or to the
-- end, which has the number zero.
abbrev State := List (ByteRange × Nat)

def numberOf (state : State) : StateM (List State) Nat := do
  let known ← get
  match known.idxOf? state with
  | some place => return known.length - place
  | none =>
    modify (state :: ·)
    return known.length + 1

def numberStates : Nat → List (List ByteRange) → StateM (List State) Nat
  | 0, _ => return 0
  | n + 1, sequences => do
    if sequences.all List.isEmpty then return 0
    let state ← (gather sequences).mapM fun (range, tails) =>
      return (range, ← numberStates n tails)
    numberOf state

def longestSequence : Nat := 4

-- Backwards, a state is remembered at one of a thousand places, and forgotten when another one
-- comes to its place. The place is a hash of where the state leads and of what it reads.
structure Remembered where
  target : Nat
  range : ByteRange
  state : Nat

abbrev Memory := Array (Option Remembered)

def memoryPlaces : Nat := 1000

def mixHash (h : UInt64) (n : Nat) : UInt64 := (h ^^^ n.toUInt64) * 1099511628211

def memoryPlace (target : Nat) (range : ByteRange) : Nat :=
  let h := mixHash (mixHash (mixHash 14695981039346656037 target) range.1) range.2
  h.toNat % memoryPlaces

section
variable (place : Nat → ByteRange → Nat)

-- One sequence; `next` is the number of the next new state.
def addSequence (target : Nat) : List ByteRange → Memory → Nat → Memory × Nat
  | [], memory, next => (memory, next)
  | range :: rest, memory, next =>
    let here := place target range
    match (memory.getD here none).filter fun r => r.target = target && r.range = range with
    | some r => addSequence r.state rest memory next
    | none =>
      addSequence next rest (memory.setIfInBounds here (some ⟨target, range, next⟩)) (next + 1)

def addSequences (target : Nat) : List (List ByteRange) → Memory → Nat → Nat
  | [], _, next => next
  | sequence :: rest, memory, next =>
    let (memory, next) := addSequence place target sequence memory next
    addSequences target rest memory next

section
variable {place}

theorem addSequence_le (target : Nat) (sequence : List ByteRange) (memory : Memory) (next : Nat) :
    (addSequence place target sequence memory next).2 ≤ next + sequence.length := by
  induction sequence generalizing target memory next with
  | nil => exact Nat.le_refl _
  | cons range sequence ih =>
    rw [addSequence, List.length_cons]
    split
    · exact Nat.le_trans (ih ..) (by omega)
    · exact Nat.le_trans (ih ..) (by omega)

theorem addSequences_le (target : Nat) (sequences : List (List ByteRange)) (memory : Memory)
    (next : Nat) :
    addSequences place target sequences memory next ≤ next + sequences.flatten.length := by
  induction sequences generalizing memory next with
  | nil => exact Nat.le_refl _
  | cons sequence sequences ih =>
    have first := @addSequence_le place target sequence memory next
    refine Nat.le_trans (ih ..) ?_
    rw [List.flatten_cons, List.length_append]
    omega

end
end

-- How many states are new if the first of them has the number `next`: one that leads to all the
-- sequences, one where they end, and those of the sequences.
def newStates (sequences : List (List ByteRange)) (next : Nat) : Nat :=
  addSequences memoryPlace (next + 1) sequences (Array.replicate memoryPlaces none) (next + 2) - next

theorem newStates_le (sequences : List (List ByteRange)) (next : Nat) :
    newStates sequences next ≤ 2 + sequences.flatten.length := by
  have all := @addSequences_le memoryPlace (next + 1) sequences (Array.replicate memoryPlaces none)
    (next + 2)
  unfold newStates
  omega

-- One automaton reads forwards and keeps groups, the other reads backwards and does not.
inductive Direction where
  | forwards
  | backwards
  deriving DecidableEq, Repr

-- What a set takes: the same wherever it stands, or what its sequences come to at a place.
inductive SetPlan where
  | same (states held : Nat)
  | sequences (all : List (List ByteRange))

-- States, and what is held besides them: eight bytes for each transition of a state that looks at
-- a byte, four for each link of one that does not.
def SetPlan.of (direction : Direction) (s : CharSet) : SetPlan :=
  if s.isAscii then .same 2 (8 * s.runs.length)
  else
    let all := s.runs.flatMap byteRanges
    match direction with
    | .forwards =>
      let states := ((numberStates longestSequence all).run []).2
      .same (states.length + 1) (8 * states.foldl (fun found state => found + state.length) 0)
    | .backwards => .sequences all

-- What has been counted so far. Beyond the limit sets are left out, since more does not matter.
structure Tally where
  limit : Nat
  states : Nat
  held : Nat
  plans : List (CharSet × SetPlan)

def Tally.bytes (l : Tally) : Nat := 32 * l.states + l.held

abbrev Counting := StateM Tally

def count (states held : Nat) : Counting Unit :=
  modify fun l => { l with states := l.states + states, held := l.held + held }

def countTimes : Nat → Counting Unit → Counting Unit
  | 0, _ => return ()
  | n + 1, body => do
    body
    countTimes n body

def planOf (direction : Direction) (s : CharSet) : Counting SetPlan := do
  match (← get).plans.lookup s with
  | some plan => return plan
  | none =>
    let plan := SetPlan.of direction s
    modify fun l => { l with plans := (s, plan) :: l.plans }
    return plan

def countSet (direction : Direction) (s : CharSet) : Counting Unit := do
  let l ← get
  if l.limit < l.bytes then return ()
  match ← planOf direction s with
  | .same states held => count states held
  | .sequences all => count (newStates all l.states) (4 * all.length)

def utf8Bytes (chars : List Char) : List Nat :=
  chars.flatMap fun c => (String.singleton c).toUTF8.toList.map UInt8.toNat

def splitAtEnds : List (List Nat) → List (List (List Nat))
  | [] => [[]]
  | [] :: rest => [] :: splitAtEnds rest
  | word :: rest =>
    match splitAtEnds rest with
    | [] => [[word]]
    | part :: parts => (word :: part) :: parts

def tailsAfter (byte : Nat) (words : List (List Nat)) : List (List Nat) :=
  words.filterMap fun
    | [] => none
    | b :: tail => if b = byte then some tail else none

-- `n` exceeds the length of the words. Words that end before any other goes on end once.
def countWords : Nat → List (List Nat) → Counting Unit
  | 0, _ => return ()
  | n + 1, words => do
    if words.all List.isEmpty then return ()
    let parts := match words with
      | [] :: rest => [] :: splitAtEnds (rest.dropWhile List.isEmpty)
      | words => splitAtEnds words
    count 1 (4 * (parts.length - 1))
    parts.forM fun part => do
      let bytes := (part.filterMap List.head?).eraseDups
      if !bytes.isEmpty then count 1 (4 + if bytes.length = 1 then 0 else 8 * bytes.length)
      bytes.forM fun byte => countWords n (tailsAfter byte part)

def word? (direction : Direction) : Pattern → Option (List Nat)
  | .literal chars =>
    let bytes := utf8Bytes chars
    some (if direction = .forwards then bytes else bytes.reverse)
  | _ => none

def countRepetition (least : Nat) (most : Option Nat) (nullable : Bool) (body : Counting Unit) :
    Counting Unit := do
  match least, most with
  | 0, some 1 =>
    count 1 8
    body
    count 1 0
  | 0, none =>
    if nullable then
      body
      count 3 16
    else
      count 1 8
      body
  | least, none =>
    countTimes least body
    count 1 8
  | least, some most =>
    if least = 0 then count 1 0 else countTimes least body
    if least < most then
      count 1 0
      countTimes (most - least) do
        count 1 8
        body

mutual
def countPattern (direction : Direction) : Pattern → Counting Unit
  | .empty => count 1 0
  | .literal chars => count (Text.bytes chars) 0
  | .set s => countSet direction s
  | .look _ => count 1 0
  | .repetition least most _ body =>
    countRepetition least most body.nullable (countPattern direction body)
  | .group _ body => do
    if direction = .forwards then count 2 0
    countPattern direction body
  | .concat items => countAll direction items
  | .choice branches =>
    match branches.mapM (word? direction) with
    | some words => do
      count 1 0
      countWords (words.foldl (fun n word => max n word.length) 0 + 1) words
    | none => countBranches direction 0 branches

def countAll (direction : Direction) : List Pattern → Counting Unit
  | [] => return ()
  | p :: rest => do
    match direction with
    | .forwards =>
      countPattern direction p
      countAll direction rest
    | .backwards =>
      countAll direction rest
      countPattern direction p

-- Two states join the branches; they come after the second branch.
def countBranches (direction : Direction) (before : Nat) : List Pattern → Counting Unit
  | [] => return ()
  | p :: rest => do
    countPattern direction p
    count (if before = 1 then 2 else 0) 4
    countBranches direction (before + 1) rest
end

-- Besides the pattern there are a start and an end, and forwards the group that is the whole.
def footprint (direction : Direction) (limit : Nat) (p : Pattern) : Nat :=
  let whole : Counting Unit := do
    count 1 0
    countPattern direction p
    count (if direction = .forwards then 3 else 1) 0
  (whole.run ⟨limit, 0, 0, []⟩).2.bytes

def exceeds (limit : Nat) (p : Pattern) : Bool :=
  limit < p.footprint .forwards limit || limit < p.footprint .backwards limit

end Typeahead.Pattern
