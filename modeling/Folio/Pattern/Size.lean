import Std.Data.HashMap
import Folio.Pattern.Bytes
import Folio.Pattern.Regex

/-!
# The size of an expression

An expression is refused when a machine that runs it over the bytes of a text would be too large.
There are two machines, one for each direction. Every state of a machine counts, and every way out
of a state that has several.

A machine is built state by state, each with the next number. Where a class of characters is built,
states are shared that do the same; those that may be shared are found by a hash of what they do,
and a state is forgotten when another one takes its slot. Building stops as soon as the machine is
too large.
-/

namespace Folio.Pattern

open Folio.Text (CharSet)

/-- Which way a machine reads a text. -/
inductive Direction where
  | forward
  | backward
  deriving Repr, DecidableEq

/-- What is known of a machine while it is built: its number of states, and the bytes of their ways
out. -/
structure Machine where
  states : Nat
  wayBytes : Nat
  deriving Repr, DecidableEq, Inhabited

namespace Machine

/-- The greatest size that is allowed, in bytes. -/
def sizeLimit : Nat := 10485760

/-- The size of a machine in bytes. -/
def bytes (m : Machine) : Nat := 32 * m.states + m.wayBytes

/-- Whether a machine is too large. -/
def isTooLarge (m : Machine) : Bool := sizeLimit < m.bytes

/-- The machine with more states of one way or none. -/
def addStates (m : Machine) (count : Nat) : Machine := { m with states := m.states + count }

/-- The machine with more ways out of states that choose. -/
def addWays (m : Machine) (count : Nat) : Machine := { m with wayBytes := m.wayBytes + 4 * count }

/-- The machine with one more state, which looks at the next byte to find its way. -/
def addBranching (m : Machine) (ways : Nat) : Machine :=
  ⟨m.states + 1, m.wayBytes + 8 * ways⟩

/-- Build a number of parts, as long as the machine is not too large. -/
def copies (build : Machine → Machine) : Nat → Machine → Machine
  | 0, m => m
  | n + 1, m => if m.isTooLarge then m else copies build n (build m)

end Machine

/-- A hash of numbers. -/
def slotHash (numbers : List Nat) : UInt64 :=
  numbers.foldl (fun h n => (h ^^^ UInt64.ofNat n) * 1099511628211) 14695981039346656037

/-- States by the slot of the hash of what they do, given by numbers. -/
structure Shared where
  machine : Machine
  slots : Std.HashMap Nat (List Nat × Nat)

namespace Shared

/-- A state that does what is asked for: the one in the slot, or a new one in its place. -/
def state (s : Shared) (capacity : Nat) (ways : List Nat) (add : Machine → Machine) :
    Nat × Shared :=
  let slot := (slotHash ways % UInt64.ofNat capacity).toNat
  let create := (s.machine.states, ⟨add s.machine, s.slots.insert slot (ways, s.machine.states)⟩)
  match s.slots[slot]? with
  | some (known, state) => if known = ways then (state, s) else create
  | none => create

end Shared

/-- Sequences with the same first range that stand together, without that range. -/
def groupByFirst : List (List ByteRange) → List (ByteRange × List (List ByteRange))
  | [] => []
  | [] :: rest => groupByFirst rest
  | (first :: more) :: rest =>
    match groupByFirst rest with
    | [] => [(first, [more])]
    | (next, group) :: groups =>
      if first = next then (first, more :: group) :: groups
      else (first, [more]) :: (next, group) :: groups

/-- The state from which sequences of byte ranges lead to `target`. -/
def startOf (target : Nat) : Nat → List (List ByteRange) → Shared → Nat × Shared
  | 0, _, s => (target, s)
  | depth + 1, sequences, s =>
    let (ways, s) := (groupByFirst sequences).foldl
      (fun (ways, s) (first, rest) =>
        let (next, s) :=
          if rest.all List.isEmpty then (target, s) else startOf target depth rest s
        (next :: first.2 :: first.1 :: ways, s))
      ([], s)
    s.state 10000 ways.reverse fun m => m.addBranching (ways.length / 3)

/-- The state that the byte ranges of a sequence, read from its end, lead to `target` from. -/
def backwardStart (target : Nat) (sequence : List ByteRange) (s : Shared) : Nat × Shared :=
  sequence.foldl
    (fun (next, s) range => s.state 1000 [next, range.1, range.2] fun m => m.addStates 1)
    (target, s)

namespace Machine

/-- Build a class of characters. One of ASCII characters takes a single state that branches. -/
def addSet (m : Machine) (d : Direction) (set : CharSet) : Machine :=
  if set.ranges.all fun r => r.hi < 128 then (m.addStates 1).addBranching set.ranges.length
  else
    let sequences := setSequences set
    match d with
    | .forward => (startOf m.states 4 sequences ⟨m.addStates 1, ∅⟩).2.machine
    | .backward =>
      let target := m.states + 1
      let shared := sequences.foldl (fun s sequence => (backwardStart target sequence s).2)
        ⟨m.addStates 2, ∅⟩
      shared.machine.addWays sequences.length

/-- The words that start with each byte, without it. -/
def tailsByHead (words : List (List Nat)) : List (List (List Nat)) :=
  (words.filterMap List.head?).eraseDups.map fun head =>
    words.filterMap fun word => if word.head? = some head then some (word.drop 1) else none

/-- Cut words at those that are empty. -/
def cutAtEmpty : List (List Nat) → List (List (List Nat))
  | [] => [[]]
  | [] :: rest => [] :: cutAtEmpty rest
  | word :: rest =>
    match cutAtEmpty rest with
    | [] => [[word]]
    | run :: runs => (word :: run) :: runs

/-- Build the states that read one of some words, not all of them empty. A word that ends here is
tried after the words before it and before those that follow. -/
def addWords (m : Machine) : Nat → List (List Nat) → Machine
  | 0, _ => m
  | depth + 1, words =>
    let (blank, words) := (words.takeWhile List.isEmpty, words.dropWhile List.isEmpty)
    let runs := cutAtEmpty words
    let chunks := runs.filter fun run => !run.isEmpty
    let ends := runs.length - 1 + min blank.length 1
    let m := chunks.foldl
      (fun m run =>
        let tails := tailsByHead run
        let m := tails.foldl
          (fun m words =>
            if words.all List.isEmpty || m.isTooLarge then m else addWords m depth words) m
        if tails.length ≤ 1 then m.addStates 1 else m.addBranching tails.length)
      m
    (m.addStates 1).addWays (chunks.length + ends)

end Machine

namespace Regex

mutual

/-- The length in bytes of the shortest match, unless a part of the expression matches nothing. -/
def leastLength? : Regex → Option Nat
  | .empty => some 0
  | .text chars => some (textBytes chars).length
  | .one set => set.ranges.head?.map fun r => (codeBytes r.lo).length
  | .look _ => some 0
  | .repeated least _ body => body.leastLength?.map (least * ·)
  | .group body => body.leastLength?
  | .seq parts => leastLengths? parts |>.map fun lengths => lengths.foldl (· + ·) 0
  | .alt branches => leastLengths? branches |>.map fun lengths => lengths.min?.getD 0

/-- The lengths of the shortest matches of some expressions. -/
def leastLengths? : List Regex → Option (List Nat)
  | [] => some []
  | r :: rest => do return (← r.leastLength?) :: (← leastLengths? rest)

end

mutual

/-- Whether matches stand only at the place where a machine begins to read. -/
def isAnchored (d : Direction) : Regex → Bool
  | .look condition =>
    match d with
    | .forward => condition = .textStart
    | .backward => condition = .textEnd
  | .repeated least _ body => least ≠ 0 && body.isAnchored d
  | .group body => body.isAnchored d
  | .seq parts =>
    match d with
    | .forward => firstAnchored d parts
    | .backward => lastAnchored d parts
  | .alt branches => allAnchored d branches
  | _ => false

/-- Whether one of some expressions is anchored before any that can match a text. -/
def firstAnchored (d : Direction) : List Regex → Bool
  | [] => false
  | r :: rest => r.isAnchored d || r.isBlank && firstAnchored d rest

/-- Whether one of some expressions is anchored after any that can match a text. -/
def lastAnchored (d : Direction) : List Regex → Bool
  | [] => false
  | r :: rest => lastAnchored d rest || allBlank rest && r.isAnchored d

/-- Whether some expressions are all anchored. -/
def allAnchored (d : Direction) : List Regex → Bool
  | [] => true
  | r :: rest => r.isAnchored d && allAnchored d rest

end

/-- The text that an expression is. -/
def text? : Regex → Option (List Char)
  | .text chars => some chars
  | _ => none

mutual

/-- Build the states of an expression. -/
def build (d : Direction) : Regex → Machine → Machine
  | .empty, m => m.addStates 1
  | .text chars, m => m.addStates (textBytes chars).length
  | .one set, m => if m.isTooLarge then m else m.addSet d set
  | .look _, m => m.addStates 1
  | .repeated least most r, m =>
    match most with
    | none =>
      if least = 0 then
        if (r.leastLength?.getD 0) = 0 then ((r.build d m).addStates 3).addWays 4
        else (r.build d (m.addStates 1)).addWays 2
      else ((m.copies (r.build d) least).addStates 1).addWays 2
    | some most =>
      if least = 0 && most = 1 then ((r.build d (m.addStates 1)).addStates 1).addWays 2
      else
        let m := if least = 0 then m.addStates 1 else m.copies (r.build d) least
        if most ≤ least then m
        else
          (m.addStates 1).copies (fun m => r.build d ((m.addStates 1).addWays 2)) (most - least)
  | .group r, m =>
    match d with
    | .forward => (r.build d (m.addStates 1)).addStates 1
    | .backward => r.build d m
  | .seq parts, m => buildAll d parts m
  | .alt branches, m =>
    match branches.mapM text? with
    | some texts =>
      let words := texts.map fun text =>
        match d with
        | .forward => textBytes text
        | .backward => (textBytes text).reverse
      (m.addStates 1).addWords (words.foldl (fun n word => max n word.length) 0 + 1) words
    | none => buildAny d 0 branches (m.addWays branches.length)

/-- Build the states of some expressions one after the other. -/
def buildAll (d : Direction) : List Regex → Machine → Machine
  | [], m => m
  | r :: rest, m =>
    match d with
    | .forward => buildAll d rest (r.build d m)
    | .backward => r.build d (buildAll d rest m)

/-- Build the states of some branches when `done` of them are built. Where they part and meet there
is a state each, made once it is known that there are two branches. -/
def buildAny (d : Direction) (done : Nat) : List Regex → Machine → Machine
  | [], m => m
  | r :: rest, m =>
    let m := r.build d m
    buildAny d (done + 1) rest (if done = 1 then m.addStates 2 else m)

end

/-- The machine of an expression. It begins to read anywhere, unless all matches are anchored, and
has a state for the end. -/
def machine (d : Direction) (r : Regex) : Machine :=
  let start : Machine :=
    if r.isAnchored d then ⟨1, 0⟩ else (Machine.addBranching ⟨2, 0⟩ 1).addWays 2
  (r.group.build d start).addStates 1

/-- Whether an expression is too large. -/
def isTooLarge (r : Regex) : Bool :=
  (r.machine .forward).isTooLarge || (r.machine .backward).isTooLarge

end Regex

end Folio.Pattern
