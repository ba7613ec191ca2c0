import Highlighter.Regex.ByteRanges
import Highlighter.Regex.Shape
import Std.Data.HashMap

/-!
# The size of a pattern

A pattern is refused if an automaton for it would take too much room. Matching
here follows the shape of a pattern and builds no automaton, so this module
only counts: how many states the automaton would have, and how many links would
lead from state to state.

The automaton reads bytes. A literal takes a state for every byte, an assertion
one state, a group one at each end, and a choice one state with a link to every
branch and one where the branches meet again. Repetitions are written out, copy
after copy. There are two automata, one reading forward and one reading
backward, which has no states for groups, and both have to be small enough.

Sets of characters take the most room. A set of ASCII characters is one state
with a link for every range. Any other set is laid out byte by byte from its
byte ranges, and tails that are the same are laid out once as long as they are
remembered. The memory for tails has a fixed number of places. A tail goes to
the place that its key decides and replaces what was there.

Counting a large set is work, and most patterns are far below the limit. So
`sizeBound` bounds the size from above, and only where that is not enough the
exact size decides.

## Main definitions

* `Layout`: what has been counted so far.
* `Layout.set`: counting a set of characters.
* `Layout.literals`: counting a choice between literals.
* `Shape.layOut`: counting a shape.
* `Shape.isSmall`: whether both automata of a shape are small enough.
-/

namespace Highlighter

/-- The directions in which an automaton reads. -/
inductive Direction where
  | forward
  | backward
deriving DecidableEq

/-- What has been laid out of an automaton. -/
structure Layout where
  /-- The number of states. -/
  states : Nat := 0
  /-- The bytes taken by the links between states. -/
  links : Nat := 0
  /-- Whether the last piece ends in a choice, so that going on from it takes
      another link. -/
  forked : Bool := false

/-- A memory for tails. -/
structure TailMemory where
  /-- The number of places. -/
  places : Nat
  /-- The places that are taken, each with the key of a tail and its state. -/
  entries : Std.HashMap Nat (List Nat × Nat) := {}

namespace TailMemory

/-- The place of a key: the FNV-1a hash of its numbers, reduced to the number
    of places. -/
def place (m : TailMemory) (key : List Nat) : Nat :=
  (key.foldl (fun h n => (h ^^^ n.toUInt64) * 1099511628211)
    (14695981039346656037 : UInt64)).toNat % m.places

/-- The state of a tail, if it is remembered. -/
def find? (m : TailMemory) (key : List Nat) : Option Nat :=
  match m.entries[m.place key]? with
  | some (known, state) => if known = key then some state else none
  | none => none

/-- Remembers a tail in place of whatever was there. -/
def remember (m : TailMemory) (key : List Nat) (state : Nat) : TailMemory :=
  { m with entries := m.entries.insert (m.place key) (key, state) }

end TailMemory

namespace Layout

/-- The bytes that a layout takes. -/
def size (l : Layout) : Nat := 32 * l.states + l.links

/-- The largest size of an automaton. -/
def maxSize : Nat := 10 * 1024 * 1024

/-- Adds some states without links, the last of which ends the piece. -/
def plain (l : Layout) (count : Nat) : Layout :=
  { l with states := l.states + count, forked := false }

/-- Adds a state that moves on by ranges of bytes. -/
def ranges (l : Layout) (count : Nat) : Layout :=
  { states := l.states + 1, links := l.links + 8 * count }

/-- Adds links of choices. -/
def choose (l : Layout) (count : Nat) : Layout :=
  { l with links := l.links + 4 * count }

/-- Goes on from the last piece. -/
def goOn (l : Layout) : Layout :=
  if l.forked then { l with links := l.links + 4, forked := false } else l

/-- Ends the last piece in a choice. -/
def fork (l : Layout) : Layout := { l with forked := true }

/-! ## Sets of characters -/

/-- Looks up a tail, and adds a state with `count` ranges for it if it is not
    remembered. -/
def share (key : List Nat) (count : Nat) (l : Layout) (memory : TailMemory) :
    Nat × Layout × TailMemory :=
  match memory.find? key with
  | some state => (state, l, memory)
  | none => (l.states, l.ranges count, memory.remember key l.states)

/-- Gathers neighbouring sequences with the same first byte range. -/
def gather : List (List (Nat × Nat)) → List ((Nat × Nat) × List (List (Nat × Nat)))
  | [] => []
  | [] :: ss => gather ss
  | (r :: rs) :: ss =>
    match gather ss with
    | (q, tails) :: more =>
      if r = q then (q, rs :: tails) :: more else (r, [rs]) :: (q, tails) :: more
    | [] => [(r, [rs])]

/-- Lays out the state from which some sequences of byte ranges lead to the
    state `target`, its tails first. A sequence has at most `depth` byte
    ranges. -/
def tails (target : Nat) : (depth : Nat) → List (List (Nat × Nat)) → Layout → TailMemory →
    Nat × Layout × TailMemory
  | 0, _, l, memory => (target, l, memory)
  | n + 1, sequences, l, memory =>
    let first := gather sequences
    let (key, l, memory) := first.foldl (fun (key, l, memory) (r, rest) =>
      let (state, l, memory) :=
        if rest.all List.isEmpty then (target, l, memory) else tails target n rest l memory
      (state :: r.2 :: r.1 :: key, l, memory)) ([], l, memory)
    share key.reverse first.length l memory

/-- Lays out a sequence of byte ranges backward, its last byte next to the
    entry. The state for a byte range is shared by its key: where it leads and
    the range. -/
def backwardSequence (stop : Nat) (sequence : List (Nat × Nat)) (l : Layout)
    (memory : TailMemory) : Layout × TailMemory :=
  let (_, l, memory) := sequence.foldl (fun (state, l, memory) r =>
    share [state, r.1, r.2] 0 l memory) (stop, l, memory)
  (l.choose 1, memory)

/-- Lays out a set of characters. -/
def set (d : Direction) (s : CharSet) (l : Layout) : Layout :=
  if s.isBelow 0x80 then (l.plain 1).ranges s.ranges.length
  else
    match d with
    | .forward => (tails l.states 4 s.byteRanges (l.plain 1) { places := 10000 }).2.1
    | .backward =>
      let stop := l.states + 1
      (s.byteRanges.foldl (fun (l, memory) sequence => backwardSequence stop sequence l memory)
        (l.plain 2, { places := 1000 })).1

/-! ## Choices between literals -/

/-- Divides words at the empty ones among them. An empty word ends the word
    that leads here; it is left out where nothing has gone on from here
    since the first one. `entered` tells whether a word has gone on, and `ended`
    whether one has ended. -/
def chunks : (entered ended : Bool) → List (List Nat) → List (List (List Nat))
  | _, _, [] => [[]]
  | entered, ended, [] :: ws =>
    if !entered && ended then chunks entered ended ws else [] :: chunks entered true ws
  | _, ended, (b :: bs) :: ws =>
    match chunks true ended ws with
    | c :: cs => ((b :: bs) :: c) :: cs
    | [] => [[b :: bs]]

/-- Adds the rest of a word to the words with the same first byte. -/
def fileUnder (b : Nat) (bs : List Nat) :
    List (Nat × List (List Nat)) → List (Nat × List (List Nat))
  | [] => [(b, [bs])]
  | (c, ws) :: more =>
    if b = c then (c, ws ++ [bs]) :: more else (c, ws) :: fileUnder b bs more

/-- Groups words by their first bytes. -/
def byFirst (words : List (List Nat)) : List (Nat × List (List Nat)) :=
  words.foldl (fun groups w =>
    match w with
    | [] => groups
    | b :: bs => fileUnder b bs groups) []

/-- Lays out what some words lead to, sharing their common beginnings: for each
    chunk a state that moves on by its first bytes, and a choice between the
    chunks and the ends of words between them. A word has fewer than `depth`
    bytes. -/
def wordTree : (depth : Nat) → List (List Nat) → Layout → Layout
  | 0, _, l => l
  | n + 1, words, l =>
    let parts := chunks false false words
    let l := parts.foldl (fun l part =>
      let groups := byFirst part
      let l := groups.foldl (fun l (_, rest) =>
        if rest.all List.isEmpty then l else wordTree n rest l) l
      match groups with
      | [] => l
      | [_] => (l.plain 1).choose 1
      | groups => (l.ranges groups.length).choose 1) l
    (l.plain 1).choose (parts.length - 1)

/-- Lays out a choice between literals. -/
def literals (d : Direction) (words : List (List Char)) (l : Layout) : Layout :=
  let bytes := words.map fun cs => cs.flatMap fun c => utf8Bytes c.toNat
  let bytes := match d with
    | .forward => bytes
    | .backward => bytes.map List.reverse
  wordTree ((bytes.map List.length).foldl Nat.max 0 + 1) bytes (l.plain 1)

/-! ## Repetitions -/

/-- Lays out copies one after the other, as long as the limit is kept. -/
def copies (body : Layout → Layout) : Nat → Layout → Layout
  | 0, l => l
  | n + 1, l => if maxSize < l.size then l else copies body n (body l.goOn)

/-- Lays out copies, each behind a choice between it and the end. -/
def optionalCopies (body : Layout → Layout) : Nat → Layout → Layout
  | 0, l => l.goOn
  | n + 1, l =>
    if maxSize < l.size then l
    else optionalCopies body n ((body (l.goOn.plain 1)).choose 2)

/-- Lays out a repetition; `proper` tells that its body cannot match the empty
    text. -/
def repetition (min : Nat) (max : Option Nat) (proper : Bool) (body : Layout → Layout)
    (l : Layout) : Layout :=
  match min, max with
  | 0, some 1 => ((body (l.plain 1)).goOn.plain 1).choose 2
  | 0, none =>
    if proper then ((body (l.plain 1)).goOn.choose 1).fork
    else ((body l).goOn.plain 3).choose 4
  | n, none => ((copies body n l).goOn.plain 1).choose 1 |>.fork
  | n, some m =>
    if n = m then copies body n l
    else
      let start := if n = 0 then l.plain 1 else copies body n l
      optionalCopies body (m - n) { start with states := start.states + 1 }

end Layout

namespace Shape

/-- The literals of the shapes if each is a literal. -/
def asLiterals? : List Shape → Option (List (List Char))
  | [] => some []
  | literal cs :: ss => (asLiterals? ss).map (cs :: ·)
  | _ => none

mutual

/-- Lays out a shape. -/
def layOut (d : Direction) : Shape → Layout → Layout
  | empty, l => l.plain 1
  | literal cs, l => l.plain (byteLength cs)
  | set s, l => l.set d s
  | bytes s, l => (l.plain 1).ranges s.ranges.length
  | look _, l => l.plain 1
  | repetition min max _ body, l => l.repetition min max body.isProper (layOut d body)
  | group _ body, l =>
    match d with
    | .forward => (layOut d body (l.plain 1)).goOn.plain 1
    | .backward => layOut d body l
  | seq parts, l =>
    match d with
    | .forward => layOutSeq parts l
    | .backward => layOutReversed parts l
  | alt branches, l =>
    match asLiterals? branches with
    | some words => l.literals d words
    | none => layOutBranches d branches l

/-- Lays out a sequence from its first part to its last. -/
def layOutSeq : List Shape → Layout → Layout
  | [], l => l
  | p :: ps, l => layOutSeq ps (layOut .forward p l.goOn)

/-- Lays out a sequence from its last part to its first. -/
def layOutReversed : List Shape → Layout → Layout
  | [], l => l
  | p :: ps, l => layOut .backward p (layOutReversed ps l).goOn

/-- Lays out a choice. The state of the choice and the one where its branches
    meet follow the second branch. -/
def layOutBranches (d : Direction) : List Shape → Layout → Layout
  | [], l => l.plain 1
  | [b], l => layOut d b l
  | b :: c :: bs, l =>
    layOutMore d bs (((layOut d c (layOut d b l).goOn).goOn.plain 2).choose 2)

/-- Lays out the further branches of a choice. -/
def layOutMore (d : Direction) : List Shape → Layout → Layout
  | [], l => l
  | b :: bs, l => layOutMore d bs ((layOut d b l).goOn.choose 1)

end

mutual

/-- Whether a shape can match at the start of the text only, as far as the
    assertions it begins with tell. -/
def startsText : Shape → Bool
  | look l => l == .textStart
  | repetition min _ _ body => 0 < min && body.startsText
  | group _ body => body.startsText
  | seq parts => startsTextSeq parts
  | alt branches => startsTextAll branches
  | _ => false

/-- Whether the assertions that a sequence begins with tell so. -/
def startsTextSeq : List Shape → Bool
  | [] => false
  | p :: ps => p.startsText || (p.maxLength? == some 0 && startsTextSeq ps)

/-- Whether all branches can match at the start of the text only. -/
def startsTextAll : List Shape → Bool
  | [] => true
  | b :: bs => b.startsText && startsTextAll bs

end

mutual

/-- Whether a shape can match at the end of the text only, as far as the
    assertions it ends with tell. -/
def endsText : Shape → Bool
  | look l => l == .textStop
  | repetition min _ _ body => 0 < min && body.endsText
  | group _ body => body.endsText
  | seq parts => (endsTextSeq parts).1
  | alt branches => endsTextAll branches
  | _ => false

/-- Whether the assertions that a sequence ends with tell so, and whether all
    of it matches the empty text only. -/
def endsTextSeq : List Shape → Bool × Bool
  | [] => (false, true)
  | p :: ps =>
    let (told, blank) := endsTextSeq ps
    (told || (blank && p.endsText), blank && p.maxLength? == some 0)

/-- Whether all branches can match at the end of the text only. -/
def endsTextAll : List Shape → Bool
  | [] => true
  | b :: bs => b.endsText && endsTextAll bs

end

/-- The automaton of a shape. It begins with a loop over what comes before a
    match, unless a match can only stand where reading begins. The automaton
    that reads forward remembers the whole match like a group. -/
def automaton (d : Direction) (s : Shape) : Layout :=
  let anchored := match d with
    | .forward => s.startsText
    | .backward => s.endsText
  let start : Layout := if anchored then { states := 1 } else { states := 3, links := 16 }
  match d with
  | .forward => (s.layOut d (start.plain 1)).goOn.plain 2
  | .backward => (s.layOut d start).goOn.plain 1

mutual

/-- A bound on the size of either automaton, without what comes before and
    behind a match. -/
def sizeBound : Shape → Nat
  | empty => 32
  | literal cs => 96 * byteLength cs
  | set s => 128 + 4096 * s.ranges.length
  | bytes s => 64 + 8 * s.ranges.length
  | look _ => 32
  | repetition min max _ body => 192 + Nat.max 1 (max.getD min) * (body.sizeBound + 64)
  | group _ body => body.sizeBound + 72
  | seq parts => sizeBoundOf parts
  | alt branches => 72 + sizeBoundOf branches

/-- The bounds of some shapes together, with the links between them. -/
def sizeBoundOf : List Shape → Nat
  | [] => 0
  | s :: ss => s.sizeBound + 8 + sizeBoundOf ss

end

/-- Whether both automata of a shape are small enough. -/
def isSmall (s : Shape) : Bool :=
  s.sizeBound + 256 ≤ Layout.maxSize ||
    ((s.automaton .forward).size ≤ Layout.maxSize &&
      (s.automaton .backward).size ≤ Layout.maxSize)

end Shape

end Highlighter
