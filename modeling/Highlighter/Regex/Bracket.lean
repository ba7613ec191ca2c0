import Highlighter.Regex.Escape

/-!
# Bracketed sets

A set in square brackets lists characters, ranges, named classes and further
bracketed sets, and combines such lists by intersection, difference and
symmetric difference, from left to right and all of one rank.

Reading computes the set at once. Case variants are added to both sides of an
operation, and to a named class and a whole bracket before their complement is
taken. Along with the set goes the number of levels it nests, counted as the
pattern is written: a bracket inside another one, a list of two or more members
and an operation are a level each.

## Main definitions

* `Bracket`: what has been read of a bracket.
* `Bracket.read?`: reading a bracket to its end.
-/

namespace Highlighter

/-- The operations between the lists of a bracket. -/
inductive SetOp where
  | intersection
  | difference
  | symmetricDifference

/-- The result of an operation. -/
def SetOp.apply : SetOp → CharSet → CharSet → CharSet
  | intersection, s, t => s.inter t
  | difference, s, t => s.diff t
  | symmetricDifference, s, t => s.symmDiff t

/-- A set and the number of levels its notation nests. -/
structure NestedSet where
  /-- The set. -/
  set : CharSet := .empty
  /-- The number of levels. -/
  depth : Nat := 0

/-- What has been read of a bracket. -/
structure Bracket where
  /-- Whether the bracket stands for a complement. -/
  negated : Bool := false
  /-- The operation in front of the list being read, and its left side. -/
  pending : Option (SetOp × NestedSet) := none
  /-- The members of that list together. -/
  members : NestedSet := {}
  /-- The number of members. -/
  count : Nat := 0

namespace Bracket

/-- Adds a member to the list being read. -/
def add (b : Bracket) (s : CharSet) (depth : Nat) : Bracket :=
  { b with
    members := ⟨b.members.set.union s, Nat.max b.members.depth depth⟩
    count := b.count + 1 }

/-- The list being read as one side of an operation. -/
def list (b : Bracket) : NestedSet :=
  if b.count < 2 then b.members else ⟨b.members.set, b.members.depth + 1⟩

/-- The value of everything read. -/
def value (f : Flags) (b : Bracket) : NestedSet :=
  match b.pending with
  | none => b.list
  | some (op, left) =>
    ⟨op.apply (f.fold left.set) (f.fold b.list.set), Nat.max left.depth b.list.depth + 1⟩

/-- Starts a new list behind an operation. -/
def operate (f : Flags) (op : SetOp) (b : Bracket) : Bracket :=
  { negated := b.negated, pending := some (op, b.value f) }

/-- The set of a finished bracket. -/
def close? (f : Flags) (b : Bracket) : Option NestedSet := do
  let v := b.value f
  return ⟨← f.whole? (f.negateIf b.negated (f.fold v.set)), v.depth + 1⟩

/-- The named classes of ASCII characters. -/
def asciiClass? : List Char → Option CharSet
  | ['a', 'l', 'n', 'u', 'm'] => some (.ofRanges [(0x30, 0x39), (0x41, 0x5A), (0x61, 0x7A)])
  | ['a', 'l', 'p', 'h', 'a'] => some (.ofRanges [(0x41, 0x5A), (0x61, 0x7A)])
  | ['a', 's', 'c', 'i', 'i'] => some (.ofRanges [(0x00, 0x7F)])
  | ['b', 'l', 'a', 'n', 'k'] => some (.ofRanges [(0x09, 0x09), (0x20, 0x20)])
  | ['c', 'n', 't', 'r', 'l'] => some (.ofRanges [(0x00, 0x1F), (0x7F, 0x7F)])
  | ['d', 'i', 'g', 'i', 't'] => some (.ofRanges [(0x30, 0x39)])
  | ['g', 'r', 'a', 'p', 'h'] => some (.ofRanges [(0x21, 0x7E)])
  | ['l', 'o', 'w', 'e', 'r'] => some (.ofRanges [(0x61, 0x7A)])
  | ['p', 'r', 'i', 'n', 't'] => some (.ofRanges [(0x20, 0x7E)])
  | ['p', 'u', 'n', 'c', 't'] =>
    some (.ofRanges [(0x21, 0x2F), (0x3A, 0x40), (0x5B, 0x60), (0x7B, 0x7E)])
  | ['s', 'p', 'a', 'c', 'e'] => some asciiSpace
  | ['u', 'p', 'p', 'e', 'r'] => some (.ofRanges [(0x41, 0x5A)])
  | ['w', 'o', 'r', 'd'] => some asciiWord
  | ['x', 'd', 'i', 'g', 'i', 't'] =>
    some (.ofRanges [(0x30, 0x39), (0x41, 0x46), (0x61, 0x66)])
  | _ => none

/-- A named class between colons, behind an opening bracket. -/
def named? (f : Flags) : List Char → Option (CharSet × List Char)
  | ':' :: cs =>
    let (negated, cs) := match cs with
      | '^' :: cs => (true, cs)
      | cs => (false, cs)
    match cs.span (· != ':') with
    | (name, ':' :: ']' :: rest) =>
      (asciiClass? name).map fun s => (f.negateIf negated (f.fold s), rest)
    | _ => none
  | _ => none

/-- Adds the dashes that stand first in a bracket, or the closing bracket that
    stands first. -/
def openWith? (f : Flags) : (dashes : Nat) → Bracket → List Char → Option (Bracket × List Char)
  | _, _, [] => none
  | 0, b, cs => some (b, cs)
  | n + 1, b, '-' :: cs => openWith? f n (b.add (.single '-') 0) (f.skip cs)
  | _ + 1, b, ']' :: cs =>
    if b.count = 0 then
      match f.skip cs with
      | [] => none
      | cs => some (b.add (.single ']') 0, cs)
    else some (b, ']' :: cs)
  | _ + 1, b, cs => some (b, cs)

/-- Reads the beginning of a bracket, behind its opening mark. -/
def open? (f : Flags) (cs : List Char) : Option (Bracket × List Char) :=
  match f.skip cs with
  | '^' :: cs => openWith? f (cs.length + 1) { negated := true } (f.skip cs)
  | cs => openWith? f (cs.length + 1) {} cs

/-- Reads one character or escape of a bracket. -/
def atom? (octal : Bool) (f : Flags) : List Char → Option (Atom × List Char)
  | [] => none
  | '\\' :: cs => Atom.ofEscape? octal f cs
  | c :: cs => some (.literal c, cs)

/-- The next character that could end a range or begin its second half: the
    first one that is neither white space nor the mark of a comment. If there
    is none it is the very next character. -/
def peek (f : Flags) (cs : List Char) : Option Char :=
  if f.extended then
    let rest := cs.dropWhile isBlank
    let rest := match rest with
      | '#' :: rest => rest.dropWhile isBlank
      | rest => rest
    rest.head?.or cs.head?
  else cs.head?

/-- A range of characters, refused where a set of bytes could not hold it. -/
def range? (f : Flags) (lo hi : Char) : Option CharSet :=
  if lo ≤ hi && (f.unicode || hi.toNat < 128) then some (.charRange lo hi) else none

/-- Reads a member that is a character, an escape or a range. -/
def member? (octal : Bool) (f : Flags) (cs : List Char) : Option (CharSet × List Char) := do
  let (first, rest) ← atom? octal f cs
  let rest := f.skip rest
  let alone : Option (CharSet × List Char) :=
    match first with
    | .literal c => (range? f c c).map (·, rest)
    | .set s => some (s, rest)
    | .look _ => none
  match rest with
  | [] => none
  | '-' :: more =>
    if peek f more == some ']' || peek f more == some '-' then alone
    else
      let (second, rest) ← atom? octal f (f.skip more)
      match first, second with
      | .literal lo, .literal hi => return (← range? f lo hi, rest)
      | _, _ => none
  | _ => alone

/-- Reads a bracket to its end, behind what `b` holds already. Each step takes
    a character, so as many steps as characters are enough. -/
def read? (octal : Bool) (f : Flags) :
    (fuel : Nat) → Bracket → List Char → Option (NestedSet × List Char)
  | 0, _, _ => none
  | n + 1, b, cs =>
    match f.skip cs with
    | [] => none
    | ']' :: rest => (b.close? f).map (·, rest)
    | '[' :: rest =>
      match named? f rest with
      | some (s, rest) => do read? octal f n (b.add (← f.whole? s) 0) rest
      | none => do
        let (inner, rest) ← open? f rest
        let (s, rest) ← read? octal f n inner rest
        read? octal f n (b.add s.set s.depth) rest
    | '&' :: '&' :: rest => read? octal f n (b.operate f .intersection) rest
    | '-' :: '-' :: rest => read? octal f n (b.operate f .difference) rest
    | '~' :: '~' :: rest => read? octal f n (b.operate f .symmetricDifference) rest
    | cs => do
      let (s, rest) ← member? octal f cs
      read? octal f n (b.add s 0) rest

end Bracket

end Highlighter
