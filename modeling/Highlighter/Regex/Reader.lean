import Highlighter.Regex.Bracket

/-!
# Reading patterns

Reading turns the notation of a pattern into its shape. Flags change while the
pattern is read, groups are numbered as they open, and the number of nested
levels is counted along the way, so one pass does it all. Every mistake in a
pattern has the same outcome, so reading either succeeds or does not.

Levels are counted as the pattern is written, before shapes are simplified: a
sequence or choice of two or more, a repetition, a group and a bracketed set
are a level each.

## Main definitions

* `Piece`: a shape and the levels its notation nests.
* `ReadState`: what reading remembers from left to right.
* `readBody?`: reading up to the end of a group.
* `Shape.read?`: the shape of a pattern.
-/

namespace Highlighter

/-- A shape and the number of levels its notation nests. -/
structure Piece where
  /-- The shape. -/
  shape : Shape
  /-- The number of levels. -/
  depth : Nat

/-- A member of a sequence as written. A directive has a place in the sequence
    and matches nothing; it cannot be repeated. -/
inductive Item where
  | directive
  | piece (p : Piece)

/-- The member as a piece. -/
def Item.toPiece : Item → Piece
  | directive => ⟨.empty, 0⟩
  | piece p => p

/-- What reading remembers from left to right. -/
structure ReadState where
  /-- The flags in force. -/
  flags : Flags
  /-- The number of groups opened so far. -/
  groups : Nat := 0
  /-- The names of groups used so far. -/
  names : List (List Char) := []

namespace Piece

/-- One piece made of some: none of them, the only one, or one level above all
    of them. -/
def join (build : List Shape → Shape) : List Piece → Piece
  | [] => ⟨.empty, 0⟩
  | [p] => p
  | ps => ⟨build (ps.map shape), (ps.map depth).foldl Nat.max 0 + 1⟩

/-- The sequence of some members, the last one given first. -/
def ofItems (items : List Item) : Piece :=
  join .sequence (items.reverse.map Item.toPiece)

/-- The choice between some branches, the last one given first. -/
def ofBranches (branches : List Piece) : Piece :=
  join .choice branches.reverse

/-- A repetition of a piece. -/
def repeated (f : Flags) (min : Nat) (max : Option Nat) (greedy : Bool) (p : Piece) : Piece :=
  ⟨.repeated min max (greedy != f.swapGreed) p.shape, p.depth + 1⟩

/-- The piece that an atom stands for. -/
def ofAtom (f : Flags) : Atom → Piece
  | .literal c => ⟨f.literalShape c, 0⟩
  | .set s => ⟨.ofSet f.unicode s, 0⟩
  | .look l => ⟨.look l, 0⟩

end Piece

/-- Repeats the last member, which must not be a directive. -/
def repeatLast? (f : Flags) (min : Nat) (max : Option Nat) (greedy : Bool) :
    List Item → Option (List Item)
  | .piece p :: items => some (.piece (p.repeated f min max greedy) :: items)
  | _ => none

/-- Whether a repetition goes on with the mark of a lazy one, and what follows
    that. -/
def readGreedy : List Char → Bool × List Char
  | '?' :: cs => (false, cs)
  | cs => (true, cs)

/-- Reads a number with blanks around its digits skipped. With `extended`,
    blanks may stand between the digits too. The value is none where there are
    no digits. -/
def readNumber (f : Flags) (cs : List Char) : Option Nat × List Char :=
  digits none cs.length (cs.dropWhile isBlank)
where
  /-- Reads the digits behind the value so far. -/
  digits (value : Option Nat) : (fuel : Nat) → List Char → Option Nat × List Char
    | 0, cs => (value, cs)
    | n + 1, cs =>
      match cs with
      | c :: rest =>
        if c.isDigit then digits (some (10 * value.getD 0 + (c.toNat - '0'.toNat))) n (f.skip rest)
        else (value, f.skip (cs.dropWhile isBlank))
      | [] => (value, [])

/-- The largest count of a repetition. -/
def maxCount : Nat := 0xFFFFFFFF

/-- Reads the counts of a repetition, behind its opening brace and up to its
    closing one. -/
def readCounts? (f : Flags) (cs : List Char) : Option (Nat × Option Nat × List Char) := do
  let (first, rest) := readNumber f (f.skip cs)
  let min ← first
  let (max, rest) ← match rest with
    | ',' :: rest =>
      match f.skip rest with
      | [] => none
      | '\x7d' :: rest => some (none, '\x7d' :: rest)
      | rest =>
        let (second, rest) := readNumber f rest
        second.map fun max => (some max, rest)
    | rest => some (some min, rest)
  match rest with
  | '\x7d' :: rest =>
    if min ≤ maxCount && (max.all fun m => min ≤ m && m ≤ maxCount) then
      return (min, max, f.skip rest)
    else none
  | _ => none

/-- Whether a character may stand in the name of a group. -/
def isNameChar (first : Bool) (c : Char) : Bool :=
  if first then c == '_' || Property.currentAlphabetic.contains c
  else c == '_' || c == '.' || c == '[' || c == ']' || Property.alphanumeric.contains c

/-- Reads the name of a group, behind its opening mark. -/
def readName? (cs : List Char) : Option (List Char × List Char) :=
  match cs.span (· != '>') with
  | (c :: name, _ :: rest) =>
    if isNameChar true c && name.all (isNameChar false) then some (c :: name, rest) else none
  | _ => none

/-- How a group begins. -/
inductive GroupStart where
  /-- Not a group, but a change of flags from here on. -/
  | directive (flags : Flags)
  /-- A group that is not numbered, with its flags. -/
  | plain (flags : Flags)
  /-- A numbered group, perhaps with a name. -/
  | numbered (name : Option (List Char))

/-- Reads how a group begins, behind its opening parenthesis. Assertions about
    what is ahead or behind do not exist. -/
def GroupStart.read? (f : Flags) (cs : List Char) : Option (GroupStart × List Char) :=
  match f.skip cs with
  | '?' :: '=' :: _ => none
  | '?' :: '!' :: _ => none
  | '?' :: '<' :: '=' :: _ => none
  | '?' :: '<' :: '!' :: _ => none
  | '?' :: 'P' :: '<' :: rest => (readName? rest).map fun (name, rest) => (numbered name, rest)
  | '?' :: '<' :: rest => (readName? rest).map fun (name, rest) => (numbered name, rest)
  | '?' :: rest =>
    match Flags.directive? [] true f rest with
    | some (flags, _, ':' :: rest) => some (plain flags, rest)
    | some (flags, true, ')' :: rest) => some (directive flags, rest)
    | _ => none
  | rest => some (numbered none, rest)

/-- The state inside a group. -/
def ReadState.enter? (st : ReadState) : GroupStart → Option ReadState
  | .directive flags => some { st with flags }
  | .plain flags => some { st with flags }
  | .numbered none => some { st with groups := st.groups + 1 }
  | .numbered (some name) =>
    if st.names.contains name then none
    else some { st with groups := st.groups + 1, names := name :: st.names }

/-- The piece of a group that began as `start` when `index` groups were open
    before it. -/
def Piece.grouped (start : GroupStart) (index : Nat) (p : Piece) : Piece :=
  match start with
  | .numbered _ => ⟨.group (index + 1) p.shape, p.depth + 1⟩
  | _ => ⟨p.shape, p.depth + 1⟩

/-- Reads up to the end of a group or of the pattern. `branches` and `items`
    hold what has been read, last first: the finished branches of a choice and
    the members of the branch being read. Each step takes a character, so as
    many steps as characters are enough. -/
def readBody? (octal : Bool) : (fuel : Nat) → ReadState → (branches : List Piece) →
    (items : List Item) → List Char → Option (Piece × ReadState × List Char)
  | 0, _, _, _, _ => none
  | n + 1, st, branches, items, cs =>
    let f := st.flags
    match f.skip cs with
    | [] => some (.ofBranches (.ofItems items :: branches), st, [])
    | ')' :: rest => some (.ofBranches (.ofItems items :: branches), st, ')' :: rest)
    | '|' :: rest => readBody? octal n st (.ofItems items :: branches) [] rest
    | '(' :: rest => do
      let (start, rest) ← GroupStart.read? f rest
      let inner ← st.enter? start
      match start with
      | .directive _ => readBody? octal n inner branches (.directive :: items) rest
      | _ =>
        let (body, after, rest) ← readBody? octal n inner [] [] rest
        match rest with
        | ')' :: rest =>
          readBody? octal n { after with flags := f } branches
            (.piece (body.grouped start st.groups) :: items) rest
        | _ => none
    | '[' :: rest => do
      let (bracket, rest) ← Bracket.open? f rest
      let (s, rest) ← Bracket.read? octal f (rest.length + 1) bracket rest
      readBody? octal n st branches (.piece ⟨.ofSet f.unicode s.set, s.depth⟩ :: items) rest
    | '?' :: rest => do
      let (greedy, rest) := readGreedy rest
      readBody? octal n st branches (← repeatLast? f 0 (some 1) greedy items) rest
    | '*' :: rest => do
      let (greedy, rest) := readGreedy rest
      readBody? octal n st branches (← repeatLast? f 0 none greedy items) rest
    | '+' :: rest => do
      let (greedy, rest) := readGreedy rest
      readBody? octal n st branches (← repeatLast? f 1 none greedy items) rest
    | '\x7b' :: rest => do
      let (min, max, rest) ← readCounts? f rest
      let (greedy, rest) := readGreedy rest
      readBody? octal n st branches (← repeatLast? f min max greedy items) rest
    | '.' :: rest => do
      readBody? octal n st branches (.piece ⟨← f.dotShape?, 0⟩ :: items) rest
    | '^' :: rest =>
      let l : Look := if f.multiLine then .lineStart f.crlf else .textStart
      readBody? octal n st branches (.piece (.ofAtom f (.look l)) :: items) rest
    | '$' :: rest =>
      let l : Look := if f.multiLine then .lineStop f.crlf else .textStop
      readBody? octal n st branches (.piece (.ofAtom f (.look l)) :: items) rest
    | '\\' :: rest => do
      let (atom, rest) ← Atom.ofEscape? octal f rest
      readBody? octal n st branches (.piece (.ofAtom f atom) :: items) rest
    | c :: rest => readBody? octal n st branches (.piece (.ofAtom f (.literal c)) :: items) rest

/-- The shape of a pattern, if it is well formed and not nested too deeply. -/
def Shape.read? (options : PatternOptions) (pattern : List Char) : Option Shape :=
  match readBody? options.octal (pattern.length + 1) { flags := options.flags } [] [] pattern with
  | some (p, _, []) => if p.depth ≤ options.nestLimit then some p.shape else none
  | _ => none

end Highlighter
