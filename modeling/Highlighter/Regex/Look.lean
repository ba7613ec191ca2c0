import Highlighter.Unicode.Property
import Highlighter.Span

/-!
# Assertions about a place in a text

An assertion matches no characters. It looks at the character before and the
character after a place and holds or fails there. All assertions of patterns
are of this kind: the ends of the text, the ends of lines, and the edges of
words.

Lines end at a line feed, or, with the second convention, at a carriage return,
a line feed, or the two together, which then count as one end.

## Main definitions

* `Place`: a place in a text, with the text that follows it.
* `Place.seek?`: the place at a byte offset.
* `Look`: the assertions.
* `Look.holds`: whether an assertion holds at a place.
-/

namespace Highlighter

/-- A place in a text. -/
structure Place where
  /-- The character before the place, none at the start of the text. -/
  before : Option Char
  /-- The characters after the place. -/
  rest : List Char
  /-- The number of bytes before the place. -/
  offset : Nat
deriving DecidableEq

namespace Place

/-- The start of a text. -/
def start (text : List Char) : Place := ⟨none, text, 0⟩

/-- The place behind the next character, which is given. -/
def next (p : Place) (c : Char) (rest : List Char) : Place :=
  ⟨some c, rest, p.offset + c.utf8Size⟩

/-- The place `n` bytes further on, if these bytes end at a character
    boundary. -/
def skipBytes? : List Char → Nat → Place → Option Place
  | _, 0, p => some p
  | [], _ + 1, _ => none
  | c :: cs, n + 1, p =>
    if c.utf8Size ≤ n + 1 then skipBytes? cs (n + 1 - c.utf8Size) (p.next c cs) else none

/-- The place at a byte offset of a text, if the offset is on a character
    boundary. -/
def seek? (text : List Char) (offset : Nat) : Option Place :=
  skipBytes? text offset (start text)

/-- The place behind some given characters, if they come next. -/
def skipText? : List Char → Place → Option Place
  | [], p => some p
  | c :: cs, p =>
    match p.rest with
    | [] => none
    | d :: rest => if c = d then skipText? cs (p.next d rest) else none

end Place

/-- The ways in which a place can lie at the edge of a word. -/
inductive WordEdge where
  /-- A word begins or ends here. -/
  | boundary
  /-- No word begins or ends here. -/
  | noBoundary
  /-- A word begins here. -/
  | start
  /-- A word ends here. -/
  | stop
  /-- No word goes on to the left. -/
  | startHalf
  /-- No word goes on to the right. -/
  | stopHalf
deriving DecidableEq

/-- The assertions of patterns. -/
inductive Look where
  /-- The start of the text. -/
  | textStart
  /-- The end of the text. -/
  | textStop
  /-- The start of a line; `crlf` chooses the second line convention. -/
  | lineStart (crlf : Bool)
  /-- The end of a line. -/
  | lineStop (crlf : Bool)
  /-- The edge of a word; `ascii` words hold ASCII letters, digits and
      underscores only. -/
  | word (edge : WordEdge) (ascii : Bool)
deriving DecidableEq

/-- The ASCII letters, digits and the underscore. -/
def asciiWord : CharSet :=
  .ofRanges [(0x30, 0x39), (0x41, 0x5A), (0x5F, 0x5F), (0x61, 0x7A)]

/-- Whether there is a character, and one that words are made of. -/
def isWordChar (ascii : Bool) : Option Char → Bool
  | none => false
  | some c => if ascii then asciiWord.contains c else Property.word.contains c

/-- Whether a place lies at the edge of a word, given whether a word character
    comes before and after it. -/
def WordEdge.holds : WordEdge → Bool → Bool → Bool
  | boundary, before, after => before != after
  | noBoundary, before, after => before == after
  | start, before, after => !before && after
  | stop, before, after => before && !after
  | startHalf, before, _ => !before
  | stopHalf, _, after => !after

/-- Whether an assertion holds between two neighbouring characters, none being
    the end of the text. -/
def Look.holdsBetween : Look → Option Char → Option Char → Bool
  | textStart, before, _ => before.isNone
  | textStop, _, after => after.isNone
  | lineStart false, before, _ => before.isNone || before == some '\n'
  | lineStart true, before, after =>
    before.isNone || before == some '\n' || (before == some '\r' && after != some '\n')
  | lineStop false, _, after => after.isNone || after == some '\n'
  | lineStop true, before, after =>
    after.isNone || after == some '\r' || (after == some '\n' && before != some '\r')
  | word edge ascii, before, after =>
    edge.holds (isWordChar ascii before) (isWordChar ascii after)

/-- Whether an assertion holds at a place. -/
def Look.holds (look : Look) (p : Place) : Bool :=
  look.holdsBetween p.before p.rest.head?

end Highlighter
