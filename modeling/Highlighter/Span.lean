import Highlighter.Text.Quoted

/-!
# Spans

A span is a pair of byte offsets into the UTF-8 form of a source, the place of
a lexeme. Nothing keeps the two ends in order or inside a source: a span comes
from a matcher, and a matcher may report anything. `Span.isValidIn` is the test
that a span is a piece of a given source. Texts are walked character by
character, each counting for the bytes of its UTF-8 form.

## Main definitions

* `byteLength`: the length of a text in bytes.
* `offsetCount`: the number of offsets there are.
* `afterBytes?`: what follows a number of bytes, if they end a character.
* `Span`: two byte offsets.
* `Span.isValidIn`: whether a span cuts a piece out of a source.
* `Span.slice`: that piece.
-/

namespace Highlighter

/-- The length of a text in bytes. -/
def byteLength (cs : List Char) : Nat :=
  cs.foldr (fun c bytes => c.utf8Size + bytes) 0

/-- The number of offsets there are. Offsets are words of sixty-four bits, and
    sums of offsets wrap around. -/
def offsetCount : Nat := UInt64.size

/-- The characters behind the first `n` bytes, if `n` bytes end at a
    character boundary. -/
def afterBytes? : Nat → List Char → Option (List Char)
  | 0, cs => some cs
  | _ + 1, [] => none
  | n + 1, c :: cs => if c.utf8Size ≤ n + 1 then afterBytes? (n + 1 - c.utf8Size) cs else none

/-- The characters that begin within the first `n` bytes. -/
def takeBytes : Nat → List Char → List Char
  | 0, _ => []
  | _ + 1, [] => []
  | n + 1, c :: cs => c :: takeBytes (n + 1 - c.utf8Size) cs

/-- Two byte offsets, the place of a lexeme in its source. -/
structure Span where
  /-- The offset of the first byte. -/
  start : Nat
  /-- The offset behind the last byte. -/
  stop : Nat
deriving DecidableEq

namespace Span

/-- The empty span at an offset. -/
def emptyAt (offset : Nat) : Span := ⟨offset, offset⟩

/-- A span is empty unless it ends behind its start. -/
def isEmpty (s : Span) : Bool := s.stop ≤ s.start

/-- The number of bytes, zero for an inverted span. -/
def length (s : Span) : Nat := s.stop - s.start

/-- Whether an offset lies on a character boundary of a source. -/
def isBoundary (source : String) (offset : Nat) : Bool :=
  (afterBytes? offset source.toList).isSome

/-- Whether the span cuts a piece out of a source: its ends are in order, within
    the source and on character boundaries. -/
def isValidIn (s : Span) (source : String) : Bool :=
  s.start ≤ s.stop && isBoundary source s.start && isBoundary source s.stop

/-- The piece of a source that a valid span cuts out. -/
def slice (s : Span) (source : String) : String :=
  match afterBytes? s.start source.toList with
  | some rest => String.ofList (takeBytes s.length rest)
  | none => ""

/-- The span as two offsets with two dots between them. -/
def display (s : Span) : String :=
  toString s.start ++ ".." ++ toString s.stop

/-- The span with its field names. -/
def inspect (s : Span) : String :=
  Text.record "Span" [("start", toString s.start), ("end", toString s.stop)]

end Span

end Highlighter
