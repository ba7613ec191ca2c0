import Highlighter.Regex.Reader
import Highlighter.Regex.Search
import Highlighter.Regex.Size

/-!
# Regular expressions

A regular expression is read once and matched at many places. Matching is
anchored: it asks for a match that starts at a given offset of a source, and
assertions see the whole source.

An offset inside a character is no place of the source and nothing matches
there, not even the empty text.

## Main definitions

* `Regex.compile`: reading a pattern.
* `Regex.findAt?`: the match at an offset.
* `Regex.escape`: a pattern that matches a given text.
-/

namespace Highlighter

/-- A regular expression, ready for matching. -/
structure Regex where
  /-- The program. -/
  code : Code
  /-- The number of its labels. -/
  labels : Nat
  /-- The number of groups, the whole match included. -/
  groups : Nat

/-- Why a pattern is refused. -/
inductive RegexError where
  /-- It is not well formed. -/
  | malformed
  /-- Its program would be too large. -/
  | tooLarge
deriving DecidableEq

/-- A match: the place of the whole and of the groups that took part. -/
structure Match where
  /-- The place of the whole match. -/
  span : Span
  /-- The groups and their places, the latest first. -/
  groups : List (Nat × Span)

/-- The place of a group, none if it took no part. Group zero is the whole
    match. A group that matched several times has its last place. -/
def Match.group? (m : Match) (index : Nat) : Option Span :=
  if index = 0 then some m.span else m.groups.lookup index

namespace Regex

/-- Reads a pattern. -/
def compile (options : PatternOptions) (pattern : String) : Except RegexError Regex :=
  match Shape.read? options pattern.toList with
  | none => .error .malformed
  | some shape =>
    if shape.isSmall then
      let (code, labels) := Code.ofShape shape
      .ok { code, labels, groups := shape.groupCount }
    else .error .tooLarge

/-- The match that starts at an offset of a source. -/
def findAt? (r : Regex) (source : String) (offset : Nat) : Option Match := do
  let place ← Place.seek? source.toList offset
  let thread ← r.code.matchAt? r.labels place
  return { span := ⟨offset, thread.place.offset⟩, groups := thread.groups }

/-- A pattern that matches exactly the given text. -/
def escape (text : List Char) : List Char :=
  text.flatMap fun c => if metaChars.contains c then ['\\', c] else [c]

end Regex

end Highlighter
