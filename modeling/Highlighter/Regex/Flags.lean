import Highlighter.Regex.Look

/-!
# Flags of patterns

A flag changes how the rest of the enclosing group is read. Flags are set by
options for a whole pattern and by directives inside it.

With `extended`, white space in a pattern means nothing, and neither does a
comment from a number sign to the end of its line. The functions here find the
next character that counts.

## Main definitions

* `Flags`: the flags in force at a point of a pattern.
* `Flags.skip`: a pattern from its next significant character on.
* `PatternOptions`: what can be chosen for a whole pattern.
-/

namespace Highlighter

/-- The flags in force at a point of a pattern. -/
structure Flags where
  /-- Letters match both their cases. -/
  ignoreCase : Bool := false
  /-- The line anchors match at every line. -/
  multiLine : Bool := false
  /-- The dot matches the ends of lines too. -/
  dotAll : Bool := false
  /-- A carriage return ends a line as well. -/
  crlf : Bool := false
  /-- Repetitions are lazy unless marked greedy. -/
  swapGreed : Bool := false
  /-- White space and comments mean nothing. -/
  extended : Bool := false
  /-- Sets and word edges know all characters, and not only the ASCII ones. -/
  unicode : Bool := true
deriving DecidableEq

/-- What can be chosen for a whole pattern. Two more settings stay at their defaults: the
    end of a line that the dot leaves out is the line feed, and what could match half a
    character is refused. -/
structure PatternOptions where
  /-- The flags at its start. -/
  flags : Flags := {}
  /-- A backslash and digits name a character by its octal code. -/
  octal : Bool := false
  /-- The number of levels that may be nested. -/
  nestLimit : Nat := 250

/-- A pattern from its next significant character on; `comment` tells whether
    it starts inside a comment. -/
def skipBlanks : (comment : Bool) → List Char → List Char
  | _, [] => []
  | true, c :: cs => skipBlanks (c != '\n') cs
  | false, c :: cs =>
    if isBlank c then skipBlanks false cs
    else if c == '#' then skipBlanks true cs
    else c :: cs

/-- The significant characters up to a closing brace, and what follows it. -/
def untilBrace (extended : Bool) : (comment : Bool) → List Char → Option (List Char × List Char)
  | _, [] => none
  | true, c :: cs => untilBrace extended (c != '\n') cs
  | false, c :: cs =>
    if extended && isBlank c then untilBrace extended false cs
    else if extended && c == '#' then untilBrace extended true cs
    else if c == '\x7d' then some ([], cs)
    else (untilBrace extended false cs).map fun (name, rest) => (c :: name, rest)

namespace Flags

/-- A pattern from its next significant character on. -/
def skip (f : Flags) (cs : List Char) : List Char :=
  if f.extended then skipBlanks false cs else cs

/-- The significant characters up to a closing brace, and what follows it. -/
def braced? (f : Flags) (cs : List Char) : Option (List Char × List Char) :=
  untilBrace f.extended false cs

/-- Sets the flag with a given letter. -/
def set? (f : Flags) (letter : Char) (on : Bool) : Option Flags :=
  match letter with
  | 'i' => some { f with ignoreCase := on }
  | 'm' => some { f with multiLine := on }
  | 's' => some { f with dotAll := on }
  | 'R' => some { f with crlf := on }
  | 'U' => some { f with swapGreed := on }
  | 'x' => some { f with extended := on }
  | 'u' => some { f with unicode := on }
  | _ => none

/-- A directive's letters applied to the flags, up to the colon or parenthesis
    that ends them. A dash turns the letters behind it off; it may stand once
    and not last, and no letter may stand twice. The result tells also whether
    there were any letters, and starts at the end mark. -/
def directive? : (seen : List Char) → (on : Bool) → Flags → List Char →
    Option (Flags × Bool × List Char)
  | _, _, _, [] => none
  | seen, on, f, c :: cs =>
    if c == ':' || c == ')' then
      if seen.head? == some '-' then none else some (f, !seen.isEmpty, c :: cs)
    else if seen.contains c then none
    else if c == '-' then directive? (c :: seen) false f cs
    else do directive? (c :: seen) on (← f.set? c on) cs

end Flags

end Highlighter
