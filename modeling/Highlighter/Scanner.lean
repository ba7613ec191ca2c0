import Highlighter.Matcher
import Highlighter.Token

/-!
# Scanners

A scanner is a list of typed patterns in the order of their priority, a hook
that sees every token of a scan, and a switch that marks empty matches.

A pattern's type must be a name that only patterns give: it is not empty and
not one of the reserved types.

## Main definitions

* `Scanner`: scanners over contexts of some type.
* `Scanner.add`: adding a pattern.
-/

namespace Highlighter

/-- A pattern: a matcher and the type of the tokens it finds. -/
structure Pattern (σ : Type) where
  /-- The type of the tokens. -/
  type : String
  /-- The matcher. -/
  matcher : Matcher σ

/-- Scanners over contexts of type `σ`. -/
structure Scanner (σ : Type) where
  /-- The patterns, the ones of higher priority first. -/
  patterns : List (Pattern σ) := []
  /-- The hook that sees every token of a scan and may change the context. -/
  onMatch : Option (Token → σ → σ) := none
  /-- Whether the type of an empty match tells that it is empty. -/
  markEmpty : Bool := false

namespace Scanner

variable {σ : Type}

/-- The scanner without patterns. -/
def empty : Scanner σ := {}

/-- Adds a pattern of the lowest priority. -/
def add (s : Scanner σ) (type : String) (matcher : Matcher σ) :
    Logged (Except Error (Scanner σ)) :=
  if type.isEmpty || TokenType.isReserved type then ⟨.error (.badTokenType type), []⟩
  else
    { value := .ok { s with patterns := s.patterns ++ [⟨type, matcher⟩] }
      log := [Logged.debug ("Adding pattern #" ++ toString s.patterns.length
        ++ " for token type '" ++ type ++ "'")] }

/-- Adds a pattern that is a group of a regular expression. -/
def addRegex (s : Scanner σ) (type pattern : String) (group : Nat) :
    Logged (Except Error (Scanner σ)) :=
  match RegexMatcher.compile {} pattern group with
  | .ok m => s.add type m.toMatcher
  | .error e => ⟨.error e, []⟩

/-- Sets the hook. -/
def setOnMatch (s : Scanner σ) (hook : Token → σ → σ) : Scanner σ :=
  { s with onMatch := some hook }

/-- Removes the hook. -/
def clearOnMatch (s : Scanner σ) : Scanner σ := { s with onMatch := none }

/-- Sets whether empty matches are marked. -/
def setMarkEmpty (s : Scanner σ) (mark : Bool) : Scanner σ := { s with markEmpty := mark }

/-- Shows a token to the hook. -/
def notify (s : Scanner σ) (token : Token) (context : σ) : σ :=
  match s.onMatch with
  | some hook => hook token context
  | none => context

/-- The types of the patterns, in order. -/
def tokenTypes (s : Scanner σ) : List String := s.patterns.map (·.type)

/-- The number of patterns. -/
def size (s : Scanner σ) : Nat := s.patterns.length

/-- Whether there are no patterns. -/
def isEmpty (s : Scanner σ) : Bool := s.patterns.isEmpty

/-- The scanner with its field names. -/
def inspect (s : Scanner σ) : String :=
  Text.record "Scanner" [("token_types", Text.list (s.tokenTypes.map Text.quoted)),
    ("on_match", Text.bool s.onMatch.isSome), ("mark_empty_matches", Text.bool s.markEmpty)]

end Scanner

end Highlighter
