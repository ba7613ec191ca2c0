import Highlighter.PatternSpec
import Highlighter.Scan

/-!
# Building scanners from data

A builder collects pattern specifications, one by one, in lists or from JSON,
and makes a scanner of all of them. The order in which they are collected is the
order of their priority. Nothing is checked before the scanner is built, except
that JSON has to be readable; building stops at the first specification that
cannot be registered.

## Main definitions

* `ScannerBuilder`: collected specifications.
* `ScannerBuilder.build`: the scanner of all of them.
-/

namespace Highlighter

/-- Collected pattern specifications. -/
structure ScannerBuilder where
  /-- The specifications, in the order of their priority. -/
  patterns : List PatternSpec := []
  /-- Whether empty matches will be marked. -/
  markEmpty : Bool := false

/-- Adds the patterns of some specifications to a scanner. -/
def Scanner.addSpecs {σ : Type} (s : Scanner σ) :
    List PatternSpec → Logged (Except Error (Scanner σ))
  | [] => ⟨.ok s, []⟩
  | p :: ps =>
    (s.addRegex p.type p.pattern p.groupIndex).andThen fun
      | .ok s => s.addSpecs ps
      | .error e => ⟨.error e, []⟩

namespace ScannerBuilder

/-- The builder without specifications. -/
def empty : ScannerBuilder := {}

/-- Adds a specification. -/
def addPattern (b : ScannerBuilder) (p : PatternSpec) : ScannerBuilder :=
  { b with patterns := b.patterns ++ [p] }

/-- Adds some specifications. -/
def addPatterns (b : ScannerBuilder) (ps : List PatternSpec) : ScannerBuilder :=
  { b with patterns := b.patterns ++ ps }

/-- Adds the specifications of a JSON text. -/
def addJson (b : ScannerBuilder) (text : String) : Except Error ScannerBuilder :=
  match PatternSpec.listOfJson text with
  | .ok ps => .ok (b.addPatterns ps)
  | .error cause => .error (.badJson cause)

/-- Sets whether empty matches will be marked. -/
def setMarkEmpty (b : ScannerBuilder) (mark : Bool) : ScannerBuilder :=
  { b with markEmpty := mark }

/-- The scanner of all specifications. -/
def build {σ : Type} (b : ScannerBuilder) : Logged (Except Error (Scanner σ)) :=
  .after [Logged.debug ("Building scanner from " ++ toString b.patterns.length ++ " patterns")]
    ((Scanner.empty.addSpecs b.patterns).map fun
      | .ok s => .ok (s.setMarkEmpty b.markEmpty)
      | .error e => .error e)

/-- The builder with its field names. -/
def inspect (b : ScannerBuilder) : String :=
  Text.record "ScannerBuilder" [("patterns", Text.list (b.patterns.map PatternSpec.inspect)),
    ("mark_empty_matches", Text.bool b.markEmpty)]

end ScannerBuilder

end Highlighter
