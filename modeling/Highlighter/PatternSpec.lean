import Highlighter.Error
import Highlighter.Json.Record
import Highlighter.Token

/-!
# Written forms of spans, tokens and patterns

Spans, tokens and pattern specifications are kept in JSON. A pattern
specification is what a scanner can be built from: the type of the tokens, the
text of a regular expression, and the group that holds the lexeme. Leaving the
group out means the whole match, and so does group zero, but the two are
different specifications and are written differently.

## Main definitions

* `PatternSpec`: a pattern as data.
* `Span.toJson`, `Token.toJson`, `PatternSpec.toJson`: writing.
* `Span.ofJson`, `Token.ofJson`, `PatternSpec.ofJson`, `PatternSpec.listOfJson`:
  reading.
-/

namespace Highlighter

/-- A pattern as data. -/
structure PatternSpec where
  /-- The type of the tokens. -/
  type : String
  /-- The regular expression. -/
  pattern : String
  /-- The group that holds the lexeme, if one is given. -/
  group : Option Nat := none
deriving DecidableEq

namespace PatternSpec

/-- The number of the group that holds the lexeme. -/
def groupIndex (p : PatternSpec) : Nat := p.group.getD 0

/-- The specification on one line. -/
def display (p : PatternSpec) : String :=
  let head := p.type ++ ": " ++ Text.plain p.pattern
  match p.group with
  | some group => head ++ " [" ++ toString group ++ "]"
  | none => head

/-- The specification with its field names. -/
def inspect (p : PatternSpec) : String :=
  Text.record "PatternSpec" [("token_type", Text.quoted p.type),
    ("pattern", Text.quoted p.pattern), ("group", Text.option (p.group.map toString))]

end PatternSpec

namespace Json

/-- The fields of a span. -/
def spanSchema : Schema := ⟨"Span", [("start", .nat), ("end", .nat)]⟩

/-- The fields of a token. -/
def tokenSchema : Schema :=
  ⟨"OwnedToken", [("token_type", .string), ("text", .string), ("position", .nat)]⟩

/-- The fields of a pattern specification. -/
def patternSchema : Schema :=
  ⟨"PatternSpec", [("token_type", .string), ("pattern", .string), ("group", .natOrAbsent)]⟩

/-- The span with the given field values. -/
def spanOfValues : List Value → Except DecodeError Span
  | [.nat start, .nat stop] => .ok ⟨start, stop⟩
  | _ => .error .malformed

/-- The token with the given field values. -/
def tokenOfValues : List Value → Except DecodeError Token
  | [.string type, .string text, .nat position] => .ok ⟨type, text, position⟩
  | _ => .error .malformed

/-- The pattern specification with the given field values. -/
def patternOfValues : List Value → Except DecodeError PatternSpec
  | [.string type, .string pattern, .nat group] => .ok ⟨type, pattern, some group⟩
  | [.string type, .string pattern, .absent] => .ok ⟨type, pattern, none⟩
  | _ => .error .malformed

/-- Reads a record and makes a value of its fields. -/
def readAs {α : Type} (schema : Schema) (make : List Value → Except DecodeError α) : Reader α :=
  fun cs => do
    let (values, rest) ← schema.read cs
    return (← make values, rest)

end Json

/-- The written form of a span. -/
def Span.toJson (s : Span) : String :=
  Json.spanSchema.write [.nat s.start, .nat s.stop]

/-- Reads a span. -/
def Span.ofJson (text : String) : Except Json.DecodeError Span :=
  Json.decode (Json.readAs Json.spanSchema Json.spanOfValues) text

/-- The written form of a token. -/
def Token.toJson (t : Token) : String :=
  Json.tokenSchema.write [.string t.type, .string t.text, .nat t.position]

/-- Reads a token. -/
def Token.ofJson (text : String) : Except Json.DecodeError Token :=
  Json.decode (Json.readAs Json.tokenSchema Json.tokenOfValues) text

namespace PatternSpec

/-- The written form of a specification. -/
def toJson (p : PatternSpec) : String :=
  Json.patternSchema.write [.string p.type, .string p.pattern,
    match p.group with
    | some group => .nat group
    | none => .absent]

/-- Reads a specification. -/
def ofJson (text : String) : Except Json.DecodeError PatternSpec :=
  Json.decode (Json.readAs Json.patternSchema Json.patternOfValues) text

/-- The written form of a list of specifications. -/
def listToJson (ps : List PatternSpec) : String :=
  String.ofList (Json.writeList (ps.map fun p => p.toJson.toList))

/-- Reads a list of specifications. -/
def listOfJson (text : String) : Except Json.DecodeError (List PatternSpec) :=
  Json.decode (Json.readList (Json.readAs Json.patternSchema Json.patternOfValues)) text

end PatternSpec

end Highlighter
