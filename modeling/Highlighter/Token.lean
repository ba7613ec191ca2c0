import Highlighter.Span

/-!
# Tokens

A token is a typed piece of a source. Types are free names, except for four
that only a scan itself may give: the marks of the start and the end, the
character that no pattern recognised, and, if asked for, the match of an empty
text.

## Main definitions

* `Token`: a typed piece of a source.
* `TokenType.isReserved`: whether only a scan may give a type.
-/

namespace Highlighter

namespace TokenType

/-- The type of the token that starts every scan. -/
def start : String := "(start)"

/-- The type of the token that ends a complete scan. -/
def stop : String := "(end)"

/-- The type of a character that no pattern recognised. -/
def unmatched : String := "(unmatched)"

/-- The type of an empty match, if empty matches are marked. -/
def empty : String := "(empty)"

/-- The key of the rule for types without a rule of their own. -/
def unknown : String := "(unknown)"

/-- The types that only a scan may give. -/
def reserved : List String := [start, stop, unmatched, empty]

/-- Whether only a scan may give a type. -/
def isReserved (type : String) : Bool := reserved.contains type

end TokenType

/-- A typed piece of a source. -/
structure Token where
  /-- The type. -/
  type : String
  /-- The text of the piece. -/
  text : String
  /-- The byte offset where it starts. -/
  position : Nat
deriving DecidableEq

namespace Token

/-- The token that starts every scan. -/
def start : Token := ⟨TokenType.start, "", 0⟩

/-- The token that ends a complete scan. -/
def stop (position : Nat) : Token := ⟨TokenType.stop, "", position⟩

/-- The byte offset behind the token. -/
def endPosition (t : Token) : Nat := (t.position + byteLength t.text.toList) % offsetCount

/-- A token that ends at an offset a word can hold ends behind its text. -/
theorem endPosition_eq {t : Token} (h : t.position + byteLength t.text.toList < offsetCount) :
    t.endPosition = t.position + byteLength t.text.toList :=
  Nat.mod_eq_of_lt h

/-- The place of the token. -/
def span (t : Token) : Span := ⟨t.position, t.endPosition⟩

/-- Whether the token has no text. -/
def isEmpty (t : Token) : Bool := t.text.isEmpty

/-- Whether the token has a given type. -/
def is (t : Token) (type : String) : Bool := t.type == type

/-- Whether the token has a type that only a scan may give. -/
def isReserved (t : Token) : Bool := TokenType.isReserved t.type

/-- The token as its type, position and text. -/
def display (t : Token) : String :=
  t.type ++ "@" ++ toString t.position ++ ": '" ++ Text.plain t.text ++ "'"

/-- The token with its field names, as a record of a given name. -/
def inspectAs (name : String) (t : Token) : String :=
  Text.record name [("token_type", Text.quoted t.type), ("text", Text.quoted t.text),
    ("position", toString t.position)]

end Token

end Highlighter
