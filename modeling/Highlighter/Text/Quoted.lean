import Highlighter.Unicode.Property

/-!
# Texts inside messages

A text may hold anything, line ends and invisible characters included, so a
message that quotes one writes it in an escaped form. There are two forms. The
*plain* form keeps printable ASCII characters only and stands between quotes
that the message supplies. The *quoted* form brings its own double quotes and
keeps every character with a visible shape; it is the form of inspection
texts.

Both write a character they do not keep as its hexadecimal code in braces.

## Main definitions

* `Text.plain`: the plain form.
* `Text.quoted`: the quoted form.
* `Text.record`, `Text.list`: the inspection texts of records and lists.
-/

namespace Highlighter

namespace Text

/-- A character by its code. -/
def codeEscape (c : Char) : List Char :=
  ['\\', 'u', '\x7b'] ++ Nat.toDigits 16 c.toNat ++ ['\x7d']

/-- A character in the plain form. -/
def plainChar (c : Char) : List Char :=
  match c with
  | '\t' => ['\\', 't']
  | '\r' => ['\\', 'r']
  | '\n' => ['\\', 'n']
  | '\'' => ['\\', '\'']
  | '"' => ['\\', '"']
  | '\\' => ['\\', '\\']
  | c => if 0x20 ≤ c.toNat ∧ c.toNat ≤ 0x7E then [c] else codeEscape c

/-- The plain form of a text. -/
def plain (s : String) : String :=
  String.ofList (s.toList.flatMap plainChar)

/-- A character in the quoted form. -/
def quotedChar (c : Char) : List Char :=
  match c with
  | '\x00' => ['\\', '0']
  | '\t' => ['\\', 't']
  | '\r' => ['\\', 'r']
  | '\n' => ['\\', 'n']
  | '"' => ['\\', '"']
  | '\\' => ['\\', '\\']
  | c => if Property.printable.contains c then [c] else codeEscape c

/-- The quoted form of a text. -/
def quoted (s : String) : String :=
  String.ofList (['"'] ++ s.toList.flatMap quotedChar ++ ['"'])

/-- The inspection text of a list. -/
def list (items : List String) : String :=
  "[" ++ String.intercalate ", " items ++ "]"

/-- The inspection text of a record: its name, and its fields in braces. -/
def record (name : String) (fields : List (String × String)) : String :=
  name ++ " \x7b " ++ String.intercalate ", " (fields.map fun f => f.1 ++ ": " ++ f.2) ++ " \x7d"

/-- The inspection text of a truth value. -/
def bool (b : Bool) : String := if b then "true" else "false"

/-- The inspection text of a value that may be missing. -/
def option (value : Option String) : String :=
  match value with
  | none => "None"
  | some v => "Some(" ++ v ++ ")"

end Text

end Highlighter
