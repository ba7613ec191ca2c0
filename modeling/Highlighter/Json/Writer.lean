/-!
# Writing JSON

Texts are written between double quotes. The two characters that would end or
escape a text and the control codes are escaped, everything else stands as it
is. Numbers are plain decimal, and records and lists have no blanks.

## Main definitions

* `Json.writeString`: a text.
* `Json.writeRecord`, `Json.writeList`: records and lists of written values.
-/

namespace Highlighter

namespace Json

/-- A hexadecimal digit. -/
def hexChar (n : Nat) : Char :=
  if n < 10 then Char.ofNat ('0'.toNat + n) else Char.ofNat ('a'.toNat + n - 10)

/-- A character inside a written text. -/
def writeChar (c : Char) : List Char :=
  match c with
  | '"' => ['\\', '"']
  | '\\' => ['\\', '\\']
  | '\x08' => ['\\', 'b']
  | '\x0c' => ['\\', 'f']
  | '\n' => ['\\', 'n']
  | '\r' => ['\\', 'r']
  | '\t' => ['\\', 't']
  | c =>
    if c.toNat < 0x20 then ['\\', 'u', '0', '0', hexChar (c.toNat / 16), hexChar (c.toNat % 16)]
    else [c]

/-- A written text. -/
def writeString (s : String) : List Char :=
  '"' :: s.toList.flatMap writeChar ++ ['"']

/-- A written number. -/
def writeNat (n : Nat) : List Char := Nat.toDigits 10 n

/-- Written values with commas between them. -/
def separated : List (List Char) → List Char
  | [] => []
  | [v] => v
  | v :: vs => v ++ ',' :: separated vs

/-- A record of written values. -/
def writeRecord (fields : List (String × List Char)) : List Char :=
  '\x7b' :: separated (fields.map fun f => writeString f.1 ++ ':' :: f.2) ++ ['\x7d']

/-- A list of written values. -/
def writeList (items : List (List Char)) : List Char :=
  '[' :: separated items ++ [']']

end Json

end Highlighter
