import Highlighter.Decimal.Shortest
import Highlighter.Span

/-!
# Reading JSON

A reader takes characters from the front of a text and returns a value with the
rest. Reading is driven by the value that is expected, and a value of the wrong
kind is reported as soon as its kind is known. So a mismatch is found before
any mistake in the notation that comes later in the text.

A reader fails for one of three causes: the text ends too early, a character
cannot stand where it does, or a value does not fit. Only the last one comes
with an explanation.

Numbers are integers below 2^64, negative integers down to -2^63, and
otherwise floating-point numbers.

## Main definitions

* `Json.Mismatch`, `Json.DecodeError`: why reading fails.
* `Json.readString`, `Json.readNumber`: texts and numbers.
* `Json.ignoreValue`: any value, checked and dropped.
* `Json.expectString`, `Json.expectNat`: a text or a number, or a mismatch.
-/

namespace Highlighter

namespace Json

/-- A number as written. -/
inductive Number where
  /-- An integer that is not negative. -/
  | natural (n : Nat)
  /-- A negative integer. -/
  | negative (n : Int)
  /-- Any other number: its sign and magnitude. -/
  | float (negative : Bool) (magnitude : Binary64)

/-- The kind of a value that was found where another one was expected. -/
inductive Found where
  | null
  | bool (b : Bool)
  | number (n : Number)
  | string (s : String)
  | sequence
  | map

/-- A value that does not fit. -/
inductive Mismatch where
  /-- A value of another kind than expected. -/
  | wrongType (found : Found) (expected : String)
  /-- A negative number where none can be. -/
  | wrongValue (found : Int) (expected : String)
  /-- A list with too few values for a record. -/
  | wrongLength (length : Nat) (expected : String)
  /-- A field that stands twice. -/
  | duplicateField (name : String)
  /-- A field that is not there. -/
  | missingField (name : String)

/-- Why reading fails. -/
inductive DecodeError where
  /-- The text ends too early. -/
  | truncated
  /-- A character cannot stand where it does. -/
  | malformed
  /-- A value does not fit. -/
  | mismatch (cause : Mismatch)

/-- Floating-point numbers are written out from the fifth place behind the
    point to the sixteenth before it, and otherwise with an exponent. -/
def floatFormat : FloatFormat := ⟨-5, 15⟩

/-- The description of a number. -/
def Number.describe : Number → String
  | natural n => "integer `" ++ toString n ++ "`"
  | negative n => "integer `" ++ toString n ++ "`"
  | float neg magnitude => "floating point `" ++ floatFormat.write neg magnitude ++ "`"

/-- The description of a value that was found. -/
def Found.describe : Found → String
  | null => "null"
  | bool b => "boolean `" ++ Text.bool b ++ "`"
  | number n => n.describe
  | string s => "string " ++ Text.quoted s
  | sequence => "sequence"
  | map => "map"

/-- The explanation of a mismatch. -/
def Mismatch.message : Mismatch → String
  | wrongType found expected => "invalid type: " ++ found.describe ++ ", expected " ++ expected
  | wrongValue found expected =>
    "invalid value: integer `" ++ toString found ++ "`, expected " ++ expected
  | wrongLength length expected =>
    "invalid length " ++ toString length ++ ", expected " ++ expected
  | duplicateField name => "duplicate field `" ++ name ++ "`"
  | missingField name => "missing field `" ++ name ++ "`"

/-- A reader takes a value from the front of a text. -/
abbrev Reader (α : Type) := List Char → Except DecodeError (α × List Char)

/-- Whether a character is a blank between values. -/
def isSpace (c : Char) : Bool := c == ' ' || c == '\n' || c == '\t' || c == '\r'

/-- A text from its next character that is no blank. -/
def skip (cs : List Char) : List Char := cs.dropWhile isSpace

/-- Takes the rest of a word whose first letter has been seen. -/
def word : (rest : List Char) → Reader Unit
  | [], cs => .ok ((), cs)
  | _ :: _, [] => .error .truncated
  | c :: rest, d :: cs => if c = d then word rest cs else .error .malformed

/-- The value of a hexadecimal digit. -/
def hexDigit? (c : Char) : Option Nat :=
  if '0' ≤ c ∧ c ≤ '9' then some (c.toNat - '0'.toNat)
  else if 'a' ≤ c ∧ c ≤ 'f' then some (c.toNat - 'a'.toNat + 10)
  else if 'A' ≤ c ∧ c ≤ 'F' then some (c.toNat - 'A'.toNat + 10)
  else none

/-- Takes four hexadecimal digits. The text ends too early if fewer than four
    bytes are left. -/
def hexCode (cs : List Char) : Except DecodeError (Nat × List Char) :=
  if byteLength cs < 4 then .error .truncated
  else
    match (cs.take 4).mapM hexDigit? with
    | some digits => .ok (digits.foldl (fun value d => 16 * value + d) 0, cs.drop 4)
    | none => .error .malformed

/-- Takes the second half of a character that is written as two codes. -/
def lowHalf (high : Nat) : Reader Char
  | [] => .error .truncated
  | '\\' :: [] => .error .truncated
  | '\\' :: 'u' :: cs => do
    let (low, cs) ← hexCode cs
    if 0xDC00 ≤ low ∧ low ≤ 0xDFFF then
      .ok (Char.ofNat (0x10000 + (high - 0xD800) * 0x400 + (low - 0xDC00)), cs)
    else .error .malformed
  | _ => .error .malformed

/-- Takes a character that is written by its code. Unless `lax`, the two halves
    of a character must stand together. -/
def codedChar (lax : Bool) : Reader Char := fun cs => do
  let (code, cs) ← hexCode cs
  if lax then .ok (Char.ofNat code, cs)
  else if 0xDC00 ≤ code ∧ code ≤ 0xDFFF then .error .malformed
  else if 0xD800 ≤ code ∧ code ≤ 0xDBFF then lowHalf code cs
  else .ok (Char.ofNat code, cs)

/-- Takes one character of a text, or its closing quote. -/
def stringChar (lax : Bool) : Reader (Option Char)
  | [] => .error .truncated
  | '"' :: cs => .ok (none, cs)
  | '\\' :: cs =>
    match cs with
    | [] => .error .truncated
    | '"' :: cs => .ok (some '"', cs)
    | '\\' :: cs => .ok (some '\\', cs)
    | '/' :: cs => .ok (some '/', cs)
    | 'b' :: cs => .ok (some '\x08', cs)
    | 'f' :: cs => .ok (some '\x0c', cs)
    | 'n' :: cs => .ok (some '\n', cs)
    | 'r' :: cs => .ok (some '\r', cs)
    | 't' :: cs => .ok (some '\t', cs)
    | 'u' :: cs => (codedChar lax cs).map fun (c, cs) => (some c, cs)
    | _ => .error .malformed
  | c :: cs => if c.toNat < 0x20 then .error .malformed else .ok (some c, cs)

/-- Takes the characters of a text, behind its opening quote. Each step takes a
    character, so as many steps as characters are enough. -/
def stringChars (lax : Bool) : (fuel : Nat) → Reader (List Char)
  | 0, _ => .error .truncated
  | n + 1, cs => do
    match ← stringChar lax cs with
    | (none, cs) => .ok ([], cs)
    | (some c, cs) =>
      let (rest, cs) ← stringChars lax n cs
      .ok (c :: rest, cs)

/-- Takes a text, behind its opening quote. -/
def readString : Reader String := fun cs => do
  let (chars, cs) ← stringChars false (cs.length + 1) cs
  .ok (String.ofList chars, cs)

/-- The largest integer that is kept exactly. -/
def maxNat : Nat := UInt64.size - 1

/-- Takes digits as long as the number stays exact. -/
def significand : Nat → List Char → Nat × List Char
  | n, [] => (n, [])
  | n, c :: cs =>
    let next := 10 * n + (c.toNat - '0'.toNat)
    if c.isDigit ∧ next ≤ maxNat then significand next cs else (n, c :: cs)

/-- A floating-point number, refused if it is too large. -/
def float (negative : Bool) (sig : Nat) (exponent : Int) : Reader Number := fun cs =>
  match Binary64.ofParts? sig exponent with
  | some magnitude => .ok (.float negative magnitude, cs)
  | none => .error .malformed

/-- Takes an exponent, behind its mark. -/
def exponent (negative : Bool) (sig : Nat) (start : Int) : Reader Number := fun cs =>
  let (minus, cs) := match cs with
    | '+' :: cs => (false, cs)
    | '-' :: cs => (true, cs)
    | cs => (false, cs)
  match cs with
  | [] => .error .truncated
  | c :: _ =>
    if c.isDigit then
      let (digits, cs) := cs.span Char.isDigit
      let e : Int := (digits.foldl (fun n d => 10 * n + (d.toNat - '0'.toNat)) 0 : Nat)
      float negative sig (if minus then start - e else start + e) cs
    else .error .malformed

/-- Ends a floating-point number, with an exponent if there is one. -/
def floatEnd (negative : Bool) (sig : Nat) (start : Int) : Reader Number
  | 'e' :: cs => exponent negative sig start cs
  | 'E' :: cs => exponent negative sig start cs
  | cs => float negative sig start cs

/-- Takes the digits behind the point of a number. Digits beyond the exact ones
    are dropped. -/
def fraction (negative : Bool) (sig : Nat) (start : Int) : Reader Number := fun cs =>
  let (sig, rest) := significand sig cs
  let taken := cs.length - rest.length
  match rest with
  | [] => if taken = 0 then .error .truncated else floatEnd negative sig (start - taken) []
  | c :: _ =>
    if c.isDigit then floatEnd negative sig (start - taken) (rest.dropWhile Char.isDigit)
    else if taken = 0 then .error .malformed
    else floatEnd negative sig (start - taken) rest

/-- The end of a number: a fraction, an exponent, or nothing, when an integer
    remains one. -/
def numberEnd (negative : Bool) (sig : Nat) : Reader Number
  | '.' :: cs => fraction negative sig 0 cs
  | 'e' :: cs => exponent negative sig 0 cs
  | 'E' :: cs => exponent negative sig 0 cs
  | cs =>
    if !negative then .ok (.natural sig, cs)
    else if 0 < sig ∧ sig ≤ Nat.pow 2 63 then .ok (.negative (-sig), cs)
    else float true sig 0 cs

/-- Takes a number, behind its sign. -/
def readNumber (negative : Bool) : Reader Number
  | [] => .error .truncated
  | '0' :: cs =>
    match cs with
    | c :: _ => if c.isDigit then .error .malformed else numberEnd negative 0 cs
    | [] => numberEnd negative 0 []
  | c :: cs =>
    if !c.isDigit then .error .malformed
    else
      let (sig, rest) := significand 0 (c :: cs)
      match rest with
      | d :: _ =>
        if d.isDigit then
          let (more, rest) := rest.span Char.isDigit
          match rest with
          | '.' :: rest => fraction negative sig more.length rest
          | rest => floatEnd negative sig more.length rest
        else numberEnd negative sig rest
      | [] => numberEnd negative sig []

/-! ## Values to be dropped -/

/-- Takes some digits, at least one. -/
def ignoreDigits (cs : List Char) : Except DecodeError (List Char) :=
  match cs with
  | c :: cs => if c.isDigit then .ok (cs.dropWhile Char.isDigit) else .error .malformed
  | [] => .error .malformed

/-- Drops the exponent of a number, if there is one. -/
def ignoreExponent (cs : List Char) : Except DecodeError (List Char) :=
  match cs with
  | c :: rest =>
    if c == 'e' || c == 'E' then
      match rest with
      | '+' :: rest => ignoreDigits rest
      | '-' :: rest => ignoreDigits rest
      | rest => ignoreDigits rest
    else .ok cs
  | [] => .ok []

/-- Drops the rest of a number, behind its sign. -/
def ignoreNumber (cs : List Char) : Except DecodeError (List Char) := do
  let rest ← match cs with
    | '0' :: rest => if (rest.head?.any Char.isDigit) then .error .malformed else .ok rest
    | cs => ignoreDigits cs
  match rest with
  | '.' :: rest => ignoreExponent (← ignoreDigits rest)
  | rest => ignoreExponent rest

/-- What an ignored value stands in. -/
inductive Frame where
  | list
  | map

/-- Drops the name of a field and the colon behind it. -/
def ignoreKey (cs : List Char) : Except DecodeError (List Char) := do
  match skip cs with
  | [] => .error .truncated
  | '"' :: cs =>
    let (_, cs) ← stringChars true (cs.length + 1) cs
    match skip cs with
    | [] => .error .truncated
    | ':' :: cs => .ok cs
    | _ => .error .malformed
  | _ => .error .malformed

/-- Drops a value, or, if `done`, what follows one inside the given frames.
    Frames are left from the inside out, and each step takes a character. -/
def ignoreIn : (fuel : Nat) → (done : Bool) → List Frame → List Char →
    Except DecodeError (List Char)
  | 0, _, _, _ => .error .truncated
  | _ + 1, true, [], cs => .ok cs
  | n + 1, true, frame :: frames, cs =>
    match frame, skip cs with
    | _, [] => .error .truncated
    | .list, ']' :: cs => ignoreIn n true frames cs
    | .map, '\x7d' :: cs => ignoreIn n true frames cs
    | .list, ',' :: cs => ignoreIn n false (.list :: frames) cs
    | .map, ',' :: cs => do ignoreIn n false (.map :: frames) (← ignoreKey cs)
    | _, _ => .error .malformed
  | n + 1, false, frames, cs =>
    match skip cs with
    | [] => .error .truncated
    | 'n' :: cs => do ignoreIn n true frames (← word ['u', 'l', 'l'] cs).2
    | 't' :: cs => do ignoreIn n true frames (← word ['r', 'u', 'e'] cs).2
    | 'f' :: cs => do ignoreIn n true frames (← word ['a', 'l', 's', 'e'] cs).2
    | '-' :: cs => do ignoreIn n true frames (← ignoreNumber cs)
    | '"' :: cs => do ignoreIn n true frames (← stringChars true (cs.length + 1) cs).2
    | '[' :: cs =>
      match skip cs with
      | ']' :: cs => ignoreIn n true frames cs
      | [] => .error .truncated
      | cs => ignoreIn n false (.list :: frames) cs
    | '\x7b' :: cs =>
      match skip cs with
      | '\x7d' :: cs => ignoreIn n true frames cs
      | cs => do ignoreIn n false (.map :: frames) (← ignoreKey cs)
    | c :: cs =>
      if c.isDigit then do ignoreIn n true frames (← ignoreNumber (c :: cs))
      else .error .malformed

/-- Checks and drops a value. -/
def ignoreValue (cs : List Char) : Except DecodeError (List Char) :=
  ignoreIn (2 * cs.length + 2) false [] cs

/-! ## Expected values -/

/-- The mismatch for a value of another kind, once the value is seen to be well
    formed. Lists and records are not looked into. -/
def wrongKind {α : Type} (expected : String) (cs : List Char) : Except DecodeError α := do
  let mismatch (found : Found) : Except DecodeError α :=
    .error (.mismatch (.wrongType found expected))
  match cs with
  | 'n' :: cs => let _ ← word ['u', 'l', 'l'] cs; mismatch .null
  | 't' :: cs => let _ ← word ['r', 'u', 'e'] cs; mismatch (.bool true)
  | 'f' :: cs => let _ ← word ['a', 'l', 's', 'e'] cs; mismatch (.bool false)
  | '-' :: cs => mismatch (.number (← readNumber true cs).1)
  | '"' :: cs => mismatch (.string (← readString cs).1)
  | '[' :: _ => mismatch .sequence
  | '\x7b' :: _ => mismatch .map
  | c :: cs =>
    if c.isDigit then mismatch (.number (← readNumber false (c :: cs)).1)
    else .error .malformed
  | [] => .error .truncated

/-- Takes a text. -/
def expectString : Reader String := fun cs =>
  match skip cs with
  | '"' :: cs => readString cs
  | cs => wrongKind "a string" cs

/-- What a number is expected to be. -/
def natName : String := "usize"

/-- Accepts a number if it is an integer that is not negative. -/
def asNat (n : Number) (cs : List Char) : Except DecodeError (Nat × List Char) :=
  match n with
  | .natural n => .ok (n, cs)
  | .negative n => .error (.mismatch (.wrongValue n natName))
  | .float neg magnitude =>
    .error (.mismatch (.wrongType (.number (.float neg magnitude)) natName))

/-- Takes an integer that is not negative. -/
def expectNat : Reader Nat := fun cs => do
  match skip cs with
  | '-' :: cs =>
    let (n, cs) ← readNumber true cs
    asNat n cs
  | c :: cs =>
    if c.isDigit then
      let (n, cs) ← readNumber false (c :: cs)
      asNat n cs
    else wrongKind natName (c :: cs)
  | [] => .error .truncated

/-- Takes an integer that is not negative, or nothing. -/
def expectNat? : Reader (Option Nat) := fun cs => do
  match skip cs with
  | 'n' :: cs =>
    let (_, cs) ← word ['u', 'l', 'l'] cs
    .ok (none, cs)
  | cs =>
    let (n, cs) ← expectNat cs
    .ok (some n, cs)

end Json

end Highlighter
