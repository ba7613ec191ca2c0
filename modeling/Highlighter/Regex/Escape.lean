import Highlighter.Regex.Flags
import Highlighter.Regex.Shape
import Highlighter.Unicode.CaseFold
import Highlighter.Unicode.Query

/-!
# Escapes

What a backslash and the characters behind it stand for in a pattern: a
character, a set of characters, or an assertion. The functions return the rest
of the pattern behind the escape, or nothing if the escape is malformed.

Without the `unicode` flag a set must not be able to match half a character, so
the complements of the ASCII classes and two-digit codes above 7F are refused.

## Main definitions

* `Atom`: what an escape or a plain character stands for.
* `Atom.ofEscape?`: reading an escape.
* `Flags.fold`: a set with the case variants that the flags ask for.
-/

namespace Highlighter

/-- What an escape or a plain character of a pattern stands for. -/
inductive Atom where
  /-- A character. -/
  | literal (c : Char)
  /-- One character of a set. -/
  | set (s : CharSet)
  /-- An assertion. -/
  | look (l : Look)

/-- The value of a hexadecimal digit. -/
def hexValue? (c : Char) : Option Nat :=
  if '0' ≤ c ∧ c ≤ '9' then some (c.toNat - '0'.toNat)
  else if 'a' ≤ c ∧ c ≤ 'f' then some (c.toNat - 'a'.toNat + 10)
  else if 'A' ≤ c ∧ c ≤ 'F' then some (c.toNat - 'A'.toNat + 10)
  else none

/-- Whether a character is an octal digit. -/
def isOctal (c : Char) : Bool := '0' ≤ c && c ≤ '7'

/-- The characters with a meaning of their own in patterns. -/
def metaChars : List Char :=
  ['\\', '.', '+', '*', '?', '(', ')', '|', '[', ']', '\x7b', '\x7d', '^', '$', '#', '&', '-',
   '~']

/-- Whether a backslash in front of a character makes it stand for itself: true
    of ASCII characters other than letters, digits and the angle brackets. -/
def isEscapable (c : Char) : Bool :=
  c.toNat < 128 && !c.isAlphanum && c != '<' && c != '>'

/-- The character with a given code. -/
def charOfCode? (n : Nat) : Option Char :=
  if n.isValidChar then some (Char.ofNat n) else none

/-- The ASCII digits. -/
def asciiDigit : CharSet := .charRange '0' '9'

/-- The ASCII white space. -/
def asciiSpace : CharSet := .ofRanges [(0x09, 0x0D), (0x20, 0x20)]

namespace Flags

/-- A set with the case variants that the flags ask for. -/
def fold (f : Flags) (s : CharSet) : CharSet :=
  if !f.ignoreCase then s else if f.unicode then s.closeCase else s.closeAsciiCase

/-- The complement of a set among the characters, or among single bytes. -/
def compl (f : Flags) (s : CharSet) : CharSet :=
  if f.unicode then s.compl else s.complUpTo 0xFF

/-- A set as such, or its complement. -/
def negateIf (f : Flags) (negated : Bool) (s : CharSet) : CharSet :=
  if negated then f.compl s else s

/-- A set, unless it could match half a character. -/
def whole? (f : Flags) (s : CharSet) : Option CharSet :=
  if f.unicode || s.isBelow 128 then some s else none

/-- The digits, the white space or the word characters, by their letter. -/
def shorthandSet? (f : Flags) (letter : Char) : Option CharSet :=
  match letter with
  | 'd' => some (if f.unicode then Category.decimalNumberMembers else asciiDigit)
  | 's' => some (if f.unicode then Property.whiteSpace else asciiSpace)
  | 'w' => some (if f.unicode then Property.word else asciiWord)
  | _ => none

/-- The shape of a character under the flags. -/
def literalShape (f : Flags) (c : Char) : Shape :=
  if !f.ignoreCase then .literal [c]
  else if f.unicode then
    match CaseFold.variants? c with
    | some points => .ofSet true (.ofPoints points)
    | none => .literal [c]
  else .ofSet false (CharSet.single c).closeAsciiCase

/-- The shape of the dot, which without the `unicode` flag could match half a
    character. -/
def dotShape? (f : Flags) : Option Shape :=
  if !f.unicode then none
  else if f.dotAll then some (.ofSet true .all)
  else if f.crlf then some (.ofSet true ((CharSet.single '\n').union (.single '\r')).compl)
  else some (.ofSet true (CharSet.single '\n').compl)

/-- The assertion about the edge of a word under the flags. -/
def wordLook (f : Flags) (edge : WordEdge) : Look := .word edge (!f.unicode)

end Flags

namespace Atom

/-- The number written by exactly `n` hexadecimal digits, with blanks between
    them skipped. -/
def hexDigits? (f : Flags) : (n : Nat) → (value : Nat) → List Char → Option (Nat × List Char)
  | 0, value, cs => some (value, cs)
  | _ + 1, _, [] => none
  | n + 1, value, c :: cs => do hexDigits? f n (16 * value + (← hexValue? c)) (f.skip cs)

/-- The number written by some hexadecimal digits. -/
def hexNumber? : List Char → Option Nat
  | [] => none
  | cs => cs.foldlM (fun value c => do return 16 * value + (← hexValue? c)) 0

/-- A character by its code: in braces, or with a fixed number of digits. -/
def ofCode? (f : Flags) (digits : Nat) (cs : List Char) : Option (Atom × List Char) :=
  match f.skip cs with
  | '\x7b' :: rest => do
    let (code, rest) ← f.braced? rest
    return (literal (← charOfCode? (← hexNumber? code)), rest)
  | rest => do
    let (code, rest) ← hexDigits? f digits 0 rest
    if !f.unicode && digits == 2 && 0x7F < code then none
    else return (literal (← charOfCode? code), rest)

/-- A character by one to three octal digits. -/
def ofOctal (cs : List Char) : Atom × List Char :=
  let digits := (cs.take 3).takeWhile isOctal
  let code := digits.foldl (fun value c => 8 * value + (c.toNat - '0'.toNat)) 0
  (literal (Char.ofNat code), cs.drop digits.length)

/-- A name cut at the first place where a separator stands. -/
def cutAt? (separator : List Char) : List Char → Option (List Char × List Char)
  | [] => none
  | c :: cs =>
    if separator.isPrefixOf (c :: cs) then some ([], (c :: cs).drop separator.length)
    else (cutAt? separator cs).map fun (left, right) => (c :: left, right)

/-- The set a property expression names, and whether its value is excluded. -/
def propertySet? (name : List Char) : Option (CharSet × Bool) :=
  match cutAt? ['!', '='] name with
  | some (property, value) => (CharSet.ofProperty? property value).map (·, true)
  | none =>
    match (cutAt? [':'] name).or (cutAt? ['='] name) with
    | some (property, value) => (CharSet.ofProperty? property value).map (·, false)
    | none => (CharSet.named? name).map (·, false)

/-- A set of characters by a property. -/
def ofProperty? (f : Flags) (negated : Bool) (cs : List Char) : Option (Atom × List Char) := do
  let (name, rest) ← match f.skip cs with
    | [] => none
    | '\x7b' :: rest => f.braced? rest
    | '\\' :: _ => none
    | c :: rest => some ([c], rest)
  let (s, excluded) ← propertySet? name
  if f.unicode then return (set (f.negateIf (negated != excluded) (f.fold s)), rest)
  else none

/-- The edges of words that are named in braces. -/
def namedEdge? : List Char → Option WordEdge
  | ['s', 't', 'a', 'r', 't'] => some .start
  | ['e', 'n', 'd'] => some .stop
  | ['s', 't', 'a', 'r', 't', '-', 'h', 'a', 'l', 'f'] => some .startHalf
  | ['e', 'n', 'd', '-', 'h', 'a', 'l', 'f'] => some .stopHalf
  | _ => none

/-- A word boundary. Braces behind it may name a kind of edge; a brace with
    anything but a letter or a dash in it begins a repetition instead. -/
def ofBoundary? (f : Flags) (cs : List Char) : Option (Atom × List Char) :=
  let plain := some (look (f.wordLook .boundary), cs)
  match cs with
  | '\x7b' :: rest =>
    match f.skip rest with
    | [] => none
    | c :: _ =>
      if c.isAlpha || c == '-' then do
        let (name, rest) ← f.braced? rest
        return (look (f.wordLook (← namedEdge? name)), rest)
      else plain
  | _ => plain

/-- Reads what stands behind a backslash. -/
def ofEscape? (octal : Bool) (f : Flags) : List Char → Option (Atom × List Char)
  | [] => none
  | c :: cs =>
    match c with
    | 'x' => ofCode? f 2 cs
    | 'u' => ofCode? f 4 cs
    | 'U' => ofCode? f 8 cs
    | 'p' => ofProperty? f false cs
    | 'P' => ofProperty? f true cs
    | 'a' => some (literal '\x07', cs)
    | 'f' => some (literal '\x0c', cs)
    | 't' => some (literal '\t', cs)
    | 'n' => some (literal '\n', cs)
    | 'r' => some (literal '\r', cs)
    | 'v' => some (literal '\x0b', cs)
    | 'A' => some (look .textStart, cs)
    | 'z' => some (look .textStop, cs)
    | 'b' => ofBoundary? f cs
    | 'B' => some (look (f.wordLook .noBoundary), cs)
    | '<' => some (look (f.wordLook .start), cs)
    | '>' => some (look (f.wordLook .stop), cs)
    | c =>
      if isOctal c then
        if octal then some (ofOctal (c :: cs)) else none
      else if isEscapable c then some (literal c, cs)
      else do
        let s ← f.shorthandSet? c.toLower
        return (set (← f.whole? (f.negateIf c.isUpper s)), cs)

end Atom

end Highlighter
