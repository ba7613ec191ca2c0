import Highlighter.Error
import Highlighter.Log

/-!
# Matchers

A matcher is asked whether a token starts at an offset of a source. It answers
with the span of the lexeme, with no match, or with an error, and it may read
and change the context of the scan. Any function will do; two kinds are built
in, regular expressions and the matcher of any one character.

A built-in matcher can only be asked about some offsets. `Matcher.accepts` says
which: asking elsewhere is a mistake of the caller, and what `find` answers
then means nothing.

## Main definitions

* `Matcher`: matchers over contexts of some type.
* `RegexMatcher`: regular expressions as matchers.
* `RegexMatcher.words`: the matcher of a list of words.
* `Matcher.anyChar`: the matcher of any one character.
-/

namespace Highlighter

/-- The answer of a matcher. -/
structure Answer (σ : Type) where
  /-- The span of the lexeme, no match, or an error. -/
  result : Except Error (Option Span)
  /-- The context after the matcher has been asked. -/
  context : σ
  /-- The messages of the matcher. -/
  log : List LogEntry := []

/-- Matchers over contexts of type `σ`. -/
structure Matcher (σ : Type) where
  /-- Whether the matcher may be asked about an offset of a source. -/
  accepts : String → Nat → Bool := fun _ _ => true
  /-- Asks whether a token starts at an offset of a source. -/
  find : String → Nat → σ → Answer σ

/-- The length of a source in bytes. -/
def sourceLength (source : String) : Nat := byteLength source.toList

/-- The span of the character at an offset. -/
def charSpanAt? (source : String) (offset : Nat) : Option Span :=
  match afterBytes? offset source.toList with
  | some (c :: _) => some ⟨offset, offset + c.utf8Size⟩
  | _ => none

/-- The matcher of any one character. It can be asked about the character
    boundaries of a source. -/
def Matcher.anyChar {σ : Type} : Matcher σ where
  accepts := Span.isBoundary
  find source offset context := { result := .ok (charSpanAt? source offset), context }

/-- A regular expression as a matcher: the pattern and the group whose place is
    the lexeme. -/
structure RegexMatcher where
  /-- The regular expression. -/
  regex : Regex
  /-- Its pattern. -/
  pattern : String
  /-- The group, zero for the whole match. -/
  group : Nat

namespace RegexMatcher

/-- The matcher of a group of a pattern. -/
def compile (options : PatternOptions) (pattern : String) (group : Nat) :
    Except Error RegexMatcher :=
  match Regex.compile options pattern with
  | .error cause => .error (.badPattern pattern cause)
  | .ok regex =>
    if group < regex.groups then .ok { regex, pattern, group }
    else .error (.noSuchGroup pattern group regex.groups)

/-- Whether a word has to end where it is found: true if its last character is a
    letter, a number or an underscore. -/
def endsInWord (word : List Char) : Bool :=
  match word.getLast? with
  | some c => Property.alphanumeric.contains c || c == '_'
  | none => false

/-- The pattern of a word. -/
def wordPattern (word : List Char) : List Char :=
  if endsInWord word then Regex.escape word ++ ['\\', 'b'] else Regex.escape word

/-- Patterns with bars between them. -/
def alternatives : List (List Char) → List Char
  | [] => []
  | [p] => p
  | p :: ps => p ++ '|' :: alternatives ps

/-- The pattern of a list of words, the earlier ones preferred. -/
def wordsPattern (words : List String) : String :=
  String.ofList (['(', '?', ':'] ++ alternatives (words.map fun w : String => wordPattern w.toList)
    ++ [')'])

/-- The matcher of a list of words. A word that ends like an identifier is not
    found inside a longer one. -/
def words (ws : List String) : Except Error RegexMatcher :=
  compile {} (wordsPattern ws) 0

/-- The span of the lexeme at an offset. A group that took no part in the match
    is empty there. -/
def span? (m : RegexMatcher) (source : String) (offset : Nat) : Option Span :=
  (m.regex.findAt? source offset).map fun found =>
    (found.group? m.group).getD (.emptyAt offset)

/-- The message about a match. -/
def matchedText (m : RegexMatcher) (span : Span) : String :=
  let subject := "'" ++ Text.plain m.pattern ++ "' matched "
  if m.group = 0 then subject ++ span.display
  else subject ++ "group " ++ toString m.group ++ " at " ++ span.display

/-- The regular expression as a matcher. It can be asked about offsets up to one
    behind the end of the source. -/
def toMatcher {σ : Type} (m : RegexMatcher) : Matcher σ where
  accepts source offset := offset ≤ sourceLength source + 1
  find source offset context :=
    let span := m.span? source offset
    { result := .ok span, context, log := (span.map (Logged.trace ∘ m.matchedText)).toList }

end RegexMatcher

end Highlighter
