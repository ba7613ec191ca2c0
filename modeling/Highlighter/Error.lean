import Highlighter.Json.Reader
import Highlighter.Regex

/-!
# Errors

Everything that can go wrong, by cause. Errors of the first group come from a
mistaken configuration and are found before anything is scanned; the others end
a scan, because a matcher failed or reported a span that cannot be a token.

## Main definitions

* `Error`: the causes.
* `Json.DecodeError.explanation?`: what is told about a reader that failed.
* `Error.message`: the text of an error.
* `Error.isConfiguration`: whether the configuration is at fault.
-/

namespace Highlighter

/-- The causes of failure. -/
inductive Error where
  /-- A pattern that cannot be used. -/
  | badPattern (pattern : String) (cause : RegexError)
  /-- A group that a pattern does not have. -/
  | noSuchGroup (pattern : String) (group groups : Nat)
  /-- A type that no pattern may have. -/
  | badTokenType (type : String)
  /-- A text that does not hold what it should. -/
  | badJson (cause : Json.DecodeError)
  /-- A matcher that failed. -/
  | matcherFailed (message : String)
  /-- A span that starts before the end of the previous token. -/
  | wentBackwards (type : String) (offset cursor : Nat)
  /-- A span that is no piece of the source. -/
  | badSpan (type : String) (span : Span) (length : Nat)

/-- The text for a pattern that cannot be used. -/
def RegexError.message : RegexError → String
  | malformed => "error parsing pattern 0"
  | tooLarge => "error building NFA"

/-- The explanation of a reader that failed, which only a value that does not fit has.
    The wording for mistakes in the notation, and the line and the column of any of them,
    are left out. -/
def Json.DecodeError.explanation? : Json.DecodeError → Option String
  | truncated | malformed => none
  | mismatch cause => some cause.message

namespace Error

/-- The text of an error. It is empty for a reader that failed without an explanation. -/
def message : Error → String
  | badPattern pattern cause => "'" ++ pattern ++ "' " ++ cause.message
  | noSuchGroup pattern group groups =>
    "Capture group " ++ toString group ++ " does not exist in '" ++ pattern ++ "' which has "
      ++ toString groups ++ " groups"
  | badTokenType type => "Invalid token type for a pattern: '" ++ type ++ "'"
  | badJson cause => cause.explanation?.getD ""
  | matcherFailed message => "Matcher failed: " ++ message
  | wentBackwards type offset cursor =>
    "Scanner went backwards: '" ++ type ++ "' matched at " ++ toString offset
      ++ " but the previous token ends at " ++ toString cursor
  | badSpan type span length =>
    "Invalid span " ++ span.display ++ " reported for '" ++ type ++ "' on a source of length "
      ++ toString length

/-- Whether the configuration is at fault, and not the scan. -/
def isConfiguration : Error → Bool
  | badPattern _ _ => true
  | noSuchGroup _ _ _ => true
  | badTokenType _ => true
  | badJson _ => true
  | _ => false

end Error

end Highlighter
