/-!
# Markup text

In markup three characters of a text are written as entities, and in an
attribute value the double quote is written as one as well. Reading markup
resolves these entities and that of the apostrophe, and keeps everything else
as it stands, also an ampersand that begins no entity.

## Main definitions

* `Text.escape`: a text as markup.
* `Text.escapeAttribute`: a text as an attribute value.
* `Text.unescape`: the text of markup.
-/

namespace Highlighter

namespace Text

/-- A character as markup. -/
def escapeChar (c : Char) : List Char :=
  match c with
  | '&' => ['&', 'a', 'm', 'p', ';']
  | '<' => ['&', 'l', 't', ';']
  | '>' => ['&', 'g', 't', ';']
  | c => [c]

/-- A character as part of an attribute value. -/
def escapeAttributeChar (c : Char) : List Char :=
  match c with
  | '"' => ['&', 'q', 'u', 'o', 't', ';']
  | c => escapeChar c

/-- A text as markup. -/
def escape (s : String) : String := String.ofList (s.toList.flatMap escapeChar)

/-- A text as an attribute value. -/
def escapeAttribute (s : String) : String :=
  String.ofList (s.toList.flatMap escapeAttributeChar)

/-- The characters of markup with its entities resolved. -/
def unescapeChars : List Char → List Char
  | [] => []
  | '&' :: 'a' :: 'm' :: 'p' :: ';' :: cs => '&' :: unescapeChars cs
  | '&' :: 'l' :: 't' :: ';' :: cs => '<' :: unescapeChars cs
  | '&' :: 'g' :: 't' :: ';' :: cs => '>' :: unescapeChars cs
  | '&' :: 'q' :: 'u' :: 'o' :: 't' :: ';' :: cs => '"' :: unescapeChars cs
  | '&' :: '#' :: '3' :: '9' :: ';' :: cs => '\'' :: unescapeChars cs
  | c :: cs => c :: unescapeChars cs

/-- The text of markup. -/
def unescape (s : String) : String := String.ofList (unescapeChars s.toList)

end Text

end Highlighter
