import Highlighter.Transformer
import Highlighter.Tree.Element

/-!
# Ready-made rules

Rules for the two kinds of output: texts, which are put together as they are,
and document trees. For each way of showing a token there is one of either
kind.

## Main definitions

* `Rules.lexeme`, `Rules.escaped`, `Rules.skip`, `Rules.wrap`: text rules.
* `Rules.text`, `Rules.skipNode`, `Rules.element`: tree rules.
-/

namespace Highlighter

namespace Rules

/-- The text of the token as it is. -/
def lexeme : Rule String := fun t => t.text

/-- The text of the token as markup. -/
def escaped : Rule String := fun t => Text.escape t.text

/-- Nothing. -/
def skip : Rule String := fun _ => ""

/-- The text of the token as markup inside an element, which may have the type
    as its class. -/
def wrap (tag : String) (addClass : Bool) : Rule String := fun t =>
  let classText := if addClass then " class=\"" ++ Text.escape t.type ++ "\"" else ""
  "<" ++ tag ++ classText ++ ">" ++ Text.escape t.text ++ "</" ++ tag ++ ">"

/-- The text of the token as a node. -/
def text : Rule Node := fun t => .text t.text

/-- No node. -/
def skipNode : Rule Node := fun _ => .fragment []

/-- The text of the token inside an element, which may have the type as its
    class. -/
def element (tag : String) (addClass : Bool) : Rule Node := fun t =>
  let e : Element := { tag, children := [.text t.text] }
  (if addClass then e.addClass t.type else e).toNode

end Rules

end Highlighter
