import Highlighter.Log
import Highlighter.Text.Quoted
import Highlighter.Token

/-!
# Rules

A rule makes an output of a token, and a transformer chooses the rule by the
type of the token. Types without a rule of their own are left to the fallback,
which is always there. The key `(unknown)` stands for the fallback, so it can be
replaced like any other rule, and a token whose type happens to be that key gets
it too.

## Main definitions

* `Rule`: from tokens to outputs.
* `Transformer`: rules by token type, and a fallback.
* `Transformer.add`: setting the rule of some types.
* `Transformer.transform`: the output for a token.
-/

namespace Highlighter

/-- From tokens to outputs. -/
abbrev Rule (ω : Type) := Token → ω

/-- Rules by token type, and a fallback. -/
structure Transformer (ω : Type) where
  /-- The rules of single types. No type occurs twice, and the key of the
      fallback does not occur. -/
  rules : List (String × Rule ω) := []
  /-- The rule of all other types. -/
  fallback : Rule ω

namespace Transformer

variable {ω : Type}

/-- Sets the rule of a type in a list of rules. -/
def setRule (key : String) (rule : Rule ω) : List (String × Rule ω) → List (String × Rule ω)
  | [] => [(key, rule)]
  | (k, r) :: rest => if k = key then (k, rule) :: rest else (k, r) :: setRule key rule rest

/-- Sets the rule of a key. -/
def set (t : Transformer ω) (key : String) (rule : Rule ω) : Transformer ω :=
  if key = TokenType.unknown then { t with fallback := rule }
  else { t with rules := setRule key rule t.rules }

/-- Sets the rule of some keys, one after the other. -/
def setAll (t : Transformer ω) (keys : List String) (rule : Rule ω) : Transformer ω :=
  keys.foldl (fun t key => t.set key rule) t

/-- Sets the rule of some keys and reports each of them. -/
def add (t : Transformer ω) (keys : List String) (rule : Rule ω) : Logged (Transformer ω) :=
  { value := t.setAll keys rule
    log := keys.map fun key => Logged.debug ("Adding rule for token type '" ++ key ++ "'") }

/-- The rule for a type. -/
def rule (t : Transformer ω) (type : String) : Rule ω := (t.rules.lookup type).getD t.fallback

/-- Whether a type has a rule of its own; the key of the fallback has one. -/
def hasRule (t : Transformer ω) (type : String) : Bool :=
  type == TokenType.unknown || (t.rules.lookup type).isSome

/-- The output for a token. -/
def transform (t : Transformer ω) (token : Token) : ω := t.rule token.type token

/-- The transformer as the types that have a rule, sorted. -/
def inspect (t : Transformer ω) : String :=
  Text.record "Transformer"
    [("rules", Text.list (((t.rules.map (·.1)).mergeSort (· ≤ ·)).map Text.quoted))]

end Transformer

end Highlighter
