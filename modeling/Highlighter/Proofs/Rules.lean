import Highlighter.Proofs.Text.Escaping
import Highlighter.Rules

/-!
# Elements as text and as trees

The two rules that put a token into an element.

`Rules.element` makes a node, and what is written for it depends on how elements are
written: the text of the token is escaped as a text, and its type, which has become
the value of an attribute, is escaped as such. `Rules.wrap` writes the element at
once, and it escapes the type like a text. A text may have a double quote, and an
attribute value may not. So a type with a double quote ends the value early, and what
is behind the quote is written into the tag.

That is all the difference there is. `wrap_eq_toHtml_element_iff` says for which
tokens the two are written alike: those whose type has no double quote, and all of
them if the type is not written.

## Theorems

* `Rules.toHtml_element`: What is written for the node of a token.
* `Rules.wrap_eq_toHtml_element_iff`: The two rules agree unless the type has a double
  quote.
* `Rules.wrap_ne_toHtml_element_quoted`: A type that a scanner may have and for which
  they do not agree.
-/

namespace Highlighter

namespace Rules

/-- What is written for the node of a token. The type is an attribute value. -/
theorem toHtml_element (tag : String) (addClass : Bool) (t : Token) :
    (element tag addClass t).toHtml
      = "<" ++ tag ++ (if addClass then " class=\"" ++ Text.escapeAttribute t.type ++ "\"" else "")
        ++ ">" ++ Text.escape t.text ++ "</" ++ tag ++ ">" := by
  cases addClass with
  | true =>
      have hclass : Node.attributesHtml [("class", t.type)]
          = " class=\"" ++ Text.escapeAttribute t.type ++ "\"" := by
        rw [Node.attributesHtml, Node.attributesHtml, String.append_empty]
        rfl
      have hnode : element tag true t = .element tag [("class", t.type)] [.text t.text] := rfl
      rw [hnode, Node.toHtml, hclass, if_pos rfl, Node.toHtmlAll, Node.toHtmlAll, Node.toHtml,
        String.append_empty]
  | false =>
      have hnode : element tag false t = .element tag [] [.text t.text] := rfl
      rw [hnode, Node.toHtml, Node.attributesHtml, if_neg (by decide), Node.toHtmlAll,
        Node.toHtmlAll, Node.toHtml]
      simp only [String.append_empty]

/-- The two rules agree on a token unless its type is written and has a double
    quote. -/
theorem wrap_eq_toHtml_element_iff (tag : String) (addClass : Bool) (t : Token) :
    wrap tag addClass t = (element tag addClass t).toHtml
      ↔ ¬(addClass = true ∧ '"' ∈ t.type.toList) := by
  rw [toHtml_element, wrap]
  cases addClass with
  | false => simp only [Bool.false_eq_true, false_and, not_false_eq_true, if_false]
  | true =>
      -- Everything around the value is the same on both sides.
      have hvalue : ∀ value value' before after : String,
          before ++ (" class=\"" ++ value ++ "\"") ++ after
            = before ++ (" class=\"" ++ value' ++ "\"") ++ after ↔ value = value' := by
        intro value value' before after
        rw [← String.toList_inj, ← String.toList_inj]
        simp only [String.toList_append, List.append_assoc, List.append_cancel_left_eq,
          List.append_cancel_right_eq]
      simp only [if_true, true_and]
      rw [← Text.escape_eq_escapeAttribute_iff]
      simpa only [String.append_assoc] using hvalue (Text.escape t.type)
        (Text.escapeAttribute t.type) ("<" ++ tag)
        (">" ++ Text.escape t.text ++ "</" ++ tag ++ ">")

/-- A type with a double quote. A scanner may have a pattern of that type. -/
theorem wrap_ne_toHtml_element_quoted :
    TokenType.isReserved "a\"b" = false ∧
      wrap "span" true ⟨"a\"b", "x", 0⟩ = "<span class=\"a\"b\">x</span>" ∧
      (element "span" true ⟨"a\"b", "x", 0⟩).toHtml = "<span class=\"a&quot;b\">x</span>" ∧
      ¬∀ (tag : String) (addClass : Bool) (t : Token),
        wrap tag addClass t = (element tag addClass t).toHtml := by
  refine ⟨by decide +kernel, by decide +kernel, by decide +kernel, fun hall => ?_⟩
  exact absurd (hall "span" true ⟨"a\"b", "x", 0⟩) (by decide +kernel)

end Rules

end Highlighter
