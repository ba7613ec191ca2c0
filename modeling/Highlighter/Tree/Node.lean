import Highlighter.Text.Markup
import Highlighter.Text.Quoted

/-!
# Document trees

A document tree has elements with attributes and children, texts, markup that
is already escaped, and fragments, which are lists of nodes without an element
around them.

Appending a fragment appends its members. Normalising goes further: it removes
fragments at every depth, drops empty texts, and joins neighbouring texts; a
text next to markup is escaped and becomes part of it. Neither changes the
written form of a tree.

## Main definitions

* `Node`: document trees.
* `Node.append`: appending a child.
* `Node.normalize`: joining neighbouring texts.
* `Node.toHtml`, `Node.textContent`: the written form and the text of a tree.

## Theorems

* `Node.same_iff`: Comparing trees part by part decides their equality.
-/

namespace Highlighter

/-- Document trees. -/
inductive Node where
  /-- An element. -/
  | element (tag : String) (attributes : List (String × String)) (children : List Node)
  /-- A text, escaped when it is written. -/
  | text (s : String)
  /-- Markup that is already escaped and written as it is. -/
  | markup (s : String)
  /-- Some nodes without an element around them. -/
  | fragment (children : List Node)

namespace Node

/-- Whether a node is a text or markup. -/
def isTextLike : Node → Bool
  | text _ => true
  | markup _ => true
  | _ => false

/-- The children of an element or fragment. -/
def children : Node → List Node
  | element _ _ cs => cs
  | fragment cs => cs
  | _ => []

/-- The nodes that a node counts for among the children of another one. -/
def splice : Node → List Node
  | fragment cs => cs
  | n => [n]

/-- Appends a child, or the members of a fragment. A text cannot have children,
    so appending to it makes a fragment of the two. -/
def append : Node → Node → Node
  | element tag attributes cs, child => element tag attributes (cs ++ child.splice)
  | fragment cs, child => fragment (cs ++ child.splice)
  | n, child => fragment (n :: child.splice)

/-! ## Normal form -/

/-- Puts a node behind others, which are given last first. Empty texts are
    dropped and neighbouring texts are joined. -/
def join (before : List Node) (n : Node) : List Node :=
  match n with
  | text t =>
    if t.isEmpty then before
    else
      match before with
      | text s :: rest => text (s ++ t) :: rest
      | markup s :: rest => markup (s ++ Text.escape t) :: rest
      | _ => text t :: before
  | markup m =>
    if m.isEmpty then before
    else
      match before with
      | markup s :: rest => markup (s ++ m) :: rest
      | text s :: rest => markup (Text.escape s ++ m) :: rest
      | _ => markup m :: before
  | n => n :: before

/-- Some nodes with neighbouring texts joined. -/
def joinAll (ns : List Node) : List Node := (ns.foldl join []).reverse

mutual

/-- Removes fragments among the children, drops empty texts and joins
    neighbouring ones, at every depth. -/
def normalize : Node → Node
  | element tag attributes cs => element tag attributes (joinAll (normalizeEach cs))
  | fragment cs => fragment (joinAll (normalizeEach cs))
  | n => n

/-- Some nodes, each in normal form, with the members of fragments in their
    place. -/
def normalizeEach : List Node → List Node
  | [] => []
  | n :: ns => n.normalize.splice ++ normalizeEach ns

end

/-! ## Reading a tree -/

mutual

/-- The text of a tree, with the entities of markup resolved. -/
def textContent : Node → String
  | element _ _ cs => textContentAll cs
  | text s => s
  | markup s => Text.unescape s
  | fragment cs => textContentAll cs

/-- The text of some trees together. -/
def textContentAll : List Node → String
  | [] => ""
  | n :: ns => n.textContent ++ textContentAll ns

end

/-- The written form of attributes. -/
def attributesHtml : List (String × String) → String
  | [] => ""
  | (name, value) :: rest =>
    " " ++ name ++ "=\"" ++ Text.escapeAttribute value ++ "\"" ++ attributesHtml rest

mutual

/-- The written form of a tree. -/
def toHtml : Node → String
  | element tag attributes cs =>
    "<" ++ tag ++ attributesHtml attributes ++ ">" ++ toHtmlAll cs ++ "</" ++ tag ++ ">"
  | text s => Text.escape s
  | markup s => s
  | fragment cs => toHtmlAll cs

/-- The written form of some trees together. -/
def toHtmlAll : List Node → String
  | [] => ""
  | n :: ns => n.toHtml ++ toHtmlAll ns

end

mutual

/-- The tree with its field names. -/
def inspect : Node → String
  | element tag attributes cs =>
    "Element(" ++ Text.record "Element" [("tag", Text.quoted tag),
      ("attributes", Text.list (attributes.map fun a =>
        "(" ++ Text.quoted a.1 ++ ", " ++ Text.quoted a.2 ++ ")")),
      ("children", Text.list (inspectEach cs))] ++ ")"
  | text s => "Text(" ++ Text.quoted s ++ ")"
  | markup s => "Markup(" ++ Text.quoted s ++ ")"
  | fragment cs => "Fragment(" ++ Text.list (inspectEach cs) ++ ")"

/-- Some trees, each with its field names. -/
def inspectEach : List Node → List String
  | [] => []
  | n :: ns => n.inspect :: inspectEach ns

end

mutual

/-- Whether two trees are the same. -/
def same : Node → Node → Bool
  | element tag attributes cs, element tag' attributes' cs' =>
    tag == tag' && attributes == attributes' && sameAll cs cs'
  | text s, text t => s == t
  | markup s, markup t => s == t
  | fragment cs, fragment cs' => sameAll cs cs'
  | _, _ => false

/-- Whether two lists hold the same trees. -/
def sameAll : List Node → List Node → Bool
  | [], [] => true
  | n :: ns, m :: ms => same n m && sameAll ns ms
  | _, _ => false

end

mutual

/-- Trees that are the same are equal. -/
theorem eq_of_same : ∀ {n m : Node}, same n m = true → n = m
  | element _ _ cs, m, h => by
    cases m <;> simp only [same, Bool.and_eq_true, beq_iff_eq, Bool.false_eq_true] at h
    obtain ⟨⟨rfl, rfl⟩, hc⟩ := h
    rw [eq_of_sameAll hc]
  | text _, m, h => by cases m <;> simp_all [same]
  | markup _, m, h => by cases m <;> simp_all [same]
  | fragment cs, m, h => by
    cases m <;> simp only [same, Bool.false_eq_true] at h
    rw [eq_of_sameAll h]

/-- Lists of the same trees are equal. -/
theorem eq_of_sameAll : ∀ {ns ms : List Node}, sameAll ns ms = true → ns = ms
  | [], ms, h => by cases ms <;> simp_all [sameAll]
  | n :: ns, ms, h => by
    cases ms <;> simp only [sameAll, Bool.and_eq_true, Bool.false_eq_true] at h
    rw [eq_of_same h.1, eq_of_sameAll h.2]

end

mutual

/-- A tree is the same as itself. -/
theorem same_self : ∀ n : Node, same n n = true
  | element _ _ cs => by simp [same, sameAll_self cs]
  | text _ => by simp [same]
  | markup _ => by simp [same]
  | fragment cs => by simp [same, sameAll_self cs]

/-- A list holds the same trees as itself. -/
theorem sameAll_self : ∀ ns : List Node, sameAll ns ns = true
  | [] => rfl
  | n :: ns => by simp [sameAll, same_self n, sameAll_self ns]

end

/-- Being the same is equality. -/
theorem same_iff {n m : Node} : same n m = true ↔ n = m :=
  ⟨eq_of_same, fun h => h ▸ same_self n⟩

instance : DecidableEq Node := fun _ _ => decidable_of_iff _ same_iff

end Node

end Highlighter
