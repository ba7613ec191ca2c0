import Highlighter.Tree.Node

/-!
# Elements

An element on its own, with the operations that need one. Attributes keep the
order in which they were first set, and no name occurs twice. Classes are the
words of one attribute; adding a class that is there already changes nothing.

## Main definitions

* `Element`: an element.
* `Element.setAttribute`, `Element.addClass`: changing attributes.
* `Element.classes`: the classes of an element.
* `Element.innerHtml`, `Element.textContent`: what the children say.
-/

namespace Highlighter

/-- Sets an attribute: in place of its former value, or behind all others. -/
def setAttributeIn (name value : String) : List (String × String) → List (String × String)
  | [] => [(name, value)]
  | (n, v) :: rest =>
    if n = name then (n, value) :: rest else (n, v) :: setAttributeIn name value rest

/-- Sets an attribute of an element; other nodes have none. -/
def Node.setAttribute (n : Node) (name value : String) : Node :=
  match n with
  | .element tag attributes cs => .element tag (setAttributeIn name value attributes) cs
  | n => n

/-- The words of a text between blanks; `word` is the one being read, last
    character first. -/
def splitBlanks : (word : List Char) → List Char → List (List Char)
  | word, [] => if word.isEmpty then [] else [word.reverse]
  | word, c :: cs =>
    if isBlank c then
      if word.isEmpty then splitBlanks [] cs else word.reverse :: splitBlanks [] cs
    else splitBlanks (c :: word) cs

/-- An element on its own. -/
structure Element where
  /-- The tag. -/
  tag : String
  /-- The attributes, in the order of their first setting. -/
  attributes : List (String × String) := []
  /-- The children. -/
  children : List Node := []
deriving DecidableEq

namespace Element

/-- An element as a node. -/
def toNode (e : Element) : Node := .element e.tag e.attributes e.children

/-- The value of an attribute. -/
def attribute? (e : Element) (name : String) : Option String := e.attributes.lookup name

/-- Sets an attribute. -/
def setAttribute (e : Element) (name value : String) : Element :=
  { e with attributes := setAttributeIn name value e.attributes }

/-- The classes of an element. -/
def classes (e : Element) : List String :=
  (splitBlanks [] ((e.attribute? "class").getD "").toList).map String.ofList

/-- Adds a class, unless the element has it already. -/
def addClass (e : Element) (name : String) : Element :=
  match e.attribute? "class" with
  | none => e.setAttribute "class" name
  | some value =>
    if e.classes.contains name then e else e.setAttribute "class" (value ++ " " ++ name)

/-- Appends a child, or the members of a fragment. -/
def append (e : Element) (child : Node) : Element :=
  { e with children := e.children ++ child.splice }

/-- Replaces all children. -/
def setChildren (e : Element) (children : List Node) : Element := { e with children }

/-- The written form of the children. -/
def innerHtml (e : Element) : String := Node.toHtmlAll e.children

/-- The text of the children. -/
def textContent (e : Element) : String := Node.textContentAll e.children

/-- The written form of the element. -/
def toHtml (e : Element) : String := e.toNode.toHtml

/-- The element with its field names. -/
def inspect (e : Element) : String :=
  Text.record "Element" [("tag", Text.quoted e.tag),
    ("attributes", Text.list (e.attributes.map fun a =>
      "(" ++ Text.quoted a.1 ++ ", " ++ Text.quoted a.2 ++ ")")),
    ("children", Text.list (Node.inspectEach e.children))]

end Element

end Highlighter
