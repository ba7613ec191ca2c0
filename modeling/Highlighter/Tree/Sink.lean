import Highlighter.Tree.Element

/-!
# Sinks and hosts

A tree is delivered to a document by way of a *sink*, which makes nodes of the
document on request. So any kind of document can be the target, and the order
of the requests is all that a document sees. A *host* is a place in a document
whose content can be read and replaced.

Requests run in a monad, where a document may keep its state. For the trees of
this library nothing needs to be kept, and any monad does.

## Main definitions

* `InputMode`: whether a source is text or markup.
* `Sink`: making the nodes of a document.
* `Node.deliver`: making a tree through a sink.
* `Sink.tree`: the sink that makes trees of this library.
* `Host`: a place in a document.
* `Host.element`: an element as a host.
-/

namespace Highlighter

/-- Whether a source is text or markup. -/
inductive InputMode where
  /-- Text, to be escaped. -/
  | text
  /-- Markup, which is escaped already. -/
  | markup
deriving DecidableEq

/-- The name of an input mode. -/
def InputMode.name : InputMode → String
  | text => "Text"
  | markup => "Markup"

/-- Making the nodes of a document, of type `ν`. -/
structure Sink (m : Type → Type) (ν : Type) where
  /-- Makes a node that only holds other nodes. -/
  container : m ν
  /-- Makes an element without attributes and children. -/
  element : (tag : String) → m ν
  /-- Sets an attribute of an element. -/
  setAttribute : ν → (name value : String) → m ν
  /-- Makes a text. -/
  text : String → m ν
  /-- Makes markup. -/
  markup : String → m ν
  /-- Appends a node to another one. -/
  append : (parent child : ν) → m ν
  /-- Joins neighbouring texts. -/
  normalize : ν → m ν

namespace Sink

variable {m : Type → Type} {ν : Type} [Monad m]

/-- Sets some attributes of an element. -/
def setAttributes (sink : Sink m ν) (target : ν) : List (String × String) → m ν
  | [] => pure target
  | (name, value) :: rest => do setAttributes sink (← sink.setAttribute target name value) rest

/-- The sink that makes trees of this library. It keeps no state, so it does its
    work in any monad. -/
def tree : Sink m Node where
  container := pure (.fragment [])
  element tag := pure (.element tag [] [])
  setAttribute n name value := pure (n.setAttribute name value)
  text s := pure (.text s)
  markup s := pure (.markup s)
  append parent child := pure (parent.append child)
  normalize n := pure n.normalize

end Sink

namespace Node

variable {m : Type → Type} {ν : Type} [Monad m]

mutual

/-- Makes a tree through a sink. If the input is markup, the texts of the tree
    are markup too. -/
def deliver (sink : Sink m ν) (mode : InputMode) : Node → m ν
  | element tag attributes cs => do
    let target ← sink.setAttributes (← sink.element tag) attributes
    deliverEach sink mode target cs
  | text s => match mode with
    | .text => sink.text s
    | .markup => sink.markup s
  | markup s => sink.markup s
  | fragment cs => do deliverEach sink mode (← sink.container) cs

/-- Makes some trees and appends them to a node. -/
def deliverEach (sink : Sink m ν) (mode : InputMode) (target : ν) : List Node → m ν
  | [] => pure target
  | n :: ns => do
    let child ← deliver sink mode n
    deliverEach sink mode (← sink.append target child) ns

end

end Node

/-- A place in a document whose content can be read and replaced. -/
structure Host (m : Type → Type) (ν : Type) where
  /-- The text of the content. -/
  textContent : m String
  /-- The written form of the content. -/
  innerMarkup : m String
  /-- The sink that makes nodes for the host. -/
  sink : m (Sink m ν)
  /-- Replaces the content. -/
  replaceChildren : ν → m Unit

/-- The children that a node brings when it replaces the content of an
    element. -/
def Element.replaceChildren (e : Element) (content : Node) : Element :=
  e.setChildren content.splice

/-- The element kept in the state, as a host. -/
def Host.element : Host (StateM Element) Node where
  textContent := do return (← get).textContent
  innerMarkup := do return (← get).innerHtml
  sink := pure Sink.tree
  replaceChildren content := modify fun e => e.replaceChildren content

end Highlighter
