import Highlighter.Proofs.Tree.Attributes
import Highlighter.Proofs.Tree.Rendering
import Highlighter.Tree.Sink

/-!
# Delivery to a tree

What a tree becomes on its way through the sink that makes trees.

The sink is asked for one node after another, so the tree that comes out need not
be the one that went in. An attribute that is set twice keeps its first place and
its last value, and a fragment below another node loses itself to that node.
Because the sink keeps no state, delivery is a function all the same, and
`Node.delivered` is that function: it is what a run of the requests returns, in
any monad. Two facts about it are enough to compare written forms. Attributes
come back as they were if their names are distinct, and appending a fragment is
writing its members.

## Main definitions

* `Node.DistinctNames`: no element of a tree has two attributes of one name.
* `setAttributesIn`: attributes set one after the other.
* `Node.appendAll`: nodes appended one after the other.
* `Node.delivered`: the tree that the sink makes of a tree.

## Theorems

* `setAttributesIn_of_nodup`: Setting distinct names only lines them up.
* `Node.appendAll_of_append`: Appending some nodes adds them and the members of
  fragments to the children.
* `Node.deliver_tree`, `Node.deliverEach_tree`: A delivery returns what
  `delivered` says, whatever the monad.
* `Node.toHtml_delivered`: A delivered tree is written like the tree.
-/

namespace Highlighter

variable {m : Type → Type} [Monad m]

/-! ## Attributes -/

/-- Sets some attributes, one after the other. -/
def setAttributesIn (before : List (String × String)) :
    List (String × String) → List (String × String)
  | [] => before
  | (name, value) :: rest => setAttributesIn (setAttributeIn name value before) rest

/-- A name that is not there yet goes behind all others. -/
theorem setAttributeIn_of_not_mem (name value : String) (before : List (String × String))
    (hnew : name ∉ before.map (·.1)) :
    setAttributeIn name value before = before ++ [(name, value)] := by
  rw [setAttributeIn_eq_putIn, putIn_of_not_mem name value before hnew]

theorem setAttributesIn_of_nodup (attributes before : List (String × String))
    (hnames : ((before ++ attributes).map (·.1)).Nodup) :
    setAttributesIn before attributes = before ++ attributes := by
  -- The names that are set already go along, so that no later one meets them.
  induction attributes generalizing before with
  | nil => rw [setAttributesIn, List.append_nil]
  | cons a attributes ih =>
      rcases a with ⟨name, value⟩
      have hnew : name ∉ before.map (·.1) := by
        intro hmem
        rw [List.map_append, List.nodup_append] at hnames
        exact hnames.2.2 name hmem name List.mem_cons_self rfl
      have hshift : before ++ (name, value) :: attributes
          = (before ++ [(name, value)]) ++ attributes := by
        rw [List.append_assoc, List.singleton_append]
      rw [setAttributesIn, setAttributeIn_of_not_mem name value before hnew, hshift]
      exact ih (before ++ [(name, value)]) (hshift ▸ hnames)

/-- The sink of trees appends as `Node.append` does. -/
theorem Sink.tree_append (target child : Node) :
    (Sink.tree : Sink m Node).append target child = pure (target.append child) := rfl

variable [LawfulMonad m]

/-- The sink of trees sets attributes of an element as `setAttributesIn` does. -/
theorem Sink.tree_setAttributes (tag : String) (cs : List Node)
    (attributes before : List (String × String)) :
    (Sink.tree : Sink m Node).setAttributes (.element tag before cs) attributes
      = pure (.element tag (setAttributesIn before attributes) cs) := by
  -- The target changes with each request, so the attributes it has are free.
  induction attributes generalizing before with
  | nil => rfl
  | cons a attributes ih =>
      rcases a with ⟨name, value⟩
      have hset : (Sink.tree : Sink m Node).setAttribute (.element tag before cs) name value
          = pure (.element tag (setAttributeIn name value before) cs) := rfl
      rw [Sink.setAttributes, hset, pure_bind, ih, setAttributesIn]

namespace Node

mutual

/-- No element of the tree has two attributes of one name. -/
def DistinctNames : Node → Prop
  | element _ attributes cs => (attributes.map (·.1)).Nodup ∧ DistinctNamesEach cs
  | text _ => True
  | markup _ => True
  | fragment cs => DistinctNamesEach cs

/-- No element of the trees has two attributes of one name. -/
def DistinctNamesEach : List Node → Prop
  | [] => True
  | n :: ns => n.DistinctNames ∧ DistinctNamesEach ns

end

theorem distinctNamesEach_iff (ns : List Node) :
    DistinctNamesEach ns ↔ ∀ n ∈ ns, n.DistinctNames := by
  induction ns with
  | nil => simp only [DistinctNamesEach, List.not_mem_nil, false_imp_iff, implies_true]
  | cons n ns ih => rw [DistinctNamesEach, ih, List.forall_mem_cons]

/-! ## Appending -/

/-- Appends some nodes, one after the other. -/
def appendAll (target : Node) (ns : List Node) : Node := ns.foldl append target

/-- Where appending puts a node, or its members, behind the children, appending
    some nodes puts them there one after the other. -/
theorem appendAll_of_append (parent : List Node → Node)
    (hparent : ∀ cs n, (parent cs).append n = parent (cs ++ n.splice)) (cs ns : List Node) :
    (parent cs).appendAll ns = parent (cs ++ ns.flatMap splice) := by
  unfold appendAll
  induction ns generalizing cs with
  | nil => rw [List.foldl_nil, List.flatMap_nil, List.append_nil]
  | cons n ns ih => rw [List.foldl_cons, hparent, ih, List.flatMap_cons, List.append_assoc]

theorem appendAll_element (tag : String) (attributes : List (String × String))
    (cs ns : List Node) :
    (element tag attributes cs).appendAll ns
      = element tag attributes (cs ++ ns.flatMap splice) :=
  appendAll_of_append (element tag attributes) (fun _ _ => rfl) cs ns

theorem appendAll_fragment (cs ns : List Node) :
    (fragment cs).appendAll ns = fragment (cs ++ ns.flatMap splice) :=
  appendAll_of_append fragment (fun _ _ => rfl) cs ns

/-- The members of fragments are written like the fragments. -/
theorem toHtmlAll_flatMap_splice (ns : List Node) :
    toHtmlAll (ns.flatMap splice) = toHtmlAll ns := by
  induction ns with
  | nil => rfl
  | cons n ns ih => rw [List.flatMap_cons, toHtmlAll_append, toHtmlAll_splice, ih, toHtmlAll]

/-! ## Delivery -/

mutual

/-- The tree that the sink of trees makes of a tree. -/
def delivered (mode : InputMode) : Node → Node
  | element tag attributes cs =>
    (element tag (setAttributesIn [] attributes) []).appendAll (deliveredEach mode cs)
  | text s => match mode with
    | .text => text s
    | .markup => markup s
  | markup s => markup s
  | fragment cs => (fragment []).appendAll (deliveredEach mode cs)

/-- The trees that the sink of trees makes of some trees. -/
def deliveredEach (mode : InputMode) : List Node → List Node
  | [] => []
  | n :: ns => n.delivered mode :: deliveredEach mode ns

end

mutual

theorem deliver_tree (mode : InputMode) :
    ∀ n : Node, n.deliver (Sink.tree : Sink m Node) mode = pure (n.delivered mode)
  | element tag attributes cs => by
    have hnew : (Sink.tree : Sink m Node).element tag = pure (element tag [] []) := rfl
    rw [deliver, hnew, pure_bind, Sink.tree_setAttributes, pure_bind, deliverEach_tree mode _ cs,
      delivered]
  | text s => by cases mode <;> rfl
  | markup s => rfl
  | fragment cs => by
    have hnew : (Sink.tree : Sink m Node).container = pure (fragment []) := rfl
    rw [deliver, hnew, pure_bind, deliverEach_tree mode _ cs, delivered]

theorem deliverEach_tree (mode : InputMode) (target : Node) :
    ∀ ns : List Node, deliverEach (Sink.tree : Sink m Node) mode target ns
      = pure (target.appendAll (deliveredEach mode ns))
  | [] => rfl
  | n :: ns => by
    rw [deliverEach, deliver_tree mode n, pure_bind, Sink.tree_append, pure_bind,
      deliverEach_tree mode _ ns, deliveredEach, appendAll, appendAll, List.foldl_cons]

end

mutual

/-- What the sink makes of a tree in text mode is written like the tree. -/
theorem toHtml_delivered :
    ∀ n : Node, n.DistinctNames → (n.delivered .text).toHtml = n.toHtml
  | element tag attributes cs, hnames => by
    have hattributes : setAttributesIn [] attributes = attributes :=
      setAttributesIn_of_nodup attributes [] hnames.1
    rw [delivered, appendAll_element, hattributes, List.nil_append, toHtml,
      toHtmlAll_flatMap_splice, toHtmlAll_deliveredEach cs hnames.2, toHtml]
  | text s, _ => rfl
  | markup s, _ => rfl
  | fragment cs, hnames => by
    rw [delivered, appendAll_fragment, List.nil_append, toHtml, toHtmlAll_flatMap_splice,
      toHtmlAll_deliveredEach cs hnames, toHtml]

/-- The same for some trees. -/
theorem toHtmlAll_deliveredEach :
    ∀ ns : List Node, DistinctNamesEach ns → toHtmlAll (deliveredEach .text ns) = toHtmlAll ns
  | [], _ => rfl
  | n :: ns, hnames => by
    rw [deliveredEach, toHtmlAll, toHtml_delivered n hnames.1,
      toHtmlAll_deliveredEach ns hnames.2, toHtmlAll]

end

end Node

end Highlighter
