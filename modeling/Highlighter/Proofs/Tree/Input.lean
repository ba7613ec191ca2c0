import Highlighter.Proofs.Tree.Delivery

/-!
# Trees by input mode

A delivery without its requests.

What a sink of trees is asked for is known when the tree and the input mode are
known, so a delivery changes a tree in a way that can be told without the sink:
in markup mode its texts become markup. The tree that comes out is put together
in another way, with fragments taken apart one level at a time and attributes set
one by one. None of this is left in the normal form. Fragments are gone there,
and `Node.joinAll_normalizeEach_splice` says that it does not matter who took
them apart.

## Main definitions

* `Node.asMarkup`: a tree with its texts as markup.
* `Node.inMode`: a tree as an input mode takes it.

## Theorems

* `Node.normalize_delivered`: A delivered tree has the normal form of the tree in
  its mode.
* `Node.normalize_appendAll_delivered`: So have some delivered trees together.
-/

namespace Highlighter

namespace Node

mutual

/-- The tree with markup in place of every text. -/
def asMarkup : Node → Node
  | element tag attributes cs => element tag attributes (asMarkupEach cs)
  | text s => markup s
  | markup s => markup s
  | fragment cs => fragment (asMarkupEach cs)

/-- The trees with markup in place of every text. -/
def asMarkupEach : List Node → List Node
  | [] => []
  | n :: ns => n.asMarkup :: asMarkupEach ns

end

/-- The tree as an input mode takes it: texts are markup if the input is. -/
def inMode (mode : InputMode) (n : Node) : Node :=
  match mode with
  | .text => n
  | .markup => n.asMarkup

theorem asMarkupEach_eq_map (ns : List Node) : asMarkupEach ns = ns.map asMarkup := by
  induction ns with
  | nil => rfl
  | cons n ns ih => rw [asMarkupEach, ih, List.map_cons]

theorem map_inMode_text (ns : List Node) : ns.map (inMode .text) = ns := List.map_id ns

theorem inMode_element (mode : InputMode) (tag : String) (attributes : List (String × String))
    (cs : List Node) :
    (element tag attributes cs).inMode mode = element tag attributes (cs.map (inMode mode)) := by
  cases mode with
  | text => rw [map_inMode_text, inMode]
  | markup => exact congrArg (element tag attributes) (asMarkupEach_eq_map cs)

theorem inMode_fragment (mode : InputMode) (cs : List Node) :
    (fragment cs).inMode mode = fragment (cs.map (inMode mode)) := by
  cases mode with
  | text => rw [map_inMode_text, inMode]
  | markup => exact congrArg fragment (asMarkupEach_eq_map cs)

theorem inMode_markup (mode : InputMode) (s : String) : (markup s).inMode mode = markup s := by
  cases mode <;> rfl

/-- A text is delivered as its mode takes it. -/
theorem delivered_text (mode : InputMode) (s : String) :
    (text s).delivered mode = (text s).inMode mode := by
  cases mode <;> rfl

mutual

/-- A delivered tree has the normal form of the tree in its mode. -/
theorem normalize_delivered (mode : InputMode) :
    ∀ n : Node, n.DistinctNames → (n.delivered mode).normalize = (n.inMode mode).normalize
  | element tag attributes cs, hnames => by
    have hattributes : setAttributesIn [] attributes = attributes :=
      setAttributesIn_of_nodup attributes [] hnames.1
    -- The members of fragments stand among the children once these are appended.
    rw [delivered, appendAll_element, hattributes, List.nil_append, normalize,
      joinAll_normalizeEach_splice, normalizeEach_delivered mode cs hnames.2, inMode_element,
      normalize]
  | text s, _ => by rw [delivered_text]
  | markup s, _ => by rw [delivered, inMode_markup]
  | fragment cs, hnames => by
    rw [delivered, appendAll_fragment, List.nil_append, normalize, joinAll_normalizeEach_splice,
      normalizeEach_delivered mode cs hnames, inMode_fragment, normalize]

/-- The same for some trees. -/
theorem normalizeEach_delivered (mode : InputMode) :
    ∀ ns : List Node, DistinctNamesEach ns →
      normalizeEach (deliveredEach mode ns) = normalizeEach (ns.map (inMode mode))
  | [], _ => rfl
  | n :: ns, hnames => by
    rw [deliveredEach, normalizeEach, normalize_delivered mode n hnames.1,
      normalizeEach_delivered mode ns hnames.2, List.map_cons, normalizeEach]

end

/-- Delivered trees that are appended to a container have the normal form of the
    trees in a fragment. -/
theorem normalize_appendAll_delivered (mode : InputMode) (ns : List Node)
    (hnames : ∀ n ∈ ns, n.DistinctNames) :
    ((fragment []).appendAll (deliveredEach mode ns)).normalize
      = (fragment (ns.map (inMode mode))).normalize := by
  rw [appendAll_fragment, List.nil_append, normalize, joinAll_normalizeEach_splice,
    normalizeEach_delivered mode ns ((distinctNamesEach_iff ns).mpr hnames), normalize]

end Node

end Highlighter
