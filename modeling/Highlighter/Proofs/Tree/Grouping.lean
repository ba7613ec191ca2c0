import Highlighter.Proofs.Tree.Normal

/-!
# Grouping nodes

Why it does not matter how nodes are grouped.

A rule may give its output as one fragment or as several nodes, and it may or may
not bring a part of it into normal form. Whoever normalises the whole in the end
cannot tell. A text that is fused with the text before it would have been fused
within its fragment first, and the fragment with the rest afterwards. That both
orders lead to the same node is the associativity of fusing, and `Alike` carries it
from two neighbours to lists of nodes: lists that are joined to others alike can
stand for each other between any other nodes, and below any node.

## Theorems

* `Node.Alike.normalize_fragment`, `Node.Alike.normalize_element`: Nodes that are
  alike can stand for each other below a node.
* `Node.alike_children_normalize`: The children of a normal form are like those of
  the tree.
* `Node.normalize_regroup`: Grouping does not show in the normal form.
-/

namespace Highlighter

namespace Node

theorem Alike.normalize_fragment {ns ms : List Node} (h : Alike ns ms) :
    (fragment ns).normalize = (fragment ms).normalize :=
  congrArg fragment h.joinAll_eq

theorem Alike.normalize_element {ns ms : List Node} (h : Alike ns ms) (tag : String)
    (attributes : List (String × String)) :
    (element tag attributes ns).normalize = (element tag attributes ms).normalize :=
  congrArg (element tag attributes) h.joinAll_eq

/-- Nodes that are alike can stand for each other between other nodes. -/
theorem Alike.between {ns ms : List Node} (h : Alike ns ms) (before after : List Node) :
    Alike (before ++ ns ++ after) (before ++ ms ++ after) :=
  ((Alike.refl before).append h).append (.refl after)

/-- The children that a list of nodes has in normal form are joined to others like
    the nodes. -/
theorem alike_children_normalize (ns : List Node) : Alike (fragment ns).normalize.children ns := by
  intro before
  have hnormal := normal_joinAll_normalizeEach ns
  -- In normal form already, the children are only joined, and they may be joined first.
  rw [normalize, children, normalizeEach_of_normal _ hnormal.1.whole hnormal.2,
    foldl_join_joinAll]

/-- Whether some nodes stand among others as they are, in a fragment of their own,
    or in normal form makes no difference to the normal form of a fragment or an
    element that holds them all. -/
theorem normalize_regroup (xs ys zs : List Node) :
    (fragment (xs ++ [fragment ys] ++ zs)).normalize = (fragment (xs ++ ys ++ zs)).normalize ∧
    (fragment (xs ++ (fragment ys).normalize.children ++ zs)).normalize
      = (fragment (xs ++ ys ++ zs)).normalize ∧
    ∀ (tag : String) (attributes : List (String × String)),
      (element tag attributes (xs ++ [fragment ys] ++ zs)).normalize
        = (element tag attributes (xs ++ ys ++ zs)).normalize ∧
      (element tag attributes (xs ++ (fragment ys).normalize.children ++ zs)).normalize
        = (element tag attributes (xs ++ ys ++ zs)).normalize := by
  have hgroup : Alike (xs ++ [fragment ys] ++ zs) (xs ++ ys ++ zs) :=
    Alike.between (fun before => (alike_splice (fragment ys) before).symm) xs zs
  have hnormal : Alike (xs ++ (fragment ys).normalize.children ++ zs) (xs ++ ys ++ zs) :=
    (alike_children_normalize ys).between xs zs
  exact ⟨hgroup.normalize_fragment, hnormal.normalize_fragment, fun tag attributes =>
    ⟨hgroup.normalize_element tag attributes, hnormal.normalize_element tag attributes⟩⟩

end Node

end Highlighter
