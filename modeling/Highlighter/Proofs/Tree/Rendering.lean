import Highlighter.Proofs.Tree.Joining

/-!
# The written form of a tree

What changes a tree without changing its written form.

The written form is put together from left to right, so it does not show where
one fragment ends and the next begins, nor whether a text is one node or two.
Joining uses both: it drops what writes nothing, and where a text meets markup it
escapes the text, which is what writing would have done. So writing is a seamless
reading of nodes, and the rest follows the recursion of `Node.normalize`.

## Theorems

* `toHtmlAll_append`, `join_map_toHtml`: Trees are written one after the other.
* `toHtmlAll_splice`: A fragment is written like its members.
* `seamless_toHtml`: Fusing neighbours does not show in what is written.
* `toHtmlAll_joinAll`: Joining neighbours does not change what is written.
* `toHtmlAll_splice_normalize`, `toHtmlAll_normalizeEach`: Nor does the normal
  form at every depth.
-/

namespace Highlighter

namespace Node

theorem join_map_toHtml (ns : List Node) : String.join (ns.map toHtml) = toHtmlAll ns := by
  induction ns with
  | nil => rw [List.map_nil, String.join_nil, toHtmlAll]
  | cons n ns ih => rw [List.map_cons, String.join_cons, ih, toHtmlAll]

theorem toHtmlAll_append (ns ms : List Node) :
    toHtmlAll (ns ++ ms) = toHtmlAll ns ++ toHtmlAll ms := by
  rw [← join_map_toHtml, List.map_append, String.join_append, join_map_toHtml, join_map_toHtml]

theorem toHtmlAll_singleton (n : Node) : toHtmlAll [n] = n.toHtml := by
  rw [toHtmlAll, toHtmlAll, String.append_empty]

/-- A fragment is written like its members. -/
theorem toHtmlAll_splice (n : Node) : toHtmlAll n.splice = n.toHtml := by
  cases n with
  | fragment cs => rw [splice, toHtml]
  | element tag attributes cs => exact toHtmlAll_singleton _
  | text s => exact toHtmlAll_singleton _
  | markup s => exact toHtmlAll_singleton _

/-- Two neighbours are written like what they become. -/
theorem toHtml_of_fuse? {m n k : Node} (h : fuse? m n = some k) :
    k.toHtml = m.toHtml ++ n.toHtml := by
  -- A text that becomes part of markup is escaped then, and otherwise when it is written.
  rcases fuse?_cases h with ⟨s, t, rfl, rfl, rfl⟩ | ⟨s, t, rfl, rfl, rfl⟩ |
    ⟨s, t, rfl, rfl, rfl⟩ | ⟨s, t, rfl, rfl, rfl⟩
  · rw [toHtml, toHtml, toHtml, Text.escape_append]
  · rw [toHtml, toHtml, toHtml]
  · rw [toHtml, toHtml, toHtml]
  · rw [toHtml, toHtml, toHtml]

theorem toHtml_of_isEmptyText {n : Node} (h : n.isEmptyText = true) : n.toHtml = "" := by
  cases n with
  | element | fragment => cases h
  | text s => rw [toHtml, String.isEmpty_iff.mp h, Text.escape_empty]
  | markup s => exact String.isEmpty_iff.mp h

theorem seamless_toHtml : Seamless (fun _ => True) toHtml where
  empty _ := toHtml_of_isEmptyText
  closed _ _ _ := trivial
  fused _ _ := toHtml_of_fuse?

/-- Joining neighbours does not change what is written. -/
theorem toHtmlAll_joinAll (ns : List Node) : toHtmlAll (joinAll ns) = toHtmlAll ns := by
  rw [← join_map_toHtml, seamless_toHtml.joinAll fun _ _ => trivial, join_map_toHtml]

mutual

/-- The normal form of a tree is written like the tree. -/
theorem toHtmlAll_splice_normalize : ∀ n : Node, toHtmlAll n.normalize.splice = n.toHtml
  | element tag attributes cs => by
    rw [normalize, toHtmlAll_splice, toHtml, toHtmlAll_joinAll, toHtmlAll_normalizeEach cs, toHtml]
  | fragment cs => by
    rw [normalize, toHtmlAll_splice, toHtml, toHtmlAll_joinAll, toHtmlAll_normalizeEach cs, toHtml]
  | text s => toHtmlAll_splice (text s)
  | markup s => toHtmlAll_splice (markup s)

/-- The normal forms of some trees are written like the trees. -/
theorem toHtmlAll_normalizeEach : ∀ ns : List Node, toHtmlAll (normalizeEach ns) = toHtmlAll ns
  | [] => rfl
  | n :: ns => by
    rw [normalizeEach, toHtmlAll_append, toHtmlAll_splice_normalize n, toHtmlAll_normalizeEach ns,
      toHtmlAll]

end

end Node

end Highlighter
