import Highlighter.Proofs.Text.Entities
import Highlighter.Proofs.Tree.Leaves

/-!
# The text of a normal form

When normalising a tree keeps its text.

Markup is read with its entities resolved, and each piece of markup is read on its
own. Normalising fuses pieces, and what is read of them changes if an entity that
was cut in two is whole afterwards. This is the only thing that can happen. A text
that is fused with markup is escaped first, and reading takes this back, so it may
say whatever it likes, also something that looks like an entity.

So the text of a tree is kept if no markup in it ends in the beginning of an entity.
Fusing keeps this property as well, so it lasts through all of normalising, and the
text is a seamless reading of such nodes. The property cannot be left out for any
piece of markup, as there is always another piece that completes the entity.

## Main definitions

* `Node.Uncut`: a tree in which no markup ends in the beginning of an entity.
* `Node.guarded`: a tree of this kind with entities on every side.

## Theorems

* `Node.uncut_of_markupFree`: A tree without markup is uncut.
* `Node.seamless_textContent`: Fusing neighbours does not show in their text.
* `Node.textContentAll_splice_normalize`, `Node.textContentAll_normalizeEach`: The
  text at every depth.
* `Node.exists_textContent_normalize_ne`: What is cut can be completed.
* `Node.textContent_normalize`: Normalising keeps the text of uncut trees.
-/

namespace Highlighter

namespace Node

/-- No markup in the tree ends in the beginning of an entity. -/
def Uncut (n : Node) : Prop := ∀ s, markup s ∈ n.leaves → Text.Uncut s.toList

theorem uncut_of_markupFree {n : Node} (h : n.MarkupFree) : n.Uncut :=
  fun s hs => absurd hs (h s)

theorem uncut_text (s : String) : (text s).Uncut := fun _ ht => nomatch List.mem_singleton.mp ht

theorem uncut_markup_iff (s : String) : (markup s).Uncut ↔ Text.Uncut s.toList := by
  constructor
  · exact fun h => h s (List.mem_singleton.mpr rfl)
  · intro h t ht
    rw [leaves, List.mem_singleton, markup.injEq] at ht
    rw [ht]
    exact h

/-- A node that has the leaves of some others is uncut if all of these are. -/
theorem uncut_iff_of_leaves {n : Node} {cs : List Node} (hleaves : n.leaves = leavesAll cs) :
    n.Uncut ↔ ∀ c ∈ cs, c.Uncut := by
  rw [leavesAll_eq_flatMap] at hleaves
  constructor
  · intro h c hc s hs
    refine h s ?_
    rw [hleaves]
    exact List.mem_flatMap.mpr ⟨c, hc, hs⟩
  · intro h s hs
    rw [hleaves] at hs
    rcases List.mem_flatMap.mp hs with ⟨c, hc, hs⟩
    exact h c hc s hs

theorem uncut_element_iff (tag : String) (attributes : List (String × String))
    (cs : List Node) : (element tag attributes cs).Uncut ↔ ∀ c ∈ cs, c.Uncut :=
  uncut_iff_of_leaves rfl

theorem uncut_fragment_iff (cs : List Node) : (fragment cs).Uncut ↔ ∀ c ∈ cs, c.Uncut :=
  uncut_iff_of_leaves rfl

/-! ## Fusing -/

theorem textContent_of_isEmptyText {n : Node} (h : n.isEmptyText = true) : n.textContent = "" := by
  cases n with
  | element | fragment => cases h
  | text s => exact String.isEmpty_iff.mp h
  | markup s =>
      rw [textContent, String.isEmpty_iff.mp h]
      rfl

/-- Neighbours that are not cut become a node that is not cut. -/
theorem uncut_of_fuse? {m n k : Node} (hm : m.Uncut) (hn : n.Uncut) (h : fuse? m n = some k) :
    k.Uncut := by
  rcases fuse?_cases h with ⟨s, t, rfl, rfl, rfl⟩ | ⟨s, t, rfl, rfl, rfl⟩ |
    ⟨s, t, rfl, rfl, rfl⟩ | ⟨s, t, rfl, rfl, rfl⟩
  · exact uncut_text (s ++ t)
  · rw [uncut_markup_iff, String.toList_append]
    exact (Text.uncut_escape s).append ((uncut_markup_iff t).mp hn)
  · rw [uncut_markup_iff, String.toList_append]
    exact ((uncut_markup_iff s).mp hm).append (Text.uncut_escape t)
  · rw [uncut_markup_iff, String.toList_append]
    exact ((uncut_markup_iff s).mp hm).append ((uncut_markup_iff t).mp hn)

/-- Two neighbours say what they become if the first of them is not cut. -/
theorem textContent_of_fuse? {m n k : Node} (hm : m.Uncut) (h : fuse? m n = some k) :
    k.textContent = m.textContent ++ n.textContent := by
  rcases fuse?_cases h with ⟨s, t, rfl, rfl, rfl⟩ | ⟨s, t, rfl, rfl, rfl⟩ |
    ⟨s, t, rfl, rfl, rfl⟩ | ⟨s, t, rfl, rfl, rfl⟩
  · rfl
  · -- What was escaped is not cut, and is read as it was.
    rw [textContent, textContent, textContent, Text.unescape_append (Text.uncut_escape s),
      Text.unescape_escape]
  · rw [textContent, textContent, textContent,
      Text.unescape_append ((uncut_markup_iff s).mp hm), Text.unescape_escape]
  · exact Text.unescape_append ((uncut_markup_iff s).mp hm) t

theorem seamless_textContent : Seamless Uncut textContent where
  empty _ := textContent_of_isEmptyText
  closed := uncut_of_fuse?
  fused hm _ := textContent_of_fuse? hm

/-! ## Normalising -/

theorem join_map_textContent (ns : List Node) :
    String.join (ns.map textContent) = textContentAll ns := by
  induction ns with
  | nil => rw [List.map_nil, String.join_nil, textContentAll]
  | cons n ns ih => rw [List.map_cons, String.join_cons, ih, textContentAll]

theorem textContentAll_append (ns ms : List Node) :
    textContentAll (ns ++ ms) = textContentAll ns ++ textContentAll ms := by
  rw [← join_map_textContent, List.map_append, String.join_append, join_map_textContent,
    join_map_textContent]

theorem textContentAll_joinAll {ns : List Node} (h : ∀ n ∈ ns, n.Uncut) :
    textContentAll (joinAll ns) = textContentAll ns := by
  rw [← join_map_textContent, seamless_textContent.joinAll h, join_map_textContent]

mutual

/-- What a tree counts for in normal form has the text of the tree and no cuts. -/
theorem textContentAll_splice_normalize : ∀ n : Node, n.Uncut →
    (∀ m ∈ n.normalize.splice, m.Uncut) ∧ textContentAll n.normalize.splice = n.textContent
  | element tag attributes cs, h => by
    have heach := textContentAll_normalizeEach cs ((uncut_element_iff tag attributes cs).mp h)
    -- An element stays among the children, with others in place of its own.
    have hsplice : (element tag attributes cs).normalize.splice
        = [element tag attributes (joinAll (normalizeEach cs))] := rfl
    rw [hsplice, List.forall_mem_singleton, uncut_element_iff]
    refine ⟨forall_mem_joinAll uncut_of_fuse? heach.1, ?_⟩
    rw [textContentAll, textContentAll, String.append_empty, textContent,
      textContentAll_joinAll heach.1, heach.2, textContent]
  | text s, h => ⟨List.forall_mem_singleton.mpr h, String.append_empty⟩
  | markup s, h => ⟨List.forall_mem_singleton.mpr h, String.append_empty⟩
  | fragment cs, h => by
    -- The members come out joined and will be joined to others, so they have to be uncut.
    have heach := textContentAll_normalizeEach cs ((uncut_fragment_iff cs).mp h)
    exact ⟨forall_mem_joinAll uncut_of_fuse? heach.1,
      (textContentAll_joinAll heach.1).trans heach.2⟩

/-- The same for some trees. -/
theorem textContentAll_normalizeEach : ∀ ns : List Node, (∀ n ∈ ns, n.Uncut) →
    (∀ m ∈ normalizeEach ns, m.Uncut) ∧ textContentAll (normalizeEach ns) = textContentAll ns
  | [], h => ⟨h, rfl⟩
  | n :: ns, h => by
    rw [List.forall_mem_cons] at h
    have hn := textContentAll_splice_normalize n h.1
    have hns := textContentAll_normalizeEach ns h.2
    rw [normalizeEach, List.forall_mem_append, textContentAll_append, hn.2, hns.2,
      textContentAll]
    exact ⟨⟨hn.1, hns.1⟩, rfl⟩

end

/-- Two pieces of markup are one in normal form. -/
theorem normalize_markup_markup {s t : String} (hs : s.isEmpty = false) (ht : t.isEmpty = false) :
    (fragment [markup s, markup t]).normalize = fragment [markup (s ++ t)] := by
  have hfull : (markup t).isEmptyText = false := ht
  have hfirst : join [] (markup s) = [markup s] := join_of_alone hs fun _ hm => nomatch hm
  have hsecond : join [markup s] (markup t) = [markup (s ++ t)] := join_of_fuse? hfull rfl []
  have heach : normalizeEach [markup s, markup t] = [markup s, markup t] := rfl
  rw [normalize, heach, joinAll, List.foldl_cons, List.foldl_cons, List.foldl_nil, hfirst, hsecond]
  rfl

theorem textContent_splice (n : Node) : textContentAll n.splice = n.textContent := by
  cases n with
  | fragment cs => rfl
  | element | text | markup => exact String.append_empty

/-- Markup that is cut has a counterpart: in normal form the two have another text
    than before. -/
theorem exists_textContent_normalize_ne {s : String} (h : ¬Text.Uncut s.toList) :
    ∃ t : String, (fragment [markup s, markup t]).normalize.textContent
      ≠ (fragment [markup s, markup t]).textContent := by
  rcases Text.exists_unescape_append_ne h with ⟨t, ht⟩
  -- Neither piece is empty, for nothing is read of an empty one in either way.
  have hs : s.isEmpty = false := by
    rw [← Bool.not_eq_true, String.isEmpty_iff]
    rintro rfl
    exact h Text.uncut_nil
  have ht' : t.isEmpty = false := by
    rw [← Bool.not_eq_true, String.isEmpty_iff]
    rintro rfl
    exact ht (by rw [String.append_empty]; exact String.append_empty.symm)
  refine ⟨t, ?_⟩
  rw [normalize_markup_markup hs ht']
  simpa only [textContent, textContentAll, String.append_empty] using ht

/-- If no markup in a tree ends in the beginning of an entity, as in a tree without
    markup, then the normal form has the text of the tree. No markup that does end
    so could be allowed, since there is a tree with it that has another text in
    normal form. -/
theorem textContent_normalize :
    (∀ n : Node, n.MarkupFree → n.Uncut) ∧
    (∀ n : Node, n.Uncut → n.normalize.textContent = n.textContent) ∧
    ∀ s : String, ¬Text.Uncut s.toList → ∃ t : String,
      (fragment [markup s, markup t]).normalize.textContent
        ≠ (fragment [markup s, markup t]).textContent := by
  refine ⟨fun _ => uncut_of_markupFree, fun n h => ?_, fun _ => exists_textContent_normalize_ne⟩
  rw [← textContent_splice, (textContentAll_splice_normalize n h).2]

/-- A tree with entities on every side of the borders between its nodes, and with
    the pieces of one in two texts. -/
def guarded : Node :=
  .fragment [.text "AT&", .fragment [.markup "&amp;T", .text "&am"], .text "p;",
    .element "b" [("class", "&l")] [.markup "&quot;", .fragment [.text "<"], .markup "&copy;"]]

theorem textContent_normalize_guarded :
    guarded.Uncut ∧ guarded.normalize.textContent = guarded.textContent ∧
    guarded.textContent = "AT&&T&amp;\"<&copy;" ∧
    (text "&lt;").MarkupFree ∧ (text "&lt;").Uncut ∧
    ¬Text.Uncut "&am".toList ∧ ∃ t : String,
      (fragment [markup "&am", markup t]).normalize.textContent
        ≠ (fragment [markup "&am", markup t]).textContent := by
  have huncut : guarded.Uncut := by
    intro s hs
    have hall : ∀ t ∈ ["&amp;T", "&quot;", "&copy;"], Text.Uncut t.toList := by decide
    exact hall s (by simpa [guarded, leaves, leavesAll] using hs)
  have hcut : ¬Text.Uncut "&am".toList := by decide
  have hfree : (text "&lt;").MarkupFree := fun s hs => nomatch List.mem_singleton.mp hs
  exact ⟨huncut, textContent_normalize.2.1 guarded huncut, rfl, hfree,
    textContent_normalize.1 _ hfree, hcut, textContent_normalize.2.2 "&am" hcut⟩

end Node

end Highlighter
