import Highlighter.Proofs.Tree.Input

/-!
# The leaves of a tree

What a tree says, without the elements around it.

The texts and the markup of a tree, from left to right, are its leaves. Delivery
and the normal form move them about: a text may become markup, neighbours are
fused, empty ones are dropped. As long as all leaves are of one kind, no string is
escaped when neighbours are fused, so the strings of the leaves together are what
they were. `Spells` says both things at once. Some trees spell a string in an
input mode if their leaves are of the kind of that mode and make up the string.

## Main definitions

* `Node.leaves`: the texts and the markup of a tree.
* `Node.MarkupFree`: a tree without markup.
* `InputMode.leaf`: the kind of leaf that an input mode makes.
* `Node.Spells`: trees whose leaves are of one kind and make up a string.

## Theorems

* `Node.leaves_delivered`: Delivery changes the leaves one by one.
* `Node.Spells.join`: Joining a node adds what it spells.
* `Node.Spells.joinAll`, `Node.Spells.normalizeEach`: The normal form spells what
  the trees spell.
* `Node.Spells.delivered`: So does a delivery.
* `Node.spells_textContent`: A tree without markup spells its text.
* `Node.Spells.textContentAll_eq`: Trees have the text that they spell.
-/

namespace Highlighter

/-- The leaf that an input mode makes of a string. -/
def InputMode.leaf : InputMode → String → Node
  | text => .text
  | markup => .markup

namespace Node

/-! ## Leaves -/

mutual

/-- The texts and the markup of the tree, from left to right. -/
def leaves : Node → List Node
  | element _ _ cs => leavesAll cs
  | text s => [text s]
  | markup s => [markup s]
  | fragment cs => leavesAll cs

/-- The texts and the markup of some trees. -/
def leavesAll : List Node → List Node
  | [] => []
  | n :: ns => n.leaves ++ leavesAll ns

end

/-- There is no markup in the tree, at any depth. -/
def MarkupFree (n : Node) : Prop := ∀ s, markup s ∉ n.leaves

theorem leavesAll_singleton (n : Node) : leavesAll [n] = n.leaves := by
  rw [leavesAll, leavesAll, List.append_nil]

theorem leavesAll_eq_flatMap (ns : List Node) : leavesAll ns = ns.flatMap leaves := by
  induction ns with
  | nil => rfl
  | cons n ns ih => rw [leavesAll, ih, List.flatMap_cons]

theorem leavesAll_append (ns ms : List Node) :
    leavesAll (ns ++ ms) = leavesAll ns ++ leavesAll ms := by
  rw [leavesAll_eq_flatMap, leavesAll_eq_flatMap, leavesAll_eq_flatMap, List.flatMap_append]

theorem leaves_of_isTextLike {n : Node} (h : n.isTextLike = true) : n.leaves = [n] := by
  cases n with
  | element | fragment => cases h
  | text s | markup s => rfl

/-- A fragment has the leaves of its members. -/
theorem leavesAll_splice (n : Node) : leavesAll n.splice = n.leaves := by
  cases n with
  | fragment cs => rfl
  | element | text | markup => exact leavesAll_singleton _

theorem leavesAll_flatMap_splice (ns : List Node) :
    leavesAll (ns.flatMap splice) = leavesAll ns := by
  induction ns with
  | nil => rfl
  | cons n ns ih => rw [List.flatMap_cons, leavesAll_append, leavesAll_splice, ih, leavesAll]

mutual

/-- Every leaf is a text or markup. -/
theorem isTextLike_of_mem_leaves : ∀ n : Node, ∀ l ∈ n.leaves, l.isTextLike = true
  | element _ _ cs => isTextLike_of_mem_leavesAll cs
  | text s => fun l hl => by rw [List.mem_singleton.mp hl]; rfl
  | markup s => fun l hl => by rw [List.mem_singleton.mp hl]; rfl
  | fragment cs => isTextLike_of_mem_leavesAll cs

theorem isTextLike_of_mem_leavesAll : ∀ ns : List Node, ∀ l ∈ leavesAll ns, l.isTextLike = true
  | [], l, hl => absurd hl List.not_mem_nil
  | n :: ns, l, hl => by
    rw [leavesAll, List.mem_append] at hl
    rcases hl with hl | hl
    · exact isTextLike_of_mem_leaves n l hl
    · exact isTextLike_of_mem_leavesAll ns l hl

end

mutual

/-- The text of a tree is the text of its leaves. -/
theorem textContent_eq_join : ∀ n : Node, n.textContent = String.join (n.leaves.map textContent)
  | element _ _ cs => by rw [textContent, textContentAll_eq_join cs, leaves]
  | text s => (Text.join_singleton s).symm
  | markup s => (Text.join_singleton (Text.unescape s)).symm
  | fragment cs => by rw [textContent, textContentAll_eq_join cs, leaves]

theorem textContentAll_eq_join :
    ∀ ns : List Node, textContentAll ns = String.join ((leavesAll ns).map textContent)
  | [] => rfl
  | n :: ns => by
    rw [textContentAll, textContent_eq_join n, textContentAll_eq_join ns, leavesAll,
      List.map_append, String.join_append]

end

mutual

/-- Delivery takes each leaf as the input mode does, and leaves none out. -/
theorem leaves_delivered (mode : InputMode) :
    ∀ n : Node, (n.delivered mode).leaves = n.leaves.map (inMode mode)
  | element tag attributes cs => by
    rw [delivered, appendAll_element, List.nil_append, leaves, leavesAll_flatMap_splice,
      leavesAll_deliveredEach mode cs, leaves]
  | text s => by cases mode <;> rfl
  | markup s => by cases mode <;> rfl
  | fragment cs => by
    rw [delivered, appendAll_fragment, List.nil_append, leaves, leavesAll_flatMap_splice,
      leavesAll_deliveredEach mode cs, leaves]

theorem leavesAll_deliveredEach (mode : InputMode) :
    ∀ ns : List Node, leavesAll (deliveredEach mode ns) = (leavesAll ns).map (inMode mode)
  | [] => rfl
  | n :: ns => by
    rw [deliveredEach, leavesAll, leaves_delivered mode n, leavesAll_deliveredEach mode ns,
      leavesAll, List.map_append]

end

/-! ## Trees that spell a string -/

/-- The leaves of the trees are of the kind of an input mode, and together they
    make up a string. -/
def Spells (mode : InputMode) (ns : List Node) (s : String) : Prop :=
  ∃ ss : List String, leavesAll ns = ss.map mode.leaf ∧ String.join ss = s

variable {mode : InputMode}

theorem spells_nil_iff (s : String) : Spells mode [] s ↔ s = "" := by
  constructor
  · rintro ⟨ss, hss, hjoin⟩
    rw [List.map_eq_nil_iff.mp hss.symm, String.join_nil] at hjoin
    exact hjoin.symm
  · rintro rfl
    exact ⟨[], rfl, String.join_nil⟩

/-- What trees spell depends on their leaves only. -/
theorem Spells.of_leavesAll {ns ms : List Node} {s : String} (h : Spells mode ns s)
    (hleaves : leavesAll ms = leavesAll ns) : Spells mode ms s := by
  rcases h with ⟨ss, hss, hjoin⟩
  exact ⟨ss, hleaves.trans hss, hjoin⟩

theorem spells_append_iff (ns ms : List Node) (s : String) :
    Spells mode (ns ++ ms) s ↔ ∃ t u, Spells mode ns t ∧ Spells mode ms u ∧ t ++ u = s := by
  constructor
  · rintro ⟨ss, hss, hjoin⟩
    rw [leavesAll_append] at hss
    rcases List.map_eq_append_iff.mp hss.symm with ⟨ts, us, hsplit, hts, hus⟩
    refine ⟨String.join ts, String.join us, ⟨ts, hts.symm, rfl⟩, ⟨us, hus.symm, rfl⟩, ?_⟩
    rw [← String.join_append, ← hsplit, hjoin]
  · rintro ⟨t, u, ⟨ts, hts, ht⟩, ⟨us, hus, hu⟩, hs⟩
    refine ⟨ts ++ us, ?_, ?_⟩
    · rw [leavesAll_append, hts, hus, List.map_append]
    · rw [String.join_append, ht, hu, hs]

/-- A text or markup spells a string if it is the leaf of this string. -/
theorem spells_leaf_iff {n : Node} (htext : n.isTextLike = true) (s : String) :
    Spells mode [n] s ↔ n = mode.leaf s := by
  rw [Spells, leavesAll_singleton, leaves_of_isTextLike htext]
  constructor
  · rintro ⟨ss, hss, hjoin⟩
    rcases List.map_eq_singleton_iff.mp hss.symm with ⟨t, hsingle, ht⟩
    rw [hsingle, Text.join_singleton] at hjoin
    rw [← ht, hjoin]
  · rintro rfl
    exact ⟨[s], rfl, Text.join_singleton s⟩

/-- An empty leaf spells nothing. -/
theorem Spells.eq_empty {n : Node} {s : String} (h : Spells mode [n] s)
    (hempty : n.isEmptyText = true) : s = "" := by
  have htext : n.isTextLike = true := by
    cases n with
    | element | fragment => cases hempty
    | text | markup => rfl
  rw [(spells_leaf_iff htext s).mp h] at hempty
  cases mode <;> exact String.isEmpty_iff.mp hempty

/-- Leaves of one kind are fused without escaping. -/
theorem fuse?_leaf (mode : InputMode) (s t : String) :
    fuse? (mode.leaf s) (mode.leaf t) = some (mode.leaf (s ++ t)) := by
  cases mode <;> rfl

theorem Spells.fuse? {m n k : Node} {s t : String} (hm : Spells mode [m] s)
    (hn : Spells mode [n] t) (hfuse : fuse? m n = some k) : Spells mode [k] (s ++ t) := by
  rcases isTextLike_of_fuse? hfuse with ⟨hm', hn', hk'⟩
  rw [spells_leaf_iff hk']
  rw [(spells_leaf_iff hm' s).mp hm, (spells_leaf_iff hn' t).mp hn, fuse?_leaf,
    Option.some.injEq] at hfuse
  exact hfuse.symm

/-- Joining a node to others, which are given last first, adds what it spells. -/
theorem Spells.join {before : List Node} {n : Node} {s t : String}
    (hbefore : Spells mode before.reverse s) (hn : Spells mode [n] t) :
    Spells mode (join before n).reverse (s ++ t) := by
  -- A node that is dropped spells nothing, and one that is fused is split off first.
  rcases join_cases before n with ⟨hempty, hjoin⟩ | ⟨m, rest, k, hsplit, _, hfuse, hjoin⟩ |
    ⟨_, _, hjoin⟩ <;> rw [hjoin]
  · rw [hn.eq_empty hempty, String.append_empty]
    exact hbefore
  · rw [hsplit, List.reverse_cons, spells_append_iff] at hbefore
    rcases hbefore with ⟨u, v, hrest, hm, huv⟩
    rw [List.reverse_cons, spells_append_iff]
    exact ⟨u, v ++ t, hrest, hm.fuse? hn hfuse, by rw [← huv, String.append_assoc]⟩
  · rw [List.reverse_cons, spells_append_iff]
    exact ⟨s, t, hbefore, hn, rfl⟩

theorem Spells.foldl_join {ns before : List Node} {s t : String}
    (hbefore : Spells mode before.reverse s) (hns : Spells mode ns t) :
    Spells mode (ns.foldl Node.join before).reverse (s ++ t) := by
  induction ns generalizing before s t with
  | nil =>
      rw [(spells_nil_iff t).mp hns, String.append_empty]
      exact hbefore
  | cons n ns ih =>
      rcases (spells_append_iff [n] ns t).mp hns with ⟨u, v, hn, hrest, huv⟩
      rw [← huv, ← String.append_assoc]
      exact ih (hbefore.join hn) hrest

/-- Joining neighbours does not change what is spelled. -/
theorem Spells.joinAll {ns : List Node} {s : String} (h : Spells mode ns s) :
    Spells mode (joinAll ns) s := by
  have hfold : Spells mode (ns.foldl Node.join []).reverse ("" ++ s) :=
    Spells.foldl_join ((spells_nil_iff "").mpr rfl) h
  rwa [String.empty_append] at hfold

mutual

/-- Nor does the normal form at every depth. -/
theorem Spells.splice_normalize :
    ∀ (n : Node) {s : String}, Spells mode [n] s → Spells mode n.normalize.splice s
  | element tag attributes cs, s, h => by
    have hcs : Spells mode cs s :=
      h.of_leavesAll (leavesAll_singleton (element tag attributes cs)).symm
    exact (Spells.normalizeEach cs hcs).joinAll.of_leavesAll
      (leavesAll_singleton (element tag attributes (Node.joinAll (Node.normalizeEach cs))))
  | text _, _, h => h
  | markup _, _, h => h
  | fragment cs, s, h => by
    have hcs : Spells mode cs s := h.of_leavesAll (leavesAll_singleton (fragment cs)).symm
    exact (Spells.normalizeEach cs hcs).joinAll

theorem Spells.normalizeEach :
    ∀ (ns : List Node) {s : String}, Spells mode ns s → Spells mode (normalizeEach ns) s
  | [], _, h => h
  | n :: ns, s, h => by
    rcases (spells_append_iff [n] ns s).mp h with ⟨t, u, hn, hns, htu⟩
    exact (spells_append_iff _ _ s).mpr
      ⟨t, u, Spells.splice_normalize n hn, Spells.normalizeEach ns hns, htu⟩

end

/-- Trees without markup spell in an input mode, once delivered, what they spell
    as texts. -/
theorem Spells.delivered {ns : List Node} {s : String} (h : Spells .text ns s)
    (mode : InputMode) : Spells mode (deliveredEach mode ns) s := by
  rcases h with ⟨ss, hss, hjoin⟩
  refine ⟨ss, ?_, hjoin⟩
  rw [leavesAll_deliveredEach, hss, List.map_map]
  cases mode <;> rfl

/-- A tree without markup spells its text. -/
theorem spells_textContent {n : Node} (h : n.MarkupFree) : Spells .text [n] n.textContent := by
  refine ⟨n.leaves.map textContent, ?_, (textContent_eq_join n).symm⟩
  have hleaf : ∀ l ∈ n.leaves, (InputMode.text.leaf ∘ textContent) l = l := by
    intro l hl
    have htext := isTextLike_of_mem_leaves n l hl
    cases l with
    | element | fragment => cases htext
    | text s => rfl
    | markup s => exact absurd hl (h s)
  rw [leavesAll_singleton, List.map_map, List.map_congr_left hleaf, List.map_id']

/-- Trees have the text that they spell. -/
theorem Spells.textContentAll_eq {ns : List Node} {s : String} (h : Spells .text ns s) :
    textContentAll ns = s := by
  rcases h with ⟨ss, hss, hjoin⟩
  have htext : (textContent ∘ InputMode.text.leaf) = id := rfl
  rw [textContentAll_eq_join, hss, List.map_map, htext, List.map_id, hjoin]

end Node

end Highlighter
