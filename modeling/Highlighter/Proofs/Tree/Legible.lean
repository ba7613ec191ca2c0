import Highlighter.Proofs.Tree.Leaves
import Highlighter.Proofs.Tree.Normal

/-!
# Legible trees

Trees that can be told from their written form, and what their texts do for that.

`Legible` collects what has to be true of a list of children. Markup is left out
because it is written as it is and may say anything. The normal form is asked for
because two neighbouring texts are written like one, an empty text like none, and a
fragment like its members. Names may not contain what has a meaning inside a tag,
for names are not escaped. Of the attributes nothing is asked but their names, not
even that the names are different.

Texts and the values of attributes are left free. `Legible.reword` says so: the
trees stay legible, and keep their outline, if every text and every value is
replaced by another one. A text may only not become empty, as an empty text is not
written at all.

## Main definitions

* `IsName`: a name of a tag or an attribute.
* `Node.WellNamed`: a tree with such names only.
* `Node.Legible`: trees that can be told from their written form.
* `Node.reword`: a tree with other texts and values.
* `Node.outline`: a tree without texts and values.

## Theorems

* `Node.legible_element`, `Node.Legible.cons`: Legible trees from legible parts.
* `Node.Legible.of_cons`, `Node.Legible.of_element`: The parts of legible trees.
* `Node.Legible.cases`: A legible tree is a text or an element.
* `Node.reword_reword`, `Node.outline_reword`: Replacing twice, and the outline.
* `Node.leaves_reword`: What becomes of the leaves.
* `Node.Legible.reword`: Other texts and values do not make trees illegible.
-/

namespace Highlighter

/-- A name of a tag or an attribute: not empty, and without the characters that
    have a meaning inside a tag. -/
def IsName (s : String) : Prop := s ≠ "" ∧ ∀ c ∈ s.toList, c ∉ [' ', '<', '>', '/', '=', '"']

/-- A name is free of any character that has a meaning inside a tag. -/
theorem IsName.ne {s : String} (h : IsName s) {c d : Char} (hc : c ∈ s.toList)
    (hd : d ∈ [' ', '<', '>', '/', '=', '"']) : c ≠ d :=
  fun heq => h.2 c hc (heq ▸ hd)

namespace Node

mutual

/-- The tags and the names of the attributes of the tree are names. -/
def WellNamed : Node → Prop
  | element tag attributes cs =>
    IsName tag ∧ (∀ a ∈ attributes, IsName a.1) ∧ WellNamedEach cs
  | text _ => True
  | markup _ => True
  | fragment cs => WellNamedEach cs

/-- The tags and the names of the attributes of the trees are names. -/
def WellNamedEach : List Node → Prop
  | [] => True
  | n :: ns => n.WellNamed ∧ WellNamedEach ns

end

/-- Trees that can be told from their written form, if it is known where they end:
    children in normal form, with names as they have to be and without markup. -/
structure Legible (ns : List Node) : Prop where
  /-- The trees are children in normal form. -/
  tidy : Tidy ns
  /-- So are the children of the nodes below. -/
  normal : NormalEach ns
  /-- Tags and names of attributes are names. -/
  wellNamed : WellNamedEach ns
  /-- There is no markup. -/
  markupFree : ∀ s, markup s ∉ leavesAll ns

theorem legible_nil : Legible [] := ⟨.nil, trivial, trivial, fun _ => List.not_mem_nil⟩

theorem legible_text {s : String} (h : s.isEmpty = false) : Legible [text s] :=
  ⟨.singleton rfl h, ⟨trivial, trivial⟩, ⟨trivial, trivial⟩,
    fun _ hs => nomatch List.mem_singleton.mp hs⟩

theorem legible_element {tag : String} {attributes : List (String × String)} {cs : List Node}
    (htag : IsName tag) (hnames : ∀ a ∈ attributes, IsName a.1) (hcs : Legible cs) :
    Legible [element tag attributes cs] := by
  refine ⟨.singleton rfl rfl, ⟨⟨hcs.tidy, hcs.normal⟩, trivial⟩,
    ⟨⟨htag, hnames, hcs.wellNamed⟩, trivial⟩, fun s hs => ?_⟩
  rw [leavesAll_singleton] at hs
  exact hcs.markupFree s hs

/-- One more tree stays legible if it is not a text before another text. -/
theorem Legible.cons {n m : Node} {ns : List Node} (hn : Legible [n]) (hns : Legible (m :: ns))
    (hapart : Apart n m) : Legible (n :: m :: ns) := by
  refine ⟨⟨?_, ?_, .cons_cons hapart hns.tidy.apart⟩, ⟨hn.normal.1, hns.normal⟩,
    ⟨hn.wellNamed.1, hns.wellNamed⟩, fun s hs => ?_⟩
  · exact List.forall_mem_cons.mpr ⟨hn.tidy.whole n List.mem_cons_self, hns.tidy.whole⟩
  · exact List.forall_mem_cons.mpr ⟨hn.tidy.filled n List.mem_cons_self, hns.tidy.filled⟩
  · rcases List.mem_append.mp hs with hs | hs
    · exact hn.markupFree s (List.mem_append_left _ hs)
    · exact hns.markupFree s hs

theorem Legible.of_cons {n : Node} {ns : List Node} (h : Legible (n :: ns)) :
    Legible [n] ∧ Legible ns := by
  have hfilled : ∀ m ∈ n :: ns, m.isEmptyText = false := h.tidy.filled
  have hwhole := h.tidy.whole
  rw [List.forall_mem_cons] at hfilled hwhole
  constructor
  · refine ⟨.singleton hwhole.1 hfilled.1, ⟨h.normal.1, trivial⟩, ⟨h.wellNamed.1, trivial⟩, ?_⟩
    intro s hs
    rw [leavesAll_singleton] at hs
    exact h.markupFree s (List.mem_append_left _ hs)
  · refine ⟨⟨hwhole.2, hfilled.2, h.tidy.apart.tail⟩, h.normal.2, h.wellNamed.2, fun s hs => ?_⟩
    exact h.markupFree s (List.mem_append_right _ hs)

theorem Legible.of_element {tag : String} {attributes : List (String × String)} {cs : List Node}
    (h : Legible [element tag attributes cs]) :
    IsName tag ∧ (∀ a ∈ attributes, IsName a.1) ∧ Legible cs := by
  refine ⟨h.wellNamed.1.1, h.wellNamed.1.2.1, h.normal.1.1, h.normal.1.2, h.wellNamed.1.2.2, ?_⟩
  intro s hs
  exact h.markupFree s (List.mem_append_left _ hs)

theorem Legible.cases {n : Node} (h : Legible [n]) :
    (∃ s, n = text s ∧ s.isEmpty = false) ∨
      ∃ tag attributes cs, n = element tag attributes cs := by
  cases n with
  | element tag attributes cs => exact .inr ⟨tag, attributes, cs, rfl⟩
  | text s => exact .inl ⟨s, rfl, h.tidy.filled _ List.mem_cons_self⟩
  | markup s => exact absurd List.mem_cons_self (h.markupFree s)
  | fragment cs => cases h.tidy.whole _ List.mem_cons_self

/-! ## Other texts and values -/

mutual

/-- The tree with other texts and other values of attributes. -/
def reword (f g : String → String) : Node → Node
  | element tag attributes cs =>
    element tag (attributes.map fun a => (a.1, g a.2)) (rewordEach f g cs)
  | text s => text (f s)
  | markup s => markup s
  | fragment cs => fragment (rewordEach f g cs)

/-- The trees with other texts and other values of attributes. -/
def rewordEach (f g : String → String) : List Node → List Node
  | [] => []
  | n :: ns => n.reword f g :: rewordEach f g ns

end

/-- The elements of the tree with the names of their attributes, and where its texts
    stand, without what texts and values say. -/
def outline (n : Node) : Node := n.reword (fun _ => "") (fun _ => "")

variable (f g : String → String)

theorem rewordEach_eq_map (ns : List Node) : rewordEach f g ns = ns.map (reword f g) := by
  induction ns with
  | nil => rfl
  | cons n ns ih => rw [rewordEach, ih, List.map_cons]

mutual

/-- Replacing texts and values twice is replacing them once. -/
theorem reword_reword (f' g' : String → String) :
    ∀ n : Node, (n.reword f g).reword f' g' = n.reword (f' ∘ f) (g' ∘ g)
  | element tag attributes cs => by
    rw [reword, reword, reword, rewordEach_rewordEach f' g' cs, List.map_map]
    rfl
  | text _ => rfl
  | markup _ => rfl
  | fragment cs => by rw [reword, reword, reword, rewordEach_rewordEach f' g' cs]

theorem rewordEach_rewordEach (f' g' : String → String) :
    ∀ ns : List Node, rewordEach f' g' (rewordEach f g ns) = rewordEach (f' ∘ f) (g' ∘ g) ns
  | [] => rfl
  | n :: ns => by
    rw [rewordEach, rewordEach, rewordEach, reword_reword f' g' n, rewordEach_rewordEach f' g' ns]

end

/-- The outline does not depend on texts and values. -/
theorem outline_reword (n : Node) : (n.reword f g).outline = n.outline :=
  reword_reword f g (fun _ => "") (fun _ => "") n

theorem isFragment_reword (n : Node) : (n.reword f g).isFragment = n.isFragment := by
  cases n <;> rfl

theorem isTextLike_reword (n : Node) : (n.reword f g).isTextLike = n.isTextLike := by
  cases n <;> rfl

mutual

/-- The leaves are replaced one by one. -/
theorem leaves_reword : ∀ n : Node, (n.reword f g).leaves = n.leaves.map (reword f g)
  | element _ _ cs => leavesAll_rewordEach cs
  | text _ => rfl
  | markup _ => rfl
  | fragment cs => leavesAll_rewordEach cs

theorem leavesAll_rewordEach :
    ∀ ns : List Node, leavesAll (rewordEach f g ns) = (leavesAll ns).map (reword f g)
  | [] => rfl
  | n :: ns => by
    rw [rewordEach, leavesAll, leaves_reword n, leavesAll_rewordEach ns, leavesAll,
      List.map_append]

end

mutual

theorem wellNamed_reword : ∀ n : Node, n.WellNamed → (n.reword f g).WellNamed
  | element _ _ cs, h => by
    refine ⟨h.1, ?_, wellNamedEach_rewordEach cs h.2.2⟩
    exact List.forall_mem_map.mpr h.2.1
  | text _, _ => trivial
  | markup _, _ => trivial
  | fragment cs, h => wellNamedEach_rewordEach cs h

theorem wellNamedEach_rewordEach :
    ∀ ns : List Node, WellNamedEach ns → WellNamedEach (rewordEach f g ns)
  | [], _ => trivial
  | n :: ns, h => ⟨wellNamed_reword n h.1, wellNamedEach_rewordEach ns h.2⟩

end

variable {f}

/-- Children stay in normal form as long as no text becomes empty. -/
theorem tidy_rewordEach (hf : ∀ s, f s ≠ "") {cs : List Node} (h : Tidy cs) :
    Tidy (rewordEach f g cs) := by
  rw [rewordEach_eq_map]
  refine ⟨List.forall_mem_map.mpr fun n hn => ?_, List.forall_mem_map.mpr fun n hn => ?_, ?_⟩
  · rw [isFragment_reword]
    exact h.whole n hn
  · cases n with
    | text s => exact String.isEmpty_eq_false_iff.mpr (hf s)
    | markup s => exact h.filled _ hn
    | element | fragment => rfl
  · rw [List.isChain_map]
    refine h.apart.imp fun m n hmn => ?_
    rw [Apart, isTextLike_reword, isTextLike_reword]
    exact hmn

mutual

theorem normal_reword (hf : ∀ s, f s ≠ "") : ∀ n : Node, n.Normal → (n.reword f g).Normal
  | element _ _ cs, h => ⟨tidy_rewordEach g hf h.1, normalEach_rewordEach hf cs h.2⟩
  | text _, _ => trivial
  | markup _, _ => trivial
  | fragment cs, h => ⟨tidy_rewordEach g hf h.1, normalEach_rewordEach hf cs h.2⟩

theorem normalEach_rewordEach (hf : ∀ s, f s ≠ "") :
    ∀ ns : List Node, NormalEach ns → NormalEach (rewordEach f g ns)
  | [], _ => trivial
  | n :: ns, h => ⟨normal_reword hf n h.1, normalEach_rewordEach hf ns h.2⟩

end

/-- Trees stay legible with any other values and any other texts that are not
    empty. -/
theorem Legible.reword (hf : ∀ s, f s ≠ "") {ns : List Node} (h : Legible ns) :
    Legible (rewordEach f g ns) := by
  refine ⟨tidy_rewordEach g hf h.tidy, normalEach_rewordEach g hf ns h.normal,
    wellNamedEach_rewordEach f g ns h.wellNamed, fun s hs => ?_⟩
  rw [leavesAll_rewordEach, List.mem_map] at hs
  rcases hs with ⟨l, hl, hmarkup⟩
  -- Only markup is replaced by markup, and there is none.
  cases l with
  | markup t => exact h.markupFree t hl
  | element | text | fragment => cases hmarkup

end Node

end Highlighter
