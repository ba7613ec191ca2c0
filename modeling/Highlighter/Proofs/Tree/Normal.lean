import Highlighter.Proofs.Tree.Rendering
import Mathlib.Data.List.Chain

/-!
# Trees in normal form

What is left once a tree has been normalised.

The normal form is a property of the lists of children, and of all of them, at
every depth. In each list no member is a fragment, nothing is empty, and no two
texts or pieces of markup are neighbours. Joining keeps these three at every step.
What it adds to the nodes before it is either the new node or what became of two
neighbours, and the second is a text or markup again and stands where one stood
before. So a list that is tidy remains so, and `normal_normalize` only has to carry
this through the tree.

The predicate does not mention how a tree is normalised. Nothing but the nodes
and their neighbours is looked at. It says all there is to say about a normal form,
for where nothing is a fragment, nothing is empty and no texts meet, there is
nothing left to do.

## Main definitions

* `Node.isFragment`: a node that is a fragment.
* `Node.Apart`: nodes that may be neighbours.
* `Node.Tidy`: a list of children in normal form.
* `Node.Normal`: a tree whose lists of children are all in normal form.

## Theorems

* `Node.tidy_joinAll`: Joining neighbours tidies a list without fragments.
* `Node.normal_normalize`: The normal form of a tree is in normal form.
* `Node.toHtml_normalize`: It is also written like the tree.
* `Node.Tidy.joinAll_eq`, `Node.normalize_of_normal`: What is in normal form is left
  alone.
* `Node.normalize_eq_self_iff`: Nothing else is left alone.
-/

namespace Highlighter

namespace Node

/-- Whether a node is a fragment. -/
def isFragment : Node → Bool
  | fragment _ => true
  | _ => false

/-- Not both of two nodes are texts or markup, so they may be neighbours. -/
def Apart (m n : Node) : Prop := ¬(m.isTextLike = true ∧ n.isTextLike = true)

/-- Children in normal form. -/
structure Tidy (cs : List Node) : Prop where
  /-- No child is a fragment. -/
  whole : ∀ n ∈ cs, n.isFragment = false
  /-- No child is an empty text or empty markup. -/
  filled : Filled cs
  /-- No two neighbours are texts or markup. -/
  apart : cs.IsChain Apart

theorem Tidy.nil : Tidy [] :=
  ⟨fun _ hn => absurd hn List.not_mem_nil, fun _ hn => absurd hn List.not_mem_nil, .nil⟩

theorem Tidy.singleton {n : Node} (hwhole : n.isFragment = false)
    (hfilled : n.isEmptyText = false) : Tidy [n] :=
  ⟨List.forall_mem_singleton.mpr hwhole, List.forall_mem_singleton.mpr hfilled, .singleton n⟩

mutual

/-- The children are in normal form, and so are those of every node below. -/
def Normal : Node → Prop
  | element _ _ cs => Tidy cs ∧ NormalEach cs
  | text _ => True
  | markup _ => True
  | fragment cs => Tidy cs ∧ NormalEach cs

/-- The trees are in normal form. -/
def NormalEach : List Node → Prop
  | [] => True
  | n :: ns => n.Normal ∧ NormalEach ns

end

theorem normalEach_iff (ns : List Node) : NormalEach ns ↔ ∀ n ∈ ns, n.Normal := by
  induction ns with
  | nil => simp only [NormalEach, List.not_mem_nil, false_imp_iff, implies_true]
  | cons n ns ih => rw [NormalEach, ih, List.forall_mem_cons]

/-- Nodes may be neighbours if they are not fused. -/
theorem fuse?_eq_none_iff (m n : Node) : fuse? m n = none ↔ Apart m n := by
  rw [Apart, ← Bool.and_eq_true, ← isSome_fuse?, Option.not_isSome_iff_eq_none]

theorem isFragment_of_isTextLike {n : Node} (h : n.isTextLike = true) : n.isFragment = false := by
  cases n with
  | fragment => cases h
  | element | text | markup => rfl

theorem normal_of_isTextLike {n : Node} (h : n.isTextLike = true) : n.Normal := by
  cases n with
  | element | fragment => cases h
  | text | markup => trivial

/-! ## Joining -/

/-- Joining leaves no two texts or pieces of markup side by side. -/
theorem apart_join {before : List Node} (h : before.IsChain Apart) (n : Node) :
    (join before n).IsChain Apart := by
  rcases join_cases before n with ⟨_, hjoin⟩ | ⟨m, rest, k, hsplit, _, hfuse, hjoin⟩ |
    ⟨_, halone, hjoin⟩ <;> rw [hjoin]
  · exact h
  · -- What takes the place of a text is a text, or markup, so its neighbour is neither.
    rw [hsplit] at h
    have hm := (isTextLike_of_fuse? hfuse).1
    exact h.imp_head fun hapart hk => hapart ⟨hm, hk.2⟩
  · rcases before with _ | ⟨m, rest⟩
    · exact .singleton n
    · have hapart := (fuse?_eq_none_iff m n).mp (halone m rfl)
      exact .cons_cons (fun hboth => hapart hboth.symm) h

/-- Joining neighbours tidies a list without fragments. -/
theorem tidy_joinAll {ns : List Node} (h : ∀ n ∈ ns, n.isFragment = false) :
    Tidy (joinAll ns) := by
  have hjoined : Filled (ns.foldl join []) ∧ (ns.foldl join []).IsChain Apart :=
    List.foldlRecOn (motive := fun before => Filled before ∧ before.IsChain Apart) ns join
      ⟨fun _ hmem => absurd hmem List.not_mem_nil, .nil⟩
      fun _ hbefore n _ => ⟨filled_join hbefore.1 n, apart_join hbefore.2 n⟩
  refine ⟨forall_mem_joinAll ?_ h, ?_, ?_⟩
  · exact fun _ _ hfuse => isFragment_of_isTextLike (isTextLike_of_fuse? hfuse).2.2
  · intro n hn
    rw [joinAll, List.mem_reverse] at hn
    exact hjoined.1 n hn
  · -- The nodes are joined last first, and being neighbours goes both ways.
    rw [joinAll, List.isChain_reverse]
    exact hjoined.2.imp fun _ _ hmn hnm => hmn hnm.symm

/-! ## Normalising -/

/-- What a tree in normal form counts for among the children of another one. -/
theorem forall_mem_splice {n : Node} (h : n.Normal) :
    ∀ m ∈ n.splice, m.isFragment = false ∧ m.Normal := by
  cases n with
  | fragment cs => exact fun m hm => ⟨h.1.whole m hm, (normalEach_iff cs).mp h.2 m hm⟩
  | element | text | markup =>
      intro m hm
      rw [List.mem_singleton.mp hm]
      exact ⟨rfl, h⟩

mutual

/-- The normal form of a tree is in normal form. -/
theorem normal_normalize : ∀ n : Node, n.normalize.Normal
  | element _ _ cs => normal_joinAll_normalizeEach cs
  | text _ => trivial
  | markup _ => trivial
  | fragment cs => normal_joinAll_normalizeEach cs

/-- The normal forms of some trees are tidy and in normal form when they are
    joined. -/
theorem normal_joinAll_normalizeEach (ns : List Node) :
    Tidy (joinAll (normalizeEach ns)) ∧ NormalEach (joinAll (normalizeEach ns)) := by
  have heach := forall_mem_normalizeEach ns
  refine ⟨tidy_joinAll fun n hn => (heach n hn).1, (normalEach_iff _).mpr ?_⟩
  refine forall_mem_joinAll ?_ fun n hn => (heach n hn).2
  exact fun _ _ hfuse => normal_of_isTextLike (isTextLike_of_fuse? hfuse).2.2

/-- Fragments are gone, and what is left of each tree is in normal form. -/
theorem forall_mem_normalizeEach :
    ∀ ns : List Node, ∀ n ∈ normalizeEach ns, n.isFragment = false ∧ n.Normal
  | [], n, hn => absurd hn List.not_mem_nil
  | n :: ns, m, hm => by
    rw [normalizeEach, List.mem_append] at hm
    rcases hm with hm | hm
    · exact forall_mem_splice (normal_normalize n) m hm
    · exact forall_mem_normalizeEach ns m hm

end

/-- The normal form of a tree is in normal form and is written like the tree. What
    is fused, escaped, dropped or taken apart on the way does not show. -/
theorem toHtml_normalize (n : Node) : n.normalize.Normal ∧ n.normalize.toHtml = n.toHtml := by
  refine ⟨normal_normalize n, ?_⟩
  rw [← toHtmlAll_splice, toHtmlAll_splice_normalize]

/-! ## What normalising leaves alone -/

/-- Nodes in normal form are put behind others as they are, unless the last of
    the others and the first of them are both texts. -/
theorem foldl_join_of_apart {ns before : List Node} (hfilled : Filled ns)
    (hapart : ns.IsChain Apart) (hmeet : ∀ m ∈ before.head?, ∀ n ∈ ns.head?, Apart m n) :
    ns.foldl join before = ns.reverse ++ before := by
  induction ns generalizing before with
  | nil => rfl
  | cons n ns ih =>
      rw [Filled, List.forall_mem_cons] at hfilled
      rw [List.isChain_cons] at hapart
      have hjoin : join before n = n :: before :=
        join_of_alone hfilled.1 fun m hm => (fuse?_eq_none_iff m n).mpr (hmeet m hm n rfl)
      -- The node is the last of the others for those behind it.
      have hnext : ∀ m ∈ (n :: before).head?, ∀ k ∈ ns.head?, Apart m k := by
        intro m hm
        rw [List.head?_cons, Option.mem_some] at hm
        rw [← hm]
        exact hapart.1
      rw [List.foldl_cons, hjoin, ih hfilled.2 hapart.2 hnext, List.reverse_cons,
        List.append_assoc, List.singleton_append]

theorem Tidy.joinAll_eq {cs : List Node} (h : Tidy cs) : joinAll cs = cs := by
  have hnone : ∀ m ∈ ([] : List Node).head?, ∀ n ∈ cs.head?, Apart m n := fun _ hm => nomatch hm
  rw [joinAll, foldl_join_of_apart h.filled h.apart hnone, List.append_nil, List.reverse_reverse]

theorem splice_of_whole {n : Node} (h : n.isFragment = false) : n.splice = [n] := by
  cases n with
  | fragment => cases h
  | element | text | markup => rfl

mutual

/-- A tree in normal form is its own normal form. -/
theorem normalize_of_normal : ∀ n : Node, n.Normal → n.normalize = n
  | element _ _ cs, h => by
    rw [normalize, normalizeEach_of_normal cs h.1.whole h.2, h.1.joinAll_eq]
  | text _, _ => rfl
  | markup _, _ => rfl
  | fragment cs, h => by
    rw [normalize, normalizeEach_of_normal cs h.1.whole h.2, h.1.joinAll_eq]

/-- So are some trees that are not fragments. -/
theorem normalizeEach_of_normal : ∀ ns : List Node, (∀ n ∈ ns, n.isFragment = false) →
    NormalEach ns → normalizeEach ns = ns
  | [], _, _ => rfl
  | n :: ns, hwhole, h => by
    rw [List.forall_mem_cons] at hwhole
    rw [normalizeEach, normalize_of_normal n h.1, splice_of_whole hwhole.1,
      normalizeEach_of_normal ns hwhole.2 h.2, List.singleton_append]

end

/-- Every normal form is in normal form, and the trees in normal form are those
    that normalising leaves alone. So normalising twice is normalising once. -/
theorem normalize_eq_self_iff (n : Node) :
    n.normalize.Normal ∧ (n.normalize = n ↔ n.Normal) ∧ n.normalize.normalize = n.normalize := by
  refine ⟨normal_normalize n, ⟨fun h => ?_, normalize_of_normal n⟩, ?_⟩
  · rw [← h]
    exact normal_normalize n
  · exact normalize_of_normal _ (normal_normalize n)

end Node

end Highlighter
