import Highlighter.Proofs.Text.Escaping
import Highlighter.Tree.Node

/-!
# Joining neighbours

When the order in which neighbouring texts are joined does not matter.

Nodes are put behind others one by one, and a text becomes part of the text
before it. So a list of nodes is joined from the left, but what comes in may
have been joined before. A fragment below another node brings its own members
in normal form, and a sink takes fragments apart before anything is joined.
For the result to be the same, joining has to be associative, which is
`fuse?_assoc`. The only care is with empty texts. They are dropped before they
meet a neighbour, for empty markup before a text would make markup of it.

`fuse?` is the one place that knows what two neighbours become, and `join_cases`
says what joining does in terms of it. What follows needs no more than these two.
In particular, what is read of nodes one after the other does not change when they
are joined if it does not change when two of them are fused. `Seamless` is this
condition, and the written form and the text of nodes both come under it.

## Main definitions

* `Node.isEmptyText`: an empty text, or empty markup.
* `Node.fuse?`: what two neighbours become.
* `Node.Seamless`: a reading of nodes that does not show whether they are fused.
* `Node.Filled`: nodes among which nothing is empty.
* `Node.Alike`: nodes that are joined to others alike.

## Theorems

* `Node.fuse?_cases`: Which neighbours are fused, and to what.
* `Node.fuse?_assoc`: Fusing is associative.
* `Node.join_cases`: What joining a node to others does.
* `Node.join_join`: Two neighbours may be fused before they are joined.
* `Node.forall_mem_joinAll`: What is passed on when nodes are fused is passed on when
  they are joined.
* `Node.Seamless.joinAll`: Joining does not show in a seamless reading.
* `Node.foldl_join_joinAll`: Nodes may be joined among themselves first.
* `Node.alike_splice`: A node is joined to others like its members.
* `Node.joinAll_normalizeEach_splice`: Fragments may be taken apart first.
-/

namespace Highlighter

theorem Text.join_singleton (s : String) : String.join [s] = s := by
  rw [String.join_cons, String.join_nil, String.append_empty]

namespace Node

/-! ## Two neighbours -/

/-- Whether a node is an empty text, or empty markup. -/
def isEmptyText : Node → Bool
  | text s => s.isEmpty
  | markup s => s.isEmpty
  | _ => false

/-- What two neighbours become if they are texts. -/
def fuse? : Node → Node → Option Node
  | text s, text t => some (text (s ++ t))
  | text s, markup t => some (markup (Text.escape s ++ t))
  | markup s, text t => some (markup (s ++ Text.escape t))
  | markup s, markup t => some (markup (s ++ t))
  | _, _ => none

theorem isSome_fuse? (l m : Node) : (fuse? l m).isSome = (l.isTextLike && m.isTextLike) := by
  cases l <;> cases m <;> rfl

/-- Two neighbours that are fused are texts or markup. A text is escaped if the
    other one is markup. -/
theorem fuse?_cases {m n k : Node} (h : fuse? m n = some k) :
    (∃ s t, m = text s ∧ n = text t ∧ k = text (s ++ t)) ∨
    (∃ s t, m = text s ∧ n = markup t ∧ k = markup (Text.escape s ++ t)) ∨
    (∃ s t, m = markup s ∧ n = text t ∧ k = markup (s ++ Text.escape t)) ∨
    (∃ s t, m = markup s ∧ n = markup t ∧ k = markup (s ++ t)) := by
  cases m <;> cases n <;> simp only [fuse?, Option.some.injEq, reduceCtorEq] at h
  case text.text s t => exact .inl ⟨s, t, rfl, rfl, h.symm⟩
  case text.markup s t => exact .inr (.inl ⟨s, t, rfl, rfl, h.symm⟩)
  case markup.text s t => exact .inr (.inr (.inl ⟨s, t, rfl, rfl, h.symm⟩))
  case markup.markup s t => exact .inr (.inr (.inr ⟨s, t, rfl, rfl, h.symm⟩))

theorem isTextLike_of_fuse? {m n k : Node} (h : fuse? m n = some k) :
    m.isTextLike = true ∧ n.isTextLike = true ∧ k.isTextLike = true := by
  rcases fuse?_cases h with ⟨_, _, rfl, rfl, rfl⟩ | ⟨_, _, rfl, rfl, rfl⟩ |
    ⟨_, _, rfl, rfl, rfl⟩ | ⟨_, _, rfl, rfl, rfl⟩ <;> exact ⟨rfl, rfl, rfl⟩

theorem fuse?_assoc {m n k : Node} (h : fuse? m n = some k) (l : Node) :
    fuse? l k = (fuse? l m).bind fun lm => fuse? lm n := by
  -- What is escaped at first as part of a longer text is escaped piece by piece otherwise.
  rcases fuse?_cases h with ⟨s, t, rfl, rfl, rfl⟩ | ⟨s, t, rfl, rfl, rfl⟩ |
    ⟨s, t, rfl, rfl, rfl⟩ | ⟨s, t, rfl, rfl, rfl⟩ <;> cases l <;>
    simp only [fuse?, Option.bind_some, Option.bind_none, Text.escape_append, String.append_assoc]

/-- Two neighbours that are not empty do not become empty. -/
theorem isEmptyText_of_fuse?_eq_some {m n k : Node} (h : fuse? m n = some k)
    (hm : m.isEmptyText = false) (hn : n.isEmptyText = false) : k.isEmptyText = false := by
  have happend : ∀ s t : String, (s ++ t).isEmpty = (s.isEmpty && t.isEmpty) := by
    intro s t
    rw [Bool.eq_iff_iff, Bool.and_eq_true]
    simp only [String.isEmpty_iff, String.append_eq_empty_iff]
  rcases fuse?_cases h with ⟨s, t, rfl, rfl, rfl⟩ | ⟨s, t, rfl, rfl, rfl⟩ |
    ⟨s, t, rfl, rfl, rfl⟩ | ⟨s, t, rfl, rfl, rfl⟩ <;>
    simp only [isEmptyText] at hm hn ⊢ <;>
    simp only [happend, hm, hn, Bool.false_and, Bool.and_false]

/-! ## A node behind others -/

theorem join_of_isEmptyText {n : Node} (hempty : n.isEmptyText = true) (before : List Node) :
    join before n = before := by
  cases n with
  | element | fragment => cases hempty
  | text t | markup t => exact if_pos hempty

theorem join_of_fuse? {m n k : Node} (hfull : n.isEmptyText = false) (hfuse : fuse? m n = some k)
    (rest : List Node) : join (m :: rest) n = k :: rest := by
  cases n with
  | element | fragment => cases m <;> simp only [fuse?, reduceCtorEq] at hfuse
  | text t | markup t =>
      rw [isEmptyText] at hfull
      cases m <;> simp only [fuse?, Option.some.injEq, reduceCtorEq] at hfuse <;>
        simp only [join, hfull, Bool.false_eq_true, if_false, hfuse]

theorem join_of_alone {before : List Node} {n : Node} (hfull : n.isEmptyText = false)
    (halone : ∀ m ∈ before.head?, fuse? m n = none) : join before n = n :: before := by
  cases n with
  | element | fragment => rfl
  | text t | markup t =>
      rw [isEmptyText] at hfull
      rcases before with _ | ⟨m, rest⟩
      · simp only [join, hfull, Bool.false_eq_true, if_false]
      · have hnone := halone m rfl
        cases m <;> simp only [fuse?, reduceCtorEq] at hnone <;>
          simp only [join, hfull, Bool.false_eq_true, if_false]

/-- Joining a node to others, which are given last first, drops it if it is
    empty, fuses it with the last of them, or puts it behind them. -/
theorem join_cases (before : List Node) (n : Node) :
    (n.isEmptyText = true ∧ join before n = before) ∨
    (∃ m rest k, before = m :: rest ∧ n.isEmptyText = false ∧ fuse? m n = some k ∧
      join before n = k :: rest) ∨
    (n.isEmptyText = false ∧ (∀ m ∈ before.head?, fuse? m n = none) ∧
      join before n = n :: before) := by
  rcases hempty : n.isEmptyText with _ | _
  · refine .inr ?_
    by_cases halone : ∀ m ∈ before.head?, fuse? m n = none
    · exact .inr ⟨rfl, halone, join_of_alone hempty halone⟩
    · rcases before with _ | ⟨m, rest⟩
      · exact absurd (fun m hm => nomatch hm) halone
      · rcases hfuse : fuse? m n with _ | k
        · refine absurd (fun l hl => ?_) halone
          rw [List.head?_cons, Option.mem_some] at hl
          rw [← hl, hfuse]
        · exact .inl ⟨m, rest, k, rfl, rfl, hfuse, join_of_fuse? hempty hfuse rest⟩
  · exact .inl ⟨rfl, join_of_isEmptyText hempty before⟩

/-- Two neighbours may be fused before they are joined to others. -/
theorem join_join {m n k : Node} (hfuse : fuse? m n = some k) (hm : m.isEmptyText = false)
    (hn : n.isEmptyText = false) (before : List Node) :
    join (join before m) n = join before k := by
  have hk := isEmptyText_of_fuse?_eq_some hfuse hm hn
  rcases join_cases before m with ⟨hempty, _⟩ | ⟨l, rest, lm, hbefore, _, hlm, hjoin⟩ |
    ⟨_, halone, hjoin⟩
  · rw [hm] at hempty
    cases hempty
  · -- The last of the others takes both, in either order.
    have hlk : fuse? l k = fuse? lm n := by rw [fuse?_assoc hfuse, hlm, Option.bind_some]
    have htexts : (fuse? lm n).isSome = true := by
      rw [isSome_fuse?, Bool.and_eq_true]
      exact ⟨(isTextLike_of_fuse? hlm).2.2, (isTextLike_of_fuse? hfuse).2.1⟩
    rcases Option.isSome_iff_exists.mp htexts with ⟨lmn, hlmn⟩
    rw [hjoin, join_of_fuse? hn hlmn, hbefore, join_of_fuse? hk (hlk.trans hlmn)]
  · rw [hjoin, join_of_fuse? hn hfuse]
    refine (join_of_alone hk fun l hl => ?_).symm
    rw [fuse?_assoc hfuse, halone l hl, Option.bind_none]

/-- What neighbours pass on to the node that they become, and some nodes have,
    these still have when another one is joined to them that has it too. -/
theorem forall_mem_join {P : Node → Prop}
    (hclosed : ∀ {m n k}, P m → P n → fuse? m n = some k → P k) {before : List Node} {n : Node}
    (hbefore : ∀ m ∈ before, P m) (hn : P n) : ∀ m ∈ join before n, P m := by
  rcases join_cases before n with ⟨_, hjoin⟩ | ⟨m, rest, k, hsplit, _, hfuse, hjoin⟩ |
    ⟨_, _, hjoin⟩ <;> rw [hjoin]
  · exact hbefore
  · rw [hsplit, List.forall_mem_cons] at hbefore
    exact List.forall_mem_cons.mpr ⟨hclosed hbefore.1 hn hfuse, hbefore.2⟩
  · exact List.forall_mem_cons.mpr ⟨hn, hbefore⟩

theorem forall_mem_joinAll {P : Node → Prop}
    (hclosed : ∀ {m n k}, P m → P n → fuse? m n = some k → P k) {ns : List Node}
    (h : ∀ n ∈ ns, P n) : ∀ n ∈ joinAll ns, P n := by
  have hall : ∀ m ∈ ns.foldl join [], P m :=
    List.foldlRecOn (motive := fun before => ∀ m ∈ before, P m) ns join
      (fun _ hmem => absurd hmem List.not_mem_nil)
      fun _ hbefore n hn => forall_mem_join hclosed hbefore (h n hn)
  exact fun n hn => hall n (List.mem_reverse.mp hn)

/-! ## Reading -/

/-- A reading of nodes with some property that does not show whether neighbours
    are fused. -/
structure Seamless (P : Node → Prop) (read : Node → String) : Prop where
  /-- Nothing is read of an empty text or empty markup. -/
  empty : ∀ n, n.isEmptyText = true → read n = ""
  /-- What two neighbours become has the property. -/
  closed : ∀ {m n k}, P m → P n → fuse? m n = some k → P k
  /-- What is read of it is what is read of the two, one after the other. -/
  fused : ∀ {m n k}, P m → P n → fuse? m n = some k → read k = read m ++ read n

namespace Seamless

variable {P : Node → Prop} {read : Node → String}

/-- Joining a node to others, which are given last first, is reading it behind
    them. -/
theorem join (h : Seamless P read) {before : List Node} {n : Node}
    (hbefore : ∀ m ∈ before, P m) (hn : P n) :
    String.join ((join before n).reverse.map read)
      = String.join (before.reverse.map read) ++ read n := by
  have hpush : ∀ (m : Node) (rest : List Node), String.join ((m :: rest).reverse.map read)
      = String.join (rest.reverse.map read) ++ read m := by
    intro m rest
    rw [List.reverse_cons, List.map_append, String.join_append, List.map_singleton,
      Text.join_singleton]
  rcases join_cases before n with ⟨hempty, hjoin⟩ | ⟨m, rest, k, hsplit, _, hfuse, hjoin⟩ |
    ⟨_, _, hjoin⟩ <;> rw [hjoin]
  · rw [h.empty n hempty, String.append_empty]
  · rw [hsplit, List.forall_mem_cons] at hbefore
    rw [hsplit, hpush, hpush, h.fused hbefore.1 hn hfuse, String.append_assoc]
  · exact hpush n before

/-- Joining neighbours does not change what is read. -/
theorem joinAll (h : Seamless P read) {ns : List Node} (hns : ∀ n ∈ ns, P n) :
    String.join ((joinAll ns).map read) = String.join (ns.map read) := by
  -- What was joined before is read in front, and the property lasts through the fold.
  have hfold : ∀ before, (∀ m ∈ before, P m) →
      String.join ((ns.foldl Node.join before).reverse.map read)
        = String.join (before.reverse.map read) ++ String.join (ns.map read) := by
    induction ns with
    | nil => exact fun _ _ => String.append_empty.symm
    | cons n ns ih =>
        intro before hbefore
        rw [List.forall_mem_cons] at hns
        rw [List.foldl_cons, ih hns.2 _ (forall_mem_join h.closed hbefore hns.1),
          h.join hbefore hns.1, List.map_cons, String.join_cons, String.append_assoc]
  have hall := hfold [] fun _ hmem => absurd hmem List.not_mem_nil
  exact hall.trans String.empty_append

end Seamless

/-! ## Lists of nodes -/

/-- Nodes among which there is no empty text and no empty markup. -/
def Filled (ns : List Node) : Prop := ∀ n ∈ ns, n.isEmptyText = false

theorem filled_join {before : List Node} (h : Filled before) (n : Node) :
    Filled (join before n) := by
  rcases join_cases before n with ⟨_, hjoin⟩ | ⟨m, rest, k, hbefore, hn, hfuse, hjoin⟩ |
    ⟨hn, _, hjoin⟩ <;> rw [hjoin]
  · exact h
  · rw [Filled, hbefore, List.forall_mem_cons] at h
    exact List.forall_mem_cons.mpr ⟨isEmptyText_of_fuse?_eq_some hfuse h.1 hn, h.2⟩
  · exact List.forall_mem_cons.mpr ⟨hn, h⟩

/-- A node may be joined to some nodes before these are joined to others. -/
theorem foldl_join_reverse_join {ns : List Node} (h : Filled ns) (n : Node)
    (before : List Node) :
    (join ns n).reverse.foldl join before = join (ns.reverse.foldl join before) n := by
  -- Only a node that is fused is met by the others in another shape than it had.
  rcases join_cases ns n with ⟨hempty, hjoin⟩ | ⟨m, rest, k, hns, hn, hfuse, hjoin⟩ |
    ⟨_, _, hjoin⟩ <;> rw [hjoin]
  · rw [join_of_isEmptyText hempty]
  · rw [Filled, hns, List.forall_mem_cons] at h
    rw [hns, List.reverse_cons, List.reverse_cons, List.foldl_append, List.foldl_append,
      List.foldl_cons, List.foldl_cons, List.foldl_nil, List.foldl_nil,
      join_join hfuse h.1 hn]
  · rw [List.reverse_cons, List.foldl_append, List.foldl_cons, List.foldl_nil]

/-- Nodes may be joined among themselves before they are joined to others. -/
theorem foldl_join_joinAll (ns before : List Node) :
    (joinAll ns).foldl join before = ns.foldl join before := by
  -- Some nodes are joined among themselves already, and the rest is joined to both.
  have hfold : ∀ among, Filled among →
      (ns.foldl join among).reverse.foldl join before
        = ns.foldl join (among.reverse.foldl join before) := by
    induction ns with
    | nil => exact fun _ _ => rfl
    | cons n ns ih =>
        intro among hfilled
        rw [List.foldl_cons, ih _ (filled_join hfilled n), foldl_join_reverse_join hfilled,
          List.foldl_cons]
  exact hfold [] fun _ hmem => absurd hmem List.not_mem_nil

/-! ## Fragments -/

theorem normalizeEach_append (ns ms : List Node) :
    normalizeEach (ns ++ ms) = normalizeEach ns ++ normalizeEach ms := by
  induction ns with
  | nil => rfl
  | cons n ns ih =>
      rw [List.cons_append, normalizeEach, ih, normalizeEach, List.append_assoc]

/-- Nodes that are joined to any others alike, once each is in normal form. -/
def Alike (ns ms : List Node) : Prop :=
  ∀ before, (normalizeEach ns).foldl join before = (normalizeEach ms).foldl join before

theorem Alike.refl (ns : List Node) : Alike ns ns := fun _ => rfl

theorem Alike.append {ns ms ns' ms' : List Node} (h : Alike ns ms) (h' : Alike ns' ms') :
    Alike (ns ++ ns') (ms ++ ms') := by
  intro before
  rw [normalizeEach_append, normalizeEach_append, List.foldl_append, List.foldl_append, h, h']

/-- Nodes that are joined to others alike are joined alike to none. -/
theorem Alike.joinAll_eq {ns ms : List Node} (h : Alike ns ms) :
    joinAll (normalizeEach ns) = joinAll (normalizeEach ms) :=
  congrArg List.reverse (h [])

/-- The members of a node are joined to others like the node itself. -/
theorem alike_splice (n : Node) : Alike n.splice [n] := by
  intro before
  have hsingle : normalizeEach [n] = n.normalize.splice := List.append_nil _
  rw [hsingle]
  cases n with
  | fragment cs => exact (foldl_join_joinAll (normalizeEach cs) before).symm
  | element | text | markup => exact congrArg (List.foldl join before) (List.append_nil _)

/-- Fragments may be taken apart before their members are joined. -/
theorem joinAll_normalizeEach_splice (ns : List Node) :
    joinAll (normalizeEach (ns.flatMap splice)) = joinAll (normalizeEach ns) := by
  have halike : Alike (ns.flatMap splice) ns := by
    induction ns with
    | nil => exact .refl []
    | cons n ns ih => exact (alike_splice n).append ih
  exact halike.joinAll_eq

end Node

end Highlighter
