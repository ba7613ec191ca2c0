import Highlighter.Unicode.CharSet

/-!
# Unions of ranges

Which characters a union has.

A union is computed by one sweep over the ranges of both sets, in the order of their
first points, that joins a range with the next one where no gap is between them. Such
a join loses nothing and adds nothing, as long as the next range does not begin before
the first: then the joined range would begin too late. So the ranges have to be in
order, and the sweep leaves them in order again, which is what the next union needs.

## Main definitions

* `CharSet.InOrder`: ranges that begin one after the other.
* `CharSet.Covered`: a point in one of some ranges.

## Theorems

* `CharSet.mem_merge`, `CharSet.inOrder_merge`: Merging keeps ranges, in order.
* `CharSet.covered_joinFrom`, `CharSet.inOrder_joinFrom`: Joining covers the same
  points, in order.
* `CharSet.contains_union`, `CharSet.contains_unions`: A union has the members of its
  sets.
* `CharSet.contains_single`, `CharSet.eq_of_single?`, `CharSet.contains_of_isEmpty`: Sets
  of one member and of none.
-/

namespace Highlighter

namespace CharSet

/-- Ranges that begin one after the other. -/
def InOrder (rs : List (Nat × Nat)) : Prop := rs.Pairwise fun r q => r.1 ≤ q.1

/-- A point lies in one of some ranges. -/
def Covered (rs : List (Nat × Nat)) (n : Nat) : Prop := ∃ r ∈ rs, r.1 ≤ n ∧ n ≤ r.2

theorem contains_iff (s : CharSet) (c : Char) :
    s.contains c = true ↔ Covered s.ranges c.toNat := by
  simp only [contains, containsPoint, Covered, List.any_eq_true, Bool.and_eq_true,
    decide_eq_true_eq]

theorem covered_nil (n : Nat) : ¬Covered [] n := by
  rintro ⟨r, hr, _⟩
  exact List.not_mem_nil hr

theorem covered_cons (r : Nat × Nat) (rs : List (Nat × Nat)) (n : Nat) :
    Covered (r :: rs) n ↔ (r.1 ≤ n ∧ n ≤ r.2) ∨ Covered rs n := by
  simp only [Covered, List.mem_cons, exists_eq_or_imp]

/-! ## Merging -/

theorem mem_mergeOne {r x : Nat × Nat} {xs : List (Nat × Nat)}
    {next : List (Nat × Nat) → List (Nat × Nat)}
    (hnext : ∀ ys, r ∈ next ys ↔ r ∈ xs ∨ r ∈ ys) (ys : List (Nat × Nat)) :
    r ∈ mergeOne x next ys ↔ r ∈ x :: xs ∨ r ∈ ys := by
  induction ys with
  | nil => rw [mergeOne, List.mem_cons, hnext, List.mem_cons, or_assoc]
  | cons y ys ih =>
      rw [mergeOne]
      split
      · rw [List.mem_cons, ih, List.mem_cons (b := y), or_left_comm]
      · rw [List.mem_cons, hnext, List.mem_cons (b := x), or_assoc]

/-- Merging keeps all ranges. -/
theorem mem_merge {r : Nat × Nat} (xs ys : List (Nat × Nat)) :
    r ∈ merge xs ys ↔ r ∈ xs ∨ r ∈ ys := by
  induction xs generalizing ys with
  | nil => simp only [merge, List.not_mem_nil, false_or]
  | cons x xs ih => exact mem_mergeOne ih ys

theorem inOrder_mergeOne {x : Nat × Nat} {xs : List (Nat × Nat)}
    {next : List (Nat × Nat) → List (Nat × Nat)}
    (hmem : ∀ r ys, r ∈ next ys ↔ r ∈ xs ∨ r ∈ ys)
    (hnext : ∀ ys, InOrder ys → InOrder (next ys)) (hxs : InOrder (x :: xs))
    {ys : List (Nat × Nat)} (hys : InOrder ys) : InOrder (mergeOne x next ys) := by
  have hbehind := (List.pairwise_cons.mp hxs).1
  induction ys with
  | nil =>
      rw [mergeOne]
      refine List.pairwise_cons.mpr ⟨fun r hr => ?_, hnext [] hys⟩
      rw [hmem, or_iff_left List.not_mem_nil] at hr
      exact hbehind r hr
  | cons y ys ih =>
      rcases List.pairwise_cons.mp hys with ⟨hbehindy, hrest⟩
      rw [mergeOne]
      by_cases hlt : y.1 < x.1
      · rw [if_pos hlt]
        refine List.pairwise_cons.mpr ⟨fun r hr => ?_, ih hrest⟩
        rcases (mem_mergeOne (hmem r) ys).mp hr with hr | hr
        · rcases List.mem_cons.mp hr with rfl | hr
          · exact Nat.le_of_lt hlt
          · exact Nat.le_trans (Nat.le_of_lt hlt) (hbehind r hr)
        · exact hbehindy r hr
      · rw [if_neg hlt]
        refine List.pairwise_cons.mpr ⟨fun r hr => ?_, hnext _ hys⟩
        rcases (hmem r (y :: ys)).mp hr with hr | hr
        · exact hbehind r hr
        · rcases List.mem_cons.mp hr with rfl | hr
          · exact Nat.le_of_not_lt hlt
          · exact Nat.le_trans (Nat.le_of_not_lt hlt) (hbehindy r hr)

/-- Merging keeps ranges in order. -/
theorem inOrder_merge {xs ys : List (Nat × Nat)} (hxs : InOrder xs) (hys : InOrder ys) :
    InOrder (merge xs ys) := by
  induction xs generalizing ys with
  | nil => exact hys
  | cons x xs ih =>
      exact inOrder_mergeOne (fun r ys => mem_merge xs ys)
        (fun ys => ih (List.pairwise_cons.mp hxs).2) hxs hys

/-! ## Joining -/

/-- Ranges stay in order if the first of them only ends elsewhere and the second
    one is left out. -/
theorem InOrder.join {x y : Nat × Nat} {ys : List (Nat × Nat)} (h : InOrder (x :: y :: ys))
    (stop : Nat) : InOrder ((x.1, stop) :: ys) := by
  rcases List.pairwise_cons.mp h with ⟨hbehind, hrest⟩
  exact List.pairwise_cons.mpr
    ⟨fun r hr => hbehind r (List.mem_cons_of_mem y hr), (List.pairwise_cons.mp hrest).2⟩

/-- Joined ranges begin where the first one begins, or later. -/
theorem le_of_mem_joinFrom {x r : Nat × Nat} {ys : List (Nat × Nat)} (h : InOrder (x :: ys))
    (hr : r ∈ joinFrom x ys) : x.1 ≤ r.1 := by
  induction ys generalizing x with
  | nil =>
      rw [joinFrom, List.mem_singleton] at hr
      exact Nat.le_of_eq (congrArg Prod.fst hr.symm)
  | cons y ys ih =>
      rcases List.pairwise_cons.mp h with ⟨hbehind, hrest⟩
      rw [joinFrom] at hr
      by_cases hgap : y.1 ≤ x.2 + 1
      · rw [if_pos hgap] at hr
        exact ih (x := (x.1, Nat.max x.2 y.2)) (h.join _) hr
      · rw [if_neg hgap] at hr
        rcases List.mem_cons.mp hr with hr | hr
        · exact Nat.le_of_eq (congrArg Prod.fst hr.symm)
        · exact Nat.le_trans (hbehind y List.mem_cons_self) (ih hrest hr)

/-- Joining keeps ranges in order. -/
theorem inOrder_joinFrom {x : Nat × Nat} {ys : List (Nat × Nat)} (h : InOrder (x :: ys)) :
    InOrder (joinFrom x ys) := by
  induction ys generalizing x with
  | nil => exact h
  | cons y ys ih =>
      rcases List.pairwise_cons.mp h with ⟨hbehind, hrest⟩
      rw [joinFrom]
      by_cases hgap : y.1 ≤ x.2 + 1
      · rw [if_pos hgap]
        exact ih (h.join _)
      · rw [if_neg hgap]
        refine List.pairwise_cons.mpr ⟨fun r hr => ?_, ih hrest⟩
        exact Nat.le_trans (hbehind y List.mem_cons_self) (le_of_mem_joinFrom hrest hr)

/-- Joining covers the same points. -/
theorem covered_joinFrom {x : Nat × Nat} {ys : List (Nat × Nat)} (h : InOrder (x :: ys)) (n : Nat) :
    Covered (joinFrom x ys) n ↔ Covered (x :: ys) n := by
  induction ys generalizing x with
  | nil => rfl
  | cons y ys ih =>
      rcases List.pairwise_cons.mp h with ⟨hbehind, hrest⟩
      have hle : x.1 ≤ y.1 := hbehind y List.mem_cons_self
      rw [joinFrom]
      by_cases hgap : y.1 ≤ x.2 + 1
      · rw [if_pos hgap, ih (h.join _), covered_cons, covered_cons, covered_cons, ← or_assoc]
        -- Without a gap, a point of the joined range is in the one or in the other.
        have hjoined : x.1 ≤ n ∧ n ≤ Nat.max x.2 y.2
            ↔ (x.1 ≤ n ∧ n ≤ x.2) ∨ (y.1 ≤ n ∧ n ≤ y.2) := by
          have hmax : Nat.max x.2 y.2 = max x.2 y.2 := rfl
          omega
        rw [hjoined]
      · rw [if_neg hgap, covered_cons, ih hrest, covered_cons x]

theorem inOrder_join {rs : List (Nat × Nat)} (h : InOrder rs) : InOrder (join rs) := by
  cases rs with
  | nil => exact h
  | cons x xs => exact inOrder_joinFrom h

theorem covered_join {rs : List (Nat × Nat)} (h : InOrder rs) (n : Nat) :
    Covered (join rs) n ↔ Covered rs n := by
  cases rs with
  | nil => rfl
  | cons x xs => exact covered_joinFrom h n

/-! ## Unions -/

theorem inOrder_union {s t : CharSet} (hs : InOrder s.ranges) (ht : InOrder t.ranges) :
    InOrder (s.union t).ranges := by
  rw [union]
  split
  · exact hs
  · exact inOrder_join (inOrder_merge hs ht)

/-- A union has the members of both sets. -/
theorem contains_union {s t : CharSet} (hs : InOrder s.ranges) (ht : InOrder t.ranges) (c : Char) :
    (s.union t).contains c = (s.contains c || t.contains c) := by
  rw [Bool.eq_iff_iff, Bool.or_eq_true, contains_iff, contains_iff, contains_iff, union]
  split
  · next hsame =>
      -- Nothing is added then.
      rcases hsame with hnil | rfl
      · rw [hnil, or_iff_left (covered_nil _)]
      · rw [or_self]
  · rw [covered_join (inOrder_merge hs ht)]
    simp only [Covered, mem_merge, or_and_right, exists_or]

theorem inOrder_foldl_union {sets : List CharSet} (h : ∀ t ∈ sets, InOrder t.ranges) {s : CharSet}
    (hs : InOrder s.ranges) : InOrder (sets.foldl union s).ranges := by
  induction sets generalizing s with
  | nil => exact hs
  | cons t sets ih =>
      rw [List.forall_mem_cons] at h
      exact ih h.2 (inOrder_union hs h.1)

theorem contains_foldl_union {sets : List CharSet} (h : ∀ t ∈ sets, InOrder t.ranges) {s : CharSet}
    (hs : InOrder s.ranges) (c : Char) :
    (sets.foldl union s).contains c = (s.contains c || sets.any (·.contains c)) := by
  induction sets generalizing s with
  | nil => rw [List.foldl_nil, List.any_nil, Bool.or_false]
  | cons t sets ih =>
      rw [List.forall_mem_cons] at h
      rw [List.foldl_cons, ih h.2 (inOrder_union hs h.1), contains_union hs h.1, List.any_cons,
        Bool.or_assoc]

theorem inOrder_unions {sets : List CharSet} (h : ∀ t ∈ sets, InOrder t.ranges) :
    InOrder (unions sets).ranges :=
  inOrder_foldl_union h (s := empty) List.Pairwise.nil

/-- A union has the members of all its sets. -/
theorem contains_unions {sets : List CharSet} (h : ∀ t ∈ sets, InOrder t.ranges) (c : Char) :
    (unions sets).contains c = sets.any (·.contains c) := by
  have hnone : empty.contains c = false :=
    Bool.eq_false_iff.mpr fun hc => covered_nil _ ((contains_iff empty c).mp hc)
  rw [unions, contains_foldl_union (s := empty) h List.Pairwise.nil, hnone, Bool.false_or]

/-! ## Small sets -/

theorem ranges_single (c : Char) : (single c).ranges = [(c.toNat, c.toNat)] := by
  rw [single, charRange, range, if_pos (Nat.le_refl _)]

theorem inOrder_single (c : Char) : InOrder (single c).ranges := by
  rw [ranges_single]
  exact List.pairwise_singleton _ _

theorem contains_single (c d : Char) : (single c).contains d = (c == d) := by
  rw [Bool.eq_iff_iff, contains_iff, ranges_single, covered_cons, or_iff_left (covered_nil _),
    beq_iff_eq, ← Char.toNat_inj]
  omega

/-- The only member of a set is the one that it has. -/
theorem eq_of_single? {s : CharSet} {c d : Char} (h : s.single? = some c)
    (hd : s.contains d = true) : c = d := by
  rw [contains_iff] at hd
  unfold single? at h
  split at h
  · next lo hi hranges =>
      rw [hranges, covered_cons, or_iff_left (covered_nil _)] at hd
      split at h
      · next heq =>
          have hlo : lo = d.toNat := by omega
          rw [hlo, Char.ofNat_toNat, Option.some.injEq] at h
          exact h.symm
      · cases h
  · cases h

theorem contains_of_isEmpty {s : CharSet} (h : s.isEmpty = true) (c : Char) :
    s.contains c = false := by
  rw [isEmpty, List.isEmpty_iff] at h
  rw [Bool.eq_false_iff, ne_eq, contains_iff, h]
  exact covered_nil _

end CharSet

end Highlighter
