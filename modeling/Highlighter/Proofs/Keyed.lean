import Mathlib.Data.List.Nodup

/-!
# Keys in a list

Lists that keep values under keys, and lists that no member joins twice.

The entries of a context, the rules of a transformer and the attributes of an element
are lists of keyed values, and a value is written to each of them in the same way: in
place of the one under its key, or behind all others. `putIn` is that way of writing,
and two things are to be known of it. What is found under a key afterwards is the new
value or the old one, and a key joins the list of the keys only if it is new.

The second one is a thing of its own, since it has nothing to do with values. A list
that members join by `addNew` is a set that remembers the order of the first joining.
Joining one after the other leaves the members in front as they are, and behind them
come the others without repetition.

## Main definitions

* `putIn`: A value written under a key.
* `addNew`: A list with a further member, unless it is one already.

## Theorems

* `lookup_putIn`: What is found under a key after writing.
* `map_fst_putIn`: Writing lets a new key join the keys.
* `filter_putIn`: Writing leaves the entries of all other keys alone.
* `lookup_filter_ne`: What is found without the entry of a key.
* `mem_map_fst_iff`: The keys are where something is found.
* `nodup_addNew`, `nodup_foldl_addNew`: Joining brings no repetition.
* `foldl_addNew`: What joins a list and in which order.
-/

namespace Highlighter

/-! ## Joining once -/

section AddNew

variable {α : Type} [DecidableEq α]

/-- A list with a further member at its end, unless it is a member already. -/
def addNew (members : List α) (a : α) : List α := if a ∈ members then members else members ++ [a]

theorem nodup_addNew {members : List α} (h : members.Nodup) (a : α) : (addNew members a).Nodup := by
  unfold addNew
  by_cases ha : a ∈ members
  · rw [if_pos ha]
    exact h
  · rw [if_neg ha]
    exact List.nodup_append_comm.mp (List.nodup_cons.mpr ⟨ha, h⟩)

theorem nodup_foldl_addNew {members : List α} (h : members.Nodup) (joining : List α) :
    (joining.foldl addNew members).Nodup := by
  induction joining generalizing members with
  | nil => exact h
  | cons a joining ih => exact ih (nodup_addNew h a)

/-- Leaving out one more member leaves it out of what was left. -/
theorem removeAll_concat (joining members : List α) (a : α) :
    joining.removeAll (members ++ [a]) = (joining.removeAll members).filter fun b => !b == a := by
  rw [List.removeAll, List.removeAll, List.filter_filter]
  refine List.filter_congr fun b _ => ?_
  simp only [List.elem_eq_contains, List.contains_append, List.contains_cons, List.contains_nil,
    Bool.or_false, Bool.not_or, Bool.and_comm]

/-- Of some that join a list one after the other, those that are no members come
    behind it, each of them once and where it was first. -/
theorem foldl_addNew (members joining : List α) :
    joining.foldl addNew members = members ++ (joining.removeAll members).eraseDups := by
  -- Who has joined is a member for all that come later.
  induction joining generalizing members with
  | nil => rw [List.foldl_nil, List.nil_removeAll, List.eraseDups_nil, List.append_nil]
  | cons a joining ih =>
      rw [List.foldl_cons, ih, List.cons_removeAll, addNew]
      by_cases ha : a ∈ members
      · have hmem : ¬members.contains a = false := by
          rw [Bool.not_eq_false, List.contains_iff_mem]
          exact ha
        rw [if_pos ha, if_neg hmem]
      · have hmem : members.contains a = false := by
          rw [← Bool.not_eq_true, List.contains_iff_mem]
          exact ha
        rw [if_neg ha, if_pos hmem, List.eraseDups_cons, removeAll_concat, List.append_assoc,
          List.singleton_append]

end AddNew

/-! ## Values under keys -/

section Keyed

variable {β : Type}

/-- Writes a value under a key: in place of the one there, or behind all others. -/
def putIn (key : String) (value : β) : List (String × β) → List (String × β)
  | [] => [(key, value)]
  | (k, v) :: rest => if k = key then (key, value) :: rest else (k, v) :: putIn key value rest

theorem lookup_putIn (key k : String) (value : β) (entries : List (String × β)) :
    (putIn key value entries).lookup k = if k = key then some value else entries.lookup k := by
  induction entries with
  | nil =>
      by_cases hk : k = key
      · rw [if_pos hk, hk, putIn, List.lookup_cons_self]
      · rw [if_neg hk, putIn, List.lookup_cons, beq_false_of_ne hk]
  | cons entry rest ih =>
      rcases entry with ⟨l, v⟩
      rw [putIn]
      by_cases hl : l = key
      · -- The entry is replaced, and only lookups of its own key see that.
        rw [if_pos hl, hl, List.lookup_cons, List.lookup_cons]
        by_cases hk : k = key
        · rw [if_pos hk, hk, beq_self_eq_true]
        · rw [if_neg hk, beq_false_of_ne hk]
      · rw [if_neg hl, List.lookup_cons, List.lookup_cons, ih]
        by_cases hk : k = l
        · simp only [hk, beq_self_eq_true, if_neg hl]
        · rw [beq_false_of_ne hk]

/-- A new key goes behind all others with its value. -/
theorem putIn_of_not_mem (key : String) (value : β) (entries : List (String × β))
    (hnew : key ∉ entries.map (·.1)) : putIn key value entries = entries ++ [(key, value)] := by
  induction entries with
  | nil => rfl
  | cons entry rest ih =>
      rcases entry with ⟨k, v⟩
      rw [List.map_cons, List.mem_cons, not_or] at hnew
      have hne : ¬k = key := fun h => hnew.1 h.symm
      rw [putIn, if_neg hne, ih hnew.2, List.cons_append]

/-- Without the entry of a key, nothing else is missing. -/
theorem lookup_filter_ne (key k : String) (entries : List (String × β)) :
    (entries.filter (·.1 != key)).lookup k = if k = key then none else entries.lookup k := by
  induction entries with
  | nil => rw [List.filter_nil, List.lookup_nil, ite_self]
  | cons entry rest ih =>
      rcases entry with ⟨l, v⟩
      rw [List.filter_cons, List.lookup_cons]
      by_cases hl : l = key
      · have hleft : ¬(l != key) = true := fun h => bne_iff_ne.mp h hl
        rw [if_neg hleft, ih, hl]
        by_cases hk : k = key
        · rw [if_pos hk, if_pos hk]
        · rw [if_neg hk, if_neg hk, beq_false_of_ne hk]
      · rw [if_pos (bne_iff_ne.mpr hl), List.lookup_cons, ih]
        by_cases hk : k = l
        · rw [hk, beq_self_eq_true]
          exact (if_neg hl).symm
        · rw [beq_false_of_ne hk]

/-- The entries of all other keys stay as they are, in their order. -/
theorem filter_putIn (key : String) (value : β) (entries : List (String × β)) :
    (putIn key value entries).filter (·.1 != key) = entries.filter (·.1 != key) := by
  have hwritten : ¬((key, value).1 != key) = true := fun h => bne_iff_ne.mp h rfl
  induction entries with
  | nil => rw [putIn, List.filter_cons, if_neg hwritten]
  | cons entry rest ih =>
      rcases entry with ⟨k, v⟩
      rw [putIn]
      by_cases hk : k = key
      · have hleft : ¬((k, v).1 != key) = true := fun h => bne_iff_ne.mp h hk
        rw [if_pos hk, List.filter_cons, if_neg hwritten, List.filter_cons, if_neg hleft]
      · rw [if_neg hk, List.filter_cons, List.filter_cons, ih]

theorem mem_map_fst_iff (key : String) (entries : List (String × β)) :
    key ∈ entries.map (·.1) ↔ (entries.lookup key).isSome = true := by
  rw [List.mem_map, List.lookup_isSome_iff]
  exact exists_congr fun entry => and_congr_right fun _ => eq_comm.trans beq_iff_eq.symm

/-- Writing lets a new key join the keys. -/
theorem map_fst_putIn (key : String) (value : β) (entries : List (String × β)) :
    (putIn key value entries).map (·.1) = addNew (entries.map (·.1)) key := by
  unfold addNew
  by_cases hkey : key ∈ entries.map (·.1)
  · -- The value is written where the key stands first.
    rw [if_pos hkey]
    induction entries with
    | nil => exact absurd hkey List.not_mem_nil
    | cons entry rest ih =>
        rcases entry with ⟨k, v⟩
        rw [putIn]
        by_cases hk : k = key
        · rw [if_pos hk, List.map_cons, List.map_cons, hk]
        · have hrest : key ∈ rest.map (·.1) :=
            (List.mem_cons.mp hkey).resolve_left fun h => hk h.symm
          rw [if_neg hk, List.map_cons, List.map_cons, ih hrest]
  · rw [if_neg hkey, putIn_of_not_mem key value entries hkey, List.map_append, List.map_singleton]

end Keyed

end Highlighter
