import Highlighter.Context
import Highlighter.Proofs.Keyed

/-!
# What a context holds

The operations on contexts in terms of what is stored under a key.

A context is a list of keys with their slots, but all that the typed operations see
of it is what `slot?` finds under each key. Storing a slot is writing to the list as
`putIn` does, and erasing a key filters the list, so what is found after either is
known from lists of keyed values. The typed operations are made of these two, and
nothing has to be known of the list to use them.

Getting or inserting in two steps looks up what the first step has made sure of. That
it finds it is `getOrInsert?_eq`, and so the form in one step can stand for it.

## Theorems

* `Slot.as?_eq_some_iff`: The value that a slot has.
* `slot?_setSlot_eq`, `slot?_erase`: What is stored under a key after storing a slot and
  after erasing a key.
* `map_fst_entries_setSlot`: The keys after storing a slot.
* `get?_setSlot`, `get?_getOrInsert`, `get?_update?`: The value under the key after
  storing, getting or inserting, and changing it.
* `getOrInsert?_eq`, `update?_eq`: Getting or inserting in two steps, and changing a
  value in place, in terms of looking up and storing.
-/

namespace Highlighter

/-- A slot has a value of its own type and of no other. -/
theorem Slot.as?_eq_some_iff {κ : Type} [DecidableEq κ] {El : κ → Type} (s : Slot El) (k : κ)
    (value : El k) :
    s.as? k = some value ↔ s = ⟨k, value⟩ := by
  rcases s with ⟨kind, v⟩
  unfold Slot.as?
  by_cases hk : kind = k
  · subst hk
    rw [dif_pos rfl, Option.some.injEq, Slot.mk.injEq, heq_eq_eq]
    exact (and_iff_right rfl).symm
  · rw [dif_neg hk]
    exact iff_of_false (by simp only [reduceCtorEq, not_false_eq_true])
      fun h => hk (congrArg Slot.kind h)

namespace Context

section Untyped

variable {κ : Type} {El : κ → Type}

theorem setEntry_eq_putIn (key : String) (s : Slot El) (entries : List (String × Slot El)) :
    setEntry key s entries = putIn key s entries := by
  induction entries with
  | nil => rfl
  | cons entry rest ih =>
      rcases entry with ⟨k, t⟩
      rw [setEntry, putIn, ih]
      exact if_congr (beq_iff_eq.trans eq_comm) rfl rfl

/-- Storing a slot changes what is stored under its key and nothing else. -/
theorem slot?_setSlot_eq (c : Context El) (key other : String) (s : Slot El) :
    (c.setSlot key s).slot? other = if other = key then some s else c.slot? other := by
  rw [slot?, setSlot, setEntry_eq_putIn, lookup_putIn]
  rfl

/-- What is stored under a key is found there. -/
theorem slot?_setSlot (c : Context El) (key : String) (s : Slot El) :
    (c.setSlot key s).slot? key = some s := by
  rw [slot?_setSlot_eq, if_pos rfl]

/-- Nothing changes under another key. -/
theorem slot?_setSlot_of_ne (c : Context El) {key other : String} (s : Slot El)
    (hne : other ≠ key) : (c.setSlot key s).slot? other = c.slot? other := by
  rw [slot?_setSlot_eq, if_neg hne]

/-- Erasing a key changes what is stored there and nothing else. -/
theorem slot?_erase (c : Context El) (key other : String) :
    (c.erase key).slot? other = if other = key then none else c.slot? other := by
  rw [slot?, erase, lookup_filter_ne]
  rfl

/-- The keys after storing a slot: a new key comes last. -/
theorem map_fst_entries_setSlot (c : Context El) (key : String) (s : Slot El) :
    (c.setSlot key s).entries.map (·.1) = addNew (c.entries.map (·.1)) key := by
  rw [setSlot, setEntry_eq_putIn, map_fst_putIn]

end Untyped

section Typed

variable {κ : Type} [DecidableEq κ] {El : κ → Type}

/-- Looking at the type of what is stored tells whether there is a value. -/
theorem any_kind_eq (c : Context El) (key : String) (k : κ) :
    ((c.slot? key).any (·.kind == k)) = (c.get? key k).isSome := by
  rw [get?]
  rcases c.slot? key with _ | ⟨kind, value⟩
  · rfl
  · rw [Option.any_some, Option.bind_some, Slot.as?]
    by_cases hk : kind = k
    · rw [dif_pos hk, Option.isSome_some, beq_iff_eq]
      exact hk
    · rw [dif_neg hk, Option.isSome_none, beq_false_of_ne hk]

theorem get?_setSlot (c : Context El) (key : String) (k : κ) (value : El k) :
    (c.setSlot key ⟨k, value⟩).get? key k = some value := by
  rw [get?, slot?_setSlot, Option.bind_some, Slot.as?, dif_pos rfl]

/-- After getting or inserting there is a value, the new one if there was none. -/
theorem get?_getOrInsert (c : Context El) (key : String) (k : κ) (init : El k) :
    (c.getOrInsert key k init).2.get? key k = some ((c.get? key k).getD init) := by
  unfold getOrInsert
  rcases hget : c.get? key k with _ | value
  · rw [Option.getD_none]
    exact c.get?_setSlot key k init
  · rw [Option.getD_some]
    exact hget

/-- The value that was made sure of is found. So getting or inserting in two steps
    never fails, and it comes to the same as in one. -/
theorem getOrInsert?_eq (c : Context El) (key : String) (k : κ) (init : El k) :
    c.getOrInsert? key k init = some (c.getOrInsert key k init) := by
  simp only [getOrInsert?, ensure, any_kind_eq, getOrInsert]
  rcases hget : c.get? key k with _ | value
  · rw [Option.isSome_none, if_neg Bool.false_ne_true, get?_setSlot, Option.map_some]
  · rw [Option.isSome_some, if_pos rfl, hget, Option.map_some]

/-- Changing a value in place tells the old value, and stores the new one if there
    was a value of the type. -/
theorem update?_eq (c : Context El) (key : String) (k : κ) (change : El k → El k) :
    c.update? key k change = (c.get? key k,
      ((c.get? key k).map fun value => c.setSlot key ⟨k, change value⟩).getD c) := by
  unfold update?
  rcases c.get? key k with _ | value <;> rfl

/-- Changing a value in place changes the value that is there. -/
theorem get?_update? (c : Context El) (key : String) (k : κ) (change : El k → El k) :
    (c.update? key k change).2.get? key k = (c.get? key k).map change := by
  unfold update?
  rcases hget : c.get? key k with _ | value
  · exact hget
  · exact c.get?_setSlot key k (change value)

end Typed

end Context

end Highlighter
