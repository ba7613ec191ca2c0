import Highlighter.Proofs.Context
import Mathlib.Data.Finmap
import Mathlib.Data.Finset.Sort
import Mathlib.Data.String.Basic

/-!
# Contexts are finite maps

A context as its users see it: a finite map from keys to values of various types.

Nothing that a context answers depends on the order of its entries. So the
operations can be told for finite maps, where there is no order, and a context can
be compared with the map of its entries. `ContextCall` lists the operations, with all
that a caller brings. Where an operation lends the value in place, the caller may
change it, and the change is part of the call.

The comparison has two parts. The map finds under each key what the context has
stored there, and no key stands twice in the list of entries. The first part is enough
for the typed operations, and the second is needed to count the keys and to list them.
Every call keeps both and gets the same answer from both sides. By induction, so does
every sequence of calls on a new context.

Getting or inserting reads a value that it has just made sure of, and it would fail if
there were none. The calls on contexts take the form with this failure. Maps have no
such form, so that the answers agree says also that the failure never happens.

## Main definitions

* `SlotMap`: A finite map from keys to values of various types.
* `ContextCall`, `ContextAnswer`: The calls and their answers.
* `ContextCall.perform`, `ContextCall.performOnMap`: A call on a context and on a map.
* `ContextCall.answers`: The answers to calls that are made one after the other.
* `Context.Represents`: A context has the entries of a map.

## Theorems

* `Context.Represents.setSlot`, `Context.Represents.erase`: Storing and erasing on both
  sides.
* `Context.Represents.sort_keys`, `Context.Represents.card_keys`: The keys of both sides.
* `ContextCall.perform_represents`: A call gets the same answer on both sides.
* `ContextCall.answers_eq_onMap`: So do all calls on a new context.
-/

namespace Highlighter

section Map

variable {κ : Type} {El : κ → Type}

/-- A finite map from keys to values of various types. -/
abbrev SlotMap (El : κ → Type) := Finmap fun _ : String => Slot El

/-! ## The map of a context -/

/-- A context has the entries of a map: the map finds what is stored, and no key
    stands twice. -/
structure Context.Represents (c : Context El) (m : SlotMap El) : Prop where
  /-- Under every key there is the same on both sides. -/
  lookup_eq : ∀ key, m.lookup key = c.slot? key
  /-- No key stands twice. -/
  nodup : (c.entries.map (·.1)).Nodup

namespace Context

theorem represents_empty : (empty : Context El).Represents ∅ where
  lookup_eq := fun key => Finmap.lookup_empty key
  nodup := List.nodup_nil

variable {c : Context El} {m : SlotMap El}

theorem Represents.setSlot (h : c.Represents m) (key : String) (s : Slot El) :
    (c.setSlot key s).Represents (m.insert key s) where
  lookup_eq := fun other => by
    rw [slot?_setSlot_eq]
    by_cases hother : other = key
    · rw [if_pos hother, hother, Finmap.lookup_insert]
    · rw [if_neg hother, Finmap.lookup_insert_of_ne m hother, h.lookup_eq]
  nodup := by
    rw [map_fst_entries_setSlot]
    exact nodup_addNew h.nodup key

theorem Represents.erase (h : c.Represents m) (key : String) :
    (c.erase key).Represents (m.erase key) where
  lookup_eq := fun other => by
    rw [slot?_erase]
    by_cases hother : other = key
    · rw [if_pos hother, hother, Finmap.lookup_erase]
    · rw [if_neg hother, Finmap.lookup_erase_ne hother, h.lookup_eq]
  nodup := (List.filter_sublist.map _).nodup h.nodup

/-! ## The keys of a context -/

/-- The keys of the map are those of the entries. -/
theorem Represents.keys_eq (h : c.Represents m) : m.keys = (c.entries.map (·.1)).toFinset := by
  ext key
  rw [Finmap.mem_keys, ← Finmap.lookup_isSome, h.lookup_eq, List.mem_toFinset, mem_map_fst_iff,
    slot?]

/-- As no key stands twice, there are as many entries as keys. -/
theorem Represents.card_keys (h : c.Represents m) : m.keys.card = c.size := by
  rw [h.keys_eq, List.toFinset_card_of_nodup h.nodup, List.length_map, size]

theorem Represents.sort_keys (h : c.Represents m) : m.keys.sort = c.keys := by
  have hperm : c.keys.Perm (c.entries.map (·.1)) := List.mergeSort_perm _ _
  have hset : m.keys = c.keys.toFinset := by
    rw [h.keys_eq, List.toFinset_eq_of_perm _ _ hperm]
  -- Both lists are sorted, and there is one sorted list of some keys.
  have hsorted : c.keys.Pairwise (· ≤ ·) := by
    refine (List.pairwise_mergeSort (fun a b d hab hbd => ?_) (fun a b => ?_) _).imp
      of_decide_eq_true
    · exact decide_eq_true (le_trans (of_decide_eq_true hab) (of_decide_eq_true hbd))
    · rw [Bool.or_eq_true, decide_eq_true_eq, decide_eq_true_eq]
      exact le_total a b
  rw [hset]
  exact (List.toFinset_sort _ (hperm.nodup_iff.mpr h.nodup)).mpr hsorted

theorem Represents.contains_eq (h : c.Represents m) (key : String) :
    c.contains key = decide (key ∈ m) := by
  rw [contains, ← h.lookup_eq, Bool.eq_iff_iff, decide_eq_true_eq, Finmap.lookup_isSome]

theorem Represents.isEmpty_eq (h : c.Represents m) : c.isEmpty = decide (m.keys = ∅) := by
  rw [isEmpty, Bool.eq_iff_iff, decide_eq_true_eq, h.keys_eq, List.isEmpty_iff,
    List.toFinset_eq_empty_iff, List.map_eq_nil_iff]

end Context

end Map

section Calls

variable {κ : Type} [DecidableEq κ] {El : κ → Type}

/-! ## Calls -/

/-- The value of a type under a key of a map. -/
def SlotMap.value? (m : SlotMap El) (key : String) (k : κ) : Option (El k) :=
  (m.lookup key).bind (·.as? k)

/-- A call of an operation on contexts. -/
inductive ContextCall (El : κ → Type) where
  | insert (key : String) (k : κ) (value : El k)
  | get (key : String) (k : κ)
  /-- Reads a value in place, and changes it there. -/
  | update (key : String) (k : κ) (change : El k → El k)
  /-- Reads a value in place after storing one if there was none, and changes it
      there. -/
  | getOrInsert (key : String) (k : κ) (init : El k) (change : El k → El k)
  | remove (key : String) (k : κ)
  | contains (key : String)
  | size
  | isEmpty
  | clear
  | inspect

/-- An answer to a call. -/
inductive ContextAnswer (El : κ → Type) where
  | value (k : κ) (value : Option (El k))
  | truth (b : Bool)
  | number (n : Nat)
  | text (s : String)
  /-- Nothing is told. -/
  | done
  /-- A value that was made sure of is missing. -/
  | missing

namespace ContextCall

/-- Makes a call on a context. -/
def perform : ContextCall El → Context El → ContextAnswer El × Context El
  | .insert key k value, c => (c.insert key k value).map (.value k) id
  | .get key k, c => (.value k (c.get? key k), c)
  | .update key k change, c => (c.update? key k change).map (.value k) id
  | .getOrInsert key k init change, c =>
    match c.getOrInsert? key k init with
    | some (value, c) => (.value k (some value), (c.update? key k change).2)
    | none => (.missing, c)
  | .remove key k, c => (c.remove key k).map (.value k) id
  | .contains key, c => (.truth (c.contains key), c)
  | .size, c => (.number c.size, c)
  | .isEmpty, c => (.truth c.isEmpty, c)
  | .clear, _ => (.done, .empty)
  | .inspect, c => (.text c.inspect, c)

/-- Makes a call on a finite map. Storing and removing act on the key whatever is
    there, but the old value is told only if it has the type of the call. Reading
    sees a value of this type only and leaves any other one alone, unless a value is
    to be made sure of, which replaces it. -/
def performOnMap : ContextCall El → SlotMap El → ContextAnswer El × SlotMap El
  | .insert key k value, m => (.value k (m.value? key k), m.insert key ⟨k, value⟩)
  | .get key k, m => (.value k (m.value? key k), m)
  | .update key k change, m =>
    (.value k (m.value? key k), match m.value? key k with
      | some value => m.insert key ⟨k, change value⟩
      | none => m)
  | .getOrInsert key k init change, m =>
    let value := (m.value? key k).getD init
    (.value k (some value), m.insert key ⟨k, change value⟩)
  | .remove key k, m => (.value k (m.value? key k), m.erase key)
  | .contains key, m => (.truth (key ∈ m), m)
  | .size, m => (.number m.keys.card, m)
  | .isEmpty, m => (.truth (m.keys = ∅), m)
  | .clear, _ => (.done, ∅)
  | .inspect, m =>
    (.text (Text.record "Context" [("keys", Text.list (m.keys.sort.map Text.quoted))]), m)

/-- The answers to some calls, each on what the one before it leaves. -/
def answers {σ : Type} (make : ContextCall El → σ → ContextAnswer El × σ) :
    List (ContextCall El) → σ → List (ContextAnswer El)
  | [], _ => []
  | call :: calls, s => (make call s).1 :: answers make calls (make call s).2

end ContextCall

/-! ## The same answers -/

namespace Context

variable {c : Context El} {m : SlotMap El}

theorem Represents.value?_eq (h : c.Represents m) (key : String) (k : κ) :
    m.value? key k = c.get? key k := by
  rw [SlotMap.value?, h.lookup_eq, get?]

/-- A value that was made sure of and then changed is stored twice, which is the same
    as storing it once. -/
theorem Represents.getOrInsert (h : c.Represents m) (key : String) (k : κ) (init : El k)
    (change : El k → El k) :
    ((c.getOrInsert key k init).2.update? key k change).2.Represents
      (m.insert key ⟨k, change ((c.get? key k).getD init)⟩) := by
  rw [update?_eq, get?_getOrInsert, Option.map_some, Option.getD_some, Context.getOrInsert]
  rcases c.get? key k with _ | value
  · rw [Option.getD_none, ← Finmap.insert_insert m]
    exact (h.setSlot key ⟨k, init⟩).setSlot key ⟨k, change init⟩
  · exact h.setSlot key ⟨k, change value⟩

end Context

namespace ContextCall

variable {c : Context El} {m : SlotMap El}

/-- A call gets the same answer from a context and from the map of its entries, and
    what it leaves of the one is represented by what it leaves of the other. -/
theorem perform_represents (h : c.Represents m) (call : ContextCall El) :
    (call.perform c).1 = (call.performOnMap m).1 ∧
      (call.perform c).2.Represents (call.performOnMap m).2 := by
  -- What the typed operations do depends on the value that both sides see under the key.
  cases call with
  | insert key k value =>
      rw [performOnMap, h.value?_eq]
      exact ⟨rfl, h.setSlot key ⟨k, value⟩⟩
  | get key k =>
      rw [performOnMap, h.value?_eq]
      exact ⟨rfl, h⟩
  | update key k change =>
      rw [perform, performOnMap, h.value?_eq, Context.update?_eq]
      rcases c.get? key k with _ | value
      · exact ⟨rfl, h⟩
      · exact ⟨rfl, h.setSlot key ⟨k, change value⟩⟩
  | getOrInsert key k init change =>
      rw [perform, performOnMap, h.value?_eq, Context.getOrInsert?_eq]
      refine ⟨?_, h.getOrInsert key k init change⟩
      rw [Context.getOrInsert]
      rcases c.get? key k with _ | value <;> rfl
  | remove key k =>
      rw [performOnMap, h.value?_eq]
      exact ⟨rfl, h.erase key⟩
  | contains key => exact ⟨congrArg _ (h.contains_eq key), h⟩
  | size => exact ⟨congrArg _ h.card_keys.symm, h⟩
  | isEmpty => exact ⟨congrArg _ h.isEmpty_eq, h⟩
  | clear => exact ⟨rfl, Context.represents_empty⟩
  | inspect =>
      refine ⟨?_, h⟩
      rw [performOnMap, h.sort_keys]
      rfl

theorem answers_represents (h : c.Represents m) (calls : List (ContextCall El)) :
    answers perform calls c = answers performOnMap calls m := by
  induction calls generalizing c m with
  | nil => rfl
  | cons call calls ih =>
      have hcall := perform_represents h call
      rw [answers, answers, hcall.1, ih hcall.2]

/-- On a new context, every sequence of calls gets the answers of a finite map. A
    typed look at the map sees what is stored there under its own type only, and
    getting or inserting never fails to find the value that it has made sure of. -/
theorem answers_eq_onMap :
    (∀ calls : List (ContextCall El),
      answers perform calls .empty = answers performOnMap calls ∅) ∧
    (∀ (m : SlotMap El) (key : String) (k : κ) (value : El k),
      m.value? key k = some value ↔ m.lookup key = some ⟨k, value⟩) ∧
    ∀ (c : Context El) (key : String) (k : κ) (init : El k),
      c.getOrInsert? key k init = some (c.getOrInsert key k init) := by
  refine ⟨answers_represents Context.represents_empty, fun m key k value => ?_,
    Context.getOrInsert?_eq⟩
  rw [SlotMap.value?, Option.bind_eq_some_iff]
  simp only [Slot.as?_eq_some_iff, exists_eq_right]

-- A value of another type is replaced by one that is made sure of, and it is removed
-- without being told.
example : answers perform [.insert "k" true (1 : Nat), .getOrInsert "k" false "x" (· ++ "y"),
      .get "k" true, .get "k" false, .remove "k" true, .size]
      (.empty : Context fun b => cond b Nat String)
    = [.value true none, .value false (some "x"), .value true none, .value false (some "xy"),
      .value true none, .number 0] := by rfl

end ContextCall

end Calls

end Highlighter
