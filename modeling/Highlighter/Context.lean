import Highlighter.Text.Quoted

/-!
# Contexts

A context is a store that the matchers and the hook of a scan share. It maps
keys to values of various types, and every access names the type it expects.
A value is seen only under its own type; what a mismatch does depends on the
operation. Looking a value up or changing it in place leaves a value of another
type alone, inserting and removing act on the key whatever is stored there.

The types are the codes of a universe: a type `κ` of codes and, for each code,
the type of its values. Any such universe will do.

## Main definitions

* `Context`: keys with typed values.
* `Context.get?`, `Context.insert`, `Context.update?`, `Context.getOrInsert`,
  `Context.remove`: typed access.
* `Context.ensure`, `Context.getOrInsert?`: getting or inserting in two steps, of
  which the second might find nothing.
-/

namespace Highlighter

/-- A value together with the code of its type. -/
structure Slot {κ : Type} (El : κ → Type) where
  /-- The code of the type. -/
  kind : κ
  /-- The value. -/
  value : El kind

/-- The value of a slot, if it has the expected type. -/
def Slot.as? {κ : Type} [DecidableEq κ] {El : κ → Type} (s : Slot El) (k : κ) : Option (El k) :=
  if h : s.kind = k then some (h ▸ s.value) else none

/-- Keys with typed values. No key occurs twice. -/
structure Context {κ : Type} (El : κ → Type) where
  /-- The keys and their values. -/
  entries : List (String × Slot El) := []

namespace Context

section Untyped

variable {κ : Type} {El : κ → Type}

/-- The context without keys. -/
def empty : Context El := {}

/-- What is stored under a key. -/
def slot? (c : Context El) (key : String) : Option (Slot El) := c.entries.lookup key

/-- Stores a slot under a key: in place of the one there, or behind all
    others. -/
def setEntry (key : String) (s : Slot El) : List (String × Slot El) → List (String × Slot El)
  | [] => [(key, s)]
  | (k, t) :: rest => if key == k then (key, s) :: rest else (k, t) :: setEntry key s rest

/-- Stores a slot under a key. -/
def setSlot (c : Context El) (key : String) (s : Slot El) : Context El :=
  ⟨setEntry key s c.entries⟩

/-- The context without a key. -/
def erase (c : Context El) (key : String) : Context El :=
  ⟨c.entries.filter (·.1 != key)⟩

/-- Whether a key is present. -/
def contains (c : Context El) (key : String) : Bool := (c.slot? key).isSome

/-- The number of keys. -/
def size (c : Context El) : Nat := c.entries.length

/-- Whether there are no keys. -/
def isEmpty (c : Context El) : Bool := c.entries.isEmpty

/-- The keys, sorted. -/
def keys (c : Context El) : List String := (c.entries.map (·.1)).mergeSort (· ≤ ·)

/-- The context as its keys. -/
def inspect (c : Context El) : String :=
  Text.record "Context" [("keys", Text.list (c.keys.map Text.quoted))]

end Untyped

section Typed

variable {κ : Type} [DecidableEq κ] {El : κ → Type}

/-- The value of a type under a key. -/
def get? (c : Context El) (key : String) (k : κ) : Option (El k) :=
  (c.slot? key).bind (·.as? k)

/-- Stores a value. The result holds the previous one if it had the same
    type. -/
def insert (c : Context El) (key : String) (k : κ) (value : El k) : Option (El k) × Context El :=
  (c.get? key k, c.setSlot key ⟨k, value⟩)

/-- Changes a value of a type in place and gives the old one. Nothing happens if
    there is none. -/
def update? (c : Context El) (key : String) (k : κ) (change : El k → El k) :
    Option (El k) × Context El :=
  match c.get? key k with
  | some value => (some value, c.setSlot key ⟨k, change value⟩)
  | none => (none, c)

/-- The value of a type under a key, after storing the given one if there was
    none of that type. -/
def getOrInsert (c : Context El) (key : String) (k : κ) (init : El k) : El k × Context El :=
  match c.get? key k with
  | some value => (value, c)
  | none => (init, c.setSlot key ⟨k, init⟩)

/-- Makes sure that there is a value of a type under a key: the given one is stored
    if the key is missing or holds a value of another type. -/
def ensure (c : Context El) (key : String) (k : κ) (init : El k) : Context El :=
  if (c.slot? key).any (·.kind == k) then c else c.setSlot key ⟨k, init⟩

/-- Getting or inserting in two steps: the value is made sure of, and then looked
    up. The result is missing if the lookup finds no value. -/
def getOrInsert? (c : Context El) (key : String) (k : κ) (init : El k) :
    Option (El k × Context El) :=
  let c := c.ensure key k init
  (c.get? key k).map fun value => (value, c)

/-- Removes a key. The result holds its value if it had the expected type. -/
def remove (c : Context El) (key : String) (k : κ) : Option (El k) × Context El :=
  (c.get? key k, c.erase key)

end Typed

end Context

end Highlighter
