import Highlighter.Json.Record
import Mathlib.Data.List.Forall2

/-!
# Lists in JSON

What it takes to read a written list item by item.

A reader takes a value from the front of a text and does not know where the value was
meant to end. `Reads` says that it ends at the right place: a written value is read
as it was, and what stands behind it is left. Nothing but a comma, a closing mark or
the end of the text can stand there, which is what a number needs.

Items are taken in turn. Before the first one there is nothing, and a comma before
every other one, and `remaining` has both cases, so that one induction goes through
the list. The reader asks at every step whether the list goes on. It decides by the
next character, so an item must not begin with a blank or with the mark that closes
the list. No record and no text does.

## Main definitions

* `Json.Delimited`: what may stand behind a value.
* `Json.Reads`: a reader that takes a text for a value.
* `Json.remaining`: the written form of the items that are left.
* `Json.Begins`: a text that may stand where an item is expected.

## Theorems

* `Json.decode_of_reads`: A text that is taken for a value is decoded.
* `Json.goesOn_remaining_cons`, `Json.goesOn_remaining_nil`: A list goes on as long
  as items are left.
* `Json.readItems_remaining`: The items are read one by one.
* `Json.reads_writeList`: A written list is read as the list of its items.
-/

namespace Highlighter

namespace Json

/-- The marks that may stand behind a value. -/
def marks : List Char := [',', ']', '\x7d']

/-- What may stand behind a value: a comma, the mark that closes a list or a record,
    or nothing. -/
def Delimited (rest : List Char) : Prop := ∀ c ∈ rest.head?, c ∈ marks

/-- The reader takes the text for the value, wherever the text is delimited. -/
def Reads {α : Type} (read : Reader α) (text : List Char) (x : α) : Prop :=
  ∀ rest, Delimited rest → read (text ++ rest) = .ok (x, rest)

theorem mem_marks {c : Char} : c ∈ marks ↔ c = ',' ∨ c = ']' ∨ c = '\x7d' := by
  simp only [marks, List.mem_cons, List.not_mem_nil, or_false]

theorem Delimited.nil : Delimited [] := nofun

theorem Delimited.cons {c : Char} (h : c ∈ marks) (rest : List Char) : Delimited (c :: rest) := by
  intro d hd
  rw [← Option.some.inj hd]
  exact h

/-- A text that is taken for a value is decoded. -/
theorem decode_of_reads {α : Type} {read : Reader α} {text : String} {x : α}
    (h : Reads read text.toList x) : decode read text = .ok x := by
  have hread := h [] .nil
  rw [List.append_nil] at hread
  rw [decode, hread]
  rfl

theorem skip_cons {c : Char} (h : isSpace c = false) (cs : List Char) :
    skip (c :: cs) = c :: cs :=
  List.dropWhile_cons_of_neg (by rw [h]; exact Bool.false_ne_true)

/-! ## Going on -/

/-- The written form of the items that are left: a comma stands before each of them,
    except before the first of all. -/
def remaining (first : Bool) (vs : List (List Char)) : List Char :=
  if first then separated vs else vs.flatMap (',' :: ·)

/-- A text that may stand where an item is expected, before the mark that closes the
    list. -/
def Begins (mark : Char) (v : List Char) : Prop :=
  ∃ c w, v = c :: w ∧ isSpace c = false ∧ c ≠ mark

theorem separated_cons (v : List Char) (vs : List (List Char)) :
    separated (v :: vs) = v ++ vs.flatMap (',' :: ·) := by
  induction vs generalizing v with
  | nil => exact (List.append_nil v).symm
  | cons w vs ih => rw [separated, ih w, List.flatMap_cons, List.cons_append]; nofun

theorem separated_eq_intercalate (vs : List (List Char)) :
    separated vs = [','].intercalate vs := by
  fun_induction separated vs with
  | case1 => rfl
  | case2 v => exact List.intercalate_singleton.symm
  | case3 v vs hne ih =>
      rw [ih, List.intercalate_cons_of_ne_nil hne, List.append_assoc, List.singleton_append]

theorem remaining_nil (first : Bool) : remaining first [] = [] := by
  cases first <;> rfl

/-- The commas alone are almost as many as the items, so the characters of a list are
    enough steps for its items. -/
theorem length_lt_separated (vs : List (List Char)) (mark : Char) (rest : List Char) :
    vs.length < (separated vs ++ mark :: rest).length + 1 := by
  have hcommas : vs.length ≤ (separated vs).length + 1 := by
    fun_induction separated vs with
    | case1 => exact Nat.zero_le _
    | case2 v => exact Nat.le_add_left 1 _
    | case3 v vs _ ih =>
        rw [List.length_append, List.length_cons, List.length_cons]
        omega
  rw [List.length_append, List.length_cons]
  omega

/-- A list goes on as long as items are left. -/
theorem goesOn_remaining_cons {mark : Char} (hmark : mark ≠ ',') {v : List Char}
    (hv : Begins mark v) (first : Bool) (vs : List (List Char)) (rest : List Char) :
    goesOn mark first (remaining first (v :: vs) ++ rest)
      = .ok (true, v ++ (remaining false vs ++ rest)) := by
  rcases hv with ⟨c, w, rfl, hspace, hne⟩
  cases first with
  | true =>
      -- Nothing stands before the first item.
      rw [remaining, if_pos rfl, separated_cons, List.append_assoc, List.cons_append, goesOn,
        skip_cons hspace]
      simp only [if_neg hne]
      rfl
  | false =>
      -- The comma is taken, and what follows it is seen not to close the list.
      rw [remaining, if_neg Bool.false_ne_true, List.flatMap_cons, List.append_assoc,
        List.cons_append, List.cons_append, goesOn, skip_cons (by decide)]
      simp only [if_neg hmark.symm, skip_cons hspace, if_neg hne]
      rfl

theorem goesOn_remaining_nil {mark : Char} (hspace : isSpace mark = false) (first : Bool)
    (rest : List Char) :
    goesOn mark first (remaining first [] ++ mark :: rest) = .ok (false, mark :: rest) := by
  rw [remaining_nil, List.nil_append, goesOn, skip_cons hspace]
  exact if_pos rfl

theorem close_cons {mark : Char} (hspace : isSpace mark = false) (rest : List Char) :
    close mark (mark :: rest) = .ok rest := by
  rw [close, skip_cons hspace]
  exact if_pos rfl

theorem delimited_remaining {mark : Char} (h : mark ∈ marks) (vs : List (List Char))
    (rest : List Char) : Delimited (remaining false vs ++ mark :: rest) := by
  rcases vs with _ | ⟨v, vs⟩
  · exact .cons h rest
  · exact .cons (by decide) _

/-! ## Lists -/

variable {α : Type} {item : Reader α} {xs : List α} {vs : List (List Char)}

/-- The items are read one by one. Each is delimited by the comma before the next one
    or by the end of the list. -/
theorem readItems_remaining (h : List.Forall₂ (fun x v => Reads item v x ∧ Begins ']' v) xs vs)
    {fuel : Nat} (hfuel : xs.length < fuel) (first : Bool) (rest : List Char) :
    readItems item fuel first (remaining first vs ++ ']' :: rest) = .ok (xs, ']' :: rest) := by
  -- After an item the list has no first item any more, so this is for either case.
  induction h generalizing fuel first with
  | nil =>
      rcases fuel with _ | fuel
      · cases hfuel
      · rw [readItems, goesOn_remaining_nil (by decide)]
        rfl
  | @cons x v xs vs hitem _ ih =>
      rcases fuel with _ | fuel
      · cases hfuel
      · rw [readItems, goesOn_remaining_cons (by decide) hitem.2]
        have hmark : ']' ∈ marks := by decide
        have hread := hitem.1 _ (delimited_remaining hmark vs rest)
        simp only [bind, Except.bind, hread, ih (Nat.lt_of_succ_lt_succ hfuel)]

/-- A written list is read as the list of its items. -/
theorem reads_writeList (h : List.Forall₂ (fun x v => Reads item v x ∧ Begins ']' v) xs vs) :
    Reads (readList item) (writeList vs) xs := by
  intro rest _
  have hspace : isSpace ']' = false := by decide
  have hfuel : xs.length < (separated vs ++ ']' :: rest).length + 1 := by
    rw [h.length_eq]
    exact length_lt_separated vs ']' rest
  have hitems := readItems_remaining h hfuel true rest
  rw [remaining, if_pos rfl] at hitems
  simp only [writeList, List.cons_append, List.append_assoc, List.nil_append]
  rw [readList, skip_cons (by decide)]
  simp only [bind, Except.bind, hitems, close_cons hspace]

end Json

end Highlighter
