import Highlighter.Proofs.Json.Numbers
import Highlighter.Proofs.Json.Strings

/-!
# Records in JSON

A written record is read as the record it was, for every schema.

Reading and writing know a record only by its schema, so that one proof serves for
all kinds of records. Of the schema it needs that no name stands twice, since a
field that does is refused, and of the values that they are of the kinds of their
fields, with integers that are kept exactly.

The reader takes one field after the other and collects what it has seen. A field
with an absent value is not written, so the reader does not see it and knows nothing
of it in the end. `readFields_members` says what is known when a record has been
read: the values that were written, and no others. A field of which nothing is known
takes its default value. Absence is a default value of the only kind that may be
absent, so every field gets back the value it had.

## Main definitions

* `Json.FieldKind.Admits`: the values that a field may have.
* `Json.ValueForm`, `Json.FieldsForm`, `Json.RecordForm`: the forms of records.
* `Json.members`: the written fields of a record.

## Theorems

* `Json.reads_writeValue?`: The written form of a value is read as the value.
* `Json.default?_of_writeValue?`: A value without a written form is the default.
* `Json.Schema.readFields_member`: One field is taken.
* `Json.Schema.readFields_members`: All fields are, and the values are known.
* `Json.Schema.collect_eq_ok`: The known values and the defaults are the record.
* `Json.Schema.recordForm_write`: A record is written in its form.
* `Json.Schema.reads_write`: A written record is read as it was.
-/

namespace Highlighter

namespace Json

/-- The values that a field may have: those of its kind, with exact integers. -/
inductive FieldKind.Admits : FieldKind → Value → Prop where
  | string (s : String) : Admits string (.string s)
  | nat {n : Nat} (h : n ≤ maxNat) : Admits nat (.nat n)
  | present {n : Nat} (h : n ≤ maxNat) : Admits natOrAbsent (.nat n)
  | absent : Admits natOrAbsent .absent

/-- The forms of a value that is not absent. -/
inductive ValueForm : Value → List Char → Prop where
  | string {s : String} {w : List Char} (h : StringForm s w) : ValueForm (.string s) w
  | nat {n : Nat} {w : List Char} (h : NatForm n w) : ValueForm (.nat n) w

/-- The forms of some fields: each with its name and a colon, and the absent ones left
    out. -/
inductive FieldsForm : List ((String × FieldKind) × Value) → List (List Char) → Prop where
  | nil : FieldsForm [] []
  | field {name : String} {kind : FieldKind} {value : Value} {k v : List Char}
      {entries : List ((String × FieldKind) × Value)} {ws : List (List Char)}
      (hname : StringForm name k) (hvalue : ValueForm value v) (hrest : FieldsForm entries ws) :
      FieldsForm (((name, kind), value) :: entries) ((k ++ ':' :: v) :: ws)
  | absent {name : String} {kind : FieldKind} {entries : List ((String × FieldKind) × Value)}
      {ws : List (List Char)} (hrest : FieldsForm entries ws) :
      FieldsForm (((name, kind), .absent) :: entries) ws

/-- The form of a record: the forms of its fields in braces, with commas between
    them and no blanks. -/
def RecordForm (s : Schema) (values : List Value) (text : String) : Prop :=
  ∃ ws, FieldsForm (s.fields.zip values) ws ∧
    text.toList = '\x7b' :: [','].intercalate ws ++ ['\x7d']

/-- The written fields of a record. -/
def members (entries : List ((String × FieldKind) × Value)) : List (List Char) :=
  (entries.filterMap fun ((name, _), value) =>
    (Schema.writeValue? value).map fun text => (name, text)).map
      fun field => writeString field.1 ++ ':' :: field.2

theorem lookup_of_mem {β : Type} {l : List (String × β)} (hnodup : (l.map Prod.fst).Nodup)
    {e : String × β} (h : e ∈ l) : l.lookup e.1 = some e.2 := by
  rcases List.append_of_mem h with ⟨before, after, rfl⟩
  refine List.lookup_eq_some_iff.mpr ⟨before, after, rfl, fun p hp => ?_⟩
  rw [List.map_append, List.map_cons, List.nodup_append] at hnodup
  exact bne_iff_ne.mpr (hnodup.2.2 _ (List.mem_map_of_mem hp) _ List.mem_cons_self).symm

theorem lookup_cons_of_ne {β : Type} {k name : String} (h : k ≠ name) (b : β)
    (l : List (String × β)) : List.lookup k ((name, b) :: l) = l.lookup k := by
  rw [List.lookup_cons, beq_false_of_ne h]

/-! ## Values -/

/-- The written form of a value is read as the value. -/
theorem reads_writeValue? {kind : FieldKind} {value : Value} (h : kind.Admits value)
    {text : List Char} (htext : Schema.writeValue? value = some text) :
    Reads kind.read text value := by
  intro rest hrest
  cases h with
  | string s =>
      rw [← Option.some.inj htext]
      simp only [FieldKind.read, expectString_writeString]
      rfl
  | nat hn =>
      rw [← Option.some.inj htext]
      simp only [FieldKind.read, expectNat_writeNat hn hrest]
      rfl
  | present hn =>
      rw [← Option.some.inj htext]
      simp only [FieldKind.read, expectNat?_writeNat hn hrest]
      rfl
  | absent => cases htext

/-- A value that has no written form is the one of a field that is left out. -/
theorem default?_of_writeValue? {kind : FieldKind} {value : Value} (h : kind.Admits value)
    (hnone : Schema.writeValue? value = none) : kind.default? = some value := by
  cases h with
  | absent => rfl
  | string | nat | present => cases hnone

/-! ## Fields -/

theorem begins_writeString {mark : Char} (h : mark ≠ '"') (s : String) (rest : List Char) :
    Begins mark (writeString s ++ rest) :=
  ⟨'"', _, rfl, by decide, h.symm⟩

theorem members_cons_of_none {name : String} {kind : FieldKind} {value : Value}
    (h : Schema.writeValue? value = none) (entries : List ((String × FieldKind) × Value)) :
    members (((name, kind), value) :: entries) = members entries := by
  simp only [members, List.filterMap_cons, h, Option.map_none]

theorem members_cons_of_some {name : String} {kind : FieldKind} {value : Value}
    {text : List Char} (h : Schema.writeValue? value = some text)
    (entries : List ((String × FieldKind) × Value)) :
    members (((name, kind), value) :: entries)
      = (writeString name ++ ':' :: text) :: members entries := by
  simp only [members, List.filterMap_cons, h, Option.map_some, List.map_cons]

theorem fieldsForm_members (entries : List ((String × FieldKind) × Value)) :
    FieldsForm entries (members entries) := by
  induction entries with
  | nil => exact .nil
  | cons e entries ih =>
      rcases e with ⟨⟨name, kind⟩, value⟩
      have hname : StringForm name (writeString name) := stringForm_iff.mpr rfl
      cases value with
      | string s =>
          rw [members_cons_of_some rfl]
          exact .field hname (.string (stringForm_iff.mpr rfl)) ih
      | nat n =>
          rw [members_cons_of_some rfl]
          exact .field hname (.nat (natForm_writeNat n)) ih
      | absent =>
          rw [members_cons_of_none rfl]
          exact .absent ih

namespace Schema

theorem readKey_writeString (s : String) (rest : List Char) :
    readKey (writeString s ++ rest) = .ok (s, rest) := by
  rw [writeString_append]
  exact readString_flatMap s rest

/-- One field is taken, and its value is known from then on. -/
theorem readFields_member {s : Schema} {name : String} {kind : FieldKind} {value : Value}
    {text : List Char} (hkind : s.fields.lookup name = some kind)
    (hread : Reads kind.read text value) {known : List (String × Value)}
    (hnew : known.lookup name = none) (fuel : Nat) (first : Bool) (vs : List (List Char))
    (rest : List Char) :
    s.readFields (fuel + 1) first known
        (remaining first ((writeString name ++ ':' :: text) :: vs) ++ '\x7d' :: rest)
      = s.readFields fuel false ((name, value) :: known)
          (remaining false vs ++ '\x7d' :: rest) := by
  have hmember : Begins '\x7d' (writeString name ++ ':' :: text) :=
    begins_writeString (by decide) name (':' :: text)
  have hmark : '\x7d' ∈ marks := by decide
  have hvalue := hread _ (delimited_remaining hmark vs rest)
  have hcolon : ∀ cs, readColon (':' :: cs) = .ok cs := fun _ => rfl
  rw [readFields, goesOn_remaining_cons (by decide) hmember, List.append_assoc]
  simp only [bind, Except.bind, readKey_writeString, hkind, hnew, Option.isSome_none,
    Bool.false_eq_true, if_false, List.cons_append, hcolon, hvalue]

/-- All fields are taken. The values that were written are known in the end, and no
    others that were not known before. -/
theorem readFields_members {s : Schema} {entries : List ((String × FieldKind) × Value)}
    (hkinds : ∀ e ∈ entries, s.fields.lookup e.1.1 = some e.1.2 ∧ e.1.2.Admits e.2)
    (hnodup : (entries.map fun e => e.1.1).Nodup) {known : List (String × Value)}
    (hnew : ∀ e ∈ entries, known.lookup e.1.1 = none) {fuel : Nat}
    (hfuel : (members entries).length < fuel) (first : Bool) (rest : List Char) :
    ∃ found, s.readFields fuel first known (remaining first (members entries) ++ '\x7d' :: rest)
        = .ok (found, '\x7d' :: rest) ∧
      (∀ e ∈ entries, found.lookup e.1.1 = (writeValue? e.2).map fun _ => e.2) ∧
      ∀ name, name ∉ entries.map (fun e => e.1.1) → found.lookup name = known.lookup name := by
  -- The reader sees only the fields that were written, but what is known in the end is
  -- said of all of them, so the induction is on the fields and not on what is read.
  induction entries generalizing known fuel first with
  | nil =>
      rcases fuel with _ | fuel
      · cases hfuel
      · refine ⟨known, ?_, nofun, fun _ _ => rfl⟩
        rw [readFields, members, List.filterMap_nil, List.map_nil,
          goesOn_remaining_nil (by decide)]
        rfl
  | cons e entries ih =>
      rcases e with ⟨⟨name, kind⟩, value⟩
      rw [List.forall_mem_cons] at hkinds hnew
      rw [List.map_cons, List.nodup_cons] at hnodup
      rcases htext : writeValue? value with _ | text
      · -- The field is not written, so nothing is read.
        rw [members_cons_of_none htext] at hfuel ⊢
        rcases ih hkinds.2 hnodup.2 hnew.2 hfuel first with ⟨found, hread, hfound, hother⟩
        refine ⟨found, hread, List.forall_mem_cons.mpr ⟨?_, hfound⟩, fun other hne => ?_⟩
        · rw [htext, hother name hnodup.1, hnew.1, Option.map_none]
        · exact hother other fun hmem => hne (List.mem_cons_of_mem _ hmem)
      · -- The field is taken. Its name does not stand among the others, so they are new
        -- to what is known now, and its value is not replaced.
        rw [members_cons_of_some htext] at hfuel ⊢
        rcases fuel with _ | fuel
        · cases hfuel
        · have hrest : ∀ e ∈ entries, List.lookup e.1.1 ((name, value) :: known) = none := by
            intro e he
            have hne : e.1.1 ≠ name := by
              rintro heq
              exact hnodup.1 (heq ▸ List.mem_map.mpr ⟨e, he, rfl⟩)
            rw [lookup_cons_of_ne hne, hnew.2 e he]
          rcases ih hkinds.2 hnodup.2 hrest (Nat.lt_of_succ_lt_succ hfuel) false with
            ⟨found, hread, hfound, hother⟩
          refine ⟨found, ?_, List.forall_mem_cons.mpr ⟨?_, hfound⟩, fun other hne => ?_⟩
          · rw [readFields_member hkinds.1.1 (reads_writeValue? hkinds.1.2 htext) hnew.1]
            exact hread
          · rw [htext, hother name hnodup.1, List.lookup_cons_self, Option.map_some]
          · rw [List.map_cons, List.mem_cons, not_or] at hne
            rw [hother other hne.2, lookup_cons_of_ne hne.1]

/-- If the values that were written are known, they and the defaults are the values
    of the record. -/
theorem collect_eq_ok {fields : List (String × FieldKind)} {values : List Value}
    (hadmits : List.Forall₂ (fun f v => f.2.Admits v) fields values)
    {known : List (String × Value)}
    (hknown : ∀ e ∈ fields.zip values, known.lookup e.1.1 = (writeValue? e.2).map fun _ => e.2) :
    collect known fields = .ok values := by
  induction hadmits with
  | nil => rfl
  | @cons f v fields values hadmit _ ih =>
      rw [List.zip_cons_cons, List.forall_mem_cons] at hknown
      have hvalue : (known.lookup f.1).or f.2.default? = some v := by
        rw [hknown.1]
        rcases htext : writeValue? v with _ | text
        · rw [Option.map_none, Option.none_or, default?_of_writeValue? hadmit htext]
        · rw [Option.map_some, Option.some_or]
      rw [collect, hvalue, ih hknown.2]
      rfl

theorem toList_write (s : Schema) (values : List Value) :
    (s.write values).toList
      = '\x7b' :: separated (members (s.fields.zip values)) ++ ['\x7d'] :=
  String.toList_ofList

/-- A record is written in its form. -/
theorem recordForm_write (s : Schema) (values : List Value) :
    RecordForm s values (s.write values) := by
  refine ⟨_, fieldsForm_members _, ?_⟩
  rw [toList_write, separated_eq_intercalate]

/-- A written record is read as it was. -/
theorem reads_write {s : Schema} {values : List Value} (hnodup : (s.fields.map Prod.fst).Nodup)
    (hadmits : List.Forall₂ (fun f v => f.2.Admits v) s.fields values) :
    Reads s.read (s.write values).toList values := by
  intro rest _
  have hzip := List.forall₂_iff_zip.mp hadmits
  have hkinds : ∀ e ∈ s.fields.zip values,
      s.fields.lookup e.1.1 = some e.1.2 ∧ e.1.2.Admits e.2 :=
    fun e he => ⟨lookup_of_mem hnodup (List.of_mem_zip he).1, hzip.2 he⟩
  have hnames : ((s.fields.zip values).map fun e => e.1.1).Nodup := by
    rw [show (fun e : (String × FieldKind) × Value => e.1.1) = Prod.fst ∘ Prod.fst from rfl,
      ← List.map_map, List.map_fst_zip (Nat.le_of_eq hzip.1)]
    exact hnodup
  rcases readFields_members hkinds hnames (fun _ _ => List.lookup_nil)
    (length_lt_separated _ '\x7d' rest) true rest with ⟨found, hread, hfound, _⟩
  rw [remaining, if_pos rfl] at hread
  have hcollect := collect_eq_ok hadmits hfound
  have hspace : isSpace '\x7d' = false := by decide
  rw [toList_write]
  simp only [List.cons_append, List.append_assoc, List.nil_append]
  rw [read, skip_cons (by decide)]
  simp only [bind, Except.bind, hread, hcollect, close_cons hspace]

end Schema

end Json

end Highlighter
