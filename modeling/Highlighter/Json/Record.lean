import Highlighter.Json.Reader
import Highlighter.Json.Writer

/-!
# Records in JSON

A record is written with its field names and may be read in two forms: with
names, in any order and among fields that are not its own, or as a bare list of
values in the order of its fields. A field that may be absent may be left out in
both forms.

## Main definitions

* `Json.Value`: the values of fields.
* `Json.Schema`: the name and the fields of a kind of record.
* `Json.Schema.read`: reading a record.
* `Json.Schema.write`: writing a record.
* `Json.readList`: reading a list.
* `Json.decode`: reading a whole text.
-/

namespace Highlighter

namespace Json

/-- The kinds of fields. -/
inductive FieldKind where
  /-- A text. -/
  | string
  /-- An integer that is not negative. -/
  | nat
  /-- An integer that is not negative and may be absent. -/
  | natOrAbsent

/-- The values of fields. -/
inductive Value where
  | string (s : String)
  | nat (n : Nat)
  | absent

/-- The name and the fields of a kind of record. -/
structure Schema where
  /-- The name. -/
  name : String
  /-- The fields, in order. -/
  fields : List (String × FieldKind)

namespace FieldKind

/-- Reads a value of a kind. -/
def read : FieldKind → Reader Value
  | string => fun cs => (expectString cs).map fun (s, cs) => (.string s, cs)
  | nat => fun cs => (expectNat cs).map fun (n, cs) => (.nat n, cs)
  | natOrAbsent => fun cs => (expectNat? cs).map fun (n, cs) =>
    (match n with
      | some n => .nat n
      | none => .absent, cs)

/-- The value of a field that is left out, if it may be. -/
def default? : FieldKind → Option Value
  | natOrAbsent => some .absent
  | _ => none

end FieldKind

/-- Whether a list or record goes on, `first` telling whether it has just been
    opened; reading goes on behind the comma. -/
def goesOn (close : Char) (first : Bool) (cs : List Char) :
    Except DecodeError (Bool × List Char) :=
  match skip cs with
  | [] => .error .truncated
  | c :: rest =>
    if c = close then .ok (false, c :: rest)
    else if first then .ok (true, c :: rest)
    else if c = ',' then
      match skip rest with
      | [] => .error .truncated
      | d :: rest => if d = close then .error .malformed else .ok (true, d :: rest)
    else .error .malformed

/-- Takes the mark that closes a list or record. -/
def close (mark : Char) (cs : List Char) : Except DecodeError (List Char) :=
  match skip cs with
  | [] => .error .truncated
  | c :: rest => if c = mark then .ok rest else .error .malformed

namespace Schema

/-- The name by which a kind of record is expected. -/
def expected (s : Schema) : String := "struct " ++ s.name

/-- The name by which a list of the values of a record is expected. -/
def expectedLength (s : Schema) : String :=
  s.expected ++ " with " ++ toString s.fields.length ++ " elements"

/-- Reads the remaining fields from a list of values, of which `index` have been
    taken. -/
def readValues (s : Schema) : (index : Nat) → List (String × FieldKind) → Reader (List Value)
  | _, [], cs => .ok ([], cs)
  | index, (_, kind) :: fields, cs => do
    match ← goesOn ']' (index == 0) cs with
    | (true, cs) =>
      let (value, cs) ← kind.read cs
      let (values, cs) ← readValues s (index + 1) fields cs
      .ok (value :: values, cs)
    | (false, cs) =>
      match kind.default? with
      | some value =>
        let (values, cs) ← readValues s (index + 1) fields cs
        .ok (value :: values, cs)
      | none => .error (.mismatch (.wrongLength index s.expectedLength))

/-- Takes the name of a field. -/
def readKey : Reader String
  | '"' :: cs => readString cs
  | [] => .error .truncated
  | _ => .error .malformed

/-- Takes the colon behind the name of a field. -/
def readColon (cs : List Char) : Except DecodeError (List Char) :=
  match skip cs with
  | ':' :: cs => .ok cs
  | [] => .error .truncated
  | _ => .error .malformed

/-- Reads named fields until the record ends, behind the ones already known.
    Each step takes a character, so as many steps as characters are enough. -/
def readFields (s : Schema) : (fuel : Nat) → (first : Bool) → (known : List (String × Value)) →
    Reader (List (String × Value))
  | 0, _, _, _ => .error .truncated
  | n + 1, first, known, cs => do
    match ← goesOn '\x7d' first cs with
    | (false, cs) => .ok (known, cs)
    | (true, cs) =>
      let (key, cs) ← readKey cs
      match s.fields.lookup key with
      | some kind =>
        if (known.lookup key).isSome then .error (.mismatch (.duplicateField key))
        else
          let (value, cs) ← kind.read (← readColon cs)
          readFields s n false ((key, value) :: known) cs
      | none =>
        let cs ← ignoreValue (← readColon cs)
        readFields s n false known cs

/-- The values of the fields in order, from the ones that were named. -/
def collect (known : List (String × Value)) :
    List (String × FieldKind) → Except DecodeError (List Value)
  | [] => .ok []
  | (name, kind) :: fields =>
    match (known.lookup name).or kind.default? with
    | some value => do return value :: (← collect known fields)
    | none => .error (.mismatch (.missingField name))

/-- Reads a record, in either form, and gives the values of its fields in
    order. -/
def read (s : Schema) : Reader (List Value) := fun cs => do
  match skip cs with
  | '[' :: cs =>
    let (values, cs) ← s.readValues 0 s.fields cs
    .ok (values, ← close ']' cs)
  | '\x7b' :: cs =>
    let (known, cs) ← s.readFields (cs.length + 1) true [] cs
    let values ← collect known s.fields
    .ok (values, ← close '\x7d' cs)
  | cs => wrongKind s.expected cs

/-- The written form of a value, none if it is absent. -/
def writeValue? : Value → Option (List Char)
  | .string s => some (writeString s)
  | .nat n => some (writeNat n)
  | .absent => none

/-- Writes a record. Absent values are left out. -/
def write (s : Schema) (values : List Value) : String :=
  String.ofList (writeRecord ((s.fields.zip values).filterMap fun ((name, _), value) =>
    (writeValue? value).map fun text => (name, text)))

end Schema

/-- Reads the items of a list until it ends. Each step takes a character, so as
    many steps as characters are enough. -/
def readItems {α : Type} (item : Reader α) : (fuel : Nat) → (first : Bool) → Reader (List α)
  | 0, _, _ => .error .truncated
  | n + 1, first, cs => do
    match ← goesOn ']' first cs with
    | (false, cs) => .ok ([], cs)
    | (true, cs) =>
      let (value, cs) ← item cs
      let (values, cs) ← readItems item n false cs
      .ok (value :: values, cs)

/-- Reads a list. -/
def readList {α : Type} (item : Reader α) : Reader (List α) := fun cs => do
  match skip cs with
  | '[' :: cs =>
    let (values, cs) ← readItems item (cs.length + 1) true cs
    .ok (values, ← close ']' cs)
  | cs => wrongKind "a sequence" cs

/-- Reads a whole text. Only blanks may follow the value. -/
def decode {α : Type} (reader : Reader α) (text : String) : Except DecodeError α := do
  let (value, rest) ← reader text.toList
  if (skip rest).isEmpty then .ok value else .error .malformed

end Json

end Highlighter
