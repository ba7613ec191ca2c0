import Highlighter.Json.Reader
import Highlighter.Json.Writer
import Mathlib.Data.List.Forall2

/-!
# Texts in JSON

A written text is read as it was, whatever characters it has.

`CharForm` is the list of forms that a character can have in a written text. Seven
characters have a letter, the other control codes a number, and everything else
stands for itself. Each character has exactly one of them, the one that is written.
The reader tells the forms apart by their first character: only the first two begin
with a backslash, and the third is neither a quote nor a control code. So one step
of the reader takes one character back, and the closing quote ends a text that was
written character by character.

A code is taken for the half of a character only if it is much larger than those
written here, so it makes no difference whether halves have to stand together.

## Main definitions

* `Json.letters`: the characters that have a letter.
* `Json.CharForm`: the forms of characters in a written text.
* `Json.StringForm`: the forms of texts.

## Theorems

* `Json.charForm_iff`: A character is written in its one form.
* `Json.stringForm_iff`: So is a text.
* `Json.stringChar_of_charForm`: A form is read as its character.
* `Json.stringChars_flatMap`: Written characters are read up to the closing quote.
* `Json.expectString_writeString`: A written text is read as it was.
-/

namespace Highlighter

namespace Json

/-- The characters that are written as a letter behind a backslash. -/
def letters : List (Char × Char) :=
  [('"', '"'), ('\\', '\\'), ('\x08', 'b'), ('\x0c', 'f'), ('\n', 'n'), ('\r', 'r'), ('\t', 't')]

/-- The forms of characters in a written text. -/
inductive CharForm : Char → List Char → Prop where
  /-- A letter behind a backslash. -/
  | letter {c l : Char} (h : (c, l) ∈ letters) : CharForm c ['\\', l]
  /-- A control code that has no letter, in hexadecimal digits. -/
  | code {c : Char} (hcontrol : c.toNat < 0x20) (hletter : c ∉ letters.map Prod.fst) :
      CharForm c ['\\', 'u', '0', '0', hexChar (c.toNat / 16), hexChar (c.toNat % 16)]
  /-- Any other character, as it is. -/
  | plain {c : Char} (hcontrol : 0x20 ≤ c.toNat) (hletter : c ∉ letters.map Prod.fst) :
      CharForm c [c]

/-- The form of a text: the forms of its characters, between quotes. -/
def StringForm (s : String) (w : List Char) : Prop :=
  ∃ forms, List.Forall₂ CharForm s.toList forms ∧ w = '"' :: forms.flatten ++ ['"']

/-! ## Writing -/

theorem writeChar_of_mem_letters : ∀ p ∈ letters, writeChar p.1 = ['\\', p.2] := by decide

theorem writeChar_of_not_mem {c : Char} (h : c ∉ letters.map Prod.fst) :
    writeChar c = if c.toNat < 0x20 then
      ['\\', 'u', '0', '0', hexChar (c.toNat / 16), hexChar (c.toNat % 16)] else [c] := by
  unfold writeChar
  split
  case h_8 => rfl
  all_goals exact absurd (by decide) h

theorem charForm_writeChar (c : Char) : CharForm c (writeChar c) := by
  -- Having a letter is asked for first, since most of the seven are control codes.
  by_cases hletter : c ∈ letters.map Prod.fst
  · rcases List.mem_map.mp hletter with ⟨p, hp, rfl⟩
    rw [writeChar_of_mem_letters p hp]
    exact .letter hp
  · rw [writeChar_of_not_mem hletter]
    split
    · next hcontrol => exact .code hcontrol hletter
    · next hcontrol => exact .plain (Nat.le_of_not_lt hcontrol) hletter

theorem charForm_iff {c : Char} {w : List Char} : CharForm c w ↔ w = writeChar c := by
  constructor
  · rintro (hmem | ⟨hcontrol, hletter⟩ | ⟨hcontrol, hletter⟩)
    · exact (writeChar_of_mem_letters _ hmem).symm
    · rw [writeChar_of_not_mem hletter, if_pos hcontrol]
    · rw [writeChar_of_not_mem hletter, if_neg (Nat.not_lt_of_le hcontrol)]
  · rintro rfl
    exact charForm_writeChar c

theorem forall₂_charForm_iff {cs : List Char} {forms : List (List Char)} :
    List.Forall₂ CharForm cs forms ↔ forms = cs.map writeChar := by
  constructor
  · intro h
    induction h with
    | nil => rfl
    | cons hform _ ih => rw [List.map_cons, ← ih, ← charForm_iff.mp hform]
  · rintro rfl
    exact List.forall₂_map_right_iff.mpr (List.forall₂_same.mpr fun c _ => charForm_writeChar c)

theorem stringForm_iff {s : String} {w : List Char} : StringForm s w ↔ w = writeString s := by
  simp only [StringForm, forall₂_charForm_iff, exists_eq_left, writeString, List.flatMap_def]

theorem writeChar_ne_nil (c : Char) : writeChar c ≠ [] := by
  intro hnil
  have hform := charForm_writeChar c
  rw [hnil] at hform
  cases hform

theorem length_le_flatMap_writeChar (cs : List Char) :
    cs.length ≤ (cs.flatMap writeChar).length := by
  induction cs with
  | nil => exact Nat.le_refl 0
  | cons c cs ih =>
      have hpos := List.length_pos_iff.mpr (writeChar_ne_nil c)
      rw [List.flatMap_cons, List.length_append, List.length_cons]
      omega

/-! ## Reading -/

theorem hexDigit?_hexChar : ∀ n < 16, hexDigit? (hexChar n) = some n := by decide

theorem length_le_byteLength (cs : List Char) : cs.length ≤ byteLength cs := by
  induction cs with
  | nil => exact Nat.le_refl 0
  | cons c cs ih =>
      have hsize := c.utf8Size_pos
      rw [byteLength, List.foldr_cons, ← byteLength, List.length_cons]
      omega

/-- A code below 256 is read from its last two digits. -/
theorem hexCode_hexChar {n : Nat} (h : n < 256) (rest : List Char) :
    hexCode ('0' :: '0' :: hexChar (n / 16) :: hexChar (n % 16) :: rest) = .ok (n, rest) := by
  have hlong := length_le_byteLength ('0' :: '0' :: hexChar (n / 16) :: hexChar (n % 16) :: rest)
  have hdigits : (['0', '0', hexChar (n / 16), hexChar (n % 16)].mapM hexDigit?)
      = some [0, 0, n / 16, n % 16] := by
    have hzero : hexDigit? '0' = some 0 := by decide
    simp only [List.mapM_cons, List.mapM_nil, hzero, hexDigit?_hexChar (n / 16) (by omega),
      hexDigit?_hexChar (n % 16) (by omega)]
    rfl
  simp only [List.length_cons] at hlong
  rw [hexCode, if_neg (by omega)]
  simp only [List.take_succ_cons, List.take_zero, hdigits, List.foldl_cons, List.foldl_nil,
    List.drop_succ_cons, List.drop_zero]
  rw [show 16 * (16 * (16 * (16 * 0 + 0) + 0) + n / 16) + n % 16 = n by omega]

theorem codedChar_hexChar {c : Char} (h : c.toNat < 0x20) (lax : Bool) (rest : List Char) :
    codedChar lax ('0' :: '0' :: hexChar (c.toNat / 16) :: hexChar (c.toNat % 16) :: rest)
      = .ok (c, rest) := by
  -- No half of a character is as small as a control code.
  have hlow : ¬(0xDC00 ≤ c.toNat ∧ c.toNat ≤ 0xDFFF) := by omega
  have hhigh : ¬(0xD800 ≤ c.toNat ∧ c.toNat ≤ 0xDBFF) := by omega
  rw [codedChar, hexCode_hexChar (by omega)]
  simp only [bind, Except.bind, Char.ofNat_toNat]
  rw [if_neg hlow, if_neg hhigh, ite_self]

/-- A form is read as its character. -/
theorem stringChar_of_charForm {c : Char} {w : List Char} (h : CharForm c w) (lax : Bool)
    (rest : List Char) : stringChar lax (w ++ rest) = .ok (some c, rest) := by
  cases h with
  | letter h =>
      simp only [letters, List.mem_cons, Prod.mk.injEq, List.not_mem_nil, or_false] at h
      rcases h with ⟨rfl, rfl⟩ | ⟨rfl, rfl⟩ | ⟨rfl, rfl⟩ | ⟨rfl, rfl⟩ | ⟨rfl, rfl⟩ | ⟨rfl, rfl⟩ |
        ⟨rfl, rfl⟩ <;> rfl
  | code hcontrol _ =>
      simp only [List.cons_append, List.nil_append, stringChar, codedChar_hexChar hcontrol]
      rfl
  | plain hcontrol hletter =>
      -- It is neither the closing quote nor a backslash, for both have a letter.
      rw [List.singleton_append, stringChar, if_neg (Nat.not_lt_of_le hcontrol)]
      all_goals
        rintro rfl
        exact hletter (by decide)

/-- Written characters are read up to the closing quote. -/
theorem stringChars_flatMap (lax : Bool) {cs : List Char} {fuel : Nat} (h : cs.length < fuel)
    (rest : List Char) :
    stringChars lax fuel (cs.flatMap writeChar ++ '"' :: rest) = .ok (cs, rest) := by
  induction cs generalizing fuel with
  | nil =>
      rcases fuel with _ | fuel
      · cases h
      · rfl
  | cons c cs ih =>
      rcases fuel with _ | fuel
      · cases h
      · rw [List.flatMap_cons, List.append_assoc, stringChars,
          stringChar_of_charForm (charForm_writeChar c)]
        simp only [bind, Except.bind, ih (Nat.lt_of_succ_lt_succ h)]

theorem readString_flatMap (s : String) (rest : List Char) :
    readString (s.toList.flatMap writeChar ++ '"' :: rest) = .ok (s, rest) := by
  -- Every character is written with one at least, so there are enough steps.
  have hlong := length_le_flatMap_writeChar s.toList
  rw [readString, stringChars_flatMap false (by rw [List.length_append]; omega)]
  simp only [bind, Except.bind, String.ofList_toList]

theorem writeString_append (s : String) (rest : List Char) :
    writeString s ++ rest = '"' :: (s.toList.flatMap writeChar ++ '"' :: rest) := by
  simp only [writeString, List.cons_append, List.append_assoc, List.nil_append]

/-- A written text is read as it was. -/
theorem expectString_writeString (s : String) (rest : List Char) :
    expectString (writeString s ++ rest) = .ok (s, rest) := by
  rw [writeString_append]
  exact readString_flatMap s rest

end Json

end Highlighter
