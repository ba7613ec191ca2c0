import Highlighter.Text.Markup

/-!
# Escaping

What escaping keeps, and what it takes away.

Escaping works on one character at a time, and reading markup takes an entity back
at the place where it begins. So a text that was escaped is read as it was, even
if it looks like markup itself: its ampersands are escaped too, and an entity that
is read is not looked at again. This makes escaping injective, which is what the
written form of a tree needs, as a text can be told from what is written for it.

The second thing it needs is an end. An escaped text has no angle bracket, and an
escaped attribute value no double quote, so what comes behind them begins at the
first of these.

## Main definitions

* `Text.textEntities`: what is written for the three special characters.

## Theorems

* `Text.escape_append`: Escaping goes character by character.
* `Text.unescapeChars_escapeChar`, `Text.unescapeChars_escapeAttributeChar`: An
  escaped character is read as one character.
* `Text.unescapeChars_flatMap`: What is escaped character by character is read as
  it was.
* `Text.escape_inj`, `Text.escapeAttribute_inj`: Escaping is injective.
* `Text.escapeChar_cases`: What is written for a character.
* `Text.ne_of_mem_escape`, `Text.ne_of_mem_escapeAttribute`: Characters that no
  escaped text has.
* `Text.escape_eq_escapeAttribute_iff`: Texts and attribute values are escaped alike if
  they have no double quote.
* `Text.escape_ne_nil`: Escaping leaves something of every text.
-/

namespace Highlighter

namespace Text

/-! ## Writing -/

theorem escape_append (s t : String) : escape (s ++ t) = escape s ++ escape t := by
  rw [escape, String.toList_append, List.flatMap_append, String.ofList_append]
  rfl

theorem escape_empty : escape "" = "" := rfl

/-! ## Reading what was escaped -/

-- Only an ampersand begins an entity.
theorem unescapeChars_cons {c : Char} (h : c ≠ '&') (cs : List Char) :
    unescapeChars (c :: cs) = c :: unescapeChars cs := by
  rw [unescapeChars] <;> intros <;> contradiction

theorem unescapeChars_escapeChar (c : Char) (cs : List Char) :
    unescapeChars (escapeChar c ++ cs) = c :: unescapeChars cs := by
  unfold escapeChar
  split
  · rfl
  · rfl
  · rfl
  · next hamp _ _ => exact unescapeChars_cons hamp cs

theorem unescapeChars_escapeAttributeChar (c : Char) (cs : List Char) :
    unescapeChars (escapeAttributeChar c ++ cs) = c :: unescapeChars cs := by
  unfold escapeAttributeChar
  split
  · rfl
  · exact unescapeChars_escapeChar c cs

/-- If what is written for a character is read as the character, a text that is
    written character by character is read as the text. -/
theorem unescapeChars_flatMap {write : Char → List Char}
    (hwrite : ∀ c cs, unescapeChars (write c ++ cs) = c :: unescapeChars cs) (cs : List Char) :
    unescapeChars (cs.flatMap write) = cs := by
  induction cs with
  | nil => rfl
  | cons c cs ih => rw [List.flatMap_cons, hwrite, ih]

theorem toList_escape (s : String) : (escape s).toList = s.toList.flatMap escapeChar :=
  String.toList_ofList

theorem toList_escapeAttribute (s : String) :
    (escapeAttribute s).toList = s.toList.flatMap escapeAttributeChar :=
  String.toList_ofList

-- Reading an escaped text gives the text back, so escaping has a left inverse.
theorem escape_inj {s t : String} (h : (escape s).toList = (escape t).toList) : s = t := by
  have hread := congrArg unescapeChars h
  simp only [toList_escape, unescapeChars_flatMap unescapeChars_escapeChar] at hread
  exact String.toList_inj.mp hread

theorem escapeAttribute_inj {s t : String}
    (h : (escapeAttribute s).toList = (escapeAttribute t).toList) : s = t := by
  have hread := congrArg unescapeChars h
  simp only [toList_escapeAttribute,
    unescapeChars_flatMap unescapeChars_escapeAttributeChar] at hread
  exact String.toList_inj.mp hread

/-! ## What is not left -/

/-- What is written for the three characters that are special in a text. -/
def textEntities : List (List Char) :=
  [['&', 'a', 'm', 'p', ';'], ['&', 'l', 't', ';'], ['&', 'g', 't', ';']]

/-- A character is written as it is or as an entity. -/
theorem escapeChar_cases (c : Char) :
    (escapeChar c = [c] ∧ c ≠ '&' ∧ c ≠ '<' ∧ c ≠ '>') ∨ escapeChar c ∈ textEntities := by
  unfold escapeChar
  split
  · exact .inr (by decide)
  · exact .inr (by decide)
  · exact .inr (by decide)
  · next hamp hlt hgt => exact .inl ⟨rfl, hamp, hlt, hgt⟩

theorem forall_mem_textEntities :
    ∀ e ∈ textEntities, e ≠ [] ∧ ∀ c ∈ e, c ≠ '<' ∧ c ≠ '>' ∧ c ≠ '"' := by
  simp [textEntities]

/-- No angle bracket is left in a text. -/
theorem ne_of_mem_escape {s : String} {c : Char} (h : c ∈ (escape s).toList) :
    c ≠ '<' ∧ c ≠ '>' := by
  rw [toList_escape, List.mem_flatMap] at h
  rcases h with ⟨d, _, hc⟩
  rcases escapeChar_cases d with ⟨hself, _, hlt, hgt⟩ | hentity
  · rw [hself, List.mem_singleton] at hc
    rw [hc]
    exact ⟨hlt, hgt⟩
  · have hnone := (forall_mem_textEntities _ hentity).2 c hc
    exact ⟨hnone.1, hnone.2.1⟩

/-- No double quote is left in an attribute value. -/
theorem ne_of_mem_escapeAttribute {s : String} {c : Char} (h : c ∈ (escapeAttribute s).toList) :
    c ≠ '"' := by
  rw [toList_escapeAttribute, List.mem_flatMap] at h
  rcases h with ⟨d, _, hc⟩
  -- A double quote has an entity of its own, and everything else is escaped as in texts.
  unfold escapeAttributeChar at hc
  split at hc
  · rintro rfl
    exact absurd hc (by decide)
  · next hquote =>
      rcases escapeChar_cases d with ⟨hself, _⟩ | hentity
      · rw [hself, List.mem_singleton] at hc
        rw [hc]
        exact hquote
      · exact ((forall_mem_textEntities _ hentity).2 c hc).2.2

/-- A double quote is left in a text that has one. -/
theorem quote_mem_escape {s : String} (h : '"' ∈ s.toList) : '"' ∈ (escape s).toList := by
  rw [toList_escape, List.mem_flatMap]
  exact ⟨'"', h, by decide⟩

/-- The two ways of escaping differ in the double quote only. -/
theorem escape_eq_escapeAttribute_iff (s : String) :
    escape s = escapeAttribute s ↔ '"' ∉ s.toList := by
  constructor
  · intro h hquote
    have hleft := quote_mem_escape hquote
    rw [h] at hleft
    exact ne_of_mem_escapeAttribute hleft rfl
  · intro h
    rw [← String.toList_inj, toList_escape, toList_escapeAttribute, List.flatMap_def,
      List.flatMap_def]
    refine congrArg List.flatten (List.map_congr_left fun c hc => ?_)
    -- The entity of the double quote is the only one that is not shared.
    unfold escapeAttributeChar
    split
    · exact absurd hc h
    · rfl

theorem escapeChar_ne_nil (c : Char) : escapeChar c ≠ [] := by
  rcases escapeChar_cases c with ⟨hself, _⟩ | hentity
  · rw [hself]
    exact List.cons_ne_nil c []
  · exact (forall_mem_textEntities _ hentity).1

/-- Escaping leaves something of every text that is not empty. -/
theorem escape_ne_nil {s : String} (h : s.isEmpty = false) : (escape s).toList ≠ [] := by
  intro hnil
  rw [toList_escape, List.flatMap_eq_nil_iff] at hnil
  have hempty : s.toList = [] :=
    List.eq_nil_iff_forall_not_mem.mpr fun c hc => escapeChar_ne_nil c (hnil c hc)
  rw [String.toList_eq_nil_iff] at hempty
  rw [hempty] at h
  cases h

end Text

end Highlighter
