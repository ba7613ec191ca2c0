import Highlighter.Proofs.Text.Entities

/-!
# Reading back what was escaped

What escaping promises to a reader of the markup.

A text that was escaped can be put anywhere in a document. It has no angle bracket,
so no tag begins or ends in it, and it has no ampersand of its own: each one begins
an entity that escaping has written. That holds even if the text looks like markup
itself, since its own ampersands are escaped before anything else. A reader thus
meets only entities that it knows, and gets the text back.

Attribute values promise the same and have no double quote either, because there
the quote is one more character with an entity. `toList_escapeAttribute_eq` says
that a value can be written in two rounds, first as a text and then with its quotes
replaced. The second round sees what the first one has written, but as no entity of
a text contains a quote it leaves these alone.

Both are escaped character by character, so what stands at an ampersand is settled by
`ampersandsBegin_flatMap`, which only asks what is written for a single character.

## Main definitions

* `Text.attributeEntities`: What is written for the characters of a value.
* `Text.quoteAsEntity`: The second round of writing a value.
* `Text.AmpersandsBegin`: All ampersands of a text begin given entities.

## Theorems

* `Text.escapeAttributeChar_cases`: What is written for a character of a value.
* `Text.toList_escapeAttribute_eq`: A value is written in two rounds.
* `Text.ne_bracket_of_mem_escapeAttribute`: No angle bracket is left in a value.
* `Text.mem_of_suffix_write`, `Text.ampersandsBegin_flatMap`: Only entities bring
  ampersands.
* `Text.escaped_readable`: Escaped texts and values are safe and can be read back.
-/

namespace Highlighter

namespace Text

/-! ## Attribute values -/

/-- What is written for the four characters that are special in an attribute
    value. -/
def attributeEntities : List (List Char) := ['&', 'q', 'u', 'o', 't', ';'] :: textEntities

theorem forall_mem_attributeEntities :
    ∀ e ∈ attributeEntities, ∀ c ∈ e, c ≠ '<' ∧ c ≠ '>' := by
  simp [attributeEntities, textEntities]

/-- A character of a value is written as it is or as an entity. -/
theorem escapeAttributeChar_cases (c : Char) :
    (escapeAttributeChar c = [c] ∧ c ≠ '&') ∨ escapeAttributeChar c ∈ attributeEntities := by
  unfold escapeAttributeChar
  split
  · exact .inr List.mem_cons_self
  · rcases escapeChar_cases c with ⟨hself, hamp, _⟩ | hentity
    · exact .inl ⟨hself, hamp⟩
    · exact .inr (List.mem_cons_of_mem _ hentity)

/-- A double quote as its entity, and any other character as it is. -/
def quoteAsEntity (c : Char) : List Char :=
  if c = '"' then ['&', 'q', 'u', 'o', 't', ';'] else [c]

theorem escapeAttributeChar_eq (c : Char) :
    escapeAttributeChar c = (escapeChar c).flatMap quoteAsEntity := by
  have hentities : ∀ e ∈ textEntities, e.flatMap quoteAsEntity = e := by decide
  by_cases hquote : c = '"'
  · rw [hquote]
    decide
  · have hchar : escapeAttributeChar c = escapeChar c := by
      unfold escapeAttributeChar
      split
      · exact absurd rfl hquote
      · rfl
    rw [hchar]
    -- The second round has nothing to do, neither in an entity nor elsewhere.
    rcases escapeChar_cases c with ⟨hself, _⟩ | hentity
    · rw [hself, List.flatMap_singleton, quoteAsEntity, if_neg hquote]
    · rw [hentities _ hentity]

/-- A value is written in two rounds, as a text and then with its quotes
    replaced. -/
theorem toList_escapeAttribute_eq (s : String) :
    (escapeAttribute s).toList = (escape s).toList.flatMap quoteAsEntity := by
  rw [toList_escapeAttribute, toList_escape, List.flatMap_assoc]
  exact congrArg s.toList.flatMap (funext escapeAttributeChar_eq)

/-- No angle bracket is left in a value. -/
theorem ne_bracket_of_mem_escapeAttribute {s : String} {c : Char}
    (h : c ∈ (escapeAttribute s).toList) : c ≠ '<' ∧ c ≠ '>' := by
  rw [toList_escapeAttribute_eq, List.mem_flatMap] at h
  rcases h with ⟨d, hd, hc⟩
  -- The second round brings no bracket, and the first one leaves none.
  unfold quoteAsEntity at hc
  by_cases hquote : d = '"'
  · rw [if_pos hquote] at hc
    exact forall_mem_attributeEntities _ List.mem_cons_self c hc
  · rw [if_neg hquote, List.mem_singleton] at hc
    rw [hc]
    exact ne_of_mem_escape hd

/-! ## Ampersands -/

/-- Every ampersand of a text begins one of some entities. -/
def AmpersandsBegin (es : List (List Char)) (cs : List Char) : Prop :=
  ∀ rest, '&' :: rest <:+ cs → ∃ e ∈ es, e <+: '&' :: rest

/-- If a character is written as it is or as an entity that has no further ampersand,
    an ampersand in what is written for it begins the entity. -/
theorem mem_of_suffix_write {es : List (List Char)} {write : Char → List Char} {c : Char}
    {piece : List Char} (hes : ∀ e ∈ es, '&' ∉ e.tail)
    (hwrite : (write c = [c] ∧ c ≠ '&') ∨ write c ∈ es) (h : '&' :: piece <:+ write c) :
    '&' :: piece ∈ es := by
  rcases hwrite with ⟨hself, hamp⟩ | hentity
  · have hmem : '&' ∈ write c := h.subset List.mem_cons_self
    rw [hself, List.mem_singleton] at hmem
    exact absurd hmem.symm hamp
  · rcases hw : write c with _ | ⟨d, tail⟩
    · rw [hw] at h
      exact absurd (List.suffix_nil.mp h) (List.cons_ne_nil _ _)
    · rw [hw] at h hentity
      rcases List.suffix_cons_iff.mp h with hwhole | hin
      · rw [hwhole]
        exact hentity
      · exact absurd (hin.subset List.mem_cons_self) (hes _ hentity)

/-- If all characters are written like this, only entities bring ampersands. -/
theorem ampersandsBegin_flatMap {es : List (List Char)} {write : Char → List Char}
    (hes : ∀ e ∈ es, '&' ∉ e.tail) (hwrite : ∀ c, (write c = [c] ∧ c ≠ '&') ∨ write c ∈ es)
    (cs : List Char) : AmpersandsBegin es (cs.flatMap write) := by
  induction cs with
  | nil =>
      intro rest hrest
      rw [List.flatMap_nil, List.suffix_nil] at hrest
      exact absurd hrest (List.cons_ne_nil _ _)
  | cons c cs ih =>
      intro rest hrest
      rw [List.flatMap_cons] at hrest
      -- The ampersand is behind what is written for the character, or within it.
      rcases List.suffix_or_suffix_of_suffix hrest (List.suffix_append (write c) _) with
        hlater | ⟨piece, hpiece⟩
      · exact ih rest hlater
      · rw [← hpiece, List.suffix_append_self_iff] at hrest
        rcases piece with _ | ⟨d, piece⟩
        · rw [List.nil_append] at hpiece
          exact ih rest (hpiece ▸ List.suffix_rfl)
        · rw [(List.cons.inj hpiece).1] at hrest hpiece
          refine ⟨'&' :: piece, mem_of_suffix_write hes (hwrite c) hrest, ?_⟩
          rw [← hpiece]
          exact List.prefix_append _ _

/-- Escaped texts and attribute values can be read back, whatever they look like,
    and they are safe: no angle bracket is left in them and no double quote in a
    value, and each of their ampersands begins an entity that was written. -/
theorem escaped_readable (s : String) :
    (unescape (escape s) = s ∧ '<' ∉ (escape s).toList ∧ '>' ∉ (escape s).toList ∧
      AmpersandsBegin textEntities (escape s).toList) ∧
    (unescape (escapeAttribute s) = s ∧ '<' ∉ (escapeAttribute s).toList ∧
      '>' ∉ (escapeAttribute s).toList ∧ '"' ∉ (escapeAttribute s).toList ∧
      AmpersandsBegin attributeEntities (escapeAttribute s).toList) := by
  have htext : ∀ e ∈ textEntities, '&' ∉ e.tail := by decide
  have hvalue : ∀ e ∈ attributeEntities, '&' ∉ e.tail := by decide
  refine ⟨⟨unescape_escape s, fun h => (ne_of_mem_escape h).1 rfl,
    fun h => (ne_of_mem_escape h).2 rfl, ?_⟩, ?_,
    fun h => (ne_bracket_of_mem_escapeAttribute h).1 rfl,
    fun h => (ne_bracket_of_mem_escapeAttribute h).2 rfl,
    fun h => ne_of_mem_escapeAttribute h rfl, ?_⟩
  · rw [toList_escape]
    refine ampersandsBegin_flatMap htext (fun c => ?_) s.toList
    exact (escapeChar_cases c).imp (fun h => ⟨h.1, h.2.1⟩) id
  · rw [unescape, toList_escapeAttribute, unescapeChars_flatMap unescapeChars_escapeAttributeChar,
      String.ofList_toList]
  · rw [toList_escapeAttribute]
    exact ampersandsBegin_flatMap hvalue escapeAttributeChar_cases s.toList

end Text

end Highlighter
