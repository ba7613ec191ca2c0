import Highlighter.Proofs.Unicode.WordChars
import Highlighter.Proofs.Words.Finding

/-!
# Words that stand alone

When a word is found just where it stands alone.

A word should not be found at the start of a longer one. So it should be found where it
comes next in the source, except where its last character and the one behind it both are
characters that words are made of. `StandsAlone` says this of an offset, by the one notion
of such a character that patterns have.

Whether a word is tied to the edge of a word is decided by another notion, though, and
where the two give different answers about the last character of a word, it is not found
as it should be. A word that is tied to the edge and does not end in a character of words
is found only where it goes on: alone it has no edge behind it. A word that is not tied to
the edge although it ends in such a character is found everywhere, also where it goes on.
There is a source for either case, so `found_iff_standsAlone_iff` can say that the
answers have to be the same. They are for all words that end in ASCII.

## Main definitions

* `RegexMatcher.StandsAlone`: a word that comes next and does not go on.

## Theorems

* `RegexMatcher.isSome_span?_word`: Where a single word is found.
* `RegexMatcher.not_found_alone`, `RegexMatcher.found_going_on`: The sources that break the
  contract.
* `RegexMatcher.found_iff_standsAlone_iff`: The words that are found just where they
  stand alone.
* `RegexMatcher.found_iff_standsAlone_keyword`: A word that is.
* `RegexMatcher.not_found_iff_standsAlone`: Two words that are not.
-/

namespace Highlighter

open CharSet

namespace RegexMatcher

/-- A word comes next in a source and does not go on: its last character and the one
    behind it are not both characters that words are made of. -/
def StandsAlone (source : String) (offset : Nat) (w : String) : Prop :=
  ∃ behind, afterBytes? offset source.toList = some (w.toList ++ behind) ∧
    ¬(isWordChar false w.toList.getLast? = true ∧ isWordChar false behind.head? = true)

/-- A single word is found where it comes next, if it need not end there or its last
    character and the one behind it are not of one kind. -/
theorem isSome_span?_word {w : String} {m : RegexMatcher} (h : words [w] = .ok m)
    {source : String} {offset : Nat} {before rest : List Char}
    (hcut : CutAt source offset before rest) :
    (m.span? source offset).isSome = true ↔ ∃ behind, rest = w.toList ++ behind ∧
      (endsInWord w.toList = true →
        isWordChar false w.toList.getLast? ≠ isWordChar false behind.head?) := by
  have hboundary := (isBoundary_iff source offset).mpr ⟨before, rest, hcut⟩
  rw [span?_words (List.cons_ne_nil w []) h hboundary, Option.isSome_map, List.find?_isSome]
  simp only [List.mem_singleton, exists_eq_left]
  rw [findsWord_eq hcut, Bool.and_eq_true, List.isPrefixOf_iff_prefix, Bool.or_eq_true,
    Bool.not_eq_true', ← Bool.not_eq_true, ← imp_iff_not_or]
  -- The word itself is in front of the edge, so nothing before it matters.
  have hedge : ∀ behind, rest = w.toList ++ behind → endsInWord w.toList = true →
      isWordEdge source (offset + byteLength w.toList)
        = (isWordChar false w.toList.getLast? != isWordChar false behind.head?) := by
    intro behind hbehind hend
    rw [hbehind] at hcut
    rw [isWordEdge_eq hcut.move, List.getLast?_append]
    rcases hlast : w.toList.getLast? with _ | c
    · rw [endsInWord, hlast] at hend
      cases hend
    · rfl
  constructor
  · rintro ⟨⟨behind, hbehind⟩, hends⟩
    refine ⟨behind, hbehind.symm, fun hend => ?_⟩
    rw [← bne_iff_ne, ← hedge behind hbehind.symm hend]
    exact hends hend
  · rintro ⟨behind, hbehind, hends⟩
    refine ⟨⟨behind, hbehind.symm⟩, fun hend => ?_⟩
    rw [hedge behind hbehind hend, bne_iff_ne]
    exact hends hend

theorem standsAlone_iff {source : String} {offset : Nat} {before rest : List Char}
    (hcut : CutAt source offset before rest) (w : String) :
    StandsAlone source offset w ↔ ∃ behind, rest = w.toList ++ behind ∧
      ¬(isWordChar false w.toList.getLast? = true ∧ isWordChar false behind.head? = true) := by
  rw [StandsAlone, hcut.afterBytes?]
  simp only [Option.some.injEq]

/-- A word that is tied to the edge of a word and does not end in a character of words has
    no edge behind it where it stands alone. -/
theorem not_found_alone {w : String} {m : RegexMatcher} (h : words [w] = .ok m)
    (hend : endsInWord w.toList = true) (hlast : isWordChar false w.toList.getLast? = false) :
    StandsAlone w 0 w ∧ ¬(m.span? w 0).isSome = true := by
  have hcut : CutAt w 0 [] (w.toList ++ []) := by
    rw [List.append_nil]
    exact cutAt_zero w
  rw [standsAlone_iff hcut, isSome_span?_word h hcut, hlast]
  refine ⟨⟨[], rfl, fun hboth => Bool.false_ne_true hboth.1⟩, ?_⟩
  rintro ⟨behind, hbehind, hedge⟩
  rw [← List.append_cancel_left hbehind] at hedge
  exact hedge hend rfl

/-- A word that is not tied to the edge of a word although it ends in a character of words is
    found where it goes on. -/
theorem found_going_on {w : String} {m : RegexMatcher} (h : words [w] = .ok m)
    (hend : endsInWord w.toList = false) (hlast : isWordChar false w.toList.getLast? = true) :
    ¬StandsAlone (w ++ "a") 0 w ∧ (m.span? (w ++ "a") 0).isSome = true := by
  have hcut : CutAt (w ++ "a") 0 [] (w.toList ++ ['a']) := by
    have hcut := cutAt_zero (w ++ "a")
    rwa [String.toList_append] at hcut
  rw [standsAlone_iff hcut, isSome_span?_word h hcut, hend]
  refine ⟨?_, ['a'], rfl, fun htied => absurd htied Bool.false_ne_true⟩
  rintro ⟨behind, hbehind, halone⟩
  rw [← List.append_cancel_left hbehind] at halone
  exact halone ⟨hlast, isWordChar_of_isAscii (c := 'a') (by decide)⟩

/-- A word is found just where it stands alone if and only if the two notions of a
    character of words give the same answer about its last one. -/
theorem found_iff_standsAlone_iff (w : String) (m : RegexMatcher) (h : words [w] = .ok m) :
    (∀ source offset, Span.isBoundary source offset = true →
      ((m.span? source offset).isSome = true ↔ StandsAlone source offset w)) ↔
    endsInWord w.toList = isWordChar false w.toList.getLast? := by
  constructor
  · intro hcontract
    have hzero : ∀ source, Span.isBoundary source 0 = true := fun source =>
      (isBoundary_iff source 0).mpr ⟨_, _, cutAt_zero source⟩
    -- Where the answers differ, one of the two sources breaks the contract.
    rcases hend : endsInWord w.toList with _ | _ <;>
      rcases hlast : isWordChar false w.toList.getLast? with _ | _
    · rfl
    · have hfound := found_going_on h hend hlast
      exact absurd ((hcontract _ 0 (hzero _)).mp hfound.2) hfound.1
    · have halone := not_found_alone h hend hlast
      exact absurd ((hcontract w 0 (hzero w)).mpr halone.1) halone.2
    · rfl
  · intro hsame source offset hboundary
    rcases (isBoundary_iff source offset).mp hboundary with ⟨before, rest, hcut⟩
    rw [isSome_span?_word h hcut, standsAlone_iff hcut, hsame]
    refine exists_congr fun behind => and_congr_right fun _ => ?_
    cases isWordChar false w.toList.getLast? <;> cases isWordChar false behind.head? <;> decide

/-- A word that ends in ASCII is found alone and not at the start of a longer one. -/
theorem found_iff_standsAlone_keyword :
    ∃ m, words ["if"] = .ok m ∧ (m.span? "x if(" 2).isSome = true ∧
      ¬(m.span? "iffy" 0).isSome = true := by
  rcases exists_words ["if"] (by decide +kernel) with ⟨m, hm⟩
  have hascii : 'f'.toNat < 128 := by decide
  have hcontract := (found_iff_standsAlone_iff "if" m hm).mpr
    ((endsInWord_of_isAscii rfl hascii).trans (isWordChar_of_isAscii hascii).symm)
  have hparen : isWordChar false (some '(') = false := isWordChar_of_isAscii (by decide)
  refine ⟨m, hm, ?_, fun hfound => ?_⟩
  · refine (hcontract "x if(" 2 (by decide +kernel)).mpr ⟨['('], by decide +kernel, ?_⟩
    exact fun hboth => Bool.false_ne_true (hparen.symm.trans hboth.2)
  · rcases (hcontract "iffy" 0 (by decide +kernel)).mp hfound with ⟨behind, hbehind, halone⟩
    have hrest : "if".toList ++ ['f', 'y'] = "if".toList ++ behind := Option.some.inj hbehind
    rw [← List.append_cancel_left hrest] at halone
    exact halone (by decide +kernel)

/-- A superscript is a number but no digit, so it is tied to an edge that it does not have
    and is not found where it stands alone. A mark belongs to words but is no letter, so a
    word that ends in one is found at the start of a longer word. -/
theorem not_found_iff_standsAlone :
    (∃ m, words ["²"] = .ok m ∧ StandsAlone "²" 0 "²" ∧ ¬(m.span? "²" 0).isSome = true) ∧
    ∃ m, words ["e\u0301"] = .ok m ∧ ¬StandsAlone "e\u0301a" 0 "e\u0301" ∧
      (m.span? "e\u0301a" 0).isSome = true := by
  -- Only the ranges up to a character have to be looked at.
  have hnumber : isWordChar false (some '²') = false := by
    rw [isWordChar_some, contains_of_lt Property.inOrder_word (n := 0xB3) (by decide +kernel)]
    decide +kernel
  have hjoins : isWordChar false (some '\u0301') = true := by
    rw [isWordChar_some, contains_of_lt Property.inOrder_word (n := 0x302) (by decide +kernel)]
    decide +kernel
  have hmark : Property.alphanumeric.contains '\u0301' = false := by
    rw [contains_of_lt Property.inOrder_alphanumeric (n := 0x302) (by decide +kernel)]
    decide +kernel
  have hend : endsInWord ['e', '\u0301'] = false := by
    rw [endsInWord, List.getLast?_cons_cons, List.getLast?_singleton]
    simp only [hmark]
    decide
  have hpattern : wordsPattern ["e\u0301"] = "(?:e\u0301)" := by
    have hword : wordPattern "e\u0301".toList = ['e', '\u0301'] :=
      if_neg (Bool.eq_false_iff.mp hend)
    rw [wordsPattern, List.map_singleton, hword]
    rfl
  rcases exists_words ["²"] (by decide +kernel) with ⟨number, hok⟩
  rcases exists_words ["e\u0301"] (by rw [words, hpattern]; decide +kernel) with ⟨mark, hok'⟩
  refine ⟨⟨number, hok, ?_⟩, ⟨mark, hok', ?_⟩⟩
  · exact not_found_alone hok (by decide +kernel) hnumber
  · exact found_going_on hok' hend hjoins

end RegexMatcher

end Highlighter
