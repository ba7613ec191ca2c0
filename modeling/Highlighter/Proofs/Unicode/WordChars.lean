import Highlighter.Matcher
import Highlighter.Proofs.Unicode.Ranges
import Mathlib.Data.List.Chain

/-!
# Two notions of a word character

Which characters words are made of, and which ones words end in.

There are two answers. The edge of a word lies where `Property.word` changes, and a
word of a list has to end at such an edge if it ends in a character of
`Property.alphanumeric` or in an underscore. Both sets contain the alphabetic
characters and the decimal digits. Beyond these the first one goes on with what joins
characters: marks, joining punctuation and the joiners. The second one goes on with the
numbers that are no digits, like a superscript, and with the characters that are too new
for patterns.

So the notions differ, but not on ASCII, where the underscore is the only joining
punctuation and the digits are the only numbers.

## Theorems

* `CharSet.inOrder_iff_isChain`: Ranges are in order if neighbours are.
* `CharSet.contains_of_lt`: A character is in a set if it is in one of its first ranges.
* `Category.inOrder_members`, `Category.contains_unionOf`: The tables of the categories are
  in order, so their unions have all their members.
* `Property.contains_word`, `Property.contains_alphanumeric`: What the two sets are made of.
* `Property.contains_word_or`, `Property.contains_alphanumeric_or`: Where they may differ.
* `Property.contains_word_of_isAscii`, `Property.contains_alphanumeric_of_isAscii`: In ASCII
  both are the set of ASCII words.
* `RegexMatcher.endsInWord_eq_isWordChar`: The words about whose end there is one answer.
* `isWordChar_of_isAscii`, `RegexMatcher.endsInWord_of_isAscii`: Words that end in ASCII are
  among them.
-/

namespace Highlighter

/-- Ranges are in order if neighbours are. -/
theorem CharSet.inOrder_iff_isChain (rs : List (Nat × Nat)) :
    InOrder rs ↔ rs.IsChain fun r q => r.1 ≤ q.1 :=
  have : IsTrans (Nat × Nat) fun r q => r.1 ≤ q.1 := ⟨fun _ _ _ => Nat.le_trans⟩
  List.isChain_iff_pairwise.symm

instance (rs : List (Nat × Nat)) : Decidable (CharSet.InOrder rs) :=
  decidable_of_iff _ (CharSet.inOrder_iff_isChain rs).symm

theorem CharSet.covered_takeWhile {rs : List (Nat × Nat)} (h : InOrder rs) {n k : Nat}
    (hk : k < n) : Covered (rs.takeWhile (·.1 < n)) k ↔ Covered rs k := by
  induction rs with
  | nil => rfl
  | cons r rs ih =>
      rcases List.pairwise_cons.mp h with ⟨hr, hrs⟩
      rw [List.takeWhile_cons, covered_cons r rs]
      by_cases hn : r.1 < n
      · rw [if_pos (decide_eq_true hn), covered_cons, ih hrs]
      · -- All ranges from here on begin behind the point.
        rw [if_neg (by rwa [decide_eq_true_iff])]
        refine iff_of_false (covered_nil k) ?_
        rintro (hcovered | ⟨q, hq, hcovered⟩)
        · omega
        · have hle := hr q hq
          omega

/-- Whether a set has a character is told by the ranges that begin before a point behind
    it. -/
theorem CharSet.contains_of_lt {s : CharSet} (h : InOrder s.ranges) {n : Nat} {c : Char}
    (hc : c.toNat < n) :
    s.contains c = (CharSet.ofRanges (s.ranges.takeWhile (·.1 < n))).contains c := by
  rw [Bool.eq_iff_iff, contains_iff, contains_iff, covered_takeWhile h hc]

open CharSet

/-! ## Tables -/

namespace Category

theorem inOrder_members (k : Category) : InOrder k.members.ranges := by
  have hall : ∀ k ∈ all, InOrder k.members.ranges := by decide +kernel
  exact hall k (by cases k <;> decide)

theorem forall_inOrder_members (ks : List Category) :
    ∀ s ∈ ks.map members, InOrder s.ranges := by
  intro s hs
  rcases List.mem_map.mp hs with ⟨k, _, rfl⟩
  exact inOrder_members k

theorem inOrder_unionOf (ks : List Category) : InOrder (unionOf ks).ranges :=
  inOrder_unions (forall_inOrder_members ks)

/-- A union of categories has the members of all of them. -/
theorem contains_unionOf (ks : List Category) (c : Char) :
    (unionOf ks).contains c = ks.any fun k => k.members.contains c := by
  rw [unionOf, contains_unions (forall_inOrder_members ks), List.any_map]
  rfl

end Category

/-! ## What the sets are made of -/

namespace Property

/-- The other tables are in order as well. -/
theorem inOrder_tables :
    InOrder otherLowercase.ranges ∧ InOrder otherUppercase.ranges ∧
      InOrder otherAlphabetic.ranges ∧ InOrder addedAlphabetic.ranges ∧
      InOrder addedNumbers.ranges ∧ InOrder joinControl.ranges := by
  decide +kernel

theorem inOrder_cased : InOrder cased.ranges := by
  rcases inOrder_tables with ⟨hlowercase, huppercase, _⟩
  refine inOrder_unions ?_
  simp only [List.forall_mem_cons, List.not_mem_nil, false_implies, implies_true, and_true]
  exact ⟨inOrder_union (Category.inOrder_members .lowercaseLetter) hlowercase,
    inOrder_union (Category.inOrder_members .uppercaseLetter) huppercase,
    Category.inOrder_members .titlecaseLetter⟩

theorem forall_inOrder_alphabetic : ∀ s ∈ [cased,
    Category.unionOf [.modifierLetter, .otherLetter, .letterNumber], otherAlphabetic],
    InOrder s.ranges := by
  rcases inOrder_tables with ⟨_, _, halphabetic, _⟩
  simp only [List.forall_mem_cons, List.not_mem_nil, false_implies, implies_true, and_true]
  exact ⟨inOrder_cased, Category.inOrder_unionOf _, halphabetic⟩

theorem inOrder_alphabetic : InOrder alphabetic.ranges := inOrder_unions forall_inOrder_alphabetic

theorem forall_inOrder_word : ∀ s ∈ [alphabetic, Category.unionOf Category.marks,
    Category.unionOf [.decimalNumber, .connectorPunctuation], joinControl], InOrder s.ranges := by
  rcases inOrder_tables with ⟨_, _, _, _, _, hjoin⟩
  simp only [List.forall_mem_cons, List.not_mem_nil, false_implies, implies_true, and_true]
  exact ⟨inOrder_alphabetic, Category.inOrder_unionOf _, Category.inOrder_unionOf _, hjoin⟩

theorem forall_inOrder_alphanumeric : ∀ s ∈ [currentAlphabetic,
    Category.unionOf Category.numbers, addedNumbers], InOrder s.ranges := by
  rcases inOrder_tables with ⟨_, _, _, hadded, hnumbers, _⟩
  simp only [List.forall_mem_cons, List.not_mem_nil, false_implies, implies_true, and_true]
  exact ⟨inOrder_union inOrder_alphabetic hadded, Category.inOrder_unionOf _, hnumbers⟩

/-- The characters of words. -/
theorem contains_word (c : Char) :
    word.contains c = (alphabetic.contains c || (Category.unionOf Category.marks).contains c ||
      Category.decimalNumberMembers.contains c ||
      Category.connectorPunctuationMembers.contains c || joinControl.contains c) := by
  rw [word, contains_unions forall_inOrder_word, List.any_cons, List.any_cons, List.any_cons,
    Category.contains_unionOf [.decimalNumber, .connectorPunctuation]]
  simp only [List.any_cons, List.any_nil, Bool.or_false, Bool.or_assoc, Category.members]

/-- The alphabetic characters and the numbers. -/
theorem contains_alphanumeric (c : Char) :
    alphanumeric.contains c = (alphabetic.contains c || addedAlphabetic.contains c ||
      (Category.unionOf Category.numbers).contains c || addedNumbers.contains c) := by
  rw [alphanumeric, contains_unions forall_inOrder_alphanumeric, List.any_cons, currentAlphabetic,
    contains_union inOrder_alphabetic inOrder_tables.2.2.2.1]
  simp only [List.any_cons, List.any_nil, Bool.or_false, Bool.or_assoc]

/-! ## Where the sets differ -/

theorem contains_alphabetic_of_letterNumber {c : Char}
    (hc : Category.letterNumberMembers.contains c = true) : alphabetic.contains c = true := by
  rw [alphabetic, contains_unions forall_inOrder_alphabetic, List.any_cons, List.any_cons,
    Category.contains_unionOf [.modifierLetter, .otherLetter, .letterNumber]]
  simp only [List.any_cons, Category.members, hc, Bool.true_or, Bool.or_true]

/-- A letter or a number is a character of words, unless it is a number that is neither a
    digit nor a letter or is too new for patterns. -/
theorem contains_word_or {c : Char} (hc : alphanumeric.contains c = true) :
    word.contains c = true ∨ Category.otherNumberMembers.contains c = true ∨
      addedAlphabetic.contains c = true ∨ addedNumbers.contains c = true := by
  rw [contains_alphanumeric, Category.contains_unionOf Category.numbers] at hc
  rw [contains_word]
  simp only [Category.numbers, List.any_cons, List.any_nil, Category.members, Bool.or_eq_true,
    Bool.or_false] at hc ⊢
  rcases hc with ((halphabetic | hadded) | hdigit | hletter | hnumber) | hadded
  · exact Or.inl (Or.inl (Or.inl (Or.inl (Or.inl halphabetic))))
  · exact Or.inr (Or.inr (Or.inl hadded))
  · exact Or.inl (Or.inl (Or.inl (Or.inr hdigit)))
  · have halphabetic := contains_alphabetic_of_letterNumber hletter
    exact Or.inl (Or.inl (Or.inl (Or.inl (Or.inl halphabetic))))
  · exact Or.inr (Or.inl hnumber)
  · exact Or.inr (Or.inr (Or.inr hadded))

/-- A character of words is a letter or a number, unless it only joins others. -/
theorem contains_alphanumeric_or {c : Char} (hc : word.contains c = true) :
    alphanumeric.contains c = true ∨ (Category.unionOf Category.marks).contains c = true ∨
      Category.connectorPunctuationMembers.contains c = true ∨ joinControl.contains c = true := by
  rw [contains_word] at hc
  rw [contains_alphanumeric, Category.contains_unionOf Category.numbers]
  simp only [Category.numbers, List.any_cons, List.any_nil, Category.members, Bool.or_eq_true,
    Bool.or_false] at hc ⊢
  rcases hc with (((halphabetic | hmark) | hdigit) | hconnector) | hjoin
  · exact Or.inl (Or.inl (Or.inl (Or.inl halphabetic)))
  · exact Or.inr (Or.inl hmark)
  · exact Or.inl (Or.inl (Or.inr (Or.inl hdigit)))
  · exact Or.inr (Or.inr (Or.inl hconnector))
  · exact Or.inr (Or.inr (Or.inr hjoin))

/-! ## ASCII -/

theorem inOrder_word : InOrder word.ranges := inOrder_unions forall_inOrder_word

theorem inOrder_alphanumeric : InOrder alphanumeric.ranges :=
  inOrder_unions forall_inOrder_alphanumeric

/-- The ranges of the two sets in ASCII. -/
theorem ascii_ranges :
    word.ranges.takeWhile (·.1 < 128) = asciiWord.ranges ∧
      alphanumeric.ranges.takeWhile (·.1 < 128)
        = [(0x30, 0x39), (0x41, 0x5A), (0x61, 0x7A)] := by
  decide +kernel

/-- The characters of words in ASCII. -/
theorem contains_word_of_isAscii {c : Char} (hc : c.toNat < 128) :
    word.contains c = asciiWord.contains c := by
  rw [contains_of_lt inOrder_word hc, ascii_ranges.1]

theorem contains_alphanumeric_of_isAscii {c : Char} (hc : c.toNat < 128) :
    (alphanumeric.contains c || c == '_') = asciiWord.contains c := by
  have hunderscore : '_'.toNat = 0x5F := rfl
  rw [contains_of_lt inOrder_alphanumeric hc, ascii_ranges.2, Bool.eq_iff_iff, Bool.or_eq_true,
    contains_iff, contains_iff, beq_iff_eq, ← Char.toNat_inj, hunderscore]
  simp only [asciiWord, covered_cons, covered_nil, or_false]
  omega

end Property

theorem isWordChar_some (c : Char) : isWordChar false (some c) = Property.word.contains c := rfl

/-- In ASCII it makes no difference whether words are ASCII words. -/
theorem isWordChar_of_isAscii {c : Char} (hc : c.toNat < 128) :
    isWordChar false (some c) = isWordChar true (some c) :=
  Property.contains_word_of_isAscii hc

/-- A word has to end at the edge of a word just if its last character is one of words, if
    that character is neither of the numbers and newcomers on the one side nor of what joins
    characters on the other. -/
theorem RegexMatcher.endsInWord_eq_isWordChar {w : List Char} {c : Char}
    (hlast : w.getLast? = some c)
    (hplain : ∀ s ∈ [Category.otherNumberMembers, Property.addedAlphabetic, Property.addedNumbers,
      Category.unionOf Category.marks, Category.connectorPunctuationMembers, Property.joinControl],
      ¬s.contains c = true) : endsInWord w = isWordChar false (some c) := by
  simp only [List.forall_mem_cons, List.not_mem_nil, false_implies, implies_true, and_true]
    at hplain
  rcases hplain with ⟨hnumber, halphabetic, hadded, hmark, hconnector, hjoin⟩
  have hchars : endsInWord w = (Property.alphanumeric.contains c || c == '_') := by
    rw [endsInWord, hlast]
  rw [hchars, isWordChar_some, Bool.eq_iff_iff, Bool.or_eq_true, beq_iff_eq]
  constructor
  · rintro (halnum | rfl)
    · rcases Property.contains_word_or halnum with h | h | h | h
      · exact h
      · exact absurd h hnumber
      · exact absurd h halphabetic
      · exact absurd h hadded
    · exact Property.contains_word_of_isAscii (by decide)
  · intro h
    rcases Property.contains_alphanumeric_or h with h | h | h | h
    · exact Or.inl h
    · exact absurd h hmark
    · exact absurd h hconnector
    · exact absurd h hjoin

/-- A word that ends in ASCII has to end at the edge of a word if its last character is one
    of ASCII words. -/
theorem RegexMatcher.endsInWord_of_isAscii {w : List Char} {c : Char} (hlast : w.getLast? = some c)
    (hc : c.toNat < 128) : endsInWord w = isWordChar true (some c) := by
  rw [endsInWord, hlast]
  exact Property.contains_alphanumeric_of_isAscii hc

end Highlighter
