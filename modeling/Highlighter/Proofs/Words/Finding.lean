import Highlighter.Proofs.Matchers
import Highlighter.Proofs.Words.Reading

/-!
# Finding words

Which word of a list is found.

A list of words is matched as a regular expression, and the words reach it escaped and
joined into one pattern. None of this shows. At each character boundary the list
finds its first word that comes next in the source and ends where it has to, and the
lexeme is that word. The words may be any texts: patterns in their own right, begin
with each other, occur twice, or be empty.

Where a word has to end is told by its last character. A letter, a number or an
underscore asks for the edge of a word behind it, a place where one of the two
characters around it belongs to words and the other does not. Anything else may be
followed by anything.

`Shape.pass?` says where a word leads, `Code.matchAt?_choice` that the first word
that leads anywhere is taken, and `RegexMatcher.read?_wordsPattern` that the pattern
is a choice between the words. What is left to show is that a word leads behind itself
where it is found, and nowhere else.

## Main definitions

* `isWordEdge`: whether the edge of a word lies at an offset.
* `RegexMatcher.findsWord`: whether a word is found at an offset.

## Theorems

* `Place.skipText?_eq`: Characters can be skipped if they come next.
* `CutAt.seek?`: The place at a cut of a source.
* `isWordEdge_holds`, `isWordEdge_eq`: The edge of a word between two characters.
* `RegexMatcher.pass?_wordShape`: A word leads behind itself where it is found.
* `RegexMatcher.span?_words`: The first word that is found.
* `RegexMatcher.exists_words`: A list whose pattern compiles has a matcher.
* `RegexMatcher.find_words`: So a list of words is a matcher of its first word that is
  found.
* `RegexMatcher.find_words_overlapping`: Words that begin with each other.
-/

namespace Highlighter

/-! ## Places -/

namespace Place

/-- The last of some characters is the one before the place behind them. -/
theorem getLast?_or (c : Char) (cs : List Char) (before : Option Char) :
    cs.getLast?.or (some c) = (c :: cs).getLast?.or before := by
  rw [List.getLast?_cons, Option.some_or]
  rcases cs.getLast? with _ | d <;> rfl

/-- Characters can be skipped if they come next. -/
theorem skipText?_eq (cs : List Char) (p : Place) :
    p.skipText? cs
      = if cs.isPrefixOf p.rest then
          some ⟨cs.getLast?.or p.before, p.rest.drop cs.length, p.offset + byteLength cs⟩
        else none := by
  induction cs generalizing p with
  | nil => rfl
  | cons c cs ih =>
      rw [skipText?]
      rcases hrest : p.rest with _ | ⟨d, rest⟩
      · rfl
      · rw [List.isPrefixOf_cons_cons]
        by_cases hc : c = d
        · simp only [hc, beq_self_eq_true, Bool.true_and, if_true, ih, next,
            getLast?_or d cs p.before, byteLength_cons, Nat.add_assoc, List.length_cons,
            List.drop_succ_cons]
        · simp only [if_neg hc, beq_eq_false_iff_ne.mpr hc, Bool.false_and, Bool.false_eq_true,
            if_false]

theorem skipBytes?_append (before rest : List Char) (p : Place) (hp : p.rest = before ++ rest) :
    skipBytes? (before ++ rest) (byteLength before) p
      = some ⟨before.getLast?.or p.before, rest, p.offset + byteLength before⟩ := by
  induction before generalizing p with
  | nil =>
      rw [List.nil_append] at hp ⊢
      rw [byteLength_nil, skipBytes?, ← hp]
      rfl
  | cons c cs ih =>
      rcases byteLength_cons_eq_succ c cs with ⟨k, hk, hle, hrest⟩
      rw [hk, List.cons_append, skipBytes?, if_pos hle, hrest, ih (p.next c (cs ++ rest)) rfl, ← hk,
        byteLength_cons]
      simp only [next, getLast?_or c cs p.before, Nat.add_assoc]

end Place

/-- The place at a cut of a source. -/
theorem CutAt.seek? {source : String} {offset : Nat} {before rest : List Char}
    (h : CutAt source offset before rest) :
    Place.seek? source.toList offset = some ⟨before.getLast?, rest, offset⟩ := by
  rw [Place.seek?, h.whole, ← h.length, Place.skipBytes?_append before rest _ rfl]
  simp only [Place.start, Option.or_none, Nat.zero_add]

/-- Whether the edge of a word lies at an offset of a source. -/
def isWordEdge (source : String) (offset : Nat) : Bool :=
  (Place.seek? source.toList offset).any (Look.word .boundary false).holds

theorem isWordEdge_holds {source : String} {offset : Nat} {before rest : List Char}
    (h : CutAt source offset before rest) :
    isWordEdge source offset
      = (Look.word .boundary false).holds ⟨before.getLast?, rest, offset⟩ := by
  rw [isWordEdge, h.seek?]
  rfl

/-- The edge of a word lies between a character that belongs to words and one that
    does not. -/
theorem isWordEdge_eq {source : String} {offset : Nat} {before rest : List Char}
    (h : CutAt source offset before rest) :
    isWordEdge source offset
      = (isWordChar false before.getLast? != isWordChar false rest.head?) :=
  isWordEdge_holds h

namespace RegexMatcher

/-! ## Single words -/

/-- Whether a word of a list is found at an offset of a source: it comes next, and it
    ends at the edge of a word if it has to. -/
def findsWord (source : String) (offset : Nat) (w : String) : Bool :=
  match afterBytes? offset source.toList with
  | some rest => w.toList.isPrefixOf rest &&
      (!endsInWord w.toList || isWordEdge source (offset + byteLength w.toList))
  | none => false

theorem findsWord_eq {source : String} {offset : Nat} {before rest : List Char}
    (h : CutAt source offset before rest) (w : String) :
    findsWord source offset w = (w.toList.isPrefixOf rest &&
      (!endsInWord w.toList || isWordEdge source (offset + byteLength w.toList))) := by
  rw [findsWord, h.afterBytes?]

theorem steps?_literals (w : List Char) (p : Place) :
    Shape.steps? (w.map fun c => .literal [c]) p = p.skipText? w := by
  induction w generalizing p with
  | nil => rfl
  | cons c w ih =>
      rw [List.map_cons, Shape.steps?_cons, funext ih, Shape.step?, ← Place.skipText?_append]
      rfl

/-- A word leads behind itself where it is found, and otherwise nowhere. -/
theorem pass?_wordShape {source : String} {offset : Nat} {before rest : List Char}
    (h : CutAt source offset before rest) (w : String) :
    ((wordShape w.toList).pass? ⟨before.getLast?, rest, offset⟩).map Place.offset
      = if findsWord source offset w then some (offset + byteLength w.toList) else none := by
  have hsteps : ∀ p ∈ wordParts w.toList, p.isStep = true := fun p => isStep_of_mem_wordParts
  rw [wordShape, Shape.pass?_sequence fun p hp => Shape.straight_of_isStep (hsteps p hp),
    Shape.flatMap_parts hsteps, wordParts, Shape.steps?_append, steps?_literals,
    Place.skipText?_eq, findsWord_eq h]
  by_cases hprefix : w.toList.isPrefixOf rest = true
  · rcases List.isPrefixOf_iff_prefix.mp hprefix with ⟨behind, hbehind⟩
    have hcut : CutAt source (offset + byteLength w.toList) (before ++ w.toList) behind := by
      rw [← hbehind] at h
      exact h.move
    rw [if_pos hprefix, hprefix, Bool.true_and, Option.bind_some, ← hbehind, List.drop_left,
      isWordEdge_holds hcut, List.getLast?_append]
    by_cases hend : endsInWord w.toList = true
    · rw [if_pos hend, hend, Bool.not_true, Bool.false_or, Shape.steps?_singleton, Shape.step?]
      generalize (Look.word .boundary false).holds _ = edge
      cases edge <;> rfl
    · rw [if_neg hend, Bool.eq_false_iff.mpr hend, Bool.not_false, Bool.true_or, if_pos rfl]
      rfl
  · rw [if_neg hprefix, Bool.eq_false_iff.mpr hprefix, Bool.false_and]
    rfl

/-! ## Lists of words -/

/-- A choice between words leads where the first word leads that is found. -/
theorem choose?_wordShape {source : String} {offset : Nat} {before rest : List Char}
    (h : CutAt source offset before rest) (ws : List String) :
    (Shape.choose? (ws.map fun w => wordShape w.toList) ⟨before.getLast?, rest, offset⟩).map
        Place.offset
      = (ws.find? (findsWord source offset)).map fun w => offset + byteLength w.toList := by
  induction ws with
  | nil => rfl
  | cons w ws ih =>
      have hw := pass?_wordShape h w
      rw [List.map_cons, Shape.choose?_cons, List.find?_cons]
      by_cases hfinds : findsWord source offset w = true
      · rw [if_pos hfinds] at hw
        rcases Option.map_eq_some_iff.mp hw with ⟨q, hq, hoffset⟩
        simp only [hq, hfinds, Option.some_or, Option.map_some, hoffset]
      · rw [if_neg hfinds, Option.map_eq_none_iff] at hw
        rw [hw, Option.none_or, ih]
        simp only [Bool.eq_false_iff.mpr hfinds]

/-- A list of words finds the first of its words that is found. -/
theorem span?_words {ws : List String} (hne : ws ≠ []) {m : RegexMatcher} (h : words ws = .ok m)
    {source : String} {offset : Nat} (hboundary : Span.isBoundary source offset = true) :
    m.span? source offset
      = (ws.find? (findsWord source offset)).map fun w =>
          ⟨offset, offset + byteLength w.toList⟩ := by
  rcases (isBoundary_iff source offset).mp hboundary with ⟨before, rest, hcut⟩
  rcases words_eq_ok hne h with ⟨hgroup, hcode, hlabels⟩
  have hbranches : ∀ b ∈ ws.map fun w : String => wordShape w.toList, b.WrittenOut := by
    intro b hb
    rcases List.mem_map.mp hb with ⟨w, _, rfl⟩
    exact writtenOut_wordShape w.toList
  have hoffset := choose?_wordShape hcut ws
  rw [span?, Regex.findAt?, hcut.seek?, hcode, hlabels, hgroup]
  simp only [bind, Option.bind_some, listShape,
    Code.matchAt?_choice (mt List.map_eq_nil_iff.mp hne) hbranches]
  rcases hlast : Shape.choose? (ws.map fun w => wordShape w.toList)
    ⟨before.getLast?, rest, offset⟩ with _ | last
  · rw [hlast, Option.map_none, eq_comm, Option.map_eq_none_iff] at hoffset
    rw [hlast, hoffset]
    rfl
  · rw [hlast, Option.map_some, eq_comm, Option.map_eq_some_iff] at hoffset
    rcases hoffset with ⟨w, hw, hstop⟩
    rw [hlast, hw]
    exact congrArg (fun stop => some (Span.mk offset stop)) hstop.symm

theorem exists_words (ws : List String) (h : (words ws).isOk = true) : ∃ m, words ws = .ok m := by
  rcases hm : words ws with cause | m
  · rw [hm] at h
    cases h
  · exact ⟨m, rfl⟩

/-- A list of words is a matcher of its first word that is found. It can be asked at
    every character boundary, it does not fail there, and it leaves the context alone. -/
theorem find_words {σ : Type} (ws : List String) (hne : ws ≠ []) (m : RegexMatcher)
    (h : words ws = .ok m) (source : String) (offset : Nat) (context : σ)
    (hboundary : Span.isBoundary source offset = true) :
    (m.toMatcher : Matcher σ).accepts source offset = true ∧
    ((m.toMatcher : Matcher σ).find source offset context).context = context ∧
    ((m.toMatcher : Matcher σ).find source offset context).result
      = .ok ((ws.find? (findsWord source offset)).map fun w =>
          ⟨offset, offset + byteLength w.toList⟩) := by
  refine ⟨(reliable_toMatcher m).accepts source offset hboundary, rfl, ?_⟩
  rw [← span?_words hne h hboundary]
  rfl

/-- Where words begin with each other, the first one in the list is found and not the
    longest, unless it would have to end inside a longer one. -/
theorem find_words_overlapping :
    ∃ m, words ["if", "a.f", "iffy"] = .ok m ∧
      ((m.toMatcher : Matcher Unit).find "if" 0 ()).result = .ok (some ⟨0, 2⟩) ∧
      ((m.toMatcher : Matcher Unit).find "iffy" 0 ()).result = .ok (some ⟨0, 4⟩) ∧
      ((m.toMatcher : Matcher Unit).find "éa.f" 2 ()).result = .ok (some ⟨2, 5⟩) ∧
      ((m.toMatcher : Matcher Unit).find "abf" 0 ()).result = .ok none := by
  rcases exists_words ["if", "a.f", "iffy"] (by decide +kernel) with ⟨m, hm⟩
  have hfind := fun source offset =>
    find_words (σ := Unit) _ (List.cons_ne_nil _ _) m hm source offset ()
  refine ⟨m, hm, ?_, ?_, ?_, ?_⟩
  · exact (hfind "if" 0 (by decide +kernel)).2.2.trans (congrArg _ (by decide +kernel))
  · exact (hfind "iffy" 0 (by decide +kernel)).2.2.trans (congrArg _ (by decide +kernel))
  · exact (hfind "éa.f" 2 (by decide +kernel)).2.2.trans (congrArg _ (by decide +kernel))
  · exact (hfind "abf" 0 (by decide +kernel)).2.2.trans (congrArg _ (by decide +kernel))

end RegexMatcher

end Highlighter
