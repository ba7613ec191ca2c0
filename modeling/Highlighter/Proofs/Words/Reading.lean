import Highlighter.Matcher
import Highlighter.Proofs.Regex.Choice

/-!
# Reading the pattern of a word list

What the pattern of a list of words is read as.

The words of a list are escaped, joined by bars and put into a group. Reading undoes
all of it. A character with a meaning of its own stands behind a backslash and is read
as itself, any other one stands for itself, and a bar or a parenthesis that was not
escaped is one that was put there. So each word is read as the sequence of its
characters, with the edge of a word behind it where the word needs one, and the list
as the choice between its words in their order.

Reading takes a step for each character of a word, a step for the edge and a step for
each bar, and the pattern is at least that long. The brackets of the group take the
two steps that are left. Three levels are nested at most, far fewer than may be.

## Main definitions

* `RegexMatcher.wordParts`, `RegexMatcher.wordShape`: what a word is read as.
* `RegexMatcher.listShape`: what a list of words is read as.

## Theorems

* `readBody?_plain`, `readBody?_escaped`, `readBody?_escape`: An escaped text is read
  as its characters.
* `RegexMatcher.readBody?_alternatives`: Words with bars between them are read as the
  branches of a choice.
* `RegexMatcher.read?_wordsPattern`: The pattern of a list is read as its shape.
* `RegexMatcher.words_nil`: The list without words is read like the one of the empty
  word.
* `RegexMatcher.words_eq_ok`: The regular expression of a list.
-/

namespace Highlighter

/-! ## Escaped texts -/

theorem Flags.skip_default (cs : List Char) : ({} : Flags).skip cs = cs := rfl

/-- Behind a backslash, a character with a meaning of its own is only itself. -/
theorem Atom.ofEscape?_of_mem_metaChars (octal : Bool) (f : Flags) {c : Char}
    (hc : c ∈ metaChars) (cs : List Char) :
    ofEscape? octal f (c :: cs) = some (.literal c, cs) := by
  simp only [metaChars, List.mem_cons, List.not_mem_nil, or_false] at hc
  rcases hc with rfl | rfl | rfl | rfl | rfl | rfl | rfl | rfl | rfl | rfl | rfl | rfl | rfl | rfl
    | rfl | rfl | rfl | rfl <;> rfl

/-- A character that stands for itself, as a member of a sequence. -/
def Item.ofChar (c : Char) : Item := .piece ⟨.literal [c], 0⟩

/-- The edge of a word, as a member of a sequence. -/
def Item.wordEdge : Item := .piece ⟨.look (.word .boundary false), 0⟩

section

variable (octal : Bool) (n : Nat) {st : ReadState} (hst : st.flags = {}) (branches : List Piece)
  (items : List Item)

include hst

/-- A character without a meaning of its own is read as itself. -/
theorem readBody?_plain {c : Char} (hc : c ∉ metaChars) (cs : List Char) :
    readBody? octal (n + 1) st branches items (c :: cs)
      = readBody? octal n st branches (.ofChar c :: items) cs := by
  rw [readBody?, hst, Flags.skip_default]
  -- All cases but the first and the last are about characters with a meaning of their own.
  split <;> first | (next h => cases h; exact absurd (by decide) hc) | skip
  · next h => cases h
  · next h =>
      cases h
      rfl

/-- What a backslash begins is read on its own. -/
theorem readBody?_backslash (cs : List Char) :
    readBody? octal (n + 1) st branches items ('\\' :: cs)
      = (Atom.ofEscape? octal {} cs).bind fun read =>
          readBody? octal n st branches (.piece (.ofAtom {} read.1) :: items) read.2 := by
  rcases st with ⟨flags, groups, names⟩
  cases hst
  rfl

/-- An escaped character is read as itself. -/
theorem readBody?_escaped {c : Char} (hc : c ∈ metaChars) (cs : List Char) :
    readBody? octal (n + 1) st branches items ('\\' :: c :: cs)
      = readBody? octal n st branches (.ofChar c :: items) cs := by
  rw [readBody?_backslash octal n hst, Atom.ofEscape?_of_mem_metaChars octal {} hc]
  rfl

/-- An escaped text is read as its characters. -/
theorem readBody?_escape (w cs : List Char) :
    readBody? octal (w.length + n) st branches items (Regex.escape w ++ cs)
      = readBody? octal n st branches ((w.map .ofChar).reverse ++ items) cs := by
  induction w generalizing items with
  | nil => rw [List.length_nil, Nat.zero_add]; rfl
  | cons c w ih =>
      have hlength : (c :: w).length + n = w.length + n + 1 := by
        rw [List.length_cons]
        omega
      have hescape : Regex.escape (c :: w)
          = (if metaChars.contains c then ['\\', c] else [c]) ++ Regex.escape w := rfl
      rw [hlength, hescape, List.map_cons, List.reverse_cons, List.append_assoc, List.append_assoc,
        List.singleton_append]
      by_cases hc : c ∈ metaChars
      · rw [if_pos (List.contains_iff_mem.mpr hc)]
        exact (readBody?_escaped octal _ hst branches items hc _).trans (ih _)
      · rw [if_neg (mt List.contains_iff_mem.mp hc)]
        exact (readBody?_plain octal _ hst branches items hc _).trans (ih _)

/-- The edge of a word is read as such, if no brace makes it another kind of edge. -/
theorem readBody?_wordEdge {c : Char} (hc : c ≠ '\x7b') (cs : List Char) :
    readBody? octal (n + 1) st branches items ('\\' :: 'b' :: c :: cs)
      = readBody? octal n st branches (.wordEdge :: items) (c :: cs) := by
  have hatom : Atom.ofEscape? octal {} ('b' :: c :: cs)
      = some (.look (.word .boundary false), c :: cs) := by
    have hplain : Atom.ofEscape? octal {} ('b' :: c :: cs) = Atom.ofBoundary? {} (c :: cs) := rfl
    rw [hplain, Atom.ofBoundary?]
    · rfl
    · exact fun rest h => hc (List.cons.inj h).1
  rw [readBody?_backslash octal n hst, hatom]
  rfl

theorem readBody?_bar (cs : List Char) :
    readBody? octal (n + 1) st branches items ('|' :: cs)
      = readBody? octal n st (.ofItems items :: branches) [] cs := by
  rcases st with ⟨flags, groups, names⟩
  cases hst
  rfl

theorem readBody?_close (cs : List Char) :
    readBody? octal (n + 1) st branches items (')' :: cs)
      = some (.ofBranches (.ofItems items :: branches), st, ')' :: cs) := by
  rcases st with ⟨flags, groups, names⟩
  cases hst
  rfl

theorem readBody?_end :
    readBody? octal (n + 1) st branches items []
      = some (.ofBranches (.ofItems items :: branches), st, []) := by
  rcases st with ⟨flags, groups, names⟩
  cases hst
  rfl

end

namespace Piece

theorem shape_join (build : List Shape → Shape) (p q : Piece) (ps : List Piece) :
    (join build (p :: q :: ps)).shape = build ((p :: q :: ps).map shape) := rfl

theorem foldl_max_le {xs : List Nat} {a d : Nat} (ha : a ≤ d) (h : ∀ x ∈ xs, x ≤ d) :
    xs.foldl Nat.max a ≤ d := by
  induction xs generalizing a with
  | nil => exact ha
  | cons x xs ih =>
      rw [List.forall_mem_cons] at h
      exact ih (Nat.max_le.mpr ⟨ha, h.1⟩) h.2

/-- Joining nests one level more at most. -/
theorem depth_join_le (build : List Shape → Shape) {ps : List Piece} {d : Nat}
    (h : ∀ p ∈ ps, p.depth ≤ d) : (join build ps).depth ≤ d + 1 := by
  unfold join
  split
  · exact Nat.zero_le _
  · next p => exact Nat.le_succ_of_le (h p List.mem_cons_self)
  · refine Nat.succ_le_succ (foldl_max_le (Nat.zero_le d) fun x hx => ?_)
    rcases List.mem_map.mp hx with ⟨p, hp, rfl⟩
    exact h p hp

end Piece

/-! ## Words -/

namespace RegexMatcher

/-- The members of the sequence that a word is read as. -/
def wordItems (w : List Char) : List Item :=
  w.map .ofChar ++ if endsInWord w then [.wordEdge] else []

/-- The parts that a word is read as. -/
def wordParts (w : List Char) : List Shape :=
  (w.map fun c => .literal [c]) ++ if endsInWord w then [.look (.word .boundary false)] else []

/-- The shape of a word. -/
def wordShape (w : List Char) : Shape := .sequence (wordParts w)

/-- The shape of a list of words. -/
def listShape (ws : List String) : Shape := .choice (ws.map fun w => wordShape w.toList)

/-- The piece that a word is read as. -/
def wordPiece (w : List Char) : Piece := .ofItems (wordItems w).reverse

theorem length_le_escape (w : List Char) : w.length ≤ (Regex.escape w).length := by
  induction w with
  | nil => exact Nat.le_refl 0
  | cons c w ih =>
      have hescape : Regex.escape (c :: w)
          = (if metaChars.contains c then ['\\', c] else [c]) ++ Regex.escape w := rfl
      rw [hescape, List.length_append, List.length_cons]
      split <;> simp only [List.length_cons, List.length_nil] <;> omega

/-- Reading a word takes no more steps than its pattern has characters. -/
theorem length_wordItems_le (w : List Char) : (wordItems w).length ≤ (wordPattern w).length := by
  have hescape := length_le_escape w
  unfold wordItems wordPattern
  split <;> simp only [List.length_append, List.length_map, List.length_cons, List.length_nil] <;>
    omega

theorem readBody?_word (octal : Bool) (n : Nat) {st : ReadState} (hst : st.flags = {})
    (branches : List Piece) (w : List Char) {c : Char} (hc : c ≠ '\x7b') (cs : List Char) :
    readBody? octal ((wordItems w).length + n) st branches [] (wordPattern w ++ c :: cs)
      = readBody? octal n st branches (wordItems w).reverse (c :: cs) := by
  unfold wordItems wordPattern
  by_cases hend : endsInWord w = true
  · have hlength : (w.map Item.ofChar ++ [Item.wordEdge]).length + n = w.length + (n + 1) := by
      simp only [List.length_append, List.length_map, List.length_singleton]
      omega
    rw [if_pos hend, if_pos hend, hlength, List.append_assoc, readBody?_escape octal _ hst,
      List.reverse_append, List.append_nil]
    exact readBody?_wordEdge octal n hst branches _ hc cs
  · rw [if_neg hend, if_neg hend, List.append_nil, List.length_map, readBody?_escape octal _ hst,
      List.append_nil]

/-- Words with bars between them are read as the branches of a choice. -/
theorem readBody?_alternatives (octal : Bool) {st : ReadState} (hst : st.flags = {})
    (ws : List (List Char)) (hne : ws ≠ []) (branches : List Piece) (cs : List Char) (n : Nat)
    (hn : (alternatives (ws.map wordPattern)).length < n) :
    readBody? octal n st branches [] (alternatives (ws.map wordPattern) ++ ')' :: cs)
      = some (.ofBranches ((ws.map wordPiece).reverse ++ branches), st, ')' :: cs) := by
  induction ws generalizing branches n with
  | nil => exact absurd rfl hne
  | cons w ws ih =>
      have hle := length_wordItems_le w
      cases ws with
      | nil =>
          have hpattern : alternatives ([w].map wordPattern) = wordPattern w := rfl
          rw [hpattern] at hn ⊢
          rcases Nat.exists_eq_add_of_lt (Nat.lt_of_le_of_lt hle hn) with ⟨k, hk⟩
          rw [hk, Nat.add_assoc, readBody?_word octal _ hst branches w (by decide),
            readBody?_close octal k hst]
          rfl
      | cons v vs =>
          have hpattern : alternatives ((w :: v :: vs).map wordPattern)
              = wordPattern w ++ '|' :: alternatives ((v :: vs).map wordPattern) := rfl
          rw [hpattern, List.length_append, List.length_cons] at hn
          have hlt : (wordItems w).length < n := by omega
          rcases Nat.exists_eq_add_of_lt hlt with ⟨k, hk⟩
          rw [hpattern, List.append_assoc, List.cons_append, hk, Nat.add_assoc,
            readBody?_word octal _ hst branches w (by decide), readBody?_bar octal k hst,
            ih (List.cons_ne_nil v vs) _ k (by omega), List.map_cons (l := v :: vs),
            List.reverse_cons, List.append_assoc]
          rfl

/-! ## The shape of a list -/

theorem wordParts_cases (w : List Char) :
    ∀ p ∈ wordParts w, (∃ cs, p = .literal cs) ∨ ∃ l, p = .look l := by
  intro p hp
  rcases List.mem_append.mp hp with hp | hp
  · rcases List.mem_map.mp hp with ⟨c, _, rfl⟩
    exact Or.inl ⟨[c], rfl⟩
  · split at hp
    · exact Or.inr ⟨_, List.mem_singleton.mp hp⟩
    · cases hp

theorem isStep_of_mem_wordParts {w : List Char} {p : Shape} (hp : p ∈ wordParts w) :
    p.isStep = true := by
  rcases wordParts_cases w p hp with ⟨cs, rfl⟩ | ⟨l, rfl⟩
  · rfl
  · rfl

theorem writtenOut_wordShape (w : List Char) : (wordShape w).WrittenOut := by
  refine Shape.writtenOut_sequence fun p hp => ?_
  rw [Shape.WrittenOut, Shape.parts_of_isStep (isStep_of_mem_wordParts hp),
    List.forall_mem_singleton]
  exact wordParts_cases w p hp

theorem map_shape_wordItems (w : List Char) :
    (wordItems w).map (fun i => i.toPiece.shape) = wordParts w := by
  unfold wordItems wordParts
  rw [List.map_append, List.map_map]
  split <;> rfl

theorem shape_wordPiece (w : List Char) : (wordPiece w).shape = wordShape w := by
  have hparts := map_shape_wordItems w
  rw [wordPiece, Piece.ofItems, List.reverse_reverse, wordShape, ← hparts]
  rcases hitems : wordItems w with _ | ⟨i, is⟩
  · rfl
  · rcases is with _ | ⟨j, js⟩
    · -- A part that is alone is not made a sequence.
      have hstep : i.toPiece.shape.isStep = true := by
        refine isStep_of_mem_wordParts (w := w) ?_
        rw [← hparts, hitems]
        exact List.mem_cons_self
      exact (Shape.sequence_singleton hstep).symm
    · rw [List.map_cons, List.map_cons, Piece.shape_join, List.map_cons, List.map_cons,
        List.map_map]
      rfl

theorem depth_wordPiece_le (w : List Char) : (wordPiece w).depth ≤ 1 := by
  refine Piece.depth_join_le _ fun p hp => ?_
  rw [List.reverse_reverse] at hp
  rcases List.mem_map.mp hp with ⟨i, hi, rfl⟩
  rcases List.mem_append.mp hi with hi | hi
  · rcases List.mem_map.mp hi with ⟨c, _, rfl⟩
    exact Nat.le_refl 0
  · split at hi
    · rw [List.mem_singleton.mp hi]
      exact Nat.le_refl 0
    · cases hi

/-- The piece that the words of a list are read as. -/
theorem shape_ofBranches_wordPiece {ws : List (List Char)} (hne : ws ≠ []) :
    (Piece.ofBranches (ws.map wordPiece).reverse).shape = .choice (ws.map wordShape) := by
  rw [Piece.ofBranches, List.reverse_reverse]
  rcases ws with _ | ⟨w, ws⟩
  · exact absurd rfl hne
  · rcases ws with _ | ⟨v, vs⟩
    · exact (shape_wordPiece w).trans (Shape.choice_singleton (writtenOut_wordShape w)).symm
    · rw [List.map_cons, List.map_cons, Piece.shape_join]
      simp only [List.map_cons, List.map_map, shape_wordPiece, Function.comp_def]

theorem depth_ofBranches_wordPiece_le (ws : List (List Char)) :
    (Piece.ofBranches (ws.map wordPiece).reverse).depth ≤ 2 := by
  refine Piece.depth_join_le _ fun p hp => ?_
  rw [List.reverse_reverse] at hp
  rcases List.mem_map.mp hp with ⟨w, _, rfl⟩
  exact depth_wordPiece_le w

/-- A group that is not numbered is read as what it holds. -/
theorem read?_group {cs : List Char} {p : Piece}
    (hbody : readBody? false (cs.length + 4) { flags := {} } [] [] (cs ++ [')'])
      = some (p, { flags := {} }, [')']))
    (hdepth : p.depth < 250) :
    Shape.read? {} ('(' :: '?' :: ':' :: (cs ++ [')'])) = some p.shape := by
  have hstart : GroupStart.read? {} ('?' :: ':' :: (cs ++ [')']))
      = some (.plain {}, cs ++ [')']) := rfl
  have hgroup : readBody? false (cs.length + 4 + 1) { flags := {} } [] []
      ('(' :: '?' :: ':' :: (cs ++ [')']))
        = some (⟨p.shape, p.depth + 1⟩, { flags := {} }, []) := by
    rw [readBody?]
    simp only [Flags.skip_default, hstart, ReadState.enter?, Option.bind_eq_bind,
      Option.bind_some, hbody]
    exact readBody?_end false _ rfl [] _
  have hlength : ('(' :: '?' :: ':' :: (cs ++ [')'])).length + 1 = cs.length + 4 + 1 := by
    simp only [List.length_cons, List.length_append, List.length_nil]
  rw [Shape.read?, hlength]
  simp only [hgroup]
  exact if_pos hdepth

/-- The pattern of a list of words is read as the shape of the list. -/
theorem read?_wordsPattern {ws : List String} (hne : ws ≠ []) :
    Shape.read? {} (wordsPattern ws).toList = some (listShape ws) := by
  have hpattern : (wordsPattern ws).toList = '(' :: '?' :: ':' ::
      (alternatives ((ws.map String.toList).map wordPattern) ++ [')']) := by
    rw [List.map_map]
    exact String.toList_ofList
  have hchars : ws.map String.toList ≠ [] := mt List.map_eq_nil_iff.mp hne
  have hflags : ({ flags := {} } : ReadState).flags = {} := rfl
  have hbody := readBody?_alternatives false hflags _ hchars [] []
    ((alternatives ((ws.map String.toList).map wordPattern)).length + 4) (by omega)
  have hdepth := depth_ofBranches_wordPiece_le (ws.map String.toList)
  rw [List.append_nil] at hbody
  rw [hpattern, read?_group hbody (by omega), shape_ofBranches_wordPiece hchars, List.map_map]
  rfl

/-- Nothing between the brackets is one word that is empty. -/
theorem words_nil : words [] = words [""] := rfl

/-- The regular expression of a list of words. -/
theorem words_eq_ok {ws : List String} (hne : ws ≠ []) {m : RegexMatcher} (h : words ws = .ok m) :
    m.group = 0 ∧ m.regex.code = (Code.ofShape (listShape ws)).1 ∧
      m.regex.labels = (Code.ofShape (listShape ws)).2 := by
  rw [words, compile, Regex.compile, read?_wordsPattern hne] at h
  by_cases hsmall : (listShape ws).isSmall = true
  · simp only [if_pos hsmall] at h
    split at h
    · rw [Except.ok.injEq] at h
      rw [← h]
      exact ⟨rfl, rfl, rfl⟩
    · cases h
  · simp only [if_neg hsmall, reduceCtorEq] at h

end RegexMatcher

end Highlighter
