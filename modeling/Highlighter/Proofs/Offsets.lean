import Highlighter.Scan

/-!
# Byte offsets

What a byte offset says about a source, in terms of its characters.

A source is walked character by character and its bytes are counted, so an
offset is good for something only if the walk stops there. `CutAt` is the
relational form of that: the source falls in two parts and the first of them
has as many bytes as the offset says. An offset cuts a source in at most one
way, since every character has at least one byte, and `isBoundary_iff` says that
the offsets that cut it are exactly the character boundaries.

A valid span cuts its source twice. `isValidIn_iff` puts the two cuts together:
a source is what stands before the span, the piece itself, and the rest, and
`slice_of_append` says that the piece is what `Span.slice` gives.

## Main definitions

* `CutAt`: a source in two parts, the first as long as an offset.
* `charsLeft`: the number of characters behind an offset.

## Theorems

* `byteLength_append`: Lengths in bytes add up.
* `byteLength_eq_zero_iff`: Only the empty text has no bytes.
* `byteLength_cons_eq_succ`: A length as the walks look at it.
* `afterBytes?_append`: The walk over the first part gives the second.
* `afterBytes?_eq_some`: A walk that stops has gone over a first part.
* `takeBytes_append`: The characters of the first part.
* `isBoundary_iff`: The boundaries are the offsets that cut a source.
* `CutAt.unique`: An offset cuts a source in one way only.
* `CutAt.le_sourceLength`: An offset that cuts a source is inside it.
* `CutAt.rest_ne_nil`: Something stands behind an offset before the end.
* `CutAt.length_lt`: Of two cuts, less stands behind the later one.
* `CutAt.charsLeft_eq`: Counting the characters behind a cut.
* `isValidIn_iff`: A valid span cuts a piece out of its source.
* `slice_of_append`: That piece is the slice.
-/

namespace Highlighter

@[simp]
theorem byteLength_nil : byteLength [] = 0 := rfl

@[simp]
theorem byteLength_cons (c : Char) (cs : List Char) :
    byteLength (c :: cs) = c.utf8Size + byteLength cs := rfl

@[simp]
theorem byteLength_append (cs ds : List Char) :
    byteLength (cs ++ ds) = byteLength cs + byteLength ds := by
  induction cs with
  | nil => rw [List.nil_append, byteLength_nil, Nat.zero_add]
  | cons c cs ih => rw [List.cons_append, byteLength_cons, byteLength_cons, ih, Nat.add_assoc]

theorem byteLength_eq_zero_iff (cs : List Char) : byteLength cs = 0 ↔ cs = [] := by
  cases cs with
  | nil => simp only [byteLength_nil]
  | cons c cs =>
      have hc := c.utf8Size_pos
      simp only [byteLength_cons, reduceCtorEq, iff_false]
      omega

/-- The walks look at the number of bytes first, and at a character only if
    there is one left. So the length of a text is taken apart in the same way. -/
theorem byteLength_cons_eq_succ (c : Char) (cs : List Char) :
    ∃ k, byteLength (c :: cs) = k + 1 ∧ c.utf8Size ≤ k + 1 ∧ k + 1 - c.utf8Size = byteLength cs := by
  have hc := c.utf8Size_pos
  have hlen := byteLength_cons c cs
  refine ⟨byteLength (c :: cs) - 1, ?_, ?_, ?_⟩
  · omega
  · omega
  · omega

/-! ## Walking over a first part -/

theorem afterBytes?_append (before rest : List Char) :
    afterBytes? (byteLength before) (before ++ rest) = some rest := by
  induction before with
  | nil => simp only [byteLength_nil, List.nil_append, afterBytes?]
  | cons c cs ih =>
      rcases byteLength_cons_eq_succ c cs with ⟨k, hk, hle, hrest⟩
      rw [hk, List.cons_append, afterBytes?, if_pos hle, hrest, ih]

theorem afterBytes?_eq_some (n : Nat) (cs rest : List Char) (h : afterBytes? n cs = some rest) :
    ∃ before, cs = before ++ rest ∧ byteLength before = n := by
  induction cs generalizing n with
  | nil =>
      cases n with
      | zero =>
          simp only [afterBytes?, Option.some.injEq] at h
          exact ⟨[], by rw [List.nil_append, h], byteLength_nil⟩
      | succ n => simp only [afterBytes?, reduceCtorEq] at h
  | cons c cs ih =>
      cases n with
      | zero =>
          simp only [afterBytes?, Option.some.injEq] at h
          exact ⟨[], by rw [List.nil_append, h], byteLength_nil⟩
      | succ n =>
          rw [afterBytes?] at h
          by_cases hc : c.utf8Size ≤ n + 1
          · rw [if_pos hc] at h
            rcases ih _ h with ⟨before, hcs, hlen⟩
            refine ⟨c :: before, by rw [hcs, List.cons_append], ?_⟩
            rw [byteLength_cons, hlen]
            omega
          · -- The walk would have to stop inside this character.
            rw [if_neg hc] at h
            simp only [reduceCtorEq] at h

theorem takeBytes_append (before rest : List Char) :
    takeBytes (byteLength before) (before ++ rest) = before := by
  induction before with
  | nil => simp only [byteLength_nil, List.nil_append, takeBytes]
  | cons c cs ih =>
      rcases byteLength_cons_eq_succ c cs with ⟨k, hk, _, hrest⟩
      rw [hk, List.cons_append, takeBytes, hrest, ih]

/-! ## Cutting a source -/

/-- A source falls in two parts at an offset: the first part has as many bytes
    as the offset says. -/
structure CutAt (source : String) (offset : Nat) (before rest : List Char) : Prop where
  /-- The two parts together are the source. -/
  whole : source.toList = before ++ rest
  /-- The length of the first part. -/
  length : byteLength before = offset

/-- The walk to an offset that cuts a source ends at the cut. -/
theorem CutAt.afterBytes? {source : String} {offset : Nat} {before rest : List Char}
    (h : CutAt source offset before rest) : afterBytes? offset source.toList = some rest := by
  rw [h.whole, ← h.length]
  exact afterBytes?_append before rest

theorem isBoundary_iff (source : String) (offset : Nat) :
    Span.isBoundary source offset = true ↔ ∃ before rest, CutAt source offset before rest := by
  rw [Span.isBoundary, Option.isSome_iff_exists]
  constructor
  · rintro ⟨rest, hrest⟩
    rcases afterBytes?_eq_some _ _ _ hrest with ⟨before, hwhole, hlen⟩
    exact ⟨before, rest, hwhole, hlen⟩
  · rintro ⟨before, rest, hcut⟩
    exact ⟨rest, hcut.afterBytes?⟩

/-- An offset cuts a source in one way only. -/
theorem CutAt.unique {source : String} {offset : Nat} {before before' rest rest' : List Char}
    (h : CutAt source offset before rest) (h' : CutAt source offset before' rest') :
    before = before' ∧ rest = rest' := by
  have hrest : rest = rest' := by
    have hsome : some rest = some rest' := by rw [← h.afterBytes?, h'.afterBytes?]
    exact Option.some.inj hsome
  have hwhole : before ++ rest = before' ++ rest' := by rw [← h.whole, h'.whole]
  rw [hrest] at hwhole
  exact ⟨List.append_cancel_right hwhole, hrest⟩

/-- The length of a source is what stands before a cut and what stands behind
    it. -/
theorem CutAt.sourceLength_eq {source : String} {offset : Nat} {before rest : List Char}
    (h : CutAt source offset before rest) : sourceLength source = offset + byteLength rest := by
  rw [sourceLength, h.whole, byteLength_append, h.length]

theorem CutAt.le_sourceLength {source : String} {offset : Nat} {before rest : List Char}
    (h : CutAt source offset before rest) : offset ≤ sourceLength source := by
  rw [h.sourceLength_eq]
  omega

/-- Something stands behind an offset before the end. -/
theorem CutAt.rest_ne_nil {source : String} {offset : Nat} {before rest : List Char}
    (h : CutAt source offset before rest) (hlt : offset < sourceLength source) : rest ≠ [] := by
  intro hnil
  rw [h.sourceLength_eq, hnil, byteLength_nil] at hlt
  omega

/-- The cut moves over what comes next. -/
theorem CutAt.move {source : String} {offset : Nat} {before piece rest : List Char}
    (h : CutAt source offset before (piece ++ rest)) :
    CutAt source (offset + byteLength piece) (before ++ piece) rest where
  whole := by rw [h.whole, List.append_assoc]
  length := by rw [byteLength_append, h.length]

/-- Of two cuts, less stands behind the later one. -/
theorem CutAt.length_lt {source : String} {offset offset' : Nat}
    {before rest before' rest' : List Char} (h : CutAt source offset before rest)
    (h' : CutAt source offset' before' rest') (hlt : offset < offset') :
    rest'.length < rest.length := by
  have hwhole : before ++ rest = before' ++ rest' := by rw [← h.whole, h'.whole]
  have hlen : before.length + rest.length = before'.length + rest'.length := by
    rw [← List.length_append, hwhole, List.length_append]
  rcases List.append_eq_append_iff.mp hwhole with ⟨piece, hb, hr⟩ | ⟨piece, hb, hr⟩
  · rcases piece with _ | ⟨c, cs⟩
    · -- The first parts would be the same, and so would the offsets.
      rw [List.append_nil] at hb
      rw [← h.length, ← h'.length, hb] at hlt
      omega
    · rw [hr, List.length_append, List.length_cons]
      omega
  · -- Then the second offset would be the earlier one.
    rw [← h.length, ← h'.length, hb, byteLength_append] at hlt
    omega

/-- The start of a source is a cut. -/
theorem cutAt_zero (source : String) : CutAt source 0 [] source.toList where
  whole := by rw [List.nil_append]
  length := byteLength_nil

/-- The number of characters behind an offset. -/
def charsLeft (source : String) (offset : Nat) : Nat :=
  ((afterBytes? offset source.toList).getD []).length

theorem CutAt.charsLeft_eq {source : String} {offset : Nat} {before rest : List Char}
    (h : CutAt source offset before rest) : charsLeft source offset = rest.length := by
  rw [charsLeft, h.afterBytes?, Option.getD_some]

theorem charsLeft_zero (source : String) : charsLeft source 0 = source.length := by
  rw [(cutAt_zero source).charsLeft_eq, String.length_toList]

/-! ## Pieces -/

theorem slice_of_append (source : String) (span : Span) (before piece rest : List Char)
    (hcut : CutAt source span.start before (piece ++ rest))
    (hstop : span.stop = span.start + byteLength piece) :
    span.slice source = String.ofList piece := by
  have hlen : span.length = byteLength piece := by
    rw [Span.length, hstop]
    omega
  rw [Span.slice, hcut.afterBytes?, hlen]
  simp only [takeBytes_append]

/-- A valid span cuts a piece out of its source. -/
theorem isValidIn_iff (source : String) (span : Span) :
    span.isValidIn source = true ↔ ∃ before piece rest,
      CutAt source span.start before (piece ++ rest) ∧
        span.stop = span.start + byteLength piece := by
  simp only [Span.isValidIn, Bool.and_eq_true, decide_eq_true_eq, isBoundary_iff]
  constructor
  · rintro ⟨⟨hle, before, rest, hstart⟩, before', rest', hstop⟩
    -- Both cuts are cuts of one source, and the first part of the earlier one is shorter.
    have hwhole : before ++ rest = before' ++ rest' := by rw [← hstart.whole, hstop.whole]
    rcases List.append_eq_append_iff.mp hwhole with ⟨piece, hb, hr⟩ | ⟨piece, hb, hr⟩
    · refine ⟨before, piece, rest', ⟨by rw [hstart.whole, hr], hstart.length⟩, ?_⟩
      rw [← hstop.length, ← hstart.length, hb, byteLength_append]
    · -- The later cut is not behind the earlier one, so they are the same.
      have hnil : piece = [] := by
        rw [← byteLength_eq_zero_iff]
        have hlen := hstart.length
        rw [hb, byteLength_append, hstop.length] at hlen
        omega
      rw [hnil, List.append_nil] at hb
      refine ⟨before, [], rest, ⟨hstart.whole, hstart.length⟩, ?_⟩
      rw [← hstop.length, ← hstart.length, hb, byteLength_nil, Nat.add_zero]
  · rintro ⟨before, piece, rest, hcut, hstop⟩
    refine ⟨⟨by omega, before, piece ++ rest, hcut⟩, before ++ piece, rest, ?_⟩
    rw [hstop]
    exact hcut.move

end Highlighter
