import Highlighter.Proofs.Scan.Ending
import Highlighter.Proofs.Scan.Extension

/-!
# The offsets that matchers are asked about

Where the calls of a scan are made, and that they go forward.

A matcher is handed an offset and may slice the source there, as the matcher of
any one character does. So it matters which offsets there can be. A pattern is
asked at the cursor while a character stands there, and the cursor is the end of
the token that was given last. These two facts are about single pulls and follow
from `AskedAt` and from the track of the scan, whatever spans were reported.

That calls go forward is about two pulls. The cursor never goes back, but it may
stay where it is, since an empty match in place leaves it. Then the next pull
recovers the character there, so a pull that asks is separated from the next one
that asks by a step over at least one character. `Past` is the invariant behind
this: once patterns were asked at an offset, the cursor has left it, or the
character there is about to be recovered, or the scan is over. A step that asks
leads into it, every step keeps it, and in none of the three cases are patterns
asked at the offset again.

## Main definitions

* `AsksAt`: A pull that asks a pattern at an offset.
* `LastEndsAt`: The item before a pull is a token that ends at an offset.
* `CharAt`: A character can be cut out of a source at an offset.
* `Past`: Nothing is asked any more up to an offset.

## Theorems

* `charAt_of_cut`: A character stands at each boundary before the end.
* `AsksAt.askedAt`: Patterns are asked at the cursor.
* `Step.cursor_le`: The cursor never goes back.
* `Step.past_of_scanning`, `Step.past`: Where patterns were asked, none are asked
  again.
* `AsksAt.lt`: Offsets grow from one pull that asks to the next.
* `AsksAt.lastEndsAt`: Patterns are asked where the last token ends.
* `asksAt_forward`: Matchers are asked at characters, behind the last token and
  always further on.
-/

namespace Highlighter

/-- A character stands at an offset of a source, which is thus a boundary before
    the end, and it can be cut out of the source there. -/
structure CharAt (source : String) (offset : Nat) : Prop where
  /-- The offset is before the end. -/
  inside : offset < sourceLength source
  /-- The rest of the source is a slice. -/
  boundary : Span.isBoundary source offset = true
  /-- Its first character is a slice too. It is the match of any one character and
      the text of an unmatched token. -/
  char : ∃ c : Char, (⟨offset, offset + c.utf8Size⟩ : Span).isValidIn source = true ∧
    charSpanAt? source offset = some ⟨offset, offset + c.utf8Size⟩ ∧
    unmatchedAt source offset = ⟨TokenType.unmatched, String.ofList [c], offset⟩

/-- A character stands at each boundary before the end. -/
theorem charAt_of_cut {source : String} {offset : Nat}
    (hcut : ∃ before rest, CutAt source offset before rest)
    (hlt : offset < sourceLength source) : CharAt source offset where
  inside := hlt
  boundary := (isBoundary_iff source offset).mpr hcut
  char := by
    rcases hcut with ⟨before, rest, hcut⟩
    rcases Scanner.unmatchedAt_eq hcut hlt with ⟨c, cs, hrest, htoken⟩
    rw [hrest] at hcut
    refine ⟨c, (isValidIn_iff source _).mpr ⟨before, [c], cs, hcut, rfl⟩, ?_, htoken⟩
    simp only [charSpanAt?, hcut.afterBytes?]

namespace Scanner

variable {σ : Type}

/-! ## Single pulls -/

/-- The pull that comes after a number of others asks a pattern at an offset. -/
def AsksAt (s : Scanner σ) (source : String) (context : σ) (n offset : Nat) : Prop :=
  ∃ index left, .asked index offset left ∈ s.callsOf source (s.stateAfter source n { context })

/-- The item before a pull is a token, and it ends at an offset. Its end is also
    computed right if the source fits the range of offsets. -/
def LastEndsAt (s : Scanner σ) (source : String) (context : σ) (n offset : Nat) : Prop :=
  ∃ m t, n = m + 1 ∧ s.answer source { context } m = some (.ok t) ∧
    t.position + byteLength t.text.toList = offset ∧
    (sourceLength source < offsetCount → t.endPosition = offset)

/-- Patterns are asked at the cursor, with a character ahead. -/
theorem AsksAt.askedAt {s : Scanner σ} {source : String} {context : σ} {n offset : Nat}
    (h : s.AsksAt source context n offset) :
    offset = (s.stateAfter source n { context }).cursor ∧
      (s.stateAfter source n { context }).phase = .scanning ∧
      (s.stateAfter source n { context }).cursor < sourceLength source := by
  rcases h with ⟨index, left, hcall⟩
  rcases mem_callsOf s source _ _ hcall with hasked | ⟨t, left', hshown, _⟩
  · rcases hasked.call_eq with ⟨i, p, left', hcall_eq, _⟩
    rw [Call.asked.injEq] at hcall_eq
    exact ⟨hcall_eq.2.1, hasked.scanning, hasked.inside⟩
  · simp only [reduceCtorEq] at hshown

theorem AsksAt.charAt {s : Scanner σ} {source : String} {context : σ} {n offset : Nat}
    (h : s.AsksAt source context n offset) : CharAt source offset := by
  rcases h.askedAt with ⟨hoffset, _, hlt⟩
  rw [hoffset]
  exact charAt_of_cut (onTrack_stateAfter s source context n).cut hlt

/-- Patterns are asked where the last token ends, which may be the start
    token. -/
theorem AsksAt.lastEndsAt {s : Scanner σ} {source : String} {context : σ} {n offset : Nat}
    (h : s.AsksAt source context n offset) : s.LastEndsAt source context n offset := by
  rcases h.askedAt with ⟨hoffset, hphase, _⟩
  cases n with
  | zero =>
      -- No pattern is asked before the start token.
      simp only [stateAfter, reduceCtorEq] at hphase
  | succ m =>
      have hafter : (s.stateAfter source (m + 1) { context }).phase ≠ .done := by
        rw [hphase]
        decide
      rcases exists_step_stateAfter (phase_ne_done_of_succ hafter) with ⟨item, hitem, hstep⟩
      rcases item with e | t
      · exact absurd hstep.done_of_error hafter
      · have hplace := hstep.placed (onTrack_stateAfter s source context m)
        refine ⟨m, t, rfl, hitem, ?_, fun fits => ?_⟩
        · rw [hoffset, hplace.stop_eq]
        · rw [hoffset, hplace.endPosition_eq fits]

/-! ## Going forward -/

/-- The cursor never goes back. -/
theorem Step.cursor_le {s : Scanner σ} {source : String} {st st' : ScanState σ} {item : ScanItem}
    (h : Step s source st item st') (htrack : OnTrack source st) : st.cursor ≤ st'.cursor := by
  rcases item with e | t
  · -- An error leaves the cursor where it is.
    cases h with
    | fails | rejects => exact Nat.le_refl _
  · have hplace := h.placed htrack
    have hstart := hplace.start_le
    rw [hplace.stop_eq]
    omega

/-- Nothing is asked any more at an offset or before it. -/
inductive Past (offset : Nat) (st : ScanState σ) : Prop where
  /-- The cursor has left the offset. -/
  | moved (h : offset < st.cursor)
  /-- The character at the offset is about to be recovered. -/
  | recovering (hcursor : st.cursor = offset) (hphase : st.phase = .recover)
  /-- The scan is over. -/
  | ended (h : st.phase = .done)

/-- A step that may ask patterns is the last one to do so at its offset. -/
theorem Step.past_of_scanning {s : Scanner σ} {source : String} {st st' : ScanState σ}
    {item : ScanItem} (h : Step s source st item st') (htrack : OnTrack source st)
    (hphase : st.phase = .scanning) : Past st.cursor st' := by
  rcases htrack.cut with ⟨before, rest, hcut⟩
  cases h with
  | opens | recovers => simp only [reduceCtorEq] at hphase
  | ends | fails | rejects => exact .ended rfl
  | finds cursor context _ p _ answer span hlt hfirst hres hfits =>
      by_cases hrecover : phaseAfter cursor span = .recover
      · exact .recovering ((phaseAfter_eq_recover_iff cursor span).mp hrecover).2 hrecover
      · exact .moved (lt_stop_of_phaseAfter hfits hrecover)
  | skips cursor context hlt hrefused => exact .moved (lt_unmatchedAt hcut hlt)

/-- Every step keeps behind what is behind. -/
theorem Step.past {s : Scanner σ} {source : String} {st st' : ScanState σ} {item : ScanItem}
    {offset : Nat} (h : Step s source st item st') (htrack : OnTrack source st)
    (hpast : Past offset st) : Past offset st' := by
  rcases htrack.cut with ⟨before, rest, hcut⟩
  cases hpast with
  | moved hmoved => exact .moved (Nat.lt_of_lt_of_le hmoved (h.cursor_le htrack))
  | recovering hcursor hphase =>
      -- The only step from here goes over the character.
      cases h with
      | opens | ends | fails | rejects | finds | skips => simp only [reduceCtorEq] at hphase
      | recovers cursor context =>
          rw [← hcursor]
          exact .moved (lt_unmatchedAt hcut (htrack.ahead rfl))
  | ended hdone =>
      have hpull := h.pull_eq
      rw [pull_of_done s source st hdone] at hpull
      simp only [Prod.mk.injEq, reduceCtorEq, false_and] at hpull

/-- Offsets never go back. -/
theorem AsksAt.le {s : Scanner σ} {source : String} {context : σ} {m n offset offset' : Nat}
    (h : s.AsksAt source context m offset) (h' : s.AsksAt source context n offset') (hle : m ≤ n) :
    offset ≤ offset' := by
  rw [h.askedAt.1, h'.askedAt.1]
  exact stateAfter_induction
    (motive := fun st => (s.stateAfter source m { context }).cursor ≤ st.cursor)
    (fun st item st' htrack hstep hbehind => Nat.le_trans hbehind (hstep.cursor_le htrack))
    hle (Nat.le_refl _)

/-- Offsets grow from one pull that asks to the next. -/
theorem AsksAt.lt {s : Scanner σ} {source : String} {context : σ} {m n offset offset' : Nat}
    (h : s.AsksAt source context m offset) (h' : s.AsksAt source context n offset') (hlt : m < n) :
    offset < offset' := by
  rcases h.askedAt with ⟨hoffset, hphase, _⟩
  rcases h'.askedAt with ⟨hoffset', hphase', _⟩
  have hnext : Past offset (s.stateAfter source (m + 1) { context }) := by
    have hgoing : (s.stateAfter source m { context }).phase ≠ .done := by
      rw [hphase]
      decide
    rcases exists_step_stateAfter hgoing with ⟨item, _, hstep⟩
    rw [hoffset]
    exact hstep.past_of_scanning (onTrack_stateAfter s source context m) hphase
  have hpast : Past offset (s.stateAfter source n { context }) :=
    stateAfter_induction (fun _ _ _ htrack hstep => hstep.past htrack) hlt hnext
  -- The later pull asks, so nothing is recovered and the scan is not over.
  rw [hoffset']
  cases hpast with
  | moved hmoved => exact hmoved
  | recovering _ hrecover => simp only [hphase', reduceCtorEq] at hrecover
  | ended hdone => simp only [hphase', reduceCtorEq] at hdone

/-- Matchers are asked at characters of the source, where the last token ends, and
    always further on. The same holds of the characters that the scan itself cuts
    out of the source, to give them as unmatched. -/
theorem asksAt_forward (s : Scanner σ) (source : String) (context : σ) :
    (∀ n offset, s.AsksAt source context n offset →
      CharAt source offset ∧ (Matcher.anyChar : Matcher σ).accepts source offset = true ∧
        s.LastEndsAt source context n offset) ∧
    (∀ m n offset offset', s.AsksAt source context m offset → s.AsksAt source context n offset' →
      (m ≤ n → offset ≤ offset') ∧ (m < n → offset < offset')) ∧
    ∀ n, (s.stateAfter source n { context }).phase = .recover ∨
        s.Unanswered source (s.stateAfter source n { context }) →
      CharAt source (s.stateAfter source n { context }).cursor := by
  refine ⟨fun n offset h => ?_, fun m n offset offset' h h' => ⟨h.le h', h.lt h'⟩,
    fun n h => ?_⟩
  · exact ⟨h.charAt, h.charAt.boundary, h.lastEndsAt⟩
  · have htrack := onTrack_stateAfter s source context n
    rcases h with hrecover | hunanswered
    · exact charAt_of_cut htrack.cut (htrack.ahead hrecover)
    · exact charAt_of_cut htrack.cut hunanswered.inside

/-- A pattern is asked at the start, where it finds the empty text, and then not
    again before the second character. -/
theorem asksAt_forward_onceEmpty :
    onceEmpty.AsksAt "äb" 0 1 0 ∧ onceEmpty.AsksAt "äb" 0 3 2 ∧
    (onceEmpty.stateAfter "äb" 2 { context := 0 }).phase = .recover ∧
    sourceLength "äb" < offsetCount ∧
    (CharAt "äb" 0 ∧ (Matcher.anyChar : Matcher Nat).accepts "äb" 0 = true ∧
      onceEmpty.LastEndsAt "äb" 0 1 0) ∧
    ((1 ≤ 3 → 0 ≤ 2) ∧ (1 < 3 → 0 < 2)) ∧
    CharAt "äb" (onceEmpty.stateAfter "äb" 2 { context := 0 }).cursor := by
  have hfirst : onceEmpty.AsksAt "äb" 0 1 0 := ⟨0, 0, .head _⟩
  have hsecond : onceEmpty.AsksAt "äb" 0 3 2 := ⟨0, 1, .head _⟩
  have hrecover : (onceEmpty.stateAfter "äb" 2 { context := 0 }).phase = .recover := by rfl
  have hall := asksAt_forward onceEmpty "äb" 0
  exact ⟨hfirst, hsecond, hrecover, by decide, hall.1 1 0 hfirst, hall.2.1 1 3 0 2 hfirst hsecond,
    hall.2.2 2 (Or.inl hrecover)⟩

end Scanner

end Highlighter
