import Highlighter.Proofs.Scan.Registration
import Highlighter.Proofs.Scan.Run

/-!
# The shape of a token stream

What a scan gives, whatever its patterns and its hook do.

A stream is framed: the start token comes first, and last comes either the end
token at the length of the source or one error. Everything in between is a token
that lies in the source, and no token begins before the one in front of it has
ended. The matchers are functions of any kind and may report any span, so none
of this is owed to them; it comes from the rules that the scan itself keeps.

The proof follows a complete run. `OnTrack` tells where each token lies, and the
invariant of the induction is that all later tokens begin at the cursor or
behind it. Only the types need more than the rules, namely that the scanner was
made by registration calls: a pattern could otherwise give a second start token.

A token keeps its position and its text, and its end is computed from the two in
the range of offsets. Every source in memory fits this range, and for such a source
`TokenPlace.endPosition_eq` says that the end is the sum.

## Main definitions

* `Interior`: What is known of a token between the first item and the last.

## Theorems

* `TokenPlace.endPosition_eq`: A token ends where its place ends.
* `TokenPlace.interior`: A token with a place in the source is an interior one.
* `Step.type_mem`: The types of the tokens that steps give.
* `Run.stream`: The part of a run after the start token.
* `answers_framed`: The shape of every token stream.
-/

namespace Highlighter

/-- What is known of a token between the first item of a scan and the last,
    where the patterns have the given types. -/
structure Interior (types : List String) (source : String) (t : Token) : Prop where
  /-- The token is a piece of the source, at its place. -/
  piece : ∃ before rest, source.toList = before ++ t.text.toList ++ rest ∧
    byteLength before = t.position ∧ byteLength (before ++ t.text.toList) = t.endPosition
  /-- It begins between two characters. -/
  boundary_position : Span.isBoundary source t.position = true
  /-- It ends between two characters. -/
  boundary_end : Span.isBoundary source t.endPosition = true
  /-- It ends inside the source. -/
  end_le : t.endPosition ≤ sourceLength source
  /-- Its text is the slice between its two ends. -/
  text_eq : t.text = (⟨t.position, t.endPosition⟩ : Span).slice source
  /-- It has the type of a pattern, or one of two types of the scan itself. -/
  type_mem : t.type ∈ types ∨ t.type = TokenType.unmatched ∨ t.type = TokenType.empty
  /-- It is neither a start token nor an end token. -/
  type_ne : t.type ≠ TokenType.start ∧ t.type ≠ TokenType.stop

namespace Scanner

variable {σ : Type}

/-- In a source that fits the range of offsets, a token ends where its place
    ends. -/
theorem TokenPlace.endPosition_eq {source : String} {start stop : Nat} {t : Token}
    (h : TokenPlace source start t stop) (fits : sourceLength source < offsetCount) :
    t.endPosition = stop := by
  rcases h.cut_stop with ⟨before, rest, hcut⟩
  have hle := hcut.le_sourceLength
  rw [h.stop_eq] at hle ⊢
  exact Token.endPosition_eq (by omega)

/-- A token that has a place in the source and a suitable type is an interior
    one. -/
theorem TokenPlace.interior {types : List String} {source : String} {start stop : Nat} {t : Token}
    (h : TokenPlace source start t stop) (fits : sourceLength source < offsetCount)
    (hmem : t.type ∈ types ∨ t.type = TokenType.unmatched ∨ t.type = TokenType.empty)
    (hne : t.type ≠ TokenType.start ∧ t.type ≠ TokenType.stop) : Interior types source t := by
  have hend := h.endPosition_eq fits
  -- The two cuts, at the position of the token and at its end.
  rcases h.cut with ⟨before, rest, hcut⟩
  rcases h.cut_stop with ⟨before', rest', hcut'⟩
  have hstop := h.stop_eq
  rw [← hend] at hcut' hstop
  exact
    { piece := ⟨before, rest, by rw [hcut.whole, List.append_assoc], hcut.length,
        by rw [byteLength_append, hcut.length, hstop]⟩
      boundary_position := (isBoundary_iff source _).mpr ⟨_, _, hcut⟩
      boundary_end := (isBoundary_iff source _).mpr ⟨_, _, hcut'⟩
      end_le := hcut'.le_sourceLength
      text_eq := by
        rw [slice_of_append source _ before t.text.toList rest hcut hstop, String.ofList_toList]
      type_mem := hmem
      type_ne := hne }

/-- The tokens of steps between the first and the last have the type of a
    pattern, or one of two types of the scan itself. -/
theorem Step.type_mem {s : Scanner σ} {source : String} {st st' : ScanState σ} {t : Token}
    (h : Step s source st (.ok t) st') (hstart : st.phase ≠ .start) (hdone : st'.phase ≠ .done) :
    t.type ∈ s.tokenTypes ∨ t.type = TokenType.unmatched ∨ t.type = TokenType.empty := by
  cases h with
  | opens cursor context => exact absurd rfl hstart
  | ends cursor context hend => exact absurd rfl hdone
  | finds cursor context before p after answer span hlt hfirst hres hfits =>
      rw [tokenAt_type]
      by_cases hmark : (span.isEmpty && s.markEmpty) = true
      · rw [if_pos hmark]
        exact Or.inr (Or.inr rfl)
      · rw [if_neg hmark]
        exact Or.inl (List.mem_map_of_mem hfirst.mem)
  | skips cursor context hlt hrefused => exact Or.inr (Or.inl rfl)
  | recovers cursor context => exact Or.inr (Or.inl rfl)

/-- A type that a token may have between the first item and the last is neither
    that of the start token nor that of the end token. -/
theorem TypesFree.ne_start_stop {s : Scanner σ} (h : s.TypesFree) {type : String}
    (hmem : type ∈ s.tokenTypes ∨ type = TokenType.unmatched ∨ type = TokenType.empty) :
    type ≠ TokenType.start ∧ type ≠ TokenType.stop := by
  rcases hmem with hmem | hmem | hmem
  · rcases List.mem_map.mp hmem with ⟨p, hp, htype⟩
    rw [← htype]
    exact ⟨(h.ne hp).1, (h.ne hp).2.1⟩
  · rw [hmem]
    decide
  · rw [hmem]
    decide

/-- A step that ends a scan gives its last item: the end token at the length of
    the source, or an error. -/
theorem Step.final_item {s : Scanner σ} {source : String} {st st' : ScanState σ}
    {item : ScanItem} (h : Step s source st item st') (htrack : OnTrack source st)
    (hdone : st'.phase = .done) :
    item = .ok (.stop (sourceLength source)) ∨ ∃ e, item = .error e := by
  rcases htrack.cut with ⟨before, rest, hcut⟩
  cases h with
  | ends cursor context hend =>
      have hle : cursor ≤ sourceLength source := hcut.le_sourceLength
      exact Or.inl (by rw [Nat.le_antisymm hle hend])
  | fails cursor context before p after answer e => exact Or.inr ⟨e, rfl⟩
  | rejects cursor context before p after answer span e => exact Or.inr ⟨e, rfl⟩
  | finds cursor context before p after answer span =>
      exact absurd hdone (phaseAfter_ne cursor span).2
  | opens | skips | recovers => simp only [reduceCtorEq] at hdone

/-- No step leads back to the start. -/
theorem Step.phase_ne_start {s : Scanner σ} {source : String} {st st' : ScanState σ}
    {item : ScanItem} (h : Step s source st item st') : st'.phase ≠ .start := by
  cases h with
  | finds cursor context before p after answer span => exact (phaseAfter_ne cursor span).1
  | opens | ends | fails | rejects | skips | recovers =>
      simp only [ne_eq, reduceCtorEq, not_false_eq_true]

/-- An error ends a scan. -/
theorem Step.done_of_error {s : Scanner σ} {source : String} {st st' : ScanState σ} {e : Error}
    (h : Step s source st (.error e) st') : st'.phase = .done := by
  cases h with
  | fails | rejects => rfl

/-- The part of a run after the start token. All its tokens begin at the cursor
    or behind it, which is what keeps them apart from the tokens before. -/
theorem Run.stream {s : Scanner σ} {source : String} {st last : ScanState σ}
    {items : List ScanItem} (h : Run s source st items last) (hfree : s.TypesFree)
    (fits : sourceLength source < offsetCount) (htrack : OnTrack source st)
    (hstart : st.phase ≠ .start) (hdone : st.phase ≠ .done) :
    ∃ (tokens : List Token) (final : ScanItem), items = tokens.map .ok ++ [final] ∧
      (final = .ok (.stop (sourceLength source)) ∨ ∃ e, final = .error e) ∧
      (∀ t ∈ tokens, Interior s.tokenTypes source t) ∧
      (∀ t ∈ tokens, st.cursor ≤ t.position) ∧
      tokens.Pairwise fun t u => t.endPosition ≤ u.position := by
  induction h with
  | finished st h => exact absurd h hdone
  | step st st' last item items hstep hrest ih =>
      by_cases hover : st'.phase = .done
      · -- This is the last step, and nothing follows it.
        rw [(hrest.eq_of_done hover).1]
        refine ⟨[], item, rfl, hstep.final_item htrack hover, ?_, ?_, List.Pairwise.nil⟩ <;>
          exact fun t ht => absurd ht List.not_mem_nil
      · rcases item with e | t
        · exact absurd hstep.done_of_error hover
        · have hplace := hstep.place htrack hstart hover
          have hmem := hstep.type_mem hstart hover
          have hend := hplace.endPosition_eq fits
          have hpos := hplace.start_le
          have hstop := hplace.stop_eq
          rcases ih (hstep.onTrack htrack) hstep.phase_ne_start hover with
            ⟨tokens, final, hitems, hfinal, hinterior, hbehind, hpair⟩
          refine ⟨t :: tokens, final, by rw [hitems]; rfl, hfinal, ?_, ?_, ?_⟩
          · exact List.forall_mem_cons.mpr
              ⟨hplace.interior fits hmem (hfree.ne_start_stop hmem), hinterior⟩
          · -- Later tokens are behind the new cursor, which is behind the old one.
            refine List.forall_mem_cons.mpr ⟨hpos, fun u hu => ?_⟩
            have hu' := hbehind u hu
            omega
          · refine List.Pairwise.cons (fun u hu => ?_) hpair
            rw [hend]
            exact hbehind u hu

/-- The shape of every token stream. What a scan gives, and what the pulls give
    one after the other, is the start token, tokens that lie in the source one
    behind the other, and at last the end token or an error; all further pulls
    give nothing. -/
theorem answers_framed (calls : List (Registration σ)) (source : String) (context : σ)
    (fits : sourceLength source < offsetCount) :
    ∃ (tokens : List Token) (final : ScanItem),
      ((ofCalls calls).scan source context).value.1 = .ok .start :: (tokens.map .ok ++ [final]) ∧
      (∀ n, (ofCalls calls).answer source { context } n
        = (.ok .start :: (tokens.map .ok ++ [final]) : List ScanItem)[n]?) ∧
      (final = .ok (.stop (sourceLength source)) ∨ ∃ e, final = .error e) ∧
      (∀ t ∈ tokens, Interior (ofCalls calls).tokenTypes source t) ∧
      (Token.start :: tokens).Pairwise fun t u => t.endPosition ≤ u.position := by
  have hrun := run_scan (ofCalls calls) source context
  rcases hrun.of_initial with ⟨rest, hitems, hrest⟩
  have htrack : OnTrack source (⟨0, .scanning, context⟩ : ScanState σ) :=
    .of_cut ⟨[], source.toList, cutAt_zero source⟩ (Or.inl rfl)
  rcases hrest.stream (typesFree_ofCalls calls) fits htrack
    (by simp only [ne_eq, reduceCtorEq, not_false_eq_true])
    (by simp only [ne_eq, reduceCtorEq, not_false_eq_true]) with
    ⟨tokens, final, hstream, hfinal, hinterior, _, hpair⟩
  refine ⟨tokens, final, by rw [hitems, hstream], fun n => ?_, hfinal, hinterior, ?_⟩
  · rw [hrun.answer_eq n, hitems, hstream]
  · exact List.Pairwise.cons (fun u _ => Nat.zero_le _) hpair

/-- Calls that make a scanner with a hostile matcher: it skips a character, then
    goes back. -/
def hostileCalls : List (Registration Nat) :=
  [.add "(start)" .anyChar, .setMarkEmpty true,
    .add "hostile" { find := fun _ offset asked =>
      { result := .ok (some (if asked = 0 then ⟨offset + 2, offset + 2⟩ else ⟨0, 9⟩))
        context := asked + 1 } }]

theorem answers_framed_hostile : sourceLength "äb" < offsetCount ∧
    ∃ (tokens : List Token) (final : ScanItem),
      ((ofCalls hostileCalls).scan "äb" 0).value.1 = .ok .start :: (tokens.map .ok ++ [final]) ∧
      (∀ n, (ofCalls hostileCalls).answer "äb" { context := 0 } n
        = (.ok .start :: (tokens.map .ok ++ [final]) : List ScanItem)[n]?) ∧
      (final = .ok (.stop (sourceLength "äb")) ∨ ∃ e, final = .error e) ∧
      (∀ t ∈ tokens, Interior (ofCalls hostileCalls).tokenTypes "äb" t) ∧
      (Token.start :: tokens).Pairwise fun t u => t.endPosition ≤ u.position :=
  ⟨by decide, answers_framed hostileCalls "äb" 0 (by decide)⟩

end Scanner

end Highlighter
