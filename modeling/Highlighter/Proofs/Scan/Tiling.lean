import Highlighter.Proofs.Scan.Ending
import Mathlib.Data.List.Chain

/-!
# Scans without gaps

When the tokens of a scan make up its source.

If every matcher answers in place, a step gives the piece of the source that
stands at the cursor, and the cursor moves to the end of this piece. Nothing is
left out between two tokens and nothing is given twice. That includes the cases
which do not come from a match: an unmatched character is one that stands at the
cursor, and an empty match, marked or not, is a piece without characters, so the
character that is recovered behind it is given once.

`Tiles` is the resulting shape of a list of tokens. A run gives tokens that tile
what lies ahead of it, and a scan, which starts at the start, gives tokens that
tile the source. It has to come to its end for that. An error would cut off the
rest.

## Main definitions

* `Tiles`: tokens that make up a text, one behind the other.

## Theorems

* `Tiles.flatMap_text`, `Tiles.join_text`: The texts of the tokens together are
  the text.
* `Tiles.isChain`: Each token begins where the one before it ends.
* `Tiles.endPosition_eq`: Where the tokens end, if offsets have room.
* `Step.position_eq`: A token of a step begins at the cursor.
* `Run.tiles`: The tokens of a run tile what lies ahead.
* `scan_tiles`: The tokens of a scan tile its source.
* `scan_partitions`: Scans without gaps are partitions of their source.
-/

namespace Highlighter

/-- Tokens that make up a text from an offset on, one behind the other. -/
inductive Tiles : Nat → List Token → List Char → Prop where
  /-- No tokens make up the empty text. -/
  | nil (start : Nat) : Tiles start [] []
  /-- A token, and tokens that go on where it ends. -/
  | cons (t : Token) (ts : List Token) (rest : List Char)
      (hrest : Tiles (t.position + byteLength t.text.toList) ts rest) :
      Tiles t.position (t :: ts) (t.text.toList ++ rest)

/-- The texts of the tokens together are the text. -/
theorem Tiles.flatMap_text {start : Nat} {tokens : List Token} {text : List Char}
    (h : Tiles start tokens text) : tokens.flatMap (·.text.toList) = text := by
  induction h with
  | nil start => rfl
  | cons t ts rest hrest ih => rw [List.flatMap_cons, ih]

theorem Tiles.join_text {start : Nat} {tokens : List Token} {source : String}
    (h : Tiles start tokens source.toList) : String.join (tokens.map (·.text)) = source := by
  rw [← String.toList_inj, String.toList_join, List.flatMap_map]
  exact h.flatMap_text

/-- The first token begins where the text begins. -/
theorem Tiles.position_eq {start : Nat} {t : Token} {ts : List Token} {text : List Char}
    (h : Tiles start (t :: ts) text) : t.position = start := by
  cases h with
  | cons => rfl

/-- Each token begins where the one before it ends. -/
theorem Tiles.isChain {start : Nat} {tokens : List Token} {text : List Char}
    (h : Tiles start tokens text) :
    tokens.IsChain fun t u => u.position = t.position + byteLength t.text.toList := by
  induction h with
  | nil start => exact .nil
  | cons t ts rest hrest ih =>
      rcases ts with _ | ⟨u, us⟩
      · exact .singleton t
      · exact .cons_cons hrest.position_eq ih

/-- If offsets have room for the text, the tokens end behind their texts. -/
theorem Tiles.endPosition_eq {start : Nat} {tokens : List Token} {text : List Char}
    (h : Tiles start tokens text) (fits : start + byteLength text < offsetCount) :
    ∀ t ∈ tokens, t.endPosition = t.position + byteLength t.text.toList := by
  induction h with
  | nil start => exact fun t ht => absurd ht List.not_mem_nil
  | cons t ts rest hrest ih =>
      rw [byteLength_append, ← Nat.add_assoc] at fits
      exact List.forall_mem_cons.mpr ⟨Token.endPosition_eq (by omega), ih fits⟩

namespace Scanner

variable {σ : Type}

/-- If the matchers answer in place, every token of a step begins at the
    cursor. -/
theorem Step.position_eq {s : Scanner σ} {source : String} {st st' : ScanState σ} {t : Token}
    (h : Step s source st (.ok t) st') (htrack : OnTrack source st)
    (hplace : ∀ p ∈ s.patterns, p.matcher.InPlace) : t.position = st.cursor := by
  cases h with
  | opens cursor context => exact (htrack.fresh rfl).symm
  | ends | skips | recovers => rfl
  | finds cursor context before p after answer span hlt hfirst hres hfits =>
      exact hplace p hfirst.mem source cursor (contextAfter source cursor before context) span
        (by rw [hfirst.asked, hres])

/-- The tokens of a run tile what lies ahead, if there is no error and the
    matchers answer in place. -/
theorem Run.tiles {s : Scanner σ} {source : String} {st last : ScanState σ}
    {items : List ScanItem} (h : Run s source st items last)
    (hplace : ∀ p ∈ s.patterns, p.matcher.InPlace) (htrack : OnTrack source st)
    (hdone : st.phase ≠ .done) {before rest : List Char}
    (hcut : CutAt source st.cursor before rest) (tokens : List Token)
    (hitems : items = tokens.map .ok) : Tiles st.cursor tokens rest := by
  induction h generalizing before rest tokens with
  | finished st h => exact absurd h hdone
  | step st st' last item items hstep hrun ih =>
      rcases tokens with _ | ⟨t, ts⟩
      · simp only [List.map_nil, reduceCtorEq] at hitems
      · rw [List.map_cons, List.cons.injEq] at hitems
        rw [hitems.1] at hstep
        have hplaced := hstep.placed htrack
        have hposition := hstep.position_eq htrack hplace
        rcases hplaced.cut with ⟨before', rest', hcut'⟩
        have hmoved := hcut'.move
        rw [← hplaced.stop_eq] at hmoved
        rw [hposition] at hcut'
        -- What lies ahead is the token and what lies ahead of the next state.
        rw [(hcut.unique hcut').2, ← hposition]
        refine .cons t ts rest' ?_
        rw [← hplaced.stop_eq]
        by_cases hover : st'.phase = .done
        · -- The end token comes at the end of the source.
          have hnil : rest' = [] := by
            rcases hstep.final_item htrack hover with hfinal | ⟨e, hfinal⟩
            · rw [Except.ok.injEq] at hfinal
              have hlen := hmoved.sourceLength_eq
              rw [hplaced.stop_eq, hfinal] at hlen
              rw [← byteLength_eq_zero_iff]
              simp only [Token.stop] at hlen
              omega
            · simp only [reduceCtorEq] at hfinal
          have hnone := (hrun.eq_of_done hover).1
          rw [hitems.2, List.map_eq_nil_iff] at hnone
          rw [hnone, hnil]
          exact .nil _
        · exact ih (hstep.onTrack htrack) hover hmoved ts hitems.2

/-- The tokens of a scan tile its source, if there is no error and the matchers
    answer in place. -/
theorem scan_tiles (s : Scanner σ) (source : String) (context : σ)
    (hplace : ∀ p ∈ s.patterns, p.matcher.InPlace) (tokens : List Token)
    (hitems : (s.scan source context).value.1 = tokens.map .ok) :
    Tiles 0 tokens source.toList :=
  (run_scan s source context).tiles hplace (onTrack_initial source context)
    (by simp only [ne_eq, reduceCtorEq, not_false_eq_true]) (cutAt_zero source) tokens hitems

/-- The built-in matchers without a group answer in place, and a scan whose
    matchers do so and whose last item is a token, which is then the end token,
    partitions its source: each token begins where the one before it ends, and the
    texts of all tokens are the source. -/
theorem scan_partitions (σ : Type) :
    (∀ m : RegexMatcher, m.group = 0 → (m.toMatcher : Matcher σ).InPlace) ∧
    (∀ ws m, RegexMatcher.words ws = .ok m → (m.toMatcher : Matcher σ).InPlace) ∧
    (Matcher.anyChar : Matcher σ).InPlace ∧
    ∀ (s : Scanner σ) (source : String) (context : σ) (final : Token),
      (∀ p ∈ s.patterns, p.matcher.InPlace) →
      (s.scan source context).value.1.getLast? = some (.ok final) →
      final = .stop (sourceLength source) ∧
      ∃ tokens : List Token, (s.scan source context).value.1 = tokens.map .ok ∧
        String.join (tokens.map (·.text)) = source ∧
        (tokens.IsChain fun t u => u.position = t.position + byteLength t.text.toList) ∧
        (sourceLength source < offsetCount →
          tokens.IsChain fun t u => u.position = t.endPosition) := by
  refine ⟨fun m => m.inPlace_toMatcher, fun ws m => m.inPlace_words ws, Matcher.inPlace_anyChar, ?_⟩
  intro s source context final hplace hlast
  rcases (run_scan s source context).ending (onTrack_initial source context)
    (by simp only [ne_eq, reduceCtorEq, not_false_eq_true]) with ⟨tokens, item, hitems, hitem⟩
  rw [hitems, List.getLast?_concat, Option.some.injEq] at hlast
  have hall : (s.scan source context).value.1 = (tokens ++ [final]).map .ok := by
    rw [hitems, hlast, List.map_append, List.map_singleton]
  have hfinal : final = .stop (sourceLength source) := by
    rw [hlast] at hitem
    rcases hitem with hstop | ⟨e, herror⟩
    · exact Except.ok.inj hstop
    · cases herror
  have htiles := scan_tiles s source context hplace _ hall
  refine ⟨hfinal, _, hall, htiles.join_text, htiles.isChain, fun fits => ?_⟩
  have hends := htiles.endPosition_eq (by rwa [Nat.zero_add])
  exact htiles.isChain.imp_of_mem_imp fun t u ht _ hnext => by rw [hnext, hends t ht]

/-- Calls that make a scanner whose only pattern also matches the empty text. -/
def digitCalls : List (Registration Nat) :=
  [.addRegex "digits" "[0-9]*" 0, .setMarkEmpty true, .setOnMatch fun t _ => t.position]

theorem scan_partitions_digits :
    (∀ p ∈ (ofCalls digitCalls).patterns, p.matcher.InPlace) ∧
    ((ofCalls digitCalls).scan "1ä2" 0).value.1.getLast?
      = some (.ok (.stop 4)) ∧
    Token.stop 4 = .stop (sourceLength "1ä2") ∧
    ∃ tokens : List Token, ((ofCalls digitCalls).scan "1ä2" 0).value.1 = tokens.map .ok ∧
      String.join (tokens.map (·.text)) = "1ä2" ∧
      (tokens.IsChain fun t u => u.position = t.position + byteLength t.text.toList) ∧
      (sourceLength "1ä2" < offsetCount →
        tokens.IsChain fun t u => u.position = t.endPosition) := by
  have hplace : ∀ p ∈ (ofCalls digitCalls).patterns, p.matcher.InPlace := by
    refine forall_matcher_ofCalls _ digitCalls (fun type matcher hcall => ?_)
      (fun type pattern group m hcall hm => m.inPlace_toMatcher ?_)
    · simp only [digitCalls, List.mem_cons, reduceCtorEq, List.not_mem_nil, or_self] at hcall
    · simp only [digitCalls, List.mem_cons, Registration.addRegex.injEq, reduceCtorEq,
        List.not_mem_nil, or_false] at hcall
      rw [(RegexMatcher.compile_eq_ok _ _ _ m hm).2.1, hcall.2.2]
  have hlast : ((ofCalls digitCalls).scan "1ä2" 0).value.1.getLast?
      = some (.ok (.stop 4)) := by rfl
  exact ⟨hplace, hlast,
    (scan_partitions Nat).2.2.2 (ofCalls digitCalls) "1ä2" 0 (.stop 4) hplace hlast⟩

end Scanner

end Highlighter
