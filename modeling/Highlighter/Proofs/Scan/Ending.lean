import Highlighter.Proofs.Matchers
import Highlighter.Proofs.Scan.Asking
import Highlighter.Proofs.Scan.Stream

/-!
# How a scan ends

When a scan comes to the end of its source.

A scan gives tokens and then one last item, the end token or an error. Errors
come from the first answer only, and a reliable matcher gives no cause for one:
it answers, and its span can be the next token. So a scan with reliable matchers
ends with the end token, and `Run.ok_of_reliable` is the induction that says so.

Matchers also have a say in where they can be asked. What they are asked depends
on the cursor alone, which is a boundary in every state, and reliable matchers
can be asked at boundaries. `FaultFree` puts this together with the other places
where a pull could go wrong, the slices that it takes of the source.

The built-in matchers are reliable, whatever their patterns, so nothing has to be
known about the regular expressions of a scanner to know that its scans end well.

## Main definitions

* `FaultFree`: a pull that asks nothing and slices nothing that it may not.

## Theorems

* `Step.placed`: Every token of a step lies between two cursors.
* `TokenPlace.sliced`: A token with a place is a slice.
* `Run.ending`: A run gives tokens and one last item.
* `Step.ok_of_reliable`, `Run.ok_of_reliable`: Reliable matchers cause no error.
* `faultFree_of_reliable`: With reliable matchers, every pull is free of faults.
* `scan_ends_of_builtIn`: So are the scans of built-in matchers, and they end with
  the end token.
-/

namespace Highlighter

namespace Scanner

variable {σ : Type}

/-! ## Tokens of single steps -/

/-- Every token of a step lies between the old cursor and the new one, the first
    and the last token included. -/
theorem Step.placed {s : Scanner σ} {source : String} {st st' : ScanState σ} {t : Token}
    (h : Step s source st (.ok t) st') (htrack : OnTrack source st) :
    TokenPlace source st.cursor t st'.cursor := by
  rcases htrack.cut with ⟨before, rest, hcut⟩
  cases h with
  | opens cursor context =>
      have hzero : cursor = 0 := htrack.fresh rfl
      rw [hzero]
      exact ⟨⟨[], source.toList, cutAt_zero source⟩, Nat.le_refl _, rfl⟩
  | ends cursor context hend => exact ⟨⟨before, rest, hcut⟩, Nat.le_refl _, rfl⟩
  | finds cursor context _ p _ answer span hlt hfirst hres hfits =>
      exact tokenAt_place s source cursor p.type span hfits
  | skips cursor context hlt hrefused => exact unmatchedAt_place hcut hlt
  | recovers cursor context => exact unmatchedAt_place hcut (htrack.ahead rfl)

/-- A token with a place is the slice there. -/
theorem TokenPlace.sliced {source : String} {start stop : Nat} {t : Token}
    (h : TokenPlace source start t stop) :
    (⟨t.position, stop⟩ : Span).isValidIn source = true ∧
      t.text = (⟨t.position, stop⟩ : Span).slice source := by
  rcases h.cut with ⟨before, rest, hcut⟩
  constructor
  · rw [isValidIn_iff]
    exact ⟨before, t.text.toList, rest, hcut, h.stop_eq⟩
  · rw [slice_of_append source _ before t.text.toList rest hcut h.stop_eq, String.ofList_toList]

/-! ## The last item -/

/-- A run gives tokens and then one last item: the end token at the length of the
    source, or an error. -/
theorem Run.ending {s : Scanner σ} {source : String} {st last : ScanState σ}
    {items : List ScanItem} (h : Run s source st items last) (htrack : OnTrack source st)
    (hdone : st.phase ≠ .done) :
    ∃ (tokens : List Token) (final : ScanItem), items = tokens.map .ok ++ [final] ∧
      (final = .ok (.stop (sourceLength source)) ∨ ∃ e, final = .error e) := by
  induction h with
  | finished st h => exact absurd h hdone
  | step st st' last item items hstep hrest ih =>
      by_cases hover : st'.phase = .done
      · rw [(hrest.eq_of_done hover).1]
        exact ⟨[], item, rfl, hstep.final_item htrack hover⟩
      · rcases item with e | t
        · exact absurd hstep.done_of_error hover
        · rcases ih (hstep.onTrack htrack) hover with ⟨tokens, final, hitems, hfinal⟩
          exact ⟨t :: tokens, final, by rw [hitems]; rfl, hfinal⟩

/-! ## Reliable matchers -/

/-- Reliable matchers cause no error. -/
theorem Step.ok_of_reliable {s : Scanner σ} {source : String} {st st' : ScanState σ}
    {item : ScanItem} (h : Step s source st item st') (htrack : OnTrack source st)
    (hreliable : ∀ p ∈ s.patterns, p.matcher.Reliable) : ∃ t, item = .ok t := by
  have hboundary := (isBoundary_iff source st.cursor).mpr htrack.cut
  cases h with
  | opens | ends | finds | skips | recovers => exact ⟨_, rfl⟩
  | fails cursor context before p after answer e hlt hfirst hres =>
      rcases (hreliable p hfirst.mem).answers source cursor
        (contextAfter source cursor before context) hboundary with ⟨found, hfound⟩
      rw [hfirst.asked, hres] at hfound
      simp only [reduceCtorEq] at hfound
  | rejects cursor context before p after answer span e hlt hfirst hres herr =>
      have hfits := (hreliable p hfirst.mem).fits source cursor
        (contextAfter source cursor before context) span hboundary (by rw [hfirst.asked, hres])
      rw [← spanError?_eq_none_iff source cursor p.type span] at hfits
      rw [hfits] at herr
      simp only [reduceCtorEq] at herr

/-- A run with reliable matchers has no error. -/
theorem Run.ok_of_reliable {s : Scanner σ} {source : String} {st last : ScanState σ}
    {items : List ScanItem} (h : Run s source st items last) (htrack : OnTrack source st)
    (hreliable : ∀ p ∈ s.patterns, p.matcher.Reliable) : ∀ e, .error e ∉ items := by
  intro e
  induction h with
  | finished => exact List.not_mem_nil
  | step st st' last item items hstep hrest ih =>
      rcases hstep.ok_of_reliable htrack hreliable with ⟨t, ht⟩
      rw [ht, List.mem_cons, not_or]
      exact ⟨by simp only [reduceCtorEq, not_false_eq_true], ih (hstep.onTrack htrack)⟩

/-- A pull keeps to what it may do: it cuts the source at boundaries only, and asks
    matchers only where they can be asked. -/
structure FaultFree (s : Scanner σ) (source : String) (st : ScanState σ) : Prop where
  /-- The source can be cut at the cursor. -/
  boundary : Span.isBoundary source st.cursor = true
  /-- Each matcher that is asked can be asked there. -/
  accepted : ∀ i offset left, .asked i offset left ∈ s.callsOf source st →
    ∃ p, s.patterns[i]? = some p ∧ p.matcher.accepts source offset = true
  /-- The text of a token that is given can be cut out of the source. -/
  sliced : ∀ t, (s.pull source st).value.1 = some (.ok t) →
    ∃ span : Span, span.isValidIn source = true ∧ span.start = t.position ∧
      t.text = span.slice source

/-- With reliable matchers, every pull is free of faults. -/
theorem faultFree_of_reliable (s : Scanner σ) (source : String) (st : ScanState σ)
    (hreliable : ∀ p ∈ s.patterns, p.matcher.Reliable) (htrack : OnTrack source st) :
    FaultFree s source st where
  boundary := (isBoundary_iff source st.cursor).mpr htrack.cut
  accepted := by
    intro i offset left hcall
    rcases mem_callsOf s source st _ hcall with hasked | ⟨t, left', hshown, _⟩
    · rcases hasked.call_eq with ⟨j, p, left', hcall', hp⟩
      rw [Call.asked.injEq] at hcall'
      rw [hcall'.1, hcall'.2.1]
      have hboundary := (isBoundary_iff source st.cursor).mpr htrack.cut
      exact ⟨p, hp, (hreliable p (List.mem_of_getElem? hp)).accepts source st.cursor hboundary⟩
    · simp only [reduceCtorEq] at hshown
  sliced := by
    intro t hpull
    have hstep := (pull_iff s source st _ (.ok t)).mp (Prod.ext hpull rfl)
    have hsliced := (hstep.placed htrack).sliced
    exact ⟨_, hsliced.1, rfl, hsliced.2⟩

/-- A scan with built-in matchers gives no error and ends with the end token, and
    none of its pulls meets a fault, whatever the hook does. -/
theorem scan_ends_of_builtIn (s : Scanner σ) (source : String) (context : σ)
    (hbuilt : ∀ p ∈ s.patterns, p.matcher.BuiltIn) :
    ∃ tokens : List Token,
      (s.scan source context).value.1
        = .ok .start :: (tokens.map .ok ++ [.ok (.stop (sourceLength source))]) ∧
      (∀ n, s.answer source { context } n = (.ok .start :: (tokens.map .ok
        ++ [.ok (.stop (sourceLength source))]) : List ScanItem)[n]?) ∧
      ∀ n, FaultFree s source (s.stateAfter source n { context }) := by
  have hreliable : ∀ p ∈ s.patterns, p.matcher.Reliable := fun p hp => (hbuilt p hp).reliable
  have hrun := run_scan s source context
  rcases hrun.of_initial with ⟨rest, hitems, hrest⟩
  have htrack : OnTrack source (⟨0, .scanning, context⟩ : ScanState σ) :=
    .of_cut ⟨[], source.toList, cutAt_zero source⟩ (Or.inl rfl)
  rcases hrest.ending htrack (by simp only [ne_eq, reduceCtorEq, not_false_eq_true]) with
    ⟨tokens, final, hending, hfinal⟩
  have hstop : final = .ok (.stop (sourceLength source)) := by
    rcases hfinal with hfinal | ⟨e, hfinal⟩
    · exact hfinal
    · -- An error would be among the items.
      have hnone := hrest.ok_of_reliable htrack hreliable e
      rw [hending, hfinal] at hnone
      exact absurd (List.mem_append_right _ List.mem_cons_self) hnone
  rw [hending, hstop] at hitems
  refine ⟨tokens, hitems, fun n => ?_, fun n => ?_⟩
  · rw [hrun.answer_eq n, hitems]
  · exact faultFree_of_reliable s source _ hreliable (onTrack_stateAfter s source context n)

/-- Calls that make a scanner of built-in matchers: a group with something behind
    it, a group that may take no part, and any character. The hook counts the
    tokens. -/
def keywordCalls : List (Registration Nat) :=
  [.addRegex "key" "(if|else)[^a-z]" 1, .addRegex "gap" "x(y)?" 1, .add "char" .anyChar,
    .setOnMatch fun _ count => count + 1, .setMarkEmpty true]

theorem scan_ends_of_builtIn_keywords : (ofCalls keywordCalls).patterns.length = 3 ∧
    (∀ p ∈ (ofCalls keywordCalls).patterns, p.matcher.BuiltIn) ∧
    ∃ tokens : List Token,
      ((ofCalls keywordCalls).scan "if xä" 0).value.1
        = .ok .start :: (tokens.map .ok ++ [.ok (.stop (sourceLength "if xä"))]) ∧
      (∀ n, (ofCalls keywordCalls).answer "if xä" { context := 0 } n
        = (.ok .start :: (tokens.map .ok
          ++ [.ok (.stop (sourceLength "if xä"))]) : List ScanItem)[n]?) ∧
      ∀ n, FaultFree (ofCalls keywordCalls) "if xä"
        ((ofCalls keywordCalls).stateAfter "if xä" n { context := 0 }) := by
  have hbuilt : ∀ p ∈ (ofCalls keywordCalls).patterns, p.matcher.BuiltIn := by
    refine forall_matcher_ofCalls _ keywordCalls (fun type matcher hcall => ?_)
      (fun type pattern group m _ _ => .regex m)
    simp only [keywordCalls, List.mem_cons, reduceCtorEq, Registration.add.injEq, false_or, or_false,
      List.not_mem_nil] at hcall
    rw [hcall.2]
    exact .anyChar
  exact ⟨by decide +kernel, hbuilt, scan_ends_of_builtIn (ofCalls keywordCalls) "if xä" 0 hbuilt⟩

end Scanner

end Highlighter
