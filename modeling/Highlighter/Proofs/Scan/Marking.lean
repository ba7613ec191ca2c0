import Highlighter.Proofs.Scan.Comparison
import Highlighter.Proofs.Scan.Priority

/-!
# Marking empty matches

What the switch that marks empty matches does to a scan.

A scan finds out that a match is empty from the ends of its span. They are looked
at twice, once for the type of the token and once for the phase that comes after
it, and only the first look depends on the switch. A span with its ends in the
wrong order would look empty as well, but it is no piece of the source and ends
the scan before either look is taken. So a scanner takes the same way with and
without marking, as long as its hook does not look at types, and
`Token.marked` is all that happens to an item.

That function goes by the type and the text of a token, and the types are those
that the registration of patterns lets through. The last theorem also says
without it which tokens are marked: the empty ones among those that a pattern has
found.

## Main definitions

* `Token.marked`: A token as it is given with marking.

## Theorems

* `isEmpty_slice`: A piece of the source is empty if its span is.
* `tokenAt_setMarkEmpty`: The token of a span with and without marking.
* `Step.setMarkEmpty`, `pull_setMarkEmpty`: Steps and pulls with and without
  marking.
* `Step.type_ne_empty`: Without marking no type tells that a token is empty.
* `FirstFinds.type_eq_empty_iff`, `Step.type_eq_empty_iff`: With marking the types
  of the empty tokens of patterns tell it, and no others.
* `scan_setMarkEmpty`: Marking changes types only.
-/

namespace Highlighter

/-- The token as it is given with marking: if it is one of a pattern and empty,
    then its type tells that it is empty. -/
def Token.marked (t : Token) : Token :=
  if !t.isReserved && t.isEmpty then { t with type := TokenType.empty } else t

/-- A piece of the source is empty just if its span is. -/
theorem isEmpty_slice {source : String} {span : Span} (h : span.isValidIn source = true) :
    (span.slice source).isEmpty = span.isEmpty := by
  rw [isValidIn_iff] at h
  rcases h with ⟨before, piece, rest, hcut, hstop⟩
  have hlen := byteLength_eq_zero_iff piece
  -- The ends of a valid span are in order and as far apart as the piece is long.
  rw [slice_of_append source span before piece rest hcut hstop, Bool.eq_iff_iff, Span.isEmpty,
    decide_eq_true_eq, String.isEmpty_iff, String.ofList_eq_empty_iff, ← hlen]
  omega

namespace Scanner

variable {σ : Type}

/-! ## Single pulls -/

theorem notify_setMarkEmpty (s : Scanner σ) (mark : Bool) :
    (s.setMarkEmpty mark).notify = s.notify := rfl

/-- The token of a span with marking, for a pattern of a type that is not
    reserved. -/
theorem tokenAt_setMarkEmpty (s : Scanner σ) (source type : String) (span : Span)
    (hfree : TokenType.isReserved type = false) (hvalid : span.isValidIn source = true) :
    (s.setMarkEmpty true).tokenAt source type span
      = ((s.setMarkEmpty false).tokenAt source type span).marked := by
  simp only [tokenAt, setMarkEmpty, Bool.and_true, Bool.and_false, Bool.false_eq_true, if_false,
    Token.marked, Token.isReserved, Token.isEmpty, hfree, isEmpty_slice hvalid, Bool.not_false,
    Bool.true_and]
  by_cases hempty : span.isEmpty = true
  · rw [if_pos hempty, if_pos hempty]
  · rw [if_neg hempty, if_neg hempty]

/-- A step without marking is a step with marking, to the same state. -/
theorem Step.setMarkEmpty {s : Scanner σ} {source : String} {st st' : ScanState σ}
    {item : ScanItem} (h : Step (s.setMarkEmpty false) source st item st') (hfree : s.TypesFree)
    (hblind : s.TypeBlind) : Step (s.setMarkEmpty true) source st (item.map Token.marked) st' := by
  -- The tokens of the scan itself have reserved types and are left as they are.
  cases h with
  | opens cursor context => exact .opens cursor context
  | ends cursor context hend => exact .ends cursor context hend
  | fails cursor context before p after answer e hlt hfirst hres =>
      exact .fails cursor context before p after answer e hlt hfirst hres
  | rejects cursor context before p after answer span e hlt hfirst hres herr =>
      exact .rejects cursor context before p after answer span e hlt hfirst hres herr
  | finds cursor context before p after answer span hlt hfirst hres hfits =>
      have hvalid := ((spanError?_eq_none_iff source cursor p.type span).mp hfits).2
      have htoken := s.tokenAt_setMarkEmpty source p.type span (hfree p hfirst.mem).2 hvalid
      -- The hook is shown tokens that differ in their types only.
      have hleft := hblind ((s.setMarkEmpty true).tokenAt source p.type span)
        ((s.setMarkEmpty false).tokenAt source p.type span) rfl rfl answer.context
      have hstep : Step (s.setMarkEmpty true) source ⟨cursor, .scanning, context⟩ _ _ :=
        .finds cursor context before p after answer span hlt hfirst hres hfits
      rw [notify_setMarkEmpty, hleft, htoken] at hstep
      exact hstep
  | skips cursor context hlt hrefused => exact .skips cursor context hlt hrefused
  | recovers cursor context => exact .recovers cursor context

/-- A pull with marking gives the marked item and leaves the same state. -/
theorem pull_setMarkEmpty (s : Scanner σ) (source : String) (st : ScanState σ)
    (hfree : s.TypesFree) (hblind : s.TypeBlind) :
    ((s.setMarkEmpty true).pull source st).value
      = (((s.setMarkEmpty false).pull source st).value.1.map (·.map Token.marked),
        ((s.setMarkEmpty false).pull source st).value.2) := by
  by_cases hdone : st.phase = .done
  · rw [pull_of_done _ source st hdone, pull_of_done _ source st hdone]
    rfl
  · rcases step_exists (s.setMarkEmpty false) source st hdone with ⟨item, st', hstep⟩
    rw [hstep.pull_eq, (hstep.setMarkEmpty hfree hblind).pull_eq]
    rfl

/-! ## The types that tell of empty tokens -/

/-- Without marking no type tells that a token is empty. -/
theorem Step.type_ne_empty {s : Scanner σ} {source : String} {st st' : ScanState σ} {t : Token}
    (h : Step s source st (.ok t) st') (hfree : s.TypesFree) (hplain : s.markEmpty = false) :
    t.type ≠ TokenType.empty := by
  cases h with
  | opens cursor context => decide
  | ends cursor context hend => simp only [Token.stop]; decide
  | finds cursor context before p after answer span hlt hfirst hres hfits =>
      rw [tokenAt_type, hplain, Bool.and_false, if_neg Bool.false_ne_true]
      exact (hfree.ne hfirst.mem).2.2.2
  | skips cursor context hlt hrefused => simp only [unmatchedAt]; decide
  | recovers cursor context => simp only [unmatchedAt]; decide

/-- With marking, the type of a token that a pattern has found tells that it is
    empty just if it is. -/
theorem FirstFinds.type_eq_empty_iff {s : Scanner σ} {source : String} {st : ScanState σ}
    {t : Token} {left : σ} (h : FirstFinds s source st t left) (hfree : s.TypesFree)
    (hmarked : s.markEmpty = true) : t.type = TokenType.empty ↔ t.text = "" := by
  rcases h with ⟨before, p, after, answer, span, hfinds⟩
  have hne := (hfree.ne hfinds.decided.first.mem).2.2.2
  have hposition := hfinds.position_eq
  have hstop := hfinds.stop_eq
  -- The text is empty if the two ends of the span are the same.
  rw [hfinds.type_eq, hmarked, ← String.toList_eq_nil_iff, ← byteLength_eq_zero_iff]
  by_cases hends : span.start = span.stop
  · rw [if_pos ⟨rfl, hends⟩]
    simp only [true_iff]
    omega
  · rw [if_neg fun hc => hends hc.2]
    simp only [hne, false_iff]
    omega

/-- With marking, the type of a token tells that it is empty just if it is and a
    pattern has found it. -/
theorem Step.type_eq_empty_iff {s : Scanner σ} {source : String} {st st' : ScanState σ}
    {t : Token} (h : Step s source st (.ok t) st') (hfree : s.TypesFree)
    (hmarked : s.markEmpty = true) :
    t.type = TokenType.empty ↔ t.text = "" ∧ FirstFinds s source st t st'.context := by
  constructor
  · intro htype
    have hfinds := h.firstFinds (by rw [htype]; decide) (by rw [htype]; decide)
      (by rw [htype]; decide)
    exact ⟨(hfinds.type_eq_empty_iff hfree hmarked).mp htype, hfinds⟩
  · rintro ⟨htext, hfinds⟩
    exact (hfinds.type_eq_empty_iff hfree hmarked).mpr htext

/-! ## Whole scans -/

/-- Marking changes types only, if the hook does not look at them. With and
    without it a scan gives the same number of items, with the same positions,
    texts and errors, and leaves the same contexts. Without marking no type tells
    that a token is empty, and with marking the types of just those tokens do that
    are empty and were found by a pattern. -/
theorem scan_setMarkEmpty (calls : List (Registration σ)) (source : String) (context : σ)
    (hblind : (ofCalls calls : Scanner σ).TypeBlind) :
    let plain : Scanner σ := (ofCalls calls).setMarkEmpty false
    let marked : Scanner σ := (ofCalls calls).setMarkEmpty true
    (marked.scan source context).value.1
      = (plain.scan source context).value.1.map (·.map Token.marked) ∧
    (∀ n, marked.stateAfter source n { context } = plain.stateAfter source n { context }) ∧
    (marked.scan source context).value.2 = (plain.scan source context).value.2 ∧
    (∀ t, .ok t ∈ (plain.scan source context).value.1 → t.type ≠ TokenType.empty) ∧
    ∀ n t, (marked.scan source context).value.1[n]? = some (.ok t) →
      (t.type = TokenType.empty ↔ t.text = "" ∧
        FirstFinds marked source (marked.stateAfter source n { context }) t
          (marked.stateAfter source (n + 1) { context }).context) := by
  intro plain marked
  have hfree : (ofCalls calls : Scanner σ).TypesFree := typesFree_ofCalls calls
  have hpull := fun st => (ofCalls calls).pull_setMarkEmpty source st hfree hblind
  have hstates : ∀ n, marked.stateAfter source n { context }
      = plain.stateAfter source n { context } :=
    fun n => stateAfter_congr n fun m _ => by rw [hpull]
  refine ⟨List.ext_getElem? fun n => ?_, hstates, ?_, fun t ht => ?_, fun n t ht => ?_⟩
  · rw [List.getElem?_map, scan_getElem?, scan_getElem?, answer, answer, hstates n, hpull]
  · rw [scan_state, scan_state, hstates]
  · rcases List.mem_iff_getElem?.mp ht with ⟨n, hn⟩
    rw [scan_getElem?] at hn
    exact (step_of_answer hn).type_ne_empty hfree rfl
  · rw [scan_getElem?] at ht
    exact (step_of_answer ht).type_eq_empty_iff hfree rfl

/-- Calls that make a scanner of which the only pattern finds the empty text, then
    the empty text a character ahead, and then a span with its ends in the wrong
    order. The hook adds the positions of the tokens to the number of times that
    the pattern was asked. -/
def invertedCalls : List (Registration Nat) :=
  [.add "gap" { find := fun _ offset asked =>
      { result := .ok (some (if asked = 0 then .emptyAt offset
          else if asked = 1 then .emptyAt (offset + 1) else ⟨offset + 1, offset⟩))
        context := asked + 1 } },
    .setOnMatch fun t asked => asked + t.position]

theorem scan_setMarkEmpty_inverted : (ofCalls invertedCalls).TypeBlind ∧
    let plain : Scanner Nat := (ofCalls invertedCalls).setMarkEmpty false
    let marked : Scanner Nat := (ofCalls invertedCalls).setMarkEmpty true
    (marked.scan "äbcd" 0).value.1
      = (plain.scan "äbcd" 0).value.1.map (·.map Token.marked) ∧
    (∀ n, marked.stateAfter "äbcd" n { context := 0 }
      = plain.stateAfter "äbcd" n { context := 0 }) ∧
    (marked.scan "äbcd" 0).value.2 = (plain.scan "äbcd" 0).value.2 ∧
    (∀ t, .ok t ∈ (plain.scan "äbcd" 0).value.1 → t.type ≠ TokenType.empty) ∧
    ∀ n t, (marked.scan "äbcd" 0).value.1[n]? = some (.ok t) →
      (t.type = TokenType.empty ↔ t.text = "" ∧
        FirstFinds marked "äbcd" (marked.stateAfter "äbcd" n { context := 0 }) t
          (marked.stateAfter "äbcd" (n + 1) { context := 0 }).context) := by
  have hblind : (ofCalls invertedCalls).TypeBlind := by
    intro t u _ hposition context
    have hhook : ∀ v : Token, (ofCalls invertedCalls).notify v context = context + v.position :=
      fun _ => rfl
    rw [hhook, hhook, hposition]
  exact ⟨hblind, scan_setMarkEmpty invertedCalls "äbcd" 0 hblind⟩

-- The recovered character and the error are the same with and without marking.
example : (((ofCalls invertedCalls).setMarkEmpty true).scan "äbcd" 0).value.1
    = [.ok .start, .ok ⟨TokenType.empty, "", 0⟩, .ok ⟨TokenType.unmatched, "ä", 0⟩,
      .ok ⟨TokenType.empty, "", 3⟩, .error (.badSpan "gap" ⟨4, 3⟩ 5)] := by rfl

end Scanner

end Highlighter
