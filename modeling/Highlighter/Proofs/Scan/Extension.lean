import Highlighter.Proofs.Matchers
import Highlighter.Proofs.Scan.Asking
import Highlighter.Proofs.Scan.Comparison
import Highlighter.Proofs.Scan.Registration

/-!
# Further patterns

What changes if a scanner gets more patterns, of a lower priority than its own.

A pattern behind others is asked only where all of them refuse. So a pull can
tell the two scanners apart in one case only, which is the one that `Unanswered`
names: the patterns are asked and none of them answers, so that the next
character would be given as unmatched. `pull_followedBy` says that all other
pulls agree, and they agree in the calls that they make as well. The two scans
then take the same way up to the first such pull.

After it nothing can be said in general, since a new pattern may match anything
there. But if the only new pattern is the matcher of any one character, then it
finds just the character that would have been given as unmatched, so the scans go
on side by side and differ in the types of these characters. A character that is
recovered behind an empty match is unmatched too, but no pattern is asked about
it, and it keeps its type.

## Main definitions

* `followedBy`: A scanner with further patterns.
* `Unanswered`: No pattern matches where the patterns are asked.
* `Retyped`: An item, and what it is when any character is matched at last.

## Theorems

* `add_eq_followedBy`: Registered patterns come behind the others.
* `Unanswered.step`: What is given if no pattern matches.
* `FirstAnswer.append`: Patterns behind the first answer do not matter.
* `Step.followedBy`, `pull_followedBy`: Other pulls do not notice further patterns.
* `callsOf_followedBy`: They do not even ask them.
* `scan_followedBy`: Further patterns act only where no pattern matches.
* `firstAnswer_anyChar`: Any character is matched where the others refuse.
* `phaseAfter_charSpan`, `spanError?_charSpan`, `tokenAt_charSpan`: What becomes of
  the span of a character.
* `Unanswered.step_anyChar`: What is given there, and what is left.
* `pull_followedBy_anyChar`: Single pulls with and without any character at last.
* `scan_add_anyChar`: Matching any character at last changes types only.
-/

namespace Highlighter

namespace Scanner

variable {σ : Type}

/-- The scanner with further patterns of a lower priority. -/
def followedBy (s : Scanner σ) (ps : List (Pattern σ)) : Scanner σ :=
  { s with patterns := s.patterns ++ ps }

/-- A pattern of a free type is registered, and it comes behind the others. -/
theorem add_eq_followedBy (s : Scanner σ) (type : String) (matcher : Matcher σ)
    (hname : type ≠ "") (hfree : TokenType.isReserved type = false) :
    (s.add type matcher).value = .ok (s.followedBy [⟨type, matcher⟩]) := by
  have hisEmpty : type.isEmpty = false := by
    rw [Bool.eq_false_iff, ne_eq, String.isEmpty_iff]
    exact hname
  rw [add, hisEmpty, hfree]
  rfl

/-- The next character is given as unmatched because no pattern matches. -/
structure Unanswered (s : Scanner σ) (source : String) (st : ScanState σ) : Prop where
  /-- The patterns are asked in this phase. -/
  scanning : st.phase = .scanning
  /-- The source is not used up. -/
  inside : st.cursor < sourceLength source
  /-- All patterns refuse. -/
  refused : Refused source st.cursor s.patterns st.context

/-- The character at the cursor is given, whatever its type is to be. -/
theorem Unanswered.step {s : Scanner σ} {source : String} {st : ScanState σ}
    (h : s.Unanswered source st) :
    Step s source st (.ok (unmatchedAt source st.cursor))
      ⟨st.cursor + byteLength (unmatchedAt source st.cursor).text.toList, .scanning,
        s.notify (unmatchedAt source st.cursor)
          (contextAfter source st.cursor s.patterns st.context)⟩ := by
  rcases st with ⟨cursor, phase, context⟩
  rcases h with ⟨hphase, hlt, hrefused⟩
  simp only at hphase
  rw [hphase]
  exact .skips cursor context hlt hrefused

/-! ## Patterns that are not reached -/

/-- Patterns behind the first one that answers do not matter. -/
theorem FirstAnswer.append {source : String} {offset : Nat} {patterns : List (Pattern σ)}
    {context : σ} {before : List (Pattern σ)} {p : Pattern σ} {after : List (Pattern σ)}
    {answer : Answer σ} (h : FirstAnswer source offset patterns context before p after answer)
    (ps : List (Pattern σ)) :
    FirstAnswer source offset (patterns ++ ps) context before p (after ++ ps) answer where
  split := by rw [h.split, List.append_assoc, List.cons_append]
  refused := h.refused
  asked := h.asked
  decisive := h.decisive

/-- A step that does not give a character for want of a match is taken with
    further patterns as well. -/
theorem Step.followedBy {s : Scanner σ} {source : String} {st st' : ScanState σ}
    {item : ScanItem} (h : Step s source st item st') (ps : List (Pattern σ))
    (hanswered : ¬ s.Unanswered source st) : Step (s.followedBy ps) source st item st' := by
  cases h with
  | opens cursor context => exact .opens cursor context
  | ends cursor context hend => exact .ends cursor context hend
  | fails cursor context before p after answer e hlt hfirst hres =>
      exact .fails cursor context before p (after ++ ps) answer e hlt (hfirst.append ps) hres
  | rejects cursor context before p after answer span e hlt hfirst hres herr =>
      exact .rejects cursor context before p (after ++ ps) answer span e hlt (hfirst.append ps)
        hres herr
  | finds cursor context before p after answer span hlt hfirst hres hfits =>
      exact .finds cursor context before p (after ++ ps) answer span hlt (hfirst.append ps) hres
        hfits
  | skips cursor context hlt hrefused =>
      -- Only here all patterns are asked, and further ones would be asked too.
      exact absurd ⟨rfl, hlt, hrefused⟩ hanswered
  | recovers cursor context => exact .recovers cursor context

/-- A pull that does not give a character for want of a match is the same with
    further patterns. -/
theorem pull_followedBy (s : Scanner σ) (ps : List (Pattern σ)) (source : String)
    (st : ScanState σ) (hanswered : ¬ s.Unanswered source st) :
    ((s.followedBy ps).pull source st).value = (s.pull source st).value := by
  by_cases hdone : st.phase = .done
  · rw [pull_of_done _ source st hdone, pull_of_done _ source st hdone]
  · rcases step_exists s source st hdone with ⟨item, st', hstep⟩
    rw [hstep.pull_eq, (hstep.followedBy ps hanswered).pull_eq]

/-- The scanner with a record of calls takes further patterns as it is. -/
theorem recorded_followedBy (s : Scanner σ) (ps : List (Pattern σ)) :
    (s.followedBy ps).recorded = s.recorded.followedBy (recordedFrom s.patterns.length ps) := by
  have hpatterns : recordedFrom 0 (s.patterns ++ ps)
      = recordedFrom 0 s.patterns ++ recordedFrom s.patterns.length ps := by
    rw [recordedFrom_append, Nat.zero_add]
  simp only [recorded, followedBy, hpatterns]
  rfl

/-- Such a pull does not ask the further patterns: it makes the same calls. -/
theorem callsOf_followedBy (s : Scanner σ) (ps : List (Pattern σ)) (source : String)
    (st : ScanState σ) (hanswered : ¬ s.Unanswered source st) :
    (s.followedBy ps).callsOf source st = s.callsOf source st := by
  -- Keeping a record of the calls does not change what the patterns answer.
  have hrecorded : ¬ s.recorded.Unanswered source (st.withCalls []) := by
    rintro ⟨hphase, hlt, hrefused⟩
    exact hanswered ⟨hphase, hlt, (refused_recordedFrom source st.cursor 0 s.patterns st.context
      []).mp hrefused⟩
  rw [callsOf, callsOf, recorded_followedBy, pull_followedBy _ _ source _ hrecorded]

/-- Further patterns act only where no pattern matches. Up to the first pull that
    gives a character for want of a match, the scan with further patterns gives
    the same items, leaves the same contexts and asks only the patterns that were
    there before; if there is no such pull, the two scans are the same. -/
theorem scan_followedBy (s : Scanner σ) (ps : List (Pattern σ)) (source : String) (context : σ) :
    (∀ n, s.Unanswered source (s.stateAfter source n { context }) →
      s.answer source { context } n
        = some (.ok (unmatchedAt source (s.stateAfter source n { context }).cursor))) ∧
    (∀ n, (∀ m < n, ¬ s.Unanswered source (s.stateAfter source m { context })) →
      ((s.followedBy ps).pulls source n { context }).value = (s.pulls source n { context }).value ∧
      ∀ m < n, (s.followedBy ps).callsOf source (s.stateAfter source m { context })
        = s.callsOf source (s.stateAfter source m { context })) ∧
    ((∀ m, ¬ s.Unanswered source (s.stateAfter source m { context })) →
      ((s.followedBy ps).scan source context).value = (s.scan source context).value) := by
  refine ⟨fun n h => ?_, fun n h => ⟨?_, fun m hm => ?_⟩, fun h => ?_⟩
  · rw [answer, h.step.pull_eq]
  · exact pulls_congr n fun m hm => pull_followedBy s ps source _ (h m hm)
  · exact callsOf_followedBy s ps source _ (h m hm)
  · exact pulls_congr _ fun m _ => pull_followedBy s ps source _ (h m)

/-- A scanner that finds the empty text once and nothing else. The context counts
    how often it was asked. -/
def onceEmpty : Scanner Nat where
  patterns := [⟨"mark",
    { find := fun _ offset asked =>
        { result := .ok (if asked = 0 then some (.emptyAt offset) else none)
          context := asked + 1 } }⟩]

/-- The start, an empty match and the character behind it come before the first
    character that no pattern matches. -/
theorem scan_followedBy_onceEmpty :
    (∀ m < 3, ¬ onceEmpty.Unanswered "äb" (onceEmpty.stateAfter "äb" m { context := 0 })) ∧
    onceEmpty.Unanswered "äb" (onceEmpty.stateAfter "äb" 3 { context := 0 }) ∧
    ((onceEmpty.followedBy [⟨"char", .anyChar⟩]).pulls "äb" 3 { context := 0 }).value
      = (onceEmpty.pulls "äb" 3 { context := 0 }).value := by
  have hanswered : ∀ m < 3,
      ¬ onceEmpty.Unanswered "äb" (onceEmpty.stateAfter "äb" m { context := 0 }) := by
    rintro (_ | _ | _ | m) hm h
    · exact absurd h.scanning (by decide)
    · have hfound : (.ok (some (.emptyAt 0)) : Except Error (Option Span)) = .ok none :=
        h.refused.1
      simp only [Except.ok.injEq, reduceCtorEq] at hfound
    · exact absurd h.scanning (by decide)
    · omega
  exact ⟨hanswered, ⟨rfl, by decide, rfl, trivial⟩,
    ((scan_followedBy onceEmpty [⟨"char", .anyChar⟩] "äb" 0).2.1 3 hanswered).1⟩

/-! ## Matching any character at last -/

/-- Any character is matched where the other patterns refuse. -/
theorem firstAnswer_anyChar {source : String} {cursor : Nat} {before cs : List Char} {c : Char}
    (type : String) {ps : List (Pattern σ)} {context : σ}
    (hcut : CutAt source cursor before (c :: cs)) (hrefused : Refused source cursor ps context) :
    FirstAnswer source cursor (ps ++ [⟨type, .anyChar⟩]) context ps ⟨type, .anyChar⟩ []
      { result := .ok (some ⟨cursor, cursor + c.utf8Size⟩)
        context := contextAfter source cursor ps context } where
  split := rfl
  refused := hrefused
  asked := by simp only [Matcher.anyChar, charSpanAt?, hcut.afterBytes?]
  decisive := by simp only [ne_eq, Except.ok.injEq, reduceCtorEq, not_false_eq_true]

theorem isEmpty_charSpan (cursor : Nat) (c : Char) :
    (⟨cursor, cursor + c.utf8Size⟩ : Span).isEmpty = false := by
  have hsize := c.utf8Size_pos
  simp only [Span.isEmpty, decide_eq_false_iff_not]
  omega

theorem phaseAfter_charSpan (cursor : Nat) (c : Char) :
    phaseAfter cursor ⟨cursor, cursor + c.utf8Size⟩ = .scanning := by
  rw [phaseAfter, isEmpty_charSpan, Bool.false_and, if_neg Bool.false_ne_true]

theorem spanError?_charSpan {source : String} {cursor : Nat} {before cs : List Char} {c : Char}
    (hcut : CutAt source cursor before (c :: cs)) (type : String) :
    spanError? source cursor type ⟨cursor, cursor + c.utf8Size⟩ = none := by
  rw [spanError?_eq_none_iff, isValidIn_iff]
  exact ⟨Nat.le_refl _, before, [c], cs, hcut, rfl⟩

/-- The token of that span is the character that would be given as unmatched, but
    for its type. -/
theorem tokenAt_charSpan (s : Scanner σ) {source : String} {cursor : Nat}
    {before cs : List Char} {c : Char} (hcut : CutAt source cursor before (c :: cs))
    (type : String) : s.tokenAt source type ⟨cursor, cursor + c.utf8Size⟩
      = { unmatchedAt source cursor with type } := by
  rw [tokenAt, isEmpty_charSpan, slice_of_append source _ before [c] cs hcut rfl]
  simp only [unmatchedAt, hcut.afterBytes?, Bool.false_and, Bool.false_eq_true, if_false]

/-- Where no pattern of a scanner matches, matching any character gives the same
    character under another type, and the same state is left unless the hook
    looks at the type. -/
theorem Unanswered.step_anyChar {s : Scanner σ} {source : String} {st : ScanState σ}
    (h : s.Unanswered source st) (htrack : OnTrack source st) (hblind : s.TypeBlind)
    (type : String) :
    Step (s.followedBy [⟨type, .anyChar⟩]) source st
      (.ok { unmatchedAt source st.cursor with type })
      ⟨st.cursor + byteLength (unmatchedAt source st.cursor).text.toList, .scanning,
        s.notify (unmatchedAt source st.cursor)
          (contextAfter source st.cursor s.patterns st.context)⟩ := by
  rcases st with ⟨cursor, phase, context⟩
  rcases h with ⟨hphase, hlt, hrefused⟩
  rcases htrack.cut with ⟨before, rest, hcut⟩
  rcases unmatchedAt_eq hcut hlt with ⟨c, cs, hrest, htoken⟩
  rw [hrest] at hcut
  simp only at hphase hlt hrefused hcut htoken
  rw [hphase]
  have hstep : Step (s.followedBy [⟨type, .anyChar⟩]) source ⟨cursor, .scanning, context⟩ _ _ :=
    .finds cursor context _ _ _ _ _ hlt (firstAnswer_anyChar type hcut hrefused) rfl
      (spanError?_charSpan hcut type)
  rw [phaseAfter_charSpan, tokenAt_charSpan _ hcut] at hstep
  -- The hook is shown the token under its new type.
  have hleft : (s.followedBy [⟨type, .anyChar⟩]).notify { unmatchedAt source cursor with type }
      = s.notify (unmatchedAt source cursor) := funext (hblind _ _ rfl rfl)
  have hstop : byteLength (unmatchedAt source cursor).text.toList = c.utf8Size := by
    rw [htoken, String.toList_ofList]
    rfl
  rw [hleft] at hstep
  rw [hstop]
  exact hstep

/-- What a pull gives, and what it gives when any character is matched at last. -/
inductive Retyped (s : Scanner σ) (source : String) (st : ScanState σ) (type : String) :
    Option ScanItem → Option ScanItem → Prop where
  /-- A character that no pattern matches has the type of any character then. -/
  | unanswered (h : s.Unanswered source st) :
      Retyped s source st type (some (.ok (unmatchedAt source st.cursor)))
        (some (.ok { unmatchedAt source st.cursor with type }))
  /-- A character that is recovered stays unmatched. -/
  | recovered (h : st.phase = .recover) :
      Retyped s source st type (some (.ok (unmatchedAt source st.cursor)))
        (some (.ok (unmatchedAt source st.cursor)))
  /-- Everything else stays as it is. -/
  | kept (hanswered : ¬ s.Unanswered source st) (hphase : st.phase ≠ .recover)
      (item : Option ScanItem) : Retyped s source st type item item

/-- The scan gives nothing more in the same place. -/
theorem Retyped.eq_none_iff {s : Scanner σ} {source type : String} {st : ScanState σ}
    {item item' : Option ScanItem} (h : Retyped s source st type item item') :
    item' = none ↔ item = none := by
  cases h with
  | unanswered h => simp only [reduceCtorEq]
  | recovered h => simp only [reduceCtorEq]
  | kept hanswered hphase item => exact Iff.rfl

theorem pull_followedBy_anyChar (s : Scanner σ) (type source : String) (st : ScanState σ)
    (htrack : OnTrack source st) (hblind : s.TypeBlind) :
    Retyped s source st type (s.pull source st).value.1
        ((s.followedBy [⟨type, .anyChar⟩]).pull source st).value.1 ∧
      ((s.followedBy [⟨type, .anyChar⟩]).pull source st).value.2
        = (s.pull source st).value.2 := by
  by_cases h : s.Unanswered source st
  · rw [h.step.pull_eq, (h.step_anyChar htrack hblind type).pull_eq]
    exact ⟨.unanswered h, rfl⟩
  · -- The same item is given, and it is unmatched only if it is recovered.
    rw [pull_followedBy s _ source st h]
    refine ⟨?_, rfl⟩
    by_cases hrecover : st.phase = .recover
    · have hstep : Step s source ⟨st.cursor, .recover, st.context⟩ _ _ :=
        .recovers st.cursor st.context
      rw [← hrecover] at hstep
      rw [hstep.pull_eq]
      exact .recovered hrecover
    · exact .kept h hrecover _

/-- Matching any character at last only gives another type to the characters that
    no pattern matches. Recovered characters stay unmatched, and the positions, the
    texts, an error and the contexts are the same. The hook must not look at types,
    as without a hook nothing does. -/
theorem scan_add_anyChar (s : Scanner σ) (type source : String) (context : σ)
    (hname : type ≠ "") (hfree : TokenType.isReserved type = false) (hblind : s.TypeBlind) :
    ∃ s' : Scanner σ, (s.add type .anyChar).value = .ok s' ∧
      (∀ n, Retyped s source (s.stateAfter source n { context }) type
        (s.scan source context).value.1[n]? (s'.scan source context).value.1[n]?) ∧
      (s'.scan source context).value.1.length = (s.scan source context).value.1.length ∧
      (∀ n, s'.stateAfter source n { context } = s.stateAfter source n { context }) ∧
      (s'.scan source context).value.2 = (s.scan source context).value.2 := by
  have hpulls := fun n => pull_followedBy_anyChar s type source _
    (onTrack_stateAfter s source context n) hblind
  have hstates : ∀ n, (s.followedBy [⟨type, .anyChar⟩]).stateAfter source n { context }
      = s.stateAfter source n { context } := fun n => stateAfter_congr n fun m _ => (hpulls m).2
  have hitems : ∀ n, Retyped s source (s.stateAfter source n { context }) type
      (s.scan source context).value.1[n]?
      ((s.followedBy [⟨type, .anyChar⟩]).scan source context).value.1[n]? := by
    intro n
    rw [scan_getElem?, scan_getElem?, answer, answer, hstates n]
    exact (hpulls n).1
  -- No pull gives an item in one scan only, so they are of the same length.
  have hlength : ∀ n, ((s.followedBy [⟨type, .anyChar⟩]).scan source context).value.1.length ≤ n ↔
      (s.scan source context).value.1.length ≤ n := by
    intro n
    rw [← List.getElem?_eq_none_iff, ← List.getElem?_eq_none_iff]
    exact (hitems n).eq_none_iff
  refine ⟨_, s.add_eq_followedBy type .anyChar hname hfree, hitems, ?_, hstates, ?_⟩
  · exact Nat.le_antisymm ((hlength _).mpr (Nat.le_refl _)) ((hlength _).mp (Nat.le_refl _))
  · rw [scan_state, scan_state, hstates]

theorem scan_add_anyChar_onceEmpty :
    "char" ≠ "" ∧ TokenType.isReserved "char" = false ∧ onceEmpty.TypeBlind ∧
    ∃ s' : Scanner Nat, (onceEmpty.add "char" .anyChar).value = .ok s' ∧
      (∀ n, Retyped onceEmpty "äb" (onceEmpty.stateAfter "äb" n { context := 0 }) "char"
        (onceEmpty.scan "äb" 0).value.1[n]? (s'.scan "äb" 0).value.1[n]?) ∧
      (s'.scan "äb" 0).value.1.length = (onceEmpty.scan "äb" 0).value.1.length ∧
      (∀ n, s'.stateAfter "äb" n { context := 0 }
        = onceEmpty.stateAfter "äb" n { context := 0 }) ∧
      (s'.scan "äb" 0).value.2 = (onceEmpty.scan "äb" 0).value.2 := by
  have hname : "char" ≠ "" := by decide
  have hfree : TokenType.isReserved "char" = false := by decide
  have hblind : onceEmpty.TypeBlind := typeBlind_of_onMatch _ rfl
  exact ⟨hname, hfree, hblind, scan_add_anyChar onceEmpty "char" "äb" 0 hname hfree hblind⟩

-- The first character is recovered behind the empty match, the second one is matched.
example : ((onceEmpty.followedBy [⟨"char", .anyChar⟩]).scan "äb" 0).value.1
    = [.ok .start, .ok ⟨"mark", "", 0⟩, .ok ⟨TokenType.unmatched, "ä", 0⟩, .ok ⟨"char", "b", 2⟩,
      .ok (.stop 3)] := by rfl

end Scanner

end Highlighter
