import Highlighter.Proofs.Scan.Ending
import Highlighter.Proofs.Words.Finding

/-!
# Lexemes with a text

When a scan gives no empty tokens.

An empty match is given like any other one. It wins over all patterns behind it, and it
leaves the scan where it was, so the next character has to be recovered without any
pattern being asked. A matcher that finds the empty text everywhere makes all patterns
behind it useless, and nothing is reported. So it matters which matchers never find it.

`Matcher.Consuming` names them. If all patterns are of that kind, every token between the
first and the last has a text: that of a pattern because its span is not empty, and that
of an unmatched character because it is that character. `Step.text_ne_empty` says so of
one step and `Run.text_ne_empty` of all.

The matcher of a list of words is consuming if no word is empty and there is a word at
all. The list without words is not: nothing between the brackets of its pattern is an
empty branch, and that matches everywhere.

## Main definitions

* `Matcher.Consuming`: matchers that never find the empty text.
* `Matcher.OfWords`: the matchers of at least one word, none of them empty.

## Theorems

* `Scanner.Step.text_ne_empty`, `Scanner.Run.text_ne_empty`: With consuming matchers, only
  the first and the last token are empty.
* `Scanner.scan_of_consuming`: The items of a scan with such matchers.
* `RegexMatcher.span?_words_nil`: The list without words finds the empty text everywhere.
* `RegexMatcher.span?_words_lt`: Lists of words that are not empty never find it.
* `RegexMatcher.words_find_text`: So a scan with such lists gives no empty tokens.
* `RegexMatcher.words_find_text_keywords`: A scan with two lists.
* `RegexMatcher.words_nil_find_empty`: An empty token from the list without words.
-/

namespace Highlighter

variable {σ : Type}

/-- A matcher that never finds the empty text: the spans that it reports at boundaries
    are not empty. -/
def Matcher.Consuming (m : Matcher σ) : Prop :=
  ∀ source offset context span, Span.isBoundary source offset = true →
    (m.find source offset context).result = .ok (some span) → span.start < span.stop

/-- The matchers of lists of words that have a word, but no empty one. -/
inductive Matcher.OfWords : Matcher σ → Prop where
  /-- The matcher of a list. -/
  | words (ws : List String) (hne : ws ≠ []) (hfilled : "" ∉ ws) (m : RegexMatcher)
      (h : RegexMatcher.words ws = .ok m) : OfWords m.toMatcher

/-! ## Scans with consuming matchers -/

namespace Scanner

/-- With consuming matchers, the token of a step between the first and the last has a
    text. -/
theorem Step.text_ne_empty {s : Scanner σ} {source : String} {st st' : ScanState σ} {t : Token}
    (h : Step s source st (.ok t) st') (htrack : OnTrack source st)
    (hconsuming : ∀ p ∈ s.patterns, p.matcher.Consuming) (hstart : st.phase ≠ .start)
    (hdone : st'.phase ≠ .done) : t.text ≠ "" := by
  rcases htrack.cut with ⟨before, rest, hcut⟩
  have hchar : st.cursor < sourceLength source → (unmatchedAt source st.cursor).text ≠ "" := by
    intro hlt
    rcases unmatchedAt_eq hcut hlt with ⟨c, cs, _, htoken⟩
    rw [htoken, ne_eq, ← String.toList_eq_nil_iff, String.toList_ofList]
    exact List.cons_ne_nil c []
  cases h with
  | opens cursor context => exact absurd rfl hstart
  | ends cursor context hend => exact absurd rfl hdone
  | finds cursor context before p after answer span hlt hfirst hres hfits =>
      have hboundary := (isBoundary_iff source cursor).mpr htrack.cut
      have hlength := hconsuming p hfirst.mem source cursor _ span hboundary
        (by rw [hfirst.asked, hres])
      have hstop := (tokenAt_place s source cursor p.type span hfits).stop_eq
      have hposition : (s.tokenAt source p.type span).position = span.start := rfl
      intro hempty
      rw [hempty, String.toList_empty, byteLength_nil] at hstop
      omega
  | skips cursor context hlt hrefused => exact hchar hlt
  | recovers cursor context => exact hchar (htrack.ahead rfl)

/-- With consuming matchers, all tokens of a run but the first and the last have a text. -/
theorem Run.text_ne_empty {s : Scanner σ} {source : String} {st last : ScanState σ}
    {items : List ScanItem} (h : Run s source st items last) (htrack : OnTrack source st)
    (hconsuming : ∀ p ∈ s.patterns, p.matcher.Consuming) (hstart : st.phase ≠ .start) :
    ∀ t, .ok t ∈ items.dropLast → t.text ≠ "" := by
  induction h with
  | finished st h => exact fun t ht => absurd ht List.not_mem_nil
  | step st st' last item items hstep hrest ih =>
      intro t ht
      by_cases hover : st'.phase = .done
      · -- This was the last item.
        rw [(hrest.eq_of_done hover).1] at ht
        exact absurd ht List.not_mem_nil
      · cases hrest with
        | finished _ hdone => exact absurd hdone hover
        | step _ st'' _ next items hnext hrest =>
            rw [List.dropLast_cons_cons, List.mem_cons] at ht
            rcases ht with hitem | hlater
            · rw [← hitem] at hstep
              exact hstep.text_ne_empty htrack hconsuming hstart hover
            · exact ih (hstep.onTrack htrack) hstep.phase_ne_start t hlater

/-- A scan with reliable and consuming matchers gives the start token, tokens with a text
    and the end token. -/
theorem scan_of_consuming (s : Scanner σ) (source : String) (context : σ)
    (hreliable : ∀ p ∈ s.patterns, p.matcher.Reliable)
    (hconsuming : ∀ p ∈ s.patterns, p.matcher.Consuming) :
    ∃ tokens : List Token,
      (s.scan source context).value.1
        = .ok .start :: (tokens.map .ok ++ [.ok (.stop (sourceLength source))]) ∧
      ∀ t ∈ tokens, t.text ≠ "" := by
  rcases (run_scan s source context).of_initial with ⟨rest, hitems, hrest⟩
  have htrack : OnTrack source (⟨0, .scanning, context⟩ : ScanState σ) :=
    .of_cut ⟨[], source.toList, cutAt_zero source⟩ (Or.inl rfl)
  rcases hrest.ending htrack Phase.noConfusion with ⟨tokens, final, hending, hfinal⟩
  have htext := hrest.text_ne_empty htrack hconsuming Phase.noConfusion
  have hok := hrest.ok_of_reliable htrack hreliable
  rw [hending] at hitems htext hok
  refine ⟨tokens, ?_, fun t ht => htext t ?_⟩
  · rcases hfinal with hfinal | ⟨e, hfinal⟩
    · rw [hitems, hfinal]
    · exact absurd (List.mem_append_right _ (List.mem_singleton.mpr hfinal.symm)) (hok e)
  · rw [List.dropLast_concat]
    exact List.mem_map_of_mem ht

end Scanner

/-! ## Lists of words -/

namespace RegexMatcher

/-- The list without words finds the empty text everywhere. -/
theorem span?_words_nil {m : RegexMatcher} (h : words [] = .ok m) {source : String} {offset : Nat}
    (hboundary : Span.isBoundary source offset = true) :
    m.span? source offset = some (.emptyAt offset) := by
  rcases (isBoundary_iff source offset).mp hboundary with ⟨before, rest, hcut⟩
  rw [words_nil] at h
  have hfinds : findsWord source offset "" = true := by
    rw [findsWord_eq hcut]
    rfl
  rw [span?_words (List.cons_ne_nil _ _) h hboundary, List.find?_cons_of_pos hfinds]
  rfl

/-- Words that are not empty are not found in the empty text. -/
theorem span?_words_lt {ws : List String} (hne : ws ≠ []) (hfilled : "" ∉ ws) {m : RegexMatcher}
    (h : words ws = .ok m) {source : String} {offset : Nat} {span : Span}
    (hboundary : Span.isBoundary source offset = true) (hspan : m.span? source offset = some span) :
    span.start < span.stop := by
  rw [span?_words hne h hboundary, Option.map_eq_some_iff] at hspan
  rcases hspan with ⟨w, hw, hspan⟩
  have hlength : byteLength w.toList ≠ 0 := by
    rw [ne_eq, byteLength_eq_zero_iff, String.toList_eq_nil_iff]
    rintro rfl
    exact hfilled (List.mem_of_find?_eq_some hw)
  rw [← hspan]
  exact Nat.lt_add_of_pos_right (Nat.pos_of_ne_zero hlength)

theorem consuming_of_ofWords {m : Matcher σ} (h : m.OfWords) : m.Consuming := by
  cases h with
  | words ws hne hfilled m h =>
      intro source offset context span hboundary hfind
      exact span?_words_lt hne hfilled h hboundary (Except.ok.inj hfind)

theorem reliable_of_ofWords {m : Matcher σ} (h : m.OfWords) : m.Reliable := by
  cases h with
  | words ws hne hfilled m h => exact m.reliable_toMatcher

/-- The list without words finds the empty text at every boundary. Lists with words of
    which none is empty never find it, and so a scan whose patterns are such lists gives no
    empty token between the first and the last. -/
theorem words_find_text (σ : Type) :
    (∀ m, words [] = .ok m → ∀ source offset, Span.isBoundary source offset = true →
      m.span? source offset = some (.emptyAt offset)) ∧
    (∀ ws m, ws ≠ [] → "" ∉ ws → words ws = .ok m →
      ∀ source offset span, Span.isBoundary source offset = true →
        m.span? source offset = some span → span.start < span.stop) ∧
    ∀ s : Scanner σ, (∀ p ∈ s.patterns, p.matcher.OfWords) → ∀ source context,
      ∃ tokens : List Token,
        (s.scan source context).value.1
          = .ok .start :: (tokens.map .ok ++ [.ok (.stop (sourceLength source))]) ∧
        ∀ t ∈ tokens, t.text ≠ "" := by
  refine ⟨?_, ?_, ?_⟩
  · exact fun m h source offset hboundary => span?_words_nil h hboundary
  · exact fun ws m hne hfilled h source offset span hboundary hspan =>
      span?_words_lt hne hfilled h hboundary hspan
  · intro s hwords source context
    exact s.scan_of_consuming source context (fun p hp => reliable_of_ofWords (hwords p hp))
      (fun p hp => consuming_of_ofWords (hwords p hp))

/-- A scanner of two lists, whose words begin with each other. -/
theorem words_find_text_keywords :
    ∃ keywords names, words ["if", "iffy"] = .ok keywords ∧ words ["i", "a.f"] = .ok names ∧
      (∀ span, keywords.span? "äiffy" 2 = some span → span.start < span.stop) ∧
      ∃ tokens : List Token,
        (({ patterns := [⟨"keyword", keywords.toMatcher⟩, ⟨"name", names.toMatcher⟩] } :
            Scanner Unit).scan "if a.f=b" ()).value.1
          = .ok .start :: (tokens.map .ok ++ [.ok (.stop (sourceLength "if a.f=b"))]) ∧
        ∀ t ∈ tokens, t.text ≠ "" := by
  rcases exists_words ["if", "iffy"] (by decide +kernel) with ⟨keywords, hkeywords⟩
  rcases exists_words ["i", "a.f"] (by decide +kernel) with ⟨names, hnames⟩
  have hall := words_find_text Unit
  refine ⟨keywords, names, hkeywords, hnames, fun span hspan => ?_, ?_⟩
  · exact hall.2.1 _ keywords (List.cons_ne_nil _ _) (by decide) hkeywords "äiffy" 2 span
      (by decide +kernel) hspan
  · refine hall.2.2 _ ?_ "if a.f=b" ()
    simp only [List.forall_mem_cons, List.not_mem_nil, false_implies, implies_true, and_true]
    exact ⟨.words _ (List.cons_ne_nil _ _) (by decide) _ hkeywords,
      .words _ (List.cons_ne_nil _ _) (by decide) _ hnames⟩

/-- The list without words has no empty word, but it finds the empty text, and a scan gives
    an empty token for it. -/
theorem words_nil_find_empty :
    ∃ m, words [] = .ok m ∧ "" ∉ ([] : List String) ∧ m.span? "ab" 0 = some ⟨0, 0⟩ ∧
      (({ patterns := [⟨"keyword", m.toMatcher⟩] } : Scanner Unit).scan "ab" ()).value.1[1]?
        = some (.ok ⟨"keyword", "", 0⟩) := by
  rcases exists_words [] (by decide +kernel) with ⟨m, hm⟩
  have hspan : m.span? "ab" 0 = some ⟨0, 0⟩ := span?_words_nil hm (by decide +kernel)
  refine ⟨m, hm, List.not_mem_nil, hspan, ?_⟩
  rw [← (Scanner.run_scan _ "ab" ()).answer_eq 1]
  have hlt : ¬sourceLength "ab" ≤ 0 := by decide +kernel
  simp only [Scanner.answer, Scanner.stateAfter, Scanner.pull, hlt, Scanner.firstMatch, toMatcher,
    hspan]
  rfl

end RegexMatcher

end Highlighter
