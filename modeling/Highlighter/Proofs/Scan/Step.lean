import Highlighter.Proofs.Offsets

/-!
# Steps of a scan

What one pull can do, said once for all later proofs.

A pull asks the patterns in order, and what it does depends on the first of
them that does not refuse. `FirstAnswer` names that pattern: the ones before it
have refused, each asked with the context that the one before it left, and it
has given an answer that is not a refusal. Either there is such a pattern or
all of them refuse, and `firstMatch` finds out which.

`Step` then has one rule for each thing that a pull can do. `pull_iff` says that
the rules are complete and that each of them is really taken, so a proof about a
pull is a case analysis of `Step` and never has to open `pull` again. A pull
gives nothing only in a scan that is over, and then changes nothing.

`OnTrack` is what all states of a scan have in common: the cursor is a boundary
of the source, and a character stands at it where one has to be recovered.
`Step.onTrack` carries it over a step, whatever spans the matchers report, since
a span that is no piece of the source ends the scan. `Step.place` says where the
token of a step lies: behind the old cursor and up to the new one.

## Main definitions

* `contextAfter`: The context that refusing patterns leave.
* `Refused`: Patterns asked in order that all refuse.
* `FirstAnswer`: The first pattern that does not refuse, and its answer.
* `Step`: The rules of a scan.
* `OnTrack`: What all states of a scan have in common.
* `TokenPlace`: Where a token lies between two cursors.

## Theorems

* `FirstAnswer.mem`: The pattern that answers first is one of the patterns.
* `firstMatch_of_refused`: If all patterns refuse there is no match.
* `firstMatch_of_firstAnswer`: The first answer decides.
* `refused_or_firstAnswer`: Either all patterns refuse or one answers first.
* `spanError?_eq_none_iff`: The spans that can be the next token.
* `spanError?_eq_some_iff`: The two errors about a span, and when they arise.
* `Step.pull_eq`: Each rule is what a pull does.
* `pull_of_done`: A scan that is over gives nothing and stays as it is.
* `step_exists`: A scan that is not over takes one of the steps.
* `pull_iff`: A pull that gives something is a step, and conversely.
* `lt_stop_of_phaseAfter`, `lt_unmatchedAt`: What moves the cursor.
* `Step.place`: The token of a step lies behind the cursor.
* `Step.onTrack`: Steps keep a scan on its track.
-/

namespace Highlighter

namespace Scanner

variable {σ : Type}

/-! ## Asking the patterns -/

/-- The context that patterns leave when all of them are asked. -/
def contextAfter (source : String) (offset : Nat) : List (Pattern σ) → σ → σ
  | [], context => context
  | p :: ps, context => contextAfter source offset ps (p.matcher.find source offset context).context

/-- Patterns asked in order, each with the context that the one before it left,
    all refuse. -/
def Refused (source : String) (offset : Nat) : List (Pattern σ) → σ → Prop
  | [], _ => True
  | p :: ps, context =>
    (p.matcher.find source offset context).result = .ok none ∧
      Refused source offset ps (p.matcher.find source offset context).context

/-- The first of some patterns that does not refuse, and its answer. -/
structure FirstAnswer (source : String) (offset : Nat) (patterns : List (Pattern σ)) (context : σ)
    (before : List (Pattern σ)) (p : Pattern σ) (after : List (Pattern σ)) (answer : Answer σ) :
    Prop where
  /-- The pattern stands between others. -/
  split : patterns = before ++ p :: after
  /-- The ones before it have refused. -/
  refused : Refused source offset before context
  /-- It is asked with the context that they left. -/
  asked : p.matcher.find source offset (contextAfter source offset before context) = answer
  /-- It does not refuse. -/
  decisive : answer.result ≠ .ok none

/-- A pattern that answers is one of the patterns. -/
theorem FirstAnswer.mem {source : String} {offset : Nat} {patterns : List (Pattern σ)}
    {context : σ} {before : List (Pattern σ)} {p : Pattern σ} {after : List (Pattern σ)}
    {answer : Answer σ}
    (h : FirstAnswer source offset patterns context before p after answer) : p ∈ patterns := by
  rw [h.split]
  exact List.mem_append_right _ List.mem_cons_self

/-- What the patterns answer together if one of them answers. -/
def hitOf (p : Pattern σ) (answer : Answer σ) : Hit :=
  match answer.result with
  | .error e => .fault e
  | .ok (some span) => .found p.type span
  | .ok none => .nothing

theorem firstMatch_cons_of_refused (source : String) (offset : Nat) (p : Pattern σ)
    (ps : List (Pattern σ)) (context : σ)
    (h : (p.matcher.find source offset context).result = .ok none) :
    (firstMatch source offset (p :: ps) context).value
      = (firstMatch source offset ps (p.matcher.find source offset context).context).value := by
  simp only [firstMatch, h, Logged.after_value]

theorem firstMatch_cons_of_answer (source : String) (offset : Nat) (p : Pattern σ)
    (ps : List (Pattern σ)) (context : σ)
    (h : (p.matcher.find source offset context).result ≠ .ok none) :
    (firstMatch source offset (p :: ps) context).value
      = (hitOf p (p.matcher.find source offset context),
        (p.matcher.find source offset context).context) := by
  -- What comes after the pattern is dropped, whether it fails or reports a span.
  rcases hres : (p.matcher.find source offset context).result with e | found
  · simp only [firstMatch, hitOf, hres]
  · rcases found with _ | span
    · exact absurd hres h
    · simp only [firstMatch, hitOf, hres]

theorem firstMatch_append (source : String) (offset : Nat) (ps qs : List (Pattern σ))
    (context : σ) (h : Refused source offset ps context) :
    (firstMatch source offset (ps ++ qs) context).value
      = (firstMatch source offset qs (contextAfter source offset ps context)).value := by
  induction ps generalizing context with
  | nil => rfl
  | cons p ps ih =>
      rw [List.cons_append, firstMatch_cons_of_refused _ _ _ _ _ h.1]
      exact ih _ h.2

/-- If all patterns refuse there is no match. -/
theorem firstMatch_of_refused (source : String) (offset : Nat) (ps : List (Pattern σ))
    (context : σ) (h : Refused source offset ps context) :
    (firstMatch source offset ps context).value
      = (.nothing, contextAfter source offset ps context) := by
  have happ := firstMatch_append source offset ps [] context h
  rw [List.append_nil] at happ
  rw [happ]
  rfl

/-- The first answer decides, and its context is the one that is left. -/
theorem firstMatch_of_firstAnswer {source : String} {offset : Nat} {patterns : List (Pattern σ)}
    {context : σ} {before : List (Pattern σ)} {p : Pattern σ} {after : List (Pattern σ)}
    {answer : Answer σ}
    (h : FirstAnswer source offset patterns context before p after answer) :
    (firstMatch source offset patterns context).value = (hitOf p answer, answer.context) := by
  rw [h.split, firstMatch_append _ _ _ _ _ h.refused, firstMatch_cons_of_answer, h.asked]
  rw [h.asked]
  exact h.decisive

/-- Either all patterns refuse or one of them answers first. -/
theorem refused_or_firstAnswer (source : String) (offset : Nat) (ps : List (Pattern σ))
    (context : σ) : Refused source offset ps context ∨
      ∃ before p after answer, FirstAnswer source offset ps context before p after answer := by
  induction ps generalizing context with
  | nil => exact Or.inl trivial
  | cons p ps ih =>
      by_cases hp : (p.matcher.find source offset context).result = .ok none
      · rcases ih (p.matcher.find source offset context).context with hrest | hrest
        · exact Or.inl ⟨hp, hrest⟩
        · rcases hrest with ⟨before, q, after, answer, h⟩
          refine Or.inr ⟨p :: before, q, after, answer, ?_, ⟨hp, h.refused⟩, h.asked, h.decisive⟩
          rw [h.split, List.cons_append]
      · exact Or.inr ⟨[], p, ps, _, rfl, trivial, rfl, hp⟩

/-! ## Checking a span -/

/-- The spans that can be the next token. -/
theorem spanError?_eq_none_iff (source : String) (cursor : Nat) (type : String) (span : Span) :
    spanError? source cursor type span = none ↔
      cursor ≤ span.start ∧ span.isValidIn source = true := by
  unfold spanError?
  by_cases hback : span.start < cursor
  · rw [if_pos hback]
    simp only [reduceCtorEq, false_iff, not_and]
    omega
  · rw [if_neg hback]
    by_cases hvalid : span.isValidIn source = true
    · rw [if_pos hvalid]
      simp only [true_iff]
      exact ⟨by omega, hvalid⟩
    · rw [if_neg hvalid]
      simp only [reduceCtorEq, false_iff, not_and]
      exact fun _ => hvalid

/-- The two errors about a span. A span that goes back is reported as such,
    whatever else is wrong with it. -/
theorem spanError?_eq_some_iff (source : String) (cursor : Nat) (type : String) (span : Span)
    (e : Error) : spanError? source cursor type span = some e ↔
      (span.start < cursor ∧ e = .wentBackwards type span.start cursor) ∨
      (cursor ≤ span.start ∧ span.isValidIn source = false ∧
        e = .badSpan type span (sourceLength source)) := by
  unfold spanError?
  by_cases hback : span.start < cursor
  · rw [if_pos hback]
    constructor
    · intro h
      exact Or.inl ⟨hback, (Option.some.inj h).symm⟩
    · rintro (⟨_, he⟩ | ⟨hle, _⟩)
      · rw [he]
      · omega
  · rw [if_neg hback]
    by_cases hvalid : span.isValidIn source = true
    · rw [if_pos hvalid]
      simp only [reduceCtorEq, hvalid, Bool.true_eq_false, false_and, and_false, or_false,
        false_iff, not_and]
      exact fun h => absurd h hback
    · rw [if_neg hvalid]
      rw [Bool.not_eq_true] at hvalid
      constructor
      · intro h
        exact Or.inr ⟨by omega, hvalid, (Option.some.inj h).symm⟩
      · rintro (⟨h, _⟩ | ⟨_, _, he⟩)
        · exact absurd h hback
        · rw [he]

/-! ## The rules of a scan -/

/-- The rules of a scan: what a pull gives in a state, and the state after it. -/
inductive Step (s : Scanner σ) (source : String) : ScanState σ → ScanItem → ScanState σ → Prop where
  /-- The start token comes first. -/
  | opens (cursor : Nat) (context : σ) :
      Step s source ⟨cursor, .start, context⟩ (.ok .start) ⟨cursor, .scanning, context⟩
  /-- The end token comes when the source is used up. -/
  | ends (cursor : Nat) (context : σ) (hend : sourceLength source ≤ cursor) :
      Step s source ⟨cursor, .scanning, context⟩ (.ok (.stop cursor)) ⟨cursor, .done, context⟩
  /-- The first pattern that answers fails. -/
  | fails (cursor : Nat) (context : σ) (before : List (Pattern σ)) (p : Pattern σ)
      (after : List (Pattern σ)) (answer : Answer σ) (e : Error)
      (hlt : cursor < sourceLength source)
      (hfirst : FirstAnswer source cursor s.patterns context before p after answer)
      (hres : answer.result = .error e) :
      Step s source ⟨cursor, .scanning, context⟩ (.error e) ⟨cursor, .done, answer.context⟩
  /-- It reports a span that cannot be the next token. -/
  | rejects (cursor : Nat) (context : σ) (before : List (Pattern σ)) (p : Pattern σ)
      (after : List (Pattern σ)) (answer : Answer σ) (span : Span) (e : Error)
      (hlt : cursor < sourceLength source)
      (hfirst : FirstAnswer source cursor s.patterns context before p after answer)
      (hres : answer.result = .ok (some span))
      (herr : spanError? source cursor p.type span = some e) :
      Step s source ⟨cursor, .scanning, context⟩ (.error e) ⟨cursor, .done, answer.context⟩
  /-- It reports the span of the next token. -/
  | finds (cursor : Nat) (context : σ) (before : List (Pattern σ)) (p : Pattern σ)
      (after : List (Pattern σ)) (answer : Answer σ) (span : Span)
      (hlt : cursor < sourceLength source)
      (hfirst : FirstAnswer source cursor s.patterns context before p after answer)
      (hres : answer.result = .ok (some span))
      (hfits : spanError? source cursor p.type span = none) :
      Step s source ⟨cursor, .scanning, context⟩ (.ok (s.tokenAt source p.type span))
        ⟨span.stop, phaseAfter cursor span,
          s.notify (s.tokenAt source p.type span) answer.context⟩
  /-- All patterns refuse, and the next character is unmatched. -/
  | skips (cursor : Nat) (context : σ) (hlt : cursor < sourceLength source)
      (hrefused : Refused source cursor s.patterns context) :
      Step s source ⟨cursor, .scanning, context⟩ (.ok (unmatchedAt source cursor))
        ⟨cursor + byteLength (unmatchedAt source cursor).text.toList, .scanning,
          s.notify (unmatchedAt source cursor) (contextAfter source cursor s.patterns context)⟩
  /-- The character behind an empty match in place is unmatched. -/
  | recovers (cursor : Nat) (context : σ) :
      Step s source ⟨cursor, .recover, context⟩ (.ok (unmatchedAt source cursor))
        ⟨cursor + byteLength (unmatchedAt source cursor).text.toList, .scanning,
          s.notify (unmatchedAt source cursor) context⟩

/-- A pull at a cursor before the end of the source is decided by the first
    answer. -/
theorem pull_of_firstAnswer (s : Scanner σ) (source : String) (cursor : Nat) (context : σ)
    (before : List (Pattern σ)) (p : Pattern σ) (after : List (Pattern σ)) (answer : Answer σ)
    (hlt : cursor < sourceLength source)
    (hfirst : FirstAnswer source cursor s.patterns context before p after answer) :
    (s.pull source ⟨cursor, .scanning, context⟩).value
      = match answer.result with
        | .error e => (some (.error e), ⟨cursor, .done, answer.context⟩)
        | .ok (some span) => (s.giveFound source cursor p.type span answer.context).value
        | .ok none => (none, ⟨cursor, .scanning, context⟩) := by
  simp only [pull, if_neg (Nat.not_le.mpr hlt), Logged.andThen_value,
    firstMatch_of_firstAnswer hfirst, hitOf]
  rcases hres : answer.result with e | found
  · simp only [stopWith]
  · rcases found with _ | span
    · exact absurd hres hfirst.decisive
    · rfl

/-- Each rule is what a pull does. -/
theorem Step.pull_eq {s : Scanner σ} {source : String} {st st' : ScanState σ} {item : ScanItem}
    (h : Step s source st item st') : (s.pull source st).value = (some item, st') := by
  cases h with
  | opens cursor context => rfl
  | ends cursor context hend => simp only [pull, if_pos hend]
  | fails cursor context before p after answer e hlt hfirst hres =>
      rw [pull_of_firstAnswer s source cursor context before p after answer hlt hfirst, hres]
  | rejects cursor context before p after answer span e hlt hfirst hres herr =>
      rw [pull_of_firstAnswer s source cursor context before p after answer hlt hfirst, hres]
      simp only [giveFound, herr, stopWith]
  | finds cursor context before p after answer span hlt hfirst hres hfits =>
      rw [pull_of_firstAnswer s source cursor context before p after answer hlt hfirst, hres]
      simp only [giveFound, hfits, give]
  | skips cursor context hlt hrefused =>
      simp only [pull, if_neg (Nat.not_le.mpr hlt), Logged.andThen_value,
        firstMatch_of_refused _ _ _ _ hrefused, giveUnmatched, give]
  | recovers cursor context => simp only [pull, giveUnmatched, give]

/-- A scan that is over gives nothing and stays as it is. -/
theorem pull_of_done (s : Scanner σ) (source : String) (st : ScanState σ) (h : st.phase = .done) :
    (s.pull source st).value = (none, st) := by
  simp only [pull, h]

/-- A scan that is not over takes one of the steps. -/
theorem step_exists (s : Scanner σ) (source : String) (st : ScanState σ) (h : st.phase ≠ .done) :
    ∃ item st', Step s source st item st' := by
  rcases st with ⟨cursor, phase, context⟩
  cases phase with
  | start => exact ⟨_, _, .opens cursor context⟩
  | done => exact absurd rfl h
  | recover => exact ⟨_, _, .recovers cursor context⟩
  | scanning =>
      by_cases hlt : cursor < sourceLength source
      · rcases refused_or_firstAnswer source cursor s.patterns context with hrefused | hfirst
        · exact ⟨_, _, .skips cursor context hlt hrefused⟩
        · rcases hfirst with ⟨before, p, after, answer, hfirst⟩
          rcases hres : answer.result with e | found
          · exact ⟨_, _, .fails cursor context before p after answer e hlt hfirst hres⟩
          · rcases found with _ | span
            · exact absurd hres hfirst.decisive
            · rcases herr : spanError? source cursor p.type span with _ | e
              · exact ⟨_, _, .finds cursor context before p after answer span hlt hfirst hres herr⟩
              · exact ⟨_, _,
                  .rejects cursor context before p after answer span e hlt hfirst hres herr⟩
      · exact ⟨_, _, .ends cursor context (Nat.not_lt.mp hlt)⟩

/-- A pull that gives something is a step, and conversely. -/
theorem pull_iff (s : Scanner σ) (source : String) (st st' : ScanState σ) (item : ScanItem) :
    (s.pull source st).value = (some item, st') ↔ Step s source st item st' := by
  refine ⟨fun h => ?_, Step.pull_eq⟩
  by_cases hdone : st.phase = .done
  · rw [pull_of_done s source st hdone] at h
    simp only [Prod.mk.injEq, reduceCtorEq, false_and] at h
  · -- Some step is taken, and since a pull gives one thing only it is this one.
    rcases step_exists s source st hdone with ⟨item', st'', hstep⟩
    rw [hstep.pull_eq, Prod.mk.injEq, Option.some.injEq] at h
    rw [← h.1, ← h.2]
    exact hstep

/-! ## Staying on the track -/

/-- What all states of a scan have in common. -/
structure OnTrack (source : String) (st : ScanState σ) : Prop where
  /-- The cursor is a boundary of the source. -/
  cut : ∃ before rest, CutAt source st.cursor before rest
  /-- A character stands where one has to be recovered. -/
  ahead : st.phase = .recover → st.cursor < sourceLength source
  /-- A scan starts at the start. -/
  fresh : st.phase = .start → st.cursor = 0

theorem onTrack_initial (source : String) (context : σ) :
    OnTrack source ({ context } : ScanState σ) where
  cut := ⟨[], source.toList, cutAt_zero source⟩
  ahead := fun h => by simp only [reduceCtorEq] at h
  fresh := fun _ => rfl

/-- In the other phases only the boundary matters. -/
theorem OnTrack.of_cut {source : String} {st : ScanState σ}
    (hcut : ∃ before rest, CutAt source st.cursor before rest)
    (hphase : st.phase = .scanning ∨ st.phase = .done) : OnTrack source st where
  cut := hcut
  ahead := fun h => by rcases hphase with hp | hp <;> simp only [hp, reduceCtorEq] at h
  fresh := fun h => by rcases hphase with hp | hp <;> simp only [hp, reduceCtorEq] at h

/-- A token lies in a source from an offset on: some text stands before it,
    and it ends at another offset. -/
structure TokenPlace (source : String) (start : Nat) (t : Token) (stop : Nat) : Prop where
  /-- The token is a piece of the source. -/
  cut : ∃ before rest, CutAt source t.position before (t.text.toList ++ rest)
  /-- It begins at the first offset or later. -/
  start_le : start ≤ t.position
  /-- It ends at the second one. -/
  stop_eq : stop = t.position + byteLength t.text.toList

/-- The character at a boundary before the end, as an unmatched token. -/
theorem unmatchedAt_eq {source : String} {cursor : Nat} {before rest : List Char}
    (hcut : CutAt source cursor before rest) (hlt : cursor < sourceLength source) :
    ∃ c cs, rest = c :: cs ∧
      unmatchedAt source cursor = ⟨TokenType.unmatched, String.ofList [c], cursor⟩ := by
  rcases rest with _ | ⟨c, cs⟩
  · exact absurd rfl (hcut.rest_ne_nil hlt)
  · refine ⟨c, cs, rfl, ?_⟩
    simp only [unmatchedAt, hcut.afterBytes?]

theorem unmatchedAt_place {source : String} {cursor : Nat} {before rest : List Char}
    (hcut : CutAt source cursor before rest) (hlt : cursor < sourceLength source) :
    TokenPlace source cursor (unmatchedAt source cursor)
      (cursor + byteLength (unmatchedAt source cursor).text.toList) := by
  rcases unmatchedAt_eq hcut hlt with ⟨c, cs, hrest, htoken⟩
  rw [htoken]
  refine ⟨⟨before, cs, ?_⟩, Nat.le_refl _, rfl⟩
  simp only [String.toList_ofList, List.cons_append, List.nil_append]
  rwa [← hrest]

/-- The character at a boundary before the end has some bytes. -/
theorem lt_unmatchedAt {source : String} {cursor : Nat} {before rest : List Char}
    (hcut : CutAt source cursor before rest) (hlt : cursor < sourceLength source) :
    cursor < cursor + byteLength (unmatchedAt source cursor).text.toList := by
  rcases unmatchedAt_eq hcut hlt with ⟨c, cs, _, htoken⟩
  have hsize := c.utf8Size_pos
  rw [htoken, String.toList_ofList, byteLength_cons, byteLength_nil]
  omega

/-- An unmatched token uses up one character. -/
theorem charsLeft_unmatchedAt {source : String} {cursor : Nat} {before rest : List Char}
    (hcut : CutAt source cursor before rest) (hlt : cursor < sourceLength source) :
    charsLeft source cursor
      = charsLeft source (cursor + byteLength (unmatchedAt source cursor).text.toList) + 1 := by
  rcases unmatchedAt_eq hcut hlt with ⟨c, cs, hrest, htoken⟩
  rw [hrest] at hcut
  have hmoved : CutAt source cursor before ([c] ++ cs) := hcut
  rw [htoken]
  simp only [String.toList_ofList, hmoved.move.charsLeft_eq, hcut.charsLeft_eq, List.length_cons]

/-- The token of a pattern has the type of the pattern, or tells that it is
    empty. -/
theorem tokenAt_type (s : Scanner σ) (source type : String) (span : Span) :
    (s.tokenAt source type span).type
      = if span.isEmpty && s.markEmpty then TokenType.empty else type := rfl

theorem tokenAt_place (s : Scanner σ) (source : String) (cursor : Nat) (type : String)
    (span : Span) (hfits : spanError? source cursor type span = none) :
    TokenPlace source cursor (s.tokenAt source type span) span.stop := by
  rw [spanError?_eq_none_iff, isValidIn_iff] at hfits
  rcases hfits with ⟨hle, before, piece, rest, hcut, hstop⟩
  have htext : (s.tokenAt source type span).text.toList = piece := by
    simp only [tokenAt, slice_of_append source span before piece rest hcut hstop,
      String.toList_ofList]
  exact ⟨⟨before, rest, by rwa [htext]⟩, hle, by rw [htext, hstop]; rfl⟩

/-- A token ends at a boundary. -/
theorem TokenPlace.cut_stop {source : String} {start stop : Nat} {t : Token}
    (h : TokenPlace source start t stop) : ∃ before rest, CutAt source stop before rest := by
  rcases h.cut with ⟨before, rest, hcut⟩
  rw [h.stop_eq]
  exact ⟨_, rest, hcut.move⟩

/-- The token of a step between the first and the last lies behind the old
    cursor and ends at the new one. -/
theorem Step.place {s : Scanner σ} {source : String} {st st' : ScanState σ} {t : Token}
    (h : Step s source st (.ok t) st') (htrack : OnTrack source st) (hstart : st.phase ≠ .start)
    (hdone : st'.phase ≠ .done) : TokenPlace source st.cursor t st'.cursor := by
  rcases htrack.cut with ⟨before, rest, hcut⟩
  cases h with
  | opens cursor context => exact absurd rfl hstart
  | ends cursor context hend => exact absurd rfl hdone
  | finds cursor context _ p _ answer span hlt hfirst hres hfits =>
      exact tokenAt_place s source cursor p.type span hfits
  | skips cursor context hlt hrefused => exact unmatchedAt_place hcut hlt
  | recovers cursor context => exact unmatchedAt_place hcut (htrack.ahead rfl)

/-- Only an empty match in place makes the next character be recovered. -/
theorem phaseAfter_eq_recover_iff (cursor : Nat) (span : Span) :
    phaseAfter cursor span = .recover ↔ span.stop ≤ span.start ∧ span.stop = cursor := by
  unfold phaseAfter
  simp only [Span.isEmpty, Bool.and_eq_true, decide_eq_true_eq, beq_iff_eq]
  by_cases h : span.stop ≤ span.start ∧ span.stop = cursor
  · rw [if_pos h]
    exact iff_of_true rfl h
  · rw [if_neg h]
    simp only [reduceCtorEq, false_iff]
    exact h

/-- After any other token the patterns are asked again. -/
theorem phaseAfter_eq_scanning (cursor : Nat) (span : Span)
    (h : phaseAfter cursor span ≠ .recover) : phaseAfter cursor span = .scanning := by
  unfold phaseAfter at h ⊢
  by_cases hc : (span.isEmpty && span.stop == cursor) = true
  · rw [if_pos hc] at h
    exact absurd rfl h
  · rw [if_neg hc]

/-- A match that leaves no character to be recovered moves the cursor. -/
theorem lt_stop_of_phaseAfter {source type : String} {cursor : Nat} {span : Span}
    (hfits : spanError? source cursor type span = none)
    (hphase : phaseAfter cursor span ≠ .recover) : cursor < span.stop := by
  rw [ne_eq, phaseAfter_eq_recover_iff] at hphase
  rw [spanError?_eq_none_iff, isValidIn_iff] at hfits
  rcases hfits with ⟨hle, _, piece, _, _, hstop⟩
  omega

theorem phaseAfter_ne (cursor : Nat) (span : Span) :
    phaseAfter cursor span ≠ .start ∧ phaseAfter cursor span ≠ .done := by
  by_cases h : phaseAfter cursor span = .recover
  · rw [h]
    decide
  · rw [phaseAfter_eq_scanning cursor span h]
    decide

/-- Steps keep a scan on its track, whatever the matchers report. -/
theorem Step.onTrack {s : Scanner σ} {source : String} {st st' : ScanState σ} {item : ScanItem}
    (h : Step s source st item st') (htrack : OnTrack source st) : OnTrack source st' := by
  rcases htrack.cut with ⟨before, rest, hcut⟩
  cases h with
  | opens => exact .of_cut ⟨before, rest, hcut⟩ (Or.inl rfl)
  | ends | fails | rejects => exact .of_cut ⟨before, rest, hcut⟩ (Or.inr rfl)
  | finds cursor context _ p _ answer span hlt hfirst hres hfits =>
      refine ⟨(tokenAt_place s source cursor p.type span hfits).cut_stop, ?_, ?_⟩
      · -- The match was empty and in place, so the cursor has not moved.
        intro hrecover
        rw [((phaseAfter_eq_recover_iff cursor span).mp hrecover).2]
        exact hlt
      · exact fun hfresh => absurd hfresh (phaseAfter_ne cursor span).1
  | skips cursor context hlt hrefused =>
      exact .of_cut (unmatchedAt_place hcut hlt).cut_stop (Or.inl rfl)
  | recovers cursor context =>
      exact .of_cut (unmatchedAt_place hcut (htrack.ahead rfl)).cut_stop (Or.inl rfl)

end Scanner

end Highlighter
