import Highlighter.Proofs.Scan.Calls
import Highlighter.Proofs.Scan.Registration

/-!
# The first match wins

What decides about the item that a pull gives.

A pull that asks the patterns asks them in order, each with the context that the
one before it left, and the first one that does not refuse decides. If it reports
a span that fits, the pull gives its token; if it fails or reports a span that
does not fit, the pull gives the error. The patterns behind it are not asked,
and the hook sees a token that is given exactly once and nothing else.

An unmatched character comes about in two ways: all patterns have refused, or
the item before was an empty match in place. In the second case no pattern is
asked at all. That the item before was of this kind is not written in the state,
only that a character has to be recovered, so `Step.emptyMatch_of_recover` looks
one step back.

The statements speak of the calls of a pull by `callsOf`, and the types of the
items tell the cases apart because no pattern has a reserved type.

## Main definitions

* `Decided`: The first pattern that answers in a state.
* `FirstFinds`: It reports the span of a token.
* `AllRefuse`: There is no such pattern.
* `Recovers`: An empty match in place came before.
* `FirstFails`: Its answer is an error or leads to one.

## Theorems

* `step_of_answer`: What a pull gives, it gives by a step.
* `TypesFree.tokenAt_ne`: A token of a pattern is told apart by its type.
* `Step.firstFinds`: A token of a pattern comes from the first answer.
* `Step.unmatched_cases`: The two ways to an unmatched character.
* `Step.emptyMatch_of_recover`: What precedes the recovery of a character.
* `emptyMatch_before`: What the pull before the recovery of a character gave.
* `Step.firstFails`: An error comes from the first answer.
* `FailsAt.step`: Such an answer ends the scan with that error.
* `FailsAt.callsOf_eq`: What is called before it.
* `answer_decided`: What decides about each item of a scan.
-/

namespace Highlighter

namespace Scanner

variable {σ : Type}

/-- In a state the patterns are asked, and one of them is the first to
    answer. -/
structure Decided (s : Scanner σ) (source : String) (st : ScanState σ)
    (before : List (Pattern σ)) (p : Pattern σ) (after : List (Pattern σ)) (answer : Answer σ) :
    Prop where
  /-- The patterns are asked in this phase. -/
  scanning : st.phase = .scanning
  /-- The source is not used up. -/
  inside : st.cursor < sourceLength source
  /-- The pattern is the first that does not refuse. -/
  first : FirstAnswer source st.cursor s.patterns st.context before p after answer

/-- The first pattern that answers reports a span, and the token of that span is
    given. -/
structure FindsAt (s : Scanner σ) (source : String) (st : ScanState σ) (t : Token) (left : σ)
    (before : List (Pattern σ)) (p : Pattern σ) (after : List (Pattern σ)) (answer : Answer σ)
    (span : Span) : Prop where
  /-- The pattern is the first to answer. -/
  decided : Decided s source st before p after answer
  /-- It reports the span. -/
  found : answer.result = .ok (some span)
  /-- The span is a piece of the source behind the cursor. -/
  fits : st.cursor ≤ span.start ∧ span.isValidIn source = true
  /-- The token begins where the span begins. -/
  position_eq : t.position = span.start
  /-- It ends where the span ends. -/
  stop_eq : t.position + byteLength t.text.toList = span.stop
  /-- It has the type of the pattern, unless it is marked as empty. -/
  type_eq : t.type = if s.markEmpty = true ∧ span.start = span.stop then TokenType.empty else p.type
  /-- The context is the one that the pattern left, after the hook. -/
  left_eq : left = s.notify t answer.context
  /-- The patterns up to this one are asked, and then the token is shown. -/
  calls_eq : s.callsOf source st
    = asksUpTo source st.cursor before st.context ++ [.shown t answer.context]

/-- Some pattern is the first to answer and reports the span of the token. -/
def FirstFinds (s : Scanner σ) (source : String) (st : ScanState σ) (t : Token) (left : σ) : Prop :=
  ∃ before p after answer span, FindsAt s source st t left before p after answer span

/-- All patterns are asked and refuse, and the character at the cursor is
    given. -/
structure AllRefuse (s : Scanner σ) (source : String) (st : ScanState σ) (t : Token) (left : σ) :
    Prop where
  /-- The patterns are asked in this phase. -/
  scanning : st.phase = .scanning
  /-- The source is not used up. -/
  inside : st.cursor < sourceLength source
  /-- All of them refuse. -/
  refused : Refused source st.cursor s.patterns st.context
  /-- The token is the character at the cursor. -/
  token_eq : t = unmatchedAt source st.cursor
  /-- The context is the one that the patterns left, after the hook. -/
  left_eq : left = s.notify t (contextAfter source st.cursor s.patterns st.context)
  /-- All patterns are asked, and then the token is shown. -/
  calls_eq : s.callsOf source st = asks source st.cursor 0 s.patterns st.context
    ++ [.shown t (contextAfter source st.cursor s.patterns st.context)]

/-- The pull before gave the empty token of a pattern and left the cursor where it
    was, and now the character there is given without asking any pattern. -/
structure Recovers (s : Scanner σ) (source : String) (context : σ) (n : Nat) (t : Token)
    (left : σ) : Prop where
  /-- The item before is an empty token at the cursor, which has not moved. -/
  previous : ∃ m u, n = m + 1 ∧ s.answer source { context } m = some (.ok u) ∧
    FirstFinds s source (s.stateAfter source m { context }) u
      (s.stateAfter source n { context }).context ∧
    u.text = "" ∧ u.position = (s.stateAfter source n { context }).cursor ∧
    (s.stateAfter source m { context }).cursor = (s.stateAfter source n { context }).cursor
  /-- The token is the character at the cursor. -/
  token_eq : t = unmatchedAt source (s.stateAfter source n { context }).cursor
  /-- The context is the one from before, after the hook. -/
  left_eq : left = s.notify t (s.stateAfter source n { context }).context
  /-- The token is shown, and nothing else is called. -/
  calls_eq : s.callsOf source (s.stateAfter source n { context })
    = [.shown t (s.stateAfter source n { context }).context]

/-- The error that an answer of a pattern leads to: its own one, or the one about
    the span that it reports. -/
def ErrorFrom (source : String) (cursor : Nat) (p : Pattern σ) (answer : Answer σ) (e : Error) :
    Prop :=
  answer.result = .error e ∨ ∃ span, answer.result = .ok (some span) ∧
    ((span.start < cursor ∧ e = .wentBackwards p.type span.start cursor) ∨
      (cursor ≤ span.start ∧ span.isValidIn source = false ∧
        e = .badSpan p.type span (sourceLength source)))

/-- A pattern is the first to answer, and its answer is an error or leads to one. -/
structure FailsAt (s : Scanner σ) (source : String) (st : ScanState σ) (e : Error)
    (before : List (Pattern σ)) (p : Pattern σ) (after : List (Pattern σ)) (answer : Answer σ) :
    Prop where
  /-- The pattern is the first to answer. -/
  decided : Decided s source st before p after answer
  /-- The error comes from its answer. -/
  cause : ErrorFrom source st.cursor p answer e

/-- Some pattern is the first to answer, and its answer is an error or leads to one. -/
def FirstFails (s : Scanner σ) (source : String) (st : ScanState σ) (e : Error) : Prop :=
  ∃ before p after answer, FailsAt s source st e before p after answer

/-- What a pull gives, it gives by a step. -/
theorem step_of_answer {s : Scanner σ} {source : String} {st : ScanState σ} {n : Nat}
    {item : ScanItem} (h : s.answer source st n = some item) :
    Step s source (s.stateAfter source n st) item (s.stateAfter source (n + 1) st) := by
  rw [← pull_iff, stateAfter_succ]
  exact Prod.ext h rfl

/-- A span that fits is empty just if its ends are the same. -/
theorem isEmpty_iff_of_isValidIn {source : String} {span : Span}
    (h : span.isValidIn source = true) : span.isEmpty = true ↔ span.start = span.stop := by
  rw [isValidIn_iff] at h
  rcases h with ⟨_, piece, _, _, hstop⟩
  rw [Span.isEmpty, decide_eq_true_eq]
  omega

/-- The token of a pattern has none of the types that tell the other items
    apart. -/
theorem TypesFree.tokenAt_ne {s : Scanner σ} (h : s.TypesFree) {p : Pattern σ}
    (hp : p ∈ s.patterns) (source : String) (span : Span) :
    (s.tokenAt source p.type span).type ≠ TokenType.start ∧
      (s.tokenAt source p.type span).type ≠ TokenType.stop ∧
      (s.tokenAt source p.type span).type ≠ TokenType.unmatched := by
  have hne := h.ne hp
  rw [tokenAt_type]
  by_cases hmark : (span.isEmpty && s.markEmpty) = true
  · rw [if_pos hmark]
    decide
  · rw [if_neg hmark]
    exact ⟨hne.1, hne.2.1, hne.2.2.1⟩

/-- A token of a pattern comes from the first answer. -/
theorem Step.firstFinds {s : Scanner σ} {source : String} {st st' : ScanState σ} {t : Token}
    (h : Step s source st (.ok t) st') (hstart : t.type ≠ TokenType.start)
    (hstop : t.type ≠ TokenType.stop) (hunmatched : t.type ≠ TokenType.unmatched) :
    FirstFinds s source st t st'.context := by
  cases h with
  | opens cursor context => exact absurd rfl hstart
  | ends cursor context hend => exact absurd rfl hstop
  | skips cursor context hlt hrefused => exact absurd rfl hunmatched
  | recovers cursor context => exact absurd rfl hunmatched
  | finds cursor context before p after answer span hlt hfirst hres hfits =>
      have hvalid := (spanError?_eq_none_iff source cursor p.type span).mp hfits
      have htype : (s.tokenAt source p.type span).type
          = if s.markEmpty = true ∧ span.start = span.stop then TokenType.empty else p.type := by
        simp only [tokenAt_type, Bool.and_eq_true, isEmpty_iff_of_isValidIn hvalid.2, and_comm]
      exact ⟨before, p, after, answer, span,
        { decided := ⟨rfl, hlt, hfirst⟩
          found := hres
          fits := hvalid
          position_eq := rfl
          stop_eq := (tokenAt_place s source cursor p.type span hfits).stop_eq.symm
          type_eq := htype
          left_eq := rfl
          calls_eq := callsOf_eq (Step.recorded_finds hlt hfirst hres hfits []) }⟩

/-- The two ways to an unmatched character. -/
theorem Step.unmatched_cases {s : Scanner σ} {source : String} {st st' : ScanState σ} {t : Token}
    (h : Step s source st (.ok t) st') (hfree : s.TypesFree)
    (htype : t.type = TokenType.unmatched) :
    AllRefuse s source st t st'.context ∨
      (st.phase = .recover ∧ t = unmatchedAt source st.cursor ∧
        st'.context = s.notify t st.context ∧ s.callsOf source st = [.shown t st.context]) := by
  cases h with
  | opens cursor context => exact absurd htype (by decide)
  | ends cursor context hend => exact absurd htype (by simp only [Token.stop]; decide)
  | finds cursor context before p after answer span hlt hfirst hres hfits =>
      exact absurd htype (hfree.tokenAt_ne hfirst.mem source span).2.2
  | skips cursor context hlt hrefused =>
      exact Or.inl
        { scanning := rfl
          inside := hlt
          refused := hrefused
          token_eq := rfl
          left_eq := rfl
          calls_eq := callsOf_eq (Step.recorded_skips hlt hrefused []) }
  | recovers cursor context =>
      exact Or.inr ⟨rfl, rfl, rfl, callsOf_eq (Step.recorded_recovers s source cursor context [])⟩

/-- What precedes the recovery of a character is the empty token of a pattern, at
    a cursor that has not moved. -/
theorem Step.emptyMatch_of_recover {s : Scanner σ} {source : String} {st st' : ScanState σ}
    {item : ScanItem} (h : Step s source st item st') (hfree : s.TypesFree)
    (hrecover : st'.phase = .recover) :
    ∃ u, item = .ok u ∧ FirstFinds s source st u st'.context ∧ u.text = "" ∧
      u.position = st'.cursor ∧ st.cursor = st'.cursor := by
  have hstep := h
  cases h with
  | opens | ends | fails | rejects | skips | recovers => simp only [reduceCtorEq] at hrecover
  | finds cursor context before p after answer span hlt hfirst hres hfits =>
      rcases (phaseAfter_eq_recover_iff cursor span).mp hrecover with ⟨hempty, hstop⟩
      have hvalid := (spanError?_eq_none_iff source cursor p.type span).mp hfits
      have hends := (isEmpty_iff_of_isValidIn hvalid.2).mp (by
        rw [Span.isEmpty, decide_eq_true_eq]
        exact hempty)
      have hlen := (tokenAt_place s source cursor p.type span hfits).stop_eq
      have hposition : (s.tokenAt source p.type span).position = span.start := rfl
      have htext : (s.tokenAt source p.type span).text.toList = [] := by
        rw [← byteLength_eq_zero_iff]
        omega
      -- The types tell that this is the token of a pattern.
      refine ⟨_, rfl, ?_, String.toList_eq_nil_iff.mp htext, hends, hstop.symm⟩
      have hne := hfree.tokenAt_ne hfirst.mem source span
      exact hstep.firstFinds hne.1 hne.2.1 hne.2.2

/-- When a character has to be recovered, the pull before was of this kind. -/
theorem emptyMatch_before {s : Scanner σ} (hfree : s.TypesFree) {source : String} {context : σ}
    {n : Nat} (hphase : (s.stateAfter source n { context }).phase = .recover) :
    ∃ m u, n = m + 1 ∧ s.answer source { context } m = some (.ok u) ∧
      FirstFinds s source (s.stateAfter source m { context }) u
        (s.stateAfter source n { context }).context ∧
      u.text = "" ∧ u.position = (s.stateAfter source n { context }).cursor ∧
      (s.stateAfter source m { context }).cursor = (s.stateAfter source n { context }).cursor := by
  cases n with
  | zero =>
      -- No character has to be recovered before the first pull.
      simp only [stateAfter, reduceCtorEq] at hphase
  | succ m =>
      -- The pull before cannot have been one of a scan that is over.
      have hbefore : (s.stateAfter source m { context }).phase ≠ .done := by
        intro hdone
        rw [stateAfter_succ, pull_of_done _ source _ hdone, hdone] at hphase
        simp only [reduceCtorEq] at hphase
      rcases step_exists s source _ hbefore with ⟨item, st', hstep⟩
      have hnext : s.stateAfter source (m + 1) { context } = st' := by
        rw [stateAfter_succ, hstep.pull_eq]
      rw [hnext] at hphase ⊢
      rcases hstep.emptyMatch_of_recover hfree hphase with ⟨u, hu, hfinds, htext, hpos, hcursor⟩
      have hanswer : s.answer source { context } m = some (.ok u) := by
        rw [answer, hstep.pull_eq, hu]
      exact ⟨m, u, rfl, hanswer, hfinds, htext, hpos, hcursor⟩

/-- An error comes from the first answer. -/
theorem Step.firstFails {s : Scanner σ} {source : String} {st st' : ScanState σ} {e : Error}
    (h : Step s source st (.error e) st') : FirstFails s source st e := by
  cases h with
  | fails cursor context before p after answer e hlt hfirst hres =>
      exact ⟨before, p, after, answer, ⟨rfl, hlt, hfirst⟩, Or.inl hres⟩
  | rejects cursor context before p after answer span e hlt hfirst hres herr =>
      exact ⟨before, p, after, answer, ⟨rfl, hlt, hfirst⟩,
        Or.inr ⟨span, hres, (spanError?_eq_some_iff source cursor p.type span e).mp herr⟩⟩

section FailsAt

variable {s : Scanner σ} {source : String} {st : ScanState σ} {e : Error}
  {before : List (Pattern σ)} {p : Pattern σ} {after : List (Pattern σ)} {answer : Answer σ}

/-- A first answer that is an error or leads to one ends the scan with that error, in
    the context that the pattern left. -/
theorem FailsAt.step (h : FailsAt s source st e before p after answer) :
    Step s source st (.error e) ⟨st.cursor, .done, answer.context⟩ := by
  rcases st with ⟨cursor, phase, context⟩
  rcases h with ⟨⟨hphase, hlt, hfirst⟩, hcause⟩
  cases hphase
  rcases hcause with hres | ⟨span, hres, hspan⟩
  · exact .fails cursor context before p after answer e hlt hfirst hres
  · rw [← spanError?_eq_some_iff] at hspan
    exact .rejects cursor context before p after answer span e hlt hfirst hres hspan

/-- It is the same answer with a record. -/
theorem FailsAt.recorded (h : FailsAt s source st e before p after answer)
    (calls : List (Call σ)) :
    FailsAt s.recorded source (st.withCalls calls) e (recordedFrom 0 before)
      (p.recorded before.length) (recordedFrom (before.length + 1) after)
      (answer.withCalls (calls ++ asksUpTo source st.cursor before st.context)) where
  decided := ⟨h.decided.scanning, h.decided.inside, h.decided.first.recorded calls⟩
  cause := h.cause

/-- The patterns behind it are not asked, and nothing is shown to the hook. -/
theorem FailsAt.callsOf_eq (h : FailsAt s source st e before p after answer) :
    s.callsOf source st = asksUpTo source st.cursor before st.context := by
  have hstep : Step s.recorded source (st.withCalls []) (.error e)
      ((⟨st.cursor, .done, answer.context⟩ : ScanState σ).withCalls
        (asksUpTo source st.cursor before st.context)) := (h.recorded []).step
  exact Scanner.callsOf_eq hstep

end FailsAt

/-- What decides about each item of a scan. A token of a pattern is the one of
    the first pattern that answers, an unmatched character comes if all patterns
    refuse or right after an empty match in place, and an error is given exactly
    if the first answer is that error or its span leads to it. The context is then the
    one that the pattern left, the patterns behind it are not asked, and nothing is
    shown to the hook. -/
theorem answer_decided (calls : List (Registration σ)) (source : String) (context : σ) (n : Nat) :
    let s : Scanner σ := ofCalls calls
    let st := s.stateAfter source n { context }
    let left := (s.stateAfter source (n + 1) { context }).context
    (∀ t, s.answer source { context } n = some (.ok t) → t.type ≠ TokenType.start →
      t.type ≠ TokenType.stop → t.type ≠ TokenType.unmatched → FirstFinds s source st t left) ∧
    (∀ t, s.answer source { context } n = some (.ok t) → t.type = TokenType.unmatched →
      AllRefuse s source st t left ∨ Recovers s source context n t left) ∧
    ∀ e, (s.answer source { context } n = some (.error e) ↔ FirstFails s source st e) ∧
      ∀ before p after answer, FailsAt s source st e before p after answer →
        left = answer.context ∧
          s.callsOf source st = asksUpTo source st.cursor before st.context := by
  have hfree := typesFree_ofCalls calls
  intro s st left
  refine ⟨fun t h hstart hstop hunmatched => ?_, fun t h htype => ?_,
    fun e => ⟨⟨fun h => ?_, ?_⟩, fun before p after answer h => ⟨?_, h.callsOf_eq⟩⟩⟩
  · exact (step_of_answer h).firstFinds hstart hstop hunmatched
  · rcases (step_of_answer h).unmatched_cases hfree htype with hall | hrecover
    · exact Or.inl hall
    · rcases hrecover with ⟨hphase, htoken, hleft, hcalls⟩
      exact Or.inr ⟨emptyMatch_before hfree hphase, htoken, hleft, hcalls⟩
  · exact (step_of_answer h).firstFails
  · rintro ⟨before, p, after, found, h⟩
    rw [answer, h.step.pull_eq]
  · rw [show left = (s.stateAfter source (n + 1) { context }).context from rfl, stateAfter_succ,
      h.step.pull_eq]

end Scanner

end Highlighter
