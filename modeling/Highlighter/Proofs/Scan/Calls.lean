import Highlighter.Proofs.Scan.Run

/-!
# The calls that a scan makes

Which matchers a pull asks, in which order, and when it shows a token to the
hook.

Matchers and the hook are functions, and a function does not tell how often it
was called. But they may change the context, and the context may be of any type.
So a scanner can be made to keep a record: `recorded` puts a list of calls beside
the context, each pattern writes itself down there before it answers as it
always did, and so does the hook. This is a scanner like any other, and the
calls of a pull are what is found in its record afterwards.

`recorded_pull` says that keeping the record changes nothing else, and that the
record only grows. The lemmas about the single rules say what a pull adds to it.
A pull that is decided by the first answer asks the patterns up to that one and
no other, and shows a token only if it gives one.

## Main definitions

* `Call`: Asking a pattern, or showing a token to the hook.
* `recorded`: The scanner that keeps a record of its calls.
* `callsOf`: The calls that a pull makes.
* `asks`: The calls of asking some patterns one after the other.
* `asksUpTo`: The calls up to the first answer.

## Theorems

* `contextAfter_recordedFrom`: Asking recorded patterns leaves the record of it.
* `refused_recordedFrom`: Recorded patterns refuse when the patterns do.
* `FirstAnswer.recorded`: The first answer is the same with a record.
* `callsOf_eq`: Reading the calls of a pull off a step with a record.
* `Step.recorded_fails`, `Step.recorded_rejects`: An error comes without showing
  anything.
* `Step.recorded_finds`: A token of a pattern is shown after the pattern was
  asked.
* `Step.recorded_skips`: An unmatched character is shown after all patterns.
* `Step.recorded_recovers`: A recovered character is shown and no pattern is
  asked.
* `Step.recorded`: Every step adds its calls to the record.
* `recorded_pull`: Keeping the record changes nothing else.
-/

namespace Highlighter

/-- Asking a pattern, or showing a token to the hook. -/
inductive Call (σ : Type) where
  /-- A pattern, by its number, is asked at an offset with a context. -/
  | asked (index offset : Nat) (context : σ)
  /-- The hook is shown a token, with a context. -/
  | shown (token : Token) (context : σ)

/-- The state with a record of calls beside its context. -/
def ScanState.withCalls {σ : Type} (st : ScanState σ) (calls : List (Call σ)) :
    ScanState (σ × List (Call σ)) :=
  { cursor := st.cursor, phase := st.phase, context := (st.context, calls) }

/-- The answer with a record of calls beside its context. -/
def Answer.withCalls {σ : Type} (answer : Answer σ) (calls : List (Call σ)) :
    Answer (σ × List (Call σ)) :=
  { result := answer.result, context := (answer.context, calls), log := answer.log }

/-- The pattern that writes itself down whenever it is asked. -/
def Pattern.recorded {σ : Type} (p : Pattern σ) (index : Nat) : Pattern (σ × List (Call σ)) where
  type := p.type
  matcher :=
    { accepts := p.matcher.accepts
      find := fun source offset (context, calls) =>
        (p.matcher.find source offset context).withCalls
          (calls ++ [.asked index offset context]) }

namespace Scanner

variable {σ : Type}

/-- Some patterns, numbered from an index on, that write themselves down. -/
def recordedFrom (index : Nat) : List (Pattern σ) → List (Pattern (σ × List (Call σ)))
  | [] => []
  | p :: ps => p.recorded index :: recordedFrom (index + 1) ps

/-- The scanner that keeps a record of its calls. -/
def recorded (s : Scanner σ) : Scanner (σ × List (Call σ)) where
  patterns := recordedFrom 0 s.patterns
  onMatch := some fun token (context, calls) =>
    (s.notify token context, calls ++ [.shown token context])
  markEmpty := s.markEmpty

/-- The calls that a pull makes. -/
def callsOf (s : Scanner σ) (source : String) (st : ScanState σ) : List (Call σ) :=
  (s.recorded.pull source (st.withCalls [])).value.2.context.2

/-- The calls of asking some patterns, numbered from an index on, each with the
    context that the one before it left. -/
def asks (source : String) (offset : Nat) (index : Nat) : List (Pattern σ) → σ → List (Call σ)
  | [], _ => []
  | p :: ps, context => .asked index offset context ::
      asks source offset (index + 1) ps (p.matcher.find source offset context).context

/-! ## Asking with a record -/

theorem recordedFrom_append (index : Nat) (ps qs : List (Pattern σ)) :
    recordedFrom index (ps ++ qs)
      = recordedFrom index ps ++ recordedFrom (index + ps.length) qs := by
  induction ps generalizing index with
  | nil => rfl
  | cons p ps ih =>
      rw [List.cons_append, recordedFrom, ih, recordedFrom, List.cons_append, List.length_cons]
      rw [show index + 1 + ps.length = index + (ps.length + 1) by omega]

theorem contextAfter_recordedFrom (source : String) (offset index : Nat) (ps : List (Pattern σ))
    (context : σ) (calls : List (Call σ)) :
    contextAfter source offset (recordedFrom index ps) (context, calls)
      = (contextAfter source offset ps context, calls ++ asks source offset index ps context) := by
  induction ps generalizing index context calls with
  | nil => simp only [recordedFrom, contextAfter, asks, List.append_nil]
  | cons p ps ih =>
      simp only [recordedFrom, contextAfter, asks, Pattern.recorded, Answer.withCalls]
      rw [ih, List.append_assoc, List.singleton_append]

theorem refused_recordedFrom (source : String) (offset index : Nat) (ps : List (Pattern σ))
    (context : σ) (calls : List (Call σ)) :
    Refused source offset (recordedFrom index ps) (context, calls) ↔
      Refused source offset ps context := by
  induction ps generalizing index context calls with
  | nil => exact Iff.rfl
  | cons p ps ih =>
      simp only [recordedFrom, Refused, Pattern.recorded, Answer.withCalls]
      rw [ih]

/-- The calls up to the first answer. -/
def asksUpTo (source : String) (offset : Nat) (before : List (Pattern σ)) (context : σ) :
    List (Call σ) :=
  asks source offset 0 before context ++
    [.asked before.length offset (contextAfter source offset before context)]

/-- The first answer is the same with a record, and the record then ends with
    the pattern that gave it. -/
theorem FirstAnswer.recorded {source : String} {offset : Nat} {patterns : List (Pattern σ)}
    {context : σ} {before : List (Pattern σ)} {p : Pattern σ} {after : List (Pattern σ)}
    {answer : Answer σ} (h : FirstAnswer source offset patterns context before p after answer)
    (calls : List (Call σ)) :
    FirstAnswer source offset (recordedFrom 0 patterns) (context, calls) (recordedFrom 0 before)
      (p.recorded before.length) (recordedFrom (before.length + 1) after)
      (answer.withCalls (calls ++ asksUpTo source offset before context)) where
  split := by
    rw [h.split, recordedFrom_append, Nat.zero_add]
    rfl
  refused := (refused_recordedFrom source offset 0 before context calls).mpr h.refused
  asked := by
    simp only [contextAfter_recordedFrom, Pattern.recorded, h.asked, asksUpTo, List.append_assoc]
  decisive := h.decisive

/-! ## The calls of each rule -/

/-- The calls of a pull are what a step adds to an empty record. -/
theorem callsOf_eq {s : Scanner σ} {source : String} {st st' : ScanState σ} {item : ScanItem}
    {calls : List (Call σ)}
    (h : Step s.recorded source (st.withCalls []) item (st'.withCalls calls)) :
    s.callsOf source st = calls := by
  rw [callsOf, h.pull_eq]
  rfl

theorem Step.recorded_fails {s : Scanner σ} {source : String} {cursor : Nat} {context : σ}
    {before : List (Pattern σ)} {p : Pattern σ} {after : List (Pattern σ)} {answer : Answer σ}
    {e : Error} (hlt : cursor < sourceLength source)
    (hfirst : FirstAnswer source cursor s.patterns context before p after answer)
    (hres : answer.result = .error e) (calls : List (Call σ)) :
    Step s.recorded source ((⟨cursor, .scanning, context⟩ : ScanState σ).withCalls calls)
      (.error e) ((⟨cursor, .done, answer.context⟩ : ScanState σ).withCalls
        (calls ++ asksUpTo source cursor before context)) :=
  .fails cursor _ _ _ _ (answer.withCalls _) e hlt (hfirst.recorded calls) hres

theorem Step.recorded_rejects {s : Scanner σ} {source : String} {cursor : Nat} {context : σ}
    {before : List (Pattern σ)} {p : Pattern σ} {after : List (Pattern σ)} {answer : Answer σ}
    {span : Span} {e : Error} (hlt : cursor < sourceLength source)
    (hfirst : FirstAnswer source cursor s.patterns context before p after answer)
    (hres : answer.result = .ok (some span))
    (herr : spanError? source cursor p.type span = some e) (calls : List (Call σ)) :
    Step s.recorded source ((⟨cursor, .scanning, context⟩ : ScanState σ).withCalls calls)
      (.error e) ((⟨cursor, .done, answer.context⟩ : ScanState σ).withCalls
        (calls ++ asksUpTo source cursor before context)) :=
  .rejects cursor _ _ _ _ (answer.withCalls _) span e hlt (hfirst.recorded calls) hres herr

theorem Step.recorded_finds {s : Scanner σ} {source : String} {cursor : Nat} {context : σ}
    {before : List (Pattern σ)} {p : Pattern σ} {after : List (Pattern σ)} {answer : Answer σ}
    {span : Span} (hlt : cursor < sourceLength source)
    (hfirst : FirstAnswer source cursor s.patterns context before p after answer)
    (hres : answer.result = .ok (some span))
    (hfits : spanError? source cursor p.type span = none) (calls : List (Call σ)) :
    Step s.recorded source ((⟨cursor, .scanning, context⟩ : ScanState σ).withCalls calls)
      (.ok (s.tokenAt source p.type span))
      ((⟨span.stop, phaseAfter cursor span,
        s.notify (s.tokenAt source p.type span) answer.context⟩ : ScanState σ).withCalls
        (calls ++ (asksUpTo source cursor before context
          ++ [.shown (s.tokenAt source p.type span) answer.context]))) := by
  rw [← List.append_assoc]
  exact .finds cursor _ _ (p.recorded before.length) _ (answer.withCalls _) span hlt
    (hfirst.recorded calls) hres hfits

theorem Step.recorded_skips {s : Scanner σ} {source : String} {cursor : Nat} {context : σ}
    (hlt : cursor < sourceLength source)
    (hrefused : Refused source cursor s.patterns context) (calls : List (Call σ)) :
    Step s.recorded source ((⟨cursor, .scanning, context⟩ : ScanState σ).withCalls calls)
      (.ok (unmatchedAt source cursor))
      ((⟨cursor + byteLength (unmatchedAt source cursor).text.toList, .scanning,
        s.notify (unmatchedAt source cursor)
          (contextAfter source cursor s.patterns context)⟩ : ScanState σ).withCalls
        (calls ++ (asks source cursor 0 s.patterns context ++ [.shown (unmatchedAt source cursor)
          (contextAfter source cursor s.patterns context)]))) := by
  -- The hook is called with the context that the recorded patterns leave.
  have hstep := Step.skips (s := s.recorded) cursor (context, calls) hlt
    ((refused_recordedFrom source cursor 0 s.patterns context calls).mpr hrefused)
  rw [show contextAfter source cursor s.recorded.patterns (context, calls)
    = (contextAfter source cursor s.patterns context,
      calls ++ asks source cursor 0 s.patterns context) from contextAfter_recordedFrom ..] at hstep
  rw [← List.append_assoc]
  exact hstep

theorem Step.recorded_recovers (s : Scanner σ) (source : String) (cursor : Nat) (context : σ)
    (calls : List (Call σ)) :
    Step s.recorded source ((⟨cursor, .recover, context⟩ : ScanState σ).withCalls calls)
      (.ok (unmatchedAt source cursor))
      ((⟨cursor + byteLength (unmatchedAt source cursor).text.toList, .scanning,
        s.notify (unmatchedAt source cursor) context⟩ : ScanState σ).withCalls
        (calls ++ [.shown (unmatchedAt source cursor) context])) :=
  .recovers cursor (context, calls)

/-- Every step is also one of the scanner with a record, and adds its calls
    there. -/
theorem Step.recorded {s : Scanner σ} {source : String} {st st' : ScanState σ} {item : ScanItem}
    (h : Step s source st item st') (calls : List (Call σ)) :
    Step s.recorded source (st.withCalls calls) item
      (st'.withCalls (calls ++ s.callsOf source st)) := by
  -- Each rule adds the same calls to every record, so also to the empty one.
  have hgeneral : ∃ made, ∀ calls, Step s.recorded source (st.withCalls calls) item
      (st'.withCalls (calls ++ made)) := by
    cases h with
    | opens cursor context =>
        exact ⟨[], fun calls => by rw [List.append_nil]; exact .opens cursor _⟩
    | ends cursor context hend =>
        exact ⟨[], fun calls => by rw [List.append_nil]; exact .ends cursor _ hend⟩
    | fails cursor context before p after answer e hlt hfirst hres =>
        exact ⟨_, Step.recorded_fails hlt hfirst hres⟩
    | rejects cursor context before p after answer span e hlt hfirst hres herr =>
        exact ⟨_, Step.recorded_rejects hlt hfirst hres herr⟩
    | finds cursor context before p after answer span hlt hfirst hres hfits =>
        exact ⟨_, Step.recorded_finds hlt hfirst hres hfits⟩
    | skips cursor context hlt hrefused => exact ⟨_, Step.recorded_skips hlt hrefused⟩
    | recovers cursor context => exact ⟨_, Step.recorded_recovers s source cursor context⟩
  rcases hgeneral with ⟨made, hmade⟩
  have hcalls : s.callsOf source st = made := callsOf_eq (hmade [])
  rw [hcalls]
  exact hmade calls

/-- Keeping the record changes nothing else. -/
theorem recorded_pull (s : Scanner σ) (source : String) (st : ScanState σ)
    (calls : List (Call σ)) :
    (s.recorded.pull source (st.withCalls calls)).value = ((s.pull source st).value.1,
      (s.pull source st).value.2.withCalls (calls ++ s.callsOf source st)) := by
  by_cases hdone : st.phase = .done
  · have hcalls : s.callsOf source st = [] := by
      rw [callsOf, pull_of_done _ source (st.withCalls []) hdone]
      rfl
    rw [pull_of_done s source st hdone, pull_of_done _ source (st.withCalls calls) hdone, hcalls,
      List.append_nil]
  · rcases step_exists s source st hdone with ⟨item, st', hstep⟩
    rw [hstep.pull_eq, (hstep.recorded calls).pull_eq]

end Scanner

end Highlighter
