import Highlighter.Proofs.Context
import Highlighter.Proofs.Scan.Priority

/-!
# What the hook sees

Which tokens a scan shows to its hook, and when.

A hook can keep the tokens that it is shown in the context, where the matchers
could change them as well. `Collects` is the situation in which they do not: a
list of tokens can be read off the context, showing a token appends it to the
list, and asking a matcher leaves the list alone. Nothing else is asked of the
matchers or the hook, which may otherwise change the context as they like.

The list is then a record of the calls of the hook. `Step.collects` says what a
step adds to it, which is the token that the step gives, unless it is the start
token or the end token, and nothing if there is an error. A rejected span is an
error of this kind: its token is never made. The induction over the pulls puts
these together, and since it is made of single pulls the record is in step with
the items at any time and not only at the end.

A list under a key of a typed context that the matchers do not touch is such a
list.

## Main definitions

* `interior?`: The token of an item between the first and the last.
* `Collects`: The hook keeps a list of tokens that no matcher touches.
* `Context.tokensUnder`: The tokens that are kept under a key.
* `Context.push`: Changing a value that is put there first if it is missing.
* `tallyCalls`: A scanner whose hook keeps the tokens and whose pattern counts.

## Theorems

* `interior?_of_ne`, `interior?_unmatchedAt`: Tokens between the first and the
  last.
* `Collects.contextAfter`, `Collects.firstAnswer`: Asking leaves the list alone.
* `Step.collects`: What a step adds to the list.
* `Collects.pulls`: What any number of pulls add to the list.
* `Context.tokensUnder_push`: Pushing a token appends it.
* `tokensUnder_pulls`: The hook sees every token once, in order and in time.
-/

namespace Highlighter

namespace Scanner

variable {σ : Type}

/-! ## A list that the hook keeps -/

/-- The token of an item, unless it is the start token or the end token. -/
def interior? : ScanItem → Option Token
  | .ok t => if t.type = TokenType.start ∨ t.type = TokenType.stop then none else some t
  | .error _ => none

theorem interior?_of_ne (t : Token) (hstart : t.type ≠ TokenType.start)
    (hstop : t.type ≠ TokenType.stop) : interior? (.ok t) = some t := by
  rw [interior?, if_neg fun h => h.elim hstart hstop]

theorem interior?_unmatchedAt (source : String) (cursor : Nat) :
    interior? (.ok (unmatchedAt source cursor)) = some (unmatchedAt source cursor) :=
  interior?_of_ne _ (by simp only [unmatchedAt]; decide) (by simp only [unmatchedAt]; decide)

/-- A list of tokens can be read off the context. The hook appends to it what it
    is shown, and no matcher touches it. -/
structure Collects (s : Scanner σ) (read : σ → List Token) : Prop where
  /-- Showing a token appends it. -/
  appends : ∀ t context, read (s.notify t context) = read context ++ [t]
  /-- Asking a pattern leaves the list alone. -/
  untouched : ∀ p ∈ s.patterns, ∀ source offset context,
    read (p.matcher.find source offset context).context = read context

/-- Asking some of the patterns leaves the list alone. -/
theorem Collects.contextAfter {s : Scanner σ} {read : σ → List Token} (h : s.Collects read)
    (source : String) (offset : Nat) (ps : List (Pattern σ)) (hps : ∀ p ∈ ps, p ∈ s.patterns)
    (context : σ) : read (contextAfter source offset ps context) = read context := by
  induction ps generalizing context with
  | nil => rfl
  | cons p ps ih =>
      rw [Scanner.contextAfter, ih fun q hq => hps q (List.mem_cons_of_mem _ hq)]
      exact h.untouched p (hps p List.mem_cons_self) source offset context

/-- Asking the patterns up to the first answer leaves the list alone. -/
theorem Collects.firstAnswer {s : Scanner σ} {read : σ → List Token} (h : s.Collects read)
    {source : String} {offset : Nat} {context : σ} {before : List (Pattern σ)} {p : Pattern σ}
    {after : List (Pattern σ)} {answer : Answer σ}
    (hfirst : FirstAnswer source offset s.patterns context before p after answer) :
    read answer.context = read context := by
  have hbefore : ∀ q ∈ before, q ∈ s.patterns := fun q hq => by
    rw [hfirst.split]
    exact List.mem_append_left _ hq
  rw [← hfirst.asked, h.untouched p hfirst.mem, h.contextAfter source offset before hbefore]

/-- A step adds to the list the token that it gives between the first and the
    last, and nothing else. -/
theorem Step.collects {s : Scanner σ} {read : σ → List Token} {source : String}
    {st st' : ScanState σ} {item : ScanItem} (h : Step s source st item st')
    (hcollects : s.Collects read) (hfree : s.TypesFree) :
    read st'.context = read st.context ++ (interior? item).toList := by
  cases h with
  | opens cursor context => exact (List.append_nil _).symm
  | ends cursor context hend => exact (List.append_nil _).symm
  | fails cursor context before p after answer e hlt hfirst hres =>
      simp only [interior?, Option.toList_none, List.append_nil]
      exact hcollects.firstAnswer hfirst
  | rejects cursor context before p after answer span e hlt hfirst hres herr =>
      simp only [interior?, Option.toList_none, List.append_nil]
      exact hcollects.firstAnswer hfirst
  | finds cursor context before p after answer span hlt hfirst hres hfits =>
      -- Being free, the type of the pattern is not that of the first or the last token.
      have hne := hfree.tokenAt_ne hfirst.mem source span
      rw [interior?_of_ne _ hne.1 hne.2.1, hcollects.appends, hcollects.firstAnswer hfirst]
      rfl
  | skips cursor context hlt hrefused =>
      rw [interior?_unmatchedAt, hcollects.appends,
        hcollects.contextAfter source cursor s.patterns (fun _ hp => hp)]
      rfl
  | recovers cursor context =>
      rw [interior?_unmatchedAt, hcollects.appends]
      rfl

/-- Any number of pulls add to the list the tokens that they give between the
    first and the last. -/
theorem Collects.pulls {s : Scanner σ} {read : σ → List Token} (h : s.Collects read)
    (hfree : s.TypesFree) (source : String) (n : Nat) (st : ScanState σ) :
    read (s.pulls source n st).value.2.context
      = read st.context ++ (s.pulls source n st).value.1.filterMap interior? := by
  induction n generalizing st with
  | zero => exact (List.append_nil _).symm
  | succ n ih =>
      by_cases hdone : st.phase = .done
      · rw [pulls_of_done s source _ st hdone]
        exact (List.append_nil _).symm
      · rcases step_exists s source st hdone with ⟨item, st', hstep⟩
        simp only [hstep.pulls_succ, List.filterMap_cons]
        -- The later pulls add to the list that this step has left.
        rw [ih, hstep.collects h hfree, List.append_assoc]
        cases interior? item <;> rfl

end Scanner

/-! ## A list under a key -/

namespace Context

variable {κ : Type} [DecidableEq κ] {El : κ → Type}

/-- The tokens that are kept under a key in a value of some type. There are none
    if there is no such value. -/
def tokensUnder (key : String) (k : κ) (tokens : El k → List Token) (c : Context El) :
    List Token :=
  ((c.get? key k).map tokens).getD []

/-- Changes a value in place, after storing one if there was none. -/
def push (c : Context El) (key : String) (k : κ) (init : El k) (change : El k → El k) :
    Context El :=
  ((c.getOrInsert key k init).2.update? key k change).2

/-- Pushing a token to a list under a key appends it. -/
theorem tokensUnder_push (c : Context El) (key : String) (k : κ) (tokens : El k → List Token)
    (init : El k) (change : El k → El k) (t : Token) (hinit : tokens init = [])
    (hchange : ∀ value, tokens (change value) = tokens value ++ [t]) :
    (c.push key k init change).tokensUnder key k tokens = c.tokensUnder key k tokens ++ [t] := by
  rw [tokensUnder, push, get?_update?, get?_getOrInsert, tokensUnder]
  rcases c.get? key k with _ | value
  · simp only [Option.map_some, Option.map_none, Option.getD_some, Option.getD_none, hchange, hinit]
  · simp only [Option.map_some, Option.getD_some, hchange]

end Context

namespace Scanner

/-- The hook sees every token between the first and the last exactly once, in
    order and in time. If it appends what it sees to a list under a key that no
    matcher touches, then the list holds after any number of pulls just the tokens
    that these pulls have given, without the start token and the end token. An
    error adds nothing to the list. -/
theorem tokensUnder_pulls {κ : Type} [DecidableEq κ] {El : κ → Type} (key : String) (k : κ)
    (tokens : El k → List Token) (calls : List (Registration (Context El))) (source : String)
    (context : Context El)
    (happends : ∀ t (c : Context El), ((ofCalls calls).notify t c).tokensUnder key k tokens
      = c.tokensUnder key k tokens ++ [t])
    (huntouched : ∀ p ∈ (ofCalls calls).patterns, ∀ source offset (c : Context El),
      (p.matcher.find source offset c).context.slot? key = c.slot? key)
    (hempty : context.tokensUnder key k tokens = []) :
    (∀ n, ((ofCalls calls).pulls source n { context }).value.2.context.tokensUnder key k tokens
      = ((ofCalls calls).pulls source n { context }).value.1.filterMap interior?) ∧
    ∀ n e, (ofCalls calls).answer source { context } n = some (.error e) →
      ((ofCalls calls).stateAfter source (n + 1) { context }).context.tokensUnder key k tokens
        = ((ofCalls calls).stateAfter source n { context }).context.tokensUnder key k tokens := by
  have hfree : (ofCalls calls : Scanner (Context El)).TypesFree := typesFree_ofCalls calls
  have hcollects : (ofCalls calls).Collects (Context.tokensUnder key k tokens) :=
    { appends := happends
      untouched := fun p hp source offset c => by
        -- What is under a key depends on the slot there only.
        rw [Context.tokensUnder, Context.get?, huntouched p hp]
        rfl }
  refine ⟨fun n => ?_, fun n e herror => ?_⟩
  · rw [hcollects.pulls hfree, hempty, List.nil_append]
  · rw [(step_of_answer herror).collects hcollects hfree]
    exact List.append_nil _

/-- A context with lists of tokens and numbers. -/
def Tally : Bool → Type
  | true => List Token
  | false => Nat

/-- Calls that make a scanner of which the only pattern counts how often it was
    asked. It refuses, then it finds the empty text, and then a span that goes
    beyond the source. The hook keeps what it sees under another key. -/
def tallyCalls : List (Registration (Context Tally)) :=
  [.add "mark" { find := fun _ offset c =>
      let asked : Nat := (c.get? "asked" false).getD Nat.zero
      { result := .ok (if asked = 0 then none
          else if asked = 1 then some (.emptyAt offset) else some ⟨offset, offset + 9⟩)
        context := (c.insert "asked" false asked.succ).2 } },
    .setOnMatch fun t c => c.push "seen" true [] fun seen : List Token => seen ++ [t]]

theorem tokensUnder_pulls_tally :
    (∀ t (c : Context Tally), ((ofCalls tallyCalls).notify t c).tokensUnder "seen" true id
      = c.tokensUnder "seen" true id ++ [t]) ∧
    (∀ p ∈ (ofCalls tallyCalls).patterns, ∀ source offset (c : Context Tally),
      (p.matcher.find source offset c).context.slot? "seen" = c.slot? "seen") ∧
    (Context.empty : Context Tally).tokensUnder "seen" true id = [] ∧
    (∀ n, ((ofCalls tallyCalls).pulls "äbc" n { context := .empty }).value.2.context.tokensUnder
        "seen" true id
      = ((ofCalls tallyCalls).pulls "äbc" n { context := .empty }).value.1.filterMap interior?) ∧
    ∀ n e, (ofCalls tallyCalls).answer "äbc" { context := .empty } n = some (.error e) →
      ((ofCalls tallyCalls).stateAfter "äbc" (n + 1) { context := .empty }).context.tokensUnder
          "seen" true id
        = ((ofCalls tallyCalls).stateAfter "äbc" n { context := .empty }).context.tokensUnder
          "seen" true id := by
  have happends : ∀ t (c : Context Tally),
      ((ofCalls tallyCalls).notify t c).tokensUnder "seen" true id
        = c.tokensUnder "seen" true id ++ [t] :=
    fun t c => c.tokensUnder_push "seen" true id [] _ t rfl fun _ => rfl
  have huntouched : ∀ p ∈ (ofCalls tallyCalls).patterns, ∀ source offset (c : Context Tally),
      (p.matcher.find source offset c).context.slot? "seen" = c.slot? "seen" := by
    intro p hp source offset c
    rw [List.mem_singleton.mp hp]
    exact c.slot?_setSlot_of_ne _ (by decide)
  have hempty : (Context.empty : Context Tally).tokensUnder "seen" true id = [] := rfl
  exact ⟨happends, huntouched, hempty,
    tokensUnder_pulls "seen" true id tallyCalls "äbc" .empty happends huntouched hempty⟩

-- The list holds the refused, the found and the recovered token but nothing for the bad span.
example : ((ofCalls tallyCalls).scan "äbc" .empty).value.2.context.tokensUnder "seen" true id
    = [⟨TokenType.unmatched, "ä", 0⟩, ⟨"mark", "", 2⟩, ⟨TokenType.unmatched, "b", 2⟩] := by rfl

end Scanner

end Highlighter
