import Highlighter.Proofs.Scan.Step

/-!
# Runs of a scan

A scan pulled to its end.

`stateAfter` and `answer` pull a scan any number of times, also beyond its end,
so what they give does not depend on how many pulls somebody thought would be
enough. `Run` is a complete run in terms of the rules: a list of items, one for
each step, until the scan is over. The two views agree by `Run.answer_eq`, and
`Run.pulls_eq` says that pulling often enough gives just the items of the run.

That there is a run at all is the termination of a scan. The cursor alone does
not measure it, since an empty match is given without moving the cursor.
`pullsLeft` counts two pulls for each character that is left, and one more or
less for the phase: the recovery after an empty match is worth one pull less
than asking the patterns again. Every step lowers it by at least one, whatever
the matchers do.

## Main definitions

* `stateAfter`, `answer`: The state after some pulls, and what the next one
  gives.
* `pullsLeft`: A bound on the pulls that give something.
* `Run`: A complete run.

## Theorems

* `stateAfter_succ`: The last of some pulls.
* `exists_step_stateAfter`: A scan that is not over takes a step next.
* `onTrack_stateAfter`: All states of a scan are on its track.
* `stateAfter_induction`: What steps keep, later states keep.
* `pulls_of_done`, `Step.pulls_succ`: The items of several pulls, by the first of
  them.
* `Step.pullsLeft_lt`: Every step uses up a pull.
* `Run.eq_of_done`: Nothing is given after the end.
* `exists_run`: Every scan comes to an end.
* `Run.length_le`: A run is no longer than the bound.
* `Run.pulls_eq`: Pulling often enough gives the items of the run.
* `Run.answer_eq`: What the pulls give, one by one, are the items of the run.
* `Run.of_initial`: A run from the start begins with the start token.
* `run_scan`: A scan is a complete run.
-/

namespace Highlighter

namespace Scanner

variable {σ : Type}

/-! ## Pulling one by one -/

/-- The state after a number of pulls. -/
def stateAfter (s : Scanner σ) (source : String) : Nat → ScanState σ → ScanState σ
  | 0, st => st
  | n + 1, st => stateAfter s source n (s.pull source st).value.2

/-- What the next pull gives after a number of pulls. -/
def answer (s : Scanner σ) (source : String) (st : ScanState σ) (n : Nat) : Option ScanItem :=
  (s.pull source (s.stateAfter source n st)).value.1

theorem stateAfter_succ (s : Scanner σ) (source : String) (n : Nat) (st : ScanState σ) :
    s.stateAfter source (n + 1) st = (s.pull source (s.stateAfter source n st)).value.2 := by
  induction n generalizing st with
  | zero => rfl
  | succ n ih => exact ih _

theorem stateAfter_of_done (s : Scanner σ) (source : String) (n : Nat) (st : ScanState σ)
    (h : st.phase = .done) : s.stateAfter source n st = st := by
  induction n with
  | zero => rfl
  | succ n ih => rw [stateAfter, pull_of_done s source st h, ih]

/-- A scan that is not over takes a step next. -/
theorem exists_step_stateAfter {s : Scanner σ} {source : String} {st : ScanState σ} {n : Nat}
    (h : (s.stateAfter source n st).phase ≠ .done) :
    ∃ item, s.answer source st n = some item ∧
      Step s source (s.stateAfter source n st) item (s.stateAfter source (n + 1) st) := by
  rcases step_exists s source _ h with ⟨item, st', hstep⟩
  refine ⟨item, by rw [answer, hstep.pull_eq], ?_⟩
  rw [stateAfter_succ, hstep.pull_eq]
  exact hstep

/-- It was not over before. -/
theorem phase_ne_done_of_succ {s : Scanner σ} {source : String} {st : ScanState σ} {n : Nat}
    (h : (s.stateAfter source (n + 1) st).phase ≠ .done) :
    (s.stateAfter source n st).phase ≠ .done := by
  intro hdone
  rw [stateAfter_succ, pull_of_done s source _ hdone] at h
  exact h hdone

/-- All states of a scan are on its track. -/
theorem onTrack_stateAfter (s : Scanner σ) (source : String) (context : σ) (n : Nat) :
    OnTrack source (s.stateAfter source n { context }) := by
  induction n with
  | zero => exact onTrack_initial source context
  | succ n ih =>
      by_cases hdone : (s.stateAfter source n { context }).phase = .done
      · rwa [stateAfter_succ, pull_of_done s source _ hdone]
      · rcases exists_step_stateAfter hdone with ⟨item, _, hstep⟩
        exact hstep.onTrack ih

/-- What steps on the track keep, the later states of a scan keep. -/
theorem stateAfter_induction {s : Scanner σ} {source : String} {context : σ}
    {motive : ScanState σ → Prop} (hstep : ∀ st item st', OnTrack source st →
      Step s source st item st' → motive st → motive st') {m n : Nat} (hle : m ≤ n)
    (h : motive (s.stateAfter source m { context })) :
    motive (s.stateAfter source n { context }) := by
  induction hle with
  | refl => exact h
  | @step n _ ih =>
      by_cases hdone : (s.stateAfter source n { context }).phase = .done
      · rw [stateAfter_succ, pull_of_done s source _ hdone]
        exact ih
      · rcases exists_step_stateAfter hdone with ⟨item, _, htaken⟩
        exact hstep _ item _ (onTrack_stateAfter s source context n) htaken ih

/-- A scan that is over gives no items. -/
theorem pulls_of_done (s : Scanner σ) (source : String) (n : Nat) (st : ScanState σ)
    (h : st.phase = .done) : (s.pulls source n st).value = ([], st) := by
  cases n with
  | zero => rfl
  | succ n => simp only [pulls, Logged.andThen_value, pull_of_done s source st h]

/-- The first of several pulls gives the item of a step, and the others go on
    behind the step. -/
theorem Step.pulls_succ {s : Scanner σ} {source : String} {st st' : ScanState σ}
    {item : ScanItem} (h : Step s source st item st') (n : Nat) :
    (s.pulls source (n + 1) st).value
      = (item :: (s.pulls source n st').value.1, (s.pulls source n st').value.2) := by
  simp only [pulls, Logged.andThen_value, h.pull_eq, Logged.map_value]

/-! ## Counting the pulls that are left -/

/-- A bound on the pulls that give something: two for each character, and one
    more or less for the phase. -/
def pullsLeft (source : String) (st : ScanState σ) : Nat :=
  match st.phase with
  | .start => 2 * charsLeft source st.cursor + 2
  | .scanning => 2 * charsLeft source st.cursor + 1
  | .recover => 2 * charsLeft source st.cursor
  | .done => 0

/-- Every step uses up a pull. -/
theorem Step.pullsLeft_lt {s : Scanner σ} {source : String} {st st' : ScanState σ}
    {item : ScanItem} (h : Step s source st item st') (htrack : OnTrack source st) :
    pullsLeft source st' < pullsLeft source st := by
  rcases htrack.cut with ⟨before, rest, hcut⟩
  cases h with
  | opens | ends | fails | rejects =>
      simp only [pullsLeft]
      omega
  | finds cursor context _ p _ answer span hlt hfirst hres hfits =>
      rcases (tokenAt_place s source cursor p.type span hfits).cut_stop with ⟨before', rest', hcut'⟩
      simp only [pullsLeft, hcut.charsLeft_eq, hcut'.charsLeft_eq]
      by_cases hrecover : phaseAfter cursor span = .recover
      · -- The cursor has not moved, but the patterns are not asked again.
        have hstop := ((phaseAfter_eq_recover_iff cursor span).mp hrecover).2
        rw [hstop] at hcut'
        rw [(hcut.unique hcut').2, hrecover]
        simp only []
        omega
      · have hless := hcut.length_lt hcut' (lt_stop_of_phaseAfter hfits hrecover)
        rw [phaseAfter_eq_scanning cursor span hrecover]
        simp only []
        omega
  | skips cursor context hlt hrefused =>
      have hleft := charsLeft_unmatchedAt hcut hlt
      simp only [pullsLeft, hleft]
      omega
  | recovers cursor context =>
      have hleft := charsLeft_unmatchedAt hcut (htrack.ahead rfl)
      simp only [pullsLeft, hleft]
      omega

/-! ## Complete runs -/

/-- A complete run: the items of all steps until the scan is over, and the state
    that it ends in. -/
inductive Run (s : Scanner σ) (source : String) :
    ScanState σ → List ScanItem → ScanState σ → Prop where
  /-- A scan that is over gives nothing more. -/
  | finished (st : ScanState σ) (h : st.phase = .done) : Run s source st [] st
  /-- A step, and what follows it. -/
  | step (st st' last : ScanState σ) (item : ScanItem) (items : List ScanItem)
      (hstep : Step s source st item st') (hrest : Run s source st' items last) :
      Run s source st (item :: items) last

/-- Nothing is given after the end. -/
theorem Run.eq_of_done {s : Scanner σ} {source : String} {st last : ScanState σ}
    {items : List ScanItem} (h : Run s source st items last) (hdone : st.phase = .done) :
    items = [] ∧ last = st := by
  cases h with
  | finished => exact ⟨rfl, rfl⟩
  | step _ st' _ item items hstep hrest =>
      have hnone := hstep.pull_eq
      rw [pull_of_done s source st hdone] at hnone
      simp only [Prod.mk.injEq, reduceCtorEq, false_and] at hnone

/-- Every scan comes to an end. The induction is on the number of pulls that are
    left. -/
theorem exists_run (s : Scanner σ) (source : String) (st : ScanState σ)
    (htrack : OnTrack source st) : ∃ items last, Run s source st items last := by
  generalize hn : pullsLeft source st = n
  induction n using Nat.strongRecOn generalizing st with
  | _ n ih =>
    by_cases hdone : st.phase = .done
    · exact ⟨[], st, .finished st hdone⟩
    · rcases step_exists s source st hdone with ⟨item, st', hstep⟩
      have hless := hstep.pullsLeft_lt htrack
      rcases ih _ (by omega) st' (hstep.onTrack htrack) rfl with ⟨items, last, hrest⟩
      exact ⟨item :: items, last, .step st st' last item items hstep hrest⟩

/-- A run is no longer than the bound. -/
theorem Run.length_le {s : Scanner σ} {source : String} {st last : ScanState σ}
    {items : List ScanItem} (h : Run s source st items last) (htrack : OnTrack source st) :
    items.length ≤ pullsLeft source st := by
  -- Each step lowers the bound by one at least, and no state leaves the track.
  induction h with
  | finished st h => exact Nat.zero_le _
  | step st st' last item items hstep hrest ih =>
      have hless := hstep.pullsLeft_lt htrack
      have hlen := ih (hstep.onTrack htrack)
      rw [List.length_cons]
      omega

/-- Pulling often enough gives the items of the run. -/
theorem Run.pulls_eq {s : Scanner σ} {source : String} {st last : ScanState σ}
    {items : List ScanItem} (h : Run s source st items last) (n : Nat) (hn : items.length ≤ n) :
    (s.pulls source n st).value = (items, last) := by
  -- A pull beyond the end gives nothing, so more pulls than items do no harm.
  induction h generalizing n with
  | finished st h => exact pulls_of_done s source n st h
  | step st st' last item items hstep hrest ih =>
      rw [List.length_cons] at hn
      obtain ⟨m, hm⟩ : ∃ m, n = m + 1 := ⟨n - 1, by omega⟩
      rw [hm, hstep.pulls_succ, ih m (by omega)]

/-- What the pulls give, one by one, are the items of the run, and nothing after
    them. -/
theorem Run.answer_eq {s : Scanner σ} {source : String} {st last : ScanState σ}
    {items : List ScanItem} (h : Run s source st items last) (n : Nat) :
    s.answer source st n = items[n]? := by
  induction h generalizing n with
  | finished st h =>
      rw [answer, stateAfter_of_done s source n st h, pull_of_done s source st h]
      rfl
  | step st st' last item items hstep hrest ih =>
      cases n with
      | zero =>
          simp only [answer, stateAfter, hstep.pull_eq, List.getElem?_cons_zero]
      | succ n =>
          rw [List.getElem?_cons_succ, ← ih n]
          simp only [answer, stateAfter, hstep.pull_eq]

theorem pullsLeft_initial (source : String) (context : σ) :
    pullsLeft source ({ context } : ScanState σ) = 2 * source.length + 2 := by
  simp only [pullsLeft, charsLeft_zero]

/-- A run from the start gives the start token and goes on with the patterns. -/
theorem Run.of_initial {s : Scanner σ} {source : String} {context : σ} {last : ScanState σ}
    {items : List ScanItem} (h : Run s source { context } items last) :
    ∃ rest, items = .ok .start :: rest ∧ Run s source ⟨0, .scanning, context⟩ rest last := by
  cases h with
  | finished _ hdone => simp only [reduceCtorEq] at hdone
  | step _ st' _ item rest hstep hrest =>
      have heq : (some item, st') = (some (.ok .start), ⟨0, .scanning, context⟩) :=
        hstep.pull_eq.symm
      -- No other step leads out of the start.
      simp only [Prod.mk.injEq, Option.some.injEq] at heq
      rcases heq with ⟨rfl, rfl⟩
      exact ⟨rest, rfl, hrest⟩

/-- A scan is a complete run. -/
theorem run_scan (s : Scanner σ) (source : String) (context : σ) :
    Run s source { context } (s.scan source context).value.1 (s.scan source context).value.2 := by
  have htrack := onTrack_initial source context
  rcases exists_run s source _ htrack with ⟨items, last, hrun⟩
  have hlen := hrun.length_le htrack
  -- The scan pulls once more than the bound asks for.
  rw [pullsLeft_initial] at hlen
  have hscan : (s.scan source context).value = (items, last) :=
    hrun.pulls_eq (enoughPulls source) (by rw [enoughPulls]; omega)
  rw [hscan]
  exact hrun

end Scanner

end Highlighter
