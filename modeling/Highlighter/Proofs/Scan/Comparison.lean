import Highlighter.Proofs.Scan.Run

/-!
# Scans side by side

What it takes to compare the scans of two scanners over one source.

Two scans take the same way through a source if every pull of the one leaves the
state that the pull of the other leaves. `stateAfter_congr` asks for this only in
states that one of the scans comes to, and only for as many pulls as are to be
compared, so it serves scans that part at some point as well. What remains is to
compare the items of single pulls, and then an item of a scan has to be found by
the number of its pull. `pulls_getElem?` and `pulls_state` do this for any number
of pulls, and `scan_getElem?` and `scan_state` for all that there are.

Scans that differ in the types of their tokens can be compared only if the hook
does not look at types, because it may pass them on to the matchers. `TypeBlind`
says so, and a scanner without a hook is of this kind.

## Main definitions

* `TypeBlind`: The hook does not look at the types of tokens.

## Theorems

* `pulls_state`, `scan_state`: The state that pulls leave.
* `pulls_getElem?`, `scan_getElem?`: The items of a scan by the number of the
  pull.
* `stateAfter_congr`: Scans that take the same way.
* `pulls_congr`: Scans that take the same way and give the same.
* `typeBlind_of_onMatch`: No hook looks at no types.
-/

namespace Highlighter

namespace Scanner

variable {σ : Type}

/-! ## Items by the number of the pull -/

/-- Pulling stops at the end of a scan, but no later pull would change the
    state. -/
theorem pulls_state (s : Scanner σ) (source : String) (n : Nat) (st : ScanState σ) :
    (s.pulls source n st).value.2 = s.stateAfter source n st := by
  induction n generalizing st with
  | zero => rfl
  | succ n ih =>
      by_cases hdone : st.phase = .done
      · rw [pulls_of_done s source _ st hdone, stateAfter_of_done s source _ st hdone]
      · rcases step_exists s source st hdone with ⟨item, st', hstep⟩
        rw [hstep.pulls_succ, ih, stateAfter, hstep.pull_eq]

theorem pulls_getElem? (s : Scanner σ) (source : String) (n m : Nat) (st : ScanState σ) :
    (s.pulls source n st).value.1[m]? = if m < n then s.answer source st m else none := by
  induction n generalizing m st with
  | zero => rfl
  | succ n ih =>
      by_cases hdone : st.phase = .done
      · -- Neither the pulls nor an answer give anything.
        rw [pulls_of_done s source _ st hdone, answer, stateAfter_of_done s source m st hdone,
          pull_of_done s source st hdone, List.getElem?_nil, ite_self]
      · rcases step_exists s source st hdone with ⟨item, st', hstep⟩
        rw [hstep.pulls_succ]
        cases m with
        | zero =>
            rw [List.getElem?_cons_zero, if_pos (Nat.succ_pos n)]
            simp only [answer, stateAfter, hstep.pull_eq]
        | succ m =>
            rw [List.getElem?_cons_succ, ih, answer, answer, stateAfter, hstep.pull_eq]
            simp only [Nat.add_lt_add_iff_right]

/-- The items of a scan are what the pulls give, one by one. -/
theorem scan_getElem? (s : Scanner σ) (source : String) (context : σ) (n : Nat) :
    (s.scan source context).value.1[n]? = s.answer source { context } n :=
  ((run_scan s source context).answer_eq n).symm

theorem scan_state (s : Scanner σ) (source : String) (context : σ) :
    (s.scan source context).value.2 = s.stateAfter source (enoughPulls source) { context } :=
  pulls_state s source _ _

/-! ## Taking the same way -/

/-- A scan whose pulls leave the same states as those of another scan takes the
    same way. Only the states of the other scan have to be looked at. -/
theorem stateAfter_congr {s s' : Scanner σ} {source : String} {st : ScanState σ} (n : Nat)
    (h : ∀ m < n, (s'.pull source (s.stateAfter source m st)).value.2
      = (s.pull source (s.stateAfter source m st)).value.2) :
    s'.stateAfter source n st = s.stateAfter source n st := by
  induction n with
  | zero => rfl
  | succ n ih =>
      have hbefore := ih fun m hm => h m (Nat.lt_succ_of_lt hm)
      rw [stateAfter_succ, stateAfter_succ, hbefore, h n (Nat.lt_succ_self n)]

/-- Two scans whose pulls agree give the same items and leave the same state. -/
theorem pulls_congr {s s' : Scanner σ} {source : String} {st : ScanState σ} (n : Nat)
    (h : ∀ m < n, (s'.pull source (s.stateAfter source m st)).value
      = (s.pull source (s.stateAfter source m st)).value) :
    (s'.pulls source n st).value = (s.pulls source n st).value := by
  -- The agreement is on the states of one scan, so the states come first.
  have hstate : ∀ m ≤ n, s'.stateAfter source m st = s.stateAfter source m st := fun m hm =>
    stateAfter_congr m fun k hk => by rw [h k (Nat.lt_of_lt_of_le hk hm)]
  refine Prod.ext (List.ext_getElem? fun m => ?_) ?_
  · rw [pulls_getElem?, pulls_getElem?]
    by_cases hm : m < n
    · rw [if_pos hm, if_pos hm, answer, hstate m (Nat.le_of_lt hm), h m hm, answer]
    · rw [if_neg hm, if_neg hm]
  · rw [pulls_state, pulls_state, hstate n (Nat.le_refl n)]

/-! ## Hooks that do not look at types -/

/-- The hook does the same for tokens that differ in their types only. -/
def TypeBlind (s : Scanner σ) : Prop :=
  ∀ t u : Token, t.text = u.text → t.position = u.position →
    ∀ context, s.notify t context = s.notify u context

/-- Without a hook nothing looks at types. -/
theorem typeBlind_of_onMatch (s : Scanner σ) (h : s.onMatch = none) : s.TypeBlind := by
  intro t u _ _ context
  simp only [notify, h]

end Scanner

end Highlighter
