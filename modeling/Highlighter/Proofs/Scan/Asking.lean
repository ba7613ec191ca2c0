import Highlighter.Proofs.Scan.Calls

/-!
# Where matchers are asked

The offsets and the patterns of the calls that a pull makes.

`callsOf` lists the calls of a pull, and the lemmas beside it give the list for
each rule. What is needed of it most often is less: which calls there can be at
all. A pattern is only asked while the patterns are asked in order, so with the
cursor before the end of the source, and the offset is the cursor itself. The
hook is only shown the token that the pull gives.

## Main definitions

* `AskedAt`: Asking a pattern of a scanner at the cursor of a state.

## Theorems

* `mem_asks`: The calls of asking some patterns.
* `mem_asksUpTo`: The calls up to the first answer.
* `callsOf_opens`, `callsOf_ends`: The first step and the last call nothing.
* `Step.mem_callsOf`: The calls of a step.
* `mem_callsOf`: The calls of a pull.
-/

namespace Highlighter

namespace Scanner

variable {σ : Type}

/-- The call asks a pattern of the scanner at the cursor of a state, where the
    patterns are asked and the source is not used up. -/
structure AskedAt (s : Scanner σ) (source : String) (st : ScanState σ) (call : Call σ) : Prop where
  /-- One of the patterns is asked at the cursor. -/
  call_eq : ∃ i p left, call = .asked i st.cursor left ∧ s.patterns[i]? = some p
  /-- The patterns are asked in this phase. -/
  scanning : st.phase = .scanning
  /-- The source is not used up. -/
  inside : st.cursor < sourceLength source

theorem mem_asks (source : String) (offset index : Nat) (ps : List (Pattern σ)) (context : σ)
    (call : Call σ) (h : call ∈ asks source offset index ps context) :
    ∃ i p left, call = .asked (index + i) offset left ∧ ps[i]? = some p := by
  induction ps generalizing index context with
  | nil => simp only [asks, List.not_mem_nil] at h
  | cons p ps ih =>
      simp only [asks, List.mem_cons] at h
      rcases h with h | h
      · exact ⟨0, p, context, h, rfl⟩
      · rcases ih _ _ h with ⟨i, q, left, hcall, hq⟩
        refine ⟨i + 1, q, left, ?_, hq⟩
        rw [hcall, Nat.add_assoc, Nat.add_comm 1 i]

theorem mem_asksUpTo {source : String} {offset : Nat} {patterns : List (Pattern σ)} {context : σ}
    {before : List (Pattern σ)} {p : Pattern σ} {after : List (Pattern σ)} {answer : Answer σ}
    (hfirst : FirstAnswer source offset patterns context before p after answer) (call : Call σ)
    (h : call ∈ asksUpTo source offset before context) :
    ∃ i q left, call = .asked i offset left ∧ patterns[i]? = some q := by
  rw [asksUpTo, List.mem_append, List.mem_singleton] at h
  rw [hfirst.split]
  rcases h with h | h
  · rcases mem_asks source offset 0 before context call h with ⟨i, q, left, hcall, hq⟩
    rw [Nat.zero_add] at hcall
    refine ⟨i, q, left, hcall, ?_⟩
    rw [List.getElem?_append_left (List.getElem?_eq_some_iff.mp hq).1]
    exact hq
  · refine ⟨before.length, p, _, h, ?_⟩
    rw [List.getElem?_append_right (Nat.le_refl _), Nat.sub_self, List.getElem?_cons_zero]

theorem callsOf_opens (s : Scanner σ) (source : String) (cursor : Nat) (context : σ) :
    s.callsOf source ⟨cursor, .start, context⟩ = [] := by
  have hstep : Step s.recorded source ((⟨cursor, .start, context⟩ : ScanState σ).withCalls [])
      (.ok .start) ((⟨cursor, .scanning, context⟩ : ScanState σ).withCalls []) := .opens cursor _
  exact callsOf_eq hstep

theorem callsOf_ends (s : Scanner σ) (source : String) (cursor : Nat) (context : σ)
    (hend : sourceLength source ≤ cursor) :
    s.callsOf source ⟨cursor, .scanning, context⟩ = [] := by
  have hstep : Step s.recorded source ((⟨cursor, .scanning, context⟩ : ScanState σ).withCalls [])
      (.ok (.stop cursor)) ((⟨cursor, .done, context⟩ : ScanState σ).withCalls []) :=
    .ends cursor _ hend
  exact callsOf_eq hstep

/-- The calls of a step: patterns are asked at the cursor, and the token that the
    step gives is shown. -/
theorem Step.mem_callsOf {s : Scanner σ} {source : String} {st st' : ScanState σ}
    {item : ScanItem} (h : Step s source st item st') (call : Call σ)
    (hcall : call ∈ s.callsOf source st) :
    AskedAt s source st call ∨ ∃ t left, call = .shown t left ∧ item = .ok t := by
  cases h with
  | opens cursor context =>
      rw [callsOf_opens] at hcall
      exact absurd hcall List.not_mem_nil
  | ends cursor context hend =>
      rw [callsOf_ends s source cursor context hend] at hcall
      exact absurd hcall List.not_mem_nil
  | fails cursor context before p after answer e hlt hfirst hres =>
      rw [callsOf_eq (Step.recorded_fails hlt hfirst hres [])] at hcall
      exact Or.inl ⟨mem_asksUpTo hfirst call hcall, rfl, hlt⟩
  | rejects cursor context before p after answer span e hlt hfirst hres herr =>
      rw [callsOf_eq (Step.recorded_rejects hlt hfirst hres herr [])] at hcall
      exact Or.inl ⟨mem_asksUpTo hfirst call hcall, rfl, hlt⟩
  | finds cursor context before p after answer span hlt hfirst hres hfits =>
      rw [callsOf_eq (Step.recorded_finds hlt hfirst hres hfits []), List.nil_append,
        List.mem_append, List.mem_singleton] at hcall
      rcases hcall with hcall | hcall
      · exact Or.inl ⟨mem_asksUpTo hfirst call hcall, rfl, hlt⟩
      · exact Or.inr ⟨_, _, hcall, rfl⟩
  | skips cursor context hlt hrefused =>
      rw [callsOf_eq (Step.recorded_skips hlt hrefused []), List.nil_append, List.mem_append,
        List.mem_singleton] at hcall
      rcases hcall with hcall | hcall
      · rcases mem_asks source cursor 0 s.patterns context call hcall with ⟨i, q, left, hi, hq⟩
        rw [Nat.zero_add] at hi
        exact Or.inl ⟨⟨i, q, left, hi, hq⟩, rfl, hlt⟩
      · exact Or.inr ⟨_, _, hcall, rfl⟩
  | recovers cursor context =>
      rw [callsOf_eq (Step.recorded_recovers s source cursor context []), List.nil_append,
        List.mem_singleton] at hcall
      exact Or.inr ⟨_, _, hcall, rfl⟩

/-- The calls of a pull: patterns are asked at the cursor, and the token that the
    pull gives is shown. -/
theorem mem_callsOf (s : Scanner σ) (source : String) (st : ScanState σ) (call : Call σ)
    (hcall : call ∈ s.callsOf source st) :
    AskedAt s source st call ∨
      ∃ t left, call = .shown t left ∧ (s.pull source st).value.1 = some (.ok t) := by
  by_cases hdone : st.phase = .done
  · -- Keeping a record shows that a scan that is over calls nothing.
    have hnone : s.callsOf source st = [] := by
      rw [callsOf, pull_of_done _ source (st.withCalls []) hdone]
      rfl
    rw [hnone] at hcall
    exact absurd hcall List.not_mem_nil
  · rcases step_exists s source st hdone with ⟨item, st', hstep⟩
    rcases hstep.mem_callsOf call hcall with hasked | ⟨t, left, hshown, hitem⟩
    · exact Or.inl hasked
    · exact Or.inr ⟨t, left, hshown, by rw [hstep.pull_eq, hitem]⟩

end Scanner

end Highlighter
