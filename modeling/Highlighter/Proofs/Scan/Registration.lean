import Highlighter.Scanner

/-!
# Building a scanner by calls

The scanners that can be made.

A scanner starts without patterns and is changed by registration calls, some of
which are refused: a pattern of a reserved type or with a broken regular
expression leaves the scanner as it was. `Registration` lists the calls and
`ofCalls` makes them one after the other, so a statement about all lists of
calls is one about all scanners that there are.

The point of the refusals is that the types of the patterns stay apart from the
types of the tokens that a scan gives on its own. `typesFree_ofCalls` is that
invariant; it holds at the start and every call keeps it.

## Main definitions

* `Registration`: The calls that change a scanner.
* `register`, `ofCalls`: Making one call, and making several.
* `TypesFree`: No pattern has a reserved type.

## Theorems

* `add_eq_ok`: What a successful registration of a pattern does.
* `typesFree_register`: Every call keeps the types free.
* `typesFree_ofCalls`: The types of every scanner are free.
* `TypesFree.ne`: A free type is none of the reserved ones.
* `mem_patterns_register`: The patterns after a call.
* `forall_matcher_ofCalls`: What holds of all matchers that the calls name holds
  of all matchers of the scanner.
-/

namespace Highlighter

/-- The calls that change a scanner. -/
inductive Registration (σ : Type) where
  /-- Adds a pattern with any matcher. -/
  | add (type : String) (matcher : Matcher σ)
  /-- Adds a pattern that is a group of a regular expression, group zero being
      the whole match. -/
  | addRegex (type pattern : String) (group : Nat)
  /-- Sets the hook. -/
  | setOnMatch (hook : Token → σ → σ)
  /-- Removes the hook. -/
  | clearOnMatch
  /-- Sets whether empty matches are marked. -/
  | setMarkEmpty (mark : Bool)

namespace Scanner

variable {σ : Type}

/-- Makes a call. A call that is refused changes nothing. -/
def register (s : Scanner σ) : Registration σ → Scanner σ
  | .add type matcher => (s.add type matcher).value.toOption.getD s
  | .addRegex type pattern group => (s.addRegex type pattern group).value.toOption.getD s
  | .setOnMatch hook => s.setOnMatch hook
  | .clearOnMatch => s.clearOnMatch
  | .setMarkEmpty mark => s.setMarkEmpty mark

/-- The scanner that some calls make of the empty one. -/
def ofCalls (calls : List (Registration σ)) : Scanner σ := calls.foldl register empty

/-- No pattern has an empty or a reserved type. -/
def TypesFree (s : Scanner σ) : Prop :=
  ∀ p ∈ s.patterns, p.type ≠ "" ∧ TokenType.isReserved p.type = false

/-- A successful registration puts a pattern of a free type behind the others. -/
theorem add_eq_ok (s s' : Scanner σ) (type : String) (matcher : Matcher σ)
    (h : (s.add type matcher).value = .ok s') :
    type ≠ "" ∧ TokenType.isReserved type = false ∧
      s' = { s with patterns := s.patterns ++ [⟨type, matcher⟩] } := by
  unfold add at h
  by_cases hbad : (type.isEmpty || TokenType.isReserved type) = true
  · rw [if_pos hbad] at h
    simp only [reduceCtorEq] at h
  · rw [if_neg hbad] at h
    simp only [Bool.or_eq_true, not_or, Bool.not_eq_true] at hbad
    simp only [Except.ok.injEq] at h
    refine ⟨?_, hbad.2, h.symm⟩
    intro hempty
    rw [hempty] at hbad
    exact absurd hbad.1 (by decide)

theorem typesFree_add (s : Scanner σ) (type : String) (matcher : Matcher σ) (h : s.TypesFree) :
    ((s.add type matcher).value.toOption.getD s).TypesFree := by
  rcases hadd : (s.add type matcher).value with e | s'
  · exact h
  · rcases add_eq_ok s s' type matcher hadd with ⟨hne, hfree, hs'⟩
    intro p hp
    simp only [Except.toOption, Option.getD_some, hs', List.mem_append, List.mem_singleton] at hp
    rcases hp with hp | hp
    · exact h p hp
    · rw [hp]
      exact ⟨hne, hfree⟩

/-- Every call keeps the types free. -/
theorem typesFree_register (s : Scanner σ) (call : Registration σ) (h : s.TypesFree) :
    (s.register call).TypesFree := by
  cases call with
  | add type matcher => exact typesFree_add s type matcher h
  | addRegex type pattern group =>
      -- The pattern is compiled first; a broken one never gets as far as `add`.
      unfold register addRegex
      simp only []
      rcases RegexMatcher.compile {} pattern group with e | m
      · exact h
      · exact typesFree_add s type m.toMatcher h
  | setOnMatch hook => exact h
  | clearOnMatch => exact h
  | setMarkEmpty mark => exact h

/-- The types of every scanner are free. -/
theorem typesFree_ofCalls (calls : List (Registration σ)) : (ofCalls calls).TypesFree := by
  have hfold : ∀ s : Scanner σ, s.TypesFree → (calls.foldl register s).TypesFree := by
    -- Each call goes to the scanner that the ones before it made.
    induction calls with
    | nil => exact fun s h => h
    | cons call calls ih => exact fun s h => ih _ (typesFree_register s call h)
  refine hfold empty (fun p hp => ?_)
  simp only [empty, List.not_mem_nil] at hp

/-- A free type is none of the reserved ones. -/
theorem TypesFree.ne {s : Scanner σ} (h : s.TypesFree) {p : Pattern σ} (hp : p ∈ s.patterns) :
    p.type ≠ TokenType.start ∧ p.type ≠ TokenType.stop ∧ p.type ≠ TokenType.unmatched ∧
      p.type ≠ TokenType.empty := by
  have hfree := (h p hp).2
  simp only [TokenType.isReserved, TokenType.reserved, List.contains_cons, List.contains_nil,
    Bool.or_false, Bool.or_eq_false_iff, beq_eq_false_iff_ne, ne_eq] at hfree
  exact hfree

theorem mem_patterns_add (s : Scanner σ) (type : String) (matcher : Matcher σ) (p : Pattern σ)
    (hp : p ∈ ((s.add type matcher).value.toOption.getD s).patterns) :
    p ∈ s.patterns ∨ p.matcher = matcher := by
  rcases hadd : (s.add type matcher).value with e | s'
  · rw [hadd] at hp
    exact Or.inl hp
  · have hs' := (add_eq_ok s s' type matcher hadd).2.2
    simp only [hadd, Except.toOption, Option.getD_some, hs', List.mem_append,
      List.mem_singleton] at hp
    rcases hp with hp | hp
    · exact Or.inl hp
    · exact Or.inr (by rw [hp])

/-- The patterns after a call are the ones before it and at most one more, with
    the matcher that the call names. -/
theorem mem_patterns_register (s : Scanner σ) (call : Registration σ) (p : Pattern σ)
    (hp : p ∈ (s.register call).patterns) :
    p ∈ s.patterns ∨ (∃ type, call = .add type p.matcher) ∨
      ∃ type pattern group m, call = .addRegex type pattern group ∧
        RegexMatcher.compile {} pattern group = .ok m ∧ p.matcher = m.toMatcher := by
  cases call with
  | add type matcher =>
      rcases mem_patterns_add s type matcher p hp with hold | hnew
      · exact Or.inl hold
      · exact Or.inr (Or.inl ⟨type, by rw [hnew]⟩)
  | addRegex type pattern group =>
      unfold register addRegex at hp
      simp only [] at hp
      rcases hm : RegexMatcher.compile {} pattern group with e | m
      · rw [hm] at hp
        exact Or.inl hp
      · rw [hm] at hp
        rcases mem_patterns_add s type m.toMatcher p hp with hold | hnew
        · exact Or.inl hold
        · exact Or.inr (Or.inr ⟨type, pattern, group, m, rfl, hm, hnew⟩)
  | setOnMatch hook => exact Or.inl hp
  | clearOnMatch => exact Or.inl hp
  | setMarkEmpty mark => exact Or.inl hp

/-- What holds of all matchers that some calls name holds of all matchers of the
    scanner that they make. -/
theorem forall_matcher_ofCalls (good : Matcher σ → Prop) (calls : List (Registration σ))
    (hadd : ∀ type matcher, .add type matcher ∈ calls → good matcher)
    (hregex : ∀ type pattern group m, .addRegex type pattern group ∈ calls →
      RegexMatcher.compile {} pattern group = .ok m → good m.toMatcher) :
    ∀ p ∈ (ofCalls calls).patterns, good p.matcher := by
  have hfold : ∀ s : Scanner σ, (∀ p ∈ s.patterns, good p.matcher) →
      ∀ p ∈ (calls.foldl register s).patterns, good p.matcher := by
    -- The calls that are left are among all calls, so the hypotheses go along.
    induction calls with
    | nil => exact fun s h => h
    | cons call calls ih =>
        intro s h
        refine ih (fun type matcher hcall => hadd type matcher (List.mem_cons_of_mem _ hcall))
          (fun type pattern group m hcall => hregex type pattern group m
            (List.mem_cons_of_mem _ hcall)) _ (fun p hp => ?_)
        rcases mem_patterns_register s call p hp with
          hold | ⟨type, hcall⟩ | ⟨type, pattern, group, m, hcall, hm, hmatcher⟩
        · exact h p hold
        · rw [hcall] at hadd
          exact hadd type p.matcher List.mem_cons_self
        · rw [hcall] at hregex
          rw [hmatcher]
          exact hregex type pattern group m List.mem_cons_self hm
  refine hfold empty (fun p hp => ?_)
  simp only [empty, List.not_mem_nil] at hp

end Scanner

end Highlighter
