import Highlighter.Proofs.Regex.Passage

/-!
# What matchers promise

The properties of a matcher that a scan can build on.

A scan puts up with any matcher, but it gives more if its matchers keep to some
rules. A *reliable* matcher can be asked at every character boundary; it never
fails and reports only pieces of the source that do not start before the offset.
A matcher that answers *in place* reports only spans that start at the offset.

All built-in matchers are reliable. For regular expressions this is what
`Regex.findAt?_fits` says, both of the whole match and of a group; a group that
took no part is empty at the offset, which is a boundary too. They answer in
place unless a group is asked for: a group may start anywhere in the match.

## Main definitions

* `Matcher.Reliable`: matchers that never end a scan.
* `Matcher.InPlace`: matchers that skip nothing.
* `Matcher.BuiltIn`: the built-in matchers.

## Theorems

* `RegexMatcher.compile_eq_ok`: The group of a compiled matcher.
* `RegexMatcher.span?_fits`: A regular expression reports pieces of the source.
* `RegexMatcher.inPlace_toMatcher`, `RegexMatcher.inPlace_words`,
  `Matcher.inPlace_anyChar`: The matchers that answer in place.
* `Matcher.BuiltIn.reliable`: The built-in matchers are reliable.
-/

namespace Highlighter

variable {σ : Type}

/-- A matcher that never ends a scan: it can be asked at every boundary, does not
    fail, and reports only pieces of the source that start at the offset or
    behind it. -/
structure Matcher.Reliable (m : Matcher σ) : Prop where
  /-- It can be asked at every boundary. -/
  accepts : ∀ source offset, Span.isBoundary source offset = true →
    m.accepts source offset = true
  /-- It answers there, and not with an error. -/
  answers : ∀ source offset context, Span.isBoundary source offset = true →
    ∃ found, (m.find source offset context).result = .ok found
  /-- What it reports can be the next token. -/
  fits : ∀ source offset context span, Span.isBoundary source offset = true →
    (m.find source offset context).result = .ok (some span) →
      offset ≤ span.start ∧ span.isValidIn source = true

/-- A matcher that skips nothing: the spans that it reports start where it was
    asked. -/
def Matcher.InPlace (m : Matcher σ) : Prop :=
  ∀ source offset context span, (m.find source offset context).result = .ok (some span) →
    span.start = offset

/-- The built-in matchers. The regular expressions take in those of word lists,
    and any group may be the lexeme. -/
inductive Matcher.BuiltIn : Matcher σ → Prop where
  /-- A group of a regular expression. -/
  | regex (m : RegexMatcher) : BuiltIn m.toMatcher
  /-- Any one character. -/
  | anyChar : BuiltIn .anyChar

/-- The empty span at a boundary is a piece of the source. -/
theorem Span.isValidIn_emptyAt {source : String} {offset : Nat}
    (h : isBoundary source offset = true) : (emptyAt offset).isValidIn source = true := by
  rw [isBoundary_iff] at h
  rcases h with ⟨before, rest, hcut⟩
  rw [isValidIn_iff]
  exact ⟨before, [], rest, hcut, rfl⟩

/-! ## Regular expressions -/

namespace RegexMatcher

/-- A matcher that could be compiled has the pattern and the group that it was
    compiled for, and there is such a group. -/
theorem compile_eq_ok (options : PatternOptions) (pattern : String) (group : Nat)
    (m : RegexMatcher) (h : compile options pattern group = .ok m) :
    m.pattern = pattern ∧ m.group = group ∧ group < m.regex.groups := by
  unfold compile at h
  rcases hregex : Regex.compile options pattern with cause | regex
  · simp only [hregex, reduceCtorEq] at h
  · simp only [hregex] at h
    by_cases hgroup : group < regex.groups
    · rw [if_pos hgroup, Except.ok.injEq] at h
      rw [← h]
      exact ⟨rfl, rfl, hgroup⟩
    · rw [if_neg hgroup] at h
      simp only [reduceCtorEq] at h

/-- A regular expression reports pieces of the source that do not start before
    the offset. -/
theorem span?_fits (m : RegexMatcher) (source : String) (offset : Nat) (span : Span)
    (hboundary : Span.isBoundary source offset = true) (h : m.span? source offset = some span) :
    offset ≤ span.start ∧ span.isValidIn source = true := by
  rw [span?, Option.map_eq_some_iff] at h
  rcases h with ⟨found, hfound, hspan⟩
  have hfits := m.regex.findAt?_fits source offset found hfound
  rcases hgroup : found.group? m.group with _ | place
  · -- The group took no part in the match.
    rw [hgroup, Option.getD_none] at hspan
    rw [← hspan]
    exact ⟨Nat.le_refl _, Span.isValidIn_emptyAt hboundary⟩
  · rw [hgroup, Option.getD_some] at hspan
    rw [← hspan]
    have hin := hfits.group m.group place hgroup
    exact ⟨hin.1, hin.2.2⟩

/-- The whole match of a regular expression starts at the offset. -/
theorem inPlace_toMatcher (m : RegexMatcher) (h : m.group = 0) :
    (m.toMatcher : Matcher σ).InPlace := by
  intro source offset context span hfind
  simp only [toMatcher, Except.ok.injEq, span?, Option.map_eq_some_iff] at hfind
  rcases hfind with ⟨found, hfound, hspan⟩
  rw [h, Match.group?, if_pos rfl, Option.getD_some] at hspan
  rw [← hspan]
  exact (m.regex.findAt?_fits source offset found hfound).start_eq

/-- A word is found where it starts. -/
theorem inPlace_words (ws : List String) (m : RegexMatcher) (h : words ws = .ok m) :
    (m.toMatcher : Matcher σ).InPlace :=
  m.inPlace_toMatcher (compile_eq_ok _ _ _ m h).2.1

theorem reliable_toMatcher (m : RegexMatcher) : (m.toMatcher : Matcher σ).Reliable where
  accepts := by
    intro source offset hboundary
    rw [isBoundary_iff] at hboundary
    rcases hboundary with ⟨before, rest, hcut⟩
    have hle := hcut.le_sourceLength
    simp only [toMatcher, decide_eq_true_eq]
    omega
  answers := fun source offset context _ => ⟨m.span? source offset, rfl⟩
  fits := by
    intro source offset context span hboundary h
    simp only [toMatcher, Except.ok.injEq] at h
    exact m.span?_fits source offset span hboundary h

end RegexMatcher

/-! ## Single characters -/

namespace Matcher

theorem charSpanAt?_eq_some (source : String) (offset : Nat) (span : Span)
    (h : charSpanAt? source offset = some span) :
    span.start = offset ∧ span.isValidIn source = true := by
  unfold charSpanAt? at h
  rcases hrest : afterBytes? offset source.toList with _ | rest
  · simp only [hrest, reduceCtorEq] at h
  · rcases rest with _ | ⟨c, cs⟩
    · simp only [hrest, reduceCtorEq] at h
    · simp only [hrest, Option.some.injEq] at h
      rcases afterBytes?_eq_some offset source.toList (c :: cs) hrest with ⟨before, hwhole, hlen⟩
      rw [← h, isValidIn_iff]
      refine ⟨rfl, before, [c], cs, ⟨hwhole, hlen⟩, ?_⟩
      rw [byteLength_cons, byteLength_nil, Nat.add_zero]

theorem inPlace_anyChar : (anyChar : Matcher σ).InPlace := by
  intro source offset context span h
  simp only [anyChar, Except.ok.injEq] at h
  exact (charSpanAt?_eq_some source offset span h).1

theorem reliable_anyChar : (anyChar : Matcher σ).Reliable where
  accepts := fun _ _ hboundary => hboundary
  answers := fun source offset context _ => ⟨charSpanAt? source offset, rfl⟩
  fits := by
    intro source offset context span _ h
    simp only [anyChar, Except.ok.injEq] at h
    have hspan := charSpanAt?_eq_some source offset span h
    exact ⟨Nat.le_of_eq hspan.1.symm, hspan.2⟩

/-- The built-in matchers are reliable. -/
theorem BuiltIn.reliable {m : Matcher σ} (h : m.BuiltIn) : m.Reliable := by
  cases h with
  | regex m => exact m.reliable_toMatcher
  | anyChar => exact reliable_anyChar

end Matcher

end Highlighter
