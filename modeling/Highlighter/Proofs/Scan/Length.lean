import Highlighter.Proofs.Scan.Run

/-!
# The length of a token stream

How many items a scan can give.

A source of `n` characters gives at most `2 * n + 2` items, the error included
if there is one. The two are the first and the last item; in between each
character can be responsible for an unmatched token of its own and for one empty
match in front of it. `Run.length_le` has the argument, so here it only has to be
read off at the start of a scan.

The bound is reached by every source. The scanner `everywhereEmpty` has one
pattern, which matches the empty text at every offset. So it gives an empty token
in front of each character and recovers the character afterwards, and
`run_everywhereEmpty` counts these items from the end of the source back to its
start.

## Main definitions

* `Matcher.emptyText`: The matcher of the empty text.
* `everywhereEmpty`: The scanner with this matcher only.

## Theorems

* `firstAnswer_everywhereEmpty`: Its pattern always answers.
* `run_everywhereEmpty`: Its runs behind a cut of the source.
* `scan_length_le`: Every scan ends within the bound, which cannot be improved.
-/

namespace Highlighter

/-- The matcher of the empty text. -/
def Matcher.emptyText {σ : Type} : Matcher σ where
  find _ offset context := { result := .ok (some (.emptyAt offset)), context }

namespace Scanner

variable {σ : Type}

/-- The scanner whose only pattern matches the empty text. -/
def everywhereEmpty : Scanner σ := { patterns := [⟨"mark", .emptyText⟩] }

theorem firstAnswer_everywhereEmpty (source : String) (cursor : Nat) (context : σ) :
    FirstAnswer source cursor (everywhereEmpty : Scanner σ).patterns context []
      ⟨"mark", .emptyText⟩ [] { result := .ok (some (.emptyAt cursor)), context } where
  split := rfl
  refused := trivial
  asked := rfl
  decisive := by simp only [ne_eq, Except.ok.injEq, reduceCtorEq, not_false_eq_true]

theorem spanError?_emptyAt {source : String} {cursor : Nat} {before rest : List Char}
    (hcut : CutAt source cursor before rest) (type : String) :
    spanError? source cursor type (.emptyAt cursor) = none := by
  rw [spanError?_eq_none_iff, isValidIn_iff]
  exact ⟨Nat.le_refl _, before, [], rest, hcut, rfl⟩

/-- Behind a cut, the scanner gives two items for each character and the end
    token. -/
theorem run_everywhereEmpty (source : String) (context : σ) (rest : List Char) :
    ∀ (cursor : Nat) (before : List Char), CutAt source cursor before rest →
      ∃ items last, Run everywhereEmpty source ⟨cursor, .scanning, context⟩ items last ∧
        items.length = 2 * rest.length + 1 := by
  induction rest with
  | nil =>
      intro cursor before hcut
      have hend : sourceLength source ≤ cursor := by
        rw [hcut.sourceLength_eq, byteLength_nil]
        omega
      exact ⟨_, _, .step _ _ _ _ _ (.ends cursor context hend) (.finished _ rfl), rfl⟩
  | cons c cs ih =>
      intro cursor before hcut
      have hlt : cursor < sourceLength source := by
        have hc := c.utf8Size_pos
        rw [hcut.sourceLength_eq, byteLength_cons]
        omega
      -- The pattern answers here with an empty match, which leaves the cursor.
      have hempty := Step.finds cursor context _ _ _ _ _ hlt
        (firstAnswer_everywhereEmpty source cursor context) rfl (spanError?_emptyAt hcut "mark")
      have hphase : phaseAfter cursor (.emptyAt cursor) = .recover :=
        (phaseAfter_eq_recover_iff cursor _).mpr ⟨Nat.le_refl _, rfl⟩
      rw [hphase] at hempty
      -- The character is recovered, and the scan goes on behind it.
      have hrecover : Step everywhereEmpty source ⟨cursor, .recover, context⟩ _ _ :=
        .recovers cursor context
      rcases unmatchedAt_eq hcut hlt with ⟨d, ds, hds, htoken⟩
      rw [List.cons.injEq] at hds
      have hmoved : CutAt source cursor before ([c] ++ cs) := hcut
      have hmove := hmoved.move
      rw [htoken, ← hds.1, String.toList_ofList] at hrecover
      rcases ih _ _ hmove with ⟨items, last, hrest, hlen⟩
      refine ⟨_ :: _ :: items, last, .step _ _ _ _ _ hempty (.step _ _ _ _ _ hrecover hrest), ?_⟩
      rw [List.length_cons, List.length_cons, List.length_cons, hlen]
      omega

/-- Every scan ends after at most two items for each character and two more,
    whatever its matchers and its hook do, and no source allows a smaller
    bound. -/
theorem scan_length_le (σ : Type) :
    (∀ (s : Scanner σ) (source : String) (context : σ),
      (s.scan source context).value.1.length ≤ 2 * source.length + 2 ∧
      ∀ k, (s.answer source { context } k).isSome = true ↔
        k < (s.scan source context).value.1.length) ∧
    ∀ source : String, ∃ s : Scanner σ, ∀ context : σ,
      (s.scan source context).value.1.length = 2 * source.length + 2 := by
  constructor
  · intro s source context
    have hrun := run_scan s source context
    constructor
    · rw [← pullsLeft_initial source context]
      exact hrun.length_le (onTrack_initial source context)
    · intro k
      rw [hrun.answer_eq k]
      rw [Option.isSome_iff_ne_none, ne_eq, List.getElem?_eq_none_iff, Nat.not_le]
  · intro source
    refine ⟨everywhereEmpty, fun context => ?_⟩
    rcases run_everywhereEmpty source context source.toList 0 [] (cutAt_zero source) with
      ⟨items, last, hrest, hlen⟩
    -- The start token and its run are the whole scan.
    have hrun := Run.step _ _ _ _ _ (.opens 0 context) hrest
    have hitems : (everywhereEmpty.scan source context).value = (.ok .start :: items, last) :=
      hrun.pulls_eq (enoughPulls source) (by
        rw [List.length_cons, hlen, String.length_toList, enoughPulls]
        omega)
    rw [hitems, List.length_cons, hlen, String.length_toList]

end Scanner

end Highlighter
