import Highlighter.Proofs.Translation.Highlighting
import Highlighter.Proofs.Translation.NormalForm
import Highlighter.Proofs.Tree.Normal

/-!
# All or nothing

Highlighting replaces everything or nothing.

There is one way for a highlighting to fail, and that is the scan of what the
element says. It may fail late, when many tokens have been shown by their rules
and sent through the sink. The element is not touched by any of that, because the
nodes that the sink makes belong to a container of their own, and an error of the
scan takes the container with it.

If the scan comes to its end, the container becomes the content of the element.
It has been normalised by then, so the element has a content in normal form,
whatever it held before.

## Main definitions

* `Translator.impatient`, `Translator.untidy`: a translator that fails on the third
  character, and an element to highlight.

## Theorems

* `Translator.translateTree_eq_error_iff`: A translation fails like its scan.
* `Translator.translateTree_normal`: A translation that succeeds gives a fragment
  in normal form.
* `Translator.highlight_all_or_nothing`: What a highlighting does to an element,
  in the one case and in the other.
* `Translator.highlight_all_or_nothing_impatient`: One element, both cases.
-/

namespace Highlighter

namespace Translator

variable {σ : Type}

/-- The transformer does not fail, so the errors among the outputs are those of
    the scan. -/
theorem error_mem_outputs_iff {ω : Type} (t : Translator σ ω) (source : String) (context : σ)
    (e : Error) : .error e ∈ (t.outputs source context).value ↔
      .error e ∈ (t.scanner.scan source context).value.1 := by
  rw [outputs_value, List.mem_map]
  constructor
  · rintro ⟨item, hitem, houtput⟩
    cases item with
    | error e' =>
        rw [Except.map, Except.error.injEq] at houtput
        rwa [← houtput]
    | ok token => cases houtput
  · exact fun h => ⟨.error e, h, rfl⟩

theorem translateTree_eq_error_iff (t : Translator σ Node) (source : String) (context : σ)
    (mode : InputMode) (e : Error) : (t.translateTree source context mode).value = .error e ↔
      .error e ∈ (t.scanner.scan source context).value.1 := by
  rw [← error_mem_outputs_iff, translateTree_value]
  constructor
  · -- The translation maps the collected outputs, and mapping keeps an error.
    intro h
    refine collect_eq_error _ e ?_
    rcases hvalues : collect (t.outputs source context).value with e' | ns
    · rw [hvalues, Except.map, Except.error.injEq] at h
      rw [h]
    · rw [hvalues] at h
      cases h
  · intro h
    rw [collect_outputs_of_mem t source context e h, Except.map]

/-- A translation that succeeds gives a fragment, and its members are in normal
    form. -/
theorem translateTree_normal (t : Translator σ Node) (source : String) (context : σ)
    (mode : InputMode) (content : Node)
    (hcontent : (t.translateTree source context mode).value = .ok content) :
    ∃ cs, content = .fragment cs ∧ (Node.fragment cs).Normal := by
  rw [translateTree_children] at hcontent
  rcases hvalues : collect (t.outputs source context).value with e | ns
  · rw [hvalues] at hcontent
    cases hcontent
  · rw [hvalues, Except.map, Except.ok.injEq] at hcontent
    exact ⟨_, hcontent.symm, Node.normal_joinAll_normalizeEach _⟩

/-- A highlighting fails with an error exactly if the scan of what is read of the
    element yields this error, and whenever it fails the element is what it was. If
    the scan yields no error, the highlighting succeeds: the tag and the attributes
    are unchanged, and the children are those that the translation gives, in normal
    form at every depth. -/
theorem highlight_all_or_nothing (t : Translator σ Node) (context : σ) (host : Element)
    (mode : InputMode) :
    (∀ e, (t.highlight context host mode).1.value = .error e ↔
      .error e ∈ (t.scanner.scan (host.input mode) context).value.1) ∧
    ((t.highlight context host mode).1.value ≠ .ok () →
      (t.highlight context host mode).2 = host) ∧
    ((∀ e, .error e ∉ (t.scanner.scan (host.input mode) context).value.1) →
      (t.highlight context host mode).1.value = .ok () ∧
      (t.highlight context host mode).2.tag = host.tag ∧
      (t.highlight context host mode).2.attributes = host.attributes ∧
      (t.translateTree (host.input mode) context mode).value
        = .ok (.fragment (t.highlight context host mode).2.children) ∧
      (Node.fragment (t.highlight context host mode).2.children).Normal) := by
  have hfails := t.translateTree_eq_error_iff (host.input mode) context mode
  have hhighlight := t.highlight_eq context host mode
  -- What the translation of the input gives decides the outcome and the new element.
  rcases hcontent : (t.translateTree (host.input mode) context mode).value with cause | content
  · rw [hcontent, Prod.mk.injEq] at hhighlight
    rw [hhighlight.1, hhighlight.2]
    refine ⟨fun e => ?_, fun _ => rfl, fun hnone => ?_⟩
    · rw [← hfails e, hcontent, Except.error.injEq, Except.error.injEq]
    · exact absurd ((hfails cause).mp hcontent) (hnone cause)
  · rcases t.translateTree_normal _ context mode content hcontent with ⟨cs, hfragment, hnormal⟩
    rw [hcontent, Prod.mk.injEq] at hhighlight
    rw [hhighlight.1, hhighlight.2]
    refine ⟨fun e => ?_, fun hfailed => absurd rfl hfailed, fun _ => ⟨rfl, rfl, rfl, ?_, ?_⟩⟩
    · rw [← hfails e, hcontent]
      simp only [reduceCtorEq]
    · rw [hfragment]
      rfl
    · rw [hfragment]
      exact hnormal

/-- A translator whose matcher counts in the context how often it has been asked,
    and fails when it is asked for the third time. -/
def impatient : Translator Nat Node where
  scanner :=
    { patterns := [⟨"letter", { find := fun source offset count =>
        if count < 2 then { Matcher.anyChar.find source offset count with context := count + 1 }
        else { result := .error (.matcherFailed "enough"), context := count } }⟩] }
  transformer := { rules := [("letter", Rules.element "b" true)], fallback := Rules.text }

/-- An element that holds a fragment with markup beside a text, and an empty
    text. Its text has two characters, and its written form has more. -/
def untidy : Element where
  tag := "p"
  attributes := [("class", "old")]
  children := [.fragment [.text "a", .markup "&lt;"], .text ""]

theorem highlight_all_or_nothing_impatient :
    ((impatient.highlight 0 untidy .markup).1.value = .error (.matcherFailed "enough") ∧
      (impatient.highlight 0 untidy .markup).2 = untidy) ∧
    (∀ e, .error e ∉ (impatient.scanner.scan (untidy.input .text) 0).value.1) ∧
    (impatient.highlight 0 untidy .text).1.value = .ok () ∧
    (impatient.highlight 0 untidy .text).2.tag = untidy.tag ∧
    (impatient.highlight 0 untidy .text).2.attributes = untidy.attributes ∧
    (impatient.translateTree (untidy.input .text) 0 .text).value
      = .ok (.fragment (impatient.highlight 0 untidy .text).2.children) ∧
    (Node.fragment (impatient.highlight 0 untidy .text).2.children).Normal := by
  -- The written form is longer than the text, so only its scan asks a third time.
  have hmarkup : (impatient.scanner.scan (untidy.input .markup) 0).value.1
      = [.ok .start, .ok ⟨"letter", "a", 0⟩, .ok ⟨"letter", "&", 1⟩,
          .error (.matcherFailed "enough")] := rfl
  have htext : (impatient.scanner.scan (untidy.input .text) 0).value.1
      = [.ok .start, .ok ⟨"letter", "a", 0⟩, .ok ⟨"letter", "<", 1⟩, .ok (.stop 2)] := rfl
  have hfailed : (impatient.highlight 0 untidy .markup).1.value
      = .error (.matcherFailed "enough") := by
    refine ((highlight_all_or_nothing impatient 0 untidy .markup).1 _).mpr ?_
    rw [hmarkup]
    exact List.mem_of_getLast? rfl
  have hnone : ∀ e, .error e ∉ (impatient.scanner.scan (untidy.input .text) 0).value.1 := by
    intro e he
    rw [htext] at he
    simp only [List.mem_cons, reduceCtorEq, List.not_mem_nil, or_self] at he
  refine ⟨⟨hfailed, (highlight_all_or_nothing impatient 0 untidy .markup).2.1 ?_⟩, hnone,
    (highlight_all_or_nothing impatient 0 untidy .text).2.2 hnone⟩
  rw [hfailed]
  simp only [ne_eq, reduceCtorEq, not_false_eq_true]

end Translator

end Highlighter
