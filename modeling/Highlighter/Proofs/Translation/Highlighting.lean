import Highlighter.Proofs.Scan.Tiling
import Highlighter.Proofs.Translation.Outcome
import Highlighter.Proofs.Tree.Leaves

/-!
# Highlighting

What highlighting an element does to it, and what it leaves alone.

An element is read, translated, and given the result for its children. So the
element after a highlighting is known when the translation is: nothing happens if
it fails, and otherwise only the children are others.

In text mode the text is read, and the rules are asked to show it in another way
but not to change it. Then the text goes through unchanged: a scan without gaps
cuts it into tokens, each rule spells its token, and neither the sink nor the
normal form change what is spelled. This is also why a second highlighting does
nothing. It reads the same text, so it makes the same children.

## Main definitions

* `Element.input`: what is read of an element.
* `Rule.KeepsText`: a rule that shows the text of a token, without markup.
* `Transformer.KeepsText`: a transformer with such rules only.
* `Translator.spelling`, `Translator.paragraph`: a translator whose rules keep the
  text, and an element to highlight.

## Theorems

* `Translator.translateTree_children`: The children that a translation gives.
* `Translator.spells_of_translateTree`: A translation spells its source.
* `Translator.highlight_eq`: What highlighting an element does.
* `Translator.highlight_keeps_text`: Highlighting in text mode keeps the text, and
  doing it again changes nothing.
-/

namespace Highlighter

/-- What is read of an element in an input mode. -/
def Element.input (e : Element) (mode : InputMode) : String :=
  match mode with
  | .text => e.textContent
  | .markup => e.innerHtml

/-! ## Rules that keep the text -/

/-- A rule shows every token by a tree that has the text of the token, and has no
    markup. -/
def Rule.KeepsText (rule : Rule Node) : Prop :=
  ∀ token, (rule token).MarkupFree ∧ (rule token).textContent = token.text

/-- Every rule keeps the text, and the fallback does. -/
structure Transformer.KeepsText (t : Transformer Node) : Prop where
  /-- The fallback keeps the text. -/
  fallback : Rule.KeepsText t.fallback
  /-- The rules of single types keep the text. -/
  rules : ∀ entry ∈ t.rules, Rule.KeepsText entry.2

theorem Transformer.KeepsText.transform {t : Transformer Node} (h : t.KeepsText)
    (token : Token) :
    (t.transform token).MarkupFree ∧ (t.transform token).textContent = token.text := by
  unfold Transformer.transform Transformer.rule
  rcases hrule : t.rules.lookup token.type with _ | rule
  · exact h.fallback token
  · rcases List.lookup_eq_some_iff.mp hrule with ⟨before, after, hsplit, _⟩
    refine h.rules (token.type, rule) ?_ token
    rw [hsplit]
    exact List.mem_append_right _ List.mem_cons_self

theorem Rules.keepsText_text : Rule.KeepsText Rules.text := by
  intro token
  refine ⟨fun s hs => ?_, rfl⟩
  cases List.mem_singleton.mp hs

theorem Rules.keepsText_element (tag : String) (addClass : Bool) :
    Rule.KeepsText (Rules.element tag addClass) := by
  intro token
  -- The class is an attribute, and the child is the text in either case.
  have hnode : ∃ attributes,
      Rules.element tag addClass token = .element tag attributes [.text token.text] := by
    cases addClass <;> exact ⟨_, rfl⟩
  rcases hnode with ⟨attributes, hnode⟩
  rw [hnode]
  refine ⟨fun s hs => ?_, String.append_empty⟩
  cases List.mem_singleton.mp hs

/-- Some trees spell, one after the other, what each of them spells. -/
theorem Node.spells_map (f : Token → Node) (tokens : List Token) {mode : InputMode}
    (hf : ∀ t ∈ tokens, Spells mode [f t] t.text) :
    Spells mode (tokens.map f) (String.join (tokens.map (·.text))) := by
  induction tokens with
  | nil => exact (spells_nil_iff _).mpr String.join_nil
  | cons t ts ih =>
      rw [List.forall_mem_cons] at hf
      rw [List.map_cons, List.map_cons, String.join_cons]
      exact (spells_append_iff [f t] (ts.map f) _).mpr ⟨_, _, hf.1, ih hf.2, rfl⟩

namespace Translator

variable {σ : Type}

/-! ## Translations -/

/-- The children that a translation gives: what the sink makes of the outputs, in
    normal form. -/
theorem translateTree_children (t : Translator σ Node) (source : String) (context : σ)
    (mode : InputMode) :
    (t.translateTree source context mode).value
      = (collect (t.outputs source context).value).map fun ns =>
          .fragment (Node.joinAll (Node.normalizeEach (Node.deliveredEach mode ns))) := by
  rw [translateTree_value]
  congr 1
  funext ns
  rw [Node.appendAll_fragment, List.nil_append, Node.normalize, Node.joinAll_normalizeEach_splice]

/-- If the matchers answer in place and the rules keep the text, a translation
    spells its source. -/
theorem spells_of_translateTree (t : Translator σ Node) (source : String) (context : σ)
    (mode : InputMode) (hplace : ∀ p ∈ t.scanner.patterns, p.matcher.InPlace)
    (hkeeps : t.transformer.KeepsText) (content : Node)
    (hcontent : (t.translateTree source context mode).value = .ok content) :
    ∃ cs, content = .fragment cs ∧ Node.Spells mode cs source := by
  rw [translateTree_children] at hcontent
  rcases hvalues : collect (t.outputs source context).value with e | ns
  · simp only [hvalues, Except.map, reduceCtorEq] at hcontent
  · rw [hvalues, Except.map, Except.ok.injEq] at hcontent
    rcases exists_tokens t source context ns hvalues with ⟨tokens, hitems, hns⟩
    have hsource : String.join (tokens.map (·.text)) = source :=
      (Scanner.scan_tiles t.scanner source context hplace tokens hitems).join_text
    -- The rules spell what the scan cut the source into, as texts whatever the mode.
    have houtputs : Node.Spells .text ns source := by
      rw [hns, ← hsource]
      refine Node.spells_map t.transformer.transform tokens fun token _ => ?_
      have hkept := hkeeps.transform token
      rw [← hkept.2]
      exact Node.spells_textContent hkept.1
    exact ⟨_, hcontent.symm, (Node.Spells.normalizeEach _ (houtputs.delivered mode)).joinAll⟩

/-! ## Elements -/

/-- Highlighting an element replaces its children if the translation of what the
    element says succeeds, and does nothing to it otherwise. -/
theorem highlight_eq (t : Translator σ Node) (context : σ) (e : Element) (mode : InputMode) :
    ((t.highlight context e mode).1.value, (t.highlight context e mode).2)
      = match (t.translateTree (e.input mode) context mode).value with
        | .error cause => (.error cause, e)
        | .ok content => (.ok (), e.replaceChildren content) := by
  -- The host keeps the element in its state, and the sink does not touch it.
  have hdelivery := translateInto_value (m := StateM Element) t (e.input mode) context mode
  rw [← translateTree_value] at hdelivery
  generalize (t.translateTree (e.input mode) context mode).value = outcome at hdelivery
  unfold highlight highlightHost
  cases mode with
  | text =>
      simp only [Host.element, StateT.run_bind, StateT.run_get, StateT.run_pure, pure_bind]
      rw [Element.input] at hdelivery
      rw [hdelivery]
      cases outcome with
      | error cause => rfl
      | ok content => rfl
  | markup =>
      simp only [Host.element, StateT.run_bind, StateT.run_get, StateT.run_pure, pure_bind]
      rw [Element.input] at hdelivery
      rw [hdelivery]
      cases outcome with
      | error cause => rfl
      | ok content => rfl

/-- The ready-made rules for texts and elements keep the text. If the matchers of
    a translator answer in place and all its rules keep the text, a highlighting in
    text mode that succeeds keeps the text of the element, though its children are
    now those of the translation, and a second one succeeds as well and leaves the
    element exactly as the first one made it. -/
theorem highlight_keeps_text (σ : Type) :
    Rule.KeepsText Rules.text ∧
    (∀ tag addClass, Rule.KeepsText (Rules.element tag addClass)) ∧
    ∀ (t : Translator σ Node) (context : σ) (host host' : Element),
      (∀ p ∈ t.scanner.patterns, p.matcher.InPlace) → t.transformer.KeepsText →
      (t.highlight context host .text).1.value = .ok () →
      (t.highlight context host .text).2 = host' →
      (t.translateTree host.textContent context .text).value = .ok (.fragment host'.children) ∧
      host'.textContent = host.textContent ∧
      (t.highlight context host' .text).1.value = .ok () ∧
      (t.highlight context host' .text).2 = host' := by
  refine ⟨Rules.keepsText_text, Rules.keepsText_element, ?_⟩
  intro t context host host' hplace hkeeps hok hhost'
  have hfirst := t.highlight_eq context host .text
  rcases hcontent : (t.translateTree (host.input .text) context .text).value with cause | content
  · rw [hcontent, Prod.mk.injEq, hok] at hfirst
    exact absurd hfirst.1 (by simp only [reduceCtorEq, not_false_eq_true])
  · rcases t.spells_of_translateTree _ context .text hplace hkeeps content hcontent with
      ⟨cs, hfragment, hspells⟩
    rw [hfragment] at hcontent
    rw [hcontent, Prod.mk.injEq, hhost'] at hfirst
    have hchildren : host'.children = cs := by
      rw [hfirst.2]
      rfl
    have htext : host'.textContent = host.textContent := by
      rw [Element.textContent, hchildren]
      exact hspells.textContentAll_eq
    -- The same text is read again, so the children are replaced by what they are.
    have hsecond := t.highlight_eq context host' .text
    have hinput : host'.input .text = host.input .text := htext
    have hsame : host'.replaceChildren (.fragment cs) = host' := by
      rw [← hchildren]
      rfl
    rw [hinput, hcontent, Prod.mk.injEq] at hsecond
    refine ⟨?_, htext, hsecond.1, hsecond.2.trans hsame⟩
    rw [hchildren]
    exact hcontent

/-- A translator that shows each character in an element of its own, and leaves the
    marks of the start and the end to the fallback. -/
def spelling : Translator Nat Node where
  scanner :=
    { patterns := [⟨"letter", .anyChar⟩]
      onMatch := some fun token count => count + token.text.length }
  transformer := { rules := [("letter", Rules.element "b" true)], fallback := Rules.text }

/-- An element with markup and an element in it. -/
def paragraph : Element where
  tag := "p"
  attributes := [("class", "old")]
  children := [.markup "&lt;", .element "i" [] [.text "ä"]]

theorem highlight_keeps_text_paragraph :
    (∀ p ∈ spelling.scanner.patterns, p.matcher.InPlace) ∧ spelling.transformer.KeepsText ∧
    ∃ host', (spelling.highlight 0 paragraph .text).1.value = .ok () ∧
      (spelling.highlight 0 paragraph .text).2 = host' ∧
      (spelling.translateTree paragraph.textContent 0 .text).value
        = .ok (.fragment host'.children) ∧
      host'.textContent = paragraph.textContent ∧
      (spelling.highlight 0 host' .text).1.value = .ok () ∧
      (spelling.highlight 0 host' .text).2 = host' := by
  have hplace : ∀ p ∈ spelling.scanner.patterns, p.matcher.InPlace := by
    intro p hp
    rw [List.mem_singleton.mp hp]
    exact Matcher.inPlace_anyChar
  have hkeeps : spelling.transformer.KeepsText := by
    refine ⟨Rules.keepsText_text, fun entry hentry => ?_⟩
    rw [List.mem_singleton.mp hentry]
    exact Rules.keepsText_element "b" true
  have hok : (spelling.highlight 0 paragraph .text).1.value = .ok () := rfl
  have hhost' : (spelling.highlight 0 paragraph .text).2
      = ⟨"p", [("class", "old")], [.element "b" [("class", "letter")] [.text "<"],
          .element "b" [("class", "letter")] [.text "ä"]]⟩ := rfl
  exact ⟨hplace, hkeeps, _, hok, hhost',
    (highlight_keeps_text Nat).2.2 spelling 0 paragraph _ hplace hkeeps hok hhost'⟩

end Translator

end Highlighter
