import Highlighter.Proofs.Translation.Highlighting

/-!
# Translating markup

Why markup is not escaped a second time.

Escaping is done in two places. A text is escaped when it is written, and a text
that meets markup is escaped when the two are fused. In markup mode there is no
text to which either could happen, for the sink is asked for markup even where a
rule gives a text. So all leaves of the result are markup, and what they spell is
what the rules gave, string for string. It does not matter into how many pieces a
scan has cut the source: an entity may be cut in the middle and is whole again when
the pieces are fused.

A translator that knows only the fallback shows that nothing is lost. It gives the
pieces back as they are, so the content of an element is written as it was before,
though it is now a single piece of markup.

## Main definitions

* `Node.string`: the string of a text, or of markup.
* `Node.raw`: what the leaves of a tree spell, without any escaping.
* `Translator.copying`, `Translator.lessThan`: a translator without rules, and a host.

## Theorems

* `Node.spells_delivered_markup`: A delivery in markup mode spells what the leaves
  do.
* `Node.raw_of_markupFree`: Without markup this is the text.
* `Translator.spells_markup_of_translateTree`: So does a translation.
* `Translator.toHtml_translateTree_of_fallback`: Without rules the source comes back.
* `Translator.translateTree_markup`: Markup mode neither escapes nor loses markup.
* `Translator.translateTree_markup_copying`: An entity that is cut into pieces.
-/

namespace Highlighter

namespace Node

/-- The string of a text, or of markup. -/
def string : Node → String
  | text s => s
  | markup s => s
  | _ => ""

/-- The strings of the texts and the markup of the tree, from left to right, as
    they stand. -/
def raw (n : Node) : String := String.join (n.leaves.map string)

theorem join_map_raw (ns : List Node) :
    String.join (ns.map raw) = String.join ((leavesAll ns).map string) := by
  induction ns with
  | nil => rfl
  | cons n ns ih =>
      rw [List.map_cons, String.join_cons, ih, leavesAll, List.map_append, String.join_append, raw]

theorem spells_delivered_markup (ns : List Node) :
    Spells .markup (deliveredEach .markup ns) (String.join (ns.map raw)) := by
  -- The sink makes markup of every leaf, whether it was a text or markup.
  have hleaf : ∀ l ∈ leavesAll ns, l.inMode .markup = markup l.string := by
    intro l hl
    have htext := isTextLike_of_mem_leavesAll ns l hl
    cases l with
    | element | fragment => cases htext
    | text s | markup s => rfl
  refine ⟨(leavesAll ns).map string, ?_, (join_map_raw ns).symm⟩
  rw [leavesAll_deliveredEach, List.map_map]
  exact List.map_congr_left hleaf

theorem raw_of_markupFree {n : Node} (h : n.MarkupFree) : n.raw = n.textContent := by
  have hleaf : ∀ l ∈ n.leaves, l.string = l.textContent := by
    intro l hl
    have htext := isTextLike_of_mem_leaves n l hl
    cases l with
    | element | fragment => cases htext
    | text s => rfl
    | markup s => exact absurd hl (h s)
  rw [raw, textContent_eq_join, List.map_congr_left hleaf]

/-- Texts are delivered in markup mode as markup, which is written as it is. -/
theorem toHtmlAll_deliveredEach_texts (ss : List String) :
    toHtmlAll (deliveredEach .markup (ss.map text)) = String.join ss := by
  induction ss with
  | nil => rfl
  | cons s ss ih =>
      rw [List.map_cons, deliveredEach, toHtmlAll, ih, String.join_cons]
      rfl

end Node

namespace Translator

variable {σ : Type}

/-- A translation in markup mode gives a fragment that spells, in markup, what the
    rules gave for the tokens. -/
theorem spells_markup_of_translateTree (t : Translator σ Node) (source : String) (context : σ)
    (content : Node) (hcontent : (t.translateTree source context .markup).value = .ok content) :
    ∃ (tokens : List Token) (cs : List Node),
      (t.scanner.scan source context).value.1 = tokens.map .ok ∧ content = .fragment cs ∧
      Node.Spells .markup cs
        (String.join (tokens.map fun token => (t.transformer.transform token).raw)) := by
  rw [translateTree_children] at hcontent
  rcases hvalues : collect (t.outputs source context).value with e | ns
  · rw [hvalues] at hcontent
    cases hcontent
  · rw [hvalues, Except.map, Except.ok.injEq] at hcontent
    rcases exists_tokens t source context ns hvalues with ⟨tokens, hitems, hns⟩
    have hraw : ns.map Node.raw
        = tokens.map fun token => (t.transformer.transform token).raw := by
      rw [hns, List.map_map]
      rfl
    refine ⟨tokens, _, hitems, hcontent.symm, ?_⟩
    rw [← hraw]
    -- All leaves are markup after the delivery, so the normal form escapes nothing.
    exact (Node.Spells.normalizeEach _ (Node.spells_delivered_markup ns)).joinAll

/-- Without rules, and with the fallback for texts, a translation in markup mode is
    written like its source, if the matchers answer in place. -/
theorem toHtml_translateTree_of_fallback (t : Translator σ Node) (source : String) (context : σ)
    (hplace : ∀ p ∈ t.scanner.patterns, p.matcher.InPlace) (hrules : t.transformer.rules = [])
    (hfallback : t.transformer.fallback = Rules.text) (content : Node)
    (hcontent : (t.translateTree source context .markup).value = .ok content) :
    content.toHtml = source := by
  rw [translateTree_children] at hcontent
  rcases hvalues : collect (t.outputs source context).value with e | ns
  · rw [hvalues] at hcontent
    cases hcontent
  · rw [hvalues, Except.map, Except.ok.injEq] at hcontent
    rcases exists_tokens t source context ns hvalues with ⟨tokens, hitems, hns⟩
    have hsource : String.join (tokens.map (·.text)) = source :=
      (Scanner.scan_tiles t.scanner source context hplace tokens hitems).join_text
    have htexts : tokens.map t.transformer.transform = (tokens.map (·.text)).map .text := by
      -- No rule is found for any type, and the fallback makes a text of the token.
      rw [List.map_map]
      refine List.map_congr_left fun token _ => ?_
      rw [Transformer.transform, Transformer.rule, hrules, List.lookup_nil, Option.getD_none,
        hfallback]
      rfl
    rw [← hcontent, Node.toHtml, Node.toHtmlAll_joinAll, Node.toHtmlAll_normalizeEach, hns, htexts,
      Node.toHtmlAll_deliveredEach_texts, hsource]

/-- The result of a translation in markup mode has no text at any depth, and its
    markup, from left to right, spells what the rules gave for the tokens, nothing of
    it escaped. If the matchers answer in place and every rule gives what its token
    has in its leaves, this is the source. If the matchers answer in place and there
    are no rules but the fallback for texts, a highlighting in markup mode that
    succeeds leaves the written form of the content of an element unchanged. -/
theorem translateTree_markup (σ : Type) :
    (∀ (t : Translator σ Node) (source : String) (context : σ) (content : Node),
      (t.translateTree source context .markup).value = .ok content →
      (∀ s, .text s ∉ content.leaves) ∧
      ∃ (tokens : List Token) (pieces : List String),
        (t.scanner.scan source context).value.1 = tokens.map .ok ∧
        content.leaves = pieces.map .markup ∧
        String.join pieces
          = String.join (tokens.map fun token => (t.transformer.transform token).raw) ∧
        ((∀ p ∈ t.scanner.patterns, p.matcher.InPlace) →
          (∀ token, (t.transformer.transform token).raw = token.text) →
          String.join pieces = source)) ∧
    ∀ (t : Translator σ Node) (context : σ) (host : Element),
      (∀ p ∈ t.scanner.patterns, p.matcher.InPlace) →
      t.transformer.rules = [] → t.transformer.fallback = Rules.text →
      (t.highlight context host .markup).1.value = .ok () →
      (t.highlight context host .markup).2.innerHtml = host.innerHtml := by
  constructor
  · intro t source context content hcontent
    rcases t.spells_markup_of_translateTree source context content hcontent with
      ⟨tokens, cs, hitems, hfragment, pieces, hleaves, hjoin⟩
    have hall : content.leaves = pieces.map .markup := by
      rw [hfragment]
      exact hleaves
    refine ⟨fun s hs => ?_, tokens, pieces, hitems, hall, hjoin, fun hplace hkept => ?_⟩
    · rw [hall] at hs
      rcases List.mem_map.mp hs with ⟨piece, _, hpiece⟩
      cases hpiece
    · have htexts : tokens.map (fun token => (t.transformer.transform token).raw)
          = tokens.map (·.text) := List.map_congr_left fun token _ => hkept token
      rw [hjoin, htexts]
      exact (Scanner.scan_tiles t.scanner source context hplace tokens hitems).join_text
  · intro t context host hplace hrules hfallback hok
    have hhighlight := t.highlight_eq context host .markup
    rcases hcontent : (t.translateTree (host.input .markup) context .markup).value with cause | content
    · rw [hcontent, Prod.mk.injEq, hok] at hhighlight
      cases hhighlight.1
    · rw [hcontent, Prod.mk.injEq] at hhighlight
      have hwritten := t.toHtml_translateTree_of_fallback _ context hplace hrules hfallback content
        hcontent
      rw [hhighlight.2]
      exact (Node.toHtmlAll_splice content).trans hwritten

/-- A translator that cuts a source into its characters and has no rules. -/
def copying : Translator Nat Node where
  scanner := spelling.scanner
  transformer := { fallback := Rules.text }

/-- An element with a text that is written as an entity. -/
def lessThan : Element where
  tag := "p"
  attributes := [("class", "old")]
  children := [.text "<"]

theorem translateTree_markup_copying :
    (∀ p ∈ spelling.scanner.patterns, p.matcher.InPlace) ∧
    (∀ token, (spelling.transformer.transform token).raw = token.text) ∧
    (∃ content, (spelling.translateTree "&lt;" 0 .markup).value = .ok content ∧
      (∀ s, .text s ∉ content.leaves) ∧
      ∃ (tokens : List Token) (pieces : List String),
        (spelling.scanner.scan "&lt;" 0).value.1 = tokens.map .ok ∧
        content.leaves = pieces.map .markup ∧
        String.join pieces
          = String.join (tokens.map fun token => (spelling.transformer.transform token).raw) ∧
        String.join pieces = "&lt;") ∧
    (copying.highlight 0 lessThan .markup).1.value = .ok () ∧
    (copying.highlight 0 lessThan .markup).2.innerHtml = lessThan.innerHtml := by
  have hplace : ∀ p ∈ spelling.scanner.patterns, p.matcher.InPlace := by
    intro p hp
    rw [List.mem_singleton.mp hp]
    exact Matcher.inPlace_anyChar
  have hkeeps : spelling.transformer.KeepsText := by
    refine ⟨Rules.keepsText_text, fun entry hentry => ?_⟩
    rw [List.mem_singleton.mp hentry]
    exact Rules.keepsText_element "b" true
  have hkept : ∀ token, (spelling.transformer.transform token).raw = token.text := fun token =>
    (Node.raw_of_markupFree (hkeeps.transform token).1).trans (hkeeps.transform token).2
  have hcontent : (spelling.translateTree "&lt;" 0 .markup).value
      = .ok (.fragment (["&", "l", "t", ";"].map fun c =>
          .element "b" [("class", "letter")] [.markup c])) := rfl
  have hok : (copying.highlight 0 lessThan .markup).1.value = .ok () := rfl
  rcases (translateTree_markup Nat).1 spelling "&lt;" 0 _ hcontent with
    ⟨hnone, tokens, pieces, hitems, hleaves, hjoin, hsource⟩
  exact ⟨hplace, hkept,
    ⟨_, hcontent, hnone, tokens, pieces, hitems, hleaves, hjoin, hsource hplace hkept⟩, hok,
    (translateTree_markup Nat).2 copying 0 lessThan hplace rfl rfl hok⟩

end Translator

end Highlighter
