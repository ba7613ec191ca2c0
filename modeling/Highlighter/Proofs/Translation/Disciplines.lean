import Highlighter.Proofs.Translation.Outcome

/-!
# Text and tree translators agree

Two translators over one scanner, one writing texts and one building trees.

If each text rule writes what the tree rule builds, the two should write the same
in the end. They get there in different ways. The text translator joins what it
is given. The tree translator sends every output through a sink, takes fragments
apart, joins neighbouring texts with markup, and nothing is written before all of
that is done. Each of these steps keeps the written form:
`Node.toHtmlAll_deliveredEach` says so for the sink, and
`Node.toHtmlAll_splice_normalize` for the normal form. Errors come from the scan
alone, so both translators meet the same one, and they meet it at the same place.

Attributes are set one by one on the way, so the names in an element have to be
distinct. An element that sets a name twice would keep one of the two.

## Main definitions

* `Translator.nestedRule`, `Translator.nestedText`: A tree rule and what it
  writes.

## Theorems

* `Node.toHtml_normalize_appendAll`: The written form of what the sink makes.
* `Translator.outputs_eq_map_toHtml`: Text outputs are written tree outputs.
* `Translator.translateText_eq_toHtml`: The two kinds of translator agree.
* `Translator.translateText_eq_toHtml_anyWord`: They do so on a nested tree.
-/

namespace Highlighter

namespace Node

/-- What the sink makes of some trees in text mode, put into a fragment and
    brought to normal form, is written like the trees one after the other. -/
theorem toHtml_normalize_appendAll (ns : List Node) (hnames : ∀ n ∈ ns, n.DistinctNames) :
    ((fragment []).appendAll (deliveredEach .text ns)).normalize.toHtml = toHtmlAll ns := by
  rw [appendAll_fragment, List.nil_append, ← toHtmlAll_splice, toHtmlAll_splice_normalize, toHtml,
    toHtmlAll_flatMap_splice]
  exact toHtmlAll_deliveredEach ns ((distinctNamesEach_iff ns).mpr hnames)

end Node

namespace Translator

variable {σ : Type}

/-- If the text rules write what the tree rules build, the outputs of the one are
    the written outputs of the other. -/
theorem outputs_eq_map_toHtml (scanner : Scanner σ) (texts : Transformer String)
    (trees : Transformer Node) (source : String) (context : σ)
    (hagree : ∀ token, texts.transform token = (trees.transform token).toHtml) :
    ((⟨scanner, texts⟩ : Translator σ String).outputs source context).value
      = ((⟨scanner, trees⟩ : Translator σ Node).outputs source context).value.map
          (Except.map Node.toHtml) := by
  rw [outputs_value, outputs_value, List.map_map]
  refine List.map_congr_left fun item _ => ?_
  cases item with
  | error e => rfl
  | ok token => exact congrArg Except.ok (hagree token)

/-- A tree translator in text mode and a text translator whose rules write what
    the tree rules build agree: the text is the written form of the tree, and both
    fail with the same error if one of them fails. -/
theorem translateText_eq_toHtml (scanner : Scanner σ) (texts : Transformer String)
    (trees : Transformer Node) (source : String) (context : σ)
    (hagree : ∀ token, texts.transform token = (trees.transform token).toHtml)
    (hnames : ∀ token, (trees.transform token).DistinctNames) :
    ((⟨scanner, texts⟩ : Translator σ String).translateText source context).value
      = ((⟨scanner, trees⟩ : Translator σ Node).translateTree source context .text).value.map
          Node.toHtml := by
  rw [translateText_value, translateTree_value,
    outputs_eq_map_toHtml scanner texts trees source context hagree, collect_map]
  cases houtputs : collect ((⟨scanner, trees⟩ : Translator σ Node).outputs source context).value with
  | error e => rfl
  | ok ns =>
      have hfrom : ∀ n ∈ ns, n.DistinctNames := by
        intro n hn
        rcases exists_transform_of_mem _ source context ns houtputs n hn with ⟨token, htoken⟩
        rw [← htoken]
        exact hnames token
      exact congrArg Except.ok
        ((Node.join_map_toHtml ns).trans (Node.toHtml_normalize_appendAll ns hfrom).symm)

/-- A tree rule with a fragment inside an element, where text meets markup. -/
def nestedRule : Rule Node := fun t =>
  .fragment [.element "b" [("class", t.type), ("title", t.text)]
    [.fragment [.text t.text, .markup "&amp;"], .text ""], .text t.text]

/-- What that rule writes. -/
def nestedText : Rule String := fun t =>
  "<b class=\"" ++ Text.escapeAttribute t.type ++ "\" title=\"" ++ Text.escapeAttribute t.text
    ++ "\">" ++ Text.escape t.text ++ "&amp;</b>" ++ Text.escape t.text

theorem nestedText_eq (t : Token) : nestedText t = (nestedRule t).toHtml := by
  apply String.toList_inj.mp
  unfold nestedText nestedRule
  simp only [Node.toHtml, Node.toHtmlAll, Node.attributesHtml, Text.escape_empty,
    String.append_empty, String.toList_append, List.append_assoc]
  rfl

/-- A scanner that finds every character and takes it for a word. -/
def anyWord : Scanner Unit := { patterns := [⟨"word", .anyChar⟩] }

theorem translateText_eq_toHtml_anyWord :
    (∀ t, ({ fallback := nestedText } : Transformer String).transform t
      = (({ fallback := nestedRule } : Transformer Node).transform t).toHtml) ∧
    (∀ t, (({ fallback := nestedRule } : Transformer Node).transform t).DistinctNames) ∧
    ((⟨anyWord, { fallback := nestedText }⟩ : Translator Unit String).translateText
        "<a" ()).value
      = ((⟨anyWord, { fallback := nestedRule }⟩ : Translator Unit Node).translateTree
          "<a" () .text).value.map Node.toHtml := by
  have hnames : ∀ t, (nestedRule t).DistinctNames := by
    intro t
    have hpair : ["class", "title"].Nodup := by decide
    exact ⟨⟨hpair, ⟨trivial, trivial, trivial⟩, trivial, trivial⟩, trivial, trivial⟩
  refine ⟨nestedText_eq, hnames, ?_⟩
  exact translateText_eq_toHtml anyWord { fallback := nestedText } { fallback := nestedRule }
    "<a" () nestedText_eq hnames

end Translator

end Highlighter
