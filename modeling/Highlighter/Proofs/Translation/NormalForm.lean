import Highlighter.Proofs.Scan.Ending
import Highlighter.Proofs.Translation.Outcome
import Highlighter.Proofs.Tree.Input

/-!
# Trees of outputs

What a tree translator returns, told from its outputs alone.

A tree translator sends its outputs through a sink and brings the result to
normal form, so it does two things to a tree and does the first of them piece by
piece. Together they come to one: put the outputs into a fragment, as the input
mode takes them, and normalise that. How the sink went about it does not show.

There is no such tree if the outputs have an error. Then this error is what comes
back, and it is the only one, for a scan ends with its first error.

## Main definitions

* `Translator.quoteRule`: a tree rule that nests fragments in elements.
* `Translator.failing`: a translator that fails on every source but the empty one.

## Theorems

* `Translator.collect_outputs_of_mem`: An error among the outputs is the first one.
* `Translator.translateTree_eq_normalize`: The tree is the normal form of the
  outputs in a fragment.
-/

namespace Highlighter

namespace Translator

variable {σ ω : Type}

/-- An error among the outputs is the last of them, so there is no other one to
    be met before it. -/
theorem collect_outputs_of_mem (t : Translator σ ω) (source : String) (context : σ) (e : Error)
    (he : .error e ∈ (t.outputs source context).value) :
    collect (t.outputs source context).value = .error e := by
  -- All items of a scan but the last are tokens, so all outputs but the last are values.
  rcases (Scanner.run_scan t.scanner source context).ending
    (Scanner.onTrack_initial source context)
    (by simp only [ne_eq, reduceCtorEq, not_false_eq_true]) with ⟨tokens, final, hitems, _⟩
  have houtputs : (t.outputs source context).value
      = (tokens.map t.transformer.transform).map .ok ++ [final.map t.transformer.transform] := by
    rw [outputs_value, hitems, List.map_append, List.map_singleton, List.map_map, List.map_map]
    rfl
  rw [houtputs] at he ⊢
  rcases List.mem_append.mp he with hvalue | hfinal
  · rcases List.mem_map.mp hvalue with ⟨n, _, hn⟩
    cases hn
  · rw [← List.mem_singleton.mp hfinal]
    exact (collect_eq_error_iff _ e).mpr ⟨_, [], rfl⟩

/-- If no output is an error, and no element in an output has two attributes of
    one name, a tree translator returns the normal form of all outputs in a
    fragment, as the input mode takes them. If an output is an error, it returns
    this error. -/
theorem translateTree_eq_normalize (t : Translator σ Node) (source : String) (context : σ)
    (mode : InputMode) :
    ((∀ e, .error e ∉ (t.outputs source context).value) →
      (∀ n, .ok n ∈ (t.outputs source context).value → n.DistinctNames) →
      ∃ ns : List Node, (t.outputs source context).value = ns.map .ok ∧
        (t.translateTree source context mode).value
          = .ok (Node.fragment (ns.map (Node.inMode mode))).normalize) ∧
    (∀ e, .error e ∈ (t.outputs source context).value →
      (t.translateTree source context mode).value = .error e) := by
  constructor
  · intro hnone hnames
    rcases hvalues : collect (t.outputs source context).value with e | ns
    · exact absurd (collect_eq_error _ e hvalues) (hnone e)
    · have houtputs := (collect_eq_ok_iff _ ns).mp hvalues
      refine ⟨ns, houtputs, ?_⟩
      have hall : ∀ n ∈ ns, n.DistinctNames := by
        intro n hn
        refine hnames n ?_
        rw [houtputs]
        exact List.mem_map_of_mem hn
      rw [translateTree_value, hvalues, Except.map, Node.normalize_appendAll_delivered mode ns hall]
  · intro e he
    rw [translateTree_value, collect_outputs_of_mem t source context e he, Except.map]

/-- A tree rule with a fragment inside an element inside a fragment, where texts
    and markup are neighbours once the fragments are gone. -/
def quoteRule : Rule Node := fun t =>
  .fragment [.text "\"", .element "q" [("class", t.type)]
    [.fragment [.text t.text, .fragment [.markup "&amp;"]], .text t.text], .markup ""]

/-- A translator that takes every character for a letter and quotes it. -/
def quoting : Translator Unit Node where
  scanner := { patterns := [⟨"letter", .anyChar⟩] }
  transformer := { fallback := quoteRule }

/-- A translator that quotes up to the first character. -/
def failing : Translator Unit Node where
  scanner := { patterns := [⟨"letter", { find := fun _ _ context =>
    { result := .error (.matcherFailed "no letters today"), context } }⟩] }
  transformer := { fallback := quoteRule }

theorem translateTree_eq_normalize_quoting :
    (∃ ns : List Node, (quoting.outputs "<ä" ()).value = ns.map .ok ∧
      (quoting.translateTree "<ä" () .markup).value
        = .ok (Node.fragment (ns.map (Node.inMode .markup))).normalize) ∧
    (failing.translateTree "<ä" () .text).value = .error (.matcherFailed "no letters today") := by
  have hvalues : (quoting.outputs "<ä" ()).value
      = ([⟨"(start)", "", 0⟩, ⟨"letter", "<", 0⟩, ⟨"letter", "ä", 1⟩, ⟨"(end)", "", 3⟩].map
          quoteRule).map .ok := rfl
  have hnames : ∀ t, (quoteRule t).DistinctNames := by
    intro t
    have hsingle : ["class"].Nodup := by decide
    exact ⟨trivial, ⟨hsingle, ⟨trivial, ⟨trivial, trivial⟩, trivial⟩, trivial, trivial⟩,
      trivial, trivial⟩
  constructor
  · refine (translateTree_eq_normalize quoting "<ä" () .markup).1 (fun e he => ?_) (fun n hn => ?_)
    · rw [hvalues] at he
      rcases List.mem_map.mp he with ⟨n, _, hn⟩
      cases hn
    · rw [hvalues, List.map_map] at hn
      rcases List.mem_map.mp hn with ⟨t, _, ht⟩
      rw [← Except.ok.inj ht]
      exact hnames t
  · exact (translateTree_eq_normalize failing "<ä" () .text).2 (.matcherFailed "no letters today")
      (List.mem_cons_of_mem _ List.mem_cons_self)

end Translator

end Highlighter
