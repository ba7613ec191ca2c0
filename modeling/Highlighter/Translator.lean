import Highlighter.Builder
import Highlighter.Rules
import Highlighter.Tree.Sink

/-!
# Translators

A translator scans a source and puts the outputs of its rules together. Texts
are joined; trees are delivered to a sink one by one, appended to a container,
and normalised at the end. Highlighting a host translates what the host says and
replaces its content by the result.

If the scan fails, so does the whole. Nothing is replaced then, but a sink has
seen the outputs before the error.

## Main definitions

* `Translator`: a scanner and a transformer.
* `Translator.outputs`: the outputs for the tokens of a source.
* `Translator.translateText`: the outputs as one text.
* `Translator.translateInto`: the outputs delivered to a sink.
* `Translator.translateTree`: the outputs as one tree.
* `Translator.highlightHost`, `Translator.highlight`: replacing the content of a
  host or of an element.
-/

namespace Highlighter

/-- A scanner over contexts of type `σ`, and a transformer. -/
structure Translator (σ ω : Type) where
  /-- The scanner. -/
  scanner : Scanner σ := {}
  /-- The transformer. -/
  transformer : Transformer ω

namespace Translator

variable {σ ω : Type}

/-- The translator with its field names. -/
def inspect (t : Translator σ ω) : String :=
  Text.record "Translator" [("scanner", t.scanner.inspect),
    ("transformer", t.transformer.inspect)]

/-- The output for what a scan gives. -/
def output (t : Translator σ ω) (item : ScanItem) : Except Error ω :=
  item.map t.transformer.transform

/-- The outputs of at most `n` pulls, and the state of the scan after them. -/
def outputPulls (t : Translator σ ω) (source : String) (context : σ) (n : Nat) :
    Logged (List (Except Error ω) × ScanState σ) :=
  (t.scanner.pulls source n { context }).map fun (items, st) => (items.map t.output, st)

/-- The outputs for the tokens of a source. -/
def outputs (t : Translator σ ω) (source : String) (context : σ) :
    Logged (List (Except Error ω)) :=
  (t.outputPulls source context (Scanner.enoughPulls source)).map (·.1)

/-- Texts joined up to the first error. -/
def joinTexts : List (Except Error String) → Except Error String
  | [] => .ok ""
  | .error e :: _ => .error e
  | .ok s :: rest => (joinTexts rest).map (s ++ ·)

/-- The outputs as one text. -/
def translateText (t : Translator σ String) (source : String) (context : σ) :
    Logged (Except Error String) :=
  .after [Logged.debug ("Translating " ++ toString (sourceLength source) ++ " bytes to text")]
    ((t.outputs source context).map joinTexts)

/-- Delivers trees to a sink and appends them to a node, up to the first
    error. -/
def deliverAll {m : Type → Type} {ν : Type} [Monad m] (sink : Sink m ν) (mode : InputMode)
    (target : ν) : List (Except Error Node) → m (Except Error ν)
  | [] => return .ok target
  | .error e :: _ => return .error e
  | .ok n :: rest => do
    let child ← n.deliver sink mode
    deliverAll sink mode (← sink.append target child) rest

/-- The outputs delivered to a sink, in a container that is normalised. -/
def translateInto {m : Type → Type} {ν : Type} [Monad m] (t : Translator σ Node)
    (source : String) (context : σ) (sink : Sink m ν) (mode : InputMode) :
    Logged (m (Except Error ν)) :=
  .after [Logged.debug ("Translating " ++ toString (sourceLength source)
      ++ " bytes to a tree, input mode " ++ mode.name)]
    ((t.outputs source context).map fun outputs => do
      let container ← sink.container
      match ← deliverAll sink mode container outputs with
      | .error e => return .error e
      | .ok node => return .ok (← sink.normalize node))

/-- The outputs as one tree. -/
def translateTree (t : Translator σ Node) (source : String) (context : σ) (mode : InputMode) :
    Logged (Except Error Node) :=
  (t.translateInto source context Sink.tree mode).map Id.run

/-- Replaces the content of a host by the outputs for it. The messages come with
    the outcome, since the source is known only to the host. -/
def highlightHost {m : Type → Type} {ν : Type} [Monad m] (t : Translator σ Node) (context : σ)
    (host : Host m ν) (mode : InputMode) : m (Logged (Except Error Unit)) := do
  let source ← match mode with
    | .text => host.textContent
    | .markup => host.innerMarkup
  let sink ← host.sink
  let delivery := t.translateInto source context sink mode
  match ← delivery.value with
  | .error e => return ⟨.error e, delivery.log⟩
  | .ok content =>
    host.replaceChildren content
    return ⟨.ok (), delivery.log ++ [Logged.trace "Replacing the children of the host"]⟩

/-- Replaces the content of an element by the outputs for it. -/
def highlight (t : Translator σ Node) (context : σ) (e : Element) (mode : InputMode) :
    Logged (Except Error Unit) × Element :=
  (t.highlightHost context Host.element mode).run e

end Translator

end Highlighter
