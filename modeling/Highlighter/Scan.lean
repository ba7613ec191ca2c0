import Highlighter.Scanner

/-!
# Scans

A scan is a machine that gives one item at each pull: first the start token,
then the tokens of the source, and at last the end token. An error ends a scan
early.

At each place the patterns are asked in the order of their priority and the
first one that matches gives the token. If none matches, the next character is
given as unmatched. An empty match that leaves the scan where it was is given
too, but the character there then follows as unmatched, without the patterns
being asked again. So a scan always goes on: a source of `n` characters gives
at most `2 * n + 2` items.

## Main definitions

* `Phase`, `ScanState`: where a scan stands.
* `Scanner.firstMatch`: asking the patterns in order.
* `Scanner.pull`: one step of a scan.
* `Scanner.scan`: a whole scan.
-/

namespace Highlighter

/-- The phases of a scan. -/
inductive Phase where
  /-- Nothing has been given yet. -/
  | start
  /-- The patterns are asked next. -/
  | scanning
  /-- An empty match has left the scan where it was; the character there is
      given next. -/
  | recover
  /-- The end token or an error has been given. -/
  | done
deriving DecidableEq

/-- The name of a phase. -/
def Phase.name : Phase → String
  | start => "Start"
  | scanning => "Scanning"
  | recover => "Recover"
  | done => "Done"

/-- Where a scan stands. -/
structure ScanState (σ : Type) where
  /-- The offset behind the last token. -/
  cursor : Nat := 0
  /-- The phase. -/
  phase : Phase := .start
  /-- The context. -/
  context : σ

/-- The state with its field names. -/
def ScanState.inspect {σ : Type} (st : ScanState σ) : String :=
  Text.record "Tokens" [("cursor", toString st.cursor), ("state", st.phase.name)]

/-- What a scan gives: a token, or the error that ends it. -/
abbrev ScanItem := Except Error Token

/-- What the patterns answer together. -/
inductive Hit where
  /-- No pattern matches. -/
  | nothing
  /-- A matcher failed. -/
  | fault (e : Error)
  /-- The first pattern that matches, by its type, and its span. -/
  | found (type : String) (span : Span)

/-- The character at an offset of a source as an unmatched token. -/
def unmatchedAt (source : String) (offset : Nat) : Token :=
  let text := match afterBytes? offset source.toList with
    | some (c :: _) => String.ofList [c]
    | _ => ""
  ⟨TokenType.unmatched, text, offset⟩

/-- The error about a span that cannot be the next token, if it cannot: it
    starts before the cursor, or it is no piece of the source. -/
def spanError? (source : String) (cursor : Nat) (type : String) (span : Span) : Option Error :=
  if span.start < cursor then some (.wentBackwards type span.start cursor)
  else if span.isValidIn source then none
  else some (.badSpan type span (sourceLength source))

/-- The phase after a token at a span: an empty one in place leaves the
    character there to be recovered. -/
def phaseAfter (cursor : Nat) (span : Span) : Phase :=
  if span.isEmpty && span.stop == cursor then .recover else .scanning

namespace Scanner

variable {σ : Type}

/-- Asks patterns in order until one matches or fails. -/
def firstMatch (source : String) (offset : Nat) : List (Pattern σ) → σ → Logged (Hit × σ)
  | [], context => ⟨(.nothing, context), []⟩
  | p :: ps, context =>
    let answer := p.matcher.find source offset context
    match answer.result with
    | .error e => ⟨(.fault e, answer.context), answer.log⟩
    | .ok (some span) => ⟨(.found p.type span, answer.context), answer.log⟩
    | .ok none => .after answer.log (firstMatch source offset ps answer.context)

/-- Gives a token: it is reported and shown to the hook, and the scan goes on
    from `cursor`. -/
def give (s : Scanner σ) (token : Token) (cursor : Nat) (phase : Phase) (context : σ) :
    Logged (Option ScanItem × ScanState σ) :=
  { value := (some (.ok token), { cursor, phase, context := s.notify token context })
    log := [Logged.trace token.display] }

/-- Gives the character at the cursor as unmatched. -/
def giveUnmatched (s : Scanner σ) (source : String) (cursor : Nat) (context : σ) :
    Logged (Option ScanItem × ScanState σ) :=
  let token := unmatchedAt source cursor
  s.give token (cursor + byteLength token.text.toList) .scanning context

/-- Ends a scan with an error. -/
def stopWith (e : Error) (cursor : Nat) (context : σ) :
    Logged (Option ScanItem × ScanState σ) :=
  ⟨(some (.error e), { cursor, phase := .done, context }), []⟩

/-- The token of a span that a pattern of some type has found. -/
def tokenAt (s : Scanner σ) (source type : String) (span : Span) : Token :=
  ⟨if span.isEmpty && s.markEmpty then TokenType.empty else type, span.slice source, span.start⟩

/-- Gives the token of a span that a pattern has found, or ends the scan if it
    cannot be one. -/
def giveFound (s : Scanner σ) (source : String) (cursor : Nat) (type : String) (span : Span)
    (context : σ) : Logged (Option ScanItem × ScanState σ) :=
  match spanError? source cursor type span with
  | some e => stopWith e cursor context
  | none => s.give (s.tokenAt source type span) span.stop (phaseAfter cursor span) context

/-- One step of a scan. -/
def pull (s : Scanner σ) (source : String) (st : ScanState σ) :
    Logged (Option ScanItem × ScanState σ) :=
  match st.phase with
  | .start =>
    { value := (some (.ok .start), { st with phase := .scanning })
      log := [Logged.trace ("Start of scan over " ++ toString (sourceLength source)
        ++ " bytes")] }
  | .scanning =>
    if sourceLength source ≤ st.cursor then
      { value := (some (.ok (.stop st.cursor)), { st with phase := .done })
        log := [Logged.trace ("End of scan at " ++ toString st.cursor)] }
    else
      (firstMatch source st.cursor s.patterns st.context).andThen fun (hit, context) =>
        match hit with
        | .nothing => s.giveUnmatched source st.cursor context
        | .fault e => stopWith e st.cursor context
        | .found type span => s.giveFound source st.cursor type span context
  | .recover => s.giveUnmatched source st.cursor st.context
  | .done => ⟨(none, st), []⟩

/-- The items of at most `n` pulls, up to the end of the scan. -/
def pulls (s : Scanner σ) (source : String) :
    (n : Nat) → ScanState σ → Logged (List ScanItem × ScanState σ)
  | 0, st => ⟨([], st), []⟩
  | n + 1, st =>
    (s.pull source st).andThen fun (item, st) =>
      match item with
      | none => ⟨([], st), []⟩
      | some item => (pulls s source n st).map fun (items, st) => (item :: items, st)

/-- A number of pulls that is enough for a whole scan of a source. -/
def enoughPulls (source : String) : Nat := 2 * source.length + 3

/-- A whole scan: its items, and the state after it. -/
def scan (s : Scanner σ) (source : String) (context : σ) :
    Logged (List ScanItem × ScanState σ) :=
  s.pulls source (enoughPulls source) { context }

end Scanner

end Highlighter
