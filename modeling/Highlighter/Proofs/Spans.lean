import Highlighter.Proofs.Scan.Stream
import Mathlib.Data.String.Basic

/-!
# Valid spans are pieces

A span is valid in a source just if the source can be cut at its two ends.

The offsets of a span count bytes, and nothing in a span knows of characters. Whether
a span is valid is found out by walking over the characters of the source, so the
test is tied to the way texts are walked. `isValidIn_iff_append` says it without any
walk: there are three texts that make up the source, the first is as long in bytes
as the start of the span says, and the first two are as long as its end says. The
lengths are those of the encoded texts, so this is what a reader of the bytes of
the source would take for a piece of it.

The middle one of the three is then the text of the token for the span, and since a
token knows its place only by its position and its text, the span can be read off the
token again. A sum of offsets wraps around, so for this the source has to be as
short as its own length being an offset makes it.

## Theorems

* `byteLength_toList`: The length of a text is that of its encoding.
* `cutAt_of_append`, `append_of_cutAt`: Three texts that make up a source, and the
  cut that they make.
* `Scanner.span_tokenAt`: The token of a valid span has the span for its place.
* `isValidIn_iff_append`: The valid spans and their tokens.
-/

namespace Highlighter

/-- The length of a text in bytes is the number of bytes of its encoding. -/
theorem byteLength_toList (s : String) : byteLength s.toList = s.utf8ByteSize := by
  have hlen : ∀ cs : List Char, byteLength cs = String.utf8Len cs := by
    intro cs
    induction cs with
    | nil => rfl
    | cons c cs ih => rw [byteLength_cons, String.utf8Len_cons, ih, Nat.add_comm]
  rw [hlen, String.utf8Len_toList]

/-- Three texts that make up a source cut it at the two ends of the middle one. -/
theorem cutAt_of_append {source a b c : String} {start stop : Nat} (hsource : source = a ++ b ++ c)
    (hstart : a.utf8ByteSize = start) (hstop : a.utf8ByteSize + b.utf8ByteSize = stop) :
    CutAt source start a.toList (b.toList ++ c.toList) ∧ stop = start + byteLength b.toList := by
  refine ⟨⟨?_, ?_⟩, ?_⟩
  · rw [hsource, String.toList_append, String.toList_append, List.append_assoc]
  · rw [byteLength_toList, hstart]
  · rw [byteLength_toList, ← hstop, ← hstart]

/-- The texts between which the piece of a cut stands. -/
theorem append_of_cutAt {source : String} {start : Nat} {before piece rest : List Char}
    (h : CutAt source start before (piece ++ rest)) :
    source = String.ofList before ++ String.ofList piece ++ String.ofList rest ∧
      (String.ofList before).utf8ByteSize = start ∧
      (String.ofList piece).utf8ByteSize = byteLength piece := by
  refine ⟨?_, ?_, ?_⟩
  · rw [← String.ofList_append, ← String.ofList_append, List.append_assoc, ← h.whole,
      String.ofList_toList]
  · rw [← byteLength_toList, String.toList_ofList, h.length]
  · rw [← byteLength_toList, String.toList_ofList]

/-- The token of a valid span has the span for its place, if the source is not longer
    than an offset can tell. -/
theorem Scanner.span_tokenAt {σ : Type} (s : Scanner σ) {source : String} {span : Span}
    (hvalid : span.isValidIn source = true) (fits : sourceLength source < offsetCount)
    (type : String) : (s.tokenAt source type span).span = span := by
  have hplace := tokenAt_place s source 0 type span
    ((spanError?_eq_none_iff source 0 type span).mpr ⟨Nat.zero_le _, hvalid⟩)
  rw [Token.span, hplace.endPosition_eq fits]
  rfl

/-- A span is valid in a source if and only if the source is made up of three texts,
    of which the first ends where the span starts and the second ends where the span
    ends. The second is then the slice, and it is the text of every token that a scan
    makes of the span; and the token has the span for its place, if the source is not
    longer than an offset can tell. -/
theorem isValidIn_iff_append (source : String) (span : Span) :
    (span.isValidIn source = true ↔ ∃ a b c : String, source = a ++ b ++ c ∧
      a.utf8ByteSize = span.start ∧ a.utf8ByteSize + b.utf8ByteSize = span.stop) ∧
    ∀ a b c : String, source = a ++ b ++ c → a.utf8ByteSize = span.start →
      a.utf8ByteSize + b.utf8ByteSize = span.stop →
      span.slice source = b ∧
      ∀ (σ : Type) (s : Scanner σ) (type : String),
        (s.tokenAt source type span).text = b ∧
        (sourceLength source < offsetCount → (s.tokenAt source type span).span = span) := by
  constructor
  · rw [isValidIn_iff]
    constructor
    · rintro ⟨before, piece, rest, hcut, hstop⟩
      rcases append_of_cutAt hcut with ⟨hsource, hstart, hpiece⟩
      exact ⟨_, _, _, hsource, hstart, by rw [hstart, hpiece, hstop]⟩
    · rintro ⟨a, b, c, hsource, hstart, hstop⟩
      exact ⟨a.toList, b.toList, c.toList, cutAt_of_append hsource hstart hstop⟩
  · intro a b c hsource hstart hstop
    rcases cutAt_of_append hsource hstart hstop with ⟨hcut, hend⟩
    have hvalid := (isValidIn_iff source span).mpr ⟨_, _, _, hcut, hend⟩
    have hslice : span.slice source = b := by
      rw [slice_of_append source span _ _ _ hcut hend, String.ofList_toList]
    exact ⟨hslice, fun σ s type => ⟨hslice, fun fits => s.span_tokenAt hvalid fits type⟩⟩

/-- A piece that is longer in bytes than in characters. -/
theorem isValidIn_iff_append_umlaut :
    "aäb" = "a" ++ "ä" ++ "b" ∧ "a".utf8ByteSize = 1 ∧ "a".utf8ByteSize + "ä".utf8ByteSize = 3 ∧
    sourceLength "aäb" < offsetCount ∧ (⟨1, 3⟩ : Span).slice "aäb" = "ä" ∧
    ∀ (σ : Type) (s : Scanner σ) (type : String),
      (s.tokenAt "aäb" type ⟨1, 3⟩).text = "ä" ∧ (s.tokenAt "aäb" type ⟨1, 3⟩).span = ⟨1, 3⟩ := by
  have hwhole : "aäb" = "a" ++ "ä" ++ "b" := by decide
  have hstart : "a".utf8ByteSize = 1 := by decide
  have hstop : "a".utf8ByteSize + "ä".utf8ByteSize = 3 := by decide
  have fits : sourceLength "aäb" < offsetCount := by decide
  have hpiece := (isValidIn_iff_append "aäb" ⟨1, 3⟩).2 "a" "ä" "b" hwhole hstart hstop
  exact ⟨hwhole, hstart, hstop, fits, hpiece.1, fun σ s type =>
    ⟨(hpiece.2 σ s type).1, (hpiece.2 σ s type).2 fits⟩⟩

end Highlighter
