import Highlighter.Builder
import Highlighter.Proofs.Json.Records

/-!
# Reading back what was written

Spans, tokens and pattern specifications survive being written and read.

Each of the three is a record with a schema of its own, so what is left to say is
that the schema has no name twice, that its fields admit the values, and that the
record is made of its values again. Offsets and groups are admitted because they are
words of sixty-four bits, which are the integers that are kept exactly. A group that
is not given is an absent value. It is not written, and so it is told from group
zero, which is.

A list of specifications is a list of records, and nothing else is needed to fill a
builder from JSON.

## Theorems

* `Json.le_maxNat`: Words of sixty-four bits are kept exactly.
* `Json.reads_readAs`: A record is made of the values that are read.
* `Span.reads_toJson`, `Token.reads_toJson`, `PatternSpec.reads_toJson`: What is
  written is read.
* `PatternSpec.reads_listToJson`: So is a list.
* `json_round_trip`: Decoding gives back what was written, as it was.
* `json_round_trip_extreme`: Quotes, control codes and the largest offset.
-/

namespace Highlighter

namespace Json

/-- Words of sixty-four bits are kept exactly. -/
theorem le_maxNat {n : Nat} (h : n < offsetCount) : n ≤ maxNat := Nat.le_sub_one_of_lt h

/-- A record is made of the values that are read. -/
theorem reads_readAs {α : Type} {schema : Schema} {make : List Value → Except DecodeError α}
    {text : List Char} {values : List Value} {x : α} (h : Reads schema.read text values)
    (hmake : make values = .ok x) : Reads (readAs schema make) text x := by
  intro rest hrest
  rw [readAs, h rest hrest]
  simp only [bind, Except.bind, hmake]
  rfl

end Json

open Json

theorem Span.reads_toJson {s : Span} (hstart : s.start < offsetCount)
    (hstop : s.stop < offsetCount) : Reads (readAs spanSchema spanOfValues) s.toJson.toList s :=
  reads_readAs (Schema.reads_write (by decide)
    (.cons (.nat (le_maxNat hstart)) (.cons (.nat (le_maxNat hstop)) .nil))) rfl

theorem Token.reads_toJson {t : Token} (h : t.position < offsetCount) :
    Reads (readAs tokenSchema tokenOfValues) t.toJson.toList t :=
  reads_readAs (Schema.reads_write (by decide)
    (.cons (.string t.type) (.cons (.string t.text) (.cons (.nat (le_maxNat h)) .nil)))) rfl

namespace PatternSpec

theorem reads_toJson {p : PatternSpec} (h : ∀ g ∈ p.group, g < offsetCount) :
    Reads (readAs patternSchema patternOfValues) p.toJson.toList p := by
  rcases p with ⟨type, pattern, _ | group⟩
  · exact reads_readAs (Schema.reads_write (by decide)
      (.cons (.string type) (.cons (.string pattern) (.cons .absent .nil)))) rfl
  · exact reads_readAs (Schema.reads_write (by decide)
      (.cons (.string type) (.cons (.string pattern)
        (.cons (.present (le_maxNat (h group rfl))) .nil)))) rfl

theorem reads_listToJson {ps : List PatternSpec} (h : ∀ p ∈ ps, ∀ g ∈ p.group, g < offsetCount) :
    Reads (readList (readAs patternSchema patternOfValues)) (listToJson ps).toList ps := by
  rw [listToJson, String.toList_ofList]
  refine reads_writeList (List.forall₂_map_right_iff.mpr (List.forall₂_same.mpr fun p hp => ?_))
  refine ⟨reads_toJson (h p hp), ?_⟩
  -- A record begins with a brace, so no item is taken for the end of the list.
  rw [toJson, Schema.toList_write]
  exact ⟨'\x7b', _, rfl, by decide, by decide⟩

end PatternSpec

namespace PatternSpec

theorem toJson_absent_ne_zero (type pattern : String) :
    (mk type pattern none).toJson ≠ (mk type pattern (some 0)).toJson := by
  -- One text would be decoded to both.
  intro heq
  have habsent := decode_of_reads (reads_toJson (p := mk type pattern none) nofun)
  have hzero := decode_of_reads (reads_toJson (p := mk type pattern (some 0)) fun g hg => by
    rw [← Option.some.inj hg]
    decide)
  rw [heq, hzero] at habsent
  cases habsent

/-- The values of the fields. -/
def values (p : PatternSpec) : List Value :=
  [.string p.type, .string p.pattern, p.group.elim .absent .nat]

theorem recordForm_toJson (p : PatternSpec) : RecordForm patternSchema p.values p.toJson := by
  rcases p with ⟨type, pattern, _ | group⟩ <;> exact Schema.recordForm_write patternSchema _

example : toJson ⟨"kw", "\\w+ \"(if)\"", some 1⟩
    = "\x7b\"token_type\":\"kw\",\"pattern\":\"\\\\w+ \\\"(if)\\\"\",\"group\":1\x7d" :=
  rfl

end PatternSpec

/-- Decoding gives back what was written, as it was: spans and tokens with words for
    offsets, specifications with or without a group, and lists of them, which fill a
    builder as the specifications themselves do. The texts are those of records whose
    strings and integers have the usual forms. -/
theorem json_round_trip :
    (∀ s : Span, s.start < offsetCount → s.stop < offsetCount → Span.ofJson s.toJson = .ok s) ∧
    (∀ t : Token, t.position < offsetCount → Token.ofJson t.toJson = .ok t) ∧
    (∀ p : PatternSpec, (∀ g ∈ p.group, g < offsetCount) → PatternSpec.ofJson p.toJson = .ok p) ∧
    (∀ ps : List PatternSpec, (∀ p ∈ ps, ∀ g ∈ p.group, g < offsetCount) →
      PatternSpec.listOfJson (PatternSpec.listToJson ps) = .ok ps ∧
      ∀ b : ScannerBuilder, b.addJson (PatternSpec.listToJson ps) = .ok (b.addPatterns ps)) ∧
    (∀ type pattern, (PatternSpec.mk type pattern none).toJson
      ≠ (PatternSpec.mk type pattern (some 0)).toJson) ∧
    (∀ s : Span, RecordForm spanSchema [.nat s.start, .nat s.stop] s.toJson) ∧
    (∀ t : Token, RecordForm tokenSchema
      [.string t.type, .string t.text, .nat t.position] t.toJson) ∧
    ∀ p : PatternSpec, RecordForm patternSchema p.values p.toJson := by
  refine ⟨fun s hstart hstop => decode_of_reads (s.reads_toJson hstart hstop),
    fun t h => decode_of_reads (t.reads_toJson h), fun p h => decode_of_reads (p.reads_toJson h),
    fun ps h => ?_, PatternSpec.toJson_absent_ne_zero,
    fun s => Schema.recordForm_write spanSchema _, fun t => Schema.recordForm_write tokenSchema _,
    PatternSpec.recordForm_toJson⟩
  have hlist : PatternSpec.listOfJson (PatternSpec.listToJson ps) = .ok ps :=
    decode_of_reads (PatternSpec.reads_listToJson h)
  refine ⟨hlist, fun b => ?_⟩
  rw [ScannerBuilder.addJson, hlist]

/-- A specification with quotes, a backslash and control codes, and one with the
    largest group. -/
def extremes : List PatternSpec :=
  [⟨"\"\\", "\n\x00\x1f/é", some 0⟩, ⟨"\\\"", "", none⟩, ⟨"", "\x7f", some 18446744073709551615⟩]

/-- The largest offset and hostile texts are read back. -/
theorem json_round_trip_extreme :
    0 < offsetCount ∧ 18446744073709551615 < offsetCount ∧
      (∀ p ∈ extremes, ∀ g ∈ p.group, g < offsetCount) ∧
      Span.ofJson (Span.toJson ⟨18446744073709551615, 0⟩) = .ok ⟨18446744073709551615, 0⟩ ∧
      Token.ofJson (Token.toJson ⟨"\"", "\t\x08\\u", 18446744073709551615⟩)
        = .ok ⟨"\"", "\t\x08\\u", 18446744073709551615⟩ ∧
      PatternSpec.ofJson (PatternSpec.toJson ⟨"\"\\", "\n\x00\x1f/é", some 0⟩)
        = .ok ⟨"\"\\", "\n\x00\x1f/é", some 0⟩ ∧
      ScannerBuilder.empty.addJson (PatternSpec.listToJson extremes)
        = .ok (ScannerBuilder.empty.addPatterns extremes) := by
  have hlargest : 18446744073709551615 < offsetCount := by decide
  have hextremes : ∀ p ∈ extremes, ∀ g ∈ p.group, g < offsetCount := by decide
  rcases json_round_trip with ⟨hspan, htoken, hpattern, hlist, _⟩
  refine ⟨by decide, hlargest, hextremes, hspan _ hlargest (by decide), htoken _ hlargest, ?_,
    (hlist _ hextremes).2 _⟩
  exact hpattern _ (hextremes _ List.mem_cons_self)

end Highlighter
