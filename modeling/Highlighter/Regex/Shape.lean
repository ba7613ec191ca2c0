import Highlighter.Regex.Look

/-!
# Shapes of patterns

A shape is what a pattern means once its notation, flags and names are gone:
characters, sets, assertions, groups, repetitions, sequences and choices.

A set is a set of characters or a set of bytes, depending on the flags it was
written under. Both match characters here, since a set of bytes holds ASCII
characters only, but a set of the one kind is never the same shape as a set of
the other.

Shapes are built by the functions of this module and not by the constructors.
They keep a normal form: neighbouring literals of a sequence are one literal,
sequences and choices are never directly nested, a choice between single
characters is a set, and what all branches of a choice begin with is moved in
front of it. Moving a common beginning is more than a simplification. A choice
prefers its earlier branches only among the ways its beginning can be matched
first, so after the move the beginning's own preferences decide before the
order of the branches does: on `aab`, the pattern `[ab]*a|[ab]*b` takes three
characters and not two.

## Main definitions

* `Shape`: the meaning of a pattern.
* `Shape.sequence`, `Shape.choice`, `Shape.repeated`, `Shape.ofSet`: building
  shapes.
* `Shape.minLength?`, `Shape.maxLength?`: bounds on the bytes a shape matches.
* `Shape.groupCount`: the number of groups, the whole match included.

## Theorems

* `Shape.same_iff`: Comparing shapes part by part decides their equality.
-/

namespace Highlighter

/-- The meaning of a pattern. -/
inductive Shape where
  /-- Matches the empty text. -/
  | empty
  /-- Matches the given characters, of which there is at least one. -/
  | literal (cs : List Char)
  /-- Matches one character of a set. -/
  | set (s : CharSet)
  /-- Matches one byte of a set. -/
  | bytes (s : CharSet)
  /-- Matches the empty text where an assertion holds. -/
  | look (l : Look)
  /-- Matches the body at least `min` and at most `max` times, as often as
      possible if `greedy` and as seldom as possible if not. -/
  | repetition (min : Nat) (max : Option Nat) (greedy : Bool) (body : Shape)
  /-- Matches the body and remembers where. -/
  | group (index : Nat) (body : Shape)
  /-- Matches the parts one after the other. -/
  | seq (parts : List Shape)
  /-- Matches one of the branches, the earlier ones preferred. -/
  | alt (branches : List Shape)

namespace Shape

/-- The shape that matches nothing. -/
def fail : Shape := .bytes .empty

mutual

/-- Whether two shapes are the same. -/
def same : Shape → Shape → Bool
  | empty, empty => true
  | literal cs, literal ds => cs == ds
  | set s, set t => s == t
  | bytes s, bytes t => s == t
  | look l, look m => l == m
  | repetition min max greedy body, repetition min' max' greedy' body' =>
    min == min' && max == max' && greedy == greedy' && same body body'
  | group index body, group index' body' => index == index' && same body body'
  | seq ps, seq qs => sameList ps qs
  | alt ps, alt qs => sameList ps qs
  | _, _ => false

/-- Whether two lists hold the same shapes. -/
def sameList : List Shape → List Shape → Bool
  | [], [] => true
  | p :: ps, q :: qs => same p q && sameList ps qs
  | _, _ => false

end

mutual

/-- Shapes that are the same are equal. -/
theorem eq_of_same : ∀ {s t : Shape}, s.same t = true → s = t
  | empty, t, h => by cases t <;> simp_all [same]
  | literal _, t, h => by cases t <;> simp_all [same]
  | set _, t, h => by cases t <;> simp_all [same]
  | bytes _, t, h => by cases t <;> simp_all [same]
  | look _, t, h => by cases t <;> simp_all [same]
  | repetition _ _ _ body, t, h => by
    cases t <;> simp only [same, Bool.and_eq_true, beq_iff_eq, Bool.false_eq_true] at h
    obtain ⟨⟨⟨rfl, rfl⟩, rfl⟩, hb⟩ := h
    rw [eq_of_same hb]
  | group _ body, t, h => by
    cases t <;> simp only [same, Bool.and_eq_true, beq_iff_eq, Bool.false_eq_true] at h
    obtain ⟨rfl, hb⟩ := h
    rw [eq_of_same hb]
  | seq ps, t, h => by
    cases t <;> simp only [same, Bool.false_eq_true] at h
    rw [eq_of_sameList h]
  | alt ps, t, h => by
    cases t <;> simp only [same, Bool.false_eq_true] at h
    rw [eq_of_sameList h]

/-- Lists of the same shapes are equal. -/
theorem eq_of_sameList : ∀ {ss ts : List Shape}, sameList ss ts = true → ss = ts
  | [], ts, h => by cases ts <;> simp_all [sameList]
  | s :: ss, ts, h => by
    cases ts <;> simp only [sameList, Bool.and_eq_true, Bool.false_eq_true] at h
    rw [eq_of_same h.1, eq_of_sameList h.2]

end

mutual

/-- A shape is the same as itself. -/
theorem same_self : ∀ s : Shape, s.same s = true
  | empty => rfl
  | literal _ => by simp [same]
  | set _ => by simp [same]
  | bytes _ => by simp [same]
  | look _ => by simp [same]
  | repetition _ _ _ body => by simp [same, same_self body]
  | group _ body => by simp [same, same_self body]
  | seq ps => by simp [same, sameList_self ps]
  | alt ps => by simp [same, sameList_self ps]

/-- A list holds the same shapes as itself. -/
theorem sameList_self : ∀ ss : List Shape, sameList ss ss = true
  | [] => rfl
  | s :: ss => by simp [sameList, same_self s, sameList_self ss]

end

/-- Being the same is equality. -/
theorem same_iff {s t : Shape} : s.same t = true ↔ s = t :=
  ⟨eq_of_same, fun h => h ▸ same_self s⟩

instance : DecidableEq Shape := fun _ _ => decidable_of_iff _ same_iff

/-- The length in bytes of a code point's UTF-8 form. -/
def pointSize (n : Nat) : Nat :=
  if n < 0x80 then 1 else if n < 0x800 then 2 else if n < 0x10000 then 3 else 4

mutual

/-- The smallest number of bytes a match has; none if there is no match at
    all. -/
def minLength? : Shape → Option Nat
  | empty => some 0
  | literal cs => some (byteLength cs)
  | set s => s.least?.map pointSize
  | bytes s => s.least?.map fun _ => 1
  | look _ => some 0
  | repetition min _ _ body => body.minLength?.map (· * min)
  | group _ body => body.minLength?
  | seq parts => minLengthSum? parts
  | alt branches => minLengthLeast? branches

/-- The smallest numbers of bytes of all parts together. -/
def minLengthSum? : List Shape → Option Nat
  | [] => some 0
  | p :: ps => do return (← p.minLength?) + (← minLengthSum? ps)

/-- The least of the smallest numbers of bytes, none if it is unknown for some
    branch. -/
def minLengthLeast? : List Shape → Option Nat
  | [] => none
  | [b] => b.minLength?
  | b :: bs => do return Nat.min (← b.minLength?) (← minLengthLeast? bs)

end

/-- Whether a shape cannot match the empty text. -/
def isProper (s : Shape) : Bool :=
  match s.minLength? with
  | some n => 0 < n
  | none => false

mutual

/-- The largest number of bytes a match has; none if there is no bound. -/
def maxLength? : Shape → Option Nat
  | empty => some 0
  | literal cs => some (byteLength cs)
  | set s => s.greatest?.map pointSize
  | bytes s => s.greatest?.map fun _ => 1
  | look _ => some 0
  | repetition _ max _ body => do return (← body.maxLength?) * (← max)
  | group _ body => body.maxLength?
  | seq parts => maxLengthSum? parts
  | alt branches => maxLengthGreatest? branches

/-- The largest numbers of bytes of all parts together. -/
def maxLengthSum? : List Shape → Option Nat
  | [] => some 0
  | p :: ps => do return (← p.maxLength?) + (← maxLengthSum? ps)

/-- The greatest of the largest numbers of bytes. -/
def maxLengthGreatest? : List Shape → Option Nat
  | [] => none
  | [b] => b.maxLength?
  | b :: bs => do return Nat.max (← b.maxLength?) (← maxLengthGreatest? bs)

end

mutual

/-- The largest index of a group, zero if there is none. -/
def lastGroup : Shape → Nat
  | repetition _ _ _ body => body.lastGroup
  | group index body => Nat.max index body.lastGroup
  | seq parts => lastGroupOf parts
  | alt branches => lastGroupOf branches
  | _ => 0

/-- The largest index of a group in any of the shapes. -/
def lastGroupOf : List Shape → Nat
  | [] => 0
  | s :: ss => Nat.max s.lastGroup (lastGroupOf ss)

end

/-- The number of groups, the whole match being group zero. -/
def groupCount (s : Shape) : Nat := s.lastGroup + 1

/-- One member of a set of characters, or else of bytes. A set of one member is
    that character, and an empty set matches nothing whatever its kind. -/
def ofSet (chars : Bool) (s : CharSet) : Shape :=
  match s.single? with
  | some c => literal [c]
  | none => if s.isEmpty then fail else if chars then set s else bytes s

/-- The parts of a shape as a part of a sequence. -/
def parts : Shape → List Shape
  | empty => []
  | seq ps => ps
  | s => [s]

/-- Puts a part in front of a sequence, joining two literals. -/
def consPart : Shape → List Shape → List Shape
  | literal cs, literal ds :: ps => literal (cs ++ ds) :: ps
  | p, ps => p :: ps

/-- The sequence of some shapes. -/
def sequence (ss : List Shape) : Shape :=
  match (ss.flatMap parts).foldr consPart [] with
  | [] => empty
  | [s] => s
  | ps => seq ps

/-- The branches of a shape as a branch of a choice. -/
def branches : Shape → List Shape
  | alt bs => bs
  | s => [s]

/-- The characters of the shapes if each is a single character. -/
def asChars? : List Shape → Option (List Char)
  | [] => some []
  | literal [c] :: ss => (asChars? ss).map (c :: ·)
  | _ => none

/-- The sets of the shapes if each is a set. -/
def asSets? : List Shape → Option (List CharSet)
  | [] => some []
  | set s :: ss => (asSets? ss).map (s :: ·)
  | bytes s :: ss => (asSets? ss).map (s :: ·)
  | _ => none

/-- The parts that two sequences begin with. -/
def commonParts : List Shape → List Shape → List Shape
  | p :: ps, q :: qs => if p = q then p :: commonParts ps qs else []
  | _, _ => []

/-- The parts that all branches begin with, if all branches are sequences. -/
def commonStart : List Shape → Option (List Shape)
  | [] => none
  | [seq ps] => some ps
  | seq ps :: bs => (commonStart bs).map (commonParts ps)
  | _ => none

/-- What is left of a branch without its first `n` parts. -/
def withoutStart (n : Nat) : Shape → Shape
  | seq ps => sequence (ps.drop n)
  | s => s

/-- The choice between branches that are not choices and begin differently. -/
def choiceOf (bs : List Shape) : Shape :=
  match bs with
  | [] => fail
  | [b] => b
  | bs =>
    match asChars? bs with
    | some cs => ofSet true (.unions (cs.map .single))
    | none =>
      match asSets? bs with
      | some sets => ofSet true (.unions sets)
      | none => alt bs

/-- The choice between some shapes. What all of them begin with is matched
    first. -/
def choice (ss : List Shape) : Shape :=
  let bs := ss.flatMap branches
  match bs with
  | _ :: _ :: _ =>
    match commonStart bs with
    | some (p :: ps) =>
      let start := p :: ps
      sequence (start ++ [choiceOf ((bs.map (withoutStart start.length)).flatMap branches)])
    | _ => choiceOf bs
  | bs => choiceOf bs

/-- A repetition. Repeating what matches the empty text only is the same as
    matching it at most once. -/
def repeated (min : Nat) (max : Option Nat) (greedy : Bool) (body : Shape) : Shape :=
  let emptyOnly := body.maxLength? == some 0
  let min := if emptyOnly then Nat.min min 1 else min
  let max := if emptyOnly then some (Nat.min (max.getD 1) 1) else max
  if min = 0 ∧ max = some 0 then empty
  else if min = 1 ∧ max = some 1 then body
  else repetition min max greedy body

end Shape

end Highlighter
