/-!
# Sets of code points

A set is a list of ranges of code points, both ends included, in increasing
order. Sets built by `union` keep their ranges apart: ranges that overlap or
follow each other without a gap become one. Such sets are equal as lists of
ranges exactly when they have the same members, so equality is decided on the
lists.

No character has a code point between U+D7FF and U+E000, so each of these two
is the neighbour of the other. As code points they are not, and two ranges that
meet there stay two. `compl` writes down the gaps between ranges from the point
behind the one to the point before the other. Where two ranges meet across the
hole the gap comes out backwards, and its ends, the two points where the ranges
meet, are members of the complement as well.

## Main definitions

* `CharSet`: a set of code points.
* `CharSet.contains`: membership of a character.
* `CharSet.union`, `CharSet.inter`, `CharSet.diff`, `CharSet.symmDiff`,
  `CharSet.compl`: the operations on sets.
-/

namespace Highlighter

/-- A set of code points. -/
structure CharSet where
  /-- The set of some increasing ranges, both ends included. -/
  ofRanges ::
  /-- The ranges of the set. -/
  ranges : List (Nat × Nat)
deriving DecidableEq

namespace CharSet

/-- Membership of a code point. -/
def containsPoint (s : CharSet) (n : Nat) : Bool :=
  s.ranges.any fun r => r.1 ≤ n && n ≤ r.2

/-- Membership of a character. -/
def contains (s : CharSet) (c : Char) : Bool :=
  s.containsPoint c.toNat

/-- The last code point. -/
def lastPoint : Nat := 0x10FFFF

/-- The set without members. -/
def empty : CharSet := ⟨[]⟩

/-- The set of all code points. -/
def all : CharSet := ⟨[(0, lastPoint)]⟩

/-- The points from `lo` to `hi`, both included. -/
def range (lo hi : Nat) : CharSet :=
  if lo ≤ hi then ⟨[(lo, hi)]⟩ else empty

/-- The characters from `lo` to `hi`, both included. -/
def charRange (lo hi : Char) : CharSet :=
  range lo.toNat hi.toNat

/-- The set with one member. -/
def single (c : Char) : CharSet :=
  charRange c c

/-! ## Union -/

/-- Puts the range `x` among increasing ranges; `next` goes on with those
    behind it. -/
def mergeOne (x : Nat × Nat) (next : List (Nat × Nat) → List (Nat × Nat)) :
    List (Nat × Nat) → List (Nat × Nat)
  | [] => x :: next []
  | y :: ys => if y.1 < x.1 then y :: mergeOne x next ys else x :: next (y :: ys)

/-- The ranges of two increasing lists in one increasing list. -/
def merge : List (Nat × Nat) → List (Nat × Nat) → List (Nat × Nat)
  | [], ys => ys
  | x :: xs, ys => mergeOne x (merge xs) ys

/-- Joins the range `x` and those behind it wherever there is no gap. -/
def joinFrom (x : Nat × Nat) : List (Nat × Nat) → List (Nat × Nat)
  | [] => [x]
  | y :: ys =>
    if y.1 ≤ x.2 + 1 then joinFrom (x.1, Nat.max x.2 y.2) ys else x :: joinFrom y ys

/-- Joins increasing ranges wherever there is no gap. -/
def join : List (Nat × Nat) → List (Nat × Nat)
  | [] => []
  | x :: xs => joinFrom x xs

/-- The points in either set. Adding nothing leaves the ranges of a set as they
    are. -/
def union (s t : CharSet) : CharSet :=
  if t.ranges = [] ∨ s = t then s else ⟨join (merge s.ranges t.ranges)⟩

/-- The union of a list of sets. -/
def unions (sets : List CharSet) : CharSet :=
  sets.foldl union empty

/-! ## Complement -/

/-- The point behind a point. -/
def nextPoint (n : Nat) : Nat := if n = 0xD7FF then 0xE000 else n + 1

/-- The point before a point. -/
def prevPoint (n : Nat) : Nat := if n = 0xE000 then 0xD7FF else n - 1

/-- The gaps behind the point `last`, up to the point `stop`, that some ranges
    leave. -/
def gapsFrom (stop last : Nat) : List (Nat × Nat) → List (Nat × Nat)
  | [] => if last < stop then [(nextPoint last, stop)] else []
  | r :: rs =>
    let lo := nextPoint last
    let hi := prevPoint r.1
    (Nat.min lo hi, Nat.max lo hi) :: gapsFrom stop r.2 rs

/-- The points up to `stop` outside the set. -/
def complUpTo (stop : Nat) (s : CharSet) : CharSet :=
  match s.ranges with
  | [] => ⟨[(0, stop)]⟩
  | r :: rs =>
    let gaps := gapsFrom stop r.2 rs
    ⟨if r.1 = 0 then gaps else (0, prevPoint r.1) :: gaps⟩

/-- The points outside the set. -/
def compl (s : CharSet) : CharSet := s.complUpTo lastPoint

/-! ## Intersection and differences -/

/-- The points in two ranges. -/
def overlap? (r s : Nat × Nat) : Option (Nat × Nat) :=
  let lo := Nat.max r.1 s.1
  let hi := Nat.min r.2 s.2
  if lo ≤ hi then some (lo, hi) else none

/-- The points in both sets. -/
def inter (s t : CharSet) : CharSet :=
  ⟨s.ranges.flatMap fun r => t.ranges.filterMap (overlap? r)⟩

/-- What is left of the range from `lo` to `hi` outside some increasing
    ranges. -/
def cut (lo hi : Nat) : List (Nat × Nat) → List (Nat × Nat)
  | [] => [(lo, hi)]
  | r :: rs =>
    if r.2 < lo then cut lo hi rs
    else if hi < r.1 then [(lo, hi)]
    else
      let right := if r.2 < hi then cut (nextPoint r.2) hi rs else []
      if lo < r.1 then (lo, prevPoint r.1) :: right else right

/-- The points in the first set and not in the second. -/
def diff (s t : CharSet) : CharSet :=
  ⟨s.ranges.flatMap fun r => cut r.1 r.2 t.ranges⟩

/-- The points in exactly one of the sets. -/
def symmDiff (s t : CharSet) : CharSet :=
  (s.union t).diff (s.inter t)

/-! ## Looking at a set -/

/-- Whether the set has no members. -/
def isEmpty (s : CharSet) : Bool := s.ranges.isEmpty

/-- The only member, if there is exactly one. -/
def single? (s : CharSet) : Option Char :=
  match s.ranges with
  | [(lo, hi)] => if lo = hi then some (Char.ofNat lo) else none
  | _ => none

/-- The smallest member. -/
def least? (s : CharSet) : Option Nat := s.ranges.head?.map (·.1)

/-- The largest member. -/
def greatest? (s : CharSet) : Option Nat := s.ranges.getLast?.map (·.2)

/-- Whether all members lie below `bound`. -/
def isBelow (s : CharSet) (bound : Nat) : Bool :=
  match s.greatest? with
  | some n => n < bound
  | none => true

end CharSet

end Highlighter
