import Highlighter.Unicode.CharSet

/-!
# Code points as byte ranges

A machine that reads a text byte by byte knows a set of characters by their
UTF-8 forms. The forms of the points of a range are not a product of byte
ranges in general: U+00FF and U+0100 differ in both of their bytes. But every
range of points can be divided into few ranges whose forms are such products,
one byte range for every byte, and `byteRanges` does that.

A range is divided where the number of bytes changes, around the surrogates,
and wherever the bytes behind the first one that differs do not take all their
values.

## Main definitions

* `utf8Bytes`: the UTF-8 form of a code point.
* `byteRanges`: the byte ranges of a range of code points.
* `CharSet.byteRanges`: the byte ranges of a set.
-/

namespace Highlighter

/-- The bytes of a code point's UTF-8 form. -/
def utf8Bytes (n : Nat) : List Nat :=
  if n < 0x80 then [n]
  else if n < 0x800 then [0xC0 + n / 64, 0x80 + n % 64]
  else if n < 0x10000 then [0xE0 + n / 4096, 0x80 + n / 64 % 64, 0x80 + n % 64]
  else [0xF0 + n / 262144, 0x80 + n / 4096 % 64, 0x80 + n / 64 % 64, 0x80 + n % 64]

/-- Where to divide a range of points so that the bytes behind the first one
    that differs take all their values: the first point of the second half.
    `block` is the number of values that the last bytes take together. -/
def blockCut? (lo hi block : Nat) : Option Nat :=
  if lo / block = hi / block then none
  else if lo % block ≠ 0 then some (lo - lo % block + block)
  else if hi % block ≠ block - 1 then some (hi - hi % block)
  else none

/-- Where to divide a range of points, if anywhere: the first point of the
    second half. -/
def pointCut? (lo hi : Nat) : Option Nat :=
  if lo < 0x80 ∧ 0x80 ≤ hi then some 0x80
  else if lo < 0x800 ∧ 0x800 ≤ hi then some 0x800
  else if lo < 0x10000 ∧ 0x10000 ≤ hi then some 0x10000
  else if hi < 0x80 then none
  else (blockCut? lo hi 64).or ((blockCut? lo hi 4096).or (blockCut? lo hi 262144))

/-- The sequences of byte ranges whose products are the UTF-8 forms of the
    points from `lo` to `hi`, in increasing order. A range is divided at most
    ten times one inside the other. -/
def byteRanges (lo hi : Nat) : List (List (Nat × Nat)) :=
  divide 16 lo hi
where
  /-- Divides a range as often as needed. -/
  divide : (fuel : Nat) → Nat → Nat → List (List (Nat × Nat))
    | 0, _, _ => []
    | n + 1, lo, hi =>
      if lo < 0xE000 ∧ 0xD7FF < hi then divide n lo 0xD7FF ++ divide n 0xE000 hi
      else match pointCut? lo hi with
        | some cut => divide n lo (cut - 1) ++ divide n cut hi
        | none => [(utf8Bytes lo).zip (utf8Bytes hi)]

/-- The sequences of byte ranges of a set, in increasing order. -/
def CharSet.byteRanges (s : CharSet) : List (List (Nat × Nat)) :=
  s.ranges.flatMap fun r => Highlighter.byteRanges r.1 r.2

end Highlighter
