import Highlighter.Decimal.Binary64

/-!
# Shortest decimal text

The text of a floating-point number has the fewest digits that still read back
as the same number; of several such texts it has the one nearest to the number.
The numbers that read back as a given one form an interval around it, reaching
half-way to its neighbours, its ends included if its integer is even. So for
one digit, two digits and so on, the two decimal numbers of that length around
the given number are tested, and the first length with a hit wins.

## Main definitions

* `Binary64.shortest`: the digits and the power of ten of the shortest text.
* `FloatFormat`: the choices left open by the digits.
* `FloatFormat.write`: the text of a number.
-/

namespace Highlighter

namespace Binary64

/-- Whether a decimal number `digits * 10 ^ power` reads back as a given
    magnitude. All sides are compared as integers, in quarters of a unit. -/
def readsBack (b : Binary64) (digits : Nat) (power : Int) : Bool :=
  -- the unit of the last place and the four quarters of the magnitude
  let quarter : Nat × Nat := (Binary64.mk 1 (b.exponent - 2)).ratio
  let low := if b.mantissa = Nat.pow 2 52 ∧ -1074 < b.exponent then 4 * b.mantissa - 1
    else 4 * b.mantissa - 2
  let high := 4 * b.mantissa + 2
  let decimal : Nat × Nat :=
    if 0 ≤ power then (digits * Nat.pow 10 power.toNat, 1)
    else (digits, Nat.pow 10 (-power).toNat)
  let value := decimal.1 * quarter.2
  let unit := quarter.1 * decimal.2
  if b.mantissa % 2 = 0 then low * unit ≤ value && value ≤ high * unit
  else low * unit < value && value < high * unit

/-- The power of ten of the first digit of a positive magnitude: one step down
    or up from an estimate by the binary digits. -/
def leadingPower (b : Binary64) : Int :=
  let (n, d) := b.ratio
  let estimate : Int := ((n.log2 : Int) - (d.log2 : Int)) * 30103 / 100000
  let atLeast (p : Int) : Bool :=
    if 0 ≤ p then d * Nat.pow 10 p.toNat ≤ n else d ≤ n * Nat.pow 10 (-p).toNat
  if atLeast (estimate + 1) then estimate + 1
  else if atLeast estimate then estimate
  else estimate - 1

/-- The number of whole units of `10 ^ power` in a magnitude. -/
def unitsOf (b : Binary64) (power : Int) : Nat :=
  let (n, d) := b.ratio
  if 0 ≤ power then n / (d * Nat.pow 10 power.toNat) else n * Nat.pow 10 (-power).toNat / d

/-- Whether a magnitude is nearer to `units + 1` units of `10 ^ power` than to
    `units`, or as near to both and `units` is odd. -/
def isNearerUp (b : Binary64) (units : Nat) (power : Int) : Bool :=
  let (n, d) := b.ratio
  let (n, d) :=
    if 0 ≤ power then (n, d * Nat.pow 10 power.toNat) else (n * Nat.pow 10 (-power).toNat, d)
  let middle := (2 * units + 1) * d
  middle < 2 * n || (middle == 2 * n && units % 2 == 1)

/-- Searches for the shortest digits, trying `count` digits and more. -/
def shortestFrom (b : Binary64) (lead : Int) : (more : Nat) → (count : Nat) → Nat × Int
  | 0, count => (b.unitsOf (lead - count + 1), lead - count + 1)
  | n + 1, count =>
    let power := lead - count + 1
    let units := b.unitsOf power
    match b.readsBack units power, b.readsBack (units + 1) power with
    | true, true => if b.isNearerUp units power then (units + 1, power) else (units, power)
    | true, false => (units, power)
    | false, true => (units + 1, power)
    | false, false => shortestFrom b lead n (count + 1)

/-- The digits and the power of ten of the shortest text of a magnitude. -/
def shortest (b : Binary64) : Nat × Int :=
  if b.mantissa = 0 then (0, 0) else shortestFrom b b.leadingPower 17 1

end Binary64

/-- The choices left open by the digits of a number. -/
structure FloatFormat where
  /-- The least power of the first digit that is written out. -/
  minPower : Int
  /-- The greatest power of the first digit that is written out. -/
  maxPower : Int

namespace FloatFormat

/-- A number without the zeros at its end, and how many there were. -/
def dropZeros : (fuel : Nat) → Nat → Nat × Nat
  | 0, n => (n, 0)
  | k + 1, n =>
    if n % 10 = 0 ∧ n ≠ 0 then
      let (m, zeros) := dropZeros k (n / 10)
      (m, zeros + 1)
    else (n, 0)

/-- An exponent with its sign. -/
def exponentText (power : Int) : List Char :=
  (if 0 ≤ power then '+' else '-') :: Nat.toDigits 10 power.natAbs

/-- The text of a number: written out between the two powers, with a digit on
    either side of the point, and with an exponent beyond them. -/
def write (format : FloatFormat) (negative : Bool) (b : Binary64) : String :=
  let (units, power) := b.shortest
  let (units, zeros) := dropZeros 17 units
  let power := power + zeros
  let digits := Nat.toDigits 10 units
  let lead := power + digits.length - 1
  let body :=
    if lead < format.minPower ∨ format.maxPower < lead then
      let tail := match digits.drop 1 with
        | [] => []
        | more => '.' :: more
      digits.take 1 ++ tail ++ ['e'] ++ exponentText lead
    else if 0 ≤ power then digits ++ List.replicate power.toNat '0' ++ ['.', '0']
    else if 0 ≤ lead then
      digits.take (lead.toNat + 1) ++ ['.'] ++ digits.drop (lead.toNat + 1)
    else ['0', '.'] ++ List.replicate (-lead - 1).toNat '0' ++ digits
  String.ofList (if negative then '-' :: body else body)

end FloatFormat

end Highlighter
